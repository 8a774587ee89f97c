import Mathlib.Data.List.Chain
import LibUvc.Foundation.Checked

/-!
# A record that is used again and again

Some records are filled, handed out, and filled again without ever being cleared.  What they hold
after an operation then depends on all the operations before it, unless every field is set each
time, and the law one wants is that it does not.

* `trace f as s` is the states after each of the operations `as`, for code that may fault;
  `trace_ok` is the invariant rule for it.
* `rounds op c as` is the same for a plain function.  `trace_view` says that code which does to some
  view of the record what `op` does has the rounds of `op` as its views, so that a question about
  the code becomes one about a list.
* `overwrite` is the simplest way to get it wrong: a field that is set only when there is something
  to set it to.  `rounds_overwrite_iff` says when nobody notices.
-/

set_option autoImplicit false

namespace Rounds

open Checked

variable {σ α β γ : Type}

/-- The states after each of a sequence of operations. -/
def trace (f : α → σ → Checked σ) : List α → σ → Checked (List σ)
  | [], _ => return []
  | a :: as, s => do
    let t ← f a s
    let rest ← trace f as t
    return t :: rest

/-- The values after each of a sequence of operations. -/
def rounds (op : γ → α → γ) : γ → List α → List γ
  | _, [] => []
  | c, a :: as => op c a :: rounds op (op c a) as

theorem rounds_map {op : γ → β → γ} {g : α → β} {c : γ} {as : List α} :
    rounds op c (as.map g) = rounds (fun c a => op c (g a)) c as := by
  induction as generalizing c with
  | nil => rfl
  | cons a as ih => rw [List.map_cons, rounds, rounds, ih]

/-- **Views.**  Operations that keep an invariant, and do to the view of a state what `op` does, end
well, and the views of the states are the rounds of `op`. -/
theorem trace_view {f : α → σ → Checked σ} {I : σ → Prop} (view : σ → γ) (op : γ → α → γ)
    {as : List α}
    (hstep : ∀ a ∈ as, ∀ s, I s → ∃ t, f a s = .ok t ∧ I t ∧ view t = op (view s) a) {s : σ}
    (hs : I s) :
    ∃ ts, trace f as s = .ok ts ∧ (∀ t ∈ ts, I t) ∧ ts.map view = rounds op (view s) as := by
  induction as generalizing s with
  | nil => exact ⟨[], rfl, fun t ht => absurd ht (by simp), rfl⟩
  | cons a as ih =>
    obtain ⟨t, ht, hIt, hview⟩ := hstep a (by simp) s hs
    obtain ⟨ts, hts, hIts, hviews⟩ := ih (fun b hb => hstep b (List.mem_cons_of_mem a hb)) hIt
    refine ⟨t :: ts, ?_, ?_, ?_⟩
    · rw [trace, ht, ok_bind, hts]
      rfl
    · exact List.forall_mem_cons.2 ⟨hIt, hIts⟩
    · rw [List.map_cons, rounds, hview, hviews, hview]

/-- **Invariants.** -/
theorem trace_ok {f : α → σ → Checked σ} {I : σ → Prop} {as : List α}
    (hstep : ∀ a ∈ as, ∀ s, I s → ∃ t, f a s = .ok t ∧ I t) {s : σ} (hs : I s) :
    ∃ ts, trace f as s = .ok ts ∧ ∀ t ∈ ts, I t := by
  have hunit : ∀ a ∈ as, ∀ s, I s → ∃ t, f a s = .ok t ∧ I t ∧ () = () := by
    intro a ha s hs
    obtain ⟨t, ht, hI⟩ := hstep a ha s hs
    exact ⟨t, ht, hI, rfl⟩
  obtain ⟨ts, hts, hI, -⟩ := trace_view (fun _ => ()) (fun _ _ => ()) hunit hs
  exact ⟨ts, hts, hI⟩

/-- What was there stays, unless there is something new. -/
def overwrite (old new : List β) : List β := if new = [] then old else new

theorem overwrite_eq_iff {old new : List β} :
    overwrite old new = new ↔ (old ≠ [] → new ≠ []) := by
  rw [overwrite]
  split
  · rename_i h
    rw [h]
    exact ⟨fun heq hne => absurd heq hne, fun himp => not_not.1 fun hne => himp hne rfl⟩
  · rename_i h
    exact iff_of_true rfl fun _ => h

/-- What is there is what came last, each time, if and only if nothing never follows something. -/
theorem rounds_overwrite_iff {old : List β} {news : List (List β)} :
    rounds overwrite old news = news ↔
      (old :: news).IsChain fun a b => a ≠ [] → b ≠ [] := by
  induction news generalizing old with
  | nil => exact iff_of_true rfl (.singleton _)
  | cons new rest ih =>
    rw [rounds, List.cons.injEq, List.isChain_cons_cons, overwrite_eq_iff]
    refine and_congr_right fun h => ?_
    rw [overwrite_eq_iff.2 h]
    exact ih

end Rounds
