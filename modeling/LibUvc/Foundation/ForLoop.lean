import LibUvc.Foundation.Checked

/-!
# `for` loops with an index of any type

A `for` loop of C is an index, a test, a step and a body.  With an index of a machine type the test
and the step compute with wrap-around, so that a loop downwards over an unsigned index ends only
because of how its bound was chosen, and one that ends nowhere is easily written.

`Runs l i s n t` says that the loop `l`, with the index at `i` and the state `s`, ends in the state
`t` after exactly `n` rounds.  A loop runs in one way at most (`Runs.unique`), and if its index can
be read as the number of rounds that are left, it runs like the recursion over that number
(`runs_countdown`).
-/

set_option autoImplicit false

/-- `for (; test(i); i = step(i)) s = body(i, s);` -/
structure ForLoop (ι σ : Type) where
  test : ι → Bool
  step : ι → ι
  body : ι → σ → Checked σ

namespace ForLoop

open Checked

variable {ι σ : Type} {l : ForLoop ι σ}

/-- The loop ends in the last state after that many rounds. -/
inductive Runs (l : ForLoop ι σ) : ι → σ → Nat → σ → Prop where
  | done {i : ι} {s : σ} (h : l.test i = false) : Runs l i s 0 s
  | round {i : ι} {s u t : σ} {n : Nat} (h : l.test i = true) (hbody : l.body i s = .ok u)
      (hrest : Runs l (l.step i) u n t) : Runs l i s (n + 1) t

/-- The loop has one run at most. -/
theorem Runs.unique {i : ι} {s t u : σ} {n m : Nat} (h : l.Runs i s n t) (h' : l.Runs i s m u) :
    n = m ∧ t = u := by
  induction h generalizing m with
  | done htest =>
    cases h' with
    | done => exact ⟨rfl, rfl⟩
    | round htest' => exact absurd (htest.symm.trans htest') (by decide)
  | round htest hbody _ ih =>
    cases h' with
    | done htest' => exact absurd (htest'.symm.trans htest) (by decide)
    | round _ hbody' hrest' =>
      obtain rfl := Except.ok.inj (hbody.symm.trans hbody')
      obtain ⟨rfl, rfl⟩ := ih hrest'
      exact ⟨rfl, rfl⟩

/-- A recursion that does `f n`, `f (n - 1)`, …, `f 1`. -/
def countdown (f : Nat → σ → Checked σ) : Nat → σ → Checked σ
  | 0, s => return s
  | n + 1, s => do
    let s ← f (n + 1) s
    countdown f n s

/-- **A loop downwards.**  If `index k` is the index with `k` rounds to go, for all `k` up to the
bound, then the loop does what the recursion does, in as many rounds. -/
theorem runs_countdown {f : Nat → σ → Checked σ} (index : Nat → ι) (bound : Nat) {n : Nat}
    (hn : n ≤ bound) (hend : l.test (index 0) = false)
    (htest : ∀ k < bound, l.test (index (k + 1)) = true)
    (hstep : ∀ k < bound, l.step (index (k + 1)) = index k)
    (hbody : ∀ k < bound, ∀ s, l.body (index (k + 1)) s = f (k + 1) s) {s t : σ}
    (h : countdown f n s = .ok t) : l.Runs (index n) s n t := by
  induction n generalizing s with
  | zero =>
    obtain rfl := Except.ok.inj h
    exact .done hend
  | succ n ih =>
    obtain ⟨u, hu, hrest⟩ := bind_eq_ok.1 h
    refine .round (htest n hn) ((hbody n hn s).trans hu) ?_
    rw [hstep n hn]
    exact ih (by omega) hrest

end ForLoop
