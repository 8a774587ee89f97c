import Mathlib.Logic.Relation

/-!
# Runs of a deterministic machine with an environment

A machine is a partial function `step : σ → α → Option σ`: the label `α` carries every choice the
machine does not make itself (which thread moves, what a call answers, what a device sends), so the
function says all there is to say about one step and a run is a sequence of labels.

`ReachableVia step guard s t` says that `t` can be reached from `s` through steps that all meet
`guard`; `Reachable` is the case with no guard.  A safety property is then proved by
`ReachableVia.invariant`: it holds at the start and every guarded step keeps it.

`exec` runs a list of labels, `exec_log` says what a run adds to a log, and `exec_rel` compares two
machines on the same list: a relation that every step keeps is kept by the whole run.
-/

set_option autoImplicit false

namespace Transition

universe u v w

variable {σ : Type u} {α : Type v}

/-- `t` is reached from `s` by steps that all meet `guard`. -/
def ReachableVia (step : σ → α → Option σ) (guard : σ → α → Prop) : σ → σ → Prop :=
  Relation.ReflTransGen fun s t => ∃ a, guard s a ∧ step s a = some t

/-- `t` is reached from `s`. -/
def Reachable (step : σ → α → Option σ) : σ → σ → Prop :=
  ReachableVia step fun _ _ => True

variable {step : σ → α → Option σ} {guard : σ → α → Prop}

theorem ReachableVia.refl (s : σ) : ReachableVia step guard s s := Relation.ReflTransGen.refl

theorem ReachableVia.tail {s t u : σ} {a : α} (h : ReachableVia step guard s t) (hg : guard t a)
    (hs : step t a = some u) : ReachableVia step guard s u :=
  Relation.ReflTransGen.tail h ⟨a, hg, hs⟩

/-- **The invariant rule.**  What holds at the start and is kept by every guarded step holds in
every state reached by guarded steps. -/
theorem ReachableVia.invariant {I : σ → Prop} {s t : σ} (h : ReachableVia step guard s t)
    (h0 : I s) (hstep : ∀ u a w, I u → guard u a → step u a = some w → I w) : I t := by
  induction h with
  | refl => exact h0
  | tail _ hlast ih =>
    obtain ⟨a, hg, hs⟩ := hlast
    exact hstep _ a _ ih hg hs

theorem Reachable.refl (s : σ) : Reachable step s s := ReachableVia.refl s

theorem Reachable.tail {s t u : σ} {a : α} (h : Reachable step s t) (hs : step t a = some u) :
    Reachable step s u := ReachableVia.tail h trivial hs

theorem Reachable.invariant {I : σ → Prop} {s t : σ} (h : Reachable step s t) (h0 : I s)
    (hstep : ∀ u a w, I u → step u a = some w → I w) : I t :=
  ReachableVia.invariant h h0 fun u a w hu _ hs => hstep u a w hu hs

/-- The state a list of labels leads to, if every step meets the guard. -/
def exec (step : σ → α → Option σ) (guard : σ → α → Prop) [∀ s a, Decidable (guard s a)] :
    σ → List α → Option σ
  | s, [] => some s
  | s, a :: as => if guard s a then (step s a).bind fun t => exec step guard t as else none

/-- What a list of labels leads to is reachable. -/
theorem reachableVia_of_exec [∀ s a, Decidable (guard s a)] {s t : σ} (as : List α)
    (h : exec step guard s as = some t) : ReachableVia step guard s t := by
  induction as generalizing s with
  | nil =>
    rw [exec, Option.some_inj] at h
    exact h ▸ ReachableVia.refl s
  | cons a as ih =>
    rw [exec] at h
    split at h
    · rename_i hg
      obtain ⟨u, hu, ht⟩ := Option.bind_eq_some_iff.1 h
      exact Relation.ReflTransGen.head ⟨a, hg, hu⟩ (ih ht)
    · cases h

theorem reachable_of_exec {s t : σ} (as : List α)
    (h : exec step (fun _ _ => True) s as = some t) : Reachable step s t :=
  reachableVia_of_exec as h

/-- A log to which every step adds what its label says. -/
theorem exec_log [∀ s a, Decidable (guard s a)] {β : Type w} {log : σ → List β}
    {out : α → List β} (hstep : ∀ s a t, step s a = some t → log t = log s ++ out a) (as : List α)
    {s t : σ} (h : exec step guard s as = some t) : log t = log s ++ as.flatMap out := by
  induction as generalizing s with
  | nil =>
    rw [exec, Option.some_inj] at h
    rw [h, List.flatMap_nil, List.append_nil]
  | cons a as ih =>
    rw [exec] at h
    split at h
    · obtain ⟨u, hu, ht⟩ := Option.bind_eq_some_iff.1 h
      rw [ih ht, hstep s a u hu, List.flatMap_cons, List.append_assoc]
    · cases h

/-- What is done after two related steps is related, if it is so whenever both are taken. -/
theorem rel_bind {σ' : Type u} {τ τ' : Type w} {R : σ → τ → Prop} {S : σ' → τ' → Prop}
    {x : Option σ} {y : Option τ} {f : σ → Option σ'} {g : τ → Option τ'} (h : Option.Rel R x y)
    (hfg : ∀ s t, x = some s → y = some t → R s t → Option.Rel S (f s) (g t)) :
    Option.Rel S (x.bind f) (y.bind g) := by
  cases h with
  | some hst => exact hfg _ _ rfl rfl hst
  | none => exact .none

/-- **Two machines side by side.**  If related states answer every label in the same way, by a step
to related states or by none, then so they do for a list of labels. -/
theorem exec_rel {τ : Type w} {step' : τ → α → Option τ} {may : α → Prop} [DecidablePred may]
    {R : σ → τ → Prop} (hstep : ∀ s t a, R s t → may a → Option.Rel R (step s a) (step' t a))
    (as : List α) {s : σ} {t : τ} (h : R s t) :
    Option.Rel R (exec step (fun _ a => may a) s as) (exec step' (fun _ a => may a) t as) := by
  induction as generalizing s t with
  | nil => exact .some h
  | cons a as ih =>
    rw [exec, exec]
    split
    · rename_i ha
      exact rel_bind (hstep s t a h ha) fun _ _ _ _ hst => ih hst
    · exact .none

end Transition
