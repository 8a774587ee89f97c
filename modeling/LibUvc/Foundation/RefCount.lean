import Mathlib.Data.List.Basic
import Mathlib.Data.List.Count
import Mathlib.Logic.Function.Basic
import Mathlib.Tactic.Common

/-!
# Reference counts

Objects that count the references to them and are freed with the last one, and that hold, for every
reference to themselves, a reference to something else, their target.  Touching an object that is
freed is a fault, as is giving back a reference to a target that is not held.

`Owned h refs` says that `refs` are all the references there are: each object counts those to
itself, the objects that are left are the ones in `refs`, and the targets are held as often.
Creating an object, `retain` and `release` keep this with one reference more or less, so whoever
gives back only what it has never faults, and has nothing left when it has given everything back.

Addresses are not used twice, so an object that was freed stays known as such.
-/

set_option autoImplicit false

namespace RefCount

inductive Fault where
  | useAfterFree
  /-- A target is given back that is not held. -/
  | notHeld
  deriving DecidableEq, Repr

structure Object (κ : Type) where
  target : κ
  ref : Int
  freed : Bool := false
  deriving DecidableEq, Repr

/-- The objects at the addresses below `next`, and how often each target is held. -/
structure Heap (κ : Type) where
  objects : Nat → Object κ
  next : Nat
  outer : κ → Nat

variable {κ : Type}

/-- The object is there. -/
def Heap.Alive (h : Heap κ) (d : Nat) : Prop := d < h.next ∧ (h.objects d).freed = false

instance (h : Heap κ) (d : Nat) : Decidable (h.Alive d) := inferInstanceAs (Decidable (_ ∧ _))

section Operations

variable [DecidableEq κ]

/-- One reference more. -/
def retain (d : Nat) (h : Heap κ) : Except Fault (Heap κ) :=
  if h.Alive d then
    let o := h.objects d
    .ok { h with
      objects := Function.update h.objects d { o with ref := o.ref + 1 }
      outer := Function.update h.outer o.target (h.outer o.target + 1) }
  else .error .useAfterFree

/-- One reference less. -/
def release (d : Nat) (h : Heap κ) : Except Fault (Heap κ) :=
  if h.Alive d then
    let o := h.objects d
    if h.outer o.target = 0 then .error .notHeld
    else
      .ok { h with
        objects := Function.update h.objects d
          { o with ref := o.ref - 1, freed := decide (o.ref - 1 = 0) }
        outer := Function.update h.outer o.target (h.outer o.target - 1) }
  else .error .useAfterFree

/-- A new object, with the first reference to it. -/
def create (k : κ) (h : Heap κ) : Except Fault (Nat × Heap κ) := do
  let h' ← retain h.next { h with
    objects := Function.update h.objects h.next { target := k, ref := 0 }
    next := h.next + 1 }
  return (h.next, h')

def releaseAll : List Nat → Heap κ → Except Fault (Heap κ)
  | [], h => .ok h
  | d :: ds, h => do
    let h ← release d h
    releaseAll ds h

end Operations

/-- What an object is for never changes. -/
structure Extends (h h' : Heap κ) : Prop where
  next : h.next ≤ h'.next
  target : ∀ d, d < h.next → (h'.objects d).target = (h.objects d).target

theorem Extends.refl (h : Heap κ) : Extends h h := ⟨Nat.le_refl _, fun _ _ => rfl⟩

theorem Extends.trans {h h' h'' : Heap κ} (h₁ : Extends h h') (h₂ : Extends h' h'') :
    Extends h h'' :=
  ⟨Nat.le_trans h₁.next h₂.next, fun d hd =>
    (h₂.target d (Nat.lt_of_lt_of_le hd h₁.next)).trans (h₁.target d hd)⟩

/-- An object is changed, but not what it is for. -/
theorem extends_update {h : Heap κ} (d : Nat) {o : Object κ} (ho : o.target = (h.objects d).target)
    (outer : κ → Nat) :
    Extends h { h with objects := Function.update h.objects d o, outer := outer } := by
  refine ⟨Nat.le_refl _, fun b _ => ?_⟩
  by_cases hb : b = d
  · rw [hb, ← ho]
    exact congrArg Object.target (Function.update_self ..)
  · exact congrArg Object.target (Function.update_of_ne hb ..)

variable [DecidableEq κ]

/-- `refs` are all references. -/
structure Owned (h : Heap κ) (refs : List Nat) : Prop where
  bound : ∀ d ∈ refs, d < h.next
  ref : ∀ d, d < h.next → (h.objects d).ref = (refs.count d : Int)
  freed : ∀ d, d < h.next → ((h.objects d).freed = true ↔ d ∉ refs)
  outer : ∀ k, h.outer k = refs.countP fun d => (h.objects d).target = k

variable {h h' : Heap κ} {refs refs' : List Nat} {d : Nat}

theorem Owned.perm (ho : Owned h refs) (hp : refs.Perm refs') : Owned h refs' where
  bound d hd := ho.bound d (hp.mem_iff.2 hd)
  ref d hd := by rw [ho.ref d hd, hp.count_eq]
  freed d hd := by rw [ho.freed d hd, hp.mem_iff]
  outer k := by rw [ho.outer k, hp.countP_eq]

theorem Owned.alive (ho : Owned h refs) (hd : d ∈ refs) : h.Alive d :=
  ⟨ho.bound d hd, Bool.eq_false_iff.2 fun hf => (ho.freed d (ho.bound d hd)).1 hf hd⟩

/-- A change that keeps the targets keeps how often each is counted. -/
theorem countP_target (hx : Extends h h') (hb : ∀ d ∈ refs, d < h.next) (k : κ) :
    refs.countP (fun d => (h'.objects d).target = k) =
      refs.countP fun d => (h.objects d).target = k :=
  List.countP_congr fun d hd => by rw [hx.target d (hb d hd)]

/-- **An object is changed** together with the references to it. -/
theorem Owned.update (ho : Owned h refs) {o : Object κ} {n : Nat}
    (htarget : o.target = (h.objects d).target) (hbound : ∀ b ∈ refs', b < h.next)
    (hothers : ∀ b, b ≠ d → refs'.count b = refs.count b) (href : o.ref = (refs'.count d : Int))
    (hfreed : o.freed = true ↔ d ∉ refs')
    (hn : n = refs'.countP fun b => (h.objects b).target = (h.objects d).target)
    (houter : ∀ k, k ≠ (h.objects d).target → (refs'.countP fun b => (h.objects b).target = k) =
      refs.countP fun b => (h.objects b).target = k) :
    Owned { h with
      objects := Function.update h.objects d o
      outer := Function.update h.outer (h.objects d).target n } refs' := by
  have hx := extends_update (h := h) d htarget (Function.update h.outer (h.objects d).target n)
  refine ⟨hbound, fun b hb => ?_, fun b hb => ?_, fun k => ?_⟩
  · by_cases hbd : b = d
    · rw [hbd, ← href]
      exact congrArg Object.ref (Function.update_self ..)
    · rw [hothers b hbd, ← ho.ref b hb]
      exact congrArg Object.ref (Function.update_of_ne hbd ..)
  · by_cases hbd : b = d
    · rw [hbd, ← hfreed]
      exact Iff.of_eq (congrArg (Object.freed · = true) (Function.update_self ..))
    · have hmem : b ∈ refs' ↔ b ∈ refs := by
        rw [← List.count_pos_iff, ← List.count_pos_iff, hothers b hbd]
      rw [hmem, ← ho.freed b hb]
      exact Iff.of_eq (congrArg (Object.freed · = true) (Function.update_of_ne hbd ..))
  · rw [countP_target hx hbound]
    by_cases hk : k = (h.objects d).target
    · subst hk
      rw [← hn]
      exact Function.update_self ..
    · rw [houter k hk, ← ho.outer k]
      exact Function.update_of_ne hk ..

/-- **One reference more.** -/
theorem retain_ok (ho : Owned h refs) (hd : d ∈ refs) :
    ∃ h', retain d h = .ok h' ∧ Extends h h' ∧ Owned h' (d :: refs) := by
  have hbound := ho.bound d hd
  refine ⟨_, if_pos (ho.alive hd), ?_, ?_⟩
  · exact extends_update d (by rfl) _
  refine ho.update rfl ?_ ?_ ?_ ?_ ?_ ?_
  · exact List.forall_mem_cons.2 ⟨hbound, ho.bound⟩
  · exact fun b hb => List.count_cons_of_ne (Ne.symm hb)
  · show (h.objects d).ref + 1 = _
    rw [ho.ref d hbound, List.count_cons_self]
    rfl
  · show (h.objects d).freed = true ↔ _
    rw [ho.freed d hbound]
    exact iff_of_false (fun hnot => hnot hd) fun hnot => hnot List.mem_cons_self
  · rw [List.countP_cons_of_pos (by simp), ho.outer]
  · exact fun k hk => List.countP_cons_of_neg (by simpa using Ne.symm hk)

/-- **One reference less.** -/
theorem release_ok (ho : Owned h (d :: refs)) :
    ∃ h', release d h = .ok h' ∧ Extends h h' ∧ Owned h' refs := by
  have hd : d ∈ d :: refs := List.mem_cons_self
  have hbound := ho.bound d hd
  have hheld : h.outer (h.objects d).target =
      (refs.countP fun b => (h.objects b).target = (h.objects d).target) + 1 := by
    rw [ho.outer, List.countP_cons_of_pos (by simp)]
  have hcount : (h.objects d).ref - 1 = (refs.count d : Int) := by
    rw [ho.ref d hbound, List.count_cons_self]
    push_cast
    omega
  have hheldPos : h.outer (h.objects d).target ≠ 0 := by
    rw [hheld]
    exact Nat.succ_ne_zero _
  refine ⟨_, (if_pos (ho.alive hd)).trans (if_neg hheldPos), ?_, ?_⟩
  · exact extends_update d (by rfl) _
  refine ho.update rfl ?_ ?_ ?_ ?_ ?_ ?_
  · exact fun b hb => ho.bound b (List.mem_cons_of_mem _ hb)
  · exact fun b hb => (List.count_cons_of_ne (Ne.symm hb)).symm
  · exact hcount
  · rw [decide_eq_true_iff, hcount, Int.natCast_eq_zero, List.count_eq_zero]
  · rw [hheld, Nat.add_sub_cancel]
  · exact fun k hk => (List.countP_cons_of_neg (by simpa using Ne.symm hk)).symm

/-- **A new object**, with one reference. -/
theorem create_ok (ho : Owned h refs) (k : κ) :
    ∃ h', create k h = .ok (h.next, h') ∧ Extends h h' ∧ Owned h' (h.next :: refs) ∧
      h.next < h'.next ∧ (h'.objects h.next).target = k := by
  let h₀ : Heap κ := { h with
    objects := Function.update h.objects h.next { target := k, ref := 0 }
    next := h.next + 1 }
  have hnew : h₀.objects h.next = { target := k, ref := 0 } := Function.update_self ..
  have hold : ∀ b, b ≠ h.next → h₀.objects b = h.objects b := fun b hb =>
    Function.update_of_ne hb ..
  have halive : h₀.Alive h.next := ⟨Nat.lt_succ_self _, by rw [hnew]⟩
  obtain ⟨h₁, hrun, hself, hothers, hnext, houter⟩ : ∃ h₁, retain h.next h₀ = .ok h₁ ∧
      h₁.objects h.next = { target := k, ref := 1 } ∧
      (∀ b, b ≠ h.next → h₁.objects b = h.objects b) ∧ h₁.next = h.next + 1 ∧
      h₁.outer = Function.update h.outer k (h.outer k + 1) := by
    refine ⟨_, if_pos halive, ?_, fun b hb => ?_, rfl, ?_⟩
    · refine (Function.update_self ..).trans ?_
      rw [hnew]
      rfl
    · exact (Function.update_of_ne hb ..).trans (hold b hb)
    · show Function.update h.outer (h₀.objects h.next).target
        (h.outer (h₀.objects h.next).target + 1) = _
      rw [hnew]
  have hnot : h.next ∉ refs := fun hmem => Nat.lt_irrefl _ (ho.bound _ hmem)
  have hx : Extends h h₁ := by
    refine ⟨hnext ▸ Nat.le_succ _, fun b hb => ?_⟩
    rw [hothers b (Nat.ne_of_lt hb)]
  refine ⟨h₁, ?_, hx, ⟨?_, fun b hb => ?_, fun b hb => ?_, fun k' => ?_⟩,
    hnext ▸ Nat.lt_succ_self _, by rw [hself]⟩
  · show (retain h.next h₀ >>= _) = _
    rw [hrun]
    rfl
  · rw [hnext]
    exact List.forall_mem_cons.2 ⟨Nat.lt_succ_self _, fun b hb => Nat.lt_succ_of_lt (ho.bound b hb)⟩
  · by_cases hbn : b = h.next
    · rw [hbn, hself, List.count_cons_self, List.count_eq_zero.2 hnot]
      rfl
    · rw [hothers b hbn, List.count_cons_of_ne (Ne.symm hbn)]
      exact ho.ref b (by omega)
  · by_cases hbn : b = h.next
    · rw [hbn, hself]
      simp
    · rw [hothers b hbn, ho.freed b (by omega), List.mem_cons, not_or]
      exact ⟨fun hb => ⟨hbn, hb⟩, And.right⟩
  · rw [houter, List.countP_cons, countP_target hx ho.bound, hself, ← ho.outer k']
    by_cases hk : k' = k
    · rw [hk, Function.update_self, if_pos (by simp)]
    · rw [Function.update_of_ne hk, if_neg (by simpa using Ne.symm hk), Nat.add_zero]

theorem releaseAll_ok (ds : List Nat) : ∀ {h : Heap κ}, Owned h (ds ++ refs) →
    ∃ h', releaseAll ds h = .ok h' ∧ Extends h h' ∧ Owned h' refs := by
  induction ds with
  | nil => exact fun {h} ho => ⟨h, rfl, Extends.refl h, ho⟩
  | cons d ds ih =>
    intro h ho
    obtain ⟨h₁, hrun₁, hx₁, ho₁⟩ := release_ok ho
    obtain ⟨h₂, hrun₂, hx₂, ho₂⟩ := ih ho₁
    refine ⟨h₂, ?_, hx₁.trans hx₂, ho₂⟩
    rw [releaseAll, hrun₁]
    exact hrun₂

/-- **Nothing is left when everything has been given back.** -/
theorem Owned.nothing (ho : Owned h []) :
    (∀ d, d < h.next → (h.objects d).freed = true) ∧ ∀ k, h.outer k = 0 :=
  ⟨fun d hd => (ho.freed d hd).2 List.not_mem_nil, fun k => ho.outer k⟩

end RefCount
