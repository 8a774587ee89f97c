import Mathlib.Logic.Function.Basic
import Mathlib.Tactic.Common

/-!
# Processes and the files they hold open

Processes share open files: a fork copies the table of descriptors, an exec drops what is marked
close-on-exec, and the end of a process drops everything.  What matters to a program is often only
whether a file is still held by anybody, for that is when a reader of a pipe sees its end.

* `Table` is the processes there are, each with a role and its descriptors.  `set` and `drop` are
  the two ways to change it; `forkInto`, `close` and `exec` say what a process does to its own
  descriptors.
* `Holds t x` says that some process holds the file `x`.  `Shrinks` compares two tables: nothing is
  held in the second that was not held in the first.  Everything but opening a file shrinks, so that
  a file nobody holds is gone for good.
* `Everywhere` is for invariants that look at one process at a time.
-/

set_option autoImplicit false

namespace Processes

/-- A descriptor: the open file, and whether an exec closes it. -/
structure Fd (δ : Type) where
  file : δ
  cloexec : Bool
  deriving DecidableEq, Repr

/-- A process, as far as its descriptors go. -/
structure Process (ρ δ : Type) where
  role : ρ
  fds : Nat → Option (Fd δ)

variable {ρ δ : Type}

namespace Process

/-- The process holds a descriptor of the file. -/
def Has (p : Process ρ δ) (x : δ) : Prop := ∃ n f, p.fds n = some f ∧ f.file = x

/-- `close(n)`. -/
def close (p : Process ρ δ) (n : Nat) : Process ρ δ :=
  { p with fds := Function.update p.fds n none }

/-- A new descriptor. -/
def openAs (p : Process ρ δ) (n : Nat) (f : Fd δ) : Process ρ δ :=
  { p with fds := Function.update p.fds n (some f) }

/-- The process goes on in another role. -/
def become (p : Process ρ δ) (role : ρ) : Process ρ δ := { p with role := role }

/-- `execve`: what is marked is closed. -/
def exec (p : Process ρ δ) (role : ρ) : Process ρ δ where
  role := role
  fds n := (p.fds n).filter fun f => !f.cloexec

/-- A process that has ended and not been waited for. -/
def ended (role : ρ) : Process ρ δ := ⟨role, fun _ => none⟩

@[simp] theorem become_role (p : Process ρ δ) (role : ρ) : (p.become role).role = role := rfl

@[simp] theorem become_fds (p : Process ρ δ) (role : ρ) : (p.become role).fds = p.fds := rfl

@[simp] theorem close_role (p : Process ρ δ) (n : Nat) : (p.close n).role = p.role := rfl

theorem close_fds (p : Process ρ δ) (n m : Nat) :
    (p.close n).fds m = if m = n then none else p.fds m := Function.update_apply ..

@[simp] theorem openAs_role (p : Process ρ δ) (n : Nat) (f : Fd δ) :
    (p.openAs n f).role = p.role := rfl

theorem openAs_fds (p : Process ρ δ) (n m : Nat) (f : Fd δ) :
    (p.openAs n f).fds m = if m = n then some f else p.fds m := Function.update_apply ..

@[simp] theorem exec_role (p : Process ρ δ) (role : ρ) : (p.exec role).role = role := rfl

theorem exec_fds {p : Process ρ δ} {role : ρ} {n : Nat} {f : Fd δ} :
    (p.exec role).fds n = some f ↔ p.fds n = some f ∧ f.cloexec = false := by
  simp [exec, Option.filter_eq_some_iff]

@[simp] theorem ended_role (role : ρ) : (ended role : Process ρ δ).role = role := rfl

@[simp] theorem ended_fds (role : ρ) (n : Nat) : (ended role : Process ρ δ).fds n = none := rfl

/-- Every descriptor of `p` is one of `q`. -/
def Within (p q : Process ρ δ) : Prop := ∀ n f, p.fds n = some f → q.fds n = some f

theorem become_within (p : Process ρ δ) (role : ρ) : (p.become role).Within p := fun _ _ hn => hn

theorem close_within (p : Process ρ δ) (n : Nat) : (p.close n).Within p := by
  intro m f hm
  rw [close_fds] at hm
  split at hm
  · cases hm
  · exact hm

theorem exec_within (p : Process ρ δ) (role : ρ) : (p.exec role).Within p :=
  fun _ _ hn => (exec_fds.1 hn).1

theorem ended_within (role : ρ) (q : Process ρ δ) : (ended role).Within q :=
  fun _ _ hn => by simp at hn

theorem Within.has {p q : Process ρ δ} (h : p.Within q) {x : δ} (hp : p.Has x) : q.Has x := by
  obtain ⟨n, f, hn, hf⟩ := hp
  exact ⟨n, f, h n f hn, hf⟩

@[simp] theorem become_has {p : Process ρ δ} {role : ρ} {x : δ} : (p.become role).Has x ↔ p.Has x :=
  Iff.rfl

theorem openAs_has {p : Process ρ δ} {n : Nat} {f : Fd δ} {x : δ} (hn : p.fds n = none) :
    (p.openAs n f).Has x ↔ f.file = x ∨ p.Has x := by
  constructor
  · rintro ⟨m, g, hm, hg⟩
    rw [openAs_fds] at hm
    split at hm
    · obtain rfl := Option.some.inj hm
      exact .inl hg
    · exact .inr ⟨m, g, hm, hg⟩
  · rintro (hf | ⟨m, g, hm, hg⟩)
    · exact ⟨n, f, by rw [openAs_fds, if_pos rfl], hf⟩
    · have hmn : m ≠ n := by
        rintro rfl
        exact absurd hm (by simp [hn])
      exact ⟨m, g, by rw [openAs_fds, if_neg hmn, hm], hg⟩

/-- No other descriptor refers to the file. -/
def OnlyAt (p : Process ρ δ) (x : δ) (m : Nat) : Prop :=
  ∀ n f, p.fds n = some f → f.file = x → n = m

theorem OnlyAt.close_has {p : Process ρ δ} {x : δ} {m : Nat} (h : p.OnlyAt x m) {n : Nat} :
    (p.close n).Has x ↔ p.Has x ∧ n ≠ m := by
  constructor
  · rintro ⟨k, f, hk, hf⟩
    rw [close_fds] at hk
    split at hk
    · cases hk
    · rename_i hkn
      exact ⟨⟨k, f, hk, hf⟩, fun hnm => hkn ((h k f hk hf).trans hnm.symm)⟩
  · rintro ⟨⟨k, f, hk, hf⟩, hnm⟩
    have hkn : k ≠ n := fun hkn => hnm (hkn ▸ h k f hk hf)
    exact ⟨k, f, by rw [close_fds, if_neg hkn, hk], hf⟩

theorem Within.trans {p q r : Process ρ δ} (h : p.Within q) (h' : q.Within r) : p.Within r :=
  fun n f hn => h' n f (h n f hn)

end Process

/-! ## Tables -/

/-- The processes there are, by their ids. -/
abbrev Table (ρ δ : Type) := Nat → Option (Process ρ δ)

namespace Table

/-- The process of this id, from now on. -/
def set (t : Table ρ δ) (pid : Nat) (p : Process ρ δ) : Table ρ δ := Function.update t pid (some p)

/-- No process of this id any more. -/
def drop (t : Table ρ δ) (pid : Nat) : Table ρ δ := Function.update t pid none

theorem set_apply (t : Table ρ δ) (pid q : Nat) (p : Process ρ δ) :
    t.set pid p q = if q = pid then some p else t q := Function.update_apply ..

@[simp] theorem set_self (t : Table ρ δ) (pid : Nat) (p : Process ρ δ) :
    t.set pid p pid = some p := Function.update_self ..

theorem set_of_ne (t : Table ρ δ) {pid q : Nat} (p : Process ρ δ) (h : q ≠ pid) :
    t.set pid p q = t q := Function.update_of_ne h ..

@[simp] theorem set_set (t : Table ρ δ) (pid : Nat) (p q : Process ρ δ) :
    (t.set pid p).set pid q = t.set pid q := Function.update_idem ..

@[simp] theorem drop_set (t : Table ρ δ) (pid : Nat) (p : Process ρ δ) :
    (t.set pid p).drop pid = t.drop pid := Function.update_idem ..

theorem set_eq_self {t : Table ρ δ} {pid : Nat} {p : Process ρ δ} (h : t pid = some p) :
    t.set pid p = t := by
  rw [set, ← h, Function.update_eq_self]

theorem drop_apply (t : Table ρ δ) (pid q : Nat) :
    t.drop pid q = if q = pid then none else t q := Function.update_apply ..

@[simp] theorem drop_self (t : Table ρ δ) (pid : Nat) : t.drop pid pid = none :=
  Function.update_self ..

theorem drop_of_ne (t : Table ρ δ) {pid q : Nat} (h : q ≠ pid) : t.drop pid q = t q :=
  Function.update_of_ne h ..

end Table

/-! ## What is held -/

/-- Some process holds the file. -/
def Holds (t : Table ρ δ) (x : δ) : Prop := ∃ pid p, t pid = some p ∧ p.Has x

/-- Nothing is held in `u` that is not held in `t`. -/
def Shrinks (t u : Table ρ δ) : Prop := ∀ x, Holds u x → Holds t x

theorem Shrinks.refl (t : Table ρ δ) : Shrinks t t := fun _ h => h

theorem Shrinks.trans {t u v : Table ρ δ} (h : Shrinks t u) (h' : Shrinks u v) : Shrinks t v :=
  fun x hx => h x (h' x hx)

/-- A process that goes on with no more than somebody had. -/
theorem shrinks_set {t : Table ρ δ} {pid from_ : Nat} {p q : Process ρ δ}
    (h : t from_ = some q) (hpq : p.Within q) : Shrinks t (t.set pid p) := by
  rintro x ⟨r, p', hr, hx⟩
  rw [Table.set_apply] at hr
  split at hr
  · obtain rfl := Option.some.inj hr
    exact ⟨from_, q, h, hpq.has hx⟩
  · exact ⟨r, p', hr, hx⟩

theorem shrinks_drop (t : Table ρ δ) (pid : Nat) : Shrinks t (t.drop pid) := by
  rintro x ⟨r, p, hr, hx⟩
  rw [Table.drop_apply] at hr
  split at hr
  · cases hr
  · exact ⟨r, p, hr, hx⟩

/-- Opening one file does not make others held. -/
theorem holds_set_openAs {t : Table ρ δ} {pid n : Nat} {p : Process ρ δ} {f : Fd δ} {x : δ}
    (hp : t pid = some p) (hx : f.file ≠ x) (h : Holds (t.set pid (p.openAs n f)) x) :
    Holds t x := by
  obtain ⟨r, q, hr, m, g, hm, hg⟩ := h
  rw [Table.set_apply] at hr
  split at hr
  · obtain rfl := Option.some.inj hr
    rw [Process.openAs_fds] at hm
    split at hm
    · obtain rfl := Option.some.inj hm
      exact absurd hg hx
    · exact ⟨pid, p, hp, m, g, hm, hg⟩
  · exact ⟨r, q, hr, m, g, hm, hg⟩

/-! ## One process at a time -/

/-- `P` holds of every process. -/
def Everywhere (t : Table ρ δ) (P : Nat → Process ρ δ → Prop) : Prop :=
  ∀ pid p, t pid = some p → P pid p

section Everywhere

variable {t : Table ρ δ} {P Q : Nat → Process ρ δ → Prop} {pid : Nat} {p : Process ρ δ}

theorem Everywhere.set (h : Everywhere t P) (hp : P pid p) : Everywhere (t.set pid p) P := by
  intro q r hr
  rw [Table.set_apply] at hr
  split at hr
  · rename_i hq
    obtain rfl := Option.some.inj hr
    exact hq ▸ hp
  · exact h q r hr

theorem Everywhere.drop (h : Everywhere t P) : Everywhere (t.drop pid) P := by
  intro q r hr
  rw [Table.drop_apply] at hr
  split at hr
  · cases hr
  · exact h q r hr

theorem Everywhere.imp (h : Everywhere t P) (hPQ : ∀ pid p, P pid p → Q pid p) :
    Everywhere t Q := fun q r hr => hPQ q r (h q r hr)

end Everywhere

end Processes
