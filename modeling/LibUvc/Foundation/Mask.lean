import Mathlib.Tactic.Common

/-!
# Bit masks as sets

A machine word used as a set of small numbers: `has`, `insert` and `erase` are the three idioms C
code uses on it, written as C writes them, and the lemmas say that they are membership, insertion
and removal for numbers below the width of the word.  Past the width a shift leaves no bit, so
nothing is ever a member there.
-/

set_option autoImplicit false

namespace Mask

variable {w : Nat}

/-- `m & (1 << i)`. -/
def has (m : BitVec w) (i : Nat) : Bool := (m &&& (1#w <<< i)) != 0#w

/-- `m | (1 << i)`. -/
def insert (m : BitVec w) (i : Nat) : BitVec w := m ||| (1#w <<< i)

/-- `m & ~(1 << i)`. -/
def erase (m : BitVec w) (i : Nat) : BitVec w := m &&& ~~~(1#w <<< i)

theorem getLsbD_bit (i j : Nat) : (1#w <<< i).getLsbD j = (decide (j < w) && decide (j = i)) := by
  rw [BitVec.getLsbD_shiftLeft, BitVec.getLsbD_one]
  by_cases hj : j < w
  · by_cases hji : j = i
    · subst hji
      simp [hj]
      omega
    · simp only [hj, hji, decide_true, decide_false, Bool.and_false, Bool.true_and]
      rcases Nat.lt_or_ge j i with h | h
      · simp [h]
      · simp
        omega
  · simp [hj]

theorem has_eq (m : BitVec w) (i : Nat) : has m i = m.getLsbD i := by
  rw [has, Bool.eq_iff_iff, bne_iff_ne]
  constructor
  · intro h
    by_contra hm
    refine h (BitVec.eq_of_getLsbD_eq fun j _ => ?_)
    rw [BitVec.getLsbD_and, getLsbD_bit, BitVec.getLsbD_zero]
    by_cases hji : j = i
    · subst hji
      simp [hm]
    · simp [hji]
  · intro hm h
    have hi : i < w := by
      by_contra hi
      rw [BitVec.getLsbD_of_ge _ _ (by omega)] at hm
      exact absurd hm (by simp)
    have hbit : (m &&& (1#w <<< i)).getLsbD i = (0#w).getLsbD i := by rw [h]
    rw [BitVec.getLsbD_and, getLsbD_bit, hm, BitVec.getLsbD_zero] at hbit
    simp [hi] at hbit

@[simp] theorem has_zero (i : Nat) : has (0#w) i = false := by
  rw [has_eq, BitVec.getLsbD_zero]

theorem has_insert (m : BitVec w) (i j : Nat) :
    has (insert m i) j = (has m j || (decide (j < w) && decide (j = i))) := by
  rw [has_eq, has_eq, insert, BitVec.getLsbD_or, getLsbD_bit]

theorem has_erase (m : BitVec w) (i j : Nat) :
    has (erase m i) j = (has m j && !decide (j = i)) := by
  rw [has_eq, has_eq, erase, BitVec.getLsbD_and, BitVec.getLsbD_not, getLsbD_bit]
  by_cases hj : j < w
  · simp [hj]
  · rw [BitVec.getLsbD_of_ge m j (by omega)]
    simp

theorem has_insert_of_ne {m : BitVec w} {i j : Nat} (h : j ≠ i) :
    has (insert m i) j = has m j := by
  simp [has_insert, h]

theorem has_erase_of_ne {m : BitVec w} {i j : Nat} (h : j ≠ i) : has (erase m i) j = has m j := by
  simp [has_erase, h]

@[simp] theorem has_erase_self (m : BitVec w) (i : Nat) : has (erase m i) i = false := by
  simp [has_erase]

end Mask
