import LibUvc.Foundation.Checked
import Mathlib.Data.Nat.Digits.Defs
import Mathlib.Tactic.NormNum

/-!
# Integers as C computes with them

C computes with integers of many types and converts between them without being asked: an operand
narrower than `int` is promoted to `int`, a shift or a bitwise operation is done there, and what is
stored is converted to the type of the object.

* `IntType.wrap` is a conversion: the value of the type that is congruent to the given one.  Types
  narrower than, or as wide as, an `int` of 32 bits are all that is treated here.
* `Expr` is an expression of shifts and bitwise ors, over variables of any kind, and `Expr.eval`
  computes it with the promotions.  Negative numbers are shifted to the right arithmetically, and
  what a shift to the left moves out at the top is lost.
* `or_shiftLeft` says that or-ing something below something that was shifted out of its way is an
  addition, up to a conversion.
* `littleEndian` is the number that bytes of any count stand for, and `testBit_littleEndian` finds
  its bits in them.
-/

set_option autoImplicit false

namespace CInt

open Checked

/-! ## Types and conversions -/

/-- An integer type. -/
structure IntType where
  bits : Nat
  signed : Bool
  deriving DecidableEq, Repr

namespace IntType

def int : IntType := ⟨32, true⟩

def uint8 : IntType := ⟨8, false⟩

/-- What a conversion to the type makes of `n`. -/
def wrap (t : IntType) (n : Int) : Int := if t.signed then n.bmod (2 ^ t.bits) else n % 2 ^ t.bits

/-- `n` is a value of the type. -/
def Has (t : IntType) (n : Int) : Prop :=
  if t.signed then -2 ^ t.bits ≤ 2 * n ∧ 2 * n < 2 ^ t.bits else 0 ≤ n ∧ n < 2 ^ t.bits

instance (t : IntType) (n : Int) : Decidable (t.Has n) := by
  unfold Has
  infer_instance

/-- The type after the integer promotions. -/
def promoted (t : IntType) : IntType := if t.bits < 32 then int else t

variable {t : IntType} {a b : Int}

/-- A conversion looks at the number modulo the size of the type only. -/
theorem wrap_eq_of_emod_eq (h : a % 2 ^ t.bits = b % 2 ^ t.bits) : t.wrap a = t.wrap b := by
  have hcast : ((2 ^ t.bits : Nat) : Int) = 2 ^ t.bits := by norm_cast
  rw [wrap, wrap]
  split
  · rw [← Int.emod_bmod a, ← Int.emod_bmod b, hcast, h]
  · exact h

theorem wrap_emod : t.wrap a % 2 ^ t.bits = a % 2 ^ t.bits := by
  have hcast : ((2 ^ t.bits : Nat) : Int) = 2 ^ t.bits := by norm_cast
  rw [wrap]
  split
  · rw [← hcast, Int.bmod_emod]
  · exact Int.emod_emod_of_dvd a dvd_rfl

/-- A value of the type is not changed. -/
theorem wrap_eq_self (h : t.Has a) : t.wrap a = a := by
  rw [Has] at h
  rw [wrap]
  split at h
  · rename_i hs
    rw [if_pos hs]
    refine Int.bmod_eq_of_le_mul_two ?_ ?_
    · push_cast
      omega
    · push_cast
      omega
  · rename_i hs
    rw [if_neg hs]
    exact Int.emod_eq_of_lt h.1 h.2

@[simp] theorem wrap_wrap : t.wrap (t.wrap a) = t.wrap a := wrap_eq_of_emod_eq wrap_emod

/-- A conversion by way of a type that is wide enough. -/
theorem wrap_wrap_of_le {u : IntType} (h : t.bits ≤ u.bits) : t.wrap (u.wrap a) = t.wrap a := by
  have hdvd : (2 ^ t.bits : Int) ∣ 2 ^ u.bits := pow_dvd_pow 2 h
  refine wrap_eq_of_emod_eq ?_
  rw [← Int.emod_emod_of_dvd _ hdvd, wrap_emod, Int.emod_emod_of_dvd _ hdvd]

theorem has_int_iff : int.Has a ↔ -2 ^ 31 ≤ a ∧ a < 2 ^ 31 := by
  simp only [Has, int, if_true]
  omega

end IntType

/-! ## Values and operations -/

/-- A number and its type. -/
structure Value where
  type : IntType
  val : Int
  deriving DecidableEq, Repr

/-- The 32 bits of a number. -/
def bits (n : Int) : BitVec 32 := BitVec.ofInt 32 n

/-- The type of a bitwise operation on promoted operands. -/
def common (t u : IntType) : IntType := if t.signed ∧ u.signed then .int else ⟨32, false⟩

/-- `v >> k`. -/
def shiftRight (v : Value) (k : Nat) : Value := ⟨v.type.promoted, v.val >>> k⟩

/-- `v << k`. -/
def shiftLeft (v : Value) (k : Nat) : Value :=
  ⟨v.type.promoted, v.type.promoted.wrap (v.val * 2 ^ k)⟩

/-- `v | w`. -/
def or (v w : Value) : Value :=
  let t := common v.type.promoted w.type.promoted
  ⟨t, t.wrap (bits v.val ||| bits w.val).toInt⟩

/-- The byte that is stored for a number. -/
def toByte (n : Int) : UInt8 := UInt8.ofNat (IntType.uint8.wrap n).toNat

/-- The value that is loaded for a byte. -/
def ofByte (b : UInt8) : Value := ⟨.uint8, b.toNat⟩

theorem toNat_toByte (n : Int) : ((toByte n).toNat : Int) = n % 256 := by
  have hlt : (n % 256).toNat < 256 := by omega
  simp only [toByte, IntType.wrap, IntType.uint8, Bool.false_eq_true, if_false]
  rw [show (2 : Int) ^ 8 = 256 by norm_num, UInt8.toNat_ofNat', Nat.mod_eq_of_lt (by omega)]
  omega

theorem getLsbD_bits_of_lt {n : Int} {k i : Nat} (h0 : 0 ≤ n) (hlt : n < 2 ^ k) (hi : k ≤ i) :
    (bits n).getLsbD i = false := by
  obtain ⟨m, rfl⟩ := Int.eq_ofNat_of_zero_le h0
  have hm : m < 2 ^ k := by exact_mod_cast hlt
  rw [bits, BitVec.ofInt_natCast, BitVec.getLsbD_ofNat,
    Nat.testBit_lt_two_pow (hm.trans_le (Nat.pow_le_pow_right (by decide) hi)), Bool.and_false]

theorem bits_mul (n : Int) (k : Nat) : bits (n * 2 ^ k) = bits n <<< k := by
  have hpow : BitVec.ofInt 32 (2 ^ k) = BitVec.twoPow 32 k := by
    have hcast : (2 ^ k : Int) = ((2 ^ k : Nat) : Int) := by norm_cast
    apply BitVec.eq_of_toNat_eq
    rw [hcast, BitVec.ofInt_natCast, BitVec.toNat_ofNat, BitVec.toNat_twoPow]
  rw [bits, bits, BitVec.ofInt_mul, BitVec.shiftLeft_eq_mul_twoPow, hpow]

theorem bits_add (m n : Int) : bits (m + n) = bits m + bits n := BitVec.ofInt_add m n

theorem bits_wrap_int (n : Int) : bits (IntType.int.wrap n) = bits n := by
  apply BitVec.eq_of_toInt_eq
  simp [bits, IntType.wrap, IntType.int]

theorem toInt_bits (n : Int) : (bits n).toInt = IntType.int.wrap n := by
  simp [bits, IntType.wrap, IntType.int]

/-- **Or-ing is adding**, below something that was shifted out of the way. -/
theorem or_shiftLeft {v w : Value} {k : Nat} (hv : v.type.promoted = .int)
    (hw : w.type.promoted = .int) (h0 : 0 ≤ v.val) (hlt : v.val < 2 ^ k) :
    or v (shiftLeft w k) = ⟨.int, IntType.int.wrap (v.val + w.val * 2 ^ k)⟩ := by
  have hdisjoint : bits v.val &&& bits w.val <<< k = 0#32 := by
    apply BitVec.eq_of_getLsbD_eq
    intro i _
    rw [BitVec.getLsbD_and, BitVec.getLsbD_zero]
    rcases Nat.lt_or_ge i k with hi | hi
    · simp [BitVec.getLsbD_shiftLeft, hi]
    · rw [getLsbD_bits_of_lt h0 hlt hi, Bool.false_and]
  have hshift : shiftLeft w k = ⟨.int, IntType.int.wrap (w.val * 2 ^ k)⟩ := by
    rw [shiftLeft, hw]
  rw [hshift, or, hv]
  show (⟨.int, IntType.int.wrap
    (bits v.val ||| bits (IntType.int.wrap (w.val * 2 ^ k))).toInt⟩ : Value) = _
  rw [bits_wrap_int, bits_mul, ← BitVec.add_eq_or_of_and_eq_zero _ _ hdisjoint, ← bits_mul,
    ← bits_add, toInt_bits, IntType.wrap_wrap]

/-! ## Expressions -/

/-- Shifts and bitwise ors, over variables `ν`. -/
inductive Expr (ν : Type) where
  | var (x : ν)
  | shl (e : Expr ν) (k : Nat)
  | shr (e : Expr ν) (k : Nat)
  | or (e₁ e₂ : Expr ν)
  deriving Repr

variable {ν : Type}

/-- The value of an expression, where a variable may be out of reach. -/
def Expr.eval (read : ν → Checked Value) : Expr ν → Checked Value
  | .var x => read x
  | .shl e k => do
    let v ← e.eval read
    return shiftLeft v k
  | .shr e k => do
    let v ← e.eval read
    return shiftRight v k
  | .or e₁ e₂ => do
    let v ← e₁.eval read
    let w ← e₂.eval read
    return CInt.or v w

section Eval

variable {read : ν → Checked Value} {e e₁ e₂ : Expr ν} {v w : Value}

theorem Expr.eval_shl (h : e.eval read = .ok v) (k : Nat) :
    (Expr.shl e k).eval read = .ok (shiftLeft v k) := by
  rw [Expr.eval, h]
  rfl

theorem Expr.eval_shr (h : e.eval read = .ok v) (k : Nat) :
    (Expr.shr e k).eval read = .ok (shiftRight v k) := by
  rw [Expr.eval, h]
  rfl

theorem Expr.eval_or (h₁ : e₁.eval read = .ok v) (h₂ : e₂.eval read = .ok w) :
    (Expr.or e₁ e₂).eval read = .ok (CInt.or v w) := by
  rw [Expr.eval, h₁, h₂]
  rfl

end Eval

/-! ## Numbers in bytes -/

/-- The byte of a number that starts at bit `8 * k`. -/
def byteOf (n : Int) (k : Nat) : UInt8 := toByte (n >>> (8 * k))

theorem toNat_byteOf (n : Int) (k : Nat) : ((byteOf n k).toNat : Int) = n / 2 ^ (8 * k) % 256 := by
  rw [byteOf, toNat_toByte, Int.shiftRight_eq_div_pow]
  push_cast
  rfl

/-- A byte above a non-negative number. -/
theorem or_ofByte {t : IntType} {n : Int} {k : Nat} (ht : t.promoted = .int) (h0 : 0 ≤ n)
    (hlt : n < 2 ^ k) (b : UInt8) :
    CInt.or ⟨t, n⟩ (shiftLeft (ofByte b) k) = ⟨.int, IntType.int.wrap (n + b.toNat * 2 ^ k)⟩ :=
  or_shiftLeft ht rfl h0 hlt

section Bytes

variable {read : ν → Checked Value} {b : Nat → UInt8} {x : Nat → ν}

/-- Two bytes, the low one first, make a non-negative `int`. -/
theorem eval_word (h : ∀ k < 2, (Expr.var (x k)).eval read = .ok (ofByte (b k))) :
    (Expr.or (.var (x 0)) (.shl (.var (x 1)) 8)).eval read =
      .ok ⟨.int, (b 0).toNat + (b 1).toNat * 2 ^ 8⟩ := by
  have h0 := (b 0).toNat_lt
  have h1 := (b 1).toNat_lt
  have hint : IntType.int.Has ((b 0).toNat + (b 1).toNat * 2 ^ 8) := by
    rw [IntType.has_int_iff]
    omega
  have hsum := or_ofByte (t := .uint8) rfl (Int.natCast_nonneg (b 0).toNat)
    (show _ < (2 : Int) ^ 8 by omega) (b 1)
  rw [IntType.wrap_eq_self hint] at hsum
  rw [Expr.eval_or (h 0 (by decide)) (Expr.eval_shl (h 1 (by decide)) 8)]
  exact congrArg Except.ok hsum

/-- Four bytes, the lowest first, make an `int`, and the highest has its sign. -/
theorem eval_dword (h : ∀ k < 4, (Expr.var (x k)).eval read = .ok (ofByte (b k))) :
    (Expr.or (.or (.or (.var (x 0)) (.shl (.var (x 1)) 8)) (.shl (.var (x 2)) 16))
      (.shl (.var (x 3)) 24)).eval read =
      .ok ⟨.int, IntType.int.wrap ((b 0).toNat + (b 1).toNat * 2 ^ 8 + (b 2).toNat * 2 ^ 16 +
        (b 3).toNat * 2 ^ 24)⟩ := by
  have h0 := (b 0).toNat_lt
  have h1 := (b 1).toNat_lt
  have h2 := (b 2).toNat_lt
  have hint : IntType.int.Has
      ((b 0).toNat + (b 1).toNat * 2 ^ 8 + (b 2).toNat * 2 ^ 16) := by
    rw [IntType.has_int_iff]
    omega
  have hlow := eval_word (b := b) (x := x) fun k hk => h k (by omega)
  have hthree := or_ofByte (t := .int) rfl
    (show (0 : Int) ≤ (b 0).toNat + (b 1).toNat * 2 ^ 8 by omega)
    (show _ < (2 : Int) ^ 16 by omega) (b 2)
  rw [IntType.wrap_eq_self hint] at hthree
  have hfour := or_ofByte (t := .int) rfl
    (show (0 : Int) ≤ (b 0).toNat + (b 1).toNat * 2 ^ 8 + (b 2).toNat * 2 ^ 16 by omega)
    (show _ < (2 : Int) ^ 24 by omega) (b 3)
  have hmid := Expr.eval_or hlow (Expr.eval_shl (h 2 (by decide)) 16)
  rw [hthree] at hmid
  rw [Expr.eval_or hmid (Expr.eval_shl (h 3 (by decide)) 24)]
  exact congrArg Except.ok hfour

end Bytes

/-! ### Putting a number together again -/

variable {t : IntType} {n : Int}

theorem wrap_one_byte (ht : t.bits = 8) (h : t.Has n) : t.wrap (byteOf n 0).toNat = n := by
  have h0 := toNat_byteOf n 0
  rw [← IntType.wrap_eq_self h]
  refine IntType.wrap_eq_of_emod_eq ?_
  rw [ht, IntType.wrap_eq_self h]
  omega

theorem wrap_two_bytes (ht : t.bits = 16) (h : t.Has n) :
    t.wrap ((byteOf n 0).toNat + (byteOf n 1).toNat * 2 ^ 8) = n := by
  have h0 := toNat_byteOf n 0
  have h1 := toNat_byteOf n 1
  rw [← IntType.wrap_eq_self h]
  refine IntType.wrap_eq_of_emod_eq ?_
  rw [ht, IntType.wrap_eq_self h]
  omega

theorem wrap_four_bytes (ht : t.bits = 32) (h : t.Has n) :
    t.wrap (IntType.int.wrap ((byteOf n 0).toNat + (byteOf n 1).toNat * 2 ^ 8 +
      (byteOf n 2).toNat * 2 ^ 16 + (byteOf n 3).toNat * 2 ^ 24)) = n := by
  have h0 := toNat_byteOf n 0
  have h1 := toNat_byteOf n 1
  have h2 := toNat_byteOf n 2
  have h3 := toNat_byteOf n 3
  rw [IntType.wrap_wrap_of_le (le_of_eq ht), ← IntType.wrap_eq_self h]
  refine IntType.wrap_eq_of_emod_eq ?_
  rw [ht, IntType.wrap_eq_self h]
  omega

/-! ### Any number of bytes -/

/-- The number with these bytes, the lowest first. -/
def littleEndian (bytes : List UInt8) : Nat := Nat.ofDigits 256 (bytes.map UInt8.toNat)

@[simp] theorem littleEndian_nil : littleEndian [] = 0 := rfl

theorem littleEndian_cons (b : UInt8) (bytes : List UInt8) :
    littleEndian (b :: bytes) = 2 ^ 8 * littleEndian bytes + b.toNat := by
  rw [littleEndian, List.map_cons, Nat.ofDigits_cons, Nat.add_comm]
  rfl

theorem littleEndian_snoc (bytes : List UInt8) (b : UInt8) :
    littleEndian (bytes ++ [b]) = littleEndian bytes + 256 ^ bytes.length * b.toNat := by
  rw [littleEndian, List.map_append, Nat.ofDigits_append, List.length_map]
  simp [littleEndian]

/-- Bit `k` of the number is bit `k % 8` of byte `k / 8`. -/
theorem testBit_littleEndian (bytes : List UInt8) (k : Nat) :
    (littleEndian bytes).testBit k = (byteAt bytes (k / 8)).toNat.testBit (k % 8) := by
  induction bytes generalizing k with
  | nil => simp [byteAt]
  | cons b bytes ih =>
    rw [littleEndian_cons, Nat.testBit_two_pow_mul_add _ b.toNat_lt]
    split
    · rename_i hk
      rw [Nat.div_eq_of_lt hk, Nat.mod_eq_of_lt hk]
      rfl
    · rename_i hk
      obtain ⟨j, rfl⟩ := Nat.exists_eq_add_of_le (not_lt.1 hk)
      rw [Nat.add_sub_cancel_left, ih, Nat.add_div_left j (by decide), Nat.add_mod_left]
      rfl

end CInt
