import LibUvc.Descriptor.Safety
import LibUvc.Foundation.CInt
import LibUvc.Foundation.ForLoop
import Mathlib.Data.Nat.ModEq
import Mathlib.Tactic.Ring

/-!
# The control bitmaps

A camera terminal, a processing unit and an extension unit each say which controls they have, in a
bitmap of as many bytes as they like, the lowest first.  Their parsers put the bytes together into
the 64 bits of `bmControls`, each in a loop of its own that goes from the last byte down to the
first, and shifts what it has.

* `inputTerminalLoop`, `processingUnitLoop` and `extensionUnitLoop` are the three loops as they are
  written.  Two of them count down in a `size_t`, which is never negative, and end because their
  bound is above zero; the third counts down in an `int`, to below zero.
* `controlBits`, which the parsers are modelled with, is what all three do
  (`unsignedLoop_runs`, `extensionUnitLoop_runs`).
* `controlBits_decodes`: the result is the little-endian number of the bytes, as far as it goes into
  64 bits.
-/

set_option autoImplicit false

namespace LibUvc
namespace Descriptor

open Checked CInt

/-! ## The loops -/

/-- `for (; i >= least; --i) bmControls = block[i] + (bmControls << 8);`, over a `size_t`. -/
def unsignedLoop (block : List UInt8) (least : UInt64) : ForLoop UInt64 UInt64 where
  test i := i ≥ least
  step i := i - 1
  body i bmControls := do
    let b ← readByte block i.toNat
    return b.toUInt64 + (bmControls <<< 8)

/-- The loop of `uvc_parse_vc_input_terminal`. -/
def inputTerminalLoop (block : List UInt8) : ForLoop UInt64 UInt64 := unsignedLoop block 15

/-- Where `i` starts in `uvc_parse_vc_input_terminal`. -/
def inputTerminalStart (block : List UInt8) : UInt64 := 14 + (byteAt block 14).toUInt64

/-- The loop of `uvc_parse_vc_processing_unit`. -/
def processingUnitLoop (block : List UInt8) : ForLoop UInt64 UInt64 := unsignedLoop block 8

/-- Where `i` starts in `uvc_parse_vc_processing_unit`. -/
def processingUnitStart (block : List UInt8) : UInt64 := 7 + (byteAt block 7).toUInt64

/-- `block[21]`, the number of input pins of an extension unit. -/
def numInPins (block : List UInt8) : UInt8 := byteAt block 21

/-- `block[22 + num_in_pins]`. -/
def sizeOfControls (block : List UInt8) : UInt8 := byteAt block (22 + (numInPins block).toNat)

/-- The loop of `uvc_parse_vc_extension_unit`, over an `int`, where `start_of_controls` is
`&block[23 + num_in_pins]`. -/
def extensionUnitLoop (block : List UInt8) : ForLoop Int32 UInt64 where
  test i := i ≥ 0
  step i := i - 1
  body i bmControls := do
    let b ← readByte block (23 + (numInPins block).toNat + i.toInt.toNat)
    return b.toUInt64 + (bmControls <<< 8)

/-- Where `i` starts in `uvc_parse_vc_extension_unit`. -/
def extensionUnitStart (block : List UInt8) : Int32 :=
  Int32.ofNat (sizeOfControls block).toNat - 1

/-! ## What they do -/

/-- The round that is left `k` from the end. -/
def controlRound (block : List UInt8) (base k : Nat) (bmControls : UInt64) : Checked UInt64 := do
  let b ← readByte block (base + k - 1)
  return b.toUInt64 + (bmControls <<< 8)

theorem controlBits_eq_countdown (block : List UInt8) (base n : Nat) (bits : UInt64) :
    controlBits block base n bits = ForLoop.countdown (controlRound block base) n bits := by
  induction n generalizing bits with
  | zero => rfl
  | succ n ih =>
    rw [controlBits, ForLoop.countdown, controlRound, bind_assoc]
    simp only [pure_bind', ih]
    rfl

/-- **Over an unsigned index.**  The bound is above zero, so the index does not get below it without
being noticed. -/
theorem unsignedLoop_runs {block : List UInt8} {base : Nat} (hbase : 0 < base) (hsmall : base < 256)
    (n : UInt8) {bits t : UInt64} (h : controlBits block base n.toNat bits = .ok t) :
    (unsignedLoop block (UInt64.ofNat base)).Runs (UInt64.ofNat (base - 1 + n.toNat)) bits n.toNat
      t := by
  rw [controlBits_eq_countdown] at h
  have htoNat : ∀ k < 512, (UInt64.ofNat k).toNat = k := fun k hk =>
    UInt64.toNat_ofNat_of_lt' (hk.trans (by decide))
  have hn := n.toNat_lt
  refine ForLoop.runs_countdown (fun k => UInt64.ofNat (base - 1 + k)) 255 (by omega) ?_ ?_ ?_ ?_ h
  · simp only [unsignedLoop, ge_iff_le, decide_eq_false_iff_not, UInt64.le_iff_toNat_le]
    rw [htoNat _ (by omega), htoNat _ (by omega)]
    omega
  · intro k hk
    simp only [unsignedLoop, ge_iff_le, decide_eq_true_eq, UInt64.le_iff_toNat_le]
    rw [htoNat _ (by omega), htoNat _ (by omega)]
    omega
  · intro k hk
    show UInt64.ofNat (base - 1 + (k + 1)) - UInt64.ofNat 1 = UInt64.ofNat (base - 1 + k)
    rw [← UInt64.ofNat_sub (by omega)]
    congr 1
  · intro k hk s
    simp only [unsignedLoop, controlRound]
    rw [htoNat _ (by omega), show base - 1 + (k + 1) = base + (k + 1) - 1 by omega]

/-- Where the index starts, as the source computes it. -/
theorem start_eq (base : Nat) (n : UInt8) :
    UInt64.ofNat base + n.toUInt64 = UInt64.ofNat (base + n.toNat) := by
  have hn : n.toUInt64 = UInt64.ofNat n.toNat := by
    rw [← UInt64.toNat_inj, UInt8.toNat_toUInt64,
      UInt64.toNat_ofNat_of_lt' (n.toNat_lt.trans (by decide))]
  rw [UInt64.ofNat_add, hn]

/-- **Over a signed index**, which ends below zero. -/
theorem extensionUnitLoop_runs {block : List UInt8} {bits t : UInt64}
    (h : controlBits block (23 + (numInPins block).toNat) (sizeOfControls block).toNat bits =
      .ok t) :
    (extensionUnitLoop block).Runs (extensionUnitStart block) bits (sizeOfControls block).toNat
      t := by
  rw [controlBits_eq_countdown] at h
  have hn := (sizeOfControls block).toNat_lt
  have htoInt : ∀ k < 512, (Int32.ofNat k - 1).toInt = (k : Int) - 1 := by
    intro k hk
    rw [Int32.toInt_sub, Int32.toInt_ofNat_of_lt (by omega)]
    exact Int.bmod_eq_of_le_mul_two (by simp; omega) (by simp; omega)
  refine ForLoop.runs_countdown (fun k => Int32.ofNat k - 1) 255 (by omega) ?_ ?_ ?_ ?_ h
  · show decide ((Int32.ofNat 0 - 1 : Int32) ≥ 0) = false
    decide
  · intro k hk
    simp only [extensionUnitLoop, ge_iff_le, decide_eq_true_eq, Int32.le_iff_toInt_le]
    rw [htoInt _ (by omega)]
    simp
  · intro k hk
    show Int32.ofNat (k + 1) - 1 - 1 = Int32.ofNat k - 1
    rw [Int32.ofNat_add]
    exact congrArg (· - 1) (Int32.add_sub_cancel _ _)
  · intro k hk s
    simp only [extensionUnitLoop, controlRound]
    rw [htoInt _ (by omega), show ((k + 1 : Nat) - 1 : Int).toNat = k by omega]
    rfl

/-! ## What comes out -/

/-- The bitmap is that of the `n` bytes at `base`, as far as it has room. -/
structure Decodes (block : List UInt8) (base n : Nat) (bmControls : UInt64) : Prop where
  value : bmControls.toNat = littleEndian ((block.drop base).take n) % 2 ^ 64
  bit : ∀ k < min 64 (8 * n), bmControls.toNat.testBit k =
    (byteAt block (base + k / 8)).toNat.testBit (k % 8)
  clear : ∀ k < 64, 8 * n ≤ k → bmControls.toNat.testBit k = false

/-- One round, on numbers: what is shifted out at the top is lost. -/
theorem round_modEq (b : UInt8) (bits : UInt64) :
    (b.toUInt64 + (bits <<< 8)).toNat ≡ b.toNat + 256 * bits.toNat [MOD 2 ^ 64] := by
  have hshift : (bits <<< 8).toNat = bits.toNat * 2 ^ 8 % 2 ^ 64 := by
    rw [UInt64.toNat_shiftLeft, Nat.shiftLeft_eq]
    rfl
  rw [Nat.ModEq, UInt64.toNat_add, hshift, UInt8.toNat_toUInt64]
  omega

theorem controlBits_value {block : List UInt8} {base n : Nat} (h : base + n ≤ block.length)
    (bits : UInt64) :
    ∃ t, controlBits block base n bits = .ok t ∧
      t.toNat ≡ littleEndian ((block.drop base).take n) + 256 ^ n * bits.toNat [MOD 2 ^ 64] := by
  induction n generalizing bits with
  | zero => exact ⟨bits, rfl, by simp [Nat.ModEq]⟩
  | succ n ih =>
    have hlen : n < (block.drop base).length := by
      rw [List.length_drop]
      omega
    have hbyte : (block.drop base)[n] = byteAt block (base + n) := by
      rw [List.getElem_drop, byteAt_eq_getElem]
    have htaken : ((block.drop base).take n).length = n := List.length_take_of_le hlen.le
    obtain ⟨t, ht, hvalue⟩ := ih (by omega) ((byteAt block (base + n)).toUInt64 + (bits <<< 8))
    refine ⟨t, ?_, hvalue.trans ?_⟩
    · rw [controlBits, readByte_eq (by omega), ok_bind, ht]
    · rw [List.take_succ_eq_append_getElem hlen, littleEndian_snoc, htaken, hbyte]
      refine (((round_modEq _ bits).mul_left (256 ^ n)).add_left _).trans ?_
      rw [show ∀ a b c : Nat, a + 256 ^ n * (b + 256 * c) = a + 256 ^ n * b + 256 ^ (n + 1) * c by
        intro a b c
        ring]

/-- The byte `j` of the field, and zero past its end. -/
theorem byteAt_controls {block : List UInt8} {base n j : Nat} :
    byteAt ((block.drop base).take n) j = if j < n then byteAt block (base + j) else 0 := by
  simp only [byteAt, List.getD_eq_getElem?_getD, List.getElem?_take, List.getElem?_drop]
  split
  · rfl
  · rfl

/-- **A control bitmap is a little-endian number**, cut off at 64 bits. -/
theorem controlBits_decodes {block : List UInt8} {base n : Nat} (h : base + n ≤ block.length) :
    ∃ t, controlBits block base n 0 = .ok t ∧ Decodes block base n t := by
  obtain ⟨t, ht, hmod⟩ := controlBits_value h 0
  have hvalue : t.toNat = littleEndian ((block.drop base).take n) % 2 ^ 64 := by
    have hlt := t.toNat_lt
    rw [← Nat.mod_eq_of_lt hlt, hmod]
    simp
  have hbit : ∀ k < 64, t.toNat.testBit k =
      (if k / 8 < n then byteAt block (base + k / 8) else 0).toNat.testBit (k % 8) := by
    intro k hk
    rw [hvalue, Nat.testBit_mod_two_pow, testBit_littleEndian, byteAt_controls]
    simp [hk]
  refine ⟨t, ht, hvalue, fun k hk => ?_, fun k hk hclear => ?_⟩
  · rw [hbit k (by omega), if_pos (by omega)]
  · rw [hbit k hk, if_neg (by omega)]
    simp

/-- **The three parsers.**  Where the control field that a block declares lies inside it, the bitmap
that is stored is the little-endian number of its bytes, and the loop that builds it ends after as
many rounds as there are bytes. -/
theorem bmControls_decode (info : DeviceInfo) (block : List UInt8) :
    (swAt block 4 = ittCamera → ControlsFit block 15 (byteAt block 14) →
      ∃ info' term, parseVcInputTerminal info block = .ok (Ret.success, info') ∧
        info'.ctrlIf.inputTermDescs = info.ctrlIf.inputTermDescs ++ [term] ∧
        Decodes block 15 (byteAt block 14).toNat term.bmControls ∧
        (inputTerminalLoop block).Runs (inputTerminalStart block) 0 (byteAt block 14).toNat
          term.bmControls) ∧
    (ControlsFit block 8 (byteAt block 7) →
      ∃ info' unit, parseVcProcessingUnit info block = .ok (Ret.success, info') ∧
        info'.ctrlIf.processingUnitDescs = info.ctrlIf.processingUnitDescs ++ [unit] ∧
        Decodes block 8 (byteAt block 7).toNat unit.bmControls ∧
        (processingUnitLoop block).Runs (processingUnitStart block) 0 (byteAt block 7).toNat
          unit.bmControls) ∧
    (ControlsFit block (23 + (numInPins block).toNat) (sizeOfControls block) →
      ∃ info' unit, parseVcExtensionUnit info block = .ok (Ret.success, info') ∧
        info'.ctrlIf.extensionUnitDescs = info.ctrlIf.extensionUnitDescs ++ [unit] ∧
        Decodes block (23 + (numInPins block).toNat) (sizeOfControls block).toNat
          unit.bmControls ∧
        (extensionUnitLoop block).Runs (extensionUnitStart block) 0 (sizeOfControls block).toNat
          unit.bmControls) := by
  refine ⟨fun hcamera hfit => ?_, fun hfit => ?_, fun hfit => ?_⟩
  · obtain ⟨t, ht, hdecodes⟩ := controlBits_decodes hfit
    have hruns := unsignedLoop_runs (by decide) (by decide) _ ht
    rw [← start_eq] at hruns
    rw [ControlsFit] at hfit
    rw [parseVcInputTerminal, readSw_eq (by omega), ok_bind, if_neg (not_not_intro hcamera),
      readByte_eq (by omega), ok_bind, ok_bind, readSw_eq (by omega), ok_bind,
      readSw_eq (by omega), ok_bind, readSw_eq (by omega), ok_bind, readByte_eq (by omega), ok_bind,
      ht, ok_bind]
    exact ⟨_, _, rfl, rfl, hdecodes, hruns⟩
  · obtain ⟨t, ht, hdecodes⟩ := controlBits_decodes hfit
    have hruns := unsignedLoop_runs (by decide) (by decide) _ ht
    rw [← start_eq] at hruns
    rw [ControlsFit] at hfit
    rw [parseVcProcessingUnit, readByte_eq (by omega), ok_bind, readByte_eq (by omega), ok_bind,
      readByte_eq (by omega), ok_bind, ht, ok_bind]
    exact ⟨_, _, rfl, rfl, hdecodes, hruns⟩
  · obtain ⟨t, ht, hdecodes⟩ := controlBits_decodes hfit
    have hruns := extensionUnitLoop_runs ht
    rw [ControlsFit, sizeOfControls, numInPins] at hfit
    rw [sizeOfControls, numInPins] at ht
    rw [parseVcExtensionUnit, readByte_eq (by omega), ok_bind, slice_eq (by omega), ok_bind,
      readByte_eq (by omega), ok_bind, readByte_eq (by omega), ok_bind, ht, ok_bind]
    exact ⟨_, _, rfl, rfl, hdecodes, hruns⟩

/-- A processing unit with ten bytes of controls, the last two of which have no room. -/
theorem bmControls_decode_ten :
    ∃ info' unit, parseVcProcessingUnit {}
        [18, 36, 5, 2, 1, 0, 0, 10, 0x5b, 0x17, 0, 0, 0, 0, 0, 0x80, 0xff, 0xff] =
        .ok (Ret.success, info') ∧
      info'.ctrlIf.processingUnitDescs = [unit] ∧ unit.bmControls.toNat = 0x800000000000175b := by
  obtain ⟨info', unit, hparse, hunits, hdecodes, -⟩ := (bmControls_decode {}
    [18, 36, 5, 2, 1, 0, 0, 10, 0x5b, 0x17, 0, 0, 0, 0, 0, 0x80, 0xff, 0xff]).2.1
    (show 8 + 10 ≤ 18 by decide)
  exact ⟨info', unit, hparse, hunits, hdecodes.value⟩

end Descriptor
end LibUvc
