import Mathlib.Algebra.Order.Floor.Div
import Mathlib.Data.List.TakeWhile
import LibUvc.Descriptor.Growth

/-!
# What the repair of a frame descriptor does

`uvc_repair_frame_desc` fills in a buffer size that is missing and moves a default interval that is
not among those on offer.  A frame that has neither fault should come out as it went in, and one
that has should come out without it.

* The size is computed in 32 bits, from three numbers that the device has chosen, and the division
  by the bits of a byte drops what is left over.  `repairedSize_iff` says for which frames it is
  large enough for an image.
* The range of a list of intervals is taken to go from its first entry to its last.
  `repairInterval_iff` says when that does no harm: on a list that is not in order an interval that
  is on offer may lie outside.
-/

set_option autoImplicit false

namespace LibUvc
namespace Descriptor

open Checked

/-! ## The two fields -/

/-- `dwDefaultFrameInterval` after the repair. -/
def repairedInterval (least most interval : UInt32) : UInt32 :=
  if least ≠ 0 ∧ most ≠ 0 ∧ least ≤ most ∧
      (interval = 0 ∨ interval < least ∨ most < interval) then
    let atLeast := if least > interval then least else interval
    if most < atLeast then most else atLeast
  else interval

/-- The repair changes two fields. -/
theorem repairFrameDesc_eq {format : FormatDesc} {frame : FrameDesc} {least most : UInt32}
    (hrange : intervalRange frame = .ok (least, most)) :
    repairFrameDesc format frame = .ok { frame with
      dwMaxVideoFrameBufferSize := (repairBufferSize format frame).dwMaxVideoFrameBufferSize
      dwDefaultFrameInterval :=
        repairedInterval least most frame.dwDefaultFrameInterval } := by
  have hsize : repairBufferSize format frame = { frame with
      dwMaxVideoFrameBufferSize :=
        (repairBufferSize format frame).dwMaxVideoFrameBufferSize } := by
    rw [repairBufferSize]
    split
    · rfl
    · rfl
  rw [repairFrameDesc]
  simp only []
  rw [intervalRange_repairBufferSize, hrange, ok_bind, hsize]
  simp only [repairInterval, repairedInterval]
  split
  · rfl
  · rfl

/-- The ends of what a frame has on offer. -/
theorem intervalRange_listed {frame : FrameDesc} (h : frame.Listed) :
    ∃ least most, intervalRange frame = .ok (least, most) ∧
      if frame.bFrameIntervalType = 0 then
        least = frame.dwMinFrameInterval ∧ most = frame.dwMaxFrameInterval
      else frame.walk.head? = some least ∧ frame.walk.getLast? = some most := by
  rw [FrameDesc.Listed] at h
  rw [intervalRange]
  split at h
  · rename_i hzero
    rw [if_pos hzero]
    exact ⟨_, _, rfl, by rw [if_pos hzero]; exact ⟨rfl, rfl⟩⟩
  · rename_i hne
    obtain ⟨values, heq, hlen, hnonzero⟩ := h
    have hpos : values.length ≠ 0 := fun hzero =>
      hne (UInt8.toNat_inj.1 (hlen.symm.trans hzero))
    have hfirst : values.head? = some values[0] := by
      rw [List.head?_eq_getElem?, List.getElem?_eq_getElem (by omega)]
    have hlast : values.getLast? = some values[values.length - 1] := by
      rw [List.getLast?_eq_getElem?, List.getElem?_eq_getElem (by omega)]
    have hget : ∀ i (hi : i < values.length), readAt frame.intervals i = .ok values[i] := by
      intro i hi
      refine readAt_eq ?_
      rw [heq, List.getElem?_append_left hi, List.getElem?_eq_getElem hi]
    rw [if_neg hne, ← hlen, hget 0 (by omega), ok_bind, hget _ (by omega), ok_bind]
    refine ⟨_, _, rfl, ?_⟩
    rw [if_neg hne, walk_eq heq hnonzero]
    exact ⟨hfirst, hlast⟩

/-! ## The buffer size -/

/-- The bytes of one image, rounded up; formats without a depth are given two bytes a pixel. -/
def imageSize (format : FormatDesc) (frame : FrameDesc) : Nat :=
  if format.bBitsPerPixel ≠ 0 then
    (format.bBitsPerPixel.toNat * frame.wWidth.toNat * frame.wHeight.toNat) ⌈/⌉ 8
  else frame.wWidth.toNat * frame.wHeight.toNat * 2

/-- The products of the code are those of the numbers. -/
def ProductsExact (format : FormatDesc) (frame : FrameDesc) : Prop :=
  if format.bBitsPerPixel ≠ 0 then
    (format.bBitsPerPixel.toUInt32 * frame.wWidth.toUInt32 * frame.wHeight.toUInt32).toNat =
      format.bBitsPerPixel.toNat * frame.wWidth.toNat * frame.wHeight.toNat
  else
    (frame.wWidth.toUInt32 * frame.wHeight.toUInt32 * 2).toNat =
      frame.wWidth.toNat * frame.wHeight.toNat * 2

/-- The buffer that a repaired frame asks for holds an image, and was computed without wrapping. -/
structure HoldsImage (format : FormatDesc) (frame out : FrameDesc) : Prop where
  nonzero : out.dwMaxVideoFrameBufferSize ≠ 0
  enough : imageSize format frame ≤ out.dwMaxVideoFrameBufferSize.toNat
  exact : ProductsExact format frame

/-- The bits of an image fill whole bytes and can be counted in 32 bits; without a depth, its bytes
can. -/
def Countable (format : FormatDesc) (frame : FrameDesc) : Prop :=
  if format.bBitsPerPixel ≠ 0 then
    8 ∣ format.bBitsPerPixel.toNat * frame.wWidth.toNat * frame.wHeight.toNat ∧
      format.bBitsPerPixel.toNat * frame.wWidth.toNat * frame.wHeight.toNat < 2 ^ 32
  else frame.wWidth.toNat * frame.wHeight.toNat * 2 < 2 ^ 32

section Products

variable {format : FormatDesc} {frame : FrameDesc}

theorem toNat_bits : (format.bBitsPerPixel.toUInt32 * frame.wWidth.toUInt32 *
      frame.wHeight.toUInt32).toNat =
    format.bBitsPerPixel.toNat * frame.wWidth.toNat * frame.wHeight.toNat % 2 ^ 32 := by
  rw [UInt32.toNat_mul, UInt32.toNat_mul, UInt8.toNat_toUInt32, UInt16.toNat_toUInt32,
    UInt16.toNat_toUInt32, Nat.mod_mul_mod]

theorem toNat_pairs : (frame.wWidth.toUInt32 * frame.wHeight.toUInt32 * 2).toNat =
    frame.wWidth.toNat * frame.wHeight.toNat * 2 % 2 ^ 32 := by
  rw [UInt32.toNat_mul, UInt32.toNat_mul, UInt16.toNat_toUInt32, UInt16.toNat_toUInt32,
    Nat.mod_mul_mod]
  rfl

theorem uint32_ne_zero {n : UInt32} : n ≠ 0 ↔ n.toNat ≠ 0 := by
  rw [ne_eq, ne_eq, ← UInt32.toNat_inj]
  rfl

/-- The size that the code computes, when it computes one. -/
theorem holdsImage_iff (hw : frame.wWidth ≠ 0) (hh : frame.wHeight ≠ 0) {out : FrameDesc}
    (hout : out.dwMaxVideoFrameBufferSize = if format.bBitsPerPixel ≠ 0 then
      format.bBitsPerPixel.toUInt32 * frame.wWidth.toUInt32 * frame.wHeight.toUInt32 / 8
      else frame.wWidth.toUInt32 * frame.wHeight.toUInt32 * 2) :
    HoldsImage format frame out ↔ Countable format frame := by
  have hwidth : 0 < frame.wWidth.toNat :=
    Nat.pos_of_ne_zero fun hzero => hw (UInt16.toNat_inj.1 hzero)
  have hheight : 0 < frame.wHeight.toNat :=
    Nat.pos_of_ne_zero fun hzero => hh (UInt16.toNat_inj.1 hzero)
  by_cases hbpp : format.bBitsPerPixel ≠ 0
  · have hdepth : 0 < format.bBitsPerPixel.toNat :=
      Nat.pos_of_ne_zero fun hzero => hbpp (UInt8.toNat_inj.1 hzero)
    have hpos : 0 < format.bBitsPerPixel.toNat * frame.wWidth.toNat * frame.wHeight.toNat :=
      Nat.mul_pos (Nat.mul_pos hdepth hwidth) hheight
    have hsize : out.dwMaxVideoFrameBufferSize.toNat = format.bBitsPerPixel.toNat *
        frame.wWidth.toNat * frame.wHeight.toNat % 2 ^ 32 / 8 := by
      rw [hout, if_pos hbpp, UInt32.toNat_div, toNat_bits]
      rfl
    rw [Countable, if_pos hbpp]
    constructor
    · rintro ⟨-, henough, hexact⟩
      rw [ProductsExact, if_pos hbpp, toNat_bits] at hexact
      rw [imageSize, if_pos hbpp, Nat.ceilDiv_eq_add_pred_div, hsize] at henough
      omega
    · rintro ⟨hbytes, hsmall⟩
      refine ⟨?_, ?_, ?_⟩
      · rw [uint32_ne_zero, hsize]
        omega
      · rw [imageSize, if_pos hbpp, Nat.ceilDiv_eq_add_pred_div, hsize]
        omega
      · rw [ProductsExact, if_pos hbpp, toNat_bits, Nat.mod_eq_of_lt hsmall]
  · have hpos : 0 < frame.wWidth.toNat * frame.wHeight.toNat := Nat.mul_pos hwidth hheight
    have hsize : out.dwMaxVideoFrameBufferSize.toNat =
        frame.wWidth.toNat * frame.wHeight.toNat * 2 % 2 ^ 32 := by
      rw [hout, if_neg hbpp, toNat_pairs]
    rw [Countable, if_neg hbpp]
    constructor
    · rintro ⟨-, -, hexact⟩
      rw [ProductsExact, if_neg hbpp, toNat_pairs] at hexact
      omega
    · intro hsmall
      refine ⟨?_, ?_, ?_⟩
      · rw [uint32_ne_zero, hsize]
        omega
      · rw [imageSize, if_neg hbpp, hsize, Nat.mod_eq_of_lt hsmall]
      · rw [ProductsExact, if_neg hbpp, toNat_pairs, Nat.mod_eq_of_lt hsmall]

end Products

/-- **When a repaired buffer size is large enough.**  A frame without one gets a size that is not
zero, holds an image and was computed without wrapping if and only if the bits of an image are a
multiple of 8 and below 2^32, or, for a format without a depth, twice its pixels are. -/
theorem repairedSize_iff {format : FormatDesc} {frame : FrameDesc} (hlisted : frame.Listed)
    (hzero : frame.dwMaxVideoFrameBufferSize = 0) (hw : frame.wWidth ≠ 0)
    (hh : frame.wHeight ≠ 0) :
    ∃ out, repairFrameDesc format frame = .ok out ∧
      (HoldsImage format frame out ↔ Countable format frame) := by
  obtain ⟨least, most, hrange, -⟩ := intervalRange_listed hlisted
  refine ⟨_, repairFrameDesc_eq hrange, holdsImage_iff hw hh ?_⟩
  simp only [repairBufferSize, if_pos (And.intro hzero (And.intro hw hh))]

/-- An uncompressed format. -/
def plainFormat (depth : UInt8) : FormatDesc :=
  { bDescriptorSubtype := .formatUncompressed, bBitsPerPixel := depth }

/-- A frame without a buffer size. -/
def plainFrame (width height : UInt16) : FrameDesc :=
  { bDescriptorSubtype := .frameUncompressed, wWidth := width, wHeight := height }

/-- A frame of 640 by 480 pixels at 16 bits. -/
theorem repairedSize_vga :
    ∃ out, repairFrameDesc (plainFormat 16) (plainFrame 640 480) = .ok out ∧
      HoldsImage (plainFormat 16) (plainFrame 640 480) out := by
  have hlisted : (plainFrame 640 480).Listed := rfl
  obtain ⟨out, hout, hiff⟩ : ∃ out,
      repairFrameDesc (plainFormat 16) (plainFrame 640 480) = .ok out ∧
        (HoldsImage (plainFormat 16) (plainFrame 640 480) out ↔
          Countable (plainFormat 16) (plainFrame 640 480)) :=
    repairedSize_iff hlisted rfl (by decide) (by decide)
  refine ⟨out, hout, hiff.2 ?_⟩
  rw [Countable, if_pos (by decide)]
  decide

/-- Three frames whose repaired size is too small.  One pixel of 12 bits gets one byte, and one of 4
bits none.  The bits of 32768 by 32768 pixels wrap to none at all. -/
theorem repairedSize_short :
    (∃ out, repairFrameDesc (plainFormat 12) (plainFrame 1 1) = .ok out ∧
      out.dwMaxVideoFrameBufferSize = 1 ∧ ¬ HoldsImage (plainFormat 12) (plainFrame 1 1) out) ∧
    (∃ out, repairFrameDesc (plainFormat 4) (plainFrame 1 1) = .ok out ∧
      out.dwMaxVideoFrameBufferSize = 0 ∧ ¬ HoldsImage (plainFormat 4) (plainFrame 1 1) out) ∧
    ∃ out, repairFrameDesc (plainFormat 16) (plainFrame 32768 32768) = .ok out ∧
      out.dwMaxVideoFrameBufferSize = 0 ∧
      ¬ HoldsImage (plainFormat 16) (plainFrame 32768 32768) out := by
  refine ⟨⟨_, rfl, rfl, fun h => ?_⟩, ⟨_, rfl, rfl, fun h => h.nonzero rfl⟩,
    ⟨_, rfl, rfl, fun h => h.nonzero rfl⟩⟩
  exact absurd h.enough (by decide)

/-! ## The default interval -/

/-- The interval is one that the frame has on offer. -/
def FrameDesc.Offered (frame : FrameDesc) (interval : UInt32) : Prop :=
  if frame.bFrameIntervalType = 0 then
    frame.dwMinFrameInterval ≤ interval ∧ interval ≤ frame.dwMaxFrameInterval
  else interval ∈ frame.walk

/-- The repair has touched what is degenerate, and nothing else. -/
structure RepairsOnly (format : FormatDesc) (frame out : FrameDesc) : Prop where
  /-- A second repair does nothing. -/
  again : repairFrameDesc format out = .ok out
  /-- A default interval that is on offer stays. -/
  kept : frame.Offered frame.dwDefaultFrameInterval →
    out.dwDefaultFrameInterval = frame.dwDefaultFrameInterval
  /-- Another one comes from the offer. -/
  moved : out.dwDefaultFrameInterval ≠ frame.dwDefaultFrameInterval →
    frame.Offered out.dwDefaultFrameInterval
  others : out = { frame with
    dwMaxVideoFrameBufferSize := out.dwMaxVideoFrameBufferSize
    dwDefaultFrameInterval := out.dwDefaultFrameInterval }
  size : frame.dwMaxVideoFrameBufferSize ≠ 0 →
    out.dwMaxVideoFrameBufferSize = frame.dwMaxVideoFrameBufferSize

/-- If the default interval is in the list, it is not left out by the ends of the list. -/
def FrameDesc.Spanned (frame : FrameDesc) : Prop :=
  frame.bFrameIntervalType ≠ 0 → frame.dwDefaultFrameInterval ∈ frame.walk →
    ∀ least most, frame.walk.head? = some least → frame.walk.getLast? = some most →
      least ≤ most → least ≤ frame.dwDefaultFrameInterval ∧ frame.dwDefaultFrameInterval ≤ most

section Interval

variable {least most interval : UInt32}

/-- An interval stays, unless there is a range and it is outside: then it goes to the nearer end. -/
theorem repairedInterval_cases (least most interval : UInt32) :
    (repairedInterval least most interval = interval ∧
      (least ≠ 0 → most ≠ 0 → least ≤ most → least ≤ interval ∧ interval ≤ most)) ∨
    (least ≠ 0 ∧ least ≤ most ∧ interval < least ∧
      repairedInterval least most interval = least) ∨
    (least ≠ 0 ∧ least ≤ most ∧ most < interval ∧
      repairedInterval least most interval = most) := by
  rw [repairedInterval]
  split
  · rename_i h
    obtain ⟨hleast, -, hle, hout⟩ := h
    have hbelow : interval = 0 → interval < least := by
      rintro rfl
      exact UInt32.lt_iff_toNat_lt.2 (Nat.pos_of_ne_zero (uint32_ne_zero.1 hleast))
    simp only []
    rcases or_assoc.2 hout with hlow | habove
    · have hlt : interval < least := hlow.elim hbelow id
      rw [if_pos hlt, if_neg (UInt32.not_lt.2 hle)]
      exact Or.inr (Or.inl ⟨hleast, hle, hlt, rfl⟩)
    · have hge : ¬ least > interval :=
        UInt32.not_lt.2 (UInt32.le_trans hle (UInt32.le_of_lt habove))
      rw [if_neg hge, if_pos habove]
      exact Or.inr (Or.inr ⟨hleast, hle, habove, rfl⟩)
  · rename_i h
    refine Or.inl ⟨rfl, fun hleast hmost hle => ?_⟩
    constructor
    · exact UInt32.not_lt.1 fun hlt => h ⟨hleast, hmost, hle, Or.inr (Or.inl hlt)⟩
    · exact UInt32.not_lt.1 fun hlt => h ⟨hleast, hmost, hle, Or.inr (Or.inr hlt)⟩

theorem repairedInterval_inside (hle : least ≤ interval) (hge : interval ≤ most)
    (hzero : interval = 0 → least = 0) : repairedInterval least most interval = interval := by
  rw [repairedInterval, if_neg]
  rintro ⟨hleast, -, -, rfl | hlt | hgt⟩
  · exact hleast (hzero rfl)
  · exact absurd hlt (UInt32.not_lt.2 hle)
  · exact absurd hgt (UInt32.not_lt.2 hge)

theorem repairedInterval_again :
    repairedInterval least most (repairedInterval least most interval) =
      repairedInterval least most interval := by
  rcases repairedInterval_cases least most interval with
    ⟨hsame, -⟩ | ⟨hne, hle, -, hend⟩ | ⟨hne, hle, -, hend⟩
  · rw [hsame, hsame]
  · rw [hend]
    exact repairedInterval_inside (UInt32.le_refl _) hle fun h => absurd h hne
  · rw [hend]
    refine repairedInterval_inside hle (UInt32.le_refl _) fun h => ?_
    rw [h] at hle
    exact UInt32.le_zero_iff.1 hle

end Interval

/-- The buffer size of a frame that has been repaired is not repaired again. -/
theorem repairBufferSize_again (format : FormatDesc) (frame : FrameDesc) (interval : UInt32) :
    (repairBufferSize format { frame with
        dwMaxVideoFrameBufferSize := (repairBufferSize format frame).dwMaxVideoFrameBufferSize
        dwDefaultFrameInterval := interval }).dwMaxVideoFrameBufferSize =
      (repairBufferSize format frame).dwMaxVideoFrameBufferSize := by
  by_cases h : frame.dwMaxVideoFrameBufferSize = 0 ∧ frame.wWidth ≠ 0 ∧ frame.wHeight ≠ 0
  · -- a size that was computed is computed again, or stays
    simp only [repairBufferSize, if_pos h]
    generalize (if format.bBitsPerPixel ≠ 0 then _ else _) = size
    split
    · rfl
    · rfl
  · simp only [repairBufferSize, if_neg h]

/-- The two ends of what is on offer are on offer. -/
theorem offered_ends {frame : FrameDesc} {least most : UInt32}
    (h : if frame.bFrameIntervalType = 0 then
        least = frame.dwMinFrameInterval ∧ most = frame.dwMaxFrameInterval
      else frame.walk.head? = some least ∧ frame.walk.getLast? = some most)
    (hle : least ≤ most) : frame.Offered least ∧ frame.Offered most := by
  rw [FrameDesc.Offered, FrameDesc.Offered]
  split at h
  · rename_i hzero
    obtain ⟨rfl, rfl⟩ := h
    rw [if_pos hzero, if_pos hzero]
    exact ⟨⟨UInt32.le_refl _, hle⟩, hle, UInt32.le_refl _⟩
  · rename_i hne
    rw [if_neg hne, if_neg hne]
    exact ⟨List.mem_of_mem_head? h.1, List.mem_of_mem_getLast? h.2⟩

/-- **When the repair touches only what is degenerate.**  For a frame as the parsers build it: a
second repair does nothing, a default interval that is on offer stays, another one is replaced by
one on offer, and no other field changes, if and only if a default interval from the list of
intervals lies between the first and the last of them, whenever these two are in order. -/
theorem repairInterval_iff (format : FormatDesc) {frame : FrameDesc} (hlisted : frame.Listed) :
    ∃ out, repairFrameDesc format frame = .ok out ∧
      (RepairsOnly format frame out ↔ frame.Spanned) := by
  obtain ⟨least, most, hrange, hends⟩ := intervalRange_listed hlisted
  refine ⟨_, repairFrameDesc_eq hrange, ?_, ?_⟩
  · -- the default interval is in the list, and stays, so it was not outside
    intro hrepair hne hmem least' most' hleast hmost hle
    rw [if_neg hne] at hends
    obtain rfl := Option.some.inj (hleast.symm.trans hends.1)
    obtain rfl := Option.some.inj (hmost.symm.trans hends.2)
    have hkept := hrepair.kept (by rwa [FrameDesc.Offered, if_neg hne])
    have hnonzero : ∀ v ∈ frame.walk, v ≠ 0 := fun v hv => by
      simpa using List.mem_takeWhile_imp hv
    rcases repairedInterval_cases least' most' frame.dwDefaultFrameInterval with
      ⟨-, hinside⟩ | ⟨-, -, hlt, hend⟩ | ⟨-, -, hlt, hend⟩
    · exact hinside (hnonzero _ (List.mem_of_mem_head? hleast))
        (hnonzero _ (List.mem_of_mem_getLast? hmost)) hle
    · exact absurd (hend.symm.trans hkept) (UInt32.ne_of_lt hlt).symm
    · exact absurd (hend.symm.trans hkept) (UInt32.ne_of_lt hlt)
  · intro hspan
    refine ⟨?_, fun hoffer => ?_, fun hmoved => ?_, rfl, fun hsize => ?_⟩
    · have hagain : intervalRange { frame with
          dwMaxVideoFrameBufferSize := (repairBufferSize format frame).dwMaxVideoFrameBufferSize
          dwDefaultFrameInterval := repairedInterval least most frame.dwDefaultFrameInterval } =
          .ok (least, most) := hrange
      rw [repairFrameDesc_eq hagain, repairBufferSize_again, repairedInterval_again]
    · have hinside : least ≤ most → least ≤ frame.dwDefaultFrameInterval ∧
          frame.dwDefaultFrameInterval ≤ most := by
        intro hle
        by_cases hzero : frame.bFrameIntervalType = 0
        · rw [if_pos hzero] at hends
          rw [hends.1, hends.2]
          rwa [FrameDesc.Offered, if_pos hzero] at hoffer
        · rw [if_neg hzero] at hends
          rw [FrameDesc.Offered, if_neg hzero] at hoffer
          exact hspan hzero hoffer least most hends.1 hends.2 hle
      rcases repairedInterval_cases least most frame.dwDefaultFrameInterval with
        ⟨hsame, -⟩ | ⟨-, hle, hlt, -⟩ | ⟨-, hle, hlt, -⟩
      · exact hsame
      · exact absurd hlt (UInt32.not_lt.2 (hinside hle).1)
      · exact absurd hlt (UInt32.not_lt.2 (hinside hle).2)
    · rcases repairedInterval_cases least most frame.dwDefaultFrameInterval with
        ⟨hsame, -⟩ | ⟨-, hle, -, hend⟩ | ⟨-, hle, -, hend⟩
      · exact absurd hsame hmoved
      · rw [hend]
        exact (offered_ends hends hle).1
      · rw [hend]
        exact (offered_ends hends hle).2
    · simp only [repairBufferSize, if_neg fun h => hsize (And.left h)]

/-- Intervals that are not in order, with a default that is one of them. -/
def unorderedFrame (interval : UInt32) : FrameDesc where
  bDescriptorSubtype := .frameFrameBased
  dwDefaultFrameInterval := interval
  bFrameIntervalType := 3
  intervals := [333333, 166666, 400000, 0]

theorem unorderedFrame_listed (interval : UInt32) : (unorderedFrame interval).Listed :=
  ⟨[333333, 166666, 400000], rfl, rfl, by simp⟩

/-- A default interval between the first and the last entry stays. -/
theorem repairInterval_between :
    ∃ out, repairFrameDesc (plainFormat 0) (unorderedFrame 333333) = .ok out ∧
      RepairsOnly (plainFormat 0) (unorderedFrame 333333) out := by
  obtain ⟨out, hout, hiff⟩ :=
    repairInterval_iff (plainFormat 0) (unorderedFrame_listed 333333)
  refine ⟨out, hout, hiff.2 fun _ _ least most hleast hmost _ => ?_⟩
  obtain rfl : 333333 = least := Option.some.inj hleast
  obtain rfl : 400000 = most := Option.some.inj hmost
  decide

/-- The default interval is the second entry, and below the first: it is replaced. -/
theorem repairInterval_replaced :
    ∃ out, repairFrameDesc (plainFormat 0) (unorderedFrame 166666) = .ok out ∧
      (unorderedFrame 166666).Offered 166666 ∧ out.dwDefaultFrameInterval = 333333 ∧
      ¬ RepairsOnly (plainFormat 0) (unorderedFrame 166666) out := by
  have hoffered : (unorderedFrame 166666).Offered 166666 := by
    rw [FrameDesc.Offered, if_neg (by decide)]
    decide
  refine ⟨_, rfl, hoffered, rfl, fun h => ?_⟩
  exact absurd (h.kept hoffered) (by decide)

end Descriptor
end LibUvc
