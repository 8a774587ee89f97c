import LibUvc.Descriptor.Encode
import LibUvc.Descriptor.Numbers

/-!
# Descriptors survive the scanner

For every description of a streaming interface, the scanner accepts the bytes that encode it and
builds the tree that stands for it: `scanStreaming_encode`.

The argument goes from the inside out, one lemma for each part of the grammar.  The variable parts
of a block come first: the intervals of a frame (`parseIntervals_encode`) and the patterns of a
still image.  Then every block on its own: what `parseVs` does to a tree when it is given the block
of a header, a format, a frame, a still image or something that it skips.  Frames and still images
go to the last format of the tree, so the blocks of one format are followed with that format as the
part of the tree that changes (`forEach_body`), and the formats one after the other with the list of
them (`forEach_formats`).  That the loop of the scanner finds these blocks again in the bytes is
`Scan.scan_flatten`.
-/

set_option autoImplicit false

namespace LibUvc
namespace Descriptor

open Checked Scan

/-! ## Blocks -/

theorem toNat_ofNat_of_le {n : Nat} (h : n ≤ 255) : (UInt8.ofNat n).toNat = n :=
  UInt8.toNat_ofNat_of_lt' (Nat.lt_succ_of_le h)

theorem isBlock_block {subtype : UInt8} {body : List UInt8} (h : 3 + body.length ≤ 255) :
    IsBlock 3 (block subtype body) := by
  have hlen : (block subtype body).length = 3 + body.length := by
    simp only [block, List.length_append, List.length_cons, List.length_nil]
  have hfirst : byteAt (block subtype body) 0 = UInt8.ofNat (3 + body.length) := rfl
  rw [IsBlock, hlen, hfirst, toNat_ofNat_of_le h]
  omega

/-! ## Intervals -/

theorem length_intToDw (i : UInt32) : (intToDw i).length = 4 := rfl

theorem IntervalSpec.toNat_type_discrete {intervals : List UInt32} (nonempty : intervals ≠ [])
    (few : 26 + 4 * intervals.length ≤ 255) :
    (IntervalSpec.discrete intervals nonempty few).type.toNat = intervals.length :=
  toNat_ofNat_of_le (by omega)

theorem IntervalSpec.type_discrete_ne_zero {intervals : List UInt32} (nonempty : intervals ≠ [])
    (few : 26 + 4 * intervals.length ≤ 255) :
    (IntervalSpec.discrete intervals nonempty few).type ≠ 0 := by
  intro hzero
  have hlen := toNat_type_discrete nonempty few
  rw [hzero] at hlen
  exact nonempty (List.length_eq_zero_iff.1 hlen.symm)

theorem IntervalSpec.length_encode_discrete {intervals : List UInt32} (nonempty : intervals ≠ [])
    (few : 26 + 4 * intervals.length ≤ 255) :
    (IntervalSpec.discrete intervals nonempty few).encode.length = 4 * intervals.length := by
  simp only [encode, List.length_flatMap, length_intToDw, List.map_const', List.sum_replicate_nat]
  omega

/-- The check in `uvc_parse_vs_frame_frame`. -/
theorem IntervalSpec.fits (spec : IntervalSpec) :
    ¬ (spec.type = 0 ∧ 26 + spec.encode.length < 38 ∨
      spec.type ≠ 0 ∧ 26 + spec.encode.length < 26 + 4 * spec.type.toNat) := by
  cases spec with
  | discrete intervals nonempty few =>
    rw [length_encode_discrete, toNat_type_discrete]
    rintro (⟨hzero, -⟩ | ⟨-, hshort⟩)
    · exact type_discrete_ne_zero nonempty few hzero
    · omega
  | continuous least most step =>
    rintro (⟨-, hshort⟩ | ⟨hne, -⟩)
    · exact Nat.lt_irrefl 38 hshort
    · exact hne rfl

/-- The loop over the discrete intervals stores what the bytes encode. -/
theorem storedIntervals_encode {pre : List UInt8} (hpre : pre.length = 26)
    (intervals : List UInt32) :
    storedIntervals (pre ++ intervals.flatMap intToDw) intervals.length =
      intervals.map atLeastOne := by
  refine List.ext_getElem (by simp [storedIntervals]) fun i _ hi => ?_
  rw [List.length_map] at hi
  obtain ⟨front, back, hcut, hfront⟩ := exists_flatMap_eq length_intToDw hi
  have hread : readDw (pre ++ intervals.flatMap intToDw) (26 + 4 * i) = .ok intervals[i] := by
    rw [hcut, ← List.append_assoc, ← hpre, ← hfront, ← List.length_append]
    exact readDw_append (pre ++ front) intervals[i] back
  have hlen : 26 + 4 * i + 4 ≤ (pre ++ intervals.flatMap intToDw).length := by
    rw [hcut]
    simp only [List.length_append, length_intToDw, hpre]
    omega
  have hdw := Except.ok.inj ((readDw_eq hlen).symm.trans hread)
  simp only [storedIntervals, List.getElem_map, List.getElem_range, hdw]

/-- **The intervals of a frame are read as they were written.** -/
theorem parseIntervals_encode {pre : List UInt8} (hpre : pre.length = 26) (spec : IntervalSpec)
    (frame : FrameDesc) :
    parseIntervals (pre ++ spec.encode) spec.type frame = .ok (spec.storeIn frame) := by
  cases spec with
  | discrete intervals nonempty few =>
    have hlen : 26 + 4 * intervals.length ≤ (pre ++ intervals.flatMap intToDw).length := by
      rw [List.length_append, hpre]
      exact Nat.add_le_add_left (IntervalSpec.length_encode_discrete nonempty few).ge 26
    have hlast : intervals.length < (intervals.map atLeastOne ++ [0]).length := by simp
    rw [parseIntervals, if_neg (IntervalSpec.type_discrete_ne_zero nonempty few),
      IntervalSpec.toNat_type_discrete, IntervalSpec.encode, times_storeInterval_eq hlen,
      storedIntervals_encode hpre, ok_bind, writeAt_eq hlast, ok_bind,
      List.set_append_right _ _ (by simp)]
    simp [IntervalSpec.storeIn, pure, Except.pure]
  | continuous least most step =>
    rw [IntervalSpec.encode]
    have hmin : readDw (pre ++ (intToDw least ++ intToDw most ++ intToDw step)) 26 = .ok least := by
      rw [← hpre]
      exact readDw_append pre least _
    have hmax : readDw (pre ++ (intToDw least ++ intToDw most ++ intToDw step)) 30 = .ok most := by
      rw [show 30 = (pre ++ intToDw least).length by rw [List.length_append, hpre]; rfl,
        List.append_assoc, ← List.append_assoc pre]
      exact readDw_append (pre ++ intToDw least) most _
    have hstep : readDw (pre ++ (intToDw least ++ intToDw most ++ intToDw step)) 34 = .ok step := by
      have h := readDw_append (pre ++ (intToDw least ++ intToDw most)) step []
      rw [List.length_append, hpre, List.append_nil, List.append_assoc] at h
      exact h
    have htype : (IntervalSpec.continuous least most step).type = 0 := rfl
    rw [parseIntervals, if_pos htype, hmin, ok_bind, hmax, ok_bind, hstep, ok_bind]
    rfl

/-- The range that `uvc_repair_frame_desc` finds. -/
theorem intervalRange_storeIn (spec : IntervalSpec) {frame : FrameDesc}
    (htype : frame.bFrameIntervalType = spec.type) :
    intervalRange (spec.storeIn frame) = .ok spec.ends := by
  cases spec with
  | discrete intervals nonempty few =>
    have hpos := List.length_pos_iff.2 nonempty
    have htype' : (IntervalSpec.storeIn frame (.discrete intervals nonempty few)).bFrameIntervalType
        = (IntervalSpec.discrete intervals nonempty few).type := htype
    have hfirst : (intervals.map atLeastOne ++ [0])[0]? =
        some (atLeastOne (intervals.head nonempty)) := by
      rw [List.getElem?_append_left (by simpa using hpos), List.getElem?_map,
        List.getElem?_eq_getElem hpos, List.head_eq_getElem]
      rfl
    have hlast : (intervals.map atLeastOne ++ [0])[intervals.length - 1]? =
        some (atLeastOne (intervals.getLast nonempty)) := by
      rw [List.getElem?_append_left (by rw [List.length_map]; omega), List.getElem?_map,
        List.getElem?_eq_getElem (by omega), List.getLast_eq_getElem]
      rfl
    rw [intervalRange, htype', if_neg (IntervalSpec.type_discrete_ne_zero nonempty few),
      IntervalSpec.toNat_type_discrete, IntervalSpec.storeIn, readAt_eq hfirst, ok_bind,
      readAt_eq hlast, ok_bind]
    rfl
  | continuous least most step =>
    have htype' :
        (IntervalSpec.storeIn frame (.continuous least most step)).bFrameIntervalType = 0 := htype
    rw [intervalRange, if_pos htype']
    rfl

/-! ## Frames -/

@[simp] theorem lastFormat_addFormat (streamIf : StreamingInterface) (format : FormatDesc) :
    lastFormat (streamIf.addFormat format) = .ok format := by
  simp [lastFormat, StreamingInterface.addFormat]

@[simp] theorem setLastFormat_addFormat (streamIf : StreamingInterface) (format d : FormatDesc) :
    (streamIf.addFormat format).setLastFormat d = streamIf.addFormat d := by
  simp [StreamingInterface.setLastFormat, StreamingInterface.addFormat]

theorem readSum_eq_readSw (buf : List UInt8) (off : Nat) : readSum buf off = readSw buf off := by
  have hsum : ∀ b0 b1 : UInt8, b0.toUInt16 + (b1.toUInt16 <<< 8) = swToShort b0 b1 := by
    intro b0 b1
    have h0 := b0.toNat_lt
    have h1 := b1.toNat_lt
    rw [← UInt16.toNat_inj, toNat_swToShort, UInt16.toNat_add, UInt16.toNat_shiftLeft,
      UInt8.toNat_toUInt16, UInt8.toNat_toUInt16, Nat.shiftLeft_eq]
    show (b0.toNat + b1.toNat * 2 ^ 8 % 2 ^ 16) % 2 ^ 16 = b0.toNat + b1.toNat * 2 ^ 8
    omega
  rw [readSum, readSw]
  simp only [hsum]

/-- The part of a frame block in front of its intervals. -/
def FrameSpec.head (spec : FrameSpec) (codec : Codec) : List UInt8 :=
  [UInt8.ofNat (3 + (spec.front codec ++ spec.intervals.encode).length), 0x24,
    codec.frameSubtype] ++ spec.front codec

theorem FrameSpec.encode_eq (spec : FrameSpec) (codec : Codec) :
    spec.encode codec = spec.head codec ++ spec.intervals.encode := by
  rw [encode, block, head, List.append_assoc]

theorem FrameSpec.length_head (spec : FrameSpec) (codec : Codec) :
    (spec.head codec).length = 26 := by
  cases codec <;> rfl

theorem FrameSpec.isBlock_encode (spec : FrameSpec) (codec : Codec) :
    IsBlock 3 (spec.encode codec) := by
  refine isBlock_block ?_
  have hfront : (spec.front codec).length = 23 := by
    cases codec <;> rfl
  rw [List.length_append, hfront]
  cases spec.intervals with
  | discrete intervals nonempty few =>
    rw [IntervalSpec.length_encode_discrete]
    omega
  | continuous least most step => exact Nat.le_of_ble_eq_true rfl

/-- The frame that the block describes is read as it was sent. -/
theorem parseIntervals_frame (spec : FrameSpec) (codec : Codec) (frame : FrameDesc) :
    parseIntervals (spec.encode codec) spec.intervals.type frame =
      .ok (spec.intervals.storeIn frame) := by
  rw [spec.encode_eq]
  exact parseIntervals_encode (spec.length_head codec) spec.intervals frame

/-- The fields that are at the same place in both layouts. -/
theorem FrameSpec.read_shared (spec : FrameSpec) (codec : Codec) :
    readByte (spec.encode codec) 2 = .ok codec.frameSubtype ∧
      readByte (spec.encode codec) 3 = .ok spec.bFrameIndex ∧
      readByte (spec.encode codec) 4 = .ok spec.bmCapabilities ∧
      readSum (spec.encode codec) 5 = .ok spec.wWidth ∧
      readSum (spec.encode codec) 7 = .ok spec.wHeight ∧
      readDw (spec.encode codec) 9 = .ok spec.dwMinBitRate ∧
      readDw (spec.encode codec) 13 = .ok spec.dwMaxBitRate := by
  rw [readSum_eq_readSw, readSum_eq_readSw]
  exact ⟨rfl, rfl, rfl, congrArg Except.ok (swToShort_toUInt8 _),
    congrArg Except.ok (swToShort_toUInt8 _), congrArg Except.ok (dwToInt_toUInt8 _),
    congrArg Except.ok (dwToInt_toUInt8 _)⟩

/-- The fields that the layouts with a buffer size in front have in common. -/
theorem FrameSpec.read_sized (spec : FrameSpec) {codec : Codec} (hcodec : codec ≠ .frameBased) :
    readDw (spec.encode codec) 17 = .ok spec.dwSize ∧
      readDw (spec.encode codec) 21 = .ok spec.dwDefaultFrameInterval ∧
      readByte (spec.encode codec) 25 = .ok spec.intervals.type := by
  cases codec with
  | uncompressed =>
    exact ⟨congrArg Except.ok (dwToInt_toUInt8 _), congrArg Except.ok (dwToInt_toUInt8 _), rfl⟩
  | mjpeg =>
    exact ⟨congrArg Except.ok (dwToInt_toUInt8 _), congrArg Except.ok (dwToInt_toUInt8 _), rfl⟩
  | frameBased => exact absurd rfl hcodec

theorem parseVsFrameUncompressed_encode (streamIf : StreamingInterface) (format : FormatDesc)
    (spec : FrameSpec) {codec : Codec} (hcodec : codec ≠ .frameBased) :
    parseVsFrameUncompressed (streamIf.addFormat format) (spec.encode codec) =
      addFrame (streamIf.addFormat format) format (spec.sent codec) := by
  obtain ⟨hsubtype, hindex, hcaps, hwidth, hheight, hmin, hmax⟩ := spec.read_shared codec
  obtain ⟨hsize, hdefault, htype⟩ := spec.read_sized hcodec
  simp only [parseVsFrameUncompressed, lastFormat_addFormat, hsubtype, hindex, hcaps, hwidth,
    hheight, hmin, hmax, hsize, hdefault, htype, ok_bind, parseIntervals_frame, FrameSpec.sent,
    if_neg hcodec]

theorem parseVsFrameFrame_encode (streamIf : StreamingInterface) (format : FormatDesc)
    (spec : FrameSpec) :
    parseVsFrameFrame (streamIf.addFormat format) (spec.encode .frameBased)
        (spec.encode .frameBased).length =
      addFrame (streamIf.addFormat format) format (spec.sent .frameBased) := by
  obtain ⟨hsubtype, hindex, hcaps, hwidth, hheight, hmin, hmax⟩ := spec.read_shared .frameBased
  have hdefault : readDw (spec.encode .frameBased) 17 = .ok spec.dwDefaultFrameInterval :=
    congrArg Except.ok (dwToInt_toUInt8 _)
  have htype : readByte (spec.encode .frameBased) 21 = .ok spec.intervals.type := rfl
  have hsize : readDw (spec.encode .frameBased) 22 = .ok spec.dwSize :=
    congrArg Except.ok (dwToInt_toUInt8 _)
  have hlen : (spec.encode .frameBased).length = 26 + spec.intervals.encode.length := by
    rw [spec.encode_eq, List.length_append, spec.length_head]
  have hlong : ¬ ((spec.encode .frameBased).length < 26 ∨
      (streamIf.addFormat format).formatDescs = []) := by
    rw [hlen]
    simp [StreamingInterface.addFormat]
  have hfits : ¬ (spec.intervals.type = 0 ∧ (spec.encode .frameBased).length < 38 ∨
      spec.intervals.type ≠ 0 ∧
        (spec.encode .frameBased).length < 26 + 4 * spec.intervals.type.toNat) := by
    rw [hlen]
    exact spec.intervals.fits
  simp only [parseVsFrameFrame, if_neg hlong, htype, ok_bind, if_neg hfits, lastFormat_addFormat,
    hsubtype, hindex, hcaps, hwidth, hheight, hmin, hmax, hdefault, hsize, parseIntervals_frame,
    FrameSpec.sent, if_true]

/-- Only the depth of the pixels matters to `uvc_repair_frame_desc`. -/
theorem repairBufferSize_congr {d format : FormatDesc}
    (h : d.bBitsPerPixel = format.bBitsPerPixel) (frame : FrameDesc) :
    repairBufferSize d frame = repairBufferSize format frame := by
  rw [repairBufferSize, repairBufferSize, h]

/-- `uvc_parse_vs` on a block with nothing behind it. -/
abbrev parseAlone (streamIf : StreamingInterface) (block : List UInt8) :
    Checked (Ret × StreamingInterface) :=
  parseVs streamIf block block.length

/-- **A frame goes to the last format.** -/
theorem parseVs_frame (streamIf : StreamingInterface) {d format : FormatDesc} (codec : Codec)
    (spec : FrameSpec) (hbpp : d.bBitsPerPixel = format.bBitsPerPixel) :
    parseAlone (streamIf.addFormat d) (spec.encode codec) = .ok (Ret.success, streamIf.addFormat
      { d with frameDescs := d.frameDescs ++ [spec.repaired codec format] }) := by
  have hparse : parseAlone (streamIf.addFormat d) (spec.encode codec) =
      addFrame (streamIf.addFormat d) d (spec.sent codec) := by
    cases codec with
    | uncompressed => exact parseVsFrameUncompressed_encode streamIf d spec (by decide)
    | mjpeg => exact parseVsFrameUncompressed_encode streamIf d spec (by decide)
    | frameBased => exact parseVsFrameFrame_encode streamIf d spec
  have hrange : intervalRange (spec.sent codec) = .ok spec.intervals.ends :=
    intervalRange_storeIn spec.intervals rfl
  rw [hparse, addFrame, repairFrameDesc]
  simp only [intervalRange_repairBufferSize, hrange, ok_bind, pure_bind', setLastFormat_addFormat,
    repairBufferSize_congr hbpp]
  rfl

/-! ## Still images -/

theorem length_encodeSize (p : UInt16 × UInt16) : (encodeSize p).length = 4 := rfl

/-- The loop over the size patterns, on the bytes that encode them. -/
theorem times_addSizePattern {pre : List UInt8} (hpre : pre.length = 5)
    (sizes : List (UInt16 × UInt16)) (rest : List UInt8) :
    times (addSizePattern (pre ++ (sizes.flatMap encodeSize ++ rest))) sizes.length [] =
      .ok (sizes.mapIdx fun i p => ⟨UInt8.ofNat (i + 1), p.1, p.2⟩) := by
  have hround : ∀ i (hi : i < (sizes.mapIdx fun i p =>
        (⟨UInt8.ofNat (i + 1), p.1, p.2⟩ : StillFrameRes)).length) (l : List StillFrameRes),
      addSizePattern (pre ++ (sizes.flatMap encodeSize ++ rest)) i l =
        .ok (l ++ [(sizes.mapIdx fun i p =>
          (⟨UInt8.ofNat (i + 1), p.1, p.2⟩ : StillFrameRes))[i]]) := by
    intro i hi l
    rw [List.length_mapIdx] at hi
    obtain ⟨front, back, hcut, hfront⟩ := exists_flatMap_eq length_encodeSize hi
    have hwidth : readSw (pre ++ (sizes.flatMap encodeSize ++ rest)) (5 + 4 * i) =
        .ok sizes[i].1 := by
      have h := readSw_append (pre ++ front) sizes[i].1 (shortToSw sizes[i].2 ++ (back ++ rest))
      rw [List.length_append, hpre, hfront] at h
      rw [hcut]
      simpa only [encodeSize, List.append_assoc] using h
    have hheight : readSw (pre ++ (sizes.flatMap encodeSize ++ rest)) (7 + 4 * i) =
        .ok sizes[i].2 := by
      have h := readSw_append (pre ++ front ++ shortToSw sizes[i].1) sizes[i].2 (back ++ rest)
      rw [List.length_append, List.length_append, hpre, hfront,
        show 5 + 4 * i + (shortToSw sizes[i].1).length = 7 + 4 * i from Nat.add_right_comm 5 _ 2]
        at h
      rw [hcut]
      simpa only [encodeSize, List.append_assoc] using h
    rw [addSizePattern, hwidth, ok_bind, hheight, ok_bind, List.getElem_mapIdx]
    rfl
  have hall := times_collect hround
  rw [List.length_mapIdx] at hall
  exact hall

/-- The loop over the compression patterns. -/
theorem times_storeCompression {pre : List UInt8} {start : Nat} (hpre : pre.length = start + 1)
    (patterns : List UInt8) :
    times (storeCompression (pre ++ patterns) start) patterns.length
        (List.replicate patterns.length 0) = .ok patterns := by
  have hround : ∀ i (hi : i < patterns.length) (l : List UInt8),
      storeCompression (pre ++ patterns) start i l = writeAt l i patterns[i] := by
    intro i hi l
    have hin : start + 1 + i < (pre ++ patterns).length := by
      rw [List.length_append]
      omega
    rw [storeCompression, readByte_eq hin, ok_bind, ← hpre, byteAt_append_add,
      byteAt_eq_getElem hi]
  have hfill := times_fill hround 0 []
  rwa [List.append_nil, List.append_nil] at hfill

/-- The part of a still image block in front of its size patterns. -/
def StillSpec.head (spec : StillSpec) : List UInt8 :=
  [UInt8.ofNat (3 + ([spec.bEndPointAddress, UInt8.ofNat spec.imageSizePatterns.length] ++
      spec.imageSizePatterns.flatMap encodeSize ++
      [UInt8.ofNat spec.bCompression.length] ++ spec.bCompression).length), 0x24, 0x03,
    spec.bEndPointAddress, UInt8.ofNat spec.imageSizePatterns.length]

theorem StillSpec.encode_eq (spec : StillSpec) :
    spec.encode = spec.head ++ (spec.imageSizePatterns.flatMap encodeSize ++
      (UInt8.ofNat spec.bCompression.length :: spec.bCompression)) := by
  simp [encode, block, head]

theorem StillSpec.length_sizes (spec : StillSpec) :
    (spec.imageSizePatterns.flatMap encodeSize).length = 4 * spec.imageSizePatterns.length := by
  simp only [List.length_flatMap, length_encodeSize, List.map_const', List.sum_replicate_nat]
  omega

theorem StillSpec.isBlock_encode (spec : StillSpec) : IsBlock 3 spec.encode := by
  refine isBlock_block ?_
  have hsmall := spec.small
  simp only [List.length_append, spec.length_sizes, List.length_cons, List.length_nil]
  omega

/-- **A still image goes to the last format.** -/
theorem parseVs_still (streamIf : StreamingInterface) (d : FormatDesc) (spec : StillSpec) :
    parseAlone (streamIf.addFormat d) spec.encode = .ok (Ret.success, streamIf.addFormat
      { d with stillFrameDesc := d.stillFrameDesc ++ [spec.tree] }) := by
  have hsmall := spec.small
  have hsizes : (UInt8.ofNat spec.imageSizePatterns.length).toNat =
      spec.imageSizePatterns.length := toNat_ofNat_of_le (by omega)
  have hcompressions : (UInt8.ofNat spec.bCompression.length).toNat = spec.bCompression.length :=
    toNat_ofNat_of_le (by omega)
  -- the block up to the number of compression patterns
  let pre := spec.head ++ spec.imageSizePatterns.flatMap encodeSize
  have hpre : pre.length = 5 + 4 * spec.imageSizePatterns.length := by
    rw [List.length_append, spec.length_sizes]
    rfl
  have hcount : readByte spec.encode (5 + 4 * spec.imageSizePatterns.length) =
      .ok (UInt8.ofNat spec.bCompression.length) := by
    rw [spec.encode_eq, ← List.append_assoc, ← hpre]
    exact readByte_append_add pre _ 0
  have hpatterns : times (addSizePattern spec.encode) spec.imageSizePatterns.length [] =
      .ok spec.tree.imageSizePatterns := by
    rw [spec.encode_eq]
    exact times_addSizePattern rfl _ _
  have hcompression : times (storeCompression spec.encode (5 + 4 * spec.imageSizePatterns.length))
      spec.bCompression.length (List.replicate spec.bCompression.length 0) =
      .ok spec.bCompression := by
    rw [spec.encode_eq, ← List.append_assoc, List.append_cons]
    refine times_storeCompression ?_ _
    rw [List.length_append, hpre]
    rfl
  show parseVsStillImageFrame (streamIf.addFormat d) spec.encode = _
  have hsubtype : readByte spec.encode 2 = .ok 0x03 := rfl
  have hendpoint : readByte spec.encode 3 = .ok spec.bEndPointAddress := rfl
  have hnumber : readByte spec.encode 4 = .ok (UInt8.ofNat spec.imageSizePatterns.length) := rfl
  simp only [parseVsStillImageFrame, lastFormat_addFormat, hsubtype, hendpoint, hnumber, ok_bind,
    hsizes, hpatterns, hcount, hcompressions, hcompression, setLastFormat_addFormat]
  rfl

/-! ## Headers, formats and the rest -/

theorem HeaderSpec.isBlock_encode (spec : HeaderSpec) : IsBlock 3 spec.encode := by
  refine isBlock_block ?_
  have hsmall := spec.small
  simp only [shortToSw, List.length_append, List.length_cons, List.length_nil]
  omega

theorem parseVs_header (streamIf : StreamingInterface) (spec : HeaderSpec) :
    parseAlone streamIf spec.encode = .ok (Ret.success, { streamIf with
      bEndpointAddress := spec.bEndpointAddress &&& 0x8f
      bTerminalLink := spec.bTerminalLink
      bStillCaptureMethod := spec.bStillCaptureMethod }) := rfl

theorem IgnoredSpec.isBlock_encode (spec : IgnoredSpec) : IsBlock 3 spec.encode :=
  isBlock_block spec.small

theorem parseVs_ignored (streamIf : StreamingInterface) (spec : IgnoredSpec) :
    parseAlone streamIf spec.encode = .ok (Ret.success, streamIf) :=
  parseVs_skipped spec.isBlock_encode.1 spec.ignored streamIf _

theorem FormatSpec.isBlock_encodeFormat (spec : FormatSpec) : IsBlock 3 spec.encodeFormat := by
  rw [encodeFormat]
  cases spec.kind with
  | uncompressed guidFormat sixteen bBitsPerPixel =>
    refine isBlock_block ?_
    simp only [common, List.length_append, List.length_cons, List.length_nil, sixteen]
    omega
  | mjpeg bmFlags => exact isBlock_block (Nat.le_of_ble_eq_true rfl)
  | frameBased guidFormat sixteen bBitsPerPixel bVariableSize =>
    refine isBlock_block ?_
    simp only [common, List.length_append, List.length_cons, List.length_nil, sixteen]
    omega

/-- The two layouts that have a GUID agree from there on. -/
theorem FormatSpec.read_guid (spec : FormatSpec) (bDescriptorSubtype bBitsPerPixel : UInt8)
    {guidFormat : List UInt8} (sixteen : guidFormat.length = 16) (rest : List UInt8) :
    let b := block bDescriptorSubtype ([spec.bFormatIndex, spec.bNumFrameDescriptors] ++
      guidFormat ++ [bBitsPerPixel] ++ spec.common ++ rest)
    slice b 5 16 = .ok guidFormat ∧ readByte b 21 = .ok bBitsPerPixel ∧
      readByte b 22 = .ok spec.bDefaultFrameIndex ∧ readByte b 23 = .ok spec.bAspectRatioX ∧
      readByte b 24 = .ok spec.bAspectRatioY ∧ readByte b 25 = .ok spec.bmInterlaceFlags ∧
      readByte b 26 = .ok spec.bCopyProtect ∧ ∀ i, readByte b (27 + i) = readByte rest i := by
  intro b
  obtain ⟨pre, hpre, hb⟩ : ∃ pre : List UInt8, pre.length = 5 ∧
      b = pre ++ (guidFormat ++ ([bBitsPerPixel] ++ spec.common ++ rest)) := by
    refine ⟨[byteAt b 0, 0x24, bDescriptorSubtype, spec.bFormatIndex, spec.bNumFrameDescriptors],
      rfl, ?_⟩
    simp only [b, block, List.append_assoc]
    rfl
  have hguid : slice b 5 16 = .ok guidFormat := by
    rw [hb, ← hpre, ← sixteen]
    exact slice_append pre guidFormat _
  have hread : ∀ i, readByte b (21 + i) = readByte ([bBitsPerPixel] ++ spec.common ++ rest) i := by
    intro i
    rw [hb, ← List.append_assoc, show 21 = (pre ++ guidFormat).length by
      rw [List.length_append, hpre, sixteen]]
    exact readByte_append_add (pre ++ guidFormat) _ i
  refine ⟨hguid, hread 0, hread 1, hread 2, hread 3, hread 4, hread 5, fun i => ?_⟩
  rw [show 27 + i = 21 + (6 + i) by omega, hread]
  exact readByte_append_add ([bBitsPerPixel] ++ spec.common) rest i

/-- **A format becomes the last one.** -/
theorem parseVs_format (streamIf : StreamingInterface) (spec : FormatSpec) :
    parseAlone streamIf spec.encodeFormat = .ok (Ret.success, streamIf.addFormat spec.bare) := by
  rw [FormatSpec.encodeFormat, FormatSpec.bare]
  cases spec.kind with
  | uncompressed guidFormat sixteen bBitsPerPixel =>
    have hfields := spec.read_guid 0x04 bBitsPerPixel sixteen []
    rw [List.append_nil] at hfields
    obtain ⟨hguid, h21, h22, h23, h24, h25, h26, -⟩ := hfields
    have hparse : ∀ body, parseAlone streamIf (block 0x04 body) =
        parseVsFormatUncompressed streamIf (block 0x04 body) := fun _ => rfl
    simp only []
    rw [hparse, parseVsFormatUncompressed, hguid, h21, h22, h23, h24, h25, h26]
    rfl
  | mjpeg bmFlags => rfl
  | frameBased guidFormat sixteen bBitsPerPixel bVariableSize =>
    obtain ⟨hguid, h21, h22, h23, h24, h25, h26, hrest⟩ :=
      spec.read_guid 0x10 bBitsPerPixel sixteen [bVariableSize]
    have h27 := hrest 0
    have hlong : ¬ (block 0x10 ([spec.bFormatIndex, spec.bNumFrameDescriptors] ++ guidFormat ++
        [bBitsPerPixel] ++ spec.common ++ [bVariableSize])).length < 28 := by
      simp [block, FormatSpec.common, sixteen]
    have hparse : ∀ body, parseAlone streamIf (block 0x10 body) =
        parseVsFrameFormat streamIf (block 0x10 body) (block 0x10 body).length := fun _ => rfl
    simp only []
    rw [hparse, parseVsFrameFormat, if_neg hlong, hguid, h21, h22, h23, h24, h25, h26, h27]
    rfl

/-! ## From blocks to the interface -/

theorem forEach_ignored (streamIf : StreamingInterface) (specs : List IgnoredSpec) :
    forEach parseAlone streamIf (specs.map IgnoredSpec.encode) = .ok (Ret.success, streamIf) := by
  induction specs with
  | nil => rfl
  | cons spec specs ih =>
    exact forEach_cons_eq_success.2 ⟨streamIf, parseVs_ignored streamIf spec, ih⟩

/-- What comes after a format is added to that format, each thing to its own list. -/
theorem forEach_body (streamIf : StreamingInterface) (codec : Codec) {d format : FormatDesc}
    (hbpp : d.bBitsPerPixel = format.bBitsPerPixel) (body : List Item) :
    forEach parseAlone (streamIf.addFormat d) (body.map (Item.encode codec)) =
      .ok (Ret.success, streamIf.addFormat { d with
        frameDescs := d.frameDescs ++
          (body.filterMap Item.frame?).map (·.repaired codec format)
        stillFrameDesc := d.stillFrameDesc ++
          (body.filterMap Item.still?).map StillSpec.tree }) := by
  induction body generalizing d with
  | nil => simp [forEach, Ret.success, pure, Except.pure]
  | cons item body ih =>
    rw [List.map_cons]
    refine forEach_cons_eq_success.2 ?_
    cases item with
    | frame spec =>
      refine ⟨_, parseVs_frame streamIf codec spec hbpp, (ih (d := { d with
        frameDescs := d.frameDescs ++ [spec.repaired codec format] }) hbpp).trans ?_⟩
      simp [Item.frame?, Item.still?, List.filterMap_cons, Ret.success]
    | still spec =>
      refine ⟨_, parseVs_still streamIf d spec, (ih (d := { d with
        stillFrameDesc := d.stillFrameDesc ++ [spec.tree] }) hbpp).trans ?_⟩
      simp [Item.frame?, Item.still?, List.filterMap_cons, Ret.success]
    | ignored spec =>
      refine ⟨_, parseVs_ignored _ spec, (ih hbpp).trans ?_⟩
      simp [Item.frame?, Item.still?, List.filterMap_cons, Ret.success]

theorem FormatSpec.bare_lists (spec : FormatSpec) :
    spec.bare.frameDescs = [] ∧ spec.bare.stillFrameDesc = [] := by
  rw [bare]
  cases spec.kind with
  | uncompressed | mjpeg | frameBased => exact ⟨rfl, rfl⟩

theorem forEach_format (streamIf : StreamingInterface) (spec : FormatSpec) :
    forEach parseAlone streamIf spec.blocks = .ok (Ret.success, streamIf.addFormat spec.tree) := by
  obtain ⟨hframes, hstills⟩ := spec.bare_lists
  refine forEach_cons_eq_success.2 ⟨_, parseVs_format streamIf spec, ?_⟩
  rw [forEach_body streamIf spec.kind.codec (rfl : spec.bare.bBitsPerPixel = _) spec.body, hframes,
    hstills]
  rfl

/-- The formats follow one another in the tree as they do in the bytes. -/
theorem forEach_formats (streamIf : StreamingInterface) (specs : List FormatSpec) :
    forEach parseAlone streamIf (specs.flatMap FormatSpec.blocks) = .ok (Ret.success,
      { streamIf with formatDescs := streamIf.formatDescs ++ specs.map FormatSpec.tree }) := by
  induction specs generalizing streamIf with
  | nil => simp [forEach, Ret.success, pure, Except.pure]
  | cons spec specs ih =>
    rw [List.flatMap_cons]
    refine forEach_append_eq_success.2 ⟨_, forEach_format streamIf spec, ?_⟩
    refine (ih _).trans ?_
    simp [StreamingInterface.addFormat, Ret.success]

theorem StreamSpec.isBlock_of_mem (spec : StreamSpec) : ∀ b ∈ spec.blocks, IsBlock 3 b := by
  intro b hb
  simp only [blocks, List.append_assoc, List.cons_append, List.mem_append, List.mem_cons,
    List.mem_map, List.mem_flatMap, FormatSpec.blocks] at hb
  rcases hb with ⟨i, -, rfl⟩ | rfl | ⟨i, -, rfl⟩ | ⟨format, -, rfl | ⟨item, -, rfl⟩⟩
  · exact i.isBlock_encode
  · exact spec.header.isBlock_encode
  · exact i.isBlock_encode
  · exact format.isBlock_encodeFormat
  · cases item with
    | frame f => exact f.isBlock_encode format.kind.codec
    | still f => exact f.isBlock_encode
    | ignored i => exact i.isBlock_encode

theorem forEach_stream (bInterfaceNumber : UInt8) (spec : StreamSpec) :
    forEach parseAlone { bInterfaceNumber := bInterfaceNumber } spec.blocks =
      .ok (Ret.success, spec.tree bInterfaceNumber) := by
  rw [StreamSpec.blocks, List.append_assoc]
  refine forEach_append_eq_success.2 ⟨_, forEach_ignored _ spec.lead, ?_⟩
  rw [List.cons_append]
  refine forEach_cons_eq_success.2 ⟨_, parseVs_header _ spec.header, ?_⟩
  refine forEach_append_eq_success.2 ⟨_, forEach_ignored _ spec.gap, ?_⟩
  rw [forEach_formats, List.nil_append]
  rfl

/-- **Streaming descriptors round-trip.**  Whatever the description, an interface whose
class-specific bytes are its encoding is accepted, and the tree of the description is added to the
device. -/
theorem scanStreaming_encode (config : ConfigDescriptor) (info : DeviceInfo) (interfaceIdx : Nat)
    (ifDesc : InterfaceDescriptor) (spec : StreamSpec)
    (hsetting : firstSetting config interfaceIdx = some ifDesc)
    (hextra : ifDesc.extra = spec.encode) :
    scanStreaming config info interfaceIdx = .ok (Ret.success, { info with
      streamIfs := info.streamIfs ++ [spec.tree ifDesc.bInterfaceNumber] }) := by
  obtain ⟨interface, hinterface, hfirst⟩ := Option.bind_eq_some_iff.1 hsetting
  obtain ⟨hidx, -⟩ := List.getElem?_eq_some_iff.1 hinterface
  obtain ⟨halt, -⟩ := List.getElem?_eq_some_iff.1 hfirst
  have hscan : scan 3 Ret.errorInvalidDevice (fun s b => parseVs s b.own b.size)
      { bInterfaceNumber := ifDesc.bInterfaceNumber } spec.encode =
        .ok (Ret.success, spec.tree ifDesc.bInterfaceNumber) := by
    simp only [← Block.length_own]
    rw [StreamSpec.encode, scan_flatten (by decide) _ _ _ spec.isBlock_of_mem,
      forEach_own parseAlone, map_own_placed, forEach_stream]
  refine scanStreaming_of_block ?_
  rw [scanStreamingIn, if_neg (Nat.not_le.2 hidx), readAt_eq hinterface, ok_bind,
    if_neg (Nat.not_lt.2 halt), readAt_eq hfirst, ok_bind, hextra]
  show scan 3 Ret.errorInvalidDevice (fun s b => parseVs s b.own b.size) _ _ >>= _ = _
  rw [hscan]
  rfl

/-- A camera with one MJPEG format: a frame with two intervals, the second of them missing, then the
colours, then a still image in two sizes. -/
def StreamSpec.camera : StreamSpec where
  lead := []
  header := ⟨1, 110, 0xf1, 0, 3, 2, 0, 0, 1, [0], by decide⟩
  gap := []
  formats := [{
    kind := .mjpeg 1
    bFormatIndex := 1
    bNumFrameDescriptors := 1
    bDefaultFrameIndex := 1
    bAspectRatioX := 0
    bAspectRatioY := 0
    bmInterlaceFlags := 0
    bCopyProtect := 0
    body := [
      .frame ⟨1, 0, 640, 480, 0, 0, 333333, 614400, .discrete [333333, 0] (by decide) (by decide)⟩,
      .ignored ⟨0x0d, [1, 1, 4], rfl, by decide⟩,
      .still ⟨0, [(640, 480), (1280, 960)], [5], by decide⟩] }]

theorem scanStreaming_encode_camera :
    scanStreaming ⟨[⟨[{ bInterfaceNumber := 1, extra := StreamSpec.camera.encode }]⟩]⟩ {} 0 =
        .ok (Ret.success, { streamIfs := [StreamSpec.camera.tree 1] }) ∧
      (StreamSpec.camera.tree 1).bEndpointAddress = 0x81 ∧
      (StreamSpec.camera.tree 1).formatDescs.map (·.frameDescs.map (·.intervals)) =
        [[[333333, 1, 0]]] ∧
      (StreamSpec.camera.tree 1).formatDescs.map (·.stillFrameDesc.map (·.imageSizePatterns)) =
        [[[⟨1, 640, 480⟩, ⟨2, 1280, 960⟩]]] :=
  ⟨scanStreaming_encode _ {} 0 { bInterfaceNumber := 1, extra := StreamSpec.camera.encode }
    StreamSpec.camera rfl rfl, by decide, by decide, by decide⟩

end Descriptor
end LibUvc
