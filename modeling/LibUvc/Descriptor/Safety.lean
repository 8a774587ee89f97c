import LibUvc.Descriptor.Parse

/-!
# When the descriptor scan stays in bounds

The scanner trusts most of what a device says about itself.  Only the two frame-based parsers check
that a block is as long as the fields it announces, and only they check that there is a format to
put a frame under; the other parsers read at fixed offsets, follow counts found in the block, and
take the last format for granted.  So the scan stays inside the blocks on some devices and not on
others, and this file says exactly on which: `scanControl_safe_iff`.  `scanControl_of_block` says
that where it does, it makes no difference that the C code could have read on.

The condition is put together from judges, one for each level of the format, each of which looks at
bytes and lengths only:

* `vsJudge` and `vcJudge` say of one block how long it has to be for its subtype and for the counts
  inside it, and whether it is accepted;
* `streamJudge` says it of a streaming interface, whose blocks are read only if the interface exists
  and has a setting;
* `ScanFits` says it of a configuration.

What a judge rests on is only whether a format was seen before, so `vsJudge` has one `Bool` of state
and the others have none.
-/

set_option autoImplicit false

namespace LibUvc
namespace Descriptor

open Checked Scan

/-! ## The condition -/

/-- There is room for the intervals that are announced: three fields of a range, or a list. -/
def IntervalsFit (size : Nat) (count : UInt8) : Prop :=
  if count = 0 then 38 ≤ size else 26 + 4 * count.toNat ≤ size

/-- The block has room for the size patterns and the compression patterns it announces. -/
def StillFits (block : List UInt8) : Prop :=
  6 + 4 * (byteAt block 4).toNat ≤ block.length ∧
  6 + 4 * (byteAt block 4).toNat + (byteAt block (5 + 4 * (byteAt block 4).toNat)).toNat ≤
    block.length

/-- The VideoStreaming block can be read, given whether there is a format already. -/
def VsFits (hasFormat : Bool) (block : List UInt8) : Prop :=
  3 ≤ block.length ∧
  match VsSubtype.ofByte (byteAt block 2) with
  | .inputHeader => 10 ≤ block.length
  | .stillImageFrame => hasFormat = true ∧ StillFits block
  | .formatUncompressed => 27 ≤ block.length
  | .formatMjpeg => 11 ≤ block.length
  | .frameUncompressed | .frameMjpeg =>
    hasFormat = true ∧ 26 ≤ block.length ∧ IntervalsFit block.length (byteAt block 25)
  | _ => True

/-- The VideoStreaming block, of this size, is accepted, if it can be read. -/
def VsAccepted (hasFormat : Bool) (block : List UInt8) (size : Nat) : Prop :=
  match VsSubtype.ofByte (byteAt block 2) with
  | .formatFrameBased => 28 ≤ size
  | .frameFrameBased => hasFormat = true ∧ 26 ≤ size ∧ IntervalsFit size (byteAt block 21)
  | _ => True

/-- The block describes a format. -/
def isFormat (block : List UInt8) : Bool :=
  match VsSubtype.ofByte (byteAt block 2) with
  | .formatUncompressed | .formatMjpeg | .formatFrameBased => true
  | _ => false

/-- `uvc_parse_vs` from outside. -/
def vsJudge : Judge Bool (List UInt8) where
  fits := VsFits
  accepts hasFormat block := VsAccepted hasFormat block block.length
  next hasFormat block := hasFormat || isFormat block

/-- The bytes of the streaming interface with this index, if it exists and has a setting. -/
def streamExtra (config : ConfigDescriptor) (interfaceIdx : Nat) : Option (List UInt8) :=
  (config.interface[interfaceIdx]?.bind fun interface => interface.altsetting[0]?).map (·.extra)

/-- `uvc_scan_streaming` from outside. -/
def streamJudge (config : ConfigDescriptor) : Judge Unit Nat where
  fits _ idx := ∀ extra, streamExtra config idx = some extra → (vsJudge.blocks 3).fits false extra
  accepts _ idx :=
    ∃ extra, streamExtra config idx = some extra ∧ (vsJudge.blocks 3).accepts false extra
  next _ _ := ()

/-- The interfaces that a header block names. -/
def namedStreams (block : List UInt8) : List Nat := (block.drop 12).map UInt8.toNat

/-- The header block can be read, and so can the interfaces it names. -/
def HeaderFits (config : ConfigDescriptor) (block : List UInt8) : Prop :=
  5 ≤ block.length ∧ (knownVersion (swAt block 3) = true →
    11 ≤ block.length ∧ (streamJudge config).FitsAll () (namedStreams block))

/-- The bytes `bmControls` is made of lie in the block, if there are any. -/
def ControlsFit (block : List UInt8) (base : Nat) (count : UInt8) : Prop :=
  base + count.toNat ≤ block.length

/-- The VideoControl block can be read. -/
def VcFits (config : ConfigDescriptor) (block : List UInt8) : Prop :=
  2 ≤ block.length ∧ (byteAt block 1 = 36 → 3 ≤ block.length ∧
    match VcSubtype.ofByte (byteAt block 2) with
    | .header => HeaderFits config block
    | .inputTerminal => 6 ≤ block.length ∧ (swAt block 4 = ittCamera →
        15 ≤ block.length ∧ ControlsFit block 15 (byteAt block 14))
    | .selectorUnit => 4 ≤ block.length
    | .processingUnit => 8 ≤ block.length ∧ ControlsFit block 8 (byteAt block 7)
    | .extensionUnit => 22 ≤ block.length ∧ 23 + (byteAt block 21).toNat ≤ block.length ∧
        ControlsFit block (23 + (byteAt block 21).toNat)
          (byteAt block (22 + (byteAt block 21).toNat))
    | .outputTerminal | .other _ => True)

/-- The VideoControl block is accepted, if it can be read. -/
def VcAccepted (config : ConfigDescriptor) (block : List UInt8) : Prop :=
  byteAt block 1 = 36 →
    match VcSubtype.ofByte (byteAt block 2) with
    | .header => knownVersion (swAt block 3) = true ∧
        (streamJudge config).AcceptsAll () (namedStreams block)
    | .other _ => False
    | _ => True

/-- `uvc_parse_vc` from outside. -/
def vcJudge (config : ConfigDescriptor) : Judge Unit (List UInt8) where
  fits _ := VcFits config
  accepts _ := VcAccepted config
  next _ _ := ()

/-- Every interface up to and including the first VideoControl one has a setting, and the blocks of
the VideoControl one can be read. -/
def ControlFits (tis : Bool) (config : ConfigDescriptor) : List Interface → Prop
  | [] => True
  | interface :: rest => ∃ ifDesc, interface.altsetting[0]? = some ifDesc ∧
      if isVideoControl tis ifDesc then ((vcJudge config).blocks 3).fits () ifDesc.extra
      else ControlFits tis config rest

/-- The configuration can be scanned. -/
def ScanFits (devDesc : Option DeviceDescriptor) (config : ConfigDescriptor) : Prop :=
  ControlFits (haveTISCamera devDesc) config config.interface

/-! ## Fields and loops -/

/-- The field `readSum` reads, unchecked. -/
def sumAt (buf : List UInt8) (off : Nat) : UInt16 :=
  (byteAt buf off).toUInt16 + ((byteAt buf (off + 1)).toUInt16 <<< 8)

@[simp] theorem safe_bind_readSum {β : Type} {buf : List UInt8} {off : Nat}
    {f : UInt16 → Checked β} :
    Safe (readSum buf off >>= f) ↔ off + 2 ≤ buf.length ∧ Safe (f (sumAt buf off)) := by
  simp only [readSum, bind_assoc, safe_bind_readByte, pure_bind', ← and_assoc]
  refine and_congr ?_ Iff.rfl
  omega

theorem safe_controlBits {block : List UInt8} {base : Nat} (n : Nat) (bits : UInt64)
    (h : base ≤ block.length) : Safe (controlBits block base n bits) ↔ base + n ≤ block.length := by
  induction n generalizing bits with
  | zero => exact iff_of_true (safe_pure _) h
  | succ n ih =>
    rw [controlBits, safe_bind_readByte, ih]
    omega

/-- One round of the loop over the intervals. -/
theorem storeInterval_ok {block : List UInt8} {n i : Nat} (h : 26 + 4 * n ≤ block.length)
    (hi : i < n) {xs : List UInt32} (hlen : xs.length = n + 1) :
    ∃ ys, storeInterval block i xs = .ok ys ∧ ys.length = n + 1 := by
  rw [storeInterval, readDw_eq (by omega), ok_bind, writeAt_eq (by omega)]
  exact ⟨_, rfl, by rw [List.length_set, hlen]⟩

/-- The loop over the intervals, when all of them are in the block. -/
theorem storeIntervals_ok {block : List UInt8} {n : Nat} (h : 26 + 4 * n ≤ block.length) :
    ∃ xs, times (storeInterval block) n (List.replicate (n + 1) 0) = .ok xs ∧
      xs.length = n + 1 :=
  times_ok (I := fun _ (xs : List UInt32) => xs.length = n + 1) List.length_replicate
    fun _ _ hi hlen => storeInterval_ok h hi hlen

theorem safe_storeIntervals {block : List UInt8} {n : Nat} (hn : n ≠ 0) :
    Safe (times (storeInterval block) n (List.replicate (n + 1) 0)) ↔
      26 + 4 * n ≤ block.length := by
  refine safe_times_iff (I := fun _ (xs : List UInt32) => xs.length = n + 1)
    List.length_replicate (fun h => absurd h hn) ?_ fun h _ _ hi hlen => storeInterval_ok h hi hlen
  intro i hi xs hs
  rw [storeInterval, safe_bind_readDw] at hs
  omega

/-- The end of a frame block can be read exactly if it is there, and the array of intervals then has
the length it was allocated with. -/
theorem parseIntervals_safe {block : List UInt8} {count : UInt8} (frame : FrameDesc) :
    Safe (parseIntervals block count frame) ↔ IntervalsFit block.length count := by
  rw [parseIntervals, IntervalsFit]
  split
  · simp only [safe_bind_readDw, safe_pure, and_true]
    omega
  · rename_i hcount
    have hn : count.toNat ≠ 0 := fun h => hcount (UInt8.toNat_inj.1 h)
    rw [safe_bind]
    constructor
    · rintro ⟨xs, hxs, -⟩
      exact (safe_storeIntervals hn).1 ⟨xs, hxs⟩
    · intro h
      obtain ⟨xs, hxs, hlen⟩ := storeIntervals_ok h
      refine ⟨xs, hxs, ?_⟩
      rw [writeAt_eq (by omega), ok_bind]
      exact safe_pure _

theorem parseIntervals_post {block : List UInt8} {count : UInt8} {frame : FrameDesc} :
    Post (parseIntervals block count frame) fun frame' =>
      frame'.bFrameIntervalType = frame.bFrameIntervalType ∧
      (count ≠ 0 → frame'.intervals.length = count.toNat + 1) := by
  rw [parseIntervals]
  split
  · rename_i hcount
    refine post_bind fun _ _ => post_bind fun _ _ => post_bind fun _ _ => post_pure ?_
    exact ⟨rfl, fun h => absurd hcount h⟩
  · rename_i hcount
    have hn : count.toNat ≠ 0 := fun h => hcount (UInt8.toNat_inj.1 h)
    refine post_bind fun xs hxs => ?_
    obtain ⟨ys, hys, hlen⟩ := storeIntervals_ok ((safe_storeIntervals hn).1 ⟨xs, hxs⟩)
    obtain rfl := Except.ok.inj (hxs.symm.trans hys)
    rw [writeAt_eq (by omega), ok_bind]
    exact post_pure ⟨rfl, fun _ => by rw [List.length_set, hlen]⟩

theorem intervalRange_repairBufferSize (format : FormatDesc) (frame : FrameDesc) :
    intervalRange (repairBufferSize format frame) = intervalRange frame := by
  rw [repairBufferSize]
  split
  · rfl
  · rfl

/-- The repair stays inside the array of intervals if that is as long as the frame says. -/
theorem safe_repairFrameDesc {format : FormatDesc} {frame : FrameDesc}
    (h : frame.bFrameIntervalType ≠ 0 →
      frame.bFrameIntervalType.toNat ≤ frame.intervals.length) :
    Safe (repairFrameDesc format frame) := by
  rw [repairFrameDesc]
  simp only []
  rw [intervalRange_repairBufferSize, intervalRange]
  split
  · exact ⟨_, rfl⟩
  · rename_i htype
    have hpos : frame.bFrameIntervalType.toNat ≠ 0 := fun h0 => htype (UInt8.toNat_inj.1 h0)
    have hlen := h htype
    rw [readAt_eq (List.getElem?_eq_getElem (by omega : 0 < frame.intervals.length)), ok_bind,
      readAt_eq (List.getElem?_eq_getElem
        (by omega : frame.bFrameIntervalType.toNat - 1 < frame.intervals.length)), ok_bind]
    exact ⟨_, rfl⟩

/-- The end of both frame parsers. -/
theorem finishFrame_safe {streamIf : StreamingInterface} {format : FormatDesc}
    {block : List UInt8} {count : UInt8} {frame : FrameDesc}
    (hcount : frame.bFrameIntervalType = count) :
    Safe (parseIntervals block count frame >>= addFrame streamIf format) ↔
      IntervalsFit block.length count := by
  rw [← parseIntervals_safe frame, safe_bind]
  refine ⟨fun ⟨frame', h, _⟩ => ⟨frame', h⟩, fun ⟨frame', h⟩ => ⟨frame', h, ?_⟩⟩
  obtain ⟨htype, hlen⟩ := parseIntervals_post frame' h
  have hrepair : Safe (repairFrameDesc format frame') := by
    refine safe_repairFrameDesc fun hne => ?_
    rw [htype, hcount] at hne ⊢
    have := hlen hne
    omega
  obtain ⟨frame'', hframe⟩ := hrepair
  rw [addFrame, hframe, ok_bind]
  exact safe_pure _

theorem safe_sizePatterns {block : List UInt8} {n : Nat} (h : 5 ≤ block.length) :
    Safe (times (addSizePattern block) n []) ↔ 5 + 4 * n ≤ block.length := by
  refine safe_times_iff (I := fun _ _ => True) trivial (fun hn => by omega) ?_ ?_
  · intro i hi xs hs
    rw [addSizePattern, safe_bind_readSw, safe_bind_readSw] at hs
    omega
  · intro hlen i xs hi _
    rw [addSizePattern, readSw_eq (by omega), ok_bind, readSw_eq (by omega), ok_bind]
    exact ⟨_, rfl, trivial⟩

theorem safe_storeCompressions {block : List UInt8} {start n : Nat} (h : start < block.length) :
    Safe (times (storeCompression block start) n (List.replicate n 0)) ↔
      start + 1 + n ≤ block.length := by
  refine safe_times_iff (I := fun _ (xs : List UInt8) => xs.length = n) List.length_replicate
    (fun hn => by omega) ?_ ?_
  · intro i hi xs hs
    rw [storeCompression, safe_bind_readByte] at hs
    omega
  · intro hlen i xs hi hxs
    rw [storeCompression, readByte_eq (by omega), ok_bind, writeAt_eq (by omega)]
    exact ⟨_, rfl, by rw [List.length_set, hxs]⟩

/-! ## One VideoStreaming block -/

/-- There is a format to put frames under. -/
def StreamingInterface.hasFormat (streamIf : StreamingInterface) : Bool :=
  !streamIf.formatDescs.isEmpty

@[simp] theorem hasFormat_addFormat (streamIf : StreamingInterface) (format : FormatDesc) :
    (streamIf.addFormat format).hasFormat = true := by
  simp [StreamingInterface.hasFormat, StreamingInterface.addFormat]

@[simp] theorem hasFormat_setLastFormat (streamIf : StreamingInterface) (format : FormatDesc) :
    (streamIf.setLastFormat format).hasFormat = true := by
  simp [StreamingInterface.hasFormat, StreamingInterface.setLastFormat]

theorem safe_lastFormat {streamIf : StreamingInterface} :
    Safe (lastFormat streamIf) ↔ streamIf.hasFormat = true := by
  rw [lastFormat, StreamingInterface.hasFormat]
  cases h : streamIf.formatDescs.getLast? with
  | none => simp [List.getLast?_eq_none_iff.1 h]
  | some format =>
    have hne : streamIf.formatDescs ≠ [] := by
      rintro hnil
      simp [hnil] at h
    simp [hne]

/-- What a parser that never refuses answers. -/
def Answers (hasFormat : Bool) (p : Ret × StreamingInterface) : Prop :=
  p.1 = Ret.success ∧ p.2.hasFormat = hasFormat

theorem parseVsInputHeader_safe {streamIf : StreamingInterface} {block : List UInt8} :
    Safe (parseVsInputHeader streamIf block) ↔ 10 ≤ block.length := by
  simp only [parseVsInputHeader, safe_bind_readByte, safe_pure, and_true]
  omega

theorem parseVsInputHeader_post {streamIf : StreamingInterface} {block : List UInt8} :
    Post (parseVsInputHeader streamIf block) (Answers streamIf.hasFormat) := by
  refine post_bind fun _ _ => post_bind fun _ _ => post_bind fun _ _ => post_pure ⟨rfl, ?_⟩
  rfl

theorem parseVsFormatUncompressed_safe {streamIf : StreamingInterface} {block : List UInt8} :
    Safe (parseVsFormatUncompressed streamIf block) ↔ 27 ≤ block.length := by
  simp only [parseVsFormatUncompressed, safe_bind_readByte, safe_bind_slice, safe_pure, and_true]
  omega

theorem parseVsFormatUncompressed_post {streamIf : StreamingInterface} {block : List UInt8} :
    Post (parseVsFormatUncompressed streamIf block) (Answers true) := by
  refine post_bind fun _ _ => post_bind fun _ _ => post_bind fun _ _ => post_bind fun _ _ => ?_
  refine post_bind fun _ _ => post_bind fun _ _ => post_bind fun _ _ => post_bind fun _ _ => ?_
  exact post_bind fun _ _ => post_pure ⟨rfl, hasFormat_addFormat _ _⟩

theorem parseVsFormatMjpeg_safe {streamIf : StreamingInterface} {block : List UInt8} :
    Safe (parseVsFormatMjpeg streamIf block) ↔ 11 ≤ block.length := by
  simp only [parseVsFormatMjpeg, safe_bind_readByte, safe_pure, and_true]
  omega

theorem parseVsFormatMjpeg_post {streamIf : StreamingInterface} {block : List UInt8} :
    Post (parseVsFormatMjpeg streamIf block) (Answers true) := by
  refine post_bind fun _ _ => post_bind fun _ _ => post_bind fun _ _ => post_bind fun _ _ => ?_
  refine post_bind fun _ _ => post_bind fun _ _ => post_bind fun _ _ => post_bind fun _ _ => ?_
  exact post_pure ⟨rfl, hasFormat_addFormat _ _⟩

theorem parseVsFrameFormat_safe {streamIf : StreamingInterface} {block : List UInt8} {size : Nat}
    (hsize : size ≤ block.length) : Safe (parseVsFrameFormat streamIf block size) := by
  rw [parseVsFrameFormat]
  split
  · exact safe_pure _
  · simp only [safe_bind_readByte, safe_bind_slice, safe_pure, and_true]
    omega

theorem parseVsFrameFormat_post {streamIf : StreamingInterface} {block : List UInt8} {size : Nat} :
    Post (parseVsFrameFormat streamIf block size) fun p =>
      (p.1 = Ret.success ↔ 28 ≤ size) ∧ (p.1 = Ret.success → p.2.hasFormat = true) := by
  rw [parseVsFrameFormat]
  split
  · rename_i hlen
    exact post_pure ⟨iff_of_false Ret.errorInvalidDevice_ne (by omega),
      fun h => absurd h Ret.errorInvalidDevice_ne⟩
  · rename_i hlen
    refine post_bind fun _ _ => post_bind fun _ _ => post_bind fun _ _ => post_bind fun _ _ => ?_
    refine post_bind fun _ _ => post_bind fun _ _ => post_bind fun _ _ => post_bind fun _ _ => ?_
    refine post_bind fun _ _ => post_bind fun _ _ => post_bind fun _ _ => post_pure ?_
    exact ⟨iff_of_true rfl (by omega), fun _ => hasFormat_addFormat _ _⟩

theorem addFrame_post {streamIf : StreamingInterface} {format : FormatDesc} {frame : FrameDesc} :
    Post (addFrame streamIf format frame) (Answers true) :=
  post_bind fun _ _ => post_pure ⟨rfl, hasFormat_setLastFormat _ _⟩

theorem parseVsFrameUncompressed_safe {streamIf : StreamingInterface} {block : List UInt8} :
    Safe (parseVsFrameUncompressed streamIf block) ↔ streamIf.hasFormat = true ∧
      26 ≤ block.length ∧ IntervalsFit block.length (byteAt block 25) := by
  rw [parseVsFrameUncompressed, ← safe_lastFormat]
  refine safe_bind_iff fun format => ?_
  simp only [safe_bind_readByte, safe_bind_readSum, safe_bind_readDw, finishFrame_safe,
    ← and_assoc]
  refine and_congr ?_ Iff.rfl
  omega

theorem parseVsFrameUncompressed_post {streamIf : StreamingInterface} {block : List UInt8} :
    Post (parseVsFrameUncompressed streamIf block) (Answers streamIf.hasFormat) := by
  refine post_bind fun format hformat => ?_
  rw [safe_lastFormat.1 ⟨format, hformat⟩]
  refine post_bind fun _ _ => post_bind fun _ _ => post_bind fun _ _ => ?_
  refine post_bind fun _ _ => post_bind fun _ _ => post_bind fun _ _ => post_bind fun _ _ => ?_
  refine post_bind fun _ _ => post_bind fun _ _ => post_bind fun _ _ => post_bind fun _ _ => ?_
  exact addFrame_post

theorem hasFormat_iff {streamIf : StreamingInterface} :
    streamIf.hasFormat = true ↔ streamIf.formatDescs ≠ [] := by
  simp [StreamingInterface.hasFormat]

/-- The second check of `uvc_parse_vs_frame_frame`. -/
theorem intervalsFit_iff {size : Nat} {count : UInt8} :
    ¬ (count = 0 ∧ size < 38 ∨ count ≠ 0 ∧ size < 26 + 4 * count.toNat) ↔
      IntervalsFit size count := by
  rw [IntervalsFit]
  split
  · rename_i h
    simp [h]
  · rename_i h
    simp [h]

theorem IntervalsFit.mono {size size' : Nat} {count : UInt8} (h : IntervalsFit size count)
    (hle : size ≤ size') : IntervalsFit size' count := by
  rw [IntervalsFit] at h ⊢
  by_cases hcount : count = 0
  · rw [if_pos hcount] at h ⊢
    exact h.trans hle
  · rw [if_neg hcount] at h ⊢
    exact h.trans hle

/-- The checks at the head of `uvc_parse_vs_frame_frame` ask for all that its reads need. -/
theorem parseVsFrameFrame_safe {streamIf : StreamingInterface} {block : List UInt8} {size : Nat}
    (hsize : size ≤ block.length) : Safe (parseVsFrameFrame streamIf block size) := by
  rw [parseVsFrameFrame]
  split
  · exact safe_pure _
  · rename_i hhead
    obtain ⟨hlen, hformat⟩ := not_or.1 hhead
    rw [safe_bind_readByte]
    refine ⟨by omega, ?_⟩
    split
    · exact safe_pure _
    · rename_i hcount
      refine (safe_bind_iff fun format => ?_).2
        ⟨safe_lastFormat.2 (hasFormat_iff.2 hformat), (intervalsFit_iff.1 hcount).mono hsize⟩
      simp only [safe_bind_readByte, safe_bind_readSum, safe_bind_readDw, finishFrame_safe,
        ← and_assoc]
      refine and_iff_right ?_
      omega

theorem parseVsFrameFrame_post {streamIf : StreamingInterface} {block : List UInt8} {size : Nat} :
    Post (parseVsFrameFrame streamIf block size) fun p =>
      (p.1 = Ret.success ↔ streamIf.hasFormat = true ∧ 26 ≤ size ∧
        IntervalsFit size (byteAt block 21)) ∧ (p.1 = Ret.success → p.2.hasFormat = true) := by
  have hrefuse : ∀ {P : Prop}, ¬ P → (Ret.errorInvalidDevice = Ret.success ↔ P) ∧
      (Ret.errorInvalidDevice = Ret.success → streamIf.hasFormat = true) := fun hP =>
    ⟨iff_of_false Ret.errorInvalidDevice_ne hP, fun h => absurd h Ret.errorInvalidDevice_ne⟩
  rw [parseVsFrameFrame]
  split
  · rename_i hhead
    refine post_pure (hrefuse fun h => ?_)
    rcases hhead with hlen | hnil
    · omega
    · exact hasFormat_iff.1 h.1 hnil
  · rename_i hhead
    obtain ⟨hlen, hformat⟩ := not_or.1 hhead
    refine post_bind_readByte ?_
    split
    · rename_i hcount
      exact post_pure (hrefuse fun h => intervalsFit_iff.2 h.2.2 hcount)
    · rename_i hcount
      refine post_bind fun _ _ => post_bind fun _ _ => post_bind fun _ _ => post_bind fun _ _ => ?_
      refine post_bind fun _ _ => post_bind fun _ _ => post_bind fun _ _ => post_bind fun _ _ => ?_
      refine post_bind fun _ _ => post_bind fun _ _ => post_bind fun _ _ => post_bind fun _ _ => ?_
      intro p hp
      obtain ⟨hret, hp2⟩ := addFrame_post p hp
      exact ⟨iff_of_true hret ⟨hasFormat_iff.2 hformat, by omega, intervalsFit_iff.1 hcount⟩,
        fun _ => hp2⟩

theorem parseVsStillImageFrame_safe {streamIf : StreamingInterface} {block : List UInt8} :
    Safe (parseVsStillImageFrame streamIf block) ↔
      streamIf.hasFormat = true ∧ StillFits block := by
  rw [parseVsStillImageFrame, ← safe_lastFormat]
  refine safe_bind_iff fun format => ?_
  simp only [safe_bind_readByte]
  by_cases hlen : 5 ≤ block.length
  · rw [safe_bind_iff fun _ => safe_bind_readByte.trans (and_congr_right fun h =>
      (safe_bind_iff fun _ => iff_of_true (safe_pure _) trivial).trans
        (and_congr_left' (safe_storeCompressions h)))]
    rw [safe_sizePatterns hlen, StillFits, and_true]
    omega
  · rw [StillFits]
    omega

theorem parseVsStillImageFrame_post {streamIf : StreamingInterface} {block : List UInt8} :
    Post (parseVsStillImageFrame streamIf block) (Answers streamIf.hasFormat) := by
  refine post_bind fun format hformat => ?_
  rw [safe_lastFormat.1 ⟨format, hformat⟩]
  refine post_bind fun _ _ => post_bind fun _ _ => post_bind fun _ _ => ?_
  refine post_bind fun _ _ => post_bind fun _ _ => post_bind fun _ _ => post_pure ⟨rfl, ?_⟩
  exact hasFormat_setLastFormat _ _

/-- A parser that never refuses, as a judge sees it. -/
theorem answers_of_post {x : Checked (Ret × StreamingInterface)} {hasFormat : Bool}
    (h : Post x (Answers hasFormat)) :
    Post x fun p => (p.1 = 0 ↔ True) ∧ (p.1 = 0 → p.2.hasFormat = hasFormat) :=
  fun p hp => ⟨iff_of_true (h p hp).1 trivial, fun _ => (h p hp).2⟩

theorem parseVs_safe {streamIf : StreamingInterface} {block : List UInt8} {size : Nat}
    (hsize : size ≤ block.length) :
    Safe (parseVs streamIf block size) ↔ VsFits streamIf.hasFormat block := by
  rw [parseVs, VsFits, safe_bind_readByte]
  refine and_congr Iff.rfl ?_
  cases VsSubtype.ofByte (byteAt block 2) with
  | inputHeader => exact parseVsInputHeader_safe
  | stillImageFrame => exact parseVsStillImageFrame_safe
  | formatUncompressed => exact parseVsFormatUncompressed_safe
  | formatMjpeg => exact parseVsFormatMjpeg_safe
  | frameUncompressed | frameMjpeg => exact parseVsFrameUncompressed_safe
  | formatFrameBased => exact iff_of_true (parseVsFrameFormat_safe hsize) trivial
  | frameFrameBased => exact iff_of_true (parseVsFrameFrame_safe hsize) trivial
  | outputHeader | formatMpeg2ts | formatDv | colorformat | formatStreamBased | other =>
    exact iff_of_true (safe_pure _) trivial

theorem parseVs_post {streamIf : StreamingInterface} {block : List UInt8} {size : Nat} :
    Post (parseVs streamIf block size) fun p =>
      (p.1 = 0 ↔ VsAccepted streamIf.hasFormat block size) ∧
      (p.1 = 0 → p.2.hasFormat = (streamIf.hasFormat || isFormat block)) := by
  rw [parseVs, VsAccepted, isFormat]
  refine post_bind_readByte ?_
  cases VsSubtype.ofByte (byteAt block 2) with
  | inputHeader =>
    rw [Bool.or_false]
    exact answers_of_post parseVsInputHeader_post
  | stillImageFrame =>
    rw [Bool.or_false]
    exact answers_of_post parseVsStillImageFrame_post
  | formatUncompressed =>
    rw [Bool.or_true]
    exact answers_of_post parseVsFormatUncompressed_post
  | formatMjpeg =>
    rw [Bool.or_true]
    exact answers_of_post parseVsFormatMjpeg_post
  | frameUncompressed | frameMjpeg =>
    rw [Bool.or_false]
    exact answers_of_post parseVsFrameUncompressed_post
  | formatFrameBased =>
    rw [Bool.or_true]
    exact parseVsFrameFormat_post
  | frameFrameBased =>
    rw [Bool.or_false]
    intro p hp
    obtain ⟨hret, hformat⟩ := parseVsFrameFrame_post p hp
    refine ⟨hret, fun hr => ?_⟩
    rw [hformat hr, (hret.1 hr).1]
  | outputHeader | formatMpeg2ts | formatDv | colorformat | formatStreamBased | other =>
    rw [Bool.or_false]
    exact answers_of_post (post_pure ⟨rfl, rfl⟩)

/-- **One VideoStreaming block.**  `vsJudge` describes `uvc_parse_vs`. -/
theorem parseVs_judged : Judges vsJudge StreamingInterface.hasFormat fun streamIf block =>
    parseVs streamIf block block.length where
  safe_iff _ _ := parseVs_safe le_rfl
  answers _ _ := parseVs_post

/-! ## One streaming interface -/

/-- An interface that is not there, or has no setting, is refused. -/
theorem scanStreaming_none {reach : Reach} {config : ConfigDescriptor} {idx : Nat}
    (info : DeviceInfo) (h : streamExtra config idx = none) :
    scanStreamingIn reach config info idx = .ok (Ret.errorInvalidDevice, info) := by
  rw [scanStreamingIn]
  split
  · rfl
  · rename_i hlt
    have hlt' : idx < config.interface.length := by omega
    rw [readAt_eq (List.getElem?_eq_getElem hlt'), ok_bind]
    have hnone : config.interface[idx].altsetting[0]? = none := by
      simpa [streamExtra, List.getElem?_eq_getElem hlt'] using h
    rw [if_pos (by have := List.getElem?_eq_none_iff.1 hnone; omega)]
    rfl

/-- Otherwise its blocks are scanned. -/
theorem scanStreaming_some {config : ConfigDescriptor} {idx : Nat} {extra : List UInt8}
    (info : DeviceInfo) (h : streamExtra config idx = some extra) :
    ∃ number, ∀ reach, scanStreamingIn reach config info idx = do
      let (ret, streamIf) ← scan 3 Ret.errorInvalidDevice
        (fun streamIf b => parseVs streamIf (reach.bytes b) b.size)
        { bInterfaceNumber := number } extra
      return (ret, { info with streamIfs := info.streamIfs ++ [streamIf] }) := by
  obtain ⟨ifDesc, hbind, rfl⟩ := Option.map_eq_some_iff.1 h
  obtain ⟨interface, hinterface, halt⟩ := Option.bind_eq_some_iff.1 hbind
  have hidx := (List.getElem?_eq_some_iff.1 hinterface).1
  have hsetting := (List.getElem?_eq_some_iff.1 halt).1
  refine ⟨ifDesc.bInterfaceNumber, fun reach => ?_⟩
  rw [scanStreamingIn, if_neg (by omega), readAt_eq hinterface, ok_bind, if_neg (by omega),
    readAt_eq halt, ok_bind]

/-- `streamJudge` describes `uvc_scan_streaming`. -/
theorem scanStreaming_judged (config : ConfigDescriptor) :
    Judges (streamJudge config) (fun _ => ()) (scanStreamingIn .block config) := by
  have hscan : Judges (vsJudge.blocks 3) StreamingInterface.hasFormat
      (scan 3 Ret.errorInvalidDevice fun streamIf b => parseVs streamIf b.own b.size) := by
    simp only [← Block.length_own]
    exact parseVs_judged.scan (by omega) Ret.errorInvalidDevice_ne
  constructor
  · intro info idx
    show _ ↔ ∀ extra, streamExtra config idx = some extra → (vsJudge.blocks 3).fits false extra
    rcases hextra : streamExtra config idx with _ | extra
    · rw [scanStreaming_none info hextra]
      exact iff_of_true (safe_ok _) (by simp)
    · obtain ⟨number, heq⟩ := scanStreaming_some info hextra
      rw [heq, safe_bind_iff fun _ => iff_of_true (safe_pure _) trivial, and_true]
      refine (hscan.safe_iff { bInterfaceNumber := number } extra).trans ?_
      exact ⟨fun hfits _ he => Option.some.inj he ▸ hfits, fun hfits => hfits extra rfl⟩
  · intro info idx
    show Post _ fun p : Ret × DeviceInfo =>
      (p.1 = 0 ↔ ∃ extra, streamExtra config idx = some extra ∧
        (vsJudge.blocks 3).accepts false extra) ∧ (p.1 = 0 → () = ())
    rcases hextra : streamExtra config idx with _ | extra
    · rw [scanStreaming_none info hextra]
      exact post_pure ⟨iff_of_false Ret.errorInvalidDevice_ne (by simp), fun _ => rfl⟩
    · obtain ⟨number, heq⟩ := scanStreaming_some info hextra
      rw [heq]
      refine post_bind fun p hp => post_pure ⟨?_, fun _ => rfl⟩
      refine (hscan.answers _ _ p hp).1.trans ?_
      exact ⟨fun hacc => ⟨extra, rfl, hacc⟩, fun ⟨_, he, hacc⟩ => Option.some.inj he ▸ hacc⟩

/-! ## One VideoControl block -/

/-- The loop of `uvc_parse_vc_header` goes through the interfaces that its block names. -/
theorem forEach_scanNamed {reach : Reach} (config : ConfigDescriptor) (info : DeviceInfo)
    {block : List UInt8} {size : Nat} (hsize : size ≤ block.length) :
    forEach (scanNamed reach config block) info (List.range' 12 (size - 12)) =
      forEach (scanStreamingIn reach config) info (namedStreams (block.take size)) := by
  have hloop : ∀ n i info, i + n = size →
      forEach (scanNamed reach config block) info (List.range' i n) =
        forEach (scanStreamingIn reach config) info
          (((block.take size).drop i).map UInt8.toNat) := by
    intro n
    induction n with
    | zero =>
      intro i info hi
      rw [List.drop_eq_nil_of_le (by rw [List.length_take]; omega)]
      rfl
    | succ n ih =>
      intro i info hi
      have hlt : i < (block.take size).length := by
        rw [List.length_take]
        omega
      rw [List.range'_succ, List.drop_eq_getElem_cons hlt, List.map_cons, forEach, forEach,
        scanNamed, readByte_eq (by omega), ok_bind, byteAt_eq_getElem (by omega),
        List.getElem_take]
      congr 1
      funext p
      obtain ⟨r, info'⟩ := p
      simp only []
      rw [ih (i + 1) info' (by omega)]
  rw [namedStreams]
  rcases Nat.lt_or_ge size 12 with hlt | hge
  · rw [List.drop_eq_nil_of_le (by rw [List.length_take]; omega), show size - 12 = 0 by omega]
    rfl
  · exact hloop _ _ _ (by omega)

theorem parseVcHeader_safe {config : ConfigDescriptor} {info : DeviceInfo} {block : List UInt8} :
    Safe (parseVcHeader .block config info block block.length) ↔ HeaderFits config block := by
  rw [parseVcHeader, HeaderFits, safe_bind_readSw]
  refine and_congr Iff.rfl ?_
  split
  · rename_i hknown
    simp only [hknown, forall_const, safe_bind_readDw, forEach_scanNamed _ _ le_rfl,
      List.take_length]
    refine and_congr Iff.rfl ?_
    exact (scanStreaming_judged config).forEach.safe_iff _ _
  · rename_i hknown
    exact iff_of_true (safe_pure _) fun h => absurd h hknown

theorem parseVcHeader_post {config : ConfigDescriptor} {info : DeviceInfo} {block : List UInt8} :
    Post (parseVcHeader .block config info block block.length) fun p => p.1 = 0 ↔
      knownVersion (swAt block 3) = true ∧
        (streamJudge config).AcceptsAll () (namedStreams block) := by
  rw [parseVcHeader]
  refine post_bind fun bcdUVC hbcd => ?_
  obtain ⟨hlen, -⟩ := safe_bind_readSw.1 (safe_bind.2 ⟨bcdUVC, hbcd, safe_pure bcdUVC⟩)
  obtain rfl := Except.ok.inj (hbcd.symm.trans (readSw_eq hlen))
  simp only []
  split
  · rename_i hknown
    refine post_bind fun clock _ => ?_
    rw [forEach_scanNamed _ _ le_rfl, List.take_length]
    intro p hp
    exact ((scanStreaming_judged config).forEach.answers _ _ p hp).1.trans
      (and_iff_right hknown).symm
  · rename_i hknown
    exact post_pure (iff_of_false Ret.errorNotSupported_ne fun h => hknown h.1)

theorem parseVcInputTerminal_safe {info : DeviceInfo} {block : List UInt8} :
    Safe (parseVcInputTerminal info block) ↔ 6 ≤ block.length ∧ (swAt block 4 = ittCamera →
      15 ≤ block.length ∧ ControlsFit block 15 (byteAt block 14)) := by
  rw [parseVcInputTerminal, safe_bind_readSw]
  refine and_congr Iff.rfl ?_
  split
  · rename_i hother
    exact iff_of_true (safe_pure _) fun h => absurd h hother
  · rename_i hcamera
    simp only [not_not.1 hcamera, forall_const, safe_bind_readByte, safe_bind_readSw]
    by_cases hlen : 15 ≤ block.length
    · rw [safe_bind_iff fun _ => iff_of_true (safe_pure _) trivial, safe_controlBits _ _ hlen,
        ControlsFit, and_true]
      omega
    · omega

theorem parseVcInputTerminal_post {info : DeviceInfo} {block : List UInt8} :
    Post (parseVcInputTerminal info block) fun p => p.1 = Ret.success := by
  refine post_bind fun _ _ => ?_
  split
  · exact post_pure rfl
  · refine post_bind fun _ _ => post_bind fun _ _ => post_bind fun _ _ => ?_
    refine post_bind fun _ _ => post_bind fun _ _ => post_bind fun _ _ => ?_
    exact post_bind fun _ _ => post_pure rfl

theorem parseVcProcessingUnit_safe {info : DeviceInfo} {block : List UInt8} :
    Safe (parseVcProcessingUnit info block) ↔
      8 ≤ block.length ∧ ControlsFit block 8 (byteAt block 7) := by
  simp only [parseVcProcessingUnit, safe_bind_readByte]
  by_cases hlen : 8 ≤ block.length
  · rw [safe_bind_iff fun _ => iff_of_true (safe_pure _) trivial, safe_controlBits _ _ hlen,
      ControlsFit, and_true]
    omega
  · omega

theorem parseVcProcessingUnit_post {info : DeviceInfo} {block : List UInt8} :
    Post (parseVcProcessingUnit info block) fun p => p.1 = Ret.success := by
  refine post_bind fun _ _ => post_bind fun _ _ => ?_
  exact post_bind fun _ _ => post_bind fun _ _ => post_pure rfl

theorem parseVcSelectorUnit_safe {info : DeviceInfo} {block : List UInt8} :
    Safe (parseVcSelectorUnit info block) ↔ 4 ≤ block.length := by
  simp only [parseVcSelectorUnit, safe_bind_readByte, safe_pure, and_true]
  omega

theorem parseVcSelectorUnit_post {info : DeviceInfo} {block : List UInt8} :
    Post (parseVcSelectorUnit info block) fun p => p.1 = Ret.success :=
  post_bind fun _ _ => post_pure rfl

theorem parseVcExtensionUnit_safe {info : DeviceInfo} {block : List UInt8} :
    Safe (parseVcExtensionUnit info block) ↔ 22 ≤ block.length ∧
      23 + (byteAt block 21).toNat ≤ block.length ∧
      ControlsFit block (23 + (byteAt block 21).toNat)
        (byteAt block (22 + (byteAt block 21).toNat)) := by
  simp only [parseVcExtensionUnit, safe_bind_readByte, safe_bind_slice]
  by_cases hlen : 23 + (byteAt block 21).toNat ≤ block.length
  · rw [safe_bind_iff fun _ => iff_of_true (safe_pure _) trivial, safe_controlBits _ _ hlen,
      ControlsFit, and_true]
    omega
  · omega

theorem parseVcExtensionUnit_post {info : DeviceInfo} {block : List UInt8} :
    Post (parseVcExtensionUnit info block) fun p => p.1 = Ret.success := by
  refine post_bind fun _ _ => post_bind fun _ _ => ?_
  exact post_bind fun _ _ => post_bind fun _ _ => post_bind fun _ _ => post_pure rfl

theorem parseVc_safe {config : ConfigDescriptor} {info : DeviceInfo} {block : List UInt8} :
    Safe (parseVc .block config info block block.length) ↔ VcFits config block := by
  rw [parseVc, VcFits, safe_bind_readByte]
  refine and_congr Iff.rfl ?_
  split
  · rename_i htype
    exact iff_of_true (safe_pure _) fun h => absurd h htype
  · rename_i htype
    rw [safe_bind_readByte]
    simp only [not_not.1 htype, forall_const]
    refine and_congr Iff.rfl ?_
    cases VcSubtype.ofByte (byteAt block 2) with
    | header => exact parseVcHeader_safe
    | inputTerminal => exact parseVcInputTerminal_safe
    | selectorUnit => exact parseVcSelectorUnit_safe
    | processingUnit => exact parseVcProcessingUnit_safe
    | extensionUnit => exact parseVcExtensionUnit_safe
    | outputTerminal | other => exact iff_of_true (safe_pure _) trivial

theorem parseVc_post {config : ConfigDescriptor} {info : DeviceInfo} {block : List UInt8} :
    Post (parseVc .block config info block block.length) fun p =>
      p.1 = 0 ↔ VcAccepted config block := by
  have hsuccess : ∀ {x : Checked (Ret × DeviceInfo)}, (Post x fun p => p.1 = Ret.success) →
      Post x fun p => p.1 = 0 ↔ True := fun h p hp => iff_of_true (h p hp) trivial
  rw [parseVc, VcAccepted]
  refine post_bind_readByte ?_
  split
  · rename_i htype
    exact post_pure (iff_of_true rfl fun h => absurd h htype)
  · rename_i htype
    simp only [not_not.1 htype, forall_const]
    refine post_bind_readByte ?_
    cases VcSubtype.ofByte (byteAt block 2) with
    | header => exact parseVcHeader_post
    | inputTerminal => exact hsuccess parseVcInputTerminal_post
    | outputTerminal => exact post_pure (iff_of_true rfl trivial)
    | selectorUnit => exact hsuccess parseVcSelectorUnit_post
    | processingUnit => exact hsuccess parseVcProcessingUnit_post
    | extensionUnit => exact hsuccess parseVcExtensionUnit_post
    | other => exact post_pure (iff_of_false Ret.errorInvalidDevice_ne id)

/-- **One VideoControl block.**  `vcJudge` describes `uvc_parse_vc`. -/
theorem parseVc_judged (config : ConfigDescriptor) :
    Judges (vcJudge config) (fun _ => ()) fun info block =>
      parseVc .block config info block block.length where
  safe_iff _ _ := parseVc_safe
  answers _ _ p hp := ⟨parseVc_post p hp, fun _ => rfl⟩

/-! ## The scan -/

/-- The search for the VideoControl interface, and then whatever safe-or-not is done with it. -/
theorem findControl_safe {tis : Bool} {config : ConfigDescriptor} {interfaces : List Interface}
    {idx : Nat} {use : Option (Nat × InterfaceDescriptor) → Checked (Ret × DeviceInfo)}
    (hnone : Safe (use none))
    (hsome : ∀ i ifDesc, Safe (use (some (i, ifDesc))) ↔
      ((vcJudge config).blocks 3).fits () ifDesc.extra) :
    Safe (findControl tis idx interfaces >>= use) ↔ ControlFits tis config interfaces := by
  induction interfaces generalizing idx with
  | nil => exact iff_of_true hnone trivial
  | cons interface rest ih =>
    rw [findControl, ControlFits, bind_assoc, safe_bind_readAt]
    refine exists_congr fun ifDesc => and_congr_right fun _ => ?_
    split
    · exact hsome idx ifDesc
    · exact ih

/-- **The scan is memory safe exactly when the configuration fits.**  `uvc_scan_control`, with
everything it calls, stays inside every object it indexes, each block being an object of its own, if
and only if each interface up to the VideoControl one has a setting, and each block that is reached,
on the VideoControl interface and on the streaming interfaces named by a header, is as long as its
subtype and the counts inside it require, with uncompressed, MJPEG and still-image frames only
behind a format. -/
theorem scanControl_safe_iff (devDesc : Option DeviceDescriptor) (config : ConfigDescriptor)
    (info : DeviceInfo) :
    Safe (scanControlIn .block devDesc config info) ↔ ScanFits devDesc config := by
  rw [scanControlIn, ScanFits]
  refine findControl_safe (safe_pure _) fun i ifDesc => ?_
  have hscan : Judges ((vcJudge config).blocks 3) (fun _ => ())
      (scan 3 Ret.errorInvalidDevice fun info b => parseVc .block config info b.own b.size) := by
    simp only [← Block.length_own]
    exact (parseVc_judged config).scan (by omega) Ret.errorInvalidDevice_ne
  exact hscan.safe_iff _ _

/-! ## With the bytes behind the blocks -/

theorem stable_readSum (off : Nat) : Stable fun buf => readSum buf off :=
  (stable_readByte _).bind fun _ => (stable_readByte _).bind fun _ => stable_const _

theorem stable_controlBits (base n : Nat) (bits : UInt64) :
    Stable fun block => controlBits block base n bits := by
  induction n generalizing bits with
  | zero => exact stable_const _
  | succ n ih => exact (stable_readByte _).bind fun _ => ih _

theorem stable_parseIntervals (count : UInt8) (frame : FrameDesc) :
    Stable fun block => parseIntervals block count frame := by
  refine stable_ite ?_ ?_
  · exact (stable_readDw _).bind fun _ => (stable_readDw _).bind fun _ =>
      (stable_readDw _).bind fun _ => stable_const _
  · refine Stable.bind (stable_times (fun i xs => ?_) _ _) fun _ => stable_const _
    exact (stable_readDw _).bind fun _ => stable_const _

/-- The end of both frame parsers. -/
theorem stable_finishFrame (streamIf : StreamingInterface) (format : FormatDesc) (count : UInt8)
    (frame : FrameDesc) :
    Stable fun block => parseIntervals block count frame >>= addFrame streamIf format :=
  (stable_parseIntervals count frame).bind fun _ => stable_const _

theorem stable_parseVsFormatUncompressed (streamIf : StreamingInterface) :
    Stable (parseVsFormatUncompressed streamIf) :=
  (stable_readByte _).bind fun _ => (stable_readByte _).bind fun _ => (stable_slice _ _).bind
    fun _ => (stable_readByte _).bind fun _ => (stable_readByte _).bind fun _ =>
      (stable_readByte _).bind fun _ => (stable_readByte _).bind fun _ =>
        (stable_readByte _).bind fun _ => (stable_readByte _).bind fun _ => stable_const _

theorem stable_parseVsFormatMjpeg (streamIf : StreamingInterface) :
    Stable (parseVsFormatMjpeg streamIf) :=
  (stable_readByte _).bind fun _ => (stable_readByte _).bind fun _ => (stable_readByte _).bind
    fun _ => (stable_readByte _).bind fun _ => (stable_readByte _).bind fun _ =>
      (stable_readByte _).bind fun _ => (stable_readByte _).bind fun _ =>
        (stable_readByte _).bind fun _ => stable_const _

theorem stable_parseVsFrameFormat (streamIf : StreamingInterface) (size : Nat) :
    Stable fun block => parseVsFrameFormat streamIf block size := by
  refine stable_ite (stable_const _) ?_
  exact (stable_readByte _).bind fun _ => (stable_readByte _).bind fun _ => (stable_readByte _).bind
    fun _ => (stable_slice _ _).bind fun _ => (stable_readByte _).bind fun _ =>
      (stable_readByte _).bind fun _ => (stable_readByte _).bind fun _ =>
        (stable_readByte _).bind fun _ => (stable_readByte _).bind fun _ =>
          (stable_readByte _).bind fun _ => (stable_readByte _).bind fun _ => stable_const _

theorem stable_parseVsFrameUncompressed (streamIf : StreamingInterface) :
    Stable (parseVsFrameUncompressed streamIf) :=
  (stable_const _).bind fun _ => (stable_readByte _).bind fun _ => (stable_readByte _).bind
    fun _ => (stable_readByte _).bind fun _ => (stable_readSum _).bind fun _ =>
      (stable_readSum _).bind fun _ => (stable_readDw _).bind fun _ => (stable_readDw _).bind
        fun _ => (stable_readDw _).bind fun _ => (stable_readDw _).bind fun _ =>
          (stable_readByte _).bind fun _ => stable_finishFrame _ _ _ _

theorem stable_parseVsFrameFrame (streamIf : StreamingInterface) (size : Nat) :
    Stable fun block => parseVsFrameFrame streamIf block size := by
  refine stable_ite (stable_const _) ((stable_readByte _).bind fun count => ?_)
  refine stable_ite (stable_const _) ((stable_const _).bind fun format => ?_)
  exact (stable_readByte _).bind fun _ => (stable_readByte _).bind fun _ => (stable_readByte _).bind
    fun _ => (stable_readSum _).bind fun _ => (stable_readSum _).bind fun _ =>
      (stable_readDw _).bind fun _ => (stable_readDw _).bind fun _ => (stable_readDw _).bind
        fun _ => (stable_readByte _).bind fun _ => (stable_readDw _).bind fun _ =>
          stable_finishFrame _ _ _ _

theorem stable_parseVsStillImageFrame (streamIf : StreamingInterface) :
    Stable (parseVsStillImageFrame streamIf) := by
  refine (stable_const _).bind fun format => (stable_readByte _).bind fun _ =>
    (stable_readByte _).bind fun _ => (stable_readByte _).bind fun count => ?_
  refine (stable_times (fun i patterns => ?_) _ _).bind fun _ => (stable_readByte _).bind fun _ =>
    (stable_times (fun i bytes => ?_) _ _).bind fun _ => stable_const _
  · exact (stable_readSw _).bind fun _ => (stable_readSw _).bind fun _ => stable_const _
  · exact (stable_readByte _).bind fun _ => stable_const _

/-- **One VideoStreaming block**, with more behind it. -/
theorem stable_parseVs (streamIf : StreamingInterface) (size : Nat) :
    Stable fun block => parseVs streamIf block size := by
  refine (stable_readByte 2).bind fun descriptorSubtype => ?_
  cases VsSubtype.ofByte descriptorSubtype with
  | inputHeader =>
    exact (stable_readByte _).bind fun _ => (stable_readByte _).bind fun _ =>
      (stable_readByte _).bind fun _ => stable_const _
  | stillImageFrame => exact stable_parseVsStillImageFrame streamIf
  | formatUncompressed => exact stable_parseVsFormatUncompressed streamIf
  | formatMjpeg => exact stable_parseVsFormatMjpeg streamIf
  | formatFrameBased => exact stable_parseVsFrameFormat streamIf size
  | frameUncompressed | frameMjpeg => exact stable_parseVsFrameUncompressed streamIf
  | frameFrameBased => exact stable_parseVsFrameFrame streamIf size
  | outputHeader | formatMpeg2ts | formatDv | colorformat | formatStreamBased | other =>
    exact stable_const _

/-- The bytes behind the blocks of a streaming interface make no difference. -/
theorem scanStreaming_of_block {config : ConfigDescriptor} {info : DeviceInfo} {interfaceIdx : Nat}
    {p : Ret × DeviceInfo} (h : scanStreamingIn .block config info interfaceIdx = .ok p) :
    scanStreaming config info interfaceIdx = .ok p := by
  rcases hextra : streamExtra config interfaceIdx with _ | extra
  · rw [scanStreaming, scanStreaming_none info hextra]
    rwa [scanStreaming_none info hextra] at h
  · obtain ⟨number, heq⟩ := scanStreaming_some info hextra
    rw [heq, bind_eq_ok] at h
    obtain ⟨q, hq, h⟩ := h
    rw [scanStreaming, heq, bind_eq_ok]
    refine ⟨q, scan_of_ok (by omega) (fun s b p hp => ?_) hq, h⟩
    show parseVs s b.bytes b.size = .ok p
    rw [b.bytes_eq]
    exact stable_parseVs s b.size _ _ _ hp

theorem stable_parseVcHeader (reach : Reach) (config : ConfigDescriptor) (info : DeviceInfo)
    (size : Nat) : Stable fun block => parseVcHeader reach config info block size := by
  refine (stable_readSw _).bind fun bcdUVC => stable_ite ?_ (stable_const _)
  refine (stable_readDw _).bind fun clock => stable_forEach (fun info i => ?_) _ _
  exact (stable_readByte _).bind fun _ => stable_const _

theorem stable_parseVcInputTerminal (info : DeviceInfo) : Stable (parseVcInputTerminal info) := by
  refine (stable_readSw _).bind fun wTerminalType => stable_ite (stable_const _) ?_
  exact (stable_readByte _).bind fun _ => (stable_readSw _).bind fun _ => (stable_readSw _).bind
    fun _ => (stable_readSw _).bind fun _ => (stable_readSw _).bind fun _ =>
      (stable_readByte _).bind fun _ => (stable_controlBits _ _ _).bind fun _ => stable_const _

theorem stable_parseVcProcessingUnit (info : DeviceInfo) : Stable (parseVcProcessingUnit info) :=
  (stable_readByte _).bind fun _ => (stable_readByte _).bind fun _ => (stable_readByte _).bind
    fun _ => (stable_controlBits _ _ _).bind fun _ => stable_const _

theorem stable_parseVcExtensionUnit (info : DeviceInfo) : Stable (parseVcExtensionUnit info) :=
  (stable_readByte _).bind fun _ => (stable_slice _ _).bind fun _ => (stable_readByte _).bind
    fun _ => (stable_readByte _).bind fun _ => (stable_controlBits _ _ _).bind
      fun _ => stable_const _

/-- **One VideoControl block**, with more behind it. -/
theorem stable_parseVc (reach : Reach) (config : ConfigDescriptor) (info : DeviceInfo)
    (size : Nat) : Stable fun block => parseVc reach config info block size := by
  refine (stable_readByte 1).bind fun bDescriptorType => stable_ite (stable_const _) ?_
  refine (stable_readByte 2).bind fun descriptorSubtype => ?_
  cases VcSubtype.ofByte descriptorSubtype with
  | header => exact stable_parseVcHeader reach config info size
  | inputTerminal => exact stable_parseVcInputTerminal info
  | selectorUnit => exact (stable_readByte _).bind fun _ => stable_const _
  | processingUnit => exact stable_parseVcProcessingUnit info
  | extensionUnit => exact stable_parseVcExtensionUnit info
  | outputTerminal | other => exact stable_const _

/-- What is named by a header is scanned with its own bytes behind its blocks. -/
theorem parseVc_of_block {config : ConfigDescriptor} {info : DeviceInfo} {block : List UInt8}
    {size : Nat} {p : Ret × DeviceInfo} (h : parseVc .block config info block size = .ok p) :
    parseVc .extra config info block size = .ok p := by
  rw [parseVc, bind_eq_ok] at h ⊢
  obtain ⟨bDescriptorType, htype, h⟩ := h
  refine ⟨bDescriptorType, htype, ?_⟩
  split
  · rename_i hforeign
    rwa [if_pos hforeign] at h
  · rename_i hforeign
    rw [if_neg hforeign, bind_eq_ok] at h
    obtain ⟨descriptorSubtype, hsubtype, h⟩ := h
    refine bind_eq_ok.2 ⟨descriptorSubtype, hsubtype, ?_⟩
    cases hcode : VcSubtype.ofByte descriptorSubtype with
    | header =>
      simp only [hcode, parseVcHeader] at h ⊢
      obtain ⟨bcdUVC, hbcd, h⟩ := bind_eq_ok.1 h
      refine bind_eq_ok.2 ⟨bcdUVC, hbcd, ?_⟩
      split
      · rename_i hknown
        rw [if_pos hknown] at h
        obtain ⟨clock, hclock, h⟩ := bind_eq_ok.1 h
        refine bind_eq_ok.2 ⟨clock, hclock, forEach_of_ok (fun info i p hp => ?_) h⟩
        obtain ⟨idx, hidx, hp⟩ := bind_eq_ok.1 hp
        exact bind_eq_ok.2 ⟨idx, hidx, scanStreaming_of_block hp⟩
      · rename_i hknown
        rwa [if_neg hknown] at h
    | inputTerminal | outputTerminal | selectorUnit | processingUnit | extensionUnit | other =>
      rwa [hcode] at h

/-- **Where the blocks are enough, what is behind them makes no difference.**  A scan that stays
inside its blocks answers and builds what `uvc_scan_control` does. -/
theorem scanControl_of_block {devDesc : Option DeviceDescriptor} {config : ConfigDescriptor}
    {info : DeviceInfo} {p : Ret × DeviceInfo}
    (h : scanControlIn .block devDesc config info = .ok p) :
    scanControl devDesc config info = .ok p := by
  rw [scanControlIn, bind_eq_ok] at h
  obtain ⟨found, hfound, h⟩ := h
  rw [scanControl, scanControlIn, bind_eq_ok]
  refine ⟨found, hfound, ?_⟩
  cases found with
  | none => exact h
  | some control =>
    refine scan_of_ok (by omega) (fun info b p hp => parseVc_of_block ?_) h
    show parseVc .block config info b.bytes b.size = .ok p
    rw [b.bytes_eq]
    exact stable_parseVc .block config info b.size _ _ _ hp

/-- A camera whose VideoControl interface has one block, a header that names interface 1, and whose
interface 1 is a VideoStreaming one with these bytes. -/
def cameraWith (extra : List UInt8) : ConfigDescriptor where
  interface := [
    { altsetting := [{
        bInterfaceClass := 14
        bInterfaceSubClass := 1
        extra := [13, 36, 1, 0x00, 0x01, 13, 0, 0, 0, 0, 0, 1, 1] }] },
    { altsetting := [{
        bInterfaceNumber := 1
        bInterfaceClass := 14
        bInterfaceSubClass := 2
        extra := extra }] }]

/-- An MJPEG format and a frame with one interval. -/
example : Safe (scanControlIn .block none (cameraWith ([11, 36, 6, 1, 1, 0, 1, 0, 0, 0, 0] ++
    30 :: 36 :: 7 :: (List.replicate 22 0 ++ [1, 0x15, 0x16, 0x05, 0x00]))) {}) := by
  decide

/-- **Three ways out of bounds.**  An interface without settings in front of the VideoControl one;
an uncompressed frame before any format; an MJPEG format of 5 bytes. -/
theorem scanControl_unsafe :
    ¬ Safe (scanControlIn .block none ⟨{ altsetting := [] } :: (cameraWith []).interface⟩ {}) ∧
    ¬ Safe (scanControlIn .block none (cameraWith (38 :: 36 :: 5 :: List.replicate 35 0)) {}) ∧
    ¬ Safe (scanControlIn .block none (cameraWith [5, 36, 6, 1, 1]) {}) := by
  decide

end Descriptor
end LibUvc
