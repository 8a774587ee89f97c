import Mathlib.Data.List.ModifyLast
import LibUvc.Descriptor.Controls
import LibUvc.Descriptor.Repair
import LibUvc.Descriptor.Numbers

/-!
# What a block says

The parsers of `device.c` read the fields of a block one at a time, and some of the reads may fail.
Here is what they read as a whole, with no failure in it: what the bytes from the block on say
(`vsNode`, `headerOf`, and `terminalSaid`, `selectorSaid`, `processingSaid`, `extensionSaid`,
`vcHeaderSaid`), and what becomes of the tree (`StreamingInterface.say`, `ControlInterface.say`).

* `parseVs_eq_success_iff`: a VideoStreaming block is accepted exactly if it can be read and its
  size will do (`VsFits`, `VsAccepted`), and the tree is then what it says.
* `parseVc_eq_success_iff`: the same for a VideoControl block (`VcReadable`), which also names
  streaming interfaces if it is a header.

The bytes are those from the block on to the end of what the interface has, not those of the block,
since most of the parsers never look at its size.
-/

set_option autoImplicit false

namespace LibUvc
namespace Descriptor

open Checked Scan CInt

/-! ## Formats -/

def uncompressedFormat (m : List UInt8) : FormatDesc where
  bDescriptorSubtype := VsSubtype.ofByte (byteAt m 2)
  bFormatIndex := byteAt m 3
  guidFormat := (m.drop 5).take 16
  bBitsPerPixel := byteAt m 21
  bDefaultFrameIndex := byteAt m 22
  bAspectRatioX := byteAt m 23
  bAspectRatioY := byteAt m 24
  bmInterlaceFlags := byteAt m 25
  bCopyProtect := byteAt m 26

def frameBasedFormat (m : List UInt8) : FormatDesc :=
  { uncompressedFormat m with
    bNumFrameDescriptors := byteAt m 4
    bVariableSize := byteAt m 27 }

def mjpegFormat (m : List UInt8) : FormatDesc where
  bDescriptorSubtype := VsSubtype.ofByte (byteAt m 2)
  bFormatIndex := byteAt m 3
  guidFormat := guidMjpg
  bDefaultFrameIndex := byteAt m 6
  bAspectRatioX := byteAt m 7
  bAspectRatioY := byteAt m 8
  bmInterlaceFlags := byteAt m 9
  bCopyProtect := byteAt m 10

/-! ## Frames -/

/-- The frame with the intervals that its block has from the byte 26 on. -/
def FrameDesc.withIntervals (frame : FrameDesc) (m : List UInt8) (count : UInt8) : FrameDesc :=
  if count = 0 then { frame with
    dwMinFrameInterval := dwAt m 26
    dwMaxFrameInterval := dwAt m 30
    dwFrameIntervalStep := dwAt m 34 }
  else { frame with intervals := storedIntervals m count.toNat ++ [0] }

/-- The first and the last of these intervals. -/
def intervalEnds (m : List UInt8) (count : UInt8) : UInt32 × UInt32 :=
  if count = 0 then (dwAt m 26, dwAt m 30)
  else (atLeastOne (dwAt m 26), atLeastOne (dwAt m (26 + 4 * (count.toNat - 1))))

/-- The size of a buffer that a frame asks for, when its format has this depth. -/
def bufferSize (bits : UInt8) (frame : FrameDesc) : UInt32 :=
  if frame.dwMaxVideoFrameBufferSize = 0 ∧ frame.wWidth ≠ 0 ∧ frame.wHeight ≠ 0 then
    if bits ≠ 0 then bits.toUInt32 * frame.wWidth.toUInt32 * frame.wHeight.toUInt32 / 8
    else frame.wWidth.toUInt32 * frame.wHeight.toUInt32 * 2
  else frame.dwMaxVideoFrameBufferSize

/-- The frame as it is kept, in a format of this depth. -/
def FrameDesc.kept (frame : FrameDesc) (bits : UInt8) (m : List UInt8) (count : UInt8) :
    FrameDesc :=
  { frame.withIntervals m count with
    dwMaxVideoFrameBufferSize := bufferSize bits frame
    dwDefaultFrameInterval := repairedInterval (intervalEnds m count).1 (intervalEnds m count).2
      frame.dwDefaultFrameInterval }

/-- The fields that all frames have at the same place. -/
def frameFront (m : List UInt8) : FrameDesc where
  bDescriptorSubtype := VsSubtype.ofByte (byteAt m 2)
  bFrameIndex := byteAt m 3
  bmCapabilities := byteAt m 4
  wWidth := sumAt m 5
  wHeight := sumAt m 7
  dwMinBitRate := dwAt m 9
  dwMaxBitRate := dwAt m 13

def uncompressedFrame (bits : UInt8) (m : List UInt8) : FrameDesc :=
  FrameDesc.kept { frameFront m with
    dwMaxVideoFrameBufferSize := dwAt m 17
    dwDefaultFrameInterval := dwAt m 21
    bFrameIntervalType := byteAt m 25 } bits m (byteAt m 25)

def frameBasedFrame (bits : UInt8) (m : List UInt8) : FrameDesc :=
  FrameDesc.kept { frameFront m with
    dwDefaultFrameInterval := dwAt m 17
    bFrameIntervalType := byteAt m 21
    dwBytesPerLine := dwAt m 22 } bits m (byteAt m 21)

theorem readSum_eq {buf : List UInt8} {off : Nat} (h : off + 2 ≤ buf.length) :
    readSum buf off = .ok (sumAt buf off) := by
  rw [readSum, readByte_eq (by omega), ok_bind, readByte_eq (by omega), ok_bind]
  rfl

theorem parseIntervals_eq {m : List UInt8} {count : UInt8} (h : IntervalsFit m.length count)
    (frame : FrameDesc) : parseIntervals m count frame = .ok (frame.withIntervals m count) := by
  rw [IntervalsFit] at h
  rw [parseIntervals, FrameDesc.withIntervals]
  split
  · rename_i hzero
    rw [if_pos hzero] at h
    rw [readDw_eq (by omega), ok_bind, readDw_eq (by omega), ok_bind, readDw_eq (by omega), ok_bind]
    rfl
  · rename_i hne
    rw [if_neg hne] at h
    have hlen : (storedIntervals m count.toNat).length = count.toNat := by simp [storedIntervals]
    rw [times_storeInterval_eq h, ok_bind, writeAt_eq (by simp [hlen]), ok_bind,
      List.set_append_right _ _ hlen.le, hlen, Nat.sub_self, List.set_cons_zero]
    rfl

/-- The range that `uvc_repair_frame_desc` finds. -/
theorem intervalRange_withIntervals {frame : FrameDesc} {m : List UInt8} {count : UInt8}
    (hcount : frame.bFrameIntervalType = count) :
    intervalRange (frame.withIntervals m count) = .ok (intervalEnds m count) := by
  have htype : (frame.withIntervals m count).bFrameIntervalType = count := by
    rw [FrameDesc.withIntervals]
    split <;> exact hcount
  rw [intervalRange, htype, intervalEnds, FrameDesc.withIntervals]
  split
  · rfl
  · rename_i hne
    have hpos : 0 < count.toNat := Nat.pos_of_ne_zero fun h => hne (UInt8.toNat_inj.1 h)
    have hentry : ∀ i < count.toNat, (storedIntervals m count.toNat ++ [0])[i]? =
        some (atLeastOne (dwAt m (26 + 4 * i))) := by
      intro i hi
      rw [List.getElem?_append_left (by simpa [storedIntervals] using hi)]
      simp [storedIntervals, hi]
    rw [readAt_eq (hentry 0 hpos), ok_bind, readAt_eq (hentry _ (by omega)), ok_bind]
    rfl

/-- The end of both frame parsers. -/
theorem finishFrame_eq {s : StreamingInterface} {format : FormatDesc} {m : List UInt8}
    {count : UInt8} {frame : FrameDesc} (hcount : frame.bFrameIntervalType = count)
    (h : IntervalsFit m.length count) :
    (parseIntervals m count frame >>= addFrame s format) = .ok (Ret.success, s.setLastFormat
      { format with frameDescs :=
          format.frameDescs ++ [frame.kept format.bBitsPerPixel m count] }) := by
  have hsize : (repairBufferSize format (frame.withIntervals m count)).dwMaxVideoFrameBufferSize =
      bufferSize format.bBitsPerPixel frame := by
    have hsame : (frame.withIntervals m count).wWidth = frame.wWidth ∧
        (frame.withIntervals m count).wHeight = frame.wHeight ∧
        (frame.withIntervals m count).dwMaxVideoFrameBufferSize =
          frame.dwMaxVideoFrameBufferSize := by
      rw [FrameDesc.withIntervals]
      split <;> exact ⟨rfl, rfl, rfl⟩
    rw [repairBufferSize, hsame.1, hsame.2.1, hsame.2.2, bufferSize]
    split
    · rfl
    · exact hsame.2.2
  have hdefault : (frame.withIntervals m count).dwDefaultFrameInterval =
      frame.dwDefaultFrameInterval := by
    rw [FrameDesc.withIntervals]
    split <;> rfl
  rw [parseIntervals_eq h, ok_bind, addFrame,
    repairFrameDesc_eq (intervalRange_withIntervals hcount), ok_bind, hsize, hdefault]
  rfl

/-! ## Still images -/

def stillImage (m : List UInt8) : StillFrameDesc where
  bDescriptorSubtype := VsSubtype.ofByte (byteAt m 2)
  bEndPointAddress := byteAt m 3
  imageSizePatterns := (List.range (byteAt m 4).toNat).map fun i =>
    ⟨UInt8.ofNat (i + 1), swAt m (5 + 4 * i), swAt m (7 + 4 * i)⟩
  bNumCompressionPattern := byteAt m (5 + 4 * (byteAt m 4).toNat)
  bCompression := (List.range (byteAt m (5 + 4 * (byteAt m 4).toNat)).toNat).map fun i =>
    byteAt m (6 + 4 * (byteAt m 4).toNat + i)

/-! ## The input header -/

/-- `bEndpointAddress`, `bTerminalLink` and `bStillCaptureMethod`. -/
abbrev HeaderFields := UInt8 × UInt8 × UInt8

def StreamingInterface.headerFields (s : StreamingInterface) : HeaderFields :=
  (s.bEndpointAddress, s.bTerminalLink, s.bStillCaptureMethod)

def StreamingInterface.setHeader (s : StreamingInterface) (h : HeaderFields) :
    StreamingInterface :=
  { s with bEndpointAddress := h.1, bTerminalLink := h.2.1, bStillCaptureMethod := h.2.2 }

/-- `uvc_parse_vs` takes the block for an input header. -/
def isInputHeader (m : List UInt8) : Bool :=
  VsSubtype.ofByte (byteAt m 2) = .inputHeader

/-- What an input header says. -/
def headerOf (m : List UInt8) : HeaderFields := (byteAt m 6 &&& 0x8f, byteAt m 8, byteAt m 9)

/-! ## What a block adds -/

/-- What a block may add to a streaming interface. -/
inductive VsNode where
  | format (format : FormatDesc)
  | frame (frame : FrameDesc)
  | still (frame : StillFrameDesc)
  deriving DecidableEq

/-- What the block adds, behind a format of this depth. -/
def vsNode (bits : UInt8) (m : List UInt8) : Option VsNode :=
  match VsSubtype.ofByte (byteAt m 2) with
  | .formatUncompressed => some (.format (uncompressedFormat m))
  | .formatMjpeg => some (.format (mjpegFormat m))
  | .formatFrameBased => some (.format (frameBasedFormat m))
  | .frameUncompressed | .frameMjpeg => some (.frame (uncompressedFrame bits m))
  | .frameFrameBased => some (.frame (frameBasedFrame bits m))
  | .stillImageFrame => some (.still (stillImage m))
  | _ => none

/-- `bBitsPerPixel` of the last format. -/
def lastDepth (formats : List FormatDesc) : UInt8 :=
  match formats.getLast? with
  | some format => format.bBitsPerPixel
  | none => 0

def FormatDesc.withFrame (format : FormatDesc) (frame : FrameDesc) : FormatDesc :=
  { format with frameDescs := format.frameDescs ++ [frame] }

def FormatDesc.withStill (format : FormatDesc) (frame : StillFrameDesc) : FormatDesc :=
  { format with stillFrameDesc := format.stillFrameDesc ++ [frame] }

/-- The formats with one thing more: a format behind the others, or something in the last one. -/
def VsNode.addTo (formats : List FormatDesc) : VsNode → List FormatDesc
  | .format added => formats ++ [added]
  | .frame added => formats.modifyLast (·.withFrame added)
  | .still added => formats.modifyLast (·.withStill added)

/-- The formats with what the block says. -/
def sayFormats (formats : List FormatDesc) (m : List UInt8) : List FormatDesc :=
  match vsNode (lastDepth formats) m with
  | some node => node.addTo formats
  | none => formats

/-- The streaming interface with what the block says. -/
def StreamingInterface.say (s : StreamingInterface) (m : List UInt8) : StreamingInterface :=
  { (if isInputHeader m then s.setHeader (headerOf m) else s) with
    formatDescs := sayFormats s.formatDescs m }

theorem exists_lastFormat {s : StreamingInterface} (h : s.hasFormat = true) :
    ∃ format, lastFormat s = .ok format ∧ lastDepth s.formatDescs = format.bBitsPerPixel ∧
      ∀ f, s.formatDescs.modifyLast f = s.formatDescs.dropLast ++ [f format] := by
  obtain ⟨format, hlast⟩ := safe_lastFormat.2 h
  have hformats := formatDescs_of_lastFormat hlast
  generalize hinit : s.formatDescs.dropLast = init at hformats
  refine ⟨format, hlast, ?_, fun f => ?_⟩
  · rw [hformats, lastDepth, List.getLast?_concat]
  · rw [hformats, List.modifyLast_concat]

/-! ## One VideoStreaming block -/

section Vs

variable {s : StreamingInterface} {m : List UInt8}

theorem parseVsInputHeader_eq (h : 10 ≤ m.length) :
    parseVsInputHeader s m = .ok (Ret.success, s.setHeader (headerOf m)) := by
  rw [parseVsInputHeader, readByte_eq (by omega), ok_bind, readByte_eq (by omega), ok_bind,
    readByte_eq (by omega), ok_bind]
  rfl

theorem parseVsFormatUncompressed_eq (h : 27 ≤ m.length) :
    parseVsFormatUncompressed s m = .ok (Ret.success, s.addFormat (uncompressedFormat m)) := by
  simp (disch := omega) only [parseVsFormatUncompressed, readByte_eq, slice_eq, ok_bind]
  rfl

theorem parseVsFormatMjpeg_eq (h : 11 ≤ m.length) :
    parseVsFormatMjpeg s m = .ok (Ret.success, s.addFormat (mjpegFormat m)) := by
  simp (disch := omega) only [parseVsFormatMjpeg, readByte_eq, ok_bind]
  rfl

theorem parseVsFrameFormat_eq {size : Nat} (hsize : size ≤ m.length) (h : 28 ≤ size) :
    parseVsFrameFormat s m size = .ok (Ret.success, s.addFormat (frameBasedFormat m)) := by
  rw [parseVsFrameFormat, if_neg (by omega)]
  simp (disch := omega) only [readByte_eq, slice_eq, ok_bind]
  rfl

theorem parseVsFrameUncompressed_eq (hformat : s.hasFormat = true) (h : 26 ≤ m.length)
    (hfit : IntervalsFit m.length (byteAt m 25)) :
    parseVsFrameUncompressed s m = .ok (Ret.success, { s with
      formatDescs :=
        (VsNode.frame (uncompressedFrame (lastDepth s.formatDescs) m)).addTo s.formatDescs }) := by
  obtain ⟨format, hlast, hbits, hmodify⟩ := exists_lastFormat hformat
  rw [parseVsFrameUncompressed, hlast, ok_bind]
  simp (disch := omega) only [readByte_eq, readSum_eq, readDw_eq, ok_bind]
  rw [VsNode.addTo, hmodify, hbits]
  exact finishFrame_eq rfl hfit

theorem parseVsFrameFrame_eq {size : Nat} (hsize : size ≤ m.length) (hformat : s.hasFormat = true)
    (h : 26 ≤ size) (hfit : IntervalsFit size (byteAt m 21)) :
    parseVsFrameFrame s m size = .ok (Ret.success, { s with
      formatDescs :=
        (VsNode.frame (frameBasedFrame (lastDepth s.formatDescs) m)).addTo s.formatDescs }) := by
  obtain ⟨format, hlast, hbits, hmodify⟩ := exists_lastFormat hformat
  rw [parseVsFrameFrame, if_neg (not_or.2 ⟨by omega, hasFormat_iff.1 hformat⟩),
    readByte_eq (by omega), ok_bind, if_neg (intervalsFit_iff.2 hfit), hlast, ok_bind]
  simp (disch := omega) only [readByte_eq, readSum_eq, readDw_eq, ok_bind]
  rw [VsNode.addTo, hmodify, hbits]
  exact finishFrame_eq rfl (hfit.mono hsize)

/-- The loop over the size patterns. -/
theorem times_addSizePattern_eq {n : Nat} (h : 5 + 4 * n ≤ m.length) :
    times (addSizePattern m) n [] = .ok ((List.range n).map fun i =>
      ⟨UInt8.ofNat (i + 1), swAt m (5 + 4 * i), swAt m (7 + 4 * i)⟩) := by
  have hround : ∀ i (hi : i < ((List.range n).map fun i =>
        (⟨UInt8.ofNat (i + 1), swAt m (5 + 4 * i), swAt m (7 + 4 * i)⟩ : StillFrameRes)).length)
      (l : List StillFrameRes), addSizePattern m i l = .ok (l ++ [((List.range n).map fun i =>
        (⟨UInt8.ofNat (i + 1), swAt m (5 + 4 * i), swAt m (7 + 4 * i)⟩ : StillFrameRes))[i]]) := by
    intro i hi l
    rw [List.length_map, List.length_range] at hi
    rw [addSizePattern, readSw_eq (by omega), ok_bind, readSw_eq (by omega), ok_bind,
      List.getElem_map, List.getElem_range]
    rfl
  have hall := times_collect hround
  rwa [List.length_map, List.length_range] at hall

/-- The loop over the compression patterns. -/
theorem times_storeCompression_eq {start n : Nat} (h : start + 1 + n ≤ m.length) :
    times (storeCompression m start) n (List.replicate n 0) =
      .ok ((List.range n).map fun i => byteAt m (start + 1 + i)) := by
  have hround : ∀ i (hi : i < ((List.range n).map fun i => byteAt m (start + 1 + i)).length)
      (l : List UInt8), storeCompression m start i l =
        writeAt l i ((List.range n).map fun i => byteAt m (start + 1 + i))[i] := by
    intro i hi l
    rw [List.length_map, List.length_range] at hi
    rw [storeCompression, readByte_eq (by omega), ok_bind, List.getElem_map, List.getElem_range]
  have hfill := times_fill hround 0 []
  rwa [List.length_map, List.length_range, List.append_nil, List.append_nil] at hfill

theorem parseVsStillImageFrame_eq (hformat : s.hasFormat = true) (hfits : StillFits m) :
    parseVsStillImageFrame s m = .ok (Ret.success, { s with
      formatDescs := (VsNode.still (stillImage m)).addTo s.formatDescs }) := by
  obtain ⟨format, hlast, -, hmodify⟩ := exists_lastFormat hformat
  obtain ⟨hpatterns, hcompression⟩ := hfits
  rw [parseVsStillImageFrame, hlast, ok_bind]
  simp (disch := omega) only [readByte_eq, ok_bind, times_addSizePattern_eq,
    times_storeCompression_eq]
  rw [VsNode.addTo, hmodify]
  simp only [stillImage, show ∀ n i : Nat, 5 + n + 1 + i = 6 + n + i from fun n i => by omega]
  rfl

theorem parseVs_eq_say {size : Nat} (hsize : size ≤ m.length) (hfits : VsFits s.hasFormat m)
    (haccepted : VsAccepted s.hasFormat m size) : parseVs s m size = .ok (0, s.say m) := by
  obtain ⟨hlen, hfits⟩ := hfits
  rw [VsAccepted] at haccepted
  rw [parseVs, readByte_eq (by omega), ok_bind, StreamingInterface.say, sayFormats, vsNode,
    isInputHeader]
  cases hcode : VsSubtype.ofByte (byteAt m 2) with
  | inputHeader =>
    rw [hcode] at hfits
    exact parseVsInputHeader_eq hfits
  | stillImageFrame =>
    rw [hcode] at hfits
    exact parseVsStillImageFrame_eq hfits.1 hfits.2
  | formatUncompressed =>
    rw [hcode] at hfits
    exact parseVsFormatUncompressed_eq hfits
  | formatMjpeg =>
    rw [hcode] at hfits
    exact parseVsFormatMjpeg_eq hfits
  | frameUncompressed | frameMjpeg =>
    rw [hcode] at hfits
    exact parseVsFrameUncompressed_eq hfits.1 hfits.2.1 hfits.2.2
  | formatFrameBased =>
    rw [hcode] at haccepted
    exact parseVsFrameFormat_eq hsize haccepted
  | frameFrameBased =>
    rw [hcode] at haccepted
    exact parseVsFrameFrame_eq hsize haccepted.1 haccepted.2.1 haccepted.2.2
  | outputHeader | formatMpeg2ts | formatDv | colorformat | formatStreamBased | other => rfl

/-- **One VideoStreaming block.**  It is accepted if it can be read and its size will do, and the
tree is then what it says. -/
theorem parseVs_eq_success_iff {size : Nat} (hsize : size ≤ m.length) {t : StreamingInterface} :
    parseVs s m size = .ok (0, t) ↔
      VsFits s.hasFormat m ∧ VsAccepted s.hasFormat m size ∧ t = s.say m := by
  constructor
  · intro h
    have hfits := (parseVs_safe hsize).1 ⟨_, h⟩
    have haccepted := (parseVs_post _ h).1.1 rfl
    have hsay := h.symm.trans (parseVs_eq_say hsize hfits haccepted)
    exact ⟨hfits, haccepted, (Prod.mk.inj (Except.ok.inj hsay)).2⟩
  · rintro ⟨hfits, haccepted, rfl⟩
    exact parseVs_eq_say hsize hfits haccepted

end Vs

/-! ## Terminals and units -/

/-- `uvc_parse_vc` takes the block for one of this subtype. -/
def isVc (subtype : VcSubtype) (m : List UInt8) : Bool :=
  byteAt m 1 = 36 && VcSubtype.ofByte (byteAt m 2) = subtype

/-- The bitmap of the `n` bytes at `base`, as far as it goes into 64 bits. -/
def controlsAt (m : List UInt8) (base : Nat) (n : UInt8) : UInt64 :=
  UInt64.ofNat (littleEndian ((m.drop base).take n.toNat))

/-- The camera terminal that the block describes, if it is one. -/
def terminalSaid (m : List UInt8) : Option InputTerminal :=
  if isVc .inputTerminal m ∧ swAt m 4 = ittCamera then some {
    bTerminalID := byteAt m 3
    wTerminalType := swAt m 4
    wObjectiveFocalLengthMin := swAt m 8
    wObjectiveFocalLengthMax := swAt m 10
    wOcularFocalLength := swAt m 12
    bmControls := controlsAt m 15 (byteAt m 14) }
  else none

def selectorSaid (m : List UInt8) : Option SelectorUnit :=
  if isVc .selectorUnit m then some ⟨byteAt m 3⟩ else none

def processingSaid (m : List UInt8) : Option ProcessingUnit :=
  if isVc .processingUnit m then
    some ⟨byteAt m 3, byteAt m 4, controlsAt m 8 (byteAt m 7)⟩
  else none

def extensionSaid (m : List UInt8) : Option ExtensionUnit :=
  if isVc .extensionUnit m then
    some ⟨byteAt m 3, (m.drop 4).take 16,
      controlsAt m (23 + (byteAt m 21).toNat) (byteAt m (22 + (byteAt m 21).toNat))⟩
  else none

/-- `bcdUVC` and `dwClockFrequency`, if the block is a header. -/
def vcHeaderSaid (m : List UInt8) : Option (UInt16 × UInt32) :=
  if isVc .header m then some (swAt m 3, dwAt m 7) else none

/-- The control interface with what the block says. -/
def ControlInterface.say (c : ControlInterface) (m : List UInt8) : ControlInterface :=
  { c with
    inputTermDescs := c.inputTermDescs ++ (terminalSaid m).toList
    selectorUnitDescs := c.selectorUnitDescs ++ (selectorSaid m).toList
    processingUnitDescs := c.processingUnitDescs ++ (processingSaid m).toList
    extensionUnitDescs := c.extensionUnitDescs ++ (extensionSaid m).toList
    bcdUVC := ((vcHeaderSaid m).getD (c.bcdUVC, c.dwClockFrequency)).1
    dwClockFrequency := ((vcHeaderSaid m).getD (c.bcdUVC, c.dwClockFrequency)).2 }

/-- The VideoControl block can be read and is accepted, the streaming interfaces that it names
apart. -/
def VcReadable (m : List UInt8) : Prop :=
  byteAt m 1 = 36 →
    match VcSubtype.ofByte (byteAt m 2) with
    | .header => 11 ≤ m.length ∧ knownVersion (swAt m 3) = true
    | .inputTerminal => 6 ≤ m.length ∧ (swAt m 4 = ittCamera →
        15 ≤ m.length ∧ ControlsFit m 15 (byteAt m 14))
    | .outputTerminal => True
    | .selectorUnit => 4 ≤ m.length
    | .processingUnit => 8 ≤ m.length ∧ ControlsFit m 8 (byteAt m 7)
    | .extensionUnit => 22 ≤ m.length ∧ 23 + (byteAt m 21).toNat ≤ m.length ∧
        ControlsFit m (23 + (byteAt m 21).toNat) (byteAt m (22 + (byteAt m 21).toNat))
    | .other _ => False

/-! ## One VideoControl block -/

section Vc

variable {info : DeviceInfo} {m : List UInt8}

theorem controlBits_eq {base : Nat} {n : UInt8} (h : base + n.toNat ≤ m.length) :
    controlBits m base n.toNat 0 = .ok (controlsAt m base n) := by
  obtain ⟨t, ht, hdecodes⟩ := controlBits_decodes h
  rw [ht, controlsAt]
  refine congrArg Except.ok (UInt64.toNat_inj.1 ?_)
  rw [hdecodes.value, UInt64.toNat_ofNat']

theorem parseVcInputTerminal_eq (hcode : isVc .inputTerminal m = true) (h : 6 ≤ m.length)
    (hcamera : swAt m 4 = ittCamera → 15 ≤ m.length ∧ ControlsFit m 15 (byteAt m 14)) :
    parseVcInputTerminal info m = .ok (Ret.success, { info with ctrlIf := { info.ctrlIf with
      inputTermDescs := info.ctrlIf.inputTermDescs ++ (terminalSaid m).toList } }) := by
  rw [parseVcInputTerminal, readSw_eq (by omega), ok_bind, terminalSaid]
  by_cases htype : swAt m 4 = ittCamera
  · obtain ⟨hlen, hfit⟩ := hcamera htype
    rw [if_neg (not_not_intro htype), if_pos ⟨hcode, htype⟩]
    simp (disch := omega) only [readByte_eq, readSw_eq, ok_bind]
    rw [controlBits_eq hfit]
    rfl
  · rw [if_pos htype, if_neg fun h => htype h.2]
    simp [pure, Except.pure]

theorem parseVcProcessingUnit_eq (hcode : isVc .processingUnit m = true) (h : 8 ≤ m.length)
    (hfit : ControlsFit m 8 (byteAt m 7)) :
    parseVcProcessingUnit info m = .ok (Ret.success, { info with ctrlIf := { info.ctrlIf with
      processingUnitDescs :=
        info.ctrlIf.processingUnitDescs ++ (processingSaid m).toList } }) := by
  simp (disch := omega) only [parseVcProcessingUnit, readByte_eq, ok_bind]
  rw [controlBits_eq hfit, processingSaid, if_pos hcode]
  rfl

theorem parseVcSelectorUnit_eq (hcode : isVc .selectorUnit m = true) (h : 4 ≤ m.length) :
    parseVcSelectorUnit info m = .ok (Ret.success, { info with ctrlIf := { info.ctrlIf with
      selectorUnitDescs := info.ctrlIf.selectorUnitDescs ++ (selectorSaid m).toList } }) := by
  rw [parseVcSelectorUnit, readByte_eq (by omega), ok_bind, selectorSaid, if_pos hcode]
  rfl

theorem parseVcExtensionUnit_eq (hcode : isVc .extensionUnit m = true) (h : 22 ≤ m.length)
    (hpins : 23 + (byteAt m 21).toNat ≤ m.length)
    (hfit : ControlsFit m (23 + (byteAt m 21).toNat) (byteAt m (22 + (byteAt m 21).toNat))) :
    parseVcExtensionUnit info m = .ok (Ret.success, { info with ctrlIf := { info.ctrlIf with
      extensionUnitDescs :=
        info.ctrlIf.extensionUnitDescs ++ (extensionSaid m).toList } }) := by
  simp (disch := omega) only [parseVcExtensionUnit, readByte_eq, slice_eq, ok_bind]
  rw [controlBits_eq hfit, extensionSaid, if_pos hcode]
  rfl

end Vc

/-- What a block of another subtype says about this one. -/
theorem isVc_ne {subtype other : VcSubtype} {m : List UInt8}
    (h : VcSubtype.ofByte (byteAt m 2) = subtype) (hne : subtype ≠ other) :
    isVc other m = false := by
  rw [isVc, h, decide_eq_false hne, Bool.and_false]

/-- A header that is accepted. -/
theorem parseVcHeader_eq_success_iff {config : ConfigDescriptor} {info t : DeviceInfo} {b : Block} :
    parseVcHeader .extra config info b.bytes b.size = .ok (0, t) ↔
      (11 ≤ b.bytes.length ∧ knownVersion (swAt b.bytes 3) = true) ∧
        ∃ new, List.Forall₂ (ParsedFrom config) (namedStreams b.own) new ∧
          t = { info with
            ctrlIf := { info.ctrlIf with
              bcdUVC := swAt b.bytes 3
              dwClockFrequency := dwAt b.bytes 7 }
            streamIfs := info.streamIfs ++ new } := by
  rw [parseVcHeader]
  by_cases hfive : 5 ≤ b.bytes.length
  · rw [readSw_eq (by omega), ok_bind]
    simp only []
    split
    · rename_i hknown
      by_cases hclock : 11 ≤ b.bytes.length
      · rw [readDw_eq (by omega), ok_bind, forEach_scanNamed _ _ b.fits]
        simp only [hclock, hknown, and_self, true_and]
        exact forEach_scanStreaming_iff
      · refine iff_of_false (fun h => ?_) fun h => hclock h.1.1
        have hsafe := safe_bind_readDw.1 ⟨_, h⟩
        omega
    · rename_i hknown
      exact iff_of_false (fun h => Ret.errorNotSupported_ne (Prod.mk.inj (Except.ok.inj h)).1)
        fun h => hknown h.1.2
  · refine iff_of_false (fun h => ?_) fun h => by omega
    have hsafe := safe_bind_readSw.1 ⟨_, h⟩
    omega

/-- A parser that answers in one way only, when it can read what it needs. -/
theorem eq_success_iff_of_safe {x : Checked (Ret × DeviceInfo)} {P : Prop} {t t' : DeviceInfo}
    (hsafe : Safe x ↔ P) (heq : P → x = .ok (0, t')) : x = .ok (0, t) ↔ P ∧ t = t' := by
  constructor
  · intro h
    have hP := hsafe.1 ⟨_, h⟩
    exact ⟨hP, (Prod.mk.inj (Except.ok.inj (h.symm.trans (heq hP)))).2⟩
  · rintro ⟨hP, rfl⟩
    exact heq hP

/-- A VideoControl block that is no header. -/
theorem parseVc_unit_iff {config : ConfigDescriptor} {info t : DeviceInfo} {m : List UInt8}
    {size : Nat} (hlen : 3 ≤ m.length) (hheader : isVc .header m = false) :
    parseVc .extra config info m size = .ok (0, t) ↔
      VcReadable m ∧ t = { info with ctrlIf := info.ctrlIf.say m } := by
  rw [parseVc, readByte_eq (by omega), ok_bind, VcReadable]
  by_cases htype : byteAt m 1 = 36
  · have hcode : ∀ {subtype}, VcSubtype.ofByte (byteAt m 2) = subtype → isVc subtype m = true :=
      fun h => by simp [isVc, htype, h]
    rw [if_neg (not_not_intro htype), readByte_eq (by omega), ok_bind]
    simp only [htype, forall_const]
    cases hsub : VcSubtype.ofByte (byteAt m 2) with
    | header =>
      rw [hcode hsub] at hheader
      cases hheader
    | inputTerminal =>
      refine eq_success_iff_of_safe parseVcInputTerminal_safe fun h => ?_
      simp [Ret.success, ControlInterface.say, vcHeaderSaid, selectorSaid, processingSaid,
        extensionSaid, isVc_ne hsub, parseVcInputTerminal_eq (hcode hsub) h.1 h.2]
    | outputTerminal =>
      refine eq_success_iff_of_safe (iff_of_true (safe_pure _) trivial) fun _ => ?_
      simp [Ret.success, ControlInterface.say, vcHeaderSaid, terminalSaid, selectorSaid,
        processingSaid, extensionSaid, isVc_ne hsub, pure, Except.pure]
    | selectorUnit =>
      refine eq_success_iff_of_safe parseVcSelectorUnit_safe fun h => ?_
      simp [Ret.success, ControlInterface.say, vcHeaderSaid, terminalSaid, processingSaid,
        extensionSaid, isVc_ne hsub, parseVcSelectorUnit_eq (hcode hsub) h]
    | processingUnit =>
      refine eq_success_iff_of_safe parseVcProcessingUnit_safe fun h => ?_
      simp [Ret.success, ControlInterface.say, vcHeaderSaid, terminalSaid, selectorSaid,
        extensionSaid, isVc_ne hsub, parseVcProcessingUnit_eq (hcode hsub) h.1 h.2]
    | extensionUnit =>
      refine eq_success_iff_of_safe parseVcExtensionUnit_safe fun h => ?_
      simp [Ret.success, ControlInterface.say, vcHeaderSaid, terminalSaid, selectorSaid,
        processingSaid, isVc_ne hsub, parseVcExtensionUnit_eq (hcode hsub) h.1 h.2.1 h.2.2]
    | other code =>
      exact iff_of_false
        (fun h => Ret.errorInvalidDevice_ne (Prod.mk.inj (Except.ok.inj h)).1) fun h => h.1
  · have hother : ∀ subtype, isVc subtype m = false := fun subtype => by simp [isVc, htype]
    rw [if_pos htype]
    refine eq_success_iff_of_safe (iff_of_true (safe_pure _) fun h => absurd h htype) fun _ => ?_
    simp [Ret.success, ControlInterface.say, vcHeaderSaid, terminalSaid, selectorSaid,
      processingSaid, extensionSaid, hother, pure, Except.pure]

/-- **One VideoControl block.**  It is accepted if it can be read and, if it is a header, the
streaming interfaces that it names are accepted; these are added to the tree, and the control
interface is then what the block says. -/
theorem parseVc_eq_success_iff {config : ConfigDescriptor} {info t : DeviceInfo} {b : Block}
    (hthree : 3 ≤ b.size) :
    parseVc .extra config info b.bytes b.size = .ok (0, t) ↔
      VcReadable b.bytes ∧ ∃ new, List.Forall₂ (ParsedFrom config) (namedByBlock b.own) new ∧
        t = { ctrlIf := info.ctrlIf.say b.bytes, streamIfs := info.streamIfs ++ new } := by
  have hlen : 3 ≤ b.bytes.length := hthree.trans b.fits
  have hone : byteAt b.own 1 = byteAt b.bytes 1 := b.byteAt_own (by omega)
  have htwo : byteAt b.own 2 = byteAt b.bytes 2 := b.byteAt_own (by omega)
  have hnamed : namedByBlock b.own = if isVc .header b.bytes then namedStreams b.own else [] := by
    simp [namedByBlock, isVc, hone, htwo]
  rw [hnamed]
  cases hheader : isVc .header b.bytes with
  | false =>
    rw [parseVc_unit_iff hlen hheader, if_neg (by simp)]
    simp only [List.forall₂_nil_left_iff, exists_eq_left, List.append_nil]
  | true =>
    obtain ⟨htype, hcode⟩ : byteAt b.bytes 1 = 36 ∧
        VcSubtype.ofByte (byteAt b.bytes 2) = .header := by
      simpa [isVc] using hheader
    rw [parseVc, readByte_eq (by omega), ok_bind, if_neg (not_not_intro htype),
      readByte_eq (by omega), ok_bind, hcode, if_pos rfl, VcReadable, hcode]
    simp only [htype, forall_const, ControlInterface.say, vcHeaderSaid, hheader, if_true,
      terminalSaid, selectorSaid, processingSaid, extensionSaid]
    simp [isVc_ne hcode, parseVcHeader_eq_success_iff]

end Descriptor
end LibUvc
