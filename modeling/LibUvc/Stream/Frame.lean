import LibUvc.Descriptor.Lookup
import LibUvc.Stream.Bounds

/-!
# The frame that user code gets

A stream handle owns one `uvc_frame_t`, and `_uvc_populate_frame` fills it from the hold buffers
each time a consumer takes a frame.  The record is reused: its two buffers grow by `realloc` and are
never cleared, and their sizes are the only record of how much of them is allocated.

* `populateFrame` is the function, on the fields of the record that it reads or writes, with the
  copies checked against the sizes of the buffers;
* `populateFrame_ok` says what it leaves in a frame whose buffers are as large as it says
  (`Frame.Sized`), which it keeps so.

Growing a buffer brings in bytes of the heap, `junk` below.  All of them are overwritten before the
frame is handed out, so nothing in `populateFrame_ok` depends on them.  `realloc` is taken to
succeed, and `size_t` to be wide enough for `height * step`, which is below 2^34.
-/

set_option autoImplicit false

namespace LibUvc
namespace Stream

open Checked Descriptor

/-! ## The record -/

/-- `uvc_frame_t`, without the capture times and the fields no modelled function uses. -/
structure Frame where
  /-- The buffer, with all the bytes it was allocated with; the null pointer is the empty one. -/
  data : List UInt8 := []
  dataBytes : Nat := 0
  width : UInt32 := 0
  height : UInt32 := 0
  frameFormat : FrameFormat := .unknown
  step : Nat := 0
  sequence : UInt32 := 0
  metadata : List UInt8 := []
  metadataBytes : Nat := 0
  deriving DecidableEq, Repr

/-- The size of the image when its lines are packed: `frame->height * frame->step`. -/
def Frame.imageBytes (frame : Frame) : Nat := frame.height.toNat * frame.step

/-- The `switch` over the pixel format: bytes per line, and 0 for the formats not listed. -/
def lineStep (format : FrameFormat) (width : UInt32) : Nat :=
  match format with
  | .bgr => (width * 3).toNat
  | .yuyv => (width * 2).toNat
  | .nv12 => width.toNat
  | .p010 => (width * 2).toNat
  | _ => 0

/-- `realloc(buf, size)`: the old content as far as it fits, then whatever was there. -/
def realloc (junk : Nat → UInt8) (buf : List UInt8) (size : Nat) : List UInt8 :=
  buf.take size ++ (List.range (size - buf.length)).map junk

@[simp] theorem length_realloc (junk : Nat → UInt8) (buf : List UInt8) (size : Nat) :
    (realloc junk buf size).length = size := by
  simp only [realloc, List.length_append, List.length_take, List.length_map, List.length_range]
  omega

/-! ## `_uvc_populate_frame` -/

/-- The fields that come from the descriptor. -/
def Frame.describe (frame : Frame) (format : FrameFormat) (desc : FrameDesc) : Frame :=
  { frame with
    frameFormat := format
    width := desc.wWidth.toUInt32
    height := desc.wHeight.toUInt32
    step := lineStep format desc.wWidth.toUInt32 }

/-- Make room for `holdBytes` bytes, and for the whole image when that is more, with zeros in the
part that was not received. -/
def Frame.reserve (junk : Nat → UInt8) (frame : Frame) (holdBytes : Nat) : Checked Frame :=
  if frame.dataBytes < holdBytes ∨ frame.dataBytes < frame.imageBytes then
    if frame.imageBytes ≤ holdBytes then
      return { frame with data := realloc junk frame.data holdBytes, dataBytes := holdBytes }
    else do
      let missing ← sub frame.imageBytes holdBytes
      let data ← blit (realloc junk frame.data frame.imageBytes) holdBytes
        (List.replicate missing 0)
      return { frame with data := data, dataBytes := frame.imageBytes }
  else return { frame with dataBytes := holdBytes }

/-- Copy the image data. -/
def Frame.copyData (frame : Frame) (asm : Assembly) : Checked Frame := do
  let bytes ← slice asm.holdbuf 0 asm.holdBytes
  let data ← blit frame.data 0 bytes
  return { frame with data := data }

/-- Copy the metadata, if there is any.  A frame without metadata keeps what the record had. -/
def Frame.copyMetadata (junk : Nat → UInt8) (frame : Frame) (asm : Assembly) : Checked Frame :=
  if asm.metaHoldBytes > 0 then do
    let buf := if frame.metadataBytes < asm.metaHoldBytes then
      realloc junk frame.metadata asm.metaHoldBytes else frame.metadata
    let bytes ← slice asm.metaHoldbuf 0 asm.metaHoldBytes
    let metadata ← blit buf 0 bytes
    return { frame with metadata := metadata, metadataBytes := asm.metaHoldBytes }
  else return frame

/-- `_uvc_populate_frame`; `format` is the handle's `frame_format`.  The descriptor is looked up on
the whole device and not tested for null. -/
def populateFrame (junk : Nat → UInt8) (info : DeviceInfo) (format : FrameFormat) (asm : Assembly)
    (frame : Frame) : Checked Frame := do
  match findFrameDesc info asm.curCtrl.bFormatIndex.toUInt16 asm.curCtrl.bFrameIndex.toUInt16 with
  | none => .error .nullPointer
  | some (_, desc) =>
    let frame := { frame.describe format desc with sequence := asm.holdSeq }
    let frame ← frame.reserve junk asm.holdBytes
    let frame ← frame.copyData asm
    frame.copyMetadata junk asm

/-! ## What it leaves -/

/-- The buffers are at least as large as the record says. -/
structure Frame.Sized (frame : Frame) : Prop where
  data : frame.dataBytes ≤ frame.data.length
  metadata : frame.metadataBytes ≤ frame.metadata.length

/-- A copy to the front of a buffer. -/
theorem blit_zero {buf src : List UInt8} (h : src.length ≤ buf.length) :
    blit buf 0 src = .ok (src ++ buf.drop src.length) := by
  rw [blit_eq (by omega), List.take_zero, List.nil_append, Nat.zero_add]

/-- How much of the buffer the record shows: the bytes received, or the whole image when the buffer
was too small for one before. -/
def Frame.shownBytes (frame : Frame) (holdBytes imageBytes : Nat) : Nat :=
  if frame.dataBytes < imageBytes then max holdBytes imageBytes else holdBytes

/-- The image data that the record shows. -/
def Frame.image (frame : Frame) : List UInt8 := frame.data.take frame.dataBytes

/-- The metadata that the record shows. -/
def Frame.shownMetadata (frame : Frame) : List UInt8 := frame.metadata.take frame.metadataBytes

/-- `reserve` makes enough room, and clears what the copy after it will not reach. -/
theorem reserve_ok (junk : Nat → UInt8) (frame : Frame) (holdBytes : Nat)
    (h : frame.dataBytes ≤ frame.data.length) :
    ∃ data dataBytes, frame.reserve junk holdBytes =
        .ok { frame with data := data, dataBytes := dataBytes } ∧
      holdBytes ≤ dataBytes ∧ dataBytes ≤ data.length ∧
      dataBytes = frame.shownBytes holdBytes frame.imageBytes ∧
      (data.drop holdBytes).take (dataBytes - holdBytes) =
        List.replicate (dataBytes - holdBytes) 0 := by
  rw [Frame.reserve, Frame.shownBytes]
  split
  · rename_i hgrow
    split
    · rename_i hle
      refine ⟨_, _, rfl, le_refl _, by rw [length_realloc], ?_, by simp⟩
      split
      · rw [max_eq_left hle]
      · rfl
    · rename_i hlt
      have hfit : holdBytes + (List.replicate (frame.imageBytes - holdBytes) (0 : UInt8)).length
          ≤ (realloc junk frame.data frame.imageBytes).length := by
        rw [List.length_replicate, length_realloc]
        omega
      have hlen : ((realloc junk frame.data frame.imageBytes).take holdBytes).length
          = holdBytes := by
        rw [List.length_take, length_realloc]
        omega
      rw [sub_eq (by omega), ok_bind, blit_eq hfit, ok_bind]
      refine ⟨_, _, rfl, by omega, by rw [length_blit hfit, length_realloc], ?_, ?_⟩
      · rw [if_pos (by omega), max_eq_right (by omega)]
      · rw [List.append_assoc, List.drop_append_of_le_length hlen.ge,
          List.drop_of_length_le hlen.le, List.nil_append,
          List.take_append_of_le_length (by rw [List.length_replicate]),
          List.take_of_length_le (by rw [List.length_replicate])]
  · rename_i hgrow
    refine ⟨_, _, rfl, le_refl _, by omega, ?_, by simp⟩
    rw [if_neg (by omega)]

/-- The copy puts the bytes received in front. -/
theorem copyData_ok {frame : Frame} {asm : Assembly} (hfit : asm.holdBytes ≤ frame.data.length)
    (hhold : asm.holdBytes ≤ asm.holdbuf.length) :
    frame.copyData asm = .ok { frame with
      data := asm.holdbuf.take asm.holdBytes ++ frame.data.drop asm.holdBytes } := by
  have hlen : (asm.holdbuf.take asm.holdBytes).length = asm.holdBytes := by
    rw [List.length_take, Nat.min_eq_left hhold]
  rw [Frame.copyData, slice_eq (by omega), ok_bind, List.drop_zero, blit_zero (by omega), ok_bind,
    hlen]
  rfl

/-- The metadata is that of the frame, or the old one if the frame has none. -/
theorem copyMetadata_ok (junk : Nat → UInt8) (frame : Frame) {asm : Assembly}
    (h : frame.metadataBytes ≤ frame.metadata.length)
    (hhold : asm.metaHoldBytes ≤ asm.metaHoldbuf.length) :
    ∃ metadata metadataBytes, frame.copyMetadata junk asm =
        .ok { frame with metadata := metadata, metadataBytes := metadataBytes } ∧
      metadataBytes ≤ metadata.length ∧
      metadataBytes = (if 0 < asm.metaHoldBytes then asm.metaHoldBytes else frame.metadataBytes) ∧
      metadata.take metadataBytes = (if 0 < asm.metaHoldBytes then
        asm.metaHoldbuf.take asm.metaHoldBytes else frame.shownMetadata) := by
  rw [Frame.copyMetadata]
  split
  · have hlen : (asm.metaHoldbuf.take asm.metaHoldBytes).length = asm.metaHoldBytes := by
      rw [List.length_take, Nat.min_eq_left hhold]
    have hroom : asm.metaHoldBytes ≤ (if frame.metadataBytes < asm.metaHoldBytes then
        realloc junk frame.metadata asm.metaHoldBytes else frame.metadata).length := by
      split
      · rw [length_realloc]
      · omega
    rw [slice_eq (by omega), ok_bind, List.drop_zero, blit_zero (by omega), ok_bind]
    refine ⟨_, _, rfl, by rw [List.length_append]; omega, rfl, ?_⟩
    rw [List.take_append_of_le_length hlen.ge, List.take_of_length_le hlen.le]
  · exact ⟨_, _, rfl, h, rfl, rfl⟩

/-- The fill levels of the hold buffers are within them. -/
structure Assembly.HoldBounded (s : Assembly) : Prop where
  hold : s.holdBytes ≤ s.holdbuf.length
  metaHold : s.metaHoldBytes ≤ s.metaHoldbuf.length

/-- The part of `_uvc_populate_frame` behind the `switch`. -/
def Frame.fill (junk : Nat → UInt8) (asm : Assembly) (frame : Frame) : Checked Frame := do
  let frame ← frame.reserve junk asm.holdBytes
  let frame ← frame.copyData asm
  frame.copyMetadata junk asm

/-- The copies, on hold buffers and a frame that are as large as they say, whatever the geometry of
the frame. -/
theorem fill_ok (junk : Nat → UInt8) (frame : Frame) {asm : Assembly} (hasm : asm.HoldBounded)
    (hframe : frame.Sized) :
    ∃ data dataBytes metadata metadataBytes, frame.fill junk asm = .ok { frame with
        data := data, dataBytes := dataBytes
        metadata := metadata, metadataBytes := metadataBytes } ∧
      dataBytes ≤ data.length ∧ metadataBytes ≤ metadata.length ∧
      asm.holdBytes ≤ dataBytes ∧ dataBytes = frame.shownBytes asm.holdBytes frame.imageBytes ∧
      data.take dataBytes = asm.holdbuf.take asm.holdBytes ++
        List.replicate (dataBytes - asm.holdBytes) 0 ∧
      metadataBytes = (if 0 < asm.metaHoldBytes then asm.metaHoldBytes else frame.metadataBytes) ∧
      metadata.take metadataBytes = (if 0 < asm.metaHoldBytes then
        asm.metaHoldbuf.take asm.metaHoldBytes else frame.shownMetadata) := by
  obtain ⟨data, dataBytes, hreserve, hle, hfit, hshown, hzeros⟩ :=
    reserve_ok junk frame asm.holdBytes hframe.data
  have hlen : (asm.holdbuf.take asm.holdBytes).length = asm.holdBytes := by
    rw [List.length_take, Nat.min_eq_left hasm.hold]
  have hcopied : dataBytes ≤
      (asm.holdbuf.take asm.holdBytes ++ data.drop asm.holdBytes).length := by
    rw [List.length_append, List.length_drop]
    omega
  obtain ⟨metadata, metadataBytes, hmeta, hmfit, hmbytes, hmshown⟩ := copyMetadata_ok junk
    { frame with
      data := asm.holdbuf.take asm.holdBytes ++ data.drop asm.holdBytes
      dataBytes := dataBytes } hframe.metadata hasm.metaHold
  refine ⟨asm.holdbuf.take asm.holdBytes ++ data.drop asm.holdBytes, dataBytes, metadata,
    metadataBytes, ?_, hcopied, hmfit, hle, hshown, ?_, hmbytes, hmshown⟩
  · rw [Frame.fill, hreserve, ok_bind, copyData_ok (hle.trans hfit) hasm.hold, ok_bind, hmeta]
  · rw [List.take_append, hlen, hzeros, List.take_of_length_le (hlen.le.trans hle)]

theorem populateFrame_eq (junk : Nat → UInt8) {info : DeviceInfo} (format : FrameFormat)
    {asm : Assembly} (frame : Frame) {d : FormatDesc × FrameDesc}
    (hdesc : findFrameDesc info asm.curCtrl.bFormatIndex.toUInt16
      asm.curCtrl.bFrameIndex.toUInt16 = some d) :
    populateFrame junk info format asm frame =
      Frame.fill junk asm { frame.describe format d.2 with sequence := asm.holdSeq } := by
  rw [populateFrame, hdesc]
  rfl

/-- **What the user gets.**  On hold buffers and a frame that are as large as they say,
`_uvc_populate_frame` does not fault, and leaves such a frame: with the number and the bytes that
are held, zeros up to a whole image if the buffer had to grow to one, the metadata that is held or
else that of an earlier frame, and the geometry of the descriptor that the device-wide lookup
finds. -/
theorem populateFrame_ok (junk : Nat → UInt8) {info : DeviceInfo} (format : FrameFormat)
    {asm : Assembly} {frame : Frame} (hasm : asm.HoldBounded) (hframe : frame.Sized)
    {d : FormatDesc × FrameDesc}
    (hdesc : findFrameDesc info asm.curCtrl.bFormatIndex.toUInt16
      asm.curCtrl.bFrameIndex.toUInt16 = some d) :
    ∃ out, populateFrame junk info format asm frame = .ok out ∧ out.Sized ∧
      out.frameFormat = format ∧ out.width = d.2.wWidth.toUInt32 ∧
      out.height = d.2.wHeight.toUInt32 ∧ out.step = lineStep format d.2.wWidth.toUInt32 ∧
      out.sequence = asm.holdSeq ∧
      asm.holdBytes ≤ out.dataBytes ∧
      out.dataBytes = frame.shownBytes asm.holdBytes out.imageBytes ∧
      out.image = asm.holdbuf.take asm.holdBytes ++
        List.replicate (out.dataBytes - asm.holdBytes) 0 ∧
      out.metadataBytes =
        (if 0 < asm.metaHoldBytes then asm.metaHoldBytes else frame.metadataBytes) ∧
      out.shownMetadata = (if 0 < asm.metaHoldBytes then
        asm.metaHoldbuf.take asm.metaHoldBytes else frame.shownMetadata) := by
  obtain ⟨data, dataBytes, metadata, metadataBytes, hfill, hfit, hmfit, hle, hshown, himage,
    hmbytes, hmshown⟩ :=
    fill_ok junk { frame.describe format d.2 with sequence := asm.holdSeq } hasm
      ⟨hframe.data, hframe.metadata⟩
  refine ⟨_, (populateFrame_eq junk format frame hdesc).trans hfill, ⟨hfit, hmfit⟩, rfl, rfl, rfl,
    rfl, rfl, hle, hshown, himage, hmbytes, hmshown⟩

end Stream
end LibUvc
