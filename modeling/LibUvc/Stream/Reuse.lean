import LibUvc.Foundation.Rounds
import LibUvc.Stream.Playback

/-!
# One frame after another in the same record

A stream handle has a single `uvc_frame_t`, which every frame of the stream is copied into.  Its two
sizes serve twice: they say how much of a buffer is shown, and they are all that is known of how
much of it was allocated.

* `populate_accounting` is about the second use, and it is sound: a size that has shrunk makes the
  code allocate again where it need not, never the other way round.
* `padded_iff` is about the first.  An image that is too short is filled up with zeros when the
  buffer has to grow for a whole one, and only then; the next short image is handed out as it is.
* `populateAll_metadata` says what becomes of the metadata, which `LibUvc.Image.Frame` asks of
  copies of the record as well.
-/

set_option autoImplicit false

namespace LibUvc
namespace Stream

open Checked Descriptor Rounds

/-! ## Capacities -/

/-- What one call of `_uvc_populate_frame` works with, once it has looked up the descriptor. -/
structure FrameCall where
  junk : Nat → UInt8
  frameFormat : FrameFormat
  width : UInt32
  height : UInt32
  step : Nat
  asm : Assembly

/-- The fields that are set before anything is copied. -/
def FrameCall.begin (c : FrameCall) (frame : Frame) : Frame := { frame with
  frameFormat := c.frameFormat
  width := c.width
  height := c.height
  step := c.step
  sequence := c.asm.holdSeq }

/-- The call. -/
def FrameCall.run (c : FrameCall) (frame : Frame) : Checked Frame :=
  Frame.fill c.junk c.asm (c.begin frame)

theorem FrameCall.begin_sized (c : FrameCall) {frame : Frame} (hframe : frame.Sized) :
    (c.begin frame).Sized :=
  ⟨hframe.data, hframe.metadata⟩

/-- **The capacities are accounted for.**  In every sequence of calls, with hold buffers that are as
large as they say and any geometry, no copy leaves its buffers, and the buffers of the frame stay at
least as large as their sizes say.  `_uvc_populate_frame` makes such calls. -/
theorem populate_accounting {frame : Frame} (hframe : frame.Sized) {calls : List FrameCall}
    (hcalls : ∀ c ∈ calls, c.asm.HoldBounded) :
    (∃ outs, trace FrameCall.run calls frame = .ok outs ∧ ∀ out ∈ outs, out.Sized) ∧
    ∀ (junk : Nat → UInt8) (info : DeviceInfo) (format : FrameFormat) (asm : Assembly)
      (frame : Frame) (d : FormatDesc × FrameDesc),
      findFrameDesc info asm.curCtrl.bFormatIndex.toUInt16 asm.curCtrl.bFrameIndex.toUInt16 =
        some d →
      populateFrame junk info format asm frame =
        FrameCall.run ⟨junk, format, d.2.wWidth.toUInt32, d.2.wHeight.toUInt32,
          lineStep format d.2.wWidth.toUInt32, asm⟩ frame := by
  constructor
  · refine trace_ok (fun c hc s hs => ?_) hframe
    obtain ⟨_, _, _, _, hfill, hfit, hmfit, -⟩ :=
      fill_ok c.junk (c.begin s) (hcalls c hc) (c.begin_sized hs)
    exact ⟨_, hfill, hfit, hmfit⟩
  · intro junk info format asm frame d hdesc
    exact populateFrame_eq junk format frame hdesc

/-- Hold buffers with these bytes in them. -/
def holding (data metadata : List UInt8) : Assembly where
  isIsight := false
  curCtrl := {}
  holdBytes := data.length
  outbuf := []
  holdbuf := data
  metaHoldBytes := metadata.length
  metaOutbuf := []
  metaHoldbuf := metadata

theorem holding_bounded (data metadata : List UInt8) : (holding data metadata).HoldBounded :=
  ⟨le_refl _, le_refl _⟩

/-- A long frame, a short one, and one in between, into an image of 2 by 1 pixels. -/
theorem populate_accounting_shrinks :
    ∃ outs, trace FrameCall.run
        ([holding [1, 2, 3, 4, 5] [6], holding [7] [], holding [8, 9] [10, 11]].map
          (⟨fun _ => 0, .yuyv, 2, 1, 4, ·⟩)) {} = .ok outs ∧ ∀ out ∈ outs, out.Sized := by
  refine (populate_accounting ⟨le_refl _, le_refl _⟩ fun c hc => ?_).1
  obtain ⟨asm, hasm, rfl⟩ := List.mem_map.1 hc
  simp only [List.mem_cons, List.not_mem_nil, or_false] at hasm
  rcases hasm with rfl | rfl | rfl
  · exact holding_bounded _ _
  · exact holding_bounded _ _
  · exact holding_bounded _ _

/-! ## The calls of a stream -/

/-- A call of `_uvc_populate_frame`: the bytes of the heap that it may come across, and the format
and the buffers of the handle.  All of these can change, the format when the stream is started
again. -/
structure Populate where
  junk : Nat → UInt8
  format : FrameFormat
  asm : Assembly

/-- The descriptor that the call looks up. -/
def Populate.desc (info : DeviceInfo) (c : Populate) : Option (FormatDesc × FrameDesc) :=
  findFrameDesc info c.asm.curCtrl.bFormatIndex.toUInt16 c.asm.curCtrl.bFrameIndex.toUInt16

/-- The calls, one after another. -/
def populateAll (info : DeviceInfo) (calls : List Populate) (frame : Frame) :
    Checked (List Frame) :=
  trace (fun c => populateFrame c.junk info c.format c.asm) calls frame

/-- The hold buffers are as large as they say, and the descriptor is found. -/
structure Populate.Ready (info : DeviceInfo) (c : Populate) : Prop where
  bounded : c.asm.HoldBounded
  found : (c.desc info).isSome

/-! ## Metadata -/

/-- What the record shows of its metadata: the size and the bytes. -/
def Frame.metadataShown (frame : Frame) : Nat × List UInt8 :=
  (frame.metadataBytes, frame.shownMetadata)

/-- The metadata that comes with a frame. -/
def Populate.metadata (c : Populate) : List UInt8 := c.asm.metaHoldbuf.take c.asm.metaHoldBytes

/-- The size and the bytes of it. -/
def Populate.metadataHeld (c : Populate) : Nat × List UInt8 := (c.asm.metaHoldBytes, c.metadata)

/-- Some bytes and how many they are. -/
def sizedBytes (bytes : List UInt8) : Nat × List UInt8 := (bytes.length, bytes)

theorem sizedBytes_injective : Function.Injective sizedBytes :=
  fun _ _ h => congrArg Prod.snd h

theorem Frame.Sized.metadataShown {frame : Frame} (hframe : frame.Sized) :
    frame.metadataShown = sizedBytes frame.shownMetadata := by
  rw [Frame.metadataShown, sizedBytes, Frame.shownMetadata, List.length_take,
    Nat.min_eq_left hframe.metadata]

theorem Populate.Ready.metadataHeld {info : DeviceInfo} {c : Populate} (hc : c.Ready info) :
    c.metadataHeld = sizedBytes c.metadata := by
  rw [Populate.metadataHeld, sizedBytes, Populate.metadata, List.length_take,
    Nat.min_eq_left hc.bounded.metaHold]

/-- The metadata of a sequence of frames: a frame without any leaves what is there. -/
theorem populateAll_metadata {info : DeviceInfo} {frame : Frame} (hframe : frame.Sized)
    {calls : List Populate} (hcalls : ∀ c ∈ calls, c.Ready info) :
    ∃ outs, populateAll info calls frame = .ok outs ∧
      outs.map Frame.metadataShown =
        (rounds overwrite frame.shownMetadata (calls.map Populate.metadata)).map sizedBytes := by
  have hstep : ∀ c ∈ calls, ∀ s : Frame, s.Sized →
      ∃ out, populateFrame c.junk info c.format c.asm s = .ok out ∧ out.Sized ∧
        out.shownMetadata = overwrite s.shownMetadata c.metadata := by
    intro c hc s hs
    obtain ⟨hbounded, hfound⟩ := hcalls c hc
    obtain ⟨d, hdesc⟩ := Option.isSome_iff_exists.1 hfound
    obtain ⟨out, hout, hsized, -, -, -, -, -, -, -, -, -, hmeta⟩ :=
      populateFrame_ok c.junk c.format hbounded hs hdesc
    refine ⟨out, hout, hsized, hmeta.trans ?_⟩
    have hempty : c.metadata = [] ↔ ¬ 0 < c.asm.metaHoldBytes := by
      have hheld := hbounded.metaHold
      rw [← List.length_eq_zero_iff, Populate.metadata, List.length_take]
      omega
    rw [overwrite]
    by_cases hheld : 0 < c.asm.metaHoldBytes
    · rw [if_pos hheld, if_neg (fun h => hempty.1 h hheld)]
      rfl
    · rw [if_neg hheld, if_pos (hempty.2 hheld)]
  obtain ⟨outs, houts, hsized, hshown⟩ := trace_view Frame.shownMetadata
    (fun before (c : Populate) => overwrite before c.metadata) hstep hframe
  refine ⟨outs, houts, ?_⟩
  rw [rounds_map, ← hshown, List.map_map]
  exact List.map_congr_left fun out hout => (hsized out hout).metadataShown

/-! ## Padding -/

/-- What the record shows of its image: the size and the bytes. -/
def Frame.shown (frame : Frame) : Nat × List UInt8 := (frame.dataBytes, frame.image)

/-- The bytes received, with zeros behind them up to `size`. -/
def filled (size : Nat) (asm : Assembly) : Nat × List UInt8 :=
  (size, asm.holdbuf.take asm.holdBytes ++ List.replicate (size - asm.holdBytes) 0)

theorem filled_inj {m n : Nat} {asm : Assembly} : filled m asm = filled n asm ↔ m = n :=
  ⟨fun h => congrArg Prod.fst h, fun h => by rw [h]⟩

/-- The bytes of a whole image at two bytes a pixel. -/
def Populate.wholeBytes (info : DeviceInfo) (c : Populate) : Nat :=
  match c.desc info with
  | some (_, desc) => desc.wWidth.toNat * desc.wHeight.toNat * 2
  | none => 0

/-- The bytes that `_uvc_populate_frame` takes a whole image to have. -/
def Populate.stepBytes (info : DeviceInfo) (c : Populate) : Nat :=
  match c.desc info with
  | some (_, desc) => desc.wHeight.toUInt32.toNat * lineStep c.format desc.wWidth.toUInt32
  | none => 0

/-- The image that a frame should come with: filled up to a whole one. -/
def Populate.padded (info : DeviceInfo) (c : Populate) : Nat × List UInt8 :=
  filled (max c.asm.holdBytes (c.wholeBytes info)) c.asm

/-- The image that it does come with, after another one. -/
def Populate.showNext (info : DeviceInfo) (before : Nat × List UInt8) (c : Populate) :
    Nat × List UInt8 :=
  filled (if before.1 < c.stepBytes info then max c.asm.holdBytes (c.stepBytes info)
    else c.asm.holdBytes) c.asm

/-- Two bytes a pixel do not wrap: the width has 16 bits. -/
theorem stepBytes_yuyv (info : DeviceInfo) {c : Populate} (h : c.format = .yuyv) :
    c.stepBytes info = c.wholeBytes info := by
  rw [Populate.stepBytes, Populate.wholeBytes, h]
  split
  · rename_i desc _
    have hstep : lineStep .yuyv desc.wWidth.toUInt32 = desc.wWidth.toNat * 2 := by
      have hlt := desc.wWidth.toNat_lt
      rw [lineStep, UInt32.toNat_mul, UInt16.toNat_toUInt32]
      exact Nat.mod_eq_of_lt (show desc.wWidth.toNat * 2 < 2 ^ 32 by omega)
    rw [hstep, UInt16.toNat_toUInt32, ← Nat.mul_assoc, Nat.mul_comm desc.wHeight.toNat]
  · rfl

/-- UYVY is one of the formats without a line step. -/
theorem stepBytes_uyvy (info : DeviceInfo) {c : Populate} (h : c.format = .uyvy) :
    c.stepBytes info = 0 := by
  rw [Populate.stepBytes, h]
  split
  · exact Nat.mul_zero _
  · rfl

/-- The image is a whole one as it is, or a YUYV image that the buffer has to grow for. -/
def Populate.Fills (info : DeviceInfo) (dataBytes : Nat) (c : Populate) : Prop :=
  c.wholeBytes info ≤ c.asm.holdBytes ∨ c.format = .yuyv ∧ dataBytes < c.wholeBytes info

instance (info : DeviceInfo) (dataBytes : Nat) (c : Populate) :
    Decidable (c.Fills info dataBytes) :=
  inferInstanceAs (Decidable (_ ∨ _))

/-- Each image is, from a record that shows `dataBytes` bytes on.  A YUYV image after another of the
same size does not make the buffer grow. -/
def FillAll (info : DeviceInfo) : Nat → List Populate → Prop
  | _, [] => True
  | dataBytes, c :: rest =>
    c.Fills info dataBytes ∧ FillAll info (max c.asm.holdBytes (c.wholeBytes info)) rest

theorem showNext_eq_padded {info : DeviceInfo} {before : Nat × List UInt8} {c : Populate}
    (hformat : c.format = .yuyv ∨ c.format = .uyvy) :
    c.showNext info before = c.padded info ↔ c.Fills info before.1 := by
  rw [Populate.showNext, Populate.padded, filled_inj, Populate.Fills]
  rcases hformat with h | h
  · rw [stepBytes_yuyv info h]
    split
    · rename_i hlt
      exact iff_of_true rfl (Or.inr ⟨h, hlt⟩)
    · rename_i hlt
      rw [or_iff_left (fun hr => hlt hr.2)]
      omega
  · have hne : c.format ≠ .yuyv := by rw [h]; decide
    rw [stepBytes_uyvy info h, if_neg (Nat.not_lt_zero _), or_iff_left (fun hr => hne hr.1)]
    omega

theorem rounds_showNext_iff {info : DeviceInfo} {before : Nat × List UInt8}
    {calls : List Populate} (hformats : ∀ c ∈ calls, c.format = .yuyv ∨ c.format = .uyvy) :
    rounds (fun before c => c.showNext info before) before calls =
        calls.map (Populate.padded info) ↔ FillAll info before.1 calls := by
  induction calls generalizing before with
  | nil => exact iff_of_true rfl trivial
  | cons c rest ih =>
    obtain ⟨hformat, hrest⟩ := List.forall_mem_cons.1 hformats
    rw [rounds, List.map_cons, List.cons.injEq, showNext_eq_padded hformat, FillAll]
    refine and_congr_right fun hfills => ?_
    rw [ih hrest, (showNext_eq_padded hformat).2 hfills]
    rfl

/-- The images of a sequence of frames, as a function of the bytes received. -/
theorem populateAll_shown {info : DeviceInfo} {frame : Frame} (hframe : frame.Sized)
    {calls : List Populate} (hcalls : ∀ c ∈ calls, c.Ready info) :
    ∃ outs, populateAll info calls frame = .ok outs ∧
      outs.map Frame.shown = rounds (fun before c => c.showNext info before) frame.shown calls := by
  have hstep : ∀ c ∈ calls, ∀ s : Frame, s.Sized →
      ∃ out, populateFrame c.junk info c.format c.asm s = .ok out ∧ out.Sized ∧
        out.shown = c.showNext info s.shown := by
    intro c hc s hs
    obtain ⟨hbounded, hfound⟩ := hcalls c hc
    obtain ⟨d, hdesc⟩ := Option.isSome_iff_exists.1 hfound
    obtain ⟨out, hout, hsized, -, -, hheight, hstep, -, -, hbytes, himage, -⟩ :=
      populateFrame_ok c.junk c.format hbounded hs hdesc
    refine ⟨out, hout, hsized, ?_⟩
    rw [Frame.imageBytes, hheight, hstep] at hbytes
    rw [Frame.shown, himage, hbytes, Populate.showNext, Populate.stepBytes, hdesc]
    rfl
  obtain ⟨outs, houts, -, hshown⟩ := trace_view Frame.shown
    (fun before (c : Populate) => c.showNext info before) hstep hframe
  exact ⟨outs, houts, hshown⟩

/-- **When frames are padded whatever came before.**  For a stream of YUYV or UYVY frames, each
frame is handed out with its own bytes and zeros up to a whole image, if and only if each is a whole
image already or, for YUYV, larger as a whole image than all that the frame before showed. -/
theorem padded_iff {info : DeviceInfo} {frame : Frame} (hframe : frame.Sized)
    {calls : List Populate} (hcalls : ∀ c ∈ calls, c.Ready info)
    (hformats : ∀ c ∈ calls, c.format = .yuyv ∨ c.format = .uyvy) :
    ∃ outs, populateAll info calls frame = .ok outs ∧
      (outs.map Frame.shown = calls.map (Populate.padded info) ↔
        FillAll info frame.dataBytes calls) := by
  obtain ⟨outs, houts, hshown⟩ := populateAll_shown hframe hcalls
  refine ⟨outs, houts, ?_⟩
  rw [hshown]
  exact rounds_showNext_iff hformats

/-- A frame of `pixelDevice`, whose images have two bytes. -/
def pixelCall (format : FrameFormat) (data metadata : List UInt8) : Populate where
  junk _ := 0xff
  format := format
  asm := holding data metadata

theorem pixelCall_ready (format : FrameFormat) (data metadata : List UInt8) :
    (pixelCall format data metadata).Ready pixelDevice :=
  ⟨holding_bounded data metadata, rfl⟩

/-- A short frame, and then two whole ones. -/
theorem padded_first :
    ∃ outs, populateAll pixelDevice
        [pixelCall .yuyv [7] [], pixelCall .yuyv [8, 9] [], pixelCall .uyvy [1, 2] []] {} =
          .ok outs ∧
      outs.map Frame.shown = [(2, [7, 0]), (2, [8, 9]), (2, [1, 2])] := by
  have hready : ∀ c ∈ [pixelCall .yuyv [7] [], pixelCall .yuyv [8, 9] [],
      pixelCall .uyvy [1, 2] []], c.Ready pixelDevice :=
    List.forall_mem_cons.2 ⟨pixelCall_ready .yuyv [7] [],
      List.forall_mem_cons.2 ⟨pixelCall_ready .yuyv [8, 9] [],
        List.forall_mem_singleton.2 (pixelCall_ready .uyvy [1, 2] [])⟩⟩
  have hempty : Frame.Sized {} := ⟨le_refl _, le_refl _⟩
  obtain ⟨outs, houts, hiff⟩ := padded_iff hempty hready (by simp [pixelCall])
  exact ⟨outs, houts, hiff.2 ⟨by decide, by decide, by decide, trivial⟩⟩

/-- A whole frame and then a short one: the second is handed out with a single byte.  A short UYVY
frame is, even as the first. -/
theorem padded_not_short :
    (∃ outs, populateAll pixelDevice [pixelCall .yuyv [1, 2] [], pixelCall .yuyv [7] []] {} =
        .ok outs ∧ outs.map Frame.shown = [(2, [1, 2]), (1, [7])] ∧
      [pixelCall .yuyv [1, 2] [], pixelCall .yuyv [7] []].map (Populate.padded pixelDevice) =
        [(2, [1, 2]), (2, [7, 0])]) ∧
    ∃ outs, populateAll pixelDevice [pixelCall .uyvy [7] []] {} = .ok outs ∧
      outs.map Frame.shown = [(1, [7])] ∧
      [pixelCall .uyvy [7] []].map (Populate.padded pixelDevice) = [(2, [7, 0])] :=
  ⟨⟨_, rfl, rfl, rfl⟩, ⟨_, rfl, rfl, rfl⟩⟩

end Stream
end LibUvc
