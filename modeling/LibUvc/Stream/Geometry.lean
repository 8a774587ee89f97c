import LibUvc.Stream.Negotiation
import LibUvc.Stream.Playback

/-!
# Which descriptor a frame is labelled with

A stream belongs to one streaming interface, and `uvc_stream_start` resolves its format and frame
there.  The frames it delivers are labelled by `_uvc_populate_frame`, and the sizes of its control
block are fixed up by `uvc_query_stream_ctrl`, both with a lookup over the whole device.  The two
lookups are the same on a device with one streaming interface.  On others an interface in front can
answer in place of the stream's own:

* `labelled_iff`: the geometry on the delivered frames is that of the stream's own descriptor if and
  only if the first interface in front with a frame under the same pair of indices, if there is one,
  has one of the same size;
* `fixedUp_iff`: a size that is filled in comes from the interface that the block names if and only
  if the same can be said of the field it is filled in from, and no other interface answers for one
  that does not have the frame at all.
-/

set_option autoImplicit false

namespace LibUvc
namespace Stream

open Checked Transition Descriptor

/-! ## Delivered frames -/

/-- The lookup at the beginning of `uvc_stream_start`: the pixel format and the frame descriptor. -/
def resolveFrame (own : StreamingInterface) (ctrl : StreamCtrl) :
    Except Ret (FrameFormat × FrameDesc) :=
  match findFrameDescStreamIf own ctrl.bFormatIndex.toUInt16 ctrl.bFrameIndex.toUInt16 with
  | none => .error Ret.errorInvalidParam
  | some (formatDesc, frameDesc) =>
    if frameFormatForGuid formatDesc.guidFormat = .unknown then .error Ret.errorNotSupported
    else .ok (frameFormatForGuid formatDesc.guidFormat, frameDesc)

/-- The frame is labelled with the geometry of the descriptor. -/
structure Frame.Labelled (frame : Frame) (format : FrameFormat) (desc : FrameDesc) : Prop where
  width : frame.width = desc.wWidth.toUInt32
  height : frame.height = desc.wHeight.toUInt32
  step : frame.step = lineStep format desc.wWidth.toUInt32

/-- Of the streaming interfaces in front of the one that the block names, the first that has a frame
under the indices of the block has one of the same size, if there is such an interface. -/
def SameSizeAhead (info : DeviceInfo) (ctrl : StreamCtrl) (desc : FrameDesc) : Prop :=
  ∀ e, findAhead info ctrl.bInterfaceNumber ctrl.bFormatIndex.toUInt16
      ctrl.bFrameIndex.toUInt16 = some e →
    e.2.wWidth = desc.wWidth ∧ e.2.wHeight = desc.wHeight

/-- The buffers of the stream and of its record are as large as they say. -/
structure Playback.InBounds (p : Playback) : Prop where
  pipe : p.pipe.InBounds
  frame : p.frame.Sized

theorem exists_of_resolveFrame {own : StreamingInterface} {ctrl : StreamCtrl}
    {format : FrameFormat} {desc : FrameDesc} (h : resolveFrame own ctrl = .ok (format, desc)) :
    ∃ formatDesc, findFrameDescStreamIf own ctrl.bFormatIndex.toUInt16
      ctrl.bFrameIndex.toUInt16 = some (formatDesc, desc) := by
  rw [resolveFrame] at h
  split at h
  · exact absurd h (by simp)
  · rename_i formatDesc frameDesc hfind
    split at h
    · exact absurd h (by simp)
    · obtain ⟨-, rfl⟩ := Prod.mk.inj (Except.ok.inj h)
      exact ⟨formatDesc, hfind⟩

section Run

variable {junk : Nat → UInt8} {info : DeviceInfo} {format : FrameFormat}

/-- **One step.**  The stream stays in bounds and keeps its control block, and what it hands out is
labelled by the lookup over the whole device. -/
theorem playback_step_labelled {p q : Playback} {a : PipelineAction} (h : p.InBounds)
    {d : FormatDesc × FrameDesc}
    (hd : findFrameDesc info p.pipe.asm.curCtrl.bFormatIndex.toUInt16
      p.pipe.asm.curCtrl.bFrameIndex.toUInt16 = some d)
    (hhanded : ∀ H ∈ p.handed, H.frame.Labelled format d.2)
    (hs : p.step junk info format a = some q) :
    q.InBounds ∧ q.pipe.asm.curCtrl = p.pipe.asm.curCtrl ∧
      ∀ H ∈ q.handed, H.frame.Labelled format d.2 := by
  obtain ⟨hpipe, hcases⟩ := playback_step_cases hs
  obtain ⟨hb, hctrl⟩ := step_inBounds h.pipe hpipe
  rcases hcases with ⟨-, hframe, hsame⟩ | ⟨-, hframe, hnew⟩
  · exact ⟨⟨hb, hframe ▸ h.frame⟩, hctrl, hsame ▸ hhanded⟩
  · obtain ⟨out, hout, hsized, -, hwidth, hheight, hstep, -⟩ :=
      populateFrame_ok junk format h.pipe.held h.frame hd
    obtain rfl := Except.ok.inj (hout.symm.trans hframe)
    refine ⟨⟨hb, hsized⟩, hctrl, fun H hH => ?_⟩
    rw [hnew] at hH
    rcases List.mem_append.1 hH with hH | hH
    · exact hhanded H hH
    · obtain rfl := List.mem_singleton.1 hH
      exact ⟨hwidth, hheight, hstep⟩

/-- **Every run.** -/
theorem playback_labelled {p t : Playback} (h : p.InBounds) (hnew : p.handed = [])
    {d : FormatDesc × FrameDesc}
    (hd : findFrameDesc info p.pipe.asm.curCtrl.bFormatIndex.toUInt16
      p.pipe.asm.curCtrl.bFrameIndex.toUInt16 = some d)
    (ht : Reachable (Playback.step junk info format) p t) :
    ∀ H ∈ t.handed, H.frame.Labelled format d.2 := by
  refine (Reachable.invariant (I := fun t => t.InBounds ∧
    t.pipe.asm.curCtrl = p.pipe.asm.curCtrl ∧ ∀ H ∈ t.handed, H.frame.Labelled format d.2)
    ht ⟨h, rfl, by simp [hnew]⟩ ?_).2.2
  rintro u a w ⟨hu, hctrl, hhanded⟩ hstep
  obtain ⟨hw, hctrl', hhanded'⟩ := playback_step_labelled hu (hctrl.symm ▸ hd) hhanded hstep
  exact ⟨hw, hctrl'.trans hctrl, hhanded'⟩

end Run

theorem toUInt32_inj {a b : UInt16} : a.toUInt32 = b.toUInt32 ↔ a = b := by
  rw [← UInt32.toNat_inj, ← UInt16.toNat_inj, UInt16.toNat_toUInt32, UInt16.toNat_toUInt32]

/-- Two descriptors label a frame the same if and only if they have the same size. -/
theorem labelled_iff_same_size {frame : Frame} {format : FrameFormat} {e desc : FrameDesc}
    (h : frame.Labelled format e) :
    frame.Labelled format desc ↔ e.wWidth = desc.wWidth ∧ e.wHeight = desc.wHeight := by
  constructor
  · intro h'
    exact ⟨toUInt32_inj.1 (h.width.symm.trans h'.width),
      toUInt32_inj.1 (h.height.symm.trans h'.height)⟩
  · rintro ⟨hwidth, hheight⟩
    exact ⟨hwidth ▸ h.width, hheight ▸ h.height, hwidth ▸ h.step⟩

/-- The frames of a stream are labelled with its own descriptor exactly when the first interface in
front that has a frame under the same indices, if any, has one of the same size. -/
theorem labelled_iff {junk : Nat → UInt8} {info : DeviceInfo} {own : StreamingInterface}
    {format : FrameFormat} {desc : FrameDesc} {p t : Playback}
    (hown : getStreamIf info p.pipe.asm.curCtrl.bInterfaceNumber = some own)
    (hstart : resolveFrame own p.pipe.asm.curCtrl = .ok (format, desc)) (hb : p.InBounds)
    (hnew : p.handed = []) (ht : Reachable (Playback.step junk info format) p t)
    {H : HandedFrame} (hH : H ∈ t.handed) :
    H.frame.Labelled format desc ↔ SameSizeAhead info p.pipe.asm.curCtrl desc := by
  obtain ⟨formatDesc, hfind⟩ := exists_of_resolveFrame hstart
  have hlabel := playback_labelled hb hnew (findFrameDesc_eq hown hfind) ht H hH
  rw [labelled_iff_same_size hlabel, SameSizeAhead]
  cases findAhead info p.pipe.asm.curCtrl.bInterfaceNumber
      p.pipe.asm.curCtrl.bFormatIndex.toUInt16 p.pipe.asm.curCtrl.bFrameIndex.toUInt16 with
  | none => simp
  | some e => simp

/-! ## Fix-ups -/

/-- The frame descriptor that the interface named by the block has under the indices in it. -/
def ownFrame (info : DeviceInfo) (ctrl : StreamCtrl) : Option FrameDesc :=
  ((getStreamIf info ctrl.bInterfaceNumber).bind fun own =>
    findFrameDescStreamIf own ctrl.bFormatIndex.toUInt16 ctrl.bFrameIndex.toUInt16).map (·.2)

/-- A field that is filled in has the value of the descriptor of the interface that the block
names. -/
def FromOwn (info : DeviceInfo) (ctrl : StreamCtrl) (field : FrameDesc → UInt32)
    (value : UInt32) : Prop :=
  (blockFrame info ctrl).isSome → ∃ g, ownFrame info ctrl = some g ∧ value = field g

/-- Of the interfaces in front of the one that the block names, the first that has a frame under the
same indices, if there is one, has the same value of the field; and if the one that the block names
has no such frame, then no interface has. -/
def BackedByOwn (info : DeviceInfo) (ctrl : StreamCtrl) (field : FrameDesc → UInt32) : Prop :=
  match ownFrame info ctrl with
  | some g => ∀ e, findAhead info ctrl.bInterfaceNumber ctrl.bFormatIndex.toUInt16
      ctrl.bFrameIndex.toUInt16 = some e → field e.2 = field g
  | none => ∀ streamIf ∈ info.streamIfs, findFrameDescStreamIf streamIf
      ctrl.bFormatIndex.toUInt16 ctrl.bFrameIndex.toUInt16 = none

theorem fromOwn_iff (info : DeviceInfo) (ctrl : StreamCtrl) (field : FrameDesc → UInt32)
    (value : UInt32) :
    FromOwn info ctrl field (((blockFrame info ctrl).map field).getD value) ↔
      BackedByOwn info ctrl field := by
  rw [FromOwn, BackedByOwn]
  cases hown : ownFrame info ctrl with
  | some g =>
    obtain ⟨d, hd, rfl⟩ := Option.map_eq_some_iff.1 hown
    obtain ⟨own, hif, hfind⟩ := Option.bind_eq_some_iff.1 hd
    rw [blockFrame, findFrameDesc_eq hif hfind]
    cases findAhead info ctrl.bInterfaceNumber ctrl.bFormatIndex.toUInt16
        ctrl.bFrameIndex.toUInt16 with
    | none => simp
    | some e => simp
  | none =>
    simp [blockFrame, findFrameDesc]

section Query

variable (usb : ControlRequest → Transfer) (info : DeviceInfo) (ctrl : StreamCtrl) (probe : Bool)
  (req : ReqCode)

/-- The block that a GET request brings in, before it is fixed up. -/
def replyBlock : StreamCtrl :=
  decodeStreamCtrl (blockLen info) (received (usb (streamCtrlRequest info ctrl probe req))) ctrl

/-- The sizes that `uvc_query_stream_ctrl` fills in come from the interface that the block names. -/
structure FixedUpFromOwn : Prop where
  frameSize : (replyBlock usb info ctrl probe req).dwMaxVideoFrameSize = 0 →
    FromOwn info (replyBlock usb info ctrl probe req) (·.dwMaxVideoFrameBufferSize)
      (queryStreamCtrl usb info ctrl probe req).2.dwMaxVideoFrameSize
  payloadSize : (replyBlock usb info ctrl probe req).dwMaxPayloadTransferSize = 0 →
    FromOwn info (replyBlock usb info ctrl probe req) (·.dwMaxBitRate)
      (queryStreamCtrl usb info ctrl probe req).2.dwMaxPayloadTransferSize

/-- The condition for that, on the descriptors and the indices of the reply. -/
def RepliesBacked : Prop :=
  ((replyBlock usb info ctrl probe req).dwMaxVideoFrameSize = 0 →
    BackedByOwn info (replyBlock usb info ctrl probe req) (·.dwMaxVideoFrameBufferSize)) ∧
  ((replyBlock usb info ctrl probe req).dwMaxPayloadTransferSize = 0 →
    BackedByOwn info (replyBlock usb info ctrl probe req) (·.dwMaxBitRate))

variable {usb info ctrl probe req}

theorem fixedUp_iff (hreq : req ≠ .setCur)
    (hpos : 0 < (usb (streamCtrlRequest info ctrl probe req)).ret) :
    FixedUpFromOwn usb info ctrl probe req ↔ RepliesBacked usb info ctrl probe req := by
  have hquery : (queryStreamCtrl usb info ctrl probe req).2 =
      fixUp info (replyBlock usb info ctrl probe req) := by
    rw [queryStreamCtrl_get hreq rfl hpos]
    rfl
  have hframe : (replyBlock usb info ctrl probe req).dwMaxVideoFrameSize = 0 →
      (FromOwn info (replyBlock usb info ctrl probe req) (·.dwMaxVideoFrameBufferSize)
        (fixUp info (replyBlock usb info ctrl probe req)).dwMaxVideoFrameSize ↔
      BackedByOwn info (replyBlock usb info ctrl probe req) (·.dwMaxVideoFrameBufferSize)) := by
    intro hzero
    rw [fixUp, fixedFrameSize, if_pos hzero, fromOwn_iff]
  have hpayload : (replyBlock usb info ctrl probe req).dwMaxPayloadTransferSize = 0 →
      (FromOwn info (replyBlock usb info ctrl probe req) (·.dwMaxBitRate)
        (fixUp info (replyBlock usb info ctrl probe req)).dwMaxPayloadTransferSize ↔
      BackedByOwn info (replyBlock usb info ctrl probe req) (·.dwMaxBitRate)) := by
    intro hzero
    rw [fixUp, fixedPayloadSize, if_pos hzero, fromOwn_iff]
  constructor
  · rintro ⟨h1, h2⟩
    rw [hquery] at h1 h2
    exact ⟨fun hzero => (hframe hzero).1 (h1 hzero), fun hzero => (hpayload hzero).1 (h2 hzero)⟩
  · rintro ⟨h1, h2⟩
    refine ⟨fun hzero => ?_, fun hzero => ?_⟩
    · rw [hquery]
      exact (hframe hzero).2 (h1 hzero)
    · rw [hquery]
      exact (hpayload hzero).2 (h2 hzero)

end Query

/-! ## Both lookups -/

/-- **When the lookups agree.**  In every run of a stream that `uvc_stream_start` has resolved to a
frame descriptor of its own interface, the frames handed out are labelled with that descriptor if
and only if the first interface in front with a frame under the same indices, if there is one, has
one of the same size.  And whenever a GET request brings a block in, the sizes that are filled in
come from the interface that the block names if and only if the first interface in front with a
frame under the indices of the reply has the same values, and no interface has such a frame if the
named one has none. -/
theorem lookups_agree_iff (junk : Nat → UInt8) (info : DeviceInfo) (own : StreamingInterface)
    (format : FrameFormat) (desc : FrameDesc) (p t : Playback)
    (hown : getStreamIf info p.pipe.asm.curCtrl.bInterfaceNumber = some own)
    (hstart : resolveFrame own p.pipe.asm.curCtrl = .ok (format, desc)) (hb : p.InBounds)
    (hnew : p.handed = []) (ht : Reachable (Playback.step junk info format) p t) :
    (∀ H ∈ t.handed,
      (H.frame.Labelled format desc ↔ SameSizeAhead info p.pipe.asm.curCtrl desc)) ∧
    ∀ usb ctrl probe req, req ≠ ReqCode.setCur →
      0 < (usb (streamCtrlRequest info ctrl probe req)).ret →
      (FixedUpFromOwn usb info ctrl probe req ↔ RepliesBacked usb info ctrl probe req) :=
  ⟨fun _ hH => labelled_iff hown hstart hb hnew ht hH,
    fun _ _ _ _ hreq hpos => fixedUp_iff hreq hpos⟩

/-- Two streaming interfaces with one frame each, under the same pair of indices. -/
def twinDevice : DeviceInfo where
  streamIfs := [
    { bInterfaceNumber := 1
      formatDescs := [{
        bDescriptorSubtype := .formatUncompressed
        bFormatIndex := 1
        guidFormat := formatGuid .yuyv
        frameDescs := [{
          bDescriptorSubtype := .frameUncompressed
          bFrameIndex := 1
          wWidth := 1920
          wHeight := 1080
          dwMaxVideoFrameBufferSize := 4147200 }] }] },
    { bInterfaceNumber := 2
      formatDescs := [{
        bDescriptorSubtype := .formatMjpeg
        bFormatIndex := 1
        guidFormat := formatGuid .mjpeg
        frameDescs := [{
          bDescriptorSubtype := .frameMjpeg
          bFrameIndex := 1
          wWidth := 640
          wHeight := 480
          dwMaxVideoFrameBufferSize := 614400 }] }] }]

/-- A stream of the second interface, with room for one byte. -/
def Playback.twin : Playback :=
  .start (started false
    { bInterfaceNumber := 2, bFormatIndex := 1, bFrameIndex := 1, dwMaxVideoFrameSize := 1 } [0] [0]
    (List.replicate xferMetaBufSize 0) (List.replicate xferMetaBufSize 0)) false

theorem twin_inBounds : Playback.twin.InBounds :=
  ⟨⟨started_bounded rfl rfl (List.length_replicate ..) (List.length_replicate ..),
    ⟨Nat.zero_le _, Nat.zero_le _⟩, fun _ _ _ _ he => absurd he (by simp [Playback.twin,
      Playback.start, Pipeline.start])⟩, ⟨Nat.le_refl _, Nat.le_refl _⟩⟩

/-- The two interfaces behind a third, which has a frame of the second one's size under the same
indices. -/
def tripletDevice : DeviceInfo where
  streamIfs :=
    { bInterfaceNumber := 3
      formatDescs := [{
        bDescriptorSubtype := .formatUncompressed
        bFormatIndex := 1
        guidFormat := formatGuid .yuyv
        frameDescs := [{
          bDescriptorSubtype := .frameUncompressed
          bFrameIndex := 1
          wWidth := 640
          wHeight := 480
          dwMaxVideoFrameBufferSize := 614400 }] }] } :: twinDevice.streamIfs

/-- Behind the third interface all is well with the second, although the first has a frame of
another size in front of it. -/
theorem lookups_agree_third :
    (∃ t, Reachable (Playback.step (fun _ => 0) tripletDevice .mjpeg) Playback.twin t ∧
      ∃ H ∈ t.handed, H.frame.Labelled .mjpeg
        { bDescriptorSubtype := .frameMjpeg, bFrameIndex := 1, wWidth := 640, wHeight := 480,
          dwMaxVideoFrameBufferSize := 614400 }) ∧
    FixedUpFromOwn (fun r => ⟨r.length, [0, 0, 1, 1]⟩) tripletDevice { bInterfaceNumber := 2 } true
      .getCur := by
  have hrun : Reachable (Playback.step (fun _ => 0) tripletDevice .mjpeg) Playback.twin _ :=
    reachable_of_exec [.payload [2, 0x82, 7], .body, .getFrame (-1)] rfl
  obtain ⟨hframes, hsizes⟩ := lookups_agree_iff _ tripletDevice _ _ _ _ _ rfl rfl twin_inBounds rfl
    hrun
  refine ⟨⟨_, hrun, _, List.mem_singleton_self _, (hframes _ (List.mem_singleton_self _)).2 ?_⟩,
    (hsizes _ _ _ _ (by decide) (by decide)).2 ⟨fun _ => ?_, fun _ => ?_⟩⟩
  · rintro e he
    obtain rfl := Option.some.inj he
    exact ⟨rfl, rfl⟩
  · rintro e he
    obtain rfl := Option.some.inj he
    rfl
  · rintro e he
    obtain rfl := Option.some.inj he
    rfl

/-- With both interfaces the stream of the second delivers frames that are labelled with the size of
the first, and a size that is filled in for the second comes from the first. -/
theorem twin_mislabelled :
    (∃ own, getStreamIf twinDevice 2 = some own ∧
      ∃ desc, resolveFrame own Playback.twin.pipe.asm.curCtrl = .ok (.mjpeg, desc) ∧
        (desc.wWidth, desc.wHeight) = (640, 480) ∧
        ∃ t, Reachable (Playback.step (fun _ => 0) twinDevice .mjpeg) Playback.twin t ∧
          ∃ H ∈ t.handed, (H.frame.width, H.frame.height) = (1920, 1080) ∧
            ¬ H.frame.Labelled .mjpeg desc) ∧
    ¬ FixedUpFromOwn (fun r => ⟨r.length, [0, 0, 1, 1]⟩) twinDevice { bInterfaceNumber := 2 } true
      .getCur := by
  refine ⟨⟨_, rfl, _, rfl, rfl, ?_⟩, fun h => ?_⟩
  · have hrun : Reachable (Playback.step (fun _ => 0) twinDevice .mjpeg) Playback.twin _ :=
      reachable_of_exec [.payload [2, 0x82, 7], .body, .getFrame (-1)] rfl
    exact ⟨_, hrun, _, List.mem_singleton_self _, rfl, fun h => absurd h.width (by decide)⟩
  · obtain ⟨g, hg, hvalue⟩ := h.frameSize (by decide) (by decide)
    obtain rfl := Option.some.inj hg
    exact absurd hvalue (by decide)

end Stream
end LibUvc
