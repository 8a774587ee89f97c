import LibUvc.Stream.Mode

/-!
# Still images, and whom a negotiation talks to

A still image is negotiated as a stream is, with a block of its own that is set, read back and
committed, on an interface that a stream was negotiated for before.  This file has the functions for
it, and follows the address of the control requests through both negotiations.  A request goes to
the interface that the block names, and the search for a mode writes that name into the block while
it asks the device about what it finds.

* `stillCtrl_round_trip`: the 11 bytes on the wire carry the block, all but its interface.
* `streamCtrlCalls` is everything that `uvc_get_stream_ctrl_format_size` does to the device, also
  when it never returns because it divides by zero on the way.
* `negotiation_addresses`: a stream is negotiated only with interfaces that have what is asked for.
  For a still image the interface is written into the block after the maximal values were asked
  for, so the first request goes to whatever interface the caller's block happens to name.
-/

set_option autoImplicit false

namespace LibUvc
namespace Stream

open Checked Descriptor Scan

/-! ## The still control block -/

/-- `struct uvc_still_ctrl`. -/
structure StillCtrl where
  bFormatIndex : UInt8 := 0
  bFrameIndex : UInt8 := 0
  bCompressionIndex : UInt8 := 0
  dwMaxVideoFrameSize : UInt32 := 0
  dwMaxPayloadTransferSize : UInt32 := 0
  bInterfaceNumber : UInt8 := 0
  deriving DecidableEq, Repr

/-- `buf` as `uvc_query_still_ctrl` prepares it for a SET transfer. -/
def encodeStillCtrl (still : StillCtrl) : List UInt8 :=
  [still.bFormatIndex, still.bFrameIndex, still.bCompressionIndex] ++
    intToDw still.dwMaxVideoFrameSize ++ intToDw still.dwMaxPayloadTransferSize

/-- The fields that a GET transfer overwrites with what is in `buf`. -/
def decodeStillCtrl (buf : List UInt8) (still : StillCtrl) : StillCtrl :=
  { still with
    bFormatIndex := byteAt buf 0
    bFrameIndex := byteAt buf 1
    bCompressionIndex := byteAt buf 2
    dwMaxVideoFrameSize := dwAt buf 3
    dwMaxPayloadTransferSize := dwAt buf 7 }

/-- The request that `uvc_query_still_ctrl` makes. -/
def stillCtrlRequest (still : StillCtrl) (probe : Bool) (req : ReqCode) : ControlRequest where
  requestType := if req = .setCur then 0x21 else 0xa1
  request := req
  value := if probe then 0x0300 else 0x0400
  index := still.bInterfaceNumber
  length := 11
  data := if req = .setCur then encodeStillCtrl still else []

/-- `buf` after a GET transfer: the bytes received, the rest still cleared. -/
def receivedStill (t : Transfer) : List UInt8 :=
  (t.data.take t.ret.toNat ++ List.replicate 11 0).take 11

/-- `uvc_query_still_ctrl`, with the block it leaves. -/
def queryStillCtrl (usb : ControlRequest → Transfer) (still : StillCtrl) (probe : Bool)
    (req : ReqCode) : Ret × StillCtrl :=
  let t := usb (stillCtrlRequest still probe req)
  if t.ret ≤ 0 then (t.ret, still)
  else if req = .setCur then (Ret.success, still)
  else (Ret.success, decodeStillCtrl (receivedStill t) still)

/-- **Decoding undoes encoding**: a device that answers with the bytes it was sent gives the block
back, with the interface of the block that it is read into. -/
theorem stillCtrl_round_trip (still into : StillCtrl) :
    decodeStillCtrl (receivedStill ⟨11, encodeStillCtrl still⟩) into =
      { still with bInterfaceNumber := into.bInterfaceNumber } := by
  have h32 := dwToInt_toUInt8
  simp [decodeStillCtrl, receivedStill, encodeStillCtrl, intToDw, dwAt, byteAt, h32]

theorem queryStillCtrl_bInterfaceNumber {usb : ControlRequest → Transfer} {still : StillCtrl}
    {probe : Bool} {req : ReqCode} :
    (queryStillCtrl usb still probe req).2.bInterfaceNumber = still.bInterfaceNumber := by
  rw [queryStillCtrl]
  split
  · rfl
  · split
    · rfl
    · rfl

/-! ## Negotiating a still image -/

/-- The caller's still block, and what was done so far. -/
structure StillCaller where
  still : StillCtrl
  calls : List Call := []
  deriving DecidableEq, Repr

section Model

variable (bus : Bus) (ctrl : StreamCtrl) (width height : Int32)

/-- `uvc_query_still_ctrl`. -/
def StillCaller.query (c : StillCaller) (probe : Bool) (req : ReqCode) : Ret × StillCaller :=
  match queryStillCtrl (bus.control c.calls) c.still probe req with
  | (ret, still) => (ret, ⟨still, c.calls ++ [.control (stillCtrlRequest c.still probe req)]⟩)

/-- `uvc_probe_still_ctrl`. -/
def StillCaller.probe (c : StillCaller) : Ret × StillCaller :=
  match c.query bus true .setCur with
  | (ret, c) =>
    if ret ≠ Ret.success then (ret, c)
    else
      match c.query bus true .getCur with
      | (ret, c) =>
        if ret ≠ Ret.success then (ret, c) else c.query bus false .setCur

/-- The two inner loops: the first image size of a format that is the one that is wanted. -/
def findPattern (format : FormatDesc) : Option StillFrameRes :=
  format.stillFrameDesc.findSome? fun still => still.imageSizePatterns.find? fun sizePattern =>
    (sizePattern.wWidth.toNat : Int) = width.toInt ∧
      (sizePattern.wHeight.toNat : Int) = height.toInt

/-- The block when the search has ended at an image size. -/
def StillCaller.found (c : StillCaller) (format : FormatDesc) (sizePattern : StillFrameRes) :
    StillCaller :=
  { c with still := { c.still with
      bInterfaceNumber := ctrl.bInterfaceNumber
      bFormatIndex := format.bFormatIndex
      bFrameIndex := sizePattern.bResolutionIndex
      bCompressionIndex := 0 } }

/-- The loop over the formats, and whether it went to `found`. -/
def findStill (c : StillCaller) : List FormatDesc → Bool × StillCaller
  | [] => (false, c)
  | format :: formats =>
    if ctrl.bFormatIndex ≠ format.bFormatIndex then findStill c formats
    else
      -- get the max values
      let c := (c.query bus true .getMax).2
      match findPattern width height format with
      | some sizePattern => (true, c.found ctrl format sizePattern)
      | none => findStill c formats

/-- `uvc_get_still_ctrl_format_size`. -/
def getStillCtrlFormatSize (info : DeviceInfo) (c : StillCaller) : Ret × StillCaller :=
  match getStreamIf info ctrl.bInterfaceNumber with
  | none => (Ret.errorNotSupported, c)
  | some streamIf =>
    -- only method 2 is supported
    if streamIf.bStillCaptureMethod ≠ 2 then (Ret.errorNotSupported, c)
    else
      match findStill bus ctrl width height c streamIf.formatDescs with
      | (found, c) => if found then c.probe bus else (Ret.errorInvalidMode, c)

end Model

/-! ## Whom the requests go to -/

/-- Every control request among the calls goes to an interface that `P` allows. -/
def Addressed (P : UInt8 → Prop) (calls : List Call) : Prop :=
  ∀ request, .control request ∈ calls → P request.index

section Addressed

variable {P : UInt8 → Prop} {calls : List Call}

theorem addressed_nil : Addressed P [] := fun _ h => absurd h List.not_mem_nil

@[simp] theorem addressed_control {request : ControlRequest} :
    Addressed P (calls ++ [.control request]) ↔ Addressed P calls ∧ P request.index := by
  simp only [Addressed, List.mem_append, List.mem_singleton, Call.control.injEq]
  constructor
  · exact fun h => ⟨fun r hr => h r (.inl hr), h request (.inr rfl)⟩
  · rintro ⟨h, hP⟩ r (hr | rfl)
    · exact h r hr
    · exact hP

@[simp] theorem addressed_claimIf {idx : UInt8} {ret : Ret} :
    Addressed P (calls ++ [.claimIf idx ret]) ↔ Addressed P calls := by
  simp only [Addressed, List.mem_append, List.mem_singleton, reduceCtorEq, or_false]

end Addressed

/-! ### Negotiating a stream -/

section Reached

variable (bus : Bus) (info : DeviceInfo) (cf : FrameFormat) (width height fps : Int32)

/-- What `tryFrame` has made of the caller's block when it ends, or divides by zero. -/
def frameReached (streamIf : StreamingInterface) (format : FormatDesc) (c : Caller)
    (frame : FrameDesc) : Caller :=
  if ¬ HasSize width height frame then c
  else
    let c := ((c.claim bus streamIf).query bus info .getMax).2
    match matchFrame fps frame with
    | .ok (some interval) => c.found format frame interval
    | _ => c

def formatReached (streamIf : StreamingInterface) (c : Caller) (format : FormatDesc) : Caller :=
  if !frameFormatMatchesGuid cf format.guidFormat then c
  else
    progress (tryFrame bus info width height fps streamIf format)
      (frameReached bus info width height fps streamIf format) c format.frameDescs

def interfaceReached (c : Caller) (streamIf : StreamingInterface) : Caller :=
  progress (tryFormat bus info cf width height fps streamIf)
    (formatReached bus info cf width height fps streamIf) c streamIf.formatDescs

/-- The calls that `uvc_get_stream_ctrl_format_size` makes, up to its end or a division by zero. -/
def streamCtrlCalls (ctrl : StreamCtrl) : List Call :=
  match findMode bus info cf width height fps ⟨ctrl, []⟩ with
  | .ok (found, c) => if found ≠ 0 then (c.probe bus info).2.calls else c.calls
  | .error _ =>
    (progress (tryInterface bus info cf width height fps)
      (interfaceReached bus info cf width height fps) ⟨ctrl, []⟩ info.streamIfs).calls

/-- An interface with this number has a frame of the requested class and size. -/
def Offered (idx : UInt8) : Prop :=
  ∃ streamIf ∈ info.streamIfs, streamIf.bInterfaceNumber = idx ∧
    ∃ format ∈ streamIf.formatDescs, frameFormatMatchesGuid cf format.guidFormat = true ∧
      ∃ frame ∈ format.frameDescs, HasSize width height frame

variable {bus info cf width height fps}

/-- Where the function returns, these are the calls it has made. -/
theorem streamCtrlCalls_eq {ctrl : StreamCtrl} {ret : Ret} {c : Caller}
    (h : getStreamCtrlFormatSize bus info cf width height fps ⟨ctrl, []⟩ = .ok (ret, c)) :
    streamCtrlCalls bus info cf width height fps ctrl = c.calls := by
  rw [getStreamCtrlFormatSize, bind_eq_ok] at h
  obtain ⟨⟨found, c'⟩, hfind, hret⟩ := h
  rw [streamCtrlCalls, hfind]
  simp only [] at hret ⊢
  split at hret
  · rename_i hfound
    rw [if_pos hfound]
    exact congrArg (·.2.calls) (Except.ok.inj hret)
  · rename_i hfound
    rw [if_neg hfound]
    exact congrArg (·.2.calls) (Except.ok.inj hret)

theorem tracks_tryFrame (streamIf : StreamingInterface) (format : FormatDesc) :
    Tracks (tryFrame bus info width height fps streamIf format)
      (frameReached bus info width height fps streamIf format) := by
  intro c frame p hp
  rw [tryFrame] at hp
  rw [frameReached]
  split at hp
  · rename_i hsize
    rw [if_pos hsize, ← Except.ok.inj hp]
  · rename_i hsize
    rw [if_neg hsize]
    cases hmatch : matchFrame fps frame with
    | error e =>
      rw [hmatch] at hp
      cases hp
    | ok found =>
      rw [hmatch] at hp
      cases found with
      | none => rw [← Except.ok.inj hp]
      | some interval => rw [← Except.ok.inj hp]

theorem tracks_tryFormat (streamIf : StreamingInterface) :
    Tracks (tryFormat bus info cf width height fps streamIf)
      (formatReached bus info cf width height fps streamIf) := by
  intro c format p hp
  rw [tryFormat] at hp
  rw [formatReached]
  split at hp
  · rename_i hclass
    rw [if_pos hclass, ← Except.ok.inj hp]
  · rename_i hclass
    rw [if_neg hclass]
    exact tracks_forEach c _ p hp

theorem tracks_tryInterface :
    Tracks (tryInterface bus info cf width height fps)
      (interfaceReached bus info cf width height fps) :=
  fun c streamIf p hp => tracks_forEach c streamIf.formatDescs p hp

theorem Caller.query_addressed {P : UInt8 → Prop} {c : Caller} (h : Addressed P c.calls)
    (hP : P c.ctrl.bInterfaceNumber) {req : ReqCode} :
    Addressed P (c.query bus info req).2.calls := by
  rw [Caller.query_calls]
  exact addressed_control.2 ⟨h, hP⟩

/-- A negotiation goes to the interface of the block that it starts with. -/
theorem Caller.probe_addressed {P : UInt8 → Prop} {c : Caller} (h : Addressed P c.calls)
    (hP : P c.ctrl.bInterfaceNumber) : Addressed P (c.probe bus info).2.calls := by
  have hset : Addressed P (c.query bus info .setCur).2.calls := c.query_addressed h hP
  have hkept : P (c.query bus info .setCur).2.ctrl.bInterfaceNumber := by
    rwa [Caller.query_bInterfaceNumber]
  have hget : Addressed P ((c.query bus info .setCur).2.query bus info .getCur).2.calls :=
    Caller.query_addressed hset hkept
  rw [Caller.probe]
  simp only []
  split
  · exact hset
  · split
    · exact hget
    · split
      · exact hget
      · exact hget

/-- The search asks an interface only about a frame that is wanted. -/
theorem frameReached_addressed {streamIf : StreamingInterface} {format : FormatDesc} {c : Caller}
    {frame : FrameDesc} (hif : streamIf ∈ info.streamIfs) (hformat : format ∈ streamIf.formatDescs)
    (hclass : frameFormatMatchesGuid cf format.guidFormat = true)
    (hframe : frame ∈ format.frameDescs)
    (h : Addressed (Offered info cf width height) c.calls) :
    Addressed (Offered info cf width height)
      (frameReached bus info width height fps streamIf format c frame).calls := by
  rw [frameReached]
  split
  · exact h
  · rename_i hsize
    have hoffered : Offered info cf width height streamIf.bInterfaceNumber :=
      ⟨streamIf, hif, rfl, format, hformat, hclass, frame, hframe, not_not.1 hsize⟩
    have hasked : Addressed (Offered info cf width height)
        ((c.claim bus streamIf).query bus info .getMax).2.calls :=
      Caller.query_addressed (addressed_claimIf.2 h) hoffered
    simp only []
    split
    · exact hasked
    · exact hasked

/-- What the search has done when it ends, or divides by zero. -/
theorem reached_addressed {c : Caller} (h : Addressed (Offered info cf width height) c.calls) :
    Addressed (Offered info cf width height)
      (progress (tryInterface bus info cf width height fps)
        (interfaceReached bus info cf width height fps) c info.streamIfs).calls := by
  refine tracks_tryInterface.progress (I := fun c => Addressed _ c.calls) ?_ h
  intro streamIf hif c hc
  refine (tracks_tryFormat streamIf).progress (I := fun c => Addressed _ c.calls) ?_ hc
  intro format hformat c hc
  rw [formatReached]
  split
  · exact hc
  · rename_i hclass
    refine (tracks_tryFrame streamIf format).progress (I := fun c => Addressed _ c.calls) ?_ hc
    intro frame hframe c hc
    exact frameReached_addressed hif hformat (by simpa using hclass) hframe hc

/-- The search ends with the number of an interface that has what is wanted. -/
theorem found_offered (c : Caller) :
    Post (findMode bus info cf width height fps c) fun p =>
      p.1 ≠ 0 → Offered info cf width height p.2.ctrl.bInterfaceNumber := by
  refine post_forEach_stopped (Q := fun c => Offered _ _ _ _ c.ctrl.bInterfaceNumber) ?_ c
  intro streamIf hif c
  refine post_forEach_stopped (Q := fun c => Offered _ _ _ _ c.ctrl.bInterfaceNumber) ?_ c
  intro format hformat c
  rw [tryFormat]
  split
  · exact post_pure fun hr => absurd rfl hr
  · rename_i hclass
    refine post_forEach_stopped (Q := fun c => Offered _ _ _ _ c.ctrl.bInterfaceNumber) ?_ c
    intro frame hframe c
    rw [tryFrame]
    split
    · exact post_pure fun hr => absurd rfl hr
    · rename_i hsize
      refine post_bind fun found _ => ?_
      cases found with
      | none => exact post_pure fun hr => absurd rfl hr
      | some interval =>
        refine post_pure fun _ => ?_
        show Offered _ _ _ _ ((c.claim bus streamIf).query bus info .getMax).2.ctrl.bInterfaceNumber
        rw [Caller.query_bInterfaceNumber]
        exact ⟨streamIf, hif, rfl, format, hformat, by simpa using hclass, frame, hframe,
          not_not.1 hsize⟩

/-- **The negotiation of a stream** talks to interfaces that have what is wanted. -/
theorem streamCtrlCalls_addressed (ctrl : StreamCtrl) :
    Addressed (Offered info cf width height)
      (streamCtrlCalls bus info cf width height fps ctrl) := by
  have hreached : Addressed (Offered info cf width height)
      (progress (tryInterface bus info cf width height fps)
        (interfaceReached bus info cf width height fps) ⟨ctrl, []⟩ info.streamIfs).calls :=
    reached_addressed addressed_nil
  rw [streamCtrlCalls]
  split
  · rename_i found c hfind
    have heq : progress _ (interfaceReached bus info cf width height fps) ⟨ctrl, []⟩
        info.streamIfs = c := tracks_forEach _ _ _ hfind
    have hc : Addressed (Offered info cf width height) c.calls := by rwa [heq] at hreached
    split
    · rename_i hfound
      exact c.probe_addressed hc (found_offered _ _ hfind hfound)
    · exact hc
  · exact hreached

end Reached

/-! ### Negotiating a still image -/

section Still

variable {bus : Bus} {info : DeviceInfo} {ctrl : StreamCtrl} {width height : Int32}
  {P : UInt8 → Prop} {c : StillCaller}

theorem StillCaller.query_calls (probe : Bool) (req : ReqCode) :
    (c.query bus probe req).2.calls =
      c.calls ++ [.control (stillCtrlRequest c.still probe req)] := rfl

@[simp] theorem StillCaller.query_bInterfaceNumber (probe : Bool) (req : ReqCode) :
    (c.query bus probe req).2.still.bInterfaceNumber = c.still.bInterfaceNumber :=
  queryStillCtrl_bInterfaceNumber

/-- The calls of a still negotiation go where `P` allows, and the block that it has at the moment
says the same. -/
structure StillCaller.Keeps (P : UInt8 → Prop) (c : StillCaller) : Prop where
  addressed : Addressed P c.calls
  block : P c.still.bInterfaceNumber

theorem StillCaller.Keeps.query (h : c.Keeps P) {probe : Bool} {req : ReqCode} :
    (c.query bus probe req).2.Keeps P where
  addressed := by
    rw [StillCaller.query_calls]
    exact addressed_control.2 ⟨h.addressed, h.block⟩
  block := by
    rw [StillCaller.query_bInterfaceNumber]
    exact h.block

theorem StillCaller.Keeps.probe (h : c.Keeps P) : (c.probe bus).2.Keeps P := by
  rw [StillCaller.probe]
  simp only []
  split
  · exact h.query
  · split
    · exact h.query.query
    · exact h.query.query.query

theorem StillCaller.Keeps.findStill (h : c.Keeps P) (hctrl : P ctrl.bInterfaceNumber)
    (formats : List FormatDesc) : (findStill bus ctrl width height c formats).2.Keeps P := by
  induction formats generalizing c with
  | nil => exact h
  | cons format formats ih =>
    rw [Stream.findStill]
    split
    · exact ih h
    · have hmax : (c.query bus true .getMax).2.Keeps P := h.query
      simp only []
      split
      · exact ⟨hmax.addressed, hctrl⟩
      · exact ih hmax

/-- Nothing that was done is forgotten. -/
theorem StillCaller.calls_prefix_probe : c.calls <+: (c.probe bus).2.calls := by
  have hset : c.calls <+: (c.query bus true .setCur).2.calls := List.prefix_append _ _
  rw [StillCaller.probe]
  simp only []
  split
  · exact hset
  · have hget := hset.trans (List.prefix_append _ [.control (stillCtrlRequest
      (c.query bus true .setCur).2.still true .getCur)])
    split
    · exact hget
    · exact hget.trans (List.prefix_append _ _)

theorem calls_prefix_findStill (formats : List FormatDesc) :
    c.calls <+: (findStill bus ctrl width height c formats).2.calls := by
  induction formats generalizing c with
  | nil => exact List.prefix_rfl
  | cons format formats ih =>
    rw [findStill]
    split
    · exact ih
    · have hmax : c.calls <+: (c.query bus true .getMax).2.calls := List.prefix_append _ _
      simp only []
      split
      · exact hmax
      · exact hmax.trans ih

/-- The first request goes to the interface that the caller's block names. -/
theorem findStill_asks {formats : List FormatDesc} {format : FormatDesc} (hmem : format ∈ formats)
    (hformat : ctrl.bFormatIndex = format.bFormatIndex) :
    .control (stillCtrlRequest c.still true .getMax) ∈
      (findStill bus ctrl width height c formats).2.calls := by
  induction formats with
  | nil => exact absurd hmem List.not_mem_nil
  | cons head formats ih =>
    rw [findStill]
    split
    · rename_i hne
      rcases List.mem_cons.1 hmem with rfl | hmem
      · exact absurd hformat hne
      · exact ih hmem
    · have hmax : .control (stillCtrlRequest c.still true .getMax) ∈
          (c.query bus true .getMax).2.calls := by
        rw [StillCaller.query_calls]
        simp
      simp only []
      split
      · exact hmax
      · exact (calls_prefix_findStill formats).subset hmax

/-- The maximal values are asked for: the interface of the stream takes still images by method 2,
and it has the format of the stream. -/
def AsksForMax (info : DeviceInfo) (ctrl : StreamCtrl) : Prop :=
  ∃ streamIf, getStreamIf info ctrl.bInterfaceNumber = some streamIf ∧
    streamIf.bStillCaptureMethod = 2 ∧
    ∃ format ∈ streamIf.formatDescs, ctrl.bFormatIndex = format.bFormatIndex

theorem findStill_of_forall_ne {formats : List FormatDesc}
    (h : ∀ format ∈ formats, ctrl.bFormatIndex ≠ format.bFormatIndex) :
    findStill bus ctrl width height c formats = (false, c) := by
  induction formats with
  | nil => rfl
  | cons format formats ih =>
    obtain ⟨hformat, hformats⟩ := List.forall_mem_cons.1 h
    rw [findStill, if_pos hformat]
    exact ih hformats

/-- Where no maximal values are asked for, nothing is done at all. -/
theorem getStillCtrlFormatSize_of_not_asks (h : ¬ AsksForMax info ctrl) :
    (getStillCtrlFormatSize bus ctrl width height info c).2 = c := by
  rw [getStillCtrlFormatSize]
  split
  · rfl
  · rename_i streamIf hif
    split
    · rfl
    · rename_i hmethod
      rw [findStill_of_forall_ne fun format hmem hformat =>
        h ⟨streamIf, hif, not_not.1 hmethod, format, hmem, hformat⟩]
      rfl

theorem getStillCtrlFormatSize_asks (h : AsksForMax info ctrl) :
    .control (stillCtrlRequest c.still true .getMax) ∈
      (getStillCtrlFormatSize bus ctrl width height info c).2.calls := by
  obtain ⟨streamIf, hif, hmethod, format, hmem, hformat⟩ := h
  have hasked : .control (stillCtrlRequest c.still true .getMax) ∈
      (findStill bus ctrl width height c streamIf.formatDescs).2.calls :=
    findStill_asks hmem hformat
  rw [getStillCtrlFormatSize, hif]
  simp only [hmethod, ne_eq, not_true_eq_false, if_false]
  split
  · exact StillCaller.calls_prefix_probe.subset hasked
  · exact hasked

theorem StillCaller.Keeps.getStillCtrlFormatSize (h : c.Keeps P)
    (hctrl : P ctrl.bInterfaceNumber) :
    (getStillCtrlFormatSize bus ctrl width height info c).2.Keeps P := by
  rw [Stream.getStillCtrlFormatSize]
  split
  · exact h
  · rename_i streamIf _
    split
    · exact h
    · have hfound : (Stream.findStill bus ctrl width height c streamIf.formatDescs).2.Keeps P :=
        h.findStill hctrl _
      simp only []
      split
      · exact hfound.probe
      · exact hfound

/-- **The negotiation of a still image** talks to the interface of the stream if and only if the
caller's block names it already, or nothing is asked at all. -/
theorem stillCtrlCalls_addressed (still : StillCtrl) :
    Addressed (· = ctrl.bInterfaceNumber)
      (getStillCtrlFormatSize bus ctrl width height info ⟨still, []⟩).2.calls ↔
    (AsksForMax info ctrl → still.bInterfaceNumber = ctrl.bInterfaceNumber) := by
  constructor
  · intro h hasks
    exact h _ (getStillCtrlFormatSize_asks hasks)
  · intro h
    by_cases hasks : AsksForMax info ctrl
    · have hkeeps : StillCaller.Keeps (· = ctrl.bInterfaceNumber) ⟨still, []⟩ :=
        ⟨addressed_nil, h hasks⟩
      exact (hkeeps.getStillCtrlFormatSize rfl).addressed
    · rw [getStillCtrlFormatSize_of_not_asks hasks]
      exact addressed_nil

end Still

/-- **Whom a negotiation talks to.**  All control requests of `uvc_get_stream_ctrl_format_size` go
to interfaces that have a frame of the requested class and size.  Those of
`uvc_get_still_ctrl_format_size` go to the interface of the stream if and only if the still block
names it on entry, or no request is made at all. -/
theorem negotiation_addresses (bus : Bus) (info : DeviceInfo) (cf : FrameFormat)
    (width height fps : Int32) (ctrl : StreamCtrl) (still : StillCtrl) :
    Addressed (Offered info cf width height)
      (streamCtrlCalls bus info cf width height fps ctrl) ∧
    (Addressed (· = ctrl.bInterfaceNumber)
        (getStillCtrlFormatSize bus ctrl width height info ⟨still, []⟩).2.calls ↔
      (AsksForMax info ctrl → still.bInterfaceNumber = ctrl.bInterfaceNumber)) :=
  ⟨streamCtrlCalls_addressed ctrl, stillCtrlCalls_addressed still⟩

/-- A streaming interface with one format, which has one size of still images. -/
def stillDevice : DeviceInfo where
  streamIfs := [
    { bInterfaceNumber := 1
      bStillCaptureMethod := 2
      formatDescs := [{
        bDescriptorSubtype := .formatUncompressed
        bFormatIndex := 1
        guidFormat := formatGuid .yuyv
        stillFrameDesc := [{
          bDescriptorSubtype := .stillImageFrame
          bEndPointAddress := 0
          imageSizePatterns := [⟨1, 640, 480⟩] }] }] }]

/-- A still block of zeros: the maximal values are asked of interface 0. -/
theorem stillCtrl_addressed_elsewhere :
    ¬ Addressed (· = 1)
      (getStillCtrlFormatSize ⟨fun _ _ => Ret.success, fun _ _ => ⟨11, List.replicate 11 0⟩⟩
        { bInterfaceNumber := 1, bFormatIndex := 1 } 640 480 stillDevice ⟨{}, []⟩).2.calls := by
  intro h
  exact absurd (h (stillCtrlRequest {} true .getMax) (by decide)) (by decide)

end Stream
end LibUvc
