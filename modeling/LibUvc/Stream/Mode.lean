import LibUvc.Foundation.Search
import LibUvc.Descriptor.Diag
import LibUvc.Stream.Negotiation
import Mathlib.Data.List.Find

/-!
# Selecting a mode

`uvc_get_stream_ctrl_format_size` looks through the descriptors for a frame of the size and the rate
that the caller wants, and negotiates the first one it finds.  On the way it claims interfaces and
asks the device for maximal values, which go into the very block that the search is about to fill.

* `getStreamCtrlFormatSize` is the function, four nested loops with a `goto` out of them.  What the
  device answers may depend on everything that was done before.
* `Mode` is what the search is for: an interface, a format, a frame and an interval of it.  `modes`
  lists all of a device in the order of the descriptors, and `Mode.Matches` says which of them are
  meant.
* `findMode_searches` takes the device out of the search: what is left is `lookInterface`, a
  function of the descriptors.  `select_first` says that it finds the first mode that matches.
* `intervals_divide_iff` says when the search, and the printing of the same descriptors, divide by
  no zero.
-/

set_option autoImplicit false

namespace LibUvc
namespace Stream

open Checked Descriptor Scan Search

/-! ## Format classes -/

/-- The `children` of `_get_format_entry`. -/
def formatChildren : FrameFormat → List FrameFormat
  | .unknown => [.uncompressed, .compressed]
  | .uncompressed => [.yuyv, .uyvy, .gray8, .gray16, .nv12, .p010, .bgr, .rgb]
  | .compressed => [.mjpeg, .h264, .h265]
  | _ => []

/-- `frameFormatMatchesGuid`, with a bound on the depth. -/
def matchesGuid : Nat → FrameFormat → List UInt8 → Bool
  | 0, _, _ => false
  | fuel + 1, fmt, guid =>
    guid == formatGuid fmt || (formatChildren fmt).any fun child => matchesGuid fuel child guid

/-- `_uvc_frame_format_matches_guid`. -/
def frameFormatMatchesGuid (fmt : FrameFormat) (guid : List UInt8) : Bool := matchesGuid 3 fmt guid

/-- The formats are three deep, so the bound is none. -/
theorem matchesGuid_eq (fuel : Nat) (fmt : FrameFormat) (guid : List UInt8) :
    matchesGuid (fuel + 3) fmt guid = frameFormatMatchesGuid fmt guid := by
  cases fmt <;> simp [frameFormatMatchesGuid, matchesGuid, formatChildren]

/-! ## The rate of a frame -/

/-- The loop over the intervals of a frame: the first one that gives the rate. -/
def matchInterval (fps : Int32) : List UInt32 → Checked (Option UInt32)
  | [] => .error .outOfBounds
  | interval :: rest =>
    if interval = 0 then return none
    else do
      let rate ← divide 10000000 interval
      -- a rate of zero means "accept first rate available"
      if rate = fps.toUInt32 ∨ fps = 0 then return some interval else matchInterval fps rest

/-- The test of an interval against the range of a frame.  The offset is computed before the test
that says it makes sense. -/
def matchOffset (frame : FrameDesc) (interval : UInt32) : Checked (Option UInt32) :=
  let offset := interval - frame.dwMinFrameInterval
  if frame.dwMinFrameInterval ≤ interval ∧ interval ≤ frame.dwMaxFrameInterval then
    if offset = 0 then return some interval
    else do
      let excess ← remainder offset frame.dwFrameIntervalStep
      if excess = 0 then return some interval else return none
  else return none

/-- The branch for a frame that has a range of intervals. -/
def matchRange (fps : Int32) (frame : FrameDesc) : Checked (Option UInt32) := do
  let quotient ← divideInt 10000000 fps
  matchOffset frame quotient.toUInt32

/-- The interval that a frame has for the rate. -/
def matchFrame (fps : Int32) (frame : FrameDesc) : Checked (Option UInt32) :=
  if frame.intervals ≠ [] then matchInterval fps frame.intervals else matchRange fps frame

/-! ## The search, with the device -/

/-- What is done to the device, in order. -/
inductive Call where
  /-- `uvc_claim_if`, with what it answered. -/
  | claimIf (idx : UInt8) (ret : Ret)
  | control (request : ControlRequest)
  deriving DecidableEq, Repr

/-- A device, whose answers may depend on what was done before. -/
structure Bus where
  claimIf : List Call → UInt8 → Ret
  control : List Call → ControlRequest → Transfer

/-- The caller's block, and what was done so far. -/
structure Caller where
  ctrl : StreamCtrl
  calls : List Call := []
  deriving DecidableEq, Repr

/-- No block was sent to the device. -/
def Caller.Silent (c : Caller) : Prop :=
  ∀ request, .control request ∈ c.calls → request.request ≠ .setCur

section Model

variable (bus : Bus) (info : DeviceInfo) (cf : FrameFormat) (width height fps : Int32)

/-- `uvc_query_stream_ctrl` on a probe block. -/
def Caller.query (c : Caller) (req : ReqCode) : Ret × Caller :=
  match queryStreamCtrl (bus.control c.calls) info c.ctrl true req with
  | (ret, ctrl) =>
    (ret, ⟨ctrl, c.calls ++ [.control (streamCtrlRequest info c.ctrl true req)]⟩)

/-- `uvc_probe_stream_ctrl`. -/
def Caller.probe (c : Caller) : Ret × Caller :=
  match c.query bus info .setCur with
  | (ret, sent) =>
    if ret ≠ Ret.success then (ret, sent)
    else
      match sent.query bus info .getCur with
      | (ret, actual) =>
        if ret ≠ Ret.success then (ret, actual)
        else if !streamParamsNegotiated c.ctrl actual.ctrl then (Ret.errorInvalidMode, actual)
        else (Ret.success, actual)

/-- The interface number goes into the block, and the interface is claimed; the outcome is not
looked at. -/
def Caller.claim (c : Caller) (streamIf : StreamingInterface) : Caller :=
  { ctrl := { c.ctrl with bInterfaceNumber := streamIf.bInterfaceNumber }
    calls := c.calls ++
      [.claimIf streamIf.bInterfaceNumber (bus.claimIf c.calls streamIf.bInterfaceNumber)] }

/-- The block when the search has ended at an interval of a frame. -/
def Caller.found (c : Caller) (format : FormatDesc) (frame : FrameDesc) (interval : UInt32) :
    Caller :=
  { c with ctrl := { c.ctrl with
      bmHint := 1
      bFormatIndex := format.bFormatIndex
      bFrameIndex := frame.bFrameIndex
      dwFrameInterval := interval } }

/-- The frame has the size that is wanted. -/
def HasSize (frame : FrameDesc) : Prop :=
  (frame.wWidth.toNat : Int) = width.toInt ∧ (frame.wHeight.toNat : Int) = height.toInt

instance (frame : FrameDesc) : Decidable (HasSize width height frame) :=
  inferInstanceAs (Decidable (_ ∧ _))

/-- The body of the loop over the frames; 1 stands for `goto found`. -/
def tryFrame (streamIf : StreamingInterface) (format : FormatDesc) (c : Caller)
    (frame : FrameDesc) : Checked (Int × Caller) :=
  if ¬ HasSize width height frame then return (0, c)
  else do
    -- get the max values
    let c := ((c.claim bus streamIf).query bus info .getMax).2
    match ← matchFrame fps frame with
    | some interval => return (1, c.found format frame interval)
    | none => return (0, c)

/-- The body of the loop over the formats. -/
def tryFormat (streamIf : StreamingInterface) (c : Caller) (format : FormatDesc) :
    Checked (Int × Caller) :=
  if !frameFormatMatchesGuid cf format.guidFormat then return (0, c)
  else forEach (tryFrame bus info width height fps streamIf format) c format.frameDescs

/-- The body of the loop over the interfaces. -/
def tryInterface (c : Caller) (streamIf : StreamingInterface) : Checked (Int × Caller) :=
  forEach (tryFormat bus info cf width height fps streamIf) c streamIf.formatDescs

/-- The four loops. -/
def findMode (c : Caller) : Checked (Int × Caller) :=
  forEach (tryInterface bus info cf width height fps) c info.streamIfs

/-- `uvc_get_stream_ctrl_format_size`. -/
def getStreamCtrlFormatSize (c : Caller) : Checked (Ret × Caller) := do
  let (found, c) ← findMode bus info cf width height fps c
  if found ≠ 0 then return c.probe bus info else return (Ret.errorInvalidMode, c)

end Model

/-! ## What a query leaves alone -/

section Queries

variable {bus : Bus} {info : DeviceInfo} {c : Caller} {req : ReqCode}

theorem queryStreamCtrl_bInterfaceNumber {usb : ControlRequest → Transfer} {ctrl : StreamCtrl}
    {probe : Bool} :
    (queryStreamCtrl usb info ctrl probe req).2.bInterfaceNumber = ctrl.bInterfaceNumber := by
  have hdecode : ∀ len buf,
      (decodeStreamCtrl len buf ctrl).bInterfaceNumber = ctrl.bInterfaceNumber := by
    intro len buf
    rw [decodeStreamCtrl]
    split <;> rfl
  rw [queryStreamCtrl]
  split
  · rfl
  · split
    · rfl
    · exact hdecode _ _

theorem Caller.query_bInterfaceNumber :
    (c.query bus info req).2.ctrl.bInterfaceNumber = c.ctrl.bInterfaceNumber :=
  queryStreamCtrl_bInterfaceNumber

theorem Caller.query_calls : (c.query bus info req).2.calls =
    c.calls ++ [.control (streamCtrlRequest info c.ctrl true req)] := rfl

theorem Caller.Silent.claim (h : c.Silent) (streamIf : StreamingInterface) :
    (c.claim bus streamIf).Silent := by
  intro request hmem
  rcases List.mem_append.1 hmem with hold | hnew
  · exact h request hold
  · simp at hnew

theorem Caller.Silent.query (h : c.Silent) (hreq : req ≠ .setCur) :
    (c.query bus info req).2.Silent := by
  intro request hmem
  rw [Caller.query_calls] at hmem
  rcases List.mem_append.1 hmem with hold | hnew
  · exact h request hold
  · obtain rfl : request = streamCtrlRequest info c.ctrl true req := by simpa using hnew
    exact hreq

/-- A negotiation sends the block. -/
theorem Caller.probe_sends : .control (streamCtrlRequest info c.ctrl true .setCur) ∈
    (c.probe bus info).2.calls := by
  have hsent : .control (streamCtrlRequest info c.ctrl true .setCur) ∈
      (c.query bus info .setCur).2.calls := by
    rw [Caller.query_calls]
    simp
  have hkept : ∀ call ∈ (c.query bus info .setCur).2.calls,
      call ∈ ((c.query bus info .setCur).2.query bus info .getCur).2.calls := by
    intro call hmem
    rw [Caller.query_calls]
    exact List.mem_append_left _ hmem
  rw [Caller.probe]
  simp only []
  split
  · exact hsent
  · split
    · exact hkept _ hsent
    · split
      · exact hkept _ hsent
      · exact hkept _ hsent

/-- The negotiation is the one of a device that answers the two requests as this one does at the two
times. -/
theorem Caller.probe_eq (bus : Bus) (info : DeviceInfo) (c : Caller) :
    ((c.probe bus info).1, (c.probe bus info).2.ctrl) =
      probeStreamCtrl (fun r => bus.control
        (if r.request = .setCur then c.calls else (c.query bus info .setCur).2.calls) r)
        info c.ctrl := by
  obtain ⟨r, hset⟩ : ∃ r, queryStreamCtrl (bus.control c.calls) info c.ctrl true .setCur =
      (r, c.ctrl) := ⟨_, queryStreamCtrl_setCur _ _ _ _⟩
  have hsent : c.query bus info .setCur =
      (r, ⟨c.ctrl, c.calls ++ [.control (streamCtrlRequest info c.ctrl true .setCur)]⟩) := by
    simp only [Caller.query, hset]
  generalize hgot : queryStreamCtrl (bus.control
    (c.calls ++ [.control (streamCtrlRequest info c.ctrl true .setCur)])) info c.ctrl true
    .getCur = got
  obtain ⟨r', ctrl'⟩ := got
  rw [Caller.probe, probeStreamCtrl, hsent]
  generalize husb : (fun r : ControlRequest => _) = usb
  have hset' : queryStreamCtrl usb info c.ctrl true .setCur = (r, c.ctrl) := by
    subst husb
    exact hset
  have hgot' : queryStreamCtrl usb info c.ctrl true .getCur = (r', ctrl') := by
    subst husb
    exact hgot
  simp only [hset', hgot', Caller.query, hgot]
  split
  · rfl
  · split
    · rfl
    · split <;> rfl

end Queries

/-! ## The search, without the device -/

/-- An interval of a frame of a format of an interface. -/
structure Mode where
  streamIf : StreamingInterface
  format : FormatDesc
  frame : FrameDesc
  interval : UInt32
  deriving DecidableEq, Repr

section Look

variable (cf : FrameFormat) (width height fps : Int32)

/-- What the search makes of a frame. -/
def lookFrame (streamIf : StreamingInterface) (format : FormatDesc) (frame : FrameDesc) :
    Checked (Option Mode) :=
  if HasSize width height frame then do
    let found ← matchFrame fps frame
    return found.map (⟨streamIf, format, frame, ·⟩)
  else return none

/-- What the search makes of a format. -/
def lookFormat (streamIf : StreamingInterface) (format : FormatDesc) : Checked (Option Mode) :=
  if frameFormatMatchesGuid cf format.guidFormat then
    format.frameDescs.findSomeM? (lookFrame width height fps streamIf format)
  else return none

/-- What the search makes of an interface. -/
def lookInterface (streamIf : StreamingInterface) : Checked (Option Mode) :=
  streamIf.formatDescs.findSomeM? (lookFormat cf width height fps streamIf)

/-- The block says what mode was found, and was not sent yet. -/
structure Caller.Holds (m : Mode) (c : Caller) : Prop where
  bmHint : c.ctrl.bmHint = 1
  bInterfaceNumber : c.ctrl.bInterfaceNumber = m.streamIf.bInterfaceNumber
  bFormatIndex : c.ctrl.bFormatIndex = m.format.bFormatIndex
  bFrameIndex : c.ctrl.bFrameIndex = m.frame.bFrameIndex
  dwFrameInterval : c.ctrl.dwFrameInterval = m.interval
  silent : c.Silent

variable (bus : Bus) (info : DeviceInfo)

theorem tryFrame_searches (streamIf : StreamingInterface) (format : FormatDesc) :
    Searches Caller.Silent Caller.Holds (tryFrame bus info width height fps streamIf format)
      (lookFrame width height fps streamIf format) := by
  intro c frame hc
  rw [tryFrame, lookFrame]
  by_cases hsize : HasSize width height frame
  · rw [if_pos hsize, if_neg (not_not.2 hsize)]
    have hasked : ((c.claim bus streamIf).query bus info .getMax).2.Silent :=
      (hc.claim streamIf).query (by decide)
    cases matchFrame fps frame with
    | error e => rfl
    | ok found =>
      cases found with
      | none => exact ⟨_, rfl, hasked⟩
      | some interval =>
        refine ⟨_, rfl, rfl, ?_, rfl, rfl, rfl, hasked⟩
        exact Caller.query_bInterfaceNumber
  · rw [if_neg hsize, if_pos hsize]
    exact ⟨c, rfl, hc⟩

theorem tryFormat_searches (streamIf : StreamingInterface) :
    Searches Caller.Silent Caller.Holds (tryFormat bus info cf width height fps streamIf)
      (lookFormat cf width height fps streamIf) := by
  intro c format hc
  rw [tryFormat, lookFormat]
  cases frameFormatMatchesGuid cf format.guidFormat with
  | true => exact (tryFrame_searches width height fps bus info streamIf format).forEach c _ hc
  | false => exact ⟨c, rfl, hc⟩

/-- **The search does not depend on the device**: the block that it fills is overwritten on the way,
but not what it decides by. -/
theorem findMode_searches :
    Searches Caller.Silent Caller.Holds (forEach (tryInterface bus info cf width height fps))
      (List.findSomeM? (lookInterface cf width height fps)) := by
  refine Searches.forEach fun c streamIf hc => ?_
  exact (tryFormat_searches cf width height fps bus info streamIf).forEach c _ hc

end Look

/-! ## The rate of a frame, as arithmetic -/

/-- `interval_100ns`. -/
def rateInterval (fps : Int32) : UInt32 := (10000000 / fps : Int32).toUInt32

section Rate

variable {fps : Int32} {frame : FrameDesc}

/-- The intervals of a frame that are tried: those it lists, or the one for the rate. -/
def tried (fps : Int32) (frame : FrameDesc) : List UInt32 :=
  if frame.intervals = [] then [rateInterval fps] else frame.walk

/-- The test of a frame that lists its intervals. -/
def AtRate (fps : Int32) (interval : UInt32) : Prop :=
  10000000 / interval = fps.toUInt32 ∨ fps = 0

instance (fps : Int32) (interval : UInt32) : Decidable (AtRate fps interval) :=
  inferInstanceAs (Decidable (_ ∨ _))

/-- The test of a frame that has a range of intervals. -/
def InRange (frame : FrameDesc) (interval : UInt32) : Prop :=
  frame.dwMinFrameInterval ≤ interval ∧ interval ≤ frame.dwMaxFrameInterval ∧
    (interval - frame.dwMinFrameInterval) % frame.dwFrameIntervalStep = 0

instance (frame : FrameDesc) (interval : UInt32) : Decidable (InRange frame interval) :=
  inferInstanceAs (Decidable (_ ∧ _ ∧ _))

/-- The interval passes the test of its frame. -/
def Takes (fps : Int32) (frame : FrameDesc) (interval : UInt32) : Prop :=
  if frame.intervals = [] then InRange frame interval else AtRate fps interval

instance (fps : Int32) (frame : FrameDesc) (interval : UInt32) :
    Decidable (Takes fps frame interval) :=
  if h : frame.intervals = [] then
    decidable_of_iff (InRange frame interval) (by rw [Takes, if_pos h])
  else decidable_of_iff (AtRate fps interval) (by rw [Takes, if_neg h])

/-- The divisors of the search are not zero: a frame with a range is not tried for a rate of zero,
nor for an interval inside the range when there is no step. -/
def Divides (fps : Int32) (frame : FrameDesc) : Prop :=
  frame.intervals = [] → fps ≠ 0 ∧
    (frame.dwMinFrameInterval < rateInterval fps → rateInterval fps ≤ frame.dwMaxFrameInterval →
      frame.dwFrameIntervalStep ≠ 0)

instance (fps : Int32) (frame : FrameDesc) : Decidable (Divides fps frame) :=
  inferInstanceAs (Decidable (_ → _ ∧ (_ → _ → _)))

theorem matchInterval_eq {values : List UInt32} (h : ∀ v ∈ values, v ≠ 0) :
    matchInterval fps (values ++ [0]) = .ok (values.find? fun v => AtRate fps v) := by
  induction values with
  | nil => rfl
  | cons v values ih =>
    obtain ⟨hv, hvalues⟩ := List.forall_mem_cons.1 h
    rw [List.cons_append, matchInterval, if_neg hv, divide_eq hv, ok_bind, List.find?_cons]
    by_cases hrate : 10000000 / v = fps.toUInt32 ∨ fps = 0
    · rw [if_pos hrate, decide_eq_true (show AtRate fps v from hrate)]
      rfl
    · rw [if_neg hrate, decide_eq_false (show ¬ AtRate fps v from hrate)]
      exact ih hvalues

/-- Where the offset is divided, it is not zero. -/
theorem lt_of_offset {interval : UInt32} (hle : frame.dwMinFrameInterval ≤ interval)
    (h : interval - frame.dwMinFrameInterval ≠ 0) : frame.dwMinFrameInterval < interval := by
  refine UInt32.lt_of_le_of_ne hle fun heq => h ?_
  rw [heq, UInt32.sub_self]

/-- The test of the range, when it gets through: an offset of zero is a multiple of every step. -/
theorem matchOffset_eq {interval : UInt32}
    (hstep : frame.dwMinFrameInterval < interval → interval ≤ frame.dwMaxFrameInterval →
      frame.dwFrameIntervalStep ≠ 0) :
    matchOffset frame interval = .ok ([interval].find? fun v => InRange frame v) := by
  rw [List.find?_singleton, matchOffset]
  split
  · rename_i hrange
    split
    · rename_i hzero
      have hin : InRange frame interval := ⟨hrange.1, hrange.2, by rw [hzero, UInt32.zero_mod]⟩
      rw [decide_eq_true hin]
      rfl
    · rename_i hoffset
      rw [remainder_eq (hstep (lt_of_offset hrange.1 hoffset) hrange.2), ok_bind]
      split
      · rename_i hover
        rw [decide_eq_true (show InRange frame interval from ⟨hrange.1, hrange.2, hover⟩)]
        rfl
      · rename_i hover
        rw [decide_eq_false (show ¬ InRange frame interval from fun h => hover h.2.2)]
        rfl
  · rename_i hrange
    rw [decide_eq_false (show ¬ InRange frame interval from fun h => hrange ⟨h.1, h.2.1⟩)]
    rfl

/-- Inside the range, and not at its start, there is no way around the step. -/
theorem step_ne_zero_of_safe {interval : UInt32} (h : Safe (matchOffset frame interval))
    (hlt : frame.dwMinFrameInterval < interval) (hle : interval ≤ frame.dwMaxFrameInterval) :
    frame.dwFrameIntervalStep ≠ 0 := by
  intro hzero
  have hoffset : interval - frame.dwMinFrameInterval ≠ 0 := by
    intro heq
    rw [UInt32.lt_iff_toNat_lt] at hlt
    have hsub := congrArg UInt32.toNat heq
    rw [UInt32.toNat_sub_of_le _ _ (UInt32.le_iff_toNat_le.2 hlt.le)] at hsub
    simp at hsub
    omega
  rw [matchOffset, if_pos ⟨UInt32.le_of_lt hlt, hle⟩, if_neg hoffset, remainder, if_pos hzero,
    error_bind] at h
  exact not_safe_error _ h

/-- **What a frame has for a rate**: the first interval that is tried and passes the test. -/
theorem matchFrame_eq (hlisted : frame.Listed) (h : Divides fps frame) :
    matchFrame fps frame = .ok ((tried fps frame).find? fun v => Takes fps frame v) := by
  rcases hlisted.intervals_eq with hnil | ⟨heq, hne⟩
  · obtain ⟨hfps, hstep⟩ := h hnil
    simp only [matchFrame, matchRange, tried, Takes, hnil, ne_eq, not_true_eq_false, if_false,
      if_true, divideInt_eq hfps, ok_bind]
    exact matchOffset_eq hstep
  · have hcons : frame.intervals ≠ [] := by rw [heq]; simp
    simp only [matchFrame, tried, Takes, hcons, ne_eq, not_false_eq_true, if_false, if_true]
    rw [heq]
    exact matchInterval_eq hne

/-- **When the search gets through a frame.** -/
theorem matchFrame_safe (hlisted : frame.Listed) :
    Safe (matchFrame fps frame) ↔ Divides fps frame := by
  refine ⟨fun hsafe hnil => ?_, fun h => ⟨_, matchFrame_eq hlisted h⟩⟩
  rw [matchFrame, if_neg (not_not.2 hnil), matchRange, divideInt] at hsafe
  by_cases hfps : fps = 0
  · rw [if_pos hfps, error_bind] at hsafe
    exact absurd hsafe (not_safe_error _)
  · rw [if_neg hfps, ok_bind] at hsafe
    exact ⟨hfps, step_ne_zero_of_safe hsafe⟩

end Rate

/-! ## The first mode that matches -/

/-- All modes of a device, in the order of its descriptors. -/
def modes (info : DeviceInfo) (fps : Int32) : List Mode :=
  info.streamIfs.flatMap fun streamIf => streamIf.formatDescs.flatMap fun format =>
    format.frameDescs.flatMap fun frame => (tried fps frame).map (⟨streamIf, format, frame, ·⟩)

/-- The interval of a frame gives the rate: it is listed and has it, or it is the one for the rate,
lies in the range and is a whole number of steps from its start. -/
def GivesRate (fps : Int32) (frame : FrameDesc) (interval : UInt32) : Prop :=
  if frame.intervals = [] then
    (interval.toNat : Int) = 10000000 / fps.toInt ∧
      frame.dwMinFrameInterval.toNat ≤ interval.toNat ∧
      interval.toNat ≤ frame.dwMaxFrameInterval.toNat ∧
      frame.dwFrameIntervalStep.toNat ∣ interval.toNat - frame.dwMinFrameInterval.toNat
  else ((10000000 / interval.toNat : Nat) : Int) = fps.toInt

/-- The mode is one that was asked for. -/
structure Mode.Matches (cf : FrameFormat) (width height fps : Int32) (m : Mode) : Prop where
  format : frameFormatMatchesGuid cf m.format.guidFormat = true
  width : (m.frame.wWidth.toNat : Int) = width.toInt
  height : (m.frame.wHeight.toNat : Int) = height.toInt
  rate : GivesRate fps m.frame m.interval

instance (fps : Int32) (frame : FrameDesc) (interval : UInt32) :
    Decidable (GivesRate fps frame interval) :=
  if h : frame.intervals = [] then decidable_of_iff
    ((interval.toNat : Int) = 10000000 / fps.toInt ∧
      frame.dwMinFrameInterval.toNat ≤ interval.toNat ∧
      interval.toNat ≤ frame.dwMaxFrameInterval.toNat ∧
      frame.dwFrameIntervalStep.toNat ∣ interval.toNat - frame.dwMinFrameInterval.toNat)
    (by rw [GivesRate, if_pos h])
  else decidable_of_iff (((10000000 / interval.toNat : Nat) : Int) = fps.toInt)
    (by rw [GivesRate, if_neg h])

instance (cf : FrameFormat) (width height fps : Int32) :
    DecidablePred (Mode.Matches cf width height fps) := fun m =>
  decidable_of_iff (frameFormatMatchesGuid cf m.format.guidFormat = true ∧
      (m.frame.wWidth.toNat : Int) = width.toInt ∧ (m.frame.wHeight.toNat : Int) = height.toInt ∧
      GivesRate fps m.frame m.interval)
    ⟨fun ⟨h1, h2, h3, h4⟩ => ⟨h1, h2, h3, h4⟩, fun h => ⟨h.1, h.2, h.3, h.4⟩⟩

theorem toInt_pos {fps : Int32} (h : 0 < fps) : (0 : Int) < fps.toInt := by
  simpa using Int32.lt_iff_toInt_lt.1 h

theorem toNat_toUInt32_of_pos {fps : Int32} (h : 0 < fps) :
    (fps.toUInt32.toNat : Int) = fps.toInt := by
  have hpos := toInt_pos h
  rw [Int32.toNat_toUInt32_of_le (Int32.le_of_lt h), Int32.toNatClampNeg]
  omega

/-- The signed division, and its conversion, are what they look like. -/
theorem toNat_rateInterval {fps : Int32} (h : 0 < fps) :
    ((rateInterval fps).toNat : Int) = 10000000 / fps.toInt := by
  have hpos := toInt_pos h
  have hdiv : (10000000 / fps : Int32).toInt = 10000000 / fps.toInt := by
    rw [Int32.toInt_div_of_ne_left _ _ (by decide)]
    exact Int.tdiv_eq_ediv_of_nonneg (by decide)
  have hquot : (0 : Int) ≤ 10000000 / fps.toInt := Int.ediv_nonneg (by decide) hpos.le
  have hnonneg : 0 ≤ (10000000 / fps : Int32) := by
    rw [Int32.le_iff_toInt_le, hdiv]
    exact hquot
  rw [rateInterval, Int32.toNat_toUInt32_of_le hnonneg, Int32.toNatClampNeg, hdiv]
  exact Int.toNat_of_nonneg hquot

/-- The tests of the code are the ones meant. -/
theorem takes_iff {fps : Int32} (h : 0 < fps) {frame : FrameDesc} {interval : UInt32}
    (hmem : interval ∈ tried fps frame) :
    Takes fps frame interval ↔ GivesRate fps frame interval := by
  rw [Takes, GivesRate]
  rw [tried] at hmem
  split
  · rename_i hnil
    rw [if_pos hnil] at hmem
    obtain rfl := List.mem_singleton.1 hmem
    rw [InRange, UInt32.le_iff_toNat_le, UInt32.le_iff_toNat_le, toNat_rateInterval h]
    simp only [true_and]
    refine and_congr_right fun hle => and_congr_right fun _ => ?_
    rw [← UInt32.toNat_inj, UInt32.toNat_mod, UInt32.toNat_sub_of_le _ _
      (UInt32.le_iff_toNat_le.2 hle), Nat.dvd_iff_mod_eq_zero]
    rfl
  · have hne : fps ≠ 0 := fun heq => absurd h (by rw [heq]; decide)
    rw [AtRate, or_iff_left hne, ← UInt32.toNat_inj, UInt32.toNat_div, ← Int.natCast_inj,
      toNat_toUInt32_of_pos h]
    rfl

section First

variable {cf : FrameFormat} {width height fps : Int32} {info : DeviceInfo}

theorem lookFrame_eq (hfps : 0 < fps) (streamIf : StreamingInterface) {format : FormatDesc}
    {frame : FrameDesc} (hguid : frameFormatMatchesGuid cf format.guidFormat = true)
    (hlisted : frame.Listed) (hdivides : Divides fps frame) :
    lookFrame width height fps streamIf format frame =
      .ok (((tried fps frame).map (⟨streamIf, format, frame, ·⟩ : UInt32 → Mode)).find?
        fun m => m.Matches cf width height fps) := by
  rw [lookFrame, List.find?_map]
  split
  · rename_i hsize
    rw [matchFrame_eq hlisted hdivides, ok_bind]
    refine congrArg (fun found => Except.ok (Option.map _ found)) ?_
    refine List.find?_congr fun interval hmem => ?_
    refine decide_eq_decide.2 ((takes_iff hfps hmem).trans ⟨fun h => ?_, fun h => h.rate⟩)
    exact ⟨hguid, hsize.1, hsize.2, h⟩
  · rename_i hsize
    refine congrArg Except.ok (Eq.symm ?_)
    rw [List.find?_eq_none.2 fun interval _ => ?_]
    · rfl
    · simp only [Function.comp_apply, decide_eq_true_eq]
      exact fun h => hsize ⟨h.width, h.height⟩

theorem lookFormat_eq (hfps : 0 < fps) (streamIf : StreamingInterface) {format : FormatDesc}
    (hlisted : ∀ frame ∈ format.frameDescs, frame.Listed)
    (hdivides : ∀ frame ∈ format.frameDescs, Divides fps frame) :
    lookFormat cf width height fps streamIf format =
      .ok ((format.frameDescs.flatMap fun frame =>
        (tried fps frame).map (⟨streamIf, format, frame, ·⟩ : UInt32 → Mode)).find?
          fun m => m.Matches cf width height fps) := by
  rw [lookFormat, List.find?_flatMap]
  cases hguid : frameFormatMatchesGuid cf format.guidFormat with
  | true =>
    rw [if_pos rfl]
    refine Eq.trans ?_ List.findSomeM?_pure
    exact findSomeM?_congr fun frame hmem =>
      lookFrame_eq hfps streamIf hguid (hlisted frame hmem) (hdivides frame hmem)
  | false =>
    refine congrArg Except.ok (List.findSome?_eq_none_iff.2 fun frame _ => ?_).symm
    refine List.find?_eq_none.2 fun m hm => ?_
    obtain ⟨interval, -, rfl⟩ := List.mem_map.1 hm
    simp only [decide_eq_true_eq]
    exact fun h => absurd (hguid.symm.trans h.format) (by decide)

/-- **The search finds the first mode that matches.** -/
theorem lookInterface_eq (hfps : 0 < fps) (hlisted : info.Listed)
    (hdivides : ∀ streamIf ∈ info.streamIfs, ∀ format ∈ streamIf.formatDescs,
      ∀ frame ∈ format.frameDescs, Divides fps frame) :
    info.streamIfs.findSomeM? (lookInterface cf width height fps) =
      .ok ((modes info fps).find? fun m => m.Matches cf width height fps) := by
  rw [modes, List.find?_flatMap]
  refine Eq.trans (findSomeM?_congr fun streamIf hs => ?_) List.findSomeM?_pure
  rw [lookInterface, List.find?_flatMap]
  refine Eq.trans (findSomeM?_congr fun format hformat => ?_) List.findSomeM?_pure
  exact lookFormat_eq hfps streamIf (hlisted streamIf hs format hformat)
    (hdivides streamIf hs format hformat)

end First

/-- **Mode selection picks the first match.**  For a device as it was parsed, a positive rate, and
steps that are not zero where a frame has a range of intervals: whatever the device does, the
function ends, and sends a block if and only if some mode matches.  It then negotiates a block with
the numbers of the first mode that does; if there is none, the mode is invalid and no block was sent
to the device. -/
theorem getStreamCtrlFormatSize_first {devDesc : Option DeviceDescriptor}
    {config : ConfigDescriptor} {scanned : Ret} {info : DeviceInfo}
    (hinfo : scanControl devDesc config {} = .ok (scanned, info)) (cf : FrameFormat)
    (width height : Int32) {fps : Int32} (hfps : 0 < fps)
    (hstep : ∀ streamIf ∈ info.streamIfs, ∀ format ∈ streamIf.formatDescs,
      ∀ frame ∈ format.frameDescs, frame.intervals = [] → 0 < frame.dwFrameIntervalStep)
    (bus : Bus) (ctrl : StreamCtrl) :
    ∃ ret c, getStreamCtrlFormatSize bus info cf width height fps ⟨ctrl, []⟩ = .ok (ret, c) ∧
      ((∃ request, .control request ∈ c.calls ∧ request.request = .setCur) ↔
        ∃ m ∈ modes info fps, m.Matches cf width height fps) ∧
      (∀ m, ((modes info fps).find? fun m => m.Matches cf width height fps) = some m →
        ∃ d : Caller, (ret, c) = d.probe bus info ∧ d.ctrl.bmHint = 1 ∧
          d.ctrl.bInterfaceNumber = m.streamIf.bInterfaceNumber ∧
          d.ctrl.bFormatIndex = m.format.bFormatIndex ∧
          d.ctrl.bFrameIndex = m.frame.bFrameIndex ∧ d.ctrl.dwFrameInterval = m.interval) ∧
      ((∀ m ∈ modes info fps, ¬ m.Matches cf width height fps) →
        ret = Ret.errorInvalidMode ∧
        ∀ request, .control request ∈ c.calls → request.request ≠ .setCur) := by
  have hne : fps ≠ 0 := fun heq => absurd hfps (by rw [heq]; decide)
  have hlook : info.streamIfs.findSomeM? (lookInterface cf width height fps) = _ :=
    lookInterface_eq hfps (scanControl_listed hinfo)
      fun streamIf hs format hformat frame hframe hnil => ⟨hne, fun _ _ =>
        (UInt32.ne_of_lt (hstep streamIf hs format hformat frame hframe hnil)).symm⟩
  have hsilent : (⟨ctrl, []⟩ : Caller).Silent := fun _ hmem => absurd hmem (by simp)
  have hsearch := findMode_searches cf width height fps bus info
  rw [getStreamCtrlFormatSize, findMode]
  cases hfind : (modes info fps).find? fun m => m.Matches cf width height fps with
  | none =>
    rw [hfind] at hlook
    obtain ⟨c, hc, hquiet⟩ := hsearch.exhausted hsilent hlook
    have hno : ∀ m ∈ modes info fps, ¬ m.Matches cf width height fps := by
      simpa using List.find?_eq_none.1 hfind
    rw [hc, ok_bind]
    refine ⟨_, _, rfl, ?_, ?_, fun _ => ⟨rfl, hquiet⟩⟩
    · refine iff_of_false ?_ ?_
      · rintro ⟨request, hmem, hset⟩
        exact hquiet request hmem hset
      · rintro ⟨m, hm, hmatches⟩
        exact hno m hm hmatches
    · intro m hm
      cases hm
  | some m =>
    rw [hfind] at hlook
    obtain ⟨d, hd, hholds⟩ := hsearch.stopped hsilent hlook
    have hm : m ∈ modes info fps := List.mem_of_find?_eq_some hfind
    have hmatches : m.Matches cf width height fps := by simpa using List.find?_some hfind
    rw [hd, ok_bind]
    refine ⟨_, _, rfl, ?_, ?_, fun hno => absurd hmatches (hno m hm)⟩
    · exact iff_of_true ⟨_, Caller.probe_sends, rfl⟩ ⟨m, hm, hmatches⟩
    · intro m' hm'
      obtain rfl := Option.some.inj hm'
      exact ⟨d, rfl, hholds.bmHint, hholds.bInterfaceNumber, hholds.bFormatIndex,
        hholds.bFrameIndex, hholds.dwFrameInterval⟩

/-- A YUYV format and a frame of 640x480, with a range of intervals. -/
def rangeBlocks (min max step : UInt32) : List UInt8 :=
  [27, 36, 4, 1, 1] ++ formatGuid .yuyv ++ [16, 1, 0, 0, 0, 0] ++
    [38, 36, 5, 1, 0] ++ shortToSw 640 ++ shortToSw 480 ++ intToDw 147456000 ++
    intToDw 147456000 ++ intToDw 614400 ++ intToDw 333333 ++ [0] ++ intToDw min ++ intToDw max ++
    intToDw step

/-- What is parsed of them. -/
def rangeInfo (min max step : UInt32) : DeviceInfo where
  ctrlIf := { bcdUVC := 0x0100 }
  streamIfs := [{
    bInterfaceNumber := 1
    formatDescs := [{
      bDescriptorSubtype := .formatUncompressed
      bFormatIndex := 1
      guidFormat := formatGuid .yuyv
      bBitsPerPixel := 16
      bDefaultFrameIndex := 1
      frameDescs := [{
        bDescriptorSubtype := .frameUncompressed
        bFrameIndex := 1
        wWidth := 640
        wHeight := 480
        dwMinBitRate := 147456000
        dwMaxBitRate := 147456000
        dwMaxVideoFrameBufferSize := 614400
        dwDefaultFrameInterval := 333333
        dwMinFrameInterval := min
        dwMaxFrameInterval := max
        dwFrameIntervalStep := step }] }] }]

/-- A camera that offers 10 to 30 frames a second is asked for 25 of them: the interval is 400000,
and 66667 steps of 1 from the smallest one. -/
theorem getStreamCtrlFormatSize_first_range :
    ∃ ret c, getStreamCtrlFormatSize ⟨fun _ _ => -6, fun _ _ => ⟨-1, []⟩⟩
      (rangeInfo 333333 1000000 1) .uncompressed 640 480 25 ⟨{}, []⟩ = .ok (ret, c) ∧
        ∃ request, .control request ∈ c.calls ∧ request.request = .setCur := by
  have hinfo : scanControl none (cameraWith (rangeBlocks 333333 1000000 1)) {} =
      .ok (0, rangeInfo 333333 1000000 1) := rfl
  have hfps : (0 : Int32) < 25 := by decide
  obtain ⟨ret, c, h, hset, -⟩ := getStreamCtrlFormatSize_first hinfo .uncompressed 640 480 hfps
    (by decide) ⟨fun _ _ => -6, fun _ _ => ⟨-1, []⟩⟩ {}
  exact ⟨ret, c, h, hset.2 (by decide)⟩

/-! ## Divisions -/

/-- The frames that a search for a size comes to, in order. -/
def candidates (info : DeviceInfo) (cf : FrameFormat) (width height : Int32) :
    List (StreamingInterface × FormatDesc × FrameDesc) :=
  info.streamIfs.flatMap fun streamIf =>
    (streamIf.formatDescs.filter fun format =>
      frameFormatMatchesGuid cf format.guidFormat).flatMap fun format =>
        (format.frameDescs.filter fun frame => HasSize width height frame).map
          fun frame => (streamIf, format, frame)

/-- The frame has an interval for the rate, so that a search ends there. -/
def Offers (fps : Int32) (frame : FrameDesc) : Prop :=
  ∃ interval ∈ tried fps frame, Takes fps frame interval

section Candidates

variable {cf : FrameFormat} {width height fps : Int32} {info : DeviceInfo}

/-- What the search makes of a candidate. -/
def lookCandidate (fps : Int32) (c : StreamingInterface × FormatDesc × FrameDesc) :
    Checked (Option Mode) := do
  let found ← matchFrame fps c.2.2
  return found.map (⟨c.1, c.2.1, c.2.2, ·⟩)

/-- The nested loops are one loop over the candidates. -/
theorem lookInterface_candidates :
    info.streamIfs.findSomeM? (lookInterface cf width height fps) =
      (candidates info cf width height).findSomeM? (lookCandidate fps) := by
  rw [candidates, findSomeM?_flatMap]
  refine findSomeM?_congr fun streamIf _ => ?_
  rw [lookInterface, findSomeM?_flatMap, findSomeM?_filter]
  refine findSomeM?_congr fun format _ => ?_
  rw [lookFormat]
  split
  · rw [findSomeM?_map, findSomeM?_filter]
    refine findSomeM?_congr fun frame _ => ?_
    rw [lookFrame]
    simp only [decide_eq_true_eq]
    rfl
  · rfl

/-- The candidates are frames of the device. -/
theorem listed_of_candidate (h : info.Listed) {c : StreamingInterface × FormatDesc × FrameDesc}
    (hc : c ∈ candidates info cf width height) : c.2.2.Listed := by
  obtain ⟨streamIf, hs, hc⟩ := List.mem_flatMap.1 hc
  obtain ⟨format, hformat, hc⟩ := List.mem_flatMap.1 hc
  obtain ⟨frame, hframe, rfl⟩ := List.mem_map.1 hc
  exact h streamIf hs format (List.mem_filter.1 hformat).1 frame (List.mem_filter.1 hframe).1

theorem lookCandidate_eq_none {c : StreamingInterface × FormatDesc × FrameDesc}
    (hlisted : c.2.2.Listed) (h : Divides fps c.2.2) :
    lookCandidate fps c = .ok none ↔ ¬ Offers fps c.2.2 := by
  rw [lookCandidate, matchFrame_eq hlisted h, ok_bind, Offers]
  constructor
  · intro heq
    have hnone := Option.map_eq_none_iff.1 (Except.ok.inj heq)
    simpa using List.find?_eq_none.1 hnone
  · intro hno
    refine congrArg Except.ok (Option.map_eq_none_iff.2 (List.find?_eq_none.2 ?_))
    simpa using hno

/-- **When the search divides by no zero**: each candidate that it comes to, with no offer in front
of it, is one whose divisors are not zero. -/
theorem lookInterface_safe (h : info.Listed) :
    Safe (info.streamIfs.findSomeM? (lookInterface cf width height fps)) ↔
      ∀ c, Reached (fun b => ¬ Offers fps b.2.2) (candidates info cf width height) c →
        Divides fps c.2.2 := by
  rw [lookInterface_candidates]
  refine safe_findSomeM? (fun c hc => ?_) fun c hc =>
    lookCandidate_eq_none (listed_of_candidate h hc)
  rw [lookCandidate, safe_bind_iff (P := True) fun _ => by simp, and_true]
  exact matchFrame_safe (listed_of_candidate h hc)

end Candidates

/-- **When intervals are divided by no zero.**  For a device as it was parsed and any request, the
selection of a mode and both printers get through if and only if two things hold.  No frame that the
search comes to, with no offer in front of it, has a range of intervals and is asked for a rate of
zero, or for an interval inside the range without there being a step.  And in a device that is
printed, the default interval is not zero, nor either end of a range. -/
theorem intervals_divide_iff {devDesc : Option DeviceDescriptor} {config : ConfigDescriptor}
    {scanned : Ret} {info : DeviceInfo}
    (hinfo : scanControl devDesc config {} = .ok (scanned, info)) (cf : FrameFormat)
    (width height fps : Int32) (bus : Bus) (ctrl : StreamCtrl) :
    (Safe (getStreamCtrlFormatSize bus info cf width height fps ⟨ctrl, []⟩) ∧
        Safe (printDiag info) ∧ Safe (printFrameformats info)) ↔
      (∀ c, Reached (fun b => ¬ Offers fps b.2.2) (candidates info cf width height) c →
        Divides fps c.2.2) ∧ info.HasRates := by
  have hlisted := scanControl_listed hinfo
  have hsilent : (⟨ctrl, []⟩ : Caller).Silent := fun _ hmem => absurd hmem (by simp)
  have hfind := findMode_searches cf width height fps bus info
  rw [printDiag_safe hlisted, printFrameformats_safe hlisted, and_self,
    ← lookInterface_safe hlisted, ← hfind.safe_iff hsilent]
  refine and_congr_left fun _ => ?_
  rw [getStreamCtrlFormatSize, findMode, safe_bind_iff (P := True), and_true]
  rintro ⟨found, c⟩
  simp only []
  split
  · simp
  · simp

/-- A range whose ends and whose step are as they should be. -/
theorem intervals_divide_range :
    Safe (getStreamCtrlFormatSize ⟨fun _ _ => 0, fun _ _ => ⟨-1, []⟩⟩ (rangeInfo 333333 1000000 1)
      .unknown 640 480 25 ⟨{}, []⟩) := by
  have hinfo : scanControl none (cameraWith (rangeBlocks 333333 1000000 1)) {} =
      .ok (0, rangeInfo 333333 1000000 1) := rfl
  refine ((intervals_divide_iff hinfo .unknown 640 480 25 _ _).2 ⟨?_, by decide⟩).1
  intro c hc
  have hall : ∀ c ∈ candidates (rangeInfo 333333 1000000 1) .unknown 640 480,
      Divides 25 c.2.2 := by decide
  exact hall c hc.mem

/-- The range of a camera starts at zero and has no step.  A request for the first rate available, a
request for 30 frames a second, and both printers end in a division by zero. -/
theorem intervals_divided_by_zero :
    scanControl none (cameraWith (rangeBlocks 0 1000000 0)) {} =
        .ok (Ret.success, rangeInfo 0 1000000 0) ∧
      (∀ fps ∈ [(0 : Int32), 30], getStreamCtrlFormatSize ⟨fun _ _ => 0, fun _ _ => ⟨-1, []⟩⟩
        (rangeInfo 0 1000000 0) .uncompressed 640 480 fps ⟨{}, []⟩ = .error .divisionByZero) ∧
      printDiag (rangeInfo 0 1000000 0) = .error .divisionByZero ∧
      printFrameformats (rangeInfo 0 1000000 0) = .error .divisionByZero := by
  refine ⟨rfl, ?_, rfl, rfl⟩
  intro fps hfps
  simp only [List.mem_cons, List.not_mem_nil, or_false] at hfps
  rcases hfps with rfl | rfl
  · rfl
  · rfl

end Stream
end LibUvc
