import LibUvc.Descriptor.Numbers

/-!
# Printing a tree

`uvc_print_diag` and `uvc_print_frameformats` walk the whole tree and print what they find there.
An interval is printed as a rate, which is a division by the interval, so the printers are only as
safe as the numbers in the tree.

* `scanControl_listed` is about the tree: whatever the device sent, the intervals of each frame are
  a range, or a list of non-zero values with a zero behind it.
* `printDiag` and `printFrameformats` are the printers.  What they print is a list of lines, each
  with the values that go into it; the texts around the values, and the lines about the device as
  such with which `uvc_print_diag` starts, are left out.
* `printDiag_safe` and `printFrameformats_safe` say when the printers divide by no zero.
-/

set_option autoImplicit false

namespace LibUvc
namespace Descriptor

open Checked Scan

/-! ## The intervals of a whole tree -/

/-- Every frame of the interface has its intervals as it announces them. -/
def StreamingInterface.Listed (s : StreamingInterface) : Prop :=
  ∀ format ∈ s.formatDescs, ∀ frame ∈ format.frameDescs, frame.Listed

/-- Every frame of the device has its intervals as it announces them. -/
def DeviceInfo.Listed (info : DeviceInfo) : Prop := ∀ s ∈ info.streamIfs, s.Listed

/-- A change to the last format. -/
theorem listed_setLastFormat {s : StreamingInterface} {format format' : FormatDesc} (hs : s.Listed)
    (hlast : lastFormat s = .ok format)
    (h : ∀ frame ∈ format'.frameDescs, frame ∈ format.frameDescs ∨ frame.Listed) :
    (s.setLastFormat format').Listed := by
  have hformat : format ∈ s.formatDescs := by
    rw [formatDescs_of_lastFormat hlast]
    simp
  intro other hother frame hframe
  rcases List.mem_append.1 hother with hmem | hmem
  · exact hs other (List.dropLast_subset _ hmem) frame hframe
  · obtain rfl := List.mem_singleton.1 hmem
    rcases h frame hframe with hold | hnew
    · exact hs format hformat frame hold
    · exact hnew

theorem VsEffect.listed {block : List UInt8} {s t : StreamingInterface} {r : Ret}
    (h : VsEffect block s r t) (hs : s.Listed) : t.Listed := by
  cases h with
  | ignored | header | refused => exact hs
  | format format _ _ hframes _ =>
    intro other hother frame hframe
    rcases List.mem_append.1 hother with hmem | hmem
    · exact hs other hmem frame hframe
    · obtain rfl := List.mem_singleton.1 hmem
      rw [hframes] at hframe
      cases hframe
  | frame format frame _ hlast hlisted =>
    refine listed_setLastFormat hs hlast fun other hother => ?_
    rcases List.mem_append.1 hother with hmem | hmem
    · exact Or.inl hmem
    · exact Or.inr (List.mem_singleton.1 hmem ▸ hlisted)
  | still format _ _ hlast => exact listed_setLastFormat hs hlast fun _ => Or.inl

theorem scanStreaming_listed {config : ConfigDescriptor} {info : DeviceInfo} {interfaceIdx : Nat}
    (hinfo : info.Listed) : Post (scanStreaming config info interfaceIdx) fun p => p.2.Listed := by
  rw [scanStreaming, scanStreamingIn]
  split
  · exact post_pure hinfo
  refine post_bind fun interface _ => ?_
  split
  · exact post_pure hinfo
  refine post_bind fun ifDesc _ => post_bind fun p hp => post_pure ?_
  have hnew : p.2.Listed :=
    post_scan (by decide) (fun s b hs q hq => (parseVs_effect s b.bytes b.size q hq).listed hs)
      ifDesc.extra (fun _ hformat => absurd hformat (by simp)) p hp
  intro s hs
  rcases List.mem_append.1 hs with hmem | hmem
  · exact hinfo s hmem
  · exact List.mem_singleton.1 hmem ▸ hnew

theorem parseVcHeader_listed {config : ConfigDescriptor} {info : DeviceInfo} {block : List UInt8}
    {size : Nat} (hinfo : info.Listed) :
    Post (parseVcHeader .extra config info block size) fun p => p.2.Listed := by
  refine post_bind fun _ _ => ?_
  simp only []
  split
  · refine post_bind fun _ _ => post_forEach ?_ _ ?_
    · intro i _ hi
      exact post_bind fun _ _ => scanStreaming_listed hi
    · exact hinfo
  · exact post_pure hinfo

theorem KeepsStreams.listed {info : DeviceInfo} {p : Ret × DeviceInfo} (h : KeepsStreams info p)
    (hinfo : info.Listed) : p.2.Listed := by
  rw [DeviceInfo.Listed, h.2]
  exact hinfo

theorem parseVc_listed {config : ConfigDescriptor} {info : DeviceInfo} {block : List UInt8}
    {size : Nat} (hinfo : info.Listed) :
    Post (parseVc .extra config info block size) fun p => p.2.Listed := by
  refine post_bind fun bDescriptorType _ => ?_
  split
  · exact post_pure hinfo
  refine post_bind fun descriptorSubtype _ => ?_
  cases VcSubtype.ofByte descriptorSubtype with
  | header => exact parseVcHeader_listed hinfo
  | inputTerminal => exact fun p hp => (parseVcInputTerminal_keeps info block p hp).listed hinfo
  | selectorUnit => exact fun p hp => (parseVcSelectorUnit_keeps info block p hp).listed hinfo
  | processingUnit => exact fun p hp => (parseVcProcessingUnit_keeps info block p hp).listed hinfo
  | extensionUnit => exact fun p hp => (parseVcExtensionUnit_keeps info block p hp).listed hinfo
  | outputTerminal | other => exact post_pure hinfo

/-- **The intervals of a parsed tree**: whatever the device sent, every frame has its intervals as
it announces them. -/
theorem scanControl_listed {devDesc : Option DeviceDescriptor} {config : ConfigDescriptor}
    {ret : Ret} {info : DeviceInfo} (h : scanControl devDesc config {} = .ok (ret, info)) :
    info.Listed := by
  have hempty : ({} : DeviceInfo).Listed := fun _ hs => absurd hs (by simp)
  have hpost : Post (scanControl devDesc config {}) fun p => p.2.Listed := by
    refine post_bind fun found _ => ?_
    cases found with
    | none => exact post_pure hempty
    | some at_ =>
      refine post_scan (by decide) (fun i b hi => parseVc_listed hi) _ ?_
      exact hempty
  exact hpost _ h

/-- A frame of a parsed tree: an empty list of intervals, or a walk that ends at a zero. -/
theorem FrameDesc.Listed.intervals_eq {frame : FrameDesc} (h : frame.Listed) :
    frame.intervals = [] ∨ frame.intervals = frame.walk ++ [0] ∧ ∀ v ∈ frame.walk, v ≠ 0 := by
  rw [FrameDesc.Listed] at h
  split at h
  · exact Or.inl h
  · obtain ⟨values, heq, -, hne⟩ := h
    rw [walk_eq heq hne]
    exact Or.inr ⟨heq, hne⟩

/-! ## The printers -/

/-- A line of output, with the values that go into it. -/
inductive Line where
  | notConfigured
  | streaming (streamIdx : Nat) (bEndpointAddress : UInt8)
  | format (bDescriptorSubtype : VsSubtype) (bFormatIndex bBitsPerPixel : UInt8)
      (guidFormat : List UInt8) (bDefaultFrameIndex bAspectRatioX bAspectRatioY bmInterlaceFlags
        bCopyProtect : UInt8)
  | unknownFormat (bDescriptorSubtype : VsSubtype)
  | frame (bFrameIndex bmCapabilities : UInt8) (wWidth wHeight : UInt16)
      (dwMinBitRate dwMaxBitRate dwMaxVideoFrameBufferSize defaultRate : UInt32)
  | interval (idx : Nat) (rate : UInt32)
  | range (dwMinFrameInterval minRate dwMaxFrameInterval maxRate : UInt32)
  | step (dwFrameIntervalStep rate : UInt32)
  | stillFrame (bEndPointAddress : UInt8)
  | sizePattern (pattern : StillFrameRes)
  deriving DecidableEq, Repr

/-- `for (interval_ptr = frame_desc->intervals; *interval_ptr; ++interval_ptr)`. -/
def printIntervals : Nat → List UInt32 → Checked (List Line)
  | _, [] => .error .outOfBounds
  | idx, interval :: rest =>
    if interval = 0 then return []
    else do
      let rate ← divide 10000000 interval
      let lines ← printIntervals (idx + 1) rest
      return .interval idx rate :: lines

/-- The range of a frame that has no list of intervals. -/
def printRange (frame : FrameDesc) : Checked (List Line) := do
  let minRate ← divide 10000000 frame.dwMinFrameInterval
  let maxRate ← divide 10000000 frame.dwMaxFrameInterval
  let range := Line.range frame.dwMinFrameInterval minRate frame.dwMaxFrameInterval maxRate
  if frame.dwFrameIntervalStep ≠ 0 then
    let rate ← divide 10000000 frame.dwFrameIntervalStep
    return [range, .step frame.dwFrameIntervalStep rate]
  else return [range]

/-- The lines behind the heading of a frame. -/
def printRates (frame : FrameDesc) : Checked (List Line) :=
  if frame.intervals ≠ [] then printIntervals 0 frame.intervals else printRange frame

/-- What both printers do with a frame. -/
def printFrame (frame : FrameDesc) : Checked (List Line) := do
  let defaultRate ← divide 10000000 frame.dwDefaultFrameInterval
  let lines ← printRates frame
  return .frame frame.bFrameIndex frame.bmCapabilities frame.wWidth frame.wHeight frame.dwMinBitRate
    frame.dwMaxBitRate frame.dwMaxVideoFrameBufferSize defaultRate :: lines

/-- The cases of the `switch` over `fmt_desc->bDescriptorSubtype`. -/
def VsSubtype.printed (subtype : VsSubtype) : Bool :=
  match subtype with
  | .formatUncompressed | .formatMjpeg | .formatFrameBased => true
  | _ => false

/-- What both printers do with a format; `still` is what comes behind its frames. -/
def printFormat (still : FormatDesc → List Line) (format : FormatDesc) : Checked (List Line) :=
  if format.bDescriptorSubtype.printed then do
    let frames ← collect printFrame format.frameDescs
    return .format format.bDescriptorSubtype format.bFormatIndex format.bBitsPerPixel
      format.guidFormat format.bDefaultFrameIndex format.bAspectRatioX format.bAspectRatioY
      format.bmInterlaceFlags format.bCopyProtect :: frames ++ still format
  else return [.unknownFormat format.bDescriptorSubtype]

/-- The still images of a format, which only `uvc_print_diag` prints. -/
def printStillFrames (format : FormatDesc) : List Line :=
  format.stillFrameDesc.flatMap fun still =>
    .stillFrame still.bEndPointAddress :: still.imageSizePatterns.map .sizePattern

/-- What `uvc_print_diag` prints of a streaming interface; `idx` is counted from 0. -/
def printInterface (streamIf : StreamingInterface) (idx : Nat) : Checked (List Line) := do
  let formats ← collect (printFormat printStillFrames) streamIf.formatDescs
  return .streaming (idx + 1) streamIf.bEndpointAddress :: formats

/-- `uvc_print_diag`. -/
def printDiag (info : DeviceInfo) : Checked (List Line) :=
  if info.ctrlIf.bcdUVC ≠ 0 then
    collect (fun p => printInterface p.1 p.2) info.streamIfs.zipIdx
  else return [.notConfigured]

/-- `uvc_print_frameformats`. -/
def printFrameformats (info : DeviceInfo) : Checked (List Line) :=
  if info.ctrlIf.bcdUVC ≠ 0 then
    collect (fun streamIf => collect (printFormat fun _ => []) streamIf.formatDescs) info.streamIfs
  else return [.notConfigured]

/-! ## When they divide by no zero -/

/-- The numbers that are printed as rates are not zero. -/
def FrameDesc.HasRates (frame : FrameDesc) : Prop :=
  frame.dwDefaultFrameInterval ≠ 0 ∧
    (frame.intervals = [] → frame.dwMinFrameInterval ≠ 0 ∧ frame.dwMaxFrameInterval ≠ 0)

instance (frame : FrameDesc) : Decidable frame.HasRates := inferInstanceAs (Decidable (_ ∧ _))

/-- The device is printed as not configured, or every frame of the formats that are printed has
rates. -/
def DeviceInfo.HasRates (info : DeviceInfo) : Prop :=
  info.ctrlIf.bcdUVC ≠ 0 → ∀ streamIf ∈ info.streamIfs, ∀ format ∈ streamIf.formatDescs,
    format.bDescriptorSubtype.printed = true → ∀ frame ∈ format.frameDescs, frame.HasRates

instance (info : DeviceInfo) : Decidable info.HasRates := inferInstanceAs (Decidable (_ → _))

/-- The step is printed only when there is one. -/
theorem printRange_safe {frame : FrameDesc} :
    Safe (printRange frame) ↔ frame.dwMinFrameInterval ≠ 0 ∧ frame.dwMaxFrameInterval ≠ 0 := by
  rw [printRange, safe_bind_divide, safe_bind_divide, ← and_assoc]
  simp only []
  refine and_iff_left ?_
  split
  · rename_i hstep
    rw [safe_bind_divide]
    exact ⟨hstep, safe_pure _⟩
  · exact safe_pure _

theorem printIntervals_safe {values : List UInt32} (h : ∀ v ∈ values, v ≠ 0) (idx : Nat) :
    Safe (printIntervals idx (values ++ [0])) := by
  induction values generalizing idx with
  | nil => exact safe_pure _
  | cons v values ih =>
    obtain ⟨hv, hvalues⟩ := List.forall_mem_cons.1 h
    rw [List.cons_append, printIntervals, if_neg hv, safe_bind_divide,
      safe_bind_iff (P := True) fun _ => by simp]
    exact ⟨hv, ih hvalues _, trivial⟩

theorem printFrame_safe {frame : FrameDesc} (h : frame.Listed) :
    Safe (printFrame frame) ↔ frame.HasRates := by
  rw [printFrame, safe_bind_divide, safe_bind_iff (P := True) fun _ => by simp, and_true,
    FrameDesc.HasRates, printRates]
  refine and_congr_right fun _ => ?_
  rcases h.intervals_eq with hnil | ⟨heq, hne⟩
  · rw [if_neg (not_not.2 hnil), printRange_safe]
    exact ⟨fun hsafe _ => hsafe, fun hsafe => hsafe hnil⟩
  · have hcons : frame.intervals ≠ [] := by rw [heq]; simp
    rw [if_pos hcons]
    exact iff_of_true (heq ▸ printIntervals_safe hne 0) fun hnil => absurd hnil hcons

theorem printFormat_safe {still : FormatDesc → List Line} {format : FormatDesc}
    (h : ∀ frame ∈ format.frameDescs, frame.Listed) :
    Safe (printFormat still format) ↔ (format.bDescriptorSubtype.printed = true →
      ∀ frame ∈ format.frameDescs, frame.HasRates) := by
  rw [printFormat]
  split
  · rename_i hprinted
    rw [safe_bind_iff (P := True) fun _ => by simp, and_true, safe_collect]
    simp only [hprinted, true_imp_iff]
    exact forall₂_congr fun frame hframe => printFrame_safe (h frame hframe)
  · rename_i hprinted
    exact iff_of_true (safe_pure _) fun hp => absurd hp hprinted

/-- The formats of an interface. -/
theorem printFormats_safe {still : FormatDesc → List Line} {streamIf : StreamingInterface}
    (h : streamIf.Listed) : Safe (collect (printFormat still) streamIf.formatDescs) ↔
      ∀ format ∈ streamIf.formatDescs, format.bDescriptorSubtype.printed = true →
        ∀ frame ∈ format.frameDescs, frame.HasRates := by
  rw [safe_collect]
  exact forall₂_congr fun format hformat => printFormat_safe (h format hformat)

/-- **When `uvc_print_frameformats` divides by no zero.** -/
theorem printFrameformats_safe {info : DeviceInfo} (h : info.Listed) :
    Safe (printFrameformats info) ↔ info.HasRates := by
  rw [printFrameformats, DeviceInfo.HasRates]
  split
  · rename_i hbcd
    rw [safe_collect]
    simp only [ne_eq, hbcd, not_false_eq_true, true_imp_iff]
    exact forall₂_congr fun streamIf hs => printFormats_safe (h streamIf hs)
  · rename_i hbcd
    exact iff_of_true (safe_pure _) fun hne => absurd hne hbcd

theorem printInterface_safe {streamIf : StreamingInterface} {idx : Nat} :
    Safe (printInterface streamIf idx) ↔
      Safe (collect (printFormat printStillFrames) streamIf.formatDescs) := by
  rw [printInterface, safe_bind_iff (P := True) fun _ => by simp, and_true]

/-- **When `uvc_print_diag` divides by no zero.** -/
theorem printDiag_safe {info : DeviceInfo} (h : info.Listed) :
    Safe (printDiag info) ↔ info.HasRates := by
  rw [printDiag, DeviceInfo.HasRates]
  split
  · rename_i hbcd
    rw [safe_collect]
    simp only [printInterface_safe, ne_eq, hbcd, not_false_eq_true, true_imp_iff]
    -- the counter plays no part in it
    rw [← List.forall_mem_map (f := Prod.fst) (P := fun streamIf : StreamingInterface =>
      Safe (collect (printFormat printStillFrames) streamIf.formatDescs)), List.zipIdx_map_fst]
    exact forall₂_congr fun streamIf hs => printFormats_safe (h streamIf hs)
  · rename_i hbcd
    exact iff_of_true (safe_pure _) fun hne => absurd hne hbcd

end Descriptor
end LibUvc
