import LibUvc.Stream.Reuse

/-!
# Frames that user code holds

`uvc_frame_t` is also what users allocate, copy and convert images with.  Such a frame is either the
library's, which may then allocate its buffer anew whenever the size is wrong, or it has a buffer of
the user's, which the library must not touch except to fill it.

* `ensureFrameSize` is the question all of these functions ask first, with `realloc` as a parameter
  that may fail.
* `duplicateFrame` copies a frame.  `metadataOwn_iff` is about the metadata of copies and of frames
  from a stream, which is left alone when there is none to copy, so that it may be that of an
  earlier frame.
-/

set_option autoImplicit false

namespace LibUvc
namespace Image

open Checked Rounds

/-! ## The record -/

/-- `uvc_frame_t`. -/
structure Frame where
  /-- The buffer, or the null pointer. -/
  data : Option (List UInt8) := none
  dataBytes : Nat := 0
  width : UInt32 := 0
  height : UInt32 := 0
  frameFormat : FrameFormat := .unknown
  step : Nat := 0
  sequence : UInt32 := 0
  /-- `struct timeval`. -/
  captureTime : Int × Int := (0, 0)
  /-- `struct timespec`. -/
  captureTimeFinished : Int × Int := (0, 0)
  /-- The handle that the image comes from, by its address. -/
  source : Nat := 0
  libraryOwnsData : Bool := true
  metadata : Option (List UInt8) := none
  metadataBytes : Nat := 0
  deriving DecidableEq, Repr

/-- What `data` points to.  There are no bytes behind a null pointer, so following it is an access
out of bounds like any other. -/
def Frame.bytes (frame : Frame) : List UInt8 := frame.data.getD []

/-- What `metadata` points to. -/
def Frame.metadataBuffer (frame : Frame) : List UInt8 := frame.metadata.getD []

/-- `realloc`.  It may fail; if it does not, the block has the size asked for.  What it keeps of the
old block is not used. -/
structure Allocator where
  realloc : Option (List UInt8) → Nat → Option (List UInt8)
  length_realloc : ∀ {old size new}, realloc old size = some new → new.length = size

/-- There is memory for every request. -/
def Allocator.Serves (alloc : Allocator) : Prop :=
  ∀ old size, ∃ new, alloc.realloc old size = some new

/-- An allocator that never fails, and clears what it hands out. -/
def Allocator.zeroed : Allocator where
  realloc _ size := some (List.replicate size 0)
  length_realloc h := by rw [← Option.some.inj h, List.length_replicate]

theorem zeroed_serves : Allocator.zeroed.Serves := fun _ _ => ⟨_, rfl⟩

/-! ## Sizes -/

/-- `uvc_ensure_frame_size`. -/
def ensureFrameSize (alloc : Allocator) (frame : Frame) (needBytes : Nat) : Ret × Frame :=
  if frame.libraryOwnsData then
    let frame := if frame.data = none ∨ frame.dataBytes ≠ needBytes then
      { frame with dataBytes := needBytes, data := alloc.realloc frame.data needBytes }
      else frame
    if frame.data = none then (Ret.errorNoMem, frame) else (Ret.success, frame)
  else
    if frame.data = none ∨ frame.dataBytes < needBytes then (Ret.errorNoMem, frame)
    else (Ret.success, frame)

/-- The size of the buffer that `ensureFrameSize` leaves, when it succeeds. -/
def Frame.ensuredBytes (frame : Frame) (needBytes : Nat) : Nat :=
  if frame.libraryOwnsData then needBytes else frame.dataBytes

/-- The buffer is as large as the record says. -/
def Frame.Exact (frame : Frame) : Prop :=
  ∀ data, frame.data = some data → data.length = frame.dataBytes

/-- Either there is no memory, or there is a buffer of the size asked for, or a large enough one of
the user's, and nothing but the buffer and its size has changed. -/
theorem ensureFrameSize_cases (alloc : Allocator) {frame : Frame} (hexact : frame.Exact)
    (needBytes : Nat) :
    ((ensureFrameSize alloc frame needBytes).1 = Ret.errorNoMem ∧
      (frame.libraryOwnsData = true → alloc.realloc frame.data needBytes = none)) ∨
    ∃ data, ensureFrameSize alloc frame needBytes = (Ret.success, { frame with
        data := some data, dataBytes := frame.ensuredBytes needBytes }) ∧
      data.length = frame.ensuredBytes needBytes ∧ needBytes ≤ frame.ensuredBytes needBytes := by
  rw [ensureFrameSize, Frame.ensuredBytes]
  by_cases howned : frame.libraryOwnsData
  · simp only [if_pos howned]
    by_cases hgrow : frame.data = none ∨ frame.dataBytes ≠ needBytes
    · simp only [if_pos hgrow]
      cases hnew : alloc.realloc frame.data needBytes with
      | none => exact Or.inl ⟨rfl, fun _ => rfl⟩
      | some new =>
        exact Or.inr ⟨new, by rw [if_neg (by simp)], alloc.length_realloc hnew, le_refl _⟩
    · simp only [if_neg hgrow]
      rw [not_or, not_ne_iff] at hgrow
      obtain ⟨hdata, rfl⟩ := hgrow
      obtain ⟨data, hdata⟩ := Option.ne_none_iff_exists'.1 hdata
      refine Or.inr ⟨data, ?_, hexact data hdata, le_refl _⟩
      rw [if_neg (by rw [hdata]; simp), ← hdata]
  · simp only [if_neg howned]
    by_cases hsmall : frame.data = none ∨ frame.dataBytes < needBytes
    · rw [if_pos hsmall]
      exact Or.inl ⟨rfl, fun h => absurd h howned⟩
    · rw [if_neg hsmall]
      rw [not_or, not_lt] at hsmall
      obtain ⟨hdata, hle⟩ := hsmall
      obtain ⟨data, hdata⟩ := Option.ne_none_iff_exists'.1 hdata
      exact Or.inr ⟨data, by rw [← hdata], hexact data hdata, hle⟩

theorem ensureFrameSize_dataBytes {alloc : Allocator} {frame : Frame} (hexact : frame.Exact)
    {needBytes : Nat} (h : (ensureFrameSize alloc frame needBytes).1 = Ret.success) :
    (ensureFrameSize alloc frame needBytes).2.dataBytes = frame.ensuredBytes needBytes := by
  rcases ensureFrameSize_cases alloc hexact needBytes with ⟨hfail, -⟩ | ⟨data, hdata, -⟩
  · exact absurd (h.symm.trans hfail) (by decide)
  · rw [hdata]

/-- An allocator that serves every request makes it succeed on a frame of the library's. -/
theorem ensureFrameSize_serves {alloc : Allocator} (halloc : alloc.Serves) {frame : Frame}
    (hexact : frame.Exact) (howned : frame.libraryOwnsData = true) (needBytes : Nat) :
    ∃ data, ensureFrameSize alloc frame needBytes = (Ret.success, { frame with
        data := some data, dataBytes := needBytes }) ∧ data.length = needBytes := by
  have hbytes : frame.ensuredBytes needBytes = needBytes := if_pos howned
  rcases ensureFrameSize_cases alloc hexact needBytes with ⟨-, hfail⟩ | ⟨data, hdata, hlen, -⟩
  · obtain ⟨new, hnew⟩ := halloc frame.data needBytes
    exact absurd (hfail howned) (by rw [hnew]; simp)
  · rw [hbytes] at hdata hlen
    exact ⟨data, hdata, hlen⟩

/-! ## `uvc_duplicate_frame` -/

/-- The fields that a copy or a conversion takes over as they are. -/
def Frame.describe (out frame : Frame) : Frame := { out with
  width := frame.width
  height := frame.height
  sequence := frame.sequence
  captureTime := frame.captureTime
  captureTimeFinished := frame.captureTimeFinished
  source := frame.source }

/-- The end of `uvc_duplicate_frame`.  The metadata is copied if there is any, to a buffer that
grows if its last size was smaller; whether `realloc` has failed is not tested. -/
def Frame.copyMetadata (alloc : Allocator) (out frame : Frame) : Checked Frame :=
  if frame.metadata ≠ none ∧ frame.metadataBytes > 0 then do
    let buffer := if out.metadataBytes < frame.metadataBytes then
      alloc.realloc out.metadata frame.metadataBytes else out.metadata
    let bytes ← slice frame.metadataBuffer 0 frame.metadataBytes
    let metadata ← blit (buffer.getD []) 0 bytes
    return { out with metadata := some metadata, metadataBytes := frame.metadataBytes }
  else return out

/-- The image data is copied. -/
def Frame.copyData (out frame : Frame) : Checked Frame := do
  let bytes ← slice frame.bytes 0 frame.dataBytes
  let data ← blit out.bytes 0 bytes
  return { out with data := some data }

/-- `uvc_duplicate_frame`. -/
def duplicateFrame (alloc : Allocator) (frame out : Frame) : Checked (Ret × Frame) := do
  let (ret, out) := ensureFrameSize alloc out frame.dataBytes
  if ret < 0 then return (Ret.errorNoMem, out)
  let out := { out.describe frame with frameFormat := frame.frameFormat, step := frame.step }
  let out ← out.copyData frame
  let out ← out.copyMetadata alloc frame
  return (Ret.success, out)

/-! ## Whose metadata it is -/

/-- The metadata that the record shows. -/
def Frame.shownMetadata (frame : Frame) : List UInt8 :=
  frame.metadataBuffer.take frame.metadataBytes

/-- The size and the bytes of it. -/
def Frame.metadataShown (frame : Frame) : Nat × List UInt8 :=
  (frame.metadataBytes, frame.shownMetadata)

/-- A frame that can be copied: its buffers are at least as large as the record says. -/
structure Frame.Sized (frame : Frame) : Prop where
  data : frame.dataBytes ≤ frame.bytes.length
  metadata : frame.metadataBytes ≤ frame.metadataBuffer.length

/-- A frame of the library's that can be copied to, again and again. -/
structure Frame.Reusable (frame : Frame) : Prop where
  owned : frame.libraryOwnsData = true
  exact : frame.Exact
  metadata : frame.metadataBytes ≤ frame.metadataBuffer.length

theorem length_shownMetadata {frame : Frame}
    (h : frame.metadataBytes ≤ frame.metadataBuffer.length) :
    frame.shownMetadata.length = frame.metadataBytes := by
  rw [Frame.shownMetadata, List.length_take, Nat.min_eq_left h]

theorem metadataShown_eq {frame : Frame}
    (h : frame.metadataBytes ≤ frame.metadataBuffer.length) :
    frame.metadataShown = Stream.sizedBytes frame.shownMetadata := by
  rw [Frame.metadataShown, Stream.sizedBytes, length_shownMetadata h]

/-- The metadata of the frame, or what was there. -/
theorem copyMetadata_ok {alloc : Allocator} (halloc : alloc.Serves) (out : Frame) {frame : Frame}
    (hout : out.metadataBytes ≤ out.metadataBuffer.length)
    (hframe : frame.metadataBytes ≤ frame.metadataBuffer.length) :
    ∃ metadata metadataBytes, out.copyMetadata alloc frame =
        .ok { out with metadata := metadata, metadataBytes := metadataBytes } ∧
      metadataBytes ≤ (metadata.getD []).length ∧
      (metadata.getD []).take metadataBytes =
        overwrite out.shownMetadata frame.shownMetadata := by
  have hlen := length_shownMetadata hframe
  rw [Frame.copyMetadata]
  split
  · rename_i hsome
    have hne : frame.shownMetadata ≠ [] := by
      rw [← List.length_pos_iff, hlen]
      exact hsome.2
    -- the buffer is large enough: it has grown, or was before
    have hroom : frame.metadataBytes ≤ ((if out.metadataBytes < frame.metadataBytes then
        alloc.realloc out.metadata frame.metadataBytes else out.metadata).getD []).length := by
      split
      · obtain ⟨new, hnew⟩ := halloc out.metadata frame.metadataBytes
        rw [hnew, Option.getD_some, alloc.length_realloc hnew]
      · rename_i hge
        exact (not_lt.1 hge).trans hout
    rw [slice_eq (by omega), ok_bind, List.drop_zero]
    change ∃ metadata metadataBytes, (blit _ 0 frame.shownMetadata >>= _) = _ ∧ _
    rw [Stream.blit_zero (by omega), ok_bind, hlen]
    refine ⟨_, _, rfl, ?_, ?_⟩
    · rw [Option.getD_some, List.length_append, hlen]
      omega
    · rw [Option.getD_some, overwrite, if_neg hne, List.take_left' hlen]
  · rename_i hnone
    have hzero : frame.metadataBytes = 0 := by
      by_contra hpos
      refine hnone ⟨fun h => hpos ?_, Nat.pos_of_ne_zero hpos⟩
      rw [Frame.metadataBuffer, h] at hframe
      exact Nat.le_zero.1 hframe
    rw [overwrite, if_pos (List.length_eq_zero_iff.1 (hlen.trans hzero))]
    exact ⟨_, _, rfl, hout, rfl⟩

theorem copyData_ok (out : Frame) {frame : Frame} (hframe : frame.dataBytes ≤ frame.bytes.length)
    (hroom : frame.dataBytes ≤ out.bytes.length) :
    ∃ data, out.copyData frame = .ok { out with data := some data } ∧
      data.length = out.bytes.length := by
  have hlen : (frame.bytes.take frame.dataBytes).length = frame.dataBytes := by
    rw [List.length_take, Nat.min_eq_left hframe]
  rw [Frame.copyData, slice_eq (by omega), ok_bind, List.drop_zero, Stream.blit_zero (by omega),
    ok_bind]
  refine ⟨_, rfl, ?_⟩
  rw [List.length_append, List.length_drop]
  omega

/-- One copy. -/
theorem duplicateFrame_ok {alloc : Allocator} (halloc : alloc.Serves) {frame out : Frame}
    (hframe : frame.Sized) (hout : out.Reusable) :
    ∃ copy, duplicateFrame alloc frame out = .ok (Ret.success, copy) ∧ copy.Reusable ∧
      copy.shownMetadata = overwrite out.shownMetadata frame.shownMetadata := by
  obtain ⟨block, hensure, hlen⟩ :=
    ensureFrameSize_serves halloc hout.exact hout.owned frame.dataBytes
  let described : Frame :=
    { ({ out with data := some block, dataBytes := frame.dataBytes } : Frame).describe frame with
      frameFormat := frame.frameFormat
      step := frame.step }
  obtain ⟨data, hdata, hsame⟩ := copyData_ok described hframe.data hlen.ge
  obtain ⟨metadata, metadataBytes, hmeta, hroom, hshown⟩ :=
    copyMetadata_ok halloc { described with data := some data } hout.metadata hframe.metadata
  have hok : duplicateFrame alloc frame out = .ok (Ret.success, { described with
      data := some data, metadata := metadata, metadataBytes := metadataBytes }) := by
    rw [duplicateFrame, hensure]
    change (described.copyData frame >>= _) = _
    rw [hdata, ok_bind, hmeta]
    rfl
  refine ⟨_, hok, ⟨hout.owned, ?_, hroom⟩, hshown⟩
  intro copied hcopied
  rw [← Option.some.inj hcopied, hsame]
  exact hlen

/-- The copies of a sequence of frames to the same one. -/
def duplicateAll (alloc : Allocator) (sources : List Frame) (out : Frame) :
    Checked (List (Ret × Frame)) :=
  trace (fun frame result => duplicateFrame alloc frame result.2) sources (Ret.success, out)

/-- The metadata of the copies: a frame without any leaves what is there. -/
theorem duplicateAll_metadata {alloc : Allocator} (halloc : alloc.Serves) {out : Frame}
    (hout : out.Reusable) {sources : List Frame} (hsources : ∀ frame ∈ sources, frame.Sized) :
    ∃ results, duplicateAll alloc sources out = .ok results ∧
      (∀ r ∈ results, r.1 = Ret.success) ∧
      results.map (·.2.metadataShown) = (rounds overwrite out.shownMetadata
        (sources.map Frame.shownMetadata)).map Stream.sizedBytes := by
  have hstep : ∀ frame ∈ sources, ∀ r : Ret × Frame, r.1 = Ret.success ∧ r.2.Reusable →
      ∃ t, duplicateFrame alloc frame r.2 = .ok t ∧ (t.1 = Ret.success ∧ t.2.Reusable) ∧
        t.2.shownMetadata = overwrite r.2.shownMetadata frame.shownMetadata := by
    rintro frame hframe r ⟨-, hr⟩
    obtain ⟨copy, hcopy, hreusable, hshown⟩ := duplicateFrame_ok halloc (hsources frame hframe) hr
    exact ⟨_, hcopy, ⟨rfl, hreusable⟩, hshown⟩
  obtain ⟨results, hresults, hinv, hshown⟩ := trace_view (fun r : Ret × Frame => r.2.shownMetadata)
    (fun before (frame : Frame) => overwrite before frame.shownMetadata) hstep
    (s := (Ret.success, out)) ⟨rfl, hout⟩
  refine ⟨results, hresults, fun r hr => (hinv r hr).1, ?_⟩
  rw [rounds_map, ← hshown, List.map_map]
  exact List.map_congr_left fun r hr => metadataShown_eq (hinv r hr).2.metadata

/-- No frame without metadata comes after one with, or to a record that has some already. -/
def MetadataStays (old : List UInt8) (news : List (List UInt8)) : Prop :=
  (old :: news).IsChain fun a b => a ≠ [] → b ≠ []

/-- **Whose metadata it is.**  For frames delivered by a stream, and for copies to a frame of the
library's: the metadata is that of the frame, each time, if and only if no frame without metadata
follows one with. -/
theorem metadataOwn_iff {info : Descriptor.DeviceInfo} {record : Stream.Frame}
    {calls : List Stream.Populate} (hrecord : record.Sized) (hcalls : ∀ c ∈ calls, c.Ready info)
    {alloc : Allocator} (halloc : alloc.Serves) {out : Frame} (hout : out.Reusable)
    {sources : List Frame} (hsources : ∀ frame ∈ sources, frame.Sized) :
    (∃ outs, Stream.populateAll info calls record = .ok outs ∧
      (outs.map Stream.Frame.metadataShown = calls.map Stream.Populate.metadataHeld ↔
        MetadataStays record.shownMetadata (calls.map Stream.Populate.metadata))) ∧
    ∃ results, duplicateAll alloc sources out = .ok results ∧
      (∀ r ∈ results, r.1 = Ret.success) ∧
      (results.map (·.2.metadataShown) = sources.map Frame.metadataShown ↔
        MetadataStays out.shownMetadata (sources.map Frame.shownMetadata)) := by
  have hinj := List.map_injective_iff.2 Stream.sizedBytes_injective
  constructor
  · obtain ⟨outs, houts, hshown⟩ := Stream.populateAll_metadata hrecord hcalls
    refine ⟨outs, houts, ?_⟩
    have hheld : calls.map Stream.Populate.metadataHeld =
        (calls.map Stream.Populate.metadata).map Stream.sizedBytes := by
      rw [List.map_map]
      exact List.map_congr_left fun c hc => (hcalls c hc).metadataHeld
    rw [hshown, hheld, hinj.eq_iff]
    exact rounds_overwrite_iff
  · obtain ⟨results, hresults, hsuccess, hshown⟩ :=
      duplicateAll_metadata halloc hout hsources
    refine ⟨results, hresults, hsuccess, ?_⟩
    have hsized : sources.map Frame.metadataShown =
        (sources.map Frame.shownMetadata).map Stream.sizedBytes := by
      rw [List.map_map]
      exact List.map_congr_left fun frame hframe =>
        metadataShown_eq (hsources frame hframe).metadata
    rw [hshown, hsized, hinj.eq_iff]
    exact rounds_overwrite_iff

/-- A frame of one byte with this metadata. -/
def tagged (metadata : List UInt8) : Frame where
  data := some [7]
  dataBytes := 1
  metadata := some metadata
  metadataBytes := metadata.length

theorem tagged_sized (metadata : List UInt8) : (tagged metadata).Sized :=
  ⟨le_refl _, le_refl _⟩

theorem blank_reusable : Frame.Reusable {} := ⟨rfl, fun _ h => absurd h (by simp), le_refl _⟩

/-- A frame without metadata and one with, from a stream and copied. -/
theorem metadataOwn_later :
    (∃ outs, Stream.populateAll Stream.pixelDevice
        [Stream.pixelCall .yuyv [1, 2] [], Stream.pixelCall .yuyv [3, 4] [9]] {} = .ok outs ∧
      outs.map Stream.Frame.metadataShown = [(0, []), (1, [9])]) ∧
    ∃ results, duplicateAll .zeroed [tagged [], tagged [9]] {} = .ok results ∧
      results.map (·.2.metadataShown) = [(0, []), (1, [9])] := by
  have hready : ∀ c ∈ [Stream.pixelCall .yuyv [1, 2] [], Stream.pixelCall .yuyv [3, 4] [9]],
      c.Ready Stream.pixelDevice :=
    List.forall_mem_cons.2 ⟨Stream.pixelCall_ready .yuyv [1, 2] [],
      List.forall_mem_singleton.2 (Stream.pixelCall_ready .yuyv [3, 4] [9])⟩
  have hsized : ∀ frame ∈ [tagged [], tagged [9]], frame.Sized :=
    List.forall_mem_cons.2 ⟨tagged_sized [], List.forall_mem_singleton.2 (tagged_sized [9])⟩
  have hempty : Stream.Frame.Sized {} := ⟨le_refl _, le_refl _⟩
  have hstays : MetadataStays [] [[], [9]] := by simp [MetadataStays]
  obtain ⟨⟨outs, houts, hiff⟩, ⟨results, hresults, -, hiff'⟩⟩ :=
    metadataOwn_iff hempty hready zeroed_serves blank_reusable hsized
  exact ⟨⟨outs, houts, hiff.2 hstays⟩, ⟨results, hresults, hiff'.2 hstays⟩⟩

/-- The other way round, the second frame is shown with the metadata of the first. -/
theorem metadataOwn_stale :
    (∃ outs, Stream.populateAll Stream.pixelDevice
        [Stream.pixelCall .yuyv [1, 2] [9], Stream.pixelCall .yuyv [3, 4] []] {} = .ok outs ∧
      outs.map Stream.Frame.metadataShown = [(1, [9]), (1, [9])] ∧
      [Stream.pixelCall .yuyv [1, 2] [9], Stream.pixelCall .yuyv [3, 4] []].map
        Stream.Populate.metadataHeld = [(1, [9]), (0, [])]) ∧
    ∃ results, duplicateAll .zeroed [tagged [9], tagged []] {} = .ok results ∧
      results.map (·.2.metadataShown) = [(1, [9]), (1, [9])] ∧
      [tagged [9], tagged []].map Frame.metadataShown = [(1, [9]), (0, [])] :=
  ⟨⟨_, rfl, rfl, rfl⟩, ⟨_, rfl, rfl, rfl⟩⟩

end Image
end LibUvc
