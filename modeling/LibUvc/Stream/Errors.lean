import Mathlib.Data.List.Flatten
import LibUvc.Foundation.Flagging
import LibUvc.Stream.Conservation

/-!
# Which frame an error is charged to

`_uvc_process_payload` notes the error bit of a header in `frame_had_errors` and drops the payload,
before it looks at the frame id.  `_uvc_swap_buffers` takes the note for one about the frame that it
publishes.  While that frame is the one the payload belonged to, this is right; but if a frame has
ended without EOF and the next one begins with an error, or if nothing arrives of a frame, the note
is about the wrong frame.

The handle is the receiver of `Foundation.Flagging`, with `frame_had_errors` as the flag
(`processPayloads_flagAll`), and `errors_charged_iff` says on which streams every frame is published
with the right flag.
-/

set_option autoImplicit false

namespace LibUvc
namespace Stream

open Checked Reassembly

/-! ## The receiver with its flag -/

/-- What the receiver of `Foundation.Flagging` sees of a handle. -/
def flagView (s : Assembly) : Flagged UInt8 UInt8 := ⟨view s, s.frameHadErrors⟩

/-- The bytes of a published frame, and whether it is meant to be suppressed. -/
def Published.marked (p : Published) : List UInt8 × Bool := (p.data, p.hadErrors)

theorem swapIf_flagView (due : Bool) (s : Assembly) :
    flagView (swapIf due s).1 = (flagFlushIf due (flagView s)).1 ∧
      (swapIf due s).2.map Published.marked = (flagFlushIf due (flagView s)).2 := by
  cases due with
  | false => exact ⟨rfl, rfl⟩
  | true =>
    refine ⟨?_, rfl⟩
    simp [flagView, view, swapIf, swapBuffers, swapHold, resetWorking, flagFlushIf]

theorem Taken.flagView_eq {s t : Assembly} {payload : List UInt8} {pubs : List Published}
    (hb : s.Bounded) (h : Taken s payload t pubs) :
    flagView t = (flagAbsorb s.maxVideoFrameSize.toNat (flagView s) (some h.chunk)).1 ∧
      pubs.map Published.marked =
        (flagAbsorb s.maxVideoFrameSize.toNat (flagView s) (some h.chunk)).2 := by
  obtain ⟨hv1, hd1⟩ := swapIf_flagView (stale (view s) h.chunk.tag) s
  obtain ⟨hv2, hd2⟩ := swapIf_flagView h.due h.mid
  have hreceiver : (flagFlushIf (stale (view s) h.chunk.tag) (flagView s)).1.receiver =
      (flushIf (stale (view s) h.chunk.tag) (view s)).1 := by
    cases stale (view s) h.chunk.tag <;> rfl
  have hmid : flagView h.mid = ⟨extend s.maxVideoFrameSize.toNat
      (flagFlushIf (stale (view s) h.chunk.tag) (flagView s)).1.receiver h.chunk,
      (flagFlushIf (stale (view s) h.chunk.tag) (flagView s)).1.flag⟩ := by
    rw [hreceiver, ← h.view_mid hb, ← hv1, flagView, h.frameHadErrors, h.stale_eq hb]
    rfl
  have hdue : h.due = complete s.maxVideoFrameSize.toNat
      (flagFlushIf (stale (view s) h.chunk.tag) (flagView s)).1.receiver h.chunk := by
    rw [hreceiver]
    exact h.due_eq hb
  rw [hmid] at hv2 hd2
  constructor
  · refine (congrArg flagView h.final).trans ?_
    rw [hv2, hdue]
    rfl
  · refine (congrArg (List.map Published.marked) h.published).trans ?_
    rw [List.map_append, h.stale_eq hb, hd1, hd2, hdue]
    rfl

/-! ## Payloads with errors -/

/-- A payload with a header of 2 to 255 bytes that gives its own length, any flags, any extension
bytes, and then a piece of the image. -/
structure NoisyPayload where
  info : UInt8
  ext : List UInt8
  data : List UInt8
  short : ext.length ≤ 253

/-- The bytes of a payload. -/
def NoisyPayload.bytes (p : NoisyPayload) : List UInt8 :=
  UInt8.ofNat (2 + p.ext.length) :: p.info :: (p.ext ++ p.data)

/-- The error bit of the header. -/
def NoisyPayload.error (p : NoisyPayload) : Bool := p.info &&& 0x40 ≠ 0

/-- The payload as the receiver sees it. -/
def NoisyPayload.event (p : NoisyPayload) : Option (Chunk UInt8 UInt8) :=
  if p.error then none else some ⟨p.info &&& 1, decide (p.info &&& 0x02 ≠ 0), p.data⟩

theorem headerLength_bytes (p : NoisyPayload) :
    headerLength false p.bytes = 2 + p.ext.length := by
  have hnat : (UInt8.ofNat (2 + p.ext.length)).toNat = 2 + p.ext.length := by
    rw [UInt8.toNat_ofNat', Nat.mod_eq_of_lt (by have := p.short; omega)]
  rw [headerLength, headerless, Bool.false_and, if_neg (by simp)]
  exact hnat

theorem not_bogus_bytes (p : NoisyPayload) : bogus false p.bytes = false := by
  rw [bogus, headerLength_bytes]
  simp [NoisyPayload.bytes]
  omega

theorem errorBit_bytes (p : NoisyPayload) : errorBit false p.bytes = p.error := by
  rw [errorBit, headerLength_bytes, NoisyPayload.error]
  simp [NoisyPayload.bytes, byteAt]

theorem arrival_bytes {p : NoisyPayload} (h : p.error = false) :
    arrival false p.bytes =
      ⟨some (p.info &&& 1), decide (p.info &&& 0x02 ≠ 0), p.data⟩ := by
  have hbyte : byteAt p.bytes 1 = p.info := rfl
  have hdata : p.bytes.drop (2 + p.ext.length) = p.data := by
    simp [NoisyPayload.bytes, Nat.add_comm 2]
  rw [arrival, not_bogus_bytes, errorBit_bytes, h, if_neg (by simp), frameId, dataPart,
    not_bogus_bytes, errorBit_bytes, h, headerLength_bytes, hbyte, hdata]
  simp

/-- **The code is the receiver with its flag.** -/
theorem processPayload_flagAbsorb {s : Assembly} (h : s.Bounded) (hi : s.isIsight = false)
    (p : NoisyPayload) :
    ∃ t pubs, processPayload s p.bytes = .ok (t, pubs) ∧ t.Bounded ∧ t.isIsight = false ∧
      t.curCtrl = s.curCtrl ∧
      flagView t = (flagAbsorb s.maxVideoFrameSize.toNat (flagView s) p.event).1 ∧
      pubs.map Published.marked =
        (flagAbsorb s.maxVideoFrameSize.toNat (flagView s) p.event).2 := by
  rcases processPayload_split h p.bytes with ⟨hbogus, -⟩ | ⟨-, herror, hp⟩ | ⟨t, pubs, hp, ⟨ht⟩⟩
  · rw [hi, not_bogus_bytes] at hbogus
    cases hbogus
  · rw [hi, errorBit_bytes] at herror
    rw [NoisyPayload.event, if_pos herror]
    exact ⟨_, [], hp, ⟨h.1, h.2, h.3, h.4, h.5, h.6⟩, hi, rfl, rfl, rfl⟩
  · obtain ⟨hb, hi', hc⟩ := ht.frame
    have herror := ht.good.2
    rw [hi, errorBit_bytes] at herror
    have hevent : p.event = some ht.chunk := by
      rw [ht.chunk_eq, hi, arrival_bytes herror, NoisyPayload.event, herror]
      rfl
    rw [hevent]
    exact ⟨t, pubs, hp, hb, hi'.trans hi, hc, ht.flagView_eq h⟩

/-- The same for a sequence of payloads. -/
theorem processPayloads_flagAll (ps : List NoisyPayload) :
    ∀ {s : Assembly}, s.Bounded → s.isIsight = false →
      ∃ t pubs, processPayloads s (ps.map NoisyPayload.bytes) = .ok (t, pubs) ∧
        pubs.map Published.marked =
          (flagAll s.maxVideoFrameSize.toNat (flagView s) (ps.map NoisyPayload.event)).2 := by
  induction ps with
  | nil => exact fun _ _ => ⟨_, [], rfl, rfl⟩
  | cons p ps ih =>
    intro s h hi
    obtain ⟨u, a, hu, hub, hui, huc, huv, hua⟩ := processPayload_flagAbsorb h hi p
    obtain ⟨t, b, ht, htp⟩ := ih hub hui
    rw [Assembly.maxVideoFrameSize, huc, huv] at htp
    rw [List.map_cons, processPayloads, hu, ok_bind]
    simp only []
    rw [ht, ok_bind]
    refine ⟨t, a ++ b, rfl, ?_⟩
    rw [List.map_append, hua, htp]
    rfl

/-! ## Frames -/

/-- A frame as it is sent: one or more payloads with the frame's id, the EOF bit on the last one if
on any, and the error bit on any of them. -/
structure NoisyFrame where
  fid : UInt8
  payloads : List NoisyPayload
  nonempty : payloads ≠ []
  tagged : ∀ p ∈ payloads, p.info &&& 1 = fid
  marked : ∀ p ∈ payloads.dropLast, p.info &&& 0x02 = 0

namespace NoisyFrame

/-- The frame that the camera sent. -/
def sent (f : NoisyFrame) : List UInt8 := f.payloads.flatMap NoisyPayload.data

/-- What arrives of it: the image data of the payloads without the error bit. -/
def image (f : NoisyFrame) : List UInt8 :=
  (f.payloads.filter (!·.error)).flatMap NoisyPayload.data

/-- Some payload of the frame has the error bit. -/
def hasError (f : NoisyFrame) : Bool := f.payloads.any NoisyPayload.error

/-- Some payload of the frame comes without the error bit, so that the id of the frame is seen. -/
def shows (f : NoisyFrame) : Bool := f.payloads.any (!·.error)

/-- The last payload has EOF, image data and no error bit. -/
def ended (f : NoisyFrame) : Bool :=
  f.payloads.getLast?.any fun p => !p.error && decide (p.info &&& 0x02 ≠ 0) && p.data != []

end NoisyFrame

/-- The bytes of a sequence of frames, payload by payload. -/
def noisyWire (fs : List NoisyFrame) : List (List UInt8) :=
  fs.flatMap fun f => f.payloads.map NoisyPayload.bytes

/-- The frames that are published: those with image data that are ended by EOF, or followed by a
frame whose other id is seen. -/
def published : List NoisyFrame → List NoisyFrame
  | [] => []
  | f :: fs =>
    (if f.image ≠ [] ∧ (f.ended ∨ ∃ g ∈ fs, g.shows ∧ g.fid ≠ f.fid) then [f] else []) ++
      published fs

/-! ## The frames as records -/

theorem isNone_event (p : NoisyPayload) : p.event.isNone = p.error := by
  rw [NoisyPayload.event]
  split
  · rename_i h
    rw [h]
    rfl
  · rename_i h
    rw [Bool.not_eq_true] at h
    rw [h]
    rfl

theorem isNone_comp_event : Option.isNone ∘ NoisyPayload.event = NoisyPayload.error :=
  funext isNone_event

theorem event_eq_some {p : NoisyPayload} {c : Chunk UInt8 UInt8} (h : p.event = some c) :
    c = ⟨p.info &&& 1, decide (p.info &&& 0x02 ≠ 0), p.data⟩ := by
  rw [NoisyPayload.event] at h
  split at h
  · cases h
  · exact (Option.some.inj h).symm

/-- The frame as a record. -/
def NoisyFrame.record (f : NoisyFrame) : NoisyRecord UInt8 UInt8 where
  tag := f.fid
  events := f.payloads.map NoisyPayload.event
  nonempty := by simpa using f.nonempty
  tagged := by
    intro c hc
    obtain ⟨p, hp, hpc⟩ := List.mem_map.1 hc
    rw [event_eq_some hpc]
    exact f.tagged p hp
  marked := by
    intro c hc
    rw [← List.map_dropLast, List.mem_map] at hc
    obtain ⟨p, hp, hpc⟩ := hc
    rw [event_eq_some hpc]
    simp [f.marked p hp]

section Record

variable (f : NoisyFrame)

theorem record_content_eq : f.record.content = f.image := by
  rw [NoisyRecord.content, NoisyFrame.image, NoisyFrame.record]
  show Reassembly.received (f.payloads.map NoisyPayload.event) = _
  induction f.payloads with
  | nil => rfl
  | cons p ps ih =>
    rw [List.map_cons, NoisyPayload.event]
    cases hp : p.error with
    | true => simpa [hp] using ih
    | false =>
      rw [if_neg (by simp), received_some, ih]
      simp [hp]

theorem record_flawed : f.record.flawed = f.hasError := by
  rw [NoisyRecord.flawed, NoisyFrame.hasError, NoisyFrame.record, List.any_map, isNone_comp_event]

theorem record_shows : f.record.shows = f.shows := by
  rw [NoisyRecord.shows, NoisyFrame.shows, NoisyFrame.record, List.any_map]
  congr 1
  funext p
  rw [Function.comp_apply, ← isNone_event, Option.not_isNone]

theorem record_closed_eq : f.record.closed = f.ended := by
  rw [NoisyRecord.closed, NoisyFrame.ended, NoisyFrame.record, endsWell, List.getLast?_map]
  cases f.payloads.getLast? with
  | none => rfl
  | some p =>
    rw [Option.map_some, NoisyPayload.event]
    cases hp : p.error with
    | true => simp [hp]
    | false => simp [hp]

end Record

theorem image_length_le (f : NoisyFrame) : f.image.length ≤ f.sent.length := by
  rw [NoisyFrame.image, NoisyFrame.sent]
  exact (List.filter_sublist.flatMap NoisyPayload.data).length_le

theorem followed_records (fid : UInt8) (fs : List NoisyFrame) :
    followed fid (fs.map NoisyFrame.record) = true ↔ ∃ g ∈ fs, g.shows ∧ g.fid ≠ fid := by
  have hone : ∀ g : NoisyFrame, (g.record.shows && decide (g.record.tag ≠ fid)) = true ↔
      g.shows ∧ g.fid ≠ fid := by
    intro g
    rw [Bool.and_eq_true, record_shows, decide_eq_true_iff]
    exact Iff.rfl
  simp only [followed, List.any_map, List.any_eq_true, Function.comp_apply, hone]

theorem carried_records (fs : List NoisyFrame) :
    carried (fs.map NoisyFrame.record) =
      (published fs).map fun f => (f.image, f.hasError) := by
  induction fs with
  | nil => rfl
  | cons f fs ih =>
    have hput : putOut f.record (fs.map NoisyFrame.record) = true ↔
        f.image ≠ [] ∧ (f.ended ∨ ∃ g ∈ fs, g.shows ∧ g.fid ≠ f.fid) := by
      rw [putOut, record_content_eq, record_closed_eq, Bool.and_eq_true, bne_iff_ne,
        Bool.or_eq_true, ← followed_records]
      exact Iff.rfl
    rw [List.map_cons, carried, published, List.map_append, ih, record_content_eq, record_flawed]
    congr 1
    by_cases h : f.image ≠ [] ∧ (f.ended ∨ ∃ g ∈ fs, g.shows ∧ g.fid ≠ f.fid)
    · rw [if_pos h, if_pos (hput.2 h)]
      rfl
    · rw [if_neg h, if_neg (mt hput.1 h)]
      rfl

/-! ## When the errors are charged to the right frame -/

/-- No image data of a frame arrives while another one with the same id is waiting.  With changing
ids this takes a frame in between of which every payload has the error bit. -/
def KeptApart (fs : List NoisyFrame) : Prop := Apart none (fs.map NoisyFrame.record)

/-- The condition.  A frame is charged with the errors that come after the first of its payloads
that has none, and if it has to wait, with those up to the first payload without an error that has
another id.  Errors before that are charged to the frame that is waiting, and if none is, they are
left for the next frame.  This must come to the same, for every frame that is published, as the
frame's having an error. -/
def WellPlaced (fs : List NoisyFrame) : Prop :=
  FairlyCharged none false (fs.map NoisyFrame.record)

instance (fs : List NoisyFrame) : Decidable (KeptApart fs) :=
  inferInstanceAs (Decidable (Apart _ _))

instance (fs : List NoisyFrame) : Decidable (WellPlaced fs) :=
  inferInstanceAs (Decidable (FairlyCharged _ _ _))

/-- Frames with changing ids are kept apart if some image data arrives of every frame with an
error. -/
theorem keptApart_of_arrives {fs : List NoisyFrame} (halt : fs.IsChain fun f g => f.fid ≠ g.fid)
    (harrives : ∀ f ∈ fs, f.hasError = true → f.image ≠ []) : KeptApart fs := by
  refine apart_of_arrives ((List.isChain_map _).2 halt) (fun r hr hflawed => ?_) (by simp)
  obtain ⟨f, hf, rfl⟩ := List.mem_map.1 hr
  rw [record_content_eq]
  exact harrives f hf (record_flawed f ▸ hflawed)

/-- **When errors are charged to the right frame.**  A stream that is not an iSight's, with nothing
in `outbuf` and no error noted, is sent frames shorter than `dwMaxVideoFrameSize`, each cut into
payloads in any way and any of them with the error bit, and kept apart.  Then the frames are
published in order with what arrived of them, and `frame_had_errors` is right for all of them if and
only if the errors are well placed. -/
theorem errors_charged_iff (s : Assembly) (h : s.Bounded) (hi : s.isIsight = false)
    (hgot : s.gotBytes = 0) (hflag : s.frameHadErrors = false) (fs : List NoisyFrame)
    (hshort : ∀ f ∈ fs, f.sent.length < s.maxVideoFrameSize.toNat) (hapart : KeptApart fs) :
    ∃ t pubs, processPayloads s (noisyWire fs) = .ok (t, pubs) ∧
      pubs.map Published.data = (published fs).map NoisyFrame.image ∧
      ((pubs.map fun p => (p.data, p.hadErrors)) =
          ((published fs).map fun f => (f.image, f.hasError)) ↔
        WellPlaced fs) := by
  obtain ⟨t, pubs, hrun, hpubs⟩ :=
    processPayloads_flagAll (fs.flatMap NoisyFrame.payloads) h hi
  have hevents : (fs.flatMap NoisyFrame.payloads).map NoisyPayload.event =
      (fs.map NoisyFrame.record).flatMap NoisyRecord.events := by
    rw [List.map_flatMap, List.flatMap_map]
    rfl
  have hview : flagView s = ⟨⟨s.fid, []⟩, false⟩ := by
    rw [flagView, view, hgot, hflag, List.take_zero]
  have hrecords : (flagAll s.maxVideoFrameSize.toNat ⟨⟨s.fid, []⟩, false⟩
      ((fs.map NoisyFrame.record).flatMap NoisyRecord.events)).2 =
        [] ++ charged none false (fs.map NoisyFrame.record) := by
    refine flagAll_records hapart (fun r hr => ?_) (absurd rfl)
    obtain ⟨f, hf, rfl⟩ := List.mem_map.1 hr
    rw [record_content_eq]
    exact (image_length_le f).trans_lt (hshort f hf)
  rw [hevents, hview, hrecords, List.nil_append] at hpubs
  refine ⟨t, pubs, ?_, ?_, ?_⟩
  · rw [noisyWire, ← hrun, List.map_flatMap]
  · have hdata := congrArg (List.map Prod.fst) hpubs
    rw [charged_map_fst, carried_records, List.map_map, List.map_map] at hdata
    exact hdata
  · rw [WellPlaced, ← charged_eq_carried_iff, carried_records, ← hpubs]
    rfl

/-- A payload with a header of 2 bytes. -/
def plainPayload (info : UInt8) (data : List UInt8) : NoisyPayload :=
  ⟨info, [], data, Nat.zero_le 253⟩

/-- A frame with id 0 and without EOF, whose second payload has the error bit if `error`. -/
def openFrame (error : Bool) : NoisyFrame where
  fid := 0
  payloads := [plainPayload 0x00 [7], plainPayload (if error then 0x40 else 0x00) [8]]
  nonempty := by simp
  tagged := by cases error <;> decide
  marked := by cases error <;> decide

/-- A frame with id 1 and EOF, whose first payload has the error bit if `error`. -/
def endedFrame (error : Bool) : NoisyFrame where
  fid := 1
  payloads := [plainPayload (if error then 0x41 else 0x01) [], plainPayload 0x03 [9]]
  nonempty := by simp
  tagged := by cases error <;> decide
  marked := by cases error <;> decide

/-- A frame with id 1 of which nothing arrives. -/
def lostFrame : NoisyFrame where
  fid := 1
  payloads := [plainPayload 0x41 [5], plainPayload 0x43 [6]]
  nonempty := by simp
  tagged := by decide
  marked := by decide

/-- A frame with id 0 and EOF, with an error in between. -/
def tornFrame : NoisyFrame where
  fid := 0
  payloads := [plainPayload 0x00 [1], plainPayload 0x40 [2], plainPayload 0x02 [3]]
  nonempty := by simp
  tagged := by decide
  marked := by decide

/-- An error inside a frame is charged to it, also if the frame waits for the next one, and the
errors of a frame of which nothing arrives do no harm in front of a frame with an error. -/
theorem errors_charged_inside :
    ∃ t pubs, processPayloads blinkStream
          (noisyWire [openFrame true, endedFrame false, tornFrame, lostFrame, tornFrame]) =
        .ok (t, pubs) ∧
      (pubs.map fun p => (p.data, p.hadErrors)) =
        [([7], true), ([9], false), ([1, 3], true), ([1, 3], true)] := by
  obtain ⟨t, pubs, hrun, -, hiff⟩ := errors_charged_iff blinkStream blinkStream_bounded rfl rfl rfl
    [openFrame true, endedFrame false, tornFrame, lostFrame, tornFrame] (by decide) (by decide)
  exact ⟨t, pubs, hrun, hiff.2 (by decide)⟩

/-- **An error charged to the wrong frame.**  The first frame has no EOF, and the second begins with
an error: the first is published as one with errors, and the second as one without. -/
theorem errors_charged_wrong :
    (published [openFrame false, endedFrame true]).map (fun f => (f.image, f.hasError)) =
        [([7, 8], false), ([9], true)] ∧
      ∃ t pubs, processPayloads blinkStream (noisyWire [openFrame false, endedFrame true]) =
          .ok (t, pubs) ∧
        (pubs.map fun p => (p.data, p.hadErrors)) = [([7, 8], true), ([9], false)] :=
  ⟨by decide, _, _, rfl, by decide⟩

end Stream
end LibUvc
