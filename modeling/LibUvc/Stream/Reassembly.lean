import Mathlib.Data.List.Range
import LibUvc.Foundation.Reassembly
import LibUvc.Stream.Bounds

/-!
# Frame reassembly is correct for every packetisation

`Foundation.Reassembly` describes a receiver of tagged chunks in its own terms.  This file shows
that `_uvc_process_payload`, on a camera that is not an iSight and on payloads whose error bit is
clear, *is* that receiver: the frame id is the tag, the EOF bit the end mark and
`dwMaxVideoFrameSize` the limit (`processPayload_absorb`).  Together with the numbering of published
frames (`processPayloads_numbered`), which holds for payloads of any kind, this turns
`Reassembly.absorbAll_records` into a statement about the bytes a camera sends:
`processPayloads_frames`.

`seq` is a `uint32_t`, so the numbers are the positions modulo `2 ^ 32`; `blinkFrames` is a stream
long enough to see the counter come round.
-/

set_option autoImplicit false

namespace LibUvc
namespace Stream

open Checked Reassembly

/-! ## The numbers of the published frames -/

/-- The frames carry consecutive numbers, starting with `n`. -/
def Numbered (n : UInt32) : List Published → Prop
  | [] => True
  | p :: ps => p.seq = n ∧ Numbered (n + 1) ps

theorem numbered_append {n : UInt32} {ps qs : List Published} (hp : Numbered n ps)
    (hq : Numbered (n + UInt32.ofNat ps.length) qs) : Numbered n (ps ++ qs) := by
  induction ps generalizing n with
  | nil => simpa using hq
  | cons p ps ih =>
    refine ⟨hp.1, ih hp.2 ?_⟩
    rwa [List.length_cons, UInt32.ofNat_add, show UInt32.ofNat 1 = 1 from rfl,
      UInt32.add_comm (UInt32.ofNat ps.length) 1, ← UInt32.add_assoc] at hq

theorem swapIf_numbered (due : Bool) (s : Assembly) :
    Numbered s.seq (swapIf due s).2 ∧
      (swapIf due s).1.seq = s.seq + UInt32.ofNat (swapIf due s).2.length := by
  cases due with
  | false => exact ⟨trivial, by simp [swapIf]⟩
  | true => exact ⟨⟨rfl, trivial⟩, rfl⟩

theorem Taken.numbered {s t : Assembly} {payload : List UInt8} {pubs : List Published}
    (h : Taken s payload t pubs) :
    Numbered s.seq pubs ∧ t.seq = s.seq + UInt32.ofNat pubs.length := by
  obtain ⟨hn1, hs1⟩ := swapIf_numbered (flips s h.headerLen h.info) s
  obtain ⟨hn2, hs2⟩ := swapIf_numbered h.due h.mid
  rw [h.seq, hs1] at hn2 hs2
  have hpub := h.published
  have hseq : t.seq = (swapIf h.due h.mid).1.seq := congrArg Assembly.seq h.final
  have hlen := congrArg List.length hpub
  refine ⟨hpub.symm ▸ numbered_append hn1 hn2, ?_⟩
  rw [hseq, hs2, hlen, List.length_append, UInt32.ofNat_add, UInt32.add_assoc]

/-- **Published frames are numbered consecutively**, whatever the payloads were. -/
theorem processPayloads_numbered {payloads : List (List UInt8)} :
    ∀ {s t : Assembly} {pubs : List Published}, s.Bounded →
      processPayloads s payloads = .ok (t, pubs) →
      Numbered s.seq pubs ∧ t.seq = s.seq + UInt32.ofNat pubs.length := by
  induction payloads with
  | nil =>
    intro s t pubs _ h
    cases h
    exact ⟨trivial, by simp⟩
  | cons p ps ih =>
    intro s t pubs hb h
    obtain ⟨u, a, hu, hub, -⟩ := processPayload_ok hb p
    rw [processPayloads, hu, ok_bind, bind_eq_ok] at h
    obtain ⟨⟨v, b⟩, hv, hout⟩ := h
    cases hout
    obtain ⟨hnb, hsb⟩ := ih hub hv
    have ha : Numbered s.seq a ∧ u.seq = s.seq + UInt32.ofNat a.length := by
      rcases processPayload_cases hb p with ⟨-, hp⟩ | ⟨_, _, -, -, hp⟩ | ⟨t', pubs', hp, ⟨ht⟩⟩
      · cases hu.symm.trans hp
        exact ⟨trivial, by simp⟩
      · cases hu.symm.trans hp
        exact ⟨trivial, by simp⟩
      · cases hu.symm.trans hp
        exact ht.numbered
    rw [ha.2] at hnb hsb
    refine ⟨numbered_append ha.1 hnb, ?_⟩
    rw [hsb, List.length_append, UInt32.ofNat_add, UInt32.add_assoc]

/-- Frame contents numbered from 1, in the counter's 32 bits. -/
def numbered (ds : List (List UInt8)) : List (UInt32 × List UInt8) :=
  (ds.zipIdx 1).map fun x => (UInt32.ofNat x.2, x.1)

theorem Numbered.map_eq {n : Nat} {pubs : List Published} (h : Numbered (UInt32.ofNat n) pubs) :
    pubs.map (fun p => (p.seq, p.data)) =
      ((pubs.map Published.data).zipIdx n).map fun x => (UInt32.ofNat x.2, x.1) := by
  induction pubs generalizing n with
  | nil => rfl
  | cons p ps ih =>
    have hps : Numbered (UInt32.ofNat (n + 1)) ps := by
      rw [UInt32.ofNat_add]
      exact h.2
    simp [List.zipIdx_cons, h.1, ih hps]

/-! ## The receiver -/

/-- What the receiver of `Reassembly` sees of a handle. -/
def view (s : Assembly) : Receiver UInt8 UInt8 := ⟨s.fid, s.outbuf.take s.gotBytes⟩

theorem view_pending_ne_nil {s : Assembly} (h : s.Bounded) :
    (view s).pending ≠ [] ↔ s.gotBytes ≠ 0 := by
  have hlen : (view s).pending.length = s.gotBytes := by
    rw [view, List.length_take, h.outbuf]
    exact Nat.min_eq_left h.got
  rw [← hlen, ne_eq, ne_eq, List.length_eq_zero_iff]

theorem swapIf_view (due : Bool) (s : Assembly) :
    view (swapIf due s).1 = (flushIf due (view s)).1 ∧
      (swapIf due s).2.map Published.data = (flushIf due (view s)).2 := by
  cases due with
  | false => exact ⟨rfl, rfl⟩
  | true => exact ⟨by simp [view, swapIf, swapBuffers, swapHold, resetWorking, flushIf, flush], rfl⟩

/-- A payload that is taken in, as a chunk: a header too short for a frame id leaves the tag as it
is. -/
def Taken.chunk {s t : Assembly} {payload : List UInt8} {pubs : List Published}
    (h : Taken s payload t pubs) : Chunk UInt8 UInt8 :=
  ⟨h.mid.fid, decide (h.info &&& 0x02 ≠ 0), (payload.drop h.headerLen).take h.dataLen⟩

theorem Taken.stale_eq {s t : Assembly} {payload : List UInt8} {pubs : List Published}
    (hb : s.Bounded) (h : Taken s payload t pubs) :
    flips s h.headerLen h.info = stale (view s) h.chunk.tag := by
  have hne : (s.gotBytes != 0) = ((view s).pending != []) := by
    rw [Bool.eq_iff_iff, bne_iff_ne, bne_iff_ne]
    exact (view_pending_ne_nil hb).symm
  have hfid : h.chunk.tag = if h.headerLen < 2 then s.fid else h.info &&& 1 := h.fid
  rw [flips, stale, hne, hfid]
  by_cases hshort : h.headerLen < 2
  · simp [hshort, view]
  · simp [hshort, view, Nat.le_of_not_lt hshort]

/-- The handle between the two swaps has the chunk added to what the first one left. -/
theorem Taken.view_mid {s t : Assembly} {payload : List UInt8} {pubs : List Published}
    (hb : s.Bounded) (h : Taken s payload t pubs) :
    view h.mid = extend s.maxVideoFrameSize.toNat
      (flushIf (stale (view s) h.chunk.tag) (view s)).1 h.chunk := by
  have hpend := h.pending
  rw [h.stale_eq hb] at hpend
  rw [← (swapIf_view (stale (view s) h.chunk.tag) s).1, extend, view, hpend]
  rfl

theorem view_pending_length {s : Assembly} (h : s.Bounded) :
    (view s).pending.length = s.gotBytes := by
  rw [view, List.length_take, h.outbuf]
  exact Nat.min_eq_left h.got

/-- The second swap is due exactly when the chunk completes a record. -/
theorem Taken.due_eq {s t : Assembly} {payload : List UInt8} {pubs : List Published}
    (hb : s.Bounded) (h : Taken s payload t pubs) :
    h.due = complete s.maxVideoFrameSize.toNat
      (flushIf (stale (view s) h.chunk.tag) (view s)).1 h.chunk := by
  have hlen := view_pending_length h.bounded
  have hdata : 0 < h.dataLen ↔ h.chunk.data ≠ [] := by
    have hinside := h.inside
    rw [← List.length_pos_iff, Taken.chunk, List.length_take, List.length_drop]
    omega
  rw [h.isDue, complete, ← h.view_mid hb, hlen, Bool.eq_iff_iff]
  simp only [decide_eq_true_eq, Bool.and_eq_true, Bool.or_eq_true, bne_iff_ne, beq_iff_eq, hdata]
  simp only [Taken.chunk, decide_eq_true_eq]

/-- **The code is the receiver.**  A payload that is taken in moves the pending image data and
publishes frames exactly as `absorb` does. -/
theorem Taken.view_eq {s t : Assembly} {payload : List UInt8} {pubs : List Published}
    (hb : s.Bounded) (h : Taken s payload t pubs) :
    view t = (absorb s.maxVideoFrameSize.toNat (view s) h.chunk).1 ∧
      pubs.map Published.data = (absorb s.maxVideoFrameSize.toNat (view s) h.chunk).2 := by
  obtain ⟨-, hd1⟩ := swapIf_view (stale (view s) h.chunk.tag) s
  obtain ⟨hv2, hd2⟩ := swapIf_view h.due h.mid
  rw [h.view_mid hb, h.due_eq hb] at hv2 hd2
  constructor
  · refine (congrArg view h.final).trans ?_
    rw [h.due_eq hb, hv2]
    rfl
  · refine (congrArg (List.map Published.data) h.published).trans ?_
    rw [List.map_append, h.stale_eq hb, hd1, h.due_eq hb, hd2]
    rfl

/-- What a payload that is taken in leaves alone. -/
theorem Taken.frame {s t : Assembly} {payload : List UInt8} {pubs : List Published}
    (h : Taken s payload t pubs) :
    t.Bounded ∧ t.isIsight = s.isIsight ∧ t.curCtrl = s.curCtrl := by
  refine ⟨?_, ?_, ?_⟩
  · rw [h.final]
    exact swapIf_bounded _ h.bounded
  · rw [h.final, swapIf_isIsight, h.isIsight]
  · rw [h.final, swapIf_curCtrl, h.curCtrl]

/-- A payload as a well-behaved camera builds it: a header of 2 to 255 bytes that gives its own
length, flags with the error bit clear, any extension bytes, and then a piece of the image. -/
structure WirePayload where
  info : UInt8
  ext : List UInt8
  data : List UInt8
  short : ext.length ≤ 253
  noError : info &&& 0x40 = 0

/-- The bytes of a payload. -/
def WirePayload.bytes (p : WirePayload) : List UInt8 :=
  UInt8.ofNat (2 + p.ext.length) :: p.info :: (p.ext ++ p.data)

/-- The payload as a chunk: the frame id is the tag, the EOF bit the end mark. -/
def WirePayload.chunk (p : WirePayload) : Chunk UInt8 UInt8 :=
  ⟨p.info &&& 1, decide (p.info &&& 0x02 ≠ 0), p.data⟩

theorem payloadSplit_bytes (p : WirePayload) :
    payloadSplit false p.bytes = .ok (some (2 + p.ext.length, p.data.length)) := by
  have hlen : p.bytes.length = 2 + p.ext.length + p.data.length := by
    simp [WirePayload.bytes]
    omega
  have hnat : (UInt8.ofNat (2 + p.ext.length)).toNat = 2 + p.ext.length := by
    rw [UInt8.toNat_ofNat', Nat.mod_eq_of_lt (by have := p.short; omega)]
  have hfirst : byteAt p.bytes 0 = UInt8.ofNat (2 + p.ext.length) := rfl
  rw [payloadSplit, if_neg (by omega), untagged]
  simp only [Bool.false_eq_true, if_false, pure_bind']
  rw [readByte_eq (by omega), ok_bind, hfirst, hnat, if_neg (by omega), sub_eq (by omega), ok_bind,
    hlen, Nat.add_sub_cancel_left]
  rfl

theorem headerInfo_bytes (p : WirePayload) :
    headerInfo p.bytes (2 + p.ext.length) = .ok (some p.info) := by
  have hlen : 2 + p.ext.length ≤ p.bytes.length := by
    simp [WirePayload.bytes]
    omega
  have hinfo : byteAt p.bytes 1 = p.info := rfl
  rw [headerInfo_eq hlen, if_neg (by omega), hinfo, if_neg (not_not.2 p.noError)]

theorem data_of_bytes (p : WirePayload) :
    (p.bytes.drop (2 + p.ext.length)).take p.data.length = p.data := by
  simp [WirePayload.bytes, Nat.add_comm 2]

/-- On a handle that is not an iSight's, a payload with the error bit clear is taken in as its
chunk. -/
theorem processPayload_absorb {s : Assembly} (h : s.Bounded) (hi : s.isIsight = false)
    (p : WirePayload) :
    ∃ t pubs, processPayload s p.bytes = .ok (t, pubs) ∧ t.Bounded ∧ t.isIsight = false ∧
      t.curCtrl = s.curCtrl ∧
      view t = (absorb s.maxVideoFrameSize.toNat (view s) p.chunk).1 ∧
      pubs.map Published.data = (absorb s.maxVideoFrameSize.toNat (view s) p.chunk).2 := by
  have hsplit := payloadSplit_bytes p
  rw [← hi] at hsplit
  rcases processPayload_cases h p.bytes with ⟨hn, -⟩ | ⟨_, _, hn, hflag, -⟩ | ⟨t, pubs, hp, ⟨ht⟩⟩
  · cases hn.symm.trans hsplit
  · cases hn.symm.trans hsplit
    cases hflag.symm.trans (headerInfo_bytes p)
  · have hchunk : ht.chunk = p.chunk := by
      obtain ⟨hheader, hdata⟩ := Prod.mk.inj
        (Option.some.inj (Except.ok.inj (ht.split.symm.trans hsplit)))
      have hflags := ht.flags
      rw [hheader] at hflags
      have hinfo := Option.some.inj (Except.ok.inj (hflags.symm.trans (headerInfo_bytes p)))
      rw [Taken.chunk, ht.fid, hheader, hdata, hinfo, data_of_bytes, if_neg (by omega)]
      rfl
    obtain ⟨hb, hisight, hctrl⟩ := ht.frame
    rw [← hchunk]
    exact ⟨t, pubs, hp, hb, hisight.trans hi, hctrl, ht.view_eq h⟩

/-- The same for a sequence of payloads. -/
theorem processPayloads_absorbAll (ps : List WirePayload) :
    ∀ {s : Assembly}, s.Bounded → s.isIsight = false →
      ∃ t pubs, processPayloads s (ps.map WirePayload.bytes) = .ok (t, pubs) ∧ t.Bounded ∧
        view t = (absorbAll s.maxVideoFrameSize.toNat (view s) (ps.map WirePayload.chunk)).1 ∧
        pubs.map Published.data =
          (absorbAll s.maxVideoFrameSize.toNat (view s) (ps.map WirePayload.chunk)).2 := by
  induction ps with
  | nil => exact fun h _ => ⟨_, [], rfl, h, rfl, rfl⟩
  | cons p ps ih =>
    intro s h hi
    obtain ⟨u, a, hu, hub, hui, hum, huv, hua⟩ := processPayload_absorb h hi p
    obtain ⟨t, b, ht, htb, htv, htp⟩ := ih hub hui
    rw [Assembly.maxVideoFrameSize, hum, huv] at htv htp
    rw [List.map_cons, processPayloads, hu, ok_bind]
    simp only []
    rw [ht, ok_bind]
    refine ⟨t, a ++ b, rfl, htb, htv, ?_⟩
    rw [List.map_append, hua, htp]
    rfl

/-! ## Frames -/

/-- A frame as it is sent: one or more payloads with the frame's id, the EOF bit on the last one if
on any. -/
structure WireFrame where
  fid : UInt8
  payloads : List WirePayload
  nonempty : payloads ≠ []
  tagged : ∀ p ∈ payloads, p.info &&& 1 = fid
  marked : ∀ p ∈ payloads.dropLast, p.info &&& 0x02 = 0

/-- The image a frame carries. -/
def WireFrame.image (f : WireFrame) : List UInt8 := f.payloads.flatMap WirePayload.data

/-- The frame is full, or its last payload has the EOF bit and some image data. -/
def WireFrame.Closed (maxVideoFrameSize : UInt32) (f : WireFrame) : Prop :=
  f.image.length = maxVideoFrameSize.toNat ∨
    ∃ p, f.payloads.getLast? = some p ∧ p.info &&& 0x02 ≠ 0 ∧ p.data ≠ []

/-- The frame as a record. -/
def WireFrame.record (f : WireFrame) : Record UInt8 UInt8 where
  tag := f.fid
  chunks := f.payloads.map WirePayload.chunk
  nonempty := by simpa using f.nonempty
  tagged := by
    intro c hc
    obtain ⟨p, hp, rfl⟩ := List.mem_map.1 hc
    exact f.tagged p hp
  marked := by
    intro c hc
    rw [← List.map_dropLast, List.mem_map] at hc
    obtain ⟨p, hp, rfl⟩ := hc
    simp [WirePayload.chunk, f.marked p hp]

theorem record_content (f : WireFrame) : f.record.content = f.image := by
  rw [Record.content, joined, WireFrame.record, List.flatMap_map]
  rfl

theorem record_closed (m : UInt32) (f : WireFrame) : f.record.Closed m.toNat ↔ f.Closed m := by
  rw [Record.Closed, record_content, WireFrame.Closed, endsMarked, WireFrame.record]
  simp only [List.getLast?_map, Option.map_eq_some_iff, WirePayload.chunk]
  refine or_congr_right ⟨?_, ?_⟩
  · rintro ⟨_, ⟨p, hp, rfl⟩, h1, h2⟩
    exact ⟨p, hp, by simpa using h1, h2⟩
  · rintro ⟨p, hp, h1, h2⟩
    exact ⟨_, ⟨p, hp, rfl⟩, by simpa using h1, h2⟩

/-- The bytes of a sequence of frames, payload by payload. -/
def wire (fs : List WireFrame) : List (List UInt8) :=
  fs.flatMap fun f => f.payloads.map WirePayload.bytes

/-- What a stream looks like after a sequence of frames: those published and the one still in
`outbuf` are together exactly the frames sent. -/
theorem processPayloads_wire {m : UInt32} (hm : 0 < m.toNat) {s : Assembly} (h : s.Bounded)
    (hi : s.isIsight = false) (hsize : s.maxVideoFrameSize = m) (hgot : s.gotBytes = 0)
    (hseq : s.seq = 1) (fs : List WireFrame) (halt : fs.IsChain fun f g => f.fid ≠ g.fid)
    (hfit : ∀ f ∈ fs, f.image ≠ [] ∧ f.image.length ≤ m.toNat) :
    ∃ t pubs, processPayloads s (wire fs) = .ok (t, pubs) ∧
      pubs.map (fun p => (p.seq, p.data)) = numbered (pubs.map Published.data) ∧
      pubs.map Published.data ++ owed (view t) = fs.map WireFrame.image ∧
      ∀ f, fs.getLast? = some f →
        (f.Closed m → (view t).pending = []) ∧ (¬ f.Closed m → (view t).pending = f.image) := by
  subst hsize
  have hwire : wire fs = (fs.flatMap WireFrame.payloads).map WirePayload.bytes := by
    rw [wire, List.map_flatMap]
  obtain ⟨t, pubs, ht, -, htv, htp⟩ :=
    processPayloads_absorbAll (fs.flatMap WireFrame.payloads) h hi
  have hchunks : (fs.flatMap WireFrame.payloads).map WirePayload.chunk =
      (fs.map WireFrame.record).flatMap Record.chunks := by
    rw [List.map_flatMap, List.flatMap_map]
    rfl
  have hview : view s = ⟨s.fid, []⟩ := by rw [view, hgot, List.take_zero]
  rw [hchunks, hview] at htv htp
  obtain ⟨hout, hlast⟩ := absorbAll_records hm s.fid (fs.map WireFrame.record)
    ((List.isChain_map _).2 halt) (by
      intro r hr
      obtain ⟨f, hf, rfl⟩ := List.mem_map.1 hr
      rw [record_content]
      exact hfit f hf)
  rw [← htv, ← htp] at hout
  rw [← htv] at hlast
  have hnum := (processPayloads_numbered h ht).1
  rw [hseq, show (1 : UInt32) = UInt32.ofNat 1 from rfl] at hnum
  refine ⟨t, pubs, hwire ▸ ht, hnum.map_eq, ?_, fun f hf => ?_⟩
  · rw [hout, List.map_map]
    exact List.map_congr_left fun f _ => record_content f
  · obtain ⟨-, hc, ho⟩ := hlast f.record (by rw [List.getLast?_map, hf]; rfl)
    rw [record_closed] at hc ho
    exact ⟨hc, fun h => (ho h).trans (record_content f)⟩

/-- **Frame reassembly.**  A stream that is not an iSight's, in the state a first `uvc_stream_start`
leaves it in, is sent frames of 1 to `dwMaxVideoFrameSize` bytes whose ids alternate, each cut into
payloads in any way.  Then the frames before the last are published whole and in order, numbered
from 1 in the 32 bits of the counter; the last one is published too, with the next number, exactly
when it is full or its last payload carries EOF and some data, and is otherwise what `outbuf` holds
below `got_bytes`. -/
theorem processPayloads_frames (ctrl : StreamCtrl) (m : UInt32)
    (hctrl : ctrl.dwMaxVideoFrameSize = m) (hm : 1 ≤ m.toNat) (o h mo mh : List UInt8)
    (ho : o.length = m.toNat) (hh : h.length = m.toNat) (hmo : mo.length = xferMetaBufSize)
    (hmh : mh.length = xferMetaBufSize) (fs : List WireFrame) (last : WireFrame)
    (halt : (fs ++ [last]).IsChain fun f g => f.fid ≠ g.fid)
    (hfit : ∀ f ∈ fs ++ [last], 1 ≤ f.image.length ∧ f.image.length ≤ m.toNat) :
    ∃ t pubs, processPayloads (started false ctrl o h mo mh) (wire (fs ++ [last])) =
        .ok (t, pubs) ∧
      (last.Closed m → pubs.map (fun p => (p.seq, p.data)) =
        numbered ((fs ++ [last]).map WireFrame.image)) ∧
      (¬ last.Closed m → pubs.map (fun p => (p.seq, p.data)) = numbered (fs.map WireFrame.image) ∧
        t.outbuf.take t.gotBytes = last.image) := by
  have hfit' : ∀ f ∈ fs ++ [last], f.image ≠ [] ∧ f.image.length ≤ m.toNat := fun f hf =>
    ⟨List.ne_nil_of_length_pos (hfit f hf).1, (hfit f hf).2⟩
  obtain ⟨t, pubs, hrun, hnum, hall, hlast⟩ := processPayloads_wire hm
    (started_bounded (hctrl ▸ ho) (hctrl ▸ hh) hmo hmh) rfl hctrl rfl rfl (fs ++ [last]) halt
    hfit'
  obtain ⟨hclosed, hopen⟩ := hlast last (by simp)
  refine ⟨t, pubs, hrun, fun hc => ?_, fun hc => ?_⟩
  · rw [owed, if_pos (hclosed hc), List.append_nil] at hall
    rw [hnum, hall]
  · have hne : (view t).pending ≠ [] := by
      rw [hopen hc]
      exact (hfit' last (by simp)).1
    rw [owed, if_neg hne, hopen hc, List.map_append] at hall
    have hfront : pubs.map Published.data = fs.map WireFrame.image :=
      (List.append_inj' hall rfl).1
    exact ⟨by rw [hnum, hfront], hopen hc⟩

/-- A payload with one byte of image data, EOF set, and the given frame id. -/
def blinkPayload (odd : Bool) : WirePayload where
  info := if odd then 0x03 else 0x02
  ext := []
  data := [7]
  short := by decide
  noError := by cases odd <;> decide

/-- A one-byte frame. -/
def blinkFrame (odd : Bool) : WireFrame where
  fid := if odd then 1 else 0
  payloads := [blinkPayload odd]
  nonempty := by simp
  tagged := by
    intro p hp
    obtain rfl := List.mem_singleton.1 hp
    cases odd <;> decide
  marked := by simp

/-- `n` one-byte frames with alternating ids. -/
def blinkFrames (n : Nat) : List WireFrame := (List.range n).map fun i => blinkFrame (i % 2 == 1)

theorem blinkFrame_image (odd : Bool) : (blinkFrame odd).image = [7] := by cases odd <;> rfl

theorem blinkFrame_closed (m : UInt32) (odd : Bool) : (blinkFrame odd).Closed m :=
  Or.inr ⟨blinkPayload odd, rfl, by cases odd <;> decide, by simp [blinkPayload]⟩

theorem blinkFrames_alternate (n : Nat) :
    (blinkFrames n).IsChain fun f g => f.fid ≠ g.fid := by
  rw [blinkFrames, List.isChain_map, List.isChain_range]
  intro i _
  rcases Nat.mod_two_eq_zero_or_one i with h | h
  · rw [h, show (i + 1) % 2 = 1 by omega]
    decide
  · rw [h, show (i + 1) % 2 = 0 by omega]
    decide

/-- The stream the one-byte frames are sent on. -/
def blinkStream : Assembly :=
  started false { dwMaxVideoFrameSize := 4 } [0, 0, 0, 0] [0, 0, 0, 0]
    (List.replicate xferMetaBufSize 0) (List.replicate xferMetaBufSize 0)

/-- Two frames of one byte each. -/
theorem processPayloads_frames_two :
    ∃ t pubs, processPayloads blinkStream (wire ([blinkFrame false] ++ [blinkFrame true])) =
        .ok (t, pubs) ∧
      ((blinkFrame true).Closed 4 → pubs.map (fun p => (p.seq, p.data)) =
        numbered (([blinkFrame false] ++ [blinkFrame true]).map WireFrame.image)) ∧
      (¬ (blinkFrame true).Closed 4 → pubs.map (fun p => (p.seq, p.data)) =
        numbered ([blinkFrame false].map WireFrame.image) ∧
        t.outbuf.take t.gotBytes = (blinkFrame true).image) :=
  processPayloads_frames _ 4 rfl (by decide) _ _ _ _ rfl rfl (List.length_replicate ..)
    (List.length_replicate ..) _ _ (by decide) (by
      intro f hf
      rcases List.mem_append.1 hf with hf | hf <;> obtain rfl := List.mem_singleton.1 hf <;> decide)

theorem blinkStream_bounded : blinkStream.Bounded :=
  started_bounded rfl rfl (List.length_replicate ..) (List.length_replicate ..)

/-- The last of `n` one-byte frames is published with the number `n`, modulo `2 ^ 32`. -/
theorem blinkFrames_last (n : Nat) (hn : 0 < n) :
    ∃ t pubs, processPayloads blinkStream (wire (blinkFrames n)) = .ok (t, pubs) ∧
      (pubs[n - 1]?).map Published.seq = some (UInt32.ofNat n) := by
  have himage : (blinkFrames n).map WireFrame.image = List.replicate n [7] := by
    rw [blinkFrames, List.map_map, List.eq_replicate_iff]
    simp only [List.length_map, List.length_range, List.mem_map, Function.comp, true_and]
    rintro _ ⟨i, -, rfl⟩
    exact blinkFrame_image _
  obtain ⟨t, pubs, hrun, hnum, hall, hlast⟩ := processPayloads_wire (m := 4) (by decide)
    blinkStream_bounded rfl rfl rfl rfl
    (blinkFrames n) (blinkFrames_alternate n) (by
      intro f hf
      have hmem := List.mem_map_of_mem (f := WireFrame.image) hf
      rw [himage, List.mem_replicate] at hmem
      rw [hmem.2]
      decide)
  refine ⟨t, pubs, hrun, ?_⟩
  have hend : (blinkFrames n).getLast? = some (blinkFrame ((n - 1) % 2 == 1)) := by
    rw [blinkFrames, List.getLast?_map, List.getLast?_range, if_neg (by omega)]
    rfl
  rw [owed, if_pos ((hlast _ hend).1 (blinkFrame_closed _ _)), List.append_nil, himage] at hall
  have hat := congrArg (fun l => (l[n - 1]?).map Prod.fst) hnum
  simp only [List.getElem?_map, Option.map_map, hall, numbered, List.getElem?_zipIdx,
    List.getElem?_replicate, if_pos (show n - 1 < n by omega)] at hat
  rw [show n = 1 + (n - 1) by omega]
  simpa using hat

/-- The counter has 32 bits: the `2 ^ 32`-th frame of a stream is published with number 0. -/
theorem blinkFrames_wrap :
    ∃ t pubs, processPayloads blinkStream (wire (blinkFrames (2 ^ 32))) = .ok (t, pubs) ∧
      pubs.map (fun p => (p.seq.toNat, p.data)) ≠
        ((blinkFrames (2 ^ 32)).map WireFrame.image).zipIdx.map fun x => (x.2 + 1, x.1) := by
  obtain ⟨t, pubs, hrun, hseq⟩ := blinkFrames_last (2 ^ 32) (by decide)
  refine ⟨t, pubs, hrun, fun heq => ?_⟩
  have hat := congrArg (fun l => (l[2 ^ 32 - 1]?).map Prod.fst) heq
  obtain ⟨p, hp, hpseq⟩ := Option.map_eq_some_iff.1 hseq
  simp only [List.getElem?_map, Option.map_map, hp, Option.map_some, hpseq,
    List.getElem?_zipIdx] at hat
  cases hx : ((blinkFrames (2 ^ 32))[2 ^ 32 - 1]?) with
  | none =>
    rw [hx] at hat
    simp at hat
  | some f =>
    rw [hx] at hat
    simp at hat

end Stream
end LibUvc
