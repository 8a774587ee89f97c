import LibUvc.Stream.Playback

/-!
# Starting a stream again

`uvc_stream_start` sets `running`, `seq`, `fid`, `pts` and `last_scr`.  Everything else that a run
leaves behind in the handle is still there in the next one: a frame that was not finished, with its
metadata and its error flag, the frame that was published last and its number, the number that was
polled last, and the frame record.  So a second run is like the first run of a new handle only after
a run that left none of this.

* `Playback.restart` is the second start, after a stop that returned `UVC_SUCCESS`.
* `observe` is what a run shows: the frames published and the frames handed out.
* `restart_like_new`: after a run that published nothing and left nothing unfinished
  (`Playback.Spotless`), every schedule of the second run shows what it shows on a new handle.
* `restart_stale` and `restart_unfinished`: after a run that published a frame, or left one
  unfinished, there is a schedule that shows it.

The proof runs the two handles side by side.  `Assembly.Alike` compares what can still be seen of
two handles, so not the bytes of the buffers beyond the fill levels, and the pieces of
`_uvc_process_payload` keep it.
-/

set_option autoImplicit false

namespace LibUvc
namespace Stream

open Checked Transition Descriptor

/-! ## The second start -/

/-- `uvc_stream_stop` has returned `UVC_SUCCESS`: no transfer is left that could be in a callback,
the user's thread has been joined, and nobody is in `uvc_stream_get_frame`. -/
def Playback.stopped (p : Playback) : Bool :=
  !p.pipe.running && p.pipe.event == .idle &&
    (p.pipe.consumer == .exited || p.pipe.consumer == .polled)

/-- `uvc_stream_start` on a handle that has run before, with nothing published or handed out yet in
the new run. -/
def Playback.restart (p : Playback) (callback : Bool) : Option Playback :=
  if p.stopped then
    some {
      pipe := {
        asm := { p.pipe.asm with seq := 1, fid := 0, pts := 0, lastScr := 0 }
        lastPolledSeq := p.pipe.lastPolledSeq
        consumer := if callback then .checking 0 else .polled }
      frame := p.frame }
  else none

theorem eq_of_restart {p q : Playback} {callback : Bool} (hq : p.restart callback = some q) :
    q = {
      pipe := {
        asm := { p.pipe.asm with seq := 1, fid := 0, pts := 0, lastScr := 0 }
        lastPolledSeq := p.pipe.lastPolledSeq
        consumer := if callback then .checking 0 else .polled }
      frame := p.frame } := by
  rw [Playback.restart] at hq
  split at hq
  · exact (Option.some.inj hq).symm
  · cases hq

/-- Number, data and metadata of a frame. -/
structure FrameContent where
  sequence : UInt32
  data : List UInt8
  metadata : List UInt8
  deriving DecidableEq, Repr

def Published.content (f : Published) : FrameContent := ⟨f.seq, f.data, f.metadata⟩

def HandedFrame.content (H : HandedFrame) : FrameContent :=
  ⟨H.frame.sequence, H.frame.image, H.frame.shownMetadata⟩

/-- What a run shows: the frames published, and the frames handed out. -/
def observe (p : Playback) : List FrameContent × List FrameContent :=
  (p.pipe.published.map Published.content, p.handed.map HandedFrame.content)

/-- The application polls without waiting. -/
def pollsAtOnce : PipelineAction → Bool
  | .getFrame timeoutUs => timeoutUs == -1
  | _ => true

/-- The run published nothing, and left no bytes of a frame that was not finished, no metadata of
one, and no error flag; the last is of no concern to an application that polls without waiting,
since the flag only keeps a consumer asleep. -/
structure Playback.Spotless (p : Playback) (callback : Bool) : Prop where
  published : p.pipe.published = []
  gotBytes : p.pipe.asm.gotBytes = 0
  metaGotBytes : p.pipe.asm.metaGotBytes = 0
  frameHadErrors : callback = true → p.pipe.asm.frameHadErrors = false

/-! ## Two handles side by side -/

/-- Two handles between which no run can tell the difference, the error flag apart. -/
structure Assembly.Alike (s t : Assembly) : Prop where
  isIsight : s.isIsight = t.isIsight
  curCtrl : s.curCtrl = t.curCtrl
  fid : s.fid = t.fid
  seq : s.seq = t.seq
  holdSeq : s.holdSeq = t.holdSeq
  pts : s.pts = t.pts
  lastScr : s.lastScr = t.lastScr
  gotBytes : s.gotBytes = t.gotBytes
  holdBytes : s.holdBytes = t.holdBytes
  metaGotBytes : s.metaGotBytes = t.metaGotBytes
  metaHoldBytes : s.metaHoldBytes = t.metaHoldBytes
  out : s.outbuf.take s.gotBytes = t.outbuf.take t.gotBytes
  hold : s.holdbuf.take s.holdBytes = t.holdbuf.take t.holdBytes
  metaOut : s.metaOutbuf.take s.metaGotBytes = t.metaOutbuf.take t.metaGotBytes
  metaHold : s.metaHoldbuf.take s.metaHoldBytes = t.metaHoldbuf.take t.metaHoldBytes

section Payload

variable {s t : Assembly} (h : s.Alike t) {payload : List UInt8} {headerLen : Nat}

include h

theorem swapBuffers_alike : (swapBuffers s).Alike (swapBuffers t) where
  isIsight := h.isIsight
  curCtrl := h.curCtrl
  fid := h.fid
  seq := congrArg (· + 1) h.seq
  holdSeq := h.seq
  pts := rfl
  lastScr := rfl
  gotBytes := rfl
  holdBytes := h.gotBytes
  metaGotBytes := rfl
  metaHoldBytes := h.metaGotBytes
  out := rfl
  hold := h.out
  metaOut := rfl
  metaHold := h.metaOut

theorem notePts_alike (info : UInt8) (hle : headerLen ≤ payload.length) :
    ∃ v, notePts s payload headerLen info = .ok { s with pts := v } ∧
      notePts t payload headerLen info = .ok { t with pts := v } := by
  obtain ⟨v, hv⟩ := headerField_ok 2 hle
  rw [notePts, notePts, hv]
  split
  · exact ⟨v, rfl, rfl⟩
  · refine ⟨s.pts, rfl, ?_⟩
    rw [h.pts]
    rfl

theorem noteScr_alike (info : UInt8) (hle : headerLen ≤ payload.length) :
    ∃ v, noteScr s payload headerLen info = .ok { s with lastScr := v } ∧
      noteScr t payload headerLen info = .ok { t with lastScr := v } := by
  obtain ⟨v, hv⟩ := headerField_ok (scrOffset info) hle
  rw [noteScr, noteScr, hv]
  split
  · exact ⟨v, rfl, rfl⟩
  · refine ⟨s.lastScr, rfl, ?_⟩
    rw [h.lastScr]
    rfl

theorem noteMetadata_alike (off : Nat) (hle : headerLen ≤ payload.length)
    (hs : s.metaOutbuf.length = xferMetaBufSize) (ht : t.metaOutbuf.length = xferMetaBufSize)
    (hgot : s.metaGotBytes ≤ xferMetaBufSize) :
    ∃ m m' k, noteMetadata s payload headerLen off =
        .ok { s with metaOutbuf := m, metaGotBytes := k } ∧
      noteMetadata t payload headerLen off =
        .ok { t with metaOutbuf := m', metaGotBytes := k } ∧ m.take k = m'.take k := by
  rw [noteMetadata, noteMetadata, ← h.metaGotBytes]
  split
  · obtain ⟨n, hn, hnle, hfit, -⟩ := clamp_ok (headerLen - off) hgot
    have hlen : ((payload.drop off).take n).length = n := by
      rw [List.length_take, List.length_drop]
      omega
    have hsfit : s.metaGotBytes + ((payload.drop off).take n).length ≤ s.metaOutbuf.length := by
      omega
    have htfit : s.metaGotBytes + ((payload.drop off).take n).length ≤ t.metaOutbuf.length := by
      omega
    have hrest : sub headerLen off = .ok (headerLen - off) := sub_eq (by omega)
    have hbytes : slice payload off n = .ok ((payload.drop off).take n) := slice_eq (by omega)
    simp only [hrest, ok_bind, hn, hbytes, blit_eq hsfit, blit_eq htfit]
    refine ⟨_, _, _, rfl, rfl, ?_⟩
    have htakes := take_blit hsfit
    have htaket := take_blit htfit
    rw [hlen] at htakes htaket ⊢
    rw [htakes, htaket, h.metaOut, h.metaGotBytes]
  · refine ⟨s.metaOutbuf, t.metaOutbuf, s.metaGotBytes, rfl, ?_, ?_⟩
    · rw [h.metaGotBytes]
      rfl
    · rw [h.metaOut, h.metaGotBytes]

/-- A header leaves the same in both handles. -/
theorem noteHeader_alike (info : UInt8) (hle : headerLen ≤ payload.length)
    (hs : s.metaOutbuf.length = xferMetaBufSize) (ht : t.metaOutbuf.length = xferMetaBufSize)
    (hgot : s.metaGotBytes ≤ xferMetaBufSize) :
    ∃ f p c m m' k, noteHeader s payload headerLen info =
        .ok { s with fid := f, pts := p, lastScr := c, metaOutbuf := m, metaGotBytes := k } ∧
      noteHeader t payload headerLen info =
        .ok { t with fid := f, pts := p, lastScr := c, metaOutbuf := m', metaGotBytes := k } ∧
      m.take k = m'.take k := by
  rw [noteHeader, noteHeader]
  split
  · refine ⟨s.fid, s.pts, s.lastScr, s.metaOutbuf, t.metaOutbuf, s.metaGotBytes, rfl, ?_, ?_⟩
    · rw [h.fid, h.pts, h.lastScr, h.metaGotBytes]
      rfl
    · rw [h.metaOut, h.metaGotBytes]
  · have h1 : Assembly.Alike { s with fid := info &&& 1 } { t with fid := info &&& 1 } :=
      { h with fid := rfl }
    obtain ⟨p, hps, hpt⟩ := notePts_alike h1 info hle
    have h2 : Assembly.Alike { s with fid := info &&& 1, pts := p }
        { t with fid := info &&& 1, pts := p } := { h1 with pts := rfl }
    obtain ⟨c, hcs, hct⟩ := noteScr_alike h2 info hle
    obtain ⟨m, m', k, hms, hmt, hm⟩ := noteMetadata_alike
      (s := { s with fid := info &&& 1, pts := p, lastScr := c })
      (t := { t with fid := info &&& 1, pts := p, lastScr := c }) { h2 with lastScr := rfl }
      (metaOffset info) hle hs ht hgot
    refine ⟨info &&& 1, p, c, m, m', k, ?_, ?_, hm⟩
    · rw [hps, ok_bind, hcs, ok_bind, hms]
    · rw [hpt, ok_bind, hct, ok_bind, hmt]

/-- The image data is appended in both handles, and completes the frame in both or in neither. -/
theorem appendData_alike {dataLen : Nat} (info : UInt8)
    (hle : headerLen + dataLen ≤ payload.length)
    (hs : s.outbuf.length = s.maxVideoFrameSize.toNat)
    (ht : t.outbuf.length = t.maxVideoFrameSize.toNat)
    (hgot : s.gotBytes ≤ s.maxVideoFrameSize.toNat) :
    ∃ o o' g due, appendData s payload headerLen dataLen info =
        .ok ({ s with outbuf := o, gotBytes := g }, due) ∧
      appendData t payload headerLen dataLen info =
        .ok ({ t with outbuf := o', gotBytes := g }, due) ∧ o.take g = o'.take g := by
  have hmax : s.maxVideoFrameSize = t.maxVideoFrameSize :=
    congrArg StreamCtrl.dwMaxVideoFrameSize h.curCtrl
  obtain ⟨o, g, hos, -, hg, htake⟩ := appendData_ok info hle hs hgot
  obtain ⟨o', g', hot, -, hg', htake'⟩ := appendData_ok info hle ht
    (by rw [← hmax, ← h.gotBytes]; exact hgot)
  obtain rfl : g = g' := by rw [hg, hg', hmax, h.gotBytes]
  rw [← hmax] at hot
  exact ⟨o, o', g, _, hos, hot, by rw [htake, htake', h.out, hmax]⟩

end Payload

/-! ## Two streams side by side -/

/-- Two streams in the same place, on handles that are alike.  The error flags may differ where
there is nobody that one of them could keep asleep. -/
structure Pipeline.Alike (p q : Pipeline) : Prop where
  asm : p.asm.Alike q.asm
  running : p.running = q.running
  lastPolledSeq : p.lastPolledSeq = q.lastPolledSeq
  event : p.event = q.event
  consumer : p.consumer = q.consumer
  frameHadErrors : p.asm.frameHadErrors = q.asm.frameHadErrors ∨ p.consumer = .polled
  published : p.published.map Published.content = q.published.map Published.content
  delivered : p.delivered = q.delivered

section Steps

variable {p q : Pipeline} (h : p.Alike q)

include h

theorem publish_alike : p.publish.Alike q.publish where
  asm := swapBuffers_alike h.asm
  running := h.running
  lastPolledSeq := h.lastPolledSeq
  event := h.event
  consumer := by
    rw [Pipeline.publish, Pipeline.publish, ← h.consumer]
    rcases h.frameHadErrors with herr | hpolled
    · rw [herr]
    · rw [hpolled, show Consumer.polled.wake = .polled from rfl, ite_self, ite_self]
  frameHadErrors := Or.inl rfl
  published := by
    have hcontent : (frameInProgress p.asm).content = (frameInProgress q.asm).content := by
      simp only [Published.content, frameInProgress, h.asm.seq, h.asm.out, h.asm.metaOut]
    simp only [Pipeline.publish, List.map_append, List.map_singleton, h.published, hcontent]
  delivered := h.delivered

theorem publishIf_alike (due : Bool) : (p.publishIf due).Alike (q.publishIf due) := by
  cases due with
  | false => exact h
  | true => exact publish_alike h

theorem flag_alike :
    Pipeline.Alike { p with asm := { p.asm with frameHadErrors := true } }
      { q with asm := { q.asm with frameHadErrors := true } } :=
  { h with asm := { h.asm with }, frameHadErrors := Or.inl rfl }

theorem payload_alike (bytes : List UInt8) :
    ∃ p' q', p.payload bytes = .ok p' ∧ q.payload bytes = .ok q' ∧ p'.Alike q' := by
  obtain ⟨r, hr, hsplit⟩ := payloadSplit_ok q.asm.isIsight bytes
  rw [Pipeline.payload, Pipeline.payload, h.asm.isIsight, hr, ok_bind, ok_bind]
  cases r with
  | none => exact ⟨p, q, rfl, rfl, h⟩
  | some lengths =>
    obtain ⟨headerLen, dataLen⟩ := lengths
    obtain ⟨-, hle⟩ := hsplit headerLen dataLen rfl
    obtain ⟨i, hi⟩ := headerInfo_ok (by omega : headerLen ≤ bytes.length)
    simp only []
    rw [hi, ok_bind, ok_bind]
    cases i with
    | none => exact ⟨_, _, rfl, rfl, flag_alike h⟩
    | some info =>
      have hflips : flips p.asm headerLen info = flips q.asm headerLen info := by
        rw [flips, flips, h.asm.fid, h.asm.gotBytes]
      have hpub := publishIf_alike h (flips q.asm headerLen info)
      refine ⟨_, _, rfl, rfl, ?_⟩
      rw [hflips]
      exact { hpub with event := rfl }

theorem body_alike (hp : p.InBounds) (hq : q.InBounds) {bytes : List UInt8}
    {headerLen dataLen : Nat} (info : UInt8) (hle : headerLen + dataLen ≤ bytes.length) :
    ∃ p' q', p.body bytes headerLen dataLen info = .ok p' ∧
      q.body bytes headerLen dataLen info = .ok q' ∧ p'.Alike q' := by
  obtain ⟨f, pt, c, m, m', k, hnp, hnq, hm⟩ := noteHeader_alike h.asm info
    (by omega : headerLen ≤ bytes.length) hp.bounded.metaOutbuf hq.bounded.metaOutbuf
    hp.bounded.metaGot
  have hnoted : Assembly.Alike
      { p.asm with fid := f, pts := pt, lastScr := c, metaOutbuf := m, metaGotBytes := k }
      { q.asm with fid := f, pts := pt, lastScr := c, metaOutbuf := m', metaGotBytes := k } :=
    { h.asm with fid := rfl, pts := rfl, lastScr := rfl, metaGotBytes := rfl, metaOut := hm }
  obtain ⟨o, o', g, due, hap, haq, ho⟩ := appendData_alike hnoted info hle hp.bounded.outbuf
    hq.bounded.outbuf hp.bounded.got
  rw [Pipeline.body, Pipeline.body, hnp, hnq, ok_bind, ok_bind, hap, haq, ok_bind, ok_bind]
  refine ⟨_, _, rfl, rfl, publishIf_alike ?_ due⟩
  exact { h with asm := { hnoted with gotBytes := rfl, out := ho }, event := rfl }

theorem deliver_alike : p.deliver.Alike q.deliver := by
  have hlen : p.published.length = q.published.length := by
    simpa using congrArg List.length h.published
  refine { h with asm := h.asm, delivered := ?_ }
  rw [Pipeline.deliver, Pipeline.deliver, h.delivered, h.asm.holdSeq, h.asm.hold, hlen]

/-- The consumers go to the same place; one that polls without waiting stays where it is. -/
theorem consumer_alike (c : Consumer) (hc : p.consumer = .polled → c = .polled) :
    Pipeline.Alike { p with consumer := c } { q with consumer := c } :=
  { h with asm := h.asm, consumer := rfl, frameHadErrors := h.frameHadErrors.imp_right hc }

theorem check_alike {last : UInt32} (hc : p.consumer = .checking last) :
    (p.check last).Alike (q.check last) := by
  have hnot : ∀ c : Consumer, p.consumer = .polled → c = .polled := by
    intro c hpolled
    rw [hc] at hpolled
    cases hpolled
  rw [Pipeline.check, Pipeline.check, h.running, h.asm.holdSeq]
  split
  · exact { consumer_alike h _ (hnot _) with running := rfl }
  · split
    · exact { consumer_alike h _ (hnot _) with running := rfl }
    · exact { consumer_alike (deliver_alike h) _ (hnot _) with running := h.running }

theorem pollOr_alike (c : Consumer) (hc : p.consumer = .polled → c = .polled) :
    (p.pollOr c).Alike (q.pollOr c) := by
  rw [Pipeline.pollOr, Pipeline.pollOr, h.lastPolledSeq, h.asm.holdSeq]
  split
  · exact { consumer_alike (deliver_alike h) .polled (fun _ => rfl) with lastPolledSeq := rfl }
  · exact { consumer_alike h c hc with lastPolledSeq := rfl }

theorem wake_alike :
    Pipeline.Alike { p with consumer := p.consumer.wake }
      { q with consumer := q.consumer.wake } := by
  rw [← h.consumer]
  refine consumer_alike h _ fun hpolled => ?_
  rw [hpolled]
  rfl

/-- **One step of two streams side by side**: both take it and stay alike, or neither does. -/
theorem step_alike (hp : p.InBounds) (hq : q.InBounds) {a : PipelineAction}
    (ha : pollsAtOnce a = true) : Option.Rel Pipeline.Alike (p.step a) (q.step a) := by
  cases a with
  | payload bytes =>
    rw [Pipeline.step, Pipeline.step, ← h.event]
    cases p.event with
    | idle =>
      obtain ⟨p', q', hp', hq', h'⟩ := payload_alike h bytes
      simp only [hp', hq']
      exact .some h'
    | body => exact .none
  | body =>
    rw [Pipeline.step, Pipeline.step, ← h.event]
    cases hevent : p.event with
    | idle => exact .none
    | body bytes headerLen dataLen info =>
      obtain ⟨p', q', hp', hq', h'⟩ := body_alike h hp hq info (hp.inside _ _ _ _ hevent)
      simp only [hp', hq']
      exact .some h'
  | badPacket =>
    rw [Pipeline.step, Pipeline.step, ← h.event]
    cases p.event with
    | idle => exact .some { flag_alike h with event := rfl }
    | body => exact .none
  | broadcast | spurious => exact .some (wake_alike h)
  | stop => exact .some { h with asm := h.asm, running := rfl }
  | look =>
    rw [Pipeline.step, Pipeline.step, ← h.consumer]
    cases hc : p.consumer with
    | checking last => exact .some (check_alike h hc)
    | pollWoken => exact .some (pollOr_alike h .polled fun _ => rfl)
    | waiting | inCallback | exited | polled | pollWaiting => exact .none
  | callbackReturns =>
    rw [Pipeline.step, Pipeline.step, ← h.consumer]
    cases hc : p.consumer with
    | inCallback last =>
      exact .some (consumer_alike h _ fun hpolled => absurd (hc.symm.trans hpolled) (by simp))
    | checking | pollWoken | waiting | exited | polled | pollWaiting => exact .none
  | getFrame timeoutUs =>
    obtain rfl : timeoutUs = -1 := by simpa [pollsAtOnce] using ha
    rw [Pipeline.step, Pipeline.step, ← h.consumer, ← h.running]
    cases hc : p.consumer with
    | polled =>
      simp only []
      split
      · exact .some (pollOr_alike h _ fun _ => rfl)
      · exact .some h
    | checking | pollWoken | waiting | inCallback | exited | pollWaiting => exact .none
  | timeout =>
    rw [Pipeline.step, Pipeline.step, ← h.consumer]
    cases hc : p.consumer with
    | pollWaiting timed =>
      cases timed with
      | true => exact .some (consumer_alike h _ fun _ => rfl)
      | false => exact .none
    | checking | pollWoken | waiting | inCallback | exited | polled => exact .none

end Steps

/-! ## Two records side by side -/

/-- Two frame records that show the same, and have room for as much. -/
structure Frame.Alike (f g : Frame) : Prop where
  sized : f.Sized ∧ g.Sized
  sequence : f.sequence = g.sequence
  dataBytes : f.dataBytes = g.dataBytes
  image : f.image = g.image
  shownMetadata : f.shownMetadata = g.shownMetadata

/-- `_uvc_populate_frame` fills both records alike, whatever is on the heap. -/
theorem populateFrame_alike (junk junk' : Nat → UInt8) (info : DeviceInfo) (format : FrameFormat)
    {s t : Assembly} (h : s.Alike t) (hs : s.HoldBounded) (ht : t.HoldBounded) {f g : Frame}
    (hfg : f.Alike g) :
    Option.Rel Frame.Alike (populateFrame junk info format s f).toOption
      (populateFrame junk' info format t g).toOption := by
  cases hdesc : findFrameDesc info s.curCtrl.bFormatIndex.toUInt16
      s.curCtrl.bFrameIndex.toUInt16 with
  | none =>
    rw [populateFrame, populateFrame, ← h.curCtrl, hdesc]
    exact .none
  | some d =>
    obtain ⟨f', hf, hfsized, -, -, hfheight, hfstep, hfseq, -, hfbytes, hfimage, -, hfmeta⟩ :=
      populateFrame_ok junk format hs hfg.sized.1 hdesc
    obtain ⟨g', hg, hgsized, -, -, hgheight, hgstep, hgseq, -, hgbytes, hgimage, -, hgmeta⟩ :=
      populateFrame_ok junk' format ht hfg.sized.2 (h.curCtrl ▸ hdesc)
    have hsize : f'.imageBytes = g'.imageBytes := by
      rw [Frame.imageBytes, Frame.imageBytes, hfheight, hfstep, hgheight, hgstep]
    have hbytes : f'.dataBytes = g'.dataBytes := by
      rw [hfbytes, hgbytes, Frame.shownBytes, Frame.shownBytes, hfg.dataBytes, h.holdBytes, hsize]
    rw [hf, hg]
    refine .some ⟨⟨hfsized, hgsized⟩, ?_, hbytes, ?_, ?_⟩
    · rw [hfseq, hgseq, h.holdSeq]
    · rw [hfimage, hgimage, h.hold, hbytes, h.holdBytes]
    · rw [hfmeta, hgmeta, h.metaHold, h.metaHoldBytes, hfg.shownMetadata]

/-- Two streams with their records. -/
structure Playback.Alike (p q : Playback) : Prop where
  pipe : p.pipe.Alike q.pipe
  inBounds : p.pipe.InBounds ∧ q.pipe.InBounds
  frame : p.frame.Alike q.frame
  handed : p.handed.map HandedFrame.content = q.handed.map HandedFrame.content

theorem Playback.Alike.observe_eq {p q : Playback} (h : p.Alike q) : observe p = observe q := by
  rw [observe, observe, h.pipe.published, h.handed]

theorem playback_step_alike (junk junk' : Nat → UInt8) (info : DeviceInfo) (format : FrameFormat)
    {p q : Playback} {a : PipelineAction} (h : p.Alike q) (ha : pollsAtOnce a = true) :
    Option.Rel Playback.Alike (p.step junk info format a) (q.step junk' info format a) := by
  refine rel_bind (step_alike h.pipe h.inBounds.1 h.inBounds.2 ha) fun p' q' hp hq hpipe => ?_
  have hbounds : p'.InBounds ∧ q'.InBounds :=
    ⟨(step_inBounds h.inBounds.1 hp).1, (step_inBounds h.inBounds.2 hq).1⟩
  rw [hpipe.delivered, h.pipe.delivered]
  split
  · exact .some ⟨hpipe, hbounds, h.frame, h.handed⟩
  · refine rel_bind (populateFrame_alike junk junk' info format h.pipe.asm h.inBounds.1.held
      h.inBounds.2.held h.frame) fun f g _ _ hfg => .some ⟨hpipe, hbounds, hfg, ?_⟩
    have hcontent : HandedFrame.content ⟨f, p.pipe.asm.holdBytes⟩ =
        HandedFrame.content ⟨g, q.pipe.asm.holdBytes⟩ := by
      simp only [HandedFrame.content, hfg.sequence, hfg.image, hfg.shownMetadata]
    rw [List.map_append, List.map_append, h.handed, List.map_singleton, List.map_singleton,
      hcontent]

/-! ## What a run that published nothing leaves -/

theorem publishIf_nothing {due : Bool} {s : Pipeline} (h : (s.publishIf due).published = []) :
    s.publishIf due = s := by
  cases due with
  | false => rfl
  | true => exact absurd h (by simp [Pipeline.publishIf, Pipeline.publish])

/-- No step changes what the device is, and only a publication fills the hold buffers. -/
theorem step_hold {s t : Pipeline} {a : PipelineAction} (h : s.InBounds) (hs : s.step a = some t) :
    t.asm.isIsight = s.asm.isIsight ∧
      (t.published = [] → t.asm.holdBytes = s.asm.holdBytes ∧
        t.asm.metaHoldBytes = s.asm.metaHoldBytes) := by
  cases step_inv hs with
  | payload _ hok =>
    rcases payload_cases (s := s) _ with ⟨-, hp⟩ | ⟨_, _, -, -, hp⟩ | ⟨_, _, _, -, -, -, hp⟩
    · obtain rfl := Except.ok.inj (hp.symm.trans hok)
      exact ⟨rfl, fun _ => ⟨rfl, rfl⟩⟩
    · obtain rfl := Except.ok.inj (hp.symm.trans hok)
      exact ⟨rfl, fun _ => ⟨rfl, rfl⟩⟩
    · obtain rfl := Except.ok.inj (hp.symm.trans hok)
      refine ⟨?_, fun hpub => ?_⟩
      · rw [publishIf_asm, swapIf_isIsight]
      · rw [publishIf_nothing hpub]
        exact ⟨rfl, rfl⟩
  | @body bytes headerLen dataLen info _ hevent hok =>
    have hle := h.inside _ _ _ _ hevent
    obtain ⟨f, p, c, m, k, hn, -, -, -⟩ := noteHeader_ok info
      (by omega : headerLen ≤ bytes.length) h.bounded.metaOutbuf h.bounded.metaGot
    obtain ⟨o, g, ha, -, -, -⟩ := appendData_ok
      (s := { s.asm with fid := f, pts := p, lastScr := c, metaOutbuf := m, metaGotBytes := k })
      info hle h.bounded.outbuf h.bounded.got
    rw [Pipeline.body, hn, ok_bind, ha, ok_bind] at hok
    obtain rfl := Except.ok.inj hok
    refine ⟨?_, fun hpub => ?_⟩
    · rw [publishIf_asm, swapIf_isIsight]
    · rw [publishIf_nothing hpub]
      exact ⟨rfl, rfl⟩
  | lost => exact ⟨rfl, fun _ => ⟨rfl, rfl⟩⟩
  | strolls hstroll =>
    obtain ⟨c, r, rfl, -⟩ := hstroll
    exact ⟨rfl, fun _ => ⟨rfl, rfl⟩⟩
  | checks hc =>
    rw [Pipeline.check]
    split
    · exact ⟨rfl, fun _ => ⟨rfl, rfl⟩⟩
    · split
      · exact ⟨rfl, fun _ => ⟨rfl, rfl⟩⟩
      · exact ⟨rfl, fun _ => ⟨rfl, rfl⟩⟩
  | polls hpolls hc =>
    rw [Pipeline.pollOr]
    split
    · exact ⟨rfl, fun _ => ⟨rfl, rfl⟩⟩
    · exact ⟨rfl, fun _ => ⟨rfl, rfl⟩⟩

/-- The invariant of a first run: the device and the control block stay, and until something is
published the hold buffers are empty and the record is as it was allocated. -/
structure Playback.FirstRun (isIsight : Bool) (ctrl : StreamCtrl) (p : Playback) : Prop where
  faithful : p.Faithful
  isIsight : p.pipe.asm.isIsight = isIsight
  curCtrl : p.pipe.asm.curCtrl = ctrl
  held : p.pipe.published = [] → p.pipe.asm.holdBytes = 0 ∧ p.pipe.asm.metaHoldBytes = 0
  frame : p.handed = [] → p.frame = {}

theorem Playback.FirstRun.inBounds {isIsight : Bool} {ctrl : StreamCtrl} {p : Playback}
    (h : p.FirstRun isIsight ctrl) : p.pipe.InBounds :=
  ⟨h.faithful.coherent.assembled.bounded, h.faithful.held, h.faithful.coherent.assembled.inside⟩

theorem playback_step_firstRun {junk : Nat → UInt8} {info : DeviceInfo} {format : FrameFormat}
    {isIsight : Bool} {ctrl : StreamCtrl} {p q : Playback} {a : PipelineAction}
    (h : p.FirstRun isIsight ctrl) (hs : p.step junk info format a = some q) :
    q.FirstRun isIsight ctrl := by
  obtain ⟨hpipe, hcases⟩ := playback_step_cases hs
  obtain ⟨hisight, hhold⟩ := step_hold h.inBounds hpipe
  refine ⟨playback_step_faithful h.faithful hs, hisight.trans h.isIsight,
    (step_inBounds h.inBounds hpipe).2.trans h.curCtrl, fun hpub => ?_, fun hnone => ?_⟩
  · have hle := published_length_le h.faithful.coherent.assembled hpipe
    have hnil : p.pipe.published = [] := by
      rw [hpub, List.length_nil, Nat.le_zero] at hle
      exact List.eq_nil_of_length_eq_zero hle
    rw [(hhold hpub).1, (hhold hpub).2]
    exact h.held hnil
  · rcases hcases with ⟨-, hframe, hhanded⟩ | ⟨-, -, hhanded⟩
    · rw [hframe]
      exact h.frame (hhanded ▸ hnone)
    · rw [hhanded] at hnone
      exact absurd hnone (by simp)

/-- A run that published nothing handed out nothing. -/
theorem Playback.Faithful.nothing_handed {p : Playback} (h : p.Faithful)
    (hpub : p.pipe.published = []) :
    p.pipe.asm.holdSeq = 0 ∧ p.pipe.lastPolledSeq = 0 ∧ p.handed = [] := by
  have hdelivered : p.pipe.delivered = [] := by
    rw [List.eq_nil_iff_forall_not_mem]
    intro D hD
    obtain ⟨f, hf, -⟩ := h.coherent.handed.known D hD
    simp [hpub] at hf
  refine ⟨by simp [h.coherent.assembled.holdSeq, hpub], ?_, ?_⟩
  · rcases h.coherent.handed.polled with hzero | ⟨D, hD, -⟩
    · exact hzero
    · rw [hdelivered] at hD
      cases hD
  · have hshown := h.shown
    rw [hdelivered] at hshown
    exact List.forall₂_nil_right_iff.1 hshown

/-! ## The second run -/

/-- After a run that left nothing, the handle is like a new one. -/
theorem restart_alike {isIsight : Bool} {ctrl : StreamCtrl} {p q : Playback} {callback : Bool}
    (h : p.FirstRun isIsight ctrl) (hq : p.restart callback = some q)
    (hclean : p.Spotless callback) {o hb mo mh : List UInt8}
    (hnew : (started isIsight ctrl o hb mo mh).Bounded) :
    q.Alike (Playback.start (started isIsight ctrl o hb mo mh) callback) := by
  obtain ⟨hholdSeq, hpolled, hhanded⟩ := h.faithful.nothing_handed hclean.published
  obtain ⟨hholdBytes, hmetaHoldBytes⟩ := h.held hclean.published
  have hbounded := h.inBounds.bounded
  obtain rfl := eq_of_restart hq
  refine ⟨⟨⟨h.isIsight, h.curCtrl, rfl, rfl, hholdSeq, rfl, rfl, hclean.gotBytes, hholdBytes,
    hclean.metaGotBytes, hmetaHoldBytes, ?_, ?_, ?_, ?_⟩, rfl, hpolled, rfl, rfl, ?_, rfl, rfl⟩,
    ⟨⟨⟨hbounded.outbuf, hbounded.holdbuf, hbounded.metaOutbuf, hbounded.metaHoldbuf,
      hbounded.got, hbounded.metaGot⟩, ⟨h.faithful.held.hold, h.faithful.held.metaHold⟩,
      fun _ _ _ _ he => ?_⟩, ⟨hnew, ⟨Nat.zero_le _, Nat.zero_le _⟩, fun _ _ _ _ he => ?_⟩⟩,
    ?_, rfl⟩
  · show p.pipe.asm.outbuf.take p.pipe.asm.gotBytes = o.take 0
    rw [hclean.gotBytes, List.take_zero, List.take_zero]
  · show p.pipe.asm.holdbuf.take p.pipe.asm.holdBytes = hb.take 0
    rw [hholdBytes, List.take_zero, List.take_zero]
  · show p.pipe.asm.metaOutbuf.take p.pipe.asm.metaGotBytes = mo.take 0
    rw [hclean.metaGotBytes, List.take_zero, List.take_zero]
  · show p.pipe.asm.metaHoldbuf.take p.pipe.asm.metaHoldBytes = mh.take 0
    rw [hmetaHoldBytes, List.take_zero, List.take_zero]
  · cases callback with
    | true => exact Or.inl (hclean.frameHadErrors rfl)
    | false => exact Or.inr rfl
  · cases he
  · cases he
  · show p.frame.Alike {}
    rw [h.frame hhanded]
    exact ⟨⟨⟨Nat.le_refl _, Nat.le_refl _⟩, ⟨Nat.le_refl _, Nat.le_refl _⟩⟩, rfl, rfl, rfl, rfl⟩

theorem map_eq_of_rel {x y : Option Playback} (h : Option.Rel Playback.Alike x y) :
    x.map observe = y.map observe := by
  cases h with
  | some hpq => exact congrArg some hpq.observe_eq
  | none => rfl

/-- What a schedule shows, in which the application polls without waiting; `none` if the stream does
not take it. -/
def shows (junk : Nat → UInt8) (info : DeviceInfo) (format : FrameFormat) (p : Playback)
    (schedule : List PipelineAction) : Option (List FrameContent × List FrameContent) :=
  (exec (Playback.step junk info format) (fun _ a => pollsAtOnce a = true) p schedule).map observe

/-- **A stream that was started again is like a new one** if its first run left nothing: nothing was
published, and no bytes, metadata or errors of an unfinished frame are left.  Then every schedule of
the second run, of any payloads, with a callback under any interleaving or with polls that do not
wait, publishes and hands out the same frames as on a newly opened stream, whatever the fresh
buffers and the heap contain. -/
theorem restart_like_new (junk junk' : Nat → UInt8) (info : DeviceInfo) (format : FrameFormat)
    (isIsight : Bool) (ctrl : StreamCtrl) (o h mo mh o' h' mo' mh' : List UInt8)
    (ho : o.length = ctrl.dwMaxVideoFrameSize.toNat)
    (hh : h.length = ctrl.dwMaxVideoFrameSize.toNat) (hmo : mo.length = xferMetaBufSize)
    (hmh : mh.length = xferMetaBufSize) (ho' : o'.length = ctrl.dwMaxVideoFrameSize.toNat)
    (hh' : h'.length = ctrl.dwMaxVideoFrameSize.toNat) (hmo' : mo'.length = xferMetaBufSize)
    (hmh' : mh'.length = xferMetaBufSize) (first callback : Bool) (t q : Playback)
    (ht : Reachable (Playback.step junk info format)
      (Playback.start (started isIsight ctrl o h mo mh) first) t)
    (hq : t.restart callback = some q) (hclean : t.Spotless callback)
    (schedule : List PipelineAction) :
    shows junk info format q schedule =
      shows junk' info format (Playback.start (started isIsight ctrl o' h' mo' mh') callback)
        schedule := by
  have hfirst : t.FirstRun isIsight ctrl := by
    refine Reachable.invariant (I := Playback.FirstRun isIsight ctrl) ht
      ⟨start_faithful (started_bounded ho hh hmo hmh) first, rfl, rfl, fun _ => ⟨rfl, rfl⟩,
        fun _ => rfl⟩ ?_
    exact fun u a w hu hs => playback_step_firstRun hu hs
  have hstart := restart_alike hfirst hq hclean (started_bounded ho' hh' hmo' hmh')
  have hstep : ∀ (u w : Playback) (a : PipelineAction), u.Alike w → pollsAtOnce a = true →
      Option.Rel Playback.Alike (u.step junk info format a) (w.step junk' info format a) :=
    fun _ _ _ huw ha => playback_step_alike junk junk' info format huw ha
  exact map_eq_of_rel (exec_rel hstep schedule hstart)

/-- The device sends a header without data and is stopped.  The frame of the second run goes to the
user's function like the first frame of a new stream. -/
theorem restart_like_new_header :
    ∃ t q, Reachable (Playback.step (fun _ => 0xff) pixelDevice .yuyv) (Playback.tiny false) t ∧
      t.restart true = some q ∧
      shows (fun _ => 0xff) pixelDevice .yuyv q
          [.look, .payload [2, 0x82, 7], .body, .look] = some ([⟨1, [7], []⟩], [⟨1, [7, 0], []⟩]) ∧
      shows (fun _ => 0xff) pixelDevice .yuyv q [.look, .payload [2, 0x82, 7], .body, .look] =
        shows (fun _ => 0) pixelDevice .yuyv (Playback.tiny true)
          [.look, .payload [2, 0x82, 7], .body, .look] := by
  have hrun : Reachable (Playback.step (fun _ => 0xff) pixelDevice .yuyv) (Playback.tiny false) _ :=
    reachable_of_exec [.payload [2, 0x80], .body, .stop] rfl
  exact ⟨_, _, hrun, rfl, rfl, restart_like_new _ _ _ _ false { dwMaxVideoFrameSize := 1 } [0] [0]
    _ _ [0] [0] _ _ rfl rfl (List.length_replicate ..) (List.length_replicate ..) rfl rfl
    (List.length_replicate ..) (List.length_replicate ..) false true _ _ hrun rfl
    ⟨rfl, rfl, rfl, fun _ => rfl⟩ _⟩

/-! ## What a run that left something shows -/

/-- A run that published a frame: the thread of the second run, which has seen no number yet, finds
that of the old frame and hands it out, before any payload has arrived. -/
theorem restart_stale (junk junk' : Nat → UInt8) (info : DeviceInfo) (format : FrameFormat)
    {isIsight : Bool} {ctrl : StreamCtrl} {t q : Playback} (h : t.FirstRun isIsight ctrl)
    (hq : t.restart true = some q) (hpub : t.pipe.published ≠ [])
    (hlen : t.pipe.published.length < 2 ^ 32) (o hb mo mh : List UInt8) :
    shows junk info format q [.look] ≠
      shows junk' info format (Playback.start (started isIsight ctrl o hb mo mh) true) [.look] := by
  have hseq : t.pipe.asm.holdSeq ≠ 0 := by
    have hpos := List.length_pos_iff.2 hpub
    rw [h.faithful.coherent.assembled.holdSeq, ne_eq, ← UInt32.toNat_inj,
      UInt32.toNat_ofNat_of_lt' hlen]
    exact Nat.ne_of_gt hpos
  have hnew : shows junk' info format (Playback.start (started isIsight ctrl o hb mo mh) true)
      [.look] = some ([], []) := rfl
  rw [hnew]
  intro hshows
  obtain rfl := eq_of_restart hq
  obtain ⟨u, hu, hobserve⟩ := Option.map_eq_some_iff.1 hshows
  obtain ⟨v, hv, huv⟩ := Option.bind_eq_some_iff.1 ((if_pos rfl).symm.trans hu)
  obtain rfl := Option.some.inj huv
  obtain ⟨hpipe, hcases⟩ := playback_step_cases hv
  have hcheck := (Option.some.inj hpipe).symm
  rw [Pipeline.check, if_neg (by simp), if_neg (by simpa using hseq.symm)] at hcheck
  rcases hcases with ⟨hdelivered, -⟩ | ⟨-, -, hhanded⟩
  · rw [hcheck] at hdelivered
    exact absurd hdelivered (by simp [Pipeline.deliver])
  · rw [observe, hhanded] at hobserve
    exact absurd hobserve (by simp)

/-- A header packet that announces the second frame id, in the shape that an iSight camera uses. -/
def flipHeader : List UInt8 := [14, 0x81] ++ isightTag

theorem shows_flipHeader (junk : Nat → UInt8) (info : DeviceInfo) (format : FrameFormat)
    {p : Playback} (hidle : p.pipe.event = .idle) (hfid : p.pipe.asm.fid = 0) :
    shows junk info format p [.payload flipHeader] =
      some ((p.pipe.publishIf (p.pipe.asm.gotBytes != 0)).published.map Published.content,
        p.handed.map HandedFrame.content) := by
  have hsplit : ∀ b, payloadSplit b flipHeader = .ok (some (14, 0)) := by decide
  have hinfo : headerInfo flipHeader 14 = .ok (some 0x81) := by decide
  have hflips : flips p.pipe.asm 14 0x81 = (p.pipe.asm.gotBytes != 0) := by
    rw [flips, hfid]
    rfl
  have hpayload : p.pipe.payload flipHeader =
      .ok { p.pipe.publishIf (p.pipe.asm.gotBytes != 0) with
        event := .body flipHeader 14 0 0x81 } := by
    rw [Pipeline.payload, hsplit, ok_bind]
    simp only []
    rw [hinfo, ok_bind, ← hflips]
    rfl
  have hdelivered : (p.pipe.publishIf (p.pipe.asm.gotBytes != 0)).delivered = p.pipe.delivered := by
    cases p.pipe.asm.gotBytes != 0 <;> rfl
  have hpipe : p.pipe.step (.payload flipHeader) =
      some { p.pipe.publishIf (p.pipe.asm.gotBytes != 0) with
        event := .body flipHeader 14 0 0x81 } := by
    rw [Pipeline.step, hidle]
    simp only []
    rw [hpayload]
    rfl
  have hstep : p.step junk info format (.payload flipHeader) =
      some { p with pipe := { p.pipe.publishIf (p.pipe.asm.gotBytes != 0) with
        event := .body flipHeader 14 0 0x81 } } := by
    rw [Playback.step, hpipe]
    exact if_pos hdelivered
  have hmay : pollsAtOnce (.payload flipHeader) = true := rfl
  rw [shows, exec, if_pos hmay, hstep]
  rfl

/-- A run that left bytes of a frame it did not finish: the first header of the second run that does
not have the frame id 0 publishes them. -/
theorem restart_unfinished (junk junk' : Nat → UInt8) (info : DeviceInfo) (format : FrameFormat)
    {isIsight : Bool} {ctrl : StreamCtrl} {t q : Playback} {callback : Bool}
    (hq : t.restart callback = some q)
    (hgot : t.pipe.asm.gotBytes ≠ 0) (o hb mo mh : List UInt8) :
    shows junk info format q [.payload flipHeader] ≠
      shows junk' info format (Playback.start (started isIsight ctrl o hb mo mh) callback)
        [.payload flipHeader] := by
  obtain rfl := eq_of_restart hq
  rw [shows_flipHeader junk info format rfl rfl, shows_flipHeader junk' info format rfl rfl]
  simp [Pipeline.publishIf, Pipeline.publish, Playback.start, Pipeline.start, started, hgot]

/-- One frame is published and handed to the user's function in the first run.  The thread of the
second run finds its number, 1, where its own is 0, and hands it out again before any payload has
arrived. -/
theorem restart_hands_out_again :
    ¬ ∀ (junk junk' : Nat → UInt8) (info : DeviceInfo) (format : FrameFormat)
      (isIsight : Bool) (ctrl : StreamCtrl) (o h mo mh o' h' mo' mh' : List UInt8),
      o.length = ctrl.dwMaxVideoFrameSize.toNat → h.length = ctrl.dwMaxVideoFrameSize.toNat →
      mo.length = xferMetaBufSize → mh.length = xferMetaBufSize →
      o'.length = ctrl.dwMaxVideoFrameSize.toNat → h'.length = ctrl.dwMaxVideoFrameSize.toNat →
      mo'.length = xferMetaBufSize → mh'.length = xferMetaBufSize →
      ∀ (first callback : Bool) (t q : Playback),
      Reachable (Playback.step junk info format)
        (Playback.start (started isIsight ctrl o h mo mh) first) t →
      t.restart callback = some q → ∀ schedule : List PipelineAction,
      shows junk info format q schedule =
        shows junk' info format (Playback.start (started isIsight ctrl o' h' mo' mh') callback)
          schedule := by
  intro hall
  have hrun : Reachable (Playback.step (fun _ => 0xff) pixelDevice .yuyv) (Playback.tiny true) _ :=
    reachable_of_exec [.payload [2, 0x82, 7], .body, .look, .stop, .callbackReturns, .look] rfl
  have hsame := hall (fun _ => 0xff) (fun _ => 0xff) pixelDevice .yuyv false
    { dwMaxVideoFrameSize := 1 } [0] [0] _ _ [0] [0] (List.replicate xferMetaBufSize 0)
    (List.replicate xferMetaBufSize 0) rfl rfl (List.length_replicate ..)
    (List.length_replicate ..) rfl rfl (List.length_replicate ..) (List.length_replicate ..) true
    true _ _ hrun rfl [.look]
  have hstale : some (([] : List FrameContent), [(⟨1, [7], []⟩ : FrameContent)]) = some ([], []) :=
    hsame
  cases hstale

end Stream
end LibUvc
