import Mathlib.Data.List.Forall2
import LibUvc.Stream.Frame
import LibUvc.Stream.Suppression

/-!
# Whole frames, once, in order

`Pipeline` follows the two threads of a stream through their critical sections; what the user sees
is the frame record that `_uvc_populate_frame` fills each time a frame is taken.  A `Playback` is
the two together, and keeps a copy of the record for every frame that was handed out.

The result of the file is `playback_in_order`: in the first run of a fresh stream, in either mode
and under any interleaving, the frames handed out carry strictly increasing numbers, and each of
them shows the bytes of the frame that was published under its number.  It has three parts:

* `Pipeline.Ordered`: the consumer remembers the number of the frame it was given last, so what it
  takes next is younger;
* `Pipeline.InBounds`, which makes the copy out of the hold buffers meaningful;
* `Playback.Faithful`: what the record shows is what the pipeline delivered.
-/

set_option autoImplicit false

namespace LibUvc
namespace Stream

open Checked Transition Descriptor

/-! ## The order of the deliveries -/

/-- The number of the frame that was delivered last, 0 before the first. -/
def Pipeline.lastDelivered (s : Pipeline) : UInt32 := (s.delivered.getLast?.map (·.seq)).getD 0

/-- What a consumer remembers is the number of the frame it was given last, and each frame was
published after the one before it. -/
structure Pipeline.Ordered (s : Pipeline) : Prop where
  last : ∀ n, s.consumer.last = some n → n = s.lastDelivered
  polled : s.consumer.polls = true → s.lastPolledSeq = s.lastDelivered
  sources : s.delivered.Pairwise fun D E => D.source < E.source

theorem publishIf_polls (due : Bool) (s : Pipeline) :
    (s.publishIf due).consumer.polls = s.consumer.polls := by
  cases due with
  | false => rfl
  | true =>
    simp only [Pipeline.publishIf, Pipeline.publish, if_true]
    split <;> simp

theorem polls_of_last {c : Consumer} {n : UInt32} (h : c.last = some n) : c.polls = false := by
  cases c <;> first | rfl | exact absurd h (by simp [Consumer.last])

theorem Pipeline.Polls.polls {s : Pipeline} {a : PipelineAction} (h : s.Polls a) :
    s.consumer.polls = true := by
  rcases h with ⟨-, hc⟩ | ⟨-, hc, -⟩
  · rw [hc]
    rfl
  · rw [hc]
    rfl

/-- The poll of a consumer leaves it polling. -/
theorem pollOr_polls {s : Pipeline} {c : Consumer} (hc : c.polls = true) :
    (s.pollOr c).consumer.polls = true := by
  rw [Pipeline.pollOr]
  split
  · rfl
  · exact hc

/-- A stream with a callback is not polled, and the other way round. -/
theorem step_polls {s t : Pipeline} {a : PipelineAction} (h : s.Assembled)
    (hs : s.step a = some t) : t.consumer.polls = s.consumer.polls := by
  cases step_inv hs with
  | payload _ hok =>
    rcases payload_cases (s := s) _ with ⟨-, hp⟩ | ⟨_, _, -, -, hp⟩ | ⟨_, _, _, -, -, -, hp⟩
    · obtain rfl := Except.ok.inj (hp.symm.trans hok)
      rfl
    · obtain rfl := Except.ok.inj (hp.symm.trans hok)
      rfl
    · obtain rfl := Except.ok.inj (hp.symm.trans hok)
      exact publishIf_polls _ s
  | body hevent hok =>
    obtain ⟨_, _, due, -, -, hb, -⟩ := body_ok h.bounded _ (h.inside _ _ _ _ hevent)
    obtain rfl := Except.ok.inj (hb.symm.trans hok)
    exact publishIf_polls due _
  | lost => rfl
  | strolls hstroll =>
    obtain ⟨c, r, rfl, hpolls, -⟩ := hstroll
    exact hpolls
  | checks hc =>
    rw [hc, Pipeline.check]
    split
    · rfl
    · split <;> rfl
  | polls hpolls hc =>
    rw [hpolls.polls]
    exact pollOr_polls hc

theorem deliver_ne (s : Pipeline) : s.delivered ≠ s.deliver.delivered := by
  intro h
  simpa [Pipeline.deliver] using congrArg List.length h

theorem pollOr_delivers {s : Pipeline} {c : Consumer}
    (hd : (s.pollOr c).delivered = s.deliver.delivered) :
    s.lastPolledSeq < s.asm.holdSeq ∧ (s.pollOr c).lastPolledSeq = s.asm.holdSeq := by
  rw [Pipeline.pollOr] at hd ⊢
  split
  · rename_i hlt
    exact ⟨hlt, rfl⟩
  · rename_i hlt
    rw [if_neg hlt] at hd
    exact absurd hd (deliver_ne s)

theorem check_delivers {s : Pipeline} {last : UInt32}
    (hd : (s.check last).delivered = s.deliver.delivered) : last ≠ s.asm.holdSeq := by
  rintro rfl
  rw [Pipeline.check] at hd
  split at hd
  · exact deliver_ne s hd
  · rw [if_pos (by simp)] at hd
    exact deliver_ne s hd

/-- A frame is given to a thread that remembers another number, or to an application that polls,
whose number is smaller and is then written down. -/
theorem step_delivers {s t : Pipeline} {a : PipelineAction} (hs : s.step a = some t)
    (hd : s.Delivers a t) :
    (∃ n, s.consumer.last = some n ∧ n ≠ s.asm.holdSeq) ∨
      (s.consumer.polls = true ∧ s.lastPolledSeq < s.asm.holdSeq ∧
        t.lastPolledSeq = s.asm.holdSeq) := by
  cases step_inv hs with
  | payload | body | lost => exact absurd hd.compares id
  | strolls hstroll =>
    obtain ⟨c, r, rfl, -⟩ := hstroll
    exact absurd hd.delivered (deliver_ne s)
  | checks hc => exact Or.inl ⟨_, by rw [hc]; rfl, check_delivers hd.delivered⟩
  | polls hpolls => exact Or.inr ⟨hpolls.polls, pollOr_delivers hd.delivered⟩

theorem lastDelivered_deliver {s t : Pipeline} (h : t.delivered = s.deliver.delivered) :
    t.lastDelivered = s.asm.holdSeq := by
  rw [Pipeline.lastDelivered, h, Pipeline.deliver, List.getLast?_append, List.getLast?_singleton]
  rfl

/-- While the numbers have not wrapped around, what is in the hold buffers is new only if it was
published after everything that was delivered. -/
theorem Pipeline.Coherent.source_lt {s : Pipeline} (hc : s.Coherent) (ho : s.Ordered)
    (hlen : s.published.length < 2 ^ 32) (hnew : s.lastDelivered ≠ s.asm.holdSeq) :
    ∀ D ∈ s.delivered, D.source < s.published.length - 1 := by
  intro D hD
  obtain ⟨E, hE⟩ := Option.isSome_iff_exists.1 (List.getLast?_isSome.2 (List.ne_nil_of_mem hD))
  have hle : D.source ≤ E.source := by
    obtain ⟨pre, heq⟩ := List.getLast?_eq_some_iff.1 hE
    have hsources := ho.sources
    rw [heq] at hD hsources
    rcases List.mem_append.1 hD with hD | hD
    · exact le_of_lt ((List.pairwise_append.1 hsources).2.2 D hD E (List.mem_singleton_self E))
    · obtain rfl := List.mem_singleton.1 hD
      exact le_refl _
  obtain ⟨p, hp, hpseq, -⟩ := hc.handed.known E (List.mem_of_getLast? hE)
  have hlt := (List.getElem?_eq_some_iff.1 hp).1
  have hlast : s.lastDelivered = E.seq := by rw [Pipeline.lastDelivered, hE]; rfl
  have hne : E.source ≠ s.published.length - 1 := by
    intro heq
    apply hnew
    rw [hlast, ← hpseq, hc.assembled.numbered _ _ hp, hc.assembled.holdSeq, heq]
    congr 1
    omega
  omega

/-- **One step keeps the deliveries in order**, as long as the numbers have not wrapped around. -/
theorem step_ordered {s t : Pipeline} {a : PipelineAction} (hc : s.Coherent) (ho : s.Ordered)
    (hlen : s.published.length < 2 ^ 32) (hs : s.step a = some t) : t.Ordered := by
  have hpolls := step_polls hc.assembled hs
  rcases step_cases hc.assembled hs with hq | hd
  · have hlast : t.lastDelivered = s.lastDelivered := by
      rw [Pipeline.lastDelivered, hq.delivered, Pipeline.lastDelivered]
    refine ⟨fun n hn => ?_, fun hp => ?_, ?_⟩
    · rw [hlast]
      exact ho.last n (hq.last n hn)
    · rw [hlast, hq.lastPolledSeq]
      exact ho.polled (hpolls ▸ hp)
    · rw [hq.delivered]
      exact ho.sources
  · have hlast := lastDelivered_deliver hd.delivered
    have hnew : s.lastDelivered ≠ s.asm.holdSeq := by
      rcases step_delivers hs hd with ⟨n, hn, hne⟩ | ⟨hp, hlt, -⟩
      · exact ho.last n hn ▸ hne
      · exact ho.polled hp ▸ UInt32.ne_of_lt hlt
    refine ⟨fun n hn => ?_, fun hp => ?_, ?_⟩
    · rw [hlast]
      exact hd.last n hn
    · rw [hlast]
      rcases step_delivers hs hd with ⟨n, hn, -⟩ | ⟨-, -, hpolled⟩
      · exact absurd (hpolls.symm.trans hp) (by simp [polls_of_last hn])
      · exact hpolled
    · rw [hd.delivered, Pipeline.deliver, List.pairwise_append]
      refine ⟨ho.sources, List.pairwise_singleton _ _, fun D hD E hE => ?_⟩
      obtain rfl := List.mem_singleton.1 hE
      exact hc.source_lt ho hlen hnew D hD

/-! ## Bounds -/

/-- All fill levels are within their buffers, and so is the payload in progress.  Other than
`Assembled` this says nothing about numbers, so it also holds of a stream that is started again. -/
structure Pipeline.InBounds (s : Pipeline) : Prop where
  bounded : s.asm.Bounded
  held : s.asm.HoldBounded
  inside : ∀ bytes headerLen dataLen info, s.event = .body bytes headerLen dataLen info →
    headerLen + dataLen ≤ bytes.length

theorem swapIf_holdBounded {s : Assembly} (due : Bool) (hb : s.Bounded) (h : s.HoldBounded) :
    (swapIf due s).1.HoldBounded := by
  cases due with
  | false => exact h
  | true => exact ⟨hb.outbuf ▸ hb.got, hb.metaOutbuf ▸ hb.metaGot⟩

theorem publishIf_inBounds {s : Pipeline} (due : Bool) (h : s.InBounds) :
    (s.publishIf due).InBounds where
  bounded := by
    rw [publishIf_asm]
    exact swapIf_bounded due h.bounded
  held := by
    rw [publishIf_asm]
    exact swapIf_holdBounded due h.bounded h.held
  inside := by cases due <;> exact h.inside

/-- The second half of a payload up to the publication that may end it. -/
theorem body_inBounds {s t : Pipeline} (h : s.InBounds) {bytes : List UInt8}
    {headerLen dataLen : Nat} {info : UInt8} (hle : headerLen + dataLen ≤ bytes.length)
    (hs : s.body bytes headerLen dataLen info = .ok t) :
    t.InBounds ∧ t.asm.curCtrl = s.asm.curCtrl := by
  obtain ⟨f, p, c, m, k, hn, -, hm, hk⟩ := noteHeader_ok info
    (by omega : headerLen ≤ bytes.length) h.bounded.metaOutbuf h.bounded.metaGot
  obtain ⟨o, g, ha, ho, hg, -⟩ := appendData_ok
    (s := { s.asm with fid := f, pts := p, lastScr := c, metaOutbuf := m, metaGotBytes := k }) info
    hle h.bounded.outbuf h.bounded.got
  rw [Pipeline.body, hn, ok_bind, ha, ok_bind] at hs
  obtain rfl := Except.ok.inj hs
  refine ⟨publishIf_inBounds _ ⟨⟨ho, h.bounded.holdbuf, hm, h.bounded.metaHoldbuf,
    hg ▸ Nat.min_le_right _ _, hk⟩, ⟨h.held.hold, h.held.metaHold⟩,
    fun _ _ _ _ he => absurd he (by simp)⟩, ?_⟩
  rw [publishIf_asm, swapIf_curCtrl]

/-- **One step stays in bounds**, and leaves the control block alone. -/
theorem step_inBounds {s t : Pipeline} {a : PipelineAction} (h : s.InBounds)
    (hs : s.step a = some t) : t.InBounds ∧ t.asm.curCtrl = s.asm.curCtrl := by
  have hb := h.bounded
  have hflag : Pipeline.InBounds { s with asm := { s.asm with frameHadErrors := true } } :=
    ⟨⟨hb.outbuf, hb.holdbuf, hb.metaOutbuf, hb.metaHoldbuf, hb.got, hb.metaGot⟩,
      ⟨h.held.hold, h.held.metaHold⟩, h.inside⟩
  have hsame : ∀ u : Pipeline, u.asm = s.asm → u.event = s.event →
      u.InBounds ∧ u.asm.curCtrl = s.asm.curCtrl :=
    fun u hasm hevent => ⟨⟨hasm ▸ h.bounded, hasm ▸ h.held, hevent ▸ h.inside⟩, by rw [hasm]⟩
  cases step_inv hs with
  | payload _ hok =>
    rcases payload_cases (s := s) _ with ⟨-, hp⟩ | ⟨_, _, -, -, hp⟩ |
      ⟨headerLen, dataLen, info, hle, -, -, hp⟩
    · obtain rfl := Except.ok.inj (hp.symm.trans hok)
      exact ⟨h, rfl⟩
    · obtain rfl := Except.ok.inj (hp.symm.trans hok)
      exact ⟨hflag, rfl⟩
    · obtain rfl := Except.ok.inj (hp.symm.trans hok)
      have hpub := publishIf_inBounds (flips s.asm headerLen info) h
      refine ⟨⟨hpub.bounded, hpub.held, fun _ _ _ _ he => ?_⟩, ?_⟩
      · obtain ⟨rfl, rfl, rfl, rfl⟩ := EventPc.body.inj he
        exact hle
      · rw [publishIf_asm, swapIf_curCtrl]
  | body hevent hok => exact body_inBounds h (h.inside _ _ _ _ hevent) hok
  | lost => exact ⟨hflag, rfl⟩
  | strolls hstroll =>
    obtain ⟨c, r, rfl, -⟩ := hstroll
    exact hsame _ rfl rfl
  | checks hc =>
    rw [Pipeline.check]
    split
    · exact hsame _ rfl rfl
    · split
      · exact hsame _ rfl rfl
      · exact hsame _ rfl rfl
  | polls hpolls hc =>
    rw [Pipeline.pollOr]
    split
    · exact hsame _ rfl rfl
    · exact hsame _ rfl rfl

/-! ## The record -/

/-- The record at the time it was handed out, with the number of bytes that were held. -/
structure HandedFrame where
  frame : Frame
  holdBytes : Nat
  deriving DecidableEq, Repr

/-- A stream with its frame record and everything that was handed out in it. -/
structure Playback where
  pipe : Pipeline
  frame : Frame := {}
  handed : List HandedFrame := []
  deriving DecidableEq, Repr

section Run

variable (junk : Nat → UInt8) (info : DeviceInfo) (format : FrameFormat)

/-- A step of the pipeline; when it delivers a frame, then in the record, which
`_uvc_populate_frame` fills from the hold buffers under the same lock. -/
def Playback.step (p : Playback) (a : PipelineAction) : Option Playback := do
  let pipe ← p.pipe.step a
  if pipe.delivered = p.pipe.delivered then return { p with pipe := pipe }
  else
    let frame ← (populateFrame junk info format p.pipe.asm p.frame).toOption
    return ⟨pipe, frame, p.handed ++ [⟨frame, p.pipe.asm.holdBytes⟩]⟩

/-- The first run of a stream. -/
def Playback.start (asm : Assembly) (callback : Bool) : Playback where
  pipe := .start asm callback

variable {junk info format}

/-- A step of a playback is a step of its pipeline, with or without a frame handed out. -/
theorem playback_step_cases {p q : Playback} {a : PipelineAction}
    (hs : p.step junk info format a = some q) :
    p.pipe.step a = some q.pipe ∧
      ((q.pipe.delivered = p.pipe.delivered ∧ q.frame = p.frame ∧ q.handed = p.handed) ∨
        (q.pipe.delivered ≠ p.pipe.delivered ∧
          populateFrame junk info format p.pipe.asm p.frame = .ok q.frame ∧
          q.handed = p.handed ++ [⟨q.frame, p.pipe.asm.holdBytes⟩])) := by
  obtain ⟨pipe, hpipe, hs⟩ := Option.bind_eq_some_iff.1 hs
  split at hs
  · rename_i heq
    obtain rfl := Option.some.inj hs
    exact ⟨hpipe, Or.inl ⟨heq, rfl, rfl⟩⟩
  · rename_i hne
    obtain ⟨frame, hframe, hs⟩ := Option.bind_eq_some_iff.1 hs
    obtain rfl := Option.some.inj hs
    exact ⟨hpipe, Or.inr ⟨hne, eq_ok_of_toOption hframe, rfl⟩⟩

/-- The record shows what was delivered. -/
def Shows (H : HandedFrame) (D : Delivery) : Prop :=
  H.frame.sequence = D.seq ∧ H.frame.data.take H.holdBytes = D.data ∧ H.holdBytes = D.data.length

/-- The invariant of every run. -/
structure Playback.Faithful (p : Playback) : Prop where
  coherent : p.pipe.Coherent
  held : p.pipe.asm.HoldBounded
  sized : p.frame.Sized
  shown : List.Forall₂ Shows p.handed p.pipe.delivered

/-- The front of what a populated frame shows is what is held. -/
theorem populateFrame_shows {asm : Assembly} {frame out : Frame} (hasm : asm.HoldBounded)
    (hframe : frame.Sized) (h : populateFrame junk info format asm frame = .ok out)
    (source : Nat) :
    out.Sized ∧
      Shows ⟨out, asm.holdBytes⟩ ⟨asm.holdSeq, asm.holdbuf.take asm.holdBytes, source⟩ := by
  cases hdesc : findFrameDesc info asm.curCtrl.bFormatIndex.toUInt16
      asm.curCtrl.bFrameIndex.toUInt16 with
  | none =>
    rw [populateFrame, hdesc] at h
    exact absurd h (by simp)
  | some d =>
    obtain ⟨out', hout, hsized, -, -, -, -, hseq, hle, -, himage, -, -⟩ :=
      populateFrame_ok junk format hasm hframe hdesc
    obtain rfl := Except.ok.inj (hout.symm.trans h)
    have hlen : (asm.holdbuf.take asm.holdBytes).length = asm.holdBytes := by
      rw [List.length_take, Nat.min_eq_left hasm.hold]
    refine ⟨hsized, hseq, ?_, hlen.symm⟩
    calc out'.data.take asm.holdBytes
        = out'.image.take asm.holdBytes := by
          rw [Frame.image, List.take_take, Nat.min_eq_left hle]
      _ = asm.holdbuf.take asm.holdBytes := by
          rw [himage, List.take_append_of_le_length hlen.ge, List.take_of_length_le hlen.le]

theorem playback_step_faithful {p q : Playback} {a : PipelineAction} (h : p.Faithful)
    (hs : p.step junk info format a = some q) : q.Faithful := by
  obtain ⟨hpipe, hcases⟩ := playback_step_cases hs
  have hcoherent := step_coherent h.coherent hpipe
  have hassembled := h.coherent.assembled
  have hheld := (step_inBounds ⟨hassembled.bounded, h.held, hassembled.inside⟩ hpipe).1.held
  rcases hcases with ⟨hdel, hframe, hhanded⟩ | ⟨hdel, hframe, hhanded⟩
  · exact ⟨hcoherent, hheld, hframe ▸ h.sized, by rw [hhanded, hdel]; exact h.shown⟩
  · rcases step_cases h.coherent.assembled hpipe with hq | hd
    · exact absurd hq.delivered hdel
    · obtain ⟨hsized, hshows⟩ := populateFrame_shows h.held h.sized hframe
        (p.pipe.published.length - 1)
      refine ⟨hcoherent, hheld, hsized, ?_⟩
      rw [hhanded, hd.delivered, Pipeline.deliver]
      exact List.rel_append h.shown (List.Forall₂.cons hshows .nil)

end Run

/-! ## Whole runs -/

theorem start_ordered (asm : Assembly) (callback : Bool) :
    (Pipeline.start asm callback).Ordered := by
  refine ⟨fun n hn => ?_, fun _ => rfl, List.Pairwise.nil⟩
  cases callback with
  | true => exact (Option.some.inj hn).symm
  | false => exact absurd hn (by simp [Pipeline.start, Consumer.last])

theorem start_faithful {isIsight : Bool} {ctrl : StreamCtrl} {o h mo mh : List UInt8}
    (hb : (started isIsight ctrl o h mo mh).Bounded) (callback : Bool) :
    (Playback.start (started isIsight ctrl o h mo mh) callback).Faithful :=
  ⟨start_coherent hb callback, ⟨Nat.zero_le _, Nat.zero_le _⟩, ⟨Nat.le_refl _, Nat.le_refl _⟩, .nil⟩

/-- A delivery carries the number of the frame it was taken from. -/
theorem Pipeline.Coherent.seq_eq {s : Pipeline} (h : s.Coherent)
    (hlen : s.published.length < 2 ^ 32) {D : Delivery} (hD : D ∈ s.delivered) :
    D.seq.toNat = D.source + 1 ∧ ∃ p, s.published[D.source]? = some p ∧ p.data = D.data := by
  obtain ⟨p, hp, hseq, hdata⟩ := h.handed.known D hD
  have hlt := (List.getElem?_eq_some_iff.1 hp).1
  have hsize : D.source + 1 < 2 ^ 32 := by omega
  rw [← hseq, h.assembled.numbered _ _ hp]
  exact ⟨UInt32.toNat_ofNat_of_lt' hsize, p, hp, hdata⟩

theorem published_length_le {s t : Pipeline} {a : PipelineAction} (h : s.Assembled)
    (hs : s.step a = some t) : s.published.length ≤ t.published.length := by
  rcases step_cases h hs with hq | hd
  · exact hq.published.length_le
  · rw [hd.published]

/-- The records show the deliveries one by one. -/
theorem map_sequence_eq {hs : List HandedFrame} {ds : List Delivery}
    (h : List.Forall₂ Shows hs ds) : hs.map (·.frame.sequence) = ds.map (·.seq) := by
  induction h with
  | nil => rfl
  | cons hshow _ ih => rw [List.map_cons, List.map_cons, ih, hshow.1]

theorem exists_shows {hs : List HandedFrame} {ds : List Delivery} (h : List.Forall₂ Shows hs ds)
    {H : HandedFrame} (hH : H ∈ hs) : ∃ D ∈ ds, Shows H D := by
  induction h with
  | nil => exact absurd hH (by simp)
  | cons hshow _ ih =>
    rcases List.mem_cons.1 hH with rfl | hH
    · exact ⟨_, List.mem_cons_self, hshow⟩
    · obtain ⟨D, hD, hDshow⟩ := ih hH
      exact ⟨D, List.mem_cons_of_mem _ hD, hDshow⟩

/-- **Consumers see whole frames, once, in order.**  In the first run of a fresh stream, with a
callback or polled, under any sequence of payloads and any interleaving of the critical sections,
and as long as fewer than 2^32 - 1 frames have been published: the numbers of the frames handed out
are strictly increasing, and a frame handed out with the number `s` holds, in its first `hold_bytes`
bytes, exactly the `s`-th frame published. -/
theorem playback_in_order (junk : Nat → UInt8) (info : DeviceInfo) (format : FrameFormat)
    (isIsight : Bool) (ctrl : StreamCtrl) (o h mo mh : List UInt8)
    (ho : o.length = ctrl.dwMaxVideoFrameSize.toNat)
    (hh : h.length = ctrl.dwMaxVideoFrameSize.toNat) (hmo : mo.length = xferMetaBufSize)
    (hmh : mh.length = xferMetaBufSize) (callback : Bool) (t : Playback)
    (ht : Reachable (Playback.step junk info format)
      (Playback.start (started isIsight ctrl o h mo mh) callback) t)
    (hlen : t.pipe.published.length < 2 ^ 32 - 1) :
    (t.handed.map (·.frame.sequence)).Pairwise (· < ·) ∧
    ∀ H ∈ t.handed, 1 ≤ H.frame.sequence.toNat ∧
      ∃ p, t.pipe.published[H.frame.sequence.toNat - 1]? = some p ∧
        H.holdBytes = p.data.length ∧ H.frame.data.take H.holdBytes = p.data := by
  obtain ⟨hf, ho⟩ : t.Faithful ∧ (t.pipe.published.length < 2 ^ 32 → t.pipe.Ordered) := by
    refine Reachable.invariant
      (I := fun t => t.Faithful ∧ (t.pipe.published.length < 2 ^ 32 → t.pipe.Ordered)) ht
      ⟨start_faithful (started_bounded ho hh hmo hmh) callback, fun _ => start_ordered _ _⟩ ?_
    rintro u a w ⟨hf, ho⟩ hstep
    refine ⟨playback_step_faithful hf hstep, fun hw => ?_⟩
    obtain ⟨hpipe, -⟩ := playback_step_cases hstep
    have hu : u.pipe.published.length < 2 ^ 32 :=
      lt_of_le_of_lt (published_length_le hf.coherent.assembled hpipe) hw
    exact step_ordered hf.coherent (ho hu) hu hpipe
  have hlt : t.pipe.published.length < 2 ^ 32 := by omega
  refine ⟨?_, fun H hH => ?_⟩
  · rw [map_sequence_eq hf.shown, List.pairwise_map]
    refine (ho hlt).sources.imp_of_mem fun {D E} hD hE hDE => ?_
    rw [UInt32.lt_iff_toNat_lt, (hf.coherent.seq_eq hlt hD).1, (hf.coherent.seq_eq hlt hE).1]
    omega
  · obtain ⟨D, hD, hseq, hdata, hbytes⟩ := exists_shows hf.shown hH
    obtain ⟨hnum, p, hp, hpdata⟩ := hf.coherent.seq_eq hlt hD
    rw [hseq, hnum]
    exact ⟨by omega, p, hp, by rw [hbytes, hpdata], by rw [hdata, hpdata]⟩

/-- A camera with one format and one frame of a single pixel. -/
def pixelDevice : DeviceInfo where
  streamIfs := [{
    bInterfaceNumber := 1
    formatDescs := [{
      bDescriptorSubtype := .formatUncompressed
      guidFormat := formatGuid .yuyv
      frameDescs := [{ bDescriptorSubtype := .frameUncompressed, wWidth := 1, wHeight := 1 }] }] }]

/-- The stream of `Pipeline.tiny` with its record. -/
def Playback.tiny (callback : Bool) : Playback where
  pipe := .tiny callback

/-- Three frames of one byte are published, and the first and the third are polled.  The record
grows to the two bytes of a pixel the first time, and shows what was received the second time. -/
theorem playback_in_order_skipping :
    ∃ t, Reachable (Playback.step (fun _ => 0xff) pixelDevice .yuyv) (Playback.tiny false) t ∧
      t.handed.map (fun H => (H.frame.sequence, H.frame.image)) = [(1, [7, 0]), (3, [9])] ∧
      (t.handed.map (·.frame.sequence)).Pairwise (· < ·) := by
  have hrun : Reachable (Playback.step (fun _ => 0xff) pixelDevice .yuyv) (Playback.tiny false) _ :=
    reachable_of_exec [.payload [2, 0x82, 7], .body, .getFrame 0, .payload [2, 0x82, 8], .body,
      .payload [2, 0x82, 9], .body, .getFrame (-1)] rfl
  exact ⟨_, hrun, rfl, (playback_in_order _ _ _ false { dwMaxVideoFrameSize := 1 } [0] [0] _ _ rfl
    rfl (List.length_replicate ..) (List.length_replicate ..) false _ hrun (by decide)).1⟩

end Stream
end LibUvc
