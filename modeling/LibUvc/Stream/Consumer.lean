import LibUvc.Foundation.Transition
import LibUvc.Stream.Bounds

/-!
# Handing frames over

Two threads share a stream handle.  libusb's event thread runs `_uvc_process_payload` and publishes
frames with `_uvc_swap_buffers`; a consumer takes them, either the thread `_uvc_user_caller` that
calls the user's function or the application itself in `uvc_stream_get_frame`.  They meet in the
critical sections of `cb_mutex` and on the condition variable `cb_cond`.

A `Pipeline` is the handle with both of them, and `Pipeline.step` one critical section of either,
with the code that surrounds it:

* a payload is processed in two steps, `payload` and `body`, because it can publish twice, and a
  consumer may run in between;
* the consumer is wherever `Consumer` says: in front of its test of the sequence number, asleep on
  `cb_cond`, or off in the user's code.

Being woken puts a consumer back in front of its test, so everything that broadcasts on `cb_cond` is
of interest: a frame published without errors, a transfer that is freed, the end of
`uvc_stream_stop`, and, as POSIX allows it, nothing at all (`spurious`).

The pipeline also keeps a record of what was published and what was delivered, for the statements.
-/

set_option autoImplicit false

namespace LibUvc
namespace Stream

open Checked Transition

/-! ## The two threads -/

/-- Where the event thread stands. -/
inductive EventPc where
  /-- Between two payloads. -/
  | idle
  /-- In a payload, past the test for a flipped frame id and the swap that goes with it. -/
  | body (payload : List UInt8) (headerLen dataLen : Nat) (info : UInt8)
  deriving DecidableEq, Repr

/-- Where the consumer stands.  The first four are `_uvc_user_caller`, with its `last_seq`; the
others are an application that polls with `uvc_stream_get_frame`. -/
inductive Consumer where
  /-- In front of the loop's test, having just locked `cb_mutex` or been woken. -/
  | checking (last : UInt32)
  /-- In `pthread_cond_wait`. -/
  | waiting (last : UInt32)
  /-- In the user's function. -/
  | inCallback (last : UInt32)
  | exited
  /-- Outside `uvc_stream_get_frame`. -/
  | polled
  /-- In `pthread_cond_wait`, or in `pthread_cond_timedwait` if `timed`. -/
  | pollWaiting (timed : Bool)
  /-- Woken in `uvc_stream_get_frame`. -/
  | pollWoken
  deriving DecidableEq, Repr

/-- `pthread_cond_broadcast(&cb_cond)`, as the consumer sees it. -/
def Consumer.wake : Consumer → Consumer
  | .waiting last => .checking last
  | .pollWaiting _ => .pollWoken
  | c => c

/-- The number the user's thread remembers. -/
def Consumer.last : Consumer → Option UInt32
  | .checking last | .waiting last | .inCallback last => some last
  | _ => none

/-- The consumer is an application that polls. -/
def Consumer.polls : Consumer → Bool
  | .polled | .pollWaiting _ | .pollWoken => true
  | _ => false

@[simp] theorem wake_last (c : Consumer) : c.wake.last = c.last := by
  cases c <;> rfl

@[simp] theorem wake_polls (c : Consumer) : c.wake.polls = c.polls := by
  cases c <;> rfl

/-- A frame handed to the consumer. -/
structure Delivery where
  /-- `frame->sequence`. -/
  seq : UInt32
  /-- The published bytes that were copied into the frame. -/
  data : List UInt8
  /-- Which of the published frames, counted from 0, was in the hold buffers. -/
  source : Nat
  deriving DecidableEq, Repr

/-- The stream handle with its event thread and its consumer. -/
structure Pipeline where
  asm : Assembly
  running : Bool := true
  lastPolledSeq : UInt32 := 0
  event : EventPc := .idle
  consumer : Consumer
  /-- Every frame `_uvc_swap_buffers` has published. -/
  published : List Published := []
  /-- Every frame the consumer was given. -/
  delivered : List Delivery := []
  deriving DecidableEq, Repr

/-! ## The event thread -/

/-- `_uvc_swap_buffers`: the frame is published in any case, but the consumer is told only if no
error was noted. -/
def Pipeline.publish (s : Pipeline) : Pipeline :=
  { s with
    asm := swapBuffers s.asm
    published := s.published ++ [frameInProgress s.asm]
    consumer := if s.asm.frameHadErrors then s.consumer else s.consumer.wake }

/-- `_uvc_swap_buffers`, if it is due. -/
def Pipeline.publishIf (due : Bool) (s : Pipeline) : Pipeline := if due then s.publish else s

/-- `_uvc_process_payload` up to and with the swap for a flipped frame id. -/
def Pipeline.payload (s : Pipeline) (bytes : List UInt8) : Checked Pipeline := do
  match ← payloadSplit s.asm.isIsight bytes with
  | none => return s
  | some (headerLen, dataLen) =>
    match ← headerInfo bytes headerLen with
    | none => return { s with asm := { s.asm with frameHadErrors := true } }
    | some info =>
      return { s.publishIf (flips s.asm headerLen info) with
        event := .body bytes headerLen dataLen info }

/-- The rest of `_uvc_process_payload`. -/
def Pipeline.body (s : Pipeline) (bytes : List UInt8) (headerLen dataLen : Nat) (info : UInt8) :
    Checked Pipeline := do
  let asm ← noteHeader s.asm bytes headerLen info
  let (asm, due) ← appendData asm bytes headerLen dataLen info
  return Pipeline.publishIf due { s with asm := asm, event := .idle }

/-! ## The consumer -/

/-- What `_uvc_populate_frame` takes out of the handle: the number and the bytes of the frame that
was published last. -/
def Pipeline.deliver (s : Pipeline) : Pipeline :=
  { s with
    delivered := s.delivered ++
      [⟨s.asm.holdSeq, s.asm.holdbuf.take s.asm.holdBytes, s.published.length - 1⟩] }

/-- The test of `_uvc_user_caller` and what follows it under the lock. -/
def Pipeline.check (s : Pipeline) (last : UInt32) : Pipeline :=
  if !s.running then { s with consumer := .exited }
  else if last == s.asm.holdSeq then { s with consumer := .waiting last }
  else { s.deliver with consumer := .inCallback s.asm.holdSeq }

/-- The test `last_polled_seq < hold_seq` of `uvc_stream_get_frame`, and what follows when it
holds. -/
def Pipeline.pollOr (s : Pipeline) (otherwise : Consumer) : Pipeline :=
  if s.lastPolledSeq < s.asm.holdSeq then
    { s.deliver with lastPolledSeq := s.asm.holdSeq, consumer := .polled }
  else { s with consumer := otherwise }

/-- Where `uvc_stream_get_frame(timeout_us)` goes when there is no new frame: it returns at once for
-1, waits for good for 0 and for a bounded time otherwise. -/
def afterPoll (timeoutUs : Int) : Consumer :=
  if timeoutUs = -1 then .polled else .pollWaiting (timeoutUs ≠ 0)

/-! ## Steps -/

/-- What can happen next. -/
inductive PipelineAction where
  /-- A payload arrives: of a bulk transfer, or of an isochronous packet with status 0. -/
  | payload (bytes : List UInt8)
  /-- The event thread goes on with its payload. -/
  | body
  /-- An isochronous packet with a status other than 0. -/
  | badPacket
  /-- A transfer is freed, or `uvc_stream_stop` has waited for that: both broadcast. -/
  | broadcast
  /-- `uvc_stream_stop` clears `running`. -/
  | stop
  /-- The consumer wakes up for no reason. -/
  | spurious
  /-- The consumer makes its test. -/
  | look
  /-- The user's function returns. -/
  | callbackReturns
  /-- The application calls `uvc_stream_get_frame`. -/
  | getFrame (timeoutUs : Int)
  /-- The wait of `uvc_stream_get_frame` times out. -/
  | timeout
  deriving DecidableEq, Repr

/-- One step.  A payload that made the code leave its buffers would have no successor. -/
def Pipeline.step (s : Pipeline) : PipelineAction → Option Pipeline
  | .payload bytes =>
    match s.event with
    | .idle => (s.payload bytes).toOption
    | _ => none
  | .body =>
    match s.event with
    | .body bytes headerLen dataLen info => (s.body bytes headerLen dataLen info).toOption
    | _ => none
  | .badPacket =>
    match s.event with
    | .idle => some { s with asm := { s.asm with frameHadErrors := true } }
    | _ => none
  | .broadcast => some { s with consumer := s.consumer.wake }
  | .stop => some { s with running := false }
  | .spurious => some { s with consumer := s.consumer.wake }
  | .look =>
    match s.consumer with
    | .checking last => some (s.check last)
    | .pollWoken => some (s.pollOr .polled)
    | _ => none
  | .callbackReturns =>
    match s.consumer with
    | .inCallback last => some { s with consumer := .checking last }
    | _ => none
  | .getFrame timeoutUs =>
    match s.consumer with
    | .polled => if s.running then some (s.pollOr (afterPoll timeoutUs)) else some s
    | _ => none
  | .timeout =>
    match s.consumer with
    | .pollWaiting true => some { s with consumer := .polled }
    | _ => none

/-- A consumer that looks is on its way to the loop test, or back from its wait. -/
theorem step_look_cases {s t : Pipeline} (hs : s.step .look = some t) :
    (∃ last, s.consumer = .checking last ∧ t = s.check last) ∨
      (s.consumer = .pollWoken ∧ t = s.pollOr .polled) := by
  rw [Pipeline.step] at hs
  cases hc : s.consumer with
  | checking last =>
    rw [hc] at hs
    exact Or.inl ⟨last, rfl, (Option.some.inj hs).symm⟩
  | pollWoken =>
    rw [hc] at hs
    exact Or.inr ⟨rfl, (Option.some.inj hs).symm⟩
  | waiting | inCallback | exited | polled | pollWaiting =>
    rw [hc] at hs
    exact absurd hs (by simp)

theorem last_of_polls {c : Consumer} (h : c.polls = true) : c.last = none := by
  cases c <;> first | rfl | exact absurd h (by simp [Consumer.polls])

theorem afterPoll_polls (timeoutUs : Int) : (afterPoll timeoutUs).polls = true := by
  rw [afterPoll]
  split <;> rfl

/-- The consumer goes somewhere, or `running` is cleared, and that is all. -/
def Pipeline.Strolls (s t : Pipeline) : Prop :=
  ∃ c r, t = { s with consumer := c, running := r } ∧ c.polls = s.consumer.polls ∧
    (c.last = none ∨ c.last = s.consumer.last)

/-- An application makes the test of `uvc_stream_get_frame`: in the call or after its wait. -/
def Pipeline.Polls (s : Pipeline) (a : PipelineAction) : Prop :=
  (a = .look ∧ s.consumer = .pollWoken) ∨
    (∃ timeoutUs, a = .getFrame timeoutUs) ∧ s.consumer = .polled ∧ s.running = true

/-- What a step can be: one of the two halves of a payload, a packet that is counted as lost, a move
of the consumer, or one of the two tests. -/
inductive Pipeline.Steps (s : Pipeline) : PipelineAction → Pipeline → Prop where
  | payload {bytes : List UInt8} {t : Pipeline} (idle : s.event = .idle)
      (h : s.payload bytes = .ok t) : s.Steps (.payload bytes) t
  | body {bytes : List UInt8} {headerLen dataLen : Nat} {info : UInt8} {t : Pipeline}
      (inside : s.event = .body bytes headerLen dataLen info)
      (h : s.body bytes headerLen dataLen info = .ok t) : s.Steps .body t
  | lost (idle : s.event = .idle) :
      s.Steps .badPacket { s with asm := { s.asm with frameHadErrors := true } }
  | strolls {a : PipelineAction} {t : Pipeline} (h : s.Strolls t) : s.Steps a t
  | checks {last : UInt32} (h : s.consumer = .checking last) : s.Steps .look (s.check last)
  | polls {a : PipelineAction} {c : Consumer} (h : s.Polls a) (hc : c.polls = true) :
      s.Steps a (s.pollOr c)

/-- **The steps of a pipeline**, taken apart once. -/
theorem step_inv {s t : Pipeline} {a : PipelineAction} (hs : s.step a = some t) : s.Steps a t := by
  cases a with
  | payload bytes =>
    rw [Pipeline.step] at hs
    split at hs
    · rename_i hevent
      exact .payload hevent (eq_ok_of_toOption hs)
    · exact absurd hs (by simp)
  | body =>
    rw [Pipeline.step] at hs
    split at hs
    · rename_i hevent
      exact .body hevent (eq_ok_of_toOption hs)
    · exact absurd hs (by simp)
  | badPacket =>
    rw [Pipeline.step] at hs
    split at hs
    · rename_i hevent
      obtain rfl := Option.some.inj hs
      exact .lost hevent
    · exact absurd hs (by simp)
  | broadcast | spurious =>
    obtain rfl := Option.some.inj hs
    exact .strolls ⟨_, _, rfl, wake_polls _, Or.inr (wake_last _)⟩
  | stop =>
    obtain rfl := Option.some.inj hs
    exact .strolls ⟨_, _, rfl, rfl, Or.inr rfl⟩
  | look =>
    obtain ⟨last, hc, rfl⟩ | ⟨hc, rfl⟩ := step_look_cases hs
    · exact .checks hc
    · exact .polls (Or.inl ⟨rfl, hc⟩) rfl
  | callbackReturns =>
    rw [Pipeline.step] at hs
    split at hs
    · rename_i hc
      obtain rfl := Option.some.inj hs
      exact .strolls ⟨_, _, rfl, by rw [hc]; rfl, Or.inr (by rw [hc]; rfl)⟩
    · exact absurd hs (by simp)
  | getFrame timeoutUs =>
    rw [Pipeline.step] at hs
    split at hs
    · rename_i hc
      split at hs
      · rename_i hrun
        obtain rfl := Option.some.inj hs
        exact .polls (Or.inr ⟨⟨timeoutUs, rfl⟩, hc, hrun⟩) (afterPoll_polls timeoutUs)
      · obtain rfl := Option.some.inj hs
        exact .strolls ⟨_, _, rfl, rfl, Or.inr rfl⟩
    · exact absurd hs (by simp)
  | timeout =>
    rw [Pipeline.step] at hs
    split at hs
    · rename_i hc
      obtain rfl := Option.some.inj hs
      exact .strolls ⟨_, _, rfl, by rw [hc]; rfl, Or.inl rfl⟩
    · exact absurd hs (by simp)

/-! ## The event thread is `processPayload` -/

@[simp] theorem publishIf_asm (due : Bool) (s : Pipeline) :
    (s.publishIf due).asm = (swapIf due s.asm).1 := by
  cases due <;> rfl

@[simp] theorem publishIf_published (due : Bool) (s : Pipeline) :
    (s.publishIf due).published = s.published ++ (swapIf due s.asm).2 := by
  cases due <;> simp [Pipeline.publishIf, Pipeline.publish, swapIf]

/-- The first half of a payload: it is dropped, or flags the frame in progress, or goes on to its
second half, having published what was waiting if the frame id flipped. -/
theorem payload_cases {s : Pipeline} (bytes : List UInt8) :
    (payloadSplit s.asm.isIsight bytes = .ok none ∧ s.payload bytes = .ok s) ∨
    (∃ headerLen dataLen,
      payloadSplit s.asm.isIsight bytes = .ok (some (headerLen, dataLen)) ∧
      headerInfo bytes headerLen = .ok none ∧
      s.payload bytes = .ok { s with asm := { s.asm with frameHadErrors := true } }) ∨
    (∃ headerLen dataLen info, headerLen + dataLen ≤ bytes.length ∧
      payloadSplit s.asm.isIsight bytes = .ok (some (headerLen, dataLen)) ∧
      headerInfo bytes headerLen = .ok (some info) ∧
      s.payload bytes = .ok { s.publishIf (flips s.asm headerLen info) with
        event := .body bytes headerLen dataLen info }) := by
  obtain ⟨r, hr, hsplit⟩ := payloadSplit_ok s.asm.isIsight bytes
  rw [Pipeline.payload, hr, ok_bind]
  match r, hsplit with
  | none, _ => exact Or.inl ⟨rfl, rfl⟩
  | some (headerLen, dataLen), hsplit =>
    obtain ⟨-, hle⟩ := hsplit headerLen dataLen rfl
    obtain ⟨i, hi⟩ := headerInfo_ok (by omega : headerLen ≤ bytes.length)
    simp only []
    rw [hi, ok_bind]
    match i, hi with
    | none, hi => exact Or.inr (Or.inl ⟨headerLen, dataLen, rfl, hi, rfl⟩)
    | some info, hi => exact Or.inr (Or.inr ⟨headerLen, dataLen, info, hle, rfl, hi, rfl⟩)

/-- The second half of a payload: it adds to the frame in progress and leaves what the consumer sees
alone, and then publishes if that is due. -/
theorem body_ok {s : Pipeline} (h : s.asm.Bounded) {bytes : List UInt8} {headerLen dataLen : Nat}
    (info : UInt8) (hle : headerLen + dataLen ≤ bytes.length) :
    ∃ mid asm due, noteHeader s.asm bytes headerLen info = .ok mid ∧
      appendData mid bytes headerLen dataLen info = .ok (asm, due) ∧
      s.body bytes headerLen dataLen info =
        .ok (Pipeline.publishIf due { s with asm := asm, event := .idle }) ∧
      asm.Bounded ∧ asm.seq = s.asm.seq ∧ asm.holdSeq = s.asm.holdSeq ∧
      asm.holdbuf = s.asm.holdbuf ∧ asm.holdBytes = s.asm.holdBytes := by
  obtain ⟨f, p, c, m, k, hn, -, hm, hk⟩ := noteHeader_ok info
    (by omega : headerLen ≤ bytes.length) h.metaOutbuf h.metaGot
  obtain ⟨o, g, ha, ho, hg, -⟩ := appendData_ok
    (s := { s.asm with fid := f, pts := p, lastScr := c, metaOutbuf := m, metaGotBytes := k }) info
    hle h.outbuf h.got
  refine ⟨_, _, _, hn, ha, ?_, ⟨ho, h.holdbuf, hm, h.metaHoldbuf, hg ▸ Nat.min_le_right _ _, hk⟩,
    rfl, rfl, rfl, rfl⟩
  rw [Pipeline.body, hn, ok_bind, ha, ok_bind]
  rfl

/-- **The two halves of a payload make the whole.**  When nothing comes in between, the two steps of
the event thread do to the handle what `processPayload` does, and publish the same frames. -/
theorem payload_body_eq {s : Pipeline} (h : s.asm.Bounded) (bytes : List UInt8)
    (hidle : s.event = .idle) :
    ∃ t u, s.payload bytes = .ok t ∧
      (t.event = .idle ∧ u = t ∨ ∃ headerLen dataLen info,
        t.event = .body bytes headerLen dataLen info ∧
        t.body bytes headerLen dataLen info = .ok u) ∧
      u.event = .idle ∧ ∃ pubs, processPayload s.asm bytes = .ok (u.asm, pubs) ∧
        u.published = s.published ++ pubs := by
  rcases payload_cases (s := s) bytes with ⟨hr, hp⟩ | ⟨headerLen, dataLen, hr, hi, hp⟩ |
    ⟨headerLen, dataLen, info, hle, hr, hi, hp⟩
  · refine ⟨s, s, hp, Or.inl ⟨hidle, rfl⟩, hidle, [], ?_, by simp⟩
    rw [processPayload, hr, ok_bind]
    rfl
  · refine ⟨_, _, hp, Or.inl ⟨hidle, rfl⟩, hidle, [], ?_, by simp⟩
    rw [processPayload, hr, ok_bind]
    simp only []
    rw [hi, ok_bind]
    rfl
  · have hb : (s.publishIf (flips s.asm headerLen info)).asm.Bounded := by
      rw [publishIf_asm]
      exact swapIf_bounded _ h
    obtain ⟨mid, asm, due, hn, ha, hbody, -⟩ := body_ok
      (s := { s.publishIf (flips s.asm headerLen info) with
        event := .body bytes headerLen dataLen info }) hb info hle
    refine ⟨_, _, hp, Or.inr ⟨headerLen, dataLen, info, rfl, hbody⟩, ?_,
      (swapIf (flips s.asm headerLen info) s.asm).2 ++ (swapIf due asm).2, ?_, ?_⟩
    · cases due <;> rfl
    · rw [publishIf_asm] at hn
      rw [processPayload, hr, ok_bind]
      simp only []
      rw [hi, ok_bind]
      simp only []
      rw [hn, ok_bind, ha, ok_bind, publishIf_asm]
      rfl
    · rw [publishIf_published, publishIf_published, List.append_assoc]

end Stream
end LibUvc
