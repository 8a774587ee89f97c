import LibUvc.Lifetime.Slots
import LibUvc.Stream.Altsetting

/-!
# A start that fails

`uvc_stream_start` may fail in many places: the frame or its format is unknown, no altsetting will
do, the altsetting cannot be selected in three attempts, or libusb refuses the first transfer.  A
stream that could not be started should be as it was, so that it can be started again:
`Restartable`.

`Session` asks one question for everything that may go wrong before the transfers are allocated.
Here are the single steps, on the same heap: what is decided from the descriptors is `plan`, the
outcome of `resolveTransport`; the selection of the altsetting is a loop of its own; and there is
the thread that calls the user's function.  Other threads are the event thread, and the callback
threads, which end when they see that their stream is not running.

The failures leave the function through two exits.  The first one clears `running`; the second,
which is taken when the first transfer is refused, frees the transfers and does not.
`start_restartable_iff` says what follows.
-/

set_option autoImplicit false

namespace LibUvc
namespace Lifetime
namespace Start

open Prog
open LibUvc.Stream (AltSetting Choice Transport resolveTransport)

/-! ## The state -/

/-- The objects of the library, and the callback threads, which are numbered in the order of their
creation. -/
structure Stage where
  heap : Heap := {}
  nextThread : Nat := 0
  /-- The stream that a callback thread serves, until it has ended. -/
  thread : Nat → Option Nat := fun _ => none

def onHeap (f : Heap → Heap) (st : Stage) : Stage := { st with heap := f st.heap }

/-- `pthread_create(&strmh->cb_thread, NULL, _uvc_user_caller, (void*) strmh)`. -/
def createThread (s : Nat) (st : Stage) : Stage :=
  { st with
    nextThread := st.nextThread + 1
    thread := Function.update st.thread st.nextThread (some s) }

/-- The stream is running. -/
def Stage.running (s : Nat) (st : Stage) : Bool := (st.heap.stream s).running

/-- The calls into libusb. -/
inductive StartCall where
  /-- `left` is the number of attempts that are left after this one. -/
  | setInterfaceAltSetting (bInterfaceNumber bAlternateSetting : UInt8) (left : Nat)
  /-- `libusb_submit_transfer(strmh->transfers[i])`. -/
  | submit (s i : Nat)
  deriving DecidableEq, Repr

abbrev StartProg := Prog Stage StartCall

/-- What happens next to the start. -/
inductive Others : World Stage StartCall → World Stage StartCall → Prop
  | event {w : World Stage StartCall} {e : Event} {h : Heap} (he : w.state.heap.event e = some h) :
    Others w ⟨{ w.state with heap := h }, w.log⟩
  /-- `_uvc_user_caller` sees that its stream is not running. -/
  | threadEnds {w : World Stage StartCall} {t s : Nat} (ht : w.state.thread t = some s)
      (hrun : w.state.running s = false) :
    Others w ⟨{ w.state with thread := Function.update w.state.thread t none }, w.log⟩

/-! ## The function -/

/-- Select the altsetting, retrying on transient failure. -/
def selectAltsetting (a : AltSetting) : Nat → StartProg Ret
  | 0 => do
    let ret ← ask (.setInterfaceAltSetting a.bInterfaceNumber a.bAlternateSetting 0)
    return ret
  | left + 1 => do
    let ret ← ask (.setInterfaceAltSetting a.bInterfaceNumber a.bAlternateSetting (left + 1))
    if ret ≠ Ret.success then selectAltsetting a left else return ret

/-- What is done to the device before the transfers are set up: up to 3 attempts at the altsetting
of an isochronous stream, nothing for a bulk stream. -/
def selectTransport : Transport → StartProg Ret
  | .iso choice => selectAltsetting choice.altsetting 2
  | .bulk _ => return Ret.success

/-- A transfer that was submitted belongs to libusb. -/
def submitted (s i : Nat) (h : Heap) : Heap :=
  match (h.stream s).transfers i with
  | some x => h.setPhase x .owned
  | none => h

/-- The loop that submits the transfers from slot `i` on, with the last answer and `transfer_id`. -/
def submitTransfers (s : Nat) : (left i : Nat) → StartProg (Ret × Nat)
  | 0, i => return (Ret.success, i)
  | left + 1, i => do
    let ret ← ask (.submit s i)
    if ret ≠ Ret.success then return (ret, i)
    else
      update (onHeap (submitted s i))
      submitTransfers s left (i + 1)

/-- The loops that free the transfers from slot `i` on. -/
def freeTransfers (s : Nat) : (left i : Nat) → StartProg Unit
  | 0, _ => return ()
  | left + 1, i => do
    update (onHeap (freeSlot s i))
    freeTransfers s left (i + 1)

/-- What follows from the submission, which has got to slot `i`. -/
def conclude (s n : Nat) (code : Ret) (i : Nat) : StartProg Ret :=
  if code = Ret.success then return Ret.success
  else if 0 < i then do
    freeTransfers s (n - i) i
    return Ret.success
  else do
    freeTransfers s n 0
    return Ret.errorIo

/-- Set up the transfers, create the thread if the user wants it, and submit. -/
def startTransfers (s n : Nat) (cb : Bool) : StartProg Ret := do
  update (onHeap (allocTransfers s n))
  when cb (update (createThread s))
  let done ← submitTransfers s n 0
  conclude s n done.1 done.2

/-- The label `fail`. -/
def fail (s : Nat) (ret : Ret) : StartProg Ret := do
  update (onHeap (setRunning s false))
  return ret

/-- What follows from the plan. -/
def carryOut (s count : Nat) (cb : Bool) : Except Ret (FrameFormat × Transport) → StartProg Ret
  | .error code => fail s code
  | .ok (_, transport) => do
    let ret ← selectTransport transport
    if ret ≠ Ret.success then fail s ret else startTransfers s (bufferCount count) cb

/-- `uvc_stream_start`; `cb` says whether there is a callback, and `plan` is the outcome of
`resolveTransport`. -/
def streamStart (s count : Nat) (cb : Bool) (plan : Except Ret (FrameFormat × Transport)) :
    StartProg Ret := do
  let st ← load
  if st.running s then return Ret.errorBusy
  else
    update (onHeap (setRunning s true))
    carryOut s count cb plan

/-! ## What is claimed of it -/

/-- The function may go through these steps, and return `ret`. -/
def Returns (answer : StartCall → Ret) (s count : Nat) (cb : Bool)
    (plan : Except Ret (FrameFormat × Transport)) (st : Stage) (ret : Ret) (st' : Stage) : Prop :=
  ∃ log, Relation.ReflTransGen (Step Others)
    ((streamStart s count cb plan).answered answer, ⟨st, []⟩) (.ret ret, ⟨st', log⟩)

/-- The stream is as it was before a start that has failed. -/
structure Restartable (s : Nat) (st st' : Stage) : Prop where
  running : st'.running s = false
  slots : ∀ i < numTransferBufs, (st'.heap.stream s).transfers i = none
  /-- What was allocated in between was freed once. -/
  freed : ∀ x, st.heap.nextXfer ≤ x → x < st'.heap.nextXfer →
    (st'.heap.xfer x).freed = 1 ∧ (st'.heap.xfer x).bufferFreed = 1
  /-- The threads that were created in between have ended. -/
  threads : ∀ t, st.nextThread ≤ t → t < st'.nextThread → st'.thread t = none
  /-- Another start is not refused because the stream is busy, unless libusb says so. -/
  again : ∀ own ctrl alts plan, resolveTransport own ctrl alts = .ok plan →
    ∀ count cb answer, (∀ k, answer k ≠ Ret.errorBusy) →
      ∀ ret st'', Returns answer s count cb plan st' ret st'' → ret ≠ Ret.errorBusy

/-- The altsetting, if there is one to be selected, is selected: the start gets as far as to set up
its transfers. -/
def Selected (answer : StartCall → Ret) : Except Ret (FrameFormat × Transport) → Prop
  | .error _ => False
  | .ok (_, .bulk _) => True
  | .ok (_, .iso c) => ∃ left ≤ 2, answer (.setInterfaceAltSetting c.altsetting.bInterfaceNumber
      c.altsetting.bAlternateSetting left) = Ret.success

/-! ## Answers -/

section Answers

variable {answer : StartCall → Ret}

/-- What the attempts at an altsetting come to. -/
def attempts (answer : StartCall → Ret) (a : AltSetting) : Nat → Ret
  | 0 => answer (.setInterfaceAltSetting a.bInterfaceNumber a.bAlternateSetting 0)
  | left + 1 =>
    let ret := answer (.setInterfaceAltSetting a.bInterfaceNumber a.bAlternateSetting (left + 1))
    if ret ≠ Ret.success then attempts answer a left else ret

theorem answered_selectAltsetting (a : AltSetting) (left : Nat) :
    (selectAltsetting a left).answered answer = pure (attempts answer a left) := by
  induction left with
  | zero => rfl
  | succ left ih =>
    rw [selectAltsetting, answered_ask_bind, attempts]
    split
    · exact ih
    · rfl

theorem attempts_eq_success {a : AltSetting} {left : Nat} :
    attempts answer a left = Ret.success ↔ ∃ l ≤ left,
      answer (.setInterfaceAltSetting a.bInterfaceNumber a.bAlternateSetting l) = Ret.success := by
  induction left with
  | zero => simp [attempts]
  | succ left ih =>
    rw [attempts]
    split
    · rename_i hfail
      rw [ih]
      constructor
      · rintro ⟨l, hl, hs⟩
        exact ⟨l, by omega, hs⟩
      · rintro ⟨l, hl, hs⟩
        rcases Nat.eq_or_lt_of_le hl with rfl | hlt
        · exact absurd hs hfail
        · exact ⟨l, by omega, hs⟩
    · rename_i hdone
      exact iff_of_true (not_not.1 hdone) ⟨left + 1, le_rfl, not_not.1 hdone⟩

/-- What the selection comes to. -/
def selection (answer : StartCall → Ret) : Transport → Ret
  | .iso choice => attempts answer choice.altsetting 2
  | .bulk _ => Ret.success

theorem answered_selectTransport (t : Transport) :
    (selectTransport t).answered answer = pure (selection answer t) := by
  cases t with
  | iso choice => exact answered_selectAltsetting choice.altsetting 2
  | bulk size => rfl

theorem selected_iff {format : FrameFormat} {t : Transport} :
    Selected answer (.ok (format, t)) ↔ selection answer t = Ret.success := by
  cases t with
  | iso choice => exact attempts_eq_success.symm
  | bulk size => exact iff_of_true trivial rfl

theorem answered_carryOut (s count : Nat) (cb : Bool) (format : FrameFormat) (t : Transport) :
    (carryOut s count cb (.ok (format, t))).answered answer =
      if selection answer t ≠ Ret.success then (fail s (selection answer t)).answered answer
      else (startTransfers s (bufferCount count) cb).answered answer := by
  rw [carryOut, answered_bind, answered_selectTransport]
  show (if selection answer t ≠ Ret.success then fail s (selection answer t)
    else startTransfers s (bufferCount count) cb).answered answer = _
  split
  · rfl
  · rfl

/-- What a start returns that does not get to its transfers. -/
def earlyRet (answer : StartCall → Ret) : Except Ret (FrameFormat × Transport) → Ret
  | .error code => code
  | .ok (_, transport) => selection answer transport

section Early

variable {own : Descriptor.StreamingInterface} {ctrl : StreamCtrl} {alts : List AltSetting}
  {plan : Except Ret (FrameFormat × Transport)} (hplan : resolveTransport own ctrl alts = .ok plan)

include hplan

theorem plan_error {code : Ret} (hcode : plan = .error code) :
    code ≠ Ret.success ∧ code ≠ Ret.errorBusy := by
  have hmem := LibUvc.Stream.resolveTransport_error (hcode ▸ hplan)
  simp only [List.mem_cons, List.not_mem_nil, or_false] at hmem
  rcases hmem with rfl | rfl | rfl
  · decide
  · decide
  · decide

theorem earlyRet_ne_success (hsel : ¬ Selected answer plan) :
    earlyRet answer plan ≠ Ret.success := by
  cases plan with
  | error code => exact (plan_error hplan rfl).1
  | ok p => exact fun h => hsel (selected_iff.2 h)

theorem earlyRet_ne_busy (hanswer : ∀ k, answer k ≠ Ret.errorBusy) :
    earlyRet answer plan ≠ Ret.errorBusy := by
  have hattempts : ∀ a left, attempts answer a left ≠ Ret.errorBusy := by
    intro a left
    induction left with
    | zero => exact hanswer _
    | succ left ih =>
      rw [attempts]
      split
      · exact ih
      · exact hanswer _
  cases plan with
  | error code => exact (plan_error hplan rfl).2
  | ok p =>
    obtain ⟨format, transport⟩ := p
    cases transport with
    | iso choice => exact hattempts choice.altsetting 2
    | bulk size => exact fun h => absurd h (show Ret.success ≠ Ret.errorBusy by decide)

end Early

end Answers

/-! ## What the other threads leave alone -/

/-- Nobody else starts or stops a stream. -/
theorem running_stable (s : Nat) (b : Bool) :
    Stable Others fun w => w.state.running s = b := by
  intro w w' hw hr
  cases hr with
  | event he => exact (event_running he s).trans hw
  | threadEnds => exact hw

/-- All slots of the stream are empty, and nothing was allocated since `st`. -/
structure Untouched (s : Nat) (st st' : Stage) : Prop where
  slots : ∀ i < numTransferBufs, (st'.heap.stream s).transfers i = none
  nextXfer : st'.heap.nextXfer = st.heap.nextXfer
  nextThread : st'.nextThread = st.nextThread

theorem untouched_stable (s : Nat) (st : Stage) :
    Stable Others fun w => Untouched s st w.state := by
  intro w w' hw hr
  cases hr with
  | event he =>
    obtain ⟨hkept, hnext⟩ := event_kept he
    refine ⟨fun i hi => ?_, hnext.trans hw.nextXfer, hw.nextThread⟩
    refine Option.eq_none_iff_forall_ne_some.2 fun x hx => ?_
    have hold := hkept.slot s i x hx
    rw [hw.slots i hi] at hold
    cases hold
  | threadEnds => exact ⟨hw.slots, hw.nextXfer, hw.nextThread⟩

theorem setRunning_running (s : Nat) (b : Bool) (st : Stage) :
    (onHeap (setRunning s b) st).running s = b := by
  show ((setRunning s b st.heap).stream s).running = b
  rw [setRunning, setStream_stream, if_pos rfl]

theorem allocTransfers_running (s n : Nat) (h : Heap) :
    ((allocTransfers s n h).stream s).running = (h.stream s).running := by
  rw [allocTransfers_eq, if_pos rfl]

theorem freeSlot_running (s i : Nat) (h : Heap) :
    ((freeSlot s i h).stream s).running = (h.stream s).running := by
  rw [freeSlot]
  split
  · exact clearSlot_running _ s i s
  · rfl

/-- There is at least one transfer. -/
theorem bufferCount_succ (count : Nat) : ∃ n, bufferCount count = n + 1 := by
  rw [bufferCount]
  split
  · exact ⟨99, rfl⟩
  · refine ⟨min numTransferBufs (max 2 count) - 1, ?_⟩
    have hbufs : numTransferBufs = 100 := rfl
    omega

theorem setRunning_slots (s : Nat) (b : Bool) (st : Stage) :
    ((onHeap (setRunning s b) st).heap.stream s).transfers = (st.heap.stream s).transfers :=
  (setRunning_transfers s b st.heap s).1

/-! ## The first exit -/

section Exits

variable {rely : World Stage StartCall → World Stage StartCall → Prop} {answer : StartCall → Ret}
  {s : Nat} (hrunning : ∀ b, Stable rely fun w => w.state.running s = b)

include hrunning

/-- A start of a stream that is not running is not refused, and carries out its plan. -/
theorem start_idle {P : Stage → Prop} (hP : Stable rely fun w => P w.state)
    (hset : ∀ b st, P st → P (onHeap (setRunning s b) st)) {count : Nat} {cb : Bool}
    {plan : Except Ret (FrameFormat × Transport)} {Q : Ret → World Stage StartCall → Prop}
    (h : Meets rely (fun w => w.state.running s = true ∧ P w.state)
      ((carryOut s count cb plan).answered answer) Q) :
    Meets rely (fun w => w.state.running s = false ∧ P w.state)
      ((streamStart s count cb plan).answered answer) Q := by
  have hst : Stable rely fun w => w.state.running s = false ∧ P w.state :=
    fun w w' hw hr => ⟨hrunning false w w' hw.1 hr, hP w w' hw.2 hr⟩
  rw [streamStart, answered_bind, answered_load]
  refine meets_load_bind hst fun st => ?_
  rintro w ⟨⟨hidle, hPw⟩, rfl⟩
  rw [if_neg (by rw [hidle]; simp), answered_bind, answered_update]
  refine meets_update_bind (P := fun w => w.state.running s = false ∧ P w.state) hst ?_ h w
    ⟨hidle, hPw⟩
  exact fun w hw => ⟨setRunning_running s true w.state, hset true w.state hw.2⟩

/-- **A start that does not get to its transfers** ends with the stream not running, and keeps what
does not depend on that. -/
theorem start_early {P : Stage → Prop} (hP : Stable rely fun w => P w.state)
    (hset : ∀ b st, P st → P (onHeap (setRunning s b) st))
    {plan : Except Ret (FrameFormat × Transport)} (hsel : ¬ Selected answer plan)
    (count : Nat) (cb : Bool) :
    Meets rely (fun w => w.state.running s = false ∧ P w.state)
      ((streamStart s count cb plan).answered answer)
      (fun ret w => ret = earlyRet answer plan ∧ w.state.running s = false ∧ P w.state) := by
  have hst : ∀ b, Stable rely fun w => w.state.running s = b ∧ P w.state :=
    fun b w w' hw hr => ⟨hrunning b w w' hw.1 hr, hP w w' hw.2 hr⟩
  have hfail : ∀ code, Meets rely (fun w => w.state.running s = true ∧ P w.state)
      ((fail s code).answered answer)
      (fun ret w => ret = code ∧ w.state.running s = false ∧ P w.state) := by
    intro code
    rw [fail, answered_bind, answered_update]
    refine meets_update_bind (R := fun w => w.state.running s = false ∧ P w.state) (hst true) ?_ ?_
    · exact fun w hw => ⟨setRunning_running s false w.state, hset false w.state hw.2⟩
    · exact meets_pure (hst false) fun w hw => ⟨rfl, hw⟩
  refine start_idle hrunning hP hset ?_
  cases plan with
  | error code => exact hfail code
  | ok p =>
    obtain ⟨format, transport⟩ := p
    rw [selected_iff] at hsel
    rw [answered_carryOut, if_pos hsel]
    exact hfail _

/-! ## The second exit -/

/-- From the start to the submission, the stream is running. -/
theorem start_selected {plan : Except Ret (FrameFormat × Transport)} (hsel : Selected answer plan)
    {count : Nat} {cb : Bool} {Q : Ret → World Stage StartCall → Prop}
    (h : Meets rely (fun w => w.state.running s = true)
      ((submitTransfers s (bufferCount count) 0).answered answer >>= fun done =>
        (conclude s (bufferCount count) done.1 done.2).answered answer) Q) :
    Meets rely (fun w => w.state.running s = false)
      ((streamStart s count cb plan).answered answer) Q := by
  have hst := hrunning true
  refine (start_idle (P := fun _ => True) hrunning (fun _ _ _ _ => trivial)
    (fun _ _ _ => trivial) ?_).pre fun w hw => ⟨hw, trivial⟩
  refine Meets.pre ?_ fun w hw => hw.1
  obtain ⟨format, transport, rfl⟩ : ∃ format transport, plan = .ok (format, transport) := by
    cases plan with
    | error code => exact absurd hsel id
    | ok p => exact ⟨p.1, p.2, rfl⟩
  rw [answered_carryOut, if_neg (not_not.2 (selected_iff.1 hsel)), startTransfers]
  simp only [answered_bind, answered_update, answered_when]
  refine meets_update_bind (R := fun w => w.state.running s = true) hst (fun w hw => ?_) ?_
  · exact (allocTransfers_running s _ w.state.heap).trans hw
  refine Meets.bind (R := fun _ w => w.state.running s = true) ?_ fun _ => h
  refine meets_when hst (fun _ => ?_) fun _ w hw => hw
  exact meets_update hst hst fun w hw => hw

omit hrunning in
/-- The loop over the slots does not look at `running`. -/
theorem freeTransfers_running (hst : Stable rely fun w => w.state.running s = true) (left i : Nat) :
    Meets rely (fun w => w.state.running s = true) ((freeTransfers s left i).answered answer)
      (fun _ w => w.state.running s = true) := by
  induction left generalizing i with
  | zero => exact meets_pure hst fun _ hw => hw
  | succ left ih =>
    rw [freeTransfers, answered_bind, answered_update]
    refine meets_update_bind hst (fun w hw => ?_) (ih (i + 1))
    exact (freeSlot_running s i w.state.heap).trans hw

/-- **A start whose first transfer is refused** fails, and leaves the stream running. -/
theorem start_refused {plan : Except Ret (FrameFormat × Transport)} (hsel : Selected answer plan)
    (hrefused : answer (.submit s 0) ≠ Ret.success) (count : Nat) (cb : Bool) :
    Meets rely (fun w => w.state.running s = false)
      ((streamStart s count cb plan).answered answer)
      (fun ret w => ret = Ret.errorIo ∧ w.state.running s = true) := by
  have hst := hrunning true
  obtain ⟨n, hn⟩ := bufferCount_succ count
  refine start_selected hrunning hsel ?_
  rw [hn, submitTransfers, answered_ask_bind, if_pos hrefused]
  show Meets rely _ ((conclude s (n + 1) (answer (.submit s 0)) 0).answered answer) _
  rw [conclude, if_neg hrefused, if_neg (lt_irrefl 0), answered_bind]
  refine (freeTransfers_running hst (n + 1) 0).bind fun _ => ?_
  exact meets_pure hst fun w hw => ⟨rfl, hw⟩

omit hrunning in
/-- The submission counts the transfers that were taken. -/
theorem submitTransfers_counts (left i : Nat) :
    Meets rely (fun _ => True) ((submitTransfers s left i).answered answer)
      (fun done _ => i ≤ done.2) := by
  have hst : Stable rely fun _ => True := fun _ _ _ _ => trivial
  induction left generalizing i with
  | zero => exact meets_pure hst fun _ _ => le_rfl
  | succ left ih =>
    rw [submitTransfers, answered_ask_bind]
    split
    · exact meets_pure hst fun _ _ => le_rfl
    · rw [answered_bind, answered_update]
      refine meets_update_bind (R := fun _ => True) hst (fun _ _ => trivial) ?_
      exact Keeps.post (ih (i + 1)) fun done _ hle => Nat.le_of_succ_le hle

/-- **A start whose first transfer is taken** succeeds, whatever becomes of the others. -/
theorem start_taken {plan : Except Ret (FrameFormat × Transport)} (hsel : Selected answer plan)
    (htaken : answer (.submit s 0) = Ret.success) (count : Nat) (cb : Bool) :
    Meets rely (fun w => w.state.running s = false)
      ((streamStart s count cb plan).answered answer) (fun ret _ => ret = Ret.success) := by
  have hst : Stable rely fun _ => True := fun _ _ _ _ => trivial
  obtain ⟨n, hn⟩ := bufferCount_succ count
  refine start_selected hrunning hsel (Meets.pre (P := fun _ => True) ?_ fun _ _ => trivial)
  have hcounts : Meets rely (fun _ => True) ((submitTransfers s (n + 1) 0).answered answer)
      (fun done _ => 0 < done.2) := by
    rw [submitTransfers, answered_ask_bind, if_neg (not_not.2 htaken), answered_bind,
      answered_update]
    exact meets_update_bind (R := fun _ => True) hst (fun _ _ => trivial)
      (submitTransfers_counts n 1)
  rw [hn]
  refine hcounts.bind fun done => ?_
  have hdone : Stable rely fun _ => 0 < done.2 := fun _ _ h _ => h
  rw [conclude]
  split
  · exact meets_pure hdone fun _ _ => rfl
  · rintro w hpos
    rw [if_pos hpos, answered_bind]
    refine Meets.bind (P := fun _ => True) (meets_true _) (fun _ => ?_) w trivial
    exact meets_pure hst fun _ _ => rfl

end Exits

/-! ## Starting again -/

/-- What a start does when it is left alone, it may do. -/
theorem exists_returns {answer : StartCall → Ret} {s count : Nat} {cb : Bool}
    {plan : Except Ret (FrameFormat × Transport)} {P : World Stage StartCall → Prop}
    {Q : Ret → World Stage StartCall → Prop}
    (h : Meets alone P ((streamStart s count cb plan).answered answer) Q) {st : Stage}
    (hst : P ⟨st, []⟩) :
    ∃ ret u, Returns answer s count cb plan st ret u.state ∧ Q ret u := by
  obtain ⟨ret, u, hrun, hQ⟩ := h.exists_run hst
  exact ⟨ret, u, ⟨u.log, hrun⟩, hQ⟩

/-- A start of a stream that is running is refused. -/
theorem returns_busy {s : Nat} {st : Stage} (hrun : st.running s = true)
    (answer : StartCall → Ret) (count : Nat) (cb : Bool)
    (plan : Except Ret (FrameFormat × Transport)) :
    Returns answer s count cb plan st Ret.errorBusy st := by
  have hstart : Meets alone (fun w => w.state = st)
      ((streamStart s count cb plan).answered answer)
      (fun ret w => ret = Ret.errorBusy ∧ w.state = st) := by
    rw [streamStart, answered_bind, answered_load]
    refine meets_load_bind Stable.alone fun st' => ?_
    rintro w ⟨hw, rfl⟩
    rw [if_pos (hw ▸ hrun)]
    exact meets_pure (P := fun w => w.state = st) Stable.alone (fun _ h => ⟨rfl, h⟩) w hw
  obtain ⟨ret, u, hu, rfl, hsame⟩ := exists_returns hstart rfl
  exact hsame ▸ hu

/-- A start of a stream that is not running says that the stream is busy only if libusb does. -/
theorem returns_ne_busy {s : Nat} {st : Stage} (hidle : st.running s = false)
    {own : Descriptor.StreamingInterface} {ctrl : StreamCtrl} {alts : List AltSetting}
    {plan : Except Ret (FrameFormat × Transport)}
    (hplan : resolveTransport own ctrl alts = .ok plan) {count : Nat} {cb : Bool}
    {answer : StartCall → Ret} (hanswer : ∀ k, answer k ≠ Ret.errorBusy) {ret : Ret} {st' : Stage}
    (h : Returns answer s count cb plan st ret st') : ret ≠ Ret.errorBusy := by
  obtain ⟨log, hrun⟩ := h
  have hrunning := running_stable s
  by_cases hsel : Selected answer plan
  · by_cases htaken : answer (.submit s 0) = Ret.success
    · rw [(start_taken hrunning hsel htaken count cb).sound hidle hrun]
      decide
    · rw [((start_refused hrunning hsel htaken count cb).sound hidle hrun).1]
      decide
  · have hearly := start_early (P := fun _ => True) hrunning (fun _ _ _ _ => trivial)
      (fun _ _ _ => trivial) hsel count cb
    rw [(hearly.sound ⟨hidle, trivial⟩ hrun).1]
    exact earlyRet_ne_busy hplan hanswer

/-- **When a start that fails leaves the stream restartable.**  For a stream that is not running,
and whatever libusb answers: every run of the start that fails leaves the stream as it was if and
only if two things hold.  If the start gets to its transfers, the first of them is not refused.  If
it does not, then all slots of the stream were empty when it began. -/
theorem start_restartable_iff {own : Descriptor.StreamingInterface} {ctrl : StreamCtrl}
    {alts : List AltSetting} {plan : Except Ret (FrameFormat × Transport)}
    (hplan : resolveTransport own ctrl alts = .ok plan) (s count : Nat) (cb : Bool)
    (answer : StartCall → Ret) {st : Stage} (hidle : st.running s = false) :
    (∀ ret st', Returns answer s count cb plan st ret st' → ret ≠ Ret.success →
        Restartable s st st') ↔
      (Selected answer plan → answer (.submit s 0) = Ret.success) ∧
        (¬ Selected answer plan →
          ∀ i < numTransferBufs, (st.heap.stream s).transfers i = none) := by
  have halone : ∀ b, Stable alone fun w : World Stage StartCall => w.state.running s = b :=
    fun _ => Stable.alone
  constructor
  · intro h
    refine ⟨fun hsel => ?_, fun hsel => ?_⟩
    · by_contra hrefused
      obtain ⟨ret, u, hrun, hret, hleft⟩ :=
        exists_returns (start_refused halone hsel hrefused count cb) hidle
      have hr := h ret u.state hrun (by rw [hret]; decide)
      exact absurd (hleft.symm.trans hr.running) (by decide)
    · -- left alone, a start that fails early does not touch the slots
      have hearly := start_early (P := fun st' => (st'.heap.stream s).transfers =
          (st.heap.stream s).transfers) halone Stable.alone
        (fun b st' h => (setRunning_slots s b st').trans h) hsel count cb
      obtain ⟨ret, u, hrun, hret, -, hslots⟩ := exists_returns hearly ⟨hidle, rfl⟩
      have hr := h ret u.state hrun (by rw [hret]; exact earlyRet_ne_success hplan hsel)
      exact fun i hi => (congrFun hslots i).symm.trans (hr.slots i hi)
  · rintro ⟨hfirst, hempty⟩ ret st' ⟨log, hrun⟩ hret
    have hrunning := running_stable s
    by_cases hsel : Selected answer plan
    · exact absurd ((start_taken hrunning hsel (hfirst hsel) count cb).sound hidle hrun) hret
    · have hearly := start_early (P := Untouched s st) hrunning (untouched_stable s st)
        (fun b st' h => ⟨by rw [setRunning_slots]; exact h.slots, h.nextXfer, h.nextThread⟩)
        hsel count cb
      obtain ⟨-, hstopped, huntouched⟩ :=
        hearly.sound ⟨hidle, hempty hsel, rfl, rfl⟩ hrun
      refine ⟨hstopped, huntouched.slots, fun x hx hx' => ?_, fun t ht ht' => ?_, ?_⟩
      · exact absurd (huntouched.nextXfer ▸ hx') (not_lt.2 hx)
      · exact absurd (huntouched.nextThread ▸ ht') (not_lt.2 ht)
      · intro own ctrl alts plan hplan count cb answer hanswer ret st'' h
        exact returns_ne_busy hstopped hplan hanswer h

/-- A streaming interface with a second altsetting that can carry its frames. -/
def isoInterface : Descriptor.StreamingInterface where
  bInterfaceNumber := 1
  bEndpointAddress := 0x81
  formatDescs := [{
    bDescriptorSubtype := .formatMjpeg
    guidFormat := Descriptor.formatGuid .mjpeg
    frameDescs := [{ bDescriptorSubtype := .frameMjpeg }] }]

def isoAltsetting : AltSetting where
  bInterfaceNumber := 1
  bAlternateSetting := 1
  endpoint := [{ bEndpointAddress := 0x81, wMaxPacketSize := 64 }]

/-- The first of two streams was started and stopped before; the second is running, with its thread
and a transfer that libusb has. -/
def secondRuns : Stage where
  heap := {
    openDevices := [0], nextDev := 1, nextStream := 2, nextXfer := 2
    dev := fun _ => { streams := [1, 0] }
    stream := fun s =>
      if s = 1 then { running := true, transfers := fun i => if i = 0 then some 1 else none }
      else {}
    xfer := fun x =>
      if x = 1 then { strmh := 1, phase := .owned } else { freed := 1, bufferFreed := 1 } }
  nextThread := 1
  thread t := if t = 0 then some 1 else none

/-- All three attempts at the altsetting fail: so does the start, and the stream can be started
again. -/
theorem start_restartable_altsetting :
    ∃ plan st', resolveTransport isoInterface
          { dwMaxPayloadTransferSize := 64, dwMaxVideoFrameSize := 100 } [{}, isoAltsetting] =
        .ok plan ∧
      Returns (fun _ => Ret.errorIo) 0 2 true plan secondRuns Ret.errorIo st' ∧
      Restartable 0 secondRuns st' := by
  have hplan : resolveTransport isoInterface
        { dwMaxPayloadTransferSize := 64, dwMaxVideoFrameSize := 100 } [{}, isoAltsetting] =
      .ok (.ok (.mjpeg, .iso ⟨isoAltsetting, 64, 2, 128⟩)) := rfl
  have hrun : Relation.ReflTransGen (Step Others)
      ((streamStart 0 2 true (.ok (.mjpeg, .iso ⟨isoAltsetting, 64, 2, 128⟩))).answered
          fun _ => Ret.errorIo, ⟨secondRuns, []⟩) _ :=
    steps_runWith _ [] _
  have hidle : Stage.running 0 secondRuns = false := rfl
  have hrestart := (start_restartable_iff hplan 0 2 true (fun _ => Ret.errorIo) hidle).2
    ⟨fun ⟨_, _, h⟩ => absurd (show Ret.errorIo = Ret.success from h) (by decide),
      fun _ _ _ => rfl⟩
  exact ⟨_, _, hplan, ⟨_, hrun⟩, hrestart _ _ ⟨_, hrun⟩ (by decide)⟩

/-- A bulk camera with a callback and two transfers, the first of which libusb refuses.  The start
fails, and so does the next one: the stream is running, and so is its thread. -/
theorem start_refused_leaves_running :
    ∃ own ctrl alts plan, resolveTransport own ctrl alts = .ok plan ∧
      ∃ st', Returns (fun _ => Ret.errorIo) 0 2 true plan {} Ret.errorIo st' ∧
        st'.running 0 = true ∧ st'.thread 0 = some 0 ∧
        (∃ st'', Returns (fun _ => Ret.success) 0 2 true plan st' Ret.errorBusy st'') ∧
        ¬ Restartable 0 {} st' := by
  refine ⟨{
    bInterfaceNumber := 1
    formatDescs := [{
      bDescriptorSubtype := .formatMjpeg
      guidFormat := Descriptor.formatGuid .mjpeg
      frameDescs := [{ bDescriptorSubtype := .frameMjpeg }] }] }, {}, [{}],
    .ok (.mjpeg, .bulk 0), rfl, ?_⟩
  have hrun : Relation.ReflTransGen (Step Others)
      ((streamStart 0 2 true (.ok (.mjpeg, .bulk 0))).answered fun _ => Ret.errorIo, ⟨{}, []⟩) _ :=
    steps_runWith _ [] _
  refine ⟨_, ⟨_, hrun⟩, rfl, rfl, ⟨_, returns_busy rfl _ _ _ _⟩, fun h => ?_⟩
  exact absurd h.running (by decide)

end Start
end Lifetime
end LibUvc
