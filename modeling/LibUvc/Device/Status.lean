import LibUvc.Basic
import LibUvc.Foundation.Transition

/-!
# Stopping the status transfer

The status endpoint is read by one transfer that `_uvc_status_callback` submits again after every
completion.  `uvc_close` has to bring this to an end before it releases the VideoControl interface,
and `uvc_stop_status_xfer` is how: it raises a flag, cancels, and waits a bounded time for the
callback to say that it will not submit again.

Three parties take part, and `status_mutex` makes each of their critical sections one step:

* `uvc_open_internal` makes the first submission;
* libusb completes a transfer it owns, once, with any status and at any time, which starts a run of
  the callback (`StatusCallback` says how far such a run has got);
* `uvc_stop_status_xfer` raises the flag and then polls.

`StatusXfer` is what they share.  Besides the fields of the device handle it counts what libusb
owns, so that "the flag tells the truth" becomes the invariant `StatusXfer.Counted`: as long as
`status_xfer_submitted` is set there is exactly one submission that libusb still owns or whose
callback has yet to reach its last critical section, and otherwise there is none.  The protocol's
guarantees, `stopStatusXfer_protocol`, follow from it.
-/

set_option autoImplicit false

namespace LibUvc
namespace Device

open Transition

/-- How far a run of `_uvc_status_callback` has got: all of these are before its last critical
section. -/
inductive StatusCallback where
  /-- At the switch on the transfer's status. -/
  | entered (status : TransferStatus)
  /-- In front of the critical section that only clears the flag. -/
  | clearing
  /-- In front of the critical section that submits again unless the handle is being stopped. -/
  | rearming
  deriving DecidableEq, Repr

/-- The status transfer as the application's thread, the event thread and libusb share it. -/
structure StatusXfer where
  /-- `status_xfer` is not `NULL`. -/
  allocated : Bool := false
  /-- `status_xfer_submitted`. -/
  submitted : Bool := false
  /-- `status_xfer_stopping`. -/
  stopping : Bool := false
  /-- How many accepted submissions libusb has not completed yet. -/
  owned : Nat := 0
  /-- The runs of the callback that have not reached the end of their last critical section. -/
  callbacks : List StatusCallback := []
  deriving DecidableEq, Repr

/-! ## The critical sections -/

/-- The switch of `_uvc_status_callback`.  A completed transfer is also handed to
`uvc_process_status_xfer`, which does not touch what is modelled here. -/
def StatusCallback.dispatch : TransferStatus → StatusCallback
  | .error | .cancelled | .noDevice => .clearing
  | .completed | .timedOut | .stall | .overflow => .rearming

/-- The critical section of `uvc_open_internal`: the flag is set first and cleared again when the
submission is refused. -/
def StatusXfer.firstSubmit (r : Ret) (x : StatusXfer) : StatusXfer :=
  if r = Ret.success then { x with submitted := true, owned := x.owned + 1 }
  else { x with submitted := false }

/-- The first critical section of `uvc_stop_status_xfer`, less its `libusb_cancel_transfer`. -/
def StatusXfer.beginStop (x : StatusXfer) : StatusXfer := { x with stopping := true }

/-- What happens to the transfer on libusb's event thread.  The number says which run of the
callback moves. -/
inductive StatusEvent where
  /-- libusb completes the transfer and enters the callback. -/
  | deliver (status : TransferStatus)
  /-- A run of the callback passes its switch. -/
  | switch (n : Nat)
  /-- A run of the callback passes its critical section; `r` answers the submission, if it makes
  one. -/
  | finish (n : Nat) (r : Ret)
  deriving DecidableEq, Repr

/-- One event: the transfer after it, and the answer to the submission it made, if any. -/
def StatusXfer.event (x : StatusXfer) : StatusEvent → Option (StatusXfer × Option Ret)
  | .deliver status =>
    if x.owned = 0 then none
    else some ({ x with owned := x.owned - 1, callbacks := x.callbacks ++ [.entered status] }, none)
  | .switch n =>
    match x.callbacks[n]? with
    | some (.entered status) =>
      some ({ x with callbacks := x.callbacks.set n (.dispatch status) }, none)
    | _ => none
  | .finish n r =>
    let rest := x.callbacks.eraseIdx n
    match x.callbacks[n]? with
    | some .clearing => some ({ x with submitted := false, callbacks := rest }, none)
    | some .rearming =>
      if x.stopping then some ({ x with submitted := false, callbacks := rest }, none)
      else if r ≠ Ret.success then
        some ({ x with submitted := false, callbacks := rest }, some r)
      else some ({ x with owned := x.owned + 1, callbacks := rest }, some r)
    | _ => none

/-! ## The flag tells the truth -/

/-- The submission that the flag stands for is with libusb or in the callback, and there is no
other. -/
def StatusXfer.Counted (x : StatusXfer) : Prop :=
  x.owned + x.callbacks.length = if x.submitted then 1 else 0

theorem StatusXfer.Counted.idle {x : StatusXfer} (h : x.Counted) (hs : x.submitted = false) :
    x.owned = 0 ∧ x.callbacks = [] := by
  rw [Counted, hs] at h
  simp only [Bool.false_eq_true, if_false] at h
  exact ⟨by omega, List.eq_nil_of_length_eq_zero (by omega)⟩

/-- What one event can do.  A completion turns a submission into a run of the callback; a run passes
its switch; a run ends and clears the flag, having tried to submit only if nobody is stopping the
transfer; or a run ends with a new submission. -/
theorem StatusXfer.event_cases {x y : StatusXfer} {e : StatusEvent} {sub : Option Ret}
    (he : x.event e = some (y, sub)) :
    (∃ c, x.owned ≠ 0 ∧ sub = none ∧
      y = { x with owned := x.owned - 1, callbacks := x.callbacks ++ [c] }) ∨
    (∃ n c, sub = none ∧ y = { x with callbacks := x.callbacks.set n c }) ∨
    (∃ n, n < x.callbacks.length ∧ (x.stopping = true → sub = none) ∧
      y = { x with submitted := false, callbacks := x.callbacks.eraseIdx n }) ∨
    (∃ n, n < x.callbacks.length ∧ x.stopping = false ∧
      y = { x with owned := x.owned + 1, callbacks := x.callbacks.eraseIdx n }) := by
  cases e with
  | deliver status =>
    rw [event] at he
    split at he
    · cases he
    · rename_i hne
      cases he
      exact Or.inl ⟨_, hne, rfl, rfl⟩
  | switch n =>
    rw [event] at he
    split at he
    · cases he
      exact Or.inr (Or.inl ⟨n, _, rfl, rfl⟩)
    · cases he
  | finish n r =>
    simp only [event] at he
    split at he
    · rename_i hn
      obtain ⟨hlt, -⟩ := List.getElem?_eq_some_iff.1 hn
      cases he
      exact Or.inr (Or.inr (Or.inl ⟨n, hlt, fun _ => rfl, rfl⟩))
    · rename_i hn
      obtain ⟨hlt, -⟩ := List.getElem?_eq_some_iff.1 hn
      split at he
      · cases he
        exact Or.inr (Or.inr (Or.inl ⟨n, hlt, fun _ => rfl, rfl⟩))
      · rename_i hstop
        rw [Bool.not_eq_true] at hstop
        split at he
        · cases he
          exact Or.inr (Or.inr (Or.inl ⟨n, hlt, fun h => absurd h (by simp [hstop]), rfl⟩))
        · cases he
          exact Or.inr (Or.inr (Or.inr ⟨n, hlt, hstop, rfl⟩))
    · cases he

/-- **One event** keeps the count right. -/
theorem StatusXfer.Counted.event {x y : StatusXfer} {e : StatusEvent} {sub : Option Ret}
    (h : x.Counted) (he : x.event e = some (y, sub)) : y.Counted := by
  have hle : x.owned + x.callbacks.length ≤ 1 := by
    rw [h]
    split <;> omega
  rw [Counted] at h ⊢
  rcases event_cases he with ⟨c, hne, -, rfl⟩ | ⟨n, c, -, rfl⟩ | ⟨n, hn, -, rfl⟩ | ⟨n, hn, -, rfl⟩
  · simp only [List.length_append, List.length_singleton, ← h]
    omega
  · simp only [List.length_set, ← h]
  · simp only [List.length_eraseIdx_of_lt hn, Bool.false_eq_true, if_false]
    omega
  · simp only [List.length_eraseIdx_of_lt hn, ← h]
    omega

/-- No event concerns whether the transfer exists or is being stopped, none makes a submission once
it is being stopped, and there is none at all once the flag is down. -/
theorem StatusXfer.Counted.event_frame {x y : StatusXfer} {e : StatusEvent} {sub : Option Ret}
    (h : x.Counted) (he : x.event e = some (y, sub)) :
    y.allocated = x.allocated ∧ y.stopping = x.stopping ∧ (x.stopping = true → sub = none) ∧
      x.submitted = true := by
  have hsub : x.submitted = true := by
    by_contra hs
    rw [Bool.not_eq_true] at hs
    obtain ⟨ho, hc⟩ := h.idle hs
    cases e with
    | deliver status => simp [StatusXfer.event, ho] at he
    | switch n => simp [StatusXfer.event, hc] at he
    | finish n r => simp [StatusXfer.event, hc] at he
  rcases event_cases he with
    ⟨c, -, hn, rfl⟩ | ⟨n, c, hn, rfl⟩ | ⟨n, -, hn, rfl⟩ | ⟨n, -, hstop, rfl⟩
  · exact ⟨rfl, rfl, fun _ => hn, hsub⟩
  · exact ⟨rfl, rfl, fun _ => hn, hsub⟩
  · exact ⟨rfl, rfl, hn, hsub⟩
  · exact ⟨rfl, rfl, fun hs => absurd hs (by simp [hstop]), hsub⟩

/-! ## The three parties together -/

/-- `LIBUVC_STATUS_STOP_TIMEOUT_MS`. -/
def statusStopTimeoutMs : Nat := 500

/-- `LIBUVC_STATUS_STOP_POLL_MS`. -/
def statusStopPollMs : Nat := 2

/-- Where `uvc_open_internal` stands, as far as the status transfer is concerned. -/
inductive Opener where
  | before
  | opened
  | failed
  deriving DecidableEq, Repr

/-- Where `uvc_stop_status_xfer` stands. -/
inductive Stopper where
  | before
  /-- In the loop, in front of its sleep, with the value of `waited_ms`. -/
  | polling (waitedMs : Nat)
  | returned (stopped : Bool)
  deriving DecidableEq, Repr

/-- The transfer with its three parties, and the answers to all submissions so far. -/
structure StatusSystem where
  xfer : StatusXfer
  opener : Opener := .before
  stopper : Stopper := .before
  submits : List Ret := []
  deriving DecidableEq, Repr

/-- Who moves. -/
inductive StatusLabel where
  /-- `uvc_open_internal` gets to the status endpoint; `r` answers the submission. -/
  | submit (r : Ret)
  /-- `uvc_stop_status_xfer` is entered; `cancel` answers `libusb_cancel_transfer`. -/
  | stop (cancel : Ret)
  /-- `uvc_stop_status_xfer` sleeps and looks at the flag again. -/
  | poll
  /-- The event thread moves. -/
  | event (e : StatusEvent)
  deriving DecidableEq, Repr

/-- The test of the polling loop, on the value of `waited_ms` and of the local `submitted`. -/
def stopLoop (waitedMs : Nat) (submitted : Bool) : Stopper :=
  if submitted && decide (waitedMs < statusStopTimeoutMs) then .polling waitedMs
  else .returned !submitted

/-- One step.  The handle is not known to anybody before `uvc_open_internal` returns it, so
`uvc_stop_status_xfer` is entered only after that; what `libusb_cancel_transfer` answers is not
looked at. -/
def StatusSystem.step (s : StatusSystem) : StatusLabel → Option StatusSystem
  | .submit r =>
    if s.opener = .before then
      if s.xfer.allocated then
        some { s with
          xfer := s.xfer.firstSubmit r
          opener := if r = Ret.success then .opened else .failed
          submits := s.submits ++ [r] }
      else some { s with opener := .opened }
    else none
  | .stop _ =>
    if s.opener = .opened ∧ s.stopper = .before then
      if s.xfer.allocated then
        some { s with xfer := s.xfer.beginStop, stopper := stopLoop 0 s.xfer.submitted }
      else some { s with stopper := .returned true }
    else none
  | .poll =>
    match s.stopper with
    | .polling waitedMs =>
      some { s with stopper := stopLoop (waitedMs + statusStopPollMs) s.xfer.submitted }
    | _ => none
  | .event e =>
    match s.xfer.event e with
    | some (x, sub) => some { s with xfer := x, submits := s.submits ++ sub.toList }
    | none => none

/-- A handle about to be opened, on a device with a status endpoint or without one. -/
def StatusSystem.initial (allocated : Bool) : StatusSystem :=
  { xfer := { allocated := allocated } }

/-- What holds at every moment. -/
structure StatusSystem.Sound (s : StatusSystem) : Prop where
  counted : s.xfer.Counted
  /-- Before the first submission, nobody has begun to stop the transfer. -/
  fresh : s.opener = .before → s.xfer.submitted = false ∧ s.xfer.stopping = false
  /-- The transfer is being stopped as soon as somebody waits for it. -/
  stopping : s.stopper ≠ .before → s.xfer.allocated = true → s.xfer.stopping = true
  /-- The transfer that does not exist is not submitted. -/
  absent : s.xfer.allocated = false → s.xfer.submitted = false
  /-- Once `uvc_stop_status_xfer` has confirmed it, the flag is down. -/
  confirmed : s.stopper = .returned true → s.xfer.submitted = false
  /-- `uvc_stop_status_xfer` comes after `uvc_open_internal`. -/
  opened : s.stopper ≠ .before → s.opener = .opened

theorem StatusSystem.initial_sound (allocated : Bool) : (initial allocated).Sound where
  counted := rfl
  fresh := fun _ => ⟨rfl, rfl⟩
  stopping := fun h => absurd rfl h
  absent := fun _ => rfl
  confirmed := fun h => by cases h
  opened := fun h => absurd rfl h

theorem stopLoop_returned {waitedMs : Nat} {submitted : Bool}
    (h : stopLoop waitedMs submitted = .returned true) : submitted = false := by
  rw [stopLoop] at h
  split at h
  · cases h
  · simpa using h

/-- What one step can do, guards included. -/
theorem StatusSystem.step_cases {s t : StatusSystem} {l : StatusLabel} (hs : s.step l = some t) :
    (∃ r, s.opener = .before ∧ s.xfer.allocated = true ∧ t = { s with
      xfer := s.xfer.firstSubmit r
      opener := if r = Ret.success then .opened else .failed
      submits := s.submits ++ [r] }) ∨
    (s.opener = .before ∧ s.xfer.allocated = false ∧ t = { s with opener := .opened }) ∨
    (s.opener = .opened ∧ s.stopper = .before ∧ s.xfer.allocated = true ∧ t = { s with
      xfer := s.xfer.beginStop
      stopper := stopLoop 0 s.xfer.submitted }) ∨
    (s.opener = .opened ∧ s.stopper = .before ∧ s.xfer.allocated = false ∧
      t = { s with stopper := .returned true }) ∨
    (∃ waitedMs, s.stopper = .polling waitedMs ∧
      t = { s with stopper := stopLoop (waitedMs + statusStopPollMs) s.xfer.submitted }) ∨
    (∃ e x sub, s.xfer.event e = some (x, sub) ∧
      t = { s with xfer := x, submits := s.submits ++ sub.toList }) := by
  cases l with
  | submit r =>
    simp only [StatusSystem.step] at hs
    split at hs
    · rename_i hb
      split at hs
      · rename_i ha
        cases hs
        exact Or.inl ⟨r, hb, ha, rfl⟩
      · rename_i ha
        cases hs
        exact Or.inr (Or.inl ⟨hb, by simpa using ha, rfl⟩)
    · cases hs
  | stop cancel =>
    simp only [StatusSystem.step] at hs
    split at hs
    · rename_i hb
      split at hs
      · rename_i ha
        cases hs
        exact Or.inr (Or.inr (Or.inl ⟨hb.1, hb.2, ha, rfl⟩))
      · rename_i ha
        cases hs
        exact Or.inr (Or.inr (Or.inr (Or.inl ⟨hb.1, hb.2, by simpa using ha, rfl⟩)))
    · cases hs
  | poll =>
    simp only [StatusSystem.step] at hs
    split at hs
    · rename_i waitedMs hpoll
      cases hs
      exact Or.inr (Or.inr (Or.inr (Or.inr (Or.inl ⟨waitedMs, hpoll, rfl⟩))))
    · cases hs
  | event e =>
    simp only [StatusSystem.step] at hs
    split at hs
    · rename_i x sub he
      cases hs
      exact Or.inr (Or.inr (Or.inr (Or.inr (Or.inr ⟨e, x, sub, he, rfl⟩))))
    · cases hs

theorem StatusXfer.Counted.firstSubmit {x : StatusXfer} (h : x.Counted)
    (hx : x.submitted = false) (r : Ret) : (x.firstSubmit r).Counted := by
  obtain ⟨ho, hc⟩ := h.idle hx
  rw [Counted, StatusXfer.firstSubmit]
  split <;> simp [ho, hc]

@[simp] theorem StatusXfer.firstSubmit_allocated (r : Ret) (x : StatusXfer) :
    (x.firstSubmit r).allocated = x.allocated := by
  rw [firstSubmit]
  split <;> rfl

/-- **One step** keeps everything in order. -/
theorem StatusSystem.Sound.step {s t : StatusSystem} {l : StatusLabel} (h : s.Sound)
    (hs : s.step l = some t) : t.Sound := by
  rcases step_cases hs with ⟨r, hb, ha, rfl⟩ | ⟨hb, ha, rfl⟩ | ⟨ho, hst, ha, rfl⟩ |
    ⟨ho, hst, ha, rfl⟩ | ⟨waitedMs, hpoll, rfl⟩ | ⟨e, x, sub, he, rfl⟩
  · obtain ⟨hflag, hnot⟩ := h.fresh hb
    have hst : s.stopper = .before := by
      by_contra hne
      cases hb.symm.trans (h.opened hne)
    refine ⟨h.counted.firstSubmit hflag r, fun hop => ?_, fun hne => absurd hst hne,
      fun hx => ?_, fun hret => (by cases hst.symm.trans hret), fun hne => absurd hst hne⟩
    · revert hop
      simp only
      split <;> simp
    · rw [StatusXfer.firstSubmit_allocated, ha] at hx
      cases hx
  · have hst : s.stopper = .before := by
      by_contra hne
      cases hb.symm.trans (h.opened hne)
    exact ⟨h.counted, fun hop => (by cases hop), fun hne => absurd hst hne, h.absent, h.confirmed,
      fun _ => rfl⟩
  · exact ⟨h.counted, fun hop => (by cases ho.symm.trans hop), fun _ _ => rfl, h.absent,
      stopLoop_returned, fun _ => ho⟩
  · exact ⟨h.counted, h.fresh, fun _ hx => (by cases ha.symm.trans hx), h.absent,
      fun _ => h.absent ha, fun _ => ho⟩
  · have hne : s.stopper ≠ .before := by simp [hpoll]
    exact ⟨h.counted, h.fresh, fun _ => h.stopping hne, h.absent, stopLoop_returned,
      fun _ => h.opened hne⟩
  · obtain ⟨ha, hst, -, hflag⟩ := h.counted.event_frame he
    refine ⟨h.counted.event he, fun hb => ?_, fun hne hx => ?_, fun hx => ?_, fun hret => ?_,
      h.opened⟩
    · cases hflag.symm.trans (h.fresh hb).1
    · rw [hst]
      exact h.stopping hne (ha ▸ hx)
    · cases hflag.symm.trans (h.absent (ha ▸ hx))
    · cases hflag.symm.trans (h.confirmed hret)

/-- **One step** makes no submission once the transfer is being stopped. -/
theorem StatusSystem.Sound.step_stopping {s t : StatusSystem} {l : StatusLabel} (h : s.Sound)
    (hs : s.step l = some t) (hstop : s.xfer.stopping = true) :
    t.xfer.stopping = true ∧ t.submits = s.submits := by
  rcases step_cases hs with ⟨r, hb, -, rfl⟩ | ⟨-, -, rfl⟩ | ⟨-, -, -, rfl⟩ |
    ⟨-, -, -, rfl⟩ | ⟨waitedMs, -, rfl⟩ | ⟨e, x, sub, he, rfl⟩
  · cases hstop.symm.trans (h.fresh hb).2
  · exact ⟨hstop, rfl⟩
  · exact ⟨rfl, rfl⟩
  · exact ⟨hstop, rfl⟩
  · exact ⟨hstop, rfl⟩
  · obtain ⟨-, hst, hsub, -⟩ := h.counted.event_frame he
    refine ⟨hst.trans hstop, ?_⟩
    simp [hsub hstop]

/-- **One step** after the stop was confirmed: it stays confirmed and nothing is submitted. -/
theorem StatusSystem.Sound.step_confirmed {s t : StatusSystem} {l : StatusLabel} (h : s.Sound)
    (hs : s.step l = some t) (hret : s.stopper = .returned true) :
    t.stopper = .returned true ∧ t.submits = s.submits := by
  have hne : s.stopper ≠ .before := by simp [hret]
  have hop : s.opener = .opened := h.opened hne
  rcases step_cases hs with ⟨r, hb, -, rfl⟩ | ⟨hb, -, rfl⟩ | ⟨-, hst, -, rfl⟩ |
    ⟨-, hst, -, rfl⟩ | ⟨waitedMs, hpoll, rfl⟩ | ⟨e, x, sub, he, rfl⟩
  · cases hb.symm.trans hop
  · cases hb.symm.trans hop
  · exact absurd hst hne
  · exact absurd hst hne
  · cases hpoll.symm.trans hret
  · cases (h.confirmed hret).symm.trans (h.counted.event_frame he).2.2.2

/-- **The stop protocol.**  In every run of the three parties, on a device with a status endpoint or
without one: after `status_xfer_stopping` has been set the transfer is never submitted; and once
`uvc_stop_status_xfer` has returned 1, at that moment and ever after, libusb does not own the
transfer, no run of its callback is before the end of its last critical section, and it is not
submitted again. -/
theorem stopStatusXfer_protocol (allocated : Bool) (s : StatusSystem)
    (h : Reachable StatusSystem.step (.initial allocated) s) :
    (s.xfer.stopping = true → ∀ t, Reachable StatusSystem.step s t → t.submits = s.submits) ∧
    (s.stopper = .returned true → ∀ t, Reachable StatusSystem.step s t →
      t.xfer.owned = 0 ∧ t.xfer.callbacks = [] ∧ t.submits = s.submits) := by
  have hs : s.Sound :=
    h.invariant (StatusSystem.initial_sound allocated) fun _ _ _ hu hw => hu.step hw
  refine ⟨fun hstop t ht => ?_, fun hret t ht => ?_⟩
  · have hinv := ht.invariant (I := fun u => u.Sound ∧ u.xfer.stopping = true ∧
      u.submits = s.submits) ⟨hs, hstop, rfl⟩ fun u l w hu hw => by
        obtain ⟨h1, h2⟩ := hu.1.step_stopping hw hu.2.1
        exact ⟨hu.1.step hw, h1, h2.trans hu.2.2⟩
    exact hinv.2.2
  · have hinv := ht.invariant (I := fun u => u.Sound ∧ u.stopper = .returned true ∧
      u.submits = s.submits) ⟨hs, hret, rfl⟩ fun u l w hu hw => by
        obtain ⟨h1, h2⟩ := hu.1.step_confirmed hw hu.2.1
        exact ⟨hu.1.step hw, h1, h2.trans hu.2.2⟩
    obtain ⟨ho, hc⟩ := hinv.1.counted.idle (hinv.1.confirmed hinv.2.1)
    exact ⟨ho, hc, hinv.2.2⟩

/-- A completion arrives just before the stop, so the cancel finds nothing; the callback sees the
flag, does not submit again, and the first poll confirms it. -/
def lateCompletion : StatusSystem where
  xfer := { allocated := true, stopping := true }
  opener := .opened
  stopper := .returned true
  submits := [0]

theorem stopStatusXfer_protocol_late :
    (lateCompletion.xfer.stopping = true →
      ∀ t, Reachable StatusSystem.step lateCompletion t → t.submits = lateCompletion.submits) ∧
    (lateCompletion.stopper = .returned true →
      ∀ t, Reachable StatusSystem.step lateCompletion t →
        t.xfer.owned = 0 ∧ t.xfer.callbacks = [] ∧ t.submits = lateCompletion.submits) :=
  stopStatusXfer_protocol true lateCompletion (reachable_of_exec
    [.submit 0, .event (.deliver .completed), .stop (-5), .event (.switch 0), .event (.finish 0 0),
      .poll] (by decide))

end Device
end LibUvc
