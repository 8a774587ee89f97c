import LibUvc.Basic
import LibUvc.Foundation.Transition

/-!
# Who services a context's events

A context that owns its libusb context also owns the thread that services it, `_uvc_handle_events`.
The thread is started by the `uvc_open` that finds no device open and ended by the `uvc_close` of
the last one; a device whose transfers would not come back is *quarantined* instead of closed, and
from then on the thread is left alone for good.  Its life thus hangs on three conditions and a kill
flag, written in three functions: `startHandlerThread`, `openInternal` and `close` below.

What they are for is `Serviced`: exactly one thread has been started and not joined, and it is still
looping.  `uvc_close` raises `kill_handler_thread` when it ends the thread, and nothing ever takes
the flag down again, so a context whose last device was closed normally can be opened a second time
but will not be serviced (`reopen_unserviced`).  `handler_serviced` says that this, and a
`pthread_create` that fails, are the only ways for it to happen.
-/

set_option autoImplicit false

namespace LibUvc
namespace Context

open Transition

/-- What has become of a thread running `_uvc_handle_events`. -/
inductive HandlerThread where
  /-- In its loop. -/
  | looping
  /-- Returned. -/
  | exited
  /-- Returned, and collected with `pthread_join`. -/
  | joined
  deriving DecidableEq, Repr

/-- The part of `struct uvc_context` that decides about the handler thread, and the threads. -/
structure UvcContext where
  ownUsbCtx : Bool
  /-- `open_devices`. -/
  openDevices : List Nat := []
  killHandlerThread : Bool := false
  hasQuarantinedDevice : Bool := false
  /-- Every thread started so far, oldest first. -/
  threads : List HandlerThread := []
  /-- `handler_thread`, as a position in `threads`. -/
  handlerThread : Option Nat := none
  deriving DecidableEq, Repr

/-- `uvc_start_handler_thread`; `created` is whether `pthread_create` succeeds. -/
def startHandlerThread (created : Bool) (c : UvcContext) : UvcContext :=
  if c.ownUsbCtx && created then
    { c with threads := c.threads ++ [.looping], handlerThread := some c.threads.length }
  else c

/-- The test in front of `uvc_start_handler_thread` in `uvc_open_internal`. -/
def spawns (c : UvcContext) : Bool :=
  c.ownUsbCtx && c.openDevices.isEmpty && !c.hasQuarantinedDevice

/-- `uvc_open_internal` on the context: `ret` is the outcome of everything that comes before. -/
def openInternal (devh : Nat) (ret : Ret) (created : Bool) (c : UvcContext) : UvcContext :=
  if ret ≠ Ret.success then c
  else
    let c' := if spawns c then startHandlerThread created c else c
    { c' with openDevices := c'.openDevices ++ [devh] }

/-- `pthread_join(ctx->handler_thread)`: it returns once the thread has, and collects it. -/
def joinHandlerThread (c : UvcContext) : UvcContext :=
  match c.handlerThread with
  | some n => { c with threads := c.threads.set n .joined }
  | none => c

/-- `uvc_close` on the context: `quarantine` is whether a transfer of the device was left behind. -/
def close (devh : Nat) (quarantine : Bool) (c : UvcContext) : UvcContext :=
  if quarantine then
    { c with openDevices := c.openDevices.erase devh, hasQuarantinedDevice := true }
  else
    let c' :=
      if c.ownUsbCtx && c.openDevices == [devh] && !c.hasQuarantinedDevice then
        joinHandlerThread { c with killHandlerThread := true }
      else c
    { c' with openDevices := c'.openDevices.erase devh }

/-- What can happen to a context. -/
inductive Action where
  /-- `uvc_open` makes a handle, or fails. -/
  | open (devh : Nat) (ret : Ret) (created : Bool)
  /-- `uvc_close` of an open handle. -/
  | close (devh : Nat) (quarantine : Bool)
  /-- A thread finds the kill flag set and returns. -/
  | exit (n : Nat)
  deriving DecidableEq, Repr

/-- One action. -/
def step (c : UvcContext) : Action → Option UvcContext
  | .open devh ret created =>
    if devh ∈ c.openDevices then none else some (openInternal devh ret created c)
  | .close devh quarantine =>
    if devh ∈ c.openDevices then some (close devh quarantine c) else none
  | .exit n =>
    if c.threads[n]? = some .looping ∧ c.killHandlerThread = true then
      some { c with threads := c.threads.set n .exited }
    else none

/-- Exactly one thread has been started and not joined, it is in its loop, and the condition of the
loop is true. -/
def Serviced (c : UvcContext) : Prop :=
  c.threads.filter (· ≠ .joined) = [.looping] ∧ c.killHandlerThread = false

instance (c : UvcContext) : Decidable (Serviced c) := inferInstanceAs (Decidable (_ ∧ _))

/-- A `uvc_open` that has to start the thread does start it, and the thread finds the kill flag
down. -/
def StartsWell (c : UvcContext) : Action → Prop
  | .open _ ret created =>
    ret = Ret.success → spawns c = true → created = true ∧ c.killHandlerThread = false
  | _ => True

instance (c : UvcContext) : (a : Action) → Decidable (StartsWell c a)
  | .open _ ret created => inferInstanceAs
      (Decidable (ret = Ret.success → spawns c = true →
        created = true ∧ c.killHandlerThread = false))
  | .close _ _ => isTrue trivial
  | .exit _ => isTrue trivial

/-! ## The three phases of a context -/

/-- A context of its own libusb context is unused, or serviced, or has been shut down; and it is
serviced as long as it has a device, open or quarantined. -/
structure Phased (c : UvcContext) : Prop where
  own : c.ownUsbCtx = true
  phase :
    (c.threads = [] ∧ c.killHandlerThread = false ∧ c.openDevices = [] ∧
      c.hasQuarantinedDevice = false) ∨
    (c.threads = [.looping] ∧ c.handlerThread = some 0 ∧ c.killHandlerThread = false ∧
      (c.openDevices ≠ [] ∨ c.hasQuarantinedDevice = true)) ∨
    (c.killHandlerThread = true ∧ c.openDevices = [] ∧ c.hasQuarantinedDevice = false)

/-- A context as `uvc_init` makes it when it is given no libusb context. -/
def fresh : UvcContext := { ownUsbCtx := true }

theorem fresh_phased : Phased fresh := ⟨rfl, Or.inl ⟨rfl, rfl, rfl, rfl⟩⟩

theorem Phased.serviced {c : UvcContext} (h : Phased c) (ho : c.openDevices ≠ []) : Serviced c := by
  rcases h.phase with ⟨-, -, hn, -⟩ | ⟨ht, -, hk, -⟩ | ⟨-, hn, -⟩
  · exact absurd hn ho
  · exact ⟨by rw [ht]; rfl, hk⟩
  · exact absurd hn ho

theorem openInternal_phased {c : UvcContext} (h : Phased c) {devh : Nat} {ret : Ret}
    {created : Bool} (hw : StartsWell c (.open devh ret created)) :
    Phased (openInternal devh ret created c) := by
  by_cases hr : ret = Ret.success
  · rw [openInternal, if_neg (not_not.2 hr)]
    have hw' : spawns c = true → created = true ∧ c.killHandlerThread = false := hw hr
    rcases h.phase with ⟨ht, hk, hn, hq⟩ | ⟨ht, hh, hk, hdev⟩ | ⟨hk, hn, hq⟩
    · have hs : spawns c = true := by simp [spawns, h.own, hn, hq]
      have hc : (c.ownUsbCtx && created) = true := by simp [h.own, (hw' hs).1]
      rw [if_pos hs, startHandlerThread, if_pos hc]
      exact ⟨h.own, Or.inr (Or.inl ⟨by simp [ht], by simp [ht], hk, Or.inl (by simp)⟩)⟩
    · have hs : ¬ spawns c = true := by
        rcases hdev with ho | hq
        · simp [spawns, ho]
        · simp [spawns, hq]
      rw [if_neg hs]
      exact ⟨h.own, Or.inr (Or.inl ⟨ht, hh, hk, Or.inl (by simp)⟩)⟩
    · have hs : spawns c = true := by simp [spawns, h.own, hn, hq]
      cases hk.symm.trans (hw' hs).2
  · rw [openInternal, if_pos hr]
    exact h

theorem close_phased {c : UvcContext} (h : Phased c) {devh : Nat} (hd : devh ∈ c.openDevices)
    (quarantine : Bool) : Phased (close devh quarantine c) := by
  have hne : c.openDevices ≠ [] := List.ne_nil_of_mem hd
  obtain ⟨ht, hh, hk, -⟩ : c.threads = [.looping] ∧ c.handlerThread = some 0 ∧
      c.killHandlerThread = false ∧ (c.openDevices ≠ [] ∨ c.hasQuarantinedDevice = true) := by
    rcases h.phase with ⟨-, -, hn, -⟩ | hp | ⟨-, hn, -⟩
    · exact absurd hn hne
    · exact hp
    · exact absurd hn hne
  rw [close]
  cases quarantine with
  | true => exact ⟨h.own, Or.inr (Or.inl ⟨ht, hh, hk, Or.inr rfl⟩)⟩
  | false =>
    simp only [Bool.false_eq_true, if_false]
    by_cases hlast : (c.ownUsbCtx && c.openDevices == [devh] && !c.hasQuarantinedDevice) = true
    · rw [if_pos hlast]
      simp only [Bool.and_eq_true, beq_iff_eq, Bool.not_eq_true'] at hlast
      obtain ⟨⟨-, hone⟩, hq⟩ := hlast
      simp only [joinHandlerThread, hh]
      exact ⟨h.own, Or.inr (Or.inr ⟨rfl, by simp [hone], hq⟩)⟩
    · rw [if_neg hlast]
      refine ⟨h.own, Or.inr (Or.inl ⟨ht, hh, hk, ?_⟩)⟩
      by_cases hq : c.hasQuarantinedDevice = true
      · exact Or.inr hq
      · refine Or.inl fun hempty => hlast ?_
        -- the list without `devh` is empty, so `devh` was all there was
        have hone : c.openDevices = [devh] := by
          rcases List.erase_eq_nil_iff.1 hempty with hn | hn
          · exact absurd hn hne
          · exact hn
        simp [h.own, hone, hq]

/-- **One action** of a run in which threads start well. -/
theorem step_phased {c d : UvcContext} {a : Action} (h : Phased c) (hw : StartsWell c a)
    (hs : step c a = some d) : Phased d := by
  cases a with
  | «open» devh ret created =>
    rw [step] at hs
    split at hs
    · cases hs
    · cases hs
      exact openInternal_phased h hw
  | close devh quarantine =>
    rw [step] at hs
    split at hs
    · rename_i hd
      cases hs
      exact close_phased h hd quarantine
    · cases hs
  | exit n =>
    rw [step] at hs
    split at hs
    · rename_i hn
      cases hs
      rcases h.phase with ⟨-, hk, -, -⟩ | ⟨-, -, hk, -⟩ | hp
      · cases hk.symm.trans hn.2
      · cases hk.symm.trans hn.2
      · exact ⟨h.own, Or.inr (Or.inr hp)⟩
    · cases hs

/-- A start that goes wrong leaves an open device that nobody services. -/
theorem step_unserviced {c d : UvcContext} {a : Action} (h : Phased c) (hw : ¬ StartsWell c a)
    (hs : step c a = some d) : d.openDevices ≠ [] ∧ ¬ Serviced d := by
  cases a with
  | close devh quarantine => exact absurd trivial hw
  | exit n => exact absurd trivial hw
  | «open» devh ret created =>
    simp only [StartsWell, Classical.not_imp] at hw
    obtain ⟨hr, hsp, hbad⟩ := hw
    have hd : d = openInternal devh ret created c := by
      rw [step] at hs
      split at hs
      · cases hs
      · exact (Option.some_inj.1 hs).symm
    rw [openInternal, if_neg (not_not.2 hr), if_pos hsp] at hd
    subst hd
    refine ⟨by simp, ?_⟩
    rintro ⟨hthreads, hkill⟩
    rcases h.phase with ⟨ht, hk, hn, hq⟩ | ⟨ht, hh, hk, hdev⟩ | ⟨hk, hn, hq⟩
    · -- no thread before, and none was created
      have hcr : created = false := by
        by_contra hc
        exact hbad ⟨by simpa using hc, hk⟩
      simp [startHandlerThread, hcr, ht] at hthreads
    · rcases hdev with ho | hq
      · simp [spawns, ho] at hsp
      · simp [spawns, hq] at hsp
    · -- the flag is still up from the last shutdown
      have hup : (startHandlerThread created c).killHandlerThread = true := by
        rw [startHandlerThread]
        split
        · exact hk
        · exact hk
      exact absurd (hup.symm.trans hkill) (by simp)

/-- **Event servicing.**  On a context that owns its libusb context, as long as every `uvc_open`
that has to start the handler thread does start it and finds `kill_handler_thread` down: whenever a
device is open, exactly one thread has been started and not joined, and it is looping.  The
condition is exact: the first open that misses it leaves a device open and nobody to service it. -/
theorem handler_serviced (c : UvcContext) (hc : ReachableVia step StartsWell fresh c) :
    (c.openDevices ≠ [] → Serviced c) ∧
    ∀ a d, ¬ StartsWell c a → step c a = some d → d.openDevices ≠ [] ∧ ¬ Serviced d := by
  have hphase : Phased c :=
    hc.invariant fresh_phased fun _ _ _ hu hg hs => step_phased hu hg hs
  exact ⟨hphase.serviced, fun a d hw hs => step_unserviced hphase hw hs⟩

/-- Two devices on one context, the first of them quarantined by the time the second is closed and a
third is opened. -/
theorem handler_serviced_quarantine :
    Serviced (close 1 false (close 0 true (openInternal 1 0 true (openInternal 0 0 true fresh))) |>
      openInternal 2 0 true) :=
  (handler_serviced _
    (reachableVia_of_exec
      [.open 0 0 true, .open 1 0 true, .close 0 true, .close 1 false, .open 2 0 true] rfl)).1
    (by decide)

/-- A device is opened and closed, and a device is opened again: the thread started for it finds the
kill flag still up from the first close. -/
theorem reopen_unserviced :
    ∃ c, Reachable step fresh c ∧ c.openDevices = [1] ∧ ¬ Serviced c :=
  ⟨_, reachable_of_exec [.open 0 0 true, .close 0 false, .open 1 0 true] rfl, by decide, by decide⟩

end Context
end LibUvc
