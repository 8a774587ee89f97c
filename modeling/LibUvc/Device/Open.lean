import LibUvc.Context.Handler
import LibUvc.Descriptor.Numbers
import LibUvc.Device.Teardown
import LibUvc.Foundation.Embed

/-!
# Opening a device, and failing to

`uvc_open` makes a device handle, and on the way takes things that somebody has to give back: the
libusb handle, a reference to the device, the VideoControl interface and with it the driver, the
status transfer, the reattach guard.  Any of the calls in between may fail, and all the failures
meet at one label, `fail` below, which has to find out what there is to give back.

`uvcOpen` is the whole of it, with the scan of the descriptors as it is in `LibUvc.Descriptor` and
the claim as it is in `LibUvc.Device.Interfaces`.  libusb's event thread runs next to it, on behalf
of the other devices of the context, and takes notice of this one as soon as its status transfer has
been submitted.  `uvcOpen_undone` says that an open that fails leaves nothing behind.

The proof is in two parts.  `Opening` and `GivenBack` are about the handle alone: what is between
the claim and the label, and what the label's `uvc_release_if` makes of it.  As long as the status
transfer is not submitted the event thread has nothing to do with the handle, so these hold as if
the opening thread were alone (`Sat.of_alone`).  `Ahead` is about everything around the handle.
-/

set_option autoImplicit false

namespace LibUvc
namespace Device

open Prog Context Descriptor Checked

/-! ## The model -/

/-- A device as `uvc_open` finds it. -/
structure UsbDevice where
  /-- `libusb_get_device_descriptor`. -/
  desc : DeviceDescriptor
  /-- What `get_device_descriptor` makes of it for `uvc_scan_control`, unless that fails. -/
  devDesc : Option DeviceDescriptor
  config : ConfigDescriptor

/-- What `uvc_open` works on. -/
structure OpenState where
  /-- `dev->ctx`. -/
  ctx : UvcContext
  /-- `dev->ref`. -/
  ref : Int
  /-- `dev` has been freed. -/
  discarded : Bool := false
  /-- `internal_devh`, and its fields `info` and `is_isight`. -/
  devh : DevHandle := {}
  info : Option DeviceInfo := none
  isIsight : Bool := false
  /-- `internal_devh` has been freed, and what belongs to it. -/
  freed : Bool := false

/-- The calls that `uvc_open` makes.  Where a call returns a pointer, the answer 0 stands for one
and anything else for `NULL`. -/
inductive OpenCall where
  | libusbOpen
  /-- The `calloc` of `uvc_get_device_info`. -/
  | callocInfo
  | getConfigDescriptor
  /-- A call on the handle. -/
  | usb (k : UsbCall)
  /-- `libusb_get_device_descriptor`, for `is_isight`. -/
  | getDeviceDescriptor
  | allocTransfer
  | freeTransfer
  /-- `uvc_reattach_guard_destroy`, and what the guard has armed at that moment. -/
  | reattachGuardDestroy (reattachGuard : Option IfMask)
  /-- The `pthread_create` of `uvc_start_handler_thread`. -/
  | pthreadCreate
  deriving DecidableEq, Repr

abbrev OpenProg := Prog OpenState OpenCall

/-- The handle, as a part of what `uvc_open` works on. -/
def devhPart : Part DevHandle UsbCall OpenState OpenCall where
  get := OpenState.devh
  put s d := { s with devh := d }
  call := .usb
  called
    | .usb k => some k
    | _ => none
  get_put _ _ := rfl
  called_call _ := rfl

/-- One step of libusb's event thread: it does to the handle what it always does. -/
inductive OpenEvents : World OpenState OpenCall → World OpenState OpenCall → Prop
  | handle (w : World OpenState OpenCall) (d : DevHandle) (log : UsbLog)
      (h : EventThread (devhPart.world w) ⟨d, (devhPart.world w).log ++ log⟩) :
      OpenEvents w ⟨{ w.state with devh := d }, w.log ++ log.map fun e => (.usb e.1, e.2)⟩

/-- `uvc_ref_device`. -/
def refDevice (s : OpenState) : OpenState := { s with ref := s.ref + 1 }

/-- `uvc_unref_device`. -/
def unrefDevice (s : OpenState) : OpenState :=
  { s with ref := s.ref - 1, discarded := s.discarded || s.ref - 1 == 0 }

/-- `info->ctrl_if.bInterfaceNumber`. -/
def ctrlIfOf (info : DeviceInfo) : Nat := info.ctrlIf.bInterfaceNumber.toNat

/-- `uvc_get_device_info`: the tree, or the code that it returns.  A scan that reads outside of the
descriptors has no result. -/
def getDeviceInfo (dev : UsbDevice) : OpenProg (Checked (Except Ret DeviceInfo)) := do
  let r ← ask .callocInfo
  if r ≠ Ret.success then return .ok (.error Ret.errorNoMem)
  else
    let r ← ask .getConfigDescriptor
    if r ≠ Ret.success then return .ok (.error Ret.errorIo)
    else
      match scanControl dev.devDesc dev.config {} with
      | .error e => return .error e
      | .ok (code, info) =>
        if code ≠ Ret.success then return .ok (.error code) else return .ok (.ok info)

/-- The status transfer is allocated and submitted. -/
def startStatusXfer : OpenProg Ret := do
  let r ← ask .allocTransfer
  if r ≠ Ret.success then return Ret.errorNoMem
  else
    update fun s => { s with devh := { s.devh with
      status := { s.devh.status with allocated := true } } }
    -- one critical section: `status_xfer_submitted` is set before the call and cleared if it fails
    let ret ← ask (.usb .submitStatusXfer)
    update fun s => { s with devh := { s.devh with status := s.devh.status.firstSubmit ret } }
    return ret

/-- `uvc_open_internal` from `uvc_get_device_info` to the last `goto fail`: what it takes, and the
code with which it goes on. -/
def acquire (dev : UsbDevice) : OpenProg (Checked Ret) := do
  match ← getDeviceInfo dev with
  | .error e => return .error e
  | .ok (.error code) => return .ok code
  | .ok (.ok info) =>
    update fun s => { s with info := some info, devh := { s.devh with ctrlIf := ctrlIfOf info } }
    let ret ← devhPart.embed (claimIf (ctrlIfOf info))
    if ret ≠ Ret.success then return .ok ret
    else
      let _ ← ask .getDeviceDescriptor
      update fun s => { s with
        isIsight := dev.desc.idVendor == 0x05ac && dev.desc.idProduct == 0x8501 }
      if info.ctrlIf.bEndpointAddress = 0 then return .ok ret
      else
        let ret ← startStatusXfer
        return .ok ret

/-- `uvc_free_devh`. -/
def freeDevh : OpenProg Unit := do
  let s ← load
  when (s.devh.status.allocated && !s.devh.status.submitted) do
    let _ ← ask .freeTransfer
    return ()
  let s ← load
  let _ ← ask (.reattachGuardDestroy s.devh.reattachGuard)
  update fun s => { s with freed := true }

/-- The VideoControl interface is released, if the handle has got so far as to know it. -/
def releaseControl : Option DeviceInfo → OpenProg Ret
  | some info => devhPart.embed (releaseIf (ctrlIfOf info))
  | none => return Ret.success

/-- `uvc_open_internal` from the label `fail` on. -/
def fail : OpenProg Unit := do
  let s ← load
  let _ ← releaseControl s.info
  let _ ← ask (.usb .close)
  update unrefDevice
  freeDevh

/-- The `pthread_create` of `uvc_start_handler_thread`, where the new device is the first. -/
def createThread (c : UvcContext) : OpenProg Ret :=
  if spawns c then ask .pthreadCreate else return Ret.success

/-- `uvc_open_internal`; `devh` is the name of the new handle in `open_devices`. -/
def openInternal (dev : UsbDevice) (devh : Nat) : OpenProg (Checked Ret) := do
  update refDevice
  match ← acquire dev with
  | .error e => return .error e
  | .ok code =>
    if code ≠ Ret.success then
      fail
      return .ok code
    else
      let s ← load
      let created ← createThread s.ctx
      update fun s => { s with ctx := Context.openInternal devh code (created = Ret.success) s.ctx }
      return .ok code

/-- `uvc_open`. -/
def uvcOpen (dev : UsbDevice) (devh : Nat) : OpenProg (Checked Ret) := do
  let ret ← ask .libusbOpen
  if ret ≠ Ret.success then return .ok ret else openInternal dev devh

/-! ## What a log says -/

/-- How often `libusb_close` has been called. -/
def closes (log : UsbLog) : Nat := log.countP fun e => e.1 == .close

/-- `libusb_claim_interface(idx)` has succeeded. -/
def claimAccepted (idx : Nat) (log : UsbLog) : Bool :=
  log.any fun e => e.1 == .claimInterface idx && e.2 == Ret.success

@[simp] theorem closes_snoc (log : UsbLog) (k : UsbCall) (r : Int) :
    closes (log ++ [(k, r)]) = closes log + if k = .close then 1 else 0 := by
  simp [closes, List.countP_append, List.countP_singleton]

@[simp] theorem claimAccepted_snoc (idx : Nat) (log : UsbLog) (k : UsbCall) (r : Int) :
    claimAccepted idx (log ++ [(k, r)]) =
      (claimAccepted idx log || k == .claimInterface idx && r == Ret.success) := by
  simp [claimAccepted]

/-! ## The handle on its own -/

/-- libusb has nothing of the handle: no transfer, and no run of a callback. -/
structure Idle (d : DevHandle) : Prop where
  owned : d.status.owned = 0
  callbacks : d.status.callbacks = []
  streams : d.streams = []

theorem Idle.of_eq {d e : DevHandle} (h : Idle d) (hstatus : e.status = d.status)
    (hstreams : e.streams = d.streams) : Idle e :=
  ⟨hstatus ▸ h.owned, hstatus ▸ h.callbacks, hstreams ▸ h.streams⟩

/-- The event thread does nothing to an idle handle. -/
theorem Idle.eq_of_eventThread {w u : World DevHandle UsbCall} (h : Idle w.state)
    (hr : EventThread w u) : u = w := by
  obtain ⟨d, log⟩ := w
  cases hr with
  | status e x sub he =>
    have hevent : d.status.event e = none := by
      cases e with
      | deliver status => rw [StatusXfer.event, if_pos h.owned]
      | switch n => rw [StatusXfer.event, h.callbacks, List.getElem?_nil]
      | finish n r => rw [StatusXfer.event, h.callbacks, List.getElem?_nil]
    cases hevent.symm.trans he
  | freed idx =>
    have hstreams : transferFreed idx d = d := by
      rw [transferFreed, h.streams, List.map_nil, ← h.streams]
    rw [World.update, hstreams]

/-- Where the interface `c` is all that has been asked for.  A detach of it has not been tried while
its driver was missing. -/
structure Orderly (c : Nat) (w : World DevHandle UsbCall) : Prop where
  idle : Idle w.state
  notClosed : closes w.log = 0
  only : ∀ i, claimAccepted i w.log = true ∨ driverGone i w.log = true → i = c
  inPlace : Answers detachFailsInPlace w.log

/-- The mask says what has been claimed, and nothing has been released yet. -/
structure Opening (c : Nat) (w : World DevHandle UsbCall) : Prop extends Orderly c w where
  notReleased : ∀ i, released i w.log = false
  taken : ∀ i, Mask.has w.state.claimed i = claimAccepted i w.log

variable {c : Nat} {w : World DevHandle UsbCall}

theorem Orderly.update (h : Orderly c w) {f : DevHandle → DevHandle} (hf : Idle (f w.state)) :
    Orderly c (w.update f) where
  idle := hf
  notClosed := h.notClosed
  only := h.only
  inPlace := h.inPlace

/-- A call that concerns no other interface than `c`. -/
theorem Orderly.note (h : Orderly c w) {k : UsbCall} (r : Int) (hclose : k ≠ .close)
    (hclaim : ∀ i, k = .claimInterface i → i = c)
    (hdetach : ∀ i, k = .detachKernelDriver i → i = c ∧ driverGone c w.log = false) :
    Orderly c (w.note k r) where
  idle := h.idle
  notClosed := by rw [World.note_log, closes_snoc, h.notClosed, if_neg hclose]
  only := by
    intro i hi
    rw [World.note_log, claimAccepted_snoc, driverGone_snoc] at hi
    rcases hi with hi | hi
    · rw [Bool.or_eq_true, Bool.and_eq_true, beq_iff_eq] at hi
      rcases hi with hi | ⟨hk, -⟩
      · exact h.only i (Or.inl hi)
      · exact hclaim i hk
    · cases k with
      | detachKernelDriver j =>
        rw [noteDriver] at hi
        split at hi
        · rename_i heq
          rw [← heq.1]
          exact (hdetach j rfl).1
        · exact h.only i (Or.inr hi)
      | attachKernelDriver j =>
        rw [noteDriver] at hi
        split at hi
        · cases hi
        · exact h.only i (Or.inr hi)
      | _ => exact h.only i (Or.inr hi)
  inPlace := by
    rw [World.note_log, answers_snoc]
    refine ⟨h.inPlace, ?_⟩
    cases k with
    | detachKernelDriver j =>
      obtain ⟨rfl, hgone⟩ := hdetach j rfl
      rw [detachFailsInPlace, hgone, Bool.not_false, Bool.or_true]
    | _ => rfl

theorem Opening.update (h : Opening c w) {f : DevHandle → DevHandle} (hf : Idle (f w.state))
    (hclaimed : (f w.state).claimed = w.state.claimed) : Opening c (w.update f) where
  toOrderly := h.toOrderly.update hf
  notReleased := h.notReleased
  taken i := by
    rw [World.update_state, hclaimed]
    exact h.taken i

/-- A change to the guard. -/
theorem Opening.guard (h : Opening c w) {f : DevHandle → DevHandle}
    (hf : ∃ g, f w.state = { w.state with reattachGuard := g }) : Opening c (w.update f) := by
  obtain ⟨g, hg⟩ := hf
  refine h.update ?_ (by rw [hg])
  rw [hg]
  exact h.idle.of_eq rfl rfl

/-- A call that neither claims nor releases. -/
theorem Opening.note (h : Opening c w) {k : UsbCall} (r : Int) (hclose : k ≠ .close)
    (hclaim : ∀ i, k ≠ .claimInterface i) (hrelease : ∀ i, k ≠ .releaseInterface i)
    (hdetach : ∀ i, k = .detachKernelDriver i → i = c ∧ driverGone c w.log = false) :
    Opening c (w.note k r) where
  toOrderly := h.toOrderly.note r hclose (fun i hk => absurd hk (hclaim i)) hdetach
  notReleased i := by simp [h.notReleased i, hrelease i]
  taken i := by simp [h.taken i, hclaim i]

theorem arm_eq (idx : Nat) (d : DevHandle) :
    ∃ g, reattachGuardArm idx d = { d with reattachGuard := g } := by
  rw [reattachGuardArm]
  split
  · exact ⟨d.reattachGuard, rfl⟩
  · split
    · exact ⟨d.reattachGuard, rfl⟩
    · exact ⟨_, rfl⟩

/-- Arming does not come between a handle and its opening, and detaches nothing. -/
theorem armReattachGuard_opening (idx : Nat) (h : Opening c w)
    (hgone : driverGone c w.log = false) :
    Sat alone (fun w => Idle w.state) (fun _ u => Opening c u ∧ driverGone c u.log = false)
      (armReattachGuard idx) w := by
  simp only [armReattachGuard, sat_alone_load_bind]
  refine ⟨h.idle, ?_⟩
  split
  · simp only [sat_alone_ask_bind]
    refine ⟨h.idle, fun r => ?_⟩
    have h1 : Opening c (w.note .getDeviceDescriptor r) :=
      h.note r (by simp) (by simp) (by simp) (by simp)
    have hgone1 : driverGone c (w.note .getDeviceDescriptor r).log = false := by
      rw [World.note_log, driverGone_snoc, hgone]
      rfl
    split
    · exact sat_alone_pure.2 ⟨h1.idle, h1, hgone1⟩
    · simp only [sat_alone_ask_bind]
      refine ⟨h1.idle, fun g => ?_⟩
      have h2 : Opening c ((w.note .getDeviceDescriptor r).note .reattachGuardCreate g) :=
        h1.note g (by simp) (by simp) (by simp) (by simp)
      have hgone2 : driverGone c
          ((w.note .getDeviceDescriptor r).note .reattachGuardCreate g).log = false := by
        rw [World.note_log, driverGone_snoc, hgone1]
        rfl
      split
      · exact sat_alone_pure.2 ⟨h2.idle, h2, hgone2⟩
      · simp only [sat_alone_update_bind, sat_alone_update]
        have h3 := h2.guard (f := fun d => { d with reattachGuard := some 0#32 }) ⟨_, rfl⟩
        have h4 := h3.guard (arm_eq idx _)
        exact ⟨h2.idle, h3.idle, h4.idle, h4, hgone2⟩
  · simp only [sat_alone_update]
    have h1 := h.guard (arm_eq idx _)
    exact ⟨h.idle, h1.idle, h1, hgone⟩

/-- The bit of `c` is set when its claim has succeeded. -/
theorem Opening.claim (hc : c < 32) (h : Opening c w) :
    Opening c ((w.note (.claimInterface c) Ret.success).update
      fun d => { d with claimed := Mask.insert d.claimed c }) where
  toOrderly := (h.toOrderly.note Ret.success (by simp) (by simp) (by simp)).update
    (h.idle.of_eq rfl rfl)
  notReleased i := by simp [h.notReleased i]
  taken i := by
    simp only [World.update_state, World.update_log, World.note_state, World.note_log,
      claimAccepted_snoc, Mask.has_insert, h.taken i]
    by_cases hi : i = c
    · subst hi
      simp [hc]
    · have hne : ¬ c = i := fun h => hi h.symm
      simp [hi, hne]

/-- A claim that fails is no claim. -/
theorem Opening.claim_failed (h : Opening c w) {r : Int} (hr : r ≠ Ret.success) :
    Opening c (w.note (.claimInterface c) r) where
  toOrderly := h.toOrderly.note r (by simp) (by simp) (by simp)
  notReleased i := by simp [h.notReleased i]
  taken i := by simp [h.taken i, hr]

theorem claimIf_opening (hc : c < 32) (h : Opening c w) (hgone : driverGone c w.log = false) :
    Sat alone (fun w => Idle w.state) (fun _ => Opening c) (claimIf c) w := by
  simp only [claimIf, sat_alone_load_bind]
  refine ⟨h.idle, ?_⟩
  split
  · exact sat_alone_pure.2 ⟨h.idle, h⟩
  · refine sat_bind (armReattachGuard_opening c h hgone) ?_
    rintro _ u ⟨hu, hgone⟩
    simp only [sat_alone_ask_bind]
    refine ⟨hu.idle, fun detach => ?_⟩
    have hd : Opening c (u.note (.detachKernelDriver c) detach) := by
      refine hu.note detach (by simp) (by simp) (by simp) ?_
      rintro i ⟨⟩
      exact ⟨rfl, hgone⟩
    split
    · simp only [sat_alone_update_bind, sat_alone_pure]
      have hdis := hd.guard (disarm_eq c _)
      exact ⟨hd.idle, hdis.idle, hdis⟩
    · simp only [sat_alone_ask_bind]
      refine ⟨hd.idle, fun ret => ?_⟩
      split
      · rename_i hret
        subst hret
        simp only [sat_alone_update_bind, sat_alone_pure]
        have hcl := hd.claim hc
        exact ⟨hd.idle, hcl.idle, hcl⟩
      · rename_i hret
        have hcl := hd.claim_failed hret
        simp only [sat_alone_ask_bind]
        refine ⟨hcl.idle, fun reattach => ?_⟩
        have ha := hcl.note (k := .attachKernelDriver c) reattach (by simp) (by simp) (by simp)
          (by simp)
        split
        · simp only [sat_alone_update_bind, sat_alone_pure]
          have hb := ha.guard (disarm_eq c _)
          exact ⟨ha.idle, hb.idle, hb⟩
        · exact sat_alone_pure.2 ⟨ha.idle, ha⟩

/-- What has been claimed has been released, and nothing else. -/
def Settled (log : UsbLog) : Prop := ∀ i, released i log = claimAccepted i log

theorem Settled.note {log : UsbLog} (h : Settled log) {k : UsbCall} (r : Int)
    (hclaim : ∀ i, k ≠ .claimInterface i) (hrelease : ∀ i, k ≠ .releaseInterface i) :
    Settled (log ++ [(k, r)]) := by
  intro i
  rw [released_snoc, claimAccepted_snoc, h i, beq_eq_false_iff_ne.2 (hclaim i),
    beq_eq_false_iff_ne.2 (hrelease i), Bool.false_and]

/-- The release of `c`, which was claimed and nothing else. -/
theorem Opening.release (h : Opening c w) (hc : claimAccepted c w.log = true) (r : Int) :
    Settled (w.log ++ [(.releaseInterface c, r)]) := by
  intro i
  by_cases hi : i = c
  · subst hi
    simp [hc]
  · have hno : claimAccepted i w.log = false := by
      by_contra hyes
      exact hi (h.only i (Or.inl (by simpa using hyes)))
    have hne : UsbCall.releaseInterface c ≠ .releaseInterface i := by simpa using Ne.symm hi
    rw [released_snoc, claimAccepted_snoc, h.notReleased i, hno, beq_eq_false_iff_ne.2 hne]
    rfl

theorem releaseIf_settled (h : Opening c w) :
    Sat alone (fun w => Idle w.state) (fun _ u => Orderly c u ∧ Settled u.log) (releaseIf c) w := by
  simp only [releaseIf, sat_alone_load_bind]
  refine ⟨h.idle, ?_⟩
  split
  · rename_i hfree
    rw [Bool.not_eq_true', h.taken] at hfree
    have hsettled : Settled w.log := by
      intro i
      rw [h.notReleased i, eq_comm, ← Bool.not_eq_true]
      intro hyes
      obtain rfl := h.only i (Or.inl hyes)
      rw [hfree] at hyes
      cases hyes
    exact sat_alone_pure.2 ⟨h.idle, h.toOrderly, hsettled⟩
  · rename_i hheld
    rw [Bool.not_eq_true', Bool.not_eq_false, h.taken] at hheld
    simp only [sat_alone_ask_bind]
    refine ⟨h.idle, fun alt => ?_⟩
    have h1 := h.note (k := .setInterfaceAltSetting c) alt (by simp) (by simp) (by simp) (by simp)
    refine ⟨h1.idle, fun ret => ?_⟩
    have h2 := h1.toOrderly.note (k := .releaseInterface c) ret (by simp) (by simp) (by simp)
    have hs2 := h1.release (by simpa using hheld) ret
    split
    · simp only [sat_alone_update_bind, sat_alone_ask_bind]
      have h3 := h2.update (f := fun d => { d with claimed := Mask.erase d.claimed c })
        (h2.idle.of_eq rfl rfl)
      refine ⟨h2.idle, h3.idle, fun attach => ?_⟩
      have h4 := h3.note (k := .attachKernelDriver c) attach (by simp) (by simp) (by simp)
      have hs4 := hs2.note (k := .attachKernelDriver c) attach (by simp) (by simp)
      split
      · simp only [sat_alone_update_bind, sat_alone_pure]
        have h5 := h4.update (h4.idle.of_eq (disarm_status c _) (disarm_streams c _))
        exact ⟨h4.idle, h5.idle, h5, hs4⟩
      · exact sat_alone_pure.2 ⟨h4.idle, h4, hs4⟩
    · exact sat_alone_pure.2 ⟨h2.idle, h2, hs2⟩

/-- What was proved of a handle that stays idle holds next to the event thread. -/
theorem heeds_of_alone {α : Type} {P : World DevHandle UsbCall → Prop} {p : DevProg α}
    {Q : α → World DevHandle UsbCall → Prop}
    (h : ∀ w, P w → Sat alone (fun w => Idle w.state) Q p w) :
    Heeds EventThread (fun _ _ => True) P p Q :=
  fun w hw => (Sat.of_alone (fun _ _ hidle hr => hidle.eq_of_eventThread hr) (h w hw)).obeys

/-- What the label makes of the handle. -/
structure GivenBack (n : Nat) (w : World DevHandle UsbCall) : Prop where
  idle : Idle w.state
  closed : closes w.log = n
  settled : Settled w.log
  backstop : Answers guardComesUp w.log → ∀ i, driverGone i w.log = true → armed i w.state = true

theorem claimIf_heeds (hc : c < 32) :
    Heeds EventThread (fun _ _ => True)
      (fun w => (Opening c w ∧ driverGone c w.log = false) ∧ Assuming Covered w) (claimIf c)
      (fun _ w => Opening c w ∧ Assuming Covered w) := by
  refine heeds_of_alone fun w hw => ?_
  have hboth := (claimIf_opening hc hw.1.1 hw.1.2).and (claimIf_sat hc hw.2)
  exact hboth.weaken fun _ h => h.1

theorem releaseIf_heeds (hc : c < 32) :
    Heeds EventThread (fun _ _ => True) (fun w => Opening c w ∧ Assuming Covered w) (releaseIf c)
      (fun _ => GivenBack 0) := by
  refine heeds_of_alone fun w hw => ?_
  have hboth := (releaseIf_settled hw.1).and (releaseIf_sat hw.2)
  refine (hboth.weaken fun _ h => h.1).mono ?_
  rintro _ u ⟨⟨hu, hsettled⟩, hcovered⟩
  refine ⟨hu.idle, hu.notClosed, hsettled, fun hup i hgone => ?_⟩
  obtain rfl := hu.only i (Or.inr hgone)
  exact (hcovered hup hu.inPlace i hc).1 hgone

/-! ## Around the handle -/

/-- A log of the calls of `uvc_open`. -/
abbrev OpenLog := List (OpenCall × Int)

/-- The calls on the handle. -/
def usbLog (log : OpenLog) : UsbLog :=
  log.filterMap fun e => (devhPart.called e.1).map fun k => (k, e.2)

/-- `libusb_open` has succeeded. -/
def opened (log : OpenLog) : Bool := log.any fun e => e.1 == .libusbOpen && e.2 == Ret.success

def isDestroy : OpenCall → Bool
  | .reattachGuardDestroy _ => true
  | _ => false

/-- `uvc_reattach_guard_destroy` has been called. -/
def destroyed (log : OpenLog) : Bool := log.any fun e => isDestroy e.1

section Log

variable (log : OpenLog) (r : Int)

@[simp] theorem usbLog_snoc_usb (k : UsbCall) :
    usbLog (log ++ [(.usb k, r)]) = usbLog log ++ [(k, r)] := by
  simp [usbLog, devhPart]

theorem usbLog_snoc {k : OpenCall} (hk : devhPart.called k = none) :
    usbLog (log ++ [(k, r)]) = usbLog log := by
  simp [usbLog, hk]

theorem opened_snoc (k : OpenCall) (h : opened log = true) : opened (log ++ [(k, r)]) = true := by
  rw [opened, List.any_append, Bool.or_eq_true]
  exact Or.inl h

@[simp] theorem destroyed_snoc (k : OpenCall) :
    destroyed (log ++ [(k, r)]) = (destroyed log || isDestroy k) := by
  simp [destroyed]

end Log

/-- The part of the way that lies behind, as far as it is not about the handle. -/
structure Ahead (ctx : UvcContext) (ref : Int) (info : Option DeviceInfo)
    (w : World OpenState OpenCall) : Prop where
  ctx : w.state.ctx = ctx
  ref : w.state.ref = ref
  info : w.state.info = info
  opened : opened w.log = true
  guarded : destroyed w.log = false

variable {ctx : UvcContext} {ref : Int} {info : Option DeviceInfo} {v : World OpenState OpenCall}

theorem Ahead.note (h : Ahead ctx ref info v) {k : OpenCall} (r : Int) (hk : isDestroy k = false) :
    Ahead ctx ref info (v.note k r) where
  ctx := h.ctx
  ref := h.ref
  info := h.info
  opened := opened_snoc _ r k h.opened
  guarded := by rw [World.note_log, destroyed_snoc, h.guarded, hk, Bool.or_false]

theorem Ahead.devh (h : Ahead ctx ref info v) (f : OpenState → DevHandle) :
    Ahead ctx ref info (v.update fun s => { s with devh := f s }) :=
  ⟨h.ctx, h.ref, h.info, h.opened, h.guarded⟩

theorem world_note_usb (w : World OpenState OpenCall) (k : UsbCall) (r : Int) :
    devhPart.world (w.note (.usb k) r) = (devhPart.world w).note k r := devhPart.world_note w k r

theorem world_note_other (w : World OpenState OpenCall) {k : OpenCall} (r : Int)
    (hk : devhPart.called k = none) : devhPart.world (w.note k r) = devhPart.world w :=
  congrArg (World.mk w.state.devh) (usbLog_snoc w.log r hk)

/-- The event thread does nothing as long as the handle is idle. -/
theorem Idle.eq_of_openEvents {u : World OpenState OpenCall} (h : Idle v.state.devh)
    (hr : OpenEvents v u) : u = v := by
  cases hr with
  | handle d log hd =>
    have heq := Idle.eq_of_eventThread (w := devhPart.world v) h hd
    have hd : d = v.state.devh := congrArg World.state heq
    have hlog : log = [] := List.append_right_eq_self.1 (congrArg World.log heq)
    rw [hd, hlog, List.map_nil, List.append_nil]

theorem stable_of_idle {P : World OpenState OpenCall → Prop}
    (h : ∀ w, P w → Idle w.state.devh) : Stable OpenEvents P := by
  intro w u hw hr
  rw [(h w hw).eq_of_openEvents hr]
  exact hw

/-- What the functions of `LibUvc.Device.Interfaces` do to the handle, they do here. -/
theorem embed_heeds {α : Type} {P : World DevHandle UsbCall → Prop} {p : DevProg α}
    {Q : α → World DevHandle UsbCall → Prop} (h : Heeds EventThread (fun _ _ => True) P p Q) :
    Heeds OpenEvents (fun _ _ => True) (fun w => P (devhPart.world w) ∧ Ahead ctx ref info w)
      (devhPart.embed p) (fun a w => Q a (devhPart.world w) ∧ Ahead ctx ref info w) := by
  refine devhPart.heeds h ?_ (fun w f hF => hF.devh _) (fun w k r hF => hF.note r rfl)
    fun _ _ _ _ => trivial
  rintro w u hF ⟨d, log, hd⟩
  have hworld : devhPart.world
      ⟨{ w.state with devh := d }, w.log ++ log.map fun e => (.usb e.1, e.2)⟩ =
      ⟨d, (devhPart.world w).log ++ log⟩ := by
    simp [Part.world, devhPart]
  refine ⟨hworld ▸ .single hd, hF.ctx, hF.ref, hF.info, ?_, ?_⟩
  · rw [LibUvc.Device.opened, List.any_append, Bool.or_eq_true]
    exact Or.inl hF.opened
  · rw [destroyed, List.any_append, Bool.or_eq_false_iff]
    exact ⟨hF.guarded, by simp [isDestroy]⟩

/-! ## Getting there -/

/-- The handle, wherever `uvc_open_internal` may turn to its label: as it was allocated, or with an
interface asked for that is known. -/
def Ready : Option DeviceInfo → World DevHandle UsbCall → Prop
  | none, w => w = ⟨{}, []⟩
  | some info, w => ctrlIfOf info < 32 ∧ Opening (ctrlIfOf info) w ∧ Assuming Covered w

/-- Wherever `uvc_open_internal` may turn to its label. -/
def AtLabel (ctx : UvcContext) (ref : Int) (info : Option DeviceInfo)
    (w : World OpenState OpenCall) : Prop :=
  Ready info (devhPart.world w) ∧ Ahead ctx ref info w

theorem AtLabel.idle (h : AtLabel ctx ref info v) : Idle v.state.devh := by
  cases info with
  | none =>
    have hdevh : v.state.devh = {} := congrArg World.state h.1
    rw [hdevh]
    exact ⟨rfl, rfl, rfl⟩
  | some info => exact h.1.2.1.idle

theorem AtLabel.stable : Stable OpenEvents (AtLabel ctx ref info) :=
  stable_of_idle fun _ h => h.idle

/-- A call that is not about the handle. -/
theorem AtLabel.note (h : AtLabel ctx ref info v) {k : OpenCall} (r : Int)
    (hk : devhPart.called k = none) (hdestroy : isDestroy k = false) :
    AtLabel ctx ref info (v.note k r) := by
  refine ⟨?_, h.2.note r hdestroy⟩
  rw [world_note_other v r hk]
  exact h.1

theorem atLabel_ask_bind {β : Type} {k : OpenCall} {g : Int → OpenProg β}
    {Q : β → World OpenState OpenCall → Prop} (hk : devhPart.called k = none)
    (hdestroy : isDestroy k = false)
    (hg : ∀ r, Heeds OpenEvents (fun _ _ => True) (AtLabel ctx ref info) (g r) Q) :
    Heeds OpenEvents (fun _ _ => True) (AtLabel ctx ref info) (ask k >>= g) Q :=
  heeds_ask_bind (R := fun _ => AtLabel ctx ref info) AtLabel.stable (fun _ _ => trivial)
    (fun _ r h => h.note r hk hdestroy) hg

theorem freshHandle_opening (c : Nat) : Opening c (freshHandle c) where
  idle := ⟨rfl, rfl, rfl⟩
  notClosed := rfl
  only i hi := by simp [freshHandle, claimAccepted, driverGone] at hi
  inPlace := fun n => n.elim0
  notReleased _ := rfl
  taken i := by simp [freshHandle, claimAccepted]

/-- libusb does not report more than 32 interfaces, so the VideoControl interface has its bit. -/
theorem ctrlIfOf_lt {dev : UsbDevice} (hlen : dev.config.interface.length ≤ 32) {info : DeviceInfo}
    (hscan : scanControl dev.devDesc dev.config {} = .ok (0, info)) : ctrlIfOf info < 32 := by
  obtain ⟨position, ifDesc, hfound, hnum, -⟩ := scanControl_parsedFrom hscan
  have hlt := (firstSetting_of_findControl hfound).2
  rw [ctrlIfOf, hnum, UInt8.toNat_ofNat', Nat.mod_eq_of_lt (by omega)]
  omega

theorem getDeviceInfo_heeds (dev : UsbDevice) :
    Heeds OpenEvents (fun _ _ => True) (AtLabel ctx ref none) (getDeviceInfo dev) (fun result w =>
      AtLabel ctx ref none w ∧ ∀ info, result = .ok (.ok info) →
        scanControl dev.devDesc dev.config {} = .ok (0, info)) := by
  rw [getDeviceInfo]
  refine atLabel_ask_bind rfl rfl fun r => ?_
  split
  · exact heeds_pure AtLabel.stable fun w h => ⟨h, by simp⟩
  · refine atLabel_ask_bind rfl rfl fun r => ?_
    split
    · exact heeds_pure AtLabel.stable fun w h => ⟨h, by simp⟩
    · split
      · exact heeds_pure AtLabel.stable fun w h => ⟨h, by simp⟩
      · rename_i code tree hscan
        split
        · exact heeds_pure AtLabel.stable fun w h => ⟨h, by simp⟩
        · rename_i hcode
          obtain rfl : code = Ret.success := not_not.1 hcode
          refine heeds_pure AtLabel.stable fun w h => ⟨h, ?_⟩
          rintro _ ⟨⟩
          exact hscan

/-- A change to the status transfer that libusb has no part in. -/
theorem AtLabel.status {tree : DeviceInfo} (h : AtLabel ctx ref (some tree) v)
    {f : StatusXfer → StatusXfer}
    (howned : (f v.state.devh.status).owned = v.state.devh.status.owned)
    (hcallbacks : (f v.state.devh.status).callbacks = v.state.devh.status.callbacks) :
    AtLabel ctx ref (some tree) (v.update fun s =>
      { s with devh := { s.devh with status := f s.devh.status } }) := by
  obtain ⟨⟨hc, hopening, hcovered⟩, hahead⟩ := h
  have hidle := hopening.idle
  refine ⟨⟨hc, ?_, hcovered.update (f := fun d => { d with status := f d.status }) id⟩,
    hahead.devh _⟩
  exact hopening.update (f := fun d => { d with status := f d.status })
    ⟨howned.trans hidle.owned, hcallbacks.trans hidle.callbacks, hidle.streams⟩ rfl

theorem startStatusXfer_heeds (tree : DeviceInfo) :
    Heeds OpenEvents (fun _ _ => True) (AtLabel ctx ref (some tree)) startStatusXfer
      (fun code w => code ≠ Ret.success → AtLabel ctx ref (some tree) w) := by
  rw [startStatusXfer]
  refine atLabel_ask_bind rfl rfl fun r => ?_
  split
  · exact heeds_pure AtLabel.stable fun w h _ => h
  · refine heeds_update_bind AtLabel.stable (R := AtLabel ctx ref (some tree))
      (fun w h => h.status (f := fun x => { x with allocated := true }) rfl rfl) ?_
    refine heeds_ask_bind AtLabel.stable (fun _ _ => trivial)
      (R := fun _ => AtLabel ctx ref (some tree)) ?_ fun ret => ?_
    · rintro w r ⟨⟨hc, hopening, hcovered⟩, hahead⟩
      refine ⟨?_, hahead.note r rfl⟩
      rw [world_note_usb]
      exact ⟨hc, hopening.note r (by simp) (by simp) (by simp) (by simp),
        hcovered.note fun hcov _ _ => hcov.note _ r (by simp)⟩
    · by_cases hret : ret = Ret.success
      · -- from here on the event thread has the transfer, and nothing fails
        refine heeds_update_bind AtLabel.stable (R := fun _ => True) (fun _ _ => trivial) ?_
        exact heeds_pure (fun _ _ _ _ => trivial) fun w _ hne => absurd hret hne
      · have hrefused : ∀ x : StatusXfer, x.firstSubmit ret = { x with submitted := false } :=
          fun x => if_neg hret
        refine heeds_update_bind AtLabel.stable (R := AtLabel ctx ref (some tree))
          (fun w h => h.status (f := StatusXfer.firstSubmit ret) ?_ ?_) ?_
        · rw [hrefused]
        · rw [hrefused]
        · exact heeds_pure AtLabel.stable fun w h _ => h

/-- The handle gets to know its interface. -/
theorem AtLabel.learn (h : AtLabel ctx ref none v) (tree : DeviceInfo) :
    let u := v.update fun s =>
      { s with info := some tree, devh := { s.devh with ctrlIf := ctrlIfOf tree } }
    devhPart.world u = freshHandle (ctrlIfOf tree) ∧ Ahead ctx ref (some tree) u := by
  obtain ⟨hfresh, hahead⟩ := h
  refine ⟨?_, hahead.ctx, hahead.ref, rfl, hahead.opened, hahead.guarded⟩
  exact congrArg (fun w : World DevHandle UsbCall =>
    w.update fun d => { d with ctrlIf := ctrlIfOf tree }) hfresh

/-- Where `uvc_open_internal` goes on with an error, its label finds what it expects. -/
theorem acquire_heeds (dev : UsbDevice) (hlen : dev.config.interface.length ≤ 32) :
    Heeds OpenEvents (fun _ _ => True) (AtLabel ctx ref none) (acquire dev) (fun result w =>
      ∀ code, result = .ok code → code ≠ Ret.success → ∃ info, AtLabel ctx ref info w) := by
  rw [acquire]
  refine (getDeviceInfo_heeds dev).bind fun result => ?_
  match result with
  | .error e =>
    exact (heeds_pure AtLabel.stable fun w _ => by simp).pre fun w h => h.1
  | .ok (.error code) =>
    exact (heeds_pure AtLabel.stable fun w h _ _ _ => ⟨none, h⟩).pre fun w h => h.1
  | .ok (.ok tree) =>
    intro w hw
    have hc := ctrlIfOf_lt hlen (hw.2 tree rfl)
    revert w
    refine Heeds.pre (P := AtLabel ctx ref none) ?_ fun w h => h.1
    refine heeds_update_bind AtLabel.stable (R := fun w =>
      ((Opening (ctrlIfOf tree) (devhPart.world w) ∧
        driverGone (ctrlIfOf tree) (devhPart.world w).log = false) ∧
        Assuming Covered (devhPart.world w)) ∧ Ahead ctx ref (some tree) w) ?_ ?_
    · intro w h
      obtain ⟨hworld, hahead⟩ := h.learn tree
      rw [hworld]
      exact ⟨⟨⟨freshHandle_opening _, rfl⟩, fun _ _ => freshHandle_covered _⟩, hahead⟩
    · refine (embed_heeds (claimIf_heeds hc)).bind fun ret => ?_
      refine Heeds.pre (P := AtLabel ctx ref (some tree)) ?_ fun w h => ⟨⟨hc, h.1⟩, h.2⟩
      split
      · exact heeds_pure AtLabel.stable fun w h _ _ _ => ⟨some tree, h⟩
      · refine atLabel_ask_bind rfl rfl fun r => ?_
        refine heeds_update_bind AtLabel.stable (R := AtLabel ctx ref (some tree)) ?_ ?_
        · exact fun w h => ⟨h.1, h.2.ctx, h.2.ref, h.2.info, h.2.opened, h.2.guarded⟩
        · split
          · exact heeds_pure AtLabel.stable fun w h _ _ _ => ⟨some tree, h⟩
          · refine (startStatusXfer_heeds tree).bind fun code => ?_
            by_cases hcode : code = Ret.success
            · refine Heeds.pre (P := fun _ => True) ?_ fun _ _ => trivial
              refine heeds_pure (fun _ _ _ _ => trivial) fun w _ => ?_
              rintro _ ⟨⟩ hne
              exact absurd hcode hne
            · refine Heeds.pre (P := AtLabel ctx ref (some tree)) ?_ fun _ h => h hcode
              exact heeds_pure AtLabel.stable fun w h _ _ _ => ⟨some tree, h⟩

/-! ## Getting back -/

/-- From the label on: the handle has been given back, and closed `n` times. -/
def Behind (n : Nat) (ctx : UvcContext) (ref : Int) (info : Option DeviceInfo)
    (w : World OpenState OpenCall) : Prop :=
  GivenBack n (devhPart.world w) ∧ Ahead ctx ref info w

variable {n : Nat}

theorem Behind.stable : Stable OpenEvents (Behind n ctx ref info) :=
  stable_of_idle fun _ h => h.1.idle

theorem releaseControl_heeds (info : Option DeviceInfo) :
    Heeds OpenEvents (fun _ _ => True) (AtLabel ctx ref info) (releaseControl info)
      (fun _ => Behind 0 ctx ref info) := by
  cases info with
  | none =>
    refine heeds_pure AtLabel.stable fun w h => ⟨?_, h.2⟩
    rw [h.1]
    exact ⟨⟨rfl, rfl, rfl⟩, rfl, fun _ => rfl, fun _ i hgone => by simp [driverGone] at hgone⟩
  | some tree =>
    rintro w ⟨⟨hc, hopening, hcovered⟩, hahead⟩
    exact embed_heeds (releaseIf_heeds hc) w ⟨⟨hopening, hcovered⟩, hahead⟩

/-- `libusb_close`. -/
theorem Behind.close (h : Behind n ctx ref info v) (r : Int) :
    Behind (n + 1) ctx ref info (v.note (.usb .close) r) := by
  refine ⟨?_, h.2.note r rfl⟩
  rw [world_note_usb]
  refine ⟨h.1.idle, ?_, h.1.settled.note r (by simp) (by simp), fun hup i hgone => ?_⟩
  · rw [World.note_log, closes_snoc, if_pos rfl, h.1.closed]
  · rw [World.note_log, driverGone_snoc] at hgone
    exact h.1.backstop (answers_snoc.1 hup).1 i hgone

/-- **What a failed open leaves behind**, which is nothing. -/
structure Undone (ctx : UvcContext) (ref : Int) (w : World OpenState OpenCall) : Prop where
  /-- `open_devices` and everything about the handler thread. -/
  ctx : w.state.ctx = ctx
  /-- `dev->ref`. -/
  ref : w.state.ref = ref
  /-- `libusb_close` is called once on a handle that was opened. -/
  closed : closes (usbLog w.log) = if opened w.log then 1 else 0
  /-- The status transfer is not with libusb, and no callback is running. -/
  owned : w.state.devh.status.owned = 0 ∧ w.state.devh.status.callbacks = []
  /-- An interface has been released if it had been claimed, and only then. -/
  released : ∀ i, released i (usbLog w.log) = claimAccepted i (usbLog w.log)
  /-- If a driver has been detached and not given back, then the last call of all, and the first of
  its kind, destroys a guard that has the interface armed, and it comes after `libusb_close`. -/
  backstop : Answers guardComesUp (usbLog w.log) →
    ∀ i, driverGone i (usbLog w.log) = true →
      ∃ before m r, w.log = before ++ [(.reattachGuardDestroy (some m), r)] ∧
        destroyed before = false ∧ closes (usbLog before) = 1 ∧ Mask.has m i = true

/-- The guard is destroyed. -/
theorem Behind.destroy (h : Behind 1 ctx ref info v) (r : Int) :
    Undone ctx ref (v.note (.reattachGuardDestroy v.state.devh.reattachGuard) r) := by
  have hlog : usbLog (v.note (.reattachGuardDestroy v.state.devh.reattachGuard) r).log =
      usbLog v.log := usbLog_snoc v.log r rfl
  have hopened := opened_snoc v.log r (.reattachGuardDestroy v.state.devh.reattachGuard) h.2.opened
  refine ⟨h.2.ctx, h.2.ref, ?_, ⟨h.1.idle.owned, h.1.idle.callbacks⟩, ?_, ?_⟩
  · rw [hlog, World.note_log, hopened, if_pos rfl]
    exact h.1.closed
  · rw [hlog]
    exact h.1.settled
  · rw [hlog]
    intro hup i hgone
    have harmed : armed i v.state.devh = true := h.1.backstop hup i hgone
    cases hguard : v.state.devh.reattachGuard with
    | none => cases (armed_of_none hguard i).symm.trans harmed
    | some m =>
      refine ⟨v.log, m, r, rfl, h.2.guarded, h.1.closed, ?_⟩
      rw [armed, reattachGuardArmedMask, hguard, Option.getD_some] at harmed
      exact harmed

/-- The end of a failed open. -/
def Over (ctx : UvcContext) (ref : Int) (w : World OpenState OpenCall) : Prop :=
  Undone ctx ref w ∧ Idle w.state.devh

theorem Over.stable : Stable OpenEvents (Over ctx ref) := stable_of_idle fun _ h => h.2

theorem freeDevh_heeds :
    Heeds OpenEvents (fun _ _ => True) (Behind 1 ctx ref info) freeDevh
      (fun _ => Over ctx ref) := by
  rw [freeDevh]
  refine heeds_load_bind Behind.stable fun s => Heeds.pre ?_ fun w h => h.1
  refine Heeds.bind (R := fun _ => Behind 1 ctx ref info) ?_ fun _ => ?_
  · refine heeds_when Behind.stable (fun _ => ?_) fun _ w h => h
    refine heeds_ask_bind Behind.stable (fun _ _ => trivial)
      (R := fun _ => Behind 1 ctx ref info) (fun w r h => ⟨?_, h.2.note r rfl⟩) fun _ => ?_
    · rw [world_note_other w r rfl]
      exact h.1
    · exact heeds_pure Behind.stable fun w h => h
  · refine heeds_load_bind Behind.stable fun s => ?_
    refine heeds_ask_bind (stable_of_idle fun w h => h.1.1.idle) (fun _ _ => trivial)
      (R := fun _ => Over ctx ref) ?_ fun _ => ?_
    · rintro w r ⟨h, rfl⟩
      exact ⟨h.destroy r, h.1.idle⟩
    · refine heeds_update Over.stable Over.stable fun w h => ?_
      exact ⟨⟨h.1.ctx, h.1.ref, h.1.closed, h.1.owned, h.1.released, h.1.backstop⟩, h.2⟩

theorem fail_heeds :
    Heeds OpenEvents (fun _ _ => True) (AtLabel ctx (ref + 1) info) fail
      (fun _ => Over ctx ref) := by
  rw [fail]
  refine heeds_load_bind AtLabel.stable fun s => ?_
  rintro w ⟨h, hs⟩
  have hinfo : s.info = info := hs ▸ h.2.info
  rw [hinfo]
  refine obeys_bind (releaseControl_heeds info w h) fun _ => ?_
  refine heeds_ask_bind Behind.stable (fun _ _ => trivial)
    (R := fun _ => Behind 1 ctx (ref + 1) info) (fun w r h => h.close r) fun _ => ?_
  refine heeds_update_bind Behind.stable (R := Behind 1 ctx ref info) (fun w h => ?_)
    freeDevh_heeds
  have href : w.state.ref - 1 = ref := by
    rw [h.2.ref]
    omega
  exact ⟨h.1, h.2.ctx, href, h.2.info, h.2.opened, h.2.guarded⟩

/-- What is promised of an open that returns an error. -/
def FailsUndone (ctx : UvcContext) (ref : Int) (result : Checked Ret)
    (w : World OpenState OpenCall) : Prop :=
  ∀ code, result = .ok code → code ≠ Ret.success → Undone ctx ref w

theorem openInternal_heeds (dev : UsbDevice) (hlen : dev.config.interface.length ≤ 32)
    (devh : Nat) :
    Heeds OpenEvents (fun _ _ => True) (AtLabel ctx ref none) (openInternal dev devh)
      (FailsUndone ctx ref) := by
  have htrue : Stable OpenEvents fun _ => True := fun _ _ _ _ => trivial
  rw [openInternal]
  refine heeds_update_bind AtLabel.stable (R := AtLabel ctx (ref + 1) none) (fun w h => ?_) ?_
  · have href : w.state.ref + 1 = ref + 1 := by rw [h.2.ref]
    exact ⟨h.1, h.2.ctx, href, h.2.info, h.2.opened, h.2.guarded⟩
  · refine (acquire_heeds dev hlen).bind fun result => ?_
    match result with
    | .error e =>
      refine Heeds.pre (P := fun _ => True) ?_ fun _ _ => trivial
      exact heeds_pure htrue fun w _ code hcode => by cases hcode
    | .ok code =>
      by_cases hcode : code = Ret.success
      · subst hcode
        refine Heeds.pre (P := fun _ => True) ?_ fun _ _ => trivial
        refine heeds_load_bind htrue fun s => Heeds.pre (P := fun _ => True) ?_ fun _ _ => trivial
        refine (heeds_true _).bind fun created => ?_
        refine heeds_update_bind htrue (R := fun _ => True) (fun _ _ => trivial) ?_
        refine heeds_pure htrue fun w _ => ?_
        rintro _ ⟨⟩ hne
        exact absurd rfl hne
      · intro w h
        obtain ⟨info, hw⟩ := h code rfl hcode
        show Obeys _ _ _ (if code ≠ Ret.success then _ else _) w
        rw [if_pos hcode]
        refine obeys_bind (fail_heeds w hw) fun _ => ?_
        exact heeds_pure Over.stable fun u hu _ _ _ => hu.1

/-- After `libusb_open`, everything lies ahead or nothing does. -/
theorem libusbOpen_note (ctx : UvcContext) (ref : Int) (r : Int) :
    let w : World OpenState OpenCall := ⟨{ ctx := ctx, ref := ref }, [(.libusbOpen, r)]⟩
    if r = Ret.success then AtLabel ctx ref none w else Over ctx ref w := by
  by_cases hr : r = Ret.success
  · rw [if_pos hr, hr]
    exact ⟨rfl, rfl, rfl, rfl, rfl, rfl⟩
  · rw [if_neg hr]
    have hopened : opened [(OpenCall.libusbOpen, r)] = false := by simp [opened, hr]
    refine ⟨⟨rfl, rfl, ?_, ⟨rfl, rfl⟩, fun _ => rfl, fun _ i hgone => ?_⟩, rfl, rfl, rfl⟩
    · rw [hopened]
      rfl
    · cases hgone

/-- **A failed open has no lasting effect.**  For every device and every combination of answers, and
whatever the event thread does meanwhile: if `uvc_open` returns an error, the context and the
device's reference count are as they were, `libusb_close` has been called exactly once if the handle
was opened, libusb does not own the status transfer, the VideoControl interface has been released if
and only if it had been claimed, and if its driver is still detached then the guard was destroyed
after `libusb_close`, with the interface armed. -/
theorem uvcOpen_undone (dev : UsbDevice) (hlen : dev.config.interface.length ≤ 32)
    (ctx : UvcContext) (ref : Int) (devh : Nat) (code : Ret) (u : World OpenState OpenCall)
    (hrun : Relation.ReflTransGen (Step OpenEvents)
      (uvcOpen dev devh, ⟨{ ctx := ctx, ref := ref }, []⟩) (.ret (.ok code), u))
    (hcode : code ≠ Ret.success) : Undone ctx ref u := by
  have hheeds : Heeds OpenEvents (fun _ _ => True)
      (fun w => w = ⟨{ ctx := ctx, ref := ref }, []⟩) (uvcOpen dev devh) (FailsUndone ctx ref) := by
    have hstart : Stable OpenEvents fun w => w = ⟨{ ctx := ctx, ref := ref }, []⟩ := by
      refine stable_of_idle ?_
      rintro w rfl
      exact ⟨rfl, rfl, rfl⟩
    rw [uvcOpen]
    refine heeds_ask_bind hstart (fun _ _ => trivial)
      (R := fun r w => if r = Ret.success then AtLabel ctx ref none w else Over ctx ref w) ?_ ?_
    · rintro w r rfl
      exact libusbOpen_note ctx ref r
    · intro r
      by_cases hr : r = Ret.success
      · simp only [hr, ne_eq, not_true_eq_false, if_false, if_true]
        exact openInternal_heeds dev hlen devh
      · simp only [hr, ne_eq, not_false_eq_true, if_false, if_true]
        exact heeds_pure Over.stable fun w h _ _ _ => h.1
  exact hheeds.ends rfl hrun code rfl hcode

/-- A camera with a status endpoint. -/
def statusCamera : UsbDevice where
  desc := ⟨0x046d, 0x0825⟩
  devDesc := none
  config := ⟨[⟨[{ bInterfaceClass := 14, bInterfaceSubClass := 1, endpoint := [0x81] }]⟩]⟩

/-- Its status transfer is refused, and the driver cannot be attached again. -/
def statusRefused : World OpenState OpenCall :=
  (runWith (uvcOpen statusCamera 0) [0, 0, 0, 0, 0, 0, 0, 0, 0, -1, 0, 0, -6, 0, 0, 0]
    ⟨{ ctx := fresh, ref := 1 }, []⟩).2

theorem uvcOpen_undone_refused :
    statusRefused.log.length = 16 ∧ driverGone 0 (usbLog statusRefused.log) = true ∧
    Undone fresh 1 statusRefused :=
  ⟨by decide, by decide, uvcOpen_undone statusCamera (by decide) fresh 1 0 (-1) statusRefused
    (steps_runWith _ [0, 0, 0, 0, 0, 0, 0, 0, 0, -1, 0, 0, -6, 0, 0, 0] _) (by decide)⟩

end Device
end LibUvc
