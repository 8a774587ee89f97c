import LibUvc.Descriptor.Types
import LibUvc.Device.Status
import LibUvc.Foundation.Checked

/-!
# Status packets

A packet from the status endpoint says that a control has changed or that a button was pressed.
`uvc_process_status_xfer` takes it apart, in the buffer that the transfer reads into, and runs the
application's callback.

* `statusUpdate` is what a packet means, `Callbacks.notify` which callback is run for it.
  `processStatusXfer_ok` says that the code does this, whatever the rest of the buffer holds.
* `Listening` is the system of `Device/Status.lean` with the buffer and the callbacks.
  `status_packets_notified` says that in every run of it the callbacks are run for the packets that
  the device sent, in order and for nothing else, and for none once `uvc_stop_status_xfer` has
  returned 1.

The buffer needs no lock because a packet that arrives while another one is looked at would need a
second submission, which `StatusXfer.Counted` excludes.
-/

set_option autoImplicit false

namespace LibUvc
namespace Device

open Checked Descriptor Transition

/-! ## One packet -/

/-- The members of `uvc_status_class` that are used. -/
inductive StatusClass where
  | controlCamera
  | controlProcessing
  deriving DecidableEq, Repr

/-- A callback of the application, with what it is given. -/
inductive Notification where
  | status (statusClass : StatusClass) (event selector attr : UInt8) (content : List UInt8)
  | button (button state : UInt8)
  deriving DecidableEq, Repr

/-- Which callbacks the application has set. -/
structure Callbacks where
  statusCb : Bool := false
  buttonCb : Bool := false
  deriving DecidableEq, Repr

/-- The two loops of `uvc_process_control_status`: the class of the entity with this number. -/
def statusClass (ctrlIf : ControlInterface) (originator : UInt8) : Option StatusClass :=
  if ctrlIf.inputTermDescs.any (·.bTerminalID == originator) then some .controlCamera
  else if ctrlIf.processingUnitDescs.any (·.bUnitID == originator) then some .controlProcessing
  else none

/-- `uvc_process_control_status`. -/
def processControlStatus (ctrlIf : ControlInterface) (cbs : Callbacks) (data : List UInt8)
    (len : Nat) : Checked (Option Notification) :=
  if len < 5 then .ok none
  else do
    let originator ← readByte data 1
    let event ← readByte data 2
    let selector ← readByte data 3
    if originator = 0 then return none
    else if event ≠ 0 then return none
    else
      match statusClass ctrlIf originator with
      | none => return none
      | some statusClass =>
        let attr ← readByte data 4
        let content ← slice data 5 (len - 5)
        if cbs.statusCb then return some (.status statusClass event selector attr content)
        else return none

/-- `uvc_process_streaming_status`. -/
def processStreamingStatus (cbs : Callbacks) (data : List UInt8) (len : Nat) :
    Checked (Option Notification) :=
  if len < 3 then .ok none
  else do
    let event ← readByte data 2
    if event = 0 then
      if len < 4 then return none
      else if cbs.buttonCb then
        let button ← readByte data 1
        let state ← readByte data 3
        return some (.button button state)
      else return none
    else return none

/-- `uvc_process_status_xfer`, on the transfer's buffer and `actual_length`. -/
def processStatusXfer (ctrlIf : ControlInterface) (cbs : Callbacks) (buffer : List UInt8)
    (actualLength : Nat) : Checked (Option Notification) :=
  if 0 < actualLength then do
    let type ← readByte buffer 0
    if type &&& 0x0f = 1 then processControlStatus ctrlIf cbs buffer actualLength
    else if type &&& 0x0f = 2 then processStreamingStatus cbs buffer actualLength
    else return none
  else .ok none

/-! ## What a packet means -/

/-- What the device has to say. -/
inductive StatusUpdate where
  /-- A control of an entity has changed. -/
  | control (originator selector attr : UInt8) (content : List UInt8)
  /-- The button of an interface was pressed or released. -/
  | button (interface state : UInt8)
  deriving DecidableEq, Repr

/-- What a packet means. -/
def statusUpdate : List UInt8 → Option StatusUpdate
  | type :: source :: event :: value :: rest =>
    if event ≠ 0 then none
    else if type &&& 0x0f = 2 then some (.button source value)
    else if type &&& 0x0f = 1 ∧ source ≠ 0 then
      rest.head?.map fun attr => .control source value attr rest.tail
    else none
  | _ => none

/-- The callback that is run for it. -/
def Callbacks.notify (cbs : Callbacks) (ctrlIf : ControlInterface) :
    StatusUpdate → Option Notification
  | .control originator selector attr content =>
    if cbs.statusCb then
      (statusClass ctrlIf originator).map fun statusClass =>
        .status statusClass 0 selector attr content
    else none
  | .button interface state => if cbs.buttonCb then some (.button interface state) else none

section OnePacket

variable (ctrlIf : ControlInterface) (cbs : Callbacks)

theorem processControlStatus_ok {type : UInt8} (htype : type &&& 0x0f = 1)
    (packet stale : List UInt8) :
    processControlStatus ctrlIf cbs (type :: packet ++ stale) (type :: packet).length =
      .ok ((statusUpdate (type :: packet)).bind (cbs.notify ctrlIf)) := by
  have hnot : ¬ type &&& 0x0f = 2 := by
    rw [htype]
    decide
  match packet with
  | [] | [_] | [_, _] => rfl
  | [source, event, value] =>
    -- no attribute
    rw [statusUpdate, if_neg hnot]
    split
    · rfl
    · split <;> rfl
  | source :: event :: value :: attr :: content =>
    have hlong : ¬ (type :: source :: event :: value :: attr :: content).length < 5 := by
      simp only [List.length_cons]
      omega
    have hsource : readByte (type :: source :: event :: value :: attr :: content ++ stale) 1 =
        .ok source := readByte_eq (by simp)
    have hevent : readByte (type :: source :: event :: value :: attr :: content ++ stale) 2 =
        .ok event := readByte_eq (by simp)
    have hvalue : readByte (type :: source :: event :: value :: attr :: content ++ stale) 3 =
        .ok value := readByte_eq (by simp)
    have hattr : readByte (type :: source :: event :: value :: attr :: content ++ stale) 4 =
        .ok attr := readByte_eq (by simp)
    have hcontent : slice (type :: source :: event :: value :: attr :: content ++ stale) 5
        ((type :: source :: event :: value :: attr :: content).length - 5) = .ok content :=
      slice_append [type, source, event, value, attr] content stale
    rw [processControlStatus, if_neg hlong, hsource, ok_bind, hevent, ok_bind, hvalue, ok_bind]
    by_cases hzero : source = 0
    · have hnone : statusUpdate (type :: source :: event :: value :: attr :: content) = none := by
        simp [statusUpdate, hnot, hzero]
      rw [if_pos hzero, hnone]
      rfl
    · rw [if_neg hzero]
      by_cases hchange : event = 0
      · have hsome : statusUpdate (type :: source :: event :: value :: attr :: content) =
            some (.control source value attr content) := by
          simp [statusUpdate, htype, hzero, hchange]
        rw [if_neg (not_not.2 hchange), hsome, Option.bind_some, Callbacks.notify]
        cases statusClass ctrlIf source with
        | none =>
          dsimp only [Option.map_none]
          split <;> rfl
        | some statusClass =>
          dsimp only [Option.map_some]
          rw [hattr, ok_bind, hcontent, ok_bind, hchange]
          split <;> rfl
      · have hnone : statusUpdate (type :: source :: event :: value :: attr :: content) = none := by
          simp [statusUpdate, hchange]
        rw [if_pos hchange, hnone]
        rfl

theorem processStreamingStatus_ok {type : UInt8} (htype : type &&& 0x0f = 2)
    (packet stale : List UInt8) :
    processStreamingStatus cbs (type :: packet ++ stale) (type :: packet).length =
      .ok ((statusUpdate (type :: packet)).bind (cbs.notify ctrlIf)) := by
  match packet with
  | [] | [_] => rfl
  | [source, event] =>
    have hevent : readByte (type :: source :: event :: stale) 2 = .ok event :=
      readByte_eq (by simp)
    show (readByte (type :: source :: event :: stale) 2 >>= _) = _
    rw [hevent, ok_bind]
    split <;> rfl
  | source :: event :: value :: rest =>
    have hlong : ∀ n, n ≤ 4 → ¬ (type :: source :: event :: value :: rest).length < n := by
      intro n hn
      simp only [List.length_cons]
      omega
    have hsource : readByte (type :: source :: event :: value :: rest ++ stale) 1 = .ok source :=
      readByte_eq (by simp)
    have hevent : readByte (type :: source :: event :: value :: rest ++ stale) 2 = .ok event :=
      readByte_eq (by simp)
    have hvalue : readByte (type :: source :: event :: value :: rest ++ stale) 3 = .ok value :=
      readByte_eq (by simp)
    rw [processStreamingStatus, if_neg (hlong 3 (by decide)), hevent, ok_bind]
    by_cases hpressed : event = 0
    · have hsome : statusUpdate (type :: source :: event :: value :: rest) =
          some (.button source value) := by
        simp [statusUpdate, htype, hpressed]
      rw [if_pos hpressed, if_neg (hlong 4 (by decide)), hsource, ok_bind, hvalue, ok_bind, hsome,
        Option.bind_some, Callbacks.notify]
      split <;> rfl
    · have hnone : statusUpdate (type :: source :: event :: value :: rest) = none := by
        simp [statusUpdate, hpressed]
      rw [if_neg hpressed, hnone]
      rfl

end OnePacket

/-- **The code does what the packet means**, and looks at nothing behind it. -/
theorem processStatusXfer_ok (ctrlIf : ControlInterface) (cbs : Callbacks)
    (packet stale : List UInt8) :
    processStatusXfer ctrlIf cbs (packet ++ stale) packet.length =
      .ok ((statusUpdate packet).bind (cbs.notify ctrlIf)) := by
  cases packet with
  | nil => rfl
  | cons type packet =>
    have hread : readByte (type :: packet ++ stale) 0 = .ok type := readByte_eq (by simp)
    rw [processStatusXfer, if_pos (by simp), hread, ok_bind]
    by_cases hcontrol : type &&& 0x0f = 1
    · rw [if_pos hcontrol]
      exact processControlStatus_ok ctrlIf cbs hcontrol packet stale
    · rw [if_neg hcontrol]
      by_cases hstreaming : type &&& 0x0f = 2
      · rw [if_pos hstreaming]
        exact processStreamingStatus_ok ctrlIf cbs hstreaming packet stale
      · rw [if_neg hstreaming]
        have hnone : statusUpdate (type :: packet) = none := by
          match packet with
          | [] | [_] | [_, _] => rfl
          | source :: event :: value :: rest => simp [statusUpdate, hcontrol, hstreaming]
        rw [hnone]
        rfl

/-! ## Runs -/

/-- The system of the status transfer, with what its callback reads and runs. -/
structure Listening where
  system : StatusSystem
  cbs : Callbacks := {}
  /-- `status_buf`. -/
  statusBuf : List UInt8 := List.replicate 32 0
  actualLength : Nat := 0
  /-- A read outside `status_buf`. -/
  faulted : Bool := false
  /-- The callbacks that were run. -/
  notifications : List Notification := []
  /-- The packets that libusb completed the transfer with. -/
  completed : List (List UInt8) := []
  /-- The packets that `uvc_process_status_xfer` has taken, and the callbacks of that moment. -/
  processed : List (Callbacks × List UInt8) := []
  deriving DecidableEq, Repr

inductive ListeningLabel where
  /-- A step of the status transfer; `packet` is what a completion brings. -/
  | status (l : StatusLabel) (packet : List UInt8)
  /-- `uvc_set_status_callback` and `uvc_set_button_callback`. -/
  | setCallbacks (cbs : Callbacks)
  deriving DecidableEq, Repr

/-- libusb writes a packet into the buffer; only a successful completion is a packet of the
device. -/
def Listening.receive (s : Listening) (status : TransferStatus) (packet : List UInt8) : Listening :=
  { s with
    statusBuf := packet ++ s.statusBuf.drop packet.length
    actualLength := packet.length
    completed := if status = .completed then s.completed ++ [packet] else s.completed }

/-- The case of `_uvc_status_callback` for a completed transfer. -/
def Listening.process (ctrlIf : ControlInterface) (s : Listening) : Listening :=
  match processStatusXfer ctrlIf s.cbs s.statusBuf s.actualLength with
  | .error _ => { s with faulted := true }
  | .ok notification =>
    { s with
      notifications := s.notifications ++ notification.toList
      processed := s.processed ++ [(s.cbs, s.statusBuf.take s.actualLength)] }

/-- One step.  libusb does not complete the transfer with more than it was submitted for. -/
def Listening.step (ctrlIf : ControlInterface) (s : Listening) : ListeningLabel → Option Listening
  | .status l packet =>
    (s.system.step l).bind fun system =>
      match l with
      | .event (.deliver status) =>
        if packet.length ≤ s.statusBuf.length then
          some { s.receive status packet with system := system }
        else none
      | .event (.switch n) =>
        if s.system.xfer.callbacks[n]? = some (.entered .completed) then
          some { s.process ctrlIf with system := system }
        else some { s with system := system }
      | _ => some { s with system := system }
  | .setCallbacks cbs => some { s with cbs := cbs }

/-- A handle about to be opened. -/
def Listening.initial (allocated : Bool) : Listening := { system := .initial allocated }

/-- The packet that the callback has yet to look at. -/
def Listening.waiting (s : Listening) : List (List UInt8) :=
  if .entered .completed ∈ s.system.xfer.callbacks then [s.statusBuf.take s.actualLength] else []

/-- What holds at every moment. -/
structure Listening.Sound (ctrlIf : ControlInterface) (s : Listening) : Prop where
  system : s.system.Sound
  length : s.statusBuf.length = 32
  bound : s.actualLength ≤ s.statusBuf.length
  faulted : s.faulted = false
  completed : s.completed = s.processed.map Prod.snd ++ s.waiting
  notifications : s.notifications = s.processed.filterMap fun seen =>
    (statusUpdate seen.2).bind (seen.1.notify ctrlIf)

variable {ctrlIf : ControlInterface}

theorem Listening.initial_sound (allocated : Bool) : (initial allocated).Sound ctrlIf where
  system := StatusSystem.initial_sound allocated
  length := rfl
  bound := Nat.zero_le _
  faulted := rfl
  completed := rfl
  notifications := rfl

/-- A packet is taken from the buffer as it arrived. -/
theorem Listening.process_eq {s : Listening} (hbound : s.actualLength ≤ s.statusBuf.length) :
    s.process ctrlIf = { s with
      notifications := s.notifications ++
        ((statusUpdate (s.statusBuf.take s.actualLength)).bind (s.cbs.notify ctrlIf)).toList
      processed := s.processed ++ [(s.cbs, s.statusBuf.take s.actualLength)] } := by
  have hrun := processStatusXfer_ok ctrlIf s.cbs (s.statusBuf.take s.actualLength)
    (s.statusBuf.drop s.actualLength)
  rw [List.take_append_drop, List.length_take_of_le hbound] at hrun
  rw [process, hrun]

/-- What one step can do. -/
theorem Listening.step_cases {s t : Listening} {l : ListeningLabel}
    (hs : s.step ctrlIf l = some t) :
    (∃ cbs, t = { s with cbs := cbs }) ∨
    (∃ status packet system, s.system.step (.event (.deliver status)) = some system ∧
      packet.length ≤ s.statusBuf.length ∧ t = { s.receive status packet with system := system }) ∨
    (∃ n system, s.system.step (.event (.switch n)) = some system ∧
      s.system.xfer.callbacks[n]? = some (.entered .completed) ∧
      t = { s.process ctrlIf with system := system }) ∨
    (∃ l system, s.system.step l = some system ∧ (∀ status, l ≠ .event (.deliver status)) ∧
      (∀ n, l = .event (.switch n) →
        s.system.xfer.callbacks[n]? ≠ some (.entered .completed)) ∧
      t = { s with system := system }) := by
  cases l with
  | setCallbacks cbs =>
    cases hs
    exact Or.inl ⟨cbs, rfl⟩
  | status l packet =>
    obtain ⟨system, hsystem, hrest⟩ := Option.bind_eq_some_iff.1 hs
    split at hrest
    · rename_i status
      split at hrest
      · rename_i hle
        cases hrest
        exact Or.inr (Or.inl ⟨status, packet, system, hsystem, hle, rfl⟩)
      · cases hrest
    · rename_i n
      split at hrest
      · rename_i hentered
        cases hrest
        exact Or.inr (Or.inr (Or.inl ⟨n, system, hsystem, hentered, rfl⟩))
      · rename_i hentered
        cases hrest
        refine Or.inr (Or.inr (Or.inr ⟨_, system, hsystem, by simp, fun m hm => ?_, rfl⟩))
        cases hm
        exact hentered
    · rename_i hdeliver hswitch
      cases hrest
      exact Or.inr (Or.inr (Or.inr ⟨l, system, hsystem, hdeliver, fun n hn => (hswitch n hn).elim,
        rfl⟩))

/-! ## One callback at a time -/

theorem StatusXfer.Counted.le {x : StatusXfer} (h : x.Counted) :
    x.owned + x.callbacks.length ≤ 1 := by
  rw [h]
  split <;> omega

/-- The only run of the callback. -/
theorem StatusXfer.Counted.only {x : StatusXfer} (h : x.Counted) {n : Nat} {c : StatusCallback}
    (hc : x.callbacks[n]? = some c) : n = 0 ∧ x.callbacks = [c] := by
  have hle := h.le
  obtain ⟨hlt, -⟩ := List.getElem?_eq_some_iff.1 hc
  obtain rfl : n = 0 := by omega
  obtain ⟨c', hc'⟩ := List.length_eq_one_iff.1 (show x.callbacks.length = 1 by omega)
  rw [hc'] at hc ⊢
  cases hc
  exact ⟨rfl, rfl⟩

/-- A packet arrives when nobody looks at the buffer. -/
theorem StatusSystem.deliver_callbacks {s t : StatusSystem} {status : TransferStatus}
    (h : s.xfer.Counted) (hs : s.step (.event (.deliver status)) = some t) :
    s.xfer.callbacks = [] ∧ t.xfer.callbacks = [.entered status] := by
  have hle := h.le
  rw [StatusSystem.step, StatusXfer.event] at hs
  split at hs
  · rename_i hevent
    split at hevent
    · cases hevent
    · rename_i howned
      cases hevent
      cases hs
      have hnil : s.xfer.callbacks = [] := List.length_eq_zero_iff.1 (by omega)
      exact ⟨hnil, by rw [hnil]; rfl⟩
  · cases hs

theorem dispatch_ne_entered (status status' : TransferStatus) :
    StatusCallback.dispatch status ≠ .entered status' := by
  cases status <;> simp [StatusCallback.dispatch]

theorem StatusSystem.switch_callbacks {s t : StatusSystem} {n : Nat} (h : s.xfer.Counted)
    (hs : s.step (.event (.switch n)) = some t) :
    ∃ status, s.xfer.callbacks[n]? = some (.entered status) ∧
      s.xfer.callbacks = [.entered status] ∧ t.xfer.callbacks = [.dispatch status] := by
  rw [StatusSystem.step, StatusXfer.event] at hs
  split at hs
  · rename_i hevent
    split at hevent
    · rename_i status hc
      obtain ⟨rfl, hall⟩ := h.only hc
      cases hevent
      cases hs
      exact ⟨status, hc, hall, by rw [hall]; rfl⟩
    · cases hevent
  · cases hs

theorem StatusSystem.finish_callbacks {s t : StatusSystem} {n : Nat} {r : Ret} (h : s.xfer.Counted)
    (hs : s.step (.event (.finish n r)) = some t) :
    ∃ c, (∀ status, c ≠ .entered status) ∧ s.xfer.callbacks = [c] ∧ t.xfer.callbacks = [] := by
  have hlast : ∀ {c}, s.xfer.callbacks[n]? = some c →
      s.xfer.callbacks = [c] ∧ s.xfer.callbacks.eraseIdx n = [] := by
    intro c hc
    obtain ⟨rfl, hall⟩ := h.only hc
    exact ⟨hall, by rw [hall]; rfl⟩
  simp only [StatusSystem.step, StatusXfer.event] at hs
  split at hs
  · rename_i hevent
    cases hs
    split at hevent
    · rename_i hc
      cases hevent
      exact ⟨_, by simp, hlast hc⟩
    · rename_i hc
      refine ⟨_, by simp, (hlast hc).1, ?_⟩
      split at hevent
      · cases hevent
        exact (hlast hc).2
      · split at hevent <;> cases hevent <;> exact (hlast hc).2
    · cases hevent
  · cases hs

/-- Who is not on the event thread does not touch the callback. -/
theorem StatusSystem.calls_callbacks {s t : StatusSystem} {l : StatusLabel} (hs : s.step l = some t)
    (hl : ∀ e, l ≠ .event e) : t.xfer.callbacks = s.xfer.callbacks := by
  cases l with
  | submit r =>
    simp only [StatusSystem.step] at hs
    split at hs
    · split at hs
      · cases hs
        show (s.xfer.firstSubmit r).callbacks = _
        rw [StatusXfer.firstSubmit]
        split <;> rfl
      · cases hs
        rfl
    · cases hs
  | stop cancel =>
    simp only [StatusSystem.step] at hs
    split at hs
    · split at hs <;> cases hs <;> rfl
    · cases hs
  | poll =>
    simp only [StatusSystem.step] at hs
    split at hs
    · cases hs
      rfl
    · cases hs
  | event e => exact absurd rfl (hl e)

/-- No other step makes the callback look at a packet or keeps it from doing so. -/
theorem StatusSystem.other_callbacks {s t : StatusSystem} {l : StatusLabel} (h : s.xfer.Counted)
    (hs : s.step l = some t) (hdeliver : ∀ status, l ≠ .event (.deliver status))
    (hswitch : ∀ n, l = .event (.switch n) → s.xfer.callbacks[n]? ≠ some (.entered .completed)) :
    (.entered .completed ∈ t.xfer.callbacks ↔ .entered .completed ∈ s.xfer.callbacks) := by
  by_cases hl : ∀ e, l ≠ .event e
  · rw [calls_callbacks hs hl]
  · obtain ⟨e, he⟩ := not_forall.1 hl
    obtain rfl := not_not.1 he
    cases e with
    | deliver status => exact absurd rfl (hdeliver status)
    | switch n =>
      obtain ⟨status, hentered, hbefore, hafter⟩ := switch_callbacks h hs
      have hother : StatusCallback.entered .completed ≠ .entered status := fun heq =>
        hswitch n rfl (hentered.trans (congrArg some heq.symm))
      rw [hbefore, hafter, List.mem_singleton, List.mem_singleton]
      exact iff_of_false (dispatch_ne_entered status .completed).symm hother
    | finish n r =>
      obtain ⟨c, hc, hbefore, hafter⟩ := finish_callbacks h hs
      rw [hbefore, hafter, List.mem_singleton]
      exact iff_of_false List.not_mem_nil (Ne.symm (hc _))

/-! ## Every packet once -/

theorem Listening.receive_waiting {s : Listening} {status : TransferStatus} {packet : List UInt8}
    {system : StatusSystem} (hsystem : system.xfer.callbacks = [.entered status]) :
    { s.receive status packet with system := system }.waiting =
      if status = .completed then [packet] else [] := by
  have htake : (packet ++ s.statusBuf.drop packet.length).take packet.length = packet :=
    List.take_left
  rw [waiting, hsystem]
  dsimp only [receive]
  rw [htake]
  by_cases hstatus : status = .completed
  · rw [if_pos hstatus, hstatus, if_pos List.mem_cons_self]
  · rw [if_neg hstatus, if_neg]
    rintro (_ | ⟨_, ⟨⟩⟩)
    exact hstatus rfl

/-- **One step.** -/
theorem Listening.Sound.step {s t : Listening} {l : ListeningLabel} (h : s.Sound ctrlIf)
    (hs : s.step ctrlIf l = some t) : t.Sound ctrlIf := by
  have hcounted := h.system.counted
  rcases step_cases hs with ⟨cbs, rfl⟩ | ⟨status, packet, system, hsystem, hle, rfl⟩ |
    ⟨n, system, hsystem, hentered, rfl⟩ | ⟨l, system, hsystem, hdeliver, hswitch, rfl⟩
  · exact ⟨h.system, h.length, h.bound, h.faulted, h.completed, h.notifications⟩
  · obtain ⟨hbefore, hafter⟩ := StatusSystem.deliver_callbacks hcounted hsystem
    have hidle : s.waiting = [] := by
      rw [waiting, hbefore, if_neg List.not_mem_nil]
    have hlength : (packet ++ s.statusBuf.drop packet.length).length = s.statusBuf.length := by
      rw [List.length_append, List.length_drop]
      omega
    refine ⟨h.system.step hsystem, hlength.trans h.length, hle.trans_eq hlength.symm, h.faulted, ?_,
      h.notifications⟩
    rw [receive_waiting hafter]
    show (if status = .completed then s.completed ++ [packet] else s.completed) = _
    rw [h.completed, hidle, List.append_nil]
    split
    · rfl
    · exact (List.append_nil _).symm
  · obtain ⟨status, hn, hbefore, hafter⟩ := StatusSystem.switch_callbacks hcounted hsystem
    cases hn.symm.trans hentered
    have hwaiting : s.waiting = [s.statusBuf.take s.actualLength] := by
      rw [waiting, hbefore, if_pos List.mem_cons_self]
    have hdone : { s.process ctrlIf with system := system }.waiting = [] := by
      rw [waiting, hafter]
      exact if_neg (by simp [StatusCallback.dispatch])
    rw [process_eq h.bound] at hdone ⊢
    refine ⟨h.system.step hsystem, h.length, h.bound, h.faulted, ?_, ?_⟩
    · rw [hdone, h.completed, hwaiting, List.append_nil, List.map_append]
      rfl
    · dsimp only
      rw [h.notifications, List.filterMap_append]
      rw [List.filterMap_cons]
      cases (statusUpdate (s.statusBuf.take s.actualLength)).bind (s.cbs.notify ctrlIf) <;> rfl
  · have hwaiting : { s with system := system }.waiting = s.waiting := by
      rw [waiting, waiting]
      simp only [StatusSystem.other_callbacks hcounted hsystem hdeliver hswitch]
    refine ⟨h.system.step hsystem, h.length, h.bound, h.faulted, ?_, h.notifications⟩
    rw [hwaiting]
    exact h.completed

/-- **One step** after the stop was confirmed. -/
theorem Listening.Sound.step_confirmed {s t : Listening} {l : ListeningLabel} (h : s.Sound ctrlIf)
    (hs : s.step ctrlIf l = some t) (hret : s.system.stopper = .returned true) :
    t.system.stopper = .returned true ∧ t.notifications = s.notifications := by
  have hidle := (h.system.counted.idle (h.system.confirmed hret)).2
  rcases step_cases hs with ⟨cbs, rfl⟩ | ⟨status, packet, system, hsystem, hle, rfl⟩ |
    ⟨n, system, hsystem, hentered, rfl⟩ | ⟨l, system, hsystem, hdeliver, hswitch, rfl⟩
  · exact ⟨hret, rfl⟩
  · exact ⟨(h.system.step_confirmed hsystem hret).1, rfl⟩
  · rw [hidle] at hentered
    cases hentered
  · exact ⟨(h.system.step_confirmed hsystem hret).1, rfl⟩

/-- **Every packet is looked at once, as it arrived.**  In every run, with or without a status
endpoint, `status_buf` is never left, and the packets that the device has sent are those that
`uvc_process_status_xfer` has taken and at most one that waits for its callback; the application's
callbacks were run for what these packets mean, in their order, as they were set at that moment, and
for nothing else.  Once `uvc_stop_status_xfer` has returned 1, none waits and no callback is run. -/
theorem status_packets_notified (ctrlIf : ControlInterface) (allocated : Bool) (s : Listening)
    (h : Reachable (Listening.step ctrlIf) (.initial allocated) s) :
    s.faulted = false ∧
    (∃ waiting, waiting.length ≤ 1 ∧ s.completed = s.processed.map Prod.snd ++ waiting ∧
      (s.system.stopper = .returned true → waiting = [])) ∧
    (s.notifications = s.processed.filterMap fun seen =>
      (statusUpdate seen.2).bind (seen.1.notify ctrlIf)) ∧
    (s.system.stopper = .returned true →
      ∀ t, Reachable (Listening.step ctrlIf) s t → t.notifications = s.notifications) := by
  have hs : s.Sound ctrlIf :=
    h.invariant (Listening.initial_sound allocated) fun _ _ _ hu hw => hu.step hw
  refine ⟨hs.faulted, ⟨s.waiting, ?_, hs.completed, fun hret => ?_⟩, hs.notifications,
    fun hret t ht => ?_⟩
  · rw [Listening.waiting]
    split
    · exact Nat.le_refl 1
    · exact Nat.zero_le 1
  · rw [Listening.waiting, (hs.system.counted.idle (hs.system.confirmed hret)).2,
      if_neg List.not_mem_nil]
  · have hinv := ht.invariant (I := fun u => u.Sound ctrlIf ∧
      u.system.stopper = .returned true ∧ u.notifications = s.notifications) ⟨hs, hret, rfl⟩
      fun u l w hu hw => by
        obtain ⟨hstop, hsame⟩ := hu.1.step_confirmed hw hu.2.1
        exact ⟨hu.1.step hw, hstop, hsame.trans hu.2.2⟩
    exact hinv.2.2

/-- The gain of a processing unit changes, a button is pressed, and the handle is closed. -/
def gainAndButton : Listening where
  system := {
    xfer := { allocated := true, stopping := true }
    opener := .opened
    stopper := .returned true
    submits := [0, 0] }
  cbs := { statusCb := true, buttonCb := true }
  statusBuf := [0x12, 1, 0, 1, 0, 0x30, 0] ++ List.replicate 25 0
  actualLength := 4
  notifications := [.status .controlProcessing 0 4 0 [0x30, 0], .button 1 1]
  completed := [[1, 5, 0, 4, 0, 0x30, 0], [0x12, 1, 0, 1]]
  processed :=
    [({ statusCb := true, buttonCb := true }, [1, 5, 0, 4, 0, 0x30, 0]),
      ({ statusCb := true, buttonCb := true }, [0x12, 1, 0, 1])]

/-- Its control interface. -/
def gainUnit : ControlInterface where
  processingUnitDescs := [{ bUnitID := 5, bSourceID := 1, bmControls := 0x200 }]

theorem status_packets_notified_gain :
    gainAndButton.faulted = false ∧
    (∃ waiting, waiting.length ≤ 1 ∧
      gainAndButton.completed = gainAndButton.processed.map Prod.snd ++ waiting ∧
      (gainAndButton.system.stopper = .returned true → waiting = [])) ∧
    (gainAndButton.notifications = gainAndButton.processed.filterMap fun seen =>
      (statusUpdate seen.2).bind (seen.1.notify gainUnit)) ∧
    (gainAndButton.system.stopper = .returned true →
      ∀ t, Reachable (Listening.step gainUnit) gainAndButton t →
        t.notifications = gainAndButton.notifications) :=
  status_packets_notified gainUnit true gainAndButton (reachable_of_exec
    [.status (.submit 0) [], .setCallbacks { statusCb := true, buttonCb := true },
      .status (.event (.deliver .completed)) [1, 5, 0, 4, 0, 0x30, 0],
      .status (.event (.switch 0)) [], .status (.event (.finish 0 0)) [],
      .status (.event (.deliver .completed)) [0x12, 1, 0, 1], .status (.stop 0) [],
      .status (.event (.switch 0)) [], .status (.event (.finish 0 0)) [], .status .poll []]
    (by decide))

end Device
end LibUvc
