import LibUvc.Lifetime.Safety

/-!
# The slots of one stream handle

An application that works with a stream handle directly may start and stop it as often as it likes.
The slots of `transfers[]` are what `uvc_stream_close` goes by when it decides whether the handle
may be freed, so every transfer that libusb owns has to be in one: `Heap.Accounted`.

`uvc_stream_start` puts its new transfers into the first slots without looking at what is there.
After a `uvc_stream_stop` that succeeded nothing is; after one that timed out the transfers that
libusb has not given back still are, and they are forgotten (`allocTransfers_forgets`).  `hasRoom`
is the look that is missing.  In a session whose starts all find room, `Heap.Accounted` holds at
every moment: `streamSession_accounted`.
-/

set_option autoImplicit false

namespace LibUvc
namespace Lifetime

open Prog

/-- Every transfer that libusb owns is in a slot of the stream handle it names, and that handle has
not been freed. -/
def Heap.Accounted (h : Heap) : Prop :=
  ∀ x, (h.xfer x).phase = .owned →
    (∃ i < numTransferBufs, (h.stream (h.xfer x).strmh).transfers i = some x) ∧
      (h.stream (h.xfer x).strmh).freed = false

/-! ## Sessions with one handle -/

/-- A call on a stream handle. -/
inductive StreamCall where
  /-- `uvc_stream_start`; `count` is the device's `transfer_buffer_count` at the time. -/
  | start (count : Nat)
  /-- `uvc_stream_stop`. -/
  | stop
  /-- `uvc_stream_close`. -/
  | close
  deriving DecidableEq, Repr

/-- The calls on the stream handle `s`, up to the first start that `may` does not allow; a close
ends them. -/
def streamCalls (may : Heap → Nat → Nat → Bool) (wakes s : Nat) : List StreamCall → LibProg Unit
  | [] => return ()
  | .start count :: rest => do
    let h ← load
    when (may h s count) do
      let _ ← streamStart s count
      streamCalls may wakes s rest
  | .stop :: rest => do
    let _ ← streamStop wakes s
    streamCalls may wakes s rest
  | .close :: _ => streamClose wakes s

/-- A device is opened, a stream handle is opened on it with `uvc_stream_open_ctrl`, and calls are
made on that. -/
def streamSession (may : Heap → Nat → Nat → Bool) (wakes : Nat) (calls : List StreamCall) :
    LibProg Unit := do
  openDevice
  onDevice 0 do
    let ret ← ask (.openStream 0)
    when (ret = Ret.success) do
      let h ← fetch (newStream 0)
      streamCalls may wakes h.nextStream calls

/-- Every start is allowed. -/
def anyStart (_ : Heap) (_ _ : Nat) : Bool := true

/-- The start will be refused because the stream is running, or finds the slots that it fills
empty. -/
def hasRoom (h : Heap) (s count : Nat) : Bool :=
  (h.stream s).running ||
    (List.range (bufferCount count)).all fun i => ((h.stream s).transfers i).isNone

/-! ## The invariant -/

theorem Heap.Inv.accounted {es ed : Option Nat} {h : Heap} (hi : h.Inv es ed) : h.Accounted := by
  intro x hx
  obtain ⟨i, hslot⟩ := hi.owned.held x (by rw [hx]; simp)
  exact ⟨⟨i, (hi.owned.slot _ i x hslot).2.2.2, hslot⟩, (hi.alive.stream _ ⟨i, x, hslot⟩).2.1⟩

/-- All that a step of the event thread can do: a transfer changes hands, or is freed and leaves its
slot. -/
theorem event_cases {h h' : Heap} {e : Event} (he : h.event e = some h') :
    (∃ x p, h' = h.setPhase x p) ∨ ∃ s i x, h' = h.delete s i x := by
  cases e with
  | deliver x status | process x | test x | resubmit x ret =>
    simp only [Heap.event] at he
    split at he
    · exact Or.inl ⟨x, _, (Option.some.inj he).symm⟩
    · cases he
  | free x =>
    simp only [Heap.event] at he
    split at he
    · obtain rfl := Option.some.inj he
      rw [Heap.markDeleted]
      split
      · exact Or.inr ⟨_, _, x, rfl⟩
      · exact Or.inl ⟨x, _, rfl⟩
    · cases he

/-- Emptying a slot does not start or stop a stream. -/
theorem clearSlot_running (h : Heap) (s i r : Nat) :
    ((h.clearSlot s i).stream r).running = (h.stream r).running := by
  rw [Heap.clearSlot, setStream_stream]
  split
  · rename_i hr
    rw [hr]
  · rfl

/-- The event thread does not start or stop a stream. -/
theorem event_running {h h' : Heap} {e : Event} (he : h.event e = some h') (s : Nat) :
    (h'.stream s).running = (h.stream s).running := by
  obtain ⟨x, p, rfl⟩ | ⟨r, i, x, rfl⟩ := event_cases he
  · rfl
  · exact clearSlot_running (h.setXfer x Transfer.release) r i s

/-- The event thread fills no slot, and allocates nothing. -/
theorem event_kept {h h' : Heap} {e : Event} (he : h.event e = some h') :
    h.Kept h' ∧ h'.nextXfer = h.nextXfer := by
  obtain ⟨x, p, rfl⟩ | ⟨r, i, x, rfl⟩ := event_cases he
  · exact ⟨setPhase_kept h x p, rfl⟩
  · exact ⟨delete_kept h r i x, rfl⟩

/-- A start of a stream that is running is refused. -/
theorem streamStart_busy (s d count : Nat) :
    Keeps Events Consistent
      (fun w => At none none (Heap.Ready s d) w ∧ (w.state.stream s).running = true)
      (streamStart s count) (fun _ => At none none (Heap.Ready s d)) := by
  have hst : Stable Events fun w =>
      At none none (Heap.Ready s d) w ∧ (w.state.stream s).running = true := by
    rintro w u ⟨hat, hrun⟩ hr
    refine ⟨at_stable (ready_steady s d) w u hat hr, ?_⟩
    obtain ⟨e, h, he, rfl⟩ := hr
    exact (event_running he s).trans hrun
  rw [streamStart]
  refine keeps_load_bind hst (fun w hw => hw.1.consistent) fun h => ?_
  rintro w ⟨⟨hat, hrun⟩, rfl⟩
  rw [if_pos hrun]
  exact at_pure (ready_steady s d) (fun _ hw => hw) w hat

theorem start_keeps (s d count : Nat) (rest : LibProg Unit)
    (hrest : Keeps Events Consistent (At none none (Heap.Ready s d)) rest fun _ _ => True) :
    Keeps Events Consistent (At none none (Heap.Ready s d))
      (do
        let h ← load
        when (hasRoom h s count) do
          let _ ← streamStart s count
          rest)
      (fun _ _ => True) := by
  have hL := ready_steady s d
  refine at_load_bind hL fun h₁ _ _ => ?_
  cases hroom : hasRoom h₁ s count with
  | false => exact (at_pure hL fun _ _ => trivial).pre fun w hw => hw.1
  | true =>
    rintro w ⟨hat, rfl⟩
    refine sat_bind (R := fun _ => At none none (Heap.Ready s d)) ?_ fun _ u hu => hrest u hu
    rcases Bool.or_eq_true_iff.1 hroom with hrun | hclear
    · exact streamStart_busy s d count w ⟨hat, hrun⟩
    · refine (streamStart_keeps (spared_true s d) count w
        ⟨hat.1, ⟨hat.2, trivial⟩, fun i hi => ?_⟩).mono fun _ u hu => ⟨hu.1, hu.2.1⟩
      exact Option.isNone_iff_eq_none.1 (List.all_eq_true.1 hclear i (List.mem_range.2 hi))

theorem streamCalls_keeps (wakes s d : Nat) (calls : List StreamCall) :
    Keeps Events Consistent (At none none (Heap.Ready s d)) (streamCalls hasRoom wakes s calls)
      (fun _ _ => True) := by
  have hL := ready_steady s d
  induction calls with
  | nil => exact at_pure hL fun _ _ => trivial
  | cons c rest ih =>
    cases c with
    | start count => exact start_keeps s d count _ ih
    | stop => exact (streamStop_keeps hL wakes s).bind fun _ => ih
    | close =>
      intro w hw
      exact Sat.mono (streamClose_keeps wakes w.state.openDevices d (w.state.dev d).streams s w
        ⟨hw.1, ⟨hw.2.freed, rfl, rfl⟩, hw.2.devh⟩) fun _ _ _ => trivial

theorem streamSession_keeps (wakes : Nat) (calls : List StreamCall) :
    Keeps Events Consistent (At none none Heap.Live) (streamSession hasRoom wakes calls)
      (fun _ _ => True) := by
  have hL : Steady fun h => h.Live ∧ 0 ∈ h.openDevices :=
    live_steady.and fun _ _ hf hd => hf.openDevices ▸ hd
  refine openDevice_keeps.bind fun _ => onDevice_keeps ?_ fun _ _ => trivial
  refine at_ask_bind hL fun ret => at_when hL (fun _ => ?_) fun _ _ _ => trivial
  refine keeps_fetch_bind (at_stable hL) At.consistent (R := fun h => At none none
    (Heap.Ready h.nextStream 0)) ?_ fun h => streamCalls_keeps wakes h.nextStream 0 calls
  rintro w ⟨hi, hlive, hopen⟩
  exact ⟨newStream_inv hi, newStream_ready hopen hlive⟩

/-- **The slots account for every transfer.**  One stream handle is opened, started, stopped and
closed in any order, with stops that may time out, while libusb's completions and the callbacks they
run interleave in any way.  If every start finds room for its transfers, or is refused, then at
every moment each transfer that libusb owns is in a slot of the handle, and the handle has not been
freed. -/
theorem streamSession_accounted (wakes : Nat) (calls : List StreamCall) (p : LibProg Unit)
    (w : World Heap LibCall)
    (hrun : Relation.ReflTransGen (Step Events) (streamSession hasRoom wakes calls, ⟨{}, []⟩)
      (p, w)) :
    w.state.Accounted := by
  obtain ⟨es, ed, hi⟩ :=
    ((streamSession_keeps wakes calls ⟨{}, []⟩ ⟨init_inv, rfl⟩).sound hrun).1
  exact hi.accounted

/-- The first start fails at its first submission and frees its transfers, the stop has nothing to
wait for, and the second start finds room. -/
theorem streamSession_accounted_restart :
    ∃ p w, Relation.ReflTransGen (Step Events)
        (streamSession hasRoom 9 [.start 2, .stop, .start 2, .close], ⟨{}, []⟩) (p, w) ∧
      (w.state.xfer 2).phase = .owned ∧ w.state.Accounted := by
  have hrun : Relation.ReflTransGen (Step Events)
      (streamSession hasRoom 9 [.start 2, .stop, .start 2, .close], ⟨{}, []⟩) _ :=
    steps_runWith (streamSession hasRoom 9 [.start 2, .stop, .start 2, .close])
      [0, 0, 0, -1, 0, 0, 0] ⟨{}, []⟩
  exact ⟨_, _, hrun, rfl, streamSession_accounted 9 _ _ _ hrun⟩

/-- **What a start without room does.**  A transfer in a slot that is filled anew is in no slot any
more, although libusb owns it. -/
theorem allocTransfers_forgets {h : Heap} (ho : h.Owned) {s i n x : Nat} (hi : i < n)
    (hslot : (h.stream s).transfers i = some x) (hx : (h.xfer x).phase = .owned) :
    ¬ (allocTransfers s n h).Accounted := by
  obtain ⟨hstrmh, -, hlt, -⟩ := ho.slot s i x hslot
  have hxfer : (allocTransfers s n h).xfer x = h.xfer x := if_neg (by omega)
  intro hacc
  obtain ⟨⟨j, -, hj⟩, -⟩ := hacc x (by rw [hxfer, hx])
  rw [hxfer, hstrmh, allocTransfers_transfers] at hj
  split at hj
  · have := Option.some.inj hj
    omega
  · rename_i hout
    exact hout ⟨rfl, ho.once s j i x hj hslot ▸ hi⟩

/-- Two transfers are submitted, the stop waits for them in vain, and the stream is started
again. -/
def impatientRestart : LibProg Unit × World Heap LibCall :=
  runWith (streamSession anyStart 9 [.start 2, .stop, .start 2])
    [0, 0, 0, 0, 0, 0, 0, 1, 1, 1, 1, 1, 0] ⟨{}, []⟩

theorem restart_not_accounted :
    ¬ ∀ (wakes : Nat) (calls : List StreamCall) (p : LibProg Unit) (w : World Heap LibCall),
      Relation.ReflTransGen (Step Events) (streamSession anyStart wakes calls, ⟨{}, []⟩) (p, w) →
      w.state.Accounted := by
  intro hall
  have hacc := hall 9 [.start 2, .stop, .start 2] impatientRestart.1 impatientRestart.2
    (steps_runWith _ _ _)
  have hslots : ∀ i < numTransferBufs,
      (impatientRestart.2.state.stream 0).transfers i ≠ some 0 := by
    decide
  obtain ⟨⟨i, hi, hslot⟩, -⟩ := hacc 0 rfl
  exact hslots i hi hslot

end Lifetime
end LibUvc
