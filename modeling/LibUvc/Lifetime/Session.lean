import LibUvc.Foundation.Program
import LibUvc.Lifetime.Heap

/-!
# The calls an application makes

`uvc_open`, `uvc_start_streaming`, `uvc_stop_streaming`, `uvc_close` and `uvc_exit`, with what they
call, as the program of the application's thread.  Its steps are single accesses to the objects of
`Heap`, and the event thread may run between any two of them: nothing is locked except what the
source locks, and a critical section is one step.

What happens outside of these objects is answered by the environment: whether a device or a stream
can be opened, whether the negotiation before the first transfer succeeds, what libusb says to a
transfer submitted to it, whether a bounded wait is ended by a signal or by a timeout, and whether
the status transfer could be stopped.

`session` runs any list of calls.  A call on a device that is not open is one that the application
may not make, and is skipped; `uvc_exit` ends the session.  As in the close of a single device,
`wakes` bounds how often the wait of `uvc_stream_stop` is woken before it gives up, and all results
are for every value of it.
-/

set_option autoImplicit false

namespace LibUvc
namespace Lifetime

open Prog

/-- The questions that the environment answers. -/
inductive LibCall where
  /-- Everything in `uvc_open` that can fail. -/
  | openDevice
  /-- Everything in `uvc_stream_open_ctrl` that can fail. -/
  | openStream (d : Nat)
  /-- Everything in `uvc_stream_start` that can fail before the transfers are allocated. -/
  | prepare (s : Nat)
  | submit (x : Nat)
  | cancel (x : Nat)
  /-- The timed wait of `uvc_stream_stop`: 0 if it is woken. -/
  | stopWait (s : Nat)
  /-- `uvc_stop_status_xfer`: 0 if libusb may still own the status transfer. -/
  | stopStatusXfer (d : Nat)
  deriving DecidableEq, Repr

abbrev LibProg := Prog Heap LibCall

/-! ## Starting -/

/-- `uvc_open_internal` allocates a device handle and links it. -/
def newDevice (h : Heap) : Heap :=
  { h.setDev h.nextDev fun _ => {} with
    nextDev := h.nextDev + 1
    openDevices := h.openDevices ++ [h.nextDev] }

/-- `uvc_open`. -/
def openDevice : LibProg Unit := do
  let ret ← ask .openDevice
  when (ret = Ret.success) (update newDevice)

/-- `uvc_stream_open_ctrl` allocates a stream handle and links it. -/
def newStream (d : Nat) (h : Heap) : Heap :=
  { (h.setStream h.nextStream fun _ => { devh := d }).setDev d fun dv =>
      { dv with streams := dv.streams ++ [h.nextStream] } with
    nextStream := h.nextStream + 1 }

def setRunning (s : Nat) (b : Bool) (h : Heap) : Heap :=
  h.setStream s fun st => { st with running := b }

/-- `num_transfer_bufs`, from `transfer_buffer_count`. -/
def bufferCount (count : Nat) : Nat :=
  if count = 0 then numTransferBufs else min numTransferBufs (max 2 count)

/-- `uvc_stream_start` allocates `n` transfers and puts them into the first `n` slots. -/
def allocTransfers (s n : Nat) (h : Heap) : Heap :=
  { h.setStream s fun st =>
      { st with transfers := fun i => if i < n then some (h.nextXfer + i) else st.transfers i } with
    xfer := fun x =>
      if h.nextXfer ≤ x ∧ x < h.nextXfer + n then { strmh := s } else h.xfer x
    nextXfer := h.nextXfer + n }

/-- The loop that submits the transfers from slot `i` on, with the last answer and the number it has
got to.  A null transfer would be submitted as any other; there is none. -/
def submitLoop (s : Nat) : (left i : Nat) → LibProg (Ret × Nat)
  | 0, i => return (Ret.success, i)
  | left + 1, i => do
    let h ← load
    match (h.stream s).transfers i with
    | none => return (Ret.errorOther, i)
    | some x =>
      let ret ← ask (.submit x)
      if ret ≠ Ret.success then return (ret, i)
      else
        update fun h => h.setPhase x .owned
        submitLoop s left (i + 1)

/-- A transfer that was never submitted is freed. -/
def freeSlot (s i : Nat) (h : Heap) : Heap :=
  match (h.stream s).transfers i with
  | some x => (h.setXfer x Transfer.release).clearSlot s i
  | none => h

/-- The loops that free the transfers from slot `i` on. -/
def freeSlots (s : Nat) : (left i : Nat) → LibProg Unit
  | 0, _ => return ()
  | left + 1, i => do
    update (freeSlot s i)
    freeSlots s left (i + 1)

/-- `uvc_stream_start`. -/
def streamStart (s count : Nat) : LibProg Ret := do
  let h ← load
  if (h.stream s).running then return Ret.errorBusy
  else
    update (setRunning s true)
    let ret ← ask (.prepare s)
    if ret ≠ Ret.success then
      update (setRunning s false)
      return ret
    else
      update (allocTransfers s (bufferCount count))
      let (ret, i) ← submitLoop s (bufferCount count) 0
      if ret = Ret.success then return Ret.success
      else if 0 < i then
        freeSlots s (bufferCount count - i) i
        return Ret.success
      else
        -- `running` stays set here, and the caller closes the stream
        freeSlots s (bufferCount count) 0
        return Ret.errorIo

/-! ## Stopping -/

/-- Some slot of the stream is not `NULL`. -/
def Stream.pending (st : Stream) : Bool :=
  (List.range numTransferBufs).any fun i => (st.transfers i).isSome

/-- `libusb_cancel_transfer` for every transfer in a slot.  The cancellation is asynchronous, and
its answer is ignored. -/
def cancelAll : List Nat → LibProg Unit
  | [] => return ()
  | x :: xs => do
    let _ ← ask (.cancel x)
    cancelAll xs

/-- `LIBUVC_STREAM_STOP_TIMEOUT_ATTEMPTS`. -/
def stopTimeoutAttempts : Nat := 5

/-- The wait of `uvc_stream_stop` for its transfers. -/
def stopWaitLoop (s : Nat) : (wakes attempts : Nat) → LibProg Ret
  | 0, _ => return Ret.errorTimeout
  | _, 0 => return Ret.errorTimeout
  | wakes + 1, attempts + 1 => do
    let h ← load
    if !(h.stream s).pending then return Ret.success
    else
      let r ← ask (.stopWait s)
      if r = 0 then stopWaitLoop s wakes (attempts + 1) else stopWaitLoop s wakes attempts

/-- `uvc_stream_stop`. -/
def streamStop (wakes s : Nat) : LibProg Ret := do
  let h ← load
  if !(h.stream s).running then return Ret.errorInvalidParam
  else
    update (setRunning s false)
    let h ← load
    cancelAll ((List.range numTransferBufs).filterMap (h.stream s).transfers)
    stopWaitLoop s wakes stopTimeoutAttempts

/-- `DL_DELETE(strmh->devh->streams, strmh)`. -/
def unlinkStream (s : Nat) (h : Heap) : Heap :=
  h.setDev (h.stream s).devh fun dv => { dv with streams := dv.streams.erase s }

/-- `strmh->devh->has_quarantined_stream = 1`. -/
def quarantineStream (s : Nat) (h : Heap) : Heap :=
  h.setDev (h.stream s).devh fun dv => { dv with hasQuarantinedStream := true }

/-- `free(strmh)`. -/
def freeStream (s : Nat) (h : Heap) : Heap := h.setStream s fun st => { st with freed := true }

/-- `uvc_stream_close`. -/
def streamClose (wakes s : Nat) : LibProg Unit := do
  let h ← load
  when (h.stream s).running do
    let _ ← streamStop wakes s
    return ()
  -- `transfers_pending`, read under `cb_mutex`
  let h ← load
  update (unlinkStream s)
  if (h.stream s).pending then update (quarantineStream s) else update (freeStream s)

/-- `uvc_start_streaming`. -/
def startStreaming (wakes d count : Nat) : LibProg Unit := do
  let ret ← ask (.openStream d)
  when (ret = Ret.success) do
    let h ← fetch (newStream d)
    let ret ← streamStart h.nextStream count
    when (ret ≠ Ret.success) (streamClose wakes h.nextStream)

def streamCloseAll (wakes : Nat) : List Nat → LibProg Unit
  | [] => return ()
  | s :: rest => do
    streamClose wakes s
    streamCloseAll wakes rest

/-- `uvc_stop_streaming`. -/
def stopStreaming (wakes d : Nat) : LibProg Unit := do
  let h ← load
  streamCloseAll wakes (h.dev d).streams

/-! ## Closing -/

/-- `DL_DELETE(ctx->open_devices, devh)`. -/
def unlinkDevice (d : Nat) (h : Heap) : Heap := { h with openDevices := h.openDevices.erase d }

/-- `ctx->has_quarantined_device = 1`. -/
def quarantineDevice (h : Heap) : Heap := { h with hasQuarantinedDevice := true }

/-- `uvc_free_devh`. -/
def freeDevice (d : Nat) (h : Heap) : Heap := h.setDev d fun dv => { dv with freed := true }

/-- `uvc_close`. -/
def close (wakes d : Nat) : LibProg Unit := do
  let h ← load
  when ((h.dev d).streams ≠ []) (stopStreaming wakes d)
  let stopped ← ask (.stopStatusXfer d)
  when (stopped = 0) (update fun h =>
    h.setDev d fun dv => { dv with hasQuarantinedStatusXfer := true })
  let h ← load
  update (unlinkDevice d)
  if (h.dev d).hasQuarantinedStream || (h.dev d).hasQuarantinedStatusXfer then
    update quarantineDevice
  else update (freeDevice d)

def closeAll (wakes : Nat) : List Nat → LibProg Unit
  | [] => return ()
  | d :: rest => do
    close wakes d
    closeAll wakes rest

/-- `uvc_exit`. -/
def exit (wakes : Nat) : LibProg Unit := do
  let h ← load
  closeAll wakes h.openDevices
  let h ← load
  when (!h.hasQuarantinedDevice) (update fun h => { h with freed := true })

/-! ## Sessions -/

/-- A call that the application can make. -/
inductive ApiCall where
  | open
  /-- `count` is the device's `transfer_buffer_count` at the time. -/
  | startStreaming (d count : Nat)
  | stopStreaming (d : Nat)
  | close (d : Nat)
  | exit
  deriving DecidableEq, Repr

/-- Run `p` if the device is open. -/
def onDevice (d : Nat) (p : LibProg Unit) : LibProg Unit := do
  let h ← load
  when (d ∈ h.openDevices) p

/-- The calls, one after another. -/
def session (wakes : Nat) : List ApiCall → LibProg Unit
  | [] => return ()
  | .open :: rest => do
    openDevice
    session wakes rest
  | .startStreaming d count :: rest => do
    onDevice d (startStreaming wakes d count)
    session wakes rest
  | .stopStreaming d :: rest => do
    onDevice d (stopStreaming wakes d)
    session wakes rest
  | .close d :: rest => do
    onDevice d (close wakes d)
    session wakes rest
  | .exit :: _ => exit wakes

/-- What the event thread may do between two steps of the application. -/
def Events (w w' : World Heap LibCall) : Prop :=
  ∃ e h, w.state.event e = some h ∧ w' = ⟨h, w.log⟩

end Lifetime
end LibUvc
