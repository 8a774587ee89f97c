import LibUvc.Device.Interfaces

/-!
# Closing a device

`uvc_close` and everything it calls, as the program of the closing thread: the streams are stopped
and closed, the status transfer is stopped, and unless one of them left a transfer behind the
claimed interfaces are released, VideoControl last, and the libusb handle is closed.

Next to it runs libusb's event thread.  `EventThread` says what that thread may do to the handle
between any two steps of the close: move the status transfer, submitting it again where
`StatusXfer.event` allows that, and free a transfer of a stream.

`uvc_stream_stop` waits on a condition variable that is also signalled for other reasons, so its
loop has no bound in the source.  Here `wakes` bounds how often it is woken before a timeout, and
every result is for all values of `wakes`.
-/

set_option autoImplicit false

namespace LibUvc
namespace Device

open Prog

/-! ## The event thread -/

/-- A run of `_uvc_stream_callback` frees a transfer of the stream on `idx`. -/
def transferFreed (idx : Nat) (d : DevHandle) : DevHandle :=
  { d with streams := d.streams.map fun s =>
      if s.ifNum = idx then { s with inFlight := s.inFlight - 1 } else s }

/-- One step of libusb's event thread. -/
inductive EventThread : World DevHandle UsbCall → World DevHandle UsbCall → Prop
  /-- The status transfer moves, and may be submitted. -/
  | status (w : World DevHandle UsbCall) (e : StatusEvent) (x : StatusXfer) (sub : Option Ret)
      (h : w.state.status.event e = some (x, sub)) :
      EventThread w
        ⟨{ w.state with status := x }, w.log ++ sub.toList.map fun r => (.submitStatusXfer, r)⟩
  /-- A transfer of a stream is freed. -/
  | freed (w : World DevHandle UsbCall) (idx : Nat) :
      EventThread w (w.update (transferFreed idx))

/-! ## `uvc_stream_stop`, `uvc_stream_close` and `uvc_stop_streaming` -/

/-- `LIBUVC_STREAM_STOP_TIMEOUT_ATTEMPTS`. -/
def streamStopTimeoutAttempts : Nat := 5

/-- The stream on an interface. -/
def streamOn (d : DevHandle) (idx : Nat) : Option OpenStream :=
  d.streams.find? fun s => s.ifNum = idx

/-- How many `transfers[]` slots of the stream on `idx` are occupied. -/
def inFlightOn (d : DevHandle) (idx : Nat) : Nat :=
  ((streamOn d idx).map OpenStream.inFlight).getD 0

/-- Whether the stream on `idx` is running. -/
def runningOn (d : DevHandle) (idx : Nat) : Bool :=
  ((streamOn d idx).map OpenStream.running).getD false

/-- Cancel `n` transfers. -/
def cancelAll (idx : Nat) : Nat → DevProg Unit
  | 0 => return ()
  | n + 1 => do
    let _ ← ask (.cancelTransfer idx)
    cancelAll idx n

/-- The wait of `uvc_stream_stop` for its transfers: until no slot is occupied, or for
`LIBUVC_STREAM_STOP_TIMEOUT_ATTEMPTS` timeouts. -/
def stopWaitLoop (idx : Nat) : (wakes attempts : Nat) → DevProg Ret
  | 0, _ => return Ret.errorTimeout
  | _, 0 => return Ret.errorTimeout
  | wakes + 1, attempts + 1 => do
    let d ← load
    if inFlightOn d idx = 0 then return Ret.success
    else
      let r ← ask (.stopWait idx)
      if r = 0 then stopWaitLoop idx wakes (attempts + 1) else stopWaitLoop idx wakes attempts

/-- `uvc_stream_stop`. -/
def streamStop (wakes idx : Nat) : DevProg Ret := do
  let d ← load
  if !runningOn d idx then return Ret.errorInvalidParam
  else
    update fun d => { d with streams := d.streams.map fun s =>
      if s.ifNum = idx then { s with running := false } else s }
    let d ← load
    cancelAll idx (inFlightOn d idx)
    stopWaitLoop idx wakes streamStopTimeoutAttempts

/-- `uvc_stream_close`: the handle is unlinked in any case, and the interface released only when no
transfer of the stream is left. -/
def streamClose (wakes idx : Nat) : DevProg Unit := do
  let d ← load
  when (runningOn d idx) do
    let _ ← streamStop wakes idx
    return ()
  let d ← load
  update fun d => { d with streams := d.streams.eraseP fun s => s.ifNum = idx }
  if inFlightOn d idx ≠ 0 then
    update fun d => { d with hasQuarantinedStream := true }
    return ()
  else
    let _ ← releaseIf idx
    return ()

/-- The loop of `uvc_stop_streaming`. -/
def streamCloseAll (wakes : Nat) : List Nat → DevProg Unit
  | [] => return ()
  | idx :: rest => do
    streamClose wakes idx
    streamCloseAll wakes rest

/-- `uvc_stop_streaming`. -/
def stopStreaming (wakes : Nat) : DevProg Unit := do
  let d ← load
  streamCloseAll wakes (d.streams.map OpenStream.ifNum)

/-! ## `uvc_stop_status_xfer` -/

/-- The polling loop of `uvc_stop_status_xfer`, for the polls that are left. -/
def statusPollLoop : Nat → DevProg Bool
  | 0 => return false
  | n + 1 => do
    let d ← load
    if d.status.submitted then statusPollLoop n else return true

/-- `uvc_stop_status_xfer`. -/
def stopStatusXfer : DevProg Bool := do
  let d ← load
  if !d.status.allocated then return true
  else
    let d ← fetch fun d => { d with status := d.status.beginStop }
    if d.status.submitted then
      let _ ← ask .cancelStatusXfer
      statusPollLoop (statusStopTimeoutMs / statusStopPollMs)
    else return true

/-! ## `uvc_close` -/

/-- The sweep of `uvc_release_claimed_ifs` over the interfaces `idx`, `idx + 1`, ... below 32. -/
def releaseOthers (ctrlIf : Nat) : List Nat → DevProg Unit
  | [] => return ()
  | idx :: rest => do
    let d ← load
    when (idx != ctrlIf && Mask.has d.claimed idx) do
      let _ ← releaseIf idx
      return ()
    releaseOthers ctrlIf rest

/-- `uvc_release_claimed_ifs`. -/
def releaseClaimedIfs : DevProg Unit := do
  let d ← load
  releaseOthers d.ctrlIf (List.range 32)
  let _ ← releaseIf d.ctrlIf
  return ()

/-- `uvc_close`; the result says whether the handle was quarantined instead. -/
def close (wakes : Nat) : DevProg Bool := do
  let d ← load
  when (d.streams ≠ []) (stopStreaming wakes)
  let stopped ← stopStatusXfer
  when (!stopped) (update fun d => { d with hasQuarantinedStatusXfer := true })
  let d ← load
  if d.hasQuarantinedStream || d.hasQuarantinedStatusXfer then return true
  else
    releaseClaimedIfs
    let _ ← ask .close
    return false

end Device
end LibUvc
