import LibUvc.Device.Close
import LibUvc.Foundation.Embed
import LibUvc.Lifetime.Session

/-!
# One camera, from `uvc_open` to `uvc_close`

`LibUvc.Lifetime` follows the transfers of a stream and `LibUvc.Device` the interfaces of a device.
`uvc_stream_close` decides from the first what it does with the second, and the streams of a device
share one mask of claimed interfaces, so here the two are put together: a `State` has a heap of
objects, the interface of every stream handle and, for every device handle, what it has claimed.
The functions that were modelled there are embedded as they are; the ones that touch both sides are
written out again.

* The heap has the streams of a device handle and its flags; of `Device.DevHandle` only the mask,
  the reattach guard and the number of the VideoControl interface are used.
* Every call is one that libusb or the rest of the library answers, and `Call.usb` names the device
  handle on which it is made.
* The event thread works on the heap.

A `session` is what an application does with one device: it opens it, starts and stops streaming and
closes it, as often as it likes, and opens it again.  It has one handle at a time, and a call that
needs a handle is skipped while there is none.  A handle that `uvc_close` had to leave allocated
stays behind with the transfers that libusb still has.
-/

set_option autoImplicit false

namespace LibUvc
namespace Camera

open Prog
open Lifetime (Heap LibCall LibProg)
open Device (DevHandle DevProg UsbCall)

/-- The objects of a context, and what the device handles have claimed. -/
structure State where
  heap : Heap := {}
  /-- `stream_if->bInterfaceNumber` of each stream handle. -/
  ifNum : Nat → Nat := fun _ => 0
  /-- The device handles. -/
  handle : Nat → DevHandle := fun _ => {}

/-- The questions that the environment answers. -/
inductive Call where
  | lib (k : LibCall)
  /-- A call on the device handle `d`. -/
  | usb (d : Nat) (k : UsbCall)
  /-- `libusb_open`, and everything in `uvc_open_internal` that can fail before the claim. -/
  | openDevice
  /-- `_uvc_get_stream_if`, and the allocation of the stream handle. -/
  | getStreamIf (i : Nat)
  /-- `uvc_stream_ctrl`. -/
  | streamCtrl (i : Nat)
  deriving DecidableEq, Repr

abbrev CamProg := Prog State Call

/-! ## The two components -/

def State.setHeap (c : State) (h : Heap) : State := { c with heap := h }

def State.setHandle (c : State) (d : Nat) (dh : DevHandle) : State :=
  { c with handle := Function.update c.handle d dh }

def heapPart : Part Heap LibCall State Call where
  get := State.heap
  put := State.setHeap
  call := .lib
  called
    | .lib k => some k
    | _ => none
  get_put _ _ := rfl
  called_call _ := rfl

def handlePart (d : Nat) : Part DevHandle UsbCall State Call where
  get c := c.handle d
  put c := c.setHandle d
  call := .usb d
  called
    | .usb e k => if e = d then some k else none
    | _ => none
  get_put _ _ := Function.update_self ..
  called_call _ := if_pos rfl

/-- A step on the heap. -/
def updateHeap (f : Heap → Heap) : CamProg Unit := update fun c => c.setHeap (f c.heap)

/-! ## Opening -/

/-- `calloc` of a device handle. -/
def newHandle (ctrlIf : Nat) (c : State) : State :=
  c.setHandle c.heap.nextDev { ctrlIf := ctrlIf }

/-- What `uvc_open_internal` can fail at once it has the descriptors: the claim of VideoControl, and
the submission of the status transfer.  A device without a status endpoint has nothing to submit,
and that is the answer 0. -/
def claimControl (d ctrlIf : Nat) : CamProg Ret := do
  let ret ← (handlePart d).embed (Device.claimIf ctrlIf)
  if ret ≠ Ret.success then return ret else ask (.usb d .submitStatusXfer)

/-- `uvc_open`, on a device whose VideoControl interface is `ctrlIf`. -/
def openDevice (ctrlIf : Nat) : CamProg Unit := do
  let ret ← ask .openDevice
  when (ret = Ret.success) do
    let c ← fetch (newHandle ctrlIf)
    let ret ← claimControl c.heap.nextDev ctrlIf
    if ret ≠ Ret.success then
      let _ ← (handlePart c.heap.nextDev).embed (Device.releaseIf ctrlIf)
      let _ ← ask (.usb c.heap.nextDev .close)
      return ()
    else updateHeap Lifetime.newDevice

/-! ## Streaming -/

/-- `_uvc_get_stream_by_interface`. -/
def getStreamByInterface (c : State) (d i : Nat) : Option Nat :=
  (c.heap.dev d).streams.find? fun s => c.ifNum s = i

/-- A stream handle on the interface `i` is allocated and linked. -/
def newStream (d i : Nat) (c : State) : State :=
  { c with
    heap := Lifetime.newStream d c.heap
    ifNum := Function.update c.ifNum c.heap.nextStream i }

/-- `uvc_stream_open_ctrl`. -/
def streamOpenCtrl (d i : Nat) : CamProg (Except Ret Nat) := do
  let c ← load
  if (getStreamByInterface c d i).isSome then return .error Ret.errorBusy
  else
    let ret ← ask (.getStreamIf i)
    if ret ≠ Ret.success then return .error ret
    else
      let ret ← (handlePart d).embed (Device.claimIf i)
      if ret ≠ Ret.success then return .error ret
      else
        -- the interface stays claimed when this fails
        let ret ← ask (.streamCtrl i)
        if ret ≠ Ret.success then return .error ret
        else
          let c ← fetch (newStream d i)
          return .ok c.heap.nextStream

/-- `uvc_stream_close`. -/
def streamClose (wakes s : Nat) : CamProg Unit := do
  let c ← load
  when (c.heap.stream s).running do
    let _ ← heapPart.embed (Lifetime.streamStop wakes s)
    return ()
  -- `transfers_pending`, read under `cb_mutex`
  let c ← load
  updateHeap (Lifetime.unlinkStream s)
  if (c.heap.stream s).pending then updateHeap (Lifetime.quarantineStream s)
  else
    let _ ← (handlePart (c.heap.stream s).devh).embed (Device.releaseIf (c.ifNum s))
    updateHeap (Lifetime.freeStream s)

/-- `uvc_start_streaming`, with `ctrl->bInterfaceNumber = i`. -/
def startStreaming (wakes d i count : Nat) : CamProg Unit := do
  match ← streamOpenCtrl d i with
  | .error _ => return ()
  | .ok s =>
    let ret ← heapPart.embed (Lifetime.streamStart s count)
    when (ret ≠ Ret.success) (streamClose wakes s)

def streamCloseAll (wakes : Nat) : List Nat → CamProg Unit
  | [] => return ()
  | s :: rest => do
    streamClose wakes s
    streamCloseAll wakes rest

/-- `uvc_stop_streaming`. -/
def stopStreaming (wakes d : Nat) : CamProg Unit := do
  let c ← load
  streamCloseAll wakes (c.heap.dev d).streams

/-! ## Closing -/

/-- `uvc_close`. -/
def close (wakes d : Nat) : CamProg Unit := do
  let c ← load
  when ((c.heap.dev d).streams ≠ []) (stopStreaming wakes d)
  let stopped ← ask (.lib (.stopStatusXfer d))
  when (stopped = 0) (updateHeap fun h =>
    h.setDev d fun dv => { dv with hasQuarantinedStatusXfer := true })
  let c ← load
  if (c.heap.dev d).hasQuarantinedStream || (c.heap.dev d).hasQuarantinedStatusXfer then
    updateHeap (Lifetime.unlinkDevice d)
    updateHeap Lifetime.quarantineDevice
  else
    (handlePart d).embed Device.releaseClaimedIfs
    let _ ← ask (.usb d .close)
    updateHeap (Lifetime.unlinkDevice d)
    updateHeap (Lifetime.freeDevice d)

/-! ## Sessions -/

/-- A call that the application can make. -/
inductive ApiCall where
  | open
  /-- `uvc_start_streaming` on the interface `i`; `count` is the device's `transfer_buffer_count` at
  the time. -/
  | startStreaming (i count : Nat)
  | stopStreaming
  | close
  deriving DecidableEq, Repr

/-- The handle that the application has. -/
def State.opened (c : State) : Option Nat := c.heap.openDevices.head?

/-- One call, on the handle that the application has. -/
def perform (wakes ctrlIf : Nat) : ApiCall → Option Nat → CamProg Unit
  | .open, none => openDevice ctrlIf
  | .startStreaming i count, some d => startStreaming wakes d i count
  | .stopStreaming, some d => stopStreaming wakes d
  | .close, some d => close wakes d
  | _, _ => return ()

/-- The calls, one after another, up to the first that `may` does not allow. -/
def session (may : State → ApiCall → Bool) (wakes ctrlIf : Nat) : List ApiCall → CamProg Unit
  | [] => return ()
  | a :: rest => do
    let c ← load
    when (may c a) do
      perform wakes ctrlIf a c.opened
      session may wakes ctrlIf rest

/-- What the event thread may do between two steps of the application. -/
def Events (w w' : World State Call) : Prop :=
  ∃ e h, w.state.heap.event e = some h ∧ w' = ⟨w.state.setHeap h, w.log⟩

end Camera
end LibUvc
