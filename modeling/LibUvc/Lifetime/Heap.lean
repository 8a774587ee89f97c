import LibUvc.Basic
import Mathlib.Logic.Function.Basic

/-!
# Who can still reach what

libusb holds on to a transfer it was given, the transfer's `user_data` is a stream handle, the
stream handle points to its device handle, and the device handle belongs to a context.  So as long
as libusb has the transfer, or runs its callback, none of the four may be freed.  What tells the
library so are the slots of `transfers[]` and three flags that are set when an object has to be
*quarantined*, that is, left allocated for good.

A `Heap` has all objects of one context ever allocated, with a mark on those that were freed; a
pointer is the number of the object.  For each transfer it also says who has it (`Phase`): nobody,
libusb, or a run of `_uvc_stream_callback` that has got to a certain point.

`Heap.event` is one step of libusb's event thread: it delivers a completion, with any status, and
takes the callback to its next look at shared memory.  The last of those is the critical section
that frees the transfer.
-/

set_option autoImplicit false

namespace LibUvc
namespace Lifetime

/-- `LIBUVC_NUM_TRANSFER_BUFS`. -/
def numTransferBufs : Nat := 100

/-! ## Objects -/

/-- Where a run of `_uvc_stream_callback` stands. -/
inductive CallbackPc where
  /-- In front of `_uvc_process_payload`, which reads the stream handle and its device handle. -/
  | processing
  /-- In front of the test of `strmh->running`. -/
  | testing
  /-- Past that test, in front of `libusb_submit_transfer`. -/
  | submitting
  /-- In front of the critical section that frees the transfer. -/
  | freeing
  deriving DecidableEq, Repr

/-- Who has a transfer. -/
inductive Phase where
  /-- Neither libusb nor a callback. -/
  | idle
  | owned
  | callback (pc : CallbackPc)
  deriving DecidableEq, Repr

/-- `struct libusb_transfer`, of a stream. -/
structure Transfer where
  /-- `user_data`. -/
  strmh : Nat := 0
  phase : Phase := .idle
  /-- How often it was given to `libusb_free_transfer`. -/
  freed : Nat := 0
  /-- How often its buffer was given to `free`. -/
  bufferFreed : Nat := 0
  deriving DecidableEq, Repr

/-- `struct uvc_stream_handle`. -/
structure Stream where
  devh : Nat := 0
  running : Bool := false
  /-- `transfers[i]`. -/
  transfers : Nat → Option Nat := fun _ => none
  freed : Bool := false

/-- `struct uvc_device_handle`. -/
structure Device where
  /-- The list `streams`. -/
  streams : List Nat := []
  hasQuarantinedStream : Bool := false
  hasQuarantinedStatusXfer : Bool := false
  freed : Bool := false
  deriving DecidableEq, Repr

/-- A context and everything that was ever allocated for it.  The objects of each kind are numbered
in the order of their allocation, and `nextDev`, `nextStream` and `nextXfer` are the first numbers
not yet used. -/
structure Heap where
  /-- The context itself was freed. -/
  freed : Bool := false
  hasQuarantinedDevice : Bool := false
  /-- The list `open_devices`. -/
  openDevices : List Nat := []
  nextDev : Nat := 0
  nextStream : Nat := 0
  nextXfer : Nat := 0
  dev : Nat → Device := fun _ => {}
  stream : Nat → Stream := fun _ => {}
  xfer : Nat → Transfer := fun _ => {}

/-! ## Changing one object -/

def Heap.setXfer (h : Heap) (x : Nat) (f : Transfer → Transfer) : Heap :=
  { h with xfer := Function.update h.xfer x (f (h.xfer x)) }

def Heap.setStream (h : Heap) (s : Nat) (f : Stream → Stream) : Heap :=
  { h with stream := Function.update h.stream s (f (h.stream s)) }

def Heap.setDev (h : Heap) (d : Nat) (f : Device → Device) : Heap :=
  { h with dev := Function.update h.dev d (f (h.dev d)) }

theorem setXfer_xfer (h : Heap) (x : Nat) (f : Transfer → Transfer) (y : Nat) :
    (h.setXfer x f).xfer y = if y = x then f (h.xfer x) else h.xfer y :=
  Function.update_apply ..

theorem setStream_stream (h : Heap) (s : Nat) (f : Stream → Stream) (r : Nat) :
    (h.setStream s f).stream r = if r = s then f (h.stream s) else h.stream r :=
  Function.update_apply ..

theorem setDev_dev (h : Heap) (d : Nat) (f : Device → Device) (e : Nat) :
    (h.setDev d f).dev e = if e = d then f (h.dev d) else h.dev e :=
  Function.update_apply ..

/-- The transfer `x` changes hands. -/
def Heap.setPhase (h : Heap) (x : Nat) (p : Phase) : Heap :=
  h.setXfer x fun t => { t with phase := p }

/-- `free(transfer->buffer)` and `libusb_free_transfer(transfer)`. -/
def Transfer.release (t : Transfer) : Transfer :=
  { t with freed := t.freed + 1, bufferFreed := t.bufferFreed + 1 }

/-- Slot `i` of the stream `s` is set to `NULL`. -/
def Heap.clearSlot (h : Heap) (s i : Nat) : Heap :=
  h.setStream s fun st => { st with transfers := Function.update st.transfers i none }

/-! ## The event thread -/

/-- Where the `switch` of `_uvc_stream_callback` goes. -/
def afterStatus : TransferStatus → CallbackPc
  | .completed => .processing
  | .cancelled | .error | .noDevice => .freeing
  | .timedOut | .stall | .overflow => .testing

/-- The critical sections of `_uvc_stream_callback`: the transfer is looked up in the slots of its
stream, freed if it is found there, and the callback is over. -/
def Heap.markDeleted (h : Heap) (x : Nat) : Heap :=
  let s := (h.xfer x).strmh
  match (List.range numTransferBufs).find? fun i => (h.stream s).transfers i = some x with
  | some i => ((h.setXfer x Transfer.release).clearSlot s i).setPhase x .idle
  | none => h.setPhase x .idle

/-- What the event thread can do next. -/
inductive Event where
  /-- libusb completes a transfer it owns. -/
  | deliver (x : Nat) (status : TransferStatus)
  /-- `_uvc_process_payload`. -/
  | process (x : Nat)
  /-- The test of `strmh->running`. -/
  | test (x : Nat)
  /-- `libusb_submit_transfer` answers `ret`, and has the transfer if that is 0. -/
  | resubmit (x : Nat) (ret : Ret)
  /-- The critical section at the end. -/
  | free (x : Nat)
  deriving DecidableEq, Repr

/-- One step of the event thread. -/
def Heap.event (h : Heap) : Event → Option Heap
  | .deliver x status =>
    if (h.xfer x).phase = .owned then some (h.setPhase x (.callback (afterStatus status)))
    else none
  | .process x =>
    if (h.xfer x).phase = .callback .processing then some (h.setPhase x (.callback .testing))
    else none
  | .test x =>
    if (h.xfer x).phase = .callback .testing then
      some (h.setPhase x (.callback
        (if (h.stream (h.xfer x).strmh).running then .submitting else .freeing)))
    else none
  | .resubmit x ret =>
    if (h.xfer x).phase = .callback .submitting then
      some (h.setPhase x
        (if ret < 0 then .callback .freeing else if ret = 0 then .owned else .idle))
    else none
  | .free x =>
    if (h.xfer x).phase = .callback .freeing then some (h.markDeleted x) else none

end Lifetime
end LibUvc
