import LibUvc.Device.Status
import LibUvc.Foundation.Mask
import LibUvc.Foundation.Program

/-!
# Claiming and releasing interfaces, and the reattach guard

`uvc_claim_if` takes an interface away from its kernel driver and `uvc_release_if` gives it back.
Each is a few calls into libusb, any of which may fail, and between two of them the process may die;
`uvc_reattach_guard_arm` and `_disarm` keep a mask, in memory shared with a helper process, of the
interfaces whose driver would then have to be put back by somebody else.

A device handle is shared between the application's thread and libusb's event thread, so its
functions are programs over `DevHandle` that make `UsbCall`s.  The creation of the guard is a call
as well: it forks, and may fail.
-/

set_option autoImplicit false

namespace LibUvc
namespace Device

/-- A `uint32_t` used as a set of interface numbers. -/
abbrev IfMask := BitVec 32

/-- `UVC_REATTACH_MAX_INTERFACES`. -/
def reattachMaxInterfaces : Nat := 32

/-- What `uvc_close` has to know of a stream handle.  At most one stream is open on an interface, so
its number stands for the stream. -/
structure OpenStream where
  /-- `stream_if->bInterfaceNumber`. -/
  ifNum : Nat
  running : Bool
  /-- The number of occupied `transfers[]` slots. -/
  inFlight : Nat
  deriving DecidableEq, Repr

/-- The part of `struct uvc_device_handle` that outlives a single request. -/
structure DevHandle where
  /-- `info->ctrl_if.bInterfaceNumber`. -/
  ctrlIf : Nat := 0
  claimed : IfMask := 0#32
  /-- `reattach_guard`: `none` is `NULL`, `some m` a guard whose record has `armed = m`. -/
  reattachGuard : Option IfMask := none
  /-- `status_xfer` and its two flags. -/
  status : StatusXfer := {}
  hasQuarantinedStream : Bool := false
  hasQuarantinedStatusXfer : Bool := false
  streams : List OpenStream := []
  deriving DecidableEq, Repr

/-- The calls a device handle makes to the outside. -/
inductive UsbCall where
  | getDeviceDescriptor
  /-- `uvc_reattach_guard_create`; the answer 0 stands for a guard, anything else for `NULL`. -/
  | reattachGuardCreate
  | detachKernelDriver (idx : Nat)
  | claimInterface (idx : Nat)
  | setInterfaceAltSetting (idx : Nat)
  | releaseInterface (idx : Nat)
  | attachKernelDriver (idx : Nat)
  /-- `libusb_cancel_transfer` on a transfer of the stream on an interface. -/
  | cancelTransfer (idx : Nat)
  /-- A `pthread_cond_timedwait` of `uvc_stream_stop`; any other answer than 0 is a timeout. -/
  | stopWait (idx : Nat)
  | submitStatusXfer
  | cancelStatusXfer
  | close
  deriving DecidableEq, Repr

/-- Code that works on a device handle. -/
abbrev DevProg := Prog DevHandle UsbCall

open Prog

/-! ## The reattach guard -/

/-- `uvc_reattach_guard_arm`, on the guard a handle has. -/
def reattachGuardArm (idx : Nat) (d : DevHandle) : DevHandle :=
  match d.reattachGuard with
  | none => d
  | some armed =>
    if idx ≥ reattachMaxInterfaces then d
    else { d with reattachGuard := some (Mask.insert armed idx) }

/-- `uvc_reattach_guard_disarm`, on the guard a handle has. -/
def reattachGuardDisarm (idx : Nat) (d : DevHandle) : DevHandle :=
  match d.reattachGuard with
  | none => d
  | some armed =>
    if idx ≥ reattachMaxInterfaces then d
    else { d with reattachGuard := some (Mask.erase armed idx) }

/-- `uvc_reattach_guard_armed_mask`, on the guard a handle has. -/
def reattachGuardArmedMask (d : DevHandle) : IfMask := d.reattachGuard.getD 0#32

/-- `uvc_arm_reattach_guard`. -/
def armReattachGuard (idx : Nat) : DevProg Unit := do
  let d ← load
  if d.reattachGuard = none then
    let r ← ask .getDeviceDescriptor
    if r ≠ Ret.success then return ()
    else
      let g ← ask .reattachGuardCreate
      if g ≠ Ret.success then return ()
      else
        update fun d => { d with reattachGuard := some 0#32 }
        update (reattachGuardArm idx)
  else update (reattachGuardArm idx)

/-! ## `uvc_claim_if` and `uvc_release_if` -/

/-- The answers of `libusb_attach_kernel_driver` after which the kernel has the interface back, or
never had a driver for it; also the answers of `libusb_detach_kernel_driver` after which the
interface may be claimed. -/
def driverSettled (r : Ret) : Bool :=
  r == Ret.success || r == Ret.errorNotFound || r == Ret.errorNotSupported

/-- `uvc_claim_if`. -/
def claimIf (idx : Nat) : DevProg Ret := do
  let d ← load
  if Mask.has d.claimed idx then return Ret.success
  else
    armReattachGuard idx
    let detach ← ask (.detachKernelDriver idx)
    if !driverSettled detach then
      update (reattachGuardDisarm idx)
      return detach
    else
      let ret ← ask (.claimInterface idx)
      if ret = Ret.success then
        update fun d => { d with claimed := Mask.insert d.claimed idx }
        return ret
      else
        let reattach ← ask (.attachKernelDriver idx)
        if driverSettled reattach then
          update (reattachGuardDisarm idx)
          return ret
        else return ret

/-- `uvc_release_if`. -/
def releaseIf (idx : Nat) : DevProg Ret := do
  let d ← load
  if !Mask.has d.claimed idx then return Ret.success
  else
    let _ ← ask (.setInterfaceAltSetting idx)
    let ret ← ask (.releaseInterface idx)
    if ret = Ret.success then
      update fun d => { d with claimed := Mask.erase d.claimed idx }
      let attach ← ask (.attachKernelDriver idx)
      if driverSettled attach then
        update (reattachGuardDisarm idx)
        return Ret.success
      else return attach
    else return ret

/-- A call of one of the two functions, on an interface the masks can represent. -/
inductive IfCall where
  | claim (idx : Fin 32)
  | release (idx : Fin 32)
  deriving DecidableEq, Repr

/-- One call. -/
def IfCall.prog : IfCall → DevProg Ret
  | .claim idx => claimIf idx
  | .release idx => releaseIf idx

/-- A sequence of calls on one handle. -/
def ifCalls : List IfCall → DevProg Unit
  | [] => return ()
  | c :: cs => do
    let _ ← c.prog
    ifCalls cs

end Device
end LibUvc
