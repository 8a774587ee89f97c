import LibUvc.Basic
import LibUvc.Descriptor.Types
import LibUvc.Foundation.RefCount

/-!
# Finding devices

`uvc_get_device_list` makes a `uvc_device_t` for every device of the system that looks like a
camera; `uvc_find_device` and `uvc_find_devices` pick some of them.  The devices are counted: a list
comes with a reference to each of its elements, `uvc_find_device` hands out one reference and gives
the list back, and with every reference to a `uvc_device_t` goes one to libusb's device.

* `Library` is what the library has allocated; `Bus` is what libusb answers during one call.
* `Session` is a program that uses these functions in any order, as long as it only gives back what
  it has.  `references_balance` says that then every device counts right, and what remains when the
  program has given everything back.
* `Bus.IsCamera` and `Bus.Meets` say which devices are cameras and which of them are asked for, and
  `cameras_found` that these are found, by a program in any state.

Two things do remain.  A device whose configuration can be read but not its descriptor costs a
configuration each time the devices are listed, and a `uvc_find_devices` that finds nothing costs
the empty list that it would have returned.
-/

set_option autoImplicit false

namespace LibUvc
namespace Context
namespace Devices

open Descriptor RefCount

/-! ## libusb -/

/-- The strings that an open device is asked for; `none` if it has no answer. -/
structure Strings where
  serialNumber : Option (List UInt8) := none
  manufacturer : Option (List UInt8) := none
  product : Option (List UInt8) := none
  deriving DecidableEq, Repr

/-- What libusb answers during one call. -/
structure Bus where
  /-- `libusb_get_device_list`. -/
  devices : Option (List Nat)
  /-- `libusb_get_config_descriptor`. -/
  config : Nat → Option ConfigDescriptor
  /-- `libusb_get_device_descriptor`. -/
  desc : Nat → Option DeviceDescriptor
  /-- `libusb_open` and `libusb_get_string_descriptor_ascii`. -/
  strings : Nat → Option Strings

/-! ## The library -/

/-- What the library has allocated and not freed. -/
structure Library where
  /-- The devices, each for a device of libusb. -/
  devs : RefCount.Heap Nat
  /-- Arrays of devices. -/
  lists : Int := 0
  /-- Device descriptors and their strings. -/
  descs : Int := 0
  /-- libusb's configuration descriptors. -/
  configs : Int := 0

/-- `uvc_device_descriptor_t`. -/
structure UvcDeviceDescriptor extends Strings where
  idVendor : UInt16
  idProduct : UInt16
  deriving DecidableEq, Repr

/-- The descriptor and its strings. -/
def UvcDeviceDescriptor.blocks (desc : UvcDeviceDescriptor) : Int :=
  1 + desc.serialNumber.toList.length + desc.manufacturer.toList.length +
    desc.product.toList.length

/-- `uvc_get_device_descriptor`, of libusb's device `u`. -/
def uvcGetDeviceDescriptor (bus : Bus) (u : Nat) (lib : Library) :
    Option UvcDeviceDescriptor × Library :=
  match bus.desc u with
  | none => (none, lib)
  | some d =>
    let desc := { (bus.strings u).getD {} with idVendor := d.idVendor, idProduct := d.idProduct }
    (some desc, { lib with descs := lib.descs + desc.blocks })

/-- `uvc_free_device_descriptor`. -/
def uvcFreeDeviceDescriptor (desc : UvcDeviceDescriptor) (lib : Library) : Library :=
  { lib with descs := lib.descs - desc.blocks }

/-- The tests of `uvc_get_device_list` on one setting: a few cameras of The Imaging Source are never
taken, two others also with a class of their own. -/
def isVideoStreaming (desc : DeviceDescriptor) (ifDesc : InterfaceDescriptor) : Bool :=
  if 0x199e = desc.idVendor ∧ 0x8201 ≤ desc.idProduct ∧ desc.idProduct ≤ 0x8208 then false
  else
    0x199e == desc.idVendor && (0x8101 == desc.idProduct || 0x8102 == desc.idProduct) &&
        ifDesc.bInterfaceClass == 255 && ifDesc.bInterfaceSubClass == 2 ||
      ifDesc.bInterfaceClass == 14 && ifDesc.bInterfaceSubClass == 2

/-- `got_interface`. -/
def gotInterface (desc : DeviceDescriptor) (config : ConfigDescriptor) : Bool :=
  config.interface.any fun interface => interface.altsetting.any (isVideoStreaming desc)

/-- The loop of `uvc_get_device_list`. -/
def listDevices (bus : Bus) : List Nat → Library → Except RefCount.Fault (List Nat × Library)
  | [], lib => .ok ([], lib)
  | u :: us, lib =>
    match bus.config u with
    | none => listDevices bus us lib
    | some config =>
      match bus.desc u with
      -- `continue`, with the configuration still there
      | none => listDevices bus us { lib with configs := lib.configs + 1 }
      | some desc =>
        if gotInterface desc config then do
          let (d, devs) ← create u lib.devs
          let (ds, lib) ← listDevices bus us { lib with devs := devs }
          return (d :: ds, lib)
        else listDevices bus us lib

/-- `uvc_get_device_list`. -/
def uvcGetDeviceList (bus : Bus) (lib : Library) :
    Except RefCount.Fault (Except Ret (List Nat) × Library) :=
  match bus.devices with
  | none => .ok (.error Ret.errorIo, lib)
  | some us => do
    let (list, lib) ← listDevices bus us { lib with lists := lib.lists + 1 }
    return (.ok list, lib)

/-- `uvc_free_device_list`. -/
def uvcFreeDeviceList (list : List Nat) (unrefDevices : Bool) (lib : Library) :
    Except RefCount.Fault Library := do
  let devs ← if unrefDevices then releaseAll list lib.devs else .ok lib.devs
  return { lib with devs := devs, lists := lib.lists - 1 }

/-- What the caller of `uvc_find_device` asks for. -/
structure Query where
  vid : Int
  pid : Int
  sn : Option (List UInt8)
  deriving DecidableEq, Repr

/-- The test of both searches. -/
def Query.fits (q : Query) (desc : UvcDeviceDescriptor) : Bool :=
  (q.vid == 0 || (desc.idVendor.toNat : Int) == q.vid) &&
    (q.pid == 0 || (desc.idProduct.toNat : Int) == q.pid) &&
    (q.sn.isNone || desc.serialNumber == q.sn)

/-- The loop of `uvc_find_device`. -/
def findFirst (bus : Bus) (q : Query) :
    List Nat → Library → Except RefCount.Fault (Option Nat × Library)
  | [], lib => .ok (none, lib)
  | d :: ds, lib =>
    -- `dev->usb_dev`
    if lib.devs.Alive d then
      match uvcGetDeviceDescriptor bus (lib.devs.objects d).target lib with
      | (none, lib) => findFirst bus q ds lib
      | (some desc, lib) =>
        let lib := uvcFreeDeviceDescriptor desc lib
        if q.fits desc then .ok (some d, lib) else findFirst bus q ds lib
    else .error .useAfterFree

/-- `uvc_find_device`. -/
def uvcFindDevice (bus : Bus) (q : Query) (lib : Library) :
    Except RefCount.Fault (Except Ret Nat × Library) := do
  match ← uvcGetDeviceList bus lib with
  | (.error ret, lib) => return (.error ret, lib)
  | (.ok list, lib) =>
    match ← findFirst bus q list lib with
    | (some testDev, lib) =>
      let devs ← retain testDev lib.devs
      let lib ← uvcFreeDeviceList list true { lib with devs := devs }
      return (.ok testDev, lib)
    | (none, lib) =>
      let lib ← uvcFreeDeviceList list true lib
      return (.error Ret.errorNoDevice, lib)

/-- The loop of `uvc_find_devices`, with what is added to the list. -/
def findAll (bus : Bus) (q : Query) :
    List Nat → Library → Except RefCount.Fault (List Nat × Library)
  | [], lib => .ok ([], lib)
  | d :: ds, lib =>
    if lib.devs.Alive d then
      match uvcGetDeviceDescriptor bus (lib.devs.objects d).target lib with
      | (none, lib) => findAll bus q ds lib
      | (some desc, lib) =>
        if q.fits desc then do
          let devs ← retain d lib.devs
          let (found, lib) ←
            findAll bus q ds (uvcFreeDeviceDescriptor desc { lib with devs := devs })
          return (d :: found, lib)
        else findAll bus q ds (uvcFreeDeviceDescriptor desc lib)
    else .error .useAfterFree

/-- `uvc_find_devices`. -/
def uvcFindDevices (bus : Bus) (q : Query) (lib : Library) :
    Except RefCount.Fault (Except Ret (List Nat) × Library) := do
  match ← uvcGetDeviceList bus lib with
  | (.error ret, lib) => return (.error ret, lib)
  | (.ok list, lib) =>
    let (found, lib) ← findAll bus q list { lib with lists := lib.lists + 1 }
    let lib ← uvcFreeDeviceList list true lib
    if found.isEmpty then return (.error Ret.errorNoDevice, lib) else return (.ok found, lib)

/-! ## Programs -/

/-- A program with the references it has, and the lists. -/
structure Session where
  lib : Library
  refs : List Nat := []
  lists : List (List Nat) := []

/-- Nothing has been done. -/
def Session.start : Session where
  lib.devs := { objects := fun _ => { target := 0, ref := 0 }, next := 0, outer := fun _ => 0 }

/-- What a program may do.  `uvc_open` and `uvc_get_device` take a reference as `uvc_ref_device`
does, `uvc_close` gives it back as `uvc_unref_device` does. -/
inductive Call where
  | getDeviceList (bus : Bus)
  | freeDeviceList (list : List Nat) (unrefDevices : Bool)
  | findDevice (bus : Bus) (q : Query)
  | findDevices (bus : Bus) (q : Query)
  | refDevice (d : Nat)
  | unrefDevice (d : Nat)

/-- One call.  A program that does not have what it would give back does not make the call. -/
def Call.run (s : Session) : Call → Except RefCount.Fault Session
  | .getDeviceList bus => do
    match ← uvcGetDeviceList bus s.lib with
    | (.error _, lib) => return { s with lib := lib }
    | (.ok list, lib) =>
      return { s with lib := lib, refs := list ++ s.refs, lists := list :: s.lists }
  | .freeDeviceList list unrefDevices =>
    if list ∈ s.lists ∧ (unrefDevices = true → ∀ d ∈ list, list.count d ≤ s.refs.count d) then do
      let lib ← uvcFreeDeviceList list unrefDevices s.lib
      return { s with
        lib := lib
        refs := if unrefDevices then s.refs.diff list else s.refs
        lists := s.lists.erase list }
    else return s
  | .findDevice bus q => do
    match ← uvcFindDevice bus q s.lib with
    | (.error _, lib) => return { s with lib := lib }
    | (.ok d, lib) => return { s with lib := lib, refs := d :: s.refs }
  | .findDevices bus q => do
    match ← uvcFindDevices bus q s.lib with
    | (.error _, lib) => return { s with lib := lib }
    | (.ok list, lib) =>
      return { s with lib := lib, refs := list ++ s.refs, lists := list :: s.lists }
  | .refDevice d =>
    if d ∈ s.refs then do
      let devs ← retain d s.lib.devs
      return { s with lib := { s.lib with devs := devs }, refs := d :: s.refs }
    else return s
  | .unrefDevice d =>
    if d ∈ s.refs then do
      let devs ← release d s.lib.devs
      return { s with lib := { s.lib with devs := devs }, refs := s.refs.erase d }
    else return s

/-! ## What is found -/

/-- `uvc_get_device_list` takes libusb's device `u`. -/
def Bus.isUvc (bus : Bus) (u : Nat) : Bool :=
  (bus.config u).any fun config => (bus.desc u).any fun desc => gotInterface desc config

/-- The configuration of `u` is not freed. -/
def Bus.keepsConfig (bus : Bus) (u : Nat) : Bool := (bus.config u).isSome && (bus.desc u).isNone

/-- `u` has a descriptor that fits. -/
def Bus.fits (bus : Bus) (q : Query) (u : Nat) : Bool :=
  (bus.desc u).any fun d => q.fits
    { (bus.strings u).getD {} with idVendor := d.idVendor, idProduct := d.idProduct }

/-- `u` is a camera: its descriptors can be read, it is none of the cameras of The Imaging Source
that only look like one, and it has a setting for video streaming, in the class for video or, on two
other cameras of that maker, in the maker's own class. -/
def Bus.IsCamera (bus : Bus) (u : Nat) : Prop :=
  ∃ config desc, bus.config u = some config ∧ bus.desc u = some desc ∧
    ¬ (desc.idVendor = 0x199e ∧ 0x8201 ≤ desc.idProduct ∧ desc.idProduct ≤ 0x8208) ∧
    ∃ interface ∈ config.interface, ∃ setting ∈ interface.altsetting,
      setting.bInterfaceSubClass = 2 ∧
        (setting.bInterfaceClass = 14 ∨
          setting.bInterfaceClass = 255 ∧ desc.idVendor = 0x199e ∧
            (desc.idProduct = 0x8101 ∨ desc.idProduct = 0x8102))

/-- `u` is asked for: it has the vendor, the product and the serial number of the query, as far as
the query gives them. -/
def Bus.Meets (bus : Bus) (q : Query) (u : Nat) : Prop :=
  ∃ desc, bus.desc u = some desc ∧
    (q.vid ≠ 0 → desc.idVendor.toNat = q.vid) ∧ (q.pid ≠ 0 → desc.idProduct.toNat = q.pid) ∧
    ∀ sn, q.sn = some sn → ∃ strings, bus.strings u = some strings ∧ strings.serialNumber = some sn

theorem isVideoStreaming_iff (desc : DeviceDescriptor) (ifDesc : InterfaceDescriptor) :
    isVideoStreaming desc ifDesc = true ↔
      ¬ (desc.idVendor = 0x199e ∧ 0x8201 ≤ desc.idProduct ∧ desc.idProduct ≤ 0x8208) ∧
        ifDesc.bInterfaceSubClass = 2 ∧
          (ifDesc.bInterfaceClass = 14 ∨
            ifDesc.bInterfaceClass = 255 ∧ desc.idVendor = 0x199e ∧
              (desc.idProduct = 0x8101 ∨ desc.idProduct = 0x8102)) := by
  rw [isVideoStreaming]
  by_cases hexcluded : 0x199e = desc.idVendor ∧ 0x8201 ≤ desc.idProduct ∧ desc.idProduct ≤ 0x8208
  · rw [if_pos hexcluded]
    simp [hexcluded.1.symm, hexcluded.2]
  · have hother :
        ¬ (desc.idVendor = 0x199e ∧ 0x8201 ≤ desc.idProduct ∧ desc.idProduct ≤ 0x8208) :=
      fun h => hexcluded ⟨h.1.symm, h.2⟩
    rw [if_neg hexcluded]
    simp only [hother, not_false_eq_true, true_and, Bool.or_eq_true, Bool.and_eq_true, beq_iff_eq]
    grind

theorem isUvc_iff (bus : Bus) (u : Nat) : bus.isUvc u = true ↔ bus.IsCamera u := by
  simp only [Bus.isUvc, Bus.IsCamera, Option.any_eq_true, gotInterface, List.any_eq_true,
    isVideoStreaming_iff]
  grind

theorem fits_iff (bus : Bus) (q : Query) (u : Nat) : bus.fits q u = true ↔ bus.Meets q u := by
  have hserial : (q.sn = none ∨ ((bus.strings u).getD {}).serialNumber = q.sn) ↔
      ∀ sn, q.sn = some sn →
        ∃ strings, bus.strings u = some strings ∧ strings.serialNumber = some sn := by
    cases q.sn with
    | none => simp
    | some sn => cases bus.strings u <;> simp
  simp only [Bus.fits, Bus.Meets, Option.any_eq_true, Query.fits, Bool.and_eq_true, Bool.or_eq_true,
    beq_iff_eq, Option.isNone_iff_eq_none, ← hserial, and_assoc, or_iff_not_imp_left, ne_eq]

instance (bus : Bus) : DecidablePred bus.IsCamera := fun u => decidable_of_iff _ (isUvc_iff bus u)

instance (bus : Bus) (q : Query) : DecidablePred (bus.Meets q) :=
  fun u => decidable_of_iff _ (fits_iff bus q u)

/-- The cameras of the system. -/
def Bus.cameras (bus : Bus) : Except Ret (List Nat) :=
  match bus.devices with
  | none => .error Ret.errorIo
  | some us => .ok (us.filter bus.IsCamera)

theorem filter_isCamera (bus : Bus) (us : List Nat) :
    us.filter bus.IsCamera = us.filter bus.isUvc :=
  List.filter_congr fun u _ => by rw [Bool.eq_iff_iff, decide_eq_true_iff, isUvc_iff]

theorem filter_meets (bus : Bus) (q : Query) (us : List Nat) :
    us.filter (bus.Meets q) = us.filter (bus.fits q) :=
  List.filter_congr fun u _ => by rw [Bool.eq_iff_iff, decide_eq_true_iff, fits_iff]

/-- A search that finds nothing is an error. -/
def orNoDevice (found : List Nat) : Except Ret (List Nat) :=
  if found.isEmpty then .error Ret.errorNoDevice else .ok found

/-- The cameras that are asked for. -/
def Bus.search (bus : Bus) (q : Query) : Except Ret (List Nat) := do
  let us ← bus.cameras
  orNoDevice (us.filter (bus.Meets q))

/-- The configurations that one call of `uvc_get_device_list` loses. -/
def Bus.lostConfigs (bus : Bus) : Nat := (bus.devices.getD []).countP bus.keepsConfig

/-- The empty list that a call of `uvc_find_devices` loses. -/
def Bus.lostLists (bus : Bus) (q : Query) : Nat :=
  match bus.devices with
  | none => 0
  | some us => if ((us.filter bus.isUvc).filter (bus.fits q)).isEmpty then 1 else 0

section Searches

variable {bus : Bus} {lib : Library} {refs : List Nat}

/-- **The loop of `uvc_get_device_list`.** -/
theorem listDevices_ok (bus : Bus) (us : List Nat) : ∀ (lib : Library) {refs : List Nat},
    Owned lib.devs refs → ∃ ds devs, listDevices bus us lib =
        .ok (ds, { lib with devs := devs, configs := lib.configs + us.countP bus.keepsConfig }) ∧
      Extends lib.devs devs ∧ Owned devs (ds ++ refs) ∧
      ds.map (fun d => (devs.objects d).target) = us.filter bus.isUvc := by
  induction us with
  | nil =>
    intro lib refs ho
    refine ⟨[], lib.devs, ?_, Extends.refl _, ho, rfl⟩
    rw [List.countP_nil, Int.natCast_zero, Int.add_zero]
    rfl
  | cons u us ih =>
    intro lib refs ho
    cases hconfig : bus.config u with
    | none =>
      obtain ⟨ds, devs, hrun, hx, hown, htargets⟩ := ih lib ho
      refine ⟨ds, devs, ?_, hx, hown, ?_⟩
      · rw [listDevices, hconfig, List.countP_cons_of_neg (by simp [Bus.keepsConfig, hconfig])]
        exact hrun
      · rw [List.filter_cons_of_neg (by simp [Bus.isUvc, hconfig]), htargets]
    | some config =>
      cases hdesc : bus.desc u with
      | none =>
        obtain ⟨ds, devs, hrun, hx, hown, htargets⟩ :=
          ih { lib with configs := lib.configs + 1 } ho
        refine ⟨ds, devs, ?_, hx, hown, ?_⟩
        · rw [listDevices, hconfig, hdesc]
          dsimp only
          have hcount : lib.configs + 1 + (us.countP bus.keepsConfig : Int) =
              lib.configs + (us.countP bus.keepsConfig + 1 : Nat) := by
            push_cast
            omega
          rw [hrun, List.countP_cons_of_pos (by simp [Bus.keepsConfig, hconfig, hdesc]), ← hcount]
        · rw [List.filter_cons_of_neg (by simp [Bus.isUvc, hdesc]), htargets]
      | some desc =>
        have hkept : (u :: us).countP bus.keepsConfig = us.countP bus.keepsConfig :=
          List.countP_cons_of_neg (by simp [Bus.keepsConfig, hdesc])
        by_cases hgot : gotInterface desc config
        · obtain ⟨devs₁, hcreate, hx₁, hown₁, hnew, htarget⟩ := create_ok ho u
          obtain ⟨ds, devs, hrun, hx, hown, htargets⟩ :=
            ih { lib with devs := devs₁ } hown₁
          refine ⟨lib.devs.next :: ds, devs, ?_, hx₁.trans hx, hown.perm List.perm_middle, ?_⟩
          · rw [listDevices, hconfig, hdesc]
            dsimp only
            rw [if_pos hgot, hcreate, hkept]
            show (listDevices bus us { lib with devs := devs₁ } >>= _) = _
            rw [hrun]
            rfl
          · rw [List.filter_cons_of_pos (by simp [Bus.isUvc, hconfig, hdesc, hgot]), List.map_cons,
              htargets, hx.target _ hnew, htarget]
        · obtain ⟨ds, devs, hrun, hx, hown, htargets⟩ := ih lib ho
          refine ⟨ds, devs, ?_, hx, hown, ?_⟩
          · rw [listDevices, hconfig, hdesc]
            dsimp only
            rw [if_neg hgot, hkept]
            exact hrun
          · rw [List.filter_cons_of_neg (by simp [Bus.isUvc, hconfig, hdesc, hgot]), htargets]

/-- **`uvc_get_device_list`.** -/
theorem uvcGetDeviceList_ok (ho : Owned lib.devs refs) {us : List Nat}
    (hus : bus.devices = some us) :
    ∃ ds devs, uvcGetDeviceList bus lib =
        .ok (.ok ds, { lib with
          devs := devs
          lists := lib.lists + 1
          configs := lib.configs + bus.lostConfigs }) ∧
      Extends lib.devs devs ∧ Owned devs (ds ++ refs) ∧
      ds.map (fun d => (devs.objects d).target) = us.filter bus.isUvc := by
  obtain ⟨ds, devs, hrun, hx, hown, htargets⟩ :=
    listDevices_ok bus us { lib with lists := lib.lists + 1 } ho
  refine ⟨ds, devs, ?_, hx, hown, htargets⟩
  rw [uvcGetDeviceList, hus]
  dsimp only
  rw [hrun, Bus.lostConfigs, hus]
  rfl

/-- **`uvc_get_device_list`**, with its error. -/
theorem uvcGetDeviceList_cases (ho : Owned lib.devs refs) (bus : Bus) :
    ∃ r devs, uvcGetDeviceList bus lib =
        .ok (r, { lib with
          devs := devs
          lists := lib.lists + r.toOption.toList.length
          configs := lib.configs + bus.lostConfigs }) ∧
      Extends lib.devs devs ∧ Owned devs (r.toOption.getD [] ++ refs) ∧
      r.map (List.map fun d => (devs.objects d).target) = bus.cameras := by
  cases hus : bus.devices with
  | none =>
    refine ⟨.error Ret.errorIo, lib.devs, ?_, Extends.refl _, ho, ?_⟩
    · rw [uvcGetDeviceList, hus, Bus.lostConfigs, hus, Option.getD_none, List.countP_nil]
      simp only [Except.toOption, Option.toList_none, List.length_nil, Int.natCast_zero,
        Int.add_zero]
    · rw [Bus.cameras, hus]
      rfl
  | some us =>
    obtain ⟨ds, devs, hlist, hx, hown, htargets⟩ := uvcGetDeviceList_ok ho hus
    refine ⟨.ok ds, devs, hlist, hx, hown, ?_⟩
    rw [Bus.cameras, hus]
    exact congrArg Except.ok (htargets.trans (filter_isCamera bus us).symm)

theorem uvcFreeDeviceList_ok (lib : Library) {list : List Nat}
    (ho : Owned lib.devs (list ++ refs)) :
    ∃ devs,
      uvcFreeDeviceList list true lib = .ok { lib with devs := devs, lists := lib.lists - 1 } ∧
      Extends lib.devs devs ∧ Owned devs refs := by
  obtain ⟨devs, hrun, hx, hown⟩ := releaseAll_ok list ho
  refine ⟨devs, ?_, hx, hown⟩
  rw [uvcFreeDeviceList, if_pos rfl, hrun]
  rfl

/-- A descriptor is made, looked at and freed. -/
theorem uvcFreeDeviceDescriptor_add (desc : UvcDeviceDescriptor) (lib : Library) :
    uvcFreeDeviceDescriptor desc { lib with descs := lib.descs + desc.blocks } = lib := by
  rw [uvcFreeDeviceDescriptor]
  dsimp only
  rw [Int.add_sub_cancel]

/-- **The loop of `uvc_find_device`.** -/
theorem findFirst_ok (bus : Bus) (lib : Library) (q : Query) (ds : List Nat)
    (halive : ∀ d ∈ ds, lib.devs.Alive d) :
    findFirst bus q ds lib =
      .ok (ds.find? fun d => bus.fits q (lib.devs.objects d).target, lib) := by
  induction ds with
  | nil => rfl
  | cons d ds ih =>
    obtain ⟨hd, hds⟩ := List.forall_mem_cons.1 halive
    rw [findFirst, if_pos hd, uvcGetDeviceDescriptor, List.find?_cons, Bus.fits]
    cases bus.desc (lib.devs.objects d).target with
    | none => exact ih hds
    | some desc =>
      dsimp only [Option.any_some]
      rw [uvcFreeDeviceDescriptor_add]
      split <;> simp_all

/-- **The loop of `uvc_find_devices`.** -/
theorem findAll_ok (bus : Bus) (q : Query) (ds : List Nat) : ∀ (lib : Library) {refs : List Nat},
    Owned lib.devs refs → (∀ d ∈ ds, d ∈ refs) →
    ∃ devs, findAll bus q ds lib =
        .ok (ds.filter fun d => bus.fits q (lib.devs.objects d).target, { lib with devs := devs }) ∧
      Extends lib.devs devs ∧
      Owned devs ((ds.filter fun d => bus.fits q (lib.devs.objects d).target) ++ refs) := by
  induction ds with
  | nil => exact fun lib _ ho _ => ⟨lib.devs, rfl, Extends.refl _, ho⟩
  | cons d ds ih =>
    intro lib refs ho hmem
    obtain ⟨hd, hds⟩ := List.forall_mem_cons.1 hmem
    rw [findAll, if_pos (ho.alive hd), uvcGetDeviceDescriptor]
    cases hdesc : bus.desc (lib.devs.objects d).target with
    | none =>
      rw [List.filter_cons_of_neg (by simp [Bus.fits, hdesc])]
      exact ih lib ho hds
    | some desc =>
      dsimp only
      have hfits : bus.fits q (lib.devs.objects d).target = q.fits
          { (bus.strings (lib.devs.objects d).target).getD {} with
            idVendor := desc.idVendor, idProduct := desc.idProduct } := by
        rw [Bus.fits, hdesc]
        rfl
      rw [← hfits]
      by_cases hfit : bus.fits q (lib.devs.objects d).target
      · obtain ⟨devs₁, hretain, hx₁, hown₁⟩ := retain_ok ho hd
        obtain ⟨devs, hrun, hx, hown⟩ := ih { lib with devs := devs₁ } hown₁
          fun b hb => List.mem_cons_of_mem _ (hds b hb)
        have hsame : (ds.filter fun b => bus.fits q (devs₁.objects b).target) =
            ds.filter fun b => bus.fits q (lib.devs.objects b).target :=
          List.filter_congr fun b hb => by rw [hx₁.target b (ho.bound b (hds b hb))]
        dsimp only at hrun hown
        rw [hsame] at hrun hown
        refine ⟨devs, ?_, hx₁.trans hx, ?_⟩
        · rw [if_pos hfit, List.filter_cons_of_pos (by exact hfit)]
          show (retain d lib.devs >>= _) = _
          rw [hretain]
          show (findAll bus q ds (uvcFreeDeviceDescriptor _ _) >>= _) = _
          rw [uvcFreeDeviceDescriptor_add _ { lib with devs := devs₁ }, hrun]
          rfl
        · rw [List.filter_cons_of_pos (by exact hfit)]
          exact hown.perm List.perm_middle
      · rw [if_neg hfit, List.filter_cons_of_neg (by exact hfit), uvcFreeDeviceDescriptor_add]
        exact ih lib ho hds

theorem orNoDevice_head? (found : List Nat) :
    (orNoDevice found).map List.head? =
      match found.head? with
      | none => .error Ret.errorNoDevice
      | some u => .ok (some u) := by
  cases found <;> rfl

/-- The search, from the list of devices. -/
theorem search_of_list {q : Query} {us ds : List Nat} {devs : RefCount.Heap Nat}
    (hus : bus.devices = some us)
    (htargets : ds.map (fun d => (devs.objects d).target) = us.filter bus.isUvc) :
    bus.search q = orNoDevice ((ds.filter fun d => bus.fits q (devs.objects d).target).map
      fun d => (devs.objects d).target) := by
  rw [Bus.search, Bus.cameras, hus]
  show orNoDevice ((us.filter bus.IsCamera).filter (bus.Meets q)) = _
  rw [filter_isCamera, filter_meets, ← htargets, List.filter_map]
  rfl

/-- **`uvc_find_device`** gives the first camera that fits, with a reference. -/
theorem uvcFindDevice_ok (ho : Owned lib.devs refs) (bus : Bus) (q : Query) :
    ∃ r devs, uvcFindDevice bus q lib =
        .ok (r, { lib with devs := devs, configs := lib.configs + bus.lostConfigs }) ∧
      Extends lib.devs devs ∧ Owned devs (r.toOption.toList ++ refs) ∧
      r.map (fun d => some (devs.objects d).target) = (bus.search q).map List.head? := by
  cases hus : bus.devices with
  | none =>
    refine ⟨.error Ret.errorIo, lib.devs, ?_, Extends.refl _, ho, ?_⟩
    · rw [uvcFindDevice, uvcGetDeviceList, hus, Bus.lostConfigs, hus, Option.getD_none,
        List.countP_nil, Int.natCast_zero, Int.add_zero]
      rfl
    · rw [Bus.search, Bus.cameras, hus]
      rfl
  | some us =>
    obtain ⟨ds, devs₁, hlist, hx₁, hown₁, htargets⟩ := uvcGetDeviceList_ok ho hus
    let lib₁ : Library := { lib with
      devs := devs₁
      lists := lib.lists + 1
      configs := lib.configs + bus.lostConfigs }
    have hfind := findFirst_ok bus lib₁ q ds fun d hd =>
      hown₁.alive (List.mem_append_left refs hd)
    rw [search_of_list hus htargets, orNoDevice_head?, List.head?_map, List.head?_filter]
    cases hfound : ds.find? fun d => bus.fits q (devs₁.objects d).target with
    | none =>
      obtain ⟨devs, hfree, hx, hown⟩ := uvcFreeDeviceList_ok lib₁ hown₁
      refine ⟨.error Ret.errorNoDevice, devs, ?_, hx₁.trans hx, hown, rfl⟩
      rw [uvcFindDevice, hlist]
      show (findFirst bus q ds lib₁ >>= _) = _
      rw [hfind]
      dsimp only [lib₁] at hfree ⊢
      rw [hfound]
      show (uvcFreeDeviceList ds true _ >>= _) = _
      rw [hfree, Int.add_sub_cancel]
      rfl
    | some d =>
      have hd : d ∈ ds := List.mem_of_find?_eq_some hfound
      obtain ⟨devs₂, hretain, hx₂, hown₂⟩ := retain_ok hown₁ (List.mem_append_left refs hd)
      obtain ⟨devs, hfree, hx, hown⟩ := uvcFreeDeviceList_ok
        { lib₁ with devs := devs₂ } (hown₂.perm List.perm_middle.symm)
      refine ⟨.ok d, devs, ?_, (hx₁.trans hx₂).trans hx, hown, ?_⟩
      · rw [uvcFindDevice, hlist]
        show (findFirst bus q ds lib₁ >>= _) = _
        rw [hfind]
        dsimp only [lib₁] at hfree ⊢
        rw [hfound]
        show (retain d devs₁ >>= _) = _
        rw [hretain]
        show (uvcFreeDeviceList ds true _ >>= _) = _
        rw [hfree, Int.add_sub_cancel]
        rfl
      · have htarget := (hx₂.trans hx).target d (hown₁.bound d (List.mem_append_left refs hd))
        rw [Option.map_some, Except.map, htarget]

/-- **`uvc_find_devices`** gives the cameras that fit, in order and with a reference each. -/
theorem uvcFindDevices_ok (ho : Owned lib.devs refs) (bus : Bus) (q : Query) :
    ∃ r devs, uvcFindDevices bus q lib =
        .ok (r, { lib with
          devs := devs
          lists := lib.lists + r.toOption.toList.length + bus.lostLists q
          configs := lib.configs + bus.lostConfigs }) ∧
      Extends lib.devs devs ∧ Owned devs (r.toOption.getD [] ++ refs) ∧
      r.map (List.map fun d => (devs.objects d).target) = bus.search q := by
  cases hus : bus.devices with
  | none =>
    refine ⟨.error Ret.errorIo, lib.devs, ?_, Extends.refl _, ho, ?_⟩
    · rw [uvcFindDevices, uvcGetDeviceList, Bus.lostConfigs, Bus.lostLists, hus, Option.getD_none,
        List.countP_nil, Int.natCast_zero, Int.add_zero]
      simp only [Except.toOption, Option.toList_none, List.length_nil, Int.natCast_zero,
        Int.add_zero]
      rfl
    · rw [Bus.search, Bus.cameras, hus]
      rfl
  | some us =>
    obtain ⟨ds, devs₁, hlist, hx₁, hown₁, htargets⟩ := uvcGetDeviceList_ok ho hus
    let lib₁ : Library := { lib with
      devs := devs₁
      lists := lib.lists + 1 + 1
      configs := lib.configs + bus.lostConfigs }
    obtain ⟨devs₂, hfind, hx₂, hown₂⟩ := findAll_ok bus q ds lib₁ hown₁
      fun d hd => List.mem_append_left refs hd
    dsimp only [lib₁] at hfind hx₂ hown₂
    have hlost : bus.lostLists q =
        if (ds.filter fun d => bus.fits q (devs₁.objects d).target).isEmpty then 1 else 0 := by
      rw [Bus.lostLists, hus]
      dsimp only
      rw [← htargets, List.filter_map, List.isEmpty_map]
      rfl
    have hmem : ∀ d ∈ ds.filter fun d => bus.fits q (devs₁.objects d).target, d ∈ ds :=
      fun d hd => List.mem_of_mem_filter hd
    rw [search_of_list hus htargets, orNoDevice, List.isEmpty_map]
    generalize (ds.filter fun d => bus.fits q (devs₁.objects d).target) = found at *
    have hrefs : (found ++ (ds ++ refs)).Perm (ds ++ (found ++ refs)) := by
      rw [← List.append_assoc, ← List.append_assoc]
      exact List.perm_append_comm.append_right refs
    obtain ⟨devs, hfree, hx, hown⟩ := uvcFreeDeviceList_ok
      { lib₁ with devs := devs₂ } (hown₂.perm hrefs)
    dsimp only [lib₁] at hfree hx
    have hrun : uvcFindDevices bus q lib =
        .ok (if found.isEmpty then .error Ret.errorNoDevice else .ok found, { lib with
          devs := devs
          lists := lib.lists + 1
          configs := lib.configs + bus.lostConfigs }) := by
      rw [uvcFindDevices, hlist]
      show (findAll bus q ds { lib with
        devs := devs₁
        lists := lib.lists + 1 + 1
        configs := lib.configs + bus.lostConfigs } >>= _) = _
      rw [hfind]
      show (uvcFreeDeviceList ds true _ >>= _) = _
      rw [hfree, Int.add_sub_cancel]
      show (if found.isEmpty = true then _ else _) = _
      split <;> rfl
    by_cases hempty : found.isEmpty
    · rw [if_pos hempty] at hrun hlost ⊢
      refine ⟨.error Ret.errorNoDevice, devs, ?_, (hx₁.trans hx₂).trans hx, ?_, rfl⟩
      · rw [hrun, hlost]
        simp only [Except.toOption, Option.toList_none, List.length_nil, Int.natCast_zero,
          Int.add_zero, Int.natCast_one]
      · rw [List.isEmpty_iff.1 hempty] at hown
        exact hown
    · rw [if_neg hempty] at hrun hlost ⊢
      refine ⟨.ok found, devs, ?_, (hx₁.trans hx₂).trans hx, hown, ?_⟩
      · rw [hrun, hlost]
        simp only [Except.toOption, Option.toList_some, List.length_singleton, Int.natCast_zero,
          Int.add_zero, Int.natCast_one]
      · refine congrArg Except.ok (List.map_congr_left fun d hd => ?_)
        exact (hx₂.trans hx).target d (hown₁.bound d (List.mem_append_left refs (hmem d hd)))

end Searches

/-! ## What remains -/

/-- The lists that a call loses. -/
def Call.lostLists : Call → Nat
  | .findDevices bus q => bus.lostLists q
  | _ => 0

/-- The configurations that a call loses. -/
def Call.lostConfigs : Call → Nat
  | .getDeviceList bus | .findDevice bus _ | .findDevices bus _ => bus.lostConfigs
  | _ => 0

/-- The program's references are all there are, and all that was allocated is either its own or one
of the `lists` and `configs` that are lost. -/
structure Balanced (s : Session) (lists configs : Nat) : Prop where
  owned : Owned s.lib.devs s.refs
  lists : s.lib.lists = s.lists.length + lists
  descs : s.lib.descs = 0
  configs : s.lib.configs = configs

theorem balanced_start : Balanced Session.start 0 0 where
  owned :=
    ⟨fun _ hd => (List.not_mem_nil hd).elim, fun _ hd => (Nat.not_lt_zero _ hd).elim,
      fun _ hd => (Nat.not_lt_zero _ hd).elim, fun _ => rfl⟩
  lists := rfl
  descs := rfl
  configs := rfl

/-- **One call.** -/
theorem Call.run_ok {s : Session} {lists configs : Nat} (hs : Balanced s lists configs)
    (call : Call) : ∃ s', call.run s = .ok s' ∧
      Balanced s' (lists + call.lostLists) (configs + call.lostConfigs) := by
  obtain ⟨hown, hlists, hdescs, hconfigs⟩ := hs
  cases call with
  | getDeviceList bus =>
    obtain ⟨r, devs, hrun, -, hown', -⟩ := uvcGetDeviceList_cases hown bus
    rw [Call.run, hrun]
    cases r with
    | error ret =>
      refine ⟨_, rfl, hown', ?_, hdescs, by dsimp only; rw [hconfigs]; rfl⟩
      exact (Int.add_zero _).trans hlists
    | ok list =>
      refine ⟨_, rfl, hown', ?_, hdescs, by dsimp only; rw [hconfigs]; rfl⟩
      show s.lib.lists + 1 = ((list :: s.lists).length : Int) + lists
      rw [hlists, List.length_cons]
      push_cast
      omega
  | freeDeviceList list unrefDevices =>
    by_cases hgiven : list ∈ s.lists ∧
        (unrefDevices = true → ∀ d ∈ list, list.count d ≤ s.refs.count d)
    · have hlists' : s.lib.lists - 1 = (s.lists.erase list).length + lists := by
        have hlength := List.length_pos_of_mem hgiven.1
        rw [hlists, List.length_erase_of_mem hgiven.1]
        omega
      rw [Call.run, if_pos hgiven]
      cases unrefDevices with
      | false => exact ⟨_, rfl, hown, hlists', hdescs, hconfigs⟩
      | true =>
        have hrefs : s.refs.Perm (list ++ s.refs.diff list) :=
          (List.subperm_append_diff_self_of_count_le (hgiven.2 rfl)).symm
        obtain ⟨devs, hrun, -, hown'⟩ := uvcFreeDeviceList_ok _ (hown.perm hrefs)
        rw [hrun]
        exact ⟨_, rfl, hown', hlists', hdescs, hconfigs⟩
    · exact ⟨s, if_neg hgiven, hown, hlists, hdescs, hconfigs⟩
  | findDevice bus q =>
    obtain ⟨r, devs, hrun, -, hown', -⟩ := uvcFindDevice_ok hown bus q
    rw [Call.run, hrun]
    cases r with
    | error ret => exact ⟨_, rfl, hown', hlists, hdescs, by dsimp only; rw [hconfigs]; rfl⟩
    | ok d => exact ⟨_, rfl, hown', hlists, hdescs, by dsimp only; rw [hconfigs]; rfl⟩
  | findDevices bus q =>
    obtain ⟨r, devs, hrun, -, hown', -⟩ := uvcFindDevices_ok hown bus q
    rw [Call.run, hrun]
    cases r with
    | error ret =>
      refine ⟨_, rfl, hown', ?_, hdescs, by dsimp only; rw [hconfigs]; rfl⟩
      show s.lib.lists + ((0 : Nat) : Int) + bus.lostLists q = _
      rw [hlists, Call.lostLists]
      push_cast
      omega
    | ok list =>
      refine ⟨_, rfl, hown', ?_, hdescs, by dsimp only; rw [hconfigs]; rfl⟩
      show s.lib.lists + ((1 : Nat) : Int) + bus.lostLists q = _
      rw [hlists, Call.lostLists, List.length_cons]
      push_cast
      omega
  | refDevice d =>
    by_cases hd : d ∈ s.refs
    · obtain ⟨devs, hrun, -, hown'⟩ := retain_ok hown hd
      refine ⟨{ s with lib := { s.lib with devs := devs }, refs := d :: s.refs }, ?_, hown', hlists,
        hdescs, hconfigs⟩
      rw [Call.run, if_pos hd, hrun]
      rfl
    · exact ⟨s, if_neg hd, hown, hlists, hdescs, hconfigs⟩
  | unrefDevice d =>
    by_cases hd : d ∈ s.refs
    · obtain ⟨devs, hrun, -, hown'⟩ := release_ok (hown.perm (List.perm_cons_erase hd))
      refine ⟨{ s with lib := { s.lib with devs := devs }, refs := s.refs.erase d }, ?_, hown',
        hlists, hdescs, hconfigs⟩
      rw [Call.run, if_pos hd, hrun]
      rfl
    · exact ⟨s, if_neg hd, hown, hlists, hdescs, hconfigs⟩

/-- **Any number of calls.** -/
theorem runs_ok (calls : List Call) : ∀ {s : Session} {lists configs : Nat},
    Balanced s lists configs → ∃ s', calls.foldlM Call.run s = .ok s' ∧
      Balanced s' (lists + (calls.map Call.lostLists).sum)
        (configs + (calls.map Call.lostConfigs).sum) := by
  induction calls with
  | nil => exact fun {s} _ _ hs => ⟨s, rfl, hs⟩
  | cons call calls ih =>
    intro s lists configs hs
    obtain ⟨s₁, hrun₁, hs₁⟩ := call.run_ok hs
    obtain ⟨s₂, hrun₂, hs₂⟩ := ih hs₁
    refine ⟨s₂, ?_, ?_⟩
    · rw [List.foldlM_cons]
      show (call.run s >>= _) = _
      rw [hrun₁]
      exact hrun₂
    · rw [List.map_cons, List.sum_cons, List.map_cons, List.sum_cons, ← Nat.add_assoc,
        ← Nat.add_assoc]
      exact hs₂

/-- **The cameras are found**, whatever was called before: the list has the cameras in libusb's
order, `uvc_find_devices` those of them that are asked for, `uvc_find_device` the first of these;
none is an error. -/
theorem cameras_found (calls : List Call) (bus : Bus) (q : Query) :
    ∃ s, calls.foldlM Call.run Session.start = .ok s ∧
      (∃ r lib, uvcGetDeviceList bus s.lib = .ok (r, lib) ∧
        r.map (List.map fun d => (lib.devs.objects d).target) = bus.cameras) ∧
      (∃ r lib, uvcFindDevices bus q s.lib = .ok (r, lib) ∧
        r.map (List.map fun d => (lib.devs.objects d).target) = bus.search q) ∧
      ∃ r lib, uvcFindDevice bus q s.lib = .ok (r, lib) ∧
        r.map (fun d => some (lib.devs.objects d).target) = (bus.search q).map List.head? := by
  obtain ⟨s, hrun, hs⟩ := runs_ok calls balanced_start
  obtain ⟨list, _, hlist, -, -, hcameras⟩ := uvcGetDeviceList_cases hs.owned bus
  obtain ⟨all, _, hall, -, -, hfound⟩ := uvcFindDevices_ok hs.owned bus q
  obtain ⟨one, _, hone, -, -, hfirst⟩ := uvcFindDevice_ok hs.owned bus q
  exact ⟨s, hrun, ⟨list, _, hlist, hcameras⟩, ⟨all, _, hall, hfound⟩, ⟨one, _, hone, hfirst⟩⟩

/-- Five devices: one that cannot be read, a camera, one that only looks like a camera, one in its
maker's own class, and one that is something else. -/
def deskBus : Bus where
  devices := some [0, 1, 2, 3, 4]
  config u := match u with
    | 0 => none
    | 3 => some ⟨[⟨[{ bInterfaceClass := 255, bInterfaceSubClass := 2 }]⟩]⟩
    | 4 => some ⟨[⟨[{ bInterfaceClass := 8, bInterfaceSubClass := 6 }]⟩]⟩
    | _ => some ⟨[⟨[{ bInterfaceClass := 14, bInterfaceSubClass := 1 }]⟩,
        ⟨[{ bInterfaceClass := 14, bInterfaceSubClass := 2 }]⟩]⟩
  desc u := match u with
    | 2 => some ⟨0x199e, 0x8202⟩
    | 3 => some ⟨0x199e, 0x8101⟩
    | _ => some ⟨0x046d, 0x0825⟩
  strings u := match u with
    | 1 => some { serialNumber := some [65, 66] }
    | _ => none

/-- The second device and the fourth are cameras; the second alone has a serial number. -/
example : deskBus.cameras = .ok [1, 3] ∧ deskBus.search ⟨0, 0, some [65, 66]⟩ = .ok [1] ∧
    deskBus.search ⟨0x199e, 0, none⟩ = .ok [3] ∧
    deskBus.search ⟨0x199e, 0x8202, none⟩ = .error Ret.errorNoDevice :=
  ⟨rfl, rfl, rfl, rfl⟩

end Devices
end Context
end LibUvc
