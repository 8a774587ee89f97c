import LibUvc.Control.Accessors
import LibUvc.Stream.Negotiation

/-!
# Controls on the wire

The functions of `ctrl.c`, and what the getters and setters of `ctrl-gen.c` have in common: each
fills in a setup packet, makes one transfer to the default endpoint and looks at the count that
comes back.  A unit is addressed by its id and the number of the control interface, a control of it
by its selector.

* `StandardControl` is a control as `ctrl-gen.c` has it: the fields of its buffer carry the proof
  that they fill it without overlap.
* `getControl` and `setControl` are the bodies of its two functions.  The buffer is a variable on
  the stack, so both are given what happens to be on the stack.
* `no_stack_byte` says that none of that is ever sent or handed out, and that only a missing unit
  makes an accessor fault; `uvc_get_ctrl_len` is the one that can hand out what was on the stack.

The device is a parameter throughout: a transfer is answered with a count and data and may change
the state of the device in any way.
-/

set_option autoImplicit false

namespace LibUvc
namespace Control

open Checked CInt Descriptor LibUvc.Stream

/-! ## Setup packets -/

def reqTypeSet : UInt8 := 0x21

def reqTypeGet : UInt8 := 0xa1

/-- The arguments of `libusb_control_transfer`; `data` is what is sent. -/
structure Setup where
  requestType : UInt8
  request : ReqCode
  value : UInt16
  index : UInt16
  length : UInt16
  data : List UInt8 := []
  deriving DecidableEq, Repr

/-- What the device goes by: `wIndex` and `wValue`. -/
structure Address where
  index : UInt16
  value : UInt16
  deriving DecidableEq, Repr

def Setup.address (r : Setup) : Address := ⟨r.index, r.value⟩

/-- `unit << 8 | devh->info->ctrl_if.bInterfaceNumber` and `ctrl << 8`. -/
def controlAddress (info : DeviceInfo) (unit ctrl : UInt8) : Address where
  index := unit.toUInt16 <<< 8 ||| info.ctrlIf.bInterfaceNumber.toUInt16
  value := ctrl.toUInt16 <<< 8

/-- Distinct units and selectors are distinct addresses. -/
theorem controlAddress_inj {info : DeviceInfo} {unit ctrl unit' ctrl' : UInt8}
    (h : controlAddress info unit ctrl = controlAddress info unit' ctrl') :
    unit = unit' ∧ ctrl = ctrl' := by
  obtain ⟨hindex, hvalue⟩ := Address.mk.inj h
  have hpair : ∀ b0 b1 c0 c1 : UInt8, LibUvc.swToShort b0 b1 = LibUvc.swToShort c0 c1 →
      b1 = c1 := by
    intro b0 b1 c0 c1 heq
    have hbytes := congrArg LibUvc.shortToSw heq
    rw [shortToSw_swToShort, shortToSw_swToShort] at hbytes
    exact (List.cons.inj (List.cons.inj hbytes).2).1
  constructor
  · refine hpair info.ctrlIf.bInterfaceNumber unit info.ctrlIf.bInterfaceNumber unit' ?_
    rw [LibUvc.swToShort, LibUvc.swToShort, UInt16.or_comm, hindex, UInt16.or_comm]
  · refine hpair 0 ctrl 0 ctrl' ?_
    rw [LibUvc.swToShort, LibUvc.swToShort, hvalue]

/-- A buffer after a GET transfer: the bytes received, and what was there before behind them. -/
def fill (buf : List UInt8) (t : Transfer) : List UInt8 :=
  let got := (t.data.take t.ret.toNat).take buf.length
  got ++ buf.drop got.length

theorem length_fill (buf : List UInt8) (t : Transfer) : (fill buf t).length = buf.length := by
  simp only [fill, List.length_append, List.length_take, List.length_drop]
  omega

/-- A transfer that fills the buffer leaves nothing of what was in it. -/
theorem fill_full {buf : List UInt8} {t : Transfer} (hret : buf.length ≤ t.ret.toNat)
    (hdata : t.ret.toNat ≤ t.data.length) : fill buf t = t.data.take buf.length := by
  simp only [fill, List.take_take, Nat.min_eq_left hret]
  rw [List.drop_eq_nil_of_le (by rw [List.length_take]; omega), List.append_nil]

/-- What a transfer does not reach is as it was. -/
theorem byteAt_fill_of_le {buf : List UInt8} {t : Transfer} {i : Nat} (hret : t.ret.toNat ≤ i)
    (hi : i < buf.length) : byteAt (fill buf t) i = byteAt buf i := by
  have hlen : (fill buf t).length = buf.length := length_fill buf t
  rw [byteAt_eq_getElem (hlen ▸ hi), byteAt_eq_getElem hi]
  simp only [fill]
  rw [List.getElem_append_right (by simp only [List.length_take]; omega), List.getElem_drop]
  congr 1
  simp only [List.length_take]
  omega

/-! ## Any unit -/

section Device

variable {σ : Type} (usb : σ → Setup → Transfer × σ) (info : DeviceInfo)

/-- The request for the length of a control. -/
def getLenSetup (unit ctrl : UInt8) : Setup where
  requestType := reqTypeGet
  request := .getLen
  value := (controlAddress info unit ctrl).value
  index := (controlAddress info unit ctrl).index
  length := 2

/-- `uvc_get_ctrl_len`. -/
def uvcGetCtrlLen (unit ctrl : UInt8) (stack : List UInt8) (s : σ) : Checked (Int × σ) := do
  let (t, s) := usb s (getLenSetup info unit ctrl)
  if t.ret < 0 then return (t.ret, s)
  else do
    let len ← readSw (fill stack t) 0
    return (len.toNat, s)

/-- `uvc_get_ctrl`, with what comes in.  `len` is an `int` that libusb takes as a `uint16_t`. -/
def uvcGetCtrl (unit ctrl : UInt8) (len : Int) (reqCode : ReqCode) (s : σ) : Transfer × σ :=
  usb s ⟨reqTypeGet, reqCode, (controlAddress info unit ctrl).value,
    (controlAddress info unit ctrl).index, UInt16.ofInt len, []⟩

/-- `uvc_set_ctrl` for a buffer of `data.length` bytes. -/
def uvcSetCtrl (unit ctrl : UInt8) (data : List UInt8) (s : σ) : Ret × σ :=
  let length := UInt16.ofNat data.length
  let (t, s) := usb s ⟨reqTypeSet, .setCur, (controlAddress info unit ctrl).value,
    (controlAddress info unit ctrl).index, length, data.take length.toNat⟩
  (t.ret, s)

/-! ## The interface itself -/

/-- `UVC_VC_VIDEO_POWER_MODE_CONTROL`. -/
def videoPowerModeControl : UInt8 := 0x01

/-- `uvc_get_power_mode`, with `*mode` if it is written. -/
def uvcGetPowerMode (reqCode : ReqCode) (stack : UInt8) (s : σ) :
    Checked ((Ret × Option UInt8) × σ) := do
  let (t, s) := usb s ⟨reqTypeGet, reqCode, videoPowerModeControl.toUInt16 <<< 8,
    info.ctrlIf.bInterfaceNumber.toUInt16, 1, []⟩
  if t.ret = 1 then do
    let modeChar ← readByte (fill [stack] t) 0
    return ((Ret.success, some modeChar), s)
  else return ((t.ret, none), s)

/-- `uvc_set_power_mode`; the mode is cut down to a byte. -/
def uvcSetPowerMode (mode : Int) (s : σ) : Ret × σ :=
  let (t, s) := usb s ⟨reqTypeSet, .setCur, videoPowerModeControl.toUInt16 <<< 8,
    info.ctrlIf.bInterfaceNumber.toUInt16, 1, [toByte mode]⟩
  if t.ret = 1 then (Ret.success, s) else (t.ret, s)

theorem powerMode_address :
    (⟨info.ctrlIf.bInterfaceNumber.toUInt16, videoPowerModeControl.toUInt16 <<< 8⟩ : Address) =
      controlAddress info 0 videoPowerModeControl := by
  rw [controlAddress]
  simp

/-! ## Units and terminals -/

/-- `UVC_ITT_CAMERA`. -/
def ittCamera : UInt16 := 0x0201

/-- `uvc_get_camera_terminal`. -/
def uvcGetCameraTerminal : Option InputTerminal :=
  info.ctrlIf.inputTermDescs.find? fun term => term.wTerminalType = ittCamera

/-- `uvc_get_processing_units`, which is a list to its callers and a unit to the accessors. -/
def uvcGetProcessingUnits : Option ProcessingUnit := info.ctrlIf.processingUnitDescs.head?

/-- `uvc_get_selector_units`. -/
def uvcGetSelectorUnits : Option SelectorUnit := info.ctrlIf.selectorUnitDescs.head?

/-- The units with standard controls. -/
inductive UnitKind where
  | cameraTerminal
  | processingUnit
  | selectorUnit
  deriving DecidableEq, Repr

/-- The id that an accessor takes out of the descriptor, without a look at whether there is one. -/
def unitId : UnitKind → Checked UInt8
  | .cameraTerminal =>
    match uvcGetCameraTerminal info with
    | some term => return term.bTerminalID
    | none => .error .nullPointer
  | .processingUnit =>
    match uvcGetProcessingUnits info with
    | some unit => return unit.bUnitID
    | none => .error .nullPointer
  | .selectorUnit =>
    match uvcGetSelectorUnits info with
    | some unit => return unit.bUnitID
    | none => .error .nullPointer

end Device

/-! ## The generated accessors -/

/-- The fields fill the buffer, do not overlap and have different names. -/
structure Layout (length : Nat) (fields : List IntField) : Prop where
  laid : LaidOut length fields
  covered : ∀ i < length, ∃ field ∈ fields,
    field.position ≤ i ∧ i < field.position + field.length
  named : (fields.map (·.name)).Nodup
  short : length < 2 ^ 16

instance (length : Nat) (fields : List IntField) : Decidable (LaidOut length fields) :=
  decidable_of_iff ((∀ field ∈ fields, field.position + field.length ≤ length) ∧
    fields.Pairwise fun a b =>
      a.position + a.length ≤ b.position ∨ b.position + b.length ≤ a.position)
    ⟨fun h => ⟨h.1, h.2⟩, fun h => ⟨h.inside, h.apart⟩⟩

instance (length : Nat) (fields : List IntField) : Decidable (Layout length fields) :=
  decidable_of_iff (LaidOut length fields ∧
      (∀ i < length, ∃ field ∈ fields, field.position ≤ i ∧ i < field.position + field.length) ∧
      (fields.map (·.name)).Nodup ∧ length < 2 ^ 16)
    ⟨fun h => ⟨h.1, h.2.1, h.2.2.1, h.2.2.2⟩, fun h => ⟨h.laid, h.covered, h.named, h.short⟩⟩

/-- A control of `ctrl-gen.c`. -/
structure StandardControl where
  unit : UnitKind
  selector : UInt8
  length : Nat
  fields : List IntField
  layout : Layout length fields := by decide

/-- The setup packet of an accessor. -/
def StandardControl.setup (c : StandardControl) (info : DeviceInfo) (id : UInt8)
    (requestType : UInt8) (request : ReqCode) (data : List UInt8) : Setup where
  requestType := requestType
  request := request
  value := (controlAddress info id c.selector).value
  index := (controlAddress info id c.selector).index
  length := UInt16.ofNat c.length
  data := data

section Accessors

variable {σ : Type} (usb : σ → Setup → Transfer × σ) (info : DeviceInfo) (c : StandardControl)

/-- `uvc_get_<control>`, with the values it stores if it stores any. -/
def getControl (reqCode : ReqCode) (stack : List UInt8) (s : σ) :
    Checked ((Ret × Option (List (String × Int))) × σ) := do
  let id ← unitId info c.unit
  let (t, s) := usb s (c.setup info id reqTypeGet reqCode [])
  if t.ret = c.length then do
    let values ← runUnpack (fill stack t) (c.fields.map (·.unpack))
    return ((Ret.success, some values), s)
  else return ((t.ret, none), s)

/-- `uvc_set_<control>`. -/
def setControl (args : String → Int) (stack : List UInt8) (s : σ) : Checked (Ret × σ) := do
  let data ← runPack args (c.fields.flatMap (·.pack)) stack
  let id ← unitId info c.unit
  let (t, s) := usb s (c.setup info id reqTypeSet .setCur data)
  return (if t.ret = c.length then Ret.success else t.ret, s)

/-- The layout of the control, as `standard-units.yaml` would have it. -/
def StandardControl.spec : ControlSpec where
  length := c.length
  fields := c.fields.map fun field =>
    (field.name, ⟨"int", field.position, field.length, field.signed⟩)
  nodup := by
    rw [List.map_map]
    exact c.layout.named

theorem loadFields_spec (fields : List IntField) :
    loadFields (fields.map fun field =>
      (field.name, (⟨"int", field.position, field.length, field.signed⟩ : FieldSpec))) =
        .ok fields := by
  induction fields with
  | nil => rfl
  | cons field fields ih =>
    have hfield : loadField field.name ⟨"int", field.position, field.length, field.signed⟩ =
        .ok field := by
      rw [loadField, if_pos rfl, IntField.init, dif_pos field.length_ok]
    rw [List.map_cons, loadFields, hfield, ih]
    rfl

/-- The bodies of the accessors are what the generator makes of the layout. -/
theorem genCtrl_spec :
    genCtrl c.spec = .ok ⟨c.fields.map (·.param), c.fields.map (·.unpack),
      c.fields.flatMap (·.pack)⟩ := by
  rw [genCtrl, StandardControl.spec, loadFields_spec]
  rfl

/-! ## Nothing from the stack -/

theorem ext_byteAt {l m : List UInt8} (hlen : l.length = m.length)
    (h : ∀ i < l.length, byteAt l i = byteAt m i) : l = m := by
  refine List.ext_getElem hlen fun i hl hm => ?_
  rw [← byteAt_eq_getElem hl, ← byteAt_eq_getElem hm, h i hl]

variable {c}

/-- The setter sends the arguments and nothing else. -/
theorem runPack_covered (args : String → Int) {stack stack' : List UInt8}
    (hs : stack.length = c.length) (hs' : stack'.length = c.length) :
    ∃ sent, runPack args (c.fields.flatMap (·.pack)) stack = .ok sent ∧
      runPack args (c.fields.flatMap (·.pack)) stack' = .ok sent ∧ sent.length = c.length := by
  obtain ⟨sent, hsent, hlen, hbytes⟩ := runPack_fields c.layout.laid args hs
  obtain ⟨sent', hsent', hlen', hbytes'⟩ := runPack_fields c.layout.laid args hs'
  have heq : sent = sent' := by
    refine ext_byteAt (hlen.trans hlen'.symm) fun i hi => ?_
    obtain ⟨field, hfield, hle, hlt⟩ := c.layout.covered i (hlen ▸ hi)
    have hk : i - field.position < field.length := by omega
    have hi' : field.position + (i - field.position) = i := by omega
    rw [← hi', hbytes field hfield _ hk, hbytes' field hfield _ hk]
  exact ⟨sent, hsent, heq ▸ hsent', hlen⟩

theorem unpack_safe {field : IntField} {data : List UInt8}
    (hin : field.position + field.length ≤ data.length) :
    ∃ value, field.unpack.source.eval
      (fun i => do
        let b ← readByte data i
        return ofByte b) = .ok value := by
  have hread : ∀ k < field.length, (Expr.var (field.position + k)).eval
      (fun i => do
        let b ← readByte data i
        return ofByte b) = .ok (ofByte (byteAt data (field.position + k))) := by
    intro k hk
    rw [Expr.eval, readByte_eq (by omega)]
    rfl
  rw [IntField.unpack]
  rcases field.length_ok with h | h | h
  · rw [if_pos h]
    exact ⟨_, hread 0 (by omega)⟩
  · rw [if_neg (by omega), if_pos h]
    exact ⟨_, eval_word (b := fun k => byteAt data (field.position + k))
      (x := fun k => field.position + k) fun k hk => hread k (by omega)⟩
  · rw [if_neg (by omega), if_neg (by omega)]
    exact ⟨_, eval_dword (b := fun k => byteAt data (field.position + k))
      (x := fun k => field.position + k) fun k hk => hread k (by omega)⟩

/-- The getter takes its values out of any buffer of the right length. -/
theorem runUnpack_safe {data : List UInt8} (hdata : data.length = c.length) :
    Safe (runUnpack data (c.fields.map (·.unpack))) := by
  have hin : ∀ field ∈ c.fields, field.position + field.length ≤ data.length := by
    intro field hfield
    rw [hdata]
    exact c.layout.laid.inside field hfield
  generalize c.fields = fields at hin
  induction fields with
  | nil => exact ⟨[], rfl⟩
  | cons field fields ih =>
    obtain ⟨hfield, hfields⟩ := List.forall_mem_cons.1 hin
    obtain ⟨values, hvalues⟩ := ih hfields
    obtain ⟨value, hvalue⟩ := unpack_safe hfield
    rw [List.map_cons, runUnpack, hvalue, ok_bind, hvalues]
    exact ⟨_, rfl⟩

/-- What `uvc_get_ctrl_len` returns is free of the stack exactly when the transfer fails or brings
both bytes. -/
theorem getCtrlLen_free_iff (unit ctrl : UInt8) (s : σ)
    (hdata : (usb s (getLenSetup info unit ctrl)).1.ret.toNat ≤
      (usb s (getLenSetup info unit ctrl)).1.data.length) :
    (∀ stack stack' : List UInt8, stack.length = 2 → stack'.length = 2 →
      uvcGetCtrlLen usb info unit ctrl stack s = uvcGetCtrlLen usb info unit ctrl stack' s) ↔
        (usb s (getLenSetup info unit ctrl)).1.ret < 0 ∨
          2 ≤ (usb s (getLenSetup info unit ctrl)).1.ret := by
  simp only [uvcGetCtrlLen]
  generalize usb s (getLenSetup info unit ctrl) = answer at hdata ⊢
  obtain ⟨t, s'⟩ := answer
  simp only [] at hdata ⊢
  have hread : ∀ stack : List UInt8, stack.length = 2 → readSw (fill stack t) 0 =
      .ok (LibUvc.swToShort (byteAt (fill stack t) 0) (byteAt (fill stack t) 1)) := by
    intro stack hstack
    have hlen := length_fill stack t
    rw [readSw, readByte_eq (by omega), ok_bind, readByte_eq (by omega)]
    rfl
  constructor
  · intro h
    by_contra hret
    -- the second byte is still that of the stack
    have hsame := h [0, 0] [0, 1] rfl rfl
    rw [if_neg (by omega), if_neg (by omega), hread _ rfl, hread _ rfl, ok_bind, ok_bind] at hsame
    have hvalue := (Prod.mk.inj (Except.ok.inj hsame)).1
    rw [byteAt_fill_of_le (i := 1) (by omega) (by simp),
      byteAt_fill_of_le (i := 1) (by omega) (by simp)] at hvalue
    have h0 := toNat_swToShort (byteAt (fill [0, 0] t) 0) 0
    have h1 := toNat_swToShort (byteAt (fill [0, 1] t) 0) 1
    have hb0 := (byteAt (fill [0, 0] t) 0).toNat_lt
    have hb1 := (byteAt (fill [0, 1] t) 0).toNat_lt
    have hvalue' : (LibUvc.swToShort (byteAt (fill [0, 0] t) 0) 0).toNat =
        (LibUvc.swToShort (byteAt (fill [0, 1] t) 0) 1).toNat := Int.ofNat.inj hvalue
    rw [h0, h1] at hvalue'
    simp only [UInt8.toNat_zero, UInt8.toNat_one] at hvalue'
    omega
  · rintro hret stack stack' hs hs'
    rcases hret with hret | hret
    · rw [if_pos hret, if_pos hret]
    · rw [if_neg (by omega), if_neg (by omega), fill_full (by omega) hdata,
        fill_full (by omega) hdata, hs, hs']

/-- **Nothing from the stack is sent or handed out.**  An accessor makes a fault exactly when the
device has no unit of the kind, whatever the device answers; otherwise neither what the setter sends
nor what the getter hands out depends on what its buffer held before. -/
theorem no_stack_byte (usb : σ → Setup → Transfer × σ)
    (hdata : ∀ s r, r.requestType = reqTypeGet → (usb s r).1.ret.toNat ≤ (usb s r).1.data.length)
    (info : DeviceInfo) (c : StandardControl) (s : σ) (stack stack' : List UInt8)
    (hs : stack.length = c.length) (hs' : stack'.length = c.length) :
    (∀ args, setControl usb info c args stack s = setControl usb info c args stack' s ∧
      (Safe (setControl usb info c args stack s) ↔ Safe (unitId info c.unit))) ∧
    ∀ reqCode, getControl usb info c reqCode stack s = getControl usb info c reqCode stack' s ∧
      (Safe (getControl usb info c reqCode stack s) ↔ Safe (unitId info c.unit)) := by
  refine ⟨fun args => ?_, fun reqCode => ?_⟩
  · obtain ⟨sent, hsent, hsent', -⟩ := runPack_covered args hs hs'
    rw [setControl, setControl, hsent, hsent', ok_bind]
    refine ⟨rfl, ?_⟩
    cases unitId info c.unit with
    | error e => simp
    | ok id => simp
  · rw [getControl, getControl]
    cases unitId info c.unit with
    | error e => simp
    | ok id =>
      simp only [ok_bind, safe_ok, iff_true]
      have hd := hdata s (c.setup info id reqTypeGet reqCode []) rfl
      generalize usb s (c.setup info id reqTypeGet reqCode []) = answer at hd ⊢
      obtain ⟨t, s'⟩ := answer
      simp only [] at hd ⊢
      split
      · rename_i hret
        rw [fill_full (by omega) hd, fill_full (by omega) hd, hs, hs']
        have hlength : (t.data.take c.length).length = c.length := by
          rw [List.length_take]
          omega
        obtain ⟨values, hvalues⟩ := runUnpack_safe hlength
        rw [hvalues]
        simp
      · simp

end Accessors

/-- The brightness of a camera that answers everything with the same byte: what is sent and what is
read do not show the two different stacks. -/
theorem no_stack_byte_brightness :
    let usb : UInt8 → Setup → Transfer × UInt8 := fun s r =>
      (⟨r.length.toNat, List.replicate r.length.toNat s⟩, s)
    let info : DeviceInfo := { ctrlIf := { processingUnitDescs := [⟨2, 1, 0⟩] } }
    let c : StandardControl :=
      ⟨.processingUnit, 0x02, 2, [⟨"brightness", 0, 2, true, Or.inr (Or.inl rfl)⟩], by decide⟩
    setControl usb info c (fun _ => -64) [0xaa, 0xaa] 7 =
        setControl usb info c (fun _ => -64) [0x55, 0x55] 7 ∧
      getControl usb info c .getCur [0xaa, 0xaa] 7 =
        getControl usb info c .getCur [0x55, 0x55] 7 ∧
      Safe (getControl usb info c .getCur [0xaa, 0xaa] 7) := by
  intro usb info c
  obtain ⟨hset, hget⟩ := no_stack_byte usb
    (fun s r _ => by simp [usb]) info c 7 [0xaa, 0xaa] [0x55, 0x55] rfl rfl
  exact ⟨(hset fun _ => -64).1, (hget .getCur).1, (hget .getCur).2.2 ⟨2, rfl⟩⟩

end Control
end LibUvc
