import LibUvc.Control.Requests

/-!
# The standard controls

The forty controls of `ctrl-gen.c`, each with its getter and its setter, and what holds of all of
them together: their layouts are in order (every `StandardControl` proves that of itself), and no
two of them are sent to the same address, as long as the device gives its units different ids.
-/

set_option autoImplicit false

namespace LibUvc
namespace Control

open Checked CInt Descriptor LibUvc.Stream

/-! ## Fields -/

/-- A field by the type of its parameter. -/
def uint8 (name : String) (position : Nat) : IntField := ⟨name, position, 1, false, Or.inl rfl⟩

def int8 (name : String) (position : Nat) : IntField := ⟨name, position, 1, true, Or.inl rfl⟩

def uint16 (name : String) (position : Nat) : IntField :=
  ⟨name, position, 2, false, Or.inr (Or.inl rfl)⟩

def int16 (name : String) (position : Nat) : IntField :=
  ⟨name, position, 2, true, Or.inr (Or.inl rfl)⟩

def uint32 (name : String) (position : Nat) : IntField :=
  ⟨name, position, 4, false, Or.inr (Or.inr rfl)⟩

def int32 (name : String) (position : Nat) : IntField :=
  ⟨name, position, 4, true, Or.inr (Or.inr rfl)⟩

/-! ## The camera terminal -/

/-- `uvc_get_scanning_mode` and `uvc_set_scanning_mode`. -/
def scanningMode : StandardControl where
  unit := .cameraTerminal
  selector := 0x01
  length := 1
  fields := [uint8 "mode" 0]

/-- `uvc_get_ae_mode` and `uvc_set_ae_mode`. -/
def aeMode : StandardControl where
  unit := .cameraTerminal
  selector := 0x02
  length := 1
  fields := [uint8 "mode" 0]

/-- `uvc_get_ae_priority` and `uvc_set_ae_priority`. -/
def aePriority : StandardControl where
  unit := .cameraTerminal
  selector := 0x03
  length := 1
  fields := [uint8 "priority" 0]

/-- `uvc_get_exposure_abs` and `uvc_set_exposure_abs`. -/
def exposureAbs : StandardControl where
  unit := .cameraTerminal
  selector := 0x04
  length := 4
  fields := [uint32 "time" 0]

/-- `uvc_get_exposure_rel` and `uvc_set_exposure_rel`. -/
def exposureRel : StandardControl where
  unit := .cameraTerminal
  selector := 0x05
  length := 1
  fields := [int8 "step" 0]

/-- `uvc_get_focus_abs` and `uvc_set_focus_abs`. -/
def focusAbs : StandardControl where
  unit := .cameraTerminal
  selector := 0x06
  length := 2
  fields := [uint16 "focus" 0]

/-- `uvc_get_focus_rel` and `uvc_set_focus_rel`. -/
def focusRel : StandardControl where
  unit := .cameraTerminal
  selector := 0x07
  length := 2
  fields := [int8 "focus_rel" 0, uint8 "speed" 1]

/-- `uvc_get_focus_simple_range` and `uvc_set_focus_simple_range`. -/
def focusSimpleRange : StandardControl where
  unit := .cameraTerminal
  selector := 0x12
  length := 1
  fields := [uint8 "focus" 0]

/-- `uvc_get_focus_auto` and `uvc_set_focus_auto`. -/
def focusAuto : StandardControl where
  unit := .cameraTerminal
  selector := 0x08
  length := 1
  fields := [uint8 "state" 0]

/-- `uvc_get_iris_abs` and `uvc_set_iris_abs`. -/
def irisAbs : StandardControl where
  unit := .cameraTerminal
  selector := 0x09
  length := 2
  fields := [uint16 "iris" 0]

/-- `uvc_get_iris_rel` and `uvc_set_iris_rel`. -/
def irisRel : StandardControl where
  unit := .cameraTerminal
  selector := 0x0a
  length := 1
  fields := [uint8 "iris_rel" 0]

/-- `uvc_get_zoom_abs` and `uvc_set_zoom_abs`. -/
def zoomAbs : StandardControl where
  unit := .cameraTerminal
  selector := 0x0b
  length := 2
  fields := [uint16 "focal_length" 0]

/-- `uvc_get_zoom_rel` and `uvc_set_zoom_rel`. -/
def zoomRel : StandardControl where
  unit := .cameraTerminal
  selector := 0x0c
  length := 3
  fields := [int8 "zoom_rel" 0, uint8 "digital_zoom" 1, uint8 "speed" 2]

/-- `uvc_get_pantilt_abs` and `uvc_set_pantilt_abs`. -/
def pantiltAbs : StandardControl where
  unit := .cameraTerminal
  selector := 0x0d
  length := 8
  fields := [int32 "pan" 0, int32 "tilt" 4]

/-- `uvc_get_pantilt_rel` and `uvc_set_pantilt_rel`. -/
def pantiltRel : StandardControl where
  unit := .cameraTerminal
  selector := 0x0e
  length := 4
  fields := [int8 "pan_rel" 0, uint8 "pan_speed" 1, int8 "tilt_rel" 2, uint8 "tilt_speed" 3]

/-- `uvc_get_roll_abs` and `uvc_set_roll_abs`. -/
def rollAbs : StandardControl where
  unit := .cameraTerminal
  selector := 0x0f
  length := 2
  fields := [int16 "roll" 0]

/-- `uvc_get_roll_rel` and `uvc_set_roll_rel`. -/
def rollRel : StandardControl where
  unit := .cameraTerminal
  selector := 0x10
  length := 2
  fields := [int8 "roll_rel" 0, uint8 "speed" 1]

/-- `uvc_get_privacy` and `uvc_set_privacy`. -/
def privacy : StandardControl where
  unit := .cameraTerminal
  selector := 0x11
  length := 1
  fields := [uint8 "privacy" 0]

/-- `uvc_get_digital_window` and `uvc_set_digital_window`. -/
def digitalWindow : StandardControl where
  unit := .cameraTerminal
  selector := 0x13
  length := 12
  fields := [
    uint16 "window_top" 0, uint16 "window_left" 2, uint16 "window_bottom" 4,
    uint16 "window_right" 6, uint16 "num_steps" 8, uint16 "num_steps_units" 10]

/-- `uvc_get_digital_roi` and `uvc_set_digital_roi`. -/
def digitalRoi : StandardControl where
  unit := .cameraTerminal
  selector := 0x14
  length := 10
  fields := [
    uint16 "roi_top" 0, uint16 "roi_left" 2, uint16 "roi_bottom" 4, uint16 "roi_right" 6,
    uint16 "auto_controls" 8]

/-! ## The processing unit -/

/-- `uvc_get_backlight_compensation` and `uvc_set_backlight_compensation`. -/
def backlightCompensation : StandardControl where
  unit := .processingUnit
  selector := 0x01
  length := 2
  fields := [uint16 "backlight_compensation" 0]

/-- `uvc_get_brightness` and `uvc_set_brightness`. -/
def brightness : StandardControl where
  unit := .processingUnit
  selector := 0x02
  length := 2
  fields := [int16 "brightness" 0]

/-- `uvc_get_contrast` and `uvc_set_contrast`. -/
def contrast : StandardControl where
  unit := .processingUnit
  selector := 0x03
  length := 2
  fields := [uint16 "contrast" 0]

/-- `uvc_get_contrast_auto` and `uvc_set_contrast_auto`. -/
def contrastAuto : StandardControl where
  unit := .processingUnit
  selector := 0x13
  length := 1
  fields := [uint8 "contrast_auto" 0]

/-- `uvc_get_gain` and `uvc_set_gain`. -/
def gain : StandardControl where
  unit := .processingUnit
  selector := 0x04
  length := 2
  fields := [uint16 "gain" 0]

/-- `uvc_get_power_line_frequency` and `uvc_set_power_line_frequency`. -/
def powerLineFrequency : StandardControl where
  unit := .processingUnit
  selector := 0x05
  length := 1
  fields := [uint8 "power_line_frequency" 0]

/-- `uvc_get_hue` and `uvc_set_hue`. -/
def hue : StandardControl where
  unit := .processingUnit
  selector := 0x06
  length := 2
  fields := [int16 "hue" 0]

/-- `uvc_get_hue_auto` and `uvc_set_hue_auto`. -/
def hueAuto : StandardControl where
  unit := .processingUnit
  selector := 0x10
  length := 1
  fields := [uint8 "hue_auto" 0]

/-- `uvc_get_saturation` and `uvc_set_saturation`. -/
def saturation : StandardControl where
  unit := .processingUnit
  selector := 0x07
  length := 2
  fields := [uint16 "saturation" 0]

/-- `uvc_get_sharpness` and `uvc_set_sharpness`. -/
def sharpness : StandardControl where
  unit := .processingUnit
  selector := 0x08
  length := 2
  fields := [uint16 "sharpness" 0]

/-- `uvc_get_gamma` and `uvc_set_gamma`. -/
def gamma : StandardControl where
  unit := .processingUnit
  selector := 0x09
  length := 2
  fields := [uint16 "gamma" 0]

/-- `uvc_get_white_balance_temperature` and `uvc_set_white_balance_temperature`. -/
def whiteBalanceTemperature : StandardControl where
  unit := .processingUnit
  selector := 0x0a
  length := 2
  fields := [uint16 "temperature" 0]

/-- `uvc_get_white_balance_temperature_auto` and `uvc_set_white_balance_temperature_auto`. -/
def whiteBalanceTemperatureAuto : StandardControl where
  unit := .processingUnit
  selector := 0x0b
  length := 1
  fields := [uint8 "temperature_auto" 0]

/-- `uvc_get_white_balance_component` and `uvc_set_white_balance_component`. -/
def whiteBalanceComponent : StandardControl where
  unit := .processingUnit
  selector := 0x0c
  length := 4
  fields := [uint16 "blue" 0, uint16 "red" 2]

/-- `uvc_get_white_balance_component_auto` and `uvc_set_white_balance_component_auto`. -/
def whiteBalanceComponentAuto : StandardControl where
  unit := .processingUnit
  selector := 0x0d
  length := 1
  fields := [uint8 "white_balance_component_auto" 0]

/-- `uvc_get_digital_multiplier` and `uvc_set_digital_multiplier`. -/
def digitalMultiplier : StandardControl where
  unit := .processingUnit
  selector := 0x0e
  length := 2
  fields := [uint16 "multiplier_step" 0]

/-- `uvc_get_digital_multiplier_limit` and `uvc_set_digital_multiplier_limit`. -/
def digitalMultiplierLimit : StandardControl where
  unit := .processingUnit
  selector := 0x0f
  length := 2
  fields := [uint16 "multiplier_step" 0]

/-- `uvc_get_analog_video_standard` and `uvc_set_analog_video_standard`. -/
def analogVideoStandard : StandardControl where
  unit := .processingUnit
  selector := 0x11
  length := 1
  fields := [uint8 "video_standard" 0]

/-- `uvc_get_analog_video_lock_status` and `uvc_set_analog_video_lock_status`. -/
def analogVideoLockStatus : StandardControl where
  unit := .processingUnit
  selector := 0x12
  length := 1
  fields := [uint8 "status" 0]

/-! ## The selector unit -/

/-- `uvc_get_input_select` and `uvc_set_input_select`. -/
def inputSelect : StandardControl where
  unit := .selectorUnit
  selector := 0x01
  length := 1
  fields := [uint8 "selector" 0]

/-- All of them, in the order of `ctrl-gen.c`. -/
def standardControls : List StandardControl :=
  [scanningMode, aeMode, aePriority, exposureAbs, exposureRel, focusAbs, focusRel, focusSimpleRange,
    focusAuto, irisAbs, irisRel, zoomAbs, zoomRel, pantiltAbs, pantiltRel, rollAbs, rollRel,
    privacy, digitalWindow, digitalRoi, backlightCompensation, brightness, contrast, contrastAuto,
    gain, powerLineFrequency, hue, hueAuto, saturation, sharpness, gamma, whiteBalanceTemperature,
    whiteBalanceTemperatureAuto, whiteBalanceComponent, whiteBalanceComponentAuto,
    digitalMultiplier, digitalMultiplierLimit, analogVideoStandard, analogVideoLockStatus,
    inputSelect]

/-- No two controls of one unit have the same selector. -/
theorem standardControls_nodup : (standardControls.map fun c => (c.unit, c.selector)).Nodup := by
  decide

theorem eq_of_selector {c d : StandardControl} (hc : c ∈ standardControls)
    (hd : d ∈ standardControls) (hunit : c.unit = d.unit) (hselector : c.selector = d.selector) :
    c = d :=
  List.inj_on_of_nodup_map standardControls_nodup hc hd (Prod.ext hunit hselector)

/-! ## Reading back -/

/-- The device gives its units different ids, and none of them is 0, which stands for the control
interface. -/
structure UnitsApart (info : DeviceInfo) : Prop where
  distinct : ∀ u v id, unitId info u = .ok id → unitId info v = .ok id → u = v
  nonzero : ∀ u, unitId info u ≠ .ok 0

/-- The transfer changes a control. -/
def Setup.Writes (r : Setup) : Prop := r.requestType = reqTypeSet ∧ r.request = .setCur

/-- A device that keeps what it is sent.  `held` is the current value of each of its controls.  A
transfer is made in full or fails, and one that fails may have changed the control it was for. -/
structure Keeps {σ : Type} (usb : σ → Setup → Transfer × σ) (held : σ → Address → List UInt8) :
    Prop where
  whole : ∀ s r, (usb s r).1.ret < 0 ∨ (usb s r).1.ret = r.length.toNat
  stores : ∀ s r, r.Writes → 0 ≤ (usb s r).1.ret → held (usb s r).2 r.address = r.data
  answers : ∀ s r, r.requestType = reqTypeGet → r.request = .getCur → 0 ≤ (usb s r).1.ret →
    (usb s r).1.data = held s r.address
  frame : ∀ s r a, ¬ (r.Writes ∧ r.address = a) → held (usb s r).2 a = held s a

/-- What an application can ask of the controls. -/
inductive Request where
  | getStandard (c : StandardControl) (reqCode : ReqCode) (stack : List UInt8)
  | setStandard (c : StandardControl) (args : String → Int) (stack : List UInt8)
  | getCtrl (unit ctrl : UInt8) (len : Int) (reqCode : ReqCode)
  | setCtrl (unit ctrl : UInt8) (data : List UInt8)
  | getCtrlLen (unit ctrl : UInt8) (stack : List UInt8)
  | getPowerMode (reqCode : ReqCode) (stack : UInt8)
  | setPowerMode (mode : Int)

section Device

variable {σ : Type} (usb : σ → Setup → Transfer × σ) (info : DeviceInfo)

/-- The device after a request, whatever the application was told. -/
def Request.perform (s : σ) : Request → Checked σ
  | .getStandard c reqCode stack => do
    let out ← getControl usb info c reqCode stack s
    return out.2
  | .setStandard c args stack => do
    let out ← setControl usb info c args stack s
    return out.2
  | .getCtrl unit ctrl len reqCode => return (uvcGetCtrl usb info unit ctrl len reqCode s).2
  | .setCtrl unit ctrl data => return (uvcSetCtrl usb info unit ctrl data s).2
  | .getCtrlLen unit ctrl stack => do
    let out ← uvcGetCtrlLen usb info unit ctrl stack s
    return out.2
  | .getPowerMode reqCode stack => do
    let out ← uvcGetPowerMode usb info reqCode stack s
    return out.2
  | .setPowerMode mode => return (uvcSetPowerMode usb info mode s).2

/-- Requests one after another. -/
def performAll (s : σ) : List Request → Checked σ
  | [] => return s
  | r :: rs => do
    let s ← r.perform usb info s
    performAll s rs

/-- The request is not there to set `c`. -/
def Request.Spares (c : StandardControl) : Request → Prop
  | .setStandard d _ _ => d ∈ standardControls ∧ d ≠ c
  | .setCtrl unit ctrl _ => unitId info c.unit ≠ .ok unit ∨ ctrl ≠ c.selector
  | _ => True

end Device

section Keeping

variable {σ : Type} {usb : σ → Setup → Transfer × σ} {info : DeviceInfo}
  {held : σ → Address → List UInt8} {c : StandardControl} {id : UInt8}

/-- A GET request changes nothing. -/
theorem Keeps.reads (hk : Keeps usb held) {s : σ} {r : Setup} (h : r.requestType = reqTypeGet)
    {a : Address} : held (usb s r).2 a = held s a := by
  refine hk.frame _ _ _ fun hw => ?_
  exact absurd (h.symm.trans hw.1.1) (by decide)

/-- An accessor that succeeds has found its unit and made its transfer. -/
theorem setControl_inv {args : String → Int} {stack : List UInt8} {s s' : σ} {ret : Ret}
    (h : setControl usb info c args stack s = .ok (ret, s')) :
    ∃ data id, runPack args (c.fields.flatMap (·.pack)) stack = .ok data ∧
      unitId info c.unit = .ok id ∧
      s' = (usb s (c.setup info id reqTypeSet .setCur data)).2 ∧
      ret = if (usb s (c.setup info id reqTypeSet .setCur data)).1.ret = c.length then Ret.success
        else (usb s (c.setup info id reqTypeSet .setCur data)).1.ret := by
  rw [setControl] at h
  simp only [bind_eq_ok] at h
  obtain ⟨data, hdata, id, hid, h⟩ := h
  obtain ⟨hret, hs⟩ := Prod.mk.inj (Except.ok.inj h)
  exact ⟨data, id, hdata, hid, hs.symm, hret.symm⟩

theorem getControl_inv {reqCode : ReqCode} {stack : List UInt8} {s s' : σ} {ret : Ret}
    {values : Option (List (String × Int))}
    (h : getControl usb info c reqCode stack s = .ok ((ret, values), s')) :
    ∃ id, unitId info c.unit = .ok id ∧
      s' = (usb s (c.setup info id reqTypeGet reqCode [])).2 ∧
      ((usb s (c.setup info id reqTypeGet reqCode [])).1.ret = c.length ∧ ret = Ret.success ∧
          (∃ out, values = some out ∧
            runUnpack (fill stack (usb s (c.setup info id reqTypeGet reqCode [])).1)
              (c.fields.map (·.unpack)) = .ok out) ∨
        (usb s (c.setup info id reqTypeGet reqCode [])).1.ret ≠ c.length ∧
          ret = (usb s (c.setup info id reqTypeGet reqCode [])).1.ret ∧ values = none) := by
  rw [getControl, bind_eq_ok] at h
  obtain ⟨id, hid, h⟩ := h
  refine ⟨id, hid, ?_⟩
  generalize usb s (c.setup info id reqTypeGet reqCode []) = answer at h ⊢
  obtain ⟨t, s''⟩ := answer
  simp only [] at h ⊢
  split at h
  · rename_i hret
    obtain ⟨out, hout, h⟩ := bind_eq_ok.1 h
    obtain ⟨hrv, hs⟩ := Prod.mk.inj (Except.ok.inj h)
    obtain ⟨rfl, rfl⟩ := Prod.mk.inj hrv
    exact ⟨hs.symm, Or.inl ⟨hret, rfl, out, rfl, hout⟩⟩
  · rename_i hret
    obtain ⟨hrv, hs⟩ := Prod.mk.inj (Except.ok.inj h)
    obtain ⟨rfl, rfl⟩ := Prod.mk.inj hrv
    exact ⟨hs.symm, Or.inr ⟨hret, rfl, rfl⟩⟩

/-- What the device keeps for a control does not change under a request that is not for it. -/
theorem Keeps.spared (hk : Keeps usb held) (hapart : UnitsApart info) (hc : c ∈ standardControls)
    (hid : unitId info c.unit = .ok id) {r : Request} (hr : r.Spares info c) {s s' : σ}
    (hs : r.perform usb info s = .ok s') :
    held s' (controlAddress info id c.selector) = held s (controlAddress info id c.selector) := by
  cases r with
  | getStandard d reqCode stack =>
    rw [Request.perform, bind_eq_ok] at hs
    obtain ⟨⟨out, s''⟩, hget, hs⟩ := hs
    obtain rfl := Except.ok.inj hs
    obtain ⟨id', -, rfl, -⟩ := getControl_inv hget
    exact hk.reads rfl
  | setStandard d args stack =>
    rw [Request.perform, bind_eq_ok] at hs
    obtain ⟨⟨out, s''⟩, hset, hs⟩ := hs
    obtain rfl := Except.ok.inj hs
    obtain ⟨data, id', -, hid', rfl, -⟩ := setControl_inv hset
    refine hk.frame _ _ _ fun hw => hr.2 ?_
    obtain ⟨hsame, hselector⟩ := controlAddress_inj hw.2
    exact eq_of_selector hr.1 hc (hapart.distinct _ _ _ hid' (hsame ▸ hid)) hselector
  | getCtrl unit ctrl len reqCode =>
    obtain rfl := Except.ok.inj hs
    exact hk.reads rfl
  | setCtrl unit ctrl data =>
    obtain rfl := Except.ok.inj hs
    refine hk.frame _ _ _ fun hw => ?_
    obtain ⟨hsame, hselector⟩ := controlAddress_inj hw.2
    rcases hr with hr | hr
    · exact hr (hsame ▸ hid)
    · exact hr hselector
  | getCtrlLen unit ctrl stack =>
    rw [Request.perform, bind_eq_ok] at hs
    obtain ⟨out, hlen, hs⟩ := hs
    obtain rfl := Except.ok.inj hs
    have hstate : out.2 = (usb s (getLenSetup info unit ctrl)).2 := by
      rw [uvcGetCtrlLen] at hlen
      simp only [] at hlen
      split at hlen
      · rw [← Except.ok.inj hlen]
      · obtain ⟨len, -, hlen⟩ := bind_eq_ok.1 hlen
        rw [← Except.ok.inj hlen]
    rw [hstate]
    exact hk.reads rfl
  | getPowerMode reqCode stack =>
    rw [Request.perform, bind_eq_ok] at hs
    obtain ⟨out, hmode, hs⟩ := hs
    obtain rfl := Except.ok.inj hs
    rw [uvcGetPowerMode] at hmode
    simp only [] at hmode
    split at hmode
    · obtain ⟨mode, -, hmode⟩ := bind_eq_ok.1 hmode
      rw [← Except.ok.inj hmode]
      exact hk.reads rfl
    · rw [← Except.ok.inj hmode]
      exact hk.reads rfl
  | setPowerMode mode =>
    have hstate : s' = (usb s ⟨reqTypeSet, .setCur, videoPowerModeControl.toUInt16 <<< 8,
        info.ctrlIf.bInterfaceNumber.toUInt16, 1, [toByte mode]⟩).2 := by
      obtain rfl := Except.ok.inj hs
      rw [uvcSetPowerMode]
      simp only []
      split <;> rfl
    rw [hstate]
    refine hk.frame _ _ _ fun hw => hapart.nonzero c.unit ?_
    -- the power mode is addressed as if it were a control of a unit 0
    have hzero := (powerMode_address info).symm.trans hw.2
    rw [(controlAddress_inj hzero).1]
    exact hid

theorem Keeps.spared_all (hk : Keeps usb held) (hapart : UnitsApart info)
    (hc : c ∈ standardControls) (hid : unitId info c.unit = .ok id) {rs : List Request}
    (hrs : ∀ r ∈ rs, r.Spares info c) {s s' : σ} (hs : performAll usb info s rs = .ok s') :
    held s' (controlAddress info id c.selector) = held s (controlAddress info id c.selector) := by
  induction rs generalizing s with
  | nil =>
    obtain rfl := Except.ok.inj hs
    rfl
  | cons r rs ih =>
    obtain ⟨hr, hrs⟩ := List.forall_mem_cons.1 hrs
    rw [performAll, bind_eq_ok] at hs
    obtain ⟨u, hu, hs⟩ := hs
    rw [ih hrs hs, hk.spared hapart hc hid hr hu]

/-- **A control reads as it was set.**  On a device that keeps what it is sent and tells its units
apart, a getter that is called after the setter of the same control succeeded either reports the
error of its transfer or gives the arguments back, whatever was asked of the other controls, of
extension units or of the interface in between and however that ended. -/
theorem control_reads_back (hk : Keeps usb held) (hapart : UnitsApart info)
    (hc : c ∈ standardControls) (args : String → Int)
    (hargs : ∀ field ∈ c.fields, field.userType.Has (args field.name))
    (stack stack' : List UInt8) (hstack : stack.length = c.length)
    (hstack' : stack'.length = c.length) (s s₁ s₂ s₃ : σ)
    (hset : setControl usb info c args stack s = .ok (Ret.success, s₁)) (rs : List Request)
    (hspares : ∀ r ∈ rs, r.Spares info c) (hrs : performAll usb info s₁ rs = .ok s₂) (ret : Ret)
    (values : Option (List (String × Int)))
    (hget : getControl usb info c .getCur stack' s₂ = .ok ((ret, values), s₃)) :
    ret < 0 ∧ values = none ∨
      ret = Ret.success ∧
        values = some (c.fields.map fun field => (field.name, args field.name)) := by
  have hlength : ∀ i t q data, ((c.setup info i t q data).length.toNat : Int) = c.length := by
    intro i t q data
    rw [StandardControl.setup, UInt16.toNat_ofNat_of_lt' c.layout.short]
  obtain ⟨sent, id, hsent, hid, rfl, hret⟩ := setControl_inv hset
  have hstored : held (usb s (c.setup info id reqTypeSet .setCur sent)).2
      (controlAddress info id c.selector) = sent := by
    refine hk.stores s (c.setup info id reqTypeSet .setCur sent) ⟨rfl, rfl⟩ ?_
    rcases hk.whole s (c.setup info id reqTypeSet .setCur sent) with hneg | hfull
    · rw [if_neg (by omega)] at hret
      exact le_of_eq hret
    · rw [hfull]
      exact Int.natCast_nonneg _
  obtain ⟨data, hpack, hlen, hbytes⟩ := runPack_fields c.layout.laid args hstack
  obtain rfl := Except.ok.inj (hpack.symm.trans hsent)
  obtain ⟨id', hid', -, hcases⟩ := getControl_inv hget
  obtain rfl := Except.ok.inj (hid.symm.trans hid')
  rcases hcases with ⟨hfull, rfl, out, rfl, hout⟩ | ⟨hshort, rfl, rfl⟩
  · refine Or.inr ⟨rfl, ?_⟩
    have hanswer := hk.answers s₂ (c.setup info id reqTypeGet .getCur []) rfl rfl
      (by rw [hfull]; exact Int.natCast_nonneg _)
    have hkept : held s₂ (controlAddress info id c.selector) = data :=
      (hk.spared_all hapart hc hid hspares hrs).trans hstored
    rw [show (c.setup info id reqTypeGet .getCur []).address =
      controlAddress info id c.selector from rfl, hkept] at hanswer
    rw [fill_full (by omega) (by rw [hanswer]; omega), hanswer, hstack', ← hlen,
      List.take_length] at hout
    rw [← Except.ok.inj (hout.symm.trans (runUnpack_fields
      (fun field hfield => hlen ▸ c.layout.laid.inside field hfield) hbytes hargs))]
  · refine Or.inl ⟨?_, rfl⟩
    rcases hk.whole s₂ (c.setup info id reqTypeGet .getCur []) with hneg | hwhole
    · exact hneg
    · exact absurd (hwhole.trans (hlength ..)) hshort

end Keeping

/-- A device that keeps the bytes of each control, and refuses what has the wrong length. -/
def shelf (s : Address → List UInt8) (r : Setup) : Transfer × (Address → List UInt8) :=
  if r.requestType = reqTypeSet ∧ r.request = .setCur ∧ r.data.length = r.length.toNat then
    (⟨r.length.toNat, []⟩, Function.update s r.address r.data)
  else if r.requestType = reqTypeGet ∧ r.request = .getCur ∧
      (s r.address).length = r.length.toNat then
    (⟨r.length.toNat, s r.address⟩, s)
  else (⟨-9, []⟩, s)

theorem shelf_keeps : Keeps shelf fun s => s := by
  refine ⟨fun s r => ?_, fun s r hw hret => ?_, fun s r ht hr hret => ?_, fun s r a hw => ?_⟩
  · rw [shelf]
    split
    · exact Or.inr rfl
    · split
      · exact Or.inr rfl
      · exact Or.inl (show (-9 : Int) < 0 by decide)
  · rw [shelf] at hret ⊢
    split at hret
    · rename_i h
      rw [if_pos h]
      exact Function.update_self ..
    · rename_i h
      rw [if_neg (fun hg => absurd (hw.1.symm.trans hg.1) (by decide))] at hret
      exact absurd hret (show ¬ (0 : Int) ≤ -9 by decide)
  · rw [shelf] at hret ⊢
    rw [if_neg (fun hg => absurd (ht.symm.trans hg.1) (by decide))] at hret ⊢
    split at hret
    · rename_i h
      rw [if_pos h]
    · exact absurd hret (show ¬ (0 : Int) ≤ -9 by decide)
  · rw [shelf]
    split
    · rename_i h
      exact Function.update_of_ne (fun heq => hw ⟨⟨h.1, h.2.1⟩, heq.symm⟩) _ _
    · split <;> rfl

/-- A camera with a terminal and a processing unit. -/
def twoUnits : DeviceInfo where
  ctrlIf := {
    inputTermDescs := [⟨1, ittCamera, 0, 0, 0, 0⟩]
    processingUnitDescs := [⟨2, 1, 0⟩] }

theorem twoUnits_apart : UnitsApart twoUnits := by
  refine ⟨fun u v id hu hv => ?_, fun u hu => ?_⟩
  · cases u <;> cases v <;>
      first
      | rfl
      | cases hu
        exact absurd (Except.ok.inj hv) (by decide)
      | cases hu
        exact absurd hv (by simp [unitId, uvcGetSelectorUnits, twoUnits])
      | exact absurd hu (by simp [unitId, uvcGetSelectorUnits, twoUnits])
  · cases u with
    | cameraTerminal => exact absurd (Except.ok.inj hu) (by decide)
    | processingUnit => exact absurd (Except.ok.inj hu) (by decide)
    | selectorUnit => exact absurd hu (by simp [unitId, uvcGetSelectorUnits, twoUnits])

/-- The camera is turned, zoomed and made brighter, and still looks where it was told to. -/
theorem control_reads_back_panned :
    let args := fun name => if name = "pan" then -36000 else 7200
    ∃ s₁ s₂ s₃ ret values, setControl shelf twoUnits pantiltAbs args (List.replicate 8 0xaa)
        (fun _ => []) = .ok (Ret.success, s₁) ∧
      performAll shelf twoUnits s₁ [.setStandard zoomAbs (fun _ => 3) [0, 0],
        .setStandard brightness (fun _ => -1) [0, 0], .setPowerMode 0x0b,
        .getStandard scanningMode .getCur [0], .setCtrl 3 0x0d [1, 2]] = .ok s₂ ∧
      getControl shelf twoUnits pantiltAbs .getCur (List.replicate 8 0x55) s₂ =
        .ok ((ret, values), s₃) ∧
      (ret < 0 ∧ values = none ∨
        ret = Ret.success ∧ values = some [("pan", -36000), ("tilt", 7200)]) := by
  intro args
  obtain ⟨s₁, s₂, ⟨⟨ret, values⟩, s₃⟩, hset, hrun, hget⟩ : ∃ s₁ s₂ out,
      setControl shelf twoUnits pantiltAbs args (List.replicate 8 0xaa) (fun _ => []) =
        .ok (Ret.success, s₁) ∧
      performAll shelf twoUnits s₁ [.setStandard zoomAbs (fun _ => 3) [0, 0],
        .setStandard brightness (fun _ => -1) [0, 0], .setPowerMode 0x0b,
        .getStandard scanningMode .getCur [0], .setCtrl 3 0x0d [1, 2]] = .ok s₂ ∧
      getControl shelf twoUnits pantiltAbs .getCur (List.replicate 8 0x55) s₂ = .ok out :=
    ⟨_, _, _, rfl, rfl, rfl⟩
  refine ⟨s₁, s₂, s₃, ret, values, hset, hrun, hget, control_reads_back shelf_keeps twoUnits_apart
    (c := pantiltAbs) (by simp [standardControls]) args (by decide) (List.replicate 8 0xaa)
    (List.replicate 8 0x55) rfl rfl _ s₁ s₂ s₃ hset _ ?_ hrun ret values hget⟩
  have hother : ∀ c : StandardControl, c.selector ≠ pantiltAbs.selector → c ≠ pantiltAbs :=
    fun c h heq => h (congrArg _ heq)
  intro r hr
  simp only [List.mem_cons, List.not_mem_nil, or_false] at hr
  rcases hr with rfl | rfl | rfl | rfl | rfl
  · exact ⟨by simp [standardControls], hother _ (by decide)⟩
  · exact ⟨by simp [standardControls], hother _ (by decide)⟩
  · trivial
  · trivial
  · exact Or.inl fun h => absurd (Except.ok.inj h) (by decide)

end Control
end LibUvc
