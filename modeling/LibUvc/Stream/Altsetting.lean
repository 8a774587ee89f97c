import LibUvc.Foundation.Search
import LibUvc.Stream.Geometry
import Mathlib.Algebra.Order.Floor.Div

/-!
# Choosing an alternate setting

A streaming interface with several alternate settings is isochronous, and each setting gives the
streaming endpoint packets of another size.  `uvc_stream_start` goes through the settings, in each
of them through the endpoints, takes the first setting whose packets are large enough, and computes
from their size how many of them go into a transfer.

* `chooseAltsetting` is the two loops, with the sizes they compute.  The packet size is a divisor.
* `sized_iff` says when the sizes make sense: a payload size of zero is met by every setting, and by
  the first one in particular, which usually has no endpoint.
* The inner loop stops at the streaming endpoint, or at any endpoint that has a SuperSpeed companion
  descriptor: `AltSetting.stop`.  `carries_iff` says when the setting that is chosen is the one that
  was meant all the same.
* `resolveTransport` is all that `uvc_stream_start` decides before it does anything.
-/

set_option autoImplicit false

namespace LibUvc
namespace Stream

open Checked Descriptor Search

/-! ## The descriptors of libusb -/

/-- `struct libusb_endpoint_descriptor`. -/
structure Endpoint where
  bEndpointAddress : UInt8
  wMaxPacketSize : UInt16 := 0
  /-- `wBytesPerInterval` of the endpoint's SuperSpeed companion descriptor, if it has one. -/
  companion : Option UInt16 := none
  deriving DecidableEq, Repr

/-- `struct libusb_interface_descriptor`, as far as a stream reads it. -/
structure AltSetting where
  bInterfaceNumber : UInt8 := 0
  bAlternateSetting : UInt8 := 0
  endpoint : List Endpoint := []
  deriving DecidableEq, Repr

/-- The bytes of an interval, from `wMaxPacketSize`: [unused:2 (multiplier-1):3 size:11].  The mask
leaves two of the three bits of the multiplier. -/
def Endpoint.packetSize (e : Endpoint) : Nat :=
  (e.wMaxPacketSize &&& 0x07ff).toNat * (((e.wMaxPacketSize >>> 11) &&& 3).toNat + 1)

/-! ## The two loops -/

/-- The inner loop: `endpoint_bytes_per_packet` for one setting. -/
def endpointBytesPerPacket (address : UInt8) : List Endpoint → Nat
  | [] => 0
  | endpoint :: rest =>
    match endpoint.companion with
    | some wBytesPerInterval => wBytesPerInterval.toNat
    | none =>
      if endpoint.bEndpointAddress = address then endpoint.packetSize
      else endpointBytesPerPacket address rest

/-- What the search ends with. -/
structure Choice where
  altsetting : AltSetting
  endpointBytesPerPacket : Nat
  packetsPerTransfer : Nat
  totalTransferSize : Nat
  deriving DecidableEq, Repr

/-- The sizes for a setting that was chosen.  A transfer is at most one frame long, rounded up, and
at most 32 packets. -/
def sizeTransfer (altsetting : AltSetting) (bytes frameSize : Nat) : Checked Choice := do
  let packets ← divideNat (frameSize + bytes - 1) bytes
  let packets := if packets > 32 then 32 else packets
  return ⟨altsetting, bytes, packets, packets * bytes⟩

/-- The outer loop; `need` is `config_bytes_per_packet`.  When it ends without a choice the start
fails with `UVC_ERROR_INVALID_MODE` (`resolveTransport`). -/
def chooseAltsetting (address : UInt8) (need frameSize : Nat) :
    List AltSetting → Checked (Option Choice)
  | [] => return none
  | altsetting :: rest =>
    if endpointBytesPerPacket address altsetting.endpoint ≥ need then do
      let choice ← sizeTransfer altsetting (endpointBytesPerPacket address altsetting.endpoint)
        frameSize
      return some choice
    else chooseAltsetting address need frameSize rest

/-! ## Where the loops stop -/

/-- The bytes of an interval: what the companion says, or else the endpoint itself. -/
def Endpoint.capacity (e : Endpoint) : Nat :=
  match e.companion with
  | some wBytesPerInterval => wBytesPerInterval.toNat
  | none => e.packetSize

/-- The endpoint at which the inner loop stops: the first one that has a companion or the
address. -/
def AltSetting.stop (address : UInt8) (a : AltSetting) : Option Endpoint :=
  a.endpoint.find? fun e => e.companion.isSome || e.bEndpointAddress = address

/-- The packet size that the search works with. -/
def AltSetting.bytes (address : UInt8) (a : AltSetting) : Nat :=
  ((a.stop address).map Endpoint.capacity).getD 0

section Loops

variable {address : UInt8} {need frameSize : Nat}

theorem endpointBytesPerPacket_eq (a : AltSetting) :
    endpointBytesPerPacket address a.endpoint = a.bytes address := by
  rw [AltSetting.bytes, AltSetting.stop]
  induction a.endpoint with
  | nil => rfl
  | cons e rest ih =>
    rw [endpointBytesPerPacket, List.find?_cons]
    cases hcompanion : e.companion with
    | some w => simp [Endpoint.capacity, hcompanion]
    | none =>
      simp only []
      split
      · rename_i haddress
        simp [haddress, Endpoint.capacity, hcompanion]
      · rename_i haddress
        simpa [haddress] using ih

/-- The sizes, when there is something to divide by. -/
theorem sizeTransfer_eq (a : AltSetting) {bytes : Nat} (h : bytes ≠ 0) (frameSize : Nat) :
    sizeTransfer a bytes frameSize =
      .ok ⟨a, bytes, min 32 (frameSize ⌈/⌉ bytes), min 32 (frameSize ⌈/⌉ bytes) * bytes⟩ := by
  have hmin : (if frameSize ⌈/⌉ bytes > 32 then 32 else frameSize ⌈/⌉ bytes) =
      min 32 (frameSize ⌈/⌉ bytes) := by
    split
    · omega
    · omega
  rw [sizeTransfer, divideNat_eq h, ok_bind, ← Nat.ceilDiv_eq_add_pred_div, hmin]
  rfl

/-- **The search**: the first setting whose packets are large enough is the one that counts. -/
theorem chooseAltsetting_eq (alts : List AltSetting) :
    chooseAltsetting address need frameSize alts =
      match alts.find? fun a => need ≤ a.bytes address with
      | none => .ok none
      | some a => (sizeTransfer a (a.bytes address) frameSize).map some := by
  induction alts with
  | nil => rfl
  | cons a rest ih =>
    rw [chooseAltsetting, List.find?_cons, endpointBytesPerPacket_eq]
    by_cases h : need ≤ a.bytes address
    · rw [if_pos h, decide_eq_true h]
      show _ = (sizeTransfer a (a.bytes address) frameSize).map some
      cases sizeTransfer a (a.bytes address) frameSize with
      | error e => rfl
      | ok choice => rfl
    · rw [if_neg h, decide_eq_false h]
      exact ih

end Loops

/-! ## Sizes -/

/-- The search ends without a choice, which is an invalid mode, or with sizes that make sense. -/
def Sized (need frameSize : Nat) : Checked (Option Choice) → Prop
  | .error _ => False
  | .ok none => True
  | .ok (some c) =>
    0 < c.endpointBytesPerPacket ∧ need ≤ c.endpointBytesPerPacket ∧
      1 ≤ c.packetsPerTransfer ∧ c.packetsPerTransfer ≤ 32 ∧
      c.packetsPerTransfer = min 32 (frameSize ⌈/⌉ c.endpointBytesPerPacket) ∧
      c.totalTransferSize = c.packetsPerTransfer * c.endpointBytesPerPacket ∧
      0 < c.totalTransferSize

/-- A chosen setting has sizes that make sense if and only if neither of the two sizes they are
computed from is zero. -/
theorem sized_some {need frameSize : Nat} {a : AltSetting} {bytes : Nat} (h : need ≤ bytes) :
    Sized need frameSize ((sizeTransfer a bytes frameSize).map some) ↔
      bytes ≠ 0 ∧ frameSize ≠ 0 := by
  rcases Nat.eq_zero_or_pos bytes with rfl | hpos
  · refine iff_of_false ?_ fun h => h.1 rfl
    rw [sizeTransfer, divideNat, if_pos rfl]
    exact id
  rw [sizeTransfer_eq a (by omega)]
  constructor
  · rintro ⟨-, -, hone, -⟩
    refine ⟨by omega, ?_⟩
    rintro rfl
    simp at hone
  · rintro ⟨-, hframe⟩
    have hceil : 0 < frameSize ⌈/⌉ bytes := by
      rw [Nat.ceilDiv_eq_add_pred_div]
      exact Nat.div_pos (by omega) hpos
    have hmin : 0 < min 32 (frameSize ⌈/⌉ bytes) := by omega
    exact ⟨hpos, h, hmin, Nat.min_le_left _ _, rfl, rfl, Nat.mul_pos hmin hpos⟩

/-- **When the sizes of an isochronous transfer make sense.**  The search fails with every setting,
or the frames have a size, and so has a payload or else the first setting's packets. -/
theorem sized_iff (address : UInt8) (ctrl : StreamCtrl) (alts : List AltSetting) :
    Sized ctrl.dwMaxPayloadTransferSize.toNat ctrl.dwMaxVideoFrameSize.toNat
        (chooseAltsetting address ctrl.dwMaxPayloadTransferSize.toNat
          ctrl.dwMaxVideoFrameSize.toNat alts) ↔
      (∀ a ∈ alts, a.bytes address < ctrl.dwMaxPayloadTransferSize.toNat) ∨
        ctrl.dwMaxVideoFrameSize ≠ 0 ∧
          (ctrl.dwMaxPayloadTransferSize ≠ 0 ∨ ∀ a ∈ alts.head?, a.bytes address ≠ 0) := by
  have hzero : ∀ {n : UInt32}, n ≠ 0 ↔ n.toNat ≠ 0 := by
    intro n
    rw [ne_eq, ne_eq, ← UInt32.toNat_inj]
    rfl
  rw [hzero, hzero]
  generalize ctrl.dwMaxPayloadTransferSize.toNat = need
  generalize ctrl.dwMaxVideoFrameSize.toNat = frameSize
  rw [chooseAltsetting_eq]
  cases hfind : alts.find? fun a => need ≤ a.bytes address with
  | none =>
    refine iff_of_true trivial (Or.inl fun a ha => ?_)
    simpa using List.find?_eq_none.1 hfind a ha
  | some a =>
    have hreach : need ≤ a.bytes address := by simpa using List.find?_some hfind
    have hmem := List.mem_of_find?_eq_some hfind
    have hno : ¬ ∀ a ∈ alts, a.bytes address < need := fun h => absurd (h a hmem) (by omega)
    rw [or_iff_right hno, and_comm]
    refine (sized_some hreach).trans (and_congr_left fun _ => ?_)
    constructor
    · intro hbytes
      rcases Nat.eq_zero_or_pos need with rfl | hneed
      · -- every setting will do, so the first one is chosen
        right
        obtain ⟨first, rest, rfl⟩ := List.exists_cons_of_ne_nil (List.ne_nil_of_mem hmem)
        obtain rfl : first = a := by simpa using hfind
        simpa using hbytes
      · exact Or.inl (by omega)
    · rintro (hneed | hfirst)
      · omega
      · obtain ⟨first, rest, rfl⟩ := List.exists_cons_of_ne_nil (List.ne_nil_of_mem hmem)
        have hbytes : first.bytes address ≠ 0 := hfirst first rfl
        rcases Nat.eq_zero_or_pos need with rfl | hneed
        · obtain rfl : first = a := by simpa using hfind
          exact hbytes
        · omega

/-! ## All that is decided first -/

/-- How a stream is going to be transferred. -/
inductive Transport where
  | iso (choice : Choice)
  | bulk (size : Nat)
  deriving DecidableEq, Repr

/-- What `uvc_stream_start` decides before it does anything to the device: an error, or the pixel
format and the transfers.  A VideoStreaming interface uses isochronous transfers iff it has multiple
altsettings; `alts` are those of the stream's interface. -/
def resolveTransport (own : StreamingInterface) (ctrl : StreamCtrl) (alts : List AltSetting) :
    Checked (Except Ret (FrameFormat × Transport)) :=
  match resolveFrame own ctrl with
  | .error ret => return .error ret
  | .ok (format, _) =>
    if alts.length > 1 then do
      match ← chooseAltsetting own.bEndpointAddress ctrl.dwMaxPayloadTransferSize.toNat
        ctrl.dwMaxVideoFrameSize.toNat alts with
      | none => return .error Ret.errorInvalidMode
      | some choice => return .ok (format, .iso choice)
    else return .ok (format, .bulk ctrl.dwMaxPayloadTransferSize.toNat)

/-- The errors that the descriptors are to blame for. -/
theorem resolveTransport_error {own : StreamingInterface} {ctrl : StreamCtrl}
    {alts : List AltSetting} {ret : Ret} (h : resolveTransport own ctrl alts = .ok (.error ret)) :
    ret ∈ [Ret.errorInvalidParam, Ret.errorNotSupported, Ret.errorInvalidMode] := by
  rw [resolveTransport, resolveFrame] at h
  split at h
  · rename_i code hframe
    obtain rfl := Except.error.inj (Except.ok.inj h)
    split at hframe
    · obtain rfl := Except.error.inj hframe
      simp
    · split at hframe
      · obtain rfl := Except.error.inj hframe
        simp
      · cases hframe
  · split at h
    · obtain ⟨found, -, hfound⟩ := bind_eq_ok.1 h
      cases found with
      | none =>
        obtain rfl := Except.error.inj (Except.ok.inj hfound)
        simp
      | some choice => cases hfound
    · cases h

/-- A camera with one frame, whose bit rate is zero. -/
def silentInfo (bufferSize : UInt32) : DeviceInfo where
  ctrlIf := { bcdUVC := 0x0100 }
  streamIfs := [{
    bInterfaceNumber := 1
    bEndpointAddress := 0x81
    formatDescs := [{
      bDescriptorSubtype := .formatUncompressed
      bFormatIndex := 1
      guidFormat := formatGuid .yuyv
      bBitsPerPixel := 16
      frameDescs := [{
        bDescriptorSubtype := .frameUncompressed
        bFrameIndex := 1
        dwMaxVideoFrameBufferSize := bufferSize
        dwDefaultFrameInterval := 333333
        bFrameIntervalType := 1
        intervals := [333333, 0] }] }] }]

/-- The device answers a GET_CUR with the indices of that frame, a payload size, and zeros. -/
def zeroAnswer (payload : UInt32) (r : ControlRequest) : Transfer :=
  ⟨r.length, [0, 0, 1, 1] ++ List.replicate 18 0 ++ intToDw payload⟩

/-- An altsetting without endpoints, as every isochronous interface has, and one with some. -/
def twoSettings (endpoint : List Endpoint) : List AltSetting :=
  [{}, { bAlternateSetting := 1, endpoint := endpoint }]

/-- Two negotiated blocks.  In the first the payload size is zero, also after the fall-back: it is
met by the first altsetting, which has no endpoint, and the frame size is divided by zero.  In the
second the frame size is zero: the transfers have no packets. -/
theorem sized_fails :
    (∃ ctrl, probeStreamCtrl (zeroAnswer 0) (silentInfo 614400)
          { bFormatIndex := 1, bFrameIndex := 1, bInterfaceNumber := 1 } = (Ret.success, ctrl) ∧
        chooseAltsetting 0x81 ctrl.dwMaxPayloadTransferSize.toNat ctrl.dwMaxVideoFrameSize.toNat
          (twoSettings [⟨0x81, 1024, none⟩]) = .error .divisionByZero ∧
        ¬ Sized ctrl.dwMaxPayloadTransferSize.toNat ctrl.dwMaxVideoFrameSize.toNat
          (chooseAltsetting 0x81 ctrl.dwMaxPayloadTransferSize.toNat ctrl.dwMaxVideoFrameSize.toNat
            (twoSettings [⟨0x81, 1024, none⟩]))) ∧
      ∃ ctrl, probeStreamCtrl (zeroAnswer 1000) (silentInfo 0)
          { bFormatIndex := 1, bFrameIndex := 1, bInterfaceNumber := 1
            dwMaxPayloadTransferSize := 1000 } = (Ret.success, ctrl) ∧
        chooseAltsetting 0x81 ctrl.dwMaxPayloadTransferSize.toNat ctrl.dwMaxVideoFrameSize.toNat
          (twoSettings [⟨0x81, 1024, none⟩]) =
            .ok (some ⟨⟨0, 1, [⟨0x81, 1024, none⟩]⟩, 1024, 0, 0⟩) ∧
        ¬ Sized ctrl.dwMaxPayloadTransferSize.toNat ctrl.dwMaxVideoFrameSize.toNat
          (chooseAltsetting 0x81 ctrl.dwMaxPayloadTransferSize.toNat ctrl.dwMaxVideoFrameSize.toNat
            (twoSettings [⟨0x81, 1024, none⟩])) := by
  refine ⟨⟨_, rfl, rfl, id⟩, ⟨_, rfl, rfl, ?_⟩⟩
  rintro ⟨-, -, hone, -⟩
  exact absurd hone (by decide)

/-! ## The endpoint that was meant -/

section Carries

variable (address : UInt8) (need : Nat)

/-- The setting has the streaming endpoint, with packets that are large enough. -/
def AltSetting.Fits (a : AltSetting) : Prop :=
  ∃ e ∈ a.endpoint, e.bEndpointAddress = address ∧ need ≤ e.capacity

instance : DecidablePred (AltSetting.Fits address need) := fun a =>
  inferInstanceAs (Decidable (∃ e ∈ a.endpoint, _))

/-- The search ends with the first setting that has the streaming endpoint with packets that are
large enough, and works with their size; if there is no such setting, it fails. -/
def Carries (alts : List AltSetting) : Checked (Option Choice) → Prop
  | .error _ => False
  | .ok none => ∀ a ∈ alts, ¬ a.Fits address need
  | .ok (some c) =>
    (alts.find? fun a => a.Fits address need) = some c.altsetting ∧
      ∃ e ∈ c.altsetting.endpoint, e.bEndpointAddress = address ∧ need ≤ e.capacity ∧
        c.endpointBytesPerPacket = e.capacity

/-- The endpoint at which the inner loop stops speaks for the wrong one.  Either it has another
address: its packets are then large enough, though none of that size are the streaming endpoint's,
or they are not and hide some that are.  Or it has the right address, and there is a second one with
that address whose packets would have been large enough. -/
def AltSetting.Misread (a : AltSetting) : Prop :=
  match a.stop address with
  | none => False
  | some e =>
    if e.bEndpointAddress ≠ address ∧ need ≤ e.capacity then
      ∀ f ∈ a.endpoint, f.bEndpointAddress = address → f.capacity ≠ e.capacity
    else e.capacity < need ∧ a.Fits address need

variable {address need}

/-- Where the inner loop stops. -/
theorem stop_eq_some {a : AltSetting} {e : Endpoint} (h : a.stop address = some e) :
    e ∈ a.endpoint ∧ a.bytes address = e.capacity := by
  rw [AltSetting.bytes, h]
  exact ⟨List.mem_of_find?_eq_some h, rfl⟩

/-- A setting in which the inner loop does not stop has no streaming endpoint. -/
theorem not_fits_of_stop {a : AltSetting} (h : a.stop address = none) :
    ¬ a.Fits address need := by
  rintro ⟨e, he, haddress, -⟩
  have hno := List.find?_eq_none.1 h e he
  simp [haddress] at hno

theorem bytes_of_stop {a : AltSetting} (h : a.stop address = none) : a.bytes address = 0 := by
  rw [AltSetting.bytes, h]
  rfl

/-- A setting that is passed over. -/
theorem misread_of_lt {a : AltSetting} (h : a.bytes address < need) :
    a.Misread address need ↔ a.Fits address need := by
  rw [AltSetting.Misread]
  cases hstop : a.stop address with
  | none => exact iff_of_false id (not_fits_of_stop hstop)
  | some e =>
    have hlt : e.capacity < need := (stop_eq_some hstop).2 ▸ h
    simp only []
    rw [if_neg fun hge => absurd hge.2 (by omega)]
    exact and_iff_right hlt

/-- A setting that is chosen. -/
theorem misread_of_ge {a : AltSetting} (hneed : 0 < need) (h : need ≤ a.bytes address) :
    ¬ a.Misread address need ↔ ∃ e ∈ a.endpoint, e.bEndpointAddress = address ∧
      need ≤ e.capacity ∧ a.bytes address = e.capacity := by
  rw [AltSetting.Misread]
  cases hstop : a.stop address with
  | none => exact absurd (bytes_of_stop hstop) (by omega)
  | some e =>
    obtain ⟨hmem, hbytes⟩ := stop_eq_some hstop
    have hle : need ≤ e.capacity := hbytes ▸ h
    simp only []
    rw [hbytes]
    split
    · constructor
      · intro hno
        push Not at hno
        obtain ⟨f, hf, haddress, hsame⟩ := hno
        exact ⟨f, hf, haddress, hsame ▸ hle, hsame.symm⟩
      · rintro ⟨f, hf, haddress, -, hsame⟩ hno
        exact hno f hf haddress hsame.symm
    · rename_i hown
      have haddress : e.bEndpointAddress = address := by
        by_contra hne
        exact hown ⟨hne, hle⟩
      exact iff_of_true (fun hlt => absurd hlt.1 (by omega)) ⟨e, hmem, haddress, hle, rfl⟩

/-- The setting that is chosen has packets that are large enough. -/
theorem le_bytes_of_choose {frameSize : Nat} {alts : List AltSetting} {c : Choice}
    (h : chooseAltsetting address need frameSize alts = .ok (some c)) :
    need ≤ c.altsetting.bytes address := by
  rw [chooseAltsetting_eq] at h
  cases hfind : alts.find? fun a => need ≤ a.bytes address with
  | none =>
    rw [hfind] at h
    cases h
  | some a =>
    rw [hfind] at h
    have hreach : need ≤ a.bytes address := by simpa using List.find?_some hfind
    have hsame : c.altsetting = a := by
      change (sizeTransfer a (a.bytes address) frameSize).map some = .ok (some c) at h
      rw [sizeTransfer, divideNat] at h
      split at h
      · cases h
      · obtain rfl := Option.some.inj (Except.ok.inj h)
        rfl
    rwa [hsame]

/-- The search, from a setting that is chosen. -/
theorem carries_chosen {frameSize : Nat} (hneed : 0 < need) {a : AltSetting}
    (rest : List AltSetting) (h : need ≤ a.bytes address) :
    Carries address need (a :: rest) (chooseAltsetting address need frameSize (a :: rest)) ↔
      ¬ a.Misread address need := by
  rw [misread_of_ge hneed h, chooseAltsetting, endpointBytesPerPacket_eq, if_pos h,
    sizeTransfer_eq a (by omega)]
  constructor
  · rintro ⟨-, hown⟩
    exact hown
  · rintro ⟨e, he, haddress, hle, hsame⟩
    have hfits : a.Fits address need := ⟨e, he, haddress, hle⟩
    exact ⟨by rw [List.find?_cons, decide_eq_true hfits], e, he, haddress, hle, hsame⟩

/-- The search, from a setting that is passed over. -/
theorem carries_passed {frameSize : Nat} {a : AltSetting} (rest : List AltSetting)
    (h : a.bytes address < need) :
    Carries address need (a :: rest) (chooseAltsetting address need frameSize (a :: rest)) ↔
      ¬ a.Misread address need ∧
        Carries address need rest (chooseAltsetting address need frameSize rest) := by
  rw [misread_of_lt h, chooseAltsetting, endpointBytesPerPacket_eq, if_neg (by omega)]
  cases hchoose : chooseAltsetting address need frameSize rest with
  | error e => exact iff_of_false id fun hc => hc.2
  | ok found =>
    cases found with
    | none => exact List.forall_mem_cons
    | some c =>
      by_cases hfits : a.Fits address need
      · refine iff_of_false ?_ fun hc => hc.1 hfits
        rintro ⟨hfirst, -⟩
        rw [List.find?_cons, decide_eq_true hfits] at hfirst
        -- what was chosen is not what was passed over
        have hreach := le_bytes_of_choose hchoose
        rw [← Option.some.inj hfirst] at hreach
        omega
      · rw [and_iff_right hfits, Carries, Carries, List.find?_cons, decide_eq_false hfits]

end Carries

/-- **When the chosen altsetting carries the streaming endpoint.**  For payloads that have a size,
the search does what it is for if and only if it comes to no setting in which the inner loop stops
at an endpoint that speaks for the wrong one. -/
theorem carries_iff (address : UInt8) {ctrl : StreamCtrl}
    (hneed : 0 < ctrl.dwMaxPayloadTransferSize) (alts : List AltSetting) :
    Carries address ctrl.dwMaxPayloadTransferSize.toNat alts
        (chooseAltsetting address ctrl.dwMaxPayloadTransferSize.toNat
          ctrl.dwMaxVideoFrameSize.toNat alts) ↔
      ∀ a, Reached (fun b => b.bytes address < ctrl.dwMaxPayloadTransferSize.toNat) alts a →
        ¬ a.Misread address ctrl.dwMaxPayloadTransferSize.toNat := by
  have hpos : 0 < ctrl.dwMaxPayloadTransferSize.toNat := UInt32.lt_iff_toNat_lt.1 hneed
  generalize ctrl.dwMaxPayloadTransferSize.toNat = need at hpos ⊢
  induction alts with
  | nil =>
    have hnone : Carries address need [] (.ok none) := fun a ha => absurd ha (by simp)
    exact iff_of_true hnone fun a ha => absurd ha not_reached_nil
  | cons a rest ih =>
    rw [forall_reached_cons]
    rcases Nat.lt_or_ge (a.bytes address) need with hlt | hge
    · rw [carries_passed rest hlt]
      exact and_congr_right fun _ => ih.trans ⟨fun h _ => h, fun h => h hlt⟩
    · rw [carries_chosen hpos rest hge]
      exact (and_iff_left fun hlt => absurd hlt (by omega)).symm

/-- A SuperSpeed camera with one endpoint. -/
theorem carries_single :
    Carries 0x81 1500 (twoSettings [⟨0x81, 1024, some 2048⟩])
      (chooseAltsetting 0x81 1500 614400 (twoSettings [⟨0x81, 1024, some 2048⟩])) := by
  have hneed : 0 < ({ dwMaxPayloadTransferSize := 1500, dwMaxVideoFrameSize := 614400 } :
      StreamCtrl).dwMaxPayloadTransferSize := by decide
  refine (carries_iff 0x81 hneed (twoSettings [⟨0x81, 1024, some 2048⟩])).2 ?_
  rw [twoSettings, forall_reached_cons, misread_of_lt (by decide), forall_reached_cons,
    misread_of_ge (by decide) (by decide)]
  exact ⟨by decide, fun _ => ⟨by decide, fun h => absurd h (by decide)⟩⟩

/-- The endpoint in front of the streaming endpoint has a companion too: its packets are taken for
the streaming endpoint's, which are too small. -/
theorem carries_foreign_companion :
    chooseAltsetting 0x81 1500 614400
        (twoSettings [⟨0x82, 1024, some 2048⟩, ⟨0x81, 1024, some 1024⟩]) =
      .ok (some ⟨⟨0, 1, [⟨0x82, 1024, some 2048⟩, ⟨0x81, 1024, some 1024⟩]⟩, 2048, 32, 65536⟩) ∧
    ¬ Carries 0x81 1500 (twoSettings [⟨0x82, 1024, some 2048⟩, ⟨0x81, 1024, some 1024⟩])
      (chooseAltsetting 0x81 1500 614400
        (twoSettings [⟨0x82, 1024, some 2048⟩, ⟨0x81, 1024, some 1024⟩])) := by
  refine ⟨rfl, ?_⟩
  rintro ⟨hfirst, -⟩
  exact absurd hfirst (by decide)

end Stream
end LibUvc
