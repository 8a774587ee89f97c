import LibUvc.Descriptor.Lookup
import LibUvc.Stream.Control

/-!
# Negotiating a control block

`uvc_query_stream_ctrl` moves a `uvc_stream_ctrl_t` over the wire: a SET_CUR request carries the
block to the device, a GET request brings one back.  The wire format has 26 bytes, and 34 from
UVC 1.1 on; the buffer in between always has 34, cleared at the start.

* `encodeStreamCtrl` and `decodeStreamCtrl` are the two directions.  They undo each other up to the
  clock frequency, which is taken from the descriptors, the size fields, which are fixed up when
  they come in as zero, and the fields that a 26-byte block does not have
  (`streamCtrl_round_trip`).
* `probeStreamCtrl` is the negotiation: set, get, compare.  A control transfer answers with an error
  code or with the number of bytes moved, and `uvc_query_stream_ctrl` takes every number for a
  success: `probe_meansAgreement_iff` says when the negotiation means what it says all the same.

The device is a function from requests to answers, which may be any function at all.
-/

set_option autoImplicit false

namespace LibUvc
namespace Stream

open Checked Descriptor

/-! ## The wire format -/

/-- The length of a block: `devh->info->ctrl_if.bcdUVC >= 0x0110` decides. -/
def blockLen (info : DeviceInfo) : Nat := if info.ctrlIf.bcdUVC ≥ 0x0110 then 34 else 26

/-- `buf` as `uvc_query_stream_ctrl` prepares it for a SET transfer. -/
def encodeStreamCtrl (len : Nat) (ctrl : StreamCtrl) : List UInt8 :=
  shortToSw ctrl.bmHint ++ [ctrl.bFormatIndex, ctrl.bFrameIndex] ++ intToDw ctrl.dwFrameInterval ++
    shortToSw ctrl.wKeyFrameRate ++ shortToSw ctrl.wPFrameRate ++ shortToSw ctrl.wCompQuality ++
    shortToSw ctrl.wCompWindowSize ++ shortToSw ctrl.wDelay ++ intToDw ctrl.dwMaxVideoFrameSize ++
    intToDw ctrl.dwMaxPayloadTransferSize ++
    if len = 34 then
      intToDw ctrl.dwClockFrequency ++
        [ctrl.bmFramingInfo, ctrl.bPreferredVersion, ctrl.bMinVersion, ctrl.bMaxVersion]
    else List.replicate 8 0

/-- The fields of `ctrl` that a GET transfer overwrites with what is in `buf`. -/
def decodeStreamCtrl (len : Nat) (buf : List UInt8) (ctrl : StreamCtrl) : StreamCtrl :=
  let ctrl := { ctrl with
    bmHint := swAt buf 0
    bFormatIndex := byteAt buf 2
    bFrameIndex := byteAt buf 3
    dwFrameInterval := dwAt buf 4
    wKeyFrameRate := swAt buf 8
    wPFrameRate := swAt buf 10
    wCompQuality := swAt buf 12
    wCompWindowSize := swAt buf 14
    wDelay := swAt buf 16
    dwMaxVideoFrameSize := dwAt buf 18
    dwMaxPayloadTransferSize := dwAt buf 22 }
  if len = 34 then
    { ctrl with
      bmFramingInfo := byteAt buf 30
      bPreferredVersion := byteAt buf 31
      bMinVersion := byteAt buf 32
      bMaxVersion := byteAt buf 33 }
  else ctrl

/-- What the descriptors say about the frame that a block names. -/
def blockFrame (info : DeviceInfo) (ctrl : StreamCtrl) : Option FrameDesc :=
  (findFrameDesc info ctrl.bFormatIndex.toUInt16 ctrl.bFrameIndex.toUInt16).map (·.2)

/-- `dwMaxVideoFrameSize`, with the descriptor's value for a zero. -/
def fixedFrameSize (info : DeviceInfo) (ctrl : StreamCtrl) : UInt32 :=
  if ctrl.dwMaxVideoFrameSize = 0 then
    ((blockFrame info ctrl).map (·.dwMaxVideoFrameBufferSize)).getD ctrl.dwMaxVideoFrameSize
  else ctrl.dwMaxVideoFrameSize

/-- `dwMaxPayloadTransferSize`, with the descriptor's bit rate for a zero. -/
def fixedPayloadSize (info : DeviceInfo) (ctrl : StreamCtrl) : UInt32 :=
  if ctrl.dwMaxPayloadTransferSize = 0 then
    ((blockFrame info ctrl).map (·.dwMaxBitRate)).getD ctrl.dwMaxPayloadTransferSize
  else ctrl.dwMaxPayloadTransferSize

/-- What happens to a block after it was decoded: the clock frequency of the VC header, and
descriptor values for zero sizes. -/
def fixUp (info : DeviceInfo) (ctrl : StreamCtrl) : StreamCtrl :=
  { ctrl with
    dwClockFrequency := info.ctrlIf.dwClockFrequency
    dwMaxVideoFrameSize := fixedFrameSize info ctrl
    dwMaxPayloadTransferSize := fixedPayloadSize info ctrl }

/-! ## Requests -/

/-- `enum uvc_req_code`. -/
inductive ReqCode where
  | undefined
  | setCur
  | getCur
  | getMin
  | getMax
  | getRes
  | getLen
  | getInfo
  | getDef
  deriving DecidableEq, Repr

/-- The arguments of `libusb_control_transfer`; `data` is what is sent. -/
structure ControlRequest where
  requestType : UInt8
  request : ReqCode
  value : UInt16
  index : UInt8
  length : Nat
  data : List UInt8
  deriving DecidableEq, Repr

/-- The answer: an error code, or the number of bytes moved; and what came in. -/
structure Transfer where
  ret : Int
  data : List UInt8 := []
  deriving DecidableEq, Repr

/-- `buf` after a GET transfer: the bytes received, the rest still cleared. -/
def received (t : Transfer) : List UInt8 :=
  (t.data.take t.ret.toNat ++ List.replicate 34 0).take 34

/-- The request that `uvc_query_stream_ctrl` makes. -/
def streamCtrlRequest (info : DeviceInfo) (ctrl : StreamCtrl) (probe : Bool) (req : ReqCode) :
    ControlRequest where
  requestType := if req = .setCur then 0x21 else 0xa1
  request := req
  value := if probe then 0x0100 else 0x0200
  index := ctrl.bInterfaceNumber
  length := blockLen info
  data := if req = .setCur then (encodeStreamCtrl (blockLen info) ctrl).take (blockLen info) else []

/-- `uvc_query_stream_ctrl`, with the block it leaves. -/
def queryStreamCtrl (usb : ControlRequest → Transfer) (info : DeviceInfo) (ctrl : StreamCtrl)
    (probe : Bool) (req : ReqCode) : Ret × StreamCtrl :=
  let t := usb (streamCtrlRequest info ctrl probe req)
  if t.ret ≤ 0 then (t.ret, ctrl)
  else if req = .setCur then (Ret.success, ctrl)
  else (Ret.success, fixUp info (decodeStreamCtrl (blockLen info) (received t) ctrl))

/-- A SET_CUR is what `uvc_stream_ctrl` makes of it. -/
theorem queryStreamCtrl_setCur (usb : ControlRequest → Transfer) (info : DeviceInfo)
    (ctrl : StreamCtrl) (probe : Bool) :
    queryStreamCtrl usb info ctrl probe .setCur =
      (setCur (usb (streamCtrlRequest info ctrl probe .setCur)).ret, ctrl) := by
  rw [queryStreamCtrl, setCur]
  split <;> rfl

/-! ## The two directions undo each other -/

theorem encodeStreamCtrl_length (len : Nat) (ctrl : StreamCtrl) :
    (encodeStreamCtrl len ctrl).length = 34 := by
  rw [encodeStreamCtrl]
  split <;> rfl

/-- **Decoding undoes encoding**, for a buffer that starts with an encoded block. -/
theorem decode_encode (len : Nat) (c d : StreamCtrl) (hlen : len = 34 ∨ len = 26) :
    decodeStreamCtrl len ((encodeStreamCtrl len c).take len ++ List.replicate (34 - len) 0) d =
      { c with
        dwClockFrequency := d.dwClockFrequency
        bmFramingInfo := if len = 34 then c.bmFramingInfo else d.bmFramingInfo
        bPreferredVersion := if len = 34 then c.bPreferredVersion else d.bPreferredVersion
        bMinVersion := if len = 34 then c.bMinVersion else d.bMinVersion
        bMaxVersion := if len = 34 then c.bMaxVersion else d.bMaxVersion
        bInterfaceNumber := d.bInterfaceNumber } := by
  have h16 := swToShort_toUInt8
  have h32 := dwToInt_toUInt8
  rcases hlen with rfl | rfl
  · simp [decodeStreamCtrl, encodeStreamCtrl, shortToSw, intToDw, swAt, dwAt, byteAt, h16, h32]
  · simp [decodeStreamCtrl, encodeStreamCtrl, shortToSw, intToDw, swAt, dwAt, byteAt, h16, h32]

/-- The fields in front of the sizes. -/
def encodeFront (ctrl : StreamCtrl) : List UInt8 :=
  shortToSw ctrl.bmHint ++ [ctrl.bFormatIndex, ctrl.bFrameIndex] ++ intToDw ctrl.dwFrameInterval ++
    shortToSw ctrl.wKeyFrameRate ++ shortToSw ctrl.wPFrameRate ++ shortToSw ctrl.wCompQuality ++
    shortToSw ctrl.wCompWindowSize ++ shortToSw ctrl.wDelay

/-- The fields behind the sizes. -/
def encodeBack (len : Nat) (ctrl : StreamCtrl) : List UInt8 :=
  if len = 34 then
    intToDw ctrl.dwClockFrequency ++
      [ctrl.bmFramingInfo, ctrl.bPreferredVersion, ctrl.bMinVersion, ctrl.bMaxVersion]
  else List.replicate 8 0

theorem encodeStreamCtrl_eq (len : Nat) (ctrl : StreamCtrl) :
    encodeStreamCtrl len ctrl = encodeFront ctrl ++ (intToDw ctrl.dwMaxVideoFrameSize ++
      (intToDw ctrl.dwMaxPayloadTransferSize ++ encodeBack len ctrl)) := by
  simp only [encodeStreamCtrl, encodeFront, encodeBack, List.append_assoc]

theorem encodeFront_decode (len : Nat) (buf : List UInt8) (d : StreamCtrl) :
    encodeFront (decodeStreamCtrl len buf d) = (List.range 18).map (byteAt buf) := by
  have hfields : encodeFront (decodeStreamCtrl len buf d) =
      shortToSw (swAt buf 0) ++ [byteAt buf 2, byteAt buf 3] ++ intToDw (dwAt buf 4) ++
        shortToSw (swAt buf 8) ++ shortToSw (swAt buf 10) ++ shortToSw (swAt buf 12) ++
        shortToSw (swAt buf 14) ++ shortToSw (swAt buf 16) := by
    rw [decodeStreamCtrl]
    split <;> rfl
  rw [hfields]
  simp only [shortToSw_swAt, intToDw_dwAt]
  rfl

theorem decode_sizes (len : Nat) (buf : List UInt8) (d : StreamCtrl) :
    (decodeStreamCtrl len buf d).dwMaxVideoFrameSize = dwAt buf 18 ∧
      (decodeStreamCtrl len buf d).dwMaxPayloadTransferSize = dwAt buf 22 := by
  rw [decodeStreamCtrl]
  split <;> exact ⟨rfl, rfl⟩

theorem byteAt_intToDw_dwAt (buf : List UInt8) {off k : Nat} (hk : k < 4) :
    byteAt (intToDw (dwAt buf off)) k = byteAt buf (off + k) := by
  rw [intToDw_dwAt]
  match k, hk with
  | 0, _ => rfl
  | 1, _ => rfl
  | 2, _ => rfl
  | 3, _ => rfl

/-- The fields behind the clock frequency. -/
theorem byteAt_encodeBack (info : DeviceInfo) (buf : List UInt8) (d : StreamCtrl) {k : Nat}
    (hk : 4 ≤ k) (hk' : k < 8) :
    byteAt (encodeBack 34 (fixUp info (decodeStreamCtrl 34 buf d))) k = byteAt buf (26 + k) := by
  match k, hk, hk' with
  | 4, _, _ => rfl
  | 5, _, _ => rfl
  | 6, _, _ => rfl
  | 7, _, _ => rfl

/-- Re-encoding a block that was decoded, when the sizes are none that had to be fixed up. -/
theorem encode_decode {len : Nat} (info : DeviceInfo) (buf : List UInt8) (d : StreamCtrl) {i : Nat}
    (hlen : i < 26 ∨ len = 34) (hi : i < 34) (hclock : i < 26 ∨ 30 ≤ i)
    (hframe : dwAt buf 18 = 0 → i < 18 ∨ 22 ≤ i) (hpayload : dwAt buf 22 = 0 → i < 22 ∨ 26 ≤ i) :
    byteAt (encodeStreamCtrl len (fixUp info (decodeStreamCtrl len buf d))) i = byteAt buf i := by
  have hfront : encodeFront (fixUp info (decodeStreamCtrl len buf d)) =
      (List.range 18).map (byteAt buf) := encodeFront_decode len buf d
  obtain ⟨hsize, hpsize⟩ := decode_sizes len buf d
  have hbyte : ∀ n k, k < n → byteAt ((List.range n).map (byteAt buf)) k = byteAt buf k := by
    intro n k hk
    rw [byteAt_eq_getElem (by simpa using hk), List.getElem_map, List.getElem_range]
  rw [encodeStreamCtrl_eq, hfront]
  rcases Nat.lt_or_ge i 18 with h18 | h18
  · rw [byteAt_append_left _ (by simpa using h18), hbyte 18 i h18]
  rw [byteAt_append_right _ (by simpa using h18), List.length_map, List.length_range]
  rcases Nat.lt_or_ge i 22 with h22 | h22
  · have hsame : (fixUp info (decodeStreamCtrl len buf d)).dwMaxVideoFrameSize = dwAt buf 18 := by
      rw [← hsize]
      exact if_neg (fun hzero => absurd (hframe (hsize ▸ hzero)) (by omega))
    rw [hsame, byteAt_append_left _ (by simp [intToDw]; omega),
      byteAt_intToDw_dwAt buf (by omega), Nat.add_sub_cancel' h18]
  rw [byteAt_append_right _ (by simp [intToDw]; omega)]
  rcases Nat.lt_or_ge i 26 with h26 | h26
  · have hsame : (fixUp info (decodeStreamCtrl len buf d)).dwMaxPayloadTransferSize =
        dwAt buf 22 := by
      rw [← hpsize]
      exact if_neg (fun hzero => absurd (hpayload (hpsize ▸ hzero)) (by omega))
    rw [hsame, byteAt_append_left _ (by simp [intToDw]; omega),
      byteAt_intToDw_dwAt buf (by simp [intToDw]; omega)]
    congr 1
    simp only [intToDw, List.length_cons, List.length_nil]
    omega
  obtain rfl : len = 34 := by omega
  rw [byteAt_append_right _ (by simp [intToDw]; omega), byteAt_encodeBack]
  · congr 1
    simp only [intToDw, List.length_cons, List.length_nil]
    omega
  · simp only [intToDw, List.length_cons, List.length_nil]
    omega
  · simp only [intToDw, List.length_cons, List.length_nil]
    omega

theorem blockLen_cases (info : DeviceInfo) : blockLen info = 34 ∨ blockLen info = 26 := by
  rw [blockLen]
  split
  · exact Or.inl rfl
  · exact Or.inr rfl

/-- A block that was received whole, in the cleared buffer. -/
theorem received_full {info : DeviceInfo} {data : List UInt8} (h : data.length = blockLen info) :
    received ⟨blockLen info, data⟩ = data ++ List.replicate (34 - blockLen info) 0 := by
  have hle : blockLen info ≤ 34 := by rcases blockLen_cases info with h | h <;> omega
  rw [received, Int.toNat_natCast, List.take_of_length_le h.le, List.take_append,
    List.take_of_length_le (by omega), List.take_replicate, h, Nat.min_eq_left (by omega)]

/-- What a SET_CUR sends. -/
theorem setCur_data (info : DeviceInfo) (ctrl : StreamCtrl) (probe : Bool) :
    (streamCtrlRequest info ctrl probe .setCur).data =
      (encodeStreamCtrl (blockLen info) ctrl).take (blockLen info) := rfl

/-- A GET request that brings something in. -/
theorem queryStreamCtrl_get {usb : ControlRequest → Transfer} {info : DeviceInfo}
    {ctrl : StreamCtrl} {probe : Bool} {req : ReqCode} {t : Transfer} (hreq : req ≠ .setCur)
    (h : usb (streamCtrlRequest info ctrl probe req) = t) (hpos : 0 < t.ret) :
    queryStreamCtrl usb info ctrl probe req =
      (Ret.success, fixUp info (decodeStreamCtrl (blockLen info) (received t) ctrl)) := by
  rw [queryStreamCtrl, h, if_neg (by omega), if_neg hreq]

/-- **Control blocks round-trip on the wire.**  Let the device answer a GET request with the bytes
that a SET_CUR of the block `c` sends: then `ctrl`, whatever was in it, becomes `c`, with the clock
frequency of the VC header, descriptor values for sizes that are zero, and its own values in the
fields that were not sent.  Conversely, let the device answer with any block of the right length:
then a SET_CUR of what was decoded sends the same bytes, except for the clock frequency and for
sizes that were zero. -/
theorem streamCtrl_round_trip (usb : ControlRequest → Transfer) (info : DeviceInfo)
    (ctrl : StreamCtrl) (probe : Bool) (req : ReqCode) (hreq : req ≠ .setCur) :
    (∀ c, usb (streamCtrlRequest info ctrl probe req) =
        ⟨blockLen info, (streamCtrlRequest info c probe .setCur).data⟩ →
      queryStreamCtrl usb info ctrl probe req = (Ret.success,
        { c with
          dwClockFrequency := info.ctrlIf.dwClockFrequency
          dwMaxVideoFrameSize := fixedFrameSize info c
          dwMaxPayloadTransferSize := fixedPayloadSize info c
          bmFramingInfo := if blockLen info = 34 then c.bmFramingInfo else ctrl.bmFramingInfo
          bPreferredVersion :=
            if blockLen info = 34 then c.bPreferredVersion else ctrl.bPreferredVersion
          bMinVersion := if blockLen info = 34 then c.bMinVersion else ctrl.bMinVersion
          bMaxVersion := if blockLen info = 34 then c.bMaxVersion else ctrl.bMaxVersion
          bInterfaceNumber := ctrl.bInterfaceNumber })) ∧
    ∀ data, data.length = blockLen info →
      usb (streamCtrlRequest info ctrl probe req) = ⟨blockLen info, data⟩ →
      ∃ d, queryStreamCtrl usb info ctrl probe req = (Ret.success, d) ∧
        ∀ i < blockLen info, i < 26 ∨ 30 ≤ i → (dwAt data 18 = 0 → i < 18 ∨ 22 ≤ i) →
          (dwAt data 22 = 0 → i < 22 ∨ 26 ≤ i) →
          byteAt (streamCtrlRequest info d probe .setCur).data i = byteAt data i := by
  have hlen := blockLen_cases info
  refine ⟨fun c hc => ?_, fun data hdata hanswer => ?_⟩
  · have hsize : ((encodeStreamCtrl (blockLen info) c).take (blockLen info)).length =
        blockLen info := by
      rw [List.length_take, encodeStreamCtrl_length]
      omega
    rw [setCur_data] at hc
    rw [queryStreamCtrl_get hreq hc (by simp; omega), received_full hsize,
      decode_encode _ c ctrl hlen]
    rfl
  · refine ⟨_, queryStreamCtrl_get hreq hanswer (by simp; omega), ?_⟩
    intro i hi hclock hframe hpayload
    have hbyte : ∀ k < blockLen info,
        byteAt (data ++ List.replicate (34 - blockLen info) 0) k = byteAt data k :=
      fun k hk => byteAt_append_left _ (by omega)
    have hdw : ∀ off, off + 4 ≤ blockLen info →
        dwAt (data ++ List.replicate (34 - blockLen info) 0) off = dwAt data off := by
      intro off hoff
      rw [dwAt, dwAt, hbyte _ (by omega), hbyte _ (by omega), hbyte _ (by omega),
        hbyte _ (by omega)]
    have hsent : ∀ d, byteAt (streamCtrlRequest info d probe .setCur).data i =
        byteAt (encodeStreamCtrl (blockLen info) d) i := by
      intro d
      rw [setCur_data, byteAt, byteAt, List.getD_eq_getElem?_getD, List.getElem?_take_of_lt hi,
        List.getD_eq_getElem?_getD]
    rw [hsent, received_full hdata, encode_decode info _ _ (by omega) (by omega) hclock
      (by rwa [hdw 18 (by omega)]) (by rwa [hdw 22 (by omega)]), hbyte i hi]

/-- A UVC 1.0 device echoes a block: the fields it has come back, the version of the block at hand
stays. -/
theorem streamCtrl_round_trip_echo :
    queryStreamCtrl
        (fun r => ⟨r.length, (streamCtrlRequest {} { bmHint := 0x1234, wDelay := 7 } true
          .setCur).data⟩) {} { bMaxVersion := 2, dwClockFrequency := 9 } true .getCur =
      (Ret.success, { bmHint := 0x1234, wDelay := 7, bMaxVersion := 2 }) :=
  (streamCtrl_round_trip _ {} _ true .getCur (by decide)).1 { bmHint := 0x1234, wDelay := 7 } rfl

/-! ## Negotiation -/

/-- `_uvc_stream_params_negotiated`. -/
def streamParamsNegotiated (required actual : StreamCtrl) : Bool :=
  required.bFormatIndex == actual.bFormatIndex && required.bFrameIndex == actual.bFrameIndex &&
    required.dwMaxPayloadTransferSize ≥ actual.dwMaxPayloadTransferSize

/-- `uvc_probe_stream_ctrl`, with the block it leaves. -/
def probeStreamCtrl (usb : ControlRequest → Transfer) (info : DeviceInfo) (ctrl : StreamCtrl) :
    Ret × StreamCtrl :=
  match queryStreamCtrl usb info ctrl true .setCur with
  | (ret, sent) =>
    if ret ≠ Ret.success then (ret, sent)
    else
      match queryStreamCtrl usb info sent true .getCur with
      | (ret, actual) =>
        if ret ≠ Ret.success then (ret, actual)
        else if !streamParamsNegotiated ctrl actual then (Ret.errorInvalidMode, actual)
        else (Ret.success, actual)

section Agreement

variable (usb : ControlRequest → Transfer) (info : DeviceInfo) (ctrl : StreamCtrl)

/-- The answer to the SET_CUR of a negotiation. -/
def setAnswer : Transfer := usb (streamCtrlRequest info ctrl true .setCur)

/-- The answer to the GET_CUR of a negotiation. -/
def getAnswer : Transfer := usb (streamCtrlRequest info ctrl true .getCur)

/-- The device took the whole block, and came back with a whole block that names the same format and
frame and asks for no larger payloads. -/
structure Agreed : Prop where
  took : (setAnswer usb info ctrl).ret = blockLen info
  gave : (getAnswer usb info ctrl).ret = blockLen info
  format : byteAt (received (getAnswer usb info ctrl)) 2 = ctrl.bFormatIndex
  frame : byteAt (received (getAnswer usb info ctrl)) 3 = ctrl.bFrameIndex
  payload : dwAt (received (getAnswer usb info ctrl)) 22 ≤ ctrl.dwMaxPayloadTransferSize

/-- A negotiation that succeeds means agreement, and one that fails in a transfer reports that
failure and leaves the block alone. -/
structure MeansAgreement : Prop where
  success : (probeStreamCtrl usb info ctrl).1 = Ret.success → Agreed usb info ctrl
  setError : (queryStreamCtrl usb info ctrl true .setCur).1 ≠ Ret.success →
    probeStreamCtrl usb info ctrl = ((queryStreamCtrl usb info ctrl true .setCur).1, ctrl)
  getError : (queryStreamCtrl usb info ctrl true .setCur).1 = Ret.success →
    (queryStreamCtrl usb info ctrl true .getCur).1 ≠ Ret.success →
    probeStreamCtrl usb info ctrl = ((queryStreamCtrl usb info ctrl true .getCur).1, ctrl)

/-- The payload size that a reply offers; for a zero, the bit rate of the frame it names. -/
def offeredPayload (buf : List UInt8) : UInt32 :=
  if dwAt buf 22 = 0 then
    ((findFrameDesc info (byteAt buf 2).toUInt16 (byteAt buf 3).toUInt16).map
      (·.2.dwMaxBitRate)).getD 0
  else dwAt buf 22

/-- The reply, with zeros for what is missing of it, fits the block that was asked for. -/
def Fits (buf : List UInt8) : Prop :=
  byteAt buf 2 = ctrl.bFormatIndex ∧ byteAt buf 3 = ctrl.bFrameIndex ∧
    offeredPayload info buf ≤ ctrl.dwMaxPayloadTransferSize

instance (buf : List UInt8) : Decidable (Fits info ctrl buf) :=
  inferInstanceAs (Decidable (_ ∧ _ ∧ _))

/-- One of the transfers fails, or both are complete, or the reply does not fit anyway. -/
def WholeOrRefused : Prop :=
  (setAnswer usb info ctrl).ret < 0 ∨ (getAnswer usb info ctrl).ret < 0 ∨
    ((setAnswer usb info ctrl).ret = blockLen info ∧
      (getAnswer usb info ctrl).ret = blockLen info) ∨
    (0 < (getAnswer usb info ctrl).ret ∧ ¬ Fits info ctrl (received (getAnswer usb info ctrl)))

variable {usb info ctrl}

/-- What comes back is tested as it was received. -/
theorem streamParamsNegotiated_iff (buf : List UInt8) :
    streamParamsNegotiated ctrl (fixUp info (decodeStreamCtrl (blockLen info) buf ctrl)) = true ↔
      Fits info ctrl buf := by
  have hfields : ∀ len, (decodeStreamCtrl len buf ctrl).bFormatIndex = byteAt buf 2 ∧
      (decodeStreamCtrl len buf ctrl).bFrameIndex = byteAt buf 3 := by
    intro len
    rw [decodeStreamCtrl]
    split <;> exact ⟨rfl, rfl⟩
  obtain ⟨hformat, hframe⟩ := hfields (blockLen info)
  have hpayload :
      (fixUp info (decodeStreamCtrl (blockLen info) buf ctrl)).dwMaxPayloadTransferSize =
        offeredPayload info buf := by
    simp only [fixUp, fixedPayloadSize, blockFrame, hformat, hframe,
      (decode_sizes (blockLen info) buf ctrl).2, offeredPayload, Option.map_map]
    split
    · rename_i hzero
      rw [hzero]
      rfl
    · rfl
  simp only [streamParamsNegotiated, Bool.and_eq_true, beq_iff_eq, decide_eq_true_eq, hpayload,
    Fits, ge_iff_le]
  simp only [fixUp, hformat, hframe, and_assoc]
  constructor
  · rintro ⟨h1, h2, h3⟩
    exact ⟨h1.symm, h2.symm, h3⟩
  · rintro ⟨h1, h2, h3⟩
    exact ⟨h1.symm, h2.symm, h3⟩

/-- The result of a SET_CUR. -/
theorem query_set : queryStreamCtrl usb info ctrl true .setCur =
    (setCur (setAnswer usb info ctrl).ret, ctrl) := queryStreamCtrl_setCur usb info ctrl true

/-- The result of a GET_CUR: a transfer of no bytes counts as a success that changes nothing. -/
theorem query_get : queryStreamCtrl usb info ctrl true .getCur =
    if (getAnswer usb info ctrl).ret ≤ 0 then ((getAnswer usb info ctrl).ret, ctrl)
    else (Ret.success, fixUp info
      (decodeStreamCtrl (blockLen info) (received (getAnswer usb info ctrl)) ctrl)) := rfl

theorem probe_of_set_error (h : (setAnswer usb info ctrl).ret < 0) :
    probeStreamCtrl usb info ctrl = ((setAnswer usb info ctrl).ret, ctrl) := by
  have hne : (setAnswer usb info ctrl).ret ≠ Ret.success := fun heq => by
    rw [heq] at h
    exact absurd h (by decide)
  rw [probeStreamCtrl, query_set, setCur, if_pos (le_of_lt h)]
  simp only []
  rw [if_pos hne]

theorem probe_of_set (h : 0 ≤ (setAnswer usb info ctrl).ret) :
    probeStreamCtrl usb info ctrl =
      if (getAnswer usb info ctrl).ret ≤ 0 then ((getAnswer usb info ctrl).ret, ctrl)
      else (if Fits info ctrl (received (getAnswer usb info ctrl)) then Ret.success
        else Ret.errorInvalidMode, fixUp info
          (decodeStreamCtrl (blockLen info) (received (getAnswer usb info ctrl)) ctrl)) := by
  rw [probeStreamCtrl, query_set, setCur_eq_success.2 h]
  simp only []
  rw [if_neg (by simp), query_get]
  split
  · rename_i hle
    rcases lt_or_eq_of_le hle with hlt | hzero
    · simp only []
      rw [if_pos (show (getAnswer usb info ctrl).ret ≠ Ret.success from ne_of_lt hlt)]
    · -- nothing came in, so the block is compared with itself
      have hsame : streamParamsNegotiated ctrl ctrl = true := by simp [streamParamsNegotiated]
      simp only []
      rw [hzero, if_neg (show ¬ (0 : Int) ≠ Ret.success from not_not.2 rfl), hsame]
      rfl
  · simp only []
    rw [if_neg (not_not.2 rfl)]
    by_cases hfits : Fits info ctrl (received (getAnswer usb info ctrl))
    · rw [streamParamsNegotiated_iff _ |>.2 hfits, if_pos hfits]
      rfl
    · rw [Bool.eq_false_iff.2 (mt (streamParamsNegotiated_iff _).1 hfits), if_neg hfits]
      rfl

/-- A failure in a transfer is reported, and leaves the block alone. -/
theorem probe_of_get_error (hset : (queryStreamCtrl usb info ctrl true .setCur).1 = Ret.success)
    (hget : (queryStreamCtrl usb info ctrl true .getCur).1 ≠ Ret.success) :
    probeStreamCtrl usb info ctrl =
      ((queryStreamCtrl usb info ctrl true .getCur).1, ctrl) := by
  rw [query_set] at hset
  rw [query_get] at hget ⊢
  rw [probe_of_set (setCur_eq_success.1 hset)]
  split
  · rfl
  · rename_i hpos
    rw [if_neg hpos] at hget
    exact absurd rfl hget

/-- A reply that fits offers no larger payloads. -/
theorem Fits.payload_le {buf : List UInt8} (h : Fits info ctrl buf) :
    dwAt buf 22 ≤ ctrl.dwMaxPayloadTransferSize := by
  by_cases hzero : dwAt buf 22 = 0
  · rw [hzero]
    exact UInt32.zero_le
  · have hoffered := h.2.2
    rwa [offeredPayload, if_neg hzero] at hoffered

/-- **When a successful negotiation means agreement**: if and only if one of the two transfers
fails, or both are complete, or the reply does not fit what was asked for.  Otherwise a transfer of
too few bytes, or of none, passes for the device's consent. -/
theorem probe_meansAgreement_iff (usb : ControlRequest → Transfer) (info : DeviceInfo)
    (ctrl : StreamCtrl) : MeansAgreement usb info ctrl ↔ WholeOrRefused usb info ctrl := by
  constructor
  · rintro ⟨hsuccess, -, -⟩
    rcases lt_or_ge (setAnswer usb info ctrl).ret 0 with hset | hset
    · exact Or.inl hset
    rcases lt_trichotomy (getAnswer usb info ctrl).ret 0 with hget | hget | hget
    · exact Or.inr (Or.inl hget)
    · have hagreed := hsuccess (by rw [probe_of_set hset, if_pos hget.le, hget]; rfl)
      exact Or.inr (Or.inr (Or.inl ⟨hagreed.took, hagreed.gave⟩))
    · by_cases hfits : Fits info ctrl (received (getAnswer usb info ctrl))
      · have hagreed := hsuccess (by rw [probe_of_set hset, if_neg (not_le.2 hget), if_pos hfits])
        exact Or.inr (Or.inr (Or.inl ⟨hagreed.took, hagreed.gave⟩))
      · exact Or.inr (Or.inr (Or.inr ⟨hget, hfits⟩))
  · intro hcond
    refine ⟨fun hsuccess => ?_, fun hset => ?_, probe_of_get_error⟩
    · rcases lt_or_ge (setAnswer usb info ctrl).ret 0 with hset | hset
      · rw [probe_of_set_error hset] at hsuccess
        exact absurd hsuccess (ne_of_lt hset)
      have hlen : (0 : Int) < blockLen info := by rcases blockLen_cases info with h | h <;> simp [h]
      rw [probe_of_set hset] at hsuccess
      rcases hcond with hneg | hneg | ⟨htook, hgave⟩ | ⟨hpos, hnot⟩
      · exact absurd hneg (not_lt.2 hset)
      · rw [if_pos hneg.le] at hsuccess
        exact absurd hsuccess (ne_of_lt hneg)
      · have hfits : Fits info ctrl (received (getAnswer usb info ctrl)) := by
          by_contra hnot
          rw [if_neg (not_le.2 (hgave ▸ hlen)), if_neg hnot] at hsuccess
          exact absurd hsuccess (show Ret.errorInvalidMode ≠ Ret.success by decide)
        exact ⟨htook, hgave, hfits.1, hfits.2.1, hfits.payload_le⟩
      · rw [if_neg (not_le.2 hpos), if_neg hnot] at hsuccess
        exact absurd hsuccess (show Ret.errorInvalidMode ≠ Ret.success by decide)
    · rw [query_set] at hset ⊢
      have hneg := not_le.1 (mt setCur_eq_success.2 hset)
      rw [probe_of_set_error hneg, setCur, if_pos (le_of_lt hneg)]

end Agreement

/-- The device moves no bytes at all, in either direction, and the negotiation succeeds.  It also
succeeds with a device that answers the first four bytes of a block. -/
theorem probe_succeeds_without_answer :
    (probeStreamCtrl (fun _ => ⟨0, []⟩) {} { bFormatIndex := 4, bFrameIndex := 1 }).1 =
        Ret.success ∧
      ¬ MeansAgreement (fun _ => ⟨0, []⟩) {} { bFormatIndex := 4, bFrameIndex := 1 } ∧
      ¬ MeansAgreement (fun _ => ⟨4, [0, 0, 4, 1]⟩) {} { bFormatIndex := 4, bFrameIndex := 1 } := by
  refine ⟨rfl, fun h => ?_, fun h => ?_⟩
  · exact absurd (h.success rfl).took (by decide)
  · exact absurd (h.success rfl).gave (by decide)

end Stream
end LibUvc
