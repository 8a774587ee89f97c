import LibUvc.Foundation.Checked

/-!
# Return codes, byte order, and the streaming control block

The vocabulary shared by every part of the library: `uvc_error_t`, the byte-order macros of
`libuvc_internal.h`, `enum uvc_frame_format` and `struct uvc_stream_ctrl`.

A `uvc_error_t` is an `int` that libuvc passes through from libusb without looking at it, and a
libusb call may answer with any code at all, so return codes are plain integers here and the
named ones are constants.
-/

set_option autoImplicit false

namespace LibUvc

open Checked

/-! ## Return codes -/

/-- `uvc_error_t`, and the result of a libusb call. -/
abbrev Ret := Int

namespace Ret

def success : Ret := 0
def errorIo : Ret := -1
def errorInvalidParam : Ret := -2
def errorAccess : Ret := -3
def errorNoDevice : Ret := -4
def errorNotFound : Ret := -5
def errorBusy : Ret := -6
def errorTimeout : Ret := -7
def errorNoMem : Ret := -11
def errorNotSupported : Ret := -12
def errorInvalidDevice : Ret := -50
def errorInvalidMode : Ret := -51
def errorCallbackExists : Ret := -52
def errorOther : Ret := -99

theorem errorInvalidDevice_ne : errorInvalidDevice ≠ success := by decide

theorem errorNotSupported_ne : errorNotSupported ≠ success := by decide

end Ret

/-- `enum libusb_transfer_status`: what a completion says about the transfer. -/
inductive TransferStatus where
  | completed
  | error
  | timedOut
  | cancelled
  | stall
  | noDevice
  | overflow
  deriving DecidableEq, Repr

/-! ## Byte order -/

/-- `SW_TO_SHORT`, on the two bytes themselves. -/
def swToShort (b0 b1 : UInt8) : UInt16 := b0.toUInt16 ||| (b1.toUInt16 <<< 8)

/-- `DW_TO_INT`, on the four bytes themselves. -/
def dwToInt (b0 b1 b2 b3 : UInt8) : UInt32 :=
  b0.toUInt32 ||| (b1.toUInt32 <<< 8) ||| (b2.toUInt32 <<< 16) ||| (b3.toUInt32 <<< 24)

/-- `SW_TO_SHORT(buf + off)`. -/
def readSw (buf : List UInt8) (off : Nat) : Checked UInt16 := do
  let b0 ← readByte buf off
  let b1 ← readByte buf (off + 1)
  return swToShort b0 b1

/-- `DW_TO_INT(buf + off)`. -/
def readDw (buf : List UInt8) (off : Nat) : Checked UInt32 := do
  let b0 ← readByte buf off
  let b1 ← readByte buf (off + 1)
  let b2 ← readByte buf (off + 2)
  let b3 ← readByte buf (off + 3)
  return dwToInt b0 b1 b2 b3

/-- The little-endian 16-bit field at `off`, unchecked. -/
def swAt (buf : List UInt8) (off : Nat) : UInt16 :=
  swToShort (byteAt buf off) (byteAt buf (off + 1))

/-- The little-endian 32-bit field at `off`, unchecked. -/
def dwAt (buf : List UInt8) (off : Nat) : UInt32 :=
  dwToInt (byteAt buf off) (byteAt buf (off + 1)) (byteAt buf (off + 2)) (byteAt buf (off + 3))

theorem readSw_eq {buf : List UInt8} {off : Nat} (h : off + 2 ≤ buf.length) :
    readSw buf off = .ok (swAt buf off) := by
  rw [readSw, readByte_eq (by omega), ok_bind, readByte_eq (by omega), ok_bind]
  rfl

theorem readDw_eq {buf : List UInt8} {off : Nat} (h : off + 4 ≤ buf.length) :
    readDw buf off = .ok (dwAt buf off) := by
  rw [readDw, readByte_eq (by omega), ok_bind, readByte_eq (by omega), ok_bind,
    readByte_eq (by omega), ok_bind, readByte_eq (by omega), ok_bind]
  rfl

theorem stable_readSw (off : Nat) : Stable fun buf => readSw buf off :=
  (stable_readByte _).bind fun _ => (stable_readByte _).bind fun _ => stable_const _

theorem stable_readDw (off : Nat) : Stable fun buf => readDw buf off :=
  (stable_readByte _).bind fun _ => (stable_readByte _).bind fun _ =>
    (stable_readByte _).bind fun _ => (stable_readByte _).bind fun _ => stable_const _

@[simp] theorem safe_bind_readSw {β : Type} {buf : List UInt8} {off : Nat}
    {f : UInt16 → Checked β} :
    Safe (readSw buf off >>= f) ↔ off + 2 ≤ buf.length ∧ Safe (f (swAt buf off)) := by
  by_cases h : off + 2 ≤ buf.length
  · rw [readSw_eq h]
    simp [h]
  · simp only [readSw, bind_assoc, safe_bind_readByte]
    constructor
    · rintro ⟨-, h1, -⟩
      omega
    · rintro ⟨h1, -⟩
      exact absurd h1 h

@[simp] theorem safe_bind_readDw {β : Type} {buf : List UInt8} {off : Nat}
    {f : UInt32 → Checked β} :
    Safe (readDw buf off >>= f) ↔ off + 4 ≤ buf.length ∧ Safe (f (dwAt buf off)) := by
  by_cases h : off + 4 ≤ buf.length
  · rw [readDw_eq h]
    simp [h]
  · simp only [readDw, bind_assoc, safe_bind_readByte]
    constructor
    · rintro ⟨-, -, -, h1, -⟩
      omega
    · rintro ⟨h1, -⟩
      exact absurd h1 h

/-! ## Writing integers -/

/-- `SHORT_TO_SW`, as the bytes it writes. -/
def shortToSw (s : UInt16) : List UInt8 := [s.toUInt8, (s >>> 8).toUInt8]

/-- `INT_TO_DW`, as the bytes it writes. -/
def intToDw (i : UInt32) : List UInt8 :=
  [i.toUInt8, (i >>> 8).toUInt8, (i >>> 16).toUInt8, (i >>> 24).toUInt8]

/-- A byte or-ed below a number that has been shifted out of its way is added to it. -/
theorem or_shiftLeft_eq_add {a k : Nat} (b : Nat) (h : a < 2 ^ k) :
    a ||| b <<< k = a + b * 2 ^ k := by
  rw [Nat.or_comm, ← Nat.shiftLeft_add_eq_or_of_lt h, Nat.shiftLeft_eq, Nat.add_comm]

theorem toNat_swToShort (b0 b1 : UInt8) :
    (swToShort b0 b1).toNat = b0.toNat + b1.toNat * 2 ^ 8 := by
  have h0 := b0.toNat_lt
  have h1 := b1.toNat_lt
  have hb : b1.toNat <<< 8 % 2 ^ 16 = b1.toNat <<< 8 := by
    rw [Nat.shiftLeft_eq]
    omega
  simp only [swToShort, UInt16.toNat_or, UInt16.toNat_shiftLeft, UInt8.toNat_toUInt16]
  show b0.toNat ||| b1.toNat <<< 8 % 2 ^ 16 = _
  rw [hb, or_shiftLeft_eq_add _ h0]

theorem toNat_dwToInt (b0 b1 b2 b3 : UInt8) :
    (dwToInt b0 b1 b2 b3).toNat =
      b0.toNat + b1.toNat * 2 ^ 8 + b2.toNat * 2 ^ 16 + b3.toNat * 2 ^ 24 := by
  have h0 := b0.toNat_lt
  have h1 := b1.toNat_lt
  have h2 := b2.toNat_lt
  have h3 := b3.toNat_lt
  have hb1 : b1.toNat <<< 8 % 2 ^ 32 = b1.toNat <<< 8 := by
    rw [Nat.shiftLeft_eq]
    omega
  have hb2 : b2.toNat <<< 16 % 2 ^ 32 = b2.toNat <<< 16 := by
    rw [Nat.shiftLeft_eq]
    omega
  have hb3 : b3.toNat <<< 24 % 2 ^ 32 = b3.toNat <<< 24 := by
    rw [Nat.shiftLeft_eq]
    omega
  simp only [dwToInt, UInt32.toNat_or, UInt32.toNat_shiftLeft, UInt8.toNat_toUInt32]
  show b0.toNat ||| b1.toNat <<< 8 % 2 ^ 32 ||| b2.toNat <<< 16 % 2 ^ 32 |||
    b3.toNat <<< 24 % 2 ^ 32 = _
  have h01 : b0.toNat + b1.toNat * 2 ^ 8 < 2 ^ 16 := by omega
  have h012 : b0.toNat + b1.toNat * 2 ^ 8 + b2.toNat * 2 ^ 16 < 2 ^ 24 := by omega
  rw [hb1, hb2, hb3, or_shiftLeft_eq_add _ h0, or_shiftLeft_eq_add _ h01,
    or_shiftLeft_eq_add _ h012]

/-- What `SHORT_TO_SW` writes, `SW_TO_SHORT` reads. -/
theorem swToShort_toUInt8 (s : UInt16) : swToShort s.toUInt8 (s >>> 8).toUInt8 = s := by
  have hs := s.toNat_lt
  rw [← UInt16.toNat_inj, toNat_swToShort]
  simp only [UInt16.toNat_toUInt8, UInt16.toNat_shiftRight]
  show s.toNat % 2 ^ 8 + s.toNat >>> 8 % 2 ^ 8 * 2 ^ 8 = s.toNat
  rw [Nat.shiftRight_eq_div_pow]
  omega

/-- What `INT_TO_DW` writes, `DW_TO_INT` reads. -/
theorem dwToInt_toUInt8 (i : UInt32) :
    dwToInt i.toUInt8 (i >>> 8).toUInt8 (i >>> 16).toUInt8 (i >>> 24).toUInt8 = i := by
  have hi := i.toNat_lt
  rw [← UInt32.toNat_inj, toNat_dwToInt]
  simp only [UInt32.toNat_toUInt8, UInt32.toNat_shiftRight]
  show i.toNat % 2 ^ 8 + i.toNat >>> 8 % 2 ^ 8 * 2 ^ 8 + i.toNat >>> 16 % 2 ^ 8 * 2 ^ 16 +
    i.toNat >>> 24 % 2 ^ 8 * 2 ^ 24 = i.toNat
  simp only [Nat.shiftRight_eq_div_pow]
  omega

/-- A 16-bit field that was written behind `pre`. -/
theorem readSw_append (pre : List UInt8) (s : UInt16) (rest : List UInt8) :
    readSw (pre ++ (shortToSw s ++ rest)) pre.length = .ok s := by
  have hlen : pre.length + 2 ≤ (pre ++ (shortToSw s ++ rest)).length := by
    simp only [shortToSw, List.length_append, List.length_cons]
    omega
  rw [readSw_eq hlen, swAt, byteAt_append_add, ← Nat.add_zero pre.length, byteAt_append_add]
  exact congrArg Except.ok (swToShort_toUInt8 s)

/-- A 32-bit field that was written behind `pre`. -/
theorem readDw_append (pre : List UInt8) (i : UInt32) (rest : List UInt8) :
    readDw (pre ++ (intToDw i ++ rest)) pre.length = .ok i := by
  have hlen : pre.length + 4 ≤ (pre ++ (intToDw i ++ rest)).length := by
    simp only [intToDw, List.length_append, List.length_cons]
    omega
  rw [readDw_eq hlen, dwAt, byteAt_append_add, byteAt_append_add, byteAt_append_add,
    ← Nat.add_zero pre.length, byteAt_append_add]
  exact congrArg Except.ok (dwToInt_toUInt8 i)

theorem shortToSw_swToShort (b0 b1 : UInt8) : shortToSw (swToShort b0 b1) = [b0, b1] := by
  have h0 := b0.toNat_lt
  have h1 := b1.toNat_lt
  simp only [shortToSw, List.cons.injEq, and_true, ← UInt8.toNat_inj, UInt16.toNat_toUInt8,
    UInt16.toNat_shiftRight, toNat_swToShort]
  refine ⟨by omega, ?_⟩
  show (b0.toNat + b1.toNat * 2 ^ 8) >>> 8 % 2 ^ 8 = _
  rw [Nat.shiftRight_eq_div_pow]
  omega

theorem intToDw_dwToInt (b0 b1 b2 b3 : UInt8) :
    intToDw (dwToInt b0 b1 b2 b3) = [b0, b1, b2, b3] := by
  have h0 := b0.toNat_lt
  have h1 := b1.toNat_lt
  have h2 := b2.toNat_lt
  have h3 := b3.toNat_lt
  have hshift : ∀ k : UInt32, (dwToInt b0 b1 b2 b3 >>> k).toNat =
      (b0.toNat + b1.toNat * 2 ^ 8 + b2.toNat * 2 ^ 16 + b3.toNat * 2 ^ 24) /
        2 ^ (k.toNat % 32) := by
    intro k
    rw [UInt32.toNat_shiftRight, toNat_dwToInt, Nat.shiftRight_eq_div_pow]
  simp only [intToDw, List.cons.injEq, and_true, ← UInt8.toNat_inj, UInt32.toNat_toUInt8, hshift,
    toNat_dwToInt]
  refine ⟨by omega, ?_, ?_, ?_⟩
  · show _ / 2 ^ 8 % 2 ^ 8 = _
    omega
  · show _ / 2 ^ 16 % 2 ^ 8 = _
    omega
  · show _ / 2 ^ 24 % 2 ^ 8 = _
    omega

theorem shortToSw_swAt (buf : List UInt8) (off : Nat) :
    shortToSw (swAt buf off) = [byteAt buf off, byteAt buf (off + 1)] := shortToSw_swToShort _ _

theorem intToDw_dwAt (buf : List UInt8) (off : Nat) :
    intToDw (dwAt buf off) =
      [byteAt buf off, byteAt buf (off + 1), byteAt buf (off + 2), byteAt buf (off + 3)] :=
  intToDw_dwToInt _ _ _ _

/-! ## Frame formats -/

/-- `enum uvc_frame_format`.  `UVC_FRAME_FORMAT_UNKNOWN` and `UVC_FRAME_FORMAT_ANY` are the same
value in the source, hence one constructor here. -/
inductive FrameFormat where
  | unknown
  | uncompressed
  | compressed
  | yuyv
  | uyvy
  | rgb
  | bgr
  | mjpeg
  | h264
  | h265
  | gray8
  | gray16
  | by8
  | ba81
  | sgrbg8
  | sgbrg8
  | srggb8
  | sbggr8
  | nv12
  | p010
  deriving DecidableEq, Repr

/-! ## The streaming control block -/

/-- `struct uvc_stream_ctrl`. -/
structure StreamCtrl where
  bmHint : UInt16 := 0
  bFormatIndex : UInt8 := 0
  bFrameIndex : UInt8 := 0
  dwFrameInterval : UInt32 := 0
  wKeyFrameRate : UInt16 := 0
  wPFrameRate : UInt16 := 0
  wCompQuality : UInt16 := 0
  wCompWindowSize : UInt16 := 0
  wDelay : UInt16 := 0
  dwMaxVideoFrameSize : UInt32 := 0
  dwMaxPayloadTransferSize : UInt32 := 0
  dwClockFrequency : UInt32 := 0
  bmFramingInfo : UInt8 := 0
  bPreferredVersion : UInt8 := 0
  bMinVersion : UInt8 := 0
  bMaxVersion : UInt8 := 0
  bInterfaceNumber : UInt8 := 0
  deriving DecidableEq, Repr

end LibUvc
