import LibUvc.Descriptor.Numbers

/-!
# The grammar of the blocks

`uvc_scan_control` and `uvc_scan_streaming` find an interface and then run the same loop over its
class-specific bytes, with a parser of their own.  `scanners_walk` says what the two loops do on any
bytes: which blocks they hand over, where in the bytes these lie, and what they answer.
-/

set_option autoImplicit false

namespace LibUvc
namespace Descriptor

open Checked Scan

/-- `uvc_parse_vs`, on a block where it lies. -/
abbrev parseVsAt (streamIf : StreamingInterface) (b : Block) : Checked (Ret × StreamingInterface) :=
  parseVs streamIf b.bytes b.size

/-- `uvc_parse_vc`, on a block where it lies. -/
abbrev parseVcAt (config : ConfigDescriptor) (info : DeviceInfo) (b : Block) :
    Checked (Ret × DeviceInfo) :=
  parseVc .extra config info b.bytes b.size

/-- The tree as `uvc_scan_control` hands it to its loop. -/
def located (info : DeviceInfo) (interfaceIdx : Nat) (ifDesc : InterfaceDescriptor) : DeviceInfo :=
  { info with ctrlIf := { info.ctrlIf with
      bInterfaceNumber := UInt8.ofNat interfaceIdx
      bEndpointAddress := ifDesc.endpoint.headD info.ctrlIf.bEndpointAddress } }

theorem scanControl_eq {devDesc : Option DeviceDescriptor} {config : ConfigDescriptor}
    {interfaceIdx : Nat} {ifDesc : InterfaceDescriptor}
    (h : findControl (haveTISCamera devDesc) 0 config.interface =
      .ok (some (interfaceIdx, ifDesc))) (info : DeviceInfo) :
    scanControl devDesc config info = scan 3 Ret.errorInvalidDevice (parseVcAt config)
      (located info interfaceIdx ifDesc) ifDesc.extra := by
  rw [scanControl, scanControlIn, h]
  rfl

/-- **The scanners accept exactly the chains of blocks.**  Whatever the bytes of the interface that
it works on, each of the two loops walks them as `Walks` describes. -/
theorem scanners_walk (devDesc : Option DeviceDescriptor) (config : ConfigDescriptor)
    (info : DeviceInfo) (interfaceIdx : Nat) (ifDesc : InterfaceDescriptor) :
    (findControl (haveTISCamera devDesc) 0 config.interface = .ok (some (interfaceIdx, ifDesc)) →
      scanControl devDesc config info = scan 3 Ret.errorInvalidDevice (parseVcAt config)
        (located info interfaceIdx ifDesc) ifDesc.extra ∧
      ∃ blocks rest, Walks 3 Ret.errorInvalidDevice (parseVcAt config)
        (located info interfaceIdx ifDesc) ifDesc.extra blocks rest) ∧
    (firstSetting config interfaceIdx = some ifDesc →
      (scanStreaming config info interfaceIdx = do
        let (ret, streamIf) ← scan 3 Ret.errorInvalidDevice parseVsAt
          { bInterfaceNumber := ifDesc.bInterfaceNumber } ifDesc.extra
        return (ret, { info with streamIfs := info.streamIfs ++ [streamIf] })) ∧
      ∃ blocks rest, Walks 3 Ret.errorInvalidDevice parseVsAt
        { bInterfaceNumber := ifDesc.bInterfaceNumber } ifDesc.extra blocks rest) :=
  ⟨fun h => ⟨scanControl_eq h info, _, _,
      scan_walks (by omega) Ret.errorInvalidDevice_ne (parseVcAt config) _ _⟩,
    fun h => ⟨scanStreaming_eq h info, _, _,
      scan_walks (by omega) Ret.errorInvalidDevice_ne parseVsAt _ _⟩⟩

/-- What the loop answers, and the blocks that it hands over. -/
def handsOver {σ : Type} (f : σ → Block → Checked (Ret × σ)) (s : σ) (extra : List UInt8) :
    Option (Ret × List (List UInt8)) :=
  (scan 3 Ret.errorInvalidDevice (logging f) (s, []) extra).toOption.map fun p =>
    (p.1, p.2.2.map Block.own)

/-- The class-specific bytes of three interfaces.  The VideoControl one ends in a length that makes
no sense.  In the first streaming interface the input header is shorter than its fields; in the
second a frame-based format is too short and is refused. -/
def roughExtra : List UInt8 × List UInt8 × List UInt8 :=
  ([13, 36, 1, 0x00, 0x01, 0, 0, 0, 0, 0, 0, 1, 1] ++ [4, 36, 4, 7] ++ [2, 36, 4],
    [5, 36, 1, 0, 0] ++ [11, 36, 6, 1, 0, 0, 1, 0, 0, 0, 0],
    [3, 36, 13] ++ [5, 36, 16, 1, 1] ++ [3, 36, 13])

def roughCamera : ConfigDescriptor where
  interface := [
    { altsetting := [{
        bInterfaceClass := 14
        bInterfaceSubClass := 1
        extra := roughExtra.1 }] },
    { altsetting := [{ bInterfaceNumber := 1, extra := roughExtra.2.1 }] },
    { altsetting := [{ bInterfaceNumber := 2, extra := roughExtra.2.2 }] }]

/-- The header and the selector unit are handed over, and the bad length is the answer; the format
behind the short header is handed over too, and both are accepted; the loop stops at the format that
is refused. -/
theorem scanners_walk_rough :
    Walks 3 Ret.errorInvalidDevice (parseVcAt roughCamera) {} roughExtra.1
        [[13, 36, 1, 0x00, 0x01, 0, 0, 0, 0, 0, 0, 1, 1], [4, 36, 4, 7]] [2, 36, 4] ∧
      handsOver (parseVcAt roughCamera) {} roughExtra.1 = some (Ret.errorInvalidDevice,
        [[13, 36, 1, 0x00, 0x01, 0, 0, 0, 0, 0, 0, 1, 1], [4, 36, 4, 7]]) ∧
    Walks 3 Ret.errorInvalidDevice parseVsAt { bInterfaceNumber := 1 } roughExtra.2.1
        [[5, 36, 1, 0, 0], [11, 36, 6, 1, 0, 0, 1, 0, 0, 0, 0]] [] ∧
      handsOver parseVsAt { bInterfaceNumber := 1 } roughExtra.2.1 = some (Ret.success,
        [[5, 36, 1, 0, 0], [11, 36, 6, 1, 0, 0, 1, 0, 0, 0, 0]]) ∧
    Walks 3 Ret.errorInvalidDevice parseVsAt { bInterfaceNumber := 2 } roughExtra.2.2
        [[3, 36, 13], [5, 36, 16, 1, 1], [3, 36, 13]] [] ∧
      handsOver parseVsAt { bInterfaceNumber := 2 } roughExtra.2.2 = some (Ret.errorInvalidDevice,
        [[3, 36, 13], [5, 36, 16, 1, 1]]) := by
  obtain ⟨-, blocks, rest, hcontrol⟩ := (scanners_walk none roughCamera {} 0 _).1 rfl
  obtain ⟨-, blocks1, rest1, hshort⟩ := (scanners_walk none roughCamera {} 1 _).2 rfl
  obtain ⟨-, blocks2, rest2, hrefused⟩ := (scanners_walk none roughCamera {} 2 _).2 rfl
  obtain ⟨rfl, rfl⟩ := Prod.mk.inj ((chain_iff (by omega)).1 hcontrol.chain)
  obtain ⟨rfl, rfl⟩ := Prod.mk.inj ((chain_iff (by omega)).1 hshort.chain)
  obtain ⟨rfl, rfl⟩ := Prod.mk.inj ((chain_iff (by omega)).1 hrefused.chain)
  exact ⟨hcontrol, by decide, hshort, by decide, hrefused, by decide⟩

end Descriptor
end LibUvc
