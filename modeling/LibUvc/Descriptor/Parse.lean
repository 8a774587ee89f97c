import LibUvc.Descriptor.Types
import LibUvc.Foundation.Scan

/-!
# Scanning the descriptors of a device

`uvc_scan_control` of `device.c` and everything it calls.  It looks for the VideoControl interface,
walks the class-specific blocks of its first alternate setting, and for each streaming interface
that a header block names walks that interface's blocks in turn.

A parser gets a pointer into the class-specific bytes of an interface, which is the list of all the
bytes from there on, and the size of its block.  Most of them never look at the size, so what they
read may belong to the next block; a fault is a read behind the last of the bytes.  The arrays of
the configuration descriptor and those the parsers allocate are checked in the same way, and
following `format_descs` when it is null is a fault too.  Allocations succeed.

`Reach` is about the blocks: `uvc_scan_control` is `scanControl`, and `scanControlIn .block` is the
same with every block cut off at its end, where a read behind the block is a fault as well.

A parser changes the tree it was given and answers with a code; `scan` is the loop over the blocks
and `forEach` the one over the interfaces that a header names.
-/

set_option autoImplicit false

namespace LibUvc
namespace Descriptor

open Checked Scan

/-! ## Reading fields -/

/-- `buf[off] + (buf[off + 1] << 8)`, as the frame parsers spell a 16-bit field. -/
def readSum (buf : List UInt8) (off : Nat) : Checked UInt16 := do
  let lo ← readByte buf off
  let hi ← readByte buf (off + 1)
  return lo.toUInt16 + (hi.toUInt16 <<< 8)

/-- The loops over `bmControls`: from the last of the `n` bytes at `base` down to the first. -/
def controlBits (block : List UInt8) (base : Nat) : Nat → UInt64 → Checked UInt64
  | 0, bits => return bits
  | n + 1, bits => do
    let b ← readByte block (base + n)
    controlBits block base n (b.toUInt64 + (bits <<< 8))

/-! ## VideoStreaming blocks -/

/-- `stream_if->format_descs->prev`: the list is circular backwards, so this is the last format. -/
def lastFormat (streamIf : StreamingInterface) : Checked FormatDesc :=
  match streamIf.formatDescs.getLast? with
  | some format => .ok format
  | none => .error .nullPointer

/-- The streaming interface after its last format was changed to `format`. -/
def StreamingInterface.setLastFormat (streamIf : StreamingInterface) (format : FormatDesc) :
    StreamingInterface :=
  { streamIf with formatDescs := streamIf.formatDescs.dropLast ++ [format] }

/-- `DL_APPEND(stream_if->format_descs, format)`. -/
def StreamingInterface.addFormat (streamIf : StreamingInterface) (format : FormatDesc) :
    StreamingInterface :=
  { streamIf with formatDescs := streamIf.formatDescs ++ [format] }

/-- `uvc_parse_vs_input_header`. -/
def parseVsInputHeader (streamIf : StreamingInterface) (block : List UInt8) :
    Checked (Ret × StreamingInterface) := do
  let bEndpointAddress ← readByte block 6
  let bTerminalLink ← readByte block 8
  let bStillCaptureMethod ← readByte block 9
  return (Ret.success, { streamIf with
    bEndpointAddress := bEndpointAddress &&& 0x8f
    bTerminalLink := bTerminalLink
    bStillCaptureMethod := bStillCaptureMethod })

/-- `uvc_parse_vs_format_uncompressed`. -/
def parseVsFormatUncompressed (streamIf : StreamingInterface) (block : List UInt8) :
    Checked (Ret × StreamingInterface) := do
  let bDescriptorSubtype ← readByte block 2
  let bFormatIndex ← readByte block 3
  let guidFormat ← slice block 5 16
  let bBitsPerPixel ← readByte block 21
  let bDefaultFrameIndex ← readByte block 22
  let bAspectRatioX ← readByte block 23
  let bAspectRatioY ← readByte block 24
  let bmInterlaceFlags ← readByte block 25
  let bCopyProtect ← readByte block 26
  return (Ret.success, streamIf.addFormat {
    bDescriptorSubtype := VsSubtype.ofByte bDescriptorSubtype
    bFormatIndex := bFormatIndex
    guidFormat := guidFormat
    bBitsPerPixel := bBitsPerPixel
    bDefaultFrameIndex := bDefaultFrameIndex
    bAspectRatioX := bAspectRatioX
    bAspectRatioY := bAspectRatioY
    bmInterlaceFlags := bmInterlaceFlags
    bCopyProtect := bCopyProtect })

/-- `uvc_parse_vs_frame_format`. -/
def parseVsFrameFormat (streamIf : StreamingInterface) (block : List UInt8) (blockSize : Nat) :
    Checked (Ret × StreamingInterface) :=
  if blockSize < 28 then return (Ret.errorInvalidDevice, streamIf)
  else do
    let bDescriptorSubtype ← readByte block 2
    let bFormatIndex ← readByte block 3
    let bNumFrameDescriptors ← readByte block 4
    let guidFormat ← slice block 5 16
    let bBitsPerPixel ← readByte block 21
    let bDefaultFrameIndex ← readByte block 22
    let bAspectRatioX ← readByte block 23
    let bAspectRatioY ← readByte block 24
    let bmInterlaceFlags ← readByte block 25
    let bCopyProtect ← readByte block 26
    let bVariableSize ← readByte block 27
    return (Ret.success, streamIf.addFormat {
      bDescriptorSubtype := VsSubtype.ofByte bDescriptorSubtype
      bFormatIndex := bFormatIndex
      bNumFrameDescriptors := bNumFrameDescriptors
      guidFormat := guidFormat
      bBitsPerPixel := bBitsPerPixel
      bDefaultFrameIndex := bDefaultFrameIndex
      bAspectRatioX := bAspectRatioX
      bAspectRatioY := bAspectRatioY
      bmInterlaceFlags := bmInterlaceFlags
      bCopyProtect := bCopyProtect
      bVariableSize := bVariableSize })

/-- `"MJPG"`, followed by the zeros `calloc` left. -/
def guidMjpg : List UInt8 := [0x4d, 0x4a, 0x50, 0x47] ++ List.replicate 12 0

/-- `uvc_parse_vs_format_mjpeg`.  `bmFlags` is read from `block[5]` and then overwritten, since it
shares its storage with `bBitsPerPixel`. -/
def parseVsFormatMjpeg (streamIf : StreamingInterface) (block : List UInt8) :
    Checked (Ret × StreamingInterface) := do
  let bDescriptorSubtype ← readByte block 2
  let bFormatIndex ← readByte block 3
  let _bmFlags ← readByte block 5
  let bDefaultFrameIndex ← readByte block 6
  let bAspectRatioX ← readByte block 7
  let bAspectRatioY ← readByte block 8
  let bmInterlaceFlags ← readByte block 9
  let bCopyProtect ← readByte block 10
  return (Ret.success, streamIf.addFormat {
    bDescriptorSubtype := VsSubtype.ofByte bDescriptorSubtype
    bFormatIndex := bFormatIndex
    guidFormat := guidMjpg
    bBitsPerPixel := 0
    bDefaultFrameIndex := bDefaultFrameIndex
    bAspectRatioX := bAspectRatioX
    bAspectRatioY := bAspectRatioY
    bmInterlaceFlags := bmInterlaceFlags
    bCopyProtect := bCopyProtect })

/-! ## Frames -/

/-- The first half of `uvc_repair_frame_desc`: a missing buffer size. -/
def repairBufferSize (format : FormatDesc) (frame : FrameDesc) : FrameDesc :=
  if frame.dwMaxVideoFrameBufferSize = 0 ∧ frame.wWidth ≠ 0 ∧ frame.wHeight ≠ 0 then
    { frame with
      dwMaxVideoFrameBufferSize :=
        if format.bBitsPerPixel ≠ 0 then
          format.bBitsPerPixel.toUInt32 * frame.wWidth.toUInt32 * frame.wHeight.toUInt32 / 8
        else frame.wWidth.toUInt32 * frame.wHeight.toUInt32 * 2 }
  else frame

/-- `min_interval` and `max_interval` of `uvc_repair_frame_desc`. -/
def intervalRange (frame : FrameDesc) : Checked (UInt32 × UInt32) :=
  if frame.bFrameIntervalType = 0 then
    return (frame.dwMinFrameInterval, frame.dwMaxFrameInterval)
  else do
    let minInterval ← readAt frame.intervals 0
    let maxInterval ← readAt frame.intervals (frame.bFrameIntervalType.toNat - 1)
    return (minInterval, maxInterval)

/-- The second half of `uvc_repair_frame_desc`: a default interval outside the range. -/
def repairInterval (frame : FrameDesc) (minInterval maxInterval : UInt32) : FrameDesc :=
  let default := frame.dwDefaultFrameInterval
  if minInterval ≠ 0 ∧ maxInterval ≠ 0 ∧ minInterval ≤ maxInterval ∧
      (default = 0 ∨ default < minInterval ∨ maxInterval < default) then
    let atLeast := if minInterval > default then minInterval else default
    { frame with dwDefaultFrameInterval := if maxInterval < atLeast then maxInterval else atLeast }
  else frame

/-- `uvc_repair_frame_desc`. -/
def repairFrameDesc (format : FormatDesc) (frame : FrameDesc) : Checked FrameDesc := do
  let frame := repairBufferSize format frame
  let (minInterval, maxInterval) ← intervalRange frame
  return repairInterval frame minInterval maxInterval

/-- One round of the loop over the discrete intervals. -/
def storeInterval (block : List UInt8) (i : Nat) (intervals : List UInt32) :
    Checked (List UInt32) := do
  let interval ← readDw block (26 + 4 * i)
  writeAt intervals i (if interval ≠ 0 then interval else 1)

/-- The end of both frame parsers' blocks: a range of intervals if `count` is 0, else a list of
them. -/
def parseIntervals (block : List UInt8) (count : UInt8) (frame : FrameDesc) :
    Checked FrameDesc :=
  if count = 0 then do
    let dwMinFrameInterval ← readDw block 26
    let dwMaxFrameInterval ← readDw block 30
    let dwFrameIntervalStep ← readDw block 34
    return { frame with
      dwMinFrameInterval := dwMinFrameInterval
      dwMaxFrameInterval := dwMaxFrameInterval
      dwFrameIntervalStep := dwFrameIntervalStep }
  else do
    let intervals ← times (storeInterval block) count.toNat (List.replicate (count.toNat + 1) 0)
    let intervals ← writeAt intervals count.toNat 0
    return { frame with intervals := intervals }

/-- `uvc_repair_frame_desc` and `DL_APPEND(format->frame_descs, frame)`. -/
def addFrame (streamIf : StreamingInterface) (format : FormatDesc) (frame : FrameDesc) :
    Checked (Ret × StreamingInterface) := do
  let frame ← repairFrameDesc format frame
  return (Ret.success,
    streamIf.setLastFormat { format with frameDescs := format.frameDescs ++ [frame] })

/-- `uvc_parse_vs_frame_frame`. -/
def parseVsFrameFrame (streamIf : StreamingInterface) (block : List UInt8) (blockSize : Nat) :
    Checked (Ret × StreamingInterface) :=
  if blockSize < 26 ∨ streamIf.formatDescs = [] then
    return (Ret.errorInvalidDevice, streamIf)
  else do
    let count ← readByte block 21
    if count = 0 ∧ blockSize < 38 ∨ count ≠ 0 ∧ blockSize < 26 + 4 * count.toNat then
      return (Ret.errorInvalidDevice, streamIf)
    else
      let format ← lastFormat streamIf
      let bDescriptorSubtype ← readByte block 2
      let bFrameIndex ← readByte block 3
      let bmCapabilities ← readByte block 4
      let wWidth ← readSum block 5
      let wHeight ← readSum block 7
      let dwMinBitRate ← readDw block 9
      let dwMaxBitRate ← readDw block 13
      let dwDefaultFrameInterval ← readDw block 17
      let bFrameIntervalType ← readByte block 21
      let dwBytesPerLine ← readDw block 22
      let frame ← parseIntervals block bFrameIntervalType {
        bDescriptorSubtype := VsSubtype.ofByte bDescriptorSubtype
        bFrameIndex := bFrameIndex
        bmCapabilities := bmCapabilities
        wWidth := wWidth
        wHeight := wHeight
        dwMinBitRate := dwMinBitRate
        dwMaxBitRate := dwMaxBitRate
        dwDefaultFrameInterval := dwDefaultFrameInterval
        bFrameIntervalType := bFrameIntervalType
        dwBytesPerLine := dwBytesPerLine }
      addFrame streamIf format frame

/-- `uvc_parse_vs_frame_uncompressed`, for uncompressed and MJPEG frames. -/
def parseVsFrameUncompressed (streamIf : StreamingInterface) (block : List UInt8) :
    Checked (Ret × StreamingInterface) := do
  let format ← lastFormat streamIf
  let bDescriptorSubtype ← readByte block 2
  let bFrameIndex ← readByte block 3
  let bmCapabilities ← readByte block 4
  let wWidth ← readSum block 5
  let wHeight ← readSum block 7
  let dwMinBitRate ← readDw block 9
  let dwMaxBitRate ← readDw block 13
  let dwMaxVideoFrameBufferSize ← readDw block 17
  let dwDefaultFrameInterval ← readDw block 21
  let bFrameIntervalType ← readByte block 25
  let frame ← parseIntervals block bFrameIntervalType {
    bDescriptorSubtype := VsSubtype.ofByte bDescriptorSubtype
    bFrameIndex := bFrameIndex
    bmCapabilities := bmCapabilities
    wWidth := wWidth
    wHeight := wHeight
    dwMinBitRate := dwMinBitRate
    dwMaxBitRate := dwMaxBitRate
    dwMaxVideoFrameBufferSize := dwMaxVideoFrameBufferSize
    dwDefaultFrameInterval := dwDefaultFrameInterval
    bFrameIntervalType := bFrameIntervalType }
  addFrame streamIf format frame

/-- One round of the loop over the size patterns; the source counts `i` from 1. -/
def addSizePattern (block : List UInt8) (i : Nat) (patterns : List StillFrameRes) :
    Checked (List StillFrameRes) := do
  let wWidth ← readSw block (5 + 4 * i)
  let wHeight ← readSw block (7 + 4 * i)
  return patterns ++ [⟨UInt8.ofNat (i + 1), wWidth, wHeight⟩]

/-- One round of the loop over the compression patterns, which start behind `start`. -/
def storeCompression (block : List UInt8) (start i : Nat) (bCompression : List UInt8) :
    Checked (List UInt8) := do
  let b ← readByte block (start + 1 + i)
  writeAt bCompression i b

/-- `uvc_parse_vs_still_image_frame`. -/
def parseVsStillImageFrame (streamIf : StreamingInterface) (block : List UInt8) :
    Checked (Ret × StreamingInterface) := do
  let format ← lastFormat streamIf
  let bDescriptorSubtype ← readByte block 2
  let bEndPointAddress ← readByte block 3
  let numImageSizePatterns ← readByte block 4
  let imageSizePatterns ← times (addSizePattern block) numImageSizePatterns.toNat []
  let start := 5 + 4 * numImageSizePatterns.toNat
  let bNumCompressionPattern ← readByte block start
  let bCompression ← times (storeCompression block start) bNumCompressionPattern.toNat
    (List.replicate bNumCompressionPattern.toNat 0)
  let frame : StillFrameDesc := {
    bDescriptorSubtype := VsSubtype.ofByte bDescriptorSubtype
    bEndPointAddress := bEndPointAddress
    imageSizePatterns := imageSizePatterns
    bNumCompressionPattern := bNumCompressionPattern
    bCompression := bCompression }
  return (Ret.success,
    streamIf.setLastFormat { format with stillFrameDesc := format.stillFrameDesc ++ [frame] })

/-- `uvc_parse_vs`.  The descriptor type, `block[1]`, is not looked at. -/
def parseVs (streamIf : StreamingInterface) (block : List UInt8) (blockSize : Nat) :
    Checked (Ret × StreamingInterface) := do
  let descriptorSubtype ← readByte block 2
  match VsSubtype.ofByte descriptorSubtype with
  | .inputHeader => parseVsInputHeader streamIf block
  | .stillImageFrame => parseVsStillImageFrame streamIf block
  | .formatUncompressed => parseVsFormatUncompressed streamIf block
  | .formatMjpeg => parseVsFormatMjpeg streamIf block
  | .frameUncompressed | .frameMjpeg => parseVsFrameUncompressed streamIf block
  | .formatFrameBased => parseVsFrameFormat streamIf block blockSize
  | .frameFrameBased => parseVsFrameFrame streamIf block blockSize
  | .outputHeader | .formatMpeg2ts | .formatDv | .colorformat | .formatStreamBased | .other _ =>
    return (Ret.success, streamIf)

/-- How far the parsers may read. -/
inductive Reach where
  /-- To the end of the interface's bytes. -/
  | extra
  /-- To the end of the block. -/
  | block
  deriving DecidableEq, Repr

/-- What a parser may read of a block and behind it. -/
def Reach.bytes : Reach → Block → List UInt8
  | .extra, b => b.bytes
  | .block, b => b.own

/-- `uvc_scan_streaming`.  The index comes out of a header block as a byte, so it is not
negative. -/
def scanStreamingIn (reach : Reach) (config : ConfigDescriptor) (info : DeviceInfo)
    (interfaceIdx : Nat) : Checked (Ret × DeviceInfo) :=
  if config.interface.length ≤ interfaceIdx then return (Ret.errorInvalidDevice, info)
  else do
    let interface ← readAt config.interface interfaceIdx
    if interface.altsetting.length < 1 then return (Ret.errorInvalidDevice, info)
    else
      let ifDesc ← readAt interface.altsetting 0
      let (ret, streamIf) ← scan 3 Ret.errorInvalidDevice
        (fun streamIf b => parseVs streamIf (reach.bytes b) b.size)
        { bInterfaceNumber := ifDesc.bInterfaceNumber } ifDesc.extra
      return (ret, { info with streamIfs := info.streamIfs ++ [streamIf] })

/-- `uvc_scan_streaming` as it is. -/
abbrev scanStreaming := scanStreamingIn .extra

/-! ## VideoControl blocks -/

/-- The versions of the specification that `uvc_parse_vc_header` knows. -/
def knownVersion (bcdUVC : UInt16) : Bool :=
  bcdUVC = 0x0100 || bcdUVC = 0x010a || bcdUVC = 0x0110 || bcdUVC = 0x0150

/-- One round of the loop of `uvc_parse_vc_header`: the interface that the byte at `i` names. -/
def scanNamed (reach : Reach) (config : ConfigDescriptor) (block : List UInt8) (info : DeviceInfo)
    (i : Nat) : Checked (Ret × DeviceInfo) := do
  let interfaceIdx ← readByte block i
  scanStreamingIn reach config info interfaceIdx.toNat

/-- `uvc_parse_vc_header`. -/
def parseVcHeader (reach : Reach) (config : ConfigDescriptor) (info : DeviceInfo)
    (block : List UInt8) (blockSize : Nat) : Checked (Ret × DeviceInfo) := do
  let bcdUVC ← readSw block 3
  let info := { info with ctrlIf := { info.ctrlIf with bcdUVC := bcdUVC } }
  if knownVersion bcdUVC then
    let dwClockFrequency ← readDw block 7
    let info := { info with ctrlIf := { info.ctrlIf with dwClockFrequency := dwClockFrequency } }
    forEach (scanNamed reach config block) info (List.range' 12 (blockSize - 12))
  else return (Ret.errorNotSupported, info)

/-- `uvc_parse_vc_input_terminal`. -/
def parseVcInputTerminal (info : DeviceInfo) (block : List UInt8) :
    Checked (Ret × DeviceInfo) := do
  let wTerminalType ← readSw block 4
  -- only camera-type input terminals are supported
  if wTerminalType ≠ ittCamera then return (Ret.success, info)
  else
    let bTerminalID ← readByte block 3
    let wTerminalType ← readSw block 4
    let wObjectiveFocalLengthMin ← readSw block 8
    let wObjectiveFocalLengthMax ← readSw block 10
    let wOcularFocalLength ← readSw block 12
    let bControlSize ← readByte block 14
    let bmControls ← controlBits block 15 bControlSize.toNat 0
    let term : InputTerminal := {
      bTerminalID := bTerminalID
      wTerminalType := wTerminalType
      wObjectiveFocalLengthMin := wObjectiveFocalLengthMin
      wObjectiveFocalLengthMax := wObjectiveFocalLengthMax
      wOcularFocalLength := wOcularFocalLength
      bmControls := bmControls }
    return (Ret.success, { info with ctrlIf := { info.ctrlIf with
      inputTermDescs := info.ctrlIf.inputTermDescs ++ [term] } })

/-- `uvc_parse_vc_processing_unit`. -/
def parseVcProcessingUnit (info : DeviceInfo) (block : List UInt8) :
    Checked (Ret × DeviceInfo) := do
  let bUnitID ← readByte block 3
  let bSourceID ← readByte block 4
  let bControlSize ← readByte block 7
  let bmControls ← controlBits block 8 bControlSize.toNat 0
  return (Ret.success, { info with ctrlIf := { info.ctrlIf with
    processingUnitDescs :=
      info.ctrlIf.processingUnitDescs ++ [⟨bUnitID, bSourceID, bmControls⟩] } })

/-- `uvc_parse_vc_selector_unit`. -/
def parseVcSelectorUnit (info : DeviceInfo) (block : List UInt8) :
    Checked (Ret × DeviceInfo) := do
  let bUnitID ← readByte block 3
  return (Ret.success, { info with ctrlIf := { info.ctrlIf with
    selectorUnitDescs := info.ctrlIf.selectorUnitDescs ++ [⟨bUnitID⟩] } })

/-- `uvc_parse_vc_extension_unit`. -/
def parseVcExtensionUnit (info : DeviceInfo) (block : List UInt8) :
    Checked (Ret × DeviceInfo) := do
  let bUnitID ← readByte block 3
  let guidExtensionCode ← slice block 4 16
  let numInPins ← readByte block 21
  let sizeOfControls ← readByte block (22 + numInPins.toNat)
  let bmControls ← controlBits block (23 + numInPins.toNat) sizeOfControls.toNat 0
  return (Ret.success, { info with ctrlIf := { info.ctrlIf with
    extensionUnitDescs :=
      info.ctrlIf.extensionUnitDescs ++ [⟨bUnitID, guidExtensionCode, bmControls⟩] } })

/-- `uvc_parse_vc`.  A block that is no `CS_INTERFACE` descriptor is skipped. -/
def parseVc (reach : Reach) (config : ConfigDescriptor) (info : DeviceInfo) (block : List UInt8)
    (blockSize : Nat) : Checked (Ret × DeviceInfo) := do
  let bDescriptorType ← readByte block 1
  if bDescriptorType ≠ 36 then return (Ret.success, info)
  else
    let descriptorSubtype ← readByte block 2
    match VcSubtype.ofByte descriptorSubtype with
    | .header => parseVcHeader reach config info block blockSize
    | .inputTerminal => parseVcInputTerminal info block
    | .outputTerminal => return (Ret.success, info)
    | .selectorUnit => parseVcSelectorUnit info block
    | .processingUnit => parseVcProcessingUnit info block
    | .extensionUnit => parseVcExtensionUnit info block
    | .other _ => return (Ret.errorInvalidDevice, info)

/-! ## The scan -/

/-- `haveTISCamera`, from what `get_device_descriptor` answered. -/
def haveTISCamera (devDesc : Option DeviceDescriptor) : Bool :=
  match devDesc with
  | some d => d.idVendor = 0x199e && (d.idProduct = 0x8101 || d.idProduct = 0x8102)
  | none => false

/-- The test in the loop of `uvc_scan_control`: Video, Control. -/
def isVideoControl (tis : Bool) (ifDesc : InterfaceDescriptor) : Bool :=
  tis && ifDesc.bInterfaceClass = 255 && ifDesc.bInterfaceSubClass = 1 ||
    ifDesc.bInterfaceClass = 14 && ifDesc.bInterfaceSubClass = 1

/-- The loop of `uvc_scan_control`: the first setting of the first interface that is a VideoControl
one, with the interface's index, counted from `idx`. -/
def findControl (tis : Bool) : Nat → List Interface → Checked (Option (Nat × InterfaceDescriptor))
  | _, [] => return none
  | idx, interface :: rest => do
    let ifDesc ← readAt interface.altsetting 0
    if isVideoControl tis ifDesc then return some (idx, ifDesc)
    else findControl tis (idx + 1) rest

/-- `uvc_scan_control`. -/
def scanControlIn (reach : Reach) (devDesc : Option DeviceDescriptor) (config : ConfigDescriptor)
    (info : DeviceInfo) : Checked (Ret × DeviceInfo) := do
  match ← findControl (haveTISCamera devDesc) 0 config.interface with
  | none => return (Ret.errorInvalidDevice, info)
  | some (interfaceIdx, ifDesc) =>
    let info := { info with ctrlIf := { info.ctrlIf with
      bInterfaceNumber := UInt8.ofNat interfaceIdx
      bEndpointAddress := ifDesc.endpoint.headD info.ctrlIf.bEndpointAddress } }
    scan 3 Ret.errorInvalidDevice (fun info b => parseVc reach config info (reach.bytes b) b.size)
      info ifDesc.extra

/-- `uvc_scan_control` as it is. -/
abbrev scanControl := scanControlIn .extra

end Descriptor
end LibUvc
