import LibUvc.Descriptor.Parse

/-!
# What a streaming interface says about itself

The other direction of the scanner: a description of a streaming interface in its own terms, the
bytes that a device sends for it, and the tree that stands for it in the library.

* `StreamSpec` is the description: an input header, then formats, each with its frames, its still
  images and any blocks that the library does not look into (`FormatSpec.body`).  A block says its
  own length in one byte, so a part whose length varies carries a bound on it as a field, and a
  description that does not fit in its blocks cannot be written down.
* `StreamSpec.encode` is the block layout of the USB Video Class.  Every block is `block subtype
  body`; a frame is laid out after the format that it belongs to.  Fields that the scanner skips
  (`bNumFormats`, `bTriggerUsage`, …) are there all the same and may hold anything.
* `StreamSpec.tree` is the tree.  It is not quite the description again: the endpoint address is
  masked, an MJPEG format has its name and not its flags, an interval of zero becomes one, and
  `repaired` is what the library makes of a buffer size or a default interval that cannot be meant.
-/

set_option autoImplicit false

namespace LibUvc
namespace Descriptor

/-- A class-specific interface block (`CS_INTERFACE`, 0x24): its length, its type, its subtype and
what follows. -/
def block (subtype : UInt8) (body : List UInt8) : List UInt8 :=
  [UInt8.ofNat (3 + body.length), 0x24, subtype] ++ body

/-! ## Blocks that are skipped -/

/-- The subtypes that `uvc_parse_vs` does nothing with. -/
def VsSubtype.ignored : VsSubtype → Bool
  | .outputHeader | .formatMpeg2ts | .formatDv | .colorformat | .formatStreamBased | .other _ =>
    true
  | _ => false

structure IgnoredSpec where
  subtype : UInt8
  body : List UInt8
  ignored : (VsSubtype.ofByte subtype).ignored = true
  small : 3 + body.length ≤ 255

def IgnoredSpec.encode (spec : IgnoredSpec) : List UInt8 := block spec.subtype spec.body

/-! ## The input header -/

structure HeaderSpec where
  bNumFormats : UInt8
  wTotalLength : UInt16
  bEndpointAddress : UInt8
  bmInfo : UInt8
  bTerminalLink : UInt8
  bStillCaptureMethod : UInt8
  bTriggerSupport : UInt8
  bTriggerUsage : UInt8
  bControlSize : UInt8
  bmaControls : List UInt8
  small : 13 + bmaControls.length ≤ 255

def HeaderSpec.encode (spec : HeaderSpec) : List UInt8 :=
  block 0x01 ([spec.bNumFormats] ++ shortToSw spec.wTotalLength ++
    [spec.bEndpointAddress, spec.bmInfo, spec.bTerminalLink, spec.bStillCaptureMethod,
      spec.bTriggerSupport, spec.bTriggerUsage, spec.bControlSize] ++ spec.bmaControls)

/-! ## Frame intervals -/

/-- The intervals that a frame can be sent at: a list of them, or a range with a step.  A list of
none would read as a range. -/
inductive IntervalSpec where
  | discrete (intervals : List UInt32) (nonempty : intervals ≠ [])
      (few : 26 + 4 * intervals.length ≤ 255)
  | continuous (dwMinFrameInterval dwMaxFrameInterval dwFrameIntervalStep : UInt32)

/-- `bFrameIntervalType`. -/
def IntervalSpec.type : IntervalSpec → UInt8
  | .discrete intervals _ _ => UInt8.ofNat intervals.length
  | .continuous _ _ _ => 0

def IntervalSpec.encode : IntervalSpec → List UInt8
  | .discrete intervals _ _ => intervals.flatMap intToDw
  | .continuous least most step => intToDw least ++ intToDw most ++ intToDw step

/-- A discrete interval as it is kept. -/
def atLeastOne (interval : UInt32) : UInt32 := if interval ≠ 0 then interval else 1

/-- A frame with these intervals: a list is kept with a zero behind it. -/
def IntervalSpec.storeIn (frame : FrameDesc) : IntervalSpec → FrameDesc
  | .discrete intervals _ _ => { frame with intervals := intervals.map atLeastOne ++ [0] }
  | .continuous least most step => { frame with
      dwMinFrameInterval := least
      dwMaxFrameInterval := most
      dwFrameIntervalStep := step }

/-- The interval that comes first and the one that comes last. -/
def IntervalSpec.ends : IntervalSpec → UInt32 × UInt32
  | .discrete intervals nonempty _ =>
    (atLeastOne (intervals.head nonempty), atLeastOne (intervals.getLast nonempty))
  | .continuous least most _ => (least, most)

/-! ## Frames -/

/-- The three kinds of format. -/
inductive Codec where
  | uncompressed
  | mjpeg
  | frameBased
  deriving DecidableEq, Repr

structure FrameSpec where
  bFrameIndex : UInt8
  bmCapabilities : UInt8
  wWidth : UInt16
  wHeight : UInt16
  dwMinBitRate : UInt32
  dwMaxBitRate : UInt32
  dwDefaultFrameInterval : UInt32
  /-- `dwBytesPerLine` of a frame-based format, `dwMaxVideoFrameBufferSize` of the others. -/
  dwSize : UInt32
  intervals : IntervalSpec

/-- The subtype of the frames of a format. -/
def Codec.frameSubtype : Codec → UInt8
  | .uncompressed => 0x05
  | .mjpeg => 0x07
  | .frameBased => 0x11

/-- The 23 bytes between the subtype and the intervals.  The frames of a frame-based format have the
size of a line, behind the count of the intervals, where the others have the size of a buffer, in
front of the default interval. -/
def FrameSpec.front (spec : FrameSpec) (codec : Codec) : List UInt8 :=
  [spec.bFrameIndex, spec.bmCapabilities] ++ shortToSw spec.wWidth ++ shortToSw spec.wHeight ++
    intToDw spec.dwMinBitRate ++ intToDw spec.dwMaxBitRate ++
    match codec with
    | .uncompressed | .mjpeg =>
      intToDw spec.dwSize ++ intToDw spec.dwDefaultFrameInterval ++ [spec.intervals.type]
    | .frameBased =>
      intToDw spec.dwDefaultFrameInterval ++ [spec.intervals.type] ++ intToDw spec.dwSize

def FrameSpec.encode (spec : FrameSpec) (codec : Codec) : List UInt8 :=
  block codec.frameSubtype (spec.front codec ++ spec.intervals.encode)

/-- The frame as it was sent. -/
def FrameSpec.sent (spec : FrameSpec) (codec : Codec) : FrameDesc :=
  spec.intervals.storeIn {
    bDescriptorSubtype := VsSubtype.ofByte codec.frameSubtype
    bFrameIndex := spec.bFrameIndex
    bmCapabilities := spec.bmCapabilities
    wWidth := spec.wWidth
    wHeight := spec.wHeight
    dwMinBitRate := spec.dwMinBitRate
    dwMaxBitRate := spec.dwMaxBitRate
    dwMaxVideoFrameBufferSize := if codec = .frameBased then 0 else spec.dwSize
    dwDefaultFrameInterval := spec.dwDefaultFrameInterval
    bFrameIntervalType := spec.intervals.type
    dwBytesPerLine := if codec = .frameBased then spec.dwSize else 0 }

/-- The frame as it is kept in `format`: what `uvc_repair_frame_desc` makes of it. -/
def FrameSpec.repaired (spec : FrameSpec) (codec : Codec) (format : FormatDesc) : FrameDesc :=
  repairInterval (repairBufferSize format (spec.sent codec)) spec.intervals.ends.1
    spec.intervals.ends.2

/-! ## Still images -/

structure StillSpec where
  bEndPointAddress : UInt8
  /-- Width and height. -/
  imageSizePatterns : List (UInt16 × UInt16)
  bCompression : List UInt8
  small : 6 + 4 * imageSizePatterns.length + bCompression.length ≤ 255

/-- Width and height as they are sent. -/
def encodeSize (p : UInt16 × UInt16) : List UInt8 := shortToSw p.1 ++ shortToSw p.2

def StillSpec.encode (spec : StillSpec) : List UInt8 :=
  block 0x03 ([spec.bEndPointAddress, UInt8.ofNat spec.imageSizePatterns.length] ++
    spec.imageSizePatterns.flatMap encodeSize ++
    [UInt8.ofNat spec.bCompression.length] ++ spec.bCompression)

/-- The size patterns are numbered from one. -/
def StillSpec.tree (spec : StillSpec) : StillFrameDesc where
  bDescriptorSubtype := .stillImageFrame
  bEndPointAddress := spec.bEndPointAddress
  imageSizePatterns :=
    spec.imageSizePatterns.mapIdx fun i p => ⟨UInt8.ofNat (i + 1), p.1, p.2⟩
  bNumCompressionPattern := UInt8.ofNat spec.bCompression.length
  bCompression := spec.bCompression

/-! ## Formats -/

/-- What may come after a format, up to the next one. -/
inductive Item where
  | frame (spec : FrameSpec)
  | still (spec : StillSpec)
  | ignored (spec : IgnoredSpec)

def Item.encode (codec : Codec) : Item → List UInt8
  | .frame spec => spec.encode codec
  | .still spec => spec.encode
  | .ignored spec => spec.encode

def Item.frame? : Item → Option FrameSpec
  | .frame spec => some spec
  | _ => none

def Item.still? : Item → Option StillSpec
  | .still spec => some spec
  | _ => none

/-- What a format block has that depends on the kind of the format. -/
inductive CodecSpec where
  | uncompressed (guidFormat : List UInt8) (sixteen : guidFormat.length = 16)
      (bBitsPerPixel : UInt8)
  | mjpeg (bmFlags : UInt8)
  | frameBased (guidFormat : List UInt8) (sixteen : guidFormat.length = 16)
      (bBitsPerPixel bVariableSize : UInt8)

def CodecSpec.codec : CodecSpec → Codec
  | .uncompressed _ _ _ => .uncompressed
  | .mjpeg _ => .mjpeg
  | .frameBased _ _ _ _ => .frameBased

structure FormatSpec where
  kind : CodecSpec
  bFormatIndex : UInt8
  bNumFrameDescriptors : UInt8
  bDefaultFrameIndex : UInt8
  bAspectRatioX : UInt8
  bAspectRatioY : UInt8
  bmInterlaceFlags : UInt8
  bCopyProtect : UInt8
  body : List Item

/-- The five bytes that all formats have. -/
def FormatSpec.common (spec : FormatSpec) : List UInt8 :=
  [spec.bDefaultFrameIndex, spec.bAspectRatioX, spec.bAspectRatioY, spec.bmInterlaceFlags,
    spec.bCopyProtect]

/-- The block of the format itself. -/
def FormatSpec.encodeFormat (spec : FormatSpec) : List UInt8 :=
  match spec.kind with
  | .uncompressed guidFormat _ bBitsPerPixel =>
    block 0x04 ([spec.bFormatIndex, spec.bNumFrameDescriptors] ++ guidFormat ++
      [bBitsPerPixel] ++ spec.common)
  | .mjpeg bmFlags =>
    block 0x06 ([spec.bFormatIndex, spec.bNumFrameDescriptors, bmFlags] ++ spec.common)
  | .frameBased guidFormat _ bBitsPerPixel bVariableSize =>
    block 0x10 ([spec.bFormatIndex, spec.bNumFrameDescriptors] ++ guidFormat ++
      [bBitsPerPixel] ++ spec.common ++ [bVariableSize])

/-- The blocks of a format: its own, then those of what belongs to it. -/
def FormatSpec.blocks (spec : FormatSpec) : List (List UInt8) :=
  spec.encodeFormat :: spec.body.map (Item.encode spec.kind.codec)

/-- The format before anything was found to belong to it.  `bNumFrameDescriptors` is kept for a
frame-based format only, and the flags of an MJPEG format are not kept. -/
def FormatSpec.bare (spec : FormatSpec) : FormatDesc :=
  match spec.kind with
  | .uncompressed guidFormat _ bBitsPerPixel => {
      bDescriptorSubtype := .formatUncompressed
      bFormatIndex := spec.bFormatIndex
      guidFormat := guidFormat
      bBitsPerPixel := bBitsPerPixel
      bDefaultFrameIndex := spec.bDefaultFrameIndex
      bAspectRatioX := spec.bAspectRatioX
      bAspectRatioY := spec.bAspectRatioY
      bmInterlaceFlags := spec.bmInterlaceFlags
      bCopyProtect := spec.bCopyProtect }
  | .mjpeg _ => {
      bDescriptorSubtype := .formatMjpeg
      bFormatIndex := spec.bFormatIndex
      guidFormat := guidMjpg
      bBitsPerPixel := 0
      bDefaultFrameIndex := spec.bDefaultFrameIndex
      bAspectRatioX := spec.bAspectRatioX
      bAspectRatioY := spec.bAspectRatioY
      bmInterlaceFlags := spec.bmInterlaceFlags
      bCopyProtect := spec.bCopyProtect }
  | .frameBased guidFormat _ bBitsPerPixel bVariableSize => {
      bDescriptorSubtype := .formatFrameBased
      bFormatIndex := spec.bFormatIndex
      bNumFrameDescriptors := spec.bNumFrameDescriptors
      guidFormat := guidFormat
      bBitsPerPixel := bBitsPerPixel
      bDefaultFrameIndex := spec.bDefaultFrameIndex
      bAspectRatioX := spec.bAspectRatioX
      bAspectRatioY := spec.bAspectRatioY
      bmInterlaceFlags := spec.bmInterlaceFlags
      bCopyProtect := spec.bCopyProtect
      bVariableSize := bVariableSize }

/-- The format with its frames and its still images, in order. -/
def FormatSpec.tree (spec : FormatSpec) : FormatDesc :=
  { spec.bare with
    frameDescs := (spec.body.filterMap Item.frame?).map (·.repaired spec.kind.codec spec.bare)
    stillFrameDesc := (spec.body.filterMap Item.still?).map StillSpec.tree }

/-! ## Streaming interfaces -/

structure StreamSpec where
  /-- Skipped blocks in front of the header. -/
  lead : List IgnoredSpec
  header : HeaderSpec
  /-- Skipped blocks between the header and the first format. -/
  gap : List IgnoredSpec
  formats : List FormatSpec

def StreamSpec.blocks (spec : StreamSpec) : List (List UInt8) :=
  spec.lead.map IgnoredSpec.encode ++ spec.header.encode :: spec.gap.map IgnoredSpec.encode ++
    spec.formats.flatMap FormatSpec.blocks

/-- The class-specific bytes of the interface. -/
def StreamSpec.encode (spec : StreamSpec) : List UInt8 := spec.blocks.flatten

/-- What the library is to know of the interface with this number. -/
def StreamSpec.tree (spec : StreamSpec) (bInterfaceNumber : UInt8) : StreamingInterface where
  bInterfaceNumber := bInterfaceNumber
  formatDescs := spec.formats.map FormatSpec.tree
  bEndpointAddress := spec.header.bEndpointAddress &&& 0x8f
  bTerminalLink := spec.header.bTerminalLink
  bStillCaptureMethod := spec.header.bStillCaptureMethod

end Descriptor
end LibUvc
