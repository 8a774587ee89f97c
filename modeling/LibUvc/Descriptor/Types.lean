import LibUvc.Basic

/-!
# Descriptors

The two sides of the descriptor scanner in `device.c`.  What comes in is a `ConfigDescriptor`, the
configuration descriptor as libusb hands it over: interfaces, their alternate settings, and with
each setting the class-specific bytes, `extra`.  What comes out is a `DeviceInfo`, the tree that the
rest of the library works on.

An array of libusb's comes with its length in a field next to it (`bNumInterfaces`,
`num_altsetting`, `bNumEndpoints`, `extra_length`); here it is a list, whose length that is.  The
lists of the tree are the source's doubly linked ones, in order, and a node's `parent` is the node
it sits in.  The records start out all zero, as `calloc` leaves them.
-/

set_option autoImplicit false

namespace LibUvc
namespace Descriptor

/-! ## What libusb delivers -/

/-- `struct libusb_interface_descriptor`, as far as the scanner reads it. -/
structure InterfaceDescriptor where
  bInterfaceNumber : UInt8 := 0
  bInterfaceClass : UInt8 := 0
  bInterfaceSubClass : UInt8 := 0
  /-- The `bEndpointAddress` of each endpoint. -/
  endpoint : List UInt8 := []
  extra : List UInt8 := []
  deriving DecidableEq, Repr

/-- `struct libusb_interface`. -/
structure Interface where
  altsetting : List InterfaceDescriptor
  deriving DecidableEq, Repr

/-- `struct libusb_config_descriptor`. -/
structure ConfigDescriptor where
  interface : List Interface
  deriving DecidableEq, Repr

/-- `uvc_device_descriptor_t`: the two identifiers that the scanner looks at. -/
structure DeviceDescriptor where
  idVendor : UInt16
  idProduct : UInt16
  deriving DecidableEq, Repr

/-! ## Descriptor subtypes -/

/-- `enum uvc_vc_desc_subtype`. -/
inductive VcSubtype where
  | header
  | inputTerminal
  | outputTerminal
  | selectorUnit
  | processingUnit
  | extensionUnit
  /-- `UVC_VC_DESCRIPTOR_UNDEFINED`, and what is not in the enumeration. -/
  | other (code : UInt8)
  deriving DecidableEq, Repr

def VcSubtype.ofByte (b : UInt8) : VcSubtype :=
  if b = 0x01 then .header
  else if b = 0x02 then .inputTerminal
  else if b = 0x03 then .outputTerminal
  else if b = 0x04 then .selectorUnit
  else if b = 0x05 then .processingUnit
  else if b = 0x06 then .extensionUnit
  else .other b

/-- `enum uvc_vs_desc_subtype`. -/
inductive VsSubtype where
  | inputHeader
  | outputHeader
  | stillImageFrame
  | formatUncompressed
  | frameUncompressed
  | formatMjpeg
  | frameMjpeg
  | formatMpeg2ts
  | formatDv
  | colorformat
  | formatFrameBased
  | frameFrameBased
  | formatStreamBased
  /-- `UVC_VS_UNDEFINED`, and what is not in the enumeration. -/
  | other (code : UInt8)
  deriving DecidableEq, Repr

def VsSubtype.ofByte (b : UInt8) : VsSubtype :=
  if b = 0x01 then .inputHeader
  else if b = 0x02 then .outputHeader
  else if b = 0x03 then .stillImageFrame
  else if b = 0x04 then .formatUncompressed
  else if b = 0x05 then .frameUncompressed
  else if b = 0x06 then .formatMjpeg
  else if b = 0x07 then .frameMjpeg
  else if b = 0x0a then .formatMpeg2ts
  else if b = 0x0c then .formatDv
  else if b = 0x0d then .colorformat
  else if b = 0x10 then .formatFrameBased
  else if b = 0x11 then .frameFrameBased
  else if b = 0x12 then .formatStreamBased
  else .other b

/-- `UVC_ITT_CAMERA`. -/
def ittCamera : UInt16 := 0x0201

/-! ## The VideoStreaming tree -/

/-- `uvc_still_frame_res_t`. -/
structure StillFrameRes where
  bResolutionIndex : UInt8
  wWidth : UInt16
  wHeight : UInt16
  deriving DecidableEq, Repr

/-- `struct uvc_still_frame_desc`. -/
structure StillFrameDesc where
  bDescriptorSubtype : VsSubtype
  bEndPointAddress : UInt8
  imageSizePatterns : List StillFrameRes := []
  bNumCompressionPattern : UInt8 := 0
  bCompression : List UInt8 := []
  deriving DecidableEq, Repr

/-- `uvc_frame_desc_t`. -/
structure FrameDesc where
  bDescriptorSubtype : VsSubtype
  bFrameIndex : UInt8 := 0
  bmCapabilities : UInt8 := 0
  wWidth : UInt16 := 0
  wHeight : UInt16 := 0
  dwMinBitRate : UInt32 := 0
  dwMaxBitRate : UInt32 := 0
  dwMaxVideoFrameBufferSize : UInt32 := 0
  dwDefaultFrameInterval : UInt32 := 0
  dwMinFrameInterval : UInt32 := 0
  dwMaxFrameInterval : UInt32 := 0
  dwFrameIntervalStep : UInt32 := 0
  bFrameIntervalType : UInt8 := 0
  dwBytesPerLine : UInt32 := 0
  /-- Zero-terminated; empty for the null pointer. -/
  intervals : List UInt32 := []
  deriving DecidableEq, Repr

/-- `uvc_format_desc_t`. -/
structure FormatDesc where
  bDescriptorSubtype : VsSubtype
  bFormatIndex : UInt8 := 0
  bNumFrameDescriptors : UInt8 := 0
  /-- `guidFormat`, whose first 4 bytes are also `fourccFormat`. -/
  guidFormat : List UInt8 := List.replicate 16 0
  /-- `bBitsPerPixel`, which shares its storage with `bmFlags`. -/
  bBitsPerPixel : UInt8 := 0
  bDefaultFrameIndex : UInt8 := 0
  bAspectRatioX : UInt8 := 0
  bAspectRatioY : UInt8 := 0
  bmInterlaceFlags : UInt8 := 0
  bCopyProtect : UInt8 := 0
  bVariableSize : UInt8 := 0
  frameDescs : List FrameDesc := []
  stillFrameDesc : List StillFrameDesc := []
  deriving DecidableEq, Repr

/-- `uvc_streaming_interface_t`. -/
structure StreamingInterface where
  bInterfaceNumber : UInt8
  formatDescs : List FormatDesc := []
  bEndpointAddress : UInt8 := 0
  bTerminalLink : UInt8 := 0
  bStillCaptureMethod : UInt8 := 0
  deriving DecidableEq, Repr

/-! ## The VideoControl tree -/

/-- `uvc_input_terminal_t`. -/
structure InputTerminal where
  bTerminalID : UInt8
  wTerminalType : UInt16
  wObjectiveFocalLengthMin : UInt16
  wObjectiveFocalLengthMax : UInt16
  wOcularFocalLength : UInt16
  bmControls : UInt64
  deriving DecidableEq, Repr

/-- `uvc_processing_unit_t`. -/
structure ProcessingUnit where
  bUnitID : UInt8
  bSourceID : UInt8
  bmControls : UInt64
  deriving DecidableEq, Repr

/-- `uvc_selector_unit_t`. -/
structure SelectorUnit where
  bUnitID : UInt8
  deriving DecidableEq, Repr

/-- `uvc_extension_unit_t`. -/
structure ExtensionUnit where
  bUnitID : UInt8
  guidExtensionCode : List UInt8
  bmControls : UInt64
  deriving DecidableEq, Repr

/-- `uvc_control_interface_t`. -/
structure ControlInterface where
  inputTermDescs : List InputTerminal := []
  selectorUnitDescs : List SelectorUnit := []
  processingUnitDescs : List ProcessingUnit := []
  extensionUnitDescs : List ExtensionUnit := []
  bcdUVC : UInt16 := 0
  dwClockFrequency : UInt32 := 0
  bEndpointAddress : UInt8 := 0
  bInterfaceNumber : UInt8 := 0
  deriving DecidableEq, Repr

/-- `uvc_device_info_t`, without its pointer to the configuration descriptor. -/
structure DeviceInfo where
  ctrlIf : ControlInterface := {}
  streamIfs : List StreamingInterface := []
  deriving DecidableEq, Repr

end Descriptor
end LibUvc
