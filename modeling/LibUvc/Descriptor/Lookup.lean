import LibUvc.Descriptor.Types

/-!
# Looking up frame descriptors

A stream names its format and its frame by two small indices, and the indices are per interface: the
descriptors of another streaming interface may use the same pair for something else.  `stream.c`
resolves the pair in two ways.

* `findFrameDescStreamIf` searches one interface, and is what `uvc_stream_start` uses;
* `findFrameDesc` searches all interfaces of the device in order, and is what `_uvc_populate_frame`
  and the fix-ups of `uvc_query_stream_ctrl` use.

`findFrameDesc_eq` says what the second one finds in terms of the first: the interfaces in front of
the stream's own have the first say.

A frame descriptor is handed out together with the format it sits in, its `parent`.  The format
table of the source ends the file.
-/

set_option autoImplicit false

namespace LibUvc
namespace Descriptor

/-! ## The two lookups -/

/-- `_uvc_find_frame_desc_stream_if`, and with it `uvc_find_frame_desc_stream`.  A second format
with the same index is searched when the first one has no such frame. -/
def findFrameDescStreamIf (streamIf : StreamingInterface) (formatId frameId : UInt16) :
    Option (FormatDesc × FrameDesc) :=
  streamIf.formatDescs.findSome? fun format =>
    if format.bFormatIndex.toUInt16 = formatId then
      (format.frameDescs.find? fun frame => frame.bFrameIndex.toUInt16 = frameId).map (format, ·)
    else none

/-- `uvc_find_frame_desc`. -/
def findFrameDesc (info : DeviceInfo) (formatId frameId : UInt16) :
    Option (FormatDesc × FrameDesc) :=
  info.streamIfs.findSome? fun streamIf => findFrameDescStreamIf streamIf formatId frameId

/-- `_uvc_get_stream_if`. -/
def getStreamIf (info : DeviceInfo) (interfaceIdx : UInt8) : Option StreamingInterface :=
  info.streamIfs.find? fun streamIf => streamIf.bInterfaceNumber = interfaceIdx

/-- What the streaming interfaces in front of the first one numbered `interfaceIdx` have to say. -/
def findAhead (info : DeviceInfo) (interfaceIdx : UInt8) (formatId frameId : UInt16) :
    Option (FormatDesc × FrameDesc) :=
  (info.streamIfs.takeWhile fun streamIf => streamIf.bInterfaceNumber ≠ interfaceIdx).findSome?
    fun streamIf => findFrameDescStreamIf streamIf formatId frameId

/-- Where the interface of a number sits: right behind those that have another number. -/
theorem streamIfs_eq_of_getStreamIf {info : DeviceInfo} {interfaceIdx : UInt8}
    {own : StreamingInterface} (h : getStreamIf info interfaceIdx = some own) :
    ∃ rest, info.streamIfs = (info.streamIfs.takeWhile fun streamIf =>
      streamIf.bInterfaceNumber ≠ interfaceIdx) ++ own :: rest := by
  obtain ⟨hown, pre, rest, heq, hpre⟩ := List.find?_eq_some_iff_append.1 h
  refine ⟨rest, ?_⟩
  have hne : ∀ streamIf ∈ pre, decide (streamIf.bInterfaceNumber ≠ interfaceIdx) = true := by
    intro streamIf hmem
    simpa using hpre streamIf hmem
  rw [heq, List.takeWhile_append_of_pos hne, List.takeWhile_cons_of_neg (by simpa using hown),
    List.append_nil]

/-- **The lookup over the whole device** finds what an interface in front has, and only then what
the interface itself has. -/
theorem findFrameDesc_eq {info : DeviceInfo} {interfaceIdx : UInt8} {own : StreamingInterface}
    (hown : getStreamIf info interfaceIdx = some own) {formatId frameId : UInt16}
    {d : FormatDesc × FrameDesc} (h : findFrameDescStreamIf own formatId frameId = some d) :
    findFrameDesc info formatId frameId =
      some ((findAhead info interfaceIdx formatId frameId).getD d) := by
  obtain ⟨rest, heq⟩ := streamIfs_eq_of_getStreamIf hown
  rw [findFrameDesc, findAhead]
  generalize (info.streamIfs.takeWhile fun streamIf =>
    streamIf.bInterfaceNumber ≠ interfaceIdx) = pre at heq ⊢
  rw [heq, List.findSome?_append, List.findSome?_cons, h]
  cases pre.findSome? fun streamIf => findFrameDescStreamIf streamIf formatId frameId <;> rfl

/-! ## The format table -/

/-- The tail that the GUIDs made from a FourCC share. -/
def fourccTail : List UInt8 :=
  [0x00, 0x00, 0x10, 0x00, 0x80, 0x00, 0x00, 0xaa, 0x00, 0x38, 0x9b, 0x71]

/-- The `guid` of `_get_format_entry`.  The abstract formats have an entry of zeros, and none of
the entries is marked as abstract. -/
def formatGuid : FrameFormat → List UInt8
  | .unknown | .uncompressed | .compressed => List.replicate 16 0
  | .yuyv => [0x59, 0x55, 0x59, 0x32] ++ fourccTail
  | .uyvy => [0x55, 0x59, 0x56, 0x59] ++ fourccTail
  | .gray8 => [0x59, 0x38, 0x30, 0x30] ++ fourccTail
  | .gray16 => [0x59, 0x31, 0x36, 0x20] ++ fourccTail
  | .nv12 => [0x4e, 0x56, 0x31, 0x32] ++ fourccTail
  | .p010 => [0x50, 0x30, 0x31, 0x30] ++ fourccTail
  | .bgr => [0x7d, 0xeb, 0x36, 0xe4, 0x4f, 0x52, 0xce, 0x11, 0x9f, 0x53, 0x00, 0x20, 0xaf, 0x0b,
      0xa7, 0x70]
  | .rgb => [0x7e, 0xeb, 0x36, 0xe4, 0x4f, 0x52, 0xce, 0x11, 0x9f, 0x53, 0x00, 0x20, 0xaf, 0x0b,
      0xa7, 0x70]
  | .by8 => [0x42, 0x59, 0x38, 0x20] ++ fourccTail
  | .ba81 => [0x42, 0x41, 0x38, 0x31] ++ fourccTail
  | .sgrbg8 => [0x47, 0x52, 0x42, 0x47] ++ fourccTail
  | .sgbrg8 => [0x47, 0x42, 0x52, 0x47] ++ fourccTail
  | .srggb8 => [0x52, 0x47, 0x47, 0x42] ++ fourccTail
  | .sbggr8 => [0x42, 0x47, 0x47, 0x52] ++ fourccTail
  | .mjpeg => [0x4d, 0x4a, 0x50, 0x47] ++ List.replicate 12 0
  | .h264 => [0x48, 0x32, 0x36, 0x34] ++ fourccTail
  | .h265 => [0x48, 0x32, 0x36, 0x35] ++ fourccTail

/-- The values of `enum uvc_frame_format` in order. -/
def frameFormats : List FrameFormat :=
  [.unknown, .uncompressed, .compressed, .yuyv, .uyvy, .rgb, .bgr, .mjpeg, .h264, .h265, .gray8,
    .gray16, .by8, .ba81, .sgrbg8, .sgbrg8, .srggb8, .sbggr8, .nv12, .p010]

/-- `uvc_frame_format_for_guid`. -/
def frameFormatForGuid (guid : List UInt8) : FrameFormat :=
  (frameFormats.find? fun format => formatGuid format == guid).getD .unknown

end Descriptor
end LibUvc
