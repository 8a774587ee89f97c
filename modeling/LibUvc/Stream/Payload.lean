import LibUvc.Basic

/-!
# Assembling frames out of payloads

The receiving half of a stream handle: `_uvc_process_payload` and `_uvc_swap_buffers`, on the fields
of `struct uvc_stream_handle` that they and the frame consumers share.

A buffer is the list of all its bytes, so its length is the size it was allocated with and
`outbuf.take gotBytes` is the part of a frame received so far.  Every read of the payload and every
write to a buffer goes through `Checked`, so the functions below say not only what the code computes
but also when it would leave the objects it works on.

`_uvc_process_payload` is cut at the points where it calls `_uvc_swap_buffers`, since each such call
is a critical section of its own and a consumer may run between two of them:

* `payloadSplit` finds the header and the image data, and drops what the source drops;
* `headerInfo` reads the flags byte, or notes the error bit and drops the payload;
* `flips` is the test in front of the first swap, `noteHeader` what happens to the header after it;
* `appendData` copies the image data and says whether the second swap is due.

`processPayload` is their composition and also hands back what was published on the way.
-/

set_option autoImplicit false

namespace LibUvc
namespace Stream

open Checked

/-- `LIBUVC_XFER_META_BUF_SIZE`. -/
def xferMetaBufSize : Nat := 4 * 1024

/-- The part of `struct uvc_stream_handle` that frame assembly works on, with the one field of the
device handle it reads, `devh->is_isight`. -/
structure Assembly where
  /-- `devh->is_isight`: the camera sends one header packet per frame. -/
  isIsight : Bool
  curCtrl : StreamCtrl
  fid : UInt8 := 0
  seq : UInt32 := 0
  holdSeq : UInt32 := 0
  pts : UInt32 := 0
  holdPts : UInt32 := 0
  lastScr : UInt32 := 0
  holdLastScr : UInt32 := 0
  gotBytes : Nat := 0
  holdBytes : Nat := 0
  outbuf : List UInt8
  holdbuf : List UInt8
  metaGotBytes : Nat := 0
  metaHoldBytes : Nat := 0
  metaOutbuf : List UInt8
  metaHoldbuf : List UInt8
  frameHadErrors : Bool := false
  deriving DecidableEq, Repr

/-- `cur_ctrl.dwMaxVideoFrameSize`, the bound every copy into `outbuf` is clamped by. -/
abbrev Assembly.maxVideoFrameSize (s : Assembly) : UInt32 := s.curCtrl.dwMaxVideoFrameSize

/-- What a call of `_uvc_swap_buffers` puts up for the consumers, and whether it tells them. -/
structure Published where
  seq : UInt32
  data : List UInt8
  metadata : List UInt8
  pts : UInt32
  lastScr : UInt32
  /-- `frame_had_errors` at the time: the frame is meant to be suppressed. -/
  hadErrors : Bool
  deriving DecidableEq, Repr

/-! ## `_uvc_swap_buffers` -/

/-- The frame a swap would publish now. -/
def frameInProgress (s : Assembly) : Published where
  seq := s.seq
  data := s.outbuf.take s.gotBytes
  metadata := s.metaOutbuf.take s.metaGotBytes
  pts := s.pts
  lastScr := s.lastScr
  hadErrors := s.frameHadErrors

/-- The critical section of `_uvc_swap_buffers`. -/
def swapHold (s : Assembly) : Assembly :=
  { s with
    holdBytes := s.gotBytes
    holdbuf := s.outbuf
    outbuf := s.holdbuf
    holdLastScr := s.lastScr
    holdPts := s.pts
    holdSeq := s.seq
    metaHoldbuf := s.metaOutbuf
    metaOutbuf := s.metaHoldbuf
    metaHoldBytes := s.metaGotBytes
    frameHadErrors := false }

/-- What `_uvc_swap_buffers` does after dropping `cb_mutex`. -/
def resetWorking (s : Assembly) : Assembly :=
  { s with
    seq := s.seq + 1
    gotBytes := 0
    metaGotBytes := 0
    lastScr := 0
    pts := 0 }

/-- `_uvc_swap_buffers`. -/
def swapBuffers (s : Assembly) : Assembly := resetWorking (swapHold s)

/-! ## `_uvc_process_payload` -/

/-- `isight_tag`: how some iSight cameras mark a header packet. -/
def isightTag : List UInt8 :=
  [0x11, 0x22, 0x33, 0x44, 0xde, 0xad, 0xbe, 0xef, 0xde, 0xad, 0xfa, 0xce]

/-- `payload_len < need || memcmp(isight_tag, payload + off, sizeof(isight_tag))`: the payload does
not carry the tag at `off`. -/
def lacksTag (payload : List UInt8) (need off : Nat) : Checked Bool :=
  if payload.length < need then return true
  else do
    let bytes ← slice payload off isightTag.length
    return bytes != isightTag

/-- The payload of an iSight camera carries no tag, so it is all image data. -/
def untagged (isIsight : Bool) (payload : List UInt8) : Checked Bool :=
  if isIsight then do
    let a ← lacksTag payload 14 2
    -- `&&` does not look at the second offset when the tag is at the first
    if a then lacksTag payload 15 3 else return false
  else return false

/-- `header_len` and `data_len`, or `none` when the payload is dropped. -/
def payloadSplit (isIsight : Bool) (payload : List UInt8) : Checked (Option (Nat × Nat)) :=
  if payload.length = 0 then return none
  else do
    if ← untagged isIsight payload then
      return some (0, payload.length)
    else
      let b ← readByte payload 0
      let headerLen := b.toNat
      if headerLen > payload.length then return none
      else if isIsight then return some (headerLen, 0)
      else
        let dataLen ← sub payload.length headerLen
        return some (headerLen, dataLen)

/-- `header_info`; `none` when the error bit is set. -/
def headerInfo (payload : List UInt8) (headerLen : Nat) : Checked (Option UInt8) :=
  if headerLen < 2 then return some 0
  else do
    let info ← readByte payload 1
    return if info &&& 0x40 ≠ 0 then none else some info

/-- The frame id changed while bytes of an earlier frame are still waiting. -/
def flips (s : Assembly) (headerLen : Nat) (info : UInt8) : Bool :=
  2 ≤ headerLen && s.fid != info &&& 1 && s.gotBytes != 0

/-- A 4-byte header field at `off`, or 0 when the header is too short to hold it. -/
def headerField (payload : List UInt8) (headerLen off : Nat) : Checked UInt32 :=
  if off + 4 ≤ headerLen then readDw payload off else return 0

/-- `len`, cut down so that `got + len` does not exceed `limit`: the "Avoid overflow" clamps. -/
def clamp (limit got len : Nat) : Checked Nat :=
  if got + len > limit then sub limit got else return len

/-- Copy what follows the known header fields into the metadata buffer. -/
def noteMetadata (s : Assembly) (payload : List UInt8) (headerLen off : Nat) : Checked Assembly :=
  if headerLen > off then do
    let headerRest ← sub headerLen off
    let metaLen ← clamp xferMetaBufSize s.metaGotBytes headerRest
    let bytes ← slice payload off metaLen
    let metaOutbuf ← blit s.metaOutbuf s.metaGotBytes bytes
    return { s with metaOutbuf := metaOutbuf, metaGotBytes := s.metaGotBytes + metaLen }
  else return s

/-- The presentation time stamp, when the header announces one. -/
def notePts (s : Assembly) (payload : List UInt8) (headerLen : Nat) (info : UInt8) :
    Checked Assembly :=
  if info &&& 0x04 ≠ 0 then do
    let pts ← headerField payload headerLen 2
    return { s with pts := pts }
  else return s

/-- Where the source clock reference of a header would start. -/
def scrOffset (info : UInt8) : Nat := if info &&& 0x04 ≠ 0 then 6 else 2

/-- The source clock reference, when the header announces one. -/
def noteScr (s : Assembly) (payload : List UInt8) (headerLen : Nat) (info : UInt8) :
    Checked Assembly :=
  if info &&& 0x08 ≠ 0 then do
    let scr ← headerField payload headerLen (scrOffset info)
    return { s with lastScr := scr }
  else return s

/-- Where the metadata of a header would start.  The clock reference is 6 bytes long, of which only
4 are read, and both fields are counted even when the header is too short for them. -/
def metaOffset (info : UInt8) : Nat :=
  if info &&& 0x08 ≠ 0 then scrOffset info + 6 else scrOffset info

/-- What a header without the error bit leaves in the handle: the frame id, the time stamps and the
metadata. -/
def noteHeader (s : Assembly) (payload : List UInt8) (headerLen : Nat) (info : UInt8) :
    Checked Assembly :=
  if headerLen < 2 then return s
  else do
    let s1 ← notePts { s with fid := info &&& 1 } payload headerLen info
    let s2 ← noteScr s1 payload headerLen info
    noteMetadata s2 payload headerLen (metaOffset info)

/-- Copy the image data, and say whether the frame is complete. -/
def appendData (s : Assembly) (payload : List UInt8) (headerLen dataLen : Nat) (info : UInt8) :
    Checked (Assembly × Bool) :=
  if dataLen > 0 then do
    let copyLen ← clamp s.maxVideoFrameSize.toNat s.gotBytes dataLen
    let bytes ← slice payload headerLen copyLen
    let outbuf ← blit s.outbuf s.gotBytes bytes
    return ({ s with outbuf := outbuf, gotBytes := s.gotBytes + copyLen },
      info &&& 0x02 ≠ 0 || s.gotBytes + copyLen == s.maxVideoFrameSize.toNat)
  else return (s, false)

/-- Publish if `due`. -/
def swapIf (due : Bool) (s : Assembly) : Assembly × List Published :=
  if due then (swapBuffers s, [frameInProgress s]) else (s, [])

/-- `_uvc_process_payload`, with the frames it publishes on the way. -/
def processPayload (s : Assembly) (payload : List UInt8) : Checked (Assembly × List Published) := do
  match ← payloadSplit s.isIsight payload with
  | none => return (s, [])
  | some (headerLen, dataLen) =>
    match ← headerInfo payload headerLen with
    | none => return ({ s with frameHadErrors := true }, [])
    | some info =>
      let (s, first) := swapIf (flips s headerLen info) s
      let s ← noteHeader s payload headerLen info
      let (s, due) ← appendData s payload headerLen dataLen info
      let (s, second) := swapIf due s
      return (s, first ++ second)

/-- The payloads of a stream, one after another. -/
def processPayloads (s : Assembly) : List (List UInt8) → Checked (Assembly × List Published)
  | [] => return (s, [])
  | p :: ps => do
    let (s, a) ← processPayload s p
    let (s, b) ← processPayloads s ps
    return (s, a ++ b)

end Stream
end LibUvc
