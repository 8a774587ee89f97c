import Mathlib.Data.Int.Bitwise
import Mathlib.Tactic.Ring
import LibUvc.Foundation.Blocks
import LibUvc.Image.Frame

/-!
# From YUV to pixels

Six functions convert images of two bytes a pixel.  They share a shape: check the format, make room
in the output, describe it, and walk over the two buffers with an unrolled body, until the end of
the *output* is reached.  Four of them take eight pixels at a time.

* `Converter.run_eq_ite` says what such a function does, for each of them: it faults, or what it
  writes is the pixels one by one.
* `converters_eq_reference` is the case where everything fits.  The four color conversions then are
  the same plain loop, up to the order of the bytes on either side.
* `complete_iff` says when everything fits.  The loop ends with the output, so an output that is not
  a whole number of blocks, or is larger than the image, takes it out of the buffers, and a size
  that has wrapped leaves pixels out.
-/

set_option autoImplicit false

namespace LibUvc
namespace Image

open Checked Blocks

/-! ## Two pixels -/

/-- `sat`. -/
def sat (i : Int) : UInt8 := if i ≥ 255 then 255 else if i < 0 then 0 else UInt8.ofNat i.toNat

/-- How two pixels are packed into four bytes. -/
inductive Packing where
  | yuyv
  | uyvy
  deriving DecidableEq, Repr

/-- Where the luminance of the first pixel is. -/
def Packing.y0 : Packing → Nat
  | yuyv => 0
  | uyvy => 1

/-- Where the luminance of the second pixel is. -/
def Packing.y1 : Packing → Nat
  | yuyv => 2
  | uyvy => 3

def Packing.u : Packing → Nat
  | yuyv => 1
  | uyvy => 0

def Packing.v : Packing → Nat
  | yuyv => 3
  | uyvy => 2

/-- The order of the three bytes of a pixel. -/
inductive Order where
  | rgb
  | bgr
  deriving DecidableEq, Repr

def Order.put (order : Order) (r g b : UInt8) : List UInt8 :=
  match order with
  | rgb => [r, g, b]
  | bgr => [b, g, r]

/-- `int r = (22987 * (v - 128)) >> 14`. -/
def red (v : UInt8) : Int := (22987 * ((v.toNat : Int) - 128)) >>> 14

/-- `int g = (-5636 * (u - 128) - 11698 * (v - 128)) >> 14`. -/
def green (u v : UInt8) : Int :=
  (-5636 * ((u.toNat : Int) - 128) - 11698 * ((v.toNat : Int) - 128)) >>> 14

/-- `int b = (29049 * (u - 128)) >> 14`. -/
def blue (u : UInt8) : Int := (29049 * ((u.toNat : Int) - 128)) >>> 14

/-- The six bytes of two pixels. -/
def pixels2 (order : Order) (y0 y1 u v : UInt8) : List UInt8 :=
  order.put (sat (y0.toNat + red v)) (sat (y0.toNat + green u v)) (sat (y0.toNat + blue u)) ++
    order.put (sat (y1.toNat + red v)) (sat (y1.toNat + green u v)) (sat (y1.toNat + blue u))

/-- The macros for two pixels. -/
def convert2 (packing : Packing) (order : Order) (yuv : List UInt8) (i o : Nat)
    (out : List UInt8) : Checked (List UInt8) := do
  let v ← readByte yuv (i + packing.v)
  let u ← readByte yuv (i + packing.u)
  let y0 ← readByte yuv (i + packing.y0)
  let y1 ← readByte yuv (i + packing.y1)
  blit out o (pixels2 order y0 y1 u v)

/-- `IYUYV2RGB_2`. -/
def iyuyv2rgb2 := convert2 .yuyv .rgb

/-- `IYUYV2BGR_2`. -/
def iyuyv2bgr2 := convert2 .yuyv .bgr

/-- `IUYVY2RGB_2`. -/
def iuyvy2rgb2 := convert2 .uyvy .rgb

/-- `IUYVY2BGR_2`. -/
def iuyvy2bgr2 := convert2 .uyvy .bgr

/-- The body of a loop: the input, the two positions, and the output. -/
abbrev Body := List UInt8 → Nat → Nat → List UInt8 → Checked (List UInt8)

/-- The macros for four pixels, made of those for two. -/
def convert4 (convert2 : Body) : Body := fun yuv i o out => do
  let out ← convert2 yuv i o out
  convert2 yuv (i + 4) (o + 6) out

/-- The macros for eight pixels, made of those for four. -/
def convert8 (convert2 : Body) : Body := fun yuv i o out => do
  let out ← convert4 convert2 yuv i o out
  convert4 convert2 yuv (i + 8) (o + 12) out

/-- `IYUYV2Y`. -/
def iyuyv2y : Body := fun yuv i o out => do
  let y ← readByte yuv i
  writeAt out o y

/-- `IYUYV2UV`. -/
def iyuyv2uv : Body := fun yuv i o out => do
  let uv ← readByte yuv (i + 1)
  writeAt out o uv

/-! ## The conversions -/

/-- What the conversions have in common.  `width * height * pixelBytes` is a product in 32 bits. -/
def convertFrame (alloc : Allocator) (source target : FrameFormat) (pixelBytes : UInt32)
    (inStep outStep : Nat) (body : Body) (frame out : Frame) : Checked (Ret × Frame) := do
  if frame.frameFormat ≠ source then return (Ret.errorInvalidParam, out)
  let (ret, out) :=
    ensureFrameSize alloc out (frame.width * frame.height * pixelBytes).toNat
  if ret < 0 then return (Ret.errorNoMem, out)
  let out := { out.describe frame with
    frameFormat := target
    step := (frame.width * pixelBytes).toNat }
  -- each round moves the output, so there are no more rounds than it has bytes
  let data ← walkBlocks (body frame.bytes) inStep outStep out.dataBytes out.dataBytes 0 0 out.bytes
  return (Ret.success, { out with data := some data })

/-- `uvc_yuyv2rgb`. -/
def yuyv2rgb (alloc : Allocator) :=
  convertFrame alloc .yuyv .rgb 3 (2 * 8) (3 * 8) (convert8 iyuyv2rgb2)

/-- `uvc_yuyv2bgr`. -/
def yuyv2bgr (alloc : Allocator) :=
  convertFrame alloc .yuyv .bgr 3 (2 * 8) (3 * 8) (convert8 iyuyv2bgr2)

/-- `uvc_uyvy2rgb`. -/
def uyvy2rgb (alloc : Allocator) :=
  convertFrame alloc .uyvy .rgb 3 (2 * 8) (3 * 8) (convert8 iuyvy2rgb2)

/-- `uvc_uyvy2bgr`. -/
def uyvy2bgr (alloc : Allocator) :=
  convertFrame alloc .uyvy .bgr 3 (2 * 8) (3 * 8) (convert8 iuyvy2bgr2)

/-- `uvc_yuyv2y`. -/
def yuyv2y (alloc : Allocator) := convertFrame alloc .yuyv .gray8 1 2 1 iyuyv2y

/-- `uvc_yuyv2uv`. -/
def yuyv2uv (alloc : Allocator) := convertFrame alloc .yuyv .gray8 1 2 1 iyuyv2uv

/-- The six of them. -/
inductive Converter where
  | color (packing : Packing) (order : Order)
  | y
  | uv
  deriving DecidableEq, Repr

/-- The functions by their names. -/
def Converter.run (alloc : Allocator) : Converter → Frame → Frame → Checked (Ret × Frame)
  | color .yuyv .rgb => yuyv2rgb alloc
  | color .yuyv .bgr => yuyv2bgr alloc
  | color .uyvy .rgb => uyvy2rgb alloc
  | color .uyvy .bgr => uyvy2bgr alloc
  | y => yuyv2y alloc
  | uv => yuyv2uv alloc

/-! ## What they do -/

def Converter.source : Converter → FrameFormat
  | color .yuyv _ => .yuyv
  | color .uyvy _ => .uyvy
  | _ => .yuyv

def Converter.target : Converter → FrameFormat
  | color _ .rgb => .rgb
  | color _ .bgr => .bgr
  | _ => .gray8

/-- The bytes of a pixel of the output. -/
def Converter.pixelBytes : Converter → Nat
  | color _ _ => 3
  | _ => 1

/-- The pixels that are converted in one round. -/
def Converter.group : Converter → Nat
  | color _ _ => 8
  | _ => 1

def Converter.body : Converter → Body
  | color packing order => convert8 (convert2 packing order)
  | y => iyuyv2y
  | uv => iyuyv2uv

/-- Pixel `j` of the output.  Two pixels have their colors in common. -/
def Converter.pixel (yuv : List UInt8) (j : Nat) : Converter → List UInt8
  | color packing order =>
    let y := (byteAt yuv (2 * j + packing.y0)).toNat
    let u := byteAt yuv (4 * (j / 2) + packing.u)
    let v := byteAt yuv (4 * (j / 2) + packing.v)
    order.put (sat (y + red v)) (sat (y + green u v)) (sat (y + blue u))
  | y => [byteAt yuv (2 * j)]
  | uv => [byteAt yuv (2 * j + 1)]

theorem run_eq_convertFrame (alloc : Allocator) (c : Converter) :
    c.run alloc = convertFrame alloc c.source c.target (UInt32.ofNat c.pixelBytes) (c.group * 2)
      (c.group * c.pixelBytes) c.body := by
  rcases c with ⟨_ | _, _ | _⟩ | _ | _ <;> rfl

section Macros

variable {packing : Packing} {order : Order} {yuv out : List UInt8} {i o : Nat}

/-- The two pixels in four bytes. -/
def pairBytes (packing : Packing) (order : Order) (src : List UInt8) : List UInt8 :=
  pixels2 order (byteAt src packing.y0) (byteAt src packing.y1) (byteAt src packing.u)
    (byteAt src packing.v)

theorem length_pairBytes (packing : Packing) (order : Order) (src : List UInt8) :
    (pairBytes packing order src).length = 6 := by
  cases order <;> rfl

theorem byteAt_take_drop {src : List UInt8} {k l n : Nat} (h : k < n) :
    byteAt ((src.drop l).take n) k = byteAt src (l + k) := by
  rw [byteAt, byteAt, List.getD_eq_getElem?_getD, List.getD_eq_getElem?_getD,
    List.getElem?_take_of_lt h, List.getElem?_drop]

/-- The macros read four bytes and write six. -/
theorem convert2_eq_block : convert2 packing order yuv i o out =
    block (chunkMap (pairBytes packing order) 4 1) (1 * 4) yuv i o out := by
  have hpair : chunkMap (pairBytes packing order) 4 1 ((yuv.drop i).take 4) =
      pixels2 order (byteAt yuv (i + packing.y0)) (byteAt yuv (i + packing.y1))
        (byteAt yuv (i + packing.u)) (byteAt yuv (i + packing.v)) := by
    rw [chunkMap, chunkMap, List.append_nil, List.take_take, Nat.min_self, pairBytes]
    cases packing <;>
      rw [byteAt_take_drop, byteAt_take_drop, byteAt_take_drop, byteAt_take_drop] <;> decide
  rw [convert2, block, slice]
  by_cases h : i + 1 * 4 ≤ yuv.length
  · rw [if_pos h, ok_bind, hpair]
    cases packing <;> simp only [Packing.v, Packing.u, Packing.y0, Packing.y1] <;>
      rw [readByte_eq (by omega), ok_bind, readByte_eq (by omega), ok_bind, readByte_eq (by omega),
        ok_bind, readByte_eq (by omega), ok_bind]
  · -- the byte at `i + 3` is read as well
    have hlast : readByte yuv (i + 3) = .error .outOfBounds := readByte_error (by omega)
    rw [if_neg h, error_bind]
    cases packing with
    | yuyv => rw [Packing.v, hlast, error_bind]
    | uyvy =>
      refine readByte_bind_error fun v => ?_
      refine readByte_bind_error fun u => ?_
      refine readByte_bind_error fun y => ?_
      rw [Packing.y1, hlast, error_bind]

theorem convert4_eq_block : convert4 (convert2 packing order) yuv i o out =
    block (chunkMap (pairBytes packing order) 4 2) (2 * 4) yuv i o out := by
  rw [← block_chunkMap_add (length_pairBytes packing order) 1 1, convert4, convert2_eq_block]
  exact bind_congr fun next => convert2_eq_block

theorem convert8_eq_block : convert8 (convert2 packing order) yuv i o out =
    block (chunkMap (pairBytes packing order) 4 4) (4 * 4) yuv i o out := by
  rw [← block_chunkMap_add (length_pairBytes packing order) 2 2, convert8, convert4_eq_block]
  exact bind_congr fun next => convert4_eq_block

/-- Eight pixels at a time are the pixels one by one. -/
theorem chunkMap_pairBytes (rounds : Nat) (src : List UInt8) :
    chunkMap (chunkMap (pairBytes packing order) 4 4) (4 * 4) rounds src =
      (List.range (rounds * 8)).flatMap fun j => (Converter.color packing order).pixel src j := by
  rw [chunkMap_chunkMap, chunkMap_eq_flatMap, show rounds * 8 = rounds * 4 * 2 by omega,
    ← flatMap_range_pairs]
  congr 1
  funext k
  have hfirst : 2 * k / 2 = k := by omega
  have hsecond : (2 * k + 1) / 2 = k := by omega
  have hbyte : ∀ l < 4, byteAt ((src.drop (k * 4)).take 4) l = byteAt src (4 * k + l) := by
    intro l hl
    rw [byteAt_take_drop hl, Nat.mul_comm]
  have hy0 : 2 * (2 * k) + packing.y0 = 4 * k + packing.y0 := by omega
  have hy1 : 2 * (2 * k + 1) + packing.y0 = 4 * k + packing.y1 := by
    cases packing <;> simp only [Packing.y0, Packing.y1] <;> omega
  rw [Converter.pixel, Converter.pixel, hfirst, hsecond, hy0, hy1, pairBytes,
    hbyte packing.y0 (by cases packing <;> decide), hbyte packing.y1 (by cases packing <;> decide),
    hbyte packing.u (by cases packing <;> decide), hbyte packing.v (by cases packing <;> decide)]
  rfl

/-- The conversions to a single channel read one byte of two and write one. -/
theorem readWrite_eq_block {k : Nat} (hk : k < 2) (hi : i % 2 = 0) (heven : yuv.length % 2 = 0) :
    (do let b ← readByte yuv (i + k); writeAt out o b) =
      block (fun src => [byteAt src k]) 2 yuv i o out := by
  rw [block, slice]
  by_cases h : i + 2 ≤ yuv.length
  · rw [if_pos h, ok_bind, readByte_eq (by omega), ok_bind, byteAt_take_drop hk, writeAt, blit,
      List.length_singleton]
    simp only [Nat.succ_le_iff]
    split
    · rename_i ho
      rw [List.set_eq_take_append_cons_drop, if_pos ho, List.append_assoc, List.singleton_append]
    · rfl
  · rw [if_neg h, error_bind, readByte_error (by omega), error_bind]

theorem chunkMap_byteAt {k : Nat} (hk : k < 2) (rounds : Nat) (src : List UInt8) :
    chunkMap (fun src => [byteAt src k]) 2 rounds src =
      (List.range rounds).flatMap fun j => [byteAt src (2 * j + k)] := by
  rw [chunkMap_eq_flatMap]
  congr 1
  funext j
  rw [byteAt_take_drop hk, Nat.mul_comm]

end Macros

/-- What a round makes of its part of the input. -/
def Converter.chunk : Converter → List UInt8 → List UInt8
  | color packing order => chunkMap (pairBytes packing order) 4 4
  | y => fun src => [byteAt src 0]
  | uv => fun src => [byteAt src 1]

theorem length_chunk (c : Converter) (src : List UInt8) :
    (c.chunk src).length = c.group * c.pixelBytes := by
  cases c with
  | color packing order => exact length_chunkMap (length_pairBytes packing order) 4 src
  | y => rfl
  | uv => rfl

/-- A round is a block, on an input of two bytes a pixel. -/
theorem body_eq_block (c : Converter) {yuv : List UInt8} (heven : yuv.length % 2 = 0) (j o : Nat)
    (out : List UInt8) :
    c.body yuv (j * (c.group * 2)) o out =
      block c.chunk (c.group * 2) yuv (j * (c.group * 2)) o out := by
  cases c with
  | color packing order => exact convert8_eq_block
  | y => exact readWrite_eq_block (k := 0) (by decide) (Nat.mul_mod_left j 2) heven
  | uv => exact readWrite_eq_block (k := 1) (by decide) (Nat.mul_mod_left j 2) heven

/-- All rounds together are the pixels one by one. -/
theorem chunkMap_chunk (c : Converter) (rounds : Nat) (src : List UInt8) :
    chunkMap c.chunk (c.group * 2) rounds src =
      (List.range (rounds * c.group)).flatMap fun j => c.pixel src j := by
  cases c with
  | color packing order => exact chunkMap_pairBytes rounds src
  | y =>
    rw [show rounds * Converter.y.group = rounds from Nat.mul_one rounds]
    exact chunkMap_byteAt (by decide) rounds src
  | uv =>
    rw [show rounds * Converter.uv.group = rounds from Nat.mul_one rounds]
    exact chunkMap_byteAt (by decide) rounds src

/-- The loop stays in both buffers: the output is a number of whole blocks, and the input has as
many. -/
def Converter.InBounds (c : Converter) (yuvBytes dataBytes : Nat) : Prop :=
  c.group * c.pixelBytes ∣ dataBytes ∧
    dataBytes / (c.group * c.pixelBytes) * (c.group * 2) ≤ yuvBytes

instance (c : Converter) (yuvBytes dataBytes : Nat) : Decidable (c.InBounds yuvBytes dataBytes) :=
  inferInstanceAs (Decidable (_ ∧ _))

theorem pixelBytes_pos (c : Converter) : 0 < c.pixelBytes := by
  cases c <;> exact Nat.succ_pos _

theorem group_pos (c : Converter) : 0 < c.group := by
  cases c <;> exact Nat.succ_pos _

/-- The loop, to the end of the output. -/
theorem walk_eq_ite (c : Converter) {yuv out : List UInt8} (heven : yuv.length % 2 = 0) :
    walkBlocks (c.body yuv) (c.group * 2) (c.group * c.pixelBytes) out.length out.length 0 0 out =
      if c.InBounds yuv.length out.length then
        .ok ((List.range (out.length / c.pixelBytes)).flatMap fun j => c.pixel yuv j)
      else .error .outOfBounds := by
  have hpos : 0 < c.group * c.pixelBytes := Nat.mul_pos (group_pos c) (pixelBytes_pos c)
  have hblocks : walkBlocks (c.body yuv) (c.group * 2) (c.group * c.pixelBytes) out.length
        out.length (0 * (c.group * 2)) 0 out =
      walkBlocks (block c.chunk (c.group * 2) yuv) (c.group * 2) (c.group * c.pixelBytes) out.length
        out.length (0 * (c.group * 2)) 0 out :=
    walkBlocks_congr (body_eq_block c heven)
  rw [Nat.zero_mul] at hblocks
  rw [hblocks, walkBlocks_eq (length_chunk c) hpos (le_refl _),
    block_eq (length_chunkMap (length_chunk c) _), Nat.zero_add, Nat.zero_add]
  by_cases hdvd : c.group * c.pixelBytes ∣ out.length
  · obtain ⟨q, hq⟩ := hdvd
    have hrounds : out.length / (c.group * c.pixelBytes) = q := by
      rw [hq, Nat.mul_div_cancel_left q hpos]
    have hpixels : out.length / c.pixelBytes = q * c.group := by
      rw [hq, Nat.mul_right_comm, Nat.mul_div_cancel _ (pixelBytes_pos c), Nat.mul_comm]
    have hfit : q * (c.group * c.pixelBytes) = out.length := by rw [hq, Nat.mul_comm]
    have hceil : out.length ⌈/⌉ (c.group * c.pixelBytes) = q := by
      rw [hq, ceilDiv_mul_left hpos]
    have hbounds : c.InBounds yuv.length out.length ↔ q * (c.group * 2) ≤ yuv.length := by
      rw [Converter.InBounds, hrounds, and_iff_right ⟨q, hq⟩]
    rw [hceil, hpixels]
    by_cases hin : q * (c.group * 2) ≤ yuv.length
    · rw [if_pos ⟨hin, hfit.le⟩, if_pos (hbounds.2 hin), List.take_zero, List.nil_append,
        List.drop_zero, chunkMap_take (le_refl _), chunkMap_chunk, List.drop_of_length_le hfit.ge,
        List.append_nil]
    · rw [if_neg (fun h => hin h.1), if_neg (fun h => hin (hbounds.1 h))]
  · rw [if_neg (fun h => hdvd ((ceilDiv_mul_le_iff hpos).1 h.2)), if_neg (fun h => hdvd h.1)]

/-- The number of pixels. -/
def Frame.pixels (frame : Frame) : Nat := frame.width.toNat * frame.height.toNat

/-- The size that a conversion asks for: a product in 32 bits. -/
def Converter.needBytes (c : Converter) (frame : Frame) : Nat :=
  (frame.width * frame.height * UInt32.ofNat c.pixelBytes).toNat

theorem needBytes_eq (c : Converter) (frame : Frame) :
    c.needBytes frame = frame.pixels * c.pixelBytes % 2 ^ 32 := by
  have hpixel : (UInt32.ofNat c.pixelBytes).toNat = c.pixelBytes := by cases c <;> rfl
  rw [Converter.needBytes, UInt32.toNat_mul, UInt32.toNat_mul, hpixel, Nat.mod_mul_mod,
    Frame.pixels]

/-- The frame that a conversion leaves, in an output of the right size. -/
def Converter.result (c : Converter) (frame out : Frame) : Frame := { out.describe frame with
  frameFormat := c.target
  step := (frame.width * UInt32.ofNat c.pixelBytes).toNat
  data := some ((List.range (out.dataBytes / c.pixelBytes)).flatMap fun j =>
    c.pixel frame.bytes j) }

/-- **What a conversion does**, with a frame of two bytes a pixel. -/
theorem run_eq_ite (alloc : Allocator) (c : Converter) {frame out : Frame}
    (hformat : frame.frameFormat = c.source) (hbytes : frame.bytes.length % 2 = 0)
    (hout : out.Exact) :
    c.run alloc frame out =
      if (ensureFrameSize alloc out (c.needBytes frame)).1 < 0 then
        .ok (Ret.errorNoMem, (ensureFrameSize alloc out (c.needBytes frame)).2)
      else if c.InBounds frame.bytes.length (out.ensuredBytes (c.needBytes frame)) then
        .ok (Ret.success, c.result frame (ensureFrameSize alloc out (c.needBytes frame)).2)
      else .error .outOfBounds := by
  have hneed : (frame.width * frame.height * UInt32.ofNat c.pixelBytes).toNat = c.needBytes frame :=
    rfl
  rw [run_eq_convertFrame, convertFrame, if_neg (not_not.2 hformat), hneed]
  rcases ensureFrameSize_cases alloc hout (c.needBytes frame) with ⟨hfail, -⟩ |
    ⟨data, hensure, hlen, -⟩
  · generalize ensureFrameSize alloc out (c.needBytes frame) = ensured at hfail
    obtain ⟨ret, o⟩ := ensured
    obtain rfl : ret = Ret.errorNoMem := hfail
    rfl
  · rw [hensure, ← hlen]
    change (walkBlocks (c.body frame.bytes) (c.group * 2) (c.group * c.pixelBytes)
      data.length data.length 0 0 data >>= _) =
        if c.InBounds frame.bytes.length data.length then _ else _
    rw [walk_eq_ite c hbytes]
    by_cases hin : c.InBounds frame.bytes.length data.length
    · rw [if_pos hin, if_pos hin]
      rfl
    · rw [if_neg hin, if_neg hin]
      rfl

/-! ## When everything fits -/

/-- The conversion has ended well, and every pixel of the image is there. -/
def Converter.Complete (c : Converter) (frame : Frame) (result : Checked (Ret × Frame)) : Prop :=
  ∃ out data, result = .ok (Ret.success, out) ∧ out.data = some data ∧
    ∀ j < frame.pixels, (data.drop (c.pixelBytes * j)).take c.pixelBytes = c.pixel frame.bytes j

/-- The image is a number of whole blocks, and the output has just the size of it: the size has not
wrapped, or it is that of the user's buffer. -/
def Converter.Fits (c : Converter) (frame out : Frame) : Prop :=
  c.group ∣ frame.pixels ∧
    if out.libraryOwnsData then frame.pixels * c.pixelBytes < 2 ^ 32
    else out.dataBytes = frame.pixels * c.pixelBytes

theorem length_pixel (c : Converter) (yuv : List UInt8) (j : Nat) :
    (c.pixel yuv j).length = c.pixelBytes := by
  rcases c with ⟨_, _ | _⟩ | _ | _ <;> rfl

theorem fits_iff (c : Converter) (frame out : Frame) :
    c.Fits frame out ↔ c.group ∣ frame.pixels ∧
      out.ensuredBytes (c.needBytes frame) = frame.pixels * c.pixelBytes := by
  rw [Converter.Fits, Frame.ensuredBytes]
  refine and_congr_right fun _ => ?_
  split
  · rw [needBytes_eq]
    exact ⟨Nat.mod_eq_of_lt, fun h => h ▸ Nat.mod_lt _ (by decide)⟩
  · rfl

/-- A conversion that fits stays in its buffers. -/
theorem Converter.Fits.inBounds {c : Converter} {frame out : Frame} (h : c.Fits frame out)
    (hbytes : frame.bytes.length = 2 * frame.pixels) :
    c.InBounds frame.bytes.length (out.ensuredBytes (c.needBytes frame)) := by
  obtain ⟨⟨q, hq⟩, hsize⟩ := (fits_iff c frame out).1 h
  have hwhole : out.ensuredBytes (c.needBytes frame) = c.group * c.pixelBytes * q := by
    rw [hsize, hq, Nat.mul_right_comm]
  refine ⟨⟨q, hwhole⟩, ?_⟩
  rw [hwhole, Nat.mul_div_cancel_left q (Nat.mul_pos (group_pos c) (pixelBytes_pos c)), hbytes, hq]
  exact le_of_eq (by ring)

/-- The pixels of the result are those of the image, as far as they go. -/
theorem result_pixels_iff (c : Converter) (frame out : Frame) :
    (∀ data, (c.result frame out).data = some data → ∀ j < frame.pixels,
        (data.drop (c.pixelBytes * j)).take c.pixelBytes = c.pixel frame.bytes j) ↔
      frame.pixels ≤ out.dataBytes / c.pixelBytes := by
  have hlen := length_pixel c frame.bytes
  constructor
  · intro hpixels
    by_contra hlt
    -- the first pixel that is missing has no bytes
    have hmissing := hpixels _ rfl (out.dataBytes / c.pixelBytes) (not_le.1 hlt)
    have hempty : (((List.range (out.dataBytes / c.pixelBytes)).flatMap fun j =>
        c.pixel frame.bytes j).drop (c.pixelBytes * (out.dataBytes / c.pixelBytes))) = [] := by
      refine List.drop_of_length_le ?_
      simp [List.length_flatMap, hlen, Nat.mul_comm]
    rw [hempty, List.take_nil] at hmissing
    have hpos := pixelBytes_pos c
    rw [← hlen (out.dataBytes / c.pixelBytes), ← hmissing] at hpos
    exact absurd hpos (by simp)
  · intro hle data hdata j hj
    obtain rfl := Option.some.inj hdata
    have hmem : j < (List.range (out.dataBytes / c.pixelBytes)).length := by
      rw [List.length_range]
      omega
    obtain ⟨front, back, heq, hfront⟩ := exists_flatMap_eq hlen hmem
    rw [heq, List.getElem_range, List.drop_left' hfront, List.take_left' (hlen j)]

/-- **When a conversion stays in its buffers and converts everything.**  For each of the six
functions, a frame with two bytes for each of its pixels, and an output that there is room for: if
and only if the pixels are a multiple of those that a round converts, and the output has just the
size of the converted image. -/
theorem complete_iff (alloc : Allocator) (c : Converter) {frame out : Frame}
    (hformat : frame.frameFormat = c.source) (hbytes : frame.bytes.length = 2 * frame.pixels)
    (hout : out.Exact)
    (hensure : (ensureFrameSize alloc out (c.needBytes frame)).1 = Ret.success) :
    c.Complete frame (c.run alloc frame out) ↔ c.Fits frame out := by
  have hrun := run_eq_ite alloc c hformat (by omega) hout
  have hdone : ¬ (ensureFrameSize alloc out (c.needBytes frame)).1 < 0 := by
    rw [hensure]
    decide
  rw [if_neg hdone] at hrun
  have hdata := ensureFrameSize_dataBytes hout hensure
  constructor
  · rintro ⟨o, data, hok, hodata, hpixels⟩
    rw [hrun] at hok
    split at hok
    · rename_i hin
      obtain rfl := (Prod.mk.inj (Except.ok.inj hok)).2
      have hle := (result_pixels_iff c frame _).1 fun d hd => by
        rw [Option.some.inj (hd.symm.trans hodata)]
        exact hpixels
      -- as many pixels as there are in the blocks, which are no more than those of the input
      obtain ⟨⟨q, hq⟩, hread⟩ := hin
      rw [hdata, hq, Nat.mul_right_comm, Nat.mul_div_cancel _ (pixelBytes_pos c)] at hle
      rw [hq, Nat.mul_div_cancel_left q (Nat.mul_pos (group_pos c) (pixelBytes_pos c)), hbytes,
        ← Nat.mul_assoc, Nat.mul_comm 2, Nat.mul_comm q] at hread
      have hpixel : frame.pixels = c.group * q :=
        le_antisymm hle (Nat.le_of_mul_le_mul_right hread (by decide))
      refine (fits_iff c frame out).2 ⟨⟨q, hpixel⟩, ?_⟩
      rw [hq, hpixel, Nat.mul_right_comm]
    · cases hok
  · intro hfits
    rw [if_pos (hfits.inBounds hbytes)] at hrun
    refine ⟨_, _, hrun, rfl, (result_pixels_iff c frame _).2 ?_ _ rfl⟩
    rw [hdata, ((fits_iff c frame out).1 hfits).2, Nat.mul_div_cancel _ (pixelBytes_pos c)]

/-- A frame with the given bytes. -/
def sourceFrame (format : FrameFormat) (width height : UInt32) (bytes : List UInt8) : Frame where
  data := some bytes
  dataBytes := bytes.length
  width := width
  height := height
  frameFormat := format

/-- A frame with a buffer of the user's. -/
def userFrame (bytes : List UInt8) : Frame where
  data := some bytes
  dataBytes := bytes.length
  libraryOwnsData := false

theorem blank_exact : Frame.Exact {} := blank_reusable.exact

/-- Eight pixels of black, to a frame of the library's. -/
theorem complete_black :
    Converter.Complete (.color .yuyv .rgb) (sourceFrame .yuyv 8 1 (List.replicate 16 0))
      (yuyv2rgb .zeroed (sourceFrame .yuyv 8 1 (List.replicate 16 0)) {}) := by
  have hfits : Converter.Fits (.color .yuyv .rgb)
      (sourceFrame .yuyv 8 1 (List.replicate 16 0)) {} := ⟨by decide, by decide⟩
  have hformat : (sourceFrame .yuyv 8 1 (List.replicate 16 0)).frameFormat =
      (Converter.color .yuyv .rgb).source := rfl
  exact (complete_iff .zeroed (.color .yuyv .rgb) hformat (by decide) blank_exact (by decide)).2
    hfits

/-- One pixel is less than a block: the loop reads behind the input and writes behind the output.
With a buffer of the user's that is twice as large as eight pixels need, it goes on where the input
has ended; and so it does for a single channel. -/
theorem convert_out_of_bounds :
    yuyv2rgb .zeroed (sourceFrame .yuyv 1 1 [1, 2]) {} = .error .outOfBounds ∧
    uyvy2bgr .zeroed (sourceFrame .uyvy 8 1 (List.replicate 16 0))
      (userFrame (List.replicate 48 0)) = .error .outOfBounds ∧
    yuyv2y .zeroed (sourceFrame .yuyv 1 1 [1, 2]) (userFrame [0, 0]) = .error .outOfBounds :=
  ⟨rfl, rfl, rfl⟩

/-! ## The reference -/

/-- Pixel `j` of a YUYV image, in red, green and blue. -/
def rgbPixel (yuv : List UInt8) (j : Nat) : List UInt8 :=
  let y : Int := (byteAt yuv (2 * j)).toNat
  let u : Int := (byteAt yuv (4 * (j / 2) + 1)).toNat
  let v : Int := (byteAt yuv (4 * (j / 2) + 3)).toNat
  [sat (y + ((22987 * (v - 128)) >>> 14)),
    sat (y + ((-5636 * (u - 128) - 11698 * (v - 128)) >>> 14)),
    sat (y + ((29049 * (u - 128)) >>> 14))]

/-- The two bytes of each pair swapped. -/
def swapPairs : List UInt8 → List UInt8
  | a :: b :: rest => b :: a :: swapPairs rest
  | rest => rest

/-- The same image in the other packing. -/
def Frame.swapped (frame : Frame) : Frame :=
  { frame with frameFormat := .uyvy, data := frame.data.map swapPairs }

theorem length_swapPairs (l : List UInt8) : (swapPairs l).length = l.length := by
  fun_induction swapPairs l with
  | case1 a b rest ih => rw [List.length_cons, List.length_cons, ih]; rfl
  | case2 rest h => rfl

theorem byteAt_swapPairs {l : List UInt8} (heven : l.length % 2 = 0) (j : Nat) :
    byteAt (swapPairs l) (2 * j) = byteAt l (2 * j + 1) ∧
      byteAt (swapPairs l) (2 * j + 1) = byteAt l (2 * j) := by
  induction j generalizing l with
  | zero =>
    match l, heven with
    | [], _ => exact ⟨rfl, rfl⟩
    | _ :: _ :: _, _ => exact ⟨rfl, rfl⟩
  | succ j ih =>
    match l, heven with
    | [], _ => exact ⟨rfl, rfl⟩
    | _ :: _ :: rest, heven =>
      have hrest : rest.length % 2 = 0 := by
        rw [List.length_cons, List.length_cons] at heven
        omega
      exact ih hrest

theorem bytes_swapped (frame : Frame) : frame.swapped.bytes = swapPairs frame.bytes := by
  rw [Frame.bytes, Frame.bytes, Frame.swapped]
  cases frame.data with
  | none => rfl
  | some data => rfl

theorem pixel_uyvy {l : List UInt8} (heven : l.length % 2 = 0) (order : Order) (j : Nat) :
    (Converter.color .uyvy order).pixel (swapPairs l) j =
      (Converter.color .yuyv order).pixel l j := by
  have hy : byteAt (swapPairs l) (2 * j + 1) = byteAt l (2 * j) := (byteAt_swapPairs heven j).2
  have hu : byteAt (swapPairs l) (4 * (j / 2)) = byteAt l (4 * (j / 2) + 1) := by
    have h := (byteAt_swapPairs heven (2 * (j / 2))).1
    rwa [← Nat.mul_assoc] at h
  have hv : byteAt (swapPairs l) (4 * (j / 2) + 2) = byteAt l (4 * (j / 2) + 3) := by
    have h := (byteAt_swapPairs heven (2 * (j / 2) + 1)).1
    rwa [Nat.mul_add, ← Nat.mul_assoc] at h
  simp only [Converter.pixel, Packing.y0, Packing.u, Packing.v, Nat.add_zero, hy, hu, hv]

/-- The conversion gives the image, unless there is no memory for it. -/
def Gives (alloc : Allocator) (out : Frame) (result : Checked (Ret × Frame))
    (image : List UInt8) : Prop :=
  ∃ ret o, result = .ok (ret, o) ∧
    (ret = Ret.success ∧ o.data = some image ∧ o.dataBytes = image.length ∨
      ret = Ret.errorNoMem ∧ alloc.realloc out.data image.length = none)

/-- A color conversion that fits, to a frame of the library's. -/
theorem run_color (alloc : Allocator) (packing : Packing) (order : Order) {frame out : Frame}
    (hformat : frame.frameFormat = (Converter.color packing order).source)
    (hbytes : frame.bytes.length = 2 * frame.pixels) (hblock : 8 ∣ frame.pixels)
    (hsize : frame.pixels * 3 < 2 ^ 32) (howned : out.libraryOwnsData = true)
    (hout : out.Exact) :
    Gives alloc out ((Converter.color packing order).run alloc frame out)
      ((List.range frame.pixels).flatMap fun j =>
        (Converter.color packing order).pixel frame.bytes j) := by
  have hfits : (Converter.color packing order).Fits frame out :=
    ⟨hblock, by rw [if_pos howned]; exact hsize⟩
  have hneed : (Converter.color packing order).needBytes frame = frame.pixels * 3 := by
    rw [needBytes_eq]
    exact Nat.mod_eq_of_lt hsize
  have hensured : out.ensuredBytes (frame.pixels * 3) = frame.pixels * 3 := if_pos howned
  have hlen : ((List.range frame.pixels).flatMap fun j =>
      (Converter.color packing order).pixel frame.bytes j).length = frame.pixels * 3 := by
    simp [List.length_flatMap, length_pixel, Converter.pixelBytes]
  rw [Gives, hlen, run_eq_ite alloc _ hformat (by omega) hout, if_pos (hfits.inBounds hbytes),
    hneed]
  rcases ensureFrameSize_cases alloc hout (frame.pixels * 3) with ⟨hfail, hnone⟩ |
    ⟨data, hensure, -, -⟩
  · rw [hfail, if_pos (by decide)]
    exact ⟨_, _, rfl, Or.inr ⟨rfl, hnone howned⟩⟩
  · rw [hensure, hensured]
    refine ⟨_, _, rfl, Or.inl ⟨rfl, ?_, rfl⟩⟩
    simp only [Converter.result, Converter.pixelBytes,
      Nat.mul_div_cancel frame.pixels (show 0 < 3 by decide)]

/-- The two packings of an image are converted to the same frame. -/
theorem run_swapped (alloc : Allocator) (order : Order) {frame out : Frame}
    (hformat : frame.frameFormat = .yuyv) (hbytes : frame.bytes.length % 2 = 0)
    (hout : out.Exact) :
    (Converter.color .uyvy order).run alloc frame.swapped out =
      (Converter.color .yuyv order).run alloc frame out := by
  have hlen : frame.swapped.bytes.length = frame.bytes.length := by
    rw [bytes_swapped, length_swapPairs]
  have hsource : frame.frameFormat = (Converter.color .yuyv order).source := hformat
  have hsource' : frame.swapped.frameFormat = (Converter.color .uyvy order).source := rfl
  have hresult : ∀ o : Frame, (Converter.color .uyvy order).result frame.swapped o =
      (Converter.color .yuyv order).result frame o := by
    intro o
    simp only [Converter.result, bytes_swapped, pixel_uyvy hbytes]
    cases order <;> rfl
  rw [run_eq_ite alloc _ hsource hbytes hout,
    run_eq_ite alloc _ hsource' (by rw [hlen]; exact hbytes) hout, hlen, hresult]
  rfl

/-- **The four color conversions are one.**  For an image of a multiple of eight pixels whose size
does not wrap, and a frame of the library's as output: the YUYV conversions give the pixels of the
reference, in one order or the other, and the UYVY conversions do the same with the image in the
other packing. -/
theorem converters_eq_reference (alloc : Allocator) {frame out : Frame}
    (hformat : frame.frameFormat = .yuyv) (hbytes : frame.bytes.length = 2 * frame.pixels)
    (hblock : 8 ∣ frame.pixels) (hsize : frame.pixels * 3 < 2 ^ 32)
    (howned : out.libraryOwnsData = true) (hout : out.Exact) :
    Gives alloc out (yuyv2rgb alloc frame out)
        ((List.range frame.pixels).flatMap fun j => rgbPixel frame.bytes j) ∧
      Gives alloc out (yuyv2bgr alloc frame out)
        ((List.range frame.pixels).flatMap fun j => (rgbPixel frame.bytes j).reverse) ∧
      uyvy2rgb alloc frame.swapped out = yuyv2rgb alloc frame out ∧
      uyvy2bgr alloc frame.swapped out = yuyv2bgr alloc frame out := by
  refine ⟨?_, ?_, ?_, ?_⟩
  · exact run_color alloc .yuyv .rgb hformat hbytes hblock hsize howned hout
  · exact run_color alloc .yuyv .bgr hformat hbytes hblock hsize howned hout
  · exact run_swapped alloc .rgb hformat (by omega) hout
  · exact run_swapped alloc .bgr hformat (by omega) hout

/-- Eight pixels: two green ones, two red, two blue, and two that are brighter than there is. -/
def testCard : List UInt8 :=
  [145, 54, 145, 34, 81, 90, 81, 240, 41, 240, 41, 110, 255, 255, 255, 255]

theorem converters_eq_reference_testCard :
    ∃ out, yuyv2rgb .zeroed (sourceFrame .yuyv 4 2 testCard) {} = .ok (Ret.success, out) ∧
      out.data = some [13, 237, 13, 13, 237, 13, 238, 14, 13, 238, 14, 13, 15, 15, 239, 15, 15, 239,
        255, 120, 255, 255, 120, 255] := by
  have hformat : (sourceFrame .yuyv 4 2 testCard).frameFormat = .yuyv := rfl
  obtain ⟨⟨ret, out, hok, hgives⟩, -⟩ := converters_eq_reference .zeroed hformat rfl (by decide)
    (by decide) rfl blank_exact
  rcases hgives with ⟨rfl, hdata, -⟩ | ⟨-, hnone⟩
  · exact ⟨out, hok, hdata.trans (by decide)⟩
  · exact absurd hnone (by simp [Allocator.zeroed])

end Image
end LibUvc
