import LibUvc.Image.Convert

/-!
# From JPEG to pixels

`uvc_mjpeg2rgb` and `uvc_mjpeg2gray` leave the decoding to libjpeg, which is a parameter here.  The
output is made as large as the frame is according to the descriptors of the camera, and then gets
as many rows, of such a length, as the compressed data says.  Nothing compares the two.

* `readScanlines` is the loop over the rows, and `safe_readScanlines` says that it is safe when the
  last row fits.
* `mjpeg_safe_iff` says the same of the two functions.
-/

set_option autoImplicit false

namespace LibUvc
namespace Image

open Checked

/-- What libjpeg makes of compressed data, for a number of components a pixel.  Each answer may also
be its error exit, which `uvc_mjpeg_convert` turns into an error of its own. -/
structure Libjpeg where
  /-- The header has been read, and the decompression started: `output_width`, `output_height`. -/
  start : List UInt8 → Nat → Option (Nat × Nat)
  /-- A row.  From memory, one row is read each time. -/
  readScanline : List UInt8 → Nat → Nat → Option (List UInt8)
  /-- Whether `jpeg_finish_decompress` returns. -/
  finish : List UInt8 → Nat → Bool
  length_readScanline : ∀ {src components width height},
    start src components = some (width, height) →
      ∀ line row, readScanline src components line = some row → row.length = width * components

/-- The loop over the rows from `line` on: `rows` are left.  The result says whether the error exit
was not taken. -/
def readScanlines (line : Nat → Option (List UInt8)) (step : Nat) :
    Nat → Nat → List UInt8 → Checked (Bool × List UInt8)
  | 0, _, data => return (true, data)
  | rows + 1, linesRead, data =>
    match line linesRead with
    | none => return (false, data)
    | some row => do
      let data ← blit data (linesRead * step) row
      readScanlines line step rows (linesRead + 1) data

/-- The components that `uvc_mjpeg_convert` asks for. -/
def components : FrameFormat → Option Nat
  | .rgb => some 3
  | .gray8 => some 1
  | _ => none

/-- The compressed data. -/
def Frame.image (frame : Frame) : List UInt8 := frame.bytes.take frame.dataBytes

/-- `uvc_mjpeg_convert`.  The Huffman tables that a camera may leave out are filled in before the
decompression is started, and belong to `jpeg.start`. -/
def mjpegConvert (jpeg : Libjpeg) (frame out : Frame) : Checked (Ret × Frame) := do
  match components out.frameFormat with
  | none => return (Ret.errorOther, out)
  | some n =>
    match jpeg.start frame.image n with
    | none => return (Ret.errorOther, out)
    | some (_, outputHeight) =>
      let (read, data) ←
        readScanlines (jpeg.readScanline frame.image n) out.step outputHeight 0 out.bytes
      let out := { out with data := some data }
      if read ∧ jpeg.finish frame.image n then return (0, out) else return (Ret.errorOther, out)

/-- What the two functions have in common. -/
def mjpegFrame (alloc : Allocator) (jpeg : Libjpeg) (target : FrameFormat) (pixelBytes : UInt32)
    (frame out : Frame) : Checked (Ret × Frame) := do
  if frame.frameFormat ≠ .mjpeg then return (Ret.errorInvalidParam, out)
  let (ret, out) :=
    ensureFrameSize alloc out (frame.width * frame.height * pixelBytes).toNat
  if ret < 0 then return (Ret.errorNoMem, out)
  mjpegConvert jpeg frame { out.describe frame with
    frameFormat := target
    step := (frame.width * pixelBytes).toNat }

/-- `uvc_mjpeg2rgb`. -/
def mjpeg2rgb (alloc : Allocator) (jpeg : Libjpeg) := mjpegFrame alloc jpeg .rgb 3

/-- `uvc_mjpeg2gray`. -/
def mjpeg2gray (alloc : Allocator) (jpeg : Libjpeg) := mjpegFrame alloc jpeg .gray8 1

/-! ## When the rows fit -/

/-- The rows that are read, of the next `rows`: those in front of the first error. -/
def rowsRead (line : Nat → Option (List UInt8)) : Nat → Nat → Nat
  | 0, _ => 0
  | rows + 1, i => if (line i).isSome then rowsRead line rows (i + 1) + 1 else 0

/-- The loop is safe when every row that is read fits. -/
theorem safe_readScanlines {line : Nat → Option (List UInt8)} {step rowBytes : Nat}
    (hrow : ∀ i row, line i = some row → row.length = rowBytes) {rows i : Nat} {data : List UInt8} :
    Safe (readScanlines line step rows i data) ↔
      ∀ j < rowsRead line rows i, (i + j) * step + rowBytes ≤ data.length := by
  induction rows generalizing i data with
  | zero => exact iff_of_true (safe_pure _) fun j hj => absurd hj (Nat.not_lt_zero j)
  | succ rows ih =>
    rw [readScanlines, rowsRead]
    cases hline : line i with
    | none => exact iff_of_true (safe_pure _) fun j hj => absurd hj (Nat.not_lt_zero j)
    | some row =>
      have hlen := hrow i row hline
      simp only [Option.isSome_some, if_true]
      by_cases hfit : i * step + row.length ≤ data.length
      · rw [blit_eq hfit, ok_bind, ih, length_blit hfit]
        constructor
        · intro hrest j hj
          cases j with
          | zero => rw [Nat.add_zero, ← hlen]; exact hfit
          | succ j =>
            have h := hrest j (Nat.lt_of_succ_lt_succ hj)
            rwa [Nat.add_right_comm, Nat.add_assoc] at h
        · intro hall j hj
          have h := hall (j + 1) (Nat.succ_lt_succ hj)
          rwa [← Nat.add_assoc, Nat.add_right_comm] at h
      · rw [blit, if_neg hfit, error_bind]
        refine iff_of_false (not_safe_error _) fun hall => hfit ?_
        rw [hlen]
        exact hall 0 (Nat.succ_pos _)

/-- The last row is the one that matters. -/
theorem rows_fit_iff {rows step rowBytes size : Nat} :
    (∀ j < rows, (0 + j) * step + rowBytes ≤ size) ↔
      rows = 0 ∨ (rows - 1) * step + rowBytes ≤ size := by
  cases rows with
  | zero => simp
  | succ n =>
    simp only [Nat.succ_ne_zero, false_or, Nat.add_sub_cancel, Nat.zero_add]
    constructor
    · intro h
      exact h n (Nat.lt_succ_self n)
    · intro h j hj
      have hle : j * step ≤ n * step := Nat.mul_le_mul_right step (Nat.lt_succ_iff.1 hj)
      omega

/-- The two of them. -/
inductive Decoding where
  | rgb
  | gray
  deriving DecidableEq, Repr

/-- The functions by their names. -/
def Decoding.run (alloc : Allocator) (jpeg : Libjpeg) :
    Decoding → Frame → Frame → Checked (Ret × Frame)
  | rgb => mjpeg2rgb alloc jpeg
  | gray => mjpeg2gray alloc jpeg

/-- The bytes of a pixel of the output. -/
def Decoding.pixelBytes : Decoding → UInt32
  | rgb => 3
  | gray => 1

/-- The size that a conversion asks for, and the bytes of its lines: products in 32 bits. -/
def Decoding.needBytes (d : Decoding) (frame : Frame) : Nat :=
  (frame.width * frame.height * d.pixelBytes).toNat

def Decoding.step (d : Decoding) (frame : Frame) : Nat := (frame.width * d.pixelBytes).toNat

/-- The last row that libjpeg delivers ends inside the output, if there is one. -/
def Decoding.RowsFit (d : Decoding) (jpeg : Libjpeg) (frame out : Frame) : Prop :=
  ∀ width height, jpeg.start frame.image d.pixelBytes.toNat = some (width, height) →
    let rows := rowsRead (jpeg.readScanline frame.image d.pixelBytes.toNat) height 0
    rows = 0 ∨ (rows - 1) * d.step frame + width * d.pixelBytes.toNat ≤
      out.ensuredBytes (d.needBytes frame)

def Decoding.target : Decoding → FrameFormat
  | rgb => .rgb
  | gray => .gray8

/-- The conversion behind `ensureFrameSize`, into a buffer of `data.length` bytes. -/
theorem safe_mjpegConvert (d : Decoding) (jpeg : Libjpeg) (frame out : Frame) {data : List UInt8}
    (hformat : out.frameFormat = d.target) (hstep : out.step = d.step frame)
    (hdata : out.data = some data) :
    Safe (mjpegConvert jpeg frame out) ↔
      ∀ width height, jpeg.start frame.image d.pixelBytes.toNat = some (width, height) →
        let rows := rowsRead (jpeg.readScanline frame.image d.pixelBytes.toNat) height 0
        rows = 0 ∨ (rows - 1) * d.step frame + width * d.pixelBytes.toNat ≤ data.length := by
  have hcomponents : components out.frameFormat = some d.pixelBytes.toNat := by
    rw [hformat]
    cases d <;> rfl
  have hbytes : out.bytes = data := by rw [Frame.bytes, hdata]; rfl
  rw [mjpegConvert, hcomponents, hstep, hbytes]
  cases hstart : jpeg.start frame.image d.pixelBytes.toNat with
  | none =>
    simp only [hstart]
    exact iff_of_true (safe_pure _) fun _ _ h => absurd h (by simp)
  | some size =>
    obtain ⟨width, height⟩ := size
    simp only [hstart]
    rw [safe_bind_iff (P := True), and_true, safe_readScanlines (jpeg.length_readScanline hstart),
      rows_fit_iff]
    · constructor
      · rintro h w l hsize
        obtain ⟨rfl, rfl⟩ := Prod.mk.inj (Option.some.inj hsize)
        exact h
      · exact fun h => h width height rfl
    · rintro ⟨read, filled⟩
      refine iff_of_true ?_ trivial
      dsimp only
      split
      · exact safe_pure _
      · exact safe_pure _

/-- **When the rows stay inside the output.**  For each of the two functions: if and only if, should
it come to decoding, the last row that libjpeg delivers ends inside the buffer. -/
theorem mjpeg_safe_iff (alloc : Allocator) (jpeg : Libjpeg) (d : Decoding) {frame out : Frame}
    (hout : out.Exact) :
    Safe (d.run alloc jpeg frame out) ↔
      (frame.frameFormat = .mjpeg →
        (ensureFrameSize alloc out (d.needBytes frame)).1 = Ret.success →
          d.RowsFit jpeg frame out) := by
  have hrun : d.run alloc jpeg = mjpegFrame alloc jpeg d.target d.pixelBytes := by
    cases d <;> rfl
  rw [hrun, mjpegFrame]
  by_cases hformat : frame.frameFormat = .mjpeg
  · rw [if_neg (not_not.2 hformat), show (frame.width * frame.height * d.pixelBytes).toNat =
      d.needBytes frame from rfl]
    rcases ensureFrameSize_cases alloc hout (d.needBytes frame) with ⟨hfail, -⟩ |
      ⟨data, hensure, hlen, -⟩
    · generalize ensureFrameSize alloc out (d.needBytes frame) = ensured at hfail
      obtain ⟨ret, o⟩ := ensured
      obtain rfl : ret = Ret.errorNoMem := hfail
      exact iff_of_true ⟨_, rfl⟩ fun _ h =>
        absurd (show Ret.errorNoMem = Ret.success from h) (by decide)
    · rw [hensure, Decoding.RowsFit, ← hlen]
      let described : Frame :=
        { ({ out with data := some data, dataBytes := data.length } : Frame).describe frame with
          frameFormat := d.target
          step := d.step frame }
      exact (safe_mjpegConvert d jpeg frame described rfl rfl rfl).trans
        ⟨fun h _ _ => h, fun h => h hformat rfl⟩
  · rw [if_pos hformat]
    exact iff_of_true ⟨_, rfl⟩ fun h => absurd h hformat

/-- A grey JPEG of at most 8 by 8 pixels, without Huffman tables: a frame header, a quantization
table, and one block whose coefficients are all zero. -/
def greyJpeg (width height : UInt8) : List UInt8 :=
  [0xff, 0xd8, 0xff, 0xc0, 0, 11, 8, 0, height, 0, width, 1, 1, 0x11, 0, 0xff, 0xdb, 0, 67, 0] ++
    List.replicate 64 1 ++
    [0xff, 0xda, 0, 8, 1, 1, 0, 0, 63, 0, 0x2b, 0xff, 0xd9]

/-- What libjpeg makes of these: the size in the header, and pixels in the middle of the range. -/
def greyDecoder : Libjpeg where
  start src _ := some ((byteAt src 10).toNat, (byteAt src 8).toNat)
  readScanline src components _ := some (List.replicate ((byteAt src 10).toNat * components) 128)
  finish _ _ := true
  length_readScanline h line row hrow := by
    rw [← Option.some.inj hrow, List.length_replicate, ← (Prod.mk.inj (Option.some.inj h)).1]

/-- A camera that sends what it has promised. -/
theorem mjpeg_safe_promised :
    Safe (mjpeg2rgb .zeroed greyDecoder (sourceFrame .mjpeg 2 3 (greyJpeg 2 3)) {}) := by
  refine (mjpeg_safe_iff .zeroed greyDecoder .rgb blank_exact).2 fun _ _ width height hstart => ?_
  obtain ⟨rfl, rfl⟩ := Prod.mk.inj (Option.some.inj hstart)
  decide

/-- A camera whose descriptors promise one pixel, and that sends two, next to each other or one
below the other. -/
theorem mjpeg_out_of_bounds :
    mjpeg2rgb .zeroed greyDecoder (sourceFrame .mjpeg 1 1 (greyJpeg 2 1)) {} = .error .outOfBounds ∧
    mjpeg2gray .zeroed greyDecoder (sourceFrame .mjpeg 1 1 (greyJpeg 1 2)) {} =
      .error .outOfBounds :=
  ⟨rfl, rfl⟩

end Image
end LibUvc
