import LibUvc.Descriptor.Encode
import LibUvc.Descriptor.Safety

/-!
# What a block does to the tree

`uvc_parse_vs` dispatches to eight parsers, each of which reads its fields in its own way.  Seen
from the tree of descriptors they do only four things: set the fields that come from the input
header, append a format, append a frame or a still image to the last format, or nothing.
`VsEffect` says so, and `parseVs_effect` is the one place that takes the parsers apart.

From it come

* what every frame of a parsed tree looks like (`FrameDesc.Listed`): its intervals are a range, or a
  list of as many non-zero values as it announces, with a zero behind them;
* the frame-based parsers, which check a block before they read it: `frameBased_exact`.
-/

set_option autoImplicit false

namespace LibUvc
namespace Descriptor

open Checked Scan

/-! ## Intervals -/

/-- The intervals of the frame are a range, or as many non-zero values as it announces with a zero
behind them. -/
def FrameDesc.Listed (frame : FrameDesc) : Prop :=
  if frame.bFrameIntervalType = 0 then frame.intervals = []
  else ∃ values, frame.intervals = values ++ [0] ∧
    values.length = frame.bFrameIntervalType.toNat ∧ ∀ v ∈ values, v ≠ 0

/-- `for (interval = frame->intervals; *interval; ++interval)`: the entries it visits. -/
def FrameDesc.walk (frame : FrameDesc) : List UInt32 := frame.intervals.takeWhile (· ≠ 0)

/-- The values that the loop over the intervals stores. -/
def storedIntervals (block : List UInt8) (n : Nat) : List UInt32 :=
  (List.range n).map fun i => atLeastOne (dwAt block (26 + 4 * i))

theorem times_storeInterval_eq {block : List UInt8} {n : Nat} (h : 26 + 4 * n ≤ block.length) :
    times (storeInterval block) n (List.replicate (n + 1) 0) =
      .ok (storedIntervals block n ++ [0]) := by
  have hlen : (storedIntervals block n).length = n := by simp [storedIntervals]
  have hfill : times (storeInterval block) (storedIntervals block n).length
      (List.replicate (storedIntervals block n).length 0 ++ [0]) = _ :=
    times_fill (fun i hi l => by
      rw [storeInterval, readDw_eq (by omega), ok_bind]
      simp [storedIntervals, atLeastOne]) 0 [0]
  rwa [hlen, ← List.replicate_succ'] at hfill

theorem storedIntervals_ne_zero {block : List UInt8} {n : Nat} {v : UInt32}
    (h : v ∈ storedIntervals block n) : v ≠ 0 := by
  obtain ⟨i, -, rfl⟩ := List.mem_map.1 h
  rw [atLeastOne]
  split
  · assumption
  · decide

/-- The end of both frame parsers leaves a frame whose intervals are as it announces. -/
theorem parseIntervals_listed {block : List UInt8} {count : UInt8} {frame : FrameDesc}
    (hcount : frame.bFrameIntervalType = count) (hnil : frame.intervals = []) :
    Post (parseIntervals block count frame) FrameDesc.Listed := by
  intro frame' hframe
  have hfit := (parseIntervals_safe frame).1 ⟨frame', hframe⟩
  rw [IntervalsFit] at hfit
  rw [parseIntervals] at hframe
  split at hframe
  · rename_i hzero
    obtain ⟨_, _, h⟩ := bind_eq_ok.1 hframe
    obtain ⟨_, _, h⟩ := bind_eq_ok.1 h
    obtain ⟨_, _, h⟩ := bind_eq_ok.1 h
    obtain rfl := Except.ok.inj h
    rw [FrameDesc.Listed, if_pos (hcount.trans hzero)]
    exact hnil
  · rename_i hne
    rw [if_neg hne] at hfit
    have hlen : (storedIntervals block count.toNat).length = count.toNat := by
      simp [storedIntervals]
    rw [times_storeInterval_eq hfit, ok_bind, writeAt_eq (by simp [hlen]), ok_bind] at hframe
    obtain rfl := Except.ok.inj hframe
    rw [FrameDesc.Listed, if_neg (hcount ▸ hne)]
    refine ⟨storedIntervals block count.toNat, ?_, hcount ▸ hlen,
      fun v hv => storedIntervals_ne_zero hv⟩
    show (storedIntervals block count.toNat ++ [0]).set count.toNat 0 = _
    rw [List.set_append_right _ _ hlen.le, hlen, Nat.sub_self, List.set_cons_zero]

/-- The repair leaves the intervals alone. -/
theorem repairFrameDesc_intervals {format : FormatDesc} {frame : FrameDesc} :
    Post (repairFrameDesc format frame) fun frame' =>
      frame'.bFrameIntervalType = frame.bFrameIntervalType ∧
        frame'.intervals = frame.intervals := by
  have hbuffer : (repairBufferSize format frame).bFrameIntervalType = frame.bFrameIntervalType ∧
      (repairBufferSize format frame).intervals = frame.intervals := by
    rw [repairBufferSize]
    split <;> exact ⟨rfl, rfl⟩
  refine post_bind fun ends _ => post_pure ?_
  rw [← hbuffer.1, ← hbuffer.2]
  simp only [repairInterval]
  split <;> exact ⟨rfl, rfl⟩

/-! ## The four effects -/

/-- What a block may do to its streaming interface, with the answer of the parser. -/
inductive VsEffect (block : List UInt8) (s : StreamingInterface) : Ret → StreamingInterface → Prop
  /-- The block is of a subtype that is skipped. -/
  | ignored (h : (VsSubtype.ofByte (byteAt block 2)).ignored = true) : VsEffect block s 0 s
  | header (h : VsSubtype.ofByte (byteAt block 2) = .inputHeader) (hlen : 10 ≤ block.length) :
    VsEffect block s 0 { s with
      bEndpointAddress := byteAt block 6 &&& 0x8f
      bTerminalLink := byteAt block 8
      bStillCaptureMethod := byteAt block 9 }
  | format (format : FormatDesc) (h : isFormat block = true)
      (hsubtype : format.bDescriptorSubtype = VsSubtype.ofByte (byteAt block 2))
      (hframes : format.frameDescs = []) (hstill : format.stillFrameDesc = []) :
    VsEffect block s 0 (s.addFormat format)
  | frame (format : FormatDesc) (frame : FrameDesc)
      (h : VsSubtype.ofByte (byteAt block 2) ∈
        [VsSubtype.frameUncompressed, .frameMjpeg, .frameFrameBased])
      (hlast : lastFormat s = .ok format) (hlisted : frame.Listed) :
    VsEffect block s 0
      (s.setLastFormat { format with frameDescs := format.frameDescs ++ [frame] })
  | still (format : FormatDesc) (frame : StillFrameDesc)
      (h : VsSubtype.ofByte (byteAt block 2) = .stillImageFrame)
      (hlast : lastFormat s = .ok format) :
    VsEffect block s 0
      (s.setLastFormat { format with stillFrameDesc := format.stillFrameDesc ++ [frame] })
  /-- The block is refused by one of the frame-based parsers. -/
  | refused (h : VsSubtype.ofByte (byteAt block 2) ∈
      [VsSubtype.formatFrameBased, .frameFrameBased]) :
    VsEffect block s Ret.errorInvalidDevice s

section Effects

variable {block : List UInt8} {size : Nat} {s : StreamingInterface}

theorem parseVsInputHeader_effect (h : VsSubtype.ofByte (byteAt block 2) = .inputHeader) :
    Post (parseVsInputHeader s block) fun p => VsEffect block s p.1 p.2 := by
  intro p hp
  have hlen := parseVsInputHeader_safe.1 ⟨p, hp⟩
  rw [parseVsInputHeader, readByte_eq (by omega), ok_bind, readByte_eq (by omega), ok_bind,
    readByte_eq (by omega), ok_bind] at hp
  obtain rfl := Except.ok.inj hp
  exact .header h hlen

theorem parseVsFormatUncompressed_effect
    (h : VsSubtype.ofByte (byteAt block 2) = .formatUncompressed) :
    Post (parseVsFormatUncompressed s block) fun p => VsEffect block s p.1 p.2 := by
  refine post_bind_readByte ?_
  refine post_bind fun _ _ => post_bind fun _ _ => post_bind fun _ _ => post_bind fun _ _ => ?_
  refine post_bind fun _ _ => post_bind fun _ _ => post_bind fun _ _ => post_bind fun _ _ => ?_
  exact post_pure (.format _ (by rw [isFormat, h]) rfl rfl rfl)

theorem parseVsFormatMjpeg_effect (h : VsSubtype.ofByte (byteAt block 2) = .formatMjpeg) :
    Post (parseVsFormatMjpeg s block) fun p => VsEffect block s p.1 p.2 := by
  refine post_bind_readByte ?_
  refine post_bind fun _ _ => post_bind fun _ _ => post_bind fun _ _ => post_bind fun _ _ => ?_
  refine post_bind fun _ _ => post_bind fun _ _ => post_bind fun _ _ => ?_
  exact post_pure (.format _ (by rw [isFormat, h]) rfl rfl rfl)

theorem parseVsFrameFormat_added :
    Post (parseVsFrameFormat s block size) fun p => p = (Ret.errorInvalidDevice, s) ∨
      p.1 = 0 ∧ ∃ format, p.2 = s.addFormat format ∧
        format.bDescriptorSubtype = VsSubtype.ofByte (byteAt block 2) ∧
        format.frameDescs = [] ∧ format.stillFrameDesc = [] := by
  rw [parseVsFrameFormat]
  split
  · exact post_pure (Or.inl rfl)
  refine post_bind_readByte ?_
  refine post_bind fun _ _ => post_bind fun _ _ => post_bind fun _ _ => post_bind fun _ _ => ?_
  refine post_bind fun _ _ => post_bind fun _ _ => post_bind fun _ _ => post_bind fun _ _ => ?_
  refine post_bind fun _ _ => post_bind fun _ _ => ?_
  exact post_pure (Or.inr ⟨rfl, _, rfl, rfl, rfl, rfl⟩)

theorem parseVsFrameFormat_effect (h : VsSubtype.ofByte (byteAt block 2) = .formatFrameBased) :
    Post (parseVsFrameFormat s block size) fun p => VsEffect block s p.1 p.2 := by
  rintro ⟨r, t⟩ hp
  rcases parseVsFrameFormat_added _ hp with heq | ⟨rfl, format, rfl, hsubtype, hframes, hstill⟩
  · obtain ⟨rfl, rfl⟩ := Prod.mk.inj heq
    exact .refused (by simp [h])
  · exact .format format (by rw [isFormat, h]) hsubtype hframes hstill

/-- The frame was appended to the last format, with intervals as it announces. -/
def FrameAdded (s : StreamingInterface) (count : UInt8) (t : StreamingInterface) : Prop :=
  ∃ format frame, lastFormat s = .ok format ∧ frame.Listed ∧ frame.bFrameIntervalType = count ∧
    t = s.setLastFormat { format with frameDescs := format.frameDescs ++ [frame] }

/-- The end of both frame parsers. -/
theorem finishFrame_added {format : FormatDesc} {count : UInt8} {frame : FrameDesc}
    (hlast : lastFormat s = .ok format) (hcount : frame.bFrameIntervalType = count)
    (hnil : frame.intervals = []) :
    Post (parseIntervals block count frame >>= addFrame s format)
      fun p => p.1 = 0 ∧ FrameAdded s count p.2 := by
  refine post_bind fun frame1 hframe1 => post_bind fun frame2 hframe2 => post_pure ?_
  have hlisted := parseIntervals_listed hcount hnil frame1 hframe1
  obtain ⟨htype1, -⟩ := parseIntervals_post frame1 hframe1
  obtain ⟨htype2, hintervals⟩ := repairFrameDesc_intervals frame2 hframe2
  refine ⟨rfl, format, frame2, hlast, ?_, ?_, rfl⟩
  · rwa [FrameDesc.Listed, htype2, hintervals]
  · rw [htype2, htype1, hcount]

theorem FrameAdded.effect {count : UInt8} {t : StreamingInterface} (h : FrameAdded s count t)
    (hsubtype : VsSubtype.ofByte (byteAt block 2) ∈
      [VsSubtype.frameUncompressed, .frameMjpeg, .frameFrameBased]) : VsEffect block s 0 t := by
  obtain ⟨format, frame, hlast, hlisted, -, rfl⟩ := h
  exact .frame format frame hsubtype hlast hlisted

theorem parseVsFrameUncompressed_added :
    Post (parseVsFrameUncompressed s block)
      fun p => p.1 = 0 ∧ FrameAdded s (byteAt block 25) p.2 := by
  refine post_bind fun format hlast => ?_
  refine post_bind fun _ _ => post_bind fun _ _ => post_bind fun _ _ => post_bind fun _ _ => ?_
  refine post_bind fun _ _ => post_bind fun _ _ => post_bind fun _ _ => post_bind fun _ _ => ?_
  refine post_bind fun _ _ => post_bind_readByte ?_
  exact finishFrame_added hlast rfl rfl

theorem parseVsFrameFrame_added :
    Post (parseVsFrameFrame s block size) fun p => p = (Ret.errorInvalidDevice, s) ∨
      p.1 = 0 ∧ FrameAdded s (byteAt block 21) p.2 := by
  rw [parseVsFrameFrame]
  split
  · exact post_pure (Or.inl rfl)
  refine post_bind fun _ _ => ?_
  split
  · exact post_pure (Or.inl rfl)
  refine post_bind fun format hlast => ?_
  refine post_bind fun _ _ => post_bind fun _ _ => post_bind fun _ _ => post_bind fun _ _ => ?_
  refine post_bind fun _ _ => post_bind fun _ _ => post_bind fun _ _ => post_bind fun _ _ => ?_
  refine post_bind_readByte (post_bind fun _ _ => ?_)
  intro p hp
  right
  refine finishFrame_added hlast ?_ ?_ p hp
  · rfl
  · rfl

theorem parseVsFrameUncompressed_effect
    (h : VsSubtype.ofByte (byteAt block 2) ∈
      [VsSubtype.frameUncompressed, .frameMjpeg, .frameFrameBased]) :
    Post (parseVsFrameUncompressed s block) fun p => VsEffect block s p.1 p.2 := by
  rintro ⟨r, t⟩ hp
  obtain ⟨rfl, hadded⟩ := parseVsFrameUncompressed_added _ hp
  exact hadded.effect h

theorem parseVsFrameFrame_effect (h : VsSubtype.ofByte (byteAt block 2) = .frameFrameBased) :
    Post (parseVsFrameFrame s block size) fun p => VsEffect block s p.1 p.2 := by
  rintro ⟨r, t⟩ hp
  rcases parseVsFrameFrame_added _ hp with heq | ⟨rfl, hadded⟩
  · obtain ⟨rfl, rfl⟩ := Prod.mk.inj heq
    exact .refused (by simp [h])
  · exact hadded.effect (by simp [h])

theorem parseVsStillImageFrame_effect (h : VsSubtype.ofByte (byteAt block 2) = .stillImageFrame) :
    Post (parseVsStillImageFrame s block) fun p => VsEffect block s p.1 p.2 := by
  refine post_bind fun format hlast => ?_
  refine post_bind fun _ _ => post_bind fun _ _ => post_bind fun _ _ => post_bind fun _ _ => ?_
  exact post_bind fun _ _ => post_bind fun _ _ => post_pure (.still format _ h hlast)

end Effects

/-- **One VideoStreaming block.** -/
theorem parseVs_effect (s : StreamingInterface) (block : List UInt8) (size : Nat) :
    Post (parseVs s block size) fun p => VsEffect block s p.1 p.2 := by
  refine post_bind_readByte ?_
  cases h : VsSubtype.ofByte (byteAt block 2) with
  | inputHeader => exact parseVsInputHeader_effect h
  | stillImageFrame => exact parseVsStillImageFrame_effect h
  | formatUncompressed => exact parseVsFormatUncompressed_effect h
  | formatMjpeg => exact parseVsFormatMjpeg_effect h
  | formatFrameBased => exact parseVsFrameFormat_effect h
  | frameUncompressed => exact parseVsFrameUncompressed_effect (by simp [h])
  | frameMjpeg => exact parseVsFrameUncompressed_effect (by simp [h])
  | frameFrameBased => exact parseVsFrameFrame_effect h
  | outputHeader | formatMpeg2ts | formatDv | colorformat | formatStreamBased | other =>
    exact post_pure (.ignored (by rw [h]; rfl))

/-- A block of a subtype that is skipped is accepted. -/
theorem parseVs_skipped {block : List UInt8} (hlen : 2 < block.length)
    (h : (VsSubtype.ofByte (byteAt block 2)).ignored = true) (s : StreamingInterface)
    (size : Nat) : parseVs s block size = .ok (0, s) := by
  rw [parseVs, readByte_eq hlen, ok_bind]
  cases hcode : VsSubtype.ofByte (byteAt block 2) with
  | outputHeader | formatMpeg2ts | formatDv | colorformat | formatStreamBased | other => rfl
  | _ =>
    rw [hcode] at h
    cases h

/-! ## The frame-based parsers -/

/-- The values in front of the zero are what a walk over the intervals visits. -/
theorem walk_eq {frame : FrameDesc} {values : List UInt32} (h : frame.intervals = values ++ [0])
    (hne : ∀ v ∈ values, v ≠ 0) : frame.walk = values := by
  rw [FrameDesc.walk, h, List.takeWhile_append_of_pos (by simpa using hne),
    List.takeWhile_cons_of_neg (by simp), List.append_nil]

theorem formatDescs_of_lastFormat {s : StreamingInterface} {format : FormatDesc}
    (h : lastFormat s = .ok format) : s.formatDescs = s.formatDescs.dropLast ++ [format] := by
  rw [lastFormat] at h
  cases hlast : s.formatDescs.getLast? with
  | none =>
    rw [hlast] at h
    cases h
  | some last =>
    rw [hlast] at h
    obtain rfl := Except.ok.inj h
    obtain ⟨formats, heq⟩ := List.getLast?_eq_some_iff.1 hlast
    rw [heq, List.dropLast_concat]

/-- **The frame-based parsers are exact and atomic.**  They never read past the end of the block, so
what is behind it makes no difference.  A format is accepted exactly when the block has 28 bytes, a
frame exactly when there is a format and the block has room for the intervals it announces.  What is
refused leaves the tree as it was, and what is accepted appends one node: a format to the formats,
or a frame to the last format's frames, whose list of intervals, if it announces one, has as many
non-zero entries and then a zero. -/
theorem frameBased_exact (s : StreamingInterface) (b : Block) :
    (∃ r t, parseVsFrameFormat s b.own b.size = .ok (r, t) ∧
      parseVsFrameFormat s b.bytes b.size = .ok (r, t) ∧
      (r = Ret.success ↔ 28 ≤ b.size) ∧
      (r ≠ Ret.success → t = s) ∧
      (r = Ret.success → ∃ format, t = { s with formatDescs := s.formatDescs ++ [format] } ∧
        format.frameDescs = [] ∧ format.stillFrameDesc = [])) ∧
    (∃ r t, parseVsFrameFrame s b.own b.size = .ok (r, t) ∧
      parseVsFrameFrame s b.bytes b.size = .ok (r, t) ∧
      (r = Ret.success ↔ s.formatDescs ≠ [] ∧ 26 ≤ b.size ∧
        (byteAt b.own 21 = 0 → 38 ≤ b.size) ∧
        (byteAt b.own 21 ≠ 0 → 26 + 4 * (byteAt b.own 21).toNat ≤ b.size)) ∧
      (r ≠ Ret.success → t = s) ∧
      (r = Ret.success → ∃ formats format frame, s.formatDescs = formats ++ [format] ∧
        t = { s with formatDescs :=
          formats ++ [{ format with frameDescs := format.frameDescs ++ [frame] }] } ∧
        (byteAt b.own 21 ≠ 0 → ∃ values, frame.intervals = values ++ [0] ∧
          values.length = (byteAt b.own 21).toNat ∧ (∀ v ∈ values, v ≠ 0) ∧
          frame.walk = values))) := by
  have hsize : b.size ≤ b.own.length := b.length_own.ge
  constructor
  · obtain ⟨⟨r, t⟩, hp⟩ : Safe (parseVsFrameFormat s b.own b.size) := parseVsFrameFormat_safe hsize
    obtain ⟨hret, -⟩ := parseVsFrameFormat_post _ hp
    refine ⟨r, t, hp, b.bytes_eq ▸ stable_parseVsFrameFormat s b.size _ _ _ hp, hret, ?_⟩
    rcases parseVsFrameFormat_added _ hp with heq | ⟨hzero, format, rfl, -, hframes, hstill⟩
    · obtain ⟨rfl, rfl⟩ := Prod.mk.inj heq
      exact ⟨fun _ => rfl, fun h => absurd h Ret.errorInvalidDevice_ne⟩
    · exact ⟨fun h => absurd hzero h, fun _ => ⟨format, rfl, hframes, hstill⟩⟩
  · obtain ⟨⟨r, t⟩, hp⟩ : Safe (parseVsFrameFrame s b.own b.size) := parseVsFrameFrame_safe hsize
    obtain ⟨hret, -⟩ := parseVsFrameFrame_post _ hp
    refine ⟨r, t, hp, b.bytes_eq ▸ stable_parseVsFrameFrame s b.size _ _ _ hp, ?_, ?_⟩
    · rw [hret, hasFormat_iff, IntervalsFit]
      split <;> simp_all
    · rcases parseVsFrameFrame_added _ hp with heq | ⟨hzero, hadded⟩
      · obtain ⟨rfl, rfl⟩ := Prod.mk.inj heq
        exact ⟨fun _ => rfl, fun h => absurd h Ret.errorInvalidDevice_ne⟩
      · refine ⟨fun h => absurd hzero h, fun _ => ?_⟩
        obtain ⟨format, frame, hlast, hlisted, htype, rfl⟩ := hadded
        refine ⟨s.formatDescs.dropLast, format, frame, formatDescs_of_lastFormat hlast, rfl, ?_⟩
        intro hne
        rw [FrameDesc.Listed, htype, if_neg hne] at hlisted
        obtain ⟨values, hvalues, hlen, hnonzero⟩ := hlisted
        exact ⟨values, hvalues, hlen, hnonzero, walk_eq hvalues hnonzero⟩

end Descriptor
end LibUvc
