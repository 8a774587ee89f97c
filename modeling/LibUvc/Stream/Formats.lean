import LibUvc.Stream.Geometry
import LibUvc.Stream.Mode

/-!
# The formats that can be asked for, and those that can be started

A format is recognised twice.  When a mode is negotiated, `_uvc_frame_format_matches_guid` looks for
its GUID among a requested format and everything below it in the tree of formats; when the stream is
started, `uvc_frame_format_for_guid` looks for it in the whole table.  `negotiable_iff` says for
which GUIDs the two agree.

They do not agree on all.  Both skip the entries that are marked as abstract, but neither macro of
the table marks any, so the zeros that stand for an abstract format are a GUID like others.  And the
colour mosaics are in the table without being below any other format.
-/

set_option autoImplicit false

namespace LibUvc
namespace Stream

open Descriptor

/-! ## The table -/

/-- `struct format_table_entry`, where `children_count` is the length of `children`. -/
structure FormatTableEntry where
  format : FrameFormat
  abstractFmt : UInt8
  guid : List UInt8
  children : List FrameFormat
  deriving DecidableEq, Repr

/-- `_get_format_entry`.  `ABS_FMT`, for the formats that have children, writes the same 0 into
`abstract_fmt` as `FMT`. -/
def getFormatEntry (format : FrameFormat) : FormatTableEntry where
  format := format
  abstractFmt := 0
  guid := formatGuid format
  children := formatChildren format

/-- `_uvc_frame_format_matches_guid` on the table, with a bound on the depth. -/
def entryMatchesGuid : Nat → FrameFormat → List UInt8 → Bool
  | 0, _, _ => false
  | fuel + 1, fmt, guid =>
    let format := getFormatEntry fmt
    if format.abstractFmt = 0 && guid == format.guid then true
    else format.children.any fun child => entryMatchesGuid fuel child guid

/-- `uvc_frame_format_for_guid` on the table. -/
def entryForGuid (guid : List UInt8) : FrameFormat :=
  (frameFormats.find? fun fmt =>
    let format := getFormatEntry fmt
    format.abstractFmt = 0 && format.guid == guid).getD .unknown

/-- As long as no entry is marked, the mark makes no difference. -/
theorem matchesGuid_entry (fuel : Nat) (fmt : FrameFormat) (guid : List UInt8) :
    matchesGuid fuel fmt guid = entryMatchesGuid fuel fmt guid := by
  induction fuel generalizing fmt with
  | zero => rfl
  | succ fuel ih =>
    simp only [matchesGuid, entryMatchesGuid, getFormatEntry, ih]
    cases guid == formatGuid fmt <;> rfl

theorem frameFormatForGuid_entry (guid : List UInt8) :
    frameFormatForGuid guid = entryForGuid guid := rfl

/-! ## The formats that have a GUID of their own -/

/-- The GUID that the abstract formats have in the table. -/
def zeroGuid : List UInt8 := List.replicate 16 0

/-- The raw colour mosaics. -/
def mosaicFormats : List FrameFormat := [.by8, .ba81, .sgrbg8, .sgbrg8, .srggb8, .sbggr8]

/-- Not just a name for other formats. -/
def IsConcrete (format : FrameFormat) : Prop := formatChildren format = []

instance : DecidablePred IsConcrete := fun format =>
  inferInstanceAs (Decidable (formatChildren format = []))

/-- The formats below one in the tree, which is three deep. -/
def formatsUnder (format : FrameFormat) : List FrameFormat :=
  formatChildren format ++ (formatChildren format).flatMap formatChildren

/-- The concrete formats listed under one. -/
def concreteUnder (format : FrameFormat) : List FrameFormat :=
  (formatsUnder format).filter fun child => IsConcrete child

theorem formatGuid_of_not_concrete {format : FrameFormat} (h : ¬ IsConcrete format) :
    formatGuid format = zeroGuid := by
  cases format <;> first | rfl | exact absurd rfl h

theorem not_concrete_unknown : ¬ IsConcrete .unknown := by decide

/-! ## The two ways of recognising a format -/

theorem frameFormatForGuid_formatGuid {format : FrameFormat} (h : IsConcrete format) :
    frameFormatForGuid (formatGuid format) = format := by
  revert h
  cases format <;> decide

@[simp] theorem frameFormatForGuid_zero : frameFormatForGuid zeroGuid = .unknown := by decide

theorem concrete_or_eq_unknown (guid : List UInt8) :
    frameFormatForGuid guid = .unknown ∨
      IsConcrete (frameFormatForGuid guid) ∧ guid = formatGuid (frameFormatForGuid guid) := by
  rw [frameFormatForGuid]
  cases hfind : frameFormats.find? fun format => formatGuid format == guid with
  | none => exact .inl rfl
  | some format =>
    have hguid : formatGuid format = guid := by
      simpa using List.find?_some hfind
    by_cases hc : IsConcrete format
    · exact .inr ⟨hc, hguid.symm⟩
    · rw [formatGuid_of_not_concrete hc] at hguid
      subst hguid
      exact .inl (hfind ▸ frameFormatForGuid_zero)

/-- `uvc_frame_format_for_guid` inverts the table on the concrete formats. -/
theorem frameFormatForGuid_eq_iff {guid : List UInt8} {format : FrameFormat}
    (h : IsConcrete format) : frameFormatForGuid guid = format ↔ guid = formatGuid format := by
  constructor
  · rintro rfl
    rcases concrete_or_eq_unknown guid with hu | ⟨-, hguid⟩
    · exact absurd (hu ▸ h) not_concrete_unknown
    · exact hguid
  · rintro rfl
    exact frameFormatForGuid_formatGuid h

theorem frameFormatForGuid_ne_unknown_iff {guid : List UInt8} :
    frameFormatForGuid guid ≠ .unknown ↔
      ∃ format, IsConcrete format ∧ guid = formatGuid format := by
  constructor
  · intro h
    exact ⟨_, (concrete_or_eq_unknown guid).resolve_left h⟩
  · rintro ⟨format, hc, rfl⟩
    rw [frameFormatForGuid_formatGuid hc]
    rintro rfl
    exact not_concrete_unknown hc

/-- A requested format matches its own GUID and those of the formats below it. -/
theorem frameFormatMatchesGuid_iff {fmt : FrameFormat} {guid : List UInt8} :
    frameFormatMatchesGuid fmt guid = true ↔
      guid = formatGuid fmt ∨ ∃ child ∈ formatsUnder fmt, guid = formatGuid child := by
  simp only [frameFormatMatchesGuid, matchesGuid, formatsUnder, Bool.or_eq_true, beq_iff_eq,
    List.any_eq_true, List.mem_append, List.mem_flatMap, Bool.false_eq_true, and_false,
    exists_false, or_false]
  constructor
  · rintro (h | ⟨child, hchild, h | ⟨leaf, hleaf, h⟩⟩)
    · exact .inl h
    · exact .inr ⟨child, .inl hchild, h⟩
    · exact .inr ⟨leaf, .inr ⟨child, hchild, hleaf⟩, h⟩
  · rintro (h | ⟨leaf, hleaf | ⟨child, hchild, hleaf⟩, h⟩)
    · exact .inl h
    · exact .inr ⟨leaf, hleaf, .inl h⟩
    · exact .inr ⟨child, hchild, .inr ⟨leaf, hleaf, h⟩⟩

/-- What a request matches, said with the format that the GUID is looked up as. -/
theorem frameFormatMatchesGuid_iff_forGuid {fmt : FrameFormat} {guid : List UInt8}
    (h : guid ≠ zeroGuid) :
    frameFormatMatchesGuid fmt guid = true ↔
      (IsConcrete fmt ∧ frameFormatForGuid guid = fmt) ∨
        frameFormatForGuid guid ∈ concreteUnder fmt := by
  have hconcrete : ∀ {format}, guid = formatGuid format → IsConcrete format := by
    rintro format rfl
    by_contra hc
    exact h (formatGuid_of_not_concrete hc)
  rw [frameFormatMatchesGuid_iff]
  simp only [concreteUnder, List.mem_filter, decide_eq_true_eq]
  constructor
  · rintro (heq | ⟨child, hchild, heq⟩)
    · exact .inl ⟨hconcrete heq, (frameFormatForGuid_eq_iff (hconcrete heq)).2 heq⟩
    · rw [(frameFormatForGuid_eq_iff (hconcrete heq)).2 heq]
      exact .inr ⟨hchild, hconcrete heq⟩
  · rintro (⟨hc, heq⟩ | ⟨hchild, hc⟩)
    · exact .inl ((frameFormatForGuid_eq_iff hc).1 heq)
    · exact .inr ⟨_, hchild, (frameFormatForGuid_eq_iff hc).1 rfl⟩

/-! ## Where they agree -/

theorem mem_concreteUnder_any {format : FrameFormat} (h : IsConcrete format) :
    format ∈ concreteUnder .unknown ↔ format ∉ mosaicFormats := by
  revert h
  cases format <;> decide

theorem unknown_not_mem_concreteUnder (fmt : FrameFormat) : .unknown ∉ concreteUnder fmt := by
  intro h
  rw [concreteUnder, List.mem_filter] at h
  exact absurd h.2 (by decide)

/-- A particular request is right about every GUID but that of the abstract formats. -/
theorem frameFormatMatchesGuid_iff_of_ne {fmt : FrameFormat} (hfmt : fmt ≠ .unknown)
    {guid : List UInt8} (h : guid ≠ zeroGuid) :
    frameFormatMatchesGuid fmt guid = true ↔
      frameFormatForGuid guid = fmt ∨ frameFormatForGuid guid ∈ concreteUnder fmt := by
  rw [frameFormatMatchesGuid_iff_forGuid h]
  refine or_congr_left ⟨fun heq => heq.2, fun heq => ⟨?_, heq⟩⟩
  rcases concrete_or_eq_unknown guid with hu | ⟨hc, -⟩
  · exact absurd (heq.symm.trans hu) hfmt
  · exact heq ▸ hc

/-- Any format at all is asked for: what is left out are the mosaics. -/
theorem frameFormatMatchesGuid_any_iff {guid : List UInt8} (h : guid ≠ zeroGuid) :
    frameFormatMatchesGuid .unknown guid = true ↔
      frameFormatForGuid guid ≠ .unknown ∧ frameFormatForGuid guid ∉ mosaicFormats := by
  have hany : frameFormatMatchesGuid .unknown guid = true ↔
      frameFormatForGuid guid ∈ concreteUnder .unknown := by
    rw [frameFormatMatchesGuid_iff_forGuid h]
    exact or_iff_right fun heq => not_concrete_unknown heq.1
  rw [hany]
  rcases concrete_or_eq_unknown guid with hu | ⟨hc, -⟩
  · rw [hu]
    exact iff_of_false (unknown_not_mem_concreteUnder _) fun hne => hne.1 rfl
  · rw [mem_concreteUnder_any hc]
    refine ⟨fun hm => ⟨?_, hm⟩, fun hm => hm.2⟩
    intro hu
    exact not_concrete_unknown (hu ▸ hc)

theorem isConcrete_of_mosaic {format : FrameFormat} (h : format ∈ mosaicFormats) :
    IsConcrete format := by
  revert h
  cases format <;> decide

/-- **Negotiable and startable formats.**  A request for any format finds exactly the formats that a
stream can be started with, and any other request exactly those that it names or that are listed
under it, if and only if the GUID is neither the zeros of the abstract formats nor that of a colour
mosaic. -/
theorem negotiable_iff (guid : List UInt8) :
    ((frameFormatMatchesGuid .unknown guid = true ↔ frameFormatForGuid guid ≠ .unknown) ∧
      ∀ fmt ≠ .unknown, (frameFormatMatchesGuid fmt guid = true ↔
        frameFormatForGuid guid = fmt ∨ frameFormatForGuid guid ∈ concreteUnder fmt)) ↔
    guid ≠ zeroGuid ∧ ∀ format ∈ mosaicFormats, guid ≠ formatGuid format := by
  constructor
  · rintro ⟨hany, -⟩
    have hzero : guid ≠ zeroGuid := by
      rintro rfl
      exact hany.1 (by decide) frameFormatForGuid_zero
    refine ⟨hzero, ?_⟩
    rintro format hm rfl
    have hc := isConcrete_of_mosaic hm
    have hstart := frameFormatForGuid_ne_unknown_iff.2 ⟨format, hc, rfl⟩
    have hnot := ((frameFormatMatchesGuid_any_iff hzero).1 (hany.2 hstart)).2
    rw [frameFormatForGuid_formatGuid hc] at hnot
    exact hnot hm
  · rintro ⟨hzero, hmosaic⟩
    refine ⟨?_, fun fmt hfmt => frameFormatMatchesGuid_iff_of_ne hfmt hzero⟩
    rw [frameFormatMatchesGuid_any_iff hzero]
    refine ⟨fun h => h.1, fun h => ⟨h, fun hm => ?_⟩⟩
    exact hmosaic _ hm ((frameFormatForGuid_eq_iff (isConcrete_of_mosaic hm)).1 rfl)

/-- Zeros are a format that can be asked for and not started; a mosaic is one that can be started
and is not found by asking for any format. -/
theorem negotiable_not_startable :
    (frameFormatMatchesGuid .unknown zeroGuid = true ∧ frameFormatForGuid zeroGuid = .unknown) ∧
    (frameFormatMatchesGuid .uncompressed zeroGuid = true ∧
      frameFormatForGuid zeroGuid ∉ .uncompressed :: concreteUnder .uncompressed) ∧
    frameFormatMatchesGuid .unknown (formatGuid .by8) = false ∧
      frameFormatForGuid (formatGuid .by8) = .by8 := by
  decide

/-! ## Starting what was negotiated -/

/-- Whatever request selected the mode, a stream on it is not refused for its format, unless the
GUID is zero. -/
theorem Mode.Matches.resolves {cf : FrameFormat} {width height fps : Int32} {m : Mode}
    (h : m.Matches cf width height fps) (hzero : m.format.guidFormat ≠ zeroGuid)
    {ctrl : StreamCtrl}
    (hfind : findFrameDescStreamIf m.streamIf ctrl.bFormatIndex.toUInt16
      ctrl.bFrameIndex.toUInt16 = some (m.format, m.frame)) :
    resolveFrame m.streamIf ctrl = .ok (frameFormatForGuid m.format.guidFormat, m.frame) := by
  have hstart : frameFormatForGuid m.format.guidFormat ≠ .unknown := by
    intro hu
    have hm := (frameFormatMatchesGuid_iff_forGuid hzero).1 h.format
    rw [hu] at hm
    rcases hm with ⟨hc, heq⟩ | hm
    · exact not_concrete_unknown (heq ▸ hc)
    · exact unknown_not_mem_concreteUnder cf hm
  simp only [resolveFrame, hfind, if_neg hstart]

end Stream
end LibUvc
