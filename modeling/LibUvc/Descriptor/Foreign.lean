import LibUvc.Descriptor.Grammar
import LibUvc.Descriptor.Reading

/-!
# Blocks of another class

The blocks of other classes of descriptor (an interface association, an endpoint) may stand between
the class-specific ones.  `uvc_parse_vc` looks at the descriptor type and skips them; `uvc_parse_vs`
does not look, and takes them for whatever their third byte says.  Besides, a block that is shorter
than its fields is read on into the next one, so a foreign block can also be noticed by what stands
in front of it.

`foreign_block_iff` compares two runs, one with such a block and one without, and says when they
build the same tree: if the foreign block is not parsed into anything that stays (`VsUnnoticed`,
`VcUnnoticed`) and the blocks in front of it say the same with it and without it.

Two lemmas about the runs carry the comparison.  From the trees at the end one can go back, block
by block, to what was said (`through_inj`); and what was said determines the trees
(`through_congr`).
-/

set_option autoImplicit false

namespace LibUvc
namespace Descriptor

open Checked Scan

/-! ## What a chain of blocks says -/

def keepHeader (h : HeaderFields) (b : Block) : HeaderFields :=
  if isInputHeader b.bytes then headerOf b.bytes else h

/-- What the last input header of the blocks says, or zeros if there is none. -/
def lastHeader (bs : List Block) : HeaderFields := bs.foldl keepHeader (0, 0, 0)

/-- The depth that counts for what comes behind. -/
def VsNode.depth (bits : UInt8) : VsNode → UInt8
  | .format added => added.bBitsPerPixel
  | .frame _ | .still _ => bits

/-- What the blocks add, one after the other, behind a format of this depth. -/
def vsNodes (bits : UInt8) : List Block → List VsNode
  | [] => []
  | b :: bs =>
    match vsNode bits b.bytes with
    | some node => node :: vsNodes (node.depth bits) bs
    | none => vsNodes bits bs

/-- `uvc_parse_vs` takes the block for a format, a frame or a still image. -/
def isNode (m : List UInt8) : Bool :=
  !(VsSubtype.ofByte (byteAt m 2)).ignored && !isInputHeader m

/-- The block `x`, between the others, leaves no trace in the tree of a streaming interface. -/
structure VsUnnoticed (pre : List (List UInt8)) (x : List UInt8) (post : List (List UInt8)) :
    Prop where
  /-- It is of a subtype that `uvc_parse_vs` skips, or is taken for an input header. -/
  skipped : isNode x = false
  /-- No block in front of it, nor itself, is read past the end of the bytes. -/
  fits : ∀ b ∈ placed (pre ++ [x]) post.flatten, VsFits true b.bytes
  /-- The blocks in front of it say the same when it stands behind them. -/
  nodes : vsNodes 0 (placed pre (x ++ post.flatten)) = vsNodes 0 (placed pre post.flatten)
  /-- The last input header says the same. -/
  header : lastHeader (placed (pre ++ x :: post) []) = lastHeader (placed (pre ++ post) [])

/-- The terminals and units that the blocks describe, each kind by itself. -/
def unitsOf (bs : List Block) :
    List InputTerminal × List SelectorUnit × List ProcessingUnit × List ExtensionUnit :=
  (bs.filterMap (terminalSaid ·.bytes), bs.filterMap (selectorSaid ·.bytes),
    bs.filterMap (processingSaid ·.bytes), bs.filterMap (extensionSaid ·.bytes))

def keepVcHeader (h : UInt16 × UInt32) (b : Block) : UInt16 × UInt32 :=
  (vcHeaderSaid b.bytes).getD h

/-- `bcdUVC` and `dwClockFrequency` of the last header of the blocks, or zeros if there is none. -/
def lastVcHeader (bs : List Block) : UInt16 × UInt32 := bs.foldl keepVcHeader (0, 0)

/-- The block `x`, which is skipped, is not read by the blocks in front of it to any effect. -/
structure VcUnnoticed (pre : List (List UInt8)) (x : List UInt8) (post : List (List UInt8)) :
    Prop where
  /-- The blocks in front of it can be read and are accepted when it stands behind them. -/
  readable : ∀ b ∈ placed pre (x ++ post.flatten), VcReadable b.bytes
  /-- They describe the same terminals and units. -/
  units : unitsOf (placed pre (x ++ post.flatten)) = unitsOf (placed pre post.flatten)
  /-- The last header says the same. -/
  header : lastVcHeader (placed (pre ++ x :: post) []) = lastVcHeader (placed (pre ++ post) [])

/-! ## The formats -/

theorem lastDepth_modifyLast (formats : List FormatDesc) {f : FormatDesc → FormatDesc}
    (hf : ∀ format, (f format).bBitsPerPixel = format.bBitsPerPixel) :
    lastDepth (formats.modifyLast f) = lastDepth formats := by
  rcases List.eq_nil_or_concat' formats with rfl | ⟨init, format, rfl⟩
  · rfl
  · rw [List.modifyLast_concat, lastDepth, lastDepth, List.getLast?_concat, List.getLast?_concat]
    exact hf format

theorem lastDepth_addTo (formats : List FormatDesc) (node : VsNode) :
    lastDepth (node.addTo formats) = node.depth (lastDepth formats) := by
  cases node with
  | format added => rw [VsNode.addTo, lastDepth, List.getLast?_concat, VsNode.depth]
  | frame added => exact lastDepth_modifyLast formats fun _ => rfl
  | still added => exact lastDepth_modifyLast formats fun _ => rfl

theorem vsNodes_cons (formats : List FormatDesc) (b : Block) (bs : List Block) :
    vsNodes (lastDepth formats) (b :: bs) = (vsNode (lastDepth formats) b.bytes).toList ++
      vsNodes (lastDepth (sayFormats formats b.bytes)) bs := by
  rw [vsNodes, sayFormats]
  cases vsNode (lastDepth formats) b.bytes with
  | none => rfl
  | some node => rw [lastDepth_addTo, Option.toList_some, List.singleton_append]

/-- Whether a block adds something is a matter of its subtype. -/
theorem length_vsNode {m m' : List UInt8} (hcode : byteAt m 2 = byteAt m' 2) (bits bits' : UInt8) :
    (vsNode bits m).toList.length = (vsNode bits' m').toList.length := by
  rw [vsNode, vsNode, hcode]
  cases VsSubtype.ofByte (byteAt m' 2) with
  | _ => rfl

theorem withFrame_inj {format format' : FormatDesc} {frame frame' : FrameDesc}
    (h : format.withFrame frame = format'.withFrame frame') :
    format = format' ∧ frame = frame' := by
  cases format
  cases format'
  simp only [FormatDesc.withFrame, FormatDesc.mk.injEq] at h ⊢
  have hframes := List.append_inj' h.2.2.2.2.2.2.2.2.2.2.2.1 rfl
  simp_all

theorem withStill_inj {format format' : FormatDesc} {frame frame' : StillFrameDesc}
    (h : format.withStill frame = format'.withStill frame') :
    format = format' ∧ frame = frame' := by
  cases format
  cases format'
  simp only [FormatDesc.withStill, FormatDesc.mk.injEq] at h ⊢
  have hstills := List.append_inj' h.2.2.2.2.2.2.2.2.2.2.2.2 rfl
  simp_all

/-- What was put into the last format can be taken out again. -/
theorem modifyLast_inj {α : Type} {add : FormatDesc → α → FormatDesc}
    (hadd : ∀ {format format' a a'}, add format a = add format' a' → format = format' ∧ a = a')
    {formats formats' : List FormatDesc} {a a' : α} (hne : formats ≠ []) (hne' : formats' ≠ [])
    (h : formats.modifyLast (add · a) = formats'.modifyLast (add · a')) :
    formats = formats' ∧ a = a' := by
  obtain ⟨init, format, rfl⟩ := (List.eq_nil_or_concat' formats).resolve_left hne
  obtain ⟨init', format', rfl⟩ := (List.eq_nil_or_concat' formats').resolve_left hne'
  rw [List.modifyLast_concat, List.modifyLast_concat] at h
  obtain ⟨rfl, hlast⟩ := List.append_inj' h rfl
  obtain ⟨rfl, rfl⟩ := hadd (List.cons.inj hlast).1
  exact ⟨rfl, rfl⟩

/-- The block is something that belongs to a format. -/
def isPart (m : List UInt8) : Bool := isNode m && !isFormat m

/-- **One block back.**  What a block has said, and what there was before, can be seen from what
there is behind it. -/
theorem sayFormats_inj {formats formats' : List FormatDesc} {m m' : List UInt8}
    (hcode : byteAt m 2 = byteAt m' 2) (hne : isPart m = true → formats ≠ [])
    (hne' : isPart m' = true → formats' ≠ [])
    (h : sayFormats formats m = sayFormats formats' m') :
    formats = formats' ∧ vsNode (lastDepth formats) m = vsNode (lastDepth formats') m' := by
  have hformat : ∀ {a a' : FormatDesc},
      (VsNode.format a).addTo formats = (VsNode.format a').addTo formats' →
      formats = formats' ∧ some (VsNode.format a) = some (VsNode.format a') := by
    intro a a' h
    obtain ⟨rfl, hlast⟩ := List.append_inj' h rfl
    exact ⟨rfl, congrArg (some ∘ VsNode.format) (List.cons.inj hlast).1⟩
  have hframe : ∀ {a a' : FrameDesc}, formats ≠ [] → formats' ≠ [] →
      (VsNode.frame a).addTo formats = (VsNode.frame a').addTo formats' →
      formats = formats' ∧ some (VsNode.frame a) = some (VsNode.frame a') := fun hne hne' h =>
    (modifyLast_inj withFrame_inj hne hne' h).imp_right (congrArg (some ∘ VsNode.frame))
  have hstill : ∀ {a a' : StillFrameDesc}, formats ≠ [] → formats' ≠ [] →
      (VsNode.still a).addTo formats = (VsNode.still a').addTo formats' →
      formats = formats' ∧ some (VsNode.still a) = some (VsNode.still a') := fun hne hne' h =>
    (modifyLast_inj withStill_inj hne hne' h).imp_right (congrArg (some ∘ VsNode.still))
  rw [isPart, isNode, isInputHeader, isFormat] at hne hne'
  rw [sayFormats, sayFormats] at h
  rw [vsNode, vsNode, hcode] at h ⊢
  rw [hcode] at hne
  cases hsub : VsSubtype.ofByte (byteAt m' 2) with
  | formatUncompressed | formatMjpeg | formatFrameBased =>
    rw [hsub] at h
    exact hformat h
  | frameUncompressed | frameMjpeg | frameFrameBased =>
    rw [hsub] at h hne hne'
    exact hframe (hne rfl) (hne' rfl) h
  | stillImageFrame =>
    rw [hsub] at h hne hne'
    exact hstill (hne rfl) (hne' rfl) h
  | inputHeader | outputHeader | formatMpeg2ts | formatDv | colorformat | formatStreamBased
  | other =>
    rw [hsub] at h
    exact ⟨h, rfl⟩

/-! ## Two runs -/

/-- A part is accepted only behind a format. -/
theorem ne_nil_of_accepted {s : StreamingInterface} {m : List UInt8} {size : Nat}
    (hfits : VsFits s.hasFormat m) (haccepted : VsAccepted s.hasFormat m size)
    (hpart : isPart m = true) : s.formatDescs ≠ [] := by
  rw [← hasFormat_iff]
  rw [VsFits] at hfits
  rw [VsAccepted] at haccepted
  rw [isPart, isNode, isInputHeader, isFormat] at hpart
  cases hsub : VsSubtype.ofByte (byteAt m 2) with
  | frameUncompressed | frameMjpeg | stillImageFrame =>
    rw [hsub] at hfits
    exact hfits.2.1
  | frameFrameBased =>
    rw [hsub] at haccepted
    exact haccepted.1
  | inputHeader | formatUncompressed | formatMjpeg | formatFrameBased | outputHeader
  | formatMpeg2ts | formatDv | colorformat | formatStreamBased | other =>
    rw [hsub] at hpart
    cases hpart

/-- **Back from the trees.**  Two runs over blocks of the same subtypes that end with the same
formats began with the same ones, and the blocks have said the same. -/
theorem through_inj {bs bs' : List Block}
    (hcodes : List.Forall₂ (fun b b' => byteAt b.bytes 2 = byteAt b'.bytes 2) bs bs')
    {s s' t t' : StreamingInterface} (h : Through parseVsAt s bs t)
    (h' : Through parseVsAt s' bs' t') (hend : t.formatDescs = t'.formatDescs) :
    s.formatDescs = s'.formatDescs ∧
      vsNodes (lastDepth s.formatDescs) bs = vsNodes (lastDepth s'.formatDescs) bs' := by
  induction hcodes generalizing s s' with
  | nil =>
    obtain rfl := h
    obtain rfl := h'
    exact ⟨hend, rfl⟩
  | @cons b b' bs bs' hcode _ ih =>
    obtain ⟨u, hu, hrest⟩ := h
    obtain ⟨u', hu', hrest'⟩ := h'
    obtain ⟨hfits, haccepted, rfl⟩ := (parseVs_eq_success_iff b.fits).1 hu
    obtain ⟨hfits', haccepted', rfl⟩ := (parseVs_eq_success_iff b'.fits).1 hu'
    obtain ⟨hformats, hnodes⟩ := ih hrest hrest'
    obtain ⟨hstart, hsaid⟩ := sayFormats_inj hcode (ne_nil_of_accepted hfits haccepted)
      (ne_nil_of_accepted hfits' haccepted') hformats
    refine ⟨hstart, ?_⟩
    rw [vsNodes_cons, vsNodes_cons, hsaid]
    exact congrArg _ hnodes

/-- The same block, with other bytes behind it. -/
def SameBlock (b b' : Block) : Prop := 3 ≤ b.size ∧ b.own = b'.own

theorem SameBlock.byteAt_eq {b b' : Block} (h : SameBlock b b') {i : Nat} (hi : i < b.size) :
    byteAt b.bytes i = byteAt b'.bytes i := by
  have hsize : b.size = b'.size := by rw [← b.length_own, ← b'.length_own, h.2]
  rw [← b.byteAt_own hi, ← b'.byteAt_own (hsize ▸ hi), h.2]

theorem sameBlock_placed {blocks : List (List UInt8)} (h : ∀ b ∈ blocks, IsBlock 3 b)
    (rest rest' : List UInt8) :
    List.Forall₂ SameBlock (placed blocks rest) (placed blocks rest') := by
  induction blocks with
  | nil => exact .nil
  | cons block blocks ih =>
    obtain ⟨hblock, hblocks⟩ := List.forall_mem_cons.1 h
    refine .cons ⟨hblock.1, ?_⟩ (ih hblocks)
    rw [Block.own, Block.own, List.take_left, List.take_left]

theorem accepted_congr {b b' : Block} (h : SameBlock b b') {hasFormat : Bool}
    (haccepted : VsAccepted hasFormat b.bytes b.size) :
    VsAccepted hasFormat b'.bytes b'.size := by
  have hsize : b.size = b'.size := by rw [← b.length_own, ← b'.length_own, h.2]
  have htwo := h.byteAt_eq (show 2 < b.size from h.1)
  rw [VsAccepted] at haccepted ⊢
  rw [← htwo, ← hsize]
  cases hsub : VsSubtype.ofByte (byteAt b.bytes 2) with
  | frameFrameBased =>
    rw [hsub] at haccepted
    obtain ⟨hformat, hlen, hfit⟩ := haccepted
    have hcount := h.byteAt_eq (show 21 < b.size by omega)
    exact ⟨hformat, hlen, hcount ▸ hfit⟩
  | formatFrameBased =>
    rw [hsub] at haccepted
    exact haccepted
  | _ => trivial

/-- Whether there has to be a format is a matter of the subtype, and the rest is one of lengths. -/
theorem fits_congr {hasFormat : Bool} {m m' : List UInt8} (hcode : byteAt m 2 = byteAt m' 2)
    (hfits : VsFits hasFormat m) (hfits' : VsFits true m') : VsFits hasFormat m' := by
  cases hasFormat with
  | true => exact hfits'
  | false =>
    rw [VsFits] at hfits hfits' ⊢
    rw [hcode] at hfits
    refine ⟨hfits'.1, ?_⟩
    cases hsub : VsSubtype.ofByte (byteAt m' 2) with
    | frameUncompressed | frameMjpeg | stillImageFrame =>
      rw [hsub] at hfits
      exact absurd hfits.2.1 (by simp)
    | inputHeader | formatUncompressed | formatMjpeg =>
      rw [hsub] at hfits'
      exact hfits'.2
    | _ => trivial

theorem fits_true {hasFormat : Bool} {m : List UInt8} (h : VsFits hasFormat m) : VsFits true m := by
  rw [VsFits] at h ⊢
  refine ⟨h.1, ?_⟩
  cases hsub : VsSubtype.ofByte (byteAt m 2) with
  | frameUncompressed | frameMjpeg | stillImageFrame =>
    rw [hsub] at h
    exact ⟨rfl, h.2.2⟩
  | inputHeader | formatUncompressed | formatMjpeg =>
    rw [hsub] at h
    exact h.2
  | _ => trivial

theorem fits_of_through {bs : List Block} {s t : StreamingInterface}
    (h : Through parseVsAt s bs t) : ∀ b ∈ bs, VsFits true b.bytes := by
  induction bs generalizing s with
  | nil => exact fun _ hb => absurd hb List.not_mem_nil
  | cons b bs ih =>
    obtain ⟨u, hu, hrest⟩ := h
    exact List.forall_mem_cons.2 ⟨fits_true ((parseVs_eq_success_iff b.fits).1 hu).1, ih hrest⟩

/-- **On to the trees.**  Blocks that say the same build the same formats. -/
theorem through_congr {bs bs' : List Block} {s s' t : StreamingInterface}
    (h : Through parseVsAt s bs t) (hsame : List.Forall₂ SameBlock bs bs')
    (hfits : ∀ b ∈ bs', VsFits true b.bytes) (hformats : s'.formatDescs = s.formatDescs)
    (hnodes : vsNodes (lastDepth s.formatDescs) bs = vsNodes (lastDepth s.formatDescs) bs') :
    ∃ t', Through parseVsAt s' bs' t' ∧ t'.formatDescs = t.formatDescs := by
  induction hsame generalizing s s' with
  | nil =>
    obtain rfl := h
    exact ⟨s', rfl, hformats⟩
  | @cons b b' bs bs' hb _ ih =>
    obtain ⟨u, hu, hrest⟩ := h
    obtain ⟨hfit, haccepted, rfl⟩ := (parseVs_eq_success_iff b.fits).1 hu
    obtain ⟨hfitb, hfits⟩ := List.forall_mem_cons.1 hfits
    have hcode : byteAt b.bytes 2 = byteAt b'.bytes 2 := hb.byteAt_eq hb.1
    have hhas : s'.hasFormat = s.hasFormat := by
      rw [StreamingInterface.hasFormat, hformats, StreamingInterface.hasFormat]
    rw [vsNodes_cons, vsNodes_cons] at hnodes
    obtain ⟨hsaid, hnodes⟩ := List.append_inj hnodes (length_vsNode hcode _ _)
    have hnode := congrArg List.head? hsaid
    rw [Option.head?_toList, Option.head?_toList] at hnode
    have hnext : sayFormats s.formatDescs b'.bytes = sayFormats s.formatDescs b.bytes := by
      rw [sayFormats, sayFormats, hnode]
    have hu' : parseVsAt s' b' = .ok (0, s'.say b'.bytes) := by
      refine (parseVs_eq_success_iff b'.fits).2 ⟨?_, ?_, rfl⟩
      · rw [hhas]
        exact fits_congr hcode hfit hfitb
      · rw [hhas]
        exact accepted_congr hb haccepted
    have hstart : (s'.say b'.bytes).formatDescs = (s.say b.bytes).formatDescs := by
      show sayFormats s'.formatDescs b'.bytes = sayFormats s.formatDescs b.bytes
      rw [hformats, hnext]
    rw [hnext] at hnodes
    obtain ⟨t', ht', hend⟩ := ih hrest hfits hstart hnodes
    exact ⟨t', ⟨_, hu', ht'⟩, hend⟩

/-! ## The other fields -/

theorem through_number {bs : List Block} {s t : StreamingInterface}
    (h : Through parseVsAt s bs t) : t.bInterfaceNumber = s.bInterfaceNumber := by
  induction bs generalizing s with
  | nil => exact congrArg _ h
  | cons b bs ih =>
    obtain ⟨u, hu, hrest⟩ := h
    exact (ih hrest).trans (parseVs_keepsNumber s b.bytes b.size _ hu)

theorem headerFields_say (s : StreamingInterface) (b : Block) :
    (s.say b.bytes).headerFields = keepHeader s.headerFields b := by
  rw [StreamingInterface.say, keepHeader]
  split
  · rfl
  · rfl

/-- The fields of the input header are those of the last one. -/
theorem through_headerFields {bs : List Block} {s t : StreamingInterface}
    (h : Through parseVsAt s bs t) : t.headerFields = bs.foldl keepHeader s.headerFields := by
  induction bs generalizing s with
  | nil => exact congrArg _ h
  | cons b bs ih =>
    obtain ⟨u, hu, hrest⟩ := h
    obtain ⟨-, -, rfl⟩ := (parseVs_eq_success_iff b.fits).1 hu
    rw [ih hrest, headerFields_say, List.foldl_cons]

/-- How many formats, frames and still images there are. -/
def StreamingInterface.nodes (s : StreamingInterface) : Nat :=
  (s.formatDescs.map fun format => 1 + format.frameDescs.length + format.stillFrameDesc.length).sum

theorem nodes_setLastFormat {s : StreamingInterface} {format : FormatDesc}
    (hlast : lastFormat s = .ok format) {format' : FormatDesc}
    (h : format'.frameDescs.length + format'.stillFrameDesc.length =
      format.frameDescs.length + format.stillFrameDesc.length + 1) :
    (s.setLastFormat format').nodes = s.nodes + 1 := by
  have hformats := formatDescs_of_lastFormat hlast
  rw [StreamingInterface.nodes, StreamingInterface.nodes, StreamingInterface.setLastFormat]
  generalize s.formatDescs.dropLast = formats at hformats
  rw [hformats, List.map_append, List.map_append, List.sum_append, List.sum_append]
  simp only [List.map_cons, List.map_nil, List.sum_singleton]
  omega

/-- **A block that is accepted adds a node, or touches none.** -/
theorem VsEffect.nodes_eq {block : List UInt8} {s t : StreamingInterface}
    (h : VsEffect block s 0 t) : t.nodes = s.nodes + (if isNode block then 1 else 0) := by
  generalize hr : (0 : Ret) = r at h
  cases h with
  | ignored h => simp [isNode, h]
  | header h => simp [isNode, isInputHeader, h, StreamingInterface.nodes]
  | format format h _ hframes hstill =>
    have hnode : isNode block = true := by
      rw [isFormat] at h
      rw [isNode, isInputHeader]
      cases hcode : VsSubtype.ofByte (byteAt block 2) with
      | formatUncompressed | formatMjpeg | formatFrameBased => rfl
      | _ =>
        rw [hcode] at h
        cases h
    simp [hnode, StreamingInterface.nodes, StreamingInterface.addFormat, hframes, hstill]
  | frame format frame h hlast =>
    have hnode : isNode block = true := by
      rw [isNode, isInputHeader]
      rcases List.mem_cons.1 h with h | h
      · rw [h]
        rfl
      rcases List.mem_pair.1 h with h | h
      · rw [h]
        rfl
      · rw [h]
        rfl
    rw [hnode, if_pos rfl]
    refine nodes_setLastFormat hlast ?_
    simp only [List.length_append, List.length_singleton]
    omega
  | still format frame h hlast =>
    have hnode : isNode block = true := by
      rw [isNode, isInputHeader, h]
      rfl
    rw [hnode, if_pos rfl]
    refine nodes_setLastFormat hlast ?_
    simp only [List.length_append, List.length_singleton]
    omega
  | refused => exact absurd hr.symm Ret.errorInvalidDevice_ne

theorem through_nodes {bs : List Block} {s t : StreamingInterface}
    (h : Through parseVsAt s bs t) : t.nodes = s.nodes + bs.countP (isNode ·.bytes) := by
  induction bs generalizing s with
  | nil =>
    obtain rfl := h
    rfl
  | cons b bs ih =>
    obtain ⟨u, hu, hrest⟩ := h
    rw [ih hrest, (parseVs_effect s b.bytes b.size _ hu).nodes_eq, List.countP_cons]
    omega

/-! ## Blocks that are no nodes -/

/-- What is skipped or is an input header can be put anywhere. -/
theorem parseVsAt_of_not_node {b : Block} (hnode : isNode b.bytes = false)
    (hfits : VsFits true b.bytes) (s : StreamingInterface) :
    parseVsAt s b = .ok (0, s.say b.bytes) ∧ (s.say b.bytes).formatDescs = s.formatDescs := by
  rw [parseVsAt, parseVs_eq_success_iff b.fits]
  show (_ ∧ _ ∧ _) ∧ sayFormats s.formatDescs b.bytes = s.formatDescs
  rw [isNode, isInputHeader] at hnode
  rw [VsFits] at hfits ⊢
  rw [VsAccepted, sayFormats, vsNode]
  cases hsub : VsSubtype.ofByte (byteAt b.bytes 2) with
  | inputHeader =>
    rw [hsub] at hfits
    exact ⟨⟨hfits, trivial, rfl⟩, rfl⟩
  | outputHeader | formatMpeg2ts | formatDv | colorformat | formatStreamBased | other =>
    exact ⟨⟨⟨hfits.1, trivial⟩, trivial, rfl⟩, rfl⟩
  | _ =>
    rw [hsub] at hnode
    cases hnode

/-! ## One block more, in a streaming interface -/

/-- The block that stands between the others, where it lies. -/
def between (x : List UInt8) (post : List (List UInt8)) : Block :=
  ⟨x ++ post.flatten, x.length, by rw [List.length_append]; exact Nat.le_add_right _ _⟩

theorem placed_insert (pre : List (List UInt8)) (x : List UInt8) (post : List (List UInt8)) :
    placed (pre ++ x :: post) [] =
      placed pre (x ++ post.flatten) ++ between x post :: placed post [] := by
  rw [placed_append, placed]
  simp only [List.flatten_cons, List.append_nil, between]

theorem placed_both (pre post : List (List UInt8)) :
    placed (pre ++ post) [] = placed pre post.flatten ++ placed post [] := by
  rw [placed_append, List.append_nil]

theorem placed_front (pre : List (List UInt8)) (x : List UInt8) (post : List (List UInt8)) :
    placed (pre ++ [x]) post.flatten = placed pre (x ++ post.flatten) ++ [between x post] := by
  rw [placed_append, placed, placed_nil]
  simp only [List.flatten_cons, List.flatten_nil, List.append_nil, List.nil_append, between]

theorem countP_isNode_eq {bs bs' : List Block} (h : List.Forall₂ SameBlock bs bs') :
    bs.countP (isNode ·.bytes) = bs'.countP (isNode ·.bytes) := by
  induction h with
  | nil => rfl
  | @cons b b' bs bs' hb _ ih =>
    have hcode : byteAt b.bytes 2 = byteAt b'.bytes 2 := hb.byteAt_eq hb.1
    rw [List.countP_cons, List.countP_cons, ih, isNode, isNode, isInputHeader, isInputHeader,
      hcode]

theorem StreamingInterface.eq_of_fields {s t : StreamingInterface}
    (hnumber : s.bInterfaceNumber = t.bInterfaceNumber) (hformats : s.formatDescs = t.formatDescs)
    (hheader : s.headerFields = t.headerFields) : s = t := by
  cases s
  cases t
  simp only [headerFields, Prod.mk.injEq] at hheader
  simp_all

theorem isNode_between {x : List UInt8} (hx : IsBlock 3 x) (post : List (List UInt8)) :
    isNode (between x post).bytes = isNode x := by
  have hthird : byteAt (between x post).bytes 2 = byteAt x 2 :=
    byteAt_append_left _ (by have := hx.1; omega)
  rw [isNode, isNode, isInputHeader, isInputHeader, hthird]

section Between

variable {pre post : List (List UInt8)} {x : List UInt8} {number : UInt8} {t : StreamingInterface}

/-- If the two runs end in the same tree, the block has left no trace in it. -/
theorem unnoticed_of_through (hpre : ∀ b ∈ pre, IsBlock 3 b) (hx : IsBlock 3 x)
    (hbase : Through parseVsAt { bInterfaceNumber := number } (placed (pre ++ post) []) t)
    (hwith : Through parseVsAt { bInterfaceNumber := number } (placed (pre ++ x :: post) []) t) :
    VsUnnoticed pre x post := by
  have hsame := sameBlock_placed hpre post.flatten (x ++ post.flatten)
  have hlast := through_headerFields hwith
  rw [through_headerFields hbase] at hlast
  have hmany := through_nodes hwith
  rw [through_nodes hbase] at hmany
  rw [placed_insert, through_append] at hwith
  rw [placed_both, through_append] at hbase
  obtain ⟨u, hu, hut⟩ := hbase
  obtain ⟨u', hu', v, hv, hvt⟩ := hwith
  obtain ⟨hfit, -, rfl⟩ := (parseVs_eq_success_iff (between x post).fits).1 hv
  -- both runs end with the same number of nodes
  have hskipped : isNode x = false := by
    rw [placed_insert, placed_both, List.countP_append, List.countP_append, List.countP_cons,
      countP_isNode_eq hsame, isNode_between hx] at hmany
    by_contra htrue
    rw [Bool.not_eq_false] at htrue
    rw [if_pos htrue] at hmany
    omega
  have hfitx := fits_true hfit
  -- back through the blocks behind it, and then through those in front of it
  obtain ⟨hmiddle, -⟩ := through_inj (List.forall₂_same.2 fun _ _ => rfl) hut hvt rfl
  have hkept := (parseVsAt_of_not_node ((isNode_between hx post).trans hskipped) hfitx u').2
  have hcodes := hsame.imp fun b b' hb => hb.byteAt_eq (show 2 < b.size from hb.1)
  obtain ⟨-, hnodes⟩ := through_inj hcodes hu hu' (hmiddle.trans hkept)
  refine ⟨hskipped, ?_, hnodes.symm, hlast.symm⟩
  rw [placed_front, List.forall_mem_append, List.forall_mem_singleton]
  exact ⟨fits_of_through hu', hfitx⟩

/-- A block that leaves no trace can be put in. -/
theorem VsUnnoticed.through (h : VsUnnoticed pre x post) (hpre : ∀ b ∈ pre, IsBlock 3 b)
    (hpost : ∀ b ∈ post, IsBlock 3 b) (hx : IsBlock 3 x)
    (hbase : Through parseVsAt { bInterfaceNumber := number } (placed (pre ++ post) []) t) :
    Through parseVsAt { bInterfaceNumber := number } (placed (pre ++ x :: post) []) t := by
  obtain ⟨hskipped, hfits, hnodes, hheader⟩ := h
  have hlast := through_headerFields hbase
  have hnumber := through_number hbase
  rw [placed_both, through_append] at hbase
  obtain ⟨u, hu, hut⟩ := hbase
  rw [placed_front, List.forall_mem_append, List.forall_mem_singleton] at hfits
  obtain ⟨u', hu', hformats⟩ := through_congr hu
    (sameBlock_placed hpre post.flatten (x ++ post.flatten)) hfits.1 rfl hnodes.symm
  obtain ⟨hv, hkept⟩ :=
    parseVsAt_of_not_node ((isNode_between hx post).trans hskipped) hfits.2 u'
  obtain ⟨t', hvt, hend⟩ := through_congr hut (sameBlock_placed hpost [] [])
    (fits_of_through hut) (hkept.trans hformats) rfl
  have hwith : Through parseVsAt { bInterfaceNumber := number } (placed (pre ++ x :: post) [])
      t' := by
    rw [placed_insert, through_append]
    exact ⟨u', hu', _, hv, hvt⟩
  have hsame : t' = t := by
    refine StreamingInterface.eq_of_fields ((through_number hwith).trans hnumber.symm) hend ?_
    rw [hlast, through_headerFields hwith]
    exact hheader
  exact hsame ▸ hwith

/-- **One block more, in a streaming interface.** -/
theorem through_insert_iff (hpre : ∀ b ∈ pre, IsBlock 3 b) (hpost : ∀ b ∈ post, IsBlock 3 b)
    (hx : IsBlock 3 x)
    (hbase : Through parseVsAt { bInterfaceNumber := number } (placed (pre ++ post) []) t) :
    Through parseVsAt { bInterfaceNumber := number } (placed (pre ++ x :: post) []) t ↔
      VsUnnoticed pre x post :=
  ⟨unnoticed_of_through hpre hx hbase, fun h => h.through hpre hpost hx hbase⟩

end Between

/-! ## Other bytes in an interface -/

/-- The configuration with other class-specific bytes in the first setting of an interface. -/
def ConfigDescriptor.setExtra (config : ConfigDescriptor) (position : Nat) (extra : List UInt8) :
    ConfigDescriptor where
  interface := config.interface.modify position fun interface =>
    { interface with altsetting := interface.altsetting.modify 0 ({ · with extra := extra }) }

theorem firstSetting_setExtra {config : ConfigDescriptor} {position : Nat}
    {ifDesc : InterfaceDescriptor} (h : firstSetting config position = some ifDesc)
    (extra : List UInt8) :
    firstSetting (config.setExtra position extra) position =
      some { ifDesc with extra := extra } := by
  obtain ⟨interface, hinterface, halt⟩ := Option.bind_eq_some_iff.1 h
  simp [firstSetting, ConfigDescriptor.setExtra, hinterface, halt]

theorem firstSetting_setExtra_ne (config : ConfigDescriptor) {position other : Nat}
    (hne : other ≠ position) (extra : List UInt8) :
    firstSetting (config.setExtra position extra) other = firstSetting config other := by
  simp [firstSetting, ConfigDescriptor.setExtra, hne.symm]

/-- Which interface is found does not depend on the class-specific bytes. -/
theorem findControl_setExtra {tis : Bool} {config : ConfigDescriptor} {position : Nat}
    {ifDesc : InterfaceDescriptor}
    (h : findControl tis 0 config.interface = .ok (some (position, ifDesc)))
    (extra : List UInt8) :
    findControl tis 0 (config.setExtra position extra).interface =
      .ok (some (position, { ifDesc with extra := extra })) := by
  have hloop : ∀ (interfaces : List Interface) (idx n : Nat),
      findControl tis idx interfaces = .ok (some (idx + n, ifDesc)) →
      findControl tis idx (interfaces.modify n fun interface => { interface with
          altsetting := interface.altsetting.modify 0 ({ · with extra := extra }) }) =
        .ok (some (idx + n, { ifDesc with extra := extra })) := by
    intro interfaces
    induction interfaces with
    | nil => exact fun idx n h => absurd (Except.ok.inj h) (by simp)
    | cons interface rest ih =>
      intro idx n h
      obtain ⟨d, hd, h⟩ := bind_eq_ok.1 h
      obtain ⟨ds, hds⟩ : ∃ ds, interface.altsetting = d :: ds := by
        cases halt : interface.altsetting with
        | nil => simp [readAt, halt] at hd
        | cons d' ds => simpa [readAt, halt, eq_comm] using hd
      cases n with
      | zero =>
        split at h
        · rename_i hcontrol
          obtain ⟨-, rfl⟩ := Prod.mk.inj (Option.some.inj (Except.ok.inj h))
          rw [List.modify_zero_cons, findControl, hds]
          exact if_pos hcontrol
        · -- the interfaces behind this one have larger indices
          obtain ⟨-, hle, -⟩ := findControl_eq_some h
          omega
      | succ n =>
        rw [List.modify_succ_cons, findControl, hd, ok_bind]
        split at h
        · have hidx := (Prod.mk.inj (Option.some.inj (Except.ok.inj h))).1
          omega
        · rename_i hcontrol
          rw [if_neg hcontrol, show idx + (n + 1) = idx + 1 + n by omega]
          rw [show idx + (n + 1) = idx + 1 + n by omega] at h
          exact ih (idx + 1) n h
  have hfound := hloop config.interface 0 position (by rwa [Nat.zero_add])
  rwa [Nat.zero_add] at hfound

/-! ## One block more, in a VideoControl interface -/

/-- **A run over VideoControl blocks.** -/
theorem through_parseVc_iff {config : ConfigDescriptor} {bs : List Block}
    (hthree : ∀ b ∈ bs, 3 ≤ b.size) {info t : DeviceInfo} :
    Through (parseVcAt config) info bs t ↔ (∀ b ∈ bs, VcReadable b.bytes) ∧
      ∃ new, List.Forall₂ (ParsedFrom config) (bs.flatMap fun b => namedByBlock b.own) new ∧
        t = { ctrlIf := bs.foldl (fun c b => c.say b.bytes) info.ctrlIf
              streamIfs := info.streamIfs ++ new } := by
  induction bs generalizing info with
  | nil =>
    rw [Through, List.flatMap_nil, List.foldl_nil]
    simp [List.forall₂_nil_left_iff]
  | cons b bs ih =>
    obtain ⟨hb, hbs⟩ := List.forall_mem_cons.1 hthree
    rw [Through, List.forall_mem_cons, List.flatMap_cons, List.foldl_cons]
    constructor
    · rintro ⟨u, hu, hrest⟩
      obtain ⟨hreadable, new, hfrom, rfl⟩ := (parseVc_eq_success_iff hb).1 hu
      obtain ⟨hreadables, new', hfrom', rfl⟩ := (ih hbs).1 hrest
      exact ⟨⟨hreadable, hreadables⟩, new ++ new', List.rel_append hfrom hfrom', by simp⟩
    · rintro ⟨⟨hreadable, hreadables⟩, new, hfrom, rfl⟩
      have hfirst := List.forall₂_take (namedByBlock b.own).length hfrom
      have hrest := List.forall₂_drop (namedByBlock b.own).length hfrom
      rw [List.take_left] at hfirst
      rw [List.drop_left] at hrest
      refine ⟨_, (parseVc_eq_success_iff hb).2 ⟨hreadable, _, hfirst, rfl⟩,
        (ih hbs).2 ⟨hreadables, _, hrest, ?_⟩⟩
      simp only [List.append_assoc, List.take_append_drop]

/-- What the blocks make of a control interface. -/
theorem foldl_say (bs : List Block) (c : ControlInterface) :
    bs.foldl (fun c b => c.say b.bytes) c = { c with
      inputTermDescs := c.inputTermDescs ++ (unitsOf bs).1
      selectorUnitDescs := c.selectorUnitDescs ++ (unitsOf bs).2.1
      processingUnitDescs := c.processingUnitDescs ++ (unitsOf bs).2.2.1
      extensionUnitDescs := c.extensionUnitDescs ++ (unitsOf bs).2.2.2
      bcdUVC := (bs.foldl keepVcHeader (c.bcdUVC, c.dwClockFrequency)).1
      dwClockFrequency := (bs.foldl keepVcHeader (c.bcdUVC, c.dwClockFrequency)).2 } := by
  induction bs generalizing c with
  | nil => simp [unitsOf]
  | cons b bs ih =>
    have hunits : ∀ {α : Type} (said : List UInt8 → Option α),
        (b :: bs).filterMap (said ·.bytes) =
          (said b.bytes).toList ++ bs.filterMap (said ·.bytes) := by
      intro α said
      rw [List.filterMap_cons]
      cases said b.bytes with
      | none => rfl
      | some a => rfl
    rw [List.foldl_cons, ih]
    simp only [ControlInterface.say, unitsOf, hunits, List.foldl_cons, List.append_assoc]
    rfl

/-- The blocks of both chains say the same, as far as it can be seen in the tree. -/
theorem foldl_say_eq_iff (bs bs' : List Block) (c : ControlInterface) :
    bs.foldl (fun c b => c.say b.bytes) c = bs'.foldl (fun c b => c.say b.bytes) c ↔
      unitsOf bs = unitsOf bs' ∧
        bs.foldl keepVcHeader (c.bcdUVC, c.dwClockFrequency) =
          bs'.foldl keepVcHeader (c.bcdUVC, c.dwClockFrequency) := by
  rw [foldl_say, foldl_say, ControlInterface.mk.injEq, Prod.ext_iff, Prod.ext_iff, Prod.ext_iff,
    Prod.ext_iff]
  simp only [List.append_cancel_left_eq, and_true, and_assoc]

theorem unitsOf_append (bs bs' : List Block) :
    unitsOf (bs ++ bs') = ((unitsOf bs).1 ++ (unitsOf bs').1, (unitsOf bs).2.1 ++ (unitsOf bs').2.1,
      (unitsOf bs).2.2.1 ++ (unitsOf bs').2.2.1, (unitsOf bs).2.2.2 ++ (unitsOf bs').2.2.2) := by
  simp only [unitsOf, List.filterMap_append]

/-- Where the last header is does not depend on what it says. -/
theorem foldl_keepVcHeader_eq_iff {bs bs' : List Block}
    (hsame : bs.any (isVc .header ·.bytes) = bs'.any (isVc .header ·.bytes))
    (h h' : UInt16 × UInt32) :
    bs.foldl keepVcHeader h = bs'.foldl keepVcHeader h ↔
      bs.foldl keepVcHeader h' = bs'.foldl keepVcHeader h' := by
  have hcases : ∀ bs : List Block, (bs.any (isVc .header ·.bytes) = true ∧
      ∀ h h', bs.foldl keepVcHeader h = bs.foldl keepVcHeader h') ∨
      (bs.any (isVc .header ·.bytes) = false ∧ ∀ h, bs.foldl keepVcHeader h = h) := by
    intro bs
    induction bs with
    | nil => exact Or.inr ⟨rfl, fun _ => rfl⟩
    | cons b bs ih =>
      simp only [List.any_cons, List.foldl_cons]
      cases hheader : isVc .header b.bytes with
      | true =>
        refine Or.inl ⟨rfl, fun h h' => ?_⟩
        rw [keepVcHeader, keepVcHeader, vcHeaderSaid, if_pos hheader]
        rfl
      | false =>
        have hkeep : ∀ h, keepVcHeader h b = h := fun h => by
          rw [keepVcHeader, vcHeaderSaid, hheader]
          rfl
        simpa only [Bool.false_or, hkeep] using ih
  rcases hcases bs with ⟨hany, hall⟩ | ⟨hany, hall⟩
  · rcases hcases bs' with ⟨hany', hall'⟩ | ⟨hany', hall'⟩
    · rw [hall h h', hall' h h']
    · rw [hany, hany'] at hsame
      cases hsame
  · rcases hcases bs' with ⟨hany', hall'⟩ | ⟨hany', hall'⟩
    · rw [hany, hany'] at hsame
      cases hsame
    · simp only [hall, hall']

theorem any_isVc_eq {bs bs' : List Block} (h : List.Forall₂ SameBlock bs bs') :
    bs.any (isVc .header ·.bytes) = bs'.any (isVc .header ·.bytes) := by
  induction h with
  | nil => rfl
  | @cons b b' bs bs' hb _ ih =>
    have hone := hb.byteAt_eq (show 1 < b.size from Nat.lt_of_succ_lt hb.1)
    have htwo := hb.byteAt_eq (show 2 < b.size from hb.1)
    rw [List.any_cons, List.any_cons, ih, isVc, isVc, hone, htwo]

section Insertion

variable {config : ConfigDescriptor} {position : Nat} {ifDesc : InterfaceDescriptor}

/-- A streaming interface with these blocks in it. -/
theorem parsedFrom_setExtra_iff (hfirst : firstSetting config position = some ifDesc)
    {blocks : List (List UInt8)} (hblocks : ∀ b ∈ blocks, IsBlock 3 b) {s : StreamingInterface} :
    ParsedFrom (config.setExtra position blocks.flatten) position s ↔
      Through parseVsAt { bInterfaceNumber := ifDesc.bInterfaceNumber } (placed blocks []) s := by
  rw [ParsedFrom, firstSetting_setExtra hfirst]
  simp only [Option.some.injEq, exists_eq_left']
  rw [scan_flatten (by omega) _ _ _ hblocks, forEach_eq_success]

/-- The class-specific bytes of one interface are of no concern to the others. -/
theorem parsedFrom_setExtra_ne {other : Nat} (hne : other ≠ position) (extra extra' : List UInt8)
    {s : StreamingInterface} (h : ParsedFrom (config.setExtra position extra) other s) :
    ParsedFrom (config.setExtra position extra') other s := by
  rw [ParsedFrom, firstSetting_setExtra_ne config hne] at h ⊢
  exact h

/-- A VideoControl interface with these blocks in it. -/
theorem scanControl_setExtra {devDesc : Option DeviceDescriptor}
    (hfound : findControl (haveTISCamera devDesc) 0 config.interface =
      .ok (some (position, ifDesc))) {blocks : List (List UInt8)}
    (hblocks : ∀ b ∈ blocks, IsBlock 3 b) (info : DeviceInfo) :
    scanControl devDesc (config.setExtra position blocks.flatten) info =
      forEach (parseVcAt (config.setExtra position blocks.flatten)) (located info position ifDesc)
        (placed blocks []) := by
  rw [scanControl_eq (findControl_setExtra hfound _), scan_flatten (by omega) _ _ _ hblocks]
  rfl

theorem namedInterfaces_flatten {blocks : List (List UInt8)} (hblocks : ∀ b ∈ blocks, IsBlock 3 b) :
    namedInterfaces blocks.flatten = blocks.flatMap namedByBlock := by
  rw [namedInterfaces, (chain_iff (by omega)).1 ⟨(List.append_nil _).symm, hblocks, Or.inl rfl⟩]

variable {pre post : List (List UInt8)} {x : List UInt8}

theorem parsedFrom_insert_iff (hfirst : firstSetting config position = some ifDesc)
    (hpre : ∀ b ∈ pre, IsBlock 3 b) (hpost : ∀ b ∈ post, IsBlock 3 b) (hx : IsBlock 3 x)
    {s : StreamingInterface}
    (hbase : ParsedFrom (config.setExtra position (pre ++ post).flatten) position s) :
    ParsedFrom (config.setExtra position (pre ++ x :: post).flatten) position s ↔
      VsUnnoticed pre x post := by
  rw [parsedFrom_setExtra_iff hfirst (List.forall_mem_append.2 ⟨hpre, hpost⟩)] at hbase
  rw [parsedFrom_setExtra_iff hfirst
    (List.forall_mem_append.2 ⟨hpre, List.forall_mem_cons.2 ⟨hx, hpost⟩⟩)]
  exact through_insert_iff hpre hpost hx hbase

theorem streaming_insert_iff (hfirst : firstSetting config position = some ifDesc)
    (hpre : ∀ b ∈ pre, IsBlock 3 b) (hpost : ∀ b ∈ post, IsBlock 3 b) (hx : IsBlock 3 x)
    {info tree : DeviceInfo}
    (hbase : scanStreaming (config.setExtra position (pre ++ post).flatten) info position =
      .ok (0, tree)) :
    scanStreaming (config.setExtra position (pre ++ x :: post).flatten) info position =
      .ok (0, tree) ↔ VsUnnoticed pre x post := by
  obtain ⟨s, hs, rfl⟩ := scanStreaming_eq_success_iff.1 hbase
  rw [scanStreaming_eq_success_iff, ← parsedFrom_insert_iff hfirst hpre hpost hx hs]
  constructor
  · rintro ⟨s', hs', heq⟩
    have hlast : [s] = [s'] := List.append_cancel_left (congrArg DeviceInfo.streamIfs heq)
    obtain rfl := List.singleton_inj.1 hlast
    exact hs'
  · exact fun hs' => ⟨s, hs', rfl⟩

/-- The streaming interfaces that headers name are parsed into the same trees. -/
theorem named_insert_iff (hfirst : firstSetting config position = some ifDesc)
    (hpre : ∀ b ∈ pre, IsBlock 3 b) (hpost : ∀ b ∈ post, IsBlock 3 b) (hx : IsBlock 3 x)
    {positions : List Nat} {streamIfs : List StreamingInterface}
    (hbase : List.Forall₂ (ParsedFrom (config.setExtra position (pre ++ post).flatten)) positions
      streamIfs) :
    List.Forall₂ (ParsedFrom (config.setExtra position (pre ++ x :: post).flatten)) positions
      streamIfs ↔ (position ∈ positions → VsUnnoticed pre x post) := by
  induction hbase with
  | nil => exact iff_of_true .nil fun h => absurd h List.not_mem_nil
  | @cons other s positions streamIfs hs _ ih =>
    rw [List.forall₂_cons, ih, List.mem_cons]
    by_cases hother : other = position
    · subst hother
      rw [parsedFrom_insert_iff hfirst hpre hpost hx hs]
      tauto
    · have hsame := parsedFrom_setExtra_ne hother _ (pre ++ x :: post).flatten hs
      have hne : position ≠ other := Ne.symm hother
      tauto

/-- What is said by a block that is not class-specific. -/
theorem said_foreign {m : List UInt8} (hforeign : byteAt m 1 ≠ 36) :
    VcReadable m ∧ (∀ subtype, isVc subtype m = false) ∧ namedByBlock m = [] :=
  ⟨fun h => absurd h hforeign, fun subtype => by simp [isVc, hforeign],
    if_neg fun h => hforeign h.1⟩

theorem say_foreign {m : List UInt8} (hforeign : byteAt m 1 ≠ 36) (c : ControlInterface) :
    c.say m = c := by
  obtain ⟨-, hsaid, -⟩ := said_foreign hforeign
  simp [ControlInterface.say, vcHeaderSaid, terminalSaid, selectorSaid, processingSaid,
    extensionSaid, hsaid]

theorem flatMap_namedByBlock_placed (blocks : List (List UInt8)) (rest : List UInt8) :
    (placed blocks rest).flatMap (fun b => namedByBlock b.own) = blocks.flatMap namedByBlock := by
  rw [← map_own_placed blocks rest, List.flatMap_map, map_own_placed]

/-- What the control interface becomes does not depend on the foreign block itself. -/
theorem foldl_say_insert_iff (hpre : ∀ b ∈ pre, IsBlock 3 b)
    (hforeign : byteAt (between x post).bytes 1 ≠ 36) (c : ControlInterface) :
    (placed (pre ++ post) []).foldl (fun c b => c.say b.bytes) c =
        (placed (pre ++ x :: post) []).foldl (fun c b => c.say b.bytes) c ↔
      unitsOf (placed pre (x ++ post.flatten)) = unitsOf (placed pre post.flatten) ∧
        lastVcHeader (placed (pre ++ x :: post) []) = lastVcHeader (placed (pre ++ post) []) := by
  obtain ⟨-, hsaid, -⟩ := said_foreign hforeign
  have hunits : unitsOf (between x post :: placed post []) = unitsOf (placed post []) := by
    simp [unitsOf, terminalSaid, selectorSaid, processingSaid, extensionSaid, hsaid]
  have hany : (placed (pre ++ post) []).any (isVc .header ·.bytes) =
      (placed (pre ++ x :: post) []).any (isVc .header ·.bytes) := by
    rw [placed_insert, placed_both, List.any_append, List.any_append, List.any_cons, hsaid,
      Bool.false_or, any_isVc_eq (sameBlock_placed hpre post.flatten (x ++ post.flatten))]
  rw [foldl_say_eq_iff, foldl_keepVcHeader_eq_iff hany _ (0, 0)]
  refine and_congr ?_ eq_comm
  rw [placed_insert, placed_both, unitsOf_append, unitsOf_append, hunits, Prod.mk.injEq,
    Prod.mk.injEq, Prod.mk.injEq, List.append_left_inj, List.append_left_inj,
    List.append_left_inj, List.append_left_inj, eq_comm, Prod.ext_iff, Prod.ext_iff, Prod.ext_iff]
  simp only [eq_comm]

/-- **One block more, in a VideoControl interface.** -/
theorem control_insert_iff (hfirst : firstSetting config position = some ifDesc)
    (hpre : ∀ b ∈ pre, IsBlock 3 b) (hpost : ∀ b ∈ post, IsBlock 3 b) (hx : IsBlock 3 x)
    (hforeign : byteAt x 1 ≠ 36) {info tree : DeviceInfo}
    (hbase : Through (parseVcAt (config.setExtra position (pre ++ post).flatten)) info
      (placed (pre ++ post) []) tree) :
    Through (parseVcAt (config.setExtra position (pre ++ x :: post).flatten)) info
        (placed (pre ++ x :: post) []) tree ↔
      VcUnnoticed pre x post ∧
        (position ∈ (pre ++ post).flatMap namedByBlock → VsUnnoticed pre x post) := by
  have hblocks := List.forall_mem_append.2 ⟨hpre, hpost⟩
  have hblocks' := List.forall_mem_append.2 ⟨hpre, List.forall_mem_cons.2 ⟨hx, hpost⟩⟩
  have hat : byteAt (between x post).bytes 1 ≠ 36 := by
    rw [between, byteAt_append_left _ (by have := hx.1; omega)]
    exact hforeign
  have hnames : (pre ++ x :: post).flatMap namedByBlock = (pre ++ post).flatMap namedByBlock := by
    rw [List.flatMap_append, List.flatMap_cons, (said_foreign hforeign).2.2, List.nil_append,
      List.flatMap_append]
  rw [through_parseVc_iff fun b hb => (isBlock_of_mem_placed hblocks hb).1,
    flatMap_namedByBlock_placed] at hbase
  rw [through_parseVc_iff fun b hb => (isBlock_of_mem_placed hblocks' hb).1,
    flatMap_namedByBlock_placed, hnames]
  obtain ⟨hreadable, new, hfrom, rfl⟩ := hbase
  rw [placed_both, List.forall_mem_append] at hreadable
  have hreadable_iff : (∀ b ∈ placed (pre ++ x :: post) [], VcReadable b.bytes) ↔
      ∀ b ∈ placed pre (x ++ post.flatten), VcReadable b.bytes := by
    rw [placed_insert, List.forall_mem_append, List.forall_mem_cons]
    exact and_iff_left ⟨(said_foreign hat).1, hreadable.2⟩
  have hcontrol := foldl_say_insert_iff hpre hat info.ctrlIf
  rw [hreadable_iff, ← named_insert_iff hfirst hpre hpost hx hfrom]
  constructor
  · rintro ⟨hread, new', hfrom', heq⟩
    obtain ⟨hctrl, hstreams⟩ := DeviceInfo.mk.inj heq
    obtain rfl := List.append_cancel_left hstreams
    obtain ⟨hunits, hheader⟩ := hcontrol.1 hctrl
    exact ⟨⟨hread, hunits, hheader⟩, hfrom'⟩
  · rintro ⟨⟨hread, hunits, hheader⟩, hfrom'⟩
    exact ⟨hread, new, hfrom', congrArg (DeviceInfo.mk · _) (hcontrol.2 ⟨hunits, hheader⟩)⟩

end Insertion

/-- **When a foreign block goes unnoticed.**  Put a block that is not class-specific between the
blocks of an interface that is accepted.  `uvc_scan_streaming` answers and builds the same as
without it if and only if `uvc_parse_vs` skips its third byte or takes it for an input header of no
consequence, and no block in front of it is so short that other values are read out of it.  For
`uvc_scan_control` the second half is enough, unless a header of the VideoControl interface names
that interface itself as a streaming one, and then both have to hold there. -/
theorem foreign_block_iff (config : ConfigDescriptor) (position : Nat)
    (ifDesc : InterfaceDescriptor) (pre post : List (List UInt8)) (x : List UInt8)
    (hfirst : firstSetting config position = some ifDesc)
    (hblocks : ∀ block ∈ pre ++ post, IsBlock 3 block) (hx : IsBlock 3 x)
    (hforeign : byteAt x 1 ≠ 0x24) :
    (∀ info tree,
      scanStreaming (config.setExtra position (pre ++ post).flatten) info position =
        .ok (Ret.success, tree) →
      (scanStreaming (config.setExtra position (pre ++ x :: post).flatten) info position =
        .ok (Ret.success, tree) ↔ VsUnnoticed pre x post)) ∧
    (∀ devDesc info tree,
      findControl (haveTISCamera devDesc) 0 config.interface = .ok (some (position, ifDesc)) →
      scanControl devDesc (config.setExtra position (pre ++ post).flatten) info =
        .ok (Ret.success, tree) →
      (scanControl devDesc (config.setExtra position (pre ++ x :: post).flatten) info =
        .ok (Ret.success, tree) ↔ VcUnnoticed pre x post ∧
          (position ∈ namedInterfaces (pre ++ post).flatten → VsUnnoticed pre x post))) := by
  obtain ⟨hpre, hpost⟩ := List.forall_mem_append.1 hblocks
  have hblocks' := List.forall_mem_append.2 ⟨hpre, List.forall_mem_cons.2 ⟨hx, hpost⟩⟩
  refine ⟨fun info tree hbase => streaming_insert_iff hfirst hpre hpost hx hbase,
    fun devDesc info tree hfound hbase => ?_⟩
  rw [scanControl_setExtra hfound hblocks] at hbase
  rw [scanControl_setExtra hfound hblocks', namedInterfaces_flatten hblocks]
  exact forEach_eq_success.trans
    (control_insert_iff hfirst hpre hpost hx hforeign (forEach_eq_success.1 hbase))

/-! ## Blocks that are as long as they say -/

/-- A streaming interface with one format, of this depth. -/
def ofDepth (bits : UInt8) : StreamingInterface where
  bInterfaceNumber := 0
  formatDescs := [{ bDescriptorSubtype := .formatUncompressed, bBitsPerPixel := bits }]

/-- The block can be read, and is accepted, by itself. -/
def VsWhole (m : List UInt8) : Prop := VsFits true m ∧ VsAccepted true m m.length

/-- **What is behind such a block makes no difference.** -/
theorem VsWhole.append {m : List UInt8} (h : VsWhole m) (rest : List UInt8) (bits : UInt8) :
    VsFits true (m ++ rest) ∧ vsNode bits (m ++ rest) = vsNode bits m := by
  have hcode : byteAt (m ++ rest) 2 = byteAt m 2 := byteAt_append_left rest h.1.1
  have halone := parseVs_eq_say (s := ofDepth bits) le_rfl h.1 h.2
  have hlonger := stable_parseVs (ofDepth bits) m.length m rest _ halone
  obtain ⟨hfits, -, hsay⟩ := (parseVs_eq_success_iff (by simp)).1 hlonger
  have hformats := congrArg StreamingInterface.formatDescs hsay
  obtain ⟨-, hnode⟩ := sayFormats_inj hcode.symm (fun _ => List.cons_ne_nil _ _)
    (fun _ => List.cons_ne_nil _ _) hformats
  exact ⟨hfits, hnode.symm⟩

theorem VsWhole.header_append {m : List UInt8} (h : VsWhole m) (hheader : isInputHeader m = true)
    (rest : List UInt8) : headerOf (m ++ rest) = headerOf m := by
  have hten : 10 ≤ m.length := by
    have hfits := h.1
    rw [VsFits, show VsSubtype.ofByte (byteAt m 2) = .inputHeader by
      simpa [isInputHeader] using hheader] at hfits
    exact hfits.2
  simp (disch := omega) only [headerOf, byteAt_append_left]

theorem vsNodes_whole {blocks : List (List UInt8)} (h : ∀ b ∈ blocks, VsWhole b) (bits : UInt8)
    (rest rest' : List UInt8) :
    vsNodes bits (placed blocks rest) = vsNodes bits (placed blocks rest') := by
  induction blocks generalizing bits with
  | nil => rfl
  | cons block blocks ih =>
    obtain ⟨hblock, hblocks⟩ := List.forall_mem_cons.1 h
    simp only [placed, vsNodes, (hblock.append _ bits).2]
    cases vsNode bits block with
    | none => exact ih hblocks bits
    | some node => exact congrArg _ (ih hblocks _)

theorem fits_whole {blocks : List (List UInt8)} (h : ∀ b ∈ blocks, VsWhole b)
    (rest : List UInt8) : ∀ b ∈ placed blocks rest, VsFits true b.bytes := by
  induction blocks with
  | nil => exact fun _ hb => absurd hb List.not_mem_nil
  | cons block blocks ih =>
    obtain ⟨hblock, hblocks⟩ := List.forall_mem_cons.1 h
    exact List.forall_mem_cons.2 ⟨(hblock.append _ 0).1, ih hblocks⟩

theorem foldl_keepHeader_whole {blocks : List (List UInt8)} (h : ∀ b ∈ blocks, VsWhole b)
    (rest rest' : List UInt8) (fields : HeaderFields) :
    (placed blocks rest).foldl keepHeader fields =
      (placed blocks rest').foldl keepHeader fields := by
  induction blocks generalizing fields with
  | nil => rfl
  | cons block blocks ih =>
    obtain ⟨hblock, hblocks⟩ := List.forall_mem_cons.1 h
    have hkeep : ∀ rest, (if isInputHeader (block ++ rest) then headerOf (block ++ rest)
        else fields) = if isInputHeader block then headerOf block else fields := by
      intro rest
      have hcode : isInputHeader (block ++ rest) = isInputHeader block := by
        rw [isInputHeader, isInputHeader, byteAt_append_left rest hblock.1.1]
      rw [hcode]
      split
      · rename_i hheader
        exact hblock.header_append hheader rest
      · rfl
    simp only [placed, List.foldl_cons, keepHeader, hkeep]
    exact ih hblocks _

/-- A header that comes later makes the earlier ones of no consequence. -/
theorem foldl_keepHeader_eq_iff {h h' : HeaderFields} (bs : List Block) :
    bs.foldl keepHeader h = bs.foldl keepHeader h' ↔
      h = h' ∨ ∃ b ∈ bs, isInputHeader b.bytes = true := by
  induction bs generalizing h h' with
  | nil => simp
  | cons b bs ih =>
    rw [List.foldl_cons, List.foldl_cons, ih, keepHeader, keepHeader]
    by_cases hheader : isInputHeader b.bytes = true
    · simp [hheader]
    · simp [hheader]

/-- **Among blocks that are as long as they say**, a block goes unnoticed in a streaming interface
if its third byte is skipped, or if it is an input header that repeats the one in front or is
followed by another. -/
theorem vsUnnoticed_iff_of_whole {pre post : List (List UInt8)} {x : List UInt8}
    (hpre : ∀ b ∈ pre, VsWhole b) (hx : VsWhole x) :
    VsUnnoticed pre x post ↔ isNode x = false ∧ (isInputHeader x = true →
      headerOf x = lastHeader (placed pre []) ∨
        ∃ b ∈ placed post [], isInputHeader b.bytes = true) := by
  have hfront : ∀ b ∈ pre ++ [x], VsWhole b :=
    List.forall_mem_append.2 ⟨hpre, List.forall_mem_singleton.2 hx⟩
  have hheader : lastHeader (placed (pre ++ x :: post) []) = lastHeader (placed (pre ++ post) []) ↔
      (isInputHeader x = true → headerOf x = lastHeader (placed pre []) ∨
        ∃ b ∈ placed post [], isInputHeader b.bytes = true) := by
    have hcode : isInputHeader (between x post).bytes = isInputHeader x := by
      rw [isInputHeader, isInputHeader, between, byteAt_append_left _ hx.1.1]
    rw [placed_insert, placed_both, lastHeader, lastHeader, List.foldl_append, List.foldl_append,
      List.foldl_cons, foldl_keepHeader_eq_iff, foldl_keepHeader_whole hpre _ [],
      foldl_keepHeader_whole hpre post.flatten [], keepHeader, hcode]
    cases hcase : isInputHeader x with
    | false => simp
    | true =>
      rw [if_pos rfl, show headerOf (between x post).bytes = headerOf x from
        hx.header_append hcase post.flatten]
      simp [lastHeader]
  constructor
  · rintro ⟨hskipped, -, -, hlast⟩
    exact ⟨hskipped, hheader.1 hlast⟩
  · rintro ⟨hskipped, hlast⟩
    exact ⟨hskipped, fits_whole hfront _, vsNodes_whole hpre 0 _ _, hheader.2 hlast⟩

/-- The VideoControl block can be read by itself. -/
def VcWhole (m : List UInt8) : Prop := 3 ≤ m.length ∧ VcReadable m

/-- **What is behind such a block makes no difference.** -/
theorem VcWhole.append {m : List UInt8} (h : VcWhole m) (rest : List UInt8) :
    VcReadable (m ++ rest) ∧
      (∀ c : ControlInterface, c.say (m ++ rest) = c.say m) := by
  obtain ⟨hlen, hreadable⟩ := h
  have hisVc : ∀ subtype, isVc subtype (m ++ rest) = isVc subtype m := by
    intro subtype
    rw [isVc, isVc, byteAt_append_left rest (by omega), byteAt_append_left rest (by omega)]
  cases hheader : isVc .header m with
  | false =>
    have hlonger : ∀ c : ControlInterface,
        VcReadable (m ++ rest) ∧ c.say m = c.say (m ++ rest) := by
      intro c
      have halone : parseVc .extra ⟨[]⟩ { ctrlIf := c } m m.length =
          .ok (0, { ctrlIf := c.say m }) :=
        (parseVc_unit_iff hlen hheader).2 ⟨hreadable, rfl⟩
      have hboth := stable_parseVc .extra ⟨[]⟩ { ctrlIf := c } m.length m rest _ halone
      obtain ⟨hread, heq⟩ := (parseVc_unit_iff (by rw [List.length_append]; omega)
        ((hisVc _).trans hheader)).1 hboth
      exact ⟨hread, congrArg DeviceInfo.ctrlIf heq⟩
    exact ⟨(hlonger {}).1, fun c => (hlonger c).2.symm⟩
  | true =>
    obtain ⟨htype, hcode⟩ : byteAt m 1 = 36 ∧ VcSubtype.ofByte (byteAt m 2) = .header := by
      simpa [isVc] using hheader
    have hfields := hreadable htype
    rw [hcode] at hfields
    obtain ⟨heleven, hknown⟩ := hfields
    have hversion : swAt (m ++ rest) 3 = swAt m 3 := by
      simp (disch := omega) only [swAt, byteAt_append_left]
    have hclock : dwAt (m ++ rest) 7 = dwAt m 7 := by
      simp (disch := omega) only [dwAt, byteAt_append_left]
    constructor
    · intro _
      rw [byteAt_append_left rest (by omega), hcode, hversion, List.length_append]
      exact ⟨by omega, hknown⟩
    · intro c
      simp [ControlInterface.say, vcHeaderSaid, terminalSaid, selectorSaid, processingSaid,
        extensionSaid, hisVc, isVc_ne hcode, hversion, hclock]

/-- **Among blocks that are as long as they say**, a foreign block always goes unnoticed in a
VideoControl interface. -/
theorem vcUnnoticed_of_whole {pre post : List (List UInt8)} {x : List UInt8}
    (hblocks : ∀ b ∈ pre, IsBlock 3 b) (hpre : ∀ b ∈ pre, VcReadable b) (hx : 3 ≤ x.length)
    (hforeign : byteAt x 1 ≠ 36) : VcUnnoticed pre x post := by
  have hat : byteAt (between x post).bytes 1 ≠ 36 := by
    rw [between, byteAt_append_left _ (by omega)]
    exact hforeign
  have hwhole : ∀ b ∈ pre, VcWhole b := fun b hb => ⟨(hblocks b hb).1, hpre b hb⟩
  clear hpre
  have hread : ∀ {blocks : List (List UInt8)}, (∀ b ∈ blocks, VcWhole b) → ∀ rest,
      ∀ b ∈ placed blocks rest, VcReadable b.bytes := by
    intro blocks hwhole rest
    induction blocks with
    | nil => exact fun _ hb => absurd hb List.not_mem_nil
    | cons block blocks ih =>
      obtain ⟨hblock, hrest⟩ := List.forall_mem_cons.1 hwhole
      exact List.forall_mem_cons.2 ⟨(hblock.append _).1, ih hrest⟩
  have hsay : ∀ {blocks : List (List UInt8)}, (∀ b ∈ blocks, VcWhole b) → ∀ rest c,
      (placed blocks rest).foldl (fun c b => c.say b.bytes) c =
        blocks.foldl ControlInterface.say c := by
    intro blocks hwhole rest c
    induction blocks generalizing c with
    | nil => rfl
    | cons block blocks ih =>
      obtain ⟨hblock, hrest⟩ := List.forall_mem_cons.1 hwhole
      rw [placed, List.foldl_cons, List.foldl_cons, (hblock.append _).2, ih hrest]
  have hsame := foldl_say_insert_iff hblocks hat {}
  obtain ⟨hunits, hheader⟩ := hsame.1 <| by
    rw [placed_insert, placed_both, List.foldl_append, List.foldl_append, List.foldl_cons,
      hsay hwhole, hsay hwhole, say_foreign hat]
  exact ⟨hread hwhole _, hunits, hheader⟩

/-- An interface association that starts at interface 0. -/
def associationBlock : List UInt8 := [8, 0x0b, 0, 2, 14, 3, 0, 0]

/-- A vendor-specific descriptor whose third byte is the subtype of an MJPEG format. -/
def vendorBlock : List UInt8 := [11, 0x41, 6, 1, 0, 0, 1, 0, 0, 0, 0]

/-- An input header, an MJPEG format, and a frame of it with one interval. -/
def streamingBlocks : List (List UInt8) × List (List UInt8) :=
  ([[14, 36, 1, 1, 55, 0, 0x81, 0, 3, 0, 0, 0, 1, 0], [11, 36, 6, 1, 1, 0, 1, 0, 0, 0, 0]],
    [[30, 36, 7, 1, 0, 0x80, 2, 0xe0, 1, 0, 0, 0, 0, 0, 0, 0, 0, 0, 0x60, 9, 0, 0x15, 0x16, 5, 0, 1,
      0x15, 0x16, 5, 0]])

/-- What they are parsed into. -/
def streamingTree : StreamingInterface where
  bInterfaceNumber := 1
  bEndpointAddress := 0x81
  bTerminalLink := 3
  formatDescs := [{
    bDescriptorSubtype := .formatMjpeg
    bFormatIndex := 1
    guidFormat := guidMjpg
    bDefaultFrameIndex := 1
    frameDescs := [{
      bDescriptorSubtype := .frameMjpeg
      bFrameIndex := 1
      wWidth := 640
      wHeight := 480
      dwMaxVideoFrameBufferSize := 614400
      dwDefaultFrameInterval := 333333
      bFrameIntervalType := 1
      intervals := [333333, 0] }] }]

/-- A header that names interface 1, and a selector unit. -/
def controlBlocks : List (List UInt8) × List (List UInt8) :=
  ([[13, 36, 1, 0x00, 0x01, 13, 0, 0, 0, 0, 0, 1, 1]], [[4, 36, 4, 7]])

/-- The interface association goes unnoticed between the format and the frame of a streaming
interface, and between the header and the selector unit of a VideoControl one. -/
theorem foreign_block_association :
    scanStreaming ((cameraNumbered 0 1).setExtra 1
        (streamingBlocks.1 ++ associationBlock :: streamingBlocks.2).flatten) {} 1 =
      .ok (Ret.success, { streamIfs := [streamingTree] }) ∧
    scanControl none ((cameraNumbered 0 1).setExtra 0
        (controlBlocks.1 ++ associationBlock :: controlBlocks.2).flatten) {} =
      .ok (Ret.success, { treeNumbered 1 with ctrlIf :=
        { bcdUVC := 0x0100, selectorUnitDescs := [⟨7⟩] } }) := by
  constructor
  · have hunnoticed : VsUnnoticed streamingBlocks.1 associationBlock streamingBlocks.2 := by
      refine (vsUnnoticed_iff_of_whole ?_ ?_).2 ⟨by decide, fun h => absurd h (by decide)⟩
      · refine List.forall_mem_cons.2 ⟨⟨⟨by decide, ?_⟩, trivial⟩,
          List.forall_mem_singleton.2 ⟨⟨by decide, ?_⟩, trivial⟩⟩
        · exact (by decide : 10 ≤ 14)
        · exact (by decide : 11 ≤ 11)
      · exact ⟨⟨by decide, trivial⟩, trivial⟩
    exact ((foreign_block_iff (cameraNumbered 0 1) 1 _ streamingBlocks.1 streamingBlocks.2
      associationBlock rfl (by decide) (by decide) (by decide)).1 {} _ (by decide)).2 hunnoticed
  · have hunnoticed : VcUnnoticed controlBlocks.1 associationBlock controlBlocks.2 := by
      refine vcUnnoticed_of_whole (by decide) ?_ (by decide) (by decide)
      exact List.forall_mem_singleton.2 fun _ => ⟨by decide, by decide⟩
    exact ((foreign_block_iff (cameraNumbered 0 1) 0 _ controlBlocks.1 controlBlocks.2
      associationBlock rfl (by decide) (by decide) (by decide)).2 none {} _ rfl (by decide)).2
      ⟨hunnoticed, fun h => absurd h (by decide)⟩

/-- **Foreign blocks that are noticed.**  The vendor-specific descriptor adds a format to the
streaming interface.  An input header that is shorter than its fields takes them from what stands
behind it, and says something else with a foreign block there. -/
theorem foreign_block_parsed :
    IsBlock 3 vendorBlock ∧ byteAt vendorBlock 1 ≠ 0x24 ∧
    scanStreaming ((cameraNumbered 0 1).setExtra 1 []) {} 1 =
      .ok (Ret.success, { streamIfs := [{ bInterfaceNumber := 1 }] }) ∧
    scanStreaming ((cameraNumbered 0 1).setExtra 1 vendorBlock) {} 1 =
      .ok (Ret.success, { streamIfs := [{
        bInterfaceNumber := 1
        formatDescs := [{
          bDescriptorSubtype := .formatMjpeg
          bFormatIndex := 1
          guidFormat := guidMjpg
          bDefaultFrameIndex := 1 }] }] }) ∧
    scanStreaming ((cameraNumbered 0 1).setExtra 1 vendorBlock) {} 1 ≠
      scanStreaming ((cameraNumbered 0 1).setExtra 1 []) {} 1 ∧
    ((scanStreaming ((cameraNumbered 0 1).setExtra 1
        ([5, 36, 1, 0, 0] ++ [8, 36, 13, 0, 0, 0, 0, 0])) {} 1).toOption.map fun p =>
          (p.1, p.2.streamIfs.map (·.bEndpointAddress))) = some (Ret.success, [4]) ∧
    ((scanStreaming ((cameraNumbered 0 1).setExtra 1
        ([5, 36, 1, 0, 0] ++ [3, 0x41, 2] ++ [8, 36, 13, 0, 0, 0, 0, 0])) {} 1).toOption.map
          fun p => (p.1, p.2.streamIfs.map (·.bEndpointAddress))) = some (Ret.success, [1]) := by
  decide

end Descriptor
end LibUvc
