import LibUvc.Basic
import LibUvc.Foundation.OwnedList

/-!
# Giving the descriptors back

The parser allocates a struct for every descriptor it keeps and hangs it into a list of `utlist.h`,
and `uvc_free_device_info` walks these lists and frees them, four levels deep.  `Parse` builds lists
of values; here are the cells.

* `Block` is a struct with the pointers it holds to memory of its own; the links are those of
  `LinkedList.Cell`.
* `disposeFrame`, `disposeStill`, `disposeFormat` and `disposeStream` are the bodies of the nested
  loops of `uvcFreeDeviceInfo`, from the inside out.
* `frameShape`, `stillShape`, `formatShape`, `streamShape` and `infoShape` say how the tree lies in
  memory, and each body gives back what its struct owns.
* `VsOp` and `VcOp` are what the parsers of single descriptors do to memory, and `getDeviceInfo` is
  the run of them all.
* `parsed_and_freed` puts the two together: whatever the parser has allocated, the walk follows no
  null pointer, touches nothing that is not allocated, frees nothing twice and leaves nothing but
  the selector units.
-/

set_option autoImplicit false

namespace LibUvc
namespace Descriptor
namespace Cells

open LinkedList

variable {ι : Type}

/-! ## The structs -/

/-- The structs of a `uvc_device_info_t`, with the pointers that the walk follows. -/
inductive Block (ι : Type) where
  | inputTerminal
  | processingUnit
  | selectorUnit
  | extensionUnit
  | streamingInterface (formatDescs : Option ι)
  | formatDesc (frameDescs stillFrameDesc : Option ι)
  | frameDesc (intervals : Option ι)
  | stillFrameDesc (imageSizePatterns bCompression : Option ι)
  | stillFrameRes
  | deviceInfo (inputTermDescs selectorUnitDescs processingUnitDescs extensionUnitDescs streamIfs
      config : Option ι)
  /-- The intervals of a frame, the compression patterns of a still frame, and libusb's
  configuration. -/
  | bytes
  deriving DecidableEq, Repr

abbrev Memory (ι : Type) := Heap ι (Block ι)

namespace Block

/-- `frame->intervals`. -/
def intervals : Block ι → Option ι
  | .frameDesc p => p
  | _ => none

/-- `frame->intervals = p`. -/
def setIntervals (p : Option ι) : Block ι → Block ι
  | .frameDesc _ => .frameDesc p
  | v => v

/-- `still_frame->bCompression`. -/
def bCompression : Block ι → Option ι
  | .stillFrameDesc _ p => p
  | _ => none

/-- `still_frame->bCompression = p`. -/
def setCompression (p : Option ι) : Block ι → Block ι
  | .stillFrameDesc r _ => .stillFrameDesc r p
  | v => v

/-- `info->config`. -/
def config : Block ι → Option ι
  | .deviceInfo _ _ _ _ _ p => p
  | _ => none

/-- `info->config = p`. -/
def setConfig (p : Option ι) : Block ι → Block ι
  | .deviceInfo i s u x t _ => .deviceInfo i s u x t p
  | v => v

def IsStreamingInterface : Block ι → Prop
  | .streamingInterface _ => True
  | _ => False

def IsFormatDesc : Block ι → Prop
  | .formatDesc _ _ => True
  | _ => False

def IsDeviceInfo : Block ι → Prop
  | .deviceInfo _ _ _ _ _ _ => True
  | _ => False

end Block

/-- `stream_if->format_descs`. -/
def formatDescs : Slot ι (Block ι) where
  get
    | .streamingInterface p => p
    | _ => none
  set p
    | .streamingInterface _ => .streamingInterface p
    | v => v

/-- `format->frame_descs`. -/
def frameDescs : Slot ι (Block ι) where
  get
    | .formatDesc p _ => p
    | _ => none
  set p
    | .formatDesc _ s => .formatDesc p s
    | v => v

/-- `format->still_frame_desc`. -/
def stillFrameDesc : Slot ι (Block ι) where
  get
    | .formatDesc _ p => p
    | _ => none
  set p
    | .formatDesc f _ => .formatDesc f p
    | v => v

/-- `still_frame->imageSizePatterns`. -/
def imageSizePatterns : Slot ι (Block ι) where
  get
    | .stillFrameDesc p _ => p
    | _ => none
  set p
    | .stillFrameDesc _ b => .stillFrameDesc p b
    | v => v

/-- `info->ctrl_if.input_term_descs`. -/
def inputTermDescs : Slot ι (Block ι) where
  get
    | .deviceInfo p _ _ _ _ _ => p
    | _ => none
  set p
    | .deviceInfo _ s u x t c => .deviceInfo p s u x t c
    | v => v

/-- `info->ctrl_if.selector_unit_descs`. -/
def selectorUnitDescs : Slot ι (Block ι) where
  get
    | .deviceInfo _ p _ _ _ _ => p
    | _ => none
  set p
    | .deviceInfo i _ u x t c => .deviceInfo i p u x t c
    | v => v

/-- `info->ctrl_if.processing_unit_descs`. -/
def processingUnitDescs : Slot ι (Block ι) where
  get
    | .deviceInfo _ _ p _ _ _ => p
    | _ => none
  set p
    | .deviceInfo i s _ x t c => .deviceInfo i s p x t c
    | v => v

/-- `info->ctrl_if.extension_unit_descs`. -/
def extensionUnitDescs : Slot ι (Block ι) where
  get
    | .deviceInfo _ _ _ p _ _ => p
    | _ => none
  set p
    | .deviceInfo i s u _ t c => .deviceInfo i s u p t c
    | v => v

/-- `info->stream_ifs`. -/
def streamIfs : Slot ι (Block ι) where
  get
    | .deviceInfo _ _ _ _ p _ => p
    | _ => none
  set p
    | .deviceInfo i s u x _ c => .deviceInfo i s u x p c
    | v => v

section Lawful

theorem formatDescs_lawful :
    (formatDescs : Slot ι (Block ι)).Lawful Block.IsStreamingInterface := by
  constructor <;> intros <;> rename_i v hv <;> cases v <;> first | exact hv.elim | rfl | exact hv

theorem frameDescs_lawful : (frameDescs : Slot ι (Block ι)).Lawful Block.IsFormatDesc := by
  constructor <;> intros <;> rename_i v hv <;> cases v <;> first | exact hv.elim | rfl | exact hv

theorem inputTermDescs_lawful : (inputTermDescs : Slot ι (Block ι)).Lawful Block.IsDeviceInfo := by
  constructor <;> intros <;> rename_i v hv <;> cases v <;> first | exact hv.elim | rfl | exact hv

theorem processingUnitDescs_lawful :
    (processingUnitDescs : Slot ι (Block ι)).Lawful Block.IsDeviceInfo := by
  constructor <;> intros <;> rename_i v hv <;> cases v <;> first | exact hv.elim | rfl | exact hv

theorem extensionUnitDescs_lawful :
    (extensionUnitDescs : Slot ι (Block ι)).Lawful Block.IsDeviceInfo := by
  constructor <;> intros <;> rename_i v hv <;> cases v <;> first | exact hv.elim | rfl | exact hv

theorem streamIfs_lawful : (streamIfs : Slot ι (Block ι)).Lawful Block.IsDeviceInfo := by
  constructor <;> intros <;> rename_i v hv <;> cases v <;> first | exact hv.elim | rfl | exact hv

end Lawful

/-! ## The walk -/

section Walk

variable [DecidableEq ι]

/-- `if (p) free(p)`. -/
def freeIf (p : Option ι) (h : Memory ι) : Except Trap (Memory ι) :=
  if p.isSome then h.free p else .ok h

/-- A struct that holds nothing is only unlinked and freed. -/
def disposeNothing (_ : ι) (h : Memory ι) : Except Trap (Memory ι) := .ok h

/-- The loop over `frame_descs`. -/
def disposeFrame (frame : ι) (h : Memory ι) : Except Trap (Memory ι) := do
  let c ← h.load (some frame)
  freeIf c.value.intervals h

/-- The loop over `still_frame_desc`. -/
def disposeStill (n : Nat) (stillFrame : ι) (h : Memory ι) : Except Trap (Memory ι) := do
  let c ← h.load (some stillFrame)
  let h ← freeChain disposeNothing n (imageSizePatterns.get c.value) h
  let c ← h.load (some stillFrame)
  freeIf c.value.bCompression h

/-- The loop over `format_descs`. -/
def disposeFormat (n : Nat) (format : ι) (h : Memory ι) : Except Trap (Memory ι) := do
  let h ← freeList frameDescs disposeFrame n format h
  let c ← h.load (some format)
  if (stillFrameDesc.get c.value).isSome then
    freeChain (disposeStill n) n (stillFrameDesc.get c.value) h
  else return h

/-- The loop over `stream_ifs`. -/
def disposeStream (n : Nat) (streamIf : ι) (h : Memory ι) : Except Trap (Memory ι) :=
  freeList formatDescs (disposeFormat n) n streamIf h

/-- `uvc_free_device_info`, with so many rounds for each loop. -/
def uvcFreeDeviceInfo (n : Nat) (info : ι) (h : Memory ι) : Except Trap (Memory ι) := do
  let h ← freeList inputTermDescs disposeNothing n info h
  let h ← freeList processingUnitDescs disposeNothing n info h
  let h ← freeList extensionUnitDescs disposeNothing n info h
  let h ← freeList streamIfs (disposeStream n) n info h
  let c ← h.load (some info)
  let h ← freeIf c.value.config h
  h.free (some info)

end Walk

/-! ## The tree in memory -/

structure FrameNode (ι : Type) where
  addr : ι
  intervals : Option ι
  deriving DecidableEq, Repr

structure StillNode (ι : Type) where
  addr : ι
  sizes : List ι
  compression : Option ι
  deriving DecidableEq, Repr

structure FormatNode (ι : Type) where
  addr : ι
  frames : List (FrameNode ι)
  stills : List (StillNode ι)
  deriving DecidableEq, Repr

structure StreamNode (ι : Type) where
  addr : ι
  formats : List (FormatNode ι)
  deriving DecidableEq, Repr

/-- What a frame does to the tree: it goes to the last format. -/
def StreamNode.onLast (f : FormatNode ι → FormatNode ι) (t : StreamNode ι) : StreamNode ι :=
  { t with formats := t.formats.dropLast ++ (t.formats.getLast?.map f).toList }

structure InfoNode (ι : Type) where
  addr : ι
  inputs : List ι
  selectors : List ι
  processings : List ι
  extensions : List ι
  streams : List (StreamNode ι)
  config : Option ι
  deriving DecidableEq, Repr

/-- The memory behind a pointer that may be null. -/
def Bytes (h : Memory ι) (p : Option ι) : Prop := ∀ b ∈ p.toList, h.Holds b .bytes

theorem Bytes.isSome {h : Memory ι} {p : Option ι} (hp : Bytes h p) :
    ∀ b ∈ p.toList, ∃ c, h b = some c := fun b hb => by
  obtain ⟨c, hc, -⟩ := (hp b hb).exists_cell
  exact ⟨c, hc⟩

theorem Bytes.congr {h h' : Memory ι} {p : Option ι} (hp : Bytes h p)
    (heq : ∀ b ∈ p.toList, h' b = h b) : Bytes h' p := fun b hb => by
  rw [Heap.Holds, heq b hb]
  exact hp b hb

/-- `uvc_frame_desc_t`. -/
def frameShape : Shape ι (Block ι) (FrameNode ι) where
  addr := FrameNode.addr
  own t := t.intervals.toList
  In h t := h.Holds t.addr (.frameDesc t.intervals) ∧ Bytes h t.intervals
  isSome hin b hb := by
    obtain ⟨hself, hbytes⟩ := hin
    rcases List.mem_cons.1 hb with rfl | hb
    · obtain ⟨c, hc, -⟩ := hself.exists_cell
      exact ⟨c, hc⟩
    · exact hbytes.isSome b hb
  congr hin hown hval := ⟨hval.trans hin.1, hin.2.congr hown⟩

/-- `uvc_still_frame_desc_t`. -/
def stillShape : Shape ι (Block ι) (StillNode ι) where
  addr := StillNode.addr
  own t := t.sizes ++ t.compression.toList
  In h t := h.Holds t.addr (.stillFrameDesc t.sizes.head? t.compression) ∧
    Listed (leaf .stillFrameRes) h t.sizes ∧ Bytes h t.compression
  isSome hin b hb := by
    obtain ⟨hself, hsizes, hbytes⟩ := hin
    rcases List.mem_cons.1 hb with rfl | hb
    · obtain ⟨c, hc, -⟩ := hself.exists_cell
      exact ⟨c, hc⟩
    · rcases List.mem_append.1 hb with hb | hb
      · exact hsizes.isSome b (by rwa [footprint_leaf])
      · exact hbytes.isSome b hb
  congr hin hown hval := by
    refine ⟨hval.trans hin.1, hin.2.1.congr fun b hb => hown b (List.mem_append_left _ ?_),
      hin.2.2.congr fun b hb => hown b (List.mem_append_right _ hb)⟩
    rwa [footprint_leaf] at hb

/-- `uvc_format_desc_t`. -/
def formatShape : Shape ι (Block ι) (FormatNode ι) where
  addr := FormatNode.addr
  own t := frameShape.footprint t.frames ++ stillShape.footprint t.stills
  In h t := h.Holds t.addr (.formatDesc (t.frames.map FrameNode.addr).head?
      (t.stills.map StillNode.addr).head?) ∧
    Listed frameShape h t.frames ∧ Listed stillShape h t.stills
  isSome hin b hb := by
    obtain ⟨hself, hframes, hstills⟩ := hin
    rcases List.mem_cons.1 hb with rfl | hb
    · obtain ⟨c, hc, -⟩ := hself.exists_cell
      exact ⟨c, hc⟩
    · exact (List.mem_append.1 hb).elim (hframes.isSome b) (hstills.isSome b)
  congr hin hown hval := ⟨hval.trans hin.1,
    hin.2.1.congr fun b hb => hown b (List.mem_append_left _ hb),
    hin.2.2.congr fun b hb => hown b (List.mem_append_right _ hb)⟩

/-- `uvc_streaming_interface_t`. -/
def streamShape : Shape ι (Block ι) (StreamNode ι) where
  addr := StreamNode.addr
  own t := formatShape.footprint t.formats
  In h t := h.Holds t.addr (.streamingInterface (t.formats.map FormatNode.addr).head?) ∧
    Listed formatShape h t.formats
  isSome hin b hb := by
    obtain ⟨hself, hformats⟩ := hin
    rcases List.mem_cons.1 hb with rfl | hb
    · obtain ⟨c, hc, -⟩ := hself.exists_cell
      exact ⟨c, hc⟩
    · exact hformats.isSome b hb
  congr hin hown hval := ⟨hval.trans hin.1, hin.2.congr hown⟩

namespace InfoNode

/-- What the tree owns besides its selector units. -/
def freed (t : InfoNode ι) : List ι :=
  t.inputs ++ t.processings ++ t.extensions ++ streamShape.footprint t.streams ++ t.config.toList

end InfoNode

/-- `uvc_device_info_t`. -/
def infoShape : Shape ι (Block ι) (InfoNode ι) where
  addr := InfoNode.addr
  own t := t.selectors ++ t.freed
  In h t := h.Holds t.addr (.deviceInfo t.inputs.head? t.selectors.head? t.processings.head?
      t.extensions.head? (t.streams.map StreamNode.addr).head? t.config) ∧
    Listed (leaf .inputTerminal) h t.inputs ∧ Listed (leaf .selectorUnit) h t.selectors ∧
    Listed (leaf .processingUnit) h t.processings ∧ Listed (leaf .extensionUnit) h t.extensions ∧
    Listed streamShape h t.streams ∧ Bytes h t.config
  isSome {h t} hin b hb := by
    obtain ⟨hself, hi, hs, hp, hx, ht, hc⟩ := hin
    have hleaf : ∀ {v : Block ι} {as : List ι}, Listed (leaf v) h as → b ∈ as →
        ∃ c, h b = some c := fun hl hb => hl.isSome b (by rwa [footprint_leaf])
    rcases List.mem_cons.1 hb with rfl | hb
    · obtain ⟨c, hc, -⟩ := hself.exists_cell
      exact ⟨c, hc⟩
    · simp only [InfoNode.freed, List.mem_append] at hb
      obtain hb | (((hb | hb) | hb) | hb) | hb := hb
      · exact hleaf hs hb
      · exact hleaf hi hb
      · exact hleaf hp hb
      · exact hleaf hx hb
      · exact ht.isSome b hb
      · exact hc.isSome b hb
  congr {h h' t} hin hown hval := by
    obtain ⟨hself, hi, hs, hp, hx, ht, hc⟩ := hin
    have hleaf : ∀ {v : Block ι} {as : List ι}, Listed (leaf v) h as →
        (∀ b ∈ as, b ∈ t.selectors ++ t.freed) → Listed (leaf v) h' as := fun hl hsub =>
      hl.congr fun b hb => hown b (hsub b (by rwa [footprint_leaf] at hb))
    exact ⟨hval.trans hself, hleaf hi fun b hb => by simp [InfoNode.freed, hb],
      hleaf hs fun b hb => by simp [hb], hleaf hp fun b hb => by simp [InfoNode.freed, hb],
      hleaf hx fun b hb => by simp [InfoNode.freed, hb],
      ht.congr fun b hb => hown b (by simp [InfoNode.freed, hb]),
      hc.congr fun b hb => hown b (List.mem_append_right _ (List.mem_append_right _ hb))⟩

/-! ## The walk gives back what there is -/

theorem disposeNothing_leaf (v : Block ι) (a : ι) :
    (leaf v).DisposedBy disposeNothing a := fun h hin _ => by
  obtain ⟨c, hc, -⟩ := hin.exists_cell
  exact ⟨h, c.value, rfl, Cleared.of_kept hc List.not_mem_nil
    (fun b hb => absurd hb List.not_mem_nil) fun _ _ => rfl⟩

section Disposing

variable [DecidableEq ι]

theorem freeIf_ok {h : Memory ι} {o : ι} {c : Cell ι (Block ι)} {p : Option ι} (hc : h o = some c)
    (hp : Bytes h p) (ho : o ∉ p.toList) :
    ∃ h', freeIf p h = .ok h' ∧ Cleared p.toList o c.value h h' := by
  cases p with
  | none =>
    exact ⟨h, rfl, Cleared.of_kept hc List.not_mem_nil (fun b hb => absurd hb List.not_mem_nil)
      fun _ _ => rfl⟩
  | some a =>
    obtain ⟨ca, hca, -⟩ := (hp a (by simp)).exists_cell
    obtain ⟨h', hrun, hgone, hkept⟩ := exists_free hca
    have hmem : ∀ b, b ∈ (some a).toList ↔ b = a := by simp
    refine ⟨h', hrun, Cleared.of_kept hc ho (fun b hb => ?_) fun b hb =>
      hkept b fun heq => hb ((hmem b).2 heq)⟩
    rw [(hmem b).1 hb, hgone]

theorem disposeFrame_ok (t : FrameNode ι) : frameShape.DisposedBy disposeFrame t := by
  rintro h ⟨hself, hbytes⟩ hnodup
  obtain ⟨c, hc, hval⟩ := hself.exists_cell
  obtain ⟨h', hrun, hcl⟩ := freeIf_ok hc hbytes (List.nodup_cons.1 hnodup).1
  refine ⟨h', c.value, ?_, hcl⟩
  show (h.load (some t.addr) >>= _) = _
  rw [load_ok hc]
  show freeIf c.value.intervals h = _
  rw [hval]
  exact hrun

theorem disposeStill_ok {n : Nat} (t : StillNode ι) (hn : t.sizes.length ≤ n) :
    stillShape.DisposedBy (disposeStill n) t := by
  rintro h ⟨hself, hsizes, hbytes⟩ hnodup
  obtain ⟨hnot, hnd⟩ := List.nodup_cons.1 hnodup
  obtain ⟨hnds, -, hdis⟩ := List.nodup_append.1 hnd
  have hnot' : t.addr ∉ t.sizes ∧ t.addr ∉ t.compression.toList :=
    not_or.1 fun hmem => hnot (List.mem_append.2 hmem)
  obtain ⟨c, hc, hval⟩ := hself.exists_cell
  obtain ⟨h₁, hrun₁, hgone, hkept⟩ := freeChain_ok disposeNothing hsizes
    (by rwa [footprint_leaf]) (fun a _ => disposeNothing_leaf _ a) hn
  rw [footprint_leaf] at hgone hkept
  rw [map_leaf_addr] at hrun₁
  have hc₁ : h₁ t.addr = some c := (hkept _ hnot'.1).trans hc
  obtain ⟨h₂, hrun₂, hcl⟩ := freeIf_ok hc₁ (hbytes.congr fun b hb =>
    hkept b fun hbs => hdis b hbs b hb rfl) hnot'.2
  refine ⟨h₂, c.value, ?_, (Cleared.of_kept hc hnot'.1 hgone hkept).trans hcl hnot'.1⟩
  show (h.load (some t.addr) >>= _) = _
  rw [load_ok hc]
  show (freeChain disposeNothing n (imageSizePatterns.get c.value) h >>= _) = _
  rw [hval]
  show (freeChain disposeNothing n t.sizes.head? h >>= _) = _
  rw [hrun₁]
  show (h₁.load (some t.addr) >>= _) = _
  rw [load_ok hc₁]
  show freeIf c.value.bCompression h₁ = _
  rw [hval]
  exact hrun₂

theorem disposeFormat_ok {n : Nat} (t : FormatNode ι) (hn : (formatShape.own t).length ≤ n) :
    formatShape.DisposedBy (disposeFormat n) t := by
  rintro h ⟨hself, hframes, hstills⟩ hnodup
  obtain ⟨hnot, hnd⟩ := List.nodup_cons.1 hnodup
  obtain ⟨hndf, hnds, hdis⟩ := List.nodup_append.1 hnd
  have hnot' : t.addr ∉ frameShape.footprint t.frames ∧ t.addr ∉ stillShape.footprint t.stills :=
    not_or.1 fun hmem => hnot (List.mem_append.2 hmem)
  have hlen : (frameShape.footprint t.frames).length + (stillShape.footprint t.stills).length ≤
      n := by
    rw [← List.length_append]
    exact hn
  have hsize : ∀ s ∈ t.stills, s.sizes.length ≤ n := by
    intro s hs
    have hown : (stillShape.own s).length = s.sizes.length + s.compression.toList.length :=
      List.length_append
    have := length_own_le_footprint (S := stillShape) hs
    omega
  obtain ⟨c, hc, hval⟩ := hself.exists_cell
  have hdom : c.value.IsFormatDesc := by
    rw [hval]
    trivial
  obtain ⟨h₁, hrun₁, hcl₁⟩ := freeList_ok disposeFrame frameDescs_lawful hdom hc
    (by rw [hval]; rfl) hframes (List.nodup_cons.2 ⟨hnot'.1, hndf⟩)
    (fun f _ => disposeFrame_ok f) (n := n)
    (by have := length_le_footprint frameShape t.frames; omega)
  have hc₁ := hcl₁.owner c hc
  obtain ⟨h₂, hrun₂, hgone, hkept⟩ := freeChain_ok (disposeStill n)
    (hstills.congr fun b hb => hcl₁.others b (fun hbf => hdis b hbf b hb rfl)
      fun heq => hnot'.2 (heq ▸ hb)) hnds
    (fun s hs => disposeStill_ok s (hsize s hs)) (n := n)
    (by have := length_le_footprint stillShape t.stills; omega)
  refine ⟨h₂, _, ?_, hcl₁.trans (Cleared.of_kept hc₁ hnot'.2 hgone hkept) hnot'.1⟩
  show (freeList frameDescs disposeFrame n t.addr h >>= _) = _
  rw [hrun₁]
  show (h₁.load (some t.addr) >>= _) = _
  rw [load_ok hc₁]
  show (if (stillFrameDesc.get (frameDescs.set none c.value)).isSome then _ else _) = _
  have hhead : stillFrameDesc.get (frameDescs.set none c.value) =
      (t.stills.map StillNode.addr).head? := by
    rw [hval]
    rfl
  rw [hhead]
  cases hstart : (t.stills.map StillNode.addr).head? with
  | none =>
    rw [← hrun₂]
    show Except.ok h₁ = freeChain (disposeStill n) n (t.stills.map StillNode.addr).head? h₁
    rw [hstart]
    cases n <;> rfl
  | some s =>
    rw [← hstart]
    exact (if_pos (by rw [hstart]; rfl)).trans hrun₂

theorem disposeStream_ok {n : Nat} (t : StreamNode ι) (hn : (streamShape.own t).length ≤ n) :
    streamShape.DisposedBy (disposeStream n) t := by
  rintro h ⟨hself, hformats⟩ hnodup
  obtain ⟨c, hc, hval⟩ := hself.exists_cell
  have hdom : c.value.IsStreamingInterface := by
    rw [hval]
    trivial
  obtain ⟨h', hrun, hcl⟩ := freeList_ok (disposeFormat n) formatDescs_lawful hdom hc
    (by rw [hval]; rfl) hformats hnodup
    (fun f hf => disposeFormat_ok f ((length_own_le_footprint hf).trans hn)) (n := n)
    ((length_le_footprint formatShape t.formats).trans hn)
  exact ⟨h', _, hrun, hcl⟩

/-- One of the lists of the device info is given back, and the others stay. -/
theorem freeList_info {τ : Type} {S : Shape ι (Block ι) τ} {slot : Slot ι (Block ι)}
    (dispose : ι → Memory ι → Except Trap (Memory ι)) {n : Nat} {info : ι} {v : Block ι}
    {h : Memory ι} {items : List τ} (hlaw : slot.Lawful Block.IsDeviceInfo) (hself : h.Holds info v)
    (hv : v.IsDeviceInfo) (hhead : slot.get v = (items.map S.addr).head?)
    (hlist : Listed S h items) (hnodup : (info :: S.footprint items).Nodup)
    (hd : ∀ t ∈ items, S.DisposedBy dispose t) (hn : (S.footprint items).length ≤ n) :
    ∃ h', freeList slot dispose n info h = .ok h' ∧
      Cleared (S.footprint items) info (slot.set none v) h h' ∧
      h'.Holds info (slot.set none v) := by
  obtain ⟨c, hc, rfl⟩ := hself.exists_cell
  obtain ⟨h', hrun, hcl⟩ := freeList_ok dispose hlaw hv hc hhead hlist hnodup hd
    ((length_le_footprint S items).trans hn)
  exact ⟨h', hrun, hcl, holds_of_eq (hcl.owner c hc)⟩

/-- **`uvc_free_device_info` gives everything back but the selector units.** -/
theorem uvcFreeDeviceInfo_ok {h : Memory ι} {t : InfoNode ι} (ht : infoShape.In h t)
    (hnodup : (infoShape.cells t).Nodup) {n : Nat} (hn : t.freed.length ≤ n) :
    ∃ h', uvcFreeDeviceInfo n t.addr h = .ok h' ∧ h' t.addr = none ∧
      (∀ b ∈ t.freed, h' b = none) ∧ ∀ b, b ≠ t.addr → b ∉ t.freed → h' b = h b := by
  obtain ⟨hself, hi, -, hp, hx, hst, hcfg⟩ := ht
  have hnd : (t.addr :: t.freed).Nodup := hnodup.sublist
    (List.Sublist.cons_cons _ (List.sublist_append_right _ _))
  obtain ⟨hnot, hndf⟩ := List.nodup_cons.1 hnd
  simp only [InfoNode.freed, List.mem_append, not_or] at hnot
  obtain ⟨⟨⟨⟨hni, hnp⟩, hnx⟩, hnt⟩, hnc⟩ := hnot
  simp only [InfoNode.freed, List.nodup_append, List.mem_append, List.length_append] at hndf hn
  obtain ⟨⟨⟨⟨hndi, hndp, hdp⟩, hndx, hdx⟩, hndt, hdt⟩, -, hdc⟩ := hndf
  -- the terminals and units
  obtain ⟨h₁, hrun₁, hcl₁, hself₁⟩ := freeList_info (n := n) disposeNothing
    inputTermDescs_lawful hself trivial (by simp [inputTermDescs]) hi
    (by simpa using ⟨hni, hndi⟩) (fun a _ => disposeNothing_leaf _ a)
    (by rw [footprint_leaf]; omega)
  rw [footprint_leaf] at hcl₁
  obtain ⟨h₂, hrun₂, hcl₂, hself₂⟩ := freeList_info (n := n) disposeNothing
    processingUnitDescs_lawful hself₁ trivial (by simp [inputTermDescs, processingUnitDescs])
    (hp.congr fun b hb => by
      rw [footprint_leaf] at hb
      exact hcl₁.others b (fun hbi => hdp b hbi b hb rfl) fun heq => hnp (heq ▸ hb))
    (by simpa using ⟨hnp, hndp⟩) (fun a _ => disposeNothing_leaf _ a)
    (by rw [footprint_leaf]; omega)
  rw [footprint_leaf] at hcl₂
  have hcl₁₂ := hcl₁.trans hcl₂ hni
  obtain ⟨h₃, hrun₃, hcl₃, hself₃⟩ := freeList_info (n := n) disposeNothing
    extensionUnitDescs_lawful hself₂ trivial
    (by simp [inputTermDescs, processingUnitDescs, extensionUnitDescs])
    (hx.congr fun b hb => by
      rw [footprint_leaf] at hb
      exact hcl₁₂.others b (fun hbi => hdx b (by simpa using hbi) b hb rfl) fun heq =>
        hnx (heq ▸ hb))
    (by simpa using ⟨hnx, hndx⟩) (fun a _ => disposeNothing_leaf _ a)
    (by rw [footprint_leaf]; omega)
  rw [footprint_leaf] at hcl₃
  have hcl₁₃ := hcl₁₂.trans hcl₃ (by simp [hni, hnp])
  -- the interfaces
  obtain ⟨h₄, hrun₄, hcl₄, hself₄⟩ := freeList_info (n := n) (disposeStream n)
    streamIfs_lawful hself₃ trivial
    (by simp [inputTermDescs, processingUnitDescs, extensionUnitDescs, streamIfs]; rfl)
    (hst.congr fun b hb => hcl₁₃.others b
      (fun hbi => hdt b (by simpa [or_assoc] using hbi) b hb rfl) fun heq => hnt (heq ▸ hb))
    (List.nodup_cons.2 ⟨hnt, hndt⟩)
    (fun s hs => disposeStream_ok s ((length_own_le_footprint hs).trans (by omega))) (by omega)
  have hcl₁₄ := hcl₁₃.trans hcl₄ (by simp [hni, hnp, hnx])
  -- libusb's part and the struct itself
  obtain ⟨c₄, hc₄, hval₄⟩ := hself₄.exists_cell
  obtain ⟨h₅, hrun₅, hcl₅⟩ := freeIf_ok hc₄ (hcfg.congr fun b hb =>
    hcl₁₄.others b (fun hbi => hdc b (by simpa [or_assoc] using hbi) b hb rfl)
      fun heq => hnc (heq ▸ hb)) hnc
  have hcl₁₅ := hcl₁₄.trans hcl₅ (by simp [hni, hnp, hnx, hnt])
  have hfreed : t.inputs ++ t.processings ++ t.extensions ++ streamShape.footprint t.streams ++
      t.config.toList = t.freed := rfl
  rw [hfreed] at hcl₁₅
  obtain ⟨h₆, hrun₆, hgone, hkept⟩ := exists_free (hcl₅.owner c₄ hc₄)
  refine ⟨h₆, ?_, hgone, fun b hb => ?_, fun b hba hb => ?_⟩
  · rw [uvcFreeDeviceInfo, hrun₁]
    show (freeList processingUnitDescs disposeNothing n t.addr h₁ >>= _) = _
    rw [hrun₂]
    show (freeList extensionUnitDescs disposeNothing n t.addr h₂ >>= _) = _
    rw [hrun₃]
    show (freeList streamIfs (disposeStream n) n t.addr h₃ >>= _) = _
    rw [hrun₄]
    show (h₄.load (some t.addr) >>= _) = _
    rw [load_ok hc₄]
    show (freeIf c₄.value.config h₄ >>= _) = _
    have hconfig : c₄.value.config = t.config := by
      rw [hval₄]
      rfl
    rw [hconfig, hrun₅]
    exact hrun₆
  · have hba : b ≠ t.addr := fun heq => (List.nodup_cons.1 hnd).1 (heq ▸ hb)
    rw [hkept b hba, hcl₁₅.gone b hb]
  · rw [hkept b hba, hcl₁₅.others b hb hba]

end Disposing

/-! ## What the parser allocates -/

section Parsing

variable [DecidableEq ι]

/-- `stream_if->format_descs->prev`. -/
def lastFormat (streamIf : ι) (h : Memory ι) : Except Trap (Option ι) := do
  let c ← h.load (some streamIf)
  let c ← h.load (formatDescs.get c.value)
  return c.prev

/-- `DL_APPEND(format->slot, el)`, for a pointer that the parser has looked up. -/
def appendTo (slot : Slot ι (Block ι)) (format : Option ι) (el : ι) (h : Memory ι) :
    Except Trap (Memory ι) :=
  match format with
  | none => .error .nullPointer
  | some format => appendIn slot format el h

/-- `p`, if the block asks for it, becomes the memory of a field of `o`. -/
def attachIf (set : Option ι → Block ι → Block ι) (o : ι) (p : Option ι) (h : Memory ι) :
    Except Trap (Memory ι) :=
  match p with
  | none => .ok h
  | some q => attach q .bytes o (set (some q)) h

/-- The frame, before it is put anywhere. -/
def makeFrame (frame : ι) (intervals : Option ι) (h : Memory ι) : Except Trap (Memory ι) := do
  let h ← h.alloc frame (.frameDesc none)
  attachIf Block.setIntervals frame intervals h

/-- `uvc_parse_vs_frame_uncompressed`, and `uvc_parse_vs_frame_frame` past its checks. -/
def addFrame (streamIf frame : ι) (intervals : Option ι) (h : Memory ι) :
    Except Trap (Memory ι) := do
  let format ← lastFormat streamIf h
  let h ← makeFrame frame intervals h
  appendTo frameDescs format frame h

/-- The still frame, before it is put anywhere. -/
def makeStillFrame (frame : ι) (sizes : List ι) (compression : Option ι) (h : Memory ι) :
    Except Trap (Memory ι) := do
  let h ← h.alloc frame (.stillFrameDesc none none)
  let h ← sizes.foldlM (fun h res => appendNew imageSizePatterns .stillFrameRes frame res h) h
  attachIf Block.setCompression frame compression h

/-- `uvc_parse_vs_still_image_frame`. -/
def addStillFrame (streamIf frame : ι) (sizes : List ι) (compression : Option ι) (h : Memory ι) :
    Except Trap (Memory ι) := do
  let format ← lastFormat streamIf h
  let h ← makeStillFrame frame sizes compression h
  appendTo stillFrameDesc format frame h

end Parsing

/-- The VideoStreaming blocks for which the parser allocates something, with what `calloc` returns:
whether there are intervals and compression patterns and how many sizes there are is up to the
block. -/
inductive VsOp (ι : Type) where
  /-- An uncompressed, MJPEG or frame-based format. -/
  | format (addr : ι)
  | frame (addr : ι) (intervals : Option ι)
  | stillFrame (addr : ι) (sizes : List ι) (compression : Option ι)
  deriving DecidableEq, Repr

/-- The VideoControl blocks for which it does, and the interfaces that a header names. -/
inductive VcOp (ι : Type) where
  | inputTerminal (addr : ι)
  | processingUnit (addr : ι)
  | selectorUnit (addr : ι)
  | extensionUnit (addr : ι)
  /-- `uvc_scan_streaming`, up to the block that it stops at. -/
  | scanStreaming (addr : ι) (blocks : List (VsOp ι))
  deriving DecidableEq, Repr

namespace VsOp

/-- What is allocated. -/
def cells : VsOp ι → List ι
  | .format addr => [addr]
  | .frame addr intervals => addr :: intervals.toList
  | .stillFrame addr sizes compression => addr :: (sizes ++ compression.toList)

def exec [DecidableEq ι] (streamIf : ι) : VsOp ι → Memory ι → Except Trap (Memory ι)
  | .format addr => appendNew formatDescs (.formatDesc none none) streamIf addr
  | .frame addr intervals => addFrame streamIf addr intervals
  | .stillFrame addr sizes compression => addStillFrame streamIf addr sizes compression

/-- The tree afterwards. -/
def apply : VsOp ι → StreamNode ι → StreamNode ι
  | .format addr, t => { t with formats := t.formats ++ [⟨addr, [], []⟩] }
  | .frame addr intervals, t =>
    t.onLast fun f => { f with frames := f.frames ++ [⟨addr, intervals⟩] }
  | .stillFrame addr sizes compression, t =>
    t.onLast fun f => { f with stills := f.stills ++ [⟨addr, sizes, compression⟩] }

def IsFormat : VsOp ι → Prop
  | .format _ => True
  | _ => False

end VsOp

namespace VcOp

/-- What is allocated. -/
def cells : VcOp ι → List ι
  | .inputTerminal addr | .processingUnit addr | .selectorUnit addr | .extensionUnit addr => [addr]
  | .scanStreaming addr blocks => addr :: blocks.flatMap VsOp.cells

def exec [DecidableEq ι] (info : ι) : VcOp ι → Memory ι → Except Trap (Memory ι)
  | .inputTerminal addr => appendNew inputTermDescs .inputTerminal info addr
  | .processingUnit addr => appendNew processingUnitDescs .processingUnit info addr
  | .selectorUnit addr => appendNew selectorUnitDescs .selectorUnit info addr
  | .extensionUnit addr => appendNew extensionUnitDescs .extensionUnit info addr
  | .scanStreaming addr blocks => fun h => do
    let h ← appendNew streamIfs (.streamingInterface none) info addr h
    blocks.foldlM (fun h op => op.exec addr h) h

/-- The tree afterwards. -/
def apply : VcOp ι → InfoNode ι → InfoNode ι
  | .inputTerminal addr, t => { t with inputs := t.inputs ++ [addr] }
  | .processingUnit addr, t => { t with processings := t.processings ++ [addr] }
  | .selectorUnit addr, t => { t with selectors := t.selectors ++ [addr] }
  | .extensionUnit addr, t => { t with extensions := t.extensions ++ [addr] }
  | .scanStreaming addr blocks, t =>
    { t with streams := t.streams ++ [blocks.foldl (fun s op => op.apply s) ⟨addr, []⟩] }

/-- No frame comes before the first format of its interface: there the parser looks for the last
one of no formats. -/
def Ordered : VcOp ι → Prop
  | .scanStreaming _ blocks => ∀ op, blocks.head? = some op → op.IsFormat
  | _ => True

/-- The selector unit among them. -/
def selector? : VcOp ι → Option ι
  | .selectorUnit addr => some addr
  | _ => none

end VcOp

/-- `uvc_get_device_info`, when libusb returns its configuration. -/
def getDeviceInfo [DecidableEq ι] (info config : ι) (ops : List (VcOp ι)) (h : Memory ι) :
    Except Trap (Memory ι) := do
  let h ← h.alloc info (.deviceInfo none none none none none none)
  let h ← attach config .bytes info (Block.setConfig (some config)) h
  ops.foldlM (fun h op => op.exec info h) h

/-! ## The parser lets the tree grow -/

section Growing

variable {h : Memory ι}

theorem onLast_concat (f : FormatNode ι → FormatNode ι) (a : ι) (l : List (FormatNode ι))
    (x : FormatNode ι) : (⟨a, l ++ [x]⟩ : StreamNode ι).onLast f = ⟨a, l ++ [f x]⟩ := by
  simp [StreamNode.onLast]

theorem foldl_addSize (sizes : List ι) : ∀ t : StillNode ι,
    sizes.foldl (fun t a => { t with sizes := t.sizes ++ [a] }) t =
      { t with sizes := t.sizes ++ sizes } := by
  induction sizes with
  | nil => simp
  | cons a sizes ih => simp [ih]

theorem lastFormat_eq {a : ι} {l : List (FormatNode ι)} {x : FormatNode ι}
    (hs : streamShape.In h ⟨a, l ++ [x]⟩) : lastFormat a h = .ok (some x.addr) := by
  obtain ⟨hself, hlist, -⟩ := hs
  obtain ⟨c, hc, hval⟩ := hself.exists_cell
  obtain ⟨y, ys, hys⟩ := List.exists_cons_of_ne_nil (l := (l ++ [x]).map FormatNode.addr) (by simp)
  obtain ⟨cy, hcy, hprev⟩ := (hys ▸ hlist : DList h (y :: ys)).head_prev
  have hlast : ((l ++ [x]).map FormatNode.addr).getLast? = some x.addr := by
    rw [List.map_append]
    exact List.getLast?_concat ..
  rw [lastFormat, load_ok hc]
  show (h.load (formatDescs.get c.value) >>= _) = _
  rw [hval]
  show (h.load ((l ++ [x]).map FormatNode.addr).head? >>= _) = _
  rw [hys, List.head?_cons, load_ok hcy]
  show Except.ok cy.prev = _
  rw [hprev, ← hys, hlast]

/-- The last format grows, and so does its interface. -/
theorem grown_stream {h' : Memory ι} {added : List ι} {a : ι} {l : List (FormatNode ι)}
    {x x' : FormatNode ι} (hs : streamShape.In h ⟨a, l ++ [x]⟩)
    (hnodup : (streamShape.cells ⟨a, l ++ [x]⟩).Nodup) (hg : Grown formatShape added h h' x x') :
    Grown streamShape added h h' ⟨a, l ++ [x]⟩ ⟨a, l ++ [x']⟩ := by
  have haddr : x'.addr = x.addr := hg.addr
  refine Grown.lift (P := streamShape) hg hs hnodup hs.2 (List.Sublist.refl _) rfl
    (hg.footprint_perm l []) fun hl hself _ => ⟨?_, hl⟩
  show h'.Holds a (.streamingInterface ((l ++ [x']).map FormatNode.addr).head?)
  have hmap : (l ++ [x']).map FormatNode.addr = (l ++ [x]).map FormatNode.addr := by
    simp only [List.map_append, List.map_cons, List.map_nil, haddr]
  rw [Heap.Holds, show h' a = h a from hself, hmap]
  exact hs.1

theorem nodup_format {a : ι} {l : List (FormatNode ι)} {x : FormatNode ι}
    (hnodup : (streamShape.cells ⟨a, l ++ [x]⟩).Nodup) : (formatShape.cells x).Nodup := by
  refine (List.nodup_cons.1 hnodup).2.sublist ?_
  show (formatShape.cells x).Sublist (formatShape.footprint (l ++ [x]))
  rw [footprint_append]
  exact (List.sublist_append_left _ _).trans (List.sublist_append_right _ _)

variable [DecidableEq ι]

theorem attachIf_ok (set : Option ι → Block ι → Block ι) {τ : Type} {S : Shape ι (Block ι) τ}
    (t' : τ) {t : τ} {p : Option ι} {v : Block ι} (ht : S.In h t)
    (hself : h.Holds (S.addr t) v) (hp : ∀ b ∈ p.toList, h b = none) (hnone : p = none → t' = t)
    (haddr : S.addr t' = S.addr t) (hown : (S.own t').Perm (p.toList ++ S.own t))
    (hin : ∀ g : Memory ι, g.Holds (S.addr t) (set p v) → Bytes g p →
      (∀ b ∈ S.own t, b ≠ S.addr t → g b = h b) → S.In g t') :
    ∃ h', attachIf set (S.addr t) p h = .ok h' ∧ Grown S p.toList h h' t t' := by
  cases p with
  | none =>
    obtain rfl := hnone rfl
    exact ⟨h, rfl, Grown.refl ht⟩
  | some q =>
    obtain ⟨c, hc, rfl⟩ := hself.exists_cell
    refine Grown.attached ht (hp q (by simp)) hc haddr hown fun g hg hq hkept =>
      hin g (holds_of_eq hg) (fun b hb => ?_) hkept
    rw [Option.toList_some, List.mem_singleton] at hb
    exact hb ▸ holds_of_eq hq

/-- A frame with its intervals is made. -/
theorem makeFrame_ok {addr : ι} {intervals : Option ι}
    (hfresh : ∀ b ∈ addr :: intervals.toList, h b = none)
    (hnodup : (addr :: intervals.toList).Nodup) :
    ∃ h', makeFrame addr intervals h = .ok h' ∧ Made frameShape h h' ⟨addr, intervals⟩ := by
  obtain ⟨h₁, hrun₁, hmade⟩ := exists_made (S := frameShape) (t := ⟨addr, none⟩)
    (v := .frameDesc none) (hfresh addr List.mem_cons_self) rfl
    fun g hg => ⟨holds_of_eq hg, fun b hb => absurd hb List.not_mem_nil⟩
  have hlater : ∀ b ∈ intervals.toList, h₁ b = none := by
    intro b hb
    have hne : b ≠ addr := fun heq => (List.nodup_cons.1 hnodup).1 (heq ▸ hb)
    rw [hmade.others b fun hmem => hne (List.mem_singleton.1 hmem)]
    exact hfresh b (List.mem_cons_of_mem _ hb)
  obtain ⟨h₂, hrun₂, hg⟩ := attachIf_ok Block.setIntervals (S := frameShape)
    ⟨addr, intervals⟩ hmade.there hmade.there.1 hlater (fun heq => by rw [heq]) rfl
    (by rw [show frameShape.own (⟨addr, none⟩ : FrameNode ι) = [] from rfl, List.append_nil]; rfl)
    fun g hself hbytes _ => ⟨hself, hbytes⟩
  refine ⟨h₂, ?_, hmade.grow hg⟩
  rw [makeFrame, show h.alloc addr (.frameDesc none) = .ok h₁ from hrun₁]
  exact hrun₂

/-- One more size for a still frame. -/
theorem addSize_ok {a : ι} (t : StillNode ι) (ht : stillShape.In h t)
    (hnodup : (stillShape.cells t).Nodup) (ha : h a = none) :
    ∃ h', appendNew imageSizePatterns .stillFrameRes t.addr a h = .ok h' ∧
      Grown stillShape [a] h h' t { t with sizes := t.sizes ++ [a] } := by
  obtain ⟨hself, hsizes, hbytes⟩ := ht
  refine Grown.appendNew (P := stillShape) (S := leaf (.stillFrameRes : Block ι)) (t := a)
    (v := .stillFrameRes) ⟨hself, hsizes, hbytes⟩ hnodup ha rfl (fun g hg => hg) hself
    (by simp [imageSizePatterns]) hsizes ?_ rfl ?_
    fun g hl hg hkept => ⟨?_, hl, hbytes.congr fun b hb => hkept b ?_ ?_⟩
  · rw [footprint_leaf]
    exact List.sublist_append_left _ _
  · show ((t.sizes ++ [a]) ++ t.compression.toList).Perm (a :: (t.sizes ++ t.compression.toList))
    rw [List.append_assoc]
    exact List.perm_middle
  · show g.Holds t.addr (.stillFrameDesc (t.sizes ++ [a]).head? t.compression)
    rw [map_leaf_addr] at hg
    exact hg
  · exact List.mem_append_right _ hb
  · rw [footprint_leaf]
    intro hbs
    have hnd : (t.sizes ++ t.compression.toList).Nodup := (List.nodup_cons.1 hnodup).2
    exact (List.nodup_append.1 hnd).2.2 b hbs b hb rfl

/-- A still frame with its sizes and compression patterns is made. -/
theorem makeStillFrame_ok {addr : ι} {sizes : List ι} {compression : Option ι}
    (hfresh : ∀ b ∈ addr :: (sizes ++ compression.toList), h b = none)
    (hnodup : (addr :: (sizes ++ compression.toList)).Nodup) :
    ∃ h', makeStillFrame addr sizes compression h = .ok h' ∧
      Made stillShape h h' ⟨addr, sizes, compression⟩ := by
  obtain ⟨hnot, hnd⟩ := List.nodup_cons.1 hnodup
  obtain ⟨hnds, -, hdis⟩ := List.nodup_append.1 hnd
  obtain ⟨h₁, hrun₁, hmade⟩ := exists_made (S := stillShape) (t := ⟨addr, [], none⟩)
    (v := .stillFrameDesc none none) (hfresh addr List.mem_cons_self) rfl
    fun g hg => ⟨holds_of_eq hg, Listed.nil g, fun b hb => absurd hb List.not_mem_nil⟩
  have hlater : ∀ b ∈ sizes ++ compression.toList, h₁ b = none := by
    intro b hb
    have hne : b ≠ addr := fun heq => hnot (heq ▸ hb)
    rw [hmade.others b fun hmem => hne (List.mem_singleton.1 hmem)]
    exact hfresh b (List.mem_cons_of_mem _ hb)
  obtain ⟨h₂, hrun₂, hg₂⟩ := Grown.run (S := stillShape) (I := fun _ _ => True)
    (fun o a h => appendNew imageSizePatterns .stillFrameRes o a h) (fun a => [a])
    (fun a t => { t with sizes := t.sizes ++ [a] })
    (fun a _ h t ht hnodup _ ha _ => ⟨trivial, addSize_ok t ht hnodup (ha a List.mem_cons_self)⟩)
    sizes hmade.there hmade.nodup trivial
    (fun b hb => hlater b (List.mem_append_left _ (by simpa using hb))) (by simpa using hnds)
  rw [foldl_addSize, List.nil_append, List.flatMap_singleton'] at hg₂
  have hlast : ∀ b ∈ compression.toList, h₂ b = none := fun b hb =>
    hg₂.still_fresh hmade.there (hlater b (List.mem_append_right _ hb))
      fun hbs => hdis b hbs b hb rfl
  have hsizes : ∀ b ∈ (leaf (.stillFrameRes : Block ι)).footprint sizes,
      b ∈ sizes ++ [] ∧ b ≠ addr := by
    intro b hb
    rw [footprint_leaf] at hb
    exact ⟨List.mem_append_left _ hb, fun heq => hnot (heq ▸ List.mem_append_left _ hb)⟩
  obtain ⟨h₃, hrun₃, hg₃⟩ := attachIf_ok Block.setCompression (S := stillShape)
    ⟨addr, sizes, compression⟩ hg₂.there hg₂.there.1 hlast (fun heq => by rw [heq]) rfl
    (by
      show (sizes ++ compression.toList).Perm (compression.toList ++ (sizes ++ []))
      rw [List.append_nil]
      exact List.perm_append_comm)
    fun g hself hbytes hkept => ⟨hself, hg₂.there.2.1.congr fun b hb =>
      hkept b (hsizes b hb).1 (hsizes b hb).2, hbytes⟩
  refine ⟨h₃, ?_, (hmade.grow hg₂).grow hg₃⟩
  rw [makeStillFrame, show h.alloc addr (.stillFrameDesc none none) = .ok h₁ from hrun₁]
  show (sizes.foldlM (fun h res => appendNew imageSizePatterns .stillFrameRes addr res h) h₁ >>=
    attachIf Block.setCompression addr compression) = .ok h₃
  rw [show sizes.foldlM (fun h res => appendNew imageSizePatterns .stillFrameRes addr res h) h₁ =
    .ok h₂ from hrun₂]
  exact hrun₃

theorem addFrame_ok {a addr : ι} {intervals : Option ι} {l : List (FormatNode ι)}
    {x : FormatNode ι} (hs : streamShape.In h ⟨a, l ++ [x]⟩)
    (hnodup : (streamShape.cells ⟨a, l ++ [x]⟩).Nodup)
    (hfresh : ∀ b ∈ addr :: intervals.toList, h b = none)
    (hnd : (addr :: intervals.toList).Nodup) :
    ∃ h', addFrame a addr intervals h = .ok h' ∧ Grown streamShape (addr :: intervals.toList) h h'
      ⟨a, l ++ [x]⟩ ⟨a, l ++ [{ x with frames := x.frames ++ [⟨addr, intervals⟩] }]⟩ := by
  have hndx := nodup_format hnodup
  obtain ⟨h₁, hrun₁, hmade⟩ := makeFrame_ok hfresh hnd
  obtain ⟨hself, hframes, hstills⟩ := hs.2.each x (by simp)
  obtain ⟨c, hc, hval⟩ := hself.exists_cell
  obtain ⟨h₂, hrun₂, hg⟩ := Grown.append frameDescs (P := formatShape) (S := frameShape)
    { x with frames := x.frames ++ [⟨addr, intervals⟩] } ⟨hself, hframes, hstills⟩ hndx hmade hc
    (by rw [hval]; rfl) hframes (List.sublist_append_left _ _) rfl
    (by
      rw [List.perm_iff_count]
      intro b
      simp only [formatShape, footprint_append, footprint_cons, footprint_nil, Shape.cells,
        List.count_append, List.count_cons, List.count_nil]
      omega)
    (fun g hl hg hkept => ⟨by
      have hv := holds_of_eq hg
      rw [hval] at hv
      exact hv, hl, hstills.kept (List.nodup_cons.1 hndx).2 hkept fun b => by
        simp only [formatShape, List.count_append]
        omega⟩)
  refine ⟨h₂, ?_, grown_stream hs hnodup hg⟩
  rw [addFrame, lastFormat_eq hs]
  show (makeFrame addr intervals h >>= _) = _
  rw [hrun₁]
  exact hrun₂

theorem addStillFrame_ok {a addr : ι} {sizes : List ι} {compression : Option ι}
    {l : List (FormatNode ι)} {x : FormatNode ι} (hs : streamShape.In h ⟨a, l ++ [x]⟩)
    (hnodup : (streamShape.cells ⟨a, l ++ [x]⟩).Nodup)
    (hfresh : ∀ b ∈ addr :: (sizes ++ compression.toList), h b = none)
    (hnd : (addr :: (sizes ++ compression.toList)).Nodup) :
    ∃ h', addStillFrame a addr sizes compression h = .ok h' ∧
      Grown streamShape (addr :: (sizes ++ compression.toList)) h h' ⟨a, l ++ [x]⟩
        ⟨a, l ++ [{ x with stills := x.stills ++ [⟨addr, sizes, compression⟩] }]⟩ := by
  have hndx := nodup_format hnodup
  obtain ⟨h₁, hrun₁, hmade⟩ := makeStillFrame_ok hfresh hnd
  obtain ⟨hself, hframes, hstills⟩ := hs.2.each x (by simp)
  obtain ⟨c, hc, hval⟩ := hself.exists_cell
  obtain ⟨h₂, hrun₂, hg⟩ := Grown.append stillFrameDesc (P := formatShape)
    (S := stillShape) { x with stills := x.stills ++ [⟨addr, sizes, compression⟩] }
    ⟨hself, hframes, hstills⟩ hndx hmade hc (by rw [hval]; rfl) hstills
    (List.sublist_append_right _ _) rfl
    (by
      rw [List.perm_iff_count]
      intro b
      simp only [formatShape, footprint_append, footprint_cons, footprint_nil, Shape.cells,
        List.count_append, List.count_cons, List.count_nil]
      omega)
    (fun g hl hg hkept => ⟨by
      have hv := holds_of_eq hg
      rw [hval] at hv
      exact hv, hframes.kept (List.nodup_cons.1 hndx).2 hkept fun b => by
        simp only [formatShape, List.count_append]
        omega, hl⟩)
  refine ⟨h₂, ?_, grown_stream hs hnodup hg⟩
  rw [addStillFrame, lastFormat_eq hs]
  show (makeStillFrame addr sizes compression h >>= _) = _
  rw [hrun₁]
  exact hrun₂

/-- **One VideoStreaming block.** -/
theorem VsOp.exec_ok (op : VsOp ι) (t : StreamNode ι) (ht : streamShape.In h t)
    (hnodup : (streamShape.cells t).Nodup) (hready : op.IsFormat ∨ t.formats ≠ [])
    (hfresh : ∀ b ∈ op.cells, h b = none) (hnd : op.cells.Nodup) :
    (op.apply t).formats ≠ [] ∧ ∃ h', op.exec t.addr h = .ok h' ∧
      Grown streamShape op.cells h h' t (op.apply t) := by
  obtain ⟨a, formats⟩ := t
  cases op with
  | format addr =>
    refine ⟨by simp [VsOp.apply], ?_⟩
    exact Grown.appendNew (P := streamShape) (S := formatShape) (t := ⟨addr, [], []⟩)
      (v := .formatDesc none none) ht hnodup (hfresh addr (by simp [VsOp.cells])) rfl
      (fun g hg => ⟨hg, Listed.nil g, Listed.nil g⟩) ht.1 rfl ht.2 (List.Sublist.refl _) rfl
      (by
        rw [List.perm_iff_count]
        intro b
        simp only [streamShape, formatShape, VsOp.apply, footprint_append, footprint_cons,
          footprint_nil, List.count_append, List.count_cons, List.count_nil]
        omega)
      fun g hl hg _ => ⟨hg, hl⟩
  | frame addr intervals =>
    obtain ⟨l, x, rfl⟩ := exists_last (hready.resolve_left id : formats ≠ [])
    rw [VsOp.apply, onLast_concat]
    exact ⟨by simp, addFrame_ok ht hnodup hfresh hnd⟩
  | stillFrame addr sizes compression =>
    obtain ⟨l, x, rfl⟩ := exists_last (hready.resolve_left id : formats ≠ [])
    rw [VsOp.apply, onLast_concat]
    exact ⟨by simp, addStillFrame_ok ht hnodup hfresh hnd⟩

/-- The blocks of one interface, from the first one. -/
theorem blocks_ok {a : ι} {blocks : List (VsOp ι)} (ht : streamShape.In h ⟨a, []⟩)
    (hordered : ∀ op, blocks.head? = some op → op.IsFormat)
    (hfresh : ∀ b ∈ blocks.flatMap VsOp.cells, h b = none)
    (hnd : (blocks.flatMap VsOp.cells).Nodup) :
    ∃ h', blocks.foldlM (fun h op => op.exec a h) h = .ok h' ∧
      Grown streamShape (blocks.flatMap VsOp.cells) h h' ⟨a, []⟩
        (blocks.foldl (fun s op => op.apply s) ⟨a, []⟩) := by
  -- the first one is a format, and from then on there is one
  refine Grown.run (S := streamShape) (fun a op => op.exec a) VsOp.cells VsOp.apply
    (I := fun ops s => (∀ op, ops.head? = some op → op.IsFormat) ∨ s.formats ≠ [])
    (fun op ops h s hs hnodup hi hfresh hnd => ?_) blocks ht (List.nodup_singleton a)
    (.inl hordered) hfresh hnd
  obtain ⟨hsome, hrun⟩ := op.exec_ok s hs hnodup (hi.imp_left fun hfirst => hfirst op rfl)
    hfresh hnd
  exact ⟨.inr hsome, hrun⟩

/-- What a device info owns, list by list. -/
def InfoNode.parts (t : InfoNode ι) : List (List ι) :=
  [t.selectors, t.inputs, t.processings, t.extensions, streamShape.footprint t.streams,
    t.config.toList]

omit [DecidableEq ι] in
theorem own_eq_parts (t : InfoNode ι) : infoShape.own t = t.parts.flatten := by
  simp [infoShape, InfoNode.freed, InfoNode.parts]

omit [DecidableEq ι] in
/-- What is in one of the lists has not changed when only another one has. -/
theorem part_kept {g : Memory ι} {t : InfoNode ι} (hnodup : (infoShape.own t).Nodup) {i j : Nat}
    {p q : List ι} (hi : t.parts[i]? = some p)
    (hkept : ∀ b ∈ infoShape.own t, b ∉ p → g b = h b) (hne : j ≠ i) (hj : t.parts[j]? = some q) :
    ∀ b ∈ q, g b = h b := fun b hb => by
  rw [own_eq_parts] at hnodup hkept
  exact hkept b (List.mem_flatten_of_mem (List.mem_of_getElem? hj) hb)
    (notMem_part hnodup hi hj hne hb)

/-- **A device info grows by a new struct** at the end of one of its lists; the others stay as they
are. -/
theorem info_appendNew {σ : Type} {S : Shape ι (Block ι) σ} {slot : LinkedList.Slot ι (Block ι)}
    {v : Block ι} {u : σ} {us : List σ} {t t' : InfoNode ι} (i : Nat) (ht : infoShape.In h t)
    (hnodup : (infoShape.cells t).Nodup) (ha : h (S.addr u) = none) (hnone : S.own u = [])
    (hnew : ∀ g : Memory ι, g.Holds (S.addr u) v → S.In g u) {w : Block ι}
    (hself : h.Holds t.addr w) (hhead : slot.get w = (us.map S.addr).head?) (hl : Listed S h us)
    (hi : t.parts[i]? = some (S.footprint us)) (haddr : t'.addr = t.addr)
    (hparts : t'.parts = t.parts.set i (S.footprint us ++ [S.addr u]))
    (hin : ∀ g : Memory ι, Listed S g (us ++ [u]) →
      g.Holds t.addr (slot.set ((us ++ [u]).map S.addr).head? w) →
      (∀ j q, j ≠ i → t.parts[j]? = some q → ∀ b ∈ q, g b = h b) → infoShape.In g t') :
    ∃ h', appendNew slot v t.addr (S.addr u) h = .ok h' ∧
      Grown infoShape [S.addr u] h h' t t' := by
  refine Grown.appendNew (P := infoShape) ht hnodup ha hnone hnew hself hhead hl ?_ haddr ?_
    fun g hg hw hkept => hin g hg hw fun j q hne hj =>
      part_kept (List.nodup_cons.1 hnodup).2 hi hkept hne hj
  · rw [own_eq_parts]
    exact List.sublist_flatten_of_mem (List.mem_of_getElem? hi)
  · rw [own_eq_parts, own_eq_parts, hparts]
    exact perm_flatten_set hi [S.addr u]

/-- The last interface grows, and so does the device info. -/
theorem grown_info {h' : Memory ι} {added : List ι} {t : InfoNode ι} {l : List (StreamNode ι)}
    {s s' : StreamNode ι} (ht : infoShape.In h { t with streams := l ++ [s] })
    (hnodup : (infoShape.cells { t with streams := l ++ [s] }).Nodup)
    (hg : Grown streamShape added h h' s s') :
    Grown infoShape added h h' { t with streams := l ++ [s] } { t with streams := l ++ [s'] } := by
  have hnd := (List.nodup_cons.1 hnodup).2
  have haddr : s'.addr = s.addr := hg.addr
  have hmap : (l ++ [s']).map StreamNode.addr = (l ++ [s]).map StreamNode.addr := by
    simp only [List.map_append, List.map_cons, List.map_nil, haddr]
  have hperm := List.perm_iff_count.1 (hg.footprint_perm l [])
  obtain ⟨hself, hi, hsel, hp, hx, hst, hcfg⟩ := ht
  refine Grown.lift (P := infoShape) hg ⟨hself, hi, hsel, hp, hx, hst, hcfg⟩ hnodup hst
    (((List.sublist_append_right _ _).trans (List.sublist_append_left _ _)).trans
      (List.sublist_append_right _ _)) rfl ?_ fun hl hsame hkept => ?_
  · rw [List.perm_iff_count]
    intro b
    have hb := hperm b
    simp only [infoShape, InfoNode.freed, List.count_append] at hb ⊢
    omega
  · have hothers := fun j q hne hj => part_kept (i := 4) (j := j) (q := q) hnd rfl hkept hne hj
    refine ⟨?_, hi.leaf_congr (hothers 1 _ (by decide) rfl),
      hsel.leaf_congr (hothers 0 _ (by decide) rfl), hp.leaf_congr (hothers 2 _ (by decide) rfl),
      hx.leaf_congr (hothers 3 _ (by decide) rfl), hl, hcfg.congr (hothers 5 _ (by decide) rfl)⟩
    show h'.Holds t.addr _
    rw [Heap.Holds, show h' t.addr = h t.addr from hsame, hmap]
    exact hself

/-- **One VideoControl block.** -/
theorem VcOp.exec_ok (op : VcOp ι) (t : InfoNode ι) (ht : infoShape.In h t)
    (hnodup : (infoShape.cells t).Nodup) (hordered : op.Ordered)
    (hfresh : ∀ b ∈ op.cells, h b = none) (hnd : op.cells.Nodup) :
    ∃ h', op.exec t.addr h = .ok h' ∧ Grown infoShape op.cells h h' t (op.apply t) := by
  have hin := ht
  obtain ⟨hself, hi, hsel, hp, hx, hst, hcfg⟩ := ht
  cases op with
  | inputTerminal addr =>
    refine info_appendNew (S := leaf (.inputTerminal : Block ι)) (u := addr) 1 hin hnodup
      (hfresh addr List.mem_cons_self) rfl (fun g hg => hg) hself (by simp [inputTermDescs]) hi
      (by rw [footprint_leaf]; rfl) rfl (by rw [footprint_leaf]; rfl)
      fun g hl hg hothers => ⟨?_, hl, hsel.leaf_congr (hothers 0 _ (by decide) rfl),
        hp.leaf_congr (hothers 2 _ (by decide) rfl), hx.leaf_congr (hothers 3 _ (by decide) rfl),
        hst.congr (hothers 4 _ (by decide) rfl), hcfg.congr (hothers 5 _ (by decide) rfl)⟩
    rw [map_leaf_addr] at hg
    exact hg
  | processingUnit addr =>
    refine info_appendNew (S := leaf (.processingUnit : Block ι)) (u := addr) 2 hin hnodup
      (hfresh addr List.mem_cons_self) rfl (fun g hg => hg) hself (by simp [processingUnitDescs]) hp
      (by rw [footprint_leaf]; rfl) rfl (by rw [footprint_leaf]; rfl)
      fun g hl hg hothers => ⟨?_, hi.leaf_congr (hothers 1 _ (by decide) rfl),
        hsel.leaf_congr (hothers 0 _ (by decide) rfl), hl,
        hx.leaf_congr (hothers 3 _ (by decide) rfl), hst.congr (hothers 4 _ (by decide) rfl),
        hcfg.congr (hothers 5 _ (by decide) rfl)⟩
    rw [map_leaf_addr] at hg
    exact hg
  | selectorUnit addr =>
    refine info_appendNew (S := leaf (.selectorUnit : Block ι)) (u := addr) 0 hin hnodup
      (hfresh addr List.mem_cons_self) rfl (fun g hg => hg) hself (by simp [selectorUnitDescs]) hsel
      (by rw [footprint_leaf]; rfl) rfl (by rw [footprint_leaf]; rfl)
      fun g hl hg hothers => ⟨?_, hi.leaf_congr (hothers 1 _ (by decide) rfl), hl,
        hp.leaf_congr (hothers 2 _ (by decide) rfl), hx.leaf_congr (hothers 3 _ (by decide) rfl),
        hst.congr (hothers 4 _ (by decide) rfl), hcfg.congr (hothers 5 _ (by decide) rfl)⟩
    rw [map_leaf_addr] at hg
    exact hg
  | extensionUnit addr =>
    refine info_appendNew (S := leaf (.extensionUnit : Block ι)) (u := addr) 3 hin hnodup
      (hfresh addr List.mem_cons_self) rfl (fun g hg => hg) hself (by simp [extensionUnitDescs]) hx
      (by rw [footprint_leaf]; rfl) rfl (by rw [footprint_leaf]; rfl)
      fun g hl hg hothers => ⟨?_, hi.leaf_congr (hothers 1 _ (by decide) rfl),
        hsel.leaf_congr (hothers 0 _ (by decide) rfl),
        hp.leaf_congr (hothers 2 _ (by decide) rfl), hl, hst.congr (hothers 4 _ (by decide) rfl),
        hcfg.congr (hothers 5 _ (by decide) rfl)⟩
    rw [map_leaf_addr] at hg
    exact hg
  | scanStreaming addr blocks =>
    obtain ⟨hnot, hndb⟩ := List.nodup_cons.1 hnd
    -- the interface is allocated and put into the list
    obtain ⟨h₁, hrun₁, hg₁⟩ : ∃ h', appendNew streamIfs (.streamingInterface none) t.addr addr h =
        .ok h' ∧ Grown infoShape [addr] h h' t { t with streams := t.streams ++ [⟨addr, []⟩] } :=
      info_appendNew (S := streamShape) (u := ⟨addr, []⟩) 4 hin hnodup
        (hfresh addr List.mem_cons_self) rfl (fun g hg => ⟨hg, Listed.nil g⟩) hself rfl hst rfl rfl
        (by rw [InfoNode.parts, footprint_append]; rfl)
        fun g hl hg hothers => ⟨hg, hi.leaf_congr (hothers 1 _ (by decide) rfl),
          hsel.leaf_congr (hothers 0 _ (by decide) rfl),
          hp.leaf_congr (hothers 2 _ (by decide) rfl), hx.leaf_congr (hothers 3 _ (by decide) rfl),
          hl, hcfg.congr (hothers 5 _ (by decide) rfl)⟩
    -- its blocks are parsed
    have hlast : streamShape.In h₁ ⟨addr, []⟩ := hg₁.there.2.2.2.2.2.1.each _ (by simp)
    obtain ⟨h₂, hrun₂, hg₂⟩ := blocks_ok hlast hordered (fun b hb => hg₁.still_fresh hin
      (hfresh b (List.mem_cons_of_mem _ hb))
      fun hmem => hnot (List.mem_singleton.1 hmem ▸ hb)) hndb
    have hg₂' := grown_info (t := t) hg₁.there (hg₁.nodup_cells hin hnodup) hg₂
    refine ⟨h₂, ?_, (hg₁.trans hg₂').perm List.perm_append_comm⟩
    show (appendNew streamIfs (.streamingInterface none) t.addr addr h >>= _) = _
    rw [hrun₁]
    exact hrun₂

/-- The tree that the parser has built. -/
def parsed (info config : ι) (ops : List (VcOp ι)) : InfoNode ι :=
  ops.foldl (fun t op => op.apply t) ⟨info, [], [], [], [], [], some config⟩

/-- **The whole run of the parser.** -/
theorem getDeviceInfo_ok {info config : ι} {ops : List (VcOp ι)}
    (hfresh : ∀ b ∈ info :: config :: ops.flatMap VcOp.cells, h b = none)
    (hnodup : (info :: config :: ops.flatMap VcOp.cells).Nodup)
    (hordered : ∀ op ∈ ops, op.Ordered) :
    ∃ h', getDeviceInfo info config ops h = .ok h' ∧ Made infoShape h h' (parsed info config ops) ∧
      (parsed info config ops).addr = info ∧
      (infoShape.own (parsed info config ops)).Perm (config :: ops.flatMap VcOp.cells) := by
  obtain ⟨hnot, hnd⟩ := List.nodup_cons.1 hnodup
  obtain ⟨hcfg, hnd⟩ := List.nodup_cons.1 hnd
  obtain ⟨h₁, hrun₁, hmade⟩ := exists_made (S := infoShape) (t := ⟨info, [], [], [], [], [], none⟩)
    (v := .deviceInfo none none none none none none) (hfresh info List.mem_cons_self) rfl
    fun g hg => ⟨holds_of_eq hg, Listed.nil g, Listed.nil g, Listed.nil g, Listed.nil g,
      Listed.nil g, fun b hb => absurd hb List.not_mem_nil⟩
  have hlater : ∀ b ∈ config :: ops.flatMap VcOp.cells, h₁ b = none := by
    intro b hb
    have hne : b ≠ info := fun heq => hnot (heq ▸ hb)
    rw [hmade.others b fun hmem => hne (List.mem_singleton.1 hmem)]
    exact hfresh b (List.mem_cons_of_mem _ hb)
  -- libusb's configuration
  obtain ⟨h₂, hrun₂, hg₂⟩ := attachIf_ok Block.setConfig (S := infoShape)
    (p := some config) ⟨info, [], [], [], [], [], some config⟩ hmade.there
    hmade.there.1 (fun b hb => hlater b (List.mem_cons.2 (.inl (List.mem_singleton.1 hb))))
    (fun heq => absurd heq (by simp)) rfl (List.Perm.refl _) fun g hself hbytes _ =>
      ⟨hself, Listed.nil g, Listed.nil g, Listed.nil g, Listed.nil g, Listed.nil g, hbytes⟩
  -- the blocks
  obtain ⟨h₃, hrun₃, hg₃⟩ := Grown.run (S := infoShape) (fun a op => op.exec a)
    VcOp.cells VcOp.apply (I := fun ops _ => ∀ op ∈ ops, op.Ordered)
    (fun op ops h t ht hnodup hi hfresh hnd =>
      ⟨fun op' hop' => hi op' (List.mem_cons_of_mem _ hop'),
        op.exec_ok t ht hnodup (hi op List.mem_cons_self) hfresh hnd⟩) ops hg₂.there
    (hg₂.nodup_cells hmade.there hmade.nodup) hordered
    (fun b hb => hg₂.still_fresh hmade.there (hlater b (List.mem_cons_of_mem _ hb))
      fun hmem => hcfg (List.mem_singleton.1 hmem ▸ hb)) hnd
  refine ⟨h₃, ?_, (hmade.grow hg₂).grow hg₃, hg₃.addr,
    hg₃.own.trans List.perm_append_comm⟩
  rw [getDeviceInfo, show h.alloc info _ = .ok h₁ from hrun₁]
  show (attachIf Block.setConfig info (some config) h₁ >>= _) = _
  rw [show attachIf Block.setConfig info (some config) h₁ = .ok h₂ from hrun₂]
  exact hrun₃

omit [DecidableEq ι] in
theorem foldl_apply_selectors (ops : List (VcOp ι)) : ∀ t : InfoNode ι,
    (ops.foldl (fun t op => op.apply t) t).selectors =
      t.selectors ++ ops.filterMap VcOp.selector? := by
  induction ops with
  | nil => exact fun t => (List.append_nil _).symm
  | cons op ops ih =>
    intro t
    rw [List.foldl_cons, ih]
    cases op with
    | selectorUnit addr => exact List.append_assoc ..
    | _ => rfl

/-- **What the parser has allocated is given back by `uvc_free_device_info`, but for the selector
units.**  `ops` are the descriptors of any device, up to any point that the parser may stop at, and
all addresses are such as an allocator hands out. -/
theorem parsed_and_freed {info config : ι} {ops : List (VcOp ι)}
    (hfresh : ∀ b ∈ info :: config :: ops.flatMap VcOp.cells, h b = none)
    (hnodup : (info :: config :: ops.flatMap VcOp.cells).Nodup)
    (hordered : ∀ op ∈ ops, op.Ordered) {n : Nat} (hn : (ops.flatMap VcOp.cells).length < n) :
    ∃ h₁ h₂, getDeviceInfo info config ops h = .ok h₁ ∧ uvcFreeDeviceInfo n info h₁ = .ok h₂ ∧
      (∀ b, b ∉ ops.filterMap VcOp.selector? → h₂ b = h b) ∧
      ∀ b ∈ ops.filterMap VcOp.selector?, h₂.Holds b .selectorUnit := by
  obtain ⟨h₁, hrun₁, hmade, haddr, hown⟩ := getDeviceInfo_ok hfresh hnodup hordered
  have hsel : (parsed info config ops).selectors = ops.filterMap VcOp.selector? :=
    foldl_apply_selectors ops _
  obtain ⟨hnot, hnd⟩ := List.nodup_cons.1 hmade.nodup
  have hndown : ((parsed info config ops).selectors ++ (parsed info config ops).freed).Nodup := hnd
  have hlen : (parsed info config ops).freed.length ≤ n := by
    have htotal : ((parsed info config ops).selectors ++ (parsed info config ops).freed).length =
        (ops.flatMap VcOp.cells).length + 1 := hown.length_eq
    rw [List.length_append] at htotal
    omega
  obtain ⟨h₂, hrun₂, hinfo, hgone, hkept⟩ := uvcFreeDeviceInfo_ok hmade.there hmade.nodup hlen
  rw [haddr] at hrun₂ hinfo hkept
  rw [show infoShape.addr (parsed info config ops) = info from haddr] at hnot
  rw [← hsel]
  refine ⟨h₁, h₂, hrun₁, hrun₂, fun b hb => ?_, fun b hb => ?_⟩
  · by_cases hbi : b = info
    · rw [hbi, hinfo, hfresh info List.mem_cons_self]
    · by_cases hbf : b ∈ (parsed info config ops).freed
      · rw [hgone b hbf, hmade.fresh b (List.mem_cons_of_mem _ (List.mem_append_right _ hbf))]
      · rw [hkept b hbi hbf, hmade.others b fun hmem => ?_]
        rcases List.mem_cons.1 hmem with heq | hmem
        · exact hbi (heq.trans haddr)
        · exact (List.mem_append.1 hmem).elim hb hbf
  · have hbi : b ≠ info := by
      intro heq
      rw [heq] at hb
      exact hnot (List.mem_append_left _ hb)
    have hbf : b ∉ (parsed info config ops).freed := fun hbf =>
      (List.nodup_append.1 hndown).2.2 b hb b hbf rfl
    rw [Heap.Holds, hkept b hbi hbf]
    exact hmade.there.2.2.1.each b hb

end Growing

/-- A camera with a terminal, a selector unit and one interface with a format, a frame and a still
frame. -/
theorem parsed_and_freed_camera :
    ∃ h₁ h₂ : Memory Nat, getDeviceInfo 0 1 [.inputTerminal 2, .selectorUnit 3, .scanStreaming 4
        [.format 5, .frame 6 (some 7), .stillFrame 8 [9, 10] (some 11)]] (fun _ => none) = .ok h₁ ∧
      uvcFreeDeviceInfo 11 0 h₁ = .ok h₂ ∧ (∀ b, b ∉ [3] → h₂ b = none) ∧
      ∀ b ∈ [3], h₂.Holds b .selectorUnit :=
  parsed_and_freed (fun _ _ => rfl) (by decide)
    (by
      intro op hop
      simp only [List.mem_cons, List.not_mem_nil, or_false] at hop
      rcases hop with rfl | rfl | rfl
      · trivial
      · trivial
      · intro first hfirst
        obtain rfl := Option.some.inj hfirst
        trivial)
    (by decide)

end Cells
end Descriptor
end LibUvc
