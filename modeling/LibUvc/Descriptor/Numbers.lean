import Mathlib.Data.List.Forall2
import LibUvc.Descriptor.Growth

/-!
# Interface numbers and positions

A configuration descriptor is an array of interfaces, and each of them also has a number.  The two
need not agree, and the library does not keep them apart: `uvc_scan_control` finds the VideoControl
interface by its position and records the position as its number; a VideoControl header names
streaming interfaces by bytes that `uvc_scan_streaming` takes for positions, and records the number
it finds there; `uvc_stream_start` takes that number for a position again, and the claim masks take
it for a bit.

`numbers_are_positions_iff` says on which configurations all this refers to the interface that was
scanned: those where the VideoControl interface and the interfaces its headers name have the number
of their position.  To say so the streaming interfaces of the tree are traced back to where they
came from (`ParsedFrom`, `scanControl_parsedFrom`).
-/

set_option autoImplicit false

namespace LibUvc
namespace Descriptor

open Checked Scan

/-! ## Where the streaming interfaces come from -/

/-- The first alternate setting of the interface at a position. -/
def firstSetting (config : ConfigDescriptor) (position : Nat) : Option InterfaceDescriptor :=
  config.interface[position]?.bind (·.altsetting[0]?)

/-- The streaming interface was parsed from the descriptors at a position. -/
def ParsedFrom (config : ConfigDescriptor) (position : Nat) (streamIf : StreamingInterface) :
    Prop :=
  ∃ ifDesc, firstSetting config position = some ifDesc ∧
    scan 3 Ret.errorInvalidDevice (fun s b => parseVs s b.bytes b.size)
      { bInterfaceNumber := ifDesc.bInterfaceNumber } ifDesc.extra = .ok (0, streamIf)

/-- The positions that a VideoControl block names, if it is a header. -/
def namedByBlock (block : List UInt8) : List Nat :=
  if byteAt block 1 = 36 ∧ VcSubtype.ofByte (byteAt block 2) = .header then namedStreams block
  else []

/-- The positions that the blocks of a VideoControl interface name. -/
def namedInterfaces (extra : List UInt8) : List Nat := (split 3 extra).1.flatMap namedByBlock

/-- What a scan adds to the tree: streaming interfaces parsed from these positions.  The number of
the control interface stays. -/
def Adds (config : ConfigDescriptor) (positions : List Nat) (info info' : DeviceInfo) : Prop :=
  info'.ctrlIf.bInterfaceNumber = info.ctrlIf.bInterfaceNumber ∧
    ∃ new, info'.streamIfs = info.streamIfs ++ new ∧
      List.Forall₂ (ParsedFrom config) positions new

theorem Adds.nil {config : ConfigDescriptor} {info info' : DeviceInfo}
    (hnum : info'.ctrlIf.bInterfaceNumber = info.ctrlIf.bInterfaceNumber)
    (hsame : info'.streamIfs = info.streamIfs) : Adds config [] info info' :=
  ⟨hnum, [], by rw [hsame, List.append_nil], .nil⟩

theorem Adds.append {config : ConfigDescriptor} {ps qs : List Nat} {info info' info'' : DeviceInfo}
    (h : Adds config ps info info') (h' : Adds config qs info' info'') :
    Adds config (ps ++ qs) info info'' := by
  obtain ⟨hnum, new, hnew, hfrom⟩ := h
  obtain ⟨hnum', new', hnew', hfrom'⟩ := h'
  exact ⟨hnum'.trans hnum, new ++ new', by rw [hnew', hnew, List.append_assoc],
    List.rel_append hfrom hfrom'⟩

theorem scanStreaming_eq {config : ConfigDescriptor} {interfaceIdx : Nat}
    {ifDesc : InterfaceDescriptor} (h : firstSetting config interfaceIdx = some ifDesc)
    (info : DeviceInfo) :
    scanStreaming config info interfaceIdx = do
      let (ret, streamIf) ← scan 3 Ret.errorInvalidDevice (fun s b => parseVs s b.bytes b.size)
        { bInterfaceNumber := ifDesc.bInterfaceNumber } ifDesc.extra
      return (ret, { info with streamIfs := info.streamIfs ++ [streamIf] }) := by
  obtain ⟨interface, hinterface, halt⟩ := Option.bind_eq_some_iff.1 h
  have hlt := (List.getElem?_eq_some_iff.1 hinterface).1
  have hsome := (List.getElem?_eq_some_iff.1 halt).1
  rw [scanStreaming, scanStreamingIn, if_neg (by omega), readAt_eq hinterface, ok_bind,
    if_neg (by omega), readAt_eq halt, ok_bind]
  rfl

/-- A streaming interface that is accepted is added to the others. -/
theorem scanStreaming_eq_success_iff {config : ConfigDescriptor} {info info' : DeviceInfo}
    {position : Nat} :
    scanStreaming config info position = .ok (0, info') ↔
      ∃ streamIf, ParsedFrom config position streamIf ∧
        info' = { info with streamIfs := info.streamIfs ++ [streamIf] } := by
  rcases hfirst : firstSetting config position with _ | ifDesc
  · have hnone : streamExtra config position = none :=
      congrArg (Option.map InterfaceDescriptor.extra) hfirst
    rw [scanStreaming, scanStreaming_none info hnone]
    refine iff_of_false (fun h => Ret.errorInvalidDevice_ne (Prod.mk.inj (Except.ok.inj h)).1) ?_
    rintro ⟨streamIf, ⟨ifDesc, hsome, -⟩, -⟩
    rw [hfirst] at hsome
    cases hsome
  · rw [scanStreaming_eq hfirst, bind_eq_ok]
    constructor
    · rintro ⟨⟨ret, streamIf⟩, hscan, h⟩
      obtain ⟨rfl, rfl⟩ := Prod.mk.inj (Except.ok.inj h)
      exact ⟨streamIf, ⟨ifDesc, hfirst, hscan⟩, rfl⟩
    · rintro ⟨streamIf, ⟨ifDesc', hfirst', hscan⟩, rfl⟩
      obtain rfl := Option.some.inj (hfirst.symm.trans hfirst')
      exact ⟨(0, streamIf), hscan, rfl⟩

/-- The loop over the interfaces that a header names. -/
theorem forEach_scanStreaming_iff {config : ConfigDescriptor} {info info' : DeviceInfo}
    {positions : List Nat} :
    forEach (scanStreaming config) info positions = .ok (0, info') ↔
      ∃ new, List.Forall₂ (ParsedFrom config) positions new ∧
        info' = { info with streamIfs := info.streamIfs ++ new } := by
  induction positions generalizing info with
  | nil =>
    constructor
    · intro h
      obtain ⟨-, rfl⟩ := Prod.mk.inj (Except.ok.inj h)
      exact ⟨[], .nil, by rw [List.append_nil]⟩
    · rintro ⟨new, hfrom, rfl⟩
      obtain rfl := List.forall₂_nil_left_iff.1 hfrom
      rw [List.append_nil]
      rfl
  | cons position rest ih =>
    rw [forEach_cons_eq_success]
    constructor
    · rintro ⟨mid, hfirst, hrest⟩
      obtain ⟨streamIf, hparsed, rfl⟩ := scanStreaming_eq_success_iff.1 hfirst
      obtain ⟨new, hfrom, rfl⟩ := ih.1 hrest
      exact ⟨streamIf :: new, .cons hparsed hfrom, by simp⟩
    · rintro ⟨new, hfrom, rfl⟩
      obtain ⟨streamIf, new, hparsed, hrest, rfl⟩ := List.forall₂_cons_left_iff.1 hfrom
      exact ⟨_, scanStreaming_eq_success_iff.2 ⟨streamIf, hparsed, rfl⟩,
        ih.2 ⟨new, hrest, by simp⟩⟩

/-- A header block that is accepted. -/
theorem parseVcHeader_adds {config : ConfigDescriptor} {info info' : DeviceInfo} {b : Block}
    (h : parseVcHeader .extra config info b.bytes b.size = .ok (0, info')) :
    Adds config (namedStreams b.own) info info' := by
  rw [parseVcHeader, bind_eq_ok] at h
  obtain ⟨bcdUVC, -, h⟩ := h
  simp only [] at h
  split at h
  · obtain ⟨clock, -, h⟩ := bind_eq_ok.1 h
    rw [forEach_scanNamed _ _ b.fits] at h
    obtain ⟨new, hfrom, rfl⟩ := forEach_scanStreaming_iff.1 h
    exact ⟨rfl, new, rfl, hfrom⟩
  · exact absurd (congrArg Prod.fst (Except.ok.inj h)) Ret.errorNotSupported_ne

/-- A unit or terminal goes into the control interface. -/
def KeepsStreams (info : DeviceInfo) (p : Ret × DeviceInfo) : Prop :=
  p.2.ctrlIf.bInterfaceNumber = info.ctrlIf.bInterfaceNumber ∧ p.2.streamIfs = info.streamIfs

theorem parseVcInputTerminal_keeps (info : DeviceInfo) (block : List UInt8) :
    Post (parseVcInputTerminal info block) (KeepsStreams info) := by
  refine post_bind fun _ _ => ?_
  split
  · exact post_pure ⟨rfl, rfl⟩
  · refine post_bind fun _ _ => post_bind fun _ _ => post_bind fun _ _ => post_bind fun _ _ => ?_
    refine post_bind fun _ _ => post_bind fun _ _ => post_bind fun _ _ => ?_
    exact post_pure ⟨rfl, rfl⟩

theorem parseVcProcessingUnit_keeps (info : DeviceInfo) (block : List UInt8) :
    Post (parseVcProcessingUnit info block) (KeepsStreams info) := by
  refine post_bind fun _ _ => post_bind fun _ _ => post_bind fun _ _ => post_bind fun _ _ => ?_
  exact post_pure ⟨rfl, rfl⟩

theorem parseVcSelectorUnit_keeps (info : DeviceInfo) (block : List UInt8) :
    Post (parseVcSelectorUnit info block) (KeepsStreams info) :=
  post_bind fun _ _ => post_pure ⟨rfl, rfl⟩

theorem parseVcExtensionUnit_keeps (info : DeviceInfo) (block : List UInt8) :
    Post (parseVcExtensionUnit info block) (KeepsStreams info) := by
  refine post_bind fun _ _ => post_bind fun _ _ => post_bind fun _ _ => post_bind fun _ _ => ?_
  exact post_bind fun _ _ => post_pure ⟨rfl, rfl⟩

/-- **One VideoControl block.**  A header is left to its parser.  Any other block leaves the
streaming interfaces alone, and the configuration is not looked at. -/
theorem parseVc_cases {config : ConfigDescriptor} {info : DeviceInfo} {b : Block}
    (hthree : 3 ≤ b.size) {p : Ret × DeviceInfo}
    (h : parseVc .extra config info b.bytes b.size = .ok p) :
    (namedByBlock b.own = namedStreams b.own ∧ ∀ config',
      parseVc .extra config' info b.bytes b.size =
        parseVcHeader .extra config' info b.bytes b.size) ∨
    (namedByBlock b.own = [] ∧ KeepsStreams info p ∧
      ∀ config', parseVc .extra config' info b.bytes b.size = .ok p) := by
  have hone : byteAt b.own 1 = byteAt b.bytes 1 := b.byteAt_own (by omega)
  have htwo : byteAt b.own 2 = byteAt b.bytes 2 := b.byteAt_own (by omega)
  rw [namedByBlock, hone, htwo]
  obtain ⟨hone, hbody⟩ := bind_readByte_eq_ok.1 h
  split at hbody
  · rename_i htype
    refine Or.inr ⟨if_neg fun hn => htype hn.1, Except.ok.inj hbody ▸ ⟨rfl, rfl⟩, fun config' => ?_⟩
    rw [parseVc, readByte_eq hone, ok_bind, if_pos htype]
    exact hbody
  · rename_i htype
    obtain ⟨htwo, hbody⟩ := bind_readByte_eq_ok.1 hbody
    by_cases hcode : VcSubtype.ofByte (byteAt b.bytes 2) = .header
    · refine Or.inl ⟨if_pos ⟨not_not.1 htype, hcode⟩, fun config' => ?_⟩
      rw [parseVc, readByte_eq hone, ok_bind, if_neg htype, readByte_eq htwo, ok_bind, hcode]
    · have hkeeps : KeepsStreams info p := by
        cases hother : VcSubtype.ofByte (byteAt b.bytes 2) with
        | header => exact absurd hother hcode
        | inputTerminal => exact parseVcInputTerminal_keeps info _ p (by rwa [hother] at hbody)
        | selectorUnit => exact parseVcSelectorUnit_keeps info _ p (by rwa [hother] at hbody)
        | processingUnit => exact parseVcProcessingUnit_keeps info _ p (by rwa [hother] at hbody)
        | extensionUnit => exact parseVcExtensionUnit_keeps info _ p (by rwa [hother] at hbody)
        | outputTerminal | other =>
          rw [hother] at hbody
          exact Except.ok.inj hbody ▸ ⟨rfl, rfl⟩
      refine Or.inr ⟨if_neg fun hn => hcode hn.2, hkeeps, fun config' => ?_⟩
      rw [parseVc, readByte_eq hone, ok_bind, if_neg htype, readByte_eq htwo, ok_bind, ← hbody]
      split
      · contradiction
      all_goals rfl

/-- A block that is accepted adds the interfaces that it names. -/
theorem parseVc_adds {config : ConfigDescriptor} {info info' : DeviceInfo} {b : Block}
    (hthree : 3 ≤ b.size) (h : parseVc .extra config info b.bytes b.size = .ok (0, info')) :
    Adds config (namedByBlock b.own) info info' := by
  rcases parseVc_cases hthree h with ⟨hnamed, hheader⟩ | ⟨hnamed, hkeeps, -⟩
  · rw [hnamed]
    exact parseVcHeader_adds ((hheader config).symm.trans h)
  · rw [hnamed]
    exact .nil hkeeps.1 hkeeps.2

/-- **The blocks of a VideoControl interface** that is accepted. -/
theorem scan_parseVc_adds {config : ConfigDescriptor} {info info' : DeviceInfo}
    {extra : List UInt8}
    (h : scan 3 Ret.errorInvalidDevice
      (fun info b => parseVc .extra config info b.bytes b.size) info extra = .ok (0, info')) :
    Adds config (namedInterfaces extra) info info' := by
  obtain ⟨hblocks, -⟩ := (scan_eq_success (by omega) Ret.errorInvalidDevice_ne).1 h
  have hthree : ∀ b ∈ placed (split 3 extra).1 [], 3 ≤ b.size := fun b hb =>
    (isBlock_of_mem_placed ((chain_iff (by omega)).2 rfl).isBlock hb).1
  clear h
  rw [namedInterfaces, ← map_own_placed (split 3 extra).1 [], List.flatMap_map]
  generalize placed (split 3 extra).1 [] = blocks at hblocks hthree
  induction blocks generalizing info with
  | nil =>
    obtain ⟨-, rfl⟩ := Prod.mk.inj (Except.ok.inj hblocks)
    exact .nil rfl rfl
  | cons b rest ih =>
    obtain ⟨hb, hthree⟩ := List.forall_mem_cons.1 hthree
    obtain ⟨mid, hfirst, hrest⟩ := forEach_cons_eq_success.1 hblocks
    exact (parseVc_adds hb hfirst).append (ih hrest hthree)

/-! ## The number of a streaming interface -/

/-- A parser leaves the number of its streaming interface alone. -/
def KeepsNumber (n : UInt8) (x : Checked (Ret × StreamingInterface)) : Prop :=
  Post x fun p => p.2.bInterfaceNumber = n

theorem VsEffect.number {block : List UInt8} {s t : StreamingInterface} {r : Ret}
    (h : VsEffect block s r t) : t.bInterfaceNumber = s.bInterfaceNumber := by
  cases h with
  | ignored | header | format | frame | still | refused => rfl

theorem parseVs_keepsNumber (streamIf : StreamingInterface) (block : List UInt8) (size : Nat) :
    KeepsNumber streamIf.bInterfaceNumber (parseVs streamIf block size) :=
  fun p hp => (parseVs_effect streamIf block size p hp).number

/-- A streaming interface has the number that its first setting has. -/
theorem ParsedFrom.number {config : ConfigDescriptor} {position : Nat}
    {streamIf : StreamingInterface} (h : ParsedFrom config position streamIf) :
    ∃ ifDesc, firstSetting config position = some ifDesc ∧
      streamIf.bInterfaceNumber = ifDesc.bInterfaceNumber := by
  obtain ⟨ifDesc, hfirst, hscan⟩ := h
  refine ⟨ifDesc, hfirst, ?_⟩
  exact post_scan (I := fun s => s.bInterfaceNumber = ifDesc.bInterfaceNumber) (by omega)
    (fun s b hs p hp => (parseVs_keepsNumber s b.bytes b.size p hp).trans hs) _ rfl _ hscan

/-! ## The scan -/

/-- The interface that the search finds is one of those it goes through. -/
theorem findControl_eq_some {tis : Bool} {interfaces : List Interface} {idx position : Nat}
    {ifDesc : InterfaceDescriptor}
    (h : findControl tis idx interfaces = .ok (some (position, ifDesc))) :
    ∃ interface, idx ≤ position ∧ interfaces[position - idx]? = some interface ∧
      interface.altsetting[0]? = some ifDesc := by
  induction interfaces generalizing idx with
  | nil => exact absurd (Except.ok.inj h) (by simp)
  | cons interface rest ih =>
    obtain ⟨d, hd, h⟩ := bind_eq_ok.1 h
    split at h
    · obtain ⟨rfl, rfl⟩ := Prod.mk.inj (Option.some.inj (Except.ok.inj h))
      refine ⟨interface, le_refl _, by simp, ?_⟩
      cases halt : interface.altsetting[0]? with
      | none => simp [readAt, halt] at hd
      | some d' => simpa [readAt, halt] using hd
    · obtain ⟨found, hle, hfound, halt⟩ := ih h
      refine ⟨found, by omega, ?_, halt⟩
      rw [show position - idx = position - (idx + 1) + 1 by omega, List.getElem?_cons_succ,
        hfound]

/-- The VideoControl interface is where `findControl` says. -/
theorem firstSetting_of_findControl {config : ConfigDescriptor} {tis : Bool} {position : Nat}
    {ifDesc : InterfaceDescriptor}
    (h : findControl tis 0 config.interface = .ok (some (position, ifDesc))) :
    firstSetting config position = some ifDesc ∧ position < config.interface.length := by
  obtain ⟨interface, -, hinterface, halt⟩ := findControl_eq_some h
  rw [Nat.sub_zero] at hinterface
  exact ⟨by rw [firstSetting, hinterface, Option.bind_some, halt],
    (List.getElem?_eq_some_iff.1 hinterface).1⟩

/-- **What a successful scan leaves**: the position of the VideoControl interface as its number, and
one streaming interface for each position that a header names. -/
theorem scanControl_parsedFrom {devDesc : Option DeviceDescriptor} {config : ConfigDescriptor}
    {info : DeviceInfo} (h : scanControl devDesc config {} = .ok (0, info)) :
    ∃ position ifDesc,
      findControl (haveTISCamera devDesc) 0 config.interface = .ok (some (position, ifDesc)) ∧
      info.ctrlIf.bInterfaceNumber = UInt8.ofNat position ∧
      List.Forall₂ (ParsedFrom config) (namedInterfaces ifDesc.extra) info.streamIfs := by
  rw [scanControl, scanControlIn, bind_eq_ok] at h
  obtain ⟨found, hfound, h⟩ := h
  cases found with
  | none => exact absurd (congrArg Prod.fst (Except.ok.inj h)) Ret.errorInvalidDevice_ne
  | some control =>
    obtain ⟨position, ifDesc⟩ := control
    obtain ⟨hnum, new, hnew, hfrom⟩ := scan_parseVc_adds h
    exact ⟨position, ifDesc, hfound, hnum, hnew ▸ hfrom⟩

/-- The tree refers to interfaces by numbers that are their positions: the control interface has the
number of the interface it was parsed from, and the number of each streaming interface is a position
of the configuration, that of the interface it was parsed from. -/
def RefersByPosition (config : ConfigDescriptor) (ifDesc : InterfaceDescriptor)
    (info : DeviceInfo) : Prop :=
  info.ctrlIf.bInterfaceNumber = ifDesc.bInterfaceNumber ∧
    List.Forall₂ (fun position streamIf =>
      streamIf.bInterfaceNumber.toNat < config.interface.length ∧
        streamIf.bInterfaceNumber.toNat = position) (namedInterfaces ifDesc.extra) info.streamIfs

/-- The interfaces at these positions have the numbers of their positions. -/
def NumberedByPosition (config : ConfigDescriptor) (positions : List Nat) : Prop :=
  ∀ position ∈ positions, ∀ d, firstSetting config position = some d →
    d.bInterfaceNumber.toNat = position

theorem lt_length_of_firstSetting {config : ConfigDescriptor} {position : Nat}
    {d : InterfaceDescriptor} (h : firstSetting config position = some d) :
    position < config.interface.length := by
  obtain ⟨interface, hinterface, -⟩ := Option.bind_eq_some_iff.1 h
  exact (List.getElem?_eq_some_iff.1 hinterface).1

theorem forall₂_number_iff {config : ConfigDescriptor} {positions : List Nat}
    {streamIfs : List StreamingInterface}
    (h : List.Forall₂ (ParsedFrom config) positions streamIfs) :
    List.Forall₂ (fun position streamIf =>
      streamIf.bInterfaceNumber.toNat < config.interface.length ∧
        streamIf.bInterfaceNumber.toNat = position) positions streamIfs ↔
      NumberedByPosition config positions := by
  induction h with
  | nil => exact iff_of_true .nil fun _ hmem => absurd hmem (by simp)
  | @cons position streamIf positions streamIfs hfrom _ ih =>
    obtain ⟨ifDesc, hfirst, hnum⟩ := hfrom.number
    rw [List.forall₂_cons, ih, hnum, NumberedByPosition, NumberedByPosition]
    constructor
    · rintro ⟨⟨-, hpos⟩, hrest⟩ q hq d hd
      rcases List.mem_cons.1 hq with rfl | hq
      · obtain rfl := Option.some.inj (hfirst.symm.trans hd)
        exact hpos
      · exact hrest q hq d hd
    · intro hall
      have hpos := hall position List.mem_cons_self ifDesc hfirst
      exact ⟨⟨hpos ▸ lt_length_of_firstSetting hfirst, hpos⟩,
        fun q hq => hall q (List.mem_cons_of_mem _ hq)⟩

/-- **When numbers are positions.**  On a configuration of at most 32 interfaces that is scanned
successfully, the tree refers to the interfaces that were scanned if and only if the VideoControl
interface, and every interface that one of its headers names, has the number of its position. -/
theorem numbers_are_positions_iff (devDesc : Option DeviceDescriptor) (config : ConfigDescriptor)
    (info : DeviceInfo) (hlen : config.interface.length ≤ 32)
    (hscan : scanControl devDesc config {} = .ok (0, info)) :
    ∃ position ifDesc,
      findControl (haveTISCamera devDesc) 0 config.interface = .ok (some (position, ifDesc)) ∧
      List.Forall₂ (ParsedFrom config) (namedInterfaces ifDesc.extra) info.streamIfs ∧
      (RefersByPosition config ifDesc info ↔
        NumberedByPosition config (position :: namedInterfaces ifDesc.extra)) := by
  obtain ⟨position, ifDesc, hfound, hnum, hfrom⟩ := scanControl_parsedFrom hscan
  obtain ⟨hfirst, hlt⟩ := firstSetting_of_findControl hfound
  refine ⟨position, ifDesc, hfound, hfrom, ?_⟩
  have hcontrol : info.ctrlIf.bInterfaceNumber = ifDesc.bInterfaceNumber ↔
      ifDesc.bInterfaceNumber.toNat = position := by
    rw [hnum, ← UInt8.toNat_inj, UInt8.toNat_ofNat', Nat.mod_eq_of_lt (by omega)]
    exact eq_comm
  rw [RefersByPosition, hcontrol, forall₂_number_iff hfrom, NumberedByPosition,
    NumberedByPosition, List.forall_mem_cons]
  refine and_congr_left fun _ => ?_
  exact ⟨fun h d hd => Option.some.inj (hfirst.symm.trans hd) ▸ h, fun h => h ifDesc hfirst⟩

/-- A camera with a VideoControl interface at position 0, whose header names position 1, and a
streaming interface there, with these two numbers. -/
def cameraNumbered (control stream : UInt8) : ConfigDescriptor where
  interface := [
    { altsetting := [{
        bInterfaceNumber := control
        bInterfaceClass := 14
        bInterfaceSubClass := 1
        extra := [13, 36, 1, 0x00, 0x01, 13, 0, 0, 0, 0, 0, 1, 1] }] },
    { altsetting := [{
        bInterfaceNumber := stream
        bInterfaceClass := 14
        bInterfaceSubClass := 2 }] }]

/-- The tree of that camera. -/
def treeNumbered (stream : UInt8) : DeviceInfo where
  ctrlIf := { bcdUVC := 0x0100 }
  streamIfs := [{ bInterfaceNumber := stream }]

/-- A camera numbered in order. -/
theorem numbers_are_positions_in_order :
    scanControl none (cameraNumbered 0 1) {} = .ok (0, treeNumbered 1) ∧
      ∃ ifDesc, RefersByPosition (cameraNumbered 0 1) ifDesc (treeNumbered 1) := by
  have hscan : scanControl none (cameraNumbered 0 1) {} = .ok (0, treeNumbered 1) := by decide
  obtain ⟨position, ifDesc, hfound, -, hiff⟩ :=
    numbers_are_positions_iff none (cameraNumbered 0 1) (treeNumbered 1) (by decide) hscan
  obtain ⟨rfl, rfl⟩ := Prod.mk.inj (Option.some.inj (Except.ok.inj hfound))
  refine ⟨hscan, _, hiff.2 fun position hmem d hd => ?_⟩
  have hnamed : namedInterfaces [13, 36, 1, 0x00, 0x01, 13, 0, 0, 0, 0, 0, 1, 1] = [1] := by decide
  rw [hnamed] at hmem
  rcases List.mem_pair.1 hmem with rfl | rfl
  · obtain rfl := Option.some.inj hd
    rfl
  · obtain rfl := Option.some.inj hd
    rfl

/-- **Numbers that are not positions.**  The streaming interface has the number 5, which is no
position of the configuration, and the tree refers to it by that; or the VideoControl interface has
the number 3, and the tree refers to it as 0. -/
theorem numbers_out_of_place :
    scanControl none (cameraNumbered 0 5) {} = .ok (0, treeNumbered 5) ∧
      (cameraNumbered 0 5).interface[5]? = none ∧
      (∀ ifDesc, ¬ RefersByPosition (cameraNumbered 0 5) ifDesc (treeNumbered 5)) ∧
    scanControl none (cameraNumbered 3 1) {} = .ok (0, treeNumbered 1) ∧
      findControl false 0 (cameraNumbered 3 1).interface =
        .ok (some (0, (cameraNumbered 3 1).interface[0].altsetting[0])) ∧
      (treeNumbered 1).ctrlIf.bInterfaceNumber ≠
        ((cameraNumbered 3 1).interface[0].altsetting[0]).bInterfaceNumber := by
  refine ⟨by decide, rfl, fun ifDesc h => ?_, by decide, by decide, by decide⟩
  obtain ⟨-, hstreams⟩ := h
  generalize namedInterfaces ifDesc.extra = positions at hstreams
  cases hstreams with
  | cons h _ => exact absurd h.1 (by decide)

end Descriptor
end LibUvc
