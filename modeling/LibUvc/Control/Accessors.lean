import LibUvc.Foundation.CInt
import Mathlib.Data.List.Nodup
import Mathlib.Data.List.Pairwise

/-!
# The generated control accessors

`ctrl-gen.py` reads the layout of the unit and terminal controls and writes two C functions for
each: a setter that puts its arguments into a buffer and sends it, and a getter that receives a
buffer and takes the values out of it again.  Between them lies only the transfer, so that the
bodies are two short programs over the same buffer.

* `genCtrl` is the generator.  It turns a layout into the statements of the two bodies, in which the
  byte-order macros of `libuvc_internal.h` are expanded.
* `runPack` and `runUnpack` execute the statements as C does, with its conversions.
* `genCtrl_round_trip`: whatever layout the generator accepts, as long as the fields lie next to
  each other in the buffer, the getter takes out what the setter has put in.
-/

set_option autoImplicit false

namespace LibUvc
namespace Control

open Checked CInt

/-! ## Fields -/

/-- `IntField`, whose constructor has seen to its length. -/
structure IntField where
  name : String
  position : Nat
  length : Nat
  signed : Bool
  length_ok : length = 1 ∨ length = 2 ∨ length = 4

/-- `IntField.__init__`. -/
def IntField.init (name : String) (position length : Nat) (signed : Bool) :
    Except String IntField :=
  if h : length = 1 ∨ length = 2 ∨ length = 4 then .ok ⟨name, position, length, signed, h⟩
  else .error ("bad length " ++ toString length)

/-- The description of a field in the layout. -/
structure FieldSpec where
  type : String
  position : Nat
  length : Nat
  signed : Bool := false
  deriving DecidableEq, Repr

/-- `load_field`. -/
def loadField (name : String) (spec : FieldSpec) : Except String IntField :=
  if spec.type = "int" then IntField.init name spec.position spec.length spec.signed
  else .error ("unknown field type '" ++ spec.type ++ "'")

/-- The description of a control.  Its fields are a dictionary. -/
structure ControlSpec where
  length : Nat
  fields : List (String × FieldSpec)
  nodup : (fields.map Prod.fst).Nodup

/-! ## Statements -/

/-- A parameter of an accessor: `user_type name`, and `user_type* name` in the getter. -/
structure Param where
  name : String
  type : IntType
  deriving DecidableEq, Repr

/-- `data[position] = source;` -/
structure Store where
  position : Nat
  source : Expr Param
  deriving Repr

/-- `*target = source;`, where a variable of `source` is a byte of `data`. -/
structure Load where
  target : Param
  source : Expr Nat
  deriving Repr

/-- `SHORT_TO_SW(s, data + p);` -/
def shortToSw (s : Expr Param) (p : Nat) : List Store := [⟨p, s⟩, ⟨p + 1, .shr s 8⟩]

/-- `INT_TO_DW(i, data + p);` -/
def intToDw (i : Expr Param) (p : Nat) : List Store :=
  [⟨p, i⟩, ⟨p + 1, .shr i 8⟩, ⟨p + 2, .shr i 16⟩, ⟨p + 3, .shr i 24⟩]

/-- `SW_TO_SHORT(data + p)` -/
def swToShort (p : Nat) : Expr Nat := .or (.var p) (.shl (.var (p + 1)) 8)

/-- `DW_TO_INT(data + p)` -/
def dwToInt (p : Nat) : Expr Nat :=
  .or (.or (.or (.var p) (.shl (.var (p + 1)) 8)) (.shl (.var (p + 2)) 16))
    (.shl (.var (p + 3)) 24)

/-- `user_type`: `int8_t` to `uint32_t`. -/
def IntField.userType (field : IntField) : IntType := ⟨field.length * 8, field.signed⟩

/-- `setter_sig`, and `getter_sig` with a pointer. -/
def IntField.param (field : IntField) : Param := ⟨field.name, field.userType⟩

/-- `pack`. -/
def IntField.pack (field : IntField) : List Store :=
  if field.length = 1 then [⟨field.position, .var field.param⟩]
  else if field.length = 2 then shortToSw (.var field.param) field.position
  else intToDw (.var field.param) field.position

/-- `unpack`. -/
def IntField.unpack (field : IntField) : Load where
  target := field.param
  source :=
    if field.length = 1 then .var field.position
    else if field.length = 2 then swToShort field.position
    else dwToInt field.position

/-- What is written for a control: the parameters, and the bodies of the getter and the setter. -/
structure Accessors where
  params : List Param
  unpack : List Load
  pack : List Store

/-- The fields of a control, in the order of the layout. -/
def loadFields : List (String × FieldSpec) → Except String (List IntField)
  | [] => return []
  | (name, details) :: rest => do
    let field ← loadField name details
    let fields ← loadFields rest
    return field :: fields

/-- `gen_ctrl`. -/
def genCtrl (control : ControlSpec) : Except String Accessors := do
  let fields ← loadFields control.fields
  return {
    params := fields.map (·.param)
    unpack := fields.map (·.unpack)
    pack := fields.flatMap (·.pack) }

/-! ## Execution -/

/-- The body of the setter, on the buffer as it happens to be. -/
def runPack (args : String → Int) : List Store → List UInt8 → Checked (List UInt8)
  | [], data => return data
  | store :: rest, data => do
    let value ← store.source.eval fun p => return ⟨p.type, args p.name⟩
    let data ← writeAt data store.position (toByte value.val)
    runPack args rest data

/-- The body of the getter, with the values it stores. -/
def runUnpack (data : List UInt8) : List Load → Checked (List (String × Int))
  | [] => return []
  | load :: rest => do
    let value ← load.source.eval fun i => do
      let b ← readByte data i
      return ofByte b
    let values ← runUnpack data rest
    return (load.target.name, load.target.type.wrap value.val) :: values

/-! ## What the layout promises -/

/-- The two fields have no byte in common. -/
def FieldSpec.Apart (a b : FieldSpec) : Prop :=
  a.position + a.length ≤ b.position ∨ b.position + b.length ≤ a.position

/-- The fields lie inside the control, and none overlaps another. -/
structure ControlSpec.LaidOut (control : ControlSpec) : Prop where
  inside : ∀ field ∈ control.fields, field.2.position + field.2.length ≤ control.length
  apart : control.fields.Pairwise fun a b => a.2.Apart b.2

/-- The field is what was loaded for the entry. -/
structure Loaded (entry : String × FieldSpec) (field : IntField) : Prop where
  name : field.name = entry.1
  position : field.position = entry.2.position
  length : field.length = entry.2.length
  signed : field.signed = entry.2.signed

theorem loaded_of_loadField {name : String} {spec : FieldSpec} {field : IntField}
    (h : loadField name spec = .ok field) : Loaded (name, spec) field := by
  rw [loadField] at h
  split at h
  · rw [IntField.init] at h
    split at h
    · obtain rfl := Except.ok.inj h
      exact ⟨rfl, rfl, rfl, rfl⟩
    · exact nomatch h
  · exact nomatch h

theorem loaded_of_loadFields {entries : List (String × FieldSpec)} {fields : List IntField}
    (h : loadFields entries = .ok fields) : List.Forall₂ Loaded entries fields := by
  induction entries generalizing fields with
  | nil =>
    obtain rfl := Except.ok.inj h
    exact .nil
  | cons entry entries ih =>
    rw [loadFields] at h
    obtain ⟨field, hload, h⟩ := bind_eq_ok.1 h
    obtain ⟨rest, hrest, h⟩ := bind_eq_ok.1 h
    obtain rfl := Except.ok.inj h
    exact .cons (loaded_of_loadField hload) (ih hrest)

/-- The fields lie in a buffer of `length` bytes, and none overlaps another. -/
structure LaidOut (length : Nat) (fields : List IntField) : Prop where
  inside : ∀ field ∈ fields, field.position + field.length ≤ length
  apart : fields.Pairwise fun a b =>
    a.position + a.length ≤ b.position ∨ b.position + b.length ≤ a.position

theorem places_of_loaded {entries : List (String × FieldSpec)} {fields : List IntField}
    (h : List.Forall₂ Loaded entries fields) :
    fields.map (fun field => (field.position, field.length)) =
      entries.map fun entry => (entry.2.position, entry.2.length) := by
  induction h with
  | nil => rfl
  | cons hfield _ ih => rw [List.map_cons, List.map_cons, ih, hfield.position, hfield.length]

theorem ControlSpec.LaidOut.of_loaded {control : ControlSpec} (h : control.LaidOut)
    {fields : List IntField} (hloaded : List.Forall₂ Loaded control.fields fields) :
    Control.LaidOut control.length fields := by
  have hplaces := places_of_loaded hloaded
  constructor
  · intro field hfield
    have hmem : (field.position, field.length) ∈
        fields.map fun field => (field.position, field.length) := List.mem_map_of_mem hfield
    rw [hplaces] at hmem
    obtain ⟨entry, hentry, heq⟩ := List.mem_map.1 hmem
    obtain ⟨hposition, hlength⟩ := Prod.mk.inj heq
    have := h.inside entry hentry
    omega
  · have hapart : (control.fields.map fun entry => (entry.2.position, entry.2.length)).Pairwise
        fun a b => a.1 + a.2 ≤ b.1 ∨ b.1 + b.2 ≤ a.1 := List.pairwise_map.2 h.apart
    rw [← hplaces] at hapart
    exact List.pairwise_map.1 hapart

/-! ## What the setter writes -/

/-- The number whose lowest byte is the byte `k` of the argument. -/
def IntField.source (field : IntField) : Nat → Expr Param
  | 0 => .var field.param
  | k + 1 => .shr (.var field.param) (8 * (k + 1))

/-- The statement for the byte `k` of a field. -/
def IntField.store (field : IntField) (k : Nat) : Store := ⟨field.position + k, field.source k⟩

theorem IntField.pack_eq (field : IntField) :
    field.pack = (List.range field.length).map field.store := by
  rcases field.length_ok with h | h | h
  · simp [IntField.pack, IntField.store, IntField.source, h]
  · simp [IntField.pack, IntField.store, IntField.source, h, shortToSw, List.range_succ]
  · simp [IntField.pack, IntField.store, IntField.source, h, intToDw, List.range_succ]

/-- All bytes of all fields. -/
def slots (fields : List IntField) : List (IntField × Nat) :=
  fields.flatMap fun field => (List.range field.length).map (field, ·)

theorem mem_slots {fields : List IntField} {field : IntField} {k : Nat} :
    (field, k) ∈ slots fields ↔ field ∈ fields ∧ k < field.length := by
  simp [slots]

theorem flatMap_pack (fields : List IntField) :
    fields.flatMap (·.pack) = (slots fields).map fun slot => slot.1.store slot.2 := by
  simp only [slots, List.map_flatMap, List.map_map, IntField.pack_eq]
  rfl

theorem source_eval (args : String → Int) (field : IntField) (k : Nat) :
    ∃ value, (field.source k).eval
        (fun p => (return ⟨p.type, args p.name⟩ : Checked Value)) = .ok value ∧
      toByte value.val = byteOf (args field.name) k := by
  cases k with
  | zero => exact ⟨⟨field.userType, args field.name⟩, rfl, by simp [byteOf]⟩
  | succ k =>
    exact ⟨shiftRight ⟨field.userType, args field.name⟩ (8 * (k + 1)), Expr.eval_shr rfl _, rfl⟩

/-- The setter is a series of byte writes. -/
theorem runPack_slots (args : String → Int) (places : List (IntField × Nat)) (data : List UInt8) :
    runPack args (places.map fun slot => slot.1.store slot.2) data =
      writeEach (places.map fun slot =>
        (slot.1.position + slot.2, byteOf (args slot.1.name) slot.2)) data := by
  induction places generalizing data with
  | nil => rfl
  | cons slot places ih =>
    obtain ⟨field, k⟩ := slot
    obtain ⟨value, heval, hvalue⟩ := source_eval args field k
    rw [List.map_cons, List.map_cons, runPack, IntField.store, heval, ok_bind, writeEach, hvalue]
    congr 1
    funext out
    exact ih out

theorem nodup_positions {length : Nat} {fields : List IntField} (h : LaidOut length fields) :
    ((slots fields).map fun slot => slot.1.position + slot.2).Nodup := by
  rw [slots, List.map_flatMap, List.nodup_flatMap]
  constructor
  · intro field _
    rw [List.map_map]
    refine List.Nodup.map ?_ List.nodup_range
    intro a b hab
    simpa using hab
  · refine h.apart.imp ?_
    intro a b hab
    simp only [Function.onFun, List.disjoint_left, List.map_map, List.mem_map, List.mem_range,
      Function.comp_apply]
    rintro i ⟨j, hj, rfl⟩ ⟨k, hk, heq⟩
    omega

/-- **What the setter has built**: every byte of every field, whatever the buffer was before. -/
theorem runPack_fields {length : Nat} {fields : List IntField} (h : LaidOut length fields)
    (args : String → Int) {data : List UInt8} (hdata : data.length = length) :
    ∃ sent, runPack args (fields.flatMap (·.pack)) data = .ok sent ∧ sent.length = length ∧
      ∀ field ∈ fields, ∀ k < field.length,
        byteAt sent (field.position + k) = byteOf (args field.name) k := by
  let stores := (slots fields).map fun slot =>
    (slot.1.position + slot.2, byteOf (args slot.1.name) slot.2)
  have hnodup : (stores.map Prod.fst).Nodup := by
    rw [List.map_map]
    exact nodup_positions h
  have hin : ∀ s ∈ stores, s.1 < data.length := by
    intro s hs
    obtain ⟨⟨field, k⟩, hslot, rfl⟩ := List.mem_map.1 hs
    obtain ⟨hfield, hk⟩ := mem_slots.1 hslot
    have hinside := h.inside field hfield
    show field.position + k < data.length
    omega
  obtain ⟨sent, hsent, hlen, hbytes, -⟩ := writeEach_ok hnodup hin
  refine ⟨sent, ?_, hlen.trans hdata, fun field hfield k hk => ?_⟩
  · rw [flatMap_pack, runPack_slots]
    exact hsent
  · exact hbytes _ (List.mem_map_of_mem (mem_slots.2 ⟨hfield, hk⟩))

/-! ## What the getter reads -/

/-- The getter puts a field together from its bytes. -/
theorem unpack_eval {field : IntField} {data : List UInt8} {n : Int}
    (hin : field.position + field.length ≤ data.length)
    (hbytes : ∀ k < field.length, byteAt data (field.position + k) = byteOf n k)
    (hn : field.userType.Has n) :
    ∃ value, field.unpack.source.eval
        (fun i => do
          let b ← readByte data i
          return ofByte b) = .ok value ∧
      field.userType.wrap value.val = n := by
  have hread : ∀ k < field.length, (Expr.var (field.position + k)).eval
      (fun i => do
        let b ← readByte data i
        return ofByte b) = .ok (ofByte (byteOf n k)) := by
    intro k hk
    rw [Expr.eval, readByte_eq (by omega), hbytes k hk]
    rfl
  rw [IntField.unpack]
  rcases field.length_ok with h | h | h
  · rw [if_pos h]
    exact ⟨_, hread 0 (by omega), wrap_one_byte (by simp [IntField.userType, h]) hn⟩
  · have hword := eval_word (b := byteOf n) (x := fun k => field.position + k) fun k hk =>
      hread k (by omega)
    have hwrap := wrap_two_bytes (t := field.userType) (by simp [IntField.userType, h]) hn
    rw [if_neg (by omega), if_pos h]
    exact ⟨_, hword, hwrap⟩
  · have hdword := eval_dword (b := byteOf n) (x := fun k => field.position + k) fun k hk =>
      hread k (by omega)
    have hwrap := wrap_four_bytes (t := field.userType) (by simp [IntField.userType, h]) hn
    rw [if_neg (by omega), if_neg (by omega)]
    exact ⟨_, hdword, by simpa only [] using hwrap⟩

theorem runUnpack_fields {fields : List IntField} {data : List UInt8} {args : String → Int}
    (hin : ∀ field ∈ fields, field.position + field.length ≤ data.length)
    (hbytes : ∀ field ∈ fields, ∀ k < field.length,
      byteAt data (field.position + k) = byteOf (args field.name) k)
    (hargs : ∀ field ∈ fields, field.userType.Has (args field.name)) :
    runUnpack data (fields.map (·.unpack)) =
      .ok (fields.map fun field => (field.name, args field.name)) := by
  induction fields with
  | nil => rfl
  | cons field fields ih =>
    obtain ⟨hin, hins⟩ := List.forall_mem_cons.1 hin
    obtain ⟨hbyte, hbytes⟩ := List.forall_mem_cons.1 hbytes
    obtain ⟨harg, hargs⟩ := List.forall_mem_cons.1 hargs
    obtain ⟨value, heval, hvalue⟩ := unpack_eval hin hbyte harg
    have hrest := ih hins hbytes hargs
    rw [List.map_cons, runUnpack, heval, ok_bind, hrest, ok_bind]
    show Except.ok ((field.name, field.userType.wrap value.val) :: _) = _
    rw [hvalue]
    rfl

/-- **Generated accessors round-trip.**  For every layout that the generator accepts with its fields
next to each other in the buffer, and all arguments of the declared types, the setter stays inside
the buffer, and the getter gives back the arguments from what the setter has built. -/
theorem genCtrl_round_trip {control : ControlSpec} (hlaid : control.LaidOut)
    {accessors : Accessors} (hgen : genCtrl control = .ok accessors) (args : String → Int)
    (hargs : ∀ param ∈ accessors.params, param.type.Has (args param.name)) (data : List UInt8)
    (hdata : data.length = control.length) :
    ∃ sent, runPack args accessors.pack data = .ok sent ∧ sent.length = control.length ∧
      runUnpack sent accessors.unpack =
        .ok (accessors.params.map fun param => (param.name, args param.name)) := by
  rw [genCtrl] at hgen
  obtain ⟨fields, hload, hgen⟩ := bind_eq_ok.1 hgen
  obtain rfl := Except.ok.inj hgen
  have hfields := hlaid.of_loaded (loaded_of_loadFields hload)
  obtain ⟨sent, hsent, hlen, hbytes⟩ := runPack_fields hfields args hdata
  refine ⟨sent, hsent, hlen, ?_⟩
  have hback := runUnpack_fields (fun field hfield => hlen ▸ hfields.inside field hfield) hbytes
    fun field hfield => hargs _ (List.mem_map_of_mem hfield)
  rw [List.map_map]
  exact hback

/-- A control with a field of each length, not listed in the order of their positions, and with a
byte that belongs to none. -/
def mixedControl : ControlSpec where
  length := 8
  fields := [
    ("tilt", { type := "int", position := 4, length := 4, signed := true }),
    ("speed", { type := "int", position := 0, length := 1, signed := true }),
    ("window", { type := "int", position := 2, length := 2 })]
  nodup := by decide

def mixedArgs (name : String) : Int :=
  if name = "tilt" then -2147483648 else if name = "speed" then -1 else 65535

theorem genCtrl_round_trip_mixed :
    ∃ accessors sent, genCtrl mixedControl = .ok accessors ∧
      runPack mixedArgs accessors.pack (List.replicate 8 0xaa) = .ok sent ∧ sent.length = 8 ∧
      runUnpack sent accessors.unpack =
        .ok [("tilt", -2147483648), ("speed", -1), ("window", 65535)] := by
  have hlaid : mixedControl.LaidOut := ⟨by decide, by simp [mixedControl, FieldSpec.Apart]⟩
  obtain ⟨sent, hsent, hlen, hback⟩ := genCtrl_round_trip hlaid rfl mixedArgs (by decide)
    (List.replicate 8 0xaa) rfl
  exact ⟨_, sent, rfl, hsent, hlen, hback⟩

end Control
end LibUvc
