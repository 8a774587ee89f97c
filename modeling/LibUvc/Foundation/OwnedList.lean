import LibUvc.Foundation.LinkedList

/-!
# Lists of structs that own memory

A struct holds the head of a list in one of its fields, the elements of the list hold further lists,
and so on.  The things that lie in memory like this are values of a type `τ` of trees, and a `Shape`
says where such a tree is, which cells it owns, and what it means that it is there.

* `appendIn` and `deleteIn` are the macros of `LinkedList` on a list whose head is a field.
* `Listed S h ts` says that the trees `ts` make up a list; `appendIn_ok` is how it grows at its end
  and `Listed.replace` how one of its elements does.
* `Grown S added h h' t t'` says that a tree has grown by the fresh cells `added` and that nothing
  else has changed.  It composes (`Grown.trans`), so a run needs the steps only.
* `freeList` empties a list whose elements own memory of their own, and `freeChain` does so without
  unlinking them; `freeList_ok` and `freeChain_ok` say that exactly that memory is given back, if
  each element's own is (`Shape.DisposedBy`).
-/

set_option autoImplicit false

namespace LinkedList

variable {ι α τ : Type}

/-! ## Fields that hold lists -/

/-- A field that holds the head of a list. -/
structure Slot (ι α : Type) where
  get : α → Option ι
  set : Option ι → α → α

/-- The field is there in the structs `Dom`. -/
structure Slot.Lawful (slot : Slot ι α) (Dom : α → Prop) : Prop where
  dom : ∀ p v, Dom v → Dom (slot.set p v)
  get_set : ∀ p v, Dom v → slot.get (slot.set p v) = p
  set_get : ∀ v, Dom v → slot.set (slot.get v) v = v
  set_set : ∀ p q v, Dom v → slot.set p (slot.set q v) = slot.set p v

section Operations

variable [DecidableEq ι]

/-- `DL_APPEND(o->slot, el)`. -/
def appendIn (slot : Slot ι α) (o el : ι) (h : Heap ι α) : Except Trap (Heap ι α) := do
  let c ← h.load (some o)
  let (h, head) ← append h (slot.get c.value) el
  h.modify (some o) fun c => { c with value := slot.set head c.value }

/-- A new struct at the end of a list. -/
def appendNew (slot : Slot ι α) (v : α) (o a : ι) (h : Heap ι α) : Except Trap (Heap ι α) := do
  let h ← h.alloc a v
  appendIn slot o a h

/-- A new struct for a field of `o` to point to. -/
def attach (q : ι) (w : α) (o : ι) (v : α → α) (h : Heap ι α) : Except Trap (Heap ι α) := do
  let h ← h.alloc q w
  h.modify (some o) fun c => { c with value := v c.value }

/-- `DL_DELETE(o->slot, el)`. -/
def deleteIn (slot : Slot ι α) (o el : ι) (h : Heap ι α) : Except Trap (Heap ι α) := do
  let c ← h.load (some o)
  let (h, head) ← delete h (slot.get c.value) el
  h.modify (some o) fun c => { c with value := slot.set head c.value }

/-- A list is emptied: each element gives back what it owns, is unlinked and is freed. -/
def freeList (slot : Slot ι α) (dispose : ι → Heap ι α → Except Trap (Heap ι α)) (n : Nat) (o : ι)
    (h : Heap ι α) : Except Trap (Heap ι α) := do
  let c ← h.load (some o)
  foreachSafe id (fun el h => do
    let h ← dispose el h
    let h ← deleteIn slot o el h
    h.free (some el)) n (slot.get c.value) h

/-- The same without unlinking. -/
def freeChain (dispose : ι → Heap ι α → Except Trap (Heap ι α)) (n : Nat) (head : Option ι)
    (h : Heap ι α) : Except Trap (Heap ι α) :=
  foreachSafe id (fun el h => do
    let h ← dispose el h
    h.free (some el)) n head h

end Operations

/-! ## Trees in memory -/

/-- How trees of a type lie in memory.  A tree is at `addr`, and owns the cells `own` besides; it
stays there as long as these do, and the struct at `addr` has its value. -/
structure Shape (ι α τ : Type) where
  addr : τ → ι
  own : τ → List ι
  In : Heap ι α → τ → Prop
  isSome : ∀ {h t}, In h t → ∀ b ∈ addr t :: own t, ∃ c, h b = some c
  congr : ∀ {h h' : Heap ι α} {t}, In h t → (∀ b ∈ own t, h' b = h b) →
    (h' (addr t)).map Cell.value = (h (addr t)).map Cell.value → In h' t

/-- The struct at `a` has the value `v`. -/
def Heap.Holds (h : Heap ι α) (a : ι) (v : α) : Prop := (h a).map Cell.value = some v

theorem Heap.Holds.exists_cell {h : Heap ι α} {a : ι} {v : α} (hv : h.Holds a v) :
    ∃ c, h a = some c ∧ c.value = v :=
  Option.map_eq_some_iff.1 hv

theorem holds_of_eq {h : Heap ι α} {a : ι} {c : Cell ι α} (hc : h a = some c) :
    h.Holds a c.value := by
  rw [Heap.Holds, hc]
  rfl

/-- A struct that owns nothing. -/
def leaf (v : α) : Shape ι α ι where
  addr := id
  own _ := []
  In h a := h.Holds a v
  isSome hin b hb := by
    obtain ⟨c, hc, -⟩ := hin.exists_cell
    exact ⟨c, (List.mem_singleton.1 hb) ▸ hc⟩
  congr hin _ hval := hval.trans hin

@[simp] theorem leaf_addr (v : α) (a : ι) : (leaf v).addr a = a := rfl

@[simp] theorem leaf_own (v : α) (a : ι) : (leaf v).own a = ([] : List ι) := rfl

@[simp] theorem map_leaf_addr (v : α) (as : List ι) : as.map (leaf v : Shape ι α ι).addr = as :=
  List.map_id as

variable {S : Shape ι α τ}

/-- All the cells of a tree. -/
def Shape.cells (S : Shape ι α τ) (t : τ) : List ι := S.addr t :: S.own t

/-- All the cells of some trees. -/
def Shape.footprint (S : Shape ι α τ) (ts : List τ) : List ι := ts.flatMap S.cells

@[simp] theorem footprint_nil : S.footprint [] = [] := rfl

@[simp] theorem footprint_cons (t : τ) (ts : List τ) :
    S.footprint (t :: ts) = S.addr t :: (S.own t ++ S.footprint ts) := rfl

@[simp] theorem footprint_append (ts us : List τ) :
    S.footprint (ts ++ us) = S.footprint ts ++ S.footprint us :=
  List.flatMap_append

@[simp] theorem footprint_leaf (v : α) (as : List ι) :
    (leaf v : Shape ι α ι).footprint as = as :=
  List.flatMap_singleton' as

theorem cells_subset_footprint {t : τ} {ts : List τ} (ht : t ∈ ts) {b : ι} (hb : b ∈ S.cells t) :
    b ∈ S.footprint ts :=
  List.mem_flatMap.2 ⟨t, ht, hb⟩

theorem length_le_footprint (S : Shape ι α τ) (ts : List τ) :
    ts.length ≤ (S.footprint ts).length := by
  induction ts with
  | nil => exact Nat.le_refl 0
  | cons t ts ih =>
    rw [footprint_cons, List.length_cons, List.length_cons, List.length_append]
    omega

theorem length_own_le_footprint {t : τ} {ts : List τ} (ht : t ∈ ts) :
    (S.own t).length ≤ (S.footprint ts).length := by
  obtain ⟨l, r, rfl⟩ := List.append_of_mem ht
  rw [footprint_append, footprint_cons, List.length_append, List.length_cons, List.length_append]
  omega

theorem map_addr_subset (ts : List τ) {b : ι} (hb : b ∈ ts.map S.addr) : b ∈ S.footprint ts := by
  obtain ⟨t, ht, rfl⟩ := List.mem_map.1 hb
  exact cells_subset_footprint ht List.mem_cons_self

theorem nodup_map_addr {ts : List τ} (hnodup : (S.footprint ts).Nodup) :
    (ts.map S.addr).Nodup := by
  induction ts with
  | nil => exact List.nodup_nil
  | cons t ts ih =>
    rw [footprint_cons, List.nodup_cons, List.mem_append, not_or] at hnodup
    obtain ⟨⟨-, hnot⟩, hrest⟩ := hnodup
    exact List.nodup_cons.2 ⟨fun hmem => hnot (map_addr_subset ts hmem),
      ih (List.nodup_append.1 hrest).2.1⟩

theorem own_notMem_addr {ts : List τ} (hnodup : (S.footprint ts).Nodup) {u : τ} (hu : u ∈ ts)
    {b : ι} (hb : b ∈ S.own u) : b ∉ ts.map S.addr := by
  induction ts with
  | nil => exact List.not_mem_nil
  | cons t ts ih =>
    rw [footprint_cons, List.nodup_cons, List.mem_append, not_or] at hnodup
    obtain ⟨⟨hown, hrest⟩, hnd⟩ := hnodup
    obtain ⟨-, hndr, hdis⟩ := List.nodup_append.1 hnd
    rw [List.map_cons, List.mem_cons, not_or]
    rcases List.mem_cons.1 hu with rfl | hu
    · exact ⟨fun heq => hown (heq ▸ hb), fun hmem => hdis b hb b (map_addr_subset ts hmem) rfl⟩
    · have hbf : b ∈ S.footprint ts := cells_subset_footprint hu (List.mem_cons_of_mem _ hb)
      exact ⟨fun heq => hrest (heq ▸ hbf), ih hndr hu⟩

theorem mem_notMem_of_count [DecidableEq ι] {own M L : List ι} (hnodup : own.Nodup) {b : ι}
    (hcount : M.count b + L.count b ≤ own.count b) (hb : b ∈ M) : b ∈ own ∧ b ∉ L := by
  have hone := List.nodup_iff_count_le_one.1 hnodup b
  have hpos := List.count_pos_iff.2 hb
  refine ⟨List.count_pos_iff.1 (by omega), fun hL => ?_⟩
  have := List.count_pos_iff.2 hL
  omega

/-- What one of several lists has, none of the others has. -/
theorem notMem_part {parts : List (List ι)} (hnodup : parts.flatten.Nodup) {i j : Nat}
    {p q : List ι} (hi : parts[i]? = some p) (hj : parts[j]? = some q) (hne : j ≠ i) {b : ι}
    (hb : b ∈ q) : b ∉ p := by
  have hdisjoint := (List.nodup_flatten.1 hnodup).2
  rw [List.pairwise_iff_getElem] at hdisjoint
  obtain ⟨hilt, rfl⟩ := List.getElem?_eq_some_iff.1 hi
  obtain ⟨hjlt, rfl⟩ := List.getElem?_eq_some_iff.1 hj
  intro hbp
  rcases Nat.lt_or_gt_of_ne hne with hlt | hlt
  · exact hdisjoint j i hjlt hilt hlt hb hbp
  · exact hdisjoint i j hilt hjlt hlt hbp hb

/-- One of several lists is added to. -/
theorem perm_flatten_set {parts : List (List ι)} {i : Nat} {p : List ι} (h : parts[i]? = some p)
    (q : List ι) : (parts.set i (p ++ q)).flatten.Perm (q ++ parts.flatten) := by
  obtain ⟨hi, rfl⟩ := List.getElem?_eq_some_iff.1 h
  have hsplit : parts.flatten =
      (parts.take i).flatten ++ parts[i] ++ (parts.drop (i + 1)).flatten := by
    rw [List.append_assoc, ← List.flatten_cons, ← List.drop_eq_getElem_cons hi,
      ← List.flatten_append, List.take_append_drop]
  rw [List.set_eq_take_append_cons_drop, if_pos hi, List.flatten_append, List.flatten_cons, hsplit,
    ← List.append_assoc, ← List.append_assoc, List.append_assoc _ q]
  exact List.perm_append_comm_assoc _ _ _

/-- The trees make up a list. -/
structure Listed (S : Shape ι α τ) (h : Heap ι α) (ts : List τ) : Prop where
  list : DList h (ts.map S.addr)
  each : ∀ t ∈ ts, S.In h t

theorem Listed.nil (h : Heap ι α) : Listed S h [] :=
  ⟨DList.nil h, fun _ ht => absurd ht List.not_mem_nil⟩

theorem Listed.isSome {h : Heap ι α} {ts : List τ} (hl : Listed S h ts) :
    ∀ b ∈ S.footprint ts, ∃ c, h b = some c := by
  intro b hb
  obtain ⟨t, ht, hbt⟩ := List.mem_flatMap.1 hb
  exact S.isSome (hl.each t ht) b hbt

theorem Shape.congr_cells {h h' : Heap ι α} {t : τ} (ht : S.In h t)
    (heq : ∀ b ∈ S.cells t, h' b = h b) : S.In h' t :=
  S.congr ht (fun b hb => heq b (List.mem_cons_of_mem _ hb)) (by rw [heq _ List.mem_cons_self])

theorem Listed.congr {h h' : Heap ι α} {ts : List τ} (hl : Listed S h ts)
    (heq : ∀ b ∈ S.footprint ts, h' b = h b) : Listed S h' ts :=
  ⟨⟨hl.list.nodup, hl.list.seg.congr_cells fun b hb => heq b (map_addr_subset ts hb)⟩,
    fun t ht => S.congr_cells (hl.each t ht) fun b hb => heq b (cells_subset_footprint ht hb)⟩

theorem Listed.leaf_congr {h h' : Heap ι α} {v : α} {as : List ι} (hl : Listed (leaf v) h as)
    (heq : ∀ b ∈ as, h' b = h b) : Listed (leaf v) h' as :=
  hl.congr fun b hb => heq b (by rwa [footprint_leaf] at hb)

/-- What a tree owns besides the cells `L` has not changed when only these have. -/
theorem Listed.kept [DecidableEq ι] {h g : Heap ι α} {ts : List τ} {own L : List ι}
    (hl : Listed S h ts) (hnodup : own.Nodup) (hkept : ∀ b ∈ own, b ∉ L → g b = h b)
    (hcount : ∀ b, (S.footprint ts).count b + L.count b ≤ own.count b) : Listed S g ts :=
  hl.congr fun b hb => by
    obtain ⟨hown, hL⟩ := mem_notMem_of_count hnodup (hcount b) hb
    exact hkept b hown hL

/-! ## Growing -/

/-- **One element of a list may grow**, as long as it stays where it is. -/
theorem Listed.replace {h h' : Heap ι α} {l r : List τ} {t t' : τ} (hl : Listed S h (l ++ t :: r))
    (haddr : S.addr t' = S.addr t) (hin : S.In h' t')
    (hlinks : (h' (S.addr t)).map (fun c => (c.prev, c.next)) =
      (h (S.addr t)).map fun c => (c.prev, c.next))
    (heq : ∀ b ∈ S.footprint l ++ S.footprint r, h' b = h b) : Listed S h' (l ++ t' :: r) := by
  have hmap : (l ++ t' :: r).map S.addr = (l ++ t :: r).map S.addr := by
    simp only [List.map_append, List.map_cons, haddr]
  have hside : ∀ u, u ∈ l ∨ u ∈ r → ∀ b ∈ S.cells u, h' b = h b := by
    rintro u (hu | hu) b hb
    · exact heq b (List.mem_append_left _ (cells_subset_footprint hu hb))
    · exact heq b (List.mem_append_right _ (cells_subset_footprint hu hb))
  refine ⟨⟨hmap ▸ hl.list.nodup, hmap ▸ hl.list.seg.congr fun b hb => ?_⟩, fun u hu => ?_⟩
  · obtain ⟨u, hu, rfl⟩ := List.mem_map.1 hb
    rcases List.mem_append.1 hu with hu | hu
    · rw [hside u (.inl hu) _ List.mem_cons_self]
    · rcases List.mem_cons.1 hu with rfl | hu
      · exact hlinks
      · rw [hside u (.inr hu) _ List.mem_cons_self]
  · rcases List.mem_append.1 hu with hu | hu
    · exact S.congr_cells (hl.each u (by simp [hu])) (hside u (.inl hu))
    · rcases List.mem_cons.1 hu with rfl | hu
      · exact hin
      · exact S.congr_cells (hl.each u (by simp [hu])) (hside u (.inr hu))

/-- A tree has grown by the fresh cells `added`; its struct has kept its links. -/
structure Grown (S : Shape ι α τ) (added : List ι) (h h' : Heap ι α) (t t' : τ) : Prop where
  addr : S.addr t' = S.addr t
  own : (S.own t').Perm (added ++ S.own t)
  fresh : ∀ b ∈ added, h b = none
  nodup : added.Nodup
  links : (h' (S.addr t)).map (fun c => (c.prev, c.next)) =
    (h (S.addr t)).map fun c => (c.prev, c.next)
  others : ∀ b, b ∉ S.cells t' → h' b = h b
  there : S.In h' t'

theorem Grown.refl {h : Heap ι α} {t : τ} (ht : S.In h t) : Grown S [] h h t t :=
  ⟨rfl, List.Perm.refl _, fun _ hb => absurd hb List.not_mem_nil, List.nodup_nil, rfl,
    fun _ _ => rfl, ht⟩

theorem Grown.mem_own {added : List ι} {h h' : Heap ι α} {t t' : τ} (hg : Grown S added h h' t t')
    {b : ι} : b ∈ S.own t' ↔ b ∈ added ∨ b ∈ S.own t := by
  rw [hg.own.mem_iff, List.mem_append]

/-- A new cell is none of those that a tree has. -/
theorem Grown.notMem {added : List ι} {h h' : Heap ι α} {t t' : τ} (hg : Grown S added h h' t t')
    {b : ι} (hb : b ∈ added) {c : Cell ι α} (hc : h b = some c) : False := by
  rw [hg.fresh b hb] at hc
  exact absurd hc (by simp)

theorem Grown.nodup_cells {added : List ι} {h h' : Heap ι α} {t t' : τ}
    (hg : Grown S added h h' t t') (hin : S.In h t) (hnodup : (S.cells t).Nodup) :
    (S.cells t').Nodup := by
  rw [Shape.cells, List.nodup_cons] at hnodup ⊢
  rw [hg.addr, hg.own.nodup_iff, hg.own.mem_iff, List.mem_append, not_or, List.nodup_append]
  refine ⟨⟨fun hb => ?_, hnodup.1⟩, hg.nodup, hnodup.2, fun a ha b hb heq => ?_⟩
  · obtain ⟨c, hc⟩ := S.isSome hin _ List.mem_cons_self
    exact hg.notMem hb hc
  · obtain ⟨c, hc⟩ := S.isSome hin b (List.mem_cons_of_mem _ hb)
    exact hg.notMem ha (heq ▸ hc)

theorem Grown.still_fresh {added : List ι} {h h' : Heap ι α} {t t' : τ}
    (hg : Grown S added h h' t t') (hin : S.In h t) {b : ι} (hb : h b = none) (hadd : b ∉ added) :
    h' b = none := by
  rw [hg.others b fun hmem => ?_, hb]
  have hcell : b ∈ S.cells t := by
    rw [Shape.cells, List.mem_cons, hg.addr, hg.mem_own] at hmem
    exact List.mem_cons.2 (hmem.imp_right fun hmem => hmem.resolve_left hadd)
  obtain ⟨c, hc⟩ := S.isSome hin b hcell
  rw [hb] at hc
  exact absurd hc (by simp)

theorem Grown.perm {added added' : List ι} {h h' : Heap ι α} {t t' : τ}
    (hg : Grown S added h h' t t') (hperm : added.Perm added') : Grown S added' h h' t t' :=
  ⟨hg.addr, hg.own.trans (hperm.append_right _), fun b hb => hg.fresh b (hperm.mem_iff.2 hb),
    hperm.nodup_iff.1 hg.nodup, hg.links, hg.others, hg.there⟩

/-- **Growing composes.** -/
theorem Grown.trans {added added' : List ι} {h h' h'' : Heap ι α} {t t' t'' : τ}
    (hg : Grown S added h h' t t') (hg' : Grown S added' h' h'' t' t'') :
    Grown S (added' ++ added) h h'' t t'' := by
  have hsub : ∀ b, b ∉ S.cells t'' → b ∉ S.cells t' := by
    intro b hb hbt
    rw [Shape.cells, List.mem_cons] at hb hbt
    rcases hbt with rfl | hbt
    · exact hb (.inl hg'.addr.symm)
    · exact hb (.inr (hg'.mem_own.2 (.inr hbt)))
  have hthere : ∀ b ∈ S.cells t', ∃ c, h' b = some c := S.isSome hg.there
  refine ⟨hg'.addr.trans hg.addr, ?_, ?_, ?_, ?_, fun b hb => ?_, hg'.there⟩
  · rw [List.append_assoc]
    exact hg'.own.trans (hg.own.append_left _)
  · intro b hb
    rcases List.mem_append.1 hb with hb | hb
    · by_cases hbt : b ∈ S.cells t'
      · obtain ⟨c, hc⟩ := hthere b hbt
        exact (hg'.notMem hb hc).elim
      · rw [← hg.others b hbt, hg'.fresh b hb]
    · exact hg.fresh b hb
  · refine List.nodup_append.2 ⟨hg'.nodup, hg.nodup, fun a ha b hb heq => ?_⟩
    obtain ⟨c, hc⟩ := hthere b (List.mem_cons_of_mem _ (hg.mem_own.2 (.inl hb)))
    exact hg'.notMem ha (heq ▸ hc)
  · have hlinks := hg'.links
    rw [hg.addr] at hlinks
    exact hlinks.trans hg.links
  · rw [hg'.others b hb, hg.others b (hsub b hb)]

/-- A tree has been made of fresh cells. -/
structure Made (S : Shape ι α τ) (h h' : Heap ι α) (t : τ) : Prop where
  fresh : ∀ b ∈ S.cells t, h b = none
  nodup : (S.cells t).Nodup
  others : ∀ b, b ∉ S.cells t → h' b = h b
  there : S.In h' t

/-- It may grow before it is put anywhere. -/
theorem Made.grow {h h' h'' : Heap ι α} {added : List ι} {t t' : τ} (hm : Made S h h' t)
    (hg : Grown S added h' h'' t t') : Made S h h'' t' := by
  have hcells : ∀ b, b ∈ S.cells t' ↔ b ∈ S.cells t ∨ b ∈ added := by
    intro b
    rw [Shape.cells, Shape.cells, List.mem_cons, List.mem_cons, hg.addr, hg.mem_own, or_assoc,
      or_comm (a := b ∈ added)]
  refine ⟨fun b hb => ?_, hg.nodup_cells hm.there hm.nodup, fun b hb => ?_, hg.there⟩
  · by_cases hbt : b ∈ S.cells t
    · exact hm.fresh b hbt
    · rw [← hm.others b hbt]
      exact hg.fresh b (((hcells b).1 hb).resolve_left hbt)
  · rw [hg.others b hb, hm.others b fun hbt => hb ((hcells b).2 (.inl hbt))]

theorem Grown.footprint_perm {added : List ι} {h h' : Heap ι α} {t t' : τ}
    (hg : Grown S added h h' t t') (l r : List τ) :
    (S.footprint (l ++ t' :: r)).Perm (added ++ S.footprint (l ++ t :: r)) := by
  classical
  have hown := List.perm_iff_count.1 hg.own
  rw [List.perm_iff_count]
  intro b
  have hb := hown b
  simp only [footprint_append, footprint_cons, hg.addr, List.count_append, List.count_cons]
    at hb ⊢
  omega

/-- **A parent grows as one of its elements does.** -/
theorem Grown.lift {σ : Type} {P : Shape ι α σ} {p p' : σ} {h h' : Heap ι α} {added : List ι}
    {l r : List τ} {t t' : τ} (hg : Grown S added h h' t t') (hp : P.In h p)
    (hnodup : (P.cells p).Nodup) (hl : Listed S h (l ++ t :: r))
    (hsub : (S.footprint (l ++ t :: r)).Sublist (P.own p)) (haddr : P.addr p' = P.addr p)
    (hown : (P.own p').Perm (added ++ P.own p))
    (hin : Listed S h' (l ++ t' :: r) → h' (P.addr p) = h (P.addr p) →
      (∀ b ∈ P.own p, b ∉ S.footprint (l ++ t :: r) → h' b = h b) → P.In h' p') :
    Grown P added h h' p p' := by
  have hkept : ∀ b ∈ P.cells p, b ∉ S.cells t → h' b = h b := by
    intro b hb hbt
    obtain ⟨c, hc⟩ := P.isSome hp b hb
    refine hg.others b fun hbt' => ?_
    rw [Shape.cells, List.mem_cons] at hbt hbt'
    rw [hg.addr, hg.mem_own] at hbt'
    rcases hbt' with rfl | hadd | hown
    · exact hbt (.inl rfl)
    · exact hg.notMem hadd hc
    · exact hbt (.inr hown)
  obtain ⟨hpnot, hpown⟩ := List.nodup_cons.1 hnodup
  have hcells : ∀ b ∈ S.cells t, b ∈ P.own p := fun b hb =>
    hsub.subset (cells_subset_footprint (by simp) hb)
  have hpt : P.addr p ∉ S.cells t := fun hmem => hpnot (hcells _ hmem)
  have hside : ∀ b ∈ S.footprint l ++ S.footprint r, h' b = h b := by
    intro b hb
    have hfoot := hpown.sublist hsub
    have hmem : b ∈ S.footprint (l ++ t :: r) := by
      rw [footprint_append, footprint_cons, List.mem_append, List.mem_cons, List.mem_append]
      exact (List.mem_append.1 hb).imp_right fun hb => .inr (.inr hb)
    refine hkept b (List.mem_cons_of_mem _ (hsub.subset hmem)) fun hbt => ?_
    rw [footprint_append, List.nodup_append] at hfoot
    rcases List.mem_append.1 hb with hb | hb
    · exact hfoot.2.2 b hb b (cells_subset_footprint List.mem_cons_self hbt) rfl
    · have hnd : (S.cells t ++ S.footprint r).Nodup := hfoot.2.1
      exact (List.nodup_append.1 hnd).2.2 b hbt b hb rfl
  refine ⟨haddr, hown, hg.fresh, hg.nodup, ?_, fun b hb => ?_, hin
    (hl.replace hg.addr hg.there hg.links hside) (hkept _ List.mem_cons_self hpt)
    fun b hb hbt => ?_⟩
  · rw [hkept _ List.mem_cons_self hpt]
  · refine hg.others b fun hbt => hb ?_
    rw [Shape.cells, haddr, List.mem_cons, hown.mem_iff, List.mem_append]
    rw [Shape.cells, hg.addr, List.mem_cons, hg.mem_own] at hbt
    rcases hbt with rfl | hbt | hbt
    · exact .inr (.inr (hcells _ List.mem_cons_self))
    · exact .inr (.inl hbt)
    · exact .inr (.inr (hcells _ (List.mem_cons_of_mem _ hbt)))
  · exact hkept b (List.mem_cons_of_mem _ hb) fun hmem =>
      hbt (cells_subset_footprint (by simp) hmem)

section Appending

variable [DecidableEq ι] {slot : Slot ι α}

/-- **A tree is put at the end of a list.** -/
theorem appendIn_ok {o : ι} {c : Cell ι α} {h : Heap ι α} {ts : List τ} {t : τ} (hc : h o = some c)
    (hhead : slot.get c.value = (ts.map S.addr).head?) (hl : Listed S h ts) (hin : S.In h t)
    (hnodup : (o :: S.footprint (ts ++ [t])).Nodup) :
    ∃ h', appendIn slot o (S.addr t) h = .ok h' ∧ Listed S h' (ts ++ [t]) ∧
      h' o = some { c with value := slot.set ((ts ++ [t]).map S.addr).head? c.value } ∧
      ∀ b, b ≠ o → b ∉ (ts ++ [t]).map S.addr → h' b = h b := by
  obtain ⟨honot, hnd⟩ := List.nodup_cons.1 hnodup
  have hmap : (ts ++ [t]).map S.addr = ts.map S.addr ++ [S.addr t] := List.map_append
  have hnew : S.addr t ∉ ts.map S.addr := fun hmem =>
    (List.nodup_append.1 (hmap ▸ nodup_map_addr hnd)).2.2 _ hmem _ (List.mem_singleton.2 rfl) rfl
  obtain ⟨ct, hct⟩ := S.isSome hin _ List.mem_cons_self
  obtain ⟨h₁, hrun, hlist, hrel⟩ := append_ok hl.list hnew hct
  rw [← hmap] at hrun hlist hrel
  have ho : o ∉ (ts ++ [t]).map S.addr := fun hmem => honot (map_addr_subset _ hmem)
  have ho₁ : h₁ o = some c := (hrel.others o ho).trans hc
  obtain ⟨h₂, hrun₂, hch⟩ := exists_modify ho₁ fun c =>
    { c with value := slot.set ((ts ++ [t]).map S.addr).head? c.value }
  have hothers : ∀ b, b ≠ o → b ∉ (ts ++ [t]).map S.addr → h₂ b = h b := fun b hbo hb =>
    (hch.elsewhere b hbo).trans (hrel.others b hb)
  have hvalue : ∀ b, b ≠ o → (h₂ b).map Cell.value = (h b).map Cell.value := fun b hb => by
    rw [hch.elsewhere b hb, hrel.values b]
  refine ⟨h₂, ?_, ⟨⟨hlist.nodup, hlist.seg.congr_cells fun b hb => hch.elsewhere b fun heq => ?_⟩,
    fun u hu => ?_⟩, hch.here, hothers⟩
  · rw [appendIn, load_ok hc]
    show (append h (slot.get c.value) (S.addr t) >>= _) = _
    rw [hhead, hrun]
    exact hrun₂
  · exact ho (heq ▸ hb)
  · -- what the elements own is not among the elements
    have hinu : S.In h u := by
      rcases List.mem_append.1 hu with hu | hu
      · exact hl.each u hu
      · exact (List.mem_singleton.1 hu) ▸ hin
    refine S.congr hinu (fun b hb => ?_) (hvalue _ fun heq => honot ?_)
    · have hbf : b ∈ S.footprint (ts ++ [t]) :=
        cells_subset_footprint hu (List.mem_cons_of_mem _ hb)
      exact hothers b (fun heq => honot (heq ▸ hbf)) (own_notMem_addr hnd hu hb)
    · rw [← heq]
      exact cells_subset_footprint hu List.mem_cons_self

/-- **A parent grows by an element of one of its lists.** -/
theorem Grown.append (slot : Slot ι α) {σ : Type} {P : Shape ι α σ} (p' : σ) {p : σ}
    {h h₁ : Heap ι α} {ts : List τ} {t : τ}
    {c : Cell ι α} (hp : P.In h p) (hnodup : (P.cells p).Nodup) (hmade : Made S h h₁ t)
    (hc : h (P.addr p) = some c) (hhead : slot.get c.value = (ts.map S.addr).head?)
    (hl : Listed S h ts) (hsub : (S.footprint ts).Sublist (P.own p)) (haddr : P.addr p' = P.addr p)
    (hown : (P.own p').Perm (S.cells t ++ P.own p))
    (hin : ∀ g, Listed S g (ts ++ [t]) →
      g (P.addr p) = some { c with value := slot.set ((ts ++ [t]).map S.addr).head? c.value } →
      (∀ b ∈ P.own p, b ∉ S.footprint ts → g b = h b) → P.In g p') :
    ∃ h', appendIn slot (P.addr p) (S.addr t) h₁ = .ok h' ∧ Grown P (S.cells t) h h' p p' := by
  have hold : ∀ b ∈ P.cells p, b ∉ S.cells t := by
    intro b hb hbt
    obtain ⟨c', hc'⟩ := P.isSome hp b hb
    rw [hmade.fresh b hbt] at hc'
    exact absurd hc' (by simp)
  have hkept : ∀ b ∈ P.cells p, h₁ b = h b := fun b hb => hmade.others b (hold b hb)
  have hfoot : ∀ b ∈ S.footprint ts, b ∈ P.cells p := fun b hb =>
    List.mem_cons_of_mem _ (hsub.subset hb)
  have hsplit : S.footprint (ts ++ [t]) = S.footprint ts ++ S.cells t := by
    rw [footprint_append, footprint_cons, footprint_nil, List.append_nil]
    rfl
  have hnd : (P.addr p :: S.footprint (ts ++ [t])).Nodup := by
    obtain ⟨hp', hown'⟩ := List.nodup_cons.1 hnodup
    rw [hsplit, List.nodup_cons, List.mem_append, not_or]
    exact ⟨⟨fun hmem => hp' (hsub.subset hmem), hold _ List.mem_cons_self⟩,
      List.nodup_append.2 ⟨hown'.sublist hsub, hmade.nodup,
        fun a ha b hb heq => hold a (hfoot a ha) (heq ▸ hb)⟩⟩
  obtain ⟨h', hrun, hlist, hself, hothers⟩ := appendIn_ok
    ((hkept _ List.mem_cons_self).trans hc) hhead (hl.congr fun b hb => hkept b (hfoot b hb))
    hmade.there hnd
  have hframe : ∀ b, b ≠ P.addr p → b ∉ S.footprint (ts ++ [t]) → h' b = h₁ b := fun b hbp hb =>
    hothers b hbp fun hmem => hb (map_addr_subset _ hmem)
  refine ⟨h', hrun, haddr, hown, hmade.fresh, hmade.nodup, ?_, fun b hb => ?_,
    hin h' hlist hself fun b hb hbt => ?_⟩
  · rw [hself, hc]
    rfl
  · rw [Shape.cells, haddr, List.mem_cons, hown.mem_iff, List.mem_append, not_or, not_or] at hb
    obtain ⟨hbp, hbt, hbo⟩ := hb
    rw [hframe b hbp fun hmem => ?_, hmade.others b hbt]
    rw [hsplit, List.mem_append] at hmem
    exact hmem.elim (fun hmem => hbo (hsub.subset hmem)) hbt
  · have hbp : b ∈ P.cells p := List.mem_cons_of_mem _ hb
    have hbne : b ≠ P.addr p := fun heq => (List.nodup_cons.1 hnodup).1 (heq ▸ hb)
    rw [hframe b hbne fun hmem => ?_, hkept b hbp]
    rw [hsplit, List.mem_append] at hmem
    exact hmem.elim hbt (hold b hbp)

/-- A struct has just been allocated. -/
theorem exists_made {h : Heap ι α} {t : τ} {v : α} (ha : h (S.addr t) = none) (hown : S.own t = [])
    (hin : ∀ g : Heap ι α, g (S.addr t) = some ⟨none, none, v⟩ → S.In g t) :
    ∃ h', h.alloc (S.addr t) v = .ok h' ∧ Made S h h' t := by
  obtain ⟨h', hrun, hch⟩ := exists_alloc ha v
  have hcells : S.cells t = [S.addr t] := by rw [Shape.cells, hown]
  refine ⟨h', hrun, fun b hb => ?_, ?_, fun b hb => ?_, hin h' hch.here⟩
  · rw [hcells, List.mem_singleton] at hb
    rw [hb, ha]
  · rw [hcells]
    exact List.nodup_singleton _
  · rw [hcells, List.mem_singleton] at hb
    exact hch.elsewhere b hb

/-- **A parent grows by a new struct**, whose only cell it is. -/
theorem Grown.appendNew {σ : Type} {P : Shape ι α σ} {p p' : σ} {h : Heap ι α} {ts : List τ} {t : τ}
    {v w : α} (hp : P.In h p) (hnodup : (P.cells p).Nodup) (ha : h (S.addr t) = none)
    (hnone : S.own t = []) (hnew : ∀ g : Heap ι α, g.Holds (S.addr t) v → S.In g t)
    (hself : h.Holds (P.addr p) w) (hhead : slot.get w = (ts.map S.addr).head?)
    (hl : Listed S h ts) (hsub : (S.footprint ts).Sublist (P.own p)) (haddr : P.addr p' = P.addr p)
    (hown : (P.own p').Perm (S.addr t :: P.own p))
    (hin : ∀ g : Heap ι α, Listed S g (ts ++ [t]) →
      g.Holds (P.addr p) (slot.set ((ts ++ [t]).map S.addr).head? w) →
      (∀ b ∈ P.own p, b ∉ S.footprint ts → g b = h b) → P.In g p') :
    ∃ h', appendNew slot v (P.addr p) (S.addr t) h = .ok h' ∧ Grown P [S.addr t] h h' p p' := by
  obtain ⟨c, hc, rfl⟩ := hself.exists_cell
  obtain ⟨h₁, hrun₁, hmade⟩ := exists_made (v := v) ha hnone fun g hg => hnew g (holds_of_eq hg)
  have hcells : S.cells t = [S.addr t] := by rw [Shape.cells, hnone]
  obtain ⟨h₂, hrun₂, hg⟩ := Grown.append slot p' hp hnodup hmade hc hhead hl hsub haddr
    (hcells ▸ hown) fun g hl hself => hin g hl (holds_of_eq hself)
  refine ⟨h₂, ?_, hcells ▸ hg⟩
  rw [LinkedList.appendNew, hrun₁]
  exact hrun₂

/-- **A struct gets a cell of its own**, to which one of its fields then points. -/
theorem Grown.attached {h : Heap ι α} {t t' : τ} {q : ι} {w : α} {v : α → α} {c : Cell ι α}
    (ht : S.In h t) (hq : h q = none) (hc : h (S.addr t) = some c) (haddr : S.addr t' = S.addr t)
    (hown : (S.own t').Perm (q :: S.own t))
    (hin : ∀ g, g (S.addr t) = some { c with value := v c.value } → g q = some ⟨none, none, w⟩ →
      (∀ b ∈ S.own t, b ≠ S.addr t → g b = h b) → S.In g t') :
    ∃ h', attach q w (S.addr t) v h = .ok h' ∧ Grown S [q] h h' t t' := by
  obtain ⟨h₁, hrun₁, hch₁⟩ := exists_alloc hq w
  have hold : ∀ b ∈ S.cells t, b ≠ q := by
    rintro b hb rfl
    obtain ⟨c', hc'⟩ := S.isSome ht b hb
    rw [hq] at hc'
    exact absurd hc' (by simp)
  have hne := hold _ List.mem_cons_self
  obtain ⟨h₂, hrun₂, hch₂⟩ := exists_modify ((hch₁.elsewhere _ hne).trans hc) fun c =>
    { c with value := v c.value }
  refine ⟨h₂, by rw [attach, hrun₁]; exact hrun₂, haddr, hown, fun b hb => ?_,
    List.nodup_singleton q, ?_, fun b hb => ?_, hin h₂ hch₂.here
      ((hch₂.elsewhere q hne.symm).trans hch₁.here)
      fun b hb hba => ?_⟩
  · rw [List.mem_singleton.1 hb, hq]
  · rw [hch₂.here, hc]
    rfl
  · rw [Shape.cells, haddr, List.mem_cons, hown.mem_iff, List.mem_cons, not_or, not_or] at hb
    rw [hch₂.elsewhere b hb.1, hch₁.elsewhere b hb.2.1]
  · rw [hch₂.elsewhere b hba, hch₁.elsewhere b (hold b (List.mem_cons_of_mem _ hb))]

end Appending

/-- **A run of steps that let a tree grow** lets it grow by what they add.  The invariant is about
the steps still to come and the tree so far. -/
theorem Grown.run {O : Type} (exec : ι → O → Heap ι α → Except Trap (Heap ι α))
    (cells : O → List ι) (apply : O → τ → τ) {I : List O → τ → Prop}
    (hstep : ∀ op ops h t, S.In h t → (S.cells t).Nodup → I (op :: ops) t →
      (∀ b ∈ cells op, h b = none) → (cells op).Nodup → I ops (apply op t) ∧
        ∃ h', exec (S.addr t) op h = .ok h' ∧ Grown S (cells op) h h' t (apply op t))
    (ops : List O) : ∀ {h : Heap ι α} {t : τ}, S.In h t → (S.cells t).Nodup → I ops t →
      (∀ b ∈ ops.flatMap cells, h b = none) → (ops.flatMap cells).Nodup →
      ∃ h', ops.foldlM (fun h op => exec (S.addr t) op h) h = .ok h' ∧
        Grown S (ops.flatMap cells) h h' t (ops.foldl (fun t op => apply op t) t) := by
  induction ops with
  | nil => exact fun hin _ _ _ _ => ⟨_, rfl, Grown.refl hin⟩
  | cons op ops ih =>
    intro h t hin hnodup hi hfresh hnd
    rw [List.flatMap_cons] at hfresh hnd
    obtain ⟨hndop, hndops, hdis⟩ := List.nodup_append.1 hnd
    obtain ⟨hi', h₁, hrun₁, hg₁⟩ := hstep op ops h t hin hnodup hi
      (fun b hb => hfresh b (List.mem_append_left _ hb)) hndop
    have hlater : ∀ b ∈ ops.flatMap cells, h₁ b = none := fun b hb =>
      hg₁.still_fresh hin (hfresh b (List.mem_append_right _ hb)) fun hbop => hdis b hbop b hb rfl
    obtain ⟨h₂, hrun₂, hg₂⟩ := ih hg₁.there (hg₁.nodup_cells hin hnodup) hi' hlater hndops
    refine ⟨h₂, ?_, (hg₁.trans hg₂).perm List.perm_append_comm⟩
    rw [List.foldlM_cons, hrun₁]
    show ops.foldlM (fun h op => exec (S.addr t) op h) h₁ = _
    rw [← hg₁.addr]
    exact hrun₂

/-! ## Giving lists back -/

/-- The cells `L` are gone, and the value of `o` is another one. -/
structure Cleared (L : List ι) (o : ι) (v' : α) (h h' : Heap ι α) : Prop where
  gone : ∀ b ∈ L, h' b = none
  others : ∀ b, b ∉ L → b ≠ o → h' b = h b
  owner : ∀ c, h o = some c → h' o = some { c with value := v' }

/-- The owner itself may not have been touched. -/
theorem Cleared.of_kept {L : List ι} {o : ι} {c : Cell ι α} {h h' : Heap ι α} (hc : h o = some c)
    (ho : o ∉ L) (hgone : ∀ b ∈ L, h' b = none) (hkept : ∀ b, b ∉ L → h' b = h b) :
    Cleared L o c.value h h' := by
  refine ⟨hgone, fun b hb _ => hkept b hb, fun c' hc' => ?_⟩
  obtain rfl := Option.some.inj (hc.symm.trans hc')
  exact (hkept o ho).trans hc

theorem Cleared.trans {L M : List ι} {o : ι} {v w : α} {h h' h'' : Heap ι α}
    (hL : Cleared L o v h h') (hM : Cleared M o w h' h'') (ho : o ∉ L) :
    Cleared (L ++ M) o w h h'' := by
  refine ⟨fun b hb => ?_, fun b hb hbo => ?_, fun c hc => ?_⟩
  · by_cases hbM : b ∈ M
    · exact hM.gone b hbM
    · have hbL : b ∈ L := (List.mem_append.1 hb).resolve_right hbM
      rw [hM.others b hbM fun heq => ho (heq ▸ hbL), hL.gone b hbL]
  · rw [List.mem_append, not_or] at hb
    rw [hM.others b hb.2 hbo, hL.others b hb.1 hbo]
  · exact hM.owner { c with value := v } (hL.owner c hc)

/-- `dispose` gives back what the tree owns, and nothing else. -/
def Shape.DisposedBy (S : Shape ι α τ) (dispose : ι → Heap ι α → Except Trap (Heap ι α)) (t : τ) :
    Prop :=
  ∀ h, S.In h t → (S.cells t).Nodup →
    ∃ h' v', dispose (S.addr t) h = .ok h' ∧ Cleared (S.own t) (S.addr t) v' h h'

section Freeing

variable [DecidableEq ι] {slot : Slot ι α} {Dom : α → Prop}
  {dispose : ι → Heap ι α → Except Trap (Heap ι α)}

/-- Where the loop of `freeList` stands: the elements `done` are gone with all that they owned, the
list consists of the others, and nothing else has changed. -/
structure Emptying (S : Shape ι α τ) (slot : Slot ι α) (o : ι) (c : Cell ι α) (h₀ : Heap ι α)
    (done ts : List τ) (h : Heap ι α) : Prop where
  list : Listed S h ts
  gone : ∀ b ∈ S.footprint done, h b = none
  others : ∀ b, b ∉ S.footprint (done ++ ts) → b ≠ o → h b = h₀ b
  owner : h o = some { c with value := slot.set (ts.map S.addr).head? c.value }

/-- **One round.** -/
theorem Emptying.step {o : ι} {c : Cell ι α} {h₀ h : Heap ι α} {done ts : List τ} {t : τ}
    (hlaw : slot.Lawful Dom) (hdom : Dom c.value)
    (hnodup : (o :: S.footprint (done ++ t :: ts)).Nodup) (hd : S.DisposedBy dispose t)
    (he : Emptying S slot o c h₀ done (t :: ts) h) :
    ∃ h', (do
      let h ← dispose (S.addr t) h
      let h ← deleteIn slot o (S.addr t) h
      h.free (some (S.addr t))) = .ok h' ∧ Emptying S slot o c h₀ (done ++ [t]) ts h' := by
  obtain ⟨honot, hnd⟩ := List.nodup_cons.1 hnodup
  rw [footprint_append] at honot hnd
  obtain ⟨-, hnd', hdis⟩ := List.nodup_append.1 hnd
  have hndt : (S.cells t).Nodup := hnd'.sublist (by simp [Shape.cells])
  rw [footprint_cons] at hnd'
  obtain ⟨hanot, hndr⟩ := List.nodup_cons.1 hnd'
  obtain ⟨-, -, hdis'⟩ := List.nodup_append.1 hndr
  simp only [footprint_cons, List.mem_append, List.mem_cons, not_or] at honot hanot
  obtain ⟨hodone, hoa, hoown, hots⟩ := honot
  -- where the names lie
  have hrest : ∀ b ∈ S.footprint ts, b ≠ S.addr t ∧ b ∉ S.own t ∧ b ≠ o := fun b hb =>
    ⟨fun heq => hanot.2 (heq ▸ hb), fun hbo => hdis' b hbo b hb rfl, fun heq => hots (heq ▸ hb)⟩
  have hdone : ∀ b ∈ S.footprint done, b ≠ S.addr t ∧ b ∉ S.own t ∧ b ∉ S.footprint ts ∧ b ≠ o := by
    intro b hb
    have hnot : b ∉ S.footprint (t :: ts) := fun hbt => hdis b hb b hbt rfl
    simp only [footprint_cons, List.mem_cons, List.mem_append, not_or] at hnot
    exact ⟨hnot.1, hnot.2.1, hnot.2.2, fun heq => hodone (heq ▸ hb)⟩
  -- the element gives back what it owns
  obtain ⟨h₁, v', hrun₁, hcl⟩ := hd h (he.list.each t List.mem_cons_self) hndt
  have ho₁ : h₁ o = some { c with value := slot.set (some (S.addr t)) c.value } :=
    (hcl.others o hoown hoa).trans he.owner
  have hlist₁ : DList h₁ (S.addr t :: ts.map S.addr) := by
    refine ⟨he.list.list.nodup, he.list.list.seg.congr fun b hb => ?_⟩
    rcases List.mem_cons.1 hb with rfl | hb
    · obtain ⟨ca, hca⟩ := he.list.list.seg.isSome (S.addr t) (by simp)
      rw [hcl.owner ca hca, hca]
      rfl
    · obtain ⟨hba, hbown, -⟩ := hrest b (map_addr_subset ts hb)
      rw [hcl.others b hbown hba]
  -- it is unlinked
  obtain ⟨h₂, hrun₂, hlist₂, hrel, -⟩ := delete_ok (l := []) hlist₁
  rw [List.nil_append] at hlist₂ hrel
  have hrun₂' : delete h₁ (some (S.addr t)) (S.addr t) = .ok (h₂, (ts.map S.addr).head?) := hrun₂
  have hrel' : ∀ b, b ≠ S.addr t → b ∉ S.footprint ts → h₂ b = h₁ b := fun b hba hb =>
    hrel.others b fun hmem => (List.mem_cons.1 hmem).elim hba fun hbt => hb (map_addr_subset ts hbt)
  have ho₂ : h₂ o = some { c with value := slot.set (some (S.addr t)) c.value } :=
    (hrel' o hoa hots).trans ho₁
  obtain ⟨h₃, hrun₃, hch⟩ := exists_modify ho₂ fun c =>
    { c with value := slot.set (ts.map S.addr).head? c.value }
  -- and it is freed
  obtain ⟨c₂, hc₂⟩ : ∃ c₂, h₂ (S.addr t) = some c₂ := by
    obtain ⟨c₁, hc₁⟩ := hlist₁.seg.isSome (S.addr t) List.mem_cons_self
    have hval := hrel.values (S.addr t)
    rw [hc₁, Option.map_some, Option.map_eq_some_iff] at hval
    obtain ⟨c₂, hc₂, -⟩ := hval
    exact ⟨c₂, hc₂⟩
  obtain ⟨h₄, hrun₄, hgone, hkept⟩ := exists_free ((hch.elsewhere _ (Ne.symm hoa)).trans hc₂)
  have hback : ∀ b, b ≠ S.addr t → b ≠ o → h₄ b = h₂ b := fun b hba hbo =>
    (hkept b hba).trans (hch.elsewhere b hbo)
  refine ⟨h₄, ?_, ⟨⟨⟨hlist₂.nodup, hlist₂.seg.congr_cells fun b hb => ?_⟩, fun u hu => ?_⟩,
    fun b hb => ?_, fun b hb hbo => ?_, ?_⟩⟩
  · rw [hrun₁]
    show (deleteIn slot o (S.addr t) h₁ >>= _) = _
    rw [deleteIn, load_ok ho₁]
    show ((delete h₁ (slot.get (slot.set (some (S.addr t)) c.value)) (S.addr t) >>= _) >>= _) = _
    rw [hlaw.get_set _ _ hdom, hrun₂']
    show (h₂.modify (some o) _ >>= _) = _
    rw [hrun₃]
    exact hrun₄
  · obtain ⟨hba, -, hbo⟩ := hrest b (map_addr_subset ts hb)
    exact hback b hba hbo
  · -- the other elements and what they own
    have hcells : ∀ b ∈ S.cells u, b ≠ S.addr t ∧ b ∉ S.own t ∧ b ≠ o := fun b hb =>
      hrest b (cells_subset_footprint hu hb)
    obtain ⟨hua, huown, huo⟩ := hcells _ List.mem_cons_self
    refine S.congr (he.list.each u (List.mem_cons_of_mem _ hu)) (fun b hb => ?_) ?_
    · obtain ⟨hba, hbown, hbo⟩ := hcells b (List.mem_cons_of_mem _ hb)
      have hnot : b ∉ (t :: ts).map S.addr :=
        own_notMem_addr (show (S.footprint (t :: ts)).Nodup from hnd')
          (List.mem_cons_of_mem _ hu) hb
      rw [hback b hba hbo, hrel.others b hnot, hcl.others b hbown hba]
    · rw [hback _ hua huo, hrel.values, hcl.others _ huown hua]
  · rw [footprint_append, List.mem_append] at hb
    rcases hb with hb | hb
    · obtain ⟨hba, hbown, hbts, hbo⟩ := hdone b hb
      rw [hback b hba hbo, hrel' b hba hbts, hcl.others b hbown hba, he.gone b hb]
    · rw [footprint_cons, footprint_nil, List.append_nil, List.mem_cons] at hb
      rcases hb with rfl | hb
      · exact hgone
      · have hbo : b ≠ o := fun heq => hoown (heq ▸ hb)
        have hba : b ≠ S.addr t := fun heq => hanot.1 (heq ▸ hb)
        have hbts : b ∉ S.footprint ts := fun hbt => hdis' b hb b hbt rfl
        rw [hback b hba hbo, hrel' b hba hbts, hcl.gone b hb]
  · rw [List.append_assoc] at hb
    have hnot := hb
    simp only [footprint_append, footprint_cons, footprint_nil, List.append_nil, List.mem_append,
      List.mem_cons, not_or] at hnot
    obtain ⟨-, ⟨hba, hbown⟩, hbts⟩ := hnot
    rw [hback b hba hbo, hrel' b hba hbts, hcl.others b hbown hba, he.others b hb hbo]
  · rw [hkept o hoa, hch.here, hlaw.set_set _ _ _ hdom]

/-- **A list is given back with all that its elements own, and nothing else is.** -/
theorem freeList_ok (dispose : ι → Heap ι α → Except Trap (Heap ι α)) {o : ι} {c : Cell ι α}
    {h : Heap ι α} {items : List τ}
    (hlaw : slot.Lawful Dom) (hdom : Dom c.value) (hc : h o = some c)
    (hhead : slot.get c.value = (items.map S.addr).head?) (hlist : Listed S h items)
    (hnodup : (o :: S.footprint items).Nodup) (hd : ∀ t ∈ items, S.DisposedBy dispose t) {n : Nat}
    (hn : items.length ≤ n) :
    ∃ h', freeList slot dispose n o h = .ok h' ∧
      Cleared (S.footprint items) o (slot.set none c.value) h h' := by
  let I : List ι → Heap ι α → Prop := fun as g => ∃ done ts, items = done ++ ts ∧
    as = ts.map S.addr ∧ Emptying S slot o c h done ts g
  have hstart : I (items.map S.addr) h := by
    refine ⟨[], items, rfl, rfl, hlist, fun b hb => absurd hb List.not_mem_nil,
      fun _ _ _ => rfl, ?_⟩
    rw [← hhead, hlaw.set_get _ hdom]
    exact hc
  obtain ⟨h', hrun, done, ts, rfl, hts, he⟩ := foreachSafe_ok id
    (fun el h => do
      let h ← dispose el h
      let h ← deleteIn slot o el h
      h.free (some el)) (I := I)
    (fun a as g hi => by
      obtain ⟨done, ts, -, heq, he⟩ := hi
      obtain ⟨⟨ca, hca, -, hnext⟩, -⟩ := (heq ▸ he.list.list : DList g (a :: as)).seg
      exact ⟨ca, hca, by simpa using hnext⟩)
    (fun a as g hi => by
      obtain ⟨done, ts, hitems, heq, he⟩ := hi
      cases ts with
      | nil => exact absurd heq (by simp)
      | cons t ts =>
        obtain ⟨rfl, rfl⟩ := List.cons.inj heq
        obtain ⟨g', hg', he'⟩ := he.step hlaw hdom (hitems ▸ hnodup)
          (hd t (by rw [hitems]; simp))
        exact ⟨g', hg', done ++ [t], ts, by rw [hitems, List.append_assoc]; rfl, rfl, he'⟩)
    n (items.map S.addr) h (by simpa using hn) hstart
  obtain rfl : ts = [] := by simpa using hts.symm
  rw [List.append_nil]
  refine ⟨h', ?_, he.gone, fun b hb hbo => he.others b (by rwa [List.append_nil]) hbo,
    fun c' hc' => ?_⟩
  · rw [freeList, load_ok hc]
    show foreachSafe id _ n (slot.get c.value) h = _
    rw [hhead]
    exact hrun
  · obtain rfl := Option.some.inj (hc.symm.trans hc')
    exact he.owner

/-- Where the loop of `freeChain` stands. -/
structure Dropping (S : Shape ι α τ) (h₀ : Heap ι α) (done ts : List τ) (h : Heap ι α) : Prop where
  chain : ∃ p, Seg h p (ts.map S.addr) none
  each : ∀ t ∈ ts, S.In h t
  gone : ∀ b ∈ S.footprint done, h b = none
  others : ∀ b, b ∉ S.footprint done → h b = h₀ b

theorem Dropping.step {h₀ h : Heap ι α} {done ts : List τ} {t : τ}
    (hnodup : (S.footprint (done ++ t :: ts)).Nodup) (hd : S.DisposedBy dispose t)
    (he : Dropping S h₀ done (t :: ts) h) :
    ∃ h', (do
      let h ← dispose (S.addr t) h
      h.free (some (S.addr t))) = .ok h' ∧ Dropping S h₀ (done ++ [t]) ts h' := by
  rw [footprint_append] at hnodup
  obtain ⟨-, hnd, hdis⟩ := List.nodup_append.1 hnodup
  have hndt : (S.cells t).Nodup := hnd.sublist (by simp [Shape.cells])
  rw [footprint_cons] at hnd
  obtain ⟨hanot, hndr⟩ := List.nodup_cons.1 hnd
  obtain ⟨-, -, hdis'⟩ := List.nodup_append.1 hndr
  rw [List.mem_append, not_or] at hanot
  obtain ⟨p, ⟨ca, hca, -, -⟩, hseg⟩ := he.chain
  obtain ⟨h₁, v', hrun₁, hcl⟩ := hd h (he.each t List.mem_cons_self) hndt
  obtain ⟨h₂, hrun₂, hgone, hkept⟩ := exists_free (hcl.owner ca hca)
  have hrest : ∀ b, b ≠ S.addr t → b ∉ S.own t → h₂ b = h b := fun b hba hbo =>
    (hkept b hba).trans (hcl.others b hbo hba)
  have hlater : ∀ b ∈ S.footprint ts, h₂ b = h b := fun b hb =>
    hrest b (fun heq => hanot.2 (heq ▸ hb)) fun hbo => hdis' b hbo b hb rfl
  refine ⟨h₂, by rw [hrun₁]; exact hrun₂, ⟨⟨_, hseg.congr_cells fun b hb =>
    hlater b (map_addr_subset ts hb)⟩, fun u hu => ?_, fun b hb => ?_, fun b hb => ?_⟩⟩
  · exact S.congr_cells (he.each u (List.mem_cons_of_mem _ hu)) fun b hb =>
      hlater b (cells_subset_footprint hu hb)
  · rw [footprint_append, List.mem_append] at hb
    rcases hb with hb | hb
    · have hnot : b ∉ S.footprint (t :: ts) := fun hbt => hdis b hb b hbt rfl
      rw [footprint_cons, List.mem_cons, List.mem_append, not_or, not_or] at hnot
      rw [hrest b hnot.1 hnot.2.1, he.gone b hb]
    · rw [footprint_cons, footprint_nil, List.append_nil, List.mem_cons] at hb
      by_cases hba : b = S.addr t
      · rw [hba, hgone]
      · rw [hkept b hba, hcl.gone b (hb.resolve_left hba)]
  · simp only [footprint_append, footprint_cons, footprint_nil, List.append_nil, List.mem_append,
      List.mem_cons, not_or] at hb
    rw [hrest b hb.2.1 hb.2.2, he.others b hb.1]

/-- **The same for a list that is not unlinked.** -/
theorem freeChain_ok (dispose : ι → Heap ι α → Except Trap (Heap ι α)) {h : Heap ι α}
    {items : List τ} (hl : Listed S h items)
    (hnodup : (S.footprint items).Nodup) (hd : ∀ t ∈ items, S.DisposedBy dispose t) {n : Nat}
    (hn : items.length ≤ n) :
    ∃ h', freeChain dispose n (items.map S.addr).head? h = .ok h' ∧
      (∀ b ∈ S.footprint items, h' b = none) ∧ ∀ b, b ∉ S.footprint items → h' b = h b := by
  let I : List ι → Heap ι α → Prop := fun as g => ∃ done ts, items = done ++ ts ∧
    as = ts.map S.addr ∧ Dropping S h done ts g
  obtain ⟨h', hrun, done, ts, rfl, hts, he⟩ := foreachSafe_ok id
    (fun el h => do
      let h ← dispose el h
      h.free (some el)) (I := I)
    (fun a as g hi => by
      obtain ⟨done, ts, -, heq, he⟩ := hi
      obtain ⟨p', hp'⟩ := he.chain
      rw [← heq] at hp'
      obtain ⟨⟨ca, hca, -, hnext⟩, -⟩ := hp'
      exact ⟨ca, hca, by simpa using hnext⟩)
    (fun a as g hi => by
      obtain ⟨done, ts, hitems, heq, he⟩ := hi
      cases ts with
      | nil => exact absurd heq (by simp)
      | cons t ts =>
        obtain ⟨rfl, rfl⟩ := List.cons.inj heq
        obtain ⟨g', hg', he'⟩ := he.step (hitems ▸ hnodup) (hd t (by rw [hitems]; simp))
        exact ⟨g', hg', done ++ [t], ts, by rw [hitems, List.append_assoc]; rfl, rfl, he'⟩)
    n (items.map S.addr) h (by simpa using hn)
    ⟨[], items, rfl, rfl, ⟨_, hl.list.seg⟩, hl.each, fun b hb => absurd hb List.not_mem_nil,
      fun _ _ => rfl⟩
  obtain rfl : ts = [] := by simpa using hts.symm
  rw [List.append_nil] at hrun ⊢
  exact ⟨h', hrun, he.gone, he.others⟩

end Freeing

end LinkedList
