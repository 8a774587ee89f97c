import Mathlib.Data.List.Basic
import Mathlib.Data.List.Nodup
import Mathlib.Logic.Function.Basic
import Mathlib.Tactic.Common

/-!
# Doubly linked lists in memory

The lists of `utlist.h`: the links are two fields of the elements, the `prev` of the first element
is the last one, and the `next` of the last one is `NULL`.  A program that works on such a list can
go wrong in ways that a list of values hides, so memory is a partial function here, and following a
null pointer or touching a cell that is not allocated is a `Trap`.

* `append` and `delete` are the macros, statement by statement; `append_ok` and `delete_ok` say that
  they are the operations on lists, keep all values and leave the rest of memory alone.
* `Seg` is a piece of a list with its two loose ends, which is what the proofs cut lists into.
* `foreachSafe` reads the link of an element before the body runs, so the body may free the element
  (`foreachSafe_ok`); `foreach` reads it afterwards, and then that is a trap (`foreach_freed`).
-/

set_option autoImplicit false

namespace LinkedList

/-- What can go wrong. -/
inductive Trap where
  | nullPointer
  /-- Memory that is not, or no longer, allocated. -/
  | notAllocated
  /-- The allocator has handed out memory that is in use. -/
  | inUse
  /-- The loop has not ended in the number of rounds it was given. -/
  | endless
  deriving DecidableEq, Repr

/-- A struct with its links. -/
structure Cell (ι α : Type) where
  prev : Option ι
  next : Option ι
  value : α
  deriving DecidableEq, Repr

/-- Memory: which cells there are. -/
abbrev Heap (ι α : Type) := ι → Option (Cell ι α)

variable {ι α : Type}

/-- `*p`. -/
def Heap.load (h : Heap ι α) : Option ι → Except Trap (Cell ι α)
  | none => .error .nullPointer
  | some a =>
    match h a with
    | some c => .ok c
    | none => .error .notAllocated

section Operations

variable [DecidableEq ι]

/-- `calloc`, when it returns `a`. -/
def Heap.alloc (h : Heap ι α) (a : ι) (v : α) : Except Trap (Heap ι α) :=
  match h a with
  | none => .ok (Function.update h a (some ⟨none, none, v⟩))
  | some _ => .error .inUse

/-- An assignment to a part of `*p`. -/
def Heap.modify (h : Heap ι α) (p : Option ι) (f : Cell ι α → Cell ι α) :
    Except Trap (Heap ι α) :=
  match p with
  | none => .error .nullPointer
  | some a =>
    match h a with
    | some c => .ok (Function.update h a (some (f c)))
    | none => .error .notAllocated

/-- `p->prev = q`. -/
def Heap.setPrev (h : Heap ι α) (p q : Option ι) : Except Trap (Heap ι α) :=
  h.modify p fun c => { c with prev := q }

/-- `p->next = q`. -/
def Heap.setNext (h : Heap ι α) (p q : Option ι) : Except Trap (Heap ι α) :=
  h.modify p fun c => { c with next := q }

/-- `free(p)`. -/
def Heap.free (h : Heap ι α) : Option ι → Except Trap (Heap ι α)
  | none => .ok h
  | some a =>
    match h a with
    | some _ => .ok (Function.update h a none)
    | none => .error .notAllocated

/-- `DL_APPEND(head, add)`, with the new `head`. -/
def append (h : Heap ι α) (head : Option ι) (add : ι) : Except Trap (Heap ι α × Option ι) :=
  if head.isSome then do
    let c ← h.load head
    let h ← h.setPrev (some add) c.prev
    let c ← h.load head
    let h ← h.setNext c.prev (some add)
    let h ← h.setPrev head (some add)
    let h ← h.setNext (some add) none
    return (h, head)
  else do
    let h ← h.setPrev (some add) (some add)
    let h ← h.setNext (some add) none
    return (h, some add)

/-- `DL_DELETE(head, del)`, with the new `head`. -/
def delete (h : Heap ι α) (head : Option ι) (del : ι) : Except Trap (Heap ι α × Option ι) := do
  let c ← h.load (some del)
  if c.prev = some del then return (h, none)
  else if some del = head then do
    let h ← h.setPrev c.next c.prev
    let c ← h.load (some del)
    return (h, c.next)
  else do
    let h ← h.setNext c.prev c.next
    let c ← h.load (some del)
    if c.next.isSome then do
      let h ← h.setPrev c.next c.prev
      return (h, head)
    else do
      let h ← h.setPrev head c.prev
      return (h, head)

end Operations

/-- `DL_FOREACH_SAFE(head, el, tmp)`, for at most so many rounds. -/
def foreachSafe {σ : Type} (heap : σ → Heap ι α) (body : ι → σ → Except Trap σ) :
    Nat → Option ι → σ → Except Trap σ
  | _, none, s => .ok s
  | 0, some _, _ => .error .endless
  | n + 1, some el, s => do
    let c ← (heap s).load (some el)
    let s ← body el s
    foreachSafe heap body n c.next s

/-- `DL_FOREACH(head, el)`, for at most so many rounds. -/
def foreach {σ : Type} (heap : σ → Heap ι α) (body : ι → σ → Except Trap σ) :
    Nat → Option ι → σ → Except Trap σ
  | _, none, s => .ok s
  | 0, some _, _ => .error .endless
  | n + 1, some el, s => do
    let s ← body el s
    let c ← (heap s).load (some el)
    foreach heap body n c.next s

/-! ## Pieces of lists -/

/-- The cells `as` are linked to one another; the first one points back to `p` and the last one on
to `q`. -/
def Seg (h : Heap ι α) : Option ι → List ι → Option ι → Prop
  | _, [], _ => True
  | p, a :: as, q =>
    (∃ c, h a = some c ∧ c.prev = p ∧ c.next = as.head?.or q) ∧ Seg h (some a) as q

/-- The list that starts at `as.head?`. -/
structure DList (h : Heap ι α) (as : List ι) : Prop where
  nodup : as.Nodup
  seg : Seg h as.getLast? as none

theorem DList.nil (h : Heap ι α) : DList h [] := ⟨List.nodup_nil, trivial⟩

/-- Only the links of the cells matter. -/
theorem Seg.congr {h h' : Heap ι α} {as : List ι} :
    ∀ {p q : Option ι}, Seg h p as q →
      (∀ a ∈ as, (h' a).map (fun c => (c.prev, c.next)) = (h a).map fun c => (c.prev, c.next)) →
      Seg h' p as q := by
  induction as with
  | nil => exact fun _ _ => trivial
  | cons a as ih =>
    intro p q hseg heq
    obtain ⟨⟨c, hc, hprev, hnext⟩, hrest⟩ := hseg
    obtain ⟨ha, has⟩ := List.forall_mem_cons.1 heq
    rw [hc, Option.map_some, Option.map_eq_some_iff] at ha
    obtain ⟨c', hc', hlinks⟩ := ha
    obtain ⟨hp, hn⟩ := Prod.mk.inj hlinks
    exact ⟨⟨c', hc', hp.trans hprev, hn.trans hnext⟩, ih hrest has⟩

theorem Seg.congr_cells {h h' : Heap ι α} {as : List ι} {p q : Option ι} (hseg : Seg h p as q)
    (heq : ∀ a ∈ as, h' a = h a) : Seg h' p as q :=
  hseg.congr fun a ha => by rw [heq a ha]

theorem seg_append {h : Heap ι α} {as bs : List ι} :
    ∀ {p q : Option ι}, Seg h p (as ++ bs) q ↔
      Seg h p as (bs.head?.or q) ∧ Seg h (as.getLast?.or p) bs q := by
  induction as with
  | nil => exact fun {_ _} => ⟨fun hseg => ⟨trivial, hseg⟩, fun hseg => hseg.2⟩
  | cons a as ih =>
    intro p q
    have hhead : (as ++ bs).head?.or q = as.head?.or (bs.head?.or q) := by
      rw [List.head?_append, Option.or_assoc]
    have hlast : (a :: as).getLast?.or p = as.getLast?.or (some a) := by
      cases as with
      | nil => rfl
      | cons b bs => simp [List.getLast?_cons]
    rw [List.cons_append, Seg, Seg, ih, hhead, hlast, and_assoc]

theorem Seg.isSome {h : Heap ι α} {as : List ι} :
    ∀ {p q : Option ι}, Seg h p as q → ∀ a ∈ as, ∃ c, h a = some c := by
  induction as with
  | nil => exact fun _ a ha => absurd ha (List.not_mem_nil)
  | cons b as ih =>
    rintro p q ⟨⟨c, hc, -⟩, hrest⟩ a ha
    rcases List.mem_cons.1 ha with rfl | ha
    · exact ⟨c, hc⟩
    · exact ih hrest a ha

/-! ## Changing links -/

/-- Only links of the cells `S` were changed. -/
structure Relinked (S : List ι) (h h' : Heap ι α) : Prop where
  others : ∀ b, b ∉ S → h' b = h b
  values : ∀ b, (h' b).map Cell.value = (h b).map Cell.value

theorem Relinked.refl (S : List ι) (h : Heap ι α) : Relinked S h h := ⟨fun _ _ => rfl, fun _ => rfl⟩

theorem Relinked.trans {S : List ι} {h h' h'' : Heap ι α} (h₁ : Relinked S h h')
    (h₂ : Relinked S h' h'') : Relinked S h h'' :=
  ⟨fun b hb => (h₂.others b hb).trans (h₁.others b hb),
    fun b => (h₂.values b).trans (h₁.values b)⟩

/-- One cell is new. -/
structure Changed (h h' : Heap ι α) (a : ι) (c : Cell ι α) : Prop where
  here : h' a = some c
  elsewhere : ∀ b, b ≠ a → h' b = h b

theorem Changed.relinked {h h' : Heap ι α} {a : ι} {c c' : Cell ι α} (hch : Changed h h' a c')
    (hc : h a = some c) (hv : c'.value = c.value) {S : List ι} (ha : a ∈ S) : Relinked S h h' := by
  refine ⟨fun b hb => hch.elsewhere b fun heq => ?_, fun b => ?_⟩
  · rw [heq] at hb
    exact hb ha
  · by_cases hb : b = a
    · rw [hb, hch.here, hc, Option.map_some, Option.map_some, hv]
    · rw [hch.elsewhere b hb]

theorem Seg.changed {h h' : Heap ι α} {as : List ι} {p q : Option ι} (hseg : Seg h p as q) {a : ι}
    {c : Cell ι α} (hch : Changed h h' a c) (ha : a ∉ as) : Seg h' p as q := by
  refine hseg.congr_cells fun b hb => hch.elsewhere b fun heq => ?_
  rw [heq] at hb
  exact ha hb

/-- The end of a piece is linked to something else. -/
theorem Seg.set_next {h h' : Heap ι α} {as : List ι} {a : ι} {c : Cell ι α} {p q q' : Option ι}
    (hseg : Seg h p (as ++ [a]) q) (ha : a ∉ as) (hc : h a = some c)
    (hch : Changed h h' a { c with next := q' }) : Seg h' p (as ++ [a]) q' := by
  rw [seg_append] at hseg ⊢
  obtain ⟨hfront, ⟨c', hc', hprev, -⟩, -⟩ := hseg
  obtain rfl := Option.some.inj (hc.symm.trans hc')
  exact ⟨hfront.changed hch ha, ⟨_, hch.here, hprev, rfl⟩, trivial⟩

/-- The start of a piece is linked to something else. -/
theorem Seg.set_prev {h h' : Heap ι α} {as : List ι} {a : ι} {c : Cell ι α} {p p' q : Option ι}
    (hseg : Seg h p (a :: as) q) (ha : a ∉ as) (hc : h a = some c)
    (hch : Changed h h' a { c with prev := p' }) : Seg h' p' (a :: as) q := by
  obtain ⟨⟨c', hc', -, hnext⟩, hrest⟩ := hseg
  obtain rfl := Option.some.inj (hc.symm.trans hc')
  exact ⟨⟨_, hch.here, rfl, hnext⟩, hrest.changed hch ha⟩

/-- The cells at the two ends of a list. -/
theorem DList.head_prev {h : Heap ι α} {a : ι} {as : List ι} (hl : DList h (a :: as)) :
    ∃ c, h a = some c ∧ c.prev = (a :: as).getLast? := by
  obtain ⟨⟨c, hc, hprev, -⟩, -⟩ := hl.seg
  exact ⟨c, hc, hprev⟩

/-- Where an element is linked to, by where it stands. -/
theorem DList.next {h : Heap ι α} {l r : List ι} {a : ι} {c : Cell ι α} (hl : DList h (l ++ a :: r))
    (hc : h a = some c) : c.next = r.head? := by
  obtain ⟨-, ⟨c', hc', -, hnext⟩, -⟩ := seg_append.1 hl.seg
  obtain rfl := Option.some.inj (hc.symm.trans hc')
  rw [hnext, Option.or_none]

/-- The two comparisons that tell whether an element is the only one. -/
theorem DList.only_iff {h : Heap ι α} {as : List ι} {a : ι} {c : Cell ι α} (hl : DList h as)
    (ha : a ∈ as) (hc : h a = some c) : as.head? = some a ∧ c.next = none ↔ as = [a] := by
  obtain ⟨l, r, rfl⟩ := List.append_of_mem ha
  rw [hl.next hc]
  constructor
  · rintro ⟨hfirst, hlast⟩
    rw [List.head?_eq_none_iff] at hlast
    cases l with
    | nil => rw [hlast, List.nil_append]
    | cons b l =>
      have hba : b = a := Option.some.inj hfirst
      exact absurd (List.nodup_cons.1 hl.nodup).1 (by simp [hba])
  · intro heq
    have hlen := congrArg List.length heq
    rw [List.length_append, List.length_cons, List.length_singleton] at hlen
    obtain rfl : l = [] := List.length_eq_zero_iff.1 (by omega)
    obtain rfl : r = [] := List.length_eq_zero_iff.1 (by omega)
    exact ⟨rfl, rfl⟩

/-- A list with at least one element, by its last one. -/
theorem exists_last {as : List ι} (h : as ≠ []) : ∃ front a, as = front ++ [a] :=
  ⟨as.dropLast, as.getLast h, (List.dropLast_append_getLast h).symm⟩

theorem load_ok {h : Heap ι α} {a : ι} {c : Cell ι α} (hc : h a = some c) :
    h.load (some a) = .ok c := by
  rw [Heap.load, hc]

theorem ok_bind {β γ : Type} (b : β) (f : β → Except Trap γ) : (Except.ok b >>= f) = f b := rfl

section Changes

variable [DecidableEq ι]

theorem exists_modify {h : Heap ι α} {a : ι} {c : Cell ι α} (hc : h a = some c)
    (f : Cell ι α → Cell ι α) : ∃ h', h.modify (some a) f = .ok h' ∧ Changed h h' a (f c) := by
  refine ⟨Function.update h a (some (f c)), ?_, Function.update_self .., fun b hb =>
    Function.update_of_ne hb _ _⟩
  rw [Heap.modify, hc]

theorem exists_alloc {h : Heap ι α} {a : ι} (ha : h a = none) (v : α) :
    ∃ h', h.alloc a v = .ok h' ∧ Changed h h' a ⟨none, none, v⟩ := by
  refine ⟨Function.update h a (some ⟨none, none, v⟩), ?_, Function.update_self .., fun b hb =>
    Function.update_of_ne hb _ _⟩
  rw [Heap.alloc, ha]

theorem exists_setPrev {h : Heap ι α} {a : ι} {c : Cell ι α} (hc : h a = some c) (q : Option ι) :
    ∃ h', h.setPrev (some a) q = .ok h' ∧ Changed h h' a { c with prev := q } :=
  exists_modify hc _

theorem exists_setNext {h : Heap ι α} {a : ι} {c : Cell ι α} (hc : h a = some c) (q : Option ι) :
    ∃ h', h.setNext (some a) q = .ok h' ∧ Changed h h' a { c with next := q } :=
  exists_modify hc _

theorem exists_free {h : Heap ι α} {a : ι} {c : Cell ι α} (hc : h a = some c) :
    ∃ h', h.free (some a) = .ok h' ∧ h' a = none ∧ ∀ b, b ≠ a → h' b = h b := by
  refine ⟨Function.update h a none, ?_, Function.update_self .., fun b hb =>
    Function.update_of_ne hb _ _⟩
  rw [Heap.free, hc]

/-- **`DL_APPEND` appends.** -/
theorem append_ok {h : Heap ι α} {as : List ι} {a : ι} (hl : DList h as) (ha : a ∉ as)
    {c : Cell ι α} (hc : h a = some c) :
    ∃ h', append h as.head? a = .ok (h', (as ++ [a]).head?) ∧ DList h' (as ++ [a]) ∧
      Relinked (as ++ [a]) h h' := by
  have hnodup : (as ++ [a]).Nodup := List.nodup_append.2 ⟨hl.nodup, List.nodup_singleton a,
    fun b hb d hd heq => ha ((heq.trans (List.mem_singleton.1 hd)) ▸ hb)⟩
  have hain : a ∈ as ++ [a] := by simp
  by_cases hnil : as = []
  · subst hnil
    obtain ⟨h₁, hs₁, hch₁⟩ := exists_setPrev hc (some a)
    obtain ⟨h₂, hs₂, hch₂⟩ := exists_setNext hch₁.here none
    refine ⟨h₂, ?_, ⟨hnodup, ⟨_, hch₂.here, rfl, rfl⟩, trivial⟩,
      (hch₁.relinked hc rfl hain).trans (hch₂.relinked hch₁.here rfl hain)⟩
    rw [append, if_neg (by simp), hs₁]
    show (h₁.setNext (some a) none >>= _) = _
    rw [hs₂]
    rfl
  · obtain ⟨front, l, rfl⟩ := exists_last hnil
    have hseg := hl.seg
    have hlast : (front ++ [l]).getLast? = some l := List.getLast?_concat ..
    rw [hlast] at hseg
    have hlnot : l ∉ front := ((List.nodup_concat front l).1 (by simpa using hl.nodup)).1
    obtain ⟨x, xs, hxs⟩ : ∃ x xs, front ++ [l] = x :: xs := by
      cases front with
      | nil => exact ⟨l, [], rfl⟩
      | cons x xs => exact ⟨x, xs ++ [l], rfl⟩
    have hxnot : x ∉ xs := (List.nodup_cons.1 (hxs ▸ hl.nodup)).1
    have hxa : x ≠ a := fun heq => ha (by rw [hxs, heq]; exact List.mem_cons_self)
    have hla : l ≠ a := fun heq => ha (by simp [heq])
    -- `(add)->prev = (head)->prev`
    obtain ⟨cx, hcx, hprevx⟩ := (hxs ▸ hl : DList h (x :: xs)).head_prev
    rw [← hxs, hlast] at hprevx
    obtain ⟨h₁, hs₁, hch₁⟩ := exists_setPrev hc cx.prev
    have hseg₁ := hseg.changed hch₁ ha
    -- `(head)->prev->next = (add)`
    have hcx₁ : h₁ x = some cx := (hch₁.elsewhere x hxa).trans hcx
    obtain ⟨cl, hcl⟩ := hseg₁.isSome l (by simp)
    obtain ⟨h₂, hs₂, hch₂⟩ := exists_setNext hcl (some a)
    have hseg₂ := hseg₁.set_next hlnot hcl hch₂
    -- `(head)->prev = (add)`
    obtain ⟨cx₂, hcx₂⟩ := hseg₂.isSome x (by rw [hxs]; exact List.mem_cons_self)
    obtain ⟨h₃, hs₃, hch₃⟩ := exists_setPrev hcx₂ (some a)
    have hseg₃ := (hxs ▸ hseg₂ : Seg h₂ (some l) (x :: xs) (some a)).set_prev hxnot hcx₂ hch₃
    -- `(add)->next = NULL`
    have hca₃ : h₃ a = some { c with prev := cx.prev } :=
      (hch₃.elsewhere a hxa.symm).trans ((hch₂.elsewhere a hla.symm).trans hch₁.here)
    obtain ⟨h₄, hs₄, hch₄⟩ := exists_setNext hca₃ none
    have hseg₄ : Seg h₄ (some a) (front ++ [l]) (some a) := by
      rw [hxs]
      exact hseg₃.changed hch₄ (by rw [← hxs]; exact ha)
    refine ⟨h₄, ?_, ⟨hnodup, ?_⟩, ?_⟩
    · have hhead : (front ++ [l]).head? = some x := by rw [hxs]; rfl
      have hhead' : (front ++ [l] ++ [a]).head? = some x := by rw [hxs]; rfl
      rw [hhead, hhead', append, if_pos (by simp), load_ok hcx]
      show (h.setPrev (some a) cx.prev >>= _) = _
      rw [hs₁]
      show (h₁.load (some x) >>= _) = _
      rw [load_ok hcx₁]
      show (h₁.setNext cx.prev (some a) >>= _) = _
      rw [hprevx, hs₂]
      show (h₂.setPrev (some x) (some a) >>= _) = _
      rw [hs₃]
      show (h₃.setNext (some a) none >>= _) = _
      rw [hs₄]
      rfl
    · rw [List.getLast?_concat, seg_append]
      exact ⟨hseg₄, ⟨_, hch₄.here, by rw [hlast]; exact hprevx, rfl⟩, trivial⟩
    · have hxin : x ∈ front ++ [l] ++ [a] := by rw [hxs]; simp
      exact (((hch₁.relinked hc rfl hain).trans (hch₂.relinked hcl rfl (by simp))).trans
        (hch₃.relinked hcx₂ rfl hxin)).trans (hch₄.relinked hca₃ rfl hain)

/-- **`DL_DELETE` takes an element out**, and leaves its cell as it is. -/
theorem delete_ok {h : Heap ι α} {l r : List ι} {a : ι} (hl : DList h (l ++ a :: r)) :
    ∃ h', delete h (l ++ a :: r).head? a = .ok (h', (l ++ r).head?) ∧ DList h' (l ++ r) ∧
      Relinked (l ++ a :: r) h h' ∧ h' a = h a := by
  have hnodup : (l ++ r).Nodup := hl.nodup.sublist (by simp)
  have hnot : a ∉ l ++ r := (List.nodup_middle.1 hl.nodup |> List.nodup_cons.1).1
  have hal : a ∉ l := fun h => hnot (List.mem_append_left _ h)
  have har : a ∉ r := fun h => hnot (List.mem_append_right _ h)
  obtain ⟨hsegl, ⟨c, hc, hprev, hnext⟩, hsegr⟩ := seg_append.1 hl.seg
  have hlast : (l ++ a :: r).getLast? = r.getLast?.or (some a) := by
    cases r with
    | nil => simp
    | cons b r => simp [List.getLast?_append, List.getLast?_cons]
  rw [hlast] at hsegl hprev
  rw [List.head?_cons] at hsegl
  rw [Option.or_none] at hnext
  rw [delete, load_ok hc]
  show ∃ h', (if c.prev = some a then _ else _) = _ ∧ _
  by_cases hl0 : l = []
  · subst hl0
    simp only [List.nil_append] at hl hnodup ⊢
    by_cases hr0 : r = []
    · -- the only element
      subst hr0
      rw [if_pos (by simpa using hprev)]
      exact ⟨h, rfl, DList.nil h, Relinked.refl _ h, rfl⟩
    · -- the first of several
      obtain ⟨front, b, hfront⟩ := exists_last hr0
      have hb : r.getLast? = some b := by rw [hfront]; exact List.getLast?_concat ..
      rw [hb, Option.some_or, List.getLast?_nil, Option.none_or] at hprev
      have hba : b ≠ a := fun heq => har (by rw [hfront, heq]; simp)
      obtain ⟨x, xs, rfl⟩ := List.exists_cons_of_ne_nil hr0
      have hxa : x ≠ a := fun heq => har (by rw [heq]; exact List.mem_cons_self)
      obtain ⟨cx, hcx⟩ := hsegr.isSome x List.mem_cons_self
      obtain ⟨h₁, hs₁, hch₁⟩ := exists_setPrev hcx c.prev
      have hseg₁ := hsegr.set_prev (List.nodup_cons.1 hnodup).1 hcx hch₁
      refine ⟨h₁, ?_, ⟨hnodup, by rw [hb, ← hprev]; exact hseg₁⟩, hch₁.relinked hcx rfl (by simp),
        hch₁.elsewhere a hxa.symm⟩
      rw [if_neg (by rw [hprev]; simpa using hba), if_pos (by simp), hnext]
      show (h.setPrev (some x) c.prev >>= _) = _
      rw [hs₁]
      show (h₁.load (some a) >>= _) = _
      rw [load_ok ((hch₁.elsewhere a hxa.symm).trans hc)]
      exact congrArg (fun p => Except.ok (h₁, p)) hnext
  · -- not the first: the element before it is linked to the one behind it
    obtain ⟨front, b, rfl⟩ := exists_last hl0
    rw [List.getLast?_concat, Option.some_or] at hprev
    have hba : b ≠ a := fun heq => hal (by simp [heq])
    obtain ⟨y, ys, hys⟩ : ∃ y ys, front ++ [b] = y :: ys :=
      List.exists_cons_of_ne_nil (by simp)
    have hya : y ≠ a := fun heq => hal (by rw [hys, heq]; exact List.mem_cons_self)
    have hhead : (front ++ [b] ++ a :: r).head? = some y := by rw [hys]; rfl
    have hhead' : (front ++ [b] ++ r).head? = some y := by rw [hys]; rfl
    have hbf : b ∉ front := by
      have hfb : (front ++ [b]).Nodup := hnodup.sublist (by simp)
      exact ((List.nodup_concat front b).1 (by simpa using hfb)).1
    obtain ⟨cb, hcb⟩ := hsegl.isSome b (by simp)
    obtain ⟨h₁, hs₁, hch₁⟩ := exists_setNext hcb c.next
    have hsegl₁ := hsegl.set_next hbf hcb hch₁
    have hbr : b ∉ r := fun hbr => by
      have hdis := (List.nodup_append.1 hnodup).2.2 b (by simp) b hbr
      exact hdis rfl
    have hsegr₁ := hsegr.changed hch₁ hbr
    have hc₁ : h₁ a = some c := (hch₁.elsewhere a hba.symm).trans hc
    have hrun : ∀ x : Except Trap (Heap ι α × Option ι),
        (if c.prev = some a then Except.ok (h, none)
        else if some a = some y then x
        else do
          let h ← h.setNext c.prev c.next
          let c ← h.load (some a)
          if c.next.isSome then do
            let h ← h.setPrev c.next c.prev
            return (h, some y)
          else do
            let h ← h.setPrev (some y) c.prev
            return (h, some y)) =
        (if c.next.isSome then do
          let h ← h₁.setPrev c.next c.prev
          return (h, some y)
        else do
          let h ← h₁.setPrev (some y) c.prev
          return (h, some y)) := by
      intro x
      rw [if_neg (by rw [hprev]; simpa using hba), if_neg (by simpa using hya.symm), hprev, hs₁]
      show (h₁.load (some a) >>= _) = _
      rw [load_ok hc₁]
      rw [← hprev]
      rfl
    rw [hhead, hhead']
    by_cases hr0 : r = []
    · -- the last one: the first element points back to the one before it
      subst hr0
      obtain ⟨cy, hcy⟩ := hsegl₁.isSome y (by rw [hys]; exact List.mem_cons_self)
      obtain ⟨h₂, hs₂, hch₂⟩ := exists_setPrev hcy c.prev
      have hynot : y ∉ ys := by
        have hnd : (front ++ [b]).Nodup := hnodup.sublist (by simp)
        exact (List.nodup_cons.1 (hys ▸ hnd)).1
      rw [hnext] at hsegl₁
      have hseg₂ := (hys ▸ hsegl₁ : Seg h₁ _ (y :: ys) _).set_prev hynot hcy hch₂
      rw [List.append_nil] at hnodup ⊢
      refine ⟨h₂, ?_, ⟨hnodup, ?_⟩, (hch₁.relinked hcb rfl (by simp)).trans
        (hch₂.relinked hcy rfl (by rw [hys]; simp)),
        (hch₂.elsewhere a hya.symm).trans (hch₁.elsewhere a hba.symm)⟩
      · refine (hrun _).trans ?_
        rw [hnext, if_neg (by simp), hs₂]
        rfl
      · rw [List.getLast?_concat, ← hprev, hys]
        exact hseg₂
    · obtain ⟨x, xs, rfl⟩ := List.exists_cons_of_ne_nil hr0
      obtain ⟨cx, hcx⟩ := hsegr₁.isSome x List.mem_cons_self
      obtain ⟨h₂, hs₂, hch₂⟩ := exists_setPrev hcx c.prev
      have hxnot : x ∉ xs := (List.nodup_cons.1 (hnodup.sublist (by simp))).1
      have hxa : x ≠ a := fun heq => har (by rw [heq]; exact List.mem_cons_self)
      have hseg₂ := hsegr₁.set_prev hxnot hcx hch₂
      have hxl : x ∉ front ++ [b] := fun hxl =>
        (List.nodup_append.1 hnodup).2.2 x hxl x List.mem_cons_self rfl
      refine ⟨h₂, ?_, ⟨hnodup, ?_⟩, (hch₁.relinked hcb rfl (by simp)).trans
        (hch₂.relinked hcx rfl (by simp)),
        (hch₂.elsewhere a hxa.symm).trans (hch₁.elsewhere a hba.symm)⟩
      · refine (hrun _).trans ?_
        rw [hnext]
        show (h₁.setPrev (some x) c.prev >>= _) = _
        rw [hs₂]
        rfl
      · have hlast' : (front ++ [b] ++ x :: xs).getLast? = (x :: xs).getLast?.or (some a) := by
          rw [List.getLast?_append]
          cases hgl : (x :: xs).getLast? with
          | none => simp at hgl
          | some z => rfl
        rw [hlast', seg_append]
        refine ⟨?_, by rw [List.getLast?_concat, Option.some_or, ← hprev]; exact hseg₂⟩
        rw [hnext] at hsegl₁
        exact hsegl₁.changed hch₂ hxl

end Changes

/-! ## Loops over a list -/

section Loops

variable {σ : Type} (heap : σ → Heap ι α) (body : ι → σ → Except Trap σ)

/-- **The rule for `DL_FOREACH_SAFE`.**  The invariant is about the elements still to come; it says
where the next one is before the body runs, and the body may do as it likes with the element. -/
theorem foreachSafe_ok {I : List ι → σ → Prop}
    (hnext : ∀ a as s, I (a :: as) s → ∃ c, heap s a = some c ∧ c.next = as.head?)
    (hbody : ∀ a as s, I (a :: as) s → ∃ s', body a s = .ok s' ∧ I as s') (n : Nat) :
    ∀ (as : List ι) (s : σ), as.length ≤ n → I as s →
      ∃ s', foreachSafe heap body n as.head? s = .ok s' ∧ I [] s' := by
  induction n with
  | zero =>
    intro as s hlen hi
    obtain rfl := List.length_eq_zero_iff.1 (Nat.le_zero.1 hlen)
    exact ⟨s, rfl, hi⟩
  | succ n ih =>
    intro as s hlen hi
    cases as with
    | nil => exact ⟨s, rfl, hi⟩
    | cons a as =>
      obtain ⟨c, hc, hlink⟩ := hnext a as s hi
      obtain ⟨s', hs', hi'⟩ := hbody a as s hi
      obtain ⟨t, ht, hend⟩ := ih as s' (Nat.le_of_succ_le_succ hlen) hi'
      refine ⟨t, ?_, hend⟩
      rw [List.head?_cons, foreachSafe, load_ok hc]
      show (body a s >>= _) = _
      rw [hs']
      show foreachSafe heap body n c.next s' = _
      rw [hlink, ht]

/-- The rule for `DL_FOREACH`, whose body has to leave the element there. -/
theorem foreach_ok {I : List ι → σ → Prop}
    (hbody : ∀ a as s, I (a :: as) s → ∃ s', body a s = .ok s' ∧ I as s' ∧
      ∃ c, heap s' a = some c ∧ c.next = as.head?) (n : Nat) :
    ∀ (as : List ι) (s : σ), as.length ≤ n → I as s →
      ∃ s', foreach heap body n as.head? s = .ok s' ∧ I [] s' := by
  induction n with
  | zero =>
    intro as s hlen hi
    obtain rfl := List.length_eq_zero_iff.1 (Nat.le_zero.1 hlen)
    exact ⟨s, rfl, hi⟩
  | succ n ih =>
    intro as s hlen hi
    cases as with
    | nil => exact ⟨s, rfl, hi⟩
    | cons a as =>
      obtain ⟨s', hs', hi', c, hc, hlink⟩ := hbody a as s hi
      obtain ⟨t, ht, hend⟩ := ih as s' (Nat.le_of_succ_le_succ hlen) hi'
      refine ⟨t, ?_, hend⟩
      rw [List.head?_cons, foreach, hs']
      show ((heap s').load (some a) >>= _) = _
      rw [load_ok hc]
      show foreach heap body n c.next s' = _
      rw [hlink, ht]

/-- A body that frees its element is caught in the first round of `DL_FOREACH`. -/
theorem foreach_freed {n : Nat} {a : ι} {s s' : σ} (hbody : body a s = .ok s')
    (hfreed : heap s' a = none) : foreach heap body (n + 1) (some a) s = .error .notAllocated := by
  rw [foreach, hbody]
  show ((heap s').load (some a) >>= _) = _
  rw [Heap.load, hfreed]
  rfl

end Loops

end LinkedList
