import LibUvc.Foundation.Scan

/-!
# Searching for the first item that fits

A search goes through a list and stops at the first item that fits.  Code often does more than that
on the way: it asks a device about each item it considers, keeps what it was told in the state of
the search, and leaves several nested loops at once when it has found something.

`Searches I Q f look` relates such code to the search itself.  `f` treats one item, answering 1 to
stop; `look` says what the search makes of the item, as a function of the item alone; `I` is what
`f` keeps while it goes on, and `Q` what holds when it stops.  The relation passes from the body of
a loop to the loop (`Searches.forEach`), and so through any number of nested ones.  What is left is
`List.findSomeM? look`, which says nothing about states any more.
-/

set_option autoImplicit false

namespace Search

open Checked Scan

variable {σ α β γ : Type}

/-- `f` does what `look` says, in every state that meets `I`. -/
def Searches (I : σ → Prop) (Q : β → σ → Prop) (f : σ → α → Checked (Int × σ))
    (look : α → Checked (Option β)) : Prop :=
  ∀ s a, I s →
    match look a with
    | .error e => f s a = .error e
    | .ok none => ∃ t, f s a = .ok (0, t) ∧ I t
    | .ok (some b) => ∃ t, f s a = .ok (1, t) ∧ Q b t

/-- **From the body of a loop to the loop.** -/
theorem Searches.forEach {I : σ → Prop} {Q : β → σ → Prop} {f : σ → α → Checked (Int × σ)}
    {look : α → Checked (Option β)} (h : Searches I Q f look) :
    Searches I Q (forEach f) (List.findSomeM? look) := by
  intro s as hs
  induction as generalizing s with
  | nil => exact ⟨s, rfl, hs⟩
  | cons a as ih =>
    have ha := h s a hs
    rw [List.findSomeM?_cons, Scan.forEach]
    cases hlook : look a with
    | error e =>
      rw [hlook] at ha
      rw [error_bind, ha]
      rfl
    | ok found =>
      rw [hlook] at ha
      rw [ok_bind]
      cases found with
      | none =>
        obtain ⟨t, ht, hI⟩ := ha
        have hrest := ih t hI
        rw [ht, ok_bind]
        simp only []
        rw [if_neg (by simp)]
        exact hrest
      | some b =>
        obtain ⟨t, ht, hQ⟩ := ha
        rw [ht, ok_bind]
        exact ⟨t, rfl, hQ⟩

section Outcomes

variable {I : σ → Prop} {Q : β → σ → Prop} {f : σ → α → Checked (Int × σ)}
  {look : α → Checked (Option β)} {s : σ} {a : α}

/-- The search has gone through everything. -/
theorem Searches.exhausted (h : Searches I Q f look) (hs : I s) (hlook : look a = .ok none) :
    ∃ t, f s a = .ok (0, t) ∧ I t := by
  have hfs := h s a hs
  rwa [hlook] at hfs

/-- The search has ended at `b`. -/
theorem Searches.stopped (h : Searches I Q f look) (hs : I s) {b : β}
    (hlook : look a = .ok (some b)) : ∃ t, f s a = .ok (1, t) ∧ Q b t := by
  have hfs := h s a hs
  rwa [hlook] at hfs

/-- The code gets through if the search does. -/
theorem Searches.safe_iff (h : Searches I Q f look) (hs : I s) : Safe (f s a) ↔ Safe (look a) := by
  cases hlook : look a with
  | error e =>
    have hfs := h s a hs
    rw [hlook] at hfs
    rw [show f s a = .error e from hfs]
    exact iff_of_false (not_safe_error e) (not_safe_error e)
  | ok found =>
    cases found with
    | none =>
      obtain ⟨t, ht, -⟩ := h.exhausted hs hlook
      rw [ht]
      exact iff_of_true (safe_ok _) (safe_ok _)
    | some b =>
      obtain ⟨t, ht, -⟩ := h.stopped hs hlook
      rw [ht]
      exact iff_of_true (safe_ok _) (safe_ok _)

end Outcomes

/-! ## The search itself -/

section Find

variable {look : α → Checked (Option β)}

/-- A loop that skips some of its items. -/
theorem findSomeM?_filter (p : α → Bool) (as : List α) :
    (as.filter p).findSomeM? look =
      as.findSomeM? fun a => if p a then look a else return none := by
  induction as with
  | nil => rfl
  | cons a as ih =>
    rw [List.filter_cons, List.findSomeM?_cons]
    cases hp : p a with
    | true =>
      rw [if_pos rfl, if_pos rfl, List.findSomeM?_cons, ih]
    | false =>
      rw [if_neg (by simp), if_neg (by simp), pure_bind', ih]

theorem findSomeM?_append (as bs : List α) :
    (as ++ bs).findSomeM? look = (do
      match ← as.findSomeM? look with
      | some b => return some b
      | none => bs.findSomeM? look) := by
  induction as with
  | nil => rfl
  | cons a as ih =>
    rw [List.cons_append, List.findSomeM?_cons, List.findSomeM?_cons, ih, bind_assoc]
    congr 1
    funext found
    cases found with
    | none => rfl
    | some b => rfl

/-- Nested loops are one loop. -/
theorem findSomeM?_flatMap (g : γ → List α) (cs : List γ) :
    (cs.flatMap g).findSomeM? look = cs.findSomeM? fun c => (g c).findSomeM? look := by
  induction cs with
  | nil => rfl
  | cons c cs ih =>
    rw [List.flatMap_cons, findSomeM?_append, List.findSomeM?_cons, ih]
    rfl

theorem findSomeM?_map (g : γ → α) (cs : List γ) :
    (cs.map g).findSomeM? look = cs.findSomeM? fun c => look (g c) := by
  induction cs with
  | nil => rfl
  | cons c cs ih =>
    rw [List.map_cons, List.findSomeM?_cons, List.findSomeM?_cons, ih]

theorem findSomeM?_congr {look' : α → Checked (Option β)} {as : List α}
    (h : ∀ a ∈ as, look a = look' a) : as.findSomeM? look = as.findSomeM? look' := by
  induction as with
  | nil => rfl
  | cons a as ih =>
    obtain ⟨ha, has⟩ := List.forall_mem_cons.1 h
    rw [List.findSomeM?_cons, List.findSomeM?_cons, ha, ih has]

end Find

/-! ## The items a search comes to -/

/-- The search comes to `a`, going on only as long as `p` holds. -/
def Reached (p : α → Prop) (as : List α) (a : α) : Prop :=
  ∃ front back, as = front ++ a :: back ∧ ∀ b ∈ front, p b

theorem not_reached_nil {p : α → Prop} {a : α} : ¬ Reached p [] a := by
  rintro ⟨front, back, heq, -⟩
  simp at heq

theorem reached_cons {p : α → Prop} {as : List α} {a b : α} :
    Reached p (a :: as) b ↔ b = a ∨ p a ∧ Reached p as b := by
  constructor
  · rintro ⟨front, back, heq, hfront⟩
    cases front with
    | nil =>
      obtain ⟨rfl, -⟩ := List.cons.inj heq
      exact Or.inl rfl
    | cons c front =>
      obtain ⟨rfl, htail⟩ := List.cons.inj heq
      obtain ⟨ha, hfront⟩ := List.forall_mem_cons.1 hfront
      exact Or.inr ⟨ha, front, back, htail, hfront⟩
  · rintro (rfl | ⟨ha, front, back, rfl, hfront⟩)
    · exact ⟨[], as, rfl, by simp⟩
    · exact ⟨a :: front, back, rfl, List.forall_mem_cons.2 ⟨ha, hfront⟩⟩

/-- What holds of all items that the search comes to. -/
theorem forall_reached_cons {p q : α → Prop} {as : List α} {a : α} :
    (∀ b, Reached p (a :: as) b → q b) ↔ q a ∧ (p a → ∀ b, Reached p as b → q b) := by
  simp only [reached_cons]
  constructor
  · exact fun h => ⟨h a (Or.inl rfl), fun ha b hb => h b (Or.inr ⟨ha, hb⟩)⟩
  · rintro ⟨hq, hrest⟩ b (rfl | ⟨ha, hb⟩)
    · exact hq
    · exact hrest ha b hb

theorem Reached.mem {p : α → Prop} {as : List α} {a : α} (h : Reached p as a) : a ∈ as := by
  obtain ⟨front, back, rfl, -⟩ := h
  simp

/-- **A search is safe** if and only if each item is that it comes to. -/
theorem safe_findSomeM? {look : α → Checked (Option β)} {Good Hit : α → Prop} {as : List α}
    (hsafe : ∀ a ∈ as, Safe (look a) ↔ Good a)
    (hnone : ∀ a ∈ as, Good a → (look a = .ok none ↔ ¬ Hit a)) :
    Safe (as.findSomeM? look) ↔ ∀ a, Reached (fun b => ¬ Hit b) as a → Good a := by
  induction as with
  | nil => exact iff_of_true (safe_pure _) fun a ha => absurd ha not_reached_nil
  | cons a as ih =>
    obtain ⟨ha, has⟩ := List.forall_mem_cons.1 hsafe
    obtain ⟨hmiss, hmisses⟩ := List.forall_mem_cons.1 hnone
    rw [List.findSomeM?_cons, safe_bind, forall_reached_cons, ← ih has hmisses]
    constructor
    · rintro ⟨found, hlook, hrest⟩
      have hgood : Good a := ha.1 ⟨found, hlook⟩
      refine ⟨hgood, fun hno => ?_⟩
      obtain rfl : found = none := by
        rw [(hmiss hgood).2 hno] at hlook
        exact (Except.ok.inj hlook).symm
      exact hrest
    · rintro ⟨hgood, hrest⟩
      obtain ⟨found, hlook⟩ := ha.2 hgood
      refine ⟨found, hlook, ?_⟩
      cases found with
      | some b => exact safe_pure _
      | none => exact hrest ((hmiss hgood).1 hlook)

end Search
