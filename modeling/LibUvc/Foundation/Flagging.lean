import LibUvc.Foundation.Reassembly

/-!
# Which record gets the blame for a damaged chunk

The receiver of `Reassembly`, on a wire where chunks may arrive damaged.  A damaged chunk is dropped
and sets a flag; the flag goes out with the next record that is put out, and is cleared then.

The tag of a damaged chunk is not looked at.  So the flag goes to whatever is put out next, which is
the record before if that one is still pending: a record that begins with a damaged chunk blames its
predecessor, and may then go out without a flag itself.  A record of which no chunk arrives is not
seen at all, and its damage is charged to somebody else.  `flagAll_records` says which flags the
records of a transmission go out with, and `charged_eq_carried_iff` when these are the right ones,
for all transmissions in which no record is taken for the rest of another (`Apart`).
-/

set_option autoImplicit false

namespace Reassembly

universe u v

variable {φ : Type u} {β : Type v}

/-- The receiver, with the flag for a damaged chunk. -/
structure Flagged (φ : Type u) (β : Type v) where
  receiver : Receiver φ β
  flag : Bool

section Flag

variable [DecidableEq φ] [DecidableEq β]

/-- Put the pending data out if `due`, with the flag. -/
def flagFlushIf (due : Bool) (s : Flagged φ β) : Flagged φ β × List (List β × Bool) :=
  if due then (⟨⟨s.receiver.tag, []⟩, false⟩, [(s.receiver.pending, s.flag)]) else (s, [])

/-- One chunk; `none` is one that is damaged. -/
def flagAbsorb (limit : Nat) (s : Flagged φ β) :
    Option (Chunk φ β) → Flagged φ β × List (List β × Bool)
  | none => ({ s with flag := true }, [])
  | some c =>
    let (s1, a) := flagFlushIf (stale s.receiver c.tag) s
    let (s2, b) := flagFlushIf (complete limit s1.receiver c) ⟨extend limit s1.receiver c, s1.flag⟩
    (s2, a ++ b)

/-- A sequence of chunks. -/
def flagAll (limit : Nat) (s : Flagged φ β) :
    List (Option (Chunk φ β)) → Flagged φ β × List (List β × Bool)
  | [] => (s, [])
  | e :: es =>
    let (s1, a) := flagAbsorb limit s e
    let (s2, b) := flagAll limit s1 es
    (s2, a ++ b)

theorem flagAll_append (limit : Nat) (s : Flagged φ β) (es es' : List (Option (Chunk φ β))) :
    flagAll limit s (es ++ es') =
      ((flagAll limit (flagAll limit s es).1 es').1,
        (flagAll limit s es).2 ++ (flagAll limit (flagAll limit s es).1 es').2) := by
  induction es generalizing s with
  | nil => simp [flagAll]
  | cons e es ih => simp only [List.cons_append, flagAll, ih, List.append_assoc]

end Flag

/-! ## Records -/

/-- The data that arrives undamaged. -/
def received (es : List (Option (Chunk φ β))) : List β := joined (es.filterMap id)

@[simp] theorem received_none (es : List (Option (Chunk φ β))) :
    received (none :: es) = received es := rfl

@[simp] theorem received_some (c : Chunk φ β) (es : List (Option (Chunk φ β))) :
    received (some c :: es) = c.data ++ received es := rfl

/-- The last of the chunks arrives undamaged, with data and the end mark. -/
def endsWell [DecidableEq β] (es : List (Option (Chunk φ β))) : Bool :=
  match es.getLast? with
  | some (some c) => c.last && c.data != []
  | _ => false

/-- A record as it arrives: one or more chunks of one tag, the end mark on the last one if on any,
some of them damaged. -/
structure NoisyRecord (φ : Type u) (β : Type v) where
  tag : φ
  events : List (Option (Chunk φ β))
  nonempty : events ≠ []
  tagged : ∀ c, some c ∈ events → c.tag = tag
  marked : ∀ c, some c ∈ events.dropLast → c.last = false

namespace NoisyRecord

/-- What arrives of the record. -/
def content (f : NoisyRecord φ β) : List β := received f.events

/-- Some chunk of the record is damaged. -/
def flawed (f : NoisyRecord φ β) : Bool := f.events.any Option.isNone

/-- The first chunk of the record is damaged. -/
def lead (f : NoisyRecord φ β) : Bool := f.events.head?.any Option.isNone

/-- A chunk is damaged after one that is not. -/
def tail (f : NoisyRecord φ β) : Bool := (f.events.dropWhile Option.isNone).any Option.isNone

/-- Some chunk of the record arrives, and with it the tag. -/
def shows (f : NoisyRecord φ β) : Bool := f.events.any Option.isSome

/-- The record itself announces its end. -/
def closed [DecidableEq β] (f : NoisyRecord φ β) : Bool := endsWell f.events

/-- The record is still pending after its last chunk. -/
def waits [DecidableEq β] (f : NoisyRecord φ β) : Bool := f.content != [] && !f.closed

end NoisyRecord

section Run

variable [DecidableEq φ] [DecidableEq β] {limit : Nat}

omit [DecidableEq φ] in
theorem endsWell_none (es : List (Option (Chunk φ β))) : endsWell (none :: es) = endsWell es := by
  cases es with
  | nil => rfl
  | cons e es => rw [endsWell, endsWell, List.getLast?_cons_cons]

omit [DecidableEq φ] in
theorem endsWell_some {c : Chunk φ β} {es : List (Option (Chunk φ β))} (h : es ≠ []) :
    endsWell (some c :: es) = endsWell es := by
  obtain ⟨e, es, rfl⟩ := List.exists_cons_of_ne_nil h
  rw [endsWell, endsWell, List.getLast?_cons_cons]

/-- A chunk of the pending record, which does not fill it up. -/
theorem flagAbsorb_same {c : Chunk φ β} {tag : φ} {pending : List β} {flag : Bool}
    (htag : c.tag = tag) (hshort : (pending ++ c.data).length < limit) :
    flagAbsorb limit ⟨⟨tag, pending⟩, flag⟩ (some c) =
      if c.last && c.data != [] then (⟨⟨tag, []⟩, false⟩, [(pending ++ c.data, flag)])
      else (⟨⟨tag, pending ++ c.data⟩, flag⟩, []) := by
  have hstale : stale (⟨tag, pending⟩ : Receiver φ β) c.tag = false := by simp [stale, htag]
  have hext : extend limit ⟨tag, pending⟩ c = ⟨tag, pending ++ c.data⟩ :=
    extend_same htag hshort.le
  have hcomp : complete limit ⟨tag, pending⟩ c = (c.last && c.data != []) := by
    have hne : ((pending ++ c.data).length == limit) = false := by
      rw [beq_eq_false_iff_ne]
      omega
    rw [complete, hext, hne, Bool.or_false, Bool.and_comm]
  simp only [flagAbsorb, flagFlushIf, hstale, Bool.false_eq_true, if_false, hext, hcomp]
  split
  · rfl
  · rfl

/-- **The rest of a record** that does not reach the limit: it is put out if it ends well, with a
flag for what was damaged. -/
theorem flagAll_rest {es : List (Option (Chunk φ β))} {tag : φ} {pending : List β} {flag : Bool}
    (htag : ∀ c, some c ∈ es → c.tag = tag) (hmark : ∀ c, some c ∈ es.dropLast → c.last = false)
    (hshort : (pending ++ received es).length < limit) :
    flagAll limit ⟨⟨tag, pending⟩, flag⟩ es =
      if endsWell es then
        (⟨⟨tag, []⟩, false⟩, [(pending ++ received es, flag || es.any Option.isNone)])
      else (⟨⟨tag, pending ++ received es⟩, flag || es.any Option.isNone⟩, []) := by
  induction es generalizing pending flag with
  | nil => simp [flagAll, endsWell, received]
  | cons e es ih =>
    have htag' : ∀ c, some c ∈ es → c.tag = tag := fun c hc => htag c (List.mem_cons_of_mem _ hc)
    have hmark' : ∀ c, some c ∈ es.dropLast → c.last = false := by
      intro c hc
      refine hmark c ?_
      rw [List.dropLast_cons_of_ne_nil (by rintro rfl; simp at hc)]
      exact List.mem_cons_of_mem _ hc
    cases e with
    | none =>
      rw [flagAll, flagAbsorb]
      simp only []
      rw [ih htag' hmark' hshort, endsWell_none]
      simp only [received_none, List.any_cons, Option.isNone_none, Bool.true_or, Bool.or_true]
      split
      · rfl
      · rfl
    | some c =>
      rw [received_some, ← List.append_assoc] at hshort ⊢
      have hfit : (pending ++ c.data).length < limit := by
        rw [List.length_append] at hshort
        omega
      rw [flagAll, flagAbsorb_same (htag c List.mem_cons_self) hfit]
      by_cases hnil : es = []
      · subst hnil
        have hends : endsWell [some c] = (c.last && c.data != []) := rfl
        rw [hends]
        by_cases hwell : (c.last && c.data != []) = true
        · simp only [if_pos hwell]
          simp [flagAll, received]
        · simp only [if_neg hwell]
          simp [flagAll, received]
      · have hlast : c.last = false := by
          refine hmark c ?_
          rw [List.dropLast_cons_of_ne_nil hnil]
          exact List.mem_cons_self
        rw [hlast, Bool.false_and, if_neg (by simp)]
        simp only []
        rw [ih htag' hmark' hshort, endsWell_some hnil]
        simp only [List.any_cons, Option.isNone_some, Bool.false_or, List.nil_append]

/-- What is put out before the first chunk that arrives of a record: the pending data, if any, with
the flag for it. -/
def blamed (s : Flagged φ β) (lead : Bool) : List (List β × Bool) :=
  if s.receiver.pending = [] then [] else [(s.receiver.pending, s.flag || lead)]

/-- The flag after that. -/
def flagLeft (s : Flagged φ β) (lead : Bool) : Bool :=
  s.receiver.pending = [] && (s.flag || lead)

/-- The first chunk that arrives of a record. -/
theorem flagAbsorb_first {c : Chunk φ β} {s : Flagged φ β}
    (hs : s.receiver.pending = [] ∨ s.receiver.tag ≠ c.tag) :
    flagAbsorb limit s (some c) =
      ((flagAbsorb limit ⟨⟨c.tag, []⟩, flagLeft s false⟩ (some c)).1,
        blamed s false ++ (flagAbsorb limit ⟨⟨c.tag, []⟩, flagLeft s false⟩ (some c)).2) := by
  have hnew : stale (⟨c.tag, []⟩ : Receiver φ β) c.tag = false := by simp [stale]
  by_cases hnil : s.receiver.pending = []
  · have hstale : stale s.receiver c.tag = false := by simp [stale, hnil]
    simp [flagAbsorb, flagFlushIf, hstale, hnew, blamed, flagLeft, hnil, extend, complete]
  · have hstale : stale s.receiver c.tag = true := by simp [stale, hnil, hs.resolve_left hnil]
    simp [flagAbsorb, flagFlushIf, hstale, hnew, blamed, flagLeft, hnil, extend, complete]

/-- The damaged chunks at the front of a record, and the first that is not. -/
theorem flagAll_front {es : List (Option (Chunk φ β))} {tag : φ} {s : Flagged φ β}
    (htag : ∀ c, some c ∈ es → c.tag = tag) (hs : s.receiver.pending = [] ∨ s.receiver.tag ≠ tag)
    (hspeaks : ∃ c, some c ∈ es) :
    flagAll limit s es =
      ((flagAll limit ⟨⟨tag, []⟩, flagLeft s (es.head?.any Option.isNone)⟩
          (es.dropWhile Option.isNone)).1,
        blamed s (es.head?.any Option.isNone) ++
          (flagAll limit ⟨⟨tag, []⟩, flagLeft s (es.head?.any Option.isNone)⟩
            (es.dropWhile Option.isNone)).2) := by
  induction es generalizing s with
  | nil =>
    obtain ⟨c, hc⟩ := hspeaks
    simp at hc
  | cons e es ih =>
    cases e with
    | none =>
      have hrest := ih (s := { s with flag := true })
        (fun c hc => htag c (List.mem_cons_of_mem _ hc)) hs (by simpa using hspeaks)
      rw [flagAll, flagAbsorb]
      simp only []
      rw [hrest]
      simp [blamed, flagLeft]
    | some c =>
      obtain rfl := htag c List.mem_cons_self
      rw [flagAll, flagAbsorb_first hs]
      simp only [List.head?_cons, Option.any_some, Option.isNone_some, List.dropWhile_cons_of_neg,
        Bool.false_eq_true, not_false_eq_true, flagAll, List.append_assoc]

omit [DecidableEq φ] [DecidableEq β] in
theorem received_dropWhile (es : List (Option (Chunk φ β))) :
    received (es.dropWhile Option.isNone) = received es := by
  induction es with
  | nil => rfl
  | cons e es ih =>
    cases e with
    | none => exact ih
    | some c => rfl

omit [DecidableEq φ] in
theorem endsWell_dropWhile (es : List (Option (Chunk φ β))) :
    endsWell (es.dropWhile Option.isNone) = endsWell es := by
  induction es with
  | nil => rfl
  | cons e es ih =>
    cases e with
    | none => exact ih.trans (endsWell_none es).symm
    | some c => rfl

/-- **One record**, some of which arrives, after one of another tag or with nothing pending. -/
theorem flagAll_record {f : NoisyRecord φ β} {s : Flagged φ β}
    (hs : s.receiver.pending = [] ∨ s.receiver.tag ≠ f.tag) (hspeaks : ∃ c, some c ∈ f.events)
    (hshort : f.content.length < limit) :
    flagAll limit s f.events =
      if f.closed then
        (⟨⟨f.tag, []⟩, false⟩, blamed s f.lead ++ [(f.content, flagLeft s f.lead || f.tail)])
      else (⟨⟨f.tag, f.content⟩, flagLeft s f.lead || f.tail⟩, blamed s f.lead) := by
  have hsub : f.events.dropWhile Option.isNone <:+ f.events := List.dropWhile_suffix _
  have hlast : ∀ c, some c ∈ (f.events.dropWhile Option.isNone).dropLast → c.last = false := by
    intro c hc
    obtain ⟨front, hfront⟩ := hsub
    have hne : f.events.dropWhile Option.isNone ≠ [] := by
      intro hnil
      simp [hnil] at hc
    refine f.marked c ?_
    rw [← hfront, List.dropLast_append_of_ne_nil hne]
    exact List.mem_append_right _ hc
  have hrest : flagAll limit ⟨⟨f.tag, []⟩, flagLeft s f.lead⟩
      (f.events.dropWhile Option.isNone) = _ :=
    flagAll_rest (fun c hc => f.tagged c (hsub.subset hc)) hlast
      (by rw [received_dropWhile]; exact hshort)
  rw [flagAll_front f.tagged hs hspeaks]
  rw [received_dropWhile, endsWell_dropWhile] at hrest
  show ((flagAll limit ⟨⟨f.tag, []⟩, flagLeft s f.lead⟩ (f.events.dropWhile Option.isNone)).1,
    blamed s f.lead ++
      (flagAll limit ⟨⟨f.tag, []⟩, flagLeft s f.lead⟩ (f.events.dropWhile Option.isNone)).2) = _
  rw [hrest, NoisyRecord.closed]
  split
  · rfl
  · rw [List.append_nil]
    rfl

/-! ## Sequences of records -/

/-- The record changes nothing for one that is pending with the tag `waiting`: nothing of it
arrives, or it has the same tag. -/
def passes (waiting : Option φ) (f : NoisyRecord φ β) : Bool :=
  !f.shows || decide (waiting = some f.tag)

/-- The record that is pending after `f`, by its tag. -/
def waitingAfter (waiting : Option φ) (f : NoisyRecord φ β) : Option φ :=
  if passes waiting f then waiting else if f.waits then some f.tag else none

/-- The flag that `f` starts with: what was noted before, unless it went out with a pending
record. -/
def left (waiting : Option φ) (noted : Bool) (f : NoisyRecord φ β) : Bool :=
  waiting.isNone && (noted || f.lead)

/-- The flag after `f`. -/
def notedAfter (waiting : Option φ) (noted : Bool) (f : NoisyRecord φ β) : Bool :=
  if passes waiting f then noted || f.flawed
  else !f.closed && (left waiting noted f || f.tail)

/-- Another tag is seen. -/
def followed (tag : φ) (fs : List (NoisyRecord φ β)) : Bool :=
  fs.any fun f => f.shows && decide (f.tag ≠ tag)

/-- Some chunk is damaged before another tag is seen. -/
def overrun (tag : φ) : List (NoisyRecord φ β) → Bool
  | [] => false
  | f :: fs =>
    if f.shows && decide (f.tag ≠ tag) then f.lead else f.flawed || overrun tag fs

/-- The records that are put out: those of which something arrives and that are closed, or followed
by another. -/
def putOut (f : NoisyRecord φ β) (rest : List (NoisyRecord φ β)) : Bool :=
  f.content != [] && (f.closed || followed f.tag rest)

/-- The flag that a record goes out with.  It is there from the start; or a chunk is damaged after
one that arrived; or, if the record has to wait, before another tag is seen. -/
def charge (start : Bool) (f : NoisyRecord φ β) (rest : List (NoisyRecord φ β)) : Bool :=
  start || f.tail || !f.closed && overrun f.tag rest

/-- What is put out, with the flags it has. -/
def charged : Option φ → Bool → List (NoisyRecord φ β) → List (List β × Bool)
  | _, _, [] => []
  | waiting, noted, f :: fs =>
    (if putOut f fs then [(f.content, charge (left waiting noted f) f fs)] else []) ++
      charged (waitingAfter waiting f) (notedAfter waiting noted f) fs

/-- What is put out, with the flags it should have. -/
def carried : List (NoisyRecord φ β) → List (List β × Bool)
  | [] => []
  | f :: fs => (if putOut f fs then [(f.content, f.flawed)] else []) ++ carried fs

/-- No data of a record is taken for the rest of one that is pending. -/
def Apart : Option φ → List (NoisyRecord φ β) → Prop
  | _, [] => True
  | waiting, f :: fs =>
    (passes waiting f = true → f.content = []) ∧ Apart (waitingAfter waiting f) fs

instance decidableApart :
    (waiting : Option φ) → (fs : List (NoisyRecord φ β)) → Decidable (Apart waiting fs)
  | _, [] => .isTrue trivial
  | waiting, f :: fs =>
    have := decidableApart (waitingAfter waiting f) fs
    inferInstanceAs (Decidable (_ ∧ _))

/-- What becomes of the record that is pending. -/
def owedTo (s : Flagged φ β) (fs : List (NoisyRecord φ β)) : List (List β × Bool) :=
  if s.receiver.pending != [] && followed s.receiver.tag fs then
    [(s.receiver.pending, s.flag || overrun s.receiver.tag fs)]
  else []

/-- The tag of the record that is pending. -/
def Flagged.waiting (s : Flagged φ β) : Option φ :=
  if s.receiver.pending = [] then none else some s.receiver.tag

omit [DecidableEq φ] in
theorem content_ne_nil_of_closed {f : NoisyRecord φ β} (h : f.closed = true) : f.content ≠ [] := by
  have hends : ∀ es : List (Option (Chunk φ β)), endsWell es = true → received es ≠ [] := by
    intro es
    induction es with
    | nil => exact fun h => absurd h (by simp [endsWell])
    | cons e es ih =>
      intro h
      cases e with
      | none => exact ih (endsWell_none es ▸ h)
      | some c =>
        rw [received_some]
        by_cases hnil : es = []
        · subst hnil
          have hwell : (c.last && c.data != []) = true := h
          simp only [Bool.and_eq_true, bne_iff_ne] at hwell
          exact List.append_ne_nil_of_left_ne_nil hwell.2 _
        · exact List.append_ne_nil_of_right_ne_nil _ (ih (endsWell_some hnil ▸ h))
  exact hends f.events h

omit [DecidableEq φ] [DecidableEq β] in
theorem exists_some_of_shows {f : NoisyRecord φ β} (h : f.shows = true) :
    ∃ c, some c ∈ f.events := by
  obtain ⟨e, he, hsome⟩ := List.any_eq_true.1 h
  obtain ⟨c, rfl⟩ := Option.isSome_iff_exists.1 hsome
  exact ⟨c, he⟩

omit [DecidableEq φ] [DecidableEq β] in
theorem shows_of_content {f : NoisyRecord φ β} (h : f.content ≠ []) : f.shows = true := by
  by_contra hnone
  refine h (List.flatMap_eq_nil_iff.2 fun c hc => absurd ?_ hnone)
  obtain ⟨e, he, hec⟩ := List.mem_filterMap.1 hc
  obtain rfl : e = some c := hec
  exact List.any_eq_true.2 ⟨_, he, rfl⟩

omit [DecidableEq φ] [DecidableEq β] in
/-- Something arrives of a record that is not flawed. -/
theorem shows_of_not_flawed {f : NoisyRecord φ β} (h : f.flawed = false) : f.shows = true := by
  obtain ⟨e, es, hes⟩ := List.exists_cons_of_ne_nil f.nonempty
  cases e with
  | none => simp [NoisyRecord.flawed, hes] at h
  | some c => simp [NoisyRecord.shows, hes]

omit [DecidableEq φ] [DecidableEq β] in
theorem waiting_eq_some {s : Flagged φ β} {tag : φ} :
    s.waiting = some tag ↔ s.receiver.pending ≠ [] ∧ s.receiver.tag = tag := by
  rw [Flagged.waiting]
  split
  · simp [*]
  · simp [*]

omit [DecidableEq β] in
/-- A record that is seen is passed over only for one that is pending with its tag. -/
theorem tag_of_passes {f : NoisyRecord φ β} {s : Flagged φ β} (hshows : f.shows = true)
    (hpasses : passes s.waiting f = true) :
    s.receiver.pending ≠ [] ∧ s.receiver.tag = f.tag := by
  rw [passes, hshows, Bool.not_true, Bool.false_or, decide_eq_true_iff] at hpasses
  exact waiting_eq_some.1 hpasses

omit [DecidableEq β] in
theorem not_passes_iff {f : NoisyRecord φ β} {s : Flagged φ β} :
    passes s.waiting f = false ↔
      f.shows = true ∧ (s.receiver.pending = [] ∨ s.receiver.tag ≠ f.tag) := by
  rw [passes, Bool.or_eq_false_iff, Bool.not_eq_false', decide_eq_false_iff_not, waiting_eq_some,
    not_and_or, not_not]

/-- What is pending is not touched by a record that is passed over. -/
theorem owedTo_passed {f : NoisyRecord φ β} {s : Flagged φ β} (fs : List (NoisyRecord φ β))
    (hpasses : passes s.waiting f = true) :
    owedTo s (f :: fs) = owedTo { s with flag := s.flag || f.flawed } fs := by
  have hsame : (f.shows && decide (f.tag ≠ s.receiver.tag)) = false ∨
      s.receiver.pending = [] := by
    cases hshows : f.shows with
    | false => exact Or.inl rfl
    | true => simp [(tag_of_passes hshows hpasses).2]
  rcases hsame with hsame | hnil
  · simp only [owedTo, followed, overrun, List.any_cons, hsame, Bool.false_or, Bool.false_eq_true,
      if_false, Bool.or_assoc]
  · simp [owedTo, hnil]

/-- What is pending goes out in front of a record of another tag. -/
theorem owedTo_shown {f : NoisyRecord φ β} {s : Flagged φ β} (fs : List (NoisyRecord φ β))
    (hpasses : passes s.waiting f = false) : owedTo s (f :: fs) = blamed s f.lead := by
  obtain ⟨hshows, hnil | htag⟩ := not_passes_iff.1 hpasses
  · simp [owedTo, blamed, hnil]
  · by_cases hnil : s.receiver.pending = []
    · simp [owedTo, blamed, hnil]
    · simp [owedTo, blamed, hnil, followed, overrun, hshows, Ne.symm htag]

omit [DecidableEq φ] [DecidableEq β] in
theorem flagLeft_eq (f : NoisyRecord φ β) (s : Flagged φ β) :
    flagLeft s f.lead = left s.waiting s.flag f := by
  rw [flagLeft, left, Flagged.waiting]
  split
  · simp [*]
  · simp [*]

/-- Records of changing tags are apart if something arrives of every flawed one. -/
theorem apart_of_arrives {fs : List (NoisyRecord φ β)} (halt : fs.IsChain fun f g => f.tag ≠ g.tag)
    (harrives : ∀ f ∈ fs, f.flawed = true → f.content ≠ []) {waiting : Option φ}
    (hfirst : ∀ f ∈ fs.head?, waiting ≠ some f.tag) : Apart waiting fs := by
  induction fs generalizing waiting with
  | nil => exact trivial
  | cons f fs ih =>
    obtain ⟨hnext, halt⟩ := List.isChain_cons.1 halt
    obtain ⟨hf, harrives⟩ := List.forall_mem_cons.1 harrives
    have hshows : f.shows = true := by
      cases hflawed : f.flawed with
      | true => exact shows_of_content (hf hflawed)
      | false => exact shows_of_not_flawed hflawed
    have hpasses : passes waiting f = false := by simp [passes, hshows, hfirst f rfl]
    refine ⟨fun h => absurd h (by simp [hpasses]), ih halt harrives fun g hg => ?_⟩
    rw [waitingAfter, hpasses, if_neg (by simp)]
    split
    · exact fun h => hnext g hg (Option.some.inj h)
    · exact nofun

/-- A record of which nothing arrives only sets the flag. -/
theorem flagAll_lost {es : List (Option (Chunk φ β))} {s : Flagged φ β}
    (h : es.any Option.isSome = false) :
    flagAll limit s es = ({ s with flag := s.flag || es.any Option.isNone }, []) := by
  induction es generalizing s with
  | nil => simp [flagAll]
  | cons e es ih =>
    cases e with
    | some c => simp at h
    | none =>
      rw [flagAll, flagAbsorb]
      simp only []
      rw [ih (by simpa using h)]
      simp

/-- **A record that is passed over** leaves what is pending as it is, and sets the flag if it is
flawed. -/
theorem flagAll_passed {f : NoisyRecord φ β} {s : Flagged φ β}
    (hpasses : passes s.waiting f = true) (hcontent : f.content = [])
    (hpending : s.receiver.pending ≠ [] → s.receiver.pending.length < limit) :
    flagAll limit s f.events = ({ s with flag := s.flag || f.flawed }, []) := by
  by_cases hshows : f.shows = true
  · obtain ⟨hne, htag⟩ := tag_of_passes hshows hpasses
    have hopen : endsWell f.events = false := by
      by_contra hclosed
      rw [Bool.not_eq_false] at hclosed
      exact content_ne_nil_of_closed hclosed hcontent
    have hnothing : received f.events = [] := hcontent
    have hrest : flagAll limit ⟨⟨s.receiver.tag, s.receiver.pending⟩, s.flag⟩ f.events = _ :=
      flagAll_rest (htag ▸ f.tagged) f.marked
        (by rw [hnothing, List.append_nil]; exact hpending hne)
    rw [hopen, if_neg (by simp), hnothing, List.append_nil] at hrest
    exact hrest
  · exact flagAll_lost (Bool.eq_false_iff.2 hshows)

/-- **A sequence of records**, short of the limit and apart: they go out with the flags that
`charge` says. -/
theorem flagAll_records {fs : List (NoisyRecord φ β)} {s : Flagged φ β}
    (hapart : Apart s.waiting fs) (hshort : ∀ f ∈ fs, f.content.length < limit)
    (hpending : s.receiver.pending ≠ [] → s.receiver.pending.length < limit) :
    (flagAll limit s (fs.flatMap NoisyRecord.events)).2 =
      owedTo s fs ++ charged s.waiting s.flag fs := by
  induction fs generalizing s with
  | nil => simp [flagAll, owedTo, followed, charged]
  | cons f fs ih =>
    obtain ⟨happ, hapart⟩ := hapart
    obtain ⟨hf, hshort⟩ := List.forall_mem_cons.1 hshort
    rw [List.flatMap_cons, flagAll_append, charged]
    cases hpasses : passes s.waiting f with
    | true =>
      have hout : putOut f fs = false := by simp [putOut, happ hpasses]
      rw [waitingAfter, if_pos hpasses] at hapart
      rw [flagAll_passed hpasses (happ hpasses) hpending, List.nil_append,
        ih (s := { s with flag := s.flag || f.flawed }) hapart hshort hpending, hout,
        owedTo_passed fs hpasses, waitingAfter, notedAfter, if_pos hpasses, if_pos hpasses]
      rfl
    | false =>
      obtain ⟨hshows, hother⟩ := not_passes_iff.1 hpasses
      rw [waitingAfter, if_neg (by simp [hpasses])] at hapart
      rw [flagAll_record hother (exists_some_of_shows hshows) hf, owedTo_shown fs hpasses,
        waitingAfter, notedAfter, hpasses, flagLeft_eq]
      simp only [Bool.false_eq_true, if_false]
      cases hclosed : f.closed with
      | true =>
        -- nothing is pending after `f`
        have hne := content_ne_nil_of_closed hclosed
        have hwaits : f.waits = false := by simp [NoisyRecord.waits, hclosed]
        rw [hwaits] at hapart
        have hrest := ih (s := ⟨⟨f.tag, []⟩, false⟩) hapart hshort (absurd rfl)
        simp only [if_true, hwaits] at hrest ⊢
        rw [hrest]
        simp [owedTo, putOut, hne, hclosed, charge, Flagged.waiting]
      | false =>
        have hwaiting : Flagged.waiting (⟨⟨f.tag, f.content⟩, left s.waiting s.flag f || f.tail⟩ :
            Flagged φ β) = if f.waits = true then some f.tag else none := by
          by_cases hnil : f.content = []
          · simp [Flagged.waiting, NoisyRecord.waits, hnil]
          · simp [Flagged.waiting, NoisyRecord.waits, hclosed, hnil]
        rw [← hwaiting] at hapart
        have hrest := ih hapart hshort fun _ => hf
        simp only [Bool.false_eq_true, if_false] at hrest ⊢
        rw [hrest, hwaiting]
        by_cases hnil : f.content = []
        · simp [owedTo, putOut, hnil]
        · simp [owedTo, putOut, hnil, hclosed, charge]

/-- Every record that is put out has the flag that it should have. -/
def FairlyCharged : Option φ → Bool → List (NoisyRecord φ β) → Prop
  | _, _, [] => True
  | waiting, noted, f :: fs =>
    (putOut f fs = true → charge (left waiting noted f) f fs = f.flawed) ∧
      FairlyCharged (waitingAfter waiting f) (notedAfter waiting noted f) fs

instance decidableFairlyCharged : (waiting : Option φ) → (noted : Bool) →
    (fs : List (NoisyRecord φ β)) → Decidable (FairlyCharged waiting noted fs)
  | _, _, [] => .isTrue trivial
  | waiting, noted, f :: fs =>
    have := decidableFairlyCharged (waitingAfter waiting f) (notedAfter waiting noted f) fs
    inferInstanceAs (Decidable (_ ∧ _))

/-- **When the flags are right.** -/
theorem charged_eq_carried_iff {waiting : Option φ} {noted : Bool}
    {fs : List (NoisyRecord φ β)} :
    charged waiting noted fs = carried fs ↔ FairlyCharged waiting noted fs := by
  induction fs generalizing waiting noted with
  | nil => exact iff_of_true rfl trivial
  | cons f fs ih =>
    rw [charged, carried, FairlyCharged, ← ih]
    by_cases hput : putOut f fs = true
    · rw [if_pos hput, if_pos hput, List.singleton_append, List.singleton_append, List.cons.injEq,
        Prod.mk.injEq]
      simp [hput]
    · simp [hput]

/-- The same records are put out in either case. -/
theorem charged_map_fst {waiting : Option φ} {noted : Bool} (fs : List (NoisyRecord φ β)) :
    (charged waiting noted fs).map Prod.fst = (carried fs).map Prod.fst := by
  induction fs generalizing waiting noted with
  | nil => rfl
  | cons f fs ih =>
    rw [charged, carried, List.map_append, List.map_append, ih]
    by_cases hput : putOut f fs = true
    · simp [hput]
    · simp [hput]

end Run

end Reassembly
