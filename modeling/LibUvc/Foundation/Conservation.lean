import LibUvc.Foundation.Reassembly

/-!
# Nothing is lost on the way through a receiver

`Reassembly` says what the receiver makes of a well-formed transmission.  This file is about
transmissions of any kind: chunks of any tags in any order, end marks anywhere, records too long for
the receiver, and chunks that carry no tag at all and are taken for parts of whatever is pending.

To say where the data went, the receiver is accompanied by books: one `Group` for each record put
out and one for what is pending, each with the arrivals that went into it and the piece of each that
was taken.  `receiveAll_books` says that the books of every run are in order: every arrival is
entered once and in sequence, a piece is less than the whole only where the record became full and
was put out with it, and the tags within a record agree.
-/

set_option autoImplicit false

namespace Reassembly

universe u v w

variable {φ : Type u} {β : Type v} {ι : Type w}

/-- A chunk that may come without a tag. -/
structure Arrival (φ : Type u) (β : Type v) where
  tag : Option φ := none
  last : Bool := false
  data : List β := []

/-- Without a tag, a chunk belongs to what the receiver is at. -/
def Arrival.chunk (a : Arrival φ β) (r : Receiver φ β) : Chunk φ β :=
  ⟨a.tag.getD r.tag, a.last, a.data⟩

section Receive

variable [DecidableEq φ] [DecidableEq β]

/-- One arrival. -/
def receive (limit : Nat) (r : Receiver φ β) (a : Arrival φ β) : Receiver φ β × List (List β) :=
  absorb limit r (a.chunk r)

/-- A sequence of arrivals. -/
def receiveAll (limit : Nat) (r : Receiver φ β) :
    List (Arrival φ β) → Receiver φ β × List (List β)
  | [] => (r, [])
  | a :: as =>
    let (r1, out) := receive limit r a
    let (r2, out') := receiveAll limit r1 as
    (r2, out ++ out')

theorem receiveAll_append (limit : Nat) (r : Receiver φ β) (as bs : List (Arrival φ β)) :
    receiveAll limit r (as ++ bs) =
      ((receiveAll limit (receiveAll limit r as).1 bs).1,
        (receiveAll limit r as).2 ++ (receiveAll limit (receiveAll limit r as).1 bs).2) := by
  induction as generalizing r with
  | nil => simp [receiveAll]
  | cons a as ih => simp only [List.cons_append, receiveAll, ih, List.append_assoc]

/-- The arrival announces another record than the one that is pending. -/
def supersedes (r : Receiver φ β) (a : Arrival φ β) : Bool := stale r (a.chunk r).tag

/-- What is still pending when the data of the arrival is added. -/
def baseOf (r : Receiver φ β) (a : Arrival φ β) : List β :=
  if supersedes r a then [] else r.pending

/-- The piece of the data that is taken. -/
def pieceOf (limit : Nat) (r : Receiver φ β) (a : Arrival φ β) : List β :=
  a.data.take (limit - (baseOf r a).length)

/-- The arrival completes a record. -/
def completes (limit : Nat) (r : Receiver φ β) (a : Arrival φ β) : Bool :=
  a.data != [] && (a.last || (baseOf r a ++ pieceOf limit r a).length == limit)

variable {limit : Nat} {r : Receiver φ β}

omit [DecidableEq φ] [DecidableEq β] in
theorem take_append_of_le {xs ys : List β} (h : xs.length ≤ limit) :
    (xs ++ ys).take limit = xs ++ ys.take (limit - xs.length) := by
  rw [List.take_append, List.take_of_length_le h]

theorem baseOf_length_le (h : r.pending.length ≤ limit) (a : Arrival φ β) :
    (baseOf r a).length ≤ limit := by
  rw [baseOf]
  split
  · exact Nat.zero_le _
  · exact h

/-- **One arrival**: the record before it is put out if it is superseded, and the one it belongs to
if it is complete now. -/
theorem receive_eq (h : r.pending.length ≤ limit) (a : Arrival φ β) :
    receive limit r a =
      ((flushIf (completes limit r a)
          ⟨a.tag.getD r.tag, baseOf r a ++ pieceOf limit r a⟩).1,
        (flushIf (supersedes r a) r).2 ++ (flushIf (completes limit r a)
          ⟨a.tag.getD r.tag, baseOf r a ++ pieceOf limit r a⟩).2) := by
  have hbase : (flushIf (supersedes r a) r).1.pending = baseOf r a := by
    rw [baseOf, flushIf]
    split
    · rfl
    · rfl
  have hextend : extend limit (flushIf (supersedes r a) r).1 (a.chunk r) =
      ⟨a.tag.getD r.tag, baseOf r a ++ pieceOf limit r a⟩ := by
    rw [extend, hbase, Arrival.chunk, take_append_of_le (baseOf_length_le h a)]
    rfl
  have hcomplete : complete limit (flushIf (supersedes r a) r).1 (a.chunk r) =
      completes limit r a := by
    rw [complete, hextend]
    rfl
  rw [← hextend, ← hcomplete]
  rfl

theorem pieceOf_length_le (h : r.pending.length ≤ limit) (a : Arrival φ β) :
    (baseOf r a ++ pieceOf limit r a).length ≤ limit := by
  have hbase := baseOf_length_le h a
  rw [List.length_append, pieceOf, List.length_take]
  omega

theorem receive_pending_le (h : r.pending.length ≤ limit) (a : Arrival φ β) :
    (receive limit r a).1.pending.length ≤ limit := by
  rw [receive_eq h, flushIf]
  split
  · exact Nat.zero_le _
  · exact pieceOf_length_le h a

/-- An arrival without anything changes nothing. -/
theorem receive_nothing (h : r.pending.length ≤ limit) : receive limit r {} = (r, []) := by
  have hsup : supersedes r {} = false := by simp [supersedes, stale, Arrival.chunk]
  rw [receive_eq h, completes, baseOf, pieceOf, hsup]
  simp [flushIf]

/-- A piece is less than the whole only if the record is full with it. -/
theorem full_of_pieceOf_ne {a : Arrival φ β} (hlen : r.pending.length ≤ limit)
    (h : pieceOf limit r a ≠ a.data) : (baseOf r a ++ pieceOf limit r a).length = limit := by
  have hbase := baseOf_length_le hlen a
  have hlong : limit - (baseOf r a).length < a.data.length := by
    by_contra hge
    exact h (List.take_of_length_le (by omega))
  rw [List.length_append, pieceOf, List.length_take]
  omega

/-- What is not complete was taken whole. -/
theorem pieceOf_eq_of_not_completes {a : Arrival φ β} (hlen : r.pending.length ≤ limit)
    (h : completes limit r a = false) : pieceOf limit r a = a.data := by
  by_contra hne
  have hfull := full_of_pieceOf_ne hlen hne
  have hdata : a.data ≠ [] := by
    intro hnil
    exact hne (by rw [pieceOf, hnil, List.take_nil])
  simp [completes, hfull, hdata] at h

/-- An arrival that does not fit completes the record, and nothing is left pending. -/
theorem receive_overflow (h : r.pending.length ≤ limit) {a : Arrival φ β}
    (hlong : limit < (baseOf r a ++ a.data).length) :
    ∃ before out, receive limit r a = (⟨a.tag.getD r.tag, []⟩, before ++ [out]) ∧
      out.length = limit := by
  have hne : pieceOf limit r a ≠ a.data := by
    intro heq
    have hle := pieceOf_length_le h a
    rw [heq] at hle
    omega
  have hcompletes : completes limit r a = true := by
    by_contra hopen
    exact hne (pieceOf_eq_of_not_completes h (Bool.not_eq_true _ ▸ hopen))
  refine ⟨(flushIf (supersedes r a) r).2, baseOf r a ++ pieceOf limit r a, ?_,
    full_of_pieceOf_ne h hne⟩
  rw [receive_eq h, hcompletes]
  rfl

end Receive

/-! ## The books -/

/-- What went into a record: what was pending at the start of the books, and then a piece of each
arrival. -/
structure Group (ι : Type w) (β : Type v) where
  start : List β := []
  shares : List (ι × List β) := []

def Group.content (g : Group ι β) : List β := g.start ++ g.shares.flatMap Prod.snd

def Group.add (g : Group ι β) (i : ι) (piece : List β) : Group ι β :=
  { g with shares := g.shares ++ [(i, piece)] }

@[simp]
theorem Group.content_add (g : Group ι β) (i : ι) (piece : List β) :
    (g.add i piece).content = g.content ++ piece := by
  simp [Group.content, Group.add]

section Books

variable (look : ι → Arrival φ β)

/-- All tags of arrivals with data are this one. -/
def Group.Tagged (g : Group ι β) (tag : φ) : Prop :=
  ∀ c ∈ g.shares, (look c.1).data ≠ [] → ∀ t ∈ (look c.1).tag, t = tag

/-- Everything was taken whole. -/
def Group.Whole (g : Group ι β) : Prop := ∀ c ∈ g.shares, c.2 = (look c.1).data

/-- A record that was put out. -/
structure Group.Sound (limit : Nat) (g : Group ι β) : Prop where
  cut : ∀ c ∈ g.shares, c.2 <+: (look c.1).data
  /-- Only the last piece may be less than the whole. -/
  whole : ∀ c ∈ g.shares.dropLast, c.2 = (look c.1).data
  full : ∀ c ∈ g.shares, c.2 ≠ (look c.1).data → g.content.length = limit
  uniform : ∀ c ∈ g.shares, ∀ d ∈ g.shares, (look c.1).data ≠ [] → (look d.1).data ≠ [] →
    ∀ t ∈ (look c.1).tag, ∀ t' ∈ (look d.1).tag, t = t'

/-- The books after `items`: a group for each record put out, and one for what is pending. -/
structure Books (limit : Nat) (r₀ : Receiver φ β) (items : List ι) (r : Receiver φ β)
    (out : List (List β)) (closed : List (Group ι β)) (current : Group ι β) : Prop where
  entered : (closed ++ [current]).flatMap (fun g => g.shares.map Prod.fst) = items
  starts : (closed ++ [current]).map Group.start = r₀.pending :: closed.map fun _ => []
  put : out = closed.map Group.content
  pending : r.pending = current.content
  sound : ∀ g ∈ closed, g.Sound look limit

/-- What is pending is taken whole and of the receiver's tag. -/
structure Books.Open (r : Receiver φ β) (current : Group ι β) : Prop where
  whole : current.Whole look
  tagged : current.Tagged look r.tag

variable {look} {limit : Nat} {r₀ r : Receiver φ β} {items : List ι} {out : List (List β)}
  {closed : List (Group ι β)} {current : Group ι β}

/-- A group without content has no arrivals with data. -/
theorem Group.Whole.tagged_of_nil {g : Group ι β} (h : g.Whole look) (hnil : g.content = [])
    (tag : φ) : g.Tagged look tag := by
  intro c hc hdata
  rw [Group.content, List.append_eq_nil_iff, List.flatMap_eq_nil_iff] at hnil
  exact absurd ((h c hc).symm.trans (hnil.2 c hc)) hdata

theorem Group.Tagged.add {g : Group ι β} {tag : φ} (h : g.Tagged look tag) {i : ι}
    (hi : ∀ t ∈ (look i).tag, t = tag) (piece : List β) : (g.add i piece).Tagged look tag := by
  intro c hc hdata
  rcases List.mem_append.1 hc with hc | hc
  · exact h c hc hdata
  · obtain rfl := List.mem_singleton.1 hc
    exact hi

theorem Group.Whole.add {g : Group ι β} (h : g.Whole look) (i : ι) :
    (g.add i (look i).data).Whole look := by
  intro c hc
  rcases List.mem_append.1 hc with hc | hc
  · exact h c hc
  · obtain rfl := List.mem_singleton.1 hc
    rfl

theorem Group.Tagged.uniform {g : Group ι β} {tag : φ} (h : g.Tagged look tag) :
    ∀ c ∈ g.shares, ∀ d ∈ g.shares, (look c.1).data ≠ [] → (look d.1).data ≠ [] →
      ∀ t ∈ (look c.1).tag, ∀ t' ∈ (look d.1).tag, t = t' :=
  fun c hc d hd hcdata hddata t ht t' ht' =>
    (h c hc hcdata t ht).trans (h d hd hddata t' ht').symm

theorem Group.Whole.sound {g : Group ι β} (h : g.Whole look) {tag : φ} (ht : g.Tagged look tag) :
    g.Sound look limit where
  cut c hc := (h c hc).symm ▸ List.prefix_rfl
  whole c hc := h c (List.dropLast_subset _ hc)
  full c hc hne := absurd (h c hc) hne
  uniform := ht.uniform

/-- A last piece, which may fill the record up. -/
theorem Group.Whole.sound_add {g : Group ι β} (h : g.Whole look) {tag : φ}
    {i : ι} {piece : List β} (ht : (g.add i piece).Tagged look tag)
    (hcut : piece <+: (look i).data)
    (hfull : piece ≠ (look i).data → (g.add i piece).content.length = limit) :
    (g.add i piece).Sound look limit where
  cut c hc := by
    rcases List.mem_append.1 hc with hc | hc
    · exact (h c hc).symm ▸ List.prefix_rfl
    · obtain rfl := List.mem_singleton.1 hc
      exact hcut
  whole c hc := by
    rw [Group.add, List.dropLast_concat] at hc
    exact h c hc
  full c hc hne := by
    rcases List.mem_append.1 hc with hc | hc
    · exact absurd (h c hc) hne
    · obtain rfl := List.mem_singleton.1 hc
      exact hfull hne
  uniform := ht.uniform

/-- The pending record is put out. -/
theorem Books.close (h : Books look limit r₀ items r out closed current)
    (hsound : current.Sound look limit) (tag : φ) :
    Books look limit r₀ items ⟨tag, []⟩ (out ++ [r.pending]) (closed ++ [current]) {} where
  entered := by simpa using h.entered
  starts := by
    have hstarts := h.starts
    simp only [List.map_append, List.map_cons, List.map_nil] at hstarts ⊢
    rw [hstarts, List.cons_append]
  put := by rw [h.put, h.pending, List.map_append, List.map_singleton]
  pending := rfl
  sound := List.forall_mem_append.2 ⟨h.sound, List.forall_mem_singleton.2 hsound⟩

/-- A piece is added to the pending record. -/
theorem Books.enter (h : Books look limit r₀ items r out closed current) (i : ι) (piece : List β)
    (tag : φ) :
    Books look limit r₀ (items ++ [i]) ⟨tag, r.pending ++ piece⟩ out closed
      (current.add i piece) where
  entered := by
    have hentered := h.entered
    simp only [List.flatMap_append, List.flatMap_singleton] at hentered ⊢
    rw [← hentered, Group.add, List.map_append, List.append_assoc]
    rfl
  starts := by
    have hstarts := h.starts
    simp only [List.map_append, List.map_singleton] at hstarts ⊢
    exact hstarts
  put := h.put
  pending := by rw [h.pending, Group.content_add]
  sound := h.sound

variable [DecidableEq φ] [DecidableEq β]

/-- The books while the arrival is being taken in: what it supersedes has been put out. -/
theorem Books.supersede (h : Books look limit r₀ items r out closed current)
    (hopen : Books.Open look r current) (a : Arrival φ β) :
    ∃ closed' current', Books look limit r₀ items ⟨r.tag, baseOf r a⟩
        (out ++ (flushIf (supersedes r a) r).2) closed' current' ∧
      current'.Whole look ∧ current'.Tagged look (a.tag.getD r.tag) := by
  cases hsup : supersedes r a with
  | true =>
    refine ⟨closed ++ [current], {}, ?_, fun c hc => absurd hc (by simp),
      fun c hc => absurd hc (by simp)⟩
    rw [baseOf, hsup, if_pos rfl]
    exact h.close (hopen.whole.sound hopen.tagged) r.tag
  | false =>
    refine ⟨closed, current, ?_, hopen.whole, ?_⟩
    · rw [baseOf, hsup, if_neg (by simp), flushIf, if_neg (by simp), List.append_nil]
      exact h
    · -- either the tags agree, or nothing is pending
      by_cases hnil : r.pending = []
      · exact hopen.whole.tagged_of_nil (h.pending ▸ hnil) _
      · have htag : r.tag = a.tag.getD r.tag := by
          simpa [supersedes, stale, Arrival.chunk, hnil] using hsup
        rw [← htag]
        exact hopen.tagged

/-- **One arrival.** -/
theorem Books.receive (h : Books look limit r₀ items r out closed current)
    (hopen : Books.Open look r current) (hlen : r.pending.length ≤ limit) (i : ι) :
    ∃ closed' current', Books look limit r₀ (items ++ [i]) (receive limit r (look i)).1
        (out ++ (receive limit r (look i)).2) closed' current' ∧
      Books.Open look (Reassembly.receive limit r (look i)).1 current' := by
  obtain ⟨closed', current', hbooks, hwhole, htagged⟩ := h.supersede hopen (look i)
  have hbooks' := hbooks.enter i (pieceOf limit r (look i)) ((look i).tag.getD r.tag)
  have htagged' := htagged.add (i := i) (fun t ht => by rw [Option.mem_def.1 ht]; rfl)
    (pieceOf limit r (look i))
  rw [receive_eq hlen]
  cases hcomp : completes limit r (look i) with
  | true =>
    refine ⟨closed' ++ [current'.add i (pieceOf limit r (look i))], {}, ?_,
      fun c hc => absurd hc (by simp), fun c hc => absurd hc (by simp)⟩
    have hsound : (current'.add i (pieceOf limit r (look i))).Sound look limit := by
      refine hwhole.sound_add htagged' (List.take_prefix _ _) fun hne => ?_
      rw [Group.content_add, ← hbooks.pending]
      exact full_of_pieceOf_ne hlen hne
    have hclosed := hbooks'.close hsound ((look i).tag.getD r.tag)
    rw [List.append_assoc] at hclosed
    exact hclosed
  | false =>
    refine ⟨closed', current'.add i (pieceOf limit r (look i)), ?_, ?_, htagged'⟩
    · rw [flushIf, flushIf, if_neg (by simp), List.append_nil]
      exact hbooks'
    · show (current'.add i (pieceOf limit r (look i))).Whole look
      rw [pieceOf_eq_of_not_completes hlen hcomp]
      exact hwhole.add i

/-- **The books of every run are in order.** -/
theorem receiveAll_books (look : ι → Arrival φ β) {limit : Nat} {r : Receiver φ β}
    (hlen : r.pending.length ≤ limit) (items : List ι) :
    (receiveAll limit r (items.map look)).1.pending.length ≤ limit ∧
    ∃ closed current, Books look limit r items (receiveAll limit r (items.map look)).1
        (receiveAll limit r (items.map look)).2 closed current ∧
      Books.Open look (receiveAll limit r (items.map look)).1 current := by
  -- from the right, since the books grow at the end
  induction items using List.reverseRecOn with
  | nil =>
    refine ⟨hlen, [], { start := r.pending }, ⟨rfl, rfl, rfl, ?_, by simp⟩,
      fun c hc => absurd hc (by simp), fun c hc => absurd hc (by simp)⟩
    simp [receiveAll, Group.content]
  | append_singleton items i ih =>
    obtain ⟨hlen', closed, current, hbooks, hopen⟩ := ih
    obtain ⟨closed', current', hbooks', hopen'⟩ := hbooks.receive hopen hlen' i
    have hlast : receiveAll limit r ((items ++ [i]).map look) =
        ((receive limit (receiveAll limit r (items.map look)).1 (look i)).1,
          (receiveAll limit r (items.map look)).2 ++
            (receive limit (receiveAll limit r (items.map look)).1 (look i)).2) := by
      rw [List.map_append, receiveAll_append]
      simp [receiveAll]
    rw [hlast]
    exact ⟨receive_pending_le hlen' _, closed', current', hbooks', hopen'⟩

end Books

/-- What was put out, followed by what is pending, is what was pending at first, followed by the
pieces that were taken. -/
theorem Books.flatten_eq {look : ι → Arrival φ β} {limit : Nat} {r₀ r : Receiver φ β}
    {items : List ι} {out : List (List β)} {closed : List (Group ι β)} {current : Group ι β}
    (h : Books look limit r₀ items r out closed current) :
    out.flatten ++ r.pending =
      r₀.pending ++ (closed ++ [current]).flatMap fun g => g.shares.flatMap Prod.snd := by
  have hsplit : ∀ gs : List (Group ι β), gs.map Group.start = gs.map (fun _ => []) →
      gs.flatMap Group.content = gs.flatMap fun g => g.shares.flatMap Prod.snd := by
    intro gs hgs
    refine List.flatMap_congr fun g hg => ?_
    rw [Group.content, List.map_inj_left.1 hgs g hg, List.nil_append]
  have hall : out.flatten ++ r.pending = (closed ++ [current]).flatMap Group.content := by
    rw [h.put, h.pending, List.flatMap_append, List.flatMap_singleton, List.flatMap_def]
  rw [hall]
  cases hgs : closed ++ [current] with
  | nil => simp at hgs
  | cons g gs =>
    have hstarts := h.starts
    rw [hgs, List.map_cons, List.cons.injEq] at hstarts
    have hlen : gs.length = closed.length := by
      have := congrArg List.length hgs
      simpa using this.symm
    have hrest : gs.map Group.start = gs.map (fun _ => ([] : List β)) := by
      rw [hstarts.2, List.map_const', List.map_const', hlen]
    rw [List.flatMap_cons, List.flatMap_cons, hsplit gs hrest, Group.content, hstarts.1,
      List.append_assoc]

end Reassembly
