import Mathlib.Data.List.Basic
import Mathlib.Data.List.Chain
import Mathlib.Tactic.Linarith

/-!
# Reassembling records from tagged chunks

A sender cuts each of its records into chunks and marks every chunk with a tag that changes from one
record to the next; the last chunk of a record may also carry an end mark.  Marks get lost and
chunks may be empty, so the receiver has three ways of noticing that a record is complete: an end
mark on a chunk with data, a chunk of a different tag while data is still pending, and a record that
has reached the size limit.

`absorb` is that receiver and `absorbAll_records` says what it makes of a well-formed transmission:
every record is put out, whole and in order, except that the last one stays `pending` when nothing
has announced its end yet.  The three triggers overlap — a full record may also carry the end mark,
and a chunk without data never triggers anything — and the content of the theorem is that no overlap
puts a record out twice, early or not at all.
-/

set_option autoImplicit false

namespace Reassembly

universe u v

/-- A piece of a record on the wire. -/
structure Chunk (φ : Type u) (β : Type v) where
  /-- The tag of the record it belongs to. -/
  tag : φ
  /-- The end mark. -/
  last : Bool
  /-- The data it carries, possibly none. -/
  data : List β

/-- What the receiver remembers: the tag it last saw, and the data of a record not yet complete. -/
structure Receiver (φ : Type u) (β : Type v) where
  tag : φ
  pending : List β

variable {φ : Type u} {β : Type v}

/-- The data of a sequence of chunks. -/
def joined (cs : List (Chunk φ β)) : List β := cs.flatMap Chunk.data

@[simp] theorem joined_nil : joined ([] : List (Chunk φ β)) = [] := rfl

@[simp] theorem joined_cons (c : Chunk φ β) (cs : List (Chunk φ β)) :
    joined (c :: cs) = c.data ++ joined cs := rfl

variable [DecidableEq φ] [DecidableEq β]

/-- Put the pending data out. -/
def flush (r : Receiver φ β) : Receiver φ β × List (List β) :=
  ({ r with pending := [] }, [r.pending])

/-- Put the pending data out if `due`. -/
def flushIf (due : Bool) (r : Receiver φ β) : Receiver φ β × List (List β) :=
  if due then flush r else (r, [])

/-- The chunk belongs to another record than the data still pending. -/
def stale (r : Receiver φ β) (tag : φ) : Bool := r.tag != tag && r.pending != []

/-- Add a chunk to the pending data, as far as it fits. -/
def extend (limit : Nat) (r : Receiver φ β) (c : Chunk φ β) : Receiver φ β :=
  { tag := c.tag, pending := (r.pending ++ c.data).take limit }

/-- After the chunk, the pending data is a complete record. -/
def complete (limit : Nat) (r : Receiver φ β) (c : Chunk φ β) : Bool :=
  c.data != [] && (c.last || (extend limit r c).pending.length == limit)

/-- One chunk. -/
def absorb (limit : Nat) (r : Receiver φ β) (c : Chunk φ β) : Receiver φ β × List (List β) :=
  let (r1, a) := flushIf (stale r c.tag) r
  let (r2, b) := flushIf (complete limit r1 c) (extend limit r1 c)
  (r2, a ++ b)

/-- A sequence of chunks. -/
def absorbAll (limit : Nat) (r : Receiver φ β) : List (Chunk φ β) → Receiver φ β × List (List β)
  | [] => (r, [])
  | c :: cs =>
    let (r1, a) := absorb limit r c
    let (r2, b) := absorbAll limit r1 cs
    (r2, a ++ b)

@[simp] theorem absorbAll_nil (limit : Nat) (r : Receiver φ β) : absorbAll limit r [] = (r, []) :=
  rfl

theorem absorbAll_append (limit : Nat) (r : Receiver φ β) (cs ds : List (Chunk φ β)) :
    absorbAll limit r (cs ++ ds) =
      ((absorbAll limit (absorbAll limit r cs).1 ds).1,
        (absorbAll limit r cs).2 ++ (absorbAll limit (absorbAll limit r cs).1 ds).2) := by
  induction cs generalizing r with
  | nil => simp
  | cons c cs ih => simp only [List.cons_append, absorbAll, ih, List.append_assoc]

/-! ## Inside one record -/

/-- The last of the chunks carries data and the end mark. -/
def endsMarked (cs : List (Chunk φ β)) : Prop :=
  ∃ c, cs.getLast? = some c ∧ c.last = true ∧ c.data ≠ []

theorem absorb_same {limit : Nat} {r : Receiver φ β} {c : Chunk φ β} (htag : r.tag = c.tag) :
    absorb limit r c = flushIf (complete limit r c) (extend limit r c) := by
  have h : stale r c.tag = false := by simp [stale, htag]
  simp [absorb, h, flushIf]

/-- Chunks without data change nothing. -/
theorem absorbAll_blank {limit : Nat} {r : Receiver φ β} (hp : r.pending.length ≤ limit)
    {cs : List (Chunk φ β)} (htag : ∀ c ∈ cs, c.tag = r.tag) (hdata : joined cs = []) :
    absorbAll limit r cs = (r, []) := by
  induction cs with
  | nil => rfl
  | cons c cs ih =>
    rw [joined_cons, List.append_eq_nil_iff] at hdata
    have hc : c.tag = r.tag := htag c List.mem_cons_self
    have hext : extend limit r c = r := by
      rw [extend, hdata.1, List.append_nil, List.take_of_length_le hp, hc]
    have hcomp : complete limit r c = false := by simp [complete, hdata.1]
    rw [absorbAll, absorb_same hc.symm, hcomp, flushIf, if_neg (by simp), hext]
    simp only []
    rw [ih (fun d hd => htag d (List.mem_cons_of_mem _ hd)) hdata.2]
    rfl

omit [DecidableEq φ] [DecidableEq β] in
/-- A chunk of the pending record that fits is appended to it. -/
theorem extend_same {limit : Nat} {r : Receiver φ β} {c : Chunk φ β} (htag : c.tag = r.tag)
    (hfit : (r.pending ++ c.data).length ≤ limit) :
    extend limit r c = ⟨r.tag, r.pending ++ c.data⟩ := by
  rw [extend, List.take_of_length_le hfit, htag]

omit [DecidableEq φ] in
theorem complete_same {limit : Nat} {r : Receiver φ β} {c : Chunk φ β} (htag : c.tag = r.tag)
    (hfit : (r.pending ++ c.data).length ≤ limit) :
    complete limit r c = true ↔
      c.data ≠ [] ∧ (c.last = true ∨ (r.pending ++ c.data).length = limit) := by
  simp [complete, extend_same htag hfit]

theorem absorbAll_cons_same {limit : Nat} {r : Receiver φ β} {c : Chunk φ β} (htag : c.tag = r.tag)
    (hfit : (r.pending ++ c.data).length ≤ limit) (cs : List (Chunk φ β)) :
    absorbAll limit r (c :: cs) =
      ((absorbAll limit (flushIf (complete limit r c) ⟨r.tag, r.pending ++ c.data⟩).1 cs).1,
        (flushIf (complete limit r c) ⟨r.tag, r.pending ++ c.data⟩).2 ++
          (absorbAll limit
            (flushIf (complete limit r c) ⟨r.tag, r.pending ++ c.data⟩).1 cs).2) := by
  rw [absorbAll, absorb_same htag.symm, extend_same htag hfit]

omit [DecidableEq φ] in
/-- The last chunk of a record completes it exactly when the record is full or ends marked. -/
theorem complete_iff_ends {limit : Nat} {r : Receiver φ β} {c : Chunk φ β} (htag : c.tag = r.tag)
    (hlt : r.pending.length < limit) (hfit : (r.pending ++ c.data).length ≤ limit) :
    complete limit r c = true ↔ (r.pending ++ c.data).length = limit ∨ endsMarked [c] := by
  rw [complete_same htag hfit, endsMarked]
  simp only [List.getLast?_singleton, Option.some.injEq, exists_eq_left']
  constructor
  · rintro ⟨h0, h1 | h1⟩
    · exact Or.inr ⟨h1, h0⟩
    · exact Or.inl h1
  · rintro (h | ⟨h1, h2⟩)
    · refine ⟨fun h0 => ?_, Or.inr h⟩
      rw [h0, List.append_nil] at h
      omega
    · exact ⟨h2, Or.inl h1⟩

omit [DecidableEq φ] in
/-- A chunk that does not complete the record leaves it less than full. -/
theorem lt_of_not_complete {limit : Nat} {r : Receiver φ β} {c : Chunk φ β} (htag : c.tag = r.tag)
    (hlt : r.pending.length < limit) (hfit : (r.pending ++ c.data).length ≤ limit)
    (h : ¬ complete limit r c = true) : (r.pending ++ c.data).length < limit := by
  by_contra hge
  refine h ((complete_same htag hfit).2 ⟨fun h0 => ?_, Or.inr (by omega)⟩)
  rw [h0, List.append_nil] at hge
  omega

/-- **The rest of a record.**  With less than a full record pending, the chunks that remain either
complete it, and then it is put out exactly once, or leave it pending. -/
theorem absorbAll_rest {limit : Nat} (cs : List (Chunk φ β)) :
    ∀ {r : Receiver φ β}, (∀ c ∈ cs, c.tag = r.tag) → (∀ c ∈ cs.dropLast, c.last = false) →
      r.pending.length < limit → (r.pending ++ joined cs).length ≤ limit →
      ((r.pending ++ joined cs).length = limit ∨ endsMarked cs →
        absorbAll limit r cs = (⟨r.tag, []⟩, [r.pending ++ joined cs])) ∧
      (¬ ((r.pending ++ joined cs).length = limit ∨ endsMarked cs) →
        absorbAll limit r cs = (⟨r.tag, r.pending ++ joined cs⟩, [])) := by
  induction cs with
  | nil =>
    intro r _ _ hlt _
    rw [joined_nil, List.append_nil, absorbAll_nil, endsMarked]
    refine ⟨fun h => ?_, fun _ => rfl⟩
    rcases h with h | ⟨c, hc, -⟩
    · omega
    · simp at hc
  | cons c cs ih =>
    intro r htag hlast hlt hle
    have hc : c.tag = r.tag := htag c List.mem_cons_self
    have htag' : ∀ d ∈ cs, d.tag = r.tag := fun d hd => htag d (List.mem_cons_of_mem _ hd)
    rw [joined_cons, ← List.append_assoc] at hle ⊢
    have hfit : (r.pending ++ c.data).length ≤ limit := by
      rw [List.length_append] at hle
      omega
    have hstep := absorbAll_cons_same hc hfit cs
    cases cs with
    | nil =>
      rw [joined_nil, List.append_nil, ← complete_iff_ends hc hlt hfit, hstep]
      refine ⟨fun h => ?_, fun h => ?_⟩
      · simp [h, flushIf, flush]
      · simp [h, flushIf]
    | cons d ds =>
      have hcl : c.last = false := hlast c (by simp)
      have hlast' : ∀ e ∈ (d :: ds).dropLast, e.last = false :=
        fun e he => hlast e (by rw [List.dropLast_cons_cons]; exact List.mem_cons_of_mem _ he)
      have hends : endsMarked (c :: d :: ds) ↔ endsMarked (d :: ds) := by
        simp only [endsMarked, List.getLast?_cons_cons]
      rw [hends, hstep]
      by_cases hfull : complete limit r c = true
      · -- full before the end: what remains carries no data
        have hlen := ((complete_same hc hfit).1 hfull).2.resolve_left (by simp [hcl])
        have hblank : joined (d :: ds) = [] := by
          rw [List.length_append, List.length_append] at hle
          rw [List.length_append] at hlen
          exact List.eq_nil_of_length_eq_zero (by omega)
        rw [hblank, List.append_nil, hfull]
        have hrest := absorbAll_blank (r := ⟨r.tag, []⟩) (Nat.zero_le limit)
          htag' hblank
        refine ⟨fun _ => ?_, fun h => absurd (Or.inl hlen) h⟩
        simp [flushIf, flush, hrest]
      · have hne := lt_of_not_complete hc hlt hfit hfull
        have hrec := ih (r := ⟨r.tag, r.pending ++ c.data⟩) htag' hlast' hne hle
        rw [Bool.not_eq_true] at hfull
        rw [hfull]
        simpa [flushIf] using hrec

/-! ## A record, and a sequence of records -/

/-- A record as it is sent: one or more chunks of one tag, the end mark on the last one if on
any. -/
structure Record (φ : Type u) (β : Type v) where
  tag : φ
  chunks : List (Chunk φ β)
  nonempty : chunks ≠ []
  tagged : ∀ c ∈ chunks, c.tag = tag
  marked : ∀ c ∈ chunks.dropLast, c.last = false

/-- The content of a record. -/
def Record.content (f : Record φ β) : List β := joined f.chunks

/-- The end of the record is announced by the record itself: it is full, or its last chunk carries
data and the end mark. -/
def Record.Closed (limit : Nat) (f : Record φ β) : Prop :=
  f.content.length = limit ∨ endsMarked f.chunks

/-- What is put out before the first chunk of a record: the pending data, if any. -/
def owed (r : Receiver φ β) : List (List β) := if r.pending = [] then [] else [r.pending]

/-- **One record**, arriving after a record of another tag or with nothing pending. -/
theorem absorbAll_record {limit : Nat} (hlimit : 0 < limit) {r : Receiver φ β} (f : Record φ β)
    (hr : r.pending = [] ∨ r.tag ≠ f.tag) (hfit : f.content.length ≤ limit) :
    (f.Closed limit → absorbAll limit r f.chunks = (⟨f.tag, []⟩, owed r ++ [f.content])) ∧
    (¬ f.Closed limit → absorbAll limit r f.chunks = (⟨f.tag, f.content⟩, owed r)) := by
  have hfirst : absorbAll limit r f.chunks =
      ((absorbAll limit ⟨f.tag, []⟩ f.chunks).1,
        owed r ++ (absorbAll limit ⟨f.tag, []⟩ f.chunks).2) := by
    obtain ⟨c, cs, hcs⟩ := List.exists_cons_of_ne_nil f.nonempty
    have hc : c.tag = f.tag := f.tagged c (by simp [hcs])
    have hnew : absorb limit ⟨f.tag, []⟩ c =
        flushIf (complete limit ⟨f.tag, []⟩ c) (extend limit ⟨f.tag, []⟩ c) :=
      absorb_same hc.symm
    rw [hcs, absorbAll, absorbAll, hnew]
    by_cases hp : r.pending = []
    · have hs : stale r c.tag = false := by simp [stale, hp]
      -- the tag of the receiver is not read any more once nothing is pending
      simp [absorb, hs, flushIf, owed, hp, extend, complete]
    · have hs : stale r c.tag = true := by
        simp [stale, hp, hc, hr.resolve_left hp]
      simp [absorb, hs, flushIf, flush, owed, hp, extend, complete]
  have hrest := absorbAll_rest f.chunks (r := ⟨f.tag, []⟩) f.tagged f.marked
    (show ([] : List β).length < limit by simpa using hlimit)
    (by simpa [Record.content] using hfit)
  simp only [List.nil_append] at hrest
  refine ⟨fun h => ?_, fun h => ?_⟩
  · rw [hfirst, hrest.1 h]
    rfl
  · rw [hfirst, hrest.2 h, List.append_nil]
    rfl

/-- **A sequence of records** whose tags change from each to the next.  What has been put out and
what is still pending are together exactly the records, in order; and the last one is still pending
exactly when nothing has announced its end. -/
theorem absorbAll_records {limit : Nat} (hlimit : 0 < limit) (tag : φ) (fs : List (Record φ β))
    (halt : fs.IsChain fun f g => f.tag ≠ g.tag)
    (hfit : ∀ f ∈ fs, f.content ≠ [] ∧ f.content.length ≤ limit) :
    let out := absorbAll limit ⟨tag, []⟩ (fs.flatMap Record.chunks)
    out.2 ++ owed out.1 = fs.map Record.content ∧
      ∀ f, fs.getLast? = some f → out.1.tag = f.tag ∧
        (f.Closed limit → out.1.pending = []) ∧ (¬ f.Closed limit → out.1.pending = f.content) := by
  -- from the right: the last record meets a receiver that owes at most the one before it
  induction fs using List.reverseRecOn with
  | nil => simp [owed]
  | append_singleton fs f ih =>
    rw [List.isChain_append] at halt
    obtain ⟨hput, hend⟩ := ih halt.1 fun g hg => hfit g (by simp [hg])
    have hchunks : (fs ++ [f]).flatMap Record.chunks = fs.flatMap Record.chunks ++ f.chunks := by
      simp
    simp only [hchunks, absorbAll_append]
    generalize absorbAll limit (⟨tag, []⟩ : Receiver φ β) (fs.flatMap Record.chunks) = out
      at hput hend
    have hr : out.1.pending = [] ∨ out.1.tag ≠ f.tag := by
      cases hg : fs.getLast? with
      | none =>
        obtain rfl : fs = [] := by simpa using hg
        refine Or.inl ?_
        by_contra hne
        simp [owed, hne] at hput
      | some g =>
        right
        rw [(hend g hg).1]
        exact halt.2.2 g hg f rfl
    obtain ⟨hclosed, hopen⟩ := absorbAll_record hlimit f hr (hfit f (by simp)).2
    by_cases hcl : f.Closed limit
    · rw [hclosed hcl]
      refine ⟨by simp [owed, ← hput], fun g hg => ?_⟩
      simp only [List.getLast?_append, List.getLast?_singleton, Option.some_or,
        Option.some.injEq] at hg
      subst hg
      exact ⟨rfl, fun _ => rfl, fun h => absurd hcl h⟩
    · rw [hopen hcl]
      have hne := (hfit f (by simp)).1
      refine ⟨by rw [hput]; simp [owed, hne], fun g hg => ?_⟩
      simp only [List.getLast?_append, List.getLast?_singleton, Option.some_or,
        Option.some.injEq] at hg
      subst hg
      exact ⟨rfl, fun h => absurd h hcl, fun _ => rfl⟩

end Reassembly
