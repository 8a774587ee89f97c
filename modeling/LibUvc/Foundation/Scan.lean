import LibUvc.Foundation.Checked

/-!
# Walking a chain of length-prefixed blocks

A common binary format is a chain of blocks, each of which begins with its own length.  Code that
reads one takes a block off the front, hands it to a parser that may change a state and may refuse,
and goes on behind it until the bytes are used up, a length makes no sense, or the parser refuses.

* `scan` is that loop, over an arbitrary parser; `forEach` is the same for items that are already
  separate.  A parser gets a `Block`, that is, a place in the bytes and a length, and nothing keeps
  it from reading on behind the block; one that is given `Block.own` only cannot.
* `split` is what the bytes say by themselves: the longest run of blocks at the front, and what is
  left behind it.  `scan_eq` says that `scan` does `forEach` over these blocks where they lie
  (`placed`), `scan_own_eq` that a parser of `Block.own` goes through the blocks themselves.
* `scan_flatten` is the way back: a chain made of given blocks is taken apart into them.
* `scan_eq_success` and `forEach_cons_eq_success` take a run that succeeds apart, and `post_scan` is
  the invariant rule.
* `Walks` is everything that can be said about a run of the loop without looking into the parser:
  which blocks it hands over (`logging`), in which states, and what it answers.  `scan_walks` says
  it of every run.
* `progress` is the state that the loop has come to, also when it ends in a fault.
* A `Judge` describes a parser from outside: which items it can read without leaving them, which of
  those it accepts, and as much of its state as that depends on.  `Judges J view f` says that the
  description is right, and it passes from a parser to the loops over it (`Judges.forEach`,
  `Judges.scan`), so that a judge of the items gives a judge of the whole chain.

A parser answers with a code, 0 for success, and its state after the item, which is also meaningful
when it refuses.
-/

set_option autoImplicit false

namespace Scan

open Checked

variable {σ τ α : Type}

/-! ## The loops -/

/-- A block where it lies: `bytes` begins with it and goes on to the end of what may be read. -/
structure Block where
  bytes : List UInt8
  size : Nat
  fits : size ≤ bytes.length
  deriving DecidableEq

/-- The block without what is behind it. -/
def Block.own (b : Block) : List UInt8 := b.bytes.take b.size

@[simp] theorem Block.length_own (b : Block) : b.own.length = b.size :=
  List.length_take_of_le b.fits

/-- Run `f` over the items, up to the first that it refuses. -/
def forEach (f : σ → α → Checked (Int × σ)) : σ → List α → Checked (Int × σ)
  | s, [] => return (0, s)
  | s, a :: as => do
    let (r, s') ← f s a
    if r ≠ 0 then return (r, s') else forEach f s' as

/-- `scan`, with a bound on the number of blocks. -/
def scanLoop (least : Nat) (bad : Int) (f : σ → Block → Checked (Int × σ)) :
    Nat → σ → List UInt8 → Checked (Int × σ)
  | 0, s, _ => return (0, s)
  | fuel + 1, s, buf =>
    if buf.length = 0 then return (0, s)
    else do
      let size ← readByte buf 0
      if h : size.toNat < least ∨ buf.length < size.toNat then return (bad, s)
      else do
        let (r, s') ← f s ⟨buf, size.toNat, Nat.le_of_not_lt (not_or.1 h).2⟩
        if r ≠ 0 then return (r, s') else scanLoop least bad f fuel s' (buf.drop size.toNat)

/-- Run `f` over the blocks of `buf`; the answer is `bad` for a length that is below `least` or goes
past the end.  No block is empty, so there are no more of them than bytes. -/
def scan (least : Nat) (bad : Int) (f : σ → Block → Checked (Int × σ)) (s : σ)
    (buf : List UInt8) : Checked (Int × σ) :=
  scanLoop least bad f buf.length s buf

/-! ## The blocks themselves -/

/-- `split`, with a bound on the number of blocks. -/
def splitLoop (least : Nat) : Nat → List UInt8 → List (List UInt8) × List UInt8
  | 0, buf => ([], buf)
  | fuel + 1, buf =>
    let size := (byteAt buf 0).toNat
    if buf = [] ∨ size < least ∨ buf.length < size then ([], buf)
    else
      let (blocks, rest) := splitLoop least fuel (buf.drop size)
      (buf.take size :: blocks, rest)

/-- The longest run of blocks at the front of `buf`, and what comes after it. -/
def split (least : Nat) (buf : List UInt8) : List (List UInt8) × List UInt8 :=
  splitLoop least buf.length buf

/-- The blocks where they lie, one behind the other and all in front of `rest`. -/
def placed : List (List UInt8) → List UInt8 → List Block
  | [], _ => []
  | block :: blocks, rest =>
    ⟨block ++ (blocks.flatten ++ rest), block.length, by
      rw [List.length_append]
      exact Nat.le_add_right _ _⟩ :: placed blocks rest

@[simp] theorem placed_nil (rest : List UInt8) : placed [] rest = [] := rfl

/-- The bytes of a block that are its own. -/
theorem Block.byteAt_own (b : Block) {i : Nat} (h : i < b.size) :
    byteAt b.own i = byteAt b.bytes i := by
  simp only [byteAt, own, List.getD_eq_getElem?_getD, List.getElem?_take_of_lt h]

theorem placed_append (blocks blocks' : List (List UInt8)) (rest : List UInt8) :
    placed (blocks ++ blocks') rest =
      placed blocks (blocks'.flatten ++ rest) ++ placed blocks' rest := by
  induction blocks with
  | nil => rfl
  | cons block blocks ih =>
    rw [List.cons_append, placed, ih, placed, List.cons_append]
    simp only [List.flatten_append, List.append_assoc]

@[simp] theorem map_own_placed (blocks : List (List UInt8)) (rest : List UInt8) :
    (placed blocks rest).map Block.own = blocks := by
  induction blocks with
  | nil => rfl
  | cons block blocks ih =>
    rw [placed, List.map_cons, ih, Block.own, List.take_left]

/-- A parser that looks at the blocks only. -/
theorem forEach_own (f : σ → List UInt8 → Checked (Int × σ)) (s : σ) (bs : List Block) :
    forEach (fun s b => f s b.own) s bs = forEach f s (bs.map Block.own) := by
  induction bs generalizing s with
  | nil => rfl
  | cons b bs ih =>
    rw [List.map_cons, forEach, forEach]
    simp only [ih]

/-- What `scan` answers after its blocks were all accepted. -/
def outcome (bad : Int) (rest : List UInt8) (r : Int) : Int := if r = 0 ∧ rest ≠ [] then bad else r

theorem append_splitLoop (least fuel : Nat) (buf : List UInt8) :
    (splitLoop least fuel buf).1.flatten ++ (splitLoop least fuel buf).2 = buf := by
  induction fuel generalizing buf with
  | zero => rfl
  | succ fuel ih =>
    rw [splitLoop]
    split
    · rfl
    · rw [List.flatten_cons, List.append_assoc, ih, List.take_append_drop]

theorem scanLoop_eq {least : Nat} (hleast : 0 < least) (bad : Int)
    (f : σ → Block → Checked (Int × σ)) (fuel : Nat) (s : σ) (buf : List UInt8)
    (hfuel : buf.length ≤ fuel) :
    scanLoop least bad f fuel s buf = do
      let (r, s') ← forEach f s (placed (splitLoop least fuel buf).1 (splitLoop least fuel buf).2)
      return (outcome bad (splitLoop least fuel buf).2 r, s') := by
  induction fuel generalizing s buf with
  | zero =>
    obtain rfl := List.length_eq_zero_iff.1 (Nat.le_zero.1 hfuel)
    rfl
  | succ fuel ih =>
    rw [scanLoop, splitLoop]
    by_cases hnil : buf = []
    · subst hnil
      rfl
    have hpos : 0 < buf.length := List.length_pos_iff.2 hnil
    rw [if_neg (by omega), readByte_eq hpos, ok_bind]
    by_cases hsize : (byteAt buf 0).toNat < least ∨ buf.length < (byteAt buf 0).toNat
    · rw [dif_pos hsize, if_pos (Or.inr hsize)]
      simp [forEach, outcome, hnil, pure, Except.pure]
    · rw [dif_neg hsize, if_neg (by tauto)]
      have hdrop : (buf.drop (byteAt buf 0).toNat).length ≤ fuel := by
        rw [List.length_drop]
        omega
      have htake : (buf.take (byteAt buf 0).toNat).length = (byteAt buf 0).toNat :=
        List.length_take_of_le (Nat.le_of_not_lt (not_or.1 hsize).2)
      simp only [placed, forEach, bind_assoc, append_splitLoop, List.take_append_drop, htake]
      congr 1
      funext p
      split
      · rename_i hr
        simp [outcome, hr]
      · exact ih _ _ hdrop

/-- The loop runs the parser over the blocks that `split` finds. -/
theorem scan_eq {least : Nat} (hleast : 0 < least) (bad : Int)
    (f : σ → Block → Checked (Int × σ)) (s : σ) (buf : List UInt8) :
    scan least bad f s buf = do
      let (r, s') ← forEach f s (placed (split least buf).1 (split least buf).2)
      return (outcome bad (split least buf).2 r, s') :=
  scanLoop_eq hleast bad f buf.length s buf (le_refl _)

theorem scan_own_eq {least : Nat} (hleast : 0 < least) (bad : Int)
    (f : σ → List UInt8 → Checked (Int × σ)) (s : σ) (buf : List UInt8) :
    scan least bad (fun s b => f s b.own) s buf = do
      let (r, s') ← forEach f s (split least buf).1
      return (outcome bad (split least buf).2 r, s') := by
  rw [scan_eq hleast, forEach_own, map_own_placed]

/-! ## Chains that were put together -/

/-- The bytes are a block: they begin with their own number. -/
def IsBlock (least : Nat) (block : List UInt8) : Prop :=
  least ≤ block.length ∧ (byteAt block 0).toNat = block.length

instance (least : Nat) (block : List UInt8) : Decidable (IsBlock least block) :=
  inferInstanceAs (Decidable (_ ∧ _))

/-- `buf` begins with these blocks, and what is left behind them does not begin with one. -/
structure Chain (least : Nat) (buf : List UInt8) (blocks : List (List UInt8))
    (rest : List UInt8) : Prop where
  eq : buf = blocks.flatten ++ rest
  isBlock : ∀ block ∈ blocks, IsBlock least block
  stop : rest = [] ∨ (byteAt rest 0).toNat < least ∨ rest.length < (byteAt rest 0).toNat

theorem isBlock_of_mem_placed {least : Nat} {blocks : List (List UInt8)}
    (h : ∀ block ∈ blocks, IsBlock least block) {rest : List UInt8} {b : Block}
    (hb : b ∈ placed blocks rest) : least ≤ b.size ∧ (byteAt b.own 0).toNat = b.size := by
  have hmem : b.own ∈ blocks := by
    rw [← map_own_placed blocks rest]
    exact List.mem_map_of_mem hb
  have hblock := h _ hmem
  rwa [IsBlock, b.length_own] at hblock

/-- A buffer that begins with these blocks is taken apart into them. -/
theorem Chain.splitLoop_eq {least : Nat} (hleast : 0 < least) {buf rest : List UInt8}
    {blocks : List (List UInt8)} (h : Chain least buf blocks rest) {fuel : Nat}
    (hfuel : buf.length ≤ fuel) : splitLoop least fuel buf = (blocks, rest) := by
  obtain ⟨rfl, hblocks, hstop⟩ := h
  induction blocks generalizing fuel with
  | nil =>
    cases fuel with
    | zero => rfl
    | succ fuel => rw [List.flatten_nil, List.nil_append, splitLoop, if_pos hstop]
  | cons block blocks ih =>
    obtain ⟨hlong, hsize⟩ := hblocks block List.mem_cons_self
    rw [List.flatten_cons, List.append_assoc] at hfuel ⊢
    rw [List.length_append] at hfuel
    obtain ⟨fuel, rfl⟩ : ∃ n, fuel = n + 1 := ⟨fuel - 1, by omega⟩
    have hne : block ++ (blocks.flatten ++ rest) ≠ [] := by
      rw [← List.length_pos_iff, List.length_append]
      omega
    have hfirst : (byteAt (block ++ (blocks.flatten ++ rest)) 0).toNat = block.length := by
      rw [byteAt_append_left _ (by omega), hsize]
    have hfits : ¬ (block ++ (blocks.flatten ++ rest) = [] ∨ block.length < least ∨
        (block ++ (blocks.flatten ++ rest)).length < block.length) := by
      rw [List.length_append]
      exact not_or.2 ⟨hne, by omega⟩
    rw [splitLoop, hfirst, if_neg hfits, List.drop_left, List.take_left,
      ih (fun b hb => hblocks b (List.mem_cons_of_mem _ hb)) (by omega)]

theorem splitLoop_chain {least : Nat} (hleast : 0 < least) (fuel : Nat) (buf : List UInt8)
    (hfuel : buf.length ≤ fuel) :
    Chain least buf (splitLoop least fuel buf).1 (splitLoop least fuel buf).2 := by
  induction fuel generalizing buf with
  | zero =>
    obtain rfl := List.length_eq_zero_iff.1 (Nat.le_zero.1 hfuel)
    exact ⟨rfl, by simp [splitLoop], Or.inl rfl⟩
  | succ fuel ih =>
    rw [splitLoop]
    split
    · rename_i hstop
      exact ⟨rfl, by simp, hstop⟩
    · rename_i hgo
      obtain ⟨hnil, hsize⟩ := not_or.1 hgo
      obtain ⟨hleast', hfits⟩ := not_or.1 hsize
      have hdrop : (buf.drop (byteAt buf 0).toNat).length ≤ fuel := by
        have := List.length_pos_iff.2 hnil
        rw [List.length_drop]
        omega
      obtain ⟨heq, hblocks, hstop⟩ := ih _ hdrop
      have hlen : (buf.take (byteAt buf 0).toNat).length = (byteAt buf 0).toNat := by
        rw [List.length_take]
        omega
      refine ⟨?_, ?_, hstop⟩
      · rw [List.flatten_cons, List.append_assoc, ← heq, List.take_append_drop]
      · intro block hblock
        rcases List.mem_cons.1 hblock with rfl | hblock
        · refine ⟨by omega, ?_⟩
          rw [hlen]
          congr 1
          have hfirst := byteAt_append_left (l := buf.take (byteAt buf 0).toNat) (i := 0)
            (buf.drop (byteAt buf 0).toNat) (by omega)
          rw [List.take_append_drop] at hfirst
          exact hfirst.symm
        · exact hblocks block hblock

/-- There is one way, and only one, to cut a buffer into blocks. -/
theorem chain_iff {least : Nat} (hleast : 0 < least) {buf rest : List UInt8}
    {blocks : List (List UInt8)} :
    Chain least buf blocks rest ↔ split least buf = (blocks, rest) := by
  constructor
  · exact fun h => h.splitLoop_eq hleast le_rfl
  · intro h
    have hchain := splitLoop_chain hleast buf.length buf le_rfl
    rw [split] at h
    rwa [h] at hchain

/-- **Blocks that were put together are the blocks that are found.** -/
theorem scan_flatten {least : Nat} (hleast : 0 < least) (bad : Int)
    (f : σ → Block → Checked (Int × σ)) (s : σ) {blocks : List (List UInt8)}
    (h : ∀ block ∈ blocks, IsBlock least block) :
    scan least bad f s blocks.flatten = forEach f s (placed blocks []) := by
  have hchain : Chain least blocks.flatten blocks [] := ⟨(List.append_nil _).symm, h, Or.inl rfl⟩
  rw [scan_eq hleast, (chain_iff hleast).1 hchain]
  simp [outcome]

/-! ## Success -/

section Success

variable {f : σ → α → Checked (Int × σ)}

/-- The loop succeeds when the first item is accepted and the loop over the others succeeds. -/
theorem forEach_cons_eq_success {s t : σ} {a : α} {as : List α} :
    forEach f s (a :: as) = .ok (0, t) ↔
      ∃ u, f s a = .ok (0, u) ∧ forEach f u as = .ok (0, t) := by
  rw [forEach, bind_eq_ok]
  constructor
  · rintro ⟨⟨r, u⟩, hf, hrest⟩
    by_cases hr : r = 0
    · subst hr
      exact ⟨u, hf, by simpa using hrest⟩
    · simp only [if_pos hr] at hrest
      exact absurd (congrArg Prod.fst (Except.ok.inj hrest)) hr
  · rintro ⟨u, hf, hrest⟩
    exact ⟨(0, u), hf, by simpa using hrest⟩

theorem forEach_append_eq_success {s t : σ} {as bs : List α} :
    forEach f s (as ++ bs) = .ok (0, t) ↔
      ∃ u, forEach f s as = .ok (0, u) ∧ forEach f u bs = .ok (0, t) := by
  induction as generalizing s with
  | nil =>
    constructor
    · exact fun h => ⟨s, rfl, h⟩
    · rintro ⟨u, hu, h⟩
      obtain ⟨-, rfl⟩ := Prod.mk.inj (Except.ok.inj hu)
      exact h
  | cons a as ih =>
    simp only [List.cons_append, forEach_cons_eq_success, ih]
    constructor
    · rintro ⟨u, hf, v, hv, h⟩
      exact ⟨v, ⟨u, hf, hv⟩, h⟩
    · rintro ⟨v, ⟨u, hf, hv⟩, h⟩
      exact ⟨u, hf, v, hv, h⟩

/-- What every item keeps, the loop keeps. -/
theorem post_forEach {I : σ → Prop} (h : ∀ s a, I s → Post (f s a) fun p => I p.2) {s : σ}
    (as : List α) (hs : I s) : Post (forEach f s as) fun p => I p.2 := by
  induction as generalizing s with
  | nil => exact post_pure hs
  | cons a as ih =>
    refine post_bind fun p hp => ?_
    have hI := h s a hs p hp
    simp only []
    split
    · exact post_pure hI
    · exact ih hI

end Success

/-- The chain is accepted when it consists of blocks and the loop over them succeeds. -/
theorem scan_eq_success {least : Nat} (hleast : 0 < least) {bad : Int} (hbad : bad ≠ 0)
    {f : σ → Block → Checked (Int × σ)} {s t : σ} {buf : List UInt8} :
    scan least bad f s buf = .ok (0, t) ↔
      forEach f s (placed (split least buf).1 []) = .ok (0, t) ∧ (split least buf).2 = [] := by
  rw [scan_eq hleast, bind_eq_ok]
  constructor
  · rintro ⟨⟨r, u⟩, hf, h⟩
    obtain ⟨hr, rfl⟩ := Prod.mk.inj (Except.ok.inj h)
    rw [outcome] at hr
    split at hr
    · exact absurd hr hbad
    · rename_i hcase
      subst hr
      have hrest : (split least buf).2 = [] := by tauto
      rw [hrest] at hf
      exact ⟨hf, hrest⟩
  · rintro ⟨hf, hrest⟩
    rw [hrest]
    exact ⟨(0, t), hf, by simp [outcome, pure, Except.pure]⟩

theorem post_scan {least : Nat} (hleast : 0 < least) {bad : Int}
    {f : σ → Block → Checked (Int × σ)} {I : σ → Prop}
    (h : ∀ s a, I s → Post (f s a) fun p => I p.2) {s : σ} (buf : List UInt8) (hs : I s) :
    Post (scan least bad f s buf) fun p => I p.2 := by
  rw [scan_eq hleast]
  exact post_bind fun p hp => post_pure (post_forEach h _ hs p hp)

/-- What one parser ends with, the other does, and so does the loop. -/
theorem forEach_of_ok {f g : σ → α → Checked (Int × σ)}
    (h : ∀ s a p, f s a = .ok p → g s a = .ok p) {s : σ} {as : List α} {p : Int × σ}
    (hp : forEach f s as = .ok p) : forEach g s as = .ok p := by
  induction as generalizing s with
  | nil => exact hp
  | cons a as ih =>
    rw [forEach, bind_eq_ok] at hp ⊢
    obtain ⟨⟨r, s'⟩, hf, hp⟩ := hp
    refine ⟨(r, s'), h s a _ hf, ?_⟩
    simp only [] at hp ⊢
    split
    · rename_i hr
      rwa [if_pos hr] at hp
    · rename_i hr
      rw [if_neg hr] at hp
      exact ih hp

theorem scan_of_ok {least : Nat} (hleast : 0 < least) {bad : Int}
    {f g : σ → Block → Checked (Int × σ)} (h : ∀ s b p, f s b = .ok p → g s b = .ok p) {s : σ}
    {buf : List UInt8} {p : Int × σ} (hp : scan least bad f s buf = .ok p) :
    scan least bad g s buf = .ok p := by
  rw [scan_eq hleast, bind_eq_ok] at hp ⊢
  obtain ⟨q, hq, hp⟩ := hp
  exact ⟨q, forEach_of_ok h hq, hp⟩

/-- A block and what is behind it. -/
theorem Block.bytes_eq (b : Block) : b.bytes = b.own ++ b.bytes.drop b.size :=
  (List.take_append_drop _ _).symm

theorem stable_forEach {f : List UInt8 → σ → α → Checked (Int × σ)}
    (h : ∀ s a, Stable fun buf => f buf s a) (s : σ) (as : List α) :
    Stable fun buf => forEach (f buf) s as := by
  induction as generalizing s with
  | nil => exact stable_const _
  | cons a as ih =>
    refine (h s a).bind fun p => ?_
    exact stable_ite (stable_const _) (ih p.2)

/-! ## What the loop hands over -/

/-- Every item is accepted, and the state goes from one to the next. -/
def Through (f : σ → α → Checked (Int × σ)) : σ → List α → σ → Prop
  | s, [], t => t = s
  | s, a :: as, t => ∃ u, f s a = .ok (0, u) ∧ Through f u as t

theorem forEach_eq_success {f : σ → α → Checked (Int × σ)} {s t : σ} {as : List α} :
    forEach f s as = .ok (0, t) ↔ Through f s as t := by
  induction as generalizing s with
  | nil =>
    constructor
    · intro h
      exact (Prod.mk.inj (Except.ok.inj h)).2.symm
    · rintro rfl
      rfl
  | cons a as ih =>
    rw [forEach_cons_eq_success]
    exact exists_congr fun u => and_congr_right fun _ => ih

theorem Through.unique {f : σ → α → Checked (Int × σ)} {s t t' : σ} {as : List α}
    (h : Through f s as t) (h' : Through f s as t') : t = t' :=
  (Prod.mk.inj (Except.ok.inj ((forEach_eq_success.2 h).symm.trans (forEach_eq_success.2 h')))).2

theorem through_append {f : σ → α → Checked (Int × σ)} {s t : σ} {as bs : List α} :
    Through f s (as ++ bs) t ↔ ∃ u, Through f s as u ∧ Through f u bs t := by
  simp only [← forEach_eq_success, forEach_append_eq_success]

/-- A parser that accepts as much as another, in the same way, gets through as well. -/
theorem Through.mono {f g : σ → α → Checked (Int × σ)} {s t : σ} {as : List α}
    (h : Through f s as t) (hfg : ∀ a ∈ as, ∀ u v, f u a = .ok (0, v) → g u a = .ok (0, v)) :
    Through g s as t := by
  induction as generalizing s with
  | nil => exact h
  | cons a as ih =>
    obtain ⟨u, hu, hrest⟩ := h
    obtain ⟨ha, has⟩ := List.forall_mem_cons.1 hfg
    exact ⟨u, ha _ _ hu, ih hrest has⟩

/-- The parser, with a record of what it was handed. -/
def logging (f : σ → α → Checked (Int × σ)) :
    σ × List α → α → Checked (Int × (σ × List α)) := fun (s, log) a => do
  let (r, s') ← f s a
  return (r, (s', log ++ [a]))

section Logging

variable {f : σ → α → Checked (Int × σ)}

/-- The record is of no concern to the parser. -/
theorem forEach_logging (s : σ) (log as : List α) :
    forEach f s as = do
      let (r, t, _) ← forEach (logging f) (s, log) as
      return (r, t) := by
  induction as generalizing s log with
  | nil => rfl
  | cons a as ih =>
    rw [forEach, forEach, logging, bind_assoc, bind_assoc]
    congr 1
    funext ⟨r, u⟩
    simp only [pure_bind']
    split
    · rfl
    · exact ih u (log ++ [a])

/-- The first item that is not accepted: the ones in front of it are, and it is handed over in the
state that they leave. -/
def Reaches (f : σ → α → Checked (Int × σ)) (s : σ) (as pre : List α) (a : α) (u : σ) : Prop :=
  (∃ post, as = pre ++ a :: post) ∧ Through f s pre u

theorem reaches_cons {s u : σ} {a b : α} {as pre : List α} :
    Reaches f s (a :: as) pre b u ↔ (pre = [] ∧ b = a ∧ u = s) ∨
      ∃ pre' v, pre = a :: pre' ∧ f s a = .ok (0, v) ∧ Reaches f v as pre' b u := by
  constructor
  · rintro ⟨⟨post, heq⟩, hthrough⟩
    cases pre with
    | nil =>
      obtain ⟨rfl, -⟩ := List.cons.inj heq
      exact Or.inl ⟨rfl, rfl, hthrough⟩
    | cons c pre =>
      obtain ⟨rfl, htail⟩ := List.cons.inj heq
      obtain ⟨v, hv, hthrough⟩ := hthrough
      exact Or.inr ⟨pre, v, rfl, hv, ⟨post, htail⟩, hthrough⟩
  · rintro (⟨rfl, rfl, rfl⟩ | ⟨pre', v, rfl, hv, ⟨post, rfl⟩, hthrough⟩)
    · exact ⟨⟨as, rfl⟩, rfl⟩
    · exact ⟨⟨post, rfl⟩, v, hv, hthrough⟩

/-- **What the loop hands over and answers**: all items, if all are accepted, and otherwise those up
to the first that is refused, whose answer it gives. -/
theorem forEach_logging_eq_ok {s t : σ} {log log' as : List α} {r : Int} :
    forEach (logging f) (s, log) as = .ok (r, t, log') ↔
      (Through f s as t ∧ r = 0 ∧ log' = log ++ as) ∨
      ∃ pre a u, Reaches f s as pre a u ∧ f u a = .ok (r, t) ∧ r ≠ 0 ∧
        log' = log ++ (pre ++ [a]) := by
  induction as generalizing s log with
  | nil =>
    constructor
    · intro h
      obtain ⟨rfl, hrest⟩ := Prod.mk.inj (Except.ok.inj h)
      obtain ⟨rfl, rfl⟩ := Prod.mk.inj hrest
      exact Or.inl ⟨rfl, rfl, (List.append_nil _).symm⟩
    · rintro (⟨rfl, rfl, rfl⟩ | ⟨pre, a, u, ⟨⟨post, heq⟩, -⟩, -⟩)
      · rw [List.append_nil]
        rfl
      · simp at heq
  | cons a as ih =>
    rw [forEach, logging, bind_assoc, bind_eq_ok]
    simp only [pure_bind']
    constructor
    · rintro ⟨⟨r', u⟩, hf, h⟩
      split at h
      · rename_i hr
        obtain ⟨rfl, hrest⟩ := Prod.mk.inj (Except.ok.inj h)
        obtain ⟨rfl, rfl⟩ := Prod.mk.inj hrest
        exact Or.inr ⟨[], a, s, reaches_cons.2 (Or.inl ⟨rfl, rfl, rfl⟩), hf, hr, rfl⟩
      · rename_i hr
        obtain rfl : r' = 0 := not_not.1 hr
        rcases ih.1 h with ⟨hthrough, hzero, hlog⟩ | ⟨pre, b, v, hreach, hb, hne, hlog⟩
        · exact Or.inl ⟨⟨u, hf, hthrough⟩, hzero, by rw [hlog, List.append_assoc]; rfl⟩
        · refine Or.inr ⟨a :: pre, b, v, reaches_cons.2 (Or.inr ⟨pre, u, rfl, hf, hreach⟩), hb, hne,
            by rw [hlog, List.append_assoc]; rfl⟩
    · rintro (⟨⟨u, hf, hthrough⟩, rfl, rfl⟩ | ⟨pre, b, v, hreach, hb, hne, rfl⟩)
      · refine ⟨(0, u), hf, ?_⟩
        rw [if_neg (by simp)]
        exact ih.2 (Or.inl ⟨hthrough, rfl, by rw [List.append_assoc]; rfl⟩)
      · rcases reaches_cons.1 hreach with ⟨rfl, rfl, rfl⟩ | ⟨pre', u, rfl, hf, hreach⟩
        · exact ⟨(r, t), hb, if_pos hne⟩
        · refine ⟨(0, u), hf, ?_⟩
          rw [if_neg (by simp)]
          exact ih.2 (Or.inr ⟨pre', b, v, hreach, hb, hne, by rw [List.append_assoc]; rfl⟩)

/-- The loop faults only where the parser does. -/
theorem forEach_eq_error {s : σ} {as : List α} {e : Fault} :
    forEach f s as = .error e ↔
      ∃ pre a u, Reaches f s as pre a u ∧ f u a = .error e := by
  induction as generalizing s with
  | nil =>
    constructor
    · intro h
      cases h
    · rintro ⟨pre, a, u, ⟨⟨post, heq⟩, -⟩, -⟩
      simp at heq
  | cons a as ih =>
    rw [forEach]
    constructor
    · intro h
      cases hf : f s a with
      | error e' =>
        rw [hf] at h
        obtain rfl := Except.error.inj h
        exact ⟨[], a, s, reaches_cons.2 (Or.inl ⟨rfl, rfl, rfl⟩), hf⟩
      | ok p =>
        obtain ⟨r, u⟩ := p
        rw [hf, ok_bind] at h
        simp only [] at h
        split at h
        · cases h
        · rename_i hr
          rw [not_not] at hr
          obtain ⟨pre, b, v, hreach, hb⟩ := ih.1 h
          exact ⟨a :: pre, b, v, reaches_cons.2 (Or.inr ⟨pre, u, rfl, hr ▸ hf, hreach⟩), hb⟩
    · rintro ⟨pre, b, v, hreach, hb⟩
      rcases reaches_cons.1 hreach with ⟨rfl, rfl, rfl⟩ | ⟨pre', u, rfl, hf, hreach⟩
      · rw [hb]
        rfl
      · rw [hf, ok_bind]
        simp only []
        rw [if_neg (by simp)]
        exact ih.2 ⟨pre', b, v, hreach, hb⟩

end Logging

/-! ## How far the loop gets

A fault ends the parser without a state, but what the parser did before is done.  `g` tells the
state in which `f` ends or faults, and `progress f g` tells it of the loop. -/

/-- `g` is the state of `f`, where `f` ends without a fault. -/
def Tracks (f : σ → α → Checked (Int × σ)) (g : σ → α → σ) : Prop :=
  ∀ s a, Post (f s a) fun p => g s a = p.2

/-- The state in which the loop ends, or has come to when it faults. -/
def progress (f : σ → α → Checked (Int × σ)) (g : σ → α → σ) : σ → List α → σ
  | s, [] => s
  | s, a :: as =>
    match f s a with
    | .ok (r, t) => if r ≠ 0 then t else progress f g t as
    | .error _ => g s a

section Progress

variable {f : σ → α → Checked (Int × σ)} {g : σ → α → σ}

/-- **From one item to all of them.** -/
theorem tracks_forEach : Tracks (forEach f) (progress f g) := by
  intro s as
  induction as generalizing s with
  | nil => exact post_pure rfl
  | cons a as ih =>
    refine post_bind fun p hp => ?_
    rw [progress, hp]
    simp only []
    split
    · exact post_pure rfl
    · exact ih p.2

/-- What is kept on each item, fault or not, is kept by the loop. -/
theorem Tracks.progress (h : Tracks f g) {I : σ → Prop} {as : List α}
    (hI : ∀ a ∈ as, ∀ s, I s → I (g s a)) {s : σ} (hs : I s) : I (progress f g s as) := by
  induction as generalizing s with
  | nil => exact hs
  | cons a as ih =>
    obtain ⟨ha, has⟩ := List.forall_mem_cons.1 hI
    rw [Scan.progress]
    cases hf : f s a with
    | error e => exact ha s hs
    | ok p =>
      have hp : I p.2 := h s a p hf ▸ ha s hs
      simp only []
      split
      · exact hp
      · exact ih has hp

/-- What holds when an item stops the loop holds when the loop was stopped. -/
theorem post_forEach_stopped {Q : σ → Prop} {as : List α}
    (h : ∀ a ∈ as, ∀ s, Post (f s a) fun p => p.1 ≠ 0 → Q p.2) (s : σ) :
    Post (forEach f s as) fun p => p.1 ≠ 0 → Q p.2 := by
  induction as generalizing s with
  | nil => exact post_pure fun hr => absurd rfl hr
  | cons a as ih =>
    obtain ⟨ha, has⟩ := List.forall_mem_cons.1 h
    refine post_bind fun p hp => ?_
    simp only []
    split
    · exact post_pure (ha s p hp)
    · exact ih has p.2

end Progress

/-! ## All there is to say -/

/-- All that the loop does with `buf`, the parser's own doings apart: it hands over the blocks at
the front of `buf`, one after another and where they lie, up to the first that is refused, and
answers with `bad` if what is left is not a block, and with the refusal if there is one. -/
structure Walks (least : Nat) (bad : Int) (f : σ → Block → Checked (Int × σ)) (s : σ)
    (buf : List UInt8) (blocks : List (List UInt8)) (rest : List UInt8) : Prop where
  /-- The blocks are the longest chain at the front of `buf`. -/
  chain : Chain least buf blocks rest
  /-- The loop is over after at most as many rounds as there are bytes. -/
  terminates : ∀ fuel, buf.length ≤ fuel → scanLoop least bad f fuel s buf = scan least bad f s buf
  plain : scan least bad f s buf = do
    let (r, t, _) ← scan least bad (logging f) (s, []) buf
    return (r, t)
  answers : ∀ r t log, scan least bad (logging f) (s, []) buf = .ok (r, t, log) ↔
    (Through f s (placed blocks rest) t ∧ r = (if rest = [] then 0 else bad) ∧
      log = placed blocks rest) ∨
    ∃ pre block u, Reaches f s (placed blocks rest) pre block u ∧ f u block = .ok (r, t) ∧ r ≠ 0 ∧
      log = pre ++ [block]
  /-- The loop itself stays inside `buf`. -/
  faults : ∀ e, scan least bad f s buf = .error e ↔
    ∃ pre block u, Reaches f s (placed blocks rest) pre block u ∧ f u block = .error e
  accepts : ∀ t, scan least bad f s buf = .ok (0, t) ↔
    ∃ bs, buf = bs.flatten ∧ (∀ b ∈ bs, IsBlock least b) ∧ Through f s (placed bs []) t

theorem bind_pure_eq_error {β γ : Type} {x : Checked β} {g : β → γ} {e : Fault} :
    (x >>= fun b => pure (g b)) = .error e ↔ x = .error e := by
  cases x with
  | error e' =>
    constructor
    · intro h
      rw [Except.error.inj h]
    · intro h
      rw [Except.error.inj h]
      rfl
  | ok b => exact iff_of_false (fun h => nomatch h) (fun h => nomatch h)

/-- **Every run of the loop.** -/
theorem scan_walks {least : Nat} (hleast : 0 < least) {bad : Int} (hbad : bad ≠ 0)
    (f : σ → Block → Checked (Int × σ)) (s : σ) (buf : List UInt8) :
    Walks least bad f s buf (split least buf).1 (split least buf).2 := by
  have hchain : Chain least buf (split least buf).1 (split least buf).2 := (chain_iff hleast).2 rfl
  refine ⟨hchain, fun fuel hfuel => ?_, ?_, fun r t log => ?_, fun e => ?_, fun t => ?_⟩
  · rw [scan_eq hleast, scanLoop_eq hleast bad f fuel s buf hfuel,
      hchain.splitLoop_eq hleast hfuel]
  · rw [scan_eq hleast, scan_eq hleast, forEach_logging s []]
    simp only [bind_assoc, pure_bind']
  · rw [scan_eq hleast, bind_eq_ok]
    constructor
    · rintro ⟨⟨r', t', log'⟩, hfor, hret⟩
      obtain ⟨rfl, hrest⟩ := Prod.mk.inj (Except.ok.inj hret)
      obtain ⟨rfl, rfl⟩ := Prod.mk.inj hrest
      rcases forEach_logging_eq_ok.1 hfor with ⟨hthrough, rfl, rfl⟩ |
        ⟨pre, block, u, hreach, hb, hne, rfl⟩
      · refine Or.inl ⟨hthrough, ?_, rfl⟩
        by_cases hnil : (split least buf).2 = []
        · simp [outcome, hnil]
        · simp [outcome, hnil]
      · have hout : outcome bad (split least buf).2 r' = r' := by simp [outcome, hne]
        exact Or.inr ⟨pre, block, u, hreach, hout.symm ▸ hb, hout.symm ▸ hne, rfl⟩
    · rintro (⟨hthrough, rfl, rfl⟩ | ⟨pre, block, u, hreach, hb, hne, rfl⟩)
      · refine ⟨_, forEach_logging_eq_ok.2 (Or.inl ⟨hthrough, rfl, rfl⟩), ?_⟩
        by_cases hnil : (split least buf).2 = []
        · simp [outcome, hnil, pure, Except.pure]
        · simp [outcome, hnil, pure, Except.pure]
      · refine ⟨_, forEach_logging_eq_ok.2 (Or.inr ⟨pre, block, u, hreach, hb, hne, rfl⟩), ?_⟩
        simp [outcome, hne, pure, Except.pure]
  · rw [scan_eq hleast, bind_pure_eq_error, forEach_eq_error]
  · rw [scan_eq_success hleast hbad, forEach_eq_success]
    constructor
    · rintro ⟨hthrough, hnil⟩
      refine ⟨_, ?_, hchain.isBlock, hthrough⟩
      have heq := hchain.eq
      rwa [hnil, List.append_nil] at heq
    · rintro ⟨bs, rfl, hblocks, hthrough⟩
      rw [(chain_iff hleast).1 ⟨(List.append_nil _).symm, hblocks, Or.inl rfl⟩]
      exact ⟨hthrough, rfl⟩

/-! ## Judges -/

/-- A description of a parser: what it can read without leaving it, what it accepts, and what of its
state that depends on. -/
structure Judge (τ α : Type) where
  fits : τ → α → Prop
  accepts : τ → α → Prop
  next : τ → α → τ

/-- Every item that is reached fits; the ones behind a refused item are not reached. -/
def Judge.FitsAll (J : Judge τ α) : τ → List α → Prop
  | _, [] => True
  | t, a :: as => J.fits t a ∧ (J.accepts t a → J.FitsAll (J.next t a) as)

def Judge.AcceptsAll (J : Judge τ α) : τ → List α → Prop
  | _, [] => True
  | t, a :: as => J.accepts t a ∧ J.AcceptsAll (J.next t a) as

/-- The judge of a list of items. -/
def Judge.list (J : Judge τ α) : Judge τ (List α) where
  fits := J.FitsAll
  accepts := J.AcceptsAll
  next := List.foldl J.next

/-- The judge of a chain of blocks. -/
def Judge.blocks (J : Judge τ (List UInt8)) (least : Nat) : Judge τ (List UInt8) where
  fits t buf := J.FitsAll t (split least buf).1
  accepts t buf := J.AcceptsAll t (split least buf).1 ∧ (split least buf).2 = []
  next t buf := (split least buf).1.foldl J.next t

/-- `J` describes `f`. -/
structure Judges (J : Judge τ α) (view : σ → τ) (f : σ → α → Checked (Int × σ)) : Prop where
  safe_iff : ∀ s a, Safe (f s a) ↔ J.fits (view s) a
  answers : ∀ s a, Post (f s a) fun (r, s') =>
    (r = 0 ↔ J.accepts (view s) a) ∧ (r = 0 → view s' = J.next (view s) a)

variable {J : Judge τ α} {view : σ → τ} {f : σ → α → Checked (Int × σ)}

theorem safe_forEach_cons {s : σ} {a : α} {as : List α} :
    Safe (forEach f s (a :: as)) ↔
      ∃ r s', f s a = .ok (r, s') ∧ (r = 0 → Safe (forEach f s' as)) := by
  rw [forEach, safe_bind, Prod.exists]
  refine exists_congr fun r => exists_congr fun s' => and_congr_right fun _ => ?_
  by_cases hr : r = 0
  · simp [hr]
  · simp [hr]

theorem post_forEach_cons {s : σ} {a : α} {as : List α} {Q : Int × σ → Prop}
    (h : ∀ r s', f s a = .ok (r, s') →
      (r ≠ 0 → Q (r, s')) ∧ (r = 0 → Post (forEach f s' as) Q)) :
    Post (forEach f s (a :: as)) Q := by
  rw [forEach]
  refine post_bind fun p hp => ?_
  obtain ⟨hne, heq⟩ := h p.1 p.2 hp
  simp only []
  split
  · rename_i hr
    exact post_pure (hne hr)
  · rename_i hr
    exact heq (not_not.1 hr)

/-- **From one item to all of them.** -/
theorem Judges.forEach (h : Judges J view f) : Judges J.list view (forEach f) where
  safe_iff := by
    intro s as
    induction as generalizing s with
    | nil => exact iff_of_true ⟨_, rfl⟩ trivial
    | cons a as ih =>
      show _ ↔ J.fits (view s) a ∧ (J.accepts (view s) a → J.FitsAll (J.next (view s) a) as)
      rw [safe_forEach_cons, ← h.safe_iff]
      constructor
      · rintro ⟨r, s', hf, hrest⟩
        obtain ⟨hacc, hnext⟩ := h.answers s a _ hf
        refine ⟨⟨_, hf⟩, fun ha => ?_⟩
        rw [← hnext (hacc.2 ha)]
        exact (ih s').1 (hrest (hacc.2 ha))
      · rintro ⟨⟨⟨r, s'⟩, hf⟩, hrest⟩
        obtain ⟨hacc, hnext⟩ := h.answers s a _ hf
        refine ⟨r, s', hf, fun hr => (ih s').2 ?_⟩
        show J.FitsAll (view s') as
        rw [hnext hr]
        exact hrest (hacc.1 hr)
  answers := by
    intro s as
    induction as generalizing s with
    | nil => exact post_pure ⟨iff_of_true rfl trivial, fun _ => rfl⟩
    | cons a as ih =>
      refine post_forEach_cons fun r s' hf => ?_
      obtain ⟨hacc, hnext⟩ := h.answers s a _ hf
      refine ⟨fun hr => ⟨iff_of_false hr fun ha => hr (hacc.2 ha.1), fun hr' => absurd hr' hr⟩,
        fun hr => ?_⟩
      intro p hp
      obtain ⟨hacc', hnext'⟩ := ih s' p hp
      rw [hnext hr] at hacc' hnext'
      exact ⟨hacc'.trans (and_iff_right (hacc.1 hr)).symm, hnext'⟩

/-- **From one block to the chain.** -/
theorem Judges.scan {J : Judge τ (List UInt8)} {f : σ → List UInt8 → Checked (Int × σ)}
    (h : Judges J view f) {least : Nat} (hleast : 0 < least) {bad : Int} (hbad : bad ≠ 0) :
    Judges (J.blocks least) view (scan least bad fun s b => f s b.own) where
  safe_iff := by
    intro s buf
    rw [scan_own_eq hleast, safe_bind]
    refine Iff.trans ?_ (h.forEach.safe_iff s (split least buf).1)
    exact ⟨fun ⟨p, hp, _⟩ => ⟨p, hp⟩, fun ⟨p, hp⟩ => ⟨p, hp, safe_pure _⟩⟩
  answers := by
    intro s buf
    rw [scan_own_eq hleast]
    refine post_bind fun p hp => post_pure ?_
    obtain ⟨hacc, hnext⟩ := h.forEach.answers s _ p hp
    show (outcome bad (split least buf).2 p.1 = 0 ↔
      J.AcceptsAll (view s) (split least buf).1 ∧ (split least buf).2 = []) ∧ _
    rw [← show _ ↔ J.AcceptsAll (view s) (split least buf).1 from hacc, outcome]
    split
    · rename_i hcase
      exact ⟨iff_of_false hbad fun ha => hcase.2 ha.2, fun hr => absurd hr hbad⟩
    · rename_i hcase
      exact ⟨by tauto, hnext⟩

end Scan
