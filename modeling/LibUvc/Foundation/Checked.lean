import Mathlib.Data.List.GetD
import Mathlib.Data.List.Basic
import Mathlib.Tactic.Linarith

/-!
# Byte buffers whose every access is checked

C code that walks a buffer is correct only as long as every index it forms is inside the object it
indexes, and nothing in the language says when it is not.  Here that silence is made loud: a
computation that touches memory lives in `Checked`, an access outside its object is a `Fault`, and
"this code is memory safe" is the statement that it never ends in one.

* `byteAt buf i` is the byte at `i`, with a default outside; `readByte` is the same read with the
  check in front of it.  Proofs rewrite the second into the first as soon as the bound is known and
  never look at the check again.
* `slice` and `blit` are the two halves of a `memcpy`: reading a run of bytes out of one object and
  writing it into another.
* `sub` is a subtraction on an unsigned length, which faults instead of wrapping; `divide` and its
  companions are divisions, which fault on a divisor of zero.
* `Safe x` says that `x` does not fault.  `safe_bind_readByte` and its companions turn the safety of
  a straight-line reader into the conjunction of its bounds, which is the form `omega` can use.
* `Stable f` says that a reader which does not fault gets the same out of a longer buffer.
-/

set_option autoImplicit false

/-- What can go wrong in an access to memory, or in a division. -/
inductive Fault where
  /-- An index outside the object it indexes. -/
  | outOfBounds
  /-- A subtraction of lengths whose result would be negative. -/
  | underflow
  /-- A null pointer followed. -/
  | nullPointer
  /-- A divisor of zero. -/
  | divisionByZero
  deriving DecidableEq, Repr

/-- A computation that may fault. -/
abbrev Checked (α : Type) := Except Fault α

namespace Checked

variable {α β : Type}

/-- The computation ends without a fault. -/
def Safe (x : Checked α) : Prop := ∃ a, x = .ok a

@[simp] theorem safe_ok (a : α) : Safe (.ok a : Checked α) := ⟨a, rfl⟩

@[simp] theorem safe_pure (a : α) : Safe (pure a : Checked α) := ⟨a, rfl⟩

@[simp] theorem not_safe_error (e : Fault) : ¬ Safe (.error e : Checked α) := by
  rintro ⟨a, h⟩
  cases h

instance (x : Checked α) : Decidable (Safe x) :=
  match x with
  | .ok a => isTrue ⟨a, rfl⟩
  | .error e => isFalse (not_safe_error e)

@[simp] theorem ok_bind (a : α) (f : α → Checked β) : ((.ok a : Checked α) >>= f) = f a := rfl

@[simp] theorem pure_bind' (a : α) (f : α → Checked β) : ((pure a : Checked α) >>= f) = f a := rfl

@[simp] theorem error_bind (e : Fault) (f : α → Checked β) :
    ((.error e : Checked α) >>= f) = .error e := rfl

/-- A sequence ends well exactly when both halves do, whatever else may come of them. -/
theorem bind_eq_ok {ε : Type} {x : Except ε α} {f : α → Except ε β} {b : β} :
    (x >>= f) = .ok b ↔ ∃ a, x = .ok a ∧ f a = .ok b := by
  cases x with
  | error e => simp [bind, Except.bind]
  | ok a => simp [bind, Except.bind]

theorem eq_ok_of_toOption {x : Checked α} {a : α} (h : x.toOption = some a) : x = .ok a := by
  match x, h with
  | .ok b, h => exact congrArg Except.ok (Option.some.inj h)

theorem safe_bind {x : Checked α} {f : α → Checked β} :
    Safe (x >>= f) ↔ ∃ a, x = .ok a ∧ Safe (f a) := by
  cases x with
  | error e => simp
  | ok a => simp

/-- When the second half does not depend on what the first has computed. -/
theorem safe_bind_iff {x : Checked α} {f : α → Checked β} {P : Prop} (h : ∀ a, Safe (f a) ↔ P) :
    Safe (x >>= f) ↔ Safe x ∧ P := by
  cases x with
  | error e => simp
  | ok a => simp [h]

/-- If the computation ends without a fault, then with a result that meets `Q`. -/
def Post (x : Checked α) (Q : α → Prop) : Prop := ∀ a, x = .ok a → Q a

theorem post_pure {a : α} {Q : α → Prop} (h : Q a) : Post (pure a : Checked α) Q := by
  intro b hb
  obtain rfl := Except.ok.inj hb
  exact h

theorem post_bind {x : Checked α} {f : α → Checked β} {Q : β → Prop}
    (h : ∀ a, x = .ok a → Post (f a) Q) : Post (x >>= f) Q := by
  intro b hb
  obtain ⟨a, ha, hfb⟩ := bind_eq_ok.1 hb
  exact h a ha b hfb

/-! ## Reading -/

/-- The byte at `i`, and zero outside the buffer. -/
def byteAt (buf : List UInt8) (i : Nat) : UInt8 := buf.getD i 0

theorem byteAt_eq_getElem {buf : List UInt8} {i : Nat} (h : i < buf.length) :
    byteAt buf i = buf[i] := by
  simp [byteAt, h]

theorem byteAt_append_left {l : List UInt8} {i : Nat} (m : List UInt8) (h : i < l.length) :
    byteAt (l ++ m) i = byteAt l i := List.getD_append _ _ _ _ h

theorem byteAt_append_right {l : List UInt8} {i : Nat} (m : List UInt8) (h : l.length ≤ i) :
    byteAt (l ++ m) i = byteAt m (i - l.length) := List.getD_append_right _ _ _ _ h

theorem byteAt_append_add (l m : List UInt8) (i : Nat) :
    byteAt (l ++ m) (l.length + i) = byteAt m i := by
  rw [byteAt_append_right m (Nat.le_add_right _ _), Nat.add_sub_cancel_left]

/-- The byte at `i`, checked. -/
def readByte (buf : List UInt8) (i : Nat) : Checked UInt8 :=
  if i < buf.length then .ok (byteAt buf i) else .error .outOfBounds

theorem readByte_eq {buf : List UInt8} {i : Nat} (h : i < buf.length) :
    readByte buf i = .ok (byteAt buf i) := if_pos h

theorem readByte_error {buf : List UInt8} {i : Nat} (h : ¬ i < buf.length) :
    readByte buf i = .error .outOfBounds := if_neg h

/-- A read in front of what is out of bounds in any case. -/
theorem readByte_bind_error {buf : List UInt8} {i : Nat} {f : UInt8 → Checked β}
    (h : ∀ b, f b = .error .outOfBounds) : (readByte buf i >>= f) = .error .outOfBounds := by
  rw [readByte]
  split
  · rw [ok_bind, h]
  · rfl

theorem readByte_append_add (l m : List UInt8) (i : Nat) :
    readByte (l ++ m) (l.length + i) = readByte m i := by
  rw [readByte, readByte, byteAt_append_add, List.length_append]
  simp only [Nat.add_lt_add_iff_left]

@[simp] theorem safe_bind_readByte {buf : List UInt8} {i : Nat} {f : UInt8 → Checked β} :
    Safe (readByte buf i >>= f) ↔ i < buf.length ∧ Safe (f (byteAt buf i)) := by
  rw [readByte]
  split
  · rename_i h; simp [h]
  · rename_i h; simp [h]

theorem bind_readByte_eq_ok {buf : List UInt8} {i : Nat} {f : UInt8 → Checked β} {b : β} :
    readByte buf i >>= f = .ok b ↔ i < buf.length ∧ f (byteAt buf i) = .ok b := by
  rw [readByte]
  split
  · rename_i h; simp [h]
  · rename_i h; simp [h]

theorem post_bind_readByte {buf : List UInt8} {i : Nat} {f : UInt8 → Checked β} {Q : β → Prop}
    (h : Post (f (byteAt buf i)) Q) : Post (readByte buf i >>= f) Q :=
  fun b hb => h b (bind_readByte_eq_ok.1 hb).2

/-- The `len` bytes from `off` on, checked as a whole. -/
def slice (buf : List UInt8) (off len : Nat) : Checked (List UInt8) :=
  if off + len ≤ buf.length then .ok ((buf.drop off).take len) else .error .outOfBounds

theorem slice_eq {buf : List UInt8} {off len : Nat} (h : off + len ≤ buf.length) :
    slice buf off len = .ok ((buf.drop off).take len) := if_pos h

theorem slice_append (l m rest : List UInt8) :
    slice (l ++ (m ++ rest)) l.length m.length = .ok m := by
  rw [slice_eq (by simp only [List.length_append]; omega), List.drop_left, List.take_left]

@[simp] theorem safe_bind_slice {buf : List UInt8} {off len : Nat} {f : List UInt8 → Checked β} :
    Safe (slice buf off len >>= f) ↔
      off + len ≤ buf.length ∧ Safe (f ((buf.drop off).take len)) := by
  rw [slice]
  split
  · rename_i h; simp [h]
  · rename_i h; simp [h]

/-! ## Writing -/

/-- `buf` with `src` written over it from `off` on, checked. -/
def blit (buf : List UInt8) (off : Nat) (src : List UInt8) : Checked (List UInt8) :=
  if off + src.length ≤ buf.length then
    .ok (buf.take off ++ src ++ buf.drop (off + src.length))
  else .error .outOfBounds

theorem blit_eq {buf : List UInt8} {off : Nat} {src : List UInt8}
    (h : off + src.length ≤ buf.length) :
    blit buf off src = .ok (buf.take off ++ src ++ buf.drop (off + src.length)) := if_pos h

/-- Writing does not move the end of the object. -/
theorem length_blit {buf : List UInt8} {off : Nat} {src : List UInt8}
    (h : off + src.length ≤ buf.length) :
    (buf.take off ++ src ++ buf.drop (off + src.length)).length = buf.length := by
  simp only [List.length_append, List.length_take, List.length_drop]
  omega

/-- What lies below the end of the run just written: the bytes before it, then the run. -/
theorem take_blit {buf : List UInt8} {off : Nat} {src : List UInt8}
    (h : off + src.length ≤ buf.length) :
    (buf.take off ++ src ++ buf.drop (off + src.length)).take (off + src.length) =
      buf.take off ++ src := by
  have hlen : (buf.take off ++ src).length = off + src.length := by
    simp only [List.length_append, List.length_take]
    omega
  rw [List.take_append_of_le_length hlen.ge, ← hlen, List.take_length]

/-! ## Arrays of anything -/

/-- `l[i]`, checked. -/
def readAt (l : List α) (i : Nat) : Checked α :=
  match l[i]? with
  | some a => .ok a
  | none => .error .outOfBounds

theorem readAt_eq {l : List α} {i : Nat} {a : α} (h : l[i]? = some a) : readAt l i = .ok a := by
  rw [readAt, h]

theorem safe_bind_readAt {l : List α} {i : Nat} {f : α → Checked β} :
    Safe (readAt l i >>= f) ↔ ∃ a, l[i]? = some a ∧ Safe (f a) := by
  rw [readAt]
  cases l[i]? <;> simp

/-- `l` with `a` written to `l[i]`, checked. -/
def writeAt (l : List α) (i : Nat) (a : α) : Checked (List α) :=
  if i < l.length then .ok (l.set i a) else .error .outOfBounds

theorem writeAt_eq {l : List α} {i : Nat} {a : α} (h : i < l.length) :
    writeAt l i a = .ok (l.set i a) := if_pos h

theorem byteAt_set_self {buf : List UInt8} {i : Nat} (h : i < buf.length) (b : UInt8) :
    byteAt (buf.set i b) i = b := by
  rw [byteAt_eq_getElem (by rwa [List.length_set]), List.getElem_set_self]

theorem byteAt_set_ne {buf : List UInt8} {i j : Nat} (h : i ≠ j) (b : UInt8) :
    byteAt (buf.set i b) j = byteAt buf j := by
  simp only [byteAt, List.getD_eq_getElem?_getD, List.getElem?_set_ne h]

/-- Single bytes written one after the other. -/
def writeEach : List (Nat × UInt8) → List UInt8 → Checked (List UInt8)
  | [], buf => return buf
  | (i, b) :: stores, buf => do
    let buf ← writeAt buf i b
    writeEach stores buf

/-- **Writes to different places** all last, and nothing else changes. -/
theorem writeEach_ok {stores : List (Nat × UInt8)} (hnodup : (stores.map Prod.fst).Nodup)
    {buf : List UInt8} (hin : ∀ s ∈ stores, s.1 < buf.length) :
    ∃ out, writeEach stores buf = .ok out ∧ out.length = buf.length ∧
      (∀ s ∈ stores, byteAt out s.1 = s.2) ∧
      ∀ i, i ∉ stores.map Prod.fst → byteAt out i = byteAt buf i := by
  induction stores generalizing buf with
  | nil => exact ⟨buf, rfl, rfl, fun _ h => absurd h List.not_mem_nil, fun _ _ => rfl⟩
  | cons s stores ih =>
    obtain ⟨i, b⟩ := s
    obtain ⟨hfirst, hrest⟩ := List.forall_mem_cons.1 hin
    obtain ⟨hnew, hnodup⟩ := List.nodup_cons.1 hnodup
    have hset : ∀ s ∈ stores, s.1 < (buf.set i b).length := by
      intro s hs
      rw [List.length_set]
      exact hrest s hs
    obtain ⟨out, hout, hlen, hbytes, hothers⟩ := ih hnodup hset
    refine ⟨out, ?_, hlen.trans List.length_set, ?_, ?_⟩
    · rw [writeEach, writeAt_eq hfirst, ok_bind, hout]
    · refine List.forall_mem_cons.2 ⟨?_, hbytes⟩
      show byteAt out i = b
      rw [hothers i hnew, byteAt_set_self hfirst]
    · intro j hj
      rw [List.map_cons, List.mem_cons, not_or] at hj
      rw [hothers j hj.2, byteAt_set_ne (Ne.symm hj.1)]

/-! ## Counting loops -/

/-- `for (i = 0; i < n; ++i) b = f(i, b)`. -/
def times (f : Nat → β → Checked β) : Nat → β → Checked β
  | 0, b => return b
  | n + 1, b => do
    let b' ← times f n b
    f n b'

/-- A loop whose rounds keep an invariant ends well and with the invariant. -/
theorem times_ok {f : Nat → β → Checked β} {I : Nat → β → Prop} {n : Nat} {b : β} (h0 : I 0 b)
    (hstep : ∀ i c, i < n → I i c → ∃ c', f i c = .ok c' ∧ I (i + 1) c') :
    ∃ b', times f n b = .ok b' ∧ I n b' := by
  induction n with
  | zero => exact ⟨b, rfl, h0⟩
  | succ n ih =>
    obtain ⟨c, hc, hI⟩ := ih fun i c hi => hstep i c (by omega)
    obtain ⟨c', hc', hI'⟩ := hstep n c (by omega) hI
    exact ⟨c', by rw [times, hc, ok_bind, hc'], hI'⟩

/-- A loop whose last round needs what all of them need. -/
theorem safe_times_iff {f : Nat → β → Checked β} {I : Nat → β → Prop} {P : Prop} {n : Nat} {b : β}
    (hb : I 0 b) (h0 : n = 0 → P) (hlast : ∀ i, i + 1 = n → ∀ c, Safe (f i c) → P)
    (hstep : P → ∀ i c, i < n → I i c → ∃ c', f i c = .ok c' ∧ I (i + 1) c') :
    Safe (times f n b) ↔ P := by
  constructor
  · intro h
    cases n with
    | zero => exact h0 rfl
    | succ i =>
      obtain ⟨c, -, hc⟩ := safe_bind.1 h
      exact hlast i rfl c hc
  · intro hP
    obtain ⟨b', hb', -⟩ := times_ok hb (hstep hP)
    exact ⟨b', hb'⟩

/-- A loop that fills an array from the front, one entry each round. -/
theorem times_fill {f : Nat → List α → Checked (List α)} {xs : List α}
    (h : ∀ i (hi : i < xs.length) l, f i l = writeAt l i xs[i]) (blank : α) (rest : List α) :
    times f xs.length (List.replicate xs.length blank ++ rest) = .ok (xs ++ rest) := by
  have hfilled : ∀ n, n ≤ xs.length →
      times f n (List.replicate xs.length blank ++ rest) =
        .ok (xs.take n ++ (List.replicate (xs.length - n) blank ++ rest)) := by
    intro n
    induction n with
    | zero => exact fun _ => rfl
    | succ n ih =>
      intro hn
      have hlen : (xs.take n).length = n := by
        rw [List.length_take]
        omega
      obtain ⟨k, hk⟩ : ∃ k, xs.length - n = k + 1 := ⟨xs.length - n - 1, by omega⟩
      rw [times, ih (by omega), ok_bind, h n (by omega), hk, List.replicate_succ, List.cons_append,
        writeAt_eq (by rw [List.length_append, hlen, List.length_cons]; omega),
        List.set_append_right _ _ hlen.le, hlen, Nat.sub_self, List.set_cons_zero,
        List.take_succ_eq_append_getElem (by omega), List.append_assoc,
        show xs.length - (n + 1) = k by omega]
      rfl
  rw [hfilled _ le_rfl, List.take_length, Nat.sub_self]
  rfl

/-- A loop that builds a list, one entry each round. -/
theorem times_collect {f : Nat → List α → Checked (List α)} {xs : List α}
    (h : ∀ i (hi : i < xs.length) l, f i l = .ok (l ++ [xs[i]])) :
    times f xs.length [] = .ok xs := by
  have htaken : ∀ n, n ≤ xs.length → times f n [] = .ok (xs.take n) := by
    intro n
    induction n with
    | zero => exact fun _ => rfl
    | succ n ih =>
      intro hn
      rw [times, ih (by omega), ok_bind, h n (by omega),
        List.take_succ_eq_append_getElem (by omega)]
  rw [htaken _ le_rfl, List.take_length]

/-- The outputs of a loop's rounds, one after the other. -/
def collect (f : α → Checked (List β)) : List α → Checked (List β)
  | [] => return []
  | a :: as => do
    let out ← f a
    let rest ← collect f as
    return out ++ rest

theorem safe_collect {f : α → Checked (List β)} {as : List α} :
    Safe (collect f as) ↔ ∀ a ∈ as, Safe (f a) := by
  induction as with
  | nil => simp [collect]
  | cons a as ih =>
    rw [collect, safe_bind_iff (P := ∀ a ∈ as, Safe (f a)), List.forall_mem_cons]
    intro out
    rw [safe_bind_iff (P := True) fun rest => by simp, ih, and_true]

/-! ## Records of one width -/

/-- A run of records that are all `width` bytes long, cut in front of and behind one of them. -/
theorem exists_flatMap_eq {encode : α → List UInt8} {width : Nat}
    (hwidth : ∀ a, (encode a).length = width) {xs : List α} {i : Nat} (hi : i < xs.length) :
    ∃ front back, xs.flatMap encode = front ++ (encode xs[i] ++ back) ∧
      front.length = width * i := by
  have hxs : xs = xs.take i ++ xs[i] :: xs.drop (i + 1) := by
    rw [List.getElem_cons_drop, List.take_append_drop]
  refine ⟨(xs.take i).flatMap encode, (xs.drop (i + 1)).flatMap encode, ?_, ?_⟩
  · conv_lhs => rw [hxs]
    rw [List.flatMap_append, List.flatMap_cons]
  · have hconst : (xs.take i).map (fun a => (encode a).length) = List.replicate i width := by
      simp [hwidth, Nat.min_eq_left hi.le]
    rw [List.length_flatMap, hconst, List.sum_replicate_nat, Nat.mul_comm]

/-! ## Lengths -/

/-- `a - b` on unsigned lengths, checked. -/
def sub (a b : Nat) : Checked Nat := if b ≤ a then .ok (a - b) else .error .underflow

theorem sub_eq {a b : Nat} (h : b ≤ a) : sub a b = .ok (a - b) := if_pos h

/-! ## Divisions -/

/-- `a / b`, checked. -/
def divide (a b : UInt32) : Checked UInt32 := if b = 0 then .error .divisionByZero else .ok (a / b)

/-- `a % b`, checked. -/
def remainder (a b : UInt32) : Checked UInt32 :=
  if b = 0 then .error .divisionByZero else .ok (a % b)

/-- `a / b` on signed values, checked. -/
def divideInt (a b : Int32) : Checked Int32 :=
  if b = 0 then .error .divisionByZero else .ok (a / b)

/-- `a / b` on sizes, checked. -/
def divideNat (a b : Nat) : Checked Nat := if b = 0 then .error .divisionByZero else .ok (a / b)

theorem divideNat_eq {a b : Nat} (h : b ≠ 0) : divideNat a b = .ok (a / b) := if_neg h

theorem divide_eq {a b : UInt32} (h : b ≠ 0) : divide a b = .ok (a / b) := if_neg h

theorem remainder_eq {a b : UInt32} (h : b ≠ 0) : remainder a b = .ok (a % b) := if_neg h

theorem divideInt_eq {a b : Int32} (h : b ≠ 0) : divideInt a b = .ok (a / b) := if_neg h

theorem safe_bind_divide {a b : UInt32} {f : UInt32 → Checked β} :
    Safe (divide a b >>= f) ↔ b ≠ 0 ∧ Safe (f (a / b)) := by
  by_cases h : b = 0
  · simp [divide, h]
  · simp [divide, h]

/-! ## More than was needed -/

/-- What the computation reads of a buffer it also finds when there are more bytes behind it. -/
def Stable (f : List UInt8 → Checked α) : Prop :=
  ∀ buf rest a, f buf = .ok a → f (buf ++ rest) = .ok a

theorem stable_const (x : Checked α) : Stable fun _ => x := fun _ _ _ h => h

theorem Stable.bind {f : List UInt8 → Checked α} {g : α → List UInt8 → Checked β} (hf : Stable f)
    (hg : ∀ a, Stable (g a)) : Stable fun buf => f buf >>= fun a => g a buf := by
  intro buf rest b h
  obtain ⟨a, ha, hb⟩ := bind_eq_ok.1 h
  exact bind_eq_ok.2 ⟨a, hf buf rest a ha, hg a buf rest b hb⟩

theorem stable_ite {c : Prop} [Decidable c] {f g : List UInt8 → Checked α} (hf : Stable f)
    (hg : Stable g) : Stable fun buf => if c then f buf else g buf := by
  by_cases hc : c
  · simpa only [if_pos hc] using hf
  · simpa only [if_neg hc] using hg

theorem stable_readByte (i : Nat) : Stable fun buf => readByte buf i := by
  intro buf rest b h
  dsimp only at h ⊢
  rw [readByte] at h
  split at h
  · rename_i hi
    rw [readByte_eq (by rw [List.length_append]; omega), byteAt_append_left rest hi]
    exact h
  · cases h

theorem stable_slice (off len : Nat) : Stable fun buf => slice buf off len := by
  intro buf rest bytes h
  dsimp only at h ⊢
  rw [slice] at h
  split at h
  · rename_i hle
    rw [slice_eq (by rw [List.length_append]; omega), List.drop_append_of_le_length (by omega),
      List.take_append_of_le_length (by rw [List.length_drop]; omega)]
    exact h
  · cases h

theorem stable_times {f : List UInt8 → Nat → β → Checked β} (h : ∀ i b, Stable fun buf => f buf i b)
    (n : Nat) (b : β) : Stable fun buf => times (f buf) n b := by
  induction n with
  | zero => exact stable_const _
  | succ n ih => exact ih.bind fun b' => h n b'

end Checked
