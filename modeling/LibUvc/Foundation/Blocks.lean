import Mathlib.Algebra.Order.Floor.Div
import LibUvc.Foundation.Checked

/-!
# Converting a buffer block by block

A loop that converts one buffer into another reads a block of the first, writes a block of the
second, and moves two pointers.  With bounds checked at each access, a whole such loop is the same
computation as a single read and a single write: it faults exactly when one of them leaves its
buffer, and what it writes is the blocks converted one by one.

* `block f len` reads `len` bytes and writes what `f` makes of them.  `block_block` puts two of them
  together, which is how an unrolled body is made of smaller ones.
* `walkBlocks` is the loop, `while (o < stop)`, and `walkBlocks_eq` says that it is one block; the
  number of rounds is rounded up.
* `chunkMap` is what it writes; `chunkMap_chunkMap` says that blocks of blocks are blocks.
-/

set_option autoImplicit false

namespace Blocks

open Checked

/-! ## One block -/

/-- Read `len` bytes at `i` of the input, and write what `f` makes of them to `o` of the output. -/
def block (f : List UInt8 → List UInt8) (len : Nat) (input : List UInt8) (i o : Nat)
    (output : List UInt8) : Checked (List UInt8) := do
  let src ← slice input i len
  blit output o (f src)

variable {f g : List UInt8 → List UInt8} {m n : Nat}

/-- A block is in bounds on both sides, or it faults. -/
theorem block_eq {input output : List UInt8} {i o : Nat} (hlen : ∀ src, (f src).length = n) :
    block f m input i o output =
      if i + m ≤ input.length ∧ o + n ≤ output.length then
        .ok (output.take o ++ f ((input.drop i).take m) ++ output.drop (o + n))
      else .error .outOfBounds := by
  rw [block, slice]
  split
  · rename_i hi
    rw [ok_bind, blit, hlen]
    simp only [hi, true_and]
  · rename_i hi
    rw [error_bind, if_neg (fun h => hi h.1)]

/-- Two blocks one after the other are one block. -/
theorem block_block {k l : Nat} {input output : List UInt8} {i o : Nat}
    (hf : ∀ src, (f src).length = n) (hg : ∀ src, (g src).length = l) :
    (block f m input i o output >>= block g k input (i + m) (o + n)) =
      block (fun src => f (src.take m) ++ g (src.drop m)) (m + k) input i o output := by
  have hlen : ∀ src : List UInt8, (f (src.take m) ++ g (src.drop m)).length = n + l := by
    intro src
    rw [List.length_append, hf, hg]
  rw [block_eq hf, block_eq hlen]
  split
  · rename_i hin
    rw [ok_bind, block_eq hg]
    have hfront : (output.take o ++ f ((input.drop i).take m)).length = o + n := by
      rw [List.length_append, List.length_take, hf]
      omega
    have hlength : (output.take o ++ f ((input.drop i).take m) ++ output.drop (o + n)).length =
        output.length := by
      rw [List.length_append, hfront, List.length_drop]
      omega
    rw [hlength]
    by_cases h : i + m + k ≤ input.length ∧ o + n + l ≤ output.length
    · have htake : ((input.drop i).take (m + k)).take m = (input.drop i).take m := by
        rw [List.take_take, Nat.min_eq_left (by omega)]
      have hdrop : ((input.drop i).take (m + k)).drop m = (input.drop (i + m)).take k := by
        rw [List.drop_take, List.drop_drop, Nat.add_sub_cancel_left]
      have hrest : (output.take o ++ f ((input.drop i).take m) ++ output.drop (o + n)).drop
          (o + n + l) = output.drop (o + n + l) := by
        rw [List.drop_append, List.drop_of_length_le (by omega), List.nil_append, hfront,
          List.drop_drop]
        congr 1
        omega
      rw [if_pos h, if_pos (by omega), htake, hdrop, hrest, List.take_left' hfront]
      simp only [List.append_assoc, Nat.add_assoc]
    · rw [if_neg h, if_neg (by omega)]
  · rename_i hin
    rw [error_bind, if_neg (by omega)]

/-! ## Chunk by chunk -/

/-- `f` on each of the first `n` chunks of length `m`. -/
def chunkMap (f : List UInt8 → List UInt8) (m : Nat) : Nat → List UInt8 → List UInt8
  | 0, _ => []
  | n + 1, src => f (src.take m) ++ chunkMap f m n (src.drop m)

theorem length_chunkMap (hf : ∀ src, (f src).length = n) (rounds : Nat) (src : List UInt8) :
    (chunkMap f m rounds src).length = rounds * n := by
  induction rounds generalizing src with
  | zero => rw [chunkMap, List.length_nil, Nat.zero_mul]
  | succ k ih => rw [chunkMap, List.length_append, hf, ih, Nat.succ_mul, Nat.add_comm]

theorem chunkMap_add (j k : Nat) (src : List UInt8) :
    chunkMap f m (j + k) src = chunkMap f m j src ++ chunkMap f m k (src.drop (j * m)) := by
  induction j generalizing src with
  | zero => rw [Nat.zero_add, Nat.zero_mul, List.drop_zero]; rfl
  | succ j ih =>
    rw [Nat.succ_add, chunkMap, chunkMap, ih, List.drop_drop, List.append_assoc, Nat.succ_mul,
      Nat.add_comm m]

/-- The chunks do not look behind them. -/
theorem chunkMap_take {k l : Nat} (h : k * m ≤ l) (src : List UInt8) :
    chunkMap f m k (src.take l) = chunkMap f m k src := by
  induction k generalizing src l with
  | zero => rfl
  | succ k ih =>
    have hle : m ≤ l := le_trans (Nat.le_mul_of_pos_left m (Nat.succ_pos k)) h
    rw [Nat.succ_mul] at h
    rw [chunkMap, chunkMap, List.take_take, Nat.min_eq_left hle, List.drop_take, ih (by omega)]

/-- Chunks of chunks are chunks. -/
theorem chunkMap_chunkMap (j k : Nat) (src : List UInt8) :
    chunkMap (chunkMap f m j) (j * m) k src = chunkMap f m (k * j) src := by
  induction k generalizing src with
  | zero => rw [Nat.zero_mul]; rfl
  | succ k ih =>
    rw [chunkMap, chunkMap_take (le_refl _), ih, Nat.succ_mul, Nat.add_comm (k * j), chunkMap_add]

/-- Some chunks, and then some more. -/
theorem block_chunkMap_add {input output : List UInt8} {i o : Nat}
    (hf : ∀ src, (f src).length = n) (j k : Nat) :
    (block (chunkMap f m j) (j * m) input i o output >>=
        block (chunkMap f m k) (k * m) input (i + j * m) (o + j * n)) =
      block (chunkMap f m (j + k)) ((j + k) * m) input i o output := by
  rw [block_block (length_chunkMap hf j) (length_chunkMap hf k), Nat.add_mul]
  congr 1
  funext src
  rw [chunkMap_add, chunkMap_take (le_refl _)]

/-- The chunks, by their numbers. -/
theorem chunkMap_eq_flatMap (k : Nat) (src : List UInt8) :
    chunkMap f m k src = (List.range k).flatMap fun j => f ((src.drop (j * m)).take m) := by
  induction k with
  | zero => rfl
  | succ k ih =>
    rw [chunkMap_add, ih, List.range_succ, List.flatMap_append, List.flatMap_singleton, chunkMap,
      chunkMap, List.append_nil]

theorem flatMap_range_pairs (g : Nat → List UInt8) (k : Nat) :
    (List.range k).flatMap (fun i => g (2 * i) ++ g (2 * i + 1)) =
      (List.range (k * 2)).flatMap g := by
  induction k with
  | zero => rfl
  | succ k ih =>
    rw [show (k + 1) * 2 = k * 2 + 1 + 1 by omega, List.range_succ, List.range_succ,
      List.range_succ, List.flatMap_append, List.flatMap_append, List.flatMap_append, ih,
      List.flatMap_singleton, List.flatMap_singleton, List.flatMap_singleton, List.append_assoc,
      Nat.mul_comm 2]

/-! ## The loop -/

/-- `while (o < stop) { body; i += m; o += n }`, for as many rounds as the fuel lasts. -/
def walkBlocks (body : Nat → Nat → List UInt8 → Checked (List UInt8)) (m n stop : Nat) :
    Nat → Nat → Nat → List UInt8 → Checked (List UInt8)
  | 0, _, _, output => return output
  | fuel + 1, i, o, output =>
    if o < stop then do
      let output ← body i o output
      walkBlocks body m n stop fuel (i + m) (o + n) output
    else return output

/-- Only the positions that the loop comes to matter. -/
theorem walkBlocks_congr {body body' : Nat → Nat → List UInt8 → Checked (List UInt8)}
    (h : ∀ j o output, body (j * m) o output = body' (j * m) o output) {stop fuel j o : Nat}
    {output : List UInt8} :
    walkBlocks body m n stop fuel (j * m) o output =
      walkBlocks body' m n stop fuel (j * m) o output := by
  induction fuel generalizing j o output with
  | zero => rfl
  | succ fuel ih =>
    rw [walkBlocks, walkBlocks, h, ← Nat.succ_mul]
    congr 1
    exact bind_congr fun next => ih

/-- The rounds from a position inside both buffers on, when `k` of them are left. -/
theorem walkBlocks_from {input : List UInt8} (hf : ∀ src, (f src).length = n) {stop k : Nat}
    {fuel i o : Nat} {output : List UInt8} (hfuel : k ≤ fuel) (hi : i ≤ input.length)
    (ho : o ≤ output.length) (hrounds : ∀ j, o + j * n < stop ↔ j < k) :
    walkBlocks (block f m input) m n stop fuel i o output =
      block (chunkMap f m k) (k * m) input i o output := by
  induction k generalizing fuel i o output with
  | zero =>
    have hdone : ¬ o < stop := by simpa using hrounds 0
    have hnil : ∀ src, (chunkMap f m 0 src).length = 0 := fun _ => rfl
    have hsame : output.take o ++ chunkMap f m 0 ((input.drop i).take (0 * m)) ++
        output.drop (o + 0) = output := by
      rw [chunkMap, List.append_nil, Nat.add_zero, List.take_append_drop]
    rw [block_eq hnil, if_pos ⟨by omega, ho⟩, hsame]
    cases fuel with
    | zero => rfl
    | succ fuel =>
      rw [walkBlocks, if_neg hdone]
      rfl
  | succ k ih =>
    obtain ⟨fuel, rfl⟩ : ∃ l, fuel = l + 1 := ⟨fuel - 1, by omega⟩
    have hmore : o < stop := by simpa using hrounds 0
    have hrest : (block f m input i o output >>= fun output =>
          walkBlocks (block f m input) m n stop fuel (i + m) (o + n) output) =
        (block f m input i o output >>=
          block (chunkMap f m k) (k * m) input (i + m) (o + n)) := by
      rw [block_eq hf]
      split
      · rename_i hin
        rw [ok_bind, ok_bind]
        refine ih (by omega) hin.1 ?_ fun j => ?_
        · simp only [List.length_append, List.length_take, List.length_drop, hf]
          omega
        · have hnext := hrounds (j + 1)
          rw [Nat.succ_mul] at hnext
          omega
      · rfl
    rw [walkBlocks, if_pos hmore, hrest, block_block hf (length_chunkMap hf k), Nat.succ_mul,
      Nat.add_comm m]
    rfl

/-- **The loop is one block.**  When every round is a block, so are all of them together. -/
theorem walkBlocks_eq {input output : List UInt8} (hf : ∀ src, (f src).length = n) (hn : 0 < n)
    {stop fuel : Nat} (hfuel : stop ≤ fuel) :
    walkBlocks (block f m input) m n stop fuel 0 0 output =
      block (chunkMap f m (stop ⌈/⌉ n)) (stop ⌈/⌉ n * m) input 0 0 output := by
  refine walkBlocks_from hf ?_ (Nat.zero_le _) (Nat.zero_le _) fun j => ?_
  · exact (ceilDiv_le_iff_le_mul hn).2 (hfuel.trans (Nat.le_mul_of_pos_left fuel hn))
  · rw [Nat.zero_add, ← not_le, ← not_le, ceilDiv_le_iff_le_mul hn, Nat.mul_comm]

/-- Rounding up stays within what was divided only when nothing is left over. -/
theorem ceilDiv_mul_le_iff {a b : Nat} (hb : 0 < b) : a ⌈/⌉ b * b ≤ a ↔ b ∣ a := by
  have hle : a ≤ b * (a ⌈/⌉ b) := (ceilDiv_le_iff_le_mul hb).1 le_rfl
  constructor
  · intro h
    exact ⟨a ⌈/⌉ b, le_antisymm hle (Nat.mul_comm (a ⌈/⌉ b) b ▸ h)⟩
  · rintro ⟨q, rfl⟩
    rw [Nat.mul_comm]
    exact Nat.mul_le_mul_left b ((ceilDiv_le_iff_le_mul hb).2 le_rfl)

theorem ceilDiv_mul_left {b : Nat} (hb : 0 < b) (q : Nat) : (b * q) ⌈/⌉ b = q := by
  refine le_antisymm ((ceilDiv_le_iff_le_mul hb).2 le_rfl) ?_
  exact Nat.le_of_mul_le_mul_left ((ceilDiv_le_iff_le_mul hb).1 le_rfl) hb

end Blocks
