import Mathlib.Logic.Relation
import Mathlib.Tactic.Common

/-!
# Threads that share a state and call an environment

A `Prog σ κ α` is the code of one thread.  It works on a state of type `σ` that other threads may
change between any two of its steps, and it makes calls `κ` whose integer answers it does not
control.  The steps are `act`, an atomic read-and-write of the state — a critical section, when the
state is guarded by a lock — and `call`; everything else is a function of what they returned.

Running a program next to other threads is `Step rely`: at any moment the program moves, or the
others do, in a way described by the relation `rely`.  A `World` is the state together with the log
of the calls made so far, and the others may extend the log as well.

`Sat rely I Q p w` is the proof obligation for `p` started in `w`: `I` holds at every moment of
every run and `Q` holds of the result, whatever the others and the environment do.  It is defined by
recursion on `p`, so a proof walks through the code; `Sat.sound` says it means what it should.
`sat_bind` is the rule for sequencing, and `sat_act`, `sat_call` and `sat_ret` are the rules for the
single steps: each asks for an assertion about the present moment that the other threads cannot
falsify (`Stable`).

`Makes P p` is what is left of that for a program that only makes calls: an assertion about its
result and the calls themselves.  `play` computes such a run from the answers.
-/

set_option autoImplicit false

/-- The code of a thread. -/
inductive Prog (σ κ α : Type) where
  /-- The thread is done. -/
  | ret (a : α)
  /-- An atomic step on the state: `s` becomes `f s`, and the thread goes on knowing `s`. -/
  | act (f : σ → σ) (next : σ → Prog σ κ α)
  /-- A call whose answer the environment chooses. -/
  | call (k : κ) (next : Int → Prog σ κ α)

namespace Prog

variable {σ κ α β : Type}

/-- Sequencing. -/
def seq : Prog σ κ α → (α → Prog σ κ β) → Prog σ κ β
  | .ret a, g => g a
  | .act f next, g => .act f fun s => seq (next s) g
  | .call k next, g => .call k fun r => seq (next r) g

instance : Monad (Prog σ κ) where
  pure := .ret
  bind := seq

/-- Read the state. -/
def load : Prog σ κ σ := .act id .ret

/-- Change the state. -/
def update (f : σ → σ) : Prog σ κ Unit := .act f fun _ => .ret ()

/-- Change the state, and go on knowing what it was. -/
def fetch (f : σ → σ) : Prog σ κ σ := .act f .ret

/-- Make a call. -/
def ask (k : κ) : Prog σ κ Int := .call k .ret

/-- Run `p` if `b`. -/
def when (b : Bool) (p : Prog σ κ Unit) : Prog σ κ Unit := if b then p else .ret ()

/-! ## Running next to other threads -/

/-- The shared state, and the calls made so far with their answers. -/
structure World (σ κ : Type) where
  state : σ
  log : List (κ × Int)

/-- The world after a change to the state. -/
def World.update (w : World σ κ) (f : σ → σ) : World σ κ := ⟨f w.state, w.log⟩

/-- The world after a call. -/
def World.note (w : World σ κ) (k : κ) (r : Int) : World σ κ := ⟨w.state, w.log ++ [(k, r)]⟩

@[simp] theorem World.update_state (w : World σ κ) (f : σ → σ) :
    (w.update f).state = f w.state := rfl

@[simp] theorem World.update_log (w : World σ κ) (f : σ → σ) : (w.update f).log = w.log := rfl

@[simp] theorem World.note_state (w : World σ κ) (k : κ) (r : Int) :
    (w.note k r).state = w.state := rfl

@[simp] theorem World.note_log (w : World σ κ) (k : κ) (r : Int) :
    (w.note k r).log = w.log ++ [(k, r)] := rfl

/-- One step of a program, or of the threads around it. -/
inductive Step (rely : World σ κ → World σ κ → Prop) :
    Prog σ κ α × World σ κ → Prog σ κ α × World σ κ → Prop
  | act (f : σ → σ) (next : σ → Prog σ κ α) (w : World σ κ) :
      Step rely (.act f next, w) (next w.state, w.update f)
  | call (k : κ) (next : Int → Prog σ κ α) (w : World σ κ) (r : Int) :
      Step rely (.call k next, w) (next r, w.note k r)
  | env (p : Prog σ κ α) {w w' : World σ κ} (h : rely w w') : Step rely (p, w) (p, w')

/-- The proof obligation for a program: `I` at every moment, `Q` at the end. -/
def Sat (rely : World σ κ → World σ κ → Prop) (I : World σ κ → Prop) (Q : α → World σ κ → Prop) :
    Prog σ κ α → World σ κ → Prop
  | .ret a, w => ∀ w', Relation.ReflTransGen rely w w' → I w' ∧ Q a w'
  | .act f next, w => ∀ w', Relation.ReflTransGen rely w w' →
      I w' ∧ Sat rely I Q (next w'.state) (w'.update f)
  | .call k next, w => ∀ w', Relation.ReflTransGen rely w w' →
      I w' ∧ ∀ r, Sat rely I Q (next r) (w'.note k r)

variable {rely : World σ κ → World σ κ → Prop} {I : World σ κ → Prop}

theorem Sat.env {Q : α → World σ κ → Prop} {p : Prog σ κ α} {w w' : World σ κ}
    (h : Sat rely I Q p w) (hr : Relation.ReflTransGen rely w w') : Sat rely I Q p w' := by
  cases p with
  | ret a => exact fun u hu => h u (hr.trans hu)
  | act f next => exact fun u hu => h u (hr.trans hu)
  | call k next => exact fun u hu => h u (hr.trans hu)

theorem Sat.inv {Q : α → World σ κ → Prop} {p : Prog σ κ α} {w : World σ κ}
    (h : Sat rely I Q p w) : I w := by
  cases p with
  | ret a => exact (h w .refl).1
  | act f next => exact (h w .refl).1
  | call k next => exact (h w .refl).1

theorem Sat.step {Q : α → World σ κ → Prop} {p q : Prog σ κ α} {w u : World σ κ}
    (h : Sat rely I Q p w) (hs : Step rely (p, w) (q, u)) : Sat rely I Q q u := by
  cases hs with
  | act f next => exact (h w .refl).2
  | call k next _ r => exact (h w .refl).2 r
  | env _ hr => exact h.env (.single hr)

/-- **Soundness.**  A program that meets its obligation has `I` at every moment of every run, and
`Q` whenever it is done. -/
theorem Sat.sound {Q : α → World σ κ → Prop} {p q : Prog σ κ α} {w u : World σ κ}
    (h : Sat rely I Q p w) (hs : Relation.ReflTransGen (Step rely) (p, w) (q, u)) :
    I u ∧ ∀ a, q = .ret a → Q a u := by
  have hq : ∀ c : Prog σ κ α × World σ κ,
      Relation.ReflTransGen (Step rely) (p, w) c → Sat rely I Q c.1 c.2 := by
    intro c hc
    induction hc with
    | refl => exact h
    | tail _ hlast ih => exact ih.step hlast
  have hsat : Sat rely I Q q u := hq (q, u) hs
  refine ⟨hsat.inv, ?_⟩
  rintro a rfl
  exact (hsat u .refl).2

/-! ## Rules -/

/-- The other threads cannot falsify `P`. -/
def Stable (rely : World σ κ → World σ κ → Prop) (P : World σ κ → Prop) : Prop :=
  ∀ w w', P w → rely w w' → P w'

theorem Stable.star {P : World σ κ → Prop} (h : Stable rely P) {w w' : World σ κ} (hw : P w)
    (hr : Relation.ReflTransGen rely w w') : P w' := by
  induction hr with
  | refl => exact hw
  | tail _ hlast ih => exact h _ _ ih hlast

/-- Sequencing: what the first part establishes is what the second part starts from. -/
theorem sat_bind {R : α → World σ κ → Prop} {Q : β → World σ κ → Prop} {p : Prog σ κ α}
    {g : α → Prog σ κ β} :
    ∀ {w : World σ κ}, Sat rely I R p w → (∀ a u, R a u → Sat rely I Q (g a) u) →
      Sat rely I Q (p >>= g) w := by
  induction p with
  | ret a => exact fun h hg => hg a _ (h _ .refl).2
  | act f next ih => exact fun h hg u hu => ⟨(h u hu).1, ih _ (h u hu).2 hg⟩
  | call k next ih => exact fun h hg u hu => ⟨(h u hu).1, fun r => ih r ((h u hu).2 r) hg⟩

theorem Sat.mono {Q R : α → World σ κ → Prop} {p : Prog σ κ α} :
    ∀ {w : World σ κ}, Sat rely I Q p w → (∀ a u, Q a u → R a u) → Sat rely I R p w := by
  induction p with
  | ret a => exact fun h hQ u hu => ⟨(h u hu).1, hQ a u (h u hu).2⟩
  | act f next ih => exact fun h hQ u hu => ⟨(h u hu).1, ih _ (h u hu).2 hQ⟩
  | call k next ih => exact fun h hQ u hu => ⟨(h u hu).1, fun r => ih r ((h u hu).2 r) hQ⟩

theorem Sat.weaken {J : World σ κ → Prop} {Q : α → World σ κ → Prop} {p : Prog σ κ α} :
    ∀ {w : World σ κ}, Sat rely I Q p w → (∀ u, I u → J u) → Sat rely J Q p w := by
  induction p with
  | ret a => exact fun h hJ u hu => ⟨hJ u (h u hu).1, (h u hu).2⟩
  | act f next ih => exact fun h hJ u hu => ⟨hJ u (h u hu).1, ih _ (h u hu).2 hJ⟩
  | call k next ih => exact fun h hJ u hu => ⟨hJ u (h u hu).1, fun r => ih r ((h u hu).2 r) hJ⟩

/-- Two things that were proved of one program. -/
theorem Sat.and {J : World σ κ → Prop} {Q R : α → World σ κ → Prop} {p : Prog σ κ α} :
    ∀ {w : World σ κ}, Sat rely I Q p w → Sat rely J R p w →
      Sat rely (fun w => I w ∧ J w) (fun a w => Q a w ∧ R a w) p w := by
  induction p with
  | ret a => exact fun h h' u hu => ⟨⟨(h u hu).1, (h' u hu).1⟩, (h u hu).2, (h' u hu).2⟩
  | act f next ih =>
    exact fun h h' u hu => ⟨⟨(h u hu).1, (h' u hu).1⟩, ih _ (h u hu).2 (h' u hu).2⟩
  | call k next ih =>
    exact fun h h' u hu =>
      ⟨⟨(h u hu).1, (h' u hu).1⟩, fun r => ih r ((h u hu).2 r) ((h' u hu).2 r)⟩

section Steps

variable {P : World σ κ → Prop} (hst : Stable rely P) (hI : ∀ w, P w → I w)

include hst hI

theorem sat_ret {Q : α → World σ κ → Prop} {a : α} {w : World σ κ} (hw : P w)
    (hQ : ∀ u, P u → Q a u) : Sat rely I Q (.ret a) w :=
  fun _ hu => ⟨hI _ (hst.star hw hu), hQ _ (hst.star hw hu)⟩

theorem sat_act {Q : α → World σ κ → Prop} {f : σ → σ} {next : σ → Prog σ κ α} {w : World σ κ}
    (hw : P w)
    (hnext : ∀ u, P u → Sat rely I Q (next u.state) (u.update f)) :
    Sat rely I Q (.act f next) w :=
  fun _ hu => ⟨hI _ (hst.star hw hu), hnext _ (hst.star hw hu)⟩

theorem sat_call {Q : α → World σ κ → Prop} {k : κ} {next : Int → Prog σ κ α} {w : World σ κ}
    (hw : P w)
    (hnext : ∀ u r, P u → Sat rely I Q (next r) (u.note k r)) :
    Sat rely I Q (.call k next) w :=
  fun _ hu => ⟨hI _ (hst.star hw hu), fun r => hnext _ r (hst.star hw hu)⟩

end Steps

/-! ## Triples

`Keeps rely I P p Q` is the obligation in the shape of a triple, and `Meets rely P p Q` the case for
results that are about the end of a run only.  The rules ask for stability where the other threads
get a chance to run, and nowhere else: a precondition may say what has just been read. -/

/-- Started where `P` holds, and whatever the others do, `p` has `I` at every moment and ends where
`Q` holds. -/
def Keeps (rely : World σ κ → World σ κ → Prop) (I P : World σ κ → Prop) (p : Prog σ κ α)
    (Q : α → World σ κ → Prop) : Prop :=
  ∀ w, P w → Sat rely I Q p w

/-- Started where `P` holds, and whatever the others do, `p` ends where `Q` holds. -/
def Meets (rely : World σ κ → World σ κ → Prop) (P : World σ κ → Prop) (p : Prog σ κ α)
    (Q : α → World σ κ → Prop) : Prop :=
  Keeps rely (fun _ => True) P p Q

theorem Meets.sound {P : World σ κ → Prop} {p : Prog σ κ α} {Q : α → World σ κ → Prop}
    (h : Meets rely P p Q) {w u : World σ κ} {a : α} (hw : P w)
    (hs : Relation.ReflTransGen (Step rely) (p, w) (.ret a, u)) : Q a u :=
  ((h w hw).sound hs).2 a rfl

theorem Keeps.bind {P : World σ κ → Prop} {p : Prog σ κ α} {R : α → World σ κ → Prop}
    {g : α → Prog σ κ β} {Q : β → World σ κ → Prop} (hp : Keeps rely I P p R)
    (hg : ∀ a, Keeps rely I (R a) (g a) Q) : Keeps rely I P (p >>= g) Q :=
  fun w hw => sat_bind (hp w hw) fun a u hu => hg a u hu

theorem Keeps.pre {P P' : World σ κ → Prop} {p : Prog σ κ α} {Q : α → World σ κ → Prop}
    (h : Keeps rely I P p Q) (hP : ∀ w, P' w → P w) : Keeps rely I P' p Q :=
  fun w hw => h w (hP w hw)

theorem Keeps.post {P : World σ κ → Prop} {p : Prog σ κ α} {Q Q' : α → World σ κ → Prop}
    (h : Keeps rely I P p Q) (hQ : ∀ a w, Q a w → Q' a w) : Keeps rely I P p Q' :=
  fun w hw => (h w hw).mono hQ

section Rules

variable {P : World σ κ → Prop} (hst : Stable rely P) (hI : ∀ w, P w → I w)

include hst hI

theorem keeps_pure {Q : α → World σ κ → Prop} {a : α} (hQ : ∀ w, P w → Q a w) :
    Keeps rely I P (pure a) Q :=
  fun _ hw => sat_ret hst hI hw hQ

theorem keeps_load_bind {g : σ → Prog σ κ β} {Q : β → World σ κ → Prop}
    (hg : ∀ s, Keeps rely I (fun w => P w ∧ w.state = s) (g s) Q) :
    Keeps rely I P (load >>= g) Q :=
  fun _ hw => sat_act hst hI hw fun u hu => hg u.state u ⟨hu, rfl⟩

theorem keeps_update_bind {f : σ → σ} {R : World σ κ → Prop} {g : Unit → Prog σ κ β}
    {Q : β → World σ κ → Prop} (hf : ∀ w, P w → R (w.update f)) (hg : Keeps rely I R (g ()) Q) :
    Keeps rely I P (update f >>= g) Q :=
  fun _ hw => sat_act hst hI hw fun u hu => hg (u.update f) (hf u hu)

theorem keeps_fetch_bind {f : σ → σ} {R : σ → World σ κ → Prop} {g : σ → Prog σ κ β}
    {Q : β → World σ κ → Prop} (hf : ∀ w, P w → R w.state (w.update f))
    (hg : ∀ s, Keeps rely I (R s) (g s) Q) : Keeps rely I P (fetch f >>= g) Q :=
  fun _ hw => sat_act hst hI hw fun u hu => hg u.state (u.update f) (hf u hu)

theorem keeps_ask_bind {k : κ} {R : Int → World σ κ → Prop} {g : Int → Prog σ κ β}
    {Q : β → World σ κ → Prop} (hk : ∀ w r, P w → R r (w.note k r))
    (hg : ∀ r, Keeps rely I (R r) (g r) Q) : Keeps rely I P (ask k >>= g) Q :=
  fun _ hw => sat_call hst hI hw fun u r hu => hg r (u.note k r) (hk u r hu)

theorem keeps_when {b : Bool} {p : Prog σ κ Unit} {Q : Unit → World σ κ → Prop}
    (hp : b = true → Keeps rely I P p Q) (hn : b = false → ∀ w, P w → Q () w) :
    Keeps rely I P (when b p) Q := by
  cases b with
  | true => exact hp rfl
  | false => exact keeps_pure hst hI (hn rfl)

end Rules

theorem keeps_update {P : World σ κ → Prop} (hst : Stable rely P) (hI : ∀ w, P w → I w) {f : σ → σ}
    {R : World σ κ → Prop} (hR : Stable rely R) (hRI : ∀ w, R w → I w)
    (hf : ∀ w, P w → R (w.update f)) : Keeps rely I P (update f) (fun _ => R) :=
  fun _ hw => sat_act hst hI hw fun u hu => sat_ret hR hRI (hf u hu) fun _ h => h

theorem Meets.bind {P : World σ κ → Prop} {p : Prog σ κ α} {R : α → World σ κ → Prop}
    {g : α → Prog σ κ β} {Q : β → World σ κ → Prop} (hp : Meets rely P p R)
    (hg : ∀ a, Meets rely (R a) (g a) Q) : Meets rely P (p >>= g) Q :=
  Keeps.bind hp hg

theorem Meets.pre {P P' : World σ κ → Prop} {p : Prog σ κ α} {Q : α → World σ κ → Prop}
    (h : Meets rely P p Q) (hP : ∀ w, P' w → P w) : Meets rely P' p Q :=
  Keeps.pre h hP

section MeetsRules

variable {P : World σ κ → Prop} (hst : Stable rely P)

include hst

theorem meets_pure {Q : α → World σ κ → Prop} {a : α} (hQ : ∀ w, P w → Q a w) :
    Meets rely P (pure a) Q :=
  keeps_pure hst (fun _ _ => trivial) hQ

theorem meets_load_bind {g : σ → Prog σ κ β} {Q : β → World σ κ → Prop}
    (hg : ∀ s, Meets rely (fun w => P w ∧ w.state = s) (g s) Q) : Meets rely P (load >>= g) Q :=
  keeps_load_bind hst (fun _ _ => trivial) hg

theorem meets_update_bind {f : σ → σ} {R : World σ κ → Prop} {g : Unit → Prog σ κ β}
    {Q : β → World σ κ → Prop} (hf : ∀ w, P w → R (w.update f)) (hg : Meets rely R (g ()) Q) :
    Meets rely P (update f >>= g) Q :=
  keeps_update_bind hst (fun _ _ => trivial) hf hg

theorem meets_update {f : σ → σ} {R : World σ κ → Prop} (hR : Stable rely R)
    (hf : ∀ w, P w → R (w.update f)) : Meets rely P (update f) (fun _ => R) :=
  keeps_update hst (fun _ _ => trivial) hR (fun _ _ => trivial) hf

theorem meets_fetch_bind {f : σ → σ} {R : σ → World σ κ → Prop} {g : σ → Prog σ κ β}
    {Q : β → World σ κ → Prop} (hf : ∀ w, P w → R w.state (w.update f))
    (hg : ∀ s, Meets rely (R s) (g s) Q) : Meets rely P (fetch f >>= g) Q :=
  keeps_fetch_bind hst (fun _ _ => trivial) hf hg

theorem meets_ask_bind {k : κ} {R : Int → World σ κ → Prop} {g : Int → Prog σ κ β}
    {Q : β → World σ κ → Prop} (hk : ∀ w r, P w → R r (w.note k r))
    (hg : ∀ r, Meets rely (R r) (g r) Q) : Meets rely P (ask k >>= g) Q :=
  keeps_ask_bind hst (fun _ _ => trivial) hk hg

theorem meets_when {b : Bool} {p : Prog σ κ Unit} {Q : Unit → World σ κ → Prop}
    (hp : b = true → Meets rely P p Q) (hn : b = false → ∀ w, P w → Q () w) :
    Meets rely P (when b p) Q :=
  keeps_when hst (fun _ _ => trivial) hp hn

end MeetsRules

/-- Nothing is promised of a program that starts anywhere. -/
theorem meets_true (p : Prog σ κ α) :
    Meets rely (fun _ => True) p (fun _ _ => True) := by
  intro w _
  induction p generalizing w with
  | ret a => exact fun _ _ => ⟨trivial, trivial⟩
  | act f next ih => exact fun u _ => ⟨trivial, ih _ (u.update f)⟩
  | call k next ih => exact fun u _ => ⟨trivial, fun r => ih r (u.note k r)⟩

/-! ## Assumptions about the answers -/

/-- Every call of a log was answered in a way that `ok` allows, given the calls before it. -/
def Answers (ok : List (κ × Int) → κ → Int → Bool) (log : List (κ × Int)) : Prop :=
  ∀ n : Fin log.length, ok (log.take n) (log.get n).1 (log.get n).2 = true

instance (ok : List (κ × Int) → κ → Int → Bool) (log : List (κ × Int)) :
    Decidable (Answers ok log) :=
  inferInstanceAs
    (Decidable (∀ n : Fin log.length, ok (log.take n) (log.get n).1 (log.get n).2 = true))

@[simp] theorem answers_snoc {ok : List (κ × Int) → κ → Int → Bool} {log : List (κ × Int)} {k : κ}
    {r : Int} : Answers ok (log ++ [(k, r)]) ↔ Answers ok log ∧ ok log k r = true := by
  have hlen : (log ++ [(k, r)]).length = log.length + 1 := by simp
  constructor
  · intro h
    refine ⟨fun n => ?_, ?_⟩
    · have hn := h ⟨n, by omega⟩
      rw [List.take_append_of_le_length (Nat.le_of_lt n.isLt)] at hn
      simpa [List.getElem_append_left n.isLt] using hn
    · simpa using h ⟨log.length, by omega⟩
  · rintro ⟨h, hlast⟩ ⟨n, hn⟩
    rcases Nat.lt_succ_iff_lt_or_eq.1 (hlen ▸ hn) with hlt | rfl
    · have := h ⟨n, hlt⟩
      rw [List.take_append_of_le_length (Nat.le_of_lt hlt)]
      simpa [List.getElem_append_left hlt] using this
    · simpa using hlast

/-! ## Running alone -/

/-- No other thread does anything. -/
def alone : World σ κ → World σ κ → Prop := fun _ _ => False

theorem eq_of_alone {w w' : World σ κ} (h : Relation.ReflTransGen alone w w') : w' = w := by
  induction h with
  | refl => rfl
  | tail _ hlast _ => exact hlast.elim

@[simp] theorem sat_alone_ret {Q : α → World σ κ → Prop} {a : α} {w : World σ κ} :
    Sat alone I Q (.ret a) w ↔ I w ∧ Q a w :=
  ⟨fun h => h w .refl, fun h _ hu => eq_of_alone hu ▸ h⟩

@[simp] theorem sat_alone_act {Q : α → World σ κ → Prop} {f : σ → σ} {next : σ → Prog σ κ α}
    {w : World σ κ} :
    Sat alone I Q (.act f next) w ↔
      I w ∧ Sat alone I Q (next w.state) (w.update f) :=
  ⟨fun h => h w .refl, fun h _ hu => eq_of_alone hu ▸ h⟩

@[simp] theorem sat_alone_call {Q : α → World σ κ → Prop} {k : κ} {next : Int → Prog σ κ α}
    {w : World σ κ} :
    Sat alone I Q (.call k next) w ↔
      I w ∧ ∀ r, Sat alone I Q (next r) (w.note k r) :=
  ⟨fun h => h w .refl, fun h _ hu => eq_of_alone hu ▸ h⟩

@[simp] theorem sat_alone_pure {Q : α → World σ κ → Prop} {a : α} {w : World σ κ} :
    Sat alone I Q (pure a) w ↔ I w ∧ Q a w := sat_alone_ret

@[simp] theorem sat_alone_load_bind {Q : β → World σ κ → Prop} {g : σ → Prog σ κ β}
    {w : World σ κ} : Sat alone I Q (load >>= g) w ↔ I w ∧ Sat alone I Q (g w.state) w :=
  sat_alone_act

@[simp] theorem sat_alone_update {Q : Unit → World σ κ → Prop} {f : σ → σ} {w : World σ κ} :
    Sat alone I Q (update f) w ↔
      I w ∧ I (w.update f) ∧ Q () (w.update f) := by
  rw [Prog.update, sat_alone_act, sat_alone_ret]

@[simp] theorem sat_alone_update_bind {Q : β → World σ κ → Prop} {f : σ → σ}
    {g : Unit → Prog σ κ β} {w : World σ κ} :
    Sat alone I Q (update f >>= g) w ↔
      I w ∧ Sat alone I Q (g ()) (w.update f) :=
  sat_alone_act

@[simp] theorem sat_alone_ask_bind {Q : β → World σ κ → Prop} {k : κ} {g : Int → Prog σ κ β}
    {w : World σ κ} :
    Sat alone I Q (ask k >>= g) w ↔
      I w ∧ ∀ r, Sat alone I Q (g r) (w.note k r) :=
  sat_alone_call

/-- Where the other threads have nothing to do, a program runs as if it were alone. -/
theorem Sat.of_alone {Q : α → World σ κ → Prop} {p : Prog σ κ α}
    (hquiet : ∀ w u, I w → rely w u → u = w) :
    ∀ {w : World σ κ}, Sat alone I Q p w → Sat rely I Q p w := by
  have hstar : ∀ {w u : World σ κ}, I w → Relation.ReflTransGen rely w u → u = w := by
    intro w u hw hr
    induction hr with
    | refl => rfl
    | tail _ hlast ih =>
      subst ih
      exact hquiet _ _ hw hlast
  induction p with
  | ret a =>
    intro w h u hu
    obtain rfl := hstar h.inv hu
    exact sat_alone_ret.1 h
  | act f next ih =>
    intro w h u hu
    obtain rfl := hstar h.inv hu
    exact ⟨h.inv, ih _ (sat_alone_act.1 h).2⟩
  | call k next ih =>
    intro w h u hu
    obtain rfl := hstar h.inv hu
    exact ⟨h.inv, fun r => ih r ((sat_alone_call.1 h).2 r)⟩

/-- What a program does when it is left alone, it may do: some run of it ends so, whatever the other
threads could have done instead. -/
theorem Meets.exists_run {P : World σ κ → Prop} {p : Prog σ κ α} {Q : α → World σ κ → Prop}
    (h : Meets alone P p Q) {w : World σ κ} (hw : P w) :
    ∃ a u, Relation.ReflTransGen (Step rely) (p, w) (.ret a, u) ∧ Q a u := by
  have hsat : Sat alone (fun _ => True) Q p w := h w hw
  clear h hw
  induction p generalizing w with
  | ret a => exact ⟨a, w, .refl, (sat_alone_ret.1 hsat).2⟩
  | act f next ih =>
    obtain ⟨a, u, hrun, hQ⟩ := ih w.state (sat_alone_act.1 hsat).2
    exact ⟨a, u, .head (.act f next w) hrun, hQ⟩
  | call k next ih =>
    obtain ⟨a, u, hrun, hQ⟩ := ih 0 ((sat_alone_call.1 hsat).2 0)
    exact ⟨a, u, .head (.call k next w 0) hrun, hQ⟩

theorem Stable.alone {P : World σ κ → Prop} : Stable alone P := fun _ _ _ h => h.elim

/-- Run a program by itself on a list of answers, as far as the answers reach. -/
def runWith : Prog σ κ α → List Int → World σ κ → Prog σ κ α × World σ κ
  | .ret a, _, w => (.ret a, w)
  | .act f next, rs, w => runWith (next w.state) rs (w.update f)
  | .call k next, [], w => (.call k next, w)
  | .call k next, r :: rs, w => runWith (next r) rs (w.note k r)

/-- What `runWith` computes is a run, whatever the other threads may do. -/
theorem steps_runWith (p : Prog σ κ α) :
    ∀ (rs : List Int) (w : World σ κ),
      Relation.ReflTransGen (Step rely) (p, w) (runWith p rs w) := by
  induction p with
  | ret a => exact fun _ _ => .refl
  | act f next ih => exact fun rs w => .head (.act f next w) (ih _ rs _)
  | call k next ih =>
    intro rs w
    cases rs with
    | nil => exact .refl
    | cons r rs => exact .head (.call k next w r) (ih r rs _)

/-! ## The calls of a program

`Makes P p` is about a program that is left alone, with its calls answered by anybody: `P` holds of
its result and of the calls that it added to the log.  `play` runs it to its end against an
environment that may answer each call by all the calls before it. -/

/-- Run a program by itself, with its calls answered by `env`, which knows the calls so far. -/
def play (env : List (κ × Int) → κ → Int) : Prog σ κ α → World σ κ → α × World σ κ
  | .ret a, w => (a, w)
  | .act f next, w => play env (next w.state) (w.update f)
  | .call k next, w => play env (next (env w.log k)) (w.note k (env w.log k))

/-- What `play` computes is a run to the end, whatever the other threads may do. -/
theorem steps_play (env : List (κ × Int) → κ → Int) (p : Prog σ κ α) :
    ∀ w : World σ κ,
      Relation.ReflTransGen (Step rely) (p, w) (.ret (play env p w).1, (play env p w).2) := by
  induction p with
  | ret a => exact fun _ => .refl
  | act f next ih => exact fun w => .head (.act f next w) (ih _ _)
  | call k next ih => exact fun w => .head (.call k next w _) (ih _ _)

/-- `P` holds of the result of `p` and of the calls it makes, whatever they are answered. -/
def Makes (P : α → List (κ × Int) → Prop) (p : Prog σ κ α) : Prop :=
  ∀ w, Sat alone (fun _ => True) (fun a u => ∃ calls, u.log = w.log ++ calls ∧ P a calls) p w

section Makes

variable {P : α → List (κ × Int) → Prop}

theorem Makes.play {p : Prog σ κ α} (h : Makes P p) (env : List (κ × Int) → κ → Int) (s : σ) :
    P (play env p ⟨s, []⟩).1 (play env p ⟨s, []⟩).2.log := by
  obtain ⟨calls, hlog, hP⟩ := ((h ⟨s, []⟩).sound (steps_play env p ⟨s, []⟩)).2 _ rfl
  rw [List.nil_append] at hlog
  exact hlog ▸ hP

theorem Makes.mono {R : α → List (κ × Int) → Prop} {p : Prog σ κ α} (h : Makes P p)
    (hPR : ∀ a calls, P a calls → R a calls) : Makes R p :=
  fun w => (h w).mono fun a _ ⟨calls, hlog, hP⟩ => ⟨calls, hlog, hPR a calls hP⟩

theorem makes_pure {a : α} (h : P a []) : Makes P (pure a : Prog σ κ α) :=
  fun w => sat_alone_pure.2 ⟨trivial, [], by simp, h⟩

theorem makes_ask_bind {Q : β → List (κ × Int) → Prop} {k : κ} {g : Int → Prog σ κ β}
    (h : ∀ r, Makes (fun b calls => Q b ((k, r) :: calls)) (g r)) : Makes Q (ask k >>= g) := by
  refine fun w => sat_alone_ask_bind.2 ⟨trivial, fun r => ?_⟩
  refine (h r (w.note k r)).mono ?_
  rintro b u ⟨calls, hlog, hQ⟩
  exact ⟨(k, r) :: calls, by simp [hlog], hQ⟩

/-- The calls of a sequence are those of its parts, one after the other. -/
theorem Makes.bind {Q : β → List (κ × Int) → Prop} {p : Prog σ κ α} {g : α → Prog σ κ β}
    (hp : Makes P p)
    (hg : ∀ a before, P a before → Makes (fun b calls => Q b (before ++ calls)) (g a)) :
    Makes Q (p >>= g) := by
  refine fun w => sat_bind (hp w) ?_
  rintro a u ⟨before, hlog, hP⟩
  refine (hg a before hP u).mono ?_
  rintro b v ⟨calls, hlog', hQ⟩
  exact ⟨before ++ calls, by rw [hlog', hlog, List.append_assoc], hQ⟩

/-- A loop over a list, with a test in front of its body, makes one block of calls for each element
that passes, in the order of the list. -/
theorem makes_forM {ι : Type} {P : ι → List (κ × Int) → Prop} {test : ι → Bool}
    {body : ι → Prog σ κ Unit} (h : ∀ i, Makes (fun _ => P i) (body i)) (is : List ι) :
    Makes (fun _ calls => ∃ blocks, List.Forall₂ P (is.filter test) blocks ∧ calls = blocks.flatten)
      (is.forM fun i => when (test i) (body i)) := by
  induction is with
  | nil => exact makes_pure ⟨[], .nil, rfl⟩
  | cons i is ih =>
    show Makes _ (when (test i) (body i) >>= fun _ => is.forM fun i => when (test i) (body i))
    cases ht : test i with
    | false =>
      rw [List.filter_cons_of_neg (by simp [ht])]
      exact ih
    | true =>
      rw [List.filter_cons_of_pos ht]
      refine (h i).bind fun _ before hi => ih.mono ?_
      rintro _ _ ⟨blocks, hblocks, rfl⟩
      exact ⟨before :: blocks, .cons hi hblocks, rfl⟩

end Makes

/-! ## Answers that are given

With the answers given in advance, a program makes no calls any more: what is left to chance is what
the other threads do. -/

/-- The program, with every call answered as `answer` says. -/
def answered (answer : κ → Int) : Prog σ κ α → Prog σ κ α
  | .ret a => .ret a
  | .act f next => .act f fun s => (next s).answered answer
  | .call k next => (next (answer k)).answered answer

section Answered

variable {answer : κ → Int}

@[simp] theorem answered_bind (p : Prog σ κ α) (g : α → Prog σ κ β) :
    (p >>= g).answered answer = p.answered answer >>= fun a => (g a).answered answer := by
  induction p with
  | ret a => rfl
  | act f next ih =>
    show Prog.act f (fun s => (next s >>= g).answered answer) = _
    simp only [ih]
    rfl
  | call k next ih => exact ih (answer k)

@[simp] theorem answered_pure (a : α) : (pure a : Prog σ κ α).answered answer = pure a := rfl

@[simp] theorem answered_load : (load : Prog σ κ σ).answered answer = load := rfl

@[simp] theorem answered_update (f : σ → σ) :
    (update f : Prog σ κ Unit).answered answer = update f := rfl

@[simp] theorem answered_ask_bind (k : κ) (g : Int → Prog σ κ β) :
    (ask k >>= g).answered answer = (g (answer k)).answered answer := rfl

@[simp] theorem answered_when (b : Bool) (p : Prog σ κ Unit) :
    (when b p).answered answer = when b (p.answered answer) := by
  cases b with
  | true => rfl
  | false => rfl

end Answered

end Prog
