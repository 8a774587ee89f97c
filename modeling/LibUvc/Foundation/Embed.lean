import LibUvc.Foundation.Program

/-!
# What a program may call, and programs inside programs

Two things that the triples of `Prog` do not say.

*Which calls are made where.*  `Keeps` is about the states that a run goes through; a requirement
like "this call is made only while the queue is empty" is about a state and a point of the program
at once.  `Heeds rely C P p Q` is a triple that makes it an obligation of the call: `C k w` has to
hold whenever `k` is called in `w`.  `Heeds.sound` says so of the runs, and the rules are those of
`Keeps` with the obligation added to `heeds_ask_bind`.

*A component of a bigger system.*  A `Part` says how the state and the calls of a component sit
inside those of a system, and `Part.embed` makes a program of the component one of the system.  What
was proved of the component holds there (`Part.heeds`), along with any assertion about the rest of
the system that the component cannot touch.
-/

set_option autoImplicit false

namespace Prog

variable {σ κ τ μ α β : Type} {rely : World σ κ → World σ κ → Prop} {C : κ → World σ κ → Prop}

/-! ## Obligations at calls -/

/-- Whatever the others do, `p` calls `k` only in a world where `C k` holds, and ends where `Q`
holds. -/
def Obeys (rely : World σ κ → World σ κ → Prop) (C : κ → World σ κ → Prop)
    (Q : α → World σ κ → Prop) : Prog σ κ α → World σ κ → Prop
  | .ret a, w => ∀ w', Relation.ReflTransGen rely w w' → Q a w'
  | .act f next, w => ∀ w', Relation.ReflTransGen rely w w' →
      Obeys rely C Q (next w'.state) (w'.update f)
  | .call k next, w => ∀ w', Relation.ReflTransGen rely w w' →
      C k w' ∧ ∀ r, Obeys rely C Q (next r) (w'.note k r)

theorem Obeys.step {Q : α → World σ κ → Prop} {p q : Prog σ κ α} {w u : World σ κ}
    (h : Obeys rely C Q p w) (hs : Step rely (p, w) (q, u)) : Obeys rely C Q q u := by
  cases hs with
  | act f next => exact h w .refl
  | call k next _ r => exact (h w .refl).2 r
  | env _ hr =>
    cases p with
    | ret a => exact fun v hv => h v (.head hr hv)
    | act f next => exact fun v hv => h v (.head hr hv)
    | call k next => exact fun v hv => h v (.head hr hv)

theorem Obeys.mono {Q R : α → World σ κ → Prop} {p : Prog σ κ α} :
    ∀ {w : World σ κ}, Obeys rely C Q p w → (∀ a u, Q a u → R a u) → Obeys rely C R p w := by
  induction p with
  | ret a => exact fun h hQ u hu => hQ a u (h u hu)
  | act f next ih => exact fun h hQ u hu => ih _ (h u hu) hQ
  | call k next ih => exact fun h hQ u hu => ⟨(h u hu).1, fun r => ih r ((h u hu).2 r) hQ⟩

theorem obeys_bind {R : α → World σ κ → Prop} {Q : β → World σ κ → Prop} {p : Prog σ κ α}
    {g : α → Prog σ κ β} :
    ∀ {w : World σ κ}, Obeys rely C R p w → (∀ a u, R a u → Obeys rely C Q (g a) u) →
      Obeys rely C Q (p >>= g) w := by
  induction p with
  | ret a => exact fun h hg => hg a _ (h _ .refl)
  | act f next ih => exact fun h hg u hu => ih _ (h u hu) hg
  | call k next ih => exact fun h hg u hu => ⟨(h u hu).1, fun r => ih r ((h u hu).2 r) hg⟩

/-- What was proved of every moment is enough where no call is restricted. -/
theorem Sat.obeys {I : World σ κ → Prop} {Q : α → World σ κ → Prop} {p : Prog σ κ α} :
    ∀ {w : World σ κ}, Sat rely I Q p w → Obeys rely (fun _ _ => True) Q p w := by
  induction p with
  | ret a => exact fun h u hu => (h u hu).2
  | act f next ih => exact fun h u hu => ih _ (h u hu).2
  | call k next ih => exact fun h u hu => ⟨trivial, fun r => ih r ((h u hu).2 r)⟩

/-! ## Triples -/

/-- Started where `P` holds, `p` makes its calls where they are allowed and ends where `Q` holds. -/
def Heeds (rely : World σ κ → World σ κ → Prop) (C : κ → World σ κ → Prop) (P : World σ κ → Prop)
    (p : Prog σ κ α) (Q : α → World σ κ → Prop) : Prop :=
  ∀ w, P w → Obeys rely C Q p w

theorem Heeds.obeys {P : World σ κ → Prop} {p q : Prog σ κ α} {Q : α → World σ κ → Prop}
    (h : Heeds rely C P p Q) {w u : World σ κ} (hw : P w)
    (hs : Relation.ReflTransGen (Step rely) (p, w) (q, u)) : Obeys rely C Q q u := by
  have hreach : ∀ c : Prog σ κ α × World σ κ,
      Relation.ReflTransGen (Step rely) (p, w) c → Obeys rely C Q c.1 c.2 := by
    intro c hc
    induction hc with
    | refl => exact h w hw
    | tail _ hlast ih => exact ih.step hlast
  exact hreach _ hs

/-- **Soundness.**  In every run, every call is made where it is allowed. -/
theorem Heeds.sound {P : World σ κ → Prop} {p : Prog σ κ α} {Q : α → World σ κ → Prop}
    (h : Heeds rely C P p Q) {w u : World σ κ} {k : κ} {next : Int → Prog σ κ α} (hw : P w)
    (hs : Relation.ReflTransGen (Step rely) (p, w) (.call k next, u)) : C k u := by
  have hcall : Obeys rely C Q (.call k next) u := h.obeys hw hs
  exact (hcall u .refl).1

/-- Every run that ends, ends where `Q` holds. -/
theorem Heeds.ends {P : World σ κ → Prop} {p : Prog σ κ α} {Q : α → World σ κ → Prop}
    (h : Heeds rely C P p Q) {w u : World σ κ} {a : α} (hw : P w)
    (hs : Relation.ReflTransGen (Step rely) (p, w) (.ret a, u)) : Q a u := by
  have hret : Obeys rely C Q (.ret a) u := h.obeys hw hs
  exact hret u .refl

theorem Heeds.bind {P : World σ κ → Prop} {p : Prog σ κ α} {R : α → World σ κ → Prop}
    {g : α → Prog σ κ β} {Q : β → World σ κ → Prop} (hp : Heeds rely C P p R)
    (hg : ∀ a, Heeds rely C (R a) (g a) Q) : Heeds rely C P (p >>= g) Q :=
  fun w hw => obeys_bind (hp w hw) fun a u hu => hg a u hu

theorem Heeds.pre {P P' : World σ κ → Prop} {p : Prog σ κ α} {Q : α → World σ κ → Prop}
    (h : Heeds rely C P p Q) (hP : ∀ w, P' w → P w) : Heeds rely C P' p Q :=
  fun w hw => h w (hP w hw)

theorem Heeds.post {P : World σ κ → Prop} {p : Prog σ κ α} {Q Q' : α → World σ κ → Prop}
    (h : Heeds rely C P p Q) (hQ : ∀ a w, Q a w → Q' a w) : Heeds rely C P p Q' :=
  fun w hw => (h w hw).mono hQ

/-- Nothing is promised of a program that starts anywhere and may call what it likes. -/
theorem heeds_true (p : Prog σ κ α) :
    Heeds rely (fun _ _ => True) (fun _ => True) p (fun _ _ => True) :=
  fun w hw => (meets_true p w hw).obeys

section Rules

variable {P : World σ κ → Prop} (hst : Stable rely P)

include hst

theorem heeds_pure {Q : α → World σ κ → Prop} {a : α} (hQ : ∀ w, P w → Q a w) :
    Heeds rely C P (pure a) Q :=
  fun _ hw _ hu => hQ _ (hst.star hw hu)

theorem heeds_load_bind {g : σ → Prog σ κ β} {Q : β → World σ κ → Prop}
    (hg : ∀ s, Heeds rely C (fun w => P w ∧ w.state = s) (g s) Q) :
    Heeds rely C P (load >>= g) Q :=
  fun _ hw u hu => hg u.state u ⟨hst.star hw hu, rfl⟩

theorem heeds_update_bind {f : σ → σ} {R : World σ κ → Prop} {g : Unit → Prog σ κ β}
    {Q : β → World σ κ → Prop} (hf : ∀ w, P w → R (w.update f)) (hg : Heeds rely C R (g ()) Q) :
    Heeds rely C P (update f >>= g) Q :=
  fun _ hw u hu => hg (u.update f) (hf u (hst.star hw hu))

theorem heeds_update {f : σ → σ} {R : World σ κ → Prop} (hR : Stable rely R)
    (hf : ∀ w, P w → R (w.update f)) : Heeds rely C P (update f) (fun _ => R) :=
  fun _ hw u hu _ hv => hR.star (hf u (hst.star hw hu)) hv

theorem heeds_fetch_bind {f : σ → σ} {R : σ → World σ κ → Prop} {g : σ → Prog σ κ β}
    {Q : β → World σ κ → Prop} (hf : ∀ w, P w → R w.state (w.update f))
    (hg : ∀ s, Heeds rely C (R s) (g s) Q) : Heeds rely C P (fetch f >>= g) Q :=
  fun _ hw u hu => hg u.state (u.update f) (hf u (hst.star hw hu))

/-- A call: it has to be allowed here. -/
theorem heeds_ask_bind {k : κ} {R : Int → World σ κ → Prop} {g : Int → Prog σ κ β}
    {Q : β → World σ κ → Prop} (hC : ∀ w, P w → C k w)
    (hk : ∀ w r, P w → R r (w.note k r)) (hg : ∀ r, Heeds rely C (R r) (g r) Q) :
    Heeds rely C P (ask k >>= g) Q :=
  fun _ hw u hu => ⟨hC u (hst.star hw hu), fun r => hg r (u.note k r) (hk u r (hst.star hw hu))⟩

theorem heeds_when {b : Bool} {p : Prog σ κ Unit} {Q : Unit → World σ κ → Prop}
    (hp : b = true → Heeds rely C P p Q) (hn : b = false → ∀ w, P w → Q () w) :
    Heeds rely C P (when b p) Q := by
  cases b with
  | true => exact hp rfl
  | false => exact heeds_pure hst (hn rfl)

end Rules

/-! ## Components -/

/-- A component with state `σ` and calls `κ`, inside a system with state `τ` and calls `μ`. -/
structure Part (σ κ τ μ : Type) where
  get : τ → σ
  put : τ → σ → τ
  /-- The call of the system that a call of the component is. -/
  call : κ → μ
  /-- The call of the component that a call of the system is, if any. -/
  called : μ → Option κ
  get_put : ∀ t s, get (put t s) = s
  called_call : ∀ k, called (call k) = some k

namespace Part

variable (v : Part σ κ τ μ)

/-- A program of the component, as one of the system. -/
def embed : Prog σ κ α → Prog τ μ α
  | .ret a => .ret a
  | .act f next => .act (fun t => v.put t (f (v.get t))) fun t => embed (next (v.get t))
  | .call k next => .call (v.call k) fun r => embed (next r)

/-- What the component sees of a world. -/
def world (w : World τ μ) : World σ κ :=
  ⟨v.get w.state, w.log.filterMap fun e => (v.called e.1).map fun k => (k, e.2)⟩

theorem world_update (w : World τ μ) (f : σ → σ) :
    v.world (w.update fun t => v.put t (f (v.get t))) = (v.world w).update f := by
  simp only [world, World.update, v.get_put]

theorem world_note (w : World τ μ) (k : κ) (r : Int) :
    v.world (w.note (v.call k) r) = (v.world w).note k r := by
  simp [world, World.note, v.called_call]

/-- **A component keeps its promises.**  `P` and `Q` are about the component and `F` is about the
rest: the component's own steps do not concern it, and what the other threads do is, as the
component sees it, something that it reckoned with. -/
theorem heeds {rely' : World τ μ → World τ μ → Prop} {C' : μ → World τ μ → Prop}
    {F : World τ μ → Prop} {p : Prog σ κ α} {P : World σ κ → Prop} {Q : α → World σ κ → Prop}
    (h : Heeds rely C P p Q)
    (hrely : ∀ w u, F w → rely' w u →
      Relation.ReflTransGen rely (v.world w) (v.world u) ∧ F u)
    (hput : ∀ w (f : σ → σ), F w → F (w.update fun t => v.put t (f (v.get t))))
    (hnote : ∀ w k r, F w → F (w.note (v.call k) r))
    (hcall : ∀ w k, F w → C k (v.world w) → C' (v.call k) w) :
    Heeds rely' C' (fun w => P (v.world w) ∧ F w) (v.embed p)
      (fun a w => Q a (v.world w) ∧ F w) := by
  have hstar : ∀ w u, F w → Relation.ReflTransGen rely' w u →
      Relation.ReflTransGen rely (v.world w) (v.world u) ∧ F u := by
    intro w u hF hr
    induction hr with
    | refl => exact ⟨.refl, hF⟩
    | tail _ hlast ih =>
      obtain ⟨hr, hF'⟩ := hrely _ _ ih.2 hlast
      exact ⟨ih.1.trans hr, hF'⟩
  rintro w ⟨hP, hF⟩
  have hobeys : Obeys rely C Q p (v.world w) := h _ hP
  clear h hP
  induction p generalizing w with
  | ret a =>
    intro u hu
    obtain ⟨hr, hFu⟩ := hstar w u hF hu
    exact ⟨hobeys _ hr, hFu⟩
  | act f next ih =>
    intro u hu
    obtain ⟨hr, hFu⟩ := hstar w u hF hu
    refine ih _ _ (hput u f hFu) ?_
    rw [world_update]
    exact hobeys _ hr
  | call k next ih =>
    intro u hu
    obtain ⟨hr, hFu⟩ := hstar w u hF hu
    refine ⟨hcall u k hFu (hobeys _ hr).1, fun r => ih r _ (hnote u k r hFu) ?_⟩
    rw [world_note]
    exact (hobeys _ hr).2 r

end Part

end Prog
