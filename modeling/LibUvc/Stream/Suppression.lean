import LibUvc.Stream.Consumer

/-!
# Suppressing frames with errors

A frame that lost a packet or saw an error bit "is suppressed in `_uvc_swap_buffers` and never
delivered", says the comment on `frame_had_errors`.  The suppression consists in not broadcasting:
the frame is published all the same, with its number and its bytes, and both consumers decide by
comparing numbers.  So a consumer that happens to look sees it as new.

`Pipeline.Suppressed` is what the comment promises.  It holds in every run in which the consumer
never makes its comparison at the wrong time (`LooksAtClean`), which is `flagged_suppressed`; for
streams of fewer than 2^32 frames that condition is exact, which is `suppressed_step_iff`.

The work is in `Coherent`, an invariant of all runs whatever the consumer does.  It has two halves,
one for each thread: `Assembled` says that the hold buffers are those of the frame published last
and that frames are numbered from 1, and `Handed` that everything the consumer was given, and every
number it remembers, comes from a published frame.
-/

set_option autoImplicit false

namespace LibUvc
namespace Stream

open Checked Transition

/-! ## The property and the condition -/

/-- No delivery hands over a flagged frame that was published before, or its number. -/
def Pipeline.Suppressed (s : Pipeline) : Prop :=
  ∀ D ∈ s.delivered, ∀ k p, s.published[k]? = some p → p.hadErrors = true → k ≤ D.source →
    D.source ≠ k ∧ D.seq ≠ p.seq

/-- The consumer compares its number with `hold_seq` in this step. -/
def Pipeline.Compares (s : Pipeline) : PipelineAction → Prop
  | .look => s.running = true ∨ s.consumer = .pollWoken
  | .getFrame _ => s.running = true
  | _ => False

/-- The number of frames published since a flagged one is never a multiple of 2^32.  In particular
it is not 0: the frame published last is not flagged itself. -/
def Pipeline.HeldClean (s : Pipeline) : Prop :=
  ∀ k (h : k < s.published.length), s.published[k].hadErrors = true →
    (s.published.length - 1 - k) % 2 ^ 32 ≠ 0

/-- The condition on a step: the consumer does not make its comparison while the frame published
last is flagged, or has the number of a flagged one. -/
def Pipeline.LooksAtClean (s : Pipeline) (a : PipelineAction) : Prop :=
  s.Compares a → s.HeldClean

instance (s : Pipeline) : (a : PipelineAction) → Decidable (s.Compares a)
  | .look => inferInstanceAs (Decidable (_ ∨ _))
  | .getFrame _ => inferInstanceAs (Decidable (_ = _))
  | .payload _ | .body | .badPacket | .broadcast | .stop | .spurious | .callbackReturns
  | .timeout => .isFalse id

instance (s : Pipeline) : Decidable s.HeldClean :=
  inferInstanceAs (Decidable (∀ k, (_ : k < s.published.length) → _ → _))

instance (s : Pipeline) (a : PipelineAction) : Decidable (s.LooksAtClean a) :=
  inferInstanceAs (Decidable (_ → _))

/-! ## What the event thread keeps -/

/-- The event thread's half of the invariant. -/
structure Pipeline.Assembled (s : Pipeline) : Prop where
  bounded : s.asm.Bounded
  inside : ∀ bytes headerLen dataLen info, s.event = .body bytes headerLen dataLen info →
    headerLen + dataLen ≤ bytes.length
  seq : s.asm.seq = UInt32.ofNat (s.published.length + 1)
  holdSeq : s.asm.holdSeq = UInt32.ofNat s.published.length
  held : ∀ p, s.published.getLast? = some p → p.data = s.asm.holdbuf.take s.asm.holdBytes
  numbered : ∀ k p, s.published[k]? = some p → p.seq = UInt32.ofNat (k + 1)

theorem publish_assembled {s : Pipeline} (h : s.Assembled) : s.publish.Assembled where
  bounded := swapBuffers_bounded h.bounded
  inside := h.inside
  seq := by
    simp only [Pipeline.publish, swapBuffers, resetWorking, swapHold, h.seq, List.length_append,
      List.length_singleton]
    exact (UInt32.ofNat_add _ 1).symm
  holdSeq := by
    simp [Pipeline.publish, swapBuffers, resetWorking, swapHold, h.seq]
  held := by
    intro p hp
    simp only [Pipeline.publish, List.getLast?_append, List.getLast?_singleton,
      Option.some_or, Option.some.injEq] at hp
    subst hp
    rfl
  numbered := by
    intro k p hp
    simp only [Pipeline.publish] at hp
    rcases lt_trichotomy k s.published.length with hk | rfl | hk
    · rw [List.getElem?_append_left hk] at hp
      exact h.numbered k p hp
    · rw [List.getElem?_concat_length, Option.some.injEq] at hp
      subst hp
      exact h.seq
    · rw [List.getElem?_eq_none (by simp; omega)] at hp
      exact absurd hp (by simp)

theorem publishIf_assembled {s : Pipeline} (due : Bool) (h : s.Assembled) :
    (s.publishIf due).Assembled := by
  cases due with
  | false => exact h
  | true => exact publish_assembled h

theorem Pipeline.Assembled.congr {s t : Pipeline} (h : s.Assembled) (hasm : t.asm = s.asm)
    (hevent : t.event = s.event) (hpub : t.published = s.published) : t.Assembled where
  bounded := hasm ▸ h.bounded
  inside := hevent ▸ h.inside
  seq := by rw [hasm, hpub, h.seq]
  holdSeq := by rw [hasm, hpub, h.holdSeq]
  held := by
    rw [hasm, hpub]
    exact h.held
  numbered := hpub ▸ h.numbered

/-- Anything may happen to the frame in progress between two publications. -/
theorem Pipeline.Assembled.inProgress {s t : Pipeline} (h : s.Assembled) (hb : t.asm.Bounded)
    (hseq : t.asm.seq = s.asm.seq) (hholdSeq : t.asm.holdSeq = s.asm.holdSeq)
    (hbuf : t.asm.holdbuf = s.asm.holdbuf) (hbytes : t.asm.holdBytes = s.asm.holdBytes)
    (hevent : ∀ bytes headerLen dataLen info, t.event = .body bytes headerLen dataLen info →
      headerLen + dataLen ≤ bytes.length) (hpub : t.published = s.published) : t.Assembled where
  bounded := hb
  inside := hevent
  seq := by rw [hseq, hpub, h.seq]
  holdSeq := by rw [hholdSeq, hpub, h.holdSeq]
  held := by
    rw [hbuf, hbytes, hpub]
    exact h.held
  numbered := hpub ▸ h.numbered

theorem flagged_assembled {s : Pipeline} (h : s.Assembled) :
    Pipeline.Assembled { s with asm := { s.asm with frameHadErrors := true } } :=
  h.inProgress ⟨h.bounded.1, h.bounded.2, h.bounded.3, h.bounded.4, h.bounded.5, h.bounded.6⟩
    rfl rfl rfl rfl h.inside rfl

/-! ## What one step can do -/

/-- A step that delivers nothing. -/
structure Pipeline.Quiet (s t : Pipeline) : Prop where
  assembled : t.Assembled
  published : s.published <+: t.published
  delivered : t.delivered = s.delivered
  lastPolledSeq : t.lastPolledSeq = s.lastPolledSeq
  last : ∀ n, t.consumer.last = some n → s.consumer.last = some n

/-- A step that delivers what is in the hold buffers: the consumer compared, and had not seen the
number before. -/
structure Pipeline.Delivers (s : Pipeline) (a : PipelineAction) (t : Pipeline) : Prop where
  compares : s.Compares a
  isNew : (∃ n, s.consumer.last = some n ∧ n ≠ s.asm.holdSeq) ∨ s.lastPolledSeq < s.asm.holdSeq
  asm : t.asm = s.asm
  event : t.event = s.event
  published : t.published = s.published
  delivered : t.delivered = s.deliver.delivered
  lastPolledSeq : t.lastPolledSeq = s.lastPolledSeq ∨ t.lastPolledSeq = s.asm.holdSeq
  last : ∀ n, t.consumer.last = some n → n = s.asm.holdSeq

/-- The consumer goes somewhere without being given anything. -/
theorem quiet_of_consumer {s : Pipeline} (h : s.Assembled) {c : Consumer} {r : Bool}
    (hc : c.last = none ∨ c.last = s.consumer.last) :
    s.Quiet { s with consumer := c, running := r } where
  assembled := h.congr rfl rfl rfl
  published := List.prefix_refl _
  delivered := rfl
  lastPolledSeq := rfl
  last := by
    intro n hn
    rcases hc with hc | hc
    · exact absurd (hc.symm.trans hn) (by simp)
    · exact hc ▸ hn

theorem quiet_of_publishIf {s t : Pipeline} (due : Bool) (h : t.Assembled)
    (hpub : t.published = s.published) (hdel : t.delivered = s.delivered)
    (hpolled : t.lastPolledSeq = s.lastPolledSeq) (hcons : t.consumer = s.consumer) :
    s.Quiet (t.publishIf due) where
  assembled := publishIf_assembled due h
  published := by
    rw [publishIf_published, hpub]
    exact List.prefix_append _ _
  delivered := by cases due <;> exact hdel
  lastPolledSeq := by cases due <;> exact hpolled
  last := by
    intro n hn
    rw [← hcons, ← hn]
    cases due with
    | false => rfl
    | true =>
      simp only [Pipeline.publishIf, Pipeline.publish, if_true]
      split <;> simp

theorem payload_quiet {s t : Pipeline} (h : s.Assembled) {bytes : List UInt8}
    (hs : s.payload bytes = .ok t) : s.Quiet t := by
  rcases payload_cases (s := s) bytes with ⟨-, hp⟩ | ⟨_, _, -, -, hp⟩ |
    ⟨headerLen, dataLen, info, hle, -, -, hp⟩
  · obtain rfl := Except.ok.inj (hp.symm.trans hs)
    exact quiet_of_publishIf false h rfl rfl rfl rfl
  · obtain rfl := Except.ok.inj (hp.symm.trans hs)
    exact quiet_of_publishIf false (flagged_assembled h) rfl rfl rfl rfl
  · obtain rfl := Except.ok.inj (hp.symm.trans hs)
    have hq := quiet_of_publishIf (s := s) (flips s.asm headerLen info) h rfl rfl rfl rfl
    have ha := hq.assembled
    refine ⟨⟨ha.bounded, ?_, ha.seq, ha.holdSeq, ha.held, ha.numbered⟩, hq.published, hq.delivered,
      hq.lastPolledSeq, hq.last⟩
    intro b hl dl i he
    obtain ⟨rfl, rfl, rfl, rfl⟩ := EventPc.body.inj he
    exact hle

theorem body_quiet {s t : Pipeline} (h : s.Assembled) {bytes : List UInt8}
    {headerLen dataLen : Nat} {info : UInt8} (hle : headerLen + dataLen ≤ bytes.length)
    (hs : s.body bytes headerLen dataLen info = .ok t) : s.Quiet t := by
  obtain ⟨_, asm, due, -, -, hb, hbounded, hseq, hholdSeq, hbuf, hbytes⟩ :=
    body_ok h.bounded info hle
  obtain rfl := Except.ok.inj (hb.symm.trans hs)
  refine quiet_of_publishIf due ?_ rfl rfl rfl rfl
  exact h.inProgress hbounded hseq hholdSeq hbuf hbytes (fun _ _ _ _ he => absurd he (by simp)) rfl

/-- The test of the user's thread. -/
theorem check_cases {s : Pipeline} (h : s.Assembled) {last : UInt32}
    (hc : s.consumer = .checking last) :
    s.Quiet (s.check last) ∨ s.Delivers .look (s.check last) := by
  rw [Pipeline.check]
  split
  · exact Or.inl (quiet_of_consumer h (Or.inl rfl))
  · rename_i hrun
    split
    · exact Or.inl (quiet_of_consumer h (Or.inr (by rw [hc]; rfl)))
    · rename_i hne
      refine Or.inr ⟨Or.inl (by simpa using hrun),
        Or.inl ⟨last, by rw [hc]; rfl, by simpa using hne⟩, rfl, rfl, rfl, rfl, Or.inl rfl, ?_⟩
      intro n hn
      exact (Option.some.inj hn).symm

/-- The test of `uvc_stream_get_frame`. -/
theorem pollOr_cases {s : Pipeline} (h : s.Assembled) {a : PipelineAction} (ha : s.Compares a)
    {c : Consumer} (hc : c.last = none) : s.Quiet (s.pollOr c) ∨ s.Delivers a (s.pollOr c) := by
  rw [Pipeline.pollOr]
  split
  · rename_i hlt
    exact Or.inr ⟨ha, Or.inr hlt, rfl, rfl, rfl, rfl, Or.inr rfl,
      fun n hn => absurd hn (by simp [Consumer.last])⟩
  · exact Or.inl (quiet_of_consumer h (Or.inl hc))

/-- **One step.**  It delivers nothing, or it is a comparison that delivers what the hold buffers
hold. -/
theorem step_cases {s t : Pipeline} {a : PipelineAction} (h : s.Assembled)
    (hs : s.step a = some t) : s.Quiet t ∨ s.Delivers a t := by
  cases step_inv hs with
  | payload _ hok => exact Or.inl (payload_quiet h hok)
  | body hevent hok => exact Or.inl (body_quiet h (h.inside _ _ _ _ hevent) hok)
  | lost => exact Or.inl (quiet_of_publishIf false (flagged_assembled h) rfl rfl rfl rfl)
  | strolls hstroll =>
    obtain ⟨c, r, rfl, -, hlast⟩ := hstroll
    exact Or.inl (quiet_of_consumer h hlast)
  | checks hc => exact check_cases h hc
  | polls hpolls hc =>
    refine pollOr_cases h ?_ (last_of_polls hc)
    rcases hpolls with ⟨rfl, hwoken⟩ | ⟨⟨_, rfl⟩, -, hrun⟩
    · exact Or.inr hwoken
    · exact hrun

/-! ## What the consumer keeps -/

/-- The consumer's half of the invariant. -/
structure Pipeline.Handed (s : Pipeline) : Prop where
  known : ∀ D ∈ s.delivered,
    ∃ p, s.published[D.source]? = some p ∧ p.seq = D.seq ∧ p.data = D.data
  last : ∀ n, s.consumer.last = some n → n = 0 ∨ ∃ D ∈ s.delivered, D.seq = n
  polled : s.lastPolledSeq = 0 ∨ ∃ D ∈ s.delivered, D.seq = s.lastPolledSeq

/-- The invariant of every run. -/
structure Pipeline.Coherent (s : Pipeline) : Prop where
  assembled : s.Assembled
  handed : s.Handed

/-- A consumer that sees a new number sees a published frame. -/
theorem Pipeline.Coherent.exists_held {s : Pipeline} (h : s.Coherent)
    (hnew : (∃ n, s.consumer.last = some n ∧ n ≠ s.asm.holdSeq) ∨
      s.lastPolledSeq < s.asm.holdSeq) :
    ∃ p, s.published[s.published.length - 1]? = some p ∧ p.seq = s.asm.holdSeq ∧
      p.data = s.asm.holdbuf.take s.asm.holdBytes := by
  have hne : s.published ≠ [] := by
    intro hnil
    have hzero : s.asm.holdSeq = 0 := by simp [h.assembled.holdSeq, hnil]
    rcases hnew with ⟨n, hn, hne⟩ | hlt
    · -- before the first publication the consumer remembers 0, since nothing was delivered
      rcases h.handed.last n hn with rfl | ⟨D, hD, -⟩
      · exact hne hzero.symm
      · obtain ⟨p, hp, -⟩ := h.handed.known D hD
        simp [hnil] at hp
    · simp [hzero] at hlt
  obtain ⟨p, hp⟩ := Option.isSome_iff_exists.1 (List.getLast?_isSome.2 hne)
  refine ⟨p, by rw [← List.getLast?_eq_getElem?, hp], ?_, h.assembled.held p hp⟩
  have hpos := List.length_pos_iff.2 hne
  rw [h.assembled.numbered _ p (by rw [← List.getLast?_eq_getElem?, hp]), h.assembled.holdSeq]
  congr 1
  omega

/-- A published frame stays published. -/
theorem getElem?_of_prefix {l m : List Published} (h : l <+: m) {k : Nat} {p : Published}
    (hp : l[k]? = some p) : m[k]? = some p := by
  obtain ⟨r, rfl⟩ := h
  rw [List.getElem?_append_left (List.getElem?_eq_some_iff.1 hp).1, hp]

theorem step_assembled {s t : Pipeline} {a : PipelineAction} (h : s.Assembled)
    (hs : s.step a = some t) : t.Assembled := by
  rcases step_cases h hs with hq | hd
  · exact hq.assembled
  · exact h.congr hd.asm hd.event hd.published

theorem step_coherent {s t : Pipeline} {a : PipelineAction} (h : s.Coherent)
    (hs : s.step a = some t) : t.Coherent := by
  have hassembled := step_assembled h.assembled hs
  rcases step_cases h.assembled hs with hq | hd
  · refine ⟨hassembled, ?_, ?_, ?_⟩
    · rw [hq.delivered]
      intro D hD
      obtain ⟨p, hp, heq⟩ := h.handed.known D hD
      exact ⟨p, getElem?_of_prefix hq.published hp, heq⟩
    · rw [hq.delivered]
      exact fun n hn => h.handed.last n (hq.last n hn)
    · rw [hq.delivered, hq.lastPolledSeq]
      exact h.handed.polled
  · obtain ⟨p, hp, hpseq, hpdata⟩ := h.exists_held hd.isNew
    have hnew : (⟨s.asm.holdSeq, s.asm.holdbuf.take s.asm.holdBytes, s.published.length - 1⟩ :
        Delivery) ∈ t.delivered := by simp [hd.delivered, Pipeline.deliver]
    have hold : ∀ D ∈ s.delivered, D ∈ t.delivered := fun D hD => by
      simp [hd.delivered, Pipeline.deliver, hD]
    refine ⟨hassembled, ?_, ?_, ?_⟩
    · rw [hd.delivered, hd.published]
      intro D hD
      rcases List.mem_append.1 hD with hD | hD
      · exact h.handed.known D hD
      · obtain rfl := List.mem_singleton.1 hD
        exact ⟨p, hp, hpseq, hpdata⟩
    · intro n hn
      exact Or.inr ⟨_, hnew, (hd.last n hn).symm⟩
    · rcases hd.lastPolledSeq with hl | hl
      · rw [hl]
        rcases h.handed.polled with hz | ⟨D, hD, hDseq⟩
        · exact Or.inl hz
        · exact Or.inr ⟨D, hold D hD, hDseq⟩
      · exact Or.inr ⟨_, hnew, hl.symm⟩

/-! ## Suppression -/

theorem ofNat_succ_eq_iff {i k : Nat} (h : k ≤ i) :
    UInt32.ofNat (i + 1) = UInt32.ofNat (k + 1) ↔ (i - k) % 2 ^ 32 = 0 := by
  rw [← UInt32.toNat_inj, UInt32.toNat_ofNat', UInt32.toNat_ofNat']
  omega

/-- A step that meets the condition keeps flagged frames suppressed. -/
theorem step_suppressed {s t : Pipeline} {a : PipelineAction} (hc : s.Coherent)
    (h : s.Suppressed) (hg : s.LooksAtClean a) (hs : s.step a = some t) : t.Suppressed := by
  intro D hD k p hp hflag hk
  rcases step_cases hc.assembled hs with hq | hd
  · -- what is published now comes after everything that was delivered
    rw [hq.delivered] at hD
    obtain ⟨q, hq', -⟩ := hc.handed.known D hD
    have hlt : k < s.published.length := by
      have := (List.getElem?_eq_some_iff.1 hq').1
      omega
    have hsame := getElem?_of_prefix hq.published (List.getElem?_eq_getElem hlt)
    obtain rfl := Option.some.inj (hsame.symm.trans hp)
    exact h D hD k _ (List.getElem?_eq_getElem hlt) hflag hk
  · rw [hd.published] at hp
    rw [hd.delivered] at hD
    rcases List.mem_append.1 hD with hD | hD
    · exact h D hD k p hp hflag hk
    · obtain rfl := List.mem_singleton.1 hD
      obtain ⟨hlt, rfl⟩ := List.getElem?_eq_some_iff.1 hp
      have hmod := hg hd.compares k hlt hflag
      obtain ⟨q, hq, hqseq, -⟩ := hc.exists_held hd.isNew
      refine ⟨fun hkeq => hmod ?_, fun hseq => hmod ?_⟩
      · simp only [] at hkeq
        omega
      · simp only [] at hseq hk
        rw [← hqseq, hc.assembled.numbered _ _ hq, hc.assembled.numbered _ _ hp] at hseq
        exact (ofNat_succ_eq_iff hk).1 hseq

/-- A consumer that compares and has not seen the number takes the frame. -/
theorem delivers_of_new {s t : Pipeline} {a : PipelineAction} (ha : s.Compares a)
    (hlast : ∀ n, s.consumer.last = some n → n ≠ s.asm.holdSeq)
    (hpolled : s.lastPolledSeq < s.asm.holdSeq) (hs : s.step a = some t) :
    t.delivered = s.deliver.delivered ∧ t.published = s.published := by
  cases a with
  | look =>
    obtain ⟨last, hc, rfl⟩ | ⟨-, rfl⟩ := step_look_cases hs
    · have hrun : s.running = true := by
        rcases ha with ha | ha
        · exact ha
        · exact absurd (hc.symm.trans ha) (by simp)
      have hne : last ≠ s.asm.holdSeq := hlast last (by rw [hc]; rfl)
      rw [Pipeline.check, hrun, if_neg (by simp), if_neg (by simpa using hne)]
      exact ⟨rfl, rfl⟩
    · rw [Pipeline.pollOr, if_pos hpolled]
      exact ⟨rfl, rfl⟩
  | getFrame timeoutUs =>
    rw [Pipeline.step] at hs
    split at hs
    · rw [if_pos (show s.running = true from ha)] at hs
      obtain rfl := Option.some.inj hs
      rw [Pipeline.pollOr, if_pos hpolled]
      exact ⟨rfl, rfl⟩
    · exact absurd hs (by simp)
  | payload | body | badPacket | broadcast | stop | spurious | callbackReturns | timeout =>
    exact absurd ha id

/-- While fewer than 2^32 frames were published, what the consumer remembers is older than a flagged
frame in the hold buffers. -/
theorem Pipeline.Coherent.older {s : Pipeline} (hc : s.Coherent) (h : s.Suppressed)
    (hlen : s.published.length < 2 ^ 32) {p : Published}
    (hp : s.published[s.published.length - 1]? = some p) (hflag : p.hadErrors = true)
    {n : UInt32} (hn : n = 0 ∨ ∃ D ∈ s.delivered, D.seq = n) : n < s.asm.holdSeq := by
  have hpos := (List.getElem?_eq_some_iff.1 hp).1
  rw [hc.assembled.holdSeq, UInt32.lt_iff_toNat_lt, UInt32.toNat_ofNat_of_lt' hlen]
  rcases hn with rfl | ⟨D, hD, rfl⟩
  · simp only [UInt32.toNat_zero]
    omega
  · obtain ⟨q, hq, hqseq, -⟩ := hc.handed.known D hD
    have hlt := (List.getElem?_eq_some_iff.1 hq).1
    have hsize : D.source + 1 < 2 ^ 32 := by omega
    rw [← hqseq, hc.assembled.numbered _ _ hq, UInt32.toNat_ofNat_of_lt' hsize]
    by_contra hge
    exact (h D hD _ p hp hflag (by omega)).1 (by omega)

/-- **The condition is exact.**  In a stream of fewer than 2^32 frames, a comparison keeps flagged
frames suppressed if and only if the frame published last is not flagged. -/
theorem suppressed_step_iff {s t : Pipeline} {a : PipelineAction} (hc : s.Coherent)
    (h : s.Suppressed) (hlen : s.published.length < 2 ^ 32) (ha : s.Compares a)
    (hs : s.step a = some t) : t.Suppressed ↔ s.HeldClean := by
  refine ⟨fun ht k hk hflag hmod => ?_, fun hclean => step_suppressed hc h (fun _ => hclean) hs⟩
  have hlast : k = s.published.length - 1 := by omega
  have hp : s.published[s.published.length - 1]? = some s.published[k] := by
    rw [← hlast, List.getElem?_eq_getElem hk]
  have holder := fun n => hc.older h hlen hp hflag (n := n)
  obtain ⟨hdel, hpub⟩ := delivers_of_new ha
    (fun n hn => UInt32.ne_of_lt (holder n (hc.handed.last n hn))) (holder _ hc.handed.polled) hs
  have hmem : (⟨s.asm.holdSeq, s.asm.holdbuf.take s.asm.holdBytes, s.published.length - 1⟩ :
      Delivery) ∈ t.delivered := by simp [hdel, Pipeline.deliver]
  exact (ht _ hmem _ _ (by rw [hpub, hp]) hflag (le_refl _)).1 rfl

/-! ## Whole runs -/

/-- The stream after `uvc_stream_start`: with a callback the user's thread is in front of its first
test, without one nobody is in `uvc_stream_get_frame`. -/
def Pipeline.start (asm : Assembly) (callback : Bool) : Pipeline where
  asm := asm
  consumer := if callback then .checking 0 else .polled

theorem start_coherent {isIsight : Bool} {ctrl : StreamCtrl} {o h mo mh : List UInt8}
    (hb : (started isIsight ctrl o h mo mh).Bounded) (callback : Bool) :
    (Pipeline.start (started isIsight ctrl o h mo mh) callback).Coherent where
  assembled := ⟨hb, fun _ _ _ _ he => absurd he (by simp [Pipeline.start]), rfl, rfl,
    fun _ hp => absurd hp (by simp [Pipeline.start]),
    fun _ _ hp => absurd hp (by simp [Pipeline.start])⟩
  handed := ⟨fun _ hD => absurd hD (by simp [Pipeline.start]), fun n hn => Or.inl (by
    cases callback with
    | true => exact (Option.some.inj hn).symm
    | false => exact absurd hn (by simp [Pipeline.start, Consumer.last])), Or.inl rfl⟩

/-- **Flagged frames are suppressed, if nobody looks.**  In every run of a started stream, with a
callback or polled, in which the consumer never compares numbers while the frame published last is
flagged (or has the number of a flagged one, 2^32 frames back), no flagged frame and no number of
one is ever delivered after it was published; and what is delivered is a published frame without
errors, with its bytes and its number.  As long as the numbers have not wrapped around, the first
comparison that misses the condition delivers a flagged frame. -/
theorem flagged_suppressed (isIsight : Bool) (ctrl : StreamCtrl) (o h mo mh : List UInt8)
    (ho : o.length = ctrl.dwMaxVideoFrameSize.toNat)
    (hh : h.length = ctrl.dwMaxVideoFrameSize.toNat) (hmo : mo.length = xferMetaBufSize)
    (hmh : mh.length = xferMetaBufSize) (callback : Bool) (t : Pipeline)
    (ht : ReachableVia Pipeline.step Pipeline.LooksAtClean
      (Pipeline.start (started isIsight ctrl o h mo mh) callback) t) :
    t.Suppressed ∧
    (∀ D ∈ t.delivered, ∃ p, t.published[D.source]? = some p ∧ p.hadErrors = false ∧
      p.seq = D.seq ∧ p.data = D.data) ∧
    ∀ a u, t.step a = some u → t.published.length < 2 ^ 32 → ¬ t.LooksAtClean a →
      ¬ u.Suppressed := by
  obtain ⟨hc, hs⟩ : t.Coherent ∧ t.Suppressed := by
    refine ReachableVia.invariant (I := fun t => t.Coherent ∧ t.Suppressed) ht
      ⟨start_coherent (started_bounded ho hh hmo hmh) callback,
        fun _ hD => absurd hD (by simp [Pipeline.start])⟩ ?_
    rintro u a w ⟨hc, hs⟩ hg hstep
    exact ⟨step_coherent hc hstep, step_suppressed hc hs hg hstep⟩
  refine ⟨hs, fun D hD => ?_, fun a u hu hlen hmiss => ?_⟩
  · obtain ⟨p, hp, hseq, hdata⟩ := hc.handed.known D hD
    refine ⟨p, hp, ?_, hseq, hdata⟩
    by_contra hflag
    exact (hs D hD _ p hp (by simpa using hflag) (le_refl _)).1 rfl
  · rw [Pipeline.LooksAtClean, Classical.not_imp] at hmiss
    exact fun hsup => hmiss.2 ((suppressed_step_iff hc hs hlen hmiss.1 hu).1 hsup)

/-- A stream with room for one byte of image data. -/
def Pipeline.tiny (callback : Bool) : Pipeline :=
  .start (started false { dwMaxVideoFrameSize := 1 } [0] [0] (List.replicate xferMetaBufSize 0)
    (List.replicate xferMetaBufSize 0)) callback

/-- The user's thread is asleep while a flagged frame is published, and wakes up for the next one,
which is the one it gets. -/
theorem flagged_suppressed_asleep :
    ∃ t, ReachableVia Pipeline.step Pipeline.LooksAtClean (Pipeline.tiny true) t ∧
      (∃ p, t.published[0]? = some p ∧ p.hadErrors = true) ∧ t.delivered = [⟨2, [9], 1⟩] ∧
      t.Suppressed := by
  have hrun : ReachableVia Pipeline.step Pipeline.LooksAtClean (Pipeline.tiny true) _ :=
    reachableVia_of_exec [.look, .badPacket, .payload [2, 0x82, 7], .body, .payload [2, 0x82, 9],
      .body, .look] rfl
  exact ⟨_, hrun, ⟨_, rfl, rfl⟩, rfl, flagged_suppressed false { dwMaxVideoFrameSize := 1 } [0] [0]
    _ _ rfl rfl (List.length_replicate ..) (List.length_replicate ..) true _ hrun |>.1⟩

/-- **Flagged frames do get delivered.**  With a callback: a frame is flagged and published while
the user's function is busy with the one before it, and on its return the thread finds a new number.
Polled: the flagged frame is there when `uvc_stream_get_frame` is called. -/
theorem flagged_delivered :
    (∃ t, Reachable Pipeline.step (Pipeline.tiny true) t ∧ ¬ t.Suppressed) ∧
    ∃ t, Reachable Pipeline.step (Pipeline.tiny false) t ∧ ¬ t.Suppressed := by
  refine ⟨⟨_, reachable_of_exec [.look, .payload [2, 0x82, 7], .body, .look, .badPacket,
    .payload [2, 0x82, 9], .body, .callbackReturns, .look] rfl, fun h => ?_⟩,
    ⟨_, reachable_of_exec [.badPacket, .payload [2, 0x82, 7], .body, .getFrame 0] rfl, fun h => ?_⟩⟩
  · exact (h ⟨2, [9], 1⟩ (by decide) 1 _ rfl rfl (le_refl _)).1 rfl
  · exact (h ⟨1, [7], 0⟩ (by decide) 0 _ rfl rfl (le_refl _)).1 rfl

end Stream
end LibUvc
