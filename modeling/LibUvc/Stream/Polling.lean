import LibUvc.Stream.Playback

/-!
# What a poll returns

`uvc_stream_get_frame` waits on the condition variable that all of the stream's news goes over, and
does not test again what it has been waiting for: woken for anything else than a frame, it returns
`UVC_SUCCESS` with a null pointer.  A user who has waited without a bound, or has not timed out, has
no reason to expect that.

* `Pipeline.returns` is the return value of the function, with the frame that `*frame` points to, in
  the steps of `Pipeline.step` that end it.
* `poll_returns_frame` says that in a run in which nobody broadcasts while a poll waits for a frame
  (`Pipeline.Awaited`), success means a frame, and a later one than all before.
* `poll_returns_null` is a run in which it does not.  The second half of it is about a stream that
  is started again: `hold_seq` and `last_polled_seq` are still those of the run before, so that the
  frames of the new run count as old.
-/

set_option autoImplicit false

namespace LibUvc
namespace Stream

open Checked Transition

/-! ## Return values -/

/-- The frame that `_uvc_populate_frame` makes now. -/
def Pipeline.current (s : Pipeline) : Delivery :=
  ⟨s.asm.holdSeq, s.asm.holdbuf.take s.asm.holdBytes, s.published.length - 1⟩

/-- The end of `uvc_stream_get_frame`: the frame, if it is new. -/
def Pipeline.newFrame (s : Pipeline) : Option Delivery :=
  if s.lastPolledSeq < s.asm.holdSeq then some s.current else none

/-- What `uvc_stream_get_frame` returns in a step, and what `*frame` then points to; `none` when the
step does not end a call.  A stream that is not running leaves `*frame` alone. -/
def Pipeline.returns (s : Pipeline) : PipelineAction → Option (Ret × Option Delivery)
  | .getFrame timeoutUs =>
    match s.consumer with
    | .polled =>
      if !s.running then some (Ret.errorInvalidParam, none)
      else if s.lastPolledSeq < s.asm.holdSeq ∨ timeoutUs = -1 then some (Ret.success, s.newFrame)
      else none
    | _ => none
  | .look =>
    match s.consumer with
    | .pollWoken => some (Ret.success, s.newFrame)
    | _ => none
  | .timeout =>
    match s.consumer with
    | .pollWaiting true => some (Ret.errorTimeout, none)
    | _ => none
  | _ => none

/-! ## What wakes a poll -/

/-- Calls may wait, and nobody wakes up for no reason. -/
def blocking : PipelineAction → Bool
  | .spurious => false
  | .getFrame timeoutUs => 0 ≤ timeoutUs
  | _ => true

/-- An application waits in `uvc_stream_get_frame`. -/
def Consumer.asleep : Consumer → Bool
  | .pollWaiting _ => true
  | _ => false

/-- A broadcast that is not about a frame finds nobody waiting, or a frame that has not been polled
yet. -/
def Pipeline.Awaited (s : Pipeline) (a : PipelineAction) : Prop :=
  a = .broadcast → s.consumer.asleep = true → s.lastPolledSeq < s.asm.holdSeq

instance (s : Pipeline) (a : PipelineAction) : Decidable (s.Awaited a) :=
  inferInstanceAs (Decidable (_ → _))

theorem pollOr_consumer (s : Pipeline) (c : Consumer) :
    (s.pollOr c).consumer = .polled ∨ (s.pollOr c).consumer = c := by
  rw [Pipeline.pollOr]
  split
  · exact Or.inl rfl
  · exact Or.inr rfl

/-- A publication makes the record of publications longer. -/
theorem publishIf_woken {s : Pipeline} (due : Bool)
    (h : (s.publishIf due).consumer = .pollWoken) :
    (s.consumer = .pollWoken ∧ (s.publishIf due).delivered = s.delivered) ∨
      s.published.length < (s.publishIf due).published.length := by
  cases due with
  | false => exact Or.inl ⟨h, rfl⟩
  | true =>
    refine Or.inr ?_
    rw [publishIf_published, List.length_append]
    exact Nat.lt_add_of_pos_right Nat.one_pos

theorem payload_woken {s t : Pipeline} {bytes : List UInt8} (hs : s.payload bytes = .ok t)
    (ht : t.consumer = .pollWoken) :
    (s.consumer = .pollWoken ∧ t.delivered = s.delivered) ∨
      s.published.length < t.published.length := by
  rcases payload_cases (s := s) bytes with ⟨-, hp⟩ | ⟨_, _, -, -, hp⟩ | ⟨_, _, _, -, -, -, hp⟩
  · obtain rfl := Except.ok.inj (hp.symm.trans hs)
    exact Or.inl ⟨ht, rfl⟩
  · obtain rfl := Except.ok.inj (hp.symm.trans hs)
    exact Or.inl ⟨ht, rfl⟩
  · obtain rfl := Except.ok.inj (hp.symm.trans hs)
    exact publishIf_woken _ ht

/-- A consumer that looks does not wake itself. -/
theorem look_not_woken {s t : Pipeline} (hs : s.step .look = some t) : t.consumer ≠ .pollWoken := by
  obtain ⟨last, -, rfl⟩ | ⟨-, rfl⟩ := step_look_cases hs
  · rw [Pipeline.check]
    split
    · simp
    · split
      · simp
      · simp
  · rcases pollOr_consumer s .polled with hp | hp
    · simp [hp]
    · simp [hp]

theorem getFrame_not_woken {s t : Pipeline} {timeoutUs : Int}
    (hs : s.step (.getFrame timeoutUs) = some t) : t.consumer ≠ .pollWoken := by
  have hafter : afterPoll timeoutUs ≠ .pollWoken := by
    rw [afterPoll]
    split
    · simp
    · simp
  rw [Pipeline.step] at hs
  split at hs
  · rename_i hc
    split at hs
    · obtain rfl := Option.some.inj hs
      rcases pollOr_consumer s (afterPoll timeoutUs) with hp | hp
      · simp [hp]
      · simpa [hp] using hafter
    · obtain rfl := Option.some.inj hs
      simp [hc]
  · cases hs

/-- A poll that is awake was so before, or has been woken by a broadcast, or a frame was
published. -/
theorem woken_cases {s t : Pipeline} {a : PipelineAction} (h : s.Assembled)
    (hs : s.step a = some t) (ha : a ≠ .spurious) (ht : t.consumer = .pollWoken) :
    (s.consumer = .pollWoken ∧ t.delivered = s.delivered) ∨
      (a = .broadcast ∧ s.consumer.asleep = true) ∨
      s.published.length < t.published.length := by
  cases a with
  | payload bytes =>
    rw [Pipeline.step] at hs
    split at hs
    · exact (payload_woken (eq_ok_of_toOption hs) ht).imp_right Or.inr
    · cases hs
  | body =>
    rw [Pipeline.step] at hs
    split at hs
    · rename_i hevent
      obtain ⟨_, asm, due, -, -, hb, -⟩ := body_ok h.bounded _ (h.inside _ _ _ _ hevent)
      obtain rfl := Except.ok.inj (hb.symm.trans (eq_ok_of_toOption hs))
      exact (publishIf_woken due ht).imp_right Or.inr
    · cases hs
  | badPacket =>
    rw [Pipeline.step] at hs
    split at hs
    · obtain rfl := Option.some.inj hs
      exact Or.inl ⟨ht, rfl⟩
    · cases hs
  | broadcast =>
    obtain rfl := Option.some.inj hs
    cases hc : s.consumer with
    | pollWaiting timed => exact Or.inr (Or.inl ⟨rfl, rfl⟩)
    | pollWoken => exact Or.inl ⟨rfl, rfl⟩
    | checking | waiting | inCallback | exited | polled =>
      simp [hc, Consumer.wake] at ht
  | stop =>
    obtain rfl := Option.some.inj hs
    exact Or.inl ⟨ht, rfl⟩
  | spurious => exact absurd rfl ha
  | look => exact absurd ht (look_not_woken hs)
  | getFrame timeoutUs => exact absurd ht (getFrame_not_woken hs)
  | callbackReturns | timeout =>
    rw [Pipeline.step] at hs
    split at hs
    · obtain rfl := Option.some.inj hs
      cases ht
    · cases hs

/-! ## Whole runs -/

/-- What polls keep, as long as the numbers do not wrap around. -/
structure Pipeline.PollsInOrder (s : Pipeline) : Prop where
  polled : s.lastPolledSeq ≤ s.asm.holdSeq
  delivered : ∀ D ∈ s.delivered, D.seq ≤ s.lastPolledSeq
  /-- A poll that is awake has a frame to return. -/
  woken : s.consumer = .pollWoken → s.lastPolledSeq < s.asm.holdSeq

/-- Frames are numbered as they are published. -/
theorem holdSeq_mono {s t : Pipeline} {a : PipelineAction} (h : s.Assembled) (ht : t.Assembled)
    (hlen : t.published.length < 2 ^ 32) (hs : s.step a = some t) :
    s.asm.holdSeq ≤ t.asm.holdSeq ∧
      (s.published.length < t.published.length → s.asm.holdSeq < t.asm.holdSeq) := by
  have hle := published_length_le h hs
  have hsize : s.published.length < UInt32.size := lt_of_le_of_lt hle hlen
  rw [h.holdSeq, ht.holdSeq, UInt32.le_iff_toNat_le, UInt32.lt_iff_toNat_lt,
    UInt32.toNat_ofNat_of_lt' hsize, UInt32.toNat_ofNat_of_lt' hlen]
  exact ⟨hle, id⟩

/-- One step, of an application that polls. -/
theorem step_pollsInOrder {s t : Pipeline} {a : PipelineAction} (h : s.Assembled)
    (hp : s.PollsInOrder) (ht : t.Assembled) (hlen : t.published.length < 2 ^ 32)
    (hpolls : s.consumer.polls = true) (hblock : blocking a = true) (hawait : s.Awaited a)
    (hs : s.step a = some t) : t.PollsInOrder := by
  have hspurious : a ≠ .spurious := by
    rintro rfl
    cases hblock
  obtain ⟨hmono, hnext⟩ := holdSeq_mono h ht hlen hs
  rcases step_cases h hs with hq | hd
  · refine ⟨?_, ?_, fun hwoken => ?_⟩
    · rw [hq.lastPolledSeq]
      exact UInt32.le_trans hp.polled hmono
    · rw [hq.delivered, hq.lastPolledSeq]
      exact hp.delivered
    · rw [hq.lastPolledSeq]
      rcases woken_cases h hs hspurious hwoken with ⟨hbefore, -⟩ | ⟨hcast, hasleep⟩ | hpub
      · exact UInt32.lt_of_lt_of_le (hp.woken hbefore) hmono
      · exact UInt32.lt_of_lt_of_le (hawait hcast hasleep) hmono
      · exact UInt32.lt_of_le_of_lt hp.polled (hnext hpub)
  · obtain ⟨n, hn, -⟩ | ⟨-, hnew, hpolled⟩ := step_delivers hs hd
    · exact absurd hpolls (by simp [polls_of_last hn])
    refine ⟨?_, ?_, fun hwoken => ?_⟩
    · rw [hpolled]
      exact hmono
    · rw [hd.delivered, hpolled, Pipeline.deliver]
      intro D hD
      rcases List.mem_append.1 hD with hD | hD
      · exact UInt32.le_trans (hp.delivered D hD) (UInt32.le_of_lt hnew)
      · obtain rfl := List.mem_singleton.1 hD
        exact UInt32.le_refl _
    · rcases woken_cases h hs hspurious hwoken with ⟨-, hsame⟩ | ⟨rfl, -⟩ | hpub
      · exact absurd (hsame.symm.trans hd.delivered) (deliver_ne s)
      · exact absurd hd.compares id
      · exact absurd hpub (by rw [hd.published]; exact lt_irrefl _)

theorem pollOr_delivered (s : Pipeline) (c : Consumer) :
    (s.pollOr c).delivered = s.delivered ++ s.newFrame.toList := by
  rw [Pipeline.pollOr, Pipeline.newFrame]
  split
  · rfl
  · exact (List.append_nil _).symm

/-- A call that may wait and returns with success has found a new frame, or has been woken.  It
hands out what is new. -/
theorem returns_success {s t : Pipeline} {a : PipelineAction} (hs : s.step a = some t)
    (hblock : blocking a = true) {frame : Option Delivery}
    (hret : s.returns a = some (Ret.success, frame)) :
    frame = s.newFrame ∧ t.delivered = s.delivered ++ s.newFrame.toList ∧
      (s.lastPolledSeq < s.asm.holdSeq ∨ s.consumer = .pollWoken) := by
  cases a with
  | getFrame timeoutUs =>
    rw [Pipeline.returns] at hret
    rw [Pipeline.step] at hs
    cases hc : s.consumer with
    | polled =>
      simp only [hc] at hret hs
      cases hrunning : s.running with
      | false =>
        rw [hrunning] at hret
        exact absurd (congrArg (Option.map Prod.fst) hret)
          (by simp [Ret.errorInvalidParam, Ret.success])
      | true =>
        rw [hrunning, if_pos rfl] at hs
        rw [hrunning, if_neg (by simp)] at hret
        split at hret
        · rename_i hnew
          obtain rfl := Option.some.inj hs
          refine ⟨((Prod.mk.inj (Option.some.inj hret)).2).symm, pollOr_delivered s _, Or.inl ?_⟩
          exact hnew.resolve_right fun h => by simp [blocking, h] at hblock
        · cases hret
    | checking | waiting | inCallback | exited | pollWaiting | pollWoken =>
      simp only [hc] at hret
      cases hret
  | look =>
    obtain ⟨last, hc, -⟩ | ⟨hc, rfl⟩ := step_look_cases hs
    · simp only [Pipeline.returns, hc] at hret
      cases hret
    · simp only [Pipeline.returns, hc] at hret
      exact ⟨((Prod.mk.inj (Option.some.inj hret)).2).symm, pollOr_delivered s _, Or.inr hc⟩
  | timeout =>
    rw [Pipeline.returns] at hret
    split at hret
    · exact absurd (congrArg (Option.map Prod.fst) hret) (by simp [Ret.errorTimeout, Ret.success])
    · cases hret
  | payload | body | badPacket | broadcast | stop | spurious | callbackReturns => cases hret

/-- **What a poll returns.**  In every run of a stream that is polled, in which nobody wakes up for
no reason, all calls may wait, no broadcast but that for a frame finds a poll waiting for one, and
fewer than 2^32 frames are published, a call that returns with success hands out a frame, and one
with a higher number than all before. -/
theorem poll_returns_frame {asm : Assembly} (hb : asm.Bounded) (hseq : asm.seq = 1)
    (hhold : asm.holdSeq = 0) {s t : Pipeline}
    (hrun : ReachableVia Pipeline.step (fun s a => blocking a = true ∧ s.Awaited a)
      (Pipeline.start asm false) s)
    {a : PipelineAction} (hblock : blocking a = true) (hs : s.step a = some t)
    (hlen : s.published.length < 2 ^ 32)
    {frame : Option Delivery} (hret : s.returns a = some (Ret.success, frame)) :
    ∃ D, frame = some D ∧ t.delivered = s.delivered ++ [D] ∧ ∀ E ∈ s.delivered, E.seq < D.seq := by
  have hstart : (Pipeline.start asm false).Assembled := ⟨hb,
    fun _ _ _ _ he => absurd he (by simp [Pipeline.start]), hseq, hhold,
    fun _ hp => absurd hp (by simp [Pipeline.start]),
    fun _ _ hp => absurd hp (by simp [Pipeline.start])⟩
  have hinit : (Pipeline.start asm false).PollsInOrder := ⟨UInt32.zero_le,
    fun _ hD => absurd hD (by simp [Pipeline.start]),
    fun hc => absurd hc (by simp [Pipeline.start])⟩
  obtain ⟨-, -, horder⟩ : s.Assembled ∧ s.consumer.polls = true ∧
      (s.published.length < 2 ^ 32 → s.PollsInOrder) := by
    refine hrun.invariant (I := fun u => u.Assembled ∧ u.consumer.polls = true ∧
      (u.published.length < 2 ^ 32 → u.PollsInOrder)) ⟨hstart, rfl, fun _ => hinit⟩ ?_
    rintro u a w ⟨hu, hpolls, horder⟩ ⟨hblock, hawait⟩ hstep
    have hw := step_assembled hu hstep
    refine ⟨hw, (step_polls hu hstep).trans hpolls, fun hlen => ?_⟩
    have hbefore := lt_of_le_of_lt (published_length_le hu hstep) hlen
    exact step_pollsInOrder hu (horder hbefore) hw hlen hpolls hblock hawait hstep
  obtain ⟨hpolled, hdelivered, hwoken⟩ := horder hlen
  obtain ⟨rfl, hout, hnew⟩ := returns_success hs hblock hret
  have hlt : s.lastPolledSeq < s.asm.holdSeq := hnew.elim id hwoken
  rw [Pipeline.newFrame, if_pos hlt] at hout ⊢
  exact ⟨_, rfl, hout, fun E hE => UInt32.lt_of_le_of_lt (hdelivered E hE) hlt⟩

/-- A poll that waits until a frame is published, and one after it that finds the next frame
published with errors, for which nobody was woken. -/
theorem poll_returns_frame_waiting :
    ∃ s t, ReachableVia Pipeline.step (fun s a => blocking a = true ∧ s.Awaited a)
        (Pipeline.tiny false) s ∧ s.step (.getFrame 0) = some t ∧
      s.returns (.getFrame 0) = some (Ret.success, some ⟨2, [8], 1⟩) ∧
      t.delivered = [⟨1, [7], 0⟩, ⟨2, [8], 1⟩] ∧ ∀ E ∈ s.delivered, E.seq < 2 := by
  have hrun : ReachableVia Pipeline.step (fun s a => blocking a = true ∧ s.Awaited a)
      (Pipeline.tiny false) _ :=
    reachableVia_of_exec [.getFrame 0, .payload [2, 0x82, 7], .body, .look, .badPacket,
      .payload [2, 0x82, 8], .body, .broadcast] rfl
  obtain ⟨D, hD, hdelivered, hlt⟩ := poll_returns_frame
    (started_bounded rfl rfl (List.length_replicate ..) (List.length_replicate ..)) rfl rfl hrun
    (a := .getFrame 0) rfl rfl (by decide) rfl
  obtain rfl := Option.some.inj hD
  exact ⟨_, _, hrun, rfl, rfl, hdelivered, hlt⟩

/-- A transfer is freed while a poll waits: it returns with success and without a frame.  In a
stream that is started again after a run in which the frame with the number 1 was polled, a poll
waits for the first frame, and returns without it. -/
theorem poll_returns_null :
    (∃ s t, ReachableVia Pipeline.step (fun _ a => blocking a = true) (Pipeline.tiny false) s ∧
      s.step .look = some t ∧ s.returns .look = some (Ret.success, none)) ∧
    ∃ s t, ReachableVia Pipeline.step (fun s a => blocking a = true ∧ s.Awaited a)
        { Pipeline.tiny false with
          asm := { (Pipeline.tiny false).asm with holdSeq := 1 }
          lastPolledSeq := 1 } s ∧
      s.published.length = 1 ∧ s.step .look = some t ∧
      s.returns .look = some (Ret.success, none) := by
  have hwoken : ReachableVia Pipeline.step (fun _ a => blocking a = true) (Pipeline.tiny false) _ :=
    reachableVia_of_exec [.getFrame 0, .broadcast] rfl
  have hagain : ReachableVia Pipeline.step (fun s a => blocking a = true ∧ s.Awaited a)
      { Pipeline.tiny false with
        asm := { (Pipeline.tiny false).asm with holdSeq := 1 }
        lastPolledSeq := 1 } _ :=
    reachableVia_of_exec [.getFrame 0, .payload [2, 0x82, 7], .body] rfl
  exact ⟨⟨_, _, hwoken, rfl, rfl⟩, ⟨_, _, hagain, rfl, rfl, rfl⟩⟩

end Stream
end LibUvc
