import LibUvc.Device.Teardown
import Mathlib.Data.List.Nodup

/-!
# What a quarantined close hands back

When `uvc_close` finds that libusb still owns a transfer, it leaves the whole handle behind: the
branch releases nothing and attaches nothing, and the reattach guard stays armed for the helper
process.  But the branch comes late.  By then the streams have been closed one by one, and each of
them that had no transfer left has released its interface and put the driver back on it.

`close_handsNothingBack_iff` says for which handles this cannot be seen.  `HandsNothingBack` is what
the branch is meant to guarantee for the call as a whole; `OnlyStreamLeft d s` says that at the
beginning nothing but the stream `s` itself could be the reason for a quarantine, and the two meet
for every stream that sits on a claimed interface.

One direction follows the closing thread with `Fated`: either nothing has been handed back so far,
or nothing that could be left behind is left.  For the other direction it is enough to let libusb
give the transfers of one stream back before the close begins and then leave the closing thread
alone (`Doomed`).
-/

set_option autoImplicit false

namespace LibUvc
namespace Device

open Prog Transition

/-- `libusb_release_interface` and `libusb_attach_kernel_driver`. -/
def handsBack : UsbCall → Bool
  | .releaseInterface _ | .attachKernelDriver _ => true
  | _ => false

/-- A close of `d` that ends in quarantine hands nothing back: the claimed interfaces and the armed
ones are as they were, and no interface was released or attached. -/
def HandsNothingBack (d : DevHandle) : Prop :=
  ∀ (wakes : Nat) (u : World DevHandle UsbCall),
    Relation.ReflTransGen (Step EventThread) (close wakes, ⟨d, []⟩) (.ret true, u) →
    u.state.claimed = d.claimed ∧ reattachGuardArmedMask u.state = reattachGuardArmedMask d ∧
      ∀ e ∈ u.log, handsBack e.1 = false

/-- Only the transfers of the stream `s` can be a reason to quarantine the handle. -/
structure OnlyStreamLeft (d : DevHandle) (s : OpenStream) : Prop where
  noStream : d.hasQuarantinedStream = false
  noStatus : d.hasQuarantinedStatusXfer = false
  idle : d.status.submitted = false
  others : ∀ t ∈ d.streams, t.ifNum ≠ s.ifNum → t.inFlight = 0

instance (d : DevHandle) (s : OpenStream) : Decidable (OnlyStreamLeft d s) :=
  decidable_of_iff (d.hasQuarantinedStream = false ∧ d.hasQuarantinedStatusXfer = false ∧
      d.status.submitted = false ∧ ∀ t ∈ d.streams, t.ifNum ≠ s.ifNum → t.inFlight = 0)
    ⟨fun ⟨h1, h2, h3, h4⟩ => ⟨h1, h2, h3, h4⟩, fun h => ⟨h.1, h.2, h.3, h.4⟩⟩

/-! ## The transfers of a stream -/

section InFlight

variable (d : DevHandle) {idx i : Nat}

theorem streamOn_map {f : OpenStream → OpenStream} (hf : ∀ s, (f s).ifNum = s.ifNum) :
    streamOn { d with streams := d.streams.map f } i = (streamOn d i).map f := by
  rw [streamOn, streamOn, List.find?_map]
  congr 2
  funext s
  rw [Function.comp_apply, hf]

theorem inFlightOn_halt :
    inFlightOn { d with streams := d.streams.map fun s =>
      if s.ifNum = idx then { s with running := false } else s } i = inFlightOn d i := by
  rw [inFlightOn, inFlightOn, streamOn_map d fun s => by split <;> rfl, Option.map_map]
  congr 2
  funext s
  rw [Function.comp_apply]
  split <;> rfl

theorem inFlightOn_transferFreed :
    inFlightOn (transferFreed idx d) i =
      if i = idx then inFlightOn d i - 1 else inFlightOn d i := by
  rw [inFlightOn, inFlightOn, transferFreed, streamOn_map d fun s => by split <;> rfl]
  cases hs : streamOn d i with
  | none => simp
  | some s =>
    have hif : s.ifNum = i := by simpa using List.find?_some hs
    by_cases hi : i = idx
    · simp [hif, hi]
    · simp [hif, hi]

theorem inFlightOn_eraseP (hne : i ≠ idx) :
    inFlightOn { d with streams := d.streams.eraseP fun s => s.ifNum = idx } i =
      inFlightOn d i := by
  have hfind : ∀ l : List OpenStream,
      (l.eraseP fun s => s.ifNum = idx).find? (fun s => s.ifNum = i) =
        l.find? fun s => s.ifNum = i := by
    intro l
    induction l with
    | nil => rfl
    | cons s l ih =>
      by_cases hs : s.ifNum = idx
      · rw [List.eraseP_cons_of_pos (by simpa using hs),
          List.find?_cons_of_neg (by simpa [hs] using Ne.symm hne)]
      · rw [List.eraseP_cons_of_neg (by simpa using hs), List.find?_cons, List.find?_cons, ih]
  rw [inFlightOn, inFlightOn, streamOn, streamOn, hfind]

/-- The stream on an interface is the one that was found there. -/
theorem inFlightOn_of_mem {d : DevHandle} (hnodup : (d.streams.map OpenStream.ifNum).Nodup)
    {s : OpenStream} (hs : s ∈ d.streams) : inFlightOn d s.ifNum = s.inFlight := by
  obtain ⟨t, ht⟩ : ∃ t, streamOn d s.ifNum = some t :=
    Option.isSome_iff_exists.1 (List.find?_isSome.2 ⟨s, hs, by simp⟩)
  have hts : t = s := List.inj_on_of_nodup_map hnodup (List.mem_of_find?_eq_some ht) hs
    (by simpa using List.find?_some ht)
  rw [inFlightOn, ht, hts]
  rfl

end InFlight

/-! ## Nothing handed back, or nothing left behind -/

/-- Nothing has been handed back since the handle was `d`. -/
structure Untouched (d : DevHandle) (w : World DevHandle UsbCall) : Prop where
  claimed : w.state.claimed = d.claimed
  guard : w.state.reattachGuard = d.reattachGuard
  log : ∀ e ∈ w.log, handsBack e.1 = false

/-- The handle will not be quarantined for the status transfer, nor for the streams on `ifs`. -/
structure Calm (ifs : Nat → Prop) (w : World DevHandle UsbCall) : Prop where
  counted : w.state.status.Counted
  noStream : w.state.hasQuarantinedStream = false
  noStatus : w.state.hasQuarantinedStatusXfer = false
  idle : w.state.status.submitted = false
  drained : ∀ i, ifs i → inFlightOn w.state i = 0

variable {d : DevHandle} {ifs : List Nat} {w : World DevHandle UsbCall}

theorem Untouched.note (h : Untouched d w) {k : UsbCall} {r : Int} (hk : handsBack k = false) :
    Untouched d (w.note k r) where
  claimed := h.claimed
  guard := h.guard
  log e he := by
    rcases List.mem_append.1 he with he | he
    · exact h.log e he
    · rw [List.mem_singleton.1 he]
      exact hk

theorem Untouched.update (h : Untouched d w) {f : DevHandle → DevHandle}
    (hclaimed : (f w.state).claimed = w.state.claimed)
    (hguard : (f w.state).reattachGuard = w.state.reattachGuard) : Untouched d (w.update f) :=
  ⟨hclaimed.trans h.claimed, hguard.trans h.guard, h.log⟩

theorem Untouched.stable : Stable EventThread (Untouched d) := by
  intro w u h hr
  cases hr with
  | freed idx => exact h.update rfl rfl
  | status e x sub he =>
    have hx : Untouched d (w.update fun d => { d with status := x }) := h.update rfl rfl
    cases sub with
    | none =>
      rw [Option.toList_none, List.map_nil, List.append_nil]
      exact hx
    | some r => exact hx.note rfl

theorem Calm.stable {ifs : Nat → Prop} : Stable EventThread (Calm ifs) := by
  intro w u h hr
  cases hr with
  | freed idx =>
    refine ⟨h.counted, h.noStream, h.noStatus, h.idle, fun i hi => ?_⟩
    rw [World.update_state, inFlightOn_transferFreed, h.drained i hi]
    split <;> rfl
  | status e x sub he =>
    -- the callback does not run while the flag is down
    have hflag := (h.counted.event_frame he).2.2.2
    rw [h.idle] at hflag
    cases hflag

/-- Nothing has been handed back, and where a stream on `ifs` might still do so, nothing else can be
left behind. -/
structure Pending (d : DevHandle) (ifs : List Nat) (w : World DevHandle UsbCall) : Prop where
  untouched : Untouched d w
  only : ∀ i ∈ ifs, Mask.has d.claimed i = true → Calm (fun j => j ∈ ifs ∧ j ≠ i) w

/-- The state of affairs while the streams on `ifs` are still to be closed. -/
def Fated (d : DevHandle) (ifs : List Nat) (w : World DevHandle UsbCall) : Prop :=
  Pending d ifs w ∨ Calm (· ∈ ifs) w

theorem Pending.stable : Stable EventThread (Pending d ifs) :=
  fun w u h hr => ⟨Untouched.stable w u h.untouched hr,
    fun i hi hc => Calm.stable w u (h.only i hi hc) hr⟩

theorem Fated.stable : Stable EventThread (Fated d ifs) := by
  rintro w u (h | h) hr
  · exact Or.inl (Pending.stable w u h hr)
  · exact Or.inr (Calm.stable w u h hr)

theorem Calm.halt {ifs : Nat → Prop} (h : Calm ifs w) (idx : Nat) :
    Calm ifs (w.update fun d => { d with streams := d.streams.map fun s =>
      if s.ifNum = idx then { s with running := false } else s }) :=
  { h with drained := fun i hi => (inFlightOn_halt w.state).trans (h.drained i hi) }

theorem Calm.note {ifs : Nat → Prop} (h : Calm ifs w) (k : UsbCall) (r : Int) :
    Calm ifs (w.note k r) := ⟨h.counted, h.noStream, h.noStatus, h.idle, h.drained⟩

theorem Fated.note (h : Fated d ifs w) {k : UsbCall} {r : Int} (hk : handsBack k = false) :
    Fated d ifs (w.note k r) :=
  h.imp (fun hp => ⟨hp.untouched.note hk, fun i hi hc => (hp.only i hi hc).note k r⟩)
    fun hc => hc.note k r

theorem Fated.undisturbed (idx : Nat) : Undisturbed EventThread idx (Fated d ifs) where
  stable := Fated.stable
  cancel _ _ h := h.note rfl
  wait _ _ h := h.note rfl
  halt _ h := h.imp
    (fun hp => ⟨hp.untouched.update rfl rfl, fun i hi hc => (hp.only i hi hc).halt idx⟩)
    fun hc => hc.halt idx

/-! ## Closing the streams of a handle -/

/-- `uvc_release_if`, as a rule: `P` up to the call of `libusb_release_interface`, `Q` from there
on. -/
theorem releaseIf_rule {rely : World DevHandle UsbCall → World DevHandle UsbCall → Prop}
    {P Q : World DevHandle UsbCall → Prop} {idx : Nat} (hP : Stable rely P) (hQ : Stable rely Q)
    (hfree : ∀ w, P w → Mask.has w.state.claimed idx = false → Q w)
    (hsetting : ∀ w r, P w → P (w.note (.setInterfaceAltSetting idx) r))
    (hrelease : ∀ w r, P w → Q (w.note (.releaseInterface idx) r))
    (hclear : ∀ w, Q w →
      Q (w.update fun d => { d with claimed := Mask.erase d.claimed idx }))
    (hattach : ∀ w r, Q w → Q (w.note (.attachKernelDriver idx) r))
    (hdisarm : ∀ w g, Q w → Q (w.update fun d => { d with reattachGuard := g })) :
    Meets rely P (releaseIf idx) (fun _ => Q) := by
  have hback : ∀ a : Ret, Meets rely Q (pure a) (fun _ => Q) := fun _ => meets_pure hQ fun _ h => h
  rw [releaseIf]
  refine meets_load_bind hP fun s => ?_
  split
  · rename_i hunclaimed
    refine (hback _).pre ?_
    rintro w ⟨h, rfl⟩
    exact hfree w h (by simpa using hunclaimed)
  refine Meets.pre ?_ fun w h => h.1
  refine meets_ask_bind hP (R := fun _ => P) hsetting fun _ => ?_
  refine meets_ask_bind hP (R := fun _ => Q) hrelease fun ret => ?_
  split
  · refine meets_update_bind hQ hclear ?_
    refine meets_ask_bind hQ (R := fun _ => Q) hattach fun attach => ?_
    split
    · refine meets_update_bind hQ (fun w h => ?_) (hback _)
      obtain ⟨g, hg⟩ := disarm_eq idx w.state
      rw [World.update, hg]
      exact hdisarm w g h
    · exact hback _
  · exact hback _

/-- `uvc_release_if` does not look at what `Calm` is about. -/
theorem releaseIf_calm {ifs : Nat → Prop} (idx : Nat) :
    Meets EventThread (Calm ifs) (releaseIf idx) (fun _ => Calm ifs) := by
  refine releaseIf_rule Calm.stable Calm.stable (fun w h _ => h) (fun w r h => h.note _ r)
    (fun w r h => h.note _ r) (fun w h => ?_) (fun w r h => h.note _ r) fun w g h => ?_
  · exact ⟨h.counted, h.noStream, h.noStatus, h.idle, h.drained⟩
  · exact ⟨h.counted, h.noStream, h.noStatus, h.idle, h.drained⟩

/-- `uvc_release_if` on an interface that is not claimed. -/
theorem releaseIf_unclaimed {P : World DevHandle UsbCall → Prop} (hst : Stable EventThread P)
    {idx : Nat} (hfree : ∀ w, P w → Mask.has w.state.claimed idx = false) :
    Meets EventThread P (releaseIf idx) (fun _ => P) := by
  rw [releaseIf]
  refine meets_load_bind hst fun s => ?_
  split
  · exact (meets_pure hst fun _ h => h).pre fun w h => h.1
  · rename_i hcl
    rintro w ⟨h, rfl⟩
    rw [hfree w h] at hcl
    exact absurd rfl hcl

/-- A stream that is unlinked takes its own transfers with it. -/
theorem Calm.unlink {p q : Nat → Prop} (h : Calm p w) (idx : Nat)
    (hq : ∀ i, q i → p i ∧ i ≠ idx) :
    Calm q (w.update fun d => { d with streams := d.streams.eraseP fun s => s.ifNum = idx }) :=
  { h with drained := fun i hi =>
      (inFlightOn_eraseP w.state (hq i hi).2).trans (h.drained i (hq i hi).1) }

/-- **Closing one stream.** -/
theorem streamClose_fated (wakes : Nat) {idx : Nat} (hnodup : (idx :: ifs).Nodup) :
    Meets EventThread (Fated d (idx :: ifs)) (streamClose wakes idx) (fun _ => Fated d ifs) := by
  obtain ⟨hidx, -⟩ := List.nodup_cons.1 hnodup
  have hback : Meets EventThread (Fated d ifs) (pure () : DevProg Unit) (fun _ => Fated d ifs) :=
    meets_pure Fated.stable fun _ h => h
  have hrest : ∀ i, i ∈ ifs → i ∈ idx :: ifs ∧ i ≠ idx :=
    fun i hi => ⟨List.mem_cons_of_mem _ hi, fun he => hidx (he ▸ hi)⟩
  rw [streamClose]
  refine meets_load_bind Fated.stable fun s => Meets.pre ?_ fun w h => h.1
  refine (stopIfRunning_meets (Fated.undisturbed idx) wakes _).bind fun _ => ?_
  refine meets_load_bind Fated.stable fun s => ?_
  by_cases hflight : inFlightOn s idx ≠ 0
  · -- quarantined: nothing was handed back, and no stream behind it can do so
    simp only [if_pos hflight]
    rintro w ⟨h | h, rfl⟩
    · have hnone : ∀ i ∈ ifs, Mask.has d.claimed i ≠ true := fun i hi hc => hflight <|
        (h.only i (hrest i hi).1 hc).drained idx ⟨List.mem_cons_self, Ne.symm (hrest i hi).2⟩
      refine meets_update_bind Untouched.stable (R := Untouched d) (fun w h => h.update rfl rfl) ?_
        w h.untouched
      refine meets_update_bind Untouched.stable (fun w h => ?_) hback
      exact Or.inl ⟨h.update rfl rfl, fun i hi hc => absurd hc (hnone i hi)⟩
    · exact absurd (h.drained idx List.mem_cons_self) hflight
  · simp only [if_neg hflight]
    rw [not_not] at hflight
    have hcalm : Meets EventThread (Calm (· ∈ idx :: ifs))
        (do update fun d => { d with streams := d.streams.eraseP fun s => s.ifNum = idx }
            let _ ← releaseIf idx
            return ()) (fun _ => Fated d ifs) := by
      refine meets_update_bind Calm.stable (fun w h => h.unlink idx hrest) ?_
      exact (releaseIf_calm idx).bind fun _ => hback.pre fun w h => Or.inr h
    have hpend : Mask.has d.claimed idx = false → Meets EventThread (Pending d (idx :: ifs))
        (do update fun d => { d with streams := d.streams.eraseP fun s => s.ifNum = idx }
            let _ ← releaseIf idx
            return ()) (fun _ => Fated d ifs) := by
      intro hfree
      refine meets_update_bind Pending.stable (R := Pending d ifs) (fun w h => ?_) ?_
      · refine ⟨h.untouched.update rfl rfl, fun i hi hc => ?_⟩
        exact (h.only i (hrest i hi).1 hc).unlink idx
          fun j hj => ⟨⟨(hrest j hj.1).1, hj.2⟩, (hrest j hj.1).2⟩
      · refine (releaseIf_unclaimed Pending.stable fun w h => ?_).bind fun _ => ?_
        · rw [h.untouched.claimed, hfree]
        · exact hback.pre fun w h => Or.inl h
    rintro w ⟨h | h, rfl⟩
    · cases hclaimed : Mask.has d.claimed idx with
      | false => exact hpend hclaimed w h
      | true =>
        -- about to be released: nothing else is left behind
        have hothers := h.only idx List.mem_cons_self hclaimed
        refine hcalm w { hothers with drained := fun i hi => ?_ }
        by_cases hi' : i = idx
        · rw [hi', hflight]
        · exact hothers.drained i ⟨hi, hi'⟩
    · exact hcalm w h

theorem streamCloseAll_fated (wakes : Nat) (hnodup : ifs.Nodup) :
    Meets EventThread (Fated d ifs) (streamCloseAll wakes ifs) (fun _ => Fated d []) := by
  induction ifs with
  | nil => exact meets_pure Fated.stable fun _ h => h
  | cons idx ifs ih =>
    exact (streamClose_fated wakes hnodup).bind fun _ => ih (List.nodup_cons.1 hnodup).2

/-! ## The whole close -/

/-- The state of affairs when the close begins: the streams are those of `d`. -/
structure Entered (d : DevHandle) (w : World DevHandle UsbCall) : Prop where
  fated : Fated d (d.streams.map OpenStream.ifNum) w
  streams : w.state.streams.map OpenStream.ifNum = d.streams.map OpenStream.ifNum

theorem map_ifNum_transferFreed (idx : Nat) (d : DevHandle) :
    (transferFreed idx d).streams.map OpenStream.ifNum = d.streams.map OpenStream.ifNum := by
  rw [transferFreed, List.map_map]
  congr 1
  funext s
  rw [Function.comp_apply]
  split <;> rfl

theorem Entered.stable : Stable EventThread (Entered d) := by
  intro w u h hr
  refine ⟨Fated.stable w u h.fated hr, ?_⟩
  cases hr with
  | freed idx => exact (map_ifNum_transferFreed idx w.state).trans h.streams
  | status e x sub he => exact h.streams

theorem stopStreaming_fated (wakes : Nat) (hnodup : (d.streams.map OpenStream.ifNum).Nodup) :
    Meets EventThread (Entered d) (stopStreaming wakes) (fun _ => Fated d []) := by
  rw [stopStreaming]
  refine meets_load_bind Entered.stable fun s => ?_
  rintro w ⟨h, rfl⟩
  rw [h.streams]
  exact streamCloseAll_fated wakes hnodup w h.fated

/-- What `uvc_stop_status_xfer` does not disturb. -/
theorem stopStatusXfer_keeps {rely : World DevHandle UsbCall → World DevHandle UsbCall → Prop}
    {P : World DevHandle UsbCall → Prop} (hP : Stable rely P)
    (hbegin : ∀ w, P w → P (w.update fun d => { d with status := d.status.beginStop }))
    (hcancel : ∀ w r, P w → P (w.note .cancelStatusXfer r)) :
    Meets rely P stopStatusXfer (fun _ => P) := by
  have hback : ∀ b : Bool, Meets rely P (pure b) (fun _ => P) := fun _ => meets_pure hP fun _ h => h
  have hpoll : ∀ n, Meets rely P (statusPollLoop n) (fun _ => P) := by
    intro n
    induction n with
    | zero => exact hback false
    | succ n ih =>
      refine meets_load_bind hP fun s => Meets.pre ?_ fun w h => h.1
      split
      · exact ih
      · exact hback true
  rw [stopStatusXfer]
  refine meets_load_bind hP fun s => Meets.pre ?_ fun w h => h.1
  split
  · exact hback true
  refine meets_fetch_bind hP (R := fun _ => P) hbegin fun s => ?_
  split
  · exact meets_ask_bind hP hcancel fun _ => hpoll _
  · exact hback true

/-- The status transfer either is idle and known to be, or nothing has been handed back. -/
theorem stopStatusXfer_fated :
    Meets EventThread (Fated d []) stopStatusXfer (fun stopped w =>
      Untouched d w ∨ stopped = true ∧ Calm (fun _ => False) w) := by
  have huntouched : Meets EventThread (Untouched d) stopStatusXfer (fun _ => Untouched d) :=
    stopStatusXfer_keeps Untouched.stable (fun w h => h.update rfl rfl) fun w r h => h.note rfl
  have hcalm : Meets EventThread (Calm fun _ => False) stopStatusXfer
      (fun stopped w => stopped = true ∧ Calm (fun _ => False) w) := by
    rw [stopStatusXfer]
    refine meets_load_bind Calm.stable fun s => Meets.pre ?_ fun w h => h.1
    split
    · exact meets_pure Calm.stable fun _ h => ⟨rfl, h⟩
    refine meets_fetch_bind Calm.stable
      (R := fun s w => s.status.submitted = false ∧ Calm (fun _ => False) w)
      (fun w h => ⟨h.idle, h.counted, h.noStream, h.noStatus, h.idle, h.drained⟩) fun s => ?_
    split
    · rename_i hsub
      rintro w ⟨hidle, -⟩
      rw [hidle] at hsub
      cases hsub
    · exact (meets_pure Calm.stable fun _ h => ⟨rfl, h⟩).pre fun w h => h.2
  rintro w (h | h)
  · exact (huntouched w h.untouched).mono fun _ _ hu => Or.inl hu
  · exact (hcalm w { h with drained := fun i hi => hi.elim }).mono fun _ _ hu => Or.inr hu

/-- A close that is quarantined has handed nothing back. -/
theorem close_fated (wakes : Nat) (hnodup : (d.streams.map OpenStream.ifNum).Nodup) :
    Meets EventThread (Entered d) (close wakes) (fun quarantined w =>
      quarantined = true → Untouched d w) := by
  rw [close]
  refine meets_load_bind Entered.stable fun s => ?_
  refine Meets.bind (R := fun _ => Fated d []) ?_ fun _ => ?_
  · rintro w ⟨h, rfl⟩
    by_cases hnil : w.state.streams = []
    · have hd : d.streams.map OpenStream.ifNum = [] := by rw [← h.streams, hnil, List.map_nil]
      have hfated := h.fated
      rw [hd] at hfated
      simp only [hnil, ne_eq, not_true_eq_false, decide_false]
      exact meets_pure Fated.stable (fun _ h => h) w hfated
    · simp only [ne_eq, hnil, not_false_eq_true, decide_true]
      exact stopStreaming_fated wakes hnodup w h
  refine stopStatusXfer_fated.bind fun stopped => ?_
  -- from here on the handle is released only if it is calm, and then it is not quarantined
  have hst : Stable EventThread fun w =>
      Untouched d w ∨ stopped = true ∧ Calm (fun _ => False) w := by
    rintro w u (h | ⟨hs, h⟩) hr
    · exact Or.inl (Untouched.stable w u h hr)
    · exact Or.inr ⟨hs, Calm.stable w u h hr⟩
  refine Meets.bind (R := fun _ w => Untouched d w ∨ stopped = true ∧ Calm (fun _ => False) w) ?_
    fun _ => ?_
  · refine meets_when hst (fun hs => meets_update hst hst ?_) fun _ _ h => h
    rintro w (h | ⟨hs', -⟩)
    · exact Or.inl (h.update rfl rfl)
    · rw [hs'] at hs
      cases hs
  · refine meets_load_bind hst fun s => ?_
    split
    · rename_i hflags
      rintro w ⟨h | ⟨-, h⟩, rfl⟩
      · exact meets_pure Untouched.stable (fun _ h _ => h) w h
      · rw [h.noStream, h.noStatus] at hflags
        cases hflags
    · refine Meets.pre (P := fun _ => True) ?_ fun _ _ => trivial
      refine (meets_true releaseClaimedIfs).bind fun _ => ?_
      exact meets_ask_bind (fun _ _ _ _ => trivial) (R := fun _ _ => True) (fun _ _ _ => trivial)
        fun _ => meets_pure (fun _ _ _ _ => trivial) fun _ _ hq => absurd hq (by simp)

/-! ## A close that hands something back -/

/-- An interface has been handed back. -/
def HandedBack (w : World DevHandle UsbCall) : Prop := ∃ e ∈ w.log, handsBack e.1 = true

/-- Something will be left behind, unless libusb gives it back in time. -/
def Reason (ifs : Nat → Prop) (d : DevHandle) : Prop :=
  d.hasQuarantinedStream = true ∨ d.hasQuarantinedStatusXfer = true ∨
    (d.status.allocated = true ∧ d.status.submitted = true) ∨
    ∃ j, ifs j ∧ inFlightOn d j ≠ 0

/-- Left alone, the close will hand back the interface `i` and be quarantined all the same. -/
structure Doomed (i : Nat) (ifs : List Nat) (w : World DevHandle UsbCall) : Prop where
  ahead : i ∈ ifs → inFlightOn w.state i = 0 ∧ Mask.has w.state.claimed i = true
  done : i ∉ ifs → HandedBack w
  reason : Reason (· ∈ ifs) w.state

variable {i : Nat}

theorem HandedBack.note (h : HandedBack w) (k : UsbCall) (r : Int) : HandedBack (w.note k r) := by
  obtain ⟨e, he, hb⟩ := h
  exact ⟨e, List.mem_append_left _ he, hb⟩

theorem Doomed.note (h : Doomed i ifs w) (k : UsbCall) (r : Int) : Doomed i ifs (w.note k r) :=
  ⟨h.ahead, fun hi => (h.done hi).note k r, h.reason⟩

theorem Doomed.undisturbed (idx : Nat) : Undisturbed alone idx (Doomed i ifs) where
  stable := Stable.alone
  cancel _ r h := h.note _ r
  wait _ r h := h.note _ r
  halt w h := by
    refine ⟨fun hi => ?_, h.done, ?_⟩
    · rw [World.update_state, inFlightOn_halt]
      exact h.ahead hi
    · refine h.reason.imp id (Or.imp id (Or.imp id ?_))
      rintro ⟨j, hj, hne⟩
      exact ⟨j, hj, by rwa [World.update_state, inFlightOn_halt]⟩

/-- The reason is not the stream on `idx` if that has no transfers. -/
theorem Reason.unlink {idx : Nat} (h : Reason (· ∈ idx :: ifs) d) (hzero : inFlightOn d idx = 0) :
    Reason (· ∈ ifs) { d with streams := d.streams.eraseP fun s => s.ifNum = idx } := by
  refine h.imp id (Or.imp id (Or.imp id ?_))
  rintro ⟨j, hj, hne⟩
  have hji : j ≠ idx := fun he => hne (he ▸ hzero)
  exact ⟨j, (List.mem_cons.1 hj).resolve_left hji, by rwa [inFlightOn_eraseP d hji]⟩

/-- What lies ahead of `i` is the same after a stream on another interface has been unlinked. -/
theorem Doomed.unlink {idx : Nat} {u : World DevHandle UsbCall} (h : Doomed i (idx :: ifs) w)
    (hne : i ≠ idx) (hstreams : u.state.streams = w.state.streams.eraseP fun s => s.ifNum = idx)
    (hclaimed : u.state.claimed = w.state.claimed) (hlog : u.log = w.log)
    (hreason : Reason (· ∈ ifs) u.state) : Doomed i ifs u := by
  have hflight : inFlightOn u.state i = inFlightOn w.state i := by
    rw [← inFlightOn_eraseP w.state hne, inFlightOn, inFlightOn, streamOn, streamOn, hstreams]
  refine ⟨fun hi => ?_, fun hi => ?_, hreason⟩
  · rw [hflight, hclaimed]
    exact h.ahead (List.mem_cons_of_mem _ hi)
  · rw [HandedBack, hlog]
    exact h.done fun hm => hi ((List.mem_cons.1 hm).resolve_left hne)

theorem releaseIf_doomed {idx : Nat} (hne : i ≠ idx) :
    Meets alone (Doomed i ifs) (releaseIf idx) (fun _ => Doomed i ifs) := by
  refine releaseIf_rule Stable.alone Stable.alone (fun w h _ => h) (fun w r h => h.note _ r)
    (fun w r h => h.note _ r) (fun w h => ⟨fun hi => ?_, h.done, h.reason⟩)
    (fun w r h => h.note _ r) fun w g h => ⟨h.ahead, h.done, h.reason⟩
  exact ⟨(h.ahead hi).1, (Mask.has_erase_of_ne hne).trans (h.ahead hi).2⟩

theorem streamClose_doomed (wakes : Nat) {idx : Nat} (hnodup : (idx :: ifs).Nodup) :
    Meets alone (Doomed i (idx :: ifs)) (streamClose wakes idx) (fun _ => Doomed i ifs) := by
  obtain ⟨hidx, -⟩ := List.nodup_cons.1 hnodup
  have hback : Meets alone (Doomed i ifs) (pure () : DevProg Unit) (fun _ => Doomed i ifs) :=
    meets_pure Stable.alone fun _ h => h
  rw [streamClose]
  refine meets_load_bind Stable.alone fun s => Meets.pre ?_ fun w h => h.1
  refine (stopIfRunning_meets (Doomed.undisturbed idx) wakes _).bind fun _ => ?_
  refine meets_load_bind Stable.alone fun s => ?_
  rintro w ⟨h, rfl⟩
  by_cases hflight : inFlightOn w.state idx ≠ 0
  · -- quarantined, so it is not the stream on `i`
    simp only [if_pos hflight]
    have hne : i ≠ idx := fun he => hflight (he ▸ (h.ahead (he ▸ List.mem_cons_self)).1)
    refine meets_update_bind (P := fun u => u = w) Stable.alone (R := fun u => u = w.update _)
      (fun u hu => by rw [hu]) ?_ w rfl
    refine meets_update_bind Stable.alone (fun u hu => ?_) hback
    subst hu
    exact h.unlink hne rfl rfl rfl (Or.inl rfl)
  · simp only [if_neg hflight]
    rw [not_not] at hflight
    have hreason := h.reason.unlink hflight
    by_cases hi : i = idx
    · -- the stream on `i`: it is released
      subst hi
      refine meets_update_bind (P := fun u => u = w) Stable.alone
        (R := fun u => Mask.has u.state.claimed i = true ∧ Reason (· ∈ ifs) u.state)
        (fun u hu => ?_) ?_ w rfl
      · subst hu
        exact ⟨(h.ahead List.mem_cons_self).2, hreason⟩
      refine (releaseIf_rule (Q := fun u => HandedBack u ∧ Reason (· ∈ ifs) u.state)
        Stable.alone Stable.alone (fun u hu hf => ?_) (fun u r hu => hu) (fun u r hu => ?_)
        (fun u hu => hu) (fun u r hu => ⟨hu.1.note _ r, hu.2⟩) fun u g hu => hu).bind fun _ => ?_
      · rw [hu.1] at hf
        cases hf
      · exact ⟨⟨_, List.mem_append_right _ List.mem_cons_self, rfl⟩, hu.2⟩
      · exact hback.pre fun u hu => ⟨fun hm => absurd hm hidx, fun _ => hu.1, hu.2⟩
    · refine meets_update_bind (P := fun u => u = w) Stable.alone (R := Doomed i ifs)
        (fun u hu => ?_) ?_ w rfl
      · subst hu
        exact h.unlink hi rfl rfl rfl hreason
      · exact (releaseIf_doomed hi).bind fun _ => hback

theorem streamCloseAll_doomed (wakes : Nat) (hnodup : ifs.Nodup) :
    Meets alone (Doomed i ifs) (streamCloseAll wakes ifs) (fun _ => Doomed i []) := by
  induction ifs with
  | nil => exact meets_pure Stable.alone fun _ h => h
  | cons idx ifs ih =>
    exact (streamClose_doomed wakes hnodup).bind fun _ => ih (List.nodup_cons.1 hnodup).2

/-- A status transfer that nobody completes is not stopped. -/
theorem statusPollLoop_stuck (n : Nat) :
    Meets alone (fun w => HandedBack w ∧ w.state.status.submitted = true) (statusPollLoop n)
      (fun stopped w => HandedBack w ∧ stopped = false) := by
  induction n with
  | zero => exact meets_pure Stable.alone fun w h => ⟨h.1, rfl⟩
  | succ n ih =>
    rw [statusPollLoop]
    refine meets_load_bind Stable.alone fun s => ?_
    rintro w ⟨h, rfl⟩
    rw [if_pos h.2]
    exact ih w h

/-- The handle is marked already, or about to be. -/
def Marked (stopped : Bool) (d : DevHandle) : Prop :=
  d.hasQuarantinedStream = true ∨ d.hasQuarantinedStatusXfer = true ∨ stopped = false

theorem stopStatusXfer_doomed :
    Meets alone (Doomed i []) stopStatusXfer
      (fun stopped w => HandedBack w ∧ Marked stopped w.state) := by
  have hmarked : ∀ b, Meets alone (fun w => HandedBack w ∧
        (w.state.hasQuarantinedStream || w.state.hasQuarantinedStatusXfer) = b)
      stopStatusXfer (fun _ w => HandedBack w ∧
        (w.state.hasQuarantinedStream || w.state.hasQuarantinedStatusXfer) = b) :=
    fun b => stopStatusXfer_keeps Stable.alone (fun w h => h) fun w r h => ⟨h.1.note _ r, h.2⟩
  intro w h
  have hback := h.done List.not_mem_nil
  rcases h.reason with hs | hs | ⟨ha, hs⟩ | ⟨j, hj, -⟩
  · refine (hmarked true w ⟨hback, by rw [hs]; rfl⟩).mono fun stopped u hu => ⟨hu.1, ?_⟩
    exact (Bool.or_eq_true_iff.1 hu.2).imp id Or.inl
  · refine (hmarked true w ⟨hback, by rw [hs, Bool.or_true]⟩).mono fun stopped u hu => ⟨hu.1, ?_⟩
    exact (Bool.or_eq_true_iff.1 hu.2).imp id Or.inl
  · rw [stopStatusXfer]
    refine meets_load_bind (P := fun u => u = w) Stable.alone (fun s => ?_) w rfl
    rintro u ⟨rfl, rfl⟩
    rw [ha]
    refine meets_fetch_bind (P := fun v => v = u) Stable.alone (R := fun s v =>
      s.status.submitted = true ∧ HandedBack v ∧ v.state.status.submitted = true)
      (fun v hv => by rw [hv]; exact ⟨hs, hback, hs⟩) (fun s => ?_) u rfl
    rintro v ⟨hsub, hv⟩
    rw [hsub]
    refine meets_ask_bind (P := fun x => HandedBack x ∧ x.state.status.submitted = true)
      Stable.alone (R := fun _ x => HandedBack x ∧ x.state.status.submitted = true)
      (fun x r hx => ⟨hx.1.note _ r, hx.2⟩) (fun _ => ?_) v hv
    exact Keeps.post (statusPollLoop_stuck _) fun stopped u hu => ⟨hu.1, Or.inr (Or.inr hu.2)⟩
  · cases hj

/-- The close, left alone with a doomed handle. -/
theorem close_doomed (wakes : Nat) {w : World DevHandle UsbCall}
    (hnodup : (w.state.streams.map OpenStream.ifNum).Nodup)
    (hmem : i ∈ w.state.streams.map OpenStream.ifNum)
    (h : Doomed i (w.state.streams.map OpenStream.ifNum) w) :
    Meets alone (fun u => u = w) (close wakes)
      (fun quarantined u => quarantined = true ∧ HandedBack u) := by
  have hne : w.state.streams ≠ [] := fun hnil => by
    rw [hnil] at hmem
    cases hmem
  rw [close]
  refine meets_load_bind Stable.alone fun s => ?_
  rintro u ⟨rfl, rfl⟩
  refine sat_bind (R := fun _ => Doomed i []) ?_ fun _ v hv => ?_
  · simp only [ne_eq, hne, not_false_eq_true, decide_true]
    refine meets_load_bind (P := fun v => v = u) Stable.alone (fun s => ?_) u rfl
    rintro v ⟨rfl, rfl⟩
    exact streamCloseAll_doomed wakes hnodup v h
  refine sat_bind (stopStatusXfer_doomed v hv) fun stopped x hx => ?_
  refine sat_bind (R := fun _ y => HandedBack y ∧
    (y.state.hasQuarantinedStream || y.state.hasQuarantinedStatusXfer) = true) ?_ fun _ y hy => ?_
  · cases stopped with
    | true =>
      refine meets_pure Stable.alone (fun _ h => h) x ⟨hx.1, ?_⟩
      exact Bool.or_eq_true_iff.2 (hx.2.imp id fun h => h.resolve_right (by simp))
    | false =>
      refine meets_update Stable.alone Stable.alone (P := fun y => y = x) (fun y hy => ?_) x rfl
      rw [hy]
      exact ⟨hx.1, Bool.or_true _⟩
  · refine meets_load_bind (P := fun z => z = y) Stable.alone (fun s => ?_) y rfl
    rintro z ⟨rfl, rfl⟩
    rw [if_pos hy.2]
    exact meets_pure Stable.alone (fun _ h => ⟨rfl, h⟩) z hy.1

/-! ## The condition -/

/-- libusb gives back `n` transfers of the stream on `idx`. -/
theorem iterate_transferFreed (idx n : Nat) (d : DevHandle) :
    let D := (transferFreed idx)^[n] d
    D.claimed = d.claimed ∧ D.status = d.status ∧
      D.hasQuarantinedStream = d.hasQuarantinedStream ∧
      D.hasQuarantinedStatusXfer = d.hasQuarantinedStatusXfer ∧
      D.streams.map OpenStream.ifNum = d.streams.map OpenStream.ifNum ∧
      ∀ j, inFlightOn D j = if j = idx then inFlightOn d j - n else inFlightOn d j := by
  induction n with
  | zero => exact ⟨rfl, rfl, rfl, rfl, rfl, fun j => by split <;> rfl⟩
  | succ n ih =>
    simp only [Function.iterate_succ_apply']
    obtain ⟨hclaimed, hstatus, hstream, hxfer, hifs, hflight⟩ := ih
    refine ⟨hclaimed, hstatus, hstream, hxfer, (map_ifNum_transferFreed idx _).trans hifs,
      fun j => ?_⟩
    rw [inFlightOn_transferFreed, hflight]
    split
    · omega
    · rfl

theorem steps_transferFreed {α : Type} (p : DevProg α) (idx n : Nat) (d : DevHandle) :
    Relation.ReflTransGen (Step EventThread) (p, ⟨d, []⟩) (p, ⟨(transferFreed idx)^[n] d, []⟩) := by
  induction n with
  | zero => exact .refl
  | succ n ih =>
    rw [Function.iterate_succ_apply']
    exact ih.tail (.env p (.freed _ idx))

/-- **What a quarantined close hands back.**  From any state that opening the device and any run of
status callbacks can have left the status transfer in, with any claimed and armed interfaces and at
most one stream on each interface: a close that ends in quarantine has handed nothing back, however
the completions fall, exactly when for every stream on a claimed interface nothing but that stream
could be left behind to begin with. -/
theorem close_handsNothingBack_iff (d : DevHandle)
    (hnodup : (d.streams.map OpenStream.ifNum).Nodup) (endpoint : Bool) (s : StatusSystem)
    (hstatus : Reachable StatusSystem.step (.initial endpoint) s) (hxfer : d.status = s.xfer) :
    HandsNothingBack d ↔
      ∀ t ∈ d.streams, Mask.has d.claimed t.ifNum = true → OnlyStreamLeft d t := by
  have hsound : s.Sound := hstatus.invariant (StatusSystem.initial_sound endpoint)
    fun _ _ _ hu hw => hu.step hw
  constructor
  · intro hnothing t ht hclaimed
    by_contra hnot
    obtain ⟨hcl, hst, hqs, hqx, hifs, hflight⟩ := iterate_transferFreed t.ifNum t.inFlight d
    have hreason : Reason (· ∈ d.streams.map OpenStream.ifNum)
        ((transferFreed t.ifNum)^[t.inFlight] d) := by
      by_contra hno
      simp only [Reason, not_or, not_and, not_exists, not_not, hst, hqs, hqx, hflight] at hno
      obtain ⟨h1, h2, h3, h4⟩ := hno
      refine hnot ⟨by simpa using h1, by simpa using h2, ?_, fun r hr hne => ?_⟩
      · cases ha : d.status.allocated with
        | true => simpa using h3 ha
        | false =>
          rw [hxfer] at ha ⊢
          exact hsound.absent ha
      · have hzero := h4 r.ifNum (List.mem_map_of_mem hr)
        rwa [if_neg hne, inFlightOn_of_mem hnodup hr] at hzero
    have hdoomed : Doomed t.ifNum (d.streams.map OpenStream.ifNum)
        ⟨(transferFreed t.ifNum)^[t.inFlight] d, []⟩ := by
      refine ⟨fun _ => ⟨?_, by rw [hcl]; exact hclaimed⟩,
        fun hno => absurd (List.mem_map_of_mem ht) hno, hreason⟩
      rw [hflight, if_pos rfl, inFlightOn_of_mem hnodup ht, Nat.sub_self]
    have hmem := List.mem_map_of_mem (f := OpenStream.ifNum) ht
    rw [← hifs] at hdoomed hnodup hmem
    obtain ⟨quarantined, u, hrun, rfl, e, he, hback⟩ :=
      (close_doomed (w := ⟨(transferFreed t.ifNum)^[t.inFlight] d, []⟩) 0 hnodup hmem
        hdoomed).exists_run rfl
    have hkept := (hnothing 0 u ((steps_transferFreed _ _ _ d).trans hrun)).2.2 e he
    rw [hback] at hkept
    cases hkept
  · intro hcond wakes u hrun
    have hentered : Entered d ⟨d, []⟩ := by
      refine ⟨Or.inl ⟨⟨rfl, rfl, fun e he => by cases he⟩, fun i hi hc => ?_⟩, rfl⟩
      obtain ⟨t, ht, rfl⟩ := List.mem_map.1 hi
      have honly := hcond t ht hc
      refine ⟨hxfer ▸ hsound.counted, honly.noStream, honly.noStatus, honly.idle, ?_⟩
      rintro j ⟨hj, hne⟩
      obtain ⟨r, hr, rfl⟩ := List.mem_map.1 hj
      rw [inFlightOn_of_mem hnodup hr]
      exact honly.others r hr hne
    have huntouched := (close_fated wakes hnodup).sound hentered hrun rfl
    refine ⟨huntouched.claimed, ?_, huntouched.log⟩
    rw [reattachGuardArmedMask, reattachGuardArmedMask, huntouched.guard]

/-- A stream on interface 1 with two transfers under way, behind an idle one on interface 2, which
is not claimed any more. -/
def unclaimedFirst : DevHandle where
  claimed := 0b11#32
  reattachGuard := some 0b11#32
  streams := [⟨2, false, 0⟩, ⟨1, true, 2⟩]

/-- Its close may end in quarantine, and then hands nothing back. -/
theorem unclaimedFirst_handsNothingBack :
    (∃ u, Relation.ReflTransGen (Step EventThread) (close 6, ⟨unclaimedFirst, []⟩) (.ret true, u)) ∧
      HandsNothingBack unclaimedFirst :=
  ⟨⟨_, steps_runWith (close 6) [0, 0, 1, 1, 1, 1, 1] _⟩,
    (close_handsNothingBack_iff unclaimedFirst (by decide) false (.initial false)
      (Reachable.refl _) rfl).2 (by decide)⟩

/-- Two streams, an idle one on interface 1 and one on interface 2 with a transfer under way. -/
def twoStreams : DevHandle where
  claimed := 0b111#32
  reattachGuard := some 0b111#32
  streams := [⟨1, false, 0⟩, ⟨2, true, 1⟩]

/-- The first is closed, released and attached; then the second times out. -/
def twoStreamsClosed : World DevHandle UsbCall :=
  (runWith (close 6) [0, 0, 0, 0, 1, 1, 1, 1, 1] ⟨twoStreams, []⟩).2

theorem twoStreams_handsBack : ¬ HandsNothingBack twoStreams := by
  intro h
  have hrun := (h 6 twoStreamsClosed (steps_runWith (close 6) [0, 0, 0, 0, 1, 1, 1, 1, 1] _)).1
  exact absurd hrun (by decide)

end Device
end LibUvc
