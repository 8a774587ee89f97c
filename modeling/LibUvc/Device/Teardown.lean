import LibUvc.Device.Close
import LibUvc.Device.Guard

/-!
# The order of a teardown

Handing VideoControl back to the kernel makes the driver probe the whole function, so by then every
other interface has to be free, the status transfer has to be over for good, and nothing may follow
but the end of the libusb handle.  `inOrder` says what a call may come after, which is the whole of
the order: a log in which every call was `inOrder` when it was made is a teardown in order.

Two code paths release interfaces, the close of a stream and the sweep over the claimed mask, and a
release that fails is tried again by the other; meanwhile the event thread submits the status
transfer until it is told not to.  `Tidy` is what holds of the handle and the log between any two
steps of all this.  It is kept by the event thread (`Tidy.stable`) and by each of the calls, so that
the proof about `uvc_close` only has to walk through the code.  `close_teardown` is the result.
-/

set_option autoImplicit false

namespace LibUvc
namespace Device

open Prog Transition

/-! ## What a log says -/

/-- `libusb_release_interface(idx)` has been called. -/
def released (idx : Nat) (log : UsbLog) : Bool := log.any fun e => e.1 == .releaseInterface idx

/-- `libusb_attach_kernel_driver(idx)` has been called. -/
def attached (idx : Nat) (log : UsbLog) : Bool := log.any fun e => e.1 == .attachKernelDriver idx

/-- `libusb_close` has been called. -/
def closed (log : UsbLog) : Bool := log.any fun e => e.1 == .close

/-- How often `libusb_release_interface(idx)` has been called. -/
def releases (idx : Nat) (log : UsbLog) : Nat := log.countP fun e => e.1 == .releaseInterface idx

/-- How one call changes which interface still waits for its driver. -/
def noteRelease (waiting : Option Nat) : UsbCall × Int → Option Nat
  | (.releaseInterface idx, r) => if r = Ret.success then some idx else waiting
  | (.attachKernelDriver idx, _) => if waiting = some idx then none else waiting
  | _ => waiting

/-- The interface that was released last, as long as no driver has been attached to it since. -/
def unattached (log : UsbLog) : Option Nat := log.foldl noteRelease none

/-- What each call of a teardown may come after.  A submission of the status transfer comes before
the release of the VideoControl interface `c`; so do a release and an attach of any other interface;
a release also comes after the attach that goes with the last successful one; and nothing of this
comes after `libusb_close`. -/
def inOrder (c : Nat) (before : UsbLog) : UsbCall → Int → Bool
  | .submitStatusXfer, _ => !released c before && !closed before
  | .releaseInterface idx, _ =>
    (idx == c || !released c before) && !closed before && (unattached before).isNone
  | .attachKernelDriver idx, _ => (idx == c || !released c before) && !closed before
  | .close, _ => !closed before
  | _, _ => true

/-- The release calls succeed. -/
def releaseSucceeds (_ : UsbLog) : UsbCall → Int → Bool
  | .releaseInterface _, r => r == Ret.success
  | _, _ => true

section Snoc

variable (idx : Nat) (log : UsbLog) (k : UsbCall) (r : Int)

@[simp] theorem released_snoc :
    released idx (log ++ [(k, r)]) = (released idx log || k == .releaseInterface idx) := by
  simp [released]

@[simp] theorem attached_snoc :
    attached idx (log ++ [(k, r)]) = (attached idx log || k == .attachKernelDriver idx) := by
  simp [attached]

@[simp] theorem closed_snoc : closed (log ++ [(k, r)]) = (closed log || k == .close) := by
  simp [closed]

@[simp] theorem releases_snoc :
    releases idx (log ++ [(k, r)]) =
      releases idx log + if k = .releaseInterface idx then 1 else 0 := by
  simp [releases, List.countP_append, List.countP_singleton]

@[simp] theorem unattached_snoc :
    unattached (log ++ [(k, r)]) = noteRelease (unattached log) (k, r) := by
  rw [unattached, List.foldl_append]
  rfl

end Snoc

/-- The calls that neither release nor attach an interface nor close the handle. -/
def aside : UsbCall → Bool
  | .releaseInterface _ | .attachKernelDriver _ | .close => false
  | _ => true

section Aside

variable {k : UsbCall} (hk : aside k = true) (log : UsbLog) (r : Int)

include hk

theorem released_aside (idx : Nat) : released idx (log ++ [(k, r)]) = released idx log := by
  cases k <;> simp_all [aside]

theorem attached_aside (idx : Nat) : attached idx (log ++ [(k, r)]) = attached idx log := by
  cases k <;> simp_all [aside]

theorem closed_aside : closed (log ++ [(k, r)]) = closed log := by
  cases k <;> simp_all [aside]

theorem releases_aside (idx : Nat) : releases idx (log ++ [(k, r)]) = releases idx log := by
  cases k <;> simp_all [aside]

theorem unattached_aside : unattached (log ++ [(k, r)]) = unattached log := by
  rw [unattached_snoc]
  cases k <;> simp_all [aside, noteRelease]

theorem releaseSucceeds_aside : releaseSucceeds log k r = true := by
  cases k <;> simp_all [aside, releaseSucceeds]

end Aside

/-! ## The invariant -/

/-- What holds of a handle being torn down.

* `quiet`: the status transfer will not be submitted any more;
* `held`: nothing has been done to the VideoControl interface `c` yet;
* `waiting`: the interface that has been released and not attached;
* `unmarked`: the interface that has been released but is still in `claimed`;
* `swept`: the interfaces that have been released at least once if they were claimed.

`claimed₀` is the mask on entry. -/
structure Tidy (c : Nat) (claimed₀ : IfMask) (quiet held : Bool) (waiting unmarked : Option Nat)
    (swept : Nat → Prop) (w : World DevHandle UsbCall) : Prop where
  ctrlIf : w.state.ctrlIf = c
  counted : w.state.status.Counted
  absent : w.state.status.allocated = false → w.state.status.submitted = false
  isQuiet : quiet = true → w.state.status.stopping = true ∨ w.state.status.submitted = false
  streams : ∀ s ∈ w.state.streams, s.ifNum ≠ c
  order : Answers (inOrder c) w.log
  isWaiting : unattached w.log = waiting
  notClosed : closed w.log = false
  isHeld : held = true → released c w.log = false ∧ attached c w.log = false
  kept : ∀ i, Mask.has claimed₀ i = true →
    Mask.has w.state.claimed i = true ∨ 1 ≤ releases i w.log
  once : Answers releaseSucceeds w.log → ∀ i, Mask.has claimed₀ i = true →
    releases i w.log = if Mask.has w.state.claimed i && unmarked != some i then 0 else 1
  isSwept : ∀ i, swept i → Mask.has claimed₀ i = true → 1 ≤ releases i w.log

variable {c : Nat} {claimed₀ : IfMask} {quiet held : Bool} {waiting unmarked : Option Nat}
  {swept : Nat → Prop} {w : World DevHandle UsbCall}

/-- Changing what the teardown does not depend on. -/
theorem Tidy.update (h : Tidy c claimed₀ quiet held waiting unmarked swept w)
    {f : DevHandle → DevHandle} (hctrl : (f w.state).ctrlIf = w.state.ctrlIf)
    (hstatus : (f w.state).status = w.state.status)
    (hclaimed : (f w.state).claimed = w.state.claimed)
    (hstreams : ∀ s ∈ (f w.state).streams, s.ifNum ≠ c) :
    Tidy c claimed₀ quiet held waiting unmarked swept (w.update f) := by
  refine ⟨hctrl.trans h.ctrlIf, ?_, ?_, ?_, hstreams, h.order, h.isWaiting, h.notClosed, h.isHeld,
    ?_, ?_, h.isSwept⟩ <;> simp only [World.update_state, World.update_log, hstatus, hclaimed]
  · exact h.counted
  · exact h.absent
  · exact h.isQuiet
  · exact h.kept
  · exact h.once

theorem Tidy.weaken (h : Tidy c claimed₀ quiet held waiting unmarked swept w) {held' : Bool}
    (hh : held' = true → held = true) {swept' : Nat → Prop}
    (hs : ∀ i, swept' i → Mask.has claimed₀ i = true → swept i ∨ 1 ≤ releases i w.log) :
    Tidy c claimed₀ quiet held' waiting unmarked swept' w :=
  { h with
    isHeld := fun ht => h.isHeld (hh ht)
    isSwept := fun i hi hc => (hs i hi hc).elim (fun hsw => h.isSwept i hsw hc) id }

/-- A call that neither releases nor attaches an interface nor closes the handle. -/
theorem Tidy.note (h : Tidy c claimed₀ quiet held waiting unmarked swept w) {k : UsbCall} {r : Int}
    (hk : aside k = true) (hr : inOrder c w.log k r = true) :
    Tidy c claimed₀ quiet held waiting unmarked swept (w.note k r) := by
  refine ⟨h.ctrlIf, h.counted, h.absent, h.isQuiet, h.streams, answers_snoc.2 ⟨h.order, hr⟩,
    ?_, ?_, ?_, ?_, ?_, ?_⟩ <;>
    simp only [World.note_log, World.note_state, unattached_aside hk, closed_aside hk,
      released_aside hk, attached_aside hk, releases_aside hk, answers_snoc,
      releaseSucceeds_aside hk, and_true]
  · exact h.isWaiting
  · exact h.notClosed
  · exact h.isHeld
  · exact h.kept
  · exact h.once
  · exact h.isSwept

/-- The event thread keeps everything tidy: it submits the status transfer only while that is in
order. -/
theorem Tidy.stable (hqh : quiet = true ∨ held = true) :
    Stable EventThread (Tidy c claimed₀ quiet held waiting unmarked swept) := by
  intro w u h hr
  cases hr with
  | freed idx =>
    refine h.update rfl rfl rfl fun s hs => ?_
    obtain ⟨t, ht, rfl⟩ := List.mem_map.1 hs
    have hne := h.streams t ht
    split <;> exact hne
  | status e x sub he =>
    obtain ⟨halloc, hstop, hsub, hflag⟩ := h.counted.event_frame he
    have hquiet : quiet = true → w.state.status.stopping = true := fun hq =>
      (h.isQuiet hq).resolve_right (by simp [hflag])
    have hbase : Tidy c claimed₀ quiet held waiting unmarked swept
        (w.update fun d => { d with status := x }) :=
      { h with
        counted := h.counted.event he
        absent := fun ha => absurd (h.absent (halloc ▸ ha)) (by simp [hflag])
        isQuiet := fun hq => Or.inl (hstop.trans (hquiet hq)) }
    cases sub with
    | none =>
      rw [Option.toList_none, List.map_nil, List.append_nil]
      exact hbase
    | some r =>
      -- a submission: nobody is stopping the transfer, so `c` has not been touched
      have hheld : held = true := hqh.resolve_left fun hq => by
        simpa using hsub (hquiet hq)
      have hin : inOrder c w.log .submitStatusXfer r = true := by
        simp [inOrder, (h.isHeld hheld).1, h.notClosed]
      exact hbase.note rfl hin

theorem EventThread.claimed {w u : World DevHandle UsbCall} (h : EventThread w u) :
    u.state.claimed = w.state.claimed := by
  cases h <;> rfl

/-! ## `uvc_release_if` -/

section Disarm

variable (idx : Nat) (d : DevHandle)

theorem disarm_eq : ∃ g, reattachGuardDisarm idx d = { d with reattachGuard := g } := by
  cases hd : d.reattachGuard with
  | none =>
    refine ⟨none, ?_⟩
    simp only [reattachGuardDisarm, hd]
    rw [← hd]
  | some m =>
    simp only [reattachGuardDisarm, hd]
    split
    · exact ⟨d.reattachGuard, rfl⟩
    · exact ⟨_, rfl⟩

theorem disarm_ctrlIf : (reattachGuardDisarm idx d).ctrlIf = d.ctrlIf := by
  obtain ⟨g, hg⟩ := disarm_eq idx d
  rw [hg]

theorem disarm_status : (reattachGuardDisarm idx d).status = d.status := by
  obtain ⟨g, hg⟩ := disarm_eq idx d
  rw [hg]

theorem disarm_streams : (reattachGuardDisarm idx d).streams = d.streams := by
  obtain ⟨g, hg⟩ := disarm_eq idx d
  rw [hg]

end Disarm

/-- A call of `libusb_release_interface`. -/
theorem Tidy.release {idx : Nat} (h : Tidy c claimed₀ quiet held none none swept w)
    (hcl : Mask.has w.state.claimed idx = true) (hidx : idx ≠ c → held = true) (r : Int) :
    Tidy c claimed₀ quiet (held && idx != c) (if r = Ret.success then some idx else none)
      (if r = Ret.success then some idx else none) (fun i => swept i ∨ i = idx)
      (w.note (.releaseInterface idx) r) := by
  have hin : inOrder c w.log (.releaseInterface idx) r = true := by
    by_cases hc : idx = c
    · simp [inOrder, hc, h.notClosed, h.isWaiting]
    · simp [inOrder, (h.isHeld (hidx hc)).1, h.notClosed, h.isWaiting]
  refine ⟨h.ctrlIf, h.counted, h.absent, h.isQuiet, h.streams, answers_snoc.2 ⟨h.order, hin⟩,
    ?_, ?_, ?_, ?_, ?_, ?_⟩ <;> simp only [World.note_log, World.note_state]
  · rw [unattached_snoc, h.isWaiting]
    rfl
  · simp [h.notClosed]
  · intro hh
    rw [Bool.and_eq_true, bne_iff_ne] at hh
    simp [h.isHeld hh.1, hh.2]
  · intro i hi
    rcases h.kept i hi with hk | hk
    · exact Or.inl hk
    · exact Or.inr (by rw [releases_snoc]; omega)
  · intro hs i hi
    rw [answers_snoc] at hs
    have hr : r = Ret.success := by simpa [releaseSucceeds] using hs.2
    rw [releases_snoc, h.once hs.1 i hi, if_pos hr]
    by_cases hii : i = idx
    · subst hii
      simp [hcl]
    · have hne : ¬ UsbCall.releaseInterface idx = .releaseInterface i := by
        simpa using Ne.symm hii
      have hne' : ¬ some idx = some i := by simpa using Ne.symm hii
      simp [hne, hne']
  · rintro i (hi | rfl) hc
    · have := h.isSwept i hi hc
      rw [releases_snoc]
      omega
    · simp

/-- The bit of a released interface is cleared. -/
theorem Tidy.unmark {idx : Nat}
    (h : Tidy c claimed₀ quiet held waiting (some idx) swept w) (hs : swept idx) :
    Tidy c claimed₀ quiet held waiting none swept
      (w.update fun d => { d with claimed := Mask.erase d.claimed idx }) := by
  refine ⟨h.ctrlIf, h.counted, h.absent, h.isQuiet, h.streams, h.order, h.isWaiting, h.notClosed,
    h.isHeld, ?_, ?_, h.isSwept⟩ <;> simp only [World.update_log, World.update_state]
  · intro i hi
    by_cases hii : i = idx
    · exact Or.inr (h.isSwept i (hii ▸ hs) hi)
    · rw [Mask.has_erase_of_ne hii]
      exact h.kept i hi
  · intro hok i hi
    rw [h.once hok i hi]
    by_cases hii : i = idx
    · subst hii
      simp
    · have hne : ¬ some idx = some i := by simpa using Ne.symm hii
      simp [Mask.has_erase_of_ne hii, hne]

/-- A call of `libusb_attach_kernel_driver` for the interface that waits for it. -/
theorem Tidy.attach {idx : Nat} (h : Tidy c claimed₀ quiet held (some idx) unmarked swept w)
    (hidx : idx ≠ c → held = true) (hc : idx = c → held = false) (r : Int) :
    Tidy c claimed₀ quiet held none unmarked swept (w.note (.attachKernelDriver idx) r) := by
  have hin : inOrder c w.log (.attachKernelDriver idx) r = true := by
    by_cases hic : idx = c
    · simp [inOrder, hic, h.notClosed]
    · simp [inOrder, (h.isHeld (hidx hic)).1, h.notClosed]
  refine ⟨h.ctrlIf, h.counted, h.absent, h.isQuiet, h.streams, answers_snoc.2 ⟨h.order, hin⟩,
    ?_, ?_, ?_, ?_, ?_, ?_⟩ <;> simp only [World.note_log, World.note_state]
  · rw [unattached_snoc, h.isWaiting]
    simp [noteRelease]
  · simp [h.notClosed]
  · intro hh
    have hne : idx ≠ c := fun hic => by simp [hc hic] at hh
    simp [h.isHeld hh, hne]
  · simpa using h.kept
  · intro hok i hi
    rw [answers_snoc] at hok
    rw [releases_snoc, h.once hok.1 i hi]
    simp
  · simpa using h.isSwept

/-- `uvc_release_if` on an interface whose turn it is.  VideoControl's turn comes when the status
transfer is quiet, and no other interface's after that. -/
theorem releaseIf_meets {idx : Nat} (hidx : idx ≠ c → held = true) (hc : idx = c → quiet = true) :
    Meets EventThread (Tidy c claimed₀ quiet held none none swept) (releaseIf idx)
      (fun _ => Tidy c claimed₀ quiet (held && idx != c) none none
        (fun i => swept i ∨ i = idx)) := by
  have hqh : quiet = true ∨ held = true := by
    by_cases hic : idx = c
    · exact Or.inl (hc hic)
    · exact Or.inr (hidx hic)
  have hqh' : quiet = true ∨ (held && idx != c) = true := by
    by_cases hic : idx = c
    · exact Or.inl (hc hic)
    · exact Or.inr (by simp [hidx hic, hic])
  have hback : ∀ a, Meets EventThread
      (Tidy c claimed₀ quiet (held && idx != c) none none (fun i => swept i ∨ i = idx))
      (pure a : DevProg Ret)
      (fun _ => Tidy c claimed₀ quiet (held && idx != c) none none (fun i => swept i ∨ i = idx)) :=
    fun _ => meets_pure (Tidy.stable hqh') fun _ h => h
  rw [releaseIf]
  refine meets_load_bind (Tidy.stable hqh) fun d => ?_
  split
  · -- not claimed any more: it was released before, or was not claimed on entry
    rename_i hfree
    refine (hback _).pre ?_
    rintro w ⟨h, rfl⟩
    refine h.weaken (fun hh => (Bool.and_eq_true_iff.1 hh).1) fun i hi hcl => ?_
    rcases hi with hi | rfl
    · exact Or.inl hi
    · exact Or.inr ((h.kept i hcl).resolve_left (by simpa using hfree))
  · rename_i hcl
    have hst : Stable EventThread fun w =>
        Tidy c claimed₀ quiet held none none swept w ∧ Mask.has w.state.claimed idx = true :=
      fun w u h hr => ⟨Tidy.stable hqh w u h.1 hr, hr.claimed ▸ h.2⟩
    refine Meets.pre ?_ (P := fun w => Tidy c claimed₀ quiet held none none swept w ∧
      Mask.has w.state.claimed idx = true) ?_
    · refine meets_ask_bind hst (R := fun _ w => Tidy c claimed₀ quiet held none none swept w ∧
        Mask.has w.state.claimed idx = true) (fun w r h => ⟨h.1.note rfl rfl, h.2⟩) fun _ => ?_
      refine meets_ask_bind hst (R := fun r => Tidy c claimed₀ quiet (held && idx != c)
        (if r = Ret.success then some idx else none) (if r = Ret.success then some idx else none)
        (fun i => swept i ∨ i = idx)) (fun w r h => h.1.release h.2 hidx r) fun ret => ?_
      split
      · rename_i hret
        refine Meets.pre (P := Tidy c claimed₀ quiet (held && idx != c) (some idx) (some idx)
          (fun i => swept i ∨ i = idx)) ?_ fun w h => by simpa only [if_pos hret] using h
        refine meets_update_bind (Tidy.stable hqh') (fun w h => h.unmark (Or.inr rfl)) ?_
        refine meets_ask_bind (Tidy.stable hqh') (fun w r h => h.attach (fun hne => ?_)
          (fun hic => by simp [hic]) r) fun attach => ?_
        · simp [hidx hne, hne]
        · split
          · refine meets_update_bind (Tidy.stable hqh') (fun w h => ?_) (hback _)
            exact h.update (disarm_ctrlIf ..) (disarm_status ..) (claimed_disarm ..)
              (by rw [disarm_streams]; exact h.streams)
          · exact hback _
      · rename_i hret
        exact (hback _).pre fun w h => by simpa only [if_neg hret] using h
    · rintro w ⟨h, rfl⟩
      exact ⟨h, by simpa using hcl⟩

/-! ## Stopping a stream -/

/-- What stopping the stream on `idx` does not disturb: the threads around it keep it, and so do the
calls that `uvc_stream_stop` makes and its one write. -/
structure Undisturbed (rely : World DevHandle UsbCall → World DevHandle UsbCall → Prop) (idx : Nat)
    (P : World DevHandle UsbCall → Prop) : Prop where
  stable : Stable rely P
  cancel : ∀ w r, P w → P (w.note (.cancelTransfer idx) r)
  wait : ∀ w r, P w → P (w.note (.stopWait idx) r)
  halt : ∀ w, P w → P (w.update fun d => { d with streams := d.streams.map fun s =>
    if s.ifNum = idx then { s with running := false } else s })

section Undisturbed

variable {rely : World DevHandle UsbCall → World DevHandle UsbCall → Prop} {idx : Nat}
  {P : World DevHandle UsbCall → Prop} (hP : Undisturbed rely idx P)

include hP

theorem cancelAll_meets (n : Nat) : Meets rely P (cancelAll idx n) (fun _ => P) := by
  induction n with
  | zero => exact meets_pure hP.stable fun _ h => h
  | succ n ih => exact meets_ask_bind hP.stable hP.cancel fun _ => ih

theorem stopWaitLoop_meets (wakes attempts : Nat) :
    Meets rely P (stopWaitLoop idx wakes attempts) (fun _ => P) := by
  induction wakes generalizing attempts with
  | zero =>
    rw [stopWaitLoop]
    exact meets_pure hP.stable fun _ h => h
  | succ wakes ih =>
    cases attempts with
    | zero =>
      rw [stopWaitLoop]
      · exact meets_pure hP.stable fun _ h => h
      · simp
    | succ attempts =>
      rw [stopWaitLoop]
      refine meets_load_bind hP.stable fun d => Meets.pre ?_ fun w h => h.1
      split
      · exact meets_pure hP.stable fun _ h => h
      · refine meets_ask_bind hP.stable (R := fun _ => P) hP.wait fun r => ?_
        split
        · exact ih (attempts + 1)
        · exact ih attempts

theorem streamStop_meets (wakes : Nat) :
    Meets rely P (streamStop wakes idx) (fun _ => P) := by
  rw [streamStop]
  refine meets_load_bind hP.stable fun d => Meets.pre ?_ fun w h => h.1
  split
  · exact meets_pure hP.stable fun _ h => h
  · refine meets_update_bind hP.stable hP.halt ?_
    refine meets_load_bind hP.stable fun d => Meets.pre ?_ fun w h => h.1
    exact (cancelAll_meets hP _).bind fun _ => stopWaitLoop_meets hP wakes _

/-- The stop at the beginning of `uvc_stream_close`. -/
theorem stopIfRunning_meets (wakes : Nat) (b : Bool) :
    Meets rely P (when b do let _ ← streamStop wakes idx; return ()) (fun _ => P) := by
  refine meets_when hP.stable (fun _ => ?_) fun _ _ h => h
  exact (streamStop_meets hP wakes).bind fun _ => meets_pure hP.stable fun _ h => h

end Undisturbed

/-! ## Closing the streams -/

/-- The state of affairs while streams are being closed. -/
def Closing (c : Nat) (claimed₀ : IfMask) : World DevHandle UsbCall → Prop :=
  Tidy c claimed₀ false true none none fun _ => False

theorem Closing.stable : Stable EventThread (Closing c claimed₀) := Tidy.stable (Or.inr rfl)

theorem Closing.pure {α : Type} (a : α) :
    Meets EventThread (Closing c claimed₀) (Pure.pure a : DevProg α)
      (fun _ => Closing c claimed₀) :=
  meets_pure Closing.stable fun _ h => h

theorem Closing.undisturbed (idx : Nat) : Undisturbed EventThread idx (Closing c claimed₀) where
  stable := Closing.stable
  cancel _ _ h := h.note rfl rfl
  wait _ _ h := h.note rfl rfl
  halt w h := by
    refine h.update rfl rfl rfl fun s hs => ?_
    obtain ⟨t, ht, rfl⟩ := List.mem_map.1 hs
    have hne := h.streams t ht
    split <;> exact hne

theorem streamClose_meets (wakes : Nat) {idx : Nat} (hidx : idx ≠ c) :
    Meets EventThread (Closing c claimed₀) (streamClose wakes idx)
      (fun _ => Closing c claimed₀) := by
  rw [streamClose]
  refine meets_load_bind Closing.stable fun d => Meets.pre ?_ fun w h => h.1
  refine (stopIfRunning_meets (Closing.undisturbed idx) wakes _).bind fun _ => ?_
  refine meets_load_bind Closing.stable fun d => Meets.pre ?_ fun w h => h.1
  refine meets_update_bind Closing.stable (R := Closing c claimed₀) (fun w h => ?_) ?_
  · exact h.update rfl rfl rfl fun s hs => h.streams s (List.mem_of_mem_eraseP hs)
  · split
    · refine meets_update_bind Closing.stable (fun w h => ?_) (Closing.pure ())
      exact h.update rfl rfl rfl h.streams
    · refine (releaseIf_meets (fun _ => rfl) fun hc => absurd hc hidx).bind fun _ => ?_
      refine (Closing.pure ()).pre fun w h => h.weaken (fun _ => by simp [hidx]) ?_
      exact fun i hi => absurd hi id

theorem streamCloseAll_meets (wakes : Nat) {ifs : List Nat} (h : ∀ idx ∈ ifs, idx ≠ c) :
    Meets EventThread (Closing c claimed₀) (streamCloseAll wakes ifs)
      (fun _ => Closing c claimed₀) := by
  induction ifs with
  | nil => exact Closing.pure ()
  | cons idx rest ih =>
    exact (streamClose_meets wakes (h idx List.mem_cons_self)).bind fun _ =>
      ih fun j hj => h j (List.mem_cons_of_mem _ hj)

theorem stopStreaming_meets (wakes : Nat) :
    Meets EventThread (Closing c claimed₀) (stopStreaming wakes) (fun _ => Closing c claimed₀) := by
  rw [stopStreaming]
  refine meets_load_bind Closing.stable fun d => ?_
  rintro w ⟨h, rfl⟩
  refine streamCloseAll_meets wakes (fun idx hidx => ?_) w h
  obtain ⟨s, hs, rfl⟩ := List.mem_map.1 hidx
  exact h.streams s hs

/-! ## Stopping the status transfer -/

/-- The state of affairs once the status transfer is being stopped: nobody submits it any more. -/
def Stopped (c : Nat) (claimed₀ : IfMask) : World DevHandle UsbCall → Prop :=
  Tidy c claimed₀ true true none none fun _ => False

theorem Stopped.stable : Stable EventThread (Stopped c claimed₀) := Tidy.stable (Or.inl rfl)

theorem statusPollLoop_meets (n : Nat) :
    Meets EventThread (Stopped c claimed₀) (statusPollLoop n) (fun _ => Stopped c claimed₀) := by
  induction n with
  | zero => exact meets_pure Stopped.stable fun _ h => h
  | succ n ih =>
    rw [statusPollLoop]
    refine meets_load_bind Stopped.stable fun d => Meets.pre ?_ fun w h => h.1
    split
    · exact ih
    · exact meets_pure Stopped.stable fun _ h => h

theorem stopStatusXfer_meets :
    Meets EventThread (Closing c claimed₀) stopStatusXfer (fun _ => Stopped c claimed₀) := by
  rw [stopStatusXfer]
  refine meets_load_bind Closing.stable fun d => ?_
  split
  · rename_i hn
    refine (meets_pure Stopped.stable fun _ h => h).pre ?_
    rintro w ⟨h, rfl⟩
    exact { h with isQuiet := fun _ => Or.inr (h.absent (by simpa using hn)) }
  · refine Meets.pre ?_ fun w h => h.1
    refine meets_fetch_bind Closing.stable (R := fun _ => Stopped c claimed₀)
      (fun w h => { h with isQuiet := fun _ => Or.inl rfl }) fun d => ?_
    split
    · exact meets_ask_bind Stopped.stable (fun w r h => h.note rfl rfl) fun _ =>
        statusPollLoop_meets _
    · exact meets_pure Stopped.stable fun _ h => h

/-! ## Releasing what is still claimed -/

/-- The state of affairs during the sweep: the interfaces in `ifs` are still to come. -/
def Sweeping (c : Nat) (claimed₀ : IfMask) (ifs : List Nat) : World DevHandle UsbCall → Prop :=
  Tidy c claimed₀ true true none none fun i => i < 32 ∧ i ∉ ifs ∧ i ≠ c

theorem Sweeping.stable {ifs : List Nat} : Stable EventThread (Sweeping c claimed₀ ifs) :=
  Tidy.stable (Or.inl rfl)

/-- The sweep moves on from `idx`, which is VideoControl or has been released if it was claimed. -/
theorem Sweeping.next (idx : Nat) {rest : List Nat}
    (h : Tidy c claimed₀ true true none none
      (fun i => (i < 32 ∧ i ∉ idx :: rest ∧ i ≠ c) ∨ i = idx ∧ i ≠ c) w) :
    Sweeping c claimed₀ rest w := by
  refine h.weaken id fun i hi _ => Or.inl ?_
  by_cases hii : i = idx
  · exact Or.inr ⟨hii, hi.2.2⟩
  · exact Or.inl ⟨hi.1, fun hm => (List.mem_cons.1 hm).elim hii hi.2.1, hi.2.2⟩

theorem releaseOthers_meets (ifs : List Nat) :
    Meets EventThread (Sweeping c claimed₀ ifs) (releaseOthers c ifs)
      (fun _ => Sweeping c claimed₀ []) := by
  induction ifs with
  | nil => exact meets_pure Sweeping.stable fun _ h => h
  | cons idx rest ih =>
    rw [releaseOthers]
    refine meets_load_bind Sweeping.stable fun d => ?_
    refine Meets.bind (R := fun _ => Sweeping c claimed₀ rest) ?_ fun _ => ih
    cases hb : (idx != c && Mask.has d.claimed idx) with
    | true =>
      rw [Bool.and_eq_true, bne_iff_ne] at hb
      refine Meets.pre ?_ fun w h => h.1
      refine (releaseIf_meets (fun _ => rfl) fun _ => rfl).bind fun _ => ?_
      refine (meets_pure Sweeping.stable fun _ h => h).pre fun w h => Sweeping.next idx ?_
      refine h.weaken (fun _ => by simp [hb.1]) fun i hi _ => Or.inl ?_
      exact hi.imp id And.left
    | false =>
      refine (meets_pure Sweeping.stable fun _ h => h).pre ?_
      rintro w ⟨h, rfl⟩
      refine Sweeping.next idx (h.weaken id fun i hi hcl => ?_)
      rcases hi with hi | ⟨rfl, hic⟩
      · exact Or.inl hi
      · -- passed over because its bit is clear: it has been released before
        refine Or.inr ((h.kept i hcl).resolve_left fun hm => ?_)
        simp [hm, hic] at hb

theorem releaseClaimedIfs_meets :
    Meets EventThread (Stopped c claimed₀) releaseClaimedIfs
      (fun _ => Tidy c claimed₀ true false none none fun i => i < 32) := by
  rw [releaseClaimedIfs]
  refine meets_load_bind Stopped.stable fun d => ?_
  rintro w ⟨h, rfl⟩
  rw [h.ctrlIf]
  have hsweep : Sweeping c claimed₀ (List.range 32) w :=
    h.weaken id fun i hi _ => absurd (List.mem_range.2 hi.1) hi.2.1
  refine sat_bind (releaseOthers_meets (List.range 32) w hsweep) fun _ u hu => ?_
  refine sat_bind (releaseIf_meets (fun _ => rfl) (fun _ => rfl) u hu) fun _ v hv => ?_
  refine meets_pure (Tidy.stable (Or.inl rfl)) (fun _ h => h) v ?_
  refine hv.weaken (fun hf => by simp at hf) fun i hi _ => Or.inl ?_
  by_cases hic : i = c
  · exact Or.inr hic
  · exact Or.inl ⟨hi, by simp, hic⟩

/-! ## `uvc_close` -/

/-- The trace of a close that goes through. -/
structure TornDown (c : Nat) (claimed₀ : IfMask) (log : UsbLog) : Prop where
  order : Answers (inOrder c) log
  attachedAll : unattached log = none
  closedLast : ∃ before r, log = before ++ [(.close, r)]
  releasedAll : ∀ i < 32, Mask.has claimed₀ i = true → 1 ≤ releases i log
  releasedOnce : Answers releaseSucceeds log →
    ∀ i < 32, Mask.has claimed₀ i = true → releases i log = 1

/-- The state of affairs after `libusb_close`. -/
structure Gone (c : Nat) (claimed₀ : IfMask) (w : World DevHandle UsbCall) : Prop where
  counted : w.state.status.Counted
  isQuiet : w.state.status.stopping = true ∨ w.state.status.submitted = false
  torn : TornDown c claimed₀ w.log

theorem Gone.stable : Stable EventThread (Gone c claimed₀) := by
  intro w u h hr
  cases hr with
  | freed idx => exact ⟨h.counted, h.isQuiet, h.torn⟩
  | status e x sub he =>
    obtain ⟨-, hstop, hsub, hflag⟩ := h.counted.event_frame he
    have hstopping : w.state.status.stopping = true := h.isQuiet.resolve_right (by simp [hflag])
    rw [hsub hstopping, Option.toList_none, List.map_nil, List.append_nil]
    exact ⟨h.counted.event he, Or.inl (hstop.trans hstopping), h.torn⟩

theorem Tidy.close (h : Tidy c claimed₀ true false none none (fun i => i < 32) w) (r : Int) :
    Gone c claimed₀ (w.note .close r) := by
  have hreleases : ∀ i, releases i (w.note .close r).log = releases i w.log := fun i => by simp
  have hin : inOrder c w.log .close r = true := by simp [inOrder, h.notClosed]
  refine ⟨h.counted, h.isQuiet rfl, answers_snoc.2 ⟨h.order, hin⟩, ?_, ⟨w.log, r, rfl⟩, ?_, ?_⟩
  · rw [World.note_log, unattached_snoc, h.isWaiting]
    rfl
  · intro i hi hcl
    rw [hreleases]
    exact h.isSwept i hi hcl
  · intro hok i hi hcl
    have honce := h.once (answers_snoc.1 hok).1 i hcl
    have hge := h.isSwept i hi hcl
    rw [hreleases, honce]
    rw [honce] at hge
    split at hge
    · omega
    · rename_i hn
      rw [if_neg hn]

theorem close_meets (wakes : Nat) :
    Meets EventThread (Closing c claimed₀) (close wakes) (fun quarantined u =>
      (quarantined = false → TornDown c claimed₀ u.log) ∧
      (quarantined = true →
        released c u.log = false ∧ attached c u.log = false ∧ closed u.log = false)) := by
  rw [close]
  refine meets_load_bind Closing.stable fun d => Meets.pre ?_ fun w h => h.1
  refine Meets.bind (R := fun _ => Closing c claimed₀) ?_ fun _ => ?_
  · exact meets_when Closing.stable (fun _ => stopStreaming_meets wakes) fun _ _ h => h
  refine stopStatusXfer_meets.bind fun stopped => ?_
  refine Meets.bind (R := fun _ => Stopped c claimed₀) ?_ fun _ => ?_
  · refine meets_when Stopped.stable (fun _ => ?_) fun _ _ h => h
    exact meets_update Stopped.stable Stopped.stable fun w h => h.update rfl rfl rfl h.streams
  · refine meets_load_bind Stopped.stable fun d => Meets.pre ?_ fun w h => h.1
    split
    · refine meets_pure Stopped.stable fun w h => ⟨fun hf => absurd hf (by simp), fun _ => ?_⟩
      exact ⟨(h.isHeld rfl).1, (h.isHeld rfl).2, h.notClosed⟩
    · refine releaseClaimedIfs_meets.bind fun _ => ?_
      refine meets_ask_bind (Tidy.stable (Or.inl rfl)) (R := fun _ => Gone c claimed₀)
        (fun w r h => h.close r) fun _ => ?_
      exact meets_pure Gone.stable fun w h => ⟨fun _ => h.torn, fun hf => absurd hf (by simp)⟩

/-- **The order of a teardown.**  A device is closed while the event thread goes on, from any state
that opening it and any run of status callbacks can have left the status transfer in, with any mask
of claimed interfaces, any streams on interfaces other than VideoControl, and any answers.

If the handle is not quarantined, then in the log of libusb calls every submission of the status
transfer comes before the release of VideoControl, so does every release and attach of another
interface, each successful release is followed by its attach before the next release, and
`libusb_close` comes last (`inOrder`, `TornDown`); and every interface claimed on entry is released,
exactly once if all releases succeed.  If it is quarantined, VideoControl is neither released nor
attached and `libusb_close` is not called. -/
theorem close_teardown (c : Nat) (d : DevHandle) (hctrl : d.ctrlIf = c) (endpoint : Bool)
    (s : StatusSystem) (hstatus : Reachable StatusSystem.step (.initial endpoint) s)
    (hxfer : d.status = s.xfer) (hstreams : ∀ t ∈ d.streams, t.ifNum ≠ c) (wakes : Nat)
    (quarantined : Bool) (u : World DevHandle UsbCall)
    (hrun : Relation.ReflTransGen (Step EventThread) (close wakes, ⟨d, []⟩) (.ret quarantined, u)) :
    (quarantined = false → TornDown c d.claimed u.log) ∧
    (quarantined = true →
      released c u.log = false ∧ attached c u.log = false ∧ closed u.log = false) := by
  have hsound : s.Sound := hstatus.invariant (StatusSystem.initial_sound endpoint)
    fun _ _ _ hu hw => hu.step hw
  refine (close_meets wakes).sound (P := Closing c d.claimed) ?_ hrun
  refine ⟨hctrl, hxfer ▸ hsound.counted, hxfer ▸ hsound.absent, by simp, ?_, ?_, rfl, rfl,
    fun _ => ⟨rfl, rfl⟩, fun i hi => Or.inl hi, fun _ i hi => ?_, fun i hi => hi.elim⟩
  · exact hstreams
  · exact fun n => n.elim0
  · simp [hi]
    rfl

/-- A camera with VideoControl on interface 3 and a stream, already stopped, on interface 5. -/
def idleCamera : DevHandle where
  ctrlIf := 3
  claimed := 0b101000#32
  streams := [⟨5, false, 0⟩]

/-- Its close releases 5 with its stream and 3 in the sweep; the first attach fails. -/
def idleCameraClosed : World DevHandle UsbCall :=
  (runWith (close 1) [0, 0, -99, 0, 0, 0, 0] ⟨idleCamera, []⟩).2

theorem close_teardown_idle :
    idleCameraClosed.log.map Prod.fst = [.setInterfaceAltSetting 5, .releaseInterface 5,
      .attachKernelDriver 5, .setInterfaceAltSetting 3, .releaseInterface 3,
      .attachKernelDriver 3, .close] ∧
    TornDown 3 idleCamera.claimed idleCameraClosed.log :=
  ⟨by decide, (close_teardown 3 idleCamera rfl false (.initial false) (Reachable.refl _) rfl
    (by decide) 1 false idleCameraClosed (steps_runWith _ [0, 0, -99, 0, 0, 0, 0] _)).1 rfl⟩

end Device
end LibUvc
