import LibUvc.Device.Interfaces

/-!
# The reattach guard covers every driver this process removed

The guard's helper puts back the drivers of the interfaces that are armed at the moment the process
dies, so arming is right when, at every moment, the armed interfaces include

* every interface whose driver this process has detached and not put back (`driverGone`), and
* every interface the handle has claimed.

`Covered` says both.  A single call of `uvc_claim_if` or `uvc_release_if` from a clean state keeps
it, but the early exit of `uvc_claim_if` disarms the interface whenever the detach fails hard, on
the grounds that the driver is then still where it was.  After an earlier call that took the driver
away and could not give it back, that is not so: the driver is gone, the interface was armed for
that very reason, and the failed detach drops it.  `claimIf_twice_uncovered` is such a run, and
`ifCalls_covered` says that this is the only way to lose a driver.
-/

set_option autoImplicit false

namespace LibUvc
namespace Device

open Prog

/-- A log of calls and answers. -/
abbrev UsbLog := List (UsbCall × Int)

/-! ## Whose driver is missing -/

/-- How one call changes whether the driver of `idx` is missing on this process's account. -/
def noteDriver (idx : Nat) (gone : Bool) : UsbCall × Int → Bool
  | (.detachKernelDriver j, r) => if j = idx ∧ r = Ret.success then true else gone
  | (.attachKernelDriver j, r) => if j = idx ∧ driverSettled r then false else gone
  | _ => gone

/-- The latest successful detach of `idx` has not been followed by an attach of `idx` that succeeded
or found nothing to do. -/
def driverGone (idx : Nat) (log : UsbLog) : Bool := log.foldl (noteDriver idx) false

@[simp] theorem driverGone_snoc (idx : Nat) (log : UsbLog) (c : UsbCall × Int) :
    driverGone idx (log ++ [c]) = noteDriver idx (driverGone idx log) c := by
  rw [driverGone, List.foldl_append]
  rfl

/-- `idx` is armed. -/
def armed (idx : Nat) (d : DevHandle) : Bool := Mask.has (reattachGuardArmedMask d) idx

/-- A helper woken at this moment would put back every driver the process has removed, and every
claimed interface is among those it would look at. -/
def Covered (w : World DevHandle UsbCall) : Prop :=
  ∀ idx < 32, (driverGone idx w.log = true → armed idx w.state = true) ∧
    (Mask.has w.state.claimed idx = true → armed idx w.state = true)

/-! ## What is assumed of the answers -/

/-- The guard comes up when it is asked for. -/
def guardComesUp (_ : UsbLog) : UsbCall → Int → Bool
  | .getDeviceDescriptor, r => r == Ret.success
  | .reattachGuardCreate, r => r == Ret.success
  | _, _ => true

/-- A detach fails hard only on an interface whose driver is not already missing. -/
def detachFailsInPlace (log : UsbLog) : UsbCall → Int → Bool
  | .detachKernelDriver idx, r => driverSettled r || !driverGone idx log
  | _, _ => true

/-- `P`, as long as the answers so far were as assumed. -/
def Assuming (P : World DevHandle UsbCall → Prop) (w : World DevHandle UsbCall) : Prop :=
  Answers guardComesUp w.log → Answers detachFailsInPlace w.log → P w

theorem Assuming.note {P Q : World DevHandle UsbCall → Prop} {w : World DevHandle UsbCall}
    (h : Assuming P w) {k : UsbCall} {r : Int}
    (hq : P w → guardComesUp w.log k r = true → detachFailsInPlace w.log k r = true →
      Q (w.note k r)) :
    Assuming Q (w.note k r) := by
  intro h1 h2
  rw [World.note_log, answers_snoc] at h1 h2
  exact hq (h h1.1 h2.1) h1.2 h2.2

theorem Assuming.update {P Q : World DevHandle UsbCall → Prop} {w : World DevHandle UsbCall}
    (h : Assuming P w) {f : DevHandle → DevHandle}
    (hq : P w → Q (w.update f)) : Assuming Q (w.update f) :=
  fun h1 h2 => hq (h h1 h2)

/-! ## How each step moves the armed interfaces -/

theorem armed_of_none {d : DevHandle} (h : d.reattachGuard = none) (idx : Nat) :
    armed idx d = false := by
  rw [armed, reattachGuardArmedMask, h, Option.getD_none, Mask.has_zero]

theorem armed_arm {idx : Nat} (j : Nat) {d : DevHandle} (hd : d.reattachGuard ≠ none)
    (hi : idx < 32) : armed j (reattachGuardArm idx d) = (armed j d || decide (j = idx)) := by
  obtain ⟨m, hm⟩ := Option.ne_none_iff_exists'.1 hd
  have hlt : ¬ idx ≥ reattachMaxInterfaces := by
    rw [reattachMaxInterfaces]
    omega
  simp only [armed, reattachGuardArmedMask, reattachGuardArm, hm, if_neg hlt, Option.getD_some,
    Mask.has_insert]
  by_cases hj : j = idx
  · subst hj
    simp [hi]
  · simp [hj]

theorem armed_disarm {idx j : Nat} (d : DevHandle) (hj : j ≠ idx) :
    armed j (reattachGuardDisarm idx d) = armed j d := by
  cases hd : d.reattachGuard with
  | none => simp only [reattachGuardDisarm, hd]
  | some m =>
    simp only [armed, reattachGuardArmedMask, reattachGuardDisarm, hd]
    split
    · rw [hd]
    · rw [Option.getD_some, Option.getD_some, Mask.has_erase_of_ne hj]

@[simp] theorem claimed_arm (idx : Nat) (d : DevHandle) :
    (reattachGuardArm idx d).claimed = d.claimed := by
  cases hd : d.reattachGuard with
  | none => simp only [reattachGuardArm, hd]
  | some m =>
    simp only [reattachGuardArm, hd]
    split <;> rfl

@[simp] theorem claimed_disarm (idx : Nat) (d : DevHandle) :
    (reattachGuardDisarm idx d).claimed = d.claimed := by
  cases hd : d.reattachGuard with
  | none => simp only [reattachGuardDisarm, hd]
  | some m =>
    simp only [reattachGuardDisarm, hd]
    split <;> rfl

/-! ## How each step keeps the drivers covered -/

variable {w : World DevHandle UsbCall} {idx : Nat}

/-- A call leaves the drivers covered unless it detaches one that is not armed. -/
theorem Covered.note (h : Covered w) (k : UsbCall) (r : Int)
    (hk : ∀ j, k = .detachKernelDriver j → armed j w.state = true) :
    Covered (w.note k r) := by
  intro j hj
  refine ⟨fun hg => ?_, (h j hj).2⟩
  rw [World.note_log, driverGone_snoc] at hg
  have hold := (h j hj).1
  cases k with
  | detachKernelDriver i =>
    rw [noteDriver] at hg
    split at hg
    · rename_i heq
      exact heq.1 ▸ hk i rfl
    · exact hold hg
  | attachKernelDriver i =>
    rw [noteDriver] at hg
    split at hg
    · cases hg
    · exact hold hg
  | _ => exact hold hg

theorem Covered.create (h : Covered w) (hn : w.state.reattachGuard = none) :
    Covered (w.update fun d => { d with reattachGuard := some 0#32 }) := by
  intro j hj
  have hold := h j hj
  rw [armed_of_none hn] at hold
  exact ⟨fun hg => absurd (hold.1 hg) (by simp), fun hc => absurd (hold.2 hc) (by simp)⟩

theorem Covered.arm (h : Covered w) (hn : w.state.reattachGuard ≠ none) (hi : idx < 32) :
    Covered (w.update (reattachGuardArm idx)) := by
  intro j hj
  simp only [World.update_state, World.update_log, armed_arm j hn hi, claimed_arm,
    Bool.or_eq_true]
  exact ⟨fun hg => Or.inl ((h j hj).1 hg), fun hc => Or.inl ((h j hj).2 hc)⟩

/-- Disarming is right for an interface whose driver is in place and which is not claimed. -/
theorem Covered.disarm (h : Covered w) (hg : driverGone idx w.log = false)
    (hc : Mask.has w.state.claimed idx = false) :
    Covered (w.update (reattachGuardDisarm idx)) := by
  intro j hj
  by_cases hji : j = idx
  · subst hji
    simp [hg, hc]
  · simp only [World.update_state, World.update_log, armed_disarm _ hji, claimed_disarm]
    exact h j hj

theorem Covered.claim (h : Covered w) (ha : armed idx w.state = true) :
    Covered (w.update fun d => { d with claimed := Mask.insert d.claimed idx }) := by
  intro j hj
  refine ⟨(h j hj).1, fun hc => ?_⟩
  by_cases hji : j = idx
  · exact hji ▸ ha
  · rw [World.update_state, Mask.has_insert_of_ne hji] at hc
    exact (h j hj).2 hc

theorem Covered.unclaim (idx : Nat) (h : Covered w) :
    Covered (w.update fun d => { d with claimed := Mask.erase d.claimed idx }) := by
  intro j hj
  refine ⟨(h j hj).1, fun hc => (h j hj).2 ?_⟩
  rw [World.update_state, Mask.has_erase] at hc
  exact (Bool.and_eq_true_iff.1 hc).1

/-! ## The two functions -/

/-- After `uvc_arm_reattach_guard`, the interface is armed. -/
theorem armReattachGuard_sat (hi : idx < 32) (h : Assuming Covered w) :
    Sat alone (Assuming Covered)
      (fun _ u => Assuming (fun v => Covered v ∧ armed idx v.state = true) u ∧
        u.state.claimed = w.state.claimed)
      (armReattachGuard idx) w := by
  simp only [armReattachGuard, sat_alone_load_bind]
  refine ⟨h, ?_⟩
  split
  · rename_i hn
    simp only [sat_alone_ask_bind]
    refine ⟨h, fun r => ?_⟩
    have h1 : Assuming Covered (w.note .getDeviceDescriptor r) :=
      h.note fun hc _ _ => hc.note _ _ (by simp)
    split
    · rename_i hr
      exact sat_alone_pure.2 ⟨h1, h.note fun _ hup _ => absurd (beq_iff_eq.1 hup) hr, rfl⟩
    · simp only [sat_alone_ask_bind]
      refine ⟨h1, fun g => ?_⟩
      have h2 : Assuming Covered ((w.note .getDeviceDescriptor r).note .reattachGuardCreate g) :=
        h1.note fun hc _ _ => hc.note _ _ (by simp)
      split
      · rename_i hg
        exact sat_alone_pure.2 ⟨h2, h1.note fun _ hup _ => absurd (beq_iff_eq.1 hup) hg, rfl⟩
      · simp only [sat_alone_update_bind, sat_alone_update]
        have h3 := h2.update fun hc => Covered.create hc hn
        refine ⟨h2, h3, h3.update fun hc => hc.arm (by simp) hi,
          h3.update fun hc => ⟨hc.arm (by simp) hi, ?_⟩, by simp⟩
        simp [armed_arm, hi]
  · rename_i hn
    simp only [sat_alone_update]
    refine ⟨h, h.update fun hc => hc.arm hn hi, h.update fun hc => ⟨hc.arm hn hi, ?_⟩,
      claimed_arm ..⟩
    simp [armed_arm _ hn hi]

theorem driverGone_attach {r : Int} (hr : driverSettled r = true) (log : UsbLog) :
    driverGone idx (log ++ [(.attachKernelDriver idx, r)]) = false := by
  rw [driverGone_snoc, noteDriver, if_pos ⟨rfl, hr⟩]

/-- Handing the driver back and disarming: the end of both functions. -/
theorem Assuming.handBack (h : Assuming Covered w) (hfree : Mask.has w.state.claimed idx = false)
    {r : Int} (hr : driverSettled r = true) :
    Assuming Covered ((w.note (.attachKernelDriver idx) r).update (reattachGuardDisarm idx)) := by
  have hnote : Assuming Covered (w.note (.attachKernelDriver idx) r) :=
    h.note fun hc _ _ => hc.note _ _ (by simp)
  exact hnote.update fun hc => hc.disarm (driverGone_attach hr w.log) hfree

/-- The last steps of both functions: the driver is asked for, and its bit goes if it is back. -/
theorem handBack_sat (h : Assuming Covered w) (hfree : Mask.has w.state.claimed idx = false)
    (back missing : Int → Ret) :
    Sat alone (Assuming Covered) (fun _ => Assuming Covered) (do
      let attach ← ask (.attachKernelDriver idx)
      if driverSettled attach then
        update (reattachGuardDisarm idx)
        return back attach
      else return missing attach) w := by
  simp only [sat_alone_ask_bind]
  refine ⟨h, fun attach => ?_⟩
  have hasked : Assuming Covered (w.note (.attachKernelDriver idx) attach) :=
    h.note fun hc _ _ => hc.note _ _ (by simp)
  split
  · rename_i hback
    have hdisarmed := h.handBack hfree hback
    simp only [sat_alone_update_bind, sat_alone_pure]
    exact ⟨hasked, hdisarmed, hdisarmed⟩
  · exact sat_alone_pure.2 ⟨hasked, hasked⟩

/-- Disarming after a detach that failed hard: the driver is missing only if it was before. -/
theorem Assuming.detachFailed {r : Int}
    (h : Assuming Covered (w.note (.detachKernelDriver idx) r))
    (hfree : Mask.has w.state.claimed idx = false) (hr : driverSettled r = false) :
    Assuming Covered ((w.note (.detachKernelDriver idx) r).update (reattachGuardDisarm idx)) := by
  intro h1 h2
  have hthere : driverGone idx w.log = false := by
    simpa [detachFailsInPlace, hr] using (answers_snoc.1 h2).2
  refine (h h1 h2).disarm ?_ hfree
  rw [World.note_log, driverGone_snoc, noteDriver, hthere, if_neg]
  rintro ⟨-, rfl⟩
  exact absurd hr (by decide)

/-- `uvc_claim_if` keeps every driver covered. -/
theorem claimIf_sat (hi : idx < 32) (h : Assuming Covered w) :
    Sat alone (Assuming Covered) (fun _ => Assuming Covered) (claimIf idx) w := by
  simp only [claimIf, sat_alone_load_bind]
  refine ⟨h, ?_⟩
  split
  · exact sat_alone_pure.2 ⟨h, h⟩
  · rename_i hfree
    rw [Bool.not_eq_true] at hfree
    refine sat_bind (armReattachGuard_sat hi h) ?_
    rintro _ u ⟨hu, hclaimed⟩
    rw [← hclaimed] at hfree
    simp only [sat_alone_ask_bind]
    refine ⟨fun h1 h2 => (hu h1 h2).1, fun detach => ?_⟩
    have hd : Assuming (fun v => Covered v ∧ armed idx v.state = true)
        (u.note (.detachKernelDriver idx) detach) :=
      hu.note fun hc _ _ => ⟨hc.1.note _ _ (by rintro j ⟨⟩; exact hc.2), hc.2⟩
    have hd' : Assuming Covered (u.note (.detachKernelDriver idx) detach) :=
      fun h1 h2 => (hd h1 h2).1
    split
    · rename_i hhard
      rw [Bool.not_eq_true'] at hhard
      have hdis := hd'.detachFailed hfree hhard
      simp only [sat_alone_update_bind, sat_alone_pure]
      exact ⟨hd', hdis, hdis⟩
    · simp only [sat_alone_ask_bind]
      refine ⟨hd', fun ret => ?_⟩
      have hr : Assuming (fun v => Covered v ∧ armed idx v.state = true)
          ((u.note (.detachKernelDriver idx) detach).note (.claimInterface idx) ret) :=
        hd.note fun hc _ _ => ⟨hc.1.note _ _ (by simp), hc.2⟩
      have hr' : Assuming Covered
          ((u.note (.detachKernelDriver idx) detach).note (.claimInterface idx) ret) :=
        fun h1 h2 => (hr h1 h2).1
      split
      · simp only [sat_alone_update_bind, sat_alone_pure]
        have hcl := hr.update fun hc => Covered.claim hc.1 hc.2
        exact ⟨hr', hcl, hcl⟩
      · exact handBack_sat hr' hfree (fun _ => ret) fun _ => ret

/-- `uvc_release_if` keeps every driver covered. -/
theorem releaseIf_sat (h : Assuming Covered w) :
    Sat alone (Assuming Covered) (fun _ => Assuming Covered) (releaseIf idx) w := by
  simp only [releaseIf, sat_alone_load_bind]
  refine ⟨h, ?_⟩
  split
  · exact sat_alone_pure.2 ⟨h, h⟩
  · simp only [sat_alone_ask_bind]
    refine ⟨h, fun alt => ?_⟩
    have h1 : Assuming Covered (w.note (.setInterfaceAltSetting idx) alt) :=
      h.note fun hc _ _ => hc.note _ _ (by simp)
    refine ⟨h1, fun ret => ?_⟩
    have h2 : Assuming Covered
        ((w.note (.setInterfaceAltSetting idx) alt).note (.releaseInterface idx) ret) :=
      h1.note fun hc _ _ => hc.note _ _ (by simp)
    split
    · have h3 := h2.update (Covered.unclaim idx)
      rw [sat_alone_update_bind]
      exact ⟨h2, handBack_sat h3 (Mask.has_erase_self _ _) (fun _ => Ret.success) id⟩
    · exact sat_alone_pure.2 ⟨h2, h2⟩

/-! ## Sequences of calls -/

theorem ifCalls_sat (cs : List IfCall) :
    ∀ {w : World DevHandle UsbCall}, Assuming Covered w →
      Sat alone (Assuming Covered) (fun _ => Assuming Covered) (ifCalls cs) w := by
  induction cs with
  | nil => exact fun h => sat_alone_pure.2 ⟨h, h⟩
  | cons c cs ih =>
    intro w h
    have hc : Sat alone (Assuming Covered) (fun _ => Assuming Covered) c.prog w := by
      cases c with
      | claim i => exact claimIf_sat i.isLt h
      | release i => exact releaseIf_sat h
    exact sat_bind hc fun _ _ hu => ih hu

/-- A handle nothing has been claimed on yet. -/
def freshHandle (ctrlIf : Nat) : World DevHandle UsbCall := ⟨{ ctrlIf := ctrlIf }, []⟩

theorem freshHandle_covered (ctrlIf : Nat) : Covered (freshHandle ctrlIf) :=
  fun _ _ => ⟨fun h => absurd h (by simp [freshHandle, driverGone]),
    fun h => absurd h (by simp [freshHandle])⟩

/-- **The reattach guard covers every driver this process removed.**  On a handle whose guard comes
up, at every moment of every sequence of `uvc_claim_if` and `uvc_release_if` calls, whatever libusb
answers: every interface whose driver has been detached and not handed back is armed, and so is
every claimed one — provided that no detach so far has failed hard on an interface whose driver was
missing already. -/
theorem ifCalls_covered (ctrlIf : Nat) (cs : List IfCall) (q : DevProg Unit)
    (u : World DevHandle UsbCall)
    (hrun : Relation.ReflTransGen (Step alone) (ifCalls cs, freshHandle ctrlIf) (q, u))
    (hup : Answers guardComesUp u.log) (hplace : Answers detachFailsInPlace u.log) :
    ∀ idx < 32, (driverGone idx u.log = true → armed idx u.state = true) ∧
      (Mask.has u.state.claimed idx = true → armed idx u.state = true) :=
  ((ifCalls_sat cs fun _ _ => freshHandle_covered ctrlIf).sound hrun).1 hup hplace

/-- A claim of interface 0 that takes the driver away, fails, and hands it back. -/
theorem ifCalls_covered_busy :
    let u := (runWith (ifCalls [.claim 0]) [0, 0, 0, -6, 0] (freshHandle 0)).2
    u.log.length = 5 ∧
    ∀ idx < 32, (driverGone idx u.log = true → armed idx u.state = true) ∧
      (Mask.has u.state.claimed idx = true → armed idx u.state = true) :=
  ⟨rfl, ifCalls_covered 0 [.claim 0] _ _ (steps_runWith _ [0, 0, 0, -6, 0] _)
    (by decide) (by decide)⟩

/-- Interface 0 is claimed twice.  The first call detaches the driver, loses the claim to somebody
else and cannot hand the driver back; the second call's detach fails.  The driver is gone and
nobody knows. -/
theorem claimIf_twice_uncovered :
    ∃ (q : DevProg Unit) (u : World DevHandle UsbCall),
      Relation.ReflTransGen (Step alone) (ifCalls [.claim 0, .claim 0], freshHandle 0) (q, u) ∧
      Answers guardComesUp u.log ∧ driverGone 0 u.log = true ∧ armed 0 u.state = false :=
  ⟨_, _, steps_runWith _ [0, 0, 0, -6, -1, -1] _, by decide, by decide, by decide⟩

end Device
end LibUvc
