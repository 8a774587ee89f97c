import LibUvc.Device.Helper

/-!
# A process that is killed

Here the code that claims and releases interfaces runs inside the process whose guard it arms.  The
mask a device handle sees through its guard is a field of the record that the helper was given, so
an act of the code that changes one changes the other.  `GuardedStep` lets the code, the steps of
`uvc_reattach_guard_create`, the helper and all other processes take turns in any order, and the
guarded process may be killed between any two steps.

`killed_reattached` says what this whole apparatus is for: a driver that was taken away and not
given back when the process died is asked for by the helper, which does nothing as long as the
process lives.
-/

set_option autoImplicit false

namespace LibUvc
namespace Device

open Processes Prog

/-- The code of the guarded process, its view of the device, and everything around it. -/
structure Guarded where
  prog : DevProg Unit
  world : World DevHandle UsbCall
  sys : GuardSystem

/-- The mask of a handle's guard is `guard->record->armed`. -/
def GuardSystem.store (s : GuardSystem) (d : DevHandle) : GuardSystem :=
  match d.reattachGuard with
  | none => s
  | some mask => { s with record := { s.record with armed := mask } }

/-- The code is in `uvc_reattach_guard_create`. -/
def Guarded.creates (g : Guarded) (next : Int → DevProg Unit) : Prop :=
  g.prog = .call .reattachGuardCreate next

/-- One step of anybody. -/
inductive GuardedStep (dev : DeviceId) : Guarded → Guarded → Prop
  /-- The process runs its code. -/
  | code {g : Guarded} {q : DevProg Unit} {u : World DevHandle UsbCall} {stage : HostStage}
      (halive : g.sys.stage = some stage) (hcall : ∀ next, ¬ g.creates next)
      (hstep : Step alone (g.prog, g.world) (q, u)) :
      GuardedStep dev g ⟨q, u, g.sys.store u.state⟩
  /-- A step of `uvc_reattach_guard_create`, or of others meanwhile. -/
  | creating {g : Guarded} {next : Int → DevProg Unit} {stage : HostStage} {t : GuardSystem}
      (hcall : g.creates next) (halive : g.sys.stage = some stage) (hready : stage ≠ .ready)
      (hs : GuardStep dev False g.sys t) : GuardedStep dev g { g with sys := t }
  | created {g : Guarded} {next : Int → DevProg Unit} (hcall : g.creates next)
      (hready : g.sys.stage = some .ready) :
      GuardedStep dev g { g with
        prog := next Ret.success, world := g.world.note .reattachGuardCreate Ret.success }
  | notCreated {g : Guarded} {next : Int → DevProg Unit} (hcall : g.creates next)
      (hfailed : g.sys.stage = some .failed) {r : Int} (hr : r ≠ Ret.success) :
      GuardedStep dev g { g with
        prog := next r, world := g.world.note .reattachGuardCreate r }
  /-- A step of somebody else, or the end of the process. -/
  | around {g : Guarded} {t : GuardSystem} (hs : GuardStep dev False g.sys t)
      (hstage : t.stage = g.sys.stage ∨ t.stage = none) (hrecord : t.record = g.sys.record) :
      GuardedStep dev g { g with sys := t }

/-! ## What ties the code to its guard -/

/-- A handle has a guard only if one was made. -/
def Made (w : World DevHandle UsbCall) : Prop :=
  w.state.reattachGuard ≠ none → (.reattachGuardCreate, Ret.success) ∈ w.log

theorem Made.note {w : World DevHandle UsbCall} (h : Made w) (k : UsbCall) (r : Int) :
    Made (w.note k r) := fun hn => List.mem_append_left _ (h hn)

theorem Made.update {w : World DevHandle UsbCall} (h : Made w) {f : DevHandle → DevHandle}
    (hf : (f w.state).reattachGuard ≠ none → w.state.reattachGuard ≠ none) : Made (w.update f) :=
  fun hn => h (hf hn)

theorem reattachGuardArm_of_none {idx : Nat} {d : DevHandle} (h : d.reattachGuard = none) :
    (reattachGuardArm idx d).reattachGuard = none := by
  simp only [reattachGuardArm, h]

theorem reattachGuardDisarm_of_none {idx : Nat} {d : DevHandle} (h : d.reattachGuard = none) :
    (reattachGuardDisarm idx d).reattachGuard = none := by
  simp only [reattachGuardDisarm, h]

theorem Made.arm {w : World DevHandle UsbCall} (h : Made w) (idx : Nat) :
    Made (w.update (reattachGuardArm idx)) :=
  h.update fun hn hc => hn (reattachGuardArm_of_none hc)

theorem Made.disarm {w : World DevHandle UsbCall} (h : Made w) (idx : Nat) :
    Made (w.update (reattachGuardDisarm idx)) :=
  h.update fun hn hc => hn (reattachGuardDisarm_of_none hc)

theorem armReattachGuard_made {w : World DevHandle UsbCall} (h : Made w) (idx : Nat) :
    Sat alone Made (fun _ => Made) (armReattachGuard idx) w := by
  simp only [armReattachGuard, sat_alone_load_bind]
  refine ⟨h, ?_⟩
  split
  · simp only [sat_alone_ask_bind]
    refine ⟨h, fun r => ?_⟩
    split
    · exact sat_alone_pure.2 ⟨h.note _ _, h.note _ _⟩
    · simp only [sat_alone_ask_bind]
      refine ⟨h.note _ _, fun g => ?_⟩
      split
      · exact sat_alone_pure.2 ⟨(h.note _ _).note _ _, (h.note _ _).note _ _⟩
      · rename_i hg
        rw [not_not] at hg
        simp only [sat_alone_update_bind, sat_alone_update]
        have hmade : Made (((w.note .getDeviceDescriptor r).note .reattachGuardCreate g).update
            fun d => { d with reattachGuard := some 0#32 }) := by
          intro _
          simp [hg]
        exact ⟨(h.note _ _).note _ _, hmade, hmade.arm idx, hmade.arm idx⟩
  · simp only [sat_alone_update]
    exact ⟨h, h.arm idx, h.arm idx⟩

theorem handBack_made {w : World DevHandle UsbCall} (h : Made w) (idx : Nat)
    (back missing : Int → Ret) :
    Sat alone Made (fun _ => Made) (do
      let attach ← ask (.attachKernelDriver idx)
      if driverSettled attach then
        update (reattachGuardDisarm idx)
        return back attach
      else return missing attach) w := by
  simp only [sat_alone_ask_bind]
  refine ⟨h, fun attach => ?_⟩
  split
  · simp only [sat_alone_update_bind, sat_alone_pure]
    exact ⟨h.note _ _, (h.note _ _).disarm idx, (h.note _ _).disarm idx⟩
  · exact sat_alone_pure.2 ⟨h.note _ _, h.note _ _⟩

theorem claimIf_made {w : World DevHandle UsbCall} (h : Made w) (idx : Nat) :
    Sat alone Made (fun _ => Made) (claimIf idx) w := by
  simp only [claimIf, sat_alone_load_bind]
  refine ⟨h, ?_⟩
  split
  · exact sat_alone_pure.2 ⟨h, h⟩
  · refine sat_bind (armReattachGuard_made h idx) fun _ u hu => ?_
    simp only [sat_alone_ask_bind]
    refine ⟨hu, fun detach => ?_⟩
    split
    · simp only [sat_alone_update_bind, sat_alone_pure]
      exact ⟨hu.note _ _, (hu.note _ _).disarm idx, (hu.note _ _).disarm idx⟩
    · simp only [sat_alone_ask_bind]
      refine ⟨hu.note _ _, fun ret => ?_⟩
      have hret := (hu.note (.detachKernelDriver idx) detach).note (.claimInterface idx) ret
      split
      · simp only [sat_alone_update_bind, sat_alone_pure]
        exact ⟨hret, hret.update id, hret.update id⟩
      · exact handBack_made hret idx (fun _ => ret) fun _ => ret

theorem releaseIf_made {w : World DevHandle UsbCall} (h : Made w) (idx : Nat) :
    Sat alone Made (fun _ => Made) (releaseIf idx) w := by
  simp only [releaseIf, sat_alone_load_bind]
  refine ⟨h, ?_⟩
  split
  · exact sat_alone_pure.2 ⟨h, h⟩
  · simp only [sat_alone_ask_bind]
    refine ⟨h, fun alt => ⟨h.note _ _, fun ret => ?_⟩⟩
    have hret := (h.note (.setInterfaceAltSetting idx) alt).note (.releaseInterface idx) ret
    split
    · rw [sat_alone_update_bind]
      exact ⟨hret, handBack_made (hret.update id) idx (fun _ => Ret.success) id⟩
    · exact sat_alone_pure.2 ⟨hret, hret⟩

/-- In every sequence of calls, there is a guard only if one was made. -/
theorem ifCalls_made (cs : List IfCall) :
    ∀ {w : World DevHandle UsbCall}, Made w → Sat alone Made (fun _ => Made) (ifCalls cs) w := by
  induction cs with
  | nil => exact fun h => sat_alone_pure.2 ⟨h, h⟩
  | cons c cs ih =>
    intro w h
    have hc : Sat alone Made (fun _ => Made) c.prog w := by
      cases c with
      | claim i => exact claimIf_made h i
      | release i => exact releaseIf_made h i
    exact sat_bind hc fun _ _ hu => ih hu

/-! ## Runs -/

/-- What holds in every state of a run. -/
structure Tied (g : Guarded) : Prop where
  covered : Sat alone (Assuming Covered) (fun _ => Assuming Covered) g.prog g.world
  made : Sat alone Made (fun _ => Made) g.prog g.world
  wired : g.sys.Wired False
  busy : g.sys.Busy
  ready : (.reattachGuardCreate, Ret.success) ∈ g.world.log →
    g.sys.record.magic = reattachMagic ∧ ∀ st, g.sys.stage = some st → st = .ready
  kept : ∀ st, g.sys.stage = some st → st ≠ .destroyed
  armed : ∀ mask, g.world.state.reattachGuard = some mask → g.sys.record.armed = mask

@[simp] theorem GuardSystem.store_procs (s : GuardSystem) (d : DevHandle) :
    (s.store d).procs = s.procs := by
  rw [store]
  split <;> rfl

@[simp] theorem GuardSystem.store_stage (s : GuardSystem) (d : DevHandle) :
    (s.store d).stage = s.stage := by
  rw [store]
  split <;> rfl

@[simp] theorem GuardSystem.store_magic (s : GuardSystem) (d : DevHandle) :
    (s.store d).record.magic = s.record.magic := by
  rw [store]
  split <;> rfl

theorem GuardSystem.store_armed (s : GuardSystem) {d : DevHandle} {mask : IfMask}
    (h : d.reattachGuard = some mask) : (s.store d).record.armed = mask := by
  rw [store, h]

/-- Writing the mask is what `uvc_reattach_guard_arm` and `uvc_reattach_guard_disarm` do. -/
theorem GuardSystem.Wired.store {s : GuardSystem} {d : DevHandle} (h : s.Wired False)
    (hready : d.reattachGuard ≠ none → s.stage = some .ready) : (s.store d).Wired False := by
  cases hd : d.reattachGuard with
  | none =>
    rw [GuardSystem.store, hd]
    exact h
  | some mask =>
    obtain ⟨p, hp⟩ := GuardSystem.stage_eq_some.1 (hready (by simp [hd]))
    rw [GuardSystem.store, hd]
    exact h.write hp rfl

theorem GuardSystem.Busy.store {s : GuardSystem} (h : s.Busy) (d : DevHandle) :
    (s.store d).Busy := by
  rw [GuardSystem.store]
  split
  · exact h
  · exact h

/-- The calls of a step of the code other than the one that makes a guard. -/
theorem mem_log_of_step {p q : DevProg Unit} {w u : World DevHandle UsbCall}
    (hs : Step alone (p, w) (q, u)) (hcall : ∀ next, p ≠ .call .reattachGuardCreate next)
    (h : (.reattachGuardCreate, Ret.success) ∈ u.log) :
    (.reattachGuardCreate, Ret.success) ∈ w.log := by
  cases hs with
  | act => exact h
  | call k next _ r =>
    rw [World.note_log, List.mem_append, List.mem_singleton] at h
    rcases h with h | h
    · exact h
    · cases h
      exact absurd rfl (hcall next)
  | env _ hr => exact hr.elim

section Steps

variable {dev : DeviceId} {g g' : Guarded}

theorem Tied.code (h : Tied g) {q : DevProg Unit} {u : World DevHandle UsbCall} {stage : HostStage}
    (halive : g.sys.stage = some stage) (hcall : ∀ next, ¬ g.creates next)
    (hstep : Step alone (g.prog, g.world) (q, u)) : Tied ⟨q, u, g.sys.store u.state⟩ := by
  have hmade := h.made.step hstep
  have hlog := mem_log_of_step hstep hcall
  refine ⟨h.covered.step hstep, hmade, h.wired.store fun hn => ?_, h.busy.store _,
    fun hc => ?_, fun st hst => ?_,
    fun mask hmask => GuardSystem.store_armed _ hmask⟩
  · rw [halive, (h.ready (hlog (hmade.inv hn))).2 stage halive]
  · rw [GuardSystem.store_magic, GuardSystem.store_stage]
    exact h.ready (hlog hc)
  · rw [GuardSystem.store_stage] at hst
    exact h.kept st hst

theorem Tied.creating (h : Tied g) {stage : HostStage} {t : GuardSystem}
    (halive : g.sys.stage = some stage) (hready : stage ≠ .ready)
    (hs : GuardStep dev False g.sys t) : Tied { g with sys := t } := by
  have hnot : (.reattachGuardCreate, Ret.success) ∉ g.world.log :=
    fun hc => hready ((h.ready hc).2 stage halive)
  have hnone : g.world.state.reattachGuard = none := by
    by_contra hn
    exact hnot (h.made.inv hn)
  refine ⟨h.covered, h.made, h.wired.step hs, h.busy.step hs, fun hc => absurd hc hnot,
    fun st hst => ?_,
    fun mask hmask => absurd hnone (by simp [show g.world.state.reattachGuard = _ from hmask])⟩
  rcases GuardSystem.stage_step hs hst with hst | ⟨stage', hstage', hnext⟩
  · exact h.kept st hst
  · obtain rfl := Option.some.inj (halive.symm.trans hstage')
    rintro rfl
    cases stage with
    | ready => exact hready rfl
    | readClosed child => cases child <;> exact absurd hnext (by simp [HostStage.Next])
    | _ => exact absurd hnext (by simp [HostStage.Next])

theorem Tied.created (h : Tied g) {next : Int → DevProg Unit} (hcall : g.creates next)
    (hready : g.sys.stage = some .ready) :
    Tied { g with
      prog := next Ret.success, world := g.world.note .reattachGuardCreate Ret.success } := by
  have hstep : Step alone (g.prog, g.world)
      (next Ret.success, g.world.note .reattachGuardCreate Ret.success) := by
    rw [hcall]
    exact .call _ _ _ _
  refine ⟨h.covered.step hstep, h.made.step hstep, h.wired, h.busy,
    fun _ => ⟨?_, fun st hst => ?_⟩, h.kept, h.armed⟩
  · exact h.wired.marked (h.wired.memory _ hready).2
  · exact Option.some.inj (hst.symm.trans hready)

theorem Tied.notCreated (h : Tied g) {next : Int → DevProg Unit} (hcall : g.creates next) {r : Int}
    (hr : r ≠ Ret.success) :
    Tied { g with prog := next r, world := g.world.note .reattachGuardCreate r } := by
  have hstep : Step alone (g.prog, g.world) (next r, g.world.note .reattachGuardCreate r) := by
    rw [hcall]
    exact .call _ _ _ _
  refine ⟨h.covered.step hstep, h.made.step hstep, h.wired, h.busy, fun hc => h.ready ?_, h.kept,
    h.armed⟩
  rcases List.mem_append.1 hc with hc | hc
  · exact hc
  · exact absurd (congrArg Prod.snd (List.mem_singleton.1 hc)).symm hr

theorem Tied.around (h : Tied g) {t : GuardSystem} (hs : GuardStep dev False g.sys t)
    (hstage : t.stage = g.sys.stage ∨ t.stage = none) (hrecord : t.record = g.sys.record) :
    Tied { g with sys := t } := by
  have hback : ∀ st, t.stage = some st → g.sys.stage = some st := by
    intro st hst
    rcases hstage with he | he
    · exact he ▸ hst
    · exact absurd hst (by simp [he])
  refine ⟨h.covered, h.made, h.wired.step hs, h.busy.step hs, fun hc => ?_,
    fun st hst => h.kept st (hback st hst), fun mask hmask => hrecord ▸ h.armed mask hmask⟩
  exact ⟨hrecord ▸ (h.ready hc).1, fun st hst => (h.ready hc).2 st (hback st hst)⟩

/-- **Every step keeps code and guard tied.** -/
theorem Tied.step (h : Tied g) (hs : GuardedStep dev g g') : Tied g' := by
  cases hs with
  | code halive hcall hstep => exact h.code halive hcall hstep
  | creating hcall halive hready hs => exact h.creating halive hready hs
  | created hcall hready => exact h.created hcall hready
  | notCreated hcall hfailed hr => exact h.notCreated hcall hr
  | around hs hstage hrecord => exact h.around hs hstage hrecord

theorem Tied.run (h : Tied g) (hrun : Relation.ReflTransGen (GuardedStep dev) g g') : Tied g' := by
  induction hrun with
  | refl => exact h
  | tail _ hlast ih => exact ih.step hlast

end Steps

/-- A process that is about to make the calls, with nothing claimed and no guard. -/
def guarded (ctrlIf : Nat) (cs : List IfCall) (sys : GuardSystem) : Guarded :=
  ⟨ifCalls cs, freshHandle ctrlIf, sys⟩

theorem guarded_tied (ctrlIf : Nat) (cs : List IfCall) {sys : GuardSystem} (h : sys.Initial) :
    Tied (guarded ctrlIf cs sys) := by
  have hstart : ∀ st, sys.stage = some st → st = .start := by
    intro st hst
    obtain ⟨p, hp⟩ := h.host
    exact Option.some.inj (hst.symm.trans hp.stage)
  refine ⟨ifCalls_sat cs fun _ _ => freshHandle_covered ctrlIf,
    ifCalls_made cs fun hn => absurd rfl hn, h.wired, h.busy,
    fun hc => absurd hc (by simp [guarded, freshHandle]), fun st hst => ?_,
    fun mask hmask => absurd hmask (by simp [guarded, freshHandle])⟩
  rw [hstart st hst]
  simp

/-- When the process is gone, what the others do is a run of the whole. -/
theorem run_around {dev : DeviceId} {g : Guarded} {t : GuardSystem} (h : g.sys.stage = none)
    (hrun : Relation.ReflTransGen (GuardStep dev False) g.sys t) :
    t.stage = none ∧ Relation.ReflTransGen (GuardedStep dev) g { g with sys := t } := by
  induction hrun with
  | refl => exact ⟨h, .refl⟩
  | @tail b c _ hlast ih =>
    obtain ⟨hgone, hrecord⟩ := GuardSystem.gone_step hlast ih.1
    have hstep : GuardedStep dev { g with sys := b } { g with sys := c } :=
      .around hlast (.inr hgone) hrecord
    exact ⟨hgone, ih.2.tail hstep⟩

/-- **A killed process's drivers are put back.**  The process makes any calls of `uvc_claim_if` and
`uvc_release_if` and is killed, or execs, at any moment, also within `uvc_reattach_guard_create`;
other processes come and go.  As long as it lives the helper calls nothing.  When it is gone and no
other process holds the write end, the helper can always finish, as long as the number of its own
copy was below the limit of `close_inherited_fds`.  And a helper that is done has tried to open the
device without success, or asked for the driver of every interface below 32 whose driver was
detached and not handed back. -/
theorem killed_reattached {dev : DeviceId} {ctrlIf : Nat} {cs : List IfCall} {sys : GuardSystem}
    {g : Guarded} (h : sys.Initial)
    (hrun : Relation.ReflTransGen (GuardedStep dev) (guarded ctrlIf cs sys) g)
    (hup : Answers guardComesUp g.world.log) (hplace : Answers detachFailsInPlace g.world.log) :
    (g.sys.stage ≠ none → g.sys.log = []) ∧
    (∀ pid stage p, g.sys.stage = none → g.sys.Is pid (.helper stage) p →
      (∀ q r, q ≠ pid → g.sys.procs q = some r → ¬ r.Has (.pipe g.sys.notify.id true)) →
      g.sys.notify.writeFd < g.sys.notify.scanLimit →
      ∃ t, Relation.ReflTransGen (GuardedStep dev) g { g with sys := t } ∧
        t.repair = some (pure ())) ∧
    (g.sys.repair = some (pure ()) → ∀ idx < 32, driverGone idx g.world.log = true →
      (∃ fd < 0, g.sys.log.filter isBackend = [(.openDevice g.sys.record, fd)]) ∨
        ∃ fd r, (.rebind fd (UInt8.ofNat idx), r) ∈ g.sys.log) := by
  have htied := (guarded_tied ctrlIf cs h).run hrun
  refine ⟨?_, ?_, ?_⟩
  · intro halive
    by_contra hlog
    obtain ⟨st, hst⟩ := Option.ne_none_iff_exists'.1 halive
    obtain ⟨prog, hprog⟩ : ∃ prog, g.sys.repair = some prog :=
      Option.ne_none_iff_exists'.1 fun hc => hlog (htied.wired.silent hc)
    exact htied.kept st hst ((htied.wired.awake id prog hprog).ended st hst)
  · intro pid stage p hgone hp halone hlimit
    obtain ⟨t, hfinish, -, -, hdone⟩ := htied.wired.finishes htied.busy hp halone hlimit
    exact ⟨t, (run_around hgone hfinish).2, hdone⟩
  · intro hdone idx hidx hgone
    have harmed : armed idx g.world.state = true := (htied.covered.inv hup hplace idx hidx).1 hgone
    cases hguard : g.world.state.reattachGuard with
    | none => exact absurd harmed (by simp [armed_of_none hguard])
    | some mask =>
      have hmask := htied.armed mask hguard
      have hmagic := (htied.ready (htied.made.inv (by simp [hguard]))).1
      have hmem : idx ∈ armedInterfaces g.sys.record.armed := by
        rw [mem_armedInterfaces, hmask]
        rwa [armed, reattachGuardArmedMask, hguard] at harmed
      have ha : g.sys.record.armed ≠ 0#32 := by
        intro ha
        rw [mem_armedInterfaces, ha, Mask.has_zero] at hmem
        exact absurd hmem (by simp)
      obtain ⟨fd, ⟨hfd, hlog⟩ | ⟨-, blocks, r, hblocks, hlog⟩⟩ :=
        (htied.wired.reattached id hdone).opened hmagic ha
      · exact .inl ⟨fd, hfd, hlog⟩
      · obtain ⟨r', hr'⟩ := exists_rebind_of_mem hblocks hmem
        have hcall : (.rebind fd (UInt8.ofNat idx), r') ∈ g.sys.log.filter isBackend := by
          rw [hlog]
          simp [hr']
        exact .inr ⟨fd, r', (List.mem_filter.1 hcall).1⟩

section Killed

variable {dev : DeviceId} {w : World DevHandle UsbCall} {s t : GuardSystem}

theorem GuardedStep.act (stage : HostStage) {f : DevHandle → DevHandle}
    {next : DevHandle → DevProg Unit} (h : s.stage = some stage) :
    GuardedStep dev ⟨.act f next, w, s⟩ ⟨next w.state, w.update f, s.store (f w.state)⟩ :=
  .code h (fun _ hc => by cases hc) (.act f next w)

theorem GuardedStep.call (stage : HostStage) {k : UsbCall} {next : Int → DevProg Unit}
    (h : s.stage = some stage) (hk : k ≠ .reattachGuardCreate) (r : Int) :
    GuardedStep dev ⟨.call k next, w, s⟩ ⟨next r, w.note k r, s.store w.state⟩ :=
  .code h (fun _ hc => by cases hc; exact hk rfl) (.call k next w r)

theorem GuardedStep.make (stage : HostStage) {next : Int → DevProg Unit} (h : s.stage = some stage)
    (hs : GuardStep dev False s t) (hready : stage ≠ .ready) :
    GuardedStep dev ⟨.call .reattachGuardCreate next, w, s⟩
      ⟨.call .reattachGuardCreate next, w, t⟩ :=
  .creating rfl h hready hs

/-- The process is killed right after it has taken the driver of interface 0 away. -/
theorem exists_detached (dev : DeviceId) :
    ∃ g p, Relation.ReflTransGen (GuardedStep dev)
        (guarded 0 [.claim 0] GuardSystem.single) g ∧
      g.world.log =
        [(.getDeviceDescriptor, 0), (.reattachGuardCreate, 0), (.detachKernelDriver 0, 0)] ∧
      g.sys.stage = none ∧ g.sys.Is 2 (.helper .start) p ∧
      (∀ q r, q ≠ 2 → g.sys.procs q = some r → ¬ r.Has (.pipe g.sys.notify.id true)) ∧
      g.sys.notify.writeFd < g.sys.notify.scanLimit := by
  refine ⟨_, _, (((((((((((((((Relation.ReflTransGen.refl.tail
    (.act .start rfl)).tail
    (.act .start rfl)).tail
    (.call .start rfl (by decide) 0)).tail
    (.make .start rfl (.calloc ⟨rfl, rfl⟩) (by decide))).tail
    (.make .allocated rfl (.mmap ⟨rfl, rfl⟩) (by decide))).tail
    (.make .mapped rfl (.pipe2 ⟨rfl, rfl⟩ (r := 3) (w := 4) rfl rfl (by decide) 1024)
      (by decide))).tail
    (.make .piped rfl (@GuardStep.fork dev False _ _ ⟨rfl, rfl⟩ 1 ⟨rfl, by decide⟩)
      (by decide))).tail
    (.make (.forked (some 1)) rfl
      (@GuardStep.forkHelper dev False _ 1 2 _ ⟨rfl, rfl⟩ ⟨rfl, by decide⟩) (by decide))).tail
    (.make (.forked (some 1)) rfl (@GuardStep.exitIntermediate dev False _ 1 _ ⟨rfl, rfl⟩)
      (by decide))).tail
    (.make (.forked (some 1)) rfl (.closeRead ⟨rfl, rfl⟩) (by decide))).tail
    (.make (.readClosed (some 1)) rfl (.waitpid ⟨rfl, rfl⟩ ⟨rfl, rfl⟩) (by decide))).tail
    (.created rfl rfl)).tail
    (.act .ready rfl)).tail
    (.act .ready rfl)).tail
    (.call .ready rfl (by decide) 0)).tail
    (.around (@GuardStep.die dev False _ hostPid _ _ ⟨rfl, rfl⟩ rfl) (.inr rfl) rfl),
    rfl, rfl, ⟨rfl, rfl⟩, ?_, ?_⟩
  · intro q r hq hr
    by_cases h0 : q = hostPid
    · subst h0
      cases hr
    · by_cases h1 : q = 1
      · subst h1
        cases hr
      · simp [GuardSystem.single, Table.set_apply, Table.drop_apply, hq, h0, h1] at hr
  · exact (by decide : 4 < fdScanLimit 1024)

/-- Its helper asks for the driver, or cannot open the device. -/
theorem killed_reattached_detached :
    ∃ g, Relation.ReflTransGen (GuardedStep GuardSystem.camera)
        (guarded 0 [.claim 0] GuardSystem.single) g ∧
      driverGone 0 g.world.log = true ∧
      ((∃ fd < 0, g.sys.log.filter isBackend = [(.openDevice g.sys.record, fd)]) ∨
        ∃ fd r, (.rebind fd 0, r) ∈ g.sys.log) := by
  obtain ⟨g, p, hrun, hlog, hgone, hp, halone, hlimit⟩ := exists_detached GuardSystem.camera
  have hup : Answers guardComesUp g.world.log := by rw [hlog]; decide
  have hplace : Answers detachFailsInPlace g.world.log := by rw [hlog]; decide
  have hdriver : driverGone 0 g.world.log = true := by rw [hlog]; decide
  obtain ⟨t, hfinish, hdone⟩ :=
    (killed_reattached GuardSystem.single_initial hrun hup hplace).2.1 2 .start p hgone hp halone
      hlimit
  exact ⟨{ g with sys := t }, hrun.trans hfinish, hdriver,
    (killed_reattached GuardSystem.single_initial (hrun.trans hfinish) hup hplace).2.2 hdone 0
      (by decide) hdriver⟩

end Killed

end Device
end LibUvc
