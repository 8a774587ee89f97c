import LibUvc.Device.Guard
import Mathlib.Data.List.Forall2

/-!
# What the woken helper does

The helper process of the reattach guard sleeps until the process that armed it is gone.  It then
looks at the record the two shared and, through a `uvc_reattach_backend_t`, has the kernel probe the
armed interfaces again.  The kernel answers `-EBUSY` while the dead process's descriptors are still
being torn down, so each interface is tried a number of times.

The record is not written any more when the helper reads it, so it is a parameter here, and the
calls of the backend are answered by whoever plays the environment: every answer may depend on all
the calls before it.
-/

set_option autoImplicit false

namespace LibUvc
namespace Device

open Prog

/-! ## `reattach_armed_interfaces` -/

/-- `UVC_REATTACH_MAGIC`. -/
def reattachMagic : UInt32 := 0x55564347

/-- `UVC_REATTACH_RETRY_MS`. -/
def reattachRetryMs : Nat := 25

/-- `UVC_REATTACH_MAX_ATTEMPTS`. -/
def reattachMaxAttempts : Nat := 80

/-- `-EBUSY`. -/
def negEbusy : Int := -16

/-- `struct uvc_reattach_record`. -/
structure ReattachRecord where
  magic : UInt32
  armed : IfMask
  busnum : UInt8
  devnum : UInt8
  idVendor : UInt16
  idProduct : UInt16
  bcdDevice : UInt16
  deriving DecidableEq, Repr

/-- What the helper calls: the three functions of the backend, and `poll` to wait. -/
inductive HelperCall where
  | openDevice (record : ReattachRecord)
  | rebind (fd : Int) (interfaceNumber : UInt8)
  | closeDevice (fd : Int)
  | poll (timeout : Nat)
  deriving DecidableEq, Repr

/-- Code of the helper, which has no state of its own. -/
abbrev HelperProg := Prog Unit HelperCall

/-- The attempts that are left for one interface. -/
def rebindAttempts (fd : Int) (interfaceNumber : UInt8) : Nat → HelperProg Unit
  | 0 => pure ()
  | left + 1 => do
    let r ← ask (.rebind fd interfaceNumber)
    if r ≠ negEbusy then pure ()
    else
      let _ ← ask (.poll reattachRetryMs)
      rebindAttempts fd interfaceNumber left

/-- The loop over the interface numbers. -/
def rebindArmed (fd : Int) (armed : IfMask) : HelperProg Unit :=
  (List.range reattachMaxInterfaces).forM fun interfaceNumber =>
    when (Mask.has armed interfaceNumber)
      (rebindAttempts fd (UInt8.ofNat interfaceNumber) reattachMaxAttempts)

/-- `reattach_armed_interfaces`. -/
def reattachArmedInterfaces (record : ReattachRecord) : HelperProg Unit := do
  if record.magic ≠ reattachMagic then return ()
  let armed := record.armed
  if armed = 0#32 then return ()
  let fd ← ask (.openDevice record)
  if fd < 0 then return ()
  rebindArmed fd armed
  let _ ← ask (.closeDevice fd)
  return ()

/-! ## What it calls -/

/-- The calls of the helper and their answers. -/
abbrev HelperLog := List (HelperCall × Int)

/-- A call of the backend, and not just a wait. -/
def isBackend : HelperCall × Int → Bool
  | (.poll _, _) => false
  | _ => true

def isRebind : HelperCall × Int → Bool
  | (.rebind _ _, _) => true
  | _ => false

/-- The calls of the backend that `reattach_armed_interfaces` makes, when they are answered by
`backend`. -/
def backendCalls (backend : HelperLog → HelperCall → Int) (record : ReattachRecord) : HelperLog :=
  ((reattachArmedInterfaces record).play backend ⟨(), []⟩).2.log.filter isBackend

/-- `rebind` of one interface was called until its first answer other than `-EBUSY`, at most
`attempts` times. -/
def Tried (fd : Int) (interfaceNumber : UInt8) (attempts : Nat) (calls : HelperLog) : Prop :=
  calls = List.replicate attempts (.rebind fd interfaceNumber, negEbusy) ∨
    ∃ busy < attempts, ∃ r ≠ negEbusy,
      calls = List.replicate busy (.rebind fd interfaceNumber, negEbusy) ++
        [(.rebind fd interfaceNumber, r)]

/-- The interfaces a helper looks at, in the order it does. -/
def armedInterfaces (armed : IfMask) : List Nat :=
  (List.range reattachMaxInterfaces).filter (Mask.has armed)

/-- What the helper is for: nothing without a valid record that has something armed, nothing but the
attempt to open the device if that fails, and else one series of attempts for each armed interface
between an open and a close. -/
inductive Reattached (record : ReattachRecord) : HelperLog → Prop where
  | idle (h : record.magic ≠ reattachMagic ∨ record.armed = 0#32) : Reattached record []
  | unopened (hm : record.magic = reattachMagic) (ha : record.armed ≠ 0#32) (fd : Int)
      (hfd : fd < 0) : Reattached record [(.openDevice record, fd)]
  | done (hm : record.magic = reattachMagic) (ha : record.armed ≠ 0#32) (fd : Int) (hfd : 0 ≤ fd)
      (blocks : List HelperLog)
      (hblocks : List.Forall₂ (fun i => Tried fd (UInt8.ofNat i) reattachMaxAttempts)
        (armedInterfaces record.armed) blocks) (r : Int) :
      Reattached record
        ((.openDevice record, fd) :: (blocks.flatten ++ [(.closeDevice fd, r)]))

theorem Tried.busy {fd : Int} {i : UInt8} {left : Nat} {calls : HelperLog}
    (h : Tried fd i left calls) :
    Tried fd i (left + 1) ((.rebind fd i, negEbusy) :: calls) := by
  obtain rfl | ⟨busy, hlt, r, hr, rfl⟩ := h
  · exact .inl List.replicate_succ.symm
  · exact .inr ⟨busy + 1, by omega, r, hr, by rw [List.replicate_succ, List.cons_append]⟩

theorem Tried.answered {fd : Int} {i : UInt8} (left : Nat) {r : Int} (hr : r ≠ negEbusy) :
    Tried fd i (left + 1) [(.rebind fd i, r)] :=
  .inr ⟨0, by omega, r, hr, rfl⟩

theorem makes_rebindAttempts (fd : Int) (i : UInt8) (left : Nat) :
    Makes (fun _ calls => Tried fd i left (calls.filter isBackend)) (rebindAttempts fd i left) := by
  induction left with
  | zero => exact makes_pure (.inl rfl)
  | succ left ih =>
    refine makes_ask_bind fun r => ?_
    by_cases hr : r = negEbusy
    · subst hr
      rw [if_neg (not_not_intro rfl)]
      exact makes_ask_bind fun _ => ih.mono fun _ _ h => h.busy
    · rw [if_pos hr]
      exact makes_pure (.answered left hr)

/-- The blocks of calls, without the waits between the attempts. -/
theorem makes_rebindArmed (fd : Int) (armed : IfMask) :
    Makes (fun _ calls => ∃ blocks,
        List.Forall₂ (fun i => Tried fd (UInt8.ofNat i) reattachMaxAttempts)
          (armedInterfaces armed) blocks ∧ calls.filter isBackend = blocks.flatten)
      (rebindArmed fd armed) := by
  refine (makes_forM (fun i => makes_rebindAttempts fd (UInt8.ofNat i) reattachMaxAttempts)
    (List.range reattachMaxInterfaces)).mono ?_
  rintro _ _ ⟨blocks, hblocks, rfl⟩
  exact ⟨blocks.map (List.filter isBackend), List.forall₂_map_right_iff.2 hblocks,
    List.filter_flatten⟩

theorem makes_reattachArmedInterfaces (record : ReattachRecord) :
    Makes (fun _ calls => Reattached record (calls.filter isBackend))
      (reattachArmedInterfaces record) := by
  rw [reattachArmedInterfaces]
  by_cases hm : record.magic = reattachMagic
  · rw [if_neg (not_not_intro hm)]
    by_cases ha : record.armed = 0#32
    · rw [if_pos ha]
      exact makes_pure (.idle (.inr ha))
    · rw [if_neg ha]
      refine makes_ask_bind fun fd => ?_
      by_cases hfd : fd < 0
      · rw [if_pos hfd]
        exact makes_pure (.unopened hm ha fd hfd)
      · rw [if_neg hfd]
        refine (makes_rebindArmed fd record.armed).bind ?_
        rintro _ before ⟨blocks, hblocks, hbefore⟩
        refine makes_ask_bind fun r => makes_pure ?_
        simpa [List.filter_cons, isBackend, hbefore] using
          Reattached.done hm ha fd (by omega) blocks hblocks r
  · rw [if_pos hm]
    exact makes_pure (.idle (.inl hm))

theorem backendCalls_reattached (backend : HelperLog → HelperCall → Int)
    (record : ReattachRecord) : Reattached record (backendCalls backend record) :=
  (makes_reattachArmedInterfaces record).play backend ()

theorem mem_armedInterfaces {armed : IfMask} {i : Nat} :
    i ∈ armedInterfaces armed ↔ Mask.has armed i = true := by
  rw [armedInterfaces, List.mem_filter, List.mem_range]
  refine ⟨fun h => h.2, fun h => ⟨?_, h⟩⟩
  by_contra hi
  rw [reattachMaxInterfaces] at hi
  rw [Mask.has_eq, BitVec.getLsbD_of_ge _ _ (by omega)] at h
  exact absurd h (by simp)

/-- The interfaces are looked at in increasing order. -/
theorem pairwise_armedInterfaces (armed : IfMask) :
    (armedInterfaces armed).Pairwise (· < ·) :=
  List.pairwise_lt_range.filter _

theorem Tried.countP_le {fd : Int} {i : UInt8} {attempts : Nat} {calls : HelperLog}
    (h : Tried fd i attempts calls) : calls.countP isRebind ≤ attempts := by
  refine List.countP_le_length.trans ?_
  obtain rfl | ⟨busy, hlt, r, -, rfl⟩ := h
  · rw [List.length_replicate]
  · rw [List.length_append, List.length_replicate, List.length_singleton]
    omega

/-- No interface is tried more often than the budget allows, and so all of them together. -/
theorem countP_flatten_le {fd : Int} {attempts : Nat} {is : List Nat} {blocks : List HelperLog}
    (h : List.Forall₂ (fun i => Tried fd (UInt8.ofNat i) attempts) is blocks) :
    blocks.flatten.countP isRebind ≤ attempts * is.length := by
  induction h with
  | nil => simp
  | cons hi _ ih =>
    have hle := hi.countP_le
    rw [List.flatten_cons, List.countP_append, List.length_cons, Nat.mul_succ]
    omega

theorem Reattached.countP_le {record : ReattachRecord} {log : HelperLog}
    (h : Reattached record log) :
    log.countP isRebind ≤ reattachMaxAttempts * (armedInterfaces record.armed).length := by
  cases h with
  | idle => simp
  | unopened => simp [isRebind]
  | done hm ha fd hfd blocks hblocks r =>
    simpa [isRebind] using countP_flatten_le hblocks

theorem Reattached.eq_nil {record : ReattachRecord} {log : HelperLog} (h : Reattached record log)
    (hidle : record.magic ≠ reattachMagic ∨ record.armed = 0#32) : log = [] := by
  cases h with
  | idle => rfl
  | unopened hm ha => exact (hidle.elim (· hm) ha).elim
  | done hm ha => exact (hidle.elim (· hm) ha).elim

theorem Reattached.opened {record : ReattachRecord} {log : HelperLog} (h : Reattached record log)
    (hm : record.magic = reattachMagic) (ha : record.armed ≠ 0#32) :
    ∃ fd, (fd < 0 ∧ log = [(.openDevice record, fd)]) ∨
      (0 ≤ fd ∧ ∃ blocks r,
        List.Forall₂ (fun i => Tried fd (UInt8.ofNat i) reattachMaxAttempts)
          (armedInterfaces record.armed) blocks ∧
        log = (.openDevice record, fd) :: (blocks.flatten ++ [(.closeDevice fd, r)])) := by
  cases h with
  | idle hidle => exact (hidle.elim (· hm) ha).elim
  | unopened _ _ fd hfd => exact ⟨fd, .inl ⟨hfd, rfl⟩⟩
  | done _ _ fd hfd blocks hblocks r => exact ⟨fd, .inr ⟨hfd, blocks, r, hblocks, rfl⟩⟩

/-- **The woken helper probes exactly the armed interfaces.**  Whatever the backend answers, the
device is opened once if the record is valid and has something armed, each armed interface is tried
in increasing order within its budget if that worked, and the descriptor is closed once. -/
theorem reattachArmedInterfaces_calls (backend : HelperLog → HelperCall → Int)
    (record : ReattachRecord) :
    let log := backendCalls backend record
    let armed := armedInterfaces record.armed
    (armed.Pairwise (· < ·) ∧ ∀ i, i ∈ armed ↔ Mask.has record.armed i = true) ∧
    (record.magic ≠ reattachMagic ∨ record.armed = 0#32 → log = []) ∧
    (record.magic = reattachMagic ∧ record.armed ≠ 0#32 → ∃ fd,
      (fd < 0 ∧ log = [(.openDevice record, fd)]) ∨
      (0 ≤ fd ∧ ∃ blocks r,
        List.Forall₂ (fun i => Tried fd (UInt8.ofNat i) reattachMaxAttempts) armed blocks ∧
        log = (.openDevice record, fd) :: (blocks.flatten ++ [(.closeDevice fd, r)]))) ∧
    log.countP isRebind ≤ reattachMaxAttempts * armed.length := by
  have hlog := backendCalls_reattached backend record
  exact ⟨⟨pairwise_armedInterfaces _, fun _ => mem_armedInterfaces⟩, hlog.eq_nil,
    fun h => hlog.opened h.1 h.2, hlog.countP_le⟩

/-- A kernel that has interface 1 busy for three attempts. -/
example :
    backendCalls
      (fun log call => match call with
        | .openDevice _ => 3
        | .rebind _ _ => if log.length < 7 then negEbusy else 0
        | _ => 0)
      ⟨reattachMagic, 2#32, 1, 4, 0x1d6b, 0x0102, 0x0100⟩ =
      [(.openDevice ⟨reattachMagic, 2#32, 1, 4, 0x1d6b, 0x0102, 0x0100⟩, 3),
        (.rebind 3 1, negEbusy), (.rebind 3 1, negEbusy), (.rebind 3 1, negEbusy), (.rebind 3 1, 0),
        (.closeDevice 3, 0)] := by
  decide

/-! ## What that does for the drivers -/

theorem Tried.exists_rebind {fd : Int} {i : UInt8} {left : Nat} {calls : HelperLog}
    (h : Tried fd i (left + 1) calls) : ∃ r, (.rebind fd i, r) ∈ calls := by
  obtain rfl | ⟨busy, -, r, -, rfl⟩ := h
  · exact ⟨negEbusy, by simp⟩
  · exact ⟨r, by simp⟩

theorem exists_rebind_of_mem {fd : Int} {left : Nat} {is : List Nat} {blocks : List HelperLog}
    (h : List.Forall₂ (fun i => Tried fd (UInt8.ofNat i) (left + 1)) is blocks) {i : Nat}
    (hi : i ∈ is) : ∃ r, (.rebind fd (UInt8.ofNat i), r) ∈ blocks.flatten := by
  induction h with
  | nil => exact absurd hi (List.not_mem_nil)
  | @cons j block is blocks hj _ ih =>
    rw [List.flatten_cons]
    rcases List.mem_cons.1 hi with rfl | hi
    · obtain ⟨r, hr⟩ := hj.exists_rebind
      exact ⟨r, List.mem_append_left _ hr⟩
    · obtain ⟨r, hr⟩ := ih hi
      exact ⟨r, List.mem_append_right _ hr⟩

/-- **The helper makes up for the process that died.**  If the drivers were covered at the moment of
its death, then every driver it had taken away and not put back is asked for again, unless the
device cannot be opened any more. -/
theorem Covered.reattached {w : World DevHandle UsbCall} (h : Covered w) {record : ReattachRecord}
    (hm : record.magic = reattachMagic) (harmed : record.armed = reattachGuardArmedMask w.state)
    (backend : HelperLog → HelperCall → Int) {idx : Nat} (hidx : idx < 32)
    (hgone : driverGone idx w.log = true) :
    (∃ fd < 0, backendCalls backend record = [(.openDevice record, fd)]) ∨
      ∃ fd r, (.rebind fd (UInt8.ofNat idx), r) ∈ backendCalls backend record := by
  have hmem : idx ∈ armedInterfaces record.armed :=
    mem_armedInterfaces.2 (harmed ▸ (h idx hidx).1 hgone)
  have ha : record.armed ≠ 0#32 := by
    intro ha
    rw [mem_armedInterfaces, ha, Mask.has_zero] at hmem
    exact absurd hmem (by simp)
  obtain ⟨fd, ⟨hfd, hlog⟩ | ⟨-, blocks, r, hblocks, hlog⟩⟩ :=
    (backendCalls_reattached backend record).opened hm ha
  · exact .inl ⟨fd, hfd, hlog⟩
  · obtain ⟨r', hr'⟩ := exists_rebind_of_mem hblocks hmem
    exact .inr ⟨fd, r', by rw [hlog]; simp [hr']⟩

end Device
end LibUvc
