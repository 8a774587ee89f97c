import LibUvc.Device.Reattach
import LibUvc.Foundation.Processes

/-!
# The helper process and the pipe it waits on

`uvc_reattach_guard_create` starts a helper process that outlives the process that made it, and
keeps the write end of a pipe.  The helper sleeps on the read end.  When the last write end is gone
it takes the armed interfaces from the record it shares with that process and has their drivers
probed again.  Nobody tells it to: the pipe is what connects the two, and every process that was
forked in between and has not closed its copy keeps the helper asleep.

The parties are processes with their tables of descriptors.  `GuardStep` has a step for each system
call of `uvc_reattach_guard_create`, of the intermediate process and of `helper_main`, for the arms
and disarms, and for what any process may do at any time: fork, exec, open and close files, die.

* `helper_waits`: the helper calls nothing before the last write end is gone, and by then nobody
  writes the record any more, whoever forked, and whenever the guarded process was killed.
* `wakes_iff`: what can keep it asleep is another process with a write end, or its own copy, which
  it closes unless the number of that descriptor is past `UVC_REATTACH_FD_SCAN_CAP`.
* `create_accounts`: a failed `uvc_reattach_guard_create` leaves nothing behind, and a successful
  one the mapping, the write end and no child to wait for.
-/

set_option autoImplicit false

namespace LibUvc
namespace Device

open Processes Prog

/-! ## The parties -/

/-- What a descriptor refers to: an end of the `id`-th pipe that was made for a guard, or something
else. -/
inductive OpenFile where
  | pipe (id : Nat) (write : Bool)
  | foreign (n : Nat)
  deriving DecidableEq, Repr

/-- How far the guarded process is in `uvc_reattach_guard_create`, and what becomes of its guard.
`intermediate` is the child that was forked, if it was. -/
inductive HostStage where
  | start
  | allocated
  | mapped
  | piped
  | forked (intermediate : Option Nat)
  | readClosed (intermediate : Option Nat)
  /-- The guard was returned. -/
  | ready
  /-- `NULL` was returned. -/
  | failed
  | destroyed
  deriving DecidableEq, Repr

/-- How far the helper is in `helper_main`. -/
inductive HelperStage where
  | start
  /-- In `close_inherited_fds`, with the loop at a descriptor. -/
  | closing (fd : Nat)
  | reading
  /-- In `reattach_armed_interfaces`. -/
  | repairing
  deriving DecidableEq, Repr

/-- The part of a process. -/
inductive Role where
  | host (stage : HostStage)
  /-- The child of the first fork, before and after the second. -/
  | intermediate (forked : Bool)
  | helper (stage : HelperStage)
  /-- An intermediate process that has ended and was not waited for. -/
  | zombie
  /-- A child that the host forked for itself, or one of its children, and so on. -/
  | other
  deriving DecidableEq, Repr

/-- The child that `uvc_reattach_guard_create` waits for. -/
def Role.isChild : Role → Bool
  | .intermediate _ | .zombie => true
  | _ => false

/-- The device that a guard is made for. -/
structure DeviceId where
  busnum : UInt8
  devnum : UInt8
  idVendor : UInt16
  idProduct : UInt16
  bcdDevice : UInt16
  deriving DecidableEq, Repr

/-- The locals of `uvc_reattach_guard_create` that the child processes go on with. -/
structure Notify where
  /-- Which pipe it is. -/
  id : Nat := 0
  /-- `notify[0]` -/
  readFd : Nat := 0
  /-- `notify[1]` -/
  writeFd : Nat := 0
  scanLimit : Nat := 0
  deriving DecidableEq, Repr

/-- All processes, and what they share. -/
structure GuardSystem where
  procs : Table Role OpenFile
  /-- The mapping that the host shares with its children. -/
  record : ReattachRecord
  /-- Whether the host has the memory of `guard`, and the mapping. -/
  guardMem : Bool := false
  mapping : Bool := false
  notify : Notify := {}
  /-- What the helper has left to do, once it is awake. -/
  repair : Option (HelperProg Unit) := none
  /-- The calls it has made. -/
  log : HelperLog := []

abbrev GuardProcess := Process Role OpenFile

/-- The guarded process. -/
def hostPid : Nat := 0

namespace GuardSystem

/-- The process has this role. -/
def Is (s : GuardSystem) (pid : Nat) (role : Role) (p : GuardProcess) : Prop :=
  s.procs pid = some p ∧ p.role = role

def put (s : GuardSystem) (pid : Nat) (p : GuardProcess) : GuardSystem :=
  { s with procs := s.procs.set pid p }

def drop (s : GuardSystem) (pid : Nat) : GuardSystem := { s with procs := s.procs.drop pid }

/-- A process id that a fork may return. -/
def Free (s : GuardSystem) (pid : Nat) : Prop := s.procs pid = none ∧ pid ≠ hostPid

/-- Some process has a write end of the guard's pipe. -/
def Watched (s : GuardSystem) : Prop := Holds s.procs (.pipe s.notify.id true)

end GuardSystem

/-! ## `reattach_guard.c` -/

/-- `UVC_REATTACH_FD_SCAN_CAP`. -/
def reattachFdScanCap : Nat := 65536

/-- `fd_scan_limit`, where `sysconf` answers `limit`. -/
def fdScanLimit (limit : Int) : Nat :=
  if limit < 3 then 3
  else if limit > reattachFdScanCap then reattachFdScanCap
  else limit.toNat

/-- `*record` as `uvc_reattach_guard_create` fills it in. -/
def ReattachRecord.init (dev : DeviceId) : ReattachRecord where
  magic := reattachMagic
  armed := 0#32
  busnum := dev.busnum
  devnum := dev.devnum
  idVendor := dev.idVendor
  idProduct := dev.idProduct
  bcdDevice := dev.bcdDevice

/-- `uvc_reattach_guard_arm`. -/
def ReattachRecord.arm (record : ReattachRecord) (interfaceNumber : Int) : ReattachRecord :=
  if interfaceNumber < 0 ∨ interfaceNumber ≥ reattachMaxInterfaces then record
  else { record with armed := Mask.insert record.armed interfaceNumber.toNat }

/-- `uvc_reattach_guard_disarm`. -/
def ReattachRecord.disarm (record : ReattachRecord) (interfaceNumber : Int) : ReattachRecord :=
  if interfaceNumber < 0 ∨ interfaceNumber ≥ reattachMaxInterfaces then record
  else { record with armed := Mask.erase record.armed interfaceNumber.toNat }

@[simp] theorem ReattachRecord.arm_magic (record : ReattachRecord) (i : Int) :
    (record.arm i).magic = record.magic := by
  rw [arm]
  split <;> rfl

@[simp] theorem ReattachRecord.disarm_magic (record : ReattachRecord) (i : Int) :
    (record.disarm i).magic = record.magic := by
  rw [disarm]
  split <;> rfl

/-- One step of one process.  `readFails` is whether a `read` of the pipe may fail with anything
else than `EINTR`, for which the source sees no reason. -/
inductive GuardStep (dev : DeviceId) (readFails : Prop) : GuardSystem → GuardSystem → Prop
  /-- `guard = calloc(1, sizeof(*guard))` -/
  | calloc {s : GuardSystem} {p : GuardProcess} (hp : s.Is hostPid (.host .start) p) :
      GuardStep dev readFails s
        { s.put hostPid (p.become (.host .allocated)) with guardMem := true }
  | callocFails {s : GuardSystem} {p : GuardProcess} (hp : s.Is hostPid (.host .start) p) :
      GuardStep dev readFails s (s.put hostPid (p.become (.host .failed)))
  /-- `record = mmap(..)`, and what is written there -/
  | mmap {s : GuardSystem} {p : GuardProcess} (hp : s.Is hostPid (.host .allocated) p) :
      GuardStep dev readFails s
        { s.put hostPid (p.become (.host .mapped)) with
          mapping := true
          record := ReattachRecord.init dev }
  | mmapFails {s : GuardSystem} {p : GuardProcess} (hp : s.Is hostPid (.host .allocated) p) :
      GuardStep dev readFails s
        { s.put hostPid (p.become (.host .failed)) with guardMem := false }
  /-- `pipe2(notify, O_CLOEXEC)` and `scan_limit = fd_scan_limit()` -/
  | pipe2 {s : GuardSystem} {p : GuardProcess} (hp : s.Is hostPid (.host .mapped) p) {r w : Nat}
      (hr : p.fds r = none) (hw : p.fds w = none) (hrw : r ≠ w) (openMax : Int) :
      GuardStep dev readFails s
        { s.put hostPid (((p.openAs r ⟨.pipe (s.notify.id + 1) false, true⟩).openAs w
            ⟨.pipe (s.notify.id + 1) true, true⟩).become (.host .piped)) with
          notify := ⟨s.notify.id + 1, r, w, fdScanLimit openMax⟩ }
  | pipe2Fails {s : GuardSystem} {p : GuardProcess} (hp : s.Is hostPid (.host .mapped) p) :
      GuardStep dev readFails s
        { s.put hostPid (p.become (.host .failed)) with
          mapping := false
          guardMem := false }
  /-- `intermediate = raw_fork()` -/
  | fork {s : GuardSystem} {p : GuardProcess} (hp : s.Is hostPid (.host .piped) p) {child : Nat}
      (hchild : s.Free child) :
      GuardStep dev readFails s
        ((s.put hostPid (p.become (.host (.forked (some child))))).put child
          (p.become (.intermediate false)))
  | forkFails {s : GuardSystem} {p : GuardProcess} (hp : s.Is hostPid (.host .piped) p) :
      GuardStep dev readFails s (s.put hostPid (p.become (.host (.forked none))))
  /-- `close(notify[0])` -/
  | closeRead {s : GuardSystem} {p : GuardProcess} {child : Option Nat}
      (hp : s.Is hostPid (.host (.forked child)) p) :
      GuardStep dev readFails s
        (s.put hostPid ((p.close s.notify.readFd).become (.host (.readClosed child))))
  /-- `if (intermediate < 0)` -/
  | giveUp {s : GuardSystem} {p : GuardProcess} (hp : s.Is hostPid (.host (.readClosed none)) p) :
      GuardStep dev readFails s
        { s.put hostPid ((p.close s.notify.writeFd).become (.host .failed)) with
          mapping := false
          guardMem := false }
  /-- `waitpid(intermediate, NULL, 0)` -/
  | waitpid {s : GuardSystem} {p q : GuardProcess} {child : Nat}
      (hp : s.Is hostPid (.host (.readClosed (some child))) p) (hq : s.Is child .zombie q) :
      GuardStep dev readFails s ((s.drop child).put hostPid (p.become (.host .ready)))
  /-- `uvc_arm_reattach_guard` tries again when there is no guard. -/
  | retry {s : GuardSystem} {p : GuardProcess} (hp : s.Is hostPid (.host .failed) p) :
      GuardStep dev readFails s (s.put hostPid (p.become (.host .start)))
  | arm {s : GuardSystem} {p : GuardProcess} (hp : s.Is hostPid (.host .ready) p) (i : Int) :
      GuardStep dev readFails s { s with record := s.record.arm i }
  | disarm {s : GuardSystem} {p : GuardProcess} (hp : s.Is hostPid (.host .ready) p) (i : Int) :
      GuardStep dev readFails s { s with record := s.record.disarm i }
  /-- `uvc_reattach_guard_destroy` -/
  | destroy {s : GuardSystem} {p : GuardProcess} (hp : s.Is hostPid (.host .ready) p) :
      GuardStep dev readFails s
        { s.put hostPid ((p.close s.notify.writeFd).become (.host .destroyed)) with
          mapping := false
          guardMem := false }
  /-- `raw_fork()` in the intermediate process -/
  | forkHelper {s : GuardSystem} {pid child : Nat} {p : GuardProcess}
      (hp : s.Is pid (.intermediate false) p) (hchild : s.Free child) :
      GuardStep dev readFails s
        ((s.put pid (p.become (.intermediate true))).put child (p.become (.helper .start)))
  | forkHelperFails {s : GuardSystem} {pid : Nat} {p : GuardProcess}
      (hp : s.Is pid (.intermediate false) p) :
      GuardStep dev readFails s (s.put pid (p.become (.intermediate true)))
  /-- `_exit(0)` of the intermediate process -/
  | exitIntermediate {s : GuardSystem} {pid : Nat} {p : GuardProcess}
      (hp : s.Is pid (.intermediate true) p) :
      GuardStep dev readFails s (s.put pid (.ended .zombie))
  /-- `setsid()` -/
  | setsid {s : GuardSystem} {pid : Nat} {p : GuardProcess} (hp : s.Is pid (.helper .start) p) :
      GuardStep dev readFails s (s.put pid (p.become (.helper (.closing 0))))
  /-- One round of `close_inherited_fds` -/
  | closeInherited {s : GuardSystem} {pid fd : Nat} {p : GuardProcess}
      (hp : s.Is pid (.helper (.closing fd)) p) (hfd : fd < s.notify.scanLimit) :
      GuardStep dev readFails s
        (s.put pid ((if fd ≠ s.notify.readFd then p.close fd else p).become
          (.helper (.closing (fd + 1)))))
  | allClosed {s : GuardSystem} {pid fd : Nat} {p : GuardProcess}
      (hp : s.Is pid (.helper (.closing fd)) p) (hfd : ¬ fd < s.notify.scanLimit) :
      GuardStep dev readFails s (s.put pid (p.become (.helper .reading)))
  /-- `read(notify_fd, drain, sizeof(drain))` returns 0, or fails. -/
  | wake {s : GuardSystem} {pid : Nat} {p : GuardProcess} (hp : s.Is pid (.helper .reading) p)
      (heof : ¬ s.Watched ∨ readFails) :
      GuardStep dev readFails s
        { s.put pid (p.become (.helper .repairing)) with
          repair := some (reattachArmedInterfaces s.record) }
  /-- A step of `reattach_armed_interfaces` -/
  | repair {s : GuardSystem} {pid : Nat} {p : GuardProcess} (hp : s.Is pid (.helper .repairing) p)
      {prog prog' : HelperProg Unit} (hprog : s.repair = some prog) {log : HelperLog}
      (hstep : Step alone (prog, ⟨(), s.log⟩) (prog', ⟨(), log⟩)) :
      GuardStep dev readFails s { s with repair := some prog', log := log }
  /-- `_exit(0)` of the helper -/
  | exitHelper {s : GuardSystem} {pid : Nat} {p : GuardProcess}
      (hp : s.Is pid (.helper .repairing) p) (hprog : s.repair = some (pure ())) :
      GuardStep dev readFails s (s.drop pid)
  /-- The host or one of its own children forks. -/
  | spawn {s : GuardSystem} {pid child : Nat} {role : Role} {p : GuardProcess}
      (hp : s.Is pid role p) (hrole : role = .other ∨ ∃ stage, role = .host stage)
      (hchild : s.Free child) : GuardStep dev readFails s (s.put child (p.become .other))
  | exec {s : GuardSystem} {pid : Nat} {role : Role} {p : GuardProcess} (hp : s.Is pid role p)
      (hrole : role = .other ∨ ∃ stage, role = .host stage) :
      GuardStep dev readFails s (s.put pid (p.exec .other))
  | openForeign {s : GuardSystem} {pid n : Nat} {role : Role} {p : GuardProcess}
      (hp : s.Is pid role p) (hrole : role = .other ∨ ∃ stage, role = .host stage)
      (hn : p.fds n = none) (file : Nat) (cloexec : Bool) :
      GuardStep dev readFails s (s.put pid (p.openAs n ⟨.foreign file, cloexec⟩))
  /-- The host does not close what it does not know; its children may. -/
  | closeForeign {s : GuardSystem} {pid n : Nat} {role : Role} {p : GuardProcess}
      (hp : s.Is pid role p) (hrole : role = .other ∨
        (∃ stage, role = .host stage) ∧ ∀ f, p.fds n = some f → ∃ file, f.file = .foreign file) :
      GuardStep dev readFails s (s.put pid (p.close n))
  /-- The end of a process, by `SIGKILL` or otherwise. -/
  | die {s : GuardSystem} {pid : Nat} {role : Role} {p : GuardProcess} (hp : s.Is pid role p)
      (hrole : role.isChild = false) : GuardStep dev readFails s (s.drop pid)
  | dieIntermediate {s : GuardSystem} {pid : Nat} {forked : Bool} {p : GuardProcess}
      (hp : s.Is pid (.intermediate forked) p) :
      GuardStep dev readFails s (s.put pid (.ended .zombie))

/-! ## What everybody holds

The guarded process has the ends of the pipe that its stage says, an intermediate process both, and
the helper its read end and whatever `close_inherited_fds` has not got to.  About the others it is
only known that their copies are where the originals were. -/

namespace HostStage

def hasReadEnd : HostStage → Bool
  | .piped | .forked _ => true
  | _ => false

def hasWriteEnd : HostStage → Bool
  | .piped | .forked _ | .readClosed _ | .ready => true
  | _ => false

def hasMemory : HostStage → Bool
  | .start | .failed | .destroyed => false
  | _ => true

def hasMapping : HostStage → Bool
  | .start | .allocated | .failed | .destroyed => false
  | _ => true

/-- The child that is waited for, or will be. -/
def child : HostStage → Option Nat
  | .forked child | .readClosed child => child
  | _ => none

/-- A helper may have been started. -/
def launched : HostStage → Bool
  | .forked child | .readClosed child => child.isSome
  | .ready | .destroyed => true
  | _ => false

/-- What may come next. -/
def Next : HostStage → HostStage → Prop
  | .start, stage => stage = .allocated ∨ stage = .failed
  | .allocated, stage => stage = .mapped ∨ stage = .failed
  | .mapped, stage => stage = .piped ∨ stage = .failed
  | .piped, stage => ∃ child, stage = .forked child
  | .forked child, stage => stage = .readClosed child
  | .readClosed none, stage => stage = .failed
  | .readClosed (some _), stage => stage = .ready
  | .ready, stage => stage = .destroyed
  | .failed, stage => stage = .start
  | .destroyed, _ => False

theorem Next.launched {stage stage' : HostStage} (h : stage.Next stage')
    (hs : stage.launched = true) : stage'.launched = true := by
  cases stage with
  | forked child => exact h ▸ hs
  | readClosed child =>
    cases child with
    | none => simp [HostStage.launched] at hs
    | some => exact h ▸ rfl
  | ready => exact h ▸ rfl
  | destroyed => exact h.elim
  | _ => simp [HostStage.launched] at hs

end HostStage

namespace Role

def stage? : Role → Option HostStage
  | .host stage => some stage
  | _ => none

def isHelper : Role → Bool
  | .helper _ => true
  | _ => false

/-- The process that is the helper, or is going to fork it. -/
def isHeir : Role → Bool
  | .intermediate forked => !forked
  | .helper _ => true
  | _ => false

/-- The helper, before it was woken. -/
def isAsleep : Role → Bool
  | .intermediate forked => !forked
  | .helper .repairing => false
  | .helper _ => true
  | _ => false

end Role

/-- The descriptors below are closed, but for the read end. -/
def HelperStage.swept (scanLimit : Nat) : HelperStage → Nat
  | .start => 0
  | .closing fd => fd
  | _ => scanLimit

namespace Notify

/-- The ends of the pipe, by whether they are for writing. -/
def file (w : Notify) (write : Bool) : OpenFile := .pipe w.id write

def slot (w : Notify) (write : Bool) : Nat := if write then w.writeFd else w.readFd

/-- No pipe of later, and this one where it was opened. -/
def Known (w : Notify) (p : GuardProcess) : Prop :=
  ∀ n f, p.fds n = some f → ∀ id write, f.file = .pipe id write →
    id ≤ w.id ∧ (id = w.id → f.cloexec = true ∧ n = w.slot write)

/-- The helper has closed what is below `fd`, and nothing else. -/
structure Swept (w : Notify) (p : GuardProcess) (fd : Nat) : Prop where
  read : p.Has (w.file false)
  above : ∀ n f, p.fds n = some f → n = w.readFd ∨ fd ≤ n
  write : fd ≤ w.writeFd → p.Has (w.file true)

/-- What the role says. -/
def RoleFits (w : Notify) (p : GuardProcess) : Role → Prop
  | .host stage =>
      (p.Has (w.file false) ↔ stage.hasReadEnd = true) ∧
      (p.Has (w.file true) ↔ stage.hasWriteEnd = true) ∧
      ∀ id write, p.Has (.pipe id write) → id = w.id
  | .intermediate _ => p.Has (w.file false) ∧ p.Has (w.file true)
  | .helper stage =>
      w.Swept p (stage.swept w.scanLimit) ∧ stage.swept w.scanLimit ≤ w.scanLimit
  | _ => True

structure Fits (w : Notify) (p : GuardProcess) : Prop where
  known : w.Known p
  fits : w.RoleFits p p.role

variable {w : Notify} {p q : GuardProcess}

theorem Known.onlyAt (h : w.Known p) (write : Bool) : p.OnlyAt (w.file write) (w.slot write) :=
  fun n f hn hf => ((h n f hn _ _ hf).2 rfl).2

theorem Known.of_within (h : w.Known p) (hq : q.Within p) : w.Known q :=
  fun n f hn => h n f (hq n f hn)

theorem Known.become (h : w.Known p) (role : Role) : w.Known (p.become role) := h

theorem Known.openForeign (h : w.Known p) (n file : Nat) (cloexec : Bool) :
    w.Known (p.openAs n ⟨.foreign file, cloexec⟩) := by
  intro m f hm id write hf
  rw [Process.openAs_fds] at hm
  split at hm
  · obtain rfl := Option.some.inj hm
    cases hf
  · exact h m f hm id write hf

/-- The two ends are two descriptors. -/
theorem Known.readFd_ne (h : w.Known p) (hr : p.Has (w.file false)) (hw : p.Has (w.file true)) :
    w.readFd ≠ w.writeFd := by
  obtain ⟨n, f, hn, hf⟩ := hr
  obtain ⟨m, g, hm, hg⟩ := hw
  have hnr : n = w.readFd := h.onlyAt false n f hn hf
  have hmw : m = w.writeFd := h.onlyAt true m g hm hg
  intro he
  obtain rfl : n = m := by rw [hnr, hmw, he]
  obtain rfl : f = g := Option.some.inj (hn.symm.trans hm)
  exact absurd (hf.symm.trans hg) (by simp [file])

/-- Closing one's copies of other things does not change which ends one has. -/
theorem RoleFits.of_has {stage : HostStage} (h : w.RoleFits p (.host stage))
    (hq : ∀ id write, q.Has (.pipe id write) ↔ p.Has (.pipe id write)) :
    w.RoleFits q (.host stage) :=
  ⟨(hq _ false).trans h.1, (hq _ true).trans h.2.1,
    fun id write hw => h.2.2 id write ((hq id write).1 hw)⟩

theorem Fits.become (h : w.Fits p) {st st' : HostStage} (hp : p.role = .host st)
    (hr : st'.hasReadEnd = st.hasReadEnd) (hw : st'.hasWriteEnd = st.hasWriteEnd) :
    w.Fits (p.become (.host st')) := by
  have hfit := h.fits
  rw [hp] at hfit
  exact ⟨h.known, hr ▸ hfit.1, hw ▸ hfit.2.1, hfit.2.2⟩

/-- `close(notify[0])` -/
theorem Fits.close_read (h : w.Fits p) {child : Option Nat} (hp : p.role = .host (.forked child)) :
    w.Fits ((p.close w.readFd).become (.host (.readClosed child))) := by
  have hfit := h.fits
  rw [hp] at hfit
  have hread : p.Has (w.file false) := hfit.1.2 rfl
  have hwrite : p.Has (w.file true) := hfit.2.1.2 rfl
  refine ⟨h.known.of_within (p.close_within _), ⟨fun hr => ?_, fun hr => ?_⟩, ⟨fun _ => rfl,
    fun _ => (h.known.onlyAt true).close_has.2 ⟨hwrite, h.known.readFd_ne hread hwrite⟩⟩,
    fun id write hq => hfit.2.2 id write ((p.close_within _).has hq)⟩
  · exact absurd rfl ((h.known.onlyAt false).close_has.1 hr).2
  · exact absurd hr (by simp [HostStage.hasReadEnd])

/-- `close(notify[1])`, after that. -/
theorem Fits.close_write (h : w.Fits p) {st st' : HostStage} (hp : p.role = .host st)
    (hst : st.hasReadEnd = false) (hr : st'.hasReadEnd = false) (hw : st'.hasWriteEnd = false) :
    w.Fits ((p.close w.writeFd).become (.host st')) := by
  have hfit := h.fits
  rw [hp] at hfit
  refine ⟨h.known.of_within (p.close_within _), ⟨fun hq => ?_, fun hq => ?_⟩,
    ⟨fun hq => ?_, fun hq => ?_⟩, fun id write hq => hfit.2.2 id write ((p.close_within _).has hq)⟩
  · exact absurd (hfit.1.1 ((p.close_within _).has hq)) (by simp [hst])
  · exact absurd hq (by simp [hr])
  · exact absurd rfl ((h.known.onlyAt true).close_has.1 hq).2
  · exact absurd hq (by simp [hw])

/-- One round of `close_inherited_fds`. -/
theorem Swept.close {fd : Nat} (h : w.Swept p fd) (hk : w.Known p) :
    w.Swept (if fd ≠ w.readFd then p.close fd else p) (fd + 1) := by
  by_cases hfd : fd = w.readFd
  · rw [if_neg (not_not_intro hfd)]
    refine ⟨h.read, fun n f hn => ?_, fun hlt => h.write (by omega)⟩
    rcases h.above n f hn with hn | hn <;> omega
  · rw [if_pos hfd]
    refine ⟨(hk.onlyAt false).close_has.2 ⟨h.read, hfd⟩, fun n f hn => ?_, fun hlt => ?_⟩
    · rw [Process.close_fds] at hn
      split at hn
      · cases hn
      · rcases h.above n f hn with hn | hn <;> omega
    · have hne : fd ≠ w.writeFd := by omega
      exact (hk.onlyAt true).close_has.2 ⟨h.write (by omega), hne⟩

theorem Swept.become {fd : Nat} (h : w.Swept p fd) (role : Role) : w.Swept (p.become role) fd :=
  ⟨h.read, h.above, h.write⟩

theorem swept_zero (hr : p.Has (w.file false)) (hw : p.Has (w.file true)) : w.Swept p 0 :=
  ⟨hr, fun _ _ _ => .inr (Nat.zero_le _), fun _ => hw⟩

end Notify

/-! ## What they are to each other -/

/-- Children that are waited for are the ones the guarded process knows of, and there is a helper
only if one may have been started. -/
def Kin (stage : Option HostStage) (pid : Nat) (role : Role) : Prop :=
  ∀ st, stage = some st →
    (role.isChild = true → st.child = some pid) ∧ (role.isHelper = true → st.launched = true)

namespace GuardSystem

/-- The stage of the guarded process, as long as there is one. -/
def stage (s : GuardSystem) : Option HostStage := (s.procs hostPid).bind fun p => p.role.stage?

/-- The helper that was woken found nobody who could still wake it, or write its record. -/
structure Awake (s : GuardSystem) (prog : HelperProg Unit) : Prop where
  ended : ∀ st, s.stage = some st → st = .destroyed
  unwatched : ¬ s.Watched
  run : Relation.ReflTransGen (Step alone) (reattachArmedInterfaces s.record, ⟨(), []⟩)
    (prog, ⟨(), s.log⟩)

/-- What holds in every reachable state. -/
structure Wired (readFails : Prop) (s : GuardSystem) : Prop where
  host : ∀ pid p st, s.procs pid = some p → p.role = .host st → pid = hostPid
  fits : Everywhere s.procs fun _ p => s.notify.Fits p
  kin : Everywhere s.procs fun pid p => Kin s.stage pid p.role
  line : ∀ pid p, s.procs pid = some p → p.role.isHeir = true →
    Everywhere s.procs fun q r => r.role.isHeir = true → q = pid
  memory : ∀ st, s.stage = some st → s.guardMem = st.hasMemory ∧ s.mapping = st.hasMapping
  marked : s.mapping = true → s.record.magic = reattachMagic
  launched : s.repair ≠ none → ∀ st, s.stage = some st → st.launched = true
  asleep : Everywhere s.procs fun _ p => p.role.isAsleep = true → s.repair = none
  awake : ¬ readFails → ∀ prog, s.repair = some prog → s.Awake prog
  silent : s.repair = none → s.log = []

variable {s : GuardSystem} {pid child : Nat} {p q : GuardProcess} {st : HostStage}

@[simp] theorem put_procs : (s.put pid p).procs = s.procs.set pid p := rfl

theorem put_self : (s.put pid p).procs pid = some p := Table.set_self ..

theorem put_become (role : Role) : (s.put pid (p.become role)).Is pid role (p.become role) :=
  ⟨put_self, rfl⟩

@[simp] theorem drop_procs : (s.drop pid).procs = s.procs.drop pid := rfl

theorem stage_eq_some : s.stage = some st ↔ ∃ p, s.Is hostPid (.host st) p := by
  rw [stage, Option.bind_eq_some_iff]
  refine exists_congr fun p => and_congr_right fun _ => ?_
  cases p.role <;> simp [Role.stage?]

theorem Is.stage (h : s.Is hostPid (.host st) p) : s.stage = some st := stage_eq_some.2 ⟨p, h⟩

theorem stage_put_host (h : p.role = .host st) : (s.put hostPid p).stage = some st :=
  stage_eq_some.2 ⟨p, put_self, h⟩

/-- A process that does not become the host does not change what the host is. -/
theorem stage_put (hp : s.procs pid = some p)
    (hq : ∀ st, q.role = .host st → p.role = .host st) (h : (s.put pid q).stage = some st) :
    s.stage = some st := by
  obtain ⟨r, hr, hst⟩ := stage_eq_some.1 h
  rw [put_procs, Table.set_apply] at hr
  split at hr
  · rename_i hpid
    obtain rfl := Option.some.inj hr
    exact stage_eq_some.2 ⟨p, hpid ▸ hp, hq st hst⟩
  · exact stage_eq_some.2 ⟨r, hr, hst⟩

theorem Free.put (h : s.Free child) (hp : s.procs pid = some p) : (s.put pid q).Free child := by
  have hne : child ≠ pid := by
    rintro rfl
    exact absurd hp (by simp [h.1])
  exact ⟨by rw [put_procs, Table.set_of_ne _ _ hne, h.1], h.2⟩

theorem stage_put_free (h : s.Free child) : (s.put child q).stage = s.stage := by
  rw [stage, stage, put_procs, Table.set_of_ne _ _ h.2.symm]

theorem stage_drop (h : (s.drop pid).stage = some st) : s.stage = some st := by
  obtain ⟨r, hr, hst⟩ := stage_eq_some.1 h
  rw [drop_procs, Table.drop_apply] at hr
  split at hr
  · cases hr
  · exact stage_eq_some.2 ⟨r, hr, hst⟩

theorem kin_of_stage {stage stage' : Option HostStage} {role : Role} (h : Kin stage pid role)
    (hstage : ∀ st, stage' = some st → stage = some st) : Kin stage' pid role :=
  fun st hst => h st (hstage st hst)

theorem Kin.role {stage : Option HostStage} {role role' : Role} (h : Kin stage pid role)
    (hc : role'.isChild = true → role.isChild = true)
    (hl : role'.isHelper = true → role.isHelper = true) : Kin stage pid role' :=
  fun st hst => ⟨fun hr => (h st hst).1 (hc hr), fun hr => (h st hst).2 (hl hr)⟩

/-- The host goes on with the child it had. -/
theorem Kin.host {role : Role} (h : Kin (some st) pid role) {st' : HostStage}
    (hc : ∀ c, st.child = some c → st'.child = some c)
    (hl : st.launched = true → st'.launched = true) : Kin (some st') pid role := by
  rintro _ ⟨⟩
  obtain ⟨h1, h2⟩ := h st rfl
  exact ⟨fun hr => hc pid (h1 hr), fun hr => hl (h2 hr)⟩

/-- What a step does to the host, if it does anything. -/
theorem stage_step {dev : DeviceId} {readFails : Prop} {t : GuardSystem}
    (hs : GuardStep dev readFails s t) (hst : t.stage = some st) :
    s.stage = some st ∨ ∃ stage, s.stage = some stage ∧ stage.Next st := by
  have hnext : ∀ (u : GuardSystem) {q : GuardProcess} {stage stage' : HostStage},
      (u.put hostPid q).stage = some st → q.role = .host stage' → s.stage = some stage →
      stage.Next stage' → s.stage = some st ∨ ∃ stage, s.stage = some stage ∧ stage.Next st := by
    intro u q stage stage' hq hrole hstage hn
    obtain rfl := Option.some.inj ((stage_put_host hrole).symm.trans hq)
    exact .inr ⟨stage, hstage, hn⟩
  cases hs with
  | calloc hp | mmap hp | pipe2 hp => exact hnext s hst rfl hp.stage (.inl rfl)
  | callocFails hp | mmapFails hp | pipe2Fails hp => exact hnext s hst rfl hp.stage (.inr rfl)
  | @fork _ hp child hchild =>
    exact hnext s (stage_put_free (hchild.put hp.1) ▸ hst) rfl hp.stage ⟨some child, rfl⟩
  | forkFails hp => exact hnext s hst rfl hp.stage ⟨none, rfl⟩
  | closeRead hp | giveUp hp | retry hp | destroy hp => exact hnext s hst rfl hp.stage rfl
  | @waitpid _ _ child hp => exact hnext (s.drop child) hst rfl hp.stage rfl
  | arm | disarm | repair => exact .inl hst
  | forkHelper hp hchild =>
    exact .inl (stage_put hp.1 (by simp) (stage_put_free (hchild.put hp.1) ▸ hst))
  | exitHelper | die => exact .inl (stage_drop hst)
  | spawn _ _ hchild => exact .inl (stage_put_free hchild ▸ hst)
  | openForeign hp | closeForeign hp =>
    refine .inl (stage_put hp.1 ?_ hst)
    exact fun _ hq => hq
  | forkHelperFails hp | exitIntermediate hp | setsid hp | closeInherited hp | allClosed hp
  | wake hp | exec hp | dieIntermediate hp => exact .inl (stage_put hp.1 (by simp) hst)

theorem Awake.of_put {prog : HelperProg Unit} (h : s.Awake prog)
    (hstage : ∀ st, (s.put pid q).stage = some st → s.stage = some st)
    (hw : (s.put pid q).Watched → s.Watched) : (s.put pid q).Awake prog :=
  ⟨fun st hst => h.ended st (hstage st hst), fun hq => h.unwatched (hw hq), h.run⟩

namespace Wired

variable {readFails : Prop}

/-- A process goes on in a way that takes nothing from the others. -/
theorem put (h : s.Wired readFails) (hp : s.procs pid = some p)
    (hhost : ∀ st, q.role = .host st → p.role = .host st) (hfit : s.notify.Fits q)
    (hkin : Kin s.stage pid q.role) (hheir : q.role.isHeir = true → p.role.isHeir = true)
    (hasleep : q.role.isAsleep = true → p.role.isAsleep = true)
    (hw : (s.put pid q).Watched → s.Watched) : (s.put pid q).Wired readFails where
  host r r' st hr hst := by
    rw [put_procs, Table.set_apply] at hr
    split at hr
    · rename_i hrp
      obtain rfl := Option.some.inj hr
      exact h.host r p st (hrp ▸ hp) (hhost st hst)
    · exact h.host r r' st hr hst
  fits := h.fits.set hfit
  kin := (h.kin.set hkin).imp fun _ _ hk => kin_of_stage hk fun _ => stage_put hp hhost
  line r r' hr hr' := by
    rw [put_procs, Table.set_apply] at hr
    split at hr
    · rename_i hrp
      obtain rfl := Option.some.inj hr
      rw [hrp]
      exact (h.line pid p hp (hheir hr')).set fun _ => rfl
    · exact (h.line r r' hr hr').set fun hq => h.line r r' hr hr' pid p hp (hheir hq)
  memory st hst := h.memory st (stage_put hp hhost hst)
  marked := h.marked
  launched hr st hst := h.launched hr st (stage_put hp hhost hst)
  asleep := h.asleep.set fun hq => h.asleep pid p hp (hasleep hq)
  awake hf prog hprog := (h.awake hf prog hprog).of_put (fun _ => stage_put hp hhost) hw
  silent := h.silent

/-- The same for what does not open anything. -/
theorem put_within (h : s.Wired readFails) (hp : s.procs pid = some p)
    (hhost : ∀ st, q.role = .host st → p.role = .host st) (hfit : s.notify.Fits q)
    (hkin : Kin s.stage pid q.role) (hheir : q.role.isHeir = true → p.role.isHeir = true)
    (hasleep : q.role.isAsleep = true → p.role.isAsleep = true) (hw : q.Within p) :
    (s.put pid q).Wired readFails :=
  h.put hp hhost hfit hkin hheir hasleep (shrinks_set hp hw _)

theorem drop (h : s.Wired readFails) (pid : Nat) : (s.drop pid).Wired readFails where
  host r r' st hr hst := by
    rw [drop_procs, Table.drop_apply] at hr
    split at hr
    · cases hr
    · exact h.host r r' st hr hst
  fits := h.fits.drop
  kin := h.kin.drop.imp fun _ _ hk => kin_of_stage hk fun _ => stage_drop
  line r r' hr hr' := by
    rw [drop_procs, Table.drop_apply] at hr
    split at hr
    · cases hr
    · exact (h.line r r' hr hr').drop
  memory st hst := h.memory st (stage_drop hst)
  marked := h.marked
  launched hr st hst := h.launched hr st (stage_drop hst)
  asleep := h.asleep.drop
  awake hf prog hprog :=
    ⟨fun st hst => (h.awake hf prog hprog).ended st (stage_drop hst),
      fun hq => (h.awake hf prog hprog).unwatched (shrinks_drop _ _ _ hq),
      (h.awake hf prog hprog).run⟩
  silent := h.silent

/-- A fork. -/
theorem put_free (h : s.Wired readFails) (hp : s.procs pid = some p) (hfree : s.Free child)
    (hhost : q.role.stage? = none) (hfit : s.notify.Fits q) (hkin : Kin s.stage child q.role)
    (hheir : q.role.isHeir = true → Everywhere s.procs fun _ r => r.role.isHeir = false)
    (hasleep : q.role.isAsleep = true → s.repair = none) (hw : q.Within p) :
    (s.put child q).Wired readFails where
  host r r' st hr hst := by
    rw [put_procs, Table.set_apply] at hr
    split at hr
    · obtain rfl := Option.some.inj hr
      exact absurd hhost (by simp [hst, Role.stage?])
    · exact h.host r r' st hr hst
  fits := h.fits.set hfit
  kin := by
    rw [stage_put_free hfree]
    exact h.kin.set hkin
  line r r' hr hr' := by
    rw [put_procs, Table.set_apply] at hr
    split at hr
    · rename_i hrc
      obtain rfl := Option.some.inj hr
      have hnone := hheir hr'
      exact Everywhere.set (fun k k' hk hk' => absurd hk' (by simp [hnone k k' hk]))
        fun _ => hrc.symm
    · exact (h.line r r' hr hr').set fun hq => absurd hr' (by simp [hheir hq r r' hr])
  memory st hst := h.memory st (stage_put_free hfree ▸ hst)
  marked := h.marked
  launched hr st hst := h.launched hr st (stage_put_free hfree ▸ hst)
  asleep := h.asleep.set hasleep
  awake hf prog hprog := (h.awake hf prog hprog).of_put
    (fun _ hst => stage_put_free hfree ▸ hst) (shrinks_set hp hw _)
  silent := h.silent

/-- The host goes on, and writes the record or makes and drops its mapping at most. -/
theorem put_host (h : s.Wired readFails) (hp : s.Is hostPid (.host st) p) {st' : HostStage}
    (hq : q.role = .host st') (hfit : s.notify.Fits q)
    (hkin : Everywhere s.procs fun pid r => Kin (some st') pid r.role)
    (hover : st ≠ .destroyed) (hlaunched : st.launched = true → st'.launched = true)
    {guardMem mapping : Bool} (hmem : guardMem = st'.hasMemory ∧ mapping = st'.hasMapping)
    {record : ReattachRecord} (hrecord : mapping = true → record.magic = reattachMagic) :
    Wired readFails { s.put hostPid q with
      guardMem := guardMem, mapping := mapping, record := record } := by
  have hstage : ∀ st'', (s.put hostPid q).stage = some st'' → st'' = st' := fun st'' hst =>
    Option.some.inj (hst.symm.trans (stage_put_host hq))
  have hheir : q.role.isHeir = false := by rw [hq]; rfl
  refine ⟨fun r r' st'' hr hst => ?_, h.fits.set hfit, ?_, fun r r' hr hr' => ?_,
    fun st'' hst => hstage st'' hst ▸ hmem, hrecord,
    fun hr st'' hst => hstage st'' hst ▸ ?_, ?_, ?_,
    h.silent⟩
  · rw [put_procs, Table.set_apply] at hr
    split at hr
    · assumption
    · exact h.host r r' st'' hr hst
  · intro r r' hr
    refine kin_of_stage ((hkin.set (p := q) ?_) r r' hr) fun st'' hst => ?_
    · rw [hq]
      exact fun _ _ => ⟨fun hc => absurd hc (by simp [Role.isChild]),
        fun hc => absurd hc (by simp [Role.isHelper])⟩
    · exact congrArg some (hstage st'' hst).symm
  · rw [put_procs, Table.set_apply] at hr
    split at hr
    · obtain rfl := Option.some.inj hr
      exact absurd hr' (by simp [hheir])
    · exact (h.line r r' hr hr').set fun hq' => absurd hq' (by simp [hheir])
  · exact hlaunched (h.launched hr st hp.stage)
  · refine h.asleep.set fun hc => absurd hc ?_
    rw [hq]
    simp [Role.isAsleep]
  · exact fun hf prog hprog => absurd ((h.awake hf prog hprog).ended st hp.stage) hover

/-- Before the first fork nothing was started. -/
theorem repair_eq_none (h : s.Wired readFails) (hp : s.Is hostPid (.host st) p)
    (hst : st.launched = false) : s.repair = none := by
  by_contra hr
  exact absurd (h.launched hr st hp.stage) (by simp [hst])

theorem kin_host (h : s.Wired readFails) (hp : s.Is hostPid (.host st) p) {st' : HostStage}
    (hc : ∀ c, st.child = some c → st'.child = some c)
    (hl : st.launched = true → st'.launched = true) :
    Everywhere s.procs fun pid r => Kin (some st') pid r.role :=
  fun pid r hr => Kin.host (hp.stage ▸ h.kin pid r hr) hc hl

theorem memory_host (h : s.Wired readFails) (hp : s.Is hostPid (.host st) p) (st' : HostStage)
    (hm : st'.hasMemory = st.hasMemory) (ha : st'.hasMapping = st.hasMapping) :
    s.guardMem = st'.hasMemory ∧ s.mapping = st'.hasMapping := by
  rw [hm, ha]
  exact h.memory st hp.stage

/-- There are no children of the guard before the first fork. -/
theorem isChild_eq_false (h : s.Wired readFails) (hp : s.Is hostPid (.host st) p)
    (hc : st.child = none) : Everywhere s.procs fun _ r => r.role.isChild = false := by
  intro pid r hr
  by_contra hchild
  have := (h.kin pid r hr st hp.stage).1 (by simpa using hchild)
  exact absurd this (by simp [hc])

theorem isHelper_eq_false (h : s.Wired readFails) (hp : s.Is hostPid (.host st) p)
    (hst : st.launched = false) : Everywhere s.procs fun _ r => r.role.isHelper = false := by
  intro pid r hr
  by_contra hhelper
  have := (h.kin pid r hr st hp.stage).2 (by simpa using hhelper)
  exact absurd this (by simp [hst])

/-- A new pipe, of which nobody has an end. -/
theorem renew (h : s.Wired readFails) (hp : s.Is hostPid (.host .mapped) p) (r w limit : Nat) :
    Wired readFails { s with notify := ⟨s.notify.id + 1, r, w, limit⟩ } := by
  have hrepair := h.repair_eq_none hp rfl
  refine ⟨h.host, fun pid q hq => ⟨fun n f hn id write hf => ?_, ?_⟩, h.kin, h.line, h.memory,
    h.marked, h.launched, h.asleep, fun _ prog hprog => absurd hprog (by simp [hrepair]), h.silent⟩
  · have hle := ((h.fits pid q hq).known n f hn id write hf).1
    exact ⟨Nat.le_succ_of_le hle, fun he => absurd he (Nat.ne_of_lt (Nat.lt_succ_of_le hle))⟩
  · have hnew : ∀ write, ¬ q.Has (.pipe (s.notify.id + 1) write) := by
      rintro write ⟨n, f, hn, hf⟩
      exact absurd ((h.fits pid q hq).known n f hn _ write hf).1 (Nat.not_succ_le_self _)
    have hends := (h.fits pid q hq).fits
    have hchild := h.isChild_eq_false hp rfl pid q hq
    have hhelper := h.isHelper_eq_false hp rfl pid q hq
    cases hrole : q.role with
    | host st =>
      obtain rfl := h.host pid q st hq hrole
      obtain rfl : HostStage.mapped = st := by
        have hst : s.Is hostPid (.host st) q := ⟨hq, hrole⟩
        exact Option.some.inj (hp.stage.symm.trans hst.stage)
      rw [hrole] at hends
      refine ⟨iff_of_false (hnew false) (by simp [HostStage.hasReadEnd]),
        iff_of_false (hnew true) (by simp [HostStage.hasWriteEnd]), fun id write hq => ?_⟩
      -- The pipes of earlier attempts are closed.
      obtain rfl := hends.2.2 id write hq
      cases write with
      | false => exact absurd (hends.1.1 hq) (by simp [HostStage.hasReadEnd])
      | true => exact absurd (hends.2.1.1 hq) (by simp [HostStage.hasWriteEnd])
    | intermediate => exact absurd hchild (by simp [hrole, Role.isChild])
    | helper => exact absurd hhelper (by simp [hrole, Role.isHelper])
    | zombie => trivial
    | other => trivial

end Wired

/-! ## Every step keeps it -/

section Steps

variable {dev : DeviceId} {readFails : Prop} {t : GuardSystem}

/-- `pipe2` -/
theorem Wired.pipe2 (h : s.Wired readFails) (hp : s.Is hostPid (.host .mapped) p) {r w : Nat}
    (hr : p.fds r = none) (hw : p.fds w = none) (hrw : r ≠ w) (limit : Nat) :
    Wired readFails { s.put hostPid (((p.openAs r ⟨.pipe (s.notify.id + 1) false, true⟩).openAs w
      ⟨.pipe (s.notify.id + 1) true, true⟩).become (.host .piped)) with
        notify := ⟨s.notify.id + 1, r, w, limit⟩ } := by
  have hnew := h.renew hp r w limit
  have hpiped := (hnew.kin_host hp (fun _ hc => hc) id : Everywhere s.procs
    fun pid r => Kin (some .piped) pid r.role)
  have hmem := hnew.memory_host hp .piped rfl rfl
  have hw' : (p.openAs r ⟨.pipe (s.notify.id + 1) false, true⟩).fds w = none := by
    rw [Process.openAs_fds, if_neg hrw.symm, hw]
  have hfit := hnew.fits hostPid p hp.1
  have hrole : (Process.become ((p.openAs r ⟨.pipe (s.notify.id + 1) false, true⟩).openAs w
      ⟨.pipe (s.notify.id + 1) true, true⟩) (.host .piped)).role = .host .piped := rfl
  refine hnew.put_host hp hrole ⟨fun n f hn id write hf => ?_, ?_⟩ hpiped (by simp) id
    hmem h.marked
  · rw [Process.become_fds, Process.openAs_fds] at hn
    split at hn
    · obtain rfl := Option.some.inj hn
      cases hf
      exact ⟨le_rfl, fun _ => ⟨rfl, by assumption⟩⟩
    · rw [Process.openAs_fds] at hn
      split at hn
      · obtain rfl := Option.some.inj hn
        cases hf
        exact ⟨le_rfl, fun _ => ⟨rfl, by assumption⟩⟩
      · exact hfit.known n f hn id write hf
  · have hread := Process.openAs_has (p := p) (f := ⟨.pipe (s.notify.id + 1) false, true⟩)
      (x := .pipe (s.notify.id + 1) false) hr
    have hhas := fun write => Process.openAs_has (f := ⟨.pipe (s.notify.id + 1) true, true⟩)
      (x := .pipe (s.notify.id + 1) write) hw'
    refine ⟨iff_of_true ((hhas false).2 (.inr (hread.2 (.inl rfl)))) rfl,
      iff_of_true ((hhas true).2 (.inl rfl)) rfl, fun id write hx => ?_⟩
    rcases (Process.openAs_has hw').1 hx with hx | hx
    · cases hx
      rfl
    · rcases (Process.openAs_has hr).1 hx with hx | hx
      · cases hx
        rfl
      · have hends := hfit.fits
        rw [hp.2] at hends
        exact hends.2.2 id write hx

/-- `raw_fork()` of the host -/
theorem Wired.fork (h : s.Wired readFails) (hp : s.Is hostPid (.host .piped) p)
    (hchild : s.Free child) :
    Wired readFails ((s.put hostPid (p.become (.host (.forked (some child))))).put child
      (p.become (.intermediate false))) := by
  have hfit := h.fits hostPid p hp.1
  have hends := hfit.fits
  rw [hp.2] at hends
  have hmem := h.memory_host hp (.forked (some child)) rfl rfl
  have hhost := h.put_host hp (q := p.become (.host (.forked (some child)))) rfl
    (hfit.become hp.2 rfl rfl) (h.kin_host hp (by simp [HostStage.child])
      (by simp [HostStage.launched])) (by simp) (by simp [HostStage.launched]) hmem h.marked
  have hfree : (s.put hostPid (p.become (.host (.forked (some child))))).Free child :=
    hchild.put hp.1
  refine hhost.put_free (q := p.become (.intermediate false)) put_self hfree rfl
    ⟨hfit.known, hends.1.2 rfl, hends.2.1.2 rfl⟩ ?_ ?_ (fun _ => h.repair_eq_none hp rfl)
    (p.become_within _)
  · intro st hst
    obtain rfl := Option.some.inj (hst.symm.trans (stage_put_host (s := s) rfl))
    exact ⟨fun _ => rfl, fun hc => absurd hc (by simp [Role.isHelper])⟩
  · refine fun _ => Everywhere.set (fun pid r hr => ?_) rfl
    have hchild := h.isChild_eq_false hp rfl pid r hr
    have hhelper := h.isHelper_eq_false hp rfl pid r hr
    cases hrole : r.role <;> simp_all [Role.isHeir, Role.isChild, Role.isHelper]

/-- `waitpid` -/
theorem Wired.waitpid (h : s.Wired readFails)
    (hp : s.Is hostPid (.host (.readClosed (some child))) p) (hq : s.Is child .zombie q) :
    Wired readFails ((s.drop child).put hostPid (p.become (.host .ready))) := by
  have hne : hostPid ≠ child := by
    rintro rfl
    obtain rfl := Option.some.inj (hp.1.symm.trans hq.1)
    exact absurd (hp.2.symm.trans hq.2) (by simp)
  have hp' : (s.drop child).Is hostPid (.host (.readClosed (some child))) p :=
    ⟨by rw [drop_procs, Table.drop_of_ne _ hne]; exact hp.1, hp.2⟩
  have hrole : (p.become (.host .ready)).role = .host .ready := rfl
  have hmem := h.memory_host hp .ready rfl rfl
  refine (h.drop child).put_host hp' hrole ((h.fits hostPid p hp.1).become hp.2 rfl rfl)
    (fun pid r hr => ?_) (by simp) (fun _ => rfl) hmem h.marked
  rintro _ ⟨⟩
  refine ⟨fun hc => ?_, fun _ => rfl⟩
  have hpid := ((h.drop child).kin pid r hr _ hp'.stage).1 hc
  obtain rfl : child = pid := Option.some.inj hpid
  rw [drop_procs, Table.drop_self] at hr
  cases hr

/-- `raw_fork()` of the intermediate process -/
theorem Wired.forkHelper (h : s.Wired readFails) (hp : s.Is pid (.intermediate false) p)
    (hchild : s.Free child) :
    Wired readFails ((s.put pid (p.become (.intermediate true))).put child
      (p.become (.helper .start))) := by
  have hfit := h.fits pid p hp.1
  have hends := hfit.fits
  rw [hp.2] at hends
  have hkin : Kin s.stage pid p.role := h.kin pid p hp.1
  rw [hp.2] at hkin
  have hfirst : (s.put pid (p.become (.intermediate true))).Wired readFails :=
    h.put_within hp.1 (by simp) ⟨hfit.known, hends⟩ (Kin.role hkin id id)
      (by simp [Role.isHeir]) (by simp [Role.isAsleep]) (p.become_within _)
  have hfree : (s.put pid (p.become (.intermediate true))).Free child := hchild.put hp.1
  have hstage : ∀ st, (s.put pid (p.become (.intermediate true))).stage = some st →
      s.stage = some st := fun st => stage_put hp.1 (by simp)
  refine hfirst.put_free (q := p.become (.helper .start)) put_self hfree rfl
    ⟨hfit.known, Notify.swept_zero hends.1 hends.2, Nat.zero_le _⟩ ?_ ?_
    (fun _ => h.asleep pid p hp.1 (by rw [hp.2]; rfl)) (p.become_within _)
  · refine fun st hst => ⟨fun hc => absurd hc (by simp [Role.isChild]), fun _ => ?_⟩
    have hc := (hkin st (hstage st hst)).1 rfl
    cases st <;> simp_all [HostStage.child, HostStage.launched]
  · refine fun _ k r hr => ?_
    rw [put_procs, Table.set_apply] at hr
    split at hr
    · obtain rfl := Option.some.inj hr
      rfl
    · by_contra hheir
      exact absurd (h.line pid p hp.1 (by rw [hp.2]; rfl) k r hr (by simpa using hheir))
        (by assumption)

/-- The helper's own steps. -/
theorem Wired.helper_become (h : s.Wired readFails) {stage stage' : HelperStage}
    (hp : s.Is pid (.helper stage) p) (hq : q.role = .helper stage') (hknown : s.notify.Known q)
    (hfit : s.notify.RoleFits q (.helper stage')) (hstage : stage ≠ .repairing)
    (hw : q.Within p) : (s.put pid q).Wired readFails := by
  have hkin : Kin s.stage pid p.role := h.kin pid p hp.1
  refine h.put_within hp.1 (by simp [hq]) ⟨hknown, by rw [hq]; exact hfit⟩
    (Kin.role hkin (by simp [hq, Role.isChild]) (by simp [hp.2, Role.isHelper]))
    (by simp [hp.2, Role.isHeir]) (fun _ => ?_) hw
  rw [hp.2]
  cases stage <;> simp_all [Role.isAsleep]

/-- Everybody else that could be asleep is the one that wakes up. -/
theorem Wired.wake (h : s.Wired readFails) (hp : s.Is pid (.helper .reading) p)
    (heof : ¬ s.Watched ∨ readFails) :
    Wired readFails { s.put pid (p.become (.helper .repairing)) with
      repair := some (reattachArmedInterfaces s.record) } := by
  have hfit := h.fits pid p hp.1
  have hrole := hfit.fits
  rw [hp.2] at hrole
  have hkin : Kin s.stage pid p.role := h.kin pid p hp.1
  rw [hp.2] at hkin
  have hput := h.helper_become hp (q := p.become (.helper .repairing)) rfl hfit.known
    ⟨hrole.1.become _, hrole.2⟩ (by simp) (p.become_within _)
  have hstage : ∀ st, (s.put pid (p.become (.helper .repairing))).stage = some st →
      s.stage = some st := fun st => stage_put hp.1 (by simp)
  have hsilent : s.log = [] := h.silent (h.asleep pid p hp.1 (by rw [hp.2]; rfl))
  refine ⟨hput.host, hput.fits, hput.kin, hput.line, hput.memory, h.marked,
    fun _ st hst => (hkin st (hstage st hst)).2 rfl, fun k r hr hasleep => ?_, ?_,
    fun hnone => absurd hnone (by simp)⟩
  · have hk : k = pid := by
      refine hput.line pid (p.become (.helper .repairing)) put_self rfl
        k r hr ?_
      revert hasleep
      cases r.role with
      | helper => exact fun _ => rfl
      | intermediate => exact id
      | host | zombie | other => exact fun hc => hc
    obtain rfl := hk
    obtain rfl : p.become (.helper .repairing) = r :=
      Option.some.inj ((Table.set_self ..).symm.trans hr)
    exact absurd hasleep (by simp [Role.isAsleep])
  · rintro hf _ ⟨⟩
    have hunwatched : ¬ s.Watched := heof.resolve_right hf
    have hshrinks : (s.put pid (p.become (.helper .repairing))).Watched → s.Watched :=
      shrinks_set hp.1 (p.become_within _) _
    have hrun : Relation.ReflTransGen (Step alone) (reattachArmedInterfaces s.record, ⟨(), []⟩)
        (reattachArmedInterfaces s.record, ⟨(), s.log⟩) := by rw [hsilent]
    refine ⟨fun st hst => ?_, fun hq => hunwatched (hshrinks hq), hrun⟩
    obtain ⟨r, hr⟩ := stage_eq_some.1 (hstage st hst)
    have hlaunched := (hkin st hr.stage).2 rfl
    have hends := (h.fits hostPid r hr.1).fits
    rw [hr.2] at hends
    have hwrite : st.hasWriteEnd ≠ true := fun hc => hunwatched ⟨hostPid, r, hr.1, hends.2.1.2 hc⟩
    cases st <;> simp_all [HostStage.hasWriteEnd, HostStage.launched]

/-- A call of the helper. -/
theorem Wired.repair_step (h : s.Wired readFails) {prog prog' : HelperProg Unit}
    (hprog : s.repair = some prog) {log : HelperLog}
    (hstep : Step alone (prog, ⟨(), s.log⟩) (prog', ⟨(), log⟩)) :
    Wired readFails { s with repair := some prog', log := log } := by
  refine ⟨h.host, h.fits, h.kin, h.line, h.memory, h.marked, fun _ => h.launched (by simp [hprog]),
    fun pid p hp hc => absurd (h.asleep pid p hp hc) (by simp [hprog]), ?_,
    fun hnone => absurd hnone (by simp)⟩
  rintro hf _ ⟨⟩
  obtain ⟨hover, hunwatched, hrun⟩ := h.awake hf prog hprog
  exact ⟨hover, hunwatched, hrun.tail hstep⟩

/-- The record is only written by a host that could still be waited for. -/
theorem Wired.write (h : s.Wired readFails) (hp : s.Is hostPid (.host .ready) p)
    {record : ReattachRecord} (hrecord : record.magic = s.record.magic) :
    Wired readFails { s with record := record } :=
  ⟨h.host, h.fits, h.kin, h.line, h.memory, fun hm => hrecord.trans (h.marked hm), h.launched,
    h.asleep,
    fun hf prog hprog => absurd ((h.awake hf prog hprog).ended _ hp.stage) (by simp), h.silent⟩

/-- The host and its own children do not have the part of a child of the guard. -/
theorem kin_of_role {stage : Option HostStage} {role : Role} (hc : role.isChild = false)
    (hh : role.isHelper = false) : Kin stage pid role :=
  fun _ _ => ⟨fun hr => absurd hr (by simp [hc]), fun hr => absurd hr (by simp [hh])⟩

/-- A file that has nothing to do with the pipe is opened. -/
theorem Wired.openForeign (h : s.Wired readFails) {role : Role} (hp : s.Is pid role p)
    (hrole : role = .other ∨ ∃ stage, role = .host stage) {n : Nat} (hn : p.fds n = none)
    (file : Nat) (cloexec : Bool) :
    (s.put pid (p.openAs n ⟨.foreign file, cloexec⟩)).Wired readFails := by
  have hfit := h.fits pid p hp.1
  have hkin : Kin s.stage pid p.role := h.kin pid p hp.1
  refine h.put hp.1 (fun _ hst => hst) ⟨hfit.known.openForeign n file cloexec, ?_⟩ hkin id id
    (holds_set_openAs hp.1 (by simp))
  have hends := hfit.fits
  rw [Process.openAs_role]
  rw [hp.2] at hends ⊢
  obtain rfl | ⟨stage, rfl⟩ := hrole
  · trivial
  · refine hends.of_has fun id write => (Process.openAs_has hn).trans ⟨fun hx => ?_, .inr⟩
    exact hx.resolve_left (by simp)

/-- A descriptor is closed that is no end of the pipe, or not by the host. -/
theorem Wired.closeForeign (h : s.Wired readFails) {role : Role} {n : Nat} (hp : s.Is pid role p)
    (hrole : role = .other ∨ (∃ stage, role = .host stage) ∧
      ∀ f, p.fds n = some f → ∃ file, f.file = .foreign file) :
    (s.put pid (p.close n)).Wired readFails := by
  have hfit := h.fits pid p hp.1
  have hkin : Kin s.stage pid p.role := h.kin pid p hp.1
  refine h.put_within hp.1 (fun _ hst => hst)
    ⟨hfit.known.of_within (p.close_within n), ?_⟩ hkin id id (p.close_within n)
  have hends := hfit.fits
  rw [Process.close_role]
  rw [hp.2] at hends ⊢
  obtain rfl | ⟨⟨stage, rfl⟩, hforeign⟩ := hrole
  · trivial
  · refine hends.of_has fun id write => ⟨(p.close_within n).has, ?_⟩
    rintro ⟨m, f, hm, hf⟩
    have hmn : m ≠ n := by
      rintro rfl
      obtain ⟨file, hfile⟩ := hforeign f hm
      exact absurd (hf.symm.trans hfile) (by simp)
    exact ⟨m, f, by rw [Process.close_fds, if_neg hmn, hm], hf⟩

/-- The host goes on with the descriptors it has. -/
theorem Wired.host_become (h : s.Wired readFails) (hp : s.Is hostPid (.host st) p) (st' : HostStage)
    (hc : ∀ c, st.child = some c → st'.child = some c)
    (hl : st.launched = true → st'.launched = true) (hst : st ≠ .destroyed)
    (hr : st'.hasReadEnd = st.hasReadEnd) (hw : st'.hasWriteEnd = st.hasWriteEnd)
    {guardMem mapping : Bool} (hmem : guardMem = st'.hasMemory ∧ mapping = st'.hasMapping)
    {record : ReattachRecord} (hrecord : mapping = true → record.magic = reattachMagic) :
    Wired readFails { s.put hostPid (p.become (.host st')) with
      guardMem := guardMem, mapping := mapping, record := record } :=
  h.put_host hp rfl ((h.fits _ _ hp.1).become hp.2 hr hw) (h.kin_host hp hc hl) hst hl hmem hrecord

/-- The host gives its write end and the memory back. -/
theorem Wired.release (h : s.Wired readFails) (hp : s.Is hostPid (.host st) p) (st' : HostStage)
    (hc : ∀ c, st.child = some c → st'.child = some c)
    (hl : st.launched = true → st'.launched = true) (hst : st ≠ .destroyed)
    (hread : st.hasReadEnd = false) (hr : st'.hasReadEnd = false) (hw : st'.hasWriteEnd = false)
    (hmem : st'.hasMemory = false ∧ st'.hasMapping = false) :
    Wired readFails { s.put hostPid ((p.close s.notify.writeFd).become (.host st')) with
      guardMem := false, mapping := false } :=
  h.put_host hp rfl ((h.fits _ _ hp.1).close_write hp.2 hread hr hw) (h.kin_host hp hc hl) hst hl
    ⟨hmem.1.symm, hmem.2.symm⟩ (by simp)

/-- **Every step keeps it.** -/
theorem Wired.step (h : s.Wired readFails) (hs : GuardStep dev readFails s t) :
    t.Wired readFails := by
  cases hs with
  | calloc hp =>
    exact h.host_become hp .allocated (fun _ hc => hc) id (by simp) rfl rfl
      ⟨rfl, (h.memory _ hp.stage).2⟩ h.marked
  | callocFails hp =>
    exact h.host_become hp .failed (fun _ hc => hc) id (by simp) rfl rfl
      (h.memory_host hp .failed rfl rfl) h.marked
  | mmap hp =>
    exact h.host_become hp .mapped (fun _ hc => hc) id (by simp) rfl rfl
      ⟨(h.memory _ hp.stage).1, rfl⟩ fun _ => rfl
  | mmapFails hp =>
    exact h.host_become hp .failed (fun _ hc => hc) id (by simp) rfl rfl
      ⟨rfl, (h.memory _ hp.stage).2⟩ h.marked
  | pipe2 hp hr hw hrw openMax => exact h.pipe2 hp hr hw hrw _
  | pipe2Fails hp =>
    exact h.host_become hp .failed (fun _ hc => hc) id (by simp) rfl rfl ⟨rfl, rfl⟩
      (by simp [HostStage.hasMapping])
  | fork hp hchild => exact h.fork hp hchild
  | forkFails hp =>
    exact h.host_become hp (.forked none) (fun _ hc => hc) id (by simp) rfl rfl
      (h.memory_host hp (.forked none) rfl rfl) h.marked
  | @closeRead p child hp =>
    have hrole : ((p.close s.notify.readFd).become (.host (.readClosed child))).role =
      .host (.readClosed child) := rfl
    exact h.put_host hp hrole ((h.fits _ _ hp.1).close_read hp.2)
      (h.kin_host hp (fun _ hc => hc) id) (by simp) id
      (h.memory_host hp (.readClosed child) rfl rfl) h.marked
  | giveUp hp => exact h.release hp .failed (fun _ hc => hc) id (by simp) rfl rfl rfl ⟨rfl, rfl⟩
  | waitpid hp hq => exact h.waitpid hp hq
  | retry hp =>
    exact h.host_become hp .start (fun _ hc => hc) id (by simp) rfl rfl
      (h.memory_host hp .start rfl rfl) h.marked
  | arm hp i => exact h.write hp (ReattachRecord.arm_magic _ i)
  | disarm hp i => exact h.write hp (ReattachRecord.disarm_magic _ i)
  | destroy hp => exact h.release hp .destroyed (fun _ hc => hc) id (by simp) rfl rfl rfl ⟨rfl, rfl⟩
  | forkHelper hp hchild => exact h.forkHelper hp hchild
  | @forkHelperFails pid p hp =>
    have hfit := h.fits pid p hp.1
    have hkin : Kin s.stage pid p.role := h.kin pid p hp.1
    have hends := hfit.fits
    rw [hp.2] at hends hkin
    exact h.put_within hp.1 (by simp) ⟨hfit.known, hends⟩ (Kin.role hkin id id)
      (by simp [Role.isHeir]) (by simp [Role.isAsleep]) (p.become_within _)
  | @exitIntermediate pid p hp =>
    have hkin : Kin s.stage pid p.role := h.kin pid p hp.1
    exact h.put_within hp.1 (by simp) ⟨fun n f hn => by simp at hn, trivial⟩
      (Kin.role hkin (by simp [hp.2, Role.isChild]) (by simp [Role.isHelper]))
      (by simp [Role.isHeir]) (by simp [Role.isAsleep]) (Process.ended_within _ _)
  | @setsid pid p hp =>
    have hfit := h.fits pid p hp.1
    have hrole := hfit.fits
    rw [hp.2] at hrole
    exact h.helper_become hp rfl hfit.known ⟨hrole.1.become _, hrole.2⟩ (by simp)
      (p.become_within _)
  | @closeInherited pid fd p hp hfd =>
    have hfit := h.fits pid p hp.1
    have hrole := hfit.fits
    rw [hp.2] at hrole
    have hswept : s.notify.Swept p fd := hrole.1
    have hwithin : (if fd ≠ s.notify.readFd then p.close fd else p).Within p := by
      split
      · exact p.close_within fd
      · exact fun _ _ hn => hn
    exact h.helper_become hp rfl (hfit.known.of_within hwithin)
      ⟨(hswept.close hfit.known).become _, hfd⟩ (by simp) hwithin
  | @allClosed pid fd p hp hfd =>
    have hfit := h.fits pid p hp.1
    have hrole := hfit.fits
    rw [hp.2] at hrole
    have hswept : s.notify.Swept p fd := hrole.1
    obtain rfl : fd = s.notify.scanLimit := le_antisymm hrole.2 (not_lt.1 hfd)
    exact h.helper_become hp rfl hfit.known ⟨hswept.become _, le_rfl⟩ (by simp)
      (p.become_within _)
  | wake hp heof => exact h.wake hp heof
  | repair hp hprog hstep => exact h.repair_step hprog hstep
  | exitHelper => exact h.drop _
  | @spawn pid child role p hp hrole hchild =>
    exact h.put_free hp.1 hchild rfl ⟨(h.fits pid p hp.1).known, trivial⟩
      (kin_of_role rfl rfl) (by simp [Role.isHeir]) (by simp [Role.isAsleep]) (p.become_within _)
  | @exec pid role p hp hrole =>
    exact h.put_within hp.1 (by simp)
      ⟨(h.fits pid p hp.1).known.of_within (p.exec_within _), trivial⟩
      (kin_of_role rfl rfl) (by simp [Role.isHeir]) (by simp [Role.isAsleep]) (p.exec_within _)
  | openForeign hp hrole hn file cloexec => exact h.openForeign hp hrole hn file cloexec
  | closeForeign hp hrole => exact h.closeForeign hp hrole
  | die => exact h.drop _
  | @dieIntermediate pid forked p hp =>
    have hkin : Kin s.stage pid p.role := h.kin pid p hp.1
    exact h.put_within hp.1 (by simp) ⟨fun n f hn => by simp at hn, trivial⟩
      (Kin.role hkin (by simp [hp.2, Role.isChild]) (by simp [Role.isHelper]))
      (by simp [Role.isHeir]) (by simp [Role.isAsleep]) (Process.ended_within _ _)

end Steps

/-! ## Runs -/

/-- Before the guard is asked for: the host and its own children, and no file that has to do with
guards. -/
structure Initial (s : GuardSystem) : Prop where
  host : ∃ p, s.Is hostPid (.host .start) p
  others : ∀ pid p, s.procs pid = some p → pid = hostPid ∨ p.role = .other
  foreign : Everywhere s.procs fun _ p => ∀ n f, p.fds n = some f → ∃ file, f.file = .foreign file
  memory : s.guardMem = false ∧ s.mapping = false
  idle : s.repair = none ∧ s.log = []

/-- The states of all runs. -/
def Reachable (dev : DeviceId) (readFails : Prop) (t : GuardSystem) : Prop :=
  ∃ s : GuardSystem, s.Initial ∧ Relation.ReflTransGen (GuardStep dev readFails) s t

section Runs

variable {dev : DeviceId} {readFails : Prop} {t : GuardSystem}

theorem Initial.wired (h : s.Initial) : s.Wired readFails := by
  obtain ⟨⟨p, hp⟩, hothers, hforeign, hmem, hidle⟩ := h
  have hrole : ∀ pid q, s.procs pid = some q → q.role = .host .start ∨ q.role = .other := by
    intro pid q hq
    rcases hothers pid q hq with rfl | hq'
    · obtain rfl := Option.some.inj (hp.1.symm.trans hq)
      exact .inl hp.2
    · exact .inr hq'
  have hends : ∀ pid q, s.procs pid = some q → ∀ id write, ¬ q.Has (.pipe id write) := by
    rintro pid q hq id write ⟨n, f, hn, hf⟩
    obtain ⟨file, hfile⟩ := hforeign pid q hq n f hn
    exact absurd (hf.symm.trans hfile) (by simp)
  refine ⟨fun pid q st hq hst => ?_, fun pid q hq => ⟨fun n f hn id write hf => ?_, ?_⟩,
    fun pid q hq => ?_, fun pid q hq hheir => ?_, fun st hst => ?_,
    fun hm => absurd hm (by simp [hmem.2]), fun hr => absurd hidle.1 hr, fun _ _ _ _ => hidle.1,
    fun _ prog hprog => absurd hprog (by simp [hidle.1]), fun _ => hidle.2⟩
  · exact (hothers pid q hq).resolve_right (by simp [hst])
  · obtain ⟨file, hfile⟩ := hforeign pid q hq n f hn
    exact absurd (hf.symm.trans hfile) (by simp)
  · rcases hrole pid q hq with hq' | hq'
    · rw [hq']
      exact ⟨iff_of_false (hends pid q hq _ false) (by simp [HostStage.hasReadEnd]),
        iff_of_false (hends pid q hq _ true) (by simp [HostStage.hasWriteEnd]),
        fun id write hx => absurd hx (hends pid q hq id write)⟩
    · rw [hq']
      trivial
  · rcases hrole pid q hq with hq' | hq' <;> rw [hq'] <;> exact kin_of_role rfl rfl
  · rcases hrole pid q hq with hq' | hq' <;> simp [hq', Role.isHeir] at hheir
  · obtain rfl := Option.some.inj (hst.symm.trans hp.stage)
    exact hmem

theorem Wired.run (h : s.Wired readFails)
    (hrun : Relation.ReflTransGen (GuardStep dev readFails) s t) : t.Wired readFails := by
  induction hrun with
  | refl => exact h
  | tail _ hlast ih => exact ih.step hlast

/-- **In every run, the processes are wired as they should be.** -/
theorem Reachable.wired (h : Reachable dev readFails s) : s.Wired readFails := by
  obtain ⟨s₀, h₀, hrun⟩ := h
  exact h₀.wired.run hrun

/-- Once the helper is awake, nobody writes the record. -/
theorem Wired.frozen_step (h : s.Wired readFails) (hread : ¬ readFails) (hr : s.repair ≠ none)
    (hs : GuardStep dev readFails s t) : t.repair ≠ none ∧ t.record = s.record := by
  obtain ⟨prog, hprog⟩ := Option.ne_none_iff_exists'.1 hr
  have hended := (h.awake hread prog hprog).ended
  cases hs with
  | mmap hp => exact absurd (hended _ hp.stage) (by simp)
  | arm hp => exact absurd (hended _ hp.stage) (by simp)
  | disarm hp => exact absurd (hended _ hp.stage) (by simp)
  | wake | repair => exact ⟨by simp, rfl⟩
  | _ => exact ⟨hr, rfl⟩

theorem Wired.frozen_run (h : s.Wired readFails) (hread : ¬ readFails) (hr : s.repair ≠ none)
    (hrun : Relation.ReflTransGen (GuardStep dev readFails) s t) :
    t.repair ≠ none ∧ t.record = s.record := by
  induction hrun with
  | refl => exact ⟨hr, rfl⟩
  | tail hrun hlast ih =>
    obtain ⟨hr', hrecord⟩ := (h.run hrun).frozen_step hread ih.1 hlast
    exact ⟨hr', hrecord.trans ih.2⟩

/-- What a helper that is done has called. -/
theorem Wired.reattached (h : s.Wired readFails) (hread : ¬ readFails)
    (hdone : s.repair = some (pure ())) : Reattached s.record (s.log.filter isBackend) := by
  obtain ⟨calls, hlog, hcalls⟩ :=
    ((makes_reattachArmedInterfaces s.record ⟨(), []⟩).sound (h.awake hread _ hdone).run).2 () rfl
  have hcalls' : s.log = calls := by simpa using hlog
  rw [hcalls']
  exact hcalls

/-! ## The helper by itself -/

/-- A helper that is past waiting has something to do. -/
def Busy (s : GuardSystem) : Prop :=
  Everywhere s.procs fun _ p => p.role = .helper .repairing → s.repair ≠ none

theorem Busy.step (h : s.Busy) (hs : GuardStep dev readFails s t) : t.Busy := by
  cases hs with
  | arm | disarm => exact h
  | fork | forkHelper => exact (h.set (by simp)).set (by simp)
  | waitpid => exact h.drop.set (by simp)
  | wake => exact fun _ _ _ _ => by simp
  | repair => exact fun _ _ _ _ => by simp
  | exitHelper | die => exact h.drop
  | openForeign hp => exact h.set fun hr => h _ _ hp.1 hr
  | closeForeign hp => exact h.set fun hr => h _ _ hp.1 hr
  | _ => exact h.set (by simp)

theorem Initial.busy (h : s.Initial) : s.Busy := by
  intro pid p hp hrole
  rcases h.others pid p hp with rfl | hother
  · obtain ⟨q, hq⟩ := h.host
    obtain rfl := Option.some.inj (hp.symm.trans hq.1)
    exact absurd (hrole.symm.trans hq.2) (by simp)
  · exact absurd (hrole.symm.trans hother) (by simp)

theorem Reachable.busy (h : Reachable dev readFails s) : s.Busy := by
  obtain ⟨s₀, h₀, hrun⟩ := h
  induction hrun with
  | refl => exact h₀.busy
  | tail _ hlast ih => exact ih.step hlast

@[simp] theorem put_put : (s.put pid p).put pid q = s.put pid q := by
  rw [put, put, put, Table.set_set]

/-- The helper gets to its `read` by itself. -/
theorem run_closing {fd : Nat} (hp : s.Is pid (.helper (.closing fd)) p) :
    ∃ q, q.role = .helper .reading ∧
      Relation.ReflTransGen (GuardStep dev readFails) s (s.put pid q) := by
  induction hn : s.notify.scanLimit - fd generalizing s p fd with
  | zero => exact ⟨_, rfl, .single (.allClosed hp (by omega))⟩
  | succ n ih =>
    have hfirst : GuardStep dev readFails s _ := .closeInherited hp (by omega)
    obtain ⟨q, hq, hrun⟩ := ih (put_become (.helper (.closing (fd + 1))))
      (show s.notify.scanLimit - (fd + 1) = n by omega)
    exact ⟨q, hq, put_put ▸ hrun.head hfirst⟩

theorem run_reading {stage : HelperStage} (hp : s.Is pid (.helper stage) p)
    (hstage : stage ≠ .repairing) :
    ∃ q, q.role = .helper .reading ∧
      Relation.ReflTransGen (GuardStep dev readFails) s (s.put pid q) := by
  cases stage with
  | start =>
    have hfirst : GuardStep dev readFails s _ := .setsid hp
    obtain ⟨q, hq, hrun⟩ := run_closing (put_become (.helper (.closing 0)))
    exact ⟨q, hq, put_put ▸ hrun.head hfirst⟩
  | closing fd => exact run_closing hp
  | reading =>
    refine ⟨p, hp.2, ?_⟩
    rw [put, Table.set_eq_self hp.1]
  | repairing => exact absurd rfl hstage

/-- The helper gets on with its calls by itself. -/
theorem run_repair (hp : s.Is pid (.helper .repairing) p) {prog : HelperProg Unit}
    (hprog : s.repair = some prog) {c : HelperProg Unit × World Unit HelperCall}
    (hrun : Relation.ReflTransGen (Step alone) (prog, ⟨(), s.log⟩) c) :
    Relation.ReflTransGen (GuardStep dev readFails) s
      { s with repair := some c.1, log := c.2.log } := by
  induction hrun with
  | refl => rw [← hprog]
  | @tail b c _ hlast ih =>
    have hat : Is { s with repair := some b.1, log := b.2.log } pid (.helper .repairing) p := hp
    exact ih.tail (.repair hat rfl hlast)

/-- The helper's own copy is gone when it reads, if the loop got that far. -/
theorem Wired.unwatched (h : s.Wired readFails) (hp : s.Is pid (.helper .reading) p)
    (halone : ∀ q r, q ≠ pid → s.procs q = some r → ¬ r.Has (.pipe s.notify.id true))
    (hlimit : s.notify.writeFd < s.notify.scanLimit) : ¬ s.Watched := by
  rintro ⟨q, r, hq, hr⟩
  by_cases hpid : q = pid
  · subst hpid
    obtain rfl := Option.some.inj (hp.1.symm.trans hq)
    have hfit := h.fits q p hq
    have hrole := hfit.fits
    rw [hp.2] at hrole
    obtain ⟨n, f, hn, hf⟩ := hr
    have hslot : n = s.notify.writeFd := hfit.known.onlyAt true n f hn hf
    have hne := hfit.known.readFd_ne hrole.1.read ⟨n, f, hn, hf⟩
    have habove : n = s.notify.readFd ∨ s.notify.scanLimit ≤ n := hrole.1.above n f hn
    omega
  · exact halone q r hpid hq hr

/-- When no other process holds a write end, the helper gets to its end by itself. -/
theorem Wired.finishes (h : s.Wired readFails) (hbusy : s.Busy) {stage : HelperStage}
    (hp : s.Is pid (.helper stage) p)
    (halone : ∀ q r, q ≠ pid → s.procs q = some r → ¬ r.Has (.pipe s.notify.id true))
    (hlimit : s.notify.writeFd < s.notify.scanLimit) :
    ∃ t, Relation.ReflTransGen (GuardStep dev readFails) s t ∧ t.procs = s.procs.drop pid ∧
      t.record = s.record ∧ t.repair = some (pure ()) := by
  -- Up to the repair, unless the helper is there already.
  obtain ⟨u, q, prog, hrun, hq, hprog, hprocs, hrecord⟩ : ∃ u q prog,
      Relation.ReflTransGen (GuardStep dev readFails) s u ∧ u.Is pid (.helper .repairing) q ∧
      u.repair = some prog ∧ u.procs.drop pid = s.procs.drop pid ∧ u.record = s.record := by
    by_cases hstage : stage = .repairing
    · subst hstage
      obtain ⟨prog, hprog⟩ := Option.ne_none_iff_exists'.1 (hbusy pid p hp.1 hp.2)
      exact ⟨s, p, prog, .refl, hp, hprog, rfl, rfl⟩
    · obtain ⟨q, hq, hrun⟩ : ∃ q, q.role = .helper .reading ∧
          Relation.ReflTransGen (GuardStep dev readFails) s (s.put pid q) :=
        run_reading hp hstage
      have hunwatched : ¬ (s.put pid q).Watched := by
        refine (h.run hrun).unwatched ⟨put_self, hq⟩ (fun k r hk hr => ?_) hlimit
        rw [put_procs, Table.set_of_ne _ _ hk] at hr
        exact halone k r hk hr
      exact ⟨_, _, _, hrun.tail (.wake ⟨put_self, hq⟩ (.inl hunwatched)), put_become _, rfl,
        by simp, rfl⟩
  have hcalls : Relation.ReflTransGen (GuardStep dev readFails) u _ :=
    run_repair hq hprog (steps_play (fun _ _ => 0) prog _)
  exact ⟨_, (hrun.trans hcalls).tail (.exitHelper hq rfl), hprocs, hrecord, rfl⟩

/-- When the guarded process is gone it stays so, and nobody writes the record. -/
theorem gone_step (hs : GuardStep dev readFails s t) (h : s.stage = none) :
    t.stage = none ∧ t.record = s.record := by
  constructor
  · rw [Option.eq_none_iff_forall_ne_some]
    intro st hst
    rcases stage_step hs hst with hst | ⟨st', hst', -⟩
    · exact absurd hst (by simp [h])
    · exact absurd hst' (by simp [h])
  · cases hs with
    | mmap hp => exact absurd hp.stage (by simp [h])
    | arm hp => exact absurd hp.stage (by simp [h])
    | disarm hp => exact absurd hp.stage (by simp [h])
    | _ => rfl

/-! ## What the helper waits for -/

/-- A process that has no files open, before it makes a guard. -/
def single : GuardSystem where
  procs pid := if pid = hostPid then some ⟨.host .start, fun _ => none⟩ else none
  record := ⟨0, 0#32, 0, 0, 0, 0, 0⟩

theorem single_initial : single.Initial := by
  refine ⟨⟨_, rfl, rfl⟩, fun pid p hp => ?_, fun pid p hp n f hn => ?_, ⟨rfl, rfl⟩, ⟨rfl, rfl⟩⟩
  · by_cases hpid : pid = hostPid
    · exact .inl hpid
    · simp [single, hpid] at hp
  · by_cases hpid : pid = hostPid
    · simp only [single, hpid, if_true, Option.some.injEq] at hp
      subst hp
      cases hn
    · simp [single, hpid] at hp

/-- The process makes a guard, arms interface 1 and is killed before the helper has run. -/
theorem exists_killed (dev : DeviceId) :
    ∃ s p, Reachable dev False s ∧ s.Is 2 (.helper .start) p ∧ s.repair = none ∧
      s.record = (ReattachRecord.init dev).arm 1 ∧
      (∀ q r, q ≠ 2 → s.procs q = some r → ¬ r.Has (.pipe s.notify.id true)) ∧
      s.notify.writeFd < s.notify.scanLimit := by
  refine ⟨_, _, ⟨single, single_initial, (((((((((Relation.ReflTransGen.refl.tail
    (.calloc ⟨rfl, rfl⟩)).tail
    (.mmap ⟨rfl, rfl⟩)).tail
    (.pipe2 ⟨rfl, rfl⟩ (r := 3) (w := 4) rfl rfl (by decide) 1024)).tail
    (@GuardStep.fork dev False _ _ ⟨rfl, rfl⟩ 1 ⟨rfl, by decide⟩)).tail
    (@GuardStep.forkHelper dev False _ 1 2 _ ⟨rfl, rfl⟩ ⟨rfl, by decide⟩)).tail
    (@GuardStep.exitIntermediate dev False _ 1 _ ⟨rfl, rfl⟩)).tail
    (.closeRead ⟨rfl, rfl⟩)).tail
    (.waitpid ⟨rfl, rfl⟩ ⟨rfl, rfl⟩)).tail
    (.arm ⟨rfl, rfl⟩ 1)).tail
    (@GuardStep.die dev False _ hostPid _ _ ⟨rfl, rfl⟩ rfl)⟩, ⟨rfl, rfl⟩, rfl, rfl, ?_, ?_⟩
  · intro q r hq hr
    by_cases h0 : q = hostPid
    · subst h0
      cases hr
    · by_cases h1 : q = 1
      · subst h1
        cases hr
      · simp [single, Table.set_apply, Table.drop_apply, hq, h0, h1] at hr
  · exact (by decide : 4 < fdScanLimit 1024)

/-- **The helper waits for the last write end.**  There is never more than one helper.  Whatever the
processes do and in whatever order, it has called nothing while somebody holds a write end; from the
moment it stops waiting no write end of the pipe ever appears again and nobody changes the record;
and when it is done it has called what that record asks for. -/
theorem helper_waits {s : GuardSystem} (hread : ¬ readFails) (h : Reachable dev readFails s) :
    (∀ pid pid' p p' stage stage', s.Is pid (.helper stage) p → s.Is pid' (.helper stage') p' →
      pid = pid') ∧
    (s.Watched → s.repair = none ∧ s.log = []) ∧
    (s.repair ≠ none → ∀ t, Relation.ReflTransGen (GuardStep dev readFails) s t →
      ¬ t.Watched ∧ t.record = s.record ∧
      (t.repair = some (pure ()) → Reattached s.record (t.log.filter isBackend))) := by
  have hw := h.wired
  refine ⟨fun pid pid' p p' stage stage' hp hp' => ?_, fun hwatched => ?_, fun hr t hrun => ?_⟩
  · exact (hw.line pid p hp.1 (by rw [hp.2]; rfl) pid' p' hp'.1 (by rw [hp'.2]; rfl)).symm
  · have hnone : s.repair = none := by
      by_contra hr
      obtain ⟨prog, hprog⟩ := Option.ne_none_iff_exists'.1 hr
      exact (hw.awake hread prog hprog).unwatched hwatched
    exact ⟨hnone, hw.silent hnone⟩
  · obtain ⟨hr', hrecord⟩ := hw.frozen_run hread hr hrun
    obtain ⟨prog, hprog⟩ := Option.ne_none_iff_exists'.1 hr'
    exact ⟨((hw.run hrun).awake hread prog hprog).unwatched, hrecord,
      fun hdone => hrecord ▸ (hw.run hrun).reattached hread hdone⟩

/-- The device of the examples below. -/
def camera : DeviceId := ⟨1, 4, 0x046d, 0x0825, 0x0010⟩

/-- The helper of a killed process at the moment it has woken. -/
theorem helper_waits_killed :
    ∃ s, Reachable camera False s ∧ s.repair ≠ none ∧
      ∀ t, Relation.ReflTransGen (GuardStep camera False) s t →
        ¬ t.Watched ∧ t.record = s.record ∧
        (t.repair = some (pure ()) → Reattached s.record (t.log.filter isBackend)) := by
  obtain ⟨s, p, h, hp, -, -, halone, hlimit⟩ := exists_killed camera
  obtain ⟨q, hq, hrun⟩ : ∃ q, q.role = .helper .reading ∧
      Relation.ReflTransGen (GuardStep camera False) s (s.put 2 q) := run_reading hp (by simp)
  have hunwatched : ¬ (s.put 2 q).Watched := by
    refine (h.wired.run hrun).unwatched ⟨put_self, hq⟩ (fun k r hk hr => ?_) hlimit
    rw [put_procs, Table.set_of_ne _ _ hk] at hr
    exact halone k r hk hr
  obtain ⟨s₀, h₀, hrun₀⟩ := h
  have hwoken : Reachable camera False { s.put 2 (q.become (.helper .repairing)) with
      repair := some (reattachArmedInterfaces s.record) } := by
    rw [← put_put]
    exact ⟨s₀, h₀, (hrun₀.trans hrun).tail (.wake ⟨put_self, hq⟩ (.inl hunwatched))⟩
  exact ⟨_, hwoken, by simp, (helper_waits id hwoken).2.2 (by simp)⟩

/-- A helper whose write end is past the loop's bound is never woken. -/
theorem Wired.never_step (h : s.Wired readFails) (hread : ¬ readFails)
    (hlimit : s.notify.scanLimit ≤ s.notify.writeFd)
    (hlaunched : ∀ st, s.stage = some st → st.launched = true) (hr : s.repair = none)
    (hs : GuardStep dev readFails s t) :
    t.notify = s.notify ∧ (∀ st, t.stage = some st → st.launched = true) ∧ t.repair = none := by
  have hlaunched' : ∀ st, t.stage = some st → st.launched = true := by
    intro st hst
    rcases stage_step hs hst with hst | ⟨st', hst', hnext⟩
    · exact hlaunched st hst
    · exact hnext.launched (hlaunched st' hst')
  cases hs with
  | pipe2 hp => exact absurd (hlaunched _ hp.stage) (by simp [HostStage.launched])
  | @wake pid p hp heof =>
    have hrole := (h.fits pid p hp.1).fits
    rw [hp.2] at hrole
    exact absurd ⟨pid, p, hp.1, hrole.1.write hlimit⟩ (heof.resolve_right hread)
  | repair _ hprog => exact absurd hprog (by simp [hr])
  | _ => exact ⟨rfl, hlaunched', hr⟩

theorem Wired.never_run (h : s.Wired readFails) (hread : ¬ readFails)
    (hlimit : s.notify.scanLimit ≤ s.notify.writeFd)
    (hlaunched : ∀ st, s.stage = some st → st.launched = true) (hr : s.repair = none)
    (hrun : Relation.ReflTransGen (GuardStep dev readFails) s t) :
    t.notify = s.notify ∧ (∀ st, t.stage = some st → st.launched = true) ∧ t.repair = none := by
  induction hrun with
  | refl => exact ⟨rfl, hlaunched, hr⟩
  | tail hrun hlast ih =>
    obtain ⟨hnotify, hlaunched', hr'⟩ := ih
    obtain ⟨hnotify', hrest⟩ :=
      (h.run hrun).never_step hread (hnotify ▸ hlimit) hlaunched' hr' hlast
    exact ⟨hnotify'.trans hnotify, hrest⟩

/-- **What wakes the helper.**  When no other process holds a write end, then a helper gets to its
end by itself from wherever it is, and has called what the record asks for, as long as its own copy
of the write end was below the bound of `close_inherited_fds`.  If that copy is not, then the helper
waits for itself, and nothing anybody does makes it repair anything. -/
theorem helper_wakes {s : GuardSystem} {pid : Nat} {p : GuardProcess} {stage : HelperStage}
    (hread : ¬ readFails) (h : Reachable dev readFails s) (hp : s.Is pid (.helper stage) p) :
    ((∀ q r, q ≠ pid → s.procs q = some r → ¬ r.Has (.pipe s.notify.id true)) →
      s.notify.writeFd < s.notify.scanLimit →
      ∃ t, Relation.ReflTransGen (GuardStep dev readFails) s t ∧ t.procs = s.procs.drop pid ∧
        t.record = s.record ∧ t.repair = some (pure ()) ∧
        Reattached s.record (t.log.filter isBackend)) ∧
    (s.repair = none → s.notify.scanLimit ≤ s.notify.writeFd →
      ∀ t, Relation.ReflTransGen (GuardStep dev readFails) s t →
        t.repair = none ∧ t.log = []) := by
  have hw := h.wired
  constructor
  · intro halone hlimit
    obtain ⟨t, hrun, hprocs, hrecord, hdone⟩ := hw.finishes h.busy hp halone hlimit
    exact ⟨t, hrun, hprocs, hrecord, hdone, hrecord ▸ (hw.run hrun).reattached hread hdone⟩
  · intro hr hlimit t hrun
    have hkin : Kin s.stage pid p.role := hw.kin pid p hp.1
    rw [hp.2] at hkin
    obtain ⟨-, -, hr'⟩ :=
      hw.never_run hread hlimit (fun st hst => (hkin st hst).2 rfl) hr hrun
    exact ⟨hr', (hw.run hrun).silent hr'⟩

/-- The helper of the killed process finishes. -/
theorem helper_wakes_killed :
    ∃ s t, Reachable camera False s ∧ s.repair = none ∧
      Relation.ReflTransGen (GuardStep camera False) s t ∧ t.repair = some (pure ()) ∧
      Reattached s.record (t.log.filter isBackend) := by
  obtain ⟨s, p, h, hp, hr, -, halone, hlimit⟩ := exists_killed camera
  obtain ⟨t, hrun, -, -, hdone, hcalls⟩ := (helper_wakes id h hp).1 halone hlimit
  exact ⟨s, t, h, hr, hrun, hdone, hcalls⟩

/-! ## What the guarded process is left with -/

/-- **`uvc_reattach_guard_create` accounts for what it made.**  However many attempts have failed,
and whatever else the process and its children do meanwhile: when `NULL` is returned, or the guard
was destroyed, the process has neither the memory nor the mapping nor an end of any guard's pipe,
and no child to wait for; a failed attempt has not left a helper either.  When a guard is returned
the process has both, the write end alone, and again no child to wait for. -/
theorem create_accounts {s : GuardSystem} {p : GuardProcess} {stage : HostStage}
    (h : Reachable dev readFails s) (hp : s.Is hostPid (.host stage) p) :
    (stage = .failed ∨ stage = .destroyed →
      s.guardMem = false ∧ s.mapping = false ∧ (∀ id write, ¬ p.Has (.pipe id write)) ∧
      (Everywhere s.procs fun _ q => q.role.isChild = false) ∧
      (stage = .failed → Everywhere s.procs fun _ q => q.role.isHelper = false)) ∧
    (stage = .ready →
      s.guardMem = true ∧ s.mapping = true ∧
      (∀ id write, p.Has (.pipe id write) ↔ id = s.notify.id ∧ write = true) ∧
      Everywhere s.procs fun _ q => q.role.isChild = false) := by
  have hw := h.wired
  have hends := (hw.fits hostPid p hp.1).fits
  rw [hp.2] at hends
  obtain ⟨hreads, hwrites, honly⟩ := hends
  have hnone : ∀ {id write}, p.Has (.pipe id write) →
      (write = false → stage.hasReadEnd = true) ∧ (write = true → stage.hasWriteEnd = true) := by
    intro id write hx
    obtain rfl := honly id write hx
    exact ⟨fun hf => hreads.1 (hf ▸ hx), fun ht => hwrites.1 (ht ▸ hx)⟩
  constructor
  · rintro (rfl | rfl)
    · refine ⟨(hw.memory _ hp.stage).1, (hw.memory _ hp.stage).2, fun id write hx => ?_,
        hw.isChild_eq_false hp rfl, fun _ => hw.isHelper_eq_false hp rfl⟩
      cases write with
      | false => exact absurd ((hnone hx).1 rfl) (by simp [HostStage.hasReadEnd])
      | true => exact absurd ((hnone hx).2 rfl) (by simp [HostStage.hasWriteEnd])
    · refine ⟨(hw.memory _ hp.stage).1, (hw.memory _ hp.stage).2, fun id write hx => ?_,
        hw.isChild_eq_false hp rfl, fun hc => absurd hc (by simp)⟩
      cases write with
      | false => exact absurd ((hnone hx).1 rfl) (by simp [HostStage.hasReadEnd])
      | true => exact absurd ((hnone hx).2 rfl) (by simp [HostStage.hasWriteEnd])
  · rintro rfl
    refine ⟨(hw.memory _ hp.stage).1, (hw.memory _ hp.stage).2, fun id write => ⟨fun hx => ?_, ?_⟩,
      hw.isChild_eq_false hp rfl⟩
    · refine ⟨honly id write hx, ?_⟩
      cases write with
      | false => exact absurd ((hnone hx).1 rfl) (by simp [HostStage.hasReadEnd])
      | true => rfl
    · rintro ⟨rfl, rfl⟩
      exact hwrites.2 rfl

/-- An attempt in which the first fork fails. -/
theorem create_accounts_giveUp :
    ∃ s p, Reachable camera False s ∧ s.Is hostPid (.host .failed) p ∧ s.guardMem = false ∧
      s.mapping = false ∧ ∀ id write, ¬ p.Has (.pipe id write) := by
  have h : ∃ s p, Reachable camera False s ∧ s.Is hostPid (.host .failed) p :=
    ⟨_, _, ⟨single, single_initial, (((((Relation.ReflTransGen.refl.tail
      (.calloc ⟨rfl, rfl⟩)).tail
      (.mmap ⟨rfl, rfl⟩)).tail
      (.pipe2 ⟨rfl, rfl⟩ (r := 3) (w := 4) rfl rfl (by decide) 1024)).tail
      (.forkFails ⟨rfl, rfl⟩)).tail
      (.closeRead ⟨rfl, rfl⟩)).tail
      (.giveUp ⟨rfl, rfl⟩)⟩, ⟨rfl, rfl⟩⟩
  obtain ⟨s, p, h, hp⟩ := h
  obtain ⟨hmem, hmap, hends, -⟩ := (create_accounts h hp).1 (.inl rfl)
  exact ⟨s, p, h, hp, hmem, hmap, hends⟩

end Runs

end GuardSystem

end Device
end LibUvc
