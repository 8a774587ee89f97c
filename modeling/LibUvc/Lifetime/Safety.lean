import LibUvc.Lifetime.Ownership
import Mathlib.Data.List.Nodup

/-!
# The application's calls keep the invariant

Each write that a call makes has one lemma that says what it needs and what it leaves of `Heap.Inv`;
each function has one triple.  The writes that free something are the interesting ones:

* `uvc_stream_start` frees transfers that were never submitted, which are idle;
* `uvc_stream_close` frees the stream when no slot was occupied, and slots are only ever filled
  before the first submission;
* `uvc_close` frees the device when its list of streams is empty and it is not flagged, so that no
  stream of it has an occupied slot;
* `uvc_exit` frees the context when its list of devices is empty and it is not flagged.
-/

set_option autoImplicit false

namespace LibUvc
namespace Lifetime

open Prog

variable {es es' ed ed' : Option Nat} {h : Heap}

/-! ## Transfers -/

theorem Heap.Owned.congr {h h' : Heap} (ho : h.Owned) (hx : h'.xfer = h.xfer)
    (hs : ∀ s, (h'.stream s).transfers = (h.stream s).transfers)
    (hn : h'.nextXfer = h.nextXfer) : h'.Owned where
  held x hp := by
    rw [hs, hx]
    rw [hx] at hp
    exact ho.held x hp
  slot s i x hi := by
    rw [hs] at hi
    rw [hx, hn]
    exact ho.slot s i x hi
  once s i j x hi hj := by
    rw [hs] at hi hj
    exact ho.once s i j x hi hj
  freed x := by
    rw [hx]
    exact ho.freed x

theorem setRunning_transfers (s : Nat) (b : Bool) (h : Heap) (r : Nat) :
    ((setRunning s b h).stream r).transfers = (h.stream r).transfers ∧
    ((setRunning s b h).stream r).devh = (h.stream r).devh ∧
    ((setRunning s b h).stream r).freed = (h.stream r).freed := by
  rw [setRunning, setStream_stream]
  split
  · rename_i hr
    subst hr
    exact ⟨rfl, rfl, rfl⟩
  · exact ⟨rfl, rfl, rfl⟩

/-- `running` is no concern of the invariant, nor of anything the event thread respects. -/
theorem setRunning_frame (s : Nat) (b : Bool) (h : Heap) : h.Frame (setRunning s b h) where
  freed := rfl
  hasQuarantinedDevice := rfl
  openDevices := rfl
  nextDev := rfl
  nextStream := rfl
  dev := rfl
  devh r := (setRunning_transfers s b h r).2.1
  streamFreed r := (setRunning_transfers s b h r).2.2
  slot r i x hi := by
    rw [(setRunning_transfers s b h r).1] at hi
    exact hi
  idle x hx := by
    refine ⟨hx, fun r i hi => ?_⟩
    rw [(setRunning_transfers s b h r).1]
    exact hi

theorem setRunning_inv (s : Nat) (b : Bool) (hi : h.Inv es ed) : (setRunning s b h).Inv es ed :=
  ⟨hi.owned.congr rfl (fun r => (setRunning_transfers s b h r).1) rfl,
    hi.alive.kept (setRunning_frame s b h).toKept⟩

theorem setPhase_inv {s i x : Nat} (p : Phase) (hi : h.Inv es ed)
    (hslot : (h.stream s).transfers i = some x) : (h.setPhase x p).Inv es ed :=
  ⟨setPhase_owned hi.owned hslot, hi.alive.kept (setPhase_kept h x p)⟩

theorem setPhase_self {x : Nat} {p : Phase} (hp : (h.xfer x).phase = p) :
    h.setPhase x p = h := by
  subst hp
  show { h with xfer := Function.update h.xfer x (h.xfer x) } = h
  rw [Function.update_eq_self]

/-- A transfer that was never submitted can be freed at once: nobody else has it. -/
theorem freeSlot_eq {s i x : Nat} (hslot : (h.stream s).transfers i = some x)
    (hx : (h.xfer x).phase = .idle) : freeSlot s i h = h.delete s i x := by
  rw [freeSlot, hslot, Heap.delete, setPhase_self]
  show ((h.setXfer x Transfer.release).xfer x).phase = .idle
  rw [setXfer_xfer, if_pos rfl]
  exact hx

theorem Heap.Owned.slot_ne (ho : h.Owned) {s i j x y : Nat}
    (hi : (h.stream s).transfers i = some x) (hj : (h.stream s).transfers j = some y)
    (hij : i ≠ j) : y ≠ x := by
  rintro rfl
  exact hij (ho.once s i j y hi hj)

/-- The slots from `i` up to `n` are filled with transfers that were not submitted yet. -/
def Heap.Filled (s i n : Nat) (h : Heap) : Prop :=
  ∀ j, i ≤ j → j < n → ∃ x, (h.stream s).transfers j = some x ∧ (h.xfer x).phase = .idle

theorem filled_steady (s i n : Nat) : Steady (Heap.Filled s i n) := by
  intro h h' hf hl j hij hjn
  obtain ⟨x, hslot, hx⟩ := hl j hij hjn
  obtain ⟨hx', hslot'⟩ := hf.idle x hx
  exact ⟨x, hslot' s j hslot, hx'⟩

theorem freeSlot_inv {s i n : Nat} (hi : h.Inv es ed) (hl : h.Filled s i n) (hin : i < n) :
    (freeSlot s i h).Inv es ed ∧ (freeSlot s i h).Filled s (i + 1) n ∧
      h.Kept (freeSlot s i h) := by
  obtain ⟨x, hslot, hx⟩ := hl i (le_refl i) hin
  rw [freeSlot_eq hslot hx]
  refine ⟨⟨delete_owned hi.owned hslot, hi.alive.kept (delete_kept h s i x)⟩, ?_,
    delete_kept h s i x⟩
  intro j hij hjn
  obtain ⟨y, hyslot, hy⟩ := hl j (by omega) hjn
  have hyx : y ≠ x := hi.owned.slot_ne hslot hyslot (by omega)
  refine ⟨y, ?_, ?_⟩
  · rw [delete_transfers, if_neg (by omega)]
    exact hyslot
  · rw [delete_xfer, if_neg hyx]
    exact hy

/-- libusb accepts the transfer in slot `i`. -/
theorem submit_inv {s i n x : Nat} (hi : h.Inv es ed) (hl : h.Filled s i n)
    (hslot : (h.stream s).transfers i = some x) :
    (h.setPhase x .owned).Inv es ed ∧ (h.setPhase x .owned).Filled s (i + 1) n := by
  refine ⟨setPhase_inv .owned hi hslot, fun j hij hjn => ?_⟩
  obtain ⟨y, hyslot, hy⟩ := hl j (by omega) hjn
  have hyx : y ≠ x := hi.owned.slot_ne hslot hyslot (by omega)
  refine ⟨y, hyslot, ?_⟩
  rw [Heap.setPhase, setXfer_xfer, if_neg hyx]
  exact hy

/-- No slot of the stream holds a transfer. -/
def Heap.Vacant (s : Nat) (h : Heap) : Prop := ∀ i, (h.stream s).transfers i = none

theorem vacant_iff {s : Nat} : h.Vacant s ↔ ¬ h.Occupied s := by
  simp only [Heap.Vacant, Heap.Occupied, Option.eq_none_iff_forall_ne_some, not_exists, ne_eq]

theorem vacant_steady (s : Nat) : Steady (Heap.Vacant s) := by
  intro h h' hf hl
  rw [vacant_iff] at hl ⊢
  exact fun hocc => hl (hf.toKept.occupied hocc)

theorem vacant_of_not_pending {s : Nat} (ho : h.Owned) (hp : (h.stream s).pending = false) :
    h.Vacant s := by
  rw [vacant_iff]
  rintro ⟨i, x, hx⟩
  have hi := (ho.slot s i x hx).2.2.2
  rw [Stream.pending, List.any_eq_false] at hp
  exact hp i (List.mem_range.2 hi) (by rw [hx]; rfl)

/-! ## Links and flags -/

/-- A device handle changes, but is not freed and gets no new streams. -/
theorem setDev_alive {d : Nat} {f : Device → Device} (ha : h.Alive es ed)
    (hfreed : (f (h.dev d)).freed = (h.dev d).freed)
    (hstreams : ∀ t, t ∈ (f (h.dev d)).streams → t ∈ (h.dev d).streams)
    (hkeep : ∀ s, (h.stream s).devh = d →
      (s ∈ (h.dev d).streams ∨ (h.dev d).hasQuarantinedStream = true ∨ es = some s) →
      s ∈ (f (h.dev d)).streams ∨ (f (h.dev d)).hasQuarantinedStream = true ∨ es' = some s)
    (hes : ∀ s, (h.stream s).devh ≠ d → es = some s → es' = some s) :
    (h.setDev d f).Alive es' ed := by
  have hfr : ∀ e, ((h.setDev d f).dev e).freed = (h.dev e).freed := by
    intro e
    rw [setDev_dev]
    split
    · rename_i he
      rw [he, hfreed]
    · rfl
  refine ⟨fun s hs => ?_, fun s hs => ?_, ha.context, fun e s hs => ?_, fun e he => ?_,
    ha.openedOnce⟩
  · obtain ⟨hlt, hsf, hlink⟩ := ha.stream s hs
    refine ⟨hlt, hsf, ?_⟩
    show s ∈ ((h.setDev d f).dev (h.stream s).devh).streams ∨
      ((h.setDev d f).dev (h.stream s).devh).hasQuarantinedStream = true ∨ es' = some s
    rw [setDev_dev]
    split
    · rename_i hd
      rw [hd] at hlink
      exact hkeep s hd hlink
    · rename_i hd
      rcases hlink with hl | hl | hl
      · exact Or.inl hl
      · exact Or.inr (Or.inl hl)
      · exact Or.inr (Or.inr (hes s hd hl))
  · obtain ⟨hlt, hdf, hlink⟩ := ha.device s hs
    exact ⟨hlt, (hfr _).trans hdf, hlink⟩
  · rw [setDev_dev] at hs
    split at hs
    · rename_i he
      subst he
      exact ha.linked e s (hstreams s hs)
    · exact ha.linked e s hs
  · obtain ⟨hlt, hdf⟩ := ha.opened e he
    exact ⟨hlt, (hfr e).trans hdf⟩

theorem unlinkStream_inv (s : Nat) (hi : h.Inv none ed) :
    (unlinkStream s h).Inv (some s) ed := by
  refine ⟨hi.owned.congr rfl (fun _ => rfl) rfl, setDev_alive hi.alive rfl ?_ ?_ ?_⟩
  · exact fun t ht => List.mem_of_mem_erase ht
  · rintro t - (hl | hl | hl)
    · by_cases hts : t = s
      · exact Or.inr (Or.inr (by rw [hts]))
      · exact Or.inl ((List.mem_erase_of_ne hts).2 hl)
    · exact Or.inr (Or.inl hl)
    · exact absurd hl (by simp)
  · exact fun t _ hl => absurd hl (by simp)

theorem quarantineStream_inv {s : Nat} (hi : h.Inv (some s) ed) :
    (quarantineStream s h).Inv none ed := by
  refine ⟨hi.owned.congr rfl (fun _ => rfl) rfl, setDev_alive hi.alive rfl (fun _ ht => ht) ?_ ?_⟩
  · exact fun t _ _ => Or.inr (Or.inl rfl)
  · intro t hne hl
    obtain rfl := Option.some.inj hl
    exact absurd rfl hne

theorem flagStatusXfer_inv (d : Nat) (hi : h.Inv es ed) :
    (h.setDev d fun dv => { dv with hasQuarantinedStatusXfer := true }).Inv es ed :=
  ⟨hi.owned.congr rfl (fun _ => rfl) rfl,
    setDev_alive hi.alive rfl (fun _ ht => ht) (fun _ _ hl => hl) fun _ _ hl => hl⟩

theorem freeStream_stream (s : Nat) (h : Heap) (r : Nat) :
    ((freeStream s h).stream r).transfers = (h.stream r).transfers ∧
    ((freeStream s h).stream r).devh = (h.stream r).devh ∧
    (r ≠ s → ((freeStream s h).stream r).freed = (h.stream r).freed) := by
  rw [freeStream, setStream_stream]
  split
  · rename_i hr
    subst hr
    exact ⟨rfl, rfl, fun hne => absurd rfl hne⟩
  · exact ⟨rfl, rfl, fun _ => rfl⟩

theorem freeStream_occupied (s : Nat) (h : Heap) (r : Nat) :
    (freeStream s h).Occupied r ↔ h.Occupied r := by
  rw [Heap.Occupied, (freeStream_stream s h r).1, Heap.Occupied]

/-- A stream without transfers can be freed. -/
theorem freeStream_inv {s : Nat} (hi : h.Inv (some s) ed) (hv : h.Vacant s) :
    (freeStream s h).Inv none ed := by
  have hfs := freeStream_stream s h
  refine ⟨hi.owned.congr rfl (fun r => (hfs r).1) rfl, ⟨fun r hr => ?_, fun r hr => ?_,
    fun r hr => ?_, fun d r hr => ?_, hi.alive.opened, hi.alive.openedOnce⟩⟩
  · rw [freeStream_occupied] at hr
    have hrs : r ≠ s := fun heq => vacant_iff.1 hv (heq ▸ hr)
    obtain ⟨hlt, hsf, hlink⟩ := hi.alive.stream r hr
    rw [(hfs r).2.1, (hfs r).2.2 hrs]
    refine ⟨hlt, hsf, ?_⟩
    rcases hlink with hl | hl | hl
    · exact Or.inl hl
    · exact Or.inr (Or.inl hl)
    · exact absurd (Option.some.inj hl).symm hrs
  · rw [freeStream_occupied] at hr
    rw [(hfs r).2.1]
    exact hi.alive.device r hr
  · rw [freeStream_occupied] at hr
    exact hi.alive.context r hr
  · rw [(hfs r).2.1]
    exact hi.alive.linked d r hr

theorem unlinkDevice_inv (d : Nat) (hi : h.Inv es none) : (unlinkDevice d h).Inv es (some d) := by
  refine ⟨hi.owned.congr rfl (fun _ => rfl) rfl, ⟨hi.alive.stream, fun s hs => ?_,
    hi.alive.context, hi.alive.linked, fun e he => ?_, hi.alive.openedOnce.erase d⟩⟩
  · obtain ⟨hlt, hdf, hlink⟩ := hi.alive.device s hs
    refine ⟨hlt, hdf, ?_⟩
    rcases hlink with hl | hl | hl
    · by_cases hd : (h.stream s).devh = d
      · exact Or.inr (Or.inr (congrArg some hd.symm))
      · exact Or.inl ((List.mem_erase_of_ne hd).2 hl)
    · exact Or.inr (Or.inl hl)
    · exact absurd hl (by simp)
  · exact hi.alive.opened e (List.mem_of_mem_erase he)

theorem quarantineDevice_inv (hi : h.Inv es ed) : (quarantineDevice h).Inv es none := by
  refine ⟨hi.owned.congr rfl (fun _ => rfl) rfl, ⟨hi.alive.stream, fun s hs => ?_,
    hi.alive.context, hi.alive.linked, hi.alive.opened, hi.alive.openedOnce⟩⟩
  obtain ⟨hlt, hdf, -⟩ := hi.alive.device s hs
  exact ⟨hlt, hdf, Or.inr (Or.inl rfl)⟩

/-- A device that is not open, has no streams and is not flagged can be freed. -/
theorem freeDevice_inv {d : Nat} (hi : h.Inv none (some d)) (hopen : d ∉ h.openDevices)
    (hstreams : (h.dev d).streams = []) (hflag : (h.dev d).hasQuarantinedStream = false) :
    (freeDevice d h).Inv none none := by
  -- a stream of it with a transfer would be in its list, or it would be flagged
  have hother : ∀ s, h.Occupied s → (h.stream s).devh ≠ d := by
    rintro s hs rfl
    rcases (hi.alive.stream s hs).2.2 with hl | hl | hl
    · rw [hstreams] at hl
      exact absurd hl (by simp)
    · rw [hflag] at hl
      exact absurd hl (by simp)
    · exact absurd hl (by simp)
  have hdev : ∀ e, e ≠ d → (freeDevice d h).dev e = h.dev e := by
    intro e he
    rw [freeDevice, setDev_dev, if_neg he]
  refine ⟨hi.owned.congr rfl (fun _ => rfl) rfl, ⟨fun s hs => ?_, fun s hs => ?_, hi.alive.context,
    fun e s hs => ?_, fun e he => ?_, hi.alive.openedOnce⟩⟩
  · show s < h.nextStream ∧ (h.stream s).freed = false ∧ _
    rw [show (freeDevice d h).dev ((freeDevice d h).stream s).devh = h.dev (h.stream s).devh from
      hdev _ (hother s hs)]
    exact hi.alive.stream s hs
  · obtain ⟨hlt, hdf, hlink⟩ := hi.alive.device s hs
    refine ⟨hlt, ?_, ?_⟩
    · rw [show (freeDevice d h).dev ((freeDevice d h).stream s).devh = h.dev (h.stream s).devh from
        hdev _ (hother s hs)]
      exact hdf
    · rcases hlink with hl | hl | hl
      · exact Or.inl hl
      · exact Or.inr (Or.inl hl)
      · exact absurd (Option.some.inj hl).symm (hother s hs)
  · rw [freeDevice, setDev_dev] at hs
    split at hs
    · rename_i he
      rw [he]
      exact hi.alive.linked d s hs
    · exact hi.alive.linked e s hs
  · have hne : e ≠ d := fun heq => hopen (heq ▸ he)
    rw [hdev e hne]
    exact hi.alive.opened e he

/-- A context that has no open devices and is not flagged can be freed. -/
theorem freeContext_inv (hi : h.Inv none none) (hopen : h.openDevices = [])
    (hflag : h.hasQuarantinedDevice = false) : Heap.Inv none none { h with freed := true } := by
  refine ⟨hi.owned.congr rfl (fun _ => rfl) rfl, ⟨hi.alive.stream, hi.alive.device, fun s hs => ?_,
    hi.alive.linked, hi.alive.opened, hi.alive.openedOnce⟩⟩
  rcases (hi.alive.device s hs).2.2 with hl | hl | hl
  · rw [hopen] at hl
    exact absurd hl (by simp)
  · rw [hflag] at hl
    exact absurd hl (by simp)
  · exact absurd hl (by simp)

/-! ## New objects -/

theorem newDevice_inv (hi : h.Inv es ed) : (newDevice h).Inv es ed := by
  have hdev : ∀ e, e ≠ h.nextDev → (newDevice h).dev e = h.dev e := by
    intro e he
    show (h.setDev h.nextDev fun _ => {}).dev e = _
    rw [setDev_dev, if_neg he]
  have hnew : (newDevice h).dev h.nextDev = {} := by
    show (h.setDev h.nextDev fun _ => {}).dev h.nextDev = _
    rw [setDev_dev, if_pos rfl]
  have hold : ∀ s, h.Occupied s → (newDevice h).dev (h.stream s).devh = h.dev (h.stream s).devh :=
    fun s hs => hdev _ (Nat.ne_of_lt (hi.alive.device s hs).1)
  refine ⟨hi.owned.congr rfl (fun _ => rfl) rfl, ⟨fun s hs => ?_, fun s hs => ?_, hi.alive.context,
    fun e s hs => ?_, fun e he => ?_, ?_⟩⟩
  · show s < h.nextStream ∧ (h.stream s).freed = false ∧
      (s ∈ ((newDevice h).dev (h.stream s).devh).streams ∨ _ ∨ _)
    rw [show (newDevice h).dev ((newDevice h).stream s).devh = h.dev (h.stream s).devh from
      hold s hs, hold s hs]
    exact hi.alive.stream s hs
  · obtain ⟨hlt, hdf, hlink⟩ := hi.alive.device s hs
    refine ⟨Nat.lt_succ_of_lt hlt, ?_, ?_⟩
    · rw [show (newDevice h).dev ((newDevice h).stream s).devh = h.dev (h.stream s).devh from
        hold s hs]
      exact hdf
    · rcases hlink with hl | hl | hl
      · exact Or.inl (List.mem_append_left _ hl)
      · exact Or.inr (Or.inl hl)
      · exact Or.inr (Or.inr hl)
  · by_cases he : e = h.nextDev
    · rw [he, hnew] at hs
      exact absurd hs (by simp)
    · rw [hdev e he] at hs
      exact hi.alive.linked e s hs
  · rcases List.mem_append.1 he with he | he
    · obtain ⟨hlt, hdf⟩ := hi.alive.opened e he
      rw [hdev e (Nat.ne_of_lt hlt)]
      exact ⟨Nat.lt_succ_of_lt hlt, hdf⟩
    · obtain rfl := List.mem_singleton.1 he
      rw [hnew]
      exact ⟨Nat.lt_succ_self _, rfl⟩
  · have hfresh : h.nextDev ∉ h.openDevices := fun hmem =>
      Nat.lt_irrefl _ (hi.alive.opened _ hmem).1
    show (h.openDevices ++ [h.nextDev]).Nodup
    rw [← List.concat_eq_append]
    exact List.Nodup.concat hfresh hi.alive.openedOnce

/-- The stream `s` of the device `d`, on which transfers may be put. -/
structure Heap.Ready (s d : Nat) (h : Heap) : Prop where
  devh : (h.stream s).devh = d
  streamFreed : (h.stream s).freed = false
  known : s < h.nextStream
  linked : s ∈ (h.dev d).streams
  opened : d ∈ h.openDevices
  freed : h.freed = false

theorem ready_kept {s d : Nat} {h' : Heap} (hk : h.Kept h') (hr : h.Ready s d) : h'.Ready s d where
  devh := (hk.devh s).trans hr.devh
  streamFreed := (hk.streamFreed s).trans hr.streamFreed
  known := hk.nextStream ▸ hr.known
  linked := hk.dev ▸ hr.linked
  opened := hk.openDevices ▸ hr.opened
  freed := hk.freed.trans hr.freed

theorem ready_steady (s d : Nat) : Steady (Heap.Ready s d) :=
  fun _ _ hf hr => ready_kept hf.toKept hr

theorem newStream_stream (d : Nat) (h : Heap) (r : Nat) : (newStream d h).stream r =
    if r = h.nextStream then { devh := d } else h.stream r :=
  setStream_stream h h.nextStream (fun _ => { devh := d }) r

theorem newStream_dev (d : Nat) (h : Heap) (e : Nat) : (newStream d h).dev e =
    if e = d then { h.dev d with streams := (h.dev d).streams ++ [h.nextStream] } else h.dev e :=
  setDev_dev h d (fun dv => { dv with streams := dv.streams ++ [h.nextStream] }) e

/-- A stream handle that was never allocated has no transfers. -/
theorem Heap.Alive.unallocated (ha : h.Alive es ed) : h.Vacant h.nextStream :=
  vacant_iff.2 fun hocc => Nat.lt_irrefl _ (ha.stream _ hocc).1

theorem newStream_transfers {d : Nat} (ha : h.Alive none ed) (r : Nat) :
    ((newStream d h).stream r).transfers = (h.stream r).transfers := by
  rw [newStream_stream]
  split
  · rename_i hr
    rw [hr]
    funext i
    exact (ha.unallocated i).symm
  · rfl

theorem newStream_occupied {d : Nat} (ha : h.Alive none ed) {r : Nat}
    (hr : (newStream d h).Occupied r) :
    h.Occupied r ∧ (newStream d h).stream r = h.stream r := by
  rw [Heap.Occupied, newStream_transfers ha] at hr
  refine ⟨hr, ?_⟩
  rw [newStream_stream, if_neg (Nat.ne_of_lt (ha.stream r hr).1)]

/-- A device keeps its streams and its flags. -/
theorem newStream_dev_kept (d : Nat) (h : Heap) (e : Nat) :
    ((newStream d h).dev e).freed = (h.dev e).freed ∧
    ((newStream d h).dev e).hasQuarantinedStream = (h.dev e).hasQuarantinedStream ∧
    ∀ r, r ∈ (h.dev e).streams → r ∈ ((newStream d h).dev e).streams := by
  rw [newStream_dev]
  split
  · rename_i he
    rw [he]
    exact ⟨rfl, rfl, fun r hr => List.mem_append_left _ hr⟩
  · exact ⟨rfl, rfl, fun r hr => hr⟩

theorem newStream_linked {d : Nat} (ha : h.Alive none ed) {e r : Nat}
    (hr : r ∈ ((newStream d h).dev e).streams) :
    ((newStream d h).stream r).devh = e ∧ r < (newStream d h).nextStream := by
  have hold : r ∈ (h.dev e).streams → ((newStream d h).stream r).devh = e ∧
      r < h.nextStream + 1 := by
    intro hmem
    obtain ⟨hdevh, hlt⟩ := ha.linked e r hmem
    rw [newStream_stream, if_neg (Nat.ne_of_lt hlt)]
    exact ⟨hdevh, Nat.lt_succ_of_lt hlt⟩
  rw [newStream_dev] at hr
  split at hr
  · rename_i he
    subst he
    rcases List.mem_append.1 hr with hr | hr
    · exact hold hr
    · obtain rfl := List.mem_singleton.1 hr
      rw [newStream_stream, if_pos rfl]
      exact ⟨rfl, Nat.lt_succ_self _⟩
  · exact hold hr

theorem newStream_inv {d : Nat} (hi : h.Inv none ed) : (newStream d h).Inv none ed := by
  refine ⟨hi.owned.congr rfl (newStream_transfers hi.alive) rfl, ⟨fun r hr => ?_, fun r hr => ?_,
    fun r hr => ?_, fun e r hr => newStream_linked hi.alive hr, fun e he => ?_,
    hi.alive.openedOnce⟩⟩
  · obtain ⟨hr', heq⟩ := newStream_occupied hi.alive hr
    obtain ⟨hlt, hsf, hlink⟩ := hi.alive.stream r hr'
    obtain ⟨-, hflag, hmem⟩ := newStream_dev_kept d h (h.stream r).devh
    rw [heq, hflag]
    refine ⟨Nat.lt_succ_of_lt hlt, hsf, ?_⟩
    rcases hlink with hl | hl | hl
    · exact Or.inl (hmem r hl)
    · exact Or.inr (Or.inl hl)
    · exact absurd hl (by simp)
  · obtain ⟨hr', heq⟩ := newStream_occupied hi.alive hr
    rw [heq, (newStream_dev_kept d h _).1]
    exact hi.alive.device r hr'
  · exact hi.alive.context r (newStream_occupied hi.alive hr).1
  · rw [(newStream_dev_kept d h e).1]
    exact hi.alive.opened e he

theorem newStream_ready {d : Nat} (hopen : d ∈ h.openDevices) (hfreed : h.freed = false) :
    (newStream d h).Ready h.nextStream d := by
  refine ⟨?_, ?_, Nat.lt_succ_self _, ?_, hopen, hfreed⟩
  · rw [newStream_stream, if_pos rfl]
  · rw [newStream_stream, if_pos rfl]
  · rw [newStream_dev, if_pos rfl]
    exact List.mem_append_right _ (List.mem_singleton_self _)

theorem newStream_vacant (d : Nat) (h : Heap) : (newStream d h).Vacant h.nextStream := by
  intro i
  rw [newStream_stream, if_pos rfl]

theorem allocTransfers_eq (s n : Nat) (h : Heap) (r : Nat) : (allocTransfers s n h).stream r =
    if r = s then { h.stream s with
      transfers := fun i => if i < n then some (h.nextXfer + i) else (h.stream s).transfers i }
    else h.stream r :=
  setStream_stream h s (fun st => { st with
    transfers := fun i => if i < n then some (h.nextXfer + i) else st.transfers i }) r

theorem allocTransfers_transfers (s n : Nat) (h : Heap) (r i : Nat) :
    ((allocTransfers s n h).stream r).transfers i =
      if r = s ∧ i < n then some (h.nextXfer + i) else (h.stream r).transfers i := by
  rw [allocTransfers_eq]
  by_cases hr : r = s
  · subst hr
    rw [if_pos rfl]
    by_cases hi : i < n
    · rw [if_pos ⟨rfl, hi⟩]
      exact if_pos hi
    · rw [if_neg fun hc => hi hc.2]
      exact if_neg hi
  · rw [if_neg hr, if_neg fun hc => hr hc.1]

theorem allocTransfers_stream (s n : Nat) (h : Heap) (r : Nat) :
    ((allocTransfers s n h).stream r).devh = (h.stream r).devh ∧
    ((allocTransfers s n h).stream r).freed = (h.stream r).freed := by
  rw [allocTransfers_eq]
  split
  · rename_i hr
    subst hr
    exact ⟨rfl, rfl⟩
  · exact ⟨rfl, rfl⟩

/-- The first `n` slots of the stream hold no transfers. -/
def Heap.Clear (s n : Nat) (h : Heap) : Prop := ∀ i < n, (h.stream s).transfers i = none

theorem Heap.Vacant.clear {s : Nat} (hv : h.Vacant s) (n : Nat) : h.Clear s n := fun i _ => hv i

theorem clear_steady (s n : Nat) : Steady (Heap.Clear s n) := by
  intro h h' hf hl i hi
  rw [Option.eq_none_iff_forall_ne_some]
  intro x hx
  exact absurd ((hl i hi).symm.trans (hf.slot s i x hx)) (by simp)

theorem allocTransfers_owned {s n : Nat} (ho : h.Owned) (hv : h.Clear s n)
    (hn : n ≤ numTransferBufs) : (allocTransfers s n h).Owned := by
  have hcases : ∀ r i x, ((allocTransfers s n h).stream r).transfers i = some x →
      (r = s ∧ i < n ∧ x = h.nextXfer + i) ∨
        (¬ (r = s ∧ i < n) ∧ (h.stream r).transfers i = some x) := by
    intro r i x hx
    rw [allocTransfers_transfers] at hx
    split at hx
    · rename_i hc
      exact Or.inl ⟨hc.1, hc.2, (Option.some.inj hx).symm⟩
    · rename_i hc
      exact Or.inr ⟨hc, hx⟩
  have hxfer : ∀ x, (allocTransfers s n h).xfer x =
      if h.nextXfer ≤ x ∧ x < h.nextXfer + n then { strmh := s } else h.xfer x := fun _ => rfl
  refine ⟨fun x hx => ?_, fun r i x hx => ?_, fun r i j x hi hj => ?_, fun x => ?_⟩
  · rw [hxfer] at hx ⊢
    split at hx
    · exact absurd rfl hx
    · rename_i hc
      rw [if_neg hc]
      obtain ⟨i, hi⟩ := ho.held x hx
      refine ⟨i, ?_⟩
      rw [allocTransfers_transfers, if_neg, hi]
      rintro ⟨hs, hin⟩
      rw [hs] at hi
      exact absurd ((hv i hin).symm.trans hi) (by simp)
  · rw [hxfer]
    rcases hcases r i x hx with ⟨rfl, hlt, rfl⟩ | ⟨-, hx'⟩
    · rw [if_pos ⟨by omega, by omega⟩]
      exact ⟨rfl, rfl, Nat.add_lt_add_left hlt _, by omega⟩
    · obtain ⟨hstrmh, hfreed, hlt, hi⟩ := ho.slot r i x hx'
      rw [if_neg (by omega)]
      exact ⟨hstrmh, hfreed, Nat.lt_add_right _ hlt, hi⟩
  · -- a new transfer has a number that no old one has
    rcases hcases r i x hi with ⟨-, -, hxi⟩ | ⟨-, hi'⟩
    · rcases hcases r j x hj with ⟨-, -, hxj⟩ | ⟨-, hj'⟩
      · omega
      · have := (ho.slot r j x hj').2.2.1
        omega
    · rcases hcases r j x hj with ⟨-, -, hxj⟩ | ⟨-, hj'⟩
      · have := (ho.slot r i x hi').2.2.1
        omega
      · exact ho.once r i j x hi' hj'
  · rw [hxfer]
    split
    · exact ⟨Nat.zero_le 1, rfl⟩
    · exact ho.freed x

theorem allocTransfers_inv {s d n : Nat} (hi : h.Inv es ed) (hr : h.Ready s d) (hv : h.Clear s n)
    (hn : n ≤ numTransferBufs) :
    (allocTransfers s n h).Inv es ed ∧ (allocTransfers s n h).Ready s d ∧
      (allocTransfers s n h).Filled s 0 n := by
  have hst := allocTransfers_stream s n h
  have hocc : ∀ r, (allocTransfers s n h).Occupied r → r ≠ s → h.Occupied r := by
    rintro r ⟨i, x, hx⟩ hne
    rw [allocTransfers_transfers, if_neg fun hc => hne hc.1] at hx
    exact ⟨i, x, hx⟩
  refine ⟨⟨allocTransfers_owned hi.owned hv hn, ⟨fun r hr' => ?_, fun r hr' => ?_, fun r hr' => ?_,
    fun e r hmem => ?_, hi.alive.opened, hi.alive.openedOnce⟩⟩, ?_, ?_⟩
  · rw [(hst r).1, (hst r).2]
    by_cases hrs : r = s
    · subst hrs
      exact ⟨hr.known, hr.streamFreed, Or.inl (hr.devh.symm ▸ hr.linked)⟩
    · exact hi.alive.stream r (hocc r hr' hrs)
  · rw [(hst r).1]
    by_cases hrs : r = s
    · subst hrs
      rw [hr.devh]
      obtain ⟨hlt, hdf⟩ := hi.alive.opened d hr.opened
      exact ⟨hlt, hdf, Or.inl hr.opened⟩
    · exact hi.alive.device r (hocc r hr' hrs)
  · by_cases hrs : r = s
    · exact hr.freed
    · exact hi.alive.context r (hocc r hr' hrs)
  · rw [(hst r).1]
    exact hi.alive.linked e r hmem
  · exact ⟨(hst s).1.trans hr.devh, (hst s).2.trans hr.streamFreed, hr.known, hr.linked, hr.opened,
      hr.freed⟩
  · intro j _ hj
    refine ⟨h.nextXfer + j, ?_, ?_⟩
    · rw [allocTransfers_transfers, if_pos ⟨rfl, hj⟩]
    · show (if h.nextXfer ≤ h.nextXfer + j ∧ h.nextXfer + j < h.nextXfer + n then
        ({ strmh := s } : Transfer) else h.xfer (h.nextXfer + j)).phase = .idle
      rw [if_pos ⟨by omega, by omega⟩]

/-! ## `uvc_stream_stop` and `uvc_stream_close` -/

section Stop

variable {L : Heap → Prop} (hL : Steady L)

include hL

theorem cancelAll_keeps (xs : List Nat) :
    Keeps Events Consistent (At es ed L) (cancelAll xs) (fun _ => At es ed L) := by
  induction xs with
  | nil => exact at_pure hL fun _ h => h
  | cons x xs ih => exact at_ask_bind hL fun _ => ih

theorem stopWaitLoop_keeps (s wakes attempts : Nat) :
    Keeps Events Consistent (At es ed L) (stopWaitLoop s wakes attempts) (fun _ => At es ed L) := by
  induction wakes generalizing attempts with
  | zero => exact at_pure hL fun _ h => h
  | succ wakes ih =>
    cases attempts with
    | zero => exact at_pure hL fun _ h => h
    | succ attempts =>
      rw [stopWaitLoop]
      refine at_load_bind hL fun h _ _ => Keeps.pre ?_ fun w hw => hw.1
      split
      · exact at_pure hL fun _ h => h
      · refine at_ask_bind hL fun r => ?_
        split
        · exact ih _
        · exact ih _

theorem streamStop_keeps (wakes s : Nat) :
    Keeps Events Consistent (At es ed L) (streamStop wakes s) (fun _ => At es ed L) := by
  rw [streamStop]
  refine at_load_bind hL fun h _ _ => Keeps.pre ?_ fun w hw => hw.1
  split
  · exact at_pure hL fun _ h => h
  · refine at_update_bind (M := L) hL
      (fun h hi hl => ⟨setRunning_inv s false hi, hL _ _ (setRunning_frame s false h) hl⟩) ?_
    refine at_load_bind hL fun h _ _ => Keeps.pre ?_ fun w hw => hw.1
    exact (cancelAll_keeps hL _).bind fun _ => stopWaitLoop_keeps hL s wakes _

end Stop

/-- The context is there, with these open devices, and the device `d` has these streams. -/
structure Heap.Tracks (devs : List Nat) (d : Nat) (streams : List Nat) (h : Heap) : Prop where
  freed : h.freed = false
  openDevices : h.openDevices = devs
  streams : (h.dev d).streams = streams

theorem tracks_steady (devs : List Nat) (d : Nat) (l : List Nat) :
    Steady (Heap.Tracks devs d l) := fun _ _ hf ht =>
  ⟨hf.freed.trans ht.freed, hf.openDevices.trans ht.openDevices, hf.dev ▸ ht.streams⟩

theorem devh_steady (s d : Nat) : Steady fun h => (h.stream s).devh = d :=
  fun _ _ hf hd => (hf.devh s).trans hd

theorem const_steady (P : Prop) {L : Heap → Prop} (hL : Steady L) : Steady fun h => P → L h :=
  fun h h' hf hl hP => hL h h' hf (hl hP)

/-- `uvc_stream_close` takes the stream off the list of its device, and frees it only if it has no
transfers left. -/
theorem streamClose_keeps (wakes : Nat) (devs : List Nat) (d : Nat) (l : List Nat) (s : Nat) :
    Keeps Events Consistent (At none none fun h => h.Tracks devs d l ∧ (h.stream s).devh = d)
      (streamClose wakes s) (fun _ => At none none (Heap.Tracks devs d (l.erase s))) := by
  have hL := (tracks_steady devs d l).and (devh_steady s d)
  rw [streamClose]
  refine at_load_bind hL fun h _ _ => Keeps.pre ?_ fun w hw => hw.1
  refine Keeps.bind (R := fun _ => At none none fun h =>
    h.Tracks devs d l ∧ (h.stream s).devh = d) ?_ fun _ => ?_
  · refine at_when hL (fun _ => ?_) fun _ _ hw => hw
    exact (streamStop_keeps hL wakes s).bind fun _ => at_pure hL fun _ hw => hw
  · refine at_load_bind hL fun h₁ hi₁ hl₁ => ?_
    -- once the slots are found empty they stay empty
    have hV := const_steady ((h₁.stream s).pending = false) (vacant_steady s)
    refine Keeps.pre (P := At none none fun h => (h.Tracks devs d l ∧ (h.stream s).devh = d) ∧
      ((h₁.stream s).pending = false → h.Vacant s)) ?_ ?_
    · have hM := ((tracks_steady devs d (l.erase s)).and (devh_steady s d)).and hV
      refine at_update_bind (a := some s) (b := none) (hL.and hV) (M := fun h =>
        (h.Tracks devs d (l.erase s) ∧ (h.stream s).devh = d) ∧
          ((h₁.stream s).pending = false → h.Vacant s)) ?_ ?_
      · rintro h hi ⟨⟨ht, hd⟩, hv⟩
        refine ⟨unlinkStream_inv s hi, ⟨⟨ht.freed, ht.openDevices, ?_⟩, hd⟩, hv⟩
        rw [unlinkStream, setDev_dev, hd, if_pos rfl, ← ht.streams]
      · split
        · refine at_update hM (tracks_steady devs d (l.erase s)) ?_
          rintro h hi ⟨⟨ht, hd⟩, -⟩
          refine ⟨quarantineStream_inv hi, ht.freed, ht.openDevices, ?_⟩
          rw [quarantineStream, setDev_dev, hd, if_pos rfl]
          exact ht.streams
        · rename_i hpending
          refine at_update hM (tracks_steady devs d (l.erase s)) ?_
          rintro h hi ⟨⟨ht, -⟩, hv⟩
          exact ⟨freeStream_inv hi (hv (by simpa using hpending)), ht.freed, ht.openDevices,
            ht.streams⟩
    · rintro w ⟨⟨hi, hl⟩, rfl⟩
      exact ⟨hi, hl, fun hp => vacant_of_not_pending hi.owned hp⟩

theorem streamCloseAll_keeps (wakes : Nat) (devs : List Nat) (d : Nat) (l : List Nat) :
    Keeps Events Consistent (At none none (Heap.Tracks devs d l)) (streamCloseAll wakes l)
      (fun _ => At none none (Heap.Tracks devs d [])) := by
  induction l with
  | nil => exact at_pure (tracks_steady devs d []) fun _ hw => hw
  | cons s rest ih =>
    refine Keeps.bind (R := fun _ => At none none (Heap.Tracks devs d rest)) ?_ fun _ => ih
    refine Keeps.pre (Keeps.post (streamClose_keeps wakes devs d (s :: rest) s) ?_) ?_
    · intro _ w hw
      rwa [List.erase_cons_head] at hw
    · rintro w ⟨hi, ht⟩
      have hmem : s ∈ (w.state.dev d).streams := ht.streams ▸ List.mem_cons_self
      exact ⟨hi, ht, (hi.alive.linked d s hmem).1⟩

/-- The context is there, with these open devices. -/
def Heap.Opens (devs : List Nat) (h : Heap) : Prop := h.freed = false ∧ h.openDevices = devs

theorem opens_steady (devs : List Nat) : Steady (Heap.Opens devs) :=
  fun _ _ hf hl => ⟨hf.freed.trans hl.1, hf.openDevices.trans hl.2⟩

/-- `uvc_stop_streaming` leaves no stream on the list. -/
theorem stopStreaming_keeps (wakes : Nat) (devs : List Nat) (d : Nat) :
    Keeps Events Consistent (At none none (Heap.Opens devs)) (stopStreaming wakes d)
      (fun _ => At none none (Heap.Tracks devs d [])) := by
  rw [stopStreaming]
  refine at_load_bind (opens_steady devs) fun h _ hl => ?_
  refine (streamCloseAll_keeps wakes devs d (h.dev d).streams).pre ?_
  rintro w ⟨⟨hi, hl⟩, rfl⟩
  exact ⟨hi, hl.1, hl.2, rfl⟩

/-! ## `uvc_start_streaming` -/

theorem bufferCount_le (count : Nat) : bufferCount count ≤ numTransferBufs := by
  rw [bufferCount]
  split
  · exact le_refl _
  · exact Nat.min_le_left _ _

/-- What a start of the stream `s` does not concern: its new transfers do not, nor that transfers
come and go. -/
structure Spared (s d : Nat) (M : Heap → Prop) : Prop where
  kept : ∀ h h', h.Kept h' → M h → M h'
  alloc : ∀ h n, h.Ready s d → M h → M (allocTransfers s n h)

theorem spared_true (s d : Nat) : Spared s d fun _ => True :=
  ⟨fun _ _ _ _ => trivial, fun _ _ _ _ => trivial⟩

section Start

variable {s d : Nat} {M : Heap → Prop} (hM : Spared s d M)

include hM

theorem Spared.steady : Steady fun h => h.Ready s d ∧ M h :=
  (ready_steady s d).and fun h h' hf hm => hM.kept h h' hf.toKept hm

theorem freeSlots_keeps (left i : Nat) :
    Keeps Events Consistent
      (At none none fun h => (h.Ready s d ∧ M h) ∧ h.Filled s i (i + left))
      (freeSlots s left i) (fun _ => At none none fun h => h.Ready s d ∧ M h) := by
  induction left generalizing i with
  | zero =>
    exact at_pure (hM.steady.and (filled_steady s i (i + 0))) fun _ hw => ⟨hw.1, hw.2.1⟩
  | succ left ih =>
    refine at_update_bind (a := none) (b := none)
      (hM.steady.and (filled_steady s i (i + (left + 1)))) ?_ (ih (i + 1))
    rintro h hi ⟨⟨hr, hm⟩, hl⟩
    obtain ⟨hi', hl', hk⟩ := freeSlot_inv hi hl (by omega)
    refine ⟨hi', ⟨ready_kept hk hr, hM.kept _ _ hk hm⟩, ?_⟩
    rwa [show i + 1 + left = i + (left + 1) by omega]

theorem submitLoop_keeps (n left i : Nat) (hn : i + left = n) :
    Keeps Events Consistent (At none none fun h => (h.Ready s d ∧ M h) ∧ h.Filled s i n)
      (submitLoop s left i)
      (fun p => At none none fun h => (h.Ready s d ∧ M h) ∧ p.2 ≤ n ∧ h.Filled s p.2 n) := by
  induction left generalizing i with
  | zero =>
    exact at_pure (hM.steady.and (filled_steady s i n)) fun _ hw =>
      ⟨hw.1, hw.2.1, by omega, hw.2.2⟩
  | succ left ih =>
    have hL := hM.steady.and (filled_steady s i n)
    rw [submitLoop]
    refine at_load_bind hL fun h₁ hi₁ hl₁ => ?_
    obtain ⟨x, hslot, hx⟩ := hl₁.2 i (le_refl i) (by omega)
    rw [hslot]
    -- the transfer is nobody's until it is submitted, so it stays in its slot
    have hS : Steady fun h => (h.stream s).transfers i = some x ∧ (h.xfer x).phase = .idle := by
      rintro h h' hf ⟨hs, hp⟩
      exact ⟨(hf.idle x hp).2 s i hs, (hf.idle x hp).1⟩
    refine Keeps.pre (P := At none none fun h => ((h.Ready s d ∧ M h) ∧ h.Filled s i n) ∧
      (h.stream s).transfers i = some x ∧ (h.xfer x).phase = .idle) ?_ ?_
    · refine at_ask_bind (hL.and hS) fun r => ?_
      split
      · exact at_pure (hL.and hS) fun _ hw => ⟨hw.1, hw.2.1.1, by omega, hw.2.1.2⟩
      · refine at_update_bind (a := none) (b := none) (hL.and hS) ?_ (ih (i + 1) (by omega))
        rintro h hi ⟨⟨⟨hr, hm⟩, hl⟩, hs, -⟩
        obtain ⟨hi', hl'⟩ := submit_inv hi hl hs
        have hk := setPhase_kept h x .owned
        exact ⟨hi', ⟨ready_kept hk hr, hM.kept _ _ hk hm⟩, hl'⟩
    · rintro w ⟨⟨hi, hl⟩, rfl⟩
      exact ⟨hi, hl, hslot, hx⟩

/-- `uvc_stream_start`, on a stream that has room for the new transfers. -/
theorem streamStart_keeps (count : Nat) :
    Keeps Events Consistent
      (At none none fun h => (h.Ready s d ∧ M h) ∧ h.Clear s (bufferCount count))
      (streamStart s count) (fun _ => At none none fun h => h.Ready s d ∧ M h) := by
  have hL := hM.steady.and (clear_steady s (bufferCount count))
  have hrun : ∀ b h, h.Inv none none → ((h.Ready s d ∧ M h) ∧ h.Clear s (bufferCount count)) →
      (setRunning s b h).Inv none none ∧
        ((setRunning s b h).Ready s d ∧ M (setRunning s b h)) ∧
        (setRunning s b h).Clear s (bufferCount count) :=
    fun b h hi hl => ⟨setRunning_inv s b hi, hL _ _ (setRunning_frame s b h) hl⟩
  rw [streamStart]
  refine at_load_bind hL fun h _ _ => Keeps.pre ?_ fun w hw => hw.1
  split
  · exact at_pure hL fun _ hw => ⟨hw.1, hw.2.1⟩
  · refine at_update_bind
      (M := fun h => (h.Ready s d ∧ M h) ∧ h.Clear s (bufferCount count)) hL (hrun true) ?_
    refine at_ask_bind hL fun ret => ?_
    split
    · exact at_update_bind
        (M := fun h => (h.Ready s d ∧ M h) ∧ h.Clear s (bufferCount count)) hL (hrun false)
        (at_pure hL fun _ hw => ⟨hw.1, hw.2.1⟩)
    · refine at_update_bind (a := none) (b := none)
        (M := fun h => (h.Ready s d ∧ M h) ∧ h.Filled s 0 (bufferCount count)) hL
        (fun h hi hl => ?_) ?_
      · obtain ⟨hi', hr', hf'⟩ := allocTransfers_inv hi hl.1.1 hl.2 (bufferCount_le count)
        exact ⟨hi', ⟨hr', hM.alloc h _ hl.1.1 hl.1.2⟩, hf'⟩
      refine (submitLoop_keeps hM _ _ 0 (by omega)).bind fun ⟨ret, i⟩ => ?_
      have hS : Steady fun h => (h.Ready s d ∧ M h) ∧ i ≤ bufferCount count ∧
          h.Filled s i (bufferCount count) :=
        hM.steady.and fun h h' hf hl => ⟨hl.1, filled_steady s _ _ h h' hf hl.2⟩
      simp only []
      split
      · exact at_pure hS fun _ hw => ⟨hw.1, hw.2.1⟩
      · split
        · refine Keeps.bind (Keeps.pre (freeSlots_keeps hM _ _) ?_) fun _ =>
            at_pure hM.steady fun _ hw => hw
          rintro w ⟨hi, hr, hle, hl⟩
          refine ⟨hi, hr, ?_⟩
          rwa [Nat.add_sub_cancel' hle]
        · rename_i hzero
          refine Keeps.bind (Keeps.pre (freeSlots_keeps hM _ _) ?_) fun _ =>
            at_pure hM.steady fun _ hw => hw
          rintro w ⟨hi, hr, -, hl⟩
          refine ⟨hi, hr, ?_⟩
          rwa [Nat.zero_add, ← Nat.eq_zero_of_not_pos hzero]

end Start

/-- The context is there. -/
def Heap.Live (h : Heap) : Prop := h.freed = false

theorem live_steady : Steady Heap.Live := fun _ _ hf hl => hf.freed.trans hl

theorem startStreaming_keeps (wakes d count : Nat) :
    Keeps Events Consistent (At none none fun h => h.Live ∧ d ∈ h.openDevices)
      (startStreaming wakes d count) (fun _ => At none none Heap.Live) := by
  have hL : Steady fun h => h.Live ∧ d ∈ h.openDevices :=
    live_steady.and fun _ _ hf hd => hf.openDevices ▸ hd
  rw [startStreaming]
  refine at_ask_bind hL fun ret => at_when hL (fun _ => ?_) fun _ _ hw => ⟨hw.1, hw.2.1⟩
  refine keeps_fetch_bind (at_stable hL) At.consistent (R := fun h => At none none fun h' =>
    h'.Ready h.nextStream d ∧ h'.Clear h.nextStream (bufferCount count)) ?_ fun h => ?_
  · rintro w ⟨hi, hlive, hopen⟩
    exact ⟨newStream_inv hi, newStream_ready hopen hlive, (newStream_vacant d w.state).clear _⟩
  · have hS := spared_true h.nextStream d
    refine Keeps.bind (Keeps.pre (streamStart_keeps hS count) fun w hw =>
      ⟨hw.1, ⟨hw.2.1, trivial⟩, hw.2.2⟩) fun ret => ?_
    refine at_when hS.steady (fun _ w hw => ?_) fun _ _ hw => ⟨hw.1, hw.2.1.freed⟩
    refine Sat.mono (streamClose_keeps wakes w.state.openDevices d (w.state.dev d).streams
      h.nextStream w ⟨hw.1, ⟨hw.2.1.freed, rfl, rfl⟩, hw.2.1.devh⟩) ?_
    exact fun _ u hu => ⟨hu.1, hu.2.freed⟩

/-! ## `uvc_close` and `uvc_exit` -/

theorem flag_steady (d : Nat) (b : Bool) : Steady fun h => (h.dev d).hasQuarantinedStream = b := by
  intro h h' hf hb
  rw [hf.dev]
  exact hb

/-- `uvc_close` takes the device off the list of the context, and frees it only if it has no flagged
streams, and hence no transfers left. -/
theorem close_keeps (wakes : Nat) (devs : List Nat) (d : Nat) :
    Keeps Events Consistent (At none none (Heap.Opens devs)) (close wakes d)
      (fun _ => At none none (Heap.Opens (devs.erase d))) := by
  have hT := tracks_steady devs d []
  rw [close]
  refine at_load_bind (opens_steady devs) fun h₀ _ _ => ?_
  refine Keeps.bind (R := fun _ => At none none (Heap.Tracks devs d [])) ?_ fun _ => ?_
  · refine Keeps.pre (P := At none none (Heap.Tracks devs d (h₀.dev d).streams)) ?_ ?_
    · refine at_when (tracks_steady _ _ _) (fun _ => ?_) fun hnil w hw => ?_
      · exact (stopStreaming_keeps wakes devs d).pre fun w hw =>
          ⟨hw.1, hw.2.freed, hw.2.openDevices⟩
      · rwa [show (h₀.dev d).streams = [] by simpa using hnil] at hw
    · rintro w ⟨⟨hi, hl⟩, rfl⟩
      exact ⟨hi, hl.1, hl.2, rfl⟩
  refine at_ask_bind hT fun stopped => ?_
  refine Keeps.bind (R := fun _ => At none none (Heap.Tracks devs d [])) ?_ fun _ => ?_
  · refine at_when hT (fun _ => at_update hT hT fun h hi ht => ?_) fun _ _ hw => hw
    refine ⟨flagStatusXfer_inv d hi, ht.freed, ht.openDevices, ?_⟩
    rw [setDev_dev, if_pos rfl]
    exact ht.streams
  refine at_load_bind hT fun h₁ hi₁ ht₁ => ?_
  have honce : devs.Nodup := ht₁.openDevices ▸ hi₁.alive.openedOnce
  have hF := flag_steady d (h₁.dev d).hasQuarantinedStream
  refine Keeps.pre (P := At none none fun h => h.Tracks devs d [] ∧
    (h.dev d).hasQuarantinedStream = (h₁.dev d).hasQuarantinedStream) ?_ ?_
  · have hM := (tracks_steady (devs.erase d) d []).and hF
    refine at_update_bind (a := none) (b := some d) (hT.and hF) (M := fun h =>
      h.Tracks (devs.erase d) d [] ∧
        (h.dev d).hasQuarantinedStream = (h₁.dev d).hasQuarantinedStream) ?_ ?_
    · rintro h hi ⟨ht, hf⟩
      refine ⟨unlinkDevice_inv d hi, ⟨ht.freed, ?_, ht.streams⟩, hf⟩
      rw [unlinkDevice, ← ht.openDevices]
    · split
      · refine at_update hM (opens_steady _) fun h hi hl => ?_
        exact ⟨quarantineDevice_inv hi, hl.1.freed, hl.1.openDevices⟩
      · rename_i hflags
        rw [Bool.or_eq_true, not_or] at hflags
        refine at_update hM (opens_steady _) fun h hi hl => ?_
        have hclosed : d ∉ h.openDevices := hl.1.openDevices ▸ honce.not_mem_erase
        refine ⟨freeDevice_inv hi hclosed hl.1.streams ?_, hl.1.freed, hl.1.openDevices⟩
        rw [hl.2]
        simpa using hflags.1
  · rintro w ⟨⟨hi, ht⟩, rfl⟩
    exact ⟨hi, ht, rfl⟩

theorem closeAll_keeps (wakes : Nat) (l : List Nat) :
    Keeps Events Consistent (At none none (Heap.Opens l)) (closeAll wakes l)
      (fun _ => At none none (Heap.Opens [])) := by
  induction l with
  | nil => exact at_pure (opens_steady []) fun _ hw => hw
  | cons d rest ih =>
    refine Keeps.bind (Keeps.post (close_keeps wakes (d :: rest) d) fun _ w hw => ?_) fun _ => ih
    rwa [List.erase_cons_head] at hw

/-- `uvc_exit` frees the context only if no device is flagged, and hence no transfers are left. -/
theorem exit_keeps (wakes : Nat) (devs : List Nat) :
    Keeps Events Consistent (At none none (Heap.Opens devs)) (exit wakes)
      (fun _ => At none none fun _ => True) := by
  have hN := opens_steady []
  have hTrue : Steady fun _ => True := fun _ _ _ _ => trivial
  rw [exit]
  refine at_load_bind (opens_steady devs) fun h₀ _ hl₀ => ?_
  refine Keeps.bind (R := fun _ => At none none (Heap.Opens [])) ?_ fun _ => ?_
  · rw [hl₀.2]
    exact (closeAll_keeps wakes devs).pre fun w hw => hw.1
  · refine at_load_bind hN fun h₁ _ _ => ?_
    have hF : Steady fun h => h.hasQuarantinedDevice = h₁.hasQuarantinedDevice :=
      fun _ _ hf hb => hf.hasQuarantinedDevice.trans hb
    refine Keeps.pre (P := At none none fun h => h.Opens [] ∧
      h.hasQuarantinedDevice = h₁.hasQuarantinedDevice) ?_ ?_
    · refine at_when (hN.and hF) (fun hflag => ?_) fun _ _ hw => ⟨hw.1, trivial⟩
      refine at_update (hN.and hF) hTrue fun h hi hl => ?_
      refine ⟨freeContext_inv hi hl.1.2 ?_, trivial⟩
      rw [hl.2]
      simpa using hflag
    · rintro w ⟨⟨hi, hl⟩, rfl⟩
      exact ⟨hi, hl, rfl⟩

/-! ## Sessions -/

theorem openDevice_keeps :
    Keeps Events Consistent (At none none Heap.Live) openDevice
      (fun _ => At none none Heap.Live) := by
  refine at_ask_bind live_steady fun ret => at_when live_steady (fun _ => ?_) fun _ _ hw => hw
  exact at_update live_steady live_steady fun h hi hl => ⟨newDevice_inv hi, hl⟩

theorem onDevice_keeps {d : Nat} {p : LibProg Unit} {Q : Unit → World Heap LibCall → Prop}
    (hp : Keeps Events Consistent (At none none fun h => h.Live ∧ d ∈ h.openDevices) p Q)
    (hQ : ∀ w, At none none Heap.Live w → Q () w) :
    Keeps Events Consistent (At none none Heap.Live) (onDevice d p) Q := by
  refine at_load_bind live_steady fun h₁ _ _ => ?_
  have hL : Steady fun h => h.Live ∧ h.openDevices = h₁.openDevices :=
    live_steady.and fun _ _ hf hd => hf.openDevices.trans hd
  refine Keeps.pre (P := At none none fun h => h.Live ∧ h.openDevices = h₁.openDevices) ?_ ?_
  · refine at_when hL (fun hd => hp.pre ?_) fun _ w hw => hQ w ⟨hw.1, hw.2.1⟩
    rintro w ⟨hi, hl, heq⟩
    exact ⟨hi, hl, heq ▸ by simpa using hd⟩
  · rintro w ⟨⟨hi, hl⟩, rfl⟩
    exact ⟨hi, hl, rfl⟩

theorem session_keeps (wakes : Nat) (calls : List ApiCall) :
    Keeps Events Consistent (At none none Heap.Live) (session wakes calls) (fun _ _ => True) := by
  induction calls with
  | nil => exact at_pure live_steady fun _ _ => trivial
  | cons c rest ih =>
    cases c with
    | «open» => exact openDevice_keeps.bind fun _ => ih
    | startStreaming d count =>
      exact (onDevice_keeps (startStreaming_keeps wakes d count) fun _ hw => hw).bind fun _ => ih
    | stopStreaming d =>
      refine (onDevice_keeps (fun w hw => ?_) fun _ hw => hw).bind fun _ => ih
      exact Sat.mono (stopStreaming_keeps wakes w.state.openDevices d w ⟨hw.1, hw.2.1, rfl⟩)
        fun _ u hu => ⟨hu.1, hu.2.freed⟩
    | close d =>
      refine (onDevice_keeps (fun w hw => ?_) fun _ hw => hw).bind fun _ => ih
      exact Sat.mono (close_keeps wakes w.state.openDevices d w ⟨hw.1, hw.2.1, rfl⟩)
        fun _ u hu => ⟨hu.1, hu.2.1⟩
    | exit =>
      intro w hw
      exact Sat.mono (exit_keeps wakes w.state.openDevices w ⟨hw.1, hw.2, rfl⟩)
        fun _ _ _ => trivial

/-- **No late completion reaches freed memory.**  Whatever calls an application makes on a fresh
context, one at a time and on devices it has open, and however libusb's completions and the
callbacks they run interleave with them: at every moment, a stream transfer that libusb owns, or
that is in a callback which has not reached its last critical section, has not been freed, nor have
its buffer, the stream handle it names, the device handle of that and the context; and no transfer
is freed twice. -/
theorem session_lateSafe (wakes : Nat) (calls : List ApiCall) (p : LibProg Unit)
    (w : World Heap LibCall)
    (hrun : Relation.ReflTransGen (Step Events) (session wakes calls, ⟨{}, []⟩) (p, w)) :
    w.state.LateSafe := by
  obtain ⟨es, ed, hi⟩ := ((session_keeps wakes calls ⟨{}, []⟩ ⟨init_inv, rfl⟩).sound hrun).1
  exact hi.lateSafe

/-- A device that dies while streaming: two transfers are submitted, `uvc_close` waits for them in
vain and quarantines the stream and the device, `uvc_exit` leaves the context, and then one of the
transfers completes after all. -/
theorem session_lateSafe_dead_device :
    ∃ p w, Relation.ReflTransGen (Step Events)
        (session 9 [.open, .startStreaming 0 2, .close 0, .exit], ⟨{}, []⟩) (p, w) ∧
      (w.state.xfer 0).phase = .callback .processing ∧ w.state.openDevices = [] ∧
      w.state.LateSafe := by
  have hrun : Relation.ReflTransGen (Step Events)
      (session 9 [.open, .startStreaming 0 2, .close 0, .exit], ⟨{}, []⟩) _ :=
    (steps_runWith (session 9 [.open, .startStreaming 0 2, .close 0, .exit])
      [0, 0, 0, 0, 0, 0, 0, 1, 1, 1, 1, 1, 1] ⟨{}, []⟩).tail
      (Step.env _ ⟨.deliver 0 .completed, _, rfl, rfl⟩)
  exact ⟨_, _, hrun, rfl, rfl, session_lateSafe 9 _ _ _ hrun⟩

end Lifetime
end LibUvc
