import LibUvc.Lifetime.Session

/-!
# No late completion reaches freed memory

However the application's calls and libusb's completions interleave, as long as libusb has a
transfer or runs its callback, the transfer, its stream handle, the device handle and the context
are all still there (`Heap.LateSafe`), and no transfer is freed twice.  That is
`session_lateSafe`, for every list of calls.

The invariant has two halves.

* `Heap.Owned` is about transfers.  One that is not idle sits in a slot of its stream, no two slots
  hold the same transfer, and a transfer in a slot has not been freed.  So the slots say at least as
  much as libusb knows, and a transfer that is freed is in no slot any more.
* `Heap.Alive` is about the other objects.  A stream with an occupied slot is linked to its device
  or the device is flagged, and its device is linked to the context or the context is flagged.  This
  is what makes the decisions of `uvc_stream_close`, `uvc_close` and `uvc_exit` right: when the
  lists have been emptied, what is left shows in the flags.  Between an unlink and the step behind
  it one object is neither linked nor flagged; the two parameters of `Alive` name it.

The event thread keeps both, and what it does to a heap is little (`Heap.Frame`), so most of what
the application's thread knows stays true while it is not looking.
-/

set_option autoImplicit false

namespace LibUvc
namespace Lifetime

open Prog

/-! ## The property -/

/-- No transfer or buffer is freed twice; and the transfer that libusb has, or that is in a callback
which has not reached its last critical section, is not freed, nor are the stream handle it names,
that handle's device handle and the context. -/
def Heap.LateSafe (h : Heap) : Prop :=
  ∀ x, (h.xfer x).freed ≤ 1 ∧ (h.xfer x).bufferFreed ≤ 1 ∧
    ((h.xfer x).phase ≠ .idle →
      (h.xfer x).freed = 0 ∧ (h.xfer x).bufferFreed = 0 ∧
      (h.stream (h.xfer x).strmh).freed = false ∧
      (h.dev (h.stream (h.xfer x).strmh).devh).freed = false ∧ h.freed = false)

/-! ## The invariant -/

/-- Transfers and slots agree. -/
structure Heap.Owned (h : Heap) : Prop where
  held : ∀ x, (h.xfer x).phase ≠ .idle → ∃ i, (h.stream (h.xfer x).strmh).transfers i = some x
  slot : ∀ s i x, (h.stream s).transfers i = some x →
    (h.xfer x).strmh = s ∧ (h.xfer x).freed = 0 ∧ x < h.nextXfer ∧ i < numTransferBufs
  once : ∀ s i j x, (h.stream s).transfers i = some x → (h.stream s).transfers j = some x → i = j
  freed : ∀ x, (h.xfer x).freed ≤ 1 ∧ (h.xfer x).bufferFreed = (h.xfer x).freed

/-- Some slot of the stream is not `NULL`. -/
def Heap.Occupied (h : Heap) (s : Nat) : Prop := ∃ i x, (h.stream s).transfers i = some x

/-- What a transfer in a slot leads to has not been freed, and is linked or flagged, the stream `es`
and the device `ed` apart. -/
structure Heap.Alive (es ed : Option Nat) (h : Heap) : Prop where
  stream : ∀ s, h.Occupied s → s < h.nextStream ∧ (h.stream s).freed = false ∧
    (s ∈ (h.dev (h.stream s).devh).streams ∨
      (h.dev (h.stream s).devh).hasQuarantinedStream = true ∨ es = some s)
  device : ∀ s, h.Occupied s → (h.stream s).devh < h.nextDev ∧
    (h.dev (h.stream s).devh).freed = false ∧
    ((h.stream s).devh ∈ h.openDevices ∨ h.hasQuarantinedDevice = true ∨
      ed = some (h.stream s).devh)
  context : ∀ s, h.Occupied s → h.freed = false
  linked : ∀ d s, s ∈ (h.dev d).streams → (h.stream s).devh = d ∧ s < h.nextStream
  opened : ∀ d ∈ h.openDevices, d < h.nextDev ∧ (h.dev d).freed = false
  openedOnce : h.openDevices.Nodup

/-- The whole invariant. -/
structure Heap.Inv (es ed : Option Nat) (h : Heap) : Prop where
  owned : h.Owned
  alive : h.Alive es ed

theorem Heap.Inv.lateSafe {es ed : Option Nat} {h : Heap} (hi : h.Inv es ed) : h.LateSafe := by
  intro x
  obtain ⟨hle, hbuf⟩ := hi.owned.freed x
  refine ⟨hle, by omega, fun hphase => ?_⟩
  obtain ⟨i, hslot⟩ := hi.owned.held x hphase
  have hocc : h.Occupied (h.xfer x).strmh := ⟨i, x, hslot⟩
  obtain ⟨-, hfreed, -⟩ := hi.owned.slot _ i x hslot
  exact ⟨hfreed, by omega, (hi.alive.stream _ hocc).2.1, (hi.alive.device _ hocc).2.1,
    hi.alive.context _ hocc⟩

theorem init_inv : Heap.Inv none none {} := by
  refine ⟨⟨?_, ?_, ?_, ?_⟩, ⟨?_, ?_, ?_, ?_, ?_, ?_⟩⟩
  · exact fun x hx => absurd rfl hx
  · exact fun s i x h => absurd h (by simp)
  · exact fun s i j x h => absurd h (by simp)
  · exact fun x => ⟨Nat.zero_le 1, rfl⟩
  · exact fun s ⟨i, x, h⟩ => absurd h (by simp)
  · exact fun s ⟨i, x, h⟩ => absurd h (by simp)
  · exact fun s ⟨i, x, h⟩ => absurd h (by simp)
  · exact fun d s h => absurd h (by simp)
  · exact fun d h => absurd h (by simp)
  · exact List.nodup_nil

/-! ## What the event thread does -/

/-- Nothing has changed but transfers, `running`, and that slots may have been set to `NULL`. -/
structure Heap.Kept (h h' : Heap) : Prop where
  freed : h'.freed = h.freed
  hasQuarantinedDevice : h'.hasQuarantinedDevice = h.hasQuarantinedDevice
  openDevices : h'.openDevices = h.openDevices
  nextDev : h'.nextDev = h.nextDev
  nextStream : h'.nextStream = h.nextStream
  dev : h'.dev = h.dev
  devh : ∀ s, (h'.stream s).devh = (h.stream s).devh
  streamFreed : ∀ s, (h'.stream s).freed = (h.stream s).freed
  slot : ∀ s i x, (h'.stream s).transfers i = some x → (h.stream s).transfers i = some x

/-- What a step of the event thread leaves of a heap: idle transfers are left alone, too. -/
structure Heap.Frame (h h' : Heap) : Prop extends h.Kept h' where
  idle : ∀ x, (h.xfer x).phase = .idle → (h'.xfer x).phase = .idle ∧
    ∀ s i, (h.stream s).transfers i = some x → (h'.stream s).transfers i = some x

theorem setPhase_kept (h : Heap) (x : Nat) (p : Phase) : h.Kept (h.setPhase x p) :=
  ⟨rfl, rfl, rfl, rfl, rfl, rfl, fun _ => rfl, fun _ => rfl, fun _ _ _ hs => hs⟩

theorem setPhase_frame {h : Heap} {x : Nat} {p : Phase} (hx : (h.xfer x).phase ≠ .idle) :
    h.Frame (h.setPhase x p) where
  toKept := setPhase_kept h x p
  idle y hy := by
    have hyx : y ≠ x := fun heq => hx (heq ▸ hy)
    refine ⟨?_, fun _ _ hs => hs⟩
    rw [Heap.setPhase, setXfer_xfer, if_neg hyx]
    exact hy

/-- A transfer that sits in a slot may change hands. -/
theorem setPhase_owned {h : Heap} {s i x : Nat} {p : Phase} (ho : h.Owned)
    (hslot : (h.stream s).transfers i = some x) : (h.setPhase x p).Owned := by
  obtain ⟨hstrmh, -⟩ := ho.slot s i x hslot
  have hx : ∀ y, ((h.setPhase x p).xfer y).strmh = (h.xfer y).strmh ∧
      ((h.setPhase x p).xfer y).freed = (h.xfer y).freed ∧
      ((h.setPhase x p).xfer y).bufferFreed = (h.xfer y).bufferFreed := by
    intro y
    rw [Heap.setPhase, setXfer_xfer]
    split
    · rename_i hyx
      subst hyx
      exact ⟨rfl, rfl, rfl⟩
    · exact ⟨rfl, rfl, rfl⟩
  refine ⟨fun y hy => ?_, fun r j y hr => ?_, ho.once, fun y => ?_⟩
  · rw [(hx y).1]
    by_cases hyx : y = x
    · subst hyx
      exact ⟨i, hstrmh.symm ▸ hslot⟩
    · rw [Heap.setPhase, setXfer_xfer, if_neg hyx] at hy
      exact ho.held y hy
  · rw [(hx y).1, (hx y).2.1]
    exact ho.slot r j y hr
  · rw [(hx y).2.1, (hx y).2.2]
    exact ho.freed y

/-- The transfer `x` is freed, and its slot `i` of the stream `s` set to `NULL`. -/
def Heap.delete (h : Heap) (s i x : Nat) : Heap :=
  ((h.setXfer x Transfer.release).clearSlot s i).setPhase x .idle

theorem delete_xfer (h : Heap) (s i x y : Nat) : (h.delete s i x).xfer y =
    if y = x then { (h.xfer x).release with phase := .idle } else h.xfer y := by
  rw [Heap.delete, Heap.setPhase, setXfer_xfer]
  split
  · rw [Heap.clearSlot]
    show { (Heap.xfer (h.setXfer x Transfer.release) x) with phase := Phase.idle } = _
    rw [setXfer_xfer, if_pos rfl]
  · rename_i hy
    show Heap.xfer (h.setXfer x Transfer.release) y = _
    rw [setXfer_xfer, if_neg hy]

theorem delete_transfers (h : Heap) (s i x r j : Nat) : ((h.delete s i x).stream r).transfers j =
    if r = s ∧ j = i then none else (h.stream r).transfers j := by
  show ((Heap.clearSlot (h.setXfer x Transfer.release) s i).stream r).transfers j = _
  rw [Heap.clearSlot, setStream_stream]
  by_cases hr : r = s
  · subst hr
    rw [if_pos rfl]
    show Function.update (h.stream r).transfers i none j = _
    rw [Function.update_apply]
    by_cases hj : j = i
    · rw [if_pos hj, if_pos ⟨rfl, hj⟩]
    · rw [if_neg hj, if_neg fun hc => hj hc.2]
  · rw [if_neg hr, if_neg fun hc => hr hc.1]
    rfl

theorem delete_stream (h : Heap) (s i x r : Nat) :
    ((h.delete s i x).stream r).devh = (h.stream r).devh ∧
    ((h.delete s i x).stream r).freed = (h.stream r).freed := by
  show ((Heap.clearSlot (h.setXfer x Transfer.release) s i).stream r).devh = _ ∧
    ((Heap.clearSlot (h.setXfer x Transfer.release) s i).stream r).freed = _
  rw [Heap.clearSlot, setStream_stream]
  split
  · rename_i hr
    subst hr
    exact ⟨rfl, rfl⟩
  · exact ⟨rfl, rfl⟩

/-- Freeing a transfer that sits in a slot keeps transfers and slots in agreement. -/
theorem delete_owned {h : Heap} {s i x : Nat} (ho : h.Owned)
    (hslot : (h.stream s).transfers i = some x) : (h.delete s i x).Owned := by
  obtain ⟨hstrmh, hfreed, -⟩ := ho.slot s i x hslot
  have hother : ∀ r j y, ((h.delete s i x).stream r).transfers j = some y →
      (h.stream r).transfers j = some y ∧ y ≠ x := by
    intro r j y hy
    rw [delete_transfers] at hy
    split at hy
    · exact absurd hy (by simp)
    · rename_i hne
      refine ⟨hy, ?_⟩
      rintro rfl
      -- the transfer has only one slot, and that has been cleared
      obtain rfl : r = s := (ho.slot r j y hy).1.symm.trans hstrmh
      exact hne ⟨rfl, ho.once r j i y hy hslot⟩
  refine ⟨fun y hy => ?_, fun r j y hy => ?_, fun r j k y hj hk => ?_, fun y => ?_⟩
  · rw [delete_xfer] at hy ⊢
    split at hy
    · exact absurd rfl hy
    · rename_i hyx
      rw [if_neg hyx]
      obtain ⟨j, hj⟩ := ho.held y hy
      refine ⟨j, ?_⟩
      rw [delete_transfers, if_neg]
      · exact hj
      · rintro ⟨hr, rfl⟩
        rw [hr] at hj
        exact hyx (Option.some.inj (hj.symm.trans hslot))
  · obtain ⟨hy', hyx⟩ := hother r j y hy
    rw [delete_xfer, if_neg hyx]
    exact ho.slot r j y hy'
  · exact ho.once r j k y (hother r j y hj).1 (hother r k y hk).1
  · rw [delete_xfer]
    split
    · have hbuf := (ho.freed x).2
      refine ⟨?_, ?_⟩
      · show (h.xfer x).freed + 1 ≤ 1
        omega
      · show (h.xfer x).bufferFreed + 1 = (h.xfer x).freed + 1
        omega
    · exact ho.freed y

theorem delete_kept (h : Heap) (s i x : Nat) : h.Kept (h.delete s i x) where
  freed := rfl
  hasQuarantinedDevice := rfl
  openDevices := rfl
  nextDev := rfl
  nextStream := rfl
  dev := rfl
  devh r := (delete_stream h s i x r).1
  streamFreed r := (delete_stream h s i x r).2
  slot r j y hy := by
    rw [delete_transfers] at hy
    split at hy
    · exact absurd hy (by simp)
    · exact hy

theorem delete_frame {h : Heap} {s i x : Nat} (hslot : (h.stream s).transfers i = some x)
    (hx : (h.xfer x).phase ≠ .idle) : h.Frame (h.delete s i x) where
  toKept := delete_kept h s i x
  idle y hy := by
    have hyx : y ≠ x := fun heq => hx (heq ▸ hy)
    refine ⟨by rw [delete_xfer, if_neg hyx]; exact hy, fun r j hj => ?_⟩
    rw [delete_transfers, if_neg]
    · exact hj
    · rintro ⟨rfl, rfl⟩
      exact hyx (Option.some.inj (hj.symm.trans hslot))

/-- The search of the callback finds the transfer, since it is in a slot. -/
theorem markDeleted_eq {h : Heap} {x : Nat} (ho : h.Owned) (hx : (h.xfer x).phase ≠ .idle) :
    ∃ i, (h.stream (h.xfer x).strmh).transfers i = some x ∧
      h.markDeleted x = h.delete (h.xfer x).strmh i x := by
  obtain ⟨i, hi⟩ := ho.held x hx
  obtain ⟨-, -, -, hlt⟩ := ho.slot _ i x hi
  rw [Heap.markDeleted]
  split
  · rename_i j hj
    exact ⟨j, by simpa using List.find?_some hj, rfl⟩
  · rename_i hnone
    exact absurd hi (by simpa using List.find?_eq_none.1 hnone i (List.mem_range.2 hlt))

/-- **One step of the event thread** keeps transfers and slots in agreement, and leaves everything
else alone. -/
theorem event_owned {h h' : Heap} {e : Event} (ho : h.Owned) (he : h.event e = some h') :
    h'.Owned ∧ h.Frame h' := by
  have hphase : ∀ {x : Nat} {p : Phase}, (h.xfer x).phase ≠ .idle →
      (h.setPhase x p).Owned ∧ h.Frame (h.setPhase x p) := by
    intro x p hx
    obtain ⟨i, hi⟩ := ho.held x hx
    exact ⟨setPhase_owned ho hi, setPhase_frame hx⟩
  cases e with
  | deliver x status | process x | test x | resubmit x ret =>
    simp only [Heap.event] at he
    split at he
    · rename_i hx
      obtain rfl := Option.some.inj he
      exact hphase (by simp [hx])
    · exact absurd he (by simp)
  | free x =>
    simp only [Heap.event] at he
    split at he
    · rename_i hx
      obtain rfl := Option.some.inj he
      have hne : (h.xfer x).phase ≠ .idle := by simp [hx]
      obtain ⟨i, hi, heq⟩ := markDeleted_eq ho hne
      rw [heq]
      exact ⟨delete_owned ho hi, delete_frame hi hne⟩
    · exact absurd he (by simp)

theorem Heap.Kept.occupied {h h' : Heap} (hf : h.Kept h') {s : Nat} (hs : h'.Occupied s) :
    h.Occupied s := by
  obtain ⟨i, x, hx⟩ := hs
  exact ⟨i, x, hf.slot s i x hx⟩

theorem Heap.Alive.kept {es ed : Option Nat} {h h' : Heap} (ha : h.Alive es ed)
    (hf : h.Kept h') : h'.Alive es ed where
  stream s hs := by
    rw [hf.nextStream, hf.streamFreed, hf.devh, hf.dev]
    exact ha.stream s (hf.occupied hs)
  device s hs := by
    rw [hf.devh, hf.nextDev, hf.dev, hf.openDevices, hf.hasQuarantinedDevice]
    exact ha.device s (hf.occupied hs)
  context s hs := by
    rw [hf.freed]
    exact ha.context s (hf.occupied hs)
  linked d s hs := by
    rw [hf.dev] at hs
    rw [hf.devh, hf.nextStream]
    exact ha.linked d s hs
  opened d hd := by
    rw [hf.openDevices] at hd
    rw [hf.nextDev, hf.dev]
    exact ha.opened d hd
  openedOnce := hf.openDevices ▸ ha.openedOnce

/-! ## What the application's thread knows -/

/-- The event thread cannot falsify `L`. -/
def Steady (L : Heap → Prop) : Prop := ∀ h h', h.Frame h' → L h → L h'

theorem Steady.and {L M : Heap → Prop} (hL : Steady L) (hM : Steady M) :
    Steady fun h => L h ∧ M h :=
  fun h h' hf ⟨h1, h2⟩ => ⟨hL h h' hf h1, hM h h' hf h2⟩

/-- The invariant, and what else the thread knows. -/
def At (es ed : Option Nat) (L : Heap → Prop) (w : World Heap LibCall) : Prop :=
  w.state.Inv es ed ∧ L w.state

/-- What holds at every moment. -/
def Consistent (w : World Heap LibCall) : Prop := ∃ es ed, w.state.Inv es ed

theorem At.consistent {es ed : Option Nat} {L : Heap → Prop} (w : World Heap LibCall)
    (h : At es ed L w) : Consistent w := ⟨es, ed, h.1⟩

theorem at_stable {es ed : Option Nat} {L : Heap → Prop} (hL : Steady L) :
    Stable Events (At es ed L) := by
  rintro w w' ⟨hi, hl⟩ ⟨e, h', he, rfl⟩
  obtain ⟨ho, hf⟩ := event_owned hi.owned he
  exact ⟨⟨ho, hi.alive.kept hf.toKept⟩, hL _ _ hf hl⟩

section Steps

variable {α β : Type} {es ed : Option Nat} {L : Heap → Prop} (hL : Steady L)

include hL

theorem at_pure {Q : α → World Heap LibCall → Prop} {a : α} (hQ : ∀ w, At es ed L w → Q a w) :
    Keeps Events Consistent (At es ed L) (pure a) Q :=
  keeps_pure (at_stable hL) At.consistent hQ

theorem at_load_bind {g : Heap → LibProg β} {Q : β → World Heap LibCall → Prop}
    (hg : ∀ h, h.Inv es ed → L h →
      Keeps Events Consistent (fun w => At es ed L w ∧ w.state = h) (g h) Q) :
    Keeps Events Consistent (At es ed L) (load >>= g) Q := by
  refine keeps_load_bind (at_stable hL) At.consistent fun h w hw => ?_
  obtain ⟨⟨hi, hl⟩, rfl⟩ := hw
  exact hg _ hi hl w ⟨⟨hi, hl⟩, rfl⟩

theorem at_update_bind {f : Heap → Heap} {a b : Option Nat} {M : Heap → Prop}
    {g : Unit → LibProg β} {Q : β → World Heap LibCall → Prop}
    (hf : ∀ h, h.Inv es ed → L h → (f h).Inv a b ∧ M (f h))
    (hg : Keeps Events Consistent (At a b M) (g ()) Q) :
    Keeps Events Consistent (At es ed L) (update f >>= g) Q :=
  keeps_update_bind (at_stable hL) At.consistent (fun w hw => hf w.state hw.1 hw.2) hg

theorem at_update {f : Heap → Heap} {a b : Option Nat} {M : Heap → Prop} (hM : Steady M)
    (hf : ∀ h, h.Inv es ed → L h → (f h).Inv a b ∧ M (f h)) :
    Keeps Events Consistent (At es ed L) (update f) (fun _ => At a b M) :=
  keeps_update (at_stable hL) At.consistent (at_stable hM) At.consistent
    fun w hw => hf w.state hw.1 hw.2

theorem at_ask_bind {k : LibCall} {g : Int → LibProg β} {Q : β → World Heap LibCall → Prop}
    (hg : ∀ r, Keeps Events Consistent (At es ed L) (g r) Q) :
    Keeps Events Consistent (At es ed L) (ask k >>= g) Q :=
  keeps_ask_bind (R := fun _ => At es ed L) (at_stable hL) At.consistent (fun _ _ h => h) hg

theorem at_when {b : Bool} {p : LibProg Unit} {Q : Unit → World Heap LibCall → Prop}
    (hp : b = true → Keeps Events Consistent (At es ed L) p Q)
    (hn : b = false → ∀ w, At es ed L w → Q () w) :
    Keeps Events Consistent (At es ed L) (when b p) Q :=
  keeps_when (at_stable hL) At.consistent hp hn

end Steps

end Lifetime
end LibUvc
