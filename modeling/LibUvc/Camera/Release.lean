import LibUvc.Camera.Session
import LibUvc.Device.Guard
import LibUvc.Lifetime.Safety

/-!
# No interface is released under a transfer

`libusb_release_interface(i)` while libusb still owns a transfer of a stream on the interface `i` is
what the quarantine is there to prevent: a stream whose transfers did not come back keeps its
interface.  It does so only as long as nobody starts another stream on that interface.
`uvc_stream_open_ctrl` looks for streams that are linked, and the quarantined one is not; claiming
an interface that is in the mask succeeds at once; and closing the new stream releases the interface
that the two have in common (`release_underTransfer`).

`sparing` is the look that is missing: an interface is used again only when no stream on it has a
transfer left.  In a session that is sparing, no interface is released under a transfer, whatever
times out and whenever transfers complete: `session_releasesQuiet`.

The argument has three parts.

* The slots of a stream say at least as much as libusb knows (`Heap.Owned`), so it is enough that
  the streams on the interface have no occupied slots (`quiet_of_vacant`).
* `Fit` says which streams have none: those that share an interface with a linked stream, and those
  of an older handle on an interface that the present handle may have claimed.
* `uvc_stream_close` and `uvc_close` release where `Fit` is enough (`streamClose_heeds`,
  `close_heeds`), and the programs that a handle runs release nothing else (`releaseIf_heeds`).
-/

set_option autoImplicit false

namespace LibUvc
namespace Camera

open Prog
open Lifetime (Heap LibCall LibProg Steady)
open Device (DevHandle DevProg UsbCall)

/-! ## The property -/

/-- libusb owns no transfer of a stream on the interface. -/
def State.Quiet (c : State) (i : Nat) : Prop :=
  ∀ x, (c.heap.xfer x).phase = .owned → c.ifNum (c.heap.xfer x).strmh ≠ i

/-- What is asked of a call: an interface is released when it is quiet. -/
def Spares : Call → World State Call → Prop
  | .usb _ (.releaseInterface i), w => w.state.Quiet i
  | _, _ => True

/-! ## The condition -/

/-- No stream on the interface has a transfer left. -/
def State.settled (c : State) (i : Nat) : Bool :=
  (List.range c.heap.nextStream).all fun s => c.ifNum s != i || !(c.heap.stream s).pending

/-- A call is made only when it will claim no interface on which transfers are left: `uvc_open`
claims the VideoControl interface, and `uvc_start_streaming` the one it is for, unless that has a
stream already. -/
def sparing (ctrlIf : Nat) (c : State) : ApiCall → Bool
  | .open => c.settled ctrlIf
  | .startStreaming i _ =>
    c.opened.any (fun d => (getStreamByInterface c d i).isSome) || c.settled i
  | .stopStreaming | .close => true

/-- Every call is made. -/
def anyCall (_ : State) (_ : ApiCall) : Bool := true

/-! ## What a device handle does -/

/-- Only these interfaces are released. -/
def Releases (ok : Nat → Prop) : UsbCall → World DevHandle UsbCall → Prop
  | .releaseInterface i, _ => ok i
  | _, _ => True

/-- Only these interfaces are claimed. -/
def Within (m : Nat → Prop) (w : World DevHandle UsbCall) : Prop :=
  ∀ i, Mask.has w.state.claimed i = true → m i

section Handle

variable {ok m : Nat → Prop} {idx : Nat}

/-- A call that releases nothing. -/
theorem within_ask_bind {β : Type} {k : UsbCall} {g : Int → DevProg β}
    {Q : β → World DevHandle UsbCall → Prop} (hk : ∀ w, Releases ok k w)
    (hg : ∀ r, Heeds alone (Releases ok) (Within m) (g r) Q) :
    Heeds alone (Releases ok) (Within m) (ask k >>= g) Q :=
  heeds_ask_bind (R := fun _ => Within m) Stable.alone (fun w _ => hk w) (fun _ _ hw => hw) hg

theorem armReattachGuard_heeds :
    Heeds alone (Releases ok) (Within m) (Device.armReattachGuard idx) (fun _ => Within m) := by
  have harm : ∀ w, Within m w → Within m (w.update (Device.reattachGuardArm idx)) := by
    intro w hw i hi
    rw [World.update_state, Device.claimed_arm] at hi
    exact hw i hi
  rw [Device.armReattachGuard]
  refine heeds_load_bind Stable.alone fun d => Heeds.pre ?_ fun w hw => hw.1
  split
  · refine within_ask_bind (fun _ => trivial) fun r => ?_
    split
    · exact heeds_pure Stable.alone fun _ hw => hw
    · refine within_ask_bind (fun _ => trivial) fun g => ?_
      split
      · exact heeds_pure Stable.alone fun _ hw => hw
      · exact heeds_update_bind (R := Within m) Stable.alone (fun _ hw => hw)
          (heeds_update Stable.alone Stable.alone harm)
  · exact heeds_update Stable.alone Stable.alone harm

theorem disarm_within {w : World DevHandle UsbCall} (hw : Within m w) :
    Within m (w.update (Device.reattachGuardDisarm idx)) := by
  intro i hi
  rw [World.update_state, Device.claimed_disarm] at hi
  exact hw i hi

/-- `uvc_claim_if` releases nothing, and claims only what it is asked for. -/
theorem claimIf_heeds (hidx : m idx) :
    Heeds alone (Releases ok) (Within m) (Device.claimIf idx) (fun _ => Within m) := by
  rw [Device.claimIf]
  refine heeds_load_bind Stable.alone fun d => Heeds.pre ?_ fun w hw => hw.1
  split
  · exact heeds_pure Stable.alone fun _ hw => hw
  refine armReattachGuard_heeds.bind fun _ => ?_
  refine within_ask_bind (fun _ => trivial) fun detach => ?_
  split
  · exact heeds_update_bind (R := Within m) Stable.alone (fun _ hw => disarm_within hw)
      (heeds_pure Stable.alone fun _ hw => hw)
  refine within_ask_bind (fun _ => trivial) fun ret => ?_
  split
  · refine heeds_update_bind (R := Within m) Stable.alone (fun w hw i hi => ?_)
      (heeds_pure Stable.alone fun _ hw => hw)
    simp only [World.update_state, Mask.has_insert, Bool.or_eq_true, Bool.and_eq_true,
      decide_eq_true_eq] at hi
    rcases hi with hi | ⟨-, rfl⟩
    · exact hw i hi
    · exact hidx
  · refine within_ask_bind (fun _ => trivial) fun reattach => ?_
    split
    · exact heeds_update_bind (R := Within m) Stable.alone (fun _ hw => disarm_within hw)
        (heeds_pure Stable.alone fun _ hw => hw)
    · exact heeds_pure Stable.alone fun _ hw => hw

/-- `uvc_release_if` releases the interface it is asked for, if that is claimed. -/
theorem releaseIf_heeds (hok : m idx → ok idx) :
    Heeds alone (Releases ok) (Within m) (Device.releaseIf idx) (fun _ => Within m) := by
  rw [Device.releaseIf]
  refine heeds_load_bind Stable.alone fun d => ?_
  split
  · exact heeds_pure Stable.alone fun _ hw => hw.1
  rename_i hhas
  refine Heeds.pre (P := fun w => Within m w ∧ ok idx) ?_ ?_
  · refine heeds_ask_bind (R := fun _ w => Within m w ∧ ok idx) Stable.alone (fun _ _ => trivial)
      (fun _ _ hw => hw) fun _ => ?_
    refine heeds_ask_bind (R := fun _ => Within m) Stable.alone (fun _ hw => hw.2)
      (fun _ _ hw => hw.1) fun ret => ?_
    split
    · refine heeds_update_bind (R := Within m) Stable.alone (fun w hw i hi => ?_) ?_
      · simp only [World.update_state, Mask.has_erase, Bool.and_eq_true] at hi
        exact hw i hi.1
      refine within_ask_bind (fun _ => trivial) fun attach => ?_
      split
      · exact heeds_update_bind (R := Within m) Stable.alone (fun _ hw => disarm_within hw)
          (heeds_pure Stable.alone fun _ hw => hw)
      · exact heeds_pure Stable.alone fun _ hw => hw
    · exact heeds_pure Stable.alone fun _ hw => hw
  · rintro w ⟨hw, rfl⟩
    exact ⟨hw, hok (hw idx (by simpa using hhas))⟩

theorem releaseOthers_heeds (hok : ∀ i, m i → ok i) (ctrlIf : Nat) (l : List Nat) :
    Heeds alone (Releases ok) (Within m) (Device.releaseOthers ctrlIf l) (fun _ => Within m) := by
  induction l with
  | nil => exact heeds_pure Stable.alone fun _ hw => hw
  | cons i rest ih =>
    rw [Device.releaseOthers]
    refine heeds_load_bind Stable.alone fun d => Heeds.pre ?_ fun w hw => hw.1
    refine Heeds.bind (R := fun _ => Within m) ?_ fun _ => ih
    refine heeds_when Stable.alone (fun _ => ?_) fun _ _ hw => hw
    exact (releaseIf_heeds (hok i)).bind fun _ => heeds_pure Stable.alone fun _ hw => hw

/-- `uvc_release_claimed_ifs` releases what is claimed. -/
theorem releaseClaimedIfs_heeds (hok : ∀ i, m i → ok i) :
    Heeds alone (Releases ok) (Within m) Device.releaseClaimedIfs (fun _ => Within m) := by
  rw [Device.releaseClaimedIfs]
  refine heeds_load_bind Stable.alone fun d => Heeds.pre ?_ fun w hw => hw.1
  refine (releaseOthers_heeds hok d.ctrlIf _).bind fun _ => ?_
  exact (releaseIf_heeds (hok d.ctrlIf)).bind fun _ => heeds_pure Stable.alone fun _ hw => hw

end Handle

/-! ## What the application's thread knows -/

/-- The invariant of the heap up to the stream `es` and the device `ed`, the interfaces of the
streams, a bound on what the handle `d` has claimed, and what else the thread knows of the heap. -/
structure Holds (es ed : Option Nat) (n : Nat → Nat) (m : Nat → Prop) (d : Nat) (K : Heap → Prop)
    (w : World State Call) : Prop where
  inv : w.state.heap.Inv es ed
  ifNum : w.state.ifNum = n
  claimed : ∀ i, Mask.has (w.state.handle d).claimed i = true → m i
  known : K w.state.heap

variable {es ed : Option Nat} {n : Nat → Nat} {m : Nat → Prop} {d : Nat} {K : Heap → Prop}

/-- The streams on the interface have no occupied slots, so libusb owns no transfer of them. -/
theorem quiet_of_vacant {c : State} {i : Nat} (ho : c.heap.Owned)
    (hv : ∀ s, c.heap.Occupied s → c.ifNum s ≠ i) : c.Quiet i := by
  intro x hx
  obtain ⟨j, hj⟩ := ho.held x (by rw [hx]; simp)
  exact hv _ ⟨j, x, hj⟩

theorem holds_stable (hK : Steady K) : Stable Events (Holds es ed n m d K) := by
  rintro w w' hw ⟨e, h, he, rfl⟩
  obtain ⟨ho, hf⟩ := Lifetime.event_owned hw.inv.owned he
  exact ⟨⟨ho, hw.inv.alive.kept hf.toKept⟩, hw.ifNum, hw.claimed, hK _ _ hf hw.known⟩

section Rules

variable {α β : Type} (hK : Steady K)

/-- A program of the heap, for which a triple about the heap is known. -/
theorem holds_heap {es' ed' : Option Nat} {K' : α → Heap → Prop} {p : LibProg α}
    (hp : Keeps Lifetime.Events Lifetime.Consistent (Lifetime.At es ed K) p
      (fun a => Lifetime.At es' ed' (K' a))) :
    Heeds Events Spares (Holds es ed n m d K) (heapPart.embed p)
      (fun a => Holds es' ed' n m d (K' a)) := by
  have hheeds : Heeds Lifetime.Events (fun _ _ => True) (Lifetime.At es ed K) p
      (fun a => Lifetime.At es' ed' (K' a)) := fun w hw => (hp w hw).obeys
  refine Heeds.post (Heeds.pre (heapPart.heeds (F := fun w => w.state.ifNum = n ∧
    ∀ i, Mask.has (w.state.handle d).claimed i = true → m i) hheeds ?_ ?_ ?_ ?_) ?_) ?_
  · rintro w u hF ⟨e, h, he, rfl⟩
    refine ⟨.single ⟨e, h, he, rfl⟩, hF⟩
  · exact fun w f hF => hF
  · exact fun w k r hF => hF
  · exact fun w k _ _ => trivial
  · exact fun w hw => ⟨⟨hw.inv, hw.known⟩, hw.ifNum, hw.claimed⟩
  · exact fun a w hw => ⟨hw.1.1, hw.2.1, hw.2.2, hw.1.2⟩

include hK

/-- A program of the device handle, which may release the interfaces that `K` says are free. -/
theorem holds_handle {r : Nat → Prop} {p : DevProg α}
    (hp : Heeds alone (Releases r) (Within m) p (fun _ => Within m))
    (hr : ∀ h i, h.Inv es ed → K h → r i → ∀ s, h.Occupied s → n s ≠ i) :
    Heeds Events Spares (Holds es ed n m d K) ((handlePart d).embed p)
      (fun _ => Holds es ed n m d K) := by
  refine Heeds.post (Heeds.pre ((handlePart d).heeds (F := fun w =>
    w.state.heap.Inv es ed ∧ w.state.ifNum = n ∧ K w.state.heap) hp ?_ ?_ ?_ ?_) ?_) ?_
  · rintro w u ⟨hi, hn, hk⟩ ⟨e, h, he, rfl⟩
    obtain ⟨ho, hf⟩ := Lifetime.event_owned hi.owned he
    exact ⟨.refl, ⟨ho, hi.alive.kept hf.toKept⟩, hn, hK _ _ hf hk⟩
  · exact fun w f hF => hF
  · exact fun w k r hF => hF
  · rintro w k ⟨hi, hn, hk⟩ hC
    cases k with
    | releaseInterface i =>
      refine quiet_of_vacant hi.owned fun s hs => ?_
      rw [hn]
      exact hr _ i hi hk hC s hs
    | _ => trivial
  · exact fun w hw => ⟨hw.claimed, hw.inv, hw.ifNum, hw.known⟩
  · exact fun a w hw => ⟨hw.2.1, hw.2.2.1, hw.1, hw.2.2.2⟩

theorem holds_pure {Q : α → World State Call → Prop} {a : α}
    (hQ : ∀ w, Holds es ed n m d K w → Q a w) :
    Heeds Events Spares (Holds es ed n m d K) (pure a) Q :=
  heeds_pure (holds_stable hK) hQ

theorem holds_load_bind {g : State → CamProg β} {Q : β → World State Call → Prop}
    (hg : ∀ c, Heeds Events Spares (fun w => Holds es ed n m d K w ∧ w.state = c) (g c) Q) :
    Heeds Events Spares (Holds es ed n m d K) (load >>= g) Q :=
  heeds_load_bind (holds_stable hK) hg

theorem holds_updateHeap_bind {f : Heap → Heap} {a b : Option Nat} {J : Heap → Prop}
    {g : Unit → CamProg β} {Q : β → World State Call → Prop}
    (hf : ∀ h, h.Inv es ed → K h → (f h).Inv a b ∧ J (f h))
    (hg : Heeds Events Spares (Holds a b n m d J) (g ()) Q) :
    Heeds Events Spares (Holds es ed n m d K) (updateHeap f >>= g) Q := by
  refine heeds_update_bind (holds_stable hK) (fun w hw => ?_) hg
  obtain ⟨hi, hk⟩ := hf w.state.heap hw.inv hw.known
  exact ⟨hi, hw.ifNum, hw.claimed, hk⟩

theorem holds_updateHeap {f : Heap → Heap} {a b : Option Nat} {J : Heap → Prop}
    (hJ : Steady J) (hf : ∀ h, h.Inv es ed → K h → (f h).Inv a b ∧ J (f h)) :
    Heeds Events Spares (Holds es ed n m d K) (updateHeap f)
      (fun _ => Holds a b n m d J) := by
  refine heeds_update (holds_stable hK) (holds_stable hJ) fun w hw => ?_
  obtain ⟨hi, hk⟩ := hf w.state.heap hw.inv hw.known
  exact ⟨hi, hw.ifNum, hw.claimed, hk⟩

/-- A call that releases nothing. -/
theorem holds_ask_bind {k : Call} {g : Int → CamProg β} {Q : β → World State Call → Prop}
    (hk : ∀ w, Spares k w)
    (hg : ∀ r, Heeds Events Spares (Holds es ed n m d K) (g r) Q) :
    Heeds Events Spares (Holds es ed n m d K) (ask k >>= g) Q :=
  heeds_ask_bind (R := fun _ => Holds es ed n m d K) (holds_stable hK) (fun w _ => hk w)
    (fun _ _ hw => ⟨hw.inv, hw.ifNum, hw.claimed, hw.known⟩) hg

theorem holds_when {b : Bool} {p : CamProg Unit} {Q : Unit → World State Call → Prop}
    (hp : b = true → Heeds Events Spares (Holds es ed n m d K) p Q)
    (hn : b = false → ∀ w, Holds es ed n m d K w → Q () w) :
    Heeds Events Spares (Holds es ed n m d K) (when b p) Q :=
  heeds_when (holds_stable hK) hp hn

end Rules

/-! ## Which streams have no transfers -/

/-- No two linked streams are on one interface; of all streams on the interface of a linked one,
only that may have transfers; and the streams of other handles have none on the interfaces that
the handle `d` may have claimed. -/
structure Fit (n : Nat → Nat) (m : Nat → Prop) (d : Nat) (h : Heap) : Prop where
  apart : ∀ s ∈ (h.dev d).streams, ∀ t ∈ (h.dev d).streams, n t = n s → t = s
  sole : ∀ s ∈ (h.dev d).streams, ∀ t, t ≠ s → n t = n s → h.Vacant t
  older : ∀ t, (h.stream t).devh ≠ d → m (n t) → h.Vacant t

theorem vacant_kept {h h' : Heap} (hk : h.Kept h') {s : Nat} (hv : h.Vacant s) : h'.Vacant s := by
  rw [Lifetime.vacant_iff] at hv ⊢
  exact fun hocc => hv (hk.occupied hocc)

theorem fit_kept {h h' : Heap} (hk : h.Kept h') (hf : Fit n m d h) : Fit n m d h' where
  apart := by
    rw [hk.dev]
    exact hf.apart
  sole s hs t hne heq := by
    rw [hk.dev] at hs
    exact vacant_kept hk (hf.sole s hs t hne heq)
  older t hd hm := by
    rw [hk.devh] at hd
    exact vacant_kept hk (hf.older t hd hm)

theorem fit_steady : Steady (Fit n m d) := fun _ _ hf hl => fit_kept hf.toKept hl

/-- Transfers for a linked stream are no concern of `Fit`. -/
theorem allocTransfers_fit {h : Heap} {s k : Nat} (hr : h.Ready s d) (hf : Fit n m d h) :
    Fit n m d (Lifetime.allocTransfers s k h) := by
  have hother : ∀ t, t ≠ s → h.Vacant t → (Lifetime.allocTransfers s k h).Vacant t := by
    intro t hne hv i
    rw [Lifetime.allocTransfers_transfers, if_neg fun hc => hne hc.1]
    exact hv i
  refine ⟨hf.apart, fun r hr' t hne heq => ?_, fun t hd hm => ?_⟩
  · refine hother t ?_ (hf.sole r hr' t hne heq)
    rintro rfl
    exact hne (hf.apart r hr' t hr.linked heq)
  · rw [(Lifetime.allocTransfers_stream s k h t).1] at hd
    exact hother t (fun heq => hd (heq ▸ hr.devh)) (hf.older t hd hm)

/-- A device with less streams. -/
theorem setDev_fit {h : Heap} {f : Lifetime.Device → Lifetime.Device} (e : Nat)
    (hsub : ∀ s, s ∈ (f (h.dev d)).streams → s ∈ (h.dev d).streams) (hf : Fit n m d h) :
    Fit n m d (h.setDev e f) := by
  have hmem : ∀ s, s ∈ ((h.setDev e f).dev d).streams → s ∈ (h.dev d).streams := by
    intro s hs
    rw [Lifetime.setDev_dev] at hs
    split at hs
    · rename_i he
      subst he
      exact hsub s hs
    · exact hs
  exact ⟨fun s hs t ht => hf.apart s (hmem s hs) t (hmem t ht),
    fun s hs => hf.sole s (hmem s hs), hf.older⟩

theorem freeStream_fit {h : Heap} (s : Nat) (hf : Fit n m d h) :
    Fit n m d (Lifetime.freeStream s h) := by
  have hfs := Lifetime.freeStream_stream s h
  have hv : ∀ t, h.Vacant t → (Lifetime.freeStream s h).Vacant t := by
    intro t ht i
    rw [(hfs t).1]
    exact ht i
  refine ⟨hf.apart, fun r hr t hne heq => hv t (hf.sole r hr t hne heq), fun t hd hm => ?_⟩
  rw [(hfs t).2.1] at hd
  exact hv t (hf.older t hd hm)

/-! ## `uvc_stream_close` and `uvc_stop_streaming` -/

/-- All streams on the interface are without transfers. -/
def Unused (n : Nat → Nat) (i : Nat) (h : Heap) : Prop := ∀ t, n t = i → h.Vacant t

theorem unused_steady (i : Nat) : Steady (Unused n i) :=
  fun _ _ hf hl t ht => vacant_kept hf.toKept (hl t ht)

theorem Unused.ne {i s : Nat} {h : Heap} (hu : Unused n i h) (hs : h.Occupied s) : n s ≠ i :=
  fun hi => Lifetime.vacant_iff.1 (hu s hi) hs

/-- The handle `d` has these streams. -/
def Linked (devs : List Nat) (n : Nat → Nat) (m : Nat → Prop) (d : Nat) (l : List Nat) (h : Heap) :
    Prop :=
  h.Tracks devs d l ∧ Fit n m d h

theorem linked_steady {devs l : List Nat} : Steady (Linked devs n m d l) :=
  (Lifetime.tracks_steady devs d l).and fit_steady

theorem unlinkStream_linked {devs l : List Nat} {s : Nat} {h : Heap} (hd : (h.stream s).devh = d)
    (hl : Linked devs n m d l h) :
    Linked devs n m d (l.erase s) (Lifetime.unlinkStream s h) := by
  obtain ⟨ht, hf⟩ := hl
  refine ⟨⟨ht.freed, ht.openDevices, ?_⟩, ?_⟩
  · rw [Lifetime.unlinkStream, Lifetime.setDev_dev, hd, if_pos rfl, ← ht.streams]
  · exact setDev_fit _ (fun _ hs => List.mem_of_mem_erase hs) hf

/-- `uvc_stream_close` releases the interface of its stream, and only when no stream on it has a
transfer left. -/
theorem streamClose_heeds (wakes : Nat) {devs l : List Nat} {s : Nat} (hs : s ∈ l) :
    Heeds Events Spares (Holds none none n m d (Linked devs n m d l)) (streamClose wakes s)
      (fun _ => Holds none none n m d (Linked devs n m d (l.erase s))) := by
  have hL : Steady (Linked devs n m d l) := linked_steady
  have hL' : Steady (Linked devs n m d (l.erase s)) := linked_steady
  have hD : Steady fun h => (h.stream s).devh = d := Lifetime.devh_steady s d
  have hU : Steady (Unused n (n s)) := unused_steady (n s)
  rw [streamClose]
  refine holds_load_bind hL fun c => Heeds.pre ?_ fun w hw => hw.1
  refine Heeds.bind (R := fun _ => Holds none none n m d (Linked devs n m d l)) ?_ fun _ => ?_
  · refine holds_when hL (fun _ => ?_) fun _ _ hw => hw
    exact (holds_heap (Lifetime.streamStop_keeps hL wakes s)).bind fun _ =>
      holds_pure hL fun _ hw => hw
  refine holds_load_bind hL fun c => ?_
  rintro w ⟨hw, rfl⟩
  obtain ⟨ht, hf⟩ := hw.known
  have hmem : s ∈ (w.state.heap.dev d).streams := ht.streams.symm ▸ hs
  have hd : (w.state.heap.stream s).devh = d := (hw.inv.alive.linked d s hmem).1
  rw [hd, hw.ifNum]
  cases hp : (w.state.heap.stream s).pending with
  | true =>
    refine holds_updateHeap_bind (a := some s) (b := none)
      (K := fun h => Linked devs n m d l h ∧ (h.stream s).devh = d)
      (J := fun h => Linked devs n m d (l.erase s) h ∧ (h.stream s).devh = d) (hL.and hD)
      (fun h hi hl => ⟨Lifetime.unlinkStream_inv s hi, unlinkStream_linked hl.2 hl.1, hl.2⟩) ?_ w
      ⟨hw.inv, hw.ifNum, hw.claimed, hw.known, hd⟩
    refine holds_updateHeap (hL'.and hD) hL' ?_
    rintro h hi ⟨⟨ht, hf⟩, hd⟩
    refine ⟨Lifetime.quarantineStream_inv hi, ⟨ht.freed, ht.openDevices, ?_⟩, ?_⟩
    · rw [Lifetime.quarantineStream, Lifetime.setDev_dev, hd, if_pos rfl]
      exact ht.streams
    · exact setDev_fit _ (fun _ hs => hs) hf
  | false =>
    -- its own slots are empty, and so are those of every other stream on the interface
    have hunused : Unused n (n s) w.state.heap := by
      intro t hts
      by_cases heq : t = s
      · rw [heq]
        exact Lifetime.vacant_of_not_pending hw.inv.owned hp
      · exact hf.sole s hmem t heq hts
    refine holds_updateHeap_bind (a := some s) (b := none)
      (K := fun h => (Linked devs n m d l h ∧ (h.stream s).devh = d) ∧ Unused n (n s) h)
      (J := fun h => Linked devs n m d (l.erase s) h ∧ Unused n (n s) h) ((hL.and hD).and hU)
      (fun h hi hl => ⟨Lifetime.unlinkStream_inv s hi, unlinkStream_linked hl.1.2 hl.1.1, hl.2⟩)
      ?_ w ⟨hw.inv, hw.ifNum, hw.claimed, ⟨hw.known, hd⟩, hunused⟩
    refine (holds_handle (r := fun i => i = n s) (hL'.and hU) (releaseIf_heeds fun _ => rfl)
      ?_).bind fun _ => ?_
    · rintro h i - ⟨-, hu⟩ rfl t ht
      exact hu.ne ht
    · refine holds_updateHeap (hL'.and hU) hL' ?_
      rintro h hi ⟨⟨ht, hf⟩, hu⟩
      exact ⟨Lifetime.freeStream_inv hi (hu s rfl), ⟨ht.freed, ht.openDevices, ht.streams⟩,
        freeStream_fit s hf⟩

theorem streamCloseAll_heeds (wakes : Nat) (devs l : List Nat) :
    Heeds Events Spares (Holds none none n m d (Linked devs n m d l)) (streamCloseAll wakes l)
      (fun _ => Holds none none n m d (Linked devs n m d [])) := by
  induction l with
  | nil => exact holds_pure linked_steady fun _ hw => hw
  | cons s rest ih =>
    refine (streamClose_heeds wakes List.mem_cons_self).bind fun _ => ?_
    rw [List.erase_cons_head]
    exact ih

theorem stopStreaming_heeds (wakes : Nat) (devs l : List Nat) :
    Heeds Events Spares (Holds none none n m d (Linked devs n m d l)) (stopStreaming wakes d)
      (fun _ => Holds none none n m d (Linked devs n m d [])) := by
  rw [stopStreaming]
  refine holds_load_bind linked_steady fun c => ?_
  rintro w ⟨hw, rfl⟩
  rw [hw.known.1.streams]
  exact streamCloseAll_heeds wakes devs l w hw

/-! ## `uvc_start_streaming` -/

/-- A new stream on an interface on which no stream has transfers, and none is linked. -/
theorem newStream_fit {h : Heap} {i : Nat} (ha : h.Alive none ed) (hf : Fit n m d h)
    (hfree : ∀ s ∈ (h.dev d).streams, n s ≠ i) (hu : Unused n i h) :
    Fit (Function.update n h.nextStream i) m d (Lifetime.newStream d h) := by
  have hself : Function.update n h.nextStream i h.nextStream = i := Function.update_self ..
  have hold : ∀ t, t ≠ h.nextStream → Function.update n h.nextStream i t = n t :=
    fun t ht => Function.update_of_ne ht ..
  have hlinked : ∀ s ∈ (h.dev d).streams, s ≠ h.nextStream :=
    fun s hs => Nat.ne_of_lt (ha.linked d s hs).2
  have hstreams : ∀ s, s ∈ ((Lifetime.newStream d h).dev d).streams →
      s ∈ (h.dev d).streams ∨ s = h.nextStream := by
    intro s hs
    rw [Lifetime.newStream_dev, if_pos rfl] at hs
    simpa using hs
  have hvacant : ∀ t, h.Vacant t → (Lifetime.newStream d h).Vacant t := by
    intro t ht j
    rw [Lifetime.newStream_transfers ha]
    exact ht j
  refine ⟨fun s hs t ht heq => ?_, fun s hs t hne heq => ?_, fun t hd hm => ?_⟩
  · rcases hstreams s hs with hs | rfl
    · rw [hold s (hlinked s hs)] at heq
      rcases hstreams t ht with ht | rfl
      · rw [hold t (hlinked t ht)] at heq
        exact hf.apart s hs t ht heq
      · exact absurd (heq.symm.trans hself) (hfree s hs)
    · rcases hstreams t ht with ht | rfl
      · rw [hold t (hlinked t ht), hself] at heq
        exact absurd heq (hfree t ht)
      · rfl
  · by_cases htn : t = h.nextStream
    · rw [htn]
      exact Lifetime.newStream_vacant d h
    rw [hold t htn] at heq
    rcases hstreams s hs with hs | rfl
    · rw [hold s (hlinked s hs)] at heq
      exact hvacant t (hf.sole s hs t hne heq)
    · exact hvacant t (hu t (heq.trans hself))
  · rw [Lifetime.newStream_stream] at hd
    split at hd
    · exact absurd rfl hd
    · rename_i htn
      rw [hold t htn] at hm
      exact hvacant t (hf.older t hd hm)

/-- The application has the handle `d`. -/
def Serving (d : Nat) (w : World State Call) : Prop :=
  ∃ n m l, Holds none none n m d (Linked [d] n m d l) w

theorem getStreamByInterface_isSome {c : State} {e i : Nat} :
    (getStreamByInterface c e i).isSome = true ↔ ∃ s ∈ (c.heap.dev e).streams, c.ifNum s = i := by
  rw [getStreamByInterface, List.find?_isSome]
  simp only [decide_eq_true_eq]

/-- `Fit` is no concern of a start. -/
theorem fit_spared (s : Nat) :
    Lifetime.Spared s d fun h => h.openDevices = [d] ∧ Fit n m d h where
  kept _ _ hk hm := ⟨hk.openDevices.trans hm.1, fit_kept hk hm.2⟩
  alloc _ _ hr hm := ⟨hm.1, allocTransfers_fit hr hm.2⟩

/-- A stream of the handle `d` that was just opened. -/
def Fresh (d s : Nat) (w : World State Call) : Prop :=
  ∃ n m, Holds none none n m d (fun h =>
    (h.Ready s d ∧ h.openDevices = [d] ∧ Fit n m d h) ∧ h.Vacant s) w

/-- An interface that no stream of another handle uses may be claimed. -/
theorem Holds.mayClaim {w : World State Call} {l : List Nat} {i : Nat}
    (hw : Holds none none n m d (Linked [d] n m d l) w) (hu : Unused n i w.state.heap) :
    Holds none none n (fun j => m j ∨ j = i) d
      (fun h => Linked [d] n (fun j => m j ∨ j = i) d l h ∧ Unused n i h) w := by
  obtain ⟨ht, hf⟩ := hw.known
  refine ⟨hw.inv, hw.ifNum, fun j hj => Or.inl (hw.claimed j hj),
    ⟨ht, hf.apart, hf.sole, fun t hd hm => ?_⟩, hu⟩
  rcases hm with hm | hm
  · exact hf.older t hd hm
  · exact hu t hm

/-- A new stream on an interface that is unused. -/
theorem newStream_fresh {w : World State Call} {l : List Nat} {i : Nat}
    (hfree : ∀ s ∈ l, n s ≠ i)
    (hw : Holds none none n m d (fun h => Linked [d] n m d l h ∧ Unused n i h) w) :
    Fresh d w.state.heap.nextStream (w.update (newStream d i)) := by
  obtain ⟨⟨ht, hf⟩, hu⟩ := hw.known
  have hopen : d ∈ w.state.heap.openDevices := by simp [ht.openDevices]
  refine ⟨Function.update n w.state.heap.nextStream i, m, Lifetime.newStream_inv hw.inv, ?_,
    hw.claimed, ⟨Lifetime.newStream_ready hopen ht.freed, ht.openDevices, ?_⟩,
    Lifetime.newStream_vacant d _⟩
  · rw [← hw.ifNum]
    rfl
  · exact newStream_fit hw.inv.alive hf (ht.streams.symm ▸ hfree) hu

theorem Fresh.stable (s : Nat) : Stable Events (Fresh d s) := by
  rintro w u ⟨n, m, hw⟩ hr
  exact ⟨n, m, holds_stable ((fit_spared s).steady.and (Lifetime.vacant_steady s)) w u hw hr⟩

/-- `uvc_stream_open_ctrl` refuses an interface that has a linked stream; one that has none is
unused. -/
theorem streamOpenCtrl_heeds {l : List Nat} (i : Nat) :
    Heeds Events Spares
      (Holds none none n m d fun h => Linked [d] n m d l h ∧ ((∀ s ∈ l, n s ≠ i) → Unused n i h))
      (streamOpenCtrl d i)
      (fun r w => match r with
        | .error _ => Serving d w
        | .ok s => Fresh d s w) := by
  have hL : Steady fun h => Linked [d] n m d l h ∧ ((∀ s ∈ l, n s ≠ i) → Unused n i h) :=
    linked_steady.and (Lifetime.const_steady _ (unused_steady i))
  rw [streamOpenCtrl]
  refine holds_load_bind hL fun c => ?_
  split
  · exact (holds_pure hL fun w hw => ⟨n, m, l, hw.inv, hw.ifNum, hw.claimed, hw.known.1⟩).pre
      fun w hw => hw.1
  rename_i hnone
  rintro w ⟨hw, rfl⟩
  obtain ⟨hl, hu⟩ := hw.known
  have hfree : ∀ s ∈ l, n s ≠ i := by
    intro s hs
    rw [getStreamByInterface_isSome, hl.1.streams, hw.ifNum] at hnone
    exact fun heq => hnone ⟨s, hs, heq⟩
  -- the interface may be claimed from here on
  have hM : Steady fun h => Linked [d] n (fun j => m j ∨ j = i) d l h ∧ Unused n i h :=
    linked_steady.and (unused_steady i)
  have hserving : ∀ u, Holds none none n (fun j => m j ∨ j = i) d
      (fun h => Linked [d] n (fun j => m j ∨ j = i) d l h ∧ Unused n i h) u → Serving d u :=
    fun u hu => ⟨n, _, l, hu.inv, hu.ifNum, hu.claimed, hu.known.1⟩
  refine (?_ : Heeds Events Spares (Holds none none n (fun j => m j ∨ j = i) d fun h =>
    Linked [d] n (fun j => m j ∨ j = i) d l h ∧ Unused n i h) _ _) w
    (Holds.mayClaim ⟨hw.inv, hw.ifNum, hw.claimed, hl⟩ (hu hfree))
  refine holds_ask_bind hM (fun _ => trivial) fun ret => ?_
  split
  · exact holds_pure hM hserving
  refine (holds_handle (r := fun _ => False) hM (claimIf_heeds (Or.inr rfl))
    fun _ _ _ _ hok => hok.elim).bind fun ret => ?_
  split
  · exact holds_pure hM hserving
  refine holds_ask_bind hM (fun _ => trivial) fun ret => ?_
  split
  · exact holds_pure hM hserving
  refine heeds_fetch_bind (R := fun c => Fresh d c.heap.nextStream) (holds_stable hM)
    (fun u hu => newStream_fresh hfree hu) fun c => ?_
  exact heeds_pure (Fresh.stable _) fun _ hu => hu

theorem startStreaming_heeds (wakes : Nat) {l : List Nat} (i count : Nat) :
    Heeds Events Spares
      (Holds none none n m d fun h => Linked [d] n m d l h ∧ ((∀ s ∈ l, n s ≠ i) → Unused n i h))
      (startStreaming wakes d i count) (fun _ => Serving d) := by
  rw [startStreaming]
  refine (streamOpenCtrl_heeds i).bind fun r => ?_
  cases r with
  | error ret =>
    rintro w ⟨n, m, l, hw⟩
    exact holds_pure linked_steady (fun u hu => ⟨n, m, l, hu⟩) w hw
  | ok s =>
    rintro w ⟨n, m, hw⟩
    have hS : Lifetime.Spared s d fun h => h.openDevices = [d] ∧ Fit n m d h := fit_spared s
    refine ((holds_heap (Lifetime.streamStart_keeps hS count)).bind fun ret => ?_) w
      ⟨hw.inv, hw.ifNum, hw.claimed, hw.known.1, hw.known.2.clear _⟩
    refine holds_when hS.steady (fun _ u hu => ?_) fun _ u hu => ?_
    · obtain ⟨hr, hopen, hf⟩ := hu.known
      refine Obeys.mono (streamClose_heeds wakes hr.linked u ⟨hu.inv, hu.ifNum, hu.claimed,
        ⟨hr.freed, hopen, rfl⟩, hf⟩) fun _ v hv => ⟨n, m, _, hv⟩
    · obtain ⟨hr, hopen, hf⟩ := hu.known
      exact ⟨n, m, (u.state.heap.dev d).streams, hu.inv, hu.ifNum, hu.claimed,
        ⟨hr.freed, hopen, rfl⟩, hf⟩

/-! ## `uvc_close` -/

/-- A handle without streams that is not flagged: on the interfaces that it may have claimed, no
stream has a transfer. -/
theorem Linked.unused {devs : List Nat} {h : Heap} (hi : h.Inv none none)
    (hl : Linked devs n m d [] h) (hflag : (h.dev d).hasQuarantinedStream = false) {i : Nat}
    (hm : m i) {s : Nat} (hs : h.Occupied s) : n s ≠ i := by
  rintro rfl
  by_cases hd : (h.stream s).devh = d
  · rcases (hi.alive.stream s hs).2.2 with hlink | hlink | hlink
    · rw [hd, hl.1.streams] at hlink
      cases hlink
    · rw [hd, hflag] at hlink
      cases hlink
    · cases hlink
  · exact Lifetime.vacant_iff.1 (hl.2.older s hd hm) hs

/-- No handle is open. -/
def Resting (w : World State Call) : Prop :=
  ∃ n m d, Holds none none n m d (Heap.Opens []) w

/-- `uvc_close` releases what the handle has claimed only when nothing was quarantined. -/
theorem close_heeds (wakes : Nat) (l : List Nat) :
    Heeds Events Spares (Holds none none n m d (Linked [d] n m d l)) (close wakes d)
      (fun _ => Resting) := by
  have hL : Steady (Linked [d] n m d []) := linked_steady
  have hO : Steady (Heap.Opens []) := Lifetime.opens_steady []
  have hrest : ∀ w, Holds none none n m d (Heap.Opens []) w → Resting w :=
    fun w hw => ⟨n, m, d, hw⟩
  rw [close]
  refine holds_load_bind linked_steady fun c => ?_
  refine Heeds.bind (R := fun _ => Holds none none n m d (Linked [d] n m d [])) ?_ fun _ => ?_
  · rintro w ⟨hw, rfl⟩
    refine holds_when linked_steady (fun _ => stopStreaming_heeds wakes [d] l) (fun hnil u hu => ?_)
      w hw
    have hl : l = [] := by simpa [hw.known.1.streams] using hnil
    rwa [hl] at hu
  refine holds_ask_bind hL (fun _ => trivial) fun stopped => ?_
  refine Heeds.bind (R := fun _ => Holds none none n m d (Linked [d] n m d [])) ?_ fun _ => ?_
  · refine holds_when hL (fun _ => holds_updateHeap hL hL fun h hi hl => ?_) fun _ _ hw => hw
    refine ⟨Lifetime.flagStatusXfer_inv d hi, ⟨hl.1.freed, hl.1.openDevices, ?_⟩,
      setDev_fit d (fun _ hs => hs) hl.2⟩
    rw [Lifetime.setDev_dev, if_pos rfl]
    exact hl.1.streams
  refine holds_load_bind hL fun c => ?_
  split
  · refine Heeds.pre (P := Holds none none n m d (Linked [d] n m d [])) ?_ fun w hw => hw.1
    refine holds_updateHeap_bind (a := none) (b := some d) (J := Heap.Opens []) hL
      (fun h hi hl => ⟨Lifetime.unlinkDevice_inv d hi, hl.1.freed, ?_⟩) ?_
    · rw [Lifetime.unlinkDevice, hl.1.openDevices, List.erase_cons_head]
    · exact (holds_updateHeap hO hO fun h hi hl =>
        ⟨Lifetime.quarantineDevice_inv hi, hl⟩).post fun _ => hrest
  · rename_i hflags
    rw [Bool.or_eq_true, not_or] at hflags
    have hF := Lifetime.flag_steady d false
    refine Heeds.pre (P := Holds none none n m d fun h => Linked [d] n m d [] h ∧
      (h.dev d).hasQuarantinedStream = false) ?_ ?_
    · refine (holds_handle (r := m) (hL.and hF) (releaseClaimedIfs_heeds fun _ hm => hm)
        fun h i hi hl hm s hs => hl.1.unused hi hl.2 hm hs).bind fun _ => ?_
      refine holds_ask_bind (hL.and hF) (fun _ => trivial) fun _ => ?_
      have hT := (Lifetime.tracks_steady [] d []).and hF
      refine holds_updateHeap_bind (a := none) (b := some d)
        (J := fun h => h.Tracks [] d [] ∧ (h.dev d).hasQuarantinedStream = false) (hL.and hF)
        (fun h hi hl => ⟨Lifetime.unlinkDevice_inv d hi, ⟨hl.1.1.freed, ?_, hl.1.1.streams⟩, hl.2⟩)
        (Heeds.post (holds_updateHeap hT hO fun h hi hl => ?_) fun _ => hrest)
      · rw [Lifetime.unlinkDevice, hl.1.1.openDevices, List.erase_cons_head]
      · refine ⟨Lifetime.freeDevice_inv hi ?_ hl.1.streams hl.2, hl.1.freed, hl.1.openDevices⟩
        rw [hl.1.openDevices]
        exact List.not_mem_nil
    · rintro w ⟨hw, rfl⟩
      exact ⟨hw.inv, hw.ifNum, hw.claimed, hw.known, by simpa using hflags.1⟩

/-! ## `uvc_open` -/

theorem newDevice_fit {h : Heap} (hopen : h.openDevices = [])
    (hlive : h.freed = false) {ctrlIf : Nat} (hu : Unused n ctrlIf h) :
    Linked [h.nextDev] n (fun j => j = ctrlIf) h.nextDev [] (Lifetime.newDevice h) := by
  have hnew : (Lifetime.newDevice h).dev h.nextDev = {} := by
    show (h.setDev h.nextDev fun _ => {}).dev h.nextDev = _
    rw [Lifetime.setDev_dev, if_pos rfl]
  refine ⟨⟨hlive, ?_, by rw [hnew]⟩, fun s hs => ?_, fun s hs => ?_, fun t _ ht => hu t ht⟩
  · show h.openDevices ++ [h.nextDev] = _
    rw [hopen, List.nil_append]
  · rw [hnew] at hs
    cases hs
  · rw [hnew] at hs
    cases hs

/-- The device is open, or it is not. -/
def Settled (w : World State Call) : Prop := Resting w ∨ ∃ d, Serving d w

theorem claimControl_heeds (hK : Steady K) {ctrlIf : Nat} (hctrl : m ctrlIf) :
    Heeds Events Spares (Holds es ed n m d K) (claimControl d ctrlIf)
      (fun _ => Holds es ed n m d K) := by
  rw [claimControl]
  refine (holds_handle (r := fun _ => False) hK (claimIf_heeds hctrl)
    fun _ _ _ _ hok => hok.elim).bind fun ret => ?_
  split
  · exact holds_pure hK fun _ hw => hw
  · exact holds_ask_bind hK (fun _ => trivial) fun r => holds_pure hK fun _ hw => hw

theorem openDevice_heeds (ctrlIf : Nat) :
    Heeds Events Spares (Holds none none n m d fun h => h.Opens [] ∧ Unused n ctrlIf h)
      (openDevice ctrlIf) (fun _ => Settled) := by
  have hO : Steady fun h => h.Opens [] ∧ Unused n ctrlIf h :=
    (Lifetime.opens_steady []).and (unused_steady ctrlIf)
  have hrest : ∀ {m d}, ∀ w, Holds none none n m d (fun h => h.Opens [] ∧ Unused n ctrlIf h) w →
      Settled w :=
    fun w hw => Or.inl ⟨n, _, _, hw.inv, hw.ifNum, hw.claimed, hw.known.1⟩
  rw [openDevice]
  refine holds_ask_bind hO (fun _ => trivial) fun ret => ?_
  refine holds_when hO (fun _ => ?_) fun _ => hrest
  refine heeds_fetch_bind (R := fun c => Holds none none n (fun j => j = ctrlIf) c.heap.nextDev
    fun h => (h.Opens [] ∧ Unused n ctrlIf h) ∧ h.nextDev = c.heap.nextDev)
    (holds_stable hO) ?_ fun c => ?_
  · intro w hw
    refine ⟨hw.inv, hw.ifNum, fun i hi => ?_, hw.known, rfl⟩
    rw [show ((w.update (newHandle ctrlIf)).state.handle w.state.heap.nextDev) =
      { ctrlIf := ctrlIf } from Function.update_self .., Mask.has_zero] at hi
    cases hi
  have hL : Steady fun h => (h.Opens [] ∧ Unused n ctrlIf h) ∧ h.nextDev = c.heap.nextDev :=
    hO.and fun _ _ hf hd => hf.nextDev.trans hd
  refine (claimControl_heeds (m := fun j => j = ctrlIf) hL rfl).bind fun ret => ?_
  split
  · refine (holds_handle (m := fun j => j = ctrlIf) hL (releaseIf_heeds fun hm => hm)
      ?_).bind fun _ => ?_
    · rintro h i - ⟨⟨-, hu⟩, -⟩ rfl s hs
      exact hu.ne hs
    · exact holds_ask_bind hL (fun _ => trivial) fun _ => holds_pure hL fun w hw =>
        hrest w ⟨hw.inv, hw.ifNum, hw.claimed, hw.known.1⟩
  · refine Heeds.post (holds_updateHeap (J := Linked [c.heap.nextDev] n (fun j => j = ctrlIf)
      c.heap.nextDev []) hL linked_steady ?_) fun _ w hw => Or.inr ⟨_, n, _, [], hw⟩
    rintro h hi ⟨⟨ho, hu⟩, hd⟩
    rw [← hd]
    exact ⟨Lifetime.newDevice_inv hi, newDevice_fit ho.2 ho.1 hu⟩

/-! ## Sessions -/

theorem unused_of_settled {c : State} {i : Nat} (hi : c.heap.Inv es ed)
    (hset : c.settled i = true) : Unused c.ifNum i c.heap := by
  intro s hs
  by_cases hlt : s < c.heap.nextStream
  · refine Lifetime.vacant_of_not_pending hi.owned ?_
    have := List.all_eq_true.1 hset s (List.mem_range.2 hlt)
    simpa [hs] using this
  · exact Lifetime.vacant_iff.2 fun hocc => hlt (hi.alive.stream s hocc).1

/-- One call of a sparing session. -/
theorem perform_heeds (wakes ctrlIf : Nat) (a : ApiCall) (c : State)
    (hmay : sparing ctrlIf c a = true) :
    Heeds Events Spares (fun w => Settled w ∧ w.state = c) (perform wakes ctrlIf a c.opened)
      (fun _ => Settled) := by
  rintro w ⟨⟨n, m, d, hw⟩ | ⟨d, n, m, l, hw⟩, rfl⟩
  · -- no handle is open: nothing but `uvc_open` does anything
    have hskip : Obeys Events Spares (fun _ => Settled) (pure () : CamProg Unit) w :=
      holds_pure (Lifetime.opens_steady []) (fun u hu => Or.inl ⟨n, m, d, hu⟩) w hw
    have hopened : w.state.opened = none := by rw [State.opened, hw.known.2]; rfl
    rw [hopened]
    cases a with
    | «open» =>
      refine openDevice_heeds ctrlIf w ⟨hw.inv, hw.ifNum, hw.claimed, hw.known, ?_⟩
      rw [← hw.ifNum]
      exact unused_of_settled hw.inv hmay
    | startStreaming | stopStreaming | close => exact hskip
  · have hopened : w.state.opened = some d := by rw [State.opened, hw.known.1.openDevices]; rfl
    have hserving : ∀ u, Serving d u → Settled u := fun u hu => Or.inr ⟨d, hu⟩
    rw [hopened]
    cases a with
    | «open» => exact holds_pure linked_steady (fun u hu => hserving u ⟨n, m, l, hu⟩) w hw
    | startStreaming i count =>
      refine Obeys.mono (startStreaming_heeds wakes i count w ⟨hw.inv, hw.ifNum, hw.claimed,
        hw.known, fun hfree => ?_⟩) fun _ => hserving
      rw [sparing, hopened, Option.any_some, Bool.or_eq_true, getStreamByInterface_isSome,
        hw.known.1.streams, hw.ifNum] at hmay
      rcases hmay with ⟨s, hs, heq⟩ | hset
      · exact absurd heq (hfree s hs)
      · rw [← hw.ifNum]
        exact unused_of_settled hw.inv hset
    | stopStreaming =>
      exact Obeys.mono (stopStreaming_heeds wakes [d] l w hw) fun _ u hu =>
        hserving u ⟨n, m, [], hu⟩
    | close => exact Obeys.mono (close_heeds wakes l w hw) fun _ _ hu => Or.inl hu

theorem session_heeds (wakes ctrlIf : Nat) (calls : List ApiCall) :
    Heeds Events Spares Settled (session (sparing ctrlIf) wakes ctrlIf calls)
      (fun _ => Settled) := by
  have hst : Stable Events Settled := by
    rintro w u (⟨n, m, d, hw⟩ | ⟨d, n, m, l, hw⟩) hr
    · exact Or.inl ⟨n, m, d, holds_stable (Lifetime.opens_steady []) w u hw hr⟩
    · exact Or.inr ⟨d, n, m, l, holds_stable linked_steady w u hw hr⟩
  induction calls with
  | nil => exact heeds_pure hst fun _ hw => hw
  | cons a rest ih =>
    refine heeds_load_bind hst fun c => ?_
    cases hmay : sparing ctrlIf c a with
    | true => exact (perform_heeds wakes ctrlIf a c hmay).bind fun _ => ih
    | false => exact (heeds_pure hst fun _ hw => hw).pre fun w hw => hw.1

/-- **No interface is released under a transfer.**  An application opens a device, starts and stops
streaming on its interfaces and closes it, in any order and as often as it likes, while stops may
time out and transfers complete at any time.  If every `uvc_start_streaming` that is not refused
finds no transfers left on its interface, and every `uvc_open` none on VideoControl, then whenever
`libusb_release_interface(i)` is issued, libusb owns no transfer of any stream on `i`, be it linked,
quarantined or of a handle that was closed before. -/
theorem session_releasesQuiet (wakes ctrlIf : Nat) (calls : List ApiCall) (d i : Nat)
    (next : Int → CamProg Unit) (w : World State Call)
    (hrun : Relation.ReflTransGen (Step Events)
      (session (sparing ctrlIf) wakes ctrlIf calls, ⟨{}, []⟩)
      (.call (.usb d (.releaseInterface i)) next, w)) :
    w.state.Quiet i := by
  have hinit : Settled ⟨{}, []⟩ :=
    Or.inl ⟨fun _ => 0, fun _ => True, 0, Lifetime.init_inv, rfl, fun _ _ => trivial, rfl, rfl⟩
  exact (session_heeds wakes ctrlIf calls).sound hinit hrun

/-- The stream on interface 1 is quarantined with two transfers.  A stream on interface 2 is started
after that, fails at its first submission and releases its interface. -/
theorem session_releasesQuiet_other :
    ∃ next w, Relation.ReflTransGen (Step Events)
        (session (sparing 0) 9 0
          [.open, .startStreaming 1 2, .stopStreaming, .startStreaming 2 2], ⟨{}, []⟩)
        (.call (.usb 0 (.releaseInterface 2)) next, w) ∧
      (w.state.heap.xfer 0).phase = .owned ∧ w.state.Quiet 2 := by
  have hrun : Relation.ReflTransGen (Step Events)
      (session (sparing 0) 9 0
        [.open, .startStreaming 1 2, .stopStreaming, .startStreaming 2 2], ⟨{}, []⟩)
      (.call (.usb 0 (.releaseInterface 2)) _, _) :=
    steps_runWith (session (sparing 0) 9 0
        [.open, .startStreaming 1 2, .stopStreaming, .startStreaming 2 2])
      [0, 0, 0, 0, 0, 0, 0, 0, 0, 0, 0, 0, 0, 0, 0, 1, 1, 1, 1, 1, 0, 0, 0, 0, 0, -1, 0] ⟨{}, []⟩
  exact ⟨_, _, hrun, rfl, session_releasesQuiet 9 0 _ _ _ _ _ hrun⟩

/-- Without the condition: the stream on interface 1 is quarantined with two transfers, another one
is started on the same interface and fails at its first submission, and closing that releases the
interface. -/
theorem release_underTransfer :
    ¬ ∀ (wakes ctrlIf : Nat) (calls : List ApiCall) (d i : Nat) (next : Int → CamProg Unit)
      (w : World State Call),
      Relation.ReflTransGen (Step Events) (session anyCall wakes ctrlIf calls, ⟨{}, []⟩)
        (.call (.usb d (.releaseInterface i)) next, w) →
      w.state.Quiet i := by
  intro hall
  have hrun : Relation.ReflTransGen (Step Events)
      (session anyCall 9 0 [.open, .startStreaming 1 2, .stopStreaming, .startStreaming 1 2],
        ⟨{}, []⟩)
      (.call (.usb 0 (.releaseInterface 1)) _, _) :=
    steps_runWith (session anyCall 9 0
        [.open, .startStreaming 1 2, .stopStreaming, .startStreaming 1 2])
      [0, 0, 0, 0, 0, 0, 0, 0, 0, 0, 0, 0, 0, 0, 0, 1, 1, 1, 1, 1, 0, 0, 0, -1, 0] ⟨{}, []⟩
  exact hall 9 0 _ 0 1 _ _ hrun 0 rfl rfl

end Camera
end LibUvc
