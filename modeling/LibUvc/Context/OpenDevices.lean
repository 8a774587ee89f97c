import LibUvc.Context.Handler
import LibUvc.Foundation.LinkedList

/-!
# The list of open devices

`Handler` has `ctx->open_devices` as a list of handles and asks whether it is empty and whether a
handle is the only one.  In the source it is a list of `utlist.h` through the handles themselves,
the questions are comparisons of pointers, and the handles that `uvc_close` takes out of the list
are freed, or kept when they are quarantined.

* `LinkedContext` is the context with the handles in memory; `uvcOpenInternal`, `uvcClose`,
  `uvcAlreadyOpen`, `uvcNumDevices` and `uvcExit` work on it.
* `Handles` is a `UvcContext` of `Handler` together with what the memory holds besides: which device
  each handle is for, and the quarantined handles.
* `Agrees m s` relates the two.  Every call keeps it, with the answers of the list (`call_agrees`),
  so every run does (`calls_agree`).
* `exit_closes_all` is about `uvc_exit`, whose loop closes the devices it walks over, and
  `exit_foreach_traps` about the same loop as `DL_FOREACH`.
-/

set_option autoImplicit false

namespace LibUvc
namespace Context

open LinkedList

/-! ## The context in memory -/

/-- The part of `struct uvc_device_handle` that the walks look at. -/
structure DeviceHandle where
  /-- `dev->usb_dev`. -/
  usbDev : Nat
  deriving DecidableEq, Repr

/-- `UvcContext` with pointers. -/
structure LinkedContext where
  /-- The handles, with the links of `open_devices`. -/
  handles : Heap Nat DeviceHandle
  openDevices : Option Nat := none
  ownUsbCtx : Bool
  killHandlerThread : Bool := false
  hasQuarantinedDevice : Bool := false
  threads : List HandlerThread := []
  handlerThread : Option Nat := none

namespace LinkedContext

/-- As `uvc_init` makes it. -/
def init (ownUsbCtx : Bool) : LinkedContext where
  handles _ := none
  ownUsbCtx := ownUsbCtx

/-- The context of `Handler`, for the list that the pointers make up. -/
def view (m : LinkedContext) (openDevices : List Nat) : UvcContext where
  ownUsbCtx := m.ownUsbCtx
  openDevices := openDevices
  killHandlerThread := m.killHandlerThread
  hasQuarantinedDevice := m.hasQuarantinedDevice
  threads := m.threads
  handlerThread := m.handlerThread

/-- `uvc_start_handler_thread`. -/
def startHandlerThread (created : Bool) (m : LinkedContext) : LinkedContext :=
  if m.ownUsbCtx && created then
    { m with threads := m.threads ++ [.looping], handlerThread := some m.threads.length }
  else m

/-- `pthread_join(ctx->handler_thread)`. -/
def joinHandlerThread (m : LinkedContext) : LinkedContext :=
  match m.handlerThread with
  | some n => { m with threads := m.threads.set n .joined }
  | none => m

/-- `uvc_close` ends the thread when `devh`, which is linked to `next`, is the only open device. -/
def endHandlerThread (devh : Nat) (next : Option Nat) (m : LinkedContext) : LinkedContext :=
  if m.ownUsbCtx && m.openDevices == some devh && next.isNone && !m.hasQuarantinedDevice then
    { m with killHandlerThread := true }.joinHandlerThread
  else m

end LinkedContext

/-- `uvc_open_internal`: the handle is at `devh`, and freed again when something fails. -/
def uvcOpenInternal (devh usbDev : Nat) (ret : Ret) (created : Bool) (m : LinkedContext) :
    Except Trap LinkedContext := do
  let h ← m.handles.alloc devh ⟨usbDev⟩
  if ret ≠ Ret.success then
    let h ← h.free (some devh)
    return { m with handles := h }
  else
    let m :=
      if m.ownUsbCtx && m.openDevices.isNone && !m.hasQuarantinedDevice then
        m.startHandlerThread created
      else m
    let (h, head) ← append h m.openDevices devh
    return { m with handles := h, openDevices := head }

/-- `uvc_close`; `quarantine` is whether a transfer of the device was left behind. -/
def uvcClose (devh : Nat) (quarantine : Bool) (m : LinkedContext) : Except Trap LinkedContext := do
  -- `ctx = devh->dev->ctx`
  let c ← m.handles.load (some devh)
  if quarantine then
    let (h, head) ← delete m.handles m.openDevices devh
    return { m with handles := h, openDevices := head, hasQuarantinedDevice := true }
  else
    let m := m.endHandlerThread devh c.next
    let (h, head) ← delete m.handles m.openDevices devh
    let h ← h.free (some devh)
    return { m with handles := h, openDevices := head }

/-- `uvc_already_open`, from the handle it has come to. -/
def uvcAlreadyOpen (usbDev : Nat) (m : LinkedContext) : Nat → Option Nat → Except Trap Bool
  | _, none => .ok false
  | 0, some _ => .error .endless
  | n + 1, some devh => do
    let c ← m.handles.load (some devh)
    if usbDev = c.value.usbDev then return true
    else uvcAlreadyOpen usbDev m n c.next

/-- `uvc_num_devices`. -/
def uvcNumDevices (n : Nat) (m : LinkedContext) : Except Trap Nat :=
  foreach (fun _ => m.handles) (fun _ count => .ok (count + 1)) n m.openDevices 0

/-- `uvc_exit`; the second component is whether the context was freed. -/
def uvcExit (quarantine : Nat → Bool) (n : Nat) (m : LinkedContext) :
    Except Trap (LinkedContext × Bool) := do
  let m ← foreachSafe LinkedContext.handles (fun devh m => uvcClose devh (quarantine devh) m) n
    m.openDevices m
  if m.hasQuarantinedDevice then return (m, false)
  else return (m, true)

/-- What is done to a context. -/
inductive Call where
  | open (devh usbDev : Nat) (ret : Ret) (created : Bool)
  | close (devh : Nat) (quarantine : Bool)
  /-- A thread finds the kill flag set and returns. -/
  | exit (n : Nat)
  deriving DecidableEq, Repr

def Call.run (m : LinkedContext) : Call → Except Trap LinkedContext
  | .open devh usbDev ret created => uvcOpenInternal devh usbDev ret created m
  | .close devh quarantine => uvcClose devh quarantine m
  | .exit n => .ok { m with threads := m.threads.set n .exited }

/-! ## The context as a list -/

/-- The context of `Handler`, with the device of each handle and the quarantined handles. -/
structure Handles where
  ctx : UvcContext
  usbDev : Nat → Nat := fun _ => 0
  quarantined : List Nat := []

namespace Handles

/-- Nothing is open. -/
def init (ownUsbCtx : Bool) : Handles where
  ctx := { ownUsbCtx := ownUsbCtx }

/-- The handles that the program still has. -/
def live (s : Handles) : List Nat := s.ctx.openDevices ++ s.quarantined

/-- One call, as far as callers and the allocator may go: only open handles are closed, and a new
handle is not one that is still there. -/
def step (s : Handles) (call : Call) : Option Handles :=
  match call with
  | .open devh usbDev ret created =>
    if devh ∈ s.quarantined then none
    else (Context.step s.ctx (.open devh ret created)).map fun c =>
      { s with ctx := c, usbDev := Function.update s.usbDev devh usbDev }
  | .close devh quarantine =>
    (Context.step s.ctx (.close devh quarantine)).map fun c =>
      { s with
        ctx := c
        quarantined := if quarantine then devh :: s.quarantined else s.quarantined }
  | .exit n => (Context.step s.ctx (.exit n)).map fun c => { s with ctx := c }

end Handles

/-! ## They agree -/

/-- The pointers are the list, and the handles in memory are the live ones. -/
structure Agrees (m : LinkedContext) (s : Handles) : Prop where
  list : DList m.handles s.ctx.openDevices
  head : m.openDevices = s.ctx.openDevices.head?
  view : m.view s.ctx.openDevices = s.ctx
  live : ∀ b, (∃ c, m.handles b = some c) ↔ b ∈ s.live
  nodup : s.live.Nodup
  usbDev : ∀ b ∈ s.ctx.openDevices, (m.handles b).map Cell.value = some ⟨s.usbDev b⟩
  flagged : s.ctx.hasQuarantinedDevice = true ↔ s.quarantined ≠ []

theorem init_agrees (ownUsbCtx : Bool) : Agrees (LinkedContext.init ownUsbCtx)
    (Handles.init ownUsbCtx) where
  list := DList.nil _
  head := rfl
  view := rfl
  live b := by simp [LinkedContext.init, Handles.init, Handles.live]
  nodup := List.nodup_nil
  usbDev b hb := absurd hb List.not_mem_nil
  flagged := by simp [Handles.init]

section Calls

variable {m : LinkedContext} {s : Handles}

theorem startHandlerThread_view (m : LinkedContext) (created : Bool) (as : List Nat) :
    (m.startHandlerThread created).view as = startHandlerThread created (m.view as) := by
  rw [LinkedContext.startHandlerThread, startHandlerThread, show (m.view as).ownUsbCtx = m.ownUsbCtx
    from rfl]
  split <;> rfl

theorem joinHandlerThread_view (m : LinkedContext) (as : List Nat) :
    m.joinHandlerThread.view as = joinHandlerThread (m.view as) := by
  rw [LinkedContext.joinHandlerThread, joinHandlerThread, show (m.view as).handlerThread =
    m.handlerThread from rfl]
  cases m.handlerThread <;> rfl

theorem Agrees.exists_cell (h : Agrees m s) {b : Nat} (hb : b ∈ s.ctx.openDevices) :
    ∃ c, m.handles b = some c ∧ c.value = ⟨s.usbDev b⟩ := by
  have hval := h.usbDev b hb
  rw [Option.map_eq_some_iff] at hval
  exact hval

theorem Agrees.vacant (h : Agrees m s) {b : Nat} (hopen : b ∉ s.ctx.openDevices)
    (hq : b ∉ s.quarantined) : m.handles b = none := by
  cases hb : m.handles b with
  | none => rfl
  | some c => exact absurd ((h.live b).1 ⟨c, hb⟩) (by simp [Handles.live, hopen, hq])

/-- A `uvc_open` that fails leaves nothing behind. -/
theorem Agrees.open_fails (h : Agrees m s) {devh usbDev : Nat} {ret : Ret} {created : Bool}
    (hopen : devh ∉ s.ctx.openDevices) (hq : devh ∉ s.quarantined) (hret : ret ≠ Ret.success) :
    uvcOpenInternal devh usbDev ret created m = .ok m := by
  obtain ⟨h₁, hrun₁, hch⟩ := exists_alloc (h.vacant hopen hq) (⟨usbDev⟩ : DeviceHandle)
  obtain ⟨h₂, hrun₂, hgone, hkept⟩ := exists_free hch.here
  have hsame : h₂ = m.handles := by
    funext b
    by_cases hb : b = devh
    · rw [hb, hgone, h.vacant hopen hq]
    · rw [hkept b hb, hch.elsewhere b hb]
  rw [uvcOpenInternal, hrun₁, ok_bind, if_pos hret, hrun₂, hsame]
  rfl

/-- Otherwise the new handle is the last one, and the thread is started if there was none. -/
theorem Agrees.open_succeeds (h : Agrees m s) {devh usbDev : Nat} {created : Bool}
    (hopen : devh ∉ s.ctx.openDevices) (hq : devh ∉ s.quarantined) :
    ∃ m', uvcOpenInternal devh usbDev Ret.success created m = .ok m' ∧
      Agrees m' { s with
        ctx := openInternal devh Ret.success created s.ctx
        usbDev := Function.update s.usbDev devh usbDev } := by
  obtain ⟨h₁, hrun₁, hch⟩ := exists_alloc (h.vacant hopen hq) (⟨usbDev⟩ : DeviceHandle)
  have hlist₁ : DList h₁ s.ctx.openDevices := ⟨h.list.nodup, h.list.seg.changed hch hopen⟩
  obtain ⟨h₂, hrun₂, hlist₂, hrel⟩ := append_ok hlist₁ hopen hch.here
  obtain ⟨m₁, hm₁, hview₁⟩ : ∃ m₁, (if m.ownUsbCtx && m.openDevices.isNone &&
      !m.hasQuarantinedDevice then m.startHandlerThread created else m) = m₁ ∧
      m₁.view s.ctx.openDevices =
        if spawns s.ctx then startHandlerThread created s.ctx else s.ctx := by
    refine ⟨_, rfl, ?_⟩
    have hnone : m.openDevices.isNone = s.ctx.openDevices.isEmpty := by
      rw [h.head]
      cases s.ctx.openDevices <;> rfl
    have hspawns : (m.ownUsbCtx && m.openDevices.isNone && !m.hasQuarantinedDevice) =
        spawns s.ctx := by
      rw [hnone, spawns, ← h.view]
      rfl
    rw [hspawns]
    cases spawns s.ctx with
    | true => exact (startHandlerThread_view m created _).trans (by rw [h.view]; rfl)
    | false => exact h.view
  have hctx : openInternal devh Ret.success created s.ctx =
      { m₁.view s.ctx.openDevices with openDevices := s.ctx.openDevices ++ [devh] } := by
    rw [openInternal, if_neg (by simp), ← hview₁]
    rfl
  have hhead : m₁.openDevices = s.ctx.openDevices.head? := by
    rw [← hm₁, ← h.head, LinkedContext.startHandlerThread]
    split
    · split <;> rfl
    · rfl
  have hflag : m₁.hasQuarantinedDevice = s.ctx.hasQuarantinedDevice := by
    rw [← hm₁, ← h.view, LinkedContext.startHandlerThread]
    split
    · split <;> rfl
    · rfl
  have hvalue : ∀ b, (h₂ b).map Cell.value = (h₁ b).map Cell.value := hrel.values
  refine ⟨{ m₁ with handles := h₂, openDevices := (s.ctx.openDevices ++ [devh]).head? }, ?_, ?_⟩
  · rw [uvcOpenInternal, hrun₁, ok_bind, if_neg (by simp), hm₁]
    show (append h₁ m₁.openDevices devh >>= _) = _
    rw [hhead, hrun₂]
    rfl
  · rw [hctx]
    refine ⟨hlist₂, rfl, rfl, fun b => ?_, ?_, fun b hb => ?_, ?_⟩
    · have hsome : (∃ c, h₂ b = some c) ↔ b = devh ∨ ∃ c, m.handles b = some c := by
        have hval := hvalue b
        by_cases hb : b = devh
        · rw [hb, hch.here, Option.map_some, Option.map_eq_some_iff] at hval
          obtain ⟨c, hc, -⟩ := hval
          exact ⟨fun _ => .inl hb, fun _ => ⟨c, hb ▸ hc⟩⟩
        · rw [hch.elsewhere b hb] at hval
          rw [← Option.isSome_iff_exists, ← Option.isSome_iff_exists, ← Option.isSome_map, hval,
            Option.isSome_map]
          exact ⟨.inr, fun hor => hor.resolve_left hb⟩
      rw [hsome, h.live]
      simp [Handles.live, or_left_comm]
    · have hnd := h.nodup
      rw [Handles.live] at hnd ⊢
      rw [List.append_assoc]
      exact List.nodup_middle.2 (List.nodup_cons.2 ⟨by simp [hopen, hq], hnd⟩)
    · show (h₂ b).map Cell.value = some ⟨Function.update s.usbDev devh usbDev b⟩
      rw [hvalue]
      rcases List.mem_append.1 hb with hb | hb
      · have hne : b ≠ devh := fun heq => hopen (heq ▸ hb)
        rw [hch.elsewhere b hne, Function.update_of_ne hne]
        exact h.usbDev b hb
      · rw [List.mem_singleton.1 hb, hch.here, Function.update_self]
        rfl
    · show m₁.hasQuarantinedDevice = true ↔ _
      rw [hflag]
      exact h.flagged

/-- The two comparisons of `uvc_close` ask whether the handle is the only one. -/
theorem Agrees.only (h : Agrees m s) {devh : Nat} (hd : devh ∈ s.ctx.openDevices)
    {c : Cell Nat DeviceHandle} (hc : m.handles devh = some c) :
    (m.openDevices == some devh && c.next.isNone) = (s.ctx.openDevices == [devh]) := by
  rw [Bool.eq_iff_iff, Bool.and_eq_true, beq_iff_eq, beq_iff_eq, Option.isNone_iff_eq_none, h.head]
  exact h.list.only_iff hd hc

theorem joinHandlerThread_handles (m : LinkedContext) : m.joinHandlerThread.handles = m.handles ∧
    m.joinHandlerThread.openDevices = m.openDevices := by
  rw [LinkedContext.joinHandlerThread]
  split <;> exact ⟨rfl, rfl⟩

/-- So the thread is ended as in `Handler`. -/
theorem Agrees.endHandlerThread (h : Agrees m s) {devh : Nat} (hd : devh ∈ s.ctx.openDevices)
    {c : Cell Nat DeviceHandle} (hc : m.handles devh = some c) :
    ((m.endHandlerThread devh c.next).view s.ctx.openDevices =
      if s.ctx.ownUsbCtx && s.ctx.openDevices == [devh] && !s.ctx.hasQuarantinedDevice then
        joinHandlerThread { s.ctx with killHandlerThread := true }
      else s.ctx) ∧
    (m.endHandlerThread devh c.next).handles = m.handles ∧
    (m.endHandlerThread devh c.next).openDevices = m.openDevices := by
  have hcond : (m.ownUsbCtx && m.openDevices == some devh && c.next.isNone &&
      !m.hasQuarantinedDevice) = (s.ctx.ownUsbCtx && s.ctx.openDevices == [devh] &&
      !s.ctx.hasQuarantinedDevice) := by
    rw [Bool.and_assoc m.ownUsbCtx, h.only hd hc]
    conv_rhs => rw [← h.view]
    rfl
  rw [LinkedContext.endHandlerThread, hcond]
  split
  · refine ⟨(joinHandlerThread_view _ _).trans ?_, joinHandlerThread_handles _⟩
    conv_rhs => rw [← h.view]
    rfl
  · exact ⟨h.view, rfl, rfl⟩

/-- **`uvc_close` takes the handle out of the list**, and frees it unless it is quarantined. -/
theorem Agrees.close (h : Agrees m s) {devh : Nat} (hd : devh ∈ s.ctx.openDevices)
    (quarantine : Bool) :
    ∃ m', uvcClose devh quarantine m = .ok m' ∧ Agrees m' { s with
      ctx := close devh quarantine s.ctx
      quarantined := if quarantine then devh :: s.quarantined else s.quarantined } ∧
      m'.handles devh = if quarantine then m.handles devh else none := by
  obtain ⟨c, hc, -⟩ := h.exists_cell hd
  obtain ⟨l, r, hlr⟩ := List.append_of_mem hd
  have hlist := h.list
  rw [hlr] at hlist
  have hnot : devh ∉ l ++ r := (List.nodup_cons.1 (List.nodup_middle.1 hlist.nodup)).1
  have herase : s.ctx.openDevices.erase devh = l ++ r := by
    rw [hlr, List.erase_append_right _ fun hl => hnot (List.mem_append_left _ hl),
      List.erase_cons_head]
  have hsub : ∀ b ∈ l ++ r, b ∈ s.ctx.openDevices ∧ b ≠ devh := by
    intro b hb
    refine ⟨?_, fun heq => hnot (heq ▸ hb)⟩
    rw [hlr, List.mem_append, List.mem_cons]
    exact (List.mem_append.1 hb).imp_right .inr
  have hlive : s.live.Perm (devh :: ((l ++ r) ++ s.quarantined)) := by
    rw [Handles.live, hlr, List.append_assoc, List.append_assoc]
    exact List.perm_middle
  have hnd := hlive.nodup_iff.1 h.nodup
  obtain ⟨h₁, hrun₁, hlist₁, hrel, hsame⟩ := delete_ok hlist
  rw [← hlr, ← h.head] at hrun₁
  have hvalue := hrel.values
  have hsome : ∀ b, (∃ c, h₁ b = some c) ↔ b ∈ s.live := fun b => by
    rw [← h.live, ← Option.isSome_iff_exists, ← Option.isSome_iff_exists, ← Option.isSome_map,
      hvalue b, Option.isSome_map]
  have hkept : ∀ b ∈ l ++ r, (h₁ b).map Cell.value = some ⟨s.usbDev b⟩ := fun b hb => by
    rw [hvalue]
    exact h.usbDev b (hsub b hb).1
  cases quarantine with
  | true =>
    have hctx : Context.close devh true s.ctx =
        { s.ctx with openDevices := l ++ r, hasQuarantinedDevice := true } := by
      rw [Context.close, if_pos rfl, herase]
    refine ⟨{ m with
      handles := h₁
      openDevices := (l ++ r).head?
      hasQuarantinedDevice := true }, ?_, ?_, hsame⟩
    · rw [uvcClose, load_ok hc, ok_bind, if_pos rfl, hrun₁]
      rfl
    · rw [hctx]
      refine ⟨hlist₁, rfl, ?_, fun b => ?_, ?_, hkept, by simp⟩
      · rw [← h.view]
        rfl
      · rw [hsome, hlive.mem_iff]
        simp [Handles.live, or_left_comm]
      · exact List.nodup_middle.2 hnd
  | false =>
    obtain ⟨hview₁, hhandles₁, hhead₁⟩ := h.endHandlerThread hd hc
    generalize hm₁ : m.endHandlerThread devh c.next = m₁ at hview₁ hhandles₁ hhead₁
    obtain ⟨c₁, hc₁⟩ := (hsome devh).2 (hlive.mem_iff.2 List.mem_cons_self)
    obtain ⟨h₂, hrun₂, hgone, hrest⟩ := exists_free hc₁
    have hctx : Context.close devh false s.ctx =
        { m₁.view s.ctx.openDevices with openDevices := l ++ r } := by
      rw [Context.close, if_neg (by simp), ← hview₁]
      show { m₁.view s.ctx.openDevices with openDevices := s.ctx.openDevices.erase devh } = _
      rw [herase]
    refine ⟨{ m₁ with handles := h₂, openDevices := (l ++ r).head? }, ?_, ?_, hgone⟩
    · rw [uvcClose, load_ok hc, ok_bind, if_neg (by simp), hm₁]
      show (delete m₁.handles m₁.openDevices devh >>= _) = _
      rw [hhandles₁, hhead₁, hrun₁, ok_bind]
      show (h₁.free (some devh) >>= _) = _
      rw [hrun₂]
      rfl
    · rw [hctx]
      refine ⟨⟨hlist₁.nodup, hlist₁.seg.congr_cells fun b hb => hrest b (hsub b hb).2⟩, rfl, rfl,
        fun b => ?_, (List.nodup_cons.1 hnd).2, fun b hb => ?_, ?_⟩
      · show (∃ c, h₂ b = some c) ↔ b ∈ (l ++ r) ++ s.quarantined
        by_cases hb : b = devh
        · rw [hb, hgone]
          exact iff_of_false (by simp) (List.nodup_cons.1 hnd).1
        · rw [hrest b hb, hsome, hlive.mem_iff, List.mem_cons]
          exact ⟨fun hor => hor.resolve_left hb, .inr⟩
      · show (h₂ b).map Cell.value = _
        rw [hrest b (hsub b hb).2]
        exact hkept b hb
      · show (m₁.view s.ctx.openDevices).hasQuarantinedDevice = true ↔ s.quarantined ≠ []
        rw [hview₁, ← h.flagged]
        split
        · rw [joinHandlerThread]
          split <;> rfl
        · rfl

/-- **Every call agrees.** -/
theorem Agrees.call (h : Agrees m s) {call : Call} {t : Handles} (hstep : s.step call = some t) :
    ∃ m', call.run m = .ok m' ∧ Agrees m' t := by
  cases call with
  | «open» devh usbDev ret created =>
    rw [Handles.step] at hstep
    split at hstep
    · cases hstep
    · rename_i hq
      rw [Context.step] at hstep
      split at hstep
      · cases hstep
      · rename_i hopen
        obtain rfl := Option.some.inj hstep
        by_cases hret : ret = Ret.success
        · subst hret
          exact h.open_succeeds hopen hq
        · have hctx : openInternal devh ret created s.ctx = s.ctx := by
            rw [openInternal, if_pos hret]
          refine ⟨m, h.open_fails hopen hq hret, ?_⟩
          rw [hctx]
          refine ⟨h.list, h.head, h.view, h.live, h.nodup, fun b hb => ?_, h.flagged⟩
          show _ = some (⟨Function.update s.usbDev devh usbDev b⟩ : DeviceHandle)
          have hne : b ≠ devh := fun heq => hopen (heq ▸ hb)
          rw [Function.update_of_ne hne]
          exact h.usbDev b hb
  | close devh quarantine =>
    rw [Handles.step, Context.step] at hstep
    by_cases hd : devh ∈ s.ctx.openDevices
    · rw [if_pos hd] at hstep
      obtain rfl := Option.some.inj hstep
      obtain ⟨m', hrun, h', -⟩ := h.close hd quarantine
      exact ⟨m', hrun, h'⟩
    · rw [if_neg hd] at hstep
      cases hstep
  | exit n =>
    rw [Handles.step, Context.step] at hstep
    split at hstep
    · obtain rfl := Option.some.inj hstep
      refine ⟨_, rfl, h.list, h.head, ?_, h.live, h.nodup, h.usbDev, h.flagged⟩
      have hview := h.view
      show _ = { s.ctx with threads := s.ctx.threads.set n .exited }
      rw [← h.view]
      rfl
    · cases hstep

/-- **Every run agrees**: no call follows a null pointer, touches a handle that has been freed, or
frees one twice. -/
theorem Agrees.calls (calls : List Call) : ∀ {m : LinkedContext} {s t : Handles}, Agrees m s →
    calls.foldlM Handles.step s = some t →
      ∃ m', calls.foldlM Call.run m = .ok m' ∧ Agrees m' t := by
  induction calls with
  | nil =>
    intro m s t h hrun
    obtain rfl := Option.some.inj hrun
    exact ⟨m, rfl, h⟩
  | cons call calls ih =>
    intro m s t h hrun
    rw [List.foldlM_cons] at hrun
    obtain ⟨s₁, hs₁, hrest⟩ := Option.bind_eq_some_iff.1 hrun
    obtain ⟨m₁, hm₁, h₁⟩ := h.call hs₁
    obtain ⟨m', hm', h'⟩ := ih h₁ hrest
    refine ⟨m', ?_, h'⟩
    rw [List.foldlM_cons, hm₁]
    exact hm'

/-! ## The walks -/

theorem Agrees.numDevices (h : Agrees m s) {n : Nat} (hn : s.ctx.openDevices.length ≤ n) :
    uvcNumDevices n m = .ok s.ctx.openDevices.length := by
  obtain ⟨count, hrun, as, hall, hcount⟩ := foreach_ok (fun _ => m.handles)
    (fun (_ : Nat) (count : Nat) => .ok (count + 1))
    (I := fun (rest : List Nat) (count : Nat) => ∃ as, s.ctx.openDevices = as ++ rest ∧
      count = as.length)
    (fun a rest count hi => by
      obtain ⟨as, hall, hcount⟩ := hi
      obtain ⟨c, hc, -⟩ := h.exists_cell (b := a) (by rw [hall]; simp)
      refine ⟨count + 1, rfl, ⟨as ++ [a], by simp [hall], by simp [hcount]⟩, c, hc, ?_⟩
      exact (hall ▸ h.list : DList m.handles (as ++ a :: rest)).next hc)
    n s.ctx.openDevices 0 hn ⟨[], rfl, rfl⟩
  rw [List.append_nil] at hall
  rw [uvcNumDevices, h.head, hrun, hcount, hall]

theorem alreadyOpen_from (h : Agrees m s) (usbDev : Nat) (n : Nat) : ∀ as rest : List Nat,
    s.ctx.openDevices = as ++ rest → rest.length ≤ n →
    uvcAlreadyOpen usbDev m n rest.head? = .ok (decide (∃ d ∈ rest, s.usbDev d = usbDev)) := by
  induction n with
  | zero =>
    intro as rest hall hn
    obtain rfl := List.length_eq_zero_iff.1 (Nat.le_zero.1 hn)
    exact congrArg Except.ok (by simp)
  | succ n ih =>
    intro as rest hall hn
    cases rest with
    | nil => exact congrArg Except.ok (by simp)
    | cons d rest =>
      obtain ⟨c, hc, hval⟩ := h.exists_cell (b := d) (by rw [hall]; simp)
      rw [List.head?_cons, uvcAlreadyOpen, load_ok hc, ok_bind, hval]
      by_cases hd : usbDev = s.usbDev d
      · rw [if_pos hd]
        exact congrArg Except.ok (by simp [hd])
      · rw [if_neg hd, (hall ▸ h.list : DList m.handles (as ++ d :: rest)).next hc,
          ih (as ++ [d]) rest (by simp [hall]) (Nat.le_of_succ_le_succ hn)]
        have hne : s.usbDev d ≠ usbDev := fun heq => hd heq.symm
        simp [hne]

theorem close_openDevices (devh : Nat) (quarantine : Bool) (c : UvcContext) :
    (Context.close devh quarantine c).openDevices = c.openDevices.erase devh := by
  have hjoin : ∀ d : UvcContext, (joinHandlerThread d).openDevices = d.openDevices := fun d => by
    rw [joinHandlerThread]
    split <;> rfl
  rw [Context.close]
  split
  · rfl
  · show (UvcContext.openDevices _).erase devh = _
    split
    · rw [hjoin]
    · rfl

/-- **The loop of `uvc_exit`.** -/
theorem Agrees.closeAll (h : Agrees m s) (quarantine : Nat → Bool) {n : Nat}
    (hn : s.ctx.openDevices.length ≤ n) :
    ∃ m' t, foreachSafe LinkedContext.handles (fun devh m => uvcClose devh (quarantine devh) m) n
      m.openDevices m = .ok m' ∧ Agrees m' t ∧ t.ctx.openDevices = [] ∧
      ∀ b, b ∈ t.quarantined ↔ b ∈ s.quarantined ∨ b ∈ s.ctx.openDevices ∧ quarantine b = true := by
  obtain ⟨m', hrun, done, t, hall, ht, hempty, hq⟩ := foreachSafe_ok LinkedContext.handles
    (fun devh m => uvcClose devh (quarantine devh) m)
    (I := fun rest m => ∃ done t, s.ctx.openDevices = done ++ rest ∧ Agrees m t ∧
      t.ctx.openDevices = rest ∧
      ∀ b, b ∈ t.quarantined ↔ b ∈ s.quarantined ∨ b ∈ done ∧ quarantine b = true)
    (fun a rest m hi => by
      obtain ⟨done, t, -, ht, hrest, -⟩ := hi
      obtain ⟨c, hc, -⟩ := ht.exists_cell (b := a) (by rw [hrest]; simp)
      exact ⟨c, hc, (hrest ▸ ht.list : DList m.handles ([] ++ a :: rest)).next hc⟩)
    (fun a rest m hi => by
      obtain ⟨done, t, hall, ht, hrest, hq⟩ := hi
      have ha : a ∈ t.ctx.openDevices := by rw [hrest]; exact List.mem_cons_self
      obtain ⟨m', hrun, ht', -⟩ := ht.close ha (quarantine a)
      refine ⟨m', hrun, done ++ [a], _, by rw [hall, List.append_assoc]; rfl, ht', ?_, fun b => ?_⟩
      · rw [close_openDevices, hrest, List.erase_cons_head]
      · cases hqa : quarantine a with
        | true =>
          by_cases hba : b = a <;> simp [hq, hqa, hba]
        | false =>
          by_cases hba : b = a <;> simp [hq, hqa, hba])
    n s.ctx.openDevices m hn ⟨[], s, rfl, h, rfl, fun b => by simp⟩
  rw [List.append_nil] at hall
  refine ⟨m', t, ?_, ht, hempty, fun b => ?_⟩
  · rw [h.head]
    exact hrun
  · rw [hq, hall]

/-- `DL_FOREACH` instead would follow the link of a handle that is gone, unless every open device is
quarantined. -/
theorem exit_foreach_traps (quarantine : Nat → Bool) (n : Nat) : ∀ (rest : List Nat)
    {m : LinkedContext} {t : Handles}, Agrees m t → t.ctx.openDevices = rest → rest.length ≤ n →
    (∃ d ∈ rest, quarantine d = false) →
    foreach LinkedContext.handles (fun devh m => uvcClose devh (quarantine devh) m) n
      rest.head? m = .error .notAllocated := by
  induction n with
  | zero =>
    intro rest m t ht hrest hn hd
    obtain rfl := List.length_eq_zero_iff.1 (Nat.le_zero.1 hn)
    obtain ⟨d, hd, -⟩ := hd
    exact absurd hd List.not_mem_nil
  | succ n ih =>
    intro rest m t ht hrest hn hd
    cases rest with
    | nil =>
      obtain ⟨d, hd, -⟩ := hd
      exact absurd hd List.not_mem_nil
    | cons a rest =>
      have ha : a ∈ t.ctx.openDevices := by rw [hrest]; exact List.mem_cons_self
      obtain ⟨m', hrun, ht', hcell⟩ := ht.close ha (quarantine a)
      cases hqa : quarantine a with
      | false =>
        rw [hqa] at hcell
        exact foreach_freed _ _ hrun hcell
      | true =>
        rw [hqa, if_pos rfl] at hcell
        obtain ⟨c, hc, -⟩ := ht.exists_cell ha
        have hnext : c.next = rest.head? :=
          (hrest ▸ ht.list : DList m.handles ([] ++ a :: rest)).next hc
        have hrest' := close_openDevices a (quarantine a) t.ctx
        rw [hrest, List.erase_cons_head] at hrest'
        have hlater : ∃ d ∈ rest, quarantine d = false := by
          obtain ⟨d, hd, hqd⟩ := hd
          refine ⟨d, (List.mem_cons.1 hd).resolve_left fun heq => ?_, hqd⟩
          rw [heq, hqa] at hqd
          exact absurd hqd (by simp)
        rw [List.head?_cons, foreach, hrun, ok_bind, load_ok (hcell.trans hc), ok_bind, hnext]
        exact ih rest ht' hrest' (Nat.le_of_succ_le_succ hn) hlater

end Calls

/-- **`uvc_exit` closes every open device exactly once**, after any calls that the callers of the
library may make.  Up to then the handler thread is as in `Handler`, a device is found open as long
as one of its handles is, and the number of open devices is right.  What is left of the handles are
the quarantined ones, and the context is freed just when there are none. -/
theorem exit_closes_all (ownUsbCtx : Bool) {calls : List Call} {s : Handles}
    (hcalls : calls.foldlM Handles.step (Handles.init ownUsbCtx) = some s) (quarantine : Nat → Bool)
    {n : Nat} (hn : s.ctx.openDevices.length ≤ n) :
    ∃ m m' freed, calls.foldlM Call.run (LinkedContext.init ownUsbCtx) = .ok m ∧
      m.view s.ctx.openDevices = s.ctx ∧
      (∀ usbDev, uvcAlreadyOpen usbDev m n m.openDevices =
        .ok (decide (∃ d ∈ s.ctx.openDevices, s.usbDev d = usbDev))) ∧
      uvcNumDevices n m = .ok s.ctx.openDevices.length ∧
      uvcExit quarantine n m = .ok (m', freed) ∧ m'.openDevices = none ∧
      (∀ b, (∃ c, m'.handles b = some c) ↔
        b ∈ s.quarantined ∨ b ∈ s.ctx.openDevices ∧ quarantine b = true) ∧
      (freed = true ↔ ∀ b, m'.handles b = none) := by
  obtain ⟨m, hrun, h⟩ := (init_agrees ownUsbCtx).calls calls hcalls
  obtain ⟨m', t, hexit, ht, hempty, hq⟩ := h.closeAll quarantine hn
  have hlive : ∀ b, (∃ c, m'.handles b = some c) ↔ b ∈ t.quarantined := fun b => by
    rw [ht.live, Handles.live, hempty, List.nil_append]
  have hflag : m'.hasQuarantinedDevice = true ↔ t.quarantined ≠ [] := by
    rw [← ht.flagged, ← ht.view]
    rfl
  refine ⟨m, m', !m'.hasQuarantinedDevice, hrun, h.view, fun usbDev => ?_, h.numDevices hn, ?_, ?_,
    fun b => (hlive b).trans (hq b), ?_⟩
  · rw [h.head]
    exact alreadyOpen_from h usbDev n [] s.ctx.openDevices rfl hn
  · rw [uvcExit, hexit, ok_bind]
    cases m'.hasQuarantinedDevice <;> rfl
  · rw [ht.head, hempty]
    rfl
  · rw [Bool.not_eq_true', Bool.eq_false_iff, Ne, hflag, not_not]
    refine ⟨fun hnil b => ?_, fun hnone => ?_⟩
    · by_contra hb
      have hmem := (hlive b).1 (Option.ne_none_iff_exists'.1 hb)
      rw [hnil] at hmem
      exact List.not_mem_nil hmem
    · refine List.eq_nil_iff_forall_not_mem.2 fun b hb => ?_
      obtain ⟨c, hc⟩ := (hlive b).2 hb
      rw [hnone b] at hc
      exact absurd hc (by simp)

/-- Three devices are opened and one of them is closed; of the others one is quarantined. -/
theorem exit_closes_all_three : ∃ m m' freed,
    [Call.open 1 7 Ret.success true, .open 2 8 Ret.success true, .open 3 9 Ret.success true,
      .close 2 false].foldlM Call.run (LinkedContext.init true) = .ok m ∧
    uvcAlreadyOpen 8 m 2 m.openDevices = .ok false ∧ uvcNumDevices 2 m = .ok 2 ∧
    uvcExit (fun b => b == 3) 2 m = .ok (m', freed) ∧
    ∀ b, (∃ c, m'.handles b = some c) ↔ b = 3 := by
  obtain ⟨m, m', freed, hrun, -, halready, hnum, hexit, -, hleft, -⟩ := exit_closes_all true
    (show [Call.open 1 7 Ret.success true, .open 2 8 Ret.success true, .open 3 9 Ret.success true,
      .close 2 false].foldlM Handles.step (Handles.init true) = some _ from rfl) (fun b => b == 3)
    (n := 2) (by decide)
  refine ⟨m, m', freed, hrun, (halready 8).trans (by decide), hnum, hexit, fun b => ?_⟩
  rw [hleft]
  constructor
  · rintro (hb | ⟨-, hb⟩)
    · exact absurd hb List.not_mem_nil
    · exact eq_of_beq hb
  · rintro rfl
    exact .inr ⟨by decide, rfl⟩

end Context
end LibUvc
