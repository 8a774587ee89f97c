import LibUvc.Foundation.Transition
import LibUvc.Stream.Bounds

/-!
# The control block of a stream and the buffers it sizes

`uvc_stream_open_ctrl` allocates the two frame buffers for the `dwMaxVideoFrameSize` of the block it
is given, and `_uvc_process_payload` clamps its copies by the `dwMaxVideoFrameSize` of the block the
stream has *now*.  Between the two stands `uvc_stream_ctrl`, which is there to reconfigure a stream:
it replaces the block and leaves the buffers alone.

The file follows a stream handle through `uvc_stream_open_ctrl`, `uvc_stream_ctrl`,
`uvc_stream_start`, `uvc_stream_stop` and the payloads that arrive in between, and asks when both
buffers can hold what the current block promises (`Assembly.Roomy`).  They do as long as the buffers
could be allocated and no later block asks for more than the first (`stream_roomy`); a block that
asks for more is accepted all the same, and a camera that then sends a longer frame makes the
library write past the end of `outbuf` (`reconfigure_overflow`).
-/

set_option autoImplicit false

namespace LibUvc
namespace Stream

open Checked Transition

/-! ## The handle and its operations -/

/-- A stream handle.  `openCtrl` is the block the stream was opened with, which the source does not
keep. -/
structure StreamHandle where
  /-- `stream_if->bInterfaceNumber`. -/
  ifNum : UInt8
  running : Bool := false
  openCtrl : StreamCtrl
  asm : Assembly
  deriving DecidableEq, Repr

/-- `uvc_query_stream_ctrl(..., UVC_SET_CUR)`: `transfer` is the answer of
`libusb_control_transfer`, and a transfer of no bytes counts as a success. -/
def setCur (transfer : Int) : Ret := if transfer ≤ 0 then transfer else Ret.success

/-- `uvc_stream_ctrl`. -/
def streamCtrl (ctrl : StreamCtrl) (transfer : Int) (h : StreamHandle) : Ret × StreamHandle :=
  if h.ifNum ≠ ctrl.bInterfaceNumber then (Ret.errorInvalidParam, h)
  else if h.running then (Ret.errorBusy, h)
  else if setCur transfer ≠ Ret.success then (setCur transfer, h)
  else (Ret.success, { h with asm := { h.asm with curCtrl := ctrl } })

/-- The object `malloc(size)` returns: `size` bytes of whatever was there, or `NULL`, which is an
object of no bytes. -/
def malloc (size : Nat) : Option (Nat → UInt8) → List UInt8
  | some junk => (List.range size).map junk
  | none => []

@[simp] theorem length_malloc_some (size : Nat) (junk : Nat → UInt8) :
    (malloc size (some junk)).length = size := by
  rw [malloc, List.length_map, List.length_range]

/-- What `uvc_stream_open_ctrl` meets on its way. -/
structure OpenEnv where
  /-- `devh->is_isight`. -/
  isIsight : Bool
  /-- The device has a streaming interface of the number asked for. -/
  hasInterface : Bool
  /-- `calloc` of the handle succeeds. -/
  calloc : Bool
  /-- The answer of `uvc_claim_if`. -/
  claim : Ret
  /-- The answer of `libusb_control_transfer`. -/
  transfer : Int
  outbuf : Option (Nat → UInt8)
  holdbuf : Option (Nat → UInt8)
  metaOutbuf : Option (Nat → UInt8)
  metaHoldbuf : Option (Nat → UInt8)

/-- A handle fresh from `calloc`. -/
def callocHandle (isIsight : Bool) (ctrl : StreamCtrl) : StreamHandle where
  ifNum := ctrl.bInterfaceNumber
  openCtrl := ctrl
  asm := { isIsight := isIsight, curCtrl := {}, outbuf := [], holdbuf := [], metaOutbuf := []
           metaHoldbuf := [] }

/-- `uvc_stream_open_ctrl` on an interface that has no stream yet. -/
def streamOpenCtrl (ctrl : StreamCtrl) (env : OpenEnv) : Ret × Option StreamHandle :=
  if !env.hasInterface then (Ret.errorInvalidParam, none)
  else if !env.calloc then (Ret.errorNoMem, none)
  else if env.claim ≠ Ret.success then (env.claim, none)
  else
    match streamCtrl ctrl env.transfer (callocHandle env.isIsight ctrl) with
    | (ret, h) =>
      if ret ≠ Ret.success then (ret, none)
      else
        let size := ctrl.dwMaxVideoFrameSize.toNat
        (Ret.success, some { h with
          running := false
          asm := { h.asm with
            outbuf := malloc size env.outbuf
            holdbuf := malloc size env.holdbuf
            metaOutbuf := malloc xferMetaBufSize env.metaOutbuf
            metaHoldbuf := malloc xferMetaBufSize env.metaHoldbuf } })

/-- How `uvc_stream_start` ends: on its `fail` label, with some transfers submitted, or with none,
in which case it reports an error and leaves `running` set. -/
inductive StartOutcome where
  | failed (ret : Ret)
  | submitted
  | noTransfers
  deriving DecidableEq, Repr

/-- `uvc_stream_start`, as far as the frame buffers are concerned. -/
def streamStart (outcome : StartOutcome) (h : StreamHandle) : Ret × StreamHandle :=
  if h.running then (Ret.errorBusy, h)
  else
    let h' := { h with
      running := true
      asm := { h.asm with seq := 1, fid := 0, pts := 0, lastScr := 0 } }
    match outcome with
    | .failed ret => (ret, { h' with running := false })
    | .submitted => (Ret.success, h')
    | .noTransfers => (Ret.errorIo, h')

/-- `uvc_stream_stop`; `ret` is how its wait for the transfers ended. -/
def streamStop (ret : Ret) (h : StreamHandle) : Ret × StreamHandle :=
  if !h.running then (Ret.errorInvalidParam, h) else (ret, { h with running := false })

/-- What can happen to a stream. -/
inductive StreamAction where
  | openCtrl (ctrl : StreamCtrl) (env : OpenEnv)
  | ctrl (ctrl : StreamCtrl) (transfer : Int)
  | start (outcome : StartOutcome)
  | stop (ret : Ret)
  /-- A payload arrives. -/
  | payload (bytes : List UInt8)

/-- One action on a stream that is open or not.  Opening it twice is refused with
`UVC_ERROR_BUSY`; a payload that makes the code leave its buffers has no successor. -/
def streamStep : Option StreamHandle → StreamAction → Option (Option StreamHandle)
  | none, .openCtrl ctrl env => some (streamOpenCtrl ctrl env).2
  | some h, .openCtrl _ _ => some (some h)
  | some h, .ctrl ctrl transfer => some (some (streamCtrl ctrl transfer h).2)
  | some h, .start outcome => some (some (streamStart outcome h).2)
  | some h, .stop ret => some (some (streamStop ret h).2)
  | some h, .payload bytes =>
    match processPayload h.asm bytes with
    | .ok (asm, _) => some (some { h with asm := asm })
    | .error _ => none
  | none, _ => none

/-! ## What payloads do to the buffers -/

/-- Both buffers can hold a frame of the size the current block promises. -/
def Assembly.Roomy (s : Assembly) : Prop :=
  s.maxVideoFrameSize.toNat ≤ s.outbuf.length ∧ s.maxVideoFrameSize.toNat ≤ s.holdbuf.length

instance (s : Assembly) : Decidable s.Roomy := inferInstanceAs (Decidable (_ ∧ _))

/-- The same control block, and two buffers of the same sizes, in either order. -/
def SameRoom (s t : Assembly) : Prop :=
  t.curCtrl = s.curCtrl ∧
    ((t.outbuf.length = s.outbuf.length ∧ t.holdbuf.length = s.holdbuf.length) ∨
      (t.outbuf.length = s.holdbuf.length ∧ t.holdbuf.length = s.outbuf.length))

theorem SameRoom.refl (s : Assembly) : SameRoom s s := ⟨rfl, Or.inl ⟨rfl, rfl⟩⟩

theorem SameRoom.trans {s t u : Assembly} (h : SameRoom s t) (h' : SameRoom t u) :
    SameRoom s u := by
  obtain ⟨hc, hl⟩ := h
  obtain ⟨hc', hl'⟩ := h'
  refine ⟨hc'.trans hc, ?_⟩
  rcases hl with ⟨h1, h2⟩ | ⟨h1, h2⟩ <;> rcases hl' with ⟨h3, h4⟩ | ⟨h3, h4⟩
  · exact Or.inl ⟨h3.trans h1, h4.trans h2⟩
  · exact Or.inr ⟨h3.trans h2, h4.trans h1⟩
  · exact Or.inr ⟨h3.trans h1, h4.trans h2⟩
  · exact Or.inl ⟨h3.trans h2, h4.trans h1⟩

theorem swapIf_sameRoom (due : Bool) (s : Assembly) : SameRoom s (swapIf due s).1 := by
  cases due with
  | false => exact SameRoom.refl s
  | true => exact ⟨rfl, Or.inr ⟨rfl, rfl⟩⟩

/-- A copy that lands leaves the object as long as it was. -/
theorem length_of_blit {buf src out : List UInt8} {off : Nat} (h : blit buf off src = .ok out) :
    out.length = buf.length := by
  rw [blit] at h
  split at h
  · rename_i hle
    obtain rfl := Except.ok.inj h
    exact length_blit hle
  · exact absurd h (by simp)

theorem noteMetadata_sameRoom {s t : Assembly} {payload : List UInt8} {headerLen off : Nat}
    (h : noteMetadata s payload headerLen off = .ok t) : SameRoom s t := by
  rw [noteMetadata] at h
  split at h
  · simp only [bind_eq_ok] at h
    obtain ⟨_, _, _, _, _, _, _, _, h⟩ := h
    obtain rfl := Except.ok.inj h
    exact ⟨rfl, Or.inl ⟨rfl, rfl⟩⟩
  · obtain rfl := Except.ok.inj h
    exact SameRoom.refl s

theorem notePts_sameRoom {s t : Assembly} {payload : List UInt8} {headerLen : Nat} {info : UInt8}
    (h : notePts s payload headerLen info = .ok t) : SameRoom s t := by
  rw [notePts] at h
  split at h
  · obtain ⟨_, _, h⟩ := bind_eq_ok.1 h
    obtain rfl := Except.ok.inj h
    exact ⟨rfl, Or.inl ⟨rfl, rfl⟩⟩
  · obtain rfl := Except.ok.inj h
    exact SameRoom.refl s

theorem noteScr_sameRoom {s t : Assembly} {payload : List UInt8} {headerLen : Nat} {info : UInt8}
    (h : noteScr s payload headerLen info = .ok t) : SameRoom s t := by
  rw [noteScr] at h
  split at h
  · obtain ⟨_, _, h⟩ := bind_eq_ok.1 h
    obtain rfl := Except.ok.inj h
    exact ⟨rfl, Or.inl ⟨rfl, rfl⟩⟩
  · obtain rfl := Except.ok.inj h
    exact SameRoom.refl s

theorem noteHeader_sameRoom {s t : Assembly} {payload : List UInt8} {headerLen : Nat}
    {info : UInt8} (h : noteHeader s payload headerLen info = .ok t) : SameRoom s t := by
  rw [noteHeader] at h
  split at h
  · obtain rfl := Except.ok.inj h
    exact SameRoom.refl s
  · simp only [bind_eq_ok] at h
    obtain ⟨s1, h1, s2, h2, h3⟩ := h
    have hfid : SameRoom s { s with fid := info &&& 1 } := ⟨rfl, Or.inl ⟨rfl, rfl⟩⟩
    exact ((hfid.trans (notePts_sameRoom h1)).trans (noteScr_sameRoom h2)).trans
      (noteMetadata_sameRoom h3)

theorem appendData_sameRoom {s : Assembly} {payload : List UInt8} {headerLen dataLen : Nat}
    {info : UInt8} {r : Assembly × Bool}
    (h : appendData s payload headerLen dataLen info = .ok r) : SameRoom s r.1 := by
  rw [appendData] at h
  split at h
  · simp only [bind_eq_ok] at h
    obtain ⟨_, _, _, _, out, hout, h⟩ := h
    obtain rfl := Except.ok.inj h
    exact ⟨rfl, Or.inl ⟨length_of_blit hout, rfl⟩⟩
  · obtain rfl := Except.ok.inj h
    exact SameRoom.refl s

/-- A payload that is processed at all leaves the buffers at their sizes, whatever they are. -/
theorem processPayload_sameRoom {s : Assembly} {payload : List UInt8}
    {r : Assembly × List Published} (h : processPayload s payload = .ok r) : SameRoom s r.1 := by
  rw [processPayload] at h
  obtain ⟨sp, _, h⟩ := bind_eq_ok.1 h
  cases sp with
  | none =>
    obtain rfl := Except.ok.inj h
    exact SameRoom.refl s
  | some lengths =>
    obtain ⟨i, _, h⟩ := bind_eq_ok.1 h
    cases i with
    | none =>
      obtain rfl := Except.ok.inj h
      exact ⟨rfl, Or.inl ⟨rfl, rfl⟩⟩
    | some info =>
      simp only [bind_eq_ok] at h
      obtain ⟨s1, h1, r2, h2, h⟩ := h
      obtain rfl := Except.ok.inj h
      exact (((swapIf_sameRoom _ s).trans (noteHeader_sameRoom h1)).trans
        (appendData_sameRoom h2)).trans (swapIf_sameRoom _ _)

/-! ## When the buffers are large enough -/

/-- The allocation of a buffer of `size` bytes provides them. -/
def Provides (size : UInt32) (junk : Option (Nat → UInt8)) : Prop := size = 0 ∨ junk.isSome

/-- `uvc_stream_open_ctrl` gets as far as the allocations. -/
def OpenEnv.Reaches (env : OpenEnv) : Prop :=
  env.hasInterface = true ∧ env.calloc = true ∧ env.claim = Ret.success ∧ 0 ≤ env.transfer

/-- `uvc_stream_ctrl` accepts the block. -/
def Accepts (ctrl : StreamCtrl) (transfer : Int) (h : StreamHandle) : Prop :=
  h.ifNum = ctrl.bInterfaceNumber ∧ h.running = false ∧ 0 ≤ transfer

/-- The buffers of a stream that is opened can be allocated, and no block accepted later asks for
larger frames than the one the stream was opened with. -/
def WithinOpened : Option StreamHandle → StreamAction → Prop
  | none, .openCtrl ctrl env => env.Reaches →
      Provides ctrl.dwMaxVideoFrameSize env.outbuf ∧ Provides ctrl.dwMaxVideoFrameSize env.holdbuf
  | some h, .ctrl ctrl transfer => Accepts ctrl transfer h →
      ctrl.dwMaxVideoFrameSize ≤ h.openCtrl.dwMaxVideoFrameSize
  | _, _ => True

theorem setCur_eq_success {transfer : Int} : setCur transfer = Ret.success ↔ 0 ≤ transfer := by
  rw [setCur]
  split
  · rename_i hle
    exact ⟨fun h => le_of_eq h.symm, fun h => le_antisymm hle h⟩
  · rename_i hlt
    exact ⟨fun _ => le_of_not_ge hlt, fun _ => rfl⟩

theorem streamCtrl_cases (ctrl : StreamCtrl) (transfer : Int) (h : StreamHandle) :
    (Accepts ctrl transfer h ∧ streamCtrl ctrl transfer h =
      (Ret.success, { h with asm := { h.asm with curCtrl := ctrl } })) ∨
    (¬ Accepts ctrl transfer h ∧ ∃ ret, ret ≠ Ret.success ∧
      streamCtrl ctrl transfer h = (ret, h)) := by
  rw [streamCtrl]
  split
  · rename_i hif
    exact Or.inr ⟨fun ha => hif ha.1, _, by decide, rfl⟩
  · rename_i hif
    split
    · rename_i hrun
      exact Or.inr ⟨fun ha => absurd ha.2.1 (by simp [hrun]), _, by decide, rfl⟩
    · rename_i hrun
      split
      · rename_i hset
        exact Or.inr ⟨fun ha => hset (setCur_eq_success.2 ha.2.2), _, hset, rfl⟩
      · rename_i hset
        exact Or.inl ⟨⟨not_not.1 hif, by simpa using hrun,
          setCur_eq_success.1 (not_not.1 hset)⟩, rfl⟩

/-- The handle `uvc_stream_open_ctrl` makes. -/
def openedHandle (ctrl : StreamCtrl) (env : OpenEnv) : StreamHandle where
  ifNum := ctrl.bInterfaceNumber
  openCtrl := ctrl
  asm :=
    { isIsight := env.isIsight
      curCtrl := ctrl
      outbuf := malloc ctrl.dwMaxVideoFrameSize.toNat env.outbuf
      holdbuf := malloc ctrl.dwMaxVideoFrameSize.toNat env.holdbuf
      metaOutbuf := malloc xferMetaBufSize env.metaOutbuf
      metaHoldbuf := malloc xferMetaBufSize env.metaHoldbuf }

theorem streamOpenCtrl_cases (ctrl : StreamCtrl) (env : OpenEnv) :
    (env.Reaches ∧ (streamOpenCtrl ctrl env).2 = some (openedHandle ctrl env)) ∨
    (¬ env.Reaches ∧ (streamOpenCtrl ctrl env).2 = none) := by
  rw [streamOpenCtrl]
  split
  · rename_i hif
    exact Or.inr ⟨fun hr => by simp [hr.1] at hif, rfl⟩
  · rename_i hif
    split
    · rename_i hca
      exact Or.inr ⟨fun hr => by simp [hr.2.1] at hca, rfl⟩
    · rename_i hca
      split
      · rename_i hcl
        exact Or.inr ⟨fun hr => hcl hr.2.2.1, rfl⟩
      · rename_i hcl
        rcases streamCtrl_cases ctrl env.transfer (callocHandle env.isIsight ctrl) with
          ⟨ha, he⟩ | ⟨hn, ret, hret, he⟩
        · rw [he]
          exact Or.inl ⟨⟨by simpa using hif, by simpa using hca, not_not.1 hcl, ha.2.2⟩, rfl⟩
        · rw [he]
          refine Or.inr ⟨fun hr => hn ⟨rfl, rfl, hr.2.2.2⟩, ?_⟩
          simp only [if_pos hret]

theorem length_malloc {size : UInt32} {junk : Option (Nat → UInt8)} (h : Provides size junk) :
    (malloc size.toNat junk).length = size.toNat := by
  rcases h with rfl | hsome
  · cases junk <;> simp [malloc]
  · obtain ⟨f, rfl⟩ := Option.isSome_iff_exists.1 hsome
    exact length_malloc_some _ f

theorem provides_of_length {size : UInt32} {junk : Option (Nat → UInt8)}
    (h : size.toNat ≤ (malloc size.toNat junk).length) : Provides size junk := by
  cases junk with
  | some f => exact Or.inr rfl
  | none =>
    rw [malloc, List.length_nil, Nat.le_zero] at h
    exact Or.inl (UInt32.toNat_inj.1 h)

/-- The buffers have the sizes the stream was opened for, and the current block asks for no more. -/
structure StreamHandle.Sized (h : StreamHandle) : Prop where
  ctrl : h.asm.curCtrl.dwMaxVideoFrameSize ≤ h.openCtrl.dwMaxVideoFrameSize
  outbuf : h.asm.outbuf.length = h.openCtrl.dwMaxVideoFrameSize.toNat
  holdbuf : h.asm.holdbuf.length = h.openCtrl.dwMaxVideoFrameSize.toNat

theorem StreamHandle.Sized.roomy {h : StreamHandle} (hs : h.Sized) : h.asm.Roomy := by
  have hle := UInt32.le_iff_toNat_le.1 hs.ctrl
  exact ⟨hs.outbuf ▸ hle, hs.holdbuf ▸ hle⟩

theorem StreamHandle.Sized.sameRoom {h : StreamHandle} (hs : h.Sized) {asm : Assembly}
    (hr : SameRoom h.asm asm) : ({ h with asm := asm } : StreamHandle).Sized := by
  obtain ⟨hc, hl⟩ := hr
  rcases hl with ⟨h1, h2⟩ | ⟨h1, h2⟩
  · exact ⟨hc ▸ hs.ctrl, h1.trans hs.outbuf, h2.trans hs.holdbuf⟩
  · exact ⟨hc ▸ hs.ctrl, h1.trans hs.holdbuf, h2.trans hs.outbuf⟩

theorem streamStart_sized {h : StreamHandle} (hs : h.Sized) (outcome : StartOutcome) :
    (streamStart outcome h).2.Sized := by
  rw [streamStart]
  split
  · exact hs
  · cases outcome <;> exact ⟨hs.ctrl, hs.outbuf, hs.holdbuf⟩

theorem streamStop_sized {h : StreamHandle} (hs : h.Sized) (ret : Ret) :
    (streamStop ret h).2.Sized := by
  rw [streamStop]
  split
  · exact hs
  · exact ⟨hs.ctrl, hs.outbuf, hs.holdbuf⟩

/-- **One action** within what the stream was opened for. -/
theorem streamStep_sized {s t : Option StreamHandle} {a : StreamAction}
    (hs : ∀ h, s = some h → h.Sized) (hw : WithinOpened s a) (hstep : streamStep s a = some t) :
    ∀ h, t = some h → h.Sized := by
  intro h ht
  subst ht
  match s, a with
  | none, .openCtrl ctrl env =>
    rcases streamOpenCtrl_cases ctrl env with ⟨hr, he⟩ | ⟨-, he⟩
    · obtain rfl : openedHandle ctrl env = h := by simpa [streamStep, he] using hstep
      obtain ⟨ho, hh⟩ := hw hr
      exact ⟨UInt32.le_refl _, length_malloc ho, length_malloc hh⟩
    · simp [streamStep, he] at hstep
  | some g, .openCtrl ctrl env =>
    obtain rfl : g = h := by simpa [streamStep] using hstep
    exact hs g rfl
  | some g, .ctrl ctrl transfer =>
    have hg := hs g rfl
    rcases streamCtrl_cases ctrl transfer g with ⟨ha, he⟩ | ⟨-, ret, -, he⟩
    · obtain rfl : { g with asm := { g.asm with curCtrl := ctrl } } = h := by
        simpa [streamStep, he] using hstep
      exact ⟨hw ha, hg.outbuf, hg.holdbuf⟩
    · obtain rfl : g = h := by simpa [streamStep, he] using hstep
      exact hg
  | some g, .start outcome =>
    obtain rfl : (streamStart outcome g).2 = h := by simpa [streamStep] using hstep
    exact streamStart_sized (hs g rfl) outcome
  | some g, .stop ret =>
    obtain rfl : (streamStop ret g).2 = h := by simpa [streamStep] using hstep
    exact streamStop_sized (hs g rfl) ret
  | some g, .payload bytes =>
    rw [streamStep] at hstep
    split at hstep
    · rename_i asm pubs hp
      obtain rfl : { g with asm := asm } = h := by simpa using hstep
      exact (hs g rfl).sameRoom (processPayload_sameRoom hp)
    · exact absurd hstep (by simp)

/-- An action that goes beyond what the stream was opened for leaves a buffer too small. -/
theorem streamStep_cramped {s t : Option StreamHandle} {a : StreamAction}
    (hs : ∀ h, s = some h → h.Sized) (hw : ¬ WithinOpened s a) (hstep : streamStep s a = some t) :
    ∃ h, t = some h ∧ ¬ h.asm.Roomy := by
  match s, a with
  | none, .openCtrl ctrl env =>
    simp only [WithinOpened, Classical.not_imp] at hw
    obtain ⟨hr, hbad⟩ := hw
    rcases streamOpenCtrl_cases ctrl env with ⟨-, he⟩ | ⟨hn, -⟩
    · obtain rfl : some (openedHandle ctrl env) = t := by simpa [streamStep, he] using hstep
      exact ⟨_, rfl, fun hroom =>
        hbad ⟨provides_of_length hroom.1, provides_of_length hroom.2⟩⟩
    · exact absurd hr hn
  | some g, .ctrl ctrl transfer =>
    simp only [WithinOpened, Classical.not_imp] at hw
    obtain ⟨ha, hbad⟩ := hw
    rcases streamCtrl_cases ctrl transfer g with ⟨-, he⟩ | ⟨hn, -⟩
    · obtain rfl : some { g with asm := { g.asm with curCtrl := ctrl } } = t := by
        simpa [streamStep, he] using hstep
      refine ⟨_, rfl, fun hroom => hbad (UInt32.le_iff_toNat_le.2 ?_)⟩
      exact (hs g rfl).outbuf ▸ hroom.1
    · exact absurd ha hn
  | none, .ctrl _ _ => exact absurd trivial hw
  | none, .start _ => exact absurd trivial hw
  | none, .stop _ => exact absurd trivial hw
  | none, .payload _ => exact absurd trivial hw
  | some _, .openCtrl _ _ => exact absurd trivial hw
  | some _, .start _ => exact absurd trivial hw
  | some _, .stop _ => exact absurd trivial hw
  | some _, .payload _ => exact absurd trivial hw

/-- **The buffers match the control block** in every state of an open stream, in every run whose
buffers could be allocated and whose later control blocks ask for no larger frames than the first.
The condition is exact: the first action that misses it leaves a buffer smaller than the bound
`_uvc_process_payload` clamps by. -/
theorem stream_roomy (s : Option StreamHandle)
    (hr : ReachableVia streamStep WithinOpened none s) :
    (∀ h, s = some h → h.asm.Roomy) ∧
    ∀ a t, ¬ WithinOpened s a → streamStep s a = some t → ∃ h, t = some h ∧ ¬ h.asm.Roomy := by
  have hsized : ∀ h, s = some h → h.Sized :=
    hr.invariant (I := fun s => ∀ h, s = some h → h.Sized) (fun h hn => absurd hn (by simp))
      fun _ _ _ hu hg hst => streamStep_sized hu hg hst
  exact ⟨fun h hh => (hsized h hh).roomy, fun a t hw hst => streamStep_cramped hsized hw hst⟩

/-- Everything goes well when the stream is opened. -/
def smoothOpen : OpenEnv where
  isIsight := false
  hasInterface := true
  calloc := true
  claim := 0
  transfer := 26
  outbuf := some fun _ => 0
  holdbuf := some fun _ => 0
  metaOutbuf := some fun _ => 0
  metaHoldbuf := some fun _ => 0

/-- The stream opened for frames of `m` bytes. -/
def smoothHandle (m : UInt32) : StreamHandle := openedHandle { dwMaxVideoFrameSize := m } smoothOpen

/-- The same stream after it was reconfigured for frames of `n` bytes. -/
def reconfigured (m n : UInt32) : StreamHandle :=
  { smoothHandle m with
    asm := { (smoothHandle m).asm with curCtrl := { dwMaxVideoFrameSize := n } } }

theorem smoothHandle_reachable (m : UInt32) :
    ReachableVia streamStep WithinOpened none (some (smoothHandle m)) :=
  (ReachableVia.refl none).tail (a := .openCtrl { dwMaxVideoFrameSize := m } smoothOpen)
    (fun _ => ⟨Or.inr rfl, Or.inr rfl⟩) rfl

/-- A stream opened for frames of 8 bytes and reconfigured for frames of 4. -/
theorem stream_roomy_smaller : (reconfigured 8 4).asm.Roomy :=
  (stream_roomy _ ((smoothHandle_reachable 8).tail (a := .ctrl { dwMaxVideoFrameSize := 4 } 26)
    (fun _ => by decide) rfl)).1 _ rfl

/-- A stream opened for frames of 2 bytes is reconfigured for frames of 8, which is accepted, and
started.  `outbuf` has 2 bytes while copies are clamped at 8, and a payload with 4 bytes of image
data is written past the end of it. -/
theorem reconfigure_overflow :
    ∃ h : StreamHandle, Reachable streamStep none (some h) ∧ ¬ h.asm.Roomy ∧
      processPayload h.asm [2, 0, 1, 2, 3, 4] = .error .outOfBounds := by
  refine ⟨(streamStart .submitted (reconfigured 2 8)).2, ?_, by decide, by decide⟩
  have hopen : Reachable streamStep none (some (smoothHandle 2)) :=
    (Reachable.refl none).tail (a := .openCtrl { dwMaxVideoFrameSize := 2 } smoothOpen) rfl
  have hctrl : Reachable streamStep none (some (reconfigured 2 8)) :=
    hopen.tail (a := .ctrl { dwMaxVideoFrameSize := 8 } 26) rfl
  exact hctrl.tail (a := .start .submitted) rfl

end Stream
end LibUvc
