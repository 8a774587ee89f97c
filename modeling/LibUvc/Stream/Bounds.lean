import LibUvc.Stream.Payload

/-!
# Payload processing stays in bounds

The header length, the flags and the payload length are three independent values chosen by the
device, so none of the offsets `_uvc_process_payload` forms is right by construction.  What makes
them right is `Assembly.Bounded`, an invariant of the whole run: neither fill level ever exceeds the
buffer it counts, which is exactly what the two clamps need in order not to underflow.

Each of the pieces of `processPayload` has one lemma here that says it does not fault and what it
leaves behind.  `processPayload_cases` puts them together: it is the only place that takes the
function apart, and everything later — about bounds, numbering, content or errors — is read off
its three cases.  `processPayloads_in_bounds` carries the invariant along any sequence of
payloads.
-/

set_option autoImplicit false

namespace LibUvc
namespace Stream

open Checked

/-- The buffers have the sizes they are allocated with, and neither fill level exceeds its
buffer. -/
structure Assembly.Bounded (s : Assembly) : Prop where
  outbuf : s.outbuf.length = s.maxVideoFrameSize.toNat
  holdbuf : s.holdbuf.length = s.maxVideoFrameSize.toNat
  metaOutbuf : s.metaOutbuf.length = xferMetaBufSize
  metaHoldbuf : s.metaHoldbuf.length = xferMetaBufSize
  got : s.gotBytes ≤ s.maxVideoFrameSize.toNat
  metaGot : s.metaGotBytes ≤ xferMetaBufSize

/-- The state a first `uvc_stream_start` leaves on a stream opened with the control block `ctrl`:
everything zero except the sequence number, the contents of the four freshly allocated buffers
arbitrary. -/
def started (isIsight : Bool) (ctrl : StreamCtrl)
    (outbuf holdbuf metaOutbuf metaHoldbuf : List UInt8) : Assembly where
  isIsight := isIsight
  curCtrl := ctrl
  seq := 1
  outbuf := outbuf
  holdbuf := holdbuf
  metaOutbuf := metaOutbuf
  metaHoldbuf := metaHoldbuf

theorem started_bounded {isIsight : Bool} {ctrl : StreamCtrl} {o h mo mh : List UInt8}
    (ho : o.length = ctrl.dwMaxVideoFrameSize.toNat)
    (hh : h.length = ctrl.dwMaxVideoFrameSize.toNat) (hmo : mo.length = xferMetaBufSize)
    (hmh : mh.length = xferMetaBufSize) : (started isIsight ctrl o h mo mh).Bounded :=
  ⟨ho, hh, hmo, hmh, Nat.zero_le _, Nat.zero_le _⟩

/-! ## The header -/

theorem lacksTag_ok (payload : List UInt8) {need off : Nat} (h : off + isightTag.length ≤ need) :
    ∃ b, lacksTag payload need off = .ok b := by
  rw [lacksTag]
  split
  · exact ⟨true, rfl⟩
  · rw [slice_eq (by omega)]
    exact ⟨_, rfl⟩

theorem untagged_ok (isIsight : Bool) (payload : List UInt8) :
    ∃ b, untagged isIsight payload = .ok b := by
  obtain ⟨a, ha⟩ := lacksTag_ok payload (by decide : 2 + isightTag.length ≤ 14)
  obtain ⟨b, hb⟩ := lacksTag_ok payload (by decide : 3 + isightTag.length ≤ 15)
  rw [untagged, ha, ok_bind, hb]
  cases isIsight <;> cases a <;> exact ⟨_, rfl⟩

/-- The header and the image data of a payload that is not dropped lie inside it. -/
theorem payloadSplit_ok (isIsight : Bool) (payload : List UInt8) :
    ∃ r, payloadSplit isIsight payload = .ok r ∧
      ∀ headerLen dataLen, r = some (headerLen, dataLen) →
        0 < payload.length ∧ headerLen + dataLen ≤ payload.length := by
  rw [payloadSplit]
  split
  · exact ⟨none, rfl, by simp⟩
  · rename_i hlen
    obtain ⟨tag, htag⟩ := untagged_ok isIsight payload
    rw [htag, ok_bind]
    cases tag with
    | true =>
      refine ⟨_, rfl, fun a b hab => ?_⟩
      simp only [Option.some.injEq, Prod.mk.injEq] at hab
      omega
    | false =>
      simp only [Bool.false_eq_true, if_false]
      rw [readByte_eq (by omega), ok_bind]
      split
      · exact ⟨none, rfl, by simp⟩
      · rename_i hle
        split
        · refine ⟨_, rfl, fun a b hab => ?_⟩
          simp only [Option.some.injEq, Prod.mk.injEq] at hab
          omega
        · rw [sub_eq (by omega), ok_bind]
          refine ⟨_, rfl, fun a b hab => ?_⟩
          simp only [Option.some.injEq, Prod.mk.injEq] at hab
          omega

theorem headerInfo_eq {payload : List UInt8} {headerLen : Nat} (h : headerLen ≤ payload.length) :
    headerInfo payload headerLen = .ok (
      if headerLen < 2 then some 0
      else if byteAt payload 1 &&& 0x40 ≠ 0 then none else some (byteAt payload 1)) := by
  rw [headerInfo]
  split
  · rfl
  · rw [readByte_eq (by omega), ok_bind]
    rfl

theorem headerInfo_ok {payload : List UInt8} {headerLen : Nat} (h : headerLen ≤ payload.length) :
    ∃ r, headerInfo payload headerLen = .ok r := ⟨_, headerInfo_eq h⟩

theorem headerField_ok {payload : List UInt8} {headerLen : Nat} (off : Nat)
    (h : headerLen ≤ payload.length) : ∃ v, headerField payload headerLen off = .ok v := by
  rw [headerField]
  split
  · rw [readDw_eq (by omega)]
    exact ⟨_, rfl⟩
  · exact ⟨0, rfl⟩

/-! ## The clamps -/

/-- A clamp never underflows while the fill level is within its limit, and then keeps it there. -/
theorem clamp_ok {limit got : Nat} (len : Nat) (h : got ≤ limit) :
    ∃ n, clamp limit got len = .ok n ∧ n ≤ len ∧ got + n ≤ limit ∧
      n = min len (limit - got) := by
  rw [clamp]
  split
  · rw [sub_eq h]
    exact ⟨_, rfl, by omega, by omega, by omega⟩
  · exact ⟨len, rfl, le_refl _, by omega, by omega⟩

theorem noteMetadata_ok {s : Assembly} {payload : List UInt8} {headerLen : Nat} (off : Nat)
    (h : headerLen ≤ payload.length) (hbuf : s.metaOutbuf.length = xferMetaBufSize)
    (hgot : s.metaGotBytes ≤ xferMetaBufSize) :
    ∃ m k, noteMetadata s payload headerLen off =
        .ok { s with metaOutbuf := m, metaGotBytes := k } ∧
      m.length = xferMetaBufSize ∧ k ≤ xferMetaBufSize := by
  rw [noteMetadata]
  split
  · rename_i hoff
    obtain ⟨n, hn, hle, hfit, -⟩ := clamp_ok (headerLen - off) hgot
    rw [sub_eq (by omega), ok_bind, hn, ok_bind, slice_eq (by omega), ok_bind]
    have hlen : ((payload.drop off).take n).length = n := by
      rw [List.length_take, List.length_drop]
      omega
    have hblit : s.metaGotBytes + ((payload.drop off).take n).length ≤ s.metaOutbuf.length := by
      omega
    rw [blit_eq hblit, ok_bind]
    exact ⟨_, _, rfl, (length_blit hblit).trans hbuf, hfit⟩
  · exact ⟨s.metaOutbuf, s.metaGotBytes, rfl, hbuf, hgot⟩

theorem notePts_ok (s : Assembly) {payload : List UInt8} {headerLen : Nat} (info : UInt8)
    (h : headerLen ≤ payload.length) :
    ∃ v, notePts s payload headerLen info = .ok { s with pts := v } := by
  obtain ⟨v, hv⟩ := headerField_ok 2 h
  rw [notePts, hv]
  split
  · exact ⟨v, rfl⟩
  · exact ⟨s.pts, rfl⟩

theorem noteScr_ok (s : Assembly) {payload : List UInt8} {headerLen : Nat} (info : UInt8)
    (h : headerLen ≤ payload.length) :
    ∃ v, noteScr s payload headerLen info = .ok { s with lastScr := v } := by
  obtain ⟨v, hv⟩ := headerField_ok (scrOffset info) h
  rw [noteScr, hv]
  split
  · exact ⟨v, rfl⟩
  · exact ⟨s.lastScr, rfl⟩

/-- The header moves the frame id, the time stamps and the metadata, and nothing else. -/
theorem noteHeader_ok {s : Assembly} {payload : List UInt8} {headerLen : Nat} (info : UInt8)
    (h : headerLen ≤ payload.length) (hbuf : s.metaOutbuf.length = xferMetaBufSize)
    (hgot : s.metaGotBytes ≤ xferMetaBufSize) :
    ∃ f p c m k, noteHeader s payload headerLen info =
        .ok { s with fid := f, pts := p, lastScr := c, metaOutbuf := m, metaGotBytes := k } ∧
      f = (if headerLen < 2 then s.fid else info &&& 1) ∧ m.length = xferMetaBufSize ∧
      k ≤ xferMetaBufSize := by
  rw [noteHeader]
  split
  · exact ⟨s.fid, s.pts, s.lastScr, s.metaOutbuf, s.metaGotBytes, rfl, rfl, hbuf, hgot⟩
  · obtain ⟨p, hp⟩ := notePts_ok { s with fid := info &&& 1 } info h
    rw [hp, ok_bind]
    obtain ⟨c, hc⟩ := noteScr_ok { s with fid := info &&& 1, pts := p } info h
    rw [hc, ok_bind]
    obtain ⟨m, k, hm, hlen, hk⟩ := noteMetadata_ok
      (s := { s with fid := info &&& 1, pts := p, lastScr := c }) (metaOffset info) h hbuf hgot
    exact ⟨info &&& 1, p, c, m, k, hm, rfl, hlen, hk⟩

/-! ## The image data -/

/-- The image data that fits is appended to what was there; the rest of the handle stays. -/
theorem appendData_ok {s : Assembly} {payload : List UInt8} {headerLen dataLen : Nat}
    (info : UInt8) (h : headerLen + dataLen ≤ payload.length)
    (hbuf : s.outbuf.length = s.maxVideoFrameSize.toNat)
    (hgot : s.gotBytes ≤ s.maxVideoFrameSize.toNat) :
    ∃ o g, appendData s payload headerLen dataLen info =
        .ok ({ s with outbuf := o, gotBytes := g },
          decide (0 < dataLen ∧ (info &&& 0x02 ≠ 0 ∨ g = s.maxVideoFrameSize.toNat))) ∧
      o.length = s.maxVideoFrameSize.toNat ∧
      g = min (s.gotBytes + dataLen) s.maxVideoFrameSize.toNat ∧
      o.take g = (s.outbuf.take s.gotBytes ++ (payload.drop headerLen).take dataLen).take
        s.maxVideoFrameSize.toNat := by
  rw [appendData]
  split
  · rename_i hpos
    obtain ⟨n, hn, hle, hfit, hmin⟩ := clamp_ok dataLen hgot
    rw [hn, ok_bind, slice_eq (by omega), ok_bind]
    have hlen : ((payload.drop headerLen).take n).length = n := by
      rw [List.length_take, List.length_drop]
      omega
    have hblit : s.gotBytes + ((payload.drop headerLen).take n).length ≤ s.outbuf.length := by
      omega
    rw [blit_eq hblit, ok_bind]
    refine ⟨_, s.gotBytes + n, ?_, (length_blit hblit).trans hbuf, by omega, ?_⟩
    · congr 2
      simp only [ne_eq, decide_not, Bool.decide_and, Bool.decide_or, hpos, decide_true,
        Bool.true_and, beq_eq_decide]
    · have htake := take_blit hblit
      rw [hlen] at htake ⊢
      rw [htake, List.take_append, List.take_take, List.take_take, List.length_take,
        Nat.min_eq_left (by omega : s.gotBytes ≤ s.outbuf.length),
        Nat.min_eq_right hgot]
      congr 2
      omega
  · rename_i hzero
    have hz : dataLen = 0 := by omega
    subst hz
    refine ⟨s.outbuf, s.gotBytes, by simp [pure, Except.pure], hbuf, by omega, ?_⟩
    rw [List.take_zero, List.append_nil, List.take_take, Nat.min_eq_right hgot]

/-! ## The invariant -/

theorem swapBuffers_bounded {s : Assembly} (h : s.Bounded) : (swapBuffers s).Bounded :=
  ⟨h.holdbuf, h.outbuf, h.metaHoldbuf, h.metaOutbuf, Nat.zero_le _, Nat.zero_le _⟩

theorem swapIf_bounded {s : Assembly} (due : Bool) (h : s.Bounded) : (swapIf due s).1.Bounded := by
  cases due with
  | false => exact h
  | true => exact swapBuffers_bounded h

theorem swapIf_fid (due : Bool) (s : Assembly) : (swapIf due s).1.fid = s.fid := by
  cases due <;> rfl

theorem swapIf_isIsight (due : Bool) (s : Assembly) : (swapIf due s).1.isIsight = s.isIsight := by
  cases due <;> rfl

theorem swapIf_curCtrl (due : Bool) (s : Assembly) :
    (swapIf due s).1.curCtrl = s.curCtrl := by
  cases due <;> rfl

/-- What a payload that is neither dropped nor flagged does: publish what was waiting if the frame
id flipped, take in the header and the image data, publish again if that completed the frame. -/
structure Taken (s : Assembly) (payload : List UInt8) (t : Assembly) (pubs : List Published) where
  headerLen : Nat
  dataLen : Nat
  info : UInt8
  split : payloadSplit s.isIsight payload = .ok (some (headerLen, dataLen))
  flags : headerInfo payload headerLen = .ok (some info)
  inside : headerLen + dataLen ≤ payload.length
  /-- The handle between the two swaps. -/
  mid : Assembly
  /-- The frame is complete after this payload. -/
  due : Bool
  final : t = (swapIf due mid).1
  published : pubs = (swapIf (flips s headerLen info) s).2 ++ (swapIf due mid).2
  fid : mid.fid = if headerLen < 2 then s.fid else info &&& 1
  seq : mid.seq = (swapIf (flips s headerLen info) s).1.seq
  isIsight : mid.isIsight = s.isIsight
  curCtrl : mid.curCtrl = s.curCtrl
  frameHadErrors : mid.frameHadErrors = (swapIf (flips s headerLen info) s).1.frameHadErrors
  bounded : mid.Bounded
  isDue : due = decide (0 < dataLen ∧
    (info &&& 0x02 ≠ 0 ∨ mid.gotBytes = s.maxVideoFrameSize.toNat))
  got : mid.gotBytes = min ((swapIf (flips s headerLen info) s).1.gotBytes + dataLen)
    s.maxVideoFrameSize.toNat
  pending : mid.outbuf.take mid.gotBytes =
    ((swapIf (flips s headerLen info) s).1.outbuf.take
        (swapIf (flips s headerLen info) s).1.gotBytes ++
      (payload.drop headerLen).take dataLen).take s.maxVideoFrameSize.toNat

/-- **One payload.**  Whatever its bytes, processing it does not fault: the payload is dropped, or
flags the frame, or is taken in. -/
theorem processPayload_cases {s : Assembly} (h : s.Bounded) (payload : List UInt8) :
    (payloadSplit s.isIsight payload = .ok none ∧ processPayload s payload = .ok (s, [])) ∨
    (∃ headerLen dataLen, payloadSplit s.isIsight payload = .ok (some (headerLen, dataLen)) ∧
      headerInfo payload headerLen = .ok none ∧
      processPayload s payload = .ok ({ s with frameHadErrors := true }, [])) ∨
    (∃ t pubs, processPayload s payload = .ok (t, pubs) ∧ Nonempty (Taken s payload t pubs)) := by
  obtain ⟨r, hr, hsplit⟩ := payloadSplit_ok s.isIsight payload
  rw [processPayload, hr, ok_bind]
  match r, hsplit, hr with
  | none, _, _ => exact Or.inl ⟨rfl, rfl⟩
  | some (headerLen, dataLen), hsplit, hr =>
    right
    obtain ⟨-, hle⟩ := hsplit headerLen dataLen rfl
    obtain ⟨i, hi⟩ := headerInfo_ok (by omega : headerLen ≤ payload.length)
    simp only []
    rw [hi, ok_bind]
    match i, hi with
    | none, hi => exact Or.inl ⟨headerLen, dataLen, rfl, hi, rfl⟩
    | some info, hi =>
      right
      have h1 := swapIf_bounded (flips s headerLen info) h
      have hctrl := swapIf_curCtrl (flips s headerLen info) s
      obtain ⟨f, p, c, m, k, hn, hf, hm, hk⟩ := noteHeader_ok info
        (by omega : headerLen ≤ payload.length) h1.metaOutbuf h1.metaGot
      obtain ⟨o, g, ha, ho, hg, htake⟩ := appendData_ok
        (s := { (swapIf (flips s headerLen info) s).1 with
          fid := f, pts := p, lastScr := c, metaOutbuf := m, metaGotBytes := k }) info hle
        h1.outbuf h1.got
      simp only []
      rw [hn, ok_bind, ha, ok_bind]
      refine ⟨_, _, rfl, ⟨⟨headerLen, dataLen, info, hr, hi, hle, _, _, rfl, rfl, ?_, rfl, ?_,
        hctrl, rfl, ⟨ho, h1.holdbuf, hm, h1.metaHoldbuf, hg ▸ Nat.min_le_right _ _, hk⟩,
        ?_, ?_, ?_⟩⟩⟩
      · rw [hf, swapIf_fid]
      · exact swapIf_isIsight _ s
      · simp only [Assembly.maxVideoFrameSize, hctrl]
      · rw [hg]
        simp only [Assembly.maxVideoFrameSize, hctrl]
      · rw [htake]
        simp only [Assembly.maxVideoFrameSize, hctrl]

/-- Processing a payload keeps the handle bounded. -/
theorem processPayload_ok {s : Assembly} (h : s.Bounded) (payload : List UInt8) :
    ∃ t pubs, processPayload s payload = .ok (t, pubs) ∧ t.Bounded ∧
      t.curCtrl = s.curCtrl := by
  rcases processPayload_cases h payload with ⟨-, hp⟩ | ⟨_, _, -, -, hp⟩ | ⟨t, pubs, hp, ⟨ht⟩⟩
  · exact ⟨s, [], hp, h, rfl⟩
  · exact ⟨_, [], hp, ⟨h.1, h.2, h.3, h.4, h.5, h.6⟩, rfl⟩
  · refine ⟨t, pubs, hp, ?_, ?_⟩
    · rw [ht.final]
      exact swapIf_bounded _ ht.bounded
    · rw [ht.final, swapIf_curCtrl, ht.curCtrl]

/-- **Payload processing stays in bounds.**  On a stream whose buffers have their allocated sizes
and whose fill levels are within them, no sequence of payloads makes the code read past the end of
a payload, write past the end of a buffer or compute a negative length, and both fill levels are
still within their buffers afterwards. -/
theorem processPayloads_in_bounds (s : Assembly) (h : s.Bounded) (payloads : List (List UInt8)) :
    ∃ t pubs, processPayloads s payloads = .ok (t, pubs) ∧
      t.gotBytes ≤ s.maxVideoFrameSize.toNat ∧ t.metaGotBytes ≤ xferMetaBufSize ∧
      t.outbuf.length = s.maxVideoFrameSize.toNat ∧
      t.holdbuf.length = s.maxVideoFrameSize.toNat := by
  suffices hs : ∃ t pubs, processPayloads s payloads = .ok (t, pubs) ∧ t.Bounded ∧
      t.curCtrl = s.curCtrl by
    obtain ⟨t, pubs, hrun, hb, hc⟩ := hs
    have hm : t.maxVideoFrameSize = s.maxVideoFrameSize := by rw [Assembly.maxVideoFrameSize, hc]
    exact ⟨t, pubs, hrun, hm ▸ hb.got, hb.metaGot, hm ▸ hb.outbuf, hm ▸ hb.holdbuf⟩
  induction payloads generalizing s with
  | nil => exact ⟨s, [], rfl, h, rfl⟩
  | cons p ps ih =>
    obtain ⟨u, a, hu, hub, hum⟩ := processPayload_ok h p
    obtain ⟨t, b, ht, htb, htm⟩ := ih u hub
    rw [processPayloads, hu, ok_bind]
    simp only []
    rw [ht, ok_bind]
    exact ⟨t, a ++ b, rfl, htb, htm.trans hum⟩

/-- An iSight stream with room for no image data at all, fed a header packet that announces fields
it does not have and then a packet of image data. -/
theorem processPayloads_in_bounds_empty_isight :
    ∃ t pubs, processPayloads
        (started true {} [] [] (List.replicate xferMetaBufSize 0)
          (List.replicate xferMetaBufSize 0))
        [[3, 0x0c, 0x11, 0x22, 0x33, 0x44, 0xde, 0xad, 0xbe, 0xef, 0xde, 0xad, 0xfa, 0xce], [7]] =
          .ok (t, pubs) ∧
      t.gotBytes ≤ 0 ∧ t.metaGotBytes ≤ xferMetaBufSize ∧ t.outbuf.length = 0 ∧
      t.holdbuf.length = 0 :=
  processPayloads_in_bounds _
    (started_bounded rfl rfl (List.length_replicate ..) (List.length_replicate ..)) _

end Stream
end LibUvc
