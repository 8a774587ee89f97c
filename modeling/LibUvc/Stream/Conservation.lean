import LibUvc.Foundation.Conservation
import LibUvc.Stream.Reassembly

/-!
# No image byte is lost, on any input

`Stream.Reassembly` is about cameras that behave.  This file is about all payloads: headers that are
too long or too short, error bits, missing EOFs, packets of an iSight without a header.  Each of
them is an arrival in the sense of `Foundation.Conservation` (`processPayload_receive`), one without
data if the code drops it, so the books kept there account for every byte of image data that comes
in: `payloads_conserved`.
-/

set_option autoImplicit false

namespace LibUvc
namespace Stream

open Checked Reassembly

/-! ## What a payload carries -/

/-- The payload has `isight_tag` at one of the two places where it may stand. -/
def carriesTag (payload : List UInt8) : Bool :=
  (payload.drop 2).take isightTag.length = isightTag ∨
    (payload.drop 3).take isightTag.length = isightTag

/-- The packet of an iSight that has no tag is all image data. -/
def headerless (isIsight : Bool) (payload : List UInt8) : Bool := isIsight && !carriesTag payload

/-- The length that the header declares, or 0 for a payload that has none. -/
def headerLength (isIsight : Bool) (payload : List UInt8) : Nat :=
  if headerless isIsight payload then 0 else (byteAt payload 0).toNat

/-- The payload is empty, or its header is longer than it is. -/
def bogus (isIsight : Bool) (payload : List UInt8) : Bool :=
  payload = [] ∨ payload.length < headerLength isIsight payload

def errorBit (isIsight : Bool) (payload : List UInt8) : Bool :=
  2 ≤ headerLength isIsight payload ∧ byteAt payload 1 &&& 0x40 ≠ 0

/-- The image data of a payload: none if it is bogus, if its error bit is set or if it is the header
packet of an iSight, and otherwise what comes after the header. -/
def dataPart (isIsight : Bool) (payload : List UInt8) : List UInt8 :=
  if bogus isIsight payload ∨ errorBit isIsight payload ∨ isIsight ∧ carriesTag payload then []
  else payload.drop (headerLength isIsight payload)

/-- The frame id of a payload whose header has at least 2 bytes. -/
def frameId (isIsight : Bool) (payload : List UInt8) : Option UInt8 :=
  if 2 ≤ headerLength isIsight payload then some (byteAt payload 1 &&& 1) else none

/-- The payload as an arrival. -/
def arrival (isIsight : Bool) (payload : List UInt8) : Arrival UInt8 UInt8 :=
  if bogus isIsight payload ∨ errorBit isIsight payload then {}
  else {
    tag := frameId isIsight payload
    last := 2 ≤ headerLength isIsight payload ∧ byteAt payload 1 &&& 0x02 ≠ 0
    data := dataPart isIsight payload }

theorem arrival_data (isIsight : Bool) (payload : List UInt8) :
    (arrival isIsight payload).data = dataPart isIsight payload := by
  rw [arrival]
  split
  · rename_i h
    rw [dataPart, if_pos (by tauto)]
  · rfl

/-- A payload with image data has its own frame id as the tag. -/
theorem arrival_tag {isIsight : Bool} {payload : List UInt8} (h : dataPart isIsight payload ≠ []) :
    (arrival isIsight payload).tag = frameId isIsight payload := by
  rw [arrival]
  split
  · rename_i hbad
    exact absurd (by rw [dataPart, if_pos (by tauto)]) h
  · rfl

/-! ## The code computes it -/

theorem lacksTag_eq (payload : List UInt8) {need off : Nat} (h : need = off + isightTag.length) :
    lacksTag payload need off = .ok ((payload.drop off).take isightTag.length != isightTag) := by
  rw [lacksTag]
  split
  · rename_i hshort
    have htag : isightTag.length = 12 := rfl
    have hne : (payload.drop off).take isightTag.length ≠ isightTag := by
      intro heq
      have hlen := congrArg List.length heq
      rw [List.length_take, List.length_drop] at hlen
      omega
    rw [bne_iff_ne.2 hne]
    rfl
  · rw [slice_eq (by omega), ok_bind]
    rfl

theorem untagged_eq (isIsight : Bool) (payload : List UInt8) :
    untagged isIsight payload = .ok (headerless isIsight payload) := by
  cases isIsight with
  | false => rfl
  | true =>
    rw [untagged, if_pos rfl, lacksTag_eq payload (by decide : 14 = 2 + isightTag.length), ok_bind,
      lacksTag_eq payload (by decide : 15 = 3 + isightTag.length), headerless, carriesTag]
    by_cases h2 : (payload.drop 2).take isightTag.length = isightTag
    · simp [h2, pure, Except.pure]
    · simp [h2, bne, beq_eq_decide]

theorem payloadSplit_eq (isIsight : Bool) (payload : List UInt8) :
    payloadSplit isIsight payload = .ok (if bogus isIsight payload then none
      else some (headerLength isIsight payload,
        if isIsight ∧ carriesTag payload then 0
        else payload.length - headerLength isIsight payload)) := by
  rw [payloadSplit, bogus]
  by_cases hnil : payload = []
  · simp [hnil, pure, Except.pure]
  have hpos : 0 < payload.length := List.length_pos_iff.2 hnil
  rw [if_neg (by omega), untagged_eq, ok_bind, headerLength]
  cases hless : headerless isIsight payload with
  | true =>
    have htag : ¬ (isIsight = true ∧ carriesTag payload = true) := by
      rw [headerless] at hless
      intro h
      simp [h.1, h.2] at hless
    simp [hnil, htag, pure, Except.pure]
  | false =>
    have htag : isIsight = true ∧ carriesTag payload = true ↔ isIsight = true := by
      rw [headerless] at hless
      refine and_iff_left_of_imp fun h => ?_
      simpa [h] using hless
    simp only [Bool.false_eq_true, if_false, readByte_eq hpos, ok_bind, hnil, false_or, htag,
      decide_eq_true_eq, gt_iff_lt]
    split
    · rfl
    · rename_i hle
      split
      · rfl
      · rw [sub_eq (by omega), ok_bind]
        rfl

/-- A payload that is taken in is neither bogus nor flagged. -/
theorem Taken.good {s t : Assembly} {payload : List UInt8} {pubs : List Published}
    (h : Taken s payload t pubs) :
    bogus s.isIsight payload = false ∧ errorBit s.isIsight payload = false := by
  have hsplit := h.split
  have hflags := h.flags
  have hinside := h.inside
  rw [payloadSplit_eq] at hsplit
  cases hbogus : bogus s.isIsight payload with
  | true =>
    rw [hbogus, if_pos rfl] at hsplit
    cases hsplit
  | false =>
    rw [hbogus, if_neg (by simp)] at hsplit
    obtain ⟨hheader, -⟩ := Prod.mk.inj (Option.some.inj (Except.ok.inj hsplit))
    refine ⟨rfl, Bool.eq_false_iff.2 fun herror => ?_⟩
    obtain ⟨hlong, hbit⟩ := of_decide_eq_true herror
    rw [headerInfo_eq (by omega), ← hheader, if_neg (by omega), if_pos hbit] at hflags
    cases hflags

/-- **One payload**, by what its bytes say. -/
theorem processPayload_split {s : Assembly} (h : s.Bounded) (payload : List UInt8) :
    (bogus s.isIsight payload = true ∧ processPayload s payload = .ok (s, [])) ∨
    (bogus s.isIsight payload = false ∧ errorBit s.isIsight payload = true ∧
      processPayload s payload = .ok ({ s with frameHadErrors := true }, [])) ∨
    ∃ t pubs, processPayload s payload = .ok (t, pubs) ∧ Nonempty (Taken s payload t pubs) := by
  rcases processPayload_cases h payload with ⟨hn, hp⟩ | ⟨headerLen, dataLen, hn, hflag, hp⟩ | hcase
  · refine Or.inl ⟨?_, hp⟩
    by_contra hgood
    rw [payloadSplit_eq, if_neg hgood] at hn
    cases hn
  · right
    left
    rw [payloadSplit_eq] at hn
    cases hbogus : bogus s.isIsight payload with
    | true =>
      rw [hbogus, if_pos rfl] at hn
      cases hn
    | false =>
      rw [hbogus, if_neg (by simp)] at hn
      obtain ⟨rfl, -⟩ := Prod.mk.inj (Option.some.inj (Except.ok.inj hn))
      have hlong : ¬ payload.length < headerLength s.isIsight payload := fun hlt =>
        Bool.eq_false_iff.1 hbogus (decide_eq_true (Or.inr hlt))
      rw [headerInfo_eq (by omega)] at hflag
      refine ⟨rfl, ?_, hp⟩
      by_contra herror
      rw [errorBit, decide_eq_true_eq, not_and_or] at herror
      split at hflag
      · cases hflag
      · rw [if_neg (herror.resolve_left (by omega))] at hflag
        cases hflag
  · exact Or.inr (Or.inr hcase)

/-- A payload that is taken in is the chunk that its arrival is. -/
theorem Taken.chunk_eq {s t : Assembly} {payload : List UInt8} {pubs : List Published}
    (h : Taken s payload t pubs) : h.chunk = (arrival s.isIsight payload).chunk (view s) := by
  obtain ⟨hgood, herror⟩ := h.good
  have hsplit := h.split
  have hflags := h.flags
  have hinside := h.inside
  rw [payloadSplit_eq, hgood, if_neg (by simp)] at hsplit
  obtain ⟨hheader, hdataLen⟩ := Prod.mk.inj (Option.some.inj (Except.ok.inj hsplit))
  rw [headerInfo_eq (by omega), ← hheader] at hflags
  have hdata : (payload.drop h.headerLen).take h.dataLen = dataPart s.isIsight payload := by
    rw [dataPart, ← hheader, ← hdataLen, hgood, herror]
    by_cases htag : s.isIsight = true ∧ carriesTag payload = true
    · rw [if_pos htag, if_pos (Or.inr (Or.inr htag)), List.take_zero]
    · rw [if_neg htag, if_neg (by simpa using htag), ← List.length_drop, List.take_length]
  rw [arrival, hgood, herror, if_neg (by simp), Taken.chunk, hdata, h.fid, ← hheader, frameId]
  by_cases hshort : headerLength s.isIsight payload < 2
  · rw [if_pos hshort] at hflags
    have hinfo := Option.some.inj (Except.ok.inj hflags)
    rw [← hinfo, if_pos hshort]
    simp [Arrival.chunk, view, show ¬ 2 ≤ headerLength s.isIsight payload by omega]
  · have hbit : ¬ byteAt payload 1 &&& 0x40 ≠ 0 := fun hbit =>
      Bool.eq_false_iff.1 herror (decide_eq_true ⟨by omega, hbit⟩)
    rw [if_neg hshort, if_neg hbit] at hflags
    have hinfo := Option.some.inj (Except.ok.inj hflags)
    rw [← hinfo, if_neg hshort]
    simp [Arrival.chunk, show 2 ≤ headerLength s.isIsight payload by omega]

/-- **The code is the receiver.**  Whatever the payload, the pending image data and the frames that
are published are those of `receive`. -/
theorem processPayload_receive {s : Assembly} (h : s.Bounded) (payload : List UInt8) :
    ∃ t pubs, processPayload s payload = .ok (t, pubs) ∧ t.Bounded ∧ t.isIsight = s.isIsight ∧
      t.curCtrl = s.curCtrl ∧
      view t = (receive s.maxVideoFrameSize.toNat (view s) (arrival s.isIsight payload)).1 ∧
      pubs.map Published.data =
        (receive s.maxVideoFrameSize.toNat (view s) (arrival s.isIsight payload)).2 := by
  have hnothing : receive s.maxVideoFrameSize.toNat (view s) {} = (view s, []) :=
    receive_nothing (by rw [view_pending_length h]; exact h.got)
  rcases processPayload_split h payload with ⟨hbogus, hp⟩ | ⟨-, herror, hp⟩ | ⟨t, pubs, hp, ⟨ht⟩⟩
  · rw [arrival, if_pos (Or.inl hbogus), hnothing]
    exact ⟨s, [], hp, h, rfl, rfl, rfl, rfl⟩
  · rw [arrival, if_pos (Or.inr herror), hnothing]
    exact ⟨_, [], hp, ⟨h.1, h.2, h.3, h.4, h.5, h.6⟩, rfl, rfl, rfl, rfl⟩
  · obtain ⟨hb, hi, hc⟩ := ht.frame
    rw [receive, ← ht.chunk_eq]
    exact ⟨t, pubs, hp, hb, hi, hc, ht.view_eq h⟩

/-- The same for a sequence of payloads. -/
theorem processPayloads_receiveAll (payloads : List (List UInt8)) :
    ∀ {s : Assembly}, s.Bounded →
      ∃ t pubs, processPayloads s payloads = .ok (t, pubs) ∧ t.Bounded ∧
        t.isIsight = s.isIsight ∧ t.curCtrl = s.curCtrl ∧
        view t = (receiveAll s.maxVideoFrameSize.toNat (view s)
          (payloads.map (arrival s.isIsight))).1 ∧
        pubs.map Published.data = (receiveAll s.maxVideoFrameSize.toNat (view s)
          (payloads.map (arrival s.isIsight))).2 := by
  induction payloads with
  | nil => exact fun h => ⟨_, [], rfl, h, rfl, rfl, rfl, rfl⟩
  | cons p ps ih =>
    intro s h
    obtain ⟨u, a, hu, hub, hui, huc, huv, hua⟩ := processPayload_receive h p
    obtain ⟨t, b, ht, htb, hti, htc, htv, htp⟩ := ih hub
    rw [Assembly.maxVideoFrameSize, hui, huc, huv] at htv htp
    rw [processPayloads, hu, ok_bind]
    simp only []
    rw [ht, ok_bind]
    refine ⟨t, a ++ b, rfl, htb, hti.trans hui, htc.trans huc, htv, ?_⟩
    rw [List.map_append, hua, htp]
    rfl

/-! ## Every byte is accounted for -/

/-- Where the image data went: the payloads fall into consecutive groups, one for each frame that is
published and one for what is left in `outbuf`, with the piece that was taken of each payload. -/
structure Accounts (s : Assembly) (payloads : List (List UInt8)) (t : Assembly)
    (pubs : List Published) (closed : List (Group (List UInt8) UInt8))
    (current : Group (List UInt8) UInt8) : Prop where
  /-- What was published and what is left are what was there at first and then the pieces. -/
  total : (pubs.map Published.data).flatten ++ t.outbuf.take t.gotBytes =
    s.outbuf.take s.gotBytes ++
      (closed ++ [current]).flatMap fun g => g.shares.flatMap Prod.snd
  /-- Every payload is in one group, and they are in order. -/
  order : (closed ++ [current]).flatMap (fun g => g.shares.map Prod.fst) = payloads
  starts : (closed ++ [current]).map Group.start =
    s.outbuf.take s.gotBytes :: closed.map fun _ => []
  frames : pubs.map Published.data = closed.map Group.content
  left : t.outbuf.take t.gotBytes = current.content
  cut : ∀ g ∈ closed, ∀ c ∈ g.shares, c.2 <+: dataPart s.isIsight c.1
  /-- A piece that is less than the data part is the last one of a full frame. -/
  full : ∀ g ∈ closed, ∀ c ∈ g.shares, c.2 ≠ dataPart s.isIsight c.1 →
    g.content.length = s.maxVideoFrameSize.toNat
  lastOnly : ∀ g ∈ closed, ∀ c ∈ g.shares.dropLast, c.2 = dataPart s.isIsight c.1
  whole : ∀ c ∈ current.shares, c.2 = dataPart s.isIsight c.1
  /-- The payloads that contribute to a frame have the same frame id, if they have one. -/
  sameId : ∀ g ∈ closed ++ [current], ∀ c ∈ g.shares, ∀ d ∈ g.shares,
    dataPart s.isIsight c.1 ≠ [] → dataPart s.isIsight d.1 ≠ [] →
    ∀ fid ∈ frameId s.isIsight c.1, ∀ fid' ∈ frameId s.isIsight d.1, fid = fid'

/-- The books of the receiver, in terms of the payloads. -/
theorem accounts_of_books {s t : Assembly} {payloads : List (List UInt8)} {pubs : List Published}
    {closed : List (Group (List UInt8) UInt8)} {current : Group (List UInt8) UInt8}
    (h : Books (arrival s.isIsight) s.maxVideoFrameSize.toNat (view s) payloads (view t)
      (pubs.map Published.data) closed current)
    (hopen : Books.Open (arrival s.isIsight) (view t) current) :
    Accounts s payloads t pubs closed current where
  total := h.flatten_eq
  order := h.entered
  starts := h.starts
  frames := h.put
  left := h.pending
  cut g hg c hc := arrival_data s.isIsight c.1 ▸ (h.sound g hg).cut c hc
  full g hg c hc hne := (h.sound g hg).full c hc (arrival_data s.isIsight c.1 ▸ hne)
  lastOnly g hg c hc := arrival_data s.isIsight c.1 ▸ (h.sound g hg).whole c hc
  whole c hc := arrival_data s.isIsight c.1 ▸ hopen.whole c hc
  sameId := by
    have hsound := List.forall_mem_append.2 ⟨h.sound, List.forall_mem_singleton.2
      (hopen.whole.sound hopen.tagged)⟩
    intro g hg c hc d hd hcdata hddata fid hfid fid' hfid'
    refine (hsound g hg).uniform c hc d hd ?_ ?_ fid ?_ fid' ?_
    · rwa [arrival_data]
    · rwa [arrival_data]
    · rwa [arrival_tag hcdata]
    · rwa [arrival_tag hddata]

/-- What a payload finds in `outbuf` when its data part is appended: what is there, unless its frame
id has that published first. -/
def levelBefore (s : Assembly) (payload : List UInt8) : Nat :=
  match frameId s.isIsight payload with
  | some fid => if fid ≠ s.fid then 0 else s.gotBytes
  | none => s.gotBytes

theorem levelBefore_eq {s : Assembly} (h : s.Bounded) {payload : List UInt8}
    (hdata : dataPart s.isIsight payload ≠ []) :
    levelBefore s payload = (baseOf (view s) (arrival s.isIsight payload)).length := by
  rw [baseOf, supersedes, Arrival.chunk, arrival_tag hdata, levelBefore]
  cases frameId s.isIsight payload with
  | none =>
    rw [if_neg (by simp [stale]), view_pending_length h]
  | some fid =>
    simp only [ne_eq, ite_not, Option.getD_some]
    by_cases hfid : fid = s.fid
    · rw [if_pos hfid, if_neg (by simp [stale, hfid, view]), view_pending_length h]
    · rw [if_neg hfid]
      by_cases hgot : s.gotBytes = 0
      · have hnil : (view s).pending = [] := by
          by_contra hne
          exact (view_pending_ne_nil h).1 hne hgot
        rw [if_neg (by simp [stale, hnil]), hnil, List.length_nil]
      · have hne := (view_pending_ne_nil h).2 hgot
        have htag : (view s).tag ≠ fid := fun heq => hfid heq.symm
        rw [if_pos (by simp [stale, hne, htag]), List.length_nil]

/-- A payload whose data part does not fit has a full frame published before the call returns. -/
theorem processPayload_overflow {s : Assembly} (h : s.Bounded) {payload : List UInt8}
    (hlong : s.maxVideoFrameSize.toNat <
      levelBefore s payload + (dataPart s.isIsight payload).length) :
    ∃ t before frame, processPayload s payload = .ok (t, before ++ [frame]) ∧ t.gotBytes = 0 ∧
      frame.data.length = s.maxVideoFrameSize.toNat := by
  obtain ⟨t, pubs, hrun, hb, -, -, hview, hpubs⟩ := processPayload_receive h payload
  have hdata : dataPart s.isIsight payload ≠ [] := by
    intro hnil
    have hgot := h.got
    have hlevel : levelBefore s payload ≤ s.gotBytes := by
      rw [levelBefore]
      split
      · split
        · exact Nat.zero_le _
        · exact le_rfl
      · exact le_rfl
    rw [hnil, List.length_nil] at hlong
    omega
  rw [levelBefore_eq h hdata, ← arrival_data, ← List.length_append] at hlong
  obtain ⟨before, out, hreceive, hout⟩ := receive_overflow
    (by rw [view_pending_length h]; exact h.got) hlong
  rw [hreceive] at hview hpubs
  obtain ⟨ps, qs, rfl, -, hqs⟩ := List.map_eq_append_iff.1 hpubs
  obtain ⟨frame, rfl, hframe⟩ := List.map_eq_singleton_iff.1 hqs
  refine ⟨t, ps, frame, hrun, ?_, hframe ▸ hout⟩
  rw [← view_pending_length hb, hview, List.length_nil]

/-- **No image byte is lost, duplicated, reordered or mixed**, whatever the payloads are: every byte
of their data parts is accounted for, and if one of them does not fit, a full frame is published
within the same call. -/
theorem payloads_conserved (s : Assembly) (h : s.Bounded) (payloads : List (List UInt8)) :
    ∃ t pubs closed current, processPayloads s payloads = .ok (t, pubs) ∧
      Accounts s payloads t pubs closed current ∧
      ∀ pre p post, payloads = pre ++ p :: post →
        ∃ u v earlier during, processPayloads s pre = .ok (u, earlier) ∧
          processPayload u p = .ok (v, during) ∧
          (s.maxVideoFrameSize.toNat < levelBefore u p + (dataPart s.isIsight p).length →
            v.gotBytes = 0 ∧ ∃ frame, during.getLast? = some frame ∧
              frame.data.length = s.maxVideoFrameSize.toNat) := by
  obtain ⟨t, pubs, hrun, -, -, -, hview, hpubs⟩ := processPayloads_receiveAll payloads h
  have hlen : (view s).pending.length ≤ s.maxVideoFrameSize.toNat := by
    rw [view_pending_length h]
    exact h.got
  obtain ⟨-, closed, current, hbooks, hopen⟩ :=
    receiveAll_books (arrival s.isIsight) hlen payloads
  rw [← hview, ← hpubs] at hbooks
  rw [← hview] at hopen
  refine ⟨t, pubs, closed, current, hrun, accounts_of_books hbooks hopen, fun pre p post _ => ?_⟩
  obtain ⟨u, earlier, hpre, hub, hui, huc, -⟩ := processPayloads_receiveAll pre h
  obtain ⟨v, during, hv, -⟩ := processPayload_receive hub p
  refine ⟨u, v, earlier, during, hpre, hv, fun hlong => ?_⟩
  rw [← hui, Assembly.maxVideoFrameSize, ← huc] at hlong
  obtain ⟨v', before, frame, hv', hgot, hframe⟩ := processPayload_overflow hub hlong
  obtain ⟨rfl, rfl⟩ := Prod.mk.inj (Except.ok.inj (hv.symm.trans hv'))
  refine ⟨hgot, frame, List.getLast?_concat .., ?_⟩
  rw [hframe, Assembly.maxVideoFrameSize, huc]

/-- A stream with room for 4 bytes, sent an empty payload, a bogus header, an error, 5 bytes of one
frame and 1 of the next. -/
theorem payloads_conserved_overflow :
    ∃ t pubs closed current, processPayloads blinkStream
        [[], [9, 0], [2, 0x40, 1], [2, 0, 1, 2, 3, 4, 5], [2, 1, 6]] = .ok (t, pubs) ∧
      Accounts blinkStream [[], [9, 0], [2, 0x40, 1], [2, 0, 1, 2, 3, 4, 5], [2, 1, 6]] t pubs
        closed current := by
  obtain ⟨t, pubs, closed, current, hrun, haccounts, -⟩ := payloads_conserved blinkStream
    blinkStream_bounded [[], [9, 0], [2, 0x40, 1], [2, 0, 1, 2, 3, 4, 5], [2, 1, 6]]
  exact ⟨t, pubs, closed, current, hrun, haccounts⟩

end Stream
end LibUvc
