import LibUvc.Stream.Altsetting
import LibUvc.Stream.Playback
import LibUvc.Stream.Reassembly

/-!
# From the camera to the application

`Reassembly` takes payloads apart, `Playback` follows frames to the user, and both leave open where
the payloads come from.  They come out of the buffers of completed transfers: the one payload of a
bulk transfer, or the payloads of the packets of an isochronous one, which `_uvc_stream_callback`
walks through.  A `Feed` is a `Playback` with that walk.

* `StreamTransfer.Holds` says what was received in a transfer, by the layout of its buffer: one run
  of bytes, or one slot after the other.
* `StreamTransfer.arrival` is one round of the walk; on a transfer that libusb may hand over
  it stays in the buffer (`arrival_ok`), and all rounds together find what the transfer holds
  (`holds_payloads`).
* `Pipeline.rest` is what the handle will hold when the payload in progress is done.  It depends on
  the event thread alone, so a consumer in between changes nothing (`step_rest`).
* `Feed.Tracked` says that this is what the receiver of `Foundation.Reassembly` makes of the
  payloads that were taken out of the transfers so far.

Together with `Playback.Faithful` this gives `frames_arrive`: the bytes that the application sees
are those of the frames that the camera sent, across the cut into payloads, the cut into packets and
transfers, and any interleaving of the threads.
-/

set_option autoImplicit false

namespace LibUvc
namespace Stream

open Checked Transition Reassembly Descriptor

/-! ## Transfers -/

/-- `struct libusb_iso_packet_descriptor`. -/
structure IsoPacket where
  length : Nat
  actualLength : Nat
  status : Int
  deriving DecidableEq, Repr

/-- The part of `struct libusb_transfer` that `_uvc_stream_callback` reads.  `isoPackets` are the
first `num_iso_packets` entries of `iso_packet_desc`. -/
structure StreamTransfer where
  status : TransferStatus
  buffer : List UInt8
  actualLength : Nat
  isoPackets : List IsoPacket
  deriving DecidableEq, Repr

/-- How many rounds `_uvc_stream_callback` makes: one for a bulk transfer. -/
def StreamTransfer.rounds (t : StreamTransfer) : Nat :=
  if t.isoPackets.length = 0 then 1 else t.isoPackets.length

section Walk

-- where `libusb_get_iso_packet_buffer_simple` finds a packet, as an offset into the buffer
variable (packetBuffer : List IsoPacket → Nat → Nat)

/-- The round for `packet_id`: a payload for `_uvc_process_payload`, or a packet that only sets
`frame_had_errors`. -/
def StreamTransfer.arrival (t : StreamTransfer) (packetId : Nat) : Checked PipelineAction :=
  if t.isoPackets.length = 0 then do
    let bytes ← slice t.buffer 0 t.actualLength
    return .payload bytes
  else
    match t.isoPackets[packetId]? with
    | none => .error .outOfBounds
    | some pkt =>
      if pkt.status ≠ 0 then return .badPacket
      else do
        let bytes ← slice t.buffer (packetBuffer t.isoPackets packetId) pkt.actualLength
        return .payload bytes

/-- What `libusb_get_iso_packet_buffer_simple` is documented to do: where the packets of a transfer
are all of one length, packet `k` is found `k` times that length into the buffer. -/
def LocatesPackets : Prop :=
  ∀ packets len, (∀ pkt ∈ packets, pkt.length = len) →
    ∀ k < packets.length, packetBuffer packets k = len * k

/-- What libusb promises about a transfer that has completed: no more bytes than there is room
for. -/
structure StreamTransfer.Valid (t : StreamTransfer) : Prop where
  bulk : t.isoPackets.length = 0 → t.actualLength ≤ t.buffer.length
  received : ∀ pkt ∈ t.isoPackets, pkt.actualLength ≤ pkt.length
  slots : ∃ len, (∀ pkt ∈ t.isoPackets, pkt.length = len) ∧
    len * t.isoPackets.length ≤ t.buffer.length

variable {packetBuffer}

/-- A packet ends before the next one starts, and so inside the buffer. -/
theorem packet_inside (hp : LocatesPackets packetBuffer) {t : StreamTransfer} (h : t.Valid)
    {k : Nat} {pkt : IsoPacket} (hk : t.isoPackets[k]? = some pkt) :
    packetBuffer t.isoPackets k + pkt.actualLength ≤ t.buffer.length := by
  obtain ⟨len, hlen, hroom⟩ := h.slots
  obtain ⟨hlt, -⟩ := List.getElem?_eq_some_iff.1 hk
  have hmem := List.mem_of_getElem? hk
  calc packetBuffer t.isoPackets k + pkt.actualLength
      ≤ len * k + len := by
        rw [hp _ len hlen k hlt, ← hlen pkt hmem]
        exact Nat.add_le_add_left (h.received pkt hmem) _
    _ = len * (k + 1) := (Nat.mul_succ _ _).symm
    _ ≤ len * t.isoPackets.length := Nat.mul_le_mul_left _ hlt
    _ ≤ t.buffer.length := hroom

/-- **The walk stays in the buffer.** -/
theorem arrival_ok (hp : LocatesPackets packetBuffer) {t : StreamTransfer} (h : t.Valid) {k : Nat}
    (hk : k < t.rounds) :
    t.arrival packetBuffer k = .ok .badPacket ∨
      ∃ bytes, t.arrival packetBuffer k = .ok (.payload bytes) := by
  rw [StreamTransfer.rounds] at hk
  rw [StreamTransfer.arrival]
  split
  · rename_i hbulk
    rw [slice_eq (by have := h.bulk hbulk; omega)]
    exact Or.inr ⟨_, rfl⟩
  · rename_i hiso
    rw [if_neg hiso] at hk
    rw [List.getElem?_eq_getElem hk]
    simp only []
    split
    · exact Or.inl rfl
    · rw [slice_eq (packet_inside hp h (List.getElem?_eq_getElem hk))]
      exact Or.inr ⟨_, rfl⟩

end Walk

/-- The transfers that `uvc_stream_start` sets up for the packets of `choice` keep what libusb
promises as soon as each packet received fits its slot. -/
theorem choice_valid {altsetting : AltSetting} {bytes frameSize : Nat} {choice : Choice}
    (hc : sizeTransfer altsetting bytes frameSize = .ok choice) (hbytes : bytes ≠ 0)
    {t : StreamTransfer} (hpackets : t.isoPackets.length = choice.packetsPerTransfer)
    (hbuffer : t.buffer.length = choice.totalTransferSize)
    (hlength : ∀ pkt ∈ t.isoPackets, pkt.length = choice.endpointBytesPerPacket)
    (hreceived : ∀ pkt ∈ t.isoPackets, pkt.actualLength ≤ pkt.length)
    (hbulk : t.isoPackets.length = 0 → t.actualLength = 0) : t.Valid := by
  rw [sizeTransfer_eq altsetting hbytes] at hc
  obtain rfl := Except.ok.inj hc
  refine ⟨fun h => by rw [hbulk h]; exact Nat.zero_le _, hreceived, _, hlength, ?_⟩
  rw [hbuffer, hpackets, Nat.mul_comm]

/-! ## What a transfer holds -/

/-- The part of the buffer that belongs to one packet: what was received, at its start, and what the
packet left as it was. -/
structure IsoSlot where
  received : List UInt8
  unused : List UInt8
  status : Int
  deriving DecidableEq, Repr

def IsoSlot.bytes (s : IsoSlot) : List UInt8 := s.received ++ s.unused

def IsoSlot.packet (s : IsoSlot) : IsoPacket := ⟨s.bytes.length, s.received.length, s.status⟩

/-- A packet that failed holds nothing. -/
def IsoSlot.holds (s : IsoSlot) : List (List UInt8) := if s.status = 0 then [s.received] else []

/-- **What was received in a transfer**, one run of bytes after the other.  A bulk transfer has one,
at the start of its buffer; the buffer of an isochronous transfer is one slot after the other, all
of one length. -/
inductive StreamTransfer.Holds (t : StreamTransfer) : List (List UInt8) → Prop where
  | bulk (received unused : List UInt8) (hpackets : t.isoPackets = [])
      (hbuffer : t.buffer = received ++ unused) (hlength : t.actualLength = received.length) :
      t.Holds [received]
  | iso (slots : List IsoSlot) (unused : List UInt8) (len : Nat) (hne : slots ≠ [])
      (hlen : ∀ s ∈ slots, s.bytes.length = len)
      (hpackets : t.isoPackets = slots.map IsoSlot.packet)
      (hbuffer : t.buffer = slots.flatMap IsoSlot.bytes ++ unused) :
      t.Holds (slots.flatMap IsoSlot.holds)

theorem slots_length {slots : List IsoSlot} {len : Nat} (hlen : ∀ s ∈ slots, s.bytes.length = len) :
    (slots.flatMap IsoSlot.bytes).length = len * slots.length := by
  induction slots with
  | nil => rfl
  | cons s slots ih =>
    rw [List.flatMap_cons, List.length_append, ih fun u hu => hlen u (List.mem_cons_of_mem _ hu),
      hlen s List.mem_cons_self, List.length_cons, Nat.mul_succ, Nat.add_comm]

theorem holds_valid {t : StreamTransfer} {contents : List (List UInt8)} (h : t.Holds contents) :
    t.Valid := by
  cases h with
  | bulk received unused hpackets hbuffer hlength =>
    refine ⟨fun _ => ?_, by simp [hpackets], 0, by simp [hpackets], by simp⟩
    rw [hbuffer, hlength, List.length_append]
    exact Nat.le_add_right _ _
  | iso slots unused len hne hlen hpackets hbuffer =>
    refine ⟨fun hnil => absurd (List.length_eq_zero_iff.1 hnil) (by simpa [hpackets] using hne),
      fun pkt hpkt => ?_, len, fun pkt hpkt => ?_, ?_⟩
    · obtain ⟨s, -, rfl⟩ := List.mem_map.1 (hpackets ▸ hpkt)
      simp [IsoSlot.packet, IsoSlot.bytes]
    · obtain ⟨s, hs, rfl⟩ := List.mem_map.1 (hpackets ▸ hpkt)
      exact hlen s hs
    · rw [hpackets, hbuffer, List.length_map, List.length_append, slots_length hlen]
      exact Nat.le_add_right _ _

/-- A buffer with room for the packets is the slots of the packets and what is behind them. -/
theorem exists_slots {len : Nat} (packets : List IsoPacket) :
    ∀ buffer : List UInt8, (∀ pkt ∈ packets, pkt.length = len) →
      (∀ pkt ∈ packets, pkt.actualLength ≤ pkt.length) →
      len * packets.length ≤ buffer.length →
      ∃ (slots : List IsoSlot) (unused : List UInt8), packets = slots.map IsoSlot.packet ∧
        (∀ s ∈ slots, s.bytes.length = len) ∧ buffer = slots.flatMap IsoSlot.bytes ++ unused := by
  induction packets with
  | nil => exact fun buffer _ _ _ => ⟨[], buffer, rfl, by simp, rfl⟩
  | cons pkt packets ih =>
    intro buffer hlen hrec hroom
    rw [List.length_cons, Nat.mul_succ] at hroom
    obtain ⟨slots, unused, hpackets, hslots, hbuffer⟩ := ih (buffer.drop len)
      (fun p hp => hlen p (List.mem_cons_of_mem _ hp))
      (fun p hp => hrec p (List.mem_cons_of_mem _ hp)) (by rw [List.length_drop]; omega)
    have hfirst : pkt.length = len := hlen pkt List.mem_cons_self
    have hactual : pkt.actualLength ≤ len := hfirst ▸ hrec pkt List.mem_cons_self
    let s : IsoSlot :=
      ⟨buffer.take pkt.actualLength, (buffer.take len).drop pkt.actualLength, pkt.status⟩
    have hbytes : s.bytes = buffer.take len := by
      rw [← List.take_append_drop pkt.actualLength (buffer.take len), List.take_take,
        Nat.min_eq_left hactual]
      rfl
    have hsize : s.bytes.length = len := by
      rw [hbytes, List.length_take]
      omega
    have hpacket : s.packet = pkt := by
      rw [IsoSlot.packet, hsize, ← hfirst, List.length_take, Nat.min_eq_left (by omega)]
    refine ⟨s :: slots, unused, by rw [List.map_cons, hpacket, hpackets], ?_, ?_⟩
    · exact List.forall_mem_cons.2 ⟨hsize, hslots⟩
    · rw [List.flatMap_cons, hbytes, List.append_assoc, ← hbuffer, List.take_append_drop]

/-- Whatever libusb may hand over holds something. -/
theorem valid_holds {t : StreamTransfer} (h : t.Valid) : ∃ contents, t.Holds contents := by
  by_cases hbulk : t.isoPackets = []
  · have hle := h.bulk (by rw [hbulk]; rfl)
    exact ⟨_, .bulk (t.buffer.take t.actualLength) (t.buffer.drop t.actualLength) hbulk
      (List.take_append_drop _ _).symm (by rw [List.length_take, Nat.min_eq_left hle])⟩
  · obtain ⟨len, hlen, hroom⟩ := h.slots
    obtain ⟨slots, unused, hpackets, hslots, hbuffer⟩ :=
      exists_slots t.isoPackets t.buffer hlen h.received hroom
    exact ⟨_, .iso slots unused len (by rintro rfl; exact hbulk hpackets) hslots hpackets hbuffer⟩

section Payloads

variable (packetBuffer : List IsoPacket → Nat → Nat)

/-- The payload of a round, if it has one. -/
def StreamTransfer.payloadOf (t : StreamTransfer) (packetId : Nat) : List (List UInt8) :=
  match t.arrival packetBuffer packetId with
  | .ok (.payload bytes) => [bytes]
  | _ => []

/-- The payloads of the first `n` rounds. -/
def StreamTransfer.payloadsBefore (t : StreamTransfer) (n : Nat) : List (List UInt8) :=
  (List.range n).flatMap (t.payloadOf packetBuffer)

/-- What `_uvc_stream_callback` makes of a completed transfer. -/
def StreamTransfer.payloads (t : StreamTransfer) : List (List UInt8) :=
  t.payloadsBefore packetBuffer t.rounds

theorem payloadsBefore_succ (t : StreamTransfer) (n : Nat) :
    t.payloadsBefore packetBuffer (n + 1) =
      t.payloadsBefore packetBuffer n ++ t.payloadOf packetBuffer n := by
  rw [StreamTransfer.payloadsBefore, List.range_succ, List.flatMap_append, List.flatMap_singleton]
  rfl

theorem payloadsBefore_mono (t : StreamTransfer) {k n : Nat} (h : k ≤ n) :
    t.payloadsBefore packetBuffer k <+: t.payloadsBefore packetBuffer n := by
  induction h with
  | refl => exact List.prefix_refl _
  | step _ ih => exact ih.trans (payloadsBefore_succ packetBuffer t _ ▸ List.prefix_append _ _)

variable {packetBuffer}

/-- The round for a slot finds what the slot holds. -/
theorem slot_payloadOf (hp : LocatesPackets packetBuffer) {t : StreamTransfer}
    {front back : List IsoSlot} {s : IsoSlot} {unused : List UInt8} {len : Nat}
    (hlen : ∀ u ∈ front ++ s :: back, u.bytes.length = len)
    (hpackets : t.isoPackets = (front ++ s :: back).map IsoSlot.packet)
    (hbuffer : t.buffer = (front ++ s :: back).flatMap IsoSlot.bytes ++ unused) :
    t.payloadOf packetBuffer front.length = s.holds := by
  have hget : t.isoPackets[front.length]? = some s.packet := by simp [hpackets]
  have hplace : packetBuffer t.isoPackets front.length = (front.flatMap IsoSlot.bytes).length := by
    rw [slots_length fun u hu => hlen u (List.mem_append_left _ hu)]
    refine hp _ len (fun pkt hpkt => ?_) _ (List.getElem?_eq_some_iff.1 hget).1
    obtain ⟨u, hu, rfl⟩ := List.mem_map.1 (hpackets ▸ hpkt)
    exact hlen u hu
  have hslice : slice t.buffer (packetBuffer t.isoPackets front.length) s.received.length =
      .ok s.received := by
    rw [hplace, hbuffer, List.flatMap_append, List.flatMap_cons, IsoSlot.bytes]
    simp only [List.append_assoc]
    exact slice_append _ _ _
  have hiso : t.isoPackets.length ≠ 0 := by simp [hpackets]
  have harrival : t.arrival packetBuffer front.length =
      if s.status ≠ 0 then .ok .badPacket else .ok (.payload s.received) := by
    rw [StreamTransfer.arrival, if_neg hiso, hget]
    simp only [IsoSlot.packet, hslice, ok_bind]
    rfl
  rw [StreamTransfer.payloadOf, harrival, IsoSlot.holds]
  by_cases hstatus : s.status = 0 <;> simp [hstatus]

/-- **The walk finds what the transfer holds**: nothing is lost, and nothing else is taken. -/
theorem holds_payloads (hp : LocatesPackets packetBuffer) {t : StreamTransfer}
    {contents : List (List UInt8)} (h : t.Holds contents) :
    t.payloads packetBuffer = contents := by
  cases h with
  | bulk received unused hpackets hbuffer hlength =>
    have hslice : slice t.buffer 0 t.actualLength = .ok received := by
      rw [hbuffer, hlength]
      exact slice_append [] received unused
    rw [StreamTransfer.payloads, StreamTransfer.rounds, if_pos (by rw [hpackets]; rfl)]
    simp [StreamTransfer.payloadsBefore, StreamTransfer.payloadOf, StreamTransfer.arrival, hpackets,
      hslice]
  | iso slots unused len hne hlen hpackets hbuffer =>
    have hrounds : t.rounds = slots.length := by
      rw [StreamTransfer.rounds, hpackets, List.length_map,
        if_neg (by simpa using hne)]
    -- the rounds so far have found what the slots so far hold
    have hwalk : ∀ front back, slots = front ++ back →
        t.payloadsBefore packetBuffer front.length = front.flatMap IsoSlot.holds := by
      intro front
      induction front using List.reverseRecOn with
      | nil => exact fun _ _ => rfl
      | append_singleton front s ih =>
        intro back hslots
        rw [List.append_assoc, List.singleton_append] at hslots
        rw [List.length_append, List.length_singleton, payloadsBefore_succ, ih _ hslots,
          slot_payloadOf hp (hslots ▸ hlen) (hslots ▸ hpackets) (hslots ▸ hbuffer),
          List.flatMap_append, List.flatMap_singleton]
    rw [StreamTransfer.payloads, hrounds, hwalk slots [] (List.append_nil _).symm]

/-- The same for one transfer after the other. -/
theorem payloads_received (hp : LocatesPackets packetBuffer) {ts : List StreamTransfer}
    {contents : List (List (List UInt8))} (h : List.Forall₂ StreamTransfer.Holds ts contents) :
    ts.flatMap (StreamTransfer.payloads packetBuffer) = contents.flatten := by
  induction h with
  | nil => rfl
  | cons hfirst _ ih => rw [List.flatMap_cons, List.flatten_cons, holds_payloads hp hfirst, ih]

theorem exists_holds {ts : List StreamTransfer} {contents : List (List (List UInt8))}
    (h : List.Forall₂ StreamTransfer.Holds ts contents) {t : StreamTransfer} (ht : t ∈ ts) :
    ∃ held ∈ contents, t.Holds held := by
  induction h with
  | nil => exact absurd ht (by simp)
  | cons hfirst _ ih =>
    rcases List.mem_cons.1 ht with rfl | ht
    · exact ⟨_, List.mem_cons_self, hfirst⟩
    · obtain ⟨held, hmem, hheld⟩ := ih ht
      exact ⟨held, List.mem_cons_of_mem _ hmem, hheld⟩

end Payloads

/-! ## The callback -/

/-- A stream with the transfer that `_uvc_stream_callback` is working on. -/
structure Feed where
  play : Playback
  /-- The transfer and its `packet_id`. -/
  current : Option (StreamTransfer × Nat) := none
  /-- The completed transfers that were worked through. -/
  done : List StreamTransfer := []
  deriving DecidableEq, Repr

/-- What can happen next. -/
inductive FeedAction where
  /-- libusb calls `_uvc_stream_callback`. -/
  | callback (t : StreamTransfer)
  /-- The next round of its loop. -/
  | packet
  /-- The loop has ended. -/
  | finish
  /-- Anything but the arrival of a payload or a packet. -/
  | other (a : PipelineAction)
  deriving DecidableEq, Repr

/-- The transfer that libusb hands over with everything in it. -/
def FeedAction.completed : FeedAction → List StreamTransfer
  | .callback t => if t.status = .completed then [t] else []
  | _ => []

/-- The event thread goes on with a payload, or somebody else does something. -/
def PipelineAction.isOther : PipelineAction → Bool
  | .payload _ | .badPacket => false
  | _ => true

section Run

variable (packetBuffer : List IsoPacket → Nat → Nat) (junk : Nat → UInt8) (info : DeviceInfo)
  (format : FrameFormat)

/-- One step.  Only the branch `LIBUSB_TRANSFER_COMPLETED` looks at the data; what the others do
with the transfer is the matter of `Lifetime.Slots`. -/
def Feed.step (f : Feed) : FeedAction → Option Feed
  | .callback t =>
    match f.current with
    | some _ => none
    | none => if t.status = .completed then some { f with current := some (t, 0) } else some f
  | .packet =>
    match f.current with
    | some (t, k) =>
      if k < t.rounds then do
        let a ← (t.arrival packetBuffer k).toOption
        let play ← f.play.step junk info format a
        return { f with play := play, current := some (t, k + 1) }
      else none
    | none => none
  | .finish =>
    match f.current with
    | some (t, k) =>
      if k = t.rounds ∧ f.play.pipe.event = .idle then
        some { f with current := none, done := f.done ++ [t] }
      else none
    | none => none
  | .other a =>
    if a.isOther then do
      let play ← f.play.step junk info format a
      return { f with play := play }
    else none

/-- The first run of a stream, before its first transfer completes. -/
def Feed.start (asm : Assembly) (callback : Bool) : Feed where
  play := .start asm callback

end Run

/-- The completed transfers, with the one that is being worked on. -/
def Feed.completed (f : Feed) : List StreamTransfer := f.done ++ (f.current.map Prod.fst).toList

/-- The payloads that were handed to `_uvc_process_payload`. -/
def Feed.consumed (packetBuffer : List IsoPacket → Nat → Nat) (f : Feed) : List (List UInt8) :=
  f.done.flatMap (StreamTransfer.payloads packetBuffer) ++
    (f.current.map fun x => x.1.payloadsBefore packetBuffer x.2).getD []

/-- The transfers kept are those that libusb has handed over. -/
theorem step_completed {packetBuffer : List IsoPacket → Nat → Nat} {junk : Nat → UInt8}
    {info : DeviceInfo} {format : FrameFormat} (f : Feed) (a : FeedAction) (g : Feed)
    (hs : f.step packetBuffer junk info format a = some g) :
    g.completed = f.completed ++ a.completed := by
  rw [Feed.completed, Feed.completed, FeedAction.completed.eq_def]
  cases a with
  | callback t =>
    cases hcurrent : f.current with
    | some => simp [Feed.step, hcurrent] at hs
    | none =>
      simp only [Feed.step, hcurrent] at hs
      split at hs
      · rename_i hstatus
        obtain rfl := Option.some.inj hs
        simp [hstatus]
      · rename_i hstatus
        obtain rfl := Option.some.inj hs
        simp [hcurrent, hstatus]
  | packet =>
    cases hcurrent : f.current with
    | none => simp [Feed.step, hcurrent] at hs
    | some x =>
      simp only [Feed.step, hcurrent] at hs
      split at hs
      · obtain ⟨_, -, hs⟩ := Option.bind_eq_some_iff.1 hs
        obtain ⟨_, -, hs⟩ := Option.bind_eq_some_iff.1 hs
        obtain rfl := Option.some.inj hs
        simp
      · cases hs
  | finish =>
    cases hcurrent : f.current with
    | none => simp [Feed.step, hcurrent] at hs
    | some x =>
      simp only [Feed.step, hcurrent] at hs
      split at hs
      · obtain rfl := Option.some.inj hs
        simp
      · cases hs
  | other a =>
    rw [Feed.step] at hs
    split at hs
    · obtain ⟨_, -, hs⟩ := Option.bind_eq_some_iff.1 hs
      obtain rfl := Option.some.inj hs
      simp
    · cases hs

/-! ## What the event thread makes of the payloads -/

/-- The handle and the frames published once the payload in progress is done. -/
def Pipeline.rest (s : Pipeline) : Checked (Assembly × List Published) :=
  match s.event with
  | .idle => return (s.asm, s.published)
  | .body bytes headerLen dataLen info => do
    let asm ← noteHeader s.asm bytes headerLen info
    let (asm, due) ← appendData asm bytes headerLen dataLen info
    return ((swapIf due asm).1, s.published ++ (swapIf due asm).2)

theorem rest_idle {s : Pipeline} (h : s.event = .idle) : s.rest = .ok (s.asm, s.published) := by
  rw [Pipeline.rest, h]
  rfl

theorem rest_congr {s t : Pipeline} (hevent : t.event = s.event) (hasm : t.asm = s.asm)
    (hpub : t.published = s.published) : t.rest = s.rest := by
  rw [Pipeline.rest, Pipeline.rest, hevent, hasm, hpub]

/-- The second half of a payload is what was left of it. -/
theorem body_rest {s t : Pipeline} {bytes : List UInt8} {headerLen dataLen : Nat} {info : UInt8}
    (hevent : s.event = .body bytes headerLen dataLen info)
    (hs : s.body bytes headerLen dataLen info = .ok t) : t.rest = s.rest := by
  rw [Pipeline.body, bind_eq_ok] at hs
  obtain ⟨mid, hmid, hs⟩ := hs
  rw [bind_eq_ok] at hs
  obtain ⟨⟨asm, due⟩, happend, hs⟩ := hs
  obtain rfl := Except.ok.inj hs
  have hidle : (Pipeline.publishIf due { s with asm := asm, event := .idle }).event = .idle := by
    cases due <;> rfl
  rw [rest_idle hidle, publishIf_asm, publishIf_published, Pipeline.rest, hevent]
  simp only []
  rw [hmid, ok_bind, happend]
  rfl

/-- **Only payloads and lost packets count**: whatever else happens, the outcome of the payload in
progress stays the same. -/
theorem step_rest {s t : Pipeline} {a : PipelineAction} (ha : a.isOther = true)
    (hs : s.step a = some t) : t.rest = s.rest := by
  cases step_inv hs with
  | payload | lost => exact absurd ha (by simp [PipelineAction.isOther])
  | body hevent hok => exact body_rest hevent hok
  | strolls hstroll =>
    obtain ⟨c, r, rfl, -⟩ := hstroll
    exact rest_congr rfl rfl rfl
  | checks hc =>
    rw [Pipeline.check]
    split
    · exact rest_congr rfl rfl rfl
    · split <;> exact rest_congr rfl rfl rfl
  | polls hpolls hc =>
    rw [Pipeline.pollOr]
    split <;> exact rest_congr rfl rfl rfl

/-- The payload in progress can only add to what is published. -/
theorem rest_published {s : Pipeline} {x : Assembly × List Published} (h : s.rest = .ok x) :
    s.published <+: x.2 := by
  rw [Pipeline.rest] at h
  split at h
  · obtain rfl := Except.ok.inj h
    exact List.prefix_refl _
  · simp only [bind_eq_ok] at h
    obtain ⟨mid, -, ⟨asm, due⟩, -, h⟩ := h
    obtain rfl := Except.ok.inj h
    exact List.prefix_append _ _

theorem step_stays_idle {s t : Pipeline} {a : PipelineAction} (ha : a.isOther = true)
    (hs : s.step a = some t) (hidle : s.event = .idle) : t.event = .idle := by
  cases step_inv hs with
  | payload | lost => exact absurd ha (by simp [PipelineAction.isOther])
  | body hevent => exact absurd (hidle.symm.trans hevent) (by simp)
  | strolls hstroll =>
    obtain ⟨c, r, rfl, -⟩ := hstroll
    exact hidle
  | checks hc =>
    rw [Pipeline.check]
    split
    · exact hidle
    · split <;> exact hidle
  | polls hpolls hc =>
    rw [Pipeline.pollOr]
    split <;> exact hidle

/-- The first half of a payload leaves what `processPayload` makes of all of it. -/
theorem payload_rest {s t : Pipeline} {bytes : List UInt8} {asm : Assembly} {pubs : List Published}
    (hidle : s.event = .idle) (hs : s.payload bytes = .ok t)
    (hp : processPayload s.asm bytes = .ok (asm, pubs)) :
    t.rest = .ok (asm, s.published ++ pubs) := by
  rw [Pipeline.payload, bind_eq_ok] at hs
  obtain ⟨split, hsplit, hs⟩ := hs
  rw [processPayload, hsplit, ok_bind] at hp
  cases split with
  | none =>
    obtain rfl := Except.ok.inj hs
    obtain ⟨rfl, rfl⟩ := Prod.mk.inj (Except.ok.inj hp)
    rw [rest_idle hidle, List.append_nil]
  | some lens =>
    obtain ⟨headerLen, dataLen⟩ := lens
    simp only [] at hs hp
    rw [bind_eq_ok] at hs
    obtain ⟨flags, hflags, hs⟩ := hs
    rw [hflags, ok_bind] at hp
    cases flags with
    | none =>
      obtain rfl := Except.ok.inj hs
      obtain ⟨rfl, rfl⟩ := Prod.mk.inj (Except.ok.inj hp)
      rw [List.append_nil]
      exact rest_idle hidle
    | some info =>
      obtain rfl := Except.ok.inj hs
      simp only [bind_eq_ok] at hp
      obtain ⟨mid, hmid, ⟨full, due⟩, happend, hp⟩ := hp
      obtain ⟨rfl, rfl⟩ := Prod.mk.inj (Except.ok.inj hp)
      rw [Pipeline.rest]
      simp only [publishIf_asm, publishIf_published]
      rw [hmid, ok_bind, happend, ok_bind, List.append_assoc]
      rfl

/-- A packet without data is no payload at all. -/
theorem payload_nil {s t : Pipeline} (hs : s.payload [] = .ok t) : t = s := by
  obtain rfl := Except.ok.inj hs
  rfl

/-- The handle and the frames published are what the receiver makes of the chunks. -/
structure Received (m : UInt32) (cs : List (Chunk UInt8 UInt8)) (x : Assembly × List Published) :
    Prop where
  notIsight : x.1.isIsight = false
  sized : x.1.maxVideoFrameSize = m
  pending : view x.1 = (absorbAll m.toNat ⟨0, []⟩ cs).1
  published : x.2.map Published.data = (absorbAll m.toNat ⟨0, []⟩ cs).2

/-- One more payload is one more chunk. -/
theorem Received.payload {m : UInt32} {cs : List (Chunk UInt8 UInt8)} {s t : Pipeline}
    (h : Received m cs (s.asm, s.published)) (hb : s.asm.Bounded) (hidle : s.event = .idle)
    {p : WirePayload} (hs : s.payload p.bytes = .ok t) :
    ∃ x, t.rest = .ok x ∧ Received m (cs ++ [p.chunk]) x := by
  obtain ⟨asm, pubs, hp, -, hisight, hctrl, hview, hpubs⟩ := processPayload_absorb hb h.notIsight p
  have hsize : s.asm.maxVideoFrameSize = m := h.sized
  have hpend : view s.asm = _ := h.pending
  have hdone : s.published.map Published.data = _ := h.published
  rw [hsize, hpend] at hview hpubs
  refine ⟨_, payload_rest hidle hs hp, hisight, ?_, ?_, ?_⟩
  · rw [← hsize, Assembly.maxVideoFrameSize, Assembly.maxVideoFrameSize, hctrl]
  · rw [absorbAll_append]
    exact hview
  · rw [absorbAll_append, List.map_append, hpubs, hdone]
    simp [absorbAll]

/-! ## Runs -/

section Run

variable {packetBuffer : List IsoPacket → Nat → Nat} {junk : Nat → UInt8} {info : DeviceInfo}
  {format : FrameFormat}

/-- The invariant.  The payloads that carry anything are read as the chunks of well-formed ones. -/
structure Feed.Tracked (packetBuffer : List IsoPacket → Nat → Nat) (m : UInt32)
    (f : Feed) : Prop where
  faithful : f.play.Faithful
  ordered : f.play.pipe.published.length < 2 ^ 32 → f.play.pipe.Ordered
  within : ∀ t k, f.current = some (t, k) → k ≤ t.rounds
  idle : f.current = none → f.play.pipe.event = .idle
  received : ∀ ps : List WirePayload,
    (f.consumed packetBuffer).filter (· ≠ []) = ps.map WirePayload.bytes →
      ∃ x, f.play.pipe.rest = .ok x ∧ Received m (ps.map WirePayload.chunk) x

/-- A step of the playback keeps the consumer's half. -/
theorem play_tracked {m : UInt32} {f : Feed} {a : PipelineAction} {q : Playback}
    (h : f.Tracked packetBuffer m) (hs : f.play.step junk info format a = some q) :
    q.Faithful ∧ (q.pipe.published.length < 2 ^ 32 → q.pipe.Ordered) := by
  refine ⟨playback_step_faithful h.faithful hs, fun hw => ?_⟩
  obtain ⟨hpipe, -⟩ := playback_step_cases hs
  have hlt := lt_of_le_of_lt (published_length_le h.faithful.coherent.assembled hpipe) hw
  exact step_ordered h.faithful.coherent (h.ordered hlt) hlt hpipe

/-- A round without a payload: the packet was lost. -/
theorem lost_received {m : UInt32} {s t : Pipeline} {cs : List (Chunk UInt8 UInt8)}
    (hs : s.step .badPacket = some t) (h : ∃ x, s.rest = .ok x ∧ Received m cs x) :
    ∃ x, t.rest = .ok x ∧ Received m cs x := by
  cases step_inv hs with
  | lost hidle =>
    obtain ⟨x, hx, hrec⟩ := h
    obtain rfl := Except.ok.inj ((rest_idle hidle).symm.trans hx)
    exact ⟨_, rest_idle hidle, ⟨hrec.notIsight, hrec.sized, hrec.pending, hrec.published⟩⟩
  | strolls hstroll =>
    obtain ⟨c, r, rfl, -⟩ := hstroll
    exact h
  | polls hpolls =>
    rcases hpolls with ⟨ha, -⟩ | ⟨⟨_, ha⟩, -⟩ <;> exact absurd ha (by simp)

/-- A round with a payload. -/
theorem payload_received {m : UInt32} {s t : Pipeline} {bytes : List UInt8}
    {pre : List (List UInt8)} (hb : s.asm.Bounded) (hs : s.step (.payload bytes) = some t)
    (h : ∀ ps : List WirePayload, pre.filter (· ≠ []) = ps.map WirePayload.bytes →
      ∃ x, s.rest = .ok x ∧ Received m (ps.map WirePayload.chunk) x)
    (ps : List WirePayload)
    (hps : (pre ++ [bytes]).filter (· ≠ []) = ps.map WirePayload.bytes) :
    ∃ x, t.rest = .ok x ∧ Received m (ps.map WirePayload.chunk) x := by
  rw [Pipeline.step] at hs
  split at hs
  · rename_i hidle
    have hok := eq_ok_of_toOption hs
    by_cases hnil : bytes = []
    · subst hnil
      rw [payload_nil hok]
      exact h ps (by simpa using hps)
    · have hone : [bytes].filter (· ≠ []) = [bytes] := List.filter_eq_self.2 (by simpa using hnil)
      rw [List.filter_append, hone] at hps
      obtain ⟨qs, rs, rfl, hqs, hrs⟩ := List.map_eq_append_iff.1 hps.symm
      obtain ⟨p, rfl, rfl⟩ := List.map_eq_singleton_iff.1 hrs
      obtain ⟨x, hx, hrec⟩ := h qs hqs.symm
      obtain rfl := Except.ok.inj ((rest_idle hidle).symm.trans hx)
      obtain ⟨y, hy, hrec'⟩ := hrec.payload hb hidle hok
      exact ⟨y, hy, by rw [List.map_append]; exact hrec'⟩
  · exact absurd hs (by simp)

theorem payloadOf_eq {t : StreamTransfer} {k : Nat} {a : PipelineAction}
    (h : t.arrival packetBuffer k = .ok a) :
    (∃ bytes, a = .payload bytes ∧ t.payloadOf packetBuffer k = [bytes]) ∨
      (a = .badPacket ∧ t.payloadOf packetBuffer k = []) := by
  have hkind : (∃ bytes, a = .payload bytes) ∨ a = .badPacket := by
    rw [StreamTransfer.arrival] at h
    split at h
    · rw [bind_eq_ok] at h
      obtain ⟨bytes, -, h⟩ := h
      exact Or.inl ⟨bytes, (Except.ok.inj h).symm⟩
    · split at h
      · exact absurd h (by simp)
      · split at h
        · exact Or.inr (Except.ok.inj h).symm
        · rw [bind_eq_ok] at h
          obtain ⟨bytes, -, h⟩ := h
          exact Or.inl ⟨bytes, (Except.ok.inj h).symm⟩
  rcases hkind with ⟨bytes, rfl⟩ | rfl
  · exact Or.inl ⟨bytes, rfl, by rw [StreamTransfer.payloadOf, h]⟩
  · exact Or.inr ⟨rfl, by rw [StreamTransfer.payloadOf, h]⟩

theorem consumed_current {f : Feed} {t : StreamTransfer} {k : Nat} (h : f.current = some (t, k)) :
    f.consumed packetBuffer =
      f.done.flatMap (StreamTransfer.payloads packetBuffer) ++ t.payloadsBefore packetBuffer k := by
  rw [Feed.consumed, h]
  rfl

theorem consumed_none {f : Feed} (h : f.current = none) :
    f.consumed packetBuffer = f.done.flatMap (StreamTransfer.payloads packetBuffer) := by
  rw [Feed.consumed, h, Option.map_none, Option.getD_none, List.append_nil]

/-- **One step of the feed keeps the invariant.** -/
theorem Feed.Tracked.step {m : UInt32} {f g : Feed} {a : FeedAction} (h : f.Tracked packetBuffer m)
    (hs : f.step packetBuffer junk info format a = some g) : g.Tracked packetBuffer m := by
  cases a with
  | callback t =>
    rw [Feed.step] at hs
    cases hcurrent : f.current with
    | some => rw [hcurrent] at hs; exact absurd hs (by simp)
    | none =>
      rw [hcurrent] at hs
      simp only [] at hs
      split at hs
      · obtain rfl := Option.some.inj hs
        refine ⟨h.faithful, h.ordered, fun u k hu => ?_, fun hu => absurd hu (by simp), ?_⟩
        · obtain ⟨rfl, rfl⟩ := Prod.mk.inj (Option.some.inj hu)
          exact Nat.zero_le _
        · have hsame : Feed.consumed packetBuffer { f with current := some (t, 0) } =
              f.consumed packetBuffer := by
            rw [consumed_current rfl, consumed_none hcurrent]
            exact List.append_nil _
          exact fun ps hps => h.received ps (hsame ▸ hps)
      · obtain rfl := Option.some.inj hs
        exact h
  | packet =>
    rw [Feed.step] at hs
    cases hcurrent : f.current with
    | none => rw [hcurrent] at hs; exact absurd hs (by simp)
    | some x =>
      obtain ⟨t, k⟩ := x
      rw [hcurrent] at hs
      simp only [] at hs
      split at hs
      · rename_i hk
        obtain ⟨a, ha, hs⟩ := Option.bind_eq_some_iff.1 hs
        obtain ⟨play, hplay, hs⟩ := Option.bind_eq_some_iff.1 hs
        obtain rfl := Option.some.inj hs
        obtain ⟨hfaithful, hordered⟩ := play_tracked h hplay
        obtain ⟨hpipe, -⟩ := playback_step_cases hplay
        have hconsumed : Feed.consumed packetBuffer
            { f with play := play, current := some (t, k + 1) } =
            f.consumed packetBuffer ++ t.payloadOf packetBuffer k := by
          rw [consumed_current rfl, consumed_current hcurrent, payloadsBefore_succ,
            List.append_assoc]
        refine ⟨hfaithful, hordered, fun u j hu => ?_, fun hu => absurd hu (by simp), ?_⟩
        · obtain ⟨rfl, rfl⟩ := Prod.mk.inj (Option.some.inj hu)
          exact hk
        · intro ps hps
          rw [hconsumed] at hps
          rcases payloadOf_eq (eq_ok_of_toOption ha) with ⟨bytes, rfl, hof⟩ | ⟨rfl, hof⟩
          · rw [hof] at hps
            exact payload_received h.faithful.coherent.assembled.bounded hpipe h.received ps hps
          · rw [hof, List.append_nil] at hps
            exact lost_received hpipe (h.received ps hps)
      · exact absurd hs (by simp)
  | finish =>
    rw [Feed.step] at hs
    cases hcurrent : f.current with
    | none => rw [hcurrent] at hs; exact absurd hs (by simp)
    | some x =>
      obtain ⟨t, k⟩ := x
      rw [hcurrent] at hs
      simp only [] at hs
      split at hs
      · rename_i hend
        obtain ⟨rfl, hidle⟩ := hend
        obtain rfl := Option.some.inj hs
        refine ⟨h.faithful, h.ordered, fun u j hu => absurd hu (by simp), fun _ => hidle, ?_⟩
        have hsame : Feed.consumed packetBuffer { f with current := none, done := f.done ++ [t] } =
            f.consumed packetBuffer := by
          rw [consumed_none rfl, consumed_current hcurrent, List.flatMap_append,
            List.flatMap_singleton]
          rfl
        exact fun ps hps => h.received ps (hsame ▸ hps)
      · exact absurd hs (by simp)
  | other a =>
    rw [Feed.step] at hs
    split at hs
    · rename_i hother
      obtain ⟨play, hplay, hs⟩ := Option.bind_eq_some_iff.1 hs
      obtain rfl := Option.some.inj hs
      obtain ⟨hfaithful, hordered⟩ := play_tracked h hplay
      obtain ⟨hpipe, -⟩ := playback_step_cases hplay
      refine ⟨hfaithful, hordered, h.within, fun hc => ?_, fun ps hps => ?_⟩
      · exact step_stays_idle hother hpipe (h.idle hc)
      · rw [step_rest hother hpipe]
        exact h.received ps hps
    · exact absurd hs (by simp)

end Run

/-! ## The walk ends -/

theorem publishIf_delivered (due : Bool) (s : Pipeline) :
    (s.publishIf due).delivered = s.delivered := by
  cases due <;> rfl

/-- A payload or a lost packet is taken between two payloads. -/
theorem arrival_taken (s : Pipeline) (hidle : s.event = .idle) {a : PipelineAction}
    (ha : a = .badPacket ∨ ∃ bytes, a = .payload bytes) :
    ∃ t, s.step a = some t ∧ t.delivered = s.delivered := by
  rcases ha with rfl | ⟨bytes, rfl⟩
  · exact ⟨{ s with asm := { s.asm with frameHadErrors := true } }, by
      rw [Pipeline.step, hidle], rfl⟩
  · rw [Pipeline.step, hidle]
    rcases payload_cases (s := s) bytes with ⟨-, hp⟩ | ⟨_, _, -, -, hp⟩ | ⟨_, _, _, -, -, -, hp⟩
    · exact ⟨_, congrArg Except.toOption hp, rfl⟩
    · exact ⟨_, congrArg Except.toOption hp, rfl⟩
    · exact ⟨_, congrArg Except.toOption hp, publishIf_delivered _ s⟩

section Walk

variable {packetBuffer : List IsoPacket → Nat → Nat} (junk : Nat → UInt8) (info : DeviceInfo)
  (format : FrameFormat)

theorem play_of_quiet {p : Playback} {a : PipelineAction} {t : Pipeline}
    (hs : p.pipe.step a = some t) (hdel : t.delivered = p.pipe.delivered) :
    p.step junk info format a = some { p with pipe := t } := by
  rw [Playback.step, hs]
  simp [hdel]

/-- The payload in progress can be brought to its end. -/
theorem Feed.Tracked.settles {m : UInt32} {f : Feed} (h : f.Tracked packetBuffer m) :
    ∃ g, Reachable (Feed.step packetBuffer junk info format) f g ∧ g.current = f.current ∧
      g.done = f.done ∧ g.play.pipe.event = .idle := by
  cases hevent : f.play.pipe.event with
  | idle => exact ⟨f, .refl f, rfl, rfl, hevent⟩
  | body bytes headerLen dataLen flags =>
    have hassembled := h.faithful.coherent.assembled
    obtain ⟨mid, asm, due, -, -, hbody, -⟩ := body_ok hassembled.bounded flags
      (hassembled.inside _ _ _ _ hevent)
    have hstep : f.play.pipe.step .body = some
        (Pipeline.publishIf due { f.play.pipe with asm := asm, event := .idle }) := by
      rw [Pipeline.step, hevent]
      exact congrArg Except.toOption hbody
    have hplay := play_of_quiet junk info format hstep (publishIf_delivered due _)
    have hfeed : f.step packetBuffer junk info format (.other .body) = some { f with
        play := { f.play with
          pipe := Pipeline.publishIf due { f.play.pipe with asm := asm, event := .idle } } } := by
      rw [Feed.step, if_pos (show PipelineAction.body.isOther = true from rfl), hplay]
      rfl
    refine ⟨_, (Reachable.refl f).tail hfeed, rfl, rfl, ?_⟩
    cases due <;> rfl

/-- **The walk ends**: every round of it can be made, whatever the other threads did before. -/
theorem Feed.Tracked.finishes (hp : LocatesPackets packetBuffer) {m : UInt32} (n : Nat) :
    ∀ {f : Feed} {t : StreamTransfer} {k : Nat}, f.Tracked packetBuffer m →
      f.current = some (t, k) → t.Valid → t.rounds = k + n →
      ∃ g, Reachable (Feed.step packetBuffer junk info format) f g ∧ g.current = none ∧
        g.done = f.done ++ [t] := by
  induction n with
  | zero =>
    intro f t k h hcurrent _ hn
    obtain ⟨g, hg, hcur, hdone, hidle⟩ := h.settles junk info format
    refine ⟨{ g with current := none, done := g.done ++ [t] }, hg.tail (a := .finish) ?_, rfl, ?_⟩
    · rw [Feed.step, hcur, hcurrent]
      simp only []
      rw [if_pos ⟨hn.symm, hidle⟩]
    · rw [hdone]
  | succ n ih =>
    intro f t k h hcurrent hvalid hn
    obtain ⟨g, hg, hcur, hdone, hidle⟩ := h.settles junk info format
    have hgt : g.Tracked packetBuffer m := Reachable.invariant hg h fun _ _ _ hu hs => hu.step hs
    have hk : k < t.rounds := by omega
    obtain ⟨a, ha, hkind⟩ : ∃ a, t.arrival packetBuffer k = .ok a ∧
        (a = .badPacket ∨ ∃ bytes, a = .payload bytes) := by
      rcases arrival_ok hp hvalid hk with ha | ⟨bytes, ha⟩
      · exact ⟨_, ha, Or.inl rfl⟩
      · exact ⟨_, ha, Or.inr ⟨bytes, rfl⟩⟩
    obtain ⟨u, hu, hdel⟩ := arrival_taken g.play.pipe hidle hkind
    have hplay := play_of_quiet junk info format hu hdel
    have hstep : g.step packetBuffer junk info format .packet =
        some { g with play := { g.play with pipe := u }, current := some (t, k + 1) } := by
      rw [Feed.step, hcur, hcurrent]
      simp only []
      rw [if_pos hk, ha]
      simp [Except.toOption, hplay]
    obtain ⟨w, hw, hnone, hlist⟩ := ih (hgt.step hstep) rfl hvalid (by omega)
    exact ⟨w, (hg.tail hstep).trans hw, hnone, by rw [hlist, hdone]⟩

end Walk

theorem start_tracked (packetBuffer : List IsoPacket → Nat → Nat) {m : UInt32} {ctrl : StreamCtrl}
    (hctrl : ctrl.dwMaxVideoFrameSize = m) {o h mo mh : List UInt8}
    (hb : (started false ctrl o h mo mh).Bounded) (callback : Bool) :
    (Feed.start (started false ctrl o h mo mh) callback).Tracked packetBuffer m where
  faithful := start_faithful hb callback
  ordered _ := start_ordered _ _
  within _ _ hc := absurd hc (by simp [Feed.start])
  idle _ := rfl
  received ps hps := by
    obtain rfl : ps = [] := by simpa [Feed.start, Feed.consumed] using hps.symm
    exact ⟨_, rest_idle rfl, rfl, hctrl, rfl, rfl⟩

/-! ## What the application sees -/

section Application

variable {packetBuffer : List IsoPacket → Nat → Nat}

/-- What has been consumed of the completed transfers is a front part of their payloads. -/
theorem consumed_front {f : Feed} (hwithin : ∀ t k, f.current = some (t, k) → k ≤ t.rounds) :
    f.consumed packetBuffer <+: f.completed.flatMap (StreamTransfer.payloads packetBuffer) := by
  cases hcurrent : f.current with
  | none =>
    rw [consumed_none hcurrent, Feed.completed, hcurrent]
    simp
  | some x =>
    obtain ⟨t, k⟩ := x
    rw [consumed_current hcurrent, Feed.completed, hcurrent]
    simp only [Option.map_some, Option.toList_some, List.flatMap_append, List.flatMap_singleton]
    exact (List.prefix_append_right_inj _).2
      (payloadsBefore_mono packetBuffer t (hwithin t k hcurrent))

/-- The payloads that were consumed are those of a front part of the frames' payloads. -/
theorem consumed_sent {f : Feed} {m : UInt32} (h : f.Tracked packetBuffer m) {fs : List WireFrame}
    (hsent : (f.completed.flatMap (StreamTransfer.payloads packetBuffer)).filter (· ≠ []) =
      wire fs) :
    ∃ ps qs, fs.flatMap WireFrame.payloads = ps ++ qs ∧
      (f.consumed packetBuffer).filter (· ≠ []) = ps.map WirePayload.bytes ∧
      (f.current = none → qs = []) := by
  obtain ⟨rest, hrest⟩ := consumed_front h.within
  have hwire : wire fs = (fs.flatMap WireFrame.payloads).map WirePayload.bytes := by
    rw [wire, List.map_flatMap]
  rw [← hrest, List.filter_append, hwire] at hsent
  obtain ⟨ps, qs, hall, hps, hqs⟩ := List.map_eq_append_iff.1 hsent.symm
  refine ⟨ps, qs, hall, hps.symm, fun hnone => ?_⟩
  have hnil : rest = [] := by
    rw [consumed_none hnone, Feed.completed, hnone] at hrest
    simpa using hrest
  rw [hnil] at hqs
  simpa using hqs

/-- The chunks of the frames, as records. -/
theorem chunks_records (fs : List WireFrame) :
    (fs.flatMap WireFrame.payloads).map WirePayload.chunk =
      (fs.map WireFrame.record).flatMap Record.chunks := by
  rw [List.map_flatMap, List.flatMap_map]
  rfl

/-- What is published is a front part of the images sent, and all of them but perhaps the last one
when all transfers are worked through. -/
theorem published_sent {f : Feed} {m : UInt32} (hm : 0 < m.toNat) (h : f.Tracked packetBuffer m)
    {fs : List WireFrame} (halt : fs.IsChain fun f g => f.fid ≠ g.fid)
    (hfit : ∀ f ∈ fs, f.image ≠ [] ∧ f.image.length ≤ m.toNat)
    (hsent : (f.completed.flatMap (StreamTransfer.payloads packetBuffer)).filter (· ≠ []) =
      wire fs) :
    f.play.pipe.published.map Published.data <+: fs.map WireFrame.image ∧
      ∀ last, fs.getLast? = some last → f.current = none →
        (last.Closed m → f.play.pipe.published.map Published.data = fs.map WireFrame.image) ∧
        (¬ last.Closed m →
          f.play.pipe.published.map Published.data = fs.dropLast.map WireFrame.image) := by
  obtain ⟨ps, qs, hall, hconsumed, hend⟩ := consumed_sent h hsent
  obtain ⟨x, hx, hrec⟩ := h.received ps hconsumed
  obtain ⟨hout, hlast⟩ := absorbAll_records hm 0 (fs.map WireFrame.record)
    ((List.isChain_map _).2 halt) (by
      intro r hr
      obtain ⟨g, hg, rfl⟩ := List.mem_map.1 hr
      rw [record_content]
      exact hfit g hg)
  rw [← chunks_records, hall, List.map_append, absorbAll_append, List.map_map] at hout
  have himages : fs.map (Record.content ∘ WireFrame.record) = fs.map WireFrame.image :=
    List.map_congr_left fun g _ => record_content g
  rw [himages] at hout
  -- the payload in progress can only add to what is published already
  have hpre : f.play.pipe.published <+: x.2 := rest_published hx
  refine ⟨(hpre.map _).trans ?_, fun last hgl hnone => ?_⟩
  · rw [hrec.published, ← hout, List.append_assoc]
    exact List.prefix_append _ _
  · obtain rfl := hend hnone
    rw [List.append_nil] at hall
    obtain rfl := Except.ok.inj ((rest_idle (h.idle hnone)).symm.trans hx)
    obtain ⟨-, hclosed, hopen⟩ := hlast last.record (by rw [List.getLast?_map, hgl]; rfl)
    rw [← chunks_records, hall, record_closed] at hclosed hopen
    have hpub := hrec.published
    simp only [List.map_nil, absorbAll_nil, List.append_nil] at hout
    simp only [] at hpub
    refine ⟨fun hc => ?_, fun hc => ?_⟩
    · rw [owed, if_pos (hclosed hc), List.append_nil] at hout
      rw [hpub, hout]
    · have hne : last.image ≠ [] := (hfit last (List.mem_of_getLast? hgl)).1
      rw [owed, hopen hc, record_content, if_neg hne] at hout
      obtain ⟨front, rfl⟩ := List.getLast?_eq_some_iff.1 hgl
      rw [List.map_append] at hout
      rw [hpub, List.dropLast_concat]
      exact (List.append_inj' hout rfl).1

/-- **The application sees what the camera sent.**  A camera that is not an iSight sends frames of 1
to `dwMaxVideoFrameSize` bytes with alternating ids, fewer than 2^32 - 1 of them, each cut into
payloads in any way, and these payloads, with any number of empty ones in between, are what the
transfers hold that libusb hands over completed.  Then in the first run of the stream, under any
interleaving of the event thread with the consumer, the numbers of the frames handed out increase
strictly, and a frame with the number `s` shows the image of the `s`-th frame sent.  A transfer can
always be worked through, and once all of them are, every frame is published, except a last one that
is neither full nor ended by EOF. -/
theorem frames_arrive (packetBuffer : List IsoPacket → Nat → Nat)
    (hpacket : LocatesPackets packetBuffer) (junk : Nat → UInt8) (info : DeviceInfo)
    (format : FrameFormat) (ctrl : StreamCtrl) (m : UInt32) (hctrl : ctrl.dwMaxVideoFrameSize = m)
    (hm : 1 ≤ m.toNat) (o h mo mh : List UInt8) (ho : o.length = m.toNat)
    (hh : h.length = m.toNat) (hmo : mo.length = xferMetaBufSize)
    (hmh : mh.length = xferMetaBufSize) (callback : Bool) (actions : List FeedAction) (f : Feed)
    (hrun : exec (Feed.step packetBuffer junk info format) (fun _ _ => True)
      (Feed.start (started false ctrl o h mo mh) callback) actions = some f)
    (contents : List (List (List UInt8)))
    (hholds : List.Forall₂ StreamTransfer.Holds (actions.flatMap FeedAction.completed) contents)
    (fs : List WireFrame)
    (halt : fs.IsChain fun g g' => g.fid ≠ g'.fid)
    (hfit : ∀ g ∈ fs, 1 ≤ g.image.length ∧ g.image.length ≤ m.toNat)
    (hsent : contents.flatten.filter (· ≠ []) = wire fs) (hlen : fs.length < 2 ^ 32 - 1) :
    (f.play.handed.map (·.frame.sequence)).Pairwise (· < ·) ∧
    (∀ H ∈ f.play.handed, 1 ≤ H.frame.sequence.toNat ∧
      ∃ g, fs[H.frame.sequence.toNat - 1]? = some g ∧
        H.holdBytes = g.image.length ∧ H.frame.data.take H.holdBytes = g.image) ∧
    (∀ t k, f.current = some (t, k) → ∃ g, Reachable (Feed.step packetBuffer junk info format) f g ∧
      g.current = none ∧ g.done = f.done ++ [t]) ∧
    ∀ last, fs.getLast? = some last → f.current = none →
      (last.Closed m → f.play.pipe.published.map Published.data = fs.map WireFrame.image) ∧
      (¬ last.Closed m →
        f.play.pipe.published.map Published.data = fs.dropLast.map WireFrame.image) := by
  have hstart := start_tracked packetBuffer hctrl
    (started_bounded (hctrl ▸ ho) (hctrl ▸ hh) hmo hmh) callback
  have htracked : f.Tracked packetBuffer m :=
    Reachable.invariant (reachable_of_exec actions hrun) hstart fun _ _ _ hu hs => hu.step hs
  have hcompleted : f.completed = actions.flatMap FeedAction.completed :=
    exec_log step_completed actions hrun
  rw [← hcompleted] at hholds
  have htaken : (f.completed.flatMap (StreamTransfer.payloads packetBuffer)).filter (· ≠ []) =
      wire fs := by rw [payloads_received hpacket hholds, hsent]
  obtain ⟨hpre, hlast⟩ := published_sent hm htracked halt
    (fun g hg => ⟨List.ne_nil_of_length_pos (hfit g hg).1, (hfit g hg).2⟩) htaken
  have hlt : f.play.pipe.published.length < 2 ^ 32 := by
    have hle := hpre.length_le
    rw [List.length_map, List.length_map] at hle
    omega
  have hfaithful := htracked.faithful
  refine ⟨?_, fun H hH => ?_, fun t k hc => ?_, hlast⟩
  · rw [map_sequence_eq hfaithful.shown, List.pairwise_map]
    refine (htracked.ordered hlt).sources.imp_of_mem fun {D E} hD hE hDE => ?_
    rw [UInt32.lt_iff_toNat_lt, (hfaithful.coherent.seq_eq hlt hD).1,
      (hfaithful.coherent.seq_eq hlt hE).1]
    omega
  · obtain ⟨D, hD, hseq, hdata, hbytes⟩ := exists_shows hfaithful.shown hH
    obtain ⟨hnum, p, hp, hpdata⟩ := hfaithful.coherent.seq_eq hlt hD
    have himage : (fs.map WireFrame.image)[D.source]? = some p.data := by
      obtain ⟨rest, hrest⟩ := hpre
      rw [← hrest, List.getElem?_append_left (by
        rw [List.length_map]
        exact (List.getElem?_eq_some_iff.1 hp).1), List.getElem?_map, hp, Option.map_some]
    rw [List.getElem?_map, Option.map_eq_some_iff] at himage
    obtain ⟨g, hg, hgimage⟩ := himage
    rw [hseq, hnum]
    exact ⟨by omega, g, hg, by rw [hbytes, hgimage, hpdata], by rw [hdata, hgimage, hpdata]⟩
  · have hin : t ∈ f.completed := by simp [Feed.completed, hc]
    obtain ⟨held, -, hheld⟩ := exists_holds hholds hin
    exact Feed.Tracked.finishes junk info format hpacket (t.rounds - k) htracked hc
      (holds_valid hheld)
      (by have := htracked.within t k hc; omega)

end Application

/-- `libusb_get_iso_packet_buffer_simple` goes by the first packet. -/
def simplePacketBuffer (packets : List IsoPacket) (packet : Nat) : Nat :=
  (packets.head?.map (·.length)).getD 0 * packet

theorem simplePacketBuffer_locates : LocatesPackets simplePacketBuffer := by
  intro packets len hlen k hk
  cases packets with
  | nil => exact absurd hk (Nat.not_lt_zero _)
  | cons first rest => rw [← hlen first List.mem_cons_self]; rfl

/-- Four packets of three bytes: a frame of one byte, nothing, a packet that was lost, and the next
frame. -/
def blinkSlots : List IsoSlot :=
  [⟨[2, 0x02, 7], [], 0⟩, ⟨[], [0, 0, 0], 0⟩, ⟨[2, 0x02], [9], 1⟩, ⟨[2, 0x03, 7], [], 0⟩]

/-- The transfer with these packets and two bytes more. -/
def blinkTransfer : StreamTransfer where
  status := .completed
  buffer := blinkSlots.flatMap IsoSlot.bytes ++ [5, 5]
  actualLength := 0
  isoPackets := blinkSlots.map IsoSlot.packet

theorem blinkTransfer_holds : blinkTransfer.Holds (blinkSlots.flatMap IsoSlot.holds) :=
  .iso blinkSlots [5, 5] 3 (by simp [blinkSlots]) (by simp [blinkSlots, IsoSlot.bytes]) rfl rfl

/-- A bulk transfer that brings the payload of a third frame into a larger buffer. -/
def bulkTransfer : StreamTransfer := ⟨.completed, [2, 0x02, 7, 0xaa], 3, []⟩

theorem bulkTransfer_holds : bulkTransfer.Holds [[2, 0x02, 7]] :=
  .bulk _ [0xaa] rfl rfl rfl

/-- The first frame is polled while its transfer is being worked through, the second is replaced
before anybody looks, and the third is polled at the end. -/
def blinkActions : List FeedAction :=
  [.callback blinkTransfer, .packet, .other .body, .other (.getFrame 0), .packet, .packet, .packet,
    .other .body, .finish, .callback bulkTransfer, .packet, .other .body, .finish,
    .other (.getFrame 0)]

/-- Three frames of one byte arrive in two transfers. -/
theorem frames_arrive_blinking :
    ∃ f, exec (Feed.step simplePacketBuffer (fun _ => 0xff) pixelDevice .yuyv) (fun _ _ => True)
        (Feed.start (started false { dwMaxVideoFrameSize := 1 } [0] [0]
          (List.replicate xferMetaBufSize 0) (List.replicate xferMetaBufSize 0)) false)
        blinkActions = some f ∧
      f.play.handed.map (fun H => (H.frame.sequence, H.frame.image)) = [(1, [7, 0]), (3, [7])] ∧
      (f.play.handed.map (·.frame.sequence)).Pairwise (· < ·) := by
  have hrun : exec (Feed.step simplePacketBuffer (fun _ => 0xff) pixelDevice .yuyv)
      (fun _ _ => True) (Feed.start (started false { dwMaxVideoFrameSize := 1 } [0] [0]
        (List.replicate xferMetaBufSize 0) (List.replicate xferMetaBufSize 0)) false)
      blinkActions = some _ := rfl
  refine ⟨_, hrun, rfl, (frames_arrive simplePacketBuffer simplePacketBuffer_locates _ _ _
    { dwMaxVideoFrameSize := 1 } 1 rfl (by decide) [0] [0] _ _ rfl rfl (List.length_replicate ..)
    (List.length_replicate ..) false blinkActions _ hrun _
    (.cons blinkTransfer_holds (.cons bulkTransfer_holds .nil)) (blinkFrames 3)
    (blinkFrames_alternate 3) ?_ (by decide) (by decide)).1⟩
  intro g hg
  obtain ⟨i, -, rfl⟩ := List.mem_map.1 hg
  rw [blinkFrame_image]
  decide

end Stream
end LibUvc
