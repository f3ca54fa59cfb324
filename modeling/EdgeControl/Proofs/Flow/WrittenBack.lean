import EdgeControl.Proofs.Address.PrefixKey
import EdgeControl.Proofs.Except
import EdgeControl.Proofs.Flow.Unreadable

/-!
The key of a flow and the byte of its state can be written back from the entry that they are read
as, so no two flows of the data plane are one flow to the tracker.
-/
namespace EdgeControl

namespace Record

def bigEndian (width n : Nat) : Bytes := (littleEndian width n).reverse

theorem ofUInt32_word (a : Ipv4) : ofUInt32 a.word = bigEndian 4 a.bits.toNat := by
  change _ = (ofUInt32 a.bits).reverse
  simp [ofUInt32_eq, Ipv4.digit_word, List.ofFn_succ]

theorem ofUInt16_swapPort (n : UInt16) : ofUInt16 (Flow.swapPort n) = bigEndian 2 n.toNat := by
  have bound := n.toNat_lt
  have first : UInt8.ofNat (n.toNat % 256 * 256 + n.toNat / 256) = UInt8.ofNat (n.toNat / 256) := by
    apply UInt8.toNat_inj.mp
    simp
  have rest : (n.toNat % 256 * 256 + n.toNat / 256) / 256 = n.toNat % 256 := by omega
  have second : UInt8.ofNat (n.toNat % 256) = UInt8.ofNat n.toNat := by
    apply UInt8.toNat_inj.mp
    simp
  simp [ofUInt16, bigEndian, littleEndian, Flow.toNat_swapPort, first, rest, second]

end Record

namespace Flow

namespace Entry

def flow (e : Entry) : Ipv4 × Ipv4 × UInt16 × UInt16 × Protocol :=
  (e.srcAddr, e.dstAddr, e.srcPort, e.dstPort, e.protocol)

def key (e : Entry) : Key :=
  .ofEnds e.srcAddr e.dstAddr e.srcPort e.dstPort e.protocol.number

theorem key_congr {e e' : Entry} (same : e.flow = e'.flow) : e.key = e'.key := by
  simp only [flow, Prod.mk.injEq] at same
  simp [key, same]

theorem bytes_key (e : Entry) : e.key.bytes =
    Record.bigEndian 4 e.srcAddr.bits.toNat ++ Record.bigEndian 4 e.dstAddr.bits.toNat ++
      Record.bigEndian 2 e.srcPort.toNat ++ Record.bigEndian 2 e.dstPort.toNat ++
      Record.littleEndian 4 e.protocol.number.toNat := by
  simp only [Key.bytes, key, Key.ofEnds, Record.ofUInt32_word, Record.ofUInt16_swapPort]
  rfl

end Entry

variable {key : Key} {info : Info} {now : Instant} {e : Entry} {error : FlowError}

theorem Tracker.describes_iff : Describes key e ↔ e.key = key := by
  constructor
  · intro described
    have protocol := Protocol.ofNumber_eq_ok_iff.mp described.protocol
    simp [Entry.key, Key.ofEnds, described.srcAddr, described.dstAddr, described.srcPort,
      described.dstPort, ← protocol, Key.source, Key.destination, Key.sourcePort,
      Key.destinationPort]
  · rintro rfl
    constructor
    · simp [Entry.key, Key.ofEnds, Key.source]
    · simp [Entry.key, Key.ofEnds, Key.destination]
    · simp [Entry.key, Key.ofEnds, Key.sourcePort]
    · simp [Entry.key, Key.ofEnds, Key.destinationPort]
    · exact Protocol.ofNumber_eq_ok_iff.mpr rfl

theorem ofRecord_eq_ok_iff : Entry.ofRecord key info now = .ok e ↔
    e.key = key ∧ e.state.number = info.status ∧ e.lastSeen = now ∧ e.backendId = info.id ∧
      e.counter = info.counter := by
  simp only [← Tracker.describes_iff, Entry.ofRecord, bind_eq_ok, mapError_eq_ok, pure, Except.pure,
    Except.ok.injEq]
  constructor
  · rintro ⟨protocol, known, state, named, rfl⟩
    have status := State.ofNumber_eq_ok_iff.mp named
    exact ⟨⟨rfl, rfl, rfl, rfl, known⟩, status.symm, rfl, rfl, rfl⟩
  · rintro ⟨⟨srcAddr, dstAddr, srcPort, dstPort, known⟩, status, rfl, id, counter⟩
    refine ⟨e.protocol, known, e.state, State.ofNumber_eq_ok_iff.mpr status.symm, ?_⟩
    simp only [← srcAddr, ← dstAddr, ← srcPort, ← dstPort, ← id, ← counter]

theorem exists_protocol_iff {n : UInt32} :
    (∃ p, Protocol.ofNumber n = .ok p) ↔ n ∈ [0, 1, 6, 17] := by
  simp only [exists_eq_ok_iff, ne_eq, Protocol.ofNumber_eq_error_iff]
  grind

/-- The protocol is looked at before the state. -/
theorem ofRecord_eq_error_iff : Entry.ofRecord key info now = .error error ↔
    (key.protocol ∉ [0, 1, 6, 17] ∧
        error = .malformed (.unknownProtocol (toString key.protocol.toNat))) ∨
      (key.protocol ∈ [0, 1, 6, 17] ∧ 4 < info.status ∧ error = .unknownState info.status) := by
  simp only [Entry.ofRecord, bind_eq_error, mapError_eq_error, mapError_eq_ok,
    Protocol.ofNumber_eq_error_iff, State.ofNumber_eq_error_iff]
  constructor
  · rintro (⟨_, ⟨unknown, rfl⟩, rfl⟩ | ⟨protocol, named, ⟨beyond, rfl⟩ | ⟨state, -, ⟨⟩⟩⟩)
    · exact .inl ⟨unknown, rfl⟩
    · exact .inr ⟨exists_protocol_iff.mp ⟨protocol, named⟩, beyond, rfl⟩
  · rintro (⟨unknown, rfl⟩ | ⟨known, beyond, rfl⟩)
    · exact .inl ⟨_, ⟨unknown, rfl⟩, rfl⟩
    · obtain ⟨protocol, named⟩ := exists_protocol_iff.mpr known
      exact .inr ⟨protocol, named, .inl ⟨beyond, rfl⟩⟩

structure WrittenBack (key : Key) : Prop where
  readable : ∀ info now, (∃ e, Entry.ofRecord key info now = .ok e) ↔
    key.protocol ∈ [0, 1, 6, 17] ∧ info.status ≤ 4
  refused : ∀ info now error, Entry.ofRecord key info now = .error error ↔
    (key.protocol ∉ [0, 1, 6, 17] ∧
        error = .malformed (.unknownProtocol (toString key.protocol.toNat))) ∨
      (key.protocol ∈ [0, 1, 6, 17] ∧ 4 < info.status ∧ error = .unknownState info.status)
  written : ∀ info now e, Entry.ofRecord key info now = .ok e ↔
    e.key = key ∧ e.state.number = info.status ∧ e.lastSeen = now ∧ e.backendId = info.id ∧
      e.counter = info.counter
  image : ∀ info now e, Entry.ofRecord key info now = .ok e → key.bytes =
    Record.bigEndian 4 e.srcAddr.bits.toNat ++ Record.bigEndian 4 e.dstAddr.bits.toNat ++
      Record.bigEndian 2 e.srcPort.toNat ++ Record.bigEndian 2 e.dstPort.toNat ++
      Record.littleEndian 4 e.protocol.number.toNat
  unique : ∀ other info info' now now' e e', Entry.ofRecord key info now = .ok e →
    Entry.ofRecord other info' now' = .ok e' → e.flow = e'.flow → key = other
  tracked : ∀ calls other e e', (replay calls).get? key = some e →
    (replay calls).get? other = some e' → e.flow = e'.flow → key = other

theorem key_written_back (key : Key) : WrittenBack key := by
  have entered (calls : List Call) (key : Key) (e : Entry)
      (found : (replay calls).get? key = some e) : e.key = key :=
    Tracker.describes_iff.mp ((replay_recalls calls).coherent key e found)
  constructor
  · intro info now
    simp only [exists_eq_ok_iff, ne_eq, ofRecord_eq_error_iff]
    grind
  · intro info now error
    exact ofRecord_eq_error_iff
  · intro info now e
    exact ofRecord_eq_ok_iff
  · intro info now e read
    have same := (ofRecord_eq_ok_iff.mp read).1
    rw [← same, Entry.bytes_key]
  · intro other info info' now now' e e' read read' same
    have first := (ofRecord_eq_ok_iff.mp read).1
    have second := (ofRecord_eq_ok_iff.mp read').1
    rw [← first, ← second, Entry.key_congr same]
  · intro calls other e e' found found' same
    rw [← entered calls key e found, ← entered calls other e' found', Entry.key_congr same]

-- From 10.0.0.2, port 8080, to 192.168.9.1, port 80: the octets are in wire order, and so are the
-- ports.
example : Entry.ofRecord ⟨0x0200000A, 0x0109A8C0, 0x901F, 0x5000, 6⟩
    {id := 1, status := 2, counter := 9} (.ofMillis 0) =
      .ok ⟨⟨0x0A000002⟩, ⟨0xC0A80901⟩, 8080, 80, .tcp, .established, .ofMillis 0, 1, 9⟩ := by
  rfl

end Flow
end EdgeControl
