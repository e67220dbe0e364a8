/-
  PcapStore/PcapFile.lean --- the file that `flush_to_pcap` writes is a PCAP file.

  Whichever entries the flush picks, it writes them as records that a reader of the format
  takes apart again: the length field of an entry is the length of its data as long as a
  packet is shorter than 2^32 bytes.
-/
import GeSensor.Foundation.Pcap
import GeSensor.PcapStore.RingRuns

set_option autoImplicit false

namespace GeSensor.PcapStore

open GeSensor.Foundation

/-- The record of an entry: times, lengths and data. -/
structure RingEntry.IsRecord (entry : RingEntry) (record : PcapRecord) : Prop where
  tsSec : record.tsSec = entry.tsSec
  tsUsec : record.tsUsec = entry.tsUsec
  inclLen : record.inclLen = entry.capLen
  origLen : record.origLen = entry.origLen
  data : record.data = entry.data

/-- The record of a packet that is not too long for its length field. -/
def Packet.toRecord (packet : Packet) (hsmall : packet.data.length < 2 ^ 32) : PcapRecord where
  tsSec := packet.tsSec
  tsUsec := packet.tsUsec
  inclLen := .ofNat packet.data.length
  origLen := .ofNat packet.data.length
  data := packet.data
  length_data := (UInt32.toNat_ofNat_of_lt' hsmall).symm

theorem Packet.toRecord_isRecord (packet : Packet) (hsmall : packet.data.length < 2 ^ 32) :
    packet.toEntry.IsRecord (packet.toRecord hsmall) :=
  ⟨rfl, rfl, rfl, rfl, rfl⟩

/-- The header that `flush_to_pcap` writes: version 2.4, a snap length of 65535 and the link
type Ethernet. -/
theorem readHeader_pcapHeader (rest : Bytes) :
    readHeader (pcapHeader ++ rest) = some (⟨2, 4, 0, 0, 65535, 1⟩, rest) :=
  rfl

namespace PacketRingBuffer

/-- The slot that the `i`-th record of a flush is written from. -/
def flushSlot (ring : PacketRingBuffer) (i : Nat) : Nat :=
  ((if ring.count < ring.entries.length then 0 else ring.writePos) + i) % ring.entries.length

/-- The flush writes a file that reads as `len()` records, as many as it returns, each of them
the record of the entry in its slot. -/
def WritesPcap (ring : PacketRingBuffer) : Prop :=
  ∃ writes records, ring.flushToPcap = .ok (writes, ring.len) ∧
    readPcap writes.flatten = some (⟨2, 4, 0, 0, 65535, 1⟩, records) ∧
    records.length = ring.len ∧
    ∀ i, i < ring.len → ∃ entry record, ring.entries.data[ring.flushSlot i]? = some entry ∧
      records[i]? = some record ∧ entry.IsRecord record

/-- The buffers of a list of packets are the encodings of their records. -/
theorem recordWrites_flatten {packets : List Packet}
    (hsmall : ∀ packet ∈ packets, packet.data.length < 2 ^ 32) :
    (recordWrites packets).flatten =
      (packets.pmap Packet.toRecord hsmall).flatMap PcapRecord.encode := by
  induction packets with
  | nil => rfl
  | cons packet rest ih =>
      have hrest := ih fun other hother => hsmall other (List.mem_cons_of_mem packet hother)
      rw [recordWrites] at hrest
      rw [recordWrites, List.flatMap_cons, List.flatten_append, hrest, List.pmap_cons,
        List.flatMap_cons]
      simp only [RingEntry.writes, List.flatten_cons, List.flatten_nil, List.append_nil]
      rfl

/-- After any sequence of pushes of packets shorter than 2^32 bytes, evictions and growth of
the vector included, the flush writes a well-formed file. -/
theorem flushToPcap_wellFormed (spare : Nat → Nat) (maxBytes : Nat) (packets : List Packet)
    (hsmall : ∀ packet ∈ packets, packet.data.length < 2 ^ 32) :
    ∃ ring, (new spare maxBytes).pushAll spare packets = .ok ring ∧ ring.WritesPcap := by
  obtain ⟨ring, hrun, hring, _⟩ := pushAll_new spare maxBytes packets
  have hlen : ring.len ≤ packets.length := by
    rw [hring.len_eq]
    exact window_length_le ring.maxBytes packets
  have hfront : ∀ packet ∈ packets.take ring.len, packet.data.length < 2 ^ 32 :=
    fun packet hpacket => hsmall packet (List.mem_of_mem_take hpacket)
  refine ⟨ring, hrun, _, (packets.take ring.len).pmap Packet.toRecord hfront,
    flushToPcap_eq hring, ?_, ?_, ?_⟩
  · rw [List.flatten_cons, recordWrites_flatten hfront]
    exact readPcap_encode readHeader_pcapHeader _
  · rw [List.length_pmap, List.length_take]
    exact Nat.min_eq_left hlen
  · intro i hi
    have hin : i < packets.length := Nat.lt_of_lt_of_le hi hlen
    have hslot : ring.entries.data[ring.flushSlot i]? = some packets[i].toEntry :=
      index_eq_ok_iff.mp (hring.flushSlot hin)
    have hpacket : packets[i].data.length < 2 ^ 32 := hsmall _ (List.getElem_mem hin)
    refine ⟨_, packets[i].toRecord hpacket, hslot, ?_, packets[i].toRecord_isRecord hpacket⟩
    have hrecord : i < ((packets.take ring.len).pmap Packet.toRecord hfront).length := by
      rw [List.length_pmap, List.length_take]
      omega
    rw [List.getElem?_eq_getElem hrecord, List.getElem_pmap]
    simp only [List.getElem_take]

/-- A ring of 20 bytes in which the second push evicts the first packet. -/
theorem flushToPcap_wellFormed_evicted :
    ∃ ring, (new (fun _ => 0) 20).pushAll (fun _ => 0) [⟨0, 0, [1]⟩, ⟨1, 0, [2]⟩] = .ok ring ∧
      ring.WritesPcap :=
  flushToPcap_wellFormed (fun _ => 0) 20 [⟨0, 0, [1]⟩, ⟨1, 0, [2]⟩] (by decide)

end PacketRingBuffer

end GeSensor.PcapStore
