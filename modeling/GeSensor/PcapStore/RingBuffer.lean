/-
  PcapStore/RingBuffer.lean --- the forensic packet ring of
  `src/pcap_store/ring_buffer.rs`.

  The ring keeps its packets in a growable vector `entries` and describes the
  window of packets it still answers for by `writePos`, `count` and
  `totalBytes`.  `push` shrinks the window from its old end until the new packet
  fits, then stores the packet at `writePos`; `flushToPcap` writes the window as
  a PCAP file.

  Two things that the source leaves to its surroundings are parameters: the room
  the allocator adds when the vector grows (`spare`, see `Foundation.Vec`), and
  the success of the file operations.  A file is described here by the sequence
  of buffers passed to `write_all`; its content is their concatenation.
-/
import GeSensor.Foundation.Checked
import GeSensor.Foundation.Vec

set_option autoImplicit false

namespace GeSensor.PcapStore

open GeSensor.Foundation

/-- Arguments of one `push`: the capture time and the bytes of a packet. -/
structure Packet where
  tsSec : UInt32
  tsUsec : UInt32
  data : Bytes
  deriving DecidableEq, Repr

/-- Entry in the ring buffer. -/
structure RingEntry where
  tsSec : UInt32
  tsUsec : UInt32
  capLen : UInt32
  origLen : UInt32
  data : Bytes
  deriving DecidableEq, Repr

/-- Circular packet ring buffer. -/
structure PacketRingBuffer where
  entries : Vec RingEntry
  writePos : Nat
  count : Nat
  totalBytes : Nat
  maxBytes : Nat

/-- Size of a packet in the file: its bytes and the 16-byte record header. -/
def entrySize (data : Bytes) : Nat := data.length + 16

/-- The entry `push` builds; both length fields are `data.len() as u32`. -/
def Packet.toEntry (packet : Packet) : RingEntry where
  tsSec := packet.tsSec
  tsUsec := packet.tsUsec
  capLen := .ofNat packet.data.length
  origLen := .ofNat packet.data.length
  data := packet.data

theorem Packet.toEntry_injective : Function.Injective Packet.toEntry := by
  intro left right h
  cases left
  cases right
  simp only [Packet.toEntry, RingEntry.mk.injEq] at h
  obtain ⟨hsec, husec, _, _, hdata⟩ := h
  simp [hsec, husec, hdata]

/-- The PCAP global header (24 bytes): magic, version 2.4, zone, sigfigs,
snaplen 65535, LINKTYPE_ETHERNET. -/
def pcapHeader : Bytes :=
  [0xD4, 0xC3, 0xB2, 0xA1, 0x02, 0x00, 0x04, 0x00, 0x00, 0x00, 0x00, 0x00,
    0x00, 0x00, 0x00, 0x00, 0xFF, 0xFF, 0x00, 0x00, 0x01, 0x00, 0x00, 0x00]

/-- The five buffers `flush_to_pcap` writes for one entry. -/
def RingEntry.writes (entry : RingEntry) : List Bytes :=
  [le32Bytes entry.tsSec, le32Bytes entry.tsUsec, le32Bytes entry.capLen,
    le32Bytes entry.origLen, entry.data]

@[simp] theorem RingEntry.writes_length (entry : RingEntry) : entry.writes.length = 5 := rfl

/-- The buffers of a record determine the entry. -/
theorem RingEntry.writes_injective : Function.Injective RingEntry.writes := by
  intro left right h
  simp only [RingEntry.writes, List.cons.injEq, and_true] at h
  obtain ⟨hsec, husec, hcap, horig, hdata⟩ := h
  cases left
  cases right
  simp only [RingEntry.mk.injEq]
  exact ⟨le32Bytes_injective hsec, le32Bytes_injective husec, le32Bytes_injective hcap,
    le32Bytes_injective horig, hdata⟩

namespace PacketRingBuffer

variable (spare : Nat → Nat)

/-- Create a new ring buffer with the given byte capacity. -/
def new (maxBytes : Nat) : PacketRingBuffer where
  entries := Vec.withCapacity spare 1024
  writePos := 0
  count := 0
  totalBytes := 0
  maxBytes := maxBytes

/-- Index of the oldest of `count` entries. -/
def oldestIdx (ring : PacketRingBuffer) (count : Nat) : Checked Nat :=
  if ring.writePos ≥ count then .ok (ring.writePos - count)
  else do
    let behind ← checkedSub count ring.writePos
    checkedSub ring.entries.length behind

/-- The eviction loop of `push`.  It changes `count` and `totalBytes` only and
runs while both the new packet does not fit and the window is not empty. -/
def evictWhile (ring : PacketRingBuffer) (size : Nat) : Nat → Nat → Checked (Nat × Nat)
  | 0, totalBytes => .ok (0, totalBytes)
  | count + 1, totalBytes =>
      if totalBytes + size > ring.maxBytes then do
        let oldest ← ring.oldestIdx (count + 1)
        let entry ← index ring.entries.data oldest
        evictWhile ring size count (totalBytes - entrySize entry.data)
      else .ok (count + 1, totalBytes)

/-- Push a packet into the ring buffer. -/
def push (ring : PacketRingBuffer) (packet : Packet) : Checked PacketRingBuffer := do
  let size := entrySize packet.data
  let (count, totalBytes) ← ring.evictWhile size ring.count ring.totalBytes
  let entries :=
    if ring.writePos < ring.entries.length then ring.entries.set ring.writePos packet.toEntry
    else ring.entries.push spare packet.toEntry
  return {
    entries := entries
    writePos := (ring.writePos + 1) % max entries.capacity (entries.length + 1)
    count := min (count + 1) entries.length
    totalBytes := totalBytes + size
    maxBytes := ring.maxBytes }

/-- Push a sequence of packets. -/
def pushAll (ring : PacketRingBuffer) (packets : List Packet) : Checked PacketRingBuffer :=
  packets.foldlM (push spare) ring

/-- Flush the ring buffer contents to a PCAP file: the buffers written, and the
number of packets reported. -/
def flushToPcap (ring : PacketRingBuffer) : Checked (List Bytes × Nat) := do
  let start := if ring.count < ring.entries.length then 0 else ring.writePos
  let records ← (List.range (min ring.count ring.entries.length)).mapM fun i => do
    let entry ← index ring.entries.data ((start + i) % ring.entries.length)
    return entry.writes
  return (pcapHeader :: records.flatten, records.length)

/-- Current number of packets in the buffer. -/
def len (ring : PacketRingBuffer) : Nat := min ring.count ring.entries.length

/-- Current byte usage. -/
def bytesUsed (ring : PacketRingBuffer) : Nat := ring.totalBytes

/-- Is the buffer empty? -/
def isEmpty (ring : PacketRingBuffer) : Bool := ring.len == 0

end PacketRingBuffer

end GeSensor.PcapStore
