/-
  PcapStore/RingRuns.lean --- what the packet ring holds and writes after any
  sequence of pushes.

  WHAT THE RING IS FOR.  After a sequence of pushes the ring answers for a window
  of newest packets: the longest suffix of the sequence that fits `maxBytes`
  (`fitSuffix`).  `Represents` ties the four coupled numbers of the ring to that
  window, and `push_represents` keeps it.

  WHAT THE CODE DOES INSTEAD.  The window is exact, but two things around it are
  not.  `writePos` is reduced modulo more than the length it has just reached, so
  it never wraps and every packet ever pushed stays in `entries`.  And
  `flushToPcap` starts reading at slot 0 as soon as the window is shorter than
  the vector, so it writes the oldest packets where the newest were asked for.
-/
import GeSensor.Foundation.FitSuffix
import GeSensor.PcapStore.RingBuffer

set_option autoImplicit false

namespace GeSensor.PcapStore

open GeSensor.Foundation

/-- Bytes a packet takes in the file. -/
def Packet.size (packet : Packet) : Nat := entrySize packet.data

/-- The packets that a ring of `maxBytes` answers for after the given pushes. -/
def window (maxBytes : Nat) (packets : List Packet) : List Packet :=
  fitSuffix Packet.size maxBytes packets

theorem window_length_le (maxBytes : Nat) (packets : List Packet) :
    (window maxBytes packets).length ≤ packets.length :=
  (fitSuffix_suffix Packet.size maxBytes packets).length_le

/-- The window is what remains after its complement is dropped. -/
theorem window_eq_drop (maxBytes : Nat) (packets : List Packet) :
    window maxBytes packets =
      packets.drop (packets.length - (window maxBytes packets).length) :=
  List.suffix_iff_eq_drop.mp (fitSuffix_suffix Packet.size maxBytes packets)

namespace PacketRingBuffer

/-- The ring holds every pushed packet, and its window is `window`. -/
structure Represents (ring : PacketRingBuffer) (packets : List Packet) : Prop where
  entries : ring.entries.data = packets.map Packet.toEntry
  writePos : ring.writePos = packets.length
  count : ring.count = (window ring.maxBytes packets).length
  totalBytes : ring.totalBytes = totalWeight Packet.size (window ring.maxBytes packets)

theorem Represents.length {ring : PacketRingBuffer} {packets : List Packet}
    (h : ring.Represents packets) : ring.entries.length = packets.length := by
  rw [Vec.length, h.entries, List.length_map]

theorem new_represents (spare : Nat → Nat) (maxBytes : Nat) :
    (new spare maxBytes).Represents [] where
  entries := rfl
  writePos := rfl
  count := rfl
  totalBytes := rfl

/-- The eviction loop shrinks the window to what fits beside the new packet.
The induction is on the window, whose oldest packet is the entry that
`oldestIdx` finds. -/
theorem evictWhile_eq {ring : PacketRingBuffer} {packets : List Packet}
    (hentries : ring.entries.data = packets.map Packet.toEntry)
    (hwrite : ring.writePos = packets.length) (size : Nat) :
    ∀ kept : List Packet, kept <:+ packets →
      ring.evictWhile size kept.length (totalWeight Packet.size kept) =
        .ok ((dropToFit Packet.size ring.maxBytes size kept).length,
          totalWeight Packet.size (dropToFit Packet.size ring.maxBytes size kept)) := by
  intro kept
  induction kept with
  | nil => intro _; rfl
  | cons oldest rest ih =>
      intro hkept
      obtain ⟨evicted, hpackets⟩ := hkept
      have hrest : rest <:+ packets := ⟨evicted ++ [oldest], by simp [← hpackets]⟩
      rw [List.length_cons, evictWhile, dropToFit]
      split
      · have hlength : packets.length = evicted.length + (rest.length + 1) := by
          simp [← hpackets]
        have hidx : ring.oldestIdx (rest.length + 1) = .ok evicted.length := by
          rw [oldestIdx, if_pos (by omega)]
          congr 1
          omega
        have hentry : index ring.entries.data evicted.length = .ok oldest.toEntry := by
          simp [index, hentries, ← hpackets]
        have htotal : totalWeight Packet.size (oldest :: rest) - entrySize oldest.toEntry.data =
            totalWeight Packet.size rest := by
          simp [Packet.size, Packet.toEntry]
        rw [hidx, ok_bind, hentry, ok_bind, htotal, ih hrest]
      · rfl

/-- A push appends the packet to the vector and makes the window the one of the
longer sequence. -/
theorem push_eq (spare : Nat → Nat) {ring : PacketRingBuffer} {packets : List Packet}
    (h : ring.Represents packets) (packet : Packet) :
    ring.push spare packet = .ok
      { entries := ring.entries.push spare packet.toEntry
        writePos := packets.length + 1
        count := (window ring.maxBytes (packets ++ [packet])).length
        totalBytes := totalWeight Packet.size (window ring.maxBytes (packets ++ [packet]))
        maxBytes := ring.maxBytes } := by
  have hwindow : window ring.maxBytes (packets ++ [packet]) =
      dropToFit Packet.size ring.maxBytes packet.size (window ring.maxBytes packets) ++
        [packet] := fitSuffix_concat Packet.size ring.maxBytes packets packet
  have hevict := evictWhile_eq h.entries h.writePos packet.size (window ring.maxBytes packets)
    (fitSuffix_suffix Packet.size ring.maxBytes packets)
  have happend : ¬ packets.length < ring.entries.length := by
    rw [h.length]
    exact Nat.lt_irrefl _
  have hshort : (window ring.maxBytes (packets ++ [packet])).length ≤ packets.length + 1 := by
    have := window_length_le ring.maxBytes (packets ++ [packet])
    simpa using this
  -- `writePos + 1` is the new length, which is below the modulus: no wrap.
  have hmod : (packets.length + 1) % max (ring.entries.push spare packet.toEntry).capacity
      ((ring.entries.push spare packet.toEntry).length + 1) = packets.length + 1 := by
    rw [Vec.length_push, h.length]
    exact Nat.mod_eq_of_lt (by omega)
  have hcount : min ((dropToFit Packet.size ring.maxBytes packet.size
      (window ring.maxBytes packets)).length + 1)
        (ring.entries.push spare packet.toEntry).length =
      (window ring.maxBytes (packets ++ [packet])).length := by
    rw [hwindow, List.length_append, List.length_singleton] at hshort ⊢
    rw [Vec.length_push, h.length]
    exact Nat.min_eq_left hshort
  have htotal : totalWeight Packet.size (dropToFit Packet.size ring.maxBytes packet.size
        (window ring.maxBytes packets)) + packet.size =
      totalWeight Packet.size (window ring.maxBytes (packets ++ [packet])) := by
    simp [hwindow]
  simp only [push, ← Packet.size.eq_def, h.count, h.totalBytes, hevict, ok_bind, h.writePos,
    if_neg happend, hmod, hcount, htotal, pure_eq_ok]

/-- The step lemma: a push never panics, keeps the representation, and leaves
the byte bound alone. -/
theorem push_represents (spare : Nat → Nat) {ring : PacketRingBuffer} {packets : List Packet}
    (h : ring.Represents packets) (packet : Packet) :
    ∃ next, ring.push spare packet = .ok next ∧
      next.Represents (packets ++ [packet]) ∧ next.maxBytes = ring.maxBytes := by
  refine ⟨_, push_eq spare h packet, ?_, rfl⟩
  constructor
  · simp [h.entries]
  · simp
  · rfl
  · rfl

/-- The run lemma: pushing a sequence extends what the ring represents. -/
theorem pushAll_represents (spare : Nat → Nat) (added : List Packet) :
    ∀ {ring : PacketRingBuffer} {packets : List Packet}, ring.Represents packets →
      ∃ final, ring.pushAll spare added = .ok final ∧
        final.Represents (packets ++ added) ∧ final.maxBytes = ring.maxBytes := by
  induction added with
  | nil =>
      intro ring packets h
      exact ⟨ring, rfl, by simpa using h, rfl⟩
  | cons packet rest ih =>
      intro ring packets h
      obtain ⟨next, hpush, hnext, hmax⟩ := push_represents spare h packet
      obtain ⟨final, hrest, hfinal, hmaxRest⟩ := ih hnext
      refine ⟨final, ?_, by simpa using hfinal, hmaxRest.trans hmax⟩
      rw [pushAll, List.foldlM_cons, hpush, ok_bind]
      exact hrest

/-- A fresh ring represents exactly what was pushed. -/
theorem pushAll_new (spare : Nat → Nat) (maxBytes : Nat) (packets : List Packet) :
    ∃ ring, (new spare maxBytes).pushAll spare packets = .ok ring ∧
      ring.Represents packets ∧ ring.maxBytes = maxBytes := by
  have h := pushAll_represents spare packets (new_represents spare maxBytes)
  simpa [new] using h

theorem Represents.len_eq {ring : PacketRingBuffer} {packets : List Packet}
    (h : ring.Represents packets) : ring.len = (window ring.maxBytes packets).length := by
  rw [len, h.count, h.length]
  exact Nat.min_eq_left (window_length_le _ _)

/-- After any sequence of pushes `len()` and `bytes_used()` are those of the longest suffix of
the pushed packets that fits, or of the newest packet if it alone does not fit. -/
theorem pushAll_keeps_longestFit (spare : Nat → Nat) (maxBytes : Nat) (packets : List Packet) :
    ∃ ring kept, (new spare maxBytes).pushAll spare packets = .ok ring ∧
      LongestFit Packet.size maxBytes packets kept ∧
      ring.len = kept.length ∧ ring.bytesUsed = totalWeight Packet.size kept := by
  obtain ⟨ring, hrun, hring, hmax⟩ := pushAll_new spare maxBytes packets
  refine ⟨ring, window maxBytes packets, hrun, fitSuffix_longestFit _ _ _, ?_, ?_⟩
  · rw [hring.len_eq, hmax]
  · rw [bytesUsed, hring.totalBytes, hmax]

/-! ## The file -/

/-- The buffers written for a list of packets. -/
def recordWrites (packets : List Packet) : List Bytes :=
  packets.flatMap fun packet => packet.toEntry.writes

/-- Records of five buffers each can be read back one by one. -/
theorem recordWrites_injective : Function.Injective recordWrites := by
  intro left
  induction left with
  | nil =>
      intro right h
      cases right with
      | nil => rfl
      | cons packet rest => simp [recordWrites, RingEntry.writes] at h
  | cons packet rest ih =>
      intro right h
      cases right with
      | nil => simp [recordWrites, RingEntry.writes] at h
      | cons other others =>
          simp only [recordWrites, List.flatMap_cons] at h
          obtain ⟨hhead, htail⟩ := List.append_inj h (by simp)
          rw [Packet.toEntry_injective (RingEntry.writes_injective hhead), ih htail]

/-- The `i`-th slot that the flush reads.  Without an eviction the start is
`writePos`, which is the length, and wraps to 0 as well. -/
theorem Represents.flushSlot {ring : PacketRingBuffer} {packets : List Packet}
    (h : ring.Represents packets) {i : Nat} (hi : i < packets.length) :
    index ring.entries.data
        (((if ring.count < ring.entries.length then 0 else ring.writePos) + i) %
          ring.entries.length) =
      .ok packets[i].toEntry := by
  have hslot : ((if ring.count < ring.entries.length then 0 else ring.writePos) + i) %
      ring.entries.length = i := by
    rw [h.length]
    split
    · rw [Nat.zero_add, Nat.mod_eq_of_lt hi]
    · rw [h.writePos, Nat.add_mod_left, Nat.mod_eq_of_lt hi]
  simp [hslot, index, h.entries, hi]

/-- A flush of any ring returns, and writes the global header first. -/
theorem flushToPcap_returns (ring : PacketRingBuffer) :
    ∃ (writes : List Bytes) (written : Nat),
      ring.flushToPcap = .ok (pcapHeader :: writes, written) := by
  let slot (i : Nat) : Nat :=
    ((if ring.count < ring.entries.length then 0 else ring.writePos) + i) % ring.entries.length
  have hbody : ∀ i ∈ List.range (min ring.count ring.entries.length), (do
      let entry ← index ring.entries.data (slot i)
      return entry.writes : Checked (List Bytes)) =
        .ok ((ring.entries.data[slot i]?.map RingEntry.writes).getD []) := by
    intro i hi
    have hpos : 0 < ring.entries.length := by
      have := List.mem_range.mp hi
      omega
    have hslot : slot i < ring.entries.data.length := Nat.mod_lt _ hpos
    rw [index_eq_ok hslot, ok_bind, pure_eq_ok, List.getElem?_eq_getElem hslot, Option.map_some,
      Option.getD_some]
  unfold flushToPcap
  dsimp only
  rw [mapM_eq_ok hbody]
  exact ⟨_, _, rfl⟩

/-- What `flushToPcap` writes: as many packets as the window has, but taken from
the front of the vector. -/
theorem flushToPcap_eq {ring : PacketRingBuffer} {packets : List Packet}
    (h : ring.Represents packets) :
    ring.flushToPcap = .ok (pcapHeader :: recordWrites (packets.take ring.len), ring.len) := by
  have hlen : ring.len ≤ packets.length := by
    rw [h.len_eq]
    exact window_length_le _ _
  let written := packets.map fun packet => packet.toEntry.writes
  have hbody : ∀ i ∈ List.range ring.len, (do
      let entry ← index ring.entries.data
        (((if ring.count < ring.entries.length then 0 else ring.writePos) + i) %
          ring.entries.length)
      return entry.writes : Checked (List Bytes)) = .ok (written.getD i []) := by
    intro i hi
    have hin : i < packets.length := by
      have := List.mem_range.mp hi
      omega
    rw [h.flushSlot hin, ok_bind]
    simp [written, hin, List.getD_eq_getElem?_getD]
  have htake : (List.range ring.len).map (fun i => written.getD i []) =
      written.take ring.len := by
    apply List.ext_getElem
    · simp [written, hlen]
    · intro i hleft hright
      have hin : i < packets.length := by
        have : i < ring.len := by simpa using hleft
        omega
      simp [written, List.getD_eq_getElem?_getD, hin]
  have hrecords := mapM_eq_ok hbody
  rw [htake] at hrecords
  simp only [flushToPcap]
  rw [show min ring.count ring.entries.length = ring.len from rfl, hrecords, ok_bind]
  simp [written, recordWrites, List.flatMap_def, hlen]

/-- The file that an alert asks for: the last `len()` pushed packets, in push
order and as they were pushed, with the newest one as the last record. -/
def FlushesLastPushed (ring : PacketRingBuffer) (packets : List Packet) : Prop :=
  ∃ writes written, ring.flushToPcap = .ok (writes, written) ∧
    writes = pcapHeader :: recordWrites (packets.drop (packets.length - ring.len)) ∧
    ∀ newest, packets.getLast? = some newest → newest.toEntry.writes <:+ writes

/-- The newest packet is the last record of any nonempty suffix of the pushes. -/
theorem newest_writes_suffix {packets : List Packet} {newest : Packet} {kept : Nat}
    (hlast : packets.getLast? = some newest) (hkept : 0 < kept) :
    newest.toEntry.writes <:+
      pcapHeader :: recordWrites (packets.drop (packets.length - kept)) := by
  obtain ⟨older, hpackets⟩ := List.getLast?_eq_some_iff.mp hlast
  subst hpackets
  have hdrop : (older ++ [newest]).drop ((older ++ [newest]).length - kept) =
      older.drop (older.length + 1 - kept) ++ [newest] := by
    rw [List.length_append, List.length_singleton]
    exact List.drop_append_of_le_length (by omega)
  refine ⟨pcapHeader :: recordWrites (older.drop (older.length + 1 - kept)), ?_⟩
  rw [hdrop]
  simp [recordWrites]

/-- The flush is the requested one exactly when the packets at the front of the
vector are the ones in the window. -/
theorem Represents.flushesLastPushed_iff {ring : PacketRingBuffer} {packets : List Packet}
    (h : ring.Represents packets) :
    ring.FlushesLastPushed packets ↔
      packets.take (window ring.maxBytes packets).length = window ring.maxBytes packets := by
  have hwindow := window_eq_drop ring.maxBytes packets
  rw [← h.len_eq] at hwindow ⊢
  rw [hwindow]
  constructor
  · rintro ⟨writes, written, hflush, hwrites, _⟩
    rw [flushToPcap_eq h] at hflush
    obtain ⟨hfront, _⟩ := Prod.mk.inj (Except.ok.inj hflush)
    rw [hwrites] at hfront
    exact recordWrites_injective (List.cons.inj hfront).2
  · intro hfront
    refine ⟨_, _, flushToPcap_eq h, by rw [hfront], ?_⟩
    intro newest hlast
    rw [hfront]
    apply newest_writes_suffix hlast
    rw [h.len_eq]
    apply List.length_pos_of_ne_nil
    apply fitSuffix_ne_nil
    rintro rfl
    simp at hlast

/-- For every byte bound, allocator and sequence of pushes, the flush writes the
last `len()` packets exactly when the first packets ever pushed, as many as the
window holds, are the packets of the window. -/
theorem flushToPcap_writes_last_pushed_iff (spare : Nat → Nat) (maxBytes : Nat)
    (packets : List Packet) :
    ∃ ring, (new spare maxBytes).pushAll spare packets = .ok ring ∧
      (ring.FlushesLastPushed packets ↔
        packets.take (window maxBytes packets).length = window maxBytes packets) := by
  obtain ⟨ring, hrun, hring, hmax⟩ := pushAll_new spare maxBytes packets
  exact ⟨ring, hrun, hmax ▸ hring.flushesLastPushed_iff⟩

/-- Two one-byte packets in a ring of 20 bytes: the second push evicts the first
packet, and the flush writes the evicted one. -/
theorem flushToPcap_writes_evicted_packet :
    ∃ ring, (new (fun _ => 0) 20).pushAll (fun _ => 0) [⟨0, 0, [1]⟩, ⟨1, 0, [2]⟩] = .ok ring ∧
      ¬ ring.FlushesLastPushed [⟨0, 0, [1]⟩, ⟨1, 0, [2]⟩] := by
  obtain ⟨ring, hrun, hring, hmax⟩ :=
    pushAll_new (fun _ => 0) 20 [⟨0, 0, [1]⟩, ⟨1, 0, [2]⟩]
  refine ⟨ring, hrun, ?_⟩
  rw [hring.flushesLastPushed_iff, hmax]
  decide

/-- Nothing has been evicted exactly when everything fits, or one packet at most
was pushed. -/
theorem window_eq_self_iff (maxBytes : Nat) (packets : List Packet) :
    window maxBytes packets = packets ↔
      packets.length ≤ 1 ∨ totalWeight Packet.size packets ≤ maxBytes := by
  cases packets with
  | nil => simp [window, fitSuffix]
  | cons packet rest =>
      have hshort : fitSuffix Packet.size maxBytes rest ≠ packet :: rest := by
        intro heq
        have := (fitSuffix_suffix Packet.size maxBytes rest).length_le
        rw [heq, List.length_cons] at this
        omega
      rw [window, fitSuffix]
      split
      · rename_i hkept
        rcases hkept with hnil | hfits
        · simp [hnil]
        · simp only [true_iff]
          exact Or.inr hfits
      · rename_i hover
        have hlong : ¬ (packet :: rest).length ≤ 1 := by
          intro hlen
          have hrest : rest = [] := by simpa using hlen
          exact hover (Or.inl hrest)
        simp only [hshort, false_iff]
        exact not_or.mpr ⟨hlong, fun hfits => hover (Or.inr hfits)⟩

/-! ## Memory -/

/-- Some number of packets bounds what the ring physically keeps, whatever
sequence of packets of at most `snapLen` bytes is pushed. -/
def EntriesBounded (spare : Nat → Nat) (maxBytes snapLen : Nat) : Prop :=
  ∃ bound, ∀ packets : List Packet, (∀ packet ∈ packets, packet.data.length ≤ snapLen) →
    ∀ ring, (new spare maxBytes).pushAll spare packets = .ok ring → ring.entries.length ≤ bound

/-- Every packet ever pushed is still in `entries`. -/
theorem entries_length_of_pushAll {spare : Nat → Nat} {maxBytes : Nat} {packets : List Packet}
    {ring : PacketRingBuffer} (hrun : (new spare maxBytes).pushAll spare packets = .ok ring) :
    ring.entries.length = packets.length := by
  obtain ⟨final, hfinal, hrepresents, _⟩ := pushAll_new spare maxBytes packets
  rw [hrun] at hfinal
  rw [Except.ok.inj hfinal]
  exact hrepresents.length

/-- One packet more than any proposed bound. -/
theorem exists_entries_length_gt (spare : Nat → Nat) (maxBytes snapLen bound : Nat) :
    ∃ (packets : List Packet) (ring : PacketRingBuffer),
      (∀ packet ∈ packets, packet.data.length ≤ snapLen) ∧
      (new spare maxBytes).pushAll spare packets = .ok ring ∧ bound < ring.entries.length := by
  let packets : List Packet := List.replicate (bound + 1) ⟨0, 0, []⟩
  obtain ⟨ring, hrun, _, _⟩ := pushAll_new spare maxBytes packets
  refine ⟨packets, ring, ?_, hrun, ?_⟩
  · intro packet hpacket
    rw [List.eq_of_mem_replicate hpacket]
    exact Nat.zero_le _
  · rw [entries_length_of_pushAll hrun, List.length_replicate]
    exact Nat.lt_succ_self bound

/-- For no byte bound, no snap length and no allocator is the vector bounded. -/
theorem entries_never_bounded (spare : Nat → Nat) (maxBytes snapLen : Nat) :
    ¬ EntriesBounded spare maxBytes snapLen := by
  rintro ⟨bound, hbound⟩
  obtain ⟨packets, ring, hsnap, hrun, hlong⟩ :=
    exists_entries_length_gt spare maxBytes snapLen bound
  have := hbound packets hsnap ring hrun
  omega

/-- The ring of the eviction test (500 bytes, packets of 50) is not bounded. -/
theorem eviction_test_ring_not_bounded : ¬ EntriesBounded (fun _ => 0) 500 50 := by
  rintro ⟨bound, hbound⟩
  obtain ⟨packets, ring, hsnap, hrun, hlong⟩ :=
    exists_entries_length_gt (fun _ => 0) 500 50 bound
  have := hbound packets hsnap ring hrun
  omega

end PacketRingBuffer

end GeSensor.PcapStore
