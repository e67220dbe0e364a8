/-
  Inputs/Receivers.lean --- the UDP receivers of syslog, NetFlow and SNMP traps.

  `start_syslog_udp`, `start_netflow_udp` and `start_snmp_trap_udp` are one loop: receive a
  datagram, parse it, offer what it holds to a channel, and drop what the channel refuses.
  The consumer of the channel is not part of the program; it may move at any time.

  A datagram longer than the buffer is cut.  The counters are those of the syslog receiver;
  the other two have none, and there they are kept for the statements only.  Log lines are
  left out.
-/
import GeSensor.Foundation.Channel
import GeSensor.Inputs.Netflow
import GeSensor.Inputs.SnmpMessages
import GeSensor.Inputs.Syslog

set_option autoImplicit false

namespace GeSensor.Inputs

open GeSensor.Foundation
open GeSensor.Net

/-! ## Datagrams -/

/-- A datagram, its sender's address, and what the clock says when it is parsed. -/
structure Datagram where
  now : String
  peer : String
  data : Bytes
  deriving DecidableEq, Repr

/-- `socket.recv_from(&mut buf)` with a buffer of so many bytes. -/
def Datagram.recvFrom (datagram : Datagram) (bufLen : Nat) : Bytes := datagram.data.take bufLen

/-- The event of a syslog datagram, if it holds one. -/
def syslogEvents (datagram : Datagram) : List SyslogEvent :=
  ((fromUtf8 (datagram.recvFrom 8192)).bind (parseSyslog datagram.now)).toList

/-- What `start_syslog_udp` offers for a datagram. -/
def syslogItems (datagram : Datagram) : Checked (List SyslogEvent) := .ok (syslogEvents datagram)

/-- What `start_netflow_udp` offers for a datagram. -/
def netflowItems (datagram : Datagram) : Checked (List NetFlowRecord) :=
  parseNetflowV5 datagram.now (datagram.recvFrom 65535)

/-- What `start_snmp_trap_udp` offers for a datagram. -/
def snmpTrapItems (datagram : Datagram) : Checked (List SnmpTrapEvent) := do
  let event ← parseSnmpTrap datagram.now (datagram.recvFrom 65535) datagram.peer
  return event.toList

/-- The syslog receiver with a consumer. -/
abbrev SyslogReceiver : Type := Feed Datagram SyslogEvent

abbrev NetflowReceiver : Type := Feed Datagram NetFlowRecord

abbrev SnmpTrapReceiver : Type := Feed Datagram SnmpTrapEvent

/-! ## Syslog -/

theorem length_syslogEvents_le (datagram : Datagram) : (syslogEvents datagram).length ≤ 1 := by
  rw [syslogEvents]
  cases (fromUtf8 (datagram.recvFrom 8192)).bind (parseSyslog datagram.now) <;> simp

theorem syslogItems_mapM (datagrams : List Datagram) :
    datagrams.mapM syslogItems = .ok (datagrams.map syslogEvents) :=
  mapM_eq_ok fun _ _ => rfl

/-- Whatever arrives, and however slow the consumer is: events are delivered in the order of
their datagrams and none twice; every event is delivered, waits, was dropped or is about to
be offered; at most `capacity` events wait; and no more events are dropped than datagrams
were received. -/
theorem syslogReceiver_accounts {capacity : Nat} {receiver : SyslogReceiver}
    (h : Reachable (Feed.step syslogItems) (Feed.start capacity) receiver) :
    (receiver.taken ++ receiver.channel.queue).Sublist (receiver.inputs.flatMap syslogEvents) ∧
      receiver.taken.length + receiver.channel.queue.length + receiver.dropped +
          receiver.pending.length = (receiver.inputs.flatMap syslogEvents).length ∧
      receiver.channel.queue.length ≤ capacity ∧
      receiver.received = receiver.inputs.length ∧
      receiver.dropped ≤ receiver.received := by
  have haccounted := Feed.accounted_of_reachable h
  have hparts := syslogItems_mapM receiver.inputs
  have htotal := haccounted.total hparts
  rw [← List.flatMap_def] at htotal
  have hevents : (receiver.inputs.flatMap syslogEvents).length ≤ receiver.inputs.length := by
    generalize receiver.inputs = inputs
    induction inputs with
    | nil => exact Nat.le_refl _
    | cons datagram rest ih =>
        have hone := length_syslogEvents_le datagram
        rw [List.flatMap_cons, List.length_append, List.length_cons]
        omega
  refine ⟨?_, htotal, haccounted.length_le, haccounted.received, ?_⟩
  · rw [List.flatMap_def]
    exact haccounted.sublist hparts
  · rw [haccounted.received]
    omega

/-- Two messages to a channel of one. -/
def sampleDatagrams : List (FeedLabel Datagram) :=
  [.read { now := "", peer := "", data := asBytes "<13>first" }, .offer,
    .read { now := "", peer := "", data := asBytes "<13>second" }, .offer, .take]

theorem syslogReceiver_accounts_sample :
    ∃ receiver : SyslogReceiver,
      Reachable (Feed.step syslogItems) (Feed.start 1) receiver ∧
      receiver.received = 2 ∧
      (receiver.taken ++ receiver.channel.queue).Sublist
        (receiver.inputs.flatMap syslogEvents) ∧
      receiver.dropped ≤ receiver.received := by
  have hlast : (runLabels (Feed.step syslogItems) (fun _ _ => decide True) (Feed.start 1)
      sampleDatagrams).any (fun receiver => receiver.received == 2) = true := by decide
  obtain ⟨receiver, hrun, htest⟩ := (Option.any_eq_true _ _).mp hlast
  have hreachable : Reachable (Feed.step syslogItems) (Feed.start 1) receiver :=
    reachableBy_of_runLabels sampleDatagrams .start hrun
  have haccounts := syslogReceiver_accounts hreachable
  exact ⟨receiver, hreachable, eq_of_beq htest, haccounts.1, haccounts.2.2.2.2⟩

/-! ## NetFlow -/

/-- A version 5 export packet that fits into the receiver's buffer, sent by an exporter that
counts its records. -/
structure ExportPacket where
  now : String
  peer : String
  header : NetflowV5Header
  records : List NetflowV5Record
  count : header.count.toNat = records.length
  fits : 24 + 48 * records.length ≤ 65535

def ExportPacket.datagram (packet : ExportPacket) : Datagram where
  now := packet.now
  peer := packet.peer
  data := encodeNetflowV5 packet.header packet.records

/-- What the receiver is to report of a packet. -/
def ExportPacket.reports (packet : ExportPacket) : List NetFlowRecord :=
  packet.records.map (reported packet.now)

theorem netflowItems_datagram (packet : ExportPacket) :
    netflowItems packet.datagram = .ok packet.reports := by
  have hfits := packet.fits
  have hwhole : min packet.header.count.toNat
      (wholeRecords packet.header packet.records 65535) = packet.records.length := by
    rw [wholeRecords_eq_min, packet.count]
    omega
  rw [netflowItems, Datagram.recvFrom, ExportPacket.datagram, parseNetflowV5_take_encode, hwhole,
    List.take_length, ExportPacket.reports]

/-- Exporters that send whole packets and a consumer that keeps up: the records delivered,
those that wait and those about to be offered are, in order, exactly the records that were
exported. -/
theorem netflowReceiver_delivers_exported {capacity : Nat} {receiver : NetflowReceiver}
    {packets : List ExportPacket}
    (h : ReachableBy (Feed.step netflowItems) Feed.KeepsUp (Feed.start capacity) receiver)
    (hinputs : receiver.inputs = packets.map ExportPacket.datagram) :
    receiver.dropped = 0 ∧
      receiver.taken ++ receiver.channel.queue ++ receiver.pending =
        packets.flatMap ExportPacket.reports :=
  Feed.delivers_encoded netflowItems_datagram h hinputs

/-- One record, exported in one packet. -/
def samplePacket : ExportPacket where
  now := ""
  peer := ""
  header :=
    { count := 1, sysUptime := 0, unixSecs := 0, unixNsecs := 0, flowSequence := 0
      engineType := 0, engineId := 0, samplingInterval := 0 }
  records :=
    [{ srcAddr := #v[10, 0, 0, 1], dstAddr := #v[10, 0, 0, 2], nextHop := #v[0, 0, 0, 0]
       input := 0, output := 0, packets := 1, octets := 40, first := 0, last := 0
       srcPort := 1024, dstPort := 80, pad1 := 0, tcpFlags := 2, protocol := 6, tos := 0
       srcAs := 0, dstAs := 0, srcMask := 0, dstMask := 0, pad2 := 0 }]
  count := rfl
  fits := by decide

theorem netflowReceiver_delivers_samplePacket :
    ∃ receiver : NetflowReceiver,
      ReachableBy (Feed.step netflowItems) Feed.KeepsUp (Feed.start 1) receiver ∧
      receiver.taken ++ receiver.channel.queue ++ receiver.pending = samplePacket.reports := by
  have hlast : (runLabels (Feed.step netflowItems)
      (fun feed label => decide (Feed.KeepsUp feed label)) (Feed.start 1)
      [.read samplePacket.datagram, .offer, .take]).any
      (fun receiver => receiver.inputs == [samplePacket.datagram]) = true := by decide
  obtain ⟨receiver, hrun, htest⟩ := (Option.any_eq_true _ _).mp hlast
  have hreachable := reachableBy_of_runLabels _ .start hrun
  have hinputs : receiver.inputs = [samplePacket].map ExportPacket.datagram := eq_of_beq htest
  have hdelivers := netflowReceiver_delivers_exported hreachable hinputs
  exact ⟨receiver, hreachable, by rw [hdelivers.2]; exact List.flatMap_singleton _ _⟩

/-! ## SNMP traps -/

/-- A message of ten octets or more that fits into the receiver's buffer. -/
structure SentTrap where
  now : String
  peer : String
  message : SnmpMessage
  long : 10 ≤ message.encode.length
  fits : message.encode.length ≤ 65535

def SentTrap.datagram (trap : SentTrap) : Datagram where
  now := trap.now
  peer := trap.peer
  data := trap.message.encode

/-- What the receiver is to report of a message. -/
def SentTrap.reports (trap : SentTrap) : List SnmpTrapEvent :=
  [{ version := trap.message.version
     community := trap.message.community
     trapOid := ""
     agentAddr := trap.peer
     varbinds := []
     timestamp := trap.now }]

theorem snmpTrapItems_datagram (trap : SentTrap) :
    snmpTrapItems trap.datagram = .ok trap.reports := by
  rw [snmpTrapItems, Datagram.recvFrom, SentTrap.datagram, List.take_of_length_le trap.fits,
    parseSnmpTrap_encode trap.now trap.peer trap.message trap.long]
  rfl

/-- The same of messages that agents send. -/
theorem snmpTrapReceiver_delivers_sent {capacity : Nat} {receiver : SnmpTrapReceiver}
    {traps : List SentTrap}
    (h : ReachableBy (Feed.step snmpTrapItems) Feed.KeepsUp (Feed.start capacity) receiver)
    (hinputs : receiver.inputs = traps.map SentTrap.datagram) :
    receiver.dropped = 0 ∧
      receiver.taken ++ receiver.channel.queue ++ receiver.pending =
        traps.flatMap SentTrap.reports :=
  Feed.delivers_encoded snmpTrapItems_datagram h hinputs

end GeSensor.Inputs
