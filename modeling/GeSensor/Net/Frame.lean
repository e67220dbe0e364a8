/-
  Net/Frame.lean --- the headers of an Ethernet frame, by the wire formats.

  This file says what a frame holds, without reference to the dissectors: where
  the IP header starts behind an optional 802.1Q tag, when a complete IPv4, IPv6,
  TCP or UDP header is there, and which fields it carries.  Statements about
  frames "with a complete header" are stated with these readings.
-/
import GeSensor.Foundation.Checked
import GeSensor.Net.IpAddr

set_option autoImplicit false

namespace GeSensor.Net

open GeSensor.Foundation

/-- The ethertype that announces the network header, and where that header starts. -/
def networkHeader? (frame : Bytes) : Option (UInt16 × Nat) :=
  if frame.length < 14 then none
  else if be16At frame 12 = 0x8100 then
    if frame.length < 18 then none else some (be16At frame 16, 18)
  else some (be16At frame 12, 14)

/-- A complete IP header. -/
structure IpHeader where
  protocol : UInt8
  src : IpAddr
  dst : IpAddr
  /-- where the transport header starts -/
  l4 : Nat
  deriving DecidableEq, Repr

/-- A complete IPv4 header at `l3`: version 4, at least five words, all captured. -/
def ipv4Header? (frame : Bytes) (l3 : Nat) : Option IpHeader :=
  let version := (byteAt frame l3).toNat / 16
  let headerLen := (byteAt frame l3).toNat % 16 * 4
  if l3 + 20 ≤ frame.length ∧ version = 4 ∧ 20 ≤ headerLen ∧ l3 + headerLen ≤ frame.length then
    some
      { protocol := byteAt frame (l3 + 9)
        src := .v4 (bytesAt frame (l3 + 12) 4)
        dst := .v4 (bytesAt frame (l3 + 16) 4)
        l4 := l3 + headerLen }
  else none

/-- A complete IPv6 header at `l3`: version 6, all forty bytes captured. -/
def ipv6Header? (frame : Bytes) (l3 : Nat) : Option IpHeader :=
  let version := (byteAt frame l3).toNat / 16
  if l3 + 40 ≤ frame.length ∧ version = 6 then
    some
      { protocol := byteAt frame (l3 + 6)
        src := .v6 (bytesAt frame (l3 + 8) 16)
        dst := .v6 (bytesAt frame (l3 + 24) 16)
        l4 := l3 + 40 }
  else none

/-- The complete IP header of a frame, of the version its ethertype announces. -/
def ipHeader? (frame : Bytes) : Option IpHeader :=
  match networkHeader? frame with
  | none => none
  | some (ethertype, l3) =>
      if ethertype = 0x0800 then ipv4Header? frame l3
      else if ethertype = 0x86DD then ipv6Header? frame l3
      else none

/-- The transport header of the frame is at the start of its datagram: an IPv4
header has fragment offset zero. -/
def FirstFragment (frame : Bytes) : Prop :=
  ∀ l3, networkHeader? frame = some (0x0800, l3) →
    (be16At frame (l3 + 6)).toNat % 2 ^ 13 = 0

/-- What the statements need of a transport header. -/
structure TransportHeader where
  srcPort : UInt16
  dstPort : UInt16
  /-- the TCP flags, zero for UDP -/
  flags : UInt8
  /-- where the payload starts -/
  payload : Nat
  deriving DecidableEq, Repr

/-- A complete TCP header at `l4`: at least five words, all captured. -/
def tcpHeader? (frame : Bytes) (l4 : Nat) : Option TransportHeader :=
  let headerLen := (byteAt frame (l4 + 12)).toNat / 16 * 4
  if l4 + 20 ≤ frame.length ∧ 20 ≤ headerLen ∧ l4 + headerLen ≤ frame.length then
    some
      { srcPort := be16At frame l4
        dstPort := be16At frame (l4 + 2)
        flags := byteAt frame (l4 + 13)
        payload := l4 + headerLen }
  else none

/-- A complete UDP header at `l4`. -/
def udpHeader? (frame : Bytes) (l4 : Nat) : Option TransportHeader :=
  if l4 + 8 ≤ frame.length then
    some
      { srcPort := be16At frame l4
        dstPort := be16At frame (l4 + 2)
        flags := 0
        payload := l4 + 8 }
  else none

end GeSensor.Net
