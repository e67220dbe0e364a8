/-
  Dissectors/Metadata.lean --- what a dissected packet is described by.

  The constants and `PacketMetadata` of `src/dissectors/mod.rs`.  A fresh record
  holds the defaults of its fields; each dissector fills in the fields it reads.
-/
import GeSensor.Foundation.Checked
import GeSensor.Net.IpAddr

set_option autoImplicit false

namespace GeSensor.Dissectors

open GeSensor.Foundation
open GeSensor.Net

/-- Ethernet header constants. -/
def ethHeaderLen : Nat := 14

def ethertypeIpv4 : UInt16 := 0x0800

def ethertypeIpv6 : UInt16 := 0x86DD

def ethertypeVlan : UInt16 := 0x8100

/-- IP protocol numbers. -/
def ipProtoIcmp : UInt8 := 1

def ipProtoTcp : UInt8 := 6

def ipProtoUdp : UInt8 := 17

def ipProtoIcmpv6 : UInt8 := 58

/-- The values of `protocol_name`: the empty default, the names that the
dissectors assign, and the four OT names that only the pipeline's table knows. -/
inductive ProtocolName where
  /-- `""` -/
  | none
  | other
  /-- `"ip_other"` -/
  | ipOther
  | tcp
  /-- `"tcp_truncated"` -/
  | tcpTruncated
  | udp
  /-- `"udp_truncated"` -/
  | udpTruncated
  | icmp
  | icmpv6
  /-- `"icmp_truncated"` -/
  | icmpTruncated
  | tls
  | http
  | dns
  | ntp
  | dhcp
  | quic
  | modbus
  | dnp3
  | bacnet
  | enip
  deriving DecidableEq, Repr

/-- Complete packet metadata extracted by the dissectors. -/
structure PacketMetadata where
  srcMac : Vector UInt8 6 := .replicate 6 0
  dstMac : Vector UInt8 6 := .replicate 6 0
  ethertype : UInt16 := 0
  vlanId : Option UInt16 := none
  srcIp : Option IpAddr := none
  dstIp : Option IpAddr := none
  ipProto : UInt8 := 0
  ipTtl : UInt8 := 0
  ipTotalLen : UInt16 := 0
  srcPort : UInt16 := 0
  dstPort : UInt16 := 0
  tcpFlags : UInt8 := 0
  tcpWindow : UInt16 := 0
  tcpSeq : UInt32 := 0
  tcpAck : UInt32 := 0
  icmpType : UInt8 := 0
  icmpCode : UInt8 := 0
  /-- offset into the packet where the L4 payload begins -/
  payloadOffset : Nat := 0
  /-- length of the L4 payload -/
  payloadLen : Nat := 0
  protocolName : ProtocolName := .none
  deriving DecidableEq, Repr

end GeSensor.Dissectors
