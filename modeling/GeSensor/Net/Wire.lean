/-
  Net/Wire.lean --- headers as values, and their encoding on the wire.

  A frame is an Ethernet header with an optional 802.1Q tag, an IPv4 or IPv6
  header, and a TCP or UDP header with its payload.  Every field is free but those
  that the format determines: versions, header lengths, the ethertype, the protocol
  number, and the length of a UDP packet.  What a format cannot carry cannot be
  built: options are whole words that the header length can count, and a UDP
  payload fits its length field.
-/
import GeSensor.Foundation.ByteReads
import GeSensor.Net.IpAddr

set_option autoImplicit false

namespace GeSensor.Net

open GeSensor.Foundation

/-- The options of an IPv4 or TCP header: up to ten 32-bit words behind the five fixed
ones. -/
structure Options where
  words : List (Vector UInt8 4)
  fits : words.length ≤ 10

/-- The header length in words, between 5 and 15. -/
def Options.headerWords (options : Options) : Nat := 5 + options.words.length

def Options.encode (options : Options) : Bytes := options.words.flatMap Vector.toList

theorem Options.length_encode (options : Options) :
    options.encode.length = 4 * options.words.length := by
  simp [Options.encode, List.length_flatMap, List.map_const', Nat.mul_comm]

/-! ## Ethernet -/

structure EthernetHeader where
  dst : Vector UInt8 6
  src : Vector UInt8 6
  /-- the tag control information of an 802.1Q tag -/
  tci : Option UInt16
  deriving DecidableEq, Repr

/-- The tag, if there is one. -/
def EthernetHeader.encodeTag (header : EthernetHeader) : Bytes :=
  match header.tci with
  | some tci => be16Bytes 0x8100 ++ be16Bytes tci
  | none => []

def EthernetHeader.encode (header : EthernetHeader) (ethertype : UInt16) : Bytes :=
  header.dst.toList ++ (header.src.toList ++ (header.encodeTag ++ be16Bytes ethertype))

def EthernetHeader.length (header : EthernetHeader) : Nat :=
  match header.tci with
  | some _ => 18
  | none => 14

theorem EthernetHeader.length_encode (header : EthernetHeader) (ethertype : UInt16) :
    (header.encode ethertype).length = header.length := by
  simp only [EthernetHeader.encode, EthernetHeader.encodeTag, EthernetHeader.length,
    List.length_append, Vector.length_toList, be16Bytes, List.length_cons, List.length_nil]
  cases header.tci with
  | none => rfl
  | some tci => rfl

/-! ## IP -/

structure Ipv4Header where
  tos : UInt8
  totalLen : UInt16
  ident : UInt16
  /-- flags and fragment offset -/
  fragment : UInt16
  ttl : UInt8
  checksum : UInt16
  src : Vector UInt8 4
  dst : Vector UInt8 4
  options : Options

/-- The twelve bytes before the addresses. -/
def Ipv4Header.encodeFixed (header : Ipv4Header) (protocol : UInt8) : Bytes :=
  [.ofNat (4 * 16 + header.options.headerWords), header.tos] ++
    (be16Bytes header.totalLen ++ (be16Bytes header.ident ++ (be16Bytes header.fragment ++
      ([header.ttl, protocol] ++ be16Bytes header.checksum))))

def Ipv4Header.encode (header : Ipv4Header) (protocol : UInt8) : Bytes :=
  header.encodeFixed protocol ++
    (header.src.toList ++ (header.dst.toList ++ header.options.encode))

theorem Ipv4Header.length_encode (header : Ipv4Header) (protocol : UInt8) :
    (header.encode protocol).length = 4 * header.options.headerWords := by
  simp only [Ipv4Header.encode, Ipv4Header.encodeFixed, List.length_append, Vector.length_toList,
    be16Bytes, List.length_cons, List.length_nil, Options.length_encode, Options.headerWords]
  omega

structure Ipv6Header where
  trafficClass : UInt8
  flowLabel : Fin (2 ^ 20)
  payloadLen : UInt16
  hopLimit : UInt8
  src : Vector UInt8 16
  dst : Vector UInt8 16

/-- The eight bytes before the addresses. -/
def Ipv6Header.encodeFixed (header : Ipv6Header) (protocol : UInt8) : Bytes :=
  be32Bytes (.ofNat (6 * 2 ^ 28 + header.trafficClass.toNat * 2 ^ 20 + header.flowLabel)) ++
    (be16Bytes header.payloadLen ++ [protocol, header.hopLimit])

def Ipv6Header.encode (header : Ipv6Header) (protocol : UInt8) : Bytes :=
  header.encodeFixed protocol ++ (header.src.toList ++ header.dst.toList)

theorem Ipv6Header.length_encode (header : Ipv6Header) (protocol : UInt8) :
    (header.encode protocol).length = 40 := by
  simp only [Ipv6Header.encode, Ipv6Header.encodeFixed, List.length_append, Vector.length_toList,
    be16Bytes, be32Bytes, List.length_cons, List.length_nil]

inductive NetworkHeader where
  | ipv4 (header : Ipv4Header)
  | ipv6 (header : Ipv6Header)

namespace NetworkHeader

def ethertype : NetworkHeader → UInt16
  | ipv4 _ => 0x0800
  | ipv6 _ => 0x86DD

def src : NetworkHeader → IpAddr
  | ipv4 header => .v4 header.src
  | ipv6 header => .v6 header.src

def dst : NetworkHeader → IpAddr
  | ipv4 header => .v4 header.dst
  | ipv6 header => .v6 header.dst

/-- The TTL or the hop limit. -/
def ttl : NetworkHeader → UInt8
  | ipv4 header => header.ttl
  | ipv6 header => header.hopLimit

/-- The total length of IPv4, the payload length of IPv6. -/
def totalLen : NetworkHeader → UInt16
  | ipv4 header => header.totalLen
  | ipv6 header => header.payloadLen

def encode (protocol : UInt8) : NetworkHeader → Bytes
  | ipv4 header => header.encode protocol
  | ipv6 header => header.encode protocol

def length : NetworkHeader → Nat
  | ipv4 header => 4 * header.options.headerWords
  | ipv6 _ => 40

theorem length_encode (header : NetworkHeader) (protocol : UInt8) :
    (header.encode protocol).length = header.length := by
  cases header with
  | ipv4 header => exact header.length_encode protocol
  | ipv6 header => exact header.length_encode protocol

theorem length_pos (header : NetworkHeader) : 0 < header.length := by
  cases header with
  | ipv4 header =>
      rw [length, Options.headerWords]
      omega
  | ipv6 header => exact Nat.succ_pos _

end NetworkHeader

/-! ## Transport -/

structure TcpHeader where
  srcPort : UInt16
  dstPort : UInt16
  seq : UInt32
  ack : UInt32
  /-- the four bits behind the data offset -/
  reserved : Fin 16
  flags : UInt8
  window : UInt16
  checksum : UInt16
  urgent : UInt16
  options : Options

def TcpHeader.encode (header : TcpHeader) : Bytes :=
  (be16Bytes header.srcPort ++ (be16Bytes header.dstPort ++ (be32Bytes header.seq ++
    (be32Bytes header.ack ++
      ([.ofNat (header.options.headerWords * 16 + header.reserved), header.flags] ++
        (be16Bytes header.window ++ (be16Bytes header.checksum ++ be16Bytes header.urgent))))))) ++
    header.options.encode

theorem TcpHeader.length_encode (header : TcpHeader) :
    header.encode.length = 4 * header.options.headerWords := by
  simp only [TcpHeader.encode, List.length_append, be16Bytes, be32Bytes, List.length_cons,
    List.length_nil, Options.length_encode, Options.headerWords]
  omega

structure UdpHeader where
  srcPort : UInt16
  dstPort : UInt16
  checksum : UInt16
  deriving DecidableEq, Repr

def UdpHeader.encode (header : UdpHeader) (payloadLen : Nat) : Bytes :=
  be16Bytes header.srcPort ++ (be16Bytes header.dstPort ++ (be16Bytes (.ofNat (8 + payloadLen)) ++
    be16Bytes header.checksum))

/-- A transport header and its payload. -/
inductive Segment where
  | tcp (header : TcpHeader) (payload : Bytes)
  | udp (header : UdpHeader) (payload : Bytes) (fits : 8 + payload.length < 2 ^ 16)

namespace Segment

def protocol : Segment → UInt8
  | tcp _ _ => 6
  | udp _ _ _ => 17

def srcPort : Segment → UInt16
  | tcp header _ => header.srcPort
  | udp header _ _ => header.srcPort

def dstPort : Segment → UInt16
  | tcp header _ => header.dstPort
  | udp header _ _ => header.dstPort

def payload : Segment → Bytes
  | tcp _ payload => payload
  | udp _ payload _ => payload

/-- The length of the header. -/
def headerLen : Segment → Nat
  | tcp header _ => 4 * header.options.headerWords
  | udp _ _ _ => 8

def encode : Segment → Bytes
  | tcp header payload => header.encode ++ payload
  | udp header payload _ => header.encode payload.length ++ payload

theorem drop_headerLen (segment : Segment) : segment.encode.drop segment.headerLen =
    segment.payload := by
  cases segment with
  | tcp header payload => exact List.drop_left' header.length_encode
  | udp header payload fits => rfl

end Segment

/-! ## The frame -/

structure WireFrame where
  ethernet : EthernetHeader
  network : NetworkHeader
  segment : Segment

namespace WireFrame

/-- The frame on the wire. -/
def encode (frame : WireFrame) : Bytes :=
  frame.ethernet.encode frame.network.ethertype ++
    (frame.network.encode frame.segment.protocol ++ frame.segment.encode)

/-- The length of all headers. -/
def headerLen (frame : WireFrame) : Nat :=
  frame.ethernet.length + frame.network.length + frame.segment.headerLen

/-- Behind all headers stands the payload. -/
theorem drop_headerLen (frame : WireFrame) :
    frame.encode.drop frame.headerLen = frame.segment.payload := by
  rw [headerLen, ← List.drop_drop, ← List.drop_drop, encode,
    List.drop_left' (frame.ethernet.length_encode _),
    List.drop_left' (frame.network.length_encode _), frame.segment.drop_headerLen]

end WireFrame

end GeSensor.Net
