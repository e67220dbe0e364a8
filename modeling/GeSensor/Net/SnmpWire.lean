/-
  Net/SnmpWire.lean --- SNMP messages on the wire, as the protocol lays them out.

  A message is a SEQUENCE of the version, an INTEGER, the community, an OCTET STRING, and a
  PDU.  The lengths are BER lengths in any of their forms.
-/
import GeSensor.Foundation.Ber
import GeSensor.Foundation.Text

set_option autoImplicit false

namespace GeSensor.Net

open GeSensor.Foundation

/-- The tag of an INTEGER. -/
def tagInteger : UInt8 := 0x02

/-- The tag of an OCTET STRING. -/
def tagOctetString : UInt8 := 0x04

/-- The tag of a SEQUENCE. -/
def tagSequence : UInt8 := 0x30

/-! ## Headers -/

/-- What stands in front of the PDU. -/
structure SnmpHeader where
  sequence : BerLength
  version : BerElement
  community : BerElement

namespace SnmpHeader

/-- The two elements in front of the PDU. -/
def elements (header : SnmpHeader) : Bytes :=
  header.version.encode tagInteger ++ header.community.encode tagOctetString

def encode (header : SnmpHeader) : Bytes :=
  tagSequence :: (header.sequence.encode ++ header.elements)

/-- The lengths have at most four octets behind their first one. -/
structure Few (header : SnmpHeader) : Prop where
  sequence : header.sequence.count ≤ 4
  version : header.version.length.count ≤ 4
  community : header.community.length.count ≤ 4

/-- One header stands at the front of a sequence. -/
theorem encode_append_inj {left right : SnmpHeader} {after behind : Bytes}
    (h : left.encode ++ after = right.encode ++ behind) : left = right ∧ after = behind := by
  obtain ⟨sequence, version, community⟩ := left
  obtain ⟨otherSequence, otherVersion, otherCommunity⟩ := right
  simp only [encode, elements, List.cons_append, List.append_assoc, List.cons.injEq,
    true_and] at h
  obtain ⟨rfl, helements⟩ := BerLength.encode_append_inj h
  obtain ⟨rfl, hcommunity⟩ := BerElement.encode_append_inj helements
  obtain ⟨rfl, hrest⟩ := BerElement.encode_append_inj hcommunity
  exact ⟨rfl, hrest⟩

end SnmpHeader

/-! ## Messages -/

/-- What a message holds: a version of one octet, a community and a PDU. -/
structure SnmpContent where
  version : UInt8
  community : String
  pdu : Bytes
  versionLength : BerLength
  communityLength : BerLength
  nonNegative : version.toNat < 2 ^ 7
  versionFits : 1 = versionLength.value
  communityFits : (asBytes community).length = communityLength.value

namespace SnmpContent

def versionElement (content : SnmpContent) : BerElement :=
  ⟨content.versionLength, [content.version], content.versionFits⟩

def communityElement (content : SnmpContent) : BerElement :=
  ⟨content.communityLength, asBytes content.community, content.communityFits⟩

def encode (content : SnmpContent) : Bytes :=
  content.versionElement.encode tagInteger ++
    (content.communityElement.encode tagOctetString ++ content.pdu)

end SnmpContent

/-- A message; its lengths have at most four octets behind their first one. -/
structure SnmpMessage extends SnmpContent where
  sequenceLength : BerLength
  sequenceFits : toSnmpContent.encode.length = sequenceLength.value
  fewSequence : sequenceLength.count ≤ 4
  fewVersion : versionLength.count ≤ 4
  fewCommunity : communityLength.count ≤ 4

namespace SnmpMessage

def encode (message : SnmpMessage) : Bytes :=
  BerElement.encode tagSequence
    ⟨message.sequenceLength, message.toSnmpContent.encode, message.sequenceFits⟩

def header (message : SnmpMessage) : SnmpHeader :=
  ⟨message.sequenceLength, message.versionElement, message.communityElement⟩

theorem few_header (message : SnmpMessage) : message.header.Few :=
  ⟨message.fewSequence, message.fewVersion, message.fewCommunity⟩

theorem encode_eq (message : SnmpMessage) :
    message.encode = message.header.encode ++ message.pdu := by
  simp only [encode, BerElement.encode, SnmpContent.encode, SnmpHeader.encode, header,
    SnmpHeader.elements, List.cons_append, List.append_assoc]

end SnmpMessage

end GeSensor.Net
