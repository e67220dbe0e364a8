/-
  Inputs/SnmpMessages.lean --- the messages that `parse_snmp_trap` reads, and what it takes
  for one.

  Every message is read back, whatever forms its lengths have.  The other way round the
  parser takes more: it never compares the length of the SEQUENCE with anything, and of the
  version it reads the octet behind the length, be it the whole INTEGER or not.
-/
import GeSensor.Inputs.SnmpTrap

set_option autoImplicit false

namespace GeSensor.Inputs

open GeSensor.Foundation GeSensor.Net

/-! ## Messages are read -/

theorem communityText_asBytes (text : String) : communityText (asBytes text) = text := by
  rw [communityText, fromUtf8_asBytes]
  exact String.ofList_toList

/-- A message of ten octets or more is read back, over all forms of its three lengths. -/
theorem parseSnmpTrap_encode (now source : String) (message : SnmpMessage)
    (hlength : 10 ≤ message.encode.length) :
    parseSnmpTrap now message.encode source = .ok (some {
      version := message.version
      community := message.community
      trapOid := ""
      agentAddr := source
      varbinds := []
      timestamp := now }) := by
  rw [parseSnmpTrap_of_header now source message.encode_eq message.few_header hlength,
    reportedEvent]
  have hcommunity : communityText message.header.community.content = message.community :=
    communityText_asBytes message.community
  rw [hcommunity]
  rfl

/-- A message of version 2c whose lengths have three different forms. -/
def publicMessage : SnmpMessage where
  version := 1
  community := "public"
  pdu := []
  versionLength := .long [0x00, 0x01] (by decide) (by decide)
  communityLength := .short 6 (by decide)
  nonNegative := by decide
  versionFits := rfl
  communityFits := rfl
  sequenceLength := .long [0x0D] (by decide) (by decide)
  sequenceFits := rfl
  fewSequence := by decide
  fewVersion := by decide
  fewCommunity := by decide

theorem parseSnmpTrap_encode_public :
    parseSnmpTrap "" publicMessage.encode "192.168.1.1:162" = .ok (some {
      version := 1
      community := "public"
      trapOid := ""
      agentAddr := "192.168.1.1:162"
      varbinds := []
      timestamp := "" }) :=
  parseSnmpTrap_encode "" "192.168.1.1:162" publicMessage (by decide)

/-! ## What is read is a message -/

/-- The event is of a message at the front of the slice: a SEQUENCE inside the slice, in it an
INTEGER that is the version and an OCTET STRING that is the community if it is a text. -/
def SnmpTrapEvent.ReportsMessage (event : SnmpTrapEvent) (data : Bytes) : Prop :=
  ∃ (sequence version community : BerElement) (pdu rest : Bytes),
    data = sequence.encode tagSequence ++ rest ∧
      sequence.content =
        version.encode tagInteger ++ (community.encode tagOctetString ++ pdu) ∧
      1 ≤ version.content.length ∧ signedValue version.content = event.version.toNat ∧
      ∀ text, fromUtf8 community.content = some text → event.community = .ofList text

/-- The SEQUENCE ends behind the community and inside the slice. -/
def SequenceFits (header : SnmpHeader) (rest : Bytes) : Prop :=
  header.elements.length ≤ header.sequence.value ∧
    header.sequence.value ≤ header.elements.length + rest.length

/-- The version is one octet below 128, or zero in any number of octets. -/
def PlainVersion (content : Bytes) : Prop :=
  (∃ octet, content = [octet] ∧ octet.toNat < 2 ^ 7) ∨
    content ≠ [] ∧ ∀ octet ∈ content, octet = 0

/-- The octet that the parser reads is the version exactly when the version is plain. -/
theorem plainVersion_iff (header : SnmpHeader) :
    PlainVersion header.version.content ↔ 1 ≤ header.version.content.length ∧
      signedValue header.version.content = (versionOctet header).toNat := by
  rw [versionOctet, PlainVersion]
  cases header.version.content with
  | nil => simp
  | cons first rest =>
      rw [List.headD_cons, signedValue_cons_eq_iff]
      simp

/-- A SEQUENCE that begins with two elements begins as the header of the three does. -/
theorem sequence_encode_eq {sequence version community : BerElement} {pdu : Bytes}
    (h : sequence.content =
      version.encode tagInteger ++ (community.encode tagOctetString ++ pdu)) (rest : Bytes) :
    sequence.encode tagSequence ++ rest =
      (SnmpHeader.mk sequence.length version community).encode ++ (pdu ++ rest) := by
  rw [BerElement.encode, h]
  simp only [SnmpHeader.encode, SnmpHeader.elements, List.cons_append, List.append_assoc]

/-- The event of a header is of a message exactly when the SEQUENCE fits and the version is
plain. -/
theorem reportsMessage_iff_of_header (now source : String) {data rest : Bytes}
    {header : SnmpHeader} (h : data = header.encode ++ rest) :
    (reportedEvent now source header).ReportsMessage data ↔
      SequenceFits header rest ∧ PlainVersion header.version.content := by
  constructor
  · -- There is one header at the front, so the message has the lengths that were read.
    rintro ⟨sequence, version, community, pdu, behind, hdata, hcontent, hpos, hvalue, _⟩
    rw [h, sequence_encode_eq hcontent] at hdata
    obtain ⟨rfl, rfl⟩ := SnmpHeader.encode_append_inj hdata
    refine ⟨?_, (plainVersion_iff _).mpr ⟨hpos, hvalue⟩⟩
    have hlength := congrArg List.length hcontent
    rw [sequence.fits, ← List.append_assoc, List.length_append] at hlength
    have hrest : (pdu ++ behind).length = pdu.length + behind.length := List.length_append
    rw [SequenceFits, hlength, hrest]
    exact ⟨Nat.le_add_right _ _, Nat.add_le_add_left (Nat.le_add_right _ _) _⟩
  · rintro ⟨⟨hbehind, hinside⟩, hplain⟩
    obtain ⟨hpos, hvalue⟩ := (plainVersion_iff header).mp hplain
    obtain ⟨pdu, behind, hpdu, rfl⟩ : ∃ pdu behind : Bytes,
        pdu.length = header.sequence.value - header.elements.length ∧ rest = pdu ++ behind :=
      ⟨_, _, List.length_take_of_le (Nat.sub_le_iff_le_add'.mpr hinside),
        (List.take_append_drop _ rest).symm⟩
    have hfits : (header.version.encode tagInteger ++
        (header.community.encode tagOctetString ++ pdu)).length = header.sequence.value := by
      rw [← List.append_assoc, List.length_append, hpdu]
      exact Nat.add_sub_cancel' hbehind
    refine ⟨⟨header.sequence, _, hfits⟩, header.version, header.community, pdu, behind, ?_, rfl,
      hpos, hvalue, ?_⟩
    · rw [h, sequence_encode_eq rfl]
    · intro text htext
      simp only [reportedEvent, communityText, htext]

/-- What `parse_snmp_trap` returns is of a message exactly for the slices whose header, if they
have one, gives the SEQUENCE a length that fits and the version one octet or zeros. -/
theorem reportsMessage_iff (now source : String) (data : Bytes) :
    (∀ event, parseSnmpTrap now data source = .ok (some event) → event.ReportsMessage data) ↔
      (10 ≤ data.length → ∀ (header : SnmpHeader) (rest : Bytes), header.Few →
        data = header.encode ++ rest →
          SequenceFits header rest ∧ PlainVersion header.version.content) := by
  constructor
  · intro h hlength header rest few hdata
    exact (reportsMessage_iff_of_header now source hdata).mp
      (h _ (parseSnmpTrap_of_header now source hdata few hlength))
  · intro h event hparse
    obtain ⟨hlength, header, rest, few, hdata, rfl⟩ := parseSnmpTrap_eq_some_iff.mp hparse
    exact (reportsMessage_iff_of_header now source hdata).mpr (h hlength header rest few hdata)

/-- An INTEGER without octets: the tag of the community becomes the version. -/
theorem emptyInteger_not_reportsMessage :
    ¬ ∀ event, parseSnmpTrap "" [0x30, 0x08, 0x02, 0x00, 0x04, 0x04, 0x74, 0x72, 0x61, 0x70] "" =
        .ok (some event) →
      event.ReportsMessage [0x30, 0x08, 0x02, 0x00, 0x04, 0x04, 0x74, 0x72, 0x61, 0x70] := by
  intro h
  let header : SnmpHeader :=
    ⟨.short 8 (by decide), ⟨.short 0 (by decide), [], rfl⟩,
      ⟨.short 4 (by decide), [0x74, 0x72, 0x61, 0x70], rfl⟩⟩
  have hdata : [0x30, 0x08, 0x02, 0x00, 0x04, 0x04, 0x74, 0x72, 0x61, 0x70] =
      header.encode ++ [] := rfl
  have hparse := parseSnmpTrap_of_header "" "" hdata ⟨by decide, by decide, by decide⟩ (by decide)
  obtain ⟨_, hplain⟩ := (reportsMessage_iff_of_header "" "" hdata).mp (h _ hparse)
  rcases hplain with ⟨octet, hcontent, _⟩ | ⟨hne, _⟩
  · exact absurd hcontent (List.cons_ne_nil octet []).symm
  · exact hne rfl

end GeSensor.Inputs
