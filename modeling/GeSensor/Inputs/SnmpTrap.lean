/-
  Inputs/SnmpTrap.lean --- `parse_snmp_trap` and `read_asn1_length`, and what they read.

  A length is read wherever one stands that has at most four octets behind its first one.
  The parser returns an event exactly where the header of a message stands at the front of
  the slice, whatever the length of the SEQUENCE says.
-/
import GeSensor.Net.SnmpWire
import Mathlib.Data.Nat.Bitwise

set_option autoImplicit false

namespace GeSensor.Inputs

open GeSensor.Foundation GeSensor.Net

/-- `SnmpTrapEvent`. -/
structure SnmpTrapEvent where
  version : UInt8
  community : String
  trapOid : String
  agentAddr : String
  varbinds : List (String × String)
  timestamp : String
  deriving DecidableEq, Repr

/-- The loop of `read_asn1_length`: `length = (length << 8) | data[position]`. -/
def lengthLoop (data : Bytes) : (left position length : Nat) → Checked Nat
  | 0, _, length => .ok length
  | left + 1, position, length => do
      let octet ← index data position
      lengthLoop data left (position + 1) (length <<< 8 ||| octet.toNat)

/-- `read_asn1_length`: the length and the offset behind it. -/
def readAsn1Length (data : Bytes) (offset : Nat) : Checked (Option (Nat × Nat)) :=
  tryThen (.ok data[offset]?) fun byte =>
    if byte &&& 0x80 = 0 then .ok (some (byte.toNat, offset + 1))
    else
      let numBytes := (byte &&& 0x7F).toNat
      if numBytes = 0 ∨ 4 < numBytes ∨ data.length < offset + 1 + numBytes then .ok none
      else do
        let length ← lengthLoop data numBytes (offset + 1) 0
        return some (length, offset + 1 + numBytes)

/-- The text of the community, `"???"` for bytes that are no UTF-8. -/
def communityText (bytes : Bytes) : String :=
  match fromUtf8 bytes with
  | some text => .ofList text
  | none => "???"

/-- `parse_snmp_trap`, where the clock says `now`. -/
def parseSnmpTrap (now : String) (data : Bytes) (source : String) :
    Checked (Option SnmpTrapEvent) :=
  if data.length < 10 then .ok none
  else do
    if (← index data 0) ≠ 0x30 then
      return none
    tryThen (readAsn1Length data 1) fun (_, offset) =>
      tryThen (.ok data[offset]?) fun tag =>
        if tag ≠ 0x02 then .ok none
        else
          tryThen (readAsn1Length data (offset + 1)) fun (verLen, verOffset) =>
            tryThen (.ok data[verOffset]?) fun version =>
              let next := verOffset + verLen
              tryThen (.ok data[next]?) fun tag =>
                if tag ≠ 0x04 then .ok none
                else
                  tryThen (readAsn1Length data (next + 1)) fun (commLen, commOffset) =>
                    tryThen (.ok (getRange? data commOffset (commOffset + commLen))) fun bytes =>
                      .ok (some {
                        version := version
                        community := communityText bytes
                        trapOid := ""
                        agentAddr := source
                        varbinds := []
                        timestamp := now })

/-! ## Lengths -/

/-- The top bit of an octet. -/
theorem and_0x80_eq_zero_iff (octet : UInt8) : octet &&& 0x80 = 0 ↔ octet.toNat < 2 ^ 7 := by
  have hlt := octet.toNat_lt
  have hand : (octet &&& 0x80).toNat = (octet.toNat.testBit 7).toNat * 2 ^ 7 :=
    Nat.and_two_pow octet.toNat 7
  rw [← UInt8.toNat_inj, hand, UInt8.toNat_zero, Nat.testBit_eq_decide_div_mod_eq]
  by_cases hbit : octet.toNat / 2 ^ 7 % 2 = 1
  · simp only [hbit, decide_true, Bool.toNat_true]
    omega
  · simp only [hbit, decide_false, Bool.toNat_false]
    omega

theorem toNat_and_0x7F (octet : UInt8) : (octet &&& 0x7F).toNat = octet.toNat % 2 ^ 7 :=
  Nat.and_two_pow_sub_one_eq_mod octet.toNat 7

theorem shiftLeft_or_octet (length : Nat) (octet : UInt8) :
    length <<< 8 ||| octet.toNat = appendOctet length octet := by
  rw [← Nat.shiftLeft_add_eq_or_of_lt octet.toNat_lt, Nat.shiftLeft_eq, appendOctet]

section

variable {data rest : Bytes} {offset : Nat}

/-- The loop reads the octets that stand at its position. -/
theorem lengthLoop_of_drop {octets : Bytes} (h : data.drop offset = octets ++ rest)
    (length : Nat) :
    lengthLoop data octets.length offset length = .ok (octets.foldl appendOctet length) := by
  induction octets generalizing offset length with
  | nil => rfl
  | cons octet octets ih =>
      have hget : index data offset = .ok octet := index_eq_ok_iff.mpr (getElem?_of_drop h)
      rw [List.length_cons, lengthLoop, hget, ok_bind, ih (drop_succ_of_drop h),
        shiftLeft_or_octet, List.foldl_cons]

/-- A length is read where it stands. -/
theorem readAsn1Length_of_drop {length : BerLength} (h : data.drop offset = length.encode ++ rest)
    (few : length.count ≤ 4) :
    readAsn1Length data offset = .ok (some (length.value, offset + length.encode.length)) := by
  cases length with
  | short octet small =>
      rw [readAsn1Length, getElem?_of_drop h, tryThen_some]
      exact if_pos ((and_0x80_eq_zero_iff octet).mpr small)
  | long octets pos short =>
      have hsize : octets.length ≤ 4 := few
      have hfirst := BerLength.toNat_first short
      have hlong : ¬ UInt8.ofNat (2 ^ 7 + octets.length) &&& 0x80 = 0 := by
        rw [and_0x80_eq_zero_iff, hfirst]
        omega
      have hcount : (UInt8.ofNat (2 ^ 7 + octets.length) &&& 0x7F).toNat = octets.length := by
        rw [toNat_and_0x7F, hfirst]
        omega
      have hinside := congrArg List.length h
      rw [List.length_drop, List.length_append, BerLength.length_encode, BerLength.count]
        at hinside
      have hdrop := drop_succ_of_drop h
      rw [readAsn1Length, getElem?_of_drop h, tryThen_some]
      dsimp only
      rw [if_neg hlong, hcount, if_neg (by omega), lengthLoop_of_drop hdrop, ok_bind, pure_eq_ok,
        BerLength.value, BerLength.length_encode, BerLength.count, unsignedValue, Nat.add_assoc]

/-- Whatever is read is a length that stands there. -/
theorem readAsn1Length_eq_some_iff {value after : Nat} :
    readAsn1Length data offset = .ok (some (value, after)) ↔
      ∃ length : BerLength, length.count ≤ 4 ∧ data.drop offset = length.encode ++ data.drop after ∧
        value = length.value ∧ after = offset + length.encode.length := by
  constructor
  · intro hread
    obtain ⟨length, few, hdrop⟩ : ∃ length : BerLength, length.count ≤ 4 ∧
        data.drop offset = length.encode ++ data.drop (offset + length.encode.length) := by
      obtain ⟨byte, hbyte, hread⟩ := tryThen_eq_some_iff.mp hread
      obtain ⟨hin, rfl⟩ := List.getElem?_eq_some_iff.mp (Except.ok.inj hbyte)
      have hcons := List.drop_eq_getElem_cons hin
      split at hread
      next hshort => exact ⟨.short _ ((and_0x80_eq_zero_iff _).mp hshort), Nat.zero_le 4, hcons⟩
      next hlong =>
        obtain ⟨hbound, _⟩ := ite_none_eq_some_iff.mp hread
        rw [and_0x80_eq_zero_iff] at hlong
        rw [toNat_and_0x7F] at hbound
        have hoctet := data[offset].toNat_lt
        obtain ⟨octets, hsize, hoctets⟩ := @exists_part data (offset + 1)
          (data[offset].toNat % 2 ^ 7) (by omega)
        have hfirst : UInt8.ofNat (2 ^ 7 + octets.length) = data[offset] := by
          rw [hsize, ← UInt8.toNat_inj, BerLength.toNat_first (by omega)]
          omega
        refine ⟨.long octets (by omega) (by omega), by rw [BerLength.count]; omega, ?_⟩
        rw [BerLength.length_encode, BerLength.count, BerLength.encode, hfirst, hcons,
          hoctets, List.cons_append, hsize, Nat.add_assoc]
    rw [readAsn1Length_of_drop hdrop few] at hread
    obtain ⟨rfl, rfl⟩ := Prod.mk.inj (Option.some.inj (Except.ok.inj hread))
    exact ⟨length, few, hdrop, rfl, rfl⟩
  · rintro ⟨length, few, hdrop, rfl, rfl⟩
    exact readAsn1Length_of_drop hdrop few

/-- Whatever the octets are, reading them does not panic. -/
theorem readAsn1Length_returns (data : Bytes) (offset : Nat) :
    Returns (readAsn1Length data offset) := by
  refine tryThen_returns (returns_ok _) fun byte => ?_
  split
  next => exact returns_ok _
  next =>
    refine ite_none_returns fun hbound => ?_
    obtain ⟨octets, hsize, hoctets⟩ := @exists_part data (offset + 1) (byte &&& 0x7F).toNat
      (by omega)
    rw [← hsize, lengthLoop_of_drop hoctets, ok_bind]
    exact returns_ok _

end

/-! ## Events -/

/-- The octet behind the length of the version: its first content octet, or the tag behind it
when it has none. -/
def versionOctet (header : SnmpHeader) : UInt8 := header.version.content.headD tagOctetString

/-- What the parser reports of a header. -/
def reportedEvent (now source : String) (header : SnmpHeader) : SnmpTrapEvent where
  version := versionOctet header
  community := communityText header.community.content
  trapOid := ""
  agentAddr := source
  varbinds := []
  timestamp := now

section

variable {data rest : Bytes} {header : SnmpHeader}

/-- The first octet of a content, or what stands behind it when it has none. -/
theorem getElem?_headD_of_drop {base : Nat} {content : Bytes} {tag : UInt8}
    (h : data.drop base = content ++ tag :: rest) : data[base]? = some (content.headD tag) := by
  cases content with
  | nil => exact getElem?_of_drop h
  | cons octet more => exact getElem?_of_drop h

/-- A header at the front of ten octets or more is reported. -/
theorem parseSnmpTrap_of_header (now source : String) (h : data = header.encode ++ rest)
    (few : header.Few) (hlength : 10 ≤ data.length) :
    parseSnmpTrap now data source = .ok (some (reportedEvent now source header)) := by
  have hstart : data.drop 0 = header.encode ++ rest := h
  simp only [SnmpHeader.encode, SnmpHeader.elements, BerElement.encode, List.cons_append,
    List.append_assoc] at hstart
  have hsequence := drop_succ_of_drop hstart
  rw [Nat.zero_add] at hsequence
  have hinteger := drop_add_of_drop _ hsequence rfl
  have hversionLength := drop_succ_of_drop hinteger
  have hversion := drop_add_of_drop _ hversionLength rfl
  have hstring := drop_add_of_drop _ hversion header.version.fits
  have hcommunityLength := drop_succ_of_drop hstring
  have hcommunity := drop_add_of_drop _ hcommunityLength rfl
  have hoctet := getElem?_headD_of_drop hversion
  have hbehind := add_length_le_of_drop header.community.length.encode_pos hcommunityLength
  have hrange := getRange?_of_drop hbehind hcommunity
  rw [header.community.fits] at hrange
  have hsequenceTag : ¬ tagSequence ≠ 0x30 := not_not_intro rfl
  have hintegerTag : ¬ tagInteger ≠ 0x02 := not_not_intro rfl
  have hstringTag : ¬ tagOctetString ≠ 0x04 := not_not_intro rfl
  rw [parseSnmpTrap, if_neg (Nat.not_lt.mpr hlength),
    index_eq_ok_iff.mpr (getElem?_of_drop hstart), ok_bind, if_neg hsequenceTag,
    readAsn1Length_of_drop hsequence few.sequence, tryThen_some]
  dsimp only
  rw [getElem?_of_drop hinteger, tryThen_some, if_neg hintegerTag,
    readAsn1Length_of_drop hversionLength few.version, tryThen_some]
  dsimp only
  rw [hoctet, tryThen_some, getElem?_of_drop hstring, tryThen_some, if_neg hstringTag,
    readAsn1Length_of_drop hcommunityLength few.community, tryThen_some]
  dsimp only
  rw [hrange, tryThen_some]
  rfl

/-- Where the parser returns an event, a header stands at the front. -/
theorem exists_header_of_parse {now source : String} {event : SnmpTrapEvent}
    (h : parseSnmpTrap now data source = .ok (some event)) :
    10 ≤ data.length ∧ ∃ (header : SnmpHeader) (rest : Bytes),
      header.Few ∧ data = header.encode ++ rest := by
  obtain ⟨hlength, h⟩ := ite_none_eq_some_iff.mp h
  obtain ⟨first, hfirst, h⟩ := bind_eq_ok_iff.mp h
  obtain ⟨hsequenceTag, h⟩ := ite_none_eq_some_iff.mp h
  obtain ⟨⟨_, offset⟩, hreadSequence, h⟩ := tryThen_eq_some_iff.mp h
  obtain ⟨integerTag, hgetInteger, h⟩ := tryThen_eq_some_iff.mp h
  obtain ⟨hintegerTag, h⟩ := ite_none_eq_some_iff.mp h
  obtain ⟨⟨verLen, verOffset⟩, hreadVersion, h⟩ := tryThen_eq_some_iff.mp h
  obtain ⟨octet, _, h⟩ := tryThen_eq_some_iff.mp h
  obtain ⟨stringTag, hgetString, h⟩ := tryThen_eq_some_iff.mp h
  obtain ⟨hstringTag, h⟩ := ite_none_eq_some_iff.mp h
  obtain ⟨⟨commLen, commOffset⟩, hreadCommunity, h⟩ := tryThen_eq_some_iff.mp h
  obtain ⟨bytes, hrange, _⟩ := tryThen_eq_some_iff.mp h
  -- The lengths and the tags, each where the one before ends.
  obtain ⟨sequence, fewSequence, hsequence, _⟩ := readAsn1Length_eq_some_iff.mp hreadSequence
  obtain ⟨versionLength, fewVersion, hversion, rfl, _⟩ := readAsn1Length_eq_some_iff.mp hreadVersion
  obtain ⟨communityLength, fewCommunity, hcommunity, rfl, _⟩ :=
    readAsn1Length_eq_some_iff.mp hreadCommunity
  have hstart := drop_of_getElem? (index_eq_ok_iff.mp hfirst)
  have hinteger := drop_of_getElem? (Except.ok.inj hgetInteger)
  obtain ⟨hnext, _⟩ := List.getElem?_eq_some_iff.mp (Except.ok.inj hgetString)
  have hstring := drop_of_getElem? (Except.ok.inj hgetString)
  -- The contents have room: a tag stands behind the first, and the second is cut out.
  obtain ⟨versionContent, hversionFits, hversionContent⟩ := exists_part (Nat.le_of_lt hnext)
  obtain ⟨communityContent, hcommunityFits, hcommunityContent⟩ :=
    exists_part (le_length_of_getRange? (Except.ok.inj hrange))
  refine ⟨Nat.not_lt.mp hlength, ⟨sequence, ⟨versionLength, versionContent, hversionFits⟩,
    ⟨communityLength, communityContent, hcommunityFits⟩⟩,
    data.drop (commOffset + communityLength.value), ⟨fewSequence, fewVersion, fewCommunity⟩, ?_⟩
  simp only [SnmpHeader.encode, SnmpHeader.elements, BerElement.encode, List.cons_append,
    List.append_assoc]
  rw [← hcommunityContent, ← hcommunity, tagOctetString, ← Decidable.not_not.mp hstringTag,
    ← hstring, ← hversionContent, ← hversion, tagInteger, ← Decidable.not_not.mp hintegerTag,
    ← hinteger, ← hsequence, tagSequence, ← Decidable.not_not.mp hsequenceTag, ← hstart,
    List.drop_zero]

/-- The parser reports the headers that stand at the front of ten octets or more. -/
theorem parseSnmpTrap_eq_some_iff {now source : String} {event : SnmpTrapEvent} :
    parseSnmpTrap now data source = .ok (some event) ↔
      10 ≤ data.length ∧ ∃ (header : SnmpHeader) (rest : Bytes),
        header.Few ∧ data = header.encode ++ rest ∧ event = reportedEvent now source header := by
  constructor
  · intro h
    obtain ⟨hlength, header, rest, few, hdata⟩ := exists_header_of_parse h
    rw [parseSnmpTrap_of_header now source hdata few hlength] at h
    exact ⟨hlength, header, rest, few, hdata, (Option.some.inj (Except.ok.inj h)).symm⟩
  · rintro ⟨hlength, header, rest, few, hdata, rfl⟩
    exact parseSnmpTrap_of_header now source hdata few hlength

/-- The parser never panics. -/
theorem parseSnmpTrap_returns (now : String) (data : Bytes) (source : String) :
    Returns (parseSnmpTrap now data source) := by
  refine ite_none_returns fun hlength => ?_
  rw [index_eq_byteAt (by omega), ok_bind]
  refine ite_none_returns fun _ => ?_
  refine tryThen_returns (readAsn1Length_returns data 1) fun ⟨_, offset⟩ => ?_
  refine tryThen_returns (returns_ok _) fun _ => ite_none_returns fun _ => ?_
  refine tryThen_returns (readAsn1Length_returns data (offset + 1)) fun ⟨_, _⟩ => ?_
  refine tryThen_returns (returns_ok _) fun _ => tryThen_returns (returns_ok _) fun _ => ?_
  refine ite_none_returns fun _ => ?_
  refine tryThen_returns (readAsn1Length_returns data _) fun ⟨_, _⟩ => ?_
  exact tryThen_returns (returns_ok _) fun _ => returns_ok _

end

end GeSensor.Inputs
