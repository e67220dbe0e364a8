/-
  Dissectors/Ot.lean --- the Modbus/TCP, DNP3 and BACnet/IP dissectors of
  `src/dissectors/ot/modbus.rs`, `dnp3.rs` and `bacnet.rs`.

  Modbus and DNP3 read a fixed header at the payload offset and classify the
  function code behind it.  BACnet has routing fields of variable length between
  its header and the service choice.
-/
import GeSensor.Foundation.ByteReads

set_option autoImplicit false

namespace GeSensor.Dissectors

open GeSensor.Foundation

/-! ## Modbus -/

/-- The Modbus function codes that write. -/
def modbusWriteCodes : List UInt8 := [0x05, 0x06, 0x0F, 0x10]

/-- Parsed Modbus/TCP frame. -/
structure ModbusFrame where
  transactionId : UInt16
  protocolId : UInt16
  length : UInt16
  unitId : UInt8
  functionCode : UInt8
  /-- the function code has bit 7 set -/
  isException : Bool
  exceptionCode : UInt8
  isWrite : Bool
  deriving DecidableEq, Repr

/-- MBAP header: transaction, protocol, length and unit. -/
def mbapHeaderLen : Nat := 7

/-- Parse a Modbus/TCP frame from the given payload. -/
def dissectModbus (data : Bytes) (payloadOffset : Nat) : Checked (Option ModbusFrame) :=
  match getFrom? data payloadOffset with
  | none => .ok none
  | some payload =>
      if payload.length < mbapHeaderLen + 1 then .ok none
      else do
        let transactionId ← index16 payload 0
        let protocolId ← index16 payload 2
        let length ← index16 payload 4
        let unitId ← index payload 6
        let functionCode ← index payload 7
        if protocolId ≠ 0 then return none
        else
          let isException := functionCode &&& 0x80 ≠ 0
          let actualFc := functionCode &&& 0x7F
          let exceptionCode ← if isException ∧ 8 < payload.length then index payload 8 else pure 0
          return some
            { transactionId := transactionId
              protocolId := protocolId
              length := length
              unitId := unitId
              functionCode := actualFc
              isException := isException
              exceptionCode := exceptionCode
              isWrite := modbusWriteCodes.contains actualFc }

/-! ## DNP3 -/

/-- DNP3 data link layer start bytes. -/
def dnp3StartBytes : UInt8 × UInt8 := (0x05, 0x64)

/-- The DNP3 function codes that write, operate, select or restart. -/
def dnp3ControlCodes : List UInt8 := [0x02, 0x03, 0x04, 0x05, 0x06, 0x0D, 0x0E]

/-- Parsed DNP3 frame. -/
structure Dnp3Frame where
  length : UInt8
  control : UInt8
  destination : UInt16
  source : UInt16
  functionCode : Option UInt8
  isControlCommand : Bool
  deriving DecidableEq, Repr

/-- DNP3 data link header: start, length, control, addresses and CRC. -/
def dnp3DlHeaderLen : Nat := 10

/-- Parse a DNP3 frame from the given payload. -/
def dissectDnp3 (data : Bytes) (payloadOffset : Nat) : Checked (Option Dnp3Frame) :=
  match getFrom? data payloadOffset with
  | none => .ok none
  | some payload =>
      if payload.length < dnp3DlHeaderLen then .ok none
      else do
        if (← index payload 0) ≠ dnp3StartBytes.1 ∨ (← index payload 1) ≠ dnp3StartBytes.2 then
          return none
        else
          let length ← index payload 2
          let control ← index payload 3
          let destination := le16 (← index payload 4) (← index payload 5)
          let source := le16 (← index payload 6) (← index payload 7)
          -- Behind the CRC and the transport header.
          let appOffset := dnp3DlHeaderLen + 1
          let functionCode ←
            if appOffset < payload.length then some <$> index payload appOffset else pure none
          return some
            { length := length
              control := control
              destination := destination
              source := source
              functionCode := functionCode
              isControlCommand := functionCode.any dnp3ControlCodes.contains }

/-! ## BACnet/IP -/

/-- The confirmed service that writes a property. -/
def bacnetWriteProperty : UInt8 := 15

/-- Parsed BACnet/IP frame. -/
structure BacnetFrame where
  bvlcType : UInt8
  bvlcFunction : UInt8
  bvlcLength : UInt16
  npduVersion : Option UInt8 := none
  /-- the APDU is a confirmed request -/
  isConfirmed : Bool := false
  serviceChoice : Option UInt8 := none
  isWrite : Bool := false
  deriving DecidableEq, Repr

/-- BVLC header: type, function and length. -/
def bvlcHeaderLen : Nat := 4

/-- Skip a network number, an address length and the address, if the field is
present and its length can be read. -/
def skipNpduAddress (payload : Bytes) (isPresent : Bool) (offset : Nat) : Checked Nat :=
  if isPresent ∧ offset + 3 < payload.length then do
    return offset + (3 + (← index payload (offset + 2)).toNat)
  else .ok offset

/-- Where the APDU starts, behind the routing fields the control byte announces. -/
def bacnetApduOffset (payload : Bytes) : Checked Nat := do
  let npduControl ← index payload (bvlcHeaderLen + 1)
  let hasDst : Bool := npduControl &&& 0x20 ≠ 0
  let hasSrc : Bool := npduControl &&& 0x08 ≠ 0
  let offset ← skipNpduAddress payload hasDst (bvlcHeaderLen + 2)
  let offset ← skipNpduAddress payload hasSrc offset
  -- The hop count goes with the destination.
  return if hasDst then offset + 1 else offset

/-- The confirmed request at the APDU offset, if it is one. -/
def bacnetApdu (payload : Bytes) (offset : Nat) (frame : BacnetFrame) : Checked BacnetFrame :=
  if offset < payload.length then do
    let apduType := ((← index payload offset) >>> 4) &&& 0x0F
    if apduType = 0 then
      if offset + 3 < payload.length then
        let serviceChoice ← index payload (offset + 3)
        return { frame with
          isConfirmed := true
          serviceChoice := some serviceChoice
          isWrite := serviceChoice = bacnetWriteProperty }
      else return { frame with isConfirmed := true }
    else return { frame with isConfirmed := false }
  else .ok frame

/-- Parse a BACnet/IP frame from the given payload. -/
def dissectBacnet (data : Bytes) (payloadOffset : Nat) : Checked (Option BacnetFrame) :=
  match getFrom? data payloadOffset with
  | none => .ok none
  | some payload =>
      if payload.length < bvlcHeaderLen then .ok none
      else do
        let bvlcType ← index payload 0
        let bvlcFunction ← index payload 1
        let bvlcLength ← index16 payload 2
        if bvlcType ≠ 0x81 then return none
        else
          let frame : BacnetFrame :=
            { bvlcType := bvlcType, bvlcFunction := bvlcFunction, bvlcLength := bvlcLength }
          if bvlcHeaderLen < payload.length then
            let npduVersion ← index payload bvlcHeaderLen
            let frame := { frame with npduVersion := some npduVersion }
            if bvlcHeaderLen + 2 < payload.length then
              let offset ← bacnetApduOffset payload
              some <$> bacnetApdu payload offset frame
            else return some frame
          else return some frame

/-! ## What is reported

Each dissector answers from the payload, and never panics. -/

/-- What the Modbus dissector reports of a payload. -/
def modbusAnswer (payload : Bytes) : Option ModbusFrame :=
  if mbapHeaderLen + 1 ≤ payload.length ∧ be16At payload 2 = 0 then
    let functionCode := byteAt payload 7
    some
      { transactionId := be16At payload 0
        protocolId := be16At payload 2
        length := be16At payload 4
        unitId := byteAt payload 6
        functionCode := functionCode &&& 0x7F
        isException := functionCode &&& 0x80 ≠ 0
        exceptionCode :=
          if functionCode &&& 0x80 ≠ 0 ∧ 8 < payload.length then byteAt payload 8 else 0
        isWrite := modbusWriteCodes.contains (functionCode &&& 0x7F) }
  else none

theorem dissectModbus_answers : AnswersFrom dissectModbus modbusAnswer := by
  intro data payloadOffset
  unfold dissectModbus modbusAnswer mbapHeaderLen
  cases getFrom? data payloadOffset with
  | none => rfl
  | some payload =>
      rw [Option.bind_some]
      dsimp only
      by_cases hshort : payload.length < 7 + 1
      · rw [if_pos hshort, if_neg fun h => absurd h.1 (Nat.not_le_of_lt hshort)]
      rw [if_neg hshort, index16_eq_be16At (by omega), ok_bind, index16_eq_be16At (by omega),
        ok_bind, index16_eq_be16At (by omega), ok_bind, index_eq_byteAt (by omega), ok_bind,
        index_eq_byteAt (by omega), ok_bind]
      by_cases hprotocol : be16At payload 2 = 0
      · have hheader : 7 + 1 ≤ payload.length ∧ be16At payload 2 = 0 :=
          ⟨Nat.le_of_not_lt hshort, hprotocol⟩
        rw [if_neg (not_not_intro hprotocol), if_pos hheader]
        by_cases hexception : byteAt payload 7 &&& 0x80 ≠ 0 ∧ 8 < payload.length
        · rw [if_pos hexception, if_pos hexception, index_eq_byteAt hexception.2, ok_bind]
          rfl
        · rw [if_neg hexception, if_neg hexception]
          rfl
      · rw [if_pos hprotocol, if_neg fun h => hprotocol h.2]
        rfl

theorem dissectModbus_returns (data : Bytes) (payloadOffset : Nat) :
    Returns (dissectModbus data payloadOffset) :=
  dissectModbus_answers.returns data payloadOffset

/-- What the DNP3 dissector reports of a payload. -/
def dnp3Answer (payload : Bytes) : Option Dnp3Frame :=
  if dnp3DlHeaderLen ≤ payload.length ∧ byteAt payload 0 = dnp3StartBytes.1 ∧
      byteAt payload 1 = dnp3StartBytes.2 then
    let functionCode :=
      if dnp3DlHeaderLen + 1 < payload.length then some (byteAt payload (dnp3DlHeaderLen + 1))
      else none
    some
      { length := byteAt payload 2
        control := byteAt payload 3
        destination := le16 (byteAt payload 4) (byteAt payload 5)
        source := le16 (byteAt payload 6) (byteAt payload 7)
        functionCode := functionCode
        isControlCommand := functionCode.any dnp3ControlCodes.contains }
  else none

theorem dissectDnp3_answers : AnswersFrom dissectDnp3 dnp3Answer := by
  intro data payloadOffset
  unfold dissectDnp3 dnp3Answer dnp3DlHeaderLen
  cases getFrom? data payloadOffset with
  | none => rfl
  | some payload =>
      rw [Option.bind_some]
      dsimp only
      by_cases hshort : payload.length < 10
      · rw [if_pos hshort, if_neg fun h => absurd h.1 (Nat.not_le_of_lt hshort)]
      rw [if_neg hshort, index_eq_byteAt (by omega), ok_bind, index_eq_byteAt (by omega), ok_bind]
      by_cases hstart : byteAt payload 0 = dnp3StartBytes.1 ∧ byteAt payload 1 = dnp3StartBytes.2
      · rw [if_neg (not_or.mpr ⟨not_not_intro hstart.1, not_not_intro hstart.2⟩),
          if_pos ⟨Nat.le_of_not_lt hshort, hstart⟩,
          index_eq_byteAt (by omega), ok_bind, index_eq_byteAt (by omega), ok_bind,
          index_eq_byteAt (by omega), ok_bind, index_eq_byteAt (by omega), ok_bind,
          index_eq_byteAt (by omega), ok_bind, index_eq_byteAt (by omega), ok_bind]
        by_cases hcode : 10 + 1 < payload.length
        · rw [if_pos hcode, if_pos hcode, index_eq_byteAt hcode]
          rfl
        · rw [if_neg hcode, if_neg hcode]
          rfl
      · rw [if_pos (Decidable.not_and_iff_or_not.mp hstart), if_neg fun h => hstart h.2]
        rfl

theorem dissectDnp3_returns (data : Bytes) (payloadOffset : Nat) :
    Returns (dissectDnp3 data payloadOffset) :=
  dissectDnp3_answers.returns data payloadOffset

/-- The end of an address that may be present. -/
def npduAddressEnd (payload : Bytes) (isPresent : Bool) (offset : Nat) : Nat :=
  if isPresent ∧ offset + 3 < payload.length then
    offset + (3 + (byteAt payload (offset + 2)).toNat)
  else offset

theorem skipNpduAddress_eq (payload : Bytes) (isPresent : Bool) (offset : Nat) :
    skipNpduAddress payload isPresent offset = .ok (npduAddressEnd payload isPresent offset) := by
  unfold skipNpduAddress npduAddressEnd
  split
  · rename_i hroom
    rw [index_eq_byteAt (by omega), ok_bind]
    rfl
  · rfl

/-- Where the dissector looks for the APDU. -/
def apduStart (payload : Bytes) : Nat :=
  let hasDst : Bool := byteAt payload 5 &&& 0x20 ≠ 0
  let hasSrc : Bool := byteAt payload 5 &&& 0x08 ≠ 0
  let offset := npduAddressEnd payload hasSrc (npduAddressEnd payload hasDst 6)
  if hasDst then offset + 1 else offset

theorem bacnetApduOffset_eq {payload : Bytes} (hcontrol : 6 < payload.length) :
    bacnetApduOffset payload = .ok (apduStart payload) := by
  unfold bacnetApduOffset bvlcHeaderLen
  rw [index_eq_byteAt (by omega), ok_bind]
  dsimp only
  rw [skipNpduAddress_eq, ok_bind, skipNpduAddress_eq, ok_bind]
  rfl

/-- What is reported of the octets that are taken for the APDU. -/
def reportApdu (frame : BacnetFrame) : Bytes → BacnetFrame
  | [] => frame
  | typeOctet :: rest =>
      if typeOctet < 0x10 then
        match rest[2]? with
        | some serviceChoice =>
            { frame with
              isConfirmed := true
              serviceChoice := some serviceChoice
              isWrite := serviceChoice = bacnetWriteProperty }
        | none => { frame with isConfirmed := true }
      else { frame with isConfirmed := false }

/-- The type of an APDU is the upper half of its first octet. -/
theorem apduType_eq_zero_iff (octet : UInt8) : (octet >>> 4) &&& 0x0F = 0 ↔ octet < 0x10 := by
  have hoctet := octet.toNat_lt
  have hmask : (0x0F : UInt8).toNat = 2 ^ 4 - 1 := rfl
  rw [← UInt8.toNat_inj, UInt8.toNat_and, toNat_shiftRight_four, hmask,
    Nat.and_two_pow_sub_one_eq_mod, UInt8.lt_iff_toNat_lt]
  simp only [UInt8.toNat_zero, UInt8.reduceToNat]
  omega

theorem bacnetApdu_eq (payload : Bytes) (offset : Nat) (frame : BacnetFrame) :
    bacnetApdu payload offset frame = .ok (reportApdu frame (payload.drop offset)) := by
  unfold bacnetApdu
  by_cases hinside : offset < payload.length
  · rw [if_pos hinside, index_eq_byteAt hinside, ok_bind, drop_eq_byteAt_cons hinside, reportApdu,
      List.getElem?_drop]
    dsimp only
    by_cases htype : byteAt payload offset < 0x10
    · rw [if_pos ((apduType_eq_zero_iff _).mpr htype), if_pos htype]
      by_cases hservice : offset + 3 < payload.length
      · have hget : payload[offset + 1 + 2]? = some (byteAt payload (offset + 3)) := by
          rw [byteAt, List.getD_eq_getElem?_getD, List.getElem?_eq_getElem hservice,
            Option.getD_some]
        rw [if_pos hservice, index_eq_byteAt hservice, ok_bind, hget]
        rfl
      · have hget : payload[offset + 1 + 2]? = none :=
          List.getElem?_eq_none (Nat.le_of_not_lt hservice)
        rw [if_neg hservice, hget]
        rfl
    · rw [if_neg (fun h => htype ((apduType_eq_zero_iff _).mp h)), if_neg htype]
      rfl
  · rw [if_neg hinside, List.drop_of_length_le (Nat.le_of_not_lt hinside)]
    rfl

/-- What the BACnet dissector reports of a payload. -/
def bacnetAnswer (payload : Bytes) : Option BacnetFrame :=
  if bvlcHeaderLen ≤ payload.length ∧ byteAt payload 0 = 0x81 then
    let frame : BacnetFrame :=
      { bvlcType := byteAt payload 0, bvlcFunction := byteAt payload 1,
        bvlcLength := be16At payload 2 }
    if bvlcHeaderLen < payload.length then
      let frame := { frame with npduVersion := some (byteAt payload bvlcHeaderLen) }
      if bvlcHeaderLen + 2 < payload.length then
        some (reportApdu frame (payload.drop (apduStart payload)))
      else some frame
    else some frame
  else none

theorem dissectBacnet_answers : AnswersFrom dissectBacnet bacnetAnswer := by
  intro data payloadOffset
  unfold dissectBacnet bacnetAnswer bvlcHeaderLen
  cases getFrom? data payloadOffset with
  | none => rfl
  | some payload =>
      rw [Option.bind_some]
      dsimp only
      by_cases hshort : payload.length < 4
      · rw [if_pos hshort, if_neg fun h => absurd h.1 (Nat.not_le_of_lt hshort)]
      rw [if_neg hshort, index_eq_byteAt (by omega), ok_bind, index_eq_byteAt (by omega), ok_bind,
        index16_eq_be16At (by omega), ok_bind]
      by_cases htype : byteAt payload 0 = 0x81
      · have hheader : 4 ≤ payload.length ∧ byteAt payload 0 = 0x81 :=
          ⟨Nat.le_of_not_lt hshort, htype⟩
        rw [if_neg (not_not_intro htype), if_pos hheader]
        by_cases hnpdu : 4 < payload.length
        · rw [if_pos hnpdu, if_pos hnpdu, index_eq_byteAt hnpdu, ok_bind]
          by_cases hcontrol : 4 + 2 < payload.length
          · rw [if_pos hcontrol, if_pos hcontrol, bacnetApduOffset_eq hcontrol, ok_bind,
              bacnetApdu_eq]
            rfl
          · rw [if_neg hcontrol, if_neg hcontrol]
            rfl
        · rw [if_neg hnpdu, if_neg hnpdu]
          rfl
      · rw [if_pos htype, if_neg fun h => htype h.2]
        rfl

theorem dissectBacnet_returns (data : Bytes) (payloadOffset : Nat) :
    Returns (dissectBacnet data payloadOffset) :=
  dissectBacnet_answers.returns data payloadOffset

end GeSensor.Dissectors
