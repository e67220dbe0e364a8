/-
  Dissectors/BacnetLayout.lean --- which octets of a BACnet/IP frame the dissector takes for
  its APDU.

  The dissector starts the NPDU right behind the BVLC header, skips the routing fields that
  the control octet announces, and reads what stands there as an APDU.  That is right in
  every original frame that carries one.  A forwarded frame has the address of its
  originator first, which is read as the NPDU header; and a network-layer message is read
  as an APDU, since bit 7 of the control octet is not looked at.
-/
import GeSensor.Dissectors.Ot
import GeSensor.Net.BacnetWire

set_option autoImplicit false

namespace GeSensor.Dissectors

open GeSensor.Foundation GeSensor.Net

/-! ## What is to be reported -/

/-- The report tells what the NPDU carries. -/
def TellsBody (answer : BacnetFrame) : NpduBody → Prop
  | .confirmedRequest request =>
      answer.isConfirmed = true ∧ answer.serviceChoice = some request.serviceChoice ∧
        (answer.isWrite = true ↔ request.serviceChoice = bacnetWriteProperty)
  | .networkMessage _ _ => answer.isConfirmed = false ∧ answer.serviceChoice = none

/-- The dissector reports what the frame carries, wherever the payload starts. -/
def SeesThroughNpdu (frame : BvlcFrame) : Prop :=
  ∀ front : Bytes, ∃ answer,
    dissectBacnet (front ++ frame.encode) front.length = .ok (some answer) ∧
      TellsBody answer frame.body

/-! ## The octets behind an NPDU header -/

/-- The octets stand behind an NPDU header, as the dissector reads one. -/
inductive ApduBehind : Bytes → Bytes → Prop where
  /-- the header that the control octet announces -/
  | header (header : NpduHeader) (apdu : Bytes) : ApduBehind (header.encode ++ apdu) apdu
  /-- a header whose source is announced but does not fit into the frame -/
  | sourceCut {version control hopCount : UInt8} {destination : NpduAddress} {apdu : Bytes} :
      control &&& 0x20 ≠ 0 → control &&& 0x08 ≠ 0 → apdu.length ≤ 2 →
      ApduBehind (version :: control :: (destination.encode ++ hopCount :: apdu)) apdu

/-- An address with at least one octet behind it is skipped. -/
theorem npduAddressEnd_encode {payload rest : Bytes} {offset : Nat} {address : NpduAddress}
    (h : payload.drop offset = address.encode ++ rest) (hrest : rest ≠ []) :
    npduAddressEnd payload true offset = offset + address.encode.length := by
  have hlength := congrArg List.length h
  have hpos : 0 < rest.length := List.length_pos_iff.mpr hrest
  rw [List.length_drop, List.length_append, address.length_encode] at hlength
  have hoctets : payload.drop (offset + 2) =
      .ofNat address.address.length :: (address.address ++ rest) := by
    rw [NpduAddress.encode, List.append_assoc, List.cons_append] at h
    exact drop_add_of_drop 2 h rfl
  rw [npduAddressEnd, if_pos ⟨rfl, by omega⟩, byteAt_of_drop hoctets, address.toNat_octet,
    address.length_encode]

theorem npduAddressEnd_absent (payload : Bytes) (offset : Nat) :
    npduAddressEnd payload false offset = offset :=
  if_neg fun h => Bool.false_ne_true h.1

theorem npduAddressEnd_cut {payload : Bytes} {offset : Nat} (isPresent : Bool)
    (h : ¬ offset + 3 < payload.length) : npduAddressEnd payload isPresent offset = offset :=
  if_neg fun hroom => h hroom.2

/-- An address that is skipped is there. -/
theorem exists_address {payload : Bytes} {offset : Nat} (hroom : offset + 3 < payload.length)
    (hinside : npduAddressEnd payload true offset ≤ payload.length) :
    ∃ address : NpduAddress, payload.drop offset =
      address.encode ++ payload.drop (npduAddressEnd payload true offset) := by
  rw [npduAddressEnd, if_pos ⟨rfl, hroom⟩] at hinside ⊢
  exact NpduAddress.exists_encode hinside

theorem ApduBehind.of_routing {fields apdu : Bytes} (header : NpduHeader)
    (h : fields = header.routing ++ apdu) :
    ApduBehind (header.version :: header.control :: fields) apdu := by
  rw [h]
  exact .header header apdu

section

variable {payload apdu : Bytes}

/-- The routing fields that the control octet announces. -/
theorem apduStart_eq {hasDst hasSrc : Bool}
    (hdst : decide (byteAt payload 5 &&& 0x20 ≠ 0) = hasDst)
    (hsrc : decide (byteAt payload 5 &&& 0x08 ≠ 0) = hasSrc) :
    apduStart payload =
      if hasDst then npduAddressEnd payload hasSrc (npduAddressEnd payload hasDst 6) + 1
      else npduAddressEnd payload hasSrc (npduAddressEnd payload hasDst 6) := by
  subst hdst hsrc
  rfl

/-- The control octet and what stands behind it. -/
theorem control_of_drop {version control : UInt8} {rest : Bytes}
    (h : payload.drop 4 = version :: control :: rest) :
    byteAt payload 5 = control ∧ payload.drop 6 = rest :=
  ⟨byteAt_of_drop (drop_succ_of_drop h), drop_succ_of_drop (drop_succ_of_drop h)⟩

/-- The dissector finds what stands behind the header of an NPDU. -/
theorem drop_apduStart_header (header : NpduHeader)
    (h : payload.drop 4 = header.encode ++ apdu) (hapdu : apdu ≠ []) :
    payload.drop (apduStart payload) = apdu := by
  obtain ⟨hcontrol, hrouting⟩ := control_of_drop h
  have hdst := header.announcesDestination
  have hsrc := header.announcesSource
  rw [← hcontrol] at hdst hsrc
  rw [apduStart_eq hdst hsrc]
  change payload.drop 6 = header.routing ++ apdu at hrouting
  rw [NpduHeader.routing] at hrouting
  generalize header.destination = destination? at hrouting ⊢
  generalize header.source = source? at hrouting ⊢
  rcases destination? with _ | ⟨destination, hopCount⟩ <;> rcases source? with _ | source <;>
    simp only [Option.isSome_none, Option.isSome_some]
  · rw [npduAddressEnd_absent, npduAddressEnd_absent]
    exact hrouting
  · have hsource : payload.drop 6 = source.encode ++ apdu := by simpa using hrouting
    rw [npduAddressEnd_absent, npduAddressEnd_encode hsource hapdu]
    exact drop_add_of_drop _ hsource rfl
  · have hdestination : payload.drop 6 = destination.encode ++ (hopCount :: apdu) := by
      simpa using hrouting
    rw [npduAddressEnd_encode hdestination (List.cons_ne_nil _ _), npduAddressEnd_absent,
      if_pos trivial]
    exact drop_succ_of_drop (drop_add_of_drop _ hdestination rfl)
  · have hdestination : payload.drop 6 =
        destination.encode ++ (source.encode ++ (hopCount :: apdu)) := by simpa using hrouting
    have hsource := drop_add_of_drop _ hdestination rfl
    rw [npduAddressEnd_encode hdestination (by simp),
      npduAddressEnd_encode hsource (List.cons_ne_nil _ _), if_pos trivial]
    exact drop_succ_of_drop (drop_add_of_drop _ hsource rfl)

/-- The dissector finds what stands behind an NPDU header, also behind one without room for
its source. -/
theorem drop_apduStart_of_apduBehind (h : ApduBehind (payload.drop 4) apdu) (hapdu : apdu ≠ []) :
    payload.drop (apduStart payload) = apdu := by
  generalize hoctets : payload.drop 4 = octets at h
  cases h with
  | header header _ => exact drop_apduStart_header header hoctets hapdu
  | @sourceCut version control hopCount destination _ hdst hsrc hshort =>
      obtain ⟨hcontrol, hdestination⟩ := control_of_drop hoctets
      rw [← hcontrol] at hdst hsrc
      have hhop := drop_add_of_drop _ hdestination rfl
      have hlength := congrArg List.length hhop
      rw [List.length_drop, List.length_cons] at hlength
      rw [apduStart_eq (decide_eq_true hdst) (decide_eq_true hsrc),
        npduAddressEnd_encode hdestination (List.cons_ne_nil _ _),
        npduAddressEnd_cut _ (by omega), if_pos rfl]
      exact drop_succ_of_drop hhop

/-- What the dissector takes for the APDU stands behind an NPDU header. -/
theorem apduBehind_drop_apduStart (hlength : 10 ≤ payload.length)
    (hapdu : payload.drop (apduStart payload) ≠ []) :
    ApduBehind (payload.drop 4) (payload.drop (apduStart payload)) := by
  have hinside : apduStart payload < payload.length := by
    rw [ne_eq, List.drop_eq_nil_iff] at hapdu
    omega
  have hoctets : payload.drop 4 = byteAt payload 4 :: byteAt payload 5 :: payload.drop 6 := by
    rw [drop_eq_byteAt_cons (by omega), drop_eq_byteAt_cons (by omega)]
  have hroom : 6 + 3 < payload.length := hlength
  rw [hoctets]
  cases hdst : decide (byteAt payload 5 &&& 0x20 ≠ 0) <;>
    cases hsrc : decide (byteAt payload 5 &&& 0x08 ≠ 0) <;>
    rw [apduStart_eq hdst hsrc] at hinside ⊢
  · -- No routing fields.
    rw [npduAddressEnd_absent, npduAddressEnd_absent]
    exact .header ⟨_, _, none, none, hdst, hsrc⟩ _
  · -- A source.
    rw [if_neg Bool.false_ne_true, npduAddressEnd_absent] at hinside ⊢
    obtain ⟨source, hsource⟩ := exists_address hroom (Nat.le_of_lt hinside)
    exact .of_routing ⟨_, _, none, some source, hdst, hsrc⟩ (by simp [NpduHeader.routing, hsource])
  · -- A destination and the hop count.
    rw [if_pos rfl, npduAddressEnd_absent] at hinside ⊢
    obtain ⟨destination, hdestination⟩ := exists_address hroom (by omega)
    rw [drop_eq_byteAt_cons (Nat.lt_of_succ_lt hinside)] at hdestination
    exact .of_routing ⟨_, _, some (destination, byteAt payload (npduAddressEnd payload true 6)),
      none, hdst, hsrc⟩ (by simp [NpduHeader.routing, hdestination])
  · -- Both, if there is room for the source.
    rw [if_pos rfl] at hinside ⊢
    by_cases hfits : npduAddressEnd payload true 6 + 3 < payload.length
    · obtain ⟨destination, hdestination⟩ := exists_address hroom (by omega)
      obtain ⟨source, hsource⟩ := exists_address hfits (by omega)
      rw [drop_eq_byteAt_cons (Nat.lt_of_succ_lt hinside)] at hsource
      exact .of_routing ⟨_, _, some (destination,
          byteAt payload (npduAddressEnd payload true (npduAddressEnd payload true 6))),
        some source, hdst, hsrc⟩ (by simp [NpduHeader.routing, hdestination, hsource])
    · rw [npduAddressEnd_cut _ hfits] at hinside ⊢
      obtain ⟨destination, hdestination⟩ := exists_address hroom (by omega)
      rw [drop_eq_byteAt_cons (Nat.lt_of_succ_lt hinside)] at hdestination
      rw [hdestination]
      refine .sourceCut (of_decide_eq_true hdst) (of_decide_eq_true hsrc) ?_
      rw [List.length_drop]
      omega

theorem apduBehind_iff (hlength : 10 ≤ payload.length) (hapdu : apdu ≠ []) :
    ApduBehind (payload.drop 4) apdu ↔ payload.drop (apduStart payload) = apdu := by
  constructor
  · exact fun h => drop_apduStart_of_apduBehind h hapdu
  · rintro rfl
    exact apduBehind_drop_apduStart hlength hapdu

end

/-! ## Original and forwarded frames -/

section

variable {base : BacnetFrame} {apdu : Bytes}

/-- A request is reported exactly from octets like its own. -/
theorem tellsBody_confirmedRequest_iff (hconfirmed : base.isConfirmed = false)
    (hservice : base.serviceChoice = none) (request : ConfirmedRequest) :
    TellsBody (reportApdu base apdu) (.confirmedRequest request) ↔
      ∃ typeOctet second third rest, typeOctet < 0x10 ∧
        apdu = typeOctet :: second :: third :: request.serviceChoice :: rest := by
  constructor
  · rintro ⟨htrue, hchoice, -⟩
    rcases apdu with _ | ⟨typeOctet, rest⟩
    · cases hconfirmed.symm.trans htrue
    by_cases htype : typeOctet < 0x10
    · rw [reportApdu, if_pos htype] at hchoice
      -- Without a fourth octet no service choice is reported.
      rcases rest with _ | ⟨second, _ | ⟨third, _ | ⟨fourth, rest⟩⟩⟩
      · cases hservice.symm.trans hchoice
      · cases hservice.symm.trans hchoice
      · cases hservice.symm.trans hchoice
      · cases hchoice
        exact ⟨typeOctet, second, third, rest, htype, rfl⟩
    · rw [reportApdu, if_neg htype] at htrue
      cases htrue
  · rintro ⟨typeOctet, second, third, rest, htype, rfl⟩
    rw [reportApdu, if_pos htype]
    exact ⟨rfl, rfl, decide_eq_true_iff⟩

/-- A network-layer message is told from an APDU by the upper half of its first octet. -/
theorem tellsBody_networkMessage_iff (hconfirmed : base.isConfirmed = false)
    (hservice : base.serviceChoice = none) (messageType : UInt8) (further : Bytes) :
    TellsBody (reportApdu base apdu) (.networkMessage messageType further) ↔
      ∀ typeOctet rest, apdu = typeOctet :: rest → ¬ typeOctet < 0x10 := by
  rcases apdu with _ | ⟨typeOctet, rest⟩
  · exact iff_of_true ⟨hconfirmed, hservice⟩ fun _ _ h => absurd h.symm (List.cons_ne_nil _ _)
  by_cases htype : typeOctet < 0x10
  · refine iff_of_false (fun h => ?_) fun h => h typeOctet rest rfl htype
    have hfalse := h.1
    rw [reportApdu, if_pos htype] at hfalse
    split at hfalse <;> cases hfalse
  · rw [reportApdu, if_neg htype]
    refine iff_of_true ⟨rfl, hservice⟩ fun _ _ h => ?_
    cases h
    exact htype

end

/-- The frame is read as it is meant.  An original frame is, unless it carries a
network-layer message whose type is below 16; a forwarded frame is where the address of its
originator and what follows it happen to read as an NPDU of the same kind. -/
def ReadAsMeant (frame : BvlcFrame) : Prop :=
  match frame.function, frame.body with
  | .forwarded _, .confirmedRequest request =>
      ∃ typeOctet second third rest, typeOctet < 0x10 ∧
        ApduBehind frame.octets (typeOctet :: second :: third :: request.serviceChoice :: rest)
  | .forwarded _, .networkMessage _ _ =>
      ∀ typeOctet rest, ApduBehind frame.octets (typeOctet :: rest) → ¬ typeOctet < 0x10
  | _, .confirmedRequest _ => True
  | _, .networkMessage messageType _ => ¬ messageType < 0x10

/-- The report on a frame. -/
def unreadFrame (frame : BvlcFrame) : BacnetFrame :=
  { bvlcType := 0x81, bvlcFunction := frame.function.octet, bvlcLength := frame.length,
    npduVersion := some (byteAt frame.encode 4) }

theorem bacnetAnswer_encode (frame : BvlcFrame) :
    bacnetAnswer frame.encode =
      some (reportApdu (unreadFrame frame) (frame.encode.drop (apduStart frame.encode))) := by
  have hlength : 4 + 2 < frame.encode.length := by
    have hbody := List.length_pos_iff.mpr frame.body.encode_ne_nil
    rw [BvlcFrame.encode, BvlcFrame.octets, NpduHeader.encode]
    simp only [be16Bytes, List.length_append, List.length_cons]
    omega
  have hword : be16At frame.encode 2 = frame.length := be16_be16Bytes frame.length
  unfold bacnetAnswer bvlcHeaderLen
  rw [if_pos ⟨by omega, rfl⟩, if_pos (by omega), if_pos hlength, hword]
  rfl

/-- What is reported depends on the octets at the start of the APDU only. -/
theorem seesThroughNpdu_iff (frame : BvlcFrame) :
    SeesThroughNpdu frame ↔
      TellsBody (reportApdu (unreadFrame frame) (frame.encode.drop (apduStart frame.encode)))
        frame.body := by
  have hread : ∀ front : Bytes, dissectBacnet (front ++ frame.encode) front.length =
      .ok (some (reportApdu (unreadFrame frame)
        (frame.encode.drop (apduStart frame.encode)))) := by
    intro front
    rw [dissectBacnet_answers.append, bacnetAnswer_encode]
  constructor
  · intro h
    obtain ⟨answer, hanswer, htells⟩ := h []
    rw [hread] at hanswer
    cases hanswer
    exact htells
  · exact fun htells front => ⟨_, hread front, htells⟩

section

variable (frame : BvlcFrame)

/-- In an original frame the dissector finds the APDU. -/
theorem tellsBody_original_iff (h : frame.function.origin = []) :
    TellsBody (reportApdu (unreadFrame frame) (frame.encode.drop (apduStart frame.encode)))
        frame.body ↔
      match frame.body with
      | .confirmedRequest _ => True
      | .networkMessage messageType _ => ¬ messageType < 0x10 := by
  have hoctets : frame.encode.drop 4 = frame.header.encode ++ frame.body.encode := by
    change frame.octets = _
    rw [BvlcFrame.octets, h, List.nil_append]
  rw [drop_apduStart_header frame.header hoctets frame.body.encode_ne_nil]
  cases frame.body with
  | confirmedRequest request =>
      rw [tellsBody_confirmedRequest_iff rfl rfl, iff_true]
      exact ⟨_, _, _, _, UInt8.lt_trans request.unsegmented (by decide), rfl⟩
  | networkMessage messageType further =>
      rw [tellsBody_networkMessage_iff rfl rfl]
      exact ⟨fun h => h _ _ rfl, fun h typeOctet rest heq => (List.cons.inj heq).1 ▸ h⟩

/-- In a forwarded frame the dissector takes the address of the originator for the start of
the NPDU header. -/
theorem tellsBody_forwarded_iff (h : frame.function.origin.length = 6) :
    TellsBody (reportApdu (unreadFrame frame) (frame.encode.drop (apduStart frame.encode)))
        frame.body ↔
      match frame.body with
      | .confirmedRequest request =>
          ∃ typeOctet second third rest, typeOctet < 0x10 ∧
            ApduBehind frame.octets (typeOctet :: second :: third :: request.serviceChoice :: rest)
      | .networkMessage _ _ =>
          ∀ typeOctet rest, ApduBehind frame.octets (typeOctet :: rest) → ¬ typeOctet < 0x10 := by
  have hlength : 10 ≤ frame.encode.length := by
    rw [BvlcFrame.encode, BvlcFrame.octets, List.length_append, List.length_append,
      List.length_append, h]
    simp only [be16Bytes, List.length_cons, List.length_nil]
    omega
  have hbehind : ∀ {typeOctet : UInt8} {rest : Bytes}, ApduBehind frame.octets (typeOctet :: rest) ↔
      frame.encode.drop (apduStart frame.encode) = typeOctet :: rest :=
    apduBehind_iff hlength (List.cons_ne_nil _ _)
  simp only [hbehind]
  cases frame.body with
  | confirmedRequest request => exact tellsBody_confirmedRequest_iff rfl rfl request
  | networkMessage messageType further =>
      exact tellsBody_networkMessage_iff rfl rfl messageType further

end

/-- The exact condition: a frame is reported as it is meant exactly when it is read so. -/
theorem sees_through_npdu_iff (frame : BvlcFrame) :
    SeesThroughNpdu frame ↔ ReadAsMeant frame := by
  rw [seesThroughNpdu_iff, ReadAsMeant]
  cases hfunction : frame.function with
  | originalUnicast =>
      rw [tellsBody_original_iff frame (by rw [hfunction]; rfl)]
      cases frame.body <;> rfl
  | originalBroadcast =>
      rw [tellsBody_original_iff frame (by rw [hfunction]; rfl)]
      cases frame.body <;> rfl
  | forwarded origin =>
      rw [tellsBody_forwarded_iff frame (by rw [hfunction]; exact origin.length_toList)]
      cases frame.body <;> rfl

/-- A WriteProperty request forwarded for 192.168.1.2, port 47808. -/
def forwardedWrite : BvlcFrame where
  function := .forwarded #v[0xC0, 0xA8, 0x01, 0x02, 0xBA, 0xC0]
  length := 16
  header := ⟨0x01, 0x04, none, none, rfl, rfl⟩
  body := .confirmedRequest
    { typeOctet := 0x00, unsegmented := by decide, maxResponse := 0x05, invokeId := 0x01
      serviceChoice := bacnetWriteProperty, parameters := [] }
  marksMessage := rfl

/-- The broadcast message that asks for the routers to all networks. -/
def whoIsRouter : BvlcFrame where
  function := .originalBroadcast
  length := 7
  header := ⟨0x01, 0x80, none, none, rfl, rfl⟩
  body := .networkMessage 0x00 []
  marksMessage := rfl

/-- The request is not seen, and the message is taken for a request. -/
theorem forwardedWrite_not_seen :
    ¬ SeesThroughNpdu forwardedWrite ∧ ¬ SeesThroughNpdu whoIsRouter := by
  constructor
  · intro h
    exact absurd ((seesThroughNpdu_iff forwardedWrite).mp h).1 (by decide)
  · intro h
    exact absurd ((seesThroughNpdu_iff whoIsRouter).mp h).1 (by decide)

end GeSensor.Dissectors
