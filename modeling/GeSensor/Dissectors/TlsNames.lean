/-
  Dissectors/TlsNames.lean --- the dissector reads the server name of a ClientHello.

  A capture holds the whole record and whatever follows it, or, cut off by a snap length or by
  segmentation, a beginning of it.  Either way its bytes are the bytes of the wire, so that
  one walk over the extensions covers both: the walk ends at the end of the record or of the
  capture, and an extension that is not there as a whole yields no name.
-/
import GeSensor.Dissectors.Tls
import GeSensor.Net.ClientHello

set_option autoImplicit false

namespace GeSensor.Dissectors

open GeSensor.Foundation
open GeSensor.Net

/-! ## Lengths on the wire -/

section

variable {wire rest : Bytes} {offset : Nat}

/-- A length byte and a length word that stand on the wire. -/
theorem toNat_byteAt_of_drop {value : Nat} (h : wire.drop offset = [.ofNat value] ++ rest)
    (hvalue : value < 2 ^ 8) : (byteAt wire offset).toNat = value := by
  rw [byteAt_of_drop h, UInt8.toNat_ofNat_of_lt' hvalue]

theorem toNat_be16At_of_drop {value : Nat} (h : wire.drop offset = be16Bytes (.ofNat value) ++ rest)
    (hvalue : value < 2 ^ 16) : (be16At wire offset).toNat = value := by
  rw [be16At_of_drop h, UInt16.toNat_ofNat_of_lt' hvalue]

end

/-! ## Up to the extensions -/

section

variable (hello : ClientHello) {payload trailing : Bytes}

/-- What stands where a length stands: the length, the field, and the fields behind it. -/
theorem clientHello_drops (trailing : Bytes) :
    (hello.encode ++ trailing).drop 43 = [.ofNat hello.sessionId.length] ++
        (hello.sessionId ++ (hello.encodeSuites ++ trailing)) ∧
      (hello.encode ++ trailing).drop (43 + (1 + hello.sessionId.length)) =
        be16Bytes (.ofNat hello.cipherSuites.length) ++
          (hello.cipherSuites ++ (hello.encodeMethods ++ trailing)) ∧
      (hello.encode ++ trailing).drop
          (43 + (1 + hello.sessionId.length) + (2 + hello.cipherSuites.length)) =
        [.ofNat hello.compressionMethods.length] ++
          (hello.compressionMethods ++ (hello.encodeBlock ++ trailing)) ∧
      (hello.encode ++ trailing).drop hello.blockAt =
        be16Bytes (.ofNat (encodeExtensions hello.extensions).length) ++
          (encodeExtensions hello.extensions ++ trailing) := by
  have hrandom : (hello.encode ++ trailing).drop 11 =
      hello.random.toList ++ (hello.encodeFields ++ trailing) := by
    rw [← List.append_assoc]
    rfl
  have hsession := drop_add_of_drop 32 hrandom (Vector.length_toList ..)
  simp only [ClientHello.encodeFields, List.append_assoc] at hsession
  have hsuites := drop_add_of_drop _ (drop_add_of_drop 1 hsession rfl) rfl
  rw [Nat.add_assoc] at hsuites
  simp only [ClientHello.encodeSuites, List.append_assoc] at hsuites
  have hmethods := drop_add_of_drop _ (drop_add_of_drop 2 hsuites rfl) rfl
  rw [Nat.add_assoc _ 2] at hmethods
  simp only [ClientHello.encodeMethods, List.append_assoc] at hmethods
  have hblock := drop_add_of_drop _ (drop_add_of_drop 1 hmethods rfl) rfl
  rw [Nat.add_assoc _ 1] at hblock
  simp only [ClientHello.encodeBlock, List.append_assoc] at hblock
  exact ⟨hsession, hsuites, hmethods, hblock⟩

/-- The fields in front of the extensions are skipped exactly. -/
theorem extensionsAt_encode (trailing : Bytes) :
    extensionsAt (hello.encode ++ trailing) = hello.blockAt := by
  have hfits := hello.recordFits
  obtain ⟨hsession, hsuites, hmethods, _⟩ := clientHello_drops hello trailing
  have hsuitesAt : suitesAt (hello.encode ++ trailing) = 43 + (1 + hello.sessionId.length) := by
    rw [suitesAt, toNat_byteAt_of_drop hsession hello.sessionIdFits]
  have hmethodsAt : methodsAt (hello.encode ++ trailing) =
      43 + (1 + hello.sessionId.length) + (2 + hello.cipherSuites.length) := by
    rw [methodsAt, hsuitesAt, toNat_be16At_of_drop hsuites (by omega)]
  rw [extensionsAt, hmethodsAt, toNat_byteAt_of_drop hmethods hello.compressionFits,
    ClientHello.blockAt]

/-- The walk over a capture ends at the end of the record or of the capture. -/
theorem extensionBlock_encode
    (hcapture : AgreeBelow payload.length payload (hello.encode ++ trailing))
    (hlength : 9 ≤ payload.length) :
    extensionBlock payload =
      if hello.blockAt + 2 ≤ payload.length then
        some (hello.blockAt + 2, min hello.encode.length payload.length)
      else none := by
  obtain ⟨_, _, _, hblock⟩ := clientHello_drops hello trailing
  have hfits := hello.recordFits
  have hencode := hello.length_encode
  have hblockEnd := hello.length_encode_eq
  have hrecord : (hello.encode ++ trailing).drop 3 = be16Bytes (.ofNat (4 + hello.bodyLength)) ++
      ((hello.encode ++ trailing).drop 5) := rfl
  have hmax : 5 + (be16At payload 3).toNat = hello.encode.length := by
    rw [hcapture.be16At (by omega), toNat_be16At_of_drop hrecord hfits]
    omega
  unfold extensionBlock
  dsimp only
  rw [hmax]
  by_cases hroom : hello.blockAt + 2 ≤ payload.length
  · have hoffset : extensionsAt payload = hello.blockAt := by
      rw [extensionsAt_congr hcapture.symm, extensionsAt_encode]
      rw [extensionsAt_encode]
      omega
    have hblockLen := toNat_be16At_of_drop hblock (by omega)
    rw [hoffset, if_pos (by omega), if_pos hroom, hcapture.be16At (by omega), hblockLen,
      ← hblockEnd, ← Nat.min_assoc, Nat.min_self]
  · have houtside : ¬ extensionsAt payload + 2 ≤ min hello.encode.length payload.length := by
      intro hinside
      have hoffset := extensionsAt_congr hcapture (by omega)
      rw [extensionsAt_encode] at hoffset
      omega
    rw [if_neg houtside, if_neg hroom]

end

/-! ## Over the extensions -/

/-- The text of a server name, empty without one. -/
def serverText (name : Option String) : List Char := name.elim [] String.toList

section

variable {payload wire trailing : Bytes} {extensionsEnd start fuel : Nat}

/-- What the walk reads of an extension whose header is there. -/
theorem extension_reads {extension : TlsExtension} {rest : List TlsExtension}
    (hcapture : AgreeBelow payload.length payload wire)
    (hstart : wire.drop start = encodeExtensions (extension :: rest) ++ trailing)
    (hhead : start + 4 ≤ payload.length) :
    be16At payload start = extension.extType ∧
      extensionLen payload start = extension.body.length ∧
      wire.drop (start + 4) = extension.body ++ (encodeExtensions rest ++ trailing) := by
  have htype : wire.drop start = be16Bytes extension.extType ++
      (be16Bytes (.ofNat extension.body.length) ++ (extension.body ++
        (encodeExtensions rest ++ trailing))) := by
    rw [hstart, encodeExtensions, List.flatMap_cons, TlsExtension.encode]
    simp only [List.append_assoc]
    rfl
  have hlen := drop_add_of_drop 2 htype rfl
  refine ⟨?_, ?_, drop_add_of_drop 2 hlen rfl⟩
  · rw [hcapture.be16At (by omega), be16At_of_drop htype]
  · rw [extensionLen, hcapture.be16At (by omega)]
    exact toNat_be16At_of_drop hlen extension.fits

/-- The range of the name of an SNI extension holds the name. -/
theorem nameSpan_server {extension : TlsExtension} {rest : List TlsExtension} {name : String}
    (hcapture : AgreeBelow payload.length payload wire)
    (hstart : wire.drop start = encodeExtensions (extension :: rest) ++ trailing)
    (htype : extension.extType = 0) (hbody : extension.body = serverNameBody name)
    (hname : 1 ≤ (asBytes name).length) (hend : extensionsEnd ≤ payload.length)
    (hinside : bodyEnd payload start ≤ extensionsEnd) :
    (nameSpan payload extensionsEnd start).map (spanText payload) = some name.toList := by
  have hlength := length_serverNameBody name
  have hfits := extension.fits
  rw [hbody] at hfits
  unfold bodyEnd at hinside
  obtain ⟨hreadType, hreadLen, hdrop⟩ := extension_reads hcapture hstart (by omega)
  rw [hbody] at hreadLen hdrop
  simp only [serverNameBody, List.append_assoc] at hdrop
  have hkind := drop_add_of_drop 2 hdrop rfl
  have hsize := drop_add_of_drop 1 hkind rfl
  have htext := drop_add_of_drop 2 hsize rfl
  have hreadKind : byteAt payload (start + 4 + 2) = 0 := by
    rw [hcapture.byteAt (by omega)]
    exact byteAt_of_drop hkind
  have hreadSize : nameLen payload start = (asBytes name).length := by
    rw [nameLen, hcapture.be16At (by omega)]
    exact toNat_be16At_of_drop hsize (by omega)
  have hslice : (payload.drop (start + 4 + 5)).take (asBytes name).length = asBytes name := by
    rw [hcapture.part (by omega), htext, List.take_left]
  unfold nameSpan bodyEnd
  rw [if_pos ⟨⟨hreadType.trans htype, by omega, by omega⟩, hreadKind, by omega⟩, Option.map_some]
  unfold spanText nameRange
  rw [Nat.add_sub_cancel_left, hreadSize, hslice, fromUtf8_asBytes, Option.getD_some]

/-- The text that the walk reports. -/
def walkText (payload : Bytes) (extensionsEnd fuel start : Nat) : List Char :=
  ((blockOffsets payload extensionsEnd fuel start).findSome? (nameSpan payload extensionsEnd)).elim
    [] (spanText payload)

theorem walkText_nil (hend : extensionsEnd < start + 4) :
    walkText payload extensionsEnd fuel start = [] := by
  rw [walkText, blockOffsets_nil hend]
  rfl

/-- An extension that yields no range is passed over. -/
theorem walkText_next (hturn : start + 4 ≤ extensionsEnd) (hfuel : extensionsEnd ≤ start + fuel)
    (hspan : nameSpan payload extensionsEnd start = none) :
    ∃ left, extensionsEnd ≤ bodyEnd payload start + left ∧
      walkText payload extensionsEnd fuel start =
        walkText payload extensionsEnd left (bodyEnd payload start) := by
  obtain ⟨left, hleft, hoffsets⟩ := blockOffsets_cons payload hturn hfuel
  refine ⟨left, hleft, ?_⟩
  rw [walkText, hoffsets, List.findSome?_cons, hspan]
  rfl

/-- The walk over extensions that name a server reports its name, or, if it ends before they
do, nothing. -/
theorem walkText_encode {extensions : List TlsExtension} {name : Option String}
    (hnames : NamesServer extensions name) (hcapture : AgreeBelow payload.length payload wire)
    (hend : extensionsEnd ≤ payload.length)
    (hstart : wire.drop start = encodeExtensions extensions ++ trailing)
    (hblock : extensionsEnd ≤ start + (encodeExtensions extensions).length)
    (hfuel : extensionsEnd ≤ start + fuel) :
    walkText payload extensionsEnd fuel start = serverText name ∨
      walkText payload extensionsEnd fuel start = [] ∧
        extensionsEnd < start + (encodeExtensions extensions).length := by
  induction hnames generalizing start fuel with
  | nil =>
      rw [encodeExtensions, List.flatMap_nil, List.length_nil] at hblock
      exact Or.inl (walkText_nil (by omega))
  | @other extension rest name htype _ ih =>
      have hsize := length_encodeExtensions_cons extension rest
      by_cases hturn : start + 4 ≤ extensionsEnd
      · obtain ⟨hreadType, hreadLen, hdrop⟩ := extension_reads hcapture hstart (by omega)
        have hspan : nameSpan payload extensionsEnd start = none :=
          if_neg fun h => htype (hreadType.symm.trans h.1.1)
        obtain ⟨left, hleft, hwalk⟩ := walkText_next hturn hfuel hspan
        have hnext : bodyEnd payload start = start + 4 + extension.body.length := by
          rw [bodyEnd, hreadLen]
        rw [hnext] at hleft hwalk
        rw [hwalk, hsize, ← Nat.add_assoc, ← Nat.add_assoc]
        exact ih (drop_add_of_drop _ hdrop rfl) (by omega) hleft
      · exact Or.inr ⟨walkText_nil (by omega), by omega⟩
  | @server extension rest name htype hbody hlength _ =>
      have hsize := length_encodeExtensions_cons extension rest
      by_cases hturn : start + 4 ≤ extensionsEnd
      · obtain ⟨hreadType, hreadLen, _⟩ := extension_reads hcapture hstart (by omega)
        have hnext : bodyEnd payload start = start + 4 + extension.body.length := by
          rw [bodyEnd, hreadLen]
        by_cases hinside : bodyEnd payload start ≤ extensionsEnd
        · have htext := nameSpan_server hcapture hstart htype hbody hlength hend hinside
          obtain ⟨left, _, hoffsets⟩ := blockOffsets_cons payload hturn hfuel
          obtain ⟨span, hspan, hname⟩ := Option.map_eq_some_iff.mp htext
          refine Or.inl ?_
          rw [walkText, hoffsets, List.findSome?_cons, hspan]
          exact hname
        · have hspan : nameSpan payload extensionsEnd start = none :=
            if_neg fun h => hinside h.1.2.2
          obtain ⟨left, _, hwalk⟩ := walkText_next hturn hfuel hspan
          refine Or.inr ⟨?_, by omega⟩
          rw [hwalk]
          exact walkText_nil (by omega)
      · exact Or.inr ⟨walkText_nil (by omega), by omega⟩

end

/-! ## The server name of a ClientHello -/

section

variable {hello : ClientHello} {name : Option String} {payload trailing : Bytes}

/-- What a capture of a record from its first byte on is dissected into. -/
theorem dissectTls_capture (hnames : NamesServer hello.extensions name)
    (hcapture : AgreeBelow payload.length payload (hello.encode ++ trailing)) {data : Bytes}
    {payloadOffset : Nat} (hpayload : getFrom? data payloadOffset = some payload) :
    (dissectTls data payloadOffset = .ok none ∧ payload.length < hello.encode.length) ∨
      ∃ sni, dissectTls data payloadOffset =
          .ok (some
            { contentType := tlsHandshake
              version := hello.recordVersion
              handshakeType := tlsClientHello
              sni := sni }) ∧
        (sni = serverText name ∨ sni = [] ∧ payload.length < hello.encode.length) := by
  have hencode := hello.length_encode
  have hblockEnd := hello.length_encode_eq
  rw [dissectTls_answers.of_part hpayload]
  by_cases hlength : payload.length < 9
  · refine Or.inl ⟨?_, by omega⟩
    rw [tlsAnswer, if_neg fun h => absurd h.1 (by omega)]
  have hmajor : byteAt payload 1 = hello.recordVersion.1 := hcapture.byteAt (by omega)
  have hminor : byteAt payload 2 = hello.recordVersion.2 := hcapture.byteAt (by omega)
  have hhello : IsClientHello payload := by
    refine ⟨by omega, ?_, ?_⟩
    · exact hcapture.byteAt (by omega)
    · exact hcapture.byteAt (by omega)
  rw [hhello.tlsAnswer_eq, extensionBlock_encode hello hcapture (by omega), hmajor, hminor]
  by_cases hroom : hello.blockAt + 2 ≤ payload.length
  · rw [if_pos hroom]
    refine Or.inr ⟨_, rfl, ?_⟩
    obtain ⟨_, _, _, hblock⟩ := clientHello_drops hello trailing
    have hstart := drop_add_of_drop 2 hblock rfl
    have hfuel : min hello.encode.length payload.length ≤
        hello.blockAt + 2 + payload.length := by
      omega
    have hwalk := walkText_encode hnames hcapture (Nat.min_le_right _ _) hstart (by omega) hfuel
    refine hwalk.imp_right fun hempty => ⟨hempty.1, ?_⟩
    have hcut := hempty.2
    omega
  · rw [if_neg hroom]
    exact Or.inl ⟨rfl, by omega⟩

/-- The dissector reports the server name of a ClientHello, whatever follows the record, and
of any beginning of the record either this name, or no name, or nothing. -/
theorem dissectTls_serverName (hnames : NamesServer hello.extensions name)
    (front trailing : Bytes) :
    dissectTls (front ++ (hello.encode ++ trailing)) front.length =
        .ok (some
          { contentType := tlsHandshake
            version := hello.recordVersion
            handshakeType := tlsClientHello
            sni := serverText name }) ∧
      ∀ count : Nat,
        dissectTls (front ++ hello.encode.take count) front.length = .ok none ∨
          ∃ info, dissectTls (front ++ hello.encode.take count) front.length = .ok (some info) ∧
            (info.sni = [] ∨ info.sni = serverText name) := by
  refine ⟨?_, fun count => ?_⟩
  · have hcapture := agreeBelow_of_append (List.append_nil (hello.encode ++ trailing))
    have hlength : hello.encode.length ≤ (hello.encode ++ trailing).length := by
      rw [List.length_append]
      exact Nat.le_add_right _ _
    obtain ⟨_, hcut⟩ | ⟨sni, hinfo, hsni | ⟨_, hcut⟩⟩ :=
      dissectTls_capture hnames hcapture (getFrom?_append front _)
    · omega
    · rw [hinfo, hsni]
    · omega
  · have hwhole : hello.encode.take count ++ hello.encode.drop count = hello.encode ++ [] := by
      rw [List.take_append_drop, List.append_nil]
    have hcapture := agreeBelow_of_append hwhole
    obtain ⟨hnone, _⟩ | ⟨sni, hinfo, hsni⟩ :=
      dissectTls_capture hnames hcapture (getFrom?_append front _)
    · exact Or.inl hnone
    · exact Or.inr ⟨_, hinfo, hsni.symm.imp_left And.left⟩

/-- A hello with one extension of type 23 and the name "a.io". -/
def namedHello : ClientHello where
  recordVersion := (3, 1)
  version := (3, 3)
  random := .replicate 32 0
  sessionId := []
  cipherSuites := [0x00, 0x2F]
  compressionMethods := [0]
  extensions :=
    [{ extType := 23, body := [], fits := by decide },
      { extType := 0, body := serverNameBody "a.io", fits := by decide }]
  sessionIdFits := by decide
  compressionFits := by decide
  recordFits := by decide

theorem namedHello_namesServer : NamesServer namedHello.extensions (some "a.io") :=
  .other (by decide) (.server rfl rfl (by decide) (List.forall_mem_nil _))

theorem dissectTls_serverName_namedHello :
    dissectTls (namedHello.encode ++ [0x17]) 0 =
      .ok (some
        { contentType := tlsHandshake
          version := (3, 1)
          handshakeType := tlsClientHello
          sni := "a.io".toList }) :=
  (dissectTls_serverName namedHello_namesServer [] [0x17]).1

end

end GeSensor.Dissectors
