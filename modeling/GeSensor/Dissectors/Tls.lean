/-
  Dissectors/Tls.lean --- the TLS dissector of `src/dissectors/tls.rs`.

  A ClientHello is skipped field by field up to its extensions, which are walked
  in a loop until one holds a server name.  Every field length is checked before
  the field is read, so the dissector never panics.

  The second half says what the dissector returns without walking: where the fields stand
  (`extensionsAt`), which extensions the loop visits (`blockOffsets`), and from which bytes
  the name is sliced (`nameSpan`).
-/
import GeSensor.Foundation.ByteReads
import GeSensor.Foundation.Text

set_option autoImplicit false

namespace GeSensor.Dissectors

open GeSensor.Foundation

/-- Parsed TLS information. -/
structure TlsInfo where
  contentType : UInt8
  version : UInt8 × UInt8
  handshakeType : UInt8
  /-- server name indication -/
  sni : List Char := []
  deriving DecidableEq, Repr

/-- TLS content type for Handshake. -/
def tlsHandshake : UInt8 := 22

/-- TLS handshake type for ClientHello. -/
def tlsClientHello : UInt8 := 1

/-- Extension type for SNI. -/
def extSni : UInt16 := 0

/-- The host name of one extension, if it is an SNI extension that holds one;
`offset` is where its body starts. -/
def extensionSni (payload : Bytes) (extensionsEnd offset : Nat) (extType : UInt16)
    (extLen : Nat) : Checked (Option (List Char)) :=
  if extType = extSni ∧ 5 < extLen ∧ offset + extLen ≤ extensionsEnd then do
    let nameType ← index payload (offset + 2)
    if nameType = 0 then
      let nameLen := (← index16 payload (offset + 3)).toNat
      if offset + 5 + nameLen ≤ extensionsEnd then
        let name ← slice payload (offset + 5) (offset + 5 + nameLen)
        return some ((fromUtf8 name).getD [])
      else return none
    else return none
  else .ok none

/-- The extension loop: the first host name found, or the empty one.  Every turn
moves `offset` on by at least four bytes, so `fuel` turns are enough when the
extensions end within `fuel` bytes (`walkExtensions_fuel`). -/
def walkExtensions (payload : Bytes) (extensionsEnd : Nat) :
    (fuel offset : Nat) → Checked (List Char)
  | 0, _ => .ok []
  | fuel + 1, offset =>
      if offset + 4 ≤ extensionsEnd then do
        let extType ← index16 payload offset
        let extLen := (← index16 payload (offset + 2)).toNat
        match ← extensionSni payload extensionsEnd (offset + 4) extType extLen with
        | some sni => return sni
        | none => walkExtensions payload extensionsEnd fuel (offset + 4 + extLen)
      else .ok []

/-- Skip version, random, session ID, cipher suites and compression methods: the
offset of the extensions length. -/
def skipToExtensions (payload : Bytes) (maxOffset : Nat) : Checked (Option Nat) := do
  let offset := 9 + (2 + 32)
  if maxOffset ≤ offset then return none
  else
    let offset := offset + (1 + (← index payload offset).toNat)
    if maxOffset < offset + 2 then return none
    else
      let offset := offset + (2 + (← index16 payload offset).toNat)
      if maxOffset < offset + 1 then return none
      else
        let offset := offset + (1 + (← index payload offset).toNat)
        if maxOffset < offset + 2 then return none
        else return some offset

/-- Attempt to extract the TLS SNI from a ClientHello in the payload. -/
def dissectTls (data : Bytes) (payloadOffset : Nat) : Checked (Option TlsInfo) :=
  match getFrom? data payloadOffset with
  | none => .ok none
  | some payload =>
      if payload.length < 5 then .ok none
      else do
        let contentType ← index payload 0
        if contentType ≠ tlsHandshake then return none
        else
          let version := (← index payload 1, ← index payload 2)
          let recordLen := (← index16 payload 3).toNat
          if payload.length < 5 + 4 then return none
          else
            let handshakeType ← index payload 5
            let info : TlsInfo :=
              { contentType := contentType, version := version, handshakeType := handshakeType }
            if handshakeType ≠ tlsClientHello then return some info
            else
              let maxOffset := min (5 + recordLen) payload.length
              match ← skipToExtensions payload maxOffset with
              | none => return none
              | some offset =>
                  let extensionsLen := (← index16 payload offset).toNat
                  let offset := offset + 2
                  let extensionsEnd := min (offset + extensionsLen) maxOffset
                  let sni ← walkExtensions payload extensionsEnd payload.length offset
                  return some { info with sni := sni }

/-! ## In front of the extensions -/

section

variable (payload : Bytes)

/-- Where the length of the cipher suites stands, behind the session ID. -/
def suitesAt : Nat := 43 + (1 + (byteAt payload 43).toNat)

/-- Where the length of the compression methods stands. -/
def methodsAt : Nat := suitesAt payload + (2 + (be16At payload (suitesAt payload)).toNat)

/-- Where the length of the extensions block stands. -/
def extensionsAt : Nat := methodsAt payload + (1 + (byteAt payload (methodsAt payload)).toNat)

end

/-- The fields are skipped if they and the length behind them lie below `maxOffset`. -/
theorem skipToExtensions_eq {payload : Bytes} {maxOffset : Nat}
    (hmax : maxOffset ≤ payload.length) :
    skipToExtensions payload maxOffset =
      .ok (if extensionsAt payload + 2 ≤ maxOffset then some (extensionsAt payload) else none) := by
  have hsuites : 43 < suitesAt payload := by
    unfold suitesAt
    omega
  have hmethods : suitesAt payload + 2 ≤ methodsAt payload := by
    unfold methodsAt
    omega
  have hextensions : methodsAt payload + 1 ≤ extensionsAt payload := by
    unfold extensionsAt
    omega
  unfold skipToExtensions
  dsimp only
  by_cases hfirst : maxOffset ≤ 43
  · rw [if_pos hfirst, if_neg (by omega)]
    rfl
  rw [if_neg hfirst, index_eq_byteAt (by omega), ok_bind, ← suitesAt]
  by_cases hsecond : maxOffset < suitesAt payload + 2
  · rw [if_pos hsecond, if_neg (by omega)]
    rfl
  rw [if_neg hsecond, index16_eq_be16At (by omega), ok_bind, ← methodsAt]
  by_cases hthird : maxOffset < methodsAt payload + 1
  · rw [if_pos hthird, if_neg (by omega)]
    rfl
  rw [if_neg hthird, index_eq_byteAt (by omega), ok_bind, ← extensionsAt]
  by_cases hroom : extensionsAt payload + 2 ≤ maxOffset
  · rw [if_neg (Nat.not_lt.mpr hroom), if_pos hroom]
    rfl
  · rw [if_pos (Nat.not_le.mp hroom), if_neg hroom]
    rfl

/-! ## The extensions -/

section

variable (payload : Bytes)

/-- The declared length of the body of the extension at `start`. -/
def extensionLen (start : Nat) : Nat := (be16At payload (start + 2)).toNat

/-- The end of the declared body. -/
def bodyEnd (start : Nat) : Nat := start + 4 + extensionLen payload start

/-- The length field of the name in an SNI extension. -/
def nameLen (start : Nat) : Nat := (be16At payload (start + 4 + 3)).toNat

/-- The range of the name, as its length field declares it. -/
def nameRange (start : Nat) : Nat × Nat :=
  (start + 4 + 5, start + 4 + 5 + nameLen payload start)

/-- The range that the loop slices the name from, if the extension passes its tests. -/
def nameSpan (extensionsEnd start : Nat) : Option (Nat × Nat) :=
  if (be16At payload start = extSni ∧ 5 < extensionLen payload start ∧
      bodyEnd payload start ≤ extensionsEnd) ∧ byteAt payload (start + 4 + 2) = 0 ∧
      start + 4 + 5 + nameLen payload start ≤ extensionsEnd then
    some (nameRange payload start)
  else none

/-- The text of a range, empty if it is no UTF-8. -/
def spanText (span : Nat × Nat) : List Char :=
  (fromUtf8 ((payload.drop span.1).take (span.2 - span.1))).getD []

/-- Where the extensions start that the loop visits. -/
def blockOffsets (extensionsEnd : Nat) : (fuel offset : Nat) → List Nat
  | 0, _ => []
  | fuel + 1, offset =>
      if offset + 4 ≤ extensionsEnd then
        offset :: blockOffsets extensionsEnd fuel (bodyEnd payload offset)
      else []

end

section

variable {payload : Bytes} {extensionsEnd : Nat}

theorem extensionSni_eq (hend : extensionsEnd ≤ payload.length) (start : Nat) :
    extensionSni payload extensionsEnd (start + 4) (be16At payload start)
        (extensionLen payload start) =
      .ok ((nameSpan payload extensionsEnd start).map (spanText payload)) := by
  unfold extensionSni nameSpan bodyEnd
  by_cases hsni : be16At payload start = extSni ∧ 5 < extensionLen payload start ∧
      start + 4 + extensionLen payload start ≤ extensionsEnd
  · have hlong := hsni.2.1
    have hbody := hsni.2.2
    rw [if_pos hsni, index_eq_byteAt (by omega), ok_bind]
    by_cases hname : byteAt payload (start + 4 + 2) = 0
    · rw [if_pos hname, index16_eq_be16At (by omega), ok_bind]
      dsimp only
      by_cases hfits : start + 4 + 5 + nameLen payload start ≤ extensionsEnd
      · have hslice := slice_eq_ok (Nat.le_add_right (start + 4 + 5) (nameLen payload start))
          (Nat.le_trans hfits hend)
        unfold nameLen at hfits hslice ⊢
        rw [if_pos hfits, hslice, if_pos ⟨hsni, hname, hfits⟩]
        rfl
      · unfold nameLen at hfits ⊢
        rw [if_neg hfits, if_neg fun h => hfits h.2.2]
        rfl
    · rw [if_neg hname, if_neg fun h => hname h.2.1]
      rfl
  · rw [if_neg hsni, if_neg fun h => hsni h.1]
    rfl

/-- No extension starts in the last three bytes of the block. -/
theorem blockOffsets_nil {fuel offset : Nat} (hend : extensionsEnd < offset + 4) :
    blockOffsets payload extensionsEnd fuel offset = [] := by
  cases fuel with
  | zero => rfl
  | succ fuel => rw [blockOffsets, if_neg (Nat.not_le.mpr hend)]

/-- The walk visits the extension at `offset`, then the ones behind its declared body. -/
theorem blockOffsets_cons (payload : Bytes) {fuel offset : Nat} (hturn : offset + 4 ≤ extensionsEnd)
    (hfuel : extensionsEnd ≤ offset + fuel) :
    ∃ left, extensionsEnd ≤ bodyEnd payload offset + left ∧
      blockOffsets payload extensionsEnd fuel offset =
        offset :: blockOffsets payload extensionsEnd left (bodyEnd payload offset) := by
  cases fuel with
  | zero => omega
  | succ fuel =>
      refine ⟨fuel, ?_, ?_⟩
      · unfold bodyEnd
        omega
      · rw [blockOffsets, if_pos hturn]

/-- The loop reports the first range that passes. -/
theorem walkExtensions_eq (hend : extensionsEnd ≤ payload.length) (fuel offset : Nat) :
    walkExtensions payload extensionsEnd fuel offset =
      .ok (((blockOffsets payload extensionsEnd fuel offset).findSome?
        (nameSpan payload extensionsEnd)).elim [] (spanText payload)) := by
  induction fuel generalizing offset with
  | zero => rfl
  | succ fuel ih =>
      rw [walkExtensions, blockOffsets]
      by_cases hturn : offset + 4 ≤ extensionsEnd
      · rw [if_pos hturn, if_pos hturn, index16_eq_be16At (by omega), ok_bind,
          index16_eq_be16At (by omega), ok_bind]
        have hsni := extensionSni_eq hend offset
        unfold extensionLen at hsni
        dsimp only
        rw [hsni, ok_bind, List.findSome?_cons]
        cases nameSpan payload extensionsEnd offset with
        | none => exact ih _
        | some span => rfl
      · rw [if_neg hturn, if_neg hturn]
        rfl

/-- More turns than bytes make no difference. -/
theorem blockOffsets_fuel {fuel offset : Nat} (hfuel : extensionsEnd ≤ offset + fuel)
    (more : Nat) :
    blockOffsets payload extensionsEnd (fuel + more) offset =
      blockOffsets payload extensionsEnd fuel offset := by
  induction fuel generalizing offset with
  | zero => exact blockOffsets_nil (by omega)
  | succ fuel ih =>
      have hrest : extensionsEnd ≤ bodyEnd payload offset + fuel := by
        unfold bodyEnd
        omega
      rw [Nat.succ_add, blockOffsets, blockOffsets, ih hrest]

/-- The loop ends before its fuel does. -/
theorem walkExtensions_fuel (hend : extensionsEnd ≤ payload.length) {fuel offset : Nat}
    (hfuel : extensionsEnd ≤ offset + fuel) (more : Nat) :
    walkExtensions payload extensionsEnd (fuel + more) offset =
      walkExtensions payload extensionsEnd fuel offset := by
  rw [walkExtensions_eq hend, walkExtensions_eq hend, blockOffsets_fuel hfuel]

end

/-! ## The answer -/

section

variable (payload : Bytes)

/-- The extensions block: where it starts, and where the walk over it ends. -/
def extensionBlock : Option (Nat × Nat) :=
  let maxOffset := min (5 + (be16At payload 3).toNat) payload.length
  let offset := extensionsAt payload
  if offset + 2 ≤ maxOffset then
    some (offset + 2, min (offset + 2 + (be16At payload offset).toNat) maxOffset)
  else none

/-- The extensions of a block. -/
def blockExtensions (block : Nat × Nat) : List Nat :=
  blockOffsets payload block.2 payload.length block.1

/-- The range that the reported name is sliced from. -/
def sniSpan (block : Nat × Nat) : Option (Nat × Nat) :=
  (blockExtensions payload block).findSome? (nameSpan payload block.2)

/-- The headers of a record and of a ClientHello in it. -/
structure IsClientHello : Prop where
  headers : 9 ≤ payload.length
  content : byteAt payload 0 = tlsHandshake
  hello : byteAt payload 5 = tlsClientHello

/-- What is reported of a payload: of a ClientHello the text of the range, empty without one. -/
def tlsAnswer : Option TlsInfo :=
  if 9 ≤ payload.length ∧ byteAt payload 0 = tlsHandshake then
    if byteAt payload 5 = tlsClientHello then
      (extensionBlock payload).map fun block =>
        { contentType := tlsHandshake
          version := (byteAt payload 1, byteAt payload 2)
          handshakeType := tlsClientHello
          sni := (sniSpan payload block).elim [] (spanText payload) }
    else
      some
        { contentType := tlsHandshake
          version := (byteAt payload 1, byteAt payload 2)
          handshakeType := byteAt payload 5 }
  else none

end

section

variable {data payload : Bytes} {payloadOffset : Nat}

theorem extensionBlock_bounds {block : Nat × Nat} (h : extensionBlock payload = some block) :
    45 < block.1 ∧ block.2 ≤ payload.length := by
  unfold extensionBlock extensionsAt methodsAt suitesAt at h
  dsimp only at h
  split at h
  · cases h
    dsimp only
    omega
  · cases h

theorem dissectTls_answers : AnswersFrom dissectTls tlsAnswer := by
  intro data payloadOffset
  unfold dissectTls tlsAnswer
  cases getFrom? data payloadOffset with
  | none => rfl
  | some payload =>
      rw [Option.bind_some]
      dsimp only
      by_cases hshort : payload.length < 5
      · rw [if_pos hshort, if_neg fun h => absurd h.1 (by omega)]
      rw [if_neg hshort, index_eq_byteAt (by omega), ok_bind]
      by_cases hcontent : byteAt payload 0 = tlsHandshake
      · rw [if_neg (not_not_intro hcontent), index_eq_byteAt (by omega), ok_bind,
          index_eq_byteAt (by omega), ok_bind, index16_eq_be16At (by omega), ok_bind]
        by_cases hlength : payload.length < 5 + 4
        · rw [if_pos hlength, if_neg fun h => absurd h.1 (by omega)]
          rfl
        rw [if_neg hlength, if_pos ⟨by omega, hcontent⟩, index_eq_byteAt (by omega), ok_bind]
        by_cases hhello : byteAt payload 5 = tlsClientHello
        · rw [if_neg (not_not_intro hhello), if_pos hhello,
            skipToExtensions_eq (Nat.min_le_right _ _), ok_bind]
          unfold extensionBlock
          dsimp only
          by_cases hroom :
              extensionsAt payload + 2 ≤ min (5 + (be16At payload 3).toNat) payload.length
          · rw [if_pos hroom, if_pos hroom]
            dsimp only
            rw [index16_eq_be16At (by omega), ok_bind, walkExtensions_eq (by omega), ok_bind,
              hcontent, hhello]
            rfl
          · rw [if_neg hroom, if_neg hroom]
            rfl
        · rw [if_pos hhello, if_neg hhello, hcontent]
          rfl
      · rw [if_pos hcontent, if_neg fun h => hcontent h.2]
        rfl

/-- The dissector never panics. -/
theorem dissectTls_returns (data : Bytes) (payloadOffset : Nat) :
    Returns (dissectTls data payloadOffset) :=
  dissectTls_answers.returns data payloadOffset

theorem IsClientHello.tlsAnswer_eq (h : IsClientHello payload) :
    tlsAnswer payload = (extensionBlock payload).map fun block =>
      { contentType := tlsHandshake
        version := (byteAt payload 1, byteAt payload 2)
        handshakeType := tlsClientHello
        sni := (sniSpan payload block).elim [] (spanText payload) } := by
  rw [tlsAnswer, if_pos ⟨h.headers, h.content⟩, if_pos h.hello]

/-- Only a ClientHello yields a name. -/
theorem isClientHello_of_sni {info : TlsInfo} (h : tlsAnswer payload = some info)
    (hsni : info.sni ≠ []) : IsClientHello payload := by
  unfold tlsAnswer at h
  split at h
  · rename_i hrecord
    split at h
    · rename_i hhello
      exact ⟨hrecord.1, hrecord.2, hhello⟩
    · cases h
      exact absurd rfl hsni
  · cases h

end

/-! ## Bytes that the walk does not read -/

section

variable {payload changed : Bytes} {limit : Nat}

/-- The header walk reads nothing behind the offset that it finds. -/
theorem extensionsAt_congr (hagree : AgreeBelow limit payload changed)
    (hbelow : extensionsAt payload ≤ limit) : extensionsAt changed = extensionsAt payload := by
  have hreads := hbelow
  unfold extensionsAt methodsAt suitesAt at hreads
  have hsuites : suitesAt changed = suitesAt payload := by
    rw [suitesAt, ← hagree.byteAt (by omega), suitesAt]
  have hmethods : methodsAt changed = methodsAt payload := by
    unfold methodsAt
    rw [hsuites, ← hagree.be16At]
    unfold suitesAt
    omega
  unfold extensionsAt
  rw [hmethods, ← hagree.byteAt]
  unfold methodsAt suitesAt
  omega

end

end GeSensor.Dissectors
