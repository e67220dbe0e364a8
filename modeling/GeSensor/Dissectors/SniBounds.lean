/-
  Dissectors/SniBounds.lean --- whether a reported server name comes from the SNI extension.

  The length of the name stands inside the extension, and the sender chooses it.  The walk
  compares the end of the name with the end of the extensions block, not with the end of the
  extension: a name that is declared longer than its extension is read on into the
  extensions that follow.
-/
import GeSensor.Dissectors.Tls

set_option autoImplicit false

namespace GeSensor.Dissectors

open GeSensor.Foundation

/-! ## Where a name comes from -/

section

variable (payload : Bytes) (block : Nat × Nat)

/-- The extension that the name is taken from. -/
def namedAt : Option Nat :=
  (blockExtensions payload block).find? fun start => (nameSpan payload block.2 start).isSome

/-- The bytes of the name lie inside the declared body of the extension at `start`. -/
def NameInside (start : Nat) : Prop :=
  ∃ lo hi, sniSpan payload block = some (lo, hi) ∧ start + 4 ≤ lo ∧ hi ≤ bodyEnd payload start

/-- The payload with `follow` for the extensions behind the one at `start`. -/
def withFollowing (start : Nat) (follow : Bytes) : Bytes :=
  payload.take (bodyEnd payload start) ++ (follow ++ payload.drop block.2)

end

/-- A name that is reported comes from inside an SNI extension of the block, and the bytes of
the extensions behind it make no difference. -/
def SniFromExtension (data : Bytes) (payloadOffset : Nat) : Prop :=
  ∀ info, dissectTls data payloadOffset = .ok (some info) → info.sni ≠ [] →
    ∃ payload block start, getFrom? data payloadOffset = some payload ∧
      extensionBlock payload = some block ∧ start ∈ blockExtensions payload block ∧
      be16At payload start = extSni ∧ NameInside payload block start ∧
      ∀ follow : Bytes, follow.length = block.2 - bodyEnd payload start →
        ∃ changed, changed.sni = info.sni ∧
          dissectTls (data.take payloadOffset ++ withFollowing payload block start follow)
            payloadOffset = .ok (some changed)

/-- In a ClientHello, the name that passes the tests of the walk ends inside its extension,
or its bytes are no text. -/
def NameFits (data : Bytes) (payloadOffset : Nat) : Prop :=
  ∀ payload block start, getFrom? data payloadOffset = some payload → IsClientHello payload →
    extensionBlock payload = some block → namedAt payload block = some start →
      5 + nameLen payload start ≤ extensionLen payload start ∨
        spanText payload (nameRange payload start) = []

/-! ## The extension of the name -/

theorem findSome?_eq_bind_find? {α β : Type} (test : α → Option β) (items : List α) :
    items.findSome? test = (items.find? fun item => (test item).isSome).bind test := by
  induction items with
  | nil => rfl
  | cons item rest ih =>
      rw [List.findSome?_cons, List.find?_cons]
      cases htest : test item with
      | none => exact ih
      | some value => exact htest.symm

section

variable {payload changed : Bytes} {block : Nat × Nat} {extensionsEnd start : Nat}

theorem nameSpan_eq_some {span : Nat × Nat} (h : nameSpan payload extensionsEnd start = some span) :
    span = nameRange payload start ∧
      be16At payload start = extSni ∧ 5 < extensionLen payload start ∧
      bodyEnd payload start ≤ extensionsEnd := by
  unfold nameSpan at h
  by_cases htests : (be16At payload start = extSni ∧ 5 < extensionLen payload start ∧
      bodyEnd payload start ≤ extensionsEnd) ∧ byteAt payload (start + 4 + 2) = 0 ∧
      start + 4 + 5 + nameLen payload start ≤ extensionsEnd
  · rw [if_pos htests] at h
    exact ⟨(Option.some.inj h).symm, htests.1⟩
  · rw [if_neg htests] at h
    cases h

theorem sniSpan_eq :
    sniSpan payload block = (namedAt payload block).map (nameRange payload) := by
  rw [sniSpan, findSome?_eq_bind_find?, namedAt]
  cases hnamed : (blockExtensions payload block).find? fun start =>
      (nameSpan payload block.2 start).isSome with
  | none => rfl
  | some start =>
      have hpasses := List.find?_some hnamed
      obtain ⟨span, hspan⟩ := Option.isSome_iff_exists.mp hpasses
      rw [Option.bind_some, hspan, Option.map_some, (nameSpan_eq_some hspan).1]

theorem namedAt_spec (h : namedAt payload block = some start) :
    start ∈ blockExtensions payload block ∧ be16At payload start = extSni ∧
      5 < extensionLen payload start ∧ bodyEnd payload start ≤ block.2 := by
  have hpasses := List.find?_some h
  obtain ⟨span, hspan⟩ := Option.isSome_iff_exists.mp hpasses
  exact ⟨List.mem_of_find?_eq_some h, (nameSpan_eq_some hspan).2⟩

/-! ## The extensions stand one behind the other -/

theorem le_of_mem_blockOffsets {fuel offset : Nat}
    (h : start ∈ blockOffsets payload extensionsEnd fuel offset) : offset ≤ start := by
  induction fuel generalizing offset with
  | zero => cases h
  | succ fuel ih =>
      rw [blockOffsets] at h
      split at h
      · obtain rfl | hrest := List.mem_cons.mp h
        · exact Nat.le_refl _
        · have hnext := ih hrest
          unfold bodyEnd at hnext
          omega
      · cases h

theorem bodyEnd_le_of_lt {fuel offset left right : Nat}
    (hleft : left ∈ blockOffsets payload extensionsEnd fuel offset)
    (hright : right ∈ blockOffsets payload extensionsEnd fuel offset) (hlt : left < right) :
    bodyEnd payload left ≤ right := by
  induction fuel generalizing offset with
  | zero => cases hleft
  | succ fuel ih =>
      have hstart := le_of_mem_blockOffsets hleft
      rw [blockOffsets] at hleft hright
      split at hleft
      · rename_i hturn
        rw [if_pos hturn] at hright
        obtain rfl | hrightRest := List.mem_cons.mp hright
        · omega
        obtain rfl | hleftRest := List.mem_cons.mp hleft
        · exact le_of_mem_blockOffsets hrightRest
        · exact ih hleftRest hrightRest
      · cases hleft

/-! ## Bytes behind the extension of the name -/

theorem bodyEnd_congr (hagree : AgreeBelow (start + 4) payload changed) :
    extensionLen changed start = extensionLen payload start ∧
      bodyEnd changed start = bodyEnd payload start := by
  have hlen : extensionLen changed start = extensionLen payload start := by
    rw [extensionLen, ← hagree.be16At (by omega), extensionLen]
  exact ⟨hlen, by rw [bodyEnd, hlen, bodyEnd]⟩

theorem nameLen_congr (hagree : AgreeBelow (start + 4 + 5) payload changed) :
    nameLen changed start = nameLen payload start := by
  rw [nameLen, ← hagree.be16At (by omega), nameLen]

/-- The tests of an extension read nothing behind it. -/
theorem nameSpan_congr (hagree : AgreeBelow (bodyEnd payload start) payload changed) :
    nameSpan changed extensionsEnd start = nameSpan payload extensionsEnd start := by
  have hheader : start + 4 ≤ bodyEnd payload start := Nat.le_add_right _ _
  have htype := hagree.be16At (i := start) (by omega)
  obtain ⟨hlen, hend⟩ := bodyEnd_congr (hagree.mono hheader)
  unfold nameSpan
  rw [← htype, hlen, hend]
  by_cases hsni : be16At payload start = extSni ∧ 5 < extensionLen payload start ∧
      bodyEnd payload start ≤ extensionsEnd
  · have hbody : start + 4 + 5 < bodyEnd payload start := by
      rw [bodyEnd]
      omega
    have hname := nameLen_congr (hagree.mono (Nat.le_of_lt hbody))
    rw [← hagree.byteAt (by omega), nameRange, hname, nameRange]
  · rw [if_neg fun h => hsni h.1, if_neg fun h => hsni h.1]

theorem find?_blockOffsets_congr {fuel offset : Nat}
    (h : (blockOffsets payload extensionsEnd fuel offset).find?
      (fun start => (nameSpan payload extensionsEnd start).isSome) = some start)
    (hagree : AgreeBelow (bodyEnd payload start) payload changed) :
    (blockOffsets changed extensionsEnd fuel offset).find?
      (fun start => (nameSpan changed extensionsEnd start).isSome) = some start := by
  induction fuel generalizing offset with
  | zero => cases h
  | succ fuel ih =>
      rw [blockOffsets] at h ⊢
      by_cases hturn : offset + 4 ≤ extensionsEnd
      · rw [if_pos hturn, List.find?_cons] at h ⊢
        cases hspan : (nameSpan payload extensionsEnd offset).isSome with
        | true =>
            rw [hspan] at h
            cases h
            rw [nameSpan_congr hagree, hspan]
        | false =>
            rw [hspan] at h
            have hbefore := le_of_mem_blockOffsets (List.mem_of_find?_eq_some h)
            have hbody : bodyEnd payload offset ≤ bodyEnd payload start :=
              Nat.le_trans hbefore (Nat.le_trans (Nat.le_add_right _ 4) (Nat.le_add_right _ _))
            have hagreeOffset := hagree.mono hbody
            rw [nameSpan_congr hagreeOffset, hspan,
              (bodyEnd_congr (hagreeOffset.mono (Nat.le_add_right _ _))).2]
            exact ih h
      · rw [if_neg hturn] at h
        cases h

theorem extensionBlock_congr (h : extensionBlock payload = some block)
    (hagree : AgreeBelow block.1 payload changed) (hlength : changed.length = payload.length) :
    extensionBlock changed = some block := by
  obtain ⟨hheader, _⟩ := extensionBlock_bounds h
  unfold extensionBlock at h ⊢
  dsimp only at h ⊢
  rw [hlength, ← hagree.be16At (by omega)]
  by_cases hroom : extensionsAt payload + 2 ≤ min (5 + (be16At payload 3).toNat) payload.length
  · rw [if_pos hroom] at h
    cases h
    dsimp only at hagree
    rw [extensionsAt_congr hagree (by omega), if_pos hroom, ← hagree.be16At (by omega)]
  · rw [if_neg hroom] at h
    cases h

theorem namedAt_congr (h : namedAt payload block = some start)
    (hagree : AgreeBelow (bodyEnd payload start) payload changed)
    (hlength : changed.length = payload.length) : namedAt changed block = some start := by
  rw [namedAt, blockExtensions, hlength]
  exact find?_blockOffsets_congr h hagree

/-- A name that ends inside its extension is not changed behind it. -/
theorem nameText_congr (hagree : AgreeBelow (bodyEnd payload start) payload changed)
    (hfit : 5 + nameLen payload start ≤ extensionLen payload start) :
    spanText changed (nameRange changed start) = spanText payload (nameRange payload start) := by
  have hend : bodyEnd payload start = start + 4 + extensionLen payload start := rfl
  have hheader : start + 4 + 5 ≤ bodyEnd payload start := by omega
  have hname := nameLen_congr (hagree.mono hheader)
  unfold spanText nameRange
  rw [hname, Nat.add_sub_cancel_left, hagree.part (by omega)]

theorem withFollowing_agree (block : Nat × Nat) (hbody : bodyEnd payload start ≤ payload.length)
    (follow : Bytes) :
    AgreeBelow (bodyEnd payload start) payload (withFollowing payload block start follow) := by
  rw [AgreeBelow, withFollowing, List.take_left' (List.length_take_of_le hbody)]

theorem length_withFollowing {follow : Bytes} (hbody : bodyEnd payload start ≤ block.2)
    (hblock : block.2 ≤ payload.length)
    (hfollow : follow.length = block.2 - bodyEnd payload start) :
    (withFollowing payload block start follow).length = payload.length := by
  rw [withFollowing, List.length_append, List.length_append, List.length_take, List.length_drop,
    hfollow]
  omega

end

/-! ## When a name comes from inside -/

section

variable {data : Bytes} {payloadOffset : Nat} {payload : Bytes} {block : Nat × Nat} {start : Nat}

/-- What is reported of a ClientHello with a name. -/
theorem dissectTls_named (hpayload : getFrom? data payloadOffset = some payload)
    (hhello : IsClientHello payload) (hblock : extensionBlock payload = some block)
    (hnamed : namedAt payload block = some start) :
    dissectTls data payloadOffset =
      .ok (some
        { contentType := tlsHandshake
          version := (byteAt payload 1, byteAt payload 2)
          handshakeType := tlsClientHello
          sni := spanText payload (nameRange payload start) }) := by
  rw [dissectTls_answers.of_part hpayload, hhello.tlsAnswer_eq, hblock, Option.map_some, sniSpan_eq,
    hnamed]
  rfl

/-- A name is reported of a ClientHello, from an extension that passes the tests. -/
theorem named_of_sni {info : TlsInfo} (h : dissectTls data payloadOffset = .ok (some info))
    (hsni : info.sni ≠ []) :
    ∃ payload block start, getFrom? data payloadOffset = some payload ∧ IsClientHello payload ∧
      extensionBlock payload = some block ∧ namedAt payload block = some start ∧
      info.sni = spanText payload (nameRange payload start) := by
  obtain ⟨payload, hpayload, hanswer⟩ := dissectTls_answers.eq_some_iff.mp h
  have hhello := isClientHello_of_sni hanswer hsni
  rw [hhello.tlsAnswer_eq] at hanswer
  cases hblock : extensionBlock payload with
  | none =>
      rw [hblock] at hanswer
      cases hanswer
  | some block =>
      rw [hblock, Option.map_some, sniSpan_eq] at hanswer
      cases hnamed : namedAt payload block with
      | none =>
          rw [hnamed] at hanswer
          cases hanswer
          exact absurd rfl hsni
      | some start =>
          rw [hnamed] at hanswer
          cases hanswer
          exact ⟨payload, block, start, hpayload, hhello, hblock, hnamed, rfl⟩

/-- A name that ends inside its extension does not depend on what follows it. -/
theorem dissectTls_withFollowing (hpayload : getFrom? data payloadOffset = some payload)
    (hhello : IsClientHello payload) (hblock : extensionBlock payload = some block)
    (hnamed : namedAt payload block = some start)
    (hfit : 5 + nameLen payload start ≤ extensionLen payload start) {follow : Bytes}
    (hfollow : follow.length = block.2 - bodyEnd payload start) :
    ∃ changed,
      changed.sni = spanText payload (nameRange payload start) ∧
        dissectTls (data.take payloadOffset ++ withFollowing payload block start follow)
          payloadOffset = .ok (some changed) := by
  obtain ⟨hmem, _, _, hbody⟩ := namedAt_spec hnamed
  obtain ⟨hheader, hblockEnd⟩ := extensionBlock_bounds hblock
  have hstart := le_of_mem_blockOffsets hmem
  have hend : start + 4 ≤ bodyEnd payload start := Nat.le_add_right _ _
  -- The changed payload agrees with the old one up to the end of the name's extension.
  have hagree := withFollowing_agree block (Nat.le_trans hbody hblockEnd) follow
  have hsize := length_withFollowing hbody hblockEnd hfollow
  have hchanged := getFrom?_take_append hpayload (withFollowing payload block start follow)
  have hblock' := extensionBlock_congr hblock (hagree.mono (by omega)) hsize
  have hhello' : IsClientHello (withFollowing payload block start follow) := by
    refine ⟨hsize.symm ▸ hhello.headers, ?_, ?_⟩
    · rw [← hagree.byteAt (by omega), hhello.content]
    · rw [← hagree.byteAt (by omega), hhello.hello]
  exact ⟨_, nameText_congr hagree hfit,
    dissectTls_named hchanged hhello' hblock' (namedAt_congr hnamed hagree hsize)⟩

theorem sniFromExtension_of_nameFits (hfits : NameFits data payloadOffset) :
    SniFromExtension data payloadOffset := by
  intro info hinfo hsni
  obtain ⟨payload, block, start, hpayload, hhello, hblock, hnamed, htext⟩ :=
    named_of_sni hinfo hsni
  obtain hfit | hempty := hfits payload block start hpayload hhello hblock hnamed
  · obtain ⟨hmem, htype, _, _⟩ := namedAt_spec hnamed
    have hinside : NameInside payload block start := by
      refine ⟨start + 4 + 5, start + 4 + 5 + nameLen payload start, ?_, by omega, ?_⟩
      · rw [sniSpan_eq, hnamed, Option.map_some, nameRange]
      · rw [bodyEnd]
        omega
    refine ⟨payload, block, start, hpayload, hblock, hmem, htype, hinside, ?_⟩
    intro follow hfollow
    rw [htext]
    exact dissectTls_withFollowing hpayload hhello hblock hnamed hfit hfollow
  · exact absurd (htext.trans hempty) hsni

/-- The first byte of a name lies in no other extension of the block. -/
theorem nameFits_of_sniFromExtension (h : SniFromExtension data payloadOffset) :
    NameFits data payloadOffset := by
  intro payload block start hpayload hhello hblock hnamed
  by_cases hempty : spanText payload (nameRange payload start) = []
  · exact Or.inr hempty
  obtain ⟨_, _, other, hpayload', hblock', hmem, _, ⟨lo, hi, hspan, hlo, hhi⟩, _⟩ :=
    h _ (dissectTls_named hpayload hhello hblock hnamed) hempty
  cases hpayload.symm.trans hpayload'
  cases hblock.symm.trans hblock'
  rw [sniSpan_eq, hnamed, Option.map_some, nameRange] at hspan
  cases hspan
  obtain ⟨hmemStart, _, hlong, _⟩ := namedAt_spec hnamed
  have hother : other = start := by
    rcases Nat.lt_trichotomy other start with hbefore | hsame | hbehind
    · have hgap := bodyEnd_le_of_lt hmem hmemStart hbefore
      omega
    · exact hsame
    · have hgap := bodyEnd_le_of_lt hmemStart hmem hbehind
      unfold bodyEnd at hgap
      omega
  rw [hother, bodyEnd] at hhi
  exact Or.inl (by omega)

/-- A reported name comes from inside an SNI extension exactly if it fits there. -/
theorem sniFromExtension_iff (data : Bytes) (payloadOffset : Nat) :
    SniFromExtension data payloadOffset ↔ NameFits data payloadOffset :=
  ⟨nameFits_of_sniFromExtension, sniFromExtension_of_nameFits⟩

/-- A hello whose SNI extension has a body of six bytes and in it a name "a" that is declared
three bytes long; an empty extension of type "bc" follows. -/
def overrunHello : Bytes :=
  [0x16, 0x03, 0x01, 0x00, 0x3D, 0x01, 0x00, 0x00, 0x39, 0x03, 0x03] ++ List.replicate 32 0 ++
    [0x00, 0x00, 0x02, 0x00, 0x2F, 0x01, 0x00, 0x00, 0x0E] ++
    [0x00, 0x00, 0x00, 0x06, 0x00, 0x04, 0x00, 0x00, 0x03, 0x61] ++ [0x62, 0x63, 0x00, 0x00]

/-- The name "abc" is reported, two bytes of which are the type of the extension behind. -/
theorem overrunHello_not_fromExtension : ¬ SniFromExtension overrunHello 0 := by
  intro h
  have hhello : IsClientHello overrunHello := ⟨by decide, by decide, by decide⟩
  have hfits := nameFits_of_sniFromExtension h overrunHello (52, 66) 52 (by decide) hhello
    (by decide) (by decide)
  have hbytes : (overrunHello.drop 61).take (64 - 61) = asBytes "abc" := by decide
  have htext : spanText overrunHello (61, 64) = "abc".toList := by
    unfold spanText
    rw [hbytes, fromUtf8_asBytes, Option.getD_some]
  rcases hfits with hfit | hempty
  · exact absurd hfit (by decide)
  · exact absurd (htext.symm.trans hempty) (by decide)

end

end GeSensor.Dissectors
