/-
  Net/AddrDisplay.lean --- writing IP addresses, after `std::net`'s `Display`.

  An IPv4 address is its octets in decimal.  An IPv6 address is its segments in
  hexadecimal; the first of the longest runs of two or more zero segments is written
  `::`, and an address that maps an IPv4 address ends in that address.

  What is written is read back as the address it was written for.  This needs only that
  the run is one of zeros, not that no run is longer.
-/
import GeSensor.Foundation.Json
import GeSensor.Net.AddrText

set_option autoImplicit false

namespace GeSensor.Net

open GeSensor.Foundation

/-! ## Display -/

def displayV4 (octets : List UInt8) : List Char :=
  ['.'].intercalate (octets.map fun octet => Nat.toDigits 10 octet.toNat)

/-- `segments()`: the octets, two by two. -/
def segmentsOf : List UInt8 → List Nat
  | high :: low :: rest => (high.toNat * 2 ^ 8 + low.toNat) :: segmentsOf rest
  | _ => []

/-- A run of segments. -/
structure Span where
  start : Nat := 0
  len : Nat := 0
  deriving DecidableEq, Repr

/-- The longest run of zeros so far, and the one that goes on. -/
structure ZeroRuns where
  longest : Span := {}
  current : Span := {}
  deriving DecidableEq, Repr

/-- The runs after one more segment. -/
def ZeroRuns.visit (runs : ZeroRuns) (segment i : Nat) : ZeroRuns :=
  if segment = 0 then
    let current : Span :=
      { start := if runs.current.len = 0 then i else runs.current.start
        len := runs.current.len + 1 }
    { longest := if current.len > runs.longest.len then current else runs.longest
      current := current }
  else { runs with current := {} }

def zeroRuns (segments : List Nat) : ZeroRuns :=
  segments.zipIdx.foldl (fun runs (segment, i) => runs.visit segment i) {}

def fmtSubslice (segments : List Nat) : List Char :=
  [':'].intercalate (segments.map (Nat.toDigits 16))

/-- `to_ipv4_mapped()`: the last four octets, behind ten zeros and two octets `0xff`. -/
def toIpv4Mapped (octets : List UInt8) : Option (List UInt8) :=
  if octets.take 12 = List.replicate 10 0 ++ [0xFF, 0xFF] then some (octets.drop 12) else none

def displayV6 (octets : List UInt8) : List Char :=
  match toIpv4Mapped octets with
  | some ipv4 => "::ffff:".toList ++ displayV4 ipv4
  | none =>
      let segments := segmentsOf octets
      let zeroes := (zeroRuns segments).longest
      if zeroes.len > 1 then
        fmtSubslice (segments.take zeroes.start) ++ "::".toList ++
          fmtSubslice (segments.drop (zeroes.start + zeroes.len))
      else fmtSubslice segments

/-- `addr.to_string()`. -/
def IpAddr.display : IpAddr → List Char
  | .v4 octets => displayV4 octets.toList
  | .v6 octets => displayV6 octets.toList

/-! ## Octets -/

/-- What is written item by item is read item by item. -/
theorem mapM_map_eq_some {α β γ : Type} {write : α → β} {read : β → Option γ} {value : α → γ}
    {items : List α} (h : ∀ item ∈ items, read (write item) = some (value item)) :
    (items.map write).mapM read = some (items.map value) := by
  induction items with
  | nil => rfl
  | cons item rest ih =>
      rw [List.forall_mem_cons] at h
      rw [List.map_cons, List.mapM_cons, h.1, ih h.2]
      rfl

theorem parseOctet_toDigits (octet : UInt8) :
    parseOctet (Nat.toDigits 10 octet.toNat) = some octet := by
  obtain ⟨⟨hne, hdigits⟩, hzero⟩ := isInteger_toDigits octet.toNat
  have hlength : (Nat.toDigits 10 octet.toNat).length ≤ 3 :=
    (Nat.length_toDigits_le_iff (by decide) (by decide)).mpr (by have := octet.toNat_lt; omega)
  have hshape : ¬ (Nat.toDigits 10 octet.toNat = [] ∨ 3 < (Nat.toDigits 10 octet.toNat).length ∨
      ((Nat.toDigits 10 octet.toNat).head? = some '0' ∧ Nat.toDigits 10 octet.toNat ≠ ['0'])) := by
    rintro (h | h | ⟨hhead, h⟩)
    · exact hne h
    · omega
    · exact h (hzero hhead)
  rw [parseOctet, if_neg hshape, readDigits_of_isDigit hdigits,
    Nat.ofDigitChars_toDigits (by decide) (by decide), Option.bind_some, if_pos octet.toNat_lt,
    UInt8.ofNat_toNat]

theorem not_mem_toDigits {char : Char} (h : char.isDigit = false) (number : Nat) :
    char ∉ Nat.toDigits 10 number := fun hmem =>
  Bool.false_ne_true (h.symm.trans (Nat.isDigit_of_mem_toDigits (by decide) (by decide) hmem))

theorem octetsOf_toList {count : Nat} (octets : Vector UInt8 count) :
    octetsOf count octets.toList = some octets := by
  rw [octetsOf, dif_pos octets.length_toList]
  congr

theorem parseV4_displayV4 (octets : Vector UInt8 4) :
    parseV4 (displayV4 octets.toList) = some octets := by
  have hdots : ∀ part ∈ octets.toList.map (fun octet => Nat.toDigits 10 octet.toNat),
      '.' ∉ part := by
    intro part hpart
    obtain ⟨octet, -, rfl⟩ := List.mem_map.mp hpart
    exact not_mem_toDigits rfl _
  have hne : octets.toList.map (fun octet => Nat.toDigits 10 octet.toNat) ≠ [] := by
    intro hnil
    have hlength := congrArg List.length hnil
    rw [List.length_map, octets.length_toList] at hlength
    exact absurd hlength (by decide)
  rw [parseV4, displayV4, List.splitOn_intercalate _ hdots hne,
    mapM_map_eq_some fun octet _ => parseOctet_toDigits octet, List.map_id', Option.bind_some,
    octetsOf_toList]

/-- Octets in decimal hold digits and dots only. -/
theorem not_mem_displayV4 {char : Char} (hdot : char ≠ '.') (hdigit : char.isDigit = false)
    (octets : List UInt8) : char ∉ displayV4 octets := by
  intro hmem
  rcases mem_intercalate hmem with hmem | ⟨part, hpart, hmem⟩
  · exact hdot (List.mem_singleton.mp hmem)
  · obtain ⟨octet, -, rfl⟩ := List.mem_map.mp hpart
    exact not_mem_toDigits hdigit _ hmem

/-! ## Segments -/

/-- The octets of a segment, most significant first. -/
def octetsOfSegment (segment : Nat) : List UInt8 :=
  [.ofNat (segment / 2 ^ 8), .ofNat (segment % 2 ^ 8)]

theorem segmentsOf_spec : ∀ octets : List UInt8, octets.length % 2 = 0 →
    (segmentsOf octets).flatMap octetsOfSegment = octets ∧
      (segmentsOf octets).length = octets.length / 2 ∧
      ∀ segment ∈ segmentsOf octets, segment < 2 ^ 16
  | [], _ => ⟨rfl, rfl, fun _ hmem => absurd hmem List.not_mem_nil⟩
  | [_], h => absurd h (by simp)
  | high :: low :: rest, h => by
      obtain ⟨hflat, hlength, hbound⟩ := segmentsOf_spec rest (by
        rw [List.length_cons, List.length_cons] at h
        omega)
      have hhigh := high.toNat_lt
      have hlow := low.toNat_lt
      refine ⟨?_, ?_, ?_⟩
      · have hdiv : (high.toNat * 2 ^ 8 + low.toNat) / 2 ^ 8 = high.toNat := by omega
        have hmod : (high.toNat * 2 ^ 8 + low.toNat) % 2 ^ 8 = low.toNat := by omega
        rw [segmentsOf, List.flatMap_cons, hflat, octetsOfSegment, hdiv, hmod,
          UInt8.ofNat_toNat, UInt8.ofNat_toNat]
        rfl
      · rw [segmentsOf, List.length_cons, hlength, List.length_cons, List.length_cons]
        omega
      · rw [segmentsOf, List.forall_mem_cons]
        exact ⟨by omega, hbound⟩

theorem length_flatMap_octetsOfSegment (segments : List Nat) :
    (segments.flatMap octetsOfSegment).length = 2 * segments.length := by
  induction segments with
  | nil => rfl
  | cons segment rest ih =>
      rw [List.flatMap_cons, List.length_append, ih, List.length_cons, Nat.mul_add, Nat.add_comm]
      rfl

theorem flatMap_replicate_zero (len : Nat) :
    (List.replicate len 0).flatMap octetsOfSegment = List.replicate (2 * len) 0 := by
  induction len with
  | zero => rfl
  | succ len ih =>
      rw [List.replicate_succ, List.flatMap_cons, ih]
      rfl

theorem parseGroup_toDigits {segment : Nat} (h : segment < 2 ^ 16) :
    parseGroup (Nat.toDigits 16 segment) = some (octetsOfSegment segment) := by
  have hlength : (Nat.toDigits 16 segment).length ≤ 4 :=
    (Nat.length_toDigits_le_iff (by decide) (by decide)).mpr h
  have hshape : ¬ (Nat.toDigits 16 segment = [] ∨ 4 < (Nat.toDigits 16 segment).length) :=
    not_or.mpr ⟨Nat.toDigits_ne_nil, by omega⟩
  rw [parseGroup, if_neg hshape, readHexDigits_toDigits, Option.map_some, octetsOfSegment]

theorem not_mem_hexDigits {char : Char} (h : hexValue char = none) (number : Nat) :
    char ∉ Nat.toDigits 16 number := fun hmem => by
  have hsome := hexValue_isSome_of_mem_toDigits hmem
  rw [h] at hsome
  cases hsome

/-- Segments hold hexadecimal digits and colons only. -/
theorem not_mem_fmtSubslice {char : Char} (hcolon : char ≠ ':') (hhex : hexValue char = none)
    (segments : List Nat) : char ∉ fmtSubslice segments := by
  intro hmem
  rcases mem_intercalate hmem with hmem | ⟨part, hpart, hmem⟩
  · exact hcolon (List.mem_singleton.mp hmem)
  · obtain ⟨segment, -, rfl⟩ := List.mem_map.mp hpart
    exact not_mem_hexDigits hhex segment hmem

/-- A text without dots is no IPv4 address. -/
theorem parseV4_of_not_mem {text : List Char} (h : '.' ∉ text) : parseV4 text = none := by
  rw [parseV4, List.splitOn_eq_singleton h, List.mapM_cons]
  cases parseOctet text with
  | none => rfl
  | some octet => rfl

/-- A text that begins with no digit is no IPv4 address. -/
theorem parseV4_cons {char : Char} (hdigit : digitValue char = none) (hdot : char ≠ '.')
    (tail : List Char) : parseV4 (char :: tail) = none := by
  have hhead := head?_splitOn '.' (char :: tail)
  have hkeep : (char != '.') = true := bne_iff_ne.mpr hdot
  rw [List.takeWhile_cons, if_pos hkeep] at hhead
  cases hparts : (char :: tail).splitOn '.' with
  | nil => exact absurd hparts (List.splitOn_ne_nil _ _)
  | cons first rest =>
      rw [hparts, List.head?_cons, Option.some.injEq] at hhead
      have hoctet : parseOctet first = none := by
        rw [hhead, parseOctet, readDigits, hdigit]
        exact ite_self none
      rw [parseV4, hparts, List.mapM_cons, hoctet]
      rfl

theorem fmtSubslice_cons_cons (segment second : Nat) (rest : List Nat) :
    fmtSubslice (segment :: second :: rest) =
      Nat.toDigits 16 segment ++ ':' :: fmtSubslice (second :: rest) := by
  rw [fmtSubslice, List.map_cons, List.map_cons, List.intercalate_cons_cons, List.append_assoc]
  rfl

/-- Segments are written with a digit first. -/
theorem fmtSubslice_cons (segment : Nat) (rest : List Nat) :
    ∃ char tail, fmtSubslice (segment :: rest) = char :: tail ∧ char ≠ ':' := by
  obtain ⟨char, tail, hdigits⟩ := List.exists_cons_of_ne_nil
    (Nat.toDigits_ne_nil (n := segment) (b := 16))
  have hchar : char ≠ ':' := by
    rintro rfl
    have hmem : ':' ∈ Nat.toDigits 16 segment := by rw [hdigits]; exact List.mem_cons_self
    exact not_mem_hexDigits rfl segment hmem
  cases rest with
  | nil =>
      refine ⟨char, tail, ?_, hchar⟩
      rw [fmtSubslice, List.map_cons, List.map_nil, List.intercalate_singleton, hdigits]
  | cons second rest =>
      refine ⟨char, tail ++ ':' :: fmtSubslice (second :: rest), ?_, hchar⟩
      rw [fmtSubslice_cons_cons, hdigits, List.cons_append]

theorem groupTexts_fmtSubslice (segments : List Nat) :
    groupTexts (fmtSubslice segments) = segments.map (Nat.toDigits 16) := by
  cases segments with
  | nil => rfl
  | cons segment rest =>
      have hcolons : ∀ part ∈ (segment :: rest).map (Nat.toDigits 16), ':' ∉ part := by
        intro part hpart
        obtain ⟨number, -, rfl⟩ := List.mem_map.mp hpart
        exact not_mem_hexDigits rfl number
      have hne : fmtSubslice (segment :: rest) ≠ [] := by
        obtain ⟨char, tail, htext, -⟩ := fmtSubslice_cons segment rest
        exact htext ▸ List.cons_ne_nil char tail
      rw [groupTexts, if_neg hne, fmtSubslice,
        List.splitOn_intercalate _ hcolons (by simp)]

theorem parseGroups_map {segments : List Nat} (h : ∀ segment ∈ segments, segment < 2 ^ 16) :
    parseGroups (segments.map (Nat.toDigits 16)) = some (segments.flatMap octetsOfSegment) := by
  induction segments with
  | nil => rfl
  | cons segment rest ih =>
      rw [List.forall_mem_cons] at h
      cases rest with
      | nil =>
          rw [List.map_cons, List.map_nil, parseGroups,
            parseV4_of_not_mem (not_mem_hexDigits rfl segment), Option.map_none, Option.none_or,
            parseGroup_toDigits h.1]
          simp
      | cons second rest =>
          rw [List.map_cons, List.map_cons, parseGroups, parseGroup_toDigits h.1,
            Option.bind_some, ← List.map_cons, ih h.2, Option.map_some, List.flatMap_cons]
          · rfl
          · exact List.cons_ne_nil _ _

/-! ## Runs of zeros -/

/-- The segments of a span are zeros. -/
def Span.Zeros (span : Span) (segments : List Nat) : Prop :=
  ∃ before after, segments = before ++ List.replicate span.len 0 ++ after ∧
    before.length = span.start

theorem Span.Zeros.cut {span : Span} {segments : List Nat} (h : span.Zeros segments) :
    segments = segments.take span.start ++ List.replicate span.len 0 ++
      segments.drop (span.start + span.len) := by
  obtain ⟨before, after, rfl, hstart⟩ := h
  have hrun : span.start + span.len = (before ++ List.replicate span.len 0).length := by
    rw [List.length_append, List.length_replicate, hstart]
  rw [hrun, List.drop_left, ← hstart, List.append_assoc, List.take_left, List.append_assoc]

/-- The longest run is one of zeros, and the one that goes on ends the segments. -/
structure ZeroRuns.Valid (runs : ZeroRuns) (segments : List Nat) : Prop where
  longest : runs.longest.Zeros segments
  current : ∃ before, segments = before ++ List.replicate runs.current.len 0 ∧
    (runs.current.len ≠ 0 → before.length = runs.current.start)

theorem ZeroRuns.Valid.visit {runs : ZeroRuns} {segments : List Nat} (h : runs.Valid segments)
    (segment : Nat) : (runs.visit segment segments.length).Valid (segments ++ [segment]) := by
  obtain ⟨⟨left, right, hlongest, hstart⟩, before, hcurrent, hbefore⟩ := h
  have hkept : runs.longest.Zeros (segments ++ [segment]) :=
    ⟨left, right ++ [segment], by rw [hlongest]; simp, hstart⟩
  rw [ZeroRuns.visit]
  split
  · rename_i hzero
    have hlonger : segments ++ [segment] =
        before ++ List.replicate (runs.current.len + 1) 0 := by
      rw [hzero, List.replicate_succ', ← List.append_assoc, ← hcurrent]
    have hplace : before.length =
        if runs.current.len = 0 then segments.length else runs.current.start := by
      split
      · rename_i hnone
        rw [hcurrent, hnone, List.replicate_zero, List.append_nil]
      · rename_i hsome
        exact hbefore hsome
    refine ⟨?_, before, hlonger, fun _ => hplace⟩
    dsimp only
    split
    · exact ⟨before, [], by rw [hlonger, List.append_nil], hplace⟩
    · exact hkept
  · exact ⟨hkept, segments ++ [segment], by simp, fun hne => absurd rfl hne⟩

theorem zeroRuns_valid (segments : List Nat) : (zeroRuns segments).Valid segments := by
  induction segments using List.reverseRecOn with
  | nil => exact ⟨⟨[], [], rfl, rfl⟩, [], rfl, fun hne => absurd rfl hne⟩
  | append_singleton segments segment ih =>
      have hstep : zeroRuns (segments ++ [segment]) =
          (zeroRuns segments).visit segment segments.length := by
        rw [zeroRuns, List.zipIdx_append, List.foldl_append, ← zeroRuns]
        simp
      rw [hstep]
      exact ih.visit segment

/-! ## The double colon -/

/-- Segments are written without a double colon; the first one is that behind them. -/
theorem dropInfix?_fmtSubslice (segments : List Nat) (rest : List Char) :
    (fmtSubslice segments ++ [':', ':'] ++ rest).dropInfix? [':', ':'] =
      some (fmtSubslice segments, rest) := by
  induction segments with
  | nil => exact dropInfix?_append_self
  | cons segment more ih =>
      have hcolon : ':' ∉ Nat.toDigits 16 segment := not_mem_hexDigits rfl segment
      cases more with
      | nil =>
          rw [fmtSubslice, List.map_cons, List.map_nil, List.intercalate_singleton,
            List.append_assoc, dropInfix?_append_of_not_mem hcolon, dropInfix?_append_self]
          simp
      | cons second more =>
          obtain ⟨char, tail, htext, hchar⟩ := fmtSubslice_cons second more
          have hnext : ¬ [':', ':'] <+:
              ':' :: (fmtSubslice (second :: more) ++ [':', ':'] ++ rest) := by
            rw [htext, List.cons_append, List.cons_append, List.cons_prefix_cons,
              List.cons_prefix_cons]
            exact fun hprefix => hchar hprefix.2.1.symm
          rw [fmtSubslice_cons_cons, List.append_assoc, List.append_assoc, List.cons_append,
            ← List.append_assoc (fmtSubslice _), dropInfix?_append_of_not_mem hcolon,
            dropInfix?_cons hnext, ih]
          rfl

theorem dropInfix?_fmtSubslice_eq_none (segments : List Nat) :
    (fmtSubslice segments).dropInfix? [':', ':'] = none := by
  induction segments with
  | nil => rfl
  | cons segment more ih =>
      have hcolon : ':' ∉ Nat.toDigits 16 segment := not_mem_hexDigits rfl segment
      cases more with
      | nil =>
          rw [fmtSubslice, List.map_cons, List.map_nil, List.intercalate_singleton,
            ← List.append_nil (Nat.toDigits 16 segment), dropInfix?_append_of_not_mem hcolon]
          rfl
      | cons second more =>
          obtain ⟨char, tail, htext, hchar⟩ := fmtSubslice_cons second more
          have hnext : ¬ [':', ':'] <+: ':' :: fmtSubslice (second :: more) := by
            rw [htext, List.cons_prefix_cons, List.cons_prefix_cons]
            exact fun hprefix => hchar hprefix.2.1.symm
          rw [fmtSubslice_cons_cons, dropInfix?_append_of_not_mem hcolon,
            dropInfix?_cons hnext, ih]
          rfl

/-! ## Reading back -/

/-- Segments around a run of zeros. -/
theorem parseV6_of_run (octets : Vector UInt8 16) {before after : List Nat} {len : Nat}
    (hlen : 1 < len)
    (hsegments : segmentsOf octets.toList = before ++ List.replicate len 0 ++ after) :
    parseV6 (fmtSubslice before ++ [':', ':'] ++ fmtSubslice after) = some octets := by
  obtain ⟨hflat, hlength, hbound⟩ := segmentsOf_spec octets.toList (by simp)
  rw [hsegments] at hflat hlength hbound
  have hbefore : ∀ segment ∈ before, segment < 2 ^ 16 := fun segment hmem =>
    hbound segment (by simp [hmem])
  have hafter : ∀ segment ∈ after, segment < 2 ^ 16 := fun segment hmem =>
    hbound segment (by simp [hmem])
  have htotal : before.length + len + after.length = 8 := by
    simpa [Nat.add_assoc] using hlength
  rw [parseV6, dropInfix?_fmtSubslice]
  simp only [groupTexts_fmtSubslice]
  rw [mapM_map_eq_some fun segment hmem => parseGroup_toDigits (hbefore segment hmem),
    parseGroups_map hafter]
  simp only [Option.map_some, Option.bind_some]
  rw [← List.flatMap_def, length_flatMap_octetsOfSegment, length_flatMap_octetsOfSegment,
    if_pos (by omega)]
  have hmiddle : 16 - 2 * before.length - 2 * after.length = 2 * len := by omega
  rw [hmiddle, ← flatMap_replicate_zero, ← List.flatMap_append, ← List.flatMap_append, hflat,
    octetsOf_toList]

theorem parseV6_of_segments (octets : Vector UInt8 16) :
    parseV6 (fmtSubslice (segmentsOf octets.toList)) = some octets := by
  obtain ⟨hflat, -, hbound⟩ := segmentsOf_spec octets.toList (by simp)
  rw [parseV6, dropInfix?_fmtSubslice_eq_none]
  simp only [groupTexts_fmtSubslice]
  rw [parseGroups_map hbound, Option.bind_some, hflat, octetsOf_toList]

theorem parseV6_mapped (octets : Vector UInt8 16) (ipv4 : Vector UInt8 4)
    (h : octets.toList = List.replicate 10 0 ++ [0xFF, 0xFF] ++ ipv4.toList) :
    parseV6 ("::ffff:".toList ++ displayV4 ipv4.toList) = some octets := by
  have hsplit : (("ffff:".toList ++ displayV4 ipv4.toList).splitOn ':') =
      ["ffff".toList, displayV4 ipv4.toList] := by
    have hfirst : ("ffff".toList ++ ':' :: displayV4 ipv4.toList).splitOn ':' =
        "ffff".toList :: (displayV4 ipv4.toList).splitOn ':' :=
      List.splitOn_append_cons_self_of_not_mem (by decide) _
    rw [List.splitOn_eq_singleton (not_mem_displayV4 (by decide) rfl _)] at hfirst
    exact hfirst
  have htext : "::ffff:".toList ++ displayV4 ipv4.toList =
      [':', ':'] ++ ("ffff:".toList ++ displayV4 ipv4.toList) := rfl
  have hgroups : parseGroups ["ffff".toList, displayV4 ipv4.toList] =
      some ([0xFF, 0xFF] ++ ipv4.toList) := by
    have hffff : parseGroup "ffff".toList = some [0xFF, 0xFF] := by decide
    simp only [parseGroups, hffff, parseV4_displayV4, Option.map_some, Option.some_or,
      Option.bind_some]
  have hright : groupTexts ("ffff:".toList ++ displayV4 ipv4.toList) =
      ["ffff".toList, displayV4 ipv4.toList] := by
    rw [groupTexts, if_neg (by simp), hsplit]
  rw [parseV6, htext, dropInfix?_append_self]
  dsimp only
  rw [hright, hgroups]
  have hlength : ([0xFF, 0xFF] ++ ipv4.toList).length = 6 := by simp
  simp only [groupTexts, if_pos, List.mapM_nil, Option.pure_def, Option.map_some,
    Option.bind_some, List.flatten_nil, List.length_nil, hlength]
  rw [if_pos (by decide), List.nil_append, ← List.append_assoc, ← h, octetsOf_toList]

theorem toIpv4Mapped_eq_some {octets : Vector UInt8 16} {ipv4 : List UInt8}
    (h : toIpv4Mapped octets.toList = some ipv4) :
    ∃ mapped : Vector UInt8 4, mapped.toList = ipv4 ∧
      octets.toList = List.replicate 10 0 ++ [0xFF, 0xFF] ++ mapped.toList := by
  rw [toIpv4Mapped] at h
  split at h
  · rename_i hstart
    cases h
    have hlength : (octets.toList.drop 12).length = 4 := by simp
    refine ⟨⟨(octets.toList.drop 12).toArray, by simp⟩, rfl, ?_⟩
    rw [← hstart]
    exact (List.take_append_drop 12 octets.toList).symm
  · cases h

theorem parseV6_displayV6 (octets : Vector UInt8 16) :
    parseV6 (displayV6 octets.toList) = some octets := by
  rw [displayV6]
  cases hmapped : toIpv4Mapped octets.toList with
  | some ipv4 =>
      obtain ⟨mapped, rfl, hoctets⟩ := toIpv4Mapped_eq_some hmapped
      exact parseV6_mapped octets mapped hoctets
  | none =>
      dsimp only
      split
      · rename_i hlen
        exact parseV6_of_run octets hlen (zeroRuns_valid _).longest.cut
      · exact parseV6_of_segments octets

/-- The text of an IPv6 address is no IPv4 address. -/
theorem parseV4_displayV6 (octets : List UInt8) : parseV4 (displayV6 octets) = none := by
  have hplain : ∀ segments, '.' ∉ fmtSubslice segments := not_mem_fmtSubslice (by decide) rfl
  rw [displayV6]
  cases toIpv4Mapped octets with
  | some ipv4 => exact parseV4_cons rfl (by decide) _
  | none =>
      dsimp only
      split
      · refine parseV4_of_not_mem fun hmem => ?_
        rw [List.mem_append, List.mem_append] at hmem
        rcases hmem with (hmem | hmem) | hmem
        · exact hplain _ hmem
        · exact absurd hmem (by decide)
        · exact hplain _ hmem
      · exact parseV4_of_not_mem (hplain _)

/-- What is written for an address is read back as that address. -/
theorem parseIpAddr_display (addr : IpAddr) : parseIpAddr addr.display = some addr := by
  cases addr with
  | v4 octets =>
      rw [IpAddr.display, parseIpAddr, parseV4_displayV4]
      rfl
  | v6 octets =>
      rw [IpAddr.display, parseIpAddr, parseV4_displayV6, parseV6_displayV6]
      rfl

theorem display_injective : Function.Injective IpAddr.display := fun left right h =>
  Option.some.inj ((parseIpAddr_display left).symm.trans (h ▸ parseIpAddr_display right))

/-- A comma ends the text of an address. -/
theorem comma_not_mem_display (addr : IpAddr) : ',' ∉ addr.display := by
  have hv4 : ∀ octets, ',' ∉ displayV4 octets := not_mem_displayV4 (by decide) rfl
  have hplain : ∀ segments, ',' ∉ fmtSubslice segments := not_mem_fmtSubslice (by decide) rfl
  cases addr with
  | v4 octets => exact hv4 octets.toList
  | v6 octets =>
      rw [IpAddr.display, displayV6]
      cases toIpv4Mapped octets.toList with
      | some ipv4 =>
          refine fun hmem => (List.mem_append.mp hmem).elim (fun hstart => ?_) (hv4 ipv4)
          exact absurd hstart (by decide)
      | none =>
          dsimp only
          split
          · intro hmem
            rw [List.mem_append, List.mem_append] at hmem
            rcases hmem with (hmem | hmem) | hmem
            · exact hplain _ hmem
            · exact absurd hmem (by decide)
            · exact hplain _ hmem
          · exact hplain _

example : (IpAddr.v6 #v[0x20, 0x01, 0x0d, 0xb8, 0, 0, 0, 0, 0, 1, 0, 0, 0, 0, 0, 1]).display =
    "2001:db8::1:0:0:1".toList := by
  decide

end GeSensor.Net
