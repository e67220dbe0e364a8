/-
  Foundation/TextSearch.lean --- searching a text and cutting it at what was found.

  `str::contains`, `str::find` and `str::split` on a pattern all look for its first
  occurrence, which is `List.dropInfix?`.  The rules say how the first occurrence in
  a text is that in one of its parts: a part in which none can begin is skipped, and
  a character that the pattern does not have separates the parts.
-/
import GeSensor.Foundation.Text
import Mathlib.Data.List.Infix

set_option autoImplicit false

namespace GeSensor.Foundation

/-! ## Infixes and separators -/

section

variable {α : Type} {pattern left rest : List α} {separator : α}

theorem prefix_append_separator_iff (hseparator : separator ∉ pattern) :
    pattern <+: left ++ separator :: rest ↔ pattern <+: left := by
  constructor
  · intro h
    induction left generalizing pattern with
    | nil =>
        rcases List.prefix_cons_iff.mp h with rfl | ⟨_, rfl, _⟩
        · exact List.nil_prefix
        · exact absurd List.mem_cons_self hseparator
    | cons char left ih =>
        rw [List.cons_append] at h
        rcases List.prefix_cons_iff.mp h with rfl | ⟨tail, rfl, htail⟩
        · exact List.nil_prefix
        · exact (List.prefix_cons_inj _).mpr
            (ih (fun hmem => hseparator (List.mem_cons_of_mem _ hmem)) htail)
  · exact fun h => h.trans (List.prefix_append _ _)

/-- Two words that end at their first separator. -/
theorem append_separator_prefix_iff {word : List α} (hword : separator ∉ word)
    (hleft : separator ∉ left) :
    word ++ separator :: pattern <+: left ++ separator :: rest ↔
      word = left ∧ pattern <+: rest := by
  induction word generalizing left with
  | nil =>
      cases left with
      | nil => simp [List.cons_prefix_cons]
      | cons char left =>
          have hne : separator ≠ char := fun h => hleft (h ▸ List.mem_cons_self)
          simp [List.cons_prefix_cons, hne]
  | cons char word ih =>
      cases left with
      | nil =>
          have hne : char ≠ separator := fun h => hword (h ▸ List.mem_cons_self)
          simp [List.cons_prefix_cons, hne]
      | cons other left =>
          have := ih (fun h => hword (List.mem_cons_of_mem _ h))
            (fun h => hleft (List.mem_cons_of_mem _ h))
          simp only [List.cons_append, List.cons_prefix_cons, this, List.cons.injEq, and_assoc]

/-- What stands before the first separator and behind it is determined. -/
theorem append_separator_inj {word : List α} (hword : separator ∉ word) (hleft : separator ∉ left)
    (h : word ++ separator :: pattern = left ++ separator :: rest) :
    word = left ∧ pattern = rest := by
  have hprefix : word ++ separator :: pattern <+: left ++ separator :: rest :=
    ⟨[], by rw [List.append_nil, h]⟩
  obtain ⟨rfl, -⟩ := (append_separator_prefix_iff hword hleft).mp hprefix
  exact ⟨rfl, (List.cons.inj (List.append_cancel_left h)).2⟩

/-- A pattern without the separator occurs on one of its sides. -/
theorem infix_append_separator_iff (hne : pattern ≠ []) (hseparator : separator ∉ pattern) :
    pattern <:+: left ++ separator :: rest ↔ pattern <:+: left ∨ pattern <:+: rest := by
  induction left with
  | nil =>
      rw [List.nil_append, List.infix_cons_iff, List.infix_nil]
      refine or_congr_left (iff_of_false (fun h => ?_) hne)
      rcases List.prefix_cons_iff.mp h with rfl | ⟨_, rfl, _⟩
      · exact hne rfl
      · exact hseparator List.mem_cons_self
  | cons char left ih =>
      have hprefix : pattern <+: char :: left ++ separator :: rest ↔ pattern <+: char :: left :=
        prefix_append_separator_iff hseparator
      rw [List.cons_append] at hprefix
      rw [List.cons_append, List.infix_cons_iff, List.infix_cons_iff, hprefix, ih, or_assoc]

/-- A word and its separator are found at the beginning only, when no separator follows. -/
theorem prefix_of_infix_separator {word : List α} (hword : separator ∉ word)
    (hrest : separator ∉ rest)
    (h : word ++ separator :: pattern <:+: word ++ separator :: rest) :
    word ++ separator :: pattern <+: word ++ separator :: rest := by
  obtain ⟨front, back, htext⟩ := h
  have hfront : separator ∉ front := by
    classical
    have hcount := congrArg (List.count separator) htext
    simp only [List.count_append, List.count_cons_self, List.count_eq_zero_of_not_mem hword,
      List.count_eq_zero_of_not_mem hrest] at hcount
    exact List.count_eq_zero.mp (by omega)
  have hsplit : (front ++ word) ++ separator :: (pattern ++ back) = word ++ separator :: rest := by
    simpa using htext
  have hbegin : separator ∉ front ++ word := by simp [hfront, hword]
  obtain ⟨-, hafter⟩ := append_separator_inj hbegin hword hsplit
  exact ⟨back, by rw [← hafter]; simp⟩

end

/-! ## The first occurrence -/

section

variable {α : Type} [DecidableEq α] {pattern left rest before after : List α}

/-- The first occurrence is the one with the shortest text before it. -/
theorem dropInfix?_eq_some {text : List α} :
    text.dropInfix? pattern = some (before, after) ↔ text = before ++ pattern ++ after ∧
      ∀ before' after', text = before' ++ pattern ++ after' → before.length ≤ before'.length := by
  rw [List.dropInfix?_eq_some_iff]
  constructor
  · rintro ⟨⟨found, htext, hfound⟩, hleast⟩
    cases eq_of_beq hfound
    exact ⟨htext, fun before' after' h => hleast before' _ after' h BEq.rfl⟩
  · rintro ⟨htext, hleast⟩
    refine ⟨⟨pattern, htext, BEq.rfl⟩, fun before' found after' h hfound => ?_⟩
    cases eq_of_beq hfound
    exact hleast before' after' h

theorem dropInfix?_append_self : (pattern ++ rest).dropInfix? pattern = some ([], rest) :=
  dropInfix?_eq_some.mpr ⟨rfl, fun _ _ _ => Nat.zero_le _⟩

/-- Where the pattern does not begin, the search goes on. -/
theorem dropInfix?_cons {char : α} (h : ¬ pattern <+: char :: rest) :
    (char :: rest).dropInfix? pattern =
      (rest.dropInfix? pattern).map fun found => (char :: found.1, found.2) := by
  ext ⟨before, after⟩
  simp only [Option.map_eq_some_iff, Prod.exists, Prod.mk.injEq]
  constructor
  · intro hfound
    obtain ⟨htext, hleast⟩ := dropInfix?_eq_some.mp hfound
    cases before with
    | nil => exact absurd ⟨after, htext.symm⟩ h
    | cons first before =>
        obtain ⟨rfl, hrest⟩ := List.cons.inj htext
        refine ⟨before, after, dropInfix?_eq_some.mpr ⟨hrest, fun before' after' h' => ?_⟩, rfl,
          rfl⟩
        exact Nat.le_of_succ_le_succ (hleast (char :: before') after' (congrArg _ h'))
  · rintro ⟨before, after, hfound, rfl, rfl⟩
    obtain ⟨rfl, hleast⟩ := dropInfix?_eq_some.mp hfound
    refine dropInfix?_eq_some.mpr ⟨rfl, fun before' after' h' => ?_⟩
    cases before' with
    | nil => exact absurd ⟨after', h'.symm⟩ h
    | cons first before' => exact Nat.succ_le_succ (hleast before' after' (List.cons.inj h').2)

theorem dropInfix?_nil_eq_none (hne : pattern ≠ []) : [].dropInfix? pattern = none := by
  rw [List.dropInfix?, List.dropInfix?.go, if_neg (mt List.isEmpty_iff.mp hne)]

/-- The pattern occurs exactly if the search finds it. -/
theorem dropInfix?_isSome (hne : pattern ≠ []) {text : List α} :
    (text.dropInfix? pattern).isSome = true ↔ pattern <:+: text := by
  induction text with
  | nil =>
      rw [dropInfix?_nil_eq_none hne, List.infix_nil]
      exact iff_of_false Bool.false_ne_true hne
  | cons char text ih =>
      rw [List.infix_cons_iff]
      by_cases hprefix : pattern <+: char :: text
      · obtain ⟨rest, htext⟩ := hprefix
        rw [← htext, dropInfix?_append_self]
        exact iff_of_true rfl (Or.inl (List.prefix_append _ _))
      · rw [dropInfix?_cons hprefix, Option.isSome_map, ih, or_iff_right hprefix]

/-- A part without the pattern's first character is skipped. -/
theorem dropInfix?_append_of_not_mem {first : α} {tail : List α} (h : first ∉ left) :
    (left ++ rest).dropInfix? (first :: tail) =
      (rest.dropInfix? (first :: tail)).map fun found => (left ++ found.1, found.2) := by
  induction left with
  | nil => simp
  | cons char left ih =>
      rw [List.mem_cons, not_or] at h
      have hprefix : ¬ first :: tail <+: char :: (left ++ rest) :=
        fun hprefix => h.1 (List.cons_prefix_cons.mp hprefix).1
      rw [List.cons_append, dropInfix?_cons hprefix, ih h.2, Option.map_map]
      rfl

/-- A part without the pattern is skipped, with the separator behind it. -/
theorem dropInfix?_append_separator {separator : α} (hne : pattern ≠ [])
    (hseparator : separator ∉ pattern) (h : ¬ pattern <:+: left) :
    (left ++ separator :: rest).dropInfix? pattern =
      (rest.dropInfix? pattern).map fun found => (left ++ separator :: found.1, found.2) := by
  induction left with
  | nil =>
      have hprefix : ¬ pattern <+: separator :: rest := by
        intro hprefix
        rcases List.prefix_cons_iff.mp hprefix with rfl | ⟨_, rfl, _⟩
        · exact hne rfl
        · exact hseparator List.mem_cons_self
      exact dropInfix?_cons hprefix
  | cons char left ih =>
      rw [List.infix_cons_iff, not_or] at h
      have hprefix : ¬ pattern <+: char :: (left ++ separator :: rest) := fun hprefix =>
        h.1 ((prefix_append_separator_iff hseparator).mp hprefix)
      rw [List.cons_append, dropInfix?_cons hprefix, ih h.2, Option.map_map]
      rfl

/-- The first occurrence in a text is the first one in any longer text. -/
theorem dropInfix?_append_of_eq_some (hne : pattern ≠ []) {text : List α}
    (h : text.dropInfix? pattern = some (before, after)) (rest : List α) :
    (text ++ rest).dropInfix? pattern = some (before, after ++ rest) := by
  induction text generalizing before with
  | nil =>
      rw [dropInfix?_nil_eq_none hne] at h
      cases h
  | cons char text ih =>
      by_cases hprefix : pattern <+: char :: text
      · obtain ⟨behind, htext⟩ := hprefix
        rw [← htext, dropInfix?_append_self, Option.some.injEq, Prod.mk.injEq] at h
        rw [← htext, List.append_assoc, dropInfix?_append_self, h.1, h.2]
      · rw [dropInfix?_cons hprefix] at h
        obtain ⟨found, hfound, hresult⟩ := Option.map_eq_some_iff.mp h
        cases hresult
        have hlength : pattern.length ≤ (char :: text).length :=
          Nat.le_succ_of_le ((dropInfix?_isSome hne).mp (hfound ▸ rfl)).length_le
        have hlonger : ¬ pattern <+: char :: (text ++ rest) := fun hlonger => hprefix
          (List.prefix_of_prefix_length_le hlonger (List.prefix_append (char :: text) rest) hlength)
        rw [List.cons_append, dropInfix?_cons hlonger, ih hfound]
        rfl

end

/-! ## The operations of `str` -/

/-- `text.contains(pattern)`. -/
def contains (text pattern : List Char) : Bool := (text.dropInfix? pattern).isSome

/-- `text.find(pattern)`, and the text behind what was found. -/
def findAfter (text pattern : List Char) : Option (List Char) :=
  (text.dropInfix? pattern).map Prod.snd

/-- The text up to the first occurrence of the pattern. -/
def upTo (pattern text : List Char) : List Char :=
  ((text.dropInfix? pattern).map Prod.fst).getD text

/-- `text.split(separator).nth(1)`. -/
def splitSecond (separator text : List Char) : Option (List Char) :=
  (findAfter text separator).map (upTo separator)

/-- `text.split_whitespace()`. -/
def splitWhitespace (text : List Char) : List (List Char) :=
  (text.splitOnP isWhitespace).filter (· ≠ [])

section

variable {text pattern rest : List Char}

theorem findAfter_append_self : findAfter (pattern ++ rest) pattern = some rest := by
  rw [findAfter, dropInfix?_append_self]
  rfl

theorem findAfter_cons {char : Char} (h : ¬ pattern <+: char :: rest) :
    findAfter (char :: rest) pattern = findAfter rest pattern := by
  rw [findAfter, dropInfix?_cons h, Option.map_map]
  rfl

theorem findAfter_append_of_not_mem {first : Char} {tail : List Char} (h : first ∉ text) :
    findAfter (text ++ rest) (first :: tail) = findAfter rest (first :: tail) := by
  rw [findAfter, dropInfix?_append_of_not_mem h, Option.map_map]
  rfl

theorem findAfter_append_separator {separator : Char} (hne : pattern ≠ [])
    (hseparator : separator ∉ pattern) (h : ¬ pattern <:+: text) :
    findAfter (text ++ separator :: rest) pattern = findAfter rest pattern := by
  rw [findAfter, dropInfix?_append_separator hne hseparator h, Option.map_map]
  rfl

theorem findAfter_append_of_eq_some {after : List Char} (hne : pattern ≠ [])
    (h : findAfter text pattern = some after) :
    findAfter (text ++ rest) pattern = some (after ++ rest) := by
  obtain ⟨found, hfound, rfl⟩ := Option.map_eq_some_iff.mp h
  rw [findAfter, dropInfix?_append_of_eq_some hne hfound, Option.map_some]

theorem findAfter_eq_none (hne : pattern ≠ []) :
    findAfter text pattern = none ↔ ¬ pattern <:+: text := by
  rw [findAfter, Option.map_eq_none_iff, ← dropInfix?_isSome hne, Bool.not_eq_true,
    Option.isSome_eq_false_iff, Option.isNone_iff_eq_none]

theorem suffix_of_findAfter {after : List Char} (h : findAfter text pattern = some after) :
    after <:+ text := by
  obtain ⟨⟨before, _⟩, hfound, rfl⟩ := Option.map_eq_some_iff.mp h
  exact ⟨before ++ pattern, (dropInfix?_eq_some.mp hfound).1.symm⟩

theorem upTo_of_not_occurs (hne : pattern ≠ []) (h : ¬ pattern <:+: text) :
    upTo pattern text = text := by
  rw [← findAfter_eq_none hne, findAfter, Option.map_eq_none_iff] at h
  rw [upTo, h]
  rfl

theorem upTo_append_of_occurs (hne : pattern ≠ []) (h : pattern <:+: text) :
    upTo pattern (text ++ rest) = upTo pattern text := by
  obtain ⟨found, hfound⟩ := Option.isSome_iff_exists.mp ((dropInfix?_isSome hne).mpr h)
  rw [upTo, dropInfix?_append_of_eq_some hne hfound, upTo, hfound]
  rfl

theorem upTo_append_separator {separator : Char} (hne : pattern ≠ [])
    (hseparator : separator ∉ pattern) (h : ¬ pattern <:+: text) :
    upTo pattern (text ++ separator :: rest) = text ++ separator :: upTo pattern rest := by
  rw [upTo, dropInfix?_append_separator hne hseparator h, upTo]
  cases rest.dropInfix? pattern <;> rfl

end

theorem contains_iff {text pattern : List Char} (hne : pattern ≠ []) :
    contains text pattern = true ↔ pattern <:+: text := dropInfix?_isSome hne

/-! ### Splitting at a character -/

section

variable {separator : Char} {text rest : List Char}

theorem head?_splitOn (separator : Char) (text : List Char) :
    (text.splitOn separator).head? = some (text.takeWhile (· != separator)) := by
  induction text with
  | nil => rfl
  | cons char text ih =>
      rw [List.splitOn_cons_eq_if_modifyHead, List.takeWhile_cons]
      cases hchar : char == separator with
      | true => simp [bne, hchar]
      | false => simp [bne, hchar, ih]

/-- The second part is behind the first separator. -/
theorem splitOn_append_separator_one (h : separator ∉ text) :
    ((text ++ separator :: rest).splitOn separator)[1]? =
      some (rest.takeWhile (· != separator)) := by
  rw [List.splitOn_append_cons_self_of_not_mem h, ← head?_splitOn, List.head?_eq_getElem?]
  rfl

/-- A text without the separator belongs to the first part. -/
theorem splitOn_append_one (h : separator ∉ text) :
    ((text ++ rest).splitOn separator)[1]? = (rest.splitOn separator)[1]? := by
  by_cases hmem : separator ∈ rest
  · obtain ⟨before, after, rfl, hbefore⟩ := List.eq_append_cons_of_mem hmem
    have htext : separator ∉ text ++ before := by simp [h, hbefore]
    rw [← List.append_assoc, splitOn_append_separator_one htext,
      splitOn_append_separator_one hbefore]
  · have htext : separator ∉ text ++ rest := by simp [h, hmem]
    rw [List.splitOn_eq_singleton htext, List.splitOn_eq_singleton hmem]
    rfl

theorem takeWhile_append_separator (h : separator ∉ text) :
    (text ++ separator :: rest).takeWhile (· != separator) = text := by
  have hhead := head?_splitOn separator (text ++ separator :: rest)
  rw [List.splitOn_append_cons_self_of_not_mem h, List.head?_cons, Option.some.injEq] at hhead
  exact hhead.symm

theorem takeWhile_append_of_not_mem (h : separator ∉ text) :
    (text ++ rest).takeWhile (· != separator) = text ++ rest.takeWhile (· != separator) :=
  List.takeWhile_append_of_pos fun _ hmem => bne_iff_ne.mpr fun heq => h (heq ▸ hmem)

theorem takeWhile_of_not_mem (h : separator ∉ text) :
    text.takeWhile (· != separator) = text := by
  have happend := @takeWhile_append_of_not_mem separator text [] h
  rwa [List.takeWhile_nil, List.append_nil] at happend

end

/-- The first word of a text, and the words behind it. -/
theorem splitWhitespace_append {word : List Char} (hne : word ≠ [])
    (hword : ∀ char ∈ word, isWhitespace char = false) {separator : Char}
    (hseparator : isWhitespace separator = true) (rest : List Char) :
    splitWhitespace (word ++ separator :: rest) = word :: splitWhitespace rest := by
  rw [splitWhitespace, List.splitOnP_append_cons_of_forall_mem hword separator hseparator,
    List.filter_cons_of_pos (by simpa using hne)]
  rfl

theorem splitWhitespace_separator {separator : Char} (hseparator : isWhitespace separator = true)
    (rest : List Char) : splitWhitespace (separator :: rest) = splitWhitespace rest := by
  rw [splitWhitespace, ← List.nil_append (separator :: rest),
    List.splitOnP_append_cons_of_forall_mem (by simp) separator hseparator]
  rfl

theorem splitWhitespace_word {word : List Char} (hne : word ≠ [])
    (hword : ∀ char ∈ word, isWhitespace char = false) : splitWhitespace word = [word] := by
  rw [splitWhitespace, List.splitOnP_eq_singleton hword,
    List.filter_cons_of_pos (by simpa using hne)]
  rfl

/-- The first word is over at the first white space. -/
theorem head?_splitWhitespace_append {word : List Char} (hne : word ≠ [])
    (hword : ∀ char ∈ word, isWhitespace char = false) {separator : Char}
    (hseparator : isWhitespace separator = true) (rest : List Char) :
    (splitWhitespace (word ++ separator :: rest)).head? = (splitWhitespace word).head? := by
  rw [splitWhitespace_append hne hword hseparator, splitWhitespace_word hne hword,
    List.head?_cons, List.head?_cons]

/-! ### Trimming -/

/-- Dropping ends at an item that is not dropped. -/
theorem dropWhile_append_cons {drops : Char → Bool} {last : Char} (hlast : drops last = false)
    (text rest : List Char) :
    (text ++ last :: rest).dropWhile drops = text.dropWhile drops ++ last :: rest := by
  have hkept : (last :: rest).dropWhile drops = last :: rest := by
    rw [List.dropWhile_cons, hlast, if_neg Bool.false_ne_true]
  rw [List.dropWhile_append]
  split
  next hempty => rw [List.isEmpty_iff.mp hempty, hkept, List.nil_append]
  next => rfl

/-- A text that begins with no white space is trimmed behind a character that is none. -/
theorem trim_append_cons {first last : Char} (hfirst : isWhitespace first = false)
    (hlast : isWhitespace last = false) (middle back : List Char) :
    trim (first :: (middle ++ last :: back)) =
      first :: (middle ++ last :: (back.reverse.dropWhile isWhitespace).reverse) := by
  have hleft : (first :: (middle ++ last :: back)).dropWhile isWhitespace =
      first :: (middle ++ last :: back) := by
    rw [List.dropWhile_cons, hfirst, if_neg Bool.false_ne_true]
  have hreverse : (first :: (middle ++ last :: back)).reverse =
      back.reverse ++ last :: (middle.reverse ++ [first]) := by
    simp
  rw [trim, hleft, hreverse, dropWhile_append_cons hlast]
  simp

/-! ### Splitting into a number of parts -/

/-- The first part is over at the first separator. -/
theorem splitn_append {separator : Char} {part : List Char} (h : separator ∉ part) (count : Nat)
    (rest : List Char) :
    splitn (count + 2) separator (part ++ separator :: rest) =
      part :: splitn (count + 1) separator rest := by
  have hpart : ∀ char ∈ part, (char != separator) = true := fun char hmem =>
    bne_iff_ne.mpr fun heq => h (heq ▸ hmem)
  have hrest : (part ++ separator :: rest).dropWhile (· != separator) = separator :: rest := by
    rw [List.dropWhile_append_of_pos hpart, List.dropWhile_cons, bne_self_eq_false, if_neg nofun]
  rw [splitn, List.span_eq_takeWhile_dropWhile, hrest, takeWhile_append_separator h]

theorem splitn_of_not_mem {separator : Char} {text : List Char} (h : separator ∉ text)
    (count : Nat) : splitn (count + 1) separator text = [text] := by
  cases count with
  | zero => rfl
  | succ count =>
      have hrest : text.dropWhile (· != separator) = [] := by
        have hsplit : text.takeWhile (· != separator) ++ text.dropWhile (· != separator) = text :=
          List.takeWhile_append_dropWhile
        rwa [takeWhile_of_not_mem h, List.append_right_eq_self] at hsplit
      rw [splitn, List.span_eq_takeWhile_dropWhile, hrest, takeWhile_of_not_mem h]

/-! ### Joining -/

/-- What a joined text holds comes from the separator or from a part. -/
theorem mem_intercalate {separator : List Char} {parts : List (List Char)} {char : Char}
    (h : char ∈ separator.intercalate parts) :
    char ∈ separator ∨ ∃ part ∈ parts, char ∈ part := by
  induction parts with
  | nil => exact absurd h List.not_mem_nil
  | cons part rest ih =>
      cases rest with
      | nil => exact Or.inr ⟨part, List.mem_cons_self, by rwa [List.intercalate_singleton] at h⟩
      | cons second rest =>
          rw [List.intercalate_cons_cons, List.mem_append, List.mem_append] at h
          rcases h with (h | h) | h
          · exact Or.inr ⟨part, List.mem_cons_self, h⟩
          · exact Or.inl h
          · rcases ih h with h | ⟨other, hother, h⟩
            · exact Or.inl h
            · exact Or.inr ⟨other, List.mem_cons_of_mem _ hother, h⟩

/-! ### Lines -/

theorem lines_ne_nil {text : List Char} (h : text ≠ []) : lines text ≠ [] := by
  induction text with
  | nil => exact absurd rfl h
  | cons char rest ih =>
      rw [lines]
      split
      · exact List.cons_ne_nil _ _
      · split
        · rename_i hreturn
          refine ih ?_
          rintro rfl
          cases hreturn.2
        · split <;> exact List.cons_ne_nil _ _

/-- What follows a line feed is read into lines of its own. -/
theorem lines_append_feed (text rest : List Char) :
    lines (text ++ '\n' :: rest) = lines (text ++ ['\n']) ++ lines rest := by
  induction text with
  | nil => rfl
  | cons char text ih =>
      have hhead : (text ++ '\n' :: rest).head? = (text ++ ['\n']).head? := by
        cases text <;> rfl
      rw [List.cons_append, List.cons_append, lines, lines, ih, hhead]
      split
      · rfl
      · split
        · rfl
        · obtain ⟨line, more, hlines⟩ :=
            List.exists_cons_of_ne_nil (lines_ne_nil (List.append_ne_nil_of_right_ne_nil text
              (List.cons_ne_nil '\n' [])))
          rw [hlines]
          rfl

/-- A line that ends in a carriage return and a line feed. -/
theorem lines_append {line : List Char} (hreturn : '\r' ∉ line) (hfeed : '\n' ∉ line)
    (rest : List Char) : lines (line ++ '\r' :: '\n' :: rest) = line :: lines rest := by
  induction line with
  | nil => simp [lines]
  | cons char line ih =>
      rw [List.mem_cons, not_or] at hreturn hfeed
      rw [List.cons_append, lines, if_neg (Ne.symm hfeed.1), if_neg (fun h => hreturn.1 h.1.symm),
        ih hreturn.2 hfeed.2]

example : splitSecond "if=".toList "GET /?if=a&if=b".toList = some "a&".toList := by
  decide

/-- A line that ends in no carriage return is read up to its line feed. -/
theorem lines_append_newline {line : List Char} (hfeed : '\n' ∉ line)
    (hreturn : line.getLast? ≠ some '\r') (rest : List Char) :
    lines (line ++ '\n' :: rest) = line :: lines rest := by
  induction line with
  | nil => rw [List.nil_append, lines, if_pos rfl]
  | cons char line ih =>
      obtain ⟨hchar, hline⟩ := not_or.mp (List.mem_cons.not.mp hfeed)
      have hnext : ¬(char = '\r' ∧ (line ++ '\n' :: rest).head? = some '\n') := by
        rintro ⟨rfl, hhead⟩
        cases line with
        | nil => exact hreturn rfl
        | cons next line => exact hline (Option.some.inj hhead ▸ List.mem_cons_self)
      have hlast : line.getLast? ≠ some '\r' := by
        cases line with
        | nil => exact Option.some_ne_none _ |>.symm
        | cons next line => rwa [List.getLast?_cons_cons] at hreturn
      rw [List.cons_append, lines, if_neg (Ne.symm hchar), if_neg hnext, ih hline hlast]

/-- The first line begins with what the text begins with, up to a line end. -/
theorem head?_lines_append {word : List Char} (hne : word ≠ []) (hreturn : '\r' ∉ word)
    (hfeed : '\n' ∉ word) (rest : List Char) :
    (lines (word ++ rest)).head? = some (word ++ (lines rest).head?.getD []) := by
  have hcons : ∀ {char : Char} (text : List Char), char ≠ '\r' → char ≠ '\n' →
      (lines (char :: text)).head? = some (char :: (lines text).head?.getD []) := by
    intro char text hreturn hfeed
    rw [lines, if_neg hfeed, if_neg fun h => hreturn h.1]
    cases lines text <;> rfl
  induction word with
  | nil => exact absurd rfl hne
  | cons char word ih =>
      rw [List.mem_cons, not_or] at hreturn hfeed
      rw [List.cons_append, hcons _ (Ne.symm hreturn.1) (Ne.symm hfeed.1)]
      by_cases hword : word = []
      · subst hword
        rfl
      · rw [ih hword hreturn.2 hfeed.2]
        rfl

end GeSensor.Foundation
