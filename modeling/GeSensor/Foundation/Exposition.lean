/-
  Foundation/Exposition.lean --- the text in which Prometheus metrics are exposed.

  The text has a line for each sample: the name of its metric, its labels in braces with
  their values quoted, and behind a space the value.  Lines that begin with a number sign
  are comments.  A label value may be any text, spaces and braces included; only a line
  feed, a quote and a backslash are escaped.

  A reader that looks for lines beginning with a name and takes the last word of each finds
  the values of the samples whose name begins so, whatever the labels are.  Values are
  whole numbers here.
-/
import GeSensor.Foundation.TextSearch
import Mathlib.Algebra.Ring.Int.Defs

set_option autoImplicit false

namespace GeSensor.Foundation

/-! ## Whole numbers -/

/-- A whole number in decimal. -/
def intText : Int → List Char
  | .ofNat number => Nat.toDigits 10 number
  | .negSucc number => '-' :: Nat.toDigits 10 (number + 1)

/-- `text.parse::<i64>().ok()`: decimal digits, at least one, after an optional sign, of a
value that fits. -/
def parseI64 (text : List Char) : Option Int :=
  let negative := text.head? = some '-'
  let digits := if text.head? = some '+' ∨ negative then text.tail else text
  if digits = [] then none
  else
    (readDigits 0 digits).bind fun value =>
      if negative then if value ≤ 2 ^ 63 then some (-value) else none
      else if value < 2 ^ 63 then some value else none

/-- A number that fits is read back. -/
theorem parseI64_intText {value : Int} (h : -2 ^ 63 ≤ value ∧ value < 2 ^ 63) :
    parseI64 (intText value) = some value := by
  have hsign : ∀ (number : Nat) (sign : Char), sign.isDigit = false →
      (Nat.toDigits 10 number).head? ≠ some sign := fun number sign hsign hhead =>
    Bool.false_ne_true (hsign.symm.trans (isDigit_of_mem_toDigits (List.mem_of_head? hhead)))
  cases value with
  | ofNat number =>
      have hfits : number < 2 ^ 63 := by
        have := h.2
        rw [Int.ofNat_eq_natCast] at this
        omega
      rw [parseI64, intText, if_neg (not_or.mpr ⟨hsign number '+' rfl, hsign number '-' rfl⟩),
        if_neg Nat.toDigits_ne_nil, readDigits_toDigits, Option.bind_some,
        if_neg (hsign number '-' rfl), if_pos hfits]
      rfl
  | negSucc number =>
      have hfits : number + 1 ≤ 2 ^ 63 := by
        have := h.1
        rw [Int.negSucc_eq] at this
        omega
      rw [parseI64, intText, List.head?_cons, if_pos (Or.inr rfl), List.tail_cons,
        if_neg Nat.toDigits_ne_nil, readDigits_toDigits, Option.bind_some, if_pos rfl,
        if_pos hfits]
      rfl

theorem intText_word {value : Int} :
    intText value ≠ [] ∧ ∀ char ∈ intText value, isWhitespace char = false := by
  have hdigit : ∀ char : Char, char.isDigit = true → isWhitespace char = false := by
    intro char hchar
    have hrange := Char.isDigit_iff_toNat.mp hchar
    have hzero : '0'.toNat = 48 := rfl
    have hnine : '9'.toNat = 57 := rfl
    simp [isWhitespace]
    omega
  cases value with
  | ofNat number =>
      exact ⟨Nat.toDigits_ne_nil, fun char hchar => hdigit char (isDigit_of_mem_toDigits hchar)⟩
  | negSucc number =>
      refine ⟨List.cons_ne_nil _ _, fun char hchar => ?_⟩
      rcases List.mem_cons.mp hchar with rfl | hchar
      · rfl
      · exact hdigit char (isDigit_of_mem_toDigits hchar)

/-! ## Lines -/

/-- A character of the name of a metric or a label. -/
def isMetricChar (char : Char) : Bool := char.isAlphanum || char == '_' || char == ':'

/-- No characters but those of names. -/
def MetricName (name : List Char) : Prop := ∀ char ∈ name, isMetricChar char = true

instance (name : List Char) : Decidable (MetricName name) :=
  List.decidableBAll (fun char => isMetricChar char = true) name

/-- A sample of a metric. -/
structure Sample where
  name : List Char
  labels : List (List Char × List Char)
  value : Int
  deriving DecidableEq, Repr

/-- The names have no characters but those of names. -/
structure Sample.Named (sample : Sample) : Prop where
  name_ne_nil : sample.name ≠ []
  name : MetricName sample.name
  labels : ∀ label ∈ sample.labels, MetricName label.1

def escapeChar : Char → List Char
  | '\\' => ['\\', '\\']
  | '"' => ['\\', '"']
  | '\n' => ['\\', 'n']
  | char => [char]

def escapeLabelValue (value : List Char) : List Char := value.flatMap escapeChar

def labelText (label : List Char × List Char) : List Char :=
  label.1 ++ '=' :: '"' :: (escapeLabelValue label.2 ++ ['"'])

/-- The labels in braces, if there are any. -/
def labelsText (labels : List (List Char × List Char)) : List Char :=
  if labels = [] then [] else '{' :: ([','].intercalate (labels.map labelText) ++ ['}'])

def Sample.line (sample : Sample) : List Char :=
  sample.name ++ (labelsText sample.labels ++ ' ' :: intText sample.value)

inductive ExpositionLine where
  | comment (text : List Char)
  | sample (sample : Sample)
  deriving DecidableEq, Repr

namespace ExpositionLine

def text : ExpositionLine → List Char
  | comment words => '#' :: ' ' :: words
  | sample shown => shown.line

/-- A line that stays one, with names that are names. -/
def Valid : ExpositionLine → Prop
  | comment words => '\n' ∉ words ∧ '\r' ∉ words
  | sample shown => shown.Named

def sample? : ExpositionLine → Option Sample
  | comment _ => none
  | sample shown => some shown

end ExpositionLine

/-- The text of all lines. -/
def exposition (shown : List ExpositionLine) : List Char :=
  shown.flatMap fun line => line.text ++ ['\n']

/-! ## Reading the lines -/

theorem getLast?_intText_ne (value : Int) : (intText value).getLast? ≠ some '\r' := by
  intro hlast
  have hword := (@intText_word value).2 '\r' (List.mem_of_getLast? hlast)
  exact Bool.false_ne_true (hword.symm.trans (by decide))

theorem isMetricChar_ne {char : Char} (h : isMetricChar char = true) :
    ∀ other ∈ ['\n', ' ', '{', '#', '\r'], char ≠ other := by
  have hothers : ['\n', ' ', '{', '#', '\r'].all (fun other => !isMetricChar other) = true := by
    decide
  rintro other hother rfl
  have hfalse : (!isMetricChar char) = true := List.all_eq_true.mp hothers char hother
  rw [h] at hfalse
  exact Bool.false_ne_true hfalse

theorem not_mem_escapeLabelValue (value : List Char) : '\n' ∉ escapeLabelValue value := by
  have hchar : ∀ char : Char, '\n' ∉ escapeChar char := by
    intro char
    unfold escapeChar
    split
    · decide
    · decide
    · decide
    · rename_i hother
      rw [List.mem_singleton]
      exact fun heq => hother heq.symm
  intro hmem
  obtain ⟨char, -, hmem⟩ := List.mem_flatMap.mp hmem
  exact hchar char hmem

theorem Sample.Named.not_mem_line {sample : Sample} (h : sample.Named) : '\n' ∉ sample.line := by
  have hname : '\n' ∉ sample.name := fun hmem =>
    isMetricChar_ne (h.name _ hmem) '\n' (by decide) rfl
  have hlabel : ∀ label ∈ sample.labels, '\n' ∉ labelText label := by
    intro label hlabel
    have hkey : '\n' ∉ label.1 := fun hmem =>
      isMetricChar_ne (h.labels label hlabel _ hmem) '\n' (by decide) rfl
    simp [labelText, hkey, not_mem_escapeLabelValue]
  have hlabels : '\n' ∉ labelsText sample.labels := by
    unfold labelsText
    split
    · exact List.not_mem_nil
    · intro hmem
      simp only [List.mem_cons, List.mem_append, List.not_mem_nil, or_false] at hmem
      rcases hmem with hmem | hmem | hmem
      · cases hmem
      · rcases mem_intercalate hmem with hmem | ⟨part, hpart, hmem⟩
        · revert hmem
          decide
        · obtain ⟨label, hmem', rfl⟩ := List.mem_map.mp hpart
          exact hlabel label hmem' hmem
      · cases hmem
  have hvalue : '\n' ∉ intText sample.value := fun hmem =>
    Bool.false_ne_true ((intText_word.2 _ hmem).symm.trans (by decide))
  simp [Sample.line, hname, hlabels, hvalue]

theorem Sample.getLast?_line (sample : Sample) : sample.line.getLast? ≠ some '\r' := by
  have hvalue := getLast?_intText_ne sample.value
  obtain ⟨hne, -⟩ := @intText_word sample.value
  rw [Sample.line, List.getLast?_append_of_ne_nil _ (List.append_ne_nil_of_right_ne_nil _
    (List.cons_ne_nil _ _)), List.getLast?_append_of_ne_nil _ (List.cons_ne_nil _ _)]
  rwa [List.getLast?_cons_of_ne_nil hne]

/-- The lines that were written are read. -/
theorem lines_exposition {shown : List ExpositionLine} (h : ∀ line ∈ shown, line.Valid) :
    lines (exposition shown) = shown.map ExpositionLine.text := by
  induction shown with
  | nil => rfl
  | cons line shown ih =>
      obtain ⟨hline, hshown⟩ := List.forall_mem_cons.mp h
      have hone : '\n' ∉ line.text ∧ line.text.getLast? ≠ some '\r' := by
        cases line with
        | comment words =>
            refine ⟨?_, fun hlast => ?_⟩
            · simpa [ExpositionLine.text] using hline.1
            · have hmem := List.mem_of_getLast? hlast
              simp [ExpositionLine.text, hline.2] at hmem
        | sample shown => exact ⟨hline.not_mem_line, shown.getLast?_line⟩
      rw [exposition, List.flatMap_cons, List.append_assoc, List.singleton_append,
        lines_append_newline hone.1 hone.2, List.map_cons]
      exact congrArg _ (ih hshown)

/-- A line begins with a name exactly if its metric's name does. -/
theorem Sample.prefix_line_iff (sample : Sample) {name : List Char}
    (hname : MetricName name) :
    name <+: sample.line ↔ name <+: sample.name := by
  have hnot : ∀ other ∈ ['\n', ' ', '{', '#', '\r'], other ∉ name := fun other hother hmem =>
    isMetricChar_ne (hname other hmem) other hother rfl
  unfold Sample.line labelsText
  split
  · exact prefix_append_separator_iff (hnot ' ' (by decide))
  · rw [List.cons_append]
    exact prefix_append_separator_iff (hnot '{' (by decide))

/-- The last word of a line is its value. -/
theorem Sample.getLast?_splitWhitespace_line (sample : Sample) :
    (splitWhitespace sample.line).getLast? = some (intText sample.value) := by
  obtain ⟨hne, hword⟩ := @intText_word sample.value
  rw [Sample.line, ← List.append_assoc, splitWhitespace,
    List.splitOnP_append_cons _ _ (by decide : isWhitespace ' ' = true), List.filter_append,
    List.splitOnP_eq_singleton hword, List.filter_cons_of_pos (by simpa using hne)]
  exact List.getLast?_concat

end GeSensor.Foundation
