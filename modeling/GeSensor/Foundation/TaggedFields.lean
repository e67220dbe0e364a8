/-
  Foundation/TaggedFields.lean --- texts of the fields that a record has.

  A record is shown as the texts of the fields that are set, each behind a tag of its own,
  with a separator between them, or as a fixed text if none is set.  From such a text every
  field can be told, with two conditions: no tag is the beginning of another, and the text
  of a value ends where the next field begins.
-/
import GeSensor.Foundation.TextSearch

set_option autoImplicit false

namespace GeSensor.Foundation

variable {α : Type}

/-! ## Where a value ends -/

/-- The end of a text, or a separator and more. -/
def Follows (separator rest : List α) : Prop := rest = [] ∨ separator <+: rest

/-- The texts of two values can be told from each other, with more behind them. -/
def Delimits {β : Type} (separator : List α) (write : β → List α) : Prop :=
  ∀ (left right : β) (after after' : List α), Follows separator after →
    Follows separator after' → write left ++ after = write right ++ after' →
      left = right ∧ after = after'

/-- Two texts without the first character of the separator, and what follows them. -/
theorem append_inj_of_follows {first : α} {tail left right after after' : List α}
    (hleft : first ∉ left) (hright : first ∉ right) (hafter : Follows (first :: tail) after)
    (hafter' : Follows (first :: tail) after') (h : left ++ after = right ++ after') :
    left = right ∧ after = after' := by
  induction left generalizing right with
  | nil =>
      cases right with
      | nil => exact ⟨rfl, h⟩
      | cons char right =>
          rw [List.nil_append, List.cons_append] at h
          subst h
          rcases hafter with hnil | hstart
          · cases hnil
          · obtain ⟨rfl, -⟩ := List.cons_prefix_cons.mp hstart
            exact absurd List.mem_cons_self hright
  | cons char left ih =>
      cases right with
      | nil =>
          rw [List.nil_append, List.cons_append] at h
          subst h
          rcases hafter' with hnil | hstart
          · cases hnil
          · obtain ⟨rfl, -⟩ := List.cons_prefix_cons.mp hstart
            exact absurd List.mem_cons_self hleft
      | cons other right =>
          rw [List.cons_append, List.cons_append, List.cons.injEq] at h
          obtain ⟨rfl, hrest⟩ := h
          obtain ⟨rfl, rfl⟩ := ih (fun hmem => hleft (List.mem_cons_of_mem _ hmem))
            (fun hmem => hright (List.mem_cons_of_mem _ hmem)) hrest
          exact ⟨rfl, rfl⟩

section

variable {β : Type} {separator : List α} {write : β → List α}

/-- A value whose text does not hold the first character of the separator ends there. -/
theorem delimits_of_not_mem {first : α} {tail : List α} (hwrite : Function.Injective write)
    (h : ∀ value, first ∉ write value) : Delimits (first :: tail) write := by
  intro left right after after' hafter hafter' heq
  obtain ⟨htext, hrest⟩ := append_inj_of_follows (h left) (h right) hafter hafter' heq
  exact ⟨hwrite htext, hrest⟩

/-- A value in brackets ends at the bracket. -/
theorem delimits_of_closed {opened close : α} {body : β → List α}
    (hbody : Function.Injective body) (h : ∀ value, close ∉ body value) :
    Delimits separator fun value => opened :: (body value ++ [close]) := by
  intro left right after after' _ _ heq
  simp only [List.cons_append, List.append_assoc, List.nil_append, List.cons.injEq,
    true_and] at heq
  obtain ⟨htext, hrest⟩ := append_separator_inj (h left) (h right) heq
  exact ⟨hbody htext, hrest⟩

theorem Delimits.injective (h : Delimits separator write) : Function.Injective write :=
  fun left right heq => (h left right [] [] (Or.inl rfl) (Or.inl rfl)
    (by rw [heq])).1

/-- Two values of one text. -/
theorem Delimits.pair {γ : Type} {middle : List α} {second : γ → List α}
    (hfirst : Delimits middle write) (hsecond : Delimits separator second) :
    Delimits separator fun value : β × γ => write value.1 ++ (middle ++ second value.2) := by
  intro left right after after' hafter hafter' heq
  simp only [List.append_assoc] at heq
  obtain ⟨hleft, hrest⟩ := hfirst left.1 right.1 _ _ (Or.inr (List.prefix_append _ _))
    (Or.inr (List.prefix_append _ _)) heq
  obtain ⟨hright, hafters⟩ := hsecond left.2 right.2 after after' hafter hafter'
    (List.append_cancel_left hrest)
  exact ⟨Prod.ext hleft hright, hafters⟩

end

/-! ## Joined texts -/

/-- A joined text with a separator in front has one in front of each part. -/
theorem append_intercalate (separator part : List α) (parts : List (List α)) :
    separator ++ separator.intercalate (part :: parts) =
      (part :: parts).flatMap (separator ++ ·) := by
  induction parts generalizing part with
  | nil => simp [List.intercalate_singleton]
  | cons second parts ih =>
      rw [List.intercalate_cons_cons, List.flatMap_cons, ← ih second]
      simp only [List.append_assoc]

theorem follows_flatMap (separator : List α) (parts : List (List α)) :
    Follows separator (parts.flatMap (separator ++ ·)) := by
  cases parts with
  | nil => exact Or.inl rfl
  | cons part parts =>
      rw [List.flatMap_cons, List.append_assoc]
      exact Or.inr (List.prefix_append _ _)

theorem flatMap_eq_nil {separator : List α} (hseparator : separator ≠ [])
    {parts : List (List α)} (h : parts.flatMap (separator ++ ·) = []) : parts = [] := by
  cases parts with
  | nil => rfl
  | cons part parts =>
      rw [List.flatMap_cons, List.append_assoc, List.append_eq_nil_iff] at h
      exact absurd h.1 hseparator

/-- The values of a joined list can be told. -/
theorem intercalate_map_injective {β : Type} {separator : List α} {write : β → List α}
    (hseparator : separator ≠ []) (hwrite : Delimits separator write)
    (hne : ∀ value, write value ≠ []) :
    Function.Injective fun values : List β => separator.intercalate (values.map write) := by
  have hspread : ∀ left right : List β, (left.map write).flatMap (separator ++ ·) =
      (right.map write).flatMap (separator ++ ·) → left = right := by
    intro left
    induction left with
    | nil =>
        intro right h
        exact (List.map_eq_nil_iff.mp (flatMap_eq_nil hseparator h.symm)).symm
    | cons value left ih =>
        intro right h
        cases right with
        | nil => exact List.map_eq_nil_iff.mp (flatMap_eq_nil hseparator h)
        | cons other right =>
            rw [List.map_cons, List.map_cons, List.flatMap_cons, List.flatMap_cons,
              List.append_assoc, List.append_assoc] at h
            obtain ⟨rfl, hrest⟩ := hwrite value other _ _ (follows_flatMap _ _)
              (follows_flatMap _ _) (List.append_cancel_left h)
            rw [ih right hrest]
  have hnil : ∀ (value : β) (values : List β),
      separator.intercalate ((value :: values).map write) ≠ [] := by
    intro value values h
    cases values with
    | nil =>
        rw [List.map_singleton, List.intercalate_singleton] at h
        exact hne value h
    | cons second values =>
        rw [List.map_cons, List.map_cons, List.intercalate_cons_cons, List.append_assoc] at h
        exact hne value (List.append_eq_nil_iff.mp h).1
  intro left right h
  cases left with
  | nil =>
      cases right with
      | nil => rfl
      | cons other right => exact absurd h.symm (hnil other right)
  | cons value left =>
      cases right with
      | nil => exact absurd h (hnil value left)
      | cons other right =>
          refine hspread _ _ ?_
          rw [List.map_cons, List.map_cons, ← append_intercalate, ← append_intercalate]
          exact congrArg (separator ++ ·) h

/-! ## Fields -/

/-- A field of a record: its tag, and the text of its value if it is set. -/
structure TaggedField (ρ α : Type) where
  tag : List α
  value : ρ → Option (List α)

section

variable {ρ : Type} (separator fallback : List α) (fields : List (TaggedField ρ α)) (item : ρ)

/-- The fields that are set, each behind its tag. -/
def fieldTexts : List (List α) :=
  fields.filterMap fun field => (field.value item).map (field.tag ++ ·)

theorem fieldTexts_nil : fieldTexts ([] : List (TaggedField ρ α)) item = [] := rfl

theorem fieldTexts_cons (field : TaggedField ρ α) :
    fieldTexts (field :: fields) item =
      ((field.value item).map (field.tag ++ ·)).toList ++ fieldTexts fields item := by
  rw [fieldTexts, fieldTexts, List.filterMap_cons]
  cases field.value item <;> rfl

/-- The text of a record. -/
def describe : List α :=
  if fieldTexts fields item = [] then fallback else separator.intercalate (fieldTexts fields item)

/-- The value of a field ends where the next field begins. -/
def TaggedField.Delimited (field : TaggedField ρ α) : Prop :=
  ∀ (item other : ρ) (text text' after after' : List α), field.value item = some text →
    field.value other = some text' → Follows separator after → Follows separator after' →
      text ++ after = text' ++ after' → text = text' ∧ after = after'

/-- Fields that can be told from each other. -/
structure Told : Prop where
  tags : fields.Pairwise fun field other => ¬ field.tag <+: other.tag ∧ ¬ other.tag <+: field.tag
  values : ∀ field ∈ fields, field.Delimited separator

end

section

variable {ρ : Type} {separator fallback : List α} {fields : List (TaggedField ρ α)}
  {item other : ρ}

theorem Delimits.delimited {β : Type} {write : β → List α} (h : Delimits separator write)
    (tag : List α) (value : ρ → Option β) :
    TaggedField.Delimited separator ⟨tag, fun item => (value item).map write⟩ := by
  intro item other text text' after after' htext htext' hafter hafter' heq
  obtain ⟨left, -, rfl⟩ := Option.map_eq_some_iff.mp htext
  obtain ⟨right, -, rfl⟩ := Option.map_eq_some_iff.mp htext'
  obtain ⟨rfl, hrest⟩ := h left right after after' hafter hafter' heq
  exact ⟨rfl, hrest⟩

/-- Every text begins with the tag of a field. -/
theorem exists_tag_of_mem {text : List α} (h : text ∈ fieldTexts fields item) :
    ∃ field ∈ fields, field.tag <+: text := by
  obtain ⟨field, hfield, hvalue⟩ := List.mem_filterMap.mp h
  obtain ⟨value, -, rfl⟩ := Option.map_eq_some_iff.mp hvalue
  exact ⟨field, hfield, List.prefix_append _ _⟩

/-- A field that is set is not the first of the others. -/
theorem set_ne_others {field : TaggedField ρ α} (hseparator : separator ≠ [])
    (htags : ∀ other ∈ fields, ¬ field.tag <+: other.tag ∧ ¬ other.tag <+: field.tag)
    (value after : List α) : separator ++ (field.tag ++ value) ++ after ≠
      (fieldTexts fields item).flatMap (separator ++ ·) := by
  intro h
  cases htexts : fieldTexts fields item with
  | nil =>
      rw [htexts, List.flatMap_nil, List.append_assoc, List.append_eq_nil_iff] at h
      exact hseparator h.1
  | cons text texts =>
      obtain ⟨shown, hshown, hstart⟩ : ∃ shown ∈ fields, shown.tag <+: text :=
        exists_tag_of_mem (by rw [htexts]; exact List.mem_cons_self)
      rw [htexts, List.flatMap_cons, List.append_assoc, List.append_assoc, List.append_assoc] at h
      have hrest := List.append_cancel_left h
      have hfield : field.tag <+: text ++ texts.flatMap (separator ++ ·) := by
        rw [← hrest]
        exact List.prefix_append _ _
      rcases List.prefix_or_prefix_of_prefix hfield (hstart.trans (List.prefix_append _ _)) with
        hcase | hcase
      · exact (htags shown hshown).1 hcase
      · exact (htags shown hshown).2 hcase

/-- The induction over the fields: the first text is that of the first field that is set. -/
theorem value_eq_of_flatMap (hseparator : separator ≠ []) (hfields : Told separator fields)
    (h : (fieldTexts fields item).flatMap (separator ++ ·) =
      (fieldTexts fields other).flatMap (separator ++ ·)) :
    ∀ field ∈ fields, field.value item = field.value other := by
  induction fields with
  | nil => exact fun _ hfield => absurd hfield List.not_mem_nil
  | cons field fields ih =>
      obtain ⟨htags, hrest⟩ := List.pairwise_cons.mp hfields.tags
      have hothers : Told separator fields :=
        ⟨hrest, fun shown hshown => hfields.values shown (List.mem_cons_of_mem _ hshown)⟩
      have hdelimited := hfields.values field List.mem_cons_self
      rw [fieldTexts_cons, fieldTexts_cons] at h
      cases hvalue : field.value item with
      | none =>
          cases hvalue' : field.value other with
          | none =>
              rw [hvalue, hvalue'] at h
              exact List.forall_mem_cons.mpr ⟨hvalue.trans hvalue'.symm, ih hothers h⟩
          | some text' =>
              rw [hvalue, hvalue'] at h
              exact absurd h.symm (set_ne_others hseparator htags text' _)
      | some text =>
          cases hvalue' : field.value other with
          | none =>
              rw [hvalue, hvalue'] at h
              exact absurd h (set_ne_others hseparator htags text _)
          | some text' =>
              simp only [hvalue, hvalue', Option.map_some, Option.toList_some, List.cons_append,
                List.nil_append, List.flatMap_cons, List.append_assoc] at h
              obtain ⟨rfl, hmore⟩ := hdelimited item other text text' _ _ hvalue hvalue'
                (follows_flatMap _ _) (follows_flatMap _ _)
                (List.append_cancel_left (List.append_cancel_left h))
              exact List.forall_mem_cons.mpr ⟨hvalue.trans hvalue'.symm, ih hothers hmore⟩

/-- The fallback is no text of fields. -/
theorem fallback_ne_texts (hfallback : ∀ field ∈ fields, ¬ field.tag <+: fallback)
    (hne : fieldTexts fields item ≠ []) :
    fallback ≠ separator.intercalate (fieldTexts fields item) := by
  intro h
  obtain ⟨text, texts, htexts⟩ := List.exists_cons_of_ne_nil hne
  obtain ⟨field, hfield, hstart⟩ : ∃ field ∈ fields, field.tag <+: text :=
    exists_tag_of_mem (by rw [htexts]; exact List.mem_cons_self)
  refine hfallback field hfield (hstart.trans ?_)
  rw [h, htexts]
  cases texts with
  | nil =>
      rw [List.intercalate_singleton]
  | cons second texts =>
      rw [List.intercalate_cons_cons, List.append_assoc]
      exact List.prefix_append _ _

/-- The text of a record says which fields are set, and to what. -/
theorem describe_eq_iff (hseparator : separator ≠ []) (hfields : Told separator fields)
    (hfallback : ∀ field ∈ fields, ¬ field.tag <+: fallback) :
    describe separator fallback fields item = describe separator fallback fields other ↔
      ∀ field ∈ fields, field.value item = field.value other := by
  constructor
  · intro h
    refine value_eq_of_flatMap hseparator hfields ?_
    by_cases hitem : fieldTexts fields item = []
    · by_cases hother : fieldTexts fields other = []
      · rw [hitem, hother]
      · rw [describe, describe, if_pos hitem, if_neg hother] at h
        exact absurd h (fallback_ne_texts hfallback hother)
    · by_cases hother : fieldTexts fields other = []
      · rw [describe, describe, if_neg hitem, if_pos hother] at h
        exact absurd h.symm (fallback_ne_texts hfallback hitem)
      · rw [describe, describe, if_neg hitem, if_neg hother] at h
        obtain ⟨text, texts, htexts⟩ := List.exists_cons_of_ne_nil hitem
        obtain ⟨text', texts', htexts'⟩ := List.exists_cons_of_ne_nil hother
        rw [htexts, htexts', ← append_intercalate, ← append_intercalate, ← htexts, ← htexts', h]
  · intro h
    have htexts : fieldTexts fields item = fieldTexts fields other :=
      List.filterMap_congr fun field hfield => by rw [h field hfield]
    rw [describe, describe, htexts]

end

end GeSensor.Foundation
