import MarketIngest.DecimalText
import Mathlib.Data.List.DropRight

namespace MarketIngest.Text

open MarketData.FixedDecimal (trim)

/-!
# Lists in texts

A list of texts is written with commas between them.  It is read by cutting at
the commas, trimming the fields, leaving out empty ones and changing the letters
to one case.  A list that was read so is written and read again without change.
-/

/-- ASCII letters become lower case. -/
def toAsciiLowercase (text : String) : String :=
  text.map Char.toLower

/-- The text without white space at both ends. -/
def trimmed (text : String) : String :=
  String.ofList (trim text.toList)

/-- The fields between separators. -/
def split (separator : Char) (text : String) : List String :=
  (text.toList.splitOn separator).map String.ofList

/-- Texts with a separator between them. -/
def join (separator : Char) (texts : List String) : String :=
  String.ofList (List.intercalate [separator] (texts.map String.toList))

/-- The fields between commas in one case, without the empty ones. -/
def commaSeparated (changeCase : Char → Char) (text : String) :
    List String :=
  (((split ',' text).map trimmed).filter (fun field => field ≠ "")).map
    (String.map changeCase)

/-- A change of case changes letters only, and once. -/
structure IsCase (changeCase : Char → Char) : Prop where
  white : ∀ char, isWhiteSpace (changeCase char) = isWhiteSpace char
  twice : ∀ char, changeCase (changeCase char) = changeCase char
  comma : ∀ char, changeCase char = ',' → char = ','

/-- A field that reading leaves as it is. -/
structure IsField (changeCase : Char → Char) (field : String) : Prop where
  nonempty : field ≠ ""
  noComma : ',' ∉ field.toList
  isTrimmed : trimmed field = field
  inCase : field.map changeCase = field

section Trimming

/-- Trimming drops white space at the start, and then at the end. -/
private theorem trim_eq
    (characters : List Char) :
    trim characters =
      (characters.dropWhile isWhiteSpace).rdropWhile isWhiteSpace :=
  rfl

/-- Nothing is dropped exactly if the first item stays. -/
private theorem dropWhile_eq_self
    {Item : Type}
    {predicate : Item → Bool}
    {items : List Item} :
    items.dropWhile predicate = items ↔
      ∀ first ∈ items.head?, predicate first = false := by
  cases items with
  | nil =>
      simp
  | cons first rest =>
      rw [List.dropWhile_eq_self_iff]
      simp

/-- What is dropped at the end uncovers nothing to drop at the start. -/
private theorem dropWhile_rdropWhile
    {Item : Type}
    {predicate : Item → Bool}
    {items : List Item}
    (keepsFirst : items.dropWhile predicate = items) :
    (items.rdropWhile predicate).dropWhile predicate =
      items.rdropWhile predicate := by
  rw [dropWhile_eq_self] at keepsFirst ⊢
  intro first isFirst
  apply keepsFirst
  obtain ⟨dropped, same⟩ := List.rdropWhile_prefix predicate items
  rw [← same, List.head?_append, isFirst]
  rfl

/-- What is trimmed stays as it is. -/
theorem trim_trim
    (characters : List Char) :
    trim (trim characters) = trim characters := by
  rw [trim_eq (trim characters), trim_eq characters,
    dropWhile_rdropWhile (List.dropWhile_idempotent _ _),
    List.rdropWhile_idempotent]

/-- Trimming commutes with what leaves white space as it is. -/
theorem trim_map
    {change : Char → Char}
    (keepsWhite :
      ∀ char, isWhiteSpace (change char) = isWhiteSpace char)
    (characters : List Char) :
    trim (characters.map change) = (trim characters).map change := by
  have same : isWhiteSpace ∘ change = isWhiteSpace :=
    funext keepsWhite
  simp only [trim, List.dropWhile_map, ← List.map_reverse, same]

end Trimming

section Cases

private theorem toNat_toUpper
    (char : Char) :
    char.toUpper.toNat =
      if 97 ≤ char.toNat ∧ char.toNat ≤ 122 then char.toNat - 32
      else char.toNat := by
  delta Char.toUpper
  split
  · next isLower =>
      have lower : 97 ≤ char.toNat :=
        UInt32.le_iff_toNat_le.mp isLower.1
      have upper : char.toNat ≤ 122 :=
        UInt32.le_iff_toNat_le.mp isLower.2
      have wraps : ('A'.val - 'a'.val).toNat = 4294967264 := by decide
      rw [if_pos ⟨lower, upper⟩]
      change (char.val + ('A'.val - 'a'.val)).toNat = _
      rw [UInt32.toNat_add, wraps]
      change (char.toNat + 4294967264) % 2 ^ 32 = _
      omega
  · next notLower =>
      rw [if_neg]
      rintro ⟨lower, upper⟩
      exact notLower
        ⟨UInt32.le_iff_toNat_le.mpr lower, UInt32.le_iff_toNat_le.mpr upper⟩

private theorem isWhiteSpace_of_toNat
    {first second : Char}
    (same :
      first.toNat = second.toNat ∨
        ((65 ≤ first.toNat ∧ first.toNat ≤ 122) ∧
          65 ≤ second.toNat ∧ second.toNat ≤ 122)) :
    isWhiteSpace first = isWhiteSpace second := by
  unfold isWhiteSpace
  rw [Bool.eq_iff_iff]
  simp only [Bool.or_eq_true, Bool.and_eq_true, decide_eq_true_eq]
  omega

/-- Upper case is a case. -/
theorem isCase_toUpper : IsCase Char.toUpper where
  white char := by
    apply isWhiteSpace_of_toNat
    rw [toNat_toUpper]
    split <;> omega
  twice char := by
    apply Char.toNat_inj.mp
    simp only [toNat_toUpper]
    split_ifs <;> omega
  comma char isComma := by
    have same := congrArg Char.toNat isComma
    rw [toNat_toUpper] at same
    have comma : ','.toNat = 44 := by decide
    apply Char.toNat_inj.mp
    split_ifs at same <;> omega

end Cases

section Fields

variable {changeCase : Char → Char}

/-- A field has no separator. -/
private theorem not_mem_of_mem_splitOn
    {separator : Char}
    {characters field : List Char}
    (member : field ∈ characters.splitOn separator) :
    separator ∉ field := by
  induction characters generalizing field with
  | nil =>
      simp only [List.splitOn_nil, List.mem_singleton] at member
      simp [member]
  | cons first rest inductionHypothesis =>
      rw [List.splitOn_cons_eq_if_modifyHead] at member
      split at member
      · rcases List.mem_cons.mp member with isEmpty | inRest
        · simp [isEmpty]
        · exact inductionHypothesis inRest
      · next notSeparator =>
          obtain ⟨head, tail, fields⟩ :=
            List.exists_cons_of_ne_nil (List.splitOn_ne_nil separator rest)
          rw [fields, List.modifyHead_cons] at member
          rcases List.mem_cons.mp member with isHead | inTail
          · rw [isHead, List.mem_cons, not_or]
            refine ⟨?_, inductionHypothesis (by simp [fields])⟩
            rintro rfl
            exact notSeparator (beq_self_eq_true _)
          · exact inductionHypothesis (by simp [fields, inTail])

/-- Reading a list leaves fields that reading leaves as they are. -/
theorem isField_of_mem_commaSeparated
    (isCase : IsCase changeCase)
    {text field : String}
    (member : field ∈ commaSeparated changeCase text) :
    IsField changeCase field := by
  unfold commaSeparated split at member
  simp only [List.mem_map, List.mem_filter, decide_eq_true_eq] at member
  obtain ⟨_, ⟨⟨_, ⟨characters, inSplit, rfl⟩, rfl⟩, nonempty⟩, rfl⟩ := member
  have noComma := not_mem_of_mem_splitOn inSplit
  obtain ⟨left, right, -, -, whole⟩ :=
    MarketData.FixedDecimal.exists_trim characters
  refine ⟨?_, ?_, ?_, ?_⟩
  · intro isEmpty
    apply nonempty
    rw [← String.toList_eq_nil_iff] at isEmpty ⊢
    rw [String.toList_map, List.map_eq_nil_iff] at isEmpty
    exact isEmpty
  · rw [String.toList_map, List.mem_map]
    rintro ⟨char, inField, isComma⟩
    rw [isCase.comma char isComma, trimmed, String.toList_ofList,
      String.toList_ofList] at inField
    apply noComma
    rw [whole]
    simp [inField]
  · unfold trimmed
    rw [String.toList_map, String.toList_ofList, String.toList_ofList,
      trim_map isCase.white, trim_trim]
    apply String.toList_injective
    simp
  · apply String.toList_injective
    simp only [String.toList_map, List.map_map]
    exact List.map_congr_left fun char _ => isCase.twice char

/-- A list of fields is written and read again without change. -/
theorem commaSeparated_join
    {fields : List String}
    (nonempty : fields ≠ [])
    (areFields : ∀ field ∈ fields, IsField changeCase field) :
    commaSeparated changeCase (join ',' fields) = fields := by
  have cut : split ',' (join ',' fields) = fields := by
    rw [split, join, String.toList_ofList,
      List.splitOn_intercalate ',' _ (by simpa using nonempty),
      List.map_map]
    · simp [Function.comp_def]
    · intro characters member
      obtain ⟨field, inFields, rfl⟩ := List.mem_map.mp member
      exact (areFields field inFields).noComma
  have sameTrimmed : fields.map trimmed = fields := by
    conv_rhs => rw [← List.map_id fields]
    exact List.map_congr_left fun field member =>
      (areFields field member).isTrimmed
  have sameCase : fields.map (String.map changeCase) = fields := by
    conv_rhs => rw [← List.map_id fields]
    exact List.map_congr_left fun field member =>
      (areFields field member).inCase
  rw [commaSeparated, cut, sameTrimmed, List.filter_eq_self.mpr, sameCase]
  intro field member
  exact decide_eq_true (areFields field member).nonempty

end Fields

end MarketIngest.Text
