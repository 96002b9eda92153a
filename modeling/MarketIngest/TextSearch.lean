import MarketIngest.Saturating
import MarketIngest.SegmentPath

namespace MarketIngest.Text

/-!
# Searching texts

A text is cut at the first occurrence of a marker.  Markers that end or begin
with a separator are found segment by segment, so that a search through a text
with known segments is decided by its segments.
-/

section Split

variable {Item : Type} [DecidableEq Item]

/-- What stands before and behind the first occurrence of a marker. -/
def splitOnce?
    (marker : List Item) :
    List Item → Option (List Item × List Item)
  | [] =>
      if marker = [] then some ([], []) else none
  | item :: rest =>
      if marker <+: item :: rest then
        some ([], (item :: rest).drop marker.length)
      else
        (splitOnce? marker rest).map fun parts =>
          (item :: parts.1, parts.2)

/-- The last of the fields between separators. -/
def lastField (separator : Item) (items : List Item) : List Item :=
  (items.reverse.takeWhile fun item => item ≠ separator).reverse

variable
  {marker name segment rest : List Item}
  {separator : Item}

/-- A marker that begins the text is found there. -/
theorem splitOnce?_of_prefix
    (marker rest : List Item) :
    splitOnce? marker (marker ++ rest) = some ([], rest) := by
  cases text : marker ++ rest with
  | nil =>
      obtain ⟨rfl, rfl⟩ := List.append_eq_nil_iff.mp text
      rfl
  | cons item others =>
      have starts : marker <+: item :: others :=
        text ▸ List.prefix_append marker rest
      rw [splitOnce?, if_pos starts, ← text, List.drop_left]

/-- A marker with a separator is not found without one. -/
theorem splitOnce?_eq_none
    (inMarker : separator ∈ marker)
    (free : separator ∉ rest) :
    splitOnce? marker rest = none := by
  induction rest with
  | nil =>
      have some : marker ≠ [] := List.ne_nil_of_mem inMarker
      rw [splitOnce?, if_neg some]
  | cons item others inductionHypothesis =>
      have absent : ¬ marker <+: item :: others :=
        fun starts => free (starts.subset inMarker)
      rw [splitOnce?, if_neg absent,
        inductionHypothesis fun member =>
          free (List.mem_cons_of_mem item member)]
      rfl

/-- A marker with a leading separator is found behind the first segment. -/
theorem splitOnce?_opened
    (free : separator ∉ segment) :
    splitOnce? (separator :: name) (segment ++ separator :: rest) =
      if name <+: rest then
        some (segment, rest.drop name.length)
      else
        (splitOnce? (separator :: name) rest).map fun parts =>
          (segment ++ separator :: parts.1, parts.2) := by
  induction segment with
  | nil =>
      rw [List.nil_append, splitOnce?]
      simp only [List.cons_prefix_cons, true_and, List.length_cons,
        List.drop_succ_cons, List.nil_append]
  | cons item others inductionHypothesis =>
      obtain ⟨different, othersFree⟩ :
          separator ≠ item ∧ separator ∉ others := by
        simpa only [List.mem_cons, not_or] using free
      have absent :
          ¬ separator :: name <+: item :: (others ++ separator :: rest) :=
        fun starts => different (List.cons_prefix_cons.mp starts).1
      rw [List.cons_append, splitOnce?, if_neg absent,
        inductionHypothesis othersFree]
      split_ifs with found
      · rfl
      · rw [Option.map_map]
        rfl

/-- A marker with a closing separator is found at the end of a segment. -/
theorem splitOnce?_closed
    (nameFree : separator ∉ name)
    (free : separator ∉ segment) :
    splitOnce? (name ++ [separator]) (segment ++ separator :: rest) =
      if name <:+ segment then
        some (segment.take (segment.length - name.length), rest)
      else
        (splitOnce? (name ++ [separator]) rest).map fun parts =>
          (segment ++ separator :: parts.1, parts.2) := by
  induction segment with
  | nil =>
      cases name with
      | nil =>
          rw [List.nil_append, List.nil_append, if_pos List.nil_suffix]
          exact splitOnce?_of_prefix [separator] rest
      | cons first others =>
          have different : first ≠ separator := by
            rintro rfl
            exact nameFree List.mem_cons_self
          have absent :
              ¬ first :: (others ++ [separator]) <+: separator :: rest :=
            fun starts => different (List.cons_prefix_cons.mp starts).1
          rw [List.nil_append, List.cons_append, splitOnce?,
            if_neg absent, if_neg (by simp)]
          rfl
  | cons item others inductionHypothesis =>
      obtain ⟨different, othersFree⟩ :
          separator ≠ item ∧ separator ∉ others := by
        simpa only [List.mem_cons, not_or] using free
      by_cases whole : name = item :: others
      · subst whole
        rw [if_pos List.suffix_rfl, Nat.sub_self, List.take_zero]
        have found :=
          splitOnce?_of_prefix (item :: others ++ [separator]) rest
        rwa [List.append_assoc] at found
      · have absent :
            ¬ name ++ [separator] <+:
              item :: others ++ separator :: rest := by
          intro starts
          exact whole ((segment_prefix_iff nameFree free).mp starts).1
        have shorter : name <:+ item :: others ↔ name <:+ others := by
          rw [List.suffix_cons_iff, or_iff_right whole]
        rw [List.cons_append] at absent
        rw [List.cons_append, splitOnce?, if_neg absent,
          inductionHypothesis othersFree]
        by_cases found : name <:+ others
        · have length := found.length_le
          rw [if_pos found, if_pos (shorter.mpr found), Option.map_some,
            List.length_cons, Nat.succ_sub length, List.take_succ_cons]
        · rw [if_neg found, if_neg (fun wider => found (shorter.mp wider)),
            Option.map_map]
          rfl

/-- A field whose name does not end in the marker does not contain it. -/
theorem splitOnce?_field
    (nameFree : separator ∉ name)
    (segmentFree : separator ∉ segment)
    (restFree : separator ∉ rest)
    (different : ¬ name <:+ segment) :
    splitOnce? (name ++ [separator]) (segment ++ separator :: rest) =
      none := by
  have inMarker : separator ∈ name ++ [separator] := by simp
  have absent := splitOnce?_eq_none inMarker restFree
  rw [splitOnce?_closed nameFree segmentFree, if_neg different, absent]
  rfl

/-- A segment without the marker is skipped. -/
theorem splitOnce?_skip
    (notInMarker : separator ∉ marker)
    (nonempty : marker ≠ [])
    (absent : splitOnce? marker segment = none) :
    splitOnce? marker (segment ++ separator :: rest) =
      (splitOnce? marker rest).map fun parts =>
        (segment ++ separator :: parts.1, parts.2) := by
  induction segment with
  | nil =>
      obtain ⟨first, others, rfl⟩ := List.exists_cons_of_ne_nil nonempty
      have different : ¬ first :: others <+: separator :: rest := by
        intro starts
        rw [(List.cons_prefix_cons.mp starts).1] at notInMarker
        exact notInMarker List.mem_cons_self
      rw [List.nil_append, splitOnce?, if_neg different]
      rfl
  | cons item others inductionHypothesis =>
      rw [splitOnce?] at absent
      split_ifs at absent with starts
      have othersAbsent := Option.map_eq_none_iff.mp absent
      have different :
          ¬ marker <+: item :: (others ++ separator :: rest) := by
        intro longer
        rcases Nat.lt_or_ge (item :: others).length marker.length with
          beyond | inside
        · have closed :
              item :: others ++ [separator] <+:
                item :: (others ++ separator :: rest) := by
            simp
          have part :=
            List.prefix_of_prefix_length_le closed longer (by simpa)
          exact notInMarker (part.subset (by simp))
        · have segmentPrefix :
              item :: others <+: item :: (others ++ separator :: rest) := by
            simp
          exact starts
            (List.prefix_of_prefix_length_le longer segmentPrefix inside)
      rw [List.cons_append, splitOnce?, if_neg different,
        inductionHypothesis othersAbsent, Option.map_map]
      rfl

/-- The last field stands behind the last separator. -/
theorem lastField_append
    (free : separator ∉ rest) :
    lastField separator (segment ++ separator :: rest) = rest := by
  have kept : ∀ item ∈ rest.reverse, decide (item ≠ separator) = true := by
    intro item member
    apply decide_eq_true
    rintro rfl
    exact free (List.mem_reverse.mp member)
  rw [lastField, List.reverse_append, List.reverse_cons, List.append_assoc,
    List.takeWhile_append_of_pos kept]
  simp

end Split

section Paths

variable
  {marker : List Char}
  (slashFree : '/' ∉ marker)
  (nonempty : marker ≠ [])

include slashFree nonempty in
/-- A path without the marker in its segments is skipped. -/
theorem splitOnce?_path
    {segments : List String}
    (absent :
      ∀ segment ∈ segments, splitOnce? marker segment.toList = none)
    (file : String) :
    splitOnce? marker (path segments ++ file).toList =
      (splitOnce? marker file.toList).map fun parts =>
        ((path segments).toList ++ parts.1, parts.2) := by
  induction segments with
  | nil =>
      simp [path]
  | cons segment rest inductionHypothesis =>
      obtain ⟨segmentAbsent, restAbsent⟩ := List.forall_mem_cons.mp absent
      have whole := toList_path_cons segment rest ""
      rw [String.append_empty, String.append_empty] at whole
      rw [toList_path_cons,
        splitOnce?_skip slashFree nonempty segmentAbsent,
        inductionHypothesis restAbsent, Option.map_map, whole]
      simp only [Function.comp_def, List.append_assoc, List.cons_append]

/-- A closed name that ends no segment of a path is not found. -/
theorem splitOnce?_closed_path
    {name : List Char}
    (nameFree : '/' ∉ name)
    {segments : List String}
    (segmentsFree : SlashFree segments)
    (different : ∀ segment ∈ segments, ¬ name <:+ segment.toList)
    {file : String}
    (fileFree : '/' ∉ file.toList) :
    splitOnce? (name ++ ['/']) (path segments ++ file).toList = none := by
  induction segments with
  | nil =>
      have inMarker : '/' ∈ name ++ ['/'] := by simp
      rw [path, String.empty_append]
      exact splitOnce?_eq_none inMarker fileFree
  | cons segment rest inductionHypothesis =>
      obtain ⟨segmentFree, restFree⟩ := List.forall_mem_cons.mp segmentsFree
      obtain ⟨segmentDiffers, restDiffer⟩ :=
        List.forall_mem_cons.mp different
      rw [toList_path_cons, splitOnce?_closed nameFree segmentFree,
        if_neg segmentDiffers, inductionHypothesis restFree restDiffer]
      rfl

/-- A beginning without separator ends within the first segment. -/
theorem prefix_of_prefix_segment
    {name segment rest : List Char}
    {separator : Char}
    (free : separator ∉ name)
    (starts : name <+: segment ++ separator :: rest) :
    name <+: segment := by
  rcases Nat.lt_or_ge segment.length name.length with longer | short
  · have closed : segment ++ [separator] <+: segment ++ separator :: rest := by
      simp
    have reaches := List.prefix_of_prefix_length_le closed starts (by simpa)
    exact (free (reaches.subset (by simp))).elim
  · exact List.prefix_of_prefix_length_le starts
      (List.prefix_append segment _) short

/-- An opened name that begins none of the later segments is found behind. -/
theorem splitOnce?_opened_path
    {name : List Char}
    (nameFree : '/' ∉ name)
    {leading : String}
    (leadingFree : '/' ∉ leading.toList)
    {segments : List String}
    (segmentsFree : SlashFree segments)
    (different : ∀ segment ∈ segments, ¬ name <+: segment.toList)
    (rest : List Char) :
    (splitOnce? ('/' :: name)
        ((path (leading :: segments)).toList ++ (name ++ rest))).map
          Prod.snd =
      some rest := by
  have cut (segment : String) (later : List String) :
      (path (segment :: later)).toList =
        segment.toList ++ '/' :: (path later).toList := by
    simpa using toList_path_cons segment later ""
  rw [cut, List.append_assoc, List.cons_append,
    splitOnce?_opened leadingFree]
  induction segments generalizing leading with
  | nil =>
      rw [if_pos (by simp [path])]
      simp [path]
  | cons segment others inductionHypothesis =>
      obtain ⟨segmentFree, othersFree⟩ := List.forall_mem_cons.mp segmentsFree
      obtain ⟨segmentDiffers, othersDiffer⟩ :=
        List.forall_mem_cons.mp different
      have notHere :
          ¬ name <+: segment.toList ++ '/' ::
            ((path others).toList ++ (name ++ rest)) :=
        fun starts =>
          segmentDiffers (prefix_of_prefix_segment nameFree starts)
      have later := inductionHypothesis segmentFree othersFree othersDiffer
      rw [cut, List.append_assoc, List.cons_append, if_neg notHere,
        Option.map_map, splitOnce?_opened segmentFree, ← later]
      rfl

/-- The last field of a path in front of a file is the file. -/
theorem lastField_path
    (segments : List String)
    {file : String}
    (fileFree : '/' ∉ file.toList) :
    lastField '/' (path segments ++ file).toList = file.toList := by
  rcases List.eq_nil_or_concat segments with rfl | ⟨leading, last, rfl⟩
  · have whole : path [] ++ file = file := by
      rw [path, String.empty_append]
    have kept :
        ∀ char ∈ file.toList.reverse, decide (char ≠ '/') = true := by
      intro char member
      apply decide_eq_true
      rintro rfl
      exact fileFree (List.mem_reverse.mp member)
    rw [whole, lastField, ← List.append_nil file.toList.reverse,
      List.takeWhile_append_of_pos kept, List.takeWhile_nil,
      List.append_nil, List.reverse_reverse]
  · have whole :
        (path (leading ++ [last]) ++ file).toList =
          (path leading ++ last).toList ++ '/' :: file.toList := by
      rw [path_append]
      simp [path]
    rw [List.concat_eq_append, whole]
    exact lastField_append fileFree

end Paths

/-- The text contains the marker. -/
def contains (text marker : String) : Bool :=
  (splitOnce? marker.toList text.toList).isSome

/-- A marker inside a text is found. -/
theorem contains_of_infix
    {text marker : String}
    (inside : marker.toList <:+: text.toList) :
    contains text marker = true := by
  unfold contains
  generalize text.toList = items at inside ⊢
  induction items with
  | nil =>
      rw [List.infix_nil.mp inside]
      rfl
  | cons char rest inductionHypothesis =>
      rw [splitOnce?]
      split_ifs with starts
      · rfl
      · rw [Option.isSome_map]
        exact
          inductionHypothesis
            ((List.infix_cons_iff.mp inside).resolve_left starts)

/-- A path in front of a file contains the path of consecutive segments. -/
theorem contains_path_iff
    {leading : String}
    {segments others : List String}
    {file : String}
    (leadingFree : '/' ∉ leading.toList)
    (segmentsFree : SlashFree segments)
    (othersFree : SlashFree others)
    (fileFree : '/' ∉ file.toList) :
    contains (path (leading :: segments) ++ file) ("/" ++ path others) =
        true ↔
      others <:+: segments := by
  have marker : ("/" ++ path others).toList = '/' :: (path others).toList := by
    simp
  unfold contains
  rw [marker]
  induction segments generalizing leading with
  | nil =>
      have starts :
          startsWith (path [] ++ file) (path others) = true ↔
            others <+: [] :=
        startsWith_path_iff segmentsFree othersFree (Or.inr fileFree)
      have absent :
          splitOnce? ('/' :: (path others).toList)
            (path [] ++ file).toList = none := by
        rw [path, String.empty_append]
        exact splitOnce?_eq_none List.mem_cons_self fileFree
      rw [startsWith_iff] at starts
      rw [toList_path_cons, splitOnce?_opened leadingFree, absent]
      split_ifs with found
      · simpa using starts.mp found
      · simpa using fun isNil => found (starts.mpr (by simp [isNil]))
  | cons segment rest inductionHypothesis =>
      obtain ⟨segmentFree, restFree⟩ := List.forall_mem_cons.mp segmentsFree
      have starts :
          startsWith (path (segment :: rest) ++ file) (path others) = true ↔
            others <+: segment :: rest :=
        startsWith_path_iff segmentsFree othersFree (Or.inr fileFree)
      rw [startsWith_iff] at starts
      rw [toList_path_cons, splitOnce?_opened leadingFree,
        List.infix_cons_iff, ← starts]
      split_ifs with found
      · exact iff_of_true rfl (Or.inl found)
      · have later := inductionHypothesis segmentFree restFree
        rw [Option.isSome_map]
        exact later.trans (or_iff_right found).symm

/-- The end of a field lies in its value, unless it has the separator. -/
theorem suffix_of_suffix_field
    {name segment value : List Char}
    {separator : Char}
    (free : separator ∉ name)
    (isEnd : name <:+ segment ++ separator :: value) :
    name <:+ value := by
  have valueEnd : value <:+ segment ++ separator :: value :=
    List.suffix_append_of_suffix (List.suffix_cons _ _)
  rcases Nat.lt_or_ge value.length name.length with longer | short
  · have closed :
        separator :: value <:+ segment ++ separator :: value :=
      List.suffix_append _ _
    have reaches :=
      List.suffix_of_suffix_length_le closed isEnd (by simpa)
    exact (free (reaches.subset List.mem_cons_self)).elim
  · exact List.suffix_of_suffix_length_le isEnd valueEnd short

section Numbers

/-- An integer that fits into 64 bits. -/
def checkedI64 (value : Int) : Option Int :=
  if i64Min ≤ value ∧ value ≤ i64Max then some value else none

/-- The number of a nonempty sequence of digits. -/
def parseDigits? (digits : List Char) : Option Nat :=
  if digits ≠ [] ∧ digits.all Char.isDigit then
    some (Nat.ofDigitChars 10 digits 0)
  else
    none

/-- A padded numeral parses to its number. -/
theorem parseDigits?_zeroPadded
    (width number : Nat) :
    parseDigits? (zeroPadded width number).toList = some number := by
  have nonempty : (zeroPadded width number).toList ≠ [] := by
    simp [zeroPadded, List.leftpad]
  have digits :
      (zeroPadded width number).toList.all Char.isDigit = true :=
    List.all_eq_true.mpr fun _ => isDigit_of_mem_zeroPadded
  rw [parseDigits?, if_pos ⟨nonempty, digits⟩, ofDigitChars_zeroPadded]

/-- Parse a signed decimal numeral of 64 bits. -/
def parseI64? (text : List Char) : Option Int :=
  if text.head? = some '-' then
    (parseDigits? text.tail).bind fun value => checkedI64 (-value)
  else if text.head? = some '+' then
    (parseDigits? text.tail).bind fun value => checkedI64 value
  else
    (parseDigits? text).bind fun value => checkedI64 value

/-- The digits of a number parse to the number. -/
theorem parseI64?_toString
    {number : Nat}
    (fits : (number : Int) ≤ i64Max) :
    parseI64? (toString number).toList = some (number : Int) := by
  have text : (toString number).toList = Nat.toDigits 10 number := by
    change (Nat.repr number).toList = _
    rw [Nat.repr_eq_ofList_toDigits, String.toList_ofList]
  have digits : ∀ char ∈ Nat.toDigits 10 number, char.isDigit = true :=
    fun char => Nat.isDigit_of_mem_toDigits (by decide) (by decide)
  have leading
      {sign : Char}
      (notDigit : sign.isDigit = false) :
      (Nat.toDigits 10 number).head? ≠ some sign := by
    intro isFirst
    have digit := digits sign (List.mem_of_head? isFirst)
    rw [notDigit] at digit
    cases digit
  have parsed :
      parseDigits? (Nat.toDigits 10 number) = some number := by
    have nonempty : Nat.toDigits 10 number ≠ [] :=
      Nat.toDigits_ne_nil
    rw [parseDigits?, if_pos ⟨nonempty, List.all_eq_true.mpr digits⟩,
      Nat.ofDigitChars_ten_toDigits]
  rw [text, parseI64?, if_neg (leading (by decide)),
    if_neg (leading (by decide)), parsed, Option.bind_some, checkedI64,
    if_pos ⟨by simp only [i64Min]; omega, fits⟩]

end Numbers

end MarketIngest.Text
