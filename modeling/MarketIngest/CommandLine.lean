import Mathlib.Data.List.Basic

namespace MarketIngest.CommandLine

/-!
# Command lines

A program goes through the words of its command line.  A word is a flag, or it
is an option that takes the next word as its value, or it asks for help, which
ends the reading.  Each option changes the record of the arguments.

Words that another program writes are read one option after the other.  A
property of the record that no option breaks holds of every accepted record.
-/

variable {Record Failure : Type}

/-- What a word of the command line does. -/
inductive Action (Record Failure : Type) where
  | flag (set : Record → Record)
  | value
      (missing : Failure)
      (read : String → Except Failure (Record → Record))

/-- Whatever the word stores, it keeps a property of the record. -/
def Action.Keeps
    (property : Record → Prop) :
    Action Record Failure → Prop
  | .flag set => ∀ record, property record → property (set record)
  | .value _ read =>
      ∀ text set,
        read text = .ok set →
        ∀ record, property record → property (set record)

/-- Read a value and store it. -/
def storing
    {Value : Type}
    (read : String → Except Failure Value)
    (store : Value → Record → Record) :
    String → Except Failure (Record → Record) :=
  fun text => (read text).map store

/-- Store a word as it stands. -/
def storingText
    (store : String → Record → Record) :
    String → Except Failure (Record → Record) :=
  fun text => .ok (store text)

/-- The options of a program, and the error of an unknown one. -/
structure Grammar (Record Failure : Type) where
  options : List (String × Action Record Failure)
  unknown : String → Failure

/-- The word asks for help. -/
def isHelp (word : String) : Bool :=
  word = "-h" || word = "--help"

namespace Grammar

variable (grammar : Grammar Record Failure)

/-- Go through the words; nothing is returned if help is asked for. -/
def parseFrom :
    List String → Record → Except Failure (Option Record)
  | [], record => .ok (some record)
  | word :: rest, record =>
      if isHelp word then
        .ok none
      else
        match grammar.options.lookup word with
        | none => .error (grammar.unknown word)
        | some (.flag set) => parseFrom rest (set record)
        | some (.value missing read) =>
            match rest with
            | [] => .error missing
            | text :: rest =>
                match read text with
                | .error failure => .error failure
                | .ok set => parseFrom rest (set record)

/-- Read a command line and check the arguments at its end. -/
def parse
    (defaults : Record)
    (complete : Record → Except Failure Record)
    (words : List String) : Except Failure (Option Record) :=
  match grammar.parseFrom words defaults with
  | .error failure => .error failure
  | .ok none => .ok none
  | .ok (some record) => (complete record).map some

/-- Nothing that an option stores breaks a property of the record. -/
def Keeps (property : Record → Prop) : Prop :=
  ∀ option ∈ grammar.options, option.2.Keeps property

end Grammar

variable {grammar : Grammar Record Failure}

section Writing

variable
  {Value : Type}
  {read : String → Except Failure Value}
  {store : Value → Record → Record}

/-- A value that is read is stored. -/
theorem storing_eq
    {text : String}
    {value : Value}
    (reads : read text = .ok value) :
    storing read store text = .ok (store value) := by
  rw [storing, reads]
  rfl

/-- A value that is refused is not stored. -/
theorem storing_error
    {text : String}
    {failure : Failure}
    (refused : read text = .error failure) :
    storing read store text = .error failure := by
  rw [storing, refused]
  rfl

/-- The words of an option that may be missing. -/
def optionWords (word : String) : Option String → List String
  | some text => [word, text]
  | none => []

namespace Grammar

variable
  {word text : String}
  {missing : Failure}
  {rest : List String}
  {record : Record}

/-- A flag is read before the rest. -/
theorem parseFrom_flag
    {set : Record → Record}
    (notHelp : isHelp word = false)
    (found : grammar.options.lookup word = some (.flag set)) :
    grammar.parseFrom (word :: rest) record =
      grammar.parseFrom rest (set record) := by
  rw [parseFrom, notHelp]
  simp only [found, Bool.false_eq_true, ↓reduceIte]

/-- An option with a value is read before the rest. -/
theorem parseFrom_value
    {read : String → Except Failure (Record → Record)}
    {set : Record → Record}
    (notHelp : isHelp word = false)
    (found : grammar.options.lookup word = some (.value missing read))
    (stored : read text = .ok set) :
    grammar.parseFrom (word :: text :: rest) record =
      grammar.parseFrom rest (set record) := by
  rw [parseFrom, notHelp]
  simp only [found, stored, Bool.false_eq_true, ↓reduceIte]

/-- A value that is refused ends the reading. -/
theorem parseFrom_value_error
    {read : String → Except Failure (Record → Record)}
    {failure : Failure}
    (notHelp : isHelp word = false)
    (found : grammar.options.lookup word = some (.value missing read))
    (refused : read text = .error failure) :
    grammar.parseFrom (word :: text :: rest) record = .error failure := by
  rw [parseFrom, notHelp]
  simp only [found, refused, Bool.false_eq_true, ↓reduceIte]

/-- An option that may be missing is read if what it holds is. -/
theorem parseFrom_optionWords
    {Kept : Type}
    {write : Kept → String}
    {store : Kept → Record → Record}
    {read : String → Except Failure (Record → Record)}
    {value : Option Kept}
    (notHelp : isHelp word = false)
    (found :
      grammar.options.lookup word = some (.value missing read))
    (stored : ∀ kept ∈ value, read (write kept) = .ok (store kept)) :
    grammar.parseFrom (optionWords word (value.map write) ++ rest) record =
      grammar.parseFrom rest
        (value.elim record (fun kept => store kept record)) := by
  cases value with
  | none =>
      rfl
  | some kept =>
      exact parseFrom_value notHelp found (stored kept rfl)

/-- A text that may be missing is read as it stands. -/
theorem parseFrom_optionText
    {store : String → Record → Record}
    {value : Option String}
    (notHelp : isHelp word = false)
    (found :
      grammar.options.lookup word =
        some (.value missing (storingText store))) :
    grammar.parseFrom (optionWords word value ++ rest) record =
      grammar.parseFrom rest
        (value.elim record (fun text => store text record)) := by
  cases value with
  | none =>
      rfl
  | some text =>
      exact parseFrom_value notHelp found rfl

/-- A reading that ends with an error refuses the line. -/
theorem parse_error
    {defaults : Record}
    {complete : Record → Except Failure Record}
    {words : List String}
    {failure : Failure}
    (refuses : grammar.parseFrom words defaults = .error failure) :
    grammar.parse defaults complete words = .error failure := by
  rw [parse, refuses]

/-- What is read without help and error is checked at the end. -/
theorem parse_eq
    {defaults : Record}
    {complete : Record → Except Failure Record}
    {words : List String}
    (reads : grammar.parseFrom words defaults = .ok (some record)) :
    grammar.parse defaults complete words = (complete record).map some := by
  rw [parse, reads]

end Grammar

end Writing

section Keeping

variable {property : Record → Prop}

/-- It is enough to look at the values that can be read. -/
theorem Action.keeps_storing
    {Value : Type}
    {missing : Failure}
    {read : String → Except Failure Value}
    {store : Value → Record → Record}
    (keeps :
      ∀ text value,
        read text = .ok value →
        ∀ record, property record → property (store value record)) :
    Action.Keeps property (.value missing (storing read store)) := by
  intro text set reads record holds
  unfold storing at reads
  cases value : read text with
  | error failure =>
      rw [value] at reads
      cases reads
  | ok stored =>
      rw [value] at reads
      cases reads
      exact keeps text stored value record holds

theorem Action.keeps_storingText
    {missing : Failure}
    {store : String → Record → Record}
    (keeps :
      ∀ text record, property record → property (store text record)) :
    Action.Keeps property (.value missing (storingText store)) := by
  intro text set reads record holds
  cases reads
  exact keeps text record holds

end Keeping

namespace Grammar.Keeps

variable {property : Record → Prop}

private theorem of_lookup
    {word : String}
    {action : Action Record Failure}
    (found : grammar.options.lookup word = some action) :
    ∃ name, (name, action) ∈ grammar.options := by
  generalize grammar.options = options at found
  induction options with
  | nil =>
      cases found
  | cons option rest inductionHypothesis =>
      rw [List.lookup_cons] at found
      split at found
      · cases found
        exact ⟨option.1, List.mem_cons_self⟩
      · obtain ⟨name, member⟩ := inductionHypothesis found
        exact ⟨name, List.mem_cons_of_mem _ member⟩

/-- What every option keeps holds of the record that a line makes. -/
theorem of_parseFrom
    (keeps : grammar.Keeps property)
    {words : List String}
    {record after : Record}
    (holds : property record)
    (reads : grammar.parseFrom words record = .ok (some after)) :
    property after := by
  induction words, record using Grammar.parseFrom.induct grammar with
  | case1 record =>
      cases reads
      exact holds
  | case2 word rest record asksHelp =>
      rw [parseFrom, if_pos asksHelp] at reads
      cases reads
  | case3 word rest record notHelp unknown =>
      rw [parseFrom, if_neg notHelp, unknown] at reads
      cases reads
  | case4 word rest record notHelp set found inductionHypothesis =>
      obtain ⟨name, member⟩ := of_lookup found
      rw [parseFrom, if_neg notHelp, found] at reads
      exact inductionHypothesis (keeps _ member record holds) reads
  | case5 word record notHelp missing read found =>
      rw [parseFrom, if_neg notHelp, found] at reads
      cases reads
  | case6 word record notHelp missing read found text rest failure fails =>
      rw [parseFrom, if_neg notHelp, found] at reads
      simp only [fails] at reads
      cases reads
  | case7 word record notHelp missing read found text rest set stored
      inductionHypothesis =>
      obtain ⟨name, member⟩ := of_lookup found
      rw [parseFrom, if_neg notHelp, found] at reads
      simp only [stored] at reads
      exact inductionHypothesis
        (keeps _ member text set stored record holds) reads

end Grammar.Keeps

/-- An accepted line has passed the check at its end. -/
theorem Grammar.of_parse
    {defaults accepted : Record}
    {complete : Record → Except Failure Record}
    {words : List String}
    (accepts :
      grammar.parse defaults complete words = .ok (some accepted)) :
    ∃ record,
      grammar.parseFrom words defaults = .ok (some record) ∧
        complete record = .ok accepted := by
  unfold Grammar.parse at accepts
  split at accepts
  · cases accepts
  · cases accepts
  · next record reads =>
      refine ⟨record, reads, ?_⟩
      cases completes : complete record with
      | error failure =>
          rw [completes] at accepts
          cases accepts
      | ok result =>
          rw [completes] at accepts
          cases accepts
          rfl

end MarketIngest.CommandLine
