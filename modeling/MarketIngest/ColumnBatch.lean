import Mathlib.Algebra.Ring.Nat
import Mathlib.Data.List.Basic

namespace MarketIngest.Columnar

/-!
# Batches of named columns

A batch has a schema, which names the columns and gives their types, and one
column for each field of the schema.  A writer lines up its columns with the
schema by position, and a reader finds a column by name.  A file is read back
in batches of consecutive rows.
-/

/-- The type of a column. -/
inductive DataType where
  | utf8
  | int64
  | boolean
  deriving Repr, DecidableEq

/-- The cells of a column, which may be null. -/
inductive ColumnArray where
  | utf8 (cells : List (Option String))
  | int64 (cells : List (Option Int))
  | boolean (cells : List (Option Bool))
  deriving Repr, DecidableEq

namespace ColumnArray

/-- The type of the cells. -/
def dataType : ColumnArray → DataType
  | utf8 _ => .utf8
  | int64 _ => .int64
  | boolean _ => .boolean

/-- The number of cells. -/
def length : ColumnArray → Nat
  | utf8 cells => cells.length
  | int64 cells => cells.length
  | boolean cells => cells.length

/-- Some cell is null. -/
def hasNull : ColumnArray → Bool
  | utf8 cells => cells.any Option.isNone
  | int64 cells => cells.any Option.isNone
  | boolean cells => cells.any Option.isNone

/-- The first cells. -/
def take (count : Nat) : ColumnArray → ColumnArray
  | utf8 cells => utf8 (cells.take count)
  | int64 cells => int64 (cells.take count)
  | boolean cells => boolean (cells.take count)

/-- The cells after the first ones. -/
def drop (count : Nat) : ColumnArray → ColumnArray
  | utf8 cells => utf8 (cells.drop count)
  | int64 cells => int64 (cells.drop count)
  | boolean cells => boolean (cells.drop count)

/-- The cells, if they are texts. -/
def asUtf8 : ColumnArray → Option (List (Option String))
  | utf8 cells => some cells
  | _ => none

/-- The cells, if they are integers. -/
def asInt64 : ColumnArray → Option (List (Option Int))
  | int64 cells => some cells
  | _ => none

/-- The cells, if they are truth values. -/
def asBoolean : ColumnArray → Option (List (Option Bool))
  | boolean cells => some cells
  | _ => none

@[simp] theorem dataType_take
    (count : Nat)
    (column : ColumnArray) :
    (column.take count).dataType = column.dataType := by
  cases column <;> rfl

@[simp] theorem dataType_drop
    (count : Nat)
    (column : ColumnArray) :
    (column.drop count).dataType = column.dataType := by
  cases column <;> rfl

@[simp] theorem length_take
    (count : Nat)
    (column : ColumnArray) :
    (column.take count).length = min count column.length := by
  cases column <;> simp [take, length]

@[simp] theorem length_drop
    (count : Nat)
    (column : ColumnArray) :
    (column.drop count).length = column.length - count := by
  cases column <;> simp [drop, length]

/-- A null among the first cells is a null of the column. -/
theorem hasNull_of_take
    {count : Nat}
    {column : ColumnArray}
    (null : (column.take count).hasNull = true) :
    column.hasNull = true := by
  cases column <;>
    · simp only [take, hasNull, List.any_eq_true] at null ⊢
      obtain ⟨cell, member, isNone⟩ := null
      exact ⟨cell, List.mem_of_mem_take member, isNone⟩

/-- A null among the last cells is a null of the column. -/
theorem hasNull_of_drop
    {count : Nat}
    {column : ColumnArray}
    (null : (column.drop count).hasNull = true) :
    column.hasNull = true := by
  cases column <;>
    · simp only [drop, hasNull, List.any_eq_true] at null ⊢
      obtain ⟨cell, member, isNone⟩ := null
      exact ⟨cell, List.mem_of_mem_drop member, isNone⟩

end ColumnArray

/-- The name and the type of a column. -/
structure Field where
  name : String
  dataType : DataType
  nullable : Bool
  deriving Repr, DecidableEq

/-- The columns are what the schema says, with a common number of rows. -/
structure Accepts
    (schema : List Field)
    (columns : List ColumnArray)
    (rowCount : Nat) : Prop where
  types : columns.map ColumnArray.dataType = schema.map Field.dataType
  lengths : ∀ column ∈ columns, column.length = rowCount
  nulls :
    ∀ entry ∈ schema.zip columns,
      entry.2.hasNull = true → entry.1.nullable = true

/-- Whether columns are accepted is decided check by check. -/
instance acceptsDecidable
    (schema : List Field)
    (columns : List ColumnArray)
    (rowCount : Nat) : Decidable (Accepts schema columns rowCount) :=
  decidable_of_iff
    (columns.map ColumnArray.dataType = schema.map Field.dataType ∧
      (∀ column ∈ columns, column.length = rowCount) ∧
      ∀ entry ∈ schema.zip columns,
        entry.2.hasNull = true → entry.1.nullable = true)
    ⟨fun ⟨types, lengths, nulls⟩ => ⟨types, lengths, nulls⟩,
      fun accepted => ⟨accepted.types, accepted.lengths, accepted.nulls⟩⟩

/-- Columns that their schema accepts. -/
@[ext] structure RecordBatch where
  schema : List Field
  columns : List ColumnArray
  rowCount : Nat
  accepted : Accepts schema columns rowCount

/-- Why columns do not make a batch. -/
inductive ArrowError where
  | columnCount (columns fields : Nat)
  | noColumns
  | nullValues (names : List String)
  | rowCount
  | columnTypes
  deriving Repr, DecidableEq

namespace RecordBatch

/-- The names of the fields that must not have nulls but do. -/
def nullFields
    (schema : List Field)
    (columns : List ColumnArray) : List String :=
  ((schema.zip columns).filter
    (fun entry => !entry.1.nullable && entry.2.hasNull)).map
    (fun entry => entry.1.name)

/-- Make a batch of columns; the first column gives the number of rows. -/
def tryNew
    (schema : List Field)
    (columns : List ColumnArray) : Except ArrowError RecordBatch :=
  if schema.length ≠ columns.length then
    .error (.columnCount columns.length schema.length)
  else
    match columns.head? with
    | none => .error .noColumns
    | some first =>
        if accepted : Accepts schema columns first.length then
          .ok ⟨schema, columns, first.length, accepted⟩
        else if nullFields schema columns ≠ [] then
          .error (.nullValues (nullFields schema columns))
        else if columns.any (fun column => column.length ≠ first.length) then
          .error .rowCount
        else
          .error .columnTypes

/-- The position of the first field of a name. -/
def indexOf (batch : RecordBatch) (name : String) : Option Nat :=
  (batch.schema.map Field.name).idxOf? name

/-- The column of a name. -/
def column? (batch : RecordBatch) (name : String) : Option ColumnArray :=
  (batch.indexOf name).bind (fun index => batch.columns[index]?)

/-- The first rows. -/
def take (count : Nat) (batch : RecordBatch) : RecordBatch where
  schema := batch.schema
  columns := batch.columns.map (ColumnArray.take count)
  rowCount := min count batch.rowCount
  accepted :=
    { types := by
        simpa [Function.comp_def] using batch.accepted.types
      lengths := by
        simp only [List.mem_map]
        rintro _ ⟨column, member, rfl⟩
        rw [ColumnArray.length_take, batch.accepted.lengths column member]
      nulls := by
        simp only [List.zip_map_right, List.mem_map]
        rintro _ ⟨entry, member, rfl⟩ null
        exact batch.accepted.nulls entry member
          (ColumnArray.hasNull_of_take null) }

/-- The rows after the first ones. -/
def drop (count : Nat) (batch : RecordBatch) : RecordBatch where
  schema := batch.schema
  columns := batch.columns.map (ColumnArray.drop count)
  rowCount := batch.rowCount - count
  accepted :=
    { types := by
        simpa [Function.comp_def] using batch.accepted.types
      lengths := by
        simp only [List.mem_map]
        rintro _ ⟨column, member, rfl⟩
        rw [ColumnArray.length_drop, batch.accepted.lengths column member]
      nulls := by
        simp only [List.zip_map_right, List.mem_map]
        rintro _ ⟨entry, member, rfl⟩ null
        exact batch.accepted.nulls entry member
          (ColumnArray.hasNull_of_drop null) }

/-- The batches in which the rows of a batch are read back. -/
def split : List Nat → RecordBatch → List RecordBatch
  | [], _ => []
  | size :: rest, batch => batch.take size :: split rest (batch.drop size)

end RecordBatch

section Writing

variable {Record : Type}

/-- How one column is filled from a record. -/
inductive Column (Record : Type) where
  | string (value : Record → String)
  | int64 (value : Record → Int)
  | int64Opt (value : Record → Option Int)
  | bool (value : Record → Bool)

namespace Column

/-- The type of the column. -/
def dataType : Column Record → DataType
  | string _ => .utf8
  | int64 _ => .int64
  | int64Opt _ => .int64
  | bool _ => .boolean

/-- The column may have nulls. -/
def optional : Column Record → Bool
  | int64Opt _ => true
  | _ => false

/-- The column of some records. -/
def array (records : List Record) : Column Record → ColumnArray
  | string value => .utf8 (records.map (fun record => some (value record)))
  | int64 value => .int64 (records.map (fun record => some (value record)))
  | int64Opt value => .int64 (records.map value)
  | bool value => .boolean (records.map (fun record => some (value record)))

@[simp] theorem dataType_array
    (records : List Record)
    (column : Column Record) :
    (column.array records).dataType = column.dataType := by
  cases column <;> rfl

@[simp] theorem length_array
    (records : List Record)
    (column : Column Record) :
    (column.array records).length = records.length := by
  cases column <;> simp [array, ColumnArray.length]

/-- Only an optional column has nulls. -/
theorem optional_of_hasNull
    {records : List Record}
    {column : Column Record}
    (null : (column.array records).hasNull = true) :
    column.optional = true := by
  cases column <;>
    simp_all [array, ColumnArray.hasNull, optional]

/-- The first cells are those of the first records. -/
theorem take_array
    (count : Nat)
    (records : List Record)
    (column : Column Record) :
    (column.array records).take count =
      column.array (records.take count) := by
  cases column <;> simp [array, ColumnArray.take, List.map_take]

/-- The other cells are those of the other records. -/
theorem drop_array
    (count : Nat)
    (records : List Record)
    (column : Column Record) :
    (column.array records).drop count =
      column.array (records.drop count) := by
  cases column <;> simp [array, ColumnArray.drop, List.map_drop]

end Column

/-- Fields and columns that line up position by position. -/
structure Layout (Record : Type) where
  schema : List Field
  columns : List (Column Record)
  nonempty : columns ≠ []
  types : columns.map Column.dataType = schema.map Field.dataType
  nulls :
    columns.map Column.optional = schema.map Field.nullable

namespace Layout

variable (layout : Layout Record)

/-- The schema accepts the columns of any records. -/
theorem accepts (records : List Record) :
    Accepts layout.schema
      (layout.columns.map (Column.array records)) records.length where
  types := by
    simpa [Function.comp_def] using layout.types
  lengths := by
    simp only [List.mem_map]
    rintro _ ⟨column, _, rfl⟩
    exact Column.length_array records column
  nulls := by
    simp only [List.zip_map_right, List.mem_map]
    rintro _ ⟨⟨field, column⟩, member, rfl⟩ null
    have optional := Column.optional_of_hasNull null
    obtain ⟨index, bound, atIndex⟩ := List.getElem_of_mem member
    have aligned := congrArg (fun flags => flags[index]?) layout.nulls
    simp only [List.length_zip, Nat.lt_min] at bound
    simp only [List.getElem_zip, Prod.mk.injEq] at atIndex
    simp only [List.getElem?_map, List.getElem?_eq_getElem bound.1,
      List.getElem?_eq_getElem bound.2, Option.map_some,
      Option.some.injEq] at aligned
    rw [atIndex.1, atIndex.2] at aligned
    exact aligned.symm.trans optional

/-- The batch of some records. -/
def batch (records : List Record) : RecordBatch where
  schema := layout.schema
  columns := layout.columns.map (Column.array records)
  rowCount := records.length
  accepted := layout.accepts records

/-- Fields and columns are equally many. -/
theorem length_eq : layout.schema.length = layout.columns.length := by
  simpa using (congrArg List.length layout.types).symm

/-- Writing the columns of records succeeds. -/
theorem tryNew_eq (records : List Record) :
    RecordBatch.tryNew layout.schema
        (layout.columns.map (Column.array records)) =
      .ok (layout.batch records) := by
  obtain ⟨first, rest, shape⟩ := List.exists_cons_of_ne_nil layout.nonempty
  have head :
      (layout.columns.map (Column.array records)).head? =
        some (first.array records) := by
    rw [shape, List.map_cons, List.head?_cons]
  have accepted :
      Accepts layout.schema (layout.columns.map (Column.array records))
        (first.array records).length := by
    rw [Column.length_array]
    exact layout.accepts records
  unfold RecordBatch.tryNew
  rw [if_neg (by simp [layout.length_eq]), head]
  simp only [dif_pos accepted]
  congr 1
  exact RecordBatch.ext rfl rfl (Column.length_array records first)

/-- The column that is filled for a name. -/
def column? (name : String) : Option (Column Record) :=
  ((layout.schema.map Field.name).zip layout.columns).lookup name

/-- The first position of a name is where a lookup finds it. -/
private theorem idxOf?_bind_getElem?
    {Value : Type}
    {names : List String}
    {values : List Value}
    (sameLength : names.length = values.length)
    (name : String) :
    (names.idxOf? name).bind (fun index => values[index]?) =
      (names.zip values).lookup name := by
  induction names generalizing values with
  | nil =>
      simp
  | cons head rest inductionHypothesis =>
      cases values with
      | nil =>
          simp at sameLength
      | cons value others =>
          rw [List.zip_cons_cons, List.lookup_cons, List.idxOf?_cons]
          by_cases same : head = name
          · simp [same]
          · have different : (name == head) = false := by
              simpa using fun equal => same equal.symm
            have differs : (head == name) = false := by
              simpa using same
            rw [different, differs]
            simp only [Bool.false_eq_true, ↓reduceIte]
            rw [← inductionHypothesis (by simpa using sameLength),
              Option.bind_map]
            rfl

/-- A reader finds the column that was filled for the name. -/
theorem column?_batch
    (records : List Record)
    (name : String) :
    (layout.batch records).column? name =
      (layout.column? name).map (Column.array records) := by
  have columns (index : Nat) :
      (layout.batch records).columns[index]? =
        layout.columns[index]?.map (Column.array records) :=
    List.getElem?_map
  unfold RecordBatch.column? RecordBatch.indexOf column?
  rw [← idxOf?_bind_getElem? (by simpa using layout.length_eq) name,
    Option.map_bind]
  exact congrArg _ (funext columns)

/-- A file of records is read back in batches of consecutive records. -/
theorem split_batch
    (sizes : List Nat)
    (records : List Record) :
    ∃ parts : List (List Record),
      (layout.batch records).split sizes = parts.map layout.batch ∧
        parts.flatten = records.take sizes.sum := by
  induction sizes generalizing records with
  | nil =>
      exact ⟨[], rfl, by simp⟩
  | cons size rest inductionHypothesis =>
      obtain ⟨parts, split, flat⟩ := inductionHypothesis (records.drop size)
      refine ⟨records.take size :: parts, ?_, ?_⟩
      · have front :
            (layout.batch records).take size =
              layout.batch (records.take size) :=
          RecordBatch.ext rfl
            (by simp [RecordBatch.take, batch, Column.take_array])
            (by simp [RecordBatch.take, batch])
        have back :
            (layout.batch records).drop size =
              layout.batch (records.drop size) :=
          RecordBatch.ext rfl
            (by simp [RecordBatch.drop, batch, Column.drop_array])
            (by simp [RecordBatch.drop, batch])
        rw [RecordBatch.split, front, back, split, List.map_cons]
      · rw [List.flatten_cons, flat, List.sum_cons, List.take_add]

end Layout

end Writing

end MarketIngest.Columnar
