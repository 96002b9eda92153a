import MarketIngest.OrderedMap
import MarketIngest.Text

namespace MarketIngest.S3

/-!
# A bucket of JSON objects

A bucket maps keys to documents.  A PUT has an outcome chosen by the network:
it can be stored or not, and the caller can learn of it or not.  A conditional
PUT compares the document it expects with the one it would replace.
-/

/-- A scalar field of a document. -/
inductive JsonScalar where
  | null
  | i64 (value : Int)
  | text (value : String)
  deriving Repr, DecidableEq

/-- The scalar fields of a JSON object. -/
abbrev JsonDocument := List (String × JsonScalar)

/-- The text in a field. -/
def JsonDocument.asStr
    (document : JsonDocument)
    (field : String) : Option String :=
  match document.lookup field with
  | some (.text value) => some value
  | _ => none

/-- The integer in a field. -/
def JsonDocument.asI64
    (document : JsonDocument)
    (field : String) : Option Int :=
  match document.lookup field with
  | some (.i64 value) => some value
  | _ => none

/-- Objects of one bucket by key. -/
abbrev Bucket := OrderedMap String JsonDocument

/-- What happens to one PUT, retries included. -/
inductive PutOutcome where
  | stored
  | rejected
  | storedUnacknowledged
  deriving Repr, DecidableEq

/-- The object is in the bucket afterwards. -/
def PutOutcome.applied : PutOutcome → Bool
  | .stored => true
  | .rejected => false
  | .storedUnacknowledged => true

/-- The caller sees success. -/
def PutOutcome.acknowledged : PutOutcome → Bool
  | .stored => true
  | .rejected => false
  | .storedUnacknowledged => false

/-- An acknowledged PUT was stored. -/
theorem PutOutcome.applied_of_acknowledged
    {outcome : PutOutcome}
    (acknowledged : outcome.acknowledged = true) :
    outcome.applied = true := by
  cases outcome with
  | stored =>
      rfl
  | rejected =>
      cases acknowledged
  | storedUnacknowledged =>
      rfl

/-- Replace an object without a condition. -/
def uploadJson
    (bucket : Bucket)
    (key : String)
    (document : JsonDocument)
    (outcome : PutOutcome) : Bucket × Bool :=
  (if outcome.applied then bucket.insert key document else bucket,
    outcome.acknowledged)

/-- Identity of the stored version of an object. -/
def headEtag (bucket : Bucket) (key : String) : Option JsonDocument :=
  bucket.get? key

/-- Replace an object if its stored version is still the expected one. -/
def putObjectGuarded
    (bucket : Bucket)
    (key : String)
    (document : JsonDocument)
    (expectedEtag : Option JsonDocument)
    (outcome : PutOutcome) : Bucket × Bool :=
  if headEtag bucket key = expectedEtag then
    uploadJson bucket key document outcome
  else
    (bucket, false)

/-- Read the version of a pointer and replace exactly that version. -/
def uploadJsonIfPointerCurrent
    (bucket : Bucket)
    (key : String)
    (document : JsonDocument)
    (outcome : PutOutcome) : Bucket × Bool :=
  putObjectGuarded bucket key document (headEtag bucket key) outcome

/-- Without a writer in between, the condition of a pointer PUT is met. -/
theorem uploadJsonIfPointerCurrent_eq
    (bucket : Bucket)
    (key : String)
    (document : JsonDocument)
    (outcome : PutOutcome) :
    uploadJsonIfPointerCurrent bucket key document outcome =
      uploadJson bucket key document outcome := by
  simp [uploadJsonIfPointerCurrent, putObjectGuarded]

/-- A PUT changes its own key only, and only when it is stored. -/
theorem uploadJson_get?
    (bucket : Bucket)
    (key other : String)
    (document : JsonDocument)
    (outcome : PutOutcome) :
    (uploadJson bucket key document outcome).1.get? other =
      if other = key ∧ outcome.applied = true then
        some document
      else
        bucket.get? other := by
  unfold uploadJson
  by_cases applied : outcome.applied = true
  · simp [applied, OrderedMap.get?_insert]
  · simp [applied]

/-- A PUT leaves the other keys unchanged. -/
theorem uploadJson_get?_other
    (bucket : Bucket)
    {key other : String}
    (differs : other ≠ key)
    (document : JsonDocument)
    (outcome : PutOutcome) :
    (uploadJson bucket key document outcome).1.get? other =
      bucket.get? other := by
  rw [uploadJson_get?, if_neg (fun both => differs both.1)]

/-- A PUT reports whether it was acknowledged. -/
@[simp] theorem uploadJson_acknowledged
    (bucket : Bucket)
    (key : String)
    (document : JsonDocument)
    (outcome : PutOutcome) :
    (uploadJson bucket key document outcome).2 = outcome.acknowledged :=
  rfl

/-- The first keys below a prefix, ascending. -/
def listKeysPage
    (bucket : Bucket)
    (keyPrefix : String)
    (maxKeys : Nat) : List String :=
  (bucket.keys.filter (fun key => Text.startsWith key keyPrefix)).take
    maxKeys

end MarketIngest.S3
