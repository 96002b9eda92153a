import MarketIngest.OrderedMap
import MarketIngest.Payload
import MarketIngest.Text

namespace MarketIngest.Wire

open Normalize (Codec JsonValue)

/-!
# JSON texts of messages

Messages are decoded into structures field by field.  Fields may come in any
order, and unknown ones are skipped.  An array stands for a structure if it has
exactly the fields in their order.
-/

/-- The library functions that also write JSON texts. -/
structure WireCodec (Number : Type) extends Codec Number where
  toString : JsonValue Number → String
  asI64 : Number → Option Int
  ofInteger : Int → Number

variable {Number Value : Type}

/-- The number, if it is one. -/
def asNumber (value : JsonValue Number) : Option Number :=
  match value with
  | .number number => some number
  | _ => none

/-- The items, if it is an array. -/
def asArray (value : JsonValue Number) : Option (List (JsonValue Number)) :=
  match value with
  | .array items => some items
  | _ => none

/-- The whole number, if it is one. -/
def WireCodec.asInteger
    (codec : WireCodec Number)
    (value : JsonValue Number) : Option Int :=
  (asNumber value).bind codec.asI64

/-- The fields of a structure. -/
def structFields
    (names : List String)
    (value : JsonValue Number) : Option (List (String × JsonValue Number)) :=
  match value with
  | .object fields => some fields
  | .array items =>
      if items.length = names.length then some (names.zip items) else none
  | _ => none

/-- A field that must be there. -/
def requiredField
    (decode : JsonValue Number → Option Value)
    (fields : List (String × JsonValue Number))
    (name : String) : Option Value := do
  decode (← fields.lookup name)

/-- A field that may be missing or null. -/
def optionalField
    (decode : JsonValue Number → Option Value)
    (fields : List (String × JsonValue Number))
    (name : String) : Option (Option Value) :=
  match fields.lookup name with
  | none => some none
  | some .null => some none
  | some value => (decode value).map some

/-- A list that may be missing, but not null. -/
def defaultedList
    (decode : JsonValue Number → Option Value)
    (fields : List (String × JsonValue Number))
    (name : String) : Option (List Value) :=
  match fields.lookup name with
  | none => some []
  | some value => do (← asArray value).mapM decode

/-- An object; its fields are in the order of their names. -/
def jsonObject
    (fields : List (String × JsonValue Number)) : JsonValue Number :=
  .object
    (fields.foldl (fun object field => object.insert field.1 field.2)
      OrderedMap.empty).entries

/-- A whole number. -/
def WireCodec.integer
    (codec : WireCodec Number)
    (value : Int) : JsonValue Number :=
  .number (codec.ofInteger value)

/-- A whole number that may be missing. -/
def WireCodec.optionalInteger
    (codec : WireCodec Number)
    (value : Option Int) : JsonValue Number :=
  value.elim .null codec.integer

end MarketIngest.Wire
