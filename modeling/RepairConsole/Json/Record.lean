import RepairConsole.Json.Value
/-!
# Records in JSON

A record type is described by its fields, in order: the name that a member has and what its
value does to a record. From that one description a record is read from an object, by name,
or from an array, by position. What is left out keeps the value it has in a blank record.
-/

namespace RepairConsole.Json

/-! ## Plain values -/

def asText? : Json → Option String
  | text value => value
  | _ => none

def asBool? : Json → Option Bool
  | bool value => some value
  | _ => none

def asFloat? : Json → Option Float
  | number value => value.toFloat?
  | _ => none

def asInt64? : Json → Option Int
  | number value => value.toInt64?
  | _ => none

/-- The items of an array, each read by `item`. -/
def asList? {α : Type} (item : Json → Option α) : Json → Option (List α)
  | array items => items.mapM item
  | _ => none

/-- A value that may be absent. -/
def asOptional? {α : Type} (value : Json → Option α) : Json → Option (Option α)
  | null => some none
  | json => (value json).map some

/-! ## Records -/

/-- A field of a record type: its name, and how its value is put into a record. -/
structure Field (α : Type) where
  name : String
  put : Json → α → Option α

/-- A field that holds what `read` makes of the value. -/
def Field.of {α β : Type} (name : String) (read : Json → Option β) (set : β → α → α) : Field α :=
  ⟨name, fun json record => (read json).map (set · record)⟩

/-- Puts the members of an object into a record. `seen` holds the fields met before; no
field may be met twice. A member of an unknown name is passed over, but its name must be
text. -/
def putMembers {α : Type} (fields : List (Field α)) (seen : List String) (record : α) :
    List (Option String × Json) → Option α
  | [] => some record
  | (none, _) :: _ => none
  | (some name, value) :: rest =>
    match fields.find? (·.name == name) with
    | none => putMembers fields seen record rest
    | some field =>
      if seen.contains name then none
      else
        match field.put value record with
        | none => none
        | some record => putMembers fields (name :: seen) record rest

/-- Puts the items of an array into the fields in their order. There may be fewer items than
fields, but not more. -/
def putItems {α : Type} (record : α) : List (Field α) → List Json → Option α
  | _, [] => some record
  | [], _ :: _ => none
  | field :: fields, item :: items =>
    match field.put item record with
    | none => none
    | some record => putItems record fields items

/-- The record that a value describes. -/
def asRecord? {α : Type} (fields : List (Field α)) (blank : α) : Json → Option α
  | object members => putMembers fields [] blank members
  | array items => putItems blank fields items
  | _ => none

end RepairConsole.Json
