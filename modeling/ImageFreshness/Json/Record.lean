import ImageFreshness.Json.Value

/-!
# Records in a JSON value

A record is an object, whose unknown members do not count, or an array that lists its fields in
order.  Fields that are missing keep the value they have in the record that decoding starts from.
-/

namespace ImageFreshness.Json

def string? : Json → Option String
  | .string s => some s
  | _ => none

def list? {α : Type} (decode : Json → Option α) : Json → Option (List α)
  | .array items => items.mapM decode
  | _ => none

def members? : Json → Option (List (String × Json))
  | .object members => some members
  | _ => none

/-- The members that a value has, each of them a string; of several members of one name the last
    one counts. -/
def dictionary? (value : Json) : Option (List (String × String)) := do
  let members ← members? value
  let entries ← members.mapM fun (name, value) => (string? value).map (name, ·)
  return entries.foldr
    (fun (name, s) acc => if acc.any (·.1 = name) then acc else (name, s) :: acc) []

/-- A field of a record: its name, how its value is decoded, and where the record has it. -/
structure RecordField (σ : Type) where
  {α : Type}
  name : String
  decode : Json → Option α
  get : σ → α
  set : σ → α → σ

def RecordField.read {σ : Type} (field : RecordField σ) (record : σ) (value : Json) : Option σ :=
  (field.decode value).map (field.set record)

/-- Fills the fields from the members of an object.  A field may be given once. -/
def fillByName {σ : Type} (fields : List (RecordField σ)) :
    List String → σ → List (String × Json) → Option σ
  | _, record, [] => some record
  | seen, record, (name, value) :: rest =>
    match fields.find? (·.name = name) with
    | none => fillByName fields seen record rest
    | some field =>
      if name ∈ seen then none
      else do fillByName fields (name :: seen) (← field.read record value) rest

/-- Fills the fields in order from the items of an array, which may be fewer but not more. -/
def fillInOrder {σ : Type} : List (RecordField σ) → σ → List Json → Option σ
  | _, record, [] => some record
  | [], _, _ :: _ => none
  | field :: fields, record, value :: rest => do
    fillInOrder fields (← field.read record value) rest

def record? {σ : Type} (fields : List (RecordField σ)) (start : σ) : Json → Option σ
  | .object members => fillByName fields [] start members
  | .array items => fillInOrder fields start items
  | _ => none

end ImageFreshness.Json
