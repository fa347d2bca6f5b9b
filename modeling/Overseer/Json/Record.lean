import Overseer.Json.Basic

/-!
# Records

Reading typed records.  A record is an object with the names of its fields, of which others are
passed over, or an array of the values in the order of the fields.

A field may be missing, and then it is up to the record whether that is an error or a default.
Where a name stands twice the first field counts.
-/

namespace Overseer.Json

/-- The values of a record by the names of its fields. -/
def recordFields? (v : Json) (names : List String) : Option (String → Option Json) :=
  match v with
  | .object fields => some fun name => (fields.find? (·.1 == name)).map (·.2)
  | .array items => some fun name => ((names.zip items).find? (·.1 == name)).map (·.2)
  | _ => none

/-- A value that must be there. -/
def required {α : Type} (read : Json → Option α) (v : Option Json) : Option α := v.bind read

/-- A value that may be missing. -/
def orDefault {α : Type} (default : α) (read : Json → Option α) : Option Json → Option α
  | none => some default
  | some v => read v

/-- A value that may be missing or null. -/
def optional {α : Type} (read : Json → Option α) : Option Json → Option (Option α)
  | none => some none
  | some .null => some none
  | some v => (read v).map some

/-- The texts of an array. -/
def asStrings? (v : Json) : Option (List String) := do (← v.asArray?).mapM asString?

/-- A natural number of at most 64 bits. -/
def asNat64? (v : Json) : Option Nat := do
  let n ← v.asInt?
  if 0 ≤ n && n < Int.pow 2 64 then some n.toNat else none

end Overseer.Json
