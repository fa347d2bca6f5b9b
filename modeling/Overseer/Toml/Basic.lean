/-!
# TOML Values

Values of the TOML configuration format, and the document under construction: tables remember how
they came about, since that decides what may still be added to them.

The configuration of the program is written in this format.  Supervisors and runs know nothing of
it; how settings are looked up is stated for any format.
-/

namespace Overseer

/-- A TOML value.  Floats and times keep no more than their kind. -/
inductive Toml where
  | string (s : String)
  | integer (n : Int)
  | float
  | boolean (b : Bool)
  | time
  | array (items : List Toml)
  | table (fields : List (String × Toml))

namespace Toml

/-- How a table came about. -/
inductive TableOrigin where
  /-- On the way to another table. -/
  | implied
  /-- By a header of its own. -/
  | header
  /-- By a dotted key. -/
  | dotted
deriving DecidableEq

/-- A part of a document under construction. -/
inductive Part where
  | value (v : Toml)
  | table (origin : TableOrigin) (fields : List (String × Part))
  /-- Tables that share a header in double brackets. -/
  | tables (items : List (List (String × Part)))

/-- The fields of a table under construction. -/
abbrev Fields := List (String × Part)

/-- The field with a name. -/
def Fields.get? (fields : Fields) (name : String) : Option Part :=
  (fields.find? (·.1 == name)).map (·.2)

/-- Puts a field, in the stead of the one with its name. -/
def Fields.set : Fields → String → Part → Fields
  | [], name, part => [(name, part)]
  | (other, p) :: fields, name, part =>
    if other == name then (name, part) :: fields else (other, p) :: Fields.set fields name part

/-! ## Headers -/

/-- Goes down the names of a header and changes the fields of the last table; tables that are
missing on the way are implied. -/
def updateAt (change : Fields → Option Fields) : List String → Fields → Option Fields
  | [], fields => change fields
  | name :: names, fields =>
    match fields.get? name with
    | none => do
      let inner ← updateAt change names []
      some (fields.set name (.table .implied inner))
    | some (.table origin inner) => do
      let inner ← updateAt change names inner
      some (fields.set name (.table origin inner))
    | some (.tables items) =>
      match items.getLast? with
      | none => none
      | some inner => do
        let inner ← updateAt change names inner
        some (fields.set name (.tables (items.dropLast ++ [inner])))
    | some (.value _) => none

/-- Opens the table of a header: it must be new or implied so far. -/
def openTable (name : String) (fields : Fields) : Option Fields :=
  match fields.get? name with
  | none => some (fields.set name (.table .header []))
  | some (.table .implied inner) => some (fields.set name (.table .header inner))
  | some _ => none

/-- Opens one more table of a header in double brackets. -/
def openTables (name : String) (fields : Fields) : Option Fields :=
  match fields.get? name with
  | none => some (fields.set name (.tables [[]]))
  | some (.tables items) => some (fields.set name (.tables (items ++ [[]])))
  | some _ => none

/-! ## Keys -/

/-- Adds a value under a dotted key.  Tables on the way must not have a header of their own. -/
def insertValue (v : Toml) : List String → Fields → Option Fields
  | [], _ => none
  | [name], fields =>
    match fields.get? name with
    | none => some (fields.set name (.value v))
    | some _ => none
  | name :: names, fields =>
    match fields.get? name with
    | none => do
      let inner ← insertValue v names []
      some (fields.set name (.table .dotted inner))
    | some (.table .header _) => none
    | some (.table origin inner) => do
      let inner ← insertValue v names inner
      some (fields.set name (.table origin inner))
    | some _ => none

mutual

/-- The value of a finished part. -/
def Part.finish : Part → Toml
  | .value v => v
  | .table _ fields => .table (finishFields fields)
  | .tables items => .array (finishTables items)

/-- The values of finished fields. -/
def finishFields : List (String × Part) → List (String × Toml)
  | [] => []
  | (name, part) :: fields => (name, part.finish) :: finishFields fields

/-- The values of finished tables. -/
def finishTables : List (List (String × Part)) → List Toml
  | [] => []
  | fields :: items => .table (finishFields fields) :: finishTables items

end

end Toml

end Overseer
