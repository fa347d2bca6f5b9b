/-!
# JSON Values

Values of the JSON data format.  The fields of an object keep their order and may repeat a name;
a number is an integer or, in any other spelling, its text.

A number in another spelling than that of an integer is kept as its text, since nothing here
calculates with it.
-/

namespace Overseer

/-- A JSON value. -/
inductive Json where
  | null
  | bool (b : Bool)
  | int (n : Int)
  | number (text : String)
  | string (s : String)
  | array (items : List Json)
  | object (fields : List (String × Json))
deriving Inhabited

namespace Json

/-- A natural number as a value. -/
def nat (n : Nat) : Json := .int n

/-- A text or nothing as a value. -/
def ofOption (s : Option String) : Json := match s with
  | some s => .string s
  | none => .null

/-- A list of texts as a value. -/
def strings (items : List String) : Json := .array (items.map .string)

/-- The first field of an object with a name. -/
def field? (v : Json) (name : String) : Option Json :=
  match v with
  | .object fields => (fields.find? (·.1 == name)).map (·.2)
  | _ => none

/-- The text of a string. -/
def asString? : Json → Option String
  | .string s => some s
  | _ => none

/-- The items of an array. -/
def asArray? : Json → Option (List Json)
  | .array items => some items
  | _ => none

/-- The integer of a number. -/
def asInt? : Json → Option Int
  | .int n => some n
  | _ => none

/-- The truth value of a boolean. -/
def asBool? : Json → Option Bool
  | .bool b => some b
  | _ => none

/-- Fields in ascending order of their names, those of one name in the order given. -/
def sortFields (fields : List (String × Json)) : List (String × Json) :=
  fields.mergeSort fun a b => decide (a.1 ≤ b.1)

mutual

/-- The value with the fields of every object in ascending order of their names. -/
def sorted : Json → Json
  | .array items => .array (sortedItems items)
  | .object fields => .object (sortFields (sortedFields fields))
  | v => v

/-- Every item with sorted fields. -/
def sortedItems : List Json → List Json
  | [] => []
  | v :: vs => v.sorted :: sortedItems vs

/-- Every field with a sorted value. -/
def sortedFields : List (String × Json) → List (String × Json)
  | [] => []
  | (name, v) :: fs => (name, v.sorted) :: sortedFields fs

end

end Json

end Overseer
