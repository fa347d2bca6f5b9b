import Overseer.Json.Parser

/-!
# Bodies of Requests

The body of a request is read as a record whose fields are texts.  A body that is no JSON is told
apart from one whose JSON has another shape; of two faults the first one in the text counts.  A
record may be written as an array of its fields too.

The order in which faults are found is that of reading from left to right, so a body that is no JSON
behind a field of the wrong type is refused for the field.
-/

namespace Overseer.Web

/-- Why a body was refused. -/
inductive BodyFault where
  /-- It is no JSON. -/
  | malformed
  /-- It is JSON of another shape. -/
  | unfit
deriving DecidableEq

/-- What a field of a record holds. -/
inductive FieldKind where
  | text
  | optionalText
  | texts
deriving DecidableEq

/-- A field of a record. -/
structure FieldSpec where
  name : String
  kind : FieldKind
  /-- Whether a record without the field is refused. -/
  required : Bool
deriving DecidableEq

/-- The value of a field. -/
inductive FieldValue where
  | text (s : String)
  | optionalText (s : Option String)
  | texts (items : List String)
deriving DecidableEq

namespace Body

open Json (skipSpace)

/-- A value that was read and the rest of the text. -/
abbrev Found (α : Type) := α × List Char

/-- A part of the text that is read by the grammar alone. -/
def grammar {α : Type} : Option (α × List Char) → Except BodyFault (Found α)
  | some found => .ok found
  | none => .error .malformed

/-! ## Values that are passed over -/

/-- The text behind a string after its opening quote.  What the escapes stand for is not looked
at. -/
def skipString : Nat → List Char → Option (List Char)
  | 0, _ => none
  | _ + 1, [] => none
  | _ + 1, '"' :: s => some s
  | fuel + 1, '\\' :: 'u' :: s => do
    let (_, s) ← Json.readUnit s
    skipString fuel s
  | fuel + 1, '\\' :: c :: s =>
    if "\"\\/bfnrt".toList.contains c then skipString fuel s else none
  | fuel + 1, c :: s => if c.toNat < 0x20 then none else skipString fuel s

mutual

/-- The text behind a value. -/
def skipValue : Nat → List Char → Option (List Char)
  | 0, _ => none
  | fuel + 1, s =>
    match skipSpace s with
    | '"' :: s => skipString (s.length + 1) s
    | '[' :: s =>
      match skipSpace s with
      | ']' :: s => some s
      | s => skipItems fuel s
    | '\x7b' :: s =>
      match skipSpace s with
      | '\x7d' :: s => some s
      | s => skipFields fuel s
    | 'n' :: s => (Json.readWord "null" .null ('n' :: s)).map (·.2)
    | 't' :: s => (Json.readWord "true" .null ('t' :: s)).map (·.2)
    | 'f' :: s => (Json.readWord "false" .null ('f' :: s)).map (·.2)
    | s => (Json.readNumber s).map (·.2)

/-- The text behind the items of an array that is not empty. -/
def skipItems : Nat → List Char → Option (List Char)
  | 0, _ => none
  | fuel + 1, s => do
    match skipSpace (← skipValue fuel s) with
    | ']' :: s => some s
    | ',' :: s => skipItems fuel s
    | _ => none

/-- The text behind the fields of an object that is not empty. -/
def skipFields : Nat → List Char → Option (List Char)
  | 0, _ => none
  | fuel + 1, s =>
    match skipSpace s with
    | '"' :: s => do
      match skipSpace (← skipString (s.length + 1) s) with
      | ':' :: s =>
        match skipSpace (← skipValue fuel s) with
        | '\x7d' :: s => some s
        | ',' :: s => skipFields fuel s
        | _ => none
      | _ => none
    | _ => none

end

/-- Passes over a value. -/
def passOver (s : List Char) : Except BodyFault (Found Unit) :=
  grammar ((skipValue (2 * s.length + 2) s).map fun s => ((), s))

/-! ## Values of a shape -/

/-- Refuses a value of another shape.  Of an array or an object nothing more is looked at. -/
def refuse {α : Type} (s : List Char) : Except BodyFault (Found α) :=
  match skipSpace s with
  | '[' :: _ | '\x7b' :: _ => .error .unfit
  | '"' :: s => do
    let _ ← grammar (Json.readString s)
    .error .unfit
  | s => do
    let _ ← passOver s
    .error .unfit

/-- Reads a text. -/
def readText (s : List Char) : Except BodyFault (Found String) :=
  match skipSpace s with
  | '"' :: s => grammar (Json.readString s)
  | s => refuse s

/-- Reads the texts of an array behind its opening bracket.  `first` tells that none was read. -/
def readTexts : Nat → Bool → List Char → Except BodyFault (Found (List String))
  | 0, _, _ => .error .malformed
  | fuel + 1, first, s =>
    let item (s : List Char) : Except BodyFault (Found (List String)) := do
      let (text, s) ← readText s
      let (texts, s) ← readTexts fuel false s
      return (text :: texts, s)
    match skipSpace s, first with
    | ']' :: s, _ => .ok ([], s)
    | s, true => item s
    | ',' :: s, false =>
      match skipSpace s with
      | ']' :: _ => .error .malformed
      | s => item s
    | _, false => .error .malformed

/-- Reads the value of a field. -/
def readField (kind : FieldKind) (s : List Char) : Except BodyFault (Found FieldValue) :=
  match kind with
  | .text => (readText s).map fun (text, s) => (.text text, s)
  | .optionalText =>
    match skipSpace s with
    | 'n' :: s =>
      (grammar (Json.readWord "null" .null ('n' :: s))).map fun (_, s) => (.optionalText none, s)
    | s => (readText s).map fun (text, s) => (.optionalText (some text), s)
  | .texts =>
    match skipSpace s with
    | '[' :: s => (readTexts (s.length + 1) true s).map fun (texts, s) => (.texts texts, s)
    | s => refuse s

/-! ## Records -/

/-- The fields of a record by their names. -/
abbrev Fields := List (String × FieldValue)

/-- Whether all fields are there that have to be. -/
def isComplete (specs : List FieldSpec) (found : Fields) : Bool :=
  specs.all fun spec => !spec.required || found.any (·.1 == spec.name)

/-- Reads the fields of an object behind its opening brace. -/
def readObject (specs : List FieldSpec) :
    Nat → Fields → Bool → List Char → Except BodyFault (Found Fields)
  | 0, _, _, _ => .error .malformed
  | fuel + 1, found, first, s =>
    let field (s : List Char) : Except BodyFault (Found Fields) :=
      match s with
      | '"' :: s => do
        let (name, s) ← grammar (Json.readString s)
        let value (s : List Char) : Except BodyFault (Found (List Char)) :=
          match skipSpace s with
          | ':' :: s => .ok (s, s)
          | _ => .error .malformed
        match specs.find? (·.name == name) with
        | some spec =>
          if found.any (·.1 == name) then .error .unfit
          else
            let (s, _) ← value s
            let (v, s) ← readField spec.kind s
            readObject specs fuel ((name, v) :: found) false s
        | none =>
          let (s, _) ← value s
          let (_, s) ← passOver s
          readObject specs fuel found false s
      | _ => .error .malformed
    match skipSpace s, first with
    | '\x7d' :: s, _ => if isComplete specs found then .ok (found, s) else .error .unfit
    | s, true => field s
    | ',' :: s, false => field (skipSpace s)
    | _, false => .error .malformed

/-- Reads the fields of a record that is written as an array, behind its opening bracket. -/
def readArray : List FieldSpec → Bool → List Char → Except BodyFault (Found Fields)
  | [], _, s =>
    match skipSpace s with
    | ']' :: s => .ok ([], s)
    | _ => .error .malformed
  | spec :: specs, first, s =>
    let item (s : List Char) : Except BodyFault (Found Fields) := do
      let (v, s) ← readField spec.kind s
      let (found, s) ← readArray specs false s
      return ((spec.name, v) :: found, s)
    match skipSpace s, first with
    | ']' :: s, _ =>
      if (spec :: specs).any (·.required) then .error .unfit else .ok ([], s)
    | [], _ => .error .malformed
    | s, true => item s
    | ',' :: s, false =>
      match skipSpace s with
      | ']' :: _ => .error .malformed
      | s => item s
    | _, false => .error .malformed

/-- Reads a record that is the whole of a body. -/
def readRecord (specs : List FieldSpec) (body : String) : Except BodyFault Fields := do
  let s := body.toList
  let (found, rest) ← match skipSpace s with
    | '\x7b' :: s => readObject specs (s.length + 1) [] true s
    | '[' :: s => readArray specs true s
    | s => refuse s
  if (skipSpace rest).isEmpty then return found else .error .malformed

/-- The value of a field that was found. -/
def value? (found : Fields) (name : String) : Option FieldValue :=
  (found.find? (·.1 == name)).map (·.2)

end Body

/-! ## Requests -/

/-- A request to run a script. -/
structure RunOrder where
  script : String
  flags : List String
  backupDirectory : Option String
deriving DecidableEq

namespace RunOrder

/-- The fields of its record. -/
def specs : List FieldSpec :=
  [⟨"script", .text, true⟩, ⟨"flags", .texts, false⟩, ⟨"backup_dir", .optionalText, false⟩]

/-- The order that a body gives. -/
def ofBody (body : String) : Except BodyFault RunOrder := do
  let found ← Body.readRecord specs body
  return {
    script := match Body.value? found "script" with
      | some (.text s) => s
      | _ => ""
    flags := match Body.value? found "flags" with
      | some (.texts items) => items
      | _ => []
    backupDirectory := match Body.value? found "backup_dir" with
      | some (.optionalText s) => s
      | _ => none }

end RunOrder

/-- The answer that a body gives. -/
def answerOfBody (body : String) : Except BodyFault String := do
  let found ← Body.readRecord [⟨"response", .text, true⟩] body
  return match Body.value? found "response" with
    | some (.text s) => s
    | _ => ""

end Overseer.Web
