import Overseer.Json.Basic
import Overseer.Text.Digits

/-!
# Reading JSON

The grammar of the JSON data format, read strictly: no control characters inside strings, no
unpaired surrogates, no leading zeros, at most 127 arrays and objects inside one another, and
nothing but blanks around the value.

Reading goes from left to right and never back.  The depth is limited as it is read, and fuel for
the recursion is given by the length of the text.
-/

namespace Overseer.Json

/-- The blanks between tokens. -/
def isSpace (c : Char) : Bool := c == ' ' || c == '\n' || c == '\r' || c == '\t'

/-- The text without the blanks at its start. -/
def skipSpace (s : List Char) : List Char := s.dropWhile isSpace

/-- Four hexadecimal digits. -/
def readUnit : List Char → Option (Nat × List Char)
  | a :: b :: c :: d :: s =>
    if [a, b, c, d].all (Text.isDigitIn 16) then some (Text.numberIn 16 [a, b, c, d], s) else none
  | _ => none

/-- The character of an escape, after its backslash. -/
def readEscape : List Char → Option (Char × List Char)
  | '"' :: s => some ('"', s)
  | '\\' :: s => some ('\\', s)
  | '/' :: s => some ('/', s)
  | 'b' :: s => some ('\x08', s)
  | 'f' :: s => some ('\x0c', s)
  | 'n' :: s => some ('\n', s)
  | 'r' :: s => some ('\r', s)
  | 't' :: s => some ('\t', s)
  | 'u' :: s => do
    let (unit, s) ← readUnit s
    -- Only the two halves together are a character, and each alone is refused.
    if 0xD800 ≤ unit && unit < 0xDC00 then
      match s with
      | '\\' :: 'u' :: s =>
        let (low, s) ← readUnit s
        if 0xDC00 ≤ low && low < 0xE000 then
          some (Char.ofNat (0x10000 + (unit - 0xD800) * 0x400 + (low - 0xDC00)), s)
        else none
      | _ => none
    else if 0xDC00 ≤ unit && unit < 0xE000 then none
    else some (Char.ofNat unit, s)
  | _ => none

/-- The rest of a string behind the characters read, last first. -/
def readStringFrom : Nat → List Char → List Char → Option (String × List Char)
  | 0, _, _ => none
  | _ + 1, _, [] => none
  | _ + 1, read, '"' :: s => some (String.ofList read.reverse, s)
  | fuel + 1, read, '\\' :: s => do
    let (c, s) ← readEscape s
    readStringFrom fuel (c :: read) s
  | fuel + 1, read, c :: s => if c.toNat < 0x20 then none else readStringFrom fuel (c :: read) s

/-- A string after its opening quote. -/
def readString (s : List Char) : Option (String × List Char) := readStringFrom (s.length + 1) [] s

/-- The digits of a fraction or an exponent, of which there is at least one. -/
def readDigits (s : List Char) : Option (List Char × List Char) :=
  let digits := s.takeWhile Char.isDigit
  if digits.isEmpty then none else some (digits, s.drop digits.length)

/-- The fraction of a number, if there is one. -/
def readFraction : List Char → Option (List Char × List Char)
  | '.' :: s => (readDigits s).map fun (digits, s) => ('.' :: digits, s)
  | s => some ([], s)

/-- The exponent of a number, if there is one. -/
def readExponent : List Char → Option (List Char × List Char)
  | e :: s =>
    if e == 'e' || e == 'E' then
      match s with
      | '+' :: s => (readDigits s).map fun (digits, s) => (e :: '+' :: digits, s)
      | '-' :: s => (readDigits s).map fun (digits, s) => (e :: '-' :: digits, s)
      | s => (readDigits s).map fun (digits, s) => (e :: digits, s)
    else some ([], e :: s)
  | [] => some ([], [])

/-- A number without its sign. -/
def readMagnitude (negative : Bool) (s : List Char) : Option (Json × List Char) := do
  let (digits, s) ← readDigits s
  -- A zero in front of other digits is not allowed.
  if digits.head? == some '0' && digits.length > 1 then none
  else
    let (fraction, s) ← readFraction s
    let (exponent, s) ← readExponent s
    -- A negative zero is no integer, since its sign would be lost.
    if fraction.isEmpty && exponent.isEmpty && !(negative && digits == ['0']) then
      let n : Int := Text.numberIn 10 digits
      some (.int (if negative then -n else n), s)
    else
      let sign := if negative then ['-'] else []
      some (.number (String.ofList (sign ++ digits ++ fraction ++ exponent)), s)

/-- A number. -/
def readNumber : List Char → Option (Json × List Char)
  | '-' :: s => readMagnitude true s
  | s => readMagnitude false s

/-- A literal word of the grammar. -/
def readWord (word : String) (v : Json) (s : List Char) : Option (Json × List Char) :=
  if word.toList.isPrefixOf s then some (v, s.drop word.length) else none

mutual

/-- A value whose text begins here.  `depth` counts the arrays and objects that may still open. -/
def readValue : Nat → Nat → List Char → Option (Json × List Char)
  | 0, _, _ => none
  | fuel + 1, depth, s =>
    match skipSpace s with
    | '"' :: s => (readString s).map fun (text, s) => (.string text, s)
    | '[' :: s =>
      match depth, skipSpace s with
      | 0, _ => none
      | _, ']' :: s => some (.array [], s)
      | depth + 1, s => (readItems fuel depth s).map fun (items, s) => (.array items, s)
    | '\x7b' :: s =>
      match depth, skipSpace s with
      | 0, _ => none
      | _, '\x7d' :: s => some (.object [], s)
      | depth + 1, s => (readFields fuel depth s).map fun (fields, s) => (.object fields, s)
    | 'n' :: s => readWord "null" .null ('n' :: s)
    | 't' :: s => readWord "true" (.bool true) ('t' :: s)
    | 'f' :: s => readWord "false" (.bool false) ('f' :: s)
    | s => readNumber s

/-- The items of an array that is not empty. -/
def readItems : Nat → Nat → List Char → Option (List Json × List Char)
  | 0, _, _ => none
  | fuel + 1, depth, s => do
    let (v, s) ← readValue fuel depth s
    match skipSpace s with
    | ']' :: s => some ([v], s)
    | ',' :: s => do
      let (vs, s) ← readItems fuel depth s
      some (v :: vs, s)
    | _ => none

/-- The fields of an object that is not empty. -/
def readFields : Nat → Nat → List Char → Option (List (String × Json) × List Char)
  | 0, _, _ => none
  | fuel + 1, depth, s =>
    match skipSpace s with
    | '"' :: s => do
      let (name, s) ← readString s
      match skipSpace s with
      | ':' :: s => do
        let (v, s) ← readValue fuel depth s
        match skipSpace s with
        | '\x7d' :: s => some ([(name, v)], s)
        | ',' :: s => do
          let (fs, s) ← readFields fuel depth s
          some ((name, v) :: fs, s)
        | _ => none
      | _ => none
    | _ => none

end

/-- How many arrays and objects may stand inside one another. -/
def depthLimit : Nat := 127

/-- The value that a text writes, if it writes one. -/
def parse? (text : String) : Option Json :=
  let s := text.toList
  -- Of two calls, one inside the other, one takes a character, so this fuel is enough.
  match readValue (2 * s.length + 2) depthLimit s with
  | some (v, s) => if (skipSpace s).isEmpty then some v else none
  | none => none

end Overseer.Json
