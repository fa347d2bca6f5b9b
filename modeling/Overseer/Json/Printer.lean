import Overseer.Json.Basic

/-!
# Printing JSON

Two printed forms: the compact one without any blanks, and the indented one with two spaces for
each level and a field or an item on each line.

Both forms write a string with the same escapes: no control character, no quote and no backslash
stands in it unescaped, so a printed value is one line in the compact form.
-/

namespace Overseer.Json

/-- The last digit of a number in hexadecimal, in lower case. -/
def lowHexDigit (n : Nat) : Char := Nat.digitChar (n % 16)

/-- One character inside a string. -/
def escapeChar (c : Char) : List Char :=
  if c = '"' then ['\\', '"']
  else if c = '\\' then ['\\', '\\']
  else if c = '\n' then ['\\', 'n']
  else if c = '\r' then ['\\', 'r']
  else if c = '\t' then ['\\', 't']
  else if c = '\x08' then ['\\', 'b']
  else if c = '\x0c' then ['\\', 'f']
  else if c.toNat < 0x20 then
    ['\\', 'u', '0', '0', lowHexDigit (c.toNat / 16), lowHexDigit c.toNat]
  else [c]

/-- A string with its quotes. -/
def printString (s : String) : List Char := '"' :: s.toList.flatMap escapeChar ++ ['"']

/-- A value that holds no other. -/
def printAtom : Json → List Char
  | .null => "null".toList
  | .bool true => "true".toList
  | .bool false => "false".toList
  | .int n => (toString n).toList
  | .number text => text.toList
  | .string s => printString s
  | .array _ => "[]".toList
  | .object _ => "\x7b\x7d".toList

mutual

/-- The compact form of a value. -/
def print : Json → List Char
  | .array items => '[' :: printItems true items
  | .object fields => '\x7b' :: printFields true fields
  | v => v.printAtom

/-- The items of an array and its closing bracket. -/
def printItems : Bool → List Json → List Char
  | _, [] => [']']
  | first, v :: vs => (if first then [] else [',']) ++ v.print ++ printItems false vs

/-- The fields of an object and its closing brace. -/
def printFields : Bool → List (String × Json) → List Char
  | _, [] => ['\x7d']
  | first, (name, v) :: fs =>
    (if first then [] else [',']) ++ printString name ++ ':' :: v.print ++ printFields false fs

end

/-- The start of a line at a level. -/
def newLine (level : Nat) : List Char := '\n' :: List.replicate (2 * level) ' '

mutual

/-- The indented form of a value at a level. -/
def printIndented (level : Nat) : Json → List Char
  | .array (v :: vs) => '[' :: printItemsIndented (level + 1) true (v :: vs)
  | .object (f :: fs) => '\x7b' :: printFieldsIndented (level + 1) true (f :: fs)
  | v => v.printAtom

/-- The items of an array that stand at a level, and its closing bracket. -/
def printItemsIndented (level : Nat) : Bool → List Json → List Char
  | _, [] => newLine (level - 1) ++ [']']
  | first, v :: vs =>
    (if first then [] else [',']) ++ newLine level ++ v.printIndented level ++
      printItemsIndented level false vs

/-- The fields of an object that stand at a level, and its closing brace. -/
def printFieldsIndented (level : Nat) : Bool → List (String × Json) → List Char
  | _, [] => newLine (level - 1) ++ ['\x7d']
  | first, (name, v) :: fs =>
    (if first then [] else [',']) ++ newLine level ++ printString name ++ [':', ' '] ++
      v.printIndented level ++ printFieldsIndented level false fs

end

/-- The compact form as a text. -/
def render (v : Json) : String := String.ofList v.print

/-- The indented form as a text. -/
def renderIndented (v : Json) : String := String.ofList (v.printIndented 0)

end Overseer.Json
