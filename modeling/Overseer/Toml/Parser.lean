import Overseer.Toml.Scalar

/-!
# Reading TOML

The grammar of TOML documents: headers, keys and values, one to a line, with comments.  Text that
is no document is refused as a whole.

The readers hand on the text behind what they have read.  Where the depth of a text is not known
beforehand they are given fuel, as much as the text is long.
-/

namespace Overseer.Toml

/-- Whether a character may stand in a comment or a string. -/
def isPrintable (c : Char) : Bool := c == '\t' || (c.toNat ≥ 0x20 && c.toNat != 0x7F)

/-- The text without the blanks at its start. -/
def skipBlanks (s : List Char) : List Char := s.dropWhile fun c => c == ' ' || c == '\t'

/-- What follows a newline at the start of a text. -/
def afterNewline? : List Char → Option (List Char)
  | '\n' :: s => some s
  | '\r' :: '\n' :: s => some s
  | _ => none

/-- The text without a comment at its start. -/
def skipComment : List Char → List Char
  | '#' :: s => s.dropWhile isPrintable
  | s => s

/-- What follows the end of a line, blanks and a comment before it left out. -/
def afterLine? (s : List Char) : Option (List Char) :=
  match skipComment (skipBlanks s) with
  | [] => some []
  | s => afterNewline? s

/-- The text without blanks, comments and newlines at its start, as far as `fuel` lines. -/
def skipLines : Nat → List Char → List Char
  | 0, s => s
  | fuel + 1, s =>
    let s := skipComment (skipBlanks s)
    match afterNewline? s with
    | some s => skipLines fuel s
    | none => s

/-- The text without all blanks, comments and newlines at its start. -/
def skipSpace (s : List Char) : List Char := skipLines (s.length + 1) s

/-! ## Strings -/

/-- A character given by `count` hexadecimal digits. -/
def readCode (count : Nat) (s : List Char) : Option (Char × List Char) :=
  let digits := s.take count
  let n := Text.numberIn 16 digits
  if digits.length = count && digits.all (Text.isDigitIn 16) && n.isValidChar then
    some (Char.ofNat n, s.drop count)
  else none

/-- The character of an escape, after its backslash. -/
def readEscape : List Char → Option (Char × List Char)
  | 'b' :: s => some ('\x08', s)
  | 't' :: s => some ('\t', s)
  | 'n' :: s => some ('\n', s)
  | 'f' :: s => some ('\x0c', s)
  | 'r' :: s => some ('\r', s)
  | 'e' :: s => some ('\x1b', s)
  | '"' :: s => some ('"', s)
  | '\\' :: s => some ('\\', s)
  | 'x' :: s => readCode 2 s
  | 'u' :: s => readCode 4 s
  | 'U' :: s => readCode 8 s
  | _ => none

/-- The rest of a string in one line.  Escapes count only between double quotes. -/
def readShort (quote : Char) : Nat → List Char → List Char → Option (String × List Char)
  | 0, _, _ => none
  | _ + 1, _, [] => none
  | fuel + 1, read, c :: s =>
    if c = quote then some (String.ofList read.reverse, s)
    else if c = '\\' && quote = '"' then do
      let (c, s) ← readEscape s
      readShort quote fuel (c :: read) s
    else if isPrintable c then readShort quote fuel (c :: read) s
    else none

/-- What follows a backslash at the end of a line: the blanks and newlines are left out. -/
def afterFold? (s : List Char) : Option (List Char) := do
  let s ← afterNewline? (skipBlanks s)
  some (s.dropWhile fun c => c == ' ' || c == '\t' || c == '\n' || c == '\r')

/-- The rest of a string over several lines.  Up to two quotes right before the closing ones belong
to it. -/
def readLong (quote : Char) : Nat → List Char → List Char → Option (String × List Char)
  | 0, _, _ => none
  | _ + 1, _, [] => none
  | fuel + 1, read, c :: s =>
    if c = quote then
      let quotes := (c :: s).takeWhile (· = quote)
      let rest := (c :: s).drop quotes.length
      -- Fewer than three quotes end nothing, and are part of the text.
      if quotes.length < 3 then readLong quote fuel (quotes ++ read) rest
      else if quotes.length ≤ 5 then
        some (String.ofList (quotes.drop 3 ++ read).reverse, rest)
      else none
    else if c = '\\' && quote = '"' then
      match readEscape s with
      | some (c, s) => readLong quote fuel (c :: read) s
      -- A backslash that escapes nothing may only stand at the end of its line.
      | none => do readLong quote fuel read (← afterFold? s)
    else
      match afterNewline? (c :: s) with
      | some rest => readLong quote fuel ('\n' :: read) rest
      | none => if isPrintable c then readLong quote fuel (c :: read) s else none

/-- A string of one line after its opening quote. -/
def readQuoted (quote : Char) (s : List Char) : Option (String × List Char) :=
  readShort quote (s.length + 1) [] s

/-- A string after its first quote. -/
def readString (quote : Char) (s : List Char) : Option (String × List Char) :=
  match s with
  | a :: b :: rest =>
    if a = quote && b = quote then
      -- A newline right behind the opening quotes is no part of the text.
      let rest := (afterNewline? rest).getD rest
      readLong quote (rest.length + 1) [] rest
    else readQuoted quote s
  | _ => readQuoted quote s

/-! ## Keys -/

/-- Whether a character may stand in a key without quotes. -/
def isKeyChar (c : Char) : Bool := c.isAlphanum || c == '_' || c == '-'

/-- One part of a key. -/
def readKeyPart : List Char → Option (String × List Char)
  | '"' :: s => readQuoted '"' s
  | '\'' :: s => readQuoted '\'' s
  | s =>
    let word := s.takeWhile isKeyChar
    if word.isEmpty then none else some (String.ofList word, s.drop word.length)

/-- The parts of a key between dots, with the blanks around it left out. -/
def readKeyFrom : Nat → List Char → Option (List String × List Char)
  | 0, _ => none
  | fuel + 1, s => do
    let (part, s) ← readKeyPart (skipBlanks s)
    match skipBlanks s with
    | '.' :: s => do
      let (parts, s) ← readKeyFrom fuel s
      some (part :: parts, s)
    | s => some ([part], s)

/-- A key. -/
def readKey (s : List Char) : Option (List String × List Char) := readKeyFrom (s.length + 1) s

/-! ## Values -/

mutual

/-- A value whose text begins here.  `depth` counts the arrays and tables that may still open. -/
def readValue : Nat → Nat → List Char → Option (Toml × List Char)
  | 0, _, _ => none
  | fuel + 1, depth, s =>
    match s with
    | '"' :: s => (readString '"' s).map fun (text, s) => (.string text, s)
    | '\'' :: s => (readString '\'' s).map fun (text, s) => (.string text, s)
    | '[' :: s =>
      match depth with
      | 0 => none
      | depth + 1 => (readItems fuel depth s).map fun (items, s) => (.array items, s)
    | '\x7b' :: s =>
      match depth with
      | 0 => none
      | depth + 1 => (readFields fuel depth [] s).map fun (fields, s) =>
          (.table (finishFields fields), s)
    | s =>
      let (word, rest) := scalarText s
      (scalar? word).map (·, rest)

/-- The items of an array after its bracket or after a comma. -/
def readItems : Nat → Nat → List Char → Option (List Toml × List Char)
  | 0, _, _ => none
  | fuel + 1, depth, s =>
    match skipSpace s with
    | ']' :: s => some ([], s)
    | s => do
      let (v, s) ← readValue fuel depth s
      match skipSpace s with
      | ']' :: s => some ([v], s)
      | ',' :: s => do
        let (vs, s) ← readItems fuel depth s
        some (v :: vs, s)
      | _ => none

/-- The fields of a table in braces after its brace or after a comma, added to those read. -/
def readFields : Nat → Nat → Fields → List Char → Option (Fields × List Char)
  | 0, _, _, _ => none
  | fuel + 1, depth, fields, s =>
    match skipSpace s with
    | '\x7d' :: s => some (fields, s)
    | s => do
      let (key, s) ← readKey s
      match s with
      | '=' :: s => do
        let (v, s) ← readValue fuel depth (skipBlanks s)
        -- A key that is there already is refused.
        let fields ← insertValue v key fields
        match skipSpace s with
        | '\x7d' :: s => some (fields, s)
        | ',' :: s => readFields fuel depth fields s
        | _ => none
      | _ => none

end

/-- How many arrays and tables in braces may stand inside one another. -/
def depthLimit : Nat := 80

/-! ## Documents -/

/-- A document under construction: its fields, and the names of the header in force. -/
structure Document where
  fields : Fields
  header : List String

/-- Applies a header: `open` makes its table under the names before the last. -/
def Document.openHeader (doc : Document) (make : String → Fields → Option Fields)
    (key : List String) : Option Document := do
  let name ← key.getLast?
  let fields ← updateAt (make name) key.dropLast doc.fields
  some ⟨fields, key⟩

/-- Reads one header or one key with its value. -/
def Document.readEntry (doc : Document) (s : List Char) : Option (Document × List Char) :=
  match s with
  | '[' :: '[' :: s => do
    let (key, s) ← readKey s
    match s with
    | ']' :: ']' :: s => some (← doc.openHeader openTables key, s)
    | _ => none
  | '[' :: s => do
    let (key, s) ← readKey s
    match s with
    | ']' :: s => some (← doc.openHeader openTable key, s)
    | _ => none
  | s => do
    let (key, s) ← readKey s
    match s with
    | '=' :: s => do
      let s := skipBlanks s
      -- Of two calls, one inside the other, one takes a character, so this fuel is enough.
      let (v, s) ← readValue (2 * s.length + 2) depthLimit s
      let fields ← updateAt (insertValue v key) doc.header doc.fields
      some (⟨fields, doc.header⟩, s)
    | _ => none

/-- Reads the entries of a document up to its end. -/
def readEntries : Nat → Document → List Char → Option Document
  | 0, _, _ => none
  | fuel + 1, doc, s =>
    match skipSpace s with
    | [] => some doc
    | s => do
      let (doc, s) ← doc.readEntry s
      readEntries fuel doc (← afterLine? s)

/-- The mark that may stand before a document. -/
def byteOrderMark : Char := '\ufeff'

/-- The fields of the document that a text writes, if it writes one. -/
def parse? (text : String) : Option (List (String × Toml)) :=
  let s := text.toList
  let s := if s.head? == some byteOrderMark then s.drop 1 else s
  (readEntries (s.length + 1) ⟨[], []⟩ s).map fun doc => finishFields doc.fields

end Overseer.Toml
