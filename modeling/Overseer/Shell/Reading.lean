import Overseer.Shell.Syntax
import Overseer.Text.Digits

/-!
# Reading Shell Words

Words are read piece by piece: quotes, escapes, parameters, command substitutions and arithmetic.

A source knows the number of the line it has come to, which complaints need.  Documents given in the
script itself are taken out of the lines behind the one that asks for them.
-/

namespace Overseer.Shell

/-- A document whose end was not found: the line it began in and what had to end it. -/
structure OpenDocument where
  line : Nat
  delimiter : List Char
deriving DecidableEq

/-- The text that is still to be read, and the number of its first line. -/
structure Source where
  text : List Char
  line : Nat
  /-- How many lines of documents, which were read already, stand behind the first line. -/
  documentLines : Nat
  /-- The documents that were read and had no end. -/
  openDocuments : List OpenDocument

/-- A text from a line on, of which nothing was read. -/
def Source.ofText (text : List Char) (line : Nat) : Source := ⟨text, line, 0, []⟩

/-- A source without its first characters. -/
def Source.drop (source : Source) (count : Nat) : Source :=
  let text := source.text.drop count
  let newlines := (source.text.take count).count '\n'
  if newlines = 0 then { source with text }
  else
    { source with
      text
      line := source.line + newlines + source.documentLines
      documentLines := 0 }

/-- The number of the line in which a source ends. -/
def Source.lastLine (source : Source) : Nat := source.line + source.text.count '\n'

/-- A reader of shell text. -/
abbrev Read := StateT Source (Except SyntaxError)

namespace Read

/-- Refuses the text. -/
def fail {α : Type} (fault : SyntaxFault) : Read α := do
  throw ⟨fault, (← get).line⟩

/-- Refuses the text over something that began in a line and has no end.  The large shell names that
line, and the small one the line in which the text ends. -/
def failOpen {α : Type} (dialect : Dialect) (fault : SyntaxFault) (line : Nat) : Read α := do
  match dialect with
  | .dash => throw ⟨fault, (← get).lastLine⟩
  | .bash => throw ⟨fault, line⟩

/-- The text that is still to be read. -/
def rest : Read (List Char) := do return (← get).text

/-- Goes on after `count` characters. -/
def skip (count : Nat) : Read Unit := modify fun s => s.drop count

/-- The number of the line. -/
def line : Read Nat := do return (← get).line

/-- Whether the rest begins with a text. -/
def startsWith (start : String) : Read Bool := do return start.toList.isPrefixOf (← rest)

end Read

/-- Whether a character may stand in the name of a variable. -/
def isNameChar (c : Char) : Bool := c.isAlphanum || c == '_'

/-- Whether a text is the name of a variable. -/
def isName : List Char → Bool
  | [] => false
  | c :: s => (c.isAlpha || c == '_') && s.all isNameChar

/-- Whether a character ends a word that is not quoted. -/
def endsWord (c : Char) : Bool := " \t\n;&|<>()".toList.contains c

/-- The parameters with a character for a name. -/
def specialParameters : List Char := "@*#?-$!".toList

/-! ## Matching brackets -/

/-- The text up to the closing parenthesis that matches one opened before, and the text behind it.
Quoted text is passed over. -/
def splitParens : Nat → Nat → List Char → Option (List Char × List Char)
  | 0, _, _ => none
  | _ + 1, _, [] => none
  | fuel + 1, depth, c :: s =>
    let keep (count : Nat) (depth : Nat) : Option (List Char × List Char) :=
      (splitParens fuel depth (s.drop count)).map fun (inside, rest) =>
        (c :: s.take count ++ inside, rest)
    match c with
    | '\\' => keep 1 depth
    -- A parenthesis in quotes opens and closes nothing.
    | '\'' => keep ((s.takeWhile (· != '\'')).length + 1) depth
    | '"' => keep (quotedLength s) depth
    | '(' => keep 0 (depth + 1)
    | ')' => if depth = 0 then some ([], s) else keep 0 (depth - 1)
    | _ => keep 0 depth
where
  /-- How many characters follow an opening double quote, up to its partner. -/
  quotedLength : List Char → Nat
    | [] => 0
    | '"' :: _ => 1
    | '\\' :: _ :: s => quotedLength s + 2
    | _ :: s => quotedLength s + 1

/-- The text up to the closing backquote, with the backslashes before special characters taken
away, and the text behind it. -/
def splitBackquote (quoted : Bool) : List Char → Option (List Char × List Char)
  | [] => none
  | '\x60' :: s => some ([], s)
  | '\\' :: c :: s =>
    (splitBackquote quoted s).map fun (inside, rest) =>
      let special := c == '\x60' || c == '$' || c == '\\' || (quoted && c == '"')
      (if special then c :: inside else '\\' :: c :: inside, rest)
  | c :: s => (splitBackquote quoted s).map fun (inside, rest) => (c :: inside, rest)

/-- The quote in which a text ends, and how many lines in front of it there are. -/
def openQuote? : Nat → Nat → List Char → Option (Char × Nat)
  | 0, _, _ => none
  | _ + 1, _, [] => none
  | fuel + 1, lines, c :: s =>
    let passOver (length : Nat) : Option (Char × Nat) :=
      openQuote? fuel (lines + (s.take length).count '\n') (s.drop length)
    match c with
    | '\\' => passOver 1
    | '\'' =>
      let length := (s.takeWhile (· != '\'')).length
      if length = s.length then some (c, lines) else passOver (length + 1)
    | '"' =>
      let length := splitParens.quotedLength s
      if (s.take length).getLast? == some '"' then passOver length else some (c, lines)
    | '\n' => openQuote? fuel (lines + 1) s
    | _ => passOver 0

/-! ## Escapes with a dollar sign -/

/-- The text of a word in single quotes behind a dollar sign, and the text behind it. -/
def splitDollarQuote : Nat → List Char → Option (List Char × List Char)
  | 0, _ => none
  | _ + 1, [] => none
  | _ + 1, '\'' :: s => some ([], s)
  | fuel + 1, '\\' :: c :: s =>
    let put (c : Char) (s : List Char) :=
      (splitDollarQuote fuel s).map fun (inside, rest) => (c :: inside, rest)
    match c with
    | 'n' => put '\n' s
    | 't' => put '\t' s
    | 'r' => put '\r' s
    | 'a' => put '\x07' s
    | 'b' => put '\x08' s
    | 'f' => put '\x0c' s
    | 'v' => put '\x0b' s
    | 'e' | 'E' => put '\x1b' s
    | 'x' => match Text.takeNumber? 16 2 s with
      | some (n, s) => put (Char.ofNat n) s
      | none => (put 'x' s).map fun (inside, rest) => ('\\' :: inside, rest)
    | 'u' => match Text.takeNumber? 16 4 s with
      | some (n, s) => put (Char.ofNat n) s
      | none => (put 'u' s).map fun (inside, rest) => ('\\' :: inside, rest)
    | '\\' | '\'' | '"' | '?' => put c s
    | c => match Text.takeNumber? 8 3 (c :: s) with
      | some (n, s) => put (Char.ofNat n) s
      | none => (put c s).map fun (inside, rest) => ('\\' :: inside, rest)
  | fuel + 1, c :: s => (splitDollarQuote fuel s).map fun (inside, rest) => (c :: inside, rest)

/-! ## Pieces -/

/-- Where pieces are read. -/
inductive Context where
  /-- A word up to its end. -/
  | word
  /-- Between double quotes that were opened in a line. -/
  | double (line : Nat)
  /-- Between braces that were opened in a line, inside double quotes or not; the other character
  that ends the text. -/
  | brace (line : Nat) (quoted : Bool) (stop : Option Char)
  /-- A whole text in which only dollar signs, backquotes and backslashes mean something. -/
  | document
deriving DecidableEq

/-- Whether pieces read in a context are quoted. -/
def Context.quoted : Context → Bool
  | .word => false
  | .double _ | .document => true
  | .brace _ quoted _ => quoted

/-- Whether a double quote ends the text. -/
def Context.isDouble : Context → Bool
  | .double _ => true
  | _ => false

/-- Whether a character is taken as it is in a context. -/
def Context.isOrdinary (context : Context) (c : Char) : Bool :=
  c != '$' && c != '\x60' && c != '\\' &&
    match context with
    | .word => !endsWord c && c != '\'' && c != '"'
    | .double _ => c != '"'
    | .brace _ quoted stop => c != '\x7d' && c != '"' && (quoted || c != '\'') && some c != stop
    | .document => true

/-- Whether a backslash before a character takes the meaning from it in a context. -/
def Context.isEscapable (context : Context) (c : Char) : Bool :=
  match context with
  | .word | .brace _ false _ => true
  | .double _ => "$\"\\\x60".toList.contains c
  | .brace _ true _ => "$\"\\\x60\x7d".toList.contains c
  | .document => "$\\\x60".toList.contains c

/-- The name of a parameter at the start of a text. -/
def parameterName (s : List Char) : Option (List Char) :=
  match s with
  | [] => none
  | c :: _ =>
    if c.isDigit then some (s.takeWhile Char.isDigit)
    else if isNameChar c then some (s.takeWhile isNameChar)
    else if specialParameters.contains c then some [c]
    else none

/-- The operation on a parameter that a text begins with: the operation, how many characters it is
written with and how many arguments it has. -/
def operationAt (dialect : Dialect) (s : List Char) : Option (ParameterOp × Nat × Nat) :=
  match s with
  | ':' :: '-' :: _ => some (.default true, 2, 1)
  | '-' :: _ => some (.default false, 1, 1)
  | ':' :: '=' :: _ => some (.assign true, 2, 1)
  | '=' :: _ => some (.assign false, 1, 1)
  | ':' :: '+' :: _ => some (.alternative true, 2, 1)
  | '+' :: _ => some (.alternative false, 1, 1)
  | ':' :: '?' :: _ => some (.require true, 2, 1)
  | '?' :: _ => some (.require false, 1, 1)
  | '%' :: '%' :: _ => some (.dropEnd true, 2, 1)
  | '%' :: _ => some (.dropEnd false, 1, 1)
  | '#' :: '#' :: _ => some (.dropStart true, 2, 1)
  | '#' :: _ => some (.dropStart false, 1, 1)
  | _ =>
    if dialect = .dash then none
    else
      match s with
      | '/' :: '/' :: _ => some (.replace true, 2, 2)
      | '/' :: _ => some (.replace false, 1, 2)
      | ':' :: _ => some (.part, 1, 2)
      | '^' :: '^' :: _ => some (.recase true true, 2, 0)
      | '^' :: _ => some (.recase true false, 1, 0)
      | ',' :: ',' :: _ => some (.recase false true, 2, 0)
      | ',' :: _ => some (.recase false false, 1, 0)
      | _ => none

/-- The character that separates the two arguments of an operation. -/
def ParameterOp.separator : ParameterOp → Option Char
  | .replace _ => some '/'
  | .part => some ':'
  | _ => none

mutual

/-- The pieces of a text in a context. -/
def readPieces (dialect : Dialect) : Nat → Context → Read Word
  | 0, _ => Read.fail (.unexpectedEnd none)
  | fuel + 1, context => do
    let text ← Read.rest
    match text with
    | [] =>
      match context with
      | .double line => Read.failOpen dialect (.unmatched '"') line
      | .brace line _ _ => Read.failOpen dialect (.unmatched '\x7d') line
      | _ => return []
    | '$' :: _ =>
      let piece ← readDollar dialect fuel context
      return piece ++ (← readPieces dialect fuel context)
    | '\x60' :: s =>
      match splitBackquote context.quoted s with
      | none => Read.failOpen dialect (.unmatched '\x60') (← Read.line)
      | some (inside, rest) => do
        Read.skip (text.length - rest.length)
        return .substitution inside context.quoted :: (← readPieces dialect fuel context)
    | '\\' :: '\n' :: _ => do
      Read.skip 2
      readPieces dialect fuel context
    | '\\' :: c :: _ => do
      Read.skip 2
      let later ← readPieces dialect fuel context
      if context.isEscapable c then return .text [c] true :: later
      else return .text ['\\', c] true :: later
    | ['\\'] => do
      Read.skip 1
      return [.text ['\\'] context.quoted]
    | c :: s =>
      if context.isOrdinary c then do
        let run := text.takeWhile context.isOrdinary
        Read.skip run.length
        return .text run context.quoted :: (← readPieces dialect fuel context)
      else if c = '\'' && !context.quoted then do
        let inside := s.takeWhile (· != '\'')
        -- Up to here no newline of the quoted text was counted, so this is the line of the quote.
        if inside.length = s.length then Read.failOpen dialect (.unmatched '\'') (← Read.line)
        else
          Read.skip (inside.length + 2)
          return .text inside true :: (← readPieces dialect fuel context)
      else if c = '"' && !context.isDouble then do
        let line ← Read.line
        Read.skip 1
        let inside ← readPieces dialect fuel (.double line)
        Read.skip 1
        -- Empty quotes make a field, though there is nothing in them.
        let inside := if inside.isEmpty then [.text [] true] else inside
        return inside ++ (← readPieces dialect fuel context)
      else return []

/-- The piece that begins with a dollar sign. -/
def readDollar (dialect : Dialect) : Nat → Context → Read Word
  | 0, _ => Read.fail (.unexpectedEnd none)
  | fuel + 1, context => do
    let quoted := context.quoted
    let text ← Read.rest
    match text.drop 1 with
    | '(' :: '(' :: s =>
      match splitParens (s.length + 1) 0 s with
      | some (inside, ')' :: rest) => do
        let source := Source.ofText inside (← Read.line)
        let expression ← match (readPieces dialect fuel .document).run source with
          | .ok (pieces, _) => pure pieces
          | .error e => throw e
        Read.skip (text.length - rest.length)
        return [.arithmetic expression quoted]
      | _ =>
        match dialect, splitParens (s.length + 2) 0 ('(' :: s) with
        | .bash, some _ => readSubstitution dialect text ('(' :: s) quoted
        | _, _ => Read.failOpen dialect .unclosedArithmetic (← Read.line)
    | '(' :: s => readSubstitution dialect text s quoted
    | '\x7b' :: s => do
      let line ← Read.line
      Read.skip 2
      readBraces dialect fuel line quoted s
    | '\'' :: s =>
      if dialect = .bash && !quoted then
        match splitDollarQuote (s.length + 1) s with
        | none => Read.failOpen dialect (.unmatched '\'') (← Read.line)
        | some (inside, rest) => do
          Read.skip (text.length - rest.length)
          return [.text inside true]
      else do
        Read.skip 1
        return [.text ['$'] quoted]
    | '"' :: _ => do
      Read.skip 1
      return if dialect = .bash && !quoted then [] else [.text ['$'] quoted]
    | s =>
      match parameterName s with
      | some name => do
        let name := if (name.head?.any Char.isDigit) then name.take 1 else name
        Read.skip (1 + name.length)
        return [.parameter (String.ofList name) .plain [] quoted]
      | none => do
        Read.skip 1
        return [.text ['$'] quoted]
where
  /-- A command substitution; `text` is what is still to be read and `s` what follows its opening
  parenthesis. -/
  readSubstitution (dialect : Dialect) (text s : List Char) (quoted : Bool) : Read Word := do
    match splitParens (s.length + 1) 0 s with
    | none =>
      match openQuote? (s.length + 1) 0 s with
      | some (quote, lines) => Read.failOpen dialect (.unmatched quote) ((← Read.line) + lines)
      | none => throw ⟨.unclosedSubstitution, (← get).lastLine⟩
    | some (inside, rest) => do
      Read.skip (text.length - rest.length)
      return [.substitution inside quoted]

/-- A parameter behind its opening brace. -/
def readBraces (dialect : Dialect) : Nat → Nat → Bool → List Char → Read Word
  | 0, _, _, _ => Read.fail (.unexpectedEnd none)
  | fuel + 1, line, quoted, s => do
    match s with
    | '#' :: c :: t =>
      let isSpecial := specialParameters.contains c && t.head? == some '\x7d'
      if c != '\x7d' && (isNameChar c || isSpecial) then
        match parameterName (c :: t) with
        | some name =>
          if ((c :: t).drop name.length).head? == some '\x7d' then do
            Read.skip (name.length + 2)
            return [.parameter (String.ofList name) .length [] quoted]
          else readInvalid dialect fuel line quoted s
        | none => readInvalid dialect fuel line quoted s
      else readOperation dialect fuel line quoted s
    | _ => readOperation dialect fuel line quoted s

/-- A parameter with an operation on it. -/
def readOperation (dialect : Dialect) : Nat → Nat → Bool → List Char → Read Word
  | 0, _, _, _ => Read.fail (.unexpectedEnd none)
  | fuel + 1, line, quoted, s => do
    match parameterName s with
    | none => readInvalid dialect fuel line quoted s
    | some name =>
      match s.drop name.length with
      | '\x7d' :: _ => do
        Read.skip (name.length + 1)
        return [.parameter (String.ofList name) .plain [] quoted]
      | after =>
        match operationAt dialect after with
        | none => readInvalid dialect fuel line quoted s
        | some (op, width, count) => do
          Read.skip (name.length + width)
          let arguments ← readArguments dialect fuel line quoted op count
          return [.parameter (String.ofList name) op arguments quoted]

/-- A parameter that means nothing, up to its closing brace; `s` is what stands behind the opening
one. -/
def readInvalid (dialect : Dialect) : Nat → Nat → Bool → List Char → Read Word
  | 0, _, _, _ => Read.fail (.unexpectedEnd none)
  | fuel + 1, line, quoted, s => do
    if dialect = .dash && !quoted && (s.takeWhile (· != '\x7d')).contains '\n' then
      Read.fail (.unmatched '\x7d')
    Read.skip (if s.head? == some '\x7d' then 0 else 1)
    let _ ← readPieces dialect fuel (.brace line quoted none)
    Read.skip 1
    let source := s.take (s.length - (← Read.rest).length)
    return [.invalid (String.ofList ("$\x7b".toList ++ source))]

/-- The arguments of an operation and the closing brace. -/
def readArguments (dialect : Dialect) : Nat → Nat → Bool → ParameterOp → Nat → Read (List Word)
  | 0, _, _, _, _ => Read.fail (.unexpectedEnd none)
  | fuel + 1, line, quoted, op, count => do
    let pattern := match op with
      | .dropStart _ | .dropEnd _ | .replace _ => true
      | _ => false
    let stop := if count = 2 then op.separator else none
    let argument ← readPieces dialect fuel (.brace line (quoted && !pattern) stop)
    match ← Read.rest with
    | '\x7d' :: _ => do
      Read.skip 1
      return [argument]
    | _ => do
      Read.skip 1
      return argument :: (← readArguments dialect fuel line quoted op 1)

end

/-- A word at the start of the rest; nothing if the rest does not begin with one. -/
def readWord (dialect : Dialect) : Read Word := do
  readPieces dialect (4 * (← Read.rest).length + 4) .word

end Overseer.Shell
