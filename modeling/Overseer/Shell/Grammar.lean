import Overseer.Shell.Reading

/-!
# Reading Shell Statements

The grammar of the shell language, read one complete line at a time, as a shell reads its script.

Only one line is read at a time because a command may change what follows it: a script that is no
script behind some line is still carried out up to there.
-/

namespace Overseer.Shell

/-! ## Blanks and tokens -/

/-- Passes over blanks, joined lines and a comment. -/
def skipBlanks : Nat → Read Unit
  | 0 => return
  | fuel + 1 => do
    match ← Read.rest with
    | ' ' :: _ | '\t' :: _ => do
      Read.skip 1
      skipBlanks fuel
    | '\\' :: '\n' :: _ => do
      Read.skip 2
      skipBlanks fuel
    | '#' :: s => Read.skip ((s.takeWhile (· != '\n')).length + 1)
    | _ => return

/-- Passes over blanks and comments. -/
def blanks : Read Unit := do skipBlanks ((← Read.rest).length + 1)

/-- Passes over blanks, comments and newlines. -/
def skipNewlines : Nat → Read Unit
  | 0 => return
  | fuel + 1 => do
    blanks
    match ← Read.rest with
    | '\n' :: _ => do
      Read.skip 1
      skipNewlines fuel
    | _ => return

/-- Passes over everything between commands. -/
def newlines : Read Unit := do skipNewlines ((← Read.rest).length + 1)

/-- The operators, the longer ones first. -/
def operators (dialect : Dialect) : List String :=
  let common := ["<<-", "&&", "||", ";;", "<<", "<&", "<>", ">&", ">>", ">|", "<", ">", "&", ";",
    "|", "(", ")"]
  match dialect with
  | .dash => common
  | .bash => ["&>>", "<<<", "&>", "|&", ";;&", ";&"] ++ common

/-- The operator that the rest begins with. -/
def operator? (dialect : Dialect) : Read (Option String) := do
  let s ← Read.rest
  return (operators dialect).find? fun op => op.toList.isPrefixOf s

/-- The text of the next token, as a complaint shows it. -/
def tokenText (dialect : Dialect) : Read SyntaxFault := do
  match ← Read.rest with
  | [] => return .unexpectedEnd none
  | '\n' :: _ => return .unexpected "newline" none
  | s =>
    match ← operator? dialect with
    | some op => return .unexpected op none
    | none => return .unexpected (String.ofList (s.takeWhile fun c => !endsWord c)) none

/-- Refuses the next token, and names the one that had to stand there.  The small shell has gone on
to the next line when it sees the end of one. -/
def unexpected {α : Type} (dialect : Dialect) (expecting : Option String) : Read α := do
  match ← tokenText dialect with
  | .unexpected token _ =>
    if dialect = .dash && token = "newline" then Read.skip 1
    Read.fail (.unexpected token expecting)
  | .unexpectedEnd _ => Read.fail (.unexpectedEnd expecting)
  | fault => Read.fail fault

/-- Refuses the next token where the small shell knows no reserved words. -/
def unexpectedPlain {α : Type} (dialect : Dialect) (expecting : Option String) : Read α := do
  match dialect, ← tokenText dialect with
  | .dash, .unexpected token _ =>
    if (operators dialect).contains token || token = "newline" then unexpected dialect expecting
    else Read.fail (.unexpected "word" expecting)
  | _, _ => unexpected dialect expecting

/-- The word that the rest begins with, if it has no quotes and ends there. -/
def bareWord? : Read (Option String) := do
  let s ← Read.rest
  let word := s.takeWhile fun c => !endsWord c
  if word.isEmpty || word.any "'\"\\$\x60".toList.contains then return none
  else return some (String.ofList word)

/-- Passes over a reserved word, which must stand here. -/
def expectWord (dialect : Dialect) (word : String) : Read Unit := do
  if (← bareWord?) == some word then Read.skip word.length
  else unexpected dialect (some word)

/-- Passes over an operator, which must stand here. -/
def expectOperator (dialect : Dialect) (op : String) : Read Unit := do
  if (← operator? dialect) == some op then Read.skip op.length else unexpected dialect (some op)

/-- The words that end a list of commands. -/
def closers : List String := ["then", "else", "elif", "fi", "do", "done", "esac", "\x7d"]

/-- Whether a list of commands ends here. -/
def atListEnd (dialect : Dialect) : Read Bool := do
  match ← Read.rest with
  | [] => return true
  | _ =>
    match ← operator? dialect with
    | some ")" | some ";;" | some ";&" => return true
    | _ =>
      match ← bareWord? with
      | some word => return closers.contains word
      | none => return false

/-! ## Redirections -/

/-- A line of a text, and what follows its newline. -/
def splitFirstLine (s : List Char) : List Char × List Char :=
  let line := s.takeWhile (· != '\n')
  (line, s.drop (line.length + 1))

/-- The lines of a document up to the one that is the delimiter, and the text behind that, if there
is such a line. -/
def takeDocument (delimiter : List Char) (dropTabs : Bool) :
    Nat → List Char → List Char × Option (List Char)
  | 0, _ => ([], none)
  | _ + 1, [] => ([], none)
  | fuel + 1, s =>
    let (line, rest) := splitFirstLine s
    let line := if dropTabs then line.dropWhile (· == '\t') else line
    if line = delimiter then ([], some rest)
    else
      let (later, rest) := takeDocument delimiter dropTabs fuel rest
      (line ++ '\n' :: later, rest)

/-- The text of a delimiter and whether any of it is quoted. -/
def delimiterOf (word : Word) : List Char × Bool :=
  (word.flatMap fun piece => match piece with
    | .text s _ => s
    | .parameter name _ _ _ => '$' :: name.toList
    | _ => [],
   word.any fun piece => match piece with
    | .text _ quoted => quoted
    | _ => false)

/-- The document whose lines follow the line that is being read. -/
def readDocument (dialect : Dialect) (dropTabs : Bool) : Read Word := do
  blanks
  let word ← readWord dialect
  if word.isEmpty then unexpected dialect none
  let (delimiter, quoted) := delimiterOf word
  let s ← Read.rest
  let (line, following) := splitFirstLine s
  let (body, after?) := takeDocument delimiter dropTabs (following.length + 1) following
  let after := after?.getD []
  let lines := (following.take (following.length - after.length)).count '\n'
  let start ← Read.line
  modify fun source =>
    { source with
      text := if s.contains '\n' then line ++ '\n' :: after else line
      documentLines := source.documentLines + lines
      openDocuments := source.openDocuments ++
        if after?.isNone then [⟨start, delimiter⟩] else [] }
  if quoted then return [.text body true]
  else
    let source := Source.ofText body (start + 1)
    match (readPieces dialect (4 * body.length + 4) .document).run source with
    | .ok (pieces, _) => return pieces
    | .error e => throw e

/-- The redirections that an operator begins. -/
def readRedirection (dialect : Dialect) (fd : Option Nat) (op : String) :
    Read (List Redirection) := do
  Read.skip op.length
  if op = "<<" || op = "<<-" then
    return [⟨fd.getD 0, .document, ← readDocument dialect (op = "<<-")⟩]
  else
    blanks
    let target ← readWord dialect
    if target.isEmpty then unexpected dialect none
    else
      match op with
      | "<" => return [⟨fd.getD 0, .input, target⟩]
      | ">" | ">|" => return [⟨fd.getD 1, .output, target⟩]
      | ">>" => return [⟨fd.getD 1, .append, target⟩]
      | "<>" => return [⟨fd.getD 0, .readWrite, target⟩]
      | "<&" => return [⟨fd.getD 0, .duplicate, target⟩]
      | ">&" =>
        let isNumber := (Word.literal? target).any fun s => s.all Char.isDigit || s == ['-']
        if dialect = .bash && fd.isNone && !isNumber then
          return [⟨1, .output, target⟩, ⟨2, .duplicate, [.text ['1'] false]⟩]
        else return [⟨fd.getD 1, .duplicate, target⟩]
      | "&>" => return [⟨1, .output, target⟩, ⟨2, .duplicate, [.text ['1'] false]⟩]
      | "&>>" => return [⟨1, .append, target⟩, ⟨2, .duplicate, [.text ['1'] false]⟩]
      | "<<<" => return [⟨fd.getD 0, .document, target ++ [.text ['\n'] true]⟩]
      | _ => unexpected dialect none

/-- The operators that begin a redirection. -/
def redirectionOperators : List String :=
  ["<<-", "<<", "<&", "<>", ">&", ">>", ">|", "<", ">", "&>>", "&>", "<<<"]

/-- The redirections that begin here, if there are any. -/
def redirection? (dialect : Dialect) : Read (Option (List Redirection)) := do
  let s ← Read.rest
  let digits := s.takeWhile Char.isDigit
  let behind := s.drop digits.length
  let isOp := fun op => redirectionOperators.contains op && !"&>".toList.isPrefixOf op.toList
  if !digits.isEmpty && (behind.head? == some '<' || behind.head? == some '>') then do
    Read.skip digits.length
    match ← operator? dialect with
    | some op =>
      if isOp op then
        return some (← readRedirection dialect (some (Text.numberIn 10 digits)) op)
      else unexpected dialect none
    | none => return none
  else
    match ← operator? dialect with
    | some op =>
      if redirectionOperators.contains op then return some (← readRedirection dialect none op)
      else return none
    | none => return none

/-- All redirections that begin here. -/
def redirections (dialect : Dialect) : Nat → Read (List Redirection)
  | 0 => return []
  | fuel + 1 => do
    blanks
    match ← redirection? dialect with
    | some found => return found ++ (← redirections dialect fuel)
    | none => return []

/-! ## Simple commands -/

/-- The name and the value of an assignment. -/
def assignment? (word : Word) : Option (String × Word) :=
  match word with
  | .text s false :: rest =>
    let name := s.takeWhile (· != '=')
    match s.drop name.length with
    | '=' :: value =>
      if isName name then
        some (String.ofList name, if value.isEmpty then rest else .text value false :: rest)
      else none
    | _ => none
  | _ => none

/-- The rest of a simple command. -/
def readSimple (dialect : Dialect) : Nat → SimpleCommand → Read SimpleCommand
  | 0, command => return command
  | fuel + 1, command => do
    blanks
    match ← redirection? dialect with
    | some found =>
      readSimple dialect fuel { command with redirections := command.redirections ++ found }
    | none =>
      let word ← readWord dialect
      if word.isEmpty then return command
      else
        match if command.words.isEmpty then assignment? word else none with
        | some a =>
          readSimple dialect fuel { command with assignments := command.assignments ++ [a] }
        | none => readSimple dialect fuel { command with words := command.words ++ [word] }

/-- The words of a conditional expression, up to the closing brackets. -/
def readConditional (dialect : Dialect) : Nat → Read (List Word)
  | 0 => unexpected dialect (some "]]")
  | fuel + 1 => do
    newlines
    if (← bareWord?) == some "]]" then do
      Read.skip 2
      return []
    else
      match ← operator? dialect with
      | some op =>
        if ["&&", "||", "(", ")", "<", ">"].contains op then do
          Read.skip op.length
          return [.text op.toList false] :: (← readConditional dialect fuel)
        else unexpected dialect none
      | none =>
        let word ← readWord dialect
        if word.isEmpty then unexpected dialect (some "]]")
        else return word :: (← readConditional dialect fuel)

/-- The words of a list, up to its end. -/
def readWords (dialect : Dialect) : Nat → Read (List Word)
  | 0 => return []
  | fuel + 1 => do
    blanks
    let word ← readWord dialect
    if word.isEmpty then return [] else return word :: (← readWords dialect fuel)

/-- One pattern of a branch.  The small shell takes any token for one. -/
def readPattern (dialect : Dialect) : Read Word := do
  blanks
  let word ← readWord dialect
  if !word.isEmpty then return word
  else if dialect = .bash then unexpected dialect none
  else
    match ← operator? dialect with
    | some op => do
      Read.skip op.length
      return [.text op.toList true]
    | none => return []

/-- The patterns of a branch, up to the parenthesis behind them. -/
def readPatterns (dialect : Dialect) : Nat → Read (List Word)
  | 0 => unexpectedPlain dialect (some ")")
  | fuel + 1 => do
    let word ← readPattern dialect
    blanks
    match ← operator? dialect with
    | some "|" => do
      Read.skip 1
      return word :: (← readPatterns dialect fuel)
    | some ")" => do
      Read.skip 1
      return [word]
    | _ => unexpectedPlain dialect (some ")")

/-- The names that no function of the small shell can have. -/
def specialBuiltins : List String :=
  [".", ":", "break", "continue", "eval", "exec", "exit", "export", "readonly", "return", "set",
    "shift", "times", "trap", "unset"]

/-- The name of the function that a word stands for. -/
def functionName (dialect : Dialect) (word : Word) : Read String := do
  match dialect, word with
  | .dash, [.text name false] =>
    if isName name && !specialBuiltins.contains (String.ofList name) then return String.ofList name
    else Read.fail .badFunctionName
  | .dash, _ => Read.fail .badFunctionName
  | .bash, word => return String.ofList (delimiterOf word).1

/-- Whether what comes next may be the body of a function.  For the large shell it must be a
compound command. -/
def isFunctionBody (dialect : Dialect) : Read Bool := do
  if dialect = .dash then return true
  else
    match ← bareWord? with
    | some word =>
      return ["\x7b", "if", "while", "until", "for", "case", "[[", "select"].contains word
    | none => return (← operator? dialect) == some "("

/-! ## Statements -/

mutual

/-- A list of commands, up to where one ends.  A newline ends it unless it stands inside something
that has to be closed. -/
def readList (dialect : Dialect) : Nat → Bool → Read (List Statement)
  | 0, _ => unexpected dialect none
  | fuel + 1, inside => do
    if inside then newlines else blanks
    if ← atListEnd dialect then return []
    else
      match ← Read.rest with
      | '\n' :: _ => return []
      | _ =>
        let statement ← readAndOr dialect fuel
        blanks
        match ← operator? dialect with
        | some ";" => do
          Read.skip 1
          return statement :: (← readList dialect fuel inside)
        | some "&" => do
          Read.skip 1
          return .background statement :: (← readList dialect fuel inside)
        | _ =>
          match ← Read.rest with
          | '\n' :: _ =>
            if inside then do
              Read.skip 1
              return statement :: (← readList dialect fuel inside)
            else return [statement]
          | _ => return [statement]

/-- A list inside something that has to be closed; it must not be empty. -/
def readBody (dialect : Dialect) : Nat → Read Statement
  | 0 => unexpected dialect none
  | fuel + 1 => do
    match ← readList dialect fuel true with
    | [] => if (← Read.rest).isEmpty then return .nothing else unexpected dialect none
    | [statement] => return statement
    | statements => return .sequence statements

/-- Pipelines joined by `&&` and `||`. -/
def readAndOr (dialect : Dialect) : Nat → Read Statement
  | 0 => unexpected dialect none
  | fuel + 1 => do
    let first ← readPipeline dialect fuel
    readAndOrRest dialect fuel first

/-- What is joined to a pipeline. -/
def readAndOrRest (dialect : Dialect) : Nat → Statement → Read Statement
  | 0, _ => unexpected dialect none
  | fuel + 1, left => do
    blanks
    match ← operator? dialect with
    | some "&&" => do
      Read.skip 2
      newlines
      let right ← readPipeline dialect fuel
      readAndOrRest dialect fuel (.both left right)
    | some "||" => do
      Read.skip 2
      newlines
      let right ← readPipeline dialect fuel
      readAndOrRest dialect fuel (.either left right)
    | _ => return left

/-- A pipeline. -/
def readPipeline (dialect : Dialect) : Nat → Read Statement
  | 0 => unexpected dialect none
  | fuel + 1 => do
    blanks
    if (← bareWord?) == some "!" then do
      Read.skip 1
      blanks
      match dialect, ← Read.rest, ← operator? dialect with
      | .bash, [], _ | .bash, '\n' :: _, _ | .bash, _, some ";" =>
        return .negation .nothing
      | .bash, _, _ => return .negation (← readPipeline dialect fuel)
      | .dash, _, _ =>
        if (← bareWord?) == some "!" then unexpected dialect none
        else return .negation (← readPipeline dialect fuel)
    else
      match ← readStages dialect fuel with
      | [statement] => return statement
      | statements => return .pipeline statements

/-- The commands of a pipeline. -/
def readStages (dialect : Dialect) : Nat → Read (List Statement)
  | 0 => unexpected dialect none
  | fuel + 1 => do
    let statement ← readCommand dialect fuel
    blanks
    match ← operator? dialect with
    | some "|" => do
      Read.skip 1
      newlines
      return statement :: (← readStages dialect fuel)
    | some "|&" => do
      Read.skip 2
      newlines
      return .redirected statement [⟨2, .duplicate, [.text ['1'] false]⟩] ::
        (← readStages dialect fuel)
    | _ => return [statement]

/-- A command with the redirections behind it. -/
def readCommand (dialect : Dialect) : Nat → Read Statement
  | 0 => unexpected dialect none
  | fuel + 1 => do
    blanks
    let line := (← get).line
    let compound (body : Read Statement) : Read Statement := do
      let statement ← body
      match ← redirections dialect (← Read.rest).length with
      | [] => return statement
      | found => return .redirected statement found
    if (← Read.startsWith "((") && dialect = .bash then
      let s ← Read.rest
      match splitParens s.length 0 (s.drop 2) with
      | some (inside, ')' :: rest) => do
        Read.skip (s.length - rest.length)
        let source := Source.ofText inside line
        match (readPieces dialect (4 * inside.length + 4) .document).run source with
        | .ok (pieces, _) => compound (return .compute pieces line)
        | .error e => throw e
      | _ => compound (readSubshell dialect fuel)
    else if (← operator? dialect) == some "(" then compound (readSubshell dialect fuel)
    else
      match ← bareWord? with
      | some "\x7b" => compound do
          Read.skip 1
          let body ← readBody dialect fuel
          expectWord dialect "\x7d"
          return body
      | some "if" => compound do
          Read.skip 2
          readChoice dialect fuel
      | some "while" => compound do
          Read.skip 5
          readLoop dialect fuel true
      | some "until" => compound do
          Read.skip 5
          readLoop dialect fuel false
      | some "for" => compound do
          Read.skip 3
          readEach dialect fuel
      | some "case" => compound do
          Read.skip 4
          readSelect dialect fuel
      | some word =>
        if closers.contains word || word = "in" then unexpected dialect none
        else if dialect = .bash && word = "[[" then compound do
          Read.skip 2
          let words ← readConditional dialect (← Read.rest).length
          return .conditional words line
        else if dialect = .bash && word = "function" then do
          Read.skip 8
          blanks
          let name ← bareWord?
          match name with
          | none => unexpected dialect none
          | some name =>
            Read.skip name.length
            blanks
            if ← Read.startsWith "()" then Read.skip 2
            newlines
            return .define name (← readCommand dialect fuel)
        else readSimpleOrFunction dialect fuel line
      | none => readSimpleOrFunction dialect fuel line

/-- A subshell. -/
def readSubshell (dialect : Dialect) : Nat → Read Statement
  | 0 => unexpected dialect none
  | fuel + 1 => do
    Read.skip 1
    let body ← readBody dialect fuel
    expectOperator dialect ")"
    return .subshell body

/-- The rest of a choice behind its first word. -/
def readChoice (dialect : Dialect) : Nat → Read Statement
  | 0 => unexpected dialect none
  | fuel + 1 => do
    let condition ← readBody dialect fuel
    expectWord dialect "then"
    let consequence ← readBody dialect fuel
    match ← bareWord? with
    | some "elif" => do
      Read.skip 4
      return .choice condition consequence (some (← readChoice dialect fuel))
    | some "else" => do
      Read.skip 4
      let alternative ← readBody dialect fuel
      expectWord dialect "fi"
      return .choice condition consequence (some alternative)
    | _ => do
      expectWord dialect "fi"
      return .choice condition consequence none

/-- The rest of a loop behind its first word. -/
def readLoop (dialect : Dialect) : Nat → Bool → Read Statement
  | 0, _ => unexpected dialect none
  | fuel + 1, whileTrue => do
    let condition ← readBody dialect fuel
    expectWord dialect "do"
    let body ← readBody dialect fuel
    expectWord dialect "done"
    return .loop whileTrue condition body

/-- The rest of a loop over words behind its first word. -/
def readEach (dialect : Dialect) : Nat → Read Statement
  | 0 => unexpected dialect none
  | fuel + 1 => do
    blanks
    if (← Read.startsWith "((") && dialect = .bash then readCounting dialect fuel
    else
    let name ← match dialect with
      | .bash =>
        let word ← readWord dialect
        if word.isEmpty then unexpected dialect none
        else pure (String.ofList (delimiterOf word).1)
      | .dash =>
        match ← bareWord? with
        | some name =>
          Read.skip name.length
          if isName name.toList then pure name else Read.fail .badLoopVariable
        | none =>
          if (← Read.rest).head? == some '\n' then Read.skip 1
          Read.fail .badLoopVariable
    do
      newlines
      let words ← if (← bareWord?) == some "in" then do
          Read.skip 2
          let words ← readWords dialect (← Read.rest).length
          pure (some words)
        else pure none
      blanks
      if (← operator? dialect) == some ";" then Read.skip 1
      newlines
      expectWord dialect "do"
      let body ← readBody dialect fuel
      expectWord dialect "done"
      return .each name words body

/-- The rest of a loop that counts: three expressions between double parentheses and a body. -/
def readCounting (dialect : Dialect) : Nat → Read Statement
  | 0 => unexpected dialect none
  | fuel + 1 => do
    let line := (← get).line
    let s ← Read.rest
    match splitParens s.length 0 (s.drop 2) with
    | some (inside, ')' :: rest) => do
      let parts := (String.ofList inside).splitOn ";"
      let expression (part : String) (other : String) : Read Statement := do
        let text := if part.toList.all (· == ' ') then other.toList else part.toList
        let source := Source.ofText text line
        match (readPieces dialect (4 * text.length + 4) .document).run source with
        | .ok (pieces, _) => return .compute pieces line
        | .error e => throw e
      let start ← expression ((parts[0]?).getD "") "1"
      let condition ← expression ((parts[1]?).getD "") "1"
      let next ← expression ((parts[2]?).getD "") "1"
      Read.skip (s.length - rest.length)
      blanks
      if (← operator? dialect) == some ";" then Read.skip 1
      newlines
      expectWord dialect "do"
      let body ← readBody dialect fuel
      expectWord dialect "done"
      return .sequence [start, .loop true condition (.sequence [body, next])]
    | _ => unexpected dialect none

/-- The rest of a selection behind its first word. -/
def readSelect (dialect : Dialect) : Nat → Read Statement
  | 0 => unexpected dialect none
  | fuel + 1 => do
    blanks
    let subject ← readWord dialect
    if subject.isEmpty then unexpectedPlain dialect (some "word")
    else
      newlines
      expectWord dialect "in"
      return .select subject (← readBranches dialect fuel)

/-- The branches of a selection and the word that ends it. -/
def readBranches (dialect : Dialect) : Nat → Read (List (List Word × Statement))
  | 0 => unexpected dialect none
  | fuel + 1 => do
    newlines
    if (← bareWord?) == some "esac" then do
      Read.skip 4
      return []
    else
      if (← operator? dialect) == some "(" then Read.skip 1
      let patterns ← readPatterns dialect (← Read.rest).length
      let body ← readList dialect fuel true
      let branch := (patterns, match body with
        | [statement] => statement
        | statements => Statement.sequence statements)
      match ← operator? dialect with
      | some ";;" => do
        Read.skip 2
        return branch :: (← readBranches dialect fuel)
      | _ =>
        if (← bareWord?) == some "esac" then do
          Read.skip 4
          return [branch]
        else unexpected dialect (some ";;")

/-- A simple command, or the definition of a function. -/
def readSimpleOrFunction (dialect : Dialect) : Nat → Nat → Read Statement
  | 0, _ => unexpected dialect none
  | fuel + 1, line => do
    let command ← readSimple dialect ((← Read.rest).length + 1) ⟨[], [], [], line⟩
    match command.words, command.redirections.isEmpty && command.assignments.isEmpty with
    | [word], true =>
      if ← Read.startsWith "(" then do
        Read.skip 1
        blanks
        if (← operator? dialect) == some ")" then Read.skip 1
        else unexpectedPlain dialect (some ")")
        let name ← functionName dialect word
        newlines
        if ← isFunctionBody dialect then return .define name (← readCommand dialect fuel)
        else unexpected dialect none
      else return .simple command
    | words, _ =>
      if words.isEmpty && command.redirections.isEmpty && command.assignments.isEmpty then
        unexpected dialect none
      else return .simple command

end

/-- The next complete line of a script, and nothing at its end. -/
def readLine (dialect : Dialect) : Read (Option Statement) := do
  newlines
  let s ← Read.rest
  if s.isEmpty then return none
  else
    let statements ← readList dialect (16 * s.length + 16) false
    blanks
    match ← Read.rest with
    | [] => return some (.sequence statements)
    | '\n' :: _ => do
      Read.skip 1
      return some (.sequence statements)
    | _ => unexpected dialect none

/-- Whether nothing but blanks and comments is left. -/
def isAtEnd (source : Source) : Bool :=
  match newlines.run source with
  | .ok (_, source) => source.text.isEmpty
  | .error _ => true

/-- Reads a whole text and tells its first error, and the documents in front of it that have no
end. -/
def check (dialect : Dialect) : Nat → Source → List OpenDocument × Option SyntaxError
  | 0, source => (source.openDocuments, none)
  | fuel + 1, source =>
    match (readLine dialect).run source with
    | .error e => (source.openDocuments, some e)
    | .ok (none, source) => (source.openDocuments, none)
    | .ok (some _, source) => check dialect fuel source

end Overseer.Shell
