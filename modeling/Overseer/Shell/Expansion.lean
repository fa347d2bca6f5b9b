import Overseer.FileTree.Basic
import Overseer.Shell.Arithmetic
import Overseer.Shell.Glob
import Overseer.Shell.Session

/-!
# Shell Expansion

From words to fields: parameters, command output and arithmetic are put in their places, the text
that came from them is split, and patterns are replaced by the names of the files that match.

Every character of an expanded word keeps where it came from, since only what came from an expansion
is split, and only what was not quoted can be part of a pattern.  An expansion may set variables,
and it may fail.
-/

namespace Overseer.Shell

/-- Why a word cannot be expanded. -/
inductive ExpansionError where
  | unset (name : String)
  /-- A complaint that the word itself brings along. -/
  | required (name message : String)
  | malformed (text : String)
  | divisionByZero (text : String)
  | readonly (name : String)
  /-- A parameter in braces that means nothing. -/
  | invalid (source : String)
deriving DecidableEq

/-- Where a character of an expanded word comes from. -/
inductive Origin where
  /-- It was written without quotes. -/
  | literal
  /-- It came from an expansion without quotes, and may separate fields. -/
  | expanded
  | quoted
deriving DecidableEq

/-- A part of an expanded word. -/
inductive Atom where
  | char (c : Char) (origin : Origin)
  /-- There were quotes here, so the field counts even if it is empty. -/
  | mark
  /-- One field ends here and another begins. -/
  | boundary
deriving DecidableEq

/-- The state of an expansion: the session and the output of the commands in the words. -/
structure Expanding where
  session : Session
  outputs : List (List Char)

/-- An expansion. -/
abbrev Expand := StateT Expanding (Except ExpansionError)

/-! ## Command substitutions -/

mutual

/-- The commands whose output a word takes, in order. -/
def Word.commands : List Piece → List (List Char)
  | [] => []
  | piece :: pieces => piece.commands ++ Word.commands pieces

/-- The commands whose output words take. -/
def Word.allCommands : List (List Piece) → List (List Char)
  | [] => []
  | word :: words => Word.commands word ++ Word.allCommands words

/-- The commands whose output a piece takes. -/
def Piece.commands : Piece → List (List Char)
  | .text .. => []
  | .parameter _ _ arguments _ => Word.allCommands arguments
  | .substitution source _ => [source]
  | .arithmetic expression _ => Word.commands expression
  | .invalid _ => []

end

namespace Expand

/-- Refuses the word. -/
def fail {α : Type} (e : ExpansionError) : Expand α := throw e

/-- The session. -/
def session : Expand Session := do return (← get).session

/-- Changes the session. -/
def modifySession (f : Session → Session) : Expand Unit :=
  modify fun s => { s with session := f s.session }

/-- The output of the next command. -/
def nextOutput : Expand (List Char) := do
  let s ← get
  set { s with outputs := s.outputs.drop 1 }
  return s.outputs.headD []

/-- Passes over the output of commands in a word that is not needed. -/
def skipOutputs (word : Word) : Expand Unit :=
  modify fun s => { s with outputs := s.outputs.drop (Word.commands word).length }

/-- Gives a variable a value. -/
def assign (name value : String) : Expand Unit := do
  if ((← session).variableNamed? name).any (·.readonly) then fail (.readonly name)
  else modifySession fun s => s.assign name value

end Expand

/-! ## Arithmetic -/

/-- The integer that the value of a variable stands for. -/
def integerValue (s : Session) (name : String) : Int :=
  match s.value? name with
  | none => 0
  | some text =>
    let cs := text.toList.dropWhile fun c => c == ' ' || c == '\t'
    match cs with
    | '-' :: digits => -((Expr.readNumber? digits).getD 0)
    | '+' :: digits => (Expr.readNumber? digits).getD 0
    | digits => (Expr.readNumber? digits).getD 0

/-- The value of the arithmetic expression that a text writes. -/
def computeText (text : List Char) : Expand Int := do
  match Expr.read? text with
  | none => Expand.fail (.malformed (String.ofList text))
  | some e =>
    let s ← Expand.session
    match e.eval (integerValue s) [] with
    | .error .divisionByZero => Expand.fail (.divisionByZero (String.ofList text))
    | .error .malformed => Expand.fail (.malformed (String.ofList text))
    | .ok (n, changes) => do
      changes.reverse.forM fun (name, n) => Expand.assign name (toString n)
      return n

/-! ## Parameters -/

/-- Characters of one origin. -/
def atoms (s : List Char) (origin : Origin) : List Atom := s.map (.char · origin)

/-- The plain text of atoms, fields separated by blanks. -/
def atomText (as : List Atom) : List Char :=
  as.flatMap fun a => match a with
    | .char c _ => [c]
    | .mark => []
    | .boundary => [' ']

/-- The characters of atoms as those of a pattern. -/
def atomPattern (as : List Atom) : List GlobChar :=
  as.flatMap fun a => match a with
    | .char c origin => [(c, origin != .quoted)]
    | .mark => []
    | .boundary => [(' ', false)]

/-- The value of a parameter in a word. -/
def valueAtoms (value : List Char) (quoted : Bool) : List Atom :=
  if quoted then .mark :: atoms value .quoted else atoms value .expanded

/-- All arguments in a word, each a field of its own. -/
def argumentAtoms (arguments : List String) (quoted : Bool) : List Atom :=
  [Atom.boundary].intercalate (arguments.map fun a => valueAtoms a.toList quoted)

/-- The texts with their prefixes of every length, the shortest first. -/
def splits (s : List Char) : List (List Char × List Char) :=
  (List.range (s.length + 1)).map fun n => (s.take n, s.drop n)

/-- A text without the shortest or longest start that matches. -/
def dropStart (longest : Bool) (glob : Glob) (s : List Char) : List Char :=
  -- The first of these that matches is the one that is asked for.
  let all := if longest then (splits s).reverse else splits s
  ((all.find? fun (start, _) => glob.isMatch start).map (·.2)).getD s

/-- A text without the shortest or longest end that matches. -/
def dropEnd (longest : Bool) (glob : Glob) (s : List Char) : List Char :=
  let all := if longest then splits s else (splits s).reverse
  ((all.find? fun (_, rest) => glob.isMatch rest).map (·.1)).getD s

/-- A text with the first or every longest match replaced. -/
def replaceMatches (all : Bool) (glob : Glob) (replacement : List Char) :
    Nat → List Char → List Char
  | 0, s => s
  | fuel + 1, s =>
    match (splits s).reverse.find? fun (start, _) => !start.isEmpty && glob.isMatch start with
    | some (_, rest) =>
      replacement ++ if all then replaceMatches all glob replacement fuel rest else rest
    | none =>
      match s with
      | [] => []
      | c :: t => c :: replaceMatches all glob replacement fuel t

/-- A part of a text by its offset and length, both of which count from the end if they are
negative. -/
def partOf (s : List Char) (offset : Int) (length : Option Int) : List Char :=
  let start := (if offset < 0 then offset + s.length else offset).toNat
  let rest := s.drop start
  match length with
  | none => rest
  | some n => if n < 0 then rest.take (rest.length - n.natAbs) else rest.take n.toNat

/-- A text with its first or every letter in the other case. -/
def recase (upper all : Bool) (s : List Char) : List Char :=
  let change := fun c : Char => if upper then c.toUpper else c.toLower
  if all then s.map change
  else
    match s with
    | [] => []
    | c :: t => change c :: t

mutual

/-- The atoms of a word. -/
def expandPieces : List Piece → Expand (List Atom)
  | [] => return []
  | piece :: pieces => do
    let first ← expandPiece piece
    return first ++ (← expandPieces pieces)

/-- The atoms of a piece. -/
def expandPiece : Piece → Expand (List Atom)
  | .text s quoted =>
    return if quoted then .mark :: atoms s .quoted else atoms s .literal
  | .substitution _ quoted => do return valueAtoms (← Expand.nextOutput) quoted
  | .arithmetic expression quoted => do
    let text := atomText (← expandPieces expression)
    return valueAtoms (toString (← computeText text)).toList quoted
  | .invalid source => Expand.fail (.invalid source)
  | .parameter name op arguments quoted => do
    let s ← Expand.session
    let value := s.parameter? name
    let missing := fun colon => value.isNone || (colon && value == some "")
    let plain : Expand (List Atom) :=
      if name = "@" || (name = "*" && !quoted) then
        return argumentAtoms s.parameters quoted
      else
        match value with
        | some v => return valueAtoms v.toList quoted
        | none =>
          if s.options.requireSet && name != "@" && name != "*" then Expand.fail (.unset name)
          else return valueAtoms [] quoted
    let inner (as : List Atom) : List Atom :=
      if quoted then as
      else as.map fun a => match a with
        | .char c .literal => .char c .expanded
        | a => a
    match op, arguments with
    | .plain, _ => plain
    | .length, _ =>
      if value.isNone && s.options.requireSet then Expand.fail (.unset name)
      else
        let n := if name = "@" || name = "*" then s.parameters.length
          else (value.getD "").length
        return valueAtoms (toString n).toList quoted
    | .default colon, word :: _ =>
      if missing colon then do return inner (← expandPieces word)
      else do
        -- The commands in the word were run before, so their output has to be passed over.
        Expand.skipOutputs word
        plain
    | .assign colon, word :: _ =>
      if missing colon then do
        let text := atomText (← expandPieces word)
        Expand.assign name (String.ofList text)
        return valueAtoms text quoted
      else do
        Expand.skipOutputs word
        plain
    | .alternative colon, word :: _ =>
      if missing colon then do
        Expand.skipOutputs word
        return if quoted then [.mark] else []
      else do return inner (← expandPieces word)
    | .require colon, word :: _ =>
      if missing colon then do
        let text := atomText (← expandPieces word)
        let usual := if colon then "parameter not set or null" else "parameter not set"
        let usual := if s.dialect = .dash then
            (if colon then "parameter not set or null" else "parameter not set")
          else (if colon then "parameter null or not set" else usual)
        Expand.fail (.required name (if text.isEmpty then usual else String.ofList text))
      else do
        Expand.skipOutputs word
        plain
    | .dropStart longest, word :: _ => do
      let glob := Glob.read (atomPattern (← expandPieces word))
      return valueAtoms (dropStart longest glob (value.getD "").toList) quoted
    | .dropEnd longest, word :: _ => do
      let glob := Glob.read (atomPattern (← expandPieces word))
      return valueAtoms (dropEnd longest glob (value.getD "").toList) quoted
    | .replace all, word :: others => do
      let glob := Glob.read (atomPattern (← expandPieces word))
      let replacement := atomText (← expandFirst others)
      let text := (value.getD "").toList
      return valueAtoms (replaceMatches all glob replacement (text.length + 1) text) quoted
    | .part, word :: others => do
      let offset ← computeText (atomText (← expandPieces word))
      let text := (value.getD "").toList
      if others.isEmpty then return valueAtoms (partOf text offset none) quoted
      else
        let length ← computeText (atomText (← expandFirst others))
        return valueAtoms (partOf text offset (some length)) quoted
    | .recase upper all, _ =>
      return valueAtoms (recase upper all (value.getD "").toList) quoted
    | _, [] => plain

/-- The atoms of the first of some words. -/
def expandFirst : List (List Piece) → Expand (List Atom)
  | [] => return []
  | word :: _ => expandPieces word

end

/-! ## Fields -/

/-- A field under construction: its characters, last first, and whether it counts. -/
structure FieldDraft where
  chars : List GlobChar
  counts : Bool

/-- The state of splitting: fields, last first, the field under construction, and whether the last
one was ended by blanks alone. -/
structure Splitting where
  fields : List (List GlobChar)
  draft : FieldDraft
  endedByBlank : Bool

namespace Splitting

/-- Nothing split yet. -/
def empty : Splitting := ⟨[], ⟨[], false⟩, false⟩

/-- Ends the field under construction. -/
def close (s : Splitting) (byBlank : Bool) : Splitting :=
  ⟨s.draft.chars.reverse :: s.fields, ⟨[], false⟩, byBlank⟩

/-- Takes an atom. -/
def step (separators : List Char) (s : Splitting) : Atom → Splitting
  | .mark => { s with draft := { s.draft with counts := true } }
  | .boundary => if s.draft.counts then s.close true else s
  | .char c origin =>
    if origin = .expanded && separators.contains c then
      if c == ' ' || c == '\t' || c == '\n' then if s.draft.counts then s.close true else s
      else if s.draft.counts then s.close false
      else if s.endedByBlank then { s with endedByBlank := false }
      else s.close false
    else ⟨s.fields, ⟨(c, origin != .quoted) :: s.draft.chars, true⟩, s.endedByBlank⟩

/-- The fields at the end. -/
def finish (s : Splitting) : List (List GlobChar) :=
  (if s.draft.counts then s.close false else s).fields.reverse

end Splitting

/-- The fields that atoms make. -/
def splitAtoms (separators : List Char) (as : List Atom) : List (List GlobChar) :=
  (as.foldl (Splitting.step separators) .empty).finish

/-! ## File names -/

/-- The parts of a pattern between slashes. -/
def splitPattern (s : List GlobChar) : List (List GlobChar) :=
  let (first, others) := s.foldr (fun c (first, others) =>
    if c.1 = '/' then ([], first :: others) else (c :: first, others))
    (([], []) : List GlobChar × List (List GlobChar))
  first :: others

/-- The text of the characters of a field. -/
def fieldText (s : List GlobChar) : List Char := s.map (·.1)

/-- The paths that begin with `start` and go on as the parts of a pattern say. -/
def matchingPaths (tree : FileTree) (directory : Place) (start : List Char) :
    List (List GlobChar) → List (List Char)
  | [] => [start]
  | part :: parts =>
    let glob := Glob.read part
    let goOn (path : List Char) : List (List Char) :=
      match parts with
      | [] => [path]
      | _ => matchingPaths tree directory (path ++ ['/']) parts
    if part.isEmpty || !glob.isActive then goOn (start ++ fieldText part)
    else
      let here := Raw.toText (String.ofList (if start.isEmpty then ['.'] else start))
      match tree.list directory here with
      | .error _ => []
      | .ok entries =>
        let hidden := (part.head?.map (·.1)) == some '.'
        let names := (entries.map fun (name, _) => (Raw.ofText name).toList).filter fun name =>
          glob.isMatch name && (hidden || name.head? != some '.')
        (names.mergeSort fun a b => decide (String.ofList a ≤ String.ofList b)).flatMap fun name =>
          goOn (start ++ name)

/-- The names of the files that match a field, or the field itself if it is no pattern or nothing
matches. -/
def expandPaths (tree : FileTree) (directory : Place) (field : List GlobChar) : List String :=
  if !(Glob.read field).isActive then [String.ofList (fieldText field)]
  else
    let paths := (matchingPaths tree directory [] (splitPattern field)).filter fun path =>
      match tree.resolve directory (Raw.toText (String.ofList path)) false with
      | .ok _ => true
      | .error _ => false
    if paths.isEmpty then [String.ofList (fieldText field)] else paths.map String.ofList

/-! ## Words -/

/-- A word whose leading tilde is replaced by the home directory. -/
def expandTilde (s : Session) (word : Word) : Word :=
  match word with
  | .text ('~' :: rest) false :: pieces =>
    if rest.isEmpty && pieces.isEmpty || rest.head? == some '/' then
      match s.value? "HOME" with
      | some home => .text home.toList true :: .text rest false :: pieces
      | none => word
    else word
  | _ => word

/-- The parts of a text between commas, outside of inner braces, if there are two at least. -/
def splitCommas : Nat → List Char → List (List Char)
  | _, [] => [[]]
  | depth, c :: s =>
    if c = ',' && depth = 0 then [] :: splitCommas 0 s
    else
      let depth := if c = '\x7b' then depth + 1 else if c = '\x7d' then depth - 1 else depth
      match splitCommas depth s with
      | part :: parts => (c :: part) :: parts
      | [] => [[c]]

/-- The text inside the braces that were opened before, and the text behind them. -/
def splitBraces : Nat → List Char → Option (List Char × List Char)
  | _, [] => none
  | depth, c :: s =>
    if c = '\x7d' && depth = 0 then some ([], s)
    else
      let depth := if c = '\x7b' then depth + 1 else if c = '\x7d' then depth - 1 else depth
      (splitBraces depth s).map fun (inside, rest) => (c :: inside, rest)

/-- The texts that a range between braces stands for. -/
def rangeTexts (inside : List Char) : Option (List (List Char)) :=
  match (String.ofList inside).splitOn ".." with
  | [a, b] =>
    match a.toInt?, b.toInt? with
    | some low, some high =>
      let count := (high - low).natAbs + 1
      some ((List.range count).map fun (i : Nat) =>
        (toString (if low ≤ high then low + (i : Int) else low - (i : Int))).toList)
    | _, _ =>
      match a.toList, b.toList with
      | [x], [y] =>
        let low := x.toNat
        let high := y.toNat
        let count := (if low ≤ high then high - low else low - high) + 1
        some ((List.range count).map fun i =>
          [Char.ofNat (if low ≤ high then low + i else low - i)])
      | _, _ => none
  | _ => none

/-- The texts that a text with braces stands for. -/
def braceTexts : Nat → List Char → List (List Char)
  | 0, s => [s]
  | fuel + 1, s =>
    let before := s.takeWhile (· != '\x7b')
    match s.drop before.length with
    | _ :: after =>
      match splitBraces 0 after with
      | none => [s]
      | some (inside, rest) =>
        let parts := splitCommas 0 inside
        let choices := if parts.length > 1 then some (parts.flatMap (braceTexts fuel))
          else rangeTexts inside
        match choices with
        | none => (braceTexts fuel rest).map fun t => before ++ '\x7b' :: inside ++ '\x7d' :: t
        | some choices =>
          choices.flatMap fun c => (braceTexts fuel rest).map fun t => before ++ c ++ t
    | [] => [s]

/-- The words that a word with braces stands for; only words without quotes and expansions are
looked at. -/
def expandBraces (dialect : Dialect) (word : Word) : List Word :=
  match dialect, word with
  | .bash, [.text s false] =>
    if s.contains '\x7b' then (braceTexts (s.length + 1) s).map fun t => [.text t false] else [word]
  | _, word => [word]

/-- The text of a word, not split. -/
def expandText (word : Word) : Expand String := do
  let word := expandTilde (← Expand.session) word
  return String.ofList (atomText (← expandPieces word))

/-- The pattern that a word writes. -/
def expandPattern (word : Word) : Expand Glob := do
  return Glob.read (atomPattern (← expandPieces word))

/-- The fields of a word. -/
def expandWord (tree : FileTree) (directory : Place) (word : Word) : Expand (List String) := do
  let s ← Expand.session
  let fields := splitAtoms s.separators (← expandPieces (expandTilde s word))
  return fields.flatMap fun field =>
    if s.options.noGlob then [String.ofList (fieldText field)]
    else expandPaths tree directory field

/-- The fields of words. -/
def expandWords (tree : FileTree) (directory : Place) (words : List Word) :
    Expand (List String) := do
  let s ← Expand.session
  let fields ← (words.flatMap (expandBraces s.dialect)).mapM (expandWord tree directory)
  return fields.flatten

end Overseer.Shell
