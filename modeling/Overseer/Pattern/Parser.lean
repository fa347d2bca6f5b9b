import Overseer.Pattern.Basic
import Overseer.Text.Digits

/-!
# Reading Patterns

The written form of patterns: literals and escapes, `.`, bracketed sets, the named classes
`\d \w \s` and their negations, groups, alternation, repetition with `* + ? {m} {m,} {m,n}` and
their lazy forms, the anchors `^ $` and the word boundary `\b`.  Text that is no pattern is
refused as a whole.

A text with anything else in it, such as a group with a name or a flag, is refused here.  Whoever
reads patterns in another dialect brings a dialect of their own.
-/

namespace Overseer.Pattern

/-- The character whose number hexadecimal digits write, of which there is at least one. -/
def charOfHex? (digits : List Char) : Option Char :=
  let n := Text.numberIn 16 digits
  if !digits.isEmpty && digits.all (Text.isDigitIn 16) && n.isValidChar then some (Char.ofNat n)
  else none

/-- A character given by its number: `count` digits, or any number of them between braces. -/
def readHex (count : Nat) (s : List Char) : Option (Char × List Char) :=
  match s with
  | '\x7b' :: s => do
    let digits := s.takeWhile (· != '\x7d')
    let c ← charOfHex? digits
    match s.drop digits.length with
    | _ :: rest => some (c, rest)
    | [] => none
  | s =>
    if s.length < count then none
    else (charOfHex? (s.take count)).map fun c => (c, s.drop count)

/-- What a backslash and the characters after it stand for. -/
inductive Escape where
  | char (c : Char)
  | named (cls : CharClass) (negated : Bool)
  | assertion (p : Pattern)

/-- Whether a backslash may stand before the character to take it literally. -/
def isEscapable (c : Char) : Bool :=
  c.toNat < 0x80 && !c.isAlphanum && c != '<' && c != '>'

/-- Reads what follows a backslash. -/
def readEscape : List Char → Option (Escape × List Char)
  | [] => none
  | c :: s =>
    match c with
    | 'd' => some (.named .digit false, s)
    | 'D' => some (.named .digit true, s)
    | 'w' => some (.named .word false, s)
    | 'W' => some (.named .word true, s)
    | 's' => some (.named .blank false, s)
    | 'S' => some (.named .blank true, s)
    | 'a' => some (.char '\x07', s)
    | 'f' => some (.char '\x0c', s)
    | 't' => some (.char '\t', s)
    | 'n' => some (.char '\n', s)
    | 'r' => some (.char '\r', s)
    | 'v' => some (.char '\x0b', s)
    | 'A' => some (.assertion .textStart, s)
    | 'z' => some (.assertion .textEnd, s)
    | 'b' => some (.assertion (.boundary false), s)
    | 'B' => some (.assertion (.boundary true), s)
    | 'x' => (readHex 2 s).map fun (c, s) => (.char c, s)
    | 'u' => (readHex 4 s).map fun (c, s) => (.char c, s)
    | 'U' => (readHex 8 s).map fun (c, s) => (.char c, s)
    | c => if isEscapable c then some (.char c, s) else none

/-- A member of a set, before it is known whether it starts a range. -/
def readSetItem : List Char → Option ((Char ⊕ CharSet) × List Char)
  | [] => none
  | '\\' :: s => do
    match ← readEscape s with
    | (.char c, s) => some (.inl c, s)
    | (.named cls negated, s) => some (.inr (.named cls negated), s)
    | (.assertion _, _) => none
  | c :: s => some (.inl c, s)

/-- A member of a set as a set. -/
def setOfItem : Char ⊕ CharSet → CharSet
  | .inl c => .range c c
  | .inr members => members

/-- Whether the rest goes on with a hyphen that makes a range of what stands before it. -/
def startsRange : List Char → Option (List Char)
  | '-' :: next :: s => if next == ']' || next == '-' then none else some (next :: s)
  | _ => none

/-- Reads the start of a set after its bracket: the negation, then hyphens that stand for
themselves, then a closing bracket that does if nothing stands before it. -/
def readSetOpening (s : List Char) : Bool × CharSet × List Char :=
  let (negated, s) := match s with
    | '^' :: s => (true, s)
    | s => (false, s)
  let hyphens := s.takeWhile (· == '-')
  let s := s.drop hyphens.length
  if hyphens.isEmpty then
    match s with
    | ']' :: s => (negated, .range ']' ']', s)
    | s => (negated, .none, s)
  else (negated, .range '-' '-', s)

/-- Reads the members of a set up to its closing bracket. -/
def readSet : Nat → Bool → CharSet → List Char → Option (CharSet × List Char)
  | 0, _, _, _ => none
  | _ + 1, _, _, [] => none
  | _ + 1, negated, members, ']' :: s => some (.bracket negated members, s)
  | fuel + 1, negated, members, '[' :: s => do
    let (innerNegated, start, s) := readSetOpening s
    let (inner, s) ← readSet fuel innerNegated start s
    readSet fuel negated (.union members inner) s
  | fuel + 1, negated, members, s => do
    let (item, s) ← readSetItem s
    match startsRange s with
    | none => readSet fuel negated (.union members (setOfItem item)) s
    | some s =>
      match item, ← readSetItem s with
      | .inl low, (.inl high, s) =>
        if low ≤ high then readSet fuel negated (.union members (.range low high)) s else none
      | _, _ => none

/-- A decimal number with white space on either side, below `2 ^ 32`. -/
def readCount (s : List Char) : Option (Nat × List Char) :=
  let s := Text.trimStart s
  let digits := s.takeWhile Char.isDigit
  if digits.isEmpty then none
  else
    let n := Text.numberIn 10 digits
    if n < Nat.pow 2 32 then some (n, Text.trimStart (s.drop digits.length)) else none

/-- Reads the counts of a repetition after its opening brace. -/
def readCounts (s : List Char) : Option (Nat × Option Nat × List Char) := do
  let (least, s) ← readCount s
  match s with
  | '\x7d' :: s => some (least, some least, s)
  | ',' :: '\x7d' :: s => some (least, none, s)
  | ',' :: s =>
    let (most, s) ← readCount s
    match s with
    | '\x7d' :: s => if least ≤ most then some (least, some most, s) else none
    | _ => none
  | _ => none

/-- Takes the question mark that makes a repetition lazy. -/
def takeLazy : List Char → Bool × List Char
  | '?' :: s => (false, s)
  | s => (true, s)

/-- Whether a character repeats what stands before it. -/
def isRepetition (c : Char) : Bool := c == '*' || c == '+' || c == '?' || c == '\x7b'

/-- Reads the repetitions that follow a pattern. -/
def readRepetitions : Nat → Pattern → List Char → Option (Pattern × List Char)
  | 0, _, _ => none
  | fuel + 1, p, c :: s => do
    if isRepetition c then
      let (least, most, s) ← match c with
        | '*' => some (0, none, s)
        | '+' => some (1, none, s)
        | '?' => some (0, some 1, s)
        | _ => readCounts s
      let (greedy, s) := takeLazy s
      readRepetitions fuel (.repeated p least most greedy) s
    else some (p, c :: s)
  | _ + 1, p, [] => some (p, [])

mutual

/-- Reads a pattern up to the end of its group. -/
def readAlternatives : Nat → List Char → Option (Pattern × List Char)
  | 0, _ => none
  | fuel + 1, s => do
    let (left, s) ← readSequence fuel .empty s
    match s with
    | '|' :: s =>
      let (right, s) ← readAlternatives fuel s
      some (.alt left right, s)
    | s => some (left, s)

/-- Reads one alternative behind what was read of it. -/
def readSequence : Nat → Pattern → List Char → Option (Pattern × List Char)
  | 0, _, _ => none
  | _ + 1, before, [] => some (before, [])
  | fuel + 1, before, c :: s =>
    if c == '|' || c == ')' then some (before, c :: s)
    else do
      let (atom, s) ← readAtom fuel c s
      let (atom, s) ← readRepetitions (s.length + 1) atom s
      readSequence fuel (.seq before atom) s

/-- Reads one atom that starts with a character. -/
def readAtom : Nat → Char → List Char → Option (Pattern × List Char)
  | 0, _, _ => none
  | fuel + 1, c, s =>
    match c with
    | '.' => some (.anyChar, s)
    | '^' => some (.textStart, s)
    | '$' => some (.textEnd, s)
    | '[' => do
      let (negated, start, s) := readSetOpening s
      let (members, s) ← readSet (2 * s.length + 1) negated start s
      some (.set members, s)
    | '\\' => do
      match ← readEscape s with
      | (.char c, s) => some (.literal c, s)
      | (.named cls negated, s) => some (.set (.named cls negated), s)
      | (.assertion p, s) => some (p, s)
    | '(' => do
      let s ← match s with
        | '?' :: ':' :: s => some s
        | '?' :: _ => none
        | s => some s
      match ← readAlternatives fuel s with
      | (p, ')' :: s) => some (p, s)
      | _ => none
    | c => if isRepetition c then none else some (.literal c, s)

end

/-- The pattern that a text writes, if it writes one. -/
def parse? (source : String) : Option Pattern :=
  let s := source.toList
  match readAlternatives (4 * s.length + 8) s with
  | some (p, []) => some p
  | _ => none

end Overseer.Pattern
