/-!
# Shell Patterns

The patterns that match file names and the branches of a selection: `*` for any text, `?` for any
character and sets between brackets.  Quoted characters stand for themselves.

A pattern is read once, with the knowledge of which characters were quoted, and matched against many
names.
-/

namespace Overseer.Shell

/-- A part of a pattern. -/
inductive GlobItem where
  | char (c : Char)
  | one
  | many
  /-- One character inside, or outside, of some ranges. -/
  | set (negated : Bool) (ranges : List (Char × Char))
deriving DecidableEq

/-- A pattern. -/
abbrev Glob := List GlobItem

/-- A character and whether it is free of quotes. -/
abbrev GlobChar := Char × Bool

namespace Glob

/-- The ranges of a named class of characters. -/
def classRanges (name : String) : List (Char × Char) :=
  match name with
  | "alpha" => [('a', 'z'), ('A', 'Z')]
  | "digit" => [('0', '9')]
  | "alnum" => [('a', 'z'), ('A', 'Z'), ('0', '9')]
  | "upper" => [('A', 'Z')]
  | "lower" => [('a', 'z')]
  | "space" => [(' ', ' '), ('\t', '\r')]
  | "blank" => [(' ', ' '), ('\t', '\t')]
  | "punct" => [('!', '/'), (':', '@'), ('[', '\x60'), ('\x7b', '~')]
  | "xdigit" => [('0', '9'), ('a', 'f'), ('A', 'F')]
  | "print" => [(' ', '~')]
  | "graph" => [('!', '~')]
  | "cntrl" => [('\x00', '\x1f'), ('\x7f', '\x7f')]
  | _ => []

/-- The ranges up to the closing bracket, and what follows it.  A bracket that comes first is one of
the characters. -/
def readSet : Nat → Bool → List GlobChar → Option (List (Char × Char) × List GlobChar)
  | 0, _, _ => none
  | _ + 1, _, [] => none
  | fuel + 1, first, (c, active) :: s =>
    if c = ']' && active && !first then some ([], s)
    else
      let name := (s.drop 1).map (·.1) |>.takeWhile (· != ':')
      let behind := (s.drop (1 + name.length)).map (·.1)
      match c, s, behind with
      | '[', (':', _) :: _, ':' :: ']' :: _ =>
        (readSet fuel false (s.drop (name.length + 3))).map fun (ranges, s) =>
          (classRanges (String.ofList name) ++ ranges, s)
      | _, ('-', true) :: (d, _) :: t, _ =>
        -- A dash in front of the closing bracket is one of the characters.
        if d = ']' then
          (readSet fuel false s).map fun (ranges, s) => ((c, c) :: ranges, s)
        else (readSet fuel false t).map fun (ranges, s) => ((c, d) :: ranges, s)
      | _, _, _ => (readSet fuel false s).map fun (ranges, s) => ((c, c) :: ranges, s)

/-- The pattern that characters write. -/
def ofChars : Nat → List GlobChar → Glob
  | 0, _ => []
  | _ + 1, [] => []
  | fuel + 1, (c, active) :: s =>
    -- What was quoted stands for itself, whatever it is.
    if !active then .char c :: ofChars fuel s
    else
      match c with
      | '*' => .many :: ofChars fuel s
      | '?' => .one :: ofChars fuel s
      | '[' =>
        let (negated, t) := match s with
          | ('!', _) :: t | ('^', _) :: t => (true, t)
          | t => (false, t)
        match readSet (t.length + 1) true t with
        | some (ranges, rest) => .set negated ranges :: ofChars fuel rest
        -- A bracket without a partner stands for itself.
        | none => .char '[' :: ofChars fuel s
      | '\\' =>
        match s with
        | (d, _) :: t => .char d :: ofChars fuel t
        | [] => [.char '\\']
      | c => .char c :: ofChars fuel s

/-- The pattern that characters write. -/
def read (s : List GlobChar) : Glob := ofChars (s.length + 1) s

/-- Whether a character matches a part that takes one. -/
def itemMatches (item : GlobItem) (c : Char) : Bool :=
  match item with
  | .char d => c == d
  | .one => true
  | .many => false
  | .set negated ranges => ranges.any (fun (low, high) => low ≤ c && c ≤ high) != negated

/-- Whether a whole text matches a pattern. -/
def isMatch : Glob → List Char → Bool
  | [], s => s.isEmpty
  | .many :: glob, s =>
    isMatch glob s ||
      match s with
      | [] => false
      | _ :: t => isMatch (.many :: glob) t
  | _ :: _, [] => false
  | item :: glob, c :: s => itemMatches item c && isMatch glob s
termination_by glob s => (glob.length + s.length)

/-- Whether a pattern has a part that is no plain character. -/
def isActive (glob : Glob) : Bool := glob.any fun item => match item with
  | .char _ => false
  | _ => true

end Glob

end Overseer.Shell
