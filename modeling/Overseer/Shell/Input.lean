import Overseer.Shell.Scene

/-!
# Reading Lines

How a shell reads a line of its input into variables.

One character is taken at a time, so that a line may come in several pieces, and nothing behind its
newline is taken.  What was read before a deadline is kept.
-/

namespace Overseer.Shell

/-- A character that was read, and whether a backslash took its meaning from it. -/
abbrev InputChar := Char × Bool

namespace LineReading

/-- What a character does to a line that is being read: the line goes on, or it is complete. -/
inductive Taken where
  | goesOn (r : LineReading)
  | complete (r : LineReading)

/-- Takes a character. -/
def take (r : LineReading) (c : Char) : Taken :=
  if r.escaping then
    .goesOn { r with
      escaping := false
      -- A backslash in front of a newline joins two lines. Elsewhere it takes the meaning of the
      -- character.
      read := if c = '\n' then r.read else (c, true) :: r.read }
  else if c = '\\' && !r.raw then .goesOn { r with escaping := true }
  else if c = '\n' then .complete r
  else if c = '\x00' then .goesOn r
  else .goesOn { r with read := (c, false) :: r.read }

/-- Whether a character separates fields. -/
def separates (separators : List Char) (c : InputChar) : Bool := !c.2 && separators.contains c.1

/-- Whether a character is a blank that separates fields. -/
def isBlank (separators : List Char) (c : InputChar) : Bool :=
  separates separators c && (c.1 == ' ' || c.1 == '\t' || c.1 == '\n')

/-- The text of characters. -/
def text (s : List InputChar) : String := String.ofList (s.map (·.1))

/-- The values of variables: each gets a field, and the last one all that is left. -/
def fields (separators : List Char) : List String → List InputChar → List (String × String)
  | [], _ => []
  | [name], s =>
    let s := s.dropWhile (isBlank separators)
    [(name, text (s.reverse.dropWhile (isBlank separators)).reverse)]
  | name :: names, s =>
    let s := s.dropWhile (isBlank separators)
    let field := s.takeWhile fun c => !separates separators c
    let rest := (s.drop field.length).dropWhile (isBlank separators)
    -- Blanks around one other separator belong to it, so only that one counts.
    let rest := match rest with
      | c :: others => if separates separators c then others else rest
      | [] => []
    (name, text field) :: fields separators names rest

/-- What becomes of reading a line. -/
inductive Progress where
  | waits
  | goesOn (m : Computer) (r : LineReading)
  /-- The line ends, and whether by a newline. -/
  | ends (m : Computer) (r : LineReading) (complete : Bool)

/-- Reads at most `fuel` characters. -/
def advance (h : Handle) : Nat → Bool → Computer → LineReading → Progress
  | 0, _, m, r => .goesOn m r
  | fuel + 1, any, m, r =>
    match m.read h 1 with
    | (.bytes bytes, m) =>
      match r.take ((Raw.ofBytes bytes).headD '\n') with
      | .goesOn r => advance h fuel true m r
      | .complete r => .ends m r true
    | (.blocked, _) => if any then .goesOn m r else .waits
    | (.ended, m) | (.failed _, m) => .ends m r false

end LineReading

namespace Scene

/-- Gives the variables of a line their values. -/
def assignLine (s : Scene) (r : LineReading) (status : Nat) : Scene :=
  -- Without names the line is taken as it is, blanks included.
  let values := if r.names = ["REPLY"] then [("REPLY", LineReading.text r.read.reverse)]
    else LineReading.fields s.session.separators r.names r.read.reverse
  (s.mapSession fun t => values.foldl (fun t (name, value) => t.assign name value) t).value status

/-- How many characters are read in one step. -/
def readLimit : Nat := 4096

/-- Reads on, unless there is nothing to read. -/
def readOn (s : Scene) (r : LineReading) : Option Scene :=
  -- What was read before the time had come is kept.
  if r.deadline.any (· ≤ s.machine.now) then some (s.assignLine r 142)
  else
    match s.process.handle? 0 with
    | none =>
      let s := match s.session.dialect with
        | .dash => s
        | .bash => s.complain "read: read error: 0: Bad file descriptor"
      some (s.assignLine r 1)
    | some h =>
      match LineReading.advance h readLimit false s.machine r with
      | .waits => none
      | .goesOn machine r => some (({ s with machine } : Scene).control (.reading r))
      | .ends machine r complete =>
        some (({ s with machine } : Scene).assignLine r (if complete then 0 else 1))

end Scene

end Overseer.Shell
