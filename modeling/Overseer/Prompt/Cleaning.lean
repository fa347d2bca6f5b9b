import Overseer.Text.Blank
import Overseer.Text.Deletion

/-!
# Cleaning a Line of Output

Scripts colour their output and decorate it with glyphs.  A line is searched for prompts after
its terminal escapes, then its decorations and at last the white space at its ends were removed.

Each of the two passes goes over the line once.  What stands on both sides of a piece that was taken
away may come together to form another one, and that is left where it is.
-/

namespace Overseer.Prompt

/-! ## Terminal escapes -/

/-- The character that begins an escape. -/
def escapeChar : Char := '\x1b'

/-- The bell, which may end an operating-system command. -/
def bell : Char := '\x07'

/-- Parameter characters of a control sequence. -/
def isParameter (c : Char) : Bool := '0' ≤ c && c ≤ '?'

/-- Intermediate characters of a control sequence. -/
def isIntermediate (c : Char) : Bool := ' ' ≤ c && c ≤ '/'

/-- Final characters of a control sequence. -/
def isFinal (c : Char) : Bool := '@' ≤ c && c ≤ '~'

/-- The width of the control sequence whose parameters begin here, without its two opening
characters; zero if it is incomplete. -/
def controlWidth (s : List Char) : Nat :=
  let parameters := s.takeWhile isParameter
  let s := s.drop parameters.length
  let intermediates := s.takeWhile isIntermediate
  match s.drop intermediates.length with
  | c :: _ => if isFinal c then parameters.length + intermediates.length + 1 else 0
  | [] => 0

/-- The width of the operating-system command whose text begins here, without its two opening
characters; zero if it is incomplete. -/
def commandWidth (s : List Char) : Nat :=
  let body := s.takeWhile fun c => c != bell && c != escapeChar
  match s.drop body.length with
  | '\x07' :: _ => body.length + 1
  | '\x1b' :: '\\' :: _ => body.length + 2
  | _ => 0

/-- The width of the escape that begins a text; zero if none does.  An opened sequence that is not
complete is no escape. -/
def escapeWidth : List Char → Nat
  | '\x1b' :: '[' :: s => match controlWidth s with | 0 => 0 | n => n + 2
  | '\x1b' :: ']' :: s => match commandWidth s with | 0 => 0 | n => n + 2
  | '\x1b' :: _ :: _ => 2
  | _ => 0

/-! ## Decorations -/

/-- Glyphs that decorate a line: symbols and dingbats, bullets and the variation selector. -/
def isGlyph (c : Char) : Bool :=
  let n := c.toNat
  (0x2600 ≤ n && n ≤ 0x27BF) || n == 0x2022 || n == 0x25BA || n == 0xFE0F

/-- The width of the mis-decoded warning sign behind its first letter, from the second on. -/
def warningTailWidth : List Char → Nat
  | '\u0161' :: '\u00a0' :: _ => 2
  | '\u0161' :: _ => 1
  | _ => 0

/-- The width of the decoration that begins a text; zero if none does.  Besides the glyphs it is
the warning sign in its mis-decoded spelling: `â`, at most one white space, `š` and at most one
no-break space. -/
def decorationWidth : List Char → Nat
  | [] => 0
  | c :: s =>
    if isGlyph c then 1
    else if c == '\u00e2' then
      match s with
      | [] => 0
      | d :: t =>
        -- The white space is no part of the sign, unless the rest of the sign stands behind it.
        if Text.isBlank d then match warningTailWidth t with | 0 => 0 | n => n + 2
        else match warningTailWidth s with | 0 => 0 | n => n + 1
    else 0

/-! ## The cleaned line -/

/-- The line without its terminal escapes, which are looked for in one pass from the left. -/
def stripEscapes (s : List Char) : List Char := Text.deletePieces escapeWidth s

/-- The line without its decorations, which are looked for in one pass from the left.  White space
between them is kept. -/
def stripDecorations (s : List Char) : List Char := Text.deletePieces decorationWidth s

/-- The line that is searched for prompts: without escapes first, then without decorations, and then
without white space at its ends. -/
def cleanLine (s : List Char) : List Char := Text.trim (stripDecorations (stripEscapes s))

end Overseer.Prompt
