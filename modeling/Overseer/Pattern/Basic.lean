import Overseer.Text.Blank
import Overseer.Text.CaseFold
import Overseer.Text.DecimalDigits
import Overseer.Text.WordChars

/-!
# Search Patterns

Patterns that are looked for in a line of output.  A pattern knows no difference between the
spellings of a letter: a literal stands for every character with the same fold, and a bracketed
set holds every spelling of each of its members before it is negated.

Patterns are those of the standard dialect, in which the settings of the program are written.
Supervisors know of no patterns, but of finders only.
-/

namespace Overseer

/-- A class of characters with a name of its own. -/
inductive CharClass where
  | digit
  | word
  | blank
deriving DecidableEq

/-- The characters of a named class. -/
def CharClass.contains : CharClass → Char → Bool
  | .digit, c => Text.isDecimalDigit c
  | .word, c => Text.isWordChar c
  | .blank, c => Text.isBlank c

/-- What stands between the brackets of a set, and the brackets themselves. -/
inductive CharSet where
  | none
  | range (low high : Char)
  | named (cls : CharClass) (negated : Bool)
  | union (left right : CharSet)
  | bracket (negated : Bool) (inner : CharSet)
deriving DecidableEq

/-- The characters of a set.  Brackets add all spellings of the members and then negate. -/
def CharSet.contains : CharSet → Char → Bool
  | .none, _ => false
  | .range low high, c => low ≤ c && c ≤ high
  | .named cls negated, c => negated != cls.contains c
  | .union left right, c => left.contains c || right.contains c
  | .bracket negated inner, c => negated != (Text.caseVariants c).any fun d => inner.contains d

/-- A pattern.  An alternation prefers its left side; a repetition prefers more rounds when it
is greedy and fewer when it is not. -/
inductive Pattern where
  | empty
  | literal (c : Char)
  | anyChar
  | set (members : CharSet)
  | boundary (negated : Bool)
  | textStart
  | textEnd
  | seq (first second : Pattern)
  | alt (left right : Pattern)
  | repeated (body : Pattern) (least : Nat) (most : Option Nat) (greedy : Bool)
deriving DecidableEq

end Overseer
