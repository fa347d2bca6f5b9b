import Overseer.Pattern.Matching
import Overseer.Pattern.Parser
import Overseer.Prompt.Cleaning

/-!
# Prompt Patterns

A run waits for an answer when a line of its output holds a prompt: when one of the patterns of
the run is found in the cleaned line.

A pattern counts by what it finds only.  Which texts are patterns, and what each of them finds, is
the matter of a dialect; the program reads its patterns in the standard one.

The patterns of a run are tried in their order, and the first that is found anywhere in the line
names the prompt; where in the line it is found does not count.
-/

namespace Overseer.Prompt

/-- What a pattern finds: the part of a text that it matches first, if there is one.  How it is
looked for is left to the dialect. -/
abbrev Finder := List Char → Option (List Char)

/-- How patterns are written: what each text finds as a pattern, unless it is none. -/
abbrev Dialect := String → Option Finder

/-- The dialect of the program. -/
def Dialect.standard : Dialect := fun source =>
  (Pattern.parse? source).map fun pattern s => (pattern.find? s).map (·.text)

/-- A pattern by the text it was written as and by what it finds.  The written form is what a
detected prompt names. -/
structure PromptPattern where
  source : String
  find? : Finder

/-- The patterns of a run, in the order they are tried. -/
abbrev PromptPatterns := List PromptPattern

/-- A prompt found in a line. -/
structure DetectedPrompt where
  /-- The written form of the pattern that was found. -/
  source : String
  /-- The part of the cleaned line that matched. -/
  matched : String
  /-- The cleaned line. -/
  line : String
deriving DecidableEq

namespace PromptPatterns

/-- Reads a list of patterns.  One that is no pattern makes the whole list invalid. -/
def compileIn? (dialect : Dialect) (sources : List String) : Option PromptPatterns :=
  sources.mapM fun source => (dialect source).map (⟨source, ·⟩)

/-- Reads a list of patterns as the program does. -/
def compile? (sources : List String) : Option PromptPatterns := compileIn? .standard sources

/-- The written form of the backup confirmation that update scripts ask for.  White space may stand
nearly anywhere in it, and the brackets may be missing. -/
def backupSource : String := "backup\\?\\s*\\[?\\s*y\\s*/\\s*n\\s*\\]?"

/-- The backup confirmation alone. -/
def backup : PromptPatterns := (compile? [backupSource]).getD []

/-- No pattern, for runs that never stop for input. -/
def none : PromptPatterns := []

/-- The first pattern that is found in the cleaned line.  Later patterns are not looked for, even if
they would be found further to the left. -/
def findIn (cleaned : List Char) : PromptPatterns → Option DetectedPrompt
  | [] => .none
  | p :: ps =>
    match p.find? cleaned with
    | some matched => some ⟨p.source, String.ofList matched, String.ofList cleaned⟩
    | .none => findIn cleaned ps

/-- The prompt in a raw line of output.  Without patterns the line is not even cleaned. -/
def detect (patterns : PromptPatterns) (raw : String) : Option DetectedPrompt :=
  if patterns.isEmpty then .none else findIn (cleanLine raw.toList) patterns

/-- Whether a raw line holds a prompt. -/
def detects (patterns : PromptPatterns) (raw : String) : Bool := (patterns.detect raw).isSome

end PromptPatterns

end Overseer.Prompt
