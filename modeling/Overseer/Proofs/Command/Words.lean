import Overseer.Command.Basic

/-!
# The Words of a Shown Command

A command is shown as a line that a shell would take apart into the words of the command: the
program and its arguments, whatever characters they hold.  The line is read character by character,
and each part of it, from one shown character to the whole line, takes the reading from one state to
the next.

- `Shell.words?`: the words of a line
- `Shell.Reading.foldlM_showWord`: a shown word is read back
- `Command.readsBack_display`: so is a shown command, and no other command is shown alike
-/

namespace Overseer

/-! ## Section 1: The words of a line

The rules are those of a shell that expands nothing.  A character that would be expanded makes the
line no list of words, so that whoever shows a command has to quote it. -/

namespace Shell

/-- How the next character of a line is read. -/
inductive Quoting where
  | unquoted
  /-- Between single quotes. -/
  | quoted
  /-- Behind a backslash that is not quoted. -/
  | escaped
deriving DecidableEq

/-- A line that has been read up to some character. -/
structure Reading where
  /-- The words that have ended, in order. -/
  finished : List (List Char)
  /-- The word that has begun and not ended.  Quotes begin a word even if nothing stands between
  them. -/
  word : Option (List Char)
  quoting : Quoting
deriving DecidableEq

/-- The characters that end a word, make an operator or are expanded where they are not quoted. -/
def special : List Char := "|&;<>()$`\"*?[#~\t\n".toList

namespace Reading

/-- Nothing of the next word has been read. -/
def behind (finished : List (List Char)) : Reading := ⟨finished, none, .unquoted⟩

/-- Pieces that stand side by side are one word. -/
def join (r : Reading) (piece : List Char) : Reading :=
  { r with word := some (r.word.getD [] ++ piece) }

/-- The word ends, if one has begun. -/
def close (r : Reading) : Reading := ⟨r.finished ++ r.word.toList, none, .unquoted⟩

/-- One character is read.  A space ends a word and a backslash takes the next character as it is,
unless they are quoted; between single quotes each character stands for itself.  A line in which
another special character is not quoted has no words. -/
def step (r : Reading) (c : Char) : Option Reading :=
  match r.quoting with
  | .quoted => if c = '\'' then some { r with quoting := .unquoted } else some (r.join [c])
  | .escaped => some { r.join [c] with quoting := .unquoted }
  | .unquoted =>
    if c = ' ' then some r.close
    else if c = '\'' then some { r.join [] with quoting := .quoted }
    else if c = '\\' then some { r with quoting := .escaped }
    else if c ∈ special then none
    else some (r.join [c])

/-- The words, if the line may end here: nothing is quoted any more. -/
def finish? (r : Reading) : Option (List (List Char)) :=
  if r.quoting = .unquoted then some r.close.finished else none

end Reading

/-- The words of a line by the rules of a shell, or nothing if a quote is left open, a backslash
ends the line or a special character is not quoted. -/
def words? (line : String) : Option (List String) :=
  ((line.toList.foldlM Reading.step (.behind [])).bind Reading.finish?).map (·.map String.ofList)

/-! ## Section 2: Shown words

The reading is a fold that may fail, so each lemma is about what one piece of a shown word makes of
any reading.  Quoting splits a word with a quote in it into several pieces that stand side by side.
-/

namespace Reading

open Command (isPlain quoteChar showWord)

variable {r r' : Reading} {c : Char} {cs : List Char}

/-- The rest of a line is read from where its front has led. -/
theorem foldlM_append_of (h : cs.foldlM step r = some r') (rest : List Char) :
    (cs ++ rest).foldlM step r = rest.foldlM step r' := by
  rw [List.foldlM_append, h]
  rfl

theorem foldlM_cons_of (h : r.step c = some r') (rest : List Char) :
    (c :: rest).foldlM step r = rest.foldlM step r' := by
  rw [List.foldlM_cons, h]
  rfl

@[simp] theorem join_join (r : Reading) (front back : List Char) :
    (r.join front).join back = r.join (front ++ back) := by
  simp only [join, Option.getD_some, List.append_assoc]

/-- A plain character has no meaning of its own. -/
theorem ne_of_isPlain {c d : Char} (hc : isPlain c) (hd : d ∈ ' ' :: '\'' :: '\\' :: special) :
    c ≠ d := by
  have hspecial : (' ' :: '\'' :: '\\' :: special).all fun d => !isPlain d := by decide
  rintro rfl
  have hnot : (!isPlain c) = true := List.all_eq_true.mp hspecial c hd
  rw [hc] at hnot
  exact Bool.false_ne_true hnot

theorem step_of_isPlain (hr : r.quoting = .unquoted) (hc : isPlain c) :
    r.step c = some (r.join [c]) := by
  have hspecial : c ∉ special := fun hmem => ne_of_isPlain hc (by simp [hmem]) rfl
  unfold step
  rw [hr]
  dsimp only
  rw [if_neg (ne_of_isPlain hc (by simp)), if_neg (ne_of_isPlain hc (by simp)),
    if_neg (ne_of_isPlain hc (by simp)), if_neg hspecial]

/-- Plain characters go on with the word as they are. -/
theorem foldlM_plain (hr : r.quoting = .unquoted) (hcs : cs.all isPlain) (piece : List Char) :
    cs.foldlM step (r.join piece) = some (r.join (piece ++ cs)) := by
  induction cs generalizing piece with
  | nil =>
    rw [List.append_nil]
    rfl
  | cons c cs ih =>
    obtain ⟨hc, hcs⟩ : isPlain c ∧ cs.all isPlain := by simpa using hcs
    have hjoin : (r.join piece).quoting = .unquoted := hr
    rw [foldlM_cons_of (step_of_isPlain hjoin hc), join_join, List.append_cons piece c cs]
    exact ih hcs (piece ++ [c])

/-- A plain word is read back.  Its first character begins it. -/
theorem foldlM_plainWord (hr : r.quoting = .unquoted) {word : List Char} (hne : word ≠ [])
    (hword : word.all isPlain) : word.foldlM step r = some (r.join word) := by
  obtain ⟨c, cs, rfl⟩ := List.exists_cons_of_ne_nil hne
  obtain ⟨hc, hcs⟩ : isPlain c ∧ cs.all isPlain := by simpa using hword
  rw [foldlM_cons_of (step_of_isPlain hr hc)]
  exact foldlM_plain hr hcs [c]

/-- A word has been begun by an open quote, and so much of what is quoted has been read. -/
def within (r : Reading) (piece : List Char) : Reading := { r.join piece with quoting := .quoted }

/-- **A character between quotes** is read back, a quote by way of a closed and reopened pair.  The
reading is back between quotes behind it. -/
theorem foldlM_quoteChar (r : Reading) (piece : List Char) (c : Char) :
    (quoteChar c).foldlM step (r.within piece) = some (r.within (piece ++ [c])) := by
  unfold quoteChar
  split
  · next hquote =>
    subst hquote
    -- closed, escaped, a quote, opened
    simp [step, within, join]
  · next hother =>
    simp [step, within, join, hother]

theorem foldlM_flatMap_quoteChar (r : Reading) (piece cs : List Char) :
    (cs.flatMap quoteChar).foldlM step (r.within piece) = some (r.within (piece ++ cs)) := by
  induction cs generalizing piece with
  | nil =>
    rw [List.append_nil]
    rfl
  | cons c cs ih =>
    rw [List.flatMap_cons, foldlM_append_of (foldlM_quoteChar r piece c),
      List.append_cons piece c cs]
    exact ih (piece ++ [c])

/-- A quoted word is read back, also if nothing stands between the quotes. -/
theorem foldlM_quotedWord (hr : r.quoting = .unquoted) (word : List Char) :
    ('\'' :: word.flatMap quoteChar ++ ['\'']).foldlM step r = some (r.join word) := by
  -- the first quote opens, the last one closes, and between them everything is taken as it is
  have hopen : r.step '\'' = some (r.within []) := by
    unfold step
    rw [hr]
    rfl
  have hclose : (r.within word).step '\'' = some (r.join word) := by
    show some { r.join word with quoting := .unquoted } = _
    rw [← hr]
    rfl
  rw [List.cons_append, foldlM_cons_of hopen,
    foldlM_append_of (foldlM_flatMap_quoteChar r [] word)]
  exact foldlM_cons_of hclose []

/-- **A shown word is read back**, be it plain or quoted. -/
theorem foldlM_showWord (hr : r.quoting = .unquoted) (word : List Char) :
    (showWord word).foldlM step r = some (r.join word) := by
  unfold showWord
  split
  · next hplain =>
    obtain ⟨hne, hword⟩ : word ≠ [] ∧ word.all isPlain := by simpa using hplain
    exact foldlM_plainWord hr hne hword
  · exact foldlM_quotedWord hr word

/-- **Shown words are read back** from a line with a space between them.  The induction is on the
words, and behind each space the reading is outside of quotes. -/
theorem finish?_intercalate (finished : List (List Char)) (word : List Char)
    (words : List (List Char)) :
    (([' '].intercalate ((word :: words).map showWord)).foldlM step (behind finished)).bind
        finish? = some (finished ++ word :: words) := by
  induction words generalizing finished word with
  | nil =>
    rw [List.map_singleton, List.intercalate_singleton, foldlM_showWord rfl]
    rfl
  | cons next words ih =>
    -- the space ends the word, and the rest is read behind it
    have hspace : ((behind finished).join word).step ' ' = some (behind (finished ++ [word])) := rfl
    rw [List.map_cons, List.map_cons, List.intercalate_cons_cons, List.append_assoc,
      foldlM_append_of (foldlM_showWord rfl word), List.singleton_append, foldlM_cons_of hspace,
      List.append_cons finished word (next :: words)]
    exact ih (finished ++ [word]) next

end Reading

end Shell

/-! ## Section 3: Shown commands

Reading the shown line is a left inverse of showing; that commands are not shown alike follows from
it. -/

namespace Command

open Shell.Reading (finish?_intercalate)

theorem toList_display (command : Command) :
    command.display.toList =
      [' '].intercalate ((command.words.map String.toList).map showWord) := by
  rw [display, String.toList_ofList, List.map_map]
  rfl

theorem words?_display (command : Command) :
    Shell.words? command.display = some command.words := by
  have hread : ((command.display.toList.foldlM Shell.Reading.step (.behind [])).bind
      Shell.Reading.finish?) = some (command.words.map String.toList) := by
    rw [toList_display]
    exact finish?_intercalate [] command.program.toList (command.arguments.map String.toList)
  unfold Shell.words?
  rw [hread, Option.map_some, List.map_map]
  exact congrArg some (List.map_id'' (fun word => String.ofList_toList) command.words)

/-- **A shown command is read back** as its program and its arguments.  So commands that differ in
one of them are not shown alike. -/
theorem readsBack_display (command : Command) :
    Shell.words? command.display = some (command.program :: command.arguments) ∧
      ∀ other : Command, command.display = other.display ↔
        command.program = other.program ∧ command.arguments = other.arguments := by
  constructor
  · exact words?_display command
  intro other
  constructor
  · intro hdisplay
    -- one line has one reading
    have hwords : some command.words = some other.words := by
      rw [← words?_display command, ← words?_display other, hdisplay]
    injection hwords with hwords
    injection hwords with hprogram harguments
    exact ⟨hprogram, harguments⟩
  · rintro ⟨hprogram, harguments⟩
    rw [display, display, words, words, hprogram, harguments]

/-- A word in quotes, one with a quote in it and one that is empty. -/
example :
    (Command.new "echo" ["a b", "it's", ""]).display = "echo 'a b' 'it'\\''s' ''" ∧
      Shell.words? "echo 'a b' 'it'\\''s' ''" = some ["echo", "a b", "it's", ""] := by
  decide

end Command

end Overseer
