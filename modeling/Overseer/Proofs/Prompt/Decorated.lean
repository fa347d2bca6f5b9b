import Overseer.Proofs.Prompt.Grammar
import Overseer.Prompt.Patterns

/-!
# A Line That Is Coloured and Decorated

Scripts put escapes and glyphs between the characters of what they say.  A line is cleaned of all of
them, so a prompt is found in it as it is found in the plain text.

- `stripEscapes_eq_iff`: the texts that are one text without their escapes
- `interleaved_stripEscapes`: what is left of a decorated text without its escapes
- `stripDecorations_of_interleaved`: what is left of it without its glyphs
- `PromptPatterns.undisguised_of_decorates`: a decorated text is searched as the plain one is
-/

namespace Overseer.Prompt

open Text

/-! ## Section 1: What decorates a text

What a script puts in is a complete escape or one glyph.  A decoration of several characters, the
mis-decoded warning sign, is not among what may be put in: broken over an escape or a glyph it would
not be found. -/

/-- A single glyph. -/
def IsSingleGlyph (piece : List Char) : Prop := ∃ c, isGlyph c = true ∧ piece = [c]

/-- The second text is the first one with complete escapes and single glyphs put in, as many as one
likes, in front of it, behind it and between its characters. -/
def Decorates (t s : List Char) : Prop :=
  Interleaved (fun piece => IsEscape piece ∨ IsSingleGlyph piece) t s

/-- No part of the text is a decoration. -/
def Undecorated (t : List Char) : Prop := ∀ part, part <:+: t → ¬IsDecoration part

theorem undecorated_iff (t : List Char) : Undecorated t ↔ stripDecorations t = t :=
  (recognizes_decorationWidth.deletePieces_eq_self_iff t).symm

instance (t : List Char) : Decidable (Undecorated t) := decidable_of_iff _ (undecorated_iff t).symm

theorem Undecorated.tail {c : Char} {t : List Char} (h : Undecorated (c :: t)) : Undecorated t :=
  fun part hpart => h part (hpart.trans (List.suffix_cons ..).isInfix)

/-! ## Section 2: Taking the decorations away

First the escapes and then the glyphs, as cleaning does.  The text itself must have no escape
character and no decoration: an escape character in front of a letter would be an escape that nobody
put in. -/

/-- No escape begins with another character. -/
theorem escapeWidth_cons {c : Char} (h : c ≠ escapeChar) (s : List Char) :
    escapeWidth (c :: s) = 0 := by
  by_contra hwidth
  obtain ⟨piece, rest, heq, hpiece, -⟩ := recognizes_escapeWidth.sound hwidth
  cases hpiece <;> exact h (List.cons.inj heq).1

/-- What is left without escapes is a text, exactly when escapes were put into the text. -/
theorem stripEscapes_eq_iff {t s : List Char} (ht : escapeChar ∉ t) :
    stripEscapes s = t ↔ Interleaved IsEscape t s := by
  constructor
  · rintro rfl
    exact recognizes_escapeWidth.interleaved_deletePieces s
  · intro h
    induction h with
    | nil => rfl
    | keep c _ ih =>
      -- the text holds no escape character, so no escape begins at a character of it
      obtain ⟨hc, ht⟩ := not_or.mp (mt List.mem_cons.mpr ht)
      rw [stripEscapes, deletePieces_cons (escapeWidth_cons (Ne.symm hc) _)]
      exact congrArg (c :: ·) (ih ht)
    | insert hpiece _ ih =>
      rw [stripEscapes, deletePieces_append (recognizes_escapeWidth.ne_nil hpiece)
        (escapeWidth_append hpiece _)]
      exact ih ht

/-- **Without its escapes**, a decorated text has its glyphs only. -/
theorem interleaved_stripEscapes {t s : List Char} (h : Decorates t s) (ht : escapeChar ∉ t) :
    Interleaved IsSingleGlyph t (stripEscapes s) := by
  induction h with
  | nil => exact .nil
  | keep c _ ih =>
    -- a character of the text is no escape character, so no escape begins there
    obtain ⟨hc, ht⟩ := not_or.mp (mt List.mem_cons.mpr ht)
    rw [stripEscapes, deletePieces_cons (escapeWidth_cons (Ne.symm hc) _)]
    exact .keep c (ih ht)
  | insert hpiece _ ih =>
    rcases hpiece with hescape | ⟨c, hglyph, rfl⟩
    · rw [stripEscapes, deletePieces_append (recognizes_escapeWidth.ne_nil hescape)
        (escapeWidth_append hescape _)]
      exact ih ht
    · -- a glyph begins no escape
      have hc : c ≠ escapeChar := by
        rintro rfl
        exact absurd hglyph (by decide)
      rw [List.cons_append, stripEscapes, deletePieces_cons (escapeWidth_cons hc _)]
      exact .insert ⟨c, hglyph, rfl⟩ (ih ht)

/-- A decoration of more than one character has no glyph in it, so glyphs that are put into a text
make up none. -/
theorem decorationWidth_of_interleaved {c : Char} {t s : List Char}
    (h : Interleaved IsSingleGlyph t s) (ht : Undecorated (c :: t)) :
    decorationWidth (c :: s) = 0 := by
  by_contra hwidth
  obtain ⟨piece, rest, heq, hpiece, -⟩ := recognizes_decorationWidth.sound hwidth
  have hbegins : piece <+: c :: s := ⟨rest, heq.symm⟩
  -- a decoration that begins here in front of glyphs that were put in was there without them
  suffices hplain : piece <+: c :: t from ht piece hplain.isInfix hpiece
  cases hpiece with
  | glyph hglyph =>
    obtain rfl := (List.cons.inj heq).1
    exact List.prefix_append [c] t
  | warning hlength hgap hspace =>
    refine (Interleaved.keep c h).prefix_of_none hbegins fun d hd hglyph => ?_
    rw [not_isGlyph_of_mem_warning hgap hspace hd] at hglyph
    exact Bool.false_ne_true hglyph

/-- **Without its glyphs**, the text is there again. -/
theorem stripDecorations_of_interleaved {t s : List Char} (h : Interleaved IsSingleGlyph t s)
    (ht : Undecorated t) : stripDecorations s = t := by
  induction h with
  | nil => rfl
  | keep c h ih =>
    -- a character of the text keeps its place: it is no glyph, and no warning sign can begin there
    rw [stripDecorations, deletePieces_cons (decorationWidth_of_interleaved h ht)]
    exact congrArg (c :: ·) (ih ht.tail)
  | insert hpiece _ ih =>
    -- what was put in is found as a whole, and what is behind it stays
    obtain ⟨c, hglyph, rfl⟩ := hpiece
    rw [stripDecorations, deletePieces_append (List.cons_ne_nil _ _)
      (decorationWidth_glyph hglyph _)]
    exact ih ht

/-- A decorated text is cleaned to the plain one. -/
theorem cleanLine_of_decorates {t s : List Char} (h : Decorates t s) (hescape : escapeChar ∉ t)
    (hplain : Undecorated t) : cleanLine s = trim t := by
  rw [cleanLine, stripDecorations_of_interleaved (interleaved_stripEscapes h hescape) hplain]

/-! ## Section 3: Searching a decorated line

The pattern is searched for in the cleaned line only, so two lines that are cleaned to one text are
searched alike, whatever the patterns are. -/

namespace PromptPatterns

/-- A decorated line and the plain text of it, as they are searched for prompts. -/
structure Undisguised (t s : String) : Prop where
  /-- The line is cleaned to the text, without the white space at its ends. -/
  cleanLine_eq : cleanLine s.toList = trim t.toList
  /-- The text itself is not changed but for that. -/
  cleanLine_plain : cleanLine t.toList = trim t.toList
  /-- Whatever the patterns, the same prompt is found, or none is. -/
  detect_eq : ∀ patterns : PromptPatterns, patterns.detect s = patterns.detect t

/-- **A decorated line is searched as the plain text is**, whatever decorates it and wherever.  The
escapes and glyphs may stand at the ends, between any two characters, and many in a row. -/
theorem undisguised_of_decorates {t s : String} (h : Decorates t.toList s.toList)
    (hescape : escapeChar ∉ t.toList) (hplain : Undecorated t.toList) : Undisguised t s where
  cleanLine_eq := cleanLine_of_decorates h hescape hplain
  cleanLine_plain := cleanLine_of_decorates (.refl _) hescape hplain
  detect_eq patterns := by
    rw [detect, detect, cleanLine_of_decorates h hescape hplain,
      cleanLine_of_decorates (.refl _) hescape hplain]

/-- A prompt in colours, with a title for the terminal and a glyph inside of a word, and with the
first letter of the mis-decoded warning sign in front of a glyph. -/
theorem undisguised_colouredPrompt :
    Decorates " \u00e2 Y/n ".toList "\x1b[1;3m \u00e2⚠ Y\x1b]0;t\x1b\\/✔\x1b(n \x1b]\x07".toList ∧
      escapeChar ∉ " \u00e2 Y/n ".toList ∧ Undecorated " \u00e2 Y/n ".toList ∧
      Undisguised " \u00e2 Y/n " "\x1b[1;3m \u00e2⚠ Y\x1b]0;t\x1b\\/✔\x1b(n \x1b]\x07" := by
  have hcolour : IsEscape "\x1b[1;3m".toList :=
    @IsEscape.control ['1', ';', '3'] [] 'm' (List.all_eq_true.mp rfl) (List.forall_mem_nil _) rfl
  have htitle : IsEscape "\x1b]0;t\x1b\\".toList :=
    @IsEscape.terminated ['0', ';', 't'] (by simp [bell, escapeChar])
  have hcharset : IsEscape "\x1b(".toList := .pair (by decide) (by decide)
  have hempty : IsEscape "\x1b]\x07".toList := @IsEscape.rung [] (List.forall_mem_nil _)
  have hdecorates : Decorates " \u00e2 Y/n ".toList
      "\x1b[1;3m \u00e2⚠ Y\x1b]0;t\x1b\\/✔\x1b(n \x1b]\x07".toList := by
    -- one piece after the other, in the order in which they stand in the decorated text
    refine @Interleaved.insert _ "\x1b[1;3m".toList _ _ (.inl hcolour) ?_
    refine .keep ' ' (.keep '\u00e2' ?_)
    refine @Interleaved.insert _ ['⚠'] _ _ (.inr ⟨'⚠', rfl, rfl⟩) ?_
    refine .keep ' ' (.keep 'Y' ?_)
    refine @Interleaved.insert _ "\x1b]0;t\x1b\\".toList _ _ (.inl htitle) (.keep '/' ?_)
    refine @Interleaved.insert _ ['✔'] _ _ (.inr ⟨'✔', rfl, rfl⟩) ?_
    refine @Interleaved.insert _ "\x1b(".toList _ _ (.inl hcharset) ?_
    refine .keep 'n' (.keep ' ' ?_)
    exact @Interleaved.insert _ "\x1b]\x07".toList _ _ (.inl hempty) .nil
  have hescape : escapeChar ∉ " \u00e2 Y/n ".toList := by decide
  have hplain : Undecorated " \u00e2 Y/n ".toList := by decide
  exact ⟨hdecorates, hescape, hplain, undisguised_of_decorates hdecorates hescape hplain⟩

end PromptPatterns

end Overseer.Prompt
