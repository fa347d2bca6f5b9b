import Mathlib.Data.List.TakeWhile
import Overseer.Proofs.Text.Deleting
import Overseer.Prompt.Cleaning

/-!
# Escapes and Decorations

What is removed from a line before it is searched for prompts, as grammars: the terminal escapes and
the decorations.  The widths that are counted while a line is read find these and nothing else.

- `IsEscape`, `recognizes_escapeWidth`: terminal escapes
- `IsDecoration`, `recognizes_decorationWidth`: decorations
-/

namespace Overseer.Prompt

open Text

/-! ## Section 1: Terminal escapes

Three shapes: a control sequence with parameters and intermediate characters, an operating-system
command up to a bell or a terminator, and any other character behind the escape character.  Where
one of the first two is broken off, only what there is of the third is found, and that is nothing: a
bracket is no such character. -/

/-- A complete terminal escape. -/
inductive IsEscape : List Char → Prop where
  /-- A control sequence: parameters, intermediate characters and a final one. -/
  | control {parameters intermediates : List Char} {final : Char} :
      (∀ c ∈ parameters, isParameter c = true) → (∀ c ∈ intermediates, isIntermediate c = true) →
      isFinal final = true →
      IsEscape (escapeChar :: '[' :: (parameters ++ intermediates ++ [final]))
  /-- An operating-system command that the bell ends. -/
  | rung {body : List Char} : (∀ c ∈ body, c ≠ bell ∧ c ≠ escapeChar) →
      IsEscape (escapeChar :: ']' :: (body ++ [bell]))
  /-- An operating-system command that the string terminator ends. -/
  | terminated {body : List Char} : (∀ c ∈ body, c ≠ bell ∧ c ≠ escapeChar) →
      IsEscape (escapeChar :: ']' :: (body ++ [escapeChar, '\\']))
  /-- An escape of two characters. -/
  | pair {c : Char} : c ≠ '[' → c ≠ ']' → IsEscape [escapeChar, c]

theorem not_isParameter_of_isIntermediate {c : Char} (h : isIntermediate c = true) :
    isParameter c = false := by
  simp only [isIntermediate, isParameter, Bool.and_eq_true, decide_eq_true_eq, Char.le_def,
    UInt32.le_iff_toNat_le, Bool.and_eq_false_iff, decide_eq_false_iff_not] at h ⊢
  exact .inl (Nat.not_le_of_lt (Nat.lt_of_le_of_lt h.2 (by decide)))

theorem not_isParameter_of_isFinal {c : Char} (h : isFinal c = true) : isParameter c = false := by
  simp only [isFinal, isParameter, Bool.and_eq_true, decide_eq_true_eq, Char.le_def,
    UInt32.le_iff_toNat_le, Bool.and_eq_false_iff, decide_eq_false_iff_not] at h ⊢
  exact .inr (Nat.not_le_of_lt (Nat.lt_of_lt_of_le (by decide) h.1))

theorem not_isIntermediate_of_isFinal {c : Char} (h : isFinal c = true) :
    isIntermediate c = false := by
  simp only [isFinal, isIntermediate, Bool.and_eq_true, decide_eq_true_eq, Char.le_def,
    UInt32.le_iff_toNat_le, Bool.and_eq_false_iff, decide_eq_false_iff_not] at h ⊢
  exact .inr (Nat.not_le_of_lt (Nat.lt_of_lt_of_le (by decide) h.1))

/-- A run of characters of a kind ends in front of one of another kind. -/
theorem takeWhile_run {p : Char → Bool} {run : List Char} (h : ∀ c ∈ run, p c = true)
    {rest : List Char} (hrest : ∀ c ∈ rest.head?, p c = false) :
    (run ++ rest).takeWhile p = run := by
  rw [List.takeWhile_append_of_pos h]
  cases rest with
  | nil => rw [List.takeWhile_nil, List.append_nil]
  | cons c rest => rw [List.takeWhile_cons, hrest c rfl, if_neg Bool.false_ne_true, List.append_nil]

theorem controlWidth_append {parameters intermediates : List Char} {final : Char}
    (hparameters : ∀ c ∈ parameters, isParameter c = true)
    (hintermediates : ∀ c ∈ intermediates, isIntermediate c = true) (hfinal : isFinal final = true)
    (rest : List Char) :
    controlWidth (parameters ++ intermediates ++ [final] ++ rest) =
      (parameters ++ intermediates ++ [final]).length := by
  -- each run ends where the next one begins, since no character is of two kinds
  have hbehind : (intermediates ++ final :: rest).takeWhile isIntermediate = intermediates :=
    takeWhile_run hintermediates (by rintro _ ⟨⟩; exact not_isIntermediate_of_isFinal hfinal)
  have hfront : (parameters ++ (intermediates ++ final :: rest)).takeWhile isParameter =
      parameters := by
    refine takeWhile_run hparameters fun c hc => ?_
    cases intermediates with
    | nil =>
      cases hc
      exact not_isParameter_of_isFinal hfinal
    | cons d intermediates =>
      cases hc
      exact not_isParameter_of_isIntermediate (hintermediates _ List.mem_cons_self)
  have hwhole : parameters ++ intermediates ++ [final] ++ rest =
      parameters ++ (intermediates ++ final :: rest) := by simp only [List.append_assoc]; rfl
  simp only [hwhole, controlWidth, hfront, List.drop_left, hbehind, hfinal, if_true,
    List.length_append, List.length_singleton]

theorem commandWidth_append {body ending : List Char}
    (hbody : ∀ c ∈ body, c ≠ bell ∧ c ≠ escapeChar)
    (hending : ending = [bell] ∨ ending = [escapeChar, '\\']) (rest : List Char) :
    commandWidth (body ++ ending ++ rest) = (body ++ ending).length := by
  have hrun : ∀ c ∈ body, (c != bell && c != escapeChar) = true := by
    simpa only [Bool.and_eq_true, bne_iff_ne] using hbody
  -- the ending begins with a character that stops the body, so the body is found as it is
  have htake : (body ++ (ending ++ rest)).takeWhile (fun c => c != bell && c != escapeChar) =
      body := by
    refine takeWhile_run hrun fun c hc => ?_
    rcases hending with rfl | rfl <;> cases hc <;> rfl
  rw [List.append_assoc]
  simp only [commandWidth, htake, List.drop_left, List.length_append]
  rcases hending with rfl | rfl <;> rfl

theorem escapeWidth_control (s : List Char) :
    escapeWidth (escapeChar :: '[' :: s) = if controlWidth s = 0 then 0 else controlWidth s + 2 := by
  simp only [escapeChar, escapeWidth]
  cases controlWidth s <;> rfl

theorem escapeWidth_command (s : List Char) :
    escapeWidth (escapeChar :: ']' :: s) = if commandWidth s = 0 then 0 else commandWidth s + 2 := by
  simp only [escapeChar, escapeWidth]
  cases commandWidth s <;> rfl

theorem escapeWidth_pair {c : Char} (hopen : c ≠ '[') (hclose : c ≠ ']') (s : List Char) :
    escapeWidth (escapeChar :: c :: s) = 2 := by
  unfold escapeWidth
  split
  · next heq => exact absurd (List.cons.inj (List.cons.inj heq).2).1 hopen
  · next heq => exact absurd (List.cons.inj (List.cons.inj heq).2).1 hclose
  · rfl
  · next hnone => exact absurd rfl (hnone c s)

/-- **An escape is found as a whole**, whatever stands behind it. -/
theorem escapeWidth_append {piece : List Char} (h : IsEscape piece) (rest : List Char) :
    escapeWidth (piece ++ rest) = piece.length := by
  -- every shape of an escape has its own width, and its opening leads to that width alone
  cases h with
  | @control parameters intermediates final hparameters hintermediates hfinal =>
    have hwidth := controlWidth_append hparameters hintermediates hfinal rest
    have hpos : (parameters ++ intermediates ++ [final]).length ≠ 0 := by simp
    rw [List.cons_append, List.cons_append, escapeWidth_control, hwidth, if_neg hpos]
    rfl
  | @rung body hbody =>
    have hwidth := commandWidth_append hbody (.inl rfl) rest
    have hpos : (body ++ [bell]).length ≠ 0 := by simp
    rw [List.cons_append, List.cons_append, escapeWidth_command, hwidth, if_neg hpos]
    rfl
  | @terminated body hbody =>
    have hwidth := commandWidth_append hbody (.inr rfl) rest
    have hpos : (body ++ [escapeChar, '\\']).length ≠ 0 := by simp
    rw [List.cons_append, List.cons_append, escapeWidth_command, hwidth, if_neg hpos]
    rfl
  | pair hopen hclose => exact escapeWidth_pair hopen hclose rest

/-- A control sequence that is found is one. -/
theorem exists_control {s : List Char} (h : controlWidth s ≠ 0) :
    ∃ parameters intermediates final rest,
      s = parameters ++ intermediates ++ [final] ++ rest ∧
        (∀ c ∈ parameters, isParameter c = true) ∧
        (∀ c ∈ intermediates, isIntermediate c = true) ∧ isFinal final = true := by
  -- the two runs that are passed are the parameters and the intermediate characters
  have hfront := List.prefix_append_drop (List.takeWhile_prefix isParameter (l := s))
  simp only [controlWidth] at h
  generalize s.drop (s.takeWhile isParameter).length = behind at h hfront
  have hbehind := List.prefix_append_drop (List.takeWhile_prefix isIntermediate (l := behind))
  generalize behind.drop (behind.takeWhile isIntermediate).length = ending at h hbehind
  cases ending with
  | nil => exact absurd rfl h
  | cons final rest =>
    refine ⟨s.takeWhile isParameter, behind.takeWhile isIntermediate, final, rest, ?_,
      fun c => List.mem_takeWhile_imp, fun c => List.mem_takeWhile_imp, ?_⟩
    · simp only [List.append_assoc, List.singleton_append, ← hbehind, ← hfront]
    · cases hfinal : isFinal final with
      | true => rfl
      | false => exact absurd (by simp [hfinal]) h

/-- An operating-system command that is found is one. -/
theorem exists_command {s : List Char} (h : commandWidth s ≠ 0) :
    ∃ body ending rest, s = body ++ ending ++ rest ∧
      (∀ c ∈ body, c ≠ bell ∧ c ≠ escapeChar) ∧
      (ending = [bell] ∨ ending = [escapeChar, '\\']) := by
  have hfront := List.prefix_append_drop
    (List.takeWhile_prefix (fun c => c != bell && c != escapeChar) (l := s))
  simp only [commandWidth] at h
  have hbody : ∀ c ∈ s.takeWhile (fun c => c != bell && c != escapeChar),
      c ≠ bell ∧ c ≠ escapeChar := by
    intro c hc
    simpa only [Bool.and_eq_true, bne_iff_ne] using List.mem_takeWhile_imp hc
  -- what matters about the body is what it is made of, not how it was found
  generalize s.takeWhile (fun c => c != bell && c != escapeChar) = body at h hfront hbody
  split at h
  · next rest heq =>
    -- the bell, or the two characters that stand for it
    rw [heq] at hfront
    exact ⟨body, [bell], rest, by rw [hfront, List.append_assoc]; rfl, hbody, .inl rfl⟩
  · next rest heq =>
    rw [heq] at hfront
    exact ⟨body, [escapeChar, '\\'], rest, by rw [hfront, List.append_assoc]; rfl, hbody, .inr rfl⟩
  · exact absurd rfl h

/-- **The terminal escapes** are what the width of an escape finds. -/
theorem recognizes_escapeWidth : Recognizes escapeWidth IsEscape := by
  have hne : ∀ {piece}, IsEscape piece → piece.length ≠ 0 := by
    intro piece hpiece
    cases hpiece <;> exact Nat.succ_ne_zero _
  refine ⟨fun hpiece rest => (escapeWidth_append hpiece rest).symm ▸ hne hpiece, ?_⟩
  -- an escape that is found has the width that is counted for it, whatever stands behind it
  suffices hfound : ∀ s, escapeWidth s ≠ 0 → ∃ piece rest, s = piece ++ rest ∧ IsEscape piece by
    intro s hs
    obtain ⟨piece, rest, heq, hpiece⟩ := hfound s hs
    exact ⟨piece, rest, heq, hpiece, escapeWidth_append hpiece rest⟩
  intro s hs
  unfold escapeWidth at hs
  split at hs
  · next s =>
    have hwidth : controlWidth s ≠ 0 := fun h => hs (by simp only [h])
    obtain ⟨parameters, intermediates, final, rest, rfl, hparameters, hintermediates, hfinal⟩ :=
      exists_control hwidth
    exact ⟨_, rest, rfl, .control hparameters hintermediates hfinal⟩
  · next s =>
    have hwidth : commandWidth s ≠ 0 := fun h => hs (by simp only [h])
    obtain ⟨body, ending, rest, rfl, hbody, rfl | rfl⟩ := exists_command hwidth
    · exact ⟨_, rest, rfl, .rung hbody⟩
    · exact ⟨_, rest, rfl, .terminated hbody⟩
  · next c s hopen hclose =>
    exact ⟨[escapeChar, c], s, rfl, .pair hopen hclose⟩
  · exact absurd rfl hs

/-! ## Section 2: Decorations

A decoration is one glyph of the table, or the warning sign as it looks when its bytes were decoded
in another encoding: two letters with one white space between them or none, and with a no-break
space behind them or not. -/

/-- A decoration: a glyph, or the mis-decoded warning sign, with a white space in it or not and with
a no-break space behind it or not. -/
inductive IsDecoration : List Char → Prop where
  | glyph {c : Char} : isGlyph c = true → IsDecoration [c]
  | warning {gap space : List Char} : gap.length ≤ 1 → (∀ c ∈ gap, isBlank c = true) →
      (space = [] ∨ space = ['\u00a0']) →
      IsDecoration ('\u00e2' :: (gap ++ '\u0161' :: space))

theorem not_isGlyph_of_isBlank {c : Char} (h : isBlank c = true) : isGlyph c = false := by
  simp only [isBlank, isGlyph, Bool.or_eq_true, Bool.and_eq_true, decide_eq_true_eq, beq_iff_eq,
    Bool.or_eq_false_iff, Bool.and_eq_false_iff, decide_eq_false_iff_not, beq_eq_false_iff_ne] at h ⊢
  omega

/-- No glyph stands in the mis-decoded warning sign. -/
theorem not_isGlyph_of_mem_warning {gap space : List Char} (hgap : ∀ c ∈ gap, isBlank c = true)
    (hspace : space = [] ∨ space = ['\u00a0']) {c : Char}
    (h : c ∈ '\u00e2' :: (gap ++ '\u0161' :: space)) : isGlyph c = false := by
  -- letter by letter: the two letters of the sign, the gap and the space behind them
  rcases List.mem_cons.mp h with rfl | h
  · decide
  rcases List.mem_append.mp h with h | h
  · exact not_isGlyph_of_isBlank (hgap c h)
  rcases List.mem_cons.mp h with rfl | h
  · decide
  rcases hspace with rfl | rfl
  · exact absurd h List.not_mem_nil
  · obtain rfl := List.mem_singleton.mp h
    decide

theorem decorationWidth_glyph {c : Char} (h : isGlyph c = true) (s : List Char) :
    decorationWidth (c :: s) = 1 := by
  simp only [decorationWidth, h, if_true]

theorem warningTailWidth_cons (s : List Char) : warningTailWidth ('\u0161' :: s) ≠ 0 := by
  unfold warningTailWidth
  split
  · exact nofun
  · exact nofun
  · next hnone => exact absurd rfl (hnone s)

/-- What is found behind the first letter of the warning sign is the rest of it. -/
theorem exists_warningTail {s : List Char} (h : warningTailWidth s ≠ 0) :
    ∃ space rest, s = '\u0161' :: (space ++ rest) ∧ (space = [] ∨ space = ['\u00a0']) ∧
      warningTailWidth s = ('\u0161' :: space).length := by
  -- with the space that does not break, without it, or no sign at all
  unfold warningTailWidth at h
  split at h
  · next rest => exact ⟨['\u00a0'], rest, rfl, .inr rfl, rfl⟩
  · next rest hspace =>
    refine ⟨[], rest, rfl, .inl rfl, ?_⟩
    rw [warningTailWidth.eq_2 rest hspace]
    rfl
  · exact absurd rfl h

theorem decorationWidth_gap {c : Char} (h : isBlank c = true) (s : List Char) :
    decorationWidth ('\u00e2' :: c :: s) =
      if warningTailWidth s = 0 then 0 else warningTailWidth s + 2 := by
  have hglyph : isGlyph '\u00e2' = false := by decide
  simp only [decorationWidth, hglyph, Bool.false_eq_true, if_false, beq_self_eq_true, if_true, h]
  cases warningTailWidth s <;> rfl

theorem decorationWidth_close {c : Char} (h : isBlank c = false) (s : List Char) :
    decorationWidth ('\u00e2' :: c :: s) =
      if warningTailWidth (c :: s) = 0 then 0 else warningTailWidth (c :: s) + 1 := by
  have hglyph : isGlyph '\u00e2' = false := by decide
  simp only [decorationWidth, hglyph, Bool.false_eq_true, if_false, beq_self_eq_true, if_true, h]
  cases warningTailWidth (c :: s) <;> rfl

/-- A decoration is found where it begins. -/
theorem decorationWidth_ne_zero {piece : List Char} (h : IsDecoration piece) (rest : List Char) :
    decorationWidth (piece ++ rest) ≠ 0 := by
  cases h with
  | glyph hglyph =>
    rw [List.cons_append, decorationWidth_glyph hglyph]
    exact Nat.one_ne_zero
  | @warning gap space hlength hgap hspace =>
    have htail := warningTailWidth_cons (space ++ rest)
    -- the gap is at most one character, so it is missing or it is that one
    rcases gap with _ | ⟨c, gap⟩
    · have hclose : isBlank '\u0161' = false := by decide
      rw [List.nil_append, List.cons_append, List.cons_append, decorationWidth_close hclose,
        if_neg htail]
      exact Nat.succ_ne_zero _
    · obtain rfl : gap = [] := List.eq_nil_of_length_eq_zero
        (Nat.le_zero.mp (Nat.le_of_succ_le_succ hlength))
      rw [List.cons_append, List.cons_append, List.cons_append,
        decorationWidth_gap (hgap c List.mem_cons_self), List.nil_append, List.cons_append,
        if_neg htail]
      exact Nat.succ_ne_zero _

/-- **The decorations** are what the width of a decoration finds. -/
theorem recognizes_decorationWidth : Recognizes decorationWidth IsDecoration := by
  refine ⟨decorationWidth_ne_zero, ?_⟩
  intro s hs
  rcases s with _ | ⟨c, s⟩
  · exact absurd rfl hs
  by_cases hglyph : isGlyph c = true
  · exact ⟨[c], s, rfl, .glyph hglyph, decorationWidth_glyph hglyph s⟩
  by_cases hfirst : c = '\u00e2'
  · subst hfirst
    rcases s with _ | ⟨d, s⟩
    · exact absurd rfl hs
    -- a white space behind the first letter belongs to the warning sign
    cases hblank : isBlank d with
    | true =>
      rw [decorationWidth_gap hblank] at hs
      have htail : warningTailWidth s ≠ 0 := fun h => hs (if_pos h)
      obtain ⟨space, rest, rfl, hspace, hwidth⟩ := exists_warningTail htail
      have hwhole := decorationWidth_gap hblank ('\u0161' :: (space ++ rest))
      rw [if_neg htail, hwidth] at hwhole
      exact ⟨'\u00e2' :: ([d] ++ '\u0161' :: space), rest, rfl,
        .warning (Nat.le_refl _) (List.forall_mem_singleton.mpr hblank) hspace, hwhole⟩
    | false =>
      rw [decorationWidth_close hblank] at hs
      have htail : warningTailWidth (d :: s) ≠ 0 := fun h => hs (if_pos h)
      obtain ⟨space, rest, heq, hspace, hwidth⟩ := exists_warningTail htail
      obtain ⟨rfl, rfl⟩ := List.cons.inj heq
      have hwhole := decorationWidth_close hblank (space ++ rest)
      rw [if_neg htail, hwidth] at hwhole
      exact ⟨'\u00e2' :: ([] ++ '\u0161' :: space), rest, rfl,
        .warning (Nat.zero_le _) (List.forall_mem_nil _) hspace, hwhole⟩
  · exact absurd (by simp [decorationWidth, hglyph, hfirst]) hs

end Overseer.Prompt
