import Overseer.Shell.Glob

/-!
# Which Texts a Shell Pattern Matches

A pattern is matched from the front, and where it has a star the match tries to leave the star
behind first and then to give it one character more.  What comes out of the trying is what the
pattern means: the text falls into pieces, one for each part of the pattern, and each part matches
its piece (`Glob.Matches`).

- `Glob.isMatch_iff_matches`: the trying finds exactly the texts that a pattern matches
- `Glob.matches_append_iff`: one pattern behind another
- `Glob.isMatch_read_quoted_iff`: what is quoted matches itself and nothing else
-/

namespace Overseer.Shell.Glob

variable {item : GlobItem} {glob front back : Glob} {c : Char} {s t : List Char}

/-! ## Section 1: The meaning of a pattern

The meaning is a relation, with one rule for a star and one for everything else.  The lemmas turn it
into the questions that a match from the front asks. -/

/-- The texts that a pattern matches: a star matches any text, and any other part one character.
This is the meaning of a pattern, without any way to find out. -/
inductive Matches : Glob → List Char → Prop where
  | nil : Matches [] []
  | many {glob : Glob} {s : List Char} (anything : List Char) :
      Matches glob s → Matches (.many :: glob) (anything ++ s)
  | one {item : GlobItem} {glob : Glob} {c : Char} {s : List Char} :
      itemMatches item c = true → Matches glob s → Matches (item :: glob) (c :: s)

theorem matches_nil_iff : Matches [] s ↔ s = [] :=
  ⟨fun h => by cases h; rfl, fun h => h ▸ .nil⟩

theorem matches_many_nil_iff : Matches (.many :: glob) [] ↔ Matches glob [] := by
  constructor
  · intro h
    -- the empty text is made a variable, so that the cases know how the match came about
    generalize hs : ([] : List Char) = s at h
    cases h with
    | many anything h =>
      obtain ⟨rfl, rfl⟩ := List.append_eq_nil_iff.mp hs.symm
      exact h
    | one _ _ => exact absurd hs (List.cons_ne_nil _ _).symm
  · exact .many []

/-- In front of a character, a star is left behind, or it takes the character and goes on. -/
theorem matches_many_cons_iff :
    Matches (.many :: glob) (c :: s) ↔ Matches glob (c :: s) ∨ Matches (.many :: glob) s := by
  constructor
  · intro h
    -- the text is made a variable, so that the cases know how the match came about
    generalize ht : c :: s = t at h
    cases h with
    | many anything h =>
      cases anything with
      | nil =>
        rw [List.nil_append] at ht
        exact .inl (ht ▸ h)
      | cons d anything => exact .inr ((List.cons.inj ht).2 ▸ .many anything h)
    | one hitem _ => exact absurd hitem Bool.false_ne_true
  · rintro (h | h)
    · exact .many [] h
    · -- the star takes one character more than it did
      cases h with
      | many anything h => exact .many (c :: anything) h
      | one hitem _ => exact absurd hitem Bool.false_ne_true

theorem not_matches_cons_nil (hitem : item ≠ .many) : ¬Matches (item :: glob) [] := by
  intro h
  generalize hs : ([] : List Char) = s at h
  cases h with
  | many _ _ => exact hitem rfl
  | one _ _ => exact absurd hs (List.cons_ne_nil _ _).symm

/-- A part that is no star takes one character. -/
theorem matches_cons_cons_iff (hitem : item ≠ .many) :
    Matches (item :: glob) (c :: s) ↔ itemMatches item c = true ∧ Matches glob s := by
  constructor
  · intro h
    generalize ht : c :: s = t at h
    cases h with
    | many _ _ => exact absurd rfl hitem
    | one hc h =>
      obtain ⟨rfl, rfl⟩ := List.cons.inj ht
      exact ⟨hc, h⟩
  · rintro ⟨hc, h⟩
    exact .one hc h

/-! ## Section 2: The trying

The match is a recursion on the pattern and the text; its two calls at a star are the two halves of
the lemma for a star in front of a character. -/

/-- **A pattern matches what it means**: the trying from the front misses no match and finds no
other. -/
theorem isMatch_iff_matches (glob : Glob) (s : List Char) :
    isMatch glob s = true ↔ Matches glob s := by
  -- the cases are those of the matcher, and each has its lemma above
  induction glob, s using isMatch.induct with
  | case1 s => rw [isMatch, List.isEmpty_iff, matches_nil_iff]
  | case2 glob s ihGlob ihText =>
    cases s with
    | nil => rw [isMatch, Bool.or_false, ihGlob, matches_many_nil_iff]
    | cons c t =>
      have htext : isMatch (.many :: glob) t = true ↔ Matches (.many :: glob) t := ihText
      rw [isMatch, Bool.or_eq_true, ihGlob, htext, matches_many_cons_iff]
  | case3 item glob hitem =>
    rw [isMatch.eq_4 _ _ hitem]
    exact iff_of_false Bool.false_ne_true (not_matches_cons_nil hitem)
  | case4 item glob c s hitem ih =>
    rw [isMatch.eq_5 _ _ _ _ hitem, Bool.and_eq_true, ih, matches_cons_cons_iff hitem]

/-! ## Section 3: One pattern behind another -/

/-- **A pattern behind another** matches what one of them matches, and behind it what the other
does. -/
theorem matches_append_iff :
    Matches (front ++ back) s ↔ ∃ t u, s = t ++ u ∧ Matches front t ∧ Matches back u := by
  constructor
  · intro h
    -- by induction on the pattern in front: each of its parts takes what it took in the whole
    induction front generalizing s with
    | nil => exact ⟨[], s, rfl, .nil, h⟩
    | cons item front ih =>
      cases h with
      | many anything h =>
        obtain ⟨t, u, rfl, ht, hu⟩ := ih h
        exact ⟨anything ++ t, u, (List.append_assoc ..).symm, .many anything ht, hu⟩
      | one hc h =>
        obtain ⟨t, u, rfl, ht, hu⟩ := ih h
        exact ⟨_ :: t, u, rfl, .one hc ht, hu⟩
  · rintro ⟨t, u, rfl, ht, hu⟩
    -- by induction on the match of the pattern in front
    induction ht with
    | nil => exact hu
    | many anything _ ih =>
      rw [List.append_assoc]
      exact .many anything ih
    | one hc _ ih => exact .one hc ih

/-! ## Section 4: Quotes

A script quotes what it means literally.  A quoted character is never read as a star, a question
mark or the beginning of a set. -/

/-- A text of which every character is quoted. -/
def quoted (s : List Char) : List GlobChar := s.map fun c => (c, false)

theorem ofChars_quoted {fuel : Nat} (hfuel : s.length < fuel) :
    ofChars fuel (quoted s) = s.map .char := by
  induction s generalizing fuel with
  | nil => cases fuel <;> rfl
  | cons c s ih =>
    cases fuel with
    | zero => exact absurd hfuel (Nat.not_lt_zero _)
    | succ fuel =>
      -- a quoted character stands for itself, so nothing is left to be read
      have hlater := ih (Nat.lt_of_succ_lt_succ hfuel)
      simpa only [quoted, List.map_cons, ofChars, Bool.not_false, if_true, List.cons.injEq,
        true_and] using hlater

theorem matches_map_char_iff : Matches (s.map .char) t ↔ t = s := by
  induction s generalizing t with
  | nil => exact matches_nil_iff
  | cons c s ih =>
    cases t with
    | nil =>
      exact iff_of_false (not_matches_cons_nil GlobItem.noConfusion) (List.cons_ne_nil c s).symm
    | cons d t =>
      rw [List.map_cons, matches_cons_cons_iff GlobItem.noConfusion, ih, itemMatches, beq_iff_eq,
        List.cons.injEq]

/-- **What is quoted matches itself and nothing else**, whatever characters it has.  So a name that
came from a script cannot act as a pattern once it is quoted. -/
theorem isMatch_read_quoted_iff : isMatch (read (quoted s)) t = true ↔ t = s := by
  have hread : read (quoted s) = s.map .char := by
    rw [read, ofChars_quoted]
    simp [quoted]
  rw [hread, isMatch_iff_matches, matches_map_char_iff]

end Overseer.Shell.Glob
