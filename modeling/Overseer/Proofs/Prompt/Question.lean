import Overseer.Proofs.Pattern.Ends
import Overseer.Proofs.Prompt.Grammar
import Overseer.Prompt.Patterns

/-!
# The Question for a Backup

The built-in pattern finds one question: the word, perhaps an opening bracket, and the two letters
with a slash between them, in capital or small letters and with white space anywhere between the
parts.  A question is read in one way only, so the first one in a line is a definite piece of it;
what is reported is that piece with the white space and the closing bracket behind it.

- `Question`: the texts that ask for a backup
- `Question.unique`: from each place on there is at most one
- `FirstQuestion`: the prompt that the first question of a line makes
- `detect_backup_iff`: what is detected, for every line
-/

namespace Overseer.Prompt

open Overseer.Text

/-! ## Section 1: Questions

The question ends with its last letter; the white space and the bracket behind it belong to what is
reported but do not decide whether there is a question. -/

/-- Characters that are all white space. -/
def Blank (s : List Char) : Prop := ∀ c ∈ s, isBlank c = true

/-- The question for a backup, up to the last of the two letters. -/
inductive Question : List Char → Prop where
  | intro {word gap₁ opening gap₂ yes gap₃ slash gap₄ no : List Char}
      (hword : Spells "backup?".toList word) (hgap₁ : Blank gap₁)
      (hopening : opening = [] ∨ Spells ['['] opening) (hgap₂ : Blank gap₂)
      (hyes : Spells ['y'] yes) (hgap₃ : Blank gap₃) (hslash : Spells ['/'] slash)
      (hgap₄ : Blank gap₄) (hno : Spells ['n'] no) :
      Question (word ++ gap₁ ++ opening ++ gap₂ ++ yes ++ gap₃ ++ slash ++ gap₄ ++ no)

/-- The prompt that the first question in a line makes: the question, the whole white space behind
it and the closing bracket that follows then, if one does. -/
inductive FirstQuestion (line : List Char) : DetectedPrompt → Prop where
  | intro {front question gap closing rest : List Char}
      (hline : line = front ++ question ++ gap ++ closing ++ rest) (hquestion : Question question)
      (hfirst : ∀ earlier other behind, line = earlier ++ other ++ behind → Question other →
        front.length ≤ earlier.length)
      (hgap : Blank gap) (hwhole : ∀ c ∈ (closing ++ rest).head?, isBlank c = false)
      (hclosing : closing = [']'] ∨ closing = [] ∧ rest.head? ≠ some ']') :
      FirstQuestion line ⟨PromptPatterns.backupSource, String.ofList (question ++ gap ++ closing),
        String.ofList line⟩

/-! ## Section 2: Questions are read in one way

Two questions at one place would have to differ first at some letter, and none of the letters is the
beginning of white space or of the other letter that may stand there. -/

/-- White space and the letter behind it. -/
def Spaced (c : Char) (s : List Char) : Prop :=
  ∃ gap letter, Blank gap ∧ Spells [c] letter ∧ s = gap ++ letter

theorem Blank.append {s t : List Char} (hs : Blank s) (ht : Blank t) : Blank (s ++ t) :=
  List.forall_mem_append.mpr ⟨hs, ht⟩

/-- A letter none of whose spellings is white space. -/
def IsSolid (c : Char) : Prop := ∀ d ∈ caseVariants c, isBlank d = false

theorem IsSolid.of_spells {c : Char} (h : IsSolid c) {s : List Char} (hs : Spells [c] s) :
    ∃ d, s = [d] ∧ sameLetter c d = true ∧ isBlank d = false := by
  obtain ⟨d, hletter, rfl⟩ := spells_singleton.mp hs
  exact ⟨d, rfl, hletter, h d (mem_caseVariants_of_sameLetter hletter)⟩

/-- **White space and a letter** are read in one way. -/
theorem Spaced.unique {c c' : Char} {u v s t : List Char} (hu : Spaced c u) (hv : Spaced c' v)
    (hc : IsSolid c) (hc' : IsSolid c') (h : u ++ s = v ++ t) :
    u = v ∧ s = t ∧ foldCase c = foldCase c' := by
  obtain ⟨gap, _, hgap, hletter, rfl⟩ := hu
  obtain ⟨gap', _, hgap', hletter', rfl⟩ := hv
  obtain ⟨d, rfl, hsame, hsolid⟩ := hc.of_spells hletter
  obtain ⟨d', rfl, hsame', hsolid'⟩ := hc'.of_spells hletter'
  -- neither letter is white space, so the gap is all the white space that stands in front of it
  simp only [List.append_assoc, List.singleton_append] at h
  have hgaps : gap = gap' := by
    have hends : (gap ++ d :: s).takeWhile isBlank = gap := takeWhile_run hgap (by simp [hsolid])
    rw [← hends, h, takeWhile_run hgap' (by simp [hsolid'])]
  subst hgaps
  rw [List.append_cancel_left_eq, List.cons.injEq] at h
  obtain ⟨rfl, rfl⟩ := h
  exact ⟨rfl, rfl, (beq_iff_eq.mp hsame).trans (beq_iff_eq.mp hsame').symm⟩

/-- A question by its letters. -/
theorem Question.exists_spaced {s : List Char} (h : Question s) :
    ∃ word opening yes slash no, Spells "backup?".toList word ∧
      (opening = [] ∨ Spaced '[' opening) ∧ Spaced 'y' yes ∧ Spaced '/' slash ∧ Spaced 'n' no ∧
      s = word ++ (opening ++ (yes ++ (slash ++ no))) := by
  cases h with
  | @intro word gap₁ opening gap₂ yes gap₃ slash gap₄ no hword hgap₁ hopening hgap₂ hyes hgap₃ hslash
      hgap₄ hno =>
    rcases hopening with rfl | hopening
    · -- the white space on both sides of a bracket that is missing is one run
      exact ⟨word, [], gap₁ ++ gap₂ ++ yes, gap₃ ++ slash, gap₄ ++ no, hword, .inl rfl,
        ⟨_, yes, hgap₁.append hgap₂, hyes, rfl⟩, ⟨gap₃, slash, hgap₃, hslash, rfl⟩,
        ⟨gap₄, no, hgap₄, hno, rfl⟩, by simp⟩
    · exact ⟨word, gap₁ ++ opening, gap₂ ++ yes, gap₃ ++ slash, gap₄ ++ no, hword,
        .inr ⟨gap₁, opening, hgap₁, hopening, rfl⟩, ⟨gap₂, yes, hgap₂, hyes, rfl⟩,
        ⟨gap₃, slash, hgap₃, hslash, rfl⟩, ⟨gap₄, no, hgap₄, hno, rfl⟩, by simp⟩

theorem caseVariants_letters :
    caseVariants '[' = ['['] ∧ caseVariants ']' = [']'] ∧ caseVariants 'y' = ['y', 'Y'] ∧
      caseVariants '/' = ['/'] ∧ caseVariants 'n' = ['n', 'N'] := by
  decide +kernel

theorem isSolid_letters : IsSolid '[' ∧ IsSolid 'y' ∧ IsSolid '/' ∧ IsSolid 'n' := by
  obtain ⟨hopening, -, hyes, hslash, hno⟩ := caseVariants_letters
  unfold IsSolid
  rw [hopening, hyes, hslash, hno]
  simp only [List.mem_cons, List.not_mem_nil, or_false, forall_eq_or_imp, forall_eq]
  decide

/-- **A question is read in one way**: two questions that begin a text are one.  White space is
followed by a mark that is none, so there is no choice how much of it to take. -/
theorem Question.unique {u v s t : List Char} (hu : Question u) (hv : Question v)
    (h : u ++ s = v ++ t) : u = v := by
  obtain ⟨hbracket, hy, hslash, hn⟩ := isSolid_letters
  obtain ⟨word, opening, yes, slash, no, hword, hopening, hyes, hslashes, hno, rfl⟩ :=
    hu.exists_spaced
  obtain ⟨word', opening', yes', slash', no', hword', hopening', hyes', hslashes', hno', rfl⟩ :=
    hv.exists_spaced
  simp only [List.append_assoc] at h
  obtain ⟨rfl, hopens⟩ := List.append_inj h (hword.length_eq.trans hword'.length_eq.symm)
  -- a bracket that one of them has and the other lacks would have to be the `y` of the other
  have hfold : foldCase '[' ≠ foldCase 'y' := by decide
  have hopen : opening = opening' ∧
      yes ++ (slash ++ (no ++ s)) = yes' ++ (slash' ++ (no' ++ t)) := by
    rcases hopening with rfl | hopening
    · rcases hopening' with rfl | hopening'
      · exact ⟨rfl, hopens⟩
      · exact absurd (hyes.unique hopening' hy hbracket hopens).2.2 hfold.symm
    · rcases hopening' with rfl | hopening'
      · exact absurd (hopening.unique hyes' hbracket hy hopens).2.2 hfold
      · obtain ⟨hsame, hrest, -⟩ := hopening.unique hopening' hbracket hbracket hopens
        exact ⟨hsame, hrest⟩
  obtain ⟨rfl, hyeses⟩ := hopen
  obtain ⟨rfl, hrest, -⟩ := hyes.unique hyes' hy hy hyeses
  obtain ⟨rfl, hnos, -⟩ := hslashes.unique hslashes' hslash hslash hrest
  obtain ⟨rfl, -, -⟩ := hno.unique hno' hn hn hnos
  rfl

/-! ## Section 3: The built-in pattern

The pattern is written with the operations of the pattern language, and what it finds is put
together from what they find.  That the built-in text reads as this pattern is a computation. -/

namespace PromptPatterns

open Overseer.Pattern

/-- Any white space. -/
def blanks : Pattern := many (.named .blank false)

/-- The pattern of a question. -/
def questionPattern : Pattern :=
  [blanks, optional '[', blanks, .literal 'y', blanks, .literal '/', blanks, .literal 'n'].foldl .seq
    (letters "backup?".toList)

/-- A question with white space and a closing bracket behind it. -/
def backupPattern : Pattern := .seq (.seq questionPattern blanks) (optional ']')

/-- **The written form of the built-in pattern** is read as intended.  It is the only pattern that
is looked into; of others it only counts what they find. -/
theorem parse?_backupSource : Pattern.parse? backupSource = some backupPattern := by
  decide +kernel

theorem backup_eq : backup =
    [⟨backupSource, fun s => (backupPattern.find? s).map (·.text)⟩] := by
  rw [backup, compile?, compileIn?, List.mapM_cons, Dialect.standard, parse?_backupSource]
  rfl

theorem finds_blanks : Finds blanks Blank :=
  (finds_many (.named .blank false)).congr fun s => by
    simp [Blank, CharSet.contains, CharClass.contains]

theorem finds_questionPattern : Finds questionPattern Question := by
  -- the parts of the pattern, each one behind those before it
  have hall := (((((((finds_letters "backup?".toList).seq finds_blanks).seq (finds_optional '[')).seq
    finds_blanks).seq (finds_literal 'y')).seq finds_blanks).seq (finds_literal '/')).seq
      finds_blanks |>.seq (finds_literal 'n')
  refine hall.congr fun s => ⟨?_, ?_⟩
  · rintro ⟨_, no, ⟨_, gap₄, ⟨_, slash, ⟨_, gap₃, ⟨_, yes, ⟨_, gap₂, ⟨_, opening, ⟨word, gap₁, hword,
      hgap₁, rfl⟩, hopening, rfl⟩, hgap₂, rfl⟩, hyes, rfl⟩, hgap₃, rfl⟩, hslash, rfl⟩, hgap₄, rfl⟩,
      hno, rfl⟩
    exact .intro hword hgap₁ hopening hgap₂ hyes hgap₃ hslash hgap₄ hno
  · rintro ⟨hword, hgap₁, hopening, hgap₂, hyes, hgap₃, hslash, hgap₄, hno⟩
    exact ⟨_, _, ⟨_, _, ⟨_, _, ⟨_, _, ⟨_, _, ⟨_, _, ⟨_, _, ⟨_, _, hword, hgap₁, rfl⟩, hopening, rfl⟩,
      hgap₂, rfl⟩, hyes, rfl⟩, hgap₃, rfl⟩, hslash, rfl⟩, hgap₄, rfl⟩, hno, rfl⟩

/-- The pattern can end nowhere when no question follows. -/
theorem ends_backup_eq_nil {k : Pattern.Place} (h : ∀ part, part <+: k.rest → ¬ Question part) :
    backupPattern.ends k = [] := by
  refine ends_seq_eq_nil _ (ends_seq_eq_nil _ (List.eq_nil_iff_forall_not_mem.mpr fun q hq => ?_))
  obtain ⟨part, hprefix, hpart, -⟩ := (finds_questionPattern k q).mp hq
  exact h part hprefix hpart

/-- The closing bracket that begins a text, if one does. -/
def closingOf (s : List Char) : List Char := (s.head?.filter (sameLetter ']')).toList

/-- **Behind a question** the pattern prefers to go on over the whole white space and over the
closing bracket that follows then. -/
theorem head?_ends_backup {k : Pattern.Place} {part tail : List Char} (hpart : Question part)
    (hrest : k.rest = part ++ tail) :
    (backupPattern.ends k).head? = some (k.behind
      (part ++ tail.takeWhile isBlank ++ closingOf (tail.dropWhile isBlank))) := by
  have hquestion : (questionPattern.ends k).head? = some (k.behind part) := by
    have hmem : k.behind part ∈ questionPattern.ends k :=
      (finds_questionPattern k _).mpr ⟨part, hrest ▸ List.prefix_append part _, hpart, rfl⟩
    cases hends : questionPattern.ends k with
    | nil => exact absurd (hends ▸ hmem) List.not_mem_nil
    | cons q others =>
      -- the question is read in one way
      obtain ⟨other, ⟨behind, hbehind⟩, hother, rfl⟩ :=
        (finds_questionPattern k q).mp (hends ▸ List.mem_cons_self)
      rw [hpart.unique hother (hrest.symm.trans hbehind.symm)]
      rfl
  have hblanks : (blanks.ends (k.behind part)).head? =
      some (k.behind (part ++ tail.takeWhile isBlank)) := by
    have hblank : (CharSet.named .blank false).contains = isBlank := by
      funext c
      exact Bool.false_xor _
    rw [blanks, head?_ends_many, hblank, Pattern.Place.behind_behind, Pattern.Place.rest_behind,
      hrest, List.drop_left]
  have hclosing := head?_ends_optional ']' (k.behind (part ++ tail.takeWhile isBlank))
  have hbehind : (k.behind (part ++ tail.takeWhile isBlank)).rest = tail.dropWhile isBlank := by
    rw [← List.takeWhile_append_dropWhile (p := isBlank) (l := tail), ← List.append_assoc] at hrest
    rw [Pattern.Place.rest_behind, hrest, List.drop_left]
  rw [Pattern.Place.behind_behind, hbehind] at hclosing
  exact head?_ends_seq (head?_ends_seq hquestion hblanks) hclosing

/-- What is detected in a line, by a search in the cleaned line. -/
theorem detect_backup_eq (raw : String) :
    backup.detect raw =
      (find? backupPattern (cleanLine raw.toList)).map fun m =>
        ⟨backupSource, String.ofList m.text, String.ofList (cleanLine raw.toList)⟩ := by
  rw [detect, backup_eq, List.isEmpty_cons, if_neg Bool.false_ne_true, findIn]
  dsimp only
  -- the pattern has no name of its own and one member, so a match is told as it is
  cases find? backupPattern (cleanLine raw.toList) with
  | none => rfl
  | some m => rfl

end PromptPatterns

/-! ## Section 4: The first question

A search goes from place to place and takes the first at which the pattern can end.  That place has
a question, and at no earlier one there is any; together with the preferred end that is the whole of
the match. -/

open Overseer.Pattern
open PromptPatterns (backupPattern backupSource closingOf detect_backup_eq ends_backup_eq_nil
  head?_ends_backup)

/-- The closing bracket has no other spelling. -/
theorem closingOf_cases (s : List Char) :
    ∃ rest, s = closingOf s ++ rest ∧
      (closingOf s = [']'] ∨ closingOf s = [] ∧ rest.head? ≠ some ']') := by
  have hspellings : ∀ c ∈ caseVariants ']', c = ']' := by
    rw [caseVariants_letters.2.1]
    exact fun _ => List.mem_singleton.mp
  -- the bracket folds to itself alone, so it is there or another character is
  cases s with
  | nil => exact ⟨[], rfl, .inr ⟨rfl, nofun⟩⟩
  | cons c rest =>
    rw [closingOf, List.head?_cons, Option.filter_some]
    cases hletter : sameLetter ']' c with
    | false =>
      refine ⟨c :: rest, rfl, .inr ⟨rfl, fun heq => ?_⟩⟩
      rw [Option.some.inj heq] at hletter
      exact absurd hletter (by decide)
    | true =>
      obtain rfl : c = ']' := hspellings c (mem_caseVariants_of_sameLetter hletter)
      exact ⟨rest, rfl, .inl rfl⟩

/-- A question is the first one when the pattern ends nowhere from any place in front of it. -/
theorem firstQuestion_of_earliest {line front part tail : List Char}
    (hline : line = front ++ (part ++ tail)) (hpart : Question part)
    (hearlier : ∀ earlier, earlier <+: line → earlier.length < front.length →
      backupPattern.ends (Pattern.Place.behind ⟨none, 0, line⟩ earlier) = []) :
    FirstQuestion line ⟨backupSource, String.ofList (part ++ tail.takeWhile isBlank ++
      closingOf (tail.dropWhile isBlank)), String.ofList line⟩ := by
  obtain ⟨rest, hrest, hclosing⟩ := closingOf_cases (tail.dropWhile isBlank)
  have hwhole : line =
      front ++ part ++ tail.takeWhile isBlank ++ closingOf (tail.dropWhile isBlank) ++ rest := by
    rw [List.append_assoc, ← hrest, List.append_assoc, List.takeWhile_append_dropWhile, hline,
      List.append_assoc]
  refine .intro hwhole hpart ?_ (fun c hc => List.mem_takeWhile_imp hc) ?_ hclosing
  · -- an earlier question would have been found from its place
    intro earlier other others hother hasks
    rw [List.append_assoc] at hother
    by_contra hbefore
    have hends := head?_ends_backup (k := Pattern.Place.behind ⟨none, 0, line⟩ earlier) hasks
      (by rw [Pattern.Place.rest_behind, hother]; exact List.drop_left)
    rw [hearlier earlier (hother ▸ List.prefix_append ..) (Nat.lt_of_not_le hbefore)] at hends
    cases hends
  · -- greedily, the white space ends where a character that is none begins
    intro c hc
    rw [← hrest] at hc
    have hhead := List.head?_dropWhile_not isBlank tail
    rwa [hc] at hhead

/-- **What a search finds** in a line: nothing if no question is in it, else the first one.  The
search goes from place to place, and at each it asks whether a question begins there. -/
theorem find_backup_cases (line : List Char) :
    (backupPattern.find? line = none ∧ ∀ part, part <:+: line → ¬ Question part) ∨
      ∃ m, backupPattern.find? line = some m ∧
        FirstQuestion line ⟨backupSource, String.ofList m.text, String.ofList line⟩ := by
  have hrest : ∀ {front rest : List Char}, line = front ++ rest →
      (Pattern.Place.behind ⟨none, 0, line⟩ front).rest = rest := by
    rintro front rest rfl
    exact List.drop_left
  have hsearch : Found backupPattern ⟨none, 0, line⟩ (backupPattern.find? line) :=
    found_findFrom ..
  generalize backupPattern.find? line = result at hsearch
  cases hsearch with
  | nowhere hnone =>
    refine .inl ⟨rfl, ?_⟩
    rintro part ⟨front, tail, hline⟩ hpart
    rw [List.append_assoc] at hline
    have hends := head?_ends_backup hpart (hrest hline.symm)
    rw [hnone front (hline ▸ List.prefix_append ..)] at hends
    cases hends
  -- the pattern ended here first: at the end of a question, with what belongs to it behind
  | @first front rest stop hline hstop hearlier =>
    by_cases hquestion : ∃ part, part <+: rest ∧ Question part
    · obtain ⟨part, ⟨tail, rfl⟩, hpart⟩ := hquestion
      rw [head?_ends_backup hpart (hrest hline), Option.some.injEq] at hstop
      have htext : (part ++ tail).take (stop.offset - (0 + front.length)) =
          part ++ tail.takeWhile isBlank ++ closingOf (tail.dropWhile isBlank) := by
        obtain ⟨behind, hbehind, -⟩ := closingOf_cases (tail.dropWhile isBlank)
        rw [← hstop, Pattern.Place.offset_behind, Pattern.Place.offset_behind,
          Nat.add_sub_cancel_left]
        refine (List.prefix_iff_eq_take.mp ⟨behind, ?_⟩).symm
        rw [List.append_assoc, ← hbehind, List.append_assoc, List.takeWhile_append_dropWhile]
      refine .inr ⟨_, rfl, ?_⟩
      rw [htext]
      exact firstQuestion_of_earliest hline hpart hearlier
    · -- without a question the pattern would end nowhere here
      have hnil := ends_backup_eq_nil fun part hprefix hpart =>
        hquestion ⟨part, hrest hline ▸ hprefix, hpart⟩
      rw [hnil] at hstop
      cases hstop

/-- A line has one first question. -/
theorem FirstQuestion.unique {line : List Char} {found found' : DetectedPrompt}
    (h : FirstQuestion line found) (h' : FirstQuestion line found') : found = found' := by
  cases h with
  | @intro front part gap closing rest hline hpart hfirst hgap hwhole hclosing =>
  cases h' with
  | @intro front' part' gap' closing' rest' hline' hpart' hfirst' hgap' hwhole' hclosing' =>
    simp only [List.append_assoc] at hline hline'
    -- neither question begins in front of the other
    have hlength : front.length = front'.length :=
      Nat.le_antisymm (hfirst front' part' _ (by rw [hline', List.append_assoc]) hpart')
        (hfirst' front part _ (by rw [hline, List.append_assoc]) hpart)
    obtain ⟨rfl, hparts⟩ := List.append_inj (hline.symm.trans hline') hlength
    obtain rfl := hpart.unique hpart' hparts
    have hgaps := List.append_cancel_left hparts
    obtain rfl : gap = gap' := by
      rw [← takeWhile_run hgap hwhole, hgaps, takeWhile_run hgap' hwhole']
    have hclosings := List.append_cancel_left hgaps
    obtain rfl : closing = closing' := by
      rcases hclosing with rfl | ⟨rfl, hopen⟩
      · rcases hclosing' with rfl | ⟨rfl, hopen'⟩
        · rfl
        · exact absurd (congrArg List.head? hclosings).symm hopen'
      · rcases hclosing' with rfl | ⟨rfl, -⟩
        · exact absurd (congrArg List.head? hclosings) hopen
        · rfl
    rfl

/-- **The prompt for a backup** is detected exactly in the lines that hold a question once they are
cleaned, and what is reported is the first question.  The right side speaks of texts alone and of no
search. -/
theorem detect_backup_iff (raw : String) :
    ((PromptPatterns.backup.detect raw).isSome = true ↔
        ∃ part, part <:+: cleanLine raw.toList ∧ Question part) ∧
      ∀ found, PromptPatterns.backup.detect raw = some found ↔
        FirstQuestion (cleanLine raw.toList) found := by
  rw [detect_backup_eq]
  -- a first question is a question
  have hquestion : ∀ {line : List Char} {found : DetectedPrompt}, FirstQuestion line found →
      ∃ part, part <:+: line ∧ Question part := by
    intro line found h
    cases h with
    | @intro front part gap closing rest hline hpart =>
      simp only [List.append_assoc] at hline
      exact ⟨part, ⟨front, gap ++ (closing ++ rest), by rw [hline, List.append_assoc]⟩, hpart⟩
  rcases find_backup_cases (cleanLine raw.toList) with ⟨hfind, hnone⟩ | ⟨m, hfind, hfirst⟩
  · rw [hfind]
    have hnothing : ¬ ∃ part, part <:+: cleanLine raw.toList ∧ Question part :=
      fun ⟨part, hpart, hasks⟩ => hnone part hpart hasks
    refine ⟨iff_of_false Bool.false_ne_true hnothing, fun found => iff_of_false nofun ?_⟩
    exact fun hfirst => hnothing (hquestion hfirst)
  · rw [hfind]
    refine ⟨iff_of_true rfl (hquestion hfirst), fun found => ?_⟩
    rw [Option.map_some, Option.some.injEq]
    constructor
    · rintro rfl
      exact hfirst
    · exact hfirst.unique

end Overseer.Prompt
