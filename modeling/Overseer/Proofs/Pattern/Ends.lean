import Mathlib.Data.List.Induction
import Mathlib.Data.List.Infix
import Mathlib.Data.List.TakeWhile
import Overseer.Pattern.Matching
import Overseer.Proofs.Text.Spellings

/-!
# Where a Pattern Ends

A matcher lists the places at which a pattern can end, the most preferred first.  For patterns made
of characters, repeated characters and sequences the list is told by two facts: the texts that the
pattern reads, which make up its members, and its first member, which a search takes.

- `Finds`: the ends of a pattern are those behind the texts of a language
- `Finds.seq`, `finds_letters`, `finds_many`, `finds_optional`: what sequences, words and repeated
  characters read
- `head?_ends_many`, `head?_ends_optional`, `head?_ends_seq`: the end that is preferred
- `found_findFrom`: a search finds the first place at which the pattern can end
-/

namespace Overseer.Pattern

/-! ## Section 1: Places behind a text

A place is an offset and the rest of the text, and the two belong together: places that come from
one another by reading are told apart by the offset alone. -/

namespace Place

/-- The place behind some characters that follow. -/
def behind (k : Place) (read : List Char) : Place :=
  ⟨read.getLast?.or k.before, k.offset + read.length, k.rest.drop read.length⟩

variable (k : Place)

@[simp] theorem behind_nil : k.behind [] = k := rfl

@[simp] theorem offset_behind (read : List Char) :
    (k.behind read).offset = k.offset + read.length := rfl

@[simp] theorem rest_behind (read : List Char) :
    (k.behind read).rest = k.rest.drop read.length := rfl

theorem behind_behind (first second : List Char) :
    (k.behind first).behind second = k.behind (first ++ second) := by
  simp [behind, List.getLast?_append, Option.or_assoc, Nat.add_assoc]

theorem next_eq_behind {c : Char} {rest : List Char} (h : k.rest = c :: rest) :
    k.next c rest = k.behind [c] := by
  simp [next, behind, h]

/-- Texts that follow a place and lead equally far are one text. -/
theorem behind_inj {first second : List Char} (hfirst : first <+: k.rest)
    (hsecond : second <+: k.rest) (h : (k.behind first).offset = (k.behind second).offset) :
    first = second := by
  have hlength : first.length = second.length := Nat.add_left_cancel h
  exact (List.prefix_of_prefix_length_le hfirst hsecond hlength.le).eq_of_length hlength

end Place

/-! ## Section 2: Places listed once

The matcher keeps the first of the places with one offset and drops the others, which is what keeps
it from trying a place again and again. -/

theorem testBit_insert (seen : Offsets) (offset i : Nat) :
    (Offsets.insert seen offset).testBit i = (seen.testBit i || i == offset) := by
  rw [Offsets.insert, Nat.testBit_or, Nat.one_shiftLeft, Nat.testBit_two_pow]
  congr 1
  rw [Bool.eq_iff_iff, decide_eq_true_eq, beq_iff_eq]
  exact eq_comm

/-- Of places that differ by their offsets, those are kept whose offsets are new. -/
theorem mem_distinctFrom {ks : List Place}
    (h : ∀ q ∈ ks, ∀ q' ∈ ks, q.offset = q'.offset → q = q') (seen : Offsets) (q : Place) :
    q ∈ distinctFrom seen ks ↔ q ∈ ks ∧ seen.testBit q.offset = false := by
  induction ks generalizing seen with
  | nil => simp [distinctFrom]
  | cons k ks ih =>
    have hrest := ih fun q hq q' hq' =>
      h q (List.mem_cons_of_mem k hq) q' (List.mem_cons_of_mem k hq')
    rw [distinctFrom]
    split
    -- the offset of the first place is taken, so the place itself is not among those that are new
    case isTrue hseen =>
      rw [hrest, List.mem_cons]
      refine ⟨fun ⟨hq, hnew⟩ => ⟨.inr hq, hnew⟩, fun ⟨hq, hnew⟩ => ⟨hq.resolve_left ?_, hnew⟩⟩
      rintro rfl
      exact absurd hseen (by simp [hnew])
    -- the first place is new, and takes its offset from those behind it
    case isFalse hnew =>
      rw [List.mem_cons, List.mem_cons, hrest, testBit_insert]
      constructor
      · rintro (rfl | ⟨hq, hfree⟩)
        · exact ⟨.inl rfl, by simpa using hnew⟩
        · exact ⟨.inr hq, (Bool.or_eq_false_iff.mp hfree).1⟩
      · rintro ⟨rfl | hq, hfree⟩
        · exact .inl rfl
        · by_cases hoffset : q.offset = k.offset
          · exact .inl (h q (List.mem_cons_of_mem k hq) k List.mem_cons_self hoffset)
          · exact .inr ⟨hq, by simp [hfree, hoffset]⟩

/-- **Places are listed once**, when each offset belongs to one place. -/
theorem mem_distinct {ks : List Place}
    (h : ∀ q ∈ ks, ∀ q' ∈ ks, q.offset = q'.offset → q = q') (q : Place) :
    q ∈ distinct ks ↔ q ∈ ks := by
  match ks with
  | [] => rfl
  | [_] => rfl
  | k :: k' :: ks =>
    have hdistinct : distinct (k :: k' :: ks) = distinctFrom 0 (k :: k' :: ks) := rfl
    rw [hdistinct, mem_distinctFrom h, Nat.zero_testBit, and_iff_left rfl]

/-- The place that is preferred stays in front. -/
@[simp] theorem head?_distinct (ks : List Place) : (distinct ks).head? = ks.head? := by
  match ks with
  | [] => rfl
  | [_] => rfl
  | k :: k' :: ks => simp [distinct, distinctFrom]

/-! ## Section 3: Languages

A pattern may read different texts from one place, so what it finds is a language; the order of its
ends is another matter, and is left to the lemmas about the preferred end. -/

/-- A pattern ends behind the texts of a language, wherever they follow, and nowhere else. -/
def Finds (p : Pattern) (Language : List Char → Prop) : Prop :=
  ∀ k q, q ∈ p.ends k ↔ ∃ read, read <+: k.rest ∧ Language read ∧ q = k.behind read

theorem Finds.congr {p : Pattern} {Language Other : List Char → Prop} (h : Finds p Language)
    (hsame : ∀ s, Language s ↔ Other s) : Finds p Other := by
  intro k q
  simp only [h k q, hsame]

/-- Places behind texts that follow one place are told apart by their offsets. -/
theorem eq_of_offset_eq {k : Place} {ks : List Place}
    (h : ∀ q ∈ ks, ∃ read, read <+: k.rest ∧ q = k.behind read) :
    ∀ q ∈ ks, ∀ q' ∈ ks, q.offset = q'.offset → q = q' := by
  intro q hq q' hq' hoffset
  obtain ⟨read, hread, rfl⟩ := h q hq
  obtain ⟨read', hread', rfl⟩ := h q' hq'
  rw [k.behind_inj hread hread' hoffset]

/-- What a list of places behind texts holds after each was taken once. -/
theorem mem_distinct_of_forall {k : Place} {ks : List Place} {Language : List Char → Prop}
    (h : ∀ q, q ∈ ks ↔ ∃ read, read <+: k.rest ∧ Language read ∧ q = k.behind read) (q : Place) :
    q ∈ distinct ks ↔ ∃ read, read <+: k.rest ∧ Language read ∧ q = k.behind read := by
  rw [mem_distinct, h]
  refine eq_of_offset_eq (k := k) fun q hq => ?_
  obtain ⟨read, hread, -, hq⟩ := (h q).mp hq
  exact ⟨read, hread, hq⟩

theorem stepIf_cons {test : Char → Bool} {k : Place} {c : Char} {rest : List Char}
    (h : k.rest = c :: rest) : stepIf test k = if test c then [k.behind [c]] else [] := by
  rw [stepIf, h]
  simp only [k.next_eq_behind h]

theorem stepIf_nil {test : Char → Bool} {k : Place} (h : k.rest = []) : stepIf test k = [] := by
  rw [stepIf, h]

/-- One character that passes a test. -/
theorem mem_stepIf (test : Char → Bool) (k q : Place) :
    q ∈ stepIf test k ↔
      ∃ read, read <+: k.rest ∧ (∃ c, test c = true ∧ read = [c]) ∧ q = k.behind read := by
  constructor
  · -- at the end there is no character to test
    intro hq
    cases hrest : k.rest with
    | nil =>
      rw [stepIf_nil hrest] at hq
      exact absurd hq List.not_mem_nil
    | cons c rest =>
      rw [stepIf_cons hrest] at hq
      split at hq
      case isTrue htest =>
        exact ⟨[c], ⟨rest, rfl⟩, ⟨c, htest, rfl⟩, List.mem_singleton.mp hq⟩
      case isFalse => exact absurd hq List.not_mem_nil
  · rintro ⟨_, ⟨rest, hrest⟩, ⟨c, htest, rfl⟩, rfl⟩
    rw [stepIf_cons hrest.symm, if_pos htest]
    exact List.mem_singleton_self _

theorem finds_empty : Finds .empty (· = []) := by
  intro k q
  rw [ends, List.mem_singleton]
  constructor
  · rintro rfl
    exact ⟨[], List.nil_prefix, rfl, q.behind_nil.symm⟩
  · rintro ⟨_, -, rfl, rfl⟩
    exact k.behind_nil

theorem finds_literal (c : Char) : Finds (.literal c) (Text.Spells [c]) := by
  intro k q
  simp only [Text.spells_singleton]
  exact mem_stepIf (Text.sameLetter c) k q

/-- **A sequence** reads what its first part reads and then what its second part reads. -/
theorem Finds.seq {first second : Pattern} {First Second : List Char → Prop}
    (hfirst : Finds first First) (hsecond : Finds second Second) :
    Finds (.seq first second) fun read => ∃ u v, First u ∧ Second v ∧ read = u ++ v := by
  intro k q
  refine mem_distinct_of_forall (fun q => ?_) q
  rw [List.mem_flatMap]
  constructor
  · -- where the first part ends the second one begins
    rintro ⟨m, hm, hq⟩
    obtain ⟨u, ⟨rest, hu⟩, hreads, rfl⟩ := (hfirst k m).mp hm
    obtain ⟨v, hv, hreads', rfl⟩ := (hsecond _ q).mp hq
    have hrest : (k.behind u).rest = rest := by rw [Place.rest_behind, ← hu, List.drop_left]
    rw [hrest] at hv
    refine ⟨u ++ v, ?_, ⟨u, v, hreads, hreads', rfl⟩, k.behind_behind u v⟩
    rw [← hu]
    exact (List.prefix_append_right_inj u).mpr hv
  · -- the text splits into what the two parts read
    rintro ⟨_, hread, ⟨u, v, hu, hv, rfl⟩, rfl⟩
    have hprefix : u <+: k.rest := (List.prefix_append u v).trans hread
    refine ⟨k.behind u, (hfirst k _).mpr ⟨u, hprefix, hu, rfl⟩, ?_⟩
    refine (hsecond _ _).mpr ⟨v, ?_, hv, (k.behind_behind u v).symm⟩
    obtain ⟨rest, hrest⟩ := hread
    rw [Place.rest_behind, ← hrest, List.append_assoc, List.drop_left]
    exact List.prefix_append v rest

/-! ## Section 4: Repeated characters

A repetition goes on for as long as its body reads something.  With a body of one character the
rounds are a run of characters, and their ends are all the places in it, from the last to the first.
-/

section Repeated

variable (test : Char → Bool)

/-- The places behind the first characters that follow, as far as all of them pass a test, the
farthest first. -/
def runEnds (k : Place) : List Place := (k.rest.takeWhile test).inits.reverse.map k.behind

variable {test}

theorem runEnds_of_nil {k : Place} (h : k.rest = []) : runEnds test k = [k] := by
  simp [runEnds, h]

theorem runEnds_of_fails {k : Place} {c : Char} {rest : List Char} (h : k.rest = c :: rest)
    (htest : ¬ test c = true) : runEnds test k = [k] := by
  simp [runEnds, h, htest]

theorem runEnds_of_passes {k : Place} {c : Char} {rest : List Char} (h : k.rest = c :: rest)
    (htest : test c = true) : runEnds test k = runEnds test (k.behind [c]) ++ [k] := by
  simp [runEnds, h, htest, Function.comp_def, Place.behind_behind]

/-- The ends of a run of characters are those of its beginnings. -/
theorem mem_runEnds (k q : Place) :
    q ∈ runEnds test k ↔
      ∃ read, read <+: k.rest ∧ (∀ c ∈ read, test c = true) ∧ q = k.behind read := by
  rw [runEnds, List.mem_map]
  simp only [List.mem_reverse, List.mem_inits]
  constructor
  · -- what is read is the beginning of the run of characters that pass
    rintro ⟨read, hread, rfl⟩
    exact ⟨read, hread.trans (List.takeWhile_prefix test),
      fun c hc => List.mem_takeWhile_imp (hread.subset hc), rfl⟩
  · rintro ⟨read, hread, htest, rfl⟩
    refine ⟨read, ?_, rfl⟩
    obtain ⟨rest, hrest⟩ := hread
    rw [← hrest, List.takeWhile_append_of_pos htest]
    exact List.prefix_append read _

theorem head?_runEnds (k : Place) :
    (runEnds test k).head? = some (k.behind (k.rest.takeWhile test)) := by
  -- the last of the beginnings of a text is the text
  have hlast : ∀ s : List Char, s.inits.getLast? = some s := by
    intro s
    induction s with
    | nil => rfl
    | cons c s ih => simp [List.getLast?_cons, ih]
  rw [runEnds, List.head?_map, List.head?_reverse, hlast]
  rfl

/-- One more round, where a greedy repetition may begin it. -/
theorem rounds_succ (body : Place → List Place) (fuel : Nat) (k : Place) (seen : Offsets) :
    (rounds body true (fuel + 1) k seen).1 =
      ((body k).foldl (fun (found, seen) q =>
        if seen.testBit q.offset then (found, seen)
        else
          let (ends, seen) := rounds body true fuel q seen
          (found ++ ends, seen)) (([] : List Place), Offsets.insert seen k.offset)).1 ++ [k] :=
  rfl

/-- **Rounds of one character** run as far as the test passes, and give back one after the other. -/
theorem rounds_stepIf {fuel : Nat} {k : Place} {seen : Offsets} (hfuel : k.rest.length ≤ fuel)
    (hseen : ∀ i, k.offset < i → seen.testBit i = false) :
    (rounds (stepIf test) true fuel k seen).1 = runEnds test k := by
  -- nothing is left to read
  induction fuel generalizing k seen with
  | zero =>
    rw [runEnds_of_nil (List.length_eq_zero_iff.mp (Nat.le_zero.mp hfuel))]
    rfl
  | succ fuel ih =>
    rw [rounds_succ]
    cases hrest : k.rest with
    | nil =>
      rw [stepIf_nil hrest, runEnds_of_nil hrest]
      rfl
    | cons c rest =>
      rw [stepIf_cons hrest]
      -- the test passes and the next round begins one further on, or the run ends here
      by_cases htest : test c = true
      · have hnew : ∀ i, k.offset < i → (Offsets.insert seen k.offset).testBit i = false := by
          intro i hi
          rw [testBit_insert, hseen i hi, Bool.false_or, beq_eq_false_iff_ne]
          exact hi.ne'
        have hlength : (k.behind [c]).rest.length ≤ fuel := by
          simp [hrest] at hfuel ⊢
          omega
        have hnext := ih hlength fun i hi => hnew i (Nat.lt_of_succ_lt hi)
        rw [runEnds_of_passes hrest htest, if_pos htest, ← hnext]
        simp [hnew]
      · rw [runEnds_of_fails hrest htest, if_neg htest]
        rfl

/-- A run of characters, with the empty one at the end. -/
theorem firstRound_stepIf (k : Place) :
    firstRound (stepIf test) true k ++ [k] = runEnds test k := by
  rw [firstRound]
  cases hrest : k.rest with
  | nil =>
    rw [stepIf_nil hrest, runEnds_of_nil hrest]
    rfl
  | cons c rest =>
    -- the first round is one of the others, with nothing seen so far
    rw [stepIf_cons hrest]
    by_cases htest : test c = true
    · have hlength : (k.behind [c]).rest.length ≤ (c :: rest).length := by
        simp [hrest]
      have hnext : (rounds (stepIf test) true (c :: rest).length (k.behind [c]) 0).1 = _ :=
        rounds_stepIf hlength fun i _ => Nat.zero_testBit i
      rw [runEnds_of_passes hrest htest, if_pos htest, ← hnext]
      simp
    · rw [runEnds_of_fails hrest htest, if_neg htest]
      rfl

/-- **Any number of characters** that pass a test. -/
theorem repetitionEnds_many (k : Place) :
    repetitionEnds (stepIf test) 0 none true k = distinct (runEnds test k) := by
  rw [← firstRound_stepIf]
  rfl

/-- At most one character that passes a test. -/
theorem repetitionEnds_optional (k : Place) :
    repetitionEnds (stepIf test) 0 (some 1) true k =
      distinct (distinct (stepIf test k ++ [k])) := by
  have hmore : distinct (stepIf test k) = stepIf test k := by
    rw [stepIf]
    split
    · split <;> rfl
    · rfl
  simp only [repetitionEnds, exactly, atMost, Nat.sub_zero, List.flatMap_cons, List.flatMap_nil,
    List.append_nil, if_true, List.flatMap_singleton', hmore]

end Repeated

/-! ## Section 5: Ends of repetitions -/

/-- Any number of characters of a set. -/
def many (members : CharSet) : Pattern := .repeated (.set members) 0 none true

/-- A letter that may be missing. -/
def optional (c : Char) : Pattern := .repeated (.literal c) 0 (some 1) true

theorem ends_many (members : CharSet) (k : Place) :
    (many members).ends k = distinct (runEnds members.contains k) :=
  repetitionEnds_many k

theorem ends_optional (c : Char) (k : Place) :
    (optional c).ends k = distinct (distinct (stepIf (Text.sameLetter c) k ++ [k])) :=
  repetitionEnds_optional k

theorem finds_many (members : CharSet) :
    Finds (many members) fun read => ∀ c ∈ read, members.contains c = true := by
  intro k q
  rw [ends_many]
  exact mem_distinct_of_forall (mem_runEnds k) q

/-- An optional letter reads the letter, or nothing. -/
theorem finds_optional (c : Char) :
    Finds (optional c) fun read => read = [] ∨ Text.Spells [c] read := by
  intro k q
  simp only [Text.spells_singleton]
  rw [ends_optional]
  refine mem_distinct_of_forall (mem_distinct_of_forall fun q => ?_) q
  rw [List.mem_append, List.mem_singleton, mem_stepIf]
  -- the letter is there, or it is left out
  constructor
  · rintro (⟨read, hread, hletter, rfl⟩ | rfl)
    · exact ⟨read, hread, .inr hletter, rfl⟩
    · exact ⟨[], List.nil_prefix, .inl rfl, q.behind_nil.symm⟩
  · rintro ⟨read, hread, rfl | hletter, rfl⟩
    · exact .inr k.behind_nil
    · exact .inl ⟨read, hread, hletter, rfl⟩

/-- The letters of a word, one behind the other. -/
def letters (word : List Char) : Pattern := word.foldl (fun p c => .seq p (.literal c)) .empty

theorem finds_letters (word : List Char) : Finds (letters word) (Text.Spells word) := by
  induction word using List.reverseRecOn with
  | nil => exact finds_empty.congr fun s => by simp [Text.Spells]
  | append_singleton word c ih =>
    have hconcat : letters (word ++ [c]) = .seq (letters word) (.literal c) :=
      List.foldl_concat ..
    rw [hconcat]
    exact (ih.seq (finds_literal c)).congr fun s => Text.spells_concat.symm

/-- A repetition of a set prefers to read all characters of the set that follow. -/
theorem head?_ends_many (members : CharSet) (k : Place) :
    ((many members).ends k).head? = some (k.behind (k.rest.takeWhile members.contains)) := by
  rw [ends_many, head?_distinct, head?_runEnds]

/-- A letter that may be missing is read if it follows. -/
theorem head?_ends_optional (c : Char) (k : Place) :
    ((optional c).ends k).head? =
      some (k.behind (k.rest.head?.filter (Text.sameLetter c)).toList) := by
  rw [ends_optional, head?_distinct, head?_distinct]
  cases hrest : k.rest with
  | nil => simp [stepIf_nil hrest]
  | cons d rest =>
    rw [stepIf_cons hrest]
    cases hletter : Text.sameLetter c d with
    | true => simp [hletter, Option.filter]
    | false => simp [hletter, Option.filter]

/-- A sequence prefers what its second part prefers behind what its first part prefers. -/
theorem head?_ends_seq {first second : Pattern} {k m q : Place}
    (hfirst : (first.ends k).head? = some m) (hsecond : (second.ends m).head? = some q) :
    ((Pattern.seq first second).ends k).head? = some q := by
  obtain ⟨others, hothers⟩ := List.head?_eq_some_iff.mp hfirst
  rw [ends, head?_distinct, hothers, List.flatMap_cons, List.head?_append, hsecond]
  rfl

theorem ends_seq_eq_nil {first : Pattern} {k : Place} (second : Pattern)
    (h : first.ends k = []) : (Pattern.seq first second).ends k = [] := by
  rw [ends, h]
  rfl

/-! ## Section 6: The first match

The relation says what a search may answer, and the search is shown to answer so.  It is what the
other modules use, so that none of them opens the search. -/

/-- What a search from a place on finds: nothing when the pattern ends nowhere, else the text from
the first place at which it can end somewhere to the end that is preferred there. -/
inductive Found (p : Pattern) (k : Place) : Option Match → Prop where
  | nowhere (hnone : ∀ front, front <+: k.rest → p.ends (k.behind front) = []) : Found p k none
  | first {front rest : List Char} {stop : Place} (hrest : k.rest = front ++ rest)
      (hstop : (p.ends (k.behind front)).head? = some stop)
      (hearlier : ∀ earlier, earlier <+: k.rest → earlier.length < front.length →
        p.ends (k.behind earlier) = []) :
      Found p k (some ⟨k.offset + front.length,
        rest.take (stop.offset - (k.offset + front.length))⟩)

namespace Found

variable {p : Pattern} {k : Place}

/-- The pattern can end somewhere at once. -/
theorem here {stop : Place} {others : List Place} (h : p.ends k = stop :: others) :
    Found p k (some ⟨k.offset, k.rest.take (stop.offset - k.offset)⟩) := by
  have hstop : (p.ends (k.behind [])).head? = some stop := by
    rw [Place.behind_nil, h]
    rfl
  have hsplit : k.rest = [] ++ k.rest := rfl
  exact .first hsplit hstop fun _ _ hless => absurd hless (Nat.not_lt_zero _)

/-- The pattern ends nowhere here, and the search goes on behind the next character. -/
theorem later {c : Char} {rest : List Char} (hrest : k.rest = c :: rest) (h : p.ends k = [])
    {found : Option Match} (hfound : Found p (k.behind [c]) found) : Found p k found := by
  have hdrop : (k.behind [c]).rest = rest := by
    rw [Place.rest_behind, hrest]
    rfl
  -- a text in front is empty, or begins with the character
  have hfront : ∀ front, front <+: k.rest →
      (∀ front', front = c :: front' → front' <+: rest →
        p.ends ((k.behind [c]).behind front') = []) → p.ends (k.behind front) = [] := by
    intro front hprefix hcons
    rw [hrest] at hprefix
    rcases List.prefix_cons_iff.mp hprefix with rfl | ⟨front', rfl, hprefix'⟩
    · rw [Place.behind_nil]
      exact h
    · have hnext := hcons front' rfl hprefix'
      rwa [Place.behind_behind] at hnext
  cases hfound with
  | nowhere hnone =>
    refine .nowhere fun front hprefix => hfront front hprefix fun front' _ hprefix' => ?_
    exact hnone front' (hdrop ▸ hprefix')
  | @first front tail stop hsplit hstop hearlier =>
    have hwhole : k.rest = (c :: front) ++ tail := by rw [hrest, ← hdrop, hsplit]; rfl
    rw [Place.behind_behind] at hstop
    have hoffset : (k.behind [c]).offset + front.length = k.offset + (c :: front).length := by
      simp only [Place.offset_behind, List.length_cons, List.length_nil]
      omega
    rw [hoffset]
    refine .first hwhole hstop fun earlier hprefix hless => ?_
    refine hfront earlier hprefix fun front' heq hprefix' => ?_
    subst heq
    exact hearlier front' (hdrop ▸ hprefix') (Nat.lt_of_succ_lt_succ hless)

end Found

/-- **A search** tries one place after the other. -/
theorem found_findFrom (p : Pattern) (before : Option Char) (offset : Nat) (s : List Char) :
    Found p ⟨before, offset, s⟩ (p.findFrom before offset s) := by
  -- at the end only the empty text is left to find
  induction s generalizing before offset with
  | nil =>
    rw [findFrom]
    cases hends : p.ends ⟨before, offset, []⟩ with
    | nil =>
      refine .nowhere fun front hfront => ?_
      rw [List.prefix_nil.mp hfront]
      exact hends
    | cons stop others =>
      have hhere := Found.here hends
      rw [List.take_nil] at hhere
      exact hhere
  | cons c rest ih =>
    rw [findFrom]
    -- nothing is found here, so the search goes on behind the next character
    cases hends : p.ends ⟨before, offset, c :: rest⟩ with
    | nil => exact .later rfl hends (ih (some c) (offset + 1))
    | cons stop others => exact .here hends

end Overseer.Pattern
