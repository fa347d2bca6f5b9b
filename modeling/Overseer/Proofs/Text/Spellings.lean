import Overseer.Text.CaseFold

/-!
# Spellings of a Letter

The letters that fold to one character are told by a table, run by run, and the spellings of a
letter are read from the same table backwards.  So each letter is among its own spellings, and what
a letter can be spelled like is a finite question.

- `source?_of_fold`: a run is read backwards
- `mem_caseVariants`: a letter is one of its spellings
- `Spells`: a word in capital or small letters
-/

namespace Overseer.Text

/-- A run leads back to the code point that it folds. -/
theorem source?_of_fold {run : FoldRun} {n m : Nat} (h : run.apply? n = some m) :
    run.source? m = some n := by
  -- the three bounds of the run hold of the distance too, so it leads back
  simp only [ FoldRun.apply?, Bool.and_eq_true, decide_eq_true_eq, Option.ite_none_right_eq_some,
    Option.some.injEq] at h
  obtain ⟨⟨⟨hfirst, hlast⟩, hstep⟩, rfl⟩ := h
  have hdistance : run.target + (n - run.first) - run.target = n - run.first :=
    Nat.add_sub_cancel_left ..
  simp only [FoldRun.source?, hdistance, Bool.and_eq_true, decide_eq_true_eq,
    Option.ite_none_right_eq_some, Option.some.injEq]
  omega

/-- What a run folds to is a character. -/
theorem isValidChar_of_fold {run : FoldRun} (hrun : run ∈ foldRuns) {n m : Nat}
    (h : run.apply? n = some m) : m.isValidChar := by
  -- no run ends among the surrogates or past the last character
  have hruns : ∀ run ∈ foldRuns, run.target + (run.last - run.first) < 0xD800 ∨
      0xDFFF < run.target ∧ run.target + (run.last - run.first) < 0x110000 := by decide +kernel
  have hrange := hruns run hrun
  simp only [ FoldRun.apply?, Bool.and_eq_true, decide_eq_true_eq, Option.ite_none_right_eq_some,
    Option.some.injEq] at h
  simp only [Nat.isValidChar]
  omega

/-- **A letter is one of its spellings.** -/
theorem mem_caseVariants (c : Char) : c ∈ caseVariants c := by
  by_cases hascii : c.toNat < 0x80
  · -- within ASCII only the capital letters fold to another letter
    have hletters : ∀ n < 0x80, Char.ofNat n ∈ caseVariants (Char.ofNat n) := by decide +kernel
    have hletter := hletters c.toNat hascii
    rwa [Char.ofNat_toNat] at hletter
  · rw [caseVariants, List.mem_cons, List.mem_filterMap, foldCase, if_neg hascii, foldCode]
    cases hfound : foldRuns.findSome? fun run => run.apply? c.toNat with
    | none => exact .inl (by rw [Option.getD_none, Char.ofNat_toNat])
    | some m =>
      obtain ⟨run, hrun, happly⟩ := List.exists_of_findSome?_eq_some hfound
      have htoNat : (Char.ofNat m).toNat = m := by
        rw [Char.ofNat, dif_pos (isValidChar_of_fold hrun happly)]
        rfl
      refine .inr ⟨run, hrun, ?_⟩
      rw [Option.getD_some, htoNat, source?_of_fold happly, Option.map_some, Char.ofNat_toNat]

/-- Letters with one fold are spellings of each other. -/
theorem mem_caseVariants_of_sameLetter {c d : Char} (h : sameLetter c d = true) :
    d ∈ caseVariants c := by
  have hfold : foldCase c = foldCase d := beq_iff_eq.mp h
  rw [caseVariants, hfold]
  exact mem_caseVariants d

/-! ## Words -/

/-- The second text spells the first one: the letters are the same, in any case. -/
def Spells (word s : List Char) : Prop := s.map foldCase = word.map foldCase

theorem spells_singleton {c : Char} {s : List Char} :
    Spells [c] s ↔ ∃ d, sameLetter c d = true ∧ s = [d] := by
  rw [Spells, List.map_singleton, List.map_eq_singleton_iff]
  constructor
  · rintro ⟨d, rfl, hletter⟩
    exact ⟨d, beq_iff_eq.mpr hletter.symm, rfl⟩
  · rintro ⟨d, hletter, rfl⟩
    exact ⟨d, rfl, (beq_iff_eq.mp hletter).symm⟩

theorem spells_concat {word s : List Char} {c : Char} :
    Spells (word ++ [c]) s ↔ ∃ u v, Spells word u ∧ Spells [c] v ∧ s = u ++ v := by
  rw [Spells, List.map_append, List.map_eq_append_iff]
  constructor
  · rintro ⟨u, v, rfl, hu, hv⟩
    exact ⟨u, v, hu, hv, rfl⟩
  · rintro ⟨u, v, hu, hv, rfl⟩
    exact ⟨u, v, rfl, hu, hv⟩

theorem Spells.length_eq {word s : List Char} (h : Spells word s) : s.length = word.length := by
  have hlength := congrArg List.length h
  rwa [List.length_map, List.length_map] at hlength

end Overseer.Text
