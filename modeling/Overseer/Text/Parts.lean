/-!
# Parts Between Marks

A list is taken apart at the members that are marks.  The marks themselves belong to no part, and
two marks side by side have an empty part between them.

The parts are handed out in three shapes: the first one apart from the others, all of them in one
list, or the last one apart from those that a mark ends.
-/

namespace Overseer.Text

variable {α : Type}

/-- The part in front of the first mark, and the part behind each mark. -/
def partsAround (isMark : α → Bool) (s : List α) : List α × List (List α) :=
  s.foldr (fun a (first, others) =>
    if isMark a then ([], first :: others) else (a :: first, others)) ([], [])

/-- The parts between marks. -/
def splitAtMarks (isMark : α → Bool) (s : List α) : List (List α) :=
  let (first, others) := partsAround isMark s
  first :: others

/-- The parts that a mark ends, and what stands behind the last mark. -/
def endedParts (isMark : α → Bool) (s : List α) : List (List α) × List α :=
  let (first, others) := partsAround isMark s
  ((first :: others).dropLast, (first :: others).getLast (List.cons_ne_nil _ _))

/-- There is one more part than there are marks. -/
theorem length_splitAtMarks (isMark : α → Bool) (s : List α) :
    (splitAtMarks isMark s).length = s.countP isMark + 1 := by
  simp only [splitAtMarks, List.length_cons, Nat.add_right_cancel_iff]
  induction s with
  | nil => rfl
  | cons a s ih =>
    simp only [partsAround, List.foldr_cons] at ih ⊢
    by_cases h : isMark a <;> simp [h, ih]

section Marks

variable (isMark : α → Bool)

theorem splitAtMarks_nil : splitAtMarks isMark [] = [[]] := rfl

theorem splitAtMarks_cons_mark {a : α} (h : isMark a = true) (s : List α) :
    splitAtMarks isMark (a :: s) = [] :: splitAtMarks isMark s := by
  simp [splitAtMarks, partsAround, h]

/-- What is no mark belongs to the first part. -/
theorem splitAtMarks_cons {a : α} (h : isMark a = false) (s : List α) :
    ∃ first others, splitAtMarks isMark s = first :: others ∧
      splitAtMarks isMark (a :: s) = (a :: first) :: others :=
  ⟨_, _, rfl, by simp [splitAtMarks, partsAround, h]⟩

/-- No mark stands in a part. -/
theorem of_mem_splitAtMarks {s part : List α} {a : α} (hpart : part ∈ splitAtMarks isMark s)
    (ha : a ∈ part) : isMark a = false := by
  induction s generalizing part with
  | nil =>
    rw [splitAtMarks_nil, List.mem_singleton] at hpart
    exact absurd ha (hpart ▸ List.not_mem_nil)
  | cons b s ih =>
    cases hb : isMark b with
    | true =>
      rw [splitAtMarks_cons_mark isMark hb, List.mem_cons] at hpart
      rcases hpart with rfl | hpart
      · exact absurd ha List.not_mem_nil
      · exact ih hpart ha
    | false =>
      obtain ⟨first, others, hs, hbs⟩ := splitAtMarks_cons isMark hb s
      rw [hbs, List.mem_cons] at hpart
      rw [hs] at ih
      rcases hpart with rfl | hpart
      · rcases List.mem_cons.mp ha with rfl | ha
        · exact hb
        · exact ih List.mem_cons_self ha
      · exact ih (List.mem_cons_of_mem _ hpart) ha

/-- With one and the same mark behind every part the text stands there again, all its marks
replaced by that one. -/
theorem flatMap_splitAtMarks (mark : α) (s : List α) :
    (splitAtMarks isMark s).flatMap (· ++ [mark]) =
      s.map (fun a => if isMark a then mark else a) ++ [mark] := by
  induction s with
  | nil => rfl
  | cons a s ih =>
    cases ha : isMark a with
    | true =>
      rw [splitAtMarks_cons_mark isMark ha, List.flatMap_cons, ih, List.map_cons, ha, if_pos rfl]
      rfl
    | false =>
      obtain ⟨first, others, hs, has⟩ := splitAtMarks_cons isMark ha s
      rw [hs, List.flatMap_cons] at ih
      rw [has, List.flatMap_cons, List.map_cons, ha, if_neg Bool.false_ne_true, List.cons_append,
        List.cons_append, List.cons_append, ih]

/-- The parts of two texts with a mark between them. -/
theorem splitAtMarks_append_mark {mark : α} (h : isMark mark = true) (s t : List α) :
    splitAtMarks isMark (s ++ mark :: t) = splitAtMarks isMark s ++ splitAtMarks isMark t := by
  induction s with
  | nil =>
    rw [List.nil_append, splitAtMarks_cons_mark isMark h, splitAtMarks_nil, List.singleton_append]
  | cons a s ih =>
    rw [List.cons_append]
    cases ha : isMark a with
    | true =>
      rw [splitAtMarks_cons_mark isMark ha, splitAtMarks_cons_mark isMark ha, ih, List.cons_append]
    | false =>
      obtain ⟨first, others, hs, has⟩ := splitAtMarks_cons isMark ha s
      obtain ⟨first', others', hst, hast⟩ := splitAtMarks_cons isMark ha (s ++ mark :: t)
      rw [ih, hs, List.cons_append, List.cons.injEq] at hst
      rw [hast, has, List.cons_append, ← hst.1, ← hst.2]

theorem splitAtMarks_of_forall {s : List α} (h : ∀ a ∈ s, isMark a = false) :
    splitAtMarks isMark s = [s] := by
  induction s with
  | nil => rfl
  | cons a s ih =>
    obtain ⟨first, others, hs, has⟩ := splitAtMarks_cons isMark (h a List.mem_cons_self) s
    rw [ih fun b hb => h b (List.mem_cons_of_mem a hb), List.cons.injEq] at hs
    rw [has, ← hs.1, ← hs.2]

end Marks

end Overseer.Text
