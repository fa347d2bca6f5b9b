import Mathlib.Data.List.TakeWhile
import Overseer.Proofs.FileTree.PathNames

/-!
# The Directory in a Path

The path of the directory that a file lies in is what is written in front of the last component of
the file's path.  It names what the path names but for the last name, and it begins where the path
begins.

- `Path.namesIn_dropComponent`: the names in a text without its last component
- `Path.parent?_cases`: what the path of the directory is, and which paths have one
-/

namespace Overseer.Path

/-! ## Section 1: The end of a path

Everything is said of the characters first, seen from the end, since that is where the directory is
looked for. -/

/-- The names in a text, as `names` tells them of a path. -/
def namesIn (s : List Char) : List String :=
  ((splitSlashes s).filter fun part => !part.isEmpty && part != ['.']).map String.ofList

theorem names_eq_namesIn (path : String) : names path = namesIn path.toList := rfl

theorem namesIn_append (s t : List Char) :
    namesIn (s ++ '/' :: t) = namesIn s ++ namesIn t := by
  rw [namesIn, splitSlashes_append, List.filter_append, List.map_append]
  rfl

theorem namesIn_of_not_mem {s : List Char} (h : '/' ∉ s) :
    namesIn s = if s = [] ∨ s = ['.'] then [] else [String.ofList s] := by
  rw [namesIn, splitSlashes_of_not_mem h]
  by_cases hempty : s = []
  · simp [hempty]
  · by_cases hdot : s = ['.']
    · simp [hdot]
    · simp [hempty, hdot]

theorem dropTrailing_suffix (s : List Char) : dropTrailing s <:+ s := by
  fun_induction dropTrailing s with
  | case1 s ih => exact ih.trans (List.suffix_cons ..)
  | case2 s ih => exact ih.trans ((List.suffix_cons ..).trans (List.suffix_cons ..))
  | case3 s => exact List.suffix_refl s

/-- A slash at the end of a text, and a dot behind it, name nothing. -/
theorem namesIn_append_slash (s : List Char) :
    namesIn (s ++ ['/']) = namesIn s ∧ namesIn (s ++ ['/', '.']) = namesIn s := by
  have hempty : namesIn [] = [] := by simp [namesIn_of_not_mem]
  have hdot : namesIn ['.'] = [] := by simp [namesIn_of_not_mem]
  rw [namesIn_append, namesIn_append, hempty, hdot, List.append_nil]
  exact ⟨rfl, rfl⟩

theorem namesIn_dropTrailing (s : List Char) :
    namesIn (dropTrailing s).reverse = namesIn s.reverse := by
  fun_induction dropTrailing s with
  | case1 s ih => rw [ih, List.reverse_cons, (namesIn_append_slash _).1]
  | case2 s ih =>
    rw [ih, List.reverse_cons, List.reverse_cons, List.append_assoc, List.singleton_append,
      (namesIn_append_slash _).2]
  | case3 s => rfl

/-- What is left ends neither with a slash nor with a dot of its own behind one. -/
theorem dropTrailing_cases (s : List Char) :
    (dropTrailing s).head? ≠ some '/' ∧ ∀ t, dropTrailing s ≠ '.' :: '/' :: t := by
  fun_induction dropTrailing s with
  | case1 s ih => exact ih
  | case2 s ih => exact ih
  | case3 s hslash hdot =>
    refine ⟨fun hhead => ?_, hdot⟩
    obtain ⟨t, ht⟩ := List.head?_eq_some_iff.mp hhead
    exact hslash t ht

/-- Backwards, the last component of a text comes first.  It stands alone, or there is a slash
behind it and it is a name. -/
theorem dropTrailing_split (s : List Char) :
    ∃ last, '/' ∉ last ∧
      (dropTrailing s = last ∧ (dropTrailing s).dropWhile (· != '/') = [] ∨
        ∃ front, dropTrailing s = last ++ '/' :: front ∧
          (dropTrailing s).dropWhile (· != '/') = '/' :: front ∧ last ≠ [] ∧ last ≠ ['.']) := by
  obtain ⟨hslash, hdot⟩ := dropTrailing_cases s
  generalize dropTrailing s = trimmed at hslash hdot
  -- up to the slash there is none
  have hlast : '/' ∉ trimmed.takeWhile (· != '/') := by
    intro hmem
    simpa using List.mem_takeWhile_imp hmem
  have hwhole := List.takeWhile_append_dropWhile (p := (· != '/')) (l := trimmed)
  have hstop := List.head?_dropWhile_not (· != '/') trimmed
  refine ⟨_, hlast, ?_⟩
  generalize trimmed.takeWhile (· != '/') = last at hwhole
  generalize trimmed.dropWhile (· != '/') = front at hwhole hstop
  subst hwhole
  -- nothing is left behind the last component, or it begins with the slash that stopped it
  cases front with
  | nil => exact .inl ⟨List.append_nil _, rfl⟩
  | cons c front =>
    obtain rfl : c = '/' := by simpa using hstop
    refine .inr ⟨front, rfl, rfl, ?_, ?_⟩
    · rintro rfl
      exact hslash rfl
    · rintro rfl
      exact hdot front rfl

/-- **Without its last component**, a text names all but the last of its names. -/
theorem namesIn_dropComponent (s : List Char) :
    namesIn (dropTrailing ((dropTrailing s).dropWhile (· != '/'))).reverse =
      (namesIn s.reverse).dropLast := by
  obtain ⟨last, hlast, ⟨hwhole, hfront⟩ | ⟨front, hwhole, hfront, hfilled, hdot⟩⟩ :=
    dropTrailing_split s
  · -- the component is all there is: nothing or a dot names nothing, and anything else one name
    rw [namesIn_dropTrailing, ← namesIn_dropTrailing s, hfront, hwhole,
      namesIn_of_not_mem (mt List.mem_reverse.mp hlast)]
    split <;> rfl
  · -- there is a slash in front of the component, and so it is a name
    have hname : ¬ (last.reverse = [] ∨ last.reverse = ['.']) := by
      rw [List.reverse_eq_nil_iff, List.reverse_eq_iff]
      exact not_or.mpr ⟨hfilled, hdot⟩
    rw [namesIn_dropTrailing, ← namesIn_dropTrailing s, hfront, hwhole, List.reverse_cons,
      (namesIn_append_slash _).1, List.reverse_append, List.reverse_cons, List.append_assoc,
      List.singleton_append, namesIn_append, namesIn_of_not_mem (mt List.mem_reverse.mp hlast),
      if_neg hname, List.dropLast_concat]

/-! ## Section 2: The path of a directory

From the characters to the path: the directory in a path is absolute when the path is, and names
what the path names without the last name. -/

/-- Only the empty path has no components. -/
theorem components_eq_nil {path : String} (h : components path = []) : path = "" := by
  by_contra hfilled
  unfold components at h
  split at h
  case isTrue => cases h
  case isFalse hrelative =>
    split at h
    case isTrue => cases h
    case isFalse hdot =>
      -- a relative path without a dot in front has a name
      obtain ⟨name, rest, hnames⟩ := exists_names_cons hfilled (Bool.eq_false_iff.mpr hrelative)
        (Bool.eq_false_iff.mpr hdot)
      rw [hnames] at h
      cases h

theorem components_eq_root {path : String} (h : components path = ["/"]) :
    isAbsolute path = true ∧ names path = [] := by
  unfold components at h
  split at h
  case isTrue habsolute => exact ⟨habsolute, (List.cons.inj h).2⟩
  case isFalse =>
    split at h
    case isTrue => exact absurd (List.cons.inj h).1 (by decide)
    case isFalse =>
      exact absurd rfl (ne_of_mem_names (h ▸ List.mem_singleton_self _)).1

/-- **The directory in a path**: the empty path and the root have none; that of any other path names
what the path names but for the last name, and begins where the path begins. -/
theorem parent?_cases (path : String) :
    (parent? path = none ∧ (path = "" ∨ isAbsolute path = true ∧ names path = [])) ∨
      ∃ up, parent? path = some up ∧ isAbsolute up = isAbsolute path ∧
        names up = (names path).dropLast ∧ (isAbsolute path = true → names path ≠ []) := by
  unfold parent?
  split
  case h_1 hnone => exact .inl ⟨rfl, .inl (components_eq_nil hnone)⟩
  case h_2 hroot => exact .inl ⟨rfl, .inr (components_eq_root hroot)⟩
  case h_3 _ _ hroot =>
    have hnamed : isAbsolute path = true → names path ≠ [] := by
      intro habsolute hnone
      exact hroot (by rw [components, if_pos habsolute, hnone])
    refine .inr ⟨_, rfl, ?_⟩
    rw [and_iff_left hnamed]
    have hnames := namesIn_dropComponent path.toList.reverse
    rw [List.reverse_reverse, ← names_eq_namesIn] at hnames
    have hsuffix := (dropTrailing_suffix _).trans
      ((List.dropWhile_suffix (· != '/')).trans (dropTrailing_suffix path.toList.reverse))
    generalize dropTrailing ((dropTrailing path.toList.reverse).dropWhile (· != '/')) = front at *
    -- what stands in front is the beginning of the path
    have hprefix : front.reverse <+: path.toList := by
      rw [← List.reverse_suffix, List.reverse_reverse]
      exact hsuffix
    cases front with
    | nil =>
      cases habsolute : isAbsolute path with
      | true => exact ⟨rfl, hnames⟩
      | false => exact ⟨rfl, hnames⟩
    | cons c front =>
      rw [List.isEmpty_cons, Bool.false_and, if_neg Bool.false_ne_true, names_eq_namesIn,
        String.toList_ofList]
      refine ⟨?_, hnames⟩
      obtain ⟨rest, hrest⟩ := hprefix
      rw [isAbsolute, isAbsolute, String.toList_ofList, ← hrest, List.head?_append]
      simp

theorem of_parent? {path up : String} (h : parent? path = some up) :
    isAbsolute up = isAbsolute path ∧ names up = (names path).dropLast := by
  rcases parent?_cases path with ⟨hnone, -⟩ | ⟨up', hup, habsolute, hnames, -⟩
  · rw [h] at hnone
    cases hnone
  · obtain rfl := Option.some.inj (h.symm.trans hup)
    exact ⟨habsolute, hnames⟩

end Overseer.Path
