import Overseer.Proofs.FileTree.Parents

/-!
# The Directories Above a Path

Going up from a path, one directory after the other, comes to an end: at the root, or at the empty
path.  On the way it meets the path itself and every directory that the path lies in, by components;
`..` is a component like any other.

- `Path.components_parent?`: one step up drops the last component
- `Path.parent_induction`: going up comes to an end
- `Path.ancestors_eq`: the paths that are met on the way up
- `Path.Rises`, `Path.IsAbove`: what a path lies in, step by step and by components
- `Path.isAbove_iff`: both are the same
-/

namespace Overseer.Path

/-! ## Section 1: One step up

The directory in a path is found in the characters of the path, from the end: trailing slashes and
dots are passed over, then the last component, then the slashes in front of it.  What is shown here
is that this drops one component and changes no other. -/

/-- What is dropped from the end of a text that ends with a slash begins with one. -/
theorem exists_dropTrailing_append (s : List Char) :
    ∃ dropped, '/' :: s = dropped ++ '/' :: dropTrailing s := by
  fun_induction dropTrailing s with
  | case1 s ih =>
    obtain ⟨dropped, hs⟩ := ih
    exact ⟨'/' :: dropped, by rw [List.cons_append, ← hs]⟩
  | case2 s ih =>
    obtain ⟨dropped, hs⟩ := ih
    exact ⟨'/' :: '.' :: dropped, by rw [List.cons_append, List.cons_append, ← hs]⟩
  | case3 s => exact ⟨[], rfl⟩

/-- What stands in front of the last component of a path. -/
def frontOf (path : String) : List Char :=
  (dropTrailing ((dropTrailing path.toList.reverse).dropWhile (· != '/'))).reverse

theorem eq_of_parent? {path up : String} (h : parent? path = some up) :
    components path ≠ [] ∧
      up = if (frontOf path).isEmpty && isAbsolute path then "/"
        else String.ofList (frontOf path) := by
  unfold parent? at h
  split at h
  case h_1 => cases h
  case h_2 => cases h
  case h_3 hfilled _ =>
    refine ⟨hfilled, ?_⟩
    rw [frontOf, List.isEmpty_reverse]
    exact (Option.some.inj h).symm

/-- In front of the first slash of a path that begins with a dot there is nothing but that dot. -/
theorem eq_of_beginsWithDot {path : String} {first rest : List Char}
    (hpath : path.toList = first ++ rest) (hfirst : '/' ∉ first) (h : beginsWithDot path = true) :
    first = [] ∨ first = ['.'] := by
  unfold beginsWithDot at h
  rw [hpath] at h
  -- a dot and a second character in front of the slash would be a name
  cases first with
  | nil => exact .inl rfl
  | cons c first =>
    right
    cases first with
    | nil =>
      split at h
      · simp_all
      · simp_all
      · cases h
    | cons d first =>
      split at h
      · simp_all
      · simp_all
      · cases h

/-- A path is its last component, or there is a slash in front of that. -/
theorem frontOf_cases (path : String) :
    frontOf path = [] ∧ (beginsWithDot path = true → names path = []) ∨
      names path ≠ [] ∧ ∃ rest, path.toList = frontOf path ++ '/' :: rest := by
  have hnames : names path = namesIn (dropTrailing path.toList.reverse).reverse := by
    rw [namesIn_dropTrailing, List.reverse_reverse, names_eq_namesIn]
  -- what is dropped behind the last component
  obtain ⟨behind, hbehind⟩ := dropTrailing_suffix path.toList.reverse
  obtain ⟨last, hlast, ⟨hwhole, hfront⟩ | ⟨front, hwhole, hfront, hfilled, hdot⟩⟩ :=
    dropTrailing_split path.toList.reverse
  · refine .inl ⟨by rw [frontOf, hfront]; rfl, fun hbegins => ?_⟩
    have hpath : path.toList = last.reverse ++ behind.reverse := by
      rw [← List.reverse_append, ← hwhole, hbehind, List.reverse_reverse]
    have hpart : '/' ∉ last.reverse := mt List.mem_reverse.mp hlast
    rw [hnames, hwhole, namesIn_of_not_mem hpart]
    exact if_pos (eq_of_beginsWithDot hpath hpart hbegins)
  · right
    constructor
    · rw [hnames, hwhole, List.reverse_append, List.reverse_cons, List.append_assoc,
        List.singleton_append, namesIn_append, namesIn_of_not_mem (mt List.mem_reverse.mp hlast),
        if_neg]
      · exact List.append_ne_nil_of_right_ne_nil _ (List.cons_ne_nil _ _)
      · rw [List.reverse_eq_nil_iff, List.reverse_eq_iff]
        exact not_or.mpr ⟨hfilled, hdot⟩
    · obtain ⟨dropped, hdropped⟩ := exists_dropTrailing_append front
      have hpath : path.toList.reverse =
          (behind ++ last ++ dropped) ++ '/' :: dropTrailing front := by
        rw [← hbehind, hwhole, hdropped, List.append_assoc, List.append_assoc]
      have hfrontOf : frontOf path = (dropTrailing front).reverse := by
        rw [frontOf, hfront, dropTrailing]
      refine ⟨(behind ++ last ++ dropped).reverse, ?_⟩
      rw [hfrontOf, List.reverse_eq_iff.mp hpath, List.reverse_append, List.reverse_cons,
        List.append_assoc, List.singleton_append]

/-- **One step up** drops the last component of a path. -/
theorem components_parent? {path up : String} (h : parent? path = some up) :
    components up = (components path).dropLast := by
  obtain ⟨habsolute, hnames⟩ := of_parent? h
  cases hroot : isAbsolute path with
  -- the root is a component of its own, and stays
  | true =>
    have hnamed : names path ≠ [] := by
      rcases parent?_cases path with ⟨hnone, -⟩ | ⟨_, -, -, -, hnamed⟩
      · rw [h] at hnone
        cases hnone
      · exact hnamed hroot
    -- only a path with names has a parent, so there is a last one to drop
    rw [components, components, habsolute, hroot, if_pos rfl, if_pos rfl, hnames,
      List.dropLast_cons_of_ne_nil hnamed]
  | false =>
    have hup := (eq_of_parent? h).2
    rw [hroot, Bool.and_false, if_neg Bool.false_ne_true] at hup
    rw [components, components, habsolute, hroot, if_neg Bool.false_ne_true,
      if_neg Bool.false_ne_true, hnames]
    rcases frontOf_cases path with ⟨hfront, hdot⟩ | ⟨hnamed, rest, hpath⟩
    · -- the only component, a dot or a name
      have hnone : (names path).dropLast = [] := by
        rw [← hnames, hup, hfront]
        rfl
      rw [hup, hfront, hnone]
      cases hbegins : beginsWithDot path with
      | true =>
        rw [hdot hbegins]
        rfl
      | false => exact hnone.symm
    · -- the last slash of the path has the last name behind it
      have hwhole : path.toList = up.toList ++ '/' :: rest := by
        rw [hup, String.toList_ofList]
        exact hpath
      rw [beginsWithDot_of_append hwhole]
      split
      · rw [List.dropLast_cons_of_ne_nil hnamed]
      · rfl

theorem components_ne_nil_of_parent? {path up : String} (h : parent? path = some up) :
    components path ≠ [] := (eq_of_parent? h).1

/-- The directory in a path is written at the beginning of the path. -/
theorem toList_parent?_prefix {path up : String} (h : parent? path = some up) :
    up.toList <+: path.toList := by
  rw [(eq_of_parent? h).2]
  split
  case isTrue hroot =>
    -- the root
    have habsolute : isAbsolute path = true := (Bool.and_eq_true_iff.mp hroot).2
    rw [isAbsolute, beq_iff_eq] at habsolute
    obtain ⟨rest, hpath⟩ := List.head?_eq_some_iff.mp habsolute
    exact ⟨rest, hpath.symm⟩
  case isFalse =>
    rw [String.toList_ofList]
    rcases frontOf_cases path with ⟨hfront, -⟩ | ⟨-, rest, hpath⟩
    · rw [hfront]
      exact List.nil_prefix
    · exact ⟨_, hpath.symm⟩

/-- A step up makes a path shorter. -/
theorem length_parent?_lt {path up : String} (h : parent? path = some up) :
    up.length < path.length := by
  have hbegins := toList_parent?_prefix h
  refine Nat.lt_of_le_of_ne hbegins.length_le fun hlength => ?_
  -- else it would keep the path as it is, with the last component
  obtain rfl : up = path := String.toList_inj.mp (hbegins.eq_of_length hlength)
  have hdrop := congrArg List.length (components_parent? h)
  have hpos := List.length_pos_iff.mpr (components_ne_nil_of_parent? h)
  rw [List.length_dropLast] at hdrop
  omega

/-! ## Section 2: All the way up

A step up makes the path shorter, so there is an end to it, and an induction along the way up.  The
recursion of the program has fuel, of which any path leaves some over. -/

/-- **Going up comes to an end**: every path has no directory in it, or is one step below one.  Each
step leaves fewer characters. -/
theorem parent_induction {motive : String → Prop}
    (top : ∀ path, parent? path = none → motive path)
    (up : ∀ path dir, parent? path = some dir → motive dir → motive path) (path : String) :
    motive path := by
  induction hlength : path.length using Nat.strongRecOn generalizing path with
  | ind n ih =>
    cases hparent : parent? path with
    | none => exact top path hparent
    | some dir =>
      exact up path dir hparent (ih dir.length (hlength ▸ length_parent?_lt hparent) dir rfl)

/-- Any fuel above the length of a path is enough, so it does not matter how much there is. -/
theorem ancestors_go_eq {fuel fuel' : Nat} {path : String} (h : path.length < fuel)
    (h' : path.length < fuel') : ancestors.go fuel path = ancestors.go fuel' path := by
  induction fuel generalizing fuel' path with
  -- fuel is spent on steps up only, and each of them shortens the path
  | zero => exact absurd h (Nat.not_lt_zero _)
  | succ fuel ih =>
    cases fuel' with
    | zero => exact absurd h' (Nat.not_lt_zero _)
    | succ fuel' =>
      rw [ancestors.go, ancestors.go]
      cases hparent : parent? path with
      | none => rfl
      | some up =>
        have hup := length_parent?_lt hparent
        simp only
        rw [ih (by omega : up.length < fuel) (by omega : up.length < fuel')]

/-- **The paths on the way up**: the path, and those on the way up from the directory in it. -/
theorem ancestors_eq (path : String) :
    ancestors path = path :: ((parent? path).map ancestors).getD [] := by
  rw [ancestors, ancestors.go]
  cases hparent : parent? path with
  | none => rfl
  | some up =>
    have hup := length_parent?_lt hparent
    simp only [Option.map_some, Option.getD_some, ancestors]
    rw [ancestors_go_eq hup (Nat.lt_succ_self _)]

/-- A path, or what is met some steps up from it. -/
inductive Rises : String → String → Prop where
  | here {path : String} : Rises path path
  | up {path dir above : String} (hparent : parent? path = some dir) (habove : Rises dir above) :
      Rises path above

/-- A path, or what it lies in by components. -/
structure IsAbove (dir path : String) : Prop where
  root_eq : isAbsolute dir = isAbsolute path
  begins : components dir <+: components path

namespace IsAbove

theorem refl (path : String) : IsAbove path path := ⟨rfl, List.prefix_rfl⟩

theorem trans {above dir path : String} (habove : IsAbove above dir) (hdir : IsAbove dir path) :
    IsAbove above path :=
  ⟨habove.root_eq.trans hdir.root_eq, habove.begins.trans hdir.begins⟩

theorem parent {path dir : String} (h : parent? path = some dir) : IsAbove dir path := by
  refine ⟨(of_parent? h).1, ?_⟩
  rw [components_parent? h]
  exact List.dropLast_prefix _

/-- What lies above a path is the path, or lies above the directory in it. -/
theorem eq_or_of_parent? {path dir above : String} (h : parent? path = some dir)
    (habove : IsAbove above path) :
    components above = components path ∨ IsAbove above dir := by
  have hpath := List.dropLast_concat_getLast (components_ne_nil_of_parent? h)
  have hbegins := habove.begins
  rw [← hpath, List.prefix_concat_iff, ← components_parent? h] at hbegins
  rcases hbegins with heq | hbegins
  · left
    rw [heq, components_parent? h, hpath]
  · exact .inr ⟨habove.root_eq.trans (of_parent? h).1.symm, hbegins⟩

/-- Above the root and the empty path there is nothing else. -/
theorem eq_of_top {path above : String} (h : parent? path = none) (habove : IsAbove above path) :
    components above = components path := by
  have hbegins := habove.begins
  rcases parent?_cases path with ⟨-, rfl | ⟨hroot, hnone⟩⟩ | ⟨_, hup, -⟩
  · exact List.prefix_nil.mp hbegins
  · rw [components, components, habove.root_eq, hroot, if_pos rfl, if_pos rfl, hnone] at hbegins ⊢
    rw [List.cons_prefix_cons, List.prefix_nil] at hbegins
    rw [hbegins.2]
  · rw [h] at hup
    cases hup

/-- What lies above the directory in a path has fewer components than the path. -/
theorem length_lt_of_parent? {path dir above : String} (h : parent? path = some dir)
    (habove : IsAbove above dir) : (components above).length < (components path).length := by
  have hle := habove.begins.length_le
  have hpos := List.length_pos_iff.mpr (components_ne_nil_of_parent? h)
  rw [components_parent? h, List.length_dropLast] at hle
  omega

end IsAbove

theorem Rises.isAbove {path above : String} (h : Rises path above) : IsAbove above path := by
  induction h with
  | here => exact .refl _
  | up hparent _ ih => exact ih.trans (.parent hparent)

/-- **What a path lies in** is what is met some steps up from it, however that is written.  Dots and
repeated slashes make another path, but not another place to look. -/
theorem isAbove_iff {above path : String} :
    IsAbove above path ↔ ∃ dir, Rises path dir ∧ isAbsolute dir = isAbsolute above ∧
      components dir = components above := by
  constructor
  · intro habove
    induction path using parent_induction with
    | top path hparent => exact ⟨path, .here, habove.root_eq.symm, (habove.eq_of_top hparent).symm⟩
    | up path dir hparent ih =>
      -- one step up, unless it is the path itself that is meant
      rcases habove.eq_or_of_parent? hparent with heq | habove'
      · exact ⟨path, .here, habove.root_eq.symm, heq.symm⟩
      · obtain ⟨dir', hrises, hdir⟩ := ih habove'
        exact ⟨dir', .up hparent hrises, hdir⟩
  · rintro ⟨dir, hrises, hroot, heq⟩
    exact ⟨hroot.symm.trans hrises.isAbove.root_eq, heq ▸ hrises.isAbove.begins⟩

/-- Of two paths each of which is met on the way up from the other there is only one. -/
theorem Rises.antisymm {path above : String} (h : Rises path above) (h' : Rises above path) :
    path = above := by
  cases h with
  | here => rfl
  | up hparent habove =>
    have hlt := habove.isAbove.length_lt_of_parent? hparent
    exact absurd h'.isAbove.begins.length_le (Nat.not_le_of_lt hlt)

end Overseer.Path
