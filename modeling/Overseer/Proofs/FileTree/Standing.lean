import Mathlib.Data.List.Induction
import Overseer.Proofs.FileTree.PathNames

/-!
# Places That Stand

A path is followed name by name, through links and back up, and what it leads to is a place that the
tree has: every name on the way there is that of an entry in a directory, and none is a link.  From
such a place the way back is plain: its own names, written in any way, lead to it and to every place
that it lies in.

- `FileTree.standing_walk`: following steps keeps to places that stand
- `FileTree.walk_along`: names without links lead straight on
- `FileTree.resolve_of_names`: a path that names what a standing place lies in leads there
-/

namespace Overseer.FileTree

open Overseer.Path

variable {tree : FileTree}

/-! ## Section 1: Standing places

To stand is more than to be the place of some entry: the entries on the way must be directories that
may be searched.  A tree may have entries that no path leads to, and they do not stand. -/

/-- A place that the tree has: the names on the way there are those of directories, and none of them
is a link.  So a path can be written that leads there in as many steps as the place has names. -/
inductive Standing (tree : FileTree) : Place → Prop where
  | root : Standing tree []
  | entry {place : Place} {name : String} {node : FileNode} (hplace : Standing tree place)
      (hopen : tree.isOpenAt place = true) (hname : IsName name)
      (hshort : name.utf8ByteSize ≤ nameLimit) (hat : tree.at? (place ++ [name]) = some node)
      (hlink : ∀ target, node.entry ≠ .link target) : Standing tree (place ++ [name])

namespace Standing

theorem dropLast {place : Place} (h : Standing tree place) : Standing tree place.dropLast := by
  cases h with
  | root => exact .root
  | entry hplace =>
    rw [List.dropLast_concat]
    exact hplace

/-- What a standing place lies in stands too. -/
theorem of_append {place : Place} {rest : List String} (h : Standing tree (place ++ rest)) :
    Standing tree place := by
  induction rest using List.reverseRecOn with
  | nil =>
    rw [List.append_nil] at h
    exact h
  | append_singleton rest name ih =>
    have hup := h.dropLast
    rw [← List.append_assoc, List.dropLast_concat] at hup
    exact ih hup

theorem isName {place : Place} (h : Standing tree place) : ∀ name ∈ place, IsName name := by
  induction h with
  | root => exact nofun
  | entry _ _ hname _ _ _ ih =>
    intro name hmem
    rcases List.mem_append.mp hmem with hmem | hmem
    · exact ih name hmem
    · exact List.mem_singleton.mp hmem ▸ hname

/-- A standing place lies in directories only, and what leads on to it is no link. -/
theorem next {place : Place} {name : String} {rest : List String}
    (h : Standing tree (place ++ name :: rest)) :
    tree.isOpenAt place = true ∧ name.utf8ByteSize ≤ nameLimit ∧
      ∃ node, tree.at? (place ++ [name]) = some node ∧ ∀ target, node.entry ≠ .link target := by
  -- the place goes on through the name, so it stands up to there
  have hthere : Standing tree (place ++ [name] ++ rest) := by
    rw [List.append_assoc]
    exact h
  generalize hwhole : place ++ [name] = whole at hthere
  cases hthere.of_append with
  | root => simp at hwhole
  | @entry up last node _ hopen _ hshort hat hlink =>
    obtain ⟨rfl, hlast⟩ := List.append_inj' hwhole rfl
    obtain rfl := (List.cons.inj hlast).1
    exact ⟨hopen, hshort, node, hwhole ▸ hat, hlink⟩

end Standing

/-! ## Section 2: Following steps

By induction on the steps and on the links that are left, in the order of the walk.  A link may lead
anywhere, but what it leads to is followed name by name again. -/

/-- Steps as a path has them: nothing is empty or has a slash in it. -/
def Stepwise (todo : List String) : Prop := ∀ step ∈ todo, step ≠ "" ∧ '/' ∉ step.toList

theorem steps_eq (path : String) :
    steps path = parts path ++ if path.toList.getLast? == some '/' then ["."] else [] := rfl

theorem stepwise_steps (path : String) : Stepwise (steps path) := by
  intro step hstep
  rw [steps_eq, List.mem_append] at hstep
  rcases hstep with hstep | hstep
  · exact not_mem_of_mem_parts hstep
  · split at hstep
    · rw [List.mem_singleton] at hstep
      subst hstep
      exact ⟨by decide, by decide⟩
    · exact absurd hstep List.not_mem_nil

theorem filter_steps (path : String) : (steps path).filter (· ≠ ".") = names path := by
  rw [steps_eq, List.filter_append, ← names_eq_filter_parts]
  split
  · simp
  · simp

/-- Going on from a path with a name adds just one step. -/
theorem steps_join (base : String) {name : String} (h : IsName name) :
    steps (join base name) = parts base ++ [name] := by
  have hlast : (join base name).toList.getLast? ≠ some '/' := by
    -- the last character is that of the name
    have hname : name.toList.getLast? ≠ some '/' :=
      fun hslash => h.whole (List.mem_of_getLast? hslash)
    rcases toList_join base (isAbsolute_of_isName h) with ⟨hjoin, -⟩ | ⟨s, hjoin, -⟩
    · rw [hjoin]
      exact hname
    · cases hfinal : name.toList.getLast? with
      | none =>
        exact absurd (String.toList_eq_nil_iff.mp (List.getLast?_eq_none_iff.mp hfinal)) h.filled
      | some c =>
        rw [hfinal] at hname
        rw [hjoin, List.getLast?_append, List.getLast?_cons, hfinal]
        exact hname
  rw [steps_eq, parts_join base (isAbsolute_of_isName h), parts_of_isName h]
  simp [hlast]

/-- **Following steps** keeps to places that stand.  A link leads on from a place that stands, and
so its target does too. -/
theorem standing_walk {links : Nat} {place last : Place} {todo : List String}
    (hplace : Standing tree place) (htodo : Stepwise todo)
    (h : tree.walk true links place todo = .ok last) : Standing tree last := by
  -- one case for each branch of `walk`
  fun_induction walk tree true links place todo with
  | case1 links place =>
    cases h
    exact hplace
  | case3 links place rest _ ih =>
    -- a dot stays where it is
    exact ih hplace (List.forall_mem_cons.mp htodo).2 h
  | case4 links place rest _ _ ih =>
    exact ih hplace.dropLast (List.forall_mem_cons.mp htodo).2 h
  | case9 place step rest _ _ _ _ node _ target _ _ links ih =>
    -- the steps of the target come in the stead of a link
    refine ih ?_ (List.forall_mem_append.mpr ⟨stepwise_steps target, ?_⟩) h
    · split
      · exact .root
      · exact hplace
    · exact (List.forall_mem_cons.mp htodo).2
  | case10 links place step rest hopen hdot hup hshort node hat hlink ih =>
    -- only an entry that is no link makes the place longer
    obtain ⟨hstep, hrest⟩ := List.forall_mem_cons.mp htodo
    refine ih (.entry hplace ?_ ⟨hstep.1, hstep.2, hdot, hup⟩ ?_ hat hlink) hrest h
    · simpa using hopen
    · exact Nat.le_of_not_lt hshort
  | case7 _ _ _ _ _ _ _ _ _ _ _ _ hstop => simp at hstop
  | case2 => cases h
  | case5 => cases h
  | case6 => cases h
  | case8 => cases h

/-- What a path leads to stands, when the place where it begins does. -/
theorem standing_resolve {directory place : Place} {path : String}
    (hdirectory : Standing tree directory) (h : tree.resolve directory path true = .ok place) :
    Standing tree place := by
  rw [resolve] at h
  split at h
  · cases h
  · refine standing_walk ?_ (stepwise_steps path) h
    split
    · exact .root
    · exact hdirectory

/-! ## Section 3: The way straight on

The way straight on meets no link, so it uses none up; only the permission to search the directories
on it is asked for. -/

section Steps

variable {links : Nat} {place : Place} (rest : List String)

theorem walk_dot (hopen : tree.isOpenAt place = true) :
    tree.walk true links place ("." :: rest) = tree.walk true links place rest := by
  rw [walk]
  simp [hopen]

theorem walk_name {name : String} {node : FileNode} (hopen : tree.isOpenAt place = true)
    (hname : IsName name) (hshort : name.utf8ByteSize ≤ nameLimit)
    (hat : tree.at? (place ++ [name]) = some node) (hlink : ∀ target, node.entry ≠ .link target) :
    tree.walk true links place (name :: rest) = tree.walk true links (place ++ [name]) rest := by
  rw [walk]
  simp only [hopen, hname.notDot, hname.notUp, Nat.not_lt.mpr hshort, hat, Bool.not_true,
    Bool.false_eq_true, if_false]

end Steps

/-- **Names lead straight on** to a standing place, with dots among them.  A dot behind the last
name asks for a directory. -/
theorem walk_along {links : Nat} {place : Place} {todo : List String}
    (hplace : Standing tree (place ++ todo.filter (· ≠ ".")))
    (hlast : todo.getLast? = some "." →
      tree.isOpenAt (place ++ todo.filter (· ≠ ".")) = true) :
    tree.walk true links place todo = .ok (place ++ todo.filter (· ≠ ".")) := by
  induction todo generalizing place with
  | nil =>
    rw [walk, List.filter_nil, List.append_nil]
  | cons step rest ih =>
    have hlater : rest.getLast? = some "." → (step :: rest).getLast? = some "." := by
      intro hdot
      rw [List.getLast?_cons, hdot, Option.getD_some]
    by_cases hdot : step = "."
    · subst hdot
      have hfilter : ("." :: rest).filter (· ≠ ".") = rest.filter (· ≠ ".") := by simp
      rw [hfilter] at hplace hlast ⊢
      -- names behind the dot, or nothing but dots, tell that it stands behind a directory
      have hopen : tree.isOpenAt place = true := by
        cases hnames : rest.filter (· ≠ ".") with
        | cons name names =>
          rw [hnames] at hplace
          exact hplace.next.1
        | nil =>
          have hdots : rest = List.replicate rest.length "." := by
            refine List.eq_replicate_iff.mpr ⟨rfl, ?_⟩
            simpa [List.filter_eq_nil_iff] using hnames
          rw [hnames, List.append_nil] at hlast
          refine hlast ?_
          rw [hdots, ← List.replicate_succ, List.getLast?_replicate, if_neg (Nat.succ_ne_zero _)]
      rw [walk_dot rest hopen]
      exact ih hplace fun hrest => hlast (hlater hrest)
    · have hfilter : place ++ (step :: rest).filter (· ≠ ".") =
          place ++ [step] ++ rest.filter (· ≠ ".") := by
        simp [hdot]
      rw [hfilter] at hplace hlast ⊢
      have hname : IsName step := hplace.isName step (by simp)
      have hnext := hplace
      rw [List.append_assoc, List.singleton_append] at hnext
      obtain ⟨hopen, hshort, node, hat, hlink⟩ := hnext.next
      rw [walk_name rest hopen hname hshort hat hlink]
      exact ih hplace fun hrest => hlast (hlater hrest)

/-- **Names of what a standing place lies in** lead there, however they are written; a path that
names the place itself may not ask for a directory if there is none. -/
theorem resolve_of_names {directory place : Place} {path : String} (hplace : Standing tree place)
    (habsolute : isAbsolute path = true) (hnames : names path <+: place)
    (hlast : names path = place → (steps path).getLast? ≠ some ".") :
    tree.resolve directory path true = .ok (names path) := by
  obtain ⟨rest, rfl⟩ := hnames
  have hfilled : path.isEmpty = false := by
    apply String.isEmpty_eq_false_iff.mpr
    rintro rfl
    exact absurd habsolute (by decide)
  have hway : ([] : Place) ++ (steps path).filter (· ≠ ".") = names path := filter_steps path
  -- the way is the names of the path, from the root
  rw [resolve, hfilled, if_neg Bool.false_ne_true, if_pos habsolute, walk_along, hway]
  · rw [hway]
    -- what leads to a standing place stands
    exact hplace.of_append
  · -- a dot at the end asks for a directory, which a place on the way is
    intro hdot
    rw [hway]
    cases rest with
    | nil => exact absurd hdot (hlast (List.append_nil _).symm)
    | cons name rest => exact hplace.next.1

end Overseer.FileTree
