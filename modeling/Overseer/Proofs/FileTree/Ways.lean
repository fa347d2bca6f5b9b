import Overseer.Proofs.FileTree.Parents
import Overseer.Proofs.FileTree.Standing

/-!
# Ways Through a Tree

A way leads from a place over the steps of a path to another place and counts the links that it
meets.  A path is followed along the only way that there is.  Ways are put together, and dots on the
way matter only where they stand last; so the way to a file passes the directory that its path
names.

- `Way`, `resolve_eq_ok_iff`: what a path leads to, by ways
- `Way.append`, `Way.exists_of_append`: ways are put together
- `Way.undotted`, `Way.dotted`: dots on the way
- `resolve_parent`: a path to a file passes the directory in it
- `eq_of_resolve`: what a path leads to without links
-/

namespace Overseer.FileTree

open Overseer.Path

/-! ## Section 1: Ways

A walk is a function with two numbers that count down, which is no good for putting two walks
together.  A way is the relation behind it: it says how many links are left at its end, so that the
next way can begin with them. -/

/-- The place where a path begins, seen from a directory. -/
def startOf (directory : Place) (path : String) : Place :=
  if isAbsolute path then [] else directory

/-- A way from a place over some steps to a place.  The numbers are those of the links that may
still be met, at its beginning and at its end.  Every way that is followed to its end is one of
these, and the other way round. -/
inductive Way (tree : FileTree) : Nat → Place → List String → Nat → Place → Prop where
  | done {links : Nat} {place : Place} : Way tree links place [] links place
  | dot {links left : Nat} {place last : Place} {rest : List String}
      (hopen : tree.isOpenAt place = true) (hrest : Way tree links place rest left last) :
      Way tree links place ("." :: rest) left last
  | up {links left : Nat} {place last : Place} {rest : List String}
      (hopen : tree.isOpenAt place = true)
      (hrest : Way tree links place.dropLast rest left last) :
      Way tree links place (".." :: rest) left last
  | name {links left : Nat} {place last : Place} {step : String} {rest : List String}
      {node : FileNode} (hopen : tree.isOpenAt place = true) (hdot : step ≠ ".")
      (hup : step ≠ "..") (hshort : ¬ nameLimit < step.utf8ByteSize)
      (hat : tree.at? (place ++ [step]) = some node) (hlink : ∀ target, node.entry ≠ .link target)
      (hrest : Way tree links (place ++ [step]) rest left last) :
      Way tree links place (step :: rest) left last
  | link {links left : Nat} {place last : Place} {step : String} {rest : List String}
      {node : FileNode} {target : String} (hopen : tree.isOpenAt place = true)
      (hdot : step ≠ ".") (hup : step ≠ "..") (hshort : ¬ nameLimit < step.utf8ByteSize)
      (hat : tree.at? (place ++ [step]) = some node) (hlink : node.entry = .link target)
      (hrest : Way tree links (startOf place target) (steps target ++ rest) left last) :
      Way tree (links + 1) place (step :: rest) left last

variable {tree : FileTree} {links left : Nat} {place last : Place}

/-- **Steps are followed** along a way. -/
theorem way_of_walk {todo : List String} (h : tree.walk true links place todo = .ok last) :
    ∃ left, Way tree links place todo left last := by
  -- one case for each branch of `walk`
  fun_induction walk tree true links place todo with
  | case1 links place =>
    cases h
    exact ⟨_, .done⟩
  | case3 links place rest hopen ih =>
    obtain ⟨left, hrest⟩ := ih h
    exact ⟨left, .dot (by simpa using hopen) hrest⟩
  | case4 links place rest hopen _ ih =>
    obtain ⟨left, hrest⟩ := ih h
    exact ⟨left, .up (by simpa using hopen) hrest⟩
  | case9 place step rest hopen hdot hup hshort node hat target hlink _ links ih =>
    obtain ⟨left, hrest⟩ := ih h
    exact ⟨left, .link (by simpa using hopen) hdot hup hshort hat hlink hrest⟩
  | case10 links place step rest hopen hdot hup hshort node hat hlink ih =>
    obtain ⟨left, hrest⟩ := ih h
    exact ⟨left, .name (by simpa using hopen) hdot hup hshort hat hlink hrest⟩
  | case7 _ _ _ _ _ _ _ _ _ _ _ _ hstop => simp at hstop
  | case2 => cases h
  | case5 => cases h
  | case6 => cases h
  | case8 => cases h

/-- What a way leads to is what the walk along it finds. -/
theorem Way.walk_eq {todo : List String} (h : Way tree links place todo left last) :
    tree.walk true links place todo = .ok last := by
  -- one rule of the relation for each branch of the walk
  induction h with
  | done => rw [walk]
  | dot hopen _ ih => rw [walk_dot _ hopen, ih]
  | up hopen _ ih =>
    rw [walk]
    simp [hopen, ih]
  | name hopen hdot hup hshort hat hlink _ ih =>
    rw [walk]
    simp [hopen, hdot, hup, hshort, hat, ih]
  | link hopen hdot hup hshort hat hlink _ ih =>
    rw [walk]
    simp only [startOf] at ih
    simp [hopen, hdot, hup, hshort, hat, hlink, ih]

/-- **What a path leads to**, by ways. -/
theorem resolve_eq_ok_iff (directory : Place) (path : String) :
    tree.resolve directory path true = .ok place ↔
      path ≠ "" ∧ ∃ left, Way tree linkLimit (startOf directory path) (steps path) left place := by
  rw [resolve]
  by_cases hfilled : path = ""
  · simp [hfilled]
  · rw [if_neg (by simpa using hfilled), and_iff_right hfilled]
    constructor
    · exact way_of_walk
    · rintro ⟨left, hway⟩
      exact hway.walk_eq

/-! ## Section 2: Ways that are put together

Only the numbers of links need care.  A way that is taken apart leaves at the place between as many
as the first part has not used. -/

namespace Way

/-- One way behind another is a way. -/
theorem append {first second : List String} {between : Nat} {middle : Place}
    (hfirst : Way tree links place first between middle)
    (hsecond : Way tree between middle second left last) :
    Way tree links place (first ++ second) left last := by
  induction hfirst with
  | done => exact hsecond
  | dot hopen _ ih => exact .dot hopen (ih hsecond)
  | up hopen _ ih => exact .up hopen (ih hsecond)
  | name hopen hdot hup hshort hat hlink _ ih =>
    exact .name hopen hdot hup hshort hat hlink (ih hsecond)
  | link hopen hdot hup hshort hat hlink _ ih =>
    -- the steps of the link are put in front of those that are left, whatever follows them
    have hrest := ih hsecond
    rw [List.append_assoc] at hrest
    exact .link hopen hdot hup hshort hat hlink hrest

theorem exists_of_append {first second : List String}
    (h : Way tree links place (first ++ second) left last) :
    ∃ between middle, Way tree links place first between middle ∧
      Way tree between middle second left last := by
  generalize htodo : first ++ second = todo at h
  -- the steps of the first part are used up one after the other
  induction h generalizing first with
  | done =>
    obtain ⟨rfl, rfl⟩ := List.append_eq_nil_iff.mp htodo
    exact ⟨_, _, .done, .done⟩
  | dot hopen hrest ih =>
    rcases List.append_eq_cons_iff.mp htodo with ⟨rfl, rfl⟩ | ⟨first, rfl, rfl⟩
    · exact ⟨_, _, .done, .dot hopen hrest⟩
    · obtain ⟨between, middle, hfirst, hsecond⟩ := ih rfl
      exact ⟨between, middle, .dot hopen hfirst, hsecond⟩
  | up hopen hrest ih =>
    rcases List.append_eq_cons_iff.mp htodo with ⟨rfl, rfl⟩ | ⟨first, rfl, rfl⟩
    · exact ⟨_, _, .done, .up hopen hrest⟩
    · obtain ⟨between, middle, hfirst, hsecond⟩ := ih rfl
      exact ⟨between, middle, .up hopen hfirst, hsecond⟩
  | name hopen hdot hup hshort hat hlink hrest ih =>
    rcases List.append_eq_cons_iff.mp htodo with ⟨rfl, rfl⟩ | ⟨first, rfl, rfl⟩
    · exact ⟨_, _, .done, .name hopen hdot hup hshort hat hlink hrest⟩
    · obtain ⟨between, middle, hfirst, hsecond⟩ := ih rfl
      exact ⟨between, middle, .name hopen hdot hup hshort hat hlink hfirst, hsecond⟩
  | link hopen hdot hup hshort hat hlink hrest ih =>
    rcases List.append_eq_cons_iff.mp htodo with ⟨rfl, rfl⟩ | ⟨first, rfl, rfl⟩
    · exact ⟨_, _, .done, .link hopen hdot hup hshort hat hlink hrest⟩
    · obtain ⟨between, middle, hfirst, hsecond⟩ := ih (List.append_assoc ..)
      exact ⟨between, middle, .link hopen hdot hup hshort hat hlink hfirst, hsecond⟩

/-- A step is taken only from a directory that may be searched. -/
theorem isOpenAt {step : String} {rest : List String}
    (h : Way tree links place (step :: rest) left last) : tree.isOpenAt place = true := by
  cases h <;> assumption

theorem of_dot {rest : List String} (h : Way tree links place ("." :: rest) left last) :
    Way tree links place rest left last := by
  generalize hstep : "." = step at h
  cases h with
  | dot _ hrest => exact hrest
  | up => exact absurd hstep (by decide)
  | name _ hdot => exact absurd hstep.symm hdot
  | link _ hdot => exact absurd hstep.symm hdot

/-! ## Section 3: Dots on the way

A dot asks whether the place may be searched and stays there.  A name that follows asks the same, so
a dot makes a difference only behind the last name. -/

/-- Without its dots a way leads to the same place. -/
theorem undotted {todo : List String} (h : Way tree links place todo left last) :
    Way tree links place (todo.filter (· ≠ ".")) left last := by
  induction todo generalizing links place with
  | nil => exact h
  | cons step rest ih =>
    by_cases hdot : step = "."
    · subst hdot
      simpa using ih h.of_dot
    · rw [List.filter_cons_of_pos (by simpa using hdot), ← List.singleton_append]
      rw [← List.singleton_append] at h
      obtain ⟨between, middle, hstep, hrest⟩ := h.exists_of_append
      exact hstep.append (ih hrest)

/-- Dots on the way do no harm; one behind the last name asks for a directory that may be
searched. -/
theorem dotted {todo : List String} (h : Way tree links place (todo.filter (· ≠ ".")) left last)
    (hlast : todo.getLast? = some "." → tree.isOpenAt last = true) :
    Way tree links place todo left last := by
  induction todo generalizing links place with
  | nil => exact h
  | cons step rest ih =>
    have hlater : rest.getLast? = some "." → tree.isOpenAt last = true := by
      intro hdot
      exact hlast (by rw [List.getLast?_cons, hdot, Option.getD_some])
    by_cases hdot : step = "."
    · subst hdot
      rw [List.filter_cons_of_neg (by simp)] at h
      refine .dot ?_ (ih h hlater)
      -- the dot stands in front of a step, or at the end
      cases hnames : rest.filter (· ≠ ".") with
      | cons name names => exact (hnames ▸ h).isOpenAt
      | nil =>
        rw [hnames] at h
        cases h
        have hdots : rest = List.replicate rest.length "." := by
          refine List.eq_replicate_iff.mpr ⟨rfl, ?_⟩
          simpa [List.filter_eq_nil_iff] using hnames
        refine hlast ?_
        rw [hdots, ← List.replicate_succ, List.getLast?_replicate, if_neg (Nat.succ_ne_zero _)]
    · rw [List.filter_cons_of_pos (by simpa using hdot), ← List.singleton_append] at h
      obtain ⟨between, middle, hstep, hrest⟩ := h.exists_of_append
      rw [← List.singleton_append]
      exact hstep.append (ih hrest hlater)

/-- A way whose last step is a dot ends at a directory that may be searched. -/
theorem isOpenAt_last {todo : List String} (h : Way tree links place todo left last)
    (hdot : todo.getLast? = some ".") : tree.isOpenAt last = true := by
  obtain ⟨front, rfl⟩ := List.getLast?_eq_some_iff.mp hdot
  obtain ⟨between, middle, -, hlast⟩ := h.exists_of_append
  have hopen := hlast.isOpenAt
  cases hlast.of_dot
  exact hopen

end Way

/-! ## Section 4: The directory on the way

The last step of the path to a file is its name, so what is in front of it is the way to the
directory; that is followed to its end, links and all. -/

/-- The way to what a path leads to, by the names of the path. -/
theorem way_of_resolve {directory : Place} {path : String}
    (h : tree.resolve directory path true = .ok last) :
    ∃ left, Way tree linkLimit (startOf directory path) (names path) left last := by
  obtain ⟨-, left, hway⟩ := (resolve_eq_ok_iff directory path).mp h
  have hnames := hway.undotted
  rw [filter_steps] at hnames
  exact ⟨left, hnames⟩

/-- A way over the names of a path is one of the path, unless that asks for a directory. -/
theorem resolve_of_way {directory : Place} {path : String} (hfilled : path ≠ "")
    (h : Way tree linkLimit (startOf directory path) (names path) left last)
    (hlast : (steps path).getLast? = some "." → tree.isOpenAt last = true) :
    tree.resolve directory path true = .ok last := by
  rw [← filter_steps] at h
  exact (resolve_eq_ok_iff directory path).mpr ⟨hfilled, left, h.dotted hlast⟩

/-- What a path leads to that does not ask for a directory, by its names. -/
theorem resolve_eq_ok_iff_names {directory : Place} {path : String} (hfilled : path ≠ "")
    (hlast : (steps path).getLast? ≠ some ".") :
    tree.resolve directory path true = .ok last ↔
      ∃ left, Way tree linkLimit (startOf directory path) (names path) left last := by
  constructor
  · exact way_of_resolve
  · rintro ⟨left, hway⟩
    exact resolve_of_way hfilled hway fun hdot => absurd hdot hlast

/-- Whether there is a file depends only on what the path leads to. -/
theorem isFile_congr {directory : Place} {path other : String}
    (h : ∀ place, tree.resolve directory path true = .ok place ↔
      tree.resolve directory other true = .ok place) :
    tree.isFile directory path = tree.isFile directory other := by
  unfold isFile find
  -- either both lead to the same place, or neither leads anywhere
  cases hpath : tree.resolve directory path true with
  | ok place => rw [(h place).mp hpath]
  | error e =>
    cases hother : tree.resolve directory other true with
    | ok place =>
      rw [(h place).mpr hother] at hpath
      cases hpath
    | error e' => rfl

/-- **A path passes** the directory in it, and takes its last step from there.  So where a file can
be reached, its directory can be. -/
theorem resolve_parent {directory : Place} {path up : String}
    (hup : parent? path = some up) (hfilled : up ≠ "") (hnames : names path ≠ [])
    (h : tree.resolve directory path true = .ok last) :
    ∃ place, tree.resolve directory up true = .ok place ∧ tree.isOpenAt place = true := by
  obtain ⟨habsolute, hfront⟩ := of_parent? hup
  obtain ⟨left, hway⟩ := way_of_resolve h
  rw [← List.dropLast_concat_getLast hnames, ← hfront] at hway
  obtain ⟨between, place, hplace, hstep⟩ := hway.exists_of_append
  have hstart : startOf directory up = startOf directory path := by
    rw [startOf, startOf, habsolute]
  rw [← hstart] at hplace
  exact ⟨place, resolve_of_way hfilled hplace fun _ => hstep.isOpenAt, hstep.isOpenAt⟩

theorem startOf_of_relative {path : String} (h : isAbsolute path = false) (directory : Place) :
    startOf directory path = directory := by
  rw [startOf, h, if_neg Bool.false_ne_true]

/-- A path that is not empty and does not begin at the root has a first step. -/
theorem steps_ne_nil {path : String} (hfilled : path ≠ "") (hrelative : isAbsolute path = false) :
    steps path ≠ [] := by
  rw [steps_eq]
  refine fun hnone => absurd (List.append_eq_nil_iff.mp hnone).1 ?_
  -- the first character is no slash, so what is in front of the first slash is not empty
  cases hpath : path.toList with
  | nil => exact absurd (String.toList_eq_nil_iff.mp hpath) hfilled
  | cons c s =>
    have hc : (c == '/') = false := by
      rw [isAbsolute, hpath, List.head?_cons] at hrelative
      exact hrelative
    obtain ⟨first, others, -, hsplit⟩ := Text.splitAtMarks_cons (· == '/') hc s
    rw [parts, hpath, splitSlashes, hsplit, List.filter_cons_of_pos rfl]
    exact List.cons_ne_nil _ _

/-- A path that begins in a directory can be followed only if that may be searched. -/
theorem isOpenAt_of_resolve {directory : Place} {path : String}
    (hrelative : isAbsolute path = false) (h : tree.resolve directory path true = .ok last) :
    tree.isOpenAt directory = true := by
  obtain ⟨hfilled, left, hway⟩ := (resolve_eq_ok_iff directory path).mp h
  rw [startOf_of_relative hrelative] at hway
  obtain ⟨step, rest, hsteps⟩ := List.exists_cons_of_ne_nil (steps_ne_nil hfilled hrelative)
  rw [hsteps] at hway
  exact hway.isOpenAt

/-! ## Section 5: Ways without links

Without links going down is what it looks like, and going up takes a name away.  So where a path
leads can be told by counting, if it goes up first and then down. -/

/-- No entry of the tree is a link. -/
def Linkless (tree : FileTree) : Prop :=
  ∀ place node, tree.at? place = some node → ∀ target, node.entry ≠ .link target

theorem Way.of_up {rest : List String} (h : Way tree links place (".." :: rest) left last) :
    Way tree links place.dropLast rest left last := by
  generalize hstep : ".." = step at h
  cases h with
  | dot => exact absurd hstep (by decide)
  | up _ hrest => exact hrest
  | name _ _ hup => exact absurd hstep.symm hup
  | link _ _ hup => exact absurd hstep.symm hup

theorem take_dropLast (place : Place) (levels : Nat) :
    place.dropLast.take (place.dropLast.length - levels) =
      place.take (place.length - (levels + 1)) := by
  rw [List.dropLast_eq_take, List.take_take, List.length_take]
  congr 1
  omega

/-- Going up some levels; above the root there is nothing but the root. -/
theorem Way.of_ups {levels : Nat}
    (h : Way tree links place (List.replicate levels "..") left last) :
    left = links ∧ last = place.take (place.length - levels) := by
  induction levels generalizing place with
  | zero =>
    cases h
    exact ⟨rfl, by simp⟩
  | succ levels ih =>
    rw [List.replicate_succ] at h
    rw [← take_dropLast]
    exact ih h.of_up

/-- What stands lies in directories that may be searched. -/
theorem Standing.isOpenAt_dropLast (h : Standing tree place) :
    tree.isOpenAt place.dropLast = true := by
  cases h with
  | root => rfl
  | entry _ hopen =>
    rw [List.dropLast_concat]
    exact hopen

theorem Way.ups (hplace : Standing tree place) (hopen : tree.isOpenAt place = true)
    (levels : Nat) :
    Way tree links place (List.replicate levels "..") links
      (place.take (place.length - levels)) := by
  induction levels generalizing place with
  | zero =>
    rw [Nat.sub_zero, List.take_length]
    exact .done
  | succ levels ih =>
    rw [← take_dropLast]
    exact .up hopen (ih hplace.dropLast hplace.isOpenAt_dropLast)

/-- Going down over names. -/
theorem Way.of_downs {downs : List String} (hlinkless : Linkless tree)
    (hdowns : ∀ name ∈ downs, name ≠ "." ∧ name ≠ "..")
    (h : Way tree links place downs left last) : left = links ∧ last = place ++ downs := by
  induction h with
  | done => exact ⟨rfl, (List.append_nil _).symm⟩
  | dot => exact absurd rfl (hdowns _ List.mem_cons_self).1
  | up => exact absurd rfl (hdowns _ List.mem_cons_self).2
  | name _ _ _ _ _ _ _ ih =>
    obtain ⟨hleft, hlast⟩ := ih fun name hname => hdowns name (List.mem_cons_of_mem _ hname)
    rw [List.append_assoc, List.singleton_append] at hlast
    exact ⟨hleft, hlast⟩
  | link _ _ _ _ hat hlink => exact absurd hlink (hlinkless _ _ hat _)

/-- **Without links**, a path that goes up some levels and then down leads to what it reads like. -/
theorem eq_of_resolve {directory : Place} {path : String} {levels : Nat} {downs : List String}
    (hlinkless : Linkless tree) (hrelative : isAbsolute path = false)
    (hnames : names path = List.replicate levels ".." ++ downs) (hdowns : ".." ∉ downs)
    (h : tree.resolve directory path true = .ok last) :
    last = directory.take (directory.length - levels) ++ downs := by
  obtain ⟨left, hway⟩ := way_of_resolve h
  rw [startOf_of_relative hrelative, hnames] at hway
  obtain ⟨between, middle, hups, hdown⟩ := hway.exists_of_append
  obtain ⟨-, rfl⟩ := hups.of_ups
  refine (hdown.of_downs hlinkless fun name hname => ⟨?_, fun heq => hdowns (heq ▸ hname)⟩).2
  exact (ne_of_mem_names (hnames ▸ List.mem_append_right _ hname)).2

end Overseer.FileTree
