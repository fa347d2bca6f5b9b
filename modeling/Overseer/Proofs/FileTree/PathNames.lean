import Overseer.FileTree.Basic

/-!
# The Names in a Path

A path is written with slashes, dots and names.  What it names does not depend on how it is written:
the names of a place are read back from its path, going on with a name adds just that name, and two
paths are compared by their names alone.

- `FileTree.components_pathOf`: the components of the path of a place
- `FileTree.startsWith_pathOf`: what lies in a place, by components
- `Path.parts_join`: going on from a path with another
- `Path.components_join`: the components of a path that goes on from a directory
-/

namespace Overseer

/-! ## Section 1: Parts of a path

The parts of a path are what stands between its slashes.  A part may be a dot, which names nothing,
or two dots, which count as a name here: where they lead is up to the tree. -/

namespace Path

/-- Whether a name can stand between two slashes and means an entry there. -/
structure IsName (name : String) : Prop where
  filled : name ≠ ""
  whole : '/' ∉ name.toList
  notDot : name ≠ "."
  notUp : name ≠ ".."

/-- The parts of a path between slashes, without empty ones. -/
def parts (path : String) : List String :=
  ((splitSlashes path.toList).filter fun part => !part.isEmpty).map String.ofList

theorem splitSlashes_append (s t : List Char) :
    splitSlashes (s ++ '/' :: t) = splitSlashes s ++ splitSlashes t :=
  Text.splitAtMarks_append_mark _ (by decide) s t

theorem splitSlashes_of_not_mem {s : List Char} (h : '/' ∉ s) : splitSlashes s = [s] := by
  apply Text.splitAtMarks_of_forall
  intro c hc
  rw [beq_eq_false_iff_ne]
  exact fun heq => h (heq ▸ hc)

theorem not_mem_of_mem_parts {path part : String} (h : part ∈ parts path) :
    part ≠ "" ∧ '/' ∉ part.toList := by
  obtain ⟨s, hs, rfl⟩ := List.mem_map.mp h
  obtain ⟨hsplit, hfilled⟩ := List.mem_filter.mp hs
  constructor
  · intro hempty
    rw [← String.toList_inj, String.toList_ofList] at hempty
    simp [hempty] at hfilled
  · intro hmem
    rw [String.toList_ofList] at hmem
    exact absurd (Text.of_mem_splitAtMarks _ hsplit hmem) (by decide)

/-- The names of a path are its parts without dots. -/
theorem names_eq_filter_parts (path : String) : names path = (parts path).filter (· ≠ ".") := by
  -- as texts and as strings, dots are told apart alike
  have hdot : ∀ s : List Char, (s != ['.']) = decide (String.ofList s ≠ ".") := by
    intro s
    have hiff : String.ofList s = "." ↔ s = ['.'] := by
      rw [← String.toList_inj, String.toList_ofList]
      rfl
    by_cases hs : s = ['.']
    · simp [hs]
    · simp [hs, hiff]
  rw [names, parts, List.filter_map, List.filter_filter]
  congr 1
  apply List.filter_congr
  intro s _
  rw [hdot, Bool.and_comm]
  rfl

theorem isAbsolute_of_isName {name : String} (h : IsName name) : isAbsolute name = false := by
  rw [isAbsolute, beq_eq_false_iff_ne]
  exact fun hhead => h.whole (List.mem_of_head? hhead)

/-- Going on from a path puts a slash between the two where none stands. -/
theorem toList_join (base : String) {path : String} (h : isAbsolute path = false) :
    (join base path).toList = path.toList ∧ base = "" ∨
      ∃ s, (join base path).toList = s ++ '/' :: path.toList ∧
        (base.toList = s ∨ base.toList = s ++ ['/']) := by
  rw [join, h, if_neg Bool.false_ne_true]
  -- going on from nothing, there is no slash
  by_cases hempty : base = ""
  · subst hempty
    exact .inl ⟨by simp, rfl⟩
  · have hfilled : base.isEmpty = false := String.isEmpty_eq_false_iff.mpr hempty
    refine .inr ?_
    -- a slash that stands at the end already is not doubled
    cases hslash : base.toList.getLast? == some '/' with
    | true =>
      obtain ⟨s, hs⟩ := List.getLast?_eq_some_iff.mp (beq_iff_eq.mp hslash)
      exact ⟨s, by simp [hfilled, hs], .inr hs⟩
    | false => exact ⟨base.toList, by simp [hfilled], .inl rfl⟩

/-- A path that goes on from another one begins at the root when either of the two does. -/
theorem isAbsolute_join (base path : String) :
    isAbsolute (join base path) = (isAbsolute path || isAbsolute base) := by
  -- the first character of a path that is not empty decides
  have happend : ∀ s : String, base ≠ "" → isAbsolute (base ++ s) = isAbsolute base := by
    intro s hbase
    obtain ⟨c, rest, hcons⟩ :=
      List.exists_cons_of_ne_nil fun hnil => hbase (String.toList_eq_nil_iff.mp hnil)
    rw [isAbsolute, isAbsolute, String.toList_append, hcons]
    rfl
  rw [join]
  cases hpath : isAbsolute path with
  | true => simp [hpath]
  | false =>
    by_cases hbase : base = ""
    · subst hbase
      simpa [isAbsolute] using hpath
    · rw [if_neg Bool.false_ne_true, Bool.false_or]
      split
      · exact happend _ hbase
      · rw [String.append_assoc]
        exact happend _ hbase

theorem parts_of_isName {name : String} (h : IsName name) : parts name = [name] := by
  have hfilled : name.toList ≠ [] := fun hnil => h.filled (String.toList_eq_nil_iff.mp hnil)
  rw [parts, splitSlashes_of_not_mem h.whole]
  simp [hfilled]

/-- **Going on from a path** adds the parts of the other. -/
theorem parts_join (base : String) {path : String} (h : isAbsolute path = false) :
    parts (join base path) = parts base ++ parts path := by
  unfold parts
  rcases toList_join base h with ⟨hjoin, rfl⟩ | ⟨s, hjoin, hbase⟩
  · rw [hjoin]
    rfl
  · rw [hjoin, splitSlashes_append, List.filter_append, List.map_append]
    rcases hbase with hbase | hbase
    · rw [hbase]
    · -- behind the slash at the end of the base there is an empty part
      rw [hbase, splitSlashes_append, List.filter_append]
      rw [show (splitSlashes []).filter (fun part => !part.isEmpty) = [] from rfl, List.append_nil]

theorem names_of_isName {name : String} (h : IsName name) : names name = [name] := by
  rw [names_eq_filter_parts, parts_of_isName h]
  simp [h.notDot]

theorem names_join (base : String) {path : String} (h : isAbsolute path = false) :
    names (join base path) = names base ++ names path := by
  rw [names_eq_filter_parts, parts_join base h, List.filter_append, ← names_eq_filter_parts,
    ← names_eq_filter_parts]

/-! ## Section 2: Components

The components of a path are its names with what it begins with: the root, a dot, or nothing.
Comparing paths component by component is how one path is found to lie in another. -/

/-- What stands behind a slash has no say in whether a path begins with a dot. -/
theorem beginsWithDot_of_append {path base : String} {rest : List Char}
    (h : path.toList = base.toList ++ '/' :: rest) : beginsWithDot path = beginsWithDot base := by
  unfold beginsWithDot
  rw [h]
  -- none, one or more characters stand in front of the slash, and only the first two matter
  rcases base.toList with _ | ⟨c, _ | ⟨d, s⟩⟩
  · rfl
  · by_cases hc : c = '.'
    · subst hc
      rfl
    · simp [hc]
  · by_cases hc : c = '.'
    · by_cases hd : d = '/'
      · subst hc hd
        rfl
      · simp [hd]
    · simp [hc]

/-- **The components of a path that goes on** from a directory: a dot at the beginning of what is
added is no component any more. -/
theorem components_join {base path : String} (hbase : base ≠ "") (h : isAbsolute path = false) :
    components (join base path) = components base ++ names path := by
  have hdot : beginsWithDot (join base path) = beginsWithDot base := by
    rcases toList_join base h with ⟨-, hempty⟩ | ⟨s, hjoin, hs | hs⟩
    · exact absurd hempty hbase
    · exact beginsWithDot_of_append (hs ▸ hjoin)
    · -- the slash at the end of the base has no say either
      rw [← String.toList_ofList (l := s)] at hjoin hs
      rw [beginsWithDot_of_append hjoin, beginsWithDot_of_append hs]
  rw [components, components, isAbsolute_join, h, Bool.false_or, hdot, names_join base h]
  split
  · rfl
  · split <;> rfl

/-- A path that begins neither at the root nor with a dot begins with a name. -/
theorem exists_names_cons {path : String} (hfilled : path ≠ "")
    (hrelative : isAbsolute path = false) (hdot : beginsWithDot path = false) :
    ∃ name rest, names path = name :: rest := by
  cases hpath : path.toList with
  | nil => exact absurd (String.toList_eq_nil_iff.mp hpath) hfilled
  | cons c s =>
    have hc : (c == '/') = false := by
      rw [isAbsolute, hpath, List.head?_cons] at hrelative
      exact hrelative
    obtain ⟨first, others, hrest, hsplit⟩ := Text.splitAtMarks_cons (· == '/') hc s
    -- a first part that is a dot alone is what `beginsWithDot` looks for
    have hfirst : c :: first ≠ ['.'] := by
      intro heq
      obtain ⟨rfl, rfl⟩ := List.cons.inj heq
      cases s with
      | nil => simp [beginsWithDot, hpath] at hdot
      | cons d s =>
        cases hd : d == '/' with
        | true =>
          rw [beq_iff_eq.mp hd] at hpath
          simp [beginsWithDot, hpath] at hdot
        | false =>
          obtain ⟨_, _, -, hcons⟩ := Text.splitAtMarks_cons (· == '/') hd s
          rw [hcons] at hrest
          cases hrest
    have hnames : names path = String.ofList (c :: first) ::
        ((others.filter fun part => !part.isEmpty && part != ['.']).map String.ofList) := by
      rw [names, hpath, splitSlashes, hsplit]
      simp [hfirst]
    exact ⟨_, _, hnames⟩

theorem ne_of_mem_names {path name : String} (h : name ∈ names path) : name ≠ "/" ∧ name ≠ "." := by
  rw [names_eq_filter_parts] at h
  obtain ⟨hpart, hdot⟩ := List.mem_filter.mp h
  refine ⟨?_, by simpa using hdot⟩
  rintro rfl
  exact (not_mem_of_mem_parts hpart).2 (by decide)

/-- Paths with the same components begin at the same place and have the same names. -/
theorem eq_of_components_eq {path other : String} (h : components path = components other) :
    isAbsolute path = isAbsolute other ∧ names path = names other := by
  -- the root is the first component of the paths that begin there, and of no others
  have hroot : ∀ path : String, isAbsolute path = ((components path).head? == some "/") := by
    intro path
    unfold components
    split
    case isTrue hroot => exact hroot.trans rfl
    case isFalse hrelative =>
      rw [Bool.eq_false_iff.mpr hrelative, eq_comm, beq_eq_false_iff_ne]
      split
      · exact fun hhead => absurd (Option.some.inj hhead) (by decide)
      · exact fun hhead => (ne_of_mem_names (List.mem_of_head? hhead)).1 rfl
  -- the names are the components without the root and the dot
  have hnames : ∀ path : String,
      names path = (components path).filter fun name => name ≠ "/" ∧ name ≠ "." := by
    intro path
    have hkept : (names path).filter (fun name => name ≠ "/" ∧ name ≠ ".") = names path :=
      List.filter_eq_self.mpr fun name hname => decide_eq_true (ne_of_mem_names hname)
    unfold components
    split
    · rw [List.filter_cons_of_neg (by decide), hkept]
    · split
      · rw [List.filter_cons_of_neg (by decide), hkept]
      · exact hkept.symm
  rw [hroot, hroot other, hnames, hnames other, h]
  exact ⟨rfl, rfl⟩

/-- **The components of a path** begin at the root exactly when the path does; only the empty path
has none. -/
theorem components_prefix_iff (path : String) (place : List String) :
    components path <+: "/" :: place ↔
      path = "" ∨ isAbsolute path = true ∧ names path <+: place := by
  by_cases hempty : path = ""
  · subst hempty
    exact ⟨fun _ => .inl rfl, fun _ => List.nil_prefix⟩
  · simp only [hempty, false_or]
    unfold components
    -- in front of a place from the root, a component that is no root does not fit
    cases habsolute : isAbsolute path with
    | true => simp [List.cons_prefix_cons]
    | false =>
      cases hdot : beginsWithDot path with
      | true => simp [List.cons_prefix_cons]
      | false =>
        obtain ⟨name, rest, hnames⟩ := exists_names_cons hempty habsolute hdot
        have hslash : name ≠ "/" := (ne_of_mem_names (hnames ▸ List.mem_cons_self)).1
        simp [hnames, List.cons_prefix_cons, hslash]

end Path

namespace FileTree

open Overseer.Path

/-- The names of a place are read back from its path. -/
theorem components_pathOf {place : Place} (h : ∀ name ∈ place, IsName name) :
    components (pathOf place) = "/" :: place := by
  -- by induction on the place, with what stands in front of its first slash
  have hsplit : ∀ (place : Place) (s : List Char), (∀ name ∈ place, IsName name) → '/' ∉ s →
      splitSlashes (s ++ place.flatMap fun name => '/' :: name.toList) =
        s :: place.map String.toList := by
    intro place
    induction place with
    | nil =>
      intro s _ hs
      rw [List.flatMap_nil, List.append_nil, splitSlashes_of_not_mem hs]
      rfl
    | cons name place ih =>
      intro s hnames hs
      obtain ⟨hname, hnames⟩ := List.forall_mem_cons.mp hnames
      rw [List.flatMap_cons, List.cons_append, splitSlashes_append, splitSlashes_of_not_mem hs,
        ih name.toList hnames hname.whole]
      rfl
  cases place with
  | nil => rfl
  | cons name place =>
    have hpath : (pathOf (name :: place)).toList =
        (name :: place).flatMap fun name => '/' :: name.toList := by
      have hslash : ∀ name : String, ("/" ++ name).toList = '/' :: name.toList := by
        intro name
        rw [String.toList_append]
        rfl
      simp only [pathOf, List.isEmpty_cons, Bool.false_eq_true, if_false, String.toList_join,
        List.flatMap_map, hslash]
    have habsolute : isAbsolute (pathOf (name :: place)) = true := by
      rw [isAbsolute, hpath]
      rfl
    have hkept : ∀ part ∈ (name :: place).map String.toList,
        (!part.isEmpty && part != ['.']) = true := by
      intro part hpart
      obtain ⟨other, hother, rfl⟩ := List.mem_map.mp hpart
      have hfilled : other.toList ≠ [] :=
        fun hnil => (h other hother).filled (String.toList_eq_nil_iff.mp hnil)
      have hdot : other.toList ≠ ['.'] :=
        fun heq => (h other hother).notDot (String.toList_inj.mp heq)
      simp [hfilled, hdot]
    have hnames : names (pathOf (name :: place)) = name :: place := by
      have hall := hsplit (name :: place) [] h List.not_mem_nil
      rw [List.nil_append] at hall
      rw [names, hpath, hall, List.filter_cons, List.filter_eq_self.mpr hkept]
      simp [Function.comp_def]
    rw [components, habsolute, if_pos rfl, hnames]

/-- **What lies in a place**, by the paths. -/
theorem startsWith_pathOf {inner outer : Place} (hinner : ∀ name ∈ inner, IsName name)
    (houter : ∀ name ∈ outer, IsName name) :
    startsWith (pathOf inner) (pathOf outer) = true ↔ outer <+: inner := by
  rw [startsWith, components_pathOf hinner, components_pathOf houter, List.isPrefixOf_iff_prefix,
    List.cons_prefix_cons]
  exact and_iff_right rfl

end FileTree

end Overseer
