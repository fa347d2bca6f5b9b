import Overseer.Proofs.FileTree.Parents

/-!
# Paths Below the Home Directory

A tilde at the beginning of a path stands for the home directory, and what is written behind it is
meant to lie there.  So it does where it begins with a name or a dot.  Where it begins with one more
slash it is a path of its own that takes the place of the home directory.

- `componentsBehind`: the components of what is written behind a directory
- `expandHome_below`: a path below the home goes on from the home
- `ExpandsHome`, `expandsHome`: which paths stay below the home, and which are left as they are
- `not_startsWith_etcBehindHome`: a path that does not stay there
-/

namespace Overseer.Path

/-! ## Section 1: A path behind a directory

Joining two paths puts one slash between them, or takes the second path alone when it begins at the
root.  What was meant is the first of the two, with as many slashes as one likes. -/

/-- The components of a path that is written behind a directory.  There a slash at its beginning is
not the root and a dot is no component, unless the directory is the empty path. -/
def componentsBehind (dir path : String) : List String :=
  if dir = "" then components path else components dir ++ names path

/-- However many slashes stand between the two. -/
theorem components_append_slash {dir : String} (hdir : dir ≠ "") (path : String) :
    components (dir ++ "/" ++ path) = componentsBehind dir path := by
  have htext : (dir ++ "/" ++ path).toList = dir.toList ++ '/' :: path.toList := by
    rw [String.toList_append, String.toList_append, List.append_assoc]
    rfl
  -- the names behind the slash follow those in front of it
  have hnames : names (dir ++ "/" ++ path) = names dir ++ names path := by
    rw [names_eq_namesIn, htext, namesIn_append]
    rfl
  -- where it begins is decided by the first character
  have hroot : isAbsolute (dir ++ "/" ++ path) = isAbsolute dir := by
    obtain ⟨c, s, hcons⟩ :=
      List.exists_cons_of_ne_nil fun hnil => hdir (String.toList_eq_nil_iff.mp hnil)
    rw [isAbsolute, isAbsolute, htext, hcons]
    rfl
  rw [componentsBehind, if_neg hdir, components, components, hroot, beginsWithDot_of_append htext,
    hnames]
  split
  · rfl
  · split <;> rfl

theorem join_of_isAbsolute (dir : String) {path : String} (h : isAbsolute path = true) :
    join dir path = path := by
  rw [join, if_pos h]

/-- Going on from a directory is the same thing where the path does not begin at the root. -/
theorem components_join_eq_behind (dir : String) {path : String} (h : isAbsolute path = false) :
    components (join dir path) = componentsBehind dir path := by
  by_cases hdir : dir = ""
  · subst hdir
    rw [componentsBehind, if_pos rfl, join, h, if_neg Bool.false_ne_true]
    simp
  · rw [componentsBehind, if_neg hdir, components_join hdir h]

/-- A path from the root is one behind the directory only if the directory is the root, or empty. -/
theorem components_eq_behind_iff (dir : String) {path : String} (h : isAbsolute path = true) :
    components path = componentsBehind dir path ↔ dir = "" ∨ components dir = ["/"] := by
  by_cases hdir : dir = ""
  · simp [componentsBehind, hdir]
  · rw [componentsBehind, if_neg hdir, components, if_pos h, or_iff_right hdir,
      ← List.singleton_append, List.append_left_inj, eq_comm]

/-- Only a slash or a dot at its beginning makes the components of a path others than its names. -/
theorem components_eq_names_iff (path : String) :
    components path = names path ↔ isAbsolute path = false ∧ beginsWithDot path = false := by
  rw [components]
  cases isAbsolute path <;> cases beginsWithDot path <;> simp

theorem components_prefix_behind (dir path : String) :
    components dir <+: componentsBehind dir path := by
  rw [componentsBehind]
  split
  case isTrue hdir =>
    subst hdir
    exact List.nil_prefix
  case isFalse => exact List.prefix_append ..

/-! ## Section 2: The tilde

The tilde is expanded only where it stands alone or in front of a slash; that slash is taken away,
and the rest is joined to the home. -/

theorem toList_below (rest : String) : ("~/" ++ rest).toList = '~' :: '/' :: rest.toList := by
  rw [String.toList_append]
  rfl

/-- **A path below the home** goes on from the home. -/
theorem expandHome_below (home rest : String) :
    expandHome ("~/" ++ rest) home = join home rest := by
  have hne : "~/" ++ rest ≠ "~" := by
    intro heq
    rw [← String.toList_inj, toList_below] at heq
    exact absurd (List.cons.inj heq).2 (List.cons_ne_nil _ _)
  rw [expandHome, if_neg hne, toList_below]
  simp

/-- What is written behind the tilde comes behind the home unless it begins with a slash. -/
theorem components_below_eq_behind_iff (home rest : String) :
    components (expandHome ("~/" ++ rest) home) = componentsBehind home rest ↔
      isAbsolute rest = false ∨ home = "" ∨ components home = ["/"] := by
  rw [expandHome_below]
  cases hroot : isAbsolute rest with
  | false => simp only [components_join_eq_behind home hroot, true_or]
  | true =>
    rw [join_of_isAbsolute home hroot, components_eq_behind_iff home hroot,
      or_iff_right (by decide : true ≠ false)]

theorem components_below_eq_append_iff (home rest : String) :
    components (expandHome ("~/" ++ rest) home) = components home ++ components rest ↔
      home = "" ∨ isAbsolute rest = false ∧ beginsWithDot rest = false := by
  rw [expandHome_below]
  by_cases hhome : home = ""
  · subst hhome
    have hjoin : join "" rest = rest := by
      unfold join
      split <;> simp
    rw [hjoin]
    exact ⟨fun _ => .inl rfl, fun _ => rfl⟩
  · rw [or_iff_right hhome]
    cases hroot : isAbsolute rest with
    | false =>
      rw [components_join hhome hroot, List.append_right_inj, eq_comm, components_eq_names_iff,
        hroot]
    | true =>
      -- the home has a component, so there are more on the right
      rw [join_of_isAbsolute home hroot, List.self_eq_append_left]
      exact ⟨fun hnil => absurd (components_eq_nil hnil) hhome, fun h => absurd h.1 (by decide)⟩

/-- So it stays below the home, unless it begins with a slash and does not name the home again. -/
theorem startsWith_below_iff (home rest : String) :
    startsWith (expandHome ("~/" ++ rest) home) home = true ↔
      isAbsolute rest = false ∨ startsWith rest home = true := by
  rw [expandHome_below]
  cases hroot : isAbsolute rest with
  | false =>
    rw [startsWith, List.isPrefixOf_iff_prefix, components_join_eq_behind home hroot]
    exact ⟨fun _ => .inl rfl, fun _ => components_prefix_behind home rest⟩
  | true => rw [join_of_isAbsolute home hroot, or_iff_right (by decide : true ≠ false)]

/-- A path without a tilde of its own at its beginning is left as it is. -/
theorem expandHome_of_ne {path : String} (hne : path ≠ "~") (hother : ∀ rest, path ≠ "~/" ++ rest)
    (home : String) : expandHome path home = path := by
  rw [expandHome, if_neg hne]
  split
  case h_1 rest hbelow =>
    refine absurd ?_ (hother (String.ofList rest))
    rw [← String.toList_inj, hbelow, toList_below, String.toList_ofList]
  case h_2 => rfl

/-! ## Section 3: Every home

Nothing is assumed about the home: it may be empty, relative, or written with dots.  The conditions
are about the path alone. -/

/-- How the tilde is expanded for a home. -/
structure ExpandsHome (home : String) : Prop where
  alone : expandHome "~" home = home
  /-- A path of its own behind the tilde takes the place of the home. -/
  replaced : ∀ rest, isAbsolute rest = true → expandHome ("~/" ++ rest) home = rest
  /-- The home may be written in place of the tilde. -/
  written : home ≠ "" → ∀ rest, components (home ++ "/" ++ rest) = componentsBehind home rest
  /-- What is written behind the tilde comes behind the home. -/
  behind_iff : ∀ rest, components (expandHome ("~/" ++ rest) home) = componentsBehind home rest ↔
    isAbsolute rest = false ∨ home = "" ∨ components home = ["/"]
  /-- It adds its own components where these are names. -/
  components_iff : ∀ rest,
    components (expandHome ("~/" ++ rest) home) = components home ++ components rest ↔
      home = "" ∨ isAbsolute rest = false ∧ beginsWithDot rest = false
  /-- It stays below the home. -/
  startsWith_iff : ∀ rest, startsWith (expandHome ("~/" ++ rest) home) home = true ↔
    isAbsolute rest = false ∨ startsWith rest home = true
  /-- Any other path is left as it is. -/
  unchanged : ∀ path, path ≠ "~" → (∀ rest, path ≠ "~/" ++ rest) → expandHome path home = path

/-- **The tilde is expanded** in this way for every home.  A rest that begins at the root takes the
place of the home; every other rest stays below it. -/
theorem expandsHome (home : String) : ExpandsHome home where
  alone := rfl
  replaced rest hroot := by rw [expandHome_below, join_of_isAbsolute home hroot]
  written hhome rest := components_append_slash hhome rest
  behind_iff := components_below_eq_behind_iff home
  components_iff := components_below_eq_append_iff home
  startsWith_iff := startsWith_below_iff home
  unchanged _ hne hother := expandHome_of_ne hne hother home

/-- **One slash more leads away from the home**, and the path is not trusted any more. -/
theorem not_startsWith_etcBehindHome :
    components (expandHome ("~/" ++ "/etc/passwd") "/home/pi") ≠
        componentsBehind "/home/pi" "/etc/passwd" ∧
      components (expandHome ("~/" ++ "/etc/passwd") "/home/pi") ≠
        components "/home/pi" ++ components "/etc/passwd" ∧
      startsWith (expandHome ("~/" ++ "/etc/passwd") "/home/pi") "/home/pi" = false ∧
      isTrusted (expandHome ("~/" ++ "/etc/passwd") "/home/pi")
        (trustedDirectories "/home/pi") = false := by
  decide +kernel

end Overseer.Path
