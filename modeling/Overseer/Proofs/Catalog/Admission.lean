import Overseer.Catalog.Basic
import Overseer.Proofs.FileTree.Standing

/-!
# Admission to the Catalog

An entry of the configuration is admitted when its path leads to a file, the file is a page or may
be executed, and the place that the path leads to lies in one of the trusted directories, all links
followed on both sides.  Any other entry leaves a warning with the first rule that it breaks.  This
holds of every tree, every way to write a path and every home, with one exception: when the home
directory does not exist, the path of the home stands in for its place, and everything lies in the
empty path.

- `Catalog.Admits`: what a catalog is to be
- `Catalog.trusted_iff`: what the check takes for trusted
- `Catalog.admits_load_iff`: when the catalog is what it is to be
-/

namespace Overseer.Catalog

open FileTree Overseer.Path

/-! ## Section 1: The rules

The rules are stated by what they ask for, without the checks and in terms of places: where a path
leads when all links are followed.  The order of the rules matters for the warning only. -/

/-- The path of the script of an entry. -/
def ScriptEntry.path (entry : ScriptEntry) (home : String) : String :=
  join (expandHome entry.directory home) entry.filename

section Rules

variable (tree : FileTree) (directory : Place) (home : String)

/-- Whether a path leads into a trusted directory, all links followed. -/
def Contained (path : String) : Prop :=
  ∃ inner, tree.resolve directory path true = .ok inner ∧
    ∃ trusted ∈ trustedDirectories home, ∃ outer,
      tree.resolve directory trusted true = .ok outer ∧ outer <+: inner

/-- Whether the file of an entry is a page or may be executed. -/
def Launchable (entry : ScriptEntry) : Prop :=
  ScriptKind.ofFilename entry.filename = .view ∨
    tree.isExecutable directory (entry.path home) = true

/-- An entry that keeps all rules: it leads to a file, one that may be executed unless it is a page,
and the file lies in a trusted directory. -/
structure Accepted (entry : ScriptEntry) : Prop where
  file : tree.isFile directory (entry.path home) = true
  launchable : Launchable tree directory home entry
  contained : Contained tree directory home (entry.path home)

/-- The first rule that an entry breaks. -/
inductive Breaks (entry : ScriptEntry) : Rejection → Prop where
  | notFile (hfile : tree.isFile directory (entry.path home) = false) : Breaks entry .notFile
  | notExecutable (hfile : tree.isFile directory (entry.path home) = true)
      (hmode : ¬ Launchable tree directory home entry) : Breaks entry .notExecutable
  | untrusted (hfile : tree.isFile directory (entry.path home) = true)
      (hmode : Launchable tree directory home entry)
      (houtside : ¬ Contained tree directory home (entry.path home)) : Breaks entry .untrusted

/-- Every entry becomes a script or a warning, and both keep the order of the entries. -/
inductive Sorted : List ScriptEntry → List Script → List String → Prop where
  | nil : Sorted [] [] []
  | admitted {entry : ScriptEntry} {script : Script} {entries : List ScriptEntry}
      {scripts : List Script} {warnings : List String}
      (haccepted : Accepted tree directory home entry) (hentry : script.entry = entry)
      (hpath : script.path = entry.path home) (hrest : Sorted entries scripts warnings) :
      Sorted (entry :: entries) (script :: scripts) warnings
  | skipped {entry : ScriptEntry} {why : Rejection} {entries : List ScriptEntry}
      {scripts : List Script} {warnings : List String}
      (hbreaks : Breaks tree directory home entry why)
      (hrest : Sorted entries scripts warnings) :
      Sorted (entry :: entries) scripts
        (("Skipped " ++ entry.filename ++ ": " ++ why.reason) :: warnings)

/-- What a catalog of entries is to be.  Nothing is in it that breaks a rule, and nothing that keeps
all of them is left out. -/
structure Admits (entries : List ScriptEntry) (catalog : Catalog) : Prop where
  sorted : Sorted tree directory home entries catalog.scripts catalog.warnings
  /-- No script leads out of the trusted directories, however its path is written. -/
  contained : ∀ script ∈ catalog.scripts, Contained tree directory home script.path

/-- An entry that gets in although it leads out: the home does not exist, and its path is empty or
writes out the place of the script. -/
structure Astray (entry : ScriptEntry) : Prop where
  file : tree.isFile directory (entry.path home) = true
  launchable : Launchable tree directory home entry
  homeless : ∀ place, tree.resolve directory home true ≠ .ok place
  named : home = "" ∨
    ∃ place, tree.resolve directory (entry.path home) true = .ok place ∧
      components home = "/" :: place
  outside : ¬ Contained tree directory home (entry.path home)

end Rules

variable {tree : FileTree} {directory : Place} {home : String}

/-! ## Section 2: Paths without links

A path that leads somewhere has a canonical form, which is the path of the place; a path that leads
nowhere stands for itself. -/

theorem realPath_of_resolve {path : String} {place : Place}
    (h : tree.resolve directory path true = .ok place) :
    realPath tree directory path = pathOf place := by
  rw [realPath, canonical, h]
  rfl

theorem realPath_of_error {path : String}
    (h : ∀ place, tree.resolve directory path true ≠ .ok place) :
    realPath tree directory path = path := by
  rw [realPath, canonical]
  cases hresolve : tree.resolve directory path true with
  | ok place => exact absurd hresolve (h place)
  | error e => rfl

theorem exists_resolve_of_isFile {path : String} (h : tree.isFile directory path = true) :
    ∃ place, tree.resolve directory path true = .ok place := by
  cases hresolve : tree.resolve directory path true with
  | ok place => exact ⟨place, rfl⟩
  | error e =>
    have hfind : FileTree.find tree directory path = .error e := by
      rw [FileTree.find, hresolve]
      rfl
    simp [isFile, hfind] at h

/-! ## Section 3: What the check takes for trusted

Both sides of the check may fall back to the path as it was written.  A directory below the home
that does not exist holds nothing even so, because its path ends with a name that nothing in front
of a script has; the path of the home itself need not end with one, and that is the exception. -/

section Trust

variable {inner : Place}

/-- Nothing lies in a directory that does not exist and whose path ends with a name. -/
theorem not_startsWith_join (hinner : Standing tree inner) (base : String) {name : String}
    (hname : IsName name)
    (hmissing : ∀ place, tree.resolve directory (join base name) true ≠ .ok place) :
    ¬ startsWith (pathOf inner) (join base name) = true := by
  intro hstarts
  rw [startsWith, components_pathOf hinner.isName, List.isPrefixOf_iff_prefix,
    components_prefix_iff] at hstarts
  rcases hstarts with hempty | ⟨habsolute, hnames⟩
  · -- the empty path has no names
    have hnone := names_join base (isAbsolute_of_isName hname)
    rw [hempty, names_of_isName hname] at hnone
    exact absurd hnone.symm (by simp [names, splitSlashes, Text.splitAtMarks_nil])
  · refine hmissing _ (resolve_of_names hinner habsolute hnames fun _ => ?_)
    rw [steps_join base hname, List.getLast?_concat, ne_eq, Option.some.injEq]
    exact hname.notDot

/-- What seems to lie in a home that does not exist. -/
theorem startsWith_home_iff (hinner : Standing tree inner)
    (hmissing : ∀ place, tree.resolve directory home true ≠ .ok place) :
    startsWith (pathOf inner) home = true ↔ home = "" ∨ components home = "/" :: inner := by
  rw [startsWith, components_pathOf hinner.isName, List.isPrefixOf_iff_prefix]
  constructor
  · intro hstarts
    -- the path of the home is empty, or it begins as the place does
    rcases (components_prefix_iff home inner).mp hstarts with hempty | ⟨habsolute, hnames⟩
    · exact .inl hempty
    · -- a home above the place would exist
      refine .inr ?_
      have hwhole : names home = inner := by
        by_contra hproper
        exact hmissing _ (resolve_of_names hinner habsolute hnames fun heq => absurd heq hproper)
      rw [components, habsolute, if_pos rfl, hwhole]
  · rintro (rfl | hnamed)
    · exact List.nil_prefix
    · exact ⟨[], by rw [hnamed, List.append_nil]⟩

theorem isName_github : IsName "github" := ⟨by decide, by decide, by decide, by decide⟩

theorem isName_runtime : IsName "runtime" := ⟨by decide, by decide, by decide, by decide⟩

/-- One trusted directory: what exists holds what lies in it; what does not exist holds something
only if it is the home. -/
theorem startsWith_realPath_iff (hdirectory : Standing tree directory)
    (hinner : Standing tree inner) {trusted : String}
    (htrusted : trusted ∈ trustedDirectories home) :
    startsWith (pathOf inner) (realPath tree directory trusted) = true ↔
      (∃ outer, tree.resolve directory trusted true = .ok outer ∧ outer <+: inner) ∨
        (∀ place, tree.resolve directory trusted true ≠ .ok place) ∧ trusted = home ∧
          (home = "" ∨ components home = "/" :: inner) := by
  -- a directory that exists is compared by its place, and one that does not by its path as written
  by_cases hexists : ∃ outer, tree.resolve directory trusted true = .ok outer
  · obtain ⟨outer, houter⟩ := hexists
    rw [realPath_of_resolve houter,
      startsWith_pathOf hinner.isName (standing_resolve hdirectory houter).isName]
    simp [houter]
  · have hmissing : ∀ place, tree.resolve directory trusted true ≠ .ok place :=
      not_exists.mp hexists
    rw [realPath_of_error hmissing]
    have hnone : ¬ ∃ outer, tree.resolve directory trusted true = .ok outer ∧ outer <+: inner :=
      fun ⟨outer, houter, _⟩ => hmissing outer houter
    rw [or_iff_right hnone, and_iff_right hmissing]
    by_cases hhome : trusted = home
    · subst hhome
      rw [startsWith_home_iff hinner hmissing, and_iff_right rfl]
    · -- the paths of the other two end with a name
      rw [iff_false_right (by simp [hhome])]
      simp only [trustedDirectories, List.mem_cons, List.not_mem_nil, or_false] at htrusted
      rcases htrusted with rfl | rfl | rfl
      · exact not_startsWith_join hinner home isName_github hmissing
      · exact not_startsWith_join hinner _ isName_runtime hmissing
      · exact absurd rfl hhome

/-- What the check takes for trusted. -/
def Trusted (tree : FileTree) (directory : Place) (home path : String) : Prop :=
  isTrusted (realPath tree directory path)
    ((trustedDirectories home).map (realPath tree directory)) = true

/-- **The check trusts** what lies in a trusted directory, and what a home that does not exist seems
to hold. -/
theorem trusted_iff (hdirectory : Standing tree directory) {path : String}
    (hinner : tree.resolve directory path true = .ok inner) :
    Trusted tree directory home path ↔
      Contained tree directory home path ∨
        (∀ place, tree.resolve directory home true ≠ .ok place) ∧
          (home = "" ∨ components home = "/" :: inner) := by
  have hstands := standing_resolve hdirectory hinner
  have hcontained : Contained tree directory home path ↔
      ∃ trusted ∈ trustedDirectories home, ∃ outer,
        tree.resolve directory trusted true = .ok outer ∧ outer <+: inner := by
    simp [Contained, hinner]
  rw [Trusted, isTrusted, List.any_map, List.any_eq_true, realPath_of_resolve hinner, hcontained]
  constructor
  · -- what the check trusts lies below a directory that exists, or the home is not there
    rintro ⟨trusted, hmem, hstarts⟩
    rcases (startsWith_realPath_iff hdirectory hstands hmem).mp hstarts with
      hlies | ⟨hmissing, rfl, hnamed⟩
    · exact .inl ⟨trusted, hmem, hlies⟩
    · exact .inr ⟨hmissing, hnamed⟩
  · -- and both are trusted
    rintro (⟨trusted, hmem, hlies⟩ | ⟨hmissing, hnamed⟩)
    · exact ⟨trusted, hmem, (startsWith_realPath_iff hdirectory hstands hmem).mpr (.inl hlies)⟩
    · have hmem : home ∈ trustedDirectories home := by simp [trustedDirectories]
      exact ⟨home, hmem,
        (startsWith_realPath_iff hdirectory hstands hmem).mpr (.inr ⟨hmissing, rfl, hnamed⟩)⟩

end Trust

/-! ## Section 4: Loading

The check tries the rules one by one, so its result is one case for each of them.  Loading is a
recursion over the entries that keeps their order. -/

/-- **The check** lets an entry in or finds the first rule that it breaks, but for what it takes for
trusted. -/
theorem check_cases (tree : FileTree) (directory : Place) (home : String) (entry : ScriptEntry) :
    (∃ script, check tree directory home entry = .ok script ∧ script.entry = entry ∧
        script.path = entry.path home ∧ tree.isFile directory (entry.path home) = true ∧
        Launchable tree directory home entry ∧ Trusted tree directory home (entry.path home)) ∨
      (check tree directory home entry = .error .notFile ∧
        tree.isFile directory (entry.path home) = false) ∨
      (check tree directory home entry = .error .notExecutable ∧
        tree.isFile directory (entry.path home) = true ∧ ¬ Launchable tree directory home entry) ∨
      (check tree directory home entry = .error .untrusted ∧
        tree.isFile directory (entry.path home) = true ∧ Launchable tree directory home entry ∧
        ¬ Trusted tree directory home (entry.path home)) := by
  have hlaunchable : Launchable tree directory home entry ↔
      ¬ (ScriptKind.ofFilename entry.filename != .view &&
        !tree.isExecutable directory (entry.path home)) = true := by
    simp [Launchable, imp_iff_not_or]
  simp only [check]
  -- the rules in the order in which they are checked
  split
  case isTrue hfile =>
    exact .inr (.inl ⟨rfl, by simpa [ScriptEntry.path] using hfile⟩)
  case isFalse hfile =>
    have hfile : tree.isFile directory (entry.path home) = true := by
      simpa [ScriptEntry.path] using hfile
    split
    case isTrue hmode =>
      exact .inr (.inr (.inl ⟨rfl, hfile, fun hmay => hlaunchable.mp hmay hmode⟩))
    case isFalse hmode =>
      have hmay : Launchable tree directory home entry := hlaunchable.mpr hmode
      split
      case isTrue htrusted =>
        refine .inr (.inr (.inr ⟨rfl, hfile, hmay, ?_⟩))
        simpa [Trusted, ScriptEntry.path] using htrusted
      case isFalse htrusted =>
        refine .inl ⟨_, rfl, rfl, rfl, hfile, hmay, ?_⟩
        simpa [Trusted, ScriptEntry.path] using htrusted

/-- What is let in keeps all rules or has gone astray. -/
theorem accepted_or_astray (hdirectory : Standing tree directory) {entry : ScriptEntry}
    (hfile : tree.isFile directory (entry.path home) = true)
    (hlaunchable : Launchable tree directory home entry)
    (htrusted : Trusted tree directory home (entry.path home)) :
    Accepted tree directory home entry ∨ Astray tree directory home entry := by
  obtain ⟨inner, hinner⟩ := exists_resolve_of_isFile hfile
  by_cases hcontained : Contained tree directory home (entry.path home)
  · exact .inl ⟨hfile, hlaunchable, hcontained⟩
  · obtain ⟨hhomeless, hnamed⟩ :=
      ((trusted_iff hdirectory hinner).mp htrusted).resolve_left hcontained
    refine .inr ⟨hfile, hlaunchable, hhomeless, ?_, hcontained⟩
    exact hnamed.imp_right fun hnamed => ⟨inner, hinner, hnamed⟩

theorem Astray.trusted (hdirectory : Standing tree directory) {entry : ScriptEntry}
    (h : Astray tree directory home entry) : Trusted tree directory home (entry.path home) := by
  obtain ⟨inner, hinner⟩ := exists_resolve_of_isFile h.file
  refine (trusted_iff hdirectory hinner).mpr (.inr ⟨h.homeless, h.named.imp_right ?_⟩)
  rintro ⟨place, hplace, hnamed⟩
  rw [hinner, Except.ok.injEq] at hplace
  rw [hplace, hnamed]

/-- An entry that goes astray is let in. -/
theorem check_of_astray (hdirectory : Standing tree directory) {entry : ScriptEntry}
    (h : Astray tree directory home entry) :
    ∃ script, check tree directory home entry = .ok script ∧ script.path = entry.path home := by
  rcases check_cases tree directory home entry with
    ⟨script, hcheck, -, hpath, -⟩ | ⟨-, hfile⟩ | ⟨-, -, hmode⟩ | ⟨-, -, -, huntrusted⟩
  · exact ⟨script, hcheck, hpath⟩
  · exact absurd h.file (by simp [hfile])
  · exact absurd h.launchable hmode
  · exact absurd (h.trusted hdirectory) huntrusted

/-- The catalog of entries, one after the other. -/
theorem load_cons (entry : ScriptEntry) (entries : List ScriptEntry) :
    load tree directory home (entry :: entries) =
      match check tree directory home entry with
      | .ok script =>
        ⟨script :: (load tree directory home entries).scripts,
          (load tree directory home entries).warnings⟩
      | .error why =>
        ⟨(load tree directory home entries).scripts,
          ("Skipped " ++ entry.filename ++ ": " ++ why.reason) ::
            (load tree directory home entries).warnings⟩ := by
  have hload : ∀ (entry : ScriptEntry) (entries : List ScriptEntry),
      load tree directory home (entry :: entries) =
        entries.foldl (fun catalog entry => catalog.add entry (check tree directory home entry))
          (empty.add entry (check tree directory home entry)) := fun _ _ => rfl
  -- what is added later stands behind what a catalog holds
  have hbehind : ∀ (entries : List ScriptEntry) (catalog : Catalog),
      entries.foldl (fun catalog entry =>
          catalog.add entry (check tree directory home entry)) catalog =
        ⟨catalog.scripts ++ (load tree directory home entries).scripts,
          catalog.warnings ++ (load tree directory home entries).warnings⟩ := by
    intro entries
    induction entries with
    | nil =>
      intro catalog
      simp [load, empty]
    | cons entry entries ih =>
      intro catalog
      rw [List.foldl_cons, hload, ih, ih]
      cases check tree directory home entry with
      | ok script => simp [add, empty]
      | error why => simp [add, empty]
  rw [hload, hbehind]
  cases check tree directory home entry with
  | ok script => rfl
  | error why => rfl

/-! ## Section 5: What a catalog holds

One direction is by cases on the check; in the other an entry that goes astray is shown among the
scripts, where it should not be. -/

theorem Sorted.contained {entries : List ScriptEntry} {scripts : List Script}
    {warnings : List String} (h : Sorted tree directory home entries scripts warnings) :
    ∀ script ∈ scripts, Contained tree directory home script.path := by
  induction h with
  | nil => exact nofun
  | admitted haccepted _ hpath _ ih =>
    rw [List.forall_mem_cons, hpath]
    exact ⟨haccepted.contained, ih⟩
  | skipped _ _ ih => exact ih

theorem sorted_load (hdirectory : Standing tree directory) {entries : List ScriptEntry}
    (h : ∀ entry ∈ entries, ¬ Astray tree directory home entry) :
    Sorted tree directory home entries (load tree directory home entries).scripts
      (load tree directory home entries).warnings := by
  induction entries with
  | nil => exact .nil
  | cons entry entries ih =>
    obtain ⟨hentry, hentries⟩ := List.forall_mem_cons.mp h
    have hrest := ih hentries
    rw [load_cons]
    -- each outcome of the check is one way to sort the entry
    rcases check_cases tree directory home entry with
      ⟨script, hcheck, hscript, hpath, hfile, hmode, htrusted⟩ | ⟨hcheck, hfile⟩ |
        ⟨hcheck, hfile, hmode⟩ | ⟨hcheck, hfile, hmode, huntrusted⟩
    · rw [hcheck]
      have haccepted := (accepted_or_astray hdirectory hfile hmode htrusted).resolve_right hentry
      exact .admitted haccepted hscript hpath hrest
    · rw [hcheck]
      exact .skipped (.notFile hfile) hrest
    · rw [hcheck]
      exact .skipped (.notExecutable hfile hmode) hrest
    · rw [hcheck]
      obtain ⟨inner, hinner⟩ := exists_resolve_of_isFile hfile
      refine .skipped (.untrusted hfile hmode fun hcontained => huntrusted ?_) hrest
      exact (trusted_iff hdirectory hinner).mpr (.inl hcontained)

/-- An entry that goes astray is among the scripts. -/
theorem mem_load_of_astray (hdirectory : Standing tree directory) {entries : List ScriptEntry}
    {entry : ScriptEntry} (hentry : entry ∈ entries) (h : Astray tree directory home entry) :
    ∃ script ∈ (load tree directory home entries).scripts, script.path = entry.path home := by
  induction entries with
  | nil => exact absurd hentry List.not_mem_nil
  | cons other entries ih =>
    rw [load_cons]
    -- the entry itself is checked and gets in, or it is one of those behind
    rcases List.mem_cons.mp hentry with rfl | hentry
    · obtain ⟨script, hcheck, hpath⟩ := check_of_astray hdirectory h
      rw [hcheck]
      exact ⟨script, List.mem_cons_self, hpath⟩
    · obtain ⟨script, hscript, hpath⟩ := ih hentry
      cases check tree directory home other with
      | ok found => exact ⟨script, List.mem_cons_of_mem _ hscript, hpath⟩
      | error why => exact ⟨script, hscript, hpath⟩

/-- A home with a script, and with a link to a script next to the home. -/
def linkedTree : FileTree :=
  ⟨[(["home"], ⟨.directory, 0o755, 0⟩), (["home", "job.sh"], ⟨.file [], 0o755, 0⟩),
    (["home", "far.sh"], ⟨.link "../outside/evil.sh", 0o777, 0⟩),
    (["outside"], ⟨.directory, 0o755, 0⟩), (["outside", "evil.sh"], ⟨.file [], 0o755, 0⟩)]⟩

/-- An entry that gives its file alone. -/
def plainEntry (directory filename : String) : ScriptEntry :=
  ⟨none, directory, filename, ScriptEntry.defaultCategory, [], none⟩

theorem resolve_linkedTree_home : linkedTree.resolve [] "/home" true = .ok ["home"] := by
  have hshort : ¬ nameLimit < "home".utf8ByteSize := by decide
  simp [resolve, steps, splitSlashes, Text.splitAtMarks, Text.partsAround, walk, isOpenAt, permits,
    FileNode.isOwnerExecutable, at?, linkedTree, isAbsolute, hshort]

theorem resolve_linkedTree_evil :
    linkedTree.resolve [] "/outside/evil.sh" true = .ok ["outside", "evil.sh"] := by
  have hshort : ¬ nameLimit < "outside".utf8ByteSize ∧ ¬ nameLimit < "evil.sh".utf8ByteSize := by
    decide
  simp [resolve, steps, splitSlashes, Text.splitAtMarks, Text.partsAround, walk, isOpenAt, permits,
    FileNode.isOwnerExecutable, at?, linkedTree, isAbsolute, hshort]

/-- **The catalog is what it is to be** exactly when no entry goes astray; that is so whenever the
home exists.  The working directory is a place that its own path leads to. -/
theorem admits_load_iff (tree : FileTree) (directory : Place) (home : String)
    (entries : List ScriptEntry)
    (hdirectory : tree.resolve [] (pathOf directory) true = .ok directory) :
    Admits tree directory home entries (load tree directory home entries) ↔
      ∀ entry ∈ entries, ¬ Astray tree directory home entry := by
  have hstands : Standing tree directory := standing_resolve .root hdirectory
  -- an entry that goes astray gets in and does not lie where it is to lie
  constructor
  · intro h entry hentry hastray
    obtain ⟨script, hscript, hpath⟩ := mem_load_of_astray hstands hentry hastray
    exact hastray.outside (hpath ▸ h.contained script hscript)
  · -- without such an entry the catalog is sorted as it is to be
    intro h
    have hsorted := sorted_load hstands h
    exact ⟨hsorted, hsorted.contained⟩

/-- A home that exists, links and all. -/
theorem admits_load_linkedTree :
    linkedTree.resolve [] (pathOf ["home"]) true = .ok ["home"] ∧
      Admits linkedTree ["home"] "/home"
        [plainEntry "~" "job.sh", plainEntry "~" "far.sh", plainEntry "../outside" "evil.sh"]
        (load linkedTree ["home"] "/home"
          [plainEntry "~" "job.sh", plainEntry "~" "far.sh", plainEntry "../outside" "evil.sh"]) :=
  ⟨resolve_linkedTree_home,
    (admits_load_iff linkedTree ["home"] "/home" _ resolve_linkedTree_home).mpr
      fun _ _ hastray => hastray.homeless ["home"] resolve_linkedTree_home⟩

/-- Without a home, every script gets in. -/
theorem not_admits_load_homeless :
    ¬ Admits linkedTree [] "" [plainEntry "/outside" "evil.sh"]
      (load linkedTree [] "" [plainEntry "/outside" "evil.sh"]) := by
  -- the path of the entry has no home in it
  have hpath : (plainEntry "/outside" "evil.sh").path "" = "/outside/evil.sh" := by decide
  have hfind : FileTree.find linkedTree [] "/outside/evil.sh" = .ok ⟨.file [], 0o755, 0⟩ := by
    rw [FileTree.find, resolve_linkedTree_evil]
    rfl
  -- without a home the trusted paths are relative, and nothing is there
  have hmissing : ∀ trusted ∈ trustedDirectories "", ∀ place,
      linkedTree.resolve [] trusted true ≠ .ok place := by
    have hshort : ¬ nameLimit < "github".utf8ByteSize ∧ ¬ nameLimit < ".saturn".utf8ByteSize := by
      decide
    have hdirectories : trustedDirectories "" = ["github", ".saturn/runtime", ""] := by decide
    simp [hdirectories, resolve, steps, splitSlashes, Text.splitAtMarks, Text.partsAround, walk,
      isOpenAt, permits, FileNode.isOwnerExecutable, at?, linkedTree, isAbsolute, hshort]
  have hastray : Astray linkedTree [] "" (plainEntry "/outside" "evil.sh") := by
    constructor
    case file => rw [hpath, isFile, hfind]; rfl
    case launchable =>
      right
      rw [hpath, isExecutable, hfind]
      rfl
    case homeless => exact hmissing "" (by decide)
    case named => exact .inl rfl
    case outside =>
      rintro ⟨inner, -, trusted, htrusted, outer, houter, -⟩
      exact hmissing trusted htrusted outer houter
  obtain ⟨script, hscript, hscriptPath⟩ := mem_load_of_astray .root List.mem_cons_self hastray
  exact fun h => hastray.outside (hscriptPath ▸ h.contained script hscript)

end Overseer.Catalog
