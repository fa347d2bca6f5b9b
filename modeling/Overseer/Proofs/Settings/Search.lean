import Overseer.Proofs.FileTree.Ancestors
import Overseer.Proofs.FileTree.Ways
import Overseer.Settings.Lookup

/-!
# The Search for a Configuration File

The search goes up from a directory until it finds a configuration file, or comes to an end at the
root or the empty path.  So the file that is used is that of the nearest directory that has one;
else it is that of the home directory; and only where neither is there do the settings hold by
default.  A file that was chosen and is no good is an error.

All this holds in any format and with any files.  In a file tree it does not matter how the
directories are written: a file is nearer when fewer components stand in front of it.

- `Settings.Search`: going up, one directory after the other
- `Settings.Chosen`: where the settings are to come from
- `Settings.Gives`: what such a source gives
- `Settings.lookedUp_loadFrom`: the settings that are loaded
- `Settings.InTree.chosen`: which file is used of those in a tree
-/

namespace Overseer.Settings

open FileTree Overseer.Path

/-! ## Section 1: Going up

The search asks of each path on the way up whether there is a configuration file; these relations
say what it should find, without the recursion. -/

/-- The search upward from a directory: to the first one with a configuration file, or to an end. -/
inductive Search (isFile : String → Bool) : String → Option String → Prop where
  | found {dir : String} (hfile : isFile (fileIn dir) = true) :
      Search isFile dir (some (fileIn dir))
  | up {dir above : String} {result : Option String} (hnone : isFile (fileIn dir) = false)
      (hparent : parent? dir = some above) (habove : Search isFile above result) :
      Search isFile dir result
  | top {dir : String} (hnone : isFile (fileIn dir) = false) (hparent : parent? dir = none) :
      Search isFile dir none

/-- **The search comes to an end** wherever it begins, with the first file on the way up.  The
induction is on the way up, and its end is a path that lies in nothing. -/
theorem search_ancestors (isFile : String → Bool) (start : String) :
    Search isFile start (((ancestors start).map fileIn).find? isFile) := by
  induction start using parent_induction with
  | top path hparent =>
    rw [ancestors_eq, hparent, Option.map_none, Option.getD_none, List.map_singleton]
    -- at the top: the file there, or nothing
    cases hfile : isFile (fileIn path) with
    | true =>
      rw [List.find?_cons_of_pos hfile]
      exact .found hfile
    | false =>
      rw [List.find?_cons_of_neg (Bool.eq_false_iff.mp hfile), List.find?_nil]
      exact .top hfile hparent
  | up path dir hparent ih =>
    rw [ancestors_eq, hparent, Option.map_some, Option.getD_some, List.map_cons]
    -- below it: the file there, or what is found further up
    cases hfile : isFile (fileIn path) with
    | true =>
      rw [List.find?_cons_of_pos hfile]
      exact .found hfile
    | false =>
      rw [List.find?_cons_of_neg (Bool.eq_false_iff.mp hfile)]
      exact .up hfile hparent ih

section Source

variable (isFile : String → Bool)

/-- A directory on the way up from `start` has a configuration file, and those with one that are met
on the way lie no nearer: they are met on the way up from it. -/
structure Nearest (start dir : String) : Prop where
  rises : Rises start dir
  found : isFile (fileIn dir) = true
  nearest : ∀ other, Rises start other → isFile (fileIn other) = true → Rises dir other

/-- No directory on the way up from `start` has a configuration file. -/
def NoneAbove (start : String) : Prop :=
  ∀ other, Rises start other → isFile (fileIn other) = false

/-- The home directory has no configuration file. -/
def NoneAtHome (home : Option String) : Prop :=
  ∀ dir, home = some dir → isFile (fileIn dir) = false

/-- Where the settings are to come from. -/
inductive Chosen (start : String) (home : Option String) : Option String → Prop where
  | nearest {dir : String} (hnearest : Nearest isFile start dir) :
      Chosen start home (some (fileIn dir))
  | home {dir : String} (hnone : NoneAbove isFile start) (hhome : home = some dir)
      (hfile : isFile (fileIn dir) = true) : Chosen start home (some (fileIn dir))
  | nothing (hnone : NoneAbove isFile start) (hhome : NoneAtHome isFile home) :
      Chosen start home none

end Source

section Loading

variable (format : Format) (files : Files)

/-- What a source of settings gives: a file that is no good is an error. -/
inductive Gives : Option String → Except SettingsError (Settings × Option String) → Prop where
  | default : Gives none (.ok (default, none))
  | unreadable {path : String}
      (hbytes : ∀ bytes, files.read path = .ok bytes → Text.decode? bytes = none) :
      Gives (some path) (.error (.unreadable path))
  | malformed {path : String} {bytes : List UInt8} {text : List Char}
      (hbytes : files.read path = .ok bytes) (htext : Text.decode? bytes = some text)
      (hparse : format.parse? (String.ofList text) = none) :
      Gives (some path) (.error (.malformed path))
  | invalidPattern {path : String} {bytes : List UInt8} {text : List Char} {settings : Settings}
      {source : String}
      (hbytes : files.read path = .ok bytes) (htext : Text.decode? bytes = some text)
      (hparse : format.parse? (String.ofList text) = some settings)
      (hsource : source ∈ settings.patterns) (hinvalid : format.dialect source = none) :
      Gives (some path) (.error (.invalidPattern path))
  | settings {path : String} {bytes : List UInt8} {text : List Char} {settings : Settings}
      (hbytes : files.read path = .ok bytes) (htext : Text.decode? bytes = some text)
      (hparse : format.parse? (String.ofList text) = some settings)
      (hpatterns : ∀ source ∈ settings.patterns, (format.dialect source).isSome = true) :
      Gives (some path) (.ok (settings, some path))

/-- How settings are looked up from `start`. -/
structure LookedUp (start : String) (home : Option String)
    (result : Except SettingsError (Settings × Option String)) : Prop where
  /-- The search upward comes to an end. -/
  ends : ∃ found, Search files.isFile start found
  /-- On the way up it meets what `start` lies in by components: `start` itself and each directory
  whose components are the first ones of `start`. -/
  lexical : ∀ above, IsAbove above start ↔ ∃ dir, Rises start dir ∧
    isAbsolute dir = isAbsolute above ∧ components dir = components above
  /-- There is one source for the settings. -/
  chosen : ∃! source, Chosen files.isFile start home source
  /-- The source that is chosen gives the settings or the error. -/
  gives : ∀ source, Chosen files.isFile start home source → Gives format files source result
  /-- The settings hold by default exactly where there is no file. -/
  default_iff : result = .ok (default, none) ↔
    NoneAbove files.isFile start ∧ NoneAtHome files.isFile home

end Loading

/-! ## Section 2: The file that is used

The three sources exclude one another: a file on the way up, the file of the home if there is none,
and nothing at all. -/

section Files

variable {isFile : String → Bool}

/-- What the search finds is the file of the nearest directory that has one. -/
theorem Search.nearest {start path : String} (h : Search isFile start (some path)) :
    ∃ dir, Nearest isFile start dir ∧ path = fileIn dir := by
  generalize hresult : some path = result at h
  induction h with
  | @found dir hfile =>
    exact ⟨dir, ⟨.here, hfile, fun _ hother _ => hother⟩, Option.some.inj hresult⟩
  | up hnone hparent _ ih =>
    obtain ⟨dir, ⟨hrises, hfile, hnearest⟩, hpath⟩ := ih hresult
    refine ⟨dir, ⟨.up hparent hrises, hfile, fun other hother hfound => ?_⟩, hpath⟩
    -- the directory below has no file, so another one with a file lies above it
    cases hother with
    | here =>
      rw [hnone] at hfound
      cases hfound
    | up hparent' habove =>
      obtain rfl := Option.some.inj (hparent.symm.trans hparent')
      exact hnearest other habove hfound
  | top => cases hresult

/-- Where the search finds nothing there is nothing. -/
theorem Search.noneAbove {start : String} (h : Search isFile start none) :
    NoneAbove isFile start := by
  generalize hresult : none = result at h
  induction h with
  | found => cases hresult
  | up hnone hparent _ ih =>
    intro other hother
    -- the directory itself has no file, and what is above it lies above its parent
    cases hother with
    | here => exact hnone
    | up hparent' habove =>
      obtain rfl := Option.some.inj (hparent.symm.trans hparent')
      exact ih hresult other habove
  | top hnone hparent =>
    intro other hother
    cases hother with
    | here => exact hnone
    | up hparent' habove =>
      rw [hparent] at hparent'
      cases hparent'

theorem Nearest.unique {start dir other : String} (h : Nearest isFile start dir)
    (hother : Nearest isFile start other) : dir = other :=
  (h.nearest other hother.rises hother.found).antisymm (hother.nearest dir h.rises h.found)

theorem NoneAbove.not_nearest {start dir : String} (h : NoneAbove isFile start) :
    ¬ Nearest isFile start dir := by
  intro hnearest
  have hnone := h dir hnearest.rises
  rw [hnearest.found] at hnone
  cases hnone

/-- Only one source is chosen. -/
theorem Chosen.unique {start : String} {home source other : Option String}
    (h : Chosen isFile start home source) (hother : Chosen isFile start home other) :
    source = other := by
  -- a directory that has the file and is nearest leaves no room for the home
  cases h with
  | nearest hnearest =>
    cases hother with
    | nearest hnearest' => rw [hnearest.unique hnearest']
    | home hnone => exact absurd hnearest hnone.not_nearest
    | nothing hnone => exact absurd hnearest hnone.not_nearest
  | home hnone hhome hfile =>
    cases hother with
    | nearest hnearest => exact absurd hnearest hnone.not_nearest
    | home _ hhome' => rw [Option.some.inj (hhome.symm.trans hhome')]
    | nothing _ hnothing =>
      rw [hnothing _ hhome] at hfile
      cases hfile
  | nothing hnone hnothing =>
    cases hother with
    | nearest hnearest => exact absurd hnearest hnone.not_nearest
    | home _ hhome hfile =>
      rw [hnothing _ hhome] at hfile
      cases hfile
    | nothing => rfl

variable (isFile)

/-- **The file that is used** is the right one. -/
theorem chosen_choose? (start : String) (home : Option String) :
    Chosen isFile start home (choose? isFile start home) := by
  have hsearch := search_ancestors isFile start
  rw [choose?, List.map_append, List.find?_append]
  -- the list of candidates ends with the home
  cases hfound : ((ancestors start).map fileIn).find? isFile with
  | some path =>
    rw [hfound] at hsearch
    obtain ⟨dir, hnearest, rfl⟩ := hsearch.nearest
    exact .nearest hnearest
  | none =>
    rw [hfound] at hsearch
    rw [Option.none_or]
    have hnone := hsearch.noneAbove
    cases home with
    | none => exact .nothing hnone nofun
    | some dir =>
      rw [Option.toList_some, List.map_singleton]
      cases hfile : isFile (fileIn dir) with
      | true =>
        -- nothing on the way up, so the home counts
        rw [List.find?_cons_of_pos hfile]
        exact .home hnone rfl hfile
      | false =>
        rw [List.find?_cons_of_neg (Bool.eq_false_iff.mp hfile), List.find?_nil]
        refine .nothing hnone fun other hother => ?_
        rw [← Option.some.inj hother, hfile]

end Files

/-! ## Section 3: The settings

Reading a file, parsing it and reading its patterns may fail, each in its own way, and the error
names the file.  Which texts can be parsed and which patterns can be read is up to the format. -/

section Settings

variable {format : Format} {files : Files}

/-- Patterns can all be read, or one of them is no pattern of the dialect. -/
theorem compileIn?_cases (dialect : Prompt.Dialect) (sources : List String) :
    ((Prompt.PromptPatterns.compileIn? dialect sources).isSome = true ∧
        ∀ source ∈ sources, (dialect source).isSome = true) ∨
      ((Prompt.PromptPatterns.compileIn? dialect sources).isSome = false ∧
        ∃ source ∈ sources, dialect source = none) := by
  unfold Prompt.PromptPatterns.compileIn?
  induction sources with
  | nil => exact .inl ⟨rfl, nofun⟩
  | cons source sources ih =>
    rw [List.mapM_cons]
    -- one that cannot be read is enough; otherwise the others decide
    cases hsource : dialect source with
    | none => exact .inr ⟨rfl, source, List.mem_cons_self, hsource⟩
    | some finder =>
      rcases ih with ⟨hall, hdialect⟩ | ⟨hnone, other, hother, hinvalid⟩
      · refine .inl ⟨?_, List.forall_mem_cons.mpr ⟨by rw [hsource]; rfl, hdialect⟩⟩
        obtain ⟨patterns, hpatterns⟩ := Option.isSome_iff_exists.mp hall
        rw [hpatterns]
        rfl
      · refine .inr ⟨?_, other, List.mem_cons_of_mem _ hother, hinvalid⟩
        rw [Option.isSome_eq_false_iff, Option.isNone_iff_eq_none] at hnone
        rw [hnone]
        rfl

/-- What a file gives. -/
theorem gives_loadFile (path : String) :
    Gives format files (some path)
      ((loadFile format path (files.read path)).map (·, some path)) := by
  rw [loadFile]
  -- the file cannot be read, is no text, is not in the format, or has a pattern that is none
  cases hbytes : files.read path with
  | error e =>
    refine .unreadable fun bytes hread => ?_
    rw [hbytes] at hread
    cases hread
  | ok bytes =>
    simp only [Except.toOption, Option.bind_some]
    cases htext : Text.decode? bytes with
    | none =>
      refine .unreadable fun bytes' hread => ?_
      obtain rfl := Except.ok.inj (hbytes.symm.trans hread)
      exact htext
    | some text =>
      simp only
      cases hparse : format.parse? (String.ofList text) with
      | none => exact .malformed hbytes htext hparse
      | some settings =>
        simp only
        rcases compileIn?_cases format.dialect settings.patterns with
          ⟨hcompiled, hall⟩ | ⟨hcompiled, source, hsource, hinvalid⟩
        · rw [hcompiled, if_pos rfl]
          exact .settings hbytes htext hparse hall
        · rw [hcompiled, if_neg Bool.false_ne_true]
          exact .invalidPattern hbytes htext hparse hsource hinvalid

theorem gives_loadFrom (start : String) (home : Option String) :
    Gives format files (choose? files.isFile start home) (loadFrom format files start home) := by
  unfold loadFrom
  cases choose? files.isFile start home with
  | none => exact .default
  | some path => exact gives_loadFile path

/-- **The settings that are loaded**, from any directory and for any home, in any format and with
any files.  The nearest file is the one that counts, and it counts also when it is no good. -/
theorem lookedUp_loadFrom (format : Format) (files : Files) (start : String)
    (home : Option String) :
    LookedUp format files start home (loadFrom format files start home) := by
  have hchosen : Chosen files.isFile start home (choose? files.isFile start home) :=
    chosen_choose? files.isFile start home
  have hgives : Gives format files (choose? files.isFile start home)
      (loadFrom format files start home) := gives_loadFrom start home
  constructor
  case ends => exact ⟨_, search_ancestors _ start⟩
  case lexical => exact fun above => isAbove_iff
  case chosen => exact ⟨_, hchosen, fun _ hother => hother.unique hchosen⟩
  case gives =>
    intro source hsource
    rw [hsource.unique hchosen]
    exact hgives
  case default_iff =>
    constructor
    · -- only where nothing was chosen is no file named
      intro hdefault
      rw [hdefault] at hgives
      generalize choose? files.isFile start home = source at hchosen hgives
      cases hgives
      cases hchosen with
      | nothing hnone hnothing => exact ⟨hnone, hnothing⟩
    · rintro ⟨hnone, hnothing⟩
      rw [hchosen.unique (.nothing hnone hnothing)] at hgives
      -- with nothing chosen, nothing is read
      generalize loadFrom format files start home = result at hgives
      cases hgives
      rfl

end Settings

/-! ## Section 4: The files of a tree

In a tree there are several ways to write one directory.  Two of them have the same components, and
the file in them is the same one; so distance can be measured in components. -/

namespace InTree

variable {tree : FileTree} {directory : Place}

theorem isName_config : IsName ".saturn" ∧ IsName "config.toml" :=
  ⟨⟨by decide, by decide, by decide, by decide⟩, ⟨by decide, by decide, by decide, by decide⟩⟩

theorem isAbsolute_fileIn (dir : String) : isAbsolute (fileIn dir) = isAbsolute dir := by
  rw [fileIn, isAbsolute_join, isAbsolute_join, isAbsolute_of_isName isName_config.1,
    isAbsolute_of_isName isName_config.2, Bool.false_or, Bool.false_or]

theorem names_fileIn (dir : String) :
    names (fileIn dir) = names dir ++ [".saturn", "config.toml"] := by
  rw [fileIn, names_join _ (isAbsolute_of_isName isName_config.2),
    names_join _ (isAbsolute_of_isName isName_config.1), names_of_isName isName_config.1,
    names_of_isName isName_config.2, List.append_assoc]
  rfl

/-- What the file in a directory is, by the names of the directory. -/
theorem resolve_fileIn_eq_ok_iff (dir : String) (place : Place) :
    tree.resolve directory (fileIn dir) true = .ok place ↔
      ∃ left, Way tree linkLimit (startOf directory dir)
        (names dir ++ [".saturn", "config.toml"]) left place := by
  -- the two names stand at the end of the path, and neither of them is a dot
  have hsteps := steps_join (join dir ".saturn") isName_config.2
  have hfilled : fileIn dir ≠ "" := by
    intro hempty
    rw [← fileIn, hempty] at hsteps
    exact absurd hsteps.symm (List.append_ne_nil_of_right_ne_nil _ (List.cons_ne_nil _ _))
  have hlast : (steps (fileIn dir)).getLast? ≠ some "." := by
    rw [fileIn, hsteps, List.getLast?_concat, ne_eq, Option.some.injEq]
    exact isName_config.2.notDot
  rw [resolve_eq_ok_iff_names hfilled hlast, names_fileIn, startOf, startOf, isAbsolute_fileIn]

/-- **How a directory is written** does not matter for the file in it. -/
theorem isFile_fileIn_congr {dir other : String} (h : components dir = components other) :
    tree.isFile directory (fileIn dir) = tree.isFile directory (fileIn other) := by
  obtain ⟨hroot, hnames⟩ := eq_of_components_eq h
  refine isFile_congr fun place => ?_
  rw [resolve_fileIn_eq_ok_iff, resolve_fileIn_eq_ok_iff, hnames, startOf, startOf, hroot]

/-- Of the directories above `start` that have a configuration file the nearest one has the most
components, however the others are written. -/
theorem nearest {start dir other : String} (h : Nearest (tree.isFile directory) start dir)
    (hother : IsAbove other start) (hfile : tree.isFile directory (fileIn other) = true) :
    components other <+: components dir := by
  obtain ⟨met, hrises, -, heq⟩ := isAbove_iff.mp hother
  rw [← isFile_fileIn_congr heq] at hfile
  exact heq ▸ (h.nearest met hrises hfile).isAbove.begins

/-- Where the search meets no configuration file there is none above `start`, however the
directories are written. -/
theorem none_above {start other : String} (h : NoneAbove (tree.isFile directory) start)
    (hother : IsAbove other start) : tree.isFile directory (fileIn other) = false := by
  obtain ⟨met, hrises, -, heq⟩ := isAbove_iff.mp hother
  rw [← isFile_fileIn_congr heq]
  exact h met hrises

/-- **Which file is used**, by the components of the directories: one from which the program loads
its settings has the most components of all that lie above `start`, or it is the one of the home
directory and none lies above `start`. -/
theorem chosen {start path : String} {home : Option String} {settings : Settings}
    (h : load tree directory start home = .ok (settings, some path)) :
    ∃ dir, path = fileIn dir ∧ tree.isFile directory path = true ∧
      (IsAbove dir start ∧ (∀ other, IsAbove other start →
          tree.isFile directory (fileIn other) = true → components other <+: components dir) ∨
        home = some dir ∧ ∀ other, IsAbove other start →
          tree.isFile directory (fileIn other) = false) := by
  have hlooked := lookedUp_loadFrom .standard (.ofTree tree directory) start home
  obtain ⟨source, hsource, -⟩ := hlooked.chosen
  have hgives := hlooked.gives source hsource
  -- the file that is named is the source that was chosen
  have hpath : source = some path := by
    rw [load] at h
    rw [h] at hgives
    cases hgives
    rfl
  subst hpath
  cases hsource with
  | @nearest dir hnearest =>
    exact ⟨dir, rfl, hnearest.found, .inl ⟨hnearest.rises.isAbove, fun _ => nearest hnearest⟩⟩
  | @home dir hnone hhome hfile =>
    exact ⟨dir, rfl, hfile, .inr ⟨hhome, fun _ => none_above hnone⟩⟩

end InTree

end Overseer.Settings
