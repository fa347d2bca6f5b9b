import Overseer.Host.Basic
import Overseer.Proofs.Catalog.Admission
import Overseer.Proofs.Catalog.Consent
import Overseer.Proofs.FileTree.HomePaths
import Overseer.Proofs.FileTree.Ways

/-!
# The Path of a Script That Runs

The path of a script is checked from the directory of the host, and the command that runs the
script names it by the same path but runs in the directory of the script.  A path that begins at
the root leads to the same file from everywhere.  Any other path must lead back when it is followed
again from the directory in it.

- `isAbsolute_path`: the scripts whose paths begin at the root
- `NamesScript`: the command names the file that was checked
- `LeadsBack`: a path that may be followed again
- `leadsBack_iff_levels`: without links, it goes down as many levels as it goes up
- `namesScript_command_iff`: which scripts are found by their commands
-/

namespace Overseer.Catalog

open FileTree Overseer.Path

/-! ## Section 1: Paths from the root

The path of a script is put together from the home, the directory of the entry and its file, and
each of them may begin at the root by itself.  The last one that does decides. -/

/-- **A script is found from the root** when the directory of its entry begins there, or when the
home does and the directory is the home or is written below it. -/
theorem isAbsolute_path {entry : ScriptEntry} {home : String}
    (h : isAbsolute entry.directory = true ∨ isAbsolute home = true ∧
      (entry.directory = "~" ∨ ['~', '/'] <+: entry.directory.toList)) :
    isAbsolute (entry.path home) = true := by
  rw [ScriptEntry.path, isAbsolute_join, Bool.or_eq_true]
  right
  -- the directory begins at the root, is the home itself, or is written below it
  rcases h with habsolute | ⟨hhome, hhomely | ⟨rest, hbelow⟩⟩
  · -- a path from the root is not written below the home
    have hother : ∀ rest, entry.directory.toList ≠ '~' :: rest := by
      intro rest hcons
      rw [isAbsolute, hcons, List.head?_cons] at habsolute
      exact absurd habsolute (by decide)
    rwa [expandHome_of_ne (fun heq => hother [] (congrArg String.toList heq))
      fun rest heq => hother _ ((congrArg String.toList heq).trans (toList_below rest))]
  · rw [hhomely]
    exact hhome
  · have hdirectory : entry.directory = "~/" ++ String.ofList rest := by
      rw [← String.toList_inj, toList_below, String.toList_ofList, ← hbelow]
      rfl
    rw [hdirectory, expandHome_below, isAbsolute_join, hhome, Bool.or_true]

/-! ## Section 2: Paths that lead back

Followed a second time, a path begins at the place to which its directory has led.  With links in
the tree anything may come of that; without them it is a matter of counting levels. -/

variable {tree : FileTree} {directory : Place} {path : String}

/-- A path that leads to the same file again from the directory in it. -/
def LeadsBack (tree : FileTree) (directory : Place) (path : String) : Prop :=
  ∃ up place, parent? path = some up ∧ tree.resolve directory up true = .ok place ∧
    tree.resolve place path true = tree.resolve directory path true

/-- Going up and down again from where that has led, one comes to the same place when one has gone
down as far as up, or when going up ends at the root both times. -/
theorem take_append_iff (place : Place) (levels : Nat) (downs : List String) :
    (place.take (place.length - levels) ++ downs).take
        ((place.take (place.length - levels) ++ downs).length - levels) =
      place.take (place.length - levels) ↔
      downs.length = levels ∨ place.length ≤ levels ∧ downs.length ≤ levels := by
  have hlength : (place.take (place.length - levels)).length = place.length - levels := by
    rw [List.length_take]
    omega
  -- behind the way up, as many names are left as the length of the place allows
  constructor
  · intro h
    have hlengths := congrArg List.length h
    rw [List.length_take, List.length_append, hlength] at hlengths
    omega
  · intro h
    refine List.take_left' ?_
    rw [List.length_append, hlength]
    omega

/-- **Without links**, a path that goes up some levels and then down leads back exactly when it goes
down as many levels as it has gone up, the file apart, or when going up ends at the root. -/
theorem leadsBack_iff_levels {up name : String} {levels : Nat} {downs : List String} {file : Place}
    (hlinkless : Linkless tree) (hdirectory : Standing tree directory)
    (hrelative : isAbsolute path = false) (hup : parent? path = some up) (hfilled : up ≠ "")
    (hnames : names path = List.replicate levels ".." ++ (downs ++ [name]))
    (hdowns : ".." ∉ downs ++ [name]) (hfile : tree.resolve directory path true = .ok file) :
    LeadsBack tree directory path ↔
      downs.length = levels ∨ directory.length ≤ levels ∧ downs.length ≤ levels := by
  obtain ⟨hbegins, hfront⟩ := of_parent? hup
  have hnonempty : names path ≠ [] := by
    rw [hnames]
    simp
  -- where the directory in the path is
  obtain ⟨place, hplace, hthere⟩ := resolve_parent hup hfilled hnonempty hfile
  have hnamesUp : names up = List.replicate levels ".." ++ downs := by
    rw [hfront, hnames, ← List.append_assoc, List.dropLast_concat]
  have hplaceEq := eq_of_resolve hlinkless (hbegins.trans hrelative) hnamesUp
    (fun hup => hdowns (List.mem_append_left _ hup)) hplace
  rw [← take_append_iff, ← hplaceEq]
  constructor
  · rintro ⟨up', place', hup', hplace', hback⟩
    obtain rfl := Option.some.inj (hup.symm.trans hup')
    obtain rfl := Except.ok.inj (hplace.symm.trans hplace')
    rw [hfile] at hback
    have hfirst := eq_of_resolve hlinkless hrelative hnames hdowns hfile
    exact List.append_cancel_right
      ((eq_of_resolve hlinkless hrelative hnames hdowns hback).symm.trans hfirst)
  · intro hreturns
    refine ⟨up, place, hup, hplace, ?_⟩
    obtain ⟨hpath, left, hsteps⟩ := (resolve_eq_ok_iff directory path).mp hfile
    obtain ⟨left', hway⟩ := way_of_resolve hfile
    rw [startOf_of_relative hrelative, hnames] at hway
    obtain ⟨between, middle, hups, hdown⟩ := hway.exists_of_append
    obtain ⟨rfl, rfl⟩ := hups.of_ups
    -- up from the directory in the path, and down on the way that is known
    have hagain : Way tree linkLimit place (List.replicate levels "..") linkLimit _ :=
      .ups (standing_resolve hdirectory hplace) hthere levels
    rw [hreturns] at hagain
    have hwhole := hagain.append hdown
    rw [← hnames, ← startOf_of_relative hrelative place] at hwhole
    rw [hfile]
    exact resolve_of_way hpath hwhole hsteps.isOpenAt_last

/-! ## Section 3: Commands that name their scripts

The path is looked up by the host, where its directory is, and by the shell that runs the command,
in the directory of the script.  The two agree at once where the path begins at the root. -/

/-- The command, where it runs, names the file that the path of the script leads to from the
directory of the host. -/
def NamesScript (h : Host) (script : Script) (command : Command) : Prop :=
  ∃ word place file, scriptWord? script.kind command = some word ∧
    h.directoryFor command = .ok place ∧
    h.machine.tree.resolve h.directory script.path true = .ok file ∧
    h.machine.tree.resolve place word true = .ok file

/-- The directory of a command that names one is where its path leads, if that is open. -/
theorem directoryFor_eq_ok_iff {h : Host} {command : Command} {up : String} {place : Place}
    (hup : command.workDirectory = some up) :
    h.directoryFor command = .ok place ↔
      h.machine.tree.resolve h.directory up true = .ok place ∧
        h.machine.tree.isOpenAt place = true := by
  rw [Host.directoryFor, hup]
  -- the directory has to be there, and to be one that may be entered
  cases hresolve : h.machine.tree.resolve h.directory up true with
  | error e => simp [Bind.bind, Except.bind, hresolve]
  | ok found =>
    simp only [Bind.bind, Except.bind, hresolve, Except.ok.injEq]
    split
    case isTrue hdirectory =>
      rw [Except.ok.injEq]
      constructor
      · rintro rfl
        exact ⟨rfl, hdirectory⟩
      · exact fun hboth => hboth.1
    case isFalse hdirectory =>
      refine iff_of_false nofun ?_
      rintro ⟨rfl, hboth⟩
      exact hdirectory hboth

theorem resolve_of_isAbsolute (habsolute : isAbsolute path = true) (place place' : Place) :
    tree.resolve place path true = tree.resolve place' path true := by
  rw [resolve, resolve, if_pos habsolute, if_pos habsolute]

/-- **A command names its script** when the path begins at the root or leads back. -/
theorem namesScript_iff_of_command {h : Host} {script : Script} {command : Command}
    (hfile : h.machine.tree.isFile h.directory script.path = true)
    (hword : scriptWord? script.kind command = some script.path)
    (hwork : command.workDirectory = parent? script.path) :
    NamesScript h script command ↔
      isAbsolute script.path = true ∨ LeadsBack h.machine.tree h.directory script.path := by
  obtain ⟨file, hresolve⟩ := exists_resolve_of_isFile hfile
  have hnames : NamesScript h script command ↔ ∃ place, h.directoryFor command = .ok place ∧
      h.machine.tree.resolve place script.path true = .ok file := by
    constructor
    · rintro ⟨word, place, other, hnamed, hplace, hother, hleads⟩
      obtain rfl := Option.some.inj (hword.symm.trans hnamed)
      rw [hresolve] at hother
      exact ⟨place, hplace, hleads.trans hother.symm⟩
    · rintro ⟨place, hplace, hleads⟩
      exact ⟨script.path, place, file, hword, hplace, hresolve, hleads⟩
  rw [hnames]
  cases habsolute : isAbsolute script.path with
  | true =>
    refine iff_of_true ?_ (.inl rfl)
    -- the file is found from wherever the command runs, and it runs somewhere
    have hsame : ∀ place, h.machine.tree.resolve place script.path true = .ok file :=
      fun place => (resolve_of_isAbsolute habsolute place h.directory).trans hresolve
    rcases parent?_cases script.path with ⟨hnone, -⟩ | ⟨up, hup, hbegins, -, hnamed⟩
    · refine ⟨h.directory, ?_, hsame _⟩
      rw [Host.directoryFor, hwork, hnone]
    · have hfilled : up ≠ "" := by
        rintro rfl
        rw [habsolute] at hbegins
        exact absurd hbegins (by decide)
      obtain ⟨place, hplace, hdirectory⟩ := resolve_parent hup hfilled (hnamed habsolute) hresolve
      exact ⟨place, (directoryFor_eq_ok_iff (hwork.trans hup)).mpr ⟨hplace, hdirectory⟩, hsame _⟩
  | false =>
    rw [or_iff_right Bool.false_ne_true, LeadsBack, hresolve]
    rcases parent?_cases script.path with ⟨-, hempty⟩ | ⟨up, hup, -⟩
    · -- the empty path leads nowhere
      rcases hempty with hempty | ⟨habsolute', -⟩
      · exact absurd hempty ((resolve_eq_ok_iff ..).mp hresolve).1
      · rw [habsolute] at habsolute'
        cases habsolute'
    · constructor
      · rintro ⟨place, hplace, hleads⟩
        exact ⟨up, place, hup, ((directoryFor_eq_ok_iff (hwork.trans hup)).mp hplace).1, hleads⟩
      · rintro ⟨up', place, hup', hplace, hleads⟩
        obtain rfl := Option.some.inj (hup.symm.trans hup')
        have hdirectory := isOpenAt_of_resolve habsolute hleads
        exact ⟨place, (directoryFor_eq_ok_iff (hwork.trans hup)).mpr ⟨hplace, hdirectory⟩, hleads⟩

/-- The scripts of a catalog come from its entries. -/
theorem exists_entry_of_mem_load {home : String} {entries : List ScriptEntry} {script : Script}
    (h : script ∈ (load tree directory home entries).scripts) :
    ∃ entry ∈ entries, check tree directory home entry = .ok script := by
  induction entries with
  | nil => exact absurd h List.not_mem_nil
  | cons entry entries ih =>
    -- what is among the scripts behind the first entry comes from one of the others
    have hrest : script ∈ (load tree directory home entries).scripts →
        ∃ other ∈ entry :: entries, check tree directory home other = .ok script := by
      intro hscript
      obtain ⟨other, hother, hcheck⟩ := ih hscript
      exact ⟨other, List.mem_cons_of_mem _ hother, hcheck⟩
    rw [load_cons] at h
    cases hcheck : check tree directory home entry with
    -- an entry that is turned away adds nothing
    | error why =>
      rw [hcheck] at h
      exact hrest h
    | ok found =>
      rw [hcheck] at h
      rcases List.mem_cons.mp h with rfl | hscript
      · exact ⟨entry, List.mem_cons_self, hcheck⟩
      · exact hrest hscript

/-- The path of a script leads to a file. -/
theorem isFile_of_mem_load {home : String} {entries : List ScriptEntry} {script : Script}
    (h : script ∈ (load tree directory home entries).scripts) :
    tree.isFile directory script.path = true := by
  obtain ⟨entry, -, hcheck⟩ := exists_entry_of_mem_load h
  rcases check_cases tree directory home entry with
    ⟨found, hfound, -, hpath, hfile, -⟩ | ⟨herror, -⟩ | ⟨herror, -⟩ | ⟨herror, -⟩
  · rw [hcheck, Except.ok.injEq] at hfound
    rw [hfound, hpath]
    exact hfile
  all_goals
    rw [hcheck] at herror
    cases herror

theorem kind_of_check {home : String} {entry : ScriptEntry} {script : Script}
    (h : check tree directory home entry = .ok script) :
    script.kind = ScriptKind.ofFilename entry.filename := by
  simp only [check] at h
  split at h
  · cases h
  · split at h
    · cases h
    · split at h
      · cases h
      · cases h
        rfl

/-- A home with a script in a directory. -/
def nestedTree : FileTree :=
  ⟨[(["home"], ⟨.directory, 0o755, 0⟩), (["home", "scripts"], ⟨.directory, 0o755, 0⟩),
    (["home", "scripts", "job.sh"], ⟨.file [], 0o755, 0⟩)]⟩

theorem resolve_nestedTree :
    nestedTree.resolve ["home"] "/home" true = .ok ["home"] ∧
      nestedTree.resolve ["home"] "/home/scripts/job.sh" true = .ok ["home", "scripts", "job.sh"] ∧
      nestedTree.resolve ["home"] "scripts/job.sh" true = .ok ["home", "scripts", "job.sh"] ∧
      nestedTree.resolve ["home"] "scripts" true = .ok ["home", "scripts"] ∧
      nestedTree.resolve ["home", "scripts"] "scripts/job.sh" true = .error .notFound := by
  have hshort : ¬ nameLimit < "home".utf8ByteSize ∧ ¬ nameLimit < "scripts".utf8ByteSize ∧
      ¬ nameLimit < "job.sh".utf8ByteSize := by
    decide
  simp [resolve, steps, splitSlashes, Text.splitAtMarks, Text.partsAround, walk, isOpenAt, permits,
    FileNode.isOwnerExecutable, at?, nestedTree, isAbsolute, hshort]

/-- An entry with the script is loaded, however its directory is written. -/
theorem exists_mem_load_nestedTree {dirPath scriptPath : String}
    (hpath : (plainEntry dirPath "job.sh").path "/home" = scriptPath)
    (hresolve : nestedTree.resolve ["home"] scriptPath true = .ok ["home", "scripts", "job.sh"]) :
    ∃ script ∈ (load nestedTree ["home"] "/home" [plainEntry dirPath "job.sh"]).scripts,
      script.path = scriptPath ∧ script.kind ≠ .view := by
  -- the path leads to the file, which is executable and lies below the home
  have hfind : FileTree.find nestedTree ["home"] scriptPath = .ok ⟨.file [], 0o755, 0⟩ := by
    rw [FileTree.find, hresolve]
    rfl
  have hfile : nestedTree.isFile ["home"] scriptPath = true := by
    rw [isFile, hfind]
    rfl
  have hlaunchable : Launchable nestedTree ["home"] "/home" (plainEntry dirPath "job.sh") := by
    right
    rw [hpath, isExecutable, hfind]
    rfl
  have htrusted : Trusted nestedTree ["home"] "/home" scriptPath := by
    have hmem : "/home" ∈ trustedDirectories "/home" := by simp [trustedDirectories]
    refine List.any_eq_true.mpr ⟨_, List.mem_map_of_mem hmem, ?_⟩
    rw [realPath_of_resolve hresolve, realPath_of_resolve resolve_nestedTree.1]
    decide
  -- so the check lets it in, since each of its reasons to turn it away is excluded
  rcases check_cases nestedTree ["home"] "/home" (plainEntry dirPath "job.sh") with
    ⟨script, hcheck, -, hscript, -⟩ | ⟨-, hno⟩ | ⟨-, -, hno⟩ | ⟨-, -, -, hno⟩
  · refine ⟨script, ?_, hscript.trans hpath, ?_⟩
    · rw [load_cons, hcheck]
      exact List.mem_cons_self
    · have hshell : ScriptKind.ofFilename "job.sh" ≠ .view := by decide
      rw [kind_of_check hcheck]
      exact hshell
  · rw [hpath, hfile] at hno
    cases hno
  · exact absurd hlaunchable hno
  · exact absurd (hpath ▸ htrusted) hno

/-- **The command of a script** of the catalog names the file that was checked, exactly when the
path of the script begins at the root or leads back.  Any other path is followed twice, the second
time from the directory of the script. -/
theorem namesScript_command_iff (h : Host) (home : String) (entries : List ScriptEntry)
    (script : Script) (hscript : script ∈ (load h.machine.tree h.directory home entries).scripts)
    (hkind : script.kind ≠ .view) (launcher : Launcher) (flags : List String)
    (backupDirectory : Option String) :
    ∃ command,
      launcher.command h.machine.tree h.directory script flags backupDirectory = .ok command ∧
      (NamesScript h script command ↔
        isAbsolute script.path = true ∨ LeadsBack h.machine.tree h.directory script.path) := by
  have hfile := isFile_of_mem_load hscript
  obtain ⟨command, hcommand, hword, hwork, -⟩ :=
    launcher.exists_command hfile hkind flags backupDirectory
  exact ⟨command, hcommand, namesScript_iff_of_command hfile hword hwork⟩

/-- A directory below the home. -/
theorem namesScript_command_belowHome :
    ∃ script ∈ (load nestedTree ["home"] "/home" [plainEntry "~/scripts" "job.sh"]).scripts,
      script.kind ≠ .view ∧
      ∃ command, (Launcher.mk "python3" 1000 1000 true).command nestedTree ["home"] script ["-y"]
          (some "/backups") = .ok command ∧
        NamesScript (.new nestedTree ["home"] []) script command := by
  have hpath : (plainEntry "~/scripts" "job.sh").path "/home" = "/home/scripts/job.sh" := by decide
  obtain ⟨script, hscript, hscriptPath, hkind⟩ :=
    exists_mem_load_nestedTree hpath resolve_nestedTree.2.1
  obtain ⟨command, hcommand, hnames⟩ := namesScript_command_iff (.new nestedTree ["home"] [])
    "/home" [plainEntry "~/scripts" "job.sh"] script hscript hkind
    (Launcher.mk "python3" 1000 1000 true) ["-y"] (some "/backups")
  -- the home is put in front, so the path begins at the root
  have habsolute : isAbsolute script.path = true := by
    rw [hscriptPath, ← hpath]
    exact isAbsolute_path (.inr ⟨by decide, .inr (by decide)⟩)
  exact ⟨script, hscript, hkind, command, hcommand, hnames.mpr (.inl habsolute)⟩

/-- A script in a directory below that of the host is looked for once more below its own. -/
theorem not_namesScript_nested :
    ∃ script ∈ (load nestedTree ["home"] "/home" [plainEntry "scripts" "job.sh"]).scripts,
      script.kind ≠ .view ∧
      ∃ command, (Launcher.mk "python3" 1000 1000 true).command nestedTree ["home"] script [] none
          = .ok command ∧
        ¬ NamesScript (.new nestedTree ["home"] []) script command := by
  obtain ⟨-, -, hresolve, hup, hagain⟩ := resolve_nestedTree
  have hpath : (plainEntry "scripts" "job.sh").path "/home" = "scripts/job.sh" := by decide
  obtain ⟨script, hscript, hscriptPath, hkind⟩ := exists_mem_load_nestedTree hpath hresolve
  have hfile := isFile_of_mem_load hscript
  obtain ⟨command, hcommand, hword, hwork, -⟩ :=
    (Launcher.mk "python3" 1000 1000 true).exists_command hfile hkind [] none
  refine ⟨script, hscript, hkind, command, hcommand, ?_⟩
  -- the working directory is that of the script, and the word of the command is its relative path
  rw [namesScript_iff_of_command (h := .new nestedTree ["home"] []) hfile hword hwork, hscriptPath]
  rintro (habsolute | ⟨up, place, hparent, hplace, hback⟩)
  · exact absurd habsolute (by decide)
  · -- there the same words lead to nothing
    have hscripts : parent? "scripts/job.sh" = some "scripts" := by decide
    obtain rfl := Option.some.inj (hscripts.symm.trans hparent)
    obtain rfl := Except.ok.inj (hup.symm.trans hplace)
    have hmissing : nestedTree.resolve ["home", "scripts"] "scripts/job.sh" true =
        nestedTree.resolve ["home"] "scripts/job.sh" true := hback
    rw [hagain, hresolve] at hmissing
    cases hmissing

end Overseer.Catalog
