import Overseer.Catalog.Launcher

/-!
# Consent to a Prompt

A script that is run with a flag for yes or for no answers its prompts itself, so the command to
run it carries that answer.  The answer is looked for among all arguments of the script, and the
backup directory is one of them: it stands behind the flags, and decides when no flag does.

- `Launcher.exists_command`: the command that runs a script
- `FirstAnswer`: the answer of the first word that gives one
- `Launcher.autoAnswer_command_iff`: where the answer of a command comes from
-/

namespace Overseer.Catalog

/-! ## Section 1: The command that runs a script

A script is run by itself, by a shell or by an interpreter, and a page is not run at all.  In each
case the words behind the name of the script are its arguments. -/

/-- The word of a command that names the script which it runs. -/
def scriptWord? (kind : ScriptKind) (command : Command) : Option String :=
  match kind with
  | .shell | .python => command.arguments.head?
  | .executable => some command.program
  | .view => none

namespace Launcher

/-- **A script that is run** has a command, as long as it is a file. -/
theorem exists_command (launcher : Launcher) {tree : FileTree} {directory : Place} {script : Script}
    (hfile : tree.isFile directory script.path = true) (hkind : script.kind ≠ .view)
    (flags : List String) (backupDirectory : Option String) :
    ∃ command, launcher.command tree directory script flags backupDirectory = .ok command ∧
      scriptWord? script.kind command = some script.path ∧
      command.workDirectory = Path.parent? script.path ∧
      command.autoAnswer = autoAnswerFor (arguments flags backupDirectory) := by
  rw [command]
  simp only [hfile, Bool.not_true, Bool.false_eq_true, if_false, invocation?]
  -- a script that is viewed is not run; the others get their interpreter or themselves
  cases hkinds : script.kind with
  | shell => exact ⟨_, rfl, rfl, rfl, rfl⟩
  | python => exact ⟨_, rfl, rfl, rfl, rfl⟩
  | executable => exact ⟨_, rfl, rfl, rfl, rfl⟩
  | view => exact absurd hkinds hkind

end Launcher

/-! ## Section 2: The answer among words

Only two words count, and the first of them decides.  A word that holds one of them in the middle,
or a flag with a value behind it, is neither. -/

/-- The answer that words give: that of the first one for yes or for no. -/
inductive FirstAnswer : List String → Option Answer → Prop where
  | yes {before after : List String} (hfirst : "-y" ∉ before ∧ "-n" ∉ before) :
      FirstAnswer (before ++ "-y" :: after) (some .yes)
  | no {before after : List String} (hfirst : "-y" ∉ before ∧ "-n" ∉ before) :
      FirstAnswer (before ++ "-n" :: after) (some .no)
  | none {words : List String} (hnone : "-y" ∉ words ∧ "-n" ∉ words) : FirstAnswer words none

/-- Words give no answer exactly if neither of the two words is among them. -/
theorem autoAnswerFor_eq_none_iff (words : List String) :
    autoAnswerFor words = none ↔ "-y" ∉ words ∧ "-n" ∉ words := by
  rw [autoAnswerFor, List.findSome?_eq_none_iff]
  constructor
  · -- either word would give an answer
    intro h
    constructor
    · intro hmem
      exact absurd (h _ hmem) (by decide)
    · intro hmem
      exact absurd (h _ hmem) (by decide)
  · -- no word is one of them, so no word gives an answer
    rintro ⟨hyes, hno⟩ word hword
    have hnotYes : word ≠ "-y" := fun heq => hyes (heq ▸ hword)
    have hnotNo : word ≠ "-n" := fun heq => hno (heq ▸ hword)
    rw [if_neg hnotYes, if_neg hnotNo]

theorem autoAnswerFor_append (first second : List String) :
    autoAnswerFor (first ++ second) = (autoAnswerFor first).or (autoAnswerFor second) :=
  List.findSome?_append

/-- **The answer among words** is the first one. -/
theorem firstAnswer_iff (words : List String) (answer : Option Answer) :
    FirstAnswer words answer ↔ autoAnswerFor words = answer := by
  constructor
  · intro h
    -- up to the first word there is no answer, and it gives the one that it stands for
    cases h with
    | yes hfirst =>
      rw [autoAnswerFor_append, (autoAnswerFor_eq_none_iff _).mpr hfirst]
      rfl
    | no hfirst =>
      rw [autoAnswerFor_append, (autoAnswerFor_eq_none_iff _).mpr hfirst]
      rfl
    | none hnone => exact (autoAnswerFor_eq_none_iff _).mpr hnone
  · rintro rfl
    -- the answer comes from some word, and from none in front of it
    cases hanswer : autoAnswerFor words with
    | none => exact .none ((autoAnswerFor_eq_none_iff _).mp hanswer)
    | some answer =>
      rw [autoAnswerFor, List.findSome?_eq_some_iff] at hanswer
      obtain ⟨before, word, after, rfl, hword, hbefore⟩ := hanswer
      have hfirst : "-y" ∉ before ∧ "-n" ∉ before := by
        refine (autoAnswerFor_eq_none_iff before).mp ?_
        rw [autoAnswerFor, List.findSome?_eq_none_iff]
        exact hbefore
      split at hword
      case isTrue hyes =>
        cases hword
        exact hyes ▸ .yes hfirst
      case isFalse =>
        split at hword
        case isTrue hno =>
          cases hword
          exact hno ▸ .no hfirst
        case isFalse => cases hword

/-! ## Section 3: The answer of a command

The backup directory is appended as two words, and the second of them is looked at like any other
one. -/

/-- Whether the backup directory answers in the stead of the flags: it reads like a flag for yes or
for no, and none of the flags is one. -/
def Sways (flags : List String) (backupDirectory : Option String) : Prop :=
  ("-y" ∉ flags ∧ "-n" ∉ flags) ∧ (backupDirectory = some "-y" ∨ backupDirectory = some "-n")

namespace Launcher

/-- The words of the backup directory behind the flags are looked at as the directory itself is. -/
theorem autoAnswerFor_arguments (flags : List String) (backupDirectory : Option String) :
    autoAnswerFor (arguments flags backupDirectory) =
      autoAnswerFor (flags ++ backupDirectory.toList) := by
  cases backupDirectory with
  -- an empty directory is left out, and it answers nothing
  | none => rw [arguments, Option.toList_none, List.append_nil]
  | some directory =>
    have hoption : autoAnswerFor ["--backup-dir"] = none := by decide
    rw [arguments, Option.toList_some]
    split
    case isTrue hempty =>
      have hnone : autoAnswerFor [directory] = none := by
        rw [String.isEmpty_iff.mp hempty]
        decide
      rw [autoAnswerFor_append, hnone, Option.or_none]
    case isFalse =>
      rw [← List.singleton_append, autoAnswerFor_append, autoAnswerFor_append, hoption,
        Option.none_or, autoAnswerFor_append]

theorem autoAnswerFor_append_eq_iff (flags : List String) (backupDirectory : Option String) :
    autoAnswerFor (flags ++ backupDirectory.toList) = autoAnswerFor flags ↔
      ¬ Sways flags backupDirectory := by
  rw [autoAnswerFor_append, Sways, ← autoAnswerFor_eq_none_iff]
  cases hflags : autoAnswerFor flags with
  | some answer => simp
  | none =>
    have hdirectory := autoAnswerFor_eq_none_iff backupDirectory.toList
    rw [Option.none_or, and_iff_right rfl, hdirectory]
    cases backupDirectory <;> simp [eq_comm]

/-- A script at the root, and nothing else. -/
def lonelyTree : FileTree := ⟨[(["job.sh"], ⟨.file [], 0o755, 0⟩)]⟩

/-- The script at the root. -/
def lonelyScript : Script :=
  ⟨⟨none, "/", "job.sh", ScriptEntry.defaultCategory, [], none⟩, "/job.sh", .shell, none⟩

theorem isFile_lonelyScript : lonelyTree.isFile [] lonelyScript.path = true := by
  have hshort : ¬ FileTree.nameLimit < "job.sh".utf8ByteSize := by decide
  have hresolve : lonelyTree.resolve [] "/job.sh" true = .ok ["job.sh"] := by
    simp [FileTree.resolve, FileTree.steps, Path.splitSlashes, Text.splitAtMarks, Text.partsAround,
      FileTree.walk, FileTree.at?, lonelyTree, Path.isAbsolute, hshort]
  have hfind : FileTree.find lonelyTree [] "/job.sh" = .ok ⟨.file [], 0o755, 0⟩ := by
    rw [FileTree.find, hresolve]
    rfl
  rw [lonelyScript, FileTree.isFile, hfind]
  rfl

/-- **The answer of a command** is that of the first flag for yes or for no, with the backup
directory taken for one more flag; it is the answer of the flags exactly when the directory does not
sway it. -/
theorem autoAnswer_command_iff (launcher : Launcher) (tree : FileTree) (directory : Place)
    (script : Script) (hfile : tree.isFile directory script.path = true)
    (hkind : script.kind ≠ .view) (flags : List String) (backupDirectory : Option String) :
    ∃ command, launcher.command tree directory script flags backupDirectory = .ok command ∧
      FirstAnswer (flags ++ backupDirectory.toList) command.autoAnswer ∧
      (FirstAnswer flags command.autoAnswer ↔ ¬ Sways flags backupDirectory) := by
  obtain ⟨command, hcommand, -, -, hanswer⟩ :=
    launcher.exists_command hfile hkind flags backupDirectory
  rw [autoAnswerFor_arguments] at hanswer
  refine ⟨command, hcommand, (firstAnswer_iff _ _).mpr hanswer.symm, ?_⟩
  rw [firstAnswer_iff, hanswer, ← autoAnswerFor_append_eq_iff, eq_comm]

/-- A flag decides against a directory that reads like the other one. -/
theorem autoAnswer_command_lonelyScript :
    lonelyTree.isFile [] lonelyScript.path = true ∧ lonelyScript.kind ≠ .view ∧
      ∃ command, (Launcher.mk "python3" 1000 1000 true).command lonelyTree [] lonelyScript
          ["-q", "-n"] (some "-y") = .ok command ∧
        FirstAnswer ["-q", "-n"] command.autoAnswer := by
  have hkind : lonelyScript.kind ≠ .view := by decide
  obtain ⟨command, hcommand, -, hanswer⟩ := autoAnswer_command_iff
    (Launcher.mk "python3" 1000 1000 true) lonelyTree [] lonelyScript isFile_lonelyScript hkind
    ["-q", "-n"] (some "-y")
  have hstays : ¬ Sways ["-q", "-n"] (some "-y") := fun hsways => hsways.1.2 (by decide)
  exact ⟨isFile_lonelyScript, hkind, command, hcommand, hanswer.mpr hstays⟩

/-- A backup directory may consent although no flag does. -/
theorem directory_consents :
    ∃ command, (Launcher.mk "python3" 1000 1000 true).command lonelyTree [] lonelyScript []
          (some "-y") = .ok command ∧
      command.autoAnswer = some .yes ∧ ¬ FirstAnswer [] command.autoAnswer := by
  have hkind : lonelyScript.kind ≠ .view := by decide
  obtain ⟨command, hcommand, -, -, hanswer⟩ :=
    (Launcher.mk "python3" 1000 1000 true).exists_command isFile_lonelyScript hkind [] (some "-y")
  have hyes : command.autoAnswer = some .yes := hanswer
  refine ⟨command, hcommand, hyes, ?_⟩
  rw [firstAnswer_iff, hyes]
  exact nofun

end Launcher

end Overseer.Catalog
