import Overseer.Catalog.Backups
import Overseer.Proofs.Text.ByteOrder

/-!
# The Listing of Backups

A directory is enumerated in any order, and its backups are listed in one: the newest first, and
those that are as new by the bytes of their names, the greatest first.  Entries that this order
does not tell apart have the same name, so the listing is the same for every enumeration.

- `DatedName.listedBefore_iff`: the order of a listing
- `IsListing.unique`, `IsListing.of_perm`: one directory has one listing
- `newestFirst_listBackups`: what is listed
-/

namespace Overseer.Catalog

/-! ## Section 1: The order of a listing

Times are compared first and then the bytes of the names.  Within one directory no two entries have
one name, so the order leaves no two of them undecided. -/

namespace DatedName

/-- An entry may stand before another: it is newer, or as new and by the bytes of its name not
less. -/
def MayPrecede (a b : DatedName) : Prop :=
  b.modified < a.modified ∨ b.modified = a.modified ∧ Text.encode b.name ≤ Text.encode a.name

variable {a b c : DatedName}

theorem mayPrecede_iff :
    a.MayPrecede b ↔ b.modified < a.modified ∨ b.modified = a.modified ∧ b.name ≤ a.name := by
  rw [MayPrecede, Text.encode_le_encode_iff]

theorem listedBefore_iff : a.listedBefore b = true ↔ a.MayPrecede b := by
  rw [mayPrecede_iff, listedBefore]
  simp only [Bool.or_eq_true, Bool.and_eq_true, decide_eq_true_eq, beq_iff_eq]
  rw [eq_comm (a := a.modified)]

theorem MayPrecede.trans (hab : a.MayPrecede b) (hbc : b.MayPrecede c) : a.MayPrecede c := by
  rw [mayPrecede_iff] at hab hbc ⊢
  rcases hab with hab | ⟨hab, hnames⟩
  · exact .inl (by omega)
  · rcases hbc with hbc | ⟨hbc, hnames'⟩
    · exact .inl (by omega)
    · exact .inr ⟨hbc.trans hab, hnames'.trans hnames⟩

theorem mayPrecede_total (a b : DatedName) : a.MayPrecede b ∨ b.MayPrecede a := by
  rw [mayPrecede_iff, mayPrecede_iff]
  rcases lt_trichotomy a.modified b.modified with hlt | heq | hlt
  · exact .inr (.inl hlt)
  · rcases le_total a.name b.name with hle | hle
    · exact .inr (.inr ⟨heq, hle⟩)
    · exact .inl (.inr ⟨heq.symm, hle⟩)
  · exact .inl (.inl hlt)

/-- Entries that may stand in either order are the same by name and time. -/
theorem MayPrecede.antisymm (hab : a.MayPrecede b) (hba : b.MayPrecede a) : a = b := by
  rw [mayPrecede_iff] at hab hba
  rcases hab with hab | ⟨htimes, hnames⟩
  · rcases hba with hba | ⟨hba, -⟩
    · exact absurd hab (not_lt_of_gt hba)
    · exact absurd hab (hba ▸ lt_irrefl _)
  · rcases hba with hba | ⟨-, hnames'⟩
    · exact absurd hba (htimes ▸ lt_irrefl _)
    · cases a
      cases b
      rw [mk.injEq]
      exact ⟨hnames'.antisymm hnames, htimes.symm⟩

end DatedName

/-! ## Section 2: The listing of a directory

A listing is a sorted permutation of the backups among the entries.  That there is exactly one is
what makes the result independent of the sorting as well as of the enumeration. -/

/-- The backups of a product among the entries of a directory, in the order of a listing. -/
structure IsListing (kind : BackupKind) (entries listed : List DatedName) : Prop where
  /-- The entries are listed whose names begin with the product's word and with what marks a
  backup, each as often as it is there. -/
  complete : listed.Perm (entries.filter fun e =>
    decide ((kind.word ++ "-backup-").toList <+: e.name.toList))
  /-- Of two entries the one that stands first may precede the other. -/
  sorted : listed.Pairwise DatedName.MayPrecede

variable {kind : BackupKind} {entries other listed : List DatedName}

theorem IsListing.of_perm (h : IsListing kind entries listed) (hperm : other.Perm entries) :
    IsListing kind other listed :=
  ⟨h.complete.trans (hperm.symm.filter _), h.sorted⟩

/-- **One directory has one listing.** -/
theorem IsListing.unique {listed' : List DatedName} (h : IsListing kind entries listed)
    (h' : IsListing kind entries listed') : listed = listed' := by
  have hsame : listed.Perm listed' := h.complete.trans h'.complete.symm
  exact hsame.eq_of_pairwise (fun a b _ _ => DatedName.MayPrecede.antisymm) h.sorted h'.sorted

theorem BackupKind.names_eq (kind : BackupKind) (name : String) :
    kind.names name = decide ((kind.word ++ "-backup-").toList <+: name.toList) := by
  rw [Bool.eq_iff_iff, decide_eq_true_iff, ← List.isPrefixOf_iff_prefix]
  rfl

/-- **Entries have a listing**, and its names are the names of the backups. -/
theorem exists_isListing (kind : BackupKind) (entries : List DatedName) :
    ∃ listed, IsListing kind entries listed ∧ backupNames kind entries = listed.map (·.name) := by
  refine ⟨_, ⟨?complete, ?sorted⟩, rfl⟩
  -- sorting loses no entry and makes none up
  case complete =>
    simp only [BackupKind.names_eq]
    exact List.mergeSort_perm _ _
  case sorted =>
    -- the order of the listing is transitive and total, as sorting asks for
    have htrans (a b c : DatedName) (hab : a.listedBefore b) (hbc : b.listedBefore c) :
        a.listedBefore c := by
      rw [DatedName.listedBefore_iff] at hab hbc ⊢
      exact hab.trans hbc
    have htotal (a b : DatedName) : a.listedBefore b || b.listedBefore a := by
      rw [Bool.or_eq_true, DatedName.listedBefore_iff, DatedName.listedBefore_iff]
      exact DatedName.mayPrecede_total a b
    have hsorted := List.pairwise_mergeSort htrans htotal
      (entries.filter fun e => kind.names e.name)
    exact hsorted.imp DatedName.listedBefore_iff.mp

theorem backupNames_of_isListing (h : IsListing kind entries listed) :
    backupNames kind entries = listed.map (·.name) := by
  obtain ⟨listed', h', hnames⟩ := exists_isListing kind entries
  rw [hnames, h.unique h']

/-- The order in which the entries are enumerated does not show. -/
theorem backupNames_of_perm (kind : BackupKind) (hperm : other.Perm entries) :
    backupNames kind other = backupNames kind entries := by
  obtain ⟨listed, h, hnames⟩ := exists_isListing kind entries
  rw [hnames, backupNames_of_isListing (h.of_perm hperm)]

/-! ## Section 3: The backups in a home directory

A directory that cannot be enumerated has no listing, and is an error; one with no backups in it has
an empty one. -/

/-- What a directory holds, as far as it is listed. -/
def dated (entries : List (String × FileNode)) : List DatedName :=
  entries.map fun (name, node) => ⟨name, node.modified⟩

theorem listBackups_of_list {tree : FileTree} {directory : Place} {home : String}
    {entries : List (String × FileNode)} (h : tree.list directory home = .ok entries) :
    listBackups tree directory home kind = .ok (backupNames kind (dated entries)) := by
  rw [listBackups, h]
  rfl

/-- **The backups are listed with the newest first**, each once for its entry, and the same for
each order in which the entries are enumerated. -/
theorem newestFirst_listBackups (tree : FileTree) (directory : Place) (home : String)
    (kind : BackupKind) (entries : List (String × FileNode))
    (hentries : tree.list directory home = .ok entries) :
    (∃ listed, IsListing kind (dated entries) listed ∧
      listBackups tree directory home kind = .ok (listed.map (·.name))) ∧
    ∀ (tree' : FileTree) (directory' : Place) (home' : String)
      (entries' : List (String × FileNode)), tree'.list directory' home' = .ok entries' →
        entries'.Perm entries →
        listBackups tree' directory' home' kind = listBackups tree directory home kind := by
  constructor
  · obtain ⟨listed, hlisting, hnames⟩ := exists_isListing kind (dated entries)
    refine ⟨listed, hlisting, ?_⟩
    rw [listBackups_of_list hentries, hnames]
  · intro tree' directory' home' entries' hentries' hperm
    -- two enumerations give the same dates and names in another order, and sorted they are the same
    have hdated : (dated entries').Perm (dated entries) := hperm.map _
    rw [listBackups_of_list hentries, listBackups_of_list hentries',
      backupNames_of_perm kind hdated]

/-- A tree with entries at its root and nothing else. -/
def flatTree (entries : List (String × FileNode)) : FileTree :=
  ⟨entries.map fun (name, node) => ([name], node)⟩

/-- Any entries in any order are what some directory is enumerated as. -/
theorem list_flatTree (entries : List (String × FileNode)) :
    (flatTree entries).list [] "/" = .ok entries := by
  have hresolve : (flatTree entries).resolve [] "/" true = .ok [] := by
    simp [FileTree.resolve, FileTree.steps, Path.splitSlashes, Text.splitAtMarks, Text.partsAround,
      FileTree.walk, Path.isAbsolute]
  unfold FileTree.list
  rw [hresolve]
  show Except.ok ((flatTree entries).nodes.filterMap _) = _
  rw [flatTree, List.filterMap_map]
  exact congrArg Except.ok List.filterMap_some

/-- Backups of two products.  Two of one product are as old as each other, and older than the time
that is counted from. -/
def twinEntries : List (String × FileNode) :=
  [("saturn-backup-3", ⟨.directory, 0o755, 9⟩), ("pihpsdr-backup-1", ⟨.directory, 0o755, -5⟩),
    ("pihpsdr-backup-0", ⟨.directory, 0o755, 7⟩), ("pihpsdr-backup-2", ⟨.file [], 0o644, -5⟩)]

theorem backupNames_twinEntries : backupNames .pihpsdr (dated twinEntries) =
    ["pihpsdr-backup-0", "pihpsdr-backup-2", "pihpsdr-backup-1"] := by
  have hlisting : IsListing .pihpsdr (dated twinEntries)
      [⟨"pihpsdr-backup-0", 7⟩, ⟨"pihpsdr-backup-2", -5⟩, ⟨"pihpsdr-backup-1", -5⟩] := by
    constructor
    case complete => decide +kernel
    case sorted =>
      have hsorted : List.Pairwise (fun a b => DatedName.listedBefore a b = true)
          [⟨"pihpsdr-backup-0", 7⟩, ⟨"pihpsdr-backup-2", -5⟩, ⟨"pihpsdr-backup-1", -5⟩] := by
        decide +kernel
      exact hsorted.imp DatedName.listedBefore_iff.mp
  exact backupNames_of_isListing hlisting

/-- The twins are listed by their names, also if they are enumerated the other way round. -/
theorem newestFirst_twinEntries :
    (flatTree twinEntries).list [] "/" = .ok twinEntries ∧
      (∃ listed, IsListing .pihpsdr (dated twinEntries) listed ∧
        listBackups (flatTree twinEntries) [] "/" .pihpsdr = .ok (listed.map (·.name))) ∧
      listBackups (flatTree twinEntries.reverse) [] "/" .pihpsdr =
        .ok ["pihpsdr-backup-0", "pihpsdr-backup-2", "pihpsdr-backup-1"] := by
  have hlist := list_flatTree twinEntries
  obtain ⟨hlisting, hsame⟩ :=
    newestFirst_listBackups (flatTree twinEntries) [] "/" .pihpsdr twinEntries hlist
  refine ⟨hlist, hlisting, ?_⟩
  rw [hsame _ _ _ _ (list_flatTree twinEntries.reverse) (List.reverse_perm twinEntries),
    listBackups_of_list hlist, backupNames_twinEntries]

end Overseer.Catalog
