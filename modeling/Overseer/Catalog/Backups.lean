import Overseer.Catalog.Basic

/-!
# Backups

The backups of a product are the entries of the home directory whose names begin with the
product's name; they are listed with the newest first.

Two backups may be as new as each other.  Then the names decide, so that a listing does not depend
on the order in which a directory is enumerated.
-/

namespace Overseer.Catalog

/-- A product that makes backups. -/
inductive BackupKind where
  | pihpsdr
  | saturn
deriving DecidableEq

namespace BackupKind

/-- The word for a product. -/
def word : BackupKind → String
  | .pihpsdr => "pihpsdr"
  | .saturn => "saturn"

/-- The product with a word. -/
def ofWord (word : String) : Except CatalogError BackupKind :=
  if word = "pihpsdr" then .ok .pihpsdr
  else if word = "saturn" then .ok .saturn
  else .error (.invalidBackupKind word)

/-- What the names of the backups of a product begin with. -/
def nameStart (kind : BackupKind) : String := kind.word ++ "-backup-"

/-- Whether a name is that of a backup of a product. -/
def names (kind : BackupKind) (name : String) : Bool := kind.nameStart.toList.isPrefixOf name.toList

end BackupKind

/-- An entry of a directory with the time of its last change.  What kind of entry it is does not
matter. -/
structure DatedName where
  name : String
  modified : Int
deriving DecidableEq

/-- Whether an entry comes before another in a listing: it is newer, or as new and not less by its
name. -/
def DatedName.listedBefore (a b : DatedName) : Bool :=
  b.modified < a.modified || (a.modified == b.modified && decide (b.name ≤ a.name))

/-- The names of the backups among the entries of a directory, the newest first.  The names decide
between entries that are as new as each other. -/
def backupNames (kind : BackupKind) (entries : List DatedName) : List String :=
  ((entries.filter fun e => kind.names e.name).mergeSort DatedName.listedBefore).map (·.name)

/-- The names of the backups in a home directory, the newest first. -/
def listBackups (tree : FileTree) (directory : Place) (home : String) (kind : BackupKind) :
    Except CatalogError (List String) :=
  match tree.list directory home with
  | .ok entries => .ok (backupNames kind (entries.map fun (name, node) => ⟨name, node.modified⟩))
  | .error e => .error (.io e.message)

end Overseer.Catalog
