import Overseer.Path

/-!
# File Trees

A tree of directories, files and symbolic links.  A place in the tree is the list of names that
leads to it from the root.  A path is followed name by name; a symbolic link is replaced by its
target, and after forty links the path leads nowhere.

The permissions of the owner count: a step is taken from a directory that may be searched, names are
listed of one that may be read, and an entry is made in one that may be written.

Everything that needs files is given a tree and yields a tree, so that nothing is read or written
behind the back of a statement.  A change of the tree notes the time at the entry and at the
directory that it is in.
-/

namespace Overseer

/-- Why an operation on files failed. -/
inductive FileError where
  | notFound
  /-- A file that is no program. -/
  | noProgram
  | notDirectory
  | isDirectory
  | denied
  | exists
  | tooManyLinks
  | nameTooLong
  | notEmpty
  | invalidArgument
deriving DecidableEq

/-- The number of an error in the table of the operating system. -/
def FileError.number : FileError → Nat
  | .notFound => 2
  | .noProgram => 8
  | .denied => 13
  | .exists => 17
  | .notDirectory => 20
  | .isDirectory => 21
  | .invalidArgument => 22
  | .nameTooLong => 36
  | .notEmpty => 39
  | .tooManyLinks => 40

/-- What the operating system calls an error. -/
def FileError.reason : FileError → String
  | .notFound => "No such file or directory"
  | .noProgram => "Exec format error"
  | .denied => "Permission denied"
  | .exists => "File exists"
  | .notDirectory => "Not a directory"
  | .isDirectory => "Is a directory"
  | .invalidArgument => "Invalid argument"
  | .nameTooLong => "File name too long"
  | .notEmpty => "Directory not empty"
  | .tooManyLinks => "Too many levels of symbolic links"

/-- The text of an error with its number. -/
def FileError.message (e : FileError) : String :=
  e.reason ++ " (os error " ++ toString e.number ++ ")"

/-- A place in a tree: the names from the root on.  It has no dots and no links in it, so each entry
has one place. -/
abbrev Place := List String

/-- What can stand at a place.  Programs that the machine brings along are entries of their own
kind, as are its devices. -/
inductive Entry where
  | file (content : List UInt8)
  | directory
  | link (target : String)
  /-- A program that the machine brings along. -/
  | program (name : String)
  /-- The device that swallows what is written to it and is always at its end. -/
  | sink
  /-- The device that yields zero bytes for ever. -/
  | zeros
deriving DecidableEq

/-- An entry with its permissions and the time of its last change, in milliseconds.  Of the
permissions those of the owner decide what may be done. -/
structure FileNode where
  entry : Entry
  mode : Nat
  modified : Int
deriving DecidableEq

namespace FileNode

/-- Whether the owner may read. -/
def isReadable (node : FileNode) : Bool := node.mode &&& 0o400 != 0

/-- Whether the owner may write. -/
def isWritable (node : FileNode) : Bool := node.mode &&& 0o200 != 0

/-- Whether the owner may execute. -/
def isOwnerExecutable (node : FileNode) : Bool := node.mode &&& 0o100 != 0

end FileNode

/-- A file tree: what stands at each place, the newest entries first.  Everything in it belongs to
the one who reads and writes it. -/
structure FileTree where
  nodes : List (Place × FileNode)

namespace FileTree

/-- The number of symbolic links that a path may lead through. -/
def linkLimit : Nat := 40

/-- The longest name of an entry, in bytes. -/
def nameLimit : Nat := 255

/-- What stands at a place, whether or not a path leads there. -/
def at? (tree : FileTree) (place : Place) : Option FileNode :=
  (tree.nodes.find? fun node => node.1 == place).map (·.2)

/-- Whether a directory stands at a place.  The root always is one. -/
def isDirectoryAt (tree : FileTree) (place : Place) : Bool :=
  place.isEmpty || (tree.at? place).any fun node => node.entry == .directory

/-- Whether a directory stands at a place and its owner may do something with it.  With the root
everything may be done. -/
def permits (tree : FileTree) (allows : FileNode → Bool) (place : Place) : Bool :=
  place.isEmpty || (tree.at? place).any fun node => node.entry == .directory && allows node

@[simp]
theorem permits_root (tree : FileTree) (allows : FileNode → Bool) :
    tree.permits allows [] = true := rfl

/-- Whether a directory that may be searched stands at a place. -/
def isOpenAt (tree : FileTree) (place : Place) : Bool :=
  tree.permits FileNode.isOwnerExecutable place

@[simp]
theorem isOpenAt_root (tree : FileTree) : tree.isOpenAt [] = true := rfl

/-- Why a directory cannot be used as it should be: it is none, or its owner may not. -/
def refusalAt (tree : FileTree) (place : Place) : FileError :=
  if tree.isDirectoryAt place then .denied else .notDirectory

/-- The steps of a path: its names, dots included, and one more dot for a slash at its end.  That
dot asks for a directory there. -/
def steps (path : String) : List String :=
  let parts := (Path.splitSlashes path.toList).filter fun part => !part.isEmpty
  let last := if path.toList.getLast? == some '/' then ["."] else []
  parts.map String.ofList ++ last

/-- Follows steps from a place.  `links` symbolic links may still be met; the last step is followed
through a link only if `follow` says so.  Each step, be it a dot, is taken from a directory that may
be searched.  A link counts against the limit when it is met, so a path ends even if it goes in
circles. -/
def walk (tree : FileTree) (follow : Bool) (links : Nat) (place : Place) :
    List String → Except FileError Place
  | [] => .ok place
  | step :: rest =>
    -- A dot asks for a directory that may be searched, too, so this stands in front of all steps.
    if !tree.isOpenAt place then .error (tree.refusalAt place)
    else if step = "." then walk tree follow links place rest
    -- The root is its own parent. Links are followed before the step, so the names alone tell the
    -- parent.
    else if step = ".." then walk tree follow links place.dropLast rest
    else if nameLimit < step.utf8ByteSize then .error .nameTooLong
    else
      match tree.at? (place ++ [step]) with
      | none => .error .notFound
      | some node =>
        match node.entry with
        | .link target =>
          -- Only the link itself is asked for.
          if rest.isEmpty && !follow then .ok (place ++ [step])
          else
            match links with
            | 0 => .error .tooManyLinks
            | links + 1 =>
              walk tree follow links (if Path.isAbsolute target then [] else place)
                (steps target ++ rest)
        | _ => walk tree follow links (place ++ [step]) rest
termination_by todo => (links, todo.length)

/-- The place that a path leads to from a directory. -/
def resolve (tree : FileTree) (directory : Place) (path : String) (follow : Bool) :
    Except FileError Place :=
  if path.isEmpty then .error .notFound
  else walk tree follow linkLimit (if Path.isAbsolute path then [] else directory) (steps path)

/-- The path of a place. -/
def pathOf (place : Place) : String :=
  if place.isEmpty then "/" else String.join (place.map fun name => "/" ++ name)

/-- The path without links, dots and repeated slashes. -/
def canonical (tree : FileTree) (directory : Place) (path : String) : Except FileError String :=
  (tree.resolve directory path true).map pathOf

/-- What a path leads to, with all links followed.  To look at an entry no permission of its own is
needed. -/
def find (tree : FileTree) (directory : Place) (path : String) : Except FileError FileNode := do
  let place ← tree.resolve directory path true
  match tree.at? place with
  | some node => .ok node
  -- The root needs no node of its own.
  | none => if place.isEmpty then .ok ⟨.directory, 0o755, 0⟩ else .error .notFound

/-- Whether an entry is read as a file. -/
def Entry.isRegular : Entry → Bool
  | .file _ | .program _ => true
  | _ => false

/-- Whether a path leads to a file.  A path that leads nowhere, or that may not be followed, leads
to none. -/
def isFile (tree : FileTree) (directory : Place) (path : String) : Bool :=
  match tree.find directory path with
  | .ok node => Entry.isRegular node.entry
  | .error _ => false

/-- Whether a path leads to a directory. -/
def isDirectory (tree : FileTree) (directory : Place) (path : String) : Bool :=
  match tree.find directory path with
  | .ok node => node.entry == .directory
  | .error _ => false

/-- Whether somebody may execute what a path leads to: the owner, the group or anybody else. -/
def isExecutable (tree : FileTree) (directory : Place) (path : String) : Bool :=
  match tree.find directory path with
  | .ok node => node.mode &&& 0o111 != 0
  | .error _ => false

/-- The content of the file that a path leads to. -/
def read (tree : FileTree) (directory : Place) (path : String) :
    Except FileError (List UInt8) := do
  let node ← tree.find directory path
  if !node.isReadable then .error .denied
  else
    match node.entry with
    | .file content => .ok content
    | .directory => .error .isDirectory
    | _ => .ok []

/-- What is known of an entry of a directory: of one that may not be searched nothing but the names
of its entries, and for the time of a change the beginning of time counts then. -/
def seenFrom (tree : FileTree) (place : Place) (node : FileNode) : FileNode :=
  if tree.isOpenAt place then node else { node with modified := 0 }

/-- The names in a directory with what stands there, links not followed. -/
def list (tree : FileTree) (directory : Place) (path : String) :
    Except FileError (List (String × FileNode)) := do
  let place ← tree.resolve directory path true
  if tree.permits FileNode.isReadable place then
    .ok (tree.nodes.filterMap fun (p, node) =>
      if p.length = place.length + 1 && place.isPrefixOf p then
        p.getLast?.map (·, tree.seenFrom place node)
      else none)
  else .error (tree.refusalAt place)

/-! ## Changes -/

/-- Puts an entry at a place, in the stead of what stood there, so that nothing else stands there
any more. -/
def put (tree : FileTree) (place : Place) (node : FileNode) : FileTree :=
  ⟨(place, node) :: tree.nodes.filter fun other => other.1 != place⟩

/-- Notes that the directory of a place has changed. -/
def touchParent (tree : FileTree) (place : Place) (now : Int) : FileTree :=
  match tree.at? place.dropLast with
  | some node => tree.put place.dropLast { node with modified := now }
  | none => tree

/-- Puts a new entry at a place and notes the change of its directory. -/
def add (tree : FileTree) (place : Place) (node : FileNode) (now : Int) : FileTree :=
  (tree.touchParent place now).put place node

/-- Removes a place and everything below it. -/
def remove (tree : FileTree) (place : Place) : FileTree :=
  ⟨tree.nodes.filter fun other => !place.isPrefixOf other.1⟩

/-- Makes a directory at the end of a path and those it lies in, as far as they are missing.  The
steps are taken one by one from a place, and what is there already may be reached through links. -/
def makeDirectoriesFrom (tree : FileTree) (now : Int) (place : Place) :
    List String → Except FileError FileTree
  | [] => if tree.isDirectoryAt place then .ok tree else .error .exists
  | step :: rest =>
    -- Each step is walked on its own, since the tree may have grown with the one before it.
    match tree.walk true linkLimit place [step] with
    | .ok next =>
      if tree.isDirectoryAt next then makeDirectoriesFrom tree now next rest
      else .error (if rest.isEmpty then .exists else .notDirectory)
    | .error .notFound =>
      match tree.at? (place ++ [step]) with
      -- A link that leads nowhere stands there.
      | some _ => .error .exists
      | none =>
        if tree.permits FileNode.isWritable place then
          makeDirectoriesFrom (tree.add (place ++ [step]) ⟨.directory, 0o755, now⟩ now) now
            (place ++ [step]) rest
        else .error (tree.refusalAt place)
    | .error e => .error e

/-- Makes a directory and those it lies in, as far as they are missing. -/
def makeDirectories (tree : FileTree) (now : Int) (directory : Place) (path : String) :
    Except FileError FileTree :=
  makeDirectoriesFrom tree now (if Path.isAbsolute path then [] else directory) (steps path)

/-- The place where a file is to be opened for writing: an existing file, or a new name in an
existing directory that may be written. -/
def target (tree : FileTree) (directory : Place) (path : String) : Except FileError Place := do
  match tree.resolve directory path true with
  | .ok place =>
    if tree.isDirectoryAt place then .error .isDirectory
    else if (tree.at? place).all FileNode.isWritable then .ok place
    else .error .denied
  | .error .notFound =>
    match (steps path).getLast? with
    | none => .error .notFound
    | some name =>
      let start := if Path.isAbsolute path then [] else directory
      let place ← tree.walk true linkLimit start (steps path).dropLast
      if name = "." || name = ".." then .error .isDirectory
      else
        match tree.at? (place ++ [name]) with
        | some { entry := .link far, .. } =>
          -- a link to a name that is still missing
          let up ← tree.walk true linkLimit (if Path.isAbsolute far then [] else place)
            (steps far).dropLast
          match (steps far).getLast? with
          | some name => newEntry up name
          | none => .error .notFound
        | _ => newEntry place name
  | .error e => .error e
where
  /-- The place of a new entry in a directory. -/
  newEntry (place : Place) (name : String) : Except FileError Place :=
    if tree.permits FileNode.isWritable place then .ok (place ++ [name])
    else .error (tree.refusalAt place)

/-- Changes the content of the file at a place, which is made if it is missing.  Nothing happens to
what is no file. -/
def write (tree : FileTree) (now : Int) (place : Place)
    (change : List UInt8 → List UInt8) : FileTree :=
  match tree.at? place with
  | some node =>
    match node.entry with
    | .file content => tree.put place { node with entry := .file (change content), modified := now }
    | _ => tree
  | none => tree.add place ⟨.file (change []), 0o644, now⟩ now

end FileTree

end Overseer
