import Overseer.Text.Parts

/-!
# Paths

Paths as they are written, without a look at any file.  Two paths are compared by their
components: repeated and trailing slashes and inner dots do not matter, while `..` is a component
like any other.

The functions are those of a library for paths on systems with one root and slashes between the
names.  They look at the characters alone, so that a path may be taken apart and put together
whether or not it leads anywhere.
-/

namespace Overseer.Path

/-- Whether a path begins at the root. -/
def isAbsolute (path : String) : Bool := path.toList.head? == some '/'

/-- The parts of a text between slashes. -/
def splitSlashes (s : List Char) : List (List Char) := Text.splitAtMarks (· == '/') s

/-- The names between the slashes, without empty ones and dots. -/
def names (path : String) : List String :=
  ((splitSlashes path.toList).filter fun part => !part.isEmpty && part != ['.']).map String.ofList

/-- Whether a path begins with a dot that is a component of its own. -/
def beginsWithDot (path : String) : Bool :=
  match path.toList with
  | ['.'] => true
  | '.' :: '/' :: _ => true
  | _ => false

/-- The components of a path.  The root is the component `/`, and a dot counts only at the start.
Two leading dots are a name here, and nothing is taken back for them. -/
def components (path : String) : List String :=
  if isAbsolute path then "/" :: names path
  else if beginsWithDot path then "." :: names path
  else names path

/-- Goes on from a path with another.  One that begins at the root replaces it, so the result need
not lie in the base. -/
def join (base path : String) : String :=
  if isAbsolute path then path
  else if base.isEmpty || base.toList.getLast? == some '/' then base ++ path
  else base ++ "/" ++ path

/-- Whether a path lies in a directory or is the directory, by components.  In the empty path lies
every path. -/
def startsWith (path directory : String) : Bool :=
  (components directory).isPrefixOf (components path)

/-- Drops slashes and dots of their own from the end of a path written backwards. -/
def dropTrailing : List Char → List Char
  | '/' :: s => dropTrailing s
  | '.' :: '/' :: s => dropTrailing s
  | s => s

/-- The path without its last component, as it is written.  The root and the empty path have none.
-/
def parent? (path : String) : Option String :=
  match components path with
  | [] => none
  | ["/"] => none
  | _ =>
    let s := dropTrailing path.toList.reverse
    let rest := dropTrailing (s.dropWhile (· != '/'))
    some (if rest.isEmpty && isAbsolute path then "/" else String.ofList rest.reverse)

/-- The path and all paths it lies in, the nearest first. -/
def ancestors (path : String) : List String :=
  go (path.length + 1) path
where
  /-- At most as many steps as the path has characters. -/
  go : Nat → String → List String
    | 0, _ => []
    | fuel + 1, path =>
      path :: match parent? path with
        | some up => go fuel up
        | none => []

/-- The last component, unless it is the root, a dot or `..`. -/
def fileName? (path : String) : Option String :=
  match (components path).getLast? with
  | some name => if name == "/" || name == "." || name == ".." then none else some name
  | none => none

/-! ## The home directory -/

/-- Replaces a leading `~` by the home directory.  Only `~` by itself and `~` in front of a slash
count; the rest goes on from the home as any path goes on from another. -/
def expandHome (path home : String) : String :=
  if path = "~" then home
  else
    match path.toList with
    | '~' :: '/' :: rest => join home (String.ofList rest)
    | _ => path

/-- The directories that scripts may lie in.  The last one holds the others, unless they lead
elsewhere by links. -/
def trustedDirectories (home : String) : List String :=
  [join home "github", join (join home ".saturn") "runtime", home]

/-- Whether a path lies in one of the directories. -/
def isTrusted (path : String) (directories : List String) : Bool :=
  directories.any fun directory => startsWith path directory

end Overseer.Path
