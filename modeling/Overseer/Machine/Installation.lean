import Overseer.Machine.Launch

/-!
# What a Machine Brings Along

The directories, devices and programs that are on every machine.

A script may count on these to be there, and on nothing else.
-/

namespace Overseer.Installation

/-- The directories. -/
def directories : List Place :=
  [["usr"], ["usr", "bin"], ["usr", "sbin"], ["usr", "local"], ["usr", "local", "bin"], ["dev"],
    ["etc"], ["tmp"], ["var"]]

/-- The names under which directories of programs are found too. -/
def links : List (Place × String) :=
  [(["bin"], "usr/bin"), (["sbin"], "usr/sbin")]

/-- A file tree with everything that a machine brings along. -/
def tree : FileTree :=
  ⟨directories.map (·, ⟨.directory, 0o755, 0⟩) ++
    links.map (fun (place, target) => (place, ⟨.link target, 0o777, 0⟩)) ++
    [(["dev", "null"], ⟨.sink, 0o666, 0⟩), (["dev", "zero"], ⟨.zeros, 0o666, 0⟩)] ++
    Utility.names.map fun name => (["usr", "bin", name], ⟨.program name, 0o755, 0⟩)⟩

end Overseer.Installation
