import Overseer.CommandLine.Session

/-!
# The Program

Reads the files that settings come from and the scripts that they name, calls the command line on a
host that holds them, and prints what it wrote.

This is the only module that asks the system for anything.  All that is decided is decided by
functions on the tree of files gathered here, so the theorems are about those.
-/

namespace Overseer.Program

/-- Adds a file of the disk to a file tree, if it is there. -/
def addFile (tree : FileTree) (path : String) : IO FileTree := do
  let content ← (IO.FS.readBinFile path).toBaseIO
  match content, tree.makeDirectories 0 [] ((Path.parent? path).getD "/") with
  | .ok bytes, .ok tree =>
    match tree.target [] path with
    | .ok place => return tree.put place ⟨.file bytes.data.toList, 0o755, 0⟩
    | .error _ => return tree
  | _, _ => return tree

/-- The file tree of a host: what every machine brings along, the configuration files that can be
found from a directory, and the scripts that they name. -/
def gather (directory home : String) : IO FileTree := do
  let tree := Installation.tree
  let tree := ((tree.makeDirectories 0 [] directory).toOption.bind fun tree =>
    (tree.makeDirectories 0 [] home).toOption).getD tree
  let tree ← ((Path.ancestors directory ++ [home]).map Settings.fileIn).foldlM addFile tree
  match Settings.load tree [] directory (some home) with
  | .error _ => return tree
  | .ok (settings, _) =>
    let paths := settings.scripts.map fun e =>
      Path.join (Path.expandHome e.directory home) e.filename
    paths.foldlM addFile tree

end Overseer.Program

open Overseer in
/-- Carries out the command line. -/
def main (arguments : List String) : IO UInt32 := do
  let directory := toString (← IO.currentDir)
  let home := (← IO.getEnv "HOME").getD "/"
  let terminal ← IO.getEnv "TERM"
  let search := (← IO.getEnv "PATH").getD Launch.defaultSearchPath
  let tree ← Program.gather directory home
  let place := (tree.resolve [] directory true).toOption.getD []
  let environment := [("HOME", home), ("PATH", search)] ++ (terminal.map ("TERM", ·)).toList
  let (ending, _) := CommandLine.call (Host.new tree place environment) directory home
    terminal.isSome arguments
  let output ← IO.getStdout
  output.write ⟨ending.output.toArray⟩
  output.flush
  if let some complaint := ending.complaint then IO.eprintln ("Error: " ++ complaint)
  return ending.code.toUInt32
