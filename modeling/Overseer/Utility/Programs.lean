import Overseer.Shell.State
import Overseer.Utility.Printf
import Overseer.Utility.Test
import Overseer.Utility.Texts

/-!
# Starting Utilities

What each utility does with its arguments when it starts, and what those that read all of their
input do at its end.

A utility is either done when it has started, or it goes on with what takes time: it sleeps, repeats
itself, copies its input, or gathers all of it first.
-/

namespace Overseer.Utility

/-- What a utility can see and change when it starts. -/
structure Desk where
  now : Nat
  moment : Int
  tree : FileTree
  directory : Place
  environment : List (String × String)

/-- A utility that starts: what it does and the files after it. -/
structure Launched where
  program : Program
  tree : FileTree

namespace Desk

/-- A utility that writes what a result says. -/
def finish (desk : Desk) (r : Result) : Launched :=
  ⟨⟨r.written.map fun (stream, text) => (stream.fd, Raw.toBytes text), .finished r.status⟩,
    desk.tree⟩

/-- A utility that goes on with something. -/
def proceed (desk : Desk) (progress : Progress) : Launched := ⟨⟨[], progress⟩, desk.tree⟩

/-- The inputs that operands name. -/
def inputs (operands : List String) : List Input :=
  if operands.isEmpty then [.standard]
  else operands.map fun o => if o = "-" then .standard else .file o

/-- A change of the files, one operand after the other, with complaints about those that failed. -/
def change (desk : Desk) (operands : List String)
    (f : FileTree → String → Except String FileTree) : Launched :=
  let (tree, complaints) := operands.foldl (fun (tree, complaints) o =>
    match f tree o with
    | .ok tree => (tree, complaints)
    | .error message => (tree, complaints ++ [(2, Raw.toBytes (message ++ "\n").toList)]))
    (desk.tree, [])
  ⟨⟨complaints, .finished (if complaints.isEmpty then 0 else 1)⟩, tree⟩

end Desk

/-- A path in quotes, as complaints show it. -/
def quotePath (path : String) : String := "\x27" ++ path ++ "\x27"

/-- The microseconds that a word such as `0.5` or `2m` names. -/
def duration? (word : String) : Option Nat :=
  let s := word.toList
  let (s, unit) := match s.getLast? with
    | some 's' => (s.dropLast, 1)
    | some 'm' => (s.dropLast, 60)
    | some 'h' => (s.dropLast, 3600)
    | some 'd' => (s.dropLast, 86400)
    | _ => (s, 1)
  let whole := s.takeWhile Char.isDigit
  match s.drop whole.length with
  | [] => if whole.isEmpty then none else some (Text.numberIn 10 whole * unit * 1000000)
  | '.' :: fraction =>
    if fraction.all Char.isDigit && !(whole.isEmpty && fraction.isEmpty) then
      -- Digits below a microsecond are dropped.
      let micros := Text.numberIn 10 ((fraction ++ List.replicate 6 '0').take 6)
      some ((Text.numberIn 10 whole * 1000000 + micros) * unit)
    else none
  | _ => none

/-- The place of a new entry: its name in a directory that is there. -/
def newPlace (tree : FileTree) (directory : Place) (path : String) : Except FileError Place := do
  let path := Raw.toText path
  match tree.resolve directory path false with
  | .ok _ => .error .exists
  | .error .notFound =>
    let up ← tree.resolve directory ((Path.parent? path).filter (· != "") |>.getD ".") true
    match Path.fileName? path with
    | some name =>
      if tree.permits FileNode.isWritable up then .ok (up ++ [name])
      else .error (tree.refusalAt up)
    | none => .error .notFound
  | .error e => .error e

/-- Makes a directory. -/
def makeDirectory (desk : Desk) (parents : Bool) (tree : FileTree) (path : String) :
    Except String FileTree :=
  let result := if parents then tree.makeDirectories desk.moment desk.directory (Raw.toText path)
    else (newPlace tree desk.directory path).map fun place =>
      tree.add place ⟨.directory, 0o755, desk.moment⟩ desk.moment
  result.mapError fun e =>
    "mkdir: cannot create directory " ++ quotePath path ++ ": " ++ e.reason

/-- Makes a file, or notes that it was changed. -/
def touchFile (desk : Desk) (tree : FileTree) (path : String) : Except String FileTree :=
  match tree.resolve desk.directory (Raw.toText path) true with
  | .ok place => .ok (match tree.at? place with
      | some node => tree.put place { node with modified := desk.moment }
      | none => tree)
  | .error _ =>
    ((tree.target desk.directory (Raw.toText path)).map fun place =>
      tree.write desk.moment place id).mapError fun e =>
        "touch: cannot touch " ++ quotePath path ++ ": " ++ e.reason

/-- Removes what a path names, not following a link. -/
def removeEntry (desk : Desk) (options : List (Char × String)) (tree : FileTree) (path : String) :
    Except String FileTree :=
  let force := hasOption options 'f'
  match tree.resolve desk.directory (Raw.toText path) false with
  | .error e =>
    if force then .ok tree
    else .error ("rm: cannot remove " ++ quotePath path ++ ": " ++ e.reason)
  | .ok place =>
    if tree.isDirectoryAt place && !(hasOption options 'r' || hasOption options 'R') then
      .error ("rm: cannot remove " ++ quotePath path ++ ": Is a directory")
    else .ok ((tree.remove place).touchParent place desk.moment)

/-- Removes an empty directory. -/
def removeDirectory (desk : Desk) (tree : FileTree) (path : String) : Except String FileTree :=
  let fail := fun (e : FileError) =>
    Except.error ("rmdir: failed to remove " ++ quotePath path ++ ": " ++ e.reason)
  match tree.resolve desk.directory (Raw.toText path) false with
  | .error e => fail e
  | .ok place =>
    if !tree.isDirectoryAt place then fail .notDirectory
    else if tree.nodes.any fun (p, _) => place.isPrefixOf p && p != place then fail .notEmpty
    else .ok ((tree.remove place).touchParent place desk.moment)

/-- Where a copy of a file goes: into a directory under its own name, or to a path. -/
def copyPlace (desk : Desk) (tree : FileTree) (source target : String) :
    Except FileError Place :=
  match tree.resolve desk.directory (Raw.toText target) true with
  | .ok place =>
    if tree.isDirectoryAt place then
      -- Into a directory a file goes under its own name.
      .ok (place ++ [Raw.toText (String.ofList (baseName source.toList []))])
    else .ok place
  | .error _ => tree.target desk.directory (Raw.toText target)

/-- Copies or moves a file. -/
def copyFile (desk : Desk) (moves : Bool) (target : String) (tree : FileTree) (source : String) :
    Except String FileTree :=
  let name := if moves then "mv" else "cp"
  match tree.resolve desk.directory (Raw.toText source) (!moves) with
  | .error e => .error (name ++ ": cannot stat " ++ quotePath source ++ ": " ++ e.reason)
  | .ok place =>
    match copyPlace desk tree source target, tree.at? place with
    | .error e, _ =>
      .error (name ++ ": cannot create regular file " ++ quotePath target ++ ": " ++ e.reason)
    | .ok goal, some node =>
      if moves then
        -- A directory moves with all that is below it.
        let moved := tree.nodes.filterMap fun (p, n) =>
          if place.isPrefixOf p then some (goal ++ p.drop place.length, n) else none
        let rest := (tree.remove place).remove goal
        .ok ((⟨moved ++ rest.nodes⟩ : FileTree).touchParent place desk.moment
          |>.touchParent goal desk.moment)
      else if tree.isDirectoryAt place then
        .error ("cp: -r not specified; omitting directory " ++ quotePath source)
      else .ok (tree.add goal { node with modified := desk.moment } desk.moment)
    | .ok _, none => .ok tree

/-- The permission bits after a change that is written as digits or as letters. -/
def changeMode (word : List Char) (mode : Nat) : Option Nat :=
  if !word.isEmpty && word.all fun c => '0' ≤ c && c ≤ '7' then some (octal word.length word).1
  else
    let who := word.takeWhile "ugoa".toList.contains
    let bits := (if who.isEmpty || who.contains 'a' then [0o700, 0o070, 0o007] else []) ++
      (if who.contains 'u' then [0o700] else []) ++ (if who.contains 'g' then [0o070] else []) ++
      (if who.contains 'o' then [0o007] else [])
    -- Only the bits of those who are named may change.
    let mask := bits.foldl (· ||| ·) 0
    match word.drop who.length with
    | op :: what =>
      let value := what.foldl (fun n c => n ||| (if c = 'r' then 0o444 else if c = 'w' then 0o222
        else if c = 'x' then 0o111 else 0)) 0 &&& mask
      match op with
      | '+' => some (mode ||| value)
      | '-' => some (mode - (mode &&& value))
      | '=' => some (mode - (mode &&& mask) ||| value)
      | _ => none
    | [] => none

/-- Changes the permissions of a file. -/
def changePermissions (desk : Desk) (word : String) (tree : FileTree) (path : String) :
    Except String FileTree :=
  match tree.resolve desk.directory (Raw.toText path) true with
  | .error e => .error ("chmod: cannot access " ++ quotePath path ++ ": " ++ e.reason)
  | .ok place =>
    match tree.at? place with
    | none => .ok tree
    | some node =>
      match changeMode word.toList node.mode with
      | some mode => .ok (tree.put place { node with mode })
      | none => .error ("chmod: invalid mode: " ++ quotePath word)

/-- The names that `ls` shows for a path. -/
def listEntries (desk : Desk) (all : Bool) (path : String) : Except String (List String) :=
  let text := Raw.toText path
  match desk.tree.resolve desk.directory text true with
  | .error e => .error ("ls: cannot access " ++ quotePath path ++ ": " ++ e.reason)
  | .ok place =>
    if desk.tree.isDirectoryAt place then
      match desk.tree.list desk.directory text with
      | .ok entries =>
        let names := entries.map fun (name, _) => Raw.ofText name
        .ok ((names.filter fun n => all || n.toList.head? != some '.').mergeSort
          fun a b => decide (a ≤ b))
      | .error e => .error ("ls: cannot open directory " ++ quotePath path ++ ": " ++ e.reason)
    else .ok [path]

/-- What `ls` writes. -/
def list (desk : Desk) (arguments : List String) : Result :=
  let (options, operands) := splitOptions [] (2 * arguments.length + 64) arguments
  let all := hasOption options 'a' || hasOption options 'A'
  let shown := (if operands.isEmpty then ["."] else operands).map (listEntries desk all)
  let text := shown.flatMap fun r => match r with
    | .ok names => [(Stream.output, names.flatMap fun n => n.toList ++ ['\n'])]
    | .error message => [(Stream.errors, message.toList ++ ['\n'])]
  ⟨text, if shown.any fun r => match r with | .error _ => true | .ok _ => false then 2 else 0⟩

/-- Sends signals, given as the arguments of `kill`: the signal and the targets. -/
def killTargets (arguments : List String) : Option (Signal × List String) :=
  match arguments with
  | "-s" :: name :: targets => (Signal.ofWord? name).map (·, targets)
  | "-n" :: name :: targets => (Signal.ofWord? name).map (·, targets)
  | "--" :: targets => some (Signal.terminate, targets)
  | first :: targets =>
    match first.toList with
    | '-' :: word => (Signal.ofWord? (String.ofList word)).map
        (·, if targets.head? == some "--" then targets.drop 1 else targets)
    | _ => some (Signal.terminate, arguments)
  | [] => some (Signal.terminate, [])

/-- Starts a utility with its name and arguments. -/
def launch (desk : Desk) (name : String) (arguments : List String) : Launched :=
  let split := splitOptions [] (2 * arguments.length + 64) arguments
  match name with
  | "true" => desk.finish (.silent 0)
  | "false" => desk.finish (.silent 1)
  | "echo" => desk.finish (echo .plain arguments)
  | "printf" => desk.finish (printf .plain "printf: " arguments)
  | "test" | "[" =>
    let words := if name = "[" then arguments.dropLast else arguments
    if name = "[" && arguments.getLast? != some "]" then
      desk.finish (.complain "[: missing \x27]\x27" 2)
    else
      match (TestScene.mk desk.tree desk.directory true).holds words with
      | .ok value => desk.finish (.silent (if value then 0 else 1))
      | .error e => desk.finish (.complain (name ++ ": " ++ e.message true) 2)
  | "pwd" => desk.finish (.say ((Raw.ofText (FileTree.pathOf desk.directory)).toList ++ ['\n']) 0)
  | "basename" =>
    desk.finish (.say (baseName ((arguments[0]?).getD "").toList ((arguments[1]?).getD "").toList
      ++ ['\n']) 0)
  | "dirname" =>
    desk.finish (.say (arguments.flatMap fun a => directoryName a.toList ++ ['\n']) 0)
  | "printenv" =>
    match arguments with
    | [] => desk.finish (.say (desk.environment.flatMap fun (k, v) =>
        k.toList ++ '=' :: v.toList ++ ['\n']) 0)
    | names =>
      let values := names.filterMap fun n => (desk.environment.find? (·.1 == n)).map (·.2)
      desk.finish (.say (values.flatMap fun v => v.toList ++ ['\n'])
        (if values.length = names.length then 0 else 1))
  | "seq" => desk.finish (.say (sequenceNumbers arguments) 0)
  | "sleep" =>
    if arguments.isEmpty then
      desk.finish (.complain
        "sleep: missing operand\nTry \x27sleep --help\x27 for more information." 1)
    else
      match arguments.find? fun a => (duration? a).isNone && a != "infinity" && a != "inf" with
      | some bad =>
        desk.finish (.complain ("sleep: invalid time interval " ++ quotePath bad ++
          "\nTry \x27sleep --help\x27 for more information.") 1)
      | none =>
        let total := (arguments.map fun a => (duration? a).getD (Nat.pow 10 15)).foldr Nat.add 0
        desk.proceed (.sleeping (desk.now + total))
  | "yes" =>
    let line := (if arguments.isEmpty then ['y'] else joined arguments) ++ ['\n']
    desk.proceed (.repeating (Raw.toBytes
      (List.replicate (1 + 8192 / line.length) line).flatten))
  | "cat" => desk.proceed (.copying (Desk.inputs split.2) [1] 0)
  | "head" | "tail" =>
    desk.proceed (.gathering (name :: arguments) (Desk.inputs (headSize arguments).2.2) [])
  | "wc" | "sort" | "uniq" | "rev" | "tac" =>
    desk.proceed (.gathering (name :: arguments) (Desk.inputs split.2) [])
  | "cut" =>
    let operands := (splitOptions ['d', 'f', 'c', 'b'] (2 * arguments.length + 64) arguments).2
    desk.proceed (.gathering (name :: arguments) (Desk.inputs operands) [])
  | "tr" => desk.proceed (.gathering (name :: arguments) [.standard] [])
  | "grep" => desk.proceed (.gathering (name :: arguments) (Desk.inputs (split.2.drop 1)) [])
  | "mkdir" => desk.change split.2 (makeDirectory desk (hasOption split.1 'p'))
  | "touch" => desk.change split.2 (touchFile desk)
  | "rm" => desk.change split.2 (removeEntry desk split.1)
  | "rmdir" => desk.change split.2 (removeDirectory desk)
  | "cp" => desk.change split.2.dropLast (copyFile desk false (split.2.getLast?.getD ""))
  | "mv" => desk.change split.2.dropLast (copyFile desk true (split.2.getLast?.getD ""))
  | "chmod" =>
    desk.change (arguments.drop 1) (changePermissions desk ((arguments[0]?).getD ""))
  | "ln" =>
    match split.2 with
    | [target, path] => desk.change [path] fun tree path =>
        (newPlace tree desk.directory path).map (fun place =>
          tree.add place ⟨.link (Raw.toText target), 0o777, desk.moment⟩ desk.moment)
          |>.mapError fun e =>
            "ln: failed to create symbolic link " ++ quotePath path ++ ": " ++ e.reason
    | _ => desk.finish (.complain "ln: missing file operand" 1)
  | "ls" => desk.finish (list desk arguments)
  | _ => desk.finish (.silent 0)

/-- Whether a utility that reads its input has enough. -/
def isSatisfied (arguments : List String) (read : List UInt8) : Bool :=
  match arguments with
  | "head" :: rest => headSatisfied (headSize rest).1 (Raw.ofBytes read)
  | _ => false

/-- What a utility that has read all of its inputs does. -/
def conclude (arguments : List String) (inputs : List (List UInt8)) : Result :=
  let texts := inputs.map Raw.ofBytes
  let text := texts.flatten
  match arguments with
  | [] => .silent 0
  | name :: arguments =>
    let (options, operands) := splitOptions [] (2 * arguments.length + 64) arguments
    let perFile (f : List Char → List Char) (operands : List String) : List Char :=
      if operands.length < 2 then f text
      else
        ['\n'].intercalate ((operands.zip texts).map fun (o, t) =>
          "==> ".toList ++ o.toList ++ " <==\n".toList ++ f t)
    match name with
    | "head" =>
      let (size, _, operands) := headSize arguments
      .say (perFile (head size) operands) 0
    | "tail" =>
      let (size, fromStart, operands) := headSize arguments
      .say (perFile (tail size fromStart) operands) 0
    | "wc" =>
      let rows := texts.map (counts options)
      let total := rows.foldl (fun sum row => List.zipWith (· + ·) sum row)
        (List.replicate ((rows.head?.map List.length).getD 0) 0)
      let width := if total.length = 1 && rows.length = 1 then 1
        else if operands.isEmpty then 7
        else (total.map fun n => (toString n).length).foldl max 1
      let row := fun (ns : List Nat) (label : List Char) =>
        [' '].intercalate (ns.map (inField width)) ++
          (if label.isEmpty then [] else ' ' :: label) ++ ['\n']
      let lines := if operands.isEmpty then (rows.map fun r => row r []).flatten
        else ((rows.zip operands).map fun (r, o) => row r o.toList).flatten
      .say (lines ++ if operands.length < 2 then [] else row total "total".toList) 0
    | "sort" => .say (sortLines options text) 0
    | "uniq" => .say (uniqueLines options text) 0
    | "rev" =>
      .say ((linesOf text).flatMap fun l =>
        (bare l).reverse ++ if l.getLast? == some '\n' then ['\n'] else []) 0
    | "tac" => .say (linesOf text).reverse.flatten 0
    | "cut" =>
      let options := (splitOptions ['d', 'f', 'c', 'b'] (2 * arguments.length + 64) arguments).1
      .say ((linesOf text).flatMap fun l => cutLine options (bare l) ++ ['\n']) 0
    | "tr" => .say (translate arguments text) 0
    | "grep" => searchLines options ((operands[0]?).getD "").toList text
    | _ => .say text 0

/-- The names of the utilities. -/
def names : List String :=
  ["true", "false", "echo", "printf", "test", "[", "pwd", "basename", "dirname", "printenv", "seq",
    "sleep", "yes", "cat", "head", "tail", "wc", "sort", "uniq", "rev", "tac", "cut", "tr", "grep",
    "mkdir", "touch", "rm", "rmdir", "cp", "mv", "chmod", "ln", "ls", "tee", "env", "kill",
    "setsid", "nohup", "sh", "dash", "bash"]

end Overseer.Utility
