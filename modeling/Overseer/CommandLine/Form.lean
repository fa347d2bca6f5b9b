/-!
# Forms of Command Lines

What may stand behind a command: options, plain words, and words kept apart behind `--`.  The words
of a command line are read one after another, and the first that does not fit decides.

A form says which options there are and how many plain words may stand there.  The same reading
serves every command, so that the commands differ in their forms alone.
-/

namespace Overseer.CommandLine

/-- Why the words of a command line are not carried out. -/
inductive Refusal where
  /-- They ask for help. -/
  | help
  /-- They ask for the version. -/
  | version
  /-- They do not fit the form. -/
  | misuse
deriving DecidableEq

/-- What an option does. -/
inductive OptionKind where
  /-- It may be given once. -/
  | switch
  /-- It may be given any number of times. -/
  | counter
  /-- It may be given once and has a value, which must be of a kind. -/
  | value (accepts : String → Bool)
  /-- It ends the reading. -/
  | stop (refusal : Refusal)

/-- An option: its long name, its letter if it has one, and what it does. -/
structure OptionForm where
  name : String
  letter : Option Char
  kind : OptionKind

/-- What may stand behind a command. -/
structure Form where
  options : List OptionForm
  /-- The plain words, each by what it may be. -/
  words : List (String → Bool)
  /-- Whether any words may stand behind `--`, apart from the plain ones. -/
  hasRest : Bool

/-- What has been read. -/
structure Reading where
  /-- The names of the options without a value. -/
  switches : List String
  /-- The names and values of the options with one. -/
  values : List (String × String)
  words : List String
  rest : List String
  /-- The option whose value comes next. -/
  awaiting : Option OptionForm
  /-- Whether `--` has been read. -/
  behindMark : Bool

namespace Reading

/-- Nothing has been read. -/
def empty : Reading := ⟨[], [], [], [], none, false⟩

/-- Whether an option without a value was given. -/
def has (r : Reading) (name : String) : Bool := r.switches.contains name

/-- The value of an option. -/
def value? (r : Reading) (name : String) : Option String :=
  (r.values.find? (·.1 == name)).map (·.2)

/-- Adds an option without a value. -/
def addSwitch (r : Reading) (o : OptionForm) : Except Refusal Reading :=
  let added := { r with switches := r.switches ++ [o.name] }
  match o.kind with
  | .switch => if r.has o.name then .error .misuse else .ok added
  | .counter => .ok added
  | .value _ => .error .misuse
  | .stop refusal => .error refusal

/-- Adds an option with its value. -/
def addValue (r : Reading) (o : OptionForm) (value : String) : Except Refusal Reading :=
  match o.kind with
  | .value accepts =>
    if accepts value && (r.value? o.name).isNone then
      .ok { r with values := r.values ++ [(o.name, value)], awaiting := none }
    else .error .misuse
  | _ => .error .misuse

end Reading

namespace Form

/-- The options that every command has. -/
def commonOptions : List OptionForm :=
  [⟨"verbose", some 'v', .counter⟩, ⟨"help", some 'h', .stop .help⟩]

/-- The option with a long name. -/
def named (f : Form) (name : String) : Except Refusal OptionForm :=
  match (f.options ++ commonOptions).find? (·.name == name) with
  | some o => .ok o
  | none => .error .misuse

/-- The option with a letter. -/
def lettered (f : Form) (letter : Char) : Except Refusal OptionForm :=
  match (f.options ++ commonOptions).find? (·.letter == some letter) with
  | some o => .ok o
  | none => .error .misuse

/-- Whether a word looks like options: it begins with a hyphen and goes on. -/
def looksLikeOption (word : String) : Bool :=
  match word.toList with
  | '-' :: _ :: _ => true
  | _ => false

/-- The name of a long option and the value attached to it by an equals sign. -/
def splitLong (s : List Char) : String × Option String :=
  let name := s.takeWhile (· != '=')
  (String.ofList name,
    match s.drop name.length with
    | [] => none
    | _ :: value => some (String.ofList value))

/-- Reads a long option. -/
def readLong (f : Form) (r : Reading) (s : List Char) : Except Refusal Reading := do
  let (name, attached) := splitLong s
  let o ← f.named name
  match attached, o.kind with
  | some value, _ => r.addValue o value
  | none, .value _ => .ok { r with awaiting := some o }
  | none, _ => r.addSwitch o

/-- Reads a plain word. -/
def readWord (f : Form) (r : Reading) (word : String) : Except Refusal Reading :=
  match f.words[r.words.length]? with
  | some accepts =>
    if accepts word then .ok { r with words := r.words ++ [word] } else .error .misuse
  | none => .error .misuse

/-- Reads one word. -/
def readNext (f : Form) (r : Reading) (word : String) : Except Refusal Reading :=
  if r.behindMark then
    if f.hasRest then .ok { r with rest := r.rest ++ [word] } else f.readWord r word
  else if looksLikeOption word then
    if r.awaiting.isSome then .error .misuse
    else if word == "--" then .ok { r with behindMark := true }
    else
      match word.toList with
      | '-' :: '-' :: s => f.readLong r s
      | s => (s.drop 1).foldlM (fun r letter => do r.addSwitch (← f.lettered letter)) r
  else
    match r.awaiting with
    | some o => r.addValue o word
    | none => f.readWord r word

/-- Reads the words behind a command; all plain words must be there. -/
def read (f : Form) (words : List String) : Except Refusal Reading := do
  let r ← words.foldlM f.readNext .empty
  if r.awaiting.isSome || r.words.length != f.words.length then .error .misuse else .ok r

end Form

end Overseer.CommandLine
