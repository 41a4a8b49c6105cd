import Sift.CommandLine.Arguments
import Sift.CommandLine.Settings
import Sift.Path.Describe
import Sift.Selector.Registry
import Sift.Selector.Resource
import Sift.Value.Printer

/-! What the program does with its words.

A command sees files, variables and the clock through `Surroundings`, so that it is
the same command in any of them. It leaves a `Transcript`: what was written, and the
code that the program ends with. -/
namespace Sift.CommandLine

/-- What a command can see. -/
structure Surroundings (m : Type → Type) where
  /-- The text of a file, if it is a file with text. -/
  fileText : String → m (Option String)
  isFile : String → m Bool
  /-- What a variable holds. -/
  lookup : String → m (Option String)
  /-- The text of the nearest settings file. -/
  settings : m (Option String)
  now : m Time.Instant
  /-- What makes the patterns of paths and selectors. -/
  engine : Engine

structure Transcript where
  code : Nat := 0
  output : String := ""
  /-- The lines that do not belong to the output. -/
  complaints : List String := []
  deriving DecidableEq, Repr

/-- Why a command does not come to its end. -/
inductive Failure where
  | path (e : Path.PathError)
  | unreadable (file : String)
  | unparsed (file : String)
  | notResources (file : String)
  | selector (e : SelectorRegistry.NotFound)
  /-- The path leads nowhere. -/
  | nothing (path : String)
  deriving DecidableEq, Repr

def Failure.message : Failure → String
  | .path e => s!"Error: {e.message}"
  | .unreadable file => s!"Error: failed to read {file}"
  | .unparsed file => s!"Error: failed to parse {file}"
  | .notResources file => s!"Error: failed to load selectors from {file}"
  | .selector e => s!"Error: {e.message}"
  | .nothing p => s!"path '{p}' was not found"

/-- A command under way. -/
abbrev Session (m : Type → Type) := ExceptT Failure (StateT Transcript m)

section Commands

variable {m : Type → Type} [Monad m]

def say (line : String) : Session m Unit :=
  modify fun t => { t with output := t.output ++ line ++ "\n" }

def complain (line : String) : Session m Unit :=
  modify fun t => { t with complaints := t.complaints ++ [line] }

def failWith : Except Failure β → Session m β
  | .ok a => return a
  | .error e => throw e

variable (w : Surroundings m)

def readText (file : String) : Session m String := do
  match ← w.fileText file with
  | some text => return text
  | none => throw (.unreadable file)

def readDocument (file : String) : Session m Value := do
  match Yaml.value? (← readText w file) with
  | some v => return v
  | none => throw (.unparsed file)

/-! ### Tokens and queries -/

def tokens (path : String) : Session m Unit := do
  for token in ← failWith ((Path.tokenize path).mapError .path) do
    say token.describe

def query (path input : String) (caseSensitive : Bool) : Session m Unit := do
  let program ← failWith ((Path.Program.compile w.engine path defaultSizeLimit).mapError .path)
  let target ← readDocument w input
  let o : Path.QueryOptions :=
    ⟨caseSensitive, Path.defaultMaxDepth, ← w.now, w.engine, defaultSizeLimit⟩
  match program.evaluate o target with
  | none => throw (.nothing program.source)
  | some (.sequence values) => say (Value.array values).pretty
  | some (.scalar v) => say v.pretty

/-! ### Selectors -/

/-- The options file that is used where it is there. -/
def defaultOptionsFile : String := "ps-rule.yaml"

/-- The variable that names an options file. -/
def optionsVariable : String := "SELECTOR_OPTIONS"

def readOptions (file : String) : Session m Options := do
  match Options.parse? (← readText w file) with
  | some o => return o
  | none => throw (.unparsed file)

/-- A variable, which may come from the settings file. -/
def findVariable (name : String) : Session m (Option String) := do
  let outer : String → Session m (Option String) := fun name => w.lookup name
  lookupVariable outer (← addSettings outer [] (readSettings ((← w.settings).getD ""))) name

/-- The options of the file that is asked for, that the variable names, or that is
there. -/
def findOptions (file : Option String) : Session m Options := do
  match file with
  | some file => readOptions w file
  | none =>
    match ← findVariable w optionsVariable with
    | some file => readOptions w file
    | none => if ← w.isFile defaultOptionsFile then readOptions w defaultOptionsFile else return {}

/-- The selectors of a file. A complaint is made about each one that is not built. -/
def loadSelectors (file : String) (o : Options) : Session m SelectorRegistry := do
  match SelectorRegistry.empty.load (.of w.engine o) (← readText w file) with
  | (.error .yaml, _) => throw (.unparsed file)
  | (.error .resource, _) => throw (.notResources file)
  | (.ok failures, registry) =>
    for failure in failures do
      complain s!"error: {failure.message}"
    return registry

/-- The lines about one selector and the target at a position of the input. -/
def reportLines (position : Nat) (s : Selector) (r : Report) : List String :=
  s!"[{position}] {s.name}: {r.outcome.text}" ::
    r.reasons.map fun reason => s!"    {reason.text} (at {reason.fullPath})"

/-- A list in the input is many targets. -/
def targets : Value → List Value
  | .array items => items
  | v => [v]

def select (file input : String) (name options : Option String) : Session m Unit := do
  let o ← findOptions w options
  let registry ← loadSelectors w file o
  let selectors ← match name with
    | some name => failWith (((registry.require name).mapError .selector).map fun s => [s])
    | none => pure registry.all
  let now ← w.now
  for (target, i) in (targets (← readDocument w input)).zipIdx do
    for s in selectors do
      for line in reportLines i s (s.evaluateAt w.engine target o now s!"[{i}]") do
        say line

/-! ### The program -/

def Command.session : Command → Session m Unit
  | .tokens path => CommandLine.tokens path
  | .query path input caseSensitive => CommandLine.query w path input caseSensitive
  | .select file input name options => CommandLine.select w file input name options

/-- Runs the program. Its code is 2 if the words ask for nothing that it can do, and 1
if a command fails. -/
def run (words : List String) : m Transcript := do
  match Command.parse words with
  | .error e => return { code := 2, complaints := [e.message] }
  | .ok command =>
    let (result, t) ← (command.session w).run.run {}
    match result with
    | .ok _ => return t
    | .error e => return { t with code := 1, complaints := t.complaints ++ [e.message] }

end Commands

end Sift.CommandLine
