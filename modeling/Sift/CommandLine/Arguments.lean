/-! The commands of the program, and the words that ask for them.

A word that starts with a dash is an option, unless it is the dash alone or follows
the word `--`. The value of an option is the next word, or it is attached: behind `=`
to a long name, with or without `=` to a letter. No option may come twice. -/
namespace Sift.CommandLine

inductive Command where
  | tokens (path : String)
  | query (path : String) (input : String) (caseSensitive : Bool)
  | select (file : String) (input : String) (name : Option String) (options : Option String)
  deriving DecidableEq, Repr

/-- Why words do not ask for a command. -/
inductive UsageError where
  | noCommand
  | unknownCommand (word : String)
  | unexpected (word : String)
  | noValue (option : String)
  | needlessValue (option : String)
  | repeated (option : String)
  | missing (what : String)
  deriving DecidableEq, Repr

def UsageError.message : UsageError → String
  | .noCommand => "error: a command is required: tokens, query or select"
  | .unknownCommand word => s!"error: unrecognized command '{word}'"
  | .unexpected word => s!"error: unexpected argument '{word}' found"
  | .noValue option => s!"error: a value is required for '--{option}'"
  | .needlessValue option => s!"error: no value is expected for '--{option}'"
  | .repeated option => s!"error: '--{option}' cannot be used multiple times"
  | .missing what => s!"error: '{what}' is required but was not provided"

/-! ### Words -/

inductive Word where
  | operand
  | endOfOptions
  | long (name : String) (value : Option String)
  | short (letter : Char) (value : Option String)
  deriving DecidableEq, Repr

def Word.of (word : String) : Word :=
  match word.toList with
  | ['-', '-'] => .endOfOptions
  | '-' :: '-' :: cs =>
    match cs.span (· != '=') with
    | (name, []) => .long (.ofList name) none
    | (name, _ :: value) => .long (.ofList name) (some (.ofList value))
  | ['-', letter] => .short letter none
  | '-' :: letter :: '=' :: value => .short letter (some (.ofList value))
  | '-' :: letter :: value => .short letter (some (.ofList value))
  | _ => .operand

/-- An option that a command knows. -/
structure Flag where
  name : String
  letter : Option Char
  takesValue : Bool

/-- The option that a word names, and the value attached to it. -/
def Word.flag? (known : List Flag) : Word → Option (Flag × Option String)
  | .long name value => (known.find? (·.name == name)).map (·, value)
  | .short letter value => (known.find? (·.letter == some letter)).map (·, value)
  | _ => none

/-- The options of a command with their values, and its operands. -/
structure Given where
  options : List (String × String)
  operands : List String

namespace Given

def withOption (name value : String) (g : Given) : Given :=
  { g with options := (name, value) :: g.options }

def withOperand (word : String) (g : Given) : Given :=
  { g with operands := word :: g.operands }

def read (known : List Flag) : List String → Except UsageError Given
  | [] => .ok ⟨[], []⟩
  | word :: rest =>
    match Word.of word with
    | .operand => (read known rest).map (withOperand word)
    | .endOfOptions => .ok ⟨[], rest⟩
    | w =>
      match w.flag? known, rest with
      | none, _ => .error (.unexpected word)
      | some (flag, some value), rest =>
        if flag.takesValue then (read known rest).map (withOption flag.name value)
        else .error (.needlessValue flag.name)
      | some (flag, none), [] =>
        if flag.takesValue then .error (.noValue flag.name)
        else .ok ⟨[(flag.name, "")], []⟩
      | some (flag, none), value :: rest =>
        if !flag.takesValue then (read known (value :: rest)).map (withOption flag.name "")
        else if Word.of value = .operand then (read known rest).map (withOption flag.name value)
        else .error (.noValue flag.name)

/-- The value of an option that may be left out. -/
def value? (g : Given) (name : String) : Except UsageError (Option String) :=
  match g.options.filter (·.1 == name) with
  | [] => .ok none
  | [(_, value)] => .ok (some value)
  | _ => .error (.repeated name)

/-- The name of a file, which is not empty, if the option is there. -/
def file? (g : Given) (name : String) : Except UsageError (Option String) := do
  match ← g.value? name with
  | some "" => .error (.noValue name)
  | file => .ok file

def file (g : Given) (name : String) : Except UsageError String := do
  match ← g.file? name with
  | some file => .ok file
  | none => .error (.missing ("--" ++ name))

/-- The operand of a command that takes one. -/
def operand (g : Given) (what : String) : Except UsageError String :=
  match g.operands with
  | [] => .error (.missing what)
  | [word] => .ok word
  | _ :: word :: _ => .error (.unexpected word)

def noOperand (g : Given) : Except UsageError Unit :=
  match g.operands with
  | [] => .ok ()
  | word :: _ => .error (.unexpected word)

end Given

/-! ### Commands -/

def inputFlag : Flag := ⟨"input", some 'i', true⟩

def queryFlags : List Flag := [inputFlag, ⟨"case-sensitive", none, false⟩]

def selectFlags : List Flag :=
  [⟨"file", some 'f', true⟩, inputFlag, ⟨"name", some 'n', true⟩, ⟨"options", some 'o', true⟩]

/-- The command that the words of a command line ask for. -/
def Command.parse : List String → Except UsageError Command
  | [] => .error .noCommand
  | "tokens" :: words => do
    let g ← Given.read [] words
    return .tokens (← g.operand "path")
  | "query" :: words => do
    let g ← Given.read queryFlags words
    let caseSensitive ← g.value? "case-sensitive"
    return .query (← g.operand "path") (← g.file "input") caseSensitive.isSome
  | "select" :: words => do
    let g ← Given.read selectFlags words
    g.noOperand
    return .select (← g.file "file") (← g.file "input") (← g.value? "name") (← g.file? "options")
  | word :: _ => .error (.unknownCommand word)

end Sift.CommandLine
