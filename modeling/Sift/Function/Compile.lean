import Sift.Text.Ascii
import Sift.Text.LowerCase
import Sift.Text.Visible
import Sift.Function.Basic
import Sift.Path.Compile
import Sift.Condition.Error

/-! From the bodies of function expressions to expressions.

A body is a mapping. The first of its keys that the registry knows says which
function it is, and all its members are arguments, known or not. A mapping among
the arguments is a body of its own, and may stand below the key `$`. -/
namespace Sift.Function

open Text

/-! ### Arguments -/

/-- The arguments of a body under their keys, in order. -/
abbrev Arguments := List (String × Expr)

namespace Arguments

/-- The first argument under a key, whatever the ASCII case of the key. -/
def get? (args : Arguments) (key : String) : Option Expr :=
  (List.find? (fun a => sameAscii a.1 key) args).map Prod.snd

def literal? (args : Arguments) (key : String) : Option Value := (args.get? key).bind Expr.literal?

def text? (args : Arguments) (key : String) : Option String :=
  (args.literal? key).bind Value.text?

def long? (args : Arguments) (key : String) : Option Int :=
  (args.literal? key).bind fun v => Coerce.long? v true

def bool? (args : Arguments) (key : String) : Option Bool :=
  (args.literal? key).bind fun v => Coerce.bool? v true

/-- One text, or a list of texts. -/
def texts? (args : Arguments) (key : String) : Option (List String) :=
  match args.get? key with
  | some (.constant (.text s)) => some [s]
  | some (.list items) => items.mapM fun item => item.literal?.bind Value.text?
  | _ => none

end Arguments

/-- The function applied to its arguments, if they are of use to it. -/
def Builtin.apply? (engine : Engine) (f : Builtin) (args : Arguments) : Option Expr :=
  let main := args.get? f.name
  let pad := fun (side : Side) => main.map fun arg =>
    let width := ((args.long? "totalLength").getD 0).toNat
    let filling := (args.text? "paddingCharacter").filter (!·.isEmpty)
    Expr.pad side arg width (filling.getD " ")
  match f with
  | .configuration => (args.text? f.name).map .configuration
  | .path => do
    let path ← args.text? f.name
    (Path.Program.compile engine path defaultSizeLimit).toOption.map .path
  | .boolean => main.map .boolean
  | .string => main.map .string
  | .integer => main.map .integer
  | .concat =>
    match main with
    | some (.list items) => some (.concat items)
    | _ => none
  | .substring => do
    let length ← args.long? "length"
    let arg ← main
    some (.substring arg length.toNat)
  | .replace => do
    let old ← args.text? "oldstring"
    let new ← args.text? "newstring"
    let arg ← main
    let replacer ← engine.replacer? old ((args.bool? "casesensitive").getD false)
    some (.replace arg old new replacer)
  | .trim => main.map .trim
  | .first => main.map .first
  | .last => main.map .last
  | .split => do
    let delimiters ← args.texts? "delimiter"
    let arg ← main
    some (.split arg (delimiters.filter (!·.isEmpty)))
  | .padLeft => pad .left
  | .padRight => pad .right

/-! ### Registry -/

/-- What makes an expression of arguments: a function of the library, or one that the
host brings along and the library knows nothing of. -/
inductive Maker where
  | library (f : Builtin)
  | host (build : Arguments → Option (Scope → Value))

namespace Maker

/-- The expression for the arguments, if they are of use. -/
def expr? (engine : Engine) (f : Maker) (args : Arguments) : Option Expr :=
  match f with
  | .library f => f.apply? engine args
  | .host build => (build args).map .host

end Maker

structure Registry where
  /-- What makes the patterns that functions use. -/
  engine : Engine
  /-- The functions that expressions may use, under lower-case names. -/
  functions : List (String × Maker)

namespace Registry

def empty (engine : Engine) : Registry := ⟨engine, []⟩

/-- Makes a function known under a name; what the name stood for is replaced. -/
def register (r : Registry) (name : String) (f : Maker) : Registry :=
  let key := lowerText name
  { r with functions := r.functions.filter (·.1 != key) ++ [(key, f)] }

def find? (r : Registry) (name : String) : Option Maker := r.functions.lookup (lowerText name)

def contains (r : Registry) (name : String) : Bool := (r.find? name).isSome

/-- All functions of the library under their own names. -/
def standard (engine : Engine) : Registry :=
  Builtin.all.foldl (fun r f => r.register f.name (.library f)) (empty engine)

/-- The names of all functions, in order. -/
def names (r : Registry) : List String := (r.functions.map Prod.fst).mergeSort (· ≤ ·)

/-- The registry in one line. -/
def summary (r : Registry) : String :=
  "FunctionRegistry \x7b functions: " ++ visibleList r.names ++ " \x7d"

end Registry

/-! ### Bodies -/

/-- The key that marks a function expression. -/
def functionKey : String := "$"

/-- The body of a function expression. -/
def body? : Value → Option Value
  | .object [(key, body)] => if key = functionKey then some body else none
  | _ => none

/-- Picks the function for a body located at `path`, and applies it. -/
def applyKnown (r : Registry) (path : String) (args : Arguments) : Except BuildError Expr :=
  match List.find? (fun a => r.contains a.1) args with
  | none => .error (.invalid path .noFunction)
  | some (name, _) =>
    match (r.find? name).bind fun f => f.expr? r.engine args with
    | some e => .ok e
    | none => .error (.invalid path (.invalidArguments name))

mutual

/-- The expression for a body. -/
def compile (r : Registry) (path : String) : Value → Except BuildError Expr
  | .object members => do
    let args ← compileArguments r path members
    applyKnown r path args
  | _ => .error (.invalid path .functionNotMapping)
termination_by structural v => v

def compileArgument (r : Registry) (path : String) : Value → Except BuildError Expr
  | .object members =>
    match members with
    | [(key, inner)] =>
      if key = functionKey then compile r path inner
      else do
        let arg ← compileArgument r (path ++ "." ++ key) inner
        applyKnown r path [(key, arg)]
    | members => do
      let args ← compileArguments r path members
      applyKnown r path args
  | .array items => do
    let items ← compileItems r path 0 items
    .ok (.list items)
  | v => .ok (.constant v)
termination_by structural v => v

def compileArguments (r : Registry) (path : String) :
    List (String × Value) → Except BuildError Arguments
  | [] => .ok []
  | (key, v) :: rest => do
    let arg ← compileArgument r (path ++ "." ++ key) v
    let args ← compileArguments r path rest
    .ok ((key, arg) :: args)
termination_by structural members => members

def compileItems (r : Registry) (path : String) (i : Nat) :
    List Value → Except BuildError (List Expr)
  | [] => .ok []
  | v :: rest => do
    let item ← compileArgument r s!"{path}[{i}]" v
    let items ← compileItems r path (i + 1) rest
    .ok (item :: items)
termination_by structural items => items

end

end Sift.Function
