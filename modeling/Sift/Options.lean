import Sift.Path.Evaluate
import Sift.Yaml.Content

/-! The options of an engine, as an options document gives them.

Every entry may be left out, and entries of other names are ignored. Names count as
they are written, and none of the known ones may come twice. -/
namespace Sift

/-- Where the name and the type of a target are looked for. -/
structure Binding where
  /-- The fields that may hold the name, the first one first. -/
  targetName : List String := ["TargetName", "Name"]
  targetType : List String := ["TargetType", "Type"]
  caseSensitive : Bool := false
  deriving BEq, Repr

structure Execution where
  /-- Bounds the nesting of conditions and the depth of searches. -/
  maxDepth : Nat := Path.defaultMaxDepth
  regexSizeLimit : Nat := defaultSizeLimit
  deriving BEq, Repr

structure Options where
  /-- Values that conditions may refer to by name. -/
  configuration : List (String × Value) := []
  binding : Binding := {}
  execution : Execution := {}
  deriving Repr

namespace Options

/-- How queries are run under these options. -/
def query (o : Options) (engine : Engine) (now : Time.Instant) : Path.QueryOptions :=
  ⟨o.binding.caseSensitive, o.execution.maxDepth, now, engine, o.execution.regexSizeLimit⟩

/-! ### Reading -/

open Yaml

/-- A plain scalar without text stands for any empty collection. -/
def isVoid : Node → Bool
  | .scalar _ .plain s => s.isEmpty
  | _ => false

/-- The members of a mapping, under the texts of their names. -/
def members? : Node → Option (List (String × Node))
  | .mapping _ members => members.mapM fun (k, v) => k.scalarText?.map fun name => (name, v)
  | n => if isVoid n then some [] else none

/-- The members of a mapping, if no name of `known` comes twice among them. -/
def record? (known : List String) (n : Node) : Option (List (String × Node)) := do
  let members ← members? n
  if known.all fun name => members.countP (·.1 == name) ≤ 1 then some members else none

/-- What a member stands for, or `default` if it is not there. -/
def entry (members : List (String × Node)) (name : String) (default : α)
    (read : Node → Option α) : Option α :=
  match members.lookup name with
  | some n => read n
  | none => some default

def texts? : Node → Option (List String)
  | .sequence _ items => items.mapM Node.scalarText?
  | n => if isVoid n then some [] else none

def bool? : Node → Option Bool
  | .scalar _ .plain s => readBool? s
  | _ => none

/-- A whole number of 64 bits without a minus. -/
def count? : Node → Option Nat
  | .scalar _ .plain s =>
    if s.startsWith "-" then none
    else (readInt? s).bind fun n => if fitsWord n then some n.toNat else none
  | _ => none

def binding? (n : Node) : Option Binding := do
  let members ← record? ["targetName", "targetType", "caseSensitive"] n
  let default : Binding := {}
  let targetName ← entry members "targetName" default.targetName texts?
  let targetType ← entry members "targetType" default.targetType texts?
  let caseSensitive ← entry members "caseSensitive" default.caseSensitive bool?
  some ⟨targetName, targetType, caseSensitive⟩

def execution? (n : Node) : Option Execution := do
  let members ← record? ["maxDepth", "regexSizeLimit"] n
  let default : Execution := {}
  let maxDepth ← entry members "maxDepth" default.maxDepth count?
  let regexSizeLimit ← entry members "regexSizeLimit" default.regexSizeLimit count?
  some ⟨maxDepth, regexSizeLimit⟩

def configuration? (n : Node) : Option (List (String × Value)) := do
  let members ← members? n
  let values ← members.mapM fun (name, v) => v.value?.map fun v => (name, v)
  some (values.foldl (fun read (name, v) => Value.setMember read name v) [])

def ofNode? (n : Node) : Option Options := do
  let members ← record? ["configuration", "binding", "execution"] n
  let configuration ← entry members "configuration" [] configuration?
  let binding ← entry members "binding" {} binding?
  let execution ← entry members "execution" {} execution?
  some ⟨configuration, binding, execution⟩

/-- The options of a document in YAML. -/
def parse? (text : String) : Option Options :=
  if Text.isBlankText text then some {} else (document? text).bind ofNode?

end Options

end Sift
