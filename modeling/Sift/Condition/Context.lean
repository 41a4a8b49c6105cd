import Sift.Condition.Reason
import Sift.Function.Basic
import Sift.Options
import Sift.Value.Printer

/-! What an evaluation knows and collects.

A context belongs to one target. Conditions may enter items of the target, one
inside of another, and leave them again; fields are looked up in the innermost one.
The reasons that failing conditions give are kept in order. -/
namespace Sift

/-- An item that was entered, and its path in what is around it. -/
structure Entered (α : Type) where
  item : α
  place : String

structure Context (α : Type) where
  root : α
  options : Options
  /-- What makes the patterns of conditions. -/
  engine : Engine
  now : Time.Instant
  /-- The items that are entered, innermost first. -/
  entered : List (Entered α)
  reasons : List Reason
  /-- Patterns that were made during the evaluation, under their texts and whether
  case counts in them. -/
  patterns : List ((String × Bool) × Pattern)
  /-- The name of the target, if it was given. -/
  targetName : Option String
  targetType : Option String
  /-- The path of the target in a larger document. -/
  parent : String

/-- A value to test: a part of the target, or one that was made for the test. -/
inductive Tested (α : Type) where
  | target (v : α)
  | made (v : Value)

namespace Context

def of (engine : Engine) (root : α) (options : Options) (now : Time.Instant) : Context α :=
  ⟨root, options, engine, now, [], [], [], none, none, ""⟩

variable {α : Type} [Viewable α]

/-- The value that fields are looked up in. -/
def current (c : Context α) : α :=
  match c.entered with
  | [] => c.root
  | e :: _ => e.item

def query (c : Context α) : Path.QueryOptions := c.options.query c.engine c.now

/-! ### Items and reasons -/

def enter (c : Context α) (item : α) (place : String) : Context α :=
  { c with entered := ⟨item, place⟩ :: c.entered }

def leave (c : Context α) : Context α := { c with entered := c.entered.tail }

/-- The path of the innermost item within the target. -/
def itemPath (c : Context α) : String :=
  c.entered.foldr (fun e outer => joinPath outer e.place) ""

def addReason (c : Context α) (origin : Origin) (path message : String) : Context α :=
  { c with reasons := c.reasons ++ [⟨origin, path, c.itemPath, c.parent, message⟩] }

/-- Forgets the reasons behind the first `count`. -/
def keepReasons (c : Context α) (count : Nat) : Context α :=
  { c with reasons := c.reasons.take count }

def withoutReasons (c : Context α) : Context α := { c with reasons := [] }

/-! ### Values -/

/-- The value of a field. A path that may lead to several values gives an array. -/
def resolve (c : Context α) (field : Path.Program) : Option (Tested α) :=
  (field.evaluate c.query c.current).map fun
    | .scalar v => .target v
    | .sequence vs => .made (.array (vs.map Viewable.copy))

/-- The first of the fields that holds a text, and that text. -/
def bind? (c : Context α) (fields : List String) : Option (String × String) :=
  fields.findSome? fun field =>
    (((View.field? c.current field c.options.binding.caseSensitive).bind View.text?).filter
      (!·.isEmpty)).map fun text => (text, field)

/-- The name of the target, and the field it is from. -/
def name? (c : Context α) : Option (String × String) :=
  match c.targetName with
  | some name => some (name, "")
  | none => c.bind? c.options.binding.targetName

def type? (c : Context α) : Option (String × String) :=
  match c.targetType with
  | some type => some (type, "")
  | none => c.bind? c.options.binding.targetType

/-- The surroundings that functions see. -/
def scope (c : Context α) : Function.Scope where
  configuration name := Value.member? c.options.configuration name
  query program :=
    ((program.evaluate c.query c.current).bind Path.Selection.first?).map Viewable.copy
  now := c.now

/-- The pattern for a text, made now or before. -/
def pattern (c : Context α) (text : String) (caseSensitive : Bool) :
    Option Pattern × Context α :=
  match c.patterns.lookup (text, caseSensitive) with
  | some p => (some p, c)
  | none =>
    match c.engine.compile? text caseSensitive c.options.execution.regexSizeLimit with
    | some p => (some p, { c with patterns := ((text, caseSensitive), p) :: c.patterns })
    | none => (none, c)

end Context

end Sift
