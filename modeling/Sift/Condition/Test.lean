import Sift.Condition.Basic
import Sift.Condition.Context
import Sift.Value.Printer

/-! Testing one value with one operator.

A test passes, or fails for a reason that is worth telling, or does not fit: the
parameter and the value have nothing to do with each other then, and the condition
fails without a reason. -/
namespace Sift

/-- What makes an evaluation fail altogether: a version constraint that was computed
and is none. -/
inductive ConfigError where
  | invalidConstraint (text : String)
  deriving DecidableEq, Repr

def ConfigError.message : ConfigError → String
  | .invalidConstraint text =>
    "Configuration error: " ++ (Version.VersionError.invalidConstraint text).message

inductive Verdict where
  | pass
  | fail (message : String)
  | unfit
  deriving DecidableEq, Repr

/-- Passes if `holds`, and fails with the message else. -/
def Verdict.check (holds : Bool) (message : String) : Verdict :=
  if holds then .pass else .fail message

/-- Steps of an evaluation. What was collected is kept when one of them fails. -/
abbrev Evaluation (α β : Type) := ExceptT ConfigError (StateM (Context α)) β

namespace Verdict

/-! ### Messages -/

section Messages

variable {α : Type} [Viewable α]

/-- A value in a message: a text as it is, anything else as it is written. -/
def shown (v : α) : String :=
  match View.text? v with
  | some s => s
  | none => (Viewable.copy v).compact

def quoted (texts : List String) : String :=
  ", ".intercalate (texts.map fun s => "'" ++ s ++ "'")

def isSetTo (v : α) : String := s!"Is set to '{shown v}'."

def notText (v : α) : String := s!"The value '{shown v}' is not a string."

end Messages

def missing (field : String) : String := s!"The field '{field}' does not exist."

def nullOrEmpty : String := "The value is null or empty."

/-! ### Operators -/

section Operators

variable {α : Type} [Viewable α]

/-- Where the value stands does not matter to the order of the arguments: the
expected value comes first, and it is always converted. -/
def equals (f : Flags) (negated : Bool) (expected : Value) (v : α) : Verdict :=
  check (Coerce.equal expected v f.caseSensitive true f.convert != negated) (isSetTo v)

def hasDefault (f : Flags) (expected : Value) (v : α) : Verdict :=
  check (Coerce.equal expected v f.caseSensitive true false) (isSetTo v)

def hasValue (expected : Bool) (v : α) : Verdict :=
  check (expected != View.isNullOrEmpty v) (isSetTo v)

def matches_ (negated : Bool) (p : Pattern) (v : α) : Verdict :=
  let verb := if negated then "matches" else "does not match"
  check ((View.text? v).any p.isMatch != negated)
    s!"The value '{shown v}' {verb} the pattern '{p.source}'."

def among (f : Flags) (negated : Bool) (set : List Value) (v : α) : Verdict :=
  let included := set.any fun expected => Coerce.isIn v expected f.caseSensitive
  if negated then check (!included) (isSetTo v)
  else check included
    s!"The value '{shown v}' was not included in the set {quoted (set.map shown)}."

def setOf (f : Flags) (field : String) (items : List Value) (v : α) : Verdict :=
  match View.count? v with
  | none => .fail s!"The field '{field}' is not enumerable."
  | some count =>
    if count = items.length then
      match items.find? fun item => !Coerce.isIn v item f.caseSensitive with
      | some item => .fail s!"The field '{field}' did not include '{shown item}'."
      | none => .pass
    else .fail s!"The field '{field}' has {count} items instead of {items.length}."

/-- What is wrong with how often an item occurs. -/
def occurrence? (f : Flags) (field : String) (v : α) (item : Value) : Option String :=
  let count := Coerce.countIn v item f.caseSensitive
  if count = 0 then some s!"The field '{field}' did not include '{shown item}'."
  else if 1 < count && f.unique then
    some s!"The field '{field}' included multiple instances of '{shown item}'."
  else none

def subset (f : Flags) (field : String) (items : List Value) (v : α) : Verdict :=
  match View.count? v with
  | none => .fail s!"The field '{field}' is not enumerable."
  | some _ =>
    match items.findSome? (occurrence? f field v) with
    | some message => .fail message
    | none => .pass

def count (negated : Bool) (expected : Value) (v : α) : Verdict :=
  match Coerce.long? expected true with
  | none => .unfit
  | some n =>
    if View.isNull v then .fail "The value is null."
    else
      let actual := (View.count? v).getD 0
      if negated then
        check ((View.count? v).any fun count => (count : Int) != n)
          s!"The value should not have {actual} items."
      else
        check ((View.count? v).any fun count => (count : Int) == n)
          s!"The value has {actual} items instead of {n}."

def bound (now : Time.Instant) (f : Flags) (b : Bound) (limit : Value) (v : α) : Verdict :=
  match Coerce.long? limit true with
  | none => .unfit
  | some n =>
    if View.isNull v then check (b.accepts (compare 0 n)) nullOrEmpty
    else match Coerce.order? now v (Value.int n) f.convert with
      | none => .unfit
      | some o => check (b.accepts o) s!"The value '{shown v}' was not {b.symbol} {n}."

/-- The first pattern that one of the texts passes, with that text. -/
def hit? (f : Flags) (t : TextTest) (patterns texts : List String) : Option (String × String) :=
  patterns.findSome? fun pattern =>
    (texts.find? fun text => t.holds text pattern f.caseSensitive).map fun text => (text, pattern)

def text (f : Flags) (t : TextTest) (negated : Bool) (patterns : List String) (v : α) : Verdict :=
  let texts :=
    if t = .like then (Coerce.text? v f.convert).map fun s => [s] else Coerce.texts? v f.convert
  match texts with
  | none => check negated (notText v)
  | some texts =>
    match hit? f t patterns texts with
    | some (text, pattern) => check (!negated) s!"The value '{text}' does {t.verb} '{pattern}'."
    | none =>
      check negated s!"The value {quoted texts} does not {t.verb} {quoted patterns}."

/-- Whether a value is of a kind, and what the kind is called. There is none for
letter case where there is no text. -/
def ofKind? (now : Time.Instant) (f : Flags) (k : KindTest) (v : α) : Option (Bool × String) :=
  match k with
  | .string => some ((View.text? v).isSome, "a string")
  | .array => some (View.isArray v, "an array")
  | .boolean => some ((Coerce.bool? v f.convert).isSome, "a boolean")
  | .dateTime => some ((Coerce.instant? now v f.convert).isSome, "a date")
  | .integer => some ((Coerce.long? v f.convert).isSome, "an integer")
  | .numeric =>
    some ((Coerce.long? v f.convert).isSome || (Coerce.float? v f.convert).isSome, "numeric")
  | .lower => (View.text? v).map fun s => (Text.isLower s f.requireLetters, "lowercase")
  | .upper => (View.text? v).map fun s => (Text.isUpper s f.requireLetters, "uppercase")

def isKind (now : Time.Instant) (f : Flags) (k : KindTest) (expected : Bool) (v : α) : Verdict :=
  match ofKind? now f k v with
  | none => check (!expected) (notText v)
  | some (actual, noun) =>
    let not := if expected then " not" else ""
    check (actual == expected) s!"The value '{shown v}' is{not} {noun}."

/-- A version as its grammar has it, or what it is not. -/
def version (g : Version.Grammar) (text : String)
    (constraint : Except ConfigError Version.Constraint) : Except ConfigError Verdict := do
  let judge := fun (core : Version.Core) (p : Version.Prerelease) (display : String) => do
    let c ← constraint
    .ok (check (c.accepts core p)
      s!"The version '{display}' does not match the constraint '{c.display}'.")
  let invalid := Verdict.fail s!"The version '{text}' is not a valid version."
  match g with
  | .semantic =>
    match Version.Semantic.parse text with
    | .ok v => judge v.core v.prerelease v.display
    | .error _ => .ok invalid
  | .date =>
    match Version.Calendar.parse text with
    | .ok v => judge v.core v.prerelease v.display
    | .error _ => .ok invalid

end Operators

end Verdict

/-! ### Operators in a context -/

namespace Operator

section

variable {α β : Type} [Viewable α] [Viewable β]

def addReason (origin : Origin) (path message : String) : Evaluation α Unit :=
  modify fun c => c.addReason origin path message

/-- The pattern of a source, if it gives one. -/
def patternOf (f : Flags) : PatternSource → Evaluation α (Option Pattern)
  | .literal p => pure (some p)
  | .function e => do
    match (e.eval (← get).scope).text? with
    | none => pure none
    | some s => modifyGet fun c => c.pattern s f.caseSensitive

/-- The field that names the schema of a document. -/
def schemaField : String := "$schema"

def testSchema (f : Flags) (schemas : List String) (v : β) : Evaluation α Verdict := do
  match View.field? v schemaField false with
  | none =>
    addReason .path schemaField (Verdict.missing schemaField)
    pure .unfit
  | some schema =>
    match View.text? schema with
    | none =>
      addReason .path schemaField (Verdict.notText schema)
      pure .unfit
    | some actual =>
      if actual.isEmpty then
        addReason .path schemaField Verdict.nullOrEmpty
        pure .unfit
      else
        let specified := schemas.isEmpty ||
          Text.anySchema actual schemas f.ignoreScheme f.caseSensitive
        pure (.check specified s!"The schema '{actual}' is not a specified schema.")

/-- The constraint that a computed value gives. -/
def constraintOf (g : Version.Grammar) (f : Flags) (text : String) :
    Except ConfigError Version.Constraint :=
  match Version.Constraint.parse g text f.includePrerelease with
  | .ok c => .ok c
  | .error _ => .error (.invalidConstraint text)

/-- A computed constraint has to be a text even for a value that is no version. -/
def testVersion (f : Flags) (g : Version.Grammar) (source : ConstraintSource) (v : β) :
    Evaluation α Verdict := do
  match View.text? v with
  | none => pure (.fail (Verdict.notText v))
  | some s =>
    match source with
    | .literal c => liftExcept (Verdict.version g s (.ok c))
    | .function e =>
      let produced := e.eval (← get).scope
      match produced.text? with
      | none => throw (.invalidConstraint produced.compact)
      | some constraint => liftExcept (Verdict.version g s (constraintOf g f constraint))
where
  liftExcept (r : Except ConfigError Verdict) : Evaluation α Verdict :=
    match r with
    | .ok verdict => pure verdict
    | .error e => throw e

/-- Tests a value that is called `path`. -/
def test (f : Flags) (path : String) (v : β) (o : Operator) : Evaluation α Verdict := do
  let c ← get
  match o with
  | .resolves _ => pure .unfit
  | .equals negated expected => pure (.equals f negated (expected.value c.scope) v)
  | .hasDefault expected => pure (.hasDefault f (expected.value c.scope) v)
  | .hasValue expected => pure (.hasValue expected v)
  | .matches negated source =>
    match ← patternOf f source with
    | some p => pure (.matches_ negated p v)
    | none => pure .unfit
  | .among negated set => pure (.among f negated set v)
  | .setOf items => pure (.setOf f path items v)
  | .subset items => pure (.subset f path items v)
  | .count negated expected => pure (.count negated (expected.value c.scope) v)
  | .bound b limit => pure (.bound c.now f b (limit.value c.scope) v)
  | .text t negated patterns => pure (.text f t negated patterns v)
  | .isKind k expected => pure (.isKind c.now f k expected v)
  | .hasSchema schemas => testSchema f schemas v
  | .version g source => testVersion f g source v

end

end Operator

/-! ### Leaves -/

namespace Leaf

variable {α : Type} [Viewable α]

/-- A value with what is told about it. -/
structure Operand (α : Type) where
  origin : Origin
  path : String
  value : Tested α

/-- The value that a leaf tests. A field that is not there is a reason to fail. -/
def operand? (l : Leaf) : Evaluation α (Option (Operand α)) := do
  let c ← get
  let bound := fun (origin : Origin) (found : Option (String × String)) =>
    found.map fun (text, field) => Operand.mk origin field (.made (.text text))
  match l.subject with
  | none => pure none
  | some (.field path) =>
    match c.resolve path with
    | some v => pure (some ⟨.path, path.source, v⟩)
    | none =>
      Operator.addReason .path path.source (Verdict.missing path.source)
      pure none
  | some .name => pure (bound .name c.name?)
  | some .type => pure (bound .type c.type?)
  | some (.value p) => pure (some ⟨.value, "", .made (p.value c.scope)⟩)

/-- Whether the field of a leaf leads anywhere, as it is expected to. -/
def evaluateResolves (l : Leaf) (expected : Bool) : Evaluation α Bool := do
  match l.field? with
  | none => pure false
  | some path =>
    let found := ((← get).resolve path).isSome
    if found == expected then pure true
    else
      let message := if expected then Verdict.missing path.source
        else s!"The field '{path.source}' exists."
      Operator.addReason .path path.source message
      pure false

/-- The field of a leaf leads nowhere. -/
def isMissing (l : Leaf) (c : Context α) : Bool :=
  l.field?.any fun path => (c.resolve path).isNone

def evaluateOperand (l : Leaf) : Evaluation α Bool := do
  match ← l.operand? with
  | none => pure false
  | some operand =>
    let verdict ← match operand.value with
      | .target v => l.operator.test l.flags operand.path v
      | .made v => l.operator.test l.flags operand.path v
    match verdict with
    | .pass => pure true
    | .fail message =>
      Operator.addReason operand.origin operand.path message
      pure false
    | .unfit => pure false

def evaluate (l : Leaf) : Evaluation α Bool := do
  match l.operator with
  | .resolves expected => l.evaluateResolves expected
  | operator =>
    if operator.passesMissing && l.isMissing (← get) then pure true
    else l.evaluateOperand

end Leaf

end Sift
