import Sift.Condition.Basic
import Sift.Condition.Error
import Sift.Function.Compile
import Sift.Options

/-! From condition documents to conditions.

A condition is a mapping with one combinator, or with one operator and what it tests.
Which keys it has decides which; all other keys are looked up when they are needed and
ignored if they are not. Keys are found in any ASCII case, but an exact key goes first.
The document is read from the outside in, and the first fault ends the reading. -/
namespace Sift

open Text

/-- What condition documents are built with. -/
structure Builder where
  functions : Function.Registry
  /-- How deep conditions may be nested. -/
  maxDepth : Nat
  regexSizeLimit : Nat

namespace Builder

def of (engine : Engine) (o : Options) : Builder :=
  ⟨.standard engine, o.execution.maxDepth, o.execution.regexSizeLimit⟩

/-- What makes the patterns of conditions. -/
def engine (b : Builder) : Engine := b.functions.engine

/-- A bound of zero stands for the usual one. -/
def withMaxDepth (b : Builder) (maxDepth : Nat) : Builder :=
  { b with maxDepth := if maxDepth = 0 then Path.defaultMaxDepth else maxDepth }

/-! ### Members -/

abbrev Members := List (String × Value)

/-- The member under a key: the exact one, or else the first in any ASCII case. -/
def member? (members : Members) (key : String) : Option Value :=
  match Value.member? members key with
  | some v => some v
  | none => (members.find? fun m => sameAscii m.1 key).map Prod.snd

/-- A fault at a place in the document; the document as a whole is at `.`. -/
def fault (path : String) (cause : BuildCause) : BuildError :=
  .invalid (if path.isEmpty then "." else path) cause

def require (path : String) (cause : BuildCause) : Option α → Except BuildError α
  | some a => .ok a
  | none => .error (fault path cause)

/-! ### Parameters -/

def bool (path : String) (v : Value) : Except BuildError Bool :=
  require path .notBool (Coerce.bool? v true)

def values (path : String) : Value → Except BuildError (List Value)
  | .array items => .ok items
  | _ => .error (fault path .notValues)

/-- One text, or several. -/
def texts (path : String) : Value → Except BuildError (List String)
  | .text s => .ok [s]
  | .array items => require path .notTexts (items.mapM Value.text?)
  | _ => .error (fault path .notTextOrTexts)

def parameter (b : Builder) (path : String) (v : Value) : Except BuildError Parameter :=
  match Function.body? v with
  | some body => (Function.compile b.functions path body).map .function
  | none => .ok (.literal v)

/-- An integer, or what computes one. -/
def integer (b : Builder) (path : String) (v : Value) : Except BuildError Parameter := do
  let p ← b.parameter path v
  match p with
  | .literal v => (require path .notInteger (Coerce.long? v true)).map fun _ => p
  | .function _ => .ok p

def pattern (b : Builder) (path : String) (f : Flags) (v : Value) :
    Except BuildError PatternSource :=
  match Function.body? v with
  | some body => (Function.compile b.functions path body).map .function
  | none => do
    let text ← require path .notPattern v.text?
    let p ← require path (.invalidPattern text)
      (b.engine.compile? text f.caseSensitive b.regexSizeLimit)
    .ok (.literal p)

def constraint (b : Builder) (path : String) (g : Version.Grammar) (f : Flags) (v : Value) :
    Except BuildError ConstraintSource :=
  match Function.body? v with
  | some body => (Function.compile b.functions path body).map .function
  | none => do
    let text ← require path .notConstraint v.text?
    match Version.Constraint.parse g text f.includePrerelease with
    | .ok c => .ok (.literal c)
    | .error e => .error (.version e)

def operator (b : Builder) (path : String) (f : Flags) (kind : OperatorKind) (v : Value) :
    Except BuildError Operator :=
  match kind with
  | .resolves => (bool path v).map .resolves
  | .equals negated => (b.parameter path v).map (.equals negated)
  | .hasDefault => (b.parameter path v).map .hasDefault
  | .hasValue => (bool path v).map .hasValue
  | .matches negated => (b.pattern path f v).map (.matches negated)
  | .among negated => (values path v).map (.among negated)
  | .setOf => (values path v).map .setOf
  | .subset => (values path v).map .subset
  | .count negated => (b.integer path v).map (.count negated)
  | .bound bound => (b.integer path v).map (.bound bound)
  | .text t negated => (texts path v).map (.text t negated)
  | .isKind k => (bool path v).map (.isKind k)
  | .hasSchema => (texts path v).map .hasSchema
  | .version g => (b.constraint path g f v).map (.version g)

/-! ### Leaves -/

def flag (path : String) (members : Members) (key : String) : Except BuildError Bool :=
  match member? members key with
  | none => .ok false
  | some v => require path (.flagNotBool key) (Coerce.bool? v true)

def flags (path : String) (members : Members) : Except BuildError Flags := do
  let caseSensitive ← flag path members "caseSensitive"
  let convert ← flag path members "convert"
  let unique ← flag path members "unique"
  let ignoreScheme ← flag path members "ignoreScheme"
  let includePrerelease ← flag path members "includePrerelease"
  let requireLetters ← flag path members "requireLetters"
  .ok ⟨caseSensitive, convert, unique, ignoreScheme, includePrerelease, requireLetters⟩

def field (b : Builder) (path : String) (v : Value) : Except BuildError Path.Program := do
  let source ← require path .fieldNotText v.text?
  match Path.Program.compile b.engine source b.regexSizeLimit with
  | .ok program => .ok program
  | .error e => .error (fault path (.path e))

/-- The name and the type of the target are only asked for by a dot. -/
def self (path key : String) (subject : Subject) (v : Value) :
    Except BuildError (Option Subject) :=
  if v.text? = some "." then .ok (some subject) else .error (fault path (.notSelf key))

/-- What a leaf tests: a field goes before the type, the name and a value. -/
def subject (b : Builder) (path : String) (members : Members) :
    Except BuildError (Option Subject) :=
  match member? members "field" with
  | some v => (b.field path v).map fun program => some (.field program)
  | none =>
    match member? members "type" with
    | some v => self path "type" .type v
    | none =>
      match member? members "name" with
      | some v => self path "name" .name v
      | none =>
        match member? members "value" with
        | some v => (b.parameter path v).map fun p => some (.value p)
        | none => .ok none

/-- The operator that a key stands for, with the key as it is written. -/
def operators (members : Members) : List (OperatorKind × String × Value) :=
  members.filterMap fun (key, v) => (OperatorKind.ofKey? key).map fun kind => (kind, key, v)

/-- What a document without a combinator tests, and the place of its operator. -/
def readLeaf (b : Builder) (location : String) (members : Members) :
    Except BuildError (String × Leaf) :=
  match operators members with
  | [(kind, key, v)] => do
    let path := location ++ "." ++ key
    let f ← flags path members
    let subject ← b.subject path members
    if kind.needsField then
      match subject with
      | some (.field _) => pure ()
      | _ => throw (fault path (.needsField key))
    let operator ← b.operator path f kind v
    .ok (location ++ "." ++ operator.name, ⟨operator, subject, f⟩)
  | [] => .error (fault location .noOperator)
  | _ => .error (fault location .severalOperators)

def leaf (b : Builder) (location : String) (members : Members) : Except BuildError Condition :=
  (b.readLeaf location members).map fun (path, l) => .leaf path l

/-! ### Groups -/

/-- The keys of quantifiers, in the order in which they are looked for. -/
def quantifiers : List (String × (Int → Quantifier)) :=
  [("greaterOrEqual", .bound .greaterOrEquals), ("greaterOrEquals", .bound .greaterOrEquals),
    ("greater", .bound .greater), ("lessOrEqual", .bound .lessOrEquals),
    ("lessOrEquals", .bound .lessOrEquals), ("less", .bound .less), ("count", .count)]

def quantifier (path : String) (members : Members) : Except BuildError (Option Quantifier) :=
  let found := quantifiers.findSome? fun (key, make) =>
    (member? members key).map fun v => (key, make, v)
  match found with
  | none => .ok none
  | some (key, make, v) => do
    let n ← require path (.quantifierNotInteger key) (Coerce.long? v true)
    .ok (some (make n))

def combinators (members : Members) : List (Combinator × Value) :=
  members.filterMap fun (key, v) => (Combinator.ofKey? key).map fun c => (c, v)

/-- The documents of the children of a group. -/
def children (path : String) (c : Combinator) (v : Value) : Except BuildError (List Value) :=
  match v with
  | .array items =>
    if !c.isUnary then .ok items
    else if items.length = 1 then .ok items
    else .error (fault path .notOneCondition)
  | v =>
    if c.isUnary then
      if View.isObject v then .ok [v]
      else if c = .when && View.isNull v then .ok []
      else .error (fault path .notOneCondition)
    else .error (fault path .notConditions)

/-- Reads documents in order, each at its place in the group. -/
def readAll (read : String → Value → Except BuildError Condition) (path : String) (i : Nat) :
    List Value → Except BuildError (List Condition)
  | [] => .ok []
  | v :: rest => do
    let c ← read s!"{path}[{i}]" v
    let cs ← readAll read path (i + 1) rest
    .ok (c :: cs)

/-- The condition for a document that may be nested `levels` deep. -/
def condition (b : Builder) : Nat → String → Value → Except BuildError Condition
  | 0, location, _ => .error (fault location (.tooDeep b.maxDepth))
  | levels + 1, location, .object members =>
    match combinators members with
    | [] => b.leaf location members
    | [(combinator, v)] => do
      let path := location ++ "." ++ combinator.name
      let documents ← children path combinator v
      let children ← readAll (b.condition levels) path 0 documents
      match member? members "field" with
      | none => .ok (.group path combinator children)
      | some v =>
        let field ← b.field path v
        let filter ← match member? members "where" with
          | none => pure none
          | some v => some <$> b.condition levels (path ++ ".where") v
        let quantifier ← quantifier path members
        .ok (.forEach path combinator children field filter quantifier)
    | _ => .error (fault location .severalCombinators)
  | _, location, _ => .error (fault location .notMapping)

def build (b : Builder) (document : Value) : Except BuildError Condition :=
  b.condition b.maxDepth "" document

end Builder

end Sift
