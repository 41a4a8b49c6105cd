import Sift.Function.Basic
import Sift.Text.Ascii
import Sift.Text.Compare
import Sift.Version.Constraint

/-! The words of conditions: combinators, quantifiers and operators. -/
namespace Sift

open Text

/-! ### Combinators -/

inductive Combinator where
  | allOf
  | anyOf
  | not
  | when
  deriving DecidableEq, Repr

namespace Combinator

def all : List Combinator := [.allOf, .anyOf, .not, .when]

def name : Combinator → String
  | .allOf => "allOf"
  | .anyOf => "anyOf"
  | .not => "not"
  | .when => "if"

/-- The combinator that a key stands for, in any ASCII case. -/
def ofKey? (key : String) : Option Combinator := all.find? fun c => sameAscii c.name key

/-- Takes one condition and not a list of them. -/
def isUnary : Combinator → Bool
  | .not | .when => true
  | _ => false

end Combinator

/-! ### Bounds and quantifiers -/

inductive Bound where
  | less
  | lessOrEquals
  | greater
  | greaterOrEquals
  deriving DecidableEq, Repr

namespace Bound

/-- The order of a value against its bound is as it should be. -/
def accepts : Bound → Ordering → Bool
  | .less, o => o.isLT
  | .lessOrEquals, o => o.isLE
  | .greater, o => o.isGT
  | .greaterOrEquals, o => o.isGE

def symbol : Bound → String
  | .less => "<"
  | .lessOrEquals => "<="
  | .greater => ">"
  | .greaterOrEquals => ">="

end Bound

/-- How many items have to pass. -/
inductive Quantifier where
  | count (n : Int)
  | bound (b : Bound) (n : Int)
  deriving DecidableEq, Repr

def Quantifier.accepts (q : Quantifier) (passed : Int) : Bool :=
  match q with
  | .count n => passed == n
  | .bound b n => b.accepts (compare passed n)

/-! ### Operators -/

/-- Ways to find a text in another. -/
inductive TextTest where
  | startsWith
  | endsWith
  | contains
  | like
  deriving DecidableEq, Repr

namespace TextTest

def holds (t : TextTest) (text pattern : String) (caseSensitive : Bool) : Bool :=
  match t with
  | .startsWith => Text.startsWith text pattern caseSensitive
  | .endsWith => Text.endsWith text pattern caseSensitive
  | .contains => Text.contains text pattern caseSensitive
  | .like => Text.like text pattern caseSensitive

def verb : TextTest → String
  | .startsWith => "start with"
  | .endsWith => "end with"
  | .contains => "contain"
  | .like => "match"

end TextTest

/-- Kinds of values that can be asked for. -/
inductive KindTest where
  | string
  | array
  | boolean
  | dateTime
  | integer
  | numeric
  | lower
  | upper
  deriving DecidableEq, Repr

/-- The operators, without their parameters. -/
inductive OperatorKind where
  | resolves
  | equals (negated : Bool)
  | hasDefault
  | hasValue
  | matches (negated : Bool)
  | among (negated : Bool)
  | setOf
  | subset
  | count (negated : Bool)
  | bound (b : Bound)
  | text (t : TextTest) (negated : Bool)
  | isKind (k : KindTest)
  | hasSchema
  | version (grammar : Version.Grammar)
  deriving DecidableEq, Repr

namespace OperatorKind

def name : OperatorKind → String
  | .resolves => "exists"
  | .equals negated => if negated then "notEquals" else "equals"
  | .hasDefault => "hasDefault"
  | .hasValue => "hasValue"
  | .matches negated => if negated then "notMatch" else "match"
  | .among negated => if negated then "notIn" else "in"
  | .setOf => "setOf"
  | .subset => "subset"
  | .count negated => if negated then "notCount" else "count"
  | .bound .less => "less"
  | .bound .lessOrEquals => "lessOrEquals"
  | .bound .greater => "greater"
  | .bound .greaterOrEquals => "greaterOrEquals"
  | .text .startsWith negated => if negated then "notStartsWith" else "startsWith"
  | .text .endsWith negated => if negated then "notEndsWith" else "endsWith"
  | .text .contains negated => if negated then "notContains" else "contains"
  | .text .like negated => if negated then "notLike" else "like"
  | .isKind .string => "isString"
  | .isKind .array => "isArray"
  | .isKind .boolean => "isBoolean"
  | .isKind .dateTime => "isDateTime"
  | .isKind .integer => "isInteger"
  | .isKind .numeric => "isNumeric"
  | .isKind .lower => "isLower"
  | .isKind .upper => "isUpper"
  | .hasSchema => "hasSchema"
  | .version .semantic => "version"
  | .version .date => "apiVersion"

def all : List OperatorKind :=
  [.resolves, .equals false, .equals true, .hasDefault, .hasValue, .matches false, .matches true,
    .among false, .among true, .setOf, .subset, .count false, .count true, .bound .less,
    .bound .lessOrEquals, .bound .greater, .bound .greaterOrEquals] ++
  [TextTest.startsWith, .endsWith, .contains, .like].flatMap
    (fun t => [OperatorKind.text t false, .text t true]) ++
  [.isKind .string, .isKind .array, .isKind .boolean, .isKind .dateTime, .isKind .integer,
    .isKind .numeric, .isKind .lower, .isKind .upper, .hasSchema, .version .semantic,
    .version .date]

/-- Second names of operators. -/
def aliases : List (String × OperatorKind) :=
  [("lessOrEqual", .bound .lessOrEquals), ("greaterOrEqual", .bound .greaterOrEquals),
    ("hasAnySchema", .hasSchema)]

/-- All names with what they stand for. -/
def catalogue : List (String × OperatorKind) := all.map (fun k => (k.name, k)) ++ aliases

/-- The operator that a key stands for, in any ASCII case. -/
def ofKey? (key : String) : Option OperatorKind :=
  (catalogue.find? fun entry => sameAscii entry.1 key).map Prod.snd

/-- Only fields can be tested. -/
def needsField : OperatorKind → Bool
  | .resolves | .setOf | .subset | .hasSchema => true
  | _ => false

/-- Holds of a field that is not there. -/
def passesMissing : OperatorKind → Bool
  | .equals true | .matches true | .among true | .hasDefault => true
  | _ => false

end OperatorKind

/-- A parameter that is written out, or computed for each target. -/
inductive Parameter where
  | literal (v : Value)
  | function (e : Function.Expr)

/-- The value of a parameter for one target. -/
def Parameter.value (p : Parameter) (s : Function.Scope) : Value :=
  match p with
  | .literal v => v
  | .function e => e.eval s

inductive PatternSource where
  | literal (p : Pattern)
  | function (e : Function.Expr)

inductive ConstraintSource where
  | literal (c : Version.Constraint)
  | function (e : Function.Expr)

/-- An operator with its parameters. -/
inductive Operator where
  | resolves (expected : Bool)
  | equals (negated : Bool) (expected : Parameter)
  | hasDefault (expected : Parameter)
  | hasValue (expected : Bool)
  | matches (negated : Bool) (pattern : PatternSource)
  | among (negated : Bool) (set : List Value)
  | setOf (items : List Value)
  | subset (items : List Value)
  | count (negated : Bool) (expected : Parameter)
  | bound (b : Bound) (limit : Parameter)
  | text (t : TextTest) (negated : Bool) (patterns : List String)
  | isKind (k : KindTest) (expected : Bool)
  | hasSchema (schemas : List String)
  | version (grammar : Version.Grammar) (constraint : ConstraintSource)

namespace Operator

def kind : Operator → OperatorKind
  | .resolves _ => .resolves
  | .equals negated _ => .equals negated
  | .hasDefault _ => .hasDefault
  | .hasValue _ => .hasValue
  | .matches negated _ => .matches negated
  | .among negated _ => .among negated
  | .setOf _ => .setOf
  | .subset _ => .subset
  | .count negated _ => .count negated
  | .bound b _ => .bound b
  | .text t negated _ => .text t negated
  | .isKind k _ => .isKind k
  | .hasSchema _ => .hasSchema
  | .version grammar _ => .version grammar

def name (o : Operator) : String := o.kind.name

/-- Holds of a field that is not there; one of these asks for no value. -/
def passesMissing : Operator → Bool
  | .hasValue expected => !expected
  | o => o.kind.passesMissing

end Operator

end Sift
