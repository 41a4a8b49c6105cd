import Sift.Text.Blank
import Sift.Text.Split
import Sift.Coerce
import Sift.Path.Program

/-! Functions: values that are computed anew for each target.

An expression is a constant, a list of expressions, or a function applied to others.
It never fails; where an argument is of no use, the result is null or, for the
functions that promise a kind of value, the least value of that kind. -/
namespace Sift.Function

/-- The functions of the library. -/
inductive Builtin where
  | configuration
  | path
  | boolean
  | string
  | integer
  | concat
  | substring
  | replace
  | trim
  | first
  | last
  | split
  | padLeft
  | padRight
  deriving DecidableEq, Repr

namespace Builtin

def all : List Builtin :=
  [.configuration, .path, .boolean, .string, .integer, .concat, .substring, .replace, .trim,
    .first, .last, .split, .padLeft, .padRight]

/-- The name of a function, which is also the name of its main argument. -/
def name : Builtin → String
  | .configuration => "configuration"
  | .path => "path"
  | .boolean => "boolean"
  | .string => "string"
  | .integer => "integer"
  | .concat => "concat"
  | .substring => "substring"
  | .replace => "replace"
  | .trim => "trim"
  | .first => "first"
  | .last => "last"
  | .split => "split"
  | .padLeft => "padLeft"
  | .padRight => "padRight"

end Builtin

/-- The end of a text that is filled up. -/
inductive Side where
  | left
  | right
  deriving DecidableEq, Repr

/-- What functions see of their surroundings. -/
structure Scope where
  /-- A configured value. -/
  configuration : String → Option Value
  /-- The first value that a path leads to in the target. -/
  query : Path.Program → Option Value
  now : Time.Instant

inductive Expr where
  | constant (v : Value)
  | list (items : List Expr)
  | configuration (name : String)
  | path (program : Path.Program)
  | boolean (arg : Expr)
  | string (arg : Expr)
  | integer (arg : Expr)
  | concat (items : List Expr)
  | substring (arg : Expr) (length : Nat)
  /-- `replacer` is what puts a text in the place of `old`. -/
  | replace (arg : Expr) (old new : String) (replacer : (new text : String) → String)
  | trim (arg : Expr)
  | first (arg : Expr)
  | last (arg : Expr)
  | split (arg : Expr) (delimiters : List String)
  | pad (side : Side) (arg : Expr) (width : Nat) (filling : String)
  /-- A function that the library does not know. -/
  | host (f : Scope → Value)

/-- Applies `f` to a text. Nothing comes of other values. -/
def onText (f : String → Value) : Value → Value
  | .text s => f s
  | _ => .null

/-- The filling, over and over, for `width` characters. -/
def cycle (filling : List Char) (width : Nat) : List Char :=
  (List.range width).map fun i => filling.getD (i % filling.length) ' '

def padText (side : Side) (width : Nat) (filling s : String) : String :=
  let fill := String.ofList (cycle filling.toList (width - s.length))
  match side with
  | .left => fill ++ s
  | .right => s ++ fill

def replaceText (old new : String) (replacer : (new text : String) → String) (s : String) :
    String :=
  if s.isEmpty || old.isEmpty then s else replacer new s

def splitText (delimiters : List String) (s : String) : List String :=
  (Text.splitAny (delimiters.map String.toList) s.toList).map String.ofList

def charText (c : Char) : Value := .text (String.singleton c)

/-- The first character of a text, or the first item of an array. -/
def firstOf : Value → Value
  | .text s => (s.toList.head?.map charText).getD .null
  | .array items => items.head?.getD .null
  | _ => .null

def lastOf : Value → Value
  | .text s => (s.toList.getLast?.map charText).getD .null
  | .array items => items.getLast?.getD .null
  | _ => .null

def textOrEmpty (v : Value) : String := (Coerce.text? v true).getD ""

namespace Expr

mutual

def eval (s : Scope) : Expr → Value
  | .constant v => v
  | .list items => .array (evalAll s items)
  | .configuration name => (s.configuration name).getD .null
  | .path program => (s.query program).getD .null
  | .boolean arg => .bool ((Coerce.bool? (arg.eval s) true).getD false)
  | .string arg => ((Coerce.text? (arg.eval s) true).map .text).getD .null
  | .integer arg => .int ((Coerce.int? (arg.eval s) true).getD 0)
  | .concat items => .text (String.join ((evalAll s items).map textOrEmpty))
  | .substring arg length =>
    onText (fun t => .text (String.ofList (t.toList.take length))) (arg.eval s)
  | .replace arg old new replacer =>
    onText (fun t => .text (replaceText old new replacer t)) (arg.eval s)
  | .trim arg => onText (fun t => .text (Text.trim t)) (arg.eval s)
  | .first arg => firstOf (arg.eval s)
  | .last arg => lastOf (arg.eval s)
  | .split arg delimiters =>
    onText (fun t => .array ((splitText delimiters t).map .text)) (arg.eval s)
  | .pad side arg width filling =>
    ((Coerce.text? (arg.eval s) true).map fun t => .text (padText side width filling t)).getD .null
  | .host f => f s
termination_by structural e => e

def evalAll (s : Scope) : List Expr → List Value
  | [] => []
  | e :: rest => e.eval s :: evalAll s rest
termination_by structural es => es

end

/-- The value of an argument that is written out. -/
def literal? : Expr → Option Value
  | .constant v => some v
  | _ => none

end Expr

end Sift.Function
