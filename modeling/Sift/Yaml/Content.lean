import Sift.Number.Reader
import Sift.Value.Basic
import Sift.Yaml.Node

/-! What the nodes of a document stand for.

A plain scalar is null, a truth value or a number if it is written like one, and a
text otherwise. A quoted one is always a text. The core tags force one of these
readings; a node with a tag of its own has no reading as plain data. -/
namespace Sift.Yaml

open Number Text

/-! ### Plain scalars -/

def isNullWord (s : String) : Bool := ["null", "Null", "NULL", "~"].contains s

def readBool? (s : String) : Option Bool :=
  if ["true", "True", "TRUE"].contains s then some true
  else if ["false", "False", "FALSE"].contains s then some false
  else none

/-- Digits after a needless zero; such a scalar is a text. -/
def hasLeadingZero (cs : List Char) : Bool :=
  match (match cs with
    | '-' :: r | '+' :: r => r
    | r => r) with
  | '0' :: d :: rest => (d :: rest).all Char.isDigit
  | _ => false

/-- A number in another base, from its digits. -/
def readDigits? (base : Nat) (cs : List Char) : Option Nat := do
  let values ← cs.mapM hexDigit?
  if values.isEmpty || values.any (base ≤ ·) then none
  else some (values.foldl (fun n d => base * n + d) 0)

/-- A number without a sign: decimal, or with the mark of another base. -/
def readMagnitude? : List Char → Option Nat
  | '0' :: 'x' :: cs => readDigits? 16 cs
  | '0' :: 'o' :: cs => readDigits? 8 cs
  | '0' :: 'b' :: cs => readDigits? 2 cs
  | cs => readDigits? 10 cs

/-- An integer of any size. -/
def readInt? (s : String) : Option Int :=
  if hasLeadingZero s.toList then none
  else match s.toList with
    | '-' :: cs => (readMagnitude? cs).map fun n => -(n : Int)
    | '+' :: cs => (readMagnitude? cs).map Int.ofNat
    | cs => (readMagnitude? cs).map Int.ofNat

/-- Integers that fit a word of 64 bits, signed or not. -/
def fitsWord (n : Int) : Bool := -0x8000000000000000 ≤ n && n < 0x10000000000000000

/-- Integers that fit a word of 128 bits, signed or not. -/
def fitsLongWord (n : Int) : Bool :=
  -0x80000000000000000000000000000000 ≤ n && n < 0x100000000000000000000000000000000

def readFloat? (s : String) : Option Binary64 :=
  match s with
  | ".inf" | ".Inf" | ".INF" | "+.inf" | "+.Inf" | "+.INF" => some (.infinite false)
  | "-.inf" | "-.Inf" | "-.INF" => some (.infinite true)
  | ".nan" | ".NaN" | ".NAN" => some .nan
  | _ =>
    match readBinary64? s.toList with
    | some (.finite negative m e) => some (.finite negative m e)
    | _ => none

/-- What a plain scalar stands for. An integer of more than 64 bits stands for
nothing, as long as 128 are enough; a longer one is a float. -/
def plainValue? (s : String) : Option Value :=
  if s.isEmpty || isNullWord s then some .null
  else match readBool? s with
    | some b => some (.bool b)
    | none =>
      match (readInt? s).filter fitsLongWord with
      | some n => if fitsWord n then some (.int n) else none
      | none =>
        match (if hasLeadingZero s.toList then none else readFloat? s) with
        | some x => some (.float x)
        | none => some (.text s)

/-! ### Tags -/

/-- The name of a tag that is not one of the core tags. -/
def ownTag? (tag : Option String) : Option String :=
  match tag.map String.toList with
  | some ('!' :: name) => some (String.ofList name)
  | _ => none

/-- What a scalar without a tag of its own stands for. -/
def scalarValue? (tag : Option String) (style : Style) (s : String) : Option Value :=
  match tag with
  | none => if style = .plain then plainValue? s else some (.text s)
  | some tag =>
    if tag = coreTags ++ "bool" then (readBool? s).map .bool
    else if tag = coreTags ++ "int" then ((readInt? s).filter fitsWord).map .int
    else if tag = coreTags ++ "float" then (readFloat? s).map .float
    else if tag = coreTags ++ "null" then if isNullWord s then some .null else none
    else some (.text s)

/-! ### Plain data -/

namespace Node

/-- The text of a scalar as it was written. -/
def scalarText? : Node → Option String
  | .scalar _ _ s => some s
  | _ => none

/-- Data has no numbers beyond the finite ones. -/
def finiteOrNull : Value → Value
  | .float (.infinite _) | .float .nan => .null
  | v => v

mutual

/-- The data that a node stands for. Names are texts as they were written, and the
last of several members of one name counts. -/
def value? : Node → Option Value
  | .scalar tag style s =>
    if (ownTag? tag).isSome then none else (scalarValue? tag style s).map finiteOrNull
  | .sequence tag items =>
    if (ownTag? tag).isSome then none else (values? items).map .array
  | .mapping tag members =>
    if (ownTag? tag).isSome then none else (memberValues? [] members).map .object

def values? : List Node → Option (List Value)
  | [] => some []
  | n :: rest => do
    let v ← n.value?
    let vs ← values? rest
    some (v :: vs)

def memberValues? (before : List (String × Value)) :
    List (Node × Node) → Option (List (String × Value))
  | [] => some before
  | (k, n) :: rest => do
    let name ← k.scalarText?
    let v ← n.value?
    memberValues? (Value.setMember before name v) rest

end

end Node

/-- The data of a text with one document. -/
def value? (text : String) : Option Value := (document? text).bind Node.value?

end Sift.Yaml
