import Sift.Number.Layout
import Sift.Value.View
import Sift.Yaml.Content

/-! Data with tags.

A YAML document that is only looked at keeps more than plain data does: parts may
carry tags, members may have names of any kind, and floats need not be finite. To
queries and conditions a tagged value looks like the value without its tag, and a
member is there only under a name that is a text. -/
namespace Sift.Yaml

open Number

inductive TaggedValue where
  | null
  | bool (b : Bool)
  | int (n : Int)
  | float (x : Binary64)
  | text (s : String)
  | sequence (items : List TaggedValue)
  | mapping (members : List (TaggedValue × TaggedValue))
  | tagged (tag : String) (value : TaggedValue)
  deriving Repr, Inhabited

namespace TaggedValue

mutual

/-- Names that cannot stand in one mapping. Zero has two signs and is one number, what is no
number is the same as itself, and the order of members does not count. -/
def same : TaggedValue → TaggedValue → Bool
  | .null, .null => true
  | .bool a, .bool b => a == b
  | .int a, .int b => a == b
  | .float a, .float b => a.same b || a == .nan && b == .nan
  | .text a, .text b => a == b
  | .sequence a, .sequence b => sameItems a b
  | .mapping a, .mapping b => a.length == b.length && sameMembers a b
  | .tagged s a, .tagged t b => s == t && same a b
  | _, _ => false

def sameItems : List TaggedValue → List TaggedValue → Bool
  | [], [] => true
  | a :: as, b :: bs => same a b && sameItems as bs
  | _, _ => false

/-- All members are among the others. -/
def sameMembers : List (TaggedValue × TaggedValue) → List (TaggedValue × TaggedValue) → Bool
  | [], _ => true
  | (k, v) :: rest, others =>
    others.any (fun m => same k m.1 && same v m.2) && sameMembers rest others

end

instance : BEq TaggedValue := ⟨same⟩

/-- The value without the tags around it. -/
def untag : TaggedValue → TaggedValue
  | .tagged _ v => v.untag
  | v => v

/-- A name, as far as it is a text. -/
def text? (v : TaggedValue) : Option String :=
  match v.untag with
  | .text s => some s
  | _ => none

/-- The name of a member in plain data. -/
def name? : TaggedValue → Option String
  | .text s => some s
  | .bool b => some (if b then "true" else "false")
  | .int n => some (Text.writeInteger n)
  | .float x => if x.isFinite then some (documentLayout.write x) else none
  | _ => none

mutual

/-- The value as plain data: a tag becomes the name of an only member, and numbers
and truth values become names. Other names cannot be written. -/
def plain? : TaggedValue → Option Value
  | .null => some .null
  | .bool b => some (.bool b)
  | .int n => some (.int n)
  | .float x => some (if x.isFinite then .float x else .null)
  | .text s => some (.text s)
  | .sequence items => (plainItems? items).map .array
  | .mapping members => (plainMembers? [] members).map .object
  | .tagged tag v => v.plain?.map fun v => .object [("!" ++ tag, v)]

def plainItems? : List TaggedValue → Option (List Value)
  | [] => some []
  | v :: rest => do
    let v ← v.plain?
    let vs ← plainItems? rest
    some (v :: vs)

def plainMembers? (before : List (String × Value)) :
    List (TaggedValue × TaggedValue) → Option (List (String × Value))
  | [] => some before
  | (k, v) :: rest => do
    let name ← k.name?
    let v ← v.plain?
    plainMembers? (Value.setMember before name v) rest

end

instance : Viewable TaggedValue where
  shape v :=
    match v.untag with
    | .null => .null
    | .bool b => .bool b
    | .int n => .int n
    | .float x => .float x
    | .text s => .text s
    | .sequence items => .array items
    | .mapping members => .object (members.filterMap fun (k, v) => k.text?.map fun s => (s, v))
    | .tagged .. => .null
  named? v name :=
    match v.untag with
    | .mapping members => (members.find? fun m => m.1 == .text name).map Prod.snd
    | _ => none
  copy v := v.untag.plain?.getD .null

/-- A value without tags. -/
def ofScalar : Value → TaggedValue
  | .bool b => .bool b
  | .int n => .int n
  | .float x => .float x
  | .text s => .text s
  | _ => .null

/-- Puts the tag of a node, if it has its own, around the node's value. -/
def withTag (tag : Option String) (v : TaggedValue) : Option TaggedValue :=
  match ownTag? tag with
  | none => some v
  | some name => if name.isEmpty then none else some (.tagged name v)

mutual

/-- The value of a node. No two members of a mapping have the same name. -/
def ofNode? : Node → Option TaggedValue
  | .scalar tag style s => do
    let v ←
      if (ownTag? tag).isSome then scalarValue? none style s else scalarValue? tag style s
    withTag tag (ofScalar v)
  | .sequence tag items => do
    let items ← ofNodes? items
    withTag tag (.sequence items)
  | .mapping tag members => do
    let members ← ofMembers? [] members
    withTag tag (.mapping members)

def ofNodes? : List Node → Option (List TaggedValue)
  | [] => some []
  | n :: rest => do
    let v ← ofNode? n
    let vs ← ofNodes? rest
    some (v :: vs)

def ofMembers? (before : List (TaggedValue × TaggedValue)) :
    List (Node × Node) → Option (List (TaggedValue × TaggedValue))
  | [] => some before
  | (k, n) :: rest => do
    let k ← ofNode? k
    if before.any fun m => m.1 == k then none
    let v ← ofNode? n
    ofMembers? (before ++ [(k, v)]) rest

end

/-- The value of a text with one document. -/
def parse? (text : String) : Option TaggedValue := (document? text).bind ofNode?

end TaggedValue

end Sift.Yaml
