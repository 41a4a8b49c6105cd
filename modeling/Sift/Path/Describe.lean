import Sift.Path.Token
import Sift.Text.Visible

/-! Tokens spelled out: what each one is, and everything that it holds. -/
namespace Sift.Path

def Comparison.label : Comparison → String
  | .eq => "Eq"
  | .ne => "Ne"
  | .lt => "Lt"
  | .le => "Le"
  | .gt => "Gt"
  | .ge => "Ge"
  | .regex => "RegEx"

namespace Token

def truthText (b : Bool) : String := if b then "true" else "false"

/-- A label with one thing in brackets. -/
def labelled (label content : String) : String := label ++ "(" ++ content ++ ")"

/-- A label with named parts in braces. -/
def record (label : String) (parts : List (String × String)) : String :=
  label ++ " \x7b " ++ ", ".intercalate (parts.map fun (name, part) => name ++ ": " ++ part)
    ++ " \x7d"

def boundText : Option Int → String
  | none => "None"
  | some i => labelled "Some" (toString i)

def describe : Token → String
  | .root => "RootRef"
  | .current => "CurrentRef"
  | .member name marked =>
    record "DotSelector" [("name", Text.visible name), ("case_sensitive", truthText marked)]
  | .index i => labelled "IndexSelector" (toString i)
  | .indexWild => "IndexWildSelector"
  | .memberWild => "DotWildSelector"
  | .descendant name marked =>
    record "DescendantSelector" [("name", Text.visible name), ("case_sensitive", truthText marked)]
  | .slice start stop step =>
    record "ArraySlice"
      [("start", boundText start), ("stop", boundText stop), ("step", boundText step)]
  | .indexes is => labelled "UnionIndex" ("[" ++ ", ".intercalate (is.map toString) ++ "]")
  | .names ns => labelled "UnionMember" (Text.visibleList ns)
  | .startFilter => "StartFilter"
  | .endFilter => "EndFilter"
  | .startGroup => "StartGroup"
  | .endGroup => "EndGroup"
  | .compare op => labelled "ComparisonOperator" op.label
  | .and => labelled "LogicalOperator" "And"
  | .or => labelled "LogicalOperator" "Or"
  | .not => "NotOperator"
  | .truth b => labelled "Boolean" (truthText b)
  | .integer i => labelled "Integer" (toString i)
  | .text s => labelled "String" (Text.visible s)

end Token

end Sift.Path
