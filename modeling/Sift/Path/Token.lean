/-! The words of a path.

A path is a list of tokens: a reference to start from, selectors that step to
other values, and filters. A filter is the tokens of a predicate between
`startFilter` and `endFilter`; groups, comparisons, literals and the reference to
the current value occur only there. -/
namespace Sift.Path

inductive Comparison where
  | eq | ne | lt | le | gt | ge
  /-- The text on the left matches the pattern on the right. -/
  | regex
  deriving DecidableEq, Repr

def Comparison.symbol : Comparison → String
  | .eq => "=="
  | .ne => "!="
  | .lt => "<"
  | .le => "<="
  | .gt => ">"
  | .ge => ">="
  | .regex => "~="

/-- A name may be marked, which flips whether its case counts. -/
inductive Token where
  | root
  | current
  | member (name : String) (marked : Bool)
  | index (i : Int)
  | indexWild
  | memberWild
  /-- The name `*` stands for every member and item. -/
  | descendant (name : String) (marked : Bool)
  | slice (start stop step : Option Int)
  | indexes (is : List Int)
  | names (ns : List String)
  | startFilter
  | endFilter
  | startGroup
  | endGroup
  | compare (op : Comparison)
  | and
  | or
  | not
  | truth (b : Bool)
  | integer (i : Int)
  | text (s : String)
  deriving DecidableEq, Repr

namespace Token

/-- Selectors that may lead to more than one value. -/
def isSequence : Token → Bool
  | .indexWild | .memberWild | .descendant .. | .slice .. | .indexes _ | .names _
  | .startFilter => true
  | _ => false

def bound : Option Int → String
  | none => ""
  | some i => toString i

def quoted (s : String) : String := "'" ++ s ++ "'"

/-- The token as it stands in a path. -/
def display : Token → String
  | .root => "$"
  | .current => "@"
  | .member name marked => (if marked then "+" else ".") ++ name
  | .index i => "[" ++ toString i ++ "]"
  | .indexWild => "[*]"
  | .memberWild => ".*"
  | .descendant name _ => ".." ++ name
  | .slice start stop step => "[" ++ bound start ++ ":" ++ bound stop ++ ":" ++ bound step ++ "]"
  | .indexes is => "[" ++ ",".intercalate (is.map toString) ++ "]"
  | .names ns => "[" ++ ",".intercalate (ns.map quoted) ++ "]"
  | .startFilter => "[?("
  | .endFilter => ")]"
  | .startGroup => "("
  | .endGroup => ")"
  | .compare op => op.symbol
  | .and => "&&"
  | .or => "||"
  | .not => "!"
  | .truth b => if b then "true" else "false"
  | .integer i => toString i
  | .text s => quoted s

end Token

end Sift.Path
