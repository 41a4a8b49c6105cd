import Sift.Text.Blank

/-! Reasons: why a condition did not hold, and where.

The place of a reason is put together from three parts: the path to the target in a
larger document, the items that were entered on the way, and the path of the operand
itself. Each part may be missing, and a lone dot stands for a missing one. -/
namespace Sift

/-- Where a tested value came from. -/
inductive Origin where
  | path
  | name
  | type
  | value
  deriving DecidableEq, Repr

def Origin.label : Origin → String
  | .path => "Path"
  | .name => "Name"
  | .type => "Type"
  | .value => "Value"

/-- A path that leads nowhere else. -/
def isEmptyPath (s : String) : Bool := Text.isBlankText s || s == "."

/-- One path behind another, with a dot between them where there is no bracket. -/
def joinPath (a b : String) : String :=
  if isEmptyPath a then if isEmptyPath b then "" else b
  else if isEmptyPath b then a
  else if b.startsWith "[" then a ++ b
  else a ++ "." ++ b

structure Reason where
  origin : Origin
  /-- The path of the operand. -/
  operand : String
  /-- The path of the item it was tested in. -/
  item : String
  /-- The path of the target. -/
  parent : String
  message : String
  deriving DecidableEq, Repr

namespace Reason

/-- The path within the target. -/
def path (r : Reason) : String := joinPath r.item r.operand

/-- The path within the document that the target was taken from. -/
def fullPath (r : Reason) : String := joinPath r.parent r.path

def text (r : Reason) : String :=
  if isEmptyPath r.path then r.message else r.origin.label ++ " " ++ r.path ++ ": " ++ r.message

end Reason

end Sift
