import Sift.Text.CodeSet

/-! White space, as the Unicode property `White_Space` has it, and trimming. -/
namespace Sift.Text

/-- The characters of the property `White_Space`. -/
def blanks : CodeSet := ⟨#[
  9, 14, 32, 33, 133, 134, 160, 161, 5760, 5761, 8192, 8203, 8232, 8234, 8239, 8240, 8287, 8288,
  12288, 12289]⟩

def isBlank (c : Char) : Bool := blanks.contains c

/-- Drops what satisfies `p` at the end of a text. -/
def dropEndWhile (p : Char → Bool) (cs : List Char) : List Char :=
  (cs.reverse.dropWhile p).reverse

/-- Drops what satisfies `p` at both ends of a text. -/
def stripWhile (p : Char → Bool) (cs : List Char) : List Char :=
  dropEndWhile p (cs.dropWhile p)

/-- Drops white space at both ends of a text. -/
def strip (cs : List Char) : List Char := stripWhile isBlank cs

def trim (s : String) : String := String.ofList (strip s.toList)

def isBlankText (s : String) : Bool := s.toList.all isBlank

end Sift.Text
