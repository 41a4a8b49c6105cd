/-! Text compared with the case of the ASCII letters ignored, as the keys of
condition documents, resource kinds and the words `true` and `false` are. All
other characters have to agree exactly. -/
namespace Sift.Text

/-- The text with its ASCII letters in lower case. -/
def asciiLower (s : String) : String := String.ofList (s.toList.map Char.toLower)

def sameAscii (a b : String) : Bool := asciiLower a == asciiLower b

/-- Reads `true` and `false` in any ASCII case. -/
def readTruth? (s : String) : Option Bool :=
  if sameAscii s "true" then some true
  else if sameAscii s "false" then some false
  else none

end Sift.Text
