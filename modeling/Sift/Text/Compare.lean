import Sift.Text.LowerCase
import Sift.Text.Letters
import Sift.Text.Wildcard

/-! Tests on pairs of texts, each in two forms: as written, or with both texts in
lower case first. -/
namespace Sift.Text

/-- The text to compare: itself, or its lower case where case does not count. -/
def folded (caseSensitive : Bool) (s : String) : List Char :=
  if caseSensitive then s.toList else lower s.toList

def equalText (expected actual : String) (caseSensitive : Bool) : Bool :=
  if caseSensitive then expected == actual
  else expected == actual || lowerText expected == lowerText actual

def startsWith (text part : String) (caseSensitive : Bool) : Bool :=
  (folded caseSensitive part).isPrefixOf (folded caseSensitive text)

def endsWith (text part : String) (caseSensitive : Bool) : Bool :=
  (folded caseSensitive part).isSuffixOf (folded caseSensitive text)

/-- `part` stands somewhere in the text. -/
def occurs (part : List Char) : List Char → Bool
  | [] => part.isEmpty
  | c :: rest => part.isPrefixOf (c :: rest) || occurs part rest

def contains (text part : String) (caseSensitive : Bool) : Bool :=
  occurs (folded caseSensitive part) (folded caseSensitive text)

def like (text pattern : String) (caseSensitive : Bool) : Bool :=
  wildcard (folded caseSensitive text) (folded caseSensitive pattern)

/-- No letter is in upper case; with `lettersOnly` every character is a letter. -/
def isLower (text : String) (lettersOnly : Bool) : Bool :=
  text.toList.all fun c => if isLetter c then !isUppercase c else !lettersOnly

/-- No letter is in lower case; with `lettersOnly` every character is a letter. -/
def isUpper (text : String) (lettersOnly : Bool) : Bool :=
  text.toList.all fun c => if isLetter c then !isLowercase c else !lettersOnly

/-- A schema address without its empty fragments and, on demand, its scheme. -/
def bareSchema (uri : String) (ignoreScheme : Bool) : String :=
  let cs := dropHashes uri.toList
  String.ofList (if ignoreScheme then dropScheme cs else cs)
where
  dropHashes (cs : List Char) : List Char := (cs.reverse.dropWhile (· == '#')).reverse
  dropScheme (cs : List Char) : List Char :=
    let https := "https://".toList
    let http := "http://".toList
    if https.isPrefixOf cs then cs.drop https.length
    else if http.isPrefixOf cs then cs.drop http.length
    else cs

/-- `actual` names one of the expected schemas. -/
def anySchema (actual : String) (expected : List String) (ignoreScheme caseSensitive : Bool) :
    Bool :=
  expected.any fun e =>
    equalText (bareSchema e ignoreScheme) (bareSchema actual ignoreScheme) caseSensitive

end Sift.Text
