import Sift.Text.CaseOrbit

/-! Splitting texts at delimiters, and replacing one text by another.

Both go through the text once from left to right. What has been found is not looked
at again, so neither overlaps count nor anything that replaces. -/
namespace Sift.Text

/-- Puts a character in front of the first part. -/
def consPart (c : Char) : List (List Char) → List (List Char)
  | [] => [[c]]
  | part :: parts => (c :: part) :: parts

/-- The first of the delimiters that the text starts with. An empty one is never
found. -/
def delimiterAt? (delimiters : List (List Char)) (cs : List Char) : Option (List Char) :=
  delimiters.find? fun d => !d.isEmpty && d.isPrefixOf cs

/-- The parts of a text between delimiters, the empty ones included. -/
def splitAny (delimiters : List (List Char)) : List Char → List (List Char)
  | [] => [[]]
  | c :: rest =>
    match delimiterAt? delimiters (c :: rest) with
    | some d => [] :: splitAny delimiters (rest.drop (d.length - 1))
    | none => consPart c (splitAny delimiters rest)
termination_by cs => cs.length
decreasing_by
  all_goals simp only [List.length_cons, List.length_drop]; omega

/-- Characters that count as one. -/
def sameChar (caseSensitive : Bool) (a b : Char) : Bool :=
  if caseSensitive then a == b else foldChar a == foldChar b

/-- The text starts with `old`. -/
def startsWithSame (caseSensitive : Bool) : List Char → List Char → Bool
  | [], _ => true
  | _, [] => false
  | o :: old, c :: cs => sameChar caseSensitive o c && startsWithSame caseSensitive old cs

/-- The text with `new` for every occurrence of `old`, which is not empty. -/
def replaceAll (caseSensitive : Bool) (old new : List Char) : List Char → List Char
  | [] => []
  | c :: rest =>
    if startsWithSame caseSensitive old (c :: rest) then
      new ++ replaceAll caseSensitive old new (rest.drop (old.length - 1))
    else c :: replaceAll caseSensitive old new rest
termination_by cs => cs.length
decreasing_by
  all_goals simp only [List.length_cons, List.length_drop]; omega

end Sift.Text
