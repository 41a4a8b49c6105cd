import Sift.Regex.Pattern
import Sift.Regex.Reader
import Sift.Text.Split

/-! An engine: regular expressions that are followed through all their possibilities.

An expression that only stands for a few texts is looked for as it is; all others
are compiled, and the bound has to leave room for that. How much room an expression
takes is not counted here, only that it is never less than `leastSize`. -/
namespace Sift.Regex

/-- No expression that has to be compiled takes fewer bytes. -/
def leastSize : Nat := 128

/-- The expression is looked for without being compiled. -/
def isDirect (r : Reading.Result) : Bool := !r.captures && r.regex.texts.any areFew

def engine : Engine where
  compile? source caseSensitive sizeLimit :=
    (read? source caseSensitive).bind fun r =>
      if leastSize ≤ sizeLimit || isDirect r then some ⟨source, r.regex.occursIn⟩ else none
  replacer? old caseSensitive := some fun new text =>
    String.ofList (Text.replaceAll caseSensitive old.toList new.toList text.toList)

end Sift.Regex
