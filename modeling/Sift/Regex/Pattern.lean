/-! Patterns, and what makes them.

Regular expressions are left to an engine. Which texts it takes for expressions, how
large they become and what they match is its own affair: the library only hands texts
to it, with the bound that goes with them, and asks the patterns that come back. -/
namespace Sift

/-- The bound, in bytes, where none is given. -/
def defaultSizeLimit : Nat := 1024 * 1024

/-- A regular expression that can be looked for. -/
structure Pattern where
  source : String
  /-- The expression matches somewhere in the text. -/
  isMatch : String → Bool

/-- What makes patterns of texts. -/
structure Engine where
  /-- The pattern that a text writes down. There is none if the text is no regular
  expression, or if it takes more bytes than there may be. -/
  compile? (source : String) (caseSensitive : Bool) (sizeLimit : Nat) : Option Pattern
  /-- What puts a new text in the place of `old`, taken as it is written, all through
  a text. There is none if `old` is too large for the engine. -/
  replacer? (old : String) (caseSensitive : Bool) :
    Option ((new text : String) → String)

end Sift
