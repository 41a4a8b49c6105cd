/-! What can be wrong with a path. Positions count the characters of the path
without the white space around it. -/
namespace Sift.Path

inductive PathError where
  | emptyExpression
  | unexpectedEnd (path : String) (position : Nat)
  | unexpectedChar (path : String) (position : Nat) (found : Char)
  | unterminatedFilter (path : String) (position : Nat)
  | unclosedBracket (path : String) (position : Nat)
  | unterminatedString (path : String) (position : Nat)
  | invalidNumber (path : String) (position : Nat)
  | unknownOperator (path : String) (position : Nat) (operator : String)
  | invalidFilter (path : String) (cause : String)
  | invalidPattern (path : String) (pattern : String)
  deriving DecidableEq, Repr

namespace PathError

/-- Where the path goes wrong, if that is at one place. -/
def position? : PathError → Option Nat
  | .emptyExpression | .invalidFilter .. | .invalidPattern .. => none
  | .unexpectedEnd _ p | .unexpectedChar _ p _ | .unterminatedFilter _ p | .unclosedBracket _ p
  | .unterminatedString _ p | .invalidNumber _ p | .unknownOperator _ p _ => some p

def message : PathError → String
  | .emptyExpression => "empty path expression"
  | .unexpectedEnd path p => s!"unexpected end of '{path}' at {p}"
  | .unexpectedChar path p found => s!"unexpected character '{found}' in '{path}' at {p}"
  | .unterminatedFilter path p => s!"unterminated filter in '{path}' at {p}"
  | .unclosedBracket path p => s!"unclosed bracket in '{path}' at {p}"
  | .unterminatedString path p => s!"unterminated string in '{path}' at {p}"
  | .invalidNumber path p => s!"invalid number in '{path}' at {p}"
  | .unknownOperator path p operator => s!"unknown operator '{operator}' in '{path}' at {p}"
  | .invalidFilter path cause => s!"invalid filter in '{path}': {cause}"
  | .invalidPattern path pattern => s!"invalid pattern '{pattern}' in '{path}':"

end PathError

end Sift.Path
