import Sift.Path.Error
import Sift.Version.Basic

/-! What can be wrong with a condition document, and where. -/
namespace Sift

/-- Why a part of a condition document cannot be used. -/
inductive BuildCause where
  | tooDeep (limit : Nat)
  | notMapping
  | severalCombinators
  | severalOperators
  | noOperator
  | notOneCondition
  | notConditions
  | fieldNotText
  | path (e : Path.PathError)
  | notSelf (key : String)
  | needsField (key : String)
  | flagNotBool (key : String)
  | quantifierNotInteger (key : String)
  | notBool
  | notInteger
  | notPattern
  | invalidPattern (pattern : String)
  | notConstraint
  | notValues
  | notTexts
  | notTextOrTexts
  | functionNotMapping
  | noFunction
  | invalidArguments (name : String)
  deriving DecidableEq, Repr

namespace BuildCause

def message : BuildCause → String
  | .tooDeep limit => s!"conditions are nested deeper than {limit}"
  | .notMapping => "expected a mapping"
  | .severalCombinators => "expected a single combinator"
  | .severalOperators => "expected a single operator"
  | .noOperator => "expected a combinator or an operator"
  | .notOneCondition => "expected a single condition"
  | .notConditions => "expected a sequence of conditions"
  | .fieldNotText => "'field' expects a string"
  | .path e => e.message
  | .notSelf key => s!"'{key}' only accepts '.'"
  | .needsField key => s!"'{key}' requires 'field'"
  | .flagNotBool key => s!"'{key}' expects a boolean"
  | .quantifierNotInteger key => s!"'{key}' expects an integer"
  | .notBool => "expected a boolean"
  | .notInteger => "expected an integer"
  | .notPattern => "expected a regular expression"
  | .invalidPattern pattern => s!"invalid regular expression '{pattern}':"
  | .notConstraint => "expected a version constraint"
  | .notValues => "expected a sequence of values"
  | .notTexts => "expected a sequence of strings"
  | .notTextOrTexts => "expected a string or a sequence of strings"
  | .functionNotMapping => "a function expression must be a mapping"
  | .noFunction => "no known function in expression"
  | .invalidArguments name => s!"invalid arguments for function '{name}'"

end BuildCause

inductive BuildError where
  /-- A part of the document, and where it is. -/
  | invalid (path : String) (cause : BuildCause)
  | version (e : Version.VersionError)
  deriving DecidableEq, Repr

def BuildError.message : BuildError → String
  | .invalid path cause => s!"Invalid condition at '{path}': {cause.message}"
  | .version e => e.message

end Sift
