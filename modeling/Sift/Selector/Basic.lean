import Sift.Condition.Evaluate
import Sift.Condition.Listing

/-! Selectors: conditions with a name, and what comes of asking them. -/
namespace Sift

inductive Outcome where
  | isMatch
  | noMatch
  /-- The configuration does not allow an answer. -/
  | configError (message : String)
  deriving DecidableEq, Repr

namespace Outcome

def text : Outcome → String
  | .isMatch => "Match"
  | .noMatch => "NoMatch"
  | .configError message => "ConfigError: " ++ message

def ofAnswer : Except ConfigError Bool → Outcome
  | .ok true => .isMatch
  | .ok false => .noMatch
  | .error e => .configError e.message

end Outcome

/-- The outcome for one target. There are no reasons for a match. -/
structure Report where
  outcome : Outcome
  reasons : List Reason
  deriving DecidableEq, Repr

structure Selector where
  name : String
  condition : Condition

namespace Selector

variable {α : Type} [Viewable α]

/-- Asks a selector in a context, and takes all reasons out of it. -/
def evaluateIn (s : Selector) (c : Context α) : Report × Context α :=
  let (answer, c) := s.condition.evaluate.run c
  let outcome := Outcome.ofAnswer answer
  (⟨outcome, if outcome = .isMatch then [] else c.reasons⟩, c.withoutReasons)

/-- The report on a target that is at `parent` in a larger document. -/
def evaluateAt (s : Selector) (engine : Engine) (target : α) (o : Options) (now : Time.Instant)
    (parent : String) : Report :=
  (s.evaluateIn { Context.of engine target o now with parent := parent }).1

def evaluate (s : Selector) (engine : Engine) (target : α) (o : Options) (now : Time.Instant) :
    Report :=
  (s.evaluateIn (Context.of engine target o now)).1

def matches_ (s : Selector) (engine : Engine) (target : α) (o : Options) (now : Time.Instant) :
    Bool :=
  (s.evaluate engine target o now).outcome == .isMatch

end Selector

end Sift
