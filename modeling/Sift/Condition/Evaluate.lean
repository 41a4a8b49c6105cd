import Sift.Condition.Test

/-! Evaluating conditions.

Groups ask their children from left to right and stop as soon as the answer is
known. A group that is asked of items enters each of them in turn; what the filter
of the items has to say is forgotten. -/
namespace Sift.Condition

variable {α : Type} [Viewable α]

/-- The items that a field leads to. A single array is taken as its items, unless
the path may lead to several values anyway. -/
def itemsOf (field : Path.Program) (c : Context α) : List α :=
  match field.select c.query c.current with
  | [only] => if !field.isSequence && View.isArray only then View.items only else [only]
  | items => items

/-- The path of the items without the wildcard at its end. -/
def itemsPath (field : Path.Program) : String :=
  if field.source.endsWith "[*]" then (field.source.dropEnd 3).toString else field.source

/-- Asks every item, counted from `i`; `ask` gives none for an item that does not
count. With a quantifier, `passed` is the number of items that have passed. -/
def overItems (ask : Evaluation α (Option Bool)) (path : String)
    (quantifier : Option Quantifier) (i : Nat) (passed : Nat) : List α → Evaluation α Bool
  | [] => pure (quantifier.all fun q => q.accepts passed)
  | item :: rest => do
    modify fun c => c.enter item s!"{path}[{i}]"
    let answer ← tryCatch ask fun e => do
      modify Context.leave
      throw e
    modify Context.leave
    match answer with
    | none => overItems ask path quantifier (i + 1) passed rest
    | some true => overItems ask path quantifier (i + 1) (passed + 1) rest
    | some false =>
      if quantifier.isNone then pure false
      else overItems ask path quantifier (i + 1) passed rest

/-- Asks from left to right until an answer is no. -/
def askAll : List (Evaluation α Bool) → Evaluation α Bool
  | [] => pure true
  | ask :: rest => do
    if ← ask then askAll rest else pure false

/-- Asks from left to right until an answer is yes. -/
def askAny : List (Evaluation α Bool) → Evaluation α Bool
  | [] => pure false
  | ask :: rest => do
    if ← ask then pure true else askAny rest

def combine : Combinator → List (Evaluation α Bool) → Evaluation α Bool
  | .allOf, asks => askAll asks
  | .anyOf, asks => askAny asks
  | .not, ask :: _ => not <$> ask
  | .not, [] => pure false
  | .when, ask :: _ => ask
  | .when, [] => pure true

/-- The answer of a filter. Its reasons do not count; if it fails they stay. -/
def filtered (ask : Evaluation α Bool) : Evaluation α Bool := do
  let count := (← get).reasons.length
  let holds ← ask
  modify fun c => c.keepReasons count
  pure holds

mutual

def evaluate : Condition → Evaluation α Bool
  | .leaf _ l => l.evaluate
  | .group _ combinator children => combine combinator (evaluateEach children)
  | .forEach _ combinator children field filter quantifier => do
    let asks := evaluateEach children
    let ask := do
      if ← evaluateFilter filter then some <$> combine combinator asks else pure none
    overItems ask (itemsPath field) quantifier 0 0 (itemsOf field (← get))
termination_by structural c => c

def evaluateEach : List Condition → List (Evaluation α Bool)
  | [] => []
  | c :: rest => evaluate c :: evaluateEach rest
termination_by structural cs => cs

/-- Items without a filter all count. -/
def evaluateFilter : Option Condition → Evaluation α Bool
  | none => pure true
  | some c => filtered (evaluate c)
termination_by structural c => c

end

end Sift.Condition
