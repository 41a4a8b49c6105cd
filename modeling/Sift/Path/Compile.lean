import Sift.Text.Blank
import Sift.Path.Scan
import Sift.Path.Program

/-! From tokens to programs.

Predicates are read by recursive descent: `!` binds closest, then `&&`, then `||`,
and both join to the left. A reference with its selectors is a path of its own; if
no comparison follows, the relation asks whether the path leads anywhere. Every
function takes tokens away from the front and returns the rest, which its type
says is shorter. -/
namespace Sift.Path

/-- What stays the same throughout one program: the path it came from, as written,
and what makes its patterns, with the bound on their size. -/
structure Setting where
  source : String
  engine : Engine
  sizeLimit : Nat

namespace Setting

def invalid (s : Setting) (cause : String) : PathError := .invalidFilter s.source cause

def unexpected (s : Setting) (t : Token) : PathError := s.invalid s!"unexpected '{t.display}'"

/-- The pattern for a text, if it is one and small enough. -/
def pattern? (s : Setting) (text : String) (caseSensitive : Bool) : Option Pattern :=
  s.engine.compile? text caseSensitive s.sizeLimit

end Setting

/-- How deep groups and negations of one filter may be nested. -/
def nestingLimit : Nat := 64

/-- How many tokens there are up to the end of the filter, for tokens with `depth`
filters open inside it. -/
def filterLength : Nat → List Token → Option Nat
  | _, [] => none
  | depth, t :: rest =>
    if t = .startFilter then (filterLength (depth + 1) rest).map (· + 1)
    else if t = .endFilter then
      if depth = 0 then some 0 else (filterLength (depth - 1) rest).map (· + 1)
    else (filterLength depth rest).map (· + 1)

/-- The segment that a token stands for on its own. -/
def Token.segment? : Token → Option Segment
  | .root => some .root
  | .current => some .current
  | .member name marked => some (.member name marked)
  | .index i => some (.index i)
  | .indexWild => some .indexWild
  | .memberWild => some .memberWild
  | .descendant name marked => some (.descendant name marked)
  | .slice start stop step => some (.slice start stop (step.getD 1))
  | .indexes is => some (.indexes is)
  | .names ns => some (.names ns)
  | _ => none

/-- Tokens that go on with a path. -/
def Token.isSelector : Token → Bool
  | .member .. | .index _ | .indexWild | .memberWild | .descendant .. | .slice .. | .indexes _
  | .names _ => true
  | _ => false

/-- How many tokens go on with a path, filters with all they hold included. `size`
is the number of tokens of the whole predicate. -/
def selectorLength (s : Setting) (size : Nat) (ts : List Token) : Except PathError Nat :=
  match ts with
  | [] => .ok 0
  | t :: rest =>
    if t.isSelector then do
      let n ← selectorLength s size rest
      .ok (n + 1)
    else if t = .startFilter then
      match filterLength 0 rest with
      | none => .error (.unterminatedFilter s.source (size - (rest.length + 1)))
      | some n => do
        let m ← selectorLength s size (rest.drop (n + 1))
        .ok (n + 2 + m)
    else .ok 0
termination_by ts.length
decreasing_by
  all_goals simp only [List.length_cons, List.length_drop]; omega

/-- The patterns that a text is, with and without regard to case. -/
def casedPattern (s : Setting) (pattern : String) : Except PathError CasedPattern :=
  match s.pattern? pattern true, s.pattern? pattern false with
  | some sensitive, some insensitive => .ok ⟨sensitive, insensitive⟩
  | _, _ => .error (.invalidPattern s.source pattern)

/-- A list of tokens shorter than `ts`. -/
abbrev Shorter (ts : List Token) := { rest : List Token // rest.length < ts.length }

/-- A list of tokens no longer than `ts`. -/
abbrev NoLonger (ts : List Token) := { rest : List Token // rest.length ≤ ts.length }

/-- Fewer tokens, or no more tokens and an inner function, are closer to the end. -/
theorem closer {a b m n : Nat} (h : a < b ∨ (a ≤ b ∧ m < n)) :
    Prod.Lex (fun x y : Nat => x < y) (fun x y : Nat => x < y) (a, m) (b, n) := by
  rw [Prod.lex_def]
  rcases h with h | ⟨h, h'⟩
  · exact Or.inl h
  · by_cases he : a = b
    · exact Or.inr ⟨he, h'⟩
    · exact Or.inl (Nat.lt_of_le_of_ne h he)

mutual

/-- The segments of a path. -/
def compileSegments (s : Setting) (size : Nat) (ts : List Token) :
    Except PathError (List Segment) :=
  match ts with
  | [] => .ok []
  | t :: rest =>
    if t = .startFilter then
      match filterLength 0 rest with
      | none => .error (.unterminatedFilter s.source (size - (rest.length + 1)))
      | some n => do
        let predicate ← compilePredicate s (rest.take n)
        let segments ← compileSegments s size (rest.drop (n + 1))
        .ok (.filter predicate :: segments)
    else
      match t.segment? with
      | none => .error (s.invalid s!"'{t.display}' is only valid inside a filter")
      | some segment => do
        let segments ← compileSegments s size rest
        .ok (segment :: segments)
termination_by (ts.length, 0)
decreasing_by
  all_goals
    apply closer
    simp only [List.length_cons, List.length_drop, List.length_take]
    omega

def compileTokens (s : Setting) (ts : List Token) : Except PathError Program := do
  let segments ← compileSegments s ts.length ts
  .ok (.mk (Text.trim s.source) ts segments)
termination_by (ts.length, 1)
decreasing_by
  all_goals
    apply closer
    omega

/-- A path at the front of a predicate: a reference and what goes on with it. -/
def parsePath (s : Setting) (size : Nat) (reference : Token) (ts : List Token) :
    Except PathError (Program × NoLonger ts) := do
  let n ← selectorLength s size ts
  let path ← compileTokens s (reference :: ts.take n)
  .ok (path, ⟨ts.drop n, by simp⟩)
termination_by (ts.length + 1, 2)
decreasing_by
  all_goals
    apply closer
    simp only [List.length_cons, List.length_take] at *
    omega

/-- The value on the right of a comparison. -/
def parseOperand (s : Setting) (size : Nat) (op : Comparison) (ts : List Token) :
    Except PathError (Operand × Shorter ts) :=
  let missing := s.invalid s!"expected a value after '{op.symbol}'"
  match ts with
  | [] => .error missing
  | t :: rest =>
    match t with
    | .truth b => .ok (.literal (.bool b), ⟨rest, by simp⟩)
    | .integer i => .ok (.literal (.int i), ⟨rest, by simp⟩)
    | .text text =>
      if op = .regex then do
        let p ← casedPattern s text
        .ok (.pattern text p, ⟨rest, by simp⟩)
      else .ok (.literal (.text text), ⟨rest, by simp⟩)
    | .current | .root => do
      let (path, ⟨after, h⟩) ← parsePath s size t rest
      .ok (.path path, ⟨after, by simp only [List.length_cons]; omega⟩)
    | _ => .error missing
termination_by (ts.length, 3)
decreasing_by
  all_goals
    apply closer
    simp only [List.length_cons] at *
    omega

/-- A path, alone or compared with a value. -/
def parseRelation (s : Setting) (size : Nat) (reference : Token) (ts : List Token) :
    Except PathError (Predicate × NoLonger ts) := do
  let (left, ⟨rest, h⟩) ← parsePath s size reference ts
  match rest, h with
  | .compare op :: more, h => do
    let (right, ⟨after, h'⟩) ← parseOperand s size op more
    .ok (.compare op left right, ⟨after, by simp only [List.length_cons] at h; omega⟩)
  | rest, h => .ok (.resolves left, ⟨rest, h⟩)
termination_by (ts.length + 1, 4)
decreasing_by
  · exact closer (by omega)
  · simp only [List.length_cons] at h
    exact closer (by omega)

/-- A relation, a group, or the negation of one of them. -/
def parseUnary (s : Setting) (size depth : Nat) (ts : List Token) :
    Except PathError (Predicate × Shorter ts) :=
  if nestingLimit < depth then .error (s.invalid "filter is nested too deeply")
  else
    match ts with
    | [] => .error (s.invalid "expected a condition")
    | t :: rest =>
      match t with
      | .not => do
        let (inner, ⟨after, h⟩) ← parseUnary s size (depth + 1) rest
        .ok (.not inner, ⟨after, by simp only [List.length_cons]; omega⟩)
      | .startGroup => do
        let (inner, ⟨after, h⟩) ← parseOr s size (depth + 1) rest
        match after, h with
        | .endGroup :: after, h =>
          .ok (inner, ⟨after, by simp only [List.length_cons] at *; omega⟩)
        | _, _ => .error (s.invalid "expected ')'")
      | .current | .root => do
        let (relation, ⟨after, h⟩) ← parseRelation s size t rest
        .ok (relation, ⟨after, by simp only [List.length_cons]; omega⟩)
      | other => .error (s.unexpected other)
termination_by (ts.length, 5)
decreasing_by
  all_goals
    apply closer
    simp only [List.length_cons] at *
    omega

/-- Further operands of `&&`. -/
def parseAnds (s : Setting) (size depth : Nat) (left : Predicate) (ts : List Token) :
    Except PathError (Predicate × NoLonger ts) :=
  match ts with
  | .and :: rest => do
    let (right, ⟨after, h⟩) ← parseUnary s size depth rest
    let (all, ⟨last, h'⟩) ← parseAnds s size depth (.and left right) after
    .ok (all, ⟨last, by simp only [List.length_cons]; omega⟩)
  | ts => .ok (left, ⟨ts, Nat.le_refl _⟩)
termination_by (ts.length, 6)
decreasing_by
  all_goals
    apply closer
    simp only [List.length_cons] at *
    omega

def parseAnd (s : Setting) (size depth : Nat) (ts : List Token) :
    Except PathError (Predicate × Shorter ts) := do
  let (left, ⟨rest, h⟩) ← parseUnary s size depth ts
  let (all, ⟨after, h'⟩) ← parseAnds s size depth left rest
  .ok (all, ⟨after, by omega⟩)
termination_by (ts.length, 7)
decreasing_by
  all_goals
    apply closer
    omega

/-- Further operands of `||`. -/
def parseOrs (s : Setting) (size depth : Nat) (left : Predicate) (ts : List Token) :
    Except PathError (Predicate × NoLonger ts) :=
  match ts with
  | .or :: rest => do
    let (right, ⟨after, h⟩) ← parseAnd s size depth rest
    let (all, ⟨last, h'⟩) ← parseOrs s size depth (.or left right) after
    .ok (all, ⟨last, by simp only [List.length_cons]; omega⟩)
  | ts => .ok (left, ⟨ts, Nat.le_refl _⟩)
termination_by (ts.length, 8)
decreasing_by
  all_goals
    apply closer
    simp only [List.length_cons] at *
    omega

def parseOr (s : Setting) (size depth : Nat) (ts : List Token) :
    Except PathError (Predicate × Shorter ts) := do
  let (left, ⟨rest, h⟩) ← parseAnd s size depth ts
  let (all, ⟨after, h'⟩) ← parseOrs s size depth left rest
  .ok (all, ⟨after, by omega⟩)
termination_by (ts.length, 9)
decreasing_by
  all_goals
    apply closer
    omega

/-- The predicate that all the tokens of a filter make up. -/
def compilePredicate (s : Setting) (ts : List Token) : Except PathError Predicate :=
  match ts with
  | [] => .error (s.invalid "empty filter")
  | ts => do
    let (predicate, ⟨rest, _⟩) ← parseOr s ts.length 0 ts
    match rest with
    | [] => .ok predicate
    | t :: _ => .error (s.unexpected t)
termination_by (ts.length, 10)
decreasing_by
  all_goals
    apply closer
    omega

end

/-- The program of a path. -/
def Program.compile (engine : Engine) (path : String) (sizeLimit : Nat) :
    Except PathError Program := do
  let tokens ← tokenize path
  compileTokens ⟨path, engine, sizeLimit⟩ tokens

end Sift.Path
