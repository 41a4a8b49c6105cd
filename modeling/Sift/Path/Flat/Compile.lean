import Sift.Nodes
import Sift.Path.Compile
import Sift.Path.Flat.Program

/-! From tokens to programs with flat predicates.

Predicates are read by recursive descent: `!` binds closest, then `&&`, then `||`,
and both join to the left. Whatever is read is put behind the nodes that are there,
and what comes back is its place. A node that joins others comes behind them; groups
have no nodes. The programs in relations are compiled on their own, and the nodes of
their filters are kept apart. -/
namespace Sift.Path.Flat

/-- What is left of fewer tokens is fewer tokens still. -/
theorem fewer {ts rest after : List Token} (h : rest.length < ts.length)
    (h' : after.length ≤ rest.length) : after.length < ts.length :=
  Nat.lt_of_le_of_lt h' h

/-- What reads predicates. -/
abbrev Parser (α : Type) := Pushing Node PathError α

/-- The step that a token stands for. -/
def step? : Token → Option Step
  | .root => some .root
  | .current => some .current
  | .member name marked => some (.member name marked)
  | .index i => some (.index i)
  | .indexWild => some .indexWild
  | .memberWild => some .memberWild
  | .descendant name marked => some (.descendant name marked)
  | .slice start stop step => some (.slice start stop (step.getD 1))
  | .indexes is => some (.indexes is)
  | .names ns => some (.names ns)
  | _ => none

mutual

/-- The segments of a path. -/
def compileSegments (s : Setting) (size : Nat) (ts : List Token) :
    Except PathError (List Segment) :=
  match ts with
  | [] => .ok []
  | t :: rest =>
    if t = .startFilter then
      match filterLength 0 rest with
      | none => .error (.unterminatedFilter s.source (size - (rest.length + 1)))
      | some n => do
        let filter ← compileFilter s (rest.take n)
        let segments ← compileSegments s size (rest.drop (n + 1))
        .ok (.filter filter :: segments)
    else
      match step? t with
      | none => .error (s.invalid s!"'{t.display}' is only valid inside a filter")
      | some step => do
        let segments ← compileSegments s size rest
        .ok (.step step :: segments)
termination_by (ts.length, 0)
decreasing_by
  all_goals
    apply closer
    simp only [List.length_cons, List.length_drop, List.length_take]
    omega

def compileTokens (s : Setting) (ts : List Token) : Except PathError Program := do
  let segments ← compileSegments s ts.length ts
  .ok (.mk (Text.trim s.source) ts segments)
termination_by (ts.length, 1)
decreasing_by
  all_goals
    apply closer
    omega

/-- A path at the front of a predicate: a reference and what goes on with it. -/
def parsePath (s : Setting) (size : Nat) (reference : Token) (ts : List Token) :
    Except PathError (Program × NoLonger ts) := do
  let n ← selectorLength s size ts
  let path ← compileTokens s (reference :: ts.take n)
  .ok (path, ⟨ts.drop n, by simp⟩)
termination_by (ts.length + 1, 2)
decreasing_by
  all_goals
    apply closer
    simp only [List.length_cons, List.length_take] at *
    omega

/-- The value on the right of a comparison. -/
def parseOperand (s : Setting) (size : Nat) (op : Comparison) (ts : List Token) :
    Except PathError (Operand × Shorter ts) :=
  let missing := s.invalid s!"expected a value after '{op.symbol}'"
  match ts with
  | [] => .error missing
  | t :: rest =>
    match t with
    | .truth b => .ok (.literal (.bool b), ⟨rest, by simp⟩)
    | .integer i => .ok (.literal (.int i), ⟨rest, by simp⟩)
    | .text text =>
      if op = .regex then do
        let p ← casedPattern s text
        .ok (.pattern text p, ⟨rest, by simp⟩)
      else .ok (.literal (.text text), ⟨rest, by simp⟩)
    | .current | .root => do
      let (path, ⟨after, h⟩) ← parsePath s size t rest
      .ok (.path path, ⟨after, by simp only [List.length_cons]; omega⟩)
    | _ => .error missing
termination_by (ts.length, 3)
decreasing_by
  all_goals
    apply closer
    simp only [List.length_cons] at *
    omega

/-- A path, alone or compared with a value. -/
def parseRelation (s : Setting) (size : Nat) (reference : Token) (ts : List Token) :
    Parser (Nat × NoLonger ts) := do
  let (left, ⟨rest, h⟩) ← parsePath s size reference ts
  match rest, h with
  | .compare op :: more, h => do
    let (right, ⟨after, h'⟩) ← parseOperand s size op more
    let place ← push (.compare op left right)
    return (place, ⟨after, by simp only [List.length_cons] at h; omega⟩)
  | rest, h => do
    let place ← push (.resolves left)
    return (place, ⟨rest, h⟩)
termination_by (ts.length + 1, 4)
decreasing_by
  · exact closer (by omega)
  · simp only [List.length_cons] at h
    exact closer (by omega)

/-- A relation, a group, or the negation of one of them. -/
def parseUnary (s : Setting) (size depth : Nat) (ts : List Token) :
    Parser (Nat × Shorter ts) :=
  if nestingLimit < depth then throw (s.invalid "filter is nested too deeply")
  else
    match ts with
    | [] => throw (s.invalid "expected a condition")
    | t :: rest =>
      match t with
      | .not => do
        let (inner, ⟨after, h⟩) ← parseUnary s size (depth + 1) rest
        let place ← push (.not inner)
        return (place, ⟨after, by simp only [List.length_cons]; omega⟩)
      | .startGroup => do
        let (inner, ⟨after, h⟩) ← parseOr s size (depth + 1) rest
        match after, h with
        | .endGroup :: after, h =>
          return (inner, ⟨after, by simp only [List.length_cons] at *; omega⟩)
        | _, _ => throw (s.invalid "expected ')'")
      | .current | .root => do
        let (relation, ⟨after, h⟩) ← parseRelation s size t rest
        return (relation, ⟨after, by simp only [List.length_cons]; omega⟩)
      | other => throw (s.unexpected other)
termination_by (ts.length, 5)
decreasing_by
  all_goals
    apply closer
    simp only [List.length_cons] at *
    omega

/-- Further operands of `&&`. -/
def parseAnds (s : Setting) (size depth left : Nat) (ts : List Token) :
    Parser (Nat × NoLonger ts) :=
  match ts with
  | .and :: rest => do
    let (right, ⟨after, h⟩) ← parseUnary s size depth rest
    let both ← push (.and left right)
    let (all, ⟨last, h'⟩) ← parseAnds s size depth both after
    return (all, ⟨last, by simp only [List.length_cons]; omega⟩)
  | ts => return (left, ⟨ts, Nat.le_refl _⟩)
termination_by (ts.length, 6)
decreasing_by
  all_goals
    apply closer
    simp only [List.length_cons] at *
    omega

def parseAnd (s : Setting) (size depth : Nat) (ts : List Token) :
    Parser (Nat × Shorter ts) := do
  let (left, ⟨rest, h⟩) ← parseUnary s size depth ts
  let (all, ⟨after, h'⟩) ← parseAnds s size depth left rest
  return (all, ⟨after, fewer h h'⟩)
termination_by (ts.length, 7)
decreasing_by
  all_goals
    apply closer
    omega

/-- Further operands of `||`. -/
def parseOrs (s : Setting) (size depth left : Nat) (ts : List Token) :
    Parser (Nat × NoLonger ts) :=
  match ts with
  | .or :: rest => do
    let (right, ⟨after, h⟩) ← parseAnd s size depth rest
    let either ← push (.or left right)
    let (all, ⟨last, h'⟩) ← parseOrs s size depth either after
    return (all, ⟨last, by simp only [List.length_cons]; omega⟩)
  | ts => return (left, ⟨ts, Nat.le_refl _⟩)
termination_by (ts.length, 8)
decreasing_by
  all_goals
    apply closer
    simp only [List.length_cons] at *
    omega

def parseOr (s : Setting) (size depth : Nat) (ts : List Token) :
    Parser (Nat × Shorter ts) := do
  let (left, ⟨rest, h⟩) ← parseAnd s size depth ts
  let (all, ⟨after, h'⟩) ← parseOrs s size depth left rest
  return (all, ⟨after, fewer h h'⟩)
termination_by (ts.length, 9)
decreasing_by
  all_goals
    apply closer
    omega

/-- The predicate that all the tokens of a filter make up. -/
def compileFilter (s : Setting) (ts : List Token) : Except PathError Filter :=
  match ts with
  | [] => .error (s.invalid "empty filter")
  | ts => do
    let ((root, ⟨rest, _⟩), nodes) ← (parseOr s ts.length 0 ts).run []
    match rest with
    | [] => .ok (.mk nodes root)
    | t :: _ => .error (s.unexpected t)
termination_by (ts.length, 10)
decreasing_by
  all_goals
    apply closer
    omega

end

/-- The program of a path. -/
def Program.compile (engine : Engine) (path : String) (sizeLimit : Nat) :
    Except PathError Program := do
  let tokens ← tokenize path
  compileTokens ⟨path, engine, sizeLimit⟩ tokens

end Sift.Path.Flat
