import Sift.Path.Flat.Compile
import Sift.Proofs.Listing

/-! Paths are compiled to flat programs.

A program has a flat form, in which the predicate of each filter is listed: operands before what
they are operands of, so that the predicate itself is the last node. Compiling to nodes gives this
form of the program that the same tokens are compiled to, or the same error (`compile_flat`).

There is one lemma for each function of the compiler. For those that read predicates it says that
the nodes behind those which were there are the ones of the predicate, and that the place of the
last one is handed out. -/
namespace Sift.Path

/-! ### Flat predicates -/

mutual

def Segment.flat : Segment → Flat.Segment
  | .root => .step .root
  | .current => .step .current
  | .member name marked => .step (.member name marked)
  | .index i => .step (.index i)
  | .indexWild => .step .indexWild
  | .memberWild => .step .memberWild
  | .descendant name marked => .step (.descendant name marked)
  | .slice start stop step => .step (.slice start stop step)
  | .indexes is => .step (.indexes is)
  | .names ns => .step (.names ns)
  | .filter p => .filter (.mk (p.listFrom []) ((p.listFrom []).length - 1))
termination_by structural segment => segment

/-- The nodes of a predicate behind those listed already; the last one is its own. -/
def Predicate.listFrom (nodes : List Flat.Node) : Predicate → List Flat.Node
  | .resolves path => nodes ++ [.resolves path.flat]
  | .compare op left right => nodes ++ [.compare op left.flat right.flat]
  | .and a b =>
    let first := a.listFrom nodes
    let second := b.listFrom first
    second ++ [.and (first.length - 1) (second.length - 1)]
  | .or a b =>
    let first := a.listFrom nodes
    let second := b.listFrom first
    second ++ [.or (first.length - 1) (second.length - 1)]
  | .not a =>
    let first := a.listFrom nodes
    first ++ [.not (first.length - 1)]
termination_by structural p => p

def Operand.flat : Operand → Flat.Operand
  | .literal v => .literal v
  | .pattern text p => .pattern text p
  | .path p => .path p.flat
termination_by structural operand => operand

def Program.flat : Program → Flat.Program
  | .mk source tokens segments => .mk source tokens (flatAll segments)
termination_by structural p => p

def flatAll : List Segment → List Flat.Segment
  | [] => []
  | segment :: rest => segment.flat :: flatAll rest
termination_by structural segments => segments

end

/-- The nodes of a predicate, with the place of its own. -/
def Predicate.flat (p : Predicate) : Flat.Filter :=
  .mk (p.listFrom []) ((p.listFrom []).length - 1)

theorem step?_flat (t : Token) :
    (Flat.step? t).map Flat.Segment.step = t.segment?.map Segment.flat := by
  cases t <;> rfl

/-- The place of a predicate behind others, with all nodes and what is left of the tokens. -/
def handed (nodes : List Flat.Node) {R : Type} (x : Predicate × R) :
    (Nat × R) × List Flat.Node :=
  (((x.1.listFrom nodes).length - 1, x.2), x.1.listFrom nodes)

mutual

theorem compileSegments_flat (s : Setting) (size : Nat) (ts : List Token) :
    Flat.compileSegments s size ts = (compileSegments s size ts).map flatAll := by
  match ts with
  | [] => rw [Flat.compileSegments, compileSegments]; rfl
  | t :: rest =>
    rw [Flat.compileSegments, compileSegments]
    by_cases ht : t = .startFilter
    · rw [if_pos ht, if_pos ht]
      cases filterLength 0 rest with
      | none => rfl
      | some n =>
        refine map_bind (compileFilter_flat s (rest.take n)) fun p => ?_
        exact map_bind (compileSegments_flat s size (rest.drop (n + 1))) fun segments => rfl
    · rw [if_neg ht, if_neg ht]
      have hstep := step?_flat t
      cases hs : t.segment? with
      | none =>
        rw [hs] at hstep
        rw [Option.map_eq_none_iff.1 hstep]
        rfl
      | some segment =>
        rw [hs] at hstep
        obtain ⟨step, hstep, hsegment⟩ := Option.map_eq_some_iff.1 hstep
        rw [hstep]
        refine map_bind (compileSegments_flat s size rest) fun segments => ?_
        rw [hsegment]
        rfl
termination_by (ts.length, 0)
decreasing_by
  all_goals
    apply closer
    simp only [List.length_cons, List.length_drop, List.length_take]
    omega

theorem compileTokens_flat (s : Setting) (ts : List Token) :
    Flat.compileTokens s ts = (compileTokens s ts).map Program.flat := by
  rw [Flat.compileTokens, compileTokens]
  exact map_bind (compileSegments_flat s ts.length ts) fun segments => rfl
termination_by (ts.length, 1)
decreasing_by exact closer (by omega)

theorem parsePath_flat (s : Setting) (size : Nat) (reference : Token) (ts : List Token) :
    Flat.parsePath s size reference ts =
      (parsePath s size reference ts).map fun x => (x.1.flat, x.2) := by
  rw [Flat.parsePath, parsePath]
  cases selectorLength s size ts with
  | error e => rfl
  | ok n =>
    have hpath := compileTokens_flat s (reference :: ts.take n)
    exact map_bind (f := Program.flat) hpath fun path => rfl
termination_by (ts.length + 1, 2)
decreasing_by
  all_goals
    apply closer
    simp only [List.length_cons, List.length_take] at *
    omega

theorem parseOperand_flat (s : Setting) (size : Nat) (op : Comparison) (ts : List Token) :
    Flat.parseOperand s size op ts =
      (parseOperand s size op ts).map fun x => (x.1.flat, x.2) := by
  rw [Flat.parseOperand.eq_def, parseOperand.eq_def]
  match ts with
  | [] => rfl
  | t :: rest =>
    cases t with
    | text text =>
      dsimp only
      by_cases hop : op = .regex
      · rw [if_pos hop, if_pos hop]
        cases casedPattern s text <;> rfl
      · rw [if_neg hop, if_neg hop]
        rfl
    | current | root => exact map_bind (parsePath_flat s size _ rest) fun ⟨_, _, _⟩ => rfl
    | _ => rfl
termination_by (ts.length, 3)
decreasing_by
  all_goals
    apply closer
    simp only [List.length_cons] at *
    omega

theorem parseRelation_flat (s : Setting) (size : Nat) (reference : Token) (ts : List Token)
    (nodes : List Flat.Node) : (Flat.parseRelation s size reference ts).run nodes =
      (parseRelation s size reference ts).map (handed nodes) := by
  rw [Flat.parseRelation, parseRelation]
  have hpath := run_read_map (parsePath_flat s size reference ts) nodes
  refine run_bind hpath fun ⟨left, rest, h⟩ => ?_
  match rest, h with
  | [], h => rfl
  | t :: more, h =>
    cases t with
    | compare op =>
      exact run_bind (run_read_map (parseOperand_flat s size op more) nodes) fun ⟨_, _, _⟩ => rfl
    | _ => rfl
termination_by (ts.length + 1, 4)
decreasing_by
  · exact closer (by omega)
  · simp only [List.length_cons] at h
    exact closer (by omega)

theorem parseUnary_flat (s : Setting) (size depth : Nat) (ts : List Token)
    (nodes : List Flat.Node) : (Flat.parseUnary s size depth ts).run nodes =
      (parseUnary s size depth ts).map (handed nodes) := by
  rw [Flat.parseUnary.eq_def, parseUnary.eq_def]
  by_cases hdepth : nestingLimit < depth
  · rw [if_pos hdepth, if_pos hdepth]
    rfl
  · rw [if_neg hdepth, if_neg hdepth]
    match ts with
    | [] => rfl
    | t :: rest =>
      cases t with
      | not => exact run_bind (parseUnary_flat s size (depth + 1) rest nodes) fun ⟨_, _, _⟩ => rfl
      | startGroup =>
        refine run_bind (parseOr_flat s size (depth + 1) rest nodes) fun ⟨inner, after, h⟩ => ?_
        match after, h with
        | [], _ => rfl
        | t :: _, _ => cases t <;> rfl
      | current | root =>
        exact run_bind (parseRelation_flat s size _ rest nodes) fun ⟨_, _, _⟩ => rfl
      | _ => rfl
termination_by (ts.length, 5)
decreasing_by
  all_goals
    apply closer
    simp only [List.length_cons] at *
    omega

theorem parseAnds_flat (s : Setting) (size depth : Nat) (left : Predicate) (ts : List Token)
    (nodes : List Flat.Node) :
    (Flat.parseAnds s size depth ((left.listFrom nodes).length - 1) ts).run (left.listFrom nodes) =
      (parseAnds s size depth left ts).map (handed nodes) := by
  rw [Flat.parseAnds.eq_def, parseAnds.eq_def]
  match ts with
  | [] => rfl
  | t :: rest =>
    cases t with
    | and =>
      refine run_bind (parseUnary_flat s size depth rest _) fun ⟨right, after, h⟩ => ?_
      refine (run_push _ _).trans ?_
      exact run_bind (parseAnds_flat s size depth (.and left right) after nodes)
        fun ⟨_, _, _⟩ => rfl
    | _ => rfl
termination_by (ts.length, 6)
decreasing_by
  all_goals
    apply closer
    simp only [List.length_cons] at *
    omega

theorem parseAnd_flat (s : Setting) (size depth : Nat) (ts : List Token)
    (nodes : List Flat.Node) : (Flat.parseAnd s size depth ts).run nodes =
      (parseAnd s size depth ts).map (handed nodes) := by
  rw [Flat.parseAnd, parseAnd]
  refine run_bind (parseUnary_flat s size depth ts nodes) fun ⟨left, rest, h⟩ => ?_
  exact run_bind (parseAnds_flat s size depth left rest nodes) fun ⟨_, _, _⟩ => rfl
termination_by (ts.length, 7)
decreasing_by
  all_goals
    apply closer
    omega

theorem parseOrs_flat (s : Setting) (size depth : Nat) (left : Predicate) (ts : List Token)
    (nodes : List Flat.Node) :
    (Flat.parseOrs s size depth ((left.listFrom nodes).length - 1) ts).run (left.listFrom nodes) =
      (parseOrs s size depth left ts).map (handed nodes) := by
  rw [Flat.parseOrs.eq_def, parseOrs.eq_def]
  match ts with
  | [] => rfl
  | t :: rest =>
    cases t with
    | or =>
      refine run_bind (parseAnd_flat s size depth rest _) fun ⟨right, after, h⟩ => ?_
      refine (run_push _ _).trans ?_
      exact run_bind (parseOrs_flat s size depth (.or left right) after nodes)
        fun ⟨_, _, _⟩ => rfl
    | _ => rfl
termination_by (ts.length, 8)
decreasing_by
  all_goals
    apply closer
    simp only [List.length_cons] at *
    omega

theorem parseOr_flat (s : Setting) (size depth : Nat) (ts : List Token)
    (nodes : List Flat.Node) : (Flat.parseOr s size depth ts).run nodes =
      (parseOr s size depth ts).map (handed nodes) := by
  rw [Flat.parseOr, parseOr]
  refine run_bind (parseAnd_flat s size depth ts nodes) fun ⟨left, rest, h⟩ => ?_
  exact run_bind (parseOrs_flat s size depth left rest nodes) fun ⟨_, _, _⟩ => rfl
termination_by (ts.length, 9)
decreasing_by
  all_goals
    apply closer
    omega

theorem compileFilter_flat (s : Setting) (ts : List Token) :
    Flat.compileFilter s ts = (compilePredicate s ts).map Predicate.flat := by
  rw [Flat.compileFilter.eq_def, compilePredicate.eq_def]
  match ts with
  | [] => rfl
  | t :: rest =>
    refine map_bind (parseOr_flat s _ 0 (t :: rest) []) fun ⟨p, rest, h⟩ => ?_
    cases rest <;> rfl
termination_by (ts.length, 10)
decreasing_by
  all_goals
    apply closer
    omega

end

/-- **A path is compiled to the flat form of its program**, or both compilers come to the same
error. -/
theorem compile_flat (engine : Engine) (path : String) (sizeLimit : Nat) :
    Flat.Program.compile engine path sizeLimit =
      (Program.compile engine path sizeLimit).map Program.flat := by
  rw [Flat.Program.compile, Program.compile]
  cases tokenize path with
  | error e => rfl
  | ok ts => exact compileTokens_flat _ ts

end Sift.Path
