import Sift.Proofs.Condition.Place
import Sift.Proofs.Condition.Reading

/-! What an evaluation reads of its context, and what it leaves behind.

An evaluation reads the innermost item and what is given with the target (`Agrees`), and it
leaves the context as it was but for reasons at the end of the list and patterns that it
looked up (`Adds`). Patterns are only kept to be found again: which pattern is found under a
text stays the same. So two contexts that agree go on agreeing. -/
namespace Sift.Context

variable {α : Type}

/-- The pattern that is found under a text, kept or not. -/
def patternAt (c : Context α) (key : String × Bool) : Option Pattern :=
  (c.patterns.lookup key).or (c.engine.compile? key.1 key.2 c.options.execution.regexSizeLimit)

/-- The patterns that are kept are those of their texts. It is so where none are kept yet, and
stays so whatever is evaluated. -/
def Honest (c : Context α) : Prop :=
  ∀ key, c.patternAt key = c.engine.compile? key.1 key.2 c.options.execution.regexSizeLimit

theorem honest_of_nil {c : Context α} (h : c.patterns = []) : c.Honest := by
  intro key
  rw [patternAt, h]
  rfl

/-! ### What is left behind -/

/-- Behind the reasons of `c` there are some more in `c'`, and nothing else has changed. -/
structure Adds (c : Context α) (new : List Reason) (c' : Context α) : Prop where
  eq : c' = { c with reasons := c.reasons ++ new, patterns := c'.patterns }
  patternAt : c'.patternAt = c.patternAt

namespace Adds

variable {c c' c'' : Context α} {new more : List Reason}

theorem refl (c : Context α) : c.Adds [] c := by
  refine ⟨?_, rfl⟩
  rw [List.append_nil]

theorem trans (h : c.Adds new c') (h' : c'.Adds more c'') : c.Adds (new ++ more) c'' := by
  refine ⟨?_, h'.patternAt.trans h.patternAt⟩
  rw [h'.eq, h.eq, ← List.append_assoc]

theorem reasons (h : c.Adds new c') : c'.reasons = c.reasons ++ new := by rw [h.eq]

theorem entered (h : c.Adds new c') : c'.entered = c.entered := by rw [h.eq]

theorem parent (h : c.Adds new c') : c'.parent = c.parent := by rw [h.eq]

theorem options (h : c.Adds new c') : c'.options = c.options := by rw [h.eq]

theorem engine (h : c.Adds new c') : c'.engine = c.engine := by rw [h.eq]

theorem itemPath (h : c.Adds new c') : c'.itemPath = c.itemPath := by
  rw [Context.itemPath, h.entered]
  rfl

theorem current (h : c.Adds new c') : c'.current = c.current := by
  rw [h.eq]
  rfl

theorem honest (h : c.Adds new c') (hc : c.Honest) : c'.Honest := by
  intro key
  rw [h.patternAt, h.options, h.engine]
  exact hc key

theorem enter (h : c.Adds new c') (item : α) (place : String) :
    (c.enter item place).Adds new (c'.enter item place) := by
  have hat : (c'.enter item place).patternAt = (c.enter item place).patternAt := h.patternAt
  refine ⟨?_, hat⟩
  rw [h.eq]
  rfl

/-- An item that was entered is left again. -/
theorem leave {item : α} {place : String} (h : (c.enter item place).Adds new c') :
    c.Adds new c'.leave := by
  have hat : c'.leave.patternAt = c.patternAt := h.patternAt
  refine ⟨?_, hat⟩
  rw [h.eq]
  rfl

/-- Reasons that were added are forgotten again. -/
theorem keepReasons (h : c.Adds new c') : c.Adds [] (c'.keepReasons c.reasons.length) := by
  refine ⟨?_, h.patternAt⟩
  rw [h.eq, Context.keepReasons, List.take_left, List.append_nil]

end Adds

/-! ### Patterns -/

theorem pattern_fst (c : Context α) (text : String) (caseSensitive : Bool) :
    (c.pattern text caseSensitive).1 = c.patternAt (text, caseSensitive) := by
  unfold pattern patternAt
  cases c.patterns.lookup (text, caseSensitive) with
  | some p => rfl
  | none =>
    dsimp only
    cases c.engine.compile? text caseSensitive c.options.execution.regexSizeLimit <;> rfl

/-- A pattern that is made is kept under its text, where it would have been made again. -/
theorem pattern_adds (c : Context α) (text : String) (caseSensitive : Bool) :
    c.Adds [] (c.pattern text caseSensitive).2 := by
  unfold pattern
  cases hkept : c.patterns.lookup (text, caseSensitive) with
  | some p => exact .refl c
  | none =>
    dsimp only
    cases hmade : c.engine.compile? text caseSensitive c.options.execution.regexSizeLimit with
    | none => exact .refl c
    | some p =>
      refine ⟨by rw [List.append_nil], ?_⟩
      funext key
      unfold patternAt
      rw [List.lookup_cons]
      cases hkey : key == (text, caseSensitive) with
      | false => rfl
      | true =>
        rw [beq_iff_eq] at hkey
        rw [hkey, hkept, hmade]
        rfl

/-! ### What is read -/

/-- Two contexts look the same to a condition. -/
structure Agrees (c d : Context α) : Prop where
  current : c.current = d.current
  options : c.options = d.options
  engine : c.engine = d.engine
  now : c.now = d.now
  targetName : c.targetName = d.targetName
  targetType : c.targetType = d.targetType
  patternAt : c.patternAt = d.patternAt

namespace Agrees

variable {c c' d d' : Context α}

theorem refl (c : Context α) : c.Agrees c := ⟨rfl, rfl, rfl, rfl, rfl, rfl, rfl⟩

theorem query (h : c.Agrees d) : c.query = d.query := by
  rw [Context.query, h.options, h.engine, h.now]
  rfl

theorem adds {new more : List Reason} (h : c.Agrees d) (hc : c.Adds new c') (hd : d.Adds more d') :
    c'.Agrees d' := by
  refine ⟨?_, ?_, ?_, ?_, ?_, ?_, ?_⟩
  · rw [hc.current, hd.current, h.current]
  · rw [hc.eq, hd.eq, h.options]
  · rw [hc.eq, hd.eq, h.engine]
  · rw [hc.eq, hd.eq, h.now]
  · rw [hc.eq, hd.eq, h.targetName]
  · rw [hc.eq, hd.eq, h.targetType]
  · rw [hc.patternAt, hd.patternAt, h.patternAt]

theorem enter (h : c.Agrees d) (item : α) (place : String) :
    (c.enter item place).Agrees (d.enter item place) :=
  ⟨rfl, h.options, h.engine, h.now, h.targetName, h.targetType, h.patternAt⟩

variable [Viewable α]

theorem resolve (h : c.Agrees d) : c.resolve = d.resolve := by
  funext field
  rw [Context.resolve, h.query, h.current]
  rfl

theorem scope (h : c.Agrees d) : c.scope = d.scope := by
  rw [Context.scope, h.query, h.current, h.options, h.now]
  rfl

theorem bind? (h : c.Agrees d) : c.bind? = d.bind? := by
  funext fields
  rw [Context.bind?, h.current, h.options]
  rfl

theorem name? (h : c.Agrees d) : c.name? = d.name? := by
  rw [Context.name?, h.targetName, h.bind?, h.options]
  rfl

theorem type? (h : c.Agrees d) : c.type? = d.type? := by
  rw [Context.type?, h.targetType, h.bind?, h.options]
  rfl

theorem itemsOf (h : c.Agrees d) (field : Path.Program) :
    Condition.itemsOf field c = Condition.itemsOf field d := by
  rw [Condition.itemsOf, h.query, h.current]
  rfl

end Agrees

end Sift.Context
