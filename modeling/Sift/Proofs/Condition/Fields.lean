import Sift.Proofs.Condition.Discipline

/-! The fields of conditions.

A leaf that gives a reason for a path names one of two fields with it: its own one, or the one that
names a schema (`Leaf.Gives.names`). The fields of a condition that was built, those of its leaves
and those of its items, were compiled from the paths in its document
(`Builder.compiled_condition`). -/
namespace Sift

variable {α β : Type}

/-! ### What reasons name -/

/-- A reason that is about a path names a field of the leaf. -/
def Leaf.Tells (l : Leaf) (t : Reason) : Prop := t.origin = .path → l.Names t.operand

namespace Evaluation.Logs

variable {c₀ : Context α} {P : Reason → Prop}

theorem get : Logs c₀ P (Context α) get := by
  intro c before _
  exact ⟨[], .refl c, fun _ ht => absurd ht List.not_mem_nil⟩

theorem addReason {origin : Origin} {path message : String}
    (h : P ⟨origin, path, c₀.itemPath, c₀.parent, message⟩) :
    Logs c₀ P Unit (Operator.addReason origin path message) := by
  intro c before hc
  refine ⟨_, ⟨rfl, rfl⟩, fun t ht => ?_⟩
  obtain rfl := List.mem_singleton.1 ht
  rw [hc.itemPath, hc.parent]
  exact h

theorem silent {x : Evaluation α β} (h : x.Silent) : Logs c₀ P β x := by
  intro c before _
  obtain ⟨r, f, c', -, hout, -, hadds, -, hquiet⟩ := h c c (.refl c)
  have hnone : f = none := hquiet.resolve_right fun ⟨_, _, hfalse⟩ => hfalse
  rw [hout]
  rw [hnone] at hadds
  exact ⟨[], hadds, fun _ ht => absurd ht List.not_mem_nil⟩

theorem closedFor (c₀ : Context α) (l : Leaf) : ClosedFor l (Logs c₀ l.Tells) :=
  ⟨closed c₀ _, .get, fun _ _ _ hnames => .addReason hnames⟩

end Evaluation.Logs

/-- A reason that is about a path names a field of the leaf that gives it. -/
theorem Leaf.Gives.names [Viewable α] {l : Leaf} {c : Context α} {t : Reason} (h : l.Gives c t)
    (hpath : t.origin = .path) : l.Names t.operand := by
  have hlogs : Evaluation.Logs c l.Tells Bool l.evaluate :=
    (Evaluation.Logs.closedFor c l).evaluate fun _ _ path v =>
      (Evaluation.Logs.closedFor c l).test
        (fun s => .silent (Operator.silent_patternOf l.flags s))
        (fun g s _ => .silent (Operator.silent_testVersion l.flags g s v)) path
  obtain ⟨new, hadds, hnew⟩ := hlogs c [] (.refl c)
  have htold : new = [t] := List.append_cancel_left (hadds.reasons.symm.trans h.2.1)
  exact hnew t (htold ▸ List.mem_singleton_self t) hpath

/-! ### Programs of built conditions -/

/-- The program is that of some path. -/
def Path.Program.IsCompiled (engine : Engine) (limit : Nat) (p : Program) : Prop :=
  ∃ path, Program.compile engine path limit = .ok p

/-- All fields of a condition are those of some paths. -/
inductive Condition.Compiled (engine : Engine) (limit : Nat) : Condition → Prop where
  | leaf {path : String} {l : Leaf} : (∀ field ∈ l.field?, field.IsCompiled engine limit) →
      Compiled engine limit (.leaf path l)
  | group {path : String} {k : Combinator} {children : List Condition} :
      (∀ child ∈ children, Compiled engine limit child) →
      Compiled engine limit (.group path k children)
  | forEach {path : String} {k : Combinator} {children : List Condition} {field : Path.Program}
      {w : Option Condition} {q : Option Quantifier} : field.IsCompiled engine limit →
      (∀ child ∈ children, Compiled engine limit child) → (∀ v ∈ w, Compiled engine limit v) →
      Compiled engine limit (.forEach path k children field w q)

namespace Builder

variable {b : Builder}

theorem field_of_compile {path source : String} {p : Path.Program}
    (h : Path.Program.compile b.engine source b.regexSizeLimit = .ok p) :
    b.field path (.text source) = .ok p := by
  have hsource : require path .fieldNotText (Value.text source).text? = .ok source := rfl
  rw [field, hsource]
  simp only [bind, Except.bind, h]

theorem subject_of_field {path : String} {members : Members} {v : Value} {p : Path.Program}
    (hv : member? members "field" = some v) (h : b.field path v = .ok p) :
    b.subject path members = .ok (some (.field p)) := by
  unfold subject
  rw [hv]
  show (b.field path v).map _ = _
  rw [h]
  rfl

theorem compile_of_field {path source : String} {p : Path.Program}
    (h : b.field path (.text source) = .ok p) :
    Path.Program.compile b.engine source b.regexSizeLimit = .ok p := by
  obtain ⟨_, hsource, h⟩ := Path.bind_eq_ok.1 h
  cases hsource
  cases hcompile : Path.Program.compile b.engine source b.regexSizeLimit with
  | error e =>
    rw [hcompile] at h
    cases h
  | ok p =>
    rw [hcompile] at h
    cases h
    rfl

theorem isCompiled_field {path : String} {v : Value} {field : Path.Program}
    (h : b.field path v = .ok field) : field.IsCompiled b.engine b.regexSizeLimit := by
  obtain ⟨source, hsource, -⟩ := Path.bind_eq_ok.1 h
  cases v with
  | text source => exact ⟨source, compile_of_field h⟩
  | _ => cases hsource

theorem isCompiled_subject {path : String} {members : Members} {field : Path.Program}
    (h : b.subject path members = .ok (some (.field field))) :
    field.IsCompiled b.engine b.regexSizeLimit := by
  have self {key : String} {subject : Subject} {v : Value} (hne : subject ≠ .field field) :
      self path key subject v ≠ .ok (some (.field field)) := by
    rw [Builder.self]
    split
    · intro hself
      cases hself
      exact hne rfl
    · intro hself
      cases hself
  unfold subject at h
  split at h
  · rename_i v _
    cases hfield : b.field path v with
    | error e =>
      rw [hfield] at h
      cases h
    | ok p =>
      rw [hfield] at h
      cases h
      exact isCompiled_field hfield
  · split at h
    · exact absurd h (self (fun hfield => nomatch hfield))
    · split at h
      · exact absurd h (self (fun hfield => nomatch hfield))
      · split at h
        · rename_i v _
          cases hparameter : b.parameter path v <;> rw [hparameter] at h <;> cases h
        · cases h

theorem read_of_mem_readAll {read : String → Value → Except BuildError Condition} {path : String}
    {i : Nat} {ds : List Value} {cs : List Condition} (h : readAll read path i ds = .ok cs) :
    ∀ c ∈ cs, ∃ p d, read p d = .ok c := by
  induction ds generalizing i cs with
  | nil =>
    cases h
    exact fun _ hc => absurd hc List.not_mem_nil
  | cons d ds ih =>
    obtain ⟨c, hc, h⟩ := Path.bind_eq_ok.1 h
    obtain ⟨cs, hcs, h⟩ := Path.bind_eq_ok.1 h
    cases h
    exact List.forall_mem_cons.2 ⟨⟨_, d, hc⟩, ih hcs⟩

/-- The fields of a condition that was read were compiled. -/
theorem compiled_condition {levels : Nat} {location : String} {v : Value} {c : Condition}
    (h : b.condition levels location v = .ok c) : c.Compiled b.engine b.regexSizeLimit := by
  induction levels generalizing location v c with
  | zero => cases h
  | succ levels ih =>
    obtain ⟨members, rfl, ⟨-, hleaf⟩ | ⟨k, w, ds, cs, -, -, hcs, hc⟩⟩ := b.condition_eq_ok.1 h
    · obtain ⟨kind, key, v, f, subject, o, -, -, hsubject, -, -, rfl⟩ := b.leaf_eq_ok.1 hleaf
      refine .leaf fun field hfield => ?_
      cases subject with
      | none => cases hfield
      | some s =>
        cases s with
        | field path =>
          cases hfield
          exact isCompiled_subject hsubject
        | _ => cases hfield
    · have hchildren : ∀ child ∈ cs, child.Compiled b.engine b.regexSizeLimit := by
        intro child hchild
        obtain ⟨_, _, hread⟩ := read_of_mem_readAll hcs child hchild
        exact ih hread
      cases hc with
      | group _ => exact .group hchildren
      | forEach _ hfield hfilter _ =>
        refine .forEach (isCompiled_field hfield) hchildren fun w hw => ?_
        cases hfilter with
        | none _ => cases hw
        | some _ hread =>
          cases hw
          exact ih hread

end Builder

end Sift
