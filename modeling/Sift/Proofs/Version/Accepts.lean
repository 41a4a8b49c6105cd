import Sift.Proofs.Version.Clause
import Sift.Proofs.Version.Order

/-! Constraints agree with the order of versions.

The tests of clauses compare numbers and prereleases in ways of their own and never ask for
the order. Where a clause gives all three numbers, and the version is stable or prereleases
are included, they come to the order all the same (`accepts_iff_holds`): a clause with a
comparison sign holds where the order of the version against the version of the clause is as
the sign says. `accepts_iff_order` says so of whole constraints, in both grammars. -/
namespace Sift.Version

/-! ### What a clause says -/

/-- What an operator says of a version with the numbers `core`, where `bound` are the numbers
of the clause and `o` is the order of the version against the version of the clause. -/
def ClauseOp.Holds (op : ClauseOp) (core bound : Core) (o : Ordering) : Prop :=
  match op with
  | .equal => o = .eq
  | .greater => o = .gt
  | .greaterOrEqual => o ≠ .lt
  | .less => o = .lt
  | .lessOrEqual => o ≠ .gt
  | .minorUplift => core.major = bound.major ∧
      (bound.minor < core.minor ∨ core.minor = bound.minor ∧ bound.patch ≤ core.patch)
  | .patchUplift =>
    core.major = bound.major ∧ core.minor = bound.minor ∧ bound.patch ≤ core.patch

/-- All three numbers are given, and none is a wildcard. -/
def Core.IsExact (core : Core) : Prop :=
  core.major ≠ wildcardSegment ∧ core.minor ≠ wildcardSegment ∧ core.patch ≠ wildcardSegment

instance (core : Core) : Decidable core.IsExact :=
  inferInstanceAs (Decidable (_ ∧ _ ∧ _))

namespace Clause

/-- The version that a clause compares with. -/
def semantic (c : Clause) : Semantic :=
  ⟨segmentValue c.core.major, segmentValue c.core.minor, segmentValue c.core.patch,
    c.prerelease, ""⟩

def calendar (c : Clause) : Calendar :=
  ⟨segmentValue c.core.major, segmentValue c.core.minor, segmentValue c.core.patch,
    c.prerelease⟩

theorem segmentMatches_iff {expected : Int} (h : expected ≠ wildcardSegment) (actual : Int) :
    segmentMatches expected actual = true ↔ actual = expected := by
  rw [segmentMatches, Bool.or_eq_true, beq_iff_eq, beq_iff_eq, or_iff_right h, eq_comm]

/-- Without wildcards, the numbers agree where they are level in the order. -/
theorem coreMatches_eq {c : Clause} (h : c.core.IsExact) (core : Core) :
    c.coreMatches core = (core.order c.core == .eq) := by
  obtain ⟨hmajor, hminor, hpatch⟩ := h
  rw [Bool.eq_iff_iff, beq_iff_eq, Core.order_eq_iff, coreMatches, Bool.and_eq_true,
    Bool.and_eq_true, segmentMatches_iff hmajor, segmentMatches_iff hminor,
    segmentMatches_iff hpatch, and_assoc]
  rcases core with ⟨a, b, d⟩
  rcases c.core with ⟨a', b', d'⟩
  rw [Core.mk.injEq]

/-! ### One clause -/

section

variable {c : Clause} {core : Core} {p : Prerelease}

/-- A clause that sees a version, for it is stable or prereleases are included. -/
def Sees (c : Clause) (p : Prerelease) : Prop := p.isStable = true ∨ c.includePrerelease = true

theorem Sees.shown (h : c.Sees p) : (!p.isStable && !c.includePrerelease) = false := by
  rcases h with h | h <;> simp [h]

theorem Sees.not_hidden (h : c.Sees p) :
    (!c.includePrerelease && c.prerelease.isStable && !p.isStable) = false := by
  rcases h with h | h <;> simp [h]

theorem equals_eq (hexact : c.core.IsExact) :
    c.equals core p = ((core.order c.core).then (p.order c.prerelease) == .eq) := by
  rw [equals, coreMatches_eq hexact, Prerelease.order_swap c.prerelease]
  cases core.order c.core <;> cases p.order c.prerelease <;> rfl

theorem isGreater_eq (hexact : c.core.IsExact) (hsees : c.Sees p) :
    c.isGreater core p = ((core.order c.core).then (p.order c.prerelease) == .gt) := by
  simp only [isGreater, hsees.shown, Bool.false_eq_true, if_false]
  rw [coreMatches_eq hexact, Prerelease.order_swap c.prerelease]
  cases core.order c.core <;> cases p.order c.prerelease <;> rfl

theorem isLess_eq (hexact : c.core.IsExact) (hsees : c.Sees p) :
    c.isLess core p = ((core.order c.core).then (p.order c.prerelease) == .lt) := by
  simp only [isLess, hsees.shown, Bool.false_eq_true, if_false]
  rw [coreMatches_eq hexact, Prerelease.order_swap c.prerelease]
  cases core.order c.core <;> cases p.order c.prerelease <;> rfl

theorem accepts_iff_holds (hexact : c.core.IsExact) (hsees : c.Sees p) :
    c.accepts core p = true ↔
      c.op.Holds core c.core ((core.order c.core).then (p.order c.prerelease)) := by
  unfold accepts
  simp only [hsees.not_hidden, Bool.not_false, Bool.true_and]
  rw [equals_eq hexact, isGreater_eq hexact hsees, isLess_eq hexact hsees]
  generalize (core.order c.core).then (p.order c.prerelease) = o
  cases c.op with
  | equal => exact beq_iff_eq
  | greater => exact beq_iff_eq
  | greaterOrEqual => cases o <;> simp [ClauseOp.Holds]
  | less => exact beq_iff_eq
  | lessOrEqual => cases o <;> simp [ClauseOp.Holds]
  | minorUplift =>
    simp only [ClauseOp.Holds, Bool.and_eq_true, beq_iff_eq, Bool.not_eq_true',
      Bool.or_eq_false_iff, Bool.and_eq_false_iff, decide_eq_false_iff_not, beq_eq_false_iff_ne]
    omega
  | patchUplift => simp [ClauseOp.Holds, and_assoc]

end

/-! ### The version of a clause -/

theorem segmentValue_eq {n : Int} (h : IsSegment n) (hn : n ≠ wildcardSegment) :
    (segmentValue n : Int) = n := by
  have := h.resolve_right hn
  unfold segmentValue
  omega

/-- The version of a clause that gives all numbers has the numbers of the clause. -/
theorem core_semantic {c : Clause} (hread : c.core.IsRead) (hexact : c.core.IsExact) :
    c.semantic.core = c.core := by
  obtain ⟨hmajor, hminor, hpatch⟩ := hread
  obtain ⟨hmajor', hminor', hpatch'⟩ := hexact
  simp only [semantic, Semantic.core, segmentValue_eq hmajor hmajor',
    segmentValue_eq hminor hminor', segmentValue_eq hpatch hpatch']

end Clause

/-! ### Constraints -/

namespace Constraint

/-- There are clauses, and each of them gives all three numbers. -/
def IsExact (c : Constraint) : Prop :=
  c.groups.flatten ≠ [] ∧ ∀ clause ∈ c.groups.flatten, clause.core.IsExact

instance (c : Constraint) : Decidable c.IsExact :=
  inferInstanceAs (Decidable (_ ∧ _))

theorem accepts_iff_groups {c : Constraint} (h : c.groups.flatten ≠ []) (core : Core)
    (p : Prerelease) : c.accepts core p = true ↔
      ∃ group ∈ c.groups, ∀ clause ∈ group, clause.accepts core p = true := by
  have hne : c.groups.isEmpty = false := by
    rw [List.isEmpty_eq_false_iff]
    intro hnil
    exact h (by rw [hnil, List.flatten_nil])
  simp only [accepts, hne, Bool.false_eq_true, if_false, List.any_eq_true, List.all_eq_true]

/-- The clauses of a constraint that was read hold where the order says so. -/
theorem accepts_iff_holds {g : Grammar} {text : String} {includePrerelease : Bool}
    {c : Constraint} (h : parse g text includePrerelease = .ok c) (hexact : c.IsExact)
    {core : Core} {p : Prerelease} (hsees : p.isStable = true ∨ c.includePrerelease = true) :
    c.accepts core p = true ↔ ∃ group ∈ c.groups, ∀ clause ∈ group,
      clause.op.Holds core clause.semantic.core
        ((core.order clause.semantic.core).then (p.order clause.prerelease)) := by
  obtain ⟨hne, hexact⟩ := hexact
  rw [accepts_iff_groups hne]
  refine exists_congr fun group => and_congr_right fun hgroup => ?_
  refine forall_congr' fun clause => imp_congr_right fun hclause => ?_
  have hmem : clause ∈ c.groups.flatten := List.mem_flatten.2 ⟨group, hgroup, hclause⟩
  have hread := parse_clauses h clause hmem
  rw [Clause.core_semantic hread.core (hexact clause hmem)]
  have hsees' : clause.Sees p := by
    rw [Clause.Sees, hread.included]
    exact hsees
  exact Clause.accepts_iff_holds (hexact clause hmem) hsees'

end Constraint

/-- **Constraints agree with the order of versions.** A constraint whose clauses give all
three numbers accepts a version, be it semantic or a calendar version, where all clauses of
one of its groups hold; and a clause with a comparison sign holds where the order of the
version against the version of the clause is as the sign says. The version is stable, or
prereleases are included. -/
theorem accepts_iff_order (text : String) (includePrerelease : Bool) (c : Constraint)
    (hexact : c.IsExact) :
    (Constraint.parse .semantic text includePrerelease = .ok c →
      ∀ v : Semantic, v.isStable = true ∨ c.includePrerelease = true →
        (c.accepts v.core v.prerelease = true ↔ ∃ group ∈ c.groups, ∀ clause ∈ group,
          clause.op.Holds v.core clause.semantic.core (v.order clause.semantic))) ∧
    (Constraint.parse .date text includePrerelease = .ok c →
      ∀ v : Calendar, v.isStable = true ∨ c.includePrerelease = true →
        (c.accepts v.core v.prerelease = true ↔ ∃ group ∈ c.groups, ∀ clause ∈ group,
          clause.op.Holds v.core clause.calendar.core (v.order clause.calendar))) := by
  constructor
  · intro h v hsees
    exact Constraint.accepts_iff_holds h hexact hsees
  · intro h v hsees
    exact Constraint.accepts_iff_holds h hexact hsees

/-- Prereleases between two versions, or at least a later version; and days before one. -/
theorem accepts_iff_order_mixed :
    let c : Constraint := ⟨.semantic, [[⟨.greaterOrEqual, ⟨1, 2, 0⟩, ⟨"rc.1"⟩, true⟩,
      ⟨.less, ⟨2, 0, 0⟩, .none, true⟩], [⟨.minorUplift, ⟨3, 1, 4⟩, .none, true⟩]], true⟩
    let d : Constraint := ⟨.date, [[⟨.lessOrEqual, ⟨2022, 3, 1⟩, ⟨"preview"⟩, false⟩]], false⟩
    let v : Semantic := ⟨1, 2, 0, ⟨"rc.10"⟩, "b7"⟩
    let day : Calendar := ⟨2022, 2, 28, .none⟩
    Constraint.parse .semantic "@pre >=1.2.0-rc.1 <2.0.0 || ^3.1.4" false = .ok c ∧
      Constraint.parse .date "<=2022-03-01-preview" false = .ok d ∧ c.IsExact ∧ d.IsExact ∧
      (c.accepts v.core v.prerelease = true ↔ ∃ group ∈ c.groups, ∀ clause ∈ group,
        clause.op.Holds v.core clause.semantic.core (v.order clause.semantic)) ∧
      (d.accepts day.core day.prerelease = true ↔ ∃ group ∈ d.groups, ∀ clause ∈ group,
        clause.op.Holds day.core clause.calendar.core (day.order clause.calendar)) := by
  intro c d v day
  have hc : Constraint.parse .semantic "@pre >=1.2.0-rc.1 <2.0.0 || ^3.1.4" false = .ok c :=
    Constraint.parse_eq_ok.2 (by decide +kernel)
  have hd : Constraint.parse .date "<=2022-03-01-preview" false = .ok d :=
    Constraint.parse_eq_ok.2 (by decide +kernel)
  have hexact : c.IsExact := by decide
  have hexact' : d.IsExact := by decide
  exact ⟨hc, hd, hexact, hexact', (accepts_iff_order _ false c hexact).1 hc v (.inr rfl),
    (accepts_iff_order _ false d hexact').2 hd day (.inl (by decide))⟩

end Sift.Version
