import Sift.Proofs.Text.Blank
import Sift.Proofs.Version.Writable

/-! What including prereleases does to a constraint.

Clauses ask in three places whether a prerelease may be accepted: before anything else, and
again where a version is tested to be greater or less. None of them looks at the flag where the
version is stable (`Clause.accepts_including`), and each lets more through with the flag than
without (`Clause.accepts_mono`). Without it, only a clause that names a prerelease accepts one,
and that of its own version, unless its operator goes upward (`Clause.names_of_accepts`).

The flag does not change what is read, it is only put on the clauses (`readGroups_including`).
So it can be given by the caller or in front of the text, and `parse_gates` says for both
grammars what it makes of a constraint. -/
namespace Sift.Version

open Text

/-- White space around it aside, the text starts with a flag that includes prereleases. -/
def HasFlag (text : String) : Prop := ∃ flag ∈ prereleaseFlags, flag <+: strip text.toList

instance (text : String) : Decidable (HasFlag text) :=
  inferInstanceAs (Decidable (∃ flag ∈ prereleaseFlags, flag <+: strip text.toList))

/-- Each of the three numbers is a wildcard or the number of the version. -/
def Core.Covers (pattern core : Core) : Prop :=
  (pattern.major = wildcardSegment ∨ pattern.major = core.major) ∧
    (pattern.minor = wildcardSegment ∨ pattern.minor = core.minor) ∧
    (pattern.patch = wildcardSegment ∨ pattern.patch = core.patch)

namespace Clause

/-- The same clause with prereleases included, or not. -/
def including (included : Bool) (c : Clause) : Clause := { c with includePrerelease := included }

/-- A prerelease is hidden from a clause that neither includes prereleases nor names one. -/
def hides (c : Clause) (p : Prerelease) : Bool :=
  !c.includePrerelease && c.prerelease.isStable && !p.isStable

/-- What the operator of a clause asks of the versions it sees. -/
def asks (c : Clause) (core : Core) (p : Prerelease) : Bool :=
  match c.op with
  | .equal => c.equals core p
  | .minorUplift => core.major == c.core.major &&
      !(core.minor < c.core.minor || (core.minor == c.core.minor && core.patch < c.core.patch))
  | .patchUplift =>
    core.major == c.core.major && core.minor == c.core.minor && c.core.patch ≤ core.patch
  | .greater => c.isGreater core p
  | .greaterOrEqual => c.isGreater core p || c.equals core p
  | .less => c.isLess core p
  | .lessOrEqual => c.isLess core p || c.equals core p

section

variable {c : Clause} {core : Core} {p : Prerelease}

/-- Nothing is hidden from a clause that asks for equality. -/
theorem accepts_iff_asks : c.accepts core p = true ↔
    (c.op = .equal ∨ c.hides p = false) ∧ c.asks core p = true := by
  have heq : c.accepts core p =
      ((decide (c.op = .equal) || !c.hides p) && c.asks core p) := by
    unfold accepts asks
    cases c.op <;> simp [hides, Bool.and_assoc]
  rw [heq, Bool.and_eq_true, Bool.or_eq_true, decide_eq_true_eq, Bool.not_eq_true']

theorem coreMatches_iff : c.coreMatches core = true ↔ c.core.Covers core := by
  simp only [coreMatches, segmentMatches, Bool.and_eq_true, Bool.or_eq_true, beq_iff_eq,
    Core.Covers, and_assoc]

/-! ### Stable versions -/

/-- The flag makes no difference to a stable version. -/
theorem accepts_including (hp : p.isStable = true) (included other : Bool) :
    (c.including included).accepts core p = (c.including other).accepts core p := by
  simp only [accepts, isGreater, isLess, hp, Bool.not_true, Bool.and_false, Bool.false_and]
  rfl

/-! ### More is accepted with the flag -/

/-- A comparison has two ways to hold, and behind the flag only the second one is left. -/
theorem either_of_shown {hidden outside within : Bool}
    (h : (if hidden then within else outside || within) = true) : (outside || within) = true := by
  cases hidden with
  | true => exact Bool.or_eq_true_iff.2 (.inr h)
  | false => exact h

theorem isGreater_mono (h : (c.including false).isGreater core p = true) :
    (c.including true).isGreater core p = true := by
  have hshown : (!p.isStable && !(c.including true).includePrerelease) = false := Bool.and_false _
  rw [isGreater, hshown]
  exact either_of_shown h

theorem isLess_mono (h : (c.including false).isLess core p = true) :
    (c.including true).isLess core p = true := by
  have hshown : (!p.isStable && !(c.including true).includePrerelease) = false := Bool.and_false _
  rw [isLess, hshown]
  exact either_of_shown h

theorem asks_mono (h : (c.including false).asks core p = true) :
    (c.including true).asks core p = true := by
  rcases c with ⟨op, bound, own, included⟩
  cases op with
  | equal => exact h
  | greater => exact isGreater_mono h
  | greaterOrEqual => exact Bool.or_eq_true_iff.2 ((Bool.or_eq_true_iff.1 h).imp_left isGreater_mono)
  | less => exact isLess_mono h
  | lessOrEqual => exact Bool.or_eq_true_iff.2 ((Bool.or_eq_true_iff.1 h).imp_left isLess_mono)
  | minorUplift => exact h
  | patchUplift => exact h

theorem accepts_mono (h : (c.including false).accepts core p = true) :
    (c.including true).accepts core p = true := by
  rw [accepts_iff_asks] at h ⊢
  exact ⟨.inr rfl, asks_mono h.2⟩

/-! ### Prereleases without the flag -/

/-- A prerelease is level with prereleases only. -/
theorem names_of_equals (hp : p.isStable = false) (h : c.equals core p = true) :
    c.prerelease.isStable = false := by
  simp only [equals, Bool.and_eq_true, beq_iff_eq] at h
  cases hown : c.prerelease.isStable with
  | false => rfl
  | true =>
    have horder := h.2
    rw [Prerelease.order, hown, hp] at horder
    cases horder

/-- Behind the flag, prereleases are compared within their own version only. -/
theorem covers_of_asks (hc : c.includePrerelease = false) (hp : p.isStable = false)
    (hop : ¬ c.op.IsUplift) (h : c.asks core p = true) : c.core.Covers core := by
  rw [← coreMatches_iff]
  have hhidden : (!p.isStable && !c.includePrerelease) = true := by rw [hp, hc]; rfl
  have hequals (h : c.equals core p = true) : c.coreMatches core = true :=
    (Bool.and_eq_true_iff.1 h).1
  have hgreater (h : c.isGreater core p = true) : c.coreMatches core = true := by
    rw [isGreater, if_pos hhidden] at h
    exact (Bool.and_eq_true_iff.1 h).1
  have hless (h : c.isLess core p = true) : c.coreMatches core = true := by
    rw [isLess, if_pos hhidden] at h
    exact (Bool.and_eq_true_iff.1 h).1
  unfold asks at h
  split at h
  · exact hequals h
  · rename_i huplift
    exact absurd (.inl huplift) hop
  · rename_i huplift
    exact absurd (.inr huplift) hop
  · exact hgreater h
  · exact (Bool.or_eq_true_iff.1 h).elim hgreater hequals
  · exact hless h
  · exact (Bool.or_eq_true_iff.1 h).elim hless hequals

/-- Without the flag, a clause accepts a prerelease only if it names one itself, and unless
its operator goes upward, only one of its own version. -/
theorem names_of_accepts (hc : c.includePrerelease = false) (hp : p.isStable = false)
    (h : c.accepts core p = true) :
    c.prerelease.isStable = false ∧ (¬ c.op.IsUplift → c.core.Covers core) := by
  obtain ⟨hseen, hasks⟩ := accepts_iff_asks.1 h
  refine ⟨?_, fun hop => covers_of_asks hc hp hop hasks⟩
  obtain hop | hseen := hseen
  · rw [asks, hop] at hasks
    exact names_of_equals hp hasks
  · simpa [hides, hc, hp] using hseen

end

end Clause

/-! ### Reading with the flag and without -/

section

variable {g : Grammar}

theorem readClause_including (included other : Bool) (cs : List Char) :
    readClause g included cs =
      (readClause g other cs).map fun (c, rest) => (c.including included, rest) := by
  simp only [readClause, Option.bind_eq_bind, Option.map_bind, Function.comp_def, Option.map_some,
    Clause.including]

/-- The flag is on every clause, and nothing else depends on it. -/
theorem readGroups_including (included other : Bool) (group : List Clause) (cs : List Char) :
    readGroups g included (group.map (Clause.including included)) cs =
      (readGroups g other group cs).map (List.map (List.map (Clause.including included))) := by
  fun_induction readGroups g other group cs with
  | case1 group cs hempty =>
    rw [readGroups, if_pos hempty, List.isEmpty_map]
    cases group.isEmpty <;> rfl
  | case2 group cs hempty hclause =>
    rw [readGroups, if_neg hempty, readClause_including included other, hclause]
    rfl
  | case3 group cs hempty clause rest hclause ih =>
    rw [readGroups, if_neg hempty, readClause_including included other, hclause]
    rw [List.map_append] at ih
    exact ih
  | case4 group cs hempty clause rest hclause ih =>
    rw [readGroups, if_neg hempty, readClause_including included other, hclause]
    rw [List.map_nil] at ih
    simp only [Option.map_some, ih, Option.map_map, Function.comp_def, List.map_cons,
      List.map_append, List.map_nil]

end

namespace Constraint

variable {g : Grammar} {text : String} {c : Constraint} {core : Core} {p : Prerelease}

/-- The same constraint with prereleases included, or not. -/
def including (included : Bool) (c : Constraint) : Constraint :=
  ⟨c.grammar, c.groups.map (List.map (Clause.including included)), included⟩

theorem parse_of_not_hasFlag (hflag : ¬ HasFlag text) (included : Bool) :
    parse g text included = .ok c ↔
      (readGroups g included [] ((strip text.toList).dropWhile (· == ' '))).map
        (fun groups => ⟨g, groups, included⟩) = some c := by
  have hnone : prereleaseFlags.find? (fun f => f.isPrefixOf (strip text.toList)) = none := by
    rw [List.find?_eq_none]
    intro flag hmem hprefix
    exact hflag ⟨flag, hmem, List.isPrefixOf_iff_prefix.1 hprefix⟩
  simp only [parse_eq_ok, hnone, Option.isSome_none, Bool.or_false, Option.map_none,
    Option.getD_none, List.drop_zero]

/-- A text without a flag is read as one constraint, and the caller says what it includes. -/
theorem parse_including {given : Bool} (h : parse g text given = .ok c) (hflag : ¬ HasFlag text)
    (included : Bool) : parse g text included = .ok (c.including included) := by
  rw [parse_of_not_hasFlag hflag] at h ⊢
  obtain ⟨groups, hgroups, rfl⟩ := Option.map_eq_some_iff.1 h
  have hread := readGroups_including (g := g) included given []
    ((strip text.toList).dropWhile (· == ' '))
  rw [List.map_nil] at hread
  rw [hread, hgroups]
  rfl

theorem head_flag {flag : List Char} (h : flag ∈ prereleaseFlags) : flag.head? = some '@' := by
  simp only [prereleaseFlags, List.mem_cons, List.not_mem_nil, or_false] at h
  obtain rfl | rfl := h <;> rfl

theorem not_hasFlag (h : ∀ ch ∈ (strip text.toList).head?, ch ≠ '@') : ¬ HasFlag text := by
  rintro ⟨flag, hflag, behind, htext⟩
  refine h '@' ?_ rfl
  rw [← htext, List.head?_append, head_flag hflag]
  rfl

/-- Nothing is stripped between a flag and a trimmed text. -/
theorem strip_flagged {flag cs : List Char} (hflag : flag ∈ prereleaseFlags) (hcs : cs ≠ [])
    (htrim : strip cs = cs) : strip (flag ++ cs) = flag ++ cs := by
  apply stripWhile_eq_self
  · rw [List.head?_append, head_flag hflag]
    rintro _ ⟨⟩
    decide +kernel
  · rw [List.getLast?_append_of_ne_nil flag hcs, ← htrim]
    exact last_stripWhile isBlank cs

/-- Neither flag is the start of the other one. -/
theorem find?_flag {flag : List Char} (hflag : flag ∈ prereleaseFlags) (cs : List Char) :
    prereleaseFlags.find? (fun f => f.isPrefixOf (flag ++ cs)) = some flag := by
  have hprefix : flag.isPrefixOf (flag ++ cs) = true :=
    List.isPrefixOf_iff_prefix.2 (List.prefix_append flag cs)
  simp only [prereleaseFlags, List.mem_cons, List.not_mem_nil, or_false] at hflag
  obtain rfl | rfl := hflag
  · rw [prereleaseFlags, List.find?_cons, hprefix]
  · have hother : "@prerelease ".toList.isPrefixOf ("@pre ".toList ++ cs) = false := rfl
    rw [prereleaseFlags, List.find?_cons, hother, List.find?_cons, hprefix]

/-- A flag in front of a trimmed text says what the caller may say. -/
theorem parse_flagged {flag : String} (hflag : flag.toList ∈ prereleaseFlags) (hne : text ≠ "")
    (htrim : trim text = text) (htext : ¬ HasFlag text) (h : parse g text true = .ok c) :
    parse g (flag ++ text) false = .ok c := by
  have hstrip := strip_of_trim htrim
  have hchars : text.toList ≠ [] := fun hnil => hne (String.toList_eq_nil_iff.1 hnil)
  rw [parse_of_not_hasFlag htext, hstrip] at h
  simp only [parse_eq_ok, String.toList_append, strip_flagged hflag hchars hstrip,
    find?_flag hflag, Option.isSome_some, Bool.or_true, Option.map_some, Option.getD_some,
    List.drop_left]
  exact h

/-! ### Constraints -/

theorem accepts_including (hp : p.isStable = true) (included other : Bool) :
    (c.including included).accepts core p = (c.including other).accepts core p := by
  simp only [accepts, including, List.isEmpty_map, hp, Bool.true_or, List.any_map, List.all_map,
    Function.comp_def, Clause.accepts_including hp included other]

theorem accepts_mono (h : (c.including false).accepts core p = true) :
    (c.including true).accepts core p = true := by
  simp only [accepts, including, List.isEmpty_map, Bool.or_true] at h ⊢
  split at h
  · rename_i hempty
    rw [if_pos hempty]
  · rename_i hempty
    rw [if_neg hempty]
    simp only [List.any_map, List.any_eq_true, List.all_map, List.all_eq_true,
      Function.comp_apply] at h ⊢
    obtain ⟨group, hgroup, haccepts⟩ := h
    exact ⟨group, hgroup, fun clause hclause => Clause.accepts_mono (haccepts clause hclause)⟩

/-- The group that accepts a prerelease without the flag. -/
theorem names_of_accepts (hc : c.includePrerelease = false)
    (hclauses : ∀ clause ∈ c.groups.flatten, clause.includePrerelease = false)
    (hp : p.isStable = false) (h : c.accepts core p = true) :
    ∃ group ∈ c.groups, ∀ clause ∈ group,
      clause.prerelease.isStable = false ∧ (¬ clause.op.IsUplift → clause.core.Covers core) := by
  rw [accepts, hc, hp] at h
  split at h
  · cases h
  · simp only [List.any_eq_true, List.all_eq_true] at h
    obtain ⟨group, hgroup, haccepts⟩ := h
    refine ⟨group, hgroup, fun clause hclause => ?_⟩
    have hincluded := hclauses clause (List.mem_flatten.2 ⟨group, hgroup, hclause⟩)
    exact Clause.names_of_accepts hincluded hp (haccepts clause hclause)

end Constraint

/-- What including prereleases makes of the constraint of a text: it is read as `plain`
without the flag and as `included` with it. -/
structure Gates (g : Grammar) (text : String) (plain included : Constraint) : Prop where
  without : Constraint.parse g text false = .ok plain
  given : Constraint.parse g text true = .ok included
  /-- Stable versions are accepted by both or by neither. -/
  stable : ∀ core p, p.isStable = true → plain.accepts core p = included.accepts core p
  more : ∀ core p, plain.accepts core p = true → included.accepts core p = true
  /-- Without the flag, a prerelease needs a group whose clauses all name one, and all but the
  uplifts one of its own version. The empty constraint has no group. -/
  named : ∀ core p, p.isStable = false → plain.accepts core p = true →
    ∃ group ∈ plain.groups, group ≠ [] ∧ ∀ clause ∈ group,
      clause.prerelease.isStable = false ∧ (¬ clause.op.IsUplift → clause.core.Covers core)
  /-- In front of the text, a flag does what the caller's does. -/
  flagged : trim text = text → text ≠ "" → ∀ flag ∈ ["@pre ", "@prerelease "],
    Constraint.parse g (flag ++ text) false = .ok included

/-- **Prereleases are let in by the flag, or by clauses that name them.** Every text that is
read as a constraint, in either grammar and with a flag given or not, is read both ways, as
constraints that are to each other as `Gates` says; the text has no flag of its own. -/
theorem parse_gates (g : Grammar) (text : String) (given : Bool) (c : Constraint)
    (h : Constraint.parse g text given = .ok c) (hflag : ¬ HasFlag text) :
    ∃ plain included, Gates g text plain included := by
  have hplain := Constraint.parse_including h hflag false
  have hincluded := Constraint.parse_including h hflag true
  obtain ⟨-, hclauses, hgroups⟩ := Constraint.parse_writable hplain
  refine ⟨c.including false, c.including true, hplain, hincluded, ?_, ?_, ?_, ?_⟩
  · intro core p hp
    exact Constraint.accepts_including hp false true
  · intro core p
    exact Constraint.accepts_mono
  · intro core p hp haccepts
    obtain ⟨group, hgroup, hnames⟩ := Constraint.names_of_accepts rfl
      (fun clause hclause => (hclauses clause hclause).2) hp haccepts
    exact ⟨group, hgroup, hgroups group hgroup, hnames⟩
  · intro htrim hne flag hmem
    refine Constraint.parse_flagged ?_ hne htrim hflag hincluded
    simp only [List.mem_cons, List.not_mem_nil, or_false] at hmem
    obtain rfl | rfl := hmem <;> simp [prereleaseFlags]

/-- Wildcards, both kinds of uplifts and bars; and days, with the flag given. -/
theorem parse_gates_mixed :
    let c : Constraint := ⟨.semantic, [[⟨.greaterOrEqual, ⟨1, 2, 0⟩, ⟨"rc.1"⟩, false⟩,
      ⟨.less, ⟨2, -1, -1⟩, ⟨"0"⟩, false⟩], [⟨.minorUplift, ⟨3, 1, 4⟩, ⟨"alpha"⟩, false⟩]], false⟩
    let d : Constraint := ⟨.date, [[⟨.lessOrEqual, ⟨2022, 3, 1⟩, ⟨"preview"⟩, true⟩]], true⟩
    Constraint.parse .semantic ">=1.2.0-rc.1 <2.x-0 || ^3.1.4-alpha" false = .ok c ∧
      ¬ HasFlag ">=1.2.0-rc.1 <2.x-0 || ^3.1.4-alpha" ∧
      Constraint.parse .date " <=2022-03-01-preview" true = .ok d ∧
      ¬ HasFlag " <=2022-03-01-preview" ∧
      (∃ plain included, Gates .semantic ">=1.2.0-rc.1 <2.x-0 || ^3.1.4-alpha" plain included) ∧
      ∃ plain included, Gates .date " <=2022-03-01-preview" plain included := by
  intro c d
  have hc : Constraint.parse .semantic ">=1.2.0-rc.1 <2.x-0 || ^3.1.4-alpha" false = .ok c :=
    Constraint.parse_eq_ok.2 (by decide +kernel)
  have hd : Constraint.parse .date " <=2022-03-01-preview" true = .ok d :=
    Constraint.parse_eq_ok.2 (by decide +kernel)
  have hflag : ¬ HasFlag ">=1.2.0-rc.1 <2.x-0 || ^3.1.4-alpha" := by decide +kernel
  have hflag' : ¬ HasFlag " <=2022-03-01-preview" := by decide +kernel
  exact ⟨hc, hflag, hd, hflag', parse_gates _ _ _ c hc hflag, parse_gates _ _ _ d hd hflag'⟩

end Sift.Version
