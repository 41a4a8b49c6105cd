import Sift.Proofs.Version.Accepts
import Sift.Proofs.Version.Inclusion
import Sift.Proofs.Version.Preorder
import Sift.Proofs.Version.RoundTrip

/-! Clauses that are made of a version.

A text that is read as a version is read as a clause too, behind any sign of an operator, since
both share one reader and no version starts with a sign (`parse_signed`). The two readings differ
in the segments that are wildcards or left out: the version has a zero there, and the clause
keeps the mark of a wildcard. Equality and the comparisons that include it match the mark with
any number, and so they accept the version. The uplifts do not: they keep numbers as they are,
and no number is the mark. So an uplift accepts its own version where the segments it keeps are
given, and no version at all elsewhere (`accepts_own_bound`). -/
namespace Sift.Version

open Text

/-! ### The start of a version -/

/-- Characters in front of a version: signs of operators, a blank, and the start of a flag. -/
def leadingMarks : List Char := '@' :: ' ' :: operatorSigns

theorem readCore_marked (g : Grammar) (cs : List Char) {c : Char} (hc : c ∈ leadingMarks) :
    readCore g (c :: cs) = none := by
  have hne : ∀ c ∈ leadingMarks, c ≠ 'v' ∧ c ≠ 'V' ∧ ¬ c.isDigit = true ∧ c ≠ g.separator ∧
      ¬ isWildcard c = true := by
    cases g <;> decide
  obtain ⟨hv, hV, hdigit, hseparator, hwild⟩ := hne c hc
  rw [readCore_eq (by rintro _ ⟨⟩; exact ⟨hv, hV⟩), readSegments, dif_neg hdigit,
    if_neg hseparator, if_neg hwild]
  split <;> rfl

/-- A version starts with none of the characters that may stand in front of it. -/
theorem readParts_head {g : Grammar} {cs rest : List Char} {parts : Parts}
    (h : readParts g cs = some (parts, rest)) : ∃ c more, cs = c :: more ∧ c ∉ leadingMarks := by
  obtain ⟨⟨core, after⟩, hcore, -⟩ := Option.bind_eq_some_iff.1 h
  cases cs with
  | nil => exact absurd (readCore_length hcore) (Nat.not_lt_zero _)
  | cons c more =>
    refine ⟨c, more, rfl, fun hc => ?_⟩
    rw [readCore_marked g more hc] at hcore
    cases hcore

/-! ### A version behind a sign -/

/-- A text without a flag that is one clause. -/
theorem parse_clause {g : Grammar} {text : String} {included : Bool} {clause : Clause}
    (htrim : strip text.toList = text.toList) (hflag : ¬ HasFlag text)
    (hblank : ∀ c ∈ text.toList.head?, (c == ' ') = false)
    (hread : readClause g included text.toList = some (clause, .or, [])) :
    Constraint.parse g text included = .ok ⟨g, [[clause]], included⟩ := by
  have hne : text.toList ≠ [] := by
    intro hnil
    rw [hnil] at hread
    exact absurd (readClause_length hread) (Nat.not_lt_zero _)
  have hnil : readGroups g included [] [] = some [] := by rw [readGroups]; rfl
  rw [Constraint.parse_of_not_hasFlag hflag, htrim, dropWhile_eq_self hblank, readGroups_eq hne,
    hread]
  simp only [hnil]
  rfl

/-- The operators that are meant to accept their own bound, with the signs they have. -/
def inclusiveSigns : List (String × ClauseOp) := [
  ("", .equal), ("=", .equal), (">=", .greaterOrEqual), ("<=", .lessOrEqual),
  ("^", .minorUplift), ("~", .patchUplift)]

section

variable {sign : String} {op : ClauseOp}

theorem readOperator_inclusive (h : (sign, op) ∈ inclusiveSigns) {cs : List Char}
    (hcs : ∀ c ∈ cs.head?, c ∉ operatorSigns) :
    readOperator .semantic (sign.toList ++ cs) = some (op, cs) := by
  simp only [inclusiveSigns, List.mem_cons, List.not_mem_nil, or_false, Prod.mk.injEq] at h
  obtain ⟨rfl, rfl⟩ | h := h
  · rw [String.toList_empty, List.nil_append, readOperator, readSigns_other hcs]
    rfl
  · obtain hsymbol : sign = op.symbol := by
      obtain ⟨rfl, rfl⟩ | ⟨rfl, rfl⟩ | ⟨rfl, rfl⟩ | ⟨rfl, rfl⟩ | ⟨rfl, rfl⟩ := h <;> rfl
    rw [hsymbol]
    exact readOperator_written (fun _ => rfl) hcs

theorem mem_sign (h : (sign, op) ∈ inclusiveSigns) : ∀ c ∈ sign.toList, c ∈ operatorSigns := by
  have hsigns : ∀ entry ∈ inclusiveSigns, ∀ c ∈ entry.1.toList, c ∈ operatorSigns := by decide
  exact hsigns _ h

/-- The text of a version is one clause behind any sign, with the numbers as they were read. -/
theorem parse_signed (h : (sign, op) ∈ inclusiveSigns) {text : String} {parts : Parts}
    (hread : readParts .semantic text.toList = some (parts, []))
    (htrim : strip text.toList = text.toList) (included : Bool) :
    Constraint.parse .semantic (sign ++ text) included =
      .ok ⟨.semantic, [[⟨op, parts.core, parts.prerelease, included⟩]], included⟩ := by
  obtain ⟨start, more, htext, hstart⟩ := readParts_head hread
  have hsigns : ∀ c ∈ text.toList.head?, c ∉ operatorSigns := by
    rw [htext]
    rintro _ ⟨⟩ hc
    exact hstart (List.mem_cons_of_mem _ (List.mem_cons_of_mem _ hc))
  have hplain : ∀ c ∈ (sign ++ text).toList.head?,
      isBlank c = false ∧ (c == ' ') = false ∧ ('@' == c) = false := by
    intro c hc
    rw [String.toList_append] at hc
    cases hsign : sign.toList with
    | nil =>
      rw [hsign, htext] at hc
      cases hc
      refine ⟨head_stripWhile isBlank text.toList start ?_, ?_, ?_⟩
      · rw [show stripWhile isBlank text.toList = text.toList from htrim, htext]
        rfl
      · exact beq_false_of_ne fun hblank => hstart (by simp [leadingMarks, hblank])
      · exact beq_false_of_ne fun hat => hstart (by simp [leadingMarks, ← hat])
    | cons s signs =>
      rw [hsign] at hc
      cases hc
      obtain ⟨hblank, hspace, -, hat⟩ := operatorSigns_plain c
        (mem_sign h c (hsign ▸ List.mem_cons_self))
      exact ⟨hblank, hspace, hat⟩
  have hstrip : strip (sign ++ text).toList = (sign ++ text).toList := by
    apply stripWhile_eq_self fun c hc => (hplain c hc).1
    have hne : text.toList ≠ [] := htext ▸ List.cons_ne_nil start more
    rw [String.toList_append, List.getLast?_append_of_ne_nil _ hne, ← htrim]
    exact last_stripWhile isBlank text.toList
  have hflag : ¬ HasFlag (sign ++ text) := by
    apply Constraint.not_hasFlag
    rw [hstrip]
    rintro c hc rfl
    cases (hplain _ hc).2.2
  apply parse_clause hstrip hflag fun c hc => (hplain c hc).2.1
  simp only [String.toList_append, readClause, readOperator_inclusive h hsigns, hread,
    Option.bind_eq_bind, Option.bind_some]
  rfl

end

/-! ### What the clause accepts -/

/-- The segments that an operator keeps as they are have been given. -/
def ClauseOp.KeepsGiven (op : ClauseOp) (core : Core) : Prop :=
  match op with
  | .minorUplift => core.major ≠ wildcardSegment
  | .patchUplift => core.major ≠ wildcardSegment ∧ core.minor ≠ wildcardSegment
  | _ => True

theorem segmentValue_cases {n : Int} (h : IsSegment n) :
    (n = wildcardSegment ∧ (segmentValue n : Int) = 0) ∨ (0 ≤ n ∧ (segmentValue n : Int) = n) := by
  by_cases hn : n = wildcardSegment
  · exact .inl ⟨hn, by rw [hn]; rfl⟩
  · exact .inr ⟨h.resolve_right hn, Clause.segmentValue_eq h hn⟩

namespace Clause

variable {c : Clause}

theorem covers_own (h : c.core.IsRead) : c.core.Covers c.semantic.core := by
  obtain ⟨hmajor, hminor, hpatch⟩ := h
  exact ⟨(segmentValue_cases hmajor).imp And.left fun h => h.2.symm,
    (segmentValue_cases hminor).imp And.left fun h => h.2.symm,
    (segmentValue_cases hpatch).imp And.left fun h => h.2.symm⟩

theorem equals_own (h : c.core.IsRead) : c.equals c.semantic.core c.prerelease = true := by
  have horder : c.prerelease.order c.prerelease = .eq := Std.ReflCmp.compare_self
  rw [equals, coreMatches_iff.2 (covers_own h), horder]
  rfl

/-- A clause names the prerelease of its own version, if there is any. -/
theorem not_hides_own (c : Clause) : c.hides c.prerelease = false := by
  rw [hides]
  cases c.prerelease.isStable <;> simp

/-- An uplift accepts its own version where it can keep it; the other operators accept it
anyway. -/
theorem accepts_own {sign : String} (h : (sign, c.op) ∈ inclusiveSigns) (hread : c.core.IsRead) :
    c.accepts c.semantic.core c.prerelease = true ↔ c.op.KeepsGiven c.core := by
  have hequals := equals_own hread
  rw [accepts_iff_asks, not_hides_own, and_iff_right (.inr rfl)]
  rcases c with ⟨op, core, p, included⟩
  have hmajor := segmentValue_cases (n := core.major) hread.1
  have hminor := segmentValue_cases (n := core.minor) hread.2.1
  have hpatch := segmentValue_cases (n := core.patch) hread.2.2
  simp only [inclusiveSigns, List.mem_cons, List.not_mem_nil, or_false, Prod.mk.injEq] at h
  obtain ⟨-, rfl⟩ | ⟨-, rfl⟩ | ⟨-, rfl⟩ | ⟨-, rfl⟩ | ⟨-, rfl⟩ | ⟨-, rfl⟩ := h
  · exact iff_of_true hequals trivial
  · exact iff_of_true hequals trivial
  · exact iff_of_true (Bool.or_eq_true_iff.2 (.inr hequals)) trivial
  · exact iff_of_true (Bool.or_eq_true_iff.2 (.inr hequals)) trivial
  · simp only [asks, Bool.and_eq_true, beq_iff_eq, Bool.not_eq_true', Bool.or_eq_false_iff,
      Bool.and_eq_false_iff, decide_eq_false_iff_not, beq_eq_false_iff_ne]
    simp only [ClauseOp.KeepsGiven, semantic, Semantic.core]
    unfold wildcardSegment at *
    omega
  · simp only [asks, Bool.and_eq_true, beq_iff_eq, decide_eq_true_eq]
    simp only [ClauseOp.KeepsGiven, semantic, Semantic.core]
    unfold wildcardSegment at *
    omega

/-- An uplift that keeps a wildcard accepts nothing, since no number of a version is the mark of
a wildcard. -/
theorem not_accepts (h : ¬ c.op.KeepsGiven c.core) (v : Semantic) :
    c.accepts v.core v.prerelease = false := by
  rw [Bool.eq_false_iff]
  intro haccepts
  obtain ⟨-, hasks⟩ := accepts_iff_asks.1 haccepts
  have hmajor : v.core.major ≠ wildcardSegment := by simp [Semantic.core, wildcardSegment]
  have hminor : v.core.minor ≠ wildcardSegment := by simp [Semantic.core, wildcardSegment]
  rcases c with ⟨op, core, p, included⟩
  cases op with
  | minorUplift =>
    simp only [asks, Bool.and_eq_true, beq_iff_eq] at hasks
    rw [hasks.1] at hmajor
    exact h hmajor
  | patchUplift =>
    simp only [asks, Bool.and_eq_true, beq_iff_eq] at hasks
    rw [hasks.1.1] at hmajor
    rw [hasks.1.2] at hminor
    exact h ⟨hmajor, hminor⟩
  | _ => exact h trivial

end Clause

/-! ### Texts -/

theorem readVersion_eq_some {g : Grammar} {text : String} {parts : Parts} :
    readVersion g text = some parts ↔ readParts g (strip text.toList) = some (parts, []) := by
  unfold readVersion
  split
  · rename_i hread
    rw [hread]
    simp
  · rename_i hread
    exact iff_of_false (by simp) (hread parts)

/-- The version of a text has a zero wherever no number is given. -/
def Parts.semantic (parts : Parts) : Semantic :=
  ⟨segmentValue parts.core.major, segmentValue parts.core.minor, segmentValue parts.core.patch,
    parts.prerelease, parts.build⟩

theorem Semantic.parse_eq_ok {text : String} {v : Semantic} : Semantic.parse text = .ok v ↔
    ∃ parts, readVersion .semantic text = some parts ∧ v = parts.semantic := by
  unfold parse
  cases readVersion .semantic text with
  | none => simp
  | some parts => simp [Parts.semantic, eq_comm]

theorem Constraint.accepts_single (g : Grammar) (c : Clause) (included : Bool) (core : Core)
    (p : Prerelease) : (Constraint.mk g [[c]] included).accepts core p = c.accepts core p := by
  simp [accepts]

/-- **Clauses made of a version accept that version**, if they keep no wildcard. The trimmed text
of a version is read as a clause without any sign and behind each sign whose operator includes
its bound, whether prereleases are included or not. Equality and the comparisons accept the
version of the text. An uplift accepts it where the segments that it keeps are numbers in the
text, and where one of them is a wildcard or left out it accepts no version at all. -/
theorem accepts_own_bound (text : String) (v : Semantic) (h : Semantic.parse text = .ok v)
    (htrim : trim text = text) (included : Bool) :
    ∃ parts, readVersion .semantic text = some parts ∧
      ∀ sign op, (sign, op) ∈ inclusiveSigns →
        ∃ c, Constraint.parse .semantic (sign ++ text) included = .ok c ∧
          (c.accepts v.core v.prerelease = true ↔ op.KeepsGiven parts.core) ∧
          (¬ op.KeepsGiven parts.core →
            ∀ w : Semantic, c.accepts w.core w.prerelease = false) := by
  obtain ⟨parts, hread, rfl⟩ := Semantic.parse_eq_ok.1 h
  have hstrip := strip_of_trim htrim
  have hparts := readVersion_eq_some.1 hread
  rw [hstrip] at hparts
  refine ⟨parts, hread, fun sign op hsign => ⟨_, parse_signed hsign hparts hstrip included, ?_, ?_⟩⟩
  · rw [Constraint.accepts_single]
    exact Clause.accepts_own hsign (readParts_isRead hparts)
  · intro hop w
    rw [Constraint.accepts_single]
    exact Clause.not_accepts hop w

/-- A `v`, a wildcard, a prerelease and a build: an uplift of the minor number accepts the
version, and so does one of the patch. -/
theorem accepts_own_bound_open :
    let v : Semantic := ⟨1, 2, 0, ⟨"rc.1"⟩, "b7"⟩
    Semantic.parse "v1.2.x-rc.1+b7" = .ok v ∧ trim "v1.2.x-rc.1+b7" = "v1.2.x-rc.1+b7" ∧
      ∃ parts, readVersion .semantic "v1.2.x-rc.1+b7" = some parts ∧
        ∀ sign op, (sign, op) ∈ inclusiveSigns →
          ∃ c, Constraint.parse .semantic (sign ++ "v1.2.x-rc.1+b7") false = .ok c ∧
            (c.accepts v.core v.prerelease = true ↔ op.KeepsGiven parts.core) ∧
            (¬ op.KeepsGiven parts.core →
              ∀ w : Semantic, c.accepts w.core w.prerelease = false) := by
  intro v
  have hread : readVersion .semantic "v1.2.x-rc.1+b7" = some ⟨⟨1, 2, -1⟩, ⟨"rc.1"⟩, "b7"⟩ := by
    decide +kernel
  have hv : Semantic.parse "v1.2.x-rc.1+b7" = .ok v := Semantic.parse_eq_ok.2 ⟨_, hread, rfl⟩
  have htrim : trim "v1.2.x-rc.1+b7" = "v1.2.x-rc.1+b7" := by decide +kernel
  exact ⟨hv, htrim, accepts_own_bound _ v hv htrim false⟩

/-- An uplift of the patch needs a minor number, and one of the minor number a major one: of
`1` and of `x` they accept nothing, not even the versions that these texts are. -/
theorem uplift_refuses_own :
    let v : Semantic := ⟨1, 0, 0, .none, ""⟩
    let zero : Semantic := ⟨0, 0, 0, .none, ""⟩
    Semantic.parse "1" = .ok v ∧ trim "1" = "1" ∧
      (∃ c, Constraint.parse .semantic "~1" false = .ok c ∧
        ∀ w : Semantic, c.accepts w.core w.prerelease = false) ∧
      Semantic.parse "x" = .ok zero ∧ trim "x" = "x" ∧
      ∃ c, Constraint.parse .semantic "^x" false = .ok c ∧
        ∀ w : Semantic, c.accepts w.core w.prerelease = false := by
  intro v zero
  have hone : readVersion .semantic "1" = some ⟨⟨1, -1, -1⟩, .none, ""⟩ := by decide +kernel
  have hx : readVersion .semantic "x" = some ⟨⟨-1, -1, -1⟩, .none, ""⟩ := by decide +kernel
  have hpatch : Constraint.parse .semantic "~1" false =
      .ok ⟨.semantic, [[⟨.patchUplift, ⟨1, -1, -1⟩, .none, false⟩]], false⟩ :=
    Constraint.parse_eq_ok.2 (by decide +kernel)
  have hminor : Constraint.parse .semantic "^x" false =
      .ok ⟨.semantic, [[⟨.minorUplift, ⟨-1, -1, -1⟩, .none, false⟩]], false⟩ :=
    Constraint.parse_eq_ok.2 (by decide +kernel)
  refine ⟨Semantic.parse_eq_ok.2 ⟨_, hone, rfl⟩, by decide +kernel, ⟨_, hpatch, fun w => ?_⟩,
    Semantic.parse_eq_ok.2 ⟨_, hx, rfl⟩, by decide +kernel, ⟨_, hminor, fun w => ?_⟩⟩
  · rw [Constraint.accepts_single]
    have hkeeps : ¬ ClauseOp.patchUplift.KeepsGiven ⟨1, -1, -1⟩ := fun h => h.2 rfl
    exact Clause.not_accepts hkeeps w
  · rw [Constraint.accepts_single]
    have hkeeps : ¬ ClauseOp.minorUplift.KeepsGiven ⟨-1, -1, -1⟩ := fun h => h rfl
    exact Clause.not_accepts hkeeps w

end Sift.Version
