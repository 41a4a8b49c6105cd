import Sift.Proofs.Version.Bounds

/-! Uplifts and the version they start from.

An uplift keeps the first numbers of its version and lets the others grow, so no version that it
accepts has lower numbers (`Clause.core_not_lt`). It does not look at prereleases beyond the
question whether they are let in at all. So it accepts versions below its own in one way only:
where prereleases are let in, all those of its own three numbers are accepted, the ones that come
before its own version among them (`uplift_bounds_numbers`). `uplift_below_bound` has such versions. -/
namespace Sift.Version

open Text

/-- The operators that keep some numbers and let the others grow, with their signs. -/
def upliftSigns : List (String × ClauseOp) := [("^", .minorUplift), ("~", .patchUplift)]

/-- All three numbers stand in the text of a version. -/
def IsFull (text : String) : Prop :=
  ∃ parts, readVersion .semantic text = some parts ∧ parts.core.IsExact

/-! ### Numbers -/

theorem Core.order_eq_lt (a b : Core) : a.order b = .lt ↔
    a.major < b.major ∨ a.major = b.major ∧
      (a.minor < b.minor ∨ a.minor = b.minor ∧ a.patch < b.patch) := by
  simp [order, Ordering.then_eq_lt, Int.compare_eq_lt]

namespace Clause

variable {c : Clause} {core : Core} {p : Prerelease}

theorem core_not_lt (hop : c.op.IsUplift) (h : c.asks core p = true) :
    core.order c.core ≠ .lt := by
  rw [ne_eq, Core.order_eq_lt]
  rcases hop with hop | hop
  · simp only [asks, hop, Bool.and_eq_true, beq_iff_eq, Bool.not_eq_true', Bool.or_eq_false_iff,
      Bool.and_eq_false_iff, decide_eq_false_iff_not, beq_eq_false_iff_ne] at h
    omega
  · simp only [asks, hop, Bool.and_eq_true, beq_iff_eq, decide_eq_true_eq] at h
    omega

/-- Any prerelease of its own numbers is what an uplift asks for. -/
theorem asks_own_core (hop : c.op.IsUplift) (p : Prerelease) : c.asks c.core p = true := by
  rcases hop with hop | hop <;> simp [asks, hop]

theorem hides_eq_false : c.hides p = false ↔
    p.isStable = true ∨ c.includePrerelease = true ∨ c.prerelease.isStable = false := by
  rw [hides]
  cases c.includePrerelease <;> cases c.prerelease.isStable <;> cases p.isStable <;> decide

theorem accepts_uplift (hop : c.op.IsUplift) :
    c.accepts core p = true ↔ c.hides p = false ∧ c.asks core p = true := by
  have hne : c.op ≠ .equal := by rcases hop with hop | hop <;> simp [hop]
  rw [accepts_iff_asks, or_iff_right hne]

end Clause

/-! ### Versions behind the sign of an uplift -/

theorem dropEndWhile_cons {p : Char → Bool} {s : Char} (hs : p s = false) (cs : List Char) :
    dropEndWhile p (s :: cs) = s :: dropEndWhile p cs := by
  rw [dropEndWhile, dropEndWhile, List.reverse_cons, List.dropWhile_append]
  split
  · rename_i hnil
    simp [List.isEmpty_iff.1 hnil, hs]
  · simp

/-- Only the blanks at the end are stripped behind a sign. -/
theorem strip_cons {s : Char} (hs : isBlank s = false) (cs : List Char) :
    strip (s :: cs) = s :: dropEndWhile isBlank cs := by
  rw [strip, stripWhile, List.dropWhile_cons, hs, if_neg Bool.false_ne_true,
    dropEndWhile_cons hs]

theorem head_dropEndWhile {p : Char → Bool} {cs : List Char} :
    ∀ c ∈ (dropEndWhile p cs).head?, c ∈ cs.head? := by
  have hprefix : dropEndWhile p cs <+: cs := by
    have hback := List.reverse_prefix.2 (cs.reverse.dropWhile_suffix p)
    rwa [List.reverse_reverse] at hback
  intro c hc
  obtain ⟨behind, hcs⟩ := hprefix
  rw [← hcs, List.head?_append, Option.mem_def.1 hc]
  rfl

/-- No version starts with white space. -/
theorem readParts_blank (g : Grammar) {cs : List Char} (h : ∀ c ∈ cs.head?, isBlank c = true) :
    readParts g cs = none := by
  cases cs with
  | nil => simp [readParts, readCore, readSegments]
  | cons c cs =>
    have hblank := h c rfl
    have hid : isIdentifierChar c = false := by
      by_contra hid
      rw [isBlank_of_isIdentifierChar (Bool.not_eq_false _ ▸ hid)] at hblank
      cases hblank
    have hne (d : Char) (hd : isBlank d = false) : c ≠ d := by
      rintro rfl
      rw [hd] at hblank
      cases hblank
    have hdigit : ¬ c.isDigit = true := by
      intro hdigit
      simp [isIdentifierChar, Char.isAlphanum, hdigit] at hid
    have hseparator : c ≠ g.separator := by
      rintro rfl
      rw [isIdentifierChar_separator] at hid
      cases hid
    have hwild : ¬ isWildcard c = true := by
      simp [isWildcard, hne '*' (by decide), hne 'x' (by decide), hne 'X' (by decide)]
    have hcore : readCore g (c :: cs) = none := by
      rw [readCore_eq (by rintro _ ⟨⟩; exact ⟨hne 'v' (by decide), hne 'V' (by decide)⟩),
        readSegments, dif_neg hdigit, if_neg hseparator, if_neg hwild]
      split <;> rfl
    rw [readParts, hcore]
    rfl

section

variable {sign : String} {op : ClauseOp}

theorem isUplift_of_mem (h : (sign, op) ∈ upliftSigns) : op.IsUplift := by
  simp only [upliftSigns, List.mem_cons, List.not_mem_nil, or_false, Prod.mk.injEq] at h
  exact h.imp And.right And.right

theorem mem_inclusive (h : (sign, op) ∈ upliftSigns) : (sign, op) ∈ inclusiveSigns := by
  have hsigns : ∀ entry ∈ upliftSigns, entry ∈ inclusiveSigns := by decide
  exact hsigns _ h

theorem uplift_sign (h : (sign, op) ∈ upliftSigns) : ∃ s ∈ operatorSigns, sign.toList = [s] := by
  simp only [upliftSigns, List.mem_cons, List.not_mem_nil, or_false, Prod.mk.injEq] at h
  rcases h with ⟨rfl, -⟩ | ⟨rfl, -⟩
  · exact ⟨'^', by decide, rfl⟩
  · exact ⟨'~', by decide, rfl⟩

/-- Blanks around it do not count in the text of a constraint. -/
theorem Constraint.parse_strip {g : Grammar} {text text' : String}
    (h : strip text.toList = strip text'.toList) (included : Bool) (c : Constraint) :
    parse g text included = .ok c ↔ parse g text' included = .ok c := by
  simp only [parse_eq_ok, h]

/-- White space between the sign and the version is not allowed. -/
theorem not_parse_blank (h : (sign, op) ∈ upliftSigns) {text : String}
    (hblank : ∀ c ∈ text.toList.head?, isBlank c = true) (included : Bool) (c : Constraint) :
    Constraint.parse .semantic (sign ++ text) included ≠ .ok c := by
  obtain ⟨s, hs, hsign⟩ := uplift_sign h
  obtain ⟨hsblank, hspace, -, hat⟩ := operatorSigns_plain s hs
  let rest := dropEndWhile isBlank text.toList
  have hrest : ∀ c ∈ rest.head?, isBlank c = true := fun c hc => hblank c (head_dropEndWhile c hc)
  have hstrip : strip (sign ++ text).toList = s :: rest := by
    rw [String.toList_append, hsign, List.singleton_append, strip_cons hsblank]
  have hflag : ¬ HasFlag (sign ++ text) := by
    apply Constraint.not_hasFlag
    rw [hstrip]
    rintro c hc rfl
    cases hc
    cases hat
  have hsigns : ∀ c ∈ rest.head?, c ∉ operatorSigns := by
    intro c hc hmem
    have hplain := (operatorSigns_plain c hmem).1
    rw [hrest c hc] at hplain
    cases hplain
  have hoperator : readOperator .semantic (s :: rest) = some (op, rest) := by
    have hread := readOperator_inclusive (mem_inclusive h) hsigns
    rwa [hsign] at hread
  have hclause : readClause .semantic included (s :: rest) = none := by
    simp only [readClause, hoperator, readParts_blank .semantic hrest, Option.bind_eq_bind,
      Option.bind_some, Option.bind_none]
  have hdrop : (s :: rest).dropWhile (· == ' ') = s :: rest := by
    rw [List.dropWhile_cons, hspace, if_neg Bool.false_ne_true]
  rw [ne_eq, Constraint.parse_of_not_hasFlag hflag, hstrip, hdrop,
    readGroups_eq (List.cons_ne_nil s rest), hclause]
  simp

/-- What stands behind the sign is one clause, with the version as it was read. -/
theorem parse_uplift (h : (sign, op) ∈ upliftSigns) {text : String} {parts : Parts}
    (hread : readVersion .semantic text = some parts) {included : Bool} {c : Constraint}
    (hc : Constraint.parse .semantic (sign ++ text) included = .ok c) :
    c = ⟨.semantic, [[⟨op, parts.core, parts.prerelease, included⟩]], included⟩ := by
  by_cases hblank : ∀ c ∈ text.toList.head?, isBlank c = true
  · exact absurd hc (not_parse_blank h hblank included c)
  · obtain ⟨s, hs, hsign⟩ := uplift_sign h
    have hsblank := (operatorSigns_plain s hs).1
    have hhead : ∀ c ∈ text.toList.head?, isBlank c = false := by
      intro c hc
      by_contra hcblank
      apply hblank
      intro d hd
      rw [Option.mem_def.1 hc] at hd
      cases hd
      exact (Bool.not_eq_false _).mp hcblank
    have htext : dropEndWhile isBlank text.toList = strip text.toList := by
      rw [strip, stripWhile, dropWhile_eq_self hhead]
    have hchars : (trim text).toList = strip text.toList := by rw [trim, String.toList_ofList]
    have hinner : dropEndWhile isBlank (strip text.toList) = strip text.toList := by
      have hstart : (strip text.toList).dropWhile isBlank = strip text.toList :=
        dropWhile_eq_self (head_stripWhile isBlank text.toList)
      have hstrip := strip_strip text.toList
      rwa [strip, stripWhile, hstart] at hstrip
    have hsame : strip (sign ++ text).toList = strip (sign ++ trim text).toList := by
      rw [String.toList_append, String.toList_append, hsign, List.singleton_append,
        List.singleton_append, strip_cons hsblank, strip_cons hsblank, htext, hchars, hinner]
    have hparts : readParts .semantic (trim text).toList = some (parts, []) := by
      rw [hchars]
      exact readVersion_eq_some.1 hread
    have hsigned := parse_signed (mem_inclusive h) hparts (by rw [hchars, strip_strip]) included
    rw [Constraint.parse_strip hsame, hsigned] at hc
    cases hc
    rfl

end

/-! ### Versions below the bound -/

/-- A stable version comes before none that has the same numbers. -/
theorem order_stable_ne_lt {p : Prerelease} (hp : p.isStable = true) (q : Prerelease) :
    p.order q ≠ .lt := by
  rw [Prerelease.order_of_isStable hp]
  split <;> simp

/-- **An uplift accepts no version with lower numbers than its own.** Let the text of a version
that gives all three numbers stand behind the sign of an uplift. An accepted version comes before
that version only if it has the same three numbers and an earlier prerelease, so a stable one never
does. Of the versions with the same numbers, all are accepted that are let in at all: the stable
ones, and the prereleases where they are included or where the text names one itself. -/
theorem uplift_bounds_numbers (text : String) (bound : Semantic)
    (h : Semantic.parse text = .ok bound) (hfull : IsFull text) (sign : String) (op : ClauseOp)
    (hsign : (sign, op) ∈ upliftSigns) (included : Bool) (c : Constraint)
    (hc : Constraint.parse .semantic (sign ++ text) included = .ok c) (v : Semantic) :
    (c.accepts v.core v.prerelease = true →
      (v.order bound = .lt ↔
        v.core = bound.core ∧ v.prerelease.order bound.prerelease = .lt)) ∧
    (c.accepts v.core v.prerelease = true → v.isStable = true → v.order bound ≠ .lt) ∧
    (v.core = bound.core → (c.accepts v.core v.prerelease = true ↔
      v.isStable = true ∨ included = true ∨ bound.isStable = false)) := by
  obtain ⟨parts, hread, hexact⟩ := hfull
  obtain ⟨_, hread', rfl⟩ := Semantic.parse_eq_ok.1 h
  obtain rfl : parts = _ := Option.some.inj (hread.symm.trans hread')
  obtain rfl := parse_uplift hsign hread hc
  let clause : Clause := ⟨op, parts.core, parts.prerelease, included⟩
  have hop : clause.op.IsUplift := isUplift_of_mem hsign
  have hcore : parts.semantic.core = clause.core :=
    Clause.core_semantic (c := clause) (readParts_isRead (readVersion_eq_some.1 hread)) hexact
  have hbelow : clause.accepts v.core v.prerelease = true →
      (v.order parts.semantic = .lt ↔
        v.core = parts.semantic.core ∧ v.prerelease.order parts.prerelease = .lt) := by
    intro haccepts
    have hnot : v.core.order clause.core ≠ .lt :=
      Clause.core_not_lt hop ((Clause.accepts_uplift hop).1 haccepts).2
    rw [Semantic.order, hcore, Ordering.then_eq_lt, or_iff_right hnot, Core.order_eq_iff]
    rfl
  rw [Constraint.accepts_single]
  refine ⟨hbelow, fun haccepts hstable hlt => ?_, fun hsame => ?_⟩
  · exact order_stable_ne_lt hstable _ ((hbelow haccepts).1 hlt).2
  · rw [hsame, hcore]
    show clause.accepts clause.core v.prerelease = true ↔ _
    rw [Clause.accepts_uplift hop, and_iff_left (Clause.asks_own_core hop _),
      Clause.hides_eq_false]
    rfl

/-- A prerelease of a later patch behind the sign of an uplift of the patch, and blanks at the end. -/
theorem uplift_bounds_numbers_later :
    let bound : Semantic := ⟨1, 2, 3, ⟨"beta"⟩, "b7"⟩
    let c : Constraint := ⟨.semantic, [[⟨.patchUplift, ⟨1, 2, 3⟩, ⟨"beta"⟩, false⟩]], false⟩
    let v : Semantic := ⟨1, 2, 4, ⟨"alpha"⟩, ""⟩
    Semantic.parse "v1.2.3-beta+b7 " = .ok bound ∧ IsFull "v1.2.3-beta+b7 " ∧
      ("~", ClauseOp.patchUplift) ∈ upliftSigns ∧
      Constraint.parse .semantic ("~" ++ "v1.2.3-beta+b7 ") false = .ok c ∧
      c.accepts v.core v.prerelease = true ∧
      (v.order bound = .lt ↔ v.core = bound.core ∧ v.prerelease.order bound.prerelease = .lt) := by
  intro bound c v
  have hread : readVersion .semantic "v1.2.3-beta+b7 " = some ⟨⟨1, 2, 3⟩, ⟨"beta"⟩, "b7"⟩ := by
    decide +kernel
  have hbound : Semantic.parse "v1.2.3-beta+b7 " = .ok bound :=
    Semantic.parse_eq_ok.2 ⟨_, hread, rfl⟩
  have hfull : IsFull "v1.2.3-beta+b7 " := ⟨_, hread, by decide⟩
  have hsign : ("~", ClauseOp.patchUplift) ∈ upliftSigns := by decide
  have hc : Constraint.parse .semantic ("~" ++ "v1.2.3-beta+b7 ") false = .ok c :=
    Constraint.parse_eq_ok.2 (by decide +kernel)
  have haccepts : c.accepts v.core v.prerelease = true := by decide +kernel
  exact ⟨hbound, hfull, hsign, hc, haccepts,
    (uplift_bounds_numbers _ bound hbound hfull "~" _ hsign false c hc v).1 haccepts⟩

/-- Uplifts of a prerelease accept an earlier one of the same numbers, and where prereleases are
included, uplifts of a stable version accept its own prereleases. -/
theorem uplift_below_bound :
    let bound : Semantic := ⟨1, 2, 3, ⟨"beta"⟩, ""⟩
    let stable : Semantic := ⟨1, 2, 3, .none, ""⟩
    let v : Semantic := ⟨1, 2, 3, ⟨"alpha"⟩, ""⟩
    Semantic.parse "1.2.3-beta" = .ok bound ∧ IsFull "1.2.3-beta" ∧
      Semantic.parse "1.2.3" = .ok stable ∧ IsFull "1.2.3" ∧
      Semantic.parse "1.2.3-alpha" = .ok v ∧ v.order bound = .lt ∧ v.order stable = .lt ∧
      (∃ c, Constraint.parse .semantic "^1.2.3-beta" false = .ok c ∧
        c.accepts v.core v.prerelease = true) ∧
      (∃ c, Constraint.parse .semantic "~1.2.3-beta" false = .ok c ∧
        c.accepts v.core v.prerelease = true) ∧
      ∃ c, Constraint.parse .semantic "^1.2.3" true = .ok c ∧
        c.accepts v.core v.prerelease = true := by
  intro bound stable v
  have hbound : readVersion .semantic "1.2.3-beta" = some ⟨⟨1, 2, 3⟩, ⟨"beta"⟩, ""⟩ := by
    decide +kernel
  have hstable : readVersion .semantic "1.2.3" = some ⟨⟨1, 2, 3⟩, .none, ""⟩ := by decide +kernel
  have hv : readVersion .semantic "1.2.3-alpha" = some ⟨⟨1, 2, 3⟩, ⟨"alpha"⟩, ""⟩ := by
    decide +kernel
  have hminor : Constraint.parse .semantic "^1.2.3-beta" false =
      .ok ⟨.semantic, [[⟨.minorUplift, ⟨1, 2, 3⟩, ⟨"beta"⟩, false⟩]], false⟩ :=
    Constraint.parse_eq_ok.2 (by decide +kernel)
  have hpatch : Constraint.parse .semantic "~1.2.3-beta" false =
      .ok ⟨.semantic, [[⟨.patchUplift, ⟨1, 2, 3⟩, ⟨"beta"⟩, false⟩]], false⟩ :=
    Constraint.parse_eq_ok.2 (by decide +kernel)
  have hincluded : Constraint.parse .semantic "^1.2.3" true =
      .ok ⟨.semantic, [[⟨.minorUplift, ⟨1, 2, 3⟩, .none, true⟩]], true⟩ :=
    Constraint.parse_eq_ok.2 (by decide +kernel)
  exact ⟨Semantic.parse_eq_ok.2 ⟨_, hbound, rfl⟩, ⟨_, hbound, by decide⟩,
    Semantic.parse_eq_ok.2 ⟨_, hstable, rfl⟩, ⟨_, hstable, by decide⟩,
    Semantic.parse_eq_ok.2 ⟨_, hv, rfl⟩, by decide +kernel, by decide +kernel,
    ⟨_, hminor, by decide +kernel⟩, ⟨_, hpatch, by decide +kernel⟩,
    ⟨_, hincluded, by decide +kernel⟩⟩

end Sift.Version
