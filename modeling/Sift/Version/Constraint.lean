import Sift.Version.Basic

/-! Constraints on versions.

A constraint is a list of alternatives with `||` between them, each a group of
clauses that all have to hold. A constraint without clauses accepts every stable
version. Prereleases are accepted by clauses that name one themselves, or
everywhere if the constraint starts with a flag that includes them. -/
namespace Sift.Version

open Text

inductive ClauseOp where
  | equal | greater | greaterOrEqual | less | lessOrEqual
  /-- The same major number, and at least the rest. -/
  | minorUplift
  /-- The same major and minor number, and at least the patch. -/
  | patchUplift
  deriving DecidableEq, Repr

def ClauseOp.symbol : ClauseOp → String
  | .equal => "="
  | .greater => ">"
  | .greaterOrEqual => ">="
  | .less => "<"
  | .lessOrEqual => "<="
  | .minorUplift => "^"
  | .patchUplift => "~"

structure Clause where
  op : ClauseOp
  core : Core
  prerelease : Prerelease
  includePrerelease : Bool
  deriving DecidableEq, Repr

namespace Clause

def segmentMatches (expected actual : Int) : Bool :=
  expected == wildcardSegment || expected == actual

/-- The numbers agree, where a wildcard agrees with any number. -/
def coreMatches (c : Clause) (core : Core) : Bool :=
  segmentMatches c.core.major core.major && segmentMatches c.core.minor core.minor &&
    segmentMatches c.core.patch core.patch

def equals (c : Clause) (core : Core) (p : Prerelease) : Bool :=
  c.coreMatches core && c.prerelease.order p == .eq

/-- A prerelease that is not included is compared within its own version only. -/
def isGreater (c : Clause) (core : Core) (p : Prerelease) : Bool :=
  let later := c.coreMatches core && c.prerelease.order p == .lt
  if !p.isStable && !c.includePrerelease then later
  else core.order c.core == .gt || later

def isLess (c : Clause) (core : Core) (p : Prerelease) : Bool :=
  let earlier := c.coreMatches core && c.prerelease.order p == .gt
  if !p.isStable && !c.includePrerelease then earlier
  else core.order c.core == .lt || earlier

def accepts (c : Clause) (core : Core) (p : Prerelease) : Bool :=
  let hidden := !c.includePrerelease && c.prerelease.isStable && !p.isStable
  match c.op with
  | .equal => c.equals core p
  | .minorUplift =>
    !hidden && core.major == c.core.major &&
      !(core.minor < c.core.minor || (core.minor == c.core.minor && core.patch < c.core.patch))
  | .patchUplift =>
    !hidden && core.major == c.core.major && core.minor == c.core.minor &&
      c.core.patch ≤ core.patch
  | .greater => !hidden && c.isGreater core p
  | .greaterOrEqual => !hidden && (c.isGreater core p || c.equals core p)
  | .less => !hidden && c.isLess core p
  | .lessOrEqual => !hidden && (c.isLess core p || c.equals core p)

def display (g : Grammar) (c : Clause) : String :=
  c.op.symbol ++ writeCore g c.core ++ writePrerelease c.prerelease

end Clause

structure Constraint where
  grammar : Grammar
  groups : List (List Clause)
  includePrerelease : Bool
  deriving DecidableEq, Repr

/-! ### Reading -/

/-- The comparison signs met so far in front of a clause. -/
structure Signs where
  equal : Bool
  greater : Bool
  less : Bool
  uplift : Option ClauseOp

/-- Reads all signs in front of a clause, in any order and number. -/
def readSigns (g : Grammar) (s : Signs) : List Char → Signs × List Char
  | [] => (s, [])
  | c :: rest =>
    match c with
    | '=' => readSigns g { s with equal := true } rest
    | '>' => readSigns g { s with greater := true } rest
    | '<' => readSigns g { s with less := true } rest
    | '^' =>
      if g = .semantic then readSigns g { s with uplift := some .minorUplift } rest
      else (s, c :: rest)
    | '~' =>
      if g = .semantic then readSigns g { s with uplift := some .patchUplift } rest
      else (s, c :: rest)
    | c => (s, c :: rest)

/-- The operator that the signs are together. -/
def Signs.op? (s : Signs) : Option ClauseOp :=
  match s.uplift with
  | some uplift => if s.equal || s.greater || s.less then none else some uplift
  | none =>
    match s.equal, s.greater, s.less with
    | _, false, false => some .equal
    | false, true, false => some .greater
    | true, true, false => some .greaterOrEqual
    | false, false, true => some .less
    | true, false, true => some .lessOrEqual
    | _, true, true => none

def readOperator (g : Grammar) (cs : List Char) : Option (ClauseOp × List Char) :=
  let (signs, rest) := readSigns g ⟨false, false, false, none⟩ cs
  signs.op?.map (·, rest)

/-- What stands between two clauses. -/
inductive Join where
  | and | or
  deriving DecidableEq, Repr

/-- Blanks and up to two bars; the end of the text ends a group as well. -/
def readJoin (cs : List Char) : Option (Join × List Char) :=
  let isJoin := fun c : Char => c == ' ' || c == '|'
  let between := cs.takeWhile isJoin
  let bars := between.count '|'
  match cs.dropWhile isJoin with
  | [] => some (.or, [])
  | rest =>
    if between.isEmpty || 2 < bars then none
    else some (if bars = 0 then .and else .or, rest)

theorem readSigns_length (g : Grammar) (s : Signs) (cs : List Char) :
    (readSigns g s cs).2.length ≤ cs.length := by
  induction cs generalizing s with
  | nil => simp [readSigns]
  | cons c rest ih =>
    unfold readSigns
    split <;> (try split) <;> simp only [List.length_cons, Nat.le_refl]
    all_goals exact Nat.le_succ_of_le (ih _)

theorem readSegments_length {g : Grammar} {segments found : List Int} {cs rest : List Char}
    (h : readSegments g segments cs = some (found, rest)) :
    rest.length ≤ cs.length ∧ (found = segments ∨ rest.length < cs.length) := by
  fun_induction readSegments g segments cs with
  | case1 => simp_all
  | case2 => simp at h
  | case3 => simp at h
  | case4 segments c more hd n hn hs after hg =>
    simp only [Option.some.injEq, Prod.mk.injEq] at h
    have := dropDigits_length more hd
    rw [← h.2]
    exact ⟨Nat.le_of_lt this, Or.inr this⟩
  | case5 segments c more hd n hn hs after hg ih =>
    have hl : after.length < (c :: more).length := dropDigits_length more hd
    have := (ih h).1
    exact ⟨by omega, Or.inr (by omega)⟩
  | case6 segments more hd ih =>
    have := ih h
    simp only [List.length_cons]
    exact ⟨by omega, this.2.imp_right (by omega)⟩
  | case7 => simp at h
  | case8 segments c more hd hc hw hs ih =>
    have := ih h
    simp only [List.length_cons]
    exact ⟨by omega, Or.inr (by omega)⟩
  | case9 =>
    simp only [Option.some.injEq, Prod.mk.injEq] at h
    rw [← h.2, ← h.1]
    exact ⟨Nat.le_refl _, Or.inl rfl⟩
  | case10 => simp at h

theorem readCore_length {g : Grammar} {core : Core} {cs rest : List Char}
    (h : readCore g cs = some (core, rest)) : rest.length < cs.length := by
  unfold readCore at h
  simp only [Option.bind_eq_bind, Option.bind_eq_some_iff] at h
  obtain ⟨⟨segments, after⟩, hs, h⟩ := h
  have hl := readSegments_length hs
  simp only at h
  split at h
  · simp at h
  · rename_i hne
    simp only [Option.some.injEq, Prod.mk.injEq] at h
    rw [← h.2]
    have hlt := hl.2.resolve_left (by rintro rfl; simp at hne)
    refine Nat.lt_of_lt_of_le hlt ?_
    split <;> simp

theorem readPrerelease_length {p : Prerelease} {cs rest : List Char}
    (h : readPrerelease cs = some (p, rest)) : rest.length ≤ cs.length := by
  unfold readPrerelease at h
  split at h
  · have := (List.dropWhile_suffix (p := isIdentifierChar) (l := ‹List Char›)).length_le
    simp only at h
    split at h
    · simp at h
    · split at h
      · simp at h
      · simp only [Option.some.injEq, Prod.mk.injEq] at h
        rw [← h.2, List.length_cons]
        omega
  · simp only [Option.some.injEq, Prod.mk.injEq] at h
    exact h.2 ▸ Nat.le_refl _

theorem readBuild_length (g : Grammar) (cs : List Char) :
    (readBuild g cs).2.length ≤ cs.length := by
  unfold readBuild
  split
  · have := (List.dropWhile_suffix (p := isIdentifierChar) (l := ‹List Char›)).length_le
    split
    · simp only [List.length_cons]
      omega
    · exact Nat.le_refl _
  · exact Nat.le_refl _

theorem readParts_length {g : Grammar} {parts : Parts} {cs rest : List Char}
    (h : readParts g cs = some (parts, rest)) : rest.length < cs.length := by
  unfold readParts at h
  simp only [Option.bind_eq_bind, Option.bind_eq_some_iff] at h
  obtain ⟨⟨core, r1⟩, h1, ⟨p, r2⟩, h2, h⟩ := h
  have l1 := readCore_length h1
  have l2 := readPrerelease_length h2
  have l3 := readBuild_length g r2
  simp only [Option.some.injEq, Prod.mk.injEq] at h l1 l2
  rw [← h.2]
  omega

theorem readOperator_length {g : Grammar} {op : ClauseOp} {cs rest : List Char}
    (h : readOperator g cs = some (op, rest)) : rest.length ≤ cs.length := by
  unfold readOperator at h
  simp only [Option.map_eq_some_iff, Prod.mk.injEq] at h
  obtain ⟨_, _, _, hr⟩ := h
  rw [← hr]
  exact readSigns_length _ _ _

theorem readJoin_length {j : Join} {cs rest : List Char} (h : readJoin cs = some (j, rest)) :
    rest.length ≤ cs.length := by
  unfold readJoin at h
  have := (List.dropWhile_suffix (p := fun c : Char => c == ' ' || c == '|') (l := cs)).length_le
  simp only at h
  split at h
  · simp only [Option.some.injEq, Prod.mk.injEq] at h
    rw [← h.2]
    exact Nat.zero_le _
  · split at h
    · simp at h
    · simp only [Option.some.injEq, Prod.mk.injEq] at h
      rw [← h.2]
      exact this

/-- One clause and what stands behind it. -/
def readClause (g : Grammar) (includePrerelease : Bool) (cs : List Char) :
    Option (Clause × Join × List Char) := do
  let (op, cs) ← readOperator g cs
  let (parts, cs) ← readParts g cs
  let (join, cs) ← readJoin cs
  some (⟨op, parts.core, parts.prerelease, includePrerelease⟩, join, cs)

theorem readClause_length {g : Grammar} {i : Bool} {c : Clause} {j : Join} {cs rest : List Char}
    (h : readClause g i cs = some (c, j, rest)) : rest.length < cs.length := by
  unfold readClause at h
  simp only [Option.bind_eq_bind, Option.bind_eq_some_iff] at h
  obtain ⟨⟨op, r1⟩, h1, ⟨p, r2⟩, h2, ⟨join, r3⟩, h3, h⟩ := h
  have l1 := readOperator_length h1
  have l2 := readParts_length h2
  have l3 := readJoin_length h3
  simp only [Option.some.injEq, Prod.mk.injEq] at h l1 l2 l3
  rw [← h.2.2]
  omega

/-- The groups of a constraint, the first of which goes on with `group`. -/
def readGroups (g : Grammar) (includePrerelease : Bool) (group : List Clause) (cs : List Char) :
    Option (List (List Clause)) :=
  if cs.isEmpty then some (if group.isEmpty then [] else [group])
  else
    match _h : readClause g includePrerelease cs with
    | none => none
    | some (clause, .and, rest) => readGroups g includePrerelease (group ++ [clause]) rest
    | some (clause, .or, rest) =>
      (readGroups g includePrerelease [] rest).map ((group ++ [clause]) :: ·)
termination_by cs.length
decreasing_by
  · exact readClause_length _h
  · exact readClause_length _h

/-- The flags that include prereleases, with the blank behind them. -/
def prereleaseFlags : List (List Char) := ["@prerelease ".toList, "@pre ".toList]

namespace Constraint

def parse (g : Grammar) (text : String) (includePrerelease : Bool) :
    Except VersionError Constraint :=
  let cs := strip text.toList
  let flag := prereleaseFlags.find? fun f => f.isPrefixOf cs
  let body := cs.drop ((flag.map List.length).getD 0)
  let included := includePrerelease || flag.isSome
  match readGroups g included [] (body.dropWhile (· == ' ')) with
  | some groups => .ok ⟨g, groups, included⟩
  | none => .error (.invalidConstraint text)

def accepts (c : Constraint) (core : Core) (p : Prerelease) : Bool :=
  if c.groups.isEmpty then p.isStable || c.includePrerelease
  else c.groups.any fun group => group.all fun clause => clause.accepts core p

def display (c : Constraint) : String :=
  " || ".intercalate (c.groups.map fun group =>
    " ".intercalate (group.map (Clause.display c.grammar)))

end Constraint

end Sift.Version
