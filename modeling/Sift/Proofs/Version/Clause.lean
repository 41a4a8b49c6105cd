import Sift.Version.Constraint

/-! The clauses of a constraint that was read.

Reading puts the same flag on every clause, and a segment of a clause is a number or the
mark of a wildcard, nothing in between: `parse_clauses`. -/
namespace Sift.Version

/-! ### Segments -/

/-- What a segment may be: a number, or the mark of a wildcard. -/
def IsSegment (n : Int) : Prop := 0 ≤ n ∨ n = wildcardSegment

theorem isSegment_wildcard : IsSegment wildcardSegment := .inr rfl

/-- Digits without a sign are no negative number. -/
theorem readInt64?_digits {c : Char} {rest : List Char} {n : Int} (hc : c.isDigit = true)
    (h : Text.readInt64? (c :: rest) = some n) : 0 ≤ n := by
  obtain ⟨h, -⟩ := Option.filter_eq_some_iff.1 h
  unfold Text.readInteger? at h
  split at h
  · rename_i heq
    cases heq
    exact absurd hc (by decide)
  · rename_i heq
    cases heq
    exact absurd hc (by decide)
  · obtain ⟨m, -, rfl⟩ := Option.map_eq_some_iff.1 h
    exact Int.natCast_nonneg m

/-- What holds of the mark of a wildcard and of every number of 64 bits holds of all segments
that are read. -/
theorem readSegments_forall {P : Int → Prop} (hwild : P wildcardSegment)
    (hnumber : ∀ n, 0 ≤ n → Text.fitsInt64 n = true → P n) {g : Grammar} {segments found : List Int}
    {cs rest : List Char} (h : readSegments g segments cs = some (found, rest))
    (hs : ∀ n ∈ segments, P n) : ∀ n ∈ found, P n := by
  have snoc {segments : List Int} {m : Int} (hs : ∀ n ∈ segments, P n) (hm : P m) :
      ∀ n ∈ segments ++ [m], P n := by
    simpa only [List.forall_mem_append, List.forall_mem_singleton] using ⟨hs, hm⟩
  have number {c : Char} {more : List Char} {n : Int} (hd : c.isDigit = true)
      (hn : Text.readInt64? ((c :: more).takeWhile Char.isDigit) = some n) : P n := by
    rw [List.takeWhile_cons_of_pos hd] at hn
    exact hnumber n (readInt64?_digits hd hn) (Option.filter_eq_some_iff.1 hn).2
  fun_induction readSegments g segments cs with
  | case1 =>
    cases h
    exact hs
  | case2 => cases h
  | case3 => cases h
  | case4 segments c more hd n hn =>
    simp only [Option.some.injEq, Prod.mk.injEq] at h
    exact h.1 ▸ snoc hs (number hd hn)
  | case5 segments c more hd n hn _ _ _ ih => exact ih h (snoc hs (number hd hn))
  | case6 segments more hd ih => exact ih h hs
  | case7 => cases h
  | case8 segments c more hd hc hw hlt ih => exact ih h (snoc hs hwild)
  | case9 =>
    cases h
    exact hs
  | case10 => cases h

namespace Core

/-- All three numbers are such as can be read. -/
def IsRead (core : Core) : Prop :=
  IsSegment core.major ∧ IsSegment core.minor ∧ IsSegment core.patch

end Core

theorem coreOf_forall {P : Int → Prop} (hwild : P wildcardSegment) {segments : List Int}
    (h : ∀ n ∈ segments, P n) :
    P (coreOf segments).major ∧ P (coreOf segments).minor ∧ P (coreOf segments).patch := by
  match segments with
  | [] => exact ⟨hwild, hwild, hwild⟩
  | [a] => exact ⟨h a (by simp), hwild, hwild⟩
  | [a, b] => exact ⟨h a (by simp), h b (by simp), hwild⟩
  | a :: b :: c :: _ => exact ⟨h a (by simp), h b (by simp), h c (by simp)⟩

theorem readCore_segments {g : Grammar} {cs rest : List Char} {core : Core}
    (h : readCore g cs = some (core, rest)) :
    ∃ text segments, readSegments g [] text = some (segments, rest) ∧ core = coreOf segments := by
  unfold readCore at h
  obtain ⟨⟨segments, after⟩, hs, h⟩ := Option.bind_eq_some_iff.1 h
  simp only at h
  split at h
  · cases h
  · cases h
    exact ⟨_, segments, hs, rfl⟩

theorem readCore_forall {P : Int → Prop} (hwild : P wildcardSegment)
    (hnumber : ∀ n, 0 ≤ n → Text.fitsInt64 n = true → P n) {g : Grammar} {cs rest : List Char}
    {core : Core} (h : readCore g cs = some (core, rest)) :
    P core.major ∧ P core.minor ∧ P core.patch := by
  obtain ⟨text, segments, hsegments, rfl⟩ := readCore_segments h
  exact coreOf_forall hwild
    (readSegments_forall hwild hnumber hsegments fun _ hn => absurd hn List.not_mem_nil)

theorem readCore_isRead {g : Grammar} {cs rest : List Char} {core : Core}
    (h : readCore g cs = some (core, rest)) : core.IsRead :=
  readCore_forall isSegment_wildcard (fun _ hn _ => .inl hn) h

theorem readParts_isRead {g : Grammar} {cs rest : List Char} {parts : Parts}
    (h : readParts g cs = some (parts, rest)) : parts.core.IsRead := by
  obtain ⟨⟨core, cs⟩, hcore, h⟩ := Option.bind_eq_some_iff.1 h
  obtain ⟨⟨p, cs⟩, -, h⟩ := Option.bind_eq_some_iff.1 h
  cases h
  exact readCore_isRead hcore

/-! ### Clauses -/

/-- A clause as reading makes it. -/
structure Clause.IsRead (included : Bool) (c : Clause) : Prop where
  core : c.core.IsRead
  included : c.includePrerelease = included

theorem readClause_isRead {g : Grammar} {included : Bool} {cs rest : List Char} {c : Clause}
    {j : Join} (h : readClause g included cs = some (c, j, rest)) : c.IsRead included := by
  unfold readClause at h
  obtain ⟨⟨op, cs⟩, -, h⟩ := Option.bind_eq_some_iff.1 h
  obtain ⟨⟨parts, cs⟩, hparts, h⟩ := Option.bind_eq_some_iff.1 h
  obtain ⟨⟨join, cs⟩, -, h⟩ := Option.bind_eq_some_iff.1 h
  cases h
  exact ⟨readParts_isRead hparts, rfl⟩

/-- What holds of each clause that is read holds of all clauses of all groups. -/
theorem readGroups_forall {P : Clause → Prop} {g : Grammar} {included : Bool}
    (hread : ∀ {cs rest c j}, readClause g included cs = some (c, j, rest) → P c)
    {group : List Clause} {cs : List Char} {groups : List (List Clause)}
    (h : readGroups g included group cs = some groups) (hgroup : ∀ c ∈ group, P c) :
    ∀ c ∈ groups.flatten, P c := by
  fun_induction readGroups g included group cs generalizing groups with
  | case1 group cs hempty =>
    cases h
    split
    · simp
    · simpa using hgroup
  | case2 => cases h
  | case3 group cs hempty clause rest hclause ih =>
    apply ih h
    simpa only [List.forall_mem_append, List.forall_mem_singleton] using ⟨hgroup, hread hclause⟩
  | case4 group cs hempty clause rest hclause ih =>
    obtain ⟨more, hmore, rfl⟩ := Option.map_eq_some_iff.1 h
    rw [List.flatten_cons]
    simp only [List.forall_mem_append, List.forall_mem_singleton]
    exact ⟨⟨hgroup, hread hclause⟩, ih hmore fun _ hc => absurd hc List.not_mem_nil⟩

namespace Constraint

variable {g : Grammar} {text : String} {includePrerelease : Bool} {c : Constraint}

/-- A constraint is its groups behind the flag, which includes prereleases as well as the
caller may. -/
theorem parse_eq_ok : parse g text includePrerelease = .ok c ↔
    let cs := Text.strip text.toList
    let flag := prereleaseFlags.find? fun f => f.isPrefixOf cs
    let included := includePrerelease || flag.isSome
    let body := cs.drop ((flag.map List.length).getD 0)
    (readGroups g included [] (body.dropWhile (· == ' '))).map
      (fun groups => ⟨g, groups, included⟩) = some c := by
  unfold parse
  simp only
  split
  · rename_i hgroups
    simp only [hgroups, Option.map_some, Except.ok.injEq, Option.some.injEq]
  · rename_i hgroups
    simp only [hgroups, Option.map_none, reduceCtorEq]

theorem parse_clauses (h : parse g text includePrerelease = .ok c) :
    ∀ clause ∈ c.groups.flatten, clause.IsRead c.includePrerelease := by
  obtain ⟨groups, hgroups, rfl⟩ := Option.map_eq_some_iff.1 (parse_eq_ok.1 h)
  exact readGroups_forall readClause_isRead hgroups fun _ hc => absurd hc List.not_mem_nil

end Constraint

end Sift.Version
