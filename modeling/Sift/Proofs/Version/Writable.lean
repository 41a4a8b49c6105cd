import Mathlib.Data.List.Basic
import Mathlib.Data.List.TakeWhile
import Sift.Proofs.Version.Clause

/-! Clauses that can be read again from what they are written as.

Much of what a text may say is not in the clause that is read from it: blanks, a `v`, a build,
segments after the third. What is left over is narrow enough to be written (`IsWritable`):
numbers are of 64 bits, and prereleases have characters of identifiers only. One thing depends
on the grammar. In a calendar version the separator is a hyphen as well, so a hyphen starts a
prerelease only behind a third number; and a prerelease stands only there, since it was read
there. `Constraint.parse_writable` says so of all clauses of a constraint. -/
namespace Sift.Version

open Text

/-- A segment that its text gives back: a number of 64 bits, or a wildcard. -/
def IsWritable (n : Int) : Prop := (0 ≤ n ∧ fitsInt64 n = true) ∨ n = wildcardSegment

structure Core.IsWritable (core : Core) : Prop where
  major : Version.IsWritable core.major
  minor : Version.IsWritable core.minor
  patch : Version.IsWritable core.patch

/-- Operators that only semantic versions have. -/
def ClauseOp.IsUplift (op : ClauseOp) : Prop := op = .minorUplift ∨ op = .patchUplift

/-- What is read of a version: its parts, with a build only where the grammar has one. -/
structure Parts.IsWritable (g : Grammar) (parts : Parts) : Prop where
  core : parts.core.IsWritable
  prerelease : ∀ ch ∈ parts.prerelease.text.toList, isIdentifierChar ch = true
  /-- The hyphen of a prerelease is not taken for one between numbers. -/
  dated : parts.prerelease.isStable = false → g = .date → parts.core.patch ≠ wildcardSegment
  build : ∀ ch ∈ parts.build.toList, isIdentifierChar ch = true
  built : g = .date → parts.build = ""

structure Clause.IsWritable (g : Grammar) (c : Clause) : Prop where
  op : c.op.IsUplift → g = .semantic
  core : c.core.IsWritable
  prerelease : ∀ ch ∈ c.prerelease.text.toList, isIdentifierChar ch = true
  /-- The hyphen of a prerelease is not taken for one between numbers. -/
  dated : c.prerelease.isStable = false → g = .date → c.core.patch ≠ wildcardSegment

/-! ### Numbers -/

theorem readCore_writable {g : Grammar} {cs rest : List Char} {core : Core}
    (h : readCore g cs = some (core, rest)) : core.IsWritable := by
  have hwild : IsWritable wildcardSegment := .inr rfl
  obtain ⟨hmajor, hminor, hpatch⟩ := readCore_forall hwild (fun _ hn hfits => .inl ⟨hn, hfits⟩) h
  exact ⟨hmajor, hminor, hpatch⟩

/-- A calendar version is left for a hyphen only behind its third segment, a number. -/
theorem readSegments_hyphen {segments found : List Int} {cs rest : List Char}
    (h : readSegments .date segments cs = some (found, '-' :: rest)) :
    ∃ a b n, 0 ≤ n ∧ found = [a, b, n] := by
  fun_induction readSegments .date segments cs with
  | case1 => cases h
  | case2 => cases h
  | case3 => cases h
  | case4 segments c more hd n hn hle after hg =>
    simp only [Option.some.injEq, Prod.mk.injEq] at h
    rw [List.takeWhile_cons_of_pos hd] at hn
    have hlength : segments.length + 1 = 3 := hg.2
    obtain ⟨a, b, rfl⟩ := List.length_eq_two.1 (Nat.succ.inj hlength)
    exact ⟨a, b, n, readInt64?_digits hd hn, h.1.symm⟩
  | case5 segments c more hd n hn _ _ _ ih => exact ih h
  | case6 segments more hd ih => exact ih h
  | case7 => cases h
  | case8 segments c more hd hc hw hlt ih => exact ih h
  | case9 segments c more hd hc =>
    cases h
    exact absurd rfl hc
  | case10 => cases h

theorem readCore_hyphen {cs rest : List Char} {core : Core}
    (h : readCore .date cs = some (core, '-' :: rest)) : core.patch ≠ wildcardSegment := by
  obtain ⟨text, segments, hsegments, rfl⟩ := readCore_segments h
  obtain ⟨a, b, n, hn, rfl⟩ := readSegments_hyphen hsegments
  show n ≠ wildcardSegment
  unfold wildcardSegment
  omega

/-! ### Prereleases and operators -/

/-- A prerelease is a run of identifier characters behind a hyphen, or there is none. -/
theorem readPrerelease_chars {p : Prerelease} {cs rest : List Char}
    (h : readPrerelease cs = some (p, rest)) :
    (p = .none ∨ cs.head? = some '-') ∧ ∀ c ∈ p.text.toList, isIdentifierChar c = true := by
  unfold readPrerelease at h
  split at h
  · simp only at h
    split at h
    · cases h
    · split at h
      · cases h
      · cases h
        refine ⟨.inr rfl, fun c hc => ?_⟩
        rw [String.toList_ofList] at hc
        exact List.mem_takeWhile_imp hc
  · cases h
    exact ⟨.inl rfl, fun c hc => absurd hc List.not_mem_nil⟩

theorem readSigns_date (s : Signs) (cs : List Char) :
    (readSigns .date s cs).1.uplift = s.uplift := by
  fun_induction readSigns .date s cs <;> simp_all

theorem readOperator_uplift {g : Grammar} {op : ClauseOp} {cs rest : List Char}
    (h : readOperator g cs = some (op, rest)) (hop : op.IsUplift) : g = .semantic := by
  cases g with
  | semantic => rfl
  | date =>
    obtain ⟨found, hfound, heq⟩ := Option.map_eq_some_iff.1 h
    cases heq
    have hnone := readSigns_date ⟨false, false, false, none⟩ cs
    unfold Signs.op? at hfound
    rw [hnone] at hfound
    simp only at hfound
    split at hfound <;> cases hfound <;> obtain hop | hop := hop <;> cases hop

/-! ### Versions -/

theorem readBuild_chars (g : Grammar) (cs : List Char) :
    (∀ c ∈ (readBuild g cs).1.toList, isIdentifierChar c = true) ∧
      (g = .date → readBuild g cs = ("", cs)) := by
  unfold readBuild
  split
  · split
    · rename_i hg
      refine ⟨fun c hc => ?_, fun hdate => ?_⟩
      · rw [String.toList_ofList] at hc
        exact List.mem_takeWhile_imp hc
      · rw [hg] at hdate
        cases hdate
    · exact ⟨fun c hc => absurd hc List.not_mem_nil, fun _ => rfl⟩
  · exact ⟨fun c hc => absurd hc List.not_mem_nil, fun _ => rfl⟩

theorem readParts_writable {g : Grammar} {cs rest : List Char} {parts : Parts}
    (h : readParts g cs = some (parts, rest)) : parts.IsWritable g := by
  obtain ⟨⟨core, cs⟩, hcore, h⟩ := Option.bind_eq_some_iff.1 h
  obtain ⟨⟨p, cs⟩, hp, h⟩ := Option.bind_eq_some_iff.1 h
  cases h
  obtain ⟨hstart, hchars⟩ := readPrerelease_chars hp
  obtain ⟨hbuild, hbuilt⟩ := readBuild_chars g cs
  refine ⟨readCore_writable hcore, hchars, ?_, hbuild, fun hg => congrArg Prod.fst (hbuilt hg)⟩
  rintro hstable rfl
  obtain rfl | hhead := hstart
  · cases hstable
  · obtain ⟨more, rfl⟩ := List.head?_eq_some_iff.1 hhead
    exact readCore_hyphen hcore

/-! ### Clauses and groups -/

theorem readClause_writable {g : Grammar} {included : Bool} {cs rest : List Char} {c : Clause}
    {j : Join} (h : readClause g included cs = some (c, j, rest)) : c.IsWritable g := by
  unfold readClause at h
  obtain ⟨⟨op, cs⟩, hop, h⟩ := Option.bind_eq_some_iff.1 h
  obtain ⟨⟨parts, cs⟩, hparts, h⟩ := Option.bind_eq_some_iff.1 h
  obtain ⟨⟨join, cs⟩, -, h⟩ := Option.bind_eq_some_iff.1 h
  cases h
  have hwritable := readParts_writable hparts
  exact ⟨readOperator_uplift hop, hwritable.core, hwritable.prerelease, hwritable.dated⟩

theorem readGroups_ne_nil {g : Grammar} {included : Bool} {group : List Clause} {cs : List Char}
    {groups : List (List Clause)} (h : readGroups g included group cs = some groups) :
    ∀ group ∈ groups, group ≠ [] := by
  fun_induction readGroups g included group cs generalizing groups with
  | case1 group cs hempty =>
    cases h
    split
    · simp
    · rename_i hgroup
      simpa using hgroup
  | case2 => cases h
  | case3 group cs hempty clause rest hclause ih => exact ih h
  | case4 group cs hempty clause rest hclause ih =>
    obtain ⟨more, hmore, rfl⟩ := Option.map_eq_some_iff.1 h
    rw [List.forall_mem_cons]
    exact ⟨by simp, ih hmore⟩

/-- Clauses that can be written, all with the flag `included`. -/
def AreWritable (g : Grammar) (included : Bool) (clauses : List Clause) : Prop :=
  ∀ c ∈ clauses, c.IsWritable g ∧ c.includePrerelease = included

namespace Constraint

variable {g : Grammar} {text : String} {includePrerelease : Bool} {c : Constraint}

/-- All clauses of a constraint that was read can be written, and no group is empty. -/
theorem parse_writable (h : parse g text includePrerelease = .ok c) :
    c.grammar = g ∧ AreWritable g c.includePrerelease c.groups.flatten ∧
      ∀ group ∈ c.groups, group ≠ [] := by
  have hclauses := parse_clauses h
  obtain ⟨groups, hgroups, rfl⟩ := Option.map_eq_some_iff.1 (parse_eq_ok.1 h)
  refine ⟨rfl, fun clause hclause => ⟨?_, (hclauses clause hclause).included⟩,
    readGroups_ne_nil hgroups⟩
  exact readGroups_forall readClause_writable hgroups (fun _ hc => absurd hc List.not_mem_nil)
    clause hclause

end Constraint

end Sift.Version
