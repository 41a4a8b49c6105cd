import Mathlib.Data.List.Basic
import Sift.Proofs.Version.Writable
import Sift.Proofs.Path.Characters
import Sift.Proofs.Text.Integer

/-! Constraints are read back from what they are written as, but for one number.

A clause is written with its sign, its three segments and its prerelease, if that has any
identifier. Each reader takes its part of that text and leaves the rest, which is empty or
starts with a blank (`readClause_written`); so the groups of a constraint are read again, with
the prereleases that were written (`readGroups_display`), and these are as good as the others
(`Constraint.accepts_shown`).

There is one exception. A prerelease that is one number with a leading zero is refused where it
ends the text, and only there. A constraint can have such a number in its last clause, since a
build or bars may stand behind it, and its text cannot be read. `parse_display` says that this
is the only way to fail, and `display_refused` that it happens. -/
namespace Sift.Version

open Text
open Sift.Path (Ends ends_cons takeWhile_run dropWhile_run)

/-! ### Segments -/

/-- A segment is written as an `x`, or as digits that are read as the number. -/
theorem toList_writeSegment {n : Int} (h : IsWritable n) (width : Nat) :
    (n = wildcardSegment ∧ (writeSegment width n).toList = ['x']) ∨
      ∃ c digits, (writeSegment width n).toList = c :: digits ∧
        (∀ d ∈ c :: digits, d.isDigit = true) ∧ readInt64? (c :: digits) = some n := by
  obtain ⟨hn, hfits⟩ | rfl := h
  · obtain ⟨n, rfl⟩ := Int.eq_ofNat_of_zero_le hn
    obtain ⟨c, digits, htext⟩ := List.exists_cons_of_ne_nil (padded_ne_nil width n)
    refine .inr ⟨c, digits, ?_, ?_, ?_⟩
    · rw [writeSegment, if_neg (by omega), Int.toNat_natCast, htext]
    · rw [← htext]
      exact fun _ => isDigit_of_mem_padded
    · rw [← htext]
      exact readInt64?_padded hfits width
  · exact .inl ⟨rfl, by rw [writeSegment, if_pos (by decide)]; rfl⟩

/-- Reading goes on behind a written segment, unless that is the last number of a calendar
version. -/
theorem readSegments_written {g : Grammar} {segments : List Int} {n : Int} (hn : IsWritable n)
    (hlt : segments.length < g.maxSegments) (width : Nat) {rest : List Char}
    (hrest : Ends Char.isDigit rest) :
    readSegments g segments ((writeSegment width n).toList ++ rest) =
      if g = .date ∧ segments.length + 1 = g.maxSegments ∧ n ≠ wildcardSegment then
        some (segments ++ [n], rest)
      else readSegments g (segments ++ [n]) rest := by
  obtain ⟨rfl, htext⟩ | ⟨c, digits, htext, hdigits, hread⟩ := toList_writeSegment hn width
  · have hx : ('x' : Char) ≠ g.separator := by cases g <;> decide
    have hnot : ¬ (g = .date ∧ segments.length + 1 = g.maxSegments ∧
        wildcardSegment ≠ wildcardSegment) := fun h => h.2.2 rfl
    have hwild : isWildcard 'x' = true := by decide
    rw [htext, List.singleton_append, readSegments, dif_neg (by decide), if_neg hx, if_pos hwild,
      if_neg (Nat.not_le_of_lt hlt), if_neg hnot]
  · have hwild : n ≠ wildcardSegment := by
      have := readInt64?_digits (hdigits c List.mem_cons_self) hread
      unfold wildcardSegment
      omega
    have htake := takeWhile_run hdigits hrest
    have hdrop := dropWhile_run hdigits hrest
    rw [List.cons_append] at htake hdrop
    rw [htext, List.cons_append, readSegments, dif_pos (hdigits c List.mem_cons_self), htake, hread]
    simp only [hdrop, if_neg (Nat.not_le_of_lt hlt), ne_eq, hwild, not_false_eq_true, and_true]

theorem readSegments_separator (g : Grammar) (segments : List Int) (rest : List Char) :
    readSegments g segments (g.separator :: rest) = readSegments g segments rest := by
  have hdigit : ¬ g.separator.isDigit = true := by cases g <;> decide
  rw [readSegments, dif_neg hdigit, if_pos rfl]

/-- A written segment that is not the last one, with the separator behind it. -/
theorem readSegments_further {g : Grammar} {segments : List Int} {n : Int} (hn : IsWritable n)
    (hlt : segments.length + 1 < g.maxSegments) (width : Nat) (rest : List Char) :
    readSegments g segments ((writeSegment width n).toList ++ g.separator :: rest) =
      readSegments g (segments ++ [n]) rest := by
  have hsep : g.separator.isDigit = false := by cases g <;> rfl
  have hnot : ¬ (g = .date ∧ segments.length + 1 = g.maxSegments ∧ n ≠ wildcardSegment) :=
    fun h => Nat.ne_of_lt hlt h.2.1
  rw [readSegments_written hn (Nat.lt_of_succ_lt hlt) width (ends_cons hsep), if_neg hnot,
    readSegments_separator]

/-- Nothing that a version or a clause has behind its numbers belongs to them. -/
theorem readSegments_stop {g : Grammar} {segments : List Int} {rest : List Char}
    (h : ∀ c ∈ rest.head?, c = ' ' ∨ c = '+' ∨ (c = '-' ∧ g = .semantic)) :
    readSegments g segments rest = some (segments, rest) := by
  cases rest with
  | nil => rw [readSegments]
  | cons c rest =>
    obtain rfl | rfl | ⟨rfl, rfl⟩ := h c rfl
    · have hblank : (' ' : Char) ≠ g.separator := by cases g <;> decide
      rw [readSegments, dif_neg (by decide), if_neg hblank, if_neg (by decide),
        if_pos (by decide)]
    · have hplus : ('+' : Char) ≠ g.separator := by cases g <;> decide
      rw [readSegments, dif_neg (by decide), if_neg hplus, if_neg (by decide),
        if_pos (by decide)]
    · rw [readSegments, dif_neg (by decide), if_neg (by decide), if_neg (by decide),
        if_pos (by decide)]

/-- How many digits the first segment has at least, and the others. -/
def Grammar.widths : Grammar → Nat × Nat
  | .semantic => (0, 0)
  | .date => (4, 2)

theorem toList_writeCore (g : Grammar) (core : Core) : (writeCore g core).toList =
    (writeSegment g.widths.1 core.major).toList ++ g.separator ::
      ((writeSegment g.widths.2 core.minor).toList ++ g.separator ::
        (writeSegment g.widths.2 core.patch).toList) := by
  cases g <;> simp [writeCore, Grammar.widths, Grammar.separator]

/-- The numbers start with a digit or the mark of a wildcard. -/
theorem head_writeCore (g : Grammar) {core : Core} (h : core.IsWritable) :
    ∃ c cs, (writeCore g core).toList = c :: cs ∧ (c = 'x' ∨ c.isDigit = true) := by
  rw [toList_writeCore]
  obtain ⟨-, htext⟩ | ⟨c, digits, htext, hdigits, -⟩ := toList_writeSegment h.major g.widths.1
  · rw [htext]
    exact ⟨'x', _, rfl, .inl rfl⟩
  · rw [htext]
    exact ⟨c, _, rfl, .inr (hdigits c List.mem_cons_self)⟩

/-- What stands behind the numbers: a blank, a build, or a prerelease, whose hyphen is no further
one between numbers. -/
def EndsCore (g : Grammar) (core : Core) (rest : List Char) : Prop :=
  ∀ c ∈ rest.head?, c = ' ' ∨ c = '+' ∨ (c = '-' ∧ (g = .date → core.patch ≠ wildcardSegment))

theorem readSegments_writeCore {g : Grammar} {core : Core} (h : core.IsWritable) {rest : List Char}
    (hrest : EndsCore g core rest) :
    readSegments g [] ((writeCore g core).toList ++ rest) =
      some ([core.major, core.minor, core.patch], rest) := by
  have hends : Ends Char.isDigit rest := by
    intro c hc
    obtain rfl | rfl | ⟨rfl, -⟩ := hrest c hc <;> rfl
  have hmax : 3 ≤ g.maxSegments := by cases g <;> decide
  have hnone : ([] : List Int).length + 1 < g.maxSegments := Nat.lt_of_succ_lt hmax
  have hone : [core.major].length + 1 < g.maxSegments := hmax
  have htwo : [core.major, core.minor].length < g.maxSegments := hmax
  rw [toList_writeCore, List.append_assoc, List.cons_append, List.append_assoc, List.cons_append,
    readSegments_further h.major hnone, List.nil_append,
    readSegments_further h.minor hone, List.singleton_append,
    readSegments_written h.patch htwo _ hends]
  split
  · rfl
  · rename_i hnot
    apply readSegments_stop
    intro c hc
    obtain rfl | rfl | ⟨rfl, hdate⟩ := hrest c hc
    · exact .inl rfl
    · exact .inr (.inl rfl)
    · refine .inr (.inr ⟨rfl, ?_⟩)
      cases g with
      | semantic => rfl
      | date => exact absurd ⟨rfl, rfl, hdate rfl⟩ hnot

theorem readCore_eq {g : Grammar} {cs : List Char} (h : ∀ c ∈ cs.head?, c ≠ 'v' ∧ c ≠ 'V') :
    readCore g cs = (readSegments g [] cs).bind fun (segments, rest) =>
      if segments.isEmpty then none else some (coreOf segments, rest) := by
  unfold readCore
  split
  · exact absurd rfl (h 'v' rfl).1
  · exact absurd rfl (h 'V' rfl).2
  · rfl

theorem readCore_written {g : Grammar} {core : Core} (h : core.IsWritable) {rest : List Char}
    (hrest : EndsCore g core rest) :
    readCore g ((writeCore g core).toList ++ rest) = some (core, rest) := by
  obtain ⟨c, cs, htext, hc⟩ := head_writeCore g h
  rw [readCore_eq, readSegments_writeCore h hrest]
  · rfl
  · rw [htext]
    rintro _ ⟨⟩
    constructor
    · rintro rfl
      revert hc
      decide
    · rintro rfl
      revert hc
      decide

/-! ### Prereleases -/

namespace Prerelease

/-- One number of several digits that starts with a zero. -/
def isPadded (p : Prerelease) : Bool :=
  p.text.toList.all Char.isDigit && 1 < p.text.toList.length && p.text.toList.head? == some '0'

/-- The prerelease that is written: a text without identifiers is left out. -/
def shown (p : Prerelease) : Prerelease := if p.isStable then .none else p

end Prerelease

/-- What starts with anything but a dot has an identifier. -/
theorem isStable_eq_false {p : Prerelease} {c : Char} (h : p.text.toList.head? = some c)
    (hc : c ≠ '.') : p.isStable = false := by
  obtain ⟨rest, htext⟩ : ∃ rest, p.text.toList = c :: rest := by
    obtain ⟨rest, hrest⟩ := List.head?_eq_some_iff.1 h
    exact ⟨rest, hrest⟩
  rw [Prerelease.isStable, Prerelease.identifiers, htext, Prerelease.parts]
  split
  · rw [if_neg hc]
    rfl
  · rfl

theorem text_ne_nil {p : Prerelease} (h : p.isStable = false) : p.text.toList ≠ [] := by
  intro hnil
  rw [Prerelease.isStable, Prerelease.identifiers, hnil] at h
  cases h

/-- A number with a leading zero is refused at the end of the text, and only there. -/
theorem readPrerelease_written {p : Prerelease}
    (hp : ∀ c ∈ p.text.toList, isIdentifierChar c = true) {rest : List Char}
    (hends : Ends isIdentifierChar rest) :
    readPrerelease ((writePrerelease p).toList ++ rest) =
      if p.isPadded = true ∧ rest = [] then none else some (p.shown, rest) := by
  cases hstable : p.isStable with
  | true =>
    have hpadded : ¬ p.isPadded = true := by
      intro h
      simp only [Prerelease.isPadded, Bool.and_eq_true, beq_iff_eq] at h
      rw [isStable_eq_false h.2 (by decide)] at hstable
      cases hstable
    rw [writePrerelease, hstable, if_pos rfl, if_neg (fun h => hpadded h.1), Prerelease.shown,
      if_pos hstable]
    show readPrerelease rest = _
    unfold readPrerelease
    split
    · exact absurd (hends '-' rfl) (by decide)
    · rfl
  | false =>
    have hwritten : (writePrerelease p).toList = '-' :: p.text.toList := by
      rw [writePrerelease, hstable, if_neg Bool.false_ne_true, String.toList_append]
      rfl
    have hshown : p.shown = p := by rw [Prerelease.shown, hstable, if_neg Bool.false_ne_true]
    have hne : p.text.toList.isEmpty = false := List.isEmpty_eq_false_iff.2 (text_ne_nil hstable)
    rw [hwritten, List.cons_append, readPrerelease, takeWhile_run hp hends,
      dropWhile_run hp hends, hne, hshown, String.ofList_toList]
    simp only [Bool.false_eq_true, if_false]
    refine if_congr ?_ rfl rfl
    cases rest with
    | nil => rw [List.append_nil, Prerelease.isPadded, and_iff_left rfl]
    | cons c rest =>
      have hdigit : c.isDigit = false := by
        have hc := hends c rfl
        simp only [isIdentifierChar, Char.isAlphanum, Bool.or_eq_false_iff] at hc
        exact hc.1.1.2
      have hother : (p.text.toList ++ c :: rest).all Char.isDigit = false := by
        rw [List.all_append, List.all_cons, hdigit, Bool.false_and, Bool.and_false]
      simp only [hother, Bool.false_and, Bool.false_eq_true, reduceCtorEq, and_false]

/-! ### Builds and versions -/

/-- The build as it follows the prerelease. -/
def writeBuild (build : String) : String := if build.isEmpty then "" else "+" ++ build

theorem toList_writeBuild {build : String} (h : build ≠ "") :
    (writeBuild build).toList = '+' :: build.toList := by
  simp [writeBuild, h]

theorem readBuild_written {g : Grammar} {build : String}
    (hchars : ∀ c ∈ build.toList, isIdentifierChar c = true) (hbuilt : g = .date → build = "")
    {rest : List Char} (hrest : ∀ c ∈ rest.head?, c = ' ') :
    readBuild g ((writeBuild build).toList ++ rest) = (build, rest) := by
  by_cases hbuild : build = ""
  · subst hbuild
    show readBuild g rest = ("", rest)
    unfold readBuild
    split
    · exact absurd (hrest '+' rfl) (by decide)
    · rfl
  · have hg : g = .semantic := by
      cases g with
      | semantic => rfl
      | date => exact absurd (hbuilt rfl) hbuild
    have hends : Ends isIdentifierChar rest := fun c hc => hrest c hc ▸ by decide
    rw [toList_writeBuild hbuild, List.cons_append, readBuild, if_pos hg,
      takeWhile_run hchars hends, dropWhile_run hchars hends, String.ofList_toList]

theorem head_writeBuild (build : String) {rest : List Char} (hrest : ∀ c ∈ rest.head?, c = ' ') :
    ∀ c ∈ ((writeBuild build).toList ++ rest).head?, c = ' ' ∨ c = '+' := by
  intro c hc
  by_cases hbuild : build = ""
  · subst hbuild
    exact .inl (hrest c hc)
  · rw [toList_writeBuild hbuild] at hc
    cases hc
    exact .inr rfl

theorem head_writePrerelease {p : Prerelease} {rest : List Char}
    (hrest : ∀ c ∈ rest.head?, c = ' ' ∨ c = '+') :
    ∀ c ∈ ((writePrerelease p).toList ++ rest).head?,
      c = ' ' ∨ c = '+' ∨ (c = '-' ∧ p.isStable = false) := by
  unfold writePrerelease
  cases p.isStable with
  | true => exact fun c hc => (hrest c hc).imp_right .inl
  | false =>
    intro c hc
    rw [if_neg Bool.false_ne_true, String.toList_append] at hc
    cases hc
    exact .inr (.inr ⟨rfl, rfl⟩)

/-- The parts of a version are read from what they are written as, but for a number with a leading
zero at the end of the text. -/
theorem readParts_written {g : Grammar} {parts : Parts} (h : parts.IsWritable g)
    {rest : List Char} (hrest : ∀ ch ∈ rest.head?, ch = ' ') :
    readParts g ((writeCore g parts.core).toList ++ ((writePrerelease parts.prerelease).toList ++
        ((writeBuild parts.build).toList ++ rest))) =
      if parts.prerelease.isPadded ∧ parts.build = "" ∧ rest = [] then none
      else some ({ parts with prerelease := parts.prerelease.shown }, rest) := by
  have hbehind := head_writeBuild parts.build hrest
  have hbuild := readBuild_written h.build h.built hrest
  have hnil : (writeBuild parts.build).toList ++ rest = [] ↔ parts.build = "" ∧ rest = [] := by
    rw [List.append_eq_nil_iff]
    by_cases hnone : parts.build = "" <;> simp [writeBuild, hnone]
  generalize (writeBuild parts.build).toList ++ rest = behind at hbehind hbuild hnil ⊢
  have hcore : readCore g
      ((writeCore g parts.core).toList ++ ((writePrerelease parts.prerelease).toList ++ behind)) =
      some (parts.core, (writePrerelease parts.prerelease).toList ++ behind) := by
    apply readCore_written h.core
    intro s hs
    obtain rfl | rfl | ⟨rfl, hstable⟩ := head_writePrerelease hbehind s hs
    · exact .inl rfl
    · exact .inr (.inl rfl)
    · exact .inr (.inr ⟨rfl, h.dated hstable⟩)
  have hends : Ends isIdentifierChar behind := by
    intro c hc
    obtain rfl | rfl := hbehind c hc <;> decide
  simp only [readParts, hcore, Option.bind_eq_bind, Option.bind_some,
    readPrerelease_written h.prerelease hends, hnil]
  split
  · rfl
  · simp only [Option.bind_some, hbuild]

/-! ### Signs -/

def operatorSigns : List Char := ['=', '>', '<', '^', '~']

/-- Behind the last sign, there are no further ones. -/
theorem readSigns_other {g : Grammar} {s : Signs} {rest : List Char}
    (h : ∀ c ∈ rest.head?, c ∉ operatorSigns) : readSigns g s rest = (s, rest) := by
  cases rest with
  | nil => rfl
  | cons c rest =>
    have hne (d : Char) (hd : d ∈ operatorSigns) : c ≠ d := fun heq => h c rfl (heq ▸ hd)
    rw [readSigns]
    · exact hne '=' (by decide)
    · exact hne '>' (by decide)
    · exact hne '<' (by decide)
    · exact hne '^' (by decide)
    · exact hne '~' (by decide)

theorem readOperator_written {g : Grammar} {op : ClauseOp} (hop : op.IsUplift → g = .semantic)
    {rest : List Char} (hrest : ∀ c ∈ rest.head?, c ∉ operatorSigns) :
    readOperator g (op.symbol.toList ++ rest) = some (op, rest) := by
  cases op with
  | minorUplift =>
    obtain rfl := hop (.inl rfl)
    simp [readOperator, ClauseOp.symbol, readSigns, readSigns_other hrest, Signs.op?]
  | patchUplift =>
    obtain rfl := hop (.inr rfl)
    simp [readOperator, ClauseOp.symbol, readSigns, readSigns_other hrest, Signs.op?]
  | _ => simp [readOperator, ClauseOp.symbol, readSigns, readSigns_other hrest, Signs.op?]

/-! ### Joins -/

theorem readJoin_blank {c : Char} {rest : List Char} (hc : (c == ' ' || c == '|') = false) :
    readJoin (' ' :: c :: rest) = some (.and, c :: rest) := by
  simp only [Bool.or_eq_false_iff, beq_eq_false_iff_ne] at hc
  simp [readJoin, hc]

theorem readJoin_bars {c : Char} {rest : List Char} (hc : (c == ' ' || c == '|') = false) :
    readJoin (' ' :: '|' :: '|' :: ' ' :: c :: rest) = some (.or, c :: rest) := by
  simp only [Bool.or_eq_false_iff, beq_eq_false_iff_ne] at hc
  simp [readJoin, hc]

/-! ### Clauses -/

def Clause.shown (c : Clause) : Clause := { c with prerelease := c.prerelease.shown }

/-- No sign is taken for white space, for a bar, or for the start of a flag. -/
theorem operatorSigns_plain : ∀ s ∈ operatorSigns,
    isBlank s = false ∧ (s == ' ') = false ∧ (s == '|') = false ∧ ('@' == s) = false := by
  decide +kernel

theorem head_display (g : Grammar) (c : Clause) :
    ∃ s ∈ operatorSigns, ∃ more, (c.display g).toList = s :: more := by
  obtain ⟨s, hs, more, hmore⟩ : ∃ s ∈ operatorSigns, ∃ more, c.op.symbol.toList = s :: more := by
    cases c.op <;> exact ⟨_, by decide, _, rfl⟩
  refine ⟨s, hs, more ++ (writeCore g c.core).toList ++ (writePrerelease c.prerelease).toList, ?_⟩
  rw [Clause.display, String.toList_append, String.toList_append, hmore]
  rfl

theorem readClause_written {g : Grammar} {c : Clause} (h : c.IsWritable g) {rest : List Char}
    (hrest : ∀ ch ∈ rest.head?, ch = ' ') :
    readClause g c.includePrerelease ((c.display g).toList ++ rest) =
      if c.prerelease.isPadded ∧ rest = [] then none
      else (readJoin rest).map fun (join, behind) => (c.shown, join, behind) := by
  have hoperator : readOperator g ((c.display g).toList ++ rest) =
      some (c.op,
        (writeCore g c.core).toList ++ ((writePrerelease c.prerelease).toList ++ rest)) := by
    rw [Clause.display, String.toList_append, String.toList_append, List.append_assoc,
      List.append_assoc]
    apply readOperator_written h.op
    have hsigns : ∀ s ∈ operatorSigns, ¬ (s = 'x' ∨ s.isDigit = true) := by decide
    obtain ⟨s, cs, htext, hs⟩ := head_writeCore g h.core
    rw [htext]
    rintro _ ⟨⟩ hsign
    exact hsigns s hsign hs
  let parts : Parts := ⟨c.core, c.prerelease, ""⟩
  have hparts : parts.IsWritable g :=
    ⟨h.core, h.prerelease, h.dated, fun _ hc => absurd hc List.not_mem_nil, fun _ => rfl⟩
  have hread := readParts_written hparts hrest
  simp only [parts, true_and, show (writeBuild "").toList ++ rest = rest from rfl] at hread
  simp only [readClause, hoperator, Option.bind_eq_bind, Option.bind_some, hread]
  split
  · rfl
  · rw [Option.bind_some]
    cases readJoin rest <;> rfl

/-! ### Groups -/

section Groups

variable {g : Grammar} {i : Bool} {c : Clause} {group : List Clause} {cs rest : List Char}

/-- The groups of a text that is not empty, by its first clause. -/
theorem readGroups_eq (hne : cs ≠ []) : readGroups g i group cs =
    match readClause g i cs with
    | none => none
    | some (clause, .and, rest) => readGroups g i (group ++ [clause]) rest
    | some (clause, .or, rest) => (readGroups g i [] rest).map ((group ++ [clause]) :: ·) := by
  have hempty : ¬ cs.isEmpty = true := fun h => hne (List.isEmpty_iff.1 h)
  conv => lhs; rw [readGroups, if_neg hempty]
  split <;> rename_i heq <;> rw [heq]

/-- The groups of what is written, by its first clause. -/
theorem readGroups_written (h : c.IsWritable g) (hi : c.includePrerelease = i)
    (hrest : ∀ ch ∈ rest.head?, ch = ' ') :
    readGroups g i group ((c.display g).toList ++ rest) =
      if c.prerelease.isPadded ∧ rest = [] then none
      else match readJoin rest with
        | none => none
        | some (.and, behind) => readGroups g i (group ++ [c.shown]) behind
        | some (.or, behind) => (readGroups g i [] behind).map ((group ++ [c.shown]) :: ·) := by
  obtain ⟨s, -, more, htext⟩ := head_display g c
  have hne : (c.display g).toList ++ rest ≠ [] := by
    rw [htext]
    exact List.cons_ne_nil _ _
  rw [readGroups_eq hne, ← hi, readClause_written h hrest]
  by_cases hpadded : c.prerelease.isPadded ∧ rest = []
  · rw [if_pos hpadded, if_pos hpadded]
  · rw [if_neg hpadded, if_neg hpadded]
    rcases readJoin rest with _ | ⟨join, behind⟩
    · rfl
    · cases join <;> rfl

/-- A text that goes on with a clause. -/
def GoesOn (rest : List Char) : Prop := ∃ s ∈ operatorSigns, ∃ more, rest = s :: more

theorem goesOn_display (c : Clause) (rest : List Char) : GoesOn ((c.display g).toList ++ rest) := by
  obtain ⟨s, hs, more, htext⟩ := head_display g c
  rw [htext]
  exact ⟨s, hs, _, rfl⟩

/-- A clause does not start with what joins it to the one in front. -/
theorem GoesOn.not_join (h : GoesOn rest) :
    ∃ s more, rest = s :: more ∧ (s == ' ' || s == '|') = false := by
  obtain ⟨s, hs, more, rfl⟩ := h
  obtain ⟨-, hblank, hbar, -⟩ := operatorSigns_plain s hs
  exact ⟨s, more, rfl, by rw [hblank, hbar, Bool.false_or]⟩

theorem readGroups_last (h : c.IsWritable g) (hi : c.includePrerelease = i) :
    readGroups g i group (c.display g).toList =
      if c.prerelease.isPadded then none else some [group ++ [c.shown]] := by
  have hread := @readGroups_written g i c group [] h hi fun _ hc => by cases hc
  rw [List.append_nil] at hread
  rw [hread]
  simp only [and_true]
  have hnil : readGroups g i [] [] = some [] := by rw [readGroups]; rfl
  split
  · rfl
  · show (readGroups g i [] []).map _ = _
    rw [hnil]
    rfl

theorem readGroups_blank (h : c.IsWritable g) (hi : c.includePrerelease = i)
    (hrest : GoesOn rest) :
    readGroups g i group ((c.display g).toList ++ ' ' :: rest) =
      readGroups g i (group ++ [c.shown]) rest := by
  obtain ⟨s, more, rfl, hjoin⟩ := hrest.not_join
  rw [readGroups_written h hi fun _ hc => by cases hc; rfl, if_neg (by simp), readJoin_blank hjoin]

theorem readGroups_bars (h : c.IsWritable g) (hi : c.includePrerelease = i)
    (hrest : GoesOn rest) :
    readGroups g i group ((c.display g).toList ++ ' ' :: '|' :: '|' :: ' ' :: rest) =
      (readGroups g i [] rest).map ((group ++ [c.shown]) :: ·) := by
  obtain ⟨s, more, rfl, hjoin⟩ := hrest.not_join
  rw [readGroups_written h hi fun _ hc => by cases hc; rfl, if_neg (by simp), readJoin_bars hjoin]

end Groups

/-- Texts with a separator between any two of them. -/
theorem toList_intercalate_concat (sep a : String) (l : List String) :
    (sep.intercalate (l ++ [a])).toList =
      l.flatMap (fun b => b.toList ++ sep.toList) ++ a.toList := by
  rw [String.toList_intercalate, List.map_append, List.map_singleton]
  induction l with
  | nil => simp
  | cons b l ih =>
    obtain ⟨d, ds, hcons⟩ := List.exists_cons_of_ne_nil
      (List.append_ne_nil_of_right_ne_nil (l.map String.toList) (List.cons_ne_nil a.toList []))
    rw [List.map_cons, List.cons_append, hcons, List.intercalate_cons_cons, ← hcons, ih,
      List.flatMap_cons, List.append_assoc, List.append_assoc, List.append_assoc]

/-- What a group is written as. -/
def displayGroup (g : Grammar) (group : List Clause) : String :=
  " ".intercalate (group.map (Clause.display g))

section Groups

variable {g : Grammar} {i : Bool}

theorem readGroups_clauses {clauses : List Clause} (h : AreWritable g i clauses)
    (group : List Clause) {rest : List Char} (hrest : GoesOn rest) :
    readGroups g i group (clauses.flatMap (fun c => (c.display g).toList ++ [' ']) ++ rest) =
      readGroups g i (group ++ clauses.map Clause.shown) rest := by
  induction clauses generalizing group with
  | nil => rw [List.flatMap_nil, List.nil_append, List.map_nil, List.append_nil]
  | cons c clauses ih =>
    obtain ⟨hc, hi⟩ := h c List.mem_cons_self
    have hgoes : GoesOn (clauses.flatMap (fun c => (c.display g).toList ++ [' ']) ++ rest) := by
      cases clauses with
      | nil => exact hrest
      | cons d clauses =>
        rw [List.flatMap_cons, List.append_assoc, List.append_assoc]
        exact goesOn_display d _
    rw [List.flatMap_cons, List.append_assoc, List.append_assoc, List.singleton_append,
      readGroups_blank hc hi hgoes, ih fun d hd => h d (List.mem_cons_of_mem c hd), List.map_cons,
      List.append_assoc, List.singleton_append]

theorem toList_displayGroup (g : Grammar) (clauses : List Clause) (last : Clause) :
    (displayGroup g (clauses ++ [last])).toList =
      clauses.flatMap (fun c => (c.display g).toList ++ [' ']) ++ (last.display g).toList := by
  rw [displayGroup, List.map_append, List.map_singleton, toList_intercalate_concat,
    List.flatMap_map]
  rfl

theorem goesOn_displayGroup {group : List Clause} (hne : group ≠ []) (rest : List Char) :
    GoesOn ((displayGroup g group).toList ++ rest) := by
  obtain ⟨clauses, last, rfl⟩ := (List.eq_nil_or_concat' group).resolve_left hne
  rw [toList_displayGroup]
  cases clauses with
  | nil => exact goesOn_display last rest
  | cons c clauses =>
    rw [List.flatMap_cons, List.append_assoc, List.append_assoc, List.append_assoc]
    exact goesOn_display c _

/-- A group with further ones behind it. -/
theorem readGroups_further {group : List Clause} (h : AreWritable g i group) (hne : group ≠ [])
    {rest : List Char} (hrest : GoesOn rest) :
    readGroups g i [] ((displayGroup g group).toList ++ (" || ".toList ++ rest)) =
      (readGroups g i [] rest).map (group.map Clause.shown :: ·) := by
  obtain ⟨clauses, last, rfl⟩ := (List.eq_nil_or_concat' group).resolve_left hne
  obtain ⟨hlast, hi⟩ := h last (by simp)
  have hclauses : AreWritable g i clauses := fun c hc => h c (List.mem_append_left _ hc)
  rw [toList_displayGroup, List.append_assoc, readGroups_clauses hclauses [] (goesOn_display _ _),
    List.nil_append]
  show readGroups g i _ ((last.display g).toList ++ ' ' :: '|' :: '|' :: ' ' :: rest) = _
  rw [readGroups_bars hlast hi hrest, List.map_append]
  rfl

/-- The last group, which may end in a number that cannot stand there. -/
theorem readGroups_lastGroup {clauses : List Clause} {last : Clause}
    (h : AreWritable g i (clauses ++ [last])) :
    readGroups g i [] (displayGroup g (clauses ++ [last])).toList =
      if last.prerelease.isPadded then none
      else some [(clauses ++ [last]).map Clause.shown] := by
  obtain ⟨hlast, hi⟩ := h last (by simp)
  have hclauses : AreWritable g i clauses := fun c hc => h c (List.mem_append_left _ hc)
  have hgoes := goesOn_display (g := g) last []
  rw [List.append_nil] at hgoes
  rw [toList_displayGroup, readGroups_clauses hclauses [] hgoes, readGroups_last hlast hi,
    List.nil_append, List.map_append]
  rfl

/-- What the groups of a constraint are written as. -/
def displayGroups (g : Grammar) (groups : List (List Clause)) : String :=
  " || ".intercalate (groups.map (displayGroup g))

/-- The last clause ends in a number with a leading zero. -/
def endsPadded (groups : List (List Clause)) : Bool :=
  groups.flatten.getLast?.any fun last => last.prerelease.isPadded

theorem toList_displayGroups (g : Grammar) (first second : List Clause)
    (more : List (List Clause)) : (displayGroups g (first :: second :: more)).toList =
      (displayGroup g first).toList ++
        (" || ".toList ++ (displayGroups g (second :: more)).toList) := by
  simp only [displayGroups, String.toList_intercalate, List.map_cons,
    List.intercalate_cons_cons, List.append_assoc]

theorem goesOn_displayGroups {first : List Clause} (hne : first ≠ []) (more : List (List Clause)) :
    GoesOn (displayGroups g (first :: more)).toList := by
  cases more with
  | nil =>
    have hgoes := goesOn_displayGroup (g := g) hne []
    rwa [List.append_nil] at hgoes
  | cons second more =>
    rw [toList_displayGroups]
    exact goesOn_displayGroup hne _

/-- Only the last group counts. -/
theorem endsPadded_cons (first : List Clause) {second : List Clause} (hne : second ≠ [])
    (more : List (List Clause)) :
    endsPadded (first :: second :: more) = endsPadded (second :: more) := by
  obtain ⟨c, cs, rfl⟩ := List.exists_cons_of_ne_nil hne
  rw [endsPadded, endsPadded, List.flatten_cons, List.getLast?_append, List.flatten_cons,
    List.cons_append, List.getLast?_cons]
  rfl

theorem readGroups_display {groups : List (List Clause)} (h : AreWritable g i groups.flatten)
    (hne : ∀ group ∈ groups, group ≠ []) :
    readGroups g i [] (displayGroups g groups).toList =
      if endsPadded groups then none else some (groups.map (List.map Clause.shown)) := by
  induction groups with
  | nil =>
    rw [readGroups]
    rfl
  | cons group groups ih =>
    have hgroup : AreWritable g i group := fun c hc => h c (List.mem_append_left _ hc)
    have hgroups : AreWritable g i groups.flatten := fun c hc => h c (List.mem_append_right _ hc)
    have hfirst := hne group List.mem_cons_self
    cases groups with
    | nil =>
      obtain ⟨clauses, last, rfl⟩ := (List.eq_nil_or_concat' group).resolve_left hfirst
      rw [displayGroups, List.map_singleton, String.intercalate_singleton,
        readGroups_lastGroup hgroup]
      simp [endsPadded]
    | cons second groups =>
      have hsecond := hne second (by simp)
      rw [toList_displayGroups, readGroups_further hgroup hfirst (goesOn_displayGroups hsecond _),
        ih hgroups fun group hg => hne group (List.mem_cons_of_mem _ hg),
        endsPadded_cons group hsecond]
      cases endsPadded (second :: groups) <;> rfl

end Groups

/-! ### What is written means the same -/

theorem order_shown (p q : Prerelease) : p.shown.order q = p.order q := by
  unfold Prerelease.shown
  split
  · rename_i hstable
    rw [Prerelease.order, Prerelease.order, hstable]
    cases q.isStable <;> rfl
  · rfl

theorem isStable_shown (p : Prerelease) : p.shown.isStable = p.isStable := by
  unfold Prerelease.shown
  split
  · rename_i hstable
    rw [hstable]
    rfl
  · rfl

theorem writePrerelease_shown (p : Prerelease) : writePrerelease p.shown = writePrerelease p := by
  rw [writePrerelease, writePrerelease, isStable_shown, Prerelease.shown]
  cases p.isStable <;> rfl

theorem accepts_shown (c : Clause) (core : Core) (p : Prerelease) :
    c.shown.accepts core p = c.accepts core p := by
  have hequals : c.shown.equals core p = c.equals core p := by
    rw [Clause.equals, Clause.shown, order_shown]
    rfl
  have hgreater : c.shown.isGreater core p = c.isGreater core p := by
    rw [Clause.isGreater, Clause.shown, order_shown]
    rfl
  have hless : c.shown.isLess core p = c.isLess core p := by
    rw [Clause.isLess, Clause.shown, order_shown]
    rfl
  have hstable : c.shown.prerelease.isStable = c.prerelease.isStable := isStable_shown _
  rw [Clause.accepts, hequals, hgreater, hless, hstable]
  rfl

theorem display_shown (g : Grammar) (c : Clause) : c.shown.display g = c.display g := by
  rw [Clause.display, Clause.display, Clause.shown, writePrerelease_shown]

namespace Constraint

/-- The constraint with those prereleases that are written. -/
def shown (c : Constraint) : Constraint :=
  { c with groups := c.groups.map (List.map Clause.shown) }

theorem accepts_shown (c : Constraint) (core : Core) (p : Prerelease) :
    c.shown.accepts core p = c.accepts core p := by
  simp only [accepts, shown, List.isEmpty_map, List.any_map, List.all_map, Function.comp_def,
    Version.accepts_shown]

theorem display_shown (c : Constraint) : c.shown.display = c.display := by
  simp only [display, shown, List.map_map, Function.comp_def, Version.display_shown]

theorem display_eq (c : Constraint) : c.display = displayGroups c.grammar c.groups := rfl

end Constraint

/-! ### White space -/

theorem isIdentifierChar_blank : ∀ n ∈ blankPoints, isIdentifierChar (Char.ofNat n) = false := by
  decide +kernel

theorem isBlank_of_isIdentifierChar {c : Char} (h : isIdentifierChar c = true) :
    isBlank c = false := by
  rw [Bool.eq_false_iff]
  intro hblank
  have hpoint := isIdentifierChar_blank _ ((isBlank_iff c).1 hblank)
  rw [Char.ofNat_toNat, h] at hpoint
  cases hpoint

theorem mem_writeSegment {n : Int} (h : IsWritable n) {width : Nat} {c : Char}
    (hc : c ∈ (writeSegment width n).toList) : isIdentifierChar c = true := by
  obtain ⟨-, htext⟩ | ⟨d, digits, htext, hdigits, -⟩ := toList_writeSegment h width
  · rw [htext, List.mem_singleton] at hc
    rw [hc]
    decide
  · rw [htext] at hc
    simp [isIdentifierChar, Char.isAlphanum, hdigits c hc]

theorem isIdentifierChar_separator (g : Grammar) : isIdentifierChar g.separator = true := by
  cases g <;> decide

theorem mem_writeCore {g : Grammar} {core : Core} (h : core.IsWritable) {c : Char}
    (hc : c ∈ (writeCore g core).toList) : isIdentifierChar c = true := by
  rw [toList_writeCore] at hc
  simp only [List.mem_append, List.mem_cons] at hc
  obtain hc | rfl | hc | rfl | hc := hc
  · exact mem_writeSegment h.major hc
  · exact isIdentifierChar_separator g
  · exact mem_writeSegment h.minor hc
  · exact isIdentifierChar_separator g
  · exact mem_writeSegment h.patch hc

/-- The last character of a clause is no white space. -/
theorem last_display {g : Grammar} {c : Clause} (h : c.IsWritable g) {front : List Char} :
    ∀ ch ∈ (front ++ (c.display g).toList).getLast?, isBlank ch = false := by
  have hmem : ∀ ch ∈ (writeCore g c.core).toList ++ (writePrerelease c.prerelease).toList,
      isBlank ch = false := by
    intro ch hch
    apply isBlank_of_isIdentifierChar
    rcases List.mem_append.1 hch with hch | hch
    · exact mem_writeCore h.core hch
    · unfold writePrerelease at hch
      split at hch
      · cases hch
      · rw [String.toList_append, List.mem_append] at hch
        rcases hch with hch | hch
        · rw [List.mem_singleton.1 hch]
          decide
        · exact h.prerelease ch hch
  obtain ⟨s, cs, hcore, -⟩ := head_writeCore g h.core
  intro ch hch
  apply hmem
  rw [Clause.display, String.toList_append, String.toList_append, List.append_assoc,
    ← List.append_assoc, hcore, List.cons_append] at hch
  rw [hcore, List.cons_append]
  rw [List.getLast?_append_of_ne_nil _ (List.cons_ne_nil _ _)] at hch
  exact List.mem_of_getLast? hch

theorem display_ends (g : Grammar) {groups : List (List Clause)} (hne : groups ≠ [])
    (hgroups : ∀ group ∈ groups, group ≠ []) : ∃ front, ∃ last ∈ groups.flatten,
      (displayGroups g groups).toList = front ++ (last.display g).toList := by
  induction groups with
  | nil => exact absurd rfl hne
  | cons group groups ih =>
    cases groups with
    | nil =>
      have hgroup := hgroups group List.mem_cons_self
      obtain ⟨clauses, last, rfl⟩ := (List.eq_nil_or_concat' group).resolve_left hgroup
      have hlast : last ∈ [clauses ++ [last]].flatten := by simp
      have htext := toList_displayGroup g clauses last
      rw [← @String.intercalate_singleton " || " (displayGroup g _)] at htext
      exact ⟨_, last, hlast, htext⟩
    | cons second groups =>
      obtain ⟨front, last, hlast, htext⟩ := ih (List.cons_ne_nil _ _)
        fun group hg => hgroups group (List.mem_cons_of_mem _ hg)
      have hmore := toList_displayGroups g group second groups
      rw [htext, ← List.append_assoc, ← List.append_assoc] at hmore
      exact ⟨_, last, List.mem_append_right _ hlast, hmore⟩

theorem strip_display {g : Grammar} {i : Bool} {groups : List (List Clause)}
    (h : AreWritable g i groups.flatten) (hgroups : ∀ group ∈ groups, group ≠ []) :
    strip (displayGroups g groups).toList = (displayGroups g groups).toList := by
  cases groups with
  | nil => rfl
  | cons first groups =>
    apply stripWhile_eq_self
    · obtain ⟨s, hs, more, htext⟩ :=
        goesOn_displayGroups (g := g) (hgroups first List.mem_cons_self) groups
      rw [htext]
      rintro _ ⟨⟩
      exact (operatorSigns_plain s hs).1
    · obtain ⟨front, last, hlast, htext⟩ := display_ends g (List.cons_ne_nil _ _) hgroups
      rw [htext]
      exact last_display (h last hlast).1

/-! ### Constraints -/

namespace Constraint

/-- A text that starts with a sign has no flag in front, and no blank. -/
theorem parse_goesOn (g : Grammar) {text : String} (i : Bool)
    (hstrip : strip text.toList = text.toList) (hstart : text.toList = [] ∨ GoesOn text.toList) :
    parse g text i = match readGroups g i [] text.toList with
      | some groups => .ok ⟨g, groups, i⟩
      | none => .error (.invalidConstraint text) := by
  have hflag : prereleaseFlags.find? (fun f => f.isPrefixOf text.toList) = none := by
    obtain hnil | ⟨s, hs, more, hmore⟩ := hstart
    · rw [hnil]
      decide
    · rw [hmore]
      simp [prereleaseFlags, List.isPrefixOf, (operatorSigns_plain s hs).2.2.2]
  have hblank : text.toList.dropWhile (· == ' ') = text.toList := by
    apply dropWhile_eq_self
    obtain hnil | ⟨s, hs, more, hmore⟩ := hstart
    · rw [hnil]
      exact fun _ hc => absurd hc (Option.not_mem_none _)
    · rw [hmore]
      rintro _ ⟨⟩
      exact (operatorSigns_plain s hs).2.1
  cases hread : readGroups g i [] text.toList <;>
    simp only [parse, hstrip, hflag, Option.map_none, Option.getD_none, List.drop_zero, hblank,
      Option.isSome_none, Bool.or_false, hread]

/-- What becomes of the text that a constraint is written as. -/
theorem parse_written {g : Grammar} {text : String} {includePrerelease : Bool} {c : Constraint}
    (h : parse g text includePrerelease = .ok c) :
    parse g c.display c.includePrerelease =
      if endsPadded c.groups then .error (.invalidConstraint c.display) else .ok c.shown := by
  obtain ⟨rfl, hclauses, hgroups⟩ := parse_writable h
  have hstrip := strip_display hclauses hgroups
  have hstart : c.display.toList = [] ∨ GoesOn c.display.toList := by
    rw [display_eq]
    match hc : c.groups with
    | [] => exact .inl rfl
    | first :: groups =>
      rw [hc] at hgroups
      exact .inr (goesOn_displayGroups (hgroups first List.mem_cons_self) groups)
  rw [← display_eq] at hstrip
  rw [parse_goesOn _ _ hstrip hstart, display_eq, readGroups_display hclauses hgroups]
  cases endsPadded c.groups <;> rfl

end Constraint

/-- **Constraints are read back from what they are written as**, unless they end in a number
that no text may end in. Of a constraint that was read, in either grammar and with or without
the flag that includes prereleases, what is written is read again: as a constraint that is
written the same and accepts the same versions. The one exception is a constraint whose last
clause has a prerelease of digits only, more than one and the first a zero: its text is refused. -/
theorem parse_display (g : Grammar) (text : String) (includePrerelease : Bool) (c : Constraint)
    (h : Constraint.parse g text includePrerelease = .ok c) :
    (endsPadded c.groups = false →
      ∃ d, Constraint.parse g c.display c.includePrerelease = .ok d ∧ d.display = c.display ∧
        ∀ core p, d.accepts core p = c.accepts core p) ∧
    (endsPadded c.groups = true →
      Constraint.parse g c.display c.includePrerelease = .error (.invalidConstraint c.display)) := by
  have hwritten := Constraint.parse_written h
  constructor
  · intro hends
    rw [hends, if_neg Bool.false_ne_true] at hwritten
    exact ⟨c.shown, hwritten, c.display_shown, c.accepts_shown⟩
  · intro hends
    rwa [hends, if_pos rfl] at hwritten

/-- Wildcards, a `v`, bars, dots without identifiers, and a number with a leading zero in front
of a build, but in the middle; and a day with one digit. -/
theorem parse_display_loose :
    let c : Constraint := ⟨.semantic, [[⟨.greaterOrEqual, ⟨1, 2, -1⟩, ⟨".."⟩, true⟩,
      ⟨.less, ⟨2, 0, 0⟩, ⟨"007"⟩, true⟩], [⟨.minorUplift, ⟨3, -1, 4⟩, ⟨"rc.1"⟩, true⟩]], true⟩
    let d : Constraint := ⟨.date, [[⟨.lessOrEqual, ⟨2022, 3, 1⟩, ⟨"preview"⟩, false⟩],
      [⟨.equal, ⟨-1, -1, -1⟩, .none, false⟩]], false⟩
    Constraint.parse .semantic "@pre =>v1.2.*-.. <2.0.0-007+b |  ^3.x.4-rc.1|" false = .ok c ∧
      Constraint.parse .date "<=2022-3-1-preview || x" false = .ok d ∧
      endsPadded c.groups = false ∧ endsPadded d.groups = false ∧
      (∃ c', Constraint.parse .semantic c.display c.includePrerelease = .ok c' ∧
        c'.display = c.display ∧ ∀ core p, c'.accepts core p = c.accepts core p) ∧
      ∃ d', Constraint.parse .date d.display d.includePrerelease = .ok d' ∧
        d'.display = d.display ∧ ∀ core p, d'.accepts core p = d.accepts core p := by
  intro c d
  have hc : Constraint.parse .semantic "@pre =>v1.2.*-.. <2.0.0-007+b |  ^3.x.4-rc.1|" false =
      .ok c := Constraint.parse_eq_ok.2 (by decide +kernel)
  have hd : Constraint.parse .date "<=2022-3-1-preview || x" false = .ok d :=
    Constraint.parse_eq_ok.2 (by decide +kernel)
  have hlast : endsPadded c.groups = false := by decide +kernel
  have hlast' : endsPadded d.groups = false := by decide +kernel
  exact ⟨hc, hd, hlast, hlast', (parse_display _ _ _ c hc).1 hlast,
    (parse_display _ _ _ d hd).1 hlast'⟩

/-- A build, or a bar, lets a constraint end in a number that its own text cannot end in. -/
theorem display_refused :
    let c : Constraint := ⟨.semantic, [[⟨.equal, ⟨1, 0, 0⟩, ⟨"01"⟩, false⟩]], false⟩
    let d : Constraint := ⟨.date, [[⟨.equal, ⟨2022, 3, 1⟩, ⟨"01"⟩, false⟩]], false⟩
    Constraint.parse .semantic "1.0.0-01+b" false = .ok c ∧ c.display = "=1.0.0-01" ∧
      (¬ ∃ c', Constraint.parse .semantic c.display c.includePrerelease = .ok c') ∧
      Constraint.parse .date "2022-03-01-01|" false = .ok d ∧ d.display = "=2022-03-01-01" ∧
      ¬ ∃ d', Constraint.parse .date d.display d.includePrerelease = .ok d' := by
  intro c d
  have hc : Constraint.parse .semantic "1.0.0-01+b" false = .ok c :=
    Constraint.parse_eq_ok.2 (by decide +kernel)
  have hd : Constraint.parse .date "2022-03-01-01|" false = .ok d :=
    Constraint.parse_eq_ok.2 (by decide +kernel)
  have hrefused := Constraint.parse_written hc
  have hrefused' := Constraint.parse_written hd
  rw [if_pos (by decide +kernel)] at hrefused hrefused'
  refine ⟨hc, by decide +kernel, ?_, hd, by decide +kernel, ?_⟩
  · rintro ⟨c', hread⟩
    rw [hrefused] at hread
    cases hread
  · rintro ⟨d', hread⟩
    rw [hrefused'] at hread
    cases hread

end Sift.Version
