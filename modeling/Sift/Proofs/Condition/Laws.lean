import Sift.Proofs.Condition.Arena
import Sift.Proofs.Condition.Evaluate
import Sift.Regex.Engine

/-! Documents that read alike.

A group of all (or any) may be taken apart inside of another one, a condition may be negated
twice, and a condition may stand below an `if`: the rules lead through the same parts in the
same order, to the same answer and with the same reasons. What is left after such a step is
nested less deep, so it is built wherever the document it came from is. -/
namespace Sift

open Builder Question

variable {α : Type} [Viewable α] {b : Builder}

/-! ### What builds -/

/-- A document can be built where `levels` levels are left. -/
def Builds (b : Builder) (levels : Nat) (d : Value) : Prop :=
  ∃ location c, b.condition levels location d = .ok c

namespace Builder

theorem readAll_mono {read read' : String → Value → Except BuildError Condition}
    (h : ∀ p p' d c, read p d = .ok c → ∃ c', read' p' d = .ok c') {path : String}
    (path' : String) {i : Nat} (i' : Nat) {ds : List Value} {cs : List Condition}
    (hcs : readAll read path i ds = .ok cs) : ∃ cs', readAll read' path' i' ds = .ok cs' := by
  induction ds generalizing i i' cs with
  | nil => exact ⟨[], rfl⟩
  | cons d ds ih =>
    obtain ⟨c, hc, hcs⟩ := Path.bind_eq_ok.1 hcs
    obtain ⟨cs, hcs, -⟩ := Path.bind_eq_ok.1 hcs
    obtain ⟨c', hc'⟩ := h _ _ d c hc
    obtain ⟨cs', hcs'⟩ := ih (i' + 1) hcs
    exact ⟨c' :: cs', Path.bind_eq_ok.2 ⟨c', hc', Path.bind_eq_ok.2 ⟨cs', hcs', rfl⟩⟩⟩

/-- What is built somewhere is built at every place that is no deeper. -/
theorem condition_mono (b : Builder) {levels levels' : Nat} (hlevels : levels ≤ levels')
    {location : String} (location' : String) {v : Value} {c : Condition}
    (h : b.condition levels location v = .ok c) :
    ∃ c', b.condition levels' location' v = .ok c' := by
  induction levels generalizing levels' location location' v c with
  | zero => cases h
  | succ levels ih =>
    obtain ⟨levels', rfl⟩ : ∃ n, levels' = n + 1 := ⟨levels' - 1, by omega⟩
    have hdeeper : ∀ p p' d c, b.condition levels p d = .ok c →
        ∃ c', b.condition levels' p' d = .ok c' := fun _ p' _ _ hd => ih (by omega) p' hd
    obtain ⟨members, rfl, ⟨hnone, hleaf⟩ | ⟨k, w, ds, cs, hone, hds, hcs, hc⟩⟩ :=
      b.condition_eq_ok.1 h
    · obtain ⟨path, l, rfl⟩ := b.leaf_ok hleaf
      obtain ⟨path', hleaf'⟩ := b.leaf_location location' hleaf
      exact ⟨_, b.condition_eq_ok.2 ⟨members, rfl, .inl ⟨hnone, hleaf'⟩⟩⟩
    · let place : String := location' ++ "." ++ k.name
      have hds' : children place k w = .ok ds := ok_of_toOption (children_location _ _ k w) hds
      obtain ⟨cs', hcs'⟩ := readAll_mono hdeeper place 0 hcs
      have hgroup : ∃ c', Grouped b levels' place members k cs' c' := by
        cases hc with
        | group hfield => exact ⟨_, .group hfield⟩
        | forEach hfield hf hfilter hq =>
          have hf' := ok_of_toOption (b.field_location _ place _) hf
          have hq' := ok_of_toOption (quantifier_location _ place members) hq
          cases hfilter with
          | none hwhere => exact ⟨_, .forEach hfield hf' (.none hwhere) hq'⟩
          | some hwhere hd =>
            obtain ⟨c', hd'⟩ := hdeeper _ _ _ _ hd
            exact ⟨_, .forEach hfield hf' (.some hwhere hd') hq'⟩
      obtain ⟨c', hc'⟩ := hgroup
      exact ⟨c', b.condition_eq_ok.2 ⟨members, rfl, .inr ⟨k, w, ds, cs', hone, hds', hcs', hc'⟩⟩⟩

end Builder

theorem Builds.at {levels : Nat} {d : Value} (h : Builds b levels d) (location : String) :
    ∃ c, b.condition levels location d = .ok c := by
  obtain ⟨location', c, hc⟩ := h
  exact b.condition_mono (Nat.le_refl levels) location hc

theorem Builds.mono {levels levels' : Nat} {d : Value} (h : Builds b levels d)
    (hlevels : levels ≤ levels') : Builds b levels' d := by
  obtain ⟨location, c, hc⟩ := h
  exact ⟨location, b.condition_mono hlevels location hc⟩

theorem readAll_builds {levels : Nat} {path : String} {i : Nat} {ds : List Value} :
    (∃ cs, readAll (b.condition levels) path i ds = .ok cs) ↔ ∀ d ∈ ds, Builds b levels d := by
  induction ds generalizing i with
  | nil => exact ⟨fun _ _ hd => absurd hd List.not_mem_nil, fun _ => ⟨[], rfl⟩⟩
  | cons d ds ih =>
    rw [List.forall_mem_cons, ← ih (i := i + 1)]
    constructor
    · intro h
      obtain ⟨cs, h⟩ := h
      obtain ⟨c, hc, h⟩ := Path.bind_eq_ok.1 h
      obtain ⟨cs, hcs, -⟩ := Path.bind_eq_ok.1 h
      exact ⟨⟨_, c, hc⟩, cs, hcs⟩
    · intro h
      obtain ⟨hd, cs, hcs⟩ := h
      obtain ⟨c, hc⟩ := hd.at _
      exact ⟨c :: cs, Path.bind_eq_ok.2 ⟨c, hc, Path.bind_eq_ok.2 ⟨cs, hcs, rfl⟩⟩⟩

/-! ### Questions with the same answers -/

/-- Two questions have the same answers and leave the same context. -/
def Alike (b : Builder) (x y : Question α) : Prop := ∀ c r c', Reads b x c r c' ↔ Reads b y c r c'

theorem Alike.refl (x : Question α) : Alike b x x := fun _ _ _ => Iff.rfl

theorem Alike.symm {x y : Question α} (h : Alike b x y) : Alike b y x :=
  fun c r c' => (h c r c').symm

theorem Alike.trans {x y z : Question α} (h : Alike b x y) (h' : Alike b y z) : Alike b x z :=
  fun c r c' => (h c r c').trans (h' c r c')

/-- A document that groups others, and is not asked of the items of a field. -/
def Groups (doc : Value) (k : Combinator) (ds : List Value) : Prop :=
  ∃ members w, doc = .object members ∧ combinators members = [(k, w)] ∧
    member? members "field" = none ∧ children "" k w = .ok ds

theorem Groups.alike {doc : Value} {k : Combinator} {ds : List Value} (h : Groups doc k ds) :
    Alike (α := α) b (document doc) (group k ds) := by
  obtain ⟨members, w, rfl, hone, hfield, hds⟩ := h
  intro c r c'
  exact reads_combined hone hfield hds

theorem reads_append {stop : Bool} {ds es : List Value} {c c' : Context α}
    {r : Except ConfigError Bool} : Reads b (series stop (ds ++ es)) c r c' ↔
      (∃ c₁, Reads b (series stop ds) c (.ok !stop) c₁ ∧ Reads b (series stop es) c₁ r c') ∨
        (r ≠ .ok !stop ∧ Reads b (series stop ds) c r c') := by
  induction ds generalizing c with
  | nil =>
    constructor
    · intro h
      exact .inl ⟨c, .seriesNil, h⟩
    · intro h
      rcases h with ⟨c₁, hds, hes⟩ | ⟨hr, hds⟩
      · cases hds
        exact hes
      · cases hds
        exact absurd rfl hr
  | cons d ds ih =>
    constructor
    · intro h
      cases h with
      | seriesNext hd hstop h =>
        rcases ih.1 h with ⟨c₁, hds, hes⟩ | ⟨hr, hds⟩
        · exact .inl ⟨c₁, .seriesNext hd hstop hds, hes⟩
        · exact .inr ⟨hr, .seriesNext hd hstop hds⟩
      | seriesStop hd => exact .inr ⟨by cases stop <;> simp, .seriesStop hd⟩
      | seriesError hd => exact .inr ⟨by simp, .seriesError hd⟩
    · intro h
      rcases h with ⟨c₁, hds, hes⟩ | ⟨hr, hds⟩
      · generalize hanswer : (Except.ok !stop : Except ConfigError Bool) = answer at hds
        cases hds with
        | seriesNext hd hstop hds =>
          rw [← hanswer] at hds
          exact .seriesNext hd hstop (ih.2 (.inl ⟨c₁, hds, hes⟩))
        | seriesStop hd => cases stop <;> cases hanswer
        | seriesError hd => cases hanswer
      · cases hds with
        | seriesNext hd hstop hds => exact .seriesNext hd hstop (ih.2 (.inr ⟨hr, hds⟩))
        | seriesStop hd => exact .seriesStop hd
        | seriesError hd => exact .seriesError hd

/-- Parts of a series may be replaced by others that are alike. -/
theorem Alike.append {stop : Bool} {ds ds' es es' : List Value}
    (h : Alike (α := α) b (series stop ds) (series stop ds'))
    (h' : Alike (α := α) b (series stop es) (series stop es')) :
    Alike (α := α) b (series stop (ds ++ es)) (series stop (ds' ++ es')) := by
  intro c r c'
  rw [reads_append, reads_append, h c r c']
  refine or_congr ⟨?_, ?_⟩ Iff.rfl
  · intro h
    obtain ⟨c₁, hds, hes⟩ := h
    exact ⟨c₁, (h _ _ _).1 hds, (h' _ _ _).1 hes⟩
  · intro h
    obtain ⟨c₁, hds, hes⟩ := h
    exact ⟨c₁, (h _ _ _).2 hds, (h' _ _ _).2 hes⟩

/-- A series of one document is that document. -/
theorem alike_singleton (stop : Bool) (d : Value) :
    Alike (α := α) b (series stop [d]) (document d) := by
  intro c r c'
  constructor
  · intro h
    cases h with
    | @seriesNext _ _ _ _ answer _ _ _ hd hstop hnil =>
      cases hnil
      exact Bool.eq_not.2 hstop ▸ hd
    | seriesStop hd => exact hd
    | seriesError hd => exact hd
  · intro h
    cases r with
    | error e => exact .seriesError h
    | ok answer =>
      by_cases hstop : answer = stop
      · subst hstop
        exact .seriesStop h
      · rw [Bool.eq_not.2 hstop] at h ⊢
        exact .seriesNext h (by simp) .seriesNil

/-! ### Groups -/

namespace Groups

variable {doc : Value} {k : Combinator} {ds : List Value}

theorem builds_iff (h : Groups doc k ds) {levels : Nat} :
    Builds b (levels + 1) doc ↔ ∀ d ∈ ds, Builds b levels d := by
  obtain ⟨members, w, rfl, hone, hfield, hds⟩ := h
  constructor
  · intro h
    obtain ⟨location, c, hc⟩ := h
    obtain ⟨_, heq, ⟨hnone, -⟩ | ⟨k', w', ds', cs, hother, hds', hcs, -⟩⟩ := b.condition_eq_ok.1 hc
    · cases heq
      rw [hone] at hnone
      cases hnone
    · cases heq
      rw [hone] at hother
      cases hother
      rw [ok_of_toOption (children_location _ _ k w) hds] at hds'
      cases hds'
      exact readAll_builds.1 ⟨cs, hcs⟩
  · intro hall
    obtain ⟨cs, hcs⟩ := readAll_builds.2 hall
    have hds' := ok_of_toOption (children_location "" ("" ++ "." ++ k.name) k w) hds
    exact ⟨"", _, b.condition_eq_ok.2
      ⟨members, rfl, .inr ⟨k, w, ds, cs, hone, hds', hcs, .group hfield⟩⟩⟩

/-- A group that builds has levels left for its documents. -/
theorem builds_inner (h : Groups doc k ds) {levels : Nat} (hb : Builds b levels doc) :
    ∀ d ∈ ds, Builds b levels d := by
  cases levels with
  | zero =>
    obtain ⟨_, _, hc⟩ := hb
    cases hc
  | succ levels =>
    intro d hd
    exact (h.builds_iff.1 hb d hd).mono (Nat.le_succ levels)

/-- A group builds where the group it is taken into built. -/
theorem builds_flat {inner flat : Value} {before among behind : List Value}
    (h : Groups doc k (before ++ inner :: behind)) (hinner : Groups inner k among)
    (hflat : Groups flat k (before ++ among ++ behind)) {levels : Nat}
    (hb : Builds b levels doc) : Builds b levels flat := by
  cases levels with
  | zero =>
    obtain ⟨_, _, hc⟩ := hb
    cases hc
  | succ levels =>
    have hall := h.builds_iff.1 hb
    simp only [List.forall_mem_append, List.forall_mem_cons] at hall
    obtain ⟨hbefore, hin, hbehind⟩ := hall
    rw [hflat.builds_iff]
    simp only [List.forall_mem_append]
    exact ⟨⟨hbefore, hinner.builds_inner hin⟩, hbehind⟩

theorem alike_series {stop : Bool} (hk : (k, stop) = (.allOf, false) ∨ (k, stop) = (.anyOf, true))
    (h : Groups doc k ds) : Alike (α := α) b (document doc) (series stop ds) := by
  intro c r c'
  rw [h.alike c r c']
  rcases hk with hk | hk <;> cases hk
  · exact reads_allOf
  · exact reads_anyOf

/-- A group of all, or of any, inside of another one of the same kind adds nothing. -/
theorem alike_flat {inner flat : Value} {before among behind : List Value}
    (hk : k = .allOf ∨ k = .anyOf) (h : Groups doc k (before ++ inner :: behind))
    (hinner : Groups inner k among) (hflat : Groups flat k (before ++ among ++ behind)) :
    Alike (α := α) b (document doc) (document flat) := by
  obtain ⟨stop, hstop⟩ : ∃ stop,
      (k, stop) = (Combinator.allOf, false) ∨ (k, stop) = (Combinator.anyOf, true) := by
    rcases hk with rfl | rfl
    · exact ⟨false, .inl rfl⟩
    · exact ⟨true, .inr rfl⟩
  have hmiddle : Alike (α := α) b (series stop [inner]) (series stop among) :=
    (alike_singleton stop inner).trans (hinner.alike_series hstop)
  have hparts : Alike (α := α) b (series stop (before ++ ([inner] ++ behind)))
      (series stop (before ++ (among ++ behind))) :=
    .append (.refl _) (.append hmiddle (.refl _))
  rw [List.append_assoc] at hflat
  exact ((h.alike_series hstop).trans hparts).trans (hflat.alike_series hstop).symm

theorem alike_not_not {inner d : Value} (h : Groups doc .not [inner])
    (hinner : Groups inner .not [d]) : Alike (α := α) b (document doc) (document d) := by
  intro c r c'
  rw [h.alike c r c', reads_not, hinner.alike, reads_not]
  cases r with
  | error e => exact Iff.rfl
  | ok answer =>
    show Reads b (document d) c (.ok (!!answer)) c' ↔ _
    rw [Bool.not_not]

theorem alike_when {d : Value} (h : Groups doc .when [d]) :
    Alike (α := α) b (document doc) (document d) := by
  intro c r c'
  rw [h.alike c r c', reads_when]

end Groups

/-! ### Conditions -/

/-- A document builds, and what it builds answers as `c` does: with the same truth value or
error, and with the same context behind it, which holds the reasons. -/
def AnswersAs (b : Builder) (d : Value) (c : Condition) : Prop :=
  ∃ c', b.build d = .ok c' ∧
    ∀ (α : Type) [Viewable α], (c'.evaluate : Evaluation α Bool) = c.evaluate

theorem answersAs_of_alike {d e : Value} {c : Condition} (h : b.build d = .ok c)
    (he : Builds b b.maxDepth e)
    (halike : ∀ (α : Type) [Viewable α], Alike (α := α) b (document d) (document e)) :
    AnswersAs b e c := by
  obtain ⟨c', hc'⟩ := he.at ""
  refine ⟨c', hc', ?_⟩
  intro α _
  refine Condition.evaluation_ext fun x => ?_
  have hreads : Reads b (document e) x (c'.evaluate.outcome x).1 (c'.evaluate.outcome x).2 :=
    (Condition.means_condition b.maxDepth hc' _ _ _).1 rfl
  exact ((Condition.means_condition b.maxDepth h _ _ _).2 ((halike α _ _ _).2 hreads)).symm

/-- **Conditions answer as their documents read.** Whatever is built from a document gives,
in every context, the answer or the error that the rules give, and leaves the reasons that
they leave; and so does its listing. Groups of one kind inside of each other, two negations
and an `if` can be taken away. -/
theorem build_reads (b : Builder) (doc : Value) (cond : Condition) (h : b.build doc = .ok cond) :
    (∀ (α : Type) [Viewable α] (c : Context α) (r : Except ConfigError Bool) (c' : Context α),
      cond.evaluate.run c = (r, c') ↔ Reads b (.document doc) c r c') ∧
    (∀ (α : Type) [Viewable α],
      (Condition.answers cond.listing).getLast? = some (cond.evaluate : Evaluation α Bool)) ∧
    (∀ k before inner among behind flat, k = .allOf ∨ k = .anyOf →
      Groups doc k (before ++ inner :: behind) → Groups inner k among →
      Groups flat k (before ++ among ++ behind) → AnswersAs b flat cond) ∧
    (∀ inner d, Groups doc .not [inner] → Groups inner .not [d] → AnswersAs b d cond) ∧
    (∀ d, Groups doc .when [d] → AnswersAs b d cond) := by
  have hdoc : Builds b b.maxDepth doc := ⟨"", cond, h⟩
  refine ⟨?_, ?_, ?_, ?_, ?_⟩
  · intro α _
    exact Condition.means_condition b.maxDepth h
  · intro α _
    exact Condition.answers_listing cond
  · intro k before inner among behind flat hk hg hinner hflat
    have hf : Builds b b.maxDepth flat := hg.builds_flat hinner hflat hdoc
    exact answersAs_of_alike h hf fun α _ => hg.alike_flat hk hinner hflat
  · intro inner d hg hinner
    have hd : Builds b b.maxDepth d :=
      hinner.builds_inner (hg.builds_inner hdoc inner List.mem_cons_self) d List.mem_cons_self
    exact answersAs_of_alike h hd fun α _ => hg.alike_not_not hinner
  · intro d hg
    have hd : Builds b b.maxDepth d := hg.builds_inner hdoc d List.mem_cons_self
    exact answersAs_of_alike h hd fun α _ => hg.alike_when

theorem build_reads_nested :
    let leaf (n : Int) : Value := .object [("value", .int n), ("equals", .int 1)]
    let allOf (ds : List Value) : Value := .object [("allOf", .array ds)]
    ∃ cond, (Builder.of Regex.engine {}).build (allOf [leaf 1, allOf [leaf 2, leaf 3]]) = .ok cond ∧
      AnswersAs (Builder.of Regex.engine {}) (allOf [leaf 1, leaf 2, leaf 3]) cond := by
  intro leaf allOf
  have hgroup (ds : List Value) : Groups (allOf ds) .allOf ds := by
    have hascii : Text.sameAscii "allOf" "field" = false := by decide +kernel
    exact ⟨_, _, rfl, rfl, by simp [member?, Value.member?, hascii], rfl⟩
  obtain ⟨cond, hcond⟩ :
      ∃ cond, (Builder.of Regex.engine {}).build (allOf [leaf 1, allOf [leaf 2, leaf 3]]) =
        .ok cond := by
    simp only [leaf, allOf]
    exact ⟨_, rfl⟩
  obtain ⟨-, -, hflat, -, -⟩ := build_reads _ _ cond hcond
  exact ⟨cond, hcond, hflat .allOf [leaf 1] _ [leaf 2, leaf 3] [] _ (.inl rfl)
    (hgroup _) (hgroup _) (hgroup _)⟩

end Sift
