import Sift.Proofs.Path.Precedence
import Sift.Proofs.Path.Reach
import Sift.Regex.Engine

/-! When a path is found.

A walk tells whether the path was found beside the values that it leads to, and every kind of
segment makes up its own answer. `landed` says what the answers come to: a path is found where
it leads to a value, or where a slice on the way meets an array, whatever the slice selects
there and whatever comes of it (`found_walk`). So the two can only differ in one way, and only
for a path with a slice.

`evaluate_reports` puts this together with what `evaluate` makes of a walk, and with the tokens
of the path, of which one that may lead to several values shows at whatever depth it stands. -/
namespace Sift.Path

variable {α : Type}

/-! ### Hits -/

namespace Hits

theorem found_ofOption {β : Type} (next : β → Hits α) (v : Option β) :
    (ofOption next v).found = v.toList.any fun u => (next u).found := by
  cases v with
  | none => rfl
  | some v => simp [ofOption]

theorem found_gather {β : Type} (next : β → Hits α) (vs : List β) :
    (gather (vs.map next)).found = vs.any fun u => (next u).found := by
  rw [gather, List.any_map]
  rfl

end Hits

variable [Viewable α]

/-! ### One segment, and all of them -/

/-- A slice meets an array. With a step of zero it meets nothing. -/
def Segment.landsOn : Segment → α → Bool
  | .slice _ _ step, v => step != 0 && View.isArray v
  | _, _ => false

/-- Some slice among the segments meets an array on the way from `v`. -/
def landed (o : QueryOptions) (root : α) : List Segment → α → Bool
  | [], _ => false
  | segment :: rest, v => segment.landsOn v || (segment.step o root v).any (landed o root rest)

theorem found_descend (next : α → Hits α) (name : String) (caseSensitive : Bool) (levels : Nat)
    (v : α) : (descend next name caseSensitive levels v).found =
      (descendants name caseSensitive levels v).any fun u => (next u).found := by
  induction levels generalizing v with
  | zero => rfl
  | succ levels ih =>
    unfold descend descendants
    split
    · rw [Hits.found_gather, List.any_flatMap]
      congr 1
      funext m
      split
      · rw [List.any_cons, ← ih]
        rfl
      · split
        · simp
        · exact ih m.2
    · rw [Hits.found_gather, List.any_flatMap]
      congr 1
      funext item
      split
      · rw [List.any_cons, ← ih]
        rfl
      · exact ih item

/-- A slice is found in an array before anything is made of its items. -/
theorem found_slice (next : α → Hits α) (v : α) (start stop : Option Int) (step : Int) :
    (slice next v start stop step).found =
      ((Segment.slice start stop step).landsOn v ||
        (sliced start stop step v).any fun u => (next u).found) := by
  rw [slice, sliced, Segment.landsOn, View.isArray_eq]
  cases View.count? v with
  | none => simp [Hits.none]
  | some count =>
    by_cases h : step = 0
    · simp [h, Hits.none]
    · simp [h]

/-- The first segment is found by itself, or by what the rest is from one of its values. -/
theorem found_walk_cons (o : QueryOptions) (root : α) (segment : Segment) (rest : List Segment)
    (v : α) : (walk o root (segment :: rest) v).found =
      (segment.landsOn v ||
        (segment.step o root v).any fun u => (walk o root rest u).found) := by
  cases segment with
  | root => simp [walk, Segment.step, Segment.landsOn]
  | current => simp [walk, Segment.step, Segment.landsOn]
  | member name marked => exact Hits.found_ofOption _ _
  | index i => exact Hits.found_ofOption _ _
  | indexWild => exact Hits.found_gather _ _
  | memberWild => exact Hits.found_gather _ _
  | descendant name marked => exact found_descend _ _ _ _ v
  | slice start stop step => exact found_slice _ v start stop step
  | indexes is => exact Hits.found_gather _ _
  | names ns => exact Hits.found_gather _ _
  | filter predicate => exact Hits.found_gather _ _

/-- **A path is found where it leads to a value, or where a slice meets an array.** -/
theorem found_walk (o : QueryOptions) (root : α) (segments : List Segment) (v : α) :
    (walk o root segments v).found = true ↔
      reach o root segments v ≠ [] ∨ landed o root segments v = true := by
  induction segments generalizing v with
  | nil => simp [walk, Hits.one, reach]
  | cons segment rest ih =>
    have hreach : reach o root (segment :: rest) v ≠ [] ↔
        ∃ u ∈ segment.step o root v, reach o root rest u ≠ [] := by
      rw [reach, ne_eq, List.flatMap_eq_nil_iff]
      simp only [Classical.not_forall, exists_prop, ne_eq]
    rw [found_walk_cons, landed, hreach]
    simp only [Bool.or_eq_true, List.any_eq_true, ih]
    constructor
    · rintro (hland | ⟨u, hu, hvalue | hland⟩)
      · exact .inr (.inl hland)
      · exact .inl ⟨u, hu, hvalue⟩
      · exact .inr (.inr ⟨u, hu, hland⟩)
    · rintro (⟨u, hu, hvalue⟩ | hland | ⟨u, hu, hland⟩)
      · exact .inr ⟨u, hu, .inl hvalue⟩
      · exact .inl hland
      · exact .inr ⟨u, hu, .inr hland⟩

/-- Only a path with a slice among its own segments lands. -/
theorem slice_of_landed {o : QueryOptions} {root : α} {segments : List Segment} {v : α}
    (h : landed o root segments v = true) :
    ∃ start stop step, Segment.slice start stop step ∈ segments := by
  induction segments generalizing v with
  | nil => cases h
  | cons segment rest ih =>
    rw [landed, Bool.or_eq_true, List.any_eq_true] at h
    rcases h with hland | ⟨u, -, hrest⟩
    · cases segment with
      | slice start stop step => exact ⟨start, stop, step, List.mem_cons_self⟩
      | _ => cases hland
    · obtain ⟨start, stop, step, hmem⟩ := ih hrest
      exact ⟨start, stop, step, List.mem_cons_of_mem _ hmem⟩

/-! ### Tokens -/

theorem isSequence_segment? {t : Token} {segment : Segment} (h : t.segment? = some segment) :
    segment.isSequence = t.isSequence := by
  cases t <;> cases h <;> rfl

omit [Viewable α] in
/-- Whatever stands in a filter stands behind the token that opens it, which is one of a
sequence itself. -/
theorem isSequence_compileSegments {s : Setting} {size : Nat} {ts : List Token}
    {segments : List Segment} (h : compileSegments s size ts = .ok segments) :
    segments.any Segment.isSequence = ts.any Token.isSequence := by
  induction ts generalizing segments with
  | nil =>
    rw [compileSegments_nil] at h
    cases h
    rfl
  | cons t rest ih =>
    by_cases ht : t = .startFilter
    · subst ht
      obtain ⟨n, p, tail, -, -, -, rfl⟩ := (compileSegments_filter s size rest segments).1 h
      rfl
    · obtain ⟨segment, tail, hsegment, htail, rfl⟩ :=
        (compileSegments_cons s size ht rest segments).1 h
      rw [List.any_cons, List.any_cons, isSequence_segment? hsegment, ih htail]

/-! ### What is reported -/

/-- What a walk has to be for a report on it: nothing is reported only where nothing was
reached, a single value where it is all there is, and a sequence is empty only for a path
with a slice among its own segments. -/
def Reports (p : Program) (hits : Hits α) : Option (Selection α) → Prop
  | none => hits.found = false ∧ hits.values = []
  | some (.scalar v) => p.isSequence = false ∧ hits.found = true ∧ hits.values = [v]
  | some (.sequence vs) => p.isSequence = true ∧ hits.found = true ∧ hits.values = vs ∧
      (vs = [] → ∃ start stop step, Segment.slice start stop step ∈ p.segments)

/-- A path without sequences is not found without its value. -/
theorem landed_of_scalar {o : QueryOptions} {root : α} {p : Program} (h : p.isSequence = false)
    (v : α) : landed o root p.segments v = false := by
  rw [Bool.eq_false_iff]
  intro hland
  obtain ⟨start, stop, step, hmem⟩ := slice_of_landed hland
  have hsequence := List.any_eq_false.1 h _ hmem
  exact hsequence rfl

theorem found_resolve (o : QueryOptions) (root : α) (p : Program) (v : α) :
    (resolve o root p v).found = true ↔
      (resolve o root p v).values ≠ [] ∨ landed o root p.segments v = true := by
  rw [values_resolve]
  cases p with
  | mk source tokens segments => exact found_walk o root segments v

/-- A path without sequences that is found leads to exactly one value. -/
theorem values_of_scalar {o : QueryOptions} {root : α} {p : Program} {v : α}
    (h : p.isSequence = false) (hfound : (resolve o root p v).found = true) :
    ∃ u, (resolve o root p v).values = [u] := by
  have hle : (resolve o root p v).values.length ≤ 1 := by
    rw [values_resolve]
    exact reach_length_le o root h v
  have hne : (resolve o root p v).values ≠ [] := by
    refine ((found_resolve o root p v).1 hfound).resolve_right ?_
    rw [landed_of_scalar h v]
    exact Bool.false_ne_true
  match hvs : (resolve o root p v).values with
  | [] => exact absurd hvs hne
  | [u] => exact ⟨u, rfl⟩
  | _ :: _ :: _ =>
    rw [hvs, List.length_cons, List.length_cons] at hle
    omega

theorem reports_evaluate (o : QueryOptions) (root : α) (p : Program) :
    Reports p (resolve o root p root) (p.evaluate o root) := by
  rw [Program.evaluate]
  cases hf : (resolve o root p root).found with
  | false =>
    simp only [Bool.not_false, if_true]
    exact ⟨hf, resolve_found o root p root hf⟩
  | true =>
    simp only [Bool.not_true, Bool.false_eq_true, if_false]
    cases hs : p.isSequence with
    | true =>
      rw [if_pos rfl]
      refine ⟨hs, hf, rfl, fun hnil => ?_⟩
      have hland : landed o root p.segments root = true :=
        ((found_resolve o root p root).1 hf).resolve_left fun hne => hne hnil
      exact slice_of_landed hland
    | false =>
      obtain ⟨u, hu⟩ := values_of_scalar hs hf
      rw [if_neg Bool.false_ne_true, hu]
      exact ⟨hs, hf, hu⟩

/-- **Found, single value and sequence go together**, for every compiled path. What is
reported of a document is what the walk has found in it; a walk from any value, as inside of
a filter, has values unless it is not found or a slice has met an array, and no more than one
unless the path is a sequence; and a path is a sequence where one of its tokens is, on the
outside or in any filter. -/
theorem evaluate_reports {s : Setting} {ts : List Token} {p : Program}
    (h : compileTokens s ts = .ok p) (o : QueryOptions) (root v : α) :
    Reports p (resolve o root p root) (p.evaluate o root) ∧
      ((resolve o root p v).found = false → (resolve o root p v).values = []) ∧
      (p.isSequence = false → (resolve o root p v).found = true →
        ∃ u, (resolve o root p v).values = [u]) ∧
      ((resolve o root p v).found = true ↔
        (resolve o root p v).values ≠ [] ∨ landed o root p.segments v = true) ∧
      ((∀ start stop step, Segment.slice start stop step ∉ p.segments) →
        ((resolve o root p v).found = true ↔ (resolve o root p v).values ≠ [])) ∧
      (p.isSequence = true ↔ ∃ t ∈ p.tokens, t.isSequence = true) := by
  have hfound := found_resolve o root p v
  refine ⟨reports_evaluate o root p, resolve_found o root p v, fun hs => values_of_scalar hs,
    hfound, fun hslice => ?_, ?_⟩
  · rw [hfound, or_iff_left]
    intro hland
    obtain ⟨start, stop, step, hmem⟩ := slice_of_landed hland
    exact hslice start stop step hmem
  · obtain ⟨segments, hs, rfl⟩ := (compileTokens_eq_ok s ts p).1 h
    show segments.any Segment.isSequence = true ↔ ∃ t ∈ ts, t.isSequence = true
    rw [isSequence_compileSegments hs, List.any_eq_true]

/-- A slice is found where it selects nothing, as the condition of a filter and behind it. -/
theorem evaluate_reports_empty :
    let s : Setting := ⟨"$.a[?@[5::]][5::]", Regex.engine, defaultSizeLimit⟩
    let slice : Token := .slice (some 5) none none
    let ts : List Token :=
      [.root, .member "a" false, .startFilter, .current, slice, .endFilter, slice]
    let inner := Program.mk s.source [.current, slice] [.current, .slice (some 5) none 1]
    let p := Program.mk s.source ts
      [.root, .member "a" false, .filter (.resolves inner), .slice (some 5) none 1]
    let o : QueryOptions := ⟨false, 100, ⟨0, 0⟩, Regex.engine, defaultSizeLimit⟩
    let v : Value := .object [("a", .array [.int 1, .array [.int 2]])]
    compileTokens s ts = .ok p ∧ p.evaluate o v = some (.sequence []) ∧
      Reports p (resolve o v p v) (some (.sequence [])) := by
  intro s slice ts inner p o v
  have hsource : Text.trim s.source = s.source := by decide +kernel
  have hinner : Writes s (.path inner) [.current, slice] := by
    have hpath := Writes.path (s := s) (t := .current) rfl rfl
      (.selector (t := slice) rfl rfl .nil)
    rwa [hsource] at hpath
  have hfilter : compilePredicate s [.current, slice] = .ok (.resolves inner) :=
    compilePredicate_writes (.conjunction (.term (.relation (Nat.zero_le _) (.resolves hinner))))
  have hp : compileTokens s ts = .ok p := by
    refine (compileTokens_eq_ok s ts p).2 ⟨p.segments, ?_, by rw [hsource]; rfl⟩
    refine (compileSegments_cons s _ (by decide) _ _).2 ⟨_, _, rfl, ?_, rfl⟩
    refine (compileSegments_cons s _ (by decide) _ _).2 ⟨_, _, rfl, ?_, rfl⟩
    refine (compileSegments_filter s _ _ _).2 ⟨2, _, _, rfl, hfilter, ?_, rfl⟩
    exact (compileSegments_cons s _ (by decide) _ _).2
      ⟨_, _, rfl, compileSegments_nil s _, rfl⟩
  have hempty : p.evaluate o v = some (.sequence []) := rfl
  exact ⟨hp, hempty, hempty ▸ (evaluate_reports hp o v v).1⟩

end Sift.Path
