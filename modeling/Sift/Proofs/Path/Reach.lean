import Sift.Path.Evaluate

/-! What a path reaches.

`Segment.step` says which values one segment leads to from one value, and `reach`
composes the segments of a path: every value reached so far hands its own values on,
one after the other. Nothing is said there of whether the path is found.

`walk_reaches`: the values of a walk are those that its segments reach, in the same
order and as often, whether the path is walked on its own or inside a filter; and a
path may be cut anywhere. A path that is not found has reached nothing (`walk_found`),
and a path without sequences reaches one value at most, so what `evaluate` and `select`
make of a walk loses none. -/
namespace Sift.Path

variable {α β : Type}

/-! ### Hits -/

namespace Hits

/-- Values only come with success. -/
def Honest (h : Hits α) : Prop := h.found = false → h.values = []

theorem honest_none : Honest (none : Hits α) := fun _ => rfl

theorem honest_one (v : α) : Honest (one v) := by
  intro h
  cases h

theorem honest_join {a b : Hits α} (ha : Honest a) (hb : Honest b) : Honest (join a b) := by
  intro h
  obtain ⟨h₁, h₂⟩ := Bool.or_eq_false_iff.1 h
  show a.values ++ b.values = []
  rw [ha h₁, hb h₂, List.append_nil]

theorem honest_gather {hits : List (Hits α)} (h : ∀ x ∈ hits, Honest x) :
    Honest (gather hits) := by
  intro hf
  apply List.flatMap_eq_nil_iff.2
  intro x hx
  exact h x hx (by simpa using List.any_eq_false.1 hf x hx)

theorem honest_ofOption {f : β → Hits α} (h : ∀ v, Honest (f v)) (v : Option β) :
    Honest (ofOption f v) := by
  cases v with
  | none => exact honest_none
  | some v => exact h v

theorem values_ofOption (f : β → Hits α) (v : Option β) :
    (ofOption f v).values = v.toList.flatMap fun u => (f u).values := by
  cases v with
  | none => rfl
  | some v => simp [ofOption]

theorem values_gather (f : β → Hits α) (vs : List β) :
    (gather (vs.map f)).values = vs.flatMap fun u => (f u).values := by
  simp [gather, List.flatMap_map]

end Hits

/-- A list of one value at most is its head. -/
theorem toList_head? {vs : List α} (h : vs.length ≤ 1) : vs.head?.toList = vs := by
  match vs, h with
  | [], _ => rfl
  | [_], _ => rfl

variable [Viewable α]

/-! ### One segment, and all of them -/

/-- The values below `v` that a descendant segment selects, a container before what is
inside of it. A member of the name is selected and not searched; the name `*` selects
every member and item, and searches them all. -/
def descendants (name : String) (caseSensitive : Bool) : Nat → α → List α
  | 0, _ => []
  | levels + 1, v =>
    if View.isObject v then
      (View.members v).flatMap fun m =>
        if name = "*" then m.2 :: descendants name caseSensitive levels m.2
        else if sameName m.1 name caseSensitive then [m.2]
        else descendants name caseSensitive levels m.2
    else
      (View.items v).flatMap fun item =>
        if name = "*" then item :: descendants name caseSensitive levels item
        else descendants name caseSensitive levels item

/-- The items that a slice selects. -/
def sliced (start stop : Option Int) (step : Int) (v : α) : List α :=
  match View.count? v with
  | none => []
  | some count => if step = 0 then [] else sliceItems v count start stop step

/-- The values that one segment leads to from `v`, in a document `root`. -/
def Segment.step (o : QueryOptions) (root : α) : Segment → α → List α
  | .root, _ => [root]
  | .current, v => [v]
  | .member name marked, v => (View.field? v name (o.caseSensitive != marked)).toList
  | .index i, v => (View.item? v i).toList
  | .indexWild, v => View.children v
  | .memberWild, v => View.children v
  | .descendant name marked, v =>
    descendants name (o.caseSensitive != marked) (o.maxDepth + 1) v
  | .slice start stop step, v => sliced start stop step v
  | .indexes is, v => is.filterMap (View.item? v)
  | .names ns, v => ns.filterMap fun n => View.field? v n o.caseSensitive
  | .filter predicate, v => (View.children v).filter (test o root predicate)

/-- The values that the segments lead to from `v`, one after the other. -/
def reach (o : QueryOptions) (root : α) : List Segment → α → List α
  | [], v => [v]
  | segment :: rest, v => (segment.step o root v).flatMap (reach o root rest)

theorem reach_append (o : QueryOptions) (root : α) (front back : List Segment) (v : α) :
    reach o root (front ++ back) v = (reach o root front v).flatMap (reach o root back) := by
  induction front generalizing v with
  | nil => simp [reach]
  | cons segment rest ih =>
    have hrest : reach o root (rest ++ back) =
        fun u => (reach o root rest u).flatMap (reach o root back) := funext ih
    rw [List.cons_append, reach, reach, hrest, List.flatMap_assoc]

/-! ### The segments with a traversal of their own -/

/-- A search hands each value that it selects on to the rest of the path. -/
theorem values_descend (next : α → Hits α) (name : String) (caseSensitive : Bool)
    (levels : Nat) (v : α) :
    (descend next name caseSensitive levels v).values =
      (descendants name caseSensitive levels v).flatMap fun u => (next u).values := by
  induction levels generalizing v with
  | zero => rfl
  | succ levels ih =>
    unfold descend descendants
    split
    · rw [List.flatMap_assoc, Hits.values_gather]
      congr 1
      funext m
      split
      · simp [Hits.join, ih]
      · split
        · simp
        · exact ih m.2
    · rw [List.flatMap_assoc, Hits.values_gather]
      congr 1
      funext item
      split
      · simp [Hits.join, ih]
      · exact ih item

theorem values_slice (next : α → Hits α) (v : α) (start stop : Option Int) (step : Int) :
    (slice next v start stop step).values =
      (sliced start stop step v).flatMap fun u => (next u).values := by
  unfold slice sliced
  cases View.count? v with
  | none => rfl
  | some count =>
    by_cases h : step = 0
    · simp only [if_pos h]
      rfl
    · simp only [if_neg h]

theorem honest_descend {next : α → Hits α} (hn : ∀ u, (next u).Honest) (name : String)
    (caseSensitive : Bool) (levels : Nat) (v : α) :
    (descend next name caseSensitive levels v).Honest := by
  induction levels generalizing v with
  | zero => exact Hits.honest_none
  | succ levels ih =>
    unfold descend
    split
    · apply Hits.honest_gather
      intro x hx
      obtain ⟨m, -, rfl⟩ := List.mem_map.1 hx
      split
      · exact Hits.honest_join (hn m.2) (ih m.2)
      · split
        · exact hn m.2
        · exact ih m.2
    · apply Hits.honest_gather
      intro x hx
      obtain ⟨item, -, rfl⟩ := List.mem_map.1 hx
      split
      · exact Hits.honest_join (hn item) (ih item)
      · exact ih item

theorem honest_slice (next : α → Hits α) (v : α) (start stop : Option Int) (step : Int) :
    (slice next v start stop step).Honest := by
  unfold slice
  cases View.count? v with
  | none => exact Hits.honest_none
  | some count =>
    by_cases h : step = 0
    · simp only [if_pos h]
      exact Hits.honest_none
    · simp only [if_neg h]
      intro hf
      cases hf

/-! ### Walks -/

/-- The first segment of a walk takes its step, and the rest goes on from each value. -/
theorem values_walk_cons (o : QueryOptions) (root : α) (segment : Segment)
    (rest : List Segment) (v : α) :
    (walk o root (segment :: rest) v).values =
      (segment.step o root v).flatMap fun u => (walk o root rest u).values := by
  cases segment with
  | root => simp [walk, Segment.step]
  | current => simp [walk, Segment.step]
  | member name marked => exact Hits.values_ofOption _ _
  | index i => exact Hits.values_ofOption _ _
  | indexWild => exact Hits.values_gather _ _
  | memberWild => exact Hits.values_gather _ _
  | descendant name marked => exact values_descend _ _ _ _ v
  | slice start stop step => exact values_slice _ v _ _ _
  | indexes is => exact Hits.values_gather _ _
  | names ns => exact Hits.values_gather _ _
  | filter predicate => exact Hits.values_gather _ _

theorem values_walk (o : QueryOptions) (root : α) (segments : List Segment) (v : α) :
    (walk o root segments v).values = reach o root segments v := by
  induction segments generalizing v with
  | nil => rfl
  | cons segment rest ih =>
    rw [values_walk_cons, reach]
    congr 1
    funext u
    exact ih u

/-- A path that is not found has no values. -/
theorem walk_found (o : QueryOptions) (root : α) (segments : List Segment) (v : α) :
    (walk o root segments v).Honest := by
  have gathered (rest : List Segment) (ih : ∀ u, (walk o root rest u).Honest) (us : List α) :
      (Hits.gather (us.map (walk o root rest))).Honest := by
    apply Hits.honest_gather
    intro x hx
    obtain ⟨u, -, rfl⟩ := List.mem_map.1 hx
    exact ih u
  induction segments generalizing v with
  | nil => exact Hits.honest_one v
  | cons segment rest ih =>
    cases segment with
    | root => exact ih root
    | current => exact ih v
    | member name marked => exact Hits.honest_ofOption ih _
    | index i => exact Hits.honest_ofOption ih _
    | indexWild => exact gathered rest ih _
    | memberWild => exact gathered rest ih _
    | descendant name marked => exact honest_descend ih _ _ _ v
    | slice start stop step => exact honest_slice _ v _ _ _
    | indexes is => exact gathered rest ih _
    | names ns => exact gathered rest ih _
    | filter predicate => exact gathered rest ih _

/-- A segment that is no sequence leads to one value at most. -/
theorem step_length_le (o : QueryOptions) (root : α) {segment : Segment}
    (h : segment.isSequence = false) (v : α) : (segment.step o root v).length ≤ 1 := by
  cases segment with
  | root => exact Nat.le_refl 1
  | current => exact Nat.le_refl 1
  | member name marked => exact Option.length_toList_le
  | index i => exact Option.length_toList_le
  | _ => cases h

theorem reach_length_le (o : QueryOptions) (root : α) {segments : List Segment}
    (h : segments.any Segment.isSequence = false) (v : α) :
    (reach o root segments v).length ≤ 1 := by
  induction segments generalizing v with
  | nil => exact Nat.le_refl 1
  | cons segment rest ih =>
    rw [List.any_cons, Bool.or_eq_false_iff] at h
    have hstep := step_length_le o root h.1 v
    rw [reach]
    match hs : segment.step o root v with
    | [] => simp
    | [u] => simpa using ih h.2 u
    | _ :: _ :: _ =>
      rw [hs, List.length_cons, List.length_cons] at hstep
      omega

/-! ### Programs -/

theorem values_resolve (o : QueryOptions) (root : α) (p : Program) (v : α) :
    (resolve o root p v).values = reach o root p.segments v := by
  cases p with
  | mk source tokens segments => exact values_walk o root segments v

theorem resolve_found (o : QueryOptions) (root : α) (p : Program) (v : α) :
    (resolve o root p v).Honest := by
  cases p with
  | mk source tokens segments => exact walk_found o root segments v

theorem select_eq_reach (p : Program) (o : QueryOptions) (root : α) :
    p.select o root = reach o root p.segments root := by
  have hvalues := values_resolve o root p root
  unfold Program.select Program.evaluate
  cases hf : (resolve o root p root).found with
  | false => simp [hf, ← hvalues, resolve_found o root p root hf]
  | true =>
    cases hs : p.isSequence with
    | true => simp [hf, hvalues, Selection.toList]
    | false =>
      have hl : (reach o root p.segments root).length ≤ 1 := reach_length_le o root hs root
      rw [← hvalues] at hl ⊢
      simp only [hf, Bool.not_true, Bool.false_eq_true, if_false]
      rw [← toList_head? hl]
      cases (resolve o root p root).values.head? with
      | none => rfl
      | some v => rfl

/-- What the values of a path are where it gives a selection, or none. -/
def Selects (selection : Option (Selection α)) (values : List α) : Prop :=
  match selection with
  | none => values = []
  | some (.scalar v) => values = [v]
  | some (.sequence vs) => values = vs

/-- **A walk has the values that its segments reach**, in order and as often, also
where the path is an operand in a filter and starts elsewhere than at the root; so have
the selection and the list that are made of it. Whatever way the path is cut in two, the
back part walked from each value of the front part gives the values of the whole. -/
theorem walk_reaches (o : QueryOptions) (root : α) :
    (∀ segments v, (walk o root segments v).values = reach o root segments v) ∧
      (∀ (p : Program) v, (resolve o root p v).values = reach o root p.segments v) ∧
      (∀ p : Program, Selects (p.evaluate o root) (reach o root p.segments root) ∧
        p.select o root = reach o root p.segments root) ∧
      ∀ front back v, (walk o root (front ++ back) v).values =
        (walk o root front v).values.flatMap fun u => (walk o root back u).values := by
  refine ⟨values_walk o root, values_resolve o root, fun p => ?_, fun front back v => ?_⟩
  · have hselect := select_eq_reach p o root
    refine ⟨?_, hselect⟩
    rw [← hselect]
    unfold Selects Program.select
    match p.evaluate o root with
    | none => rfl
    | some (.scalar v) => rfl
    | some (.sequence vs) => rfl
  · simp only [values_walk, reach_append]

end Sift.Path
