import Mathlib.Data.List.Flatten
import Sift.Proofs.Path.Found
import Sift.Regex.Engine

/-! Paths find no less where case does not count.

An exact name goes before any other spelling of it, so a member that is found where case counts
is the one that is found where it does not (`field?_ignoring`). What is added are the members
that only another spelling leads to. They come between the others, and each of them hands its
own values on; a union gains the entries that did not resolve before. So the values of a path
only become more, and the ones there were keep their order (`reach_sublist`).

Three kinds of segments are left out, and for a reason. A mark turns the matter round. A search
does not look inside of a member of the name, so the more members have it, the less is searched.
And in a filter a comparison may fail for a name that is found. -/
namespace Sift.Path

variable {α : Type} [Viewable α]

/-- The same settings, with the choice whether case counts. -/
def QueryOptions.withCase (o : QueryOptions) (caseSensitive : Bool) : QueryOptions :=
  { o with caseSensitive }

/-- Segments that only case can keep from a value: no marked names, no searches, no filters. -/
def Segment.isPlain : Segment → Bool
  | .member _ marked => !marked
  | .descendant .. | .filter _ => false
  | _ => true

/-- A member that is found by its exact name is found by that name in any case. -/
theorem field?_ignoring {v found : α} {name : String} (h : View.field? v name true = some found) :
    View.field? v name false = some found := by
  rw [View.field?] at h ⊢
  cases hnamed : Viewable.named? v name with
  | none =>
    rw [hnamed] at h
    cases h
  | some exact =>
    rw [hnamed] at h
    exact h

/-- An entry of a union resolves to what it resolved to before, or for the first time. -/
theorem filterMap_sublist {β γ : Type} {f g : β → Option γ}
    (h : ∀ x y, f x = some y → g x = some y) (xs : List β) :
    (xs.filterMap f).Sublist (xs.filterMap g) := by
  induction xs with
  | nil => exact .slnil
  | cons x xs ih =>
    cases hf : f x with
    | none =>
      rw [List.filterMap_cons_none hf]
      exact ih.trans ((List.sublist_cons_self x xs).filterMap g)
    | some y =>
      rw [List.filterMap_cons_some hf, List.filterMap_cons_some (h x y hf)]
      exact ih.cons_cons y

/-! ### One segment, and all of them -/

variable (o : QueryOptions) (root : α)

theorem step_sublist {segment : Segment} (h : segment.isPlain = true) (v : α) :
    (segment.step (o.withCase true) root v).Sublist
      (segment.step (o.withCase false) root v) := by
  cases segment with
  | member name marked =>
    obtain rfl : marked = false := by simpa [Segment.isPlain] using h
    show (View.field? v name true).toList.Sublist (View.field? v name false).toList
    cases hfield : View.field? v name true with
    | none => exact List.nil_sublist _
    | some found => simp only [field?_ignoring hfield, List.Sublist.refl]
  | names ns => exact filterMap_sublist (fun _ _ => field?_ignoring) ns
  | descendant name marked => cases h
  | filter predicate => cases h
  | _ => exact .refl _

/-- The values that are reached where case counts are among those that are reached where it does
not, in the same order. -/
theorem reach_sublist {segments : List Segment} (h : ∀ segment ∈ segments, segment.isPlain = true)
    (v : α) :
    (reach (o.withCase true) root segments v).Sublist
      (reach (o.withCase false) root segments v) := by
  induction segments generalizing v with
  | nil => exact .refl _
  | cons segment rest ih =>
    obtain ⟨hsegment, hrest⟩ := List.forall_mem_cons.1 h
    rw [reach, reach]
    exact (List.Sublist.flatMap_right _ fun u _ => ih hrest u).trans
      ((step_sublist o root hsegment v).flatMap _)

/-- An array that a slice meets where case counts, it also meets where it does not. -/
theorem landed_ignoring {segments : List Segment}
    (h : ∀ segment ∈ segments, segment.isPlain = true) {v : α}
    (hland : landed (o.withCase true) root segments v = true) :
    landed (o.withCase false) root segments v = true := by
  induction segments generalizing v with
  | nil => cases hland
  | cons segment rest ih =>
    obtain ⟨hsegment, hrest⟩ := List.forall_mem_cons.1 h
    rw [landed, Bool.or_eq_true, List.any_eq_true] at hland ⊢
    refine hland.imp_right fun hstep => ?_
    obtain ⟨u, hu, hland⟩ := hstep
    exact ⟨u, (step_sublist o root hsegment v).subset hu, ih hrest hland⟩

/-! ### Programs -/

variable {p : Program}

theorem resolve_sublist (h : ∀ segment ∈ p.segments, segment.isPlain = true) (v : α) :
    (resolve (o.withCase true) root p v).values.Sublist
      (resolve (o.withCase false) root p v).values := by
  rw [values_resolve, values_resolve]
  exact reach_sublist o root h v

theorem found_ignoring (h : ∀ segment ∈ p.segments, segment.isPlain = true) {v : α}
    (hfound : (resolve (o.withCase true) root p v).found = true) :
    (resolve (o.withCase false) root p v).found = true := by
  rw [found_resolve] at hfound ⊢
  refine hfound.imp (fun hne hnil => hne ?_) (landed_ignoring o root h)
  have hsublist := resolve_sublist o root h v
  rw [hnil] at hsublist
  exact List.sublist_nil.1 hsublist

/-- A path is reported where its walk is found. -/
theorem isSome_evaluate : (p.evaluate o root).isSome = (resolve o root p root).found := by
  have hreports := reports_evaluate o root p
  cases hevaluate : p.evaluate o root with
  | none =>
    rw [hevaluate] at hreports
    exact hreports.1.symm
  | some selection =>
    rw [hevaluate] at hreports
    cases selection with
    | scalar v => exact hreports.2.1.symm
    | sequence vs => exact hreports.2.1.symm

/-- A path without sequences is reported as the only value that it leads to. -/
theorem evaluate_eq_scalar (hscalar : p.isSequence = false) (selection : Selection α) :
    p.evaluate o root = some selection ↔
      ∃ v, selection = .scalar v ∧ (resolve o root p root).values = [v] := by
  constructor
  · intro h
    have hreports := reports_evaluate o root p
    rw [h] at hreports
    cases selection with
    | scalar v => exact ⟨v, rfl, hreports.2.2⟩
    | sequence vs =>
      have hsequence : p.isSequence = true := hreports.1
      rw [hscalar] at hsequence
      cases hsequence
  · intro h
    obtain ⟨v, rfl, hvalues⟩ := h
    have hfound : (resolve o root p root).found = true :=
      (found_resolve o root p root).2 (.inl (hvalues ▸ List.cons_ne_nil v []))
    rw [Program.evaluate]
    simp only [hfound, hscalar, hvalues, Bool.not_true, Bool.false_eq_true, if_false]
    rfl

/-- **Ignoring case never loses a hit.** Of a path with plain segments only, the values that are
selected where case counts are among those that are selected where it does not, in the same
order and as often; the path is found there if it is found here; and if it leads to one value at
most, that is the same value. This holds of every document, whatever represents it. -/
theorem ignoring_case_keeps_hits (p : Program)
    (h : ∀ segment ∈ p.segments, segment.isPlain = true) (o : QueryOptions) (root : α) :
    (p.select (o.withCase true) root).Sublist (p.select (o.withCase false) root) ∧
      ((p.evaluate (o.withCase true) root).isSome = true →
        (p.evaluate (o.withCase false) root).isSome = true) ∧
      (p.isSequence = false → ∀ selection, p.evaluate (o.withCase true) root = some selection →
        p.evaluate (o.withCase false) root = some selection) := by
  refine ⟨?_, fun hsome => ?_, fun hscalar selection hselection => ?_⟩
  · rw [select_eq_reach, select_eq_reach]
    exact reach_sublist o root h root
  · rw [isSome_evaluate] at hsome ⊢
    exact found_ignoring o root h hsome
  · obtain ⟨v, rfl, hvalues⟩ := (evaluate_eq_scalar _ root hscalar selection).1 hselection
    have hfound : (resolve (o.withCase true) root p root).found = true := by
      rw [← isSome_evaluate, hselection]
      rfl
    obtain ⟨u, hu⟩ := values_of_scalar hscalar (found_ignoring o root h hfound)
    have hsame := resolve_sublist o root h root
    rw [hvalues, hu, List.singleton_sublist, List.mem_singleton] at hsame
    subst hsame
    exact (evaluate_eq_scalar _ root hscalar _).2 ⟨v, rfl, hu⟩

/-- Several members have a name up to case. The union has an entry that only resolves where case
does not count, and its items come between the others; the single path finds the exact name. -/
theorem ignoring_case_keeps_hits_union :
    let p := Program.mk "$[*]['a', 'B', 'c'][0:2]"
      [.root, .indexWild, .names ["a", "B", "c"], .slice (some 0) (some 2) none]
      [.root, .indexWild, .names ["a", "B", "c"], .slice (some 0) (some 2) 1]
    let q := Program.mk "$[0].a[1]" [.root, .index 0, .member "a" false, .index 1]
      [.root, .index 0, .member "a" false, .index 1]
    let o : QueryOptions := ⟨false, 100, ⟨0, 0⟩, Regex.engine, defaultSizeLimit⟩
    let v : Value := .array [.object [("A", .array [.int 1]), ("a", .array [.int 2, .int 3]),
      ("b", .array [.int 4]), ("c", .array [.int 5, .int 6, .int 7])]]
    ((∀ segment ∈ p.segments, segment.isPlain = true) ∧
      p.select (o.withCase true) v = [.int 2, .int 3, .int 5, .int 6] ∧
      p.select (o.withCase false) v = [.int 2, .int 3, .int 4, .int 5, .int 6] ∧
      (p.select (o.withCase true) v).Sublist (p.select (o.withCase false) v)) ∧
    (∀ segment ∈ q.segments, segment.isPlain = true) ∧
      q.evaluate (o.withCase true) v = some (.scalar (.int 3)) ∧
      q.evaluate (o.withCase false) v = some (.scalar (.int 3)) := by
  intro p q o v
  have hp : ∀ segment ∈ p.segments, segment.isPlain = true := by
    simp [p, Program.segments, Segment.isPlain]
  have hq : ∀ segment ∈ q.segments, segment.isPlain = true := by
    simp [q, Program.segments, Segment.isPlain]
  have hexact : p.select (o.withCase true) v = [.int 2, .int 3, .int 5, .int 6] := rfl
  have hloose : p.select (o.withCase false) v = [.int 2, .int 3, .int 4, .int 5, .int 6] := rfl
  have hfound : q.evaluate (o.withCase true) v = some (.scalar (.int 3)) := rfl
  exact ⟨⟨hp, hexact, hloose, (ignoring_case_keeps_hits p hp o v).1⟩, hq, hfound,
    (ignoring_case_keeps_hits q hq o v).2.2 rfl _ hfound⟩

end Sift.Path
