import Mathlib.Data.List.Forall2
import Mathlib.Data.List.Nodup
import Sift.Proofs.Path.Found
import Sift.Regex.Engine

/-! What a slice selects.

A slice counts up from its start, or down, until it reaches its stop or the end of the array.
Going up, negative bounds count from the end of the array, and are turned into places before
the loop begins. Going down they are not: the running index is what was written, a negative
one means an item counted from the end, and it is compared as it is with the stop. So a slice
down from the front has to end at zero, where the next index would mean the last item.

`Continues` is what the loop asks of an index. One round takes the item there and goes on with
the sum of index and step, also where that sum does not fit 64 bits (`sliceFrom_next`), since no
number beyond them is the index of an item. A run of the loop is the progression of these
indexes (`sliceFrom_run`), and what is left is arithmetic: for each direction, the numbers that
continue are those that `SliceIndexes` names. -/
namespace Sift.Path

variable {α : Type}

/-! ### Progressions -/

/-- The numbers `i`, `i + step`, … as long as they are within. -/
inductive Progression (step : Int) (within : Int → Prop) : Int → List Int → Prop where
  | ended {i : Int} : ¬within i → Progression step within i []
  | next {i : Int} {rest : List Int} : within i → Progression step within (i + step) rest →
      Progression step within i (i :: rest)

namespace Progression

variable {step i : Int} {within within' : Int → Prop} {indexes : List Int}

theorem forall_within (h : Progression step within i indexes) : ∀ j ∈ indexes, within j := by
  induction h with
  | ended _ => simp
  | next hi _ ih => exact List.forall_mem_cons.2 ⟨hi, ih⟩

theorem eq_nil (h : Progression step within i indexes) (hi : ¬within i) : indexes = [] := by
  cases h with
  | ended _ => rfl
  | next h _ => exact absurd h hi

theorem beyond_of_mem (h : Progression step within i indexes) :
    ∀ j ∈ indexes, (0 < step → i ≤ j) ∧ (step < 0 → j ≤ i) := by
  induction h with
  | ended _ => simp
  | next _ _ ih =>
    refine List.forall_mem_cons.2 ⟨⟨fun _ => Int.le_refl _, fun _ => Int.le_refl _⟩, ?_⟩
    intro j hj
    have := ih j hj
    omega

theorem nodup (h : Progression step within i indexes) (hs : step ≠ 0) : indexes.Nodup := by
  induction h with
  | ended _ => exact .nil
  | next _ hrest ih =>
    refine List.nodup_cons.2 ⟨fun hmem => ?_, ih⟩
    have := hrest.beyond_of_mem _ hmem
    omega

/-- Two conditions give the same progression where they agree on a set of numbers that the
progression does not leave. -/
theorem congr (good : Int → Prop) (hgood : ∀ j, good j → within j → good (j + step))
    (hiff : ∀ j, good j → (within j ↔ within' j)) (h : Progression step within i indexes)
    (hi : good i) : Progression step within' i indexes := by
  induction h with
  | ended hout => exact .ended fun hin => hout ((hiff _ hi).2 hin)
  | next hin _ ih => exact .next ((hiff _ hi).1 hin) (ih (hgood _ hi hin))

end Progression

/-! ### The indexes of a slice -/

/-- A number below zero counts from the end of `n` items. -/
def fromEnd (n : Nat) (i : Int) : Int := if i < 0 then i + n else i

/-- The indexes of a slice of `n` items, by its direction. Going up they are places in the
array. Going down they are as written: from the front where the start is zero or more, and
from the end where it is below zero or is left out. -/
structure SliceIndexes (n : Nat) (start stop : Option Int) (step : Int)
    (indexes : List Int) : Prop where
  up : 0 < step → Progression step (fun i => i < n ∧ ∀ s ∈ stop, i < fromEnd n s)
    (start.elim 0 fun s => max (fromEnd n s) 0) indexes
  beyond : step < 0 → ∀ s ∈ start, n ≤ s → indexes = []
  front : step < 0 → ∀ s ∈ start, 0 ≤ s → s < n →
    Progression step (fun i => 0 ≤ i ∧ ∀ t ∈ stop, t < i) s indexes
  back : step < 0 → (∀ s ∈ start, s < 0) →
    Progression step (fun i => -n ≤ i ∧ ∀ t ∈ stop, t < i) (start.getD (-1)) indexes

/-- What the loop asks of an index: it is short of the stop, it has not left the array at the
front, and there is an item. -/
structure Continues (n : Nat) (stop : Option Int) (step : Int) (fromFront : Bool)
    (i : Int) : Prop where
  short : ∀ s ∈ stop, if 0 < step then i < s else s < i
  front : step < 0 → fromFront = true → 0 ≤ i
  inside : -n ≤ i ∧ i < n

section Indexes

variable {n : Nat} {start stop : Option Int} {step : Int} {indexes : List Int}

theorem sliceFirst_nonneg (n : Nat) (start : Option Int) (hs : 0 < step) :
    0 ≤ sliceFirst n start step := by
  simp only [sliceFirst, hs, true_and]
  split <;> omega

theorem sliceFirst_up (n : Nat) (start : Option Int) (hs : 0 < step) :
    sliceFirst n start step = start.elim 0 fun s => max (fromEnd n s) 0 := by
  cases start with
  | none => simp [sliceFirst, hs]
  | some s =>
    simp only [sliceFirst, fromEnd, hs, true_and, Option.getD_some, Option.elim_some]
    split <;> omega

theorem sliceFirst_down (n : Nat) (start : Option Int) (hs : step < 0) :
    sliceFirst n start step = start.getD (-1) := by
  simp [sliceFirst, Int.not_lt.2 (Int.le_of_lt hs)]

theorem continues_up (hs : 0 < step) (fromFront : Bool) {i : Int} (hi : 0 ≤ i) :
    Continues n (sliceStop n stop step) step fromFront i ↔
      i < n ∧ ∀ s ∈ stop, i < fromEnd n s := by
  have hshort : (∀ s ∈ sliceStop n stop step, if 0 < step then i < s else s < i) ↔
      ∀ s ∈ stop, i < fromEnd n s := by
    simp only [sliceStop, if_pos hs]
    cases stop <;> simp [fromEnd]
  constructor
  · intro h
    exact ⟨h.inside.2, hshort.1 h.short⟩
  · intro h
    exact ⟨hshort.2 h.2, fun hneg => by omega, by omega, h.1⟩

theorem continues_down (hs : step < 0) (fromFront : Bool) (i : Int) :
    Continues n (sliceStop n stop step) step fromFront i ↔
      (∀ t ∈ stop, t < i) ∧ (fromFront = true → 0 ≤ i) ∧ -n ≤ i ∧ i < n := by
  have hup : ¬0 < step := by omega
  have hshort : (∀ s ∈ sliceStop n stop step, if 0 < step then i < s else s < i) ↔
      ∀ t ∈ stop, t < i := by
    simp only [sliceStop, if_neg hup]
  constructor
  · intro h
    exact ⟨hshort.1 h.short, h.front hs, h.inside⟩
  · intro h
    exact ⟨hshort.2 h.1, fun _ => h.2.1, h.2.2⟩

/-- The progression of the loop is the one that is meant, whatever the direction. -/
theorem sliceIndexes_of_progression
    (h : Progression step (Continues n (sliceStop n stop step) step
      (0 ≤ sliceFirst n start step)) (sliceFirst n start step) indexes) :
    SliceIndexes n start stop step indexes where
  up hs := by
    have hfirst := sliceFirst_nonneg n start hs
    rw [← sliceFirst_up n start hs]
    exact h.congr (fun j => 0 ≤ j) (fun j hj _ => by omega)
      (fun j hj => continues_up hs _ hj) hfirst
  beyond hs s hstart hn := by
    obtain rfl : start = some s := hstart
    refine h.eq_nil fun hcontinues => ?_
    have := hcontinues.inside.2
    rw [sliceFirst_down n _ hs, Option.getD_some] at this
    omega
  front hs s hstart hfront hn := by
    obtain rfl : start = some s := hstart
    rw [sliceFirst_down n _ hs, Option.getD_some] at h
    refine h.congr (fun j => j < n) (fun j hj _ => by omega) (fun j hj => ?_) hn
    rw [continues_down hs, decide_eq_true hfront]
    constructor
    · intro hj'
      exact ⟨hj'.2.1 rfl, hj'.1⟩
    · intro hj'
      exact ⟨hj'.2, fun _ => hj'.1, by omega, hj⟩
  back hs hstart := by
    rw [sliceFirst_down n _ hs] at h
    have hfirst : start.getD (-1) < 0 := by
      cases start with
      | none => decide
      | some s => exact hstart s rfl
    refine h.congr (fun j => j < 0) (fun j hj _ => by omega) (fun j hj => ?_) hfirst
    rw [continues_down hs, decide_eq_false (by omega)]
    constructor
    · intro hj'
      exact ⟨hj'.2.2.1, hj'.1⟩
    · intro hj'
      exact ⟨hj'.2, nofun, hj'.1, by omega⟩

/-- All indexes of a slice count from the same end, so no two of them mean one place. -/
theorem nodup_places (hs : step ≠ 0)
    (h : Progression step (Continues n (sliceStop n stop step) step
      (0 ≤ sliceFirst n start step)) (sliceFirst n start step) indexes) :
    (indexes.map (fromEnd n)).Nodup := by
  have hsign : (∀ j ∈ indexes, 0 ≤ j) ∨ ∀ j ∈ indexes, j < 0 := by
    by_cases hup : 0 < step
    · refine .inl fun j hj => ?_
      exact Int.le_trans (sliceFirst_nonneg n start hup) ((h.beyond_of_mem j hj).1 hup)
    · have hdown : step < 0 := by omega
      by_cases hfirst : 0 ≤ sliceFirst n start step
      · exact .inl fun j hj => (h.forall_within j hj).front hdown (decide_eq_true hfirst)
      · refine .inr fun j hj => ?_
        have := (h.beyond_of_mem j hj).2 hdown
        omega
  refine List.Nodup.map_on (fun j hj k hk heq => ?_) (h.nodup hs)
  unfold fromEnd at heq
  rcases hsign with hsign | hsign
  · rwa [if_neg (Int.not_lt.2 (hsign j hj)), if_neg (Int.not_lt.2 (hsign k hk))] at heq
  · rw [if_pos (hsign j hj), if_pos (hsign k hk)] at heq
    omega

end Indexes

/-! ### The loop -/

variable [Viewable α]

/-- The item that an index means, counted from the end where it is below zero. -/
def TakenAt (v : α) (n : Nat) (i : Int) (u : α) : Prop :=
  0 ≤ fromEnd n i ∧ (View.items v)[(fromEnd n i).toNat]? = some u

section Loop

variable {v : α} {n : Nat}

theorem item?_of_inside (h : View.count? v = some n) {i : Int} (hi : -n ≤ i ∧ i < n) :
    ∃ u, View.item? v i = some u ∧ TakenAt v n i u := by
  have hlength : (View.items v).length = n := (View.count?_eq_some.1 h).2
  have hplace : 0 ≤ fromEnd n i ∧ fromEnd n i < n := by
    unfold fromEnd
    split <;> omega
  have hlt : (fromEnd n i).toNat < (View.items v).length := by omega
  have hfrom : (if i < 0 then (n : Int) + i else i) = fromEnd n i := by
    unfold fromEnd
    split <;> omega
  refine ⟨_, ?_, hplace.1, List.getElem?_eq_getElem hlt⟩
  rw [View.item?, place?, hlength, hfrom]
  simp only [if_pos hplace, Option.bind_some, List.getElem?_eq_getElem hlt]

theorem item?_of_outside (h : View.count? v = some n) {i : Int} (hi : ¬(-n ≤ i ∧ i < n)) :
    View.item? v i = none := by
  have hplace : place? (View.items v).length i = none := by
    rw [(View.count?_eq_some.1 h).2, place?]
    refine if_neg fun hin => hi ?_
    split at hin <;> omega
  rw [View.item?, hplace]
  rfl

variable {stop : Option Int} {step : Int} {fromFront : Bool}

/-- The first question of a round: the index has come to the stop. -/
def stopped (stop : Option Int) (step i : Int) : Bool :=
  match stop with
  | none => false
  | some s => if 0 < step then s ≤ i else i ≤ s

theorem stopped_eq_false (stop : Option Int) (step i : Int) :
    stopped stop step i = false ↔ ∀ s ∈ stop, if 0 < step then i < s else s < i := by
  cases stop with
  | none => simp [stopped]
  | some s => by_cases hs : 0 < step <;> simp [stopped, hs]

theorem sliceFrom_succ (v : α) (stop : Option Int) (step : Int) (fromFront : Bool)
    (rounds : Nat) (i : Int) : sliceFrom v stop step fromFront (rounds + 1) i =
      if stopped stop step i then []
      else if step < 0 ∧ fromFront = true ∧ i < 0 then []
      else
        match View.item? v i with
        | none => []
        | some item =>
          item ::
            match Text.addInt64? i step with
            | none => []
            | some next => sliceFrom v stop step fromFront rounds next := rfl

theorem sliceFrom_of_not_continues (h : View.count? v = some n) {i : Int}
    (hi : ¬Continues n stop step fromFront i) (rounds : Nat) :
    sliceFrom v stop step fromFront rounds i = [] := by
  cases rounds with
  | zero => rfl
  | succ rounds =>
    rw [sliceFrom_succ]
    by_cases hstop : stopped stop step i = true
    · rw [if_pos hstop]
    · by_cases hpast : step < 0 ∧ fromFront = true ∧ i < 0
      · rw [if_neg hstop, if_pos hpast]
      · have hshort := (stopped_eq_false stop step i).1 (Bool.eq_false_iff.2 hstop)
        have houtside : ¬(-n ≤ i ∧ i < n) := fun hinside =>
          hi ⟨hshort, fun hs hff => Int.not_lt.1 fun hneg => hpast ⟨hs, hff, hneg⟩, hinside⟩
        rw [if_neg hstop, if_neg hpast, item?_of_outside h houtside]

theorem not_continues_of_not_fits (hn : n < 0x8000000000000000) {i : Int}
    (hi : Text.addInt64? i step = none) : ¬Continues n stop step fromFront (i + step) := by
  intro h
  have hinside := h.inside
  simp only [Text.addInt64?, Text.fitsInt64, Bool.and_eq_true, decide_eq_true_eq,
    ite_eq_right_iff, reduceCtorEq, imp_false] at hi
  omega

/-- One round takes an item and goes on from the sum, which is out of the array where it does
not fit. -/
theorem sliceFrom_next (h : View.count? v = some n) (hn : n < 0x8000000000000000) {i : Int}
    (hi : Continues n stop step fromFront i) :
    ∃ u, TakenAt v n i u ∧ ∀ rounds, sliceFrom v stop step fromFront (rounds + 1) i =
      u :: sliceFrom v stop step fromFront rounds (i + step) := by
  obtain ⟨u, hitem, htaken⟩ := item?_of_inside h hi.inside
  refine ⟨u, htaken, fun rounds => ?_⟩
  have hstop : ¬stopped stop step i = true :=
    Bool.eq_false_iff.1 ((stopped_eq_false stop step i).2 hi.short)
  have hpast : ¬(step < 0 ∧ fromFront = true ∧ i < 0) := fun hpast => by
    have := hi.front hpast.1 hpast.2.1
    omega
  rw [sliceFrom_succ, if_neg hstop, if_neg hpast, hitem]
  show u :: _ = u :: _
  congr 1
  cases hsum : Text.addInt64? i step with
  | none => exact (sliceFrom_of_not_continues h (not_continues_of_not_fits hn hsum) rounds).symm
  | some next =>
    rw [Text.addInt64?, Option.ite_none_right_eq_some] at hsum
    rw [Option.some.inj hsum.2]

/-- How many items there are at most from an index on, in the direction of the slice. -/
def itemsLeft (n : Nat) (step : Int) (fromFront : Bool) (i : Int) : Int :=
  if 0 < step then n - i else if fromFront then i + 1 else i + n + 1

theorem itemsLeft_pos {i : Int} (hs : step ≠ 0) (hi : Continues n stop step fromFront i) :
    0 < itemsLeft n step fromFront i := by
  have hinside := hi.inside
  have hfront := hi.front
  unfold itemsLeft
  split
  · omega
  · split
    · rename_i hff
      have := hfront (by omega) hff
      omega
    · omega

theorem itemsLeft_next {i : Int} (hs : step ≠ 0) :
    itemsLeft n step fromFront (i + step) < itemsLeft n step fromFront i := by
  unfold itemsLeft
  split
  · omega
  · split <;> omega

/-- **A run of the loop takes the items of a progression**, and is over after as many rounds
as there can be items. -/
theorem sliceFrom_run (h : View.count? v = some n) (hn : n < 0x8000000000000000) (hs : step ≠ 0)
    (bound : Nat) (i : Int)
    (hi : Continues n stop step fromFront i → itemsLeft n step fromFront i ≤ bound) :
    ∃ indexes items, Progression step (Continues n stop step fromFront) i indexes ∧
      List.Forall₂ (TakenAt v n) indexes items ∧
      ∀ rounds, bound ≤ rounds → sliceFrom v stop step fromFront rounds i = items := by
  induction bound generalizing i with
  | zero =>
    have hout : ¬Continues n stop step fromFront i := fun hin => by
      have := itemsLeft_pos hs hin
      have := hi hin
      omega
    exact ⟨[], [], .ended hout, .nil, fun rounds _ => sliceFrom_of_not_continues h hout rounds⟩
  | succ bound ih =>
    by_cases hin : Continues n stop step fromFront i
    · obtain ⟨u, htaken, hnext⟩ := sliceFrom_next h hn hin
      have hbound : itemsLeft n step fromFront (i + step) ≤ bound := by
        have hlt : itemsLeft n step fromFront (i + step) < itemsLeft n step fromFront i :=
          itemsLeft_next hs
        have := hi hin
        omega
      obtain ⟨indexes, items, hrun, hitems, hrounds⟩ := ih (i + step) fun _ => hbound
      refine ⟨i :: indexes, u :: items, .next hin hrun, .cons htaken hitems, fun rounds hle => ?_⟩
      obtain ⟨rounds, rfl⟩ := Nat.exists_eq_add_one_of_ne_zero (by omega : rounds ≠ 0)
      rw [hnext, hrounds rounds (by omega)]
    · exact ⟨[], [], .ended hin, .nil, fun rounds _ => sliceFrom_of_not_continues h hin rounds⟩

/-- No slice has more items than the array, wherever it starts. -/
theorem itemsLeft_first (start : Option Int)
    (hi : Continues n stop step (0 ≤ sliceFirst n start step) (sliceFirst n start step)) :
    itemsLeft n step (0 ≤ sliceFirst n start step) (sliceFirst n start step) ≤ n := by
  have hinside := hi.inside
  unfold itemsLeft
  split
  · rename_i hs
    have := sliceFirst_nonneg n start hs
    omega
  · split
    · omega
    · rename_i hfirst
      rw [decide_eq_true_eq] at hfirst
      omega

end Loop

/-! ### Slices -/

/-- The items at the indexes of a slice, one after the other and each once. -/
def Slices (v : α) (n : Nat) (start stop : Option Int) (step : Int) (items : List α) : Prop :=
  ∃ indexes, SliceIndexes n start stop step indexes ∧ (indexes.map (fromEnd n)).Nodup ∧
    List.Forall₂ (TakenAt v n) indexes items

/-- The sums of a slice of `n` items are those of words of 64 bits. A bound or an index below
zero and the number of items always fit, and the sum of an index and the step is only used
where it does. -/
structure WordSums (n : Nat) (step : Int64) : Prop where
  ofEnd : ∀ i : Int64, i < 0 → (i + .ofNat n).toInt = fromEnd n i.toInt
  next : ∀ (i : Int64) (sum : Int), Text.addInt64? i.toInt step.toInt = some sum →
    (i + step).toInt = sum

theorem toInt_add_of_fits {a b : Int64} (h : Text.fitsInt64 (a.toInt + b.toInt) = true) :
    (a + b).toInt = a.toInt + b.toInt := by
  simp only [Text.fitsInt64, Bool.and_eq_true, decide_eq_true_eq] at h
  rw [Int64.toInt_add]
  exact Int.bmod_eq_of_le (by omega) (by omega)

theorem wordSums {n : Nat} (hn : n < 0x8000000000000000) (step : Int64) : WordSums n step where
  ofEnd i hi := by
    have hcount : (Int64.ofNat n).toInt = n := Int64.toInt_ofNat_of_lt (by omega)
    have hneg : i.toInt < 0 := Int64.lt_iff_toInt_lt.1 hi
    have hlow := i.le_toInt
    rw [fromEnd, if_pos hneg, toInt_add_of_fits, hcount]
    simp only [Text.fitsInt64, hcount, Bool.and_eq_true, decide_eq_true_eq]
    omega
  next i sum hsum := by
    rw [Text.addInt64?, Option.ite_none_right_eq_some] at hsum
    rw [toInt_add_of_fits hsum.1]
    exact Option.some.inj hsum.2

theorem sliceItems_run {v : α} {n : Nat} (h : View.count? v = some n)
    (hn : n < 0x8000000000000000) (start stop : Option Int) {step : Int} (hs : step ≠ 0) :
    Slices v n start stop step (sliceItems v n start stop step) ∧
      ∀ rounds, n < rounds → sliceFrom v (sliceStop n stop step) step
        (0 ≤ sliceFirst n start step) rounds (sliceFirst n start step) =
          sliceItems v n start stop step := by
  obtain ⟨indexes, items, hrun, hitems, hrounds⟩ :=
    sliceFrom_run h hn hs n (sliceFirst n start step) (itemsLeft_first start)
  have hall : sliceItems v n start stop step = items := hrounds (n + 1) (Nat.le_succ n)
  rw [hall]
  refine ⟨⟨indexes, sliceIndexes_of_progression hrun, nodup_places hs hrun, hitems⟩, ?_⟩
  intro rounds hlt
  exact hrounds rounds (Nat.le_of_lt hlt)

/-- **A slice of an array selects what its bounds and its step say**, for all bounds and steps
of 64 bits, where a step that is left out is one, and all arrays that a machine of 64 bits can
hold. A step of zero is not found. Any other slice is found, whatever comes of it, and hands the
items at its indexes on to the rest of the path; its loop is over after one round more than
there are items, and no sum in it wraps round. -/
theorem slice_selects {v : α} {n : Nat} (h : View.count? v = some n)
    (hn : n < 0x8000000000000000) (o : QueryOptions) (root : α) (rest : List Segment)
    (start stop step : Option Int64) :
    let first := start.map Int64.toInt
    let last := stop.map Int64.toInt
    let stride := (step.getD 1).toInt
    let hits := walk o root (.slice first last stride :: rest) v
    (Token.slice first last (step.map Int64.toInt)).segment? =
        some (.slice first last stride) ∧
      (stride = 0 → hits.found = false ∧ hits.values = []) ∧
      (stride ≠ 0 → hits.found = true ∧ ∃ items, Slices v n first last stride items ∧
        hits.values = items.flatMap (fun u => (walk o root rest u).values) ∧
        ∀ rounds, n < rounds → sliceFrom v (sliceStop n last stride) stride
          (0 ≤ sliceFirst n first stride) rounds (sliceFirst n first stride) = items) ∧
      WordSums n (step.getD 1) := by
  intro first last stride hits
  refine ⟨?_, fun hzero => ?_, fun hs => ?_, wordSums hn _⟩
  · cases step <;> rfl
  · have hhits : hits = .none := by
      show slice _ v first last stride = _
      simp only [slice, h, if_pos hzero]
    rw [hhits]
    exact ⟨rfl, rfl⟩
  · obtain ⟨hitems, hrounds⟩ := sliceItems_run h hn first last hs
    have hhits : hits = ⟨true, (sliceItems v n first last stride).flatMap fun u =>
        (walk o root rest u).values⟩ := by
      show slice _ v first last stride = _
      simp only [slice, h, if_neg hs]
    rw [hhits]
    exact ⟨rfl, _, hitems, rfl, hrounds⟩

/-- With the least start and the greatest step there are, the first item is selected and the
slice is over. -/
theorem slice_selects_extremes :
    let v : Value := .array [.text "1", .text "2", .text "3"]
    let o : QueryOptions := ⟨false, defaultMaxDepth, ⟨0, 0⟩, Regex.engine, defaultSizeLimit⟩
    let hits := walk o v [.slice (some (-0x8000000000000000)) none 0x7fffffffffffffff] v
    View.count? v = some 3 ∧ hits.found = true ∧ hits.values = [.text "1"] ∧
      Slices v 3 (some (-0x8000000000000000)) none 0x7fffffffffffffff [.text "1"] := by
  intro v o hits
  have hvalues : hits.values = [.text "1"] := rfl
  obtain ⟨-, -, hselects, -⟩ := slice_selects (v := v) (n := 3) rfl (by decide) o v []
    (some Int64.minValue) none (some Int64.maxValue)
  obtain ⟨hfound, items, hitems, hall, -⟩ := hselects (by decide)
  have hone : items = [.text "1"] := by
    rw [← hvalues]
    refine Eq.trans ?_ hall.symm
    exact (List.flatMap_singleton' items).symm
  rw [hone] at hitems
  exact ⟨rfl, hfound, hvalues, hitems⟩

end Sift.Path
