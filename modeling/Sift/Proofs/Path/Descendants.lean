import Mathlib.Data.List.Forall2
import Sift.Proofs.Path.Found

/-! What a search for descendants selects.

Whatever is below a value has an address: the place of the member or item to enter at each
step on the way down. The order of addresses, place by place, is the order of the document,
where a container comes before what is inside of it and after everything that ends before it.

A search chooses some entries and searches some. A name chooses the members that have it and
searches all else; the name `*` chooses everything and searches everything. `IsSelected` says
of an address that its entry is chosen and that the search gets there. `addresses` follows the
recursion of the search and writes down the addresses in place of the values: they ascend
(`addresses_ascend`), they are those that are selected (`mem_addresses`), and their values are
those of the search (`values_addresses`). -/
namespace Sift.Path

variable {α : Type} [Viewable α]

/-! ### Entries -/

/-- Something inside of a value: a member under its name, or an item. -/
structure Entry (α : Type) where
  name? : Option String
  value : α

/-- What lies directly below a value, in the order of the document. -/
def entries (v : α) : List (Entry α) :=
  if View.isObject v then (View.members v).map fun m => ⟨some m.1, m.2⟩
  else (View.items v).map fun item => ⟨none, item⟩

/-- The entry at an address below another one. -/
def entryAt (e : Entry α) : List Nat → Option (Entry α)
  | [] => some e
  | i :: rest => (entries e.value)[i]?.bind fun below => entryAt below rest

namespace Entry

variable (name : String) (caseSensitive : Bool)

def isNamed (e : Entry α) : Bool := e.name?.any fun own => sameName own name caseSensitive

/-- The search hands the entry on. -/
def isChosen (e : Entry α) : Bool := name = "*" || e.isNamed name caseSensitive

/-- The search looks for more inside of the entry. -/
def isSearched (e : Entry α) : Bool := name = "*" || !e.isNamed name caseSensitive

end Entry

/-- The search from `e` gets to the address within `levels` steps, through entries that are
searched, and chooses what is there. -/
structure IsReached (name : String) (caseSensitive : Bool) (levels : Nat) (e : Entry α)
    (a : List Nat) : Prop where
  near : a.length ≤ levels
  chosen : ∃ u, entryAt e a = some u ∧ u.isChosen name caseSensitive = true
  through : ∀ b u, b <+: a → b ≠ a → entryAt e b = some u →
    u.isSearched name caseSensitive = true

/-- The search selects what is at the address below `v`. -/
def IsSelected (name : String) (caseSensitive : Bool) (levels : Nat) (v : α)
    (a : List Nat) : Prop :=
  a ≠ [] ∧ IsReached name caseSensitive levels ⟨none, v⟩ a

section Search

variable {name : String} {caseSensitive : Bool}

theorem isReached_nil {levels : Nat} {e : Entry α} :
    IsReached name caseSensitive levels e [] ↔ e.isChosen name caseSensitive = true := by
  constructor
  · intro h
    obtain ⟨u, hu, hchosen⟩ := h.chosen
    obtain rfl : e = u := Option.some.inj hu
    exact hchosen
  · intro hchosen
    refine ⟨Nat.zero_le _, ⟨e, rfl, hchosen⟩, fun b u hb hne _ => ?_⟩
    exact absurd (List.prefix_nil.1 hb) hne

theorem isSearched_of_isReached {levels i : Nat} {e : Entry α} {a : List Nat}
    (h : IsReached name caseSensitive levels e (i :: a)) :
    e.isSearched name caseSensitive = true :=
  h.through [] e List.nil_prefix (List.cons_ne_nil i a).symm rfl

theorem isReached_cons {levels i : Nat} {e : Entry α} {a : List Nat} :
    IsReached name caseSensitive (levels + 1) e (i :: a) ↔
      e.isSearched name caseSensitive = true ∧
        ∃ u, (entries e.value)[i]? = some u ∧ IsReached name caseSensitive levels u a := by
  have hat (b : List Nat) {u : Entry α} (hu : (entries e.value)[i]? = some u) :
      entryAt e (i :: b) = entryAt u b := by
    rw [entryAt, hu, Option.bind_some]
  constructor
  · intro h
    obtain ⟨w, hw, hchosen⟩ := h.chosen
    obtain ⟨u, hu, hwu⟩ := Option.bind_eq_some_iff.1 hw
    refine ⟨isSearched_of_isReached h, u, hu, Nat.le_of_succ_le_succ h.near, ⟨w, hwu, hchosen⟩, ?_⟩
    intro b x hb hne hx
    exact h.through (i :: b) x (List.cons_prefix_cons.2 ⟨rfl, hb⟩)
      (fun heq => hne (List.cons.inj heq).2) ((hat b hu).trans hx)
  · intro h
    obtain ⟨hsearched, u, hu, hreached⟩ := h
    obtain ⟨w, hw, hchosen⟩ := hreached.chosen
    refine ⟨Nat.succ_le_succ hreached.near, ⟨w, (hat a hu).trans hw, hchosen⟩, ?_⟩
    intro b x hb hne hx
    rcases List.prefix_cons_iff.1 hb with rfl | ⟨c, rfl, hc⟩
    · obtain rfl : e = x := Option.some.inj hx
      exact hsearched
    · exact hreached.through c x hc (fun heq => hne (congrArg _ heq)) ((hat c hu).symm.trans hx)

end Search

/-! ### The addresses of a search -/

section Addresses

variable (name : String) (caseSensitive : Bool)

/-- What is handed on of an entry: itself where it is chosen, and `inside` where it is
searched. -/
def Entry.selection {β : Type} (e : Entry α) (itself : β) (inside : List β) : List β :=
  (if e.isChosen name caseSensitive then [itself] else []) ++
    if e.isSearched name caseSensitive then inside else []

/-- A search goes through the entries of a value one after the other. -/
theorem descendants_succ (levels : Nat) (v : α) :
    descendants name caseSensitive (levels + 1) v = (entries v).flatMap fun e =>
      e.selection name caseSensitive e.value (descendants name caseSensitive levels e.value) := by
  rw [descendants, entries]
  split
  · rw [List.flatMap_map]
    congr 1
    funext m
    by_cases hall : name = "*"
    · simp [Entry.selection, Entry.isChosen, Entry.isSearched, hall]
    · by_cases hnamed : sameName m.1 name caseSensitive = true <;>
        simp [Entry.selection, Entry.isChosen, Entry.isSearched, Entry.isNamed, hall, hnamed]
  · rw [List.flatMap_map]
    congr 1
    funext item
    by_cases hall : name = "*" <;>
      simp [Entry.selection, Entry.isChosen, Entry.isSearched, Entry.isNamed, hall]

/-- The addresses of what a search selects, in the order in which it gets there. -/
def addresses : Nat → α → List (List Nat)
  | 0, _ => []
  | levels + 1, v => (entries v).zipIdx.flatMap fun p =>
    (p.1.selection name caseSensitive [] (addresses levels p.1.value)).map (p.2 :: ·)

variable {name caseSensitive}

omit [Viewable α] in
theorem mem_selection {β : Type} {e : Entry α} {itself x : β} {inside : List β} :
    x ∈ e.selection name caseSensitive itself inside ↔
      (e.isChosen name caseSensitive = true ∧ x = itself) ∨
        (e.isSearched name caseSensitive = true ∧ x ∈ inside) := by
  unfold Entry.selection
  cases e.isChosen name caseSensitive <;> cases e.isSearched name caseSensitive <;> simp

theorem ne_nil_of_mem_addresses {levels : Nat} {v : α} {a : List Nat}
    (h : a ∈ addresses name caseSensitive levels v) : a ≠ [] := by
  cases levels with
  | zero => cases h
  | succ levels =>
    obtain ⟨p, -, hp⟩ := List.mem_flatMap.1 h
    obtain ⟨b, -, rfl⟩ := List.mem_map.1 hp
    exact List.cons_ne_nil _ _

omit [Viewable α] in
/-- An entry itself comes before what is inside of it. -/
theorem selection_ascends {e : Entry α} {inside : List (List Nat)}
    (hinside : inside.Pairwise (· < ·)) (hne : ∀ a ∈ inside, a ≠ []) :
    (e.selection name caseSensitive [] inside).Pairwise (· < ·) := by
  unfold Entry.selection
  cases e.isChosen name caseSensitive <;> cases e.isSearched name caseSensitive
  · exact .nil
  · exact hinside
  · exact List.pairwise_singleton _ _
  · refine List.pairwise_cons.2 ⟨fun a ha => ?_, hinside⟩
    cases a with
    | nil => exact absurd rfl (hne _ ha)
    | cons i a => exact List.nil_lt_cons i a

theorem addresses_ascend (levels : Nat) (v : α) :
    (addresses name caseSensitive levels v).Pairwise (· < ·) := by
  induction levels generalizing v with
  | zero => exact .nil
  | succ levels ih =>
    refine List.pairwise_flatMap.2 ⟨fun p _ => ?_, ?_⟩
    · refine List.pairwise_map.2 ?_
      refine (selection_ascends (ih p.1.value) fun a => ne_nil_of_mem_addresses).imp ?_
      intro a b hab
      exact List.cons_lt_cons_iff.2 (.inr ⟨rfl, hab⟩)
    · have hplaces : (entries v).zipIdx.Pairwise fun p q => p.2 < q.2 := by
        rw [← List.pairwise_map, List.zipIdx_map_snd]
        exact List.pairwise_lt_range'
      refine hplaces.imp fun hlt a ha b hb => ?_
      obtain ⟨a, -, rfl⟩ := List.mem_map.1 ha
      obtain ⟨b, -, rfl⟩ := List.mem_map.1 hb
      exact List.cons_lt_cons_iff.2 (.inl hlt)

/-- The search gets to an entry itself where it is chosen, and to what is inside of it where it
is searched. -/
theorem mem_selection_addresses {levels : Nat} {e : Entry α}
    (hinside : e.isSearched name caseSensitive = true → ∀ a,
      a ∈ addresses name caseSensitive levels e.value ↔
        a ≠ [] ∧ IsReached name caseSensitive levels e a) (a : List Nat) :
    a ∈ e.selection name caseSensitive [] (addresses name caseSensitive levels e.value) ↔
      IsReached name caseSensitive levels e a := by
  rw [mem_selection]
  cases a with
  | nil =>
    rw [isReached_nil]
    constructor
    · intro h
      rcases h with h | h
      · exact h.1
      · exact absurd rfl (ne_nil_of_mem_addresses h.2)
    · intro hchosen
      exact .inl ⟨hchosen, rfl⟩
  | cons i a =>
    constructor
    · intro h
      rcases h with h | h
      · cases h.2
      · exact ((hinside h.1 _).1 h.2).2
    · intro hreached
      have hsearched := isSearched_of_isReached hreached
      exact .inr ⟨hsearched, (hinside hsearched _).2 ⟨List.cons_ne_nil i a, hreached⟩⟩

theorem mem_addresses {levels : Nat} {e : Entry α}
    (hs : e.isSearched name caseSensitive = true) (a : List Nat) :
    a ∈ addresses name caseSensitive levels e.value ↔
      a ≠ [] ∧ IsReached name caseSensitive levels e a := by
  induction levels generalizing e a with
  | zero =>
    refine ⟨nofun, fun h => ?_⟩
    have hlength := List.length_eq_zero_iff.1 (Nat.le_zero.1 h.2.near)
    exact absurd hlength h.1
  | succ levels ih =>
    have hentry (u : Entry α) := mem_selection_addresses (e := u) ih
    cases a with
    | nil => exact ⟨fun h => absurd rfl (ne_nil_of_mem_addresses h), fun h => absurd rfl h.1⟩
    | cons i a =>
      rw [isReached_cons, addresses, List.mem_flatMap]
      constructor
      · intro h
        obtain ⟨p, hp, hmem⟩ := h
        obtain ⟨b, hb, heq⟩ := List.mem_map.1 hmem
        obtain ⟨rfl, rfl⟩ := List.cons.inj heq
        exact ⟨List.cons_ne_nil _ _, hs, p.1, List.mem_zipIdx_iff_getElem?.1 hp,
          (hentry p.1 b).1 hb⟩
      · intro h
        obtain ⟨u, hu, hreached⟩ := h.2.2
        exact ⟨(u, i), List.mem_zipIdx_iff_getElem?.2 hu,
          List.mem_map_of_mem ((hentry u a).2 hreached)⟩

/-- The value at an address. -/
def ValueAt (e : Entry α) (a : List Nat) (v : α) : Prop :=
  ∃ u, entryAt e a = some u ∧ u.value = v

theorem selection_values {e : Entry α} {as : List (List Nat)} {vs : List α}
    (h : List.Forall₂ (ValueAt e) as vs) :
    List.Forall₂ (ValueAt e) (e.selection name caseSensitive [] as)
      (e.selection name caseSensitive e.value vs) := by
  have hself : ValueAt e [] e.value := ⟨e, rfl, rfl⟩
  unfold Entry.selection
  cases e.isChosen name caseSensitive <;> cases e.isSearched name caseSensitive
  · exact .nil
  · exact h
  · exact .cons hself .nil
  · exact .cons hself h

omit [Viewable α] in
theorem zipIdx_entries (es : List (Entry α)) :
    List.Forall₂ (fun p e => p.1 = e ∧ es[p.2]? = some e) es.zipIdx es := by
  rw [List.forall₂_iff_get]
  refine ⟨List.length_zipIdx, fun i _ hi => ?_⟩
  simp [List.getElem_zipIdx, hi]

/-- The values at the addresses are those that the search selects, in the same order. -/
theorem values_addresses (levels : Nat) (e : Entry α) :
    List.Forall₂ (ValueAt e) (addresses name caseSensitive levels e.value)
      (descendants name caseSensitive levels e.value) := by
  induction levels generalizing e with
  | zero => exact .nil
  | succ levels ih =>
    rw [addresses, descendants_succ]
    refine List.rel_flatMap (zipIdx_entries (entries e.value)) fun p u hpu => ?_
    obtain ⟨rfl, hentry⟩ := hpu
    rw [List.forall₂_map_left_iff]
    refine (selection_values (ih p.1)).imp fun a v hv => ?_
    obtain ⟨w, hw, rfl⟩ := hv
    exact ⟨w, by rw [entryAt, hentry, Option.bind_some, hw], rfl⟩

example :
    let v : Value := .object [("a", .object [("a", .null)]), ("b", .array [.object [("a", .null)]])]
    addresses "a" true 3 v = [[0], [1, 0, 0]] ∧
      addresses "*" true 3 v = [[0], [0, 0], [1], [1, 0], [1, 0, 0]] := by
  decide +kernel

end Addresses

/-! ### Searches -/

/-- **A search selects what its name, its case and its depth say**, from every value: the
members of the name, or every entry for the name `*`, that it gets to through other entries
with at most one step more than `maxDepth`. It selects each once and in the order of the
document, hands them on to the rest of the path, and is not found where there are none. -/
theorem descendants_selected (o : QueryOptions) (root : α) (rest : List Segment) (v : α)
    (name : String) (marked : Bool) :
    let selected := IsSelected name (o.caseSensitive != marked) (o.maxDepth + 1) v
    let hits := walk o root (.descendant name marked :: rest) v
    (∃ (places : List (List Nat)) (values : List α), places.Pairwise (· < ·) ∧
        (∀ a, a ∈ places ↔ selected a) ∧ List.Forall₂ (ValueAt ⟨none, v⟩) places values ∧
        hits.values = values.flatMap (fun u => (walk o root rest u).values) ∧
        hits.found = values.any fun u => (walk o root rest u).found) ∧
      ((∀ a, ¬selected a) → hits.found = false ∧ hits.values = []) := by
  intro selected hits
  let places := addresses name (o.caseSensitive != marked) (o.maxDepth + 1) v
  let values := descendants name (o.caseSensitive != marked) (o.maxDepth + 1) v
  have hvalues : List.Forall₂ (ValueAt ⟨none, v⟩) places values :=
    values_addresses (o.maxDepth + 1) ⟨none, v⟩
  have hplaces (a : List Nat) : a ∈ places ↔ selected a :=
    mem_addresses (e := ⟨none, v⟩) (by simp [Entry.isSearched, Entry.isNamed]) a
  have hall : hits.values = values.flatMap fun u => (walk o root rest u).values :=
    values_descend _ name _ _ v
  have hfound : hits.found = values.any fun u => (walk o root rest u).found :=
    found_descend _ name _ _ v
  refine ⟨⟨places, values, addresses_ascend _ v, hplaces, hvalues, hall, hfound⟩, fun hnone => ?_⟩
  have hempty : places = [] := List.eq_nil_iff_forall_not_mem.2 fun a ha =>
    hnone a ((hplaces a).1 ha)
  rw [hempty] at hvalues
  rw [hall, hfound, List.forall₂_nil_left_iff.1 hvalues]
  exact ⟨rfl, rfl⟩

end Sift.Path
