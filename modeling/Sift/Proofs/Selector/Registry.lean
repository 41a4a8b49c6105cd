import Mathlib.Data.List.Nodup
import Mathlib.Data.List.Sort
import Mathlib.Data.String.Basic
import Mathlib.Logic.Function.Basic
import Sift.Selector.Registry

/-! A registry is a map from lower-case names to selectors.

Its entries are in no order that counts: they stand for a map (`Represents`), whatever their order,
and all that is asked of a registry is answered by that map. Listings are sorted by the names as
they were given. No two of these are the same, so a map has just one listing (`Lists.unique`). -/
namespace Sift

open Text

/-- The selector for each lower-case name. -/
abbrev NameMap := String → Option Selector

namespace NameMap

/-- The selectors of a map, each once, in the order of their names. -/
structure Lists (f : NameMap) (l : List Selector) : Prop where
  sorted : l.Pairwise fun s t => s.name < t.name
  mem_iff : ∀ s, s ∈ l ↔ ∃ key, f key = some s

theorem Lists.unique {f : NameMap} {l l' : List Selector} (h : f.Lists l) (h' : f.Lists l') :
    l = l' := by
  have hirrefl : Std.Irrefl fun s t : Selector => s.name < t.name :=
    ⟨fun s => String.lt_irrefl s.name⟩
  have hantisymm : Std.Antisymm fun s t : Selector => s.name < t.name :=
    ⟨fun s t hst hts => absurd (String.lt_trans hst hts) (String.lt_irrefl s.name)⟩
  exact h.sorted.eq_of_mem_iff h'.sorted fun s => (h.mem_iff s).trans (h'.mem_iff s).symm

/-- The map with one more selector, in the place of the one that had its name. -/
def put (f : NameMap) (s : Selector) : NameMap := Function.update f (lowerText s.name) (some s)

theorem put_eq_some {f : NameMap} {s t : Selector} {key : String} : f.put s key = some t ↔
    (key = lowerText s.name ∧ s = t) ∨ (key ≠ lowerText s.name ∧ f key = some t) := by
  unfold put
  by_cases hkey : key = lowerText s.name
  · rw [hkey, Function.update_self]
    simp
  · rw [Function.update_of_ne hkey]
    simp [hkey]

end NameMap

/-- Sorting by names gives a list in the order of the names. -/
theorem sorted_mergeSort {α : Type} (name : α → String) (l : List α) :
    (l.mergeSort fun a b => name a ≤ name b).Pairwise fun a b => name a ≤ name b := by
  have htrans (a b c : α) (hab : decide (name a ≤ name b) = true)
      (hbc : decide (name b ≤ name c) = true) : decide (name a ≤ name c) = true :=
    decide_eq_true (String.le_trans (of_decide_eq_true hab) (of_decide_eq_true hbc))
  have htotal (a b : α) : (decide (name a ≤ name b) || decide (name b ≤ name a)) = true := by
    rw [Bool.or_eq_true, decide_eq_true_eq, decide_eq_true_eq]
    exact String.le_total (name a) (name b)
  exact (List.pairwise_mergeSort htrans htotal l).imp of_decide_eq_true

namespace SelectorRegistry

/-- The entries of a registry stand for a map. -/
structure Represents (r : SelectorRegistry) (f : NameMap) : Prop where
  nodup : (r.entries.map Prod.fst).Nodup
  mem_iff : ∀ key s, (key, s) ∈ r.entries ↔ f key = some s
  keyed : ∀ key s, f key = some s → lowerText s.name = key

theorem represents_empty : Represents empty fun _ => none where
  nodup := List.nodup_nil
  mem_iff _ s := iff_of_false List.not_mem_nil (Option.some_ne_none s).symm
  keyed _ s h := absurd h (Option.some_ne_none s).symm

namespace Represents

variable {r : SelectorRegistry} {f : NameMap} (h : r.Represents f)
include h

/-- The order of the entries does not count. -/
theorem perm {r' : SelectorRegistry} (hperm : r.entries.Perm r'.entries) : r'.Represents f where
  nodup := (hperm.map Prod.fst).nodup_iff.1 h.nodup
  mem_iff key s := hperm.mem_iff.symm.trans (h.mem_iff key s)
  keyed := h.keyed

theorem lookup_eq (key : String) : r.entries.lookup key = f key := by
  have hlookup (s : Selector) (hs : r.entries.lookup key = some s) : f key = some s := by
    obtain ⟨front, back, hentries, -⟩ := List.lookup_eq_some_iff.1 hs
    rw [← h.mem_iff, hentries]
    exact List.mem_append_right _ List.mem_cons_self
  cases hfound : r.entries.lookup key with
  | some s => rw [hlookup s hfound]
  | none =>
    cases hf : f key with
    | none => rfl
    | some s =>
      have hne := List.lookup_eq_none_iff.1 hfound _ ((h.mem_iff key s).2 hf)
      rw [bne_self_eq_false] at hne
      cases hne

theorem get?_eq (name : String) : r.get? name = f (lowerText name) := h.lookup_eq _

theorem register (s : Selector) : (r.register s).2.Represents (f.put s) := by
  refine ⟨?_, fun key t => ?_, fun key t ht => ?_⟩
  · have hkept : ((r.entries.filter (·.1 != lowerText s.name)).map Prod.fst).Nodup :=
      h.nodup.sublist (List.filter_sublist.map _)
    rw [SelectorRegistry.register, List.map_append, List.nodup_append]
    refine ⟨hkept, List.nodup_singleton _, ?_⟩
    intro key hkey key' hkey' heq
    rw [List.map_singleton, List.mem_singleton] at hkey'
    obtain ⟨e, he, rfl⟩ := List.mem_map.1 hkey
    have hne := (List.mem_filter.1 he).2
    rw [heq, hkey', bne_self_eq_false] at hne
    cases hne
  · rw [SelectorRegistry.register, List.mem_append, List.mem_filter, List.mem_singleton,
      h.mem_iff, NameMap.put_eq_some, Prod.mk.injEq, bne_iff_ne]
    tauto
  · obtain ⟨rfl, rfl⟩ | ⟨-, hf⟩ := NameMap.put_eq_some.1 ht
    · rfl
    · exact h.keyed key t hf

/-- No two selectors have the same name. -/
theorem nodup_names : (r.entries.map fun e => e.2.name).Nodup := by
  have hkeys : (r.entries.map fun e => e.2.name).map lowerText = r.entries.map Prod.fst := by
    rw [List.map_map]
    refine List.map_congr_left fun e he => ?_
    exact h.keyed e.1 e.2 ((h.mem_iff e.1 e.2).1 he)
  refine List.Nodup.of_map lowerText ?_
  rw [hkeys]
  exact h.nodup

theorem lists_all : f.Lists r.all := by
  have hperm : r.all.Perm (r.entries.map Prod.snd) := List.mergeSort_perm _ _
  refine ⟨?_, fun s => ?_⟩
  · have hle : r.all.Pairwise fun s t => s.name ≤ t.name := sorted_mergeSort Selector.name _
    have hne : r.all.Pairwise fun s t => s.name ≠ t.name := by
      rw [← List.pairwise_map]
      refine (hperm.map Selector.name).nodup_iff.2 ?_
      rw [List.map_map]
      exact h.nodup_names
    exact hle.imp₂ (fun _ _ hle hne => lt_of_le_of_ne hle hne) hne
  · rw [hperm.mem_iff, List.mem_map]
    constructor
    · rintro ⟨⟨key, s⟩, he, rfl⟩
      exact ⟨key, (h.mem_iff key s).1 he⟩
    · rintro ⟨key, hf⟩
      exact ⟨(key, s), (h.mem_iff key s).2 hf, rfl⟩

end Represents

/-- The names are those of the listing. -/
theorem names_eq (r : SelectorRegistry) : r.names = r.all.map Selector.name := by
  have hnames : r.names.Pairwise (· ≤ ·) := sorted_mergeSort id _
  have hall : (r.all.map Selector.name).Pairwise (· ≤ ·) :=
    List.pairwise_map.2 (sorted_mergeSort Selector.name _)
  have hperm : r.names.Perm (r.all.map Selector.name) := by
    have hsorted := (List.mergeSort_perm (r.entries.map Prod.snd) fun s t =>
      s.name ≤ t.name).map Selector.name
    rw [List.map_map] at hsorted
    exact (List.mergeSort_perm _ _).trans hsorted.symm
  exact hperm.eq_of_pairwise (fun _ _ _ _ => String.le_antisymm) hnames hall

theorem size_eq (r : SelectorRegistry) : r.size = r.all.length := by
  rw [size, all, List.length_mergeSort, List.length_map]

end SelectorRegistry

end Sift
