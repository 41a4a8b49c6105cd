import Mathlib.Data.List.Forall2
import Sift.Proofs.Selector.Registry
import Sift.Selector.Shared

/-! Shared registries answer as maps.

What is behind the handles of a registry is one map from lower-case names to selectors, which all
of its clones read and write. `Maps.Step` says what each request does to the maps and what is
answered, with no word on entries or their order. The registries do just that, in runs of any length
and even if the entries change their order in between (`run_maps`). -/
namespace Sift

open Text

namespace SharedRegistries

/-! ### Maps behind handles -/

/-- The map of each registry, and for each handle the place of the one that it leads to. -/
structure Maps where
  maps : List NameMap
  handles : List Nat

namespace Maps

def empty : Maps := ⟨[], []⟩

/-- The handle `h` leads to the map `f`, which is at a place. -/
def At (m : Maps) (h place : Nat) (f : NameMap) : Prop :=
  m.handles[h]? = some place ∧ m.maps[place]? = some f

/-- What a request does, and what is answered. -/
inductive Step (m : Maps) : Request → Response → Maps → Prop
  | create : Step m .create (.handle m.handles.length)
      ⟨m.maps ++ [fun _ => none], m.handles ++ [m.maps.length]⟩
  | clone {h place} : m.handles[h]? = some place →
      Step m (.clone h) (.handle m.handles.length) ⟨m.maps, m.handles ++ [place]⟩
  | register {h place f s} : m.At h place f → Step m (.register h s)
      (.replaced (f (lowerText s.name))) ⟨m.maps.set place (f.put s), m.handles⟩
  | get {h place f name} : m.At h place f → Step m (.get h name) (.found (f (lowerText name))) m
  | required {h place f name s} : m.At h place f → f (lowerText name) = some s →
      Step m (.require h name) (.required (.ok s)) m
  | missing {h place f name} : m.At h place f → f (lowerText name) = none →
      Step m (.require h name) (.required (.error ⟨name⟩)) m
  | all {h place f l} : m.At h place f → f.Lists l → Step m (.all h) (.selectors l) m
  | names {h place f l} : m.At h place f → f.Lists l →
      Step m (.names h) (.names (l.map Selector.name)) m
  | size {h place f l} : m.At h place f → f.Lists l → Step m (.size h) (.size l.length) m

/-- Requests with their answers, one after another. -/
inductive Run : Maps → List (Request × Response) → Maps → Prop
  | nil (m) : Run m [] m
  | cons {m q a m' log m''} : Step m q a m' → Run m' log m'' → Run m ((q, a) :: log) m''

theorem At.unique {m : Maps} {h place place' : Nat} {f f' : NameMap} (hf : m.At h place f)
    (hf' : m.At h place' f') : place = place' ∧ f = f' := by
  obtain rfl := Option.some.inj (hf.1.symm.trans hf'.1)
  exact ⟨rfl, Option.some.inj (hf.2.symm.trans hf'.2)⟩

/-- There is one answer to each request. -/
theorem Step.unique {m m₁ m₂ : Maps} {q : Request} {a b : Response} (h : Step m q a m₁)
    (h' : Step m q b m₂) : a = b ∧ m₁ = m₂ := by
  cases h with
  | create =>
    cases h'
    exact ⟨rfl, rfl⟩
  | clone hplace =>
    cases h' with
    | clone hplace' =>
      obtain rfl := Option.some.inj (hplace.symm.trans hplace')
      exact ⟨rfl, rfl⟩
  | register hf =>
    cases h' with
    | register hf' =>
      obtain ⟨rfl, rfl⟩ := hf.unique hf'
      exact ⟨rfl, rfl⟩
  | get hf =>
    cases h' with
    | get hf' =>
      obtain ⟨rfl, rfl⟩ := hf.unique hf'
      exact ⟨rfl, rfl⟩
  | required hf hs =>
    cases h' with
    | required hf' hs' =>
      obtain ⟨rfl, rfl⟩ := hf.unique hf'
      obtain rfl := Option.some.inj (hs.symm.trans hs')
      exact ⟨rfl, rfl⟩
    | missing hf' hnone =>
      obtain ⟨rfl, rfl⟩ := hf.unique hf'
      cases hs.symm.trans hnone
  | missing hf hnone =>
    cases h' with
    | required hf' hs' =>
      obtain ⟨rfl, rfl⟩ := hf.unique hf'
      cases hs'.symm.trans hnone
    | missing hf' => exact ⟨rfl, rfl⟩
  | all hf hl =>
    cases h' with
    | all hf' hl' =>
      obtain ⟨rfl, rfl⟩ := hf.unique hf'
      exact ⟨by rw [hl.unique hl'], rfl⟩
  | names hf hl =>
    cases h' with
    | names hf' hl' =>
      obtain ⟨rfl, rfl⟩ := hf.unique hf'
      exact ⟨by rw [hl.unique hl'], rfl⟩
  | size hf hl =>
    cases h' with
    | size hf' hl' =>
      obtain ⟨rfl, rfl⟩ := hf.unique hf'
      exact ⟨by rw [hl.unique hl'], rfl⟩

theorem Run.unique {m m₁ m₂ : Maps} {log log' : List (Request × Response)} (h : Run m log m₁)
    (h' : Run m log' m₂) (hrequests : log.map Prod.fst = log'.map Prod.fst) : log = log' := by
  induction h generalizing log' with
  | nil => exact (List.map_eq_nil_iff.1 hrequests.symm).symm
  | cons hstep _ ih =>
    cases h' with
    | nil => cases hrequests
    | cons hstep' hrun' =>
      obtain ⟨rfl, hrest⟩ := List.cons.inj hrequests
      obtain ⟨rfl, rfl⟩ := hstep.unique hstep'
      rw [ih hrun' hrest]

end Maps

/-! ### Registries with entries in any order -/

/-- The same registries, with their entries in another order. -/
structure Reordered (c d : SharedRegistries) : Prop where
  length : c.registries.length = d.registries.length
  entries : ∀ (place : Nat) (r r' : SelectorRegistry), c.registries[place]? = some r →
    d.registries[place]? = some r' → r.entries.Perm r'.entries
  handles : c.handles = d.handles

theorem Reordered.refl (c : SharedRegistries) : Reordered c c where
  length := rfl
  entries place r r' hr hr' := by
    obtain rfl := Option.some.inj (hr.symm.trans hr')
    exact .refl _
  handles := rfl

/-- Requests with their answers, one after another. Entries may change their order at any time. -/
inductive Run : SharedRegistries → List (Request × Response) → SharedRegistries → Prop
  | nil {c d} : Reordered c d → Run c [] d
  | cons {c d q a c' log e} : Reordered c d → d.step q = some (a, c') → Run c' log e →
      Run c ((q, a) :: log) e

/-- The registries stand for maps, and all handles lead to one. -/
structure Represents (c : SharedRegistries) (m : Maps) : Prop where
  length : c.registries.length = m.maps.length
  registries : ∀ (place : Nat) (r : SelectorRegistry) (f : NameMap),
    c.registries[place]? = some r → m.maps[place]? = some f → r.Represents f
  handles : c.handles = m.handles
  reached : ∀ place ∈ c.handles, place < c.registries.length

theorem represents_empty : Represents empty .empty where
  length := rfl
  registries _ _ _ hr := nomatch hr
  handles := rfl
  reached _ hplace := absurd hplace List.not_mem_nil

namespace Represents

variable {c : SharedRegistries} {m : Maps} (h : c.Represents m)
include h

/-- What is at a place stands for the map at that place. -/
theorem map_at {place : Nat} {r : SelectorRegistry} (hr : c.registries[place]? = some r) :
    ∃ f, m.maps[place]? = some f ∧ r.Represents f := by
  have hlt : place < m.maps.length := by
    rw [← h.length]
    exact (List.getElem?_eq_some_iff.1 hr).1
  have hf := List.getElem?_eq_getElem hlt
  exact ⟨_, hf, h.registries place r _ hr hf⟩

theorem reordered {d : SharedRegistries} (hd : Reordered c d) : d.Represents m where
  length := hd.length.symm.trans h.length
  registries place r' f hr' hf := by
    have hlt : place < c.registries.length := by
      rw [hd.length]
      exact (List.getElem?_eq_some_iff.1 hr').1
    have hr := List.getElem?_eq_getElem hlt
    exact (h.registries place _ f hr hf).perm (hd.entries place _ r' hr hr')
  handles := hd.handles.symm.trans h.handles
  reached := by
    rw [← hd.handles, ← hd.length]
    exact h.reached

/-- What is behind a handle stands for the map behind it. -/
theorem map_behind {handle : Nat} {r : SelectorRegistry} (hr : c.registry? handle = some r) :
    ∃ place f, m.At handle place f ∧ r.Represents f := by
  obtain ⟨place, hplace, hr⟩ := Option.bind_eq_some_iff.1 hr
  obtain ⟨f, hf, hrep⟩ := h.map_at hr
  rw [h.handles] at hplace
  exact ⟨place, f, ⟨hplace, hf⟩, hrep⟩

theorem addHandle {place : Nat} (hplace : place < c.registries.length) :
    (c.addHandle place).2.Represents ⟨m.maps, m.handles ++ [place]⟩ where
  length := h.length
  registries := h.registries
  handles := congrArg (· ++ [place]) h.handles
  reached place' hplace' := by
    obtain hold | hnew := List.mem_append.1 hplace'
    · exact h.reached place' hold
    · rw [List.mem_singleton.1 hnew]
      exact hplace

theorem addRegistry : Represents { c with registries := c.registries ++ [.empty] }
    ⟨m.maps ++ [fun _ => none], m.handles⟩ where
  length := by rw [List.length_append, List.length_append, h.length, List.length_singleton,
    List.length_singleton]
  registries place r f hr hf := by
    obtain hlt | hge := Nat.lt_or_ge place c.registries.length
    · rw [List.getElem?_append_left hlt] at hr
      rw [List.getElem?_append_left (h.length ▸ hlt)] at hf
      exact h.registries place r f hr hf
    · rw [List.getElem?_append_right hge] at hr
      rw [List.getElem?_append_right (h.length ▸ hge), ← h.length] at hf
      generalize place - c.registries.length = i at hr hf
      cases i with
      | zero =>
        cases hr
        cases hf
        exact SelectorRegistry.represents_empty
      | succ i => cases hr
  handles := h.handles
  reached place hplace := by
    rw [List.length_append]
    exact Nat.lt_add_right _ (h.reached place hplace)

theorem set {place : Nat} {r : SelectorRegistry} {f : NameMap} (hr : r.Represents f) :
    Represents { c with registries := c.registries.set place r }
      ⟨m.maps.set place f, m.handles⟩ where
  length := by rw [List.length_set, List.length_set, h.length]
  registries place' r' f' hr' hf' := by
    rw [List.getElem?_set, h.length] at hr'
    rw [List.getElem?_set] at hf'
    split at hr'
    · split at hr'
      · rename_i heq hlt
        rw [if_pos heq, if_pos hlt] at hf'
        cases hr'
        cases hf'
        exact hr
      · cases hr'
    · rename_i hne
      rw [if_neg hne] at hf'
      exact h.registries place' r' f' hr' hf'
  handles := h.handles
  reached place' hplace' := by
    rw [List.length_set]
    exact h.reached place' hplace'

/-- A request that only asks is answered from the registry behind its handle. -/
theorem asked {handle : Nat} {answer : SelectorRegistry → Response} {a : Response}
    {c' : SharedRegistries}
    (hq : (c.registry? handle).map (fun r => (answer r, c)) = some (a, c')) :
    ∃ r place f, m.At handle place f ∧ r.Represents f ∧ answer r = a ∧ c = c' := by
  obtain ⟨r, hr, heq⟩ := Option.map_eq_some_iff.1 hq
  obtain ⟨place, f, hat, hrep⟩ := h.map_behind hr
  obtain ⟨ha, hc⟩ := Prod.mk.inj heq
  exact ⟨r, place, f, hat, hrep, ha, hc⟩

/-- Each request does to the registries what it does to the maps, and is answered alike. -/
theorem step {q : Request} {a : Response} {c' : SharedRegistries} (hq : c.step q = some (a, c')) :
    ∃ m', Maps.Step m q a m' ∧ c'.Represents m' := by
  cases q with
  | create =>
    cases hq
    have hplace : c.registries.length < (c.registries ++ [SelectorRegistry.empty]).length := by
      rw [List.length_append]
      exact Nat.lt_add_one _
    have hnew := h.addRegistry.addHandle hplace
    refine ⟨_, ?_, hnew⟩
    show Maps.Step m .create (.handle c.handles.length) _
    rw [h.length, h.handles]
    exact .create
  | clone handle =>
    obtain ⟨place, hplace, heq⟩ := Option.map_eq_some_iff.1 hq
    cases heq
    refine ⟨_, ?_, h.addHandle (h.reached place (List.mem_of_getElem? hplace))⟩
    rw [h.handles] at hplace ⊢
    exact .clone hplace
  | register handle s =>
    obtain ⟨place, hplace, hq⟩ := Option.bind_eq_some_iff.1 hq
    obtain ⟨r, hr, hq⟩ := Option.bind_eq_some_iff.1 hq
    cases hq
    obtain ⟨f, hf, hrep⟩ := h.map_at hr
    rw [h.handles] at hplace
    refine ⟨_, ?_, h.set (hrep.register s)⟩
    rw [hrep.get?_eq]
    exact .register ⟨hplace, hf⟩
  | get handle name =>
    obtain ⟨r, place, f, hat, hrep, rfl, rfl⟩ := h.asked hq
    refine ⟨m, ?_, h⟩
    rw [hrep.get?_eq]
    exact .get hat
  | require handle name =>
    obtain ⟨r, place, f, hat, hrep, rfl, rfl⟩ := h.asked hq
    refine ⟨m, ?_, h⟩
    rw [SelectorRegistry.require, hrep.get?_eq]
    cases hs : f (lowerText name) with
    | some s => exact .required hat hs
    | none => exact .missing hat hs
  | all handle =>
    obtain ⟨r, place, f, hat, hrep, rfl, rfl⟩ := h.asked hq
    exact ⟨m, .all hat hrep.lists_all, h⟩
  | names handle =>
    obtain ⟨r, place, f, hat, hrep, rfl, rfl⟩ := h.asked hq
    refine ⟨m, ?_, h⟩
    rw [SelectorRegistry.names_eq]
    exact .names hat hrep.lists_all
  | size handle =>
    obtain ⟨r, place, f, hat, hrep, rfl, rfl⟩ := h.asked hq
    refine ⟨m, ?_, h⟩
    rw [SelectorRegistry.size_eq]
    exact .size hat hrep.lists_all

/-- Every request through a handle that was given out is answered. -/
theorem answers {q : Request}
    (hq : ∀ handle, q.handle? = some handle → handle < c.handles.length) :
    ∃ a c', c.step q = some (a, c') := by
  have hregistry {handle : Nat} (hlt : handle < c.handles.length) :
      ∃ place r, c.handles[handle]? = some place ∧ c.registries[place]? = some r ∧
        c.registry? handle = some r := by
    have hplace := List.getElem?_eq_getElem hlt
    have hr := List.getElem?_eq_getElem (h.reached _ (List.mem_of_getElem? hplace))
    exact ⟨_, _, hplace, hr, Option.bind_eq_some_iff.2 ⟨_, hplace, hr⟩⟩
  cases q with
  | create => exact ⟨_, _, rfl⟩
  | clone handle =>
    obtain ⟨place, r, hplace, -⟩ := hregistry (hq handle rfl)
    exact ⟨_, _, Option.map_eq_some_iff.2 ⟨place, hplace, rfl⟩⟩
  | register handle s =>
    obtain ⟨place, r, hplace, hr, -⟩ := hregistry (hq handle rfl)
    exact ⟨_, _, Option.bind_eq_some_iff.2 ⟨place, hplace, Option.bind_eq_some_iff.2 ⟨r, hr, rfl⟩⟩⟩
  | get handle _ | require handle _ | all handle | names handle | size handle =>
    obtain ⟨place, r, -, -, hr⟩ := hregistry (hq handle rfl)
    exact ⟨_, _, Option.map_eq_some_iff.2 ⟨r, hr, rfl⟩⟩

theorem run {d : SharedRegistries} {log : List (Request × Response)} (hrun : Run c log d) :
    ∃ m', Maps.Run m log m' ∧ d.Represents m' := by
  induction hrun generalizing m with
  | nil hreordered => exact ⟨m, .nil m, h.reordered hreordered⟩
  | cons hreordered hstep _ ih =>
    obtain ⟨m', hm', hrep⟩ := (h.reordered hreordered).step hstep
    obtain ⟨m'', hm'', hrep'⟩ := ih hrep
    exact ⟨m'', .cons hm' hm'', hrep'⟩

end Represents

/-- **A registry is one map, shared by its clones.** In every run of requests, through whichever
handles and with the entries in any order at any time, the answers are those of maps from lower-case
names to the selectors registered last, one map for all clones of a registry; these are the only
answers that the maps give to the requests; and every request through a handle that was given out
is answered. -/
theorem run_maps {log : List (Request × Response)} {c : SharedRegistries}
    (h : Run .empty log c) :
    (∃ m, Maps.Run .empty log m) ∧
    (∀ log' m, Maps.Run .empty log' m → log'.map Prod.fst = log.map Prod.fst → log' = log) ∧
    ∀ q : Request, (∀ handle, q.handle? = some handle → handle < c.handles.length) →
      ∃ a c', c.step q = some (a, c') := by
  obtain ⟨m, hrun, hrep⟩ := represents_empty.run h
  refine ⟨⟨m, hrun⟩, fun log' m' hrun' hrequests => ?_, fun q hq => hrep.answers hq⟩
  exact hrun'.unique hrun hrequests

/-- A selector that a clone replaces under another spelling, with the entries swapped in between. -/
theorem run_maps_clone :
    let s : Selector := ⟨"Ab", .group "" .allOf []⟩
    let t : Selector := ⟨"aB", .group "" .anyOf []⟩
    let u : Selector := ⟨"c", .group "" .allOf []⟩
    let log : List (Request × Response) := [(.create, .handle 0),
      (.register 0 s, .replaced none), (.clone 0, .handle 1), (.register 1 u, .replaced none),
      (.register 1 t, .replaced (some s)), (.all 0, .selectors [t, u]),
      (.require 1 "d", .required (.error ⟨"d"⟩))]
    let c : SharedRegistries := ⟨[⟨[("c", u), ("ab", t)]⟩], [0, 0]⟩
    Run .empty log c ∧ (∃ m, Maps.Run .empty log m) ∧
      (∀ log' m, Maps.Run .empty log' m → log'.map Prod.fst = log.map Prod.fst → log' = log) ∧
      ∀ q : Request, (∀ handle, q.handle? = some handle → handle < c.handles.length) →
        ∃ a c', c.step q = some (a, c') := by
  intro s t u log c
  have hrun : Run .empty log c := by
    have hab : lowerText "Ab" = "ab" := by decide +kernel
    have hab' : lowerText "aB" = "ab" := by decide +kernel
    have hc : lowerText "c" = "c" := by decide +kernel
    have hd : lowerText "d" = "d" := by decide +kernel
    have hswap : Reordered ⟨[⟨[("ab", s), ("c", u)]⟩], [0, 0]⟩
        ⟨[⟨[("c", u), ("ab", s)]⟩], [0, 0]⟩ := by
      refine ⟨rfl, fun place r r' hr hr' => ?_, rfl⟩
      cases place with
      | zero =>
        cases hr
        cases hr'
        exact .swap _ _ _
      | succ => cases hr
    have hs : SelectorRegistry.empty.register s = (none, ⟨[("ab", s)]⟩) := by
      simp [SelectorRegistry.register, SelectorRegistry.get?, SelectorRegistry.empty, s, hab]
    have hu : SelectorRegistry.register ⟨[("ab", s)]⟩ u = (none, ⟨[("ab", s), ("c", u)]⟩) := by
      simp [SelectorRegistry.register, SelectorRegistry.get?, u, hc, List.lookup_cons]
    have ht : SelectorRegistry.register ⟨[("c", u), ("ab", s)]⟩ t =
        (some s, ⟨[("c", u), ("ab", t)]⟩) := by
      simp [SelectorRegistry.register, SelectorRegistry.get?, t, hab', List.lookup_cons]
    have hall : SelectorRegistry.all ⟨[("c", u), ("ab", t)]⟩ = [t, u] := by
      simp [SelectorRegistry.all, List.mergeSort, List.MergeSort.Internal.splitInTwo, t, u]
    have hmissing : SelectorRegistry.require ⟨[("c", u), ("ab", t)]⟩ "d" = .error ⟨"d"⟩ := by
      simp [SelectorRegistry.require, SelectorRegistry.get?, hd, List.lookup_cons]
    -- What is answered to the registration in a registry, and what becomes of it.
    let answer (handles : List Nat) (x : Option Selector × SelectorRegistry) :
        Option (Response × SharedRegistries) := some (.replaced x.1, ⟨[x.2], handles⟩)
    have hstep₂ : step ⟨[.empty], [0]⟩ (.register 0 s) =
        some (.replaced none, ⟨[⟨[("ab", s)]⟩], [0]⟩) := congrArg (answer [0]) hs
    have hstep₄ : step ⟨[⟨[("ab", s)]⟩], [0, 0]⟩ (.register 1 u) =
        some (.replaced none, ⟨[⟨[("ab", s), ("c", u)]⟩], [0, 0]⟩) := congrArg (answer [0, 0]) hu
    have hstep₅ : step ⟨[⟨[("c", u), ("ab", s)]⟩], [0, 0]⟩ (.register 1 t) =
        some (.replaced (some s), c) := congrArg (answer [0, 0]) ht
    have hstep₆ : c.step (.all 0) = some (.selectors [t, u], c) :=
      congrArg (fun all => some (Response.selectors all, c)) hall
    have hstep₇ : c.step (.require 1 "d") = some (.required (.error ⟨"d"⟩), c) :=
      congrArg (fun result => some (Response.required result, c)) hmissing
    exact .cons (.refl _) rfl (.cons (.refl _) hstep₂ (.cons (.refl _) rfl (.cons (.refl _) hstep₄
      (.cons hswap hstep₅ (.cons (.refl _) hstep₆ (.cons (.refl _) hstep₇ (.nil (.refl _))))))))
  exact ⟨hrun, run_maps hrun⟩
end SharedRegistries

end Sift
