import Sift.Proofs.Condition.Location
import Sift.Proofs.Selector.Registry
import Sift.Proofs.Text.AsciiCase
import Sift.Selector.Resource
import Sift.Regex.Engine

/-! A resource that cannot be loaded does not disturb the others.

`Adds` says what a resource adds to what is loaded, from that resource alone: a selector, a failure,
or nothing. What is loaded from a file is what its resources add, one after another (`AddsAll`), so
what stands before and after a resource makes no difference to it. In a registry that stands for a
map, the selectors of a file are put into the map in their order. -/
namespace Sift

open Text

namespace Resource

/-- A selector of a known version. -/
def IsLoadable (r : Resource) : Prop :=
  asciiLower r.kind = "selector" ∧
    (r.apiVersion = "github.com/microsoft/PSRule/v1" ∨
      r.apiVersion = "github.com/microsoft/PSRule/2025-01-01")

theorem isLoadable_iff {r : Resource} :
    r.IsLoadable ↔ r.isSelector = true ∧ r.isSupported = true := by
  rw [isSelector, sameAscii_eq_true, show asciiLower "Selector" = "selector" by decide +kernel,
    isSupported, List.contains_iff_mem, apiVersions, List.mem_cons, List.mem_singleton, IsLoadable]

/-- What a selector has as its `if`. The record that holds it may be written as a list of its
entries, of which `if` is the only one. -/
inductive If (r : Resource) (document : Value) : Prop
  | named {members} : r.spec = .object members → Value.member? members "if" = some document →
      If r document
  | listed : r.spec = .array [document] → If r document

theorem condition_eq_ok {r : Resource} {document : Value} :
    r.condition = .ok document ↔ r.If document := by
  constructor
  · intro h
    unfold condition at h
    split at h
    · rename_i members hspec
      split at h
      · rename_i d hd
        cases h
        exact .named hspec hd
      · cases h
    · rename_i d hspec
      cases h
      exact .listed hspec
    · cases h
    · cases h
  · rintro (⟨hspec, hif⟩ | hspec)
    · rw [condition, hspec]
      simp only [hif]
    · rw [condition, hspec]

theorem not_if {r : Resource} {e : SpecError} (h : r.condition = .error e) (document : Value) :
    ¬ r.If document := by
  rw [← condition_eq_ok, h]
  exact nofun

end Resource

namespace Loaded

instance : Append Loaded where
  append a b := ⟨a.selectors ++ b.selectors, a.failures ++ b.failures⟩

theorem append_mk (ss ss' : List Selector) (fs fs' : List LoadFailure) :
    (⟨ss, fs⟩ ++ ⟨ss', fs'⟩ : Loaded) = ⟨ss ++ ss', fs ++ fs'⟩ := rfl

theorem append_empty (a : Loaded) : a ++ empty = a := by
  cases a
  rw [empty, append_mk, List.append_nil, List.append_nil]

theorem empty_append (a : Loaded) : empty ++ a = a := rfl

theorem append_assoc (a b c : Loaded) : a ++ b ++ c = a ++ (b ++ c) := by
  cases a
  cases b
  cases c
  simp only [append_mk, List.append_assoc]

variable {b : Builder}

/-! ### What resources add -/

/-- What a resource adds to what is loaded. -/
inductive Adds (b : Builder) (r : Resource) : Loaded → Prop
  | built {document condition} : r.IsLoadable → r.If document → b.build document = .ok condition →
      Adds b r ⟨[⟨r.name, condition⟩], []⟩
  | unbuilt {document e} : r.IsLoadable → r.If document → b.build document = .error e →
      Adds b r ⟨[], [⟨r.name, .build e⟩]⟩
  | noIf {e} : r.IsLoadable → (∀ document, ¬ r.If document) → r.condition = .error e →
      Adds b r ⟨[], [⟨r.name, .spec e⟩]⟩
  | skipped : ¬ r.IsLoadable → Adds b r empty

/-- What resources add, one after another. -/
inductive AddsAll (b : Builder) : List Resource → Loaded → Prop
  | nil : AddsAll b [] empty
  | cons {r rest own later} : Adds b r own → AddsAll b rest later →
      AddsAll b (r :: rest) (own ++ later)

theorem exists_adds (b : Builder) (r : Resource) : ∃ own, Adds b r own := by
  by_cases hr : r.IsLoadable
  · cases hcondition : r.condition with
    | error e => exact ⟨_, .noIf hr (Resource.not_if hcondition) hcondition⟩
    | ok document =>
      have hif := Resource.condition_eq_ok.1 hcondition
      cases hbuilt : b.build document with
      | ok condition => exact ⟨_, .built hr hif hbuilt⟩
      | error e => exact ⟨_, .unbuilt hr hif hbuilt⟩
  · exact ⟨_, .skipped hr⟩

theorem exists_addsAll (b : Builder) (resources : List Resource) :
    ∃ own, AddsAll b resources own := by
  induction resources with
  | nil => exact ⟨_, .nil⟩
  | cons r rest ih =>
    obtain ⟨own, hown⟩ := exists_adds b r
    obtain ⟨later, hlater⟩ := ih
    exact ⟨_, .cons hown hlater⟩

theorem AddsAll.append {resources resources' : List Resource} {own own' : Loaded}
    (h : AddsAll b resources own) (h' : AddsAll b resources' own') :
    AddsAll b (resources ++ resources') (own ++ own') := by
  induction h with
  | nil => exact h'
  | cons hown _ ih =>
    rw [append_assoc]
    exact .cons hown ih

/-! ### Loading -/

theorem add_of_isLoadable {r : Resource} (hr : r.IsLoadable) (loaded : Loaded) :
    add b loaded r = match loadOne b r with
      | .ok s => loaded ++ ⟨[s], []⟩
      | .error f => loaded ++ ⟨[], [f]⟩ := by
  obtain ⟨hselector, hsupported⟩ := Resource.isLoadable_iff.1 hr
  rw [add, hselector, hsupported]
  cases loaded
  cases loadOne b r <;>
    simp only [append_mk, List.append_nil, Bool.not_true, Bool.false_eq_true, if_false]

/-- Going on with a resource appends what it adds. -/
theorem Adds.add_eq {r : Resource} {own : Loaded} (h : Adds b r own) (loaded : Loaded) :
    add b loaded r = loaded ++ own := by
  cases h with
  | built hr hif hbuilt =>
    rw [add_of_isLoadable hr, loadOne, Resource.condition_eq_ok.2 hif]
    simp only [hbuilt]
  | unbuilt hr hif hbuilt =>
    rw [add_of_isLoadable hr, loadOne, Resource.condition_eq_ok.2 hif]
    simp only [hbuilt]
  | noIf hr _ hcondition => rw [add_of_isLoadable hr, loadOne, hcondition]
  | skipped hr =>
    rw [append_empty, add]
    split
    · rfl
    · split
      · rfl
      · rename_i hselector hsupported
        rw [Bool.not_eq_true, Bool.not_eq_false'] at hselector hsupported
        exact absurd (Resource.isLoadable_iff.2 ⟨hselector, hsupported⟩) hr

theorem AddsAll.foldl_eq {resources : List Resource} {own : Loaded} (h : AddsAll b resources own)
    (loaded : Loaded) : resources.foldl (add b) loaded = loaded ++ own := by
  induction h generalizing loaded with
  | nil => exact (append_empty loaded).symm
  | cons hown _ ih => rw [List.foldl_cons, hown.add_eq, ih, append_assoc]

theorem addsAll_iff {resources : List Resource} {loaded : Loaded} :
    AddsAll b resources loaded ↔ loaded = ofResources b resources := by
  have heq {own : Loaded} (h : AddsAll b resources own) : own = ofResources b resources := by
    rw [ofResources, h.foldl_eq, empty_append]
  constructor
  · exact heq
  · rintro rfl
    obtain ⟨own, hown⟩ := exists_addsAll b resources
    rw [← heq hown]
    exact hown

theorem addsAll_ofResources (b : Builder) (resources : List Resource) :
    AddsAll b resources (ofResources b resources) := addsAll_iff.2 rfl

theorem ofResources_append (b : Builder) (resources resources' : List Resource) :
    ofResources b (resources ++ resources') =
      ofResources b resources ++ ofResources b resources' :=
  (addsAll_iff.1 ((addsAll_ofResources b resources).append
    (addsAll_ofResources b resources'))).symm

theorem parse_eq_ok {content : String} {resources : List Resource}
    (h : Resource.parseAll content = .ok resources) (b : Builder) :
    parse b content = .ok (ofResources b resources) := by
  rw [parse, h]
  rfl

end Loaded

/-! ### Registering -/

/-- The map with more selectors: the last of those that have a name, or else what had that name
before. -/
def NameMap.putAll (f : NameMap) (selectors : List Selector) : NameMap := fun key =>
  (selectors.reverse.find? fun s => lowerText s.name = key).or (f key)

theorem NameMap.putAll_cons (f : NameMap) (s : Selector) (rest : List Selector) :
    f.putAll (s :: rest) = (f.put s).putAll rest := by
  funext key
  have hone : ([s].find? fun s => lowerText s.name = key).or (f key) = f.put s key := by
    unfold NameMap.put
    by_cases hkey : lowerText s.name = key
    · rw [← hkey, Function.update_self]
      simp
    · rw [Function.update_of_ne (Ne.symm hkey)]
      simp [hkey]
  rw [putAll, putAll, List.reverse_cons, List.find?_append, Option.or_assoc, hone]

theorem SelectorRegistry.Represents.registerAll {r : SelectorRegistry} {f : NameMap}
    (h : r.Represents f) (selectors : List Selector) :
    (r.registerAll selectors).Represents (f.putAll selectors) := by
  induction selectors generalizing r f with
  | nil => exact h
  | cons s rest ih =>
    rw [NameMap.putAll_cons]
    exact ih (h.register s)

/-! ### Files -/

namespace Loaded

/-- **A resource that cannot be loaded does not disturb the others.** If a file can be read as
resources, then what is loaded from it is what they add, each on its own, one after another. If any
of them are exchanged for others, what the rest adds is in its place as before. A registry that
loads the file goes on as if the selectors had been registered one after another, so of those with
one name the last is found. If a file cannot be read as resources, nothing is registered. -/
theorem load_adds (b : Builder) (content : String) (registry : SelectorRegistry) :
    (∀ resources, Resource.parseAll content = .ok resources → ∃ loaded,
      Loaded.parse b content = .ok loaded ∧
      (∀ loaded', AddsAll b resources loaded' ↔ loaded' = loaded) ∧
      (∀ before exchanged after, resources = before ++ exchanged ++ after →
        ∀ content' exchanged',
          Resource.parseAll content' = .ok (before ++ exchanged' ++ after) →
          ∃ loaded' front own own' back, Loaded.parse b content' = .ok loaded' ∧
            loaded = front ++ own ++ back ∧ loaded' = front ++ own' ++ back ∧
            AddsAll b before front ∧ AddsAll b exchanged own ∧ AddsAll b exchanged' own' ∧
            AddsAll b after back) ∧
      registry.load b content = (.ok loaded.failures,
        loaded.selectors.foldl (fun r s => (r.register s).2) registry) ∧
      ∀ f, registry.Represents f →
        (registry.load b content).2.Represents (f.putAll loaded.selectors)) ∧
    ∀ e, Resource.parseAll content = .error e →
      Loaded.parse b content = .error e ∧ registry.load b content = (.error e, registry) := by
  constructor
  · intro resources hresources
    have hparse := parse_eq_ok hresources b
    have hload : registry.load b content = (.ok (ofResources b resources).failures,
        registry.registerAll (ofResources b resources).selectors) := by
      rw [SelectorRegistry.load, hparse]
    refine ⟨_, hparse, fun _ => addsAll_iff, ?_, hload, ?_⟩
    · rintro before exchanged after rfl content' exchanged' hresources'
      refine ⟨_, _, _, _, _, parse_eq_ok hresources' b, ?_, ?_, addsAll_ofResources b before,
        addsAll_ofResources b exchanged, addsAll_ofResources b exchanged',
        addsAll_ofResources b after⟩
      · rw [ofResources_append, ofResources_append]
      · rw [ofResources_append, ofResources_append]
    · intro f hf
      rw [hload]
      exact hf.registerAll _
  · intro e he
    have hparse : Loaded.parse b content = .error e := by
      rw [Loaded.parse, he]
      rfl
    refine ⟨hparse, ?_⟩
    rw [SelectorRegistry.load, hparse]

/-- A selector with no condition in front of one that is built. -/
theorem load_adds_mixed :
    let content := "apiVersion: github.com/microsoft/PSRule/v1\nkind: Selector\nmetadata:\n" ++
      "  name: A\n---\napiVersion: github.com/microsoft/PSRule/v1\nkind: SELECTOR\nmetadata:\n" ++
      "  name: B\nspec:\n  if:\n    name: .\n    equals: x\n"
    ∃ e s, s.name = "B" ∧ Loaded.parse (.of Regex.engine {}) content = .ok ⟨[s], [⟨"A", .spec e⟩]⟩ ∧
      (SelectorRegistry.empty.load (.of Regex.engine {}) content).2.Represents
        (NameMap.putAll (fun _ => none) [s]) := by
  intro content
  let b := Builder.of Regex.engine {}
  have hread : (Resource.parseAll content).toOption.map (fun resources => resources.map fun r =>
      (r.isSelector && r.isSupported, r.name, r.condition.toOption.map fun d =>
        (b.build d).toOption.isSome)) =
      some [(true, "A", none), (true, "B", some true)] := by decide +kernel
  obtain ⟨resources, hresources, hread⟩ := Option.map_eq_some_iff.1 hread
  obtain ⟨r₁, rest, rfl, hr₁, hread⟩ := List.map_eq_cons_iff.1 hread
  obtain ⟨r₂, rest, rfl, hr₂, hread⟩ := List.map_eq_cons_iff.1 hread
  obtain rfl := List.map_eq_nil_iff.1 hread
  simp only [Prod.mk.injEq, Bool.and_eq_true, Option.map_eq_none_iff] at hr₁ hr₂
  obtain ⟨hloadable₁, hname₁, hnone⟩ := hr₁
  obtain ⟨hloadable₂, hname₂, hbuilt⟩ := hr₂
  have hadds₁ : ∃ e, Adds b r₁ ⟨[], [⟨r₁.name, .spec e⟩]⟩ := by
    cases he : r₁.condition with
    | ok document =>
      rw [he] at hnone
      cases hnone
    | error e => exact ⟨e, .noIf (Resource.isLoadable_iff.2 hloadable₁) (Resource.not_if he) he⟩
  obtain ⟨e, hadds₁⟩ := hadds₁
  obtain ⟨document, hdocument, hsome⟩ := Option.map_eq_some_iff.1 hbuilt
  obtain ⟨condition, hcondition⟩ := Option.isSome_iff_exists.1 hsome
  have hadds₂ : Adds b r₂ ⟨[⟨r₂.name, condition⟩], []⟩ :=
    .built (Resource.isLoadable_iff.2 hloadable₂)
      (Resource.condition_eq_ok.1 (toOption_eq_some.1 hdocument)) (toOption_eq_some.1 hcondition)
  obtain ⟨loaded, hparse, hadds, -, -, hrep⟩ :=
    (load_adds b content .empty).1 _ (toOption_eq_some.1 hresources)
  obtain rfl := (hadds _).1 (.cons hadds₁ (.cons hadds₂ .nil))
  rw [hname₁] at hparse
  exact ⟨e, _, hname₂, hparse, hrep _ SelectorRegistry.represents_empty⟩

/-- A selector whose record is written as a list is loaded, though it has no member `if`. -/
theorem parse_listed :
    let content := "apiVersion: github.com/microsoft/PSRule/v1\nkind: Selector\nmetadata:\n" ++
      "  name: A\nspec:\n- name: .\n  equals: x\n"
    ∃ r s, Resource.parseAll content = .ok [r] ∧ r.IsLoadable ∧
      (¬ ∃ members document, r.spec = .object members ∧
        Value.member? members "if" = some document) ∧
      Loaded.parse (.of Regex.engine {}) content = .ok ⟨[s], []⟩ := by
  intro content
  let b := Builder.of Regex.engine {}
  have hread : (Resource.parseAll content).toOption.map (fun resources => resources.map fun r =>
      (r.isSelector && r.isSupported, r.condition.toOption.map fun d =>
        (b.build d).toOption.isSome, View.isObject r.spec)) =
      some [(true, some true, false)] := by decide +kernel
  obtain ⟨resources, hresources, hread⟩ := Option.map_eq_some_iff.1 hread
  obtain ⟨r, rest, rfl, hr, hread⟩ := List.map_eq_cons_iff.1 hread
  obtain rfl := List.map_eq_nil_iff.1 hread
  simp only [Prod.mk.injEq, Bool.and_eq_true] at hr
  obtain ⟨hloadable, hbuilt, hspec⟩ := hr
  obtain ⟨document, hdocument, hsome⟩ := Option.map_eq_some_iff.1 hbuilt
  obtain ⟨condition, hcondition⟩ := Option.isSome_iff_exists.1 hsome
  have hresources := toOption_eq_some.1 hresources
  have hloadable := Resource.isLoadable_iff.2 hloadable
  have hadds : AddsAll b [r] ⟨[⟨r.name, condition⟩], []⟩ :=
    .cons (.built hloadable (Resource.condition_eq_ok.1 (toOption_eq_some.1 hdocument))
      (toOption_eq_some.1 hcondition)) .nil
  refine ⟨r, ⟨r.name, condition⟩, hresources, hloadable, ?_, ?_⟩
  · rintro ⟨members, -, hmembers, -⟩
    rw [hmembers] at hspec
    cases hspec
  · rw [parse_eq_ok hresources b, ← addsAll_iff.1 hadds]

end Loaded

end Sift
