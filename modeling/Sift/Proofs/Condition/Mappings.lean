import Mathlib.Order.Lattice
import Sift.Proofs.Condition.Location
import Sift.Proofs.Listing
import Sift.Proofs.Path.Characters
import Sift.Proofs.Text.Integer

/-! Conditions and the mappings that they are read from.

A document tells by itself which of its mappings are conditions: the document as a whole, what
stands under its combinator, and the `where` of a group with a field; and the same again inside
of these (`mappings`). What is built has one condition for each of them, in this order
(`mappings_family`); their levels are the depth of what is built (`forall_level_iff`), and no two
of its conditions have the same path (`paths_family`).

Everything comes from one lemma on a single mapping (`condition_parts`): the parts of the
condition are read from the documents right inside, each at its place. -/
namespace Sift

open Branching Text

/-! ### Conditions as trees -/

namespace Condition

/-- The conditions right inside of one: the children, and then the filter of its items. -/
def parts : Condition → List Condition
  | .leaf .. => []
  | .group _ _ children => children
  | .forEach _ _ children _ filter _ => children ++ filter.toList

/-- What a condition tells of itself, but for its parts. -/
structure Label where
  path : String
  name : String
  /-- How the parts are combined, if they are. -/
  combinator : Option Combinator

def label (c : Condition) : Label where
  path := c.path
  name := c.name
  combinator :=
    match c with
    | .leaf .. => none
    | .group _ k _ => some k
    | .forEach _ k .. => some k

theorem name_of_combinator {k : Combinator} {c : Condition} (h : c.label.combinator = some k) :
    c.name = k.name := by
  cases c <;> cases h <;> rfl

theorem sizeOf_part {c part : Condition} (h : part ∈ c.parts) : sizeOf part < sizeOf c := by
  cases c with
  | leaf => cases h
  | group path k children =>
    have hmem : part ∈ children := h
    have hlt := List.sizeOf_lt_of_mem hmem
    rw [group.sizeOf_spec]
    omega
  | forEach path k children field filter q =>
    rw [forEach.sizeOf_spec]
    obtain h | h := List.mem_append.1 h
    · have hlt := List.sizeOf_lt_of_mem h
      omega
    · obtain rfl := Option.mem_toList.1 h
      rw [Option.some.sizeOf_spec]
      omega

instance : Branching Condition where
  parts := parts
  sizeOf_lt _ _ := sizeOf_part

theorem depthAll_le_iff {cs : List Condition} {n : Nat} :
    depthAll cs ≤ n ↔ ∀ c ∈ cs, c.depth ≤ n := by
  induction cs with
  | nil => exact ⟨fun _ _ h => absurd h List.not_mem_nil, fun _ => Nat.zero_le n⟩
  | cons c cs ih => rw [depthAll, Nat.max_le, ih, List.forall_mem_cons]

theorem depthOption_eq (filter : Option Condition) :
    depthOption filter = depthAll filter.toList := by
  cases filter with
  | none => rfl
  | some c => exact (Nat.max_zero _).symm

/-- A condition is one deeper than the deepest of its parts. -/
theorem depth_le_iff {c : Condition} {n : Nat} :
    c.depth ≤ n + 1 ↔ ∀ part ∈ c.parts, part.depth ≤ n := by
  rw [← depthAll_le_iff]
  cases c with
  | leaf path l =>
    show 1 ≤ n + 1 ↔ 0 ≤ n
    omega
  | group path k children => exact Nat.succ_le_succ_iff
  | forEach path k children field filter q =>
    have hdepth : depthAll (children ++ filter.toList) =
        max (depthAll children) (depthOption filter) := by
      refine eq_of_forall_ge_iff fun n => ?_
      rw [depthOption_eq, Nat.max_le, depthAll_le_iff, depthAll_le_iff, depthAll_le_iff,
        List.forall_mem_append]
    rw [depth, parts, hdepth]
    exact Nat.succ_le_succ_iff

/-- The same for a condition at a level: its parts are one level further in. -/
theorem level_depth_le_iff {c : Condition} {level n : Nat} :
    level + c.depth ≤ n + 1 ↔ (∀ part ∈ c.parts, level + 1 + part.depth ≤ n + 1) ∧ level ≤ n := by
  by_cases hn : level ≤ n
  · obtain ⟨below, rfl⟩ := Nat.exists_eq_add_of_le hn
    have hparts : (∀ part ∈ c.parts, level + 1 + part.depth ≤ level + below + 1) ↔
        ∀ part ∈ c.parts, part.depth ≤ below := forall₂_congr fun part _ => by omega
    rw [hparts, ← depth_le_iff]
    omega
  · have hpos : 0 < c.depth := by cases c <;> exact Nat.succ_pos _
    omega

end Condition

namespace Builder

/-! ### The mappings of a document -/

/-- The documents in the value of a combinator. -/
def documents : Value → List Value
  | .array items => items
  | .object members => [.object members]
  | _ => []

/-- Documents with their places in a group, from the index `i` on. -/
def numbered (path : String) (i : Nat) : List Value → List (String × Value)
  | [] => []
  | d :: rest => (s!"{path}[{i}]", d) :: numbered path (i + 1) rest

/-- The filter of the items, with its place; it counts only where there is a field. -/
def filterDocument (path : String) (members : Members) : List (String × Value) :=
  match member? members "field" with
  | none => []
  | some _ => (member? members "where").toList.map fun d => (path ++ ".where", d)

/-- The documents right inside of one, with their places. -/
def inner (location : String) (members : Members) : List (String × Value) :=
  (combinators members).flatMap fun (k, v) =>
    numbered (location ++ "." ++ k.name) 0 (documents v) ++
      filterDocument (location ++ "." ++ k.name) members

/-- A mapping that stands for a condition, with its place and how deep it is nested. -/
structure Mapping where
  location : String
  level : Nat
  members : Members

theorem mem_numbered {path : String} {i : Nat} {ds : List Value} {d : String × Value}
    (h : d ∈ numbered path i ds) : d.2 ∈ ds ∧ ∃ j, i ≤ j ∧ d.1 = s!"{path}[{j}]" := by
  induction ds generalizing i with
  | nil => cases h
  | cons v ds ih =>
    obtain rfl | h := List.mem_cons.1 h
    · exact ⟨List.mem_cons_self, i, Nat.le_refl i, rfl⟩
    · obtain ⟨hmem, j, hj, hplace⟩ := ih h
      exact ⟨List.mem_cons_of_mem v hmem, j, by omega, hplace⟩

theorem mem_filterDocument {path : String} {members : Members} {d : String × Value}
    (h : d ∈ filterDocument path members) :
    member? members "where" = some d.2 ∧ d.1 = path ++ ".where" := by
  unfold filterDocument at h
  split at h
  · cases h
  · obtain ⟨w, hw, rfl⟩ := List.mem_map.1 h
    exact ⟨Option.mem_toList.1 hw, rfl⟩

theorem mem_inner {location : String} {members : Members} {d : String × Value}
    (h : d ∈ inner location members) : ∃ k v, (k, v) ∈ combinators members ∧
      (d ∈ numbered (location ++ "." ++ k.name) 0 (documents v) ∨
        d ∈ filterDocument (location ++ "." ++ k.name) members) := by
  obtain ⟨⟨k, v⟩, hmem, h⟩ := List.mem_flatMap.1 h
  exact ⟨k, v, hmem, List.mem_append.1 h⟩

theorem inner_none {location : String} {members : Members} (hnone : combinators members = []) :
    inner location members = [] := by
  rw [inner, hnone, List.flatMap_nil]

theorem inner_one {location : String} {members : Members} {k : Combinator} {v : Value}
    (hone : combinators members = [(k, v)]) : inner location members =
      numbered (location ++ "." ++ k.name) 0 (documents v) ++
        filterDocument (location ++ "." ++ k.name) members := by
  rw [inner, hone, List.flatMap_singleton]

theorem sizeOf_member {members : Members} {key : String} {v : Value} (h : (key, v) ∈ members) :
    sizeOf v < sizeOf (Value.object members) := by
  have hlt := List.sizeOf_lt_of_mem h
  rw [Prod.mk.sizeOf_spec] at hlt
  rw [Value.object.sizeOf_spec]
  omega

theorem sizeOf_documents {v d : Value} (h : d ∈ documents v) : sizeOf d ≤ sizeOf v := by
  cases v with
  | array items =>
    have hmem : d ∈ items := h
    have hlt := List.sizeOf_lt_of_mem hmem
    rw [Value.array.sizeOf_spec]
    omega
  | object members =>
    obtain rfl := List.mem_singleton.1 h
    exact Nat.le_refl _
  | _ => cases h

theorem member?_mem {members : Members} {key : String} {v : Value}
    (h : member? members key = some v) : ∃ name, (name, v) ∈ members := by
  have hfound {test : String × Value → Bool}
      (h : (members.find? test).map Prod.snd = some v) : ∃ name, (name, v) ∈ members := by
    obtain ⟨⟨name, _⟩, hfind, rfl⟩ := Option.map_eq_some_iff.1 h
    exact ⟨name, List.mem_of_find?_eq_some hfind⟩
  unfold member? at h
  split at h
  · rename_i w hw
    cases h
    exact hfound hw
  · exact hfound h

theorem sizeOf_inner {location : String} {members : Members} {d : String × Value}
    (h : d ∈ inner location members) : sizeOf d.2 < sizeOf (Value.object members) := by
  obtain ⟨k, v, hmem, h | h⟩ := mem_inner h
  · obtain ⟨⟨key, w⟩, hkey, hcombinator⟩ := List.mem_filterMap.1 hmem
    obtain ⟨_, -, ⟨⟩⟩ := Option.map_eq_some_iff.1 hcombinator
    exact Nat.lt_of_le_of_lt (sizeOf_documents (mem_numbered h).1) (sizeOf_member hkey)
  · obtain ⟨name, hname⟩ := member?_mem (mem_filterDocument h).1
    exact sizeOf_member hname

/-- The mappings of a document that stand for conditions, the inner ones first. -/
def mappings (location : String) (level : Nat) : Value → List Mapping
  | .object members =>
    (inner location members).attach.flatMap (fun d => mappings d.1.1 (level + 1) d.1.2) ++
      [⟨location, level, members⟩]
  | _ => []
termination_by v => sizeOf v
decreasing_by exact sizeOf_inner d.2

theorem mappings_object (location : String) (level : Nat) (members : Members) :
    mappings location level (.object members) =
      (inner location members).flatMap (fun d => mappings d.1 (level + 1) d.2) ++
        [⟨location, level, members⟩] := by
  rw [mappings, List.flatMap_def, List.flatMap_def,
    List.attach_map_val (f := fun d : String × Value => mappings d.1 (level + 1) d.2)]

/-- How deep the conditions of a document are nested. -/
def nesting (document : Value) : Nat :=
  ((mappings "" 1 document).map Mapping.level).foldr max 0

theorem nesting_le_iff {document : Value} {n : Nat} :
    nesting document ≤ n ↔ ∀ m ∈ mappings "" 1 document, m.level ≤ n := by
  rw [nesting]
  induction mappings "" 1 document with
  | nil => exact ⟨fun _ _ h => absurd h List.not_mem_nil, fun _ => Nat.zero_le n⟩
  | cons m ms ih => rw [List.map_cons, List.foldr_cons, Nat.max_le, ih, List.forall_mem_cons]

/-! ### One mapping -/

/-- The mapping is the one for a condition with this label. -/
structure Mapping.IsFor (m : Mapping) (l : Condition.Label) : Prop where
  path_eq : l.path = m.location ++ "." ++ l.name
  combinators_eq : (combinators m.members).map Prod.fst = l.combinator.toList

variable {b : Builder} {levels : Nat} {location : String} {v : Value} {c : Condition}

theorem documents_of_children {path : String} {k : Combinator} {ds : List Value}
    (h : children path k v = .ok ds) : ds = documents v := by
  unfold children at h
  split at h
  · split at h
    · cases h
      rfl
    · split at h <;> cases h
      rfl
  · rename_i hitems
    split at h
    · split at h
      · rename_i hobject
        cases h
        cases v with
        | object members => rfl
        | _ => cases hobject
      · split at h
        · rename_i hobject _
          cases h
          cases v with
          | object members => exact absurd rfl hobject
          | array items => exact absurd rfl (hitems items)
          | _ => rfl
        · cases h
    · cases h

/-- The condition was read from the document, at its place. -/
abbrev ReadFrom (b : Builder) (levels : Nat) (c : Condition) (d : String × Value) : Prop :=
  b.condition levels d.1 d.2 = .ok c

theorem readFrom_numbered {path : String} {i : Nat} {ds : List Value} {cs : List Condition}
    (h : readAll (b.condition levels) path i ds = .ok cs) :
    List.Forall₂ (b.ReadFrom levels) cs (numbered path i ds) := by
  induction ds generalizing i cs with
  | nil =>
    cases h
    exact .nil
  | cons d ds ih =>
    obtain ⟨c, hc, h⟩ := Path.bind_eq_ok.1 h
    obtain ⟨cs, hcs, h⟩ := Path.bind_eq_ok.1 h
    cases h
    exact .cons hc (ih hcs)

/-- A condition is read from one mapping, and its parts from the documents right inside. -/
theorem condition_parts (h : b.condition (levels + 1) location v = .ok c) :
    ∃ members, v = .object members ∧
      (∀ level, Mapping.IsFor ⟨location, level, members⟩ c.label) ∧
      List.Forall₂ (b.ReadFrom levels) c.parts (inner location members) := by
  obtain ⟨members, rfl, ⟨hnone, hleaf⟩ | ⟨k, w, ds, cs, hone, hds, hcs, hgroup⟩⟩ :=
    b.condition_eq_ok.1 h
  · refine ⟨members, rfl, ?_⟩
    obtain ⟨kind, key, v, f, subject, o, -, -, -, -, -, rfl⟩ := b.leaf_eq_ok.1 hleaf
    rw [inner_none hnone]
    exact ⟨fun level => ⟨rfl, by rw [hnone]; rfl⟩, .nil⟩
  · refine ⟨members, rfl, ?_⟩
    obtain rfl := documents_of_children hds
    have hchildren := readFrom_numbered hcs
    rw [inner_one hone]
    unfold filterDocument
    cases hgroup with
    | group hfield =>
      rw [hfield, List.append_nil]
      exact ⟨fun level => ⟨rfl, by rw [hone]; rfl⟩, hchildren⟩
    | @forEach v field filter q hfield _ hfilter _ =>
      rw [hfield]
      refine ⟨fun level => ⟨rfl, by rw [hone]; rfl⟩, List.rel_append hchildren ?_⟩
      cases hfilter with
      | none hwhere =>
        rw [hwhere]
        exact .nil
      | some hwhere hread =>
        rw [hwhere]
        exact .cons hread .nil

/-! ### All mappings -/

/-- There is one condition for each mapping, in the same order. -/
theorem mappings_family (h : b.condition levels location v = .ok c) (level : Nat) :
    List.Forall₂ (fun c m => Mapping.IsFor m c.label) (family c)
      (mappings location level v) := by
  -- The parts are read with one level less.
  induction levels generalizing location v c level with
  | zero => cases h
  | succ levels ih =>
    obtain ⟨members, rfl, hself, hparts⟩ := condition_parts h
    rw [family_eq, mappings_object]
    refine List.rel_append ?_ (.cons (hself level) .nil)
    exact List.rel_flatMap hparts fun _ _ hread => ih hread (level + 1)

/-- The levels of the mappings are the depth of the condition. -/
theorem forall_level_iff (h : b.condition levels location v = .ok c) (level n : Nat) :
    (∀ m ∈ mappings location level v, m.level ≤ n) ↔ level + c.depth ≤ n + 1 := by
  induction levels generalizing location v c level with
  | zero => cases h
  | succ levels ih =>
    obtain ⟨members, rfl, -, hparts⟩ := condition_parts h
    have hinner :
        (∀ d ∈ inner location members, ∀ m ∈ mappings d.1 (level + 1) d.2, m.level ≤ n) ↔
          ∀ part ∈ c.parts, level + 1 + part.depth ≤ n + 1 := by
      generalize inner location members = ds, c.parts = cs at hparts
      induction hparts with
      | nil => exact ⟨fun _ _ h => absurd h List.not_mem_nil, fun _ _ h => absurd h List.not_mem_nil⟩
      | cons hread _ ihs =>
        rw [List.forall_mem_cons, List.forall_mem_cons, ihs, ih hread (level + 1)]
    rw [mappings_object, List.forall_mem_append, List.forall_mem_singleton, List.forall_mem_flatMap,
      hinner]
    exact Condition.level_depth_le_iff.symm

theorem exists_of_forall₂ {α β : Type} {R : α → β → Prop} {xs : List α} {ys : List β}
    (h : List.Forall₂ R xs ys) {x : α} (hx : x ∈ xs) : ∃ y ∈ ys, R x y := by
  obtain ⟨i, hi, rfl⟩ := List.getElem_of_mem hx
  have hi' : i < ys.length := h.length_eq ▸ hi
  exact ⟨ys[i], List.getElem_mem hi', h.get hi hi'⟩

/-- What is read where `levels` levels are left has no more of them. -/
theorem depth_le (h : b.condition levels location v = .ok c) : c.depth ≤ levels := by
  induction levels generalizing location v c with
  | zero => cases h
  | succ levels ih =>
    obtain ⟨members, rfl, -, hparts⟩ := condition_parts h
    rw [Condition.depth_le_iff]
    intro part hpart
    obtain ⟨d, -, hread⟩ := exists_of_forall₂ hparts hpart
    exact ih hread

/-! ### Paths -/

/-- A path that goes on from a location. -/
def Beneath (location path : String) : Prop := ∃ rest, path = location ++ "." ++ rest

/-- No path goes on from both locations. -/
def Parted (p q : String) : Prop := ∀ path, Beneath p path → ¬ Beneath q path

theorem Beneath.toList_eq {path : String} (h : Beneath location path) :
    ∃ rest : List Char, path.toList = location.toList ++ '.' :: rest := by
  obtain ⟨rest, rfl⟩ := h
  refine ⟨rest.toList, ?_⟩
  simp only [String.toList_append, List.append_assoc]
  rfl

/-- What comes before the first of a mark is told by the whole. -/
theorem eq_of_append_cons {mark : Char} {front front' back back' : List Char} (h : mark ∉ front)
    (h' : mark ∉ front') (heq : front ++ mark :: back = front' ++ mark :: back') :
    front = front' := by
  have hread {run : List Char} (hrun : mark ∉ run) (rest : List Char) :
      (run ++ mark :: rest).takeWhile (· != mark) = run :=
    Path.takeWhile_run (fun c hc => bne_iff_ne.2 fun hmark => hrun (hmark ▸ hc))
      (Path.ends_cons (bne_self_eq_false mark))
  rw [← hread h back, heq, hread h' back']

theorem parted_items {path : String} {i j : Nat} (hij : i ≠ j) :
    Parted s!"{path}[{i}]" s!"{path}[{j}]" := by
  intro p hi hj
  obtain ⟨rest, hrest⟩ := hi.toList_eq
  obtain ⟨rest', hrest'⟩ := hj.toList_eq
  rw [hrest, toList_indexed, toList_indexed, List.append_assoc, List.append_assoc,
    List.append_cancel_left_eq, List.cons_append, List.cons_append, List.append_assoc,
    List.append_assoc, List.cons.injEq] at hrest'
  have hdigits := eq_of_append_cons (bracket_not_mem_toString i) (bracket_not_mem_toString j)
    hrest'.2
  exact hij (toString_injective hdigits)

theorem parted_filter (path : String) (i : Nat) :
    Parted s!"{path}[{i}]" (path ++ ".where") := by
  intro p hi hfilter
  obtain ⟨rest, hrest⟩ := hi.toList_eq
  obtain ⟨rest', hrest'⟩ := hfilter.toList_eq
  rw [hrest, toList_indexed, String.toList_append, List.append_assoc, List.append_assoc,
    List.append_cancel_left_eq] at hrest'
  cases hrest'

theorem pairwise_numbered (path : String) (i : Nat) (ds : List Value) :
    (numbered path i ds).Pairwise fun d d' => Parted d.1 d'.1 := by
  induction ds generalizing i with
  | nil => exact .nil
  | cons v ds ih =>
    refine List.pairwise_cons.2 ⟨fun d hd => ?_, ih (i + 1)⟩
    obtain ⟨-, j, hj, hplace⟩ := mem_numbered hd
    rw [hplace]
    exact parted_items (by omega)

theorem pairwise_inner {members : Members} {l : Condition.Label}
    (h : Mapping.IsFor ⟨location, 0, members⟩ l) :
    (inner location members).Pairwise fun d d' => Parted d.1 d'.1 := by
  have hcombinators := h.combinators_eq
  cases hl : l.combinator with
  | none =>
    rw [hl] at hcombinators
    rw [inner_none (List.map_eq_nil_iff.1 hcombinators)]
    exact .nil
  | some k =>
    rw [hl] at hcombinators
    obtain ⟨⟨_, v⟩, hone, rfl⟩ := List.map_eq_singleton_iff.1 hcombinators
    rw [inner_one hone]
    refine List.pairwise_append.2 ⟨pairwise_numbered _ 0 _, ?_, ?_⟩
    · unfold filterDocument
      split
      · exact .nil
      · cases member? members "where"
        · exact .nil
        · exact List.pairwise_singleton _ _
    · intro d hd d' hd'
      obtain ⟨-, j, -, hplace⟩ := mem_numbered hd
      obtain ⟨-, hplace'⟩ := mem_filterDocument hd'
      rw [hplace, hplace']
      exact parted_filter _ j

/-- What is inside of a mapping stands further on than the condition itself. -/
theorem inner_path {members : Members} {d : String × Value} (h : d ∈ inner location members)
    (hc : Mapping.IsFor ⟨location, 0, members⟩ c.label) :
    ∃ step, d.1 = c.path ++ step := by
  obtain ⟨k, w, hmem, h⟩ := mem_inner h
  have hpath : c.path = location ++ "." ++ k.name := by
    have hk : k ∈ c.label.combinator.toList := by
      rw [← hc.combinators_eq]
      exact List.mem_map_of_mem hmem
    have hname : c.path = location ++ "." ++ c.name := hc.path_eq
    rw [hname, Condition.name_of_combinator (Option.mem_toList.1 hk)]
  rw [hpath]
  obtain h | h := h
  · obtain ⟨-, j, -, hplace⟩ := mem_numbered h
    refine ⟨"[" ++ toString j ++ "]", hplace.trans ?_⟩
    show location ++ "." ++ k.name ++ "[" ++ toString j ++ "]" = _
    simp only [String.append_assoc]
  · exact ⟨_, (mem_filterDocument h).2⟩

theorem Beneath.trans {path step p : String} (h : Beneath location path)
    (h' : Beneath (path ++ step) p) : Beneath location p := by
  obtain ⟨rest, rfl⟩ := h
  obtain ⟨rest', rfl⟩ := h'
  exact ⟨rest ++ step ++ "." ++ rest', by simp only [String.append_assoc]⟩

theorem Beneath.ne {path step p : String} (h : Beneath (path ++ step) p) : p ≠ path := by
  obtain ⟨rest, hrest⟩ := h
  intro heq
  have hlength := congrArg String.length (hrest.symm.trans heq)
  simp only [String.length_append] at hlength
  have hdot : ".".length = 1 := rfl
  omega

/-- The paths in a condition that was read at a location: they all start there, and no two of
them are the same. -/
structure Paths (location : String) (paths : List String) : Prop where
  beneath : ∀ p ∈ paths, Beneath location p
  nodup : paths.Nodup

theorem nodup_parts {cs : List Condition} {ds : List (String × Value)}
    (h : List.Forall₂ (fun c d => Paths d.1 ((family c).map Condition.path)) cs ds)
    (hparted : ds.Pairwise fun d d' => Parted d.1 d'.1) :
    ((cs.flatMap family).map Condition.path).Nodup := by
  induction h with
  | nil => exact .nil
  | @cons c d cs ds hpaths hrest ih =>
    obtain ⟨hfirst, hparted⟩ := List.pairwise_cons.1 hparted
    rw [List.flatMap_cons, List.map_append, List.nodup_append]
    refine ⟨hpaths.nodup, ih hparted, fun p hp q hq heq => ?_⟩
    obtain ⟨e, he, rfl⟩ := List.mem_map.1 hq
    obtain ⟨c', hc', he⟩ := List.mem_flatMap.1 he
    obtain ⟨d', hd', hpaths'⟩ := exists_of_forall₂ hrest hc'
    have hbeneath := hpaths'.beneath _ (List.mem_map_of_mem he)
    exact hfirst d' hd' p (hpaths.beneath p hp) (heq ▸ hbeneath)

/-- Conditions that are read at a location have their paths there. -/
theorem paths_family (h : b.condition levels location v = .ok c) :
    Paths location ((family c).map Condition.path) := by
  induction levels generalizing location v c with
  | zero => cases h
  | succ levels ih =>
    obtain ⟨members, rfl, hself, hparts⟩ := condition_parts h
    have hpaths := hparts.imp fun _ _ hread => ih hread
    have hroot : Beneath location c.path := ⟨c.name, (hself 0).path_eq⟩
    -- Paths of parts go on from the path of the condition, so they are longer than it.
    have hinside : ∀ p ∈ (c.parts.flatMap family).map Condition.path,
        ∃ step, Beneath (c.path ++ step) p := by
      intro p hp
      obtain ⟨e, he, rfl⟩ := List.mem_map.1 hp
      obtain ⟨part, hpart, he⟩ := List.mem_flatMap.1 he
      obtain ⟨d, hd, hpart⟩ := exists_of_forall₂ hpaths hpart
      obtain ⟨step, hstep⟩ := inner_path hd (hself 0)
      exact ⟨step, hstep ▸ hpart.beneath _ (List.mem_map_of_mem he)⟩
    rw [family_eq, List.map_append]
    constructor
    case beneath =>
      intro p hp
      obtain hp | hp := List.mem_append.1 hp
      · obtain ⟨step, hp⟩ := hinside p hp
        exact hroot.trans hp
      · obtain rfl := List.mem_singleton.1 hp
        exact hroot
    case nodup =>
      have hparts := nodup_parts hpaths (pairwise_inner (hself 0))
      refine List.nodup_append.2 ⟨hparts, List.nodup_singleton _, ?_⟩
      intro p hp q hq
      obtain rfl := List.mem_singleton.1 hq
      obtain ⟨step, hp⟩ := hinside p hp
      exact hp.ne

end Builder

end Sift
