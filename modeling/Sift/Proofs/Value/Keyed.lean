import Mathlib.Data.List.Forall2
import Mathlib.Data.List.Nodup
import Mathlib.Data.List.Perm.Basic
import Sift.Proofs.Text.AsciiCase

/-! Members under keys, up to their order and the ASCII case of their keys.

What is looked up in a list of members is the first one under a key. Where no two keys are the
same, there is only one, and it does not matter where it stands or in which case its key is
written: lists that correspond member by member answer every lookup with members that correspond
(`Matched.first?`), and a choice among their keys chooses members that correspond
(`Paired.filterMap`, `Paired.few`). -/
namespace Sift

open Text

variable {α β γ δ : Type}

/-! ### Results that are there together -/

section Options

variable {P : α → β → Prop} {Q : γ → δ → Prop} {x : Option α} {y : Option β}

theorem rel_bind {f : α → Option γ} {g : β → Option δ} (h : Option.Rel P x y)
    (hfg : ∀ a b, x = some a → P a b → Option.Rel Q (f a) (g b)) :
    Option.Rel Q (x.bind f) (y.bind g) := by
  cases h with
  | none => exact .none
  | some hab => exact hfg _ _ rfl hab

theorem rel_map {f : α → γ} {g : β → δ} (h : Option.Rel P x y)
    (hfg : ∀ a b, P a b → Q (f a) (g b)) : Option.Rel Q (x.map f) (y.map g) := by
  cases h with
  | none => exact .none
  | some hab => exact .some (hfg _ _ hab)

theorem rel_imp {R : α → β → Prop} (h : Option.Rel P x y) (hR : ∀ a b, P a b → R a b) :
    Option.Rel R x y := by
  cases h with
  | none => exact .none
  | some hab => exact .some (hR _ _ hab)

theorem rel_trans {R : β → γ → Prop} {z : Option γ} (h : Option.Rel P x y)
    (h' : Option.Rel R y z) : Option.Rel (Relation.Comp P R) x z := by
  cases h with
  | none =>
    cases h'
    exact .none
  | some hab =>
    cases h' with
    | some hbc => exact .some ⟨_, hab, hbc⟩

theorem rel_eq {x y : Option α} (h : Option.Rel (· = ·) x y) : x = y := by
  cases h with
  | none => rfl
  | some hab => rw [hab]

theorem rel_refl {R : α → α → Prop} (hR : ∀ a, R a a) (x : Option α) : Option.Rel R x x := by
  cases x with
  | none => exact .none
  | some a => exact .some (hR a)

theorem rel_findSome? {f : α → Option γ} {g : α → Option δ} {l : List α}
    (h : ∀ a ∈ l, Option.Rel Q (f a) (g a)) : Option.Rel Q (l.findSome? f) (l.findSome? g) := by
  induction l with
  | nil => exact .none
  | cons a l ih =>
    have ha := h a List.mem_cons_self
    rw [List.findSome?_cons, List.findSome?_cons]
    generalize f a = x, g a = y at ha
    cases ha with
    | none => exact ih fun c hc => h c (List.mem_cons_of_mem a hc)
    | some hcd => exact .some hcd

end Options

/-! ### Lists up to order -/

/-- Each item of one list has a partner in the other. -/
def Paired (P : α → β → Prop) (l : List α) (l' : List β) : Prop :=
  ∃ between, List.Forall₂ P l between ∧ between.Perm l'

namespace Paired

variable {P : α → β → Prop} {Q : γ → δ → Prop} {l : List α} {l' : List β}

theorem symm (h : Paired P l l') : Paired (flip P) l' l := by
  obtain ⟨between, hpairs, hperm⟩ := h
  exact List.perm_comp_forall₂ hperm.symm (List.Forall₂.flip hpairs)

theorem exists_partner (h : Paired P l l') {a : α} (ha : a ∈ l) : ∃ b ∈ l', P a b := by
  obtain ⟨between, hpairs, hperm⟩ := h
  suffices hbetween : ∃ b ∈ between, P a b by
    obtain ⟨b, hb, hab⟩ := hbetween
    exact ⟨b, hperm.subset hb, hab⟩
  clear hperm
  induction hpairs with
  | nil => cases ha
  | @cons c d _ _ hcd _ ih =>
    obtain rfl | ha := List.mem_cons.1 ha
    · exact ⟨d, List.mem_cons_self, hcd⟩
    · obtain ⟨b, hb, hab⟩ := ih ha
      exact ⟨b, List.mem_cons_of_mem d hb, hab⟩

/-- What is chosen from the one list has a partner in what is chosen from the other. -/
theorem filterMap {f : α → Option γ} {g : β → Option δ} (h : Paired P l l')
    (hfg : ∀ a b, P a b → Option.Rel Q (f a) (g b)) :
    Paired Q (l.filterMap f) (l'.filterMap g) := by
  obtain ⟨between, hpairs, hperm⟩ := h
  exact ⟨between.filterMap g, List.rel_filterMap (fun a b => hfg a b) hpairs, hperm.filterMap g⟩

/-- Both lists are empty, have one item, or have several. -/
theorem few (h : Paired P l l') :
    (l = [] ∧ l' = []) ∨ (∃ a b, l = [a] ∧ l' = [b] ∧ P a b) ∨
      (∃ a b more, l = a :: b :: more) ∧ ∃ c d more, l' = c :: d :: more := by
  obtain ⟨between, hpairs, hperm⟩ := h
  match hpairs with
  | .nil => exact .inl ⟨rfl, List.nil_perm.1 hperm⟩
  | .cons hab .nil => exact .inr (.inl ⟨_, _, rfl, (List.singleton_perm.1 hperm).symm, hab⟩)
  | .cons _ (.cons _ _) =>
    refine .inr (.inr ⟨⟨_, _, _, rfl⟩, ?_⟩)
    match l', hperm.length_eq with
    | c :: d :: more, _ => exact ⟨c, d, more, rfl⟩

end Paired

/-! ### Members -/

/-- No two keys are the same up to the case of ASCII letters. -/
def DistinctKeys (members : List (String × α)) : Prop :=
  ((members.map Prod.fst).map asciiLower).Nodup

instance (members : List (String × α)) : Decidable (DistinctKeys members) :=
  inferInstanceAs (Decidable (List.Nodup _))

/-- The first member under a key, in any ASCII case. -/
def first? (members : List (String × α)) (key : String) : Option α :=
  (members.find? fun m => sameAscii m.1 key).map Prod.snd

theorem first?_eq_some_iff {members : List (String × α)} (h : DistinctKeys members) {key : String}
    {v : α} : first? members key = some v ↔ ∃ k, (k, v) ∈ members ∧ sameAscii k key = true := by
  unfold first?
  constructor
  · intro hfirst
    obtain ⟨⟨k, v⟩, hm, rfl⟩ := Option.map_eq_some_iff.1 hfirst
    have hkey := List.find?_some hm
    exact ⟨k, List.mem_of_find?_eq_some hm, hkey⟩
  · rintro ⟨k, hmem, hkey⟩
    cases hfind : members.find? fun m => sameAscii m.1 key with
    | none =>
      rw [List.find?_eq_none] at hfind
      exact absurd hkey (hfind _ hmem)
    | some m =>
      have hfound := List.find?_some hfind
      have hsame : asciiLower m.1 = asciiLower k :=
        (sameAscii_eq_true.1 hfound).trans (sameAscii_eq_true.1 hkey).symm
      rw [DistinctKeys, List.map_map] at h
      have hmem' := List.mem_of_find?_eq_some hfind
      rw [List.inj_on_of_nodup_map h hmem' hmem hsame]
      rfl

/-- The keys are the same, and the values correspond as those under the key do. -/
def UnderSameKey (R : String → α → β → Prop) (m : String × α) (n : String × β) : Prop :=
  sameAscii m.1 n.1 = true ∧ R m.1 m.2 n.2

/-- Members under distinct keys, and partners for them under the same keys. -/
structure Matched (R : String → α → β → Prop) (members : List (String × α))
    (partners : List (String × β)) : Prop where
  distinct : DistinctKeys members
  paired : Paired (UnderSameKey R) members partners

namespace Matched

variable {R : String → α → β → Prop} {members : List (String × α)} {partners : List (String × β)}

theorem distinct_partners (h : Matched R members partners) : DistinctKeys partners := by
  obtain ⟨hdistinct, between, hpairs, hperm⟩ := h
  have hkeys : (members.map Prod.fst).map asciiLower = (between.map Prod.fst).map asciiLower := by
    clear hdistinct hperm
    induction hpairs with
    | nil => rfl
    | cons hm _ ih =>
      simp only [List.map_cons] at ih ⊢
      rw [ih, sameAscii_eq_true.1 hm.1]
  rw [DistinctKeys, hkeys] at hdistinct
  exact ((hperm.map _).map _).nodup_iff.1 hdistinct

/-- Under each key there are members that correspond, or none. -/
theorem first? (h : Matched R members partners) (key : String) :
    Option.Rel (fun v w => ∃ k, sameAscii k key = true ∧ R k v w) (first? members key)
      (Sift.first? partners key) := by
  cases hv : Sift.first? members key with
  | some v =>
    obtain ⟨k, hmem, hkey⟩ := (first?_eq_some_iff h.distinct).1 hv
    obtain ⟨⟨k', w⟩, hmem', hsame, hR⟩ := h.paired.exists_partner hmem
    have hkey' : sameAscii k' key = true := by rwa [← sameAscii_congr hsame]
    rw [(first?_eq_some_iff h.distinct_partners).2 ⟨k', hmem', hkey'⟩]
    exact .some ⟨k, hkey, hR⟩
  | none =>
    cases hw : Sift.first? partners key with
    | none => exact .none
    | some w =>
      obtain ⟨k', hmem', hkey'⟩ := (first?_eq_some_iff h.distinct_partners).1 hw
      obtain ⟨⟨k, v⟩, hmem, hsame, -⟩ := h.paired.symm.exists_partner hmem'
      have hkey : sameAscii k key = true := by rwa [sameAscii_congr hsame]
      rw [(first?_eq_some_iff h.distinct).2 ⟨k, hmem, hkey⟩] at hv
      cases hv

end Matched

end Sift
