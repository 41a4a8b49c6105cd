import Sift.Proofs.Path.Runs

/-! A scan that gets to its end has read spelled texts and nothing else.

At any point of such a scan, what is left of the text spells tokens for each level that is open,
the innermost first, up to what closes the level. `Finishes` says so. Going back from a state to
the one before it only puts more in front (`Takes.finishes`), so the scan itself finishes from
where it starts, and its tokens are those that the text spells: `tokenize_eq_ok`. -/
namespace Sift.Path

open Text

namespace State

/-- From the state on, the rest of the text is read to its end, with the tokens `ts`. -/
inductive Finishes : State → List Token → Prop where
  | top {s us} : s.inPath = true → s.filters = [] → Spells .path us s.rest [] →
      Finishes s (s.tokens ++ us)
  | lone {s} : s.inPath = true → s.filters = [] → s.tokens = [.root] → s.rest = ['.'] →
      Finishes s [.root]
  | leave {s us mid ts} : s.inPath = true → s.filters ≠ [] → Spells .path us s.rest mid →
      Ends opensSelector mid → Finishes { s.after us mid with inPath := false } ts → Finishes s ts
  | closeGroup {s us gap mid n ts} : s.inPath = false → s.filters ≠ [] → s.groups = n + 1 →
      Spells .predicate us s.rest (gap ++ ')' :: mid) → Gap gap →
      Finishes { (s.after us (gap ++ ')' :: mid)).emit .endGroup mid with groups := n } ts →
      Finishes s ts
  | exit {s us gap mid outer filters ts} : s.inPath = false → s.filters = outer :: filters →
      s.groups = 0 → Spells .predicate us s.rest (gap ++ ']' :: mid) → Gap gap →
      Finishes ((s.after us (gap ++ ']' :: mid)).closeFilter outer filters mid) ts →
      Finishes s ts

variable {s u : State}

/-! ### Putting more in front -/

/-- Along a path. The tokens `vs` are followed by no lone dot. -/
theorem Finishes.path {vs ts : List Token} {mid : List Char} (hpath : s.inPath = true)
    (hlone : s.tokens ++ vs = [.root] → mid ≠ ['.'])
    (hspells : ∀ us rest, Spells .path us mid rest → Spells .path (vs ++ us) s.rest rest)
    (h : Finishes (s.after vs mid) ts) : Finishes s ts := by
  cases h with
  | @top _ us _ hfilters hus =>
    have htokens : (s.after vs mid).tokens ++ us = s.tokens ++ (vs ++ us) := List.append_assoc ..
    rw [htokens]
    exact .top hpath hfilters (hspells us [] hus)
  | lone _ _ htokens hrest => exact absurd hrest (hlone htokens)
  | @leave _ us end_ _ _ hfilters hus hends hfin =>
    rw [after_after] at hfin
    exact .leave hpath hfilters (hspells us end_ hus) hends hfin
  | closeGroup hin => exact absurd (hin.symm.trans hpath) Bool.false_ne_true
  | exit hin => exact absurd (hin.symm.trans hpath) Bool.false_ne_true

/-- Where no filter is open. -/
theorem Finishes.at_top {ts : List Token} (h : Finishes s ts) (hpath : s.inPath = true)
    (hfilters : s.filters = []) : (∃ us, Spells .path us s.rest [] ∧ ts = s.tokens ++ us) ∨
      (s.tokens = [.root] ∧ s.rest = ['.'] ∧ ts = [.root]) := by
  cases h with
  | top _ _ hus => exact .inl ⟨_, hus, rfl⟩
  | lone _ _ htokens hrest => exact .inr ⟨htokens, hrest, rfl⟩
  | leave _ hne => exact absurd hfilters hne
  | closeGroup hin => exact absurd (hin.symm.trans hpath) Bool.false_ne_true
  | exit hin => exact absurd (hin.symm.trans hpath) Bool.false_ne_true

/-- Between the words of a predicate. -/
theorem Finishes.predicate {vs ts : List Token} {mid : List Char} (hpath : s.inPath = false)
    (hspells : ∀ us rest, Spells .predicate us mid rest → Spells .predicate (vs ++ us) s.rest rest)
    (h : Finishes (s.after vs mid) ts) : Finishes s ts := by
  cases h with
  | top hin => exact absurd (hpath.symm.trans hin) Bool.false_ne_true
  | lone hin => exact absurd (hpath.symm.trans hin) Bool.false_ne_true
  | leave hin => exact absurd (hpath.symm.trans hin) Bool.false_ne_true
  | @closeGroup _ us gap end_ n _ _ hfilters hgroups hus hgap hfin =>
    rw [after_after] at hfin
    exact .closeGroup hpath hfilters hgroups (hspells us _ hus) hgap hfin
  | @exit _ us gap end_ outer filters _ _ hfilters hgroups hus hgap hfin =>
    rw [after_after] at hfin
    exact .exit hpath hfilters hgroups (hspells us _ hus) hgap hfin

/-- A path inside of a predicate ends before the predicate does. -/
theorem Finishes.reference {t : Token} {gap rest : List Char} {ts : List Token}
    (hpath : s.inPath = false) (hfilters : s.filters ≠ []) (hgap : Gap gap)
    (ht : t.isReference = true) (hrest : s.rest = gap ++ (t.chars ++ rest))
    (h : Finishes (s.inReference t rest) ts) : Finishes s ts := by
  cases h with
  | top _ hnone => exact absurd hnone hfilters
  | lone _ hnone => exact absurd hnone hfilters
  | leave _ _ hus hends hfin =>
    rw [after_reference hpath] at hfin
    refine hfin.predicate hpath fun vs end_ hvs => ?_
    rw [hrest]
    exact .reference hgap ht hus hends hvs
  | closeGroup hin => cases hin
  | exit hin => cases hin

/-- A group inside of a predicate is closed before the predicate ends. -/
theorem Finishes.group {gap rest : List Char} {ts : List Token} (hpath : s.inPath = false)
    (hgap : Gap gap) (hrest : s.rest = gap ++ '(' :: rest) (h : Finishes (s.inGroup rest) ts) :
    Finishes s ts := by
  cases h with
  | top hin => exact absurd (hpath.symm.trans hin) Bool.false_ne_true
  | lone hin => exact absurd (hpath.symm.trans hin) Bool.false_ne_true
  | leave hin => exact absurd (hpath.symm.trans hin) Bool.false_ne_true
  | closeGroup _ _ hgroups hus hgap' hfin =>
    obtain rfl := Nat.succ.inj hgroups
    rw [after_group] at hfin
    refine hfin.predicate hpath fun vs end_ hvs => ?_
    rw [hrest, List.cons_append, List.append_assoc]
    exact .group hgap hus hgap' hvs
  | exit _ _ hgroups => exact absurd hgroups (Nat.succ_ne_zero _)

end State

/-! ### Filters -/

/-- What spells a group and nothing else has parentheses around it. -/
theorem Spells.of_isGroup {us : List Token} {text rest : List Char}
    (h : Spells .predicate (.startGroup :: (us ++ [.endGroup])) text rest)
    (hus : Nested .predicate us) : ∃ gap body gap', Gap gap ∧ text = gap ++ '(' :: body ∧
      Spells .predicate us body (gap' ++ ')' :: rest) ∧ Gap gap' := by
  generalize hts : Token.startGroup :: (us ++ [.endGroup]) = ts at h
  cases h with
  | nil => cases hts
  | word _ ht _ => exact absurd (List.cons.inj hts).1.symm (ne_of_word ht.isWord rfl rfl)
  | reference _ ht _ _ _ => exact absurd (List.cons.inj hts).1.symm (ne_of_kind ht rfl)
  | @group vs ws gap body gap' mid _ hgap hvs hgap' hws =>
    -- Only one of the closing parentheses is the one that belongs to the first token.
    have hspans : ws.isEmpty = true := by
      have hleft : State.spans 1 (us ++ [.endGroup]) = true := by
        rw [hus.spans (Nat.le_refl 1)]
        rfl
      rwa [(List.cons.inj hts).2, hvs.nested.spans (Nat.le_refl 1)] at hleft
    obtain rfl : ws = [] := List.isEmpty_iff.1 hspans
    obtain rfl : us = vs := List.append_cancel_right (List.cons.inj hts).2
    cases hws
    exact ⟨gap, body, gap', hgap, rfl, hvs, hgap'⟩

/-- Whatever a filter has been read from is a spelling of it, with the group around its predicate
or without. -/
theorem Spells.closed {us ts : List Token} {gap body gap' mid rest : List Char} (hgap : Gap gap)
    (hus : Spells .predicate us body (gap' ++ ']' :: mid)) (hgap' : Gap gap')
    (hts : Spells .path ts mid rest) :
    Spells .path (.startFilter :: (State.unwrap us ++ .endFilter :: ts))
      ('[' :: (gap ++ '?' :: body)) rest := by
  by_cases hgroup : IsGroup us
  · obtain ⟨vs, hvs, rfl⟩ := hgroup
    obtain ⟨gap₁, inner, gap₂, hgap₁, rfl, hinner, hgap₂⟩ := hus.of_isGroup hvs
    rw [hvs.unwrap_group]
    exact .enclosed hgap hgap₁ hinner hgap₂ hgap' hts
  · rw [hus.nested.unwrap_of_not_isGroup hgroup]
    exact .filter hgap hus hgap' hgroup hts

namespace State

variable {s u : State}

theorem Finishes.filter {gap rest : List Char} {ts : List Token} (hpath : s.inPath = true)
    (hgap : Gap gap) (hrest : s.rest = '[' :: (gap ++ '?' :: rest))
    (h : Finishes (s.inFilter rest) ts) : Finishes s ts := by
  cases h with
  | top hin => cases hin
  | lone hin => cases hin
  | leave hin => cases hin
  | closeGroup _ _ hgroups => cases hgroups
  | exit _ hfilters _ hus hgap' hfin =>
    obtain ⟨rfl, rfl⟩ := List.cons.inj hfilters
    rw [after_filter hpath] at hfin
    refine hfin.path hpath ?_ fun ws end_ hws => ?_
    · -- A filter is more than the reference that a lone dot comes behind.
      intro htokens
      have hmem : Token.startFilter ∈ [Token.root] :=
        htokens ▸ List.mem_append_right _ List.mem_cons_self
      cases List.mem_singleton.1 hmem
    · rw [hrest, List.cons_append, List.append_assoc]
      exact .closed hgap hus hgap' hws

/-! ### From each state to the one before it -/

theorem Takes.finishes {ts : List Token} (htake : s.Takes u) (h : Finishes u ts) :
    Finishes s ts := by
  cases htake with
  | @dot rest hpath hrest =>
    have hstate : ({ s with rest := '[' :: rest } : State) = s.after [] ('[' :: rest) := by
      rw [after, List.append_nil]
    rw [hstate] at h
    refine h.path hpath (fun _ => by simp) fun us end_ hus => ?_
    rw [hrest]
    exact .dot hus
  | lone hpath hrest hfilters htokens =>
    obtain ⟨us, hus, rfl⟩ | ⟨-, hnone, -⟩ := h.at_top hpath hfilters
    · cases hus with
      | nil =>
        have hroot : s.tokens ++ [] = [.root] := by rw [htokens, List.append_nil]
        exact hroot ▸ .lone hpath hfilters htokens hrest
      | selector ht => cases ht
    · cases hnone
  | @selector t mid hpath ht =>
    refine Finishes.path hpath ?_ (fun us rest hus => .selector ht hus) h
    intro htokens
    have hmem : t ∈ [Token.root] := htokens ▸ List.mem_append_right _ List.mem_cons_self
    exact absurd (List.mem_singleton.1 hmem) (ne_of_kind ht.isSelector rfl)
  | enter hpath hgap hrest => exact h.filter hpath hgap hrest
  | leave hpath hends hfilters =>
    rw [← after_nil (s := s) rfl] at h
    exact .leave hpath hfilters .nil hends h
  | word hpath _ hgap ht hrest =>
    refine Finishes.predicate hpath (fun us rest hus => ?_) h
    rw [hrest]
    exact .word hgap ht hus
  | reference hpath hfilters hgap ht hrest => exact h.reference hpath hfilters hgap ht hrest
  | openGroup hpath _ hgap hrest => exact h.group hpath hgap hrest
  | closeGroup hpath hfilters hgap hrest hgroups =>
    rw [← after_nil hrest] at h
    exact .closeGroup hpath hfilters hgroups (hrest ▸ .nil) hgap h
  | exit hpath hfilters hgap hrest hgroups =>
    rw [← after_nil hrest] at h
    exact .exit hpath hfilters hgroups (hrest ▸ .nil) hgap h

/-- **A scan that succeeds finishes from where it starts.** -/
theorem finishes_of_run {ts : List Token} (h : s.run = .ok ts) : s.Finishes ts := by
  fun_induction run s with
  | case1 s hdone =>
    obtain ⟨hrest, hpath, hfilters⟩ := hdone
    rw [List.isEmpty_iff] at hrest hfilters
    cases h
    have hnil : s.tokens = s.tokens ++ [] := (List.append_nil _).symm
    rw [hnil]
    exact .top hpath hfilters (hrest ▸ .nil)
  | case2 s _ u hstep ih => exact (step_eq_ok.1 hstep).finishes (ih h)
  | case3 => cases h

end State

end Sift.Path
