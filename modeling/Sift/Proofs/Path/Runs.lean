import Sift.Proofs.Path.Transitions

/-! What a whole scan reads.

A scan goes over a text that spells some tokens, and adds them to those it has (`Spells.run`).
A scan that gets to its end has read such texts and nothing else: one for each level that was
open, up to what closes the level (`Finishes`, which every step passes on from the next state to
its own). So the tokens of a path are those that its text spells (`tokenize_eq_ok`). -/
namespace Sift.Path

open Text

namespace State

variable {s u : State}

/-! ### Runs -/

/-- The state that goes on behind the tokens `ts`. -/
def after (s : State) (ts : List Token) (rest : List Char) : State :=
  { s with tokens := s.tokens ++ ts, rest := rest }

theorem after_after (s : State) (ts us : List Token) (r rest : List Char) :
    (s.after ts r).after us rest = s.after (ts ++ us) rest := by
  rw [after, after, after, List.append_assoc]

theorem after_nil {rest : List Char} (h : s.rest = rest) : s.after [] rest = s := by
  rw [after, List.append_nil, ← h]

/-- A scan that is not over goes on from its next state. -/
theorem run_step {t : State} (hopen : s.rest ≠ [] ∨ s.filters ≠ []) (h : s.step = .ok t) :
    s.run = t.run := by
  have hgoes : ¬ (s.rest.isEmpty ∧ s.inPath ∧ s.filters.isEmpty) := by
    intro h
    obtain ⟨hr, -, hf⟩ := h
    rw [List.isEmpty_iff] at hr hf
    exact hopen.elim (fun hne => hne hr) fun hne => hne hf
  rw [run, if_neg hgoes]
  split
  · rename_i u hu
    rw [h] at hu
    cases hu
    rfl
  · rename_i fault hf
    rw [h] at hf
    cases hf

theorem run_done (hrest : s.rest = []) (hpath : s.inPath = true) (hfilters : s.filters = []) :
    s.run = .ok s.tokens := by
  rw [run, if_pos]
  rw [hrest, hpath, hfilters]
  exact ⟨rfl, rfl, rfl⟩

theorem Takes.run (h : s.Takes u) : s.run = u.run := by
  refine run_step ?_ (step_eq_ok.2 h)
  cases h with
  | dot _ hrest | lone _ hrest _ _ | enter _ _ hrest =>
    rw [hrest]
    exact .inl (List.cons_ne_nil _ _)
  | selector _ ht =>
    obtain ⟨c, cs, hrest, -⟩ := ht.head
    rw [hrest]
    exact .inl (List.cons_ne_nil _ _)
  | leave _ _ hfilters => exact .inr hfilters
  | word _ hfilters | reference _ hfilters | openGroup _ hfilters | closeGroup _ hfilters =>
    exact .inr hfilters
  | exit _ hfilters =>
    rw [hfilters]
    exact .inr (List.cons_ne_nil _ _)

/-! ### A spelled text is read -/

/-- The scan is on its way along a path, or between the words of a predicate. -/
def At : Level → State → Prop
  | .path, s => s.inPath = true
  | .predicate, s => s.inPath = false ∧ s.filters ≠ []

theorem after_filter (hpath : s.inPath = true) (ps : List Token) (body gap mid : List Char) :
    ((s.inFilter body).after ps gap).closeFilter ⟨s.rest, s.tokens, s.groups⟩ s.filters mid =
      s.after (.startFilter :: (unwrap ps ++ [.endFilter])) mid := by
  rw [after, after, closeFilter, hpath, List.append_assoc, List.append_assoc]
  rfl

theorem after_group (us : List Token) (body gap mid : List Char) :
    ({ ((s.inGroup body).after us gap).emit .endGroup mid with groups := s.groups } : State) =
      s.after (.startGroup :: (us ++ [.endGroup])) mid := by
  show State.mk mid (s.tokens ++ [.startGroup] ++ us ++ [.endGroup]) _ _ _ = _
  rw [after, List.append_assoc, List.append_assoc]
  rfl

theorem after_reference (hpath : s.inPath = false) (t : Token) (us : List Token)
    (text mid : List Char) :
    ({ (s.inReference t text).after us mid with inPath := false } : State) =
      s.after (t :: us) mid := by
  show State.mk mid (s.tokens ++ [t] ++ us) s.groups s.filters false = _
  rw [after, hpath, List.append_assoc]
  rfl

theorem run_append {ts us : List Token} {mid rest : List Char}
    (hleft : s.run = (s.after ts mid).run)
    (hright : (s.after ts mid).run = ((s.after ts mid).after us rest).run) :
    s.run = (s.after (ts ++ us) rest).run := by
  rw [hleft, hright, after_after]

theorem run_filter (hpath : s.inPath = true) {ps : List Token} {gap body gap' mid : List Char}
    (hgap : Gap gap) (hrest : s.rest = '[' :: (gap ++ '?' :: body)) (hgap' : Gap gap')
    (h : (s.inFilter body).run = ((s.inFilter body).after ps (gap' ++ ']' :: mid)).run) :
    s.run = (s.after (.startFilter :: (unwrap ps ++ [.endFilter])) mid).run := by
  have hin : s.Takes (s.inFilter body) := .enter hpath hgap hrest
  have hout : ((s.inFilter body).after ps (gap' ++ ']' :: mid)).Takes
      (s.after (.startFilter :: (unwrap ps ++ [.endFilter])) mid) := by
    rw [← after_filter hpath ps body (gap' ++ ']' :: mid) mid]
    exact .exit rfl rfl hgap' rfl rfl
  rw [hin.run, h, hout.run]

theorem run_group (hlevel : s.At .predicate) {us : List Token} {gap body gap' mid : List Char}
    (hgap : Gap gap) (hrest : s.rest = gap ++ '(' :: body) (hgap' : Gap gap')
    (h : (s.inGroup body).run = ((s.inGroup body).after us (gap' ++ ')' :: mid)).run) :
    s.run = (s.after (.startGroup :: (us ++ [.endGroup])) mid).run := by
  have hin : s.Takes (s.inGroup body) := .openGroup hlevel.1 hlevel.2 hgap hrest
  have hout : ((s.inGroup body).after us (gap' ++ ')' :: mid)).Takes
      (s.after (.startGroup :: (us ++ [.endGroup])) mid) := by
    rw [← after_group us body (gap' ++ ')' :: mid) mid]
    exact .closeGroup hlevel.1 hlevel.2 hgap' rfl rfl
  rw [hin.run, h, hout.run]

theorem run_reference (hlevel : s.At .predicate) {t : Token} {us : List Token}
    {gap text mid : List Char} (hgap : Gap gap) (ht : t.isReference = true)
    (hrest : s.rest = gap ++ (t.chars ++ text)) (hends : Ends opensSelector mid)
    (h : (s.inReference t text).run = ((s.inReference t text).after us mid).run) :
    s.run = (s.after (t :: us) mid).run := by
  have hin : s.Takes (s.inReference t text) := .reference hlevel.1 hlevel.2 hgap ht hrest
  have hout : ((s.inReference t text).after us mid).Takes (s.after (t :: us) mid) := by
    rw [← after_reference hlevel.1 t us text mid]
    exact .leave rfl hends hlevel.2
  rw [hin.run, h, hout.run]

end State

/-- **A scan goes over a spelled text, and adds the tokens that it spells.** -/
theorem Spells.run {level : Level} {ts : List Token} {text rest : List Char}
    (h : Spells level ts text rest) {s : State} (hlevel : s.At level) (hrest : s.rest = text) :
    s.run = (s.after ts rest).run := by
  induction h generalizing s with
  | nil => rw [State.after_nil hrest]
  | @selector t _ _ mid _ ht _ ih =>
    have hstep : s.Takes (s.after [t] mid) := .selector hlevel (hrest ▸ ht)
    exact State.run_append hstep.run (ih hlevel rfl)
  | dot _ ih => exact (State.Takes.dot hlevel hrest).run.trans (ih hlevel rfl)
  | @filter ps ts _ body _ _ _ hgap hp hgap' hgroup _ ihp ih =>
    have hfilter := State.run_filter hlevel hgap hrest hgap'
      (ihp (s := s.inFilter body) ⟨rfl, List.cons_ne_nil _ _⟩ rfl)
    rw [hp.nested.unwrap_of_not_isGroup hgroup] at hfilter
    rw [State.run_append hfilter (ih hlevel rfl), List.cons_append, List.append_assoc]
    rfl
  | @enclosed ps ts _ gap₁ body _ _ _ _ hgap hgap₁ hp hgap₂ hgap₃ _ ihp ih =>
    let inside : State := s.inFilter (gap₁ ++ '(' :: body)
    have hinside : inside.At .predicate := ⟨rfl, List.cons_ne_nil _ _⟩
    have hgroup := State.run_group hinside hgap₁ rfl hgap₂
      (ihp (s := inside.inGroup body) hinside rfl)
    have hfilter := State.run_filter hlevel hgap hrest hgap₃ hgroup
    rw [hp.nested.unwrap_group] at hfilter
    rw [State.run_append hfilter (ih hlevel rfl), List.cons_append, List.append_assoc]
    rfl
  | @word t _ _ _ mid _ hgap ht _ ih =>
    have hstep : s.Takes (s.after [t] mid) := .word hlevel.1 hlevel.2 hgap ht hrest
    exact State.run_append hstep.run (ih hlevel rfl)
  | @reference t us _ _ text _ _ hgap ht _ hends _ ihu ih =>
    have hpath := State.run_reference hlevel hgap ht hrest hends (ihu rfl rfl)
    exact State.run_append hpath (ih hlevel rfl)
  | @group us ts _ body _ _ _ hgap _ hgap' _ ihu ih =>
    have hgroup := State.run_group hlevel hgap hrest hgap' (ihu (s := s.inGroup body) hlevel rfl)
    rw [State.run_append hgroup (ih hlevel rfl), List.cons_append, List.append_assoc]
    rfl

end Sift.Path
