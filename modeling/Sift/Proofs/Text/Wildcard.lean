import Mathlib.Data.List.Forall2
import Mathlib.Data.List.Infix
import Sift.Text.Compare

/-! What a wildcard pattern covers.

`Lays` is the meaning of patterns: their characters are laid over the text, a star over any run
of it, a question mark over one character, and every other character over itself. The search
for such a layout only ever goes back to the last star. It loses nothing by that: whatever an
earlier star could still cover, the last one can cover as well (`Lays.onward`).

It does lose layouts where a star of the pattern begins in front of a star of the text, for it
takes the one for the other and does not come back to this. So it finds a layout if and only if
there is one in which such a star covers nothing but the star that it meets
(`wildcard_iff_lays`). -/
namespace Sift.Text

/-- The pattern can be laid over the text. A star of the pattern covers a run only of a text
that it may start at; in front of any other it can only stand for itself. -/
inductive Lays (mayStart : List Char → Prop) : List Char → List Char → Prop where
  | done : Lays mayStart [] []
  | one {c : Char} {text pattern : List Char} : Lays mayStart text pattern →
      Lays mayStart (c :: text) ('?' :: pattern)
  | itself {c : Char} {text pattern : List Char} : Lays mayStart text pattern →
      Lays mayStart (c :: text) (c :: pattern)
  /-- What the star leaves of the text is `rest`. -/
  | run {text rest pattern : List Char} : mayStart text → rest <:+ text →
      Lays mayStart rest pattern → Lays mayStart text ('*' :: pattern)

/-- The pattern can be laid over the text in some way. -/
def Matches (text pattern : List Char) : Prop := Lays (fun _ => True) text pattern

/-- There is no star in front. -/
def Clear (text : List Char) : Prop := text.head? ≠ some '*'

/-! ### Layouts -/

section Layouts

variable {mayStart other : List Char → Prop} {c q : Char} {text rest pattern : List Char}

theorem Lays.mono (h : Lays mayStart text pattern)
    (hle : ∀ rest, rest <:+ text → mayStart rest → other rest) : Lays other text pattern := by
  induction h with
  | done => exact .done
  | one _ ih => exact .one (ih fun rest hrest => hle rest (hrest.trans (List.suffix_cons _ _)))
  | itself _ ih =>
    exact .itself (ih fun rest hrest => hle rest (hrest.trans (List.suffix_cons _ _)))
  | run hstart hsuffix _ ih =>
    exact .run (hle _ (List.suffix_refl _) hstart) hsuffix
      (ih fun rest hrest => hle rest (hrest.trans hsuffix))

/-- Nothing is left to cover: the pattern is made of stars. -/
theorem lays_nil (hstart : mayStart []) :
    Lays mayStart [] pattern ↔ pattern.all (· == '*') = true := by
  induction pattern with
  | nil => exact iff_of_true .done rfl
  | cons q pattern ih =>
    rw [List.all_cons, Bool.and_eq_true, beq_iff_eq, ← ih]
    constructor
    · intro h
      cases h with
      | run _ hrest h =>
        rw [List.suffix_nil.1 hrest] at h
        exact ⟨rfl, h⟩
    · intro h
      obtain ⟨rfl, h⟩ := h
      exact .run hstart (List.suffix_refl _) h

theorem not_lays_cons_nil : ¬ Lays mayStart (c :: text) [] := by
  intro h
  cases h

/-- A character that is no star is laid over the first of the text. -/
theorem lays_cons (hq : q ≠ '*') :
    Lays mayStart (c :: text) (q :: pattern) ↔ (q = '?' ∨ q = c) ∧ Lays mayStart text pattern := by
  constructor
  · intro h
    cases h with
    | one h => exact ⟨.inl rfl, h⟩
    | itself h => exact ⟨.inr rfl, h⟩
    | run => exact absurd rfl hq
  · intro h
    obtain ⟨rfl | rfl, h⟩ := h
    · exact .one h
    · exact .itself h

/-- A star that meets a star stands for that one alone. -/
theorem lays_star_met : Lays Clear ('*' :: text) ('*' :: pattern) ↔ Lays Clear text pattern := by
  constructor
  · intro h
    cases h with
    | itself h => exact h
    | run hclear => exact absurd rfl hclear
  · exact .itself

theorem lays_star (hc : c ≠ '*') : Lays Clear (c :: text) ('*' :: pattern) ↔
    ∃ rest, rest <:+ c :: text ∧ Lays Clear rest pattern := by
  constructor
  · intro h
    cases h with
    | itself => exact absurd rfl hc
    | run _ hrest h => exact ⟨_, hrest, h⟩
  · intro h
    obtain ⟨rest, hrest, h⟩ := h
    refine .run ?_ hrest h
    simpa [Clear] using hc

/-- What is laid from a star on leaves no more than the text in front of it. -/
theorem Lays.behind_star (h : Lays mayStart text ('*' :: pattern)) :
    ∃ rest, rest <:+ text ∧ Lays mayStart rest pattern := by
  cases h with
  | itself h => exact ⟨_, List.suffix_cons _ _, h⟩
  | run _ hrest h => exact ⟨_, hrest, h⟩

end Layouts

/-! ### One star behind another -/

/-- Characters of the pattern that were laid over characters of the text one by one. A star
among them has met a star. -/
abbrev Met (pattern text : List Char) : Prop := List.Forall₂ (fun q c => q = '?' ∨ q = c) pattern text

/-- A layout that starts later gets no less far: what was laid over `met` one by one takes it at
least as far as that. -/
theorem Lays.onward {before met rest text pattern : List Char} (hmet : Met before met)
    (hrest : rest <:+ met ++ text) (h : Lays Clear rest (before ++ pattern)) :
    ∃ rest, rest <:+ text ∧ Lays Clear rest pattern := by
  induction hmet generalizing rest with
  | nil => exact ⟨rest, hrest, h⟩
  | @cons q c before met hq _ ih =>
    have further {d : Char} {r : List Char} (hr : d :: r <:+ c :: (met ++ text)) :
        r <:+ met ++ text := by
      obtain hr | hr := List.suffix_cons_iff.1 hr
      · cases hr
        exact List.suffix_refl _
      · exact (List.suffix_cons d r).trans hr
    cases h with
    | one h => exact ih (further hrest) h
    | itself h => exact ih (further hrest) h
    | run hclear hleft h =>
      -- The text had a star here, so a star that covers a run begins further on.
      obtain rfl : '*' = c := hq.resolve_left (by decide)
      obtain rfl | hr := List.suffix_cons_iff.1 hrest
      · exact absurd rfl hclear
      · exact ih (hleft.trans hr) h

/-- The pattern behind the last star, as far as it was laid since then, reaches up to where the
search is. -/
def Restart.Reaches (s : Restart) (text pattern : List Char) : Prop :=
  ∃ before met, s.pattern = before ++ pattern ∧ s.text = met ++ text ∧ Met before met

section Reaches

variable {s : Restart} {c q : Char} {text pattern : List Char}

theorem Restart.reaches_start (text pattern : List Char) :
    ∀ s ∈ some (Restart.mk pattern text), s.Reaches text pattern := by
  intro s hs
  cases hs
  exact ⟨[], [], rfl, rfl, .nil⟩

theorem Restart.Reaches.next (h : s.Reaches (c :: text) (q :: pattern)) (hq : q = '?' ∨ q = c) :
    s.Reaches text pattern := by
  obtain ⟨before, met, hpattern, htext, hmet⟩ := h
  refine ⟨before ++ [q], met ++ [c], ?_, ?_, ?_⟩
  · rw [hpattern, List.append_cons]
  · rw [htext, List.append_cons]
  · exact List.rel_append hmet (.cons hq .nil)

/-- What the last star may cover later. -/
def Restart.Later (star : Option Restart) : Prop :=
  ∃ s ∈ star, ∃ rest, rest <:+ s.text.tail ∧ Lays Clear rest s.pattern

theorem Restart.Reaches.onward (h : s.Reaches text pattern) {rest : List Char}
    (hrest : rest <:+ s.text) (hlays : Lays Clear rest s.pattern) :
    ∃ rest, rest <:+ text ∧ Lays Clear rest pattern := by
  obtain ⟨before, met, hpattern, htext, hmet⟩ := h
  rw [htext] at hrest
  rw [hpattern] at hlays
  exact hlays.onward hmet hrest

end Reaches

/-- The last star covers one character more, or what it covered and more than that. -/
theorem Restart.later_cons {behind covered : List Char} {d : Char} :
    Restart.Later (some ⟨behind, d :: covered⟩) ↔
      Lays Clear covered behind ∨ Restart.Later (some ⟨behind, covered⟩) := by
  constructor
  · intro h
    obtain ⟨s, hs, rest, hrest, h⟩ := h
    cases hs
    have hrest : rest <:+ covered := hrest
    cases covered with
    | nil =>
      rw [List.suffix_nil.1 hrest] at h
      exact .inl h
    | cons d covered =>
      obtain rfl | hrest := List.suffix_cons_iff.1 hrest
      · exact .inl h
      · exact .inr ⟨_, rfl, rest, hrest, h⟩
  · intro h
    obtain h | h := h
    · exact ⟨_, rfl, covered, List.suffix_refl _, h⟩
    · obtain ⟨s, hs, rest, hrest, h⟩ := h
      cases hs
      exact ⟨_, rfl, rest, hrest.trans (List.tail_suffix _), h⟩

/-- A star has text left to cover as long as the search has text left. -/
theorem Restart.not_later {star : Option Restart} {c : Char} {text pattern : List Char}
    (hstar : ∀ s ∈ star, s.Reaches (c :: text) pattern)
    (hleft : ∀ behind d covered, star = some ⟨behind, d :: covered⟩ → False) :
    ¬ Restart.Later star := by
  intro h
  obtain ⟨s, rfl, -⟩ := h
  obtain ⟨before, met, -, htext, -⟩ := hstar s rfl
  cases hs : s.text with
  | nil => simp [hs] at htext
  | cons d covered => exact hleft s.pattern d covered (by rw [← hs])

/-- **The search finds what can be laid over the text from here, or from later than the last
star began.** -/
theorem matchFrom_iff (star : Option Restart) (text pattern : List Char)
    (hstar : ∀ s ∈ star, s.Reaches text pattern) :
    matchFrom star text pattern = true ↔ Lays Clear text pattern ∨ Restart.Later star := by
  -- A restart is made where nothing can be laid from here; a new star replaces the last one only
  -- because it covers all that the last one could.
  fun_induction matchFrom star text pattern with
  | case1 star pattern =>
    have hlater (h : Restart.Later star) : Lays Clear [] pattern := by
      obtain ⟨s, hs, rest, hrest, h⟩ := h
      obtain ⟨rest, hnil, h⟩ := (hstar s hs).onward (hrest.trans (List.tail_suffix _)) h
      rwa [List.suffix_nil.1 hnil] at h
    rw [← lays_nil (show Clear [] by simp [Clear])]
    exact ⟨.inl, fun h => h.elim id hlater⟩
  | case2 star c text q pattern hq ih =>
    have hhead : Lays Clear (c :: text) (q :: pattern) ↔ Lays Clear text pattern := by
      by_cases hs : q = '*'
      · subst hs
        obtain rfl : '*' = c := hq.resolve_left (by decide)
        exact lays_star_met
      · rw [lays_cons hs, and_iff_right hq]
    rw [ih fun s hs => (hstar s hs).next hq, hhead]
  | case3 star c text pattern hq ih =>
    have hc : c ≠ '*' := fun h => hq (.inr h.symm)
    have hlater (h : Restart.Later star) : ∃ rest, rest <:+ c :: text ∧ Lays Clear rest pattern := by
      obtain ⟨s, hs, rest, hrest, h⟩ := h
      obtain ⟨rest, hrest, h⟩ := (hstar s hs).onward (hrest.trans (List.tail_suffix _)) h
      obtain ⟨left, hleft, h⟩ := h.behind_star
      exact ⟨left, hleft.trans hrest, h⟩
    have hnow : Lays Clear (c :: text) pattern ∨ Restart.Later (some ⟨pattern, c :: text⟩) ↔
        ∃ rest, rest <:+ c :: text ∧ Lays Clear rest pattern := by
      rw [← Restart.later_cons (d := c)]
      simp [Restart.Later]
    rw [ih (Restart.reaches_start _ _), hnow, lays_star hc]
    exact ⟨.inl, fun h => h.elim id hlater⟩
  | case4 c text q pattern hq hs behind d covered ih =>
    have hhead : ¬ Lays Clear (c :: text) (q :: pattern) := by
      rw [lays_cons hs]
      exact fun h => hq h.1
    rw [ih (Restart.reaches_start _ _), Restart.later_cons, or_iff_right hhead]
  | case5 star c text q pattern hq hs hleft =>
    have hhead : ¬ Lays Clear (c :: text) (q :: pattern) := by
      rw [lays_cons hs]
      exact fun h => hq h.1
    simp [hhead, Restart.not_later hstar hleft]
  | case6 c text behind d covered ih =>
    rw [ih (Restart.reaches_start _ _), Restart.later_cons, or_iff_right not_lays_cons_nil]
  | case7 star c text hleft => simp [not_lays_cons_nil, Restart.not_later hstar hleft]

/-- What is found is what can be laid over the text with no star in front of another. -/
theorem wildcard_iff_lays (text pattern : List Char) :
    wildcard text pattern = true ↔ Lays Clear text pattern := by
  rw [wildcard, matchFrom_iff none text pattern (fun _ h => nomatch h)]
  simp [Restart.Later]

/-! ### Rounds -/

/-- Where a round of the search begins. -/
structure Place where
  star : Option Restart
  text : List Char
  pattern : List Char

namespace Place

/-- The place where the last star covers one character more. -/
def back : Option Restart → Bool ⊕ Place
  | some ⟨behind, _ :: covered⟩ => .inr ⟨some ⟨behind, covered⟩, covered, behind⟩
  | _ => .inl false

/-- One round: the answer, or where the next round begins. -/
def next (p : Place) : Bool ⊕ Place :=
  match p.text, p.pattern with
  | [], pattern => .inl (pattern.all (· == '*'))
  | c :: text, q :: pattern =>
    if q = '?' ∨ q = c then .inr ⟨p.star, text, pattern⟩
    else if q = '*' then .inr ⟨some ⟨pattern, c :: text⟩, c :: text, pattern⟩
    else back p.star
  | _ :: _, [] => back p.star

/-- What is answered within `n` rounds. -/
def after : Nat → Place → Option Bool
  | 0, _ => none
  | n + 1, p =>
    match p.next with
    | .inl answer => some answer
    | .inr q => after n q

def answer (p : Place) : Bool := matchFrom p.star p.text p.pattern

theorem answer_back (star : Option Restart) :
    (match star with
      | some ⟨behind, _ :: covered⟩ => matchFrom (some ⟨behind, covered⟩) covered behind
      | _ => false) = (back star).elim id answer := by
  rcases star with _ | ⟨behind, _ | ⟨d, covered⟩⟩ <;> rfl

/-- The search goes round by round. -/
theorem answer_next (p : Place) : p.answer = p.next.elim id answer := by
  obtain ⟨star, text, pattern⟩ := p
  rw [answer, matchFrom.eq_def]
  cases text with
  | nil => rfl
  | cons c text =>
    cases pattern with
    | nil => exact answer_back star
    | cons q pattern =>
      simp only [next]
      by_cases hq : q = '?' ∨ q = c
      · rw [if_pos hq, if_pos hq]
        rfl
      · rw [if_neg hq, if_neg hq]
        by_cases hs : q = '*'
        · rw [if_pos hs, if_pos hs]
          rfl
        · rw [if_neg hs, if_neg hs]
          exact answer_back star

/-- No pattern that is still to be laid is longer than `m`. -/
structure Within (m : Nat) (p : Place) : Prop where
  pattern : p.pattern.length ≤ m
  star : ∀ s ∈ p.star, s.pattern.length ≤ m

/-- How often the search may still go back: the last star covers more each time. -/
def backsLeft (star : Option Restart) (text : List Char) : Nat :=
  match star with
  | none => text.length
  | some s => max s.text.length text.length

/-- How many rounds are left at most. Between two rounds that go back, each leaves less of the
pattern. -/
def roundsLeft (m : Nat) (p : Place) : Nat :=
  backsLeft p.star p.text * (m + 1) + p.pattern.length

theorem roundsLeft_back {m : Nat} {star : Option Restart} {text pattern : List Char} {q : Place}
    (hstar : ∀ s ∈ star, s.pattern.length ≤ m) (h : back star = .inr q) :
    q.Within m ∧ q.roundsLeft m < roundsLeft m ⟨star, text, pattern⟩ := by
  rcases star with _ | ⟨behind, _ | ⟨d, covered⟩⟩
  · cases h
  · cases h
  · cases h
    have hbehind : behind.length ≤ m := hstar _ rfl
    refine ⟨⟨hbehind, fun s hs => by cases hs; exact hbehind⟩, ?_⟩
    calc roundsLeft m ⟨some ⟨behind, covered⟩, covered, behind⟩
        = covered.length * (m + 1) + behind.length := by simp [roundsLeft, backsLeft]
      _ < (covered.length + 1) * (m + 1) := by rw [Nat.add_mul]; omega
      _ ≤ max (d :: covered).length text.length * (m + 1) :=
        Nat.mul_le_mul_right _ (le_max_left _ _)
      _ ≤ _ := Nat.le_add_right _ _

theorem roundsLeft_forward {m : Nat} {star star' : Option Restart} {text text' pattern : List Char}
    {q : Char} (hless : backsLeft star' text' ≤ backsLeft star text) :
    roundsLeft m ⟨star', text', pattern⟩ < roundsLeft m ⟨star, text, q :: pattern⟩ := by
  have hrounds := Nat.mul_le_mul_right (m + 1) hless
  simp only [roundsLeft, List.length_cons]
  omega

/-- Each round leaves fewer. -/
theorem roundsLeft_next {m : Nat} {p q : Place} (hp : p.Within m) (h : p.next = .inr q) :
    q.Within m ∧ q.roundsLeft m < p.roundsLeft m := by
  obtain ⟨star, text, pattern⟩ := p
  cases text with
  | nil => cases h
  | cons c text =>
    cases pattern with
    | nil => exact roundsLeft_back hp.star h
    | cons x pattern =>
      have hlength : pattern.length ≤ m := (Nat.le_succ _).trans hp.pattern
      simp only [next] at h
      split at h
      · cases h
        refine ⟨⟨hlength, hp.star⟩, roundsLeft_forward ?_⟩
        cases star <;> simp only [backsLeft, List.length_cons] <;> omega
      · split at h
        · cases h
          refine ⟨⟨hlength, fun s hs => by cases hs; exact hlength⟩, roundsLeft_forward ?_⟩
          cases star <;> simp only [backsLeft, List.length_cons] <;> omega
        · exact roundsLeft_back hp.star h

/-- The search comes to its answer. -/
theorem after_of_roundsLeft {m n : Nat} {p : Place} (hp : p.Within m) (hn : p.roundsLeft m < n) :
    p.after n = some p.answer := by
  induction n generalizing p with
  | zero => omega
  | succ n ih =>
    rw [answer_next, after]
    cases hnext : p.next with
    | inl answer => rfl
    | inr q =>
      obtain ⟨hq, hless⟩ := roundsLeft_next hp hnext
      exact ih hq (by omega)

/-- Where the search for a layout begins. -/
def start (text pattern : List Char) : Place := ⟨none, text, pattern⟩

/-- The search lays the pattern at most once from each place of the text. -/
theorem after_start (text pattern : List Char) :
    (start text pattern).after ((text.length + 1) * (pattern.length + 1)) =
      some (wildcard text pattern) := by
  have hwithin : (start text pattern).Within pattern.length :=
    ⟨le_refl _, fun _ h => nomatch h⟩
  refine after_of_roundsLeft hwithin ?_
  calc (start text pattern).roundsLeft pattern.length
      = text.length * (pattern.length + 1) + pattern.length := rfl
    _ < (text.length + 1) * (pattern.length + 1) := by
      rw [Nat.add_mul text.length 1]
      omega

end Place

/-! ### Likeness of texts -/

theorem matches_of_lays {text pattern : List Char} (h : Lays Clear text pattern) :
    Matches text pattern := h.mono fun _ _ _ => trivial

theorem lays_of_matches {text pattern : List Char} (hplain : '*' ∉ text)
    (h : Matches text pattern) : Lays Clear text pattern := by
  refine h.mono fun rest hrest _ hstar => hplain ?_
  exact hrest.subset (List.mem_of_mem_head? hstar)

/-- **A text is like a pattern only if the pattern can be laid over it, and where the text has no
star, if it can.** The answer comes after no more rounds than there are places in the text times
places in the pattern, counting the ends. -/
theorem like_sound_and_exact (text pattern : String) (caseSensitive : Bool) :
    let t := folded caseSensitive text
    let p := folded caseSensitive pattern
    (like text pattern caseSensitive = true → Matches t p) ∧
      ('*' ∉ t → Matches t p → like text pattern caseSensitive = true) ∧
      (Place.start t p).after ((t.length + 1) * (p.length + 1)) =
        some (like text pattern caseSensitive) := by
  intro t p
  refine ⟨fun h => ?_, fun hplain h => ?_, Place.after_start t p⟩
  · exact matches_of_lays ((wildcard_iff_lays t p).1 h)
  · exact (wildcard_iff_lays t p).2 (lays_of_matches hplain h)

/-- The pattern of one star can be laid so over all texts but those that begin with a star and
go on behind it. -/
theorem lays_single_star (text : List Char) : Lays Clear text ['*'] ↔ Clear text ∨ text = ['*'] := by
  constructor
  · intro h
    cases h with
    | itself h =>
      cases h
      exact .inr rfl
    | run hclear => exact .inl hclear
  · intro h
    obtain h | rfl := h
    · exact .run h (List.nil_suffix) .done
    · exact .itself .done

/-- **A text is like a pattern if and only if the pattern can be laid over it in such a way that a
star of the pattern, if it begins in front of a star of the text, covers just that one.** The
pattern of one star accepts all texts but those with a star in front and more behind it. -/
theorem like_iff_lays (text pattern : String) (caseSensitive : Bool) :
    (like text pattern caseSensitive = true ↔
      Lays Clear (folded caseSensitive text) (folded caseSensitive pattern)) ∧
    (like text "*" caseSensitive = true ↔
      Clear (folded caseSensitive text) ∨ folded caseSensitive text = ['*']) := by
  have hstar : folded caseSensitive "*" = ['*'] := by cases caseSensitive <;> decide
  refine ⟨wildcard_iff_lays _ _, ?_⟩
  rw [like, hstar, wildcard_iff_lays, lays_single_star]

/-- A text that begins with a star is not like the pattern that covers everything. -/
theorem like_misses_star :
    Matches (folded true "*a") (folded true "*") ∧ like "*a" "*" true = false ∧
      Matches (folded false "*a") (folded false "*") ∧ like "*a" "*" false = false := by
  have hsensitive : folded true "*a" = ['*', 'a'] ∧ folded true "*" = ['*'] := by decide
  have hfolded : folded false "*a" = ['*', 'a'] ∧ folded false "*" = ['*'] := by decide
  have hlaid : Matches ['*', 'a'] ['*'] := .run trivial List.nil_suffix .done
  have hmissed : wildcard ['*', 'a'] ['*'] = false := by simp [wildcard, matchFrom]
  simp only [like, hsensitive, hfolded]
  exact ⟨hlaid, hmissed, hlaid, hmissed⟩

end Sift.Text
