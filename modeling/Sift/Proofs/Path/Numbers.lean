import Sift.Proofs.Path.Readers

/-! Numbers as they are read.

A numeral is a run of digits, perhaps behind a hyphen. In a bracket numerals stand between commas
or colons, with white space around them, and a literal of a predicate is a numeral too. Every
reader of numbers accepts exactly what is spelled like that. -/
namespace Sift.Path

open Text

/-! ### Numerals -/

theorem numeral_digits {i : Int} {cs : List Char} (h : Numeral i cs) :
    ∃ ds, ds ≠ [] ∧ (∀ c ∈ ds, c.isDigit = true) ∧ (cs = ds ∨ cs = '-' :: ds) := by
  obtain ⟨hread, hplus⟩ := h
  have hnat : ∀ {ds : List Char} {n : Nat}, readNat? ds = some n →
      ds ≠ [] ∧ ∀ c ∈ ds, c.isDigit = true := by
    intro ds n hn
    unfold readNat? at hn
    split at hn
    · rename_i hds
      rw [Bool.and_eq_true, Bool.not_eq_true', List.isEmpty_eq_false_iff, List.all_eq_true] at hds
      exact hds
    · cases hn
  rw [readInt64?, Option.filter_eq_some_iff] at hread
  have hint := hread.1
  unfold readInteger? at hint
  split at hint
  · obtain ⟨_, hint, -⟩ := Option.map_eq_some_iff.1 hint
    obtain ⟨n, hn, -⟩ := Option.bind_eq_some_iff.1 hint
    exact ⟨_, (hnat hn).1, (hnat hn).2, .inr rfl⟩
  · exact absurd List.mem_cons_self hplus
  · obtain ⟨n, hn, -⟩ := Option.map_eq_some_iff.1 hint
    exact ⟨_, (hnat hn).1, (hnat hn).2, .inl rfl⟩

theorem numeral_char {i : Int} {cs : List Char} (h : Numeral i cs) :
    ∀ c ∈ cs, c = '-' ∨ c.isDigit = true := by
  obtain ⟨ds, -, hds, hcs⟩ := numeral_digits h
  rcases hcs with rfl | rfl
  · exact fun c hc => .inr (hds c hc)
  · exact List.forall_mem_cons.2 ⟨.inl rfl, fun c hc => .inr (hds c hc)⟩

theorem numeral_head {i : Int} {cs : List Char} (h : Numeral i cs) :
    ∃ c ds, cs = c :: ds ∧
      (c.isDigit = true ∨ (c = '-' ∧ ∃ d es, ds = d :: es ∧ d.isDigit = true)) := by
  obtain ⟨ds, hne, hds, hcs⟩ := numeral_digits h
  obtain ⟨d, es, rfl⟩ := List.exists_cons_of_ne_nil hne
  have hd : d.isDigit = true := hds d List.mem_cons_self
  rcases hcs with rfl | rfl
  · exact ⟨d, es, rfl, .inl hd⟩
  · exact ⟨'-', d :: es, rfl, .inr ⟨rfl, d, es, rfl, hd⟩⟩

theorem isBlank_of_numeral {i : Int} {cs : List Char} (h : Numeral i cs) :
    ∀ c ∈ cs, isBlank c = false := by
  intro c hc
  rcases numeral_char h c hc with rfl | hd
  · exact isBlank_delimiter _ (by decide)
  · exact isBlank_of_isDigit hd

/-! ### Parts of a bracket -/

/-- White space, digits and hyphens, which is what the parts of a bracket of numbers are made
of. -/
def IsPart (part : List Char) : Prop := ∀ c ∈ part, c = '-' ∨ c.isDigit = true ∨ isBlank c = true

theorem Gap.isPart {gap : List Char} (h : Gap gap) : IsPart gap := fun c hc => .inr (.inr (h c hc))

theorem padded_isPart {i : Int} {part : List Char} (h : Padded (Numeral i) part) : IsPart part := by
  obtain ⟨gap, cs, gap', hgap, hcs, hgap', rfl⟩ := h
  intro c hc
  rw [List.mem_append, List.mem_append] at hc
  obtain hc | hc | hc := hc
  · exact hgap.isPart c hc
  · exact (numeral_char hcs c hc).imp_right .inl
  · exact hgap'.isPart c hc

theorem bound_isPart {b : Option Int} {part : List Char} (h : SpellsBound b part) :
    IsPart part := by
  cases b with
  | none => exact Gap.isPart h
  | some i => exact padded_isPart h

theorem IsPart.isNumberChar {part : List Char} (h : IsPart part) :
    ∀ c ∈ part, isNumberChar c = true := by
  intro c hc
  rcases h c hc with rfl | hd | hb
  · decide
  · rw [Path.isNumberChar, hd]
    rfl
  · rw [Path.isNumberChar, hb, Bool.or_true]

theorem IsPart.not_mem {part : List Char} (h : IsPart part) {c : Char} (hc : c ∈ [':', ',']) :
    c ∉ part := by
  have hother : ∀ d ∈ [':', ','], d ≠ '-' ∧ d.isDigit = false ∧ isBlank d = false := by decide
  obtain ⟨hminus, hdigit, hblank⟩ := hother c hc
  intro hmem
  rcases h c hmem with hc | hc | hc
  · exact hminus hc
  · rw [hdigit] at hc
    cases hc
  · rw [hblank] at hc
    cases hc

theorem not_plus_of_isNumberChar {part : List Char} (h : ∀ c ∈ part, isNumberChar c = true) :
    '+' ∉ part := by
  intro hmem
  exact absurd (h '+' hmem) (by decide)

/-- A number between separators is read as it is spelled. -/
theorem indexNumber_eq_ok (start : List Char) {part : List Char} {i : Int}
    (hpart : ∀ c ∈ part, isNumberChar c = true) :
    indexNumber start part = .ok i ↔ Padded (Numeral i) part := by
  constructor
  · intro h
    unfold indexNumber at h
    split at h
    · rename_i hread
      cases h
      obtain ⟨gap, gap', hgap, hgap', heq⟩ := strip_split part
      refine ⟨gap, strip part, gap', hgap, ⟨hread, ?_⟩, hgap', heq⟩
      intro hmem
      refine not_plus_of_isNumberChar hpart ?_
      rw [heq]
      exact List.mem_append_right _ (List.mem_append_left _ hmem)
    · cases h
  · rintro ⟨gap, cs, gap', hgap, hcs, hgap', rfl⟩
    rw [indexNumber, strip_padded hgap hgap' (isBlank_of_numeral hcs), hcs.1]

theorem sliceBound_eq_ok (start : List Char) {part : List Char} {b : Option Int}
    (hpart : ∀ c ∈ part, isNumberChar c = true) :
    sliceBound start part = .ok b ↔ SpellsBound b part := by
  constructor
  · intro h
    unfold sliceBound at h
    simp only at h
    split at h
    · rename_i hempty
      cases h
      obtain ⟨gap, gap', hgap, hgap', heq⟩ := strip_split part
      rw [List.isEmpty_iff.1 hempty, List.nil_append] at heq
      show Gap part
      rw [heq]
      exact List.forall_mem_append.2 ⟨hgap, hgap'⟩
    · split at h
      · rename_i hread
        cases h
        refine (indexNumber_eq_ok start hpart).1 ?_
        rw [indexNumber, hread]
      · cases h
  · intro h
    cases b with
    | none =>
      have hstrip : strip (part ++ ([] ++ [])) = [] :=
        strip_padded h gap_nil fun _ hc => absurd hc List.not_mem_nil
      rw [List.append_nil, List.append_nil] at hstrip
      rw [sliceBound, hstrip]
      rfl
    | some i =>
      obtain ⟨gap, cs, gap', hgap, hcs, hgap', rfl⟩ := h
      obtain ⟨c, ds, rfl, -⟩ := numeral_head hcs
      rw [sliceBound, strip_padded hgap hgap' (isBlank_of_numeral hcs), hcs.1]
      rfl

theorem splitAt_ne_nil (sep : Char) (cs : List Char) : splitAt sep cs ≠ [] := by
  cases cs with
  | nil => exact List.cons_ne_nil _ _
  | cons c cs =>
    rw [splitAt]
    split
    · split <;> exact List.cons_ne_nil _ _
    · exact List.cons_ne_nil _ _

/-- A part of a text ends at the first separator behind it. -/
theorem splitAt_append {sep : Char} {part : List Char} (rest : List Char) (h : sep ∉ part) :
    splitAt sep (part ++ sep :: rest) = part :: splitAt sep rest := by
  induction part with
  | nil =>
    obtain ⟨p, ps, hps⟩ := List.exists_cons_of_ne_nil (splitAt_ne_nil sep rest)
    rw [List.nil_append, splitAt, hps]
    exact if_pos rfl
  | cons c part ih =>
    rw [List.mem_cons, not_or] at h
    rw [List.cons_append, splitAt, ih h.2]
    exact if_neg (Ne.symm h.1)

theorem splitAt_eq_self {sep : Char} {part : List Char} (h : sep ∉ part) :
    splitAt sep part = [part] := by
  induction part with
  | nil => rfl
  | cons c part ih =>
    rw [List.mem_cons, not_or] at h
    rw [splitAt, ih h.2]
    exact if_neg (Ne.symm h.1)

theorem contains_false {c : Char} {cs : List Char} (h : c ∉ cs) : cs.contains c = false := by
  rw [Bool.eq_false_iff, ne_eq, List.contains_iff_mem]
  exact h

/-- The first part of a text ends with the text, or at a separator. -/
theorem splitAt_eq_cons {sep : Char} {cs part : List Char} {parts : List (List Char)}
    (h : splitAt sep cs = part :: parts) : sep ∉ part ∧
      ((parts = [] ∧ cs = part) ∨ ∃ more, cs = part ++ sep :: more ∧ splitAt sep more = parts) := by
  induction cs generalizing part with
  | nil =>
    cases h
    exact ⟨List.not_mem_nil, .inl ⟨rfl, rfl⟩⟩
  | cons c cs ih =>
    obtain ⟨p, ps, hps⟩ := List.exists_cons_of_ne_nil (splitAt_ne_nil sep cs)
    rw [splitAt, hps] at h
    dsimp only at h
    by_cases hc : c = sep
    · rw [if_pos hc] at h
      cases h
      exact ⟨List.not_mem_nil, .inr ⟨cs, by rw [hc, List.nil_append], hps⟩⟩
    · rw [if_neg hc] at h
      cases h
      obtain ⟨hmem, hrest⟩ := ih hps
      refine ⟨?_, ?_⟩
      · rw [List.mem_cons, not_or]
        exact ⟨Ne.symm hc, hmem⟩
      · rcases hrest with ⟨rfl, rfl⟩ | ⟨more, rfl, hmore⟩
        · exact .inl ⟨rfl, rfl⟩
        · exact .inr ⟨more, rfl, hmore⟩

theorem splitAt_eq_two {sep : Char} {cs a b : List Char} (h : splitAt sep cs = [a, b]) :
    cs = a ++ sep :: b := by
  obtain ⟨-, ⟨hnil, -⟩ | ⟨more, rfl, hmore⟩⟩ := splitAt_eq_cons h
  · cases hnil
  · obtain ⟨-, ⟨-, rfl⟩ | ⟨_, _, hnone⟩⟩ := splitAt_eq_cons hmore
    · rfl
    · exact absurd hnone (splitAt_ne_nil _ _)

theorem splitAt_eq_three {sep : Char} {cs a b c : List Char} (h : splitAt sep cs = [a, b, c]) :
    cs = a ++ sep :: (b ++ sep :: c) := by
  obtain ⟨-, ⟨hnil, -⟩ | ⟨more, rfl, hmore⟩⟩ := splitAt_eq_cons h
  · cases hnil
  · rw [splitAt_eq_two hmore]

theorem listed_cons_right {α : Type} {spells : α → List Char → Prop} {as : List α}
    {body : List Char} (h : Listed spells as body) : ∃ a rest, as = a :: rest := by
  cases h <;> exact ⟨_, _, rfl⟩

/-- Numbers with commas between them are read as they are spelled. -/
theorem mapM_splitAt_eq_ok (start : List Char) {body : List Char} {is : List Int}
    (hbody : ∀ c ∈ body, isNumberChar c = true) :
    (splitAt ',' body).mapM (indexNumber start) = .ok is ↔ Listed Numeral is body := by
  constructor
  · intro h
    generalize hparts : splitAt ',' body = parts at h
    induction parts generalizing body is with
    | nil => exact absurd hparts (splitAt_ne_nil _ _)
    | cons part parts ih =>
      rw [List.mapM_cons] at h
      obtain ⟨i, hi, h⟩ := bind_eq_ok.1 h
      obtain ⟨js, hjs, h⟩ := bind_eq_ok.1 h
      cases h
      obtain ⟨hmem, ⟨rfl, rfl⟩ | ⟨more, rfl, hmore⟩⟩ := splitAt_eq_cons hparts
      · cases hjs
        exact .last ((indexNumber_eq_ok start hbody).1 hi)
      · obtain ⟨hpart, hrest⟩ := List.forall_mem_append.1 hbody
        exact .cons ((indexNumber_eq_ok start hpart).1 hi)
          (ih (List.forall_mem_cons.1 hrest).2 hmore hjs)
  · intro h
    induction h with
    | @last i text h =>
      have hi := (indexNumber_eq_ok start (padded_isPart h).isNumberChar).2 h
      rw [splitAt_eq_self ((padded_isPart h).not_mem (by decide)), List.mapM_cons, hi]
      rfl
    | @cons i text js more h _ ih =>
      have hi := (indexNumber_eq_ok start (padded_isPart h).isNumberChar).2 h
      have hrest := (List.forall_mem_cons.1 (List.forall_mem_append.1 hbody).2).2
      rw [splitAt_append _ ((padded_isPart h).not_mem (by decide)), List.mapM_cons, hi,
        ih hrest]
      rfl

/-! ### Brackets of numbers -/

theorem listed_head {i : Int} {is : List Int} {body : List Char}
    (h : Listed Numeral (i :: is) body) :
    ∃ part, Padded (Numeral i) part ∧
      ((is = [] ∧ body = part) ∨ ∃ more, Listed Numeral is more ∧ body = part ++ ',' :: more) := by
  cases h with
  | last h => exact ⟨body, h, .inl ⟨rfl, rfl⟩⟩
  | cons h hmore => exact ⟨_, h, .inr ⟨_, hmore, rfl⟩⟩

theorem listed_chars {is : List Int} {body : List Char} (h : Listed Numeral is body) :
    (∀ c ∈ body, isNumberChar c = true) ∧ ':' ∉ body := by
  induction h with
  | last h => exact ⟨(padded_isPart h).isNumberChar, (padded_isPart h).not_mem (by decide)⟩
  | cons h _ ih =>
    refine ⟨List.forall_mem_append.2 ⟨(padded_isPart h).isNumberChar,
      List.forall_mem_cons.2 ⟨by decide, ih.1⟩⟩, ?_⟩
    rw [List.mem_append, List.mem_cons, not_or, not_or]
    exact ⟨(padded_isPart h).not_mem (by decide), by decide, ih.2⟩

theorem SpellsNumbers.chars {t : Token} {body : List Char} (h : SpellsNumbers t body) :
    ∀ c ∈ body, isNumberChar c = true := by
  have hcolon : isNumberChar ':' = true := by decide
  cases h with
  | index h => exact (listed_chars h).1
  | indexes h => exact (listed_chars h).1
  | slice ha hb =>
    exact List.forall_mem_append.2 ⟨(bound_isPart ha).isNumberChar,
      List.forall_mem_cons.2 ⟨hcolon, (bound_isPart hb).isNumberChar⟩⟩
  | stepped ha hb hc =>
    exact List.forall_mem_append.2 ⟨(bound_isPart ha).isNumberChar,
      List.forall_mem_cons.2 ⟨hcolon, List.forall_mem_append.2 ⟨(bound_isPart hb).isNumberChar,
        List.forall_mem_cons.2 ⟨hcolon, (bound_isPart hc).isNumberChar⟩⟩⟩⟩

theorem spells_of_numberToken {start body : List Char} {t : Token}
    (hbody : ∀ c ∈ body, isNumberChar c = true) (h : numberToken start body = .ok t) :
    SpellsNumbers t body := by
  unfold numberToken at h
  split at h
  · split at h
    · rename_i a b hparts
      obtain rfl : body = a ++ ':' :: b := splitAt_eq_two hparts
      obtain ⟨ha, hrest⟩ := List.forall_mem_append.1 hbody
      obtain ⟨-, hb⟩ := List.forall_mem_cons.1 hrest
      split at h
      · cases h
      · obtain ⟨x, hx, h⟩ := bind_eq_ok.1 h
        obtain ⟨y, hy, h⟩ := bind_eq_ok.1 h
        cases h
        exact .slice ((sliceBound_eq_ok start ha).1 hx) ((sliceBound_eq_ok start hb).1 hy)
    · rename_i a b c hparts
      obtain rfl : body = a ++ ':' :: (b ++ ':' :: c) := splitAt_eq_three hparts
      obtain ⟨ha, hrest⟩ := List.forall_mem_append.1 hbody
      obtain ⟨hb, hrest⟩ := List.forall_mem_append.1 (List.forall_mem_cons.1 hrest).2
      obtain ⟨-, hc⟩ := List.forall_mem_cons.1 hrest
      split at h
      · cases h
      · obtain ⟨x, hx, h⟩ := bind_eq_ok.1 h
        obtain ⟨y, hy, h⟩ := bind_eq_ok.1 h
        obtain ⟨z, hz, h⟩ := bind_eq_ok.1 h
        cases h
        exact .stepped ((sliceBound_eq_ok start ha).1 hx) ((sliceBound_eq_ok start hb).1 hy)
          ((sliceBound_eq_ok start hc).1 hz)
    · cases h
  · split at h
    · rename_i hcomma
      obtain ⟨is, his, h⟩ := bind_eq_ok.1 h
      cases h
      have hlisted := (mapM_splitAt_eq_ok start hbody).1 his
      cases hlisted with
      | last hpart =>
        rw [contains_false ((padded_isPart hpart).not_mem (by decide))] at hcomma
        cases hcomma
      | cons hpart hmore =>
        obtain ⟨j, js, rfl⟩ := listed_cons_right hmore
        exact .indexes (.cons hpart hmore)
    · obtain ⟨i, hi, h⟩ := bind_eq_ok.1 h
      cases h
      exact .index (.last ((indexNumber_eq_ok start hbody).1 hi))

theorem numberToken_of_spells (start : List Char) {body : List Char} {t : Token}
    (h : SpellsNumbers t body) : numberToken start body = .ok t := by
  cases h with
  | @index i _ h =>
    obtain ⟨part, hpart, ⟨-, rfl⟩ | ⟨_, hnil, _⟩⟩ := listed_head h
    · rw [numberToken, contains_false ((padded_isPart hpart).not_mem (by decide)),
        contains_false ((padded_isPart hpart).not_mem (by decide)),
        (indexNumber_eq_ok start (padded_isPart hpart).isNumberChar).2 hpart]
      rfl
    · cases hnil
  | @indexes i j is _ h =>
    have hread := (mapM_splitAt_eq_ok start (listed_chars h).1).2 h
    obtain ⟨part, -, ⟨hnil, -⟩ | ⟨more, -, hcomma⟩⟩ := listed_head h
    · cases hnil
    · have hmem : body.contains ',' = true := by
        rw [hcomma, List.contains_iff_mem]
        exact List.mem_append_right _ List.mem_cons_self
      rw [numberToken, contains_false (listed_chars h).2, if_neg Bool.false_ne_true, if_pos hmem,
        hread]
      rfl
  | @slice a b as bs ha hb =>
    have hcomma : ',' ∉ as ++ ':' :: bs := by
      rw [List.mem_append, List.mem_cons, not_or, not_or]
      exact ⟨(bound_isPart ha).not_mem (by decide), by decide,
        (bound_isPart hb).not_mem (by decide)⟩
    rw [numberToken, if_pos (by simp), splitAt_append _ ((bound_isPart ha).not_mem (by decide)),
      splitAt_eq_self ((bound_isPart hb).not_mem (by decide))]
    simp only [contains_false hcomma,
      (sliceBound_eq_ok start (bound_isPart ha).isNumberChar).2 ha,
      (sliceBound_eq_ok start (bound_isPart hb).isNumberChar).2 hb]
    rfl
  | @stepped a b c as bs cs ha hb hc =>
    have hcomma : ',' ∉ as ++ ':' :: (bs ++ ':' :: cs) := by
      simp only [List.mem_append, List.mem_cons, not_or]
      exact ⟨(bound_isPart ha).not_mem (by decide), by decide,
        (bound_isPart hb).not_mem (by decide), by decide, (bound_isPart hc).not_mem (by decide)⟩
    rw [numberToken, if_pos (by simp), splitAt_append _ ((bound_isPart ha).not_mem (by decide)),
      splitAt_append _ ((bound_isPart hb).not_mem (by decide)),
      splitAt_eq_self ((bound_isPart hc).not_mem (by decide))]
    simp only [contains_false hcomma,
      (sliceBound_eq_ok start (bound_isPart ha).isNumberChar).2 ha,
      (sliceBound_eq_ok start (bound_isPart hb).isNumberChar).2 hb,
      (sliceBound_eq_ok start (bound_isPart hc).isNumberChar).2 hc]
    rfl

/-- What the numbers of a bracket mean is told by how they are spelled. -/
theorem bracketNumbers_eq_ok {opened text rest : List Char} {t : Token} :
    bracketNumbers opened text = .ok (t, rest) ↔
      ∃ body, SpellsNumbers t body ∧ text = body ++ ']' :: rest := by
  constructor
  · intro h
    unfold bracketNumbers at h
    simp only at h
    split at h
    · rename_i after hafter
      obtain ⟨t', ht, h⟩ := bind_eq_ok.1 h
      cases h
      refine ⟨text.takeWhile isNumberChar, spells_of_numberToken of_mem_takeWhile ht, ?_⟩
      rw [← hafter]
      exact List.takeWhile_append_dropWhile.symm
    · cases h
  · rintro ⟨body, hbody, rfl⟩
    have hend : Ends isNumberChar (']' :: rest) := ends_cons (by decide)
    rw [bracketNumbers, takeWhile_run hbody.chars hend, dropWhile_run hbody.chars hend]
    simp only [numberToken_of_spells _ hbody]
    rfl

/-! ### White space in front -/

theorem bound_gap {b : Option Int} {gap part : List Char} (hgap : Gap gap)
    (h : SpellsBound b part) : SpellsBound b (gap ++ part) := by
  cases b with
  | none => exact hgap.append h
  | some i => exact padded_gap hgap h

theorem SpellsNumbers.gap {t : Token} {gap body : List Char} (hgap : Gap gap)
    (h : SpellsNumbers t body) : SpellsNumbers t (gap ++ body) := by
  cases h with
  | index h => exact .index (listed_gap hgap h)
  | indexes h => exact .indexes (listed_gap hgap h)
  | slice ha hb =>
    rw [← List.append_assoc]
    exact .slice (bound_gap hgap ha) hb
  | stepped ha hb hc =>
    rw [← List.append_assoc]
    exact .stepped (bound_gap hgap ha) hb hc

/-- What a bracket of numbers starts with. -/
def opensNumbers (c : Char) : Prop := c = '-' ∨ c = ':' ∨ c.isDigit = true

/-- Behind the white space in front of it, a number starts with a digit or its sign. -/
theorem padded_trim {i : Int} {text : List Char} (h : Padded (Numeral i) text) :
    ∃ gap c cs, Gap gap ∧ text = gap ++ c :: cs ∧ opensNumbers c ∧
      Padded (Numeral i) (c :: cs) := by
  obtain ⟨gap, cs, gap', hgap, hcs, hgap', rfl⟩ := h
  obtain ⟨c, ds, rfl, hc⟩ := numeral_head hcs
  refine ⟨gap, c, ds ++ gap', hgap, rfl, ?_, [], c :: ds, gap', gap_nil, hcs, hgap', rfl⟩
  exact hc.elim (fun h => .inr (.inr h)) fun h => .inl h.1

theorem listed_trim {is : List Int} {body : List Char} (h : Listed Numeral is body) :
    ∃ gap c cs, Gap gap ∧ body = gap ++ c :: cs ∧ opensNumbers c ∧ Listed Numeral is (c :: cs) := by
  cases h with
  | last h =>
    obtain ⟨gap, c, cs, hgap, rfl, hc, hcs⟩ := padded_trim h
    exact ⟨gap, c, cs, hgap, rfl, hc, .last hcs⟩
  | cons h hmore =>
    obtain ⟨gap, c, cs, hgap, rfl, hc, hcs⟩ := padded_trim h
    exact ⟨gap, c, _, hgap, List.append_assoc .., hc, .cons hcs hmore⟩

/-- A bound in front of a colon. -/
theorem bound_trim {b : Option Int} {part : List Char} (h : SpellsBound b part)
    (rest : List Char) : ∃ gap c cs part', Gap gap ∧ part ++ ':' :: rest = gap ++ c :: cs ∧
      opensNumbers c ∧ SpellsBound b part' ∧ c :: cs = part' ++ ':' :: rest := by
  cases b with
  | none => exact ⟨part, ':', rest, [], h, rfl, .inr (.inl rfl), gap_nil, rfl⟩
  | some i =>
    obtain ⟨gap, c, cs, hgap, rfl, hc, hcs⟩ := padded_trim h
    exact ⟨gap, c, cs ++ ':' :: rest, c :: cs, hgap, List.append_assoc .., hc, hcs, rfl⟩

theorem SpellsNumbers.trim {t : Token} {body : List Char} (h : SpellsNumbers t body) :
    ∃ gap c cs, Gap gap ∧ body = gap ++ c :: cs ∧ opensNumbers c ∧ SpellsNumbers t (c :: cs) := by
  cases h with
  | index h =>
    obtain ⟨gap, c, cs, hgap, heq, hc, hcs⟩ := listed_trim h
    exact ⟨gap, c, cs, hgap, heq, hc, .index hcs⟩
  | indexes h =>
    obtain ⟨gap, c, cs, hgap, heq, hc, hcs⟩ := listed_trim h
    exact ⟨gap, c, cs, hgap, heq, hc, .indexes hcs⟩
  | slice ha hb =>
    obtain ⟨gap, c, cs, part, hgap, heq, hc, hpart, hcs⟩ := bound_trim ha _
    refine ⟨gap, c, cs, hgap, heq, hc, ?_⟩
    rw [hcs]
    exact .slice hpart hb
  | stepped ha hb hc =>
    obtain ⟨gap, c, cs, part, hgap, heq, hopen, hpart, hcs⟩ := bound_trim ha _
    refine ⟨gap, c, cs, hgap, heq, hopen, ?_⟩
    rw [hcs]
    exact .stepped hpart hb hc

/-! ### Literals -/

/-- A whole number goes on as far as there are digits. -/
theorem State.numberStep_eq_ok {s u : State} {text sign digits : List Char} (hsign : '+' ∉ sign) :
    s.numberStep text sign digits = .ok u ↔ ∃ i ds after, Numeral i (sign ++ ds) ∧
      (∀ c ∈ ds, c.isDigit = true) ∧ Ends Char.isDigit after ∧ digits = ds ++ after ∧
        u = s.emit (.integer i) after := by
  constructor
  · intro h
    unfold numberStep at h
    split at h
    · rename_i i hi
      cases h
      refine ⟨i, _, _, ⟨hi, ?_⟩, of_mem_takeWhile, ends_dropWhile _ _,
        List.takeWhile_append_dropWhile.symm, rfl⟩
      rw [List.mem_append, not_or]
      exact ⟨hsign, fun hplus => absurd (of_mem_takeWhile _ hplus) (by decide)⟩
    · cases h
  · rintro ⟨i, ds, after, hi, hds, hafter, rfl, rfl⟩
    rw [numberStep, takeWhile_run hds hafter, dropWhile_run hds hafter, hi.1]

/-- Where a whole number starts, it is read as it is spelled. -/
theorem State.integerStep_eq_ok {s u : State} {c : Char} {rest : List Char}
    (hc : c = '-' ∨ c.isDigit = true) :
    s.integerStep (c :: rest) = .ok u ↔ ∃ i cs after, Numeral i cs ∧ Ends Char.isDigit after ∧
      c :: rest = cs ++ after ∧ u = s.emit (.integer i) after := by
  have hminus : '-'.isDigit = false := by decide
  by_cases hsign : c = '-'
  · subst hsign
    show s.numberStep _ ['-'] rest = .ok u ↔ _
    rw [numberStep_eq_ok (by decide)]
    constructor
    · rintro ⟨i, ds, after, hi, -, hafter, rfl, rfl⟩
      exact ⟨i, '-' :: ds, after, hi, hafter, rfl, rfl⟩
    · rintro ⟨i, cs, after, hi, hafter, heq, rfl⟩
      obtain ⟨ds, hne, hds, rfl | rfl⟩ := numeral_digits hi
      · obtain ⟨d, ds, rfl⟩ := List.exists_cons_of_ne_nil hne
        have hd := hds d List.mem_cons_self
        rw [← (List.cons.inj heq).1, hminus] at hd
        cases hd
      · exact ⟨i, ds, after, hi, hds, hafter, (List.cons.inj heq).2, rfl⟩
  · have hstep : s.integerStep (c :: rest) = s.numberStep (c :: rest) [] (c :: rest) := by
      rw [integerStep]
      intro digits heq
      exact hsign (List.cons.inj heq).1
    rw [hstep, numberStep_eq_ok (by decide)]
    constructor
    · rintro ⟨i, ds, after, hi, -, hafter, heq, rfl⟩
      exact ⟨i, ds, after, hi, hafter, heq, rfl⟩
    · rintro ⟨i, cs, after, hi, hafter, heq, rfl⟩
      obtain ⟨ds, -, hds, rfl | rfl⟩ := numeral_digits hi
      · exact ⟨i, cs, after, hi, hds, hafter, heq, rfl⟩
      · exact absurd (List.cons.inj heq).1 hsign

end Sift.Path
