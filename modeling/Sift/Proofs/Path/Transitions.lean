import Sift.Proofs.Path.Numbers

/-! What a step of a scan can do.

In a path a step takes a selector, goes over a dot in front of a bracket, enters a filter or
leaves the path. In a predicate it takes a word, opens or closes a group, goes into a path or
leaves the filter. `Takes` lists these, each with what the text has to be like, and a step is one
of them exactly if it succeeds (`step_eq_ok`). -/
namespace Sift.Path

open Text

namespace State

/-- Behind a bracket and a question mark, the predicate of a filter is to come. -/
def inFilter (s : State) (rest : List Char) : State :=
  ⟨rest, [], 0, ⟨s.rest, s.tokens, s.groups⟩ :: s.filters, false⟩

/-- Behind a reference in a predicate, a path is to come. -/
def inReference (s : State) (t : Token) (rest : List Char) : State :=
  { s.emit t rest with inPath := true }

/-- Behind a parenthesis, a group of a predicate is to come. -/
def inGroup (s : State) (rest : List Char) : State :=
  { s.emit .startGroup rest with groups := s.groups + 1 }

variable {s u : State}

inductive Takes (s : State) : State → Prop where
  | dot {rest} : s.inPath = true → s.rest = '.' :: '[' :: rest →
      Takes s { s with rest := '[' :: rest }
  /-- A dot behind a reference to the root, at the end of the text. -/
  | lone : s.inPath = true → s.rest = ['.'] → s.filters = [] → s.tokens = [.root] →
      Takes s { s with rest := [] }
  | selector {t rest} : s.inPath = true → SpellsSelector t s.rest rest → Takes s (s.emit t rest)
  | enter {gap rest} : s.inPath = true → Gap gap → s.rest = '[' :: (gap ++ '?' :: rest) →
      Takes s (s.inFilter rest)
  | leave : s.inPath = true → Ends opensSelector s.rest → s.filters ≠ [] →
      Takes s { s with inPath := false }
  | word {t gap text rest} : s.inPath = false → s.filters ≠ [] → Gap gap →
      SpellsWord t text rest → s.rest = gap ++ text → Takes s (s.emit t rest)
  | reference {t gap rest} : s.inPath = false → s.filters ≠ [] → Gap gap →
      t.isReference = true → s.rest = gap ++ (t.chars ++ rest) → Takes s (s.inReference t rest)
  | openGroup {gap rest} : s.inPath = false → s.filters ≠ [] → Gap gap →
      s.rest = gap ++ '(' :: rest → Takes s (s.inGroup rest)
  | closeGroup {gap rest n} : s.inPath = false → s.filters ≠ [] → Gap gap →
      s.rest = gap ++ ')' :: rest → s.groups = n + 1 →
      Takes s { s.emit .endGroup rest with groups := n }
  | exit {outer filters gap rest} : s.inPath = false → s.filters = outer :: filters → Gap gap →
      s.rest = gap ++ ']' :: rest → s.groups = 0 → Takes s (s.closeFilter outer filters rest)

/-! ### Brackets -/

/-- What starts neither a filter nor a wildcard starts names or numbers. -/
theorem bracketStep_other {opened text rest : List Char} {c : Char}
    (hskip : skipBlanks text = c :: rest) (hquestion : c ≠ '?') (hstar : c ≠ '*') :
    s.bracketStep opened text =
      if isQuote c then do
        let (token, rest) ← bracketNames opened (c :: rest)
        .ok (s.emit token rest)
      else if c = '-' ∨ c = ':' ∨ c.isDigit then do
        let (token, rest) ← bracketNumbers opened (c :: rest)
        .ok (s.emit token rest)
      else .error (.unexpected (c :: rest)) := by
  rw [bracketStep, hskip]
  split
  · rename_i heq
    cases heq
  · rename_i heq
    exact absurd (List.cons.inj heq).1 hquestion
  · rename_i heq
    exact absurd (List.cons.inj heq).1 hstar
  · rename_i heq
    cases heq
    rfl

theorem bracketStep_of_listed {n : String} {ns : List String} {body : List Char}
    (h : Listed Quoted (n :: ns) body) (opened rest : List Char) :
    s.bracketStep opened (body ++ ']' :: rest) =
      .ok (s.emit (match ns with | [] => .member n false | _ => .names (n :: ns)) rest) := by
  obtain ⟨gap, q, cs, hgap, hq, heq, hread⟩ := bracketNames_of_listed opened h rest
  have hskip : skipBlanks (gap ++ q :: cs) = q :: cs :=
    (skipBlanks_eq_cons (isBlank_of_isQuote hq)).2 ⟨gap, hgap, rfl⟩
  have hne : ∀ d ∈ ['?', '*'], q ≠ d := by
    have hother : ∀ d ∈ ['?', '*'], isQuote d = false := by decide
    rintro d hd rfl
    rw [hother q hd] at hq
    cases hq
  rw [heq, bracketStep_other hskip (hne '?' (by decide)) (hne '*' (by decide)), if_pos hq, hread]
  rfl

theorem bracketStep_of_numbers {t : Token} {body : List Char} (h : SpellsNumbers t body)
    (opened rest : List Char) :
    s.bracketStep opened (body ++ ']' :: rest) = .ok (s.emit t rest) := by
  obtain ⟨gap, c, cs, hgap, rfl, hc, hcs⟩ := h.trim
  unfold opensNumbers at hc
  have hblank : isBlank c = false := by
    rcases hc with rfl | rfl | hc
    · exact isBlank_delimiter _ (by decide)
    · exact isBlank_delimiter _ (by decide)
    · exact isBlank_of_isDigit hc
  have hskip : skipBlanks (gap ++ c :: cs ++ ']' :: rest) = c :: (cs ++ ']' :: rest) :=
    (skipBlanks_eq_cons hblank).2 ⟨gap, hgap, List.append_assoc ..⟩
  have hne : ∀ d ∈ ['?', '*', '\'', '"'], c ≠ d := by
    have hother : ∀ d ∈ ['?', '*', '\'', '"'], ¬ (d = '-' ∨ d = ':' ∨ d.isDigit = true) := by
      decide
    rintro d hd rfl
    exact hother c hd hc
  have hquote : isQuote c = false := isQuote_of_ne (hne '\'' (by decide)) (hne '"' (by decide))
  have hread : bracketNumbers opened (c :: (cs ++ ']' :: rest)) = .ok (t, rest) :=
    bracketNumbers_eq_ok.2 ⟨c :: cs, hcs, rfl⟩
  rw [bracketStep_other hskip (hne '?' (by decide)) (hne '*' (by decide)), hquote,
    if_neg Bool.false_ne_true, if_pos hc, hread]
  rfl

theorem bracketStep_of_spells {t : Token} {body : List Char} (h : SpellsBracket t body)
    (opened rest : List Char) :
    s.bracketStep opened (body ++ ']' :: rest) = .ok (s.emit t rest) := by
  cases h with
  | wild h =>
    obtain ⟨gap, _, gap', hgap, rfl, hgap', rfl⟩ := h
    have hskip : skipBlanks (gap ++ (['*'] ++ gap') ++ ']' :: rest) =
        '*' :: (gap' ++ ']' :: rest) :=
      (skipBlanks_eq_cons (isBlank_delimiter _ (by decide))).2 ⟨gap, hgap, by simp⟩
    have hclose : closeBracket opened (gap' ++ ']' :: rest) = .ok rest :=
      closeBracket_eq_ok.2 ⟨gap', hgap', rfl⟩
    rw [bracketStep, hskip]
    show (closeBracket opened (gap' ++ ']' :: rest) >>= _) = _
    rw [hclose]
    rfl
  | name h => exact bracketStep_of_listed h opened rest
  | names h => exact bracketStep_of_listed h opened rest
  | numbers h => exact bracketStep_of_numbers h opened rest

/-- A bracket holds a filter, or it is a selector. -/
theorem bracketStep_takes (hpath : s.inPath = true) {body : List Char}
    (hrest : s.rest = '[' :: body) (h : s.bracketStep s.rest body = .ok u) : s.Takes u := by
  have hselector {t : Token} {rest : List Char}
      (hspelled : ∃ inner, SpellsBracket t inner ∧ body = inner ++ ']' :: rest) :
      s.Takes (s.emit t rest) := by
    obtain ⟨inner, hinner, rfl⟩ := hspelled
    refine .selector hpath ?_
    rw [hrest]
    exact .bracket hinner
  obtain ⟨gap, hgap, hbody⟩ := skipBlanks_split body
  unfold bracketStep at h
  split at h
  · cases h
  · rename_i rest hskip
    cases h
    rw [hskip] at hbody
    exact .enter hpath hgap (by rw [hrest, hbody])
  · rename_i rest hskip
    obtain ⟨after, hafter, h⟩ := bind_eq_ok.1 h
    cases h
    obtain ⟨gap', hgap', rfl⟩ := closeBracket_eq_ok.1 hafter
    rw [hskip] at hbody
    refine hselector ⟨gap ++ (['*'] ++ gap'), .wild ⟨gap, ['*'], gap', hgap, rfl, hgap', rfl⟩, ?_⟩
    rw [hbody]
    simp
  · rename_i c rest _ _ hskip
    rw [hskip] at hbody
    split at h
    · rename_i hq
      obtain ⟨⟨t, after⟩, hread, h⟩ := bind_eq_ok.1 h
      cases h
      exact hselector (hbody ▸ spells_of_bracketNames hq hread hgap)
    · split at h
      · obtain ⟨⟨t, after⟩, hread, h⟩ := bind_eq_ok.1 h
        cases h
        obtain ⟨inner, hinner, heq⟩ := bracketNumbers_eq_ok.1 hread
        refine hselector ⟨gap ++ inner, .numbers (hinner.gap hgap), ?_⟩
        rw [hbody, heq, List.append_assoc]
      · cases h

/-! ### Paths -/

/-- A step that ends with a name takes a selector. -/
theorem named_takes (hpath : s.inPath = true) {text : List Char} (token : String → Token)
    (hselector : ∀ name rest, SpellsName name text rest →
      SpellsSelector (token name) s.rest rest)
    (h : (do
      let (name, rest) ← memberName text
      .ok (s.emit (token name) rest) : Except Fault State) = .ok u) : s.Takes u := by
  obtain ⟨⟨name, rest⟩, hname, h⟩ := bind_eq_ok.1 h
  cases h
  exact .selector hpath (hselector name rest (memberName_eq_ok.1 hname))

theorem pathStep_of_selector {t : Token} {rest : List Char} (h : SpellsSelector t s.rest rest) :
    s.pathStep = .ok (s.emit t rest) := by
  -- What a name starts with, nothing else in a path does.
  have hhead {name : String} {text : List Char} (hname : SpellsName name text rest) :
      ∃ c cs, text = c :: cs ∧ c ≠ '.' ∧ c ≠ '*' ∧ c ≠ '[' := by
    obtain ⟨c, cs, heq, hc⟩ := hname.head
    have hne : ∀ d ∈ ['.', '*', '[', '+', '@', '?'], c ≠ d := by
      rintro d hd rfl
      rw [startsName_selector c hd] at hc
      cases hc
    exact ⟨c, cs, heq, hne '.' (by decide), hne '*' (by decide), hne '[' (by decide)⟩
  generalize hrest : s.rest = text at h
  cases h with
  | member hname =>
    obtain ⟨c, cs, rfl, hdot, hstar, hbracket⟩ := hhead hname
    simp [pathStep, hrest, hdot, hstar, hbracket, memberName_eq_ok.2 hname, bind, Except.bind]
  | marked hname => simp [pathStep, hrest, memberName_eq_ok.2 hname, bind, Except.bind]
  | descendant hname =>
    obtain ⟨c, cs, rfl, hdot, hstar, hbracket⟩ := hhead hname
    simp [pathStep, hrest, hstar, memberName_eq_ok.2 hname, bind, Except.bind]
  | everywhere =>
    rw [pathStep, hrest]
    rfl
  | memberWild =>
    rw [pathStep, hrest]
    rfl
  | bracket hb =>
    rw [pathStep, hrest]
    exact bracketStep_of_spells hb _ rest

theorem pathStep_leave (hends : Ends opensSelector s.rest) (hfilters : s.filters ≠ []) :
    s.pathStep = .ok { s with inPath := false } := by
  have hnone : ¬ s.filters.isEmpty = true := by
    rw [List.isEmpty_iff]
    exact hfilters
  rcases hrest : s.rest with _ | ⟨c, cs⟩
  · simp [pathStep, hrest, hfilters]
  · have hc : opensSelector c = false := hends c (by rw [hrest]; rfl)
    simp only [opensSelector, Bool.or_eq_false_iff, beq_eq_false_iff_ne] at hc
    obtain ⟨⟨hdot, hplus⟩, hbracket⟩ := hc
    simp [pathStep, hrest, hdot, hplus, hbracket, hfilters]

theorem pathStep_takes (hpath : s.inPath = true) (h : s.pathStep = .ok u) : s.Takes u := by
  unfold pathStep at h
  split at h
  case h_1 rest hrest =>
    cases h
    exact .selector hpath (hrest ▸ .everywhere)
  case h_2 rest _ hrest =>
    exact named_takes hpath (fun n => .descendant n false) (fun _ _ hn => hrest ▸ .descendant hn) h
  case h_3 rest hrest =>
    cases h
    exact .selector hpath (hrest ▸ .memberWild)
  case h_4 rest hrest =>
    cases h
    exact .dot hpath hrest
  case h_5 rest _ _ _ _ hrest =>
    split at h
    · rename_i hlone
      cases h
      obtain ⟨rfl, hfilters, htokens⟩ := hlone
      exact .lone hpath hrest (List.isEmpty_iff.1 hfilters) htokens
    · exact named_takes hpath (fun n => .member n false) (fun _ _ hn => hrest ▸ .member hn) h
  case h_6 rest hrest =>
    exact named_takes hpath (fun n => .member n true) (fun _ _ hn => hrest ▸ .marked hn) h
  case h_7 rest hrest =>
    rw [← hrest] at h
    exact bracketStep_takes hpath hrest h
  case h_8 hdot hplus hbracket =>
    split at h
    · cases h
    · rename_i hfilters
      cases h
      refine .leave hpath ?_ ?_
      · intro c hc
        obtain ⟨rest, hrest⟩ := List.head?_eq_some_iff.1 hc
        simp only [opensSelector, Bool.or_eq_false_iff, beq_eq_false_iff_ne]
        refine ⟨⟨?_, ?_⟩, ?_⟩
        · rintro rfl
          exact hdot rest hrest
        · rintro rfl
          exact hplus rest hrest
        · rintro rfl
          exact hbracket rest hrest
      · rintro hnil
        rw [hnil] at hfilters
        exact hfilters rfl

/-! ### Predicates -/

variable {outer : Outer} {filters : List Outer}

theorem filterStep_operator {t : Token} {tail : List Char} (ht : t.isOperator = true)
    (htail : t.chars.length = 1 → Ends (· == '=') tail)
    (hskip : skipBlanks s.rest = t.chars ++ tail) :
    s.filterStep outer filters = .ok (s.emit t tail) := by
  have hequal (hone : t.chars.length = 1) {rest : List Char} : tail ≠ '=' :: rest := by
    rintro rfl
    exact Bool.noConfusion (htail hone '=' rfl)
  cases t with
  | and => simp [filterStep, hskip, Token.chars, Token.display]
  | or => simp [filterStep, hskip, Token.chars, Token.display]
  | not => simp [filterStep, hskip, Token.chars, Token.display, hequal rfl]
  | compare op =>
    cases op with
    | lt => simp [filterStep, hskip, Token.chars, Token.display, Comparison.symbol, hequal rfl]
    | gt => simp [filterStep, hskip, Token.chars, Token.display, Comparison.symbol, hequal rfl]
    | _ => simp [filterStep, hskip, Token.chars, Token.display, Comparison.symbol]
  | _ => cases ht

/-- What starts none of the other words starts a literal. -/
theorem filterStep_other {c : Char} {rest : List Char} (hskip : skipBlanks s.rest = c :: rest)
    (hc : c ∉ marks) : s.filterStep outer filters =
      if isQuote c then do
        let (text, rest) ← quotedText (c :: rest)
        .ok (s.emit (.text text) rest)
      else if c.isDigit ∨ (c = '-' ∧ rest.head?.any Char.isDigit) then s.integerStep (c :: rest)
      else if isLetter c then s.wordStep (c :: rest)
      else .error (.unexpected (c :: rest)) := by
  have hop : ¬ (c = '=' ∨ c = '~' ∨ c = '&' ∨ c = '|') := by
    rintro (rfl | rfl | rfl | rfl) <;> exact hc (by decide)
  rw [filterStep, hskip]
  split
  case h_17 =>
    rename_i heq
    cases heq
    rw [if_neg hop]
  all_goals
    rename_i heq
    cases heq <;> exact absurd (by decide) hc

theorem filterStep_text {str : String} {text rest : List Char} (h : Quoted str text)
    (hskip : skipBlanks s.rest = text ++ rest) :
    s.filterStep outer filters = .ok (s.emit (.text str) rest) := by
  have hread := h
  obtain ⟨q, hq, -, rfl⟩ := hread
  have hother : ∀ d ∈ marks, isQuote d = false := by decide
  have hmark : q ∉ marks := by
    intro hmem
    rw [hother q hmem] at hq
    cases hq
  rw [filterStep_other hskip hmark, if_pos hq]
  have hread : quotedText (q :: (str.toList ++ [q] ++ rest)) = .ok (str, rest) :=
    (quotedText_eq_ok hq).2 ⟨_, h, rfl⟩
  show (quotedText (q :: (str.toList ++ [q] ++ rest)) >>= _) = _
  rw [hread]
  rfl

theorem filterStep_integer {i : Int} {cs rest : List Char} (h : Numeral i cs)
    (hends : Ends Char.isDigit rest) (hskip : skipBlanks s.rest = cs ++ rest) :
    s.filterStep outer filters = .ok (s.emit (.integer i) rest) := by
  obtain ⟨c, ds, rfl, hc⟩ := numeral_head h
  have hhead : c = '-' ∨ c.isDigit = true := hc.elim .inr fun h => .inl h.1
  have hother : ∀ d ∈ '\'' :: '"' :: marks, ¬ (d = '-' ∨ d.isDigit = true) := by decide
  have hne : c ∉ '\'' :: '"' :: marks := fun hmem => hother c hmem hhead
  rw [List.mem_cons, List.mem_cons, not_or, not_or] at hne
  have hnumber : c.isDigit = true ∨ (c = '-' ∧ (ds ++ rest).head?.any Char.isDigit = true) := by
    rcases hc with hd | ⟨hminus, d, es, rfl, hd⟩
    · exact .inl hd
    · exact .inr ⟨hminus, hd⟩
  have hskip' : skipBlanks s.rest = c :: (ds ++ rest) := hskip
  rw [filterStep_other hskip' hne.2.2, isQuote_of_ne hne.1 hne.2.1, if_neg Bool.false_ne_true,
    if_pos hnumber]
  exact (integerStep_eq_ok hhead).2 ⟨i, c :: ds, rest, h, hends, rfl, rfl⟩

theorem filterStep_truth {b : Bool} {cs rest : List Char}
    (h : sameAscii (String.ofList cs) (Token.truth b).display = true)
    (hends : Ends isWordChar rest) (hskip : skipBlanks s.rest = cs ++ rest) :
    s.filterStep outer filters = .ok (s.emit (.truth b) rest) := by
  obtain ⟨hne, hlower⟩ := toLower_of_sameAscii h
  obtain ⟨c, ds, rfl⟩ := List.exists_cons_of_ne_nil hne
  obtain ⟨hletter, hquote, hdigit, hmark⟩ := truthLetter (hlower c List.mem_cons_self)
  rw [List.mem_cons, not_or] at hmark
  have hnumber : ¬ (c.isDigit = true ∨ (c = '-' ∧ (ds ++ rest).head?.any Char.isDigit = true)) := by
    rintro (hd | ⟨hminus, -⟩)
    · rw [hdigit] at hd
      cases hd
    · exact hmark.1 hminus
  have hskip' : skipBlanks s.rest = c :: (ds ++ rest) := hskip
  rw [filterStep_other hskip' hmark.2, hquote, if_neg Bool.false_ne_true, if_neg hnumber,
    if_pos hletter]
  exact wordStep_eq_ok.2 ⟨b, c :: ds, rest, h, hends, rfl, rfl⟩

/-- A word starts with no white space of its own. -/
theorem skipBlanks_word {t : Token} {text rest : List Char} (h : SpellsWord t text rest) :
    skipBlanks text = text := by
  cases h with
  | operator ht _ =>
    have hop {op : Comparison} : ∃ c cs, op.symbol.toList = c :: cs ∧ isBlank c = false := by
      cases op <;> exact ⟨_, _, rfl, isBlank_delimiter _ (by decide)⟩
    cases t with
    | and | or | not => exact skipBlanks_cons (isBlank_delimiter _ (by decide))
    | compare op =>
      obtain ⟨c, cs, hcs, hc⟩ := @hop op
      rw [Token.chars, Token.display, hcs]
      exact skipBlanks_cons hc
    | _ => cases ht
  | text hw =>
    obtain ⟨q, hq, -, rfl⟩ := hw
    exact skipBlanks_cons (isBlank_of_isQuote hq)
  | integer hi _ =>
    obtain ⟨c, ds, rfl, hc⟩ := numeral_head hi
    exact skipBlanks_cons (isBlank_of_numeral hi c List.mem_cons_self)
  | truth hb _ =>
    obtain ⟨hne, hlower⟩ := toLower_of_sameAscii hb
    obtain ⟨c, ds, rfl⟩ := List.exists_cons_of_ne_nil hne
    have hname : isNameChar c = true := by
      rw [isNameChar, (truthLetter (hlower c List.mem_cons_self)).1]
      rfl
    exact skipBlanks_cons (isBlank_of_isNameChar hname)

theorem filterStep_word {t : Token} {text rest : List Char} (h : SpellsWord t text rest)
    (hskip : skipBlanks s.rest = text) :
    s.filterStep outer filters = .ok (s.emit t rest) := by
  cases h with
  | operator ht htail => exact filterStep_operator ht htail hskip
  | text hw => exact filterStep_text hw hskip
  | integer hi hends => exact filterStep_integer hi hends hskip
  | truth hb hends => exact filterStep_truth hb hends hskip

/-- What is read where no other word starts is a literal. -/
theorem spells_of_literal {c : Char} {cs : List Char}
    (h : (if isQuote c then do
        let (text, rest) ← quotedText (c :: cs)
        .ok (s.emit (.text text) rest)
      else if c.isDigit ∨ (c = '-' ∧ cs.head?.any Char.isDigit) then s.integerStep (c :: cs)
      else if isLetter c then s.wordStep (c :: cs)
      else .error (.unexpected (c :: cs)) : Except Fault State) = .ok u) :
    ∃ t rest, SpellsWord t (c :: cs) rest ∧ u = s.emit t rest := by
  split at h
  · rename_i hq
    obtain ⟨⟨str, rest⟩, hread, h⟩ := bind_eq_ok.1 h
    cases h
    obtain ⟨w, hw, heq⟩ := (quotedText_eq_ok hq).1 hread
    exact ⟨_, rest, heq ▸ .text hw, rfl⟩
  · split at h
    · rename_i hc
      have hhead : c = '-' ∨ c.isDigit = true := hc.elim .inr fun h => .inl h.1
      obtain ⟨i, ds, rest, hi, hrest, heq, rfl⟩ := (integerStep_eq_ok hhead).1 h
      exact ⟨_, rest, heq ▸ .integer hi hrest, rfl⟩
    · split at h
      · obtain ⟨b, ds, rest, hb, hrest, heq, rfl⟩ := wordStep_eq_ok.1 h
        exact ⟨_, rest, heq ▸ .truth hb hrest, rfl⟩
      · cases h

theorem filterStep_takes (hpath : s.inPath = false) (hfilters : s.filters = outer :: filters)
    (h : s.filterStep outer filters = .ok u) : s.Takes u := by
  have hne : s.filters ≠ [] := by
    rw [hfilters]
    exact List.cons_ne_nil _ _
  obtain ⟨gap, hgap, hrest⟩ := skipBlanks_split s.rest
  have hword {t : Token} {rest : List Char} (hw : SpellsWord t (skipBlanks s.rest) rest) :
      s.Takes (s.emit t rest) := .word hpath hne hgap hw hrest
  have hoperator {t : Token} {rest : List Char} (ht : t.isOperator = true)
      (htail : t.chars.length = 1 → Ends (· == '=') rest)
      (hskip : skipBlanks s.rest = t.chars ++ rest) : s.Takes (s.emit t rest) :=
    hword (hskip ▸ .operator ht htail)
  have hends {rest : List Char} (hnext : ∀ more, rest = '=' :: more → False) :
      Ends (· == '=') rest := by
    intro c hc
    obtain ⟨more, rfl⟩ := List.head?_eq_some_iff.1 hc
    rw [beq_eq_false_iff_ne]
    rintro rfl
    exact hnext more rfl
  unfold filterStep at h
  simp only at h
  split at h
  case h_1 => cases h
  case h_2 rest hskip =>
    split at h
    · rename_i hgroups
      cases h
      exact .exit hpath hfilters hgap (hskip ▸ hrest) hgroups
    · cases h
  case h_3 rest hskip =>
    cases h
    exact .openGroup hpath hne hgap (hskip ▸ hrest)
  case h_4 rest hskip =>
    split at h
    · cases h
    · rename_i hgroups
      cases h
      obtain ⟨n, hn⟩ := Nat.exists_eq_succ_of_ne_zero hgroups
      rw [hn]
      exact .closeGroup hpath hne hgap (hskip ▸ hrest) hn
  case h_5 rest hskip =>
    cases h
    rw [hskip] at hrest
    exact .reference hpath hne hgap rfl hrest
  case h_6 rest hskip =>
    cases h
    rw [hskip] at hrest
    exact .reference hpath hne hgap rfl hrest
  case h_8 rest hnext hskip =>
    cases h
    exact hoperator rfl (fun _ => hends hnext) hskip
  case h_12 rest hnext hskip =>
    cases h
    exact hoperator rfl (fun _ => hends hnext) hskip
  case h_14 rest hnext hskip =>
    cases h
    exact hoperator rfl (fun _ => hends hnext) hskip
  case h_17 c rest _ _ _ _ _ _ _ _ _ _ _ _ _ _ _ hskip =>
    split at h
    · cases h
    · obtain ⟨t, after, hw, rfl⟩ := spells_of_literal h
      exact hword (hskip ▸ hw)
  all_goals
    rename_i hskip
    cases h
    exact hoperator rfl (fun hone => absurd hone (by decide)) hskip

theorem step_takes (h : s.step = .ok u) : s.Takes u := by
  unfold step at h
  split at h
  · rename_i hpath
    exact pathStep_takes hpath h
  · rename_i hpath
    rw [Bool.not_eq_true] at hpath
    split at h
    · rename_i hfilters
      exact filterStep_takes hpath hfilters h
    · cases h

theorem Takes.step_eq (h : s.Takes u) : s.step = .ok u := by
  -- A step of a predicate is one of the innermost filter.
  have hinside (hpath : s.inPath = false) (hfilters : s.filters ≠ [])
      (h : ∀ outer filters, s.filters = outer :: filters → s.filterStep outer filters = .ok u) :
      s.step = .ok u := by
    obtain ⟨outer, filters, hf⟩ := List.exists_cons_of_ne_nil hfilters
    rw [step, hpath, hf]
    exact h outer filters hf
  have hskip {gap rest : List Char} {c : Char} (hc : c ∈ delimiters) (hgap : Gap gap)
      (hrest : s.rest = gap ++ c :: rest) : skipBlanks s.rest = c :: rest :=
    (skipBlanks_eq_cons (isBlank_delimiter c (List.mem_append_left _ hc))).2 ⟨gap, hgap, hrest⟩
  cases h with
  | dot hpath hrest =>
    rw [step, if_pos hpath, pathStep, hrest]
    rfl
  | lone hpath hrest hfilters htokens =>
    rw [step, if_pos hpath, pathStep, hrest]
    exact if_pos ⟨rfl, by rw [hfilters]; rfl, htokens⟩
  | selector hpath hselector =>
    rw [step, if_pos hpath, pathStep_of_selector hselector]
  | @enter gap rest hpath hgap hrest =>
    have hquestion : skipBlanks (gap ++ '?' :: rest) = '?' :: rest :=
      (skipBlanks_eq_cons (isBlank_delimiter '?' (by decide))).2 ⟨gap, hgap, rfl⟩
    rw [step, if_pos hpath, pathStep, inFilter, hrest]
    show s.bracketStep _ _ = _
    rw [bracketStep, hquestion]
    rfl
  | leave hpath hends hfilters =>
    rw [step, if_pos hpath, pathStep_leave hends hfilters]
  | word hpath hfilters hgap hword hrest =>
    refine hinside hpath hfilters fun outer filters _ => filterStep_word hword ?_
    rw [hrest, skipBlanks_gap hgap, skipBlanks_word hword]
  | @reference t gap rest hpath hfilters hgap ht hrest =>
    refine hinside hpath hfilters fun outer filters _ => ?_
    cases t with
    | root =>
      rw [filterStep, hskip (by decide) hgap hrest]
      rfl
    | current =>
      rw [filterStep, hskip (by decide) hgap hrest]
      rfl
    | _ => cases ht
  | openGroup hpath hfilters hgap hrest =>
    refine hinside hpath hfilters fun outer filters _ => ?_
    rw [filterStep, hskip (by decide) hgap hrest]
    rfl
  | closeGroup hpath hfilters hgap hrest hgroups =>
    refine hinside hpath hfilters fun outer filters _ => ?_
    rw [filterStep, hskip (by decide) hgap hrest, hgroups]
    rfl
  | exit hpath hfilters hgap hrest hgroups =>
    rw [step, hpath, hfilters]
    show s.filterStep _ _ = _
    rw [filterStep, hskip (by decide) hgap hrest]
    exact if_pos hgroups

/-- **A step succeeds exactly if it is one of those that a scan can take.** -/
theorem step_eq_ok : s.step = .ok u ↔ s.Takes u :=
  ⟨step_takes, Takes.step_eq⟩

end State

end Sift.Path
