import Sift.Proofs.Path.Spelling

/-! The readers of a scan accept what is spelled, and nothing else.

Each reader of a name, of a bracket or of a literal takes off the front of a text exactly a
spelling of what it gives back. One lemma for each says so in both directions, so that steps of a
scan can be taken from a spelling, and spellings put together from steps. -/
namespace Sift.Path

open Text

/-! ### Runs and gaps -/

theorem ends_dropWhile (p : Char → Bool) (cs : List Char) : Ends p (cs.dropWhile p) := by
  intro c hc
  have hnot := List.head?_dropWhile_not p cs
  rw [hc] at hnot
  exact hnot

theorem of_mem_takeWhile {p : Char → Bool} {cs : List Char} : ∀ c ∈ cs.takeWhile p, p c = true :=
  List.all_eq_true.1 List.all_takeWhile

theorem gap_nil : Gap [] := fun _ hc => absurd hc List.not_mem_nil

theorem skipBlanks_gap {gap : List Char} (hgap : Gap gap) (text : List Char) :
    skipBlanks (gap ++ text) = skipBlanks text :=
  List.dropWhile_append_of_pos hgap

theorem skipBlanks_split (text : List Char) :
    ∃ gap, Gap gap ∧ text = gap ++ skipBlanks text :=
  ⟨text.takeWhile isBlank, of_mem_takeWhile, List.takeWhile_append_dropWhile.symm⟩

/-- White space is skipped up to a character of another kind. -/
theorem skipBlanks_eq_cons {c : Char} {text rest : List Char} (hc : isBlank c = false) :
    skipBlanks text = c :: rest ↔ ∃ gap, Gap gap ∧ text = gap ++ c :: rest := by
  constructor
  · intro h
    rw [← h]
    exact skipBlanks_split text
  · rintro ⟨gap, hgap, rfl⟩
    rw [skipBlanks_gap hgap, skipBlanks_cons hc]

theorem isBlank_of_isQuote {q : Char} (h : isQuote q = true) : isBlank q = false := by
  rw [isQuote, Bool.or_eq_true, beq_iff_eq, beq_iff_eq] at h
  rcases h with rfl | rfl <;> exact isBlank_delimiter _ (by decide)

/-- What has no white space in it is what is left when white space around it is stripped. -/
theorem strip_padded {gap cs gap' : List Char} (hgap : Gap gap) (hgap' : Gap gap')
    (hcs : ∀ c ∈ cs, isBlank c = false) : strip (gap ++ (cs ++ gap')) = cs := by
  have hdrop : dropEndWhile isBlank (cs ++ gap') = cs := by
    rw [dropEndWhile, List.reverse_append, List.dropWhile_append_of_pos]
    · rw [dropWhile_eq_self, List.reverse_reverse]
      intro c hc
      exact hcs c (List.mem_reverse.1 (List.mem_of_mem_head? hc))
    · intro c hc
      exact hgap' c (List.mem_reverse.1 hc)
  rw [strip, stripWhile, List.dropWhile_append_of_pos hgap]
  cases cs with
  | nil =>
    have hnone : gap'.dropWhile isBlank = [] := by
      rw [← List.append_nil gap', List.dropWhile_append_of_pos hgap']
      rfl
    rw [List.nil_append, hnone]
    rfl
  | cons c cs =>
    rw [List.cons_append, (ends_cons (hcs c List.mem_cons_self)).dropWhile, ← List.cons_append]
    exact hdrop

theorem strip_split (text : List Char) :
    ∃ gap gap', Gap gap ∧ Gap gap' ∧ text = gap ++ (strip text ++ gap') := by
  let inner := text.dropWhile isBlank
  refine ⟨text.takeWhile isBlank, (inner.reverse.takeWhile isBlank).reverse, of_mem_takeWhile,
    ?_, ?_⟩
  · intro c hc
    exact of_mem_takeWhile c (List.mem_reverse.1 hc)
  · have hinner : strip text ++ (inner.reverse.takeWhile isBlank).reverse = inner := by
      show (inner.reverse.dropWhile isBlank).reverse ++ _ = _
      rw [← List.reverse_append, List.takeWhile_append_dropWhile, List.reverse_reverse]
    rw [hinner]
    exact List.takeWhile_append_dropWhile.symm

/-! ### Quotes -/

theorem untilQuote_append {q : Char} {cs rest : List Char} (h : q ∉ cs) :
    untilQuote q (cs ++ q :: rest) = some (cs, rest) := by
  induction cs with
  | nil => rw [List.nil_append, untilQuote, if_pos rfl]
  | cons c cs ih =>
    rw [List.mem_cons, not_or] at h
    obtain ⟨hc, hcs⟩ := h
    rw [List.cons_append, untilQuote, if_neg (Ne.symm hc), ih hcs]
    rfl

theorem untilQuote_eq_some {q : Char} {cs text after : List Char}
    (h : untilQuote q cs = some (text, after)) : q ∉ text ∧ cs = text ++ q :: after := by
  induction cs generalizing text with
  | nil => cases h
  | cons c cs ih =>
    rw [untilQuote] at h
    by_cases hc : c = q
    · rw [if_pos hc] at h
      cases h
      exact ⟨List.not_mem_nil, by rw [hc, List.nil_append]⟩
    · rw [if_neg hc] at h
      obtain ⟨⟨run, rest⟩, hrun, heq⟩ := Option.map_eq_some_iff.1 h
      cases heq
      obtain ⟨hmem, rfl⟩ := ih hrun
      refine ⟨?_, rfl⟩
      rw [List.mem_cons, not_or]
      exact ⟨Ne.symm hc, hmem⟩

/-- A quoted text is read up to its second quote. -/
theorem quotedText_eq_ok {q : Char} (hq : isQuote q = true) {body rest : List Char} {s : String} :
    quotedText (q :: body) = .ok (s, rest) ↔
      ∃ text, Quoted s text ∧ q :: body = text ++ rest := by
  constructor
  · intro h
    unfold quotedText at h
    split at h
    · cases h
    · rename_i heq
      cases heq
      split at h
      · rename_i text after huntil
        cases h
        obtain ⟨hmem, rfl⟩ := untilQuote_eq_some huntil
        refine ⟨q :: (text ++ [q]), ⟨q, hq, ?_, ?_⟩, ?_⟩
        · rwa [String.toList_ofList]
        · rw [String.toList_ofList]
        · simp
      · cases h
  · rintro ⟨text, ⟨p, -, hmem, rfl⟩, h⟩
    rw [List.cons_append, List.append_assoc, List.singleton_append] at h
    obtain ⟨rfl, rfl⟩ := List.cons.inj h
    rw [quotedText, untilQuote_append hmem]
    simp only [String.ofList_toList]

/-! ### Names -/

/-- What a name starts with: a quote, a character of names, or a `$`. -/
def startsName (c : Char) : Bool := isQuote c || isNameChar c || c == '$'

theorem startsName_selector : ∀ c ∈ ['.', '*', '[', '+', '@', '?'], startsName c = false := by
  have hsub : ['.', '*', '[', '+', '@', '?'] ⊆ delimiters := by decide
  have hrest : ∀ c ∈ ['.', '*', '[', '+', '@', '?'], isQuote c = false ∧ (c == '$') = false := by
    decide
  intro c hc
  rw [startsName, (hrest c hc).1, (hrest c hc).2, isNameChar_delimiter c (hsub hc)]
  rfl

theorem IsRun.head {run : List Char} (h : IsRun run) :
    ∃ c cs, run = c :: cs ∧ isQuote c = false ∧ startsName c = true := by
  obtain ⟨cs, hne, hcs, hrun⟩ := h
  obtain ⟨c, cs, rfl⟩ := List.exists_cons_of_ne_nil hne
  have hc : isNameChar c = true := hcs c List.mem_cons_self
  rcases hrun with rfl | rfl
  · refine ⟨c, cs, rfl, isQuote_of_ne ?_ ?_, ?_⟩
    · rintro rfl
      rw [isNameChar_delimiter '\'' (by decide)] at hc
      cases hc
    · rintro rfl
      rw [isNameChar_delimiter '"' (by decide)] at hc
      cases hc
    · rw [startsName, hc, Bool.or_true, Bool.true_or]
  · refine ⟨'$', c :: cs, rfl, by decide, ?_⟩
    rw [startsName, beq_self_eq_true, Bool.or_true]

theorem SpellsName.head {name : String} {text rest : List Char} (h : SpellsName name text rest) :
    ∃ c cs, text = c :: cs ∧ startsName c = true := by
  cases h with
  | quoted hq =>
    obtain ⟨q, hq, -, rfl⟩ := hq
    refine ⟨q, _, List.cons_append, ?_⟩
    rw [startsName, hq, Bool.true_or, Bool.true_or]
  | plain hrun =>
    obtain ⟨c, cs, rfl, -, hc⟩ := hrun.head
    exact ⟨c, _, List.cons_append, hc⟩

theorem plainRun_append {run rest : List Char} (hne : run ≠ [])
    (hrun : ∀ c ∈ run, isNameChar c = true) (hrest : Ends isNameChar rest) :
    plainRun (run ++ rest) = (run, rest) ∧
      plainRun ('$' :: (run ++ rest)) = ('$' :: run, rest) := by
  obtain ⟨c, cs, rfl⟩ := List.exists_cons_of_ne_nil hne
  have hc : isNameChar c = true := hrun c List.mem_cons_self
  have hcs : ∀ d ∈ cs, isNameChar d = true := fun d hd => hrun d (List.mem_cons_of_mem c hd)
  constructor
  · have hdollar : c ≠ '$' := by
      intro heq
      subst heq
      rw [isNameChar_delimiter '$' (by decide)] at hc
      cases hc
    rw [plainRun, takeWhile_run hrun hrest, dropWhile_run hrun hrest]
    intro d ds heq
    exact hdollar (List.cons.inj heq).1
  · rw [List.cons_append, plainRun, if_pos hc, takeWhile_run hcs hrest, dropWhile_run hcs hrest]

theorem plainRun_eq {text run rest : List Char} (hne : run ≠ []) :
    plainRun text = (run, rest) ↔ IsRun run ∧ Ends isNameChar rest ∧ text = run ++ rest := by
  constructor
  · intro h
    unfold plainRun at h
    split at h
    · rename_i c cs
      split at h
      · rename_i hc
        cases h
        refine ⟨⟨c :: cs.takeWhile isNameChar, List.cons_ne_nil _ _, ?_, .inr rfl⟩,
          ends_dropWhile _ _, ?_⟩
        · exact List.forall_mem_cons.2 ⟨hc, of_mem_takeWhile⟩
        · rw [List.cons_append, List.cons_append, List.takeWhile_append_dropWhile]
      · cases h
        exact absurd rfl hne
    · cases h
      exact ⟨⟨_, hne, of_mem_takeWhile, .inl rfl⟩, ends_dropWhile _ _,
        List.takeWhile_append_dropWhile.symm⟩
  · rintro ⟨⟨cs, hcs, hall, hrun⟩, hrest, rfl⟩
    rcases hrun with rfl | rfl
    · exact (plainRun_append hcs hall hrest).1
    · exact (plainRun_append hcs hall hrest).2

theorem plainName_eq_ok {text rest : List Char} {name : String} :
    plainName text = .ok (name, rest) ↔ ∃ run, IsRun run ∧
      stripWhile (· == '-') run = name.toList ∧ name ≠ "" ∧ Ends isNameChar rest ∧
        text = run ++ rest := by
  constructor
  · intro h
    unfold plainName at h
    rcases hrun : plainRun text with ⟨run, after⟩
    simp only [hrun] at h
    split at h
    · cases h
    · rename_i hname
      cases h
      have hne : run ≠ [] := by
        rintro rfl
        exact hname rfl
      obtain ⟨hisRun, hends, rfl⟩ := (plainRun_eq hne).1 hrun
      refine ⟨run, hisRun, String.toList_ofList.symm, ?_, hends, rfl⟩
      intro hempty
      rw [String.ofList_eq_empty_iff] at hempty
      rw [hempty] at hname
      exact hname rfl
  · rintro ⟨run, hrun, hname, hne, hends, rfl⟩
    obtain ⟨c, cs, hcs, -⟩ := hrun.head
    have hread : plainRun (run ++ rest) = (run, rest) := by
      refine (plainRun_eq ?_).2 ⟨hrun, hends, rfl⟩
      rw [hcs]
      exact List.cons_ne_nil _ _
    have hsome : name.toList.isEmpty = false := by
      rw [List.isEmpty_eq_false_iff, ne_eq, String.toList_eq_nil_iff]
      exact hne
    rw [plainName, hread]
    simp only [hname, hsome, String.ofList_toList]
    rfl

/-- A name is read as it is spelled. -/
theorem memberName_eq_ok {text rest : List Char} {name : String} :
    memberName text = .ok (name, rest) ↔ SpellsName name text rest := by
  constructor
  · intro h
    unfold memberName at h
    split at h
    · split at h
      · rename_i hq
        obtain ⟨w, hw, heq⟩ := (quotedText_eq_ok hq).1 h
        rw [heq]
        exact .quoted hw
      · obtain ⟨run, hrun, hname, hne, hends, heq⟩ := plainName_eq_ok.1 h
        rw [heq]
        exact .plain hrun hname hne hends
    · cases h
  · intro h
    cases h with
    | @quoted text rest hw =>
      have hw' := hw
      obtain ⟨q, hq, -, rfl⟩ := hw'
      rw [List.cons_append, memberName, if_pos hq, quotedText_eq_ok hq]
      exact ⟨_, hw, rfl⟩
    | @plain run rest hrun hname hne hends =>
      have hread := plainName_eq_ok.2 ⟨run, hrun, hname, hne, hends, rfl⟩
      obtain ⟨c, cs, rfl, hc, -⟩ := hrun.head
      rw [List.cons_append] at hread ⊢
      rw [memberName, hc, if_neg Bool.false_ne_true, hread]

/-! ### Brackets of names -/

theorem closeBracket_eq_ok {opened text after : List Char} :
    closeBracket opened text = .ok after ↔ ∃ gap, Gap gap ∧ text = gap ++ ']' :: after := by
  rw [← skipBlanks_eq_cons (isBlank_delimiter ']' (by decide)), closeBracket]
  split
  · rename_i heq
    rw [heq]
    simp
  · rename_i hne
    simp only [reduceCtorEq, false_iff]
    exact hne after

/-- Behind a bracket there are no more names of it. -/
theorem moreNames_close (opened : List Char) {gap rest : List Char} (hgap : Gap gap) :
    moreNames opened (gap ++ ']' :: rest) = .ok ([], rest) := by
  have hskip : skipBlanks (gap ++ ']' :: rest) = ']' :: rest :=
    (skipBlanks_eq_cons (isBlank_delimiter ']' (by decide))).2 ⟨gap, hgap, rfl⟩
  rw [moreNames]
  split
  · rename_i heq
    rw [hskip] at heq
    cases heq
  · rename_i heq
    rw [hskip] at heq
    cases heq
    rfl
  · rename_i hne
    exact absurd hskip (hne rest)

/-- Behind a comma there is one more name. -/
theorem moreNames_comma {opened gap gap' w after rest : List Char} {n : String} {ns : List String}
    (hgap : Gap gap) (hgap' : Gap gap') (hw : Quoted n w)
    (hmore : moreNames opened after = .ok (ns, rest)) :
    moreNames opened (gap ++ ',' :: (gap' ++ (w ++ after))) = .ok (n :: ns, rest) := by
  have hread := hw
  obtain ⟨q, hq, -, hwq⟩ := hread
  have hskip : skipBlanks (gap ++ ',' :: (gap' ++ (w ++ after))) = ',' :: (gap' ++ (w ++ after)) :=
    (skipBlanks_eq_cons (isBlank_delimiter ',' (by decide))).2 ⟨gap, hgap, rfl⟩
  have hnext : skipBlanks (gap' ++ (w ++ after)) = w ++ after := by
    rw [skipBlanks_gap hgap', hwq, List.cons_append, skipBlanks_cons (isBlank_of_isQuote hq)]
  have hread : quotedText (w ++ after) = .ok (n, after) := by
    rw [hwq, List.cons_append, quotedText_eq_ok hq]
    exact ⟨w, hw, by rw [hwq, List.cons_append]⟩
  have hopen : (w ++ after).head?.any isQuote = true := by
    rw [hwq]
    exact hq
  rw [moreNames]
  split
  · rename_i heq
    rw [hskip] at heq
    cases heq
    rw [hnext, if_pos hopen]
    split
    · rename_i herr
      rw [hread] at herr
      cases herr
    · rename_i hok
      rw [hread] at hok
      cases hok
      rw [hmore]
      rfl
  · rename_i heq
    rw [hskip] at heq
    cases heq
  · rename_i hne _
    exact absurd hskip (hne _)

/-- Quoted names go on with a comma and another of them, or end with the bracket. -/
theorem moreNames_cases {opened text rest : List Char} {ns : List String}
    (h : moreNames opened text = .ok (ns, rest)) :
    (∃ gap, Gap gap ∧ text = gap ++ ']' :: rest ∧ ns = []) ∨
      ∃ gap gap' n w after ns', Gap gap ∧ Gap gap' ∧ Quoted n w ∧
        text = gap ++ ',' :: (gap' ++ (w ++ after)) ∧ moreNames opened after = .ok (ns', rest) ∧
          ns = n :: ns' := by
  rw [moreNames] at h
  split at h
  · rename_i more hskip
    obtain ⟨gap, hgap, rfl⟩ := (skipBlanks_eq_cons (isBlank_delimiter ',' (by decide))).1 hskip
    split at h
    · rename_i hquote
      split at h
      · cases h
      · rename_i n after hread
        obtain ⟨⟨ns', rest'⟩, hmore, heq⟩ := bind_eq_ok.1 h
        cases heq
        rcases hq : skipBlanks more with _ | ⟨q, cs⟩
        · rw [hq] at hquote
          cases hquote
        · rw [hq] at hquote hread
          have hq' : isQuote q = true := hquote
          obtain ⟨w, hw, heq⟩ := (quotedText_eq_ok hq').1 hread
          obtain ⟨gap', hgap', hmore'⟩ := (skipBlanks_eq_cons (isBlank_of_isQuote hq')).1 hq
          rw [heq] at hmore'
          exact .inr ⟨gap, gap', n, w, after, ns', hgap, hgap', hw, by rw [hmore'], hmore, rfl⟩
    · cases h
  · rename_i after hskip
    cases h
    obtain ⟨gap, hgap, rfl⟩ := (skipBlanks_eq_cons (isBlank_delimiter ']' (by decide))).1 hskip
    exact .inl ⟨gap, hgap, rfl, rfl⟩
  · cases h

/-- Behind a name, the rest of a list of names is read as it is spelled. -/
theorem moreNames_of_listed (opened : List Char) {n : String} {ns : List String} {body : List Char}
    (h : Listed Quoted (n :: ns) body) (rest : List Char) :
    ∃ gap w after, Gap gap ∧ Quoted n w ∧ body ++ ']' :: rest = gap ++ (w ++ after) ∧
      moreNames opened after = .ok (ns, rest) := by
  generalize hnames : n :: ns = names at h
  induction h generalizing n ns with
  | @last m text h =>
    cases hnames
    obtain ⟨gap, w, gap', hgap, hw, hgap', rfl⟩ := h
    refine ⟨gap, w, gap' ++ ']' :: rest, hgap, hw, by simp only [List.append_assoc], ?_⟩
    exact moreNames_close opened hgap'
  | @cons m text ms more h hmore ih =>
    cases hnames
    obtain ⟨gap, w, gap', hgap, hw, hgap', rfl⟩ := h
    obtain ⟨k, ks, rfl⟩ : ∃ k ks, ms = k :: ks := by cases hmore <;> exact ⟨_, _, rfl⟩
    obtain ⟨gap₁, w₁, after, hgap₁, hw₁, hnext, hread⟩ := ih rfl
    refine ⟨gap, w, gap' ++ ',' :: (more ++ ']' :: rest), hgap, hw,
      by simp only [List.append_assoc, List.cons_append], ?_⟩
    rw [hnext]
    exact moreNames_comma hgap' hgap₁ hw₁ hread

/-- What is read behind a name is spelled together with it. -/
theorem listed_of_moreNames {opened after rest : List Char} {ns : List String}
    (h : moreNames opened after = .ok (ns, rest)) {n : String} {w : List Char} (hw : Quoted n w)
    {gap : List Char} (hgap : Gap gap) :
    ∃ body, Listed Quoted (n :: ns) body ∧ gap ++ (w ++ after) = body ++ ']' :: rest := by
  induction ns generalizing n w gap after with
  | nil =>
    obtain ⟨gap', hgap', rfl, -⟩ | ⟨_, _, _, _, _, _, _, _, _, _, _, hns⟩ := moreNames_cases h
    · exact ⟨gap ++ (w ++ gap'), .last ⟨gap, w, gap', hgap, hw, hgap', rfl⟩, by simp⟩
    · cases hns
  | cons m ns ih =>
    obtain ⟨_, _, _, hns⟩ | ⟨gap', gap₁, k, w₁, after₁, ks, hgap', hgap₁, hw₁, rfl, hread, hns⟩ :=
      moreNames_cases h
    · cases hns
    · cases hns
      obtain ⟨more, hmore, heq⟩ := ih hread hw₁ hgap₁
      refine ⟨(gap ++ (w ++ gap')) ++ ',' :: more,
        .cons ⟨gap, w, gap', hgap, hw, hgap', rfl⟩ hmore, ?_⟩
      rw [heq]
      simp

/-! ### White space in front -/

theorem Gap.append {gap gap' : List Char} (h : Gap gap) (h' : Gap gap') : Gap (gap ++ gap') :=
  List.forall_mem_append.2 ⟨h, h'⟩

theorem padded_gap {inner : List Char → Prop} {gap text : List Char} (hgap : Gap gap) :
    Padded inner text → Padded inner (gap ++ text) := by
  rintro ⟨gap₁, cs, gap₂, hgap₁, hcs, hgap₂, rfl⟩
  exact ⟨gap ++ gap₁, cs, gap₂, hgap.append hgap₁, hcs, hgap₂, (List.append_assoc ..).symm⟩

/-- A bracket of quoted names is read from the first of them on. -/
theorem bracketNames_of_listed (opened : List Char) {n : String} {ns : List String}
    {body : List Char} (h : Listed Quoted (n :: ns) body) (rest : List Char) :
    ∃ gap q cs, Gap gap ∧ isQuote q = true ∧ body ++ ']' :: rest = gap ++ q :: cs ∧
      bracketNames opened (q :: cs) =
        .ok (match ns with | [] => .member n false | _ => .names (n :: ns), rest) := by
  obtain ⟨gap, w, after, hgap, hw, heq, hread⟩ := moreNames_of_listed opened h rest
  have hw' := hw
  obtain ⟨q, hq, -, rfl⟩ := hw'
  rw [List.cons_append] at heq
  have hname : quotedText (q :: (n.toList ++ [q] ++ after)) = .ok (n, after) :=
    (quotedText_eq_ok hq).2 ⟨_, hw, rfl⟩
  refine ⟨gap, q, _, hgap, hq, heq, ?_⟩
  rw [bracketNames, hname]
  show (moreNames opened after >>= _) = _
  rw [hread]
  cases ns <;> rfl

theorem spells_of_bracketNames {opened cs gap rest : List Char} {q : Char} {t : Token}
    (hq : isQuote q = true) (h : bracketNames opened (q :: cs) = .ok (t, rest)) (hgap : Gap gap) :
    ∃ body, SpellsBracket t body ∧ gap ++ q :: cs = body ++ ']' :: rest := by
  obtain ⟨⟨n, after⟩, hread, h⟩ := bind_eq_ok.1 h
  obtain ⟨⟨ns, after'⟩, hmore, h⟩ := bind_eq_ok.1 h
  obtain ⟨w, hw, heq⟩ := (quotedText_eq_ok hq).1 hread
  rw [heq]
  obtain ⟨body, hbody, hsplit⟩ := listed_of_moreNames hmore hw hgap
  cases ns with
  | nil =>
    cases h
    exact ⟨body, .name hbody, hsplit⟩
  | cons m ns =>
    cases h
    exact ⟨body, .names hbody, hsplit⟩

theorem listed_gap {α : Type} {spells : α → List Char → Prop} {as : List α} {gap body : List Char}
    (hgap : Gap gap) (h : Listed spells as body) : Listed spells as (gap ++ body) := by
  cases h with
  | last h => exact .last (padded_gap hgap h)
  | cons h hmore =>
    rw [← List.append_assoc]
    exact .cons (padded_gap hgap h) hmore

/-! ### Truth values -/

/-- The letters of `true` and `false`. -/
def truthLetters : List Char := ['t', 'r', 'u', 'e', 'f', 'a', 'l', 's']

theorem truthLetter_ascii : ∀ n < 128, (Char.ofNat n).toLower ∈ truthLetters →
    isLetter (Char.ofNat n) = true ∧ isQuote (Char.ofNat n) = false ∧
      (Char.ofNat n).isDigit = false ∧ Char.ofNat n ∉ '-' :: marks := by
  decide +kernel

/-- A letter of `true` or `false`, in upper or in lower case, starts nothing else in a
predicate. -/
theorem truthLetter {c : Char} (h : c.toLower ∈ truthLetters) :
    isLetter c = true ∧ isQuote c = false ∧ c.isDigit = false ∧ c ∉ '-' :: marks := by
  have hascii : c.toNat < 128 := by
    by_cases hupper : c.val ≥ 'A'.val ∧ c.val ≤ 'Z'.val
    · exact Nat.lt_of_le_of_lt (UInt32.le_iff_toNat_le.1 hupper.2) (by decide)
    · have hsame : c.toLower = c := dif_neg hupper
      have hall : ∀ d ∈ truthLetters, d.toNat < 128 := by decide
      rw [hsame] at h
      exact hall c h
  rw [← Char.ofNat_toNat c] at h ⊢
  exact truthLetter_ascii c.toNat hascii h

/-- A spelling of a truth value is made of these letters. -/
theorem toLower_of_sameAscii {cs : List Char} {b : Bool}
    (h : sameAscii (String.ofList cs) (Token.truth b).display = true) :
    cs ≠ [] ∧ ∀ c ∈ cs, c.toLower ∈ truthLetters := by
  have hlower : cs.map Char.toLower = (Token.truth b).display.toList := by
    have hdisplay : (Token.truth b).display.toList.map Char.toLower =
        (Token.truth b).display.toList := by cases b <;> decide
    rw [sameAscii, beq_iff_eq, asciiLower, asciiLower, hdisplay, String.toList_ofList,
      String.ofList_inj] at h
    exact h
  have hletters : ∀ c ∈ (Token.truth b).display.toList, c ∈ truthLetters := by cases b <;> decide
  refine ⟨?_, fun c hc => ?_⟩
  · rintro rfl
    cases b <;> cases hlower
  · apply hletters
    rw [← hlower]
    exact List.mem_map_of_mem hc

theorem readTruth?_eq_some {s : String} {b : Bool} :
    readTruth? s = some b ↔ sameAscii s (Token.truth b).display = true := by
  have htrue : (Token.truth true).display = "true" := rfl
  have hfalse : (Token.truth false).display = "false" := rfl
  have hdiffer : ¬ (sameAscii s "true" = true ∧ sameAscii s "false" = true) := by
    rw [sameAscii, sameAscii, beq_iff_eq, beq_iff_eq]
    rintro ⟨ht, hf⟩
    rw [ht] at hf
    exact absurd hf (by decide)
  cases b <;> simp only [readTruth?, htrue, hfalse] <;> grind

theorem State.wordStep_eq_ok {s u : State} {text : List Char} :
    s.wordStep text = .ok u ↔ ∃ b cs rest, sameAscii (String.ofList cs) (Token.truth b).display ∧
      Ends isWordChar rest ∧ text = cs ++ rest ∧ u = s.emit (.truth b) rest := by
  have hchars : (fun c => isLetter c || isNumeric c) = isWordChar := rfl
  unfold wordStep
  dsimp only
  rw [hchars]
  constructor
  · intro h
    split at h
    · rename_i b hb
      cases h
      exact ⟨b, _, _, readTruth?_eq_some.1 hb, ends_dropWhile _ _,
        List.takeWhile_append_dropWhile.symm, rfl⟩
    · cases h
  · rintro ⟨b, cs, rest, hcs, hrest, rfl, rfl⟩
    have hword : ∀ c ∈ cs, isWordChar c = true := by
      intro c hc
      rw [isWordChar, (truthLetter ((toLower_of_sameAscii hcs).2 c hc)).1, Bool.true_or]
    rw [takeWhile_run hword hrest, dropWhile_run hword hrest, readTruth?_eq_some.2 hcs]

end Sift.Path
