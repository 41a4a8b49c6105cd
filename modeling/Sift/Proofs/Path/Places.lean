import Sift.Proofs.Path.Counts

/-! The places that errors point at.

An error of a scan points at a place of the path, and what it is about is there: the bracket that is
not closed, the quote of the string, the first character of the number, the operator, or the
character that is not expected. A scan keeps what is left of its text, and a fault holds what was
left at the place to blame. All that a scan reads with leaves the end of what it was given
(`Advances`), so no step leaves the text (`State.step_stays`), and the place of a fault is the
number of characters that are gone (`getElem?_of_suffix`). -/
namespace Sift.Path

open Text

/-! ### Places of a text -/

/-- A place of the text, with a character as `p` says. -/
def Standing (text : List Char) (p : Char → Prop) (rest : List Char) : Prop :=
  rest <:+ text ∧ ∃ c, rest.head? = some c ∧ p c

/-- A place of the text with a bracket that opens. -/
abbrev Opened (text opened : List Char) : Prop := Standing text (· = '[') opened

/-- What the fault is about is where it points, and that is a place of the text. -/
def Fault.Within (text : List Char) : Fault → Prop
  | .unexpected rest => rest <:+ text
  | .unterminatedFilter rest | .unclosedBracket rest => Opened text rest
  | .unterminatedString rest => Standing text (isQuote ·) rest
  | .invalidNumber rest => Standing text opensNumbers rest
  | .unknownOperator rest c => c ∈ ['=', '~', '&', '|'] ∧ Standing text (· = c) rest

/-- What is read in the text is as `p` says, and a fault blames a place of the text. -/
inductive Stays (text : List Char) {β : Type} (p : β → Prop) : Except Fault β → Prop where
  | ok {b : β} : p b → Stays text p (.ok b)
  | error {fault : Fault} : fault.Within text → Stays text p (.error fault)

variable {text opened rest body start : List Char} {β γ : Type} {p : β → Prop}
  {q : γ → Prop}

theorem Stays.bind {x : Except Fault β} {f : β → Except Fault γ} (hx : Stays text p x)
    (hf : ∀ b, p b → Stays text q (f b)) : Stays text q (x >>= f) := by
  cases hx with
  | ok h => exact hf _ h
  | error h => exact .error h

theorem Stays.of_eq_ok {x : Except Fault β} {b : β} (h : Stays text p x) (hx : x = .ok b) :
    p b := by
  subst hx
  cases h with
  | ok h => exact h

theorem Stays.of_eq_error {x : Except Fault β} {fault : Fault} (h : Stays text p x)
    (hx : x = .error fault) : fault.Within text := by
  subst hx
  cases h with
  | error h => exact h

theorem suffix_of_cons {c : Char} (h : c :: rest <:+ text) : rest <:+ text :=
  (List.suffix_cons c rest).trans h

/-- Something is read, and the rest of the text is left. -/
abbrev Advances (text : List Char) (x : Except Fault (β × List Char)) : Prop :=
  Stays text (fun r => r.2 <:+ text) x

/-- Something is read from a part of the text. -/
abbrev ReadsIn (text : List Char) (x : Except Fault β) : Prop := Stays text (fun _ => True) x

theorem skipBlanks_suffix (h : rest <:+ text) : skipBlanks rest <:+ text :=
  (List.dropWhile_suffix _).trans h

/-! ### Names -/

theorem quotedText_advances {q : Char} (hq : isQuote q = true) (h : q :: body <:+ text) :
    Advances text (quotedText (q :: body)) := by
  simp only [quotedText]
  split
  · rename_i run after huntil
    obtain ⟨-, rfl⟩ := untilQuote_eq_some huntil
    exact .ok (suffix_of_cons ((List.suffix_append _ _).trans (suffix_of_cons h)))
  · exact .error ⟨h, q, rfl, hq⟩

theorem plainRun_suffix (rest : List Char) : (plainRun rest).2 <:+ rest := by
  unfold plainRun
  split
  · split
    · exact ((List.dropWhile_suffix _).trans (List.suffix_cons _ _)).trans (List.suffix_cons _ _)
    · exact List.suffix_refl _
  · exact List.dropWhile_suffix _

theorem memberName_advances (h : rest <:+ text) : Advances text (memberName rest) := by
  unfold memberName
  split
  · split
    · rename_i hq
      exact quotedText_advances hq h
    · unfold plainName
      dsimp only
      split
      · exact .error h
      · exact .ok ((plainRun_suffix _).trans h)
  · exact .error h

/-! ### Brackets -/

theorem unexpectedOrUnclosed_within (hopened : Opened text opened) (h : rest <:+ text) :
    (unexpectedOrUnclosed opened rest).Within text := by
  unfold unexpectedOrUnclosed
  split
  · exact hopened
  · exact h

theorem closeBracket_stays (hopened : Opened text opened) (h : rest <:+ text) :
    Stays text (· <:+ text) (closeBracket opened rest) := by
  have hskip := skipBlanks_suffix h
  unfold closeBracket
  split
  · rename_i hclose
    exact .ok (suffix_of_cons (hclose ▸ hskip))
  · exact .error (unexpectedOrUnclosed_within hopened hskip)

theorem moreNames_advances (hopened : Opened text opened) (h : rest <:+ text) :
    Advances text (moreNames opened rest) := by
  -- What is read behind a comma starts with its quote.
  have hquoted {more : List Char} (hmore : more <:+ text)
      (hquote : (skipBlanks more).head?.any isQuote = true) :
      Advances text (quotedText (skipBlanks more)) := by
    have hskip := skipBlanks_suffix hmore
    cases hcs : skipBlanks more with
    | nil =>
      rw [hcs] at hquote
      cases hquote
    | cons c cs =>
      rw [hcs] at hquote hskip
      exact quotedText_advances hquote hskip
  fun_induction moreNames opened rest with
  | case1 rest more hcomma hquote fault hread =>
    have hmore := suffix_of_cons (hcomma ▸ skipBlanks_suffix h)
    exact .error ((hquoted hmore hquote).of_eq_error hread)
  | case2 rest more hcomma hquote name after hread ih =>
    have hmore := suffix_of_cons (hcomma ▸ skipBlanks_suffix h)
    exact (ih ((hquoted hmore hquote).of_eq_ok hread)).bind fun _ hlast => .ok hlast
  | case3 rest more hcomma =>
    have hmore := suffix_of_cons (hcomma ▸ skipBlanks_suffix h)
    exact .error (unexpectedOrUnclosed_within hopened (skipBlanks_suffix hmore))
  | case4 rest after hclose => exact .ok (suffix_of_cons (hclose ▸ skipBlanks_suffix h))
  | case5 rest => exact .error (unexpectedOrUnclosed_within hopened (skipBlanks_suffix h))

theorem bracketNames_advances {q : Char} (hopened : Opened text opened) (hq : isQuote q = true)
    (h : q :: body <:+ text) : Advances text (bracketNames opened (q :: body)) := by
  refine (quotedText_advances hq h).bind fun r hr => ?_
  refine (moreNames_advances hopened hr).bind fun r' hr' => ?_
  obtain ⟨names, rest⟩ := r'
  cases names with
  | nil => exact .ok hr'
  | cons name names => exact .ok hr'

theorem sliceBound_stays (h : Standing text opensNumbers start) (part : List Char) :
    ReadsIn text (sliceBound start part) := by
  unfold sliceBound
  dsimp only
  split
  · exact .ok trivial
  · split
    · exact .ok trivial
    · exact .error h

theorem indexNumber_stays (h : Standing text opensNumbers start) (part : List Char) :
    ReadsIn text (indexNumber start part) := by
  unfold indexNumber
  split
  · exact .ok trivial
  · exact .error h

theorem indexNumbers_stays (h : Standing text opensNumbers start) (parts : List (List Char)) :
    ReadsIn text (parts.mapM (indexNumber start)) := by
  induction parts with
  | nil => exact .ok trivial
  | cons part parts ih =>
    rw [List.mapM_cons]
    exact (indexNumber_stays h part).bind fun i _ => ih.bind fun is _ => .ok trivial

theorem numberToken_stays (h : Standing text opensNumbers start) (body : List Char) :
    ReadsIn text (numberToken start body) := by
  have hbound := sliceBound_stays h
  unfold numberToken
  split
  · split
    · split
      · exact .error h
      · exact (hbound _).bind fun a _ => (hbound _).bind fun b _ => .ok trivial
    · split
      · exact .error h
      · refine (hbound _).bind fun a _ => (hbound _).bind fun b _ => ?_
        exact (hbound _).bind fun c _ => .ok trivial
    · exact .error h
  · split
    · exact (indexNumbers_stays h _).bind fun is _ => .ok trivial
    · exact (indexNumber_stays h _).bind fun i _ => .ok trivial

theorem bracketNumbers_advances (hopened : Opened text opened)
    (h : Standing text opensNumbers start) : Advances text (bracketNumbers opened start) := by
  have hafter : start.dropWhile isNumberChar <:+ text := (List.dropWhile_suffix _).trans h.1
  unfold bracketNumbers
  dsimp only
  split
  · rename_i after hclose
    exact (numberToken_stays h _).bind fun t _ => .ok (suffix_of_cons (hclose ▸ hafter))
  · exact .error (unexpectedOrUnclosed_within hopened hafter)

/-! ### Steps -/

namespace State

/-- The rest of the text and the brackets of the open filters are places of the text. -/
def Within (text : List Char) (s : State) : Prop :=
  s.rest <:+ text ∧ ∀ outer ∈ s.filters, Opened text outer.opened

variable {s : State}

theorem Within.emit (hs : s.Within text) (h : rest <:+ text) (t : Token) :
    (s.emit t rest).Within text := ⟨h, hs.2⟩

theorem bracketStep_stays (hs : s.Within text) (h : '[' :: body <:+ text) :
    Stays text (Within text) (s.bracketStep ('[' :: body) body) := by
  have hopened : Opened text ('[' :: body) := ⟨h, '[', rfl, rfl⟩
  have hskip := skipBlanks_suffix (suffix_of_cons h)
  unfold bracketStep
  split
  · exact .error hopened
  · rename_i rest hcs
    exact .ok ⟨suffix_of_cons (hcs ▸ hskip), List.forall_mem_cons.2 ⟨hopened, hs.2⟩⟩
  · rename_i rest hcs
    refine (closeBracket_stays hopened (suffix_of_cons (hcs ▸ hskip))).bind fun r hr => ?_
    exact .ok (hs.emit hr _)
  · rename_i c rest _ _ hcs
    rw [hcs] at hskip
    split
    · rename_i hq
      exact (bracketNames_advances hopened hq hskip).bind fun r hr => .ok (hs.emit hr _)
    · split
      · rename_i hc
        refine (bracketNumbers_advances hopened ⟨hskip, c, rfl, hc⟩).bind fun r hr => ?_
        exact .ok (hs.emit hr _)
      · exact .error hskip

/-- A step that ends with a name. -/
theorem named_stays (hs : s.Within text) (h : rest <:+ text) (token : String → Token) :
    Stays text (Within text) (do
      let (name, rest) ← memberName rest
      .ok (s.emit (token name) rest)) :=
  (memberName_advances h).bind fun _ hr => .ok (hs.emit hr _)

theorem pathStep_stays (hs : s.Within text) : Stays text (Within text) s.pathStep := by
  have hrest := hs.1
  unfold pathStep
  split <;> (try (rename_i heq; rw [heq] at hrest))
  · exact .ok (hs.emit (suffix_of_cons (suffix_of_cons (suffix_of_cons hrest))) _)
  · exact named_stays hs (suffix_of_cons (suffix_of_cons hrest)) fun n => .descendant n false
  · exact .ok (hs.emit (suffix_of_cons (suffix_of_cons hrest)) _)
  · exact .ok ⟨suffix_of_cons hrest, hs.2⟩
  · split
    · exact .ok ⟨List.nil_suffix, hs.2⟩
    · exact named_stays hs (suffix_of_cons hrest) fun n => .member n false
  · exact named_stays hs (suffix_of_cons hrest) fun n => .member n true
  · exact bracketStep_stays hs hrest
  · split
    · exact .error hrest
    · exact .ok hs

theorem numberStep_stays {sign digits : List Char} (hs : s.Within text)
    (h : Standing text opensNumbers start) (hdigits : digits <:+ text) :
    Stays text (Within text) (s.numberStep start sign digits) := by
  unfold numberStep
  split
  · exact .ok (hs.emit ((List.dropWhile_suffix _).trans hdigits) _)
  · exact .error h

theorem integerStep_stays (hs : s.Within text) (h : Standing text opensNumbers start) :
    Stays text (Within text) (s.integerStep start) := by
  unfold integerStep
  split
  · exact numberStep_stays hs h (suffix_of_cons h.1)
  · exact numberStep_stays hs h h.1

theorem wordStep_stays (hs : s.Within text) (h : rest <:+ text) :
    Stays text (Within text) (s.wordStep rest) := by
  unfold wordStep
  dsimp only
  split
  · exact .ok (hs.emit ((List.dropWhile_suffix _).trans h) _)
  · exact .error h

theorem filterStep_stays {outer : Outer} {filters : List Outer} (hs : s.Within text)
    (hfilters : s.filters = outer :: filters) :
    Stays text (Within text) (s.filterStep outer filters) := by
  have hrest := skipBlanks_suffix hs.1
  have houters := hs.2
  rw [hfilters, List.forall_mem_cons] at houters
  obtain ⟨hopened, houter⟩ := houters
  have hone {c : Char} {rest : List Char} (hskip : skipBlanks s.rest = c :: rest) :
      rest <:+ text := suffix_of_cons (hskip ▸ hrest)
  have htwo {c d : Char} {rest : List Char} (hskip : skipBlanks s.rest = c :: d :: rest) :
      rest <:+ text := suffix_of_cons (hone hskip)
  unfold filterStep
  dsimp only
  split
  case h_1 => exact .error hopened
  case h_2 hskip =>
    split
    · exact .ok ⟨hone hskip, houter⟩
    · exact .error hopened
  case h_4 hskip =>
    split
    · exact .error (hskip ▸ hrest)
    · exact .ok ⟨hone hskip, hs.2⟩
  case h_3 hskip | h_5 hskip | h_6 hskip | h_8 hskip | h_12 hskip | h_14 hskip =>
    exact .ok ⟨hone hskip, hs.2⟩
  case h_17 c rest _ _ _ _ _ _ _ _ _ _ _ _ _ _ _ hskip =>
    rw [hskip] at hrest
    split
    · rename_i hc
      have hmem : c ∈ ['=', '~', '&', '|'] := by
        simpa only [List.mem_cons, List.not_mem_nil, or_false] using hc
      exact .error ⟨hmem, hrest, c, rfl, rfl⟩
    · split
      · rename_i hq
        exact (quotedText_advances hq hrest).bind fun r hr => .ok (hs.emit hr _)
      · split
        · rename_i hc
          have hnumber : opensNumbers c := hc.elim (fun h => .inr (.inr h)) fun h => .inl h.1
          exact integerStep_stays hs ⟨hrest, c, rfl, hnumber⟩
        · split
          · exact wordStep_stays hs hrest
          · exact .error hrest
  all_goals
    rename_i hskip
    exact .ok ⟨htwo hskip, hs.2⟩

theorem step_stays (hs : s.Within text) : Stays text (Within text) s.step := by
  unfold step
  split
  · exact pathStep_stays hs
  · split
    · rename_i hfilters
      exact filterStep_stays hs hfilters
    · exact .error hs.1

theorem start_stays (text : List Char) : Stays text (Within text) (State.start text) := by
  have htop {tokens : List Token} {rest : List Char} (h : rest <:+ text) :
      (top tokens rest).Within text := ⟨h, List.forall_mem_nil _⟩
  have hnamed : Stays text (Within text) (do
      let (name, rest) ← memberName text
      .ok (top [.member name false] rest)) :=
    (memberName_advances (List.suffix_refl text)).bind fun _ hr => .ok (htop hr)
  unfold start
  dsimp only
  split
  · split
    · exact hnamed
    · exact .ok (htop (List.suffix_cons _ _))
  · exact .ok (htop (List.suffix_cons _ _))
  · refine .ok (htop ?_)
    split
    · exact List.nil_suffix
    · exact List.suffix_refl _
  · split
    · exact hnamed
    · exact .ok (htop (List.suffix_refl _))
  · exact .ok (htop (List.suffix_refl _))

/-- No scan leaves its text. -/
theorem Visits.within (h : Visits text s) : s.Within text := by
  induction h with
  | start hstart => exact (start_stays text).of_eq_ok hstart
  | step _ hstep ih => exact (step_stays ih).of_eq_ok hstep

theorem run_stays (hs : s.Within text) : ReadsIn text s.run := by
  fun_induction run s with
  | case1 => exact .ok trivial
  | case2 s _ u hstep ih => exact ih ((step_stays hs).of_eq_ok hstep)
  | case3 s _ fault hstep => exact .error ((step_stays hs).of_eq_error hstep)

/-! ### The end of a scan -/

/-- The text is used up, and no filter is open. -/
def Over (s : State) : Prop := s.rest.isEmpty ∧ s.inPath ∧ s.filters.isEmpty

/-- From the state on, the scan takes `n` steps and then ends as `result` says. -/
inductive EndsAfter : Nat → State → Except Fault (List Token) → Prop where
  | over {s : State} : s.Over → EndsAfter 0 s (.ok s.tokens)
  | fault {s : State} {fault : Fault} :
      ¬ s.Over → s.step = .error fault → EndsAfter 0 s (.error fault)
  | step {n : Nat} {s u : State} {result : Except Fault (List Token)} :
      ¬ s.Over → s.step = .ok u → EndsAfter n u result → EndsAfter (n + 1) s result

/-- A character is left by two steps at most: one may leave a path in front of it. -/
theorem Before.count {u : State} (h : u.Before s) :
    2 * u.rest.length + u.inPath.toNat < 2 * s.rest.length + s.inPath.toNat := by
  rcases h with hlt | ⟨hrest, hu, hs⟩
  · have hbound := Bool.toNat_le u.inPath
    omega
  · rw [hrest, hu, hs]
    exact Nat.lt_succ_self _

theorem run_endsAfter (s : State) :
    ∃ n ≤ 2 * s.rest.length + s.inPath.toNat, EndsAfter n s s.run := by
  fun_induction run s with
  | case1 s hover => exact ⟨0, Nat.zero_le _, .over hover⟩
  | case2 s hover u hstep ih =>
    obtain ⟨n, hn, hends⟩ := ih
    exact ⟨n + 1, Nat.lt_of_le_of_lt hn (step_before hstep).count, .step hover hstep hends⟩
  | case3 s hover fault hstep => exact ⟨0, Nat.zero_le _, .fault hover hstep⟩

end State

/-- The scan of the text takes `n` steps and ends as `result` says. -/
inductive ScansIn (text : List Char) : Nat → Except Fault (List Token) → Prop where
  | fault {fault : Fault} : State.start text = .error fault → ScansIn text 0 (.error fault)
  | run {n : Nat} {s : State} {result : Except Fault (List Token)} :
      State.start text = .ok s → State.EndsAfter n s result → ScansIn text n result

theorem scansIn_run (text : List Char) :
    ∃ n ≤ 2 * text.length + 1, ScansIn text n (State.start text >>= State.run) := by
  cases hstart : State.start text with
  | error fault => exact ⟨0, Nat.zero_le _, .fault hstart⟩
  | ok s =>
    obtain ⟨n, hn, hends⟩ := s.run_endsAfter
    have hlength := ((State.start_stays text).of_eq_ok hstart).1.length_le
    have hbound := Bool.toNat_le s.inPath
    exact ⟨n, by omega, .run hstart hends⟩

/-! ### Errors -/

/-- The text has a character as `p` says at the place `i`. -/
def HasAt (text : String) (p : Char → Prop) (i : Nat) : Prop :=
  ∃ c, text.toList[i]? = some c ∧ p c

/-- The error is about `path`, and what it is about is where it points. -/
def PathError.Blames (path : String) : PathError → Prop
  | .unexpectedEnd source i => source = path ∧ i = path.length
  | .unexpectedChar source i c => source = path ∧ HasAt path (· = c) i
  | .unterminatedFilter source i | .unclosedBracket source i =>
    source = path ∧ HasAt path (· = '[') i
  | .unterminatedString source i => source = path ∧ HasAt path (isQuote ·) i
  | .invalidNumber source i => source = path ∧ HasAt path opensNumbers i
  | .unknownOperator source i operator =>
    source = path ∧
      ∃ c ∈ ['=', '~', '&', '|'], operator = String.singleton c ∧ HasAt path (· = c) i
  | .emptyExpression | .invalidFilter .. | .invalidPattern .. => False

theorem HasAt.lt {path : String} {p : Char → Prop} {i : Nat} (h : HasAt path p i) :
    i < path.length := by
  obtain ⟨c, hc, -⟩ := h
  obtain ⟨hlt, -⟩ := List.getElem?_eq_some_iff.1 hc
  exact hlt

/-- Where a part of a text that goes up to its end starts. -/
theorem getElem?_of_suffix (h : rest <:+ text) :
    text[text.length - rest.length]? = rest.head? := by
  obtain ⟨front, rfl⟩ := h
  rw [List.length_append, Nat.add_sub_cancel, List.getElem?_append_right (Nat.le_refl _),
    Nat.sub_self, List.head?_eq_getElem?]

theorem Standing.hasAt {p : Char → Prop} (h : Standing text p rest) :
    HasAt (String.ofList text) p (text.length - rest.length) := by
  obtain ⟨hsuffix, c, hhead, hc⟩ := h
  refine ⟨c, ?_, hc⟩
  rw [String.toList_ofList, getElem?_of_suffix hsuffix, hhead]

theorem Fault.Within.blames {fault : Fault} (h : fault.Within text) :
    (fault.error text).Blames (String.ofList text) := by
  cases fault with
  | unexpected rest =>
    cases rest with
    | nil => exact ⟨rfl, String.length_ofList.symm⟩
    | cons c rest => exact ⟨rfl, Standing.hasAt ⟨h, c, rfl, rfl⟩⟩
  | unterminatedFilter | unclosedBracket | unterminatedString | invalidNumber =>
    exact ⟨rfl, Standing.hasAt h⟩
  | unknownOperator rest c => exact ⟨rfl, c, h.1, rfl, h.2.hasAt⟩

theorem PathError.Blames.position? {path : String} {e : PathError} (h : e.Blames path) :
    ∃ i ≤ path.length, e.position? = some i := by
  cases e with
  | emptyExpression | invalidFilter | invalidPattern => cases h
  | unexpectedEnd source i => exact ⟨i, Nat.le_of_eq h.2, rfl⟩
  | unexpectedChar source i | unterminatedFilter source i | unclosedBracket source i
  | unterminatedString source i | invalidNumber source i =>
    exact ⟨i, Nat.le_of_lt h.2.lt, rfl⟩
  | unknownOperator source i operator =>
    obtain ⟨-, c, -, -, hat⟩ := h
    exact ⟨i, Nat.le_of_lt hat.lt, rfl⟩

/-- What is not expected is the end of the path exactly if its place is there. -/
theorem PathError.Blames.end_iff {path source : String} {e : PathError} {i : Nat}
    (h : e.Blames path)
    (he : e = .unexpectedEnd source i ∨ ∃ c, e = .unexpectedChar source i c) :
    e = .unexpectedEnd source i ↔ i = path.length := by
  rcases he with rfl | ⟨c, rfl⟩
  · exact ⟨fun _ => h.2, fun _ => rfl⟩
  · exact ⟨PathError.noConfusion, fun hi => absurd hi (Nat.ne_of_lt h.2.lt)⟩

/-- The result of a path that is not empty is that of its scan. -/
theorem tokenize_of_ne {path : String} (h : strip path.toList ≠ []) :
    tokenize path = (State.start (strip path.toList) >>= State.run).mapError
      (Fault.error (strip path.toList)) := by
  unfold tokenize
  dsimp only
  rw [if_neg (mt List.isEmpty_iff.1 h)]
  cases State.start (strip path.toList) >>= State.run <;> rfl

theorem blames_of_tokenize {path : String} {e : PathError} (hne : strip path.toList ≠ [])
    (h : tokenize path = .error e) : e.Blames (trim path) := by
  have hstays := (State.start_stays (strip path.toList)).bind fun _ => State.run_stays
  rw [tokenize_of_ne hne] at h
  cases hrun : State.start (strip path.toList) >>= State.run with
  | ok ts =>
    rw [hrun] at h
    cases h
  | error fault =>
    rw [hrun] at h
    cases h
    exact (hstays.of_eq_error hrun).blames

theorem tokenize_empty_iff {path : String} :
    tokenize path = .error .emptyExpression ↔ strip path.toList = [] := by
  constructor
  · intro h
    by_cases hnil : strip path.toList = []
    · exact hnil
    · exact (blames_of_tokenize hnil h).elim
  · intro hnil
    rw [tokenize, hnil]
    rfl

/-- **The errors of a scan point at what they are about.** The one that does not is for a path that
is empty without the white space around it. The scan of every other path ends after at most two
steps for each character and one more, and never leaves the path. -/
theorem tokenize_blames (path : String) :
    let text := trim path
    (tokenize path = .error .emptyExpression ↔ text = "") ∧
      (∀ e, tokenize path = .error e → e ≠ .emptyExpression →
        e.Blames text ∧ (∃ i ≤ text.length, e.position? = some i) ∧
          ∀ source i, (e = .unexpectedEnd source i ∨ ∃ c, e = .unexpectedChar source i c) →
            (e = .unexpectedEnd source i ↔ i = text.length)) ∧
      (text ≠ "" → ∃ n ≤ 2 * text.length + 1, ∃ result, ScansIn text.toList n result ∧
        tokenize path = result.mapError (Fault.error text.toList)) ∧
      ∀ s, State.Visits text.toList s → s.rest <:+ text.toList := by
  intro text
  have htext : text.toList = strip path.toList := String.toList_ofList
  have hempty : text = "" ↔ strip path.toList = [] := String.ofList_eq_empty_iff
  refine ⟨tokenize_empty_iff.trans hempty.symm, fun e he hne => ?_, fun hne => ?_,
    fun s hs => hs.within.1⟩
  · have hstrip : strip path.toList ≠ [] := by
      intro hnil
      rw [tokenize_empty_iff.2 hnil] at he
      cases he
      exact hne rfl
    have hblames := blames_of_tokenize hstrip he
    exact ⟨hblames, hblames.position?, fun source i => hblames.end_iff⟩
  · obtain ⟨n, hn, hscans⟩ := scansIn_run text.toList
    exact ⟨n, hn, _, hscans, htext ▸ tokenize_of_ne (mt hempty.2 hne)⟩

end Sift.Path
