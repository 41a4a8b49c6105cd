import Sift.Proofs.Path.Finishes

/-! The tokens of a path are those that its text spells.

What is left is how a path starts: from the root, which may go without saying, or with a name.
Behind that everything is one scan along a path, with no filter open (`run_top`). -/
namespace Sift.Path

open Text

namespace State

/-- A scan along a path with no filter open. -/
def top (tokens : List Token) (rest : List Char) : State := ⟨rest, tokens, 0, [], true⟩

theorem run_top {tokens ts : List Token} {rest : List Char} :
    (top tokens rest).run = .ok ts ↔
      (∃ us, Spells .path us rest [] ∧ ts = tokens ++ us) ∨
        (tokens = [.root] ∧ rest = ['.'] ∧ ts = [.root]) := by
  constructor
  · intro h
    exact (finishes_of_run h).at_top rfl rfl
  · rintro (⟨us, hus, rfl⟩ | ⟨rfl, rfl, rfl⟩)
    · rw [hus.run (s := top tokens rest) rfl rfl, run_done rfl rfl rfl]
      rfl
    · rw [(Takes.lone (s := top [.root] ['.']) rfl rfl rfl rfl).run, run_done rfl rfl rfl]
      rfl

/-! ### What a path starts with -/

theorem start_root {rest : List Char} (h : Ends isNameChar rest) :
    start ('$' :: rest) = .ok (top [.root] rest) := by
  have hroot : ¬ rest.head?.any isNameChar = true := by
    rw [Option.any_eq_true]
    rintro ⟨c, hc, hname⟩
    rw [h c hc] at hname
    cases hname
  unfold start
  exact if_neg hroot

/-- What starts a path as neither a reference nor a dot is a name or nothing. -/
theorem start_other {c : Char} {rest : List Char} (hc : c ∉ ['$', '@', '.']) :
    start (c :: rest) =
      if isNameChar c || isQuote c then do
        let (name, rest) ← memberName (c :: rest)
        .ok (top [.member name false] rest)
      else .ok (top [] (c :: rest)) := by
  unfold start
  split
  case h_4 heq =>
    cases heq
    rfl
  case h_5 heq => cases heq
  all_goals
    rename_i heq
    cases heq
    exact absurd (by decide) hc

/-- A name with a `$` in front goes on behind it. -/
theorem SpellsName.dollar {n : String} {text rest : List Char}
    (h : SpellsName n ('$' :: text) rest) : text.head?.any isNameChar = true := by
  generalize hdollar : '$' :: text = whole at h
  cases h with
  | quoted hq =>
    obtain ⟨q, hq, -, rfl⟩ := hq
    obtain rfl := (List.cons.inj hdollar).1
    cases hq
  | plain hrun =>
    obtain ⟨cs, hne, hcs, hrun⟩ := hrun
    obtain ⟨c, cs, rfl⟩ := List.exists_cons_of_ne_nil hne
    have hc : isNameChar c = true := hcs c List.mem_cons_self
    rcases hrun with rfl | rfl
    · obtain rfl := (List.cons.inj hdollar).1
      rw [isNameChar_delimiter '$' (by decide)] at hc
      cases hc
    · have htext : text = c :: cs ++ rest := (List.cons.inj hdollar).2
      rw [htext, List.cons_append, List.head?_cons, Option.any_some]
      exact hc

theorem start_name {n : String} {text rest : List Char} (h : SpellsName n text rest) :
    start text = .ok (top [.member n false] rest) := by
  have hread := memberName_eq_ok.2 h
  obtain ⟨c, cs, rfl, hc⟩ := h.head
  by_cases hdollar : c = '$'
  · subst hdollar
    show (if cs.head?.any isNameChar then _ else _) = _
    rw [if_pos (SpellsName.dollar h), hread]
    rfl
  · have hne : c ∉ ['$', '@', '.'] := by
      intro hmem
      rcases List.mem_cons.1 hmem with heq | hmem
      · exact hdollar heq
      · have hsub : ['@', '.'] ⊆ ['.', '*', '[', '+', '@', '?'] := by decide
        rw [startsName_selector c (hsub hmem)] at hc
        cases hc
    have hnamed : (isNameChar c || isQuote c) = true := by
      rw [startsName, beq_false_of_ne hdollar, Bool.or_false, Bool.or_comm] at hc
      exact hc
    rw [start_other hne, if_pos hnamed, hread]
    rfl

theorem start_bare {text : List Char} (h : StartsWith ['+', '['] text) :
    start text = .ok (top [] text) := by
  obtain ⟨c, hc, hhead⟩ := h
  obtain ⟨cs, rfl⟩ := List.head?_eq_some_iff.1 hhead
  have hother : ∀ d ∈ ['+', '['], d ∉ ['$', '@', '.'] ∧ d ∈ delimiters ∧ isQuote d = false := by
    decide
  obtain ⟨hne, hdelimiter, hquote⟩ := hother c hc
  rw [start_other hne, isNameChar_delimiter c hdelimiter, hquote]
  rfl

theorem start_dot {text : List Char} (h : text ≠ []) :
    start ('.' :: text) = .ok (top [.root] ('.' :: text)) := by
  show Except.ok (top [.root] (if text.isEmpty then [] else '.' :: text)) = _
  rw [List.isEmpty_eq_false_iff.2 h]
  rfl

end State

/-- A dot does not end a path. -/
theorem Spells.dot_ne_nil {ts : List Token} {text : List Char}
    (h : Spells .path ts ('.' :: text) []) : text ≠ [] := by
  rintro rfl
  cases h with
  | selector ht =>
    cases ht with
    | member hn =>
      obtain ⟨c, cs, hnil, -⟩ := hn.head
      cases hnil

theorem SpellsPath.run {ts : List Token} {text : List Char} (h : SpellsPath ts text) :
    State.start text >>= State.run = .ok ts := by
  cases h with
  | root hends hts =>
    rw [State.start_root hends]
    exact State.run_top.2 (.inl ⟨_, hts, rfl⟩)
  | current hts => exact State.run_top.2 (.inl ⟨_, hts, rfl⟩)
  | dot hts =>
    rw [State.start_dot hts.dot_ne_nil]
    exact State.run_top.2 (.inl ⟨_, hts, rfl⟩)
  | name hn hts =>
    rw [State.start_name hn]
    exact State.run_top.2 (.inl ⟨_, hts, rfl⟩)
  | bare hstart hts =>
    rw [State.start_bare hstart]
    exact State.run_top.2 (.inl ⟨_, hts, rfl⟩)
  | lone htext =>
    rcases htext with rfl | rfl | rfl
    · exact State.run_top.2 (.inl ⟨[], .nil, rfl⟩)
    · rw [State.start_root (ends_cons (isNameChar_delimiter '.' (by decide)))]
      exact State.run_top.2 (.inr ⟨rfl, rfl, rfl⟩)
    · exact State.run_top.2 (.inr ⟨rfl, rfl, rfl⟩)

/-- What a path goes on with, if anything. -/
theorem Spells.path_head {ts : List Token} {c : Char} {text : List Char}
    (h : Spells .path ts (c :: text) []) : opensSelector c = true := by
  generalize htext : c :: text = whole at h
  cases h with
  | nil => cases htext
  | selector ht =>
    obtain ⟨d, ds, rfl, hd⟩ := ht.head
    obtain rfl := (List.cons.inj htext).1
    exact hd
  | dot | filter | enclosed =>
    obtain rfl := (List.cons.inj htext).1
    rfl

theorem SpellsPath.ne_nil {ts : List Token} {text : List Char} (h : SpellsPath ts text) :
    text ≠ [] := by
  rintro rfl
  cases h with
  | name hn =>
    obtain ⟨c, cs, hnil, -⟩ := hn.head
    cases hnil
  | bare hstart =>
    obtain ⟨c, -, hnil⟩ := hstart
    cases hnil
  | lone htext =>
    rcases htext with hnil | hnil | hnil <;> cases hnil

theorem spellsPath_of_run {ts : List Token} {text : List Char} (hne : text ≠ [])
    (h : State.start text >>= State.run = .ok ts) : SpellsPath ts text := by
  have hnamed {s : State} (hrun : s.run = .ok ts)
      (hstart : (do
        let (name, rest) ← memberName text
        .ok (State.top [.member name false] rest) : Except Fault State) = .ok s) :
      SpellsPath ts text := by
    obtain ⟨⟨n, rest⟩, hn, hs⟩ := bind_eq_ok.1 hstart
    cases hs
    obtain ⟨us, hus, rfl⟩ | ⟨hroot, -, -⟩ := State.run_top.1 hrun
    · exact .name (memberName_eq_ok.1 hn) hus
    · cases hroot
  obtain ⟨s, hstart, hrun⟩ := bind_eq_ok.1 h
  unfold State.start at hstart
  simp only at hstart
  split at hstart
  case h_1 rest =>
    split at hstart
    · exact hnamed hrun hstart
    · rename_i hends
      cases hstart
      obtain ⟨us, hus, rfl⟩ | ⟨-, rfl, rfl⟩ := State.run_top.1 hrun
      · refine .root (fun c hc => ?_) hus
        rw [hc, Option.any_some, Bool.not_eq_true] at hends
        exact hends
      · exact .lone (.inr (.inl rfl))
  case h_2 rest =>
    cases hstart
    obtain ⟨us, hus, rfl⟩ | ⟨-, rfl, rfl⟩ := State.run_top.1 hrun
    · exact .current hus
    · exact .lone (.inr (.inr rfl))
  case h_3 rest =>
    cases hstart
    cases rest with
    | nil =>
      obtain ⟨us, hus, rfl⟩ | ⟨-, hnil, -⟩ := State.run_top.1 hrun
      · cases hus with
        | nil => exact .lone (.inl rfl)
        | selector ht => cases ht
      · cases hnil
    | cons c cs =>
      obtain ⟨us, hus, rfl⟩ | ⟨-, hlone, -⟩ := State.run_top.1 hrun
      · exact .dot hus
      · cases hlone
  case h_4 c rest hdollar hat hdot =>
    split at hstart
    · exact hnamed hrun hstart
    · cases hstart
      obtain ⟨us, hus, rfl⟩ | ⟨hroot, -, -⟩ := State.run_top.1 hrun
      · have hc := hus.path_head
        simp only [opensSelector, Bool.or_eq_true, beq_iff_eq] at hc
        refine .bare ⟨c, ?_, rfl⟩ hus
        obtain (rfl | rfl) | rfl := hc
        · exact absurd rfl hdot
        · exact List.mem_cons_self
        · exact List.mem_cons_of_mem _ List.mem_cons_self
      · cases hroot
  case h_5 => exact absurd rfl hne

/-- **The tokens of a path are those that its text spells.** -/
theorem tokenize_eq_ok {path : String} {ts : List Token} :
    tokenize path = .ok ts ↔ Spelled ts path := by
  rw [tokenize, Spelled]
  split
  · rename_i hnil
    rw [List.isEmpty_iff] at hnil
    refine ⟨fun h => ?_, fun h => absurd hnil h.ne_nil⟩
    cases h
  · rename_i hne
    rw [List.isEmpty_iff] at hne
    constructor
    · intro h
      refine spellsPath_of_run hne ?_
      split at h
      · rename_i us hus
        cases h
        exact hus
      · cases h
    · intro h
      rw [h.run]

end Sift.Path
