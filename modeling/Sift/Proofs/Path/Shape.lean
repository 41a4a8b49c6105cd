import Sift.Proofs.Path.Characters
import Sift.Proofs.Path.Nesting

/-! What displayed parts start and end with.

The neighbours of a part are told apart by its first characters, so these are all that a
scan has to know of what comes next. No part ends in white space, which would not survive
around a path. -/
namespace Sift.Path

open Text

/-! ### Texts of names and numbers -/

/-- A plain name is a run of name characters, perhaps behind a `$`, without hyphens at its
ends. -/
theorem isPlainName_spec {name : String} (h : isPlainName name = true) :
    ∃ run, (name.toList = run ∨ name.toList = '$' :: run) ∧ run ≠ [] ∧
      (∀ c ∈ run, isNameChar c = true) ∧ (∀ c ∈ name.toList.head?, (c == '-') = false) ∧
      ∀ c ∈ name.toList.getLast?, (c == '-') = false := by
  have hends : ∀ {o : Option Char}, (o != some '-') = true → ∀ c ∈ o, (c == '-') = false := by
    intro o ho c heq
    subst heq
    rw [bne_iff_ne, ne_eq, Option.some.injEq] at ho
    exact beq_false_of_ne ho
  simp only [isPlainName, Bool.and_eq_true] at h
  obtain ⟨⟨⟨hne, hall⟩, hhead⟩, hlast⟩ := h
  rw [Bool.not_eq_true', List.isEmpty_eq_false_iff] at hne
  rw [List.all_eq_true] at hall
  refine ⟨_, ?_, hne, hall, hends hhead, hends hlast⟩
  split
  · rename_i heq
    exact .inr heq
  · exact .inl rfl

theorem toList_quoted (s : String) : (Token.quoted s).toList = '\'' :: (s.toList ++ ['\'']) := by
  simp [Token.quoted, String.toList_append]

/-- A comma between any two of several texts. -/
theorem toList_commas (a : String) (l : List String) :
    (",".intercalate (a :: l)).toList = a.toList ++ l.flatMap fun b => ',' :: b.toList := by
  rw [String.toList_intercalate, List.map_cons]
  induction l generalizing a with
  | nil => simp
  | cons b l ih =>
    rw [List.map_cons, List.intercalate_cons_cons, ih b, List.flatMap_cons, List.append_assoc]
    rfl

/-- The characters of a whole number. -/
theorem mem_toString {i : Int} {c : Char} (h : c ∈ (toString i).toList) :
    c = '-' ∨ c.isDigit = true := by
  rw [toList_toString] at h
  split at h
  · rw [List.mem_cons] at h
    exact h.imp_right isDigit_of_mem_digits
  · exact .inr (isDigit_of_mem_digits h)

/-- A whole number starts with a digit, perhaps behind a sign. -/
theorem head_toString (i : Int) : ∃ c cs, (toString i).toList = c :: cs ∧
    (c.isDigit = true ∨ (c = '-' ∧ ∃ d ds, cs = d :: ds ∧ d.isDigit = true)) := by
  have hne : Nat.toDigits 10 i.natAbs ≠ [] := Nat.toDigits_ne_nil
  obtain ⟨d, ds, hds⟩ := List.exists_cons_of_ne_nil hne
  have hd : d.isDigit = true := isDigit_of_mem_digits (hds ▸ List.mem_cons_self)
  rw [toList_toString, hds]
  split
  · exact ⟨'-', d :: ds, rfl, .inr ⟨rfl, d, ds, rfl, hd⟩⟩
  · exact ⟨d, ds, rfl, .inl hd⟩

/-- No separator stands in a whole number. -/
theorem not_mem_toString {i : Int} {sep : Char} (hminus : sep ≠ '-')
    (hdigit : sep.isDigit = false) : sep ∉ (toString i).toList := by
  intro h
  rcases mem_toString h with rfl | hd
  · exact hminus rfl
  · rw [hdigit] at hd
    cases hd

/-! ### First characters -/

theorem startsWith_selector {t : Token} (h : t.isSelector = true) :
    StartsWith ['.', '+', '['] t.chars := by
  cases t with
  | member name marked =>
    rw [chars_member]
    cases marked with
    | false => exact ⟨'.', by decide, rfl⟩
    | true => exact ⟨'+', by decide, rfl⟩
  | descendant name marked =>
    rw [chars_descendant]
    exact ⟨'.', by decide, rfl⟩
  | memberWild => exact ⟨'.', by decide, rfl⟩
  | index | indexWild | slice | indexes | names =>
    exact ⟨'[', by decide, by simp [Token.chars, Token.display]⟩
  | _ => cases h

/-- What a path goes on with ends the name in front of it. -/
theorem Shaped.ends_selectors {ts : List Token} {tail : List Char} (h : Shaped .selectors ts)
    (htail : Ends isNameChar tail) : Ends isNameChar (chars ts ++ tail) := by
  have hopening : ∀ c ∈ ['.', '+', '['], isNameChar c = false := by
    have hsub : ['.', '+', '['] ⊆ delimiters := by decide
    intro c hc
    exact isNameChar_delimiter c (hsub hc)
  cases h with
  | nil => exact htail
  | @selector t ts ht _ =>
    rw [chars_cons, List.append_assoc]
    exact ((startsWith_selector ht).append _).ends hopening
  | @filter ts us _ _ =>
    rw [chars_filter]
    exact ends_cons (hopening '[' (by decide))

theorem Shaped.startsWith_path {ts : List Token} (h : Shaped .path ts) :
    StartsWith ['@', '$'] (chars ts) := by
  cases h with
  | @path t ts ht _ =>
    rw [chars_cons]
    refine StartsWith.append ?_ (chars ts)
    cases t with
    | root => exact ⟨'$', by decide, rfl⟩
    | current => exact ⟨'@', by decide, rfl⟩
    | _ => cases ht

theorem Shaped.startsWith_term {ts : List Token} (h : Shaped .term ts) :
    StartsWith ['@', '$', '!', '('] (chars ts) := by
  have hpath : ['@', '$'] ⊆ ['@', '$', '!', '('] := by decide
  cases h with
  | resolves h => exact h.startsWith_path.mono hpath
  | @compare op ts us hl _ =>
    rw [chars_append]
    exact (hl.startsWith_path.mono hpath).append _
  | not _ => exact ⟨'!', by decide, rfl⟩
  | group _ => exact ⟨'(', by decide, rfl⟩

theorem Shaped.startsWith_predicate {ts : List Token} (h : Shaped .predicate ts) :
    StartsWith ['@', '$', '!', '('] (chars ts) := by
  generalize hpart : Part.predicate = part at h
  induction h with
  | term h => exact h.startsWith_term
  | @join t ts us _ _ _ iha _ =>
    rw [chars_append]
    exact (iha hpart).append _
  | _ => cases hpart

/-- An operator in front of an operand is not read on into it. -/
theorem Shaped.ends_operand {ts : List Token} (h : Shaped .operand ts) (tail : List Char) :
    Ends (· == '=') (chars ts ++ tail) := by
  have hpath : ∀ c ∈ ['@', '$'], (c == '=') = false := by decide
  cases h with
  | value h => exact (h.startsWith_path.append tail).ends hpath
  | @literal t ht =>
    cases t with
    | truth b =>
      cases b with
      | false => exact ends_cons (by decide)
      | true => exact ends_cons (by decide)
    | integer i =>
      have hi : chars [.integer i] = (toString i).toList := by
        rw [chars_cons, chars_nil, List.append_nil]
        rfl
      obtain ⟨c, cs, hcs, hc⟩ := head_toString i
      rw [hi, hcs]
      refine ends_cons ?_
      rcases hc with hd | ⟨rfl, -⟩
      · rw [beq_eq_false_iff_ne]
        intro heq
        subst heq
        exact absurd hd (by decide)
      · decide
    | text s =>
      have hs : chars [.text s] = (Token.quoted s).toList := by
        rw [chars_cons, chars_nil, List.append_nil]
        rfl
      rw [hs, toList_quoted]
      exact ends_cons (by decide)
    | _ => cases ht

/-! ### Last characters -/

/-- A text does not end in white space. -/
def Closed (cs : List Char) : Prop := ∀ c ∈ cs.getLast?, isBlank c = false

theorem closed_concat (cs : List Char) {c : Char} (h : isBlank c = false) : Closed (cs ++ [c]) := by
  intro d hd
  rw [List.getLast?_concat] at hd
  cases hd
  exact h

theorem Closed.append {cs ds : List Char} (hc : Closed cs) (hd : Closed ds) :
    Closed (cs ++ ds) := by
  intro c hlast
  rw [List.getLast?_append] at hlast
  cases hds : ds.getLast? with
  | none =>
    rw [hds] at hlast
    exact hc c hlast
  | some d =>
    rw [hds] at hlast
    cases hlast
    exact hd c hds

theorem Closed.cons {cs : List Char} {c : Char} (h : isBlank c = false) (hcs : Closed cs) :
    Closed (c :: cs) :=
  (closed_concat [] h).append hcs

theorem closed_name {name : String} (h : isPlainName name = true) : Closed name.toList := by
  obtain ⟨run, hname, -, hrun, -, -⟩ := isPlainName_spec h
  have hclosed : Closed run := by
    intro c hc
    exact isBlank_of_isNameChar (hrun c (List.mem_of_mem_getLast? hc))
  rcases hname with hname | hname <;> rw [hname]
  · exact hclosed
  · exact hclosed.cons (isBlank_delimiter '$' (by decide))

theorem closed_selector {t : Token} (ht : t.isSelector = true) (hplain : t.isPlain = true) :
    Closed t.chars := by
  have hbracket : ∀ cs : List Char, Closed (cs ++ [']']) := fun cs =>
    closed_concat cs (isBlank_delimiter ']' (by decide))
  have hdot : isBlank '.' = false := isBlank_delimiter '.' (by decide)
  cases t with
  | member name marked =>
    rw [chars_member]
    refine Closed.cons ?_ (closed_name hplain)
    cases marked with
    | false => exact hdot
    | true => exact isBlank_delimiter '+' (by decide)
  | descendant name marked =>
    rw [chars_descendant]
    refine Closed.cons hdot (Closed.cons hdot ?_)
    simp only [Token.isPlain, Bool.and_eq_true, Bool.or_eq_true, beq_iff_eq] at hplain
    rcases hplain.2 with rfl | hname
    · exact closed_concat [] (isBlank_delimiter '*' (by decide))
    · exact closed_name hname
  | memberWild => exact closed_concat ['.'] (isBlank_delimiter '*' (by decide))
  | indexWild => exact hbracket ['[', '*']
  | index | slice | indexes | names =>
    rw [Token.chars, Token.display, String.toList_append]
    exact hbracket _
  | _ => cases ht

/-- No displayed path ends in white space. -/
theorem Shaped.closed {part : Part} {ts : List Token} (h : Shaped part ts)
    (hpart : part = .selectors) (hplain : ∀ t ∈ ts, t.isPlain = true) : Closed (chars ts) := by
  induction h with
  | nil =>
    intro c hc
    cases hc
  | @selector t ts ht _ ih =>
    rw [List.forall_mem_cons] at hplain
    rw [chars_cons]
    exact (closed_selector ht hplain.1).append (ih rfl hplain.2)
  | @filter ts us _ _ _ ih =>
    rw [List.forall_mem_cons, List.forall_mem_append, List.forall_mem_cons] at hplain
    have hsplit : chars (.startFilter :: (ts ++ .endFilter :: us)) =
        ('[' :: '?' :: '(' :: chars ts) ++ [')'] ++ ']' :: chars us := by
      rw [chars_filter]
      simp
    rw [hsplit]
    refine (closed_concat _ (isBlank_delimiter ')' (by decide))).append ?_
    exact (ih rfl hplain.2.2.2).cons (isBlank_delimiter ']' (by decide))
  | _ => cases hpart

end Sift.Path
