import Sift.Proofs.Path.Readers
import Sift.Proofs.Path.Shape

/-! What is displayed is spelled.

The text of a part is one of the many ways to spell it: names stand as they are and texts in single
quotes, a filter has parentheses around its predicate, and there is no white space anywhere. What
may stand behind a part is what ends it; each kind of part has characters of its own for that
(`Part.Before`). -/
namespace Sift.Path

open Text

/-! ### Names, texts and numbers -/

theorem spellsName_display {name : String} {tail : List Char} (h : isPlainName name = true)
    (htail : Ends isNameChar tail) : SpellsName name (name.toList ++ tail) tail := by
  obtain ⟨run, hname, hne, hrun, hhead, hlast⟩ := isPlainName_spec h
  have hnonempty : name ≠ "" := by
    rintro rfl
    rcases hname with hnil | hdollar
    · exact hne hnil.symm
    · cases hdollar
  exact .plain ⟨run, hne, hrun, hname⟩ (stripWhile_eq_self hhead hlast) hnonempty htail

theorem quoted_display {s : String} (h : isQuotable s = true) :
    Quoted s (Token.quoted s).toList := by
  rw [isQuotable, Bool.not_eq_true', Bool.eq_false_iff, ne_eq, List.contains_iff_mem] at h
  exact ⟨'\'', rfl, h, toList_quoted s⟩

theorem numeral_display {i : Int} (h : fitsInt64 i = true) : Numeral i (toString i).toList :=
  ⟨readInt64?_toString h, not_mem_toString (by decide) (by decide)⟩

theorem padded_self {inner : List Char → Prop} {cs : List Char} (h : inner cs) :
    Padded inner cs :=
  ⟨[], cs, [], gap_nil, h, gap_nil, (List.append_nil cs).symm⟩

theorem bound_display {b : Option Int} (h : b.all fitsInt64 = true) :
    SpellsBound b (Token.bound b).toList := by
  cases b with
  | none => exact gap_nil
  | some i => exact padded_self (numeral_display h)

/-- A comma between any two of several texts makes a list of them. -/
theorem listed_display {α : Type} {spells : α → List Char → Prop} {text : α → String} {a : α}
    {as : List α} (h : ∀ b ∈ a :: as, spells b (text b).toList) :
    Listed spells (a :: as) (",".intercalate ((a :: as).map text)).toList := by
  induction as generalizing a with
  | nil =>
    rw [List.map_singleton, String.intercalate_singleton]
    exact .last (padded_self (h a List.mem_cons_self))
  | cons b bs ih =>
    rw [List.forall_mem_cons] at h
    rw [List.map_cons, toList_commas, List.map_cons, List.flatMap_cons, List.cons_append,
      ← toList_commas, ← List.map_cons]
    exact .cons (padded_self h.1) (ih h.2)

/-! ### Selectors and literals -/

/-- Whatever stands between brackets. -/
theorem spellsSelector_bracket {t : Token} {body : List Char} (h : SpellsBracket t body)
    (htext : t.chars = '[' :: (body ++ [']'])) (tail : List Char) :
    SpellsSelector t (t.chars ++ tail) tail := by
  rw [htext, List.cons_append, List.append_assoc]
  exact .bracket h

theorem spellsSelector_display {t : Token} (ht : t.isSelector = true) (hplain : t.isPlain = true)
    {tail : List Char} (htail : Ends isNameChar tail) :
    SpellsSelector t (t.chars ++ tail) tail := by
  cases t with
  | member name marked =>
    rw [chars_member]
    cases marked with
    | false => exact .member (spellsName_display hplain htail)
    | true => exact .marked (spellsName_display hplain htail)
  | descendant name marked =>
    rw [chars_descendant]
    simp only [Token.isPlain, Bool.and_eq_true, Bool.or_eq_true, Bool.not_eq_true',
      beq_iff_eq] at hplain
    obtain ⟨rfl, rfl | hname⟩ := hplain
    · exact .everywhere
    · exact .descendant (spellsName_display hname htail)
  | index i =>
    exact spellsSelector_bracket (.numbers (.index (.last (padded_self (numeral_display hplain)))))
      (by simp [Token.chars, Token.display]) tail
  | slice a b c =>
    simp only [Token.isPlain, List.all_cons, List.all_nil, Bool.and_true,
      Bool.and_eq_true] at hplain
    have hslice := SpellsNumbers.stepped (bound_display hplain.1) (bound_display hplain.2.1)
      (bound_display hplain.2.2)
    exact spellsSelector_bracket (.numbers hslice) (by simp [Token.chars, Token.display]) tail
  | indexes is =>
    rw [Token.isPlain, Bool.and_eq_true, List.all_eq_true] at hplain
    obtain _ | ⟨i, _ | ⟨j, is⟩⟩ := is
    · cases hplain.1
    · cases hplain.1
    · have hlisted : Listed Numeral (i :: j :: is)
          (",".intercalate ((i :: j :: is).map toString)).toList :=
        listed_display fun k hk => numeral_display (hplain.2 k hk)
      exact spellsSelector_bracket (.numbers (.indexes hlisted))
        (by simp [Token.chars, Token.display]) tail
  | names ns =>
    rw [Token.isPlain, Bool.and_eq_true, List.all_eq_true] at hplain
    obtain _ | ⟨n, _ | ⟨m, ns⟩⟩ := ns
    · cases hplain.1
    · cases hplain.1
    · have hlisted : Listed Quoted (n :: m :: ns)
          (",".intercalate ((n :: m :: ns).map Token.quoted)).toList :=
        listed_display fun k hk => quoted_display (hplain.2 k hk)
      exact spellsSelector_bracket (.names hlisted) (chars_names _) tail
  | indexWild => exact spellsSelector_bracket (.wild (padded_self rfl)) rfl tail
  | memberWild => exact .memberWild
  | _ => cases ht

theorem spellsWord_display {t : Token} (ht : t.isLiteral = true) (hplain : t.isPlain = true)
    {tail : List Char} (htail : StartsWith stops tail) : SpellsWord t (t.chars ++ tail) tail := by
  cases t with
  | truth b =>
    refine .truth (by cases b <;> decide) (htail.ends fun c hc => ?_)
    have hname : isNameChar c = false := isNameChar_break c (stops_subset hc)
    rw [isNameChar, Bool.or_eq_false_iff, Bool.or_eq_false_iff] at hname
    exact hname.1.1
  | integer i => exact .integer (numeral_display hplain) (htail.ends (by decide))
  | text s => exact .text (quoted_display hplain)
  | _ => cases ht

/-! ### Whole parts -/

/-- What a part may stand in front of. -/
def Part.Before : Part → List Char → Prop
  | .selectors, tail => Ends isNameChar tail
  | .path, tail => StartsWith breaks tail
  | .operand, tail | .term, tail | .predicate, tail => StartsWith stops tail

/-- An operator between two parts is a word of its own. -/
theorem spells_operator {t : Token} {ts us : List Token} {tail : List Char}
    (hleft : Spells .predicate ts (chars ts ++ (t.chars ++ (chars us ++ tail)))
      (t.chars ++ (chars us ++ tail))) (ht : t.isOperator = true)
    (hnext : Ends (· == '=') (chars us ++ tail))
    (hright : Spells .predicate us (chars us ++ tail) tail) :
    Spells .predicate (ts ++ t :: us) (chars (ts ++ t :: us) ++ tail) tail := by
  have hword : SpellsWord t (t.chars ++ (chars us ++ tail)) (chars us ++ tail) :=
    .operator ht fun _ => hnext
  rw [chars_append, chars_cons, List.append_assoc, List.append_assoc]
  exact hleft.trans (@Spells.word t us [] _ _ tail gap_nil hword hright)

/-- Every displayed part is spelled, by induction on its shape. -/
theorem Shaped.spells {part : Part} {ts : List Token} (h : Shaped part ts)
    (hplain : ∀ t ∈ ts, t.isPlain = true) {tail : List Char} (htail : part.Before tail) :
    Spells part.level ts (chars ts ++ tail) tail := by
  induction h generalizing tail with
  | nil => exact .nil
  | selector ht hts ih =>
    rw [List.forall_mem_cons] at hplain
    rw [chars_cons, List.append_assoc]
    exact .selector (spellsSelector_display ht hplain.1 (hts.ends_selectors htail))
      (ih hplain.2 htail)
  | @filter ps us _ _ ihp ihs =>
    rw [List.forall_mem_cons, List.forall_mem_append, List.forall_mem_cons] at hplain
    have hps : Spells .predicate ps (chars ps ++ ')' :: ']' :: (chars us ++ tail))
        (')' :: ']' :: (chars us ++ tail)) := ihp hplain.2.1 ⟨')', by decide, rfl⟩
    rw [chars_filter, List.cons_append, List.cons_append, List.cons_append, List.append_assoc]
    exact @Spells.enclosed ps us [] [] _ [] [] _ tail gap_nil gap_nil hps gap_nil gap_nil
      (ihs hplain.2.2.2 htail)
  | @path t ts ht _ ih =>
    rw [List.forall_mem_cons] at hplain
    have hselectors := ih hplain.2 (StartsWith.ends htail isNameChar_break)
    have hpath := Spells.reference gap_nil ht hselectors (StartsWith.ends htail (by decide)) .nil
    rw [List.append_nil] at hpath
    rw [chars_cons, List.append_assoc]
    exact hpath
  | @literal t ht =>
    have hword : SpellsWord t (t.chars ++ tail) tail :=
      spellsWord_display ht (hplain t List.mem_cons_self) htail
    rw [chars_cons, chars_nil, List.append_nil]
    exact @Spells.word t [] [] _ tail tail gap_nil hword .nil
  | value _ ih => exact ih hplain (StartsWith.mono htail stops_subset)
  | resolves _ ih => exact ih hplain (StartsWith.mono htail stops_subset)
  | @compare op ts us _ hr ihl ihr =>
    rw [List.forall_mem_append, List.forall_mem_cons] at hplain
    have hstart : StartsWith breaks (Token.compare op).chars := by
      cases op <;> exact ⟨_, by decide, rfl⟩
    exact spells_operator (ihl hplain.1 (hstart.append _)) rfl (hr.ends_operand tail)
      (ihr hplain.2.2 htail)
  | @not ts hts ih =>
    rw [List.forall_mem_cons] at hplain
    have hnext : Ends (· == '=') (chars ts ++ tail) :=
      (hts.startsWith_term.append tail).ends (by decide)
    exact spells_operator .nil rfl hnext (ih hplain.2 htail)
  | @group ts _ ih =>
    rw [List.forall_mem_cons, List.forall_mem_append] at hplain
    have hts : Spells .predicate ts (chars ts ++ ')' :: tail) (')' :: tail) :=
      ih hplain.2.1 ⟨')', by decide, rfl⟩
    rw [chars_cons, chars_append, List.append_assoc, List.append_assoc]
    exact @Spells.group ts [] [] _ [] tail tail gap_nil hts gap_nil .nil
  | term _ ih => exact ih hplain htail
  | @join t ts us ht _ hb iha ihb =>
    rw [List.forall_mem_append, List.forall_mem_cons] at hplain
    have hnext : Ends (· == '=') (chars us ++ tail) :=
      (hb.startsWith_predicate.append tail).ends (by decide)
    rcases ht with rfl | rfl
    · exact spells_operator (iha hplain.1 ⟨'&', by decide, rfl⟩) rfl hnext (ihb hplain.2.2 htail)
    · exact spells_operator (iha hplain.1 ⟨'|', by decide, rfl⟩) rfl hnext (ihb hplain.2.2 htail)

end Sift.Path
