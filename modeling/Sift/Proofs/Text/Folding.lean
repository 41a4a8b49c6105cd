import Sift.Proofs.Text.Wildcard

/-! Tests on texts, with and without regard to case.

Where case does not count, both texts are put into lower case as wholes, which is not the same as
character by character: a capital sigma is lowered by what stands around it, and `İ` becomes two
characters. So the lower case of a part need not be a part of the lower case of the text
(`lowerBetween_eq_iff` says when it is), and a question mark that covers a character need not cover
its lower case. `ignoring_case_widens` says what is left: where a test holds as written, when it
still holds if case does not count. -/
namespace Sift.Text

/-! ### Lower case in place -/

/-- A sigma between the two ends a word: the text before it, read in reverse, is cased, and the
text behind it is not. -/
def endsWord (before after : List Char) : Bool := meetsCased before && !meetsCased after

/-- The lower case of one character, which may be a sigma that ends a word. -/
def lowerOne (ends : Bool) (c : Char) : List Char :=
  if c = 'Σ' then [if ends then 'ς' else 'σ']
  else if c = 'İ' then ['i', '\u0307']
  else [lowerChar c]

/-- The lower case that a part of a text has in its place, behind `before`, read in reverse, and
in front of `after`. -/
def lowerBetween (before : List Char) : List Char → List Char → List Char
  | [], _ => []
  | c :: rest, after =>
    lowerOne (endsWord before (rest ++ after)) c ++ lowerBetween (c :: before) rest after

section Place

variable {before before' part after after' : List Char} {c : Char}

theorem lowerFrom_cons : lowerFrom before (c :: after) =
    lowerOne (endsWord before after) c ++ lowerFrom (c :: before) after := rfl

theorem lowerFrom_append (before part after : List Char) : lowerFrom before (part ++ after) =
    lowerBetween before part after ++ lowerFrom (part.reverse ++ before) after := by
  induction part generalizing before with
  | nil => rfl
  | cons c part ih =>
    rw [List.cons_append, lowerFrom_cons, ih, lowerBetween, List.append_assoc, List.reverse_cons,
      List.append_assoc, List.singleton_append]

theorem lowerBetween_nil : lowerBetween before part [] = lowerFrom before part := by
  have hwhole := lowerFrom_append before part []
  rwa [List.append_nil, lowerFrom, List.append_nil, eq_comm] at hwhole

theorem length_lowerOne (ends ends' : Bool) (c : Char) :
    (lowerOne ends c).length = (lowerOne ends' c).length := by
  unfold lowerOne
  split
  · rfl
  · rfl

/-- How long the lower case is does not depend on what stands around. -/
theorem length_lowerBetween (before after before' after' part : List Char) :
    (lowerBetween before part after).length = (lowerBetween before' part after').length := by
  induction part generalizing before before' with
  | nil => rfl
  | cons c part ih =>
    rw [lowerBetween, lowerBetween, List.length_append, List.length_append, ih (c :: before),
      length_lowerOne]

theorem lowerOne_eq_iff {ends ends' : Bool} :
    lowerOne ends c = lowerOne ends' c ↔ (c = 'Σ' → ends = ends') := by
  by_cases hc : c = 'Σ'
  · subst hc
    cases ends <;> cases ends' <;> decide
  · simp [lowerOne, hc]

/-- **A part has the same lower case in two places if and only if its sigmas end a word in both or
in none.** -/
theorem lowerBetween_eq_iff (before after before' after' part : List Char) :
    lowerBetween before part after = lowerBetween before' part after' ↔
      ∀ read rest, part = read ++ 'Σ' :: rest →
        endsWord (read.reverse ++ before) (rest ++ after) =
          endsWord (read.reverse ++ before') (rest ++ after') := by
  induction part generalizing before before' with
  | nil => simp [lowerBetween]
  | cons c part ih =>
    -- Both are made of equally long pieces, so they agree piece by piece.
    have hpieces : lowerBetween before (c :: part) after = lowerBetween before' (c :: part) after' ↔
        lowerOne (endsWord before (part ++ after)) c =
            lowerOne (endsWord before' (part ++ after')) c ∧
          lowerBetween (c :: before) part after = lowerBetween (c :: before') part after' :=
      ⟨fun h => List.append_inj h (length_lowerOne _ _ c), fun h => congr_arg₂ _ h.1 h.2⟩
    rw [hpieces, lowerOne_eq_iff, ih]
    constructor
    · intro h read rest hpart
      cases read with
      | nil =>
        obtain ⟨rfl, rfl⟩ := List.cons.inj hpart
        exact h.1 rfl
      | cons d read =>
        obtain ⟨rfl, htail⟩ := List.cons.inj hpart
        simpa using h.2 read rest htail
    · intro h
      refine ⟨?_, fun read rest hpart => ?_⟩
      · rintro rfl
        exact h [] part rfl
      · simpa using h (c :: read) rest (by rw [hpart, List.cons_append])

end Place

/-- The sigmas of a part end a word where it stands if and only if they do on its own. -/
def KeepsSigmas (before part after : List Char) : Prop :=
  ∀ read rest, part = read ++ 'Σ' :: rest →
    endsWord (read.reverse ++ before.reverse) (rest ++ after) = endsWord read.reverse rest

theorem lowerBetween_eq_lower {before part after : List Char} :
    lowerBetween before.reverse part after = lower part ↔ KeepsSigmas before part after := by
  rw [lower, ← lowerBetween_nil, lowerBetween_eq_iff]
  simp only [KeepsSigmas, List.append_nil]

/-- The lower case of a text is that of its parts, each in its place. -/
theorem lower_parts (before part after : List Char) : lower (before ++ part ++ after) =
    lowerBetween [] before (part ++ after) ++ (lowerBetween before.reverse part after ++
      lowerFrom (part.reverse ++ before.reverse) after) := by
  rw [lower, List.append_assoc, lowerFrom_append, List.append_nil, lowerFrom_append]

/-- A part of a text that keeps its sigmas is a part of it in lower case. -/
theorem KeepsSigmas.infix {before part after : List Char} (h : KeepsSigmas before part after) :
    lower part <:+: lower (before ++ part ++ after) := by
  rw [lower_parts, lowerBetween_eq_lower.2 h]
  exact ⟨_, _, List.append_assoc _ _ _⟩

/-- What a text begins with, its lower case begins with if and only if the sigmas allow it. -/
theorem lower_prefix_iff {part after : List Char} :
    lower part <+: lower (part ++ after) ↔ KeepsSigmas [] part after := by
  have hparts := lowerFrom_append [] part after
  rw [← lowerBetween_eq_lower, lower, lower, hparts, List.reverse_nil, ← lowerBetween_nil]
  constructor
  · intro h
    have hlength := length_lowerBetween [] [] [] after part
    exact ((List.prefix_of_prefix_length_le h (List.prefix_append _ _) hlength.le).eq_of_length
      hlength).symm
  · intro h
    rw [h]
    exact List.prefix_append _ _

theorem lower_suffix_iff {before part : List Char} :
    lower part <:+ lower (before ++ part) ↔ KeepsSigmas before part [] := by
  have hparts := lowerFrom_append [] before part
  rw [← lowerBetween_eq_lower, lower, lower, hparts, List.append_nil, ← lowerBetween_nil,
    ← lowerBetween_nil]
  constructor
  · intro h
    have hlength := length_lowerBetween [] [] before.reverse [] part
    exact ((List.suffix_of_suffix_length_le h (List.suffix_append _ _) hlength.le).eq_of_length
      hlength).symm
  · intro h
    rw [h]
    exact List.suffix_append _ _

/-! ### Patterns in lower case -/

/-- Every run of lower case is moved to characters behind those of patterns. -/
theorem star_before_runs : ∀ r ∈ lowerMap.runs, 42 < (r.first + r.offset : Int) := by
  decide +kernel

theorem star_of_toLower : ∀ n < 128, (Char.ofNat n).toLower = '*' → Char.ofNat n = '*' := by
  decide +kernel

/-- Only the star has the star as its lower case. -/
theorem star_of_lowerChar {c : Char} (h : lowerChar c = '*') : c = '*' := by
  unfold lowerChar at h
  split at h
  · rename_i hascii
    have hstar := star_of_toLower c.toNat hascii
    rw [Char.ofNat_toNat] at hstar
    exact hstar h
  · unfold CodeMap.apply at h
    split at h
    · rename_i n himage
      obtain ⟨r, hr, himage⟩ := List.exists_of_findSome?_eq_some himage
      have hbehind := star_before_runs r hr
      have hn : 42 < n := by
        simp only [CodeRun.image?, CodeRun.covers, Option.ite_none_right_eq_some, Bool.and_eq_true,
          decide_eq_true_eq, Option.some.injEq] at himage
        omega
      by_cases hvalid : n.isValidChar
      · have hchar : Char.ofNat n = Char.ofNatAux n hvalid := dif_pos hvalid
        have hcode : n = 42 := congrArg Char.toNat (hchar.symm.trans h)
        exact absurd hcode (Nat.ne_of_gt hn)
      · have hchar : Char.ofNat n = '\x00' := dif_neg hvalid
        exact absurd (hchar.symm.trans h) (by decide)
    · exact h

theorem occurs_iff {part text : List Char} : occurs part text = true ↔ part <:+: text := by
  induction text with
  | nil => simp [occurs]
  | cons c text ih =>
    rw [occurs, Bool.or_eq_true, List.isPrefixOf_iff_prefix, ih, List.infix_cons_iff]

/-- No star comes to the front. -/
theorem Clear.lower {text : List Char} (h : Clear text) (before : List Char) :
    Clear (lowerFrom before text) := by
  cases text with
  | nil => exact h
  | cons c text =>
    have hc : c ≠ '*' := by simpa [Clear] using h
    rw [lowerFrom_cons, lowerOne, Clear]
    split
    · split <;> simp
    · split
      · simp
      · simpa using fun hstar => hc (star_of_lowerChar hstar)

/-- What is added to both in front is laid over itself. -/
theorem Lays.append {mayStart : List Char → Prop} {text pattern : List Char}
    (h : Lays mayStart text pattern) (front : List Char) :
    Lays mayStart (front ++ text) (front ++ pattern) := by
  induction front with
  | nil => exact h
  | cons c front ih => exact .itself ih

/-- A layout stays one in lower case if the pattern has no sigma, and no question mark that could
stand for a character whose lower case is two. -/
theorem Lays.lower {text pattern : List Char} (h : Lays Clear text pattern) (hsigma : 'Σ' ∉ pattern)
    (hdotted : 'İ' ∉ text ∨ '?' ∉ pattern) (before before' : List Char) :
    Lays Clear (lowerFrom before text) (lowerFrom before' pattern) := by
  induction h generalizing before before' with
  | done => exact .done
  | @one c text pattern _ ih =>
    have hc : c ≠ 'İ' := by
      rintro rfl
      exact hdotted.elim (· List.mem_cons_self) (· List.mem_cons_self)
    have hone : ∃ d, lowerOne (endsWord before text) c = [d] := by
      rw [lowerOne, if_neg hc]
      split <;> exact ⟨_, rfl⟩
    obtain ⟨d, hd⟩ := hone
    have hmark : lowerOne (endsWord before' pattern) '?' = ['?'] := rfl
    rw [lowerFrom_cons, lowerFrom_cons, hd, hmark]
    refine .one (ih (fun h => hsigma (List.mem_cons_of_mem _ h)) ?_ _ _)
    exact hdotted.imp (mt (List.mem_cons_of_mem _)) (mt (List.mem_cons_of_mem _))
  | @itself c text pattern _ ih =>
    have hc : c ≠ 'Σ' := fun h => hsigma (h ▸ List.mem_cons_self)
    have hsame : lowerOne (endsWord before text) c = lowerOne (endsWord before' pattern) c :=
      lowerOne_eq_iff.2 fun h => absurd h hc
    rw [lowerFrom_cons, lowerFrom_cons, hsame]
    refine (ih (fun h => hsigma (List.mem_cons_of_mem _ h)) ?_ _ _).append _
    exact hdotted.imp (mt (List.mem_cons_of_mem _)) (mt (List.mem_cons_of_mem _))
  | @run text rest pattern hclear hrest _ ih =>
    obtain ⟨covered, rfl⟩ := hrest
    have hmark : lowerOne (endsWord before' pattern) '*' = ['*'] := rfl
    rw [lowerFrom_cons, hmark]
    refine .run (hclear.lower before) ?_
      (ih (fun h => hsigma (List.mem_cons_of_mem _ h)) ?_ (covered.reverse ++ before) _)
    · rw [lowerFrom_append]
      exact List.suffix_append _ _
    · exact hdotted.imp (mt (List.mem_append_right _)) (mt (List.mem_cons_of_mem _))

/-! ### The tests -/

section Tests

variable {text part : String}

theorem equalText_widens (h : equalText part text true = true) : equalText part text false = true :=
  Bool.or_eq_true_iff.2 (.inl h)

theorem startsWith_widens (h : startsWith text part true = true) :
    ∃ after, text.toList = part.toList ++ after ∧
      (startsWith text part false = true ↔ KeepsSigmas [] part.toList after) := by
  have hprefix : part.toList <+: text.toList := List.isPrefixOf_iff_prefix.1 h
  obtain ⟨after, hafter⟩ := hprefix
  refine ⟨after, hafter.symm, ?_⟩
  rw [← lower_prefix_iff, hafter]
  exact List.isPrefixOf_iff_prefix

theorem endsWith_widens (h : endsWith text part true = true) :
    ∃ before, text.toList = before ++ part.toList ∧
      (endsWith text part false = true ↔ KeepsSigmas before part.toList []) := by
  have hsuffix : part.toList <:+ text.toList := List.isSuffixOf_iff_suffix.1 h
  obtain ⟨before, hbefore⟩ := hsuffix
  refine ⟨before, hbefore.symm, ?_⟩
  rw [← lower_suffix_iff, hbefore]
  exact List.isSuffixOf_iff_suffix

theorem contains_widens (h : contains text part true = true) :
    (∃ before after, text.toList = before ++ part.toList ++ after) ∧
      ∀ before after, text.toList = before ++ part.toList ++ after →
        KeepsSigmas before part.toList after → contains text part false = true := by
  have hinfix : part.toList <:+: text.toList := occurs_iff.1 h
  obtain ⟨before, after, htext⟩ := hinfix
  refine ⟨⟨before, after, htext.symm⟩, fun before after htext hkeeps => ?_⟩
  have hlower := hkeeps.infix
  rw [← htext] at hlower
  exact occurs_iff.2 hlower

theorem like_widens (h : like text part true = true) (hsigma : 'Σ' ∉ part.toList)
    (hdotted : 'İ' ∉ text.toList ∨ '?' ∉ part.toList) : like text part false = true := by
  have hlays : Lays Clear text.toList part.toList := (wildcard_iff_lays _ _).1 h
  exact (wildcard_iff_lays _ _).2 (hlays.lower hsigma hdotted [] [])

end Tests

/-- **Where a test holds as written, it holds without regard to case if the sigmas allow it.**
Equality always does. A text that begins or ends with a part does so without regard to case if and
only if the sigmas of the part end a word in the text where they do on their own, and a text has a
part if they do so in one of its places. A text stays like a pattern that has no sigma, and no `?`
where the text has an `İ`. -/
theorem ignoring_case_widens (text part : String) :
    (equalText part text true = true → equalText part text false = true) ∧
    (startsWith text part true = true → ∃ after, text.toList = part.toList ++ after ∧
      (startsWith text part false = true ↔ KeepsSigmas [] part.toList after)) ∧
    (endsWith text part true = true → ∃ before, text.toList = before ++ part.toList ∧
      (endsWith text part false = true ↔ KeepsSigmas before part.toList [])) ∧
    (contains text part true = true →
      (∃ before after, text.toList = before ++ part.toList ++ after) ∧
        ∀ before after, text.toList = before ++ part.toList ++ after →
          KeepsSigmas before part.toList after → contains text part false = true) ∧
    (like text part true = true → 'Σ' ∉ part.toList → 'İ' ∉ text.toList ∨ '?' ∉ part.toList →
      like text part false = true) :=
  ⟨equalText_widens, startsWith_widens, endsWith_widens, contains_widens, like_widens⟩

/-- A sigma that ends a word in the part does not in the text, or the other way round, and `İ` is
one character only as long as case counts. -/
theorem ignoring_case_narrows :
    (startsWith "ΑΣΑ" "ΑΣ" true = true ∧ startsWith "ΑΣΑ" "ΑΣ" false = false) ∧
    (endsWith "ΑΣ" "Σ" true = true ∧ endsWith "ΑΣ" "Σ" false = false) ∧
    (contains "ΑΣ" "Σ" true = true ∧ contains "ΑΣ" "Σ" false = false) ∧
    (like "ΑΣ" "*Σ" true = true ∧ like "ΑΣ" "*Σ" false = false) ∧
    (like "İ" "?" true = true ∧ like "İ" "?" false = false) := by
  have hwritten : folded true "ΑΣ" = ['Α', 'Σ'] ∧ folded true "*Σ" = ['*', 'Σ'] ∧
      folded true "İ" = ['İ'] ∧ folded true "?" = ['?'] := by decide +kernel
  have hfolded : folded false "ΑΣ" = ['α', 'ς'] ∧ folded false "*Σ" = ['*', 'σ'] ∧
      folded false "İ" = ['i', '\u0307'] ∧ folded false "?" = ['?'] := by decide +kernel
  refine ⟨by decide +kernel, by decide +kernel, by decide +kernel, ?_, ?_⟩ <;>
    simp [like, hwritten, hfolded, wildcard, matchFrom]

end Sift.Text
