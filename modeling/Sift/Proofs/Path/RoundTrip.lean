import Sift.Proofs.Path.Displayed
import Sift.Proofs.Path.Tokenize

/-! Tokenizing undoes displaying.

A scan in front of a displayed part comes out behind it, with the tokens of the part added
and all else as it was: `Scans` says so of one part, inside of a path for selectors and
inside of a predicate for the rest. A displayed part is one of the spellings of its tokens
(`Shaped.spells`), and a scan reads each of these to its end. A whole path is the case where
nothing stands behind (`tokenize_spell`). -/
namespace Sift.Path

open Text

/-! ### Whole parts -/

/-- Inside of a path a scan goes on behind displayed selectors with these as its tokens. -/
def ScansSelectors (ts : List Token) : Prop :=
  ∀ (s : State) (tail : List Char), s.inPath = true → Ends isNameChar tail →
    s.rest = chars ts ++ tail → s.run = (s.after ts tail).run

/-- Inside of a predicate a scan goes on behind displayed words with these as its tokens, if
one of `cs` stands behind them. -/
def ScansWords (cs : List Char) (ts : List Token) : Prop :=
  ∀ (s : State) (tail : List Char) (outer : Outer) (filters : List Outer), s.inPath = false →
    s.filters = outer :: filters → StartsWith cs tail → s.rest = chars ts ++ tail →
      s.run = (s.after ts tail).run

def Scans : Part → List Token → Prop
  | .selectors => ScansSelectors
  | .path => ScansWords breaks
  | .operand | .term | .predicate => ScansWords stops

/-- Every part is scanned to its end. -/
theorem Shaped.scans {part : Part} {ts : List Token} (h : Shaped part ts)
    (hplain : ∀ t ∈ ts, t.isPlain = true) : Scans part ts := by
  have hwords {cs : List Char} (hlevel : part.level = .predicate)
      (hbefore : ∀ tail, StartsWith cs tail → part.Before tail) : ScansWords cs ts := by
    intro s tail outer filters hpath hfilters htail hrest
    have hopen : s.filters ≠ [] := by
      rw [hfilters]
      exact List.cons_ne_nil _ _
    have hspells := h.spells hplain (hbefore tail htail)
    rw [hlevel] at hspells
    exact hspells.run ⟨hpath, hopen⟩ hrest
  cases part with
  | selectors =>
    intro s tail hpath htail hrest
    exact (h.spells hplain htail).run hpath hrest
  | path | operand | term | predicate => exact hwords rfl fun _ htail => htail

/-! ### The text of a path -/

/-- **Tokenizing undoes displaying.** A path that is made of plain tokens in the order of a
path gives back exactly these tokens. -/
theorem tokenize_spell {ts : List Token} (h : Shaped .selectors ts)
    (hplain : ∀ t ∈ ts, t.isPlain = true) : tokenize (spell (.root :: ts)) = .ok (.root :: ts) := by
  let start : State := ⟨chars ts, [.root], 0, [], true⟩
  have hnil : Ends isNameChar [] := by
    intro c hc
    cases hc
  have hends : Ends isNameChar (chars ts) := by
    rw [← List.append_nil (chars ts)]
    exact h.ends_selectors hnil
  have hstrip : strip (chars (.root :: ts)) = '$' :: chars ts := by
    refine stripWhile_eq_self ?_ ((h.closed rfl hplain).cons (isBlank_delimiter '$' (by decide)))
    exact ends_cons (isBlank_delimiter '$' (by decide))
  have hstart : State.start ('$' :: chars ts) = .ok start := State.start_root hends
  have hrun : start.run = .ok (.root :: ts) := by
    have hscan : start.run = (start.after ts []).run :=
      h.scans hplain start [] rfl hnil (List.append_nil (chars ts)).symm
    rw [hscan, State.run_done rfl rfl rfl]
    rfl
  rw [tokenize, toList_spell]
  simp only [hstrip, hstart]
  rw [show Except.ok start >>= State.run = .ok (.root :: ts) from hrun]
  rfl

/-- Selectors of each kind around a filter with a group, a negation and a filter in it. -/
theorem tokenize_spell_nested :
    let ps : List Token := [
      .not, .startGroup, .current, .member "$price-x" true, .compare .le, .integer (-5), .or,
      .current, .startFilter, .current, .index 0, .compare .eq, .text "a\"b", .endFilter,
      .endGroup, .and, .root, .names ["x y", ""]]
    let us : List Token :=
      [.descendant "*" false, .slice (some (-1)) none (some 2), .indexes [1, -2]]
    let ts : List Token := .member "store" false :: .startFilter :: (ps ++ .endFilter :: us)
    Shaped .selectors ts ∧ (∀ t ∈ ts, t.isPlain = true) ∧
      spell (.root :: ts) =
        "$.store[?(!(@+$price-x<=-5||@[?(@[0]=='a\"b')])&&$['x y',''])]..*[-1::2][1,-2]" ∧
      tokenize (spell (.root :: ts)) = .ok (.root :: ts) := by
  intro ps us ts
  have hinner : Shaped .path [.current, .startFilter, .current, .index 0, .compare .eq,
      .text "a\"b", .endFilter] :=
    .path rfl (.filter (.term (.compare (.path rfl (.selector rfl .nil)) (.literal rfl))) .nil)
  have hleft : Shaped .term [.current, .member "$price-x" true, .compare .le, .integer (-5)] :=
    .compare (.path rfl (.selector rfl .nil)) (.literal rfl)
  have hgroup : Shaped .predicate [.current, .member "$price-x" true, .compare .le, .integer (-5),
      .or, .current, .startFilter, .current, .index 0, .compare .eq, .text "a\"b", .endFilter] :=
    .join (.inr rfl) (.term hleft) (.term (.resolves hinner))
  have hps : Shaped .predicate ps :=
    .join (.inl rfl) (.term (.not (.group hgroup)))
      (.term (.resolves (.path rfl (.selector rfl .nil))))
  have hshape : Shaped .selectors ts :=
    .selector rfl (.filter hps (.selector rfl (.selector rfl (.selector rfl .nil))))
  have hplain : ∀ t ∈ ts, t.isPlain = true := by decide +kernel
  exact ⟨hshape, hplain, by decide +kernel, tokenize_spell hshape hplain⟩

end Sift.Path
