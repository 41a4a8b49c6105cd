import Sift.Proofs.Path.Characters
import Sift.Proofs.Path.Nesting

/-! The ways to spell a path.

Tokens leave many things open: which quotes there are around a name, and whether there are any;
a dot in front of a bracket; white space inside of brackets and between the words of a filter; the
case of `true` and `false`; and the parentheses around the predicate of a filter. `Spells` has all
of these ways. It says of a text that it spells some tokens up to a rest; where the tokens only end
because of what comes next, the rest has to start with something else. -/
namespace Sift.Path

open Text

/-! ### Names, texts and numbers -/

/-- White space, or nothing. -/
def Gap (cs : List Char) : Prop := ∀ c ∈ cs, isBlank c = true

/-- A text between quotes of one of the two kinds. -/
def Quoted (s : String) (text : List Char) : Prop :=
  ∃ q, isQuote q = true ∧ q ∉ s.toList ∧ text = q :: (s.toList ++ [q])

/-- Characters that make up a name without quotes. There may be a `$` in front of them. -/
def IsRun (run : List Char) : Prop :=
  ∃ cs, cs ≠ [] ∧ (∀ c ∈ cs, isNameChar c = true) ∧ (run = cs ∨ run = '$' :: cs)

/-- A name, up to a rest: in quotes, or as it is, where hyphens around it do not count. -/
inductive SpellsName (name : String) : List Char → List Char → Prop where
  | quoted {text rest} : Quoted name text → SpellsName name (text ++ rest) rest
  | plain {run rest} : IsRun run → stripWhile (· == '-') run = name.toList → name ≠ "" →
      Ends isNameChar rest → SpellsName name (run ++ rest) rest

/-- A whole number of 64 bits, without a plus sign. -/
def Numeral (i : Int) (cs : List Char) : Prop := readInt64? cs = some i ∧ '+' ∉ cs

/-- Something with white space around it. -/
def Padded (inner : List Char → Prop) (text : List Char) : Prop :=
  ∃ gap cs gap', Gap gap ∧ inner cs ∧ Gap gap' ∧ text = gap ++ (cs ++ gap')

/-! ### Brackets -/

/-- Things with commas between them, and white space around each. -/
inductive Listed {α : Type} (spells : α → List Char → Prop) : List α → List Char → Prop where
  | last {a text} : Padded (spells a) text → Listed spells [a] text
  | cons {a text as more} : Padded (spells a) text → Listed spells as more →
      Listed spells (a :: as) (text ++ ',' :: more)

/-- A bound of a slice, which may be left out. -/
def SpellsBound : Option Int → List Char → Prop
  | none, text => Gap text
  | some i, text => Padded (Numeral i) text

/-- An index, several of them, or a slice. -/
inductive SpellsNumbers : Token → List Char → Prop where
  | index {i body} : Listed Numeral [i] body → SpellsNumbers (.index i) body
  | indexes {i j is body} : Listed Numeral (i :: j :: is) body →
      SpellsNumbers (.indexes (i :: j :: is)) body
  | slice {a b as bs} : SpellsBound a as → SpellsBound b bs →
      SpellsNumbers (.slice a b none) (as ++ ':' :: bs)
  | stepped {a b c as bs cs} : SpellsBound a as → SpellsBound b bs → SpellsBound c cs →
      SpellsNumbers (.slice a b c) (as ++ ':' :: (bs ++ ':' :: cs))

/-- What stands between two brackets, other than a filter. -/
inductive SpellsBracket : Token → List Char → Prop where
  | wild {body} : Padded (· = ['*']) body → SpellsBracket .indexWild body
  | name {n body} : Listed Quoted [n] body → SpellsBracket (.member n false) body
  | names {n m ns body} : Listed Quoted (n :: m :: ns) body →
      SpellsBracket (.names (n :: m :: ns)) body
  | numbers {t body} : SpellsNumbers t body → SpellsBracket t body

/-! ### Selectors and words -/

inductive SpellsSelector : Token → List Char → List Char → Prop where
  | member {n text rest} : SpellsName n text rest →
      SpellsSelector (.member n false) ('.' :: text) rest
  | marked {n text rest} : SpellsName n text rest →
      SpellsSelector (.member n true) ('+' :: text) rest
  | descendant {n text rest} : SpellsName n text rest →
      SpellsSelector (.descendant n false) ('.' :: '.' :: text) rest
  | everywhere {rest} : SpellsSelector (.descendant "*" false) ('.' :: '.' :: '*' :: rest) rest
  | memberWild {rest} : SpellsSelector .memberWild ('.' :: '*' :: rest) rest
  | bracket {t body rest} : SpellsBracket t body →
      SpellsSelector t ('[' :: (body ++ ']' :: rest)) rest

/-- Letters and numbers, which make up the words `true` and `false`. -/
def isWordChar (c : Char) : Bool := isLetter c || isNumeric c

/-- An operator or a literal, up to a rest. -/
inductive SpellsWord : Token → List Char → List Char → Prop where
  /-- Those of one character could be the start of a longer one. -/
  | operator {t rest} : t.isOperator = true → (t.chars.length = 1 → Ends (· == '=') rest) →
      SpellsWord t (t.chars ++ rest) rest
  | text {s text rest} : Quoted s text → SpellsWord (.text s) (text ++ rest) rest
  | integer {i cs rest} : Numeral i cs → Ends Char.isDigit rest →
      SpellsWord (.integer i) (cs ++ rest) rest
  | truth {b cs rest} : sameAscii (String.ofList cs) (Token.truth b).display = true →
      Ends isWordChar rest → SpellsWord (.truth b) (cs ++ rest) rest

/-! ### Paths and predicates -/

/-- What a path goes on with. -/
def opensSelector (c : Char) : Bool := c == '.' || c == '+' || c == '['

/-- A text spells tokens, up to a rest. -/
inductive Spells : Level → List Token → List Char → List Char → Prop where
  | nil {level rest} : Spells level [] rest rest
  | selector {t ts text mid rest} : SpellsSelector t text mid → Spells .path ts mid rest →
      Spells .path (t :: ts) text rest
  /-- A dot in front of a bracket says nothing. -/
  | dot {ts text rest} : Spells .path ts ('[' :: text) rest →
      Spells .path ts ('.' :: '[' :: text) rest
  /-- The predicate of a filter may stand in its brackets without parentheses, unless it is a
  group: that would lose its own. -/
  | filter {ps ts gap body gap' mid rest} : Gap gap →
      Spells .predicate ps body (gap' ++ ']' :: mid) → Gap gap' → ¬ IsGroup ps →
      Spells .path ts mid rest →
      Spells .path (.startFilter :: (ps ++ .endFilter :: ts)) ('[' :: (gap ++ '?' :: body)) rest
  | enclosed {ps ts gap gap₁ body gap₂ gap₃ mid rest} : Gap gap → Gap gap₁ →
      Spells .predicate ps body (gap₂ ++ ')' :: (gap₃ ++ ']' :: mid)) → Gap gap₂ → Gap gap₃ →
      Spells .path ts mid rest →
      Spells .path (.startFilter :: (ps ++ .endFilter :: ts))
        ('[' :: (gap ++ '?' :: (gap₁ ++ '(' :: body))) rest
  | word {t ts gap text mid rest} : Gap gap → SpellsWord t text mid →
      Spells .predicate ts mid rest → Spells .predicate (t :: ts) (gap ++ text) rest
  | reference {t us ts gap text mid rest} : Gap gap → t.isReference = true →
      Spells .path us text mid → Ends opensSelector mid → Spells .predicate ts mid rest →
      Spells .predicate (t :: (us ++ ts)) (gap ++ (t.chars ++ text)) rest
  | group {us ts gap body gap' mid rest} : Gap gap →
      Spells .predicate us body (gap' ++ ')' :: mid) → Gap gap' → Spells .predicate ts mid rest →
      Spells .predicate (.startGroup :: (us ++ .endGroup :: ts)) (gap ++ '(' :: body) rest

/-- A text that is spelled up to another one goes on with it. -/
theorem Spells.trans {level : Level} {ts us : List Token} {text mid rest : List Char}
    (ht : Spells level ts text mid) (hu : Spells level us mid rest) :
    Spells level (ts ++ us) text rest := by
  induction ht with
  | nil => exact hu
  | selector ht _ ih => exact .selector ht (ih hu)
  | dot _ ih => exact .dot (ih hu)
  | filter hgap hp hgap' hgroup _ _ ih =>
    rw [List.cons_append, List.append_assoc, List.cons_append]
    exact .filter hgap hp hgap' hgroup (ih hu)
  | enclosed hgap hgap₁ hp hgap₂ hgap₃ _ _ ih =>
    rw [List.cons_append, List.append_assoc, List.cons_append]
    exact .enclosed hgap hgap₁ hp hgap₂ hgap₃ (ih hu)
  | word hgap ht _ ih => exact .word hgap ht (ih hu)
  | reference hgap ht hs hends _ _ ih =>
    rw [List.cons_append, List.append_assoc]
    exact .reference hgap ht hs hends (ih hu)
  | group hgap hp hgap' _ _ ih =>
    rw [List.cons_append, List.append_assoc, List.cons_append]
    exact .group hgap hp hgap' (ih hu)

/-- A whole path, without white space around it. It starts from the root, whether it says so or
not, with a name, or with a bracket or a marked name and no reference at all. -/
inductive SpellsPath : List Token → List Char → Prop where
  | root {ts text} : Ends isNameChar text → Spells .path ts text [] →
      SpellsPath (.root :: ts) ('$' :: text)
  | current {ts text} : Spells .path ts text [] → SpellsPath (.root :: ts) ('@' :: text)
  | dot {ts text} : Spells .path ts ('.' :: text) [] → SpellsPath (.root :: ts) ('.' :: text)
  | name {n ts text mid} : SpellsName n text mid → Spells .path ts mid [] →
      SpellsPath (.member n false :: ts) text
  | bare {ts text} : StartsWith ['+', '['] text → Spells .path ts text [] → SpellsPath ts text
  /-- A dot with nothing behind it stands for the root. -/
  | lone {text} : text = ['.'] ∨ text = ['$', '.'] ∨ text = ['@', '.'] → SpellsPath [.root] text

/-- The path spells the tokens. White space around it does not count. -/
def Spelled (ts : List Token) (path : String) : Prop := SpellsPath ts (strip path.toList)

/-! ### What is spelled is well nested -/

theorem SpellsBracket.isSelector {t : Token} {body : List Char} (h : SpellsBracket t body) :
    t.isSelector = true := by
  cases h with
  | numbers hn => cases hn <;> rfl
  | _ => rfl

theorem SpellsSelector.isSelector {t : Token} {text rest : List Char}
    (h : SpellsSelector t text rest) : t.isSelector = true := by
  cases h with
  | bracket hb => exact hb.isSelector
  | _ => rfl

theorem SpellsSelector.head {t : Token} {text rest : List Char} (h : SpellsSelector t text rest) :
    ∃ c cs, text = c :: cs ∧ opensSelector c = true := by
  cases h with
  | _ => exact ⟨_, _, rfl, rfl⟩

theorem SpellsWord.isWord {t : Token} {text rest : List Char} (h : SpellsWord t text rest) :
    t.isOperator = true ∨ t.isLiteral = true := by
  cases h with
  | operator ht _ => exact .inl ht
  | _ => exact .inr rfl

theorem Spells.nested {level : Level} {ts : List Token} {text rest : List Char}
    (h : Spells level ts text rest) : Nested level ts := by
  induction h with
  | nil => exact .nil
  | selector ht _ ih => exact .selector ht.isSelector ih
  | dot _ ih => exact ih
  | filter _ _ _ _ _ ihp ih => exact .filter ihp ih
  | enclosed _ _ _ _ _ _ ihp ih => exact .filter ihp ih
  | word _ ht _ ih => exact .word ht.isWord ih
  | reference _ ht _ _ _ ihs ih => exact .reference ht ihs ih
  | group _ _ _ _ ihp ih => exact .group ihp ih

/-- The tokens of a path are well nested, behind the root that it may start from. -/
theorem SpellsPath.nested {ts : List Token} {text : List Char} (h : SpellsPath ts text) :
    ∃ us, Nested .path us ∧ (ts = .root :: us ∨ ts = us) := by
  cases h with
  | root _ h => exact ⟨_, h.nested, .inl rfl⟩
  | current h => exact ⟨_, h.nested, .inl rfl⟩
  | dot h => exact ⟨_, h.nested, .inl rfl⟩
  | name _ h => exact ⟨_, .selector rfl h.nested, .inr rfl⟩
  | bare _ h => exact ⟨_, h.nested, .inr rfl⟩
  | lone _ => exact ⟨[], .nil, .inl rfl⟩

end Sift.Path
