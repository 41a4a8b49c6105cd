import Sift.Proofs.Path.Formula
import Sift.Proofs.Text.Blank
import Sift.Proofs.Text.Integer

/-! Paths as text.

A path is spelled by setting the texts of its tokens next to each other, with nothing in
between. `isPlain` says which tokens survive that, one by one: names that need no quotes,
integers of one word, texts without a quote. `Shaped` says in which order tokens make up a
path, and a predicate inside of one. It is coarser than `Writes`, since it neither counts
the groups nor compiles the patterns; every writing has its shape (`Writes.shaped`). -/
namespace Sift.Path

open Text

/-! ### Plain tokens -/

/-- A name that needs no quotes. -/
def isPlainName (name : String) : Bool :=
  let run := match name.toList with
    | '$' :: run => run
    | run => run
  !run.isEmpty && run.all isNameChar && name.toList.head? != some '-' &&
    name.toList.getLast? != some '-'

/-- A text that fits between single quotes. -/
def isQuotable (s : String) : Bool := !s.toList.contains '\''

/-- A token that its text gives back. The text of a search does not show whether its name
is marked, and no text spells a marked one. -/
def Token.isPlain : Token → Bool
  | .member name _ => isPlainName name
  | .descendant name marked => !marked && (name == "*" || isPlainName name)
  | .index i => fitsInt64 i
  | .slice start stop step => [start, stop, step].all fun bound => bound.all fitsInt64
  | .indexes is => 2 ≤ is.length && is.all fitsInt64
  | .names ns => 2 ≤ ns.length && ns.all isQuotable
  | .integer i => fitsInt64 i
  | .text s => isQuotable s
  | _ => true

/-- Texts, numbers and truth values stand for themselves in a predicate. -/
def Token.isLiteral : Token → Bool
  | .truth _ | .integer _ | .text _ => true
  | _ => false

/-! ### The order of tokens -/

inductive Part where
  /-- What a path goes on with. -/
  | selectors
  | path
  | operand
  | term
  | predicate

inductive Shaped : Part → List Token → Prop where
  | nil : Shaped .selectors []
  | selector {t ts} : t.isSelector = true → Shaped .selectors ts → Shaped .selectors (t :: ts)
  | filter {ts us} : Shaped .predicate ts → Shaped .selectors us →
      Shaped .selectors (.startFilter :: (ts ++ .endFilter :: us))
  | path {t ts} : t.isReference = true → Shaped .selectors ts → Shaped .path (t :: ts)
  | literal {t} : t.isLiteral = true → Shaped .operand [t]
  | value {ts} : Shaped .path ts → Shaped .operand ts
  | resolves {ts} : Shaped .path ts → Shaped .term ts
  | compare {op ts us} : Shaped .path ts → Shaped .operand us →
      Shaped .term (ts ++ .compare op :: us)
  | not {ts} : Shaped .term ts → Shaped .term (.not :: ts)
  | group {ts} : Shaped .predicate ts → Shaped .term (.startGroup :: (ts ++ [.endGroup]))
  | term {ts} : Shaped .term ts → Shaped .predicate ts
  | join {t ts us} : t = .and ∨ t = .or → Shaped .predicate ts → Shaped .predicate us →
      Shaped .predicate (ts ++ t :: us)

/-- What a phrase is without what it means. -/
def Phrase.part : Phrase → Part
  | .selectors _ => .selectors
  | .path _ => .path
  | .operand .. => .operand
  | .relation _ | .term .. => .term
  | .conjunction .. | .disjunction .. => .predicate

theorem Literal.isLiteral {s : Setting} {op : Comparison} {t : Token} {right : Operand}
    (h : Literal s op t right) : t.isLiteral = true := by
  cases h <;> rfl

/-- Whatever is written as a phrase has the shape of one. -/
theorem Writes.shaped {s : Setting} {phrase : Phrase} {ts : List Token} (h : Writes s phrase ts) :
    Shaped phrase.part ts := by
  induction h with
  | nil => exact .nil
  | selector ht _ _ ih => exact .selector ht ih
  | filter _ _ ihp ihs => exact .filter ihp ihs
  | path ht _ _ ih => exact .path ht ih
  | literal h => exact .literal h.isLiteral
  | value _ ih => exact .value ih
  | resolves _ ih => exact .resolves ih
  | compare _ _ ihl ihr => exact .compare ihl ihr
  | relation _ _ ih => exact ih
  | not _ ih => exact .not ih
  | group _ ih => exact .group ih
  | term _ ih => exact .term ih
  | and _ _ iha ihb => exact .join (.inl rfl) iha (.term ihb)
  | conjunction _ ih => exact ih
  | or _ _ iha ihb => exact .join (.inr rfl) iha ihb

/-! ### Texts -/

/-- The text of a path. -/
def spell (ts : List Token) : String := String.join (ts.map Token.display)

def Token.chars (t : Token) : List Char := t.display.toList

def chars (ts : List Token) : List Char := ts.flatMap Token.chars

@[simp] theorem chars_nil : chars [] = [] := rfl

@[simp] theorem chars_cons (t : Token) (ts : List Token) : chars (t :: ts) = t.chars ++ chars ts :=
  rfl

@[simp] theorem chars_append (ts us : List Token) : chars (ts ++ us) = chars ts ++ chars us :=
  List.flatMap_append

theorem chars_member (name : String) (marked : Bool) :
    (Token.member name marked).chars = (if marked then '+' else '.') :: name.toList := by
  cases marked <;> simp [Token.chars, Token.display]

theorem chars_descendant (name : String) (marked : Bool) :
    (Token.descendant name marked).chars = '.' :: '.' :: name.toList := by
  simp [Token.chars, Token.display]

theorem chars_names (ns : List String) : (Token.names ns).chars =
    '[' :: ((",".intercalate (ns.map Token.quoted)).toList ++ [']']) := by
  simp [Token.chars, Token.display]

theorem chars_filter (ts us : List Token) : chars (.startFilter :: (ts ++ .endFilter :: us)) =
    '[' :: '?' :: '(' :: (chars ts ++ ')' :: ']' :: chars us) := by
  rw [chars_cons, chars_append, chars_cons]
  rfl

theorem toList_spell (ts : List Token) : (spell ts).toList = chars ts := by
  rw [spell, String.toList_join, List.flatMap_map]
  rfl

end Sift.Path
