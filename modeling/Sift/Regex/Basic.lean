import Sift.Text.Letters
import Sift.Text.Category

/-! Regular expressions and the texts they match.

A search asks only whether an expression matches somewhere, so matching follows
all possibilities at once. A set of places in the text is a number whose bit `i`
says that place `i` belongs to it; `after` takes the places where an expression
may start to those where it may have ended. Greed, and the order of alternatives,
never show. -/
namespace Sift

/-- Conditions on a place in the text that take up no character. -/
inductive Look where
  | textStart | textEnd
  /-- At the start or the end of a line; `crlf` has `\r\n` end lines as well. -/
  | lineStart (crlf : Bool) | lineEnd (crlf : Bool)
  | boundary | notBoundary
  | wordStart | wordEnd | wordStartHalf | wordEndHalf
  deriving DecidableEq, Repr

inductive Regex where
  | empty
  /-- One character of a class; `listed` holds them all if they are few. -/
  | chars (accept : Char → Bool) (listed : Option (List Char))
  /-- `word` is the class of characters that make up words. -/
  | look (word : Char → Bool) (l : Look)
  | seq (a b : Regex)
  | alt (a b : Regex)
  /-- At least `least` times, and at most `most` times if there is a bound. -/
  | times (r : Regex) (least : Nat) (most : Option Nat)

namespace Regex

open Text

/-- Letters, marks, digits, connectors and joiners make up words. -/
def isWordChar (c : Char) : Bool :=
  isLetter c || c == '\u200c' || c == '\u200d' ||
    match category c with
    | .mn | .mc | .me | .nd | .pc => true
    | _ => false

/-! ### Sets of places -/

/-- The set whose member `i` is decided by the `i`-th entry. -/
def placesOf : List Bool → Nat
  | [] => 0
  | b :: rest => b.toNat + 2 * placesOf rest

/-- The places `0` to `n`. -/
def allPlaces (n : Nat) : Nat := 1 <<< (n + 1) - 1

/-- A condition on a place, given the characters on its two sides and those
beyond them. -/
def Look.holds (word : Char → Bool) (l : Look) (before after : List Char) : Bool :=
  let left := before.head?.any word
  let right := after.head?.any word
  match l with
  | .textStart => before.isEmpty
  | .textEnd => after.isEmpty
  | .lineStart false => before.isEmpty || before.head? == some '\n'
  | .lineStart true =>
    before.isEmpty || before.head? == some '\n' ||
      (before.head? == some '\r' && after.head? != some '\n')
  | .lineEnd false => after.isEmpty || after.head? == some '\n'
  | .lineEnd true =>
    after.isEmpty || after.head? == some '\r' ||
      (after.head? == some '\n' && before.head? != some '\r')
  | .boundary => left != right
  | .notBoundary => left == right
  | .wordStart => !left && right
  | .wordEnd => left && !right
  | .wordStartHalf => !left
  | .wordEndHalf => !right

/-- Where a condition holds, for a text in two parts, the first one reversed. -/
def lookPlaces (word : Char → Bool) (l : Look) (before : List Char) : List Char → List Bool
  | [] => [Look.holds word l before []]
  | c :: rest => Look.holds word l before (c :: rest) :: lookPlaces word l (c :: before) rest

/-- Up to `n` further rounds, each from the places of the last one. -/
def rounds (f : Nat → Nat) : Nat → Nat → Nat
  | 0, places => places
  | n + 1, places => places ||| rounds f n (f places)

def iterate (f : Nat → Nat) : Nat → Nat → Nat
  | 0, places => places
  | n + 1, places => iterate f n (f places)

/-- Where the expression may have ended, for the places where it may start. More
rounds than the text has characters reach no new place. -/
def after (text : List Char) : Regex → Nat → Nat
  | .empty, places => places
  | .chars accept _, places => (places &&& placesOf (text.map accept)) <<< 1
  | .look word l, places => places &&& placesOf (lookPlaces word l [] text)
  | .seq a b, places => after text b (after text a places)
  | .alt a b, places => after text a places ||| after text b places
  | .times r least most, places =>
    let start := iterate (after text r) least places
    match most with
    | none => rounds (after text r) (text.length + 1) start
    | some n => rounds (after text r) (n - least) start

/-! ### Expressions that stand for a few texts -/

/-- The most texts that an expression is written out into. -/
def mostTexts : Nat := 64

/-- Every text of the one list followed by every text of the other. -/
def crossTexts (as bs : List (List Char)) : Option (List (List Char)) :=
  let both := as.flatMap fun a => bs.map (a ++ ·)
  if both.length ≤ mostTexts then some both else none

def repeatTexts (ts : List (List Char)) : Nat → Option (List (List Char))
  | 0 => some [[]]
  | n + 1 => (repeatTexts ts n).bind fun rest => crossTexts rest ts

/-- The texts that an expression stands for, if they are fixed and few. -/
def texts : Regex → Option (List (List Char))
  | .empty => some [[]]
  | .chars _ listed => listed.map fun cs => cs.map ([·])
  | .look .. => none
  | .seq a b =>
    match texts a, texts b with
    | some as, some bs => crossTexts as bs
    | _, _ => none
  | .alt a b =>
    match texts a, texts b with
    | some as, some bs => some (as ++ bs)
    | _, _ => none
  | .times r least most =>
    match texts r with
    | none => none
    | some ts =>
      if least = 0 ∧ most = some 1 then some (ts ++ [[]])
      else if most = some least ∧ least ≤ 10 then repeatTexts ts least
      else none

/-- The texts are few enough to be looked for one by one: at most ten, or short. -/
def areFew (ts : List (List Char)) : Bool :=
  !ts.isEmpty && ts.all (fun t => !t.isEmpty) &&
    (ts.length ≤ 10 ||
      (ts.length ≤ mostTexts && ts.all fun t => (String.ofList t).utf8ByteSize ≤ 4))

/-- The expression matches somewhere in the text. -/
def occursIn (r : Regex) (text : String) : Bool :=
  let cs := text.toList
  r.after cs (allPlaces cs.length) != 0

end Regex

end Sift
