/-! Wildcard patterns: `*` covers any run of characters and `?` exactly one.

The matcher remembers only the last star. It first lets that star cover nothing
and, whenever the pattern after it fails, lets it cover one character more and
starts over behind it. A star is taken as an ordinary character where the text
has a star at the same place. -/
namespace Sift.Text

/-- Where to go on when the pattern fails: the pattern behind the last star, and
the text from where that star started to cover. -/
structure Restart where
  pattern : List Char
  text : List Char

/-- The measure by which a restart comes closer to its end. -/
def Restart.reach (star : Option Restart) (text : List Char) : Nat :=
  match star with
  | none => text.length + 1
  | some s => max s.text.length text.length

def matchFrom (star : Option Restart) (text pattern : List Char) : Bool :=
  match text, pattern with
  | [], pattern => pattern.all (· == '*')
  | c :: text', q :: pattern' =>
    if q = '?' ∨ q = c then matchFrom star text' pattern'
    else if q = '*' then matchFrom (some ⟨pattern', c :: text'⟩) (c :: text') pattern'
    else
      match star with
      | some ⟨behind, _ :: covered⟩ => matchFrom (some ⟨behind, covered⟩) covered behind
      | _ => false
  | _ :: _, [] =>
    match star with
    | some ⟨behind, _ :: covered⟩ => matchFrom (some ⟨behind, covered⟩) covered behind
    | _ => false
termination_by (Restart.reach star text, pattern.length)
decreasing_by
  all_goals simp_wf
  · cases star <;> simp only [Restart.reach, Prod.lex_def, List.length_cons] <;> omega
  · cases star <;> simp only [Restart.reach, Prod.lex_def, List.length_cons] <;> omega
  · simp only [Restart.reach, Prod.lex_def, List.length_cons]; omega
  · simp only [Restart.reach, Prod.lex_def, List.length_cons]; omega

/-- The whole text matches the pattern. -/
def wildcard (text pattern : List Char) : Bool := matchFrom none text pattern

end Sift.Text
