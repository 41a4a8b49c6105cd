import Sift.Yaml.Spot
import Sift.Yaml.Token

/-! Scalars as they are written: without quotes, in quotes, or as a block of lines.

Each function takes what follows the place it reads from and gives the text with
the rest of the page. -/
namespace Sift.Yaml

/-! ### Plain scalars -/

/-- Brackets and commas end a plain scalar inside a flow collection. -/
def isFlowIndicator (c : Char) : Bool := c == ',' || c == '[' || c == ']' || c == '{' || c == '}'

/-- A plain scalar that goes on after `gap`. Below the top level it has to stay
right of column `indent`. The rest starts after the last gap; whether a line ended
in it comes with the result. -/
def plainText (inFlow : Bool) (indent : Nat) (gap : List Spot) :
    List Spot → Option (List Char × Bool × List Spot)
  | [] => some ([], gap.any Spot.isBreak, [])
  | s :: rest =>
    let stop := some ([], gap.any Spot.isBreak, s :: rest)
    if s.isGap then
      if s.char == '\t' && gap.any Spot.isBreak && s.column < indent then none
      else plainText inFlow indent (gap ++ [s]) rest
    else if !gap.isEmpty &&
        (s.char == '#' || (!inFlow && s.column < indent) || isDocumentMark (s :: rest)) then stop
    else if s.char == ':' && inFlow &&
        rest.head?.any (fun n => n.char == '?' || isFlowIndicator n.char) then none
    else if (s.char == ':' && endsWord rest) || (inFlow && isFlowIndicator s.char) then stop
    else (plainText inFlow indent [] rest).map fun (text, r) =>
      (foldGap (gap.map Spot.char) ++ s.char :: text, r)

/-! ### Quoted scalars -/

/-- A text in single quotes, where a quote is written twice. -/
def singleQuoted (gap : List Char) : List Spot → Option (List Char × List Spot)
  | [] => none
  | s :: rest =>
    if s.isGap then singleQuoted (gap ++ [s.char]) rest
    else if isDocumentMark (s :: rest) then none
    else if s.char == '\'' then
      match rest with
      | n :: after =>
        if n.char == '\'' then
          (singleQuoted [] after).map fun (text, r) => (foldGap gap ++ '\'' :: text, r)
        else some (foldGap gap, n :: after)
      | [] => some (foldGap gap, [])
    else (singleQuoted [] rest).map fun (text, r) => (foldGap gap ++ s.char :: text, r)

/-- The character that a letter after a backslash stands for. -/
def escaped? : Char → Option Char
  | '0' => some '\x00'
  | 'a' => some '\x07'
  | 'b' => some '\x08'
  | 't' | '\t' => some '\t'
  | 'n' => some '\n'
  | 'v' => some '\x0B'
  | 'f' => some '\x0C'
  | 'r' => some '\r'
  | 'e' => some '\x1B'
  | ' ' => some ' '
  | '"' => some '"'
  | '/' => some '/'
  | '\\' => some '\\'
  | 'N' => some '\u0085'
  | '_' => some '\u00A0'
  | 'L' => some '\u2028'
  | 'P' => some '\u2029'
  | _ => none

/-- How many hexadecimal digits follow a letter after a backslash. -/
def escapeWidth? : Char → Option Nat
  | 'x' => some 2
  | 'u' => some 4
  | 'U' => some 8
  | _ => none

def hexDigit? (c : Char) : Option Nat :=
  if '0' ≤ c ∧ c ≤ '9' then some (c.toNat - '0'.toNat)
  else if 'a' ≤ c ∧ c ≤ 'f' then some (c.toNat - 'a'.toNat + 10)
  else if 'A' ≤ c ∧ c ≤ 'F' then some (c.toNat - 'A'.toNat + 10)
  else none

/-- The character with this code, for `width` hexadecimal digits. -/
def hexChar? (width : Nat) (digits : List Char) : Option Char := do
  let values ← digits.mapM hexDigit?
  let code := values.foldl (fun n d => 16 * n + d) 0
  if values.length = width ∧ code.isValidChar then some (Char.ofNat code) else none

/-- What a gap in double quotes stands for. Where a backslash ended the line, the
end itself and the blanks around it stand for nothing. -/
def foldQuotedGap (joined : Bool) (gap : List Char) : List Char :=
  if joined then gap.filter isBreak else foldGap gap

/-- A text in double quotes; `joined` says that a backslash ended the line that
the gap is part of. -/
def doubleQuoted (joined : Bool) (gap : List Char) (spots : List Spot) :
    Option (List Char × List Spot) :=
  match spots with
  | [] => none
  | s :: rest =>
    let before := foldQuotedGap joined gap
    if s.isGap then doubleQuoted joined (gap ++ [s.char]) rest
    else if isDocumentMark (s :: rest) then none
    else if s.char == '"' then some (before, rest)
    else if s.char == '\\' then
      match rest with
      | [] => none
      | e :: more =>
        if e.isBreak then
          (doubleQuoted true [] more).map fun (text, r) => (before ++ text, r)
        else match escapeWidth? e.char with
          | some width => do
            let c ← hexChar? width ((more.take width).map Spot.char)
            let (text, r) ← doubleQuoted false [] (more.drop width)
            some (before ++ c :: text, r)
          | none => do
            let c ← escaped? e.char
            let (text, r) ← doubleQuoted false [] more
            some (before ++ c :: text, r)
    else (doubleQuoted false [] rest).map fun (text, r) => (before ++ s.char :: text, r)
termination_by spots.length
decreasing_by
  all_goals simp only [List.length_cons, List.length_drop]; omega

/-! ### Blocks of lines -/

/-- What becomes of the ends of lines at the end of a block. -/
inductive Chomping where
  | strip
  | clip
  | keep
  deriving DecidableEq, Repr

/-- The line after `|` or `>`: how the block ends, and how far it is indented if
that is said. -/
def blockHeader : List Spot → Option (Chomping × Nat × List Spot)
  | s :: rest =>
    if s.char == '+' || s.char == '-' then
      let chomping := if s.char == '+' then Chomping.keep else .strip
      match rest with
      | d :: more =>
        if d.char.isDigit then
          if d.char == '0' then none else some (chomping, d.char.toNat - '0'.toNat, more)
        else some (chomping, 0, rest)
      | [] => some (chomping, 0, rest)
    else if s.char.isDigit then
      let width := s.char.toNat - '0'.toNat
      if width = 0 then none
      else match rest with
        | c :: more =>
          if c.char == '+' then some (.keep, width, more)
          else if c.char == '-' then some (.strip, width, more)
          else some (.clip, width, rest)
        | [] => some (.clip, width, rest)
    else some (.clip, 0, s :: rest)
  | [] => some (.clip, 0, [])

/-- The start of the next line, if nothing but blanks and a comment is left on
this one. -/
def nextLine? (spots : List Spot) : Option (List Spot) :=
  match spots.dropWhile Spot.isBlank with
  | [] => some []
  | s :: rest =>
    if s.isBreak then some rest
    else if s.char == '#' then some ((rest.dropWhile fun s => !s.isBreak).drop 1)
    else none

/-- Empty lines and the indentation of the line after them: the ends of the lines,
the greatest column that was reached, and the rest. An `indent` of zero is not
known yet, and all blanks are indentation then. -/
def emptyLines (indent : Nat) : List Spot → Option (List Char × Nat × List Spot)
  | [] => some ([], 0, [])
  | s :: rest =>
    let inside := indent = 0 ∨ s.column < indent
    if inside ∧ s.char = ' ' then
      (emptyLines indent rest).map fun (ends, column, r) => (ends, max column (s.column + 1), r)
    else if inside ∧ s.char = '\t' then none
    else if s.isBreak then
      (emptyLines indent rest).map fun (ends, r) => (s.char :: ends, r)
    else some ([], 0, s :: rest)

theorem emptyLines_length {indent : Nat} {spots rest : List Spot} {ends : List Char} {column : Nat}
    (h : emptyLines indent spots = some (ends, column, rest)) : rest.length ≤ spots.length := by
  induction spots generalizing ends column with
  | nil => simp_all [emptyLines]
  | cons s more ih =>
    simp only [emptyLines] at h
    split at h
    · obtain ⟨⟨e, c, r⟩, hr, he⟩ := Option.map_eq_some_iff.1 h
      simp only [Prod.mk.injEq] at he
      have := ih (he.2.2 ▸ hr)
      simp only [List.length_cons]
      omega
    · split at h
      · simp at h
      · split at h
        · obtain ⟨⟨e, c, r⟩, hr, he⟩ := Option.map_eq_some_iff.1 h
          simp only [Prod.mk.injEq] at he
          have := ih (he.2.2 ▸ hr)
          simp only [List.length_cons]
          omega
        · simp only [Option.some.injEq, Prod.mk.injEq] at h
          simp [← h.2.2]

/-- How a block has come this far: the end of its last line, the ends of the empty
lines after it, and whether the last line started with a blank. -/
structure BlockEnd where
  last : List Char
  empty : List Char
  indented : Bool

/-- Joins a line to the lines before it. A folded block turns a single end of a
line into a blank, unless one of the lines around it is indented further. -/
def BlockEnd.join (folded : Bool) (before : BlockEnd) (indented : Bool) : List Char :=
  if folded && before.last == ['\n'] && !before.indented && !indented then
    if before.empty.isEmpty then [' '] else before.empty
  else before.last ++ before.empty

/-- The lines of a block that are indented to column `indent`. -/
def blockLines (folded : Bool) (indent : Nat) (before : BlockEnd) (spots : List Spot) :
    Option (List Char × BlockEnd × List Spot) :=
  match spots with
  | [] => some ([], before, [])
  | s :: rest =>
    if s.column = indent then
      let line := rest.takeWhile fun s => !s.isBreak
      let after := rest.dropWhile fun s => !s.isBreak
      match _h : emptyLines indent (after.drop 1) with
      | none => none
      | some (ends, _, more) =>
        let start := before.join folded s.isBlank
        (blockLines folded indent ⟨(after.take 1).map Spot.char, ends, s.isBlank⟩ more).map
          fun (text, r) => (start ++ s.char :: line.map Spot.char ++ text, r)
    else some ([], before, s :: rest)
termination_by spots.length
decreasing_by
  have h1 := emptyLines_length _h
  have h2 : after.length ≤ rest.length := (List.dropWhile_suffix _).length_le
  simp only [List.length_drop, List.length_cons] at h1 ⊢
  omega

/-- A block scalar, read on from its indicator. `outer` is the indentation of the
collection it is in, if it is in one. -/
def blockText (folded : Bool) (outer : Option Nat) (spots : List Spot) :
    Option (String × List Spot) := do
  let (chomping, width, rest) ← blockHeader spots
  let rest ← nextLine? rest
  let known := if width = 0 then 0 else (outer.getD 0) + width
  let (ends, column, rest) ← emptyLines known rest
  let least := (outer.map (· + 1)).getD 0
  let indent := if known = 0 then max (max column least) 1 else known
  let (text, last, rest) ← blockLines folded indent ⟨[], ends, false⟩ rest
  let tail := match chomping with
    | .strip => []
    | .clip => last.last
    | .keep => last.last ++ last.empty
  some (String.ofList (text ++ tail), rest)

end Sift.Yaml
