/-! Text laid out on a page.

What a YAML text means depends on where on the page it stands, so each character
is read together with its line and its column. Every way to end a line is written
`\n` from here on, apart from the two separators that Unicode has for it; they
survive where lines are joined. -/
namespace Sift.Yaml

/-- A character and where it stands. -/
structure Spot where
  char : Char
  line : Nat
  column : Nat
  deriving Repr

/-- Characters that end a line. -/
def isBreak (c : Char) : Bool := c == '\n' || c == '\u2028' || c == '\u2029'

/-- What a YAML text may be made of. -/
def isAllowed (c : Char) : Bool :=
  let n := c.toNat
  n == 0x9 || n == 0xA || n == 0xD || (0x20 ≤ n && n ≤ 0x7E) || n == 0x85 ||
    (0xA0 ≤ n && n ≤ 0xFFFD) || 0x10000 ≤ n

/-- The characters with their places, for a text that goes on at `line` and
`column`. -/
def layOut (line column : Nat) : List Char → List Spot
  | [] => []
  | '\r' :: '\n' :: rest => ⟨'\n', line, column⟩ :: layOut (line + 1) 0 rest
  | c :: rest =>
    if c == '\r' || c == '\n' || c == '\u0085' then
      ⟨'\n', line, column⟩ :: layOut (line + 1) 0 rest
    else if isBreak c then ⟨c, line, column⟩ :: layOut (line + 1) 0 rest
    else ⟨c, line, column⟩ :: layOut line (column + 1) rest

/-- A text as a page; a byte order mark may come first. -/
def page? (text : String) : Option (List Spot) :=
  if text.toList.all isAllowed then
    some <| match text.toList with
      | '\uFEFF' :: rest => layOut 0 1 rest
      | cs => layOut 0 0 cs
  else none

namespace Spot

def isBlank (s : Spot) : Bool := s.char == ' ' || s.char == '\t'

def isBreak (s : Spot) : Bool := Yaml.isBreak s.char

/-- Blanks and the ends of lines. -/
def isGap (s : Spot) : Bool := s.isBlank || s.isBreak

end Spot

/-- The text is over here, or a word ends. -/
def endsWord : List Spot → Bool
  | [] => true
  | s :: _ => s.isGap

/-- A line that starts with three times `c`, on their own. -/
def isRule (c : Char) : List Spot → Bool
  | x :: y :: z :: rest =>
    x.column == 0 && x.char == c && y.char == c && z.char == c && endsWord rest
  | _ => false

/-- A line that starts or ends a document. -/
def isDocumentMark (spots : List Spot) : Bool := isRule '-' spots || isRule '.' spots

/-- What a gap between two words stands for: blanks within a line for themselves,
one end of a line for a blank, and several for one less. -/
def foldGap (gap : List Char) : List Char :=
  match gap.filter isBreak with
  | [] => gap
  | first :: more =>
    if first != '\n' then first :: more
    else if more.isEmpty then [' ']
    else more

end Sift.Yaml
