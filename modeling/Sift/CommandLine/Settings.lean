import Sift.Text.Blank
import Sift.Text.Category
import Sift.Text.Letters

/-! Settings files: lines that give values to variables.

A line has a name, an equals sign and a value, with the word `export` in front of them
or not. A value ends at its first blank, and only a comment may follow. Quotes keep
blanks in a value, single ones everything. Outside of single quotes a backslash stands
before a character that would otherwise mean something else, and a dollar sign before
the name of another variable. A file counts up to its first line that is not like
this. -/
namespace Sift.CommandLine

open Text

/-! ### Values -/

/-- A part of a value: a character, or what a variable holds. -/
inductive Piece where
  | char (c : Char)
  | held (name : String)
  deriving DecidableEq, Repr

abbrev Template := List Piece

inductive Quoting where
  | bare
  | single
  | double
  deriving DecidableEq, Repr

/-- How far a value has been read. -/
inductive Stage where
  | text (q : Quoting)
  /-- Behind a backslash. -/
  | escape (q : Quoting)
  /-- Behind a dollar sign and the first characters of a name. -/
  | name (q : Quoting) (read : List Char)
  /-- The same for a name in braces. -/
  | braced (q : Quoting) (read : List Char)
  /-- Behind the value. -/
  | behind

def escaped? : Char → Option Char
  | 'n' => some '\n'
  | c => if ['\\', '\'', '"', '$', ' '].contains c then some c else none

def isGap (c : Char) : Bool := c == ' ' || c == '\t'

/-- A variable under a name, or nothing under no name. -/
def reference (name : List Char) : Template :=
  if name.isEmpty then [] else [.held (.ofList name)]

/-- Where a character leads that does not start a name, and whether it is part of the
value. -/
def Stage.afterChar (q : Quoting) (c : Char) : Stage × Bool :=
  match q, c with
  | .single, '\'' => (.text .bare, false)
  | .single, _ => (.text .single, true)
  | _, '\\' => (.escape q, false)
  | .double, '"' => (.text .bare, false)
  | .double, _ => (.text .double, true)
  | .bare, '\'' => (.text .single, false)
  | .bare, '"' => (.text .double, false)
  | .bare, c => if isGap c then (.behind, false) else (.text .bare, true)

/-- The character that ends a name without braces is part of the value, whatever it
would mean elsewhere; only a dollar sign starts another name. -/
def readValue? : Stage → List Char → Option Template
  | .text .bare, [] | .escape .bare, [] | .behind, [] => some []
  | .name .bare read, [] => some (reference read.reverse)
  | _, [] => none
  | .text q, c :: cs =>
    if c = '$' ∧ q ≠ .single then readValue? (.name q []) cs
    else
      let (stage, isPart) := Stage.afterChar q c
      (readValue? stage cs).map fun t => if isPart then .char c :: t else t
  | .escape q, c :: cs =>
    match escaped? c with
    | some c => (readValue? (.text q) cs).map (.char c :: ·)
    | none => none
  | .name q read, c :: cs =>
    if isLetter c || isNumeric c then readValue? (.name q (c :: read)) cs
    else if c = '{' ∧ read = [] then readValue? (.braced q []) cs
    else if c = '$' then (readValue? (.name q []) cs).map (reference read.reverse ++ ·)
    else (readValue? (.text q) cs).map fun t => reference read.reverse ++ .char c :: t
  | .braced q read, c :: cs =>
    if c = '}' then (readValue? (.text q) cs).map (reference read.reverse ++ ·)
    else readValue? (.braced q (c :: read)) cs
  | .behind, c :: cs =>
    if c = '#' then some []
    else if isGap c then readValue? .behind cs
    else none

/-! ### Lines -/

def skipBlanks (cs : List Char) : List Char := cs.dropWhile isBlank

def isNameStart (c : Char) : Bool := c.isAlpha || c == '_'

def isNamePart (c : Char) : Bool := c.isAlphanum || c == '_' || c == '.'

/-- A name at the front, and what follows it and blanks. -/
def readName? (cs : List Char) : Option (String × List Char) :=
  if cs.head?.any isNameStart then
    let (name, rest) := cs.span isNamePart
    some (.ofList name, skipBlanks rest)
  else none

/-- The value behind the equals sign; it may be left out. -/
def readAssigned? (name : String) : List Char → Option (String × Template)
  | '=' :: cs =>
    match skipBlanks cs with
    | [] | '#' :: _ => some (name, [])
    | cs => (readValue? (.text .bare) cs).map (name, ·)
  | _ => none

/-- A line that is neither empty nor a comment. A variable may have the name
`export`. -/
def readSetting? (cs : List Char) : Option (String × Template) := do
  let (name, rest) ← readName? cs
  if name = "export" ∧ rest.head? ≠ some '=' then
    let (name, rest) ← readName? rest
    readAssigned? name rest
  else readAssigned? name rest

/-- The settings of some lines. -/
def readLines : List (List Char) → List (String × Template)
  | [] => []
  | line :: lines =>
    match skipBlanks (dropEndWhile isBlank line) with
    | [] | '#' :: _ => readLines lines
    | cs =>
      match readSetting? cs with
      | some setting => setting :: readLines lines
      | none => []

/-- The settings of a file. -/
def readSettings (text : String) : List (String × Template) :=
  readLines ((text.splitOn "\n").map String.toList)

/-! ### Variables -/

section Variables

variable {m : Type → Type} [Monad m]

/-- The text of a value, given what variables hold. A variable that is not there holds
nothing. -/
def Template.expand (lookup : String → m (Option String)) : Template → m String
  | [] => return ""
  | .char c :: rest => return String.singleton c ++ (← expand lookup rest)
  | .held name :: rest => return (← lookup name).getD "" ++ (← expand lookup rest)

/-- What a variable holds: what it holds outside, or the value that it got first. -/
def lookupVariable (outer : String → m (Option String)) (known : List (String × String))
    (name : String) : m (Option String) := do
  match ← outer name with
  | some value => return some value
  | none => return known.lookup name

/-- The variables that settings add to some known ones. A setting sees those before
it. -/
def addSettings (outer : String → m (Option String)) (known : List (String × String)) :
    List (String × Template) → m (List (String × String))
  | [] => return known
  | (name, template) :: rest => do
    let value ← template.expand (lookupVariable outer known)
    addSettings outer (known ++ [(name, value)]) rest

end Variables

end Sift.CommandLine
