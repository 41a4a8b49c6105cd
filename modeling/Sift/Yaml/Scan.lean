import Sift.Yaml.Scalar

/-! From a page to its tokens.

The scan keeps the columns at which block collections have opened. A word further
left closes them, and the first key or dash further right opens one. A key need not
be marked: any scalar or flow collection may turn out to be one once a colon
follows on its line. So the scan remembers where the last one started and puts the
key's token there when the colon comes. -/
namespace Sift.Yaml

/-- A place where a key may have started. -/
structure KeyStart where
  /-- How many tokens come before it. -/
  place : Nat
  line : Nat
  column : Nat
  /-- Nothing but a key can stand there. -/
  required : Bool

structure Scanner where
  tokens : Array Token
  /-- Where the open block collections start, innermost first. -/
  columns : List Nat
  /-- The key that may have started on this level. -/
  key : Option KeyStart
  /-- The same for each level around the open flow collections. -/
  outerKeys : List (Option KeyStart)
  /-- A key may start here. -/
  keyAllowed : Bool

namespace Scanner

def start : Scanner := ⟨#[], [], none, [], true⟩

def inFlow (sc : Scanner) : Bool := !sc.outerKeys.isEmpty

def emit (sc : Scanner) (t : Token) : Scanner := { sc with tokens := sc.tokens.push t }

def allowKey (sc : Scanner) (allowed : Bool) : Scanner := { sc with keyAllowed := allowed }

/-! ### Keys -/

/-- Gives up the key that may have started, unless it had to be one. -/
def dropKey (sc : Scanner) : Option Scanner :=
  if sc.key.any (·.required) then none else some { sc with key := none }

/-- Notes that a key may start at `s`. -/
def saveKey (sc : Scanner) (s : Spot) : Option Scanner :=
  if sc.keyAllowed then do
    let sc ← sc.dropKey
    let required := !sc.inFlow && sc.columns.head? == some s.column
    some { sc with key := some ⟨sc.tokens.size, s.line, s.column, required⟩ }
  else some sc

/-- A key is on one line with its colon, and not much longer than a thousand
characters. -/
def keyReach : Nat := 1024

/-- The key that a colon at `s` belongs to. -/
def keyFor (sc : Scanner) (s : Spot) : Option (Option KeyStart) :=
  match sc.key with
  | none => some none
  | some k =>
    if k.line = s.line ∧ s.column ≤ k.column + keyReach then some (some k)
    else if k.required then none
    else some none

/-! ### Block collections -/

/-- Closes the block collections that start right of `column`. -/
def closeTo (sc : Scanner) (column : Nat) : Scanner :=
  if sc.inFlow then sc
  else
    let closed := (sc.columns.takeWhile (column < ·)).length
    { sc with
      columns := sc.columns.drop closed
      tokens := sc.tokens ++ Array.replicate closed .blockEnd }

def closeAll (sc : Scanner) : Scanner :=
  if sc.inFlow then sc
  else { sc with
    columns := []
    tokens := sc.tokens ++ Array.replicate sc.columns.length .blockEnd }

/-- Puts a token in front of those from `place` on. -/
def insertAt (sc : Scanner) (place : Nat) (t : Token) : Scanner :=
  { sc with tokens := sc.tokens.insertIdxIfInBounds place t }

/-- Opens a block collection at `column` if none is open that far right. -/
def openBlock (sc : Scanner) (column place : Nat) (t : Token) : Scanner :=
  if sc.inFlow || sc.columns.head?.any (column ≤ ·) then sc
  else { sc.insertAt place t with columns := column :: sc.columns }

/-! ### One token -/

def directive (sc : Scanner) (rest : List Spot) : Option (Scanner × List Spot) := do
  let sc ← sc.closeAll.dropKey
  let line := (rest.takeWhile fun s => !s.isBreak).map fun s =>
    if s.isBlank then ' ' else s.char
  let words := (line.splitOnP (· == ' ')).filter (!·.isEmpty)
  let words := words.takeWhile (·.head? != some '#')
  some ((sc.allowKey false).emit (.directive (words.map String.ofList)),
    rest.dropWhile fun s => !s.isBreak)

def documentMark (sc : Scanner) (t : Token) (rest : List Spot) : Option (Scanner × List Spot) := do
  let sc ← sc.closeAll.dropKey
  some ((sc.allowKey false).emit t, rest.drop 2)

def openFlow (sc : Scanner) (s : Spot) (t : Token) : Option Scanner := do
  let sc ← sc.saveKey s
  some <| ({ sc with key := none, outerKeys := sc.key :: sc.outerKeys }.allowKey true).emit t

def closeFlow (sc : Scanner) (t : Token) : Option Scanner := do
  let sc ← sc.dropKey
  let sc := match sc.outerKeys with
    | [] => sc
    | key :: outer => { sc with key := key, outerKeys := outer }
  some ((sc.allowKey false).emit t)

def comma (sc : Scanner) : Option Scanner := do
  let sc ← sc.dropKey
  some ((sc.allowKey true).emit .comma)

def dash (sc : Scanner) (s : Spot) : Option Scanner := do
  if !sc.inFlow && !sc.keyAllowed then none
  let sc ← (sc.openBlock s.column sc.tokens.size .blockSequence).dropKey
  some ((sc.allowKey true).emit .dash)

/-- A key that is marked as one. -/
def markedKey (sc : Scanner) (s : Spot) : Option Scanner := do
  if !sc.inFlow && !sc.keyAllowed then none
  let sc ← (sc.openBlock s.column sc.tokens.size .blockMapping).dropKey
  some ((sc.allowKey !sc.inFlow).emit .key)

def colon (sc : Scanner) (s : Spot) : Option Scanner := do
  match ← sc.keyFor s with
  | some k =>
    let sc := (sc.insertAt k.place .key).openBlock k.column k.place .blockMapping
    some (({ sc with key := none }.allowKey false).emit .value)
  | none =>
    if !sc.inFlow && !sc.keyAllowed then none
    let sc := { sc with key := none }.openBlock s.column sc.tokens.size .blockMapping
    some ((sc.allowKey !sc.inFlow).emit .value)

/-- Letters, digits, `-` and `_`, of ASCII only. -/
def isWordChar (c : Char) : Bool := c.isAlphanum || c == '-' || c == '_'

/-- The name of an anchor. -/
def anchorName (rest : List Spot) : Option (String × List Spot) :=
  let name := (rest.takeWhile fun s => isWordChar s.char).map Spot.char
  let after := rest.dropWhile fun s => isWordChar s.char
  let ended := endsWord after || after.head?.any fun s =>
    s.char == '}' || "?:,]%@\x60".toList.contains s.char
  if !name.isEmpty && ended then some (String.ofList name, after) else none

/-- Characters of the suffix of a tag. -/
def isTagChar (c : Char) : Bool := isWordChar c || ";/?:@&=+$.!~*\x27()".toList.contains c

/-- A tag, read on from its exclamation mark: the handle that says where its name
is to be looked up, and the name. -/
def tagParts (inFlow : Bool) (rest : List Spot) : Option (Token × List Spot) := do
  let take := fun (p : Char → Bool) (spots : List Spot) =>
    (String.ofList ((spots.takeWhile fun s => p s.char).map Spot.char),
      spots.dropWhile fun s => p s.char)
  let (tag, after) ← match rest with
    | [] => some (Token.tag "" "!", [])
    | s :: more =>
      if s.char == '<' then
        let (name, after) := take (fun c => isTagChar c || ",[]".toList.contains c) more
        match after with
        | e :: after => if e.char == '>' && !name.isEmpty then some (.tag "" name, after) else none
        | [] => none
      else
        let (word, after) := take isWordChar rest
        let (name, end_) := take isTagChar (after.drop 1)
        if after.head?.any (·.char == '!') then
          if name.isEmpty then none else some (.tag ("!" ++ word ++ "!") name, end_)
        else
          let (name, end_) := take isTagChar rest
          if name.isEmpty then some (.tag "" "!", end_) else some (.tag "!" name, end_)
  if endsWord after || (inFlow && after.head?.any (·.char == ',')) then some (tag, after) else none

/-- A word that a key may start with, taken by `read`. -/
def keyWord (sc : Scanner) (s : Spot) (read : Option (Token × List Spot)) :
    Option (Scanner × List Spot) := do
  let sc ← sc.saveKey s
  let (t, rest) ← read
  some ((sc.allowKey false).emit t, rest)

def blockScalar (sc : Scanner) (folded : Bool) (rest : List Spot) :
    Option (Scanner × List Spot) := do
  let sc ← sc.dropKey
  let (text, rest) ← blockText folded sc.columns.head? rest
  some ((sc.allowKey true).emit (.scalar (if folded then .folded else .literal) text), rest)

def plainScalar (sc : Scanner) (s : Spot) (rest : List Spot) : Option (Scanner × List Spot) := do
  let sc ← sc.saveKey s
  let indent := (sc.columns.head?.map (· + 1)).getD 0
  let (text, ended, rest) ← plainText sc.inFlow indent [] (s :: rest)
  some ((sc.allowKey ended).emit (.scalar .plain (String.ofList text)), rest)

/-- Characters that a plain scalar does not start with, at least not before a
blank. -/
def isIndicator (c : Char) : Bool :=
  isFlowIndicator c || "\t-?:#&*!|>\x27\x22%@\x60".toList.contains c

/-- A plain scalar may start with `-`, and outside of flow collections with `?` and
`:`, if it goes on at once. -/
def startsPlain (inFlow : Bool) (c : Char) (rest : List Spot) : Bool :=
  !isIndicator c || (c == '-' && !rest.head?.any Spot.isBlank) ||
    (!inFlow && (c == '?' || c == ':') && !endsWord rest)

/-- The token that starts at `s`. -/
def step (sc : Scanner) (s : Spot) (rest : List Spot) : Option (Scanner × List Spot) :=
  let sc := sc.closeTo s.column
  let single := fun (next : Option Scanner) => next.map fun sc => (sc, rest)
  let quoted := fun (read : Option (List Char × List Spot)) => sc.keyWord s <|
    read.map fun (text, rest) => (Token.scalar .quoted (String.ofList text), rest)
  let indicator := sc.inFlow || endsWord rest
  if s.column == 0 && s.char == '%' then sc.directive rest
  else if isRule '-' (s :: rest) then sc.documentMark .documentStart rest
  else if isRule '.' (s :: rest) then sc.documentMark .documentEnd rest
  else if s.char == '[' then single (sc.openFlow s .openSequence)
  else if s.char == '{' then single (sc.openFlow s .openMapping)
  else if s.char == ']' then single (sc.closeFlow .closeSequence)
  else if s.char == '}' then single (sc.closeFlow .closeMapping)
  else if s.char == ',' then single sc.comma
  else if s.char == '-' && endsWord rest then single (sc.dash s)
  else if s.char == '?' && indicator then single (sc.markedKey s)
  else if s.char == ':' && indicator then single (sc.colon s)
  else if s.char == '*' then
    sc.keyWord s ((anchorName rest).map fun (name, rest) => (.alias name, rest))
  else if s.char == '&' then
    sc.keyWord s ((anchorName rest).map fun (name, rest) => (.anchor name, rest))
  else if s.char == '!' then sc.keyWord s (tagParts sc.inFlow rest)
  else if s.char == '|' && !sc.inFlow then sc.blockScalar false rest
  else if s.char == '>' && !sc.inFlow then sc.blockScalar true rest
  else if s.char == '\'' then quoted (singleQuoted [] rest)
  else if s.char == '"' then quoted (doubleQuoted false [] rest)
  else if startsPlain sc.inFlow s.char rest then sc.plainScalar s rest
  else none

/-- Goes over blanks, comments and the ends of lines. Tabs are no indentation, and
outside of flow collections a new line may start with a key. -/
def skipGap (inFlow keyAllowed comment : Bool) : List Spot → Bool × List Spot
  | [] => (keyAllowed, [])
  | s :: rest =>
    if s.isBreak then skipGap inFlow (keyAllowed || !inFlow) false rest
    else if comment || s.char == '#' then skipGap inFlow keyAllowed true rest
    else if s.char == ' ' || (s.char == '\t' && (inFlow || !keyAllowed)) then
      skipGap inFlow keyAllowed false rest
    else (keyAllowed, s :: rest)

/-- All tokens of a page. Each takes at least one character, which bounds the scan. -/
def run (sc : Scanner) (spots : List Spot) : Option (List Token) :=
  let (keyAllowed, rest) := skipGap sc.inFlow sc.keyAllowed false spots
  match rest with
  | [] => sc.closeAll.dropKey.map (·.tokens.toList)
  | s :: rest =>
    match (sc.allowKey keyAllowed).step s rest with
    | none => none
    | some (sc, after) => if after.length < spots.length then run sc after else none
termination_by spots.length

end Scanner

/-- The tokens of a text, if it is made of tokens. -/
def tokens? (text : String) : Option (List Token) := (page? text).bind Scanner.start.run

end Sift.Yaml
