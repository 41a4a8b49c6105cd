import Sift.Regex.Class
import Sift.Text.Integer

/-! Reading regular expressions.

The notation has groups, alternatives, repetitions, classes with nesting and set
operations, named classes, anchors, word boundaries and flags; it has neither
look-around nor references back to groups, which are errors. The expression is
read from left to right, one element at a step, with the groups that are open
kept on a stack. -/
namespace Sift.Regex

open Text

/-! ### Numbers and escapes -/

def hexValue? (c : Char) : Option Nat :=
  if c.isDigit then some (c.toNat - 48)
  else if 'a' ≤ c && c ≤ 'f' then some (c.toNat - 87)
  else if 'A' ≤ c && c ≤ 'F' then some (c.toNat - 55)
  else none

/-- The character with this number in base sixteen, if there is one. -/
def hexChar? (digits : List Char) : Option Char := do
  let values ← digits.mapM hexValue?
  let n := values.foldl (fun n v => 16 * n + v) 0
  if values.isEmpty then none
  else if n < 0xD800 ∨ (0xDFFF < n ∧ n < 0x110000) then some (Char.ofNat n)
  else none

/-- A character by its number: in braces, or as exactly `count` digits. -/
def readHex (count : Nat) : List Char → Option (Char × List Char)
  | '{' :: rest =>
    match rest.dropWhile (· != '}') with
    | '}' :: after => (hexChar? (rest.takeWhile (· != '}'))).map (·, after)
    | _ => none
  | rest =>
    if rest.length < count then none
    else (hexChar? (rest.take count)).map (·, rest.drop count)

/-- What an escape stands for. -/
inductive Escape where
  | char (c : Char)
  | set (s : Class)
  | look (l : Look)

/-- A class of the standard, after `\p` or `\P`. -/
def readUnicode (flags : Flags) (negated : Bool) : List Char → Option (Escape × List Char)
  | '{' :: rest =>
    match rest.dropWhile (· != '}') with
    | '}' :: after =>
      let name := rest.takeWhile (· != '}')
      let s : Option (Char → Bool) := match splitOnUnequal name with
        | some (key, value) =>
          (unicodeValue? (String.ofList key) (String.ofList value)).map
            fun (t : Char → Bool) c => !t c
        | none =>
          let key := name.takeWhile fun c => c != '=' && c != ':'
          match name.dropWhile fun c => c != '=' && c != ':' with
          | _ :: value => unicodeValue? (String.ofList key) (String.ofList value)
          | [] => unicodeTest? (String.ofList name)
      s.bind fun s =>
        if flags.unicode then
          some (.set (Class.negate negated (Class.withCase flags (.ofTest s))), after)
        else none
    | _ => none
  | c :: after =>
    if flags.unicode then
      (unicodeTest? (String.singleton c)).map fun s =>
        (.set (Class.negate negated (Class.withCase flags (.ofTest s))), after)
    else none
  | [] => none
where
  splitOnUnequal : List Char → Option (List Char × List Char)
    | '!' :: '=' :: rest => some ([], rest)
    | c :: rest => (splitOnUnequal rest).map fun (k, v) => (c :: k, v)
    | [] => none

/-- A named class; without Unicode its complement has no meaning. -/
def namedEscape (flags : Flags) (negated : Bool) (test : Bool → Char → Bool)
    (rest : List Char) : Option (Escape × List Char) :=
  if negated && !flags.unicode then none
  else some (.set (Class.negate negated (.ofTest (test flags.unicode))), rest)

/-- The boundary that a name in braces picks, after `\b`. -/
def readBoundary : List Char → Look × List Char
  | '{' :: rest =>
    let name := String.ofList (rest.takeWhile (· != '}'))
    let after := (rest.dropWhile (· != '}')).drop 1
    match name with
    | "start" => (.wordStart, after)
    | "end" => (.wordEnd, after)
    | "start-half" => (.wordStartHalf, after)
    | "end-half" => (.wordEndHalf, after)
    | _ => (.boundary, '{' :: rest)
  | rest => (.boundary, rest)

/-- An escape, from the character behind its backslash on. -/
def readEscape (flags : Flags) : List Char → Option (Escape × List Char)
  | [] => none
  | c :: rest =>
    match c with
    | 'x' => (readHex 2 rest).map fun (c, r) => (.char c, r)
    | 'u' => (readHex 4 rest).map fun (c, r) => (.char c, r)
    | 'U' => (readHex 8 rest).map fun (c, r) => (.char c, r)
    | 'p' => readUnicode flags false rest
    | 'P' => readUnicode flags true rest
    | 'd' => namedEscape flags false digitTest rest
    | 'D' => namedEscape flags true digitTest rest
    | 's' => namedEscape flags false spaceTest rest
    | 'S' => namedEscape flags true spaceTest rest
    | 'w' => namedEscape flags false wordTest rest
    | 'W' => namedEscape flags true wordTest rest
    | 'a' => some (.char '\x07', rest)
    | 'f' => some (.char '\x0c', rest)
    | 't' => some (.char '\t', rest)
    | 'n' => some (.char '\n', rest)
    | 'r' => some (.char '\r', rest)
    | 'v' => some (.char '\x0b', rest)
    | 'A' => some (.look .textStart, rest)
    | 'z' => some (.look .textEnd, rest)
    | 'b' => let (l, rest) := readBoundary rest; some (.look l, rest)
    | 'B' => some (.look .notBoundary, rest)
    | '<' => some (.look .wordStart, rest)
    | '>' => some (.look .wordEnd, rest)
    | c => if Class.isAscii c && !c.isAlphanum then some (.char c, rest) else none

/-! ### Classes in brackets -/

/-- Blanks and comments, which mean nothing in extended notation. -/
def skipExtended (flags : Flags) (inComment : Bool) : List Char → List Char
  | [] => []
  | c :: rest =>
    if !flags.extended then c :: rest
    else if inComment then skipExtended flags (c != '\n') rest
    else if isBlank c then skipExtended flags false rest
    else if c = '#' then skipExtended flags true rest
    else c :: rest

inductive SetOperator where
  | both | without | either
  deriving DecidableEq

def SetOperator.apply (flags : Flags) (op : SetOperator) (a b : Class) : Class :=
  let a := Class.withCase flags a
  let b := Class.withCase flags b
  .ofTest fun c =>
    match op with
    | .both => a.accept c && b.accept c
    | .without => a.accept c && !b.accept c
    | .either => a.accept c != b.accept c

/-- A class that is open: what it holds so far, the operation that waits for its
right side, and whether it is negated. -/
structure OpenClass where
  negated : Bool
  pending : Option (SetOperator × Class)
  items : Class

def OpenClass.add (o : OpenClass) (s : Class) : OpenClass :=
  { o with items := o.items.union s }

/-- The class on which the operators so far agree. -/
def OpenClass.folded (flags : Flags) (o : OpenClass) : Class :=
  match o.pending with
  | none => o.items
  | some (op, left) => op.apply flags left o.items

/-- The class behind an operator, whose right side is still to come. -/
def OpenClass.await (flags : Flags) (op : SetOperator) (o : OpenClass) : OpenClass :=
  ⟨o.negated, some (op, o.folded flags), .empty⟩

/-- The class as it is once it is closed. -/
def OpenClass.close (flags : Flags) (o : OpenClass) : Class :=
  Class.negate o.negated (Class.withCase flags (o.folded flags))

/-- What a class starts with: a negation, then hyphens, then a bracket, which
stand for themselves there. -/
def openClass (flags : Flags) (rest : List Char) : OpenClass × List Char :=
  let rest := skipExtended flags false rest
  let (negated, rest) :=
    match rest with
    | '^' :: rest => (true, skipExtended flags false rest)
    | _ => (false, rest)
  let hyphens := rest.takeWhile (· == '-')
  let rest := rest.dropWhile (· == '-')
  let start : OpenClass := ⟨negated, none, if hyphens.isEmpty then .empty else .range '-' '-'⟩
  match rest with
  | ']' :: after => if hyphens.isEmpty then (start.add (.range ']' ']'), after) else (start, rest)
  | _ => (start, rest)

/-- One side of a range, or an item of its own. -/
def classItem (flags : Flags) : List Char → Option (Escape × List Char)
  | '\\' :: rest => readEscape flags rest
  | c :: rest => some (.char c, rest)
  | [] => none

/-- A named class in a bracket, after its `[`. -/
def namedClass? (flags : Flags) : List Char → Option (Class × List Char)
  | ':' :: rest =>
    let (negated, rest) :=
      match rest with
      | '^' :: rest => (true, rest)
      | _ => (false, rest)
    match rest.dropWhile (· != ':') with
    | ':' :: ']' :: after =>
      (asciiTest? (String.ofList (rest.takeWhile (· != ':')))).map fun s =>
        (Class.negate negated (Class.withCase flags (.ofTest s)), after)
    | _ => none
  | _ => none

/-- An item or a range. -/
def classRange (flags : Flags) (rest : List Char) : Option (Class × List Char) := do
  let (first, rest) ← classItem flags rest
  let rest := skipExtended flags false rest
  let alone : Option (Class × List Char) :=
    match first with
    | .char c => some (.range c c, rest)
    | .set s => some (s, rest)
    | .look _ => none
  match rest with
  | [] => none
  | '-' :: more =>
    match skipExtended flags false more with
    | [] => if more.isEmpty then none else alone
    | ']' :: _ => alone
    | '-' :: _ => alone
    | more =>
      let (last, rest) ← classItem flags more
      match first, last with
      | .char a, .char b => if a ≤ b then some (.range a b, rest) else none
      | _, _ => none
  | _ => alone

/-- The rest of a class, with the classes around it, innermost first. Each of the
`fuel` steps takes up at least one character. -/
def readClass (flags : Flags) : Nat → List OpenClass → List Char → Option (Class × List Char)
  | 0, _, _ => none
  | _, [], _ => none
  | fuel + 1, top :: outer, rest =>
    match skipExtended flags false rest with
    | [] => none
    | ']' :: rest =>
      let s := top.close flags
      match outer with
      | [] => some (s, rest)
      | next :: outer => readClass flags fuel (next.add s :: outer) rest
    | '[' :: rest =>
      match namedClass? flags rest with
      | some (s, rest) => readClass flags fuel (top.add s :: outer) rest
      | none =>
        let (inner, rest) := openClass flags rest
        readClass flags fuel (inner :: top :: outer) rest
    | '&' :: '&' :: rest => readClass flags fuel (top.await flags .both :: outer) rest
    | '-' :: '-' :: rest => readClass flags fuel (top.await flags .without :: outer) rest
    | '~' :: '~' :: rest => readClass flags fuel (top.await flags .either :: outer) rest
    | rest => do
      let (s, rest) ← classRange flags rest
      readClass flags fuel (top.add s :: outer) rest

/-! ### Groups and repetitions -/

/-- A group that is open: its finished alternatives, the elements of the current
one, the last first, and the flags in force. An element may be the setting of a
flag, which cannot be repeated. -/
structure Group where
  alternatives : List Regex
  elements : List (Option Regex)
  flags : Flags

def sequence (elements : List (Option Regex)) : Regex :=
  (elements.filterMap id).foldl (fun rest r => .seq r rest) .empty

/-- The alternatives of a group as one expression. -/
def Group.close (g : Group) : Regex :=
  g.alternatives.foldl (fun rest a => .alt a rest) (sequence g.elements)

def Group.add (g : Group) (r : Regex) : Group := { g with elements := some r :: g.elements }

/-- Repeats the last element, if there is one to repeat. -/
def Group.repeat (g : Group) (least : Nat) (most : Option Nat) : Option Group :=
  match g.elements with
  | some r :: before => some { g with elements := some (.times r least most) :: before }
  | _ => none

/-- A repetition may be followed by a mark for taking as little as possible. -/
def dropLazy : List Char → List Char
  | '?' :: rest => rest
  | rest => rest

/-- A count in a repetition, with white space around it. -/
def readCount (rest : List Char) : Option (Nat × List Char) := do
  let rest := rest.dropWhile isBlank
  let n ← readNat? (rest.takeWhile Char.isDigit)
  if 0x100000000 ≤ n then none
  else some (n, (rest.dropWhile Char.isDigit).dropWhile isBlank)

/-- The counts of a repetition in braces. -/
def readCounts (flags : Flags) (rest : List Char) : Option (Nat × Option Nat × List Char) := do
  let (least, rest) ← readCount (skipExtended flags false rest)
  match rest with
  | '}' :: rest => some (least, some least, rest)
  | ',' :: rest =>
    match skipExtended flags false rest with
    | '}' :: rest => some (least, none, rest)
    | rest =>
      let (most, rest) ← readCount rest
      match rest with
      | '}' :: rest => if least ≤ most then some (least, some most, rest) else none
      | _ => none
  | _ => none

/-- Sets or clears one flag. -/
def Flags.set (flags : Flags) (c : Char) (on : Bool) : Option Flags :=
  match c with
  | 'i' => some { flags with insensitive := on }
  | 'm' => some { flags with multiLine := on }
  | 's' => some { flags with dotAll := on }
  | 'x' => some { flags with extended := on }
  | 'R' => some { flags with crlf := on }
  | 'u' => some { flags with unicode := on }
  | 'U' => some flags
  | _ => none

/-- Flags up to a colon or a closing parenthesis, each at most once. A minus
turns those after it off and has one after it. The result says whether any flag
was there, and which character ended them. -/
def readFlags (seen : List Char) (off dangling : Bool) (flags : Flags) :
    List Char → Option (Flags × Bool × Char × List Char)
  | [] => none
  | c :: rest =>
    if c = ':' ∨ c = ')' then
      if dangling then none else some (flags, !seen.isEmpty, c, rest)
    else if c = '-' then if off then none else readFlags seen true true flags rest
    else if seen.contains c then none
    else match flags.set c (!off) with
      | some flags => readFlags (c :: seen) off false flags rest
      | none => none

def isGroupNameChar (first : Bool) (c : Char) : Bool :=
  c == '_' || isLetter c ||
    (!first && (c == '.' || c == '[' || c == ']' || isNumeric c))

/-- The name of a group, up to its closing angle. -/
def readGroupName (rest : List Char) : Option (String × List Char) :=
  match rest.takeWhile (· != '>'), rest.dropWhile (· != '>') with
  | c :: name, '>' :: after =>
    if isGroupNameChar true c && name.all (isGroupNameChar false) then
      some (String.ofList (c :: name), after)
    else none
  | _, _ => none

/-- Where the reading of an expression stands. -/
structure Reading where
  group : Group
  outer : List Group
  /-- A group whose text could be asked for was met. -/
  captures : Bool
  names : List String
  rest : List Char

/-- How deep groups may be nested. -/
def nestingLimit : Nat := 250

/-- Opens a group with these flags inside. -/
def Reading.openGroup (r : Reading) (captures : Bool) (flags : Flags) (rest : List Char) :
    Option Reading :=
  if nestingLimit ≤ r.outer.length then none
  else
    some { r with
      group := ⟨[], [], flags⟩, outer := r.group :: r.outer
      captures := r.captures || captures, rest }

def Reading.namedGroup (r : Reading) (rest : List Char) : Option Reading := do
  let (name, rest) ← readGroupName rest
  if r.names.contains name then none
  else ({ r with names := name :: r.names }).openGroup true r.group.flags rest

/-- What follows an opening parenthesis. -/
def Reading.groupStep (r : Reading) (rest : List Char) : Option Reading :=
  match skipExtended r.group.flags false rest with
  | '?' :: '=' :: _ | '?' :: '!' :: _ => none
  | '?' :: '<' :: '=' :: _ | '?' :: '<' :: '!' :: _ => none
  | '?' :: 'P' :: '<' :: rest => r.namedGroup rest
  | '?' :: '<' :: rest => r.namedGroup rest
  | '?' :: rest => do
    let (flags, any, ending, rest) ← readFlags [] false false r.group.flags rest
    if ending = ':' then r.openGroup false flags rest
    else if !any then none
    else some { r with group := { r.group with elements := none :: r.group.elements, flags }, rest }
  | rest => r.openGroup true r.group.flags rest

def Reading.add (r : Reading) (element : Regex) (rest : List Char) : Reading :=
  { r with group := r.group.add element, rest }

def Reading.repeated (r : Reading) (least : Nat) (most : Option Nat) (rest : List Char) :
    Option Reading :=
  (r.group.repeat least most).map fun group => { r with group, rest := dropLazy rest }

/-- Any character but the ends of lines. -/
def anyChar (flags : Flags) : Class := .ofTest fun c =>
  flags.dotAll || (c != '\n' && !(flags.crlf && c == '\r'))

/-- An element that is one character of a class. -/
def Class.element (s : Class) : Regex := .chars s.accept s.listed

/-- The next element of an expression whose rest is `c :: rest`. -/
def Reading.step (r : Reading) (c : Char) (rest : List Char) : Option Reading :=
  let flags := r.group.flags
  let look := fun l rest => some (r.add (.look (wordTest flags.unicode) l) rest)
  match c with
  | '(' => r.groupStep rest
  | ')' =>
    match r.outer with
    | [] => none
    | g :: outer => some { r with group := g.add r.group.close, outer, rest }
  | '|' =>
    some { r with
      group := { r.group with
        alternatives := sequence r.group.elements :: r.group.alternatives, elements := [] }
      rest }
  | '[' => do
    let (o, rest) := openClass flags rest
    let (s, rest) ← readClass flags (rest.length + 1) [o] rest
    if !flags.unicode && o.negated then none else some (r.add s.element rest)
  | '?' => r.repeated 0 (some 1) rest
  | '*' => r.repeated 0 none rest
  | '+' => r.repeated 1 none rest
  | '{' =>
    match r.group.elements with
    | some _ :: _ => do
      let (least, most, rest) ← readCounts flags rest
      r.repeated least most rest
    | _ => none
  | '.' => if flags.unicode then some (r.add (anyChar flags).element rest) else none
  | '^' => look (if flags.multiLine then .lineStart flags.crlf else .textStart) rest
  | '$' => look (if flags.multiLine then .lineEnd flags.crlf else .textEnd) rest
  | '\\' => do
    let (escape, rest) ← readEscape flags rest
    match escape with
    | .char c => some (r.add (Class.single flags c).element rest)
    | .set s => some (r.add s.element rest)
    | .look l => if l = .notBoundary && !flags.unicode then none else look l rest
  | c => some (r.add (Class.single flags c).element rest)

/-- An expression as it was read, and whether it has groups whose text could be
asked for. -/
structure Reading.Result where
  regex : Regex
  captures : Bool

/-- Reads to the end. Each of the `fuel` steps takes up at least one character. -/
def readFrom : Nat → Reading → Option Reading.Result
  | 0, _ => none
  | fuel + 1, r =>
    match skipExtended r.group.flags false r.rest with
    | [] => if r.outer.isEmpty then some ⟨r.group.close, r.captures⟩ else none
    | c :: rest => (r.step c rest).bind (readFrom fuel)

/-- The expression that a text writes down, if it writes one. -/
def read? (pattern : String) (caseSensitive : Bool) : Option Reading.Result :=
  let cs := pattern.toList
  let flags : Flags := ⟨!caseSensitive, false, false, false, false, true⟩
  readFrom (cs.length + 1) ⟨⟨[], [], flags⟩, [], false, [], cs⟩

end Sift.Regex
