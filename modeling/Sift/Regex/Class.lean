import Sift.Text.Blank
import Sift.Text.Script
import Sift.Text.CaseOrbit
import Sift.Regex.Basic

/-! Classes of characters in regular expressions: the named ones, and the classes
of the Unicode standard under their short and long names. -/
namespace Sift.Regex

open Text

/-- The settings that decide how a piece of an expression is read. -/
structure Flags where
  insensitive : Bool
  multiLine : Bool
  dotAll : Bool
  extended : Bool
  crlf : Bool
  unicode : Bool

/-- A class of characters, together with a list of them if that is short and known. -/
structure Class where
  accept : Char → Bool
  listed : Option (List Char)

namespace Class

/-- The most characters that are listed. -/
def longestList : Nat := 10

def shortList (cs : List Char) : Option (List Char) :=
  if cs.length ≤ longestList then some cs else none

/-- A class that is given by its test alone. -/
def ofTest (accept : Char → Bool) : Class := ⟨accept, none⟩

def empty : Class := ⟨fun _ => false, some []⟩

def isAscii (c : Char) : Bool := c.toNat < 128

def variants (flags : Flags) (c : Char) : List Char :=
  if flags.unicode then caseOrbit c else [c, c.toLower, c.toUpper].eraseDups

/-- The class with all case variants of its characters, where case does not count. -/
def withCase (flags : Flags) (s : Class) : Class :=
  if flags.insensitive then
    ⟨fun c => (variants flags c).any s.accept,
      s.listed.bind fun cs => shortList (cs.flatMap (variants flags)).eraseDups⟩
  else s

def negate (negated : Bool) (s : Class) : Class :=
  if negated then ofTest fun c => !s.accept c else s

/-- The characters from `a` to `b`. -/
def range (a b : Char) : Class :=
  ⟨fun c => a ≤ c && c ≤ b,
    if b.toNat - a.toNat < longestList then
      some ((List.range (b.toNat - a.toNat + 1)).map fun i => Char.ofNat (a.toNat + i))
    else none⟩

/-- The one character, in any case where case does not count. -/
def single (flags : Flags) (c : Char) : Class := withCase flags (range c c)

def union (a b : Class) : Class :=
  ⟨fun c => a.accept c || b.accept c,
    match a.listed, b.listed with
    | some as, some bs => shortList (as ++ bs).eraseDups
    | _, _ => none⟩

end Class

/-! ### Named classes -/

/-- Digits, white space and word characters. -/
def wordTest (unicode : Bool) : Char → Bool :=
  if unicode then isWordChar else fun c => c.isAlphanum || c == '_'

def digitTest (unicode : Bool) : Char → Bool :=
  if unicode then fun c => category c == .nd else Char.isDigit

def spaceTest (unicode : Bool) : Char → Bool :=
  if unicode then isBlank else fun c => isBlank c && Class.isAscii c

/-- The classes that are written `[:name:]` and hold ASCII characters only. -/
def asciiTest? : String → Option (Char → Bool)
  | "alnum" => some Char.isAlphanum
  | "alpha" => some Char.isAlpha
  | "ascii" => some Class.isAscii
  | "blank" => some fun c => c == ' ' || c == '\t'
  | "cntrl" => some fun c => c.toNat < 32 || c.toNat == 127
  | "digit" => some Char.isDigit
  | "graph" => some fun c => 33 ≤ c.toNat && c.toNat ≤ 126
  | "lower" => some Char.isLower
  | "print" => some fun c => 32 ≤ c.toNat && c.toNat ≤ 126
  | "punct" => some fun c => 33 ≤ c.toNat && c.toNat ≤ 126 && !c.isAlphanum
  | "space" => some fun c => isBlank c && Class.isAscii c
  | "upper" => some Char.isUpper
  | "word" => some fun c => c.isAlphanum || c == '_'
  | "xdigit" => some fun c =>
      c.isDigit || ('a' ≤ c && c ≤ 'f') || ('A' ≤ c && c ≤ 'F')
  | _ => none

/-! ### Classes of the Unicode standard -/

/-- The categories with this name, short or long, in lower case without separators. -/
def categories? : String → Option (List Category)
  | "c" | "other" => some [.cc, .cf, .cs, .co, .cn]
  | "cc" | "control" | "cntrl" => some [.cc]
  | "cf" | "format" => some [.cf]
  | "cn" | "unassigned" => some [.cn]
  | "co" | "privateuse" => some [.co]
  | "cs" | "surrogate" => some [.cs]
  | "l" | "letter" => some [.lu, .ll, .lt, .lm, .lo]
  | "lc" | "casedletter" => some [.lu, .ll, .lt]
  | "ll" | "lowercaseletter" => some [.ll]
  | "lm" | "modifierletter" => some [.lm]
  | "lo" | "otherletter" => some [.lo]
  | "lt" | "titlecaseletter" => some [.lt]
  | "lu" | "uppercaseletter" => some [.lu]
  | "m" | "mark" | "combiningmark" => some [.mn, .mc, .me]
  | "mc" | "spacingmark" => some [.mc]
  | "me" | "enclosingmark" => some [.me]
  | "mn" | "nonspacingmark" => some [.mn]
  | "n" | "number" => some [.nd, .nl, .no]
  | "nd" | "decimalnumber" | "digit" => some [.nd]
  | "nl" | "letternumber" => some [.nl]
  | "no" | "othernumber" => some [.no]
  | "p" | "punctuation" | "punct" => some [.pc, .pd, .ps, .pe, .pi, .pf, .po]
  | "pc" | "connectorpunctuation" => some [.pc]
  | "pd" | "dashpunctuation" => some [.pd]
  | "pe" | "closepunctuation" => some [.pe]
  | "pf" | "finalpunctuation" => some [.pf]
  | "pi" | "initialpunctuation" => some [.pi]
  | "po" | "otherpunctuation" => some [.po]
  | "ps" | "openpunctuation" => some [.ps]
  | "s" | "symbol" => some [.sm, .sc, .sk, .so]
  | "sc" | "currencysymbol" => some [.sc]
  | "sk" | "modifiersymbol" => some [.sk]
  | "sm" | "mathsymbol" => some [.sm]
  | "so" | "othersymbol" => some [.so]
  | "z" | "separator" => some [.zs, .zl, .zp]
  | "zl" | "lineseparator" => some [.zl]
  | "zp" | "paragraphseparator" => some [.zp]
  | "zs" | "spaceseparator" => some [.zs]
  | _ => none

/-- The properties of characters that are neither categories nor scripts. -/
def property? : String → Option (Char → Bool)
  | "any" => some fun _ => true
  | "assigned" => some fun c => category c != .cn
  | "ascii" => some Class.isAscii
  | "alphabetic" | "alpha" => some isLetter
  | "lowercase" | "lower" => some isLowercase
  | "uppercase" | "upper" => some isUppercase
  | "whitespace" | "wspace" | "space" => some isBlank
  | "joincontrol" | "joinc" => some fun c => c == '\u200c' || c == '\u200d'
  | _ => none

/-- A name of the standard in lower case without separators, and without the word
`is` in front. -/
def plainPropertyName (name : String) : String :=
  let cs := (name.toList.filter fun c => !(c == ' ' || c == '_' || c == '-')).map Char.toLower
  match cs with
  | 'i' :: 's' :: rest => String.ofList (if rest = ['c'] then cs else rest)
  | _ => String.ofList cs

def category? (name : String) : Option (Char → Bool) :=
  (categories? name).map fun cats c => cats.contains (category c)

/-- The class that a name stands for: a property, a category or a script. -/
def unicodeTest? (name : String) : Option (Char → Bool) :=
  let name := plainPropertyName name
  (property? name).or ((category? name).or ((script? name).map fun s => s.contains))

/-- The class of the characters whose property `key` has this value. -/
def unicodeValue? (key value : String) : Option (Char → Bool) :=
  let key := plainPropertyName key
  let value := plainPropertyName value
  if key == "gc" || key == "generalcategory" then (category? value)
  else if key == "sc" || key == "script" || key == "scx" || key == "scriptextensions" then
    (script? value).map fun s => s.contains
  else none

end Sift.Regex
