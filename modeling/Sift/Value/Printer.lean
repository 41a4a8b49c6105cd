import Sift.Number.Layout
import Sift.Value.Basic

/-! The written form of values: on one line without blanks, or over several lines
with two blanks of indentation to a level. -/
namespace Sift.Value

open Number

/-- A digit of a character's number in base sixteen. -/
def hexDigit (n : Nat) : Char := "0123456789abcdef".toList.getD n '0'

/-- How a character stands inside a quoted text. -/
def escapeChar (c : Char) : List Char :=
  match c with
  | '"' => ['\\', '"']
  | '\\' => ['\\', '\\']
  | '\n' => ['\\', 'n']
  | '\r' => ['\\', 'r']
  | '\t' => ['\\', 't']
  | c =>
    if c.toNat = 8 then ['\\', 'b']
    else if c.toNat = 12 then ['\\', 'f']
    else if c.toNat < 32 then
      ['\\', 'u', '0', '0', hexDigit (c.toNat / 16), hexDigit (c.toNat % 16)]
    else [c]

def quote (s : String) : String :=
  "\"" ++ String.ofList (s.toList.flatMap escapeChar) ++ "\""

/-- A value without parts. There is no written form of the numbers that are not
finite, so null stands for them. -/
def scalar : Value → String
  | .null => "null"
  | .bool b => if b then "true" else "false"
  | .int n => toString n
  | .float x => if x.isFinite then documentLayout.write x else "null"
  | .text s => quote s
  | .array _ => "[]"
  | .object _ => "\x7b\x7d"

/-! ### One line -/

mutual

def compact : Value → String
  | .array items => "[" ++ compactItems items ++ "]"
  | .object members => "\x7b" ++ compactMembers members ++ "\x7d"
  | v => scalar v
termination_by structural v => v

def compactItems : List Value → String
  | [] => ""
  | [v] => compact v
  | v :: rest => compact v ++ "," ++ compactItems rest
termination_by structural vs => vs

def compactMembers : List (String × Value) → String
  | [] => ""
  | [(name, v)] => quote name ++ ":" ++ compact v
  | (name, v) :: rest => quote name ++ ":" ++ compact v ++ "," ++ compactMembers rest
termination_by structural ms => ms

end

/-! ### Several lines -/

def indent (level : Nat) : String := "\n" ++ String.ofList (List.replicate (2 * level) ' ')

mutual

def prettyAt (level : Nat) : Value → String
  | .array [] => "[]"
  | .object [] => "\x7b\x7d"
  | .array items => "[" ++ prettyItems (level + 1) items ++ indent level ++ "]"
  | .object members => "\x7b" ++ prettyMembers (level + 1) members ++ indent level ++ "\x7d"
  | v => scalar v
termination_by structural v => v

def prettyItems (level : Nat) : List Value → String
  | [] => ""
  | [v] => indent level ++ prettyAt level v
  | v :: rest => indent level ++ prettyAt level v ++ "," ++ prettyItems level rest
termination_by structural vs => vs

def prettyMembers (level : Nat) : List (String × Value) → String
  | [] => ""
  | [(name, v)] => indent level ++ quote name ++ ": " ++ prettyAt level v
  | (name, v) :: rest =>
    indent level ++ quote name ++ ": " ++ prettyAt level v ++ "," ++ prettyMembers level rest
termination_by structural ms => ms

end

def pretty (v : Value) : String := prettyAt 0 v

end Sift.Value
