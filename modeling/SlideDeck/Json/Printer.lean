/-
Writing JSON values as text.

A value is written without blanks.  In strings, quotes, backslashes and control characters
are escaped and everything else stands for itself.
-/
import SlideDeck.Decimal.Shortest
import SlideDeck.Json.Basic

namespace SlideDeck.Json

/-- The digit of a value below sixteen. -/
def hexDigit (n : Nat) : Char := Char.ofNat (if n < 10 then 48 + n else 87 + n)

/-- A character as it is written in a string. -/
def escape (c : Char) : List Char :=
  if c == '"' then ['\\', '"']
  else if c == '\\' then ['\\', '\\']
  else if c == '\n' then ['\\', 'n']
  else if c == '\r' then ['\\', 'r']
  else if c == '\t' then ['\\', 't']
  else if c.toNat < 0x20 then
    ['\\', 'u', '0', '0', hexDigit (c.toNat / 16), hexDigit (c.toNat % 16)]
  else [c]

/-- A string in quotes. -/
def quote (s : String) : String := "\"" ++ String.ofList (s.toList.flatMap escape) ++ "\""

/-- A number. -/
def Number.render : Number → String
  | natural n => toString n
  | negative n => "-" ++ toString n
  | double x => Decimal.renderDouble x
  | single x => Decimal.renderSingle x

mutual

/-- The text of a value. -/
def render : Json → String
  | null => "null"
  | bool b => if b then "true" else "false"
  | number n => n.render
  | string s => quote s
  | array xs => "[" ++ String.intercalate "," (renderList xs) ++ "]"
  | object fields => "\x7b" ++ String.intercalate "," (renderFields fields) ++ "\x7d"

/-- The texts of some values. -/
def renderList : List Json → List String
  | [] => []
  | x :: xs => x.render :: renderList xs

/-- The texts of some fields. -/
def renderFields : List (String × Json) → List String
  | [] => []
  | (name, x) :: xs => (quote name ++ ":" ++ x.render) :: renderFields xs

end

end SlideDeck.Json
