/-
Reading JSON text.

The grammar is the strict one: no comments, no trailing commas, no bare names, and nothing
but blanks after the value.  Values may nest a hundred and twenty-seven deep.
-/
import SlideDeck.Json.Numeral

namespace SlideDeck.Json

open SlideDeck.Text (hexDigit?)

/-- How deep values may nest. -/
def maxDepth : Nat := 127

/-- A blank of JSON. -/
def isBlank (c : Char) : Bool := c == ' ' || c == '\n' || c == '\r' || c == '\t'

/-- The text after the blanks at its start. -/
def skipBlanks (s : List Char) : List Char := s.dropWhile isBlank

/-! ### Strings -/

/-- The code unit written by four hexadecimal digits. -/
def codeUnit? : List Char → Option (Nat × List Char)
  | a :: b :: c :: d :: rest => do
    let a ← hexDigit? a
    let b ← hexDigit? b
    let c ← hexDigit? c
    let d ← hexDigit? d
    some (a * 4096 + b * 256 + c * 16 + d, rest)
  | _ => none

/-- The character written after `\u`: one code unit, or the two halves of a pair. -/
def unicodeEscape? (s : List Char) : Option (Char × List Char) :=
  match codeUnit? s with
  | none => none
  | some (high, rest) =>
    if high < 0xD800 || 0xE000 ≤ high then some (Char.ofNat high, rest)
    else if 0xDC00 ≤ high then none
    else match rest with
      | '\\' :: 'u' :: rest =>
        match codeUnit? rest with
        | none => none
        | some (low, rest) =>
          if 0xDC00 ≤ low && low < 0xE000 then
            some (Char.ofNat (0x10000 + (high - 0xD800) * 1024 + (low - 0xDC00)), rest)
          else none
      | _ => none

/-- The character written after a backslash by a single letter. -/
def simpleEscape? (c : Char) : Option Char :=
  if c == '"' || c == '\\' || c == '/' then some c
  else if c == 'b' then some '\x08'
  else if c == 'f' then some '\x0c'
  else if c == 'n' then some '\n'
  else if c == 'r' then some '\r'
  else if c == 't' then some '\t'
  else none

/-- The rest of a string after its opening quote.  The bound is the length of the text. -/
def stringRest? : Nat → List Char → Option (List Char × List Char)
  | 0, _ => none
  | _, [] => none
  | fuel + 1, c :: s =>
    let add (found : Char × List Char) : Option (List Char × List Char) :=
      (stringRest? fuel found.2).map fun (text, rest) => (found.1 :: text, rest)
    if c == '"' then some ([], s)
    else if c == '\\' then
      match s with
      | 'u' :: s => (unicodeEscape? s).bind add
      | d :: s => (simpleEscape? d).bind fun d => add (d, s)
      | [] => none
    else if c.toNat < 0x20 then none
    else add (c, s)

/-- The string after an opening quote. -/
def string? (s : List Char) : Option (String × List Char) :=
  (stringRest? (s.length + 1) s).map fun (text, rest) => (String.ofList text, rest)

/-! ### Numbers -/

/-- The exponent of a numeral, if it has one; a letter without digits is an error. -/
def exponent? (s : List Char) : Option (Option (Bool × List Char) × List Char) :=
  match s with
  | c :: rest =>
    if c == 'e' || c == 'E' then
      let (down, rest) :=
        match rest with
        | '+' :: rest => (false, rest)
        | '-' :: rest => (true, rest)
        | rest => (false, rest)
      match rest.takeWhile Char.isDigit with
      | [] => none
      | digits => some (some (down, digits), rest.dropWhile Char.isDigit)
    else some (none, s)
  | [] => some (none, s)

/-- The fraction of a numeral, if it has one; a point without digits is an error. -/
def fraction? (s : List Char) : Option (Option (List Char) × List Char) :=
  match s with
  | '.' :: rest =>
    match rest.takeWhile Char.isDigit with
    | [] => none
    | digits => some (some digits, rest.dropWhile Char.isDigit)
  | _ => some (none, s)

/-- The digits of a numeral before its point.  Only a zero alone begins with a zero. -/
def whole? (s : List Char) : Option (List Char × List Char) :=
  let rest := s.dropWhile Char.isDigit
  match s.takeWhile Char.isDigit with
  | [] => none
  | '0' :: _ :: _ => none
  | digits => some (digits, rest)

/-- The number at the start of a text. -/
def number? (s : List Char) : Option (Number × List Char) :=
  let (negative, s) :=
    match s with
    | '-' :: s => (true, s)
    | s => (false, s)
  match whole? s with
  | none => none
  | some (whole, s) =>
    match fraction? s with
    | none => none
    | some (fraction, s) =>
      (exponent? s).map fun (exponent, s) => (Numeral.value ⟨negative, whole, fraction, exponent⟩, s)

/-! ### Values -/

/-- The value at the start of a text is the word `w`. -/
def word? (w : List Char) (j : Json) (s : List Char) : Option (Json × List Char) :=
  if s.take w.length == w then some (j, s.drop w.length) else none

mutual

/-- The value at the start of a text, with what follows it.  `depth` bounds nesting; the other
bound is never reached, since each step uses up a character. -/
def value? : Nat → Nat → List Char → Option (Json × List Char)
  | 0, _, _ => none
  | fuel + 1, depth, s =>
    match skipBlanks s with
    | [] => none
    | c :: s =>
      if c == '"' then (string? s).map fun (text, rest) => (string text, rest)
      else if c == '[' then
        match depth, skipBlanks s with
        | 0, _ => none
        | _ + 1, ']' :: rest => some (array [], rest)
        | depth + 1, s => (elements? fuel depth s).map fun (xs, rest) => (array xs, rest)
      else if c == '\x7b' then
        match depth, skipBlanks s with
        | 0, _ => none
        | _ + 1, '\x7d' :: rest => some (object [], rest)
        | depth + 1, s => (members? fuel depth s).map fun (fields, rest) => (object fields, rest)
      else if c == 'n' then word? "null".toList null (c :: s)
      else if c == 't' then word? "true".toList (bool true) (c :: s)
      else if c == 'f' then word? "false".toList (bool false) (c :: s)
      else (number? (c :: s)).map fun (n, rest) => (number n, rest)

/-- The elements of an array from its first one on. -/
def elements? : Nat → Nat → List Char → Option (List Json × List Char)
  | 0, _, _ => none
  | fuel + 1, depth, s =>
    match value? fuel depth s with
    | none => none
    | some (x, s) =>
      match skipBlanks s with
      | ']' :: rest => some ([x], rest)
      | ',' :: rest => (elements? fuel depth rest).map fun (xs, rest) => (x :: xs, rest)
      | _ => none

/-- The fields of an object from its first one on. -/
def members? : Nat → Nat → List Char → Option (List (String × Json) × List Char)
  | 0, _, _ => none
  | fuel + 1, depth, s =>
    match skipBlanks s with
    | '"' :: s =>
      match string? s with
      | none => none
      | some (name, s) =>
        match skipBlanks s with
        | ':' :: s =>
          match value? fuel depth s with
          | none => none
          | some (x, s) =>
            match skipBlanks s with
            | '\x7d' :: rest => some ([(name, x)], rest)
            | ',' :: rest =>
              (members? fuel depth rest).map fun (fields, rest) => ((name, x) :: fields, rest)
            | _ => none
        | _ => none
    | _ => none

end

/-- The value that a text holds, if it is JSON. -/
def parse? (text : String) : Option Json :=
  let s := text.toList
  match value? (s.length + 1) maxDepth s with
  | none => none
  | some (j, rest) => if (skipBlanks rest).isEmpty then some j else none

end SlideDeck.Json
