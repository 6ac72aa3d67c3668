/-
Reading attributes from the braces they are written in.

A group of attributes is a row of items with optional blanks between them.  A name made of
word characters and hyphens stands after a point for a class and after a number sign for
the id; before an equals sign it is a key, whose value is quoted or runs to the next blank
or quote.  A group counts only if it is items from end to end, so that braces in ordinary
prose are left alone.
-/
import SlideDeck.Attributes.Basic
import SlideDeck.Text.Blank
import SlideDeck.Text.Word

namespace SlideDeck.Attributes

open SlideDeck.Text

/-- A character of a class, an id or a key. -/
def isNameChar (c : Char) : Bool := isWord c || c == '-'

/-- A character of a value without quotes. -/
def isBareChar (c : Char) : Bool := !isBlank c && c != '"' && c != '\''

/-- One item of a group. -/
inductive Item where
  | className (name : List Char)
  | id (name : List Char)
  | pair (key value : List Char)
deriving Repr, DecidableEq

/-- Adds an item to attributes read before it. -/
def addItem (a : Attributes) : Item → Attributes
  | .className name => a.addClass (String.ofList name)
  | .id name => a.setId (String.ofList name)
  | .pair key value => a.put (String.ofList key) (String.ofList value)

/-- The longest text of a class at the start, if it is not empty, with what follows it. -/
def spanNonempty? (p : Char → Bool) (s : List Char) : Option (List Char × List Char) :=
  match s.takeWhile p with
  | [] => none
  | found => some (found, s.dropWhile p)

/-- The text up to a closing quote, with what follows the quote. -/
def quoted? (quote : Char) (s : List Char) : Option (List Char × List Char) :=
  match s.dropWhile (· != quote) with
  | [] => none
  | _ :: rest => some (s.takeWhile (· != quote), rest)

/-- The value at the start, with what follows it. -/
def value? : List Char → Option (List Char × List Char)
  | '"' :: s => quoted? '"' s
  | '\'' :: s => quoted? '\'' s
  | s => spanNonempty? isBareChar s

/-- The item at the start, with what follows it. -/
def item? : List Char → Option (Item × List Char)
  | '.' :: s => (spanNonempty? isNameChar s).map fun (name, rest) => (.className name, rest)
  | '#' :: s => (spanNonempty? isNameChar s).map fun (name, rest) => (.id name, rest)
  | s =>
    match spanNonempty? isNameChar s with
    | some (key, '=' :: rest) => (value? rest).map fun (value, rest) => (.pair key value, rest)
    | _ => none

/-- The items that a text without blanks at its ends is a row of.  An item is never empty, so
the rest is always shorter. -/
def items? : List Char → Option (List Item)
  | [] => some []
  | c :: s =>
    match item? (c :: s) with
    | none => none
    | some (item, rest) =>
      if (trimStart rest).length ≤ s.length then (items? (trimStart rest)).map (item :: ·)
      else none
termination_by s => s.length
decreasing_by
  rw [List.length_cons]
  omega

/-- The attributes in the inside of a group, if it is items from end to end. -/
def parseChars (body : List Char) : Option Attributes :=
  match trim body with
  | [] => none
  | s => (items? s).map (·.foldl addItem empty)

/-- The attributes in the inside of a group, if it is items from end to end. -/
def parse (body : String) : Option Attributes := parseChars body.toList

/-- A brace. -/
def isBrace (c : Char) : Bool := c == '\x7b' || c == '\x7d'

/-- The inside of the group at the end of a text and the text before it; blanks may follow
the group. -/
def splitGroup? (s : List Char) : Option (List Char × List Char) :=
  match (trimEnd s).reverse with
  | '\x7d' :: back =>
    match back.dropWhile fun c => !isBrace c with
    | '\x7b' :: before => some (before.reverse, (back.takeWhile fun c => !isBrace c).reverse)
    | _ => none
  | _ => none

/-- Splits the attributes at the end of a text off the text before them. -/
def splitTrailing (text : String) : Option (String × Attributes) :=
  match splitGroup? text.toList with
  | none => none
  | some (before, body) =>
    (parseChars body).map fun a => (String.ofList (trimEnd before), a)

end SlideDeck.Attributes
