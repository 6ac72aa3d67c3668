/-
Which layout fits a slide.

A slide is classified by what is on it; the first rule that applies decides.  Among the
layouts of a deck the author's choice wins, then the class of the slide; a deck that has
neither gives its first layout.
-/
import SlideDeck.Slide.Basic

namespace SlideDeck

/-- The predefined layouts that slides are classified by. -/
inductive Layout where
  | sectionTitleAndDescription
  | title
  | bigNumber
  | mainPoint
  | titleAndTwoColumns
  | titleAndBody
  | sectionHeader
  | blank
deriving Repr, DecidableEq

namespace Layout

/-- The name of a layout. -/
def name : Layout → String
  | sectionTitleAndDescription => "SECTION_TITLE_AND_DESCRIPTION"
  | title => "TITLE"
  | bigNumber => "BIG_NUMBER"
  | mainPoint => "MAIN_POINT"
  | titleAndTwoColumns => "TITLE_AND_TWO_COLUMNS"
  | titleAndBody => "TITLE_AND_BODY"
  | sectionHeader => "SECTION_HEADER"
  | blank => "BLANK"

/-- The layout that fits what is on a slide. -/
def classify (s : Slide) : Layout :=
  let columns := s.bodies.length
  if s.title.isNone then blank
  else if s.subtitle.isSome && 0 < columns then sectionTitleAndDescription
  else if s.subtitle.isSome && s.tables.isEmpty then title
  else if s.isBig && columns == 1 && s.tables.isEmpty then bigNumber
  else if s.isBig && columns == 0 && s.tables.isEmpty then mainPoint
  else if columns == 2 then titleAndTwoColumns
  else if 0 < columns || !s.tables.isEmpty then titleAndBody
  else sectionHeader

/-- The name of the layout that fits a slide among those whose names are given.  Without any
layouts it is the class of the slide. -/
def choose (available : List String) (s : Slide) : String :=
  let classified := (classify s).name
  let fitting := if available.contains classified then classified else available.headD classified
  match s.customLayout with
  | some custom => if available.contains custom then custom else fitting
  | none => fitting

end Layout

end SlideDeck
