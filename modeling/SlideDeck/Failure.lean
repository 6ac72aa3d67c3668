/-
What can go wrong, and what is worth a notice.

A failure is named by its cause.  Its kind says which part of the work it belongs to, and its
message is what the user reads.  A notice does not stop the work.
-/

namespace SlideDeck

/-- Which part of the work a failure belongs to. -/
inductive FailureKind where
  /-- The document could not be understood. -/
  | parse
  /-- The document describes what a slide cannot hold. -/
  | structural
  /-- The deck lacks a layout. -/
  | layoutResolution
  /-- A step was taken before another that it needs. -/
  | precondition
  /-- No object id could be made. -/
  | idGeneration
  /-- A model could not be read from JSON. -/
  | json
deriving Repr, DecidableEq

/-- Why the work stopped. -/
inductive Failure where
  | unsupportedHtml (element : String)
  | malformedComment (html : String)
  | mixedLists
  | severalTables
  | layoutNotFound (name : String) (available : List String)
  | notCreated
  | slideNotFound (slideId presentationId : String)
  | idTooLong (id : String) (limit : Nat)
  | json
deriving Repr, DecidableEq

namespace Failure

/-- Which part of the work a failure belongs to. -/
def kind : Failure → FailureKind
  | unsupportedHtml _ | malformedComment _ => .parse
  | mixedLists | severalTables => .structural
  | layoutNotFound _ _ => .layoutResolution
  | notCreated | slideNotFound _ _ => .precondition
  | idTooLong _ _ => .idGeneration
  | json => .json

/-- What the user reads. -/
def message : Failure → String
  | unsupportedHtml element => "Parse error: Unsupported inline HTML element: " ++ element
  | malformedComment html => "Parse error: Malformed HTML comment: " ++ html
  | mixedLists => "Nested lists of mixed ordered/unordered types are not supported."
  | severalTables => "Multiple tables per slide are not supported."
  | layoutNotFound name available =>
    "Unable to find layout '" ++ name ++ "'. Available layouts: " ++
      String.intercalate ", " available
  | notCreated => "Precondition failed: Slide must be created before it is populated"
  | slideNotFound slideId presentationId =>
    "Precondition failed: Slide " ++ slideId ++ " not found in presentation " ++ presentationId
  | idTooLong id limit =>
    "Unable to generate object id: Object id '" ++ id ++ "' is longer than " ++ toString limit ++
      " characters"
  | json => "JSON error"

end Failure

/-- How much attention a notice asks for. -/
inductive NoticeLevel where
  | warn
  | info
deriving Repr, DecidableEq

/-- Something worth a notice. -/
inductive Notice where
  | headingReplaced (level : Nat)
  | htmlIgnored (html : String)
  | htmlBetweenComments (html : String)
  | htmlAfterComment (html : String)
  | styleNotOpen (tag : Option String)
  | styleUnclosed (tag : Option String)
  | listNotOpen
  | noTitlePlaceholder (slideId : String)
  | noSubtitlePlaceholder (slideId : String)
  | noBodyPlaceholder (slideId : String) (column : Nat)
  | pageSizeUnknown (url : String)
  | noNotesShape (slideId : String)
  | creationPlanned (slides : Nat) (presentationId : String)
  | populationPlanned (requests : Nat) (presentationId : String)
deriving Repr, DecidableEq

namespace Notice

/-- How much attention a notice asks for. -/
def level : Notice → NoticeLevel
  | creationPlanned _ _ | populationPlanned _ _ => .info
  | _ => .warn

/-- An element name that may be missing. -/
def describeTag : Option String → String
  | none => "None"
  | some tag => "Some(\"" ++ tag ++ "\")"

/-- The text of a notice. -/
def text : Notice → String
  | headingReplaced level => "Replacing earlier h" ++ toString level ++ " on the same slide"
  | htmlIgnored html => "Ignoring HTML block: " ++ html
  | htmlBetweenComments html => "Ignoring HTML between comments: " ++ html
  | htmlAfterComment html => "Ignoring HTML after comment: " ++ html
  | styleNotOpen tag => "Closing style with none open (tag: " ++ describeTag tag ++ ")"
  | styleUnclosed tag => "Unclosed inline HTML element " ++ describeTag tag
  | listNotOpen => "List close without an open list"
  | noTitlePlaceholder slideId => "[populate_slide] No title placeholder on slide " ++ slideId
  | noSubtitlePlaceholder slideId => "[populate_slide] No subtitle placeholder on slide " ++ slideId
  | noBodyPlaceholder slideId column =>
    "[populate_slide] Slide " ++ slideId ++ " has no body placeholder for column " ++
      toString column ++ ", skipping"
  | pageSizeUnknown url =>
    "[populate_slide] Page size unknown, placing background image " ++ url ++
      " as a regular image"
  | noNotesShape slideId => "[populate_slide] Slide " ++ slideId ++ " has no speaker notes shape"
  | creationPlanned slides presentationId =>
    "Planned creation of " ++ toString slides ++ " slides in " ++ presentationId
  | populationPlanned requests presentationId =>
    "Planned " ++ toString requests ++ " population requests for " ++ presentationId

/-- A notice as a line of a log. -/
def line (n : Notice) : String :=
  (match n.level with | .warn => "WARN: " | .info => "INFO: ") ++ n.text

end Notice

end SlideDeck
