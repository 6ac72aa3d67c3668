/-
Emoji shortcodes.

A shortcode is a name between colons.  Only the names of the table below are recognised;
any other text between colons stays as it is, and its closing colon may open the next
shortcode.
-/

namespace SlideDeck.Emoji

/-- The shortcodes and their glyphs. -/
def table : List (String × String) := [
  ("smile", "😄"), ("smiley", "😃"), ("grin", "😁"), ("laughing", "😆"), ("joy", "😂"),
  ("wink", "😉"), ("blush", "😊"), ("heart_eyes", "😍"), ("sunglasses", "😎"), ("thinking", "🤔"),
  ("neutral_face", "😐"), ("confused", "😕"), ("cry", "😢"), ("scream", "😱"), ("angry", "😠"),
  ("heart", "❤️"), ("broken_heart", "💔"), ("star", "⭐"), ("sparkles", "✨"), ("fire", "🔥"),
  ("zap", "⚡"), ("tada", "🎉"), ("rocket", "🚀"), ("bulb", "💡"), ("warning", "⚠️"), ("bug", "🐛"),
  ("lock", "🔒"), ("key", "🔑"), ("memo", "📝"), ("chart_with_upwards_trend", "📈"),
  ("calendar", "📆"), ("clock3", "🕒"), ("coffee", "☕"), ("eyes", "👀"), ("wave", "👋"),
  ("clap", "👏"), ("pray", "🙏"), ("muscle", "💪"), ("thumbsup", "👍"), ("+1", "👍"),
  ("thumbsdown", "👎"), ("-1", "👎"), ("ok_hand", "👌"), ("point_right", "👉"),
  ("white_check_mark", "✅"), ("heavy_check_mark", "✔️"), ("x", "❌"), ("question", "❓"),
  ("exclamation", "❗"), ("100", "💯"), ("crab", "🦀")]

/-- The glyph of a shortcode, without its colons. -/
def glyph? (name : String) : Option String := (table.find? (·.1 == name)).map (·.2)

/-- A character that the name of a shortcode may hold. -/
def isNameChar (c : Char) : Bool :=
  ('a' ≤ c && c ≤ 'z') || ('0' ≤ c && c ≤ '9') || c == '_' || c == '+' || c == '-'

/-- A piece of text: plain, or a recognised shortcode. -/
inductive Segment where
  | text (s : String)
  | emoji (shortcode glyph : String)
deriving Repr, DecidableEq

/-- The shortcode whose first colon stands just before a text: its name, its glyph, and what
follows its second colon. -/
def shortcode? (s : List Char) : Option (String × String × List Char) :=
  let name := s.takeWhile isNameChar
  match s.dropWhile isNameChar with
  | ':' :: rest => (glyph? (String.ofList name)).map fun glyph => (String.ofList name, glyph, rest)
  | _ => none

theorem shortcode?_length {s : List Char} {name glyph : String} {rest : List Char}
    (h : shortcode? s = some (name, glyph, rest)) : rest.length < s.length := by
  unfold shortcode? at h
  split at h
  · rename_i after hafter
    have hle : (s.dropWhile isNameChar).length ≤ s.length :=
      (List.dropWhile_suffix isNameChar).length_le
    simp only [Option.map_eq_some_iff, Prod.mk.injEq] at h
    obtain ⟨_, _, _, _, rfl⟩ := h
    rw [hafter, List.length_cons] at hle
    omega
  · simp at h

/-- Puts a character in front of segments, joining it to plain text that comes first. -/
def consChar (c : Char) : List Segment → List Segment
  | .text s :: rest => .text (String.ofList (c :: s.toList)) :: rest
  | segments => .text (String.singleton c) :: segments

/-- The segments of a text. -/
def splitChars (s : List Char) : List Segment :=
  match s with
  | [] => []
  | c :: s =>
    if c = ':' then
      match _h : shortcode? s with
      | some (name, glyph, rest) => .emoji name glyph :: splitChars rest
      | none => consChar c (splitChars s)
    else consChar c (splitChars s)
termination_by s.length
decreasing_by
  · have := shortcode?_length _h
    simp only [List.length_cons]
    omega
  · simp
  · simp

/-- The segments of a text: plain text and the shortcodes in it. -/
def split (text : String) : List Segment := splitChars text.toList

end SlideDeck.Emoji
