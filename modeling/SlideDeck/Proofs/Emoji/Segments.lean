/-
The segments of a text.

Segments are written back by putting the colons around every shortcode again.  The scan leaves
segments in which all shortcodes are found: none begins in plain text, not even one that ends in
what follows.  Segments of this kind are told by the text that they stand for, so the scan and the
writing are inverse to each other, and the segments of a text can be put together from those of its
parts.

The only shortcode that is not found is one whose first colon closes another.
-/
import Mathlib.Data.List.Infix
import Mathlib.Data.List.TakeWhile
import SlideDeck.Emoji

namespace SlideDeck.Emoji

/-! ### Writing segments -/

/-- The text that a segment stands for: a shortcode stands between colons. -/
def Segment.written : Segment → List Char
  | .text s => s.toList
  | .emoji name _ => ':' :: (name.toList ++ [':'])

/-- The text that some segments stand for. -/
def written (segments : List Segment) : List Char := segments.flatMap Segment.written

/-- Whether a segment is plain text. -/
def Segment.isText : Segment → Bool
  | .text _ => true
  | .emoji _ _ => false

/-- No shortcode begins in a text that has some more text behind it. -/
def NoneBegins (s behind : List Char) : Prop :=
  ∀ u v, s = u ++ ':' :: v → shortcode? (v ++ behind) = none

/-- Segments in which all shortcodes are found.  Those found are in the table; plain text is not
empty, no more plain text follows it, and no shortcode begins in it. -/
inductive Settled : List Segment → Prop
  | nil : Settled []
  | emoji {name glyph : String} {rest : List Segment} (hglyph : glyph? name = some glyph)
      (hrest : Settled rest) : Settled (.emoji name glyph :: rest)
  | text {s : String} {rest : List Segment} (hne : s ≠ "")
      (hapart : ∀ t ∈ rest.head?, t.isText = false) (hplain : NoneBegins s.toList (written rest))
      (hrest : Settled rest) : Settled (.text s :: rest)

variable {s after behind : List Char} {name glyph : String} {segments rest : List Segment}

@[simp] theorem written_nil : written [] = [] := rfl

@[simp] theorem written_text_cons (s : String) (rest : List Segment) :
    written (.text s :: rest) = s.toList ++ written rest := rfl

@[simp] theorem written_emoji_cons (name glyph : String) (rest : List Segment) :
    written (.emoji name glyph :: rest) = ':' :: (name.toList ++ ':' :: written rest) := by
  simp [written, Segment.written]

@[simp] theorem written_append (segments segments' : List Segment) :
    written (segments ++ segments') = written segments ++ written segments' :=
  List.flatMap_append

theorem written_consChar (c : Char) (segments : List Segment) :
    written (consChar c segments) = c :: written segments := by
  unfold consChar
  split <;> simp

/-! ### Shortcodes -/

/-- The table has each name once. -/
theorem glyph?_eq_some_iff : glyph? name = some glyph ↔ (name, glyph) ∈ table := by
  constructor
  · intro h
    obtain ⟨entry, hfind, rfl⟩ := Option.map_eq_some_iff.mp h
    obtain rfl : entry.1 = name := by simpa using List.find?_some hfind
    exact List.mem_of_find?_eq_some hfind
  · intro h
    have hall : ∀ entry ∈ table, glyph? entry.1 = some entry.2 := by decide +kernel
    exact hall _ h

/-- The names of the table can stand between colons. -/
theorem isNameChar_of_glyph? (h : glyph? name = some glyph) :
    ∀ c ∈ name.toList, isNameChar c = true := by
  have hall : table.all (fun entry => entry.1.toList.all isNameChar) = true := by decide +kernel
  exact List.all_eq_true.mp (List.all_eq_true.mp hall _ (glyph?_eq_some_iff.mp h))

theorem colon_notMem_of_glyph? (h : glyph? name = some glyph) : ':' ∉ name.toList := by
  intro hcolon
  exact absurd (isNameChar_of_glyph? h ':' hcolon) (by decide)

/-- What may be a name runs up to the colon behind it. -/
theorem shortcode?_append (h : ∀ c ∈ s, isNameChar c = true) (after : List Char) :
    shortcode? (s ++ ':' :: after) =
      (glyph? (String.ofList s)).map fun glyph => (String.ofList s, glyph, after) := by
  have hcolon : ¬isNameChar ':' = true := by decide
  unfold shortcode?
  rw [List.takeWhile_append_of_pos h, List.dropWhile_append_of_pos h,
    List.takeWhile_cons_of_neg hcolon, List.dropWhile_cons_of_neg hcolon, List.append_nil]
  rfl

theorem shortcode?_of_glyph? (h : glyph? name = some glyph) (after : List Char) :
    shortcode? (name.toList ++ ':' :: after) = some (name, glyph, after) := by
  rw [shortcode?_append (isNameChar_of_glyph? h), String.ofList_toList, h]
  rfl

theorem eq_of_shortcode? (h : shortcode? s = some (name, glyph, after)) :
    s = name.toList ++ ':' :: after ∧ glyph? name = some glyph := by
  unfold shortcode? at h
  split at h
  · rename_i behind hbehind
    obtain ⟨found, hglyph, heq⟩ := Option.map_eq_some_iff.mp h
    cases heq
    rw [String.toList_ofList, ← hbehind, List.takeWhile_append_dropWhile]
    exact ⟨rfl, hglyph⟩
  · cases h

/-- The first colon of a text is the one behind a part without colons. -/
theorem append_colon_cases {name : List Char} (hname : ':' ∉ name)
    (h : s ++ ':' :: behind = name ++ ':' :: after) :
    s = name ∨ ∃ t, s = name ++ ':' :: t ∧ after = t ++ ':' :: behind := by
  rcases List.append_eq_append_iff.mp h with ⟨t, rfl, ht⟩ | ⟨t, rfl, ht⟩
  · cases t with
    | nil => simp
    | cons c t =>
        obtain ⟨rfl, -⟩ := List.cons.inj ht
        simp at hname
  · cases t with
    | nil => simp
    | cons c t =>
        exact .inr ⟨t, by rw [(List.cons.inj ht).1], (List.cons.inj ht).2⟩

/-- A colon behind a text ends a shortcode only if the text is its name. -/
theorem shortcode?_append_eq_none (h : shortcode? s = none)
    (hname : glyph? (String.ofList s) = none) (behind : List Char) :
    shortcode? (s ++ ':' :: behind) = none := by
  cases hfound : shortcode? (s ++ ':' :: behind) with
  | none => rfl
  | some found =>
      obtain ⟨name, glyph, after⟩ := found
      obtain ⟨heq, hglyph⟩ := eq_of_shortcode? hfound
      rcases append_colon_cases (colon_notMem_of_glyph? hglyph) heq with rfl | ⟨t, rfl, -⟩
      · rw [String.ofList_toList, hglyph] at hname
        cases hname
      · rw [shortcode?_of_glyph? hglyph] at h
        cases h

/-! ### The scan -/

theorem splitChars_shortcode (h : shortcode? s = some (name, glyph, after)) :
    splitChars (':' :: s) = .emoji name glyph :: splitChars after := by
  rw [splitChars, if_pos rfl]
  split
  · rename_i hsome
    rw [h] at hsome
    cases hsome
    rfl
  · rename_i hnone
    rw [h] at hnone
    cases hnone

theorem splitChars_plain {c : Char} (h : c = ':' → shortcode? s = none) :
    splitChars (c :: s) = consChar c (splitChars s) := by
  rw [splitChars]
  split
  · rename_i hc
    split
    · rename_i hsome
      rw [h hc] at hsome
      cases hsome
    · rfl
  · rfl

/-- Nothing is lost. -/
theorem written_splitChars (s : List Char) : written (splitChars s) = s := by
  induction s using splitChars.induct with
  | case1 => simp [splitChars]
  | case2 s name glyph after hfound ih =>
      rw [splitChars_shortcode hfound, written_emoji_cons, ih, (eq_of_shortcode? hfound).1]
  | case3 s hnone ih =>
      rw [splitChars_plain fun _ => hnone, written_consChar, ih]
  | case4 c s hc ih =>
      rw [splitChars_plain fun heq => absurd heq hc, written_consChar, ih]

theorem noneBegins_nil (behind : List Char) : NoneBegins [] behind := by
  intro u v heq
  simp at heq

theorem noneBegins_cons_iff {c : Char} :
    NoneBegins (c :: s) behind ↔
      (c = ':' → shortcode? (s ++ behind) = none) ∧ NoneBegins s behind := by
  constructor
  · intro h
    refine ⟨?_, fun u v heq => h (c :: u) v (by rw [heq, List.cons_append])⟩
    rintro rfl
    exact h [] s rfl
  · rintro ⟨hhere, hlater⟩ u v heq
    cases u with
    | nil =>
        obtain ⟨rfl, rfl⟩ := List.cons.inj heq
        exact hhere rfl
    | cons b u => exact hlater u v (List.cons.inj heq).2

/-- A character that begins no shortcode keeps the segments settled. -/
theorem Settled.consChar {c : Char} (h : Settled segments)
    (hplain : c = ':' → shortcode? (written segments) = none) :
    Settled (consChar c segments) := by
  cases h with
  | nil =>
      refine .text (by simp) (by simp) ?_ .nil
      rw [String.toList_singleton, noneBegins_cons_iff]
      exact ⟨hplain, noneBegins_nil _⟩
  | emoji hglyph hrest =>
      refine .text (by simp) (by simp [Segment.isText]) ?_ (.emoji hglyph hrest)
      rw [String.toList_singleton, noneBegins_cons_iff]
      exact ⟨hplain, noneBegins_nil _⟩
  | text hne hapart hlater hrest =>
      refine .text (by simp) hapart ?_ hrest
      rw [String.toList_ofList, noneBegins_cons_iff]
      exact ⟨hplain, hlater⟩

/-- Nothing is missed. -/
theorem settled_splitChars (s : List Char) : Settled (splitChars s) := by
  induction s using splitChars.induct with
  | case1 =>
      rw [splitChars]
      exact .nil
  | case2 s name glyph after hfound ih =>
      rw [splitChars_shortcode hfound]
      exact .emoji (eq_of_shortcode? hfound).2 ih
  | case3 s hnone ih =>
      rw [splitChars_plain fun _ => hnone]
      exact ih.consChar fun _ => by rwa [written_splitChars]
  | case4 c s hc ih =>
      rw [splitChars_plain fun heq => absurd heq hc]
      exact ih.consChar fun heq => absurd heq hc

/-! ### Segments by their text -/

/-- Plain text is put together again character by character. -/
theorem splitChars_append (h : NoneBegins s behind) :
    splitChars (s ++ behind) = s.foldr consChar (splitChars behind) := by
  induction s with
  | nil => rfl
  | cons c s ih =>
      obtain ⟨hhere, hlater⟩ := noneBegins_cons_iff.mp h
      rw [List.cons_append, splitChars_plain hhere, ih hlater, List.foldr_cons]

theorem foldr_consChar (hne : s ≠ []) (hapart : ∀ t ∈ rest.head?, t.isText = false) :
    s.foldr consChar rest = .text (String.ofList s) :: rest := by
  induction s with
  | nil => exact absurd rfl hne
  | cons c s ih =>
      cases s with
      | nil =>
          rw [List.foldr_cons, List.foldr_nil]
          unfold consChar
          split
          · exact absurd (hapart _ rfl) (by simp [Segment.isText])
          · rfl
      | cons d s =>
          rw [List.foldr_cons, ih (by simp), consChar, String.toList_ofList]

/-- Segments in which all is found are those of their text. -/
theorem Settled.splitChars_written (h : Settled segments) :
    splitChars (written segments) = segments := by
  induction h with
  | nil => simp [splitChars]
  | @emoji name glyph rest hglyph _ ih =>
      rw [written_emoji_cons, splitChars_shortcode (shortcode?_of_glyph? hglyph _), ih]
  | @text s rest hne hapart hplain _ ih =>
      have hchars : s.toList ≠ [] := by simpa using hne
      rw [written_text_cons, splitChars_append hplain, ih, foldr_consChar hchars hapart,
        String.ofList_toList]

theorem splitChars_eq_iff :
    splitChars s = segments ↔ Settled segments ∧ written segments = s := by
  constructor
  · rintro rfl
    exact ⟨settled_splitChars s, written_splitChars s⟩
  · rintro ⟨hsettled, rfl⟩
    exact hsettled.splitChars_written

/-! ### Shortcodes that share a colon -/

/-- The colon behind a text closes no shortcode. -/
def ClosesNone (s : List Char) : Prop := ∀ u v, s = u ++ ':' :: v → glyph? (String.ofList v) = none

theorem ClosesNone.drop (h : ClosesNone (s ++ after)) : ClosesNone after := by
  rintro u v rfl
  exact h (s ++ u) v (by rw [List.append_assoc])

/-- A shortcode may follow settled segments if its first colon closes no other. -/
theorem Settled.append_emoji (h : Settled segments) (hfree : ClosesNone (written segments))
    (hglyph : glyph? name = some glyph) (hrest : Settled rest) :
    Settled (segments ++ .emoji name glyph :: rest) := by
  induction h with
  | nil => exact .emoji hglyph hrest
  | @emoji name' glyph' segments hglyph' _ ih =>
      rw [written_emoji_cons] at hfree
      have hlater : ClosesNone (written segments) :=
        ClosesNone.drop (s := ':' :: (name'.toList ++ [':'])) (by simpa using hfree)
      exact .emoji hglyph' (ih hlater)
  | @text s segments hne hapart hplain _ ih =>
      rw [written_text_cons] at hfree
      refine .text hne ?_ ?_ (ih hfree.drop)
      · cases segments with
        | nil => simp [Segment.isText]
        | cons t segments => exact hapart
      · intro u v hs
        have hname := hfree u (v ++ written segments) (by rw [hs]; simp)
        show shortcode? (v ++ written (segments ++ .emoji name glyph :: rest)) = none
        rw [written_append, written_emoji_cons, ← List.append_assoc]
        exact shortcode?_append_eq_none (hplain u v hs) hname _

/-- A shortcode is found wherever its first colon closes no other. -/
theorem splitChars_append_shortcode (hfree : ClosesNone s) (hglyph : glyph? name = some glyph)
    (after : List Char) :
    splitChars (s ++ ':' :: (name.toList ++ ':' :: after)) =
      splitChars s ++ .emoji name glyph :: splitChars after := by
  rw [splitChars_eq_iff]
  constructor
  · have hfree' : ClosesNone (written (splitChars s)) := by rwa [written_splitChars]
    exact (settled_splitChars s).append_emoji hfree' hglyph (settled_splitChars after)
  · rw [written_append, written_emoji_cons, written_splitChars, written_splitChars]

/-- Behind a word between colons that is no shortcode, the second colon closes none. -/
theorem closesNone_word {word : List Char} (hcolon : ':' ∉ word)
    (hword : glyph? (String.ofList word) = none) (before : List Char) :
    ClosesNone (before ++ ':' :: word) := by
  intro u v heq
  rcases List.append_eq_append_iff.mp heq with ⟨t, rfl, ht⟩ | ⟨t, rfl, ht⟩
  · cases t with
    | nil =>
        obtain ⟨-, rfl⟩ := List.cons.inj ht
        exact hword
    | cons c t =>
        obtain ⟨-, rfl⟩ := List.cons.inj ht
        simp at hcolon
  · cases t with
    | nil =>
        obtain ⟨-, rfl⟩ := List.cons.inj ht
        exact hword
    | cons c t =>
        -- `v` holds the colon of the word, which the name of a shortcode cannot.
        obtain ⟨-, rfl⟩ := List.cons.inj ht
        cases hglyph : glyph? (String.ofList (t ++ ':' :: word)) with
        | none => rfl
        | some glyph => exact absurd (colon_notMem_of_glyph? hglyph) (by simp)

/-! ### Settled segments -/

theorem Settled.recognised (h : Settled segments) (hmem : .emoji name glyph ∈ segments) :
    glyph? name = some glyph := by
  induction h with
  | nil => cases hmem
  | emoji hglyph _ ih =>
      rcases List.mem_cons.mp hmem with heq | hmem
      · cases heq
        exact hglyph
      · exact ih hmem
  | text _ _ _ _ ih =>
      rcases List.mem_cons.mp hmem with heq | hmem
      · cases heq
      · exact ih hmem

/-- Plain text is not empty and has no shortcode in it. -/
theorem Settled.plain {text : String} (h : Settled segments) (hmem : .text text ∈ segments) :
    text ≠ "" ∧ ∀ name glyph, glyph? name = some glyph →
      ¬(':' :: (name.toList ++ [':'])) <:+: text.toList := by
  induction h with
  | nil => cases hmem
  | emoji _ _ ih =>
      rcases List.mem_cons.mp hmem with heq | hmem
      · cases heq
      · exact ih hmem
  | @text s rest hne _ hplain _ ih =>
      rcases List.mem_cons.mp hmem with heq | hmem
      · cases heq
        refine ⟨hne, ?_⟩
        rintro name glyph hglyph ⟨u, v, hs⟩
        have hnone := hplain u (name.toList ++ ':' :: v) (by simp [← hs])
        rw [List.append_assoc, List.cons_append, shortcode?_of_glyph? hglyph] at hnone
        cases hnone
      · exact ih hmem

theorem Settled.isChain (h : Settled segments) :
    segments.IsChain fun t t' => ¬(t.isText = true ∧ t'.isText = true) := by
  induction h with
  | nil => exact .nil
  | @emoji name glyph rest _ _ ih =>
      cases rest with
      | nil => exact .singleton _
      | cons t rest => exact .cons_cons (by simp [Segment.isText]) ih
  | @text s rest _ hapart _ _ ih =>
      cases rest with
      | nil => exact .singleton _
      | cons t rest => exact .cons_cons (by simp [hapart t rfl]) ih

/--
**Splitting loses nothing and misses nothing.**  Every text is split, and its segments written back
are the text.  No plain text among them is empty, stands beside another, or has a shortcode of the
table in it; every emoji has the glyph of its shortcode.  A shortcode that follows a word between
colons is found if the word is none, although the word has its first colon.
-/
theorem split_segments (text : String) :
    written (split text) = text.toList ∧
    (∀ s, .text s ∈ split text → s ≠ "") ∧
    (split text).IsChain (fun t t' => ¬(t.isText = true ∧ t'.isText = true)) ∧
    (∀ name glyph, .emoji name glyph ∈ split text → (name, glyph) ∈ table) ∧
    (∀ s, .text s ∈ split text → ∀ entry ∈ table,
      ¬(':' :: (entry.1.toList ++ [':'])) <:+: s.toList) ∧
    ∀ (before word after : String), ∀ entry ∈ table,
      ':' ∉ word.toList → glyph? word = none →
      text = before ++ ":" ++ word ++ ":" ++ entry.1 ++ ":" ++ after →
      split text = split (before ++ ":" ++ word) ++ .emoji entry.1 entry.2 :: split after := by
  have hsettled := settled_splitChars text.toList
  refine ⟨written_splitChars _, ?_, hsettled.isChain, ?_, ?_, ?_⟩
  · intro s hs
    exact (hsettled.plain hs).1
  · intro name glyph hmem
    exact glyph?_eq_some_iff.mp (hsettled.recognised hmem)
  · intro s hs entry hentry
    exact (hsettled.plain hs).2 entry.1 entry.2 (glyph?_eq_some_iff.mpr hentry)
  · rintro before word after entry hentry hcolon hword rfl
    have hfree := closesNone_word hcolon (by rwa [String.ofList_toList]) before.toList
    have hfound := splitChars_append_shortcode hfree (glyph?_eq_some_iff.mpr hentry) after.toList
    simpa [split] using hfound

/-- The colon between the two words opens a shortcode; the one before the plus sign closes one. -/
theorem split_sharedColon :
    ("smile", "😄") ∈ table ∧ ':' ∉ "b".toList ∧ glyph? "b" = none ∧
    split "a:b:smile: :x:+1:" = split "a:b" ++ .emoji "smile" "😄" :: split " :x:+1:" := by
  have hentry : ("smile", "😄") ∈ table := by decide
  have hcolon : ':' ∉ "b".toList := by decide
  have hword : glyph? "b" = none := by decide +kernel
  exact ⟨hentry, hcolon, hword,
    (split_segments _).2.2.2.2.2 "a" "b" " :x:+1:" _ hentry hcolon hword rfl⟩

example : split "a:b:smile: :x:+1:" =
    [.text "a:b", .emoji "smile" "😄", .text " ", .emoji "x" "❌", .text "+1:"] := by
  decide +kernel

end SlideDeck.Emoji
