/-
The ids that a generator hands out over its life.

A generator answers one call after the other, creations and populations of any slides in any decks,
and all of them ask the same source for ids.  The source counts up whether or not a call comes to
an end, so what one call is handed is never handed to another.  An id is a prefix and a numeral;
zeros in front of a numeral do not change its value, so ids with different numbers differ even
where the numerals outgrow the width that they are padded to.

What a call is handed is what it shows: the slides of a creation have these ids, up to the one that
could not be created, and the batch of a population creates tables and images with them.
-/
import SlideDeck.Proofs.Plan.Demand

namespace SlideDeck

/-! ### What a source hands out -/

namespace IdSource

variable {σ : Type} {ids : IdSource σ} {state state' : σ} {handed : List String}

/-- The ids that a source hands out over some requests; a request that fails gets none. -/
def given (ids : IdSource σ) (state : σ) (n : Nat) : List String :=
  (List.range n).filterMap fun k => (ids.nth state k).toOption

theorem given_succ (state : σ) (n : Nat) :
    ids.given state (n + 1) = ids.given state n ++ (ids.nth state n).toOption.toList := by
  unfold given
  rw [List.range_succ, List.filterMap_append, List.filterMap_cons]
  cases (ids.nth state n).toOption <;> rfl

theorem given_add (state : σ) (m n : Nat) :
    ids.given state (m + n) = ids.given state m ++ ids.given (ids.after state m) n := by
  induction n with
  | zero => exact (List.append_nil _).symm
  | succ n ih =>
      rw [← Nat.add_assoc, given_succ, ih, given_succ, nth_add, List.append_assoc]

/-- If every request was served, the ids that were handed out are those that were given. -/
theorem Hands.given_eq (h : ids.Hands state handed state') :
    ids.given state handed.length = handed := by
  obtain ⟨-, hids⟩ := h
  induction handed using List.reverseRecOn with
  | nil => rfl
  | append_singleton handed id ih =>
      have hlast : ids.nth state handed.length = .ok id :=
        hids handed.length id List.getElem?_concat_length
      have hfront : ∀ n id', handed[n]? = some id' → ids.nth state n = .ok id' := by
        intro n id' hn
        have hlt := (List.getElem?_eq_some_iff.mp hn).1
        exact hids n id' (by rwa [List.getElem?_append_left hlt])
      rw [List.length_append, List.length_singleton, given_succ, ih hfront, hlast]
      rfl

/-- A source that never repeats itself gives no id twice. -/
theorem nodup_given (h : ids.Distinct state) (n : Nat) : (ids.given state n).Nodup := by
  have hok : ∀ k id, id ∈ (ids.nth state k).toOption → ids.nth state k = .ok id := by
    intro k id hid
    cases hnth : ids.nth state k with
    | error e =>
        rw [hnth] at hid
        cases hid
    | ok id' =>
        rw [hnth] at hid
        exact congrArg Except.ok (Option.some.inj hid)
  refine List.nodup_range.filterMap ?_
  intro k k' id hid hid'
  exact h k k' id (hok k id hid) (hok k' id hid')

end IdSource

/-! ### Sequential ids -/

namespace SequentialIds

/-- Zeros in front of a numeral do not change its value. -/
theorem eq_of_paddedNumeral_eq {width m n : Nat}
    (h : paddedNumeral width m = paddedNumeral width n) : m = n := by
  have hvalue : ∀ k, Nat.ofDigitChars 10 (paddedNumeral width k).toList 0 = k := by
    intro k
    unfold paddedNumeral
    simp only [String.toList_ofList, Nat.ofDigitChars_append, Nat.ofDigitChars_replicate_zero,
      Nat.mul_zero]
    exact Nat.ofDigitChars_toDigits (by decide) (by decide)
  rw [← hvalue m, h, hvalue]

theorem eq_of_candidate_eq {stem : String} {m n : Nat}
    (h : (⟨stem, m⟩ : SequentialIds).candidate = (⟨stem, n⟩ : SequentialIds).candidate) : m = n :=
  eq_of_paddedNumeral_eq ((String.append_right_inj (stem ++ "_")).mp h)

theorem after_source (ids : SequentialIds) (n : Nat) :
    source.after ids n = { ids with count := ids.count + n } := by
  induction n generalizing ids with
  | zero => rfl
  | succ n ih =>
      rw [IdSource.after_succ, ih, Nat.add_comm n 1, ← Nat.add_assoc]
      rfl

/-- What is handed out is the prefix with the number of the request. -/
theorem eq_candidate_of_nth {ids : SequentialIds} {n : Nat} {id : String}
    (h : source.nth ids n = .ok id) :
    (⟨ids.stem, ids.count + n⟩ : SequentialIds).candidate = id := by
  unfold IdSource.nth at h
  rw [after_source] at h
  change (if _ then Except.error _ else Except.ok _) = _ at h
  split at h
  · cases h
  · exact Except.ok.inj h

/-- Sequential ids never repeat, for any prefix and from any number on. -/
theorem distinct_source (ids : SequentialIds) : source.Distinct ids := by
  intro m n id hm hn
  have heq := (eq_candidate_of_nth hm).trans (eq_candidate_of_nth hn).symm
  have hcount := eq_of_candidate_eq heq
  omega

/-- How many requests lie between two states of a source is the difference of their numbers. -/
theorem count_after_sub (ids : SequentialIds) (n : Nat) :
    (source.after ids n).count - ids.count = n := by
  rw [after_source]
  exact Nat.add_sub_cancel_left _ _

end SequentialIds

/-! ### What a plan creates -/

namespace Plan

variable {σ α : Type} {ids : IdSource σ} {made : List String} {rs : List Request}

/-- What a plan creates has some ids that were handed out already, and then those that it asks the
source for. -/
def Creates (ids : IdSource σ) (made : List String) (x : Plan σ (List Request)) : Prop :=
  ∀ state rs state', x.Gives state rs state' →
    ∃ handed, createdIds rs = made ++ handed ∧ ids.Hands state handed state'

theorem creates_pure (h : createdIds rs = made) : Creates ids made (pure rs) := by
  intro state rs' state' hgives
  obtain ⟨rfl, rfl⟩ := gives_pure_iff.mp hgives
  exact ⟨[], h.trans (List.append_nil made).symm, IdSource.hands_nil state⟩

theorem creates_notice_bind {n : Notice} {x : Plan σ (List Request)} (hx : Creates ids made x) :
    Creates ids made (notice n >>= fun _ => x) := by
  intro state rs state' hgives
  exact hx state rs state' (gives_notice_bind_iff.mp hgives)

theorem creates_nextId_bind {f : String → Plan σ (List Request)}
    (hf : ∀ id, Creates ids (made ++ [id]) (f id)) : Creates ids made (nextId ids >>= f) := by
  intro state rs state' hgives
  obtain ⟨id, state₁, hid, hrest⟩ := gives_bind_iff.mp hgives
  obtain ⟨handed, hcreated, hhands⟩ := hf id state₁ rs state' hrest
  refine ⟨[id] ++ handed, ?_, (hands_of_gives_nextId hid).append hhands⟩
  rw [hcreated, List.append_assoc]

theorem Creates.bind {x : Plan σ (List Request)} {f : List Request → Plan σ (List Request)}
    (hx : Creates ids [] x) (hf : ∀ rs, Creates ids (made ++ createdIds rs) (f rs)) :
    Creates ids made (x >>= f) := by
  intro state rs state' hgives
  obtain ⟨first, state₁, hfirst, hrest⟩ := gives_bind_iff.mp hgives
  obtain ⟨handed, hcreated, hhands⟩ := hx state first state₁ hfirst
  obtain ⟨handed', hcreated', hhands'⟩ := hf first state₁ rs state' hrest
  refine ⟨handed ++ handed', ?_, hhands.append hhands'⟩
  rw [hcreated', hcreated, List.nil_append, List.append_assoc]

theorem creates_collect {f : α → Plan σ (List Request)} (hf : ∀ a, Creates ids [] (f a))
    (as : List α) : Creates ids [] (collect f as) := by
  induction as with
  | nil => exact creates_pure rfl
  | cons a as ih =>
      refine (hf a).bind fun first => ih.bind fun rest => creates_pure ?_
      exact createdIds_append first rest

/-- Text creates nothing. -/
theorem createdIds_textRequests (objectId : String) (cell : Option CellLocation) (b : TextBlock) :
    createdIds (textRequests objectId cell b) = [] :=
  List.filterMap_eq_nil_iff.mpr fun _ hr => created?_of_mem_textRequests hr

theorem createdIds_cellRequests (tableId : String) (cells : List (List TextBlock)) :
    createdIds (cellRequests tableId 0 cells) = [] := by
  refine List.filterMap_eq_nil_iff.mpr fun r hr => ?_
  obtain ⟨cell, b, hr⟩ := mem_cellRequests hr
  exact created?_of_mem_textRequests hr

theorem creates_place (target : Option PageElement) (missing : Notice) (b : TextBlock) :
    Creates ids [] (place target missing b) := by
  cases target with
  | none => exact creates_notice_bind (creates_pure rfl)
  | some e => exact creates_pure (createdIds_textRequests e.objectId none b)

theorem creates_placeOptional (target : Option PageElement) (missing : Notice)
    (b : Option TextBlock) : Creates ids [] (placeOptional target missing b) := by
  cases b with
  | none => exact creates_pure rfl
  | some b => exact creates_place target missing b

theorem creates_placeBodies (slideId : String) (column : Nat) (targets : List PageElement)
    (bodies : List Body) : Creates ids [] (placeBodies slideId column targets bodies) := by
  induction bodies generalizing column targets with
  | nil =>
      unfold placeBodies
      exact creates_pure rfl
  | cons b bodies ih =>
      unfold placeBodies
      refine (creates_place _ _ _).bind fun here => (ih _ _).bind fun there => creates_pure ?_
      exact createdIds_append here there

theorem creates_placeTable (slideId : String) (t : Table) :
    Creates ids [] (placeTable ids slideId t) := by
  refine creates_nextId_bind fun tableId => creates_pure ?_
  exact congrArg (tableId :: ·) (createdIds_cellRequests tableId t.cells)

theorem creates_placeImage (deck : Presentation) (slideId : String) (image : Image) :
    Creates ids [] (placeImage ids deck slideId image) := by
  refine creates_nextId_bind fun imageId => ?_
  by_cases hbackground : image.background = true
  · rw [if_pos hbackground]
    split
    · exact creates_pure rfl
    · exact creates_notice_bind (creates_pure rfl)
  · rw [if_neg hbackground]
    exact creates_pure rfl

theorem creates_placeNotes (deck : Presentation) (slideId : String) (notes : Option String) :
    Creates ids [] (placeNotes deck slideId notes) := by
  unfold placeNotes
  split
  · exact creates_pure rfl
  · split
    · exact creates_pure rfl
    · exact creates_notice_bind (creates_pure rfl)

theorem creates_placeAll (deck : Presentation) (slideId : String) (s : Slide) :
    Creates ids [] (placeAll ids deck slideId s) := by
  unfold placeAll
  refine (creates_placeOptional _ _ _).bind fun title => ?_
  refine (creates_placeOptional _ _ _).bind fun subtitle => ?_
  refine (creates_placeBodies _ _ _ _).bind fun bodies => ?_
  refine (creates_collect (creates_placeTable slideId) _).bind fun table => ?_
  refine (creates_collect (creates_placeImage deck slideId) _).bind fun images => ?_
  refine (creates_placeNotes _ _ _).bind fun notes => creates_pure ?_
  simp only [createdIds_append, List.nil_append]

theorem creates_populateSlide (deck : Presentation) (s : Slide) :
    Creates ids [] (populateSlide ids deck s) := by
  intro state rs state' hgives
  obtain ⟨slideId, _, -, -, -, hall⟩ := populateSlide_gives hgives
  exact creates_placeAll deck slideId s state rs state' hall

/-- What the population of some slides creates has the ids that it asks for, in order. -/
theorem hands_planPopulation {deck : Presentation} {slides : List Slide} {state : σ} {b : Batch}
    (h : (planPopulation ids deck slides state).1.outcome = .ok b) :
    ids.Hands state (createdIds b.requests) (planPopulation ids deck slides state).2 := by
  have hgives : (planPopulation ids deck slides).Gives state b _ := ⟨h, rfl⟩
  obtain ⟨rs, state₁, hcollect, hrest⟩ := gives_bind_iff.mp hgives
  obtain ⟨rfl, hstate⟩ := gives_pure_iff.mp (gives_notice_bind_iff.mp hrest)
  obtain ⟨handed, hcreated, hhands⟩ :=
    creates_collect (creates_populateSlide deck) slides state rs state₁ hcollect
  rw [← hstate]
  rwa [show createdIds rs = handed from hcreated]

/-! ### Where a call leaves the source -/

/-- A slide that cannot be populated asks for nothing. -/
theorem exists_after_populateSlide (deck : Presentation) (s : Slide) (state : σ) :
    ∃ k, (populateSlide ids deck s state).2 = ids.after state k := by
  unfold populateSlide
  cases hid : populatedId? deck s with
  | error e => exact ⟨0, rfl⟩
  | ok slideId =>
      have htables : s.tables.length ≤ 1 := by
        by_contra hmany
        unfold populatedId? at hid
        split at hid
        · cases hid
        · split at hid
          · cases hid
          · rw [if_pos (by omega)] at hid
            cases hid
      exact (takes_placeAll htables deck slideId).leaves state

theorem exists_after_planPopulation (deck : Presentation) (slides : List Slide) (state : σ) :
    ∃ k, (planPopulation ids deck slides state).2 = ids.after state k := by
  have hcollect : ∀ state, ∃ k,
      (collect (populateSlide ids deck) slides state).2 = ids.after state k := by
    induction slides with
    | nil => exact fun state => ⟨0, rfl⟩
    | cons s slides ih =>
        refine exists_after_bind (exists_after_populateSlide deck s) fun first => ?_
        exact exists_after_bind ih fun rest state => ⟨0, rfl⟩
  exact exists_after_bind hcollect (fun rs state => ⟨0, rfl⟩) state

/-- Slides that were created have the ids that the source gave, and so have their requests. -/
theorem CreatedFrom.eq_given {p : Presentation} {state : σ} {slides created : List Slide}
    {requests : List CreateSlide} (h : CreatedFrom ids p state slides requests created) :
    requests.map (·.objectId) = ids.given state slides.length ∧
      created = List.zipWith Slide.withId slides (ids.given state slides.length) := by
  have hhands : ids.Hands state (requests.map (·.objectId)) (ids.after state slides.length) := by
    constructor
    · rw [List.length_map, h.length_requests]
    · intro n id hn
      rw [List.getElem?_map, Option.map_eq_some_iff] at hn
      obtain ⟨r, hr, rfl⟩ := hn
      have hlt : n < slides.length := h.length_requests ▸ (List.getElem?_eq_some_iff.mp hr).1
      obtain ⟨objectId, layoutId, hid, -, hr', -⟩ := h.each n _ (List.getElem?_eq_getElem hlt)
      rw [hid, Option.some.inj (hr.symm.trans hr')]
  have hgiven := hhands.given_eq
  rw [List.length_map, h.length_requests] at hgiven
  refine ⟨hgiven.symm, List.ext_getElem? fun k => ?_⟩
  rw [hgiven, List.getElem?_zipWith']
  cases hs : slides[k]? with
  | none =>
      have hle := List.getElem?_eq_none_iff.mp hs
      exact List.getElem?_eq_none_iff.mpr (by rw [h.length_created]; exact hle)
  | some s =>
      obtain ⟨objectId, layoutId, -, -, hr, hcreated⟩ := h.each k s hs
      rw [hcreated, List.getElem?_map, hr]
      rfl

end Plan

/-! ### The life of a generator -/

namespace Plan

/-- A call of a generator. -/
inductive Call where
  /-- To create some slides in a deck. -/
  | creation (deck : Presentation) (slides : List Slide)
  /-- To put everything onto some slides that are in a deck. -/
  | population (deck : Presentation) (slides : List Slide)

/-- A call and what came of it. -/
structure Turn where
  call : Call
  before : SequentialIds
  batch : Logged Batch
  /-- The slides as the call leaves them. -/
  slides : List Slide
  after : SequentialIds

/-- What comes of a call. -/
def Call.turn (erase : Bool) (ids : SequentialIds) (call : Call) : Turn :=
  match call with
  | creation deck slides =>
    let (batch, slides, after) := planCreation SequentialIds.source erase deck slides ids
    ⟨call, ids, batch, slides, after⟩
  | population deck slides =>
    let (batch, after) := planPopulation SequentialIds.source deck slides ids
    ⟨call, ids, batch, slides, after⟩

/-- What comes of some calls of a generator, one after the other.  The ids go on from call to call,
also from one that fails. -/
def life (erase : Bool) : SequentialIds → List Call → List Turn
  | _, [] => []
  | ids, call :: calls => call.turn erase ids :: life erase (call.turn erase ids).after calls

namespace Turn

/-- The ids that are handed out in a turn. -/
def handed (t : Turn) : List String :=
  SequentialIds.source.given t.before (t.after.count - t.before.count)

/-- What is handed out in a turn is what it shows.  In a creation the slides get these ids in order,
up to the one that cannot be created, and the rest is left as it was; if there is none such, each
slide is created by a request of its own with the id that it has.  In a population tables and images
are created with them. -/
def Accounted (t : Turn) : Prop :=
  match t.call with
  | .creation _ slides => ∃ named rest, slides = named ++ rest ∧
      t.handed.length = named.length ∧
      t.slides = List.zipWith Slide.withId named t.handed ++ rest ∧
      ∀ b, t.batch.outcome = .ok b → rest = [] ∧
        ∃ (deletions : List Request) (requests : List CreateSlide),
          b.requests = deletions ++ requests.map .createSlide ∧ createdIds deletions = [] ∧
            requests.map (·.objectId) = t.handed ∧
            t.slides.map (·.objectId) = requests.map fun r => some r.objectId
  | .population _ slides => t.slides = slides ∧
      ∀ b, t.batch.outcome = .ok b → createdIds b.requests = t.handed

theorem handed_eq {t : Turn} {n : Nat} (h : t.after = SequentialIds.source.after t.before n) :
    t.handed = SequentialIds.source.given t.before n := by
  rw [handed, h, SequentialIds.count_after_sub]

end Turn

/-- A request that fails hands out nothing. -/
theorem given_succ_of_error {ids : SequentialIds} {n : Nat} {e : Failure}
    (h : SequentialIds.source.nth ids n = .error e) :
    SequentialIds.source.given ids (n + 1) = SequentialIds.source.given ids n := by
  rw [IdSource.given_succ, h]
  exact List.append_nil _

theorem createdIds_deletions (erase : Bool) (deck : Presentation) :
    createdIds (if erase then deck.slidePages.map fun page => .deleteObject ⟨page.objectId⟩
      else []) = [] := by
  refine List.filterMap_eq_nil_iff.mpr fun r hr => ?_
  cases erase with
  | false => cases hr
  | true =>
      obtain ⟨page, -, rfl⟩ := List.mem_map.mp hr
      rfl

/-- Slides that have been given ids have these. -/
theorem map_objectId_zipWith {slides : List Slide} {ids : List String}
    (h : ids.length = slides.length) :
    (List.zipWith Slide.withId slides ids).map (·.objectId) = ids.map some := by
  induction slides generalizing ids with
  | nil => rw [List.eq_nil_of_length_eq_zero h]; rfl
  | cons s slides ih =>
      cases ids with
      | nil => cases h
      | cons id ids => exact congrArg (some id :: ·) (ih (Nat.succ.inj h))

/-- A creation leaves the source behind its requests, and shows what it was handed. -/
theorem turn_creation (erase : Bool) (ids : SequentialIds) (deck : Presentation)
    (slides : List Slide) :
    let t := Call.turn erase ids (.creation deck slides)
    (∃ n, t.after = SequentialIds.source.after t.before n) ∧ t.Accounted := by
  have hplan := planCreation_outcome SequentialIds.source erase deck slides ids
  unfold Call.turn
  rcases hcall : planCreation SequentialIds.source erase deck slides ids with
    ⟨batch, slides', after⟩
  rw [hcall] at hplan
  simp only [hcall]
  cases hbatch : batch.outcome with
  | ok b =>
      simp only [hbatch] at hplan
      obtain ⟨requests, hcreated, hafter, hrequests⟩ := hplan
      obtain ⟨hids, hslides⟩ := hcreated.eq_given
      refine ⟨⟨slides.length, hafter⟩, slides, [], (List.append_nil _).symm, ?_, ?_, ?_⟩
      · rw [Turn.handed_eq hafter, ← hids, List.length_map, hcreated.length_requests]
      · rw [Turn.handed_eq hafter, List.append_nil]
        exact hslides
      · intro b' hb'
        obtain rfl : b = b' := Except.ok.inj (hbatch.symm.trans hb')
        have hlength := congrArg List.length hids
        rw [List.length_map, hcreated.length_requests] at hlength
        rw [Turn.handed_eq hafter]
        refine ⟨rfl, _, requests, hrequests, createdIds_deletions erase deck, hids, ?_⟩
        show slides'.map (·.objectId) = _
        rw [hslides, map_objectId_zipWith hlength.symm, ← hids, List.map_map]
        rfl
  | error e =>
      simp only [hbatch] at hplan
      obtain ⟨named, s, rest, requests, created, rfl, rfl, hcreated, hwhy⟩ := hplan
      obtain ⟨hids, hslides⟩ := hcreated.eq_given
      have hafter : ∃ n, after = SequentialIds.source.after ids n ∧
          SequentialIds.source.given ids n = SequentialIds.source.given ids named.length := by
        rcases hwhy with ⟨-, hafter, -⟩ | ⟨-, hafter, herror⟩
        · exact ⟨_, hafter, rfl⟩
        · exact ⟨_, hafter, given_succ_of_error herror⟩
      obtain ⟨n, hafter, hgiven⟩ := hafter
      refine ⟨⟨n, hafter⟩, named, s :: rest, rfl, ?_, ?_, ?_⟩
      · rw [Turn.handed_eq hafter, hgiven, ← hids, List.length_map, hcreated.length_requests]
      · rw [Turn.handed_eq hafter, hgiven, ← hslides]
      · intro b hb
        cases hbatch.symm.trans hb

/-- So does a population. -/
theorem turn_population (erase : Bool) (ids : SequentialIds) (deck : Presentation)
    (slides : List Slide) :
    let t := Call.turn erase ids (.population deck slides)
    (∃ n, t.after = SequentialIds.source.after t.before n) ∧ t.Accounted := by
  have hleaves : ∃ k, (planPopulation SequentialIds.source deck slides ids).2 = _ :=
    exists_after_planPopulation deck slides ids
  unfold Call.turn
  rcases hcall : planPopulation SequentialIds.source deck slides ids with ⟨batch, after⟩
  rw [hcall] at hleaves
  simp only [hcall]
  refine ⟨hleaves, rfl, ?_⟩
  intro b hb
  have hhands := hands_planPopulation (by rw [hcall]; exact hb)
  rw [hcall] at hhands
  rw [Turn.handed_eq hhands.1]
  exact hhands.given_eq.symm

theorem turn_accounted (erase : Bool) (ids : SequentialIds) (call : Call) :
    let t := Call.turn erase ids call
    t.before = ids ∧ (∃ n, t.after = SequentialIds.source.after t.before n) ∧ t.Accounted := by
  cases call with
  | creation deck slides => exact ⟨rfl, turn_creation erase ids deck slides⟩
  | population deck slides => exact ⟨rfl, turn_population erase ids deck slides⟩

/-- What is handed out over some calls is handed out by one source over some requests. -/
theorem exists_flatMap_handed (erase : Bool) (ids : SequentialIds) (calls : List Call) :
    ∃ n, (life erase ids calls).flatMap Turn.handed = SequentialIds.source.given ids n := by
  induction calls generalizing ids with
  | nil => exact ⟨0, rfl⟩
  | cons call calls ih =>
      obtain ⟨hbefore, ⟨m, hafter⟩, -⟩ := turn_accounted erase ids call
      obtain ⟨n, hrest⟩ := ih (call.turn erase ids).after
      refine ⟨m + n, ?_⟩
      rw [life, List.flatMap_cons, hrest, Turn.handed_eq hafter, hafter, hbefore,
        IdSource.given_add]

/--
**No id is handed out twice.**  Over all calls of a generator, for any prefix and also where calls
fail on the way, the ids that are handed out differ from each other, and those of each call are what
it shows: the slides of a creation have them, and the requests of a batch create with them.
-/
theorem distinct_over_life (erase : Bool) (stem : String) (calls : List Call) :
    ((life erase (SequentialIds.ofStem stem) calls).flatMap Turn.handed).Nodup ∧
      ∀ t ∈ life erase (SequentialIds.ofStem stem) calls, t.Accounted := by
  constructor
  · obtain ⟨n, hhanded⟩ := exists_flatMap_handed erase (SequentialIds.ofStem stem) calls
    rw [hhanded]
    exact IdSource.nodup_given (SequentialIds.distinct_source _) n
  · generalize SequentialIds.ofStem stem = ids
    induction calls generalizing ids with
    | nil =>
        intro t ht
        cases ht
    | cons call calls ih =>
        intro t ht
        rcases List.mem_cons.mp ht with rfl | ht
        · exact (turn_accounted erase ids call).2.2
        · exact ih _ t ht

end Plan

end SlideDeck
