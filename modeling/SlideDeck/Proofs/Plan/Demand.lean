/-
When slides can be populated.

A plan for a slide asks for one id for its table and one for each image, and for nothing else.
That is the only way in which it can fail, once the slide was created, is in the deck and has no
more than one table: what finds no placeholder is left out with a notice.  So the plan for some
slides ends at the first slide for which one of these things is missing, and ids come to a slide
in the state in which the slides before it leave the source.

A slide that was compiled has at most one table, so what was compiled and created can be
populated in every deck that has its slides.
-/
import SlideDeck.Proofs.Draft.Refusal
import SlideDeck.Proofs.Plan.Creation
import SlideDeck.Proofs.Plan.Population

namespace SlideDeck

/-- The slides of a deck are those with the ids of its slides. -/
theorem Presentation.isNone_findSlide?_iff {p : Presentation} {slideId : String} :
    (p.findSlide? slideId).isNone = true ↔ slideId ∉ p.slideIds := by
  unfold findSlide? slideIds
  simp

/-- How many ids are asked for when a slide is populated. -/
def Slide.demand (s : Slide) : Nat := s.tables.length + s.images.length

/-- How many ids are asked for when some slides are populated. -/
def totalDemand (slides : List Slide) : Nat := (slides.map Slide.demand).sum

@[simp] theorem totalDemand_nil : totalDemand [] = 0 := rfl

@[simp] theorem totalDemand_cons (s : Slide) (slides : List Slide) :
    totalDemand (s :: slides) = s.demand + totalDemand slides := by
  simp [totalDemand]

@[simp] theorem totalDemand_append (slides slides' : List Slide) :
    totalDemand (slides ++ slides') = totalDemand slides + totalDemand slides' := by
  simp [totalDemand]

namespace Plan

/-! ### Plans that need ids only -/

variable {σ α β : Type} {ids : IdSource σ} {state : σ} {m n : Nat}

/-- A plan that asks for a number of ids, and succeeds if it gets them.  If it does not, it still
leaves the source where its requests have brought it. -/
structure Takes (ids : IdSource σ) (n : Nat) (x : Plan σ α) : Prop where
  gives : ∀ state, ids.Serves state n → ∃ a, x.Gives state a (ids.after state n)
  fails : ∀ state e, ids.FailsWithin state n e → x.Fails state e
  leaves : ∀ state, ∃ k, (x state).2 = ids.after state k

theorem takes_pure (a : α) : Takes ids 0 (pure a) where
  gives state _ := ⟨a, gives_pure_iff.mpr ⟨rfl, rfl⟩⟩
  fails state e h := by
    obtain ⟨k, hk, -⟩ := h
    omega
  leaves state := ⟨0, rfl⟩

theorem takes_notice (notice : Notice) : Takes ids 0 (Plan.notice notice) where
  gives state _ := ⟨(), gives_notice_iff.mpr rfl⟩
  fails state e h := by
    obtain ⟨k, hk, -⟩ := h
    omega
  leaves state := ⟨0, rfl⟩

theorem takes_nextId : Takes ids 1 (nextId ids) where
  gives state h := by
    obtain ⟨id, hid⟩ := h 0 Nat.one_pos
    exact ⟨id, gives_nextId_iff.mpr (Prod.ext hid rfl)⟩
  fails state e h := by
    obtain ⟨k, hk, -, he⟩ := h
    obtain rfl : k = 0 := by omega
    exact he
  leaves state := ⟨1, rfl⟩

/-- A sequence leaves the source where its last part does, or where its first part fails. -/
theorem exists_after_bind {x : Plan σ α} {f : α → Plan σ β}
    (hx : ∀ state, ∃ k, (x state).2 = ids.after state k)
    (hf : ∀ a state, ∃ k, (f a state).2 = ids.after state k) (state : σ) :
    ∃ k, ((x >>= f) state).2 = ids.after state k := by
  show ∃ k, (Plan.bind x f state).2 = _
  obtain ⟨m, hm⟩ := hx state
  unfold Plan.bind
  generalize x state = r at hm
  obtain ⟨⟨e | a, notices⟩, state₁⟩ := r
  · exact ⟨m, hm⟩
  · obtain rfl : state₁ = ids.after state m := hm
    obtain ⟨n, hn⟩ := hf a (ids.after state m)
    refine ⟨m + n, ?_⟩
    rw [IdSource.after_add]
    exact hn

/-- In a sequence the second part asks for its ids after the first. -/
theorem Takes.bind {x : Plan σ α} {f : α → Plan σ β} (hx : Takes ids m x)
    (hf : ∀ a, Takes ids n (f a)) : Takes ids (m + n) (x >>= f) where
  gives state h := by
    obtain ⟨hm, hn⟩ := IdSource.serves_add_iff.mp h
    obtain ⟨a, ha⟩ := hx.gives state hm
    obtain ⟨b, hb⟩ := (hf a).gives _ hn
    refine ⟨b, gives_bind_iff.mpr ⟨a, _, ha, ?_⟩⟩
    rw [IdSource.after_add]
    exact hb
  fails state e h := by
    rw [fails_bind_iff]
    rcases h.split with hfirst | ⟨hm, hsecond⟩
    · left
      exact hx.fails state e hfirst
    · right
      obtain ⟨a, ha⟩ := hx.gives state hm
      exact ⟨a, _, ha, (hf a).fails _ e hsecond⟩
  leaves := exists_after_bind hx.leaves fun a => (hf a).leaves

theorem takes_collect {f : α → Plan σ (List β)} (hf : ∀ a, Takes ids n (f a)) (as : List α) :
    Takes ids (as.length * n) (collect f as) := by
  induction as with
  | nil =>
      rw [List.length_nil, Nat.zero_mul]
      exact takes_pure []
  | cons a as ih =>
      have hlength : (a :: as).length * n = n + (as.length * n + 0) := by
        rw [List.length_cons, Nat.succ_mul]
        omega
      rw [hlength]
      exact (hf a).bind fun first => ih.bind fun rest => takes_pure _

/-! ### The parts of a slide -/

theorem takes_place (target : Option PageElement) (missing : Notice) (b : TextBlock) :
    Takes ids 0 (place target missing b) := by
  cases target with
  | none => exact (takes_notice missing).bind fun _ => takes_pure []
  | some e => exact takes_pure _

theorem takes_placeOptional (target : Option PageElement) (missing : Notice)
    (b : Option TextBlock) : Takes ids 0 (placeOptional target missing b) := by
  cases b with
  | none => exact takes_pure []
  | some b => exact takes_place target missing b

theorem takes_placeBodies (slideId : String) (column : Nat) (targets : List PageElement)
    (bodies : List Body) : Takes ids 0 (placeBodies slideId column targets bodies) := by
  induction bodies generalizing column targets with
  | nil =>
      unfold placeBodies
      exact takes_pure []
  | cons b bodies ih =>
      unfold placeBodies
      exact (takes_place _ _ _).bind fun here => (ih _ _).bind fun there => takes_pure _

theorem takes_placeTable (slideId : String) (t : Table) :
    Takes ids 1 (placeTable ids slideId t) :=
  takes_nextId.bind fun _ => takes_pure _

/-- A background image needs no size of the page: without it the image is placed as any other. -/
theorem takes_placeImage (deck : Presentation) (slideId : String) (image : Image) :
    Takes ids 1 (placeImage ids deck slideId image) := by
  refine takes_nextId.bind (n := 0) fun imageId => ?_
  by_cases hbackground : image.background = true
  · rw [if_pos hbackground]
    split
    · exact takes_pure _
    · exact (takes_notice _).bind fun _ => takes_pure _
  · rw [if_neg hbackground]
    exact takes_pure _

theorem takes_placeNotes (deck : Presentation) (slideId : String) (notes : Option String) :
    Takes ids 0 (placeNotes deck slideId notes) := by
  unfold placeNotes
  split
  · exact takes_pure []
  · split
    · exact takes_pure _
    · exact (takes_notice _).bind fun _ => takes_pure []

/-- What goes onto a slide with at most one table needs ids for the table and the images. -/
theorem takes_placeAll {s : Slide} (htables : s.tables.length ≤ 1) (deck : Presentation)
    (slideId : String) : Takes ids s.demand (placeAll ids deck slideId s) := by
  have htake : s.tables.take 1 = s.tables := List.take_of_length_le htables
  have hdemand : s.demand =
      0 + (0 + (0 + (s.tables.length * 1 + (s.images.length * 1 + (0 + 0))))) := by
    unfold Slide.demand
    omega
  unfold placeAll
  rw [hdemand, htake]
  exact (takes_placeOptional _ _ _).bind fun title =>
    (takes_placeOptional _ _ _).bind fun subtitle =>
      (takes_placeBodies _ _ _ _).bind fun bodies =>
        (takes_collect (takes_placeTable slideId) _).bind fun table =>
          (takes_collect (takes_placeImage deck slideId) _).bind fun images =>
            (takes_placeNotes _ _ _).bind fun notes => takes_pure _

/-! ### What keeps a slide from being populated -/

variable {deck : Presentation} {s : Slide} {e : Failure}

/-- A slide that cannot be populated: it was not created or is not in the deck, it has several
tables, or the source fails on one of the ids for it. -/
def Blocked (ids : IdSource σ) (deck : Presentation) (state : σ) (s : Slide) : Prop :=
  s.objectId = none ∨ (∃ slideId, s.objectId = some slideId ∧ slideId ∉ deck.slideIds) ∨
    1 < s.tables.length ∨ ∃ k < s.demand, ∃ e, ids.nth state k = .error e

/-- Why a slide cannot be populated. -/
inductive Obstacle (ids : IdSource σ) (deck : Presentation) (state : σ) (s : Slide) : Failure → Prop
  | notCreated (hid : s.objectId = none) : Obstacle ids deck state s .notCreated
  | slideNotFound {slideId : String} (hid : s.objectId = some slideId)
      (hdeck : slideId ∉ deck.slideIds) :
      Obstacle ids deck state s (.slideNotFound slideId deck.presentationId)
  | severalTables {slideId : String} (hid : s.objectId = some slideId)
      (hdeck : slideId ∈ deck.slideIds) (htables : 1 < s.tables.length) :
      Obstacle ids deck state s .severalTables
  | noId {slideId : String} {e : Failure} (hid : s.objectId = some slideId)
      (hdeck : slideId ∈ deck.slideIds) (htables : s.tables.length ≤ 1)
      (hsource : ids.FailsWithin state s.demand e) : Obstacle ids deck state s e

/-- What is not blocked is in the deck with at most one table, and gets its ids. -/
theorem of_not_blocked (h : ¬Blocked ids deck state s) :
    ∃ slideId, s.objectId = some slideId ∧ slideId ∈ deck.slideIds ∧ s.tables.length ≤ 1 ∧
      ids.Serves state s.demand := by
  unfold Blocked at h
  rw [not_or, not_or, not_or] at h
  obtain ⟨hcreated, hdeck, htables, hids⟩ := h
  obtain ⟨slideId, hid⟩ := Option.ne_none_iff_exists'.mp hcreated
  refine ⟨slideId, hid, ?_, by omega, ?_⟩
  · by_contra hnot
    exact hdeck ⟨slideId, hid, hnot⟩
  · intro k hk
    cases hnth : ids.nth state k with
    | error e => exact absurd ⟨k, hk, e, hnth⟩ hids
    | ok id => exact ⟨id, rfl⟩

/-- Something blocked has its reason. -/
theorem Blocked.exists_obstacle (h : Blocked ids deck state s) :
    ∃ e, Obstacle ids deck state s e := by
  cases hid : s.objectId with
  | none => exact ⟨_, .notCreated hid⟩
  | some slideId =>
      by_cases hdeck : slideId ∈ deck.slideIds
      · by_cases htables : 1 < s.tables.length
        · exact ⟨_, .severalTables hid hdeck htables⟩
        · rcases ids.serves_or_failsWithin state s.demand with hserves | ⟨e, hsource⟩
          · rcases h with hnone | ⟨slideId', hid', hnot⟩ | hmany | ⟨k, hk, e, he⟩
            · rw [hid] at hnone
              cases hnone
            · obtain rfl : slideId = slideId' := Option.some.inj (hid.symm.trans hid')
              exact absurd hdeck hnot
            · exact absurd hmany htables
            · exact absurd he (hserves.ne_error hk)
          · exact ⟨e, .noId hid hdeck (by omega) hsource⟩
      · exact ⟨_, .slideNotFound hid hdeck⟩

theorem populatedId?_of_mem {slideId : String} (hid : s.objectId = some slideId)
    (hdeck : slideId ∈ deck.slideIds) :
    populatedId? deck s = if 1 < s.tables.length then .error .severalTables else .ok slideId := by
  have hfound : ¬(deck.findSlide? slideId).isNone = true := by
    rw [Presentation.isNone_findSlide?_iff]
    exact fun hnot => hnot hdeck
  simp only [populatedId?, hid]
  rw [if_neg hfound]

/-- A slide that is in the deck with at most one table needs ids only. -/
theorem takes_populateSlide {slideId : String} (hid : s.objectId = some slideId)
    (hdeck : slideId ∈ deck.slideIds) (htables : s.tables.length ≤ 1) :
    Takes ids s.demand (populateSlide ids deck s) := by
  have hpopulated : populatedId? deck s = .ok slideId := by
    rw [populatedId?_of_mem hid hdeck, if_neg (by omega)]
  unfold populateSlide
  rw [hpopulated]
  exact takes_placeAll htables deck slideId

theorem Obstacle.fails (h : Obstacle ids deck state s e) :
    (populateSlide ids deck s).Fails state e := by
  cases h with
  | notCreated hid =>
      unfold populateSlide populatedId?
      rw [hid]
      rfl
  | @slideNotFound slideId hid hdeck =>
      have hnone := Presentation.isNone_findSlide?_iff.mpr hdeck
      unfold populateSlide populatedId?
      simp only [hid]
      rw [if_pos hnone]
      rfl
  | severalTables hid hdeck htables =>
      unfold populateSlide
      rw [populatedId?_of_mem hid hdeck, if_pos htables]
      rfl
  | noId hid hdeck htables hsource =>
      exact (takes_populateSlide hid hdeck htables).fails state e hsource

theorem gives_populateSlide (h : ¬Blocked ids deck state s) :
    ∃ rs, (populateSlide ids deck s).Gives state rs (ids.after state s.demand) := by
  obtain ⟨slideId, hid, hdeck, htables, hserves⟩ := of_not_blocked h
  exact (takes_populateSlide hid hdeck htables).gives state hserves

/-! ### Slides one by one -/

/-- None of some slides is blocked, when its turn comes. -/
def Clear (ids : IdSource σ) (deck : Presentation) (state : σ) (slides : List Slide) : Prop :=
  ∀ before s after, slides = before ++ s :: after →
    ¬Blocked ids deck (ids.after state (totalDemand before)) s

theorem clear_cons_iff {slides : List Slide} :
    Clear ids deck state (s :: slides) ↔
      ¬Blocked ids deck state s ∧ Clear ids deck (ids.after state s.demand) slides := by
  constructor
  · intro h
    constructor
    · exact h [] s slides rfl
    · rintro before s' after rfl
      have hturn := h (s :: before) s' after rfl
      rwa [totalDemand_cons, IdSource.after_add] at hturn
  · rintro ⟨hs, hrest⟩ before s' after heq
    cases before with
    | nil =>
        obtain ⟨rfl, -⟩ := List.cons.inj heq
        exact hs
    | cons b before =>
        obtain ⟨rfl, rfl⟩ := List.cons.inj heq
        rw [totalDemand_cons, IdSource.after_add]
        exact hrest before s' after rfl

/-- If none is blocked, all are populated. -/
theorem Clear.gives {slides : List Slide} (h : Clear ids deck state slides) :
    ∃ rs, (collect (populateSlide ids deck) slides).Gives state rs
      (ids.after state (totalDemand slides)) := by
  induction slides generalizing state with
  | nil => exact ⟨[], gives_pure_iff.mpr ⟨rfl, rfl⟩⟩
  | cons s slides ih =>
      obtain ⟨hs, hrest⟩ := clear_cons_iff.mp h
      obtain ⟨first, hfirst⟩ := gives_populateSlide hs
      obtain ⟨rest, hrest⟩ := ih hrest
      rw [totalDemand_cons, IdSource.after_add]
      exact ⟨first ++ rest, gives_bind_iff.mpr ⟨first, _, hfirst,
        gives_bind_iff.mpr ⟨rest, _, hrest, gives_pure_iff.mpr ⟨rfl, rfl⟩⟩⟩⟩

/-- The first obstacle is the failure of the plan. -/
theorem Clear.fails {before after : List Slide} (h : Clear ids deck state before)
    (hs : Obstacle ids deck (ids.after state (totalDemand before)) s e) :
    (collect (populateSlide ids deck) (before ++ s :: after)).Fails state e := by
  induction before generalizing state with
  | nil => exact fails_bind_iff.mpr (.inl hs.fails)
  | cons b before ih =>
      obtain ⟨hb, hrest⟩ := clear_cons_iff.mp h
      obtain ⟨first, hfirst⟩ := gives_populateSlide hb
      rw [totalDemand_cons, IdSource.after_add] at hs
      have hfails := ih hrest hs
      exact fails_bind_iff.mpr (.inr ⟨first, _, hfirst, fails_bind_iff.mpr (.inl hfails)⟩)

/-- None is blocked, or there is a first one that is. -/
theorem clear_or_exists_first (ids : IdSource σ) (deck : Presentation) (state : σ)
    (slides : List Slide) :
    Clear ids deck state slides ∨ ∃ before s after, slides = before ++ s :: after ∧
      Clear ids deck state before ∧
        Blocked ids deck (ids.after state (totalDemand before)) s := by
  induction slides generalizing state with
  | nil =>
      left
      intro before s after heq
      simp at heq
  | cons s slides ih =>
      by_cases hs : Blocked ids deck state s
      · refine .inr ⟨[], s, slides, rfl, ?_, hs⟩
        intro before s' after heq
        simp at heq
      · rcases ih (ids.after state s.demand) with hclear | ⟨before, s', after, rfl, hclear, hs'⟩
        · exact .inl (clear_cons_iff.mpr ⟨hs, hclear⟩)
        · refine .inr ⟨s :: before, s', after, rfl, clear_cons_iff.mpr ⟨hs, hclear⟩, ?_⟩
          rw [totalDemand_cons, IdSource.after_add]
          exact hs'

theorem fails_planPopulation_iff {slides : List Slide} :
    (planPopulation ids deck slides).Fails state e ↔
      (collect (populateSlide ids deck) slides).Fails state e := by
  unfold planPopulation
  rw [fails_bind_iff]
  constructor
  · rintro (h | ⟨rs, state₁, -, h⟩)
    · exact h
    · cases h
  · intro h
    exact .inl h

/-- The plan for some slides fails with the reason of the first that is blocked. -/
theorem fails_iff_first_obstacle {slides : List Slide} :
    (planPopulation ids deck slides).Fails state e ↔
      ∃ before s after, slides = before ++ s :: after ∧ Clear ids deck state before ∧
        Obstacle ids deck (ids.after state (totalDemand before)) s e := by
  rw [fails_planPopulation_iff]
  constructor
  · intro h
    rcases clear_or_exists_first ids deck state slides with
      hclear | ⟨before, s, after, rfl, hclear, hblocked⟩
    · obtain ⟨rs, hrs⟩ := hclear.gives
      exact absurd hrs h.not_gives
    · obtain ⟨e', hobstacle⟩ := hblocked.exists_obstacle
      obtain rfl := h.unique (hclear.fails hobstacle)
      exact ⟨before, s, after, rfl, hclear, hobstacle⟩
  · rintro ⟨before, s, after, rfl, hclear, hobstacle⟩
    exact hclear.fails hobstacle

/-! ### Slides that were compiled and created -/

/-- Slides that were created are those that were to be, with ids. -/
theorem CreatedFrom.of_mem {slides created : List Slide} {requests : List CreateSlide}
    (h : CreatedFrom ids deck state slides requests created) (hs : s ∈ created) :
    ∃ t ∈ slides, ∃ slideId, s = { t with objectId := some slideId } := by
  obtain ⟨k, hk⟩ := List.mem_iff_getElem?.mp hs
  obtain ⟨hlt, -⟩ := List.getElem?_eq_some_iff.mp hk
  rw [h.length_created] at hlt
  obtain ⟨slideId, -, -, -, -, hcreated⟩ := h.each k _ (List.getElem?_eq_getElem hlt)
  exact ⟨slides[k], List.getElem_mem hlt, slideId, Option.some.inj (hk.symm.trans hcreated)⟩

theorem createdFrom_of_planCreation {erase : Bool} {slides created : List Slide} {state' : σ}
    {batch : Logged Batch} {b : Batch}
    (hplan : planCreation ids erase deck slides state = (batch, created, state'))
    (hok : batch.outcome = .ok b) :
    ∃ requests, CreatedFrom ids deck state slides requests created := by
  have hcreation := planCreation_outcome ids erase deck slides state
  rw [hplan] at hcreation
  simp only [hok] at hcreation
  obtain ⟨requests, hcreated, -⟩ := hcreation
  exact ⟨requests, hcreated⟩

/-- Slides that were created from slides with at most one table each are clear in every deck that
has them, if the source has the ids. -/
theorem clear_of_created {slides : List Slide} (hserves : ids.Serves state (totalDemand slides))
    (hslides : ∀ s ∈ slides, s.tables.length ≤ 1 ∧
      ∃ slideId, s.objectId = some slideId ∧ slideId ∈ deck.slideIds) :
    Clear ids deck state slides := by
  rintro before s after rfl hblocked
  obtain ⟨htables, slideId, hid, hdeck⟩ := hslides s (by simp)
  rw [totalDemand_append, totalDemand_cons] at hserves
  have hdemand : ids.Serves (ids.after state (totalDemand before)) s.demand :=
    (IdSource.serves_add_iff.mp (IdSource.serves_add_iff.mp hserves).2).1
  rcases hblocked with hnone | ⟨slideId', hid', hnot⟩ | hmany | ⟨k, hk, e, he⟩
  · rw [hid] at hnone
    cases hnone
  · obtain rfl : slideId = slideId' := Option.some.inj (hid.symm.trans hid')
    exact hnot hdeck
  · omega
  · exact hdemand.ne_error hk he

/-- **When slides can be populated.**  What was compiled and created can be, in every deck that has
the slides and with every source that has an id for each table and image.  Whatever the slides and
the deck are, the plan fails exactly if some slide was not created or is not in the deck, has
several tables, or needs an id on which the source fails; the failure is that of the first such
slide.  Nothing is said of placeholders, for a plan never fails for want of one. -/
theorem planPopulation_fails_iff {σ : Type} {ids : IdSource σ} {deck : Presentation} {state : σ}
    {slides : List Slide} :
    (∀ (tokens : List Token) (compiled : List Slide) (ids₀ : IdSource σ) (erase : Bool)
        (deck₀ : Presentation) (state₀ state₁ : σ) (batch : Logged Batch) (b : Batch),
      (compileTokens tokens).outcome = .ok compiled →
      planCreation ids₀ erase deck₀ compiled state₀ = (batch, slides, state₁) →
      batch.outcome = .ok b →
      (∀ s ∈ slides, ∀ slideId, s.objectId = some slideId → slideId ∈ deck.slideIds) →
      ids.Serves state (totalDemand slides) →
      ∃ b', (planPopulation ids deck slides state).1.outcome = .ok b') ∧
    ((∃ e, (planPopulation ids deck slides state).1.outcome = .error e) ↔
      ∃ before s after, slides = before ++ s :: after ∧
        (s.objectId = none ∨
          (∃ slideId, s.objectId = some slideId ∧ slideId ∉ deck.slideIds) ∨
          1 < s.tables.length ∨
          ∃ k < s.demand, ∃ e, ids.nth (ids.after state (totalDemand before)) k = .error e)) ∧
    ∀ e, (planPopulation ids deck slides state).1.outcome = .error e ↔
      ∃ before s after, slides = before ++ s :: after ∧
        (∀ before' s' after', before = before' ++ s' :: after' →
          ¬Blocked ids deck (ids.after state (totalDemand before')) s') ∧
        Obstacle ids deck (ids.after state (totalDemand before)) s e := by
  refine ⟨?_, ?_, fun e => fails_iff_first_obstacle⟩
  · intro tokens compiled ids₀ erase deck₀ state₀ state₁ batch b hcompile hcreate hok hdeck hserves
    obtain ⟨requests, hcreated⟩ := createdFrom_of_planCreation hcreate hok
    have hslides : ∀ s ∈ slides, s.tables.length ≤ 1 ∧
        ∃ slideId, s.objectId = some slideId ∧ slideId ∈ deck.slideIds := by
      intro s hs
      obtain ⟨t, ht, slideId, rfl⟩ := hcreated.of_mem hs
      exact ⟨tables_compileTokens hcompile t ht, slideId, rfl, hdeck _ hs slideId rfl⟩
    cases hout : (planPopulation ids deck slides state).1.outcome with
    | ok b' => exact ⟨b', rfl⟩
    | error e =>
        obtain ⟨before, s, after, heq, -, hobstacle⟩ := fails_iff_first_obstacle.mp hout
        obtain ⟨rs, hrs⟩ := (clear_of_created hserves hslides).gives
        exact absurd hrs (fails_planPopulation_iff.mp hout).not_gives
  · constructor
    · rintro ⟨e, he⟩
      rcases clear_or_exists_first ids deck state slides with
        hclear | ⟨before, s, after, heq, -, hblocked⟩
      · obtain ⟨rs, hrs⟩ := hclear.gives
        exact absurd hrs (fails_planPopulation_iff.mp he).not_gives
      · exact ⟨before, s, after, heq, hblocked⟩
    · rintro ⟨before, s, after, heq, hblocked⟩
      rcases clear_or_exists_first ids deck state slides with
        hclear | ⟨before', s', after', heq', hclear, hblocked'⟩
      · exact absurd hblocked (hclear before s after heq)
      · obtain ⟨e, hobstacle⟩ := hblocked'.exists_obstacle
        exact ⟨e, fails_iff_first_obstacle.mpr ⟨before', s', after', heq', hclear, hobstacle⟩⟩

/-- A deck with a layout and without slides. -/
def layoutDeck : Presentation where
  presentationId := "deck"
  pageSize := none
  slides := none
  title := none
  layouts := some [⟨"l1", none, none, none, some ⟨none, some "BLANK", none⟩, none⟩]
  revisionId := none

/-- Slides that are created with the ids of the slides of a deck are populated there, and not in the
deck in which they were created, as long as they are not in it. -/
theorem filledSlides_populable :
    (compileTokens filledTokens).outcome = .ok (filledSlides.map (·.1)) ∧
    (∃ batch b, planCreation (IdSource.numbered "s") false layoutDeck (filledSlides.map (·.1)) 1 =
      (batch, filledSlides.map fun n => n.1.withId n.2, 3) ∧ batch.outcome = .ok b) ∧
    (∃ b, (planPopulation (IdSource.numbered "s") filledDeck
      (filledSlides.map fun n => n.1.withId n.2) 3).1.outcome = .ok b) ∧
    (planPopulation (IdSource.numbered "s") layoutDeck
      (filledSlides.map fun n => n.1.withId n.2) 3).1.outcome =
        .error (.slideNotFound "s1" "deck") := by
  have hcompile : (compileTokens filledTokens).outcome = .ok (filledSlides.map (·.1)) := by
    decide +kernel
  have hcreate : planCreation (IdSource.numbered "s") false layoutDeck (filledSlides.map (·.1)) 1 =
      (_, filledSlides.map fun n => n.1.withId n.2, 3) := rfl
  have hdeck : ∀ s ∈ filledSlides.map fun n => n.1.withId n.2, ∀ slideId,
      s.objectId = some slideId → slideId ∈ filledDeck.slideIds := by decide
  refine ⟨hcompile, ⟨_, _, hcreate, rfl⟩, ?_, ?_⟩
  · refine planPopulation_fails_iff.1 _ _ _ _ _ _ _ _ _ hcompile hcreate rfl hdeck ?_
    intro k _
    exact ⟨_, IdSource.nth_numbered "s" 3 k⟩
  · refine (planPopulation_fails_iff.2.2 _).mpr ⟨[], _, _, rfl, ?_, ?_⟩
    · intro before' s' after' heq
      simp at heq
    · exact .slideNotFound rfl (by decide)

end Plan

end SlideDeck
