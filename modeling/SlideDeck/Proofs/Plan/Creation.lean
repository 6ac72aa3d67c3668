/-
When the creation of slides can be planned, and what it comes to.

A slide can be created if its layout is in the deck and the source has an id for it.  Slides are
planned one by one, so up to the first that cannot be created they have their ids, and from there
on nothing has changed.
-/
import SlideDeck.Plan.Creation
import SlideDeck.Proofs.Deck.Layouts
import SlideDeck.Proofs.Plan.Basic

namespace SlideDeck

/-! ### The layout of a slide -/

namespace Plan

variable {p : Presentation}

/-- The name that is looked up for a slide, if the deck has the layout that its author asks for. -/
theorem choose_layoutIds {s : Slide} (h : ∀ custom ∈ s.customLayout, p.hasLayout custom = true) :
    Layout.choose (p.layoutIds.map (·.1)) s =
      (p.layoutNameFor? s).getD (Layout.classify s).name := by
  unfold Layout.choose Presentation.layoutNameFor?
  simp only [Presentation.contains_layoutIds]
  cases hcustom : s.customLayout with
  | some custom =>
      have hhas := h custom hcustom
      simp only [hhas, if_true, Option.getD_some]
  | none =>
      simp only
      split
      · rfl
      · rw [List.headD_eq_head?_getD, List.head?_map, Presentation.head?_layoutIds]

/-- A slide is given the layout that is for it; if there is none, the failure says which one was
looked for. -/
theorem layoutId?_layoutIds (p : Presentation) (s : Slide) :
    layoutId? p.layoutIds s =
      match p.layoutFor? s with
      | some id => .ok id
      | none => .error (.layoutNotFound (s.customLayout.getD (Layout.classify s).name)
          (p.layoutIds.map (·.1))) := by
  unfold layoutId?
  simp only [Presentation.contains_layoutIds]
  split
  · rename_i custom hfilter
    obtain ⟨hcustom, hhas⟩ := Option.filter_eq_some_iff.mp hfilter
    have hnone : p.layoutFor? s = none := by
      rw [Bool.not_eq_true'] at hhas
      simp [Presentation.layoutFor?, Presentation.layoutNameFor?, hcustom, hhas]
    rw [hnone, hcustom, Option.getD_some]
  · rename_i hfilter
    have hhas : ∀ custom ∈ s.customLayout, p.hasLayout custom = true := by
      intro custom hcustom
      simpa using Option.filter_eq_none_iff.mp hfilter custom hcustom
    rw [choose_layoutIds hhas, Presentation.find?_layoutIds]
    have hlookup (n : String) := p.isSome_layoutNamed? n
    cases hname : p.layoutNameFor? s with
    | some n =>
        obtain ⟨l, hl⟩ := Option.isSome_iff_exists.mp ((Option.isSome_map.symm.trans
          (hlookup n)).trans (Presentation.hasLayout_of_layoutNameFor? hname))
        simp [Presentation.layoutFor?, Presentation.layoutNamed?, hname, hl]
    | none =>
        obtain ⟨hcustom, hlayouts⟩ := Presentation.layoutNameFor?_eq_none hhas hname
        simp [Presentation.layoutFor?, hname, hcustom, hlayouts]

/-! ### Slides one by one -/

variable {σ : Type} {ids : IdSource σ} {state state' : σ}

theorem createSlide_layoutIds (s : Slide) :
    createSlide ids p.layoutIds s state =
      match p.layoutFor? s with
      | none => (Logged.fail (.layoutNotFound (s.customLayout.getD (Layout.classify s).name)
          (p.layoutIds.map (·.1))), state)
      | some layoutId =>
        match ids.next state with
        | (.error e, state) => (Logged.fail e, state)
        | (.ok objectId, state) =>
          (pure (⟨objectId, none, layoutId⟩, { s with objectId := some objectId }), state) := by
  rw [createSlide, layoutId?_layoutIds]
  cases p.layoutFor? s with
  | none => rfl
  | some layoutId =>
      show Plan.bind (nextId ids) _ state = _
      rw [Plan.bind, nextId]
      rcases ids.next state with ⟨_ | objectId, state⟩ <;> rfl

/-- Slides that were created with the ids that a source hands out from a state on.  There is one
request for each, with its id and the layout that is for it.  Nothing else of a slide has
changed. -/
structure CreatedFrom (ids : IdSource σ) (p : Presentation) (state : σ) (slides : List Slide)
    (requests : List CreateSlide) (created : List Slide) : Prop where
  length_requests : requests.length = slides.length
  length_created : created.length = slides.length
  each : ∀ k s, slides[k]? = some s → ∃ objectId layoutId,
    ids.nth state k = .ok objectId ∧ p.layoutFor? s = some layoutId ∧
      requests[k]? = some ⟨objectId, none, layoutId⟩ ∧
      created[k]? = some { s with objectId := some objectId }

/-- The creation of some slides ended at one of them: it and those after it are as they were, those
before it were created.  Either there is no layout for it, and no id was asked for, or the source
has no id for it. -/
def HaltedFrom (ids : IdSource σ) (p : Presentation) (state : σ) (slides : List Slide) (e : Failure)
    (slides' : List Slide) (state' : σ) : Prop :=
  ∃ before s rest requests created,
    slides = before ++ s :: rest ∧ slides' = created ++ s :: rest ∧
      CreatedFrom ids p state before requests created ∧
      ((p.layoutFor? s = none ∧ state' = ids.after state before.length ∧
          e = .layoutNotFound (s.customLayout.getD (Layout.classify s).name)
            (p.layoutIds.map (·.1))) ∨
        ((p.layoutFor? s).isSome = true ∧ state' = ids.after state (before.length + 1) ∧
          ids.nth state before.length = .error e))

theorem CreatedFrom.nil : CreatedFrom ids p state [] [] [] where
  length_requests := rfl
  length_created := rfl
  each k s hs := by simp at hs

theorem CreatedFrom.cons {s : Slide} {rest created : List Slide} {requests : List CreateSlide}
    {objectId layoutId : String} (hid : ids.next state = (.ok objectId, state'))
    (hlayout : p.layoutFor? s = some layoutId)
    (hrest : CreatedFrom ids p state' rest requests created) :
    CreatedFrom ids p state (s :: rest) (⟨objectId, none, layoutId⟩ :: requests)
      ({ s with objectId := some objectId } :: created) where
  length_requests := congrArg (· + 1) hrest.length_requests
  length_created := congrArg (· + 1) hrest.length_created
  each k t ht := by
    cases k with
    | zero =>
        obtain rfl : s = t := Option.some.inj ht
        exact ⟨objectId, layoutId, congrArg Prod.fst hid, hlayout, rfl, rfl⟩
    | succ k =>
        rw [IdSource.nth_succ, hid]
        exact hrest.each k t ht

theorem HaltedFrom.cons {s : Slide} {rest slides' : List Slide} {e : Failure} {state₁ : σ}
    {objectId layoutId : String} (hid : ids.next state = (.ok objectId, state₁))
    (hlayout : p.layoutFor? s = some layoutId)
    (hrest : HaltedFrom ids p state₁ rest e slides' state') :
    HaltedFrom ids p state (s :: rest) e ({ s with objectId := some objectId } :: slides')
      state' := by
  obtain ⟨before, t, after, requests, created, rfl, rfl, hcreated, hwhy⟩ := hrest
  refine ⟨s :: before, t, after, _, _, rfl, rfl, hcreated.cons hid hlayout, ?_⟩
  rw [List.length_cons, IdSource.nth_succ, IdSource.after_succ, IdSource.after_succ, hid]
  exact hwhy

/-- Slides are created up to the first for which there is no layout or no id. -/
theorem createSlides_layoutIds (ids : IdSource σ) (p : Presentation) (slides : List Slide)
    (state : σ) :
    let (creation, state') := createSlides ids p.layoutIds slides state
    match creation.requests with
    | .ok requests =>
      CreatedFrom ids p state slides requests creation.slides ∧
        state' = ids.after state slides.length
    | .error e => HaltedFrom ids p state slides e creation.slides state' := by
  induction slides generalizing state with
  | nil => exact ⟨CreatedFrom.nil, rfl⟩
  | cons s rest ih =>
      rw [createSlides, createSlide_layoutIds]
      cases hlayout : p.layoutFor? s with
      | none =>
          exact ⟨[], s, rest, [], [], rfl, rfl, CreatedFrom.nil, .inl ⟨hlayout, rfl, rfl⟩⟩
      | some layoutId =>
          rcases hid : ids.next state with ⟨e | objectId, state₁⟩
          · exact ⟨[], s, rest, [], [], rfl, rfl, CreatedFrom.nil,
              .inr ⟨Option.isSome_of_eq_some hlayout, (congrArg Prod.snd hid).symm,
                congrArg Prod.fst hid⟩⟩
          · have hrest := ih state₁
            rcases hcreation : createSlides ids p.layoutIds rest state₁ with
              ⟨⟨e | requests, slides'⟩, state₂⟩
            · rw [hcreation] at hrest
              simp only [pure, Logged.pure, hcreation, Except.map]
              exact HaltedFrom.cons hid hlayout hrest
            · rw [hcreation] at hrest
              simp only [pure, Logged.pure, hcreation, Except.map]
              refine ⟨CreatedFrom.cons hid hlayout hrest.1, ?_⟩
              rw [List.length_cons, IdSource.after_succ, hid]
              exact hrest.2

/-- What the plan of a creation comes to, and what becomes of the slides. -/
theorem planCreation_outcome (ids : IdSource σ) (erase : Bool) (deck : Presentation)
    (slides : List Slide) (state : σ) :
    let (batch, slides', state') := planCreation ids erase deck slides state
    match batch.outcome with
    | .ok b =>
      ∃ requests, CreatedFrom ids deck state slides requests slides' ∧
        state' = ids.after state slides.length ∧
        b.requests =
          (if erase then deck.slidePages.map fun page => .deleteObject ⟨page.objectId⟩ else []) ++
            requests.map .createSlide
    | .error e => HaltedFrom ids deck state slides e slides' state' := by
  have hcreation := createSlides_layoutIds ids deck slides state
  have herased : eraseRequests deck =
      deck.slidePages.map fun page => .deleteObject ⟨page.objectId⟩ := List.map_map
  rw [planCreation, herased]
  rcases hplan : createSlides ids deck.layoutIds slides state with
    ⟨⟨e | requests, slides'⟩, state'⟩
  · rw [hplan] at hcreation
    exact hcreation
  · rw [hplan] at hcreation
    exact ⟨requests, hcreation.1, hcreation.2, rfl⟩

end Plan

end SlideDeck
