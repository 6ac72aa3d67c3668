/-
A batch that fills slides is well addressed.

The parts of a slide are planned one after the other.  Each of them comes with the shapes that its
text goes into and with the ids that it takes from the source, finds what it needs among its own
requests, and writes nowhere else.  Parts for different shapes fit together, those of one slide as
those of several, so a batch writes no place twice and creates nothing twice.
-/
import SlideDeck.Proofs.Deck.Placeholders
import SlideDeck.Proofs.Plan.Addresses
import SlideDeck.Proofs.Plan.Basic

namespace SlideDeck

open Server

/-! ### Requests that fit into shapes -/

namespace Plan

variable {σ : Type} {ids : IdSource σ} {pages pages' shapes shapes' : List String}
  {state state₁ state₂ : σ} {rs rs' : List Request}

/-- Requests for given pages and for given shapes on them, which take ids from a source.  They find
what they need among themselves, and each text goes into another shape or a cell of its own. -/
structure Fits (ids : IdSource σ) (pages shapes : List String) (state : σ) (rs : List Request)
    (state' : σ) : Prop where
  ready : Request.ReadyFrom [] rs
  hands : ids.Hands state (createdIds rs) state'
  names : ∀ r ∈ rs, ∀ id ∈ r.names, id ∈ pages ∨ id ∈ shapes ++ createdIds rs
  within : ∀ t ∈ insertTargets rs, t.objectId ∈ shapes ++ createdIds rs
  inserted : (shapes ++ createdIds rs).Nodup → (insertTargets rs).Nodup

theorem fits_nil (pages shapes : List String) (state : σ) :
    Fits ids pages shapes state [] state where
  ready := Request.readyFrom_nil []
  hands := IdSource.hands_nil state
  names _ hr := by cases hr
  within _ ht := by cases ht
  inserted _ := List.nodup_nil

theorem Fits.append (h : Fits ids pages shapes state rs state₁)
    (h' : Fits ids pages shapes' state₁ rs' state₂) :
    Fits ids pages (shapes ++ shapes') state (rs ++ rs') state₂ := by
  have hperm : ((shapes ++ shapes') ++ createdIds (rs ++ rs')).Perm
      ((shapes ++ createdIds rs) ++ (shapes' ++ createdIds rs')) := by
    rw [createdIds_append, List.append_assoc, List.append_assoc]
    refine List.Perm.append_left shapes ?_
    rw [← List.append_assoc, ← List.append_assoc]
    exact List.perm_append_comm.append_right _
  have hleft {id : String} (hid : id ∈ shapes ++ createdIds rs) :
      id ∈ (shapes ++ shapes') ++ createdIds (rs ++ rs') :=
    hperm.mem_iff.mpr (List.mem_append_left _ hid)
  have hright {id : String} (hid : id ∈ shapes' ++ createdIds rs') :
      id ∈ (shapes ++ shapes') ++ createdIds (rs ++ rs') :=
    hperm.mem_iff.mpr (List.mem_append_right _ hid)
  refine ⟨?_, ?_, fun r hr id hid => ?_, fun t ht => ?_, fun hnodup => ?_⟩
  · exact h.ready.append (h'.ready.mono (List.nil_subset _))
  · rw [createdIds_append]
    exact h.hands.append h'.hands
  · rcases List.mem_append.mp hr with hr | hr
    · exact (h.names r hr id hid).imp_right hleft
    · exact (h'.names r hr id hid).imp_right hright
  · rw [insertTargets_append] at ht
    rcases List.mem_append.mp ht with ht | ht
    · exact hleft (h.within t ht)
    · exact hright (h'.within t ht)
  · -- What one part writes to, the other one does not have.
    obtain ⟨hrs, hrs', hne⟩ := List.nodup_append.mp (hperm.nodup_iff.mp hnodup)
    rw [insertTargets_append]
    refine List.nodup_append.mpr ⟨h.inserted hrs, h'.inserted hrs', fun t ht t' ht' heq => ?_⟩
    exact hne t.objectId (h.within t ht) t'.objectId (h'.within t' ht')
      (congrArg Target.objectId heq)

/-- Requests for some shapes and pages are also requests for more of them. -/
theorem Fits.mono (h : Fits ids pages shapes state rs state₁) (hpages : pages ⊆ pages')
    (hshapes : shapes.Subperm shapes') : Fits ids pages' shapes' state rs state₁ := by
  have hsub := hshapes.append (List.Subperm.refl (createdIds rs))
  refine ⟨h.ready, h.hands, fun r hr id hid => ?_, fun t ht => hsub.subset (h.within t ht),
    fun hnodup => ?_⟩
  · rcases h.names r hr id hid with hid | hid
    · exact .inl (hpages hid)
    · exact .inr (hsub.subset hid)
  · obtain ⟨as, hperm, hsub⟩ := hsub
    exact h.inserted (hperm.nodup_iff.mp (hsub.nodup hnodup))

/-! ### What each part of a slide comes to -/

/-- Requests that all name one shape fit into it. -/
theorem fits_named {objectId : String}
    (hrs : ∀ r ∈ rs, r.names = [objectId] ∧ r.created? = none) (hready : Request.ReadyFrom [] rs)
    (hinserted : (insertTargets rs).Nodup) : Fits ids pages [objectId] state rs state := by
  have hcreated : createdIds rs = [] := List.filterMap_eq_nil_iff.mpr fun r hr => (hrs r hr).2
  refine ⟨hready, ?_, ?_, ?_, fun _ => hinserted⟩
  · rw [hcreated]
    exact IdSource.hands_nil state
  · intro r hr id hid
    rw [(hrs r hr).1] at hid
    exact .inr (List.mem_append_left _ hid)
  · intro t ht
    obtain ⟨r, hr, htarget⟩ := List.mem_filterMap.mp ht
    have hname := Request.objectId_mem_names htarget
    rw [(hrs r hr).1] at hname
    exact List.mem_append_left _ hname

/-- Something is created on a page, and the other requests all name only that. -/
theorem fits_created {objectId : String} {r : Request} (hid : ids.Hands state [objectId] state₁)
    (hr : r.created? = some objectId) (hinserted : r.inserted? = none) (hready : r.Ready [])
    (hnames : ∀ id ∈ r.names, id = objectId ∨ id ∈ pages)
    (hrs : ∀ r ∈ rs, r.names = [objectId] ∧ r.created? = none)
    (hrsReady : Request.ReadyFrom [r] rs) (hrsInserted : (insertTargets rs).Nodup) :
    Fits ids pages [] state (r :: rs) state₁ := by
  have hcreated : createdIds (r :: rs) = [objectId] := by
    rw [createdIds, List.filterMap_cons_some hr,
      List.filterMap_eq_nil_iff.mpr fun r' hr' => (hrs r' hr').2]
  have htargets : insertTargets (r :: rs) = insertTargets rs := List.filterMap_cons_none hinserted
  have hfirst : Request.ReadyFrom [] [r] := by
    refine Request.readyFrom_of_forall fun r' hr' => ?_
    rw [List.mem_singleton.mp hr']
    exact hready
  refine ⟨hfirst.append hrsReady, ?_, ?_, ?_, fun _ => ?_⟩
  · rw [hcreated]
    exact hid
  · intro r' hr' id hid
    rw [hcreated]
    rcases List.mem_cons.mp hr' with rfl | hr'
    · rcases hnames id hid with rfl | hpage
      · exact .inr (List.mem_singleton_self id)
      · exact .inl hpage
    · rw [(hrs r' hr').1] at hid
      exact .inr hid
  · intro t ht
    rw [htargets] at ht
    rw [hcreated]
    obtain ⟨r', hr', htarget⟩ := List.mem_filterMap.mp ht
    rw [← (hrs r' hr').1]
    exact Request.objectId_mem_names htarget
  · rw [htargets]
    exact hrsInserted

theorem fits_textRequests {b : TextBlock} (hb : b.Sealed) (objectId : String) :
    Fits ids pages [objectId] state (textRequests objectId none b) state := by
  refine fits_named (fun r hr => ?_) (readyFrom_textRequests hb fun _ h => by cases h) ?_
  · exact ⟨names_of_mem_textRequests hr, created?_of_mem_textRequests hr⟩
  · exact (insertTargets_textRequests objectId none b).nodup (List.nodup_singleton _)

theorem fits_place {target : Option PageElement} {missing : Notice} {b : TextBlock} (hb : b.Sealed)
    (h : (place target missing b).Gives state rs state₁) :
    Fits ids pages (target.toList.map (·.objectId)) state rs state₁ := by
  cases target with
  | none =>
      obtain ⟨rfl, rfl⟩ := gives_pure_iff.mp (gives_notice_bind_iff.mp h)
      exact fits_nil pages _ state
  | some e =>
      obtain ⟨rfl, rfl⟩ := gives_pure_iff.mp h
      exact fits_textRequests hb e.objectId

theorem fits_placeOptional {target : Option PageElement} {missing : Notice}
    {b? : Option TextBlock} (hb : ∀ b ∈ b?, b.Sealed)
    (h : (placeOptional target missing b?).Gives state rs state₁) :
    Fits ids pages (target.toList.map (·.objectId)) state rs state₁ := by
  cases b? with
  | none =>
      obtain ⟨rfl, rfl⟩ := gives_pure_iff.mp h
      exact fits_nil pages _ state
  | some b => exact fits_place (hb b rfl) h

theorem fits_placeBodies {slideId : String} {column : Nat} {targets : List PageElement}
    {bodies : List Body} (hb : ∀ b ∈ bodies, b.text.Sealed)
    (h : (placeBodies slideId column targets bodies).Gives state rs state₁) :
    Fits ids pages (targets.map (·.objectId)) state rs state₁ := by
  induction bodies generalizing column targets state rs with
  | nil =>
      obtain ⟨rfl, rfl⟩ := gives_pure_iff.mp h
      exact fits_nil pages _ state
  | cons b bodies ih =>
      obtain ⟨here, _, hhere, h⟩ := gives_bind_iff.mp h
      obtain ⟨there, _, hthere, h⟩ := gives_bind_iff.mp h
      obtain ⟨rfl, rfl⟩ := gives_pure_iff.mp h
      have hfirst : Fits ids pages _ state here _ := fits_place (hb b (List.mem_cons_self ..)) hhere
      have hrest := ih (fun b hb' => hb b (List.mem_cons_of_mem _ hb')) hthere
      have hboth := hfirst.append hrest
      rw [← List.map_append] at hboth
      cases targets with
      | nil => exact hboth
      | cons e targets => exact hboth

/-- A table is created first, and each of its cells is written at most once. -/
theorem fits_placeTable {slideId : String} {t : Table} (hpage : slideId ∈ pages)
    (ht : t = Table.ofCells t.cells) (hcells : ∀ row ∈ t.cells, ∀ b ∈ row, b.Sealed)
    (h : (placeTable ids slideId t).Gives state rs state₁) : Fits ids pages [] state rs state₁ := by
  obtain ⟨tableId, _, hid, h⟩ := gives_bind_iff.mp h
  obtain ⟨rfl, rfl⟩ := gives_pure_iff.mp h
  refine fits_created (hands_of_gives_nextId hid) rfl rfl trivial ?_ ?_ ?_
    (nodup_insertTargets_cellRequests tableId t.cells)
  · intro id hname
    rcases List.mem_cons.mp hname with rfl | hname
    · exact .inl rfl
    · rw [List.mem_singleton.mp hname]
      exact .inr hpage
  · intro r hr
    obtain ⟨cell, b, hr⟩ := mem_cellRequests hr
    exact ⟨names_of_mem_textRequests hr, created?_of_mem_textRequests hr⟩
  · exact readyFrom_cellRequests (List.mem_singleton_self _) (congrArg Table.rows ht)
      (congrArg Table.columns ht) hcells

/-- An image is created before it is moved. -/
theorem fits_createImage {image : CreateImage} (hid : ids.Hands state [image.objectId] state₁)
    (hpage : image.elementProperties.pageObjectId ∈ pages) (moves : List ZOrderOperation) :
    Fits ids pages [] state
      (.createImage image :: moves.map fun move => .updateZOrder ⟨[image.objectId], move⟩)
      state₁ := by
  refine fits_created hid rfl rfl trivial ?_ ?_ ?_ ?_
  · intro id hname
    rcases List.mem_cons.mp hname with rfl | hname
    · exact .inl rfl
    · rw [List.mem_singleton.mp hname]
      exact .inr hpage
  · intro r hr
    obtain ⟨move, -, rfl⟩ := List.mem_map.mp hr
    exact ⟨rfl, rfl⟩
  · refine Request.readyFrom_of_forall fun r hr => ?_
    obtain ⟨move, -, rfl⟩ := List.mem_map.mp hr
    intro id hname
    exact ⟨image, List.mem_singleton_self _, (List.mem_singleton.mp hname).symm⟩
  · have hnone : insertTargets
        (moves.map fun move => .updateZOrder ⟨[image.objectId], move⟩) = [] := by
      refine List.filterMap_eq_nil_iff.mpr fun r hr => ?_
      obtain ⟨move, -, rfl⟩ := List.mem_map.mp hr
      rfl
    rw [hnone]
    exact List.nodup_nil

theorem fits_placeImage {deck : Presentation} {slideId : String} {image : Image}
    (hpage : slideId ∈ pages)
    (h : (placeImage ids deck slideId image).Gives state rs state₁) :
    Fits ids pages [] state rs state₁ := by
  obtain ⟨imageId, _, hid, h⟩ := gives_bind_iff.mp h
  have hhands := hands_of_gives_nextId hid
  by_cases hbackground : image.background = true
  · rw [if_pos hbackground] at h
    cases hsize : deck.pageDimensions? with
    | some size =>
        rw [hsize] at h
        obtain ⟨rfl, rfl⟩ := gives_pure_iff.mp h
        exact fits_createImage hhands hpage [.sendToBack]
    | none =>
        rw [hsize] at h
        obtain ⟨rfl, rfl⟩ := gives_pure_iff.mp (gives_notice_bind_iff.mp h)
        exact fits_createImage hhands hpage []
  · rw [if_neg hbackground] at h
    obtain ⟨rfl, rfl⟩ := gives_pure_iff.mp h
    exact fits_createImage hhands hpage []

theorem fits_placeNotes {deck : Presentation} {slideId : String} {notes : Option String}
    (h : (placeNotes deck slideId notes).Gives state rs state₁) :
    Fits ids pages (deck.speakerNotesId? slideId).toList state rs state₁ := by
  unfold placeNotes at h
  cases hnotes : notes.filter (!·.isEmpty) with
  | none =>
      rw [hnotes] at h
      obtain ⟨rfl, rfl⟩ := gives_pure_iff.mp h
      exact fits_nil pages _ state
  | some text =>
      rw [hnotes] at h
      cases hid : deck.speakerNotesId? slideId with
      | none =>
          rw [hid] at h
          obtain ⟨rfl, rfl⟩ := gives_pure_iff.mp (gives_notice_bind_iff.mp h)
          exact fits_nil pages _ state
      | some notesId =>
          rw [hid] at h
          obtain ⟨rfl, rfl⟩ := gives_pure_iff.mp h
          have htext : text ≠ "" := by
            simpa using (Option.filter_eq_some_iff.mp hnotes).2
          refine fits_named (fun r hr => ?_) (Request.readyFrom_of_forall fun r hr => ?_)
            (List.nodup_singleton _)
          · rw [List.mem_singleton.mp hr]
            exact ⟨rfl, rfl⟩
          · rw [List.mem_singleton.mp hr]
            exact ⟨htext, fun _ h => by cases h⟩

end Plan

/-! ### Slides and batches -/

namespace Plan

variable {σ : Type} {ids : IdSource σ} {deck : Presentation} {state state₁ : σ}
  {rs : List Request}

theorem collect_map {α β γ : Type} (f : β → Plan σ (List γ)) (g : α → β) (as : List α) :
    collect f (as.map g) = collect (fun a => f (g a)) as := by
  induction as with
  | nil => rfl
  | cons a as ih =>
      rw [List.map_cons, collect, ih]
      rfl

/-- What is made of the members of a list one by one fits into the shapes for all of them. -/
theorem fits_collect {α : Type} {f : α → Plan σ (List Request)} {pages : List String}
    {shapes : α → List String} {as : List α}
    (hf : ∀ a ∈ as, ∀ state rs state₁, (f a).Gives state rs state₁ →
      Fits ids pages (shapes a) state rs state₁)
    (h : (collect f as).Gives state rs state₁) :
    Fits ids pages (as.flatMap shapes) state rs state₁ := by
  induction as generalizing state rs with
  | nil =>
      obtain ⟨rfl, rfl⟩ := gives_pure_iff.mp h
      exact fits_nil pages _ state
  | cons a as ih =>
      obtain ⟨first, _, hfirst, h⟩ := gives_bind_iff.mp h
      obtain ⟨rest, _, hrest, h⟩ := gives_bind_iff.mp h
      obtain ⟨rfl, rfl⟩ := gives_pure_iff.mp h
      exact (hf a (List.mem_cons_self ..) _ _ _ hfirst).append
        (ih (fun a ha => hf a (List.mem_cons_of_mem _ ha)) hrest)

/-- What is made of a list is what is made of its members, one after the other. -/
theorem exists_parts_of_gives_collect {α : Type} {f : α → Plan σ (List Request)} {as : List α}
    (h : (collect f as).Gives state rs state₁) :
    ∃ parts : List (List Request), rs = parts.flatten ∧
      List.Forall₂ (fun a part => ∃ state state₁, (f a).Gives state part state₁) as parts := by
  induction as generalizing state rs with
  | nil =>
      obtain ⟨rfl, rfl⟩ := gives_pure_iff.mp h
      exact ⟨[], rfl, .nil⟩
  | cons a as ih =>
      obtain ⟨first, _, hfirst, h⟩ := gives_bind_iff.mp h
      obtain ⟨rest, _, hrest, h⟩ := gives_bind_iff.mp h
      obtain ⟨rfl, rfl⟩ := gives_pure_iff.mp h
      obtain ⟨parts, rfl, hparts⟩ := ih hrest
      exact ⟨first :: parts, rfl, .cons ⟨_, _, hfirst⟩ hparts⟩

/-- What goes onto a slide fits into the shapes for its text. -/
theorem fits_placeAll {s : Slide} (hs : s.Sound) {slideId : String}
    (h : (placeAll ids deck slideId s).Gives state rs state₁) :
    Fits ids [slideId] (deck.textShapes slideId) state rs state₁ := by
  obtain ⟨title, s₁, htitle, h⟩ := gives_bind_iff.mp h
  obtain ⟨subtitle, s₂, hsubtitle, h⟩ := gives_bind_iff.mp h
  obtain ⟨bodies, s₃, hbodies, h⟩ := gives_bind_iff.mp h
  obtain ⟨table, s₄, htable, h⟩ := gives_bind_iff.mp h
  obtain ⟨images, s₅, himages, h⟩ := gives_bind_iff.mp h
  obtain ⟨notes, s₆, hnotes, h⟩ := gives_bind_iff.mp h
  obtain ⟨rfl, rfl⟩ := gives_pure_iff.mp h
  have hpage : slideId ∈ [slideId] := List.mem_singleton_self _
  have htitle : Fits ids [slideId] _ state title s₁ := fits_placeOptional
    (fun b hb => hs.blocks b (Slide.mem_blocks.mpr (.inl hb))) htitle
  have hsubtitle : Fits ids [slideId] _ s₁ subtitle s₂ := fits_placeOptional
    (fun b hb => hs.blocks b (Slide.mem_blocks.mpr (.inr (.inl hb)))) hsubtitle
  have hbodies : Fits ids [slideId] _ s₂ bodies s₃ := fits_placeBodies
    (fun b hb => hs.blocks b.text (Slide.mem_blocks.mpr (.inr (.inr (.inl ⟨b, hb, rfl⟩))))) hbodies
  have htable : Fits ids [slideId] ((s.tables.take 1).flatMap fun _ => []) s₃ table s₄ := by
    refine fits_collect (fun t ht _ _ _ h => ?_) htable
    have hmem := List.mem_of_mem_take ht
    refine fits_placeTable hpage (hs.tables t hmem) (fun row hrow b hb => ?_) h
    exact hs.blocks b (Slide.mem_blocks.mpr (.inr (.inr (.inr ⟨t, hmem, row, hrow, hb⟩))))
  have himages : Fits ids [slideId] (s.images.flatMap fun _ => []) s₄ images s₅ :=
    fits_collect (fun _ _ _ _ _ h => fits_placeImage hpage h) himages
  have hnotes : Fits ids [slideId] _ s₅ notes s₆ := fits_placeNotes hnotes
  refine (((((htitle.append hsubtitle).append hbodies).append htable).append himages).append
    hnotes).mono (List.Subset.refl _) ?_
  have hnone {α : Type} (as : List α) : (as.flatMap fun _ => ([] : List String)) = [] :=
    List.flatMap_eq_nil_iff.mpr fun _ _ => rfl
  obtain ⟨es, hperm, hsub⟩ := deck.subperm_placeholders slideId
  rw [hnone, hnone, List.append_nil, List.append_nil, ← List.map_append, ← List.map_append]
  exact List.Subperm.append ⟨_, hperm.map _, hsub.map _⟩ (List.Subperm.refl _)

theorem populateSlide_gives {s : Slide} (h : (populateSlide ids deck s).Gives state rs state₁) :
    ∃ slideId page, s.objectId = some slideId ∧ deck.findSlide? slideId = some page ∧
      s.tables.length ≤ 1 ∧ (placeAll ids deck slideId s).Gives state rs state₁ := by
  unfold populateSlide at h
  cases hid : populatedId? deck s with
  | error e =>
      rw [hid] at h
      exact absurd h not_gives_fail
  | ok slideId =>
      rw [hid] at h
      unfold populatedId? at hid
      split at hid
      · cases hid
      · rename_i slideId' hobject
        split at hid
        · cases hid
        · rename_i hfound
          split at hid
          · cases hid
          · rename_i htables
            obtain rfl := Except.ok.inj hid
            rw [Option.isNone_iff_eq_none, ← ne_eq, Option.ne_none_iff_exists'] at hfound
            obtain ⟨page, hpage⟩ := hfound
            exact ⟨slideId', page, hobject, hpage, Nat.le_of_not_lt htables, h⟩

end Plan

/-- A slide with an id that it was given. -/
def Slide.withId (s : Slide) (id : String) : Slide := { s with objectId := some id }

theorem Plan.fits_populateSlide {σ : Type} {ids : IdSource σ} {deck : Presentation}
    {state state₁ : σ} {rs : List Request} {s : Slide} (hs : s.Sound) {slideId : String}
    (h : (populateSlide ids deck (s.withId slideId)).Gives state rs state₁) :
    Fits ids [slideId] (deck.textShapes slideId) state rs state₁ := by
  obtain ⟨_, _, hid, -, -, hall⟩ := populateSlide_gives h
  obtain rfl := Option.some.inj hid
  have hsound : (s.withId slideId).Sound := ⟨hs.blocks, hs.tables⟩
  exact fits_placeAll hsound hall

/--
**A batch that fills slides is well addressed.**  Compiled slides have ids, and the deck has
elements and notes for them whose ids all differ from each other and from the new ones that a
source hands out.  (Slides with the same id would share their elements, so only those without any
could have one.)  If what goes onto these slides can be planned, then every request finds what it
needs among those before it: a range lies in a text that was inserted there, a cell in a table, and
what is moved is an image.  No place is written twice, and nothing is created twice.  The requests
of a slide name only this slide, its placeholders, the shape for its notes and what they create
themselves, with ids that the source has handed out for it.
-/
theorem wellAddressed_planPopulation {σ : Type} {ids : IdSource σ} {deck : Presentation} {state : σ}
    {tokens : List Token} {named : List (Slide × String)} {batch : Batch}
    (hcompile : (compileTokens tokens).outcome = .ok (named.map (·.1)))
    (hdeck : (named.flatMap fun n => deck.elementIds n.2).Nodup)
    (hdistinct : ids.Distinct state)
    (hnew : ∀ k id, ids.nth state k = .ok id → ∀ n ∈ named, id ∉ deck.elementIds n.2)
    (hplan : (Plan.planPopulation ids deck (named.map fun n => n.1.withId n.2) state).1.outcome =
      .ok batch) :
    WellAddressed batch.requests ∧
      ids.Hands state (createdIds batch.requests)
        (Plan.planPopulation ids deck (named.map fun n => n.1.withId n.2) state).2 ∧
      ∃ parts : List (List Request), batch.requests = parts.flatten ∧
        List.Forall₂ (fun n part => ∀ r ∈ part, ∀ id ∈ r.names,
          id = n.2 ∨ id ∈ (deck.placeholders n.2).map (·.objectId) ∨
            deck.speakerNotesId? n.2 = some id ∨ id ∈ createdIds part) named parts := by
  have hgives : (Plan.planPopulation ids deck (named.map fun n => n.1.withId n.2)).Gives state
    batch _ := ⟨hplan, rfl⟩
  obtain ⟨rs, state₁, hcollect, hgives⟩ := Plan.gives_bind_iff.mp hgives
  obtain ⟨rfl, hstate⟩ := Plan.gives_pure_iff.mp (Plan.gives_notice_bind_iff.mp hgives)
  rw [← hstate]
  rw [Plan.collect_map] at hcollect
  have hsound : ∀ n ∈ named, n.1.Sound := fun n hn =>
    sound_compileTokens hcompile n.1 (List.mem_map_of_mem hn)
  have hfits : Plan.Fits ids (named.map (·.2)) (named.flatMap fun n => deck.textShapes n.2)
      state rs state₁ := by
    refine Plan.fits_collect (fun n hn _ _ _ h => ?_) hcollect
    refine (Plan.fits_populateSlide (hsound n hn) h).mono (fun id hid => ?_) (List.Subperm.refl _)
    rw [List.mem_singleton.mp hid]
    exact List.mem_map_of_mem hn
  have hshapes : (named.flatMap fun n => deck.textShapes n.2).Sublist
      (named.flatMap fun n => deck.elementIds n.2) :=
    List.Sublist.flatMap_right named fun n _ => deck.textShapes_sublist n.2
  have hcreated : (createdIds rs).Nodup := hfits.hands.nodup hdistinct
  have hnodup : ((named.flatMap fun n => deck.textShapes n.2) ++ createdIds rs).Nodup := by
    refine List.nodup_append.mpr ⟨hshapes.nodup hdeck, hcreated, fun id hid id' hid' heq => ?_⟩
    obtain ⟨k, hk⟩ := hfits.hands.exists_nth hid'
    obtain ⟨n, hn, hid⟩ := List.mem_flatMap.mp (hshapes.subset hid)
    exact hnew k id' hk n hn (heq ▸ hid)
  obtain ⟨parts, hflatten, hparts⟩ := Plan.exists_parts_of_gives_collect hcollect
  refine ⟨⟨hfits.ready, hcreated, hfits.inserted hnodup⟩, hfits.hands, parts, hflatten, ?_⟩
  refine ((List.forall₂_and_left _ _).mpr ⟨hsound, hparts⟩).imp fun n part h r hr id hid => ?_
  obtain ⟨hn, _, _, hpart⟩ := h
  rcases (Plan.fits_populateSlide hn hpart).names r hr id hid with hid | hid
  · exact .inl (List.mem_singleton.mp hid)
  · rcases List.mem_append.mp hid with hid | hid
    · rcases List.mem_append.mp hid with hid | hid
      · exact .inr (.inl hid)
      · exact .inr (.inr (.inl (Option.mem_toList.mp hid)))
    · exact .inr (.inr (.inr hid))

/-- A slide with a title, a list and a table, and one with notes, an image and text. -/
def filledTokens : List Token :=
  [.headingOpen 1 .empty, .text "t", .headingClose 1, .listOpen .unordered, .listItemOpen,
    .strongOpen, .text "a", .strongClose, .listItemClose, .listClose .unordered, .tableOpen,
    .tableRowOpen, .tableCellOpen, .text "c", .tableCellClose, .tableRowClose, .tableClose,
    .horizontalRule, .htmlBlock "<!-- n -->", .paragraphOpen .empty, .image "u" "v", .text "b",
    .paragraphClose]

/-- The slides with their ids. -/
def filledSlides : List (Slide × String) :=
  [({ title := some (TextBlock.ofString "t")
      bodies := [⟨"a", [⟨0, 1, { bold := some true }⟩], [⟨0, 1, .unordered⟩], false⟩]
      tables := [⟨1, 1, [[TextBlock.ofString "c"]]⟩] }, "s1"),
    ({ bodies := [⟨TextBlock.ofString "b"⟩], images := [⟨"u", "v", false⟩], notes := some "n" },
      "s2")]

/-- A shape with a role. -/
def shapeWithRole (id : String) (role : PlaceholderRole) : PageElement :=
  ⟨id, none, none, some ⟨none, some ⟨some role, none, none⟩⟩, none⟩

/-- A deck that has these slides. -/
def filledDeck : Presentation where
  presentationId := "deck"
  pageSize := none
  slides := some
    [⟨"s1", none, some [shapeWithRole "head" .title, shapeWithRole "text" .body], none, none, none⟩,
      ⟨"s2", none, some [shapeWithRole "more" .body],
        some ⟨none, none, some ⟨"page", none, none, none, none, some ⟨some "memo"⟩⟩⟩, none, none⟩]
  title := none
  layouts := none
  revisionId := none

/-- What goes onto them. -/
def filledBatch : Batch where
  requests :=
    [.insertText ⟨"head", none, "t", 0⟩, .insertText ⟨"text", none, "a", 0⟩,
      .updateTextStyle ⟨"text", none, { bold := some true }, TextRange.fixed 0 1, "bold"⟩,
      .createParagraphBullets ⟨"text", none, TextRange.fixed 0 1, .bulletDiscCircleSquare⟩,
      .createTable ⟨"new0", ElementProperties.onPage "s1", 1, 1⟩,
      .insertText ⟨"new0", some ⟨0, 0⟩, "c", 0⟩, .insertText ⟨"more", none, "b", 0⟩,
      .createImage ⟨"new1", "u", ElementProperties.onPage "s2"⟩,
      .insertText ⟨"memo", none, "n", 0⟩]

theorem wellAddressed_filledBatch :
    (compileTokens filledTokens).outcome = .ok (filledSlides.map (·.1)) ∧
      (Plan.planPopulation (IdSource.numbered "new") filledDeck
        (filledSlides.map fun n => n.1.withId n.2) 0).1.outcome = .ok filledBatch ∧
      WellAddressed filledBatch.requests := by
  have hcompile : (compileTokens filledTokens).outcome = .ok (filledSlides.map (·.1)) := by
    decide +kernel
  have hplan : (Plan.planPopulation (IdSource.numbered "new") filledDeck
      (filledSlides.map fun n => n.1.withId n.2) 0).1.outcome = .ok filledBatch := by
    decide +kernel
  have hdeck : (filledSlides.flatMap fun n => filledDeck.elementIds n.2).Nodup := by decide
  have hother : ∀ n ∈ filledSlides, ∀ id ∈ filledDeck.elementIds n.2,
      id.toList.take 3 ≠ ['n', 'e', 'w'] := by decide
  have hnew : ∀ k id, (IdSource.numbered "new").nth 0 k = .ok id →
      ∀ n ∈ filledSlides, id ∉ filledDeck.elementIds n.2 := by
    intro k id hk n hn hid
    rw [IdSource.nth_numbered] at hk
    refine hother n hn id hid ?_
    rw [← Except.ok.inj hk, String.toList_append]
    rfl
  exact ⟨hcompile, hplan, (wellAddressed_planPopulation hcompile hdeck
    (IdSource.distinct_numbered "new" 0) hnew hplan).1⟩

end SlideDeck
