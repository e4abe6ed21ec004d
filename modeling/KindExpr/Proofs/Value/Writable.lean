import KindExpr.Proofs.Value.Web
import KindExpr.Value.Writable

/-!
# The parts of what can be shown

The keys and the parts of a container that can be shown can be shown, wherever the
container is: in a web it can be shown if and only if everything can that is reached from
its place, and what is reached from another place of it is among that.
-/

namespace KindExpr

/-! ## Steps in a web -/

theorem Container.mem_parts_of_mem_shownParts {κ α : Type} {container : Container κ α}
    {part : α} (isShown : part ∈ container.shownParts) : part ∈ container.parts := by
  cases container with
  | record fields =>
      obtain ⟨field, isField, rfl⟩ := List.mem_map.mp isShown
      exact List.mem_map_of_mem (List.mem_of_mem_filter isField)
  | _ => exact isShown

namespace Link

/-- A part can be shown if the values from outside and the containers in it can be. -/
theorem fold_and_eq_true_iff {outside inside : Nat → Bool} {link : Link} :
    link.fold outside inside (fun x y => x && y) = true ↔
      (∀ index ∈ link.indices, outside index = true) ∧
        ∀ place ∈ link.places, inside place = true := by
  induction link with
  | outside index => simp [fold, indices, places]
  | inside place => simp [fold, indices, places]
  | point x y ofX ofY =>
      rw [fold, Bool.and_eq_true, ofX, ofY]
      simp only [indices, places, List.forall_mem_append]
      exact and_and_and_comm

end Link

namespace Web

variable {web : Web}

/-- Whether the container at a place shows the one at another place. -/
def Shows (web : Web) (place next : Nat) : Prop :=
  ∃ link ∈ (web.container place).shownParts, next ∈ link.places

/-- Whether the keys of the container at a place and the values from outside
that it shows can be shown. -/
def ShowsWritable (web : Web) (outside : List Bool) (place : Nat) : Prop :=
  (∀ index ∈ (web.container place).keys, outside.getD index true = true) ∧
    ∀ link ∈ (web.container place).shownParts,
      ∀ index ∈ link.indices, outside.getD index true = true

theorem Shows.lt_length {place next : Nat} (shows : web.Shows place next) :
    place < web.length := by
  obtain ⟨link, isShown, -⟩ := shows
  exact lt_length_of_mem_parts (Container.mem_parts_of_mem_shownParts isShown)

/-- A walk that avoids some places takes a last step away from where it starts. -/
theorem exists_last_step {avoided : List Nat} {place last : Nat}
    (reaches : Relation.ReflTransGen
      (fun other next => web.Shows other next ∧ next ∉ avoided) place last) :
    last = place ∨ ∃ next, web.Shows place next ∧ next ∉ place :: avoided ∧
      Relation.ReflTransGen
        (fun other next => web.Shows other next ∧ next ∉ place :: avoided) next last := by
  induction reaches with
  | refl => exact .inl rfl
  | @tail before last _ isStep inductionHypothesis =>
      by_cases isBack : last = place
      · exact .inl isBack
      · have notAvoided : last ∉ place :: avoided :=
          fun isThere => (List.mem_cons.mp isThere).elim isBack isStep.2
        obtain rfl | ⟨next, isFirst, notThere, reaches⟩ := inductionHypothesis
        · exact .inr ⟨last, isStep.1, notAvoided, .refl⟩
        · exact .inr ⟨next, isFirst, notThere, reaches.tail ⟨isStep.1, notAvoided⟩⟩

/-- A container in a web can be shown if what it shows can
be, and all containers in it. -/
theorem isWritable_container_iff {outside : List Bool} {place : Nat}
    {found : Nat → Bool} :
    ((web.container place).map (fun index => outside.getD index true)
        (Link.fold (fun index => outside.getD index true) found
          fun x y => x && y)).isWritable = true ↔
      web.ShowsWritable outside place ∧ ∀ next, web.Shows place next →
        found next = true := by
  rw [Container.isWritable, Bool.and_eq_true, Container.keys_map,
    Container.shownParts_map]
  simp only [List.all_map, List.all_eq_true, Function.comp_apply, id,
    Link.fold_and_eq_true_iff, Shows, ShowsWritable]
  constructor
  · rintro ⟨ofKeys, ofParts⟩
    refine ⟨⟨ofKeys, fun link isShown => (ofParts link isShown).1⟩, ?_⟩
    rintro next ⟨link, isShown, isIn⟩
    exact (ofParts link isShown).2 next isIn
  · rintro ⟨⟨ofKeys, ofOutside⟩, ofPlaces⟩
    exact ⟨ofKeys, fun link isShown =>
      ⟨ofOutside link isShown, fun next isIn => ofPlaces next ⟨link, isShown, isIn⟩⟩⟩

/-- A container in a web can be shown if and only if everything can that is shown with it:
the values from outside at all places that are reached. -/
theorem isWritable_iff {outside : List Bool} {place : Nat} :
    web.isWritable outside place = true ↔
      ∀ last, Relation.ReflTransGen web.Shows place last →
        web.ShowsWritable outside last := by
  constructor
  · intro isWritable last reaches
    -- What is made of a place tells of all that is reached
    -- without going back on the path.
    refine fold_induction
      (motive := fun path place (found : Bool) => found = true → ∀ last,
        place ∉ path → Relation.ReflTransGen
          (fun other next => web.Shows other next ∧ next ∉ path) place last →
        web.ShowsWritable outside last)
      (fun path place isOnPath _ last notOnPath => absurd isOnPath notOnPath)
      (fun path place found ofNext isWritable last _ reaches => ?_)
      place isWritable last List.not_mem_nil
      (reaches.lift id fun _ _ isStep => ⟨isStep, List.not_mem_nil⟩)
    obtain ⟨ownAre, nextAre⟩ := isWritable_container_iff.mp isWritable
    obtain rfl | ⟨next, isNext, notAvoided, reachesOn⟩ := exists_last_step reaches
    · exact ownAre
    · exact ofNext isNext.lt_length next (nextAre next isNext) last notAvoided reachesOn
  · refine fold_induction
      (motive := fun _ place (found : Bool) => (∀ last,
        Relation.ReflTransGen web.Shows place last → web.ShowsWritable outside last) →
        found = true)
      (fun _ _ _ _ => rfl) (fun path place found ofNext ofReached => ?_) place
    refine isWritable_container_iff.mpr ⟨ofReached place .refl, fun next isNext => ?_⟩
    exact ofNext isNext.lt_length next fun last reaches =>
      ofReached last (.head isNext reaches)

end Web

/-! ## Parts of values -/

namespace Value

/-- Whether a value from outside of a web can be shown, with null beyond them. -/
theorem getD_writableEach (outside : List Value) (index : Nat) :
    (writableEach outside).getD index true = (outer outside index).isWritable := by
  rw [writableEach_eq_map, outer, List.getD_eq_getElem?_getD, List.getD_eq_getElem?_getD,
    List.getElem?_map]
  cases outside[index]? <;> rfl

/-- The value that a part of a container in a web is can be shown if all in it can be. -/
theorem isWritable_ofLink {outside : List Value} {web : Web} {link : Link} :
    (ofLink outside web link).isWritable = true ↔
      (∀ index ∈ link.indices, (writableEach outside).getD index true = true) ∧
        ∀ place ∈ link.places, web.isWritable (writableEach outside) place = true := by
  rw [← Link.fold_and_eq_true_iff]
  induction link with
  | outside index => rw [Link.fold, getD_writableEach]; rfl
  | inside place => rfl
  | point x y ofX ofY =>
      have isPoint : ofLink outside web (.point x y) =
          .point (ofLink outside web x) (ofLink outside web y) := rfl
      rw [isPoint, isWritable, Bool.and_eq_true, ofX, ofY, Link.fold, Bool.and_eq_true]

/-- A container in a web can be shown if and only if its keys and the
parts that are shown can be. -/
theorem isWritable_linked_iff {outside : List Value} {web : Web} {place : Nat} :
    (linked outside web place).isWritable = true ↔
      (∀ index ∈ (web.container place).keys, (outer outside index).isWritable = true) ∧
        ∀ link ∈ (web.container place).shownParts,
          (ofLink outside web link).isWritable = true := by
  have ofReached : (linked outside web place).isWritable = true ↔ _ := Web.isWritable_iff
  simp only [ofReached, isWritable_ofLink, ← getD_writableEach, Web.isWritable_iff]
  constructor
  · intro areWritable
    refine ⟨(areWritable place .refl).1, fun link isShown => ⟨?_, ?_⟩⟩
    · exact (areWritable place .refl).2 link isShown
    · exact fun next isNext last reaches =>
        areWritable last (.head ⟨link, isShown, isNext⟩ reaches)
  · rintro ⟨ofKeys, ofParts⟩ last reaches
    obtain rfl | ⟨next, ⟨link, isShown, isNext⟩, reachesOn⟩ :=
      Relation.ReflTransGen.cases_head reaches
    · exact ⟨ofKeys, fun link isShown => (ofParts link isShown).1⟩
    · exact (ofParts link isShown).2 next isNext last reachesOn

/-- A container can be shown if and only if its keys and the
parts that are shown can be. -/
theorem isWritable_container?_iff {value : Value} {container : Container Value Value}
    (isContainer : value.container? = some container) :
    value.isWritable = true ↔
      (∀ key ∈ container.keys, key.isWritable = true) ∧
        ∀ part ∈ container.shownParts, part.isWritable = true := by
  have ofMap : (container.map isWritable isWritable).isWritable = true ↔
      (∀ key ∈ container.keys, key.isWritable = true) ∧
        ∀ part ∈ container.shownParts, part.isWritable = true := by
    rw [Container.isWritable, Container.keys_map, Container.shownParts_map,
      Bool.and_eq_true]
    simp only [List.all_map, List.all_eq_true, Function.comp_apply, id]
  cases value with
  | list items | tuple items | set form items =>
      obtain rfl := Option.some.inj isContainer
      rw [← ofMap, isWritable, writableEach_eq_map]
      rfl
  | mapping form entries =>
      obtain rfl := Option.some.inj isContainer
      rw [← ofMap, isWritable, writableEntries_eq_map]
      rfl
  | record fields =>
      obtain rfl := Option.some.inj isContainer
      rw [← ofMap, isWritable, writableFields_eq_map]
      rfl
  | linked outside web place =>
      obtain rfl := Option.some.inj isContainer
      rw [isWritable_linked_iff, Container.keys_map, Container.shownParts_map]
      simp only [List.forall_mem_map]
  | _ => cases isContainer

end Value
end KindExpr
