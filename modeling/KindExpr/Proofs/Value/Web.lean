import KindExpr.Value.Basic
import Mathlib.Data.List.Perm.Subperm
import Mathlib.Logic.Relation

/-!
# Going through a web

What is made of a web is shown by one of two inductions. `Web.foldFrom_relates` compares
what two folds make of a place, step by step. `Web.foldFrom_induction` is on the path of
the places on the way: they are different places of the web, so that the steps do not run
out, and a walk ends only at a container that it is inside of. `Web.fold_link_induction`
is the same for the parts of containers, from the start of the way.
-/

namespace KindExpr

/-! ## Parts of containers -/

namespace Container

variable {κ κ' α β : Type}

@[simp] theorem keys_map (ofKey : κ → κ') (ofPart : α → β) (container : Container κ α) :
    (container.map ofKey ofPart).keys = container.keys.map ofKey := by
  cases container <;> simp [map, keys]

theorem mem_parts_of_items? {container : Container κ α} {items : List α} {item : α}
    (hasItems : container.items? = some items) (isItem : item ∈ items) :
    item ∈ container.parts := by
  cases container with
  | list own | tuple own => rwa [← Option.some.inj hasItems] at isItem
  | _ => cases hasItems

end Container

namespace Link

variable {α β : Type}

/-- The places of a web that a part consists of. -/
def places : Link → List Nat
  | outside _ => []
  | inside place => [place]
  | point x y => x.places ++ y.places

/-- The values from outside that a part consists of, by their indices. -/
def indices : Link → List Nat
  | outside index => [index]
  | inside _ => []
  | point x y => x.indices ++ y.indices

end Link

namespace Web

variable {κ κ' α β : Type} {web : Web}

/-- There is nothing at the places beyond a web. -/
theorem lt_length_of_mem_parts {place : Nat} {link : Link}
    (isPart : link ∈ (web.container place).parts) : place < web.length := by
  by_contra isBeyond
  rw [container, List.getD_eq_getElem?_getD,
    List.getElem?_eq_none (Nat.le_of_not_lt isBeyond)] at isPart
  cases isPart

/-! ## Inductions -/

/-- Two folds make of a web what is related, if their steps do. -/
theorem foldFrom_relates {first : Fold κ α} {second : Fold κ' β} {motive : α → β → Prop}
    (outside : ∀ index, motive (first.outside index) (second.outside index))
    (point : ∀ x y xToo yToo, motive x xToo → motive y yToo →
      motive (first.point x y) (second.point xToo yToo))
    (again : ∀ place, motive (first.again place) (second.again place))
    (container : ∀ place (made : Link → α) (madeToo : Link → β),
      (∀ link, motive (made link) (madeToo link)) →
      motive (first.container place ((web.container place).map first.key made))
        (second.container place ((web.container place).map second.key madeToo)))
    (steps : Nat) (path : List Nat) (place : Nat) :
    motive (web.foldFrom first steps path place)
      (web.foldFrom second steps path place) := by
  induction steps generalizing path place with
  | zero => exact again place
  | succ steps inductionHypothesis =>
      rw [foldFrom, foldFrom]
      split
      · exact again place
      · refine container place _ _ fun link => ?_
        induction link with
        | outside index => exact outside index
        | inside next => exact inductionHypothesis (place :: path) next
        | point x y ofX ofY => exact point _ _ _ _ ofX ofY

/-- The first step of a fold is at the place where it starts. -/
theorem fold_eq (fold : Fold κ α) (place : Nat) :
    web.fold fold place =
      fold.container place ((web.container place).map fold.key
        (Link.fold fold.outside (web.foldFrom fold web.length [place]) fold.point)) := by
  rw [Web.fold, foldFrom, if_neg List.not_mem_nil]

/-- There are no more different places on a path than in the web. -/
theorem length_le_of_nodup {path : List Nat} (isNodup : path.Nodup)
    (areThere : ∀ place ∈ path, place < web.length) : path.length ≤ web.length := by
  have among : path ⊆ List.range web.length :=
    fun place isThere => List.mem_range.mpr (areThere place isThere)
  have fewer := (List.subperm_of_subset isNodup among).length_le
  rwa [List.length_range] at fewer

/-- What a fold makes of a place, inside the containers on a path. -/
theorem foldFrom_induction {fold : Fold κ α} {motive : List Nat → Nat → α → Prop}
    (again : ∀ path place, place ∈ path → motive path place (fold.again place))
    (container : ∀ path place (found : Nat → α),
      (place < web.length → ∀ next, motive (place :: path) next (found next)) →
      motive path place (fold.container place ((web.container place).map fold.key
        (Link.fold fold.outside found fold.point))))
    (steps : Nat) {path : List Nat} (place : Nat) (isNodup : path.Nodup)
    (areThere : ∀ place ∈ path, place < web.length)
    (enough : steps + path.length = web.length + 1) :
    motive path place (web.foldFrom fold steps path place) := by
  induction steps generalizing path place with
  | zero =>
      have few := length_le_of_nodup isNodup areThere
      omega
  | succ steps inductionHypothesis =>
      rw [foldFrom]
      split
      · rename_i isOnPath
        exact again path place isOnPath
      · rename_i isNew
        refine container path place _ fun isThere next => ?_
        refine inductionHypothesis next (List.nodup_cons.mpr ⟨isNew, isNodup⟩) ?_ ?_
        · exact List.forall_mem_cons.mpr ⟨isThere, areThere⟩
        · rw [List.length_cons]
          omega

/-- What a fold makes of a place, from the start. -/
theorem fold_induction {fold : Fold κ α} {motive : List Nat → Nat → α → Prop}
    (again : ∀ path place, place ∈ path → motive path place (fold.again place))
    (container : ∀ path place (found : Nat → α),
      (place < web.length → ∀ next, motive (place :: path) next (found next)) →
      motive path place (fold.container place ((web.container place).map fold.key
        (Link.fold fold.outside found fold.point))))
    (place : Nat) : motive [] place (web.fold fold place) :=
  foldFrom_induction again container _ place List.nodup_nil (List.forall_mem_nil _) rfl

/-- What a fold makes of the parts of containers, from the start. -/
theorem fold_link_induction {fold : Fold κ α} {motive : List Nat → Link → α → Prop}
    (outside : ∀ path index, motive path (.outside index) (fold.outside index))
    (point : ∀ path x y found foundToo, motive path x found → motive path y foundToo →
      motive path (.point x y) (fold.point found foundToo))
    (again : ∀ path place, place ∈ path → motive path (.inside place) (fold.again place))
    (container : ∀ path place (made : Link → α),
      (∀ link ∈ (web.container place).parts, motive (place :: path) link (made link)) →
      motive path (.inside place)
        (fold.container place ((web.container place).map fold.key made)))
    (place : Nat) : motive [] (.inside place) (web.fold fold place) := by
  refine fold_induction (motive := fun path place => motive path (.inside place)) again
    (fun path place found ofNext => ?_) place
  refine container path place _ fun link isPart => ?_
  have ofPlace := ofNext (lt_length_of_mem_parts isPart)
  clear isPart
  induction link with
  | outside index => exact outside _ index
  | inside next => exact ofPlace next
  | point x y ofX ofY => exact point _ x y _ _ ofX ofY

end Web

/-! ## Values from values -/

namespace Value

/-- The values that a value is built from. The parts of a container in a web are not among
them, but the values from outside are. -/
def children : Value → List Value
  | .list items => items
  | .tuple items => items
  | .point x y => [x, y]
  | .set _ items => items
  | .mapping _ entries => entries.map Prod.fst ++ entries.map Prod.snd
  | .error _ arguments => arguments
  | .record fields => fields.map Prod.snd
  | .linked outside _ _ => outside
  | _ => []

theorem sizeOf_lt_of_mem_children {value child : Value}
    (isChild : child ∈ value.children) :
    sizeOf child < sizeOf value := by
  cases value with
  | list items | tuple items | set form items | error name items
  | linked items web place =>
      have smaller : sizeOf child < sizeOf items := List.sizeOf_lt_of_mem isChild
      simp only [list.sizeOf_spec, tuple.sizeOf_spec, set.sizeOf_spec, error.sizeOf_spec,
        linked.sizeOf_spec]
      omega
  | point x y =>
      rw [point.sizeOf_spec]
      rcases List.mem_pair.mp isChild with rfl | rfl <;> omega
  | mapping form entries =>
      rw [mapping.sizeOf_spec]
      rcases List.mem_append.mp isChild with isKey | isItem
      · obtain ⟨entry, isEntry, rfl⟩ := List.mem_map.mp isKey
        have smaller := List.sizeOf_lt_of_mem isEntry
        rw [Prod.mk.sizeOf_spec] at smaller
        omega
      · obtain ⟨entry, isEntry, rfl⟩ := List.mem_map.mp isItem
        have smaller := List.sizeOf_lt_of_mem isEntry
        rw [Prod.mk.sizeOf_spec] at smaller
        omega
  | record fields =>
      rw [record.sizeOf_spec]
      obtain ⟨field, isField, rfl⟩ := List.mem_map.mp isChild
      have smaller := List.sizeOf_lt_of_mem isField
      rw [Prod.mk.sizeOf_spec] at smaller
      omega
  | _ => cases isChild

/-- What holds of a value if it holds of all that the value is built from holds always. -/
theorem children_induction {motive : Value → Prop}
    (step : ∀ value, (∀ child ∈ value.children, motive child) → motive value)
    (value : Value) : motive value :=
  step value fun child _ => children_induction step child
termination_by sizeOf value
decreasing_by exact sizeOf_lt_of_mem_children ‹_›

/-- What holds of null and of all values from outside of a web holds of each index. -/
theorem forall_outer {motive : Value → Prop} {outside : List Value}
    (ofNull : motive null) (ofOutside : ∀ value ∈ outside, motive value) (index : Nat) :
    motive (outer outside index) := by
  rw [outer, List.getD_eq_getElem?_getD]
  cases isThere : outside[index]? with
  | none => exact ofNull
  | some value => exact ofOutside value (List.mem_of_getElem? isThere)

end Value
end KindExpr
