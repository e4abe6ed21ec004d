import KindExpr.Text.Basic

/-!
# Containers

What lists, tuples, sets, mappings and records hold, whatever their parts are.

Containers that hold each other form a web: each has a place in it, and the parts of a
container are places of the web or come from outside of it. `Web.fold` goes through the
containers that are reached from a place. It comes upon a container again only inside of
it, so the places on the way are all that has to be kept in mind.
-/

namespace KindExpr

/-- The forms of a set. -/
inductive SetForm where
  | mutable
  | frozen
  deriving Repr, DecidableEq

/-- The forms of a mapping. The first three are dictionaries. -/
inductive MappingForm where
  | plain
  | defaulting
  | ordered
  | readOnly
  | chained
  | wrapped
  deriving Repr, DecidableEq

/-- Whether a mapping is a dictionary. -/
def MappingForm.isDictionary : MappingForm → Bool
  | .plain => true
  | .defaulting => true
  | .ordered => true
  | .readOnly => false
  | .chained => false
  | .wrapped => false

/-- What a container holds. The keys of a mapping are told apart from its values. -/
inductive Container (κ α : Type) where
  | list (items : List α)
  | tuple (items : List α)
  | set (form : SetForm) (items : List α)
  | mapping (form : MappingForm) (entries : List (κ × α))
  /-- An object with named fields. -/
  | record (fields : List (Text × α))
  deriving Repr, DecidableEq

namespace Container

variable {κ κ' α β : Type}

/-- Change the keys and the parts of a container. -/
def map (ofKey : κ → κ') (ofPart : α → β) : Container κ α → Container κ' β
  | list items => list (items.map ofPart)
  | tuple items => tuple (items.map ofPart)
  | set form items => set form (items.map ofPart)
  | mapping form entries =>
      mapping form (entries.map fun entry => (ofKey entry.1, ofPart entry.2))
  | record fields => record (fields.map fun field => (field.1, ofPart field.2))

/-- The parts of a container besides its keys. -/
def parts : Container κ α → List α
  | list items => items
  | tuple items => items
  | set _ items => items
  | mapping _ entries => entries.map Prod.snd
  | record fields => fields.map Prod.snd

/-- The keys of a container. -/
def keys : Container κ α → List κ
  | mapping _ entries => entries.map Prod.fst
  | _ => []

/-- The items of a list or tuple. -/
def items? : Container κ α → Option (List α)
  | list items => some items
  | tuple items => some items
  | _ => none

/-- The entries of a mapping, in order. -/
def entries? : Container κ α → Option (List (κ × α))
  | mapping _ entries => some entries
  | _ => none

@[simp] theorem map_id (container : Container κ α) : container.map id id = container := by
  cases container <;> simp [map]

@[simp] theorem items?_map (ofKey : κ → κ') (ofPart : α → β) (container : Container κ α) :
    (container.map ofKey ofPart).items? = container.items?.map (List.map ofPart) := by
  cases container <;> rfl

end Container

/-! ## Webs -/

/-- A part of a container in a web. A pair with named items has no place of its own: it
cannot hold itself unless a container between does. -/
inductive Link where
  /-- A value from outside of the web, by its index. -/
  | outside (index : Nat)
  /-- The container at a place of the web. -/
  | inside (place : Nat)
  | point (x y : Link)
  deriving Repr, DecidableEq

/-- What is made of a part from what is made of values from outside,
of containers and of pairs. -/
def Link.fold {α : Type} (outside inside : Nat → α) (point : α → α → α) : Link → α
  | .outside index => outside index
  | .inside place => inside place
  | .point x y => point (x.fold outside inside point) (y.fold outside inside point)

/-- Containers that may hold each other. The keys of a mapping come from outside. -/
abbrev Web := List (Container Nat Link)

namespace Web

/-- The container at a place of a web. A list without items is at every place beyond. -/
def container (web : Web) (place : Nat) : Container Nat Link :=
  web.getD place (.list [])

/-- How something is made of the containers of a web. -/
structure Fold (κ α : Type) where
  /-- What is made of the key with an index. -/
  key : Nat → κ
  /-- What is made of the value from outside with an index. -/
  outside : Nat → α
  point : α → α → α
  /-- What is made of the container at a place, from what is made of its parts. -/
  container : Nat → Container κ α → α
  /-- What is made of the container at a place when it is come upon inside of itself. -/
  again : Nat → α

variable {κ α : Type}

/-- Go through a web from a place on, inside the containers at the places of a path. There
are no more steps to go than there are places in the web, and one for those beyond. -/
def foldFrom (web : Web) (fold : Fold κ α) : Nat → List Nat → Nat → α
  | 0, _, place => fold.again place
  | steps + 1, path, place =>
      if place ∈ path then fold.again place
      else
        fold.container place <| (web.container place).map fold.key <|
          Link.fold fold.outside (web.foldFrom fold steps (place :: path)) fold.point

/-- Go through a web from a place on. -/
def fold (web : Web) (fold : Fold κ α) (place : Nat) : α :=
  web.foldFrom fold (web.length + 1) [] place

end Web
end KindExpr
