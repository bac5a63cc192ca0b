import EntitySchema.Registry.Entity

/-!
# Registry/Basic — the registered entities

A registry holds entities under their names, in order of first registration.  Registering completes
the entity; a name that is known already keeps its place and gets the new entity.  An association is
resolved by the first of its candidates that is a registered name.
-/

namespace EntitySchema

/-- Entities under their names. -/
structure Registry where
  table : OrderedMap Entity
  deriving DecidableEq

namespace Registry

/-- The registry without entities. -/
def empty : Registry := ⟨.empty⟩

instance : Inhabited Registry := ⟨empty⟩

/-- Completes an entity and stores it under its name. -/
def register (r : Registry) (e : Entity) : Registry := ⟨r.table.insert e.name e.complete⟩

/-- Registers entities from left to right. -/
def ofList (es : List Entity) : Registry := es.foldl register empty

/-- The entity registered under a name. -/
def get? (r : Registry) (name : String) : Option Entity := r.table.get? name

/-- **The entity registered last is found under its name, every other as before.** -/
theorem get?_register (r : Registry) (e : Entity) (name : String) :
    (r.register e).get? name = if name = e.name then some e.complete else r.get? name :=
  OrderedMap.get?_insert r.table e.name name e.complete

/-- Is an entity registered under that name? -/
def contains (r : Registry) (name : String) : Bool := r.table.contains name

/-- The entities, in order of first registration. -/
def entities (r : Registry) : List Entity := r.table.values

/-- The names, in order of first registration. -/
def names (r : Registry) : List String := r.table.keys

/-- Number of entities. -/
def size (r : Registry) : Nat := r.table.size

/-- Same entities under the same names with the same content; the order of the entities, of their
attributes and of their associations has no say. -/
def agrees (r s : Registry) : Bool :=
  r.table.agrees sameEntity s.table
where
  /-- Equality of entities up to the order of their attributes and associations. -/
  sameEntity (d e : Entity) : Bool :=
    d.name == e.name && d.forms == e.forms && d.flags == e.flags && d.timestamps == e.timestamps &&
      d.attributes.agrees (· == ·) e.attributes && d.associations.agrees (· == ·) e.associations

end Registry

/-- What an association was found to mean. -/
structure Target where
  /-- The registered name that matched. -/
  key : String
  /-- The entity registered under it. -/
  entity : Entity

/-- Name of the target's object type, taken from the name that matched. -/
def Target.typeName (t : Target) : String := Naming.typeName t.key

/-- The entity that an association leads to: that of its first candidate with a registered name. -/
def Registry.resolve? (r : Registry) (a : Association) : Option Target :=
  a.candidates.findSome? fun key => (r.get? key).map (Target.mk key)

/-- The registries that can come about: from nothing, by registering. -/
inductive Registry.Reachable : Registry → Prop
  | empty : Reachable .empty
  | register {r : Registry} (e : Entity) : Reachable r → Reachable (r.register e)

theorem Registry.reachable_foldl {r : Registry} (h : r.Reachable) :
    ∀ es : List Entity, (es.foldl Registry.register r).Reachable
  | [] => h
  | e :: es => Registry.reachable_foldl (.register e h) es

/-- **Registering a list of entities leads to a reachable registry.** -/
theorem Registry.reachable_ofList (es : List Entity) : (Registry.ofList es).Reachable :=
  Registry.reachable_foldl .empty es

end EntitySchema
