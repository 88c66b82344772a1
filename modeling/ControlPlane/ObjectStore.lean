import ControlPlane.Metadata

/-!
# Stores of watched objects

A store holds what a watch has seen: the latest object for each namespace and name.
-/

namespace ControlPlane

/-- Objects by where they are found; `find?` is the view of the store. -/
structure ObjectStore (α : Type) where
  entries : List (ObjectRef × α) := []

namespace ObjectStore

variable {α : Type}

def objects (s : ObjectStore α) : List α := s.entries.map (·.2)

def find? (s : ObjectStore α) (r : ObjectRef) : Option α :=
  (s.entries.find? fun e => e.1 = r).map (·.2)

def remove (s : ObjectStore α) (r : ObjectRef) : ObjectStore α where
  entries := s.entries.filter fun e => e.1 ≠ r

/-- Takes in an object, in place of what was found there. -/
def apply (s : ObjectStore α) (r : ObjectRef) (a : α) : ObjectStore α where
  entries := (s.remove r).entries ++ [(r, a)]

end ObjectStore

/-- Where the object with this metadata is kept. Only objects with a name can be kept. -/
def Metadata.storeRef? (m : Metadata) : Option ObjectRef := m.name.map fun n => ⟨m.ns, n⟩

/-- Where the object with this metadata is found. -/
def Metadata.ref (m : Metadata) : ObjectRef := ⟨m.ns, m.anyName⟩

end ControlPlane
