/-!
Names in layers: a name is looked up in the layer put on last first. Putting a layer on again moves
it to the top.
-/

namespace LineScript

/-- The layers with their names, the first one at the bottom. -/
structure Layers (α : Type) where
  layers : List (String × List (String × α))
deriving Repr, Inhabited

namespace Layers

variable {α : Type}

def ofBase (names : List (String × α)) : Layers α := ⟨[("base", names)]⟩

def drop (layers : Layers α) (name : String) : Layers α :=
  ⟨layers.layers.filter fun layer => layer.1 != name⟩

def push (layers : Layers α) (name : String) (names : List (String × α)) : Layers α :=
  ⟨(layers.drop name).layers ++ [(name, names)]⟩

def hasLayer (layers : Layers α) (name : String) : Bool :=
  layers.layers.any fun layer => layer.1 == name

def lookup? (layers : Layers α) (name : String) : Option α :=
  layers.layers.reverse.findSome? fun layer => layer.2.lookup name

def contains (layers : Layers α) (name : String) : Bool :=
  (layers.lookup? name).isSome

def names (layers : Layers α) : List String :=
  (layers.layers.flatMap fun layer => layer.2.map Prod.fst).eraseDups

end Layers

end LineScript
