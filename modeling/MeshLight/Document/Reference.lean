import MeshLight.Document.Mapping

/-!
# References

An alias stands for the node whose anchor it names. Anchors get numbers as they are met, each the
count of the names known at that moment, and an alias refers to the number that its name has where
the alias stands. Of two anchors with one number the later one is meant.
-/

namespace MeshLight.Document

/-- What an anchor refers to: a scalar, or nothing for the whole mapping. -/
abbrev Target := Option Scalar

/-- The anchors that have been met: each name with the latest number that it was given, and what the
numbers refer to, the latest first. -/
structure Anchors where
  numbers : List (String × Nat) := []
  targets : List (Nat × Target) := []

namespace Anchors

/-- Adds an anchor. -/
def define (name : String) (target : Target) (anchors : Anchors) : Anchors :=
  let number := anchors.numbers.length
  { numbers := (name, number) :: anchors.numbers.filter (·.1 != name)
    targets := (number, target) :: anchors.targets }

/-- Adds an anchor that may be missing. -/
def define? (name : Option String) (target : Target) (anchors : Anchors) : Anchors :=
  name.elim anchors fun name => anchors.define name target

end Anchors

/-- A scalar, or the number by which an alias refers to one. -/
inductive Reference where
  | direct (value : Scalar)
  | byNumber (number : Nat)

/-- The reference of a node, which adds its anchor to those met so far. An alias without an anchor
in front of it is refused. -/
def Node.reference? (node : Node) : StateT Anchors Option Reference := do
  match node with
  | .scalar anchor value =>
    modify (·.define? anchor (some value))
    return .direct value
  | .alias name =>
    let anchors ← get
    let number ← anchors.numbers.lookup name
    return .byNumber number

/-- The scalar that a reference leads to. The whole mapping is none. -/
def Reference.scalar? (anchors : Anchors) : Reference → Option Scalar
  | .direct value => some value
  | .byNumber number => (anchors.targets.lookup number).join

/-- The entries of a mapping with scalars in the place of aliases. -/
def Mapping.scalars? (mapping : Mapping) : Option (List (Scalar × Scalar)) := do
  let references : StateT Anchors Option (List (Reference × Reference)) :=
    mapping.entries.mapM fun entry => do
      let key ← entry.key.reference?
      let value ← entry.value.reference?
      return (key, value)
  let (references, anchors) ← references.run (Anchors.define? mapping.anchor none {})
  references.mapM fun (key, value) => do
    return (← key.scalar? anchors, ← value.scalar? anchors)

end MeshLight.Document
