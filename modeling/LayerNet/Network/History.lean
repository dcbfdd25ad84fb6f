import LayerNet.Network.Basic

/-!
# Histories of networks

A network comes about by calls one after another, each of which may fail.  The registry of names
may be shared, so that others take names from it between two calls.

Main definitions:

- `Edit`: a call, or what others do to the registry.
- `Builder.run`: the builder after a history of edits.
- `Network.Reachable`: the networks that some history leads to.
-/

namespace LayerNet

/-- A call on a builder, or the registry as others who share it have left it. -/
inductive Edit where
  | add (spec : LayerSpec) (inputs : List LayerId)
  | input (spec : LayerSpec)
  | chain (input : LayerSpec) (specs : List LayerSpec)
  | rewire (id : LayerId) (inputs : List LayerId)
  | share (registry : NameRegistry)

namespace Builder

/-- The builder after an edit, which may have failed. -/
def apply (b : Builder) : Edit → Builder
  | .add spec inputs => (b.add spec inputs).2
  | .input spec => (b.input spec).2
  | .chain input specs => (b.chain input specs).2
  | .rewire id inputs => (b.rewire id inputs).2
  | .share registry => { b with registry }

/-- The builder after a history of edits. -/
def run (b : Builder) (edits : List Edit) : Builder :=
  edits.foldl apply b

end Builder

/-- Whether a network comes about from the empty one, with any registry. -/
def Network.Reachable (net : Network) : Prop :=
  ∃ (registry : NameRegistry) (edits : List Edit), (Builder.run ⟨{}, registry⟩ edits).network = net

end LayerNet
