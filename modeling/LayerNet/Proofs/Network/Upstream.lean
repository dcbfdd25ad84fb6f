import Mathlib.Logic.Relation
import LayerNet.Proofs.Network.WellFormed

/-!
# What lies upstream

The inputs of layers make a directed graph on the ids.  What is upstream of a layer is what is met
when one goes along inputs any number of times; a cycle is a way of at least one step that leads
back to where it started.

Main results:

- `WellFormed.input_lt_size`: in a well-formed network no input is missing.
- `FollowInputs.mem_of_upstream`: a list in which layers follow their inputs has all that is
  upstream.
- `FollowInputs.not_onCycle`: no layer of such a list lies on a cycle.
-/

namespace LayerNet
namespace Network

open Relation

variable {net : Network}

/-! ## Inputs as a relation -/

/-- Whether one layer is an input of another. -/
def FedBy (net : Network) (id input : LayerId) : Prop :=
  input ∈ net.inputs id

instance (net : Network) (id input : LayerId) : Decidable (net.FedBy id input) :=
  inferInstanceAs (Decidable (input ∈ net.inputs id))

/-- Whether a layer is met on some way along inputs, which may have no step at all. -/
def Upstream (net : Network) (id source : LayerId) : Prop :=
  ReflTransGen net.FedBy id source

/-- Whether a layer is met again on some way along inputs that starts at it. -/
def OnCycle (net : Network) (id : LayerId) : Prop :=
  TransGen net.FedBy id id

/-- Whether some layer upstream lies on a cycle. -/
def ReachesCycle (net : Network) (id : LayerId) : Prop :=
  ∃ source, net.Upstream id source ∧ net.OnCycle source

theorem Upstream.refl (net : Network) (id : LayerId) : net.Upstream id id :=
  ReflTransGen.refl

/-- What feeds a layer that is upstream is upstream. -/
theorem Upstream.tail {id source input : LayerId} (h : net.Upstream id source)
    (hfed : net.FedBy source input) : net.Upstream id input :=
  ReflTransGen.tail h hfed

/-- Only layers of the network have inputs. -/
theorem FedBy.lt_size {id input : LayerId} (h : net.FedBy id input) : id < net.size := by
  unfold FedBy inputs at h
  cases hlayer : net.layer? id with
  | none => simp [hlayer] at h
  | some layer => exact lt_size_of_layer? hlayer

theorem exists_layer?_of_lt_size {id : LayerId} (h : id < net.size) :
    ∃ layer, net.layer? id = some layer :=
  ⟨net.layers[id], Array.getElem?_eq_getElem h⟩

/-- In a well-formed network layers are fed by layers. -/
theorem WellFormed.input_lt_size (h : net.WellFormed) {id input : LayerId}
    (hfed : net.FedBy id input) : input < net.size := by
  rcases exists_layer?_of_lt_size hfed.lt_size with ⟨layer, hlayer⟩
  unfold FedBy at hfed
  rw [inputs_of_layer? hlayer] at hfed
  exact (h.fits_of_layer? hlayer).inputs_lt input hfed

/-- Only layers of the network have a cycle behind them. -/
theorem ReachesCycle.lt_size {id : LayerId} (h : net.ReachesCycle id) : id < net.size := by
  rcases h with ⟨source, hup, hcycle⟩
  rcases TransGen.head'_iff.mp (TransGen.trans_right hup hcycle) with ⟨input, hfed, -⟩
  exact hfed.lt_size

/-! ## Lists in which layers follow their inputs -/

/-- Whether every input of a layer in the list stands before it. -/
def FollowInputs (net : Network) (order : List LayerId) : Prop :=
  ∀ (i : Nat) (id : LayerId), order[i]? = some id →
    ∀ input, net.FedBy id input → ∃ j < i, order[j]? = some input

/-- The relation by places in the order. -/
theorem followInputs_iff {order : List LayerId} :
    net.FollowInputs order ↔ ∀ i < order.length, ∀ id ∈ order[i]?,
      ∀ input ∈ net.inputs id, ∃ j < i, order[j]? = some input := by
  constructor
  · intro h i _ id hid
    exact h i id hid
  · intro h i id hid
    exact h i (List.getElem?_eq_some_iff.mp hid).1 id hid

instance (net : Network) (order : List LayerId) : Decidable (net.FollowInputs order) :=
  decidable_of_iff' _ followInputs_iff

theorem followInputs_nil (net : Network) : net.FollowInputs [] := by
  intro i id hid
  simp at hid

/-- A layer may be put at the end once all its inputs are in the list. -/
theorem FollowInputs.concat {order : List LayerId} {id : LayerId} (h : net.FollowInputs order)
    (hinputs : ∀ input, net.FedBy id input → input ∈ order) : net.FollowInputs (order ++ [id]) := by
  intro i other hother input hfed
  rcases Nat.lt_or_ge i order.length with hlt | hge
  · rw [List.getElem?_append_left hlt] at hother
    rcases h i other hother input hfed with ⟨j, hj, hinput⟩
    exact ⟨j, hj, by rw [List.getElem?_append_left (Nat.lt_trans hj hlt), hinput]⟩
  · rw [List.getElem?_append_right hge, List.getElem?_singleton] at hother
    split at hother <;> rename_i hi
    · cases hother
      rcases List.mem_iff_getElem?.mp (hinputs input hfed) with ⟨j, hj⟩
      have hlt : j < order.length := (List.getElem?_eq_some_iff.mp hj).1
      exact ⟨j, Nat.lt_of_lt_of_le hlt hge, by rw [List.getElem?_append_left hlt, hj]⟩
    · cases hother

/-- What feeds a layer of the order is in the order. -/
theorem FollowInputs.mem_of_fedBy {order : List LayerId} {id input : LayerId}
    (h : net.FollowInputs order) (hid : id ∈ order) (hfed : net.FedBy id input) :
    input ∈ order := by
  rcases List.mem_iff_getElem?.mp hid with ⟨i, hi⟩
  rcases h i id hi input hfed with ⟨j, -, hj⟩
  exact List.mem_of_getElem? hj

/-- An order whose layers come behind their inputs has all that is upstream of them.  The induction
is on the way upstream. -/
theorem FollowInputs.mem_of_upstream {order : List LayerId} {id source : LayerId}
    (h : net.FollowInputs order) (hid : id ∈ order) (hup : net.Upstream id source) :
    source ∈ order := by
  induction hup with
  | refl => exact hid
  | tail _ hfed ih => exact h.mem_of_fedBy ih hfed

/-- What is upstream by at least one step stands strictly before. -/
theorem FollowInputs.exists_before {order : List LayerId} {id source : LayerId} {i : Nat}
    (h : net.FollowInputs order) (hi : order[i]? = some id) (hup : TransGen net.FedBy id source) :
    ∃ j < i, order[j]? = some source := by
  induction hup with
  | single hfed => exact h i id hi _ hfed
  | tail _ hfed ih =>
      rcases ih with ⟨j, hji, hj⟩
      rcases h j _ hj _ hfed with ⟨k, hkj, hk⟩
      exact ⟨k, Nat.lt_trans hkj hji, hk⟩

/-- No layer of the list can stand strictly before itself. -/
theorem FollowInputs.not_onCycle {order : List LayerId} {id : LayerId}
    (h : net.FollowInputs order) (hnodup : order.Nodup) (hid : id ∈ order) : ¬ net.OnCycle id := by
  intro hcycle
  rcases List.mem_iff_getElem?.mp hid with ⟨i, hi⟩
  rcases h.exists_before hi hcycle with ⟨j, hji, hj⟩
  have hlt : j < order.length := (List.getElem?_eq_some_iff.mp hj).1
  have heq : j = i := (List.getElem?_inj hlt hnodup).mp (hj.trans hi.symm)
  omega

/-- Such an order reaches no cycle: along one the places would decrease without end. -/
theorem FollowInputs.not_reachesCycle {order : List LayerId} {id : LayerId}
    (h : net.FollowInputs order) (hnodup : order.Nodup) (hid : id ∈ order) :
    ¬ net.ReachesCycle id := by
  rintro ⟨source, hup, hcycle⟩
  exact h.not_onCycle hnodup (h.mem_of_upstream hid hup) hcycle

end Network
end LayerNet
