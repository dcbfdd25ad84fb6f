import Mathlib.Logic.Function.Basic
import LayerNet.Proofs.Naming.Sharing
import LayerNet.Proofs.Network.WellFormed

/-!
# Networks that share a registry

Several networks may take their generated names from one registry.  A generated name dodges the
names of its own network, and the registry never gives a name twice.  But a name that a user gives
does not go through the registry, so that the same name may be generated later for another network.
That is the only way in which a generated name can be in use already.

Main definitions:

- `Workshop`, `Workshop.run`: networks with one registry, and what additions make of them.
- `Workshop.GivenAt`: where a name was given by a user.

Main results:

- `Workshop.Sourced.apply`, `Workshop.Sourced.run`: every name was given by a user or by the
  registry.
- `Workshop.generated_name_elsewhere`: what a generated name differs from.
- `Workshop.generated_name_in_use`: a generated name that another network has already.
-/

namespace LayerNet

/-! ## Chosen names -/

namespace NameRegistry

/-- The registry has counted past the number of a name. -/
def Counted (registry : NameRegistry) (name : String) : Prop :=
  ∃ base n, name = numbered base n ∧ n ≤ registry.count base

/-- What was counted stays counted, since counters only grow. -/
theorem Counted.mono {registry registry' : NameRegistry} {name : String}
    (h : registry.Counted name) (hle : ∀ base, registry.count base ≤ registry'.count base) :
    registry'.Counted name := by
  rcases h with ⟨base, n, rfl, hn⟩
  exact ⟨base, n, rfl, Nat.le_trans hn (hle base)⟩

/-- A fresh name has a number that was not reached before, whatever base it is a name of. -/
theorem not_counted_fresh (registry : NameRegistry) (taken : List String) (base : String) :
    ¬ registry.Counted (registry.fresh taken base).1 := by
  rintro ⟨other, n, hname, hn⟩
  rcases fresh_spec registry taken base with ⟨m, hlt, hfresh, -⟩
  rcases numbered_eq_numbered_iff.mp (hfresh.symm.trans hname) with ⟨hstem, rfl⟩
  have hcount : registry.count base = registry.count other := registry.count_congr hstem
  omega

/-- A name that the registry gives is counted by it. -/
theorem counted_fresh (registry : NameRegistry) (taken : List String) (base : String) :
    (registry.fresh taken base).2.Counted (registry.fresh taken base).1 := by
  exact ⟨base, _, fresh_fst registry taken base, Nat.le_refl _⟩

end NameRegistry

namespace Builder

/-- A chosen name was given by the user, or the registry has counted it. -/
theorem chooseName_cases {b : Builder} {spec : LayerSpec} {name : String}
    (h : (b.chooseName spec).1 = .ok name) :
    spec.name = some name ∨ spec.name = none ∧ (b.chooseName spec).2.Counted name := by
  cases hname : spec.name with
  | none =>
      refine Or.inr ⟨rfl, ?_⟩
      rw [chooseName_of_unnamed b hname] at h ⊢
      obtain rfl := Except.ok.inj h
      exact NameRegistry.counted_fresh _ _ _
  | some given =>
      simp only [chooseName, hname] at h
      split at h
      · simp at h
      · exact Or.inl (congrArg some (Except.ok.inj h))

theorem count_le_count_chooseName (b : Builder) (spec : LayerSpec) (base : String) :
    b.registry.count base ≤ (b.chooseName spec).2.count base := by
  unfold chooseName
  cases spec.name with
  | none => exact NameRegistry.count_le_count_fresh _ _ _ _
  | some given =>
      simp only
      split <;> exact Nat.le_refl _

end Builder

/-! ## Workshops -/

/-- Networks that take their generated names from one registry. -/
structure Workshop (Graph : Type) where
  networks : Graph → Network := fun _ => {}
  registry : NameRegistry := {}

/-- A layer that is to be added to one of the networks. -/
structure Addition (Graph : Type) where
  graph : Graph
  spec : LayerSpec
  inputs : List LayerId

namespace Workshop

variable {Graph : Type}

/-- One of the networks, with the registry. -/
def builder (w : Workshop Graph) (graph : Graph) : Builder :=
  ⟨w.networks graph, w.registry⟩

/-- What is answered to an addition. -/
def answer (w : Workshop Graph) (a : Addition Graph) : Except NetworkError LayerId :=
  ((w.builder a.graph).add a.spec a.inputs).1

variable [DecidableEq Graph]

/-- The networks after an addition, which may have failed. -/
def apply (w : Workshop Graph) (a : Addition Graph) : Workshop Graph :=
  let b := ((w.builder a.graph).add a.spec a.inputs).2
  ⟨Function.update w.networks a.graph b.network, b.registry⟩

/-- The networks after additions in the given order. -/
def run (w : Workshop Graph) (history : List (Addition Graph)) : Workshop Graph :=
  history.foldl apply w

variable {start : Workshop Graph} {history : List (Addition Graph)}

theorem run_concat (start : Workshop Graph) (history : List (Addition Graph))
    (a : Addition Graph) : start.run (history ++ [a]) = (start.run history).apply a := by
  simp [run]

/-- What an addition can do: it is refused, or it puts a layer of the chosen name at the end of its
network; other networks stay as they are. -/
theorem apply_cases (w : Workshop Graph) (a : Addition Graph) :
    (∃ e, w.answer a = .error e ∧
        w.apply a = { w with registry := ((w.builder a.graph).chooseName a.spec).2 }) ∨
      ∃ layer, ((w.builder a.graph).chooseName a.spec).1 = .ok layer.name ∧
        w.answer a = .ok (w.networks a.graph).size ∧
        w.apply a =
          { networks := Function.update w.networks a.graph ((w.networks a.graph).push layer)
            registry := ((w.builder a.graph).chooseName a.spec).2 } := by
  unfold apply answer
  rcases Builder.add_cases (w.builder a.graph) a.spec a.inputs with
    ⟨e, hadd⟩ | ⟨layer, hname, -, hadd⟩
  · refine Or.inl ⟨e, ?_, ?_⟩
    · rw [hadd]
    · rw [hadd]
      simp [builder]
  · refine Or.inr ⟨layer, hname, ?_, ?_⟩
    · rw [hadd]
      rfl
    · rw [hadd]
      rfl

/-! ## Where names come from -/

/-- Whether a layer got its name from the user, who gave it to the addition that put it there. -/
def GivenAt (start : Workshop Graph) (history : List (Addition Graph)) (graph : Graph)
    (id : LayerId) (name : String) : Prop :=
  ∃ before a after, history = before ++ a :: after ∧ a.graph = graph ∧ a.spec.name = some name ∧
    (start.run before).answer a = .ok id

/-- What was given in a history was given in a longer one. -/
theorem GivenAt.concat {graph : Graph} {id : LayerId} {name : String}
    (h : GivenAt start history graph id name) (a : Addition Graph) :
    GivenAt start (history ++ [a]) graph id name := by
  rcases h with ⟨before, b, after, rfl, hgraph, hname, hanswer⟩
  exact ⟨before, b, after ++ [a], by simp, hgraph, hname, hanswer⟩

/-- What holds after any additions: all networks are well formed, and every name was given by the
user or the registry has counted it. -/
structure Sourced (start : Workshop Graph) (history : List (Addition Graph)) : Prop where
  wellFormed : ∀ graph, ((start.run history).networks graph).WellFormed
  source : ∀ graph id layer, ((start.run history).networks graph).layer? id = some layer →
    GivenAt start history graph id layer.name ∨
      (start.run history).registry.Counted layer.name

theorem sourced_empty (registry : NameRegistry) :
    Sourced ({ registry } : Workshop Graph) [] where
  wellFormed := fun _ => Network.wellFormed_empty
  source := by simp [run, Network.layer?]

theorem Sourced.wellFormed_apply (h : Sourced start history) (a : Addition Graph) (graph : Graph) :
    (((start.run history).apply a).networks graph).WellFormed := by
  by_cases hgraph : graph = a.graph
  · subst hgraph
    have hadd : ((start.run history).builder a.graph).network.WellFormed := h.wellFormed a.graph
    simpa [Workshop.apply] using Builder.wellFormed_add hadd a.spec a.inputs
  · simpa [Workshop.apply, hgraph] using h.wellFormed graph

/-- Whatever is added, every name in the networks has its source. -/
theorem Sourced.apply (h : Sourced start history) (a : Addition Graph) :
    Sourced start (history ++ [a]) := by
  refine ⟨fun graph => ?_, fun graph id layer hlayer => ?_⟩
  · rw [run_concat]
    exact h.wellFormed_apply a graph
  · rw [run_concat] at hlayer ⊢
    have hcounted {name : String} (hname : (start.run history).registry.Counted name) :
        (((start.run history).builder a.graph).chooseName a.spec).2.Counted name :=
      hname.mono (Builder.count_le_count_chooseName ((start.run history).builder a.graph) a.spec)
    have hold (hlayer : ((start.run history).networks graph).layer? id = some layer) :
        GivenAt start (history ++ [a]) graph id layer.name ∨
          (((start.run history).builder a.graph).chooseName a.spec).2.Counted layer.name :=
      (h.source graph id layer hlayer).imp (·.concat a) hcounted
    rcases apply_cases (start.run history) a with ⟨e, -, happly⟩ | ⟨new, hname, hanswer, happly⟩
    · rw [happly] at hlayer ⊢
      exact hold hlayer
    · rw [happly] at hlayer ⊢
      by_cases hgraph : graph = a.graph
      · subst hgraph
        simp only [Function.update_self, Network.layer?_push] at hlayer
        split at hlayer <;> rename_i hid
        · -- the new layer itself
          cases hlayer
          refine (Builder.chooseName_cases hname).imp (fun hgiven => ?_) And.right
          exact ⟨history, a, [], rfl, rfl, hgiven, hid ▸ hanswer⟩
        · exact hold hlayer
      · simp only [Function.update_of_ne hgraph] at hlayer
        exact hold hlayer

/-- The run lemma: after any history every generated name has its place in it, and every network is
well formed. -/
theorem Sourced.run (registry : NameRegistry) (history : List (Addition Graph)) :
    Sourced { registry } history := by
  induction history using List.reverseRecOn with
  | nil => exact sourced_empty registry
  | append_singleton history a ih => exact ih.apply a

/-! ## Generated names -/

/-- After any additions to any of the networks, the name that is generated for a further layer is in
use at most in other networks, and only where a user gave it: it differs from all names in its own
network, and from all generated names. -/
theorem generated_name_elsewhere (registry : NameRegistry) (history : List (Addition Graph))
    (graph : Graph) (spec : LayerSpec) (hunnamed : spec.name = none) :
    let w := ({ registry } : Workshop Graph).run history
    ∃ name, ((w.builder graph).chooseName spec).1 = .ok name ∧
      (∀ inputs id, w.answer ⟨graph, spec, inputs⟩ = .ok id →
        ∃ layer, ((w.apply ⟨graph, spec, inputs⟩).networks graph).layer? id = some layer ∧
          layer.name = name) ∧
      ∀ other id layer, (w.networks other).layer? id = some layer → layer.name = name →
        other ≠ graph ∧ GivenAt { registry } history other id name := by
  intro w
  have h : Sourced { registry } history := Sourced.run registry history
  have hchosen : (w.builder graph).chooseName spec =
      (.ok (w.registry.fresh (Table.keys (w.networks graph).ids) spec.kind.baseName).1,
        (w.registry.fresh (Table.keys (w.networks graph).ids) spec.kind.baseName).2) := by
    simp [Builder.chooseName, hunnamed, builder]
  refine ⟨_, congrArg Prod.fst hchosen, fun inputs id hanswer => ?_, ?_⟩
  · rcases apply_cases w ⟨graph, spec, inputs⟩ with
      ⟨e, hrefused, -⟩ | ⟨layer, hname, hsize, happly⟩
    · rw [hrefused] at hanswer
      cases hanswer
    · obtain rfl : (w.networks graph).size = id := Except.ok.inj (hsize.symm.trans hanswer)
      refine ⟨layer, ?_, ?_⟩
      · rw [happly]
        simp [Network.layer?_push]
      · rw [hchosen] at hname
        exact (Except.ok.inj hname).symm
  · intro other id layer hlayer hname
    rcases h.source other id layer hlayer with hgiven | hcounted
    · refine ⟨fun hother => ?_, hname ▸ hgiven⟩
      subst hother
      have hmem : layer.name ∈ (w.networks other).names :=
        List.mem_of_getElem? (i := id) (by rw [Network.getElem?_names, hlayer, Option.map_some])
      rw [← (h.wellFormed other).keys_perm.mem_iff, hname] at hmem
      exact NameRegistry.fresh_not_mem _ _ _ hmem
    · rw [hname] at hcounted
      exact absurd hcounted (NameRegistry.not_counted_fresh _ _ _)

/-- An input of one network that has its name from the user. -/
def givenInput : List (Addition Bool) :=
  [⟨false, { kind := .input (.batched [1]) false false, name := some "input_1" }, []⟩]

/-- An input that is to have a generated name. -/
def unnamedInput : LayerSpec :=
  { kind := .input (.batched [1]) false false }

/-- The name that is generated in the other network is in use then. -/
theorem generated_name_in_use :
    let w := ({} : Workshop Bool).run givenInput
    ((w.networks false).layer? 0).map Layer.name = some "input_1" ∧
      w.answer ⟨true, unnamedInput, []⟩ = .ok 0 ∧
      (((w.apply ⟨true, unnamedInput, []⟩).networks true).layer? 0).map Layer.name =
        some "input_1" :=
  ⟨rfl, rfl, rfl⟩

theorem generated_name_elsewhere_givenInput :
    let w := ({} : Workshop Bool).run givenInput
    unnamedInput.name = none ∧ ((w.builder true).chooseName unnamedInput).1 = .ok "input_1" ∧
      false ≠ true ∧ GivenAt {} givenInput false 0 "input_1" := by
  intro w
  have hchosen : ((w.builder true).chooseName unnamedInput).1 = .ok "input_1" :=
    congrArg Except.ok (by decide +kernel)
  rcases generated_name_elsewhere {} givenInput true unnamedInput rfl with ⟨name, hname, -, huses⟩
  obtain rfl : name = "input_1" := Except.ok.inj (hname.symm.trans hchosen)
  exact ⟨rfl, hchosen, huses false 0 _ rfl rfl⟩

end Workshop
end LayerNet
