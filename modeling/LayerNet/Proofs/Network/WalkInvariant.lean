import Mathlib.Data.List.Chain
import LayerNet.Network.Walk
import LayerNet.Proofs.Network.Upstream

/-!
# The invariant of the walk

What holds in every state of the walk behind some outputs.  The layers marked as visiting are
exactly those on the stack, and the layers marked as done are exactly those finished.  Each layer on
the stack is an input of the one below it, so that a way along inputs leads from every layer of the
stack up to the top; therefore an input that is met while it is visiting closes a cycle.  The inputs
that a layer of the stack was moved past are finished or stand above it, so that a layer is
finished only after all its inputs.

Main results:

- `Tracks.move`: every move keeps the invariant.
- `Tracks.cycleBehind_of_failure`: a step fails only because of a cycle.
- `wellFounded_step`: no walk goes on forever.
- `walk_induction`: what every move keeps, a whole walk keeps.
- `Tracks.walk`: what a whole walk leads to.
-/

namespace LayerNet

namespace Network

open Relation

variable {net : Network}

/-! ## Inputs that were looked at -/

/-- Whether the inputs that the layers of a stack were moved past are finished or stand above. -/
def Looked (net : Network) (order : List LayerId) : List LayerId → List Visit → Prop
  | _, [] => True
  | above, visit :: rest =>
    (∀ input ∈ (net.inputs visit.id).take visit.next, input ∈ order ∨ input ∈ above) ∧
      net.Looked order (visit.id :: above) rest

theorem Looked.mono {order order' above above' : List LayerId} {stack : List Visit}
    (h : net.Looked order above stack)
    (hmono : ∀ id, id ∈ order ∨ id ∈ above → id ∈ order' ∨ id ∈ above') :
    net.Looked order' above' stack := by
  induction stack generalizing above above' with
  | nil => trivial
  | cons visit rest ih =>
      refine ⟨fun input hmem => hmono input (h.1 input hmem), ih h.2 ?_⟩
      intro id hid
      rcases hid with hid | hid
      · exact (hmono id (Or.inl hid)).imp_right (List.mem_cons_of_mem _)
      · rcases List.mem_cons.mp hid with rfl | hid
        · exact Or.inr List.mem_cons_self
        · exact (hmono id (Or.inr hid)).imp_right (List.mem_cons_of_mem _)

/-! ## The stack as a way -/

/-- The ids on a stack. -/
def stackIds (stack : List Visit) : List LayerId :=
  stack.map Visit.id

theorem id_mem_stackIds {stack rest : List Visit} {top : Visit} (h : stack = top :: rest) :
    top.id ∈ stackIds stack := by
  rw [h]
  exact List.mem_cons_self

/-- Whether each layer of a stack is an input of the one below it. -/
def IsWay (net : Network) (stack : List Visit) : Prop :=
  (stackIds stack).IsChain fun above below => net.FedBy below above

/-- The top of the stack is upstream of every layer on it. -/
theorem IsWay.upstream_top {top : Visit} {rest : List Visit} (h : net.IsWay (top :: rest))
    {id : LayerId} (hid : id ∈ stackIds (top :: rest)) : net.Upstream id top.id := by
  induction rest generalizing top with
  | nil =>
      rw [List.mem_singleton.mp hid]
      exact Upstream.refl net _
  | cons below rest ih =>
      rw [IsWay, stackIds, List.map_cons, List.map_cons, List.isChain_cons_cons] at h
      rcases List.mem_cons.mp hid with rfl | hid
      · exact Upstream.refl net _
      · exact (ih h.2 hid).tail h.1

/-! ## The invariant -/

/-- What holds in every state of the walk behind the outputs, and, with an input that the top of the
stack was moved past, between moving past it and entering it. -/
structure Tracks (net : Network) (outputs above : List LayerId) (w : Walk) : Prop where
  done_iff : ∀ id, w.marks[id]? = some .done ↔ id ∈ w.order
  visiting_iff : ∀ id, w.marks[id]? = some .visiting ↔ id ∈ stackIds w.stack
  order_nodup : w.order.Nodup
  stack_nodup : (stackIds w.stack).Nodup
  isWay : net.IsWay w.stack
  looked : net.Looked w.order above w.stack
  follow : net.FollowInputs w.order
  lt_size : ∀ id mark, w.marks[id]? = some mark → id < net.size
  behind : ∀ id mark, w.marks[id]? = some mark → ∃ output ∈ outputs, net.Upstream output id

variable {outputs above : List LayerId} {w : Walk}

theorem tracks_empty (net : Network) : net.Tracks [] [] {} where
  done_iff := by simp
  visiting_iff := by simp [stackIds]
  order_nodup := List.nodup_nil
  stack_nodup := List.nodup_nil
  isWay := List.IsChain.nil
  looked := trivial
  follow := followInputs_nil net
  lt_size := by simp
  behind := by simp

/-- What is behind some outputs is behind more outputs. -/
theorem Tracks.append (h : net.Tracks outputs above w) (more : List LayerId) :
    net.Tracks (outputs ++ more) above w :=
  { h with
    behind := fun id mark hmark => by
      rcases h.behind id mark hmark with ⟨output, hmem, hup⟩
      exact ⟨output, List.mem_append_left _ hmem, hup⟩ }

/-- A layer on the stack is marked as visiting, hence not finished. -/
theorem Tracks.not_mem_order (h : net.Tracks outputs above w) {id : LayerId}
    (hid : id ∈ stackIds w.stack) : id ∉ w.order := by
  intro hdone
  have hmark := (h.visiting_iff id).mpr hid
  rw [(h.done_iff id).mpr hdone] at hmark
  simp at hmark

theorem Tracks.lt_size_of_mem_stack (h : net.Tracks outputs above w) {id : LayerId}
    (hid : id ∈ stackIds w.stack) : id < net.size :=
  h.lt_size id .visiting ((h.visiting_iff id).mpr hid)

theorem Tracks.behind_of_mem_stack (h : net.Tracks outputs above w) {id : LayerId}
    (hid : id ∈ stackIds w.stack) : ∃ output ∈ outputs, net.Upstream output id :=
  h.behind id .visiting ((h.visiting_iff id).mpr hid)

/-! ## Moves -/

theorem getElem?_insert_mark (marks : Std.HashMap LayerId Mark) (id other : LayerId)
    (mark : Mark) :
    (marks.insert id mark)[other]? = if id = other then some mark else marks[other]? := by
  simp [Std.HashMap.getElem?_insert]

/-- What holds of all layers that have a mark still holds if a layer of which it holds gets one. -/
theorem forall_insert_mark {marks : Std.HashMap LayerId Mark} {P : LayerId → Prop} {id : LayerId}
    (h : ∀ other mark, marks[other]? = some mark → P other) (hid : P id) (mark : Mark) :
    ∀ other mark', (marks.insert id mark)[other]? = some mark' → P other := by
  intro other mark' hother
  rw [getElem?_insert_mark] at hother
  split at hother <;> rename_i heq
  · exact heq ▸ hid
  · exact h other mark' hother

/-- Finishing the top of the stack keeps the invariant once all its inputs were looked at. -/
theorem Tracks.finish (h : net.Tracks outputs [] w) {top : Visit} {rest : List Visit}
    (hstack : w.stack = top :: rest) (hall : (net.inputs top.id).length ≤ top.next) :
    net.Tracks outputs [] (w.finish top rest) := by
  have hids : stackIds w.stack = top.id :: stackIds rest := by
    rw [hstack]
    rfl
  have htop : top.id ∈ stackIds w.stack := id_mem_stackIds hstack
  have hnodup : top.id ∉ stackIds rest ∧ (stackIds rest).Nodup := by
    rw [← List.nodup_cons, ← hids]
    exact h.stack_nodup
  have hlooked : net.Looked w.order [] (top :: rest) := hstack ▸ h.looked
  -- nothing stands above the top, so the inputs that were looked at are finished
  have hinputs : ∀ input, net.FedBy top.id input → input ∈ w.order := by
    intro input hfed
    rw [FedBy, ← List.take_of_length_le hall] at hfed
    simpa using hlooked.1 input hfed
  have hmark (id : LayerId) : (w.finish top rest).marks[id]? =
      if top.id = id then some .done else w.marks[id]? := getElem?_insert_mark _ _ _ _
  refine
    { done_iff := ?_
      visiting_iff := ?_
      order_nodup := ?_
      stack_nodup := hnodup.2
      isWay := ?_
      looked := ?_
      follow := h.follow.concat hinputs
      lt_size := forall_insert_mark h.lt_size (h.lt_size_of_mem_stack htop) .done
      behind := forall_insert_mark h.behind (h.behind_of_mem_stack htop) .done }
  · intro id
    rw [hmark, Walk.finish, List.mem_append, List.mem_singleton]
    by_cases hid : top.id = id
    · simp [hid]
    · simp [hid, Ne.symm hid, h.done_iff]
  · intro id
    rw [hmark, Walk.finish]
    by_cases hid : top.id = id
    · simp [← hid, hnodup.1]
    · rw [if_neg hid, h.visiting_iff, hids, List.mem_cons]
      simp [Ne.symm hid]
  · rw [Walk.finish, ← List.concat_eq_append]
    exact h.order_nodup.concat (h.not_mem_order htop)
  · have hway := h.isWay
    rw [hstack] at hway
    exact hway.tail
  · refine hlooked.2.mono fun id hid => ?_
    rcases hid with hid | hid
    · exact Or.inl (List.mem_append_left _ hid)
    · exact Or.inl (List.mem_append_right _ hid)

/-- Moving past an input keeps the invariant, but for that input. -/
theorem Tracks.advance (h : net.Tracks outputs [] w) {top : Visit} {rest : List Visit}
    {input : LayerId} (hstack : w.stack = top :: rest)
    (hinput : (net.inputs top.id)[top.next]? = some input) :
    net.Tracks outputs [input] (w.advance top rest) := by
  have hids : stackIds (w.advance top rest).stack = stackIds w.stack := by
    rw [hstack]
    rfl
  have hlooked : net.Looked w.order [] (top :: rest) := hstack ▸ h.looked
  refine
    { done_iff := h.done_iff
      visiting_iff := ?_
      order_nodup := h.order_nodup
      stack_nodup := ?_
      isWay := ?_
      looked := ?_
      follow := h.follow
      lt_size := h.lt_size
      behind := h.behind }
  · rw [hids]
    exact h.visiting_iff
  · rw [hids]
    exact h.stack_nodup
  · rw [IsWay, hids]
    exact h.isWay
  · refine ⟨fun other hother => ?_, hlooked.2.mono fun id hid => ?_⟩
    · rw [List.take_add_one, hinput, List.mem_append, Option.toList_some] at hother
      rcases hother with hother | hother
      · exact (hlooked.1 other hother).imp_right List.not_mem_nil.elim
      · exact Or.inr hother
    · rcases hid with hid | hid
      · exact Or.inl hid
      · exact Or.inr (List.mem_cons.mpr (Or.inl (List.mem_singleton.mp hid)))

/-- An input that is finished needs no entering. -/
theorem Tracks.skip {input : LayerId} (h : net.Tracks outputs [input] w)
    (hdone : w.marks[input]? = some .done) : net.Tracks outputs [] w :=
  { h with
    looked := h.looked.mono fun id hid => by
      rcases hid with hid | hid
      · exact Or.inl hid
      · rw [List.mem_singleton.mp hid]
        exact Or.inl ((h.done_iff input).mp hdone) }

/-- A layer without a mark may be entered from the layer that it feeds, or as an output. -/
theorem Tracks.enter {id : LayerId} (h : net.Tracks outputs [id] w)
    (hnew : w.marks[id]? = none) (hlt : id < net.size)
    (hbehind : ∃ output ∈ outputs, net.Upstream output id)
    (hfed : ∀ top ∈ w.stack.head?, net.FedBy top.id id) : net.Tracks outputs [] (w.enter id) := by
  have hmark (other : LayerId) : (w.enter id).marks[other]? =
      if id = other then some .visiting else w.marks[other]? := getElem?_insert_mark _ _ _ _
  have hnot : id ∉ stackIds w.stack := by
    intro hmem
    rw [(h.visiting_iff id).mpr hmem] at hnew
    simp at hnew
  have hids : stackIds (w.enter id).stack = id :: stackIds w.stack := rfl
  refine
    { done_iff := ?_
      visiting_iff := ?_
      order_nodup := h.order_nodup
      stack_nodup := ?_
      isWay := ?_
      looked := ?_
      follow := h.follow
      lt_size := forall_insert_mark h.lt_size hlt .visiting
      behind := forall_insert_mark h.behind hbehind .visiting }
  · intro other
    rw [hmark, Walk.enter, ← h.done_iff]
    split <;> rename_i heq
    · simp [← heq, hnew]
    · rfl
  · intro other
    rw [hmark, hids, List.mem_cons, ← h.visiting_iff]
    by_cases heq : id = other
    · simp [heq]
    · simp [heq, Ne.symm heq]
  · rw [hids]
    exact List.nodup_cons.mpr ⟨hnot, h.stack_nodup⟩
  · rw [IsWay, hids, List.isChain_cons]
    refine ⟨fun below hbelow => ?_, h.isWay⟩
    rw [stackIds, List.head?_map] at hbelow
    rcases Option.map_eq_some_iff.mp hbelow with ⟨top, htop, rfl⟩
    exact hfed top htop
  · exact ⟨by simp, h.looked⟩

/-- Every move keeps the invariant. -/
theorem Tracks.move {next : Walk} (h : net.Tracks outputs [] w) (hmove : net.Move w next) :
    net.Tracks outputs [] next := by
  cases hmove with
  | finish hstack _ hall => exact h.finish hstack hall
  | skip hstack hinput hdone => exact (h.advance hstack hinput).skip hdone
  | @enter top rest input hstack hinput hnew hlt =>
      have hfed : net.FedBy top.id input := List.mem_of_getElem? hinput
      rcases h.behind_of_mem_stack (id_mem_stackIds hstack) with ⟨output, hmem, hup⟩
      refine (h.advance hstack hinput).enter hnew hlt ⟨output, hmem, hup.tail hfed⟩ ?_
      intro visit hvisit
      rw [Walk.advance, List.head?_cons, Option.mem_some_iff] at hvisit
      exact hvisit ▸ hfed

/-- A mark is never lost. -/
theorem Move.mem_marks {next : Walk} (h : net.Move w next) {id : LayerId} (hid : id ∈ w.marks) :
    id ∈ next.marks := by
  cases h with
  | finish => exact Std.HashMap.mem_insert.mpr (Or.inr hid)
  | skip => exact hid
  | enter => exact Std.HashMap.mem_insert.mpr (Or.inr hid)

/-- Whether a cycle behind the outputs goes through the layer. -/
def CycleBehind (net : Network) (outputs : List LayerId) (layer : Layer) : Prop :=
  ∃ id, net.layer? id = some layer ∧ net.OnCycle id ∧ ∃ output ∈ outputs, net.Upstream output id

theorem CycleBehind.append {layer : Layer} (h : net.CycleBehind outputs layer)
    (more : List LayerId) : net.CycleBehind (outputs ++ more) layer := by
  rcases h with ⟨id, hlayer, hcycle, output, hmem, hup⟩
  exact ⟨id, hlayer, hcycle, output, List.mem_append_left _ hmem, hup⟩

/-- In a well-formed network a step fails only because of a cycle behind the outputs. -/
theorem Tracks.cycleBehind_of_failure (h : net.Tracks outputs [] w) (hnet : net.WellFormed)
    {e : NetworkError} (hfail : net.Failure w e) :
    ∃ layer, e = .cycle layer.name ∧ net.CycleBehind outputs layer := by
  cases hfail with
  | missingTop hstack hle =>
      have hlt := h.lt_size_of_mem_stack (id_mem_stackIds hstack)
      exact absurd hlt (Nat.not_lt.mpr hle)
  | missingInput hstack hinput hle =>
      exact absurd (hnet.input_lt_size (List.mem_of_getElem? hinput)) (Nat.not_lt.mpr hle)
  | @cycle top rest input layer hstack hinput hvisiting hlayer =>
      -- the stack is a way from the input to the top, and the input closes it
      have hmem : input ∈ stackIds w.stack := (h.visiting_iff input).mp hvisiting
      have hway : net.IsWay (top :: rest) := hstack ▸ h.isWay
      have hup : net.Upstream input top.id := hway.upstream_top (hstack ▸ hmem)
      have hcycle : net.OnCycle input := TransGen.tail' hup (List.mem_of_getElem? hinput)
      exact ⟨layer, rfl, input, hlayer, hcycle, h.behind_of_mem_stack hmem⟩

/-! ## Whole walks -/

/-- Steps always get to an end, whatever state they start from. -/
theorem wellFounded_step (net : Network) :
    WellFounded fun next w : Walk => net.step w = .ok (some next) := by
  have hlex : WellFounded (Prod.Lex (· < · : Nat → Nat → Prop) (· < · : Nat → Nat → Prop)) :=
    (Prod.lex Nat.lt_wfRel Nat.lt_wfRel).wf
  refine Subrelation.wf (fun {next w} hstep => ?_)
    (InvImage.wf (fun w : Walk => (net.unmarked w.marks, net.remaining w.stack)) hlex)
  exact measure_of_step hstep

/-- What every move keeps holds when the walk ends, and when it fails it holds up to the step that
fails. -/
theorem walk_induction {P : Walk → Prop} (hmove : ∀ w next, P w → net.Move w next → P next)
    (w : Walk) (hw : P w) :
    (∃ final, net.walk w = .ok final ∧ P final ∧ final.stack = []) ∨
      ∃ e last, net.walk w = .error e ∧ P last ∧ net.Failure last e := by
  fun_induction net.walk w with
  | case1 w e hstep => exact Or.inr ⟨e, w, rfl, hw, failure_of_step hstep⟩
  | case2 w hstep => exact Or.inl ⟨w, rfl, hw, step_eq_none_iff.mp hstep⟩
  | case3 w next hstep ih => exact ih (hmove w next hw (move_of_step hstep))

/-- A walk ends with an empty stack and has met at least what it had met before, or it fails because
of a cycle behind the outputs. -/
theorem Tracks.walk (h : net.Tracks outputs [] w) (hnet : net.WellFormed) {met : List LayerId}
    (hmet : ∀ id ∈ met, id ∈ w.marks) :
    (∃ final, net.walk w = .ok final ∧ net.Tracks outputs [] final ∧ final.stack = [] ∧
        ∀ id ∈ met, id ∈ final.marks) ∨
      ∃ layer, net.walk w = .error (.cycle layer.name) ∧ net.CycleBehind outputs layer := by
  let P (state : Walk) := net.Tracks outputs [] state ∧ ∀ id ∈ met, id ∈ state.marks
  have hmove : ∀ state next, P state → net.Move state next → P next := by
    intro state next hstate hmove
    exact ⟨hstate.1.move hmove, fun id hid => hmove.mem_marks (hstate.2 id hid)⟩
  rcases walk_induction hmove w ⟨h, hmet⟩ with
    ⟨final, hwalk, ⟨htracks, hfinal⟩, hstack⟩ | ⟨e, last, hwalk, ⟨htracks, -⟩, hfail⟩
  · exact Or.inl ⟨final, hwalk, htracks, hstack, hfinal⟩
  · rcases htracks.cycleBehind_of_failure hnet hfail with ⟨layer, rfl, hcycle⟩
    exact Or.inr ⟨layer, hwalk, hcycle⟩

end Network
end LayerNet
