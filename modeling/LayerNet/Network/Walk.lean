import Std.Data.HashMap
import LayerNet.Counting
import LayerNet.Network.Basic

/-!
# The walk along the inputs

The layers behind an output are put in order by a walk along the inputs: a layer is finished once
all its inputs are.  The walk keeps a stack of the layers on the way from the output to where it
is, each with the number of its inputs that it has looked at, and a mark for every layer that it
has met.  An input that is met while its visit still lasts closes a cycle.

A step either finishes the layer on top of the stack, or moves on past an input that is finished
already, or enters an input without a mark.  The last kind can happen only once for each layer, so
the walk ends.

Main definitions:

- `Walk`: a state of the walk.
- `Network.step`: one step.
- `Network.walk`: the steps until the stack is empty.
- `Network.visit`: the walk behind a further output.
-/

namespace LayerNet

/-! ## States -/

/-- How far the walk is with a layer that it has met. -/
inductive Mark where
  | visiting
  | done
deriving DecidableEq, Repr

/-- A layer on the way from an output, with the number of its inputs that were looked at. -/
structure Visit where
  id : LayerId
  next : Nat := 0

/-- The layers on the way, innermost first, the marks of those met so far, and those finished, in
order. -/
structure Walk where
  stack : List Visit := []
  marks : Std.HashMap LayerId Mark := {}
  order : List LayerId := []

namespace Walk

/-- Starts the visit of a layer on top of the stack. -/
def enter (w : Walk) (id : LayerId) : Walk :=
  { w with stack := ⟨id, 0⟩ :: w.stack, marks := w.marks.insert id .visiting }

/-- Counts one more input of the layer on top of the stack as looked at. -/
def advance (w : Walk) (top : Visit) (rest : List Visit) : Walk :=
  { w with stack := ⟨top.id, top.next + 1⟩ :: rest }

/-- Ends the visit of the layer on top of the stack. -/
def finish (w : Walk) (top : Visit) (rest : List Visit) : Walk :=
  ⟨rest, w.marks.insert top.id .done, w.order ++ [top.id]⟩

end Walk

namespace Network

/-! ## Steps -/

/-- Looks at an input of the layer on top of the stack, which the walk has moved past already. -/
def look (net : Network) (w : Walk) (input : LayerId) : Except NetworkError Walk :=
  match w.marks[input]? with
  | some .done => .ok w
  | some .visiting =>
    match net.layer input with
    | .error e => .error e
    | .ok layer => .error (.cycle layer.name)
  | none =>
    match net.layer input with
    | .error e => .error e
    | .ok _ => .ok (w.enter input)

/-- The state after one step; none if the stack is empty. -/
def step (net : Network) (w : Walk) : Except NetworkError (Option Walk) :=
  match w.stack with
  | [] => .ok none
  | top :: rest =>
    match net.layer top.id with
    | .error e => .error e
    | .ok layer =>
      match layer.inputs[top.next]? with
      | none => .ok (some (w.finish top rest))
      | some input => (net.look (w.advance top rest) input).map some

/-- What a step that does not fail can do: it finishes the layer on top, moves on past an input
that is finished, or enters an input that was not met before. -/
inductive Move (net : Network) (w : Walk) : Walk → Prop where
  | finish {top : Visit} {rest : List Visit} (stack_eq : w.stack = top :: rest)
      (lt_size : top.id < net.size) (all_looked : (net.inputs top.id).length ≤ top.next) :
      Move net w (w.finish top rest)
  | skip {top : Visit} {rest : List Visit} {input : LayerId} (stack_eq : w.stack = top :: rest)
      (input_eq : (net.inputs top.id)[top.next]? = some input)
      (mark_eq : w.marks[input]? = some .done) :
      Move net w (w.advance top rest)
  | enter {top : Visit} {rest : List Visit} {input : LayerId} (stack_eq : w.stack = top :: rest)
      (input_eq : (net.inputs top.id)[top.next]? = some input)
      (mark_eq : w.marks[input]? = none) (lt_size : input < net.size) :
      Move net w ((w.advance top rest).enter input)

theorem step_eq_none_iff {net : Network} {w : Walk} :
    net.step w = .ok none ↔ w.stack = [] := by
  unfold step
  split <;> rename_i hstack
  · simp [hstack]
  · simp only [hstack, reduceCtorEq, iff_false]
    split
    · simp
    · split
      · simp
      · unfold look
        split
        · simp [Except.map]
        · split <;> simp [Except.map]
        · split <;> simp [Except.map]

/-- Every step that does not fail is one of the three moves. -/
theorem move_of_step {net : Network} {w next : Walk} (h : net.step w = .ok (some next)) :
    net.Move w next := by
  unfold step at h
  split at h
  · simp at h
  · rename_i top rest hstack
    split at h
    · simp at h
    · rename_i layer hlayer
      rw [layer_eq_ok_iff] at hlayer
      have hlt : top.id < net.size := lt_size_of_layer? hlayer
      have hinputs : net.inputs top.id = layer.inputs := inputs_of_layer? hlayer
      split at h
      · rename_i hnext
        cases h
        exact .finish hstack hlt (by rw [hinputs]; exact List.getElem?_eq_none_iff.1 hnext)
      · rename_i input hnext
        rw [← hinputs] at hnext
        unfold look at h
        split at h
        · rename_i hdone
          cases h
          exact .skip hstack hnext hdone
        · split at h <;> simp [Except.map] at h
        · rename_i hnew
          split at h
          · simp [Except.map] at h
          · rename_i l hl
            cases h
            exact .enter hstack hnext hnew (lt_size_of_layer? (layer_eq_ok_iff.1 hl))

/-- Why a step can fail: a layer is missing, or an input is met while its visit still lasts. -/
inductive Failure (net : Network) (w : Walk) : NetworkError → Prop where
  | missingTop {top : Visit} {rest : List Visit} (stack_eq : w.stack = top :: rest)
      (size_le : net.size ≤ top.id) : Failure net w (.unknownNode top.id)
  | missingInput {top : Visit} {rest : List Visit} {input : LayerId}
      (stack_eq : w.stack = top :: rest) (input_eq : (net.inputs top.id)[top.next]? = some input)
      (size_le : net.size ≤ input) : Failure net w (.unknownNode input)
  | cycle {top : Visit} {rest : List Visit} {input : LayerId} {layer : Layer}
      (stack_eq : w.stack = top :: rest) (input_eq : (net.inputs top.id)[top.next]? = some input)
      (mark_eq : w.marks[input]? = some .visiting) (layer_eq : net.layer? input = some layer) :
      Failure net w (.cycle layer.name)

/-- A step fails for one of these reasons only. -/
theorem failure_of_step {net : Network} {w : Walk} {e : NetworkError}
    (h : net.step w = .error e) : net.Failure w e := by
  unfold step at h
  split at h
  · simp at h
  · rename_i top rest hstack
    split at h
    · rename_i hmissing
      cases h
      rcases layer_eq_error_iff.1 hmissing with ⟨hle, rfl⟩
      exact .missingTop hstack hle
    · rename_i layer hlayer
      split at h
      · simp at h
      · rename_i input hnext
        rw [← inputs_of_layer? (layer_eq_ok_iff.1 hlayer)] at hnext
        unfold look at h
        split at h
        · simp [Except.map] at h
        · rename_i hvisiting
          split at h
          · rename_i hmissing
            cases h
            rcases layer_eq_error_iff.1 hmissing with ⟨hle, rfl⟩
            exact .missingInput hstack hnext hle
          · rename_i l hl
            cases h
            exact .cycle hstack hnext hvisiting (layer_eq_ok_iff.1 hl)
        · split at h
          · rename_i hmissing
            cases h
            rcases layer_eq_error_iff.1 hmissing with ⟨hle, rfl⟩
            exact .missingInput hstack hnext hle
          · simp [Except.map] at h

/-! ## The measure -/

/-- How many layers have no mark. -/
def unmarked (net : Network) (marks : Std.HashMap LayerId Mark) : Nat :=
  (List.range net.size).countP fun id => marks[id]?.isNone

/-- How many steps the layers on the stack take if none is entered. -/
def remaining (net : Network) : List Visit → Nat
  | [] => 0
  | visit :: rest => (net.inputs visit.id).length - visit.next + 1 + net.remaining rest

/-- A mark that is added or changed leaves no more layers without one. -/
theorem unmarked_insert_le (net : Network) (marks : Std.HashMap LayerId Mark) (id : LayerId)
    (mark : Mark) : net.unmarked (marks.insert id mark) ≤ net.unmarked marks := by
  refine List.countP_mono_left fun other _ h => ?_
  rw [Std.HashMap.getElem?_insert] at h
  split at h
  · simp at h
  · exact h

/-- Marking a layer that had no mark leaves fewer without one. -/
theorem unmarked_insert_lt {net : Network} {marks : Std.HashMap LayerId Mark} {id : LayerId}
    (mark : Mark) (hlt : id < net.size) (hnew : marks[id]? = none) :
    net.unmarked (marks.insert id mark) < net.unmarked marks := by
  refine countP_lt_of_lost (List.mem_range.2 hlt) (fun other h => ?_) (by simp) (by simp [hnew])
  rw [Std.HashMap.getElem?_insert] at h
  split at h
  · simp at h
  · exact h

/-- A step leaves fewer layers without a mark, or not more and less to do on the stack. -/
theorem measure_of_step {net : Network} {w next : Walk} (h : net.step w = .ok (some next)) :
    Prod.Lex (· < ·) (· < ·) (net.unmarked next.marks, net.remaining next.stack)
      (net.unmarked w.marks, net.remaining w.stack) := by
  cases move_of_step h with
  | finish hstack hlt hall =>
    apply Prod.Lex.right'
    · exact unmarked_insert_le net w.marks _ _
    · simp only [Walk.finish, hstack, remaining]
      omega
  | skip hstack hinput hdone =>
    apply Prod.Lex.right'
    · exact Nat.le_refl _
    · have hlt := (List.getElem?_eq_some_iff.1 hinput).1
      simp only [Walk.advance, hstack, remaining]
      omega
  | enter hstack hinput hnew hlt =>
    apply Prod.Lex.left
    exact unmarked_insert_lt .visiting hlt hnew

/-! ## The walk -/

/-- Takes steps until the stack is empty. -/
def walk (net : Network) (w : Walk) : Except NetworkError Walk :=
  match _h : net.step w with
  | .error e => .error e
  | .ok none => .ok w
  | .ok (some next) => net.walk next
termination_by (net.unmarked w.marks, net.remaining w.stack)
decreasing_by exact measure_of_step _h

/-- The state after the walk from a further output, which takes no step if the output was met. -/
def visit (net : Network) (w : Walk) (output : LayerId) : Except NetworkError Walk :=
  match net.layer output with
  | .error e => .error e
  | .ok _ => if w.marks.contains output then .ok w else net.walk (w.enter output)

end Network

end LayerNet
