import Mathlib.Logic.Function.Basic
import LayerNet.NameRegistry
import LayerNet.Proofs.Text.Quoted

/-!
# A registry in several hands

A registry may have any number of holders.  Each of them asks for names and counts as it likes; a
request is served as a whole before the next one, whoever makes it, so that what happens is told by
the order in which the holders get their turns.  Whatever that order is, every name has the number
that comes next for its stem, and no name is given twice: from a name the stem and the number can be
read off again, since a number has no underscore in it.

Main definitions:

- `Request`, `Answer`, `serve`: what can be asked of a registry.
- `Sharing.run`: a registry and its holders after turns in some order.

Main results:

- `numbered_eq_numbered_iff`: a name tells its stem and its number.
- `Accounts.turn`, `Accounts.run`: what one turn keeps, and what all turns keep.
- `requests_append_waiting`: every holder is served in its own order.
- `answers_of_run`: all answers after any turns.
-/

namespace LayerNet
namespace NameRegistry

/-! ## What a name tells -/

theorem underscore_not_mem_digits (n : Nat) : '_' ∉ Decimal.digits n := by
  intro hmem
  have hdigit : ('_' : Char).isDigit = true :=
    Decimal.isDigit_of_mem_digits hmem
  exact absurd hdigit (by decide)

/-- A name tells its stem and its number, which stands behind the last underscore. -/
theorem numbered_eq_numbered_iff {base other : String} {m n : Nat} :
    numbered base m = numbered other n ↔ stem base = stem other ∧ m = n := by
  constructor
  · intro h
    have hchars : (stem base).toList ++ '_' :: Decimal.digits m =
        (stem other).toList ++ '_' :: Decimal.digits n := by
      simpa [numbered, Decimal.natText] using congrArg String.toList h
    rcases Text.append_cons_inj_of_not_mem_back (underscore_not_mem_digits m)
      (underscore_not_mem_digits n) hchars with ⟨hstem, hdigits⟩
    exact ⟨String.toList_inj.mp hstem, Decimal.natText_injective (congrArg String.ofList hdigits)⟩
  · rintro ⟨hstem, rfl⟩
    rw [numbered, hstem, numbered]

/-! ## Requests -/

/-- What a holder may ask of a registry. -/
inductive Request where
  | name (base : String)
  | count (base : String)
deriving DecidableEq, Repr

/-- What a registry answers. -/
inductive Answer where
  | name (name : String)
  | count (n : Nat)
deriving DecidableEq, Repr

/-- Serves a request as a whole. -/
def serve (registry : NameRegistry) : Request → Answer × NameRegistry
  | .name base => (.name (registry.next base).1, (registry.next base).2)
  | .count base => (.count (registry.count base), registry)

/-- The stem of a name that is asked for. -/
def Request.stem? : Request → Option String
  | .name base => some (stem base)
  | .count _ => none

/-- A request for a name is counted for its stem and for no other, a request for a count not at
all. -/
theorem count_serve_snd (registry : NameRegistry) (request : Request) (base : String) :
    (registry.serve request).2.count base =
      registry.count base + if request.stem? = some (stem base) then 1 else 0 := by
  cases request with
  | count other => rfl
  | name other =>
      by_cases hstem : stem other = stem base
      · have hcount (r : NameRegistry) : r.count base = r.count other := r.count_congr hstem.symm
        simp [serve, Request.stem?, hstem, hcount]
      · simp [serve, Request.stem?, hstem, count_next_of_ne registry (Ne.symm hstem)]

/-! ## Holders -/

/-- A request that was served, with the holder who made it and with the answer. -/
structure Event (Holder : Type) where
  holder : Holder
  request : Request
  answer : Answer
deriving DecidableEq, Repr

/-- The name that was given out. -/
def Event.name? {Holder : Type} (event : Event Holder) : Option String :=
  match event.answer with
  | .name name => some name
  | .count _ => none

/-- A registry with the requests that each holder has yet to make, and with all that has happened,
in order. -/
structure Sharing (Holder : Type) where
  registry : NameRegistry := {}
  waiting : Holder → List Request
  log : List (Event Holder) := []

variable {Holder : Type}

/-- How many names of the stem of a base were asked for. -/
def asked (base : String) (log : List (Event Holder)) : Nat :=
  log.countP fun event => event.request.stem? = some (stem base)

/-- The right answer to a request after what has happened. -/
def rightAnswer (log : List (Event Holder)) : Request → Answer
  | .name base => .name (numbered base (asked base log + 1))
  | .count base => .count (asked base log)

theorem asked_concat (base : String) (log : List (Event Holder)) (event : Event Holder) :
    asked base (log ++ [event]) =
      asked base log + if event.request.stem? = some (stem base) then 1 else 0 := by
  simp [asked, List.countP_append, List.countP_singleton]

/-- A name that was asked for is counted from then on. -/
theorem asked_take_lt {log : List (Event Holder)} {base : String} {i j : Nat}
    {event : Event Holder} (hi : log[i]? = some event) (hij : i < j)
    (hstem : event.request.stem? = some (stem base)) :
    asked base (log.take i) < asked base (log.take j) := by
  have hnext : log.take (i + 1) = log.take i ++ [event] := by
    rw [List.take_add_one, hi, Option.toList_some]
  calc
    asked base (log.take i) < asked base (log.take (i + 1)) := by
      rw [hnext, asked_concat, if_pos hstem]
      omega
    _ ≤ asked base (log.take j) := (List.take_sublist_take_left (by omega)).countP_le

/-! ## The invariant -/

/-- What holds after any turns: the registry has counted what was asked for, and every answer was
right when it was given. -/
structure Accounts (s : Sharing Holder) : Prop where
  count_eq : ∀ base, s.registry.count base = asked base s.log
  answer_eq : ∀ (i : Nat) (event : Event Holder), s.log[i]? = some event →
    event.answer = rightAnswer (s.log.take i) event.request

theorem accounts_start (programs : Holder → List Request) :
    Accounts { waiting := programs } where
  count_eq := fun _ => rfl
  answer_eq := by simp

variable {s : Sharing Holder}

/-- A registry that has counted what was asked for answers rightly. -/
theorem Accounts.serve_fst (h : Accounts s) (request : Request) :
    (s.registry.serve request).1 = rightAnswer s.log request := by
  cases request with
  | name base => rw [serve, next_fst, h.count_eq, rightAnswer]
  | count base => rw [serve, h.count_eq, rightAnswer]

/-- A name answers a request for a name, and its number is the one that comes next for the stem. -/
theorem Accounts.name?_eq_some (h : Accounts s) {i : Nat} {event : Event Holder} {name : String}
    (hi : s.log[i]? = some event) (hname : event.name? = some name) :
    ∃ base, event.request.stem? = some (stem base) ∧
      name = numbered base (asked base (s.log.take i) + 1) := by
  have hanswer := h.answer_eq i event hi
  rw [Event.name?, hanswer] at hname
  cases hrequest : event.request with
  | count base => simp [hrequest, rightAnswer] at hname
  | name base =>
      simp only [hrequest, rightAnswer, Option.some.injEq] at hname
      exact ⟨base, rfl, hname.symm⟩

/-- No name is given out twice. -/
theorem Accounts.nodup_names (h : Accounts s) : (s.log.filterMap Event.name?).Nodup := by
  rw [List.Nodup, List.pairwise_filterMap, List.pairwise_iff_getElem]
  intro i j hi hj hij name hname other hother heq
  have hati : s.log[i]? = some s.log[i] := List.getElem?_eq_getElem hi
  have hatj : s.log[j]? = some s.log[j] := List.getElem?_eq_getElem hj
  rcases h.name?_eq_some hati hname with ⟨base, hbase, rfl⟩
  rcases h.name?_eq_some hatj hother with ⟨base', -, rfl⟩
  rcases numbered_eq_numbered_iff.mp heq with ⟨hstem, hnumber⟩
  -- of two names of one stem the later has the greater number
  have hlt : asked base (s.log.take i) < asked base (s.log.take j) := asked_take_lt hati hij hbase
  have hsame : asked base (s.log.take j) = asked base' (s.log.take j) := by
    rw [asked, hstem, asked]
  omega

/-! ## Turns -/

variable [DecidableEq Holder]

/-- The turn of a holder: its next request is served, if it has one. -/
def Sharing.turn (s : Sharing Holder) (holder : Holder) : Sharing Holder :=
  match s.waiting holder with
  | [] => s
  | request :: rest =>
    { registry := (s.registry.serve request).2
      waiting := Function.update s.waiting holder rest
      log := s.log ++ [⟨holder, request, (s.registry.serve request).1⟩] }

/-- What is reached when the holders get their turns in the given order. -/
def Sharing.run (s : Sharing Holder) (schedule : List Holder) : Sharing Holder :=
  schedule.foldl Sharing.turn s

/-- Whoever gets the turn, the accounts stay right. -/
theorem Accounts.turn (h : Accounts s) (holder : Holder) : Accounts (s.turn holder) := by
  unfold Sharing.turn
  split
  · exact h
  · rename_i request rest hwaiting
    refine ⟨fun base => ?_, fun i event hevent => ?_⟩
    · rw [count_serve_snd, asked_concat, h.count_eq]
    · rcases Nat.lt_or_ge i s.log.length with hlt | hge
      · rw [List.getElem?_append_left hlt] at hevent
        rw [List.take_append_of_le_length (Nat.le_of_lt hlt)]
        exact h.answer_eq i event hevent
      · rw [List.getElem?_append_right hge, List.getElem?_singleton] at hevent
        split at hevent <;> rename_i hi
        · have hlength : i = s.log.length := by omega
          cases hevent
          rw [hlength, List.take_left]
          exact h.serve_fst request
        · cases hevent

theorem Accounts.run (h : Accounts s) (schedule : List Holder) : Accounts (s.run schedule) := by
  induction schedule generalizing s with
  | nil => exact h
  | cons holder schedule ih => exact ih (h.turn holder)

/-- The requests that a holder has made, and behind them those that it has yet to make, are always
the same: it is served in its own order, whatever turns of others come between. -/
theorem requests_append_waiting (s : Sharing Holder) (schedule : List Holder) (holder : Holder) :
    ((s.run schedule).log.filter fun event => event.holder = holder).map Event.request ++
        (s.run schedule).waiting holder =
      (s.log.filter fun event => event.holder = holder).map Event.request ++ s.waiting holder := by
  induction schedule generalizing s with
  | nil => rfl
  | cons other schedule ih =>
      refine (ih (s.turn other)).trans ?_
      unfold Sharing.turn
      split
      · rfl
      · rename_i request rest hwaiting
        by_cases hholder : other = holder
        · subst hholder
          simp [hwaiting]
        · simp [hholder, Function.update_of_ne (Ne.symm hholder)]

/-- Whatever the holders ask for, and in whatever order they get their turns: a name is the stem of
its base with an underscore and the number of names of that stem that were asked for up to then, a
count is that number, and no name is given out twice. -/
theorem answers_of_run (programs : Holder → List Request) (schedule : List Holder) :
    let log := (Sharing.run { waiting := programs } schedule).log
    (∀ (i : Nat) (event : Event Holder), log[i]? = some event →
        (∀ base, event.request = .name base → event.answer =
          .name (stem base ++ "_" ++ Decimal.natText (asked base (log.take i) + 1))) ∧
        ∀ base, event.request = .count base →
          event.answer = .count (asked base (log.take i))) ∧
      (log.filterMap Event.name?).Nodup := by
  intro log
  have h : Accounts (Sharing.run { waiting := programs } schedule) :=
    (accounts_start programs).run schedule
  refine ⟨fun i event hi => ?_, h.nodup_names⟩
  have hanswer : event.answer = rightAnswer (log.take i) event.request := h.answer_eq i event hi
  constructor
  · intro base hrequest
    rw [hanswer, hrequest]
    rfl
  · intro base hrequest
    rw [hanswer, hrequest]
    rfl

/-- The requests of two holders, for bases that could be taken for each other. -/
def likePrograms : Bool → List Request
  | true => [.name "lstm_", .count "lstm", .name "a"]
  | false => [.name "lstm", .name "a_1", .name ""]

/-- The two holders take turns. -/
theorem answers_likePrograms :
    let log := (Sharing.run { waiting := likePrograms } [true, false, true, false, true, false]).log
    log.map Event.answer = [.name "lstm_1", .name "lstm_2", .count 2, .name "a_1_1", .name "a_1",
        .name "_1"] ∧
      (∀ event, log[1]? = some event →
        event.answer = .name (stem "lstm" ++ "_" ++ Decimal.natText 2)) ∧
      (∀ event, log[2]? = some event → event.answer = .count 2) ∧
      (log.filterMap Event.name?).Nodup := by
  intro log
  rcases answers_of_run likePrograms [true, false, true, false, true, false] with
    ⟨hanswers, hnodup⟩
  refine ⟨by decide +kernel, fun event hevent => ?_, fun event hevent => ?_, hnodup⟩
  · refine (hanswers 1 event hevent).1 "lstm" ?_
    obtain rfl := Option.some.inj hevent
    rfl
  · refine (hanswers 2 event hevent).2 "lstm" ?_
    obtain rfl := Option.some.inj hevent
    rfl

end NameRegistry
end LayerNet
