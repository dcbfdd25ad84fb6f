import Mathlib.Data.List.Infix
import LayerNet.Program
import LayerNet.Proofs.Storage.Places

/-!
# Programs as bridges

Whatever starts programs, a bridge hands over the script as it is, takes it away again, and tells
how the program ended.

Main results:

- `ProgramEnd.text_injective`: what is said of an end says which one it was.
- `Program.readText_script`: a program reads the script where it is told to.
- `Program.bridge_fst_eq_ok_iff`, `Program.bridge_fst_eq_error_iff`: what is told of a run.
- `Program.bridge_snd`, `Program.bridge_snd_of_spawn`: what becomes of the files.
- `Program.isAvailable_iff`: which programs can be used.
-/

namespace LayerNet

/-! ## What is said of an end -/

/-- A number is what stands before the first character that is no digit. -/
theorem takeWhile_isDigit_natText_append (n : Nat) {back : String}
    (hback : ∀ c ∈ back.toList.head?, c.isDigit = false) :
    (Decimal.natText n ++ back).toList.takeWhile Char.isDigit = Decimal.digits n := by
  rw [Decimal.natText, String.toList_append, String.toList_ofList,
    List.takeWhile_append_of_pos fun c hc => Decimal.isDigit_of_mem_digits hc]
  cases hchars : back.toList with
  | nil => simp
  | cons c cs => simp [hback c (by simp [hchars])]

/-- Programs that end in different ways are told apart. -/
theorem ProgramEnd.text_injective : Function.Injective ProgramEnd.text := by
  have hkind (status : UInt8) (signal : Nat) : (exited status).text ≠ (signalled signal).text := by
    intro h
    have hfirst := congrArg (fun text => text.toList.head?) h
    simp [text] at hfirst
  have hsignal (signal : Nat) : ∃ back : String, (∀ c ∈ back.toList.head?, c.isDigit = false) ∧
      (signalled signal).text = "signal: " ++ (Decimal.natText signal ++ back) := by
    refine ⟨_, ?_, String.append_assoc⟩
    cases Signal.name? signal <;> simp
  intro ending ending' h
  cases ending with
  | exited status =>
      cases ending' with
      | exited status' =>
          have hnumber := Decimal.natText_injective ((String.append_right_inj _).mp h)
          rw [UInt8.toNat_inj.mp hnumber]
      | signalled signal => exact absurd h (hkind status signal)
  | signalled signal =>
      cases ending' with
      | exited status => exact absurd h.symm (hkind status signal)
      | signalled signal' =>
          rcases hsignal signal with ⟨back, hback, htext⟩
          rcases hsignal signal' with ⟨back', hback', htext'⟩
          rw [htext, htext', String.append_right_inj] at h
          have hdigits := congrArg (fun text => text.toList.takeWhile Char.isDigit) h
          simp only [takeWhile_isDigit_natText_append _ hback,
            takeWhile_isDigit_natText_append _ hback'] at hdigits
          rw [Decimal.natText_injective (congrArg String.ofList hdigits)]

namespace Program

variable {p : Program}

/-! ## The script -/

/-- A program finds the script where it is told to, and reads it as it was given. -/
theorem readText_script (script : String) (files : FileSystem) :
    (files.putNode scriptPlace (.file script.toUTF8 false)).readText (Path.ofPlace scriptPlace) =
      .ok script := by
  set ready := files.putNode scriptPlace (.file script.toUTF8 false)
  have hnode : ready.node? scriptPlace = some (.file script.toUTF8 false) :=
    FileSystem.node?_putNode_self _ _ _
  have hfold : scriptPlace.foldlM ready.step [] = .ok scriptPlace :=
    FileSystem.foldlM_step_of_node? hnode (by decide)
  have hparts : Path.parts (Path.ofPlace scriptPlace) = scriptPlace := by decide +kernel
  have hlocate : ready.locate (Path.ofPlace scriptPlace) =
      .ok (scriptPlace, .file script.toUTF8 false) := by
    refine FileSystem.locate_eq_ok_iff.mpr ⟨by decide +kernel, ?_, hnode, fun hends => ?_⟩
    · rw [hparts]
      exact hfold
    · exact absurd hends (by decide +kernel)
  exact (FileSystem.Holds.file hlocate).readText_eq (by rw [FileSystem.isFile, hlocate]; rfl)

theorem node?_withScript {place : List String} (script : String) (files : FileSystem)
    (h : Apart scriptPlace place) :
    (files.putNode scriptPlace (.file script.toUTF8 false)).node? place = files.node? place :=
  Node.find?_put_of_apart _ _ h

/-! ## What is told of a run -/

/-- What a program has written, as text. -/
def written (result : ProgramResult) : RuntimeOutput where
  stdout := Text.Utf8.lossy result.stdout
  stderr := Text.Utf8.lossy result.stderr

theorem outcome_eq_ok_iff {started : Except FileFault ProgramResult} {output : RuntimeOutput} :
    p.outcome started = .ok output ↔
      ∃ result, started = .ok result ∧ result.ending = .exited 0 ∧ output = written result := by
  cases started with
  | error fault => simp [outcome]
  | ok result =>
      simp only [outcome, Except.ok.injEq, exists_eq_left']
      split_ifs with hzero
      · simp [hzero, written, eq_comm]
      · simp [hzero]

theorem outcome_eq_error_iff {started : Except FileFault ProgramResult} {error : BridgeError} :
    p.outcome started = .error error ↔
      (∃ fault, started = .error fault ∧ error = .spawn p.name fault) ∨
        ∃ result, started = .ok result ∧ result.ending ≠ .exited 0 ∧
          error = .exit result.ending.text (written result) := by
  cases started with
  | error fault => simp [outcome, eq_comm]
  | ok result =>
      simp only [outcome, Except.ok.injEq, exists_eq_left', reduceCtorEq, false_and, exists_false,
        false_or]
      split_ifs with hzero
      · simp [hzero]
      · simp [hzero, written, eq_comm]

variable [Host] {script payload : String} {files : FileSystem}

/-- The start of a program by a bridge, on files that have the script. -/
def started (p : Program) (script payload : String) (files : FileSystem) :
    Except FileFault ProgramResult × FileSystem :=
  Host.start p [Path.ofPlace scriptPlace] payload.toUTF8
    (files.putNode scriptPlace (.file script.toUTF8 false))

/-- A run gives its output just if the program has exited with zero. -/
theorem bridge_fst_eq_ok_iff {output : RuntimeOutput} :
    (p.bridge script payload files).1 = .ok output ↔
      ∃ result, (p.started script payload files).1 = .ok result ∧ result.ending = .exited 0 ∧
        output = written result :=
  outcome_eq_ok_iff

/-- Otherwise the program was not started, or the error tells how it ended and what it had
written. -/
theorem bridge_fst_eq_error_iff {error : BridgeError} :
    (p.bridge script payload files).1 = .error error ↔
      (∃ fault, (p.started script payload files).1 = .error fault ∧ error = .spawn p.name fault) ∨
        ∃ result, (p.started script payload files).1 = .ok result ∧ result.ending ≠ .exited 0 ∧
          error = .exit result.ending.text (written result) :=
  outcome_eq_error_iff

/-! ## What becomes of the files -/

/-- The current directory stays, the script is gone, and apart from it there is what the program has
left. -/
theorem bridge_snd (p : Program) (script payload : String) (files : FileSystem) :
    (p.bridge script payload files).2.current = files.current ∧
      (p.bridge script payload files).2.node? scriptPlace = none ∧
      ∀ place, Apart scriptPlace place →
        (p.bridge script payload files).2.node? place =
          (p.started script payload files).2.node? place :=
  ⟨Host.current_start _ _ _ _, Node.find?_erase_self _ (by decide),
    fun _ h => Node.find?_erase_of_apart _ h⟩

/-- A bridge leaves the current directory. -/
theorem current_bridge (p : Program) (script payload : String) (files : FileSystem) :
    (p.bridge script payload files).2.current = files.current :=
  (bridge_snd p script payload files).1

/-- Without a program that can be started nothing is changed. -/
theorem bridge_snd_of_spawn {fault : FileFault}
    (h : (p.bridge script payload files).1 = .error (.spawn p.name fault)) {place : List String}
    (hplace : Apart scriptPlace place) :
    (p.bridge script payload files).2.node? place = files.node? place := by
  rcases bridge_fst_eq_error_iff.mp h with ⟨fault', hfault, -⟩ | ⟨result, -, -, hexit⟩
  · have hleft : (p.started script payload files).2 =
        files.putNode scriptPlace (.file script.toUTF8 false) :=
      Host.left_of_error (Prod.ext hfault rfl)
    rw [(bridge_snd p script payload files).2.2 place hplace, hleft,
      node?_withScript script files hplace]
  · cases hexit

/-- Whether a program can be used: it can be started, and exits with zero when it is asked for its
version. -/
theorem isAvailable_iff : (p.isAvailable files).1 = true ↔
    ∃ result, (Host.start p ["--version"] .empty files).1 = .ok result ∧
      result.ending = .exited 0 := by
  rw [isAvailable]
  rcases Host.start p ["--version"] .empty files with ⟨started, left⟩
  cases started <;> simp

/-- A program that cannot be started changes nothing when it is asked for its version. -/
theorem isAvailable_of_error {fault : FileFault}
    (h : (Host.start p ["--version"] .empty files).1 = .error fault) :
    p.isAvailable files = (false, files) := by
  have hstart : Host.start p ["--version"] .empty files = (.error fault, files) :=
    Prod.ext h (Host.left_of_error (Prod.ext h rfl))
  rw [isAvailable, hstart]

/-- Asking a program for its version leaves the current directory. -/
theorem current_isAvailable (p : Program) (files : FileSystem) :
    (p.isAvailable files).2.current = files.current := by
  rw [← Host.current_start p ["--version"] .empty files, isAvailable]
  rcases Host.start p ["--version"] .empty files with ⟨started, left⟩
  cases started <;> rfl

end Program

end LayerNet
