import LayerNet.Decimal.Digits
import LayerNet.Decimal.Reader

/-!
# Signals

The numbers and names of signals, and what they do to a program that does not handle them.

Main definitions:

- `Signal.name?`, `Signal.ofName?`: from numbers to names and back.
- `Signal.ends`: whether a signal ends a program.
-/

namespace LayerNet.Signal

/-- The names of the signals from number one on. -/
def names : List String :=
  ["HUP", "INT", "QUIT", "ILL", "TRAP", "ABRT", "BUS", "FPE", "KILL", "USR1", "SEGV", "USR2",
    "PIPE", "ALRM", "TERM", "STKFLT", "CHLD", "CONT", "STOP", "TSTP", "TTIN", "TTOU", "URG", "XCPU",
    "XFSZ", "VTALRM", "PROF", "WINCH", "IO", "PWR", "SYS"]

/-- The name of a signal. -/
def name? (signal : Nat) : Option String :=
  if signal = 0 then none else names[signal - 1]?

/-- The number of a signal that is given by name or by number; the end of a shell has number
zero. -/
def ofName? (text : String) : Option Nat :=
  if !text.isEmpty && text.toList.all Char.isDigit then
    let n := Decimal.natOfDigits text.toList
    if n ≤ 64 then some n else none
  else
    let upper := String.ofList (text.toList.map Char.toUpper)
    if upper = "EXIT" then some 0 else (names.idxOf? upper).map (· + 1)

/-- Whether a signal ends a program that does not handle it; the others are passed over. -/
def ends (signal : Nat) : Bool :=
  !([0, 17, 18, 19, 20, 21, 22, 23, 28].contains signal)

/-- Whether a signal can be handled. -/
def canBeHandled (signal : Nat) : Bool :=
  signal ≠ 9 && signal ≠ 19

/-- What is said of a program that a signal ended. -/
def description (signal : Nat) : String :=
  match signal with
  | 1 => "Hangup"
  | 3 => "Quit"
  | 4 => "Illegal instruction"
  | 5 => "Trace/breakpoint trap"
  | 6 => "Aborted"
  | 7 => "Bus error"
  | 8 => "Floating point exception"
  | 9 => "Killed"
  | 10 => "User defined signal 1"
  | 11 => "Segmentation fault"
  | 12 => "User defined signal 2"
  | 14 => "Alarm clock"
  | 15 => "Terminated"
  | n => "Signal " ++ Decimal.natText n

end LayerNet.Signal
