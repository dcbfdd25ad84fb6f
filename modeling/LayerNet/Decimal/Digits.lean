/-!
# Decimal digits

The digits of natural numbers, which every number's text is made of.
-/

namespace LayerNet.Decimal

/-- The decimal digits of a natural number, most significant first. -/
def digits (n : Nat) : List Char :=
  Nat.toDigits 10 n

/-- The text of a natural number. -/
def natText (n : Nat) : String :=
  String.ofList (digits n)

theorem isDigit_of_mem_digits {n : Nat} {c : Char} (h : c ∈ digits n) : c.isDigit = true :=
  Nat.isDigit_of_mem_toDigits (by decide) (by decide) h

/-- Different numbers have different texts. -/
theorem natText_injective {m n : Nat} (h : natText m = natText n) : m = n := by
  have hdigits : Nat.toDigits 10 m = Nat.toDigits 10 n := String.ofList_injective h
  rw [← Nat.ofDigitChars_ten_toDigits (n := m), hdigits, Nat.ofDigitChars_ten_toDigits]

/-- The decimal text of an integer. -/
def intText (n : Int) : String :=
  (if n < 0 then "-" else "") ++ natText n.natAbs

end LayerNet.Decimal
