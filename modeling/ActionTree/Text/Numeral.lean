/-!
# ActionTree.Text.Numeral

Integers written in base ten with ASCII digits.

1. a natural number is one digit or more, and may have a plus sign in front;
2. an integer may have a minus sign instead;
3. nothing else belongs to a numeral: no blanks, no separators, no other base.

Leading zeros are allowed, so a number has many numerals; the canonical one is
what `Nat.toDigits 10` writes, and reading gives the number back.
-/

namespace ActionTree.Text

/-- The number that a list of ASCII digits writes in base ten. -/
def numberOf (digits : List Char) : Nat := Nat.ofDigitChars 10 digits 0

/-- The digits of a number in base ten, without leading zeros. -/
def digitsOf (n : Nat) : List Char := Nat.toDigits 10 n

/-- One digit or more, and nothing but digits. -/
def isDigits (cs : List Char) : Bool := !cs.isEmpty && cs.all Char.isDigit

/-- A natural number; a leading plus sign is allowed. -/
def readNatChars (cs : List Char) : Option Nat :=
  let ds := match cs with
    | '+' :: ds => ds
    | ds => ds
  if isDigits ds then some (numberOf ds) else none

/-- An integer; a leading sign is allowed. -/
def readIntChars (cs : List Char) : Option Int :=
  match cs with
  | '-' :: ds => if isDigits ds then some (-(numberOf ds : Int)) else none
  | ds => (readNatChars ds).map Int.ofNat

/-- The numeral of an integer. -/
def intChars : Int → List Char
  | .ofNat n => digitsOf n
  | .negSucc n => '-' :: digitsOf (n + 1)

/-! ## Reading what was written -/

@[simp] theorem numberOf_digitsOf (n : Nat) : numberOf (digitsOf n) = n :=
  Nat.ofDigitChars_toDigits (by decide) (by decide)

/-- Zeros in front add nothing. -/
theorem numberOf_zeros (k : Nat) (ds : List Char) :
    numberOf (List.replicate k '0' ++ ds) = numberOf ds := by
  induction k with
  | zero => rfl
  | succ k ih => exact ih

theorem isDigit_of_mem_digitsOf {n : Nat} {c : Char} (h : c ∈ digitsOf n) :
    c.isDigit = true :=
  Nat.isDigit_of_mem_toDigits (by decide) (by decide) h

theorem digitsOf_ne_nil (n : Nat) : digitsOf n ≠ [] := by
  intro h
  have hlen : 0 < (Nat.toDigits 10 n).length := Nat.length_toDigits_pos
  simp [digitsOf] at h

theorem isDigits_digitsOf (n : Nat) : isDigits (digitsOf n) = true := by
  simp only [isDigits, Bool.and_eq_true, List.all_eq_true]
  refine ⟨?_, fun c hc => isDigit_of_mem_digitsOf hc⟩
  simpa using digitsOf_ne_nil n

end ActionTree.Text
