/-
Numbers written in decimal.

* `Decimal.ofInt` — an integer in its shortest decimal form: a minus sign for a
  negative number, then the digits without leading zeros;
* `Decimal.nat?`, `Decimal.int?` — what a text of digits, or of digits behind a
  sign, stands for; leading zeros are allowed here;
* `Decimal.int?_ofInt` — a number reads back from its own text.

Design note: texts are lists of characters, since that is what the readers of
this library walk over; `String` appears only where a text leaves it.
-/

namespace BranchPool.Decimal

/-- The decimal digits of `n`, without leading zeros. -/
def ofNat (n : Nat) : List Char :=
  Nat.toDigits 10 n

/-- An integer in decimal: its digits, behind a minus sign if it is negative. -/
def ofInt : Int → List Char
  | .ofNat n => ofNat n
  | .negSucc n => '-' :: ofNat (n + 1)

/-- The number that a non-empty text of digits stands for. -/
def nat? (cs : List Char) : Option Nat :=
  if cs ≠ [] ∧ cs.all Char.isDigit then some (Nat.ofDigitChars 10 cs 0) else none

/-- The number that digits stand for, behind an optional plus or minus sign. -/
def int? : List Char → Option Int
  | '-' :: cs => (nat? cs).map fun n => -(n : Int)
  | '+' :: cs => (nat? cs).map Int.ofNat
  | cs => (nat? cs).map Int.ofNat

theorem isDigit_of_mem_ofNat {n : Nat} {c : Char} (h : c ∈ ofNat n) : c.isDigit = true :=
  Nat.isDigit_of_mem_toDigits (by decide) (by decide) h

theorem ofNat_ne_nil (n : Nat) : ofNat n ≠ [] := by
  rw [ofNat, Nat.toDigits_eq_if (by decide)]
  split <;> simp

theorem nat?_ofNat (n : Nat) : nat? (ofNat n) = some n := by
  have hall : (ofNat n).all Char.isDigit = true :=
    List.all_eq_true.mpr fun _ h => isDigit_of_mem_ofNat h
  rw [nat?, if_pos ⟨ofNat_ne_nil n, hall⟩, ofNat, Nat.ofDigitChars_toDigits (by decide) (by decide)]

theorem int?_ofNat (n : Nat) : int? (ofNat n) = some (n : Int) := by
  have hread : (nat? (ofNat n)).map Int.ofNat = some (n : Int) := by simp [nat?_ofNat]
  cases h : ofNat n with
  | nil => exact absurd h (ofNat_ne_nil n)
  | cons c cs =>
    have hc : c.isDigit = true := isDigit_of_mem_ofNat (n := n) (by simp [h])
    rw [h] at hread
    unfold int?
    -- a decimal text begins with a digit, so neither sign can stand at its head
    split
    · next heq =>
      obtain ⟨rfl, -⟩ := List.cons.inj heq
      exact absurd hc (by decide)
    · next heq =>
      obtain ⟨rfl, -⟩ := List.cons.inj heq
      exact absurd hc (by decide)
    · exact hread

theorem int?_ofInt (i : Int) : int? (ofInt i) = some i := by
  cases i with
  | ofNat n => exact int?_ofNat n
  | negSucc n =>
    simp only [ofInt, int?, nat?_ofNat]
    rfl

theorem colon_not_mem_ofInt (i : Int) : ':' ∉ ofInt i := by
  have hnat : ∀ n, ':' ∉ ofNat n := fun n h => absurd (isDigit_of_mem_ofNat h) (by decide)
  cases i with
  | ofNat n => exact hnat n
  | negSucc n =>
    intro h
    rcases List.mem_cons.mp h with h | h
    · exact absurd h (by decide)
    · exact hnat (n + 1) h

end BranchPool.Decimal
