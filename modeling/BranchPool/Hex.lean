/-
Bytes written as pairs of hexadecimal digits.

* `Hex.ofBytes` — two lower-case digits for each byte, high half first;
* `Hex.bytes?` — the bytes that a text of digit pairs stands for, the digits in
  either case;
* `Hex.bytes?_ofBytes` — bytes read back from their own text.
-/

namespace BranchPool.Hex

/-- The value of a hexadecimal digit, in either case. -/
def digit? (c : Char) : Option Nat :=
  if c.isDigit then some (c.toNat - '0'.toNat)
  else if 'a' ≤ c ∧ c ≤ 'f' then some (c.toNat - 'a'.toNat + 10)
  else if 'A' ≤ c ∧ c ≤ 'F' then some (c.toNat - 'A'.toNat + 10)
  else none

/-- The two lower-case digits of a byte. -/
def ofByte (b : UInt8) : List Char :=
  [Nat.digitChar (b.toNat / 16), Nat.digitChar (b.toNat % 16)]

/-- The digits of each byte in turn. -/
def ofBytes (bs : List UInt8) : List Char :=
  bs.flatMap ofByte

/-- The bytes that pairs of digits stand for. -/
def bytes? : List Char → Option (List UInt8)
  | [] => some []
  | [_] => none
  | h :: l :: rest => do
    let high ← digit? h
    let low ← digit? l
    let bytes ← bytes? rest
    return UInt8.ofNat (16 * high + low) :: bytes

theorem digit?_digitChar : ∀ d < 16, digit? (Nat.digitChar d) = some d := by
  decide

theorem colon_not_mem_ofBytes (bs : List UInt8) : ':' ∉ Hex.ofBytes bs := by
  have hdigit : ∀ d < 16, ':' ≠ Nat.digitChar d := by decide
  intro h
  obtain ⟨b, -, hb⟩ := List.mem_flatMap.mp h
  have hlt : b.toNat < 256 := b.toNat_lt
  simp only [ofByte, List.mem_cons, List.not_mem_nil, or_false] at hb
  rcases hb with hb | hb
  · exact hdigit _ (by omega) hb
  · exact hdigit _ (by omega) hb

theorem bytes?_ofBytes (bs : List UInt8) : bytes? (ofBytes bs) = some bs := by
  induction bs with
  | nil => rfl
  | cons b bs ih =>
    have hb : b.toNat < 256 := b.toNat_lt
    have hjoin : UInt8.ofNat (16 * (b.toNat / 16) + b.toNat % 16) = b := by
      rw [Nat.div_add_mod, UInt8.ofNat_toNat]
    have hcons : ofBytes (b :: bs) =
        Nat.digitChar (b.toNat / 16) :: Nat.digitChar (b.toNat % 16) :: ofBytes bs := rfl
    rw [hcons, bytes?, digit?_digitChar _ (by omega), digit?_digitChar _ (by omega), ih]
    simp only [Option.bind_eq_bind, Option.bind_some, hjoin]
    rfl

end BranchPool.Hex
