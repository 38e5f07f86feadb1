/-
What JSON values stand for.

* `Json.int?` — the integer that a number stands for; a number with a fraction
  or an exponent stands for none, and neither does minus zero;
* `Json.text?` — the text that a string stands for; an escape that names half
  of a surrogate pair stands for no character;
* `Json.int?_ofInt`, `Json.text?_ofString` — the value for a number or a text
  stands for just that;
* `Json.fields?` — the values of the named fields of a record.
-/
import BranchPool.Json.Reader

namespace BranchPool.Json

/-- The number that four hexadecimal digits stand for. -/
def codeUnit? (h₁ h₂ h₃ h₄ : Char) : Option Nat := do
  let a ← Hex.digit? h₁
  let b ← Hex.digit? h₂
  let c ← Hex.digit? h₃
  let d ← Hex.digit? h₄
  return 4096 * a + 256 * b + 16 * c + d

/-- The character that an escape with this letter stands for. -/
def shortEscape? : Char → Option Char
  | '"' => some '"'
  | '\\' => some '\\'
  | '/' => some '/'
  | 'b' => some '\x08'
  | 'f' => some '\x0c'
  | 'n' => some '\n'
  | 'r' => some '\r'
  | 't' => some '\t'
  | _ => none

/-- Whether a code unit opens a surrogate pair. -/
def isHighSurrogate (u : Nat) : Bool := 0xd800 ≤ u && u < 0xdc00

/-- Whether a code unit closes a surrogate pair. -/
def isLowSurrogate (u : Nat) : Bool := 0xdc00 ≤ u && u < 0xe000

/-- The character that a surrogate pair stands for. -/
def ofSurrogates (high low : Nat) : Char :=
  Char.ofNat (0x10000 + 1024 * (high - 0xd800) + (low - 0xdc00))

/-- The text written as a string literal.  An escape by number stands for one
code unit, and a character beyond the first 65536 takes two of them. -/
def unescape? : List Char → Option (List Char)
  | [] => some []
  | c :: cs =>
    if c = '\\' then
      match cs with
      | 'u' :: h₁ :: h₂ :: h₃ :: h₄ :: cs => do
        let u ← codeUnit? h₁ h₂ h₃ h₄
        -- a high surrogate needs a low one behind it; any other code unit is a letter by itself
        if isHighSurrogate u then
          match cs with
          | '\\' :: 'u' :: l₁ :: l₂ :: l₃ :: l₄ :: cs =>
            let v ← codeUnit? l₁ l₂ l₃ l₄
            if isLowSurrogate v then (unescape? cs).map (ofSurrogates u v :: ·) else none
          | _ => none
        else if isLowSurrogate u then none
        else (unescape? cs).map (Char.ofNat u :: ·)
      | e :: cs => do
        let c ← shortEscape? e
        (unescape? cs).map (c :: ·)
      | [] => none
    else (unescape? cs).map (c :: ·)

theorem codeUnit?_control {n : Nat} (h : n < 32) :
    codeUnit? '0' '0' (Nat.digitChar (n / 16)) (Nat.digitChar (n % 16)) = some n := by
  revert n
  decide

theorem unescape?_escapeChar (c : Char) (cs : List Char) :
    unescape? (escapeChar c ++ cs) = (unescape? cs).map (c :: ·) := by
  unfold escapeChar
  split
  · next h => rw [unescape?.eq_def]; simp [shortEscape?, h]
  split
  · next h => rw [unescape?.eq_def]; simp [shortEscape?, h]
  split
  · next h => rw [unescape?.eq_def]; simp [shortEscape?, h]
  split
  · next h => rw [unescape?.eq_def]; simp [shortEscape?, h]
  split
  · next h => rw [unescape?.eq_def]; simp [shortEscape?, h]
  split
  · next h => rw [unescape?.eq_def]; simp [shortEscape?, h]
  split
  · next h => rw [unescape?.eq_def]; simp [shortEscape?, h]
  split
  · next h =>
    -- a control letter is far below the surrogates
    have hhigh : isHighSurrogate c.toNat = false := by simp [isHighSurrogate]; omega
    have hlow : isLowSurrogate c.toNat = false := by simp [isLowSurrogate]; omega
    rw [unescape?.eq_def]
    simp [codeUnit?_control h, hhigh, hlow]
  · next hback _ _ _ _ _ _ =>
    -- any other letter stands for itself, as it is no backslash
    rw [List.cons_append, List.nil_append, unescape?.eq_def]
    simp only [if_neg hback]

theorem unescape?_escape (cs : List Char) : unescape? (escape cs) = some cs := by
  induction cs with
  | nil => rw [show escape [] = [] from rfl, unescape?.eq_def]
  | cons c cs ih =>
    rw [show escape (c :: cs) = escapeChar c ++ escape cs from rfl, unescape?_escapeChar, ih]
    rfl

/-- The text that a string stands for. -/
def text? : Json → Option String
  | .string literal => (unescape? literal).map String.ofList
  | _ => none

@[simp] theorem text?_ofString (s : String) : (ofString s).text? = some s := by
  simp [ofString, text?, unescape?_escape]

/-- The integer that a number stands for. -/
def int? : Json → Option Int
  | .number ['-', '0'] => none
  | .number literal => Decimal.int? literal
  | _ => none

@[simp] theorem int?_ofInt (i : Int) : (ofInt i).int? = some i := by
  have hread := Decimal.int?_ofInt i
  unfold ofInt int?
  split
  · next heq =>
    -- a number that would be written as minus zero is zero, which has no sign
    rw [Json.number.inj heq, show Decimal.int? ['-', '0'] = some 0 by decide] at hread
    obtain rfl := Option.some.inj hread
    exact absurd (Json.number.inj heq) (by decide)
  · next heq => rw [← Json.number.inj heq, hread]
  · next hne => exact absurd rfl (hne _)

/-- The integer that a number stands for, if it is at least zero and below a
bound. -/
def natBelow? (bound : Nat) (v : Json) : Option Nat := do
  let i ← v.int?
  if 0 ≤ i ∧ i < bound then some i.toNat else none

/-- Whether fields that nobody asked for are passed over or make a record
unreadable. -/
inductive Unknown where
  | skipped
  | refused
  deriving DecidableEq

/-- The values of the named fields of a record, in the order of the names.  An
object gives them in any order, each once at most, and may leave some out; an
array gives all of them in the order of the names and nothing else. -/
def fields? (names : List String) (unknown : Unknown) : Json → Option (List (Option Json))
  | .object members => do
    let members ← members.mapM fun (key, v) => (unescape? key).map fun key => (String.ofList key, v)
    let known := fun (m : String × Json) => names.contains m.1
    if unknown = .refused ∧ ¬ members.all known then none
    else if ((members.filter known).map (·.1)).Nodup then
      some (names.map fun name => members.lookup name)
    else none
  | .array items => if items.length = names.length then some (items.map some) else none
  | _ => none

end BranchPool.Json
