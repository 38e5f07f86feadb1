/-
Reading a JSON value from the front of a text.

* `Json.scanNumber`, `Json.scanString` — a literal and the text behind it; a
  string holds no control character, and no backslash but in an escape; by
  `Json.scanString_escape` a written string is read up to its closing quote;
* `Json.readPrefix?` — the value at the front of a text and the text behind it.

Blanks between the parts of a value are spaces, tabs and line ends.  A comma
stands only between two items or members.

Design note: `value?` goes one level of brackets down with each unit of fuel,
and `sequence?` one item on; a text has no more of either than characters, so
the fuel given by `readPrefix?` does not run out.
-/
import BranchPool.Hex
import BranchPool.Json

namespace BranchPool.Json

/-- Whether a character may stand between the parts of a value. -/
def isBlank (c : Char) : Bool := c = ' ' || c = '\t' || c = '\n' || c = '\r'

/-- The text from the first character that is no blank. -/
def skipBlanks (cs : List Char) : List Char := cs.dropWhile isBlank

/-! ### Literals -/

/-- One or more digits. -/
def scanDigits (cs : List Char) : Option (List Char × List Char) :=
  let digits := cs.takeWhile Char.isDigit
  if digits.isEmpty then none else some (digits, cs.dropWhile Char.isDigit)

/-- Zero, or digits of which the first is not zero. -/
def scanWhole : List Char → Option (List Char × List Char)
  | '0' :: cs => some (['0'], cs)
  | cs => scanDigits cs

/-- A point and digits, or nothing. -/
def scanFraction : List Char → Option (List Char × List Char)
  | '.' :: cs => (scanDigits cs).map fun (digits, rest) => ('.' :: digits, rest)
  | cs => some ([], cs)

/-- Digits behind an optional sign. -/
def scanSigned : List Char → Option (List Char × List Char)
  | '+' :: cs => (scanDigits cs).map fun (digits, rest) => ('+' :: digits, rest)
  | '-' :: cs => (scanDigits cs).map fun (digits, rest) => ('-' :: digits, rest)
  | cs => scanDigits cs

/-- An exponent, or nothing. -/
def scanExponent : List Char → Option (List Char × List Char)
  | 'e' :: cs => (scanSigned cs).map fun (digits, rest) => ('e' :: digits, rest)
  | 'E' :: cs => (scanSigned cs).map fun (digits, rest) => ('E' :: digits, rest)
  | cs => some ([], cs)

/-- A number without a sign. -/
def scanUnsigned (cs : List Char) : Option (List Char × List Char) := do
  let (whole, cs) ← scanWhole cs
  let (fraction, cs) ← scanFraction cs
  let (exponent, cs) ← scanExponent cs
  return (whole ++ fraction ++ exponent, cs)

/-- A number, as far as it goes. -/
def scanNumber : List Char → Option (List Char × List Char)
  | '-' :: cs => (scanUnsigned cs).map fun (literal, rest) => ('-' :: literal, rest)
  | cs => scanUnsigned cs

/-- Whether a character may stand behind a backslash by itself. -/
def isShortEscape (c : Char) : Bool :=
  ['"', '\\', '/', 'b', 'f', 'n', 'r', 't'].contains c

/-- What lies before the closing quote of a string, and the text behind it. -/
def scanString : List Char → Option (List Char × List Char)
  | [] => none
  | c :: cs =>
    if c = '"' then some ([], cs)
    else if c = '\\' then
      match cs with
      | 'u' :: h₁ :: h₂ :: h₃ :: h₄ :: cs =>
        if [h₁, h₂, h₃, h₄].all fun h => (Hex.digit? h).isSome then
          (scanString cs).map fun (literal, rest) =>
            ('\\' :: 'u' :: h₁ :: h₂ :: h₃ :: h₄ :: literal, rest)
        else none
      | e :: cs =>
        if isShortEscape e then
          (scanString cs).map fun (literal, rest) => ('\\' :: e :: literal, rest)
        else none
      | [] => none
    else if c.toNat < 32 then none
    else (scanString cs).map fun (literal, rest) => (c :: literal, rest)

theorem scanString_cons {c : Char} {cs : List Char} (hquote : c ≠ '"') (hback : c ≠ '\\')
    (hcontrol : ¬ c.toNat < 32) :
    scanString (c :: cs) = (scanString cs).map fun (literal, rest) => (c :: literal, rest) := by
  rw [scanString.eq_def]
  simp only [if_neg hquote, if_neg hback, if_neg hcontrol]

theorem isSome_digit?_digitChar {n : Nat} (h : n < 16) :
    (Hex.digit? (Nat.digitChar n)).isSome = true := by
  revert n
  decide

theorem scanString_escapeChar (c : Char) (cs : List Char) :
    scanString (escapeChar c ++ cs) =
      (scanString cs).map fun (literal, rest) => (escapeChar c ++ literal, rest) := by
  unfold escapeChar
  split
  · rw [scanString.eq_def]; simp [isShortEscape]
  split
  · rw [scanString.eq_def]; simp [isShortEscape]
  split
  · rw [scanString.eq_def]; simp [isShortEscape]
  split
  · rw [scanString.eq_def]; simp [isShortEscape]
  split
  · rw [scanString.eq_def]; simp [isShortEscape]
  split
  · rw [scanString.eq_def]; simp [isShortEscape]
  split
  · rw [scanString.eq_def]; simp [isShortEscape]
  split
  · -- a control character by its number: four digits stand behind the `u`
    have hzero : (Hex.digit? '0').isSome = true := by decide
    have hhigh := isSome_digit?_digitChar (n := c.toNat / 16) (by omega)
    have hlow := isSome_digit?_digitChar (n := c.toNat % 16) (by omega)
    rw [List.cons_append, scanString.eq_def]
    simp [hzero, hhigh, hlow]
  · next hquote hback _ _ _ _ _ hcontrol => exact scanString_cons hquote hback hcontrol

theorem scanString_escape (cs rest : List Char) :
    scanString (escape cs ++ '"' :: rest) = some (escape cs, rest) := by
  induction cs with
  | nil => rw [show escape [] = [] from rfl, List.nil_append, scanString.eq_def]; simp
  | cons c cs ih =>
    rw [show escape (c :: cs) = escapeChar c ++ escape cs from rfl, List.append_assoc,
      scanString_escapeChar, ih]
    rfl

/-- The text behind a word, if it begins with that word. -/
def scanWord : List Char → List Char → Option (List Char)
  | [], cs => some cs
  | _ :: _, [] => none
  | w :: word, c :: cs => if c = w then scanWord word cs else none

/-! ### Values -/

/-- One or more items with commas between them, up to a closing mark. -/
def sequence? {α : Type} (item? : List Char → Option (α × List Char)) (closing : Char) :
    Nat → List Char → Option (List α × List Char)
  | 0, _ => none
  | fuel + 1, cs => do
    let (x, cs) ← item? cs
    match skipBlanks cs with
    | [] => none
    | c :: cs =>
      if c = closing then some ([x], cs)
      else if c = ',' then
        let (xs, cs) ← sequence? item? closing fuel cs
        some (x :: xs, cs)
      else none

/-- What stands between brackets: nothing, or items with commas between them. -/
def bracketed? {α : Type} (item? : List Char → Option (α × List Char)) (closing : Char)
    (cs : List Char) : Option (List α × List Char) :=
  match skipBlanks cs with
  | [] => none
  -- each item takes at least one letter, so the length of the text is fuel enough
  | c :: rest => if c = closing then some ([], rest) else sequence? item? closing cs.length cs

/-- A member of an object: a key, a colon and a value. -/
def member? (value? : List Char → Option (Json × List Char)) (cs : List Char) :
    Option ((List Char × Json) × List Char) :=
  match skipBlanks cs with
  | '"' :: cs => do
    let (key, cs) ← scanString cs
    match skipBlanks cs with
    | ':' :: cs =>
      let (v, cs) ← value? cs
      some ((key, v), cs)
    | _ => none
  | _ => none

/-- A value, its brackets nested no deeper than the fuel allows. -/
def value? : Nat → List Char → Option (Json × List Char)
  | 0, _ => none
  | fuel + 1, cs =>
    match skipBlanks cs with
    | [] => none
    | c :: cs =>
      if c = '"' then (scanString cs).map fun (literal, rest) => (.string literal, rest)
      else if c = '[' then
        (bracketed? (value? fuel) ']' cs).map fun (items, rest) => (.array items, rest)
      else if c = '{' then
        (bracketed? (member? (value? fuel)) '}' cs).map fun (members, rest) =>
          (.object members, rest)
      else if c = 'n' then (scanWord ['u', 'l', 'l'] cs).map fun rest => (.null, rest)
      else if c = 't' then (scanWord ['r', 'u', 'e'] cs).map fun rest => (.bool true, rest)
      else if c = 'f' then (scanWord ['a', 'l', 's', 'e'] cs).map fun rest => (.bool false, rest)
      else (scanNumber (c :: cs)).map fun (literal, rest) => (.number literal, rest)

/-- The value at the front of a text, and the text behind it. -/
def readPrefix? (cs : List Char) : Option (Json × List Char) := value? (cs.length + 1) cs

end BranchPool.Json
