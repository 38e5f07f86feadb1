/-
Values read back from their own text.

* `Json.Ends` — whether a number that stands before a text ends there;
* `Json.scanNumber_append`, `Json.scanString_append` — a literal is found in the same way
  whatever text follows it;
* `Json.Written` — whether the literals of a value can stand in a text;
* `Json.value?_chars`, `Json.readPrefix?_chars` — such a value is read back from the front
  of any text that begins with its own.

Design note: the induction is on the fuel of the reader.  One unit of it goes for each
level of brackets, and what stands between brackets is shorter than the whole by two.
-/
import BranchPool.Json.Record
import Mathlib.Data.List.TakeWhile

namespace BranchPool.Json

/-! ### Literals before more text -/

/-- The marks within a number, its digits apart. -/
def numberMarks : List Char := ['.', 'e', 'E', '+', '-']

/-- Whether a number that stands before a text ends there. -/
def Ends (rest : List Char) : Prop :=
  ∀ c ∈ rest.head?, c.isDigit = false ∧ c ∉ numberMarks

theorem ends_nil : Ends [] := by simp [Ends]

theorem ends_cons {c : Char} (hc : c = ',' ∨ c = ']' ∨ c = '}') (rest : List Char) :
    Ends (c :: rest) := by
  intro c' hc'
  obtain rfl : c = c' := by simpa using hc'
  obtain rfl | rfl | rfl := hc <;> decide

/-- More text does not bring a digit or a mark to the front. -/
theorem Ends.append_ne {cs rest : List Char} {c : Char} (hrest : Ends rest)
    (hc : c.isDigit = true ∨ c ∈ numberMarks) (hcs : ∀ cs', cs = c :: cs' → False) (cs' : List Char) :
    cs ++ rest ≠ c :: cs' := by
  intro heq
  cases cs with
  | nil =>
    obtain ⟨hdigit, hmark⟩ := hrest c (by rw [List.nil_append] at heq; rw [heq]; rfl)
    simp [hdigit, hmark] at hc
  | cons d cs =>
    obtain ⟨rfl, -⟩ := List.cons.inj heq
    exact hcs cs rfl

section Numbers

variable {cs literal left rest : List Char}

theorem takeWhile_digits (hrest : Ends rest) : rest.takeWhile Char.isDigit = [] := by
  cases rest with
  | nil => rfl
  | cons c rest => rw [List.takeWhile_cons, (hrest c rfl).1]; rfl

theorem dropWhile_digits (hrest : Ends rest) : rest.dropWhile Char.isDigit = rest := by
  cases rest with
  | nil => rfl
  | cons c rest => rw [List.dropWhile_cons, (hrest c rfl).1]; rfl

theorem scanDigits_append (hrest : Ends rest) (h : scanDigits cs = some (literal, left)) :
    scanDigits (cs ++ rest) = some (literal, left ++ rest) := by
  -- the digits end with the text they stand in, or before
  have htake : (cs ++ rest).takeWhile Char.isDigit = cs.takeWhile Char.isDigit := by
    rw [List.takeWhile_append, takeWhile_digits hrest, List.append_nil]
    split
    · next hall =>
      exact (List.IsPrefix.eq_of_length (List.takeWhile_prefix _) hall).symm
    · rfl
  have hdrop : (cs ++ rest).dropWhile Char.isDigit = cs.dropWhile Char.isDigit ++ rest := by
    rw [List.dropWhile_append, dropWhile_digits hrest]
    split
    · next hall => rw [List.isEmpty_iff.mp hall, List.nil_append]
    · rfl
  rw [scanDigits] at h ⊢
  rw [htake, hdrop]
  split at h
  · cases h
  · next hsome =>
    cases h
    rw [if_neg hsome]

theorem scanWhole_append (hrest : Ends rest) (h : scanWhole cs = some (literal, left)) :
    scanWhole (cs ++ rest) = some (literal, left ++ rest) := by
  rw [scanWhole.eq_def] at h
  split at h
  · cases h
    rfl
  · next hzero =>
    rw [scanWhole]
    · exact scanDigits_append hrest h
    · exact hrest.append_ne (by decide) hzero

/-- What is put before a literal does not matter to the text behind it. -/
theorem map_append {found found' : Option (List Char × List Char)} (put : List Char → List Char)
    (hfound : ∀ {literal left}, found = some (literal, left) →
      found' = some (literal, left ++ rest))
    (h : found.map (fun (literal, rest) => (put literal, rest)) = some (literal, left)) :
    found'.map (fun (literal, rest) => (put literal, rest)) = some (literal, left ++ rest) := by
  obtain ⟨⟨literal', left'⟩, hsome, heq⟩ := Option.map_eq_some_iff.mp h
  cases heq
  rw [hfound hsome]
  rfl

theorem scanFraction_append (hrest : Ends rest) (h : scanFraction cs = some (literal, left)) :
    scanFraction (cs ++ rest) = some (literal, left ++ rest) := by
  rw [scanFraction.eq_def] at h
  split at h
  · exact map_append _ (scanDigits_append hrest) h
  · next hpoint =>
    cases h
    rw [scanFraction]
    exact hrest.append_ne (by decide) hpoint

theorem scanSigned_append (hrest : Ends rest) (h : scanSigned cs = some (literal, left)) :
    scanSigned (cs ++ rest) = some (literal, left ++ rest) := by
  rw [scanSigned.eq_def] at h
  split at h
  · exact map_append _ (scanDigits_append hrest) h
  · exact map_append _ (scanDigits_append hrest) h
  · next hplus hminus =>
    rw [scanSigned]
    · exact scanDigits_append hrest h
    · exact hrest.append_ne (by decide) hplus
    · exact hrest.append_ne (by decide) hminus

theorem scanExponent_append (hrest : Ends rest) (h : scanExponent cs = some (literal, left)) :
    scanExponent (cs ++ rest) = some (literal, left ++ rest) := by
  rw [scanExponent.eq_def] at h
  split at h
  · exact map_append _ (scanSigned_append hrest) h
  · exact map_append _ (scanSigned_append hrest) h
  · next hlower hupper =>
    cases h
    rw [scanExponent]
    · exact hrest.append_ne (by decide) hlower
    · exact hrest.append_ne (by decide) hupper

theorem scanUnsigned_append (hrest : Ends rest) (h : scanUnsigned cs = some (literal, left)) :
    scanUnsigned (cs ++ rest) = some (literal, left ++ rest) := by
  simp only [scanUnsigned, Option.bind_eq_bind, Option.bind_eq_some_iff, Prod.exists,
    Option.pure_def] at h ⊢
  obtain ⟨whole, cs₁, hwhole, fraction, cs₂, hfraction, exponent, cs₃, hexponent, heq⟩ := h
  cases heq
  exact ⟨whole, _, scanWhole_append hrest hwhole, fraction, _, scanFraction_append hrest hfraction,
    exponent, _, scanExponent_append hrest hexponent, rfl⟩

/-- A number is found in the same way before a text at which it ends. -/
theorem scanNumber_append (hrest : Ends rest) (h : scanNumber cs = some (literal, left)) :
    scanNumber (cs ++ rest) = some (literal, left ++ rest) := by
  rw [scanNumber.eq_def] at h
  split at h
  · exact map_append _ (scanUnsigned_append hrest) h
  · next hminus =>
    rw [scanNumber]
    · exact scanUnsigned_append hrest h
    · exact hrest.append_ne (by decide) hminus

/-- A number begins with a minus sign or a digit. -/
theorem head_of_scanNumber (h : scanNumber cs = some (literal, left)) :
    ∃ c cs', cs = c :: cs' ∧ (c = '-' ∨ c.isDigit = true) := by
  rw [scanNumber.eq_def] at h
  split at h
  · exact ⟨_, _, rfl, .inl rfl⟩
  · simp only [scanUnsigned, Option.bind_eq_bind, Option.bind_eq_some_iff, Prod.exists] at h
    obtain ⟨whole, cs₁, hwhole, -⟩ := h
    -- without a sign, the number begins with a zero or with the first of its digits
    rw [scanWhole.eq_def] at hwhole
    split at hwhole
    · exact ⟨_, _, rfl, .inr (by decide)⟩
    · cases cs with
      | nil => cases hwhole
      | cons c cs =>
        refine ⟨c, cs, rfl, .inr ?_⟩
        cases hc : c.isDigit with
        | true => rfl
        | false => simp [scanDigits, hc] at hwhole

end Numbers

/-- A string is found in the same way whatever follows its closing quote. -/
theorem scanString_append {cs literal left : List Char} (rest : List Char)
    (h : scanString cs = some (literal, left)) :
    scanString (cs ++ rest) = some (literal, left ++ rest) := by
  -- the cases that find a string: the closing quote, the two kinds of escape, a plain character
  fun_induction scanString cs generalizing literal left with
  | case2 cs =>
    cases h
    rw [List.cons_append, scanString.eq_def]
    rfl
  | case3 h₁ h₂ h₃ h₄ cs hdigits hquote ih =>
    simp only [List.cons_append]
    rw [scanString.eq_def]
    simp only [if_neg hquote, if_pos hdigits, if_true]
    exact map_append (fun literal => '\\' :: 'u' :: h₁ :: h₂ :: h₃ :: h₄ :: literal) ih h
  | case5 e cs hhex hshort hquote ih =>
    have hu : e ≠ 'u' := by
      rintro rfl
      exact absurd hshort (by decide)
    simp only [List.cons_append]
    rw [scanString.eq_def]
    simp only [if_neg hquote, if_true]
    split
    · next heq => exact absurd (List.cons.inj heq).1 hu
    · next heq =>
      cases heq
      rw [if_pos hshort]
      exact map_append (fun literal => '\\' :: e :: literal) ih h
    · next heq => cases heq
  | case9 c cs hquote hback hcontrol ih =>
    rw [List.cons_append, scanString_cons hquote hback hcontrol]
    exact map_append _ ih h
  | _ => cases h

/-! ### Values that can stand in a text -/

/-- Whether the literals of a value can stand in a text. -/
inductive Written : Json → Prop where
  | null : Written .null
  | bool (value : Bool) : Written (.bool value)
  | number {literal} (h : scanNumber literal = some (literal, [])) : Written (.number literal)
  | string {literal} (h : scanString (literal ++ ['"']) = some (literal, [])) :
    Written (.string literal)
  | array {items} (h : ∀ v ∈ items, Written v) : Written (.array items)
  | object {members} (hkeys : ∀ m ∈ members, scanString (m.1 ++ ['"']) = some (m.1, []))
    (hvalues : ∀ m ∈ members, Written m.2) : Written (.object members)

theorem scanString_quoted {literal : List Char} (h : scanString (literal ++ ['"']) = some (literal, []))
    (rest : List Char) : scanString (literal ++ '"' :: rest) = some (literal, rest) := by
  have hlong := scanString_append rest h
  rwa [List.append_assoc, List.nil_append] at hlong

theorem digit_ne {c : Char} (hc : c = '-' ∨ c.isDigit = true) :
    isBlank c = false ∧ c ≠ '"' ∧ c ≠ '[' ∧ c ≠ '{' ∧ c ≠ 'n' ∧ c ≠ 't' ∧ c ≠ 'f' ∧ c ≠ ']' := by
  obtain rfl | hc := hc
  · decide
  have hne : ∀ d : Char, d.isDigit = false → c ≠ d := by
    rintro d hd rfl
    rw [hc] at hd
    cases hd
  -- no blank is a digit either
  have hblank : isBlank c = false := by
    simp [isBlank, hne ' ' (by decide), hne '\t' (by decide), hne '\n' (by decide),
      hne '\r' (by decide)]
  exact ⟨hblank, hne _ (by decide), hne _ (by decide), hne _ (by decide), hne _ (by decide),
    hne _ (by decide), hne _ (by decide), hne _ (by decide)⟩

/-- The text of a value begins with a character that is no blank and closes nothing. -/
theorem Written.head {v : Json} (h : v.Written) :
    ∃ c cs, v.chars = c :: cs ∧ isBlank c = false ∧ c ≠ ']' := by
  cases h with
  | null => exact ⟨_, _, by rw [chars], by decide, by decide⟩
  | bool value => cases value <;> exact ⟨_, _, by rw [chars], by decide, by decide⟩
  | number h =>
    obtain ⟨c, cs, rfl, hc⟩ := head_of_scanNumber h
    obtain ⟨hblank, -, -, -, -, -, -, hclose⟩ := digit_ne hc
    exact ⟨c, cs, by rw [chars], hblank, hclose⟩
  | string h => exact ⟨'"', _, by rw [chars, quoted, List.cons_append], by decide, by decide⟩
  | array h => exact ⟨'[', _, by rw [chars, List.cons_append], by decide, by decide⟩
  | object hkeys hvalues => exact ⟨'{', _, by rw [chars, List.cons_append], by decide, by decide⟩

/-- The text of a member. -/
def memberText (m : List Char × Json) : List Char := quoted m.1 ++ ':' :: m.2.chars

theorem itemChars_eq (items : List Json) : itemChars items = items.map chars := by
  induction items with
  | nil => rw [itemChars, List.map_nil]
  | cons v items ih => rw [itemChars, ih, List.map_cons]

theorem memberChars_eq (members : List (List Char × Json)) :
    memberChars members = members.map memberText := by
  induction members with
  | nil => rw [memberChars, List.map_nil]
  | cons m members ih => rw [memberChars, ih, List.map_cons, memberText]

theorem skipBlanks_cons {c : Char} (hc : isBlank c = false) (cs : List Char) :
    skipBlanks (c :: cs) = c :: cs := by
  rw [skipBlanks, List.dropWhile_cons, hc]
  rfl

/-! ### Items with commas between them -/

section Sequences

variable {α : Type} {item? : List Char → Option (α × List Char)} {write : α → List Char}
  {closing : Char} {xs : List α}

theorem intercalate_cons_cons (sep x y : List Char) (xs : List (List Char)) :
    sep.intercalate (x :: y :: xs) = x ++ (sep ++ sep.intercalate (y :: xs)) := by
  simp [List.intercalate]

theorem length_le_intercalate (sep : List Char) {x : List Char} {xs : List (List Char)}
    (hx : x ∈ xs) :
    x.length ≤ (sep.intercalate xs).length := by
  induction xs with
  | nil => cases hx
  | cons y xs ih =>
    cases xs with
    | nil => simp [List.mem_singleton.mp hx]
    | cons z xs =>
      rw [intercalate_cons_cons, List.length_append, List.length_append]
      rcases List.mem_cons.mp hx with rfl | hx
      · omega
      · have := ih hx
        omega

/-- There are no more items than characters. -/
theorem length_le_length_intercalate (sep : List Char) {xs : List (List Char)}
    (hne : ∀ x ∈ xs, x ≠ []) : xs.length ≤ (sep.intercalate xs).length := by
  induction xs with
  | nil => simp
  | cons x xs ih =>
    have hx : 0 < x.length := List.length_pos_iff.mpr (hne x List.mem_cons_self)
    have hxs := ih fun y hy => hne y (List.mem_cons_of_mem _ hy)
    cases xs with
    | nil => simpa using Nat.succ_le_of_lt hx
    | cons y xs =>
      rw [intercalate_cons_cons]
      simp only [List.length_append, List.length_cons] at hxs ⊢
      omega

theorem sequence?_intercalate (hclosing : closing = ']' ∨ closing = '}') (hne : xs ≠ [])
    (hitem : ∀ x ∈ xs, ∀ rest, Ends rest → item? (write x ++ rest) = some (x, rest)) {fuel : Nat}
    (hfuel : xs.length ≤ fuel) (rest : List Char) :
    sequence? item? closing fuel ([','].intercalate (xs.map write) ++ closing :: rest) =
      some (xs, rest) := by
  induction xs generalizing fuel with
  | nil => exact absurd rfl hne
  | cons x xs ih =>
    obtain ⟨fuel, rfl⟩ : ∃ fuel', fuel = fuel' + 1 := Nat.exists_eq_succ_of_ne_zero (by
      rintro rfl
      simp at hfuel)
    have hblank : isBlank closing = false := by obtain rfl | rfl := hclosing <;> decide
    have hcomma : ',' ≠ closing := by obtain rfl | rfl := hclosing <;> decide
    have hx := hitem x List.mem_cons_self
    -- the last item stands before the closing bracket, each other one before a comma
    cases xs with
    | nil =>
      have hends : Ends (closing :: rest) := ends_cons (.inr hclosing) rest
      rw [List.map_cons, List.map_nil, List.intercalate_singleton, sequence?, hx _ hends]
      simp [skipBlanks_cons hblank]
    | cons y ys =>
      have hrest := ih (by simp) (fun z hz => hitem z (List.mem_cons_of_mem _ hz))
        (Nat.le_of_succ_le_succ hfuel)
      have hends : ∀ cs, Ends (',' :: cs) := ends_cons (.inl rfl)
      rw [List.map_cons, List.map_cons, intercalate_cons_cons, List.append_assoc, List.append_assoc,
        List.singleton_append, sequence?, hx _ (hends _)]
      simp only [Option.bind_eq_bind, Option.bind_some, skipBlanks_cons (c := ',') (by decide),
        if_neg hcomma, if_true]
      rw [← List.map_cons, hrest]
      rfl

theorem bracketed?_intercalate (hclosing : closing = ']' ∨ closing = '}')
    (hitem : ∀ x ∈ xs, ∀ rest, Ends rest → item? (write x ++ rest) = some (x, rest))
    (hhead : ∀ x ∈ xs, ∃ c cs, write x = c :: cs ∧ isBlank c = false ∧ c ≠ closing)
    (rest : List Char) :
    bracketed? item? closing ([','].intercalate (xs.map write) ++ closing :: rest) =
      some (xs, rest) := by
  cases xs with
  | nil =>
    have hblank : isBlank closing = false := by obtain rfl | rfl := hclosing <;> decide
    simp [bracketed?, skipBlanks_cons hblank]
  | cons x xs =>
    obtain ⟨c, cs, hx, hblank, hc⟩ := hhead x List.mem_cons_self
    -- the text begins with that of the first item, so it is not taken for an empty list
    have hwhole : ∃ cs', [','].intercalate ((x :: xs).map write) ++ closing :: rest = c :: cs' := by
      cases xs with
      | nil => exact ⟨cs ++ closing :: rest, by simp [hx]⟩
      | cons y ys => exact ⟨_, by rw [List.map_cons, List.map_cons, intercalate_cons_cons, hx]; rfl⟩
    obtain ⟨cs', hwhole⟩ := hwhole
    have hnonempty : ∀ y ∈ (x :: xs).map write, y ≠ [] := by
      intro y hy
      obtain ⟨z, hz, rfl⟩ := List.mem_map.mp hy
      obtain ⟨d, ds, hd, -⟩ := hhead z hz
      rw [hd]
      exact List.cons_ne_nil d ds
    -- each item is at least one letter long, so there is fuel enough for all of them
    have hlength : (x :: xs).length ≤ (c :: cs').length := by
      have hitems := length_le_length_intercalate [','] hnonempty
      rw [← hwhole, List.length_append]
      rw [List.length_map] at hitems
      exact Nat.le_trans hitems (Nat.le_add_right _ _)
    rw [bracketed?, hwhole, skipBlanks_cons hblank]
    simp only [if_neg hc]
    rw [← hwhole]
    exact sequence?_intercalate hclosing (List.cons_ne_nil x xs) hitem (hwhole ▸ hlength) rest

end Sequences

/-! ### Values -/

theorem member?_memberText {value? : List Char → Option (Json × List Char)} {m : List Char × Json}
    (hkey : scanString (m.1 ++ ['"']) = some (m.1, [])) {rest : List Char}
    (hvalue : value? (m.2.chars ++ rest) = some (m.2, rest)) :
    member? value? (memberText m ++ rest) = some (m, rest) := by
  have htext : memberText m ++ rest = '"' :: (m.1 ++ '"' :: ':' :: (m.2.chars ++ rest)) := by
    simp [memberText, quoted]
  rw [htext, member?, skipBlanks_cons (by decide)]
  simp only [scanString_quoted hkey, Option.bind_eq_bind, Option.bind_some,
    skipBlanks_cons (c := ':') (by decide), hvalue]

/-- A value is read back from the front of any text that begins with its own. -/
theorem value?_chars {fuel : Nat} {v : Json} (h : v.Written) (hfuel : v.chars.length ≤ fuel)
    {rest : List Char} (hrest : Ends rest) : value? fuel (v.chars ++ rest) = some (v, rest) := by
  induction fuel generalizing v rest with
  | zero =>
    obtain ⟨c, cs, hv, -⟩ := h.head
    simp [hv] at hfuel
  | succ fuel ih =>
    cases h with
    | null => simp [chars, value?, scanWord, skipBlanks_cons (c := 'n') (by decide)]
    | bool value =>
      cases value with
      | true => simp [chars, value?, scanWord, skipBlanks_cons (c := 't') (by decide)]
      | false => simp [chars, value?, scanWord, skipBlanks_cons (c := 'f') (by decide)]
    | @number literal hscan =>
      obtain ⟨c, cs, rfl, hc⟩ := head_of_scanNumber hscan
      obtain ⟨hblank, hquote, hsquare, hcurly, hn, ht, hf, -⟩ := digit_ne hc
      have hlong := scanNumber_append hrest hscan
      rw [List.cons_append] at hlong
      rw [chars, List.cons_append, value?, skipBlanks_cons hblank]
      simp only [if_neg hquote, if_neg hsquare, if_neg hcurly, if_neg hn, if_neg ht, if_neg hf, hlong]
      rfl
    | @string literal hscan =>
      have htext : quoted literal ++ rest = '"' :: (literal ++ '"' :: rest) := by simp [quoted]
      rw [chars, htext, value?, skipBlanks_cons (by decide)]
      simp only [if_true, scanString_quoted hscan]
      rfl
    | @array items hitems =>
      have htext : (array items).chars ++ rest =
          '[' :: ([','].intercalate (items.map chars) ++ ']' :: rest) := by
        simp [chars, itemChars_eq]
      have hitem : ∀ v ∈ items, ∀ rest, Ends rest → value? fuel (v.chars ++ rest) = some (v, rest) := by
        intro v hv rest hrest
        refine ih (hitems v hv) ?_ hrest
        -- the item is shorter than the whole, by the brackets at least
        have hshort := length_le_intercalate [','] (List.mem_map_of_mem (f := chars) hv)
        simp only [chars, itemChars_eq, List.length_append, List.length_cons] at hfuel
        omega
      have hread := bracketed?_intercalate (.inl rfl) hitem (fun v hv => (hitems v hv).head) rest
      rw [htext, value?, skipBlanks_cons (by decide)]
      simp [hread]
    | @object members hkeys hvalues =>
      have htext : (object members).chars ++ rest =
          '{' :: ([','].intercalate (members.map memberText) ++ '}' :: rest) := by
        simp [chars, memberChars_eq]
      have hmember : ∀ m ∈ members, ∀ rest, Ends rest →
          member? (value? fuel) (memberText m ++ rest) = some (m, rest) := by
        intro m hm rest hrest
        refine member?_memberText (hkeys m hm) (ih (hvalues m hm) ?_ hrest)
        have hshort := length_le_intercalate [','] (List.mem_map_of_mem (f := memberText) hm)
        have hinner : m.2.chars.length ≤ (memberText m).length := by
          simp only [memberText, List.length_append, List.length_cons]
          omega
        simp only [chars, memberChars_eq, List.length_append, List.length_cons] at hfuel
        omega
      have hhead : ∀ m ∈ members, ∃ c cs, memberText m = c :: cs ∧ isBlank c = false ∧ c ≠ '}' :=
        fun m _ => ⟨'"', _, by rw [memberText, quoted, List.cons_append, List.cons_append], by decide,
          by decide⟩
      have hread := bracketed?_intercalate (.inr rfl) hmember hhead rest
      rw [htext, value?, skipBlanks_cons (by decide)]
      simp [hread]

theorem readPrefix?_chars {v : Json} (h : v.Written) : readPrefix? v.chars = some (v, []) := by
  have hread := value?_chars h (Nat.le_succ _) ends_nil
  rwa [List.append_nil] at hread

/-! ### Values for texts, numbers and records -/

theorem written_ofString (s : String) : (ofString s).Written :=
  .string (scanString_escape s.toList [])

/-- No number but zero is written with a zero in front. -/
theorem ofNat_ne_zero_cons {n : Nat} (hn : n ≠ 0) (cs : List Char) : Decimal.ofNat n ≠ '0' :: cs := by
  induction n using Nat.strongRecOn generalizing cs with
  | ind n ih =>
    rw [Decimal.ofNat, Nat.toDigits_eq_if (by decide)]
    split
    · next hlt =>
      have hdigit : ∀ d < 10, d ≠ 0 → Nat.digitChar d ≠ '0' := by decide
      intro heq
      exact hdigit n hlt hn (List.cons.inj heq).1
    · next hge =>
      -- the first digit is that of the tenth part
      intro heq
      have hfirst := ih (n / 10) (by omega) (by omega)
      rw [Decimal.ofNat] at hfirst
      cases hdigits : Nat.toDigits 10 (n / 10) with
      | nil => exact Decimal.ofNat_ne_nil _ hdigits
      | cons d ds =>
        rw [hdigits] at heq hfirst
        exact hfirst ds (by rw [(List.cons.inj heq).1])

theorem scanDigits_ofNat (n : Nat) : scanDigits (Decimal.ofNat n) = some (Decimal.ofNat n, []) := by
  have hall : ∀ c ∈ Decimal.ofNat n, c.isDigit = true := fun _ => Decimal.isDigit_of_mem_ofNat
  rw [scanDigits, List.takeWhile_eq_self_iff.mpr hall, List.dropWhile_eq_nil_iff.mpr hall]
  exact if_neg (by simp [Decimal.ofNat_ne_nil])

theorem scanUnsigned_ofNat (n : Nat) :
    scanUnsigned (Decimal.ofNat n) = some (Decimal.ofNat n, []) := by
  have hwhole : scanWhole (Decimal.ofNat n) = some (Decimal.ofNat n, []) := by
    rcases Nat.eq_zero_or_pos n with rfl | hn
    · decide
    · rw [scanWhole]
      · exact scanDigits_ofNat n
      · exact ofNat_ne_zero_cons (Nat.pos_iff_ne_zero.mp hn)
  simp [scanUnsigned, hwhole, scanFraction, scanExponent]

theorem written_ofNat (n : Nat) : (ofNat n).Written := by
  refine .number ?_
  rw [scanNumber]
  · exact scanUnsigned_ofNat n
  · intro cs heq
    have hminus : '-' ∈ Decimal.ofNat n := by simp [heq]
    exact absurd (Decimal.isDigit_of_mem_ofNat hminus) (by decide)

theorem written_ofInt (i : Int) : (ofInt i).Written := by
  cases i with
  | ofNat n => exact written_ofNat n
  | negSucc n =>
    refine .number ?_
    rw [Decimal.ofInt, scanNumber, scanUnsigned_ofNat]
    rfl

theorem written_ofFields {fields : List (String × Json)} (h : ∀ m ∈ fields, m.2.Written) :
    (ofFields fields).Written := by
  refine .object (fun m hm => ?_) (fun m hm => ?_)
  · obtain ⟨field, -, rfl⟩ := List.mem_map.mp hm
    exact scanString_escape field.1.toList []
  · obtain ⟨field, hfield, rfl⟩ := List.mem_map.mp hm
    exact h field hfield

end BranchPool.Json
