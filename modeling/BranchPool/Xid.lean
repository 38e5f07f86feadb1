/-
Transaction branch identifiers.

An `Xid` names one branch of a distributed transaction: a format id, a global
transaction id shared by all branches of the transaction, and a qualifier that
tells the branches apart.  Neither of the two byte strings is longer than
`Xid.maxPartSize`, and the type holds that fact.

* `Xid.ofParts` — the identifier with the given parts, or which part is too
  long; the global id is looked at first;
* `<` on `Xid` — by format id as a signed number, then by global id, then by
  qualifier, bytes unsigned, the shorter first where one begins the other;
* `Xid.sort` — a list of identifiers in that order;
* `Xid.text` — `format:global:qualifier`, the format id in decimal and the
  byte strings in lower-case hexadecimal;
* `Xid.partsOfText?` — the parts that such a text names; by
  `Xid.text_injective` no two identifiers have the same text.
-/
import BranchPool.Decimal
import BranchPool.Hex

namespace BranchPool

/-- The most bytes a global transaction id or a branch qualifier may have. -/
def Xid.maxPartSize : Nat := 64

/-- The name of one transaction branch. -/
structure Xid where
  formatId : Int32
  globalId : List UInt8
  qualifier : List UInt8
  globalId_le : globalId.length ≤ Xid.maxPartSize
  qualifier_le : qualifier.length ≤ Xid.maxPartSize
  deriving DecidableEq

namespace Xid

/-- Why three parts make no identifier: one of the byte strings, of this many
bytes, is too long. -/
inductive Oversized where
  | globalId (size : Nat)
  | qualifier (size : Nat)
  deriving DecidableEq

/-- The wording of an oversized part. -/
def Oversized.message : Oversized → String
  | .globalId size => s!"global transaction id is {size} bytes, max {maxPartSize}"
  | .qualifier size => s!"branch qualifier is {size} bytes, max {maxPartSize}"

/-- The identifier with the given parts, if neither byte string is too long. -/
def ofParts (formatId : Int32) (globalId qualifier : List UInt8) : Except Oversized Xid :=
  if hg : globalId.length ≤ maxPartSize then
    if hq : qualifier.length ≤ maxPartSize then
      .ok ⟨formatId, globalId, qualifier, hg, hq⟩
    else .error (.qualifier qualifier.length)
  else .error (.globalId globalId.length)

/-! ### Order -/

instance : LT Xid where
  lt a b :=
    a.formatId < b.formatId ∨
      a.formatId = b.formatId ∧
        (a.globalId < b.globalId ∨ a.globalId = b.globalId ∧ a.qualifier < b.qualifier)

instance (a b : Xid) : Decidable (a < b) :=
  inferInstanceAs (Decidable (a.formatId < b.formatId ∨
    a.formatId = b.formatId ∧
      (a.globalId < b.globalId ∨ a.globalId = b.globalId ∧ a.qualifier < b.qualifier)))

instance : Ord Xid where
  compare a b := if a < b then .lt else if a = b then .eq else .gt

/-- The given identifiers in ascending order. -/
def sort (xs : List Xid) : List Xid :=
  xs.mergeSort fun a b => !decide (b < a)

theorem sort_perm (xs : List Xid) : (sort xs).Perm xs :=
  List.mergeSort_perm xs _

/-! ### Text -/

/-- `format:global:qualifier` as characters. -/
def chars (x : Xid) : List Char :=
  Decimal.ofInt x.formatId.toInt ++ ':' ::
    (Hex.ofBytes x.globalId ++ ':' :: Hex.ofBytes x.qualifier)

/-- The text by which messages and reports name a branch. -/
def text (x : Xid) : String :=
  String.ofList x.chars

instance : ToString Xid := ⟨text⟩

/-- What stands before the first colon of a text, and what stands behind it. -/
def cutAtColon : List Char → List Char × List Char
  | [] => ([], [])
  | ':' :: cs => ([], cs)
  | c :: cs => (c :: (cutAtColon cs).1, (cutAtColon cs).2)

/-- The parts named by a text of the form `format:global:qualifier`, of any
length and with hexadecimal digits in either case. -/
def partsOfText? (t : String) : Option (Int32 × List UInt8 × List UInt8) := do
  let (format, rest) := cutAtColon t.toList
  let (globalId, qualifier) := cutAtColon rest
  return (Int32.ofInt (← Decimal.int? format), ← Hex.bytes? globalId, ← Hex.bytes? qualifier)

theorem cutAtColon_append {l r : List Char} (h : ':' ∉ l) :
    cutAtColon (l ++ ':' :: r) = (l, r) := by
  induction l with
  | nil => rfl
  | cons c l ih =>
    obtain ⟨hc, hl⟩ := not_or.mp (mt List.mem_cons.mpr h)
    rw [List.cons_append, cutAtColon, ih hl]
    exact fun heq => hc heq.symm

/-- Whether a text is `format:global:qualifier` for parts of any length. -/
def Spells (t : String) (formatId : Int32) (globalId qualifier : List UInt8) : Prop :=
  t.toList = Decimal.ofInt formatId.toInt ++ ':' ::
    (Hex.ofBytes globalId ++ ':' :: Hex.ofBytes qualifier)

theorem partsOfText?_of_spells {t : String} {formatId : Int32} {globalId qualifier : List UInt8}
    (h : Spells t formatId globalId qualifier) :
    partsOfText? t = some (formatId, globalId, qualifier) := by
  have hformat := cutAtColon_append (r := Hex.ofBytes globalId ++ ':' :: Hex.ofBytes qualifier)
    (Decimal.colon_not_mem_ofInt formatId.toInt)
  have hrest := cutAtColon_append (r := Hex.ofBytes qualifier) (Hex.colon_not_mem_ofBytes globalId)
  rw [partsOfText?, h]
  simp only [hformat, hrest, Decimal.int?_ofInt, Hex.bytes?_ofBytes]
  simp

theorem spells_text (x : Xid) : Spells x.text x.formatId x.globalId x.qualifier :=
  String.toList_ofList

theorem partsOfText?_text (x : Xid) :
    partsOfText? x.text = some (x.formatId, x.globalId, x.qualifier) :=
  partsOfText?_of_spells x.spells_text

theorem text_injective {x y : Xid} (h : x.text = y.text) : x = y := by
  have hparts := partsOfText?_text x
  rw [h, partsOfText?_text y, Option.some.injEq, Prod.mk.injEq, Prod.mk.injEq] at hparts
  obtain ⟨hformat, hglobal, hqualifier⟩ := hparts
  obtain ⟨_, _, _, _, _⟩ := x
  obtain ⟨_, _, _, _, _⟩ := y
  cases hformat
  cases hglobal
  cases hqualifier
  rfl

/-- A byte string as a list of decimal numbers in brackets. -/
def byteListText (bs : List UInt8) : String :=
  "[" ++ String.intercalate ", " (bs.map fun b => toString b.toNat) ++ "]"

/-- The text that shows each part by name, for diagnostics. -/
def fieldText (x : Xid) : String :=
  "Xid \x7b format_id: " ++ toString x.formatId.toInt ++
    ", global_transaction_id: " ++ byteListText x.globalId ++
    ", branch_qualifier: " ++ byteListText x.qualifier ++ " \x7d"

end Xid

end BranchPool
