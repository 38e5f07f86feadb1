/-
Finite maps from branch identifiers.

* `BranchMap.get?` — the view by which the operations are described: `insert`
  sets one branch, `update` replaces what is held for a branch that is there,
  `erase` drops one, and none of them touches another branch;
* `BranchMap.sortedKeys` — the branches of a map in ascending order.

Design note: the entries stand in no particular order, as long as no branch
stands there twice; nothing outside this module may rely on their order.  A
consumer that needs one asks for `sortedKeys`.
-/
import BranchPool.Xid

namespace BranchPool

/-- Values held for finitely many branches, at most one for each. -/
structure BranchMap (α : Type) where
  entries : List (Xid × α)
  nodup_keys : (entries.map Prod.fst).Nodup

namespace BranchMap

variable {α β : Type}

/-- The map that holds nothing. -/
def empty : BranchMap α := ⟨[], List.nodup_nil⟩

instance : EmptyCollection (BranchMap α) := ⟨empty⟩

instance : Inhabited (BranchMap α) := ⟨∅⟩

/-- The value held for a branch. -/
def get? (m : BranchMap α) (x : Xid) : Option α :=
  m.entries.lookup x

/-- Whether a value is held for a branch. -/
def contains (m : BranchMap α) (x : Xid) : Bool :=
  (m.get? x).isSome

/-- The number of branches with a value. -/
def size (m : BranchMap α) : Nat := m.entries.length

/-- The branches with a value, in no particular order. -/
def keys (m : BranchMap α) : List Xid := m.entries.map Prod.fst

/-- The values held, in the order of `keys`. -/
def values (m : BranchMap α) : List α := m.entries.map Prod.snd

/-- The branches with a value, in ascending order. -/
def sortedKeys (m : BranchMap α) : List Xid := Xid.sort m.keys

/-- Drops what is held for a branch. -/
def erase (m : BranchMap α) (x : Xid) : BranchMap α where
  entries := m.entries.filter fun e => e.1 ≠ x
  nodup_keys := m.nodup_keys.sublist (List.filter_sublist.map _)

/-- Holds a value for a branch, in place of any other. -/
def insert (m : BranchMap α) (x : Xid) (a : α) : BranchMap α where
  entries := (x, a) :: (m.erase x).entries
  nodup_keys := by
    refine List.nodup_cons.mpr ⟨fun h => ?_, (m.erase x).nodup_keys⟩
    obtain ⟨e, he, hx⟩ := List.mem_map.mp h
    simp [erase] at he
    exact he.2 hx

/-- Replaces what is held for a branch; a branch that is not there stays away. -/
def update (m : BranchMap α) (x : Xid) (a : α) : BranchMap α where
  entries := m.entries.map fun e => if e.1 = x then (x, a) else e
  nodup_keys := by
    have hkeys : (m.entries.map fun e => if e.1 = x then (x, a) else e).map Prod.fst =
        m.entries.map Prod.fst := by
      rw [List.map_map]
      refine List.map_congr_left fun e _ => ?_
      by_cases h : e.1 = x <;> simp [h]
    rw [hkeys]
    exact m.nodup_keys

/-- The branches whose value passes a test, in ascending order. -/
def sortedKeysWhere (m : BranchMap α) (test : α → Bool) : List Xid :=
  Xid.sort ((m.entries.filter fun e => test e.2).map Prod.fst)

/-! ### What the operations do to the view -/

theorem lookup_cons_ite (x y : Xid) (a : α) (es : List (Xid × α)) :
    ((x, a) :: es).lookup y = if y = x then some a else es.lookup y := by
  by_cases h : y = x
  · simp [h]
  · rw [List.lookup_cons, beq_false_of_ne h, if_neg h]

@[simp] theorem get?_empty (x : Xid) : (∅ : BranchMap α).get? x = none := rfl

theorem get?_erase (m : BranchMap α) (x y : Xid) :
    (m.erase x).get? y = if y = x then none else m.get? y := by
  simp only [get?, erase]
  induction m.entries with
  | nil => simp
  | cons e es ih =>
    obtain ⟨k, a⟩ := e
    -- what is erased may still be met as the key looked up, so both comparisons count
    by_cases hk : k = x
    · rw [List.filter_cons_of_neg (by simp [hk]), ih, lookup_cons_ite]
      by_cases hy : y = x <;> simp [hy, hk]
    · rw [List.filter_cons_of_pos (by simp [hk]), lookup_cons_ite, lookup_cons_ite, ih]
      by_cases hy : y = x
      · simp [hy, Ne.symm hk]
      · simp [hy]

@[simp] theorem get?_erase_self (m : BranchMap α) (x : Xid) : (m.erase x).get? x = none := by
  simp [get?_erase]

theorem get?_insert (m : BranchMap α) (x y : Xid) (a : α) :
    (m.insert x a).get? y = if y = x then some a else m.get? y := by
  have h := get?_erase m x y
  simp only [get?] at h
  simp only [get?, insert, lookup_cons_ite, h]
  by_cases hy : y = x <;> simp [hy]

@[simp] theorem get?_insert_self (m : BranchMap α) (x : Xid) (a : α) :
    (m.insert x a).get? x = some a := by
  simp [get?_insert]

theorem get?_update (m : BranchMap α) (x y : Xid) (a : α) :
    (m.update x a).get? y = if y = x then (m.get? x).map fun _ => a else m.get? y := by
  simp only [get?, update]
  induction m.entries with
  | nil => simp
  | cons e es ih =>
    obtain ⟨k, b⟩ := e
    rw [List.map_cons, lookup_cons_ite]
    -- the entry changes only under its own key, and the key itself stays
    by_cases hk : k = x
    · rw [if_pos hk, lookup_cons_ite, lookup_cons_ite, ih]
      by_cases hy : y = x <;> simp [hy, hk]
    · rw [if_neg hk, lookup_cons_ite, lookup_cons_ite, ih]
      by_cases hy : y = x
      · simp [hy, Ne.symm hk]
      · simp [hy]

@[simp] theorem keys_update (m : BranchMap α) (x : Xid) (a : α) :
    (m.update x a).keys = m.keys := by
  simp only [keys, update, List.map_map]
  refine List.map_congr_left fun e _ => ?_
  by_cases h : e.1 = x <;> simp [h]

end BranchMap

end BranchPool
