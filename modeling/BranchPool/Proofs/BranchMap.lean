/-
Branch maps as a whole: which entries they hold, and their values under a map.

* `BranchMap.mem_entries_iff` — the entries of a map are what `get?` finds;
* `BranchMap.entries_perm` — the entries of a map are the entry of one branch
  and those of the others, in some order;
* `BranchMap.size_erase` and its neighbours — what the operations do to the
  number of branches;
* `BranchMap.arrange` — the same map with its entries in another order;
* `BranchMap.map` — a function applied to every value, which goes with all the
  operations.
-/
import BranchPool.BranchMap
import BranchPool.Proofs.Lookup

namespace BranchPool.BranchMap

variable {α β : Type}

@[ext] theorem ext_entries {m n : BranchMap α} (h : m.entries = n.entries) : m = n := by
  obtain ⟨_, _⟩ := m
  obtain ⟨_, _⟩ := n
  cases h
  rfl

/-! ### Entries and look-ups -/

theorem mem_entries_iff (m : BranchMap α) {x : Xid} {a : α} :
    (x, a) ∈ m.entries ↔ m.get? x = some a :=
  (lookup_eq_some_iff_mem m.nodup_keys).symm

theorem mem_keys_iff (m : BranchMap α) {x : Xid} : x ∈ m.keys ↔ ∃ a, m.get? x = some a := by
  simp only [keys, List.mem_map, Prod.exists, exists_and_right, exists_eq_right, mem_entries_iff]

theorem mem_values_iff (m : BranchMap α) {a : α} : a ∈ m.values ↔ ∃ x, m.get? x = some a := by
  simp only [values, List.mem_map, Prod.exists, exists_eq_right, mem_entries_iff]

theorem length_values (m : BranchMap α) : m.values.length = m.size := by
  rw [values, List.length_map, size]

theorem contains_eq_false_iff (m : BranchMap α) {x : Xid} :
    m.contains x = false ↔ m.get? x = none := by
  rw [contains, Option.isSome_eq_false_iff, Option.isNone_iff_eq_none]

theorem nodup_entries (m : BranchMap α) : m.entries.Nodup :=
  List.Nodup.of_map _ m.nodup_keys

theorem get?_congr {m n : BranchMap α} (h : m.entries.Perm n.entries) (x : Xid) :
    m.get? x = n.get? x := by
  refine Option.ext fun a => ?_
  rw [← mem_entries_iff, ← mem_entries_iff, h.mem_iff]

/-! ### One entry and the others -/

theorem erase_of_get?_eq_none {m : BranchMap α} {x : Xid} (h : m.get? x = none) :
    m.erase x = m := by
  refine ext_entries (List.filter_eq_self.mpr fun e he => ?_)
  have hne : e.1 ≠ x := by
    rintro rfl
    rw [m.mem_entries_iff.mp he] at h
    cases h
  simpa using hne

theorem entries_perm {m : BranchMap α} {x : Xid} {a : α} (h : m.get? x = some a) :
    m.entries.Perm ((x, a) :: (m.erase x).entries) := by
  have hx : (x, a) ∉ (m.erase x).entries := by
    rw [mem_entries_iff, get?_erase_self]
    simp
  have hnodup : ((x, a) :: (m.erase x).entries).Nodup :=
    List.nodup_cons.mpr ⟨hx, (m.erase x).nodup_entries⟩
  -- both lists hold their entries once each, so it is enough to compare members
  refine (List.perm_ext_iff_of_nodup m.nodup_entries hnodup).mpr fun ⟨y, b⟩ => ?_
  rw [List.mem_cons, mem_entries_iff, mem_entries_iff, get?_erase]
  by_cases hy : y = x
  · subst hy
    simp [h, eq_comm]
  · simp [hy]

theorem erase_comm (m : BranchMap α) (x y : Xid) : (m.erase x).erase y = (m.erase y).erase x := by
  simp only [erase, List.filter_filter, Bool.and_comm]

theorem erase_update (m : BranchMap α) (x : Xid) (a : α) : (m.update x a).erase x = m.erase x := by
  refine ext_entries ?_
  simp only [erase, update]
  induction m.entries with
  | nil => rfl
  | cons e es ih =>
    rw [List.map_cons]
    by_cases he : e.1 = x
    · rw [if_pos he, List.filter_cons_of_neg (by simp), List.filter_cons_of_neg (by simp [he]), ih]
    · rw [if_neg he, List.filter_cons_of_pos (by simp [he]), List.filter_cons_of_pos (by simp [he]),
        ih]

theorem erase_insert {m : BranchMap α} {x : Xid} (h : m.get? x = none) (a : α) :
    (m.insert x a).erase x = m := by
  refine ext_entries ?_
  have hself := congrArg entries (erase_of_get?_eq_none h)
  simp only [erase, insert] at hself ⊢
  rw [List.filter_cons_of_neg (by simp), hself, hself]

/-! ### How many branches have a value -/

theorem size_erase {m : BranchMap α} {x : Xid} {a : α} (h : m.get? x = some a) :
    (m.erase x).size + 1 = m.size :=
  (entries_perm h).length_eq.symm

theorem size_insert {m : BranchMap α} {x : Xid} (h : m.get? x = none) (a : α) :
    (m.insert x a).size = m.size + 1 := by
  simp only [size, insert, erase_of_get?_eq_none h, List.length_cons]

@[simp] theorem size_update (m : BranchMap α) (x : Xid) (a : α) : (m.update x a).size = m.size := by
  simp only [size, update, List.length_map]

/-! ### Another order of the entries -/

theorem fst_filterMap_get? (m : BranchMap α) (xs : List Xid) :
    (xs.filterMap fun x => (m.get? x).map (x, ·)).map Prod.fst = xs.filter m.contains := by
  induction xs with
  | nil => rfl
  | cons x xs ih =>
    cases hx : m.get? x <;> simp [hx, contains, ih]

/-- The map with its entries in the order of the given branches, if those are
its branches; else the map as it is. -/
def arrange (m : BranchMap α) (order : List Xid) : BranchMap α :=
  if h : order.Perm m.keys then
    { entries := order.filterMap fun x => (m.get? x).map (x, ·)
      nodup_keys := by
        rw [fst_filterMap_get?]
        exact (h.nodup_iff.mpr m.nodup_keys).filter _ }
  else m

theorem entries_arrange (m : BranchMap α) (order : List Xid) :
    (m.arrange order).entries =
      if order.Perm m.keys then order.filterMap fun x => (m.get? x).map (x, ·) else m.entries := by
  rw [arrange]
  split <;> rfl

theorem entries_arrange_perm (m : BranchMap α) (order : List Xid) :
    (m.arrange order).entries.Perm m.entries := by
  rw [entries_arrange]
  split
  · rename_i h
    have hkeys : ((order.filterMap fun x => (m.get? x).map (x, ·)).map Prod.fst).Nodup := by
      rw [fst_filterMap_get?]
      exact (h.nodup_iff.mpr m.nodup_keys).filter _
    -- the order names each key once, so nothing is listed twice
    refine (List.perm_ext_iff_of_nodup (hkeys.of_map _) m.nodup_entries).mpr fun ⟨x, a⟩ => ?_
    simp only [List.mem_filterMap, Option.map_eq_some_iff, Prod.mk.injEq, mem_entries_iff]
    constructor
    · rintro ⟨y, -, b, hb, rfl, rfl⟩
      exact hb
    · intro hx
      exact ⟨x, h.mem_iff.mpr (m.mem_keys_iff.mpr ⟨a, hx⟩), a, hx, rfl, rfl⟩
  · -- an order that does not list the keys is ignored
    exact List.Perm.refl _

@[simp] theorem size_arrange (m : BranchMap α) (order : List Xid) :
    (m.arrange order).size = m.size :=
  (m.entries_arrange_perm order).length_eq

@[simp] theorem get?_arrange (m : BranchMap α) (order : List Xid) (x : Xid) :
    (m.arrange order).get? x = m.get? x :=
  get?_congr (m.entries_arrange_perm order) x

/-! ### A function on every value -/

/-- The map with a function applied to every value. -/
def map (f : α → β) (m : BranchMap α) : BranchMap β where
  entries := m.entries.map fun e => (e.1, f e.2)
  nodup_keys := by
    rw [List.map_map]
    exact m.nodup_keys

variable (f : α → β)

@[simp] theorem map_empty : (∅ : BranchMap α).map f = ∅ := rfl

@[simp] theorem get?_map (m : BranchMap α) (x : Xid) : (m.map f).get? x = (m.get? x).map f := by
  simp only [get?, map]
  induction m.entries with
  | nil => rfl
  | cons e es ih =>
    rw [List.map_cons, lookup_cons_ite, lookup_cons_ite, ih]
    split <;> rfl

@[simp] theorem contains_map (m : BranchMap α) (x : Xid) :
    (m.map f).contains x = m.contains x := by
  rw [contains, contains, get?_map, Option.isSome_map]

@[simp] theorem keys_map (m : BranchMap α) : (m.map f).keys = m.keys := by
  simp [keys, map]

@[simp] theorem values_map (m : BranchMap α) : (m.map f).values = m.values.map f := by
  simp [values, map]

@[simp] theorem map_erase (m : BranchMap α) (x : Xid) : (m.erase x).map f = (m.map f).erase x := by
  refine ext_entries ?_
  simp only [map, erase, List.filter_map]
  rfl

@[simp] theorem map_insert (m : BranchMap α) (x : Xid) (a : α) :
    (m.insert x a).map f = (m.map f).insert x (f a) := by
  refine ext_entries ?_
  have herase := congrArg entries (map_erase f m x)
  simp only [map, insert, List.map_cons] at herase ⊢
  rw [herase]

@[simp] theorem map_update (m : BranchMap α) (x : Xid) (a : α) :
    (m.update x a).map f = (m.map f).update x (f a) := by
  refine ext_entries ?_
  simp only [map, update, List.map_map]
  refine List.map_congr_left fun e _ => ?_
  by_cases he : e.1 = x <;> simp [he]

@[simp] theorem map_arrange (m : BranchMap α) (order : List Xid) :
    (m.arrange order).map f = (m.map f).arrange order := by
  refine ext_entries ?_
  rw [entries_arrange, keys_map]
  show (m.arrange order).entries.map (fun e => (e.1, f e.2)) = _
  rw [entries_arrange]
  by_cases h : order.Perm m.keys
  · rw [if_pos h, if_pos h, List.map_filterMap]
    refine List.filterMap_congr fun x _ => ?_
    rw [get?_map]
    cases m.get? x <;> rfl
  · rw [if_neg h, if_neg h]
    rfl

end BranchPool.BranchMap
