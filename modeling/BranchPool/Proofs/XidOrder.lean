/-
The order of branch identifiers.

* `Xid.lt_irrefl`, `Xid.lt_trans`, `Xid.lt_trichotomy` — it is a strict total
  order;
* `Xid.pairwise_sort` — `Xid.sort` lists different identifiers in strictly
  ascending order;
* `BranchMap.pairwise_sortedKeysWhere` — and so does a branch map;
* `BranchMap.sortedKeys_congr` — so two maps that hold a value for the same branches
  list them alike.
-/
import BranchPool.Proofs.BranchMap
import Mathlib.Data.List.Sort

namespace BranchPool

namespace Xid

theorem lt_iff {a b : Xid} :
    a < b ↔ a.formatId < b.formatId ∨
      a.formatId = b.formatId ∧
        (a.globalId < b.globalId ∨ a.globalId = b.globalId ∧ a.qualifier < b.qualifier) :=
  Iff.rfl

theorem lt_irrefl (a : Xid) : ¬a < a := by
  rintro (h | ⟨-, h | ⟨-, h⟩⟩)
  · exact Int32.lt_irrefl h
  · exact List.lt_irrefl _ h
  · exact List.lt_irrefl _ h

theorem lt_trans {a b c : Xid} (hab : a < b) (hbc : b < c) : a < c := by
  rw [lt_iff] at hab hbc ⊢
  rcases hab with hab | ⟨heq, hab⟩
  · rcases hbc with hbc | ⟨heq', -⟩
    · exact .inl (Int32.lt_trans hab hbc)
    · exact .inl (heq' ▸ hab)
  rw [heq]
  rcases hbc with hbc | ⟨heq', hbc⟩
  · exact .inl hbc
  refine .inr ⟨heq', ?_⟩
  rcases hab with hab | ⟨hglobal, hab⟩
  · rcases hbc with hbc | ⟨hglobal', -⟩
    · exact .inl (List.lt_trans hab hbc)
    · exact .inl (hglobal' ▸ hab)
  rw [hglobal]
  rcases hbc with hbc | ⟨hglobal', hbc⟩
  · exact .inl hbc
  · exact .inr ⟨hglobal', List.lt_trans hab hbc⟩

theorem lt_asymm {a b : Xid} (hab : a < b) : ¬b < a :=
  fun hba => lt_irrefl a (lt_trans hab hba)

theorem bytes_trichotomy (g g' : List UInt8) : g < g' ∨ g = g' ∨ g' < g :=
  Std.Trichotomous.rel_or_eq_or_rel_swap

theorem lt_trichotomy (a b : Xid) : a < b ∨ a = b ∨ b < a := by
  obtain ⟨f, g, q, _, _⟩ := a
  obtain ⟨f', g', q', _, _⟩ := b
  by_cases hf : f = f'
  swap
  · rcases Int32.lt_or_lt_of_ne hf with h | h
    · exact .inl (.inl h)
    · exact .inr (.inr (.inl h))
  subst hf
  rcases bytes_trichotomy g g' with h | rfl | h
  · exact .inl (.inr ⟨rfl, .inl h⟩)
  · rcases bytes_trichotomy q q' with h | rfl | h
    · exact .inl (.inr ⟨rfl, .inr ⟨rfl, h⟩⟩)
    · exact .inr (.inl rfl)
    · exact .inr (.inr (.inr ⟨rfl, .inr ⟨rfl, h⟩⟩))
  · exact .inr (.inr (.inr ⟨rfl, .inl h⟩))

/-- What is not after another identifier stands in front of it, or is it. -/
theorem not_lt_iff {a b : Xid} : ¬b < a ↔ a < b ∨ a = b := by
  constructor
  · intro h
    rcases lt_trichotomy a b with hab | rfl | hba
    · exact .inl hab
    · exact .inr rfl
    · exact absurd hba h
  · rintro (hab | rfl)
    · exact lt_asymm hab
    · exact lt_irrefl a

theorem pairwise_sort {xs : List Xid} (h : xs.Nodup) : (sort xs).Pairwise (· < ·) := by
  have hsorted : (sort xs).Pairwise fun a b => (!decide (b < a)) = true := by
    refine List.pairwise_mergeSort (fun a b c => ?_) (fun a b => ?_) xs
    · simp only [Bool.not_eq_true', decide_eq_false_iff_not, not_lt_iff]
      rintro (hab | rfl) (hbc | rfl)
      · exact .inl (lt_trans hab hbc)
      · exact .inl hab
      · exact .inl hbc
      · exact .inr rfl
    · simp only [Bool.or_eq_true, Bool.not_eq_true', decide_eq_false_iff_not, not_lt_iff]
      rcases lt_trichotomy a b with hab | rfl | hba
      · exact .inl (.inl hab)
      · exact .inl (.inr rfl)
      · exact .inr (.inl hba)
  have hnodup : (sort xs).Nodup := (sort_perm xs).nodup_iff.mpr h
  -- two neighbours are in order, and differ
  refine (hsorted.and hnodup).imp ?_
  rintro a b ⟨hle, hne⟩
  simp only [Bool.not_eq_true', decide_eq_false_iff_not, not_lt_iff] at hle
  exact hle.resolve_right hne

/-- Two ascending lists of the same identifiers are equal. -/
theorem eq_of_ascending {xs ys : List Xid} (hxs : xs.Pairwise (· < ·)) (hys : ys.Pairwise (· < ·))
    (h : ∀ x, x ∈ xs ↔ x ∈ ys) : xs = ys :=
  have : Std.Irrefl fun a b : Xid => a < b := ⟨lt_irrefl⟩
  have : Std.Antisymm fun a b : Xid => a < b := ⟨fun _ _ hab hba => absurd hba (lt_asymm hab)⟩
  hxs.eq_of_mem_iff hys h

end Xid

namespace BranchMap

variable {α β : Type}

theorem mem_sortedKeysWhere (m : BranchMap α) (test : α → Bool) {x : Xid} :
    x ∈ m.sortedKeysWhere test ↔ ∃ a, m.get? x = some a ∧ test a = true := by
  rw [sortedKeysWhere, (Xid.sort_perm _).mem_iff]
  constructor
  · intro hx
    obtain ⟨⟨_, a⟩, he, rfl⟩ := List.mem_map.mp hx
    obtain ⟨hmem, htest⟩ := List.mem_filter.mp he
    exact ⟨a, m.mem_entries_iff.mp hmem, htest⟩
  · rintro ⟨a, hget, htest⟩
    exact List.mem_map.mpr ⟨(x, a), List.mem_filter.mpr ⟨m.mem_entries_iff.mpr hget, htest⟩, rfl⟩

theorem pairwise_sortedKeysWhere (m : BranchMap α) (test : α → Bool) :
    (m.sortedKeysWhere test).Pairwise (· < ·) := by
  refine Xid.pairwise_sort (m.nodup_keys.sublist ?_)
  exact List.filter_sublist.map _

theorem mem_sortedKeys (m : BranchMap α) {x : Xid} : x ∈ m.sortedKeys ↔ m.contains x = true := by
  rw [sortedKeys, (Xid.sort_perm _).mem_iff, mem_keys_iff, contains, Option.isSome_iff_exists]

theorem pairwise_sortedKeys (m : BranchMap α) : m.sortedKeys.Pairwise (· < ·) :=
  Xid.pairwise_sort m.nodup_keys

theorem sortedKeys_congr {m : BranchMap α} {n : BranchMap β}
    (h : ∀ x, m.contains x = n.contains x) : m.sortedKeys = n.sortedKeys :=
  Xid.eq_of_ascending m.pairwise_sortedKeys n.pairwise_sortedKeys fun x => by
    rw [mem_sortedKeys, mem_sortedKeys, h x]

end BranchMap

end BranchPool
