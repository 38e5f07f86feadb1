/-
Looking up keys in a list of pairs.

* `lookup_eq_some_iff_mem` — what is found for a key is what stands beside it, if no key
  stands in the list twice;
* `lookup_filter` — it does not matter what stands beside other keys.
-/
import Mathlib.Data.List.Nodup

namespace BranchPool

variable {κ α : Type} [BEq κ] [LawfulBEq κ] {es : List (κ × α)} {k : κ} {a : α}

theorem lookup_eq_some_iff_mem (h : (es.map Prod.fst).Nodup) :
    es.lookup k = some a ↔ (k, a) ∈ es := by
  induction es with
  | nil => simp
  | cons e es ih =>
    obtain ⟨k', a'⟩ := e
    obtain ⟨hnot, hrest⟩ := List.nodup_cons.mp h
    rw [List.lookup_cons]
    by_cases heq : k = k'
    · subst heq
      -- the key is found at the head, so by assumption it is in no entry behind it
      have hother : (k, a) ∉ es := fun hmem => hnot (List.mem_map.mpr ⟨_, hmem, rfl⟩)
      simp [hother, eq_comm]
    · simp [beq_false_of_ne heq, heq, ih hrest]

/-- To pass over other keys does not matter to a key that is looked up. -/
theorem lookup_filter {ks : List κ} (h : k ∈ ks) :
    (es.filter fun e => ks.contains e.1).lookup k = es.lookup k := by
  induction es with
  | nil => rfl
  | cons e es ih =>
    obtain ⟨k', a'⟩ := e
    by_cases heq : k = k'
    · subst heq
      simp [h]
    -- an entry under another key does not matter, whether it is filtered out or not
    · have hskip : ((k', a') :: es).lookup k = es.lookup k := by
        rw [List.lookup_cons, beq_false_of_ne heq]
      rw [hskip, ← ih, List.filter_cons]
      split
      · rw [List.lookup_cons, beq_false_of_ne heq]
      · rfl

end BranchPool
