/-
Listings of branches, which do not depend on the order of a map.

* `Xid.lt_iff_precedes` — the order of identifiers, told without a word on how it is computed;
* `Xid.compare_iff` — a comparison tells which of two identifiers stands before the other, or
  that they are one;
* `Xid.IsListing` — a list in strictly ascending order of the identifiers with a property;
* `Xid.IsListing.unique` — there is only one;
* `BranchMap.isListing_sortedKeysWhere` — a branch map gives it, whatever order its entries are in;
* `listings_canonical` — so what a pool and a manager list depends on nothing but which
  branches they have.
-/
import BranchPool.Proofs.XidOrder
import BranchPool.Provider
import BranchPool.ResourceManager

namespace BranchPool

namespace Xid

/-! ### The order -/

/-- Whether one byte string stands before another: it is a beginning of the other, or the
smaller byte is its where the two differ first. -/
def BytesPrecede (g h : List UInt8) : Prop :=
  (g <+: h ∧ g ≠ h) ∨
    ∃ p c d r s, g = p ++ c :: r ∧ h = p ++ d :: s ∧ c.toNat < d.toNat

/-- Whether one identifier stands before another: by format id, then by global id, then by
qualifier. -/
def Precedes (a b : Xid) : Prop :=
  a.formatId.toInt < b.formatId.toInt ∨
    a.formatId = b.formatId ∧
      (BytesPrecede a.globalId b.globalId ∨
        a.globalId = b.globalId ∧ BytesPrecede a.qualifier b.qualifier)

theorem bytesPrecede_nil {h : List UInt8} : BytesPrecede [] h ↔ h ≠ [] := by
  constructor
  · rintro (⟨-, hne⟩ | ⟨p, c, d, r, s, heq, -⟩)
    · exact hne.symm
    · cases p <;> cases heq
  · exact fun hne => .inl ⟨List.nil_prefix, hne.symm⟩

theorem not_bytesPrecede_nil {g : List UInt8} : ¬BytesPrecede g [] := by
  rintro (⟨hbegins, hne⟩ | ⟨p, c, d, r, s, -, heq, -⟩)
  · exact hne (List.prefix_nil.mp hbegins)
  · cases p <;> cases heq

theorem bytesPrecede_cons {c d : UInt8} {g h : List UInt8} :
    BytesPrecede (c :: g) (d :: h) ↔ c < d ∨ c = d ∧ BytesPrecede g h := by
  constructor
  · rintro (⟨hbegins, hne⟩ | ⟨p, c', d', r, s, hg, hh, hlt⟩)
    -- the first difference is at the head, or behind a head that both have
    · obtain ⟨rfl, htail⟩ := List.cons_prefix_cons.mp hbegins
      exact .inr ⟨rfl, .inl ⟨htail, fun heq => hne (congrArg (c :: ·) heq)⟩⟩
    · cases p with
      | nil =>
        cases hg
        cases hh
        exact .inl (UInt8.lt_iff_toNat_lt.mpr hlt)
      | cons e p =>
        cases hg
        cases hh
        exact .inr ⟨rfl, .inr ⟨p, c', d', r, s, rfl, rfl, hlt⟩⟩
  · rintro (hlt | ⟨rfl, ⟨hbegins, hne⟩ | ⟨p, c', d', r, s, rfl, rfl, hlt⟩⟩)
    · exact .inr ⟨[], c, d, g, h, rfl, rfl, UInt8.lt_iff_toNat_lt.mp hlt⟩
    · exact .inl ⟨List.cons_prefix_cons.mpr ⟨rfl, hbegins⟩, fun heq => hne (List.cons.inj heq).2⟩
    · exact .inr ⟨c :: p, c', d', r, s, rfl, rfl, hlt⟩

theorem bytes_lt_iff {g h : List UInt8} : g < h ↔ BytesPrecede g h := by
  induction g generalizing h with
  | nil =>
    cases h with
    | nil => simp [bytesPrecede_nil]
    | cons d h => simp [bytesPrecede_nil]
  | cons c g ih =>
    cases h with
    | nil => simp [not_bytesPrecede_nil]
    | cons d h => rw [List.cons_lt_cons_iff, bytesPrecede_cons, ih]

theorem lt_iff_precedes {a b : Xid} : a < b ↔ a.Precedes b := by
  rw [lt_iff, Precedes, Int32.lt_iff_toInt_lt, bytes_lt_iff, bytes_lt_iff]

theorem isStrictTotalOrder : IsStrictTotalOrder Xid (· < ·) where
  trichotomous _ _ hab hba := (not_lt_iff.mp hba).resolve_left hab
  irrefl := lt_irrefl
  trans _ _ _ := lt_trans

theorem ne_of_lt {a b : Xid} (h : a < b) : a ≠ b :=
  fun heq => lt_irrefl b (heq ▸ h)

theorem compare_of_lt {a b : Xid} (h : a < b) : compare a b = .lt := if_pos h

theorem compare_self (a : Xid) : compare a a = .eq :=
  (if_neg (lt_irrefl a)).trans (if_pos rfl)

theorem compare_of_gt {a b : Xid} (h : b < a) : compare a b = .gt :=
  (if_neg (lt_asymm h)).trans (if_neg (ne_of_lt h).symm)

theorem compare_iff (a b : Xid) :
    (compare a b = .lt ↔ a < b) ∧ (compare a b = .eq ↔ a = b) ∧ (compare a b = .gt ↔ b < a) := by
  obtain hab | rfl | hba := lt_trichotomy a b
  · simp [compare_of_lt hab, hab, ne_of_lt hab, lt_asymm hab]
  · simp [compare_self, lt_irrefl a]
  · simp [compare_of_gt hba, hba, (ne_of_lt hba).symm, lt_asymm hba]

/-! ### Listings -/

/-- A list in strictly ascending order of all identifiers with a property. -/
structure IsListing (P : Xid → Prop) (xs : List Xid) : Prop where
  ascending : xs.Pairwise (· < ·)
  exact : ∀ x, x ∈ xs ↔ P x

namespace IsListing

variable {P : Xid → Prop} {xs ys : List Xid}

theorem nodup (h : IsListing P xs) : xs.Nodup :=
  h.ascending.imp ne_of_lt

theorem unique (hxs : IsListing P xs) (hys : IsListing P ys) : xs = ys :=
  eq_of_ascending hxs.ascending hys.ascending fun x => (hxs.exact x).trans (hys.exact x).symm

theorem iff_eq (hxs : IsListing P xs) : IsListing P ys ↔ ys = xs :=
  ⟨fun hys => hys.unique hxs, fun heq => heq ▸ hxs⟩

end IsListing

end Xid

variable {α γ φ : Type}

theorem BranchMap.isListing_sortedKeysWhere {m n : BranchMap α} (h : n.entries.Perm m.entries)
    (test : α → Bool) :
    Xid.IsListing (fun x => ∃ a, m.get? x = some a ∧ test a = true) (n.sortedKeysWhere test) where
  ascending := n.pairwise_sortedKeysWhere test
  exact x := by rw [mem_sortedKeysWhere, get?_congr h]

theorem BranchMap.isListing_sortedKeys {m n : BranchMap α} (h : n.entries.Perm m.entries) :
    Xid.IsListing (fun x => m.get? x ≠ none) n.sortedKeys where
  ascending := n.pairwise_sortedKeys
  exact x := by rw [mem_sortedKeys, contains, get?_congr h, Option.isSome_iff_ne_none]

/-- The bound branches of a provider, its map in any order. -/
theorem Provider.isListing_boundBranches {p p' : Provider γ φ}
    (h : p'.bound.entries.Perm p.bound.entries) :
    Xid.IsListing (fun x => p.boundFacade? x ≠ none) p'.boundBranches :=
  BranchMap.isListing_sortedKeys h

/-- The prepared branches of a manager, its map in any order. -/
theorem ResourceManager.isListing_prepared {m m' : ResourceManager}
    (h : m'.branches.entries.Perm m.branches.entries) :
    Xid.IsListing (fun x => m.phase? x = some .prepared) m'.prepared := by
  have hlisting := BranchMap.isListing_sortedKeysWhere h fun entry => entry.phase = .prepared
  refine ⟨hlisting.ascending, fun x => (hlisting.exact x).trans ?_⟩
  simp only [phase?, Option.map_eq_some_iff, decide_eq_true_eq]

/-- The order of identifiers compares the format ids as signed numbers, then the global ids, then
the qualifiers, and is a strict total order that agrees with equality.  So whatever branches a
provider or a manager has, and whatever order their maps are in, there is one list of the
bound branches, and of the prepared ones, in strictly ascending order with none missing and
none twice, and that is the one they give. -/
theorem listings_canonical :
    ((∀ a b : Xid, a < b ↔ a.Precedes b) ∧ IsStrictTotalOrder Xid (· < ·) ∧
        ∀ a b : Xid, (compare a b = .lt ↔ a < b) ∧ (compare a b = .eq ↔ a = b) ∧
          (compare a b = .gt ↔ b < a)) ∧
      (∀ {γ φ : Type} (p p' : Provider γ φ), p'.bound.entries.Perm p.bound.entries →
        (∀ xs, Xid.IsListing (fun x => p.boundFacade? x ≠ none) xs ↔ xs = p'.boundBranches) ∧
          p'.boundBranches.Nodup) ∧
      ∀ m m' : ResourceManager, m'.branches.entries.Perm m.branches.entries →
        (∀ xs, Xid.IsListing (fun x => m.phase? x = some .prepared) xs ↔ xs = m'.prepared) ∧
          m'.prepared.Nodup := by
  refine ⟨⟨fun _ _ => Xid.lt_iff_precedes, Xid.isStrictTotalOrder, Xid.compare_iff⟩,
    fun p p' h => ?_, fun m m' h => ?_⟩
  -- no listing depends on the order of the map, as members decide it
  · have hlisting := Provider.isListing_boundBranches h
    exact ⟨fun xs => hlisting.iff_eq, hlisting.nodup⟩
  · have hlisting := ResourceManager.isListing_prepared h
    exact ⟨fun xs => hlisting.iff_eq, hlisting.nodup⟩

end BranchPool
