/-
The phases of the branches of a resource manager.

* `ResourceManager.phase?_insert` and its neighbours — the phases after a
  change to the live branches;
* `ResourceManager.begin?_eq_ok` and its neighbours — when a manager accepts a
  call, and what it is afterwards.
-/
import BranchPool.Proofs.BranchMap
import BranchPool.ResourceManager

namespace BranchPool.ResourceManager

variable {m m' : ResourceManager} {x y : Xid}

/-! ### Changes to the live branches -/

theorem phase?_congr (h : m'.branches = m.branches) (x : Xid) : m'.phase? x = m.phase? x := by
  rw [phase?, phase?, h]

theorem phase?_insert (m : ResourceManager) (x y : Xid) (branch : Branch) :
    ({ m with branches := m.branches.insert x branch } : ResourceManager).phase? y =
      if y = x then some branch.phase else m.phase? y := by
  simp only [phase?, BranchMap.get?_insert]
  split <;> rfl

theorem phase?_update {branch : Branch} (hx : m.branches.get? x = some branch) (y : Xid)
    (branch' : Branch) :
    ({ m with branches := m.branches.update x branch' } : ResourceManager).phase? y =
      if y = x then some branch'.phase else m.phase? y := by
  simp only [phase?, BranchMap.get?_update, hx]
  split <;> rfl

theorem phase?_resolve (m : ResourceManager) (x y : Xid) (outcome : Outcome) :
    (m.resolve x outcome).phase? y = if y = x then none else m.phase? y := by
  simp only [phase?, resolve, BranchMap.get?_erase]
  split <;> rfl

/-- What is abandoned while active is rolled back. -/
theorem abandon_of_active (h : m.phase? x = some .active) :
    m.abandon x = m.resolve x .rolledBack := by
  rw [abandon, isActive, h]
  rfl

/-! ### Calls that are accepted -/

theorem connect?_eq_ok (h : m.connect? = .ok m') :
    m' = { m with connectionsOpened := m.connectionsOpened + 1 } := by
  rw [connect?] at h
  split at h
  · cases h
    rfl
  · cases h

theorem begin?_eq_ok {timeout : Option Timeout} (h : m.begin? x timeout = .ok m') :
    m.phase? x = none ∧ m' = { m with branches := m.branches.insert x ⟨.active, timeout⟩ } := by
  rw [begin?] at h
  split at h
  swap
  · cases h
  split at h
  · cases h
  · rename_i hcontains
    cases h
    have hget := m.branches.contains_eq_false_iff.mp (by simpa using hcontains)
    exact ⟨by rw [phase?, hget]; rfl, rfl⟩

theorem prepare?_eq_ok (h : m.prepare? x = .ok m') :
    ∃ timeout, m.branches.get? x = some ⟨.active, timeout⟩ ∧
      m' = { m with branches := m.branches.update x ⟨.prepared, timeout⟩ } := by
  rw [prepare?] at h
  -- an unreachable manager and a branch that is absent or prepared give errors
  split at h
  swap
  · cases h
  split at h
  · rename_i timeout hget
    cases h
    exact ⟨timeout, hget, rfl⟩
  · cases h
  · cases h

theorem commit?_eq_ok {ignoreUnknown : Bool} (h : m.commit? x ignoreUnknown = .ok m') :
    m.phase? x = some .prepared ∧ m' = m.resolve x .committed ∨
      (m.phase? x = none ∧ ignoreUnknown = true) ∧ m' = m := by
  rw [commit?] at h
  split at h
  swap
  · cases h
  split at h
  · rename_i hphase
    cases h
    exact .inl ⟨hphase, rfl⟩
  · cases h
  · rename_i hphase
    split at h
    · rename_i hignore
      cases h
      exact .inr ⟨⟨hphase, hignore⟩, rfl⟩
    · cases h

end BranchPool.ResourceManager
