/-
Musters: the facades that a provider holds, with the stage of each.

* `Muster` — every facade with its stage, in no particular order, and how many
  facades were made and discarded so far;
* `Pool.roster` — the stages in a pool: a facade in the queue is idle, one that
  is bound to the active branch is active, and any other bound one is ended;
* `Pool.roster_perm` and its neighbours — what the operations on a pool do to
  the stages.
-/
import BranchPool.Proofs.Stage

namespace BranchPool

open Facade

variable {γ σ φ : Type}

/-- Facades with the stage of each, and how many were made and discarded so
far. -/
structure Muster (φ σ : Type) where
  roster : List (φ × Stage)
  created : Nat
  discarded : Nat
  world : σ

/-- Whether one of the facades is bound to a branch. -/
def Binds (R : List (φ × Stage)) (x : Xid) : Prop :=
  ∃ e ∈ R, e.2.branch? = some x

theorem Binds.perm {R R' : List (φ × Stage)} (h : R.Perm R') {x : Xid} :
    Binds R x ↔ Binds R' x := by
  simp only [Binds, h.mem_iff]

namespace Pool

/-- The stage of the facade that is bound to a branch. -/
def stageOf (s : Pool φ) (x : Xid) : Stage :=
  if s.active = some x then .active x else .ended x

/-- Every facade of a pool with its stage. -/
def roster (s : Pool φ) : List (φ × Stage) :=
  (s.bound.entries.map fun e => (e.2, s.stageOf e.1)) ++ s.idle.map fun f => (f, .idle)

theorem mem_roster_of_bound {s : Pool φ} {x : Xid} {f : φ} (h : s.bound.get? x = some f) :
    (f, s.stageOf x) ∈ s.roster :=
  List.mem_append_left _ (List.mem_map.mpr ⟨(x, f), s.bound.mem_entries_iff.mpr h, rfl⟩)

theorem mem_roster_of_idle {s : Pool φ} {f : φ} (h : f ∈ s.idle) : (f, .idle) ∈ s.roster :=
  List.mem_append_right _ (List.mem_map.mpr ⟨f, h, rfl⟩)

/-- A pool less the facade of a branch. -/
def without (s : Pool φ) (x : Xid) : Pool φ :=
  { s with
    bound := s.bound.erase x
    active := if s.active = some x then none else s.active }

theorem unbind?_eq (s : Pool φ) (x : Xid) :
    s.unbind? x = (s.bound.get? x).map fun f => (f, s.without x) := rfl

theorem branch?_stageOf (s : Pool φ) (x : Xid) : (s.stageOf x).branch? = some x := by
  rw [stageOf]
  split <;> rfl

theorem isHeld_stageOf (s : Pool φ) (x : Xid) : (s.stageOf x).IsHeld := by
  rw [stageOf]
  split <;> exact trivial

theorem isHeld_of_mem_roster {s : Pool φ} {e : φ × Stage} (he : e ∈ s.roster) : e.2.IsHeld := by
  rcases List.mem_append.mp he with h | h
  · obtain ⟨_, -, rfl⟩ := List.mem_map.mp h
    exact s.isHeld_stageOf _
  · obtain ⟨_, -, rfl⟩ := List.mem_map.mp h
    exact trivial

theorem map_fst_roster (s : Pool φ) : s.roster.map Prod.fst = s.facades := by
  simp [roster, facades, BranchMap.values, Function.comp_def]

theorem binds_roster (s : Pool φ) {x : Xid} : Binds s.roster x ↔ ∃ f, s.bound.get? x = some f := by
  constructor
  · rintro ⟨e, he, hx⟩
    rcases List.mem_append.mp he with h | h
    · obtain ⟨⟨y, f⟩, hmem, rfl⟩ := List.mem_map.mp h
      rw [branch?_stageOf, Option.some_inj] at hx
      subst hx
      exact ⟨f, s.bound.mem_entries_iff.mp hmem⟩
    · obtain ⟨_, -, rfl⟩ := List.mem_map.mp h
      cases hx
  · rintro ⟨f, hf⟩
    exact ⟨_, mem_roster_of_bound hf, s.branch?_stageOf x⟩

theorem stageOf_without (s : Pool φ) {x y : Xid} (hne : y ≠ x) :
    (s.without x).stageOf y = s.stageOf y := by
  obtain ⟨idle, bound, active⟩ := s
  by_cases hx : active = some x
  · subst hx
    simp [stageOf, without, hne.symm]
  · simp [stageOf, without, hx]

theorem roster_without (s : Pool φ) (x : Xid) :
    (s.without x).roster = ((s.bound.erase x).entries.map fun e => (e.2, s.stageOf e.1)) ++
      s.idle.map fun f => (f, .idle) := by
  refine congrArg (· ++ _) (List.map_congr_left fun e he => ?_)
  have hne : e.1 ≠ x := by
    rintro rfl
    have hget := (s.bound.erase e.1).mem_entries_iff.mp he
    rw [BranchMap.get?_erase_self] at hget
    cases hget
  rw [stageOf_without s hne]

/-- The facade of a branch stands beside those that remain without it. -/
theorem roster_perm {s : Pool φ} {x : Xid} {f : φ} (hf : s.bound.get? x = some f) :
    s.roster.Perm ((f, s.stageOf x) :: (s.without x).roster) := by
  have hperm := (BranchMap.entries_perm hf).map fun e => (e.2, s.stageOf e.1)
  rw [roster_without]
  exact hperm.append_right _

theorem roster_without_of_get?_eq_none {s : Pool φ} {x : Xid} (hx : s.bound.get? x = none) :
    (s.without x).roster = s.roster := by
  rw [roster_without, BranchMap.erase_of_get?_eq_none hx, roster]

theorem roster_idle {s : Pool φ} {f : φ} {rest : List φ} (h : s.idle = f :: rest) :
    s.roster.Perm ((f, .idle) :: roster { s with idle := rest }) := by
  rw [roster, h, List.map_cons]
  exact List.perm_middle

theorem roster_offerIdle (s : Pool φ) (f : φ) :
    (s.offerIdle f).roster.Perm ((f, .idle) :: s.roster) := by
  have happend : (s.offerIdle f).roster = s.roster ++ [(f, .idle)] := by
    simp only [offerIdle, roster, List.map_append, List.append_assoc]
    rfl
  rw [happend]
  exact List.perm_append_singleton _ _

theorem stageOf_active {s : Pool φ} {x : Xid} (h : s.active = some x) : s.stageOf x = .active x := by
  rw [stageOf, if_pos h]

theorem stageOf_ended {s : Pool φ} {x : Xid} (h : s.active ≠ some x) : s.stageOf x = .ended x := by
  rw [stageOf, if_neg h]

theorem without_bindActive {s : Pool φ} {x : Xid} (hactive : s.active = none)
    (hx : s.bound.get? x = none) (f : φ) : (s.bindActive x f).without x = s := by
  obtain ⟨idle, bound, active⟩ := s
  simp only at hactive hx
  simp only [without, bindActive, BranchMap.erase_insert hx, if_pos, hactive]

theorem without_clearActive {s : Pool φ} {x : Xid} (h : s.active = some x) :
    s.clearActive.without x = s.without x := by
  simp [without, clearActive, h]

theorem without_update (s : Pool φ) (x : Xid) (f : φ) :
    ({ s with bound := s.bound.update x f } : Pool φ).without x = s.without x := by
  simp only [without, BranchMap.erase_update]

/-- A bound facade is replaced and stays at its stage. -/
theorem roster_update {s : Pool φ} {x : Xid} {f : φ} (hf : s.bound.get? x = some f) (g : φ) :
    (roster { s with bound := s.bound.update x g }).Perm
      ((g, s.stageOf x) :: (s.without x).roster) := by
  have hget : (s.bound.update x g).get? x = some g := by
    rw [BranchMap.get?_update, if_pos rfl, hf, Option.map_some]
  have hperm := roster_perm (s := { s with bound := s.bound.update x g }) hget
  rwa [without_update] at hperm

/-- The facade of the active branch is replaced, and the branch is ended. -/
theorem roster_end {s : Pool φ} {x : Xid} {f : φ} (hf : s.bound.get? x = some f)
    (hactive : s.active = some x) (g : φ) :
    (roster { s with bound := s.bound.update x g, active := none }).Perm
      ((g, .ended x) :: (s.without x).roster) := by
  have hget : (s.bound.update x g).get? x = some g := by
    rw [BranchMap.get?_update, if_pos rfl, hf, Option.map_some]
  have hperm := roster_perm (s := { s with bound := s.bound.update x g, active := none }) hget
  have hwithout : ({ s with bound := s.bound.update x g, active := none } : Pool φ).without x =
      s.without x := by
    rw [← without_update s x g]
    exact without_clearActive (s := { s with bound := s.bound.update x g }) hactive
  rwa [hwithout, stageOf_ended (by simp)] at hperm

theorem activeFacade?_eq_some {s : Pool φ} {x : Xid} {f : φ} (h : s.activeFacade? = some (x, f)) :
    s.active = some x ∧ s.bound.get? x = some f := by
  simp only [activeFacade?, Option.bind_eq_bind, Option.bind_eq_some_iff] at h
  obtain ⟨y, hy, g, hg, heq⟩ := h
  cases heq
  exact ⟨hy, hg⟩

end Pool

namespace Provider

/-- Every facade of a provider with its stage. -/
def roster (p : Provider γ φ) : List (φ × Stage) := (p.pool.map (·.roster)).getD []

/-- What a provider holds and has counted, in its world. -/
def muster (p : Provider γ φ) (w : σ) : Muster φ σ :=
  ⟨p.roster, p.tally.facadesCreated, p.tally.facadesDiscarded, w⟩

theorem map_fst_roster (p : Provider γ φ) : p.roster.map Prod.fst = p.facades := by
  obtain ⟨factory, _ | s, tally⟩ := p
  · rfl
  · exact s.map_fst_roster

theorem mem_roster_of_bound {p : Provider γ φ} {x : Xid} {f : φ}
    (h : p.boundFacade? x = some f) :
    (f, if p.active? = some x then .active x else .ended x) ∈ p.roster := by
  obtain ⟨factory, _ | s, tally⟩ := p
  · cases h
  · exact Pool.mem_roster_of_bound h

theorem mem_roster_of_idle {p : Provider γ φ} {f : φ} (h : f ∈ p.idle) : (f, .idle) ∈ p.roster := by
  obtain ⟨factory, _ | s, tally⟩ := p
  · cases h
  · exact Pool.mem_roster_of_idle h

theorem binds_roster {p : Provider γ φ} {x : Xid} :
    Binds p.roster x ↔ ∃ f, p.boundFacade? x = some f := by
  obtain ⟨factory, _ | s, tally⟩ := p
  · constructor
    · rintro ⟨e, he, -⟩
      cases he
    · rintro ⟨f, hf⟩
      cases hf
  · exact s.binds_roster

theorem isHeld_of_mem_roster {p : Provider γ φ} {e : φ × Stage} (he : e ∈ p.roster) :
    e.2.IsHeld := by
  obtain ⟨factory, _ | s, tally⟩ := p
  · cases he
  · exact Pool.isHeld_of_mem_roster he

end Provider

end BranchPool
