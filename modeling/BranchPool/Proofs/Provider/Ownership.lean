/-
Who owns a facade.

* `Counts` — the counters of a traced provider count what its history tells;
* `Provider.ownership_run` — each facade that was opened is in one place: it is
  idle, bound to one branch, discarded or shut, and the counters agree.
-/
import BranchPool.Proofs.Provider.Conduct

namespace BranchPool

open Facade

variable {γ σ φ κ ε : Type}

/-- Whether a muster has counted the facades that were made and discarded. -/
structure Counts (m : Muster (Numbered φ) (Trace σ φ)) : Prop where
  created : m.created = m.world.events.opened.length
  discarded : m.discarded = m.world.events.discarded.length

theorem Counts.duty {b : Backend γ σ φ κ} {closing : Bool} {m m' : Muster (Numbered φ) (Trace σ φ)}
    (hduty : Duty b.traced closing m m') (h : Counts m) : Counts m' := by
  cases hduty with
  | regroup hR => exact ⟨h.created, h.discarded⟩
  | make hmake =>
    obtain ⟨f, world, -, rfl, rfl⟩ := Backend.create_traced_ok hmake
    exact ⟨h.created, h.discarded⟩
  | notMade hmake =>
    obtain ⟨world, -, rfl⟩ := Backend.create_traced_error hmake
    exact ⟨h.created, h.discarded⟩
  | @work t q op R n d w hpermits hclose =>
    -- the counters move exactly with the two kinds of call that the lists record
    obtain ⟨hcreated, hdiscarded⟩ := h
    simp only at hcreated hdiscarded
    simp only [Muster.afterCall, Backend.perform_traced, Trace.observe]
    constructor
    · rw [History.opened_cons, List.length_append, List.length_replicate, isOk_map_unit, hcreated]
      exact Nat.add_comm _ _
    · rw [History.discarded_cons, List.length_append, List.length_replicate, isOk_map_unit,
        hdiscarded]
      exact Nat.add_comm _ _
  | leave hfinal => exact ⟨h.created, h.discarded⟩

namespace Provider

theorem counts_run (b : Backend γ σ φ κ) (act : ε → σ → σ) (ms : List (Move ε)) (factory : γ)
    (w : σ) :
    let s := run b.traced (Trace.lift act) ms (.fresh factory w)
    Counts (s.provider.muster s.world) := by
  refine muster_induction (fun m m' hduty h => h.duty hduty) (fun e R n d w' h => ?_) ms ?_
  · exact ⟨h.created, h.discarded⟩
  · exact ⟨rfl, rfl⟩

/-- A facade is held as often as it was opened, less the times that it was
discarded or shut. -/
theorem count_held {s : State γ (Numbered φ) (Trace σ φ)} (h : Books (s.provider.muster s.world))
    (i : Nat) :
    s.world.events.opened.count i = (s.provider.facades.map Numbered.number).count i +
      s.world.events.discarded.count i + s.world.events.shut.count i := by
  have horderly : s.world.events.Orderly := h.orderly
  rw [History.count_opened horderly, History.count_discarded horderly,
    History.count_shut horderly]
  have hnodup : (s.provider.facades.map Numbered.number).Nodup := by
    rw [← map_fst_roster]
    exact h.holds.nodup
  rw [← map_fst_roster, List.map_map] at hnodup ⊢
  -- a facade is held, or it left, or it has not been made
  by_cases hheld : ∃ e ∈ s.provider.roster, e.1.number = i
  · obtain ⟨e, he, rfl⟩ := hheld
    have hstage : s.world.events.stage e.1.number = e.2 := h.stage e he
    have hone : (s.provider.roster.map (Numbered.number ∘ Prod.fst)).count e.1.number = 1 :=
      List.count_eq_one_of_mem hnodup (List.mem_map_of_mem (f := Numbered.number ∘ Prod.fst) he)
    obtain ⟨hopened, hrejected, hclosed⟩ := Stage.openings_of_isHeld (isHeld_of_mem_roster he)
    rw [hone, hstage, hopened, hrejected, hclosed]
  · have hzero : (s.provider.roster.map (Numbered.number ∘ Prod.fst)).count i = 0 := by
      refine List.count_eq_zero.mpr fun hmem => hheld ?_
      exact List.mem_map.mp hmem
    rw [hzero, Nat.zero_add]
    by_cases hi : i < s.world.facades.length
    · exact Stage.openings_of_isFinal (h.gone i hi fun e he heq => hheld ⟨e, he, heq⟩)
    · have hmade : s.world.events.stage i = .made := h.unmade i (Nat.le_of_not_lt hi)
      rw [hmade]
      rfl

theorem opened_perm {s : State γ (Numbered φ) (Trace σ φ)}
    (h : Books (s.provider.muster s.world)) :
    s.world.events.opened.Perm (s.provider.idle.map Numbered.number ++
      s.provider.bound.values.map Numbered.number ++ s.world.events.discarded ++
      s.world.events.shut) := by
  refine List.perm_iff_count.mpr fun i => ?_
  have hcount := count_held h i
  rw [facades_eq, List.map_append, List.count_append] at hcount
  simp only [List.count_append]
  omega

theorem facadesCreated_eq {s : State γ (Numbered φ) (Trace σ φ)}
    (h : Books (s.provider.muster s.world)) (hcounts : Counts (s.provider.muster s.world)) :
    s.provider.tally.facadesCreated = s.provider.tally.facadesDiscarded + s.provider.idleCount +
      s.provider.boundCount + s.world.events.shut.length := by
  have hcreated : s.provider.tally.facadesCreated = s.world.events.opened.length := hcounts.created
  have hdiscarded : s.provider.tally.facadesDiscarded = s.world.events.discarded.length :=
    hcounts.discarded
  have hlength := (opened_perm h).length_eq
  simp only [List.length_append, List.length_map, BranchMap.length_values] at hlength
  rw [hcreated, hdiscarded, hlength, idleCount, boundCount]
  omega

/-- Every facade that was made and opened is in one place: in the queue, bound
to one branch, discarded, or shut by `openUp` or `close`; and the counters of
the provider say so. -/
theorem ownership_run (b : Backend γ σ φ κ) (act : ε → σ → σ) (ms : List (Move ε)) (factory : γ)
    (w : σ) :
    let s := run b.traced (Trace.lift act) ms (.fresh factory w)
    let h := s.world.events
    let p := s.provider
    s.untraced = run b act ms ⟨.ofFactory factory, w⟩ ∧
      h.opened.Nodup ∧
      h.opened.Perm (p.idle.map Numbered.number ++ p.bound.values.map Numbered.number ++
        h.discarded ++ h.shut) ∧
      (∀ x, p.active? = some x → x ∈ p.bound.keys) ∧
      p.tally.facadesCreated =
        p.tally.facadesDiscarded + p.idleCount + p.boundCount + h.shut.length ∧
      p.tally.facadesDiscarded ≤ p.tally.facadesCreated ∧
      p.tally.liveFacades = p.idleCount + p.boundCount + h.shut.length ∧
      ∀ c : Call, c.closes = false → (c.run b.traced p s.world).world.events.shut = h.shut := by
  intro s h p
  have hbooks : Books (p.muster s.world) := books_run b act ms factory w
  have htotal := facadesCreated_eq hbooks (counts_run b act ms factory w)
  refine ⟨untraced_run b act ms factory w, History.nodup_opened hbooks.orderly,
    opened_perm hbooks, ?_, htotal, ?_, ?_, fun c => (hbooks.call b c).2⟩
  · intro x hx
    have hsound : p.Sound := sound_run ms (sound_ofFactory factory)
    obtain ⟨t, ht⟩ := hsound.active hx
    exact p.bound.mem_keys_iff.mpr ⟨t, ht⟩
  -- what is left after the discarded ones are taken off is held or was shut
  · rw [htotal, Nat.add_assoc, Nat.add_assoc]
    exact Nat.le_add_right _ _
  · rw [Tally.liveFacades, htotal, Nat.add_assoc, Nat.add_assoc, Nat.add_sub_cancel_left,
      Nat.add_assoc]

end Provider

end BranchPool
