/-
How a provider treats its facades.

* `Books` — what a traced provider keeps true: the stages of its facades are
  those of the history, and no facade that left is in use;
* `Provider.orderly_run` — the history of every run is orderly, and agrees with
  what the provider holds.
-/
import BranchPool.Proofs.Provider.Active
import BranchPool.Proofs.Provider.Duty
import BranchPool.Proofs.History

namespace BranchPool

open Facade

variable {γ σ φ κ ε α : Type}

/-! ### The books of a provider -/

/-- What is true of a traced provider: it holds each facade once, as the facade
is now, and knows its stage; and the facades that it does not hold are left
alone. -/
structure Books (m : Muster (Numbered φ) (Trace σ φ)) : Prop where
  orderly : m.world.events.Orderly
  holds : m.world.Holds (m.roster.map Prod.fst)
  stage : ∀ e ∈ m.roster, m.world.events.stage e.1.number = e.2
  gone : ∀ i < m.world.facades.length, (∀ e ∈ m.roster, e.1.number ≠ i) →
    (m.world.events.stage i).IsFinal
  unmade : ∀ i, m.world.facades.length ≤ i → m.world.events.stage i = .made

namespace Books

variable {m : Muster (Numbered φ) (Trace σ φ)} {R R' : List (Numbered φ × Stage)} {n d : Nat}
  {w : Trace σ φ}

theorem number_lt (h : Books m) {e : Numbered φ × Stage} (he : e ∈ m.roster) :
    e.1.number < m.world.facades.length :=
  h.holds.number_lt (List.mem_map_of_mem he)

theorem ne_number {e e' : Numbered φ × Stage} (h : Books ⟨e :: R, n, d, w⟩) (he : e' ∈ R) :
    e.1.number ≠ e'.1.number :=
  h.holds.ne_number (List.mem_map_of_mem he)

/-- A branch that is bound in the history is bound in the roster. -/
theorem binds (h : Books m) {x : Xid} (hx : m.world.events.Binds x) : Binds m.roster x := by
  obtain ⟨i, hi⟩ := hx
  by_cases hlen : i < m.world.facades.length
  · -- a facade that left is bound to nothing
    by_contra hnone
    have hfinal := h.gone i hlen fun e he heq => by
      rw [← heq, h.stage e he] at hi
      exact hnone ⟨e, he, hi⟩
    rw [hfinal.branch?_eq_none] at hi
    cases hi
  · rw [h.unmade i (Nat.le_of_not_lt hlen)] at hi
    cases hi

theorem start (w : σ) : Books (⟨[], n, d, { world := w }⟩ : Muster (Numbered φ) (Trace σ φ)) where
  orderly := trivial
  holds := .nil _
  stage _ he := by cases he
  gone i hi := absurd hi (Nat.not_lt_zero i)
  unmade _ _ := rfl

theorem regroup (hR : R.Perm R') (h : Books ⟨R, n, d, w⟩) : Books ⟨R', n, d, w⟩ where
  orderly := h.orderly
  holds := h.holds.perm (hR.map _)
  stage e he := h.stage e (hR.mem_iff.mpr he)
  gone i hi hnot := h.gone i hi fun e he => hnot e (hR.mem_iff.mp he)
  unmade := h.unmade

theorem make {n' d' : Nat} (f : φ) (w' : σ) (h : Books ⟨R, n, d, w⟩) :
    Books ⟨(⟨w.facades.length, f⟩, .made) :: R, n', d',
      { w with world := w', facades := w.facades ++ [f] }⟩ := by
  constructor
  · exact h.orderly
  · exact h.holds.make f w'
  -- the new facade has the next number, under which nothing was called so far
  · intro e he
    rcases List.mem_cons.mp he with rfl | he
    · exact h.unmade _ (Nat.le_refl _)
    · exact h.stage e he
  · intro i hi hnot
    have hne : w.facades.length ≠ i := hnot _ List.mem_cons_self
    have hlen : i < w.facades.length := by
      rw [List.length_append, List.length_singleton] at hi
      omega
    exact h.gone i hlen fun e he => hnot e (List.mem_cons_of_mem _ he)
  · intro i hi
    have hlen : w.facades.length ≤ i := by
      rw [List.length_append, List.length_singleton] at hi
      omega
    exact h.unmade i hlen

theorem ofWorld {n' d' : Nat} (w' : σ) (h : Books ⟨R, n, d, w⟩) :
    Books ⟨R, n', d', { w with world := w' }⟩ :=
  ⟨h.orderly, h.holds.ofWorld w', h.stage, h.gone, h.unmade⟩

/-- A call that is permitted moves its facade to the next stage and no other. -/
theorem observe {n' d' : Nat} {t : Numbered φ} {q : Stage} {op : Operation}
    {call : φ → σ → Facade.Reply φ σ α} (hpermits : q.Permits (Binds ((t, q) :: R)) op)
    (h : Books ⟨(t, q) :: R, n, d, w⟩) :
    Books ⟨((Trace.observe op call t w).facade,
        q.after op (Trace.observe op call t w).answer.isOk) :: R, n', d',
      (Trace.observe op call t w).world⟩ := by
  have hmem : (t, q) ∈ (t, q) :: R := List.mem_cons_self
  have hq : w.events.stage t.number = q := h.stage _ hmem
  have hlt : t.number < w.facades.length := h.number_lt hmem
  have hstage : (Trace.observe op call t w).world.events.stage t.number =
      q.after op (Trace.observe op call t w).answer.isOk := by
    simp only [Trace.observe, History.stage, if_pos, hq, isOk_map_unit]
  have hother : ∀ i, t.number ≠ i →
      (Trace.observe op call t w).world.events.stage i = w.events.stage i := fun i hi =>
    History.stage_cons_of_ne _ hi
  constructor
  · -- the call is permitted in the roster, where more branches count as bound
    refine ⟨h.orderly, ?_⟩
    simp only [hq]
    exact hpermits.mono fun x hx => h.binds hx
  · exact h.holds.call op call
  · intro e he
    rcases List.mem_cons.mp he with rfl | he
    · exact hstage
    · rw [hother _ (h.ne_number he)]
      exact h.stage e (List.mem_cons_of_mem _ he)
  · intro i hi hnot
    have hi' : i < w.facades.length := by simpa [Trace.observe] using hi
    have hti : t.number ≠ i := hnot _ List.mem_cons_self
    rw [hother i hti]
    refine h.gone i hi' fun e he => ?_
    rcases List.mem_cons.mp he with rfl | he
    · exact hti
    · exact hnot e (List.mem_cons_of_mem _ he)
  · intro i hi
    have hi' : w.facades.length ≤ i := by simpa [Trace.observe] using hi
    rw [hother i (by omega)]
    exact h.unmade i hi'

theorem leave {e : Numbered φ × Stage} (hfinal : e.2.IsFinal) (h : Books ⟨e :: R, n, d, w⟩) :
    Books ⟨R, n, d, w⟩ where
  orderly := h.orderly
  holds := h.holds.tail
  stage e' he := h.stage e' (List.mem_cons_of_mem _ he)
  gone i hi hnot := by
    -- either this facade leaves now, or it left before
    by_cases heq : e.1.number = i
    · rw [← heq, h.stage e List.mem_cons_self]
      exact hfinal
    · refine h.gone i hi fun e' he => ?_
      rcases List.mem_cons.mp he with rfl | he
      · exact heq
      · exact hnot e' he
  unmade := h.unmade

/-- The books stay true whatever the provider does. -/
theorem duty {b : Backend γ σ φ κ} {closing : Bool} {m m' : Muster (Numbered φ) (Trace σ φ)}
    (hduty : Duty b.traced closing m m') (h : Books m) : Books m' := by
  cases hduty with
  | regroup hR => exact h.regroup hR
  | make hmake =>
    obtain ⟨f, world, -, rfl, rfl⟩ := Backend.create_traced_ok hmake
    exact h.make f world
  | notMade hmake =>
    obtain ⟨world, -, rfl⟩ := Backend.create_traced_error hmake
    exact h.ofWorld world
  | @work t q op R n d w hpermits hclose =>
    rw [Muster.afterCall, Backend.perform_traced]
    exact h.observe hpermits
  | leave hfinal => exact h.leave hfinal

/-- A provider that is not closing shuts no facade. -/
theorem shut_of_duty {b : Backend γ σ φ κ} {m m' : Muster (Numbered φ) (Trace σ φ)}
    (hduty : Duty b.traced false m m') (h : Books m) :
    m'.world.events.shut = m.world.events.shut := by
  cases hduty with
  | regroup hR => rfl
  | make hmake =>
    obtain ⟨f, world, -, rfl, rfl⟩ := Backend.create_traced_ok hmake
    rfl
  | notMade hmake =>
    obtain ⟨world, -, rfl⟩ := Backend.create_traced_error hmake
    rfl
  | @work t q op R n d w hpermits hclose =>
    rw [Muster.afterCall, Backend.perform_traced]
    -- outside of closing, only a facade that failed to start a branch is closed
    refine History.shut_cons_of_rejected h.orderly fun hop => ?_
    have hq : w.events.stage t.number = q := h.stage (t, q) List.mem_cons_self
    exact hq.trans ((hclose hop).resolve_right Bool.false_ne_true)
  | leave hfinal => rfl

variable {b : Backend γ σ φ κ} {closing : Bool}

theorem duties {m m' : Muster (Numbered φ) (Trace σ φ)} (hchain : Duties b.traced closing m m')
    (h : Books m) : Books m' := by
  induction hchain with
  | refl => exact h
  | tail _ hduty ih => exact ih.duty hduty

theorem shut_of_duties {m m' : Muster (Numbered φ) (Trace σ φ)}
    (hchain : Duties b.traced false m m') (h : Books m) :
    m'.world.events.shut = m.world.events.shut := by
  induction hchain with
  | refl => rfl
  | tail hinit hduty ih => exact ((h.duties hinit).shut_of_duty hduty).trans ih

/-- A call on a provider leaves its books true, and shuts no facade unless it
closes the pool. -/
theorem call (b : Backend γ σ φ κ) (c : Provider.Call) {p : Provider γ (Numbered φ)}
    {w : Trace σ φ} (h : Books (p.muster w)) :
    Books ((c.run b.traced p w).provider.muster (c.run b.traced p w).world) ∧
      (c.closes = false → (c.run b.traced p w).world.events.shut = w.events.shut) := by
  have hchain := Provider.run_duties (b := b.traced) c p w
  refine ⟨h.duties hchain, fun hc => ?_⟩
  rw [hc] at hchain
  exact h.shut_of_duties hchain

end Books

namespace Provider

/-- The books of a provider are true after every run. -/
theorem books_run (b : Backend γ σ φ κ) (act : ε → σ → σ) (ms : List (Move ε)) (factory : γ)
    (w : σ) :
    let s := run b.traced (Trace.lift act) ms (.fresh factory w)
    Books (s.provider.muster s.world) := by
  refine muster_induction (fun m m' hduty h => h.duty hduty) (fun e R n d w' h => ?_) ms ?_
  · exact h.ofWorld _
  · exact .start w

/-- Whether the facades of a traced provider have reached the stages of the
places where it holds them, and all others will not be called again. -/
structure State.Agrees (s : State γ (Numbered φ) (Trace σ φ)) : Prop where
  /-- Each facade is held once, as it is now. -/
  holds : s.world.Holds s.provider.facades
  /-- A branch counts as bound if the provider has a facade for it. -/
  binds : ∀ x, s.world.events.Binds x ↔ ∃ t, s.provider.boundFacade? x = some t
  active : ∀ x, s.provider.active? = some x → ∃ t, s.provider.boundFacade? x = some t
  bound : ∀ x t, s.provider.boundFacade? x = some t →
    s.world.events.stage t.number = if s.provider.active? = some x then .active x else .ended x
  idle : ∀ t ∈ s.provider.idle, s.world.events.stage t.number = .idle
  others : ∀ i < s.world.facades.length, (∀ t ∈ s.provider.facades, t.number ≠ i) →
    (s.world.events.stage i).IsFinal

theorem State.Agrees.ofBooks {s : State γ (Numbered φ) (Trace σ φ)}
    (h : Books (s.provider.muster s.world)) (hsound : s.provider.Sound) : s.Agrees := by
  -- the books name the stage of each facade that is bound, and the slot tells the active one
  have hstage : ∀ x t, s.provider.boundFacade? x = some t → s.world.events.stage t.number =
      if s.provider.active? = some x then .active x else .ended x := fun x t ht =>
    h.stage _ (mem_roster_of_bound ht)
  constructor
  · rw [← map_fst_roster]
    exact h.holds
  · intro x
    constructor
    · intro hx
      exact binds_roster.mp (h.binds hx)
    · rintro ⟨t, ht⟩
      refine ⟨t.number, ?_⟩
      rw [hstage x t ht]
      split <;> rfl
  · intro x hx
    exact hsound.active hx
  · exact hstage
  · intro t ht
    exact h.stage (t, .idle) (mem_roster_of_idle ht)
  · intro i hi hnot
    refine h.gone i hi fun e he heq => hnot e.1 ?_ heq
    rw [← map_fst_roster]
    exact List.mem_map_of_mem he

/-- Every call that a provider makes on a facade is permitted at the stage of
the facade, and the stages agree with what the provider holds.  Only its calls
`openUp` and `close` close facades that started all their branches. -/
theorem orderly_run (b : Backend γ σ φ κ) (act : ε → σ → σ) (ms : List (Move ε)) (factory : γ)
    (w : σ) :
    let s := run b.traced (Trace.lift act) ms (.fresh factory w)
    s.untraced = run b act ms ⟨.ofFactory factory, w⟩ ∧
      s.world.events.Orderly ∧
      s.Agrees ∧
      ∀ c : Call, c.closes = false → ∀ i,
        (c.run b.traced s.provider s.world).world.events.stage i = .closed →
          s.world.events.stage i = .closed := by
  intro s
  have hbooks : Books (s.provider.muster s.world) := books_run b act ms factory w
  have hsound : s.provider.Sound := sound_run ms (sound_ofFactory factory)
  refine ⟨untraced_run b act ms factory w, hbooks.orderly, .ofBooks hbooks hsound, ?_⟩
  intro c hc i hi
  obtain ⟨hbooks', hshut⟩ := hbooks.call b c
  -- a call that closes nothing shuts nothing, so what is closed afterwards was closed before
  exact (History.mem_shut_iff hbooks.orderly).mp
    (hshut hc ▸ (History.mem_shut_iff hbooks'.orderly).mpr hi)

end Provider

end BranchPool
