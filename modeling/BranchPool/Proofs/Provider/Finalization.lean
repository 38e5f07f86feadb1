/-
A branch is finished: what becomes of the pool, and what the caller is told.

* `Provider.Passes` — the caller is told what the facade answered;
* `Provider.Made` — what may come of making a facade, in a trace;
* `Provider.finish_spec` — one facade is called once, whichever it is, and the
  pool is afterwards as it was but for that facade.
-/
import BranchPool.Proofs.Provider.Course
import BranchPool.Proofs.Trace
import BranchPool.ResourceManager.Session

namespace BranchPool.Provider

open Facade

variable {γ σ φ κ : Type}

/-- Whether a call that finishes a branch leaves behind what the facade does, and
passes on what it answers. -/
structure Passes (how : Finish) (x : Xid) (a : Facade.Reply φ σ Unit) (r : Reply γ φ σ Unit) :
    Prop where
  world : r.world = a.world
  ok : r.answer = .ok () ↔ a.answer = .ok ()
  error : ∀ e, a.answer = .error e → r.answer = .error (.transient (.ofFinish how) (some x) e)

/-- What may come of making a facade, in a trace: the facade, with the number
that comes next, or else the failure to make it or to open it. -/
inductive Made (b : Backend γ σ φ κ) (factory : γ) (w : Trace σ φ) :
    Except Facade.Error (Numbered φ) → Trace σ φ → Prop where
  | notCreated {e world} (hcreate : b.create factory w.world = (.error e, world)) :
    Made b factory w (.error e) { w with world }
  | notOpened {f world t w' e} (hcreate : b.create factory w.world = (.ok f, world))
      (hopen : Trace.observe .openUp b.openUp ⟨w.facades.length, f⟩
        { w with world, facades := w.facades ++ [f] } = ⟨.error e, t, w'⟩) :
    Made b factory w (.error e) w'
  | opened {f world t w'} (hcreate : b.create factory w.world = (.ok f, world))
      (hopen : Trace.observe .openUp b.openUp ⟨w.facades.length, f⟩
        { w with world, facades := w.facades ++ [f] } = ⟨.ok (), t, w'⟩) :
    Made b factory w (.ok t) w'

theorem made_makeFacade (b : Backend γ σ φ κ) (factory : γ) (w : Trace σ φ) :
    Made b factory w (makeFacade b.traced factory w).1 (makeFacade b.traced factory w).2 := by
  rw [makeFacade]
  rcases hcreate : b.traced.create factory w with ⟨e | t, w'⟩
  · obtain ⟨world, hbeneath, rfl⟩ := Backend.create_traced_error hcreate
    exact .notCreated hbeneath
  · obtain ⟨f, world, hbeneath, rfl, rfl⟩ := Backend.create_traced_ok hcreate
    rcases hopen : b.traced.openUp ⟨w.facades.length, f⟩
        { w with world, facades := w.facades ++ [f] } with ⟨e | u, t, w'⟩
    · simp only [hopen]
      exact .notOpened hbeneath hopen
    · simp only [hopen]
      exact .opened hbeneath hopen

variable {b : Backend γ σ φ κ}

theorem passes_concludeFinish (how : Finish) (x : Xid) (a : Facade.Reply φ σ Unit)
    (p : Provider γ φ) : Passes how x a (concludeFinish how x a.answer p a.world) := by
  obtain ⟨answer, f, w⟩ := a
  cases answer with
  | ok u => exact ⟨rfl, ⟨fun _ => rfl, fun _ => rfl⟩, nofun⟩
  | error e =>
    refine ⟨rfl, ⟨nofun, nofun⟩, ?_⟩
    rintro _ ⟨⟩
    rfl

/-- A branch is finished by its own facade, which leaves the branch and is idle
afterwards. -/
theorem finish_spec_bound {how : Finish} {x : Xid} {p : Provider γ φ} {f : φ}
    (hmay : p.MayFinish how x) (hf : p.boundFacade? x = some f) (w : σ) :
    let a := b.finish how x f w
    let r := p.finish b how x w
    Passes how x a r ∧ r.provider.idle = p.idle ++ [a.facade] ∧
      (∀ y, r.provider.boundFacade? y = if y = x then none else p.boundFacade? y) ∧
      r.provider.active? = if p.active? = some x then none else p.active? := by
  obtain ⟨factory, _ | s, tally⟩ := p
  · cases hf
  have hended : ¬(needsEnded how = true ∧ s.active = some x) := fun h => hmay.2 h.1 h.2
  have hget : s.bound.get? x = some f := hf
  intro a r
  have hr : r = concludeFinish how x a.answer
      ⟨factory, some ((s.without x).offerIdle a.facade), tally⟩ a.world :=
    finish_bound hended hget w
  -- whatever the answer, the pool is the same; it only decides the counters
  have hpool : r.provider.pool = some ((s.without x).offerIdle a.facade) := by
    rw [hr, pool_concludeFinish]
  refine ⟨?_, ?_, fun y => ?_, ?_⟩
  · rw [hr]
    exact passes_concludeFinish how x a _
  · rw [idle, hpool]
    rfl
  · rw [boundFacade?, bound, hpool]
    exact BranchMap.get?_erase s.bound x y
  · rw [active?, hpool]
    rfl

/-- A facade that is lent finishes the branch and stays at the head of the queue,
whether it was idle or was made just now. -/
theorem finish_spec_lent {how : Finish} {x : Xid} {s : Pool φ} {factory : γ} {tally tally' : Tally}
    {f : φ} {rest : List φ} {w w' : σ} (hborrows : (Call.finish how x).Borrows s)
    (htake : takeIdle b s ⟨factory, some s, tally.addUnmapped⟩ w = (.ok (f, rest, tally'), w')) :
    let a := b.finish how x f w'
    let r := finish b how x ⟨factory, some s, tally⟩ w
    Passes how x a r ∧ r.provider.idle = a.facade :: rest ∧ r.provider.bound = s.bound ∧
      r.provider.active? = s.active := by
  intro a r
  have hr : r = concludeFinish how x a.answer
      ⟨factory, some { s with idle := a.facade :: rest }, tally'⟩ a.world :=
    finish_lent hborrows.1 hborrows.2 htake
  have hpool : r.provider.pool = some { s with idle := a.facade :: rest } := by
    rw [hr, pool_concludeFinish]
  refine ⟨?_, ?_, ?_, ?_⟩
  · rw [hr]
    exact passes_concludeFinish how x a _
  · rw [idle, hpool]
    rfl
  · rw [bound, hpool]
    rfl
  · rw [active?, hpool]
    rfl

/-- A branch that may be finished is finished by one call on one facade: its own,
which goes to the tail of the queue, or else the head of the queue, which stays
there, or else a new one.  The caller is told what that facade answered, or that
no facade could be made, in which case the pool stays as it was. -/
theorem finish_spec (b : Backend γ σ φ κ) {how : Finish} {x : Xid} {p : Provider γ (Numbered φ)}
    (hmay : p.MayFinish how x) (w : Trace σ φ) :
    let call := Trace.observe (.finish how x) (b.finish how x)
    let r := p.finish b.traced how x w
    (p.map Numbered.value).finish b how x w.world = r.image Numbered.value Trace.world ∧
      (∀ t, p.boundFacade? x = some t →
        Passes how x (call t w) r ∧ r.provider.idle = p.idle ++ [(call t w).facade] ∧
        (∀ y, r.provider.boundFacade? y = if y = x then none else p.boundFacade? y) ∧
        r.provider.active? = if p.active? = some x then none else p.active?) ∧
      (p.boundFacade? x = none →
        r.provider.bound = p.bound ∧ r.provider.active? = p.active? ∧
        (∀ t rest, p.idle = t :: rest →
          Passes how x (call t w) r ∧ r.provider.idle = (call t w).facade :: rest) ∧
        (p.idle = [] →
          (∃ e, Made b p.factory w (.error e) r.world ∧ r.answer = .error (.creation e) ∧
            r.provider.idle = []) ∨
          ∃ t w', Made b p.factory w (.ok t) w' ∧ Passes how x (call t w') r ∧
            r.provider.idle = [(call t w').facade])) := by
  intro call r
  refine ⟨b.traced_translation.finish_provider how x p w,
    fun t ht => finish_spec_bound (b := b.traced) hmay ht w, fun hnone => ?_⟩
  -- from here on the branch has no facade, and the queue decides which one is lent
  obtain ⟨factory, _ | s, tally⟩ := p
  · cases hmay.1
  have hborrows : (Call.finish how x).Borrows s := ⟨fun h => hmay.2 h.1 h.2, hnone⟩
  cases hidle : s.idle with
  | cons t rest =>
    have htake : takeIdle b.traced s ⟨factory, some s, tally.addUnmapped⟩ w =
        (.ok (t, rest, tally.addUnmapped), w) := by
      simp only [takeIdle, hidle]
    obtain ⟨hpasses, hqueue, hbound, hactive⟩ := finish_spec_lent hborrows htake
    refine ⟨hbound, hactive, fun u us hu => ?_, fun hempty => ?_⟩
    · cases hidle.symm.trans hu
      exact ⟨hpasses, hqueue⟩
    · cases hidle.symm.trans hempty
  | nil =>
    have hmade := made_makeFacade b factory w
    rcases hmake : makeFacade b.traced factory w with ⟨e | t, w'⟩
    · -- no facade can be made: the branch is not finished, and nothing but a counter has changed
      have htake : takeIdle b.traced s ⟨factory, some s, tally.addUnmapped⟩ w = (.error e, w') := by
        simp only [takeIdle, hidle, hmake]
      have hr : r = ⟨.error (.creation e), ⟨factory, some s, tally.addUnmapped⟩, w'⟩ :=
        finish_unmade hborrows.1 hborrows.2 htake
      rw [hmake] at hmade
      rw [hr]
      refine ⟨rfl, rfl, fun u us hu => ?_, fun _ => .inl ⟨e, hmade, rfl, hidle⟩⟩
      cases hidle.symm.trans hu
    · -- the new facade finishes the branch and is then the only idle one
      have htake : takeIdle b.traced s ⟨factory, some s, tally.addUnmapped⟩ w =
          (.ok (t, [], tally.addUnmapped.addCreated), w') := by
        simp only [takeIdle, hidle, hmake]
      obtain ⟨hpasses, hqueue, hbound, hactive⟩ := finish_spec_lent hborrows htake
      rw [hmake] at hmade
      refine ⟨hbound, hactive, fun u us hu => ?_, fun _ => .inr ⟨t, w', hmade, hpasses, hqueue⟩⟩
      cases hidle.symm.trans hu

/-- A prepared branch is committed by its facade, which is then idle. -/
theorem finish_spec_of_prepared :
    let b := ResourceManager.backend
    let x : Xid := ⟨1, [], [], by decide, by decide⟩
    let s : State _ _ _ := run b.traced (Trace.lift Empty.elim)
      [.call .openUp, .call (.start x), .call (.endAndPrepare x)] (.fresh default {})
    let r := s.provider.finish b.traced (.commit false) x s.world
    s.provider.MayFinish (.commit false) x ∧ r.answer = .ok () ∧
      r.provider.idle.map Numbered.number = [0] ∧ r.provider.boundFacade? x = none := by
  intro b x s r
  have hmay : s.provider.MayFinish (.commit false) x := ⟨rfl, fun _ => by decide⟩
  have ht : s.provider.boundFacade? x = some ⟨0, ⟨default, true, none, none⟩⟩ := by rfl
  obtain ⟨-, hbound, -⟩ := finish_spec b hmay s.world
  obtain ⟨hpasses, hidle, hmap, -⟩ := hbound _ ht
  refine ⟨hmay, hpasses.ok.mpr rfl, ?_, (hmap x).trans (if_pos rfl)⟩
  rw [hidle]
  rfl

end BranchPool.Provider
