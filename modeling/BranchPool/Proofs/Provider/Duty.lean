/-
What a provider does with its facades, one step at a time.

A *duty* is a step from one muster to the next: a facade is made, or receives
one call that its stage permits, or leaves for good.

* `Provider.run_duties` — each call on a provider is a chain of duties, and
  only `openUp` and `close` close facades that are in use;
* `Provider.muster_induction` — a property of musters that duties preserve
  holds after every run.

Design note: this is where the calls of a provider are taken apart.  What is
shown of duties need not look at the calls again.
-/
import BranchPool.Proofs.Provider.Muster
import Mathlib.Logic.Relation

namespace BranchPool

open Facade

variable {γ σ φ κ ε α : Type}

/-- The muster after a call on its first facade. -/
def Muster.afterCall (b : Backend γ σ φ κ) (op : Operation) (f : φ) (q : Stage)
    (R : List (φ × Stage)) (n d : Nat) (w : σ) : Muster φ σ :=
  let r := b.perform op f w
  { roster := (r.facade, q.after op r.answer.isOk) :: R
    created := n + op.creates r.answer.isOk
    discarded := d + op.discards r.answer.isOk
    world := r.world }

/-- A step of a provider.  Unless it is `closing`, a facade is closed only if it
did not start a branch. -/
inductive Duty (b : Backend γ σ φ κ) (closing : Bool) : Muster φ σ → Muster φ σ → Prop where
  | regroup {R R' n d w} (h : R.Perm R') : Duty b closing ⟨R, n, d, w⟩ ⟨R', n, d, w⟩
  | make {c f R n d w w'} (h : b.create c w = (.ok f, w')) :
    Duty b closing ⟨R, n, d, w⟩ ⟨(f, .made) :: R, n, d, w'⟩
  | notMade {c e R n d w w'} (h : b.create c w = (.error e, w')) :
    Duty b closing ⟨R, n, d, w⟩ ⟨R, n, d, w'⟩
  | work {f q op R n d w} (hpermits : q.Permits (Binds ((f, q) :: R)) op)
      (hclose : op = .close → q = .rejected ∨ closing = true) :
    Duty b closing ⟨(f, q) :: R, n, d, w⟩ (.afterCall b op f q R n d w)
  | leave {f q R n d w} (h : q.IsFinal) : Duty b closing ⟨(f, q) :: R, n, d, w⟩ ⟨R, n, d, w⟩

theorem Duty.closing {b : Backend γ σ φ κ} {closing : Bool} {m m' : Muster φ σ}
    (h : Duty b closing m m') : Duty b true m m' := by
  cases h with
  | regroup h => exact .regroup h
  | make h => exact .make h
  | notMade h => exact .notMade h
  | work hpermits _ => exact .work hpermits fun _ => .inr rfl
  | leave h => exact .leave h

/-- A chain of steps. -/
abbrev Duties (b : Backend γ σ φ κ) (closing : Bool) : Muster φ σ → Muster φ σ → Prop :=
  Relation.ReflTransGen (Duty b closing)

namespace Duties

variable {b : Backend γ σ φ κ} {closing : Bool} {R R' : List (φ × Stage)} {n d : Nat} {w : σ}

theorem regroup (h : R.Perm R') : Duties b closing ⟨R, n, d, w⟩ ⟨R', n, d, w⟩ :=
  .single (.regroup h)

/-- A call on one facade, wherever it stands, if it is known whether the call
succeeds. -/
theorem call {f : φ} {q : Stage} {op : Operation} {ok : Bool} {R₀ : List (φ × Stage)}
    (hR : R.Perm ((f, q) :: R₀)) (hok : (b.perform op f w).answer.isOk = ok)
    (hpermits : q.Permits (Binds R) op) (hclose : op = .close → q = .rejected ∨ closing = true)
    (hR' : R'.Perm (((b.perform op f w).facade, q.after op ok) :: R₀)) :
    Duties b closing ⟨R, n, d, w⟩
      ⟨R', n + op.creates ok, d + op.discards ok, (b.perform op f w).world⟩ := by
  subst hok
  -- fewer facades are in sight here than in `R`, which permits the call as well
  have hwork : q.Permits (Binds ((f, q) :: R₀)) op :=
    hpermits.mono fun x hx => (Binds.perm hR).mpr hx
  exact ((regroup hR).tail (.work hwork hclose)).tail (.regroup hR'.symm)

/-- A call after which the facade leaves. -/
theorem lastCall {f : φ} {q : Stage} {op : Operation} {ok : Bool}
    (hok : (b.perform op f w).answer.isOk = ok)
    (hpermits : q.Permits (Binds ((f, q) :: R)) op)
    (hclose : op = .close → q = .rejected ∨ closing = true) (hfinal : (q.after op ok).IsFinal) :
    Duties b closing ⟨(f, q) :: R, n, d, w⟩
      ⟨R, n + op.creates ok, d + op.discards ok, (b.perform op f w).world⟩ :=
  (call (.refl _) hok hpermits hclose (.refl _)).tail (.leave hfinal)

end Duties

namespace Provider

variable {b : Backend γ σ φ κ} {closing : Bool} {R : List (φ × Stage)} {n d : Nat}

/-! ### A facade for a branch -/

theorem isOk_of_eq_ok {a : Except Facade.Error α} {u : α} (h : a = .ok u) : a.isOk = true := by
  rw [h]
  rfl

theorem isOk_of_eq_error {a : Except Facade.Error α} {e : Facade.Error} (h : a = .error e) :
    a.isOk = false := by
  rw [h]
  rfl

/-- A facade that was made is opened; if that fails it is left alone. -/
theorem duties_makeFacade (c : γ) (w : σ) :
    Duties b closing ⟨R, n, d, w⟩
      (match makeFacade b c w with
        | (.ok f, w') => ⟨(f, .idle) :: R, n + 1, d, w'⟩
        | (.error _, w') => ⟨R, n, d, w'⟩) := by
  rw [makeFacade]
  rcases hc : b.create c w with ⟨e | f, w₀⟩
  · exact .single (.notMade hc)
  · have hmake : Duties b closing ⟨R, n, d, w⟩ ⟨(f, .made) :: R, n, d, w₀⟩ := .single (.make hc)
    dsimp only
    cases ho : (b.openUp f w₀).answer with
    | error e =>
      have hopen : (b.perform .openUp f w₀).answer.isOk = false := isOk_of_eq_error ho
      -- the facade could not be opened: that was its last call, and nobody holds it
      exact hmake.trans (Duties.lastCall (q := .made) hopen trivial (by simp) trivial)
    | ok u =>
      have hopen : (b.perform .openUp f w₀).answer.isOk = true := isOk_of_eq_ok ho
      exact hmake.trans (Duties.call (q := .made) (.refl _) hopen trivial (by simp) (.refl _))

/-- The idle facade that is taken, whether it was made just now or not, stands
beside those that stay. -/
theorem duties_takeIdle (s : Pool φ) (p : Provider γ φ) (w : σ) :
    Duties b closing ⟨s.roster, p.tally.facadesCreated, p.tally.facadesDiscarded, w⟩
      (match takeIdle b s p w with
        | (.ok (f, rest, tally), w') =>
          ⟨(f, .idle) :: Pool.roster { s with idle := rest }, tally.facadesCreated,
            tally.facadesDiscarded, w'⟩
        | (.error _, w') =>
          ⟨s.roster, p.tally.facadesCreated, p.tally.facadesDiscarded, w'⟩) := by
  rw [takeIdle]
  cases hidle : s.idle with
  | cons f rest => exact .regroup (Pool.roster_idle hidle)
  | nil =>
    have hmake : Duties b closing
        ⟨s.roster, p.tally.facadesCreated, p.tally.facadesDiscarded, w⟩ _ :=
      duties_makeFacade p.factory w
    rcases hmade : makeFacade b p.factory w with ⟨e | f, w'⟩
    · rw [hmade] at hmake
      exact hmake
    · rw [hmade] at hmake
      -- the queue was empty, so the new facade stands beside the whole pool
      have hempty : ({ s with idle := [] } : Pool φ) = s := by rw [← hidle]
      dsimp only
      rw [hempty]
      exact hmake

theorem not_binds_idle {s : Pool φ} {f : φ} {x : Xid} (hx : s.bound.get? x = none) :
    ¬Binds ((f, .idle) :: s.roster) x := by
  rintro ⟨e, he, hbranch⟩
  rcases List.mem_cons.mp he with rfl | he
  · cases hbranch
  · obtain ⟨g, hg⟩ := s.binds_roster.mp ⟨e, he, hbranch⟩
    rw [hx] at hg
    cases hg

theorem duties_startOn {x : Xid} {f : φ} {s : Pool φ} {p : Provider γ φ} {w : σ}
    (hactive : s.active = none) (hx : s.bound.get? x = none) :
    Duties b closing
      ⟨(f, .idle) :: s.roster, p.tally.facadesCreated, p.tally.facadesDiscarded, w⟩
      ((startOn b x f s p w).provider.muster (startOn b x f s p w).world) := by
  have hpermits : Stage.idle.Permits (Binds ((f, .idle) :: s.roster)) (.start x) :=
    not_binds_idle hx
  rw [startOn]
  cases hr : (b.start x f w).answer with
  | ok u =>
    have hok : (b.perform (.start x) f w).answer.isOk = true := isOk_of_eq_ok hr
    have hget : (s.bindActive x (b.start x f w).facade).bound.get? x =
        some (b.start x f w).facade :=
      BranchMap.get?_insert_self _ _ _
    have hroster := Pool.roster_perm hget
    rw [Pool.without_bindActive hactive hx, Pool.stageOf_active rfl] at hroster
    exact Duties.call (.refl _) hok hpermits (by simp) hroster
  | error e =>
    have hok : (b.perform (.start x) f w).answer.isOk = false := isOk_of_eq_error hr
    -- the facade is in neither place of the pool, so closing it is its last call
    refine (Duties.call (.refl _) hok hpermits (by simp) (.refl _)).trans ?_
    have hclose : (b.perform .close (b.start x f w).facade (b.start x f w).world).answer.isOk = _ :=
      rfl
    exact Duties.lastCall (q := .rejected) hclose trivial (fun _ => .inl rfl) trivial

/-! ### The calls -/

theorem duties_start (x : Xid) (p : Provider γ φ) (w : σ) :
    Duties b closing (p.muster w) ((p.start b x w).provider.muster (p.start b x w).world) := by
  obtain ⟨factory, _ | s, tally⟩ := p
  · exact .refl
  obtain ⟨idle, bound, active⟩ := s
  cases active with
  | some y => exact .refl
  | none =>
    simp only [start]
    split
    · exact .refl
    -- the branch is bound to no facade, so a facade may be asked to start it
    · rename_i hcontains
      have hx : bound.get? x = none :=
        bound.contains_eq_false_iff.mp (by simpa using hcontains)
      have hchain : Duties b closing _ _ := duties_takeIdle ⟨idle, bound, none⟩
        ⟨factory, some ⟨idle, bound, none⟩, tally⟩ w
      rcases htake : takeIdle b ⟨idle, bound, none⟩ ⟨factory, some ⟨idle, bound, none⟩, tally⟩ w with
        ⟨_ | ⟨f, rest, tally'⟩, w'⟩
      · rw [htake] at hchain
        exact hchain
      · rw [htake] at hchain
        refine hchain.trans ?_
        exact duties_startOn (p := ⟨factory, some ⟨idle, bound, none⟩, tally'⟩) rfl hx

theorem duties_endAndPrepare (x : Xid) (p : Provider γ φ) (w : σ) :
    Duties b closing (p.muster w)
      ((p.endAndPrepare b x w).provider.muster (p.endAndPrepare b x w).world) := by
  obtain ⟨factory, _ | s, tally⟩ := p
  · exact .refl
  cases hactive : s.active with
  | none =>
    simp only [endAndPrepare, hactive]
    exact .refl
  | some y =>
    simp only [endAndPrepare, hactive]
    split
    swap
    · exact .refl
    rename_i hy
    subst hy
    cases hget : s.bound.get? y with
    | none =>
      -- a branch without a facade has no stage to lose
      have hroster : s.clearActive.roster = s.roster := by
        rw [← Pool.roster_without_of_get?_eq_none hget,
          ← Pool.roster_without_of_get?_eq_none (s := s.clearActive) hget,
          Pool.without_clearActive hactive]
      simp only [refuse, muster, roster, Option.map_some, Option.getD_some, hroster]
      exact .refl
    | some f =>
      have hperm := Pool.roster_perm hget
      rw [Pool.stageOf_active hactive] at hperm
      have hperm' := Pool.roster_end hget hactive (b.endAndPrepare y f w).facade
      have hcall : Duties b closing ⟨s.roster, tally.facadesCreated, tally.facadesDiscarded, w⟩
          ⟨_, tally.facadesCreated, tally.facadesDiscarded, (b.endAndPrepare y f w).world⟩ :=
        Duties.call hperm (rfl : (b.perform (.endAndPrepare y) f w).answer.isOk = _) rfl (by simp)
          hperm'
      dsimp only
      cases (b.endAndPrepare y f w).answer <;> exact hcall

theorem permits_finish {s : Pool φ} {how : Finish} {x : Xid}
    (h : ¬(needsEnded how ∧ s.active = some x)) :
    (s.stageOf x).Permits (Binds s.roster) (.finish how x) := by
  by_cases hactive : s.active = some x
  · rw [Pool.stageOf_active hactive]
    refine ⟨rfl, ?_⟩
    cases how with
    | failAndRollback => rfl
    | _ => exact absurd ⟨rfl, hactive⟩ h
  · rw [Pool.stageOf_ended hactive]
    rfl

theorem muster_concludeFinish (how : Finish) (x : Xid) (answer : Except Facade.Error Unit)
    (p : Provider γ φ) (w : σ) :
    (concludeFinish how x answer p w).provider.muster (concludeFinish how x answer p w).world =
      p.muster w := by
  cases answer with
  | ok u => cases how <;> rfl
  | error e => rfl

theorem duties_finish (how : Finish) (x : Xid) (p : Provider γ φ) (w : σ) :
    Duties b closing (p.muster w)
      ((p.finish b how x w).provider.muster (p.finish b how x w).world) := by
  obtain ⟨factory, _ | s, tally⟩ := p
  · exact .refl
  simp only [finish, peekIdle_andThen]
  split
  · exact .refl
  rename_i hended
  rw [Pool.unbind?_eq]
  cases hget : s.bound.get? x with
  | some f =>
    -- the facade of the branch goes to the queue, whatever it answers
    simp only [Option.map_some, muster_concludeFinish]
    have hafter : (s.stageOf x).after (.finish how x) (b.finish how x f w).answer.isOk = .idle := by
      rw [Pool.stageOf]
      split <;> rfl
    have hperm := (s.without x).roster_offerIdle (b.finish how x f w).facade
    rw [← hafter] at hperm
    exact Duties.call (Pool.roster_perm hget)
      (rfl : (b.perform (.finish how x) f w).answer.isOk = _) (permits_finish hended) (by simp) hperm
  | none =>
    -- an idle facade finishes the branch, and goes back to the head of the queue
    simp only [Option.map_none]
    have hchain : Duties b closing _ _ :=
      duties_takeIdle s ⟨factory, some s, tally.addUnmapped⟩ w
    rcases htake : takeIdle b s ⟨factory, some s, tally.addUnmapped⟩ w with
      ⟨_ | ⟨f, rest, tally'⟩, w'⟩
    · rw [htake] at hchain
      exact hchain
    · rw [htake] at hchain
      simp only [muster_concludeFinish]
      refine hchain.trans ?_
      exact Duties.call (q := .idle) (.refl _)
        (rfl : (b.perform (.finish how x) f w').answer.isOk = _)
        (not_binds_idle (s := { s with idle := rest }) hget) (by simp)
        (Pool.roster_idle (s := { s with idle := (b.finish how x f w').facade :: rest }) rfl)

theorem duties_recover (p : Provider γ φ) (w : σ) :
    Duties b closing (p.muster w) ((p.recover b w).provider.muster (p.recover b w).world) := by
  obtain ⟨factory, _ | s, tally⟩ := p
  · exact .refl
  simp only [recover, peekIdle_andThen]
  have hchain : Duties b closing _ _ := duties_takeIdle s ⟨factory, some s, tally⟩ w
  rcases htake : takeIdle b s ⟨factory, some s, tally⟩ w with ⟨_ | ⟨f, rest, tally'⟩, w'⟩
  · rw [htake] at hchain
    exact hchain
  · rw [htake] at hchain
    -- the facade is back at the head of the queue after one call, at the same stage
    have hcall : Duties b closing
        ⟨(f, .idle) :: Pool.roster { s with idle := rest }, tally'.facadesCreated,
          tally'.facadesDiscarded, w'⟩
        ⟨_, tally'.facadesCreated, tally'.facadesDiscarded, (b.recover f w').world⟩ :=
      Duties.call (q := .idle) (.refl _) (rfl : (b.perform .recover f w').answer.isOk = _) trivial
        (by simp) (Pool.roster_idle (s := { s with idle := (b.recover f w').facade :: rest }) rfl)
    dsimp only
    cases (b.recover f w').answer <;> exact hchain.trans hcall

theorem duties_withActive (operation : String) (use : DataUse)
    {call : φ → σ → Facade.Reply φ σ α}
    (hcall : ∀ f w, b.perform (.useData use) f w = (call f w).map fun _ => ()) (p : Provider γ φ)
    (w : σ) :
    Duties b closing (p.muster w)
      ((withActive operation call p w).provider.muster (withActive operation call p w).world) := by
  obtain ⟨factory, _ | s, tally⟩ := p
  · exact .refl
  simp only [withActive]
  cases hfacade : s.activeFacade? with
  | none => exact .refl
  | some e =>
    obtain ⟨x, f⟩ := e
    obtain ⟨hactive, hget⟩ := Pool.activeFacade?_eq_some hfacade
    -- the facade of the active branch is called where it stands
    have hperm := Pool.roster_perm hget
    have hperm' := Pool.roster_update hget (call f w).facade
    rw [Pool.stageOf_active hactive] at hperm hperm'
    have hchain : Duties b closing ⟨s.roster, tally.facadesCreated, tally.facadesDiscarded, w⟩
        ⟨Pool.roster { s with bound := s.bound.update x (call f w).facade }, tally.facadesCreated,
          tally.facadesDiscarded, (b.perform (.useData use) f w).world⟩ := by
      refine Duties.call hperm (rfl : (b.perform (.useData use) f w).answer.isOk = _) trivial
        (by simp) ?_
      rw [hcall]
      exact hperm'
    rw [hcall] at hchain
    exact hchain

theorem duties_useData (use : DataUse) (p : Provider γ φ) (w : σ) :
    Duties b closing (p.muster w)
      ((Call.run b (.useData use) p w).provider.muster (Call.run b (.useData use) p w).world) := by
  cases use with
  | ask => exact duties_withActive "connection" .ask (fun _ _ => rfl) p w
  | check => exact duties_withActive "is_connection_valid" .check (fun _ _ => rfl) p w
  | establish =>
    exact duties_withActive "get_or_establish_connection" .establish (fun _ _ => rfl) p w
  | drop => exact duties_withActive "close_connection" .drop (fun _ _ => rfl) p w
  | reestablish => exact duties_withActive "reestablish_connection" .reestablish (fun _ _ => rfl) p w

/-- Facades in use are closed one after the other, whatever they answer. -/
theorem duties_closeAll {R : List (φ × Stage)} (hR : ∀ e ∈ R, e.2.IsHeld) (w : σ) :
    Duties b true ⟨R, n, d, w⟩ ⟨[], n, d, (closeAll b (R.map Prod.fst) w).2⟩ := by
  induction R generalizing w with
  | nil => exact .refl
  | cons e R ih =>
    obtain ⟨f, q⟩ := e
    have hq : q.IsHeld := hR (f, q) (by simp)
    -- each facade is closed while it is held, and leaves the roster with that call
    have hclose : Duties b true ⟨(f, q) :: R, n, d, w⟩ ⟨R, n, d, (b.close f w).world⟩ :=
      Duties.lastCall (rfl : (b.perform .close f w).answer.isOk = _) (hq.permits_close _)
        (fun _ => .inr rfl) (by rw [hq.after_close]; trivial)
    have hrest := ih (fun e he => hR e (List.mem_cons_of_mem _ he)) (b.close f w).world
    rw [List.map_cons, closeAll]
    cases (b.close f w).answer <;> exact hclose.trans hrest

theorem duties_openUp (p : Provider γ φ) (w : σ) :
    Duties b true (p.muster w) ((p.openUp b w).provider.muster (p.openUp b w).world) := by
  rw [openUp]
  cases p.active? with
  | some x => exact .refl
  | none =>
    have hclose := duties_closeAll (b := b) (n := p.tally.facadesCreated)
      (d := p.tally.facadesDiscarded) (fun e he => isHeld_of_mem_roster (p := p) he) w
    rw [map_fst_roster] at hclose
    exact hclose

theorem duties_close (p : Provider γ φ) (w : σ) :
    Duties b true (p.muster w) ((p.close b w).provider.muster (p.close b w).world) := by
  obtain ⟨factory, _ | s, tally⟩ := p
  · exact .refl
  have hclose := duties_closeAll (b := b) (n := tally.facadesCreated)
    (d := tally.facadesDiscarded) (fun e he => Pool.isHeld_of_mem_roster (s := s) he) w
  rw [Pool.map_fst_roster] at hclose
  exact hclose

/-- Each call on a provider is a chain of duties, and only a call that closes
the pool closes facades that are in use. -/
theorem run_duties (c : Provider.Call) (p : Provider γ φ) (w : σ) :
    Duties b c.closes (p.muster w) ((c.run b p w).provider.muster (c.run b p w).world) := by
  cases c with
  | openUp => exact duties_openUp p w
  | close => exact duties_close p w
  | start x => exact duties_start x p w
  | endAndPrepare x => exact duties_endAndPrepare x p w
  | finish how x => exact duties_finish how x p w
  | recover => exact duties_recover p w
  | useData use => exact duties_useData use p w

/-! ### Runs -/

theorem roster_reorder (p : Provider γ φ) (order : List Xid) :
    p.roster.Perm (p.reorder order).roster := by
  obtain ⟨factory, _ | s, tally⟩ := p
  · exact .refl _
  · exact ((s.bound.entries_arrange_perm order).symm.map _).append_right _

/-- A property of musters that holds at the start of a run, and is preserved by
duties and by what others do to the world, holds at its end. -/
theorem muster_induction {act : ε → σ → σ} {I : Muster φ σ → Prop}
    (hduty : ∀ m m', Duty b true m m' → I m → I m')
    (henvironment : ∀ e R n d w, I ⟨R, n, d, w⟩ → I ⟨R, n, d, act e w⟩) (ms : List (Move ε))
    {s : State γ φ σ} (h : I (s.provider.muster s.world)) :
    I ((run b act ms s).provider.muster (run b act ms s).world) := by
  have hduties : ∀ {m m' closing}, Duties b closing m m' → I m → I m' := by
    intro m m' closing hchain hm
    induction hchain with
    | refl => exact hm
    | tail _ hstep ih => exact hduty _ _ hstep.closing ih
  -- a call is a chain of duties, and a new order of the map is one duty
  refine List.foldlRecOn (motive := fun s : State γ φ σ => I (s.provider.muster s.world)) ms _ h
    fun s hs m _ => ?_
  obtain ⟨p, w⟩ := s
  cases m with
  | call c => exact hduties (run_duties c p w) hs
  | environment e => exact henvironment e _ _ _ w hs
  | reorder order => exact hduty _ _ (.regroup (roster_reorder p order)) hs

end Provider

end BranchPool
