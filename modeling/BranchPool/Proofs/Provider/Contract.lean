/-
What a backend promises of the facades of a pool.

* `Backend.Contract` — a description of facades by stage that holds of a facade
  when it is made, is kept by the calls that it may receive at its stage, and is
  kept by calls on facades that are bound to other branches;
* `Provider.contract_run` — the description is right for each facade of a
  provider after every run, and every answer was an allowed one.

Design note: a backend has to be looked at only one call on one facade at a
time.  That the facades of a pool do not meet on a branch is shown here, once.
-/
import BranchPool.Proofs.Provider.Conduct

namespace BranchPool

open Facade

variable {γ σ φ κ ε : Type}

/-- Whether two stages are not those of facades bound to the same branch. -/
def Facade.Stage.Apart (q q' : Stage) : Prop :=
  ∀ x, q.branch? = some x → q'.branch? ≠ some x

theorem Facade.Stage.Apart.symm {q q' : Stage} (h : q.Apart q') : q'.Apart q :=
  fun x hx' hx => h x hx hx'

/-- `Fits w q ok f` tells what a facade `f` at stage `q` is in a world `w`, if
`ok` tells whether the latest call on it succeeded; `Allowed op answer` tells
which answers to a call there may be. -/
structure Backend.Contract (b : Backend γ σ φ κ) (Fits : σ → Stage → Bool → φ → Prop)
    (Allowed : Operation → Except Facade.Error Unit → Prop) : Prop where
  made : ∀ {c w f w' ok}, b.create c w = (.ok f, w') → Fits w' .made ok f
  create : ∀ c {w q ok f}, Fits w q ok f → Fits (b.create c w).2 q ok f
  call : ∀ {bound q op w ok f}, q.Permits bound op → Fits w q ok f →
    let r := b.perform op f w
    Allowed op r.answer ∧ Fits r.world (q.after op r.answer.isOk) r.answer.isOk r.facade
  others : ∀ {bound q op w ok f q' ok' f'}, q.Permits bound op → Fits w q ok f → Fits w q' ok' f' →
    (∀ x, q'.branch? = some x → q.branch? ≠ some x ∧ op.branch? ≠ some x) →
    Fits (b.perform op f w).world q' ok' f'

/-- Whether no two facades of a muster are bound to the same branch. -/
def Muster.Spread (m : Muster φ σ) : Prop :=
  m.roster.Pairwise fun e e' => e.2.Apart e'.2

namespace Muster.Spread

variable {b : Backend γ σ φ κ} {closing : Bool} {R : List (φ × Stage)} {f : φ} {q : Stage}
  {n d : Nat} {w : σ}

/-- A call that is permitted neither names nor binds a branch of another
facade. -/
theorem ne_of_permits {op : Operation} (h : Spread ⟨(f, q) :: R, n, d, w⟩)
    (hpermits : q.Permits (Binds ((f, q) :: R)) op) {e : φ × Stage} (he : e ∈ R) {x : Xid}
    (hx : e.2.branch? = some x) : q.branch? ≠ some x ∧ op.branch? ≠ some x := by
  have hq : q.branch? ≠ some x := fun hq => (List.pairwise_cons.mp h).1 e he x hq hx
  refine ⟨hq, fun hop => ?_⟩
  rcases hpermits.branch? hop with hbranch | hnot
  · exact hq hbranch
  · exact hnot ⟨e, List.mem_cons_of_mem _ he, hx⟩

theorem duty {m m' : Muster φ σ} (hduty : Duty b closing m m') (h : m.Spread) : m'.Spread := by
  cases hduty with
  | regroup hR => exact (hR.pairwise_iff fun {_ _} hapart => hapart.symm).mp h
  | make hmake =>
    refine List.pairwise_cons.mpr ⟨fun e he x hx => ?_, h⟩
    cases hx
  | notMade hmake => exact h
  | @work f q op R n d w hpermits hclose =>
    -- a branch that is bound by the call had no facade before
    obtain ⟨hq, hR⟩ := List.pairwise_cons.mp h
    refine List.pairwise_cons.mpr ⟨fun e he x hx hx' => ?_, hR⟩
    rcases hpermits.branch?_after hx with hbranch | hnot
    · exact hq e he x hbranch hx'
    · exact hnot ⟨e, List.mem_cons_of_mem _ he, hx'⟩
  | leave hfinal => exact (List.pairwise_cons.mp h).2

end Muster.Spread

/-- Whether a traced provider has its books right, and a contract was kept. -/
structure Backend.Contract.Kept (Fits : σ → Stage → Bool → φ → Prop)
    (Allowed : Operation → Except Facade.Error Unit → Prop) (m : Muster (Numbered φ) (Trace σ φ)) : Prop where
  books : Books m
  spread : m.Spread
  fits : ∀ e ∈ m.roster,
    Fits m.world.world e.2 (m.world.events.lastOk e.1.number) e.1.value
  allowed : ∀ e ∈ m.world.events, Allowed e.operation e.answer

namespace Backend.Contract

variable {b : Backend γ σ φ κ} {Fits : σ → Stage → Bool → φ → Prop}
  {Allowed : Operation → Except Facade.Error Unit → Prop}

theorem kept_duty (hcontract : b.Contract Fits Allowed) {closing : Bool}
    {m m' : Muster (Numbered φ) (Trace σ φ)} (hduty : Duty b.traced closing m m')
    (h : Kept Fits Allowed m) : Kept Fits Allowed m' := by
  have hbooks := h.books.duty hduty
  have hspread := h.spread.duty hduty
  cases hduty with
  | regroup hR => exact ⟨hbooks, hspread, fun e he => h.fits e (hR.mem_iff.mpr he), h.allowed⟩
  | @make c t R n d w w' hmake =>
    obtain ⟨f, world, hcreate, rfl, rfl⟩ := Backend.create_traced_ok hmake
    refine ⟨hbooks, hspread, fun e he => ?_, h.allowed⟩
    rcases List.mem_cons.mp he with rfl | he
    · exact hcontract.made hcreate
    · have hfits := hcontract.create c (h.fits e he)
      rwa [hcreate] at hfits
  | @notMade c e R n d w w' hmake =>
    obtain ⟨world, hcreate, rfl⟩ := Backend.create_traced_error hmake
    refine ⟨hbooks, hspread, fun e he => ?_, h.allowed⟩
    have hfits := hcontract.create c (h.fits e he)
    rwa [hcreate] at hfits
  | @work t q op R n d w hpermits hclose =>
    -- the facade that is called moves to its next stage, the others are apart
    have hfits := h.fits (t, q) List.mem_cons_self
    have hcall := hcontract.call hpermits hfits
    simp only [Muster.afterCall, Backend.perform_traced] at hbooks hspread ⊢
    refine ⟨hbooks, hspread, fun e he => ?_, fun e he => ?_⟩
    · rcases List.mem_cons.mp he with rfl | he
      · have hlast := History.lastOk_cons_self w.events
          ⟨t.number, op, (b.perform op t.value w.world).answer.map fun _ => ()⟩
        simp only [Trace.observe, hlast, isOk_map_unit]
        exact hcall.2
      · simp only [Trace.observe]
        rw [History.lastOk_cons_of_ne w.events (h.books.ne_number he)]
        refine hcontract.others hpermits hfits (h.fits e (List.mem_cons_of_mem _ he)) ?_
        exact fun x hx => h.spread.ne_of_permits hpermits he hx
    · rcases List.mem_cons.mp he with rfl | he
      · simp only [map_unit]
        exact hcall.1
      · exact h.allowed e he
  | leave hfinal =>
    exact ⟨hbooks, hspread, fun e he => h.fits e (List.mem_cons_of_mem _ he), h.allowed⟩

end Backend.Contract

/-- A contract is kept in every run, if it stands what others do to the
world. -/
theorem Provider.contract_run {b : Backend γ σ φ κ} {Fits : σ → Stage → Bool → φ → Prop}
    {Allowed : Operation → Except Facade.Error Unit → Prop} (hcontract : b.Contract Fits Allowed)
    (act : ε → σ → σ) (hact : ∀ e {w q ok f}, Fits w q ok f → Fits (act e w) q ok f)
    (ms : List (Move ε)) (factory : γ) (w : σ) :
    let s := run b.traced (Trace.lift act) ms (.fresh factory w)
    Backend.Contract.Kept Fits Allowed (s.provider.muster s.world) := by
  refine muster_induction (fun m m' hduty h => hcontract.kept_duty hduty h)
    (fun e R n d w' h => ?_) ms ?_
  · exact ⟨h.books.ofWorld _, h.spread, fun e' he => hact e (h.fits e' he), h.allowed⟩
  · refine ⟨.start w, List.Pairwise.nil, fun e he => ?_, fun e he => ?_⟩
    · cases he
    · cases he

end BranchPool
