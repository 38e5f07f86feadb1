/-
A backend that is nothing but a register of the prepared branches.

Its facades are always ready, so every call succeeds, except that a branch which is not in
the register can be neither committed nor rolled back.  Of a facade it is known only whether
it has a data connection.

* `Register.enter`, `Register.strike` — a branch is prepared, and finished;
* `Register.backend` — the backend;
* `Backend.Follows` — whether another backend answers a pool as the register does.

Design note: a pool over the register tells what a pool shows if nothing goes wrong.  Backends
are compared with it and not with each other, so that each is looked at on its own.
-/
import BranchPool.Proofs.Provider.Contract
import BranchPool.Proofs.Provider.Translation
import BranchPool.Proofs.XidOrder

namespace BranchPool

open Facade

variable {γ σ φ κ : Type}

/-- Prepared branches, in ascending order. -/
abbrev Register := List Xid

namespace Register

variable {l : Register} {x y : Xid}

/-- The register with a branch in it. -/
def enter (x : Xid) (l : Register) : Register := Xid.sort (x :: l.filter (· ≠ x))

/-- The register without a branch. -/
def strike (x : Xid) (l : Register) : Register := l.filter (· ≠ x)

/-- What a call to finish a branch is answered. -/
def settle (how : Finish) (x : Xid) (l : Register) : Except Facade.Error Unit :=
  if x ∈ l ∨ how = .commit true ∨ how = .failAndRollback then .ok () else .error (.unknownBranch x)

theorem settle_of_mem (h : x ∈ l) (how : Finish) : settle how x l = .ok () := if_pos (.inl h)

theorem settle_failAndRollback (x : Xid) (l : Register) : settle .failAndRollback x l = .ok () :=
  if_pos (.inr (.inr rfl))

theorem mem_enter : y ∈ enter x l ↔ y = x ∨ y ∈ l := by
  rw [enter, (Xid.sort_perm _).mem_iff, List.mem_cons, List.mem_filter, decide_eq_true_eq]
  by_cases hy : y = x <;> simp [hy]

theorem mem_strike : y ∈ strike x l ↔ y ∈ l ∧ y ≠ x := by
  rw [strike, List.mem_filter, decide_eq_true_eq]

theorem pairwise_enter (h : l.Pairwise (· < ·)) (x : Xid) : (enter x l).Pairwise (· < ·) := by
  refine Xid.pairwise_sort (List.nodup_cons.mpr ⟨by simp, List.Nodup.filter _ (h.imp ?_)⟩)
  rintro y _ hlt rfl
  exact Xid.lt_irrefl y hlt

theorem pairwise_strike (h : l.Pairwise (· < ·)) (x : Xid) : (strike x l).Pairwise (· < ·) :=
  h.filter _

theorem strike_of_not_mem (h : x ∉ l) : strike x l = l := by
  refine List.filter_eq_self.mpr fun y hy => ?_
  rw [decide_eq_true_eq]
  rintro rfl
  exact h hy

/-- The register as a backend. -/
def backend : Backend Unit Register Bool Unit where
  create _ l := (.ok false, l)
  openUp linked l := ⟨.ok (), linked, l⟩
  close _ l := ⟨.ok (), false, l⟩
  isOpen _ _ := true
  start _ linked l := ⟨.ok (), linked, l⟩
  endAndPrepare x linked l := ⟨.ok (), linked, l.enter x⟩
  finish how x linked l := ⟨l.settle how x, linked, l.strike x⟩
  recover linked l := ⟨.ok l, linked, l⟩
  connection? linked _ := if linked then some () else none
  isConnectionValid linked l := ⟨.ok linked, linked, l⟩
  establishConnection _ l := ⟨.ok (), true, l⟩
  closeConnection _ l := (false, l)
  reestablishConnection _ l := ⟨.ok (), true, l⟩

end Register

/-- What a backend owes to be no different from the register: `Sane` tells whether nothing is
in the way of its calls, `Busy` which branches are in use, `Fits` what a facade is at a stage,
and the others what is seen of a facade and of the world.  A branch that has no facade may be
started only if it is not prepared. -/
structure Backend.Follows (b : Backend γ σ φ κ) (Sane : σ → Prop) (Busy : σ → Xid → Prop)
    (Fits : σ → Stage → φ → Prop) (linked : φ → Bool) (register : σ → Register) : Prop where
  /-- A facade can always be made, and no other one notices. -/
  create : ∀ c {w}, Sane w → ∃ f w', b.create c w = (.ok f, w') ∧ linked f = false ∧
    register w' = register w ∧ Sane w' ∧ (∀ x, Busy w' x → Busy w x) ∧ Fits w' .made f ∧
    ∀ q t, Fits w q t → Fits w' q t
  /-- A permitted call moves its facade to the next stage, and puts no other branch in use. -/
  call : ∀ {bound q op w f}, q.Permits bound op → Sane w → Fits w q f →
    let r := b.perform op f w
    Sane r.world ∧ Fits r.world (q.after op r.answer.isOk) r.facade ∧
      ∀ x, Busy r.world x →
        (q.after op r.answer.isOk).branch? = some x ∨ Busy w x ∧ q.branch? ≠ some x
  /-- A facade bound to another branch does not notice a call. -/
  others : ∀ {bound q op w f q' f'}, q.Permits bound op → Fits w q f → Fits w q' f' →
    (∀ x, q'.branch? = some x → q.branch? ≠ some x ∧ op.branch? ≠ some x) →
    Fits (b.perform op f w).world q' f'
  /-- A permitted call is answered as by the register, if the branches in use have facades. -/
  answer : ∀ {bound q op w f}, q.Permits bound op → Sane w → (∀ x, Busy w x → bound x) →
    Fits w q f → (∀ x, op = .start x → x ∉ register w) →
    Register.backend.perform op (linked f) (register w) = (b.perform op f w).image linked register
  recover : ∀ {w f}, Sane w → Fits w .idle f → (b.recover f w).answer = .ok (register w)
  ask : ∀ f w, (b.askConnection f w).1.isSome = linked f
  check : ∀ {w f x}, Sane w → Fits w (.active x) f →
    (b.isConnectionValid f w).answer = .ok (linked f)

/-- What a pool over a backend that follows the register keeps true: no facade is other than it
should be, and each branch that is in use has one. -/
structure Backend.Follows.Kept (Sane : σ → Prop) (Busy : σ → Xid → Prop)
    (Fits : σ → Stage → φ → Prop) (m : Muster φ σ) : Prop where
  spread : m.Spread
  sane : Sane m.world
  busy : ∀ x, Busy m.world x → Binds m.roster x
  fits : ∀ e ∈ m.roster, Fits m.world e.2 e.1

namespace Backend.Follows

variable {b : Backend γ σ φ κ} {Sane : σ → Prop} {Busy : σ → Xid → Prop}
  {Fits : σ → Stage → φ → Prop} {linked : φ → Bool} {register : σ → Register} {closing : Bool}
  {m m' : Muster φ σ}

theorem Kept.start {n d : Nat} {w : σ} (hsane : Sane w) (hidle : ∀ x, ¬Busy w x) :
    Kept Sane Busy Fits ⟨[], n, d, w⟩ where
  spread := .nil
  sane := hsane
  busy x hx := absurd hx (hidle x)
  fits _ he := absurd he List.not_mem_nil

theorem kept_duty (hfollows : b.Follows Sane Busy Fits linked register)
    (hduty : Duty b closing m m') (h : Kept Sane Busy Fits m) : Kept Sane Busy Fits m' := by
  have hspread := h.spread.duty hduty
  cases hduty with
  | regroup hR =>
    exact ⟨hspread, h.sane, fun x hx => (Binds.perm hR).mp (h.busy x hx),
      fun e he => h.fits e (hR.mem_iff.mpr he)⟩
  | @make c f R n d w w' hmake =>
    obtain ⟨g, w₁, hcreate, -, -, hsane, hbusy, hmade, hkeep⟩ := hfollows.create c h.sane
    obtain ⟨heq, rfl⟩ := Prod.mk.inj (hmake.symm.trans hcreate)
    cases heq
    refine ⟨hspread, hsane, fun x hx => ?_, fun e he => ?_⟩
    · obtain ⟨e, he, hbranch⟩ := h.busy x (hbusy x hx)
      exact ⟨e, List.mem_cons_of_mem _ he, hbranch⟩
    · rcases List.mem_cons.mp he with rfl | he
      · exact hmade
      · exact hkeep _ _ (h.fits e he)
  | @notMade c e R n d w w' hmake =>
    obtain ⟨g, w₁, hcreate, -⟩ := hfollows.create c h.sane
    rw [hmake] at hcreate
    cases hcreate
  | @work f q op R n d w hpermits hclose =>
    have hfits := h.fits (f, q) List.mem_cons_self
    obtain ⟨hsane, hnext, hbusy⟩ := hfollows.call hpermits h.sane hfits
    refine ⟨hspread, hsane, fun x hx => ?_, fun e he => ?_⟩
    · -- a branch in use is that of the facade called, or has another one
      rcases hbusy x hx with hbranch | ⟨hold, hnot⟩
      · exact ⟨_, List.mem_cons_self, hbranch⟩
      · obtain ⟨e, he, hbranch⟩ := h.busy x hold
        rcases List.mem_cons.mp he with rfl | he
        · exact absurd hbranch hnot
        · exact ⟨e, List.mem_cons_of_mem _ he, hbranch⟩
    · rcases List.mem_cons.mp he with rfl | he
      · exact hnext
      · exact hfollows.others hpermits hfits (h.fits e (List.mem_cons_of_mem _ he))
          fun x hx => h.spread.ne_of_permits hpermits he hx
  | @leave f q R n d w hfinal =>
    refine ⟨hspread, h.sane, fun x hx => ?_, fun e he => h.fits e (List.mem_cons_of_mem _ he)⟩
    obtain ⟨e, he, hbranch⟩ := h.busy x hx
    rcases List.mem_cons.mp he with rfl | he
    · rw [hfinal.branch?_eq_none] at hbranch
      cases hbranch
    · exact ⟨e, he, hbranch⟩

theorem kept_duties (hfollows : b.Follows Sane Busy Fits linked register)
    (hduties : Duties b closing m m') (h : Kept Sane Busy Fits m) : Kept Sane Busy Fits m' := by
  induction hduties with
  | refl => exact h
  | tail _ hstep ih => exact hfollows.kept_duty hstep ih

/-- A facade of a pool answers as the register does. -/
theorem Kept.answer (hfollows : b.Follows Sane Busy Fits linked register)
    (h : Kept Sane Busy Fits m) {f : φ} {q : Stage} (hmem : (f, q) ∈ m.roster) (op : Operation)
    (hpermits : q.Permits (Binds m.roster) op)
    (hfresh : ∀ x, op = .start x → x ∉ register m.world) :
    Register.backend.perform op (linked f) (register m.world) =
      (b.perform op f m.world).image linked register :=
  hfollows.answer hpermits h.sane h.busy (h.fits _ hmem) hfresh

end Backend.Follows

end BranchPool
