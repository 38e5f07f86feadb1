/-
What a facade is at each stage, whatever the world is like.

A contract may speak of the world, and so it is kept only while nobody else works
there.  A *description* speaks of the facade alone.

* `Backend.Describes` — a facade is as described when it is made, and each call
  that its stage permits leaves it so;
* `Backend.Describes.lasting` — then every facade of a provider is as described,
  however many others share the world.
-/
import BranchPool.Proofs.Provider.Duty
import BranchPool.Proofs.Trace

namespace BranchPool

open Facade

variable {γ σ φ κ : Type}

/-- `P q f` tells what a facade `f` is at stage `q`. -/
structure Backend.Describes (b : Backend γ σ φ κ) (P : Stage → φ → Prop) : Prop where
  made : ∀ {c w f w'}, b.create c w = (.ok f, w') → P .made f
  call : ∀ {bound q op f} (w : σ), q.Permits bound op → P q f →
    P (q.after op (b.perform op f w).answer.isOk) (b.perform op f w).facade

/-- Whether each facade that a provider holds is as described. -/
def Provider.Described (P : Stage → φ → Prop) (p : Provider γ φ) : Prop :=
  ∀ e ∈ p.roster, P e.2 e.1

namespace Backend.Describes

variable {b : Backend γ σ φ κ} {P : Stage → φ → Prop}

theorem duty (hb : b.Describes P) {closing : Bool} {m m' : Muster φ σ}
    (hduty : Duty b closing m m') (h : ∀ e ∈ m.roster, P e.2 e.1) : ∀ e ∈ m'.roster, P e.2 e.1 := by
  intro e he
  cases hduty with
  | regroup hR => exact h e (hR.mem_iff.mpr he)
  | make hmake =>
    rcases List.mem_cons.mp he with rfl | he
    · exact hb.made hmake
    · exact h e he
  | notMade hmake => exact h e he
  -- only the facade that is called changes its stage; what is said of the others holds on
  | @work f q op R n d w hpermits hclose =>
    rcases List.mem_cons.mp he with rfl | he
    · exact hb.call w hpermits (h (f, q) List.mem_cons_self)
    · exact h e (List.mem_cons_of_mem _ he)
  | leave hfinal => exact h e (List.mem_cons_of_mem _ he)

theorem duties (hb : b.Describes P) {closing : Bool} {m m' : Muster φ σ}
    (hchain : Duties b closing m m') (h : ∀ e ∈ m.roster, P e.2 e.1) :
    ∀ e ∈ m'.roster, P e.2 e.1 := by
  induction hchain with
  | refl => exact h
  | tail _ hduty ih => exact hb.duty hduty ih

theorem lasting (hb : b.Describes P) : Provider.Lasting b (Provider.Described P) where
  start factory e he := by cases he
  call c p w h := hb.duties (Provider.run_duties c p w) h
  reorder order p h e he := h e ((p.roster_reorder order).mem_iff.mpr he)
  refit factory p h := h

/-- A description of facades is one of numbered facades. -/
theorem traced (hb : b.Describes P) : b.traced.Describes fun q t => P q t.value where
  made hcreate := by
    obtain ⟨f, world, hmade, rfl, -⟩ := Backend.create_traced_ok hcreate
    exact hb.made hmade
  call w hpermits h := by
    rw [Backend.perform_traced]
    exact hb.call w.world hpermits h

end Backend.Describes

end BranchPool
