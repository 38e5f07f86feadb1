/-
What happens to the facades of a deployment.

* `Handling` — what may happen to one of many facades: it is made, receives a
  call, or is dropped.  Each move of a deployment is a chain of these;
* `Trace.Step` — what that means for a trace, whoever holds the facade;
* `Deployment.trace_induction` — a property of traces that steps preserve holds
  after every run of a deployment.
-/
import BranchPool.Proofs.Deployment
import BranchPool.Proofs.Provider.Duty
import Mathlib.Data.List.Perm.Basic

namespace BranchPool

open Facade

variable {γ σ φ κ ε : Type}

/-- What may happen to one of the facades that somebody holds. -/
inductive Handling (b : Backend γ σ φ κ) : List φ × σ → List φ × σ → Prop where
  | regroup {H H' w} (h : H.Perm H') : Handling b (H, w) (H', w)
  | make {c f H w w'} (h : b.create c w = (.ok f, w')) : Handling b (H, w) (f :: H, w')
  | notMade {c e H w w'} (h : b.create c w = (.error e, w')) : Handling b (H, w) (H, w')
  | call (op : Operation) {f H w} :
    Handling b (f :: H, w) ((b.perform op f w).facade :: H, (b.perform op f w).world)
  | drop {f H w} : Handling b (f :: H, w) (H, w)

/-- A chain of handlings. -/
abbrev Handlings (b : Backend γ σ φ κ) : List φ × σ → List φ × σ → Prop :=
  Relation.ReflTransGen (Handling b)

namespace Handlings

variable {b : Backend γ σ φ κ}

theorem regroup {H H' : List φ} (h : H.Perm H') (w : σ) : Handlings b (H, w) (H', w) :=
  .single (.regroup h)

/-- Facades that nobody holds any longer were dropped. -/
theorem drop {H K : List φ} (w : σ) : Handlings b (H ++ K, w) (K, w) := by
  induction H with
  | nil => exact .refl
  | cons f H ih => exact .head .drop ih

theorem preserve {I : List φ × σ → Prop} (hhandling : ∀ s s', Handling b s s' → I s → I s')
    {s s' : List φ × σ} (hchain : Handlings b s s') (h : I s) : I s' := by
  induction hchain with
  | refl => exact h
  | tail _ hstep ih => exact hhandling _ _ hstep ih

end Handlings

/-! ### Providers -/

/-- A duty is something that happens to one of the facades, whichever others
there are. -/
theorem Duty.handling {b : Backend γ σ φ κ} {closing : Bool} {m m' : Muster φ σ}
    (h : Duty b closing m m') (K : List φ) :
    Handling b (m.roster.map Prod.fst ++ K, m.world) (m'.roster.map Prod.fst ++ K, m'.world) := by
  cases h with
  | regroup hR => exact .regroup ((hR.map _).append_right K)
  | make hmake => exact .make hmake
  | notMade hmake => exact .notMade hmake
  | work hpermits hclose => exact .call _
  | leave hfinal => exact .drop

theorem Duties.handlings {b : Backend γ σ φ κ} {closing : Bool} {m m' : Muster φ σ}
    (h : Duties b closing m m') (K : List φ) :
    Handlings b (m.roster.map Prod.fst ++ K, m.world) (m'.roster.map Prod.fst ++ K, m'.world) := by
  induction h with
  | refl => exact .refl
  | tail _ hduty ih => exact ih.tail (hduty.handling K)

theorem Provider.run_handlings (b : Backend γ σ φ κ) (c : Call) (p : Provider γ φ) (w : σ)
    (K : List φ) :
    Handlings b (p.facades ++ K, w) ((c.run b p w).provider.facades ++ K, (c.run b p w).world) := by
  rw [← map_fst_roster, ← map_fst_roster]
  exact (run_duties c p w).handlings K

/-! ### Deployments -/

namespace Deployment

variable {b : Backend γ σ φ κ} {act : ε → σ → σ}

theorem held_perm_of_provider {D : Deployment γ φ σ} {i : Nat} {p : Provider γ φ}
    (hi : D.providers[i]? = some p) :
    D.held.Perm (p.facades ++ ((D.providers.eraseIdx i).flatMap (·.facades) ++ D.facades)) := by
  obtain ⟨hlt, rfl⟩ := List.getElem?_eq_some_iff.mp hi
  have hperm := (List.getElem_cons_eraseIdx_perm hlt).symm.flatMap_right (·.facades)
  rw [List.flatMap_cons] at hperm
  rw [held, ← List.append_assoc]
  exact hperm.append_right _

theorem held_set_provider {D : Deployment γ φ σ} {i : Nat} (hi : i < D.providers.length)
    (p : Provider γ φ) (w : σ) :
    (held { D with providers := D.providers.set i p, world := w }).Perm
      (p.facades ++ ((D.providers.eraseIdx i).flatMap (·.facades) ++ D.facades)) := by
  have hperm := (List.set_perm_cons_eraseIdx hi p).flatMap_right (·.facades)
  rw [List.flatMap_cons] at hperm
  rw [held, ← List.append_assoc]
  exact hperm.append_right _

theorem held_perm_of_facade {D : Deployment γ φ σ} {i : Nat} {f : φ}
    (hi : D.facades[i]? = some f) :
    D.held.Perm (f :: (D.providers.flatMap (·.facades) ++ D.facades.eraseIdx i)) := by
  obtain ⟨hlt, rfl⟩ := List.getElem?_eq_some_iff.mp hi
  exact ((List.getElem_cons_eraseIdx_perm hlt).symm.append_left _).trans List.perm_middle

theorem held_set_facade {D : Deployment γ φ σ} {i : Nat} (hi : i < D.facades.length) (f : φ)
    (w : σ) :
    (held { D with facades := D.facades.set i f, world := w }).Perm
      (f :: (D.providers.flatMap (·.facades) ++ D.facades.eraseIdx i)) :=
  ((List.set_perm_cons_eraseIdx hi f).append_left _).trans List.perm_middle

/-- Each move of a deployment is a chain of handlings, or a change to the
world by others. -/
theorem apply_handlings (b : Backend γ σ φ κ) (act : ε → σ → σ) (D : Deployment γ φ σ)
    (m : Move γ ε) :
    (∃ e, m = .environment e) ∨
      Handlings b (D.held, D.world) ((m.apply b act D).held, (m.apply b act D).world) := by
  cases m with
  | environment e => exact .inl ⟨e, rfl⟩
  | addProvider factory =>
    -- a new provider has no facades yet
    right
    have hheld : held { D with providers := D.providers ++ [.ofFactory factory] } = D.held := by
      simp [held, Provider.ofFactory, Provider.facades]
    simp only [Move.apply, hheld]
    exact .refl
  | dropProvider i =>
    right
    simp only [Move.apply]
    cases hi : D.providers[i]? with
    | none => rw [List.eraseIdx_of_length_le (List.getElem?_eq_none_iff.mp hi)]
    | some p => exact (Handlings.regroup (held_perm_of_provider hi) _).trans (Handlings.drop _)
  | callProvider i c =>
    right
    simp only [Move.apply]
    cases hi : D.providers[i]? with
    | none => exact .refl
    | some p =>
      have hlt : i < D.providers.length := (List.getElem?_eq_some_iff.mp hi).1
      -- the facades of the provider come first, and the others are not touched
      refine (Handlings.regroup (held_perm_of_provider hi) _).trans ?_
      refine (Provider.run_handlings b c p D.world _).trans ?_
      exact Handlings.regroup (held_set_provider hlt _ _).symm _
  | reorder i order =>
    right
    simp only [Move.apply]
    cases hi : D.providers[i]? with
    | none => exact .refl
    | some p =>
      have hlt : i < D.providers.length := (List.getElem?_eq_some_iff.mp hi).1
      have horder : p.facades.Perm (p.reorder order).facades := by
        rw [← Provider.map_fst_roster, ← Provider.map_fst_roster]
        exact (p.roster_reorder order).map _
      refine Handlings.regroup ((held_perm_of_provider hi).trans ?_) _
      exact (horder.append_right _).trans (held_set_provider hlt _ D.world).symm
  | addFacade factory =>
    right
    simp only [Move.apply]
    rcases hmake : b.create factory D.world with ⟨e | f, w⟩
    · exact .single (.notMade hmake)
    · refine .tail (.single (.make hmake)) (.regroup ?_)
      rw [held, held, ← List.append_assoc]
      exact (List.perm_append_singleton f _).symm
  | dropFacade i =>
    right
    simp only [Move.apply]
    cases hi : D.facades[i]? with
    | none => rw [List.eraseIdx_of_length_le (List.getElem?_eq_none_iff.mp hi)]
    | some f => exact (Handlings.regroup (held_perm_of_facade hi) _).tail .drop
  | callFacade i op =>
    right
    simp only [Move.apply]
    cases hi : D.facades[i]? with
    | none => exact .refl
    | some f =>
      have hlt : i < D.facades.length := (List.getElem?_eq_some_iff.mp hi).1
      refine ((Handlings.regroup (held_perm_of_facade hi) _).tail (.call op)).tail ?_
      exact .regroup (held_set_facade hlt _ _).symm

/-- A property of the facades that are held, and of the world, holds after
every run if handlings and others preserve it. -/
theorem held_induction {I : List φ × σ → Prop} (hhandling : ∀ s s', Handling b s s' → I s → I s')
    (henvironment : ∀ e H w, I (H, w) → I (H, act e w)) (ms : List (Move γ ε))
    {D : Deployment γ φ σ} (h : I (D.held, D.world)) :
    I ((run b act ms D).held, (run b act ms D).world) := by
  refine List.foldlRecOn (motive := fun D : Deployment γ φ σ => I (D.held, D.world)) ms _ h
    fun D hD m _ => ?_
  obtain ⟨e, rfl⟩ | hchain := apply_handlings b act D m
  · exact henvironment e _ _ hD
  · exact hchain.preserve hhandling hD

end Deployment

/-! ### Traces -/

namespace Trace

/-- A step of a trace: a facade is made, or could not be made, or receives a
call. -/
inductive Step (b : Backend γ σ φ κ) : Trace σ φ → Trace σ φ → Prop where
  | made {c f world w} (h : b.create c w.world = (.ok f, world)) :
    Step b w { w with world, facades := w.facades ++ [f] }
  | notMade {c e world w} (h : b.create c w.world = (.error e, world)) :
    Step b w { w with world }
  | called (op : Operation) {i f w} (h : w.facades[i]? = some f) :
    Step b w (Trace.observe op (b.perform op) ⟨i, f⟩ w).world

namespace Holds

variable {w : Trace σ φ} {H : List (Numbered φ)}

/-- What happens to a facade that is held is a step of the trace, if it is seen
there at all. -/
theorem handling {b : Backend γ σ φ κ} {s s' : List (Numbered φ) × Trace σ φ}
    (hhandling : Handling b.traced s s') (h : s.2.Holds s.1) :
    s'.2.Holds s'.1 ∧ (s'.2 = s.2 ∨ Step b s.2 s'.2) := by
  cases hhandling with
  | regroup hH => exact ⟨h.perm hH, .inl rfl⟩
  | make hmake =>
    obtain ⟨f, world, hcreate, rfl, rfl⟩ := Backend.create_traced_ok hmake
    exact ⟨h.make f world, .inr (.made hcreate)⟩
  | notMade hmake =>
    obtain ⟨world, hcreate, rfl⟩ := Backend.create_traced_error hmake
    exact ⟨h.ofWorld world, .inr (.notMade hcreate)⟩
  | @call op t H w =>
    simp only [Backend.perform_traced]
    -- the facade that is called is the one that the trace has under that number
    exact ⟨h.call op _, .inr (.called op (h.current t List.mem_cons_self))⟩
  | drop => exact ⟨h.tail, .inl rfl⟩

end Holds

end Trace

namespace Deployment

variable {b : Backend γ σ φ κ} {act : ε → σ → σ}

/-- A property of traces holds after every run of a deployment if steps and
others preserve it; and the facades that are held are those of the trace. -/
theorem trace_induction (b : Backend γ σ φ κ) (act : ε → σ → σ) {I : Trace σ φ → Prop}
    (hstep : ∀ w w', Trace.Step b w w' → I w → I w')
    (henvironment : ∀ e w, I w → I (Trace.lift act e w)) (ms : List (Move γ ε)) (w : σ)
    (h : I { world := w }) :
    let D := run b.traced (Trace.lift act) ms { world := { world := w } }
    I D.world ∧ D.world.Holds D.held := by
  refine held_induction (I := fun s => I s.2 ∧ s.2.Holds s.1) (fun s s' hhandling hs => ?_)
    (fun e H w hw => ?_) ms ⟨h, .nil _⟩
  · obtain ⟨hholds, hsame | hnext⟩ := hs.2.handling hhandling
    · exact ⟨hsame ▸ hs.1, hholds⟩
    · exact ⟨hstep _ _ hnext hs.1, hholds⟩
  · exact ⟨henvironment e w hw.1, hw.2.ofWorld _⟩

end Deployment

/-- The same for a provider that nobody else shares its world with. -/
theorem Provider.trace_induction (b : Backend γ σ φ κ) (act : ε → σ → σ) {I : Trace σ φ → Prop}
    (hstep : ∀ w w', Trace.Step b w w' → I w → I w')
    (henvironment : ∀ e w, I w → I (Trace.lift act e w)) (ms : List (Move ε)) (factory : γ) (w : σ)
    (h : I { world := w }) :
    I (run b.traced (Trace.lift act) ms (.fresh factory w)).world := by
  refine (muster_induction (I := fun m => I m.world ∧ m.world.Holds (m.roster.map Prod.fst ++ []))
    (fun m m' hduty hm => ?_) (fun e R n d w hw => ?_) ms (s := .fresh factory w) ⟨h, .nil _⟩).1
  · obtain ⟨hholds, hsame | hnext⟩ := hm.2.handling (hduty.handling [])
    · exact ⟨Eq.subst (motive := I) hsame.symm hm.1, hholds⟩
    · exact ⟨hstep _ _ hnext hm.1, hholds⟩
  · exact ⟨henvironment e w hw.1, hw.2.ofWorld _⟩

end BranchPool
