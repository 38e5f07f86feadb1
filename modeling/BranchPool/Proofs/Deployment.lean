/-
Deployments: providers and facades that share one world.

A deployment is a number of providers, and of facades that are used without one.
Each may be added at any time, and dropped at any time without being closed, as
in a crash.

* `Deployment.run` — a deployment after a list of moves;
* `Deployment.lasting_apply` — what lasts for a provider lasts for all of them;
* `Deployment.untraced_run_eq` — the trace of a run changes nothing in it.
-/
import BranchPool.Proofs.Trace
import Mathlib.Data.List.InsertIdx

namespace BranchPool

open Facade

variable {γ σ τ φ ψ κ ε : Type}

/-- Providers, facades that are used directly, and the world that they share. -/
structure Deployment (γ φ σ : Type) where
  providers : List (Provider γ φ) := []
  facades : List φ := []
  world : σ

namespace Deployment

/-- What can happen next. -/
inductive Move (γ ε : Type) where
  /-- Others act on the world. -/
  | environment (e : ε)
  | addProvider (factory : γ)
  | dropProvider (i : Nat)
  | callProvider (i : Nat) (c : Provider.Call)
  /-- The branch map of a provider takes another order. -/
  | reorder (i : Nat) (order : List Xid)
  | addFacade (factory : γ)
  | dropFacade (i : Nat)
  | callFacade (i : Nat) (op : Operation)

/-- Every facade of a deployment. -/
def held (D : Deployment γ φ σ) : List φ :=
  D.providers.flatMap (·.facades) ++ D.facades

/-- The deployment after a move.  A move for a provider or a facade that does
not exist does nothing. -/
def Move.apply (b : Backend γ σ φ κ) (act : ε → σ → σ) (D : Deployment γ φ σ) :
    Move γ ε → Deployment γ φ σ
  | .environment e => { D with world := act e D.world }
  | .addProvider factory => { D with providers := D.providers ++ [.ofFactory factory] }
  | .dropProvider i => { D with providers := D.providers.eraseIdx i }
  | .callProvider i c =>
    match D.providers[i]? with
    | none => D
    | some p =>
      let r := c.run b p D.world
      { D with providers := D.providers.set i r.provider, world := r.world }
  | .reorder i order =>
    match D.providers[i]? with
    | none => D
    | some p => { D with providers := D.providers.set i (p.reorder order) }
  | .addFacade factory =>
    match b.create factory D.world with
    | (.ok f, world) => { D with facades := D.facades ++ [f], world }
    | (.error _, world) => { D with world }
  | .dropFacade i => { D with facades := D.facades.eraseIdx i }
  | .callFacade i op =>
    match D.facades[i]? with
    | none => D
    | some f =>
      let r := b.perform op f D.world
      { D with facades := D.facades.set i r.facade, world := r.world }

/-- The deployment after a list of moves. -/
def run (b : Backend γ σ φ κ) (act : ε → σ → σ) (ms : List (Move γ ε)) (D : Deployment γ φ σ) :
    Deployment γ φ σ :=
  ms.foldl (Move.apply b act) D

variable {b : Backend γ σ φ κ} {act : ε → σ → σ}

theorem forall_mem_set {α : Type} {I : α → Prop} {l : List α} (h : ∀ a ∈ l, I a) (i : Nat) {a' : α}
    (ha' : I a') : ∀ a ∈ l.set i a', I a := by
  intro a ha
  rcases List.mem_or_eq_of_mem_set ha with ha | rfl
  · exact h a ha
  · exact ha'

/-- A property of providers that lasts holds of all providers of a deployment. -/
theorem lasting_apply {I : Provider γ φ → Prop} (hI : Provider.Lasting b I) (m : Move γ ε)
    {D : Deployment γ φ σ} (h : ∀ p ∈ D.providers, I p) :
    ∀ p ∈ (m.apply b act D).providers, I p := by
  cases m with
  | environment e => exact h
  | addProvider factory =>
    intro p hp
    rcases List.mem_append.mp hp with hp | hp
    · exact h p hp
    · cases List.mem_singleton.mp hp
      exact hI.start factory
  | dropProvider i => exact fun p hp => h p (List.mem_of_mem_eraseIdx hp)
  | callProvider i c =>
    simp only [Move.apply]
    cases hi : D.providers[i]? with
    | none => exact h
    | some p => exact forall_mem_set h i (hI.call c D.world (h p (List.mem_of_getElem? hi)))
  | reorder i order =>
    simp only [Move.apply]
    cases hi : D.providers[i]? with
    | none => exact h
    | some p => exact forall_mem_set h i (hI.reorder order (h p (List.mem_of_getElem? hi)))
  -- facades outside any provider are no concern of providers
  | addFacade factory =>
    simp only [Move.apply]
    split <;> exact h
  | dropFacade i => exact h
  | callFacade i op =>
    simp only [Move.apply]
    split <;> exact h

/-! ### Translations -/

/-- A deployment, its facades and its world translated. -/
def image (f : φ → ψ) (g : σ → τ) (D : Deployment γ φ σ) : Deployment γ ψ τ :=
  ⟨D.providers.map (·.map f), D.facades.map f, g D.world⟩

theorem image_apply {b' : Backend γ τ ψ κ} {f : φ → ψ} {g : σ → τ} {act' : ε → τ → τ}
    (h : b.Translation b' f g) (hact : ∀ e w, act' e (g w) = g (act e w)) (D : Deployment γ φ σ)
    (m : Move γ ε) : Move.apply b' act' (D.image f g) m = (Move.apply b act D m).image f g := by
  cases m with
  | environment e => simp only [Move.apply, image, hact]
  | addProvider factory => simp [Move.apply, image, Provider.map, Provider.ofFactory]
  | dropProvider i => simp [Move.apply, image, List.eraseIdx_map]
  | callProvider i c =>
    simp only [Move.apply, image, List.getElem?_map]
    cases D.providers[i]? with
    | none => rfl
    | some p => simp [h.run_call, Provider.Reply.image]
  | reorder i order =>
    simp only [Move.apply, image, List.getElem?_map]
    cases D.providers[i]? with
    | none => rfl
    | some p => simp [Provider.reorder_map]
  | addFacade factory =>
    simp only [Move.apply, image, h.create]
    rcases b.create factory D.world with ⟨e | t, w⟩ <;> simp [Except.map]
  | dropFacade i => simp [Move.apply, image, List.eraseIdx_map]
  | callFacade i op =>
    simp only [Move.apply, image, List.getElem?_map]
    cases D.facades[i]? with
    | none => rfl
    | some t => simp [h.perform, Facade.Reply.image]

/-- A run of a translated deployment is the translation of the run. -/
theorem image_run {b' : Backend γ τ ψ κ} {f : φ → ψ} {g : σ → τ} {act' : ε → τ → τ}
    (h : b.Translation b' f g) (hact : ∀ e w, act' e (g w) = g (act e w)) (ms : List (Move γ ε))
    (D : Deployment γ φ σ) : run b' act' ms (D.image f g) = (run b act ms D).image f g := by
  induction ms generalizing D with
  | nil => rfl
  | cons m ms ih =>
    show run b' act' ms (Move.apply b' act' (D.image f g) m) = _
    rw [image_apply h hact, ih]
    rfl

/-- A deployment over a traced backend, without the trace. -/
def untraced (D : Deployment γ (Numbered φ) (Trace σ φ)) : Deployment γ φ σ :=
  D.image Numbered.value Trace.world

/-- The trace of a run changes nothing in the run. -/
theorem untraced_run_eq (b : Backend γ σ φ κ) (act : ε → σ → σ) (ms : List (Move γ ε)) (w : σ) :
    (run b.traced (Trace.lift act) ms { world := { world := w } }).untraced =
      run b act ms { world := w } :=
  (image_run b.traced_translation (fun _ _ => rfl) ms { world := { world := w } }).symm

end Deployment

end BranchPool
