/-
Notes on the calls of a backend.

A world with notes keeps, beside the world beneath, a note of each call that a
facade received.  `Backend.annotated` makes its notes from the call, the facade and
the world before it.  `Backend.noting` makes them from whether the call succeeded,
and from what it changed in the world beneath.

* `Observer.notes` — the observer that makes such notes;
* `Trace.Step.unnoted` — a step of a trace is one of the backend beneath as well;
* `Deployment.unnoted_run` — the notes of a run change nothing in it.
-/
import BranchPool.Proofs.Deployment.Handling
import BranchPool.Proofs.Observer

namespace BranchPool

open Facade

variable {γ σ φ κ ν ε α : Type}

/-- A world with notes on what happened in it, the latest first. -/
structure Noted (σ ν : Type) where
  world : σ
  notes : List ν := []

namespace Noted

/-- Others act on a world, which leaves no note. -/
def lift (act : ε → σ → σ) (e : ε) (w : Noted σ ν) : Noted σ ν :=
  { w with world := act e w.world }

end Noted

/-- The observer that makes a note of each call, of the facade, of whether the call
succeeded, and of the world before and after it. -/
def Observer.notes (note : Operation → φ → Bool → σ → σ → ν) : Observer σ φ (Noted σ ν) where
  world := Noted.world
  made _ w world := { w with world }
  called op f ok w world := ⟨world, note op f ok w.world world :: w.notes⟩
  world_made _ _ _ := rfl
  world_called _ _ _ _ _ := rfl

namespace Backend

variable {b : Backend γ σ φ κ}

/-- The backend that keeps notes on the calls of another one, each made before the
call. -/
def annotated (b : Backend γ σ φ κ) (note : Operation → φ → σ → ν) :
    Backend γ (Noted σ ν) φ κ :=
  b.observed (.notes fun op f _ w _ => note op f w)

/-- The backend that takes notes on another one.  A note is made of the call,
whether it succeeded, and the world before and after it. -/
def noting (b : Backend γ σ φ κ) (note : Operation → Bool → σ → σ → ν) :
    Backend γ (Noted σ ν) φ κ :=
  b.observed (.notes fun op _ => note op)

theorem perform_annotated (note : Operation → φ → σ → ν) (op : Operation) :
    (b.annotated note).perform op =
      (Observer.notes fun op f _ w _ => note op f w).watch op (b.perform op) :=
  b.perform_observed _ op

theorem perform_noting (note : Operation → Bool → σ → σ → ν) (op : Operation) :
    (b.noting note).perform op = (Observer.notes fun op _ => note op).watch op (b.perform op) :=
  b.perform_observed _ op

end Backend

namespace Trace

/-- A trace of a world with notes, less the notes. -/
def unnoted (w : Trace (Noted σ ν) φ) : Trace σ φ := ⟨w.world.world, w.facades, w.events⟩

theorem Step.unnoted {b : Backend γ σ φ κ} {note : Operation → Bool → σ → σ → ν}
    {w w' : Trace (Noted σ ν) φ} (h : Step (b.noting note) w w') :
    Step b w.unnoted w'.unnoted := by
  cases h with
  | made hcreate =>
    obtain ⟨hanswer, rfl⟩ := Prod.mk.inj hcreate
    exact .made (Prod.ext hanswer rfl)
  | notMade hcreate =>
    obtain ⟨hanswer, rfl⟩ := Prod.mk.inj hcreate
    exact .notMade (Prod.ext hanswer rfl)
  | called op hf =>
    rw [Backend.perform_noting]
    exact .called op hf

end Trace

namespace Deployment

/-- A deployment in a world with notes, less the notes. -/
def unnoted (D : Deployment γ φ (Noted σ ν)) : Deployment γ φ σ :=
  D.image id Noted.world

theorem unnoted_run (b : Backend γ σ φ κ) (note : Operation → φ → Bool → σ → σ → ν)
    (act : ε → σ → σ) (ms : List (Move γ ε)) (w : σ) :
    (run (b.observed (.notes note)) (Noted.lift act) ms { world := { world := w } }).unnoted =
      run b act ms { world := w } :=
  (image_run (b.observed_translation (.notes note)) (fun _ _ => rfl) ms
    { world := { world := w } }).symm

end Deployment

end BranchPool
