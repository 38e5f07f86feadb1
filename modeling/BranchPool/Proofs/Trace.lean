/-
Traces: what happens to the facades of a backend.

`Backend.traced` is a backend that does what another one does.  Besides, it
numbers the facades as they are made, and keeps in its world what each facade
has become, and each call that a facade received, with the answer.

* `Trace.observe` — a call on a facade, which goes into the trace;
* `Trace.Holds` — whether facades are held once each, as the trace has them;
* `Provider.untraced_run` — a provider over the traced backend does what one
  over the backend beneath does, so a statement about what its facades received
  is a statement about every run of a provider.
-/
import BranchPool.Proofs.Provider.Translation

namespace BranchPool

open Facade

variable {γ σ φ κ ε α : Type}

theorem isOk_map_unit (a : Except Facade.Error α) : (a.map fun _ => ()).isOk = a.isOk := by
  cases a <;> rfl

theorem map_unit (a : Except Facade.Error Unit) : (a.map fun _ => ()) = a := by
  cases a <;> rfl

/-- A facade with its number in a trace. -/
structure Numbered (φ : Type) where
  number : Nat
  value : φ

/-- A call that a facade received, and its answer less the result. -/
structure Event where
  facade : Nat
  operation : Operation
  answer : Except Facade.Error Unit

/-- The calls so far, the latest first. -/
abbrev History := List Event

/-- A world with what happened in it. -/
structure Trace (σ φ : Type) where
  world : σ
  /-- What each facade has become, by number. -/
  facades : List φ := []
  events : History := []

namespace Trace

/-- Others act on a world. -/
def lift (act : ε → σ → σ) (e : ε) (w : Trace σ φ) : Trace σ φ :=
  { w with world := act e w.world }

/-- A call on a numbered facade, by the call on the facade itself. -/
def observe (op : Operation) (call : φ → σ → Facade.Reply φ σ α) (t : Numbered φ) (w : Trace σ φ) :
    Facade.Reply (Numbered φ) (Trace σ φ) α :=
  let r := call t.value w.world
  { answer := r.answer
    facade := ⟨t.number, r.facade⟩
    world :=
      { world := r.world
        facades := w.facades.set t.number r.facade
        events := ⟨t.number, op, r.answer.map fun _ => ()⟩ :: w.events } }

/-- Whether facades are held once each, as they are now. -/
structure Holds (w : Trace σ φ) (H : List (Numbered φ)) : Prop where
  nodup : (H.map Numbered.number).Nodup
  current : ∀ t ∈ H, w.facades[t.number]? = some t.value

namespace Holds

variable {w : Trace σ φ} {H : List (Numbered φ)}

theorem nil (w : Trace σ φ) : w.Holds [] where
  nodup := List.nodup_nil
  current _ ht := by cases ht

theorem perm {H' : List (Numbered φ)} (hH : H.Perm H') (h : w.Holds H) : w.Holds H' where
  nodup := (hH.map _).nodup_iff.mp h.nodup
  current t ht := h.current t (hH.mem_iff.mpr ht)

theorem tail {t : Numbered φ} (h : w.Holds (t :: H)) : w.Holds H where
  nodup := (List.nodup_cons.mp h.nodup).2
  current u hu := h.current u (List.mem_cons_of_mem _ hu)

theorem ofWorld (world : σ) (h : w.Holds H) : Holds { w with world } H :=
  ⟨h.nodup, h.current⟩

theorem ne_number {t u : Numbered φ} (h : w.Holds (t :: H)) (hu : u ∈ H) : t.number ≠ u.number :=
  fun heq => (List.nodup_cons.mp h.nodup).1 (List.mem_map.mpr ⟨u, hu, heq.symm⟩)

theorem number_lt (h : w.Holds H) {t : Numbered φ} (ht : t ∈ H) : t.number < w.facades.length :=
  (List.getElem?_eq_some_iff.mp (h.current t ht)).1

theorem make (f : φ) (world : σ) (h : w.Holds H) :
    Holds { w with world, facades := w.facades ++ [f] } (⟨w.facades.length, f⟩ :: H) where
  nodup := by
    refine List.nodup_cons.mpr ⟨fun hmem => ?_, h.nodup⟩
    obtain ⟨t, ht, heq⟩ := List.mem_map.mp hmem
    exact Nat.ne_of_lt (h.number_lt ht) heq
  current t ht := by
    rcases List.mem_cons.mp ht with rfl | ht
    · simp
    · rw [List.getElem?_append_left (h.number_lt ht)]
      exact h.current t ht

theorem call {t : Numbered φ} (op : Operation) (call : φ → σ → Facade.Reply φ σ α)
    (h : w.Holds (t :: H)) :
    (Trace.observe op call t w).world.Holds ((Trace.observe op call t w).facade :: H) where
  nodup := h.nodup
  current u hu := by
    have hlt := h.number_lt List.mem_cons_self
    rcases List.mem_cons.mp hu with rfl | hu
    · simp [Trace.observe, hlt]
    · simp only [Trace.observe, List.getElem?_set_ne (h.ne_number hu)]
      exact h.current u (List.mem_cons_of_mem _ hu)

end Holds

end Trace

namespace Backend

/-- The backend that traces another one. -/
def traced (b : Backend γ σ φ κ) : Backend γ (Trace σ φ) (Numbered φ) κ where
  create c w :=
    match b.create c w.world with
    | (.error e, world) => (.error e, { w with world })
    | (.ok f, world) => (.ok ⟨w.facades.length, f⟩, { w with world, facades := w.facades ++ [f] })
  openUp := Trace.observe .openUp b.openUp
  close := Trace.observe .close b.close
  isOpen t w := b.isOpen t.value w.world
  start x := Trace.observe (.start x) (b.start x)
  endAndPrepare x := Trace.observe (.endAndPrepare x) (b.endAndPrepare x)
  finish how x := Trace.observe (.finish how x) (b.finish how x)
  recover := Trace.observe .recover b.recover
  connection? t w := b.connection? t.value w.world
  askConnection t w :=
    ((b.askConnection t.value w.world).1, (Trace.observe (.useData .ask) b.ask t w).world)
  isConnectionValid := Trace.observe (.useData .check) b.isConnectionValid
  establishConnection := Trace.observe (.useData .establish) b.establishConnection
  closeConnection t w :=
    let r := Trace.observe (.useData .drop) b.drop t w
    (r.facade, r.world)
  reestablishConnection := Trace.observe (.useData .reestablish) b.reestablishConnection

/-- A facade that is made gets the next number. -/
theorem create_traced_ok {b : Backend γ σ φ κ} {c : γ} {w w' : Trace σ φ} {t : Numbered φ}
    (h : b.traced.create c w = (.ok t, w')) :
    ∃ f world, b.create c w.world = (.ok f, world) ∧ t = ⟨w.facades.length, f⟩ ∧
      w' = { w with world, facades := w.facades ++ [f] } := by
  simp only [traced] at h
  split at h
  · cases h
  · rename_i f world hcreate
    cases h
    exact ⟨f, world, hcreate, rfl, rfl⟩

theorem create_traced_error {b : Backend γ σ φ κ} {c : γ} {w w' : Trace σ φ} {e : Facade.Error}
    (h : b.traced.create c w = (.error e, w')) :
    ∃ world, b.create c w.world = (.error e, world) ∧ w' = { w with world } := by
  simp only [traced] at h
  split at h
  · rename_i world hcreate
    cases h
    exact ⟨world, hcreate, rfl⟩
  · cases h

theorem observe_map (op : Operation) (call : φ → σ → Facade.Reply φ σ α) (t : Numbered φ)
    (w : Trace σ φ) :
    (Trace.observe op call t w).map (fun _ => ()) =
      Trace.observe op (fun f w => (call f w).map fun _ => ()) t w := by
  simp only [Trace.observe, Facade.Reply.map]
  cases (call t.value w.world).answer <;> rfl

theorem perform_traced (b : Backend γ σ φ κ) (op : Operation) (t : Numbered φ) (w : Trace σ φ) :
    b.traced.perform op t w = Trace.observe op (b.perform op) t w := by
  cases op with
  | recover => exact observe_map _ _ t w
  | useData use =>
    cases use with
    | ask => rfl
    | drop => rfl
    | _ => exact observe_map _ _ t w
  | _ => rfl

/-- To forget the trace is to go back to the backend beneath. -/
theorem traced_translation (b : Backend γ σ φ κ) :
    b.traced.Translation b Numbered.value Trace.world where
  create c w := by
    simp only [traced]
    rcases b.create c w.world with ⟨_ | f, w'⟩ <;> rfl
  openUp _ _ := rfl
  close _ _ := rfl
  isOpen _ _ := rfl
  start _ _ _ := rfl
  endAndPrepare _ _ _ := rfl
  finish _ _ _ _ := rfl
  recover _ _ := rfl
  ask _ _ := rfl
  isConnectionValid _ _ := rfl
  establishConnection _ _ := rfl
  drop _ _ := rfl
  reestablishConnection _ _ := rfl

end Backend

namespace Provider

/-- A state of a traced provider, without the trace. -/
def State.untraced (s : State γ (Numbered φ) (Trace σ φ)) : State γ φ σ :=
  s.image Numbered.value Trace.world

theorem isOpen_untraced (b : Backend γ σ φ κ) (s : State γ (Numbered φ) (Trace σ φ)) :
    s.untraced.provider.isOpen b s.untraced.world = s.provider.isOpen b.traced s.world := by
  obtain ⟨⟨factory, _ | s, tally⟩, w⟩ := s
  · rfl
  · simp only [State.untraced, State.image, isOpen, map, Option.map_some, activeFacade?,
      Option.bind_some, Pool.activeFacade?_map]
    cases s.activeFacade? <;> rfl

/-- A provider that has done nothing yet, in a world where nothing was
traced. -/
def State.fresh (factory : γ) (w : σ) : State γ (Numbered φ) (Trace σ φ) :=
  ⟨.ofFactory factory, { world := w }⟩

/-- The trace of a run changes nothing in the run. -/
theorem untraced_run (b : Backend γ σ φ κ) (act : ε → σ → σ) (ms : List (Move ε)) (factory : γ)
    (w : σ) :
    (run b.traced (Trace.lift act) ms (.fresh factory w)).untraced =
      run b act ms ⟨.ofFactory factory, w⟩ :=
  (b.traced_translation.run (fun _ _ => rfl) ms (.fresh factory w)).symm

end Provider

end BranchPool
