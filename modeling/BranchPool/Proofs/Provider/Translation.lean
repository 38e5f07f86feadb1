/-
Providers over two backends that do the same.

A translation turns the facades and the worlds of one backend into those of
another, so that each call gives the same answer and leaves translated things
behind.  A provider cannot tell the two apart:

* `Backend.Translation.run_call` — a call on a translated provider is the
  translation of the call;
* `Backend.Translation.run` — and so is a whole run.
-/
import BranchPool.Proofs.Provider.Run

namespace BranchPool

variable {γ σ τ φ ψ κ ε ε' α β : Type}

/-- What a call leaves behind, translated. -/
def Facade.Reply.image (f : φ → ψ) (g : σ → τ) (r : Facade.Reply φ σ α) : Facade.Reply ψ τ α :=
  ⟨r.answer, f r.facade, g r.world⟩

/-- A pool of translated facades. -/
def Pool.map (f : φ → ψ) (s : Pool φ) : Pool ψ :=
  ⟨s.idle.map f, s.bound.map f, s.active⟩

namespace Pool

theorem facades_map (f : φ → ψ) (s : Pool φ) : (s.map f).facades = s.facades.map f := by
  simp [facades, map]

theorem activeFacade?_map (f : φ → ψ) (s : Pool φ) :
    (s.map f).activeFacade? = s.activeFacade?.map fun e => (e.1, f e.2) := by
  obtain ⟨idle, bound, active⟩ := s
  cases active with
  | none => rfl
  | some x =>
    simp only [activeFacade?, map, Option.bind_eq_bind, Option.bind_some,
      BranchMap.get?_map]
    cases bound.get? x <;> rfl

theorem unbind?_map (f : φ → ψ) (s : Pool φ) (x : Xid) :
    (s.map f).unbind? x = (s.unbind? x).map fun e => (f e.1, e.2.map f) := by
  simp only [unbind?, map, BranchMap.get?_map]
  cases s.bound.get? x with
  | none => rfl
  | some t =>
    simp only [Option.map_some, ← BranchMap.map_erase]
    rfl

end Pool

namespace Provider

/-- A provider of translated facades. -/
def map (f : φ → ψ) (p : Provider γ φ) : Provider γ ψ :=
  ⟨p.factory, p.pool.map (·.map f), p.tally⟩

/-- What a call leaves behind, translated. -/
def Reply.image (f : φ → ψ) (g : σ → τ) (r : Reply γ φ σ α) : Reply γ ψ τ α :=
  ⟨r.answer, r.provider.map f, g r.world⟩

/-- A provider and its world, translated. -/
def State.image (f : φ → ψ) (g : σ → τ) (s : State γ φ σ) : State γ ψ τ :=
  ⟨s.provider.map f, g s.world⟩

theorem facades_map (f : φ → ψ) (p : Provider γ φ) : (p.map f).facades = p.facades.map f := by
  obtain ⟨factory, _ | s, tally⟩ := p
  · rfl
  · exact s.facades_map f

theorem concludeFinish_map (f : φ → ψ) (g : σ → τ) (how : Facade.Finish) (x : Xid)
    (answer : Except Facade.Error Unit) (p : Provider γ φ) (w : σ) :
    concludeFinish how x answer (p.map f) (g w) = (concludeFinish how x answer p w).image f g := by
  cases answer <;> rfl

theorem reorder_map (f : φ → ψ) (p : Provider γ φ) (order : List Xid) :
    (p.map f).reorder order = (p.reorder order).map f := by
  obtain ⟨factory, _ | s, tally⟩ := p
  · rfl
  · simp [Provider.reorder, map, Pool.map]

end Provider

/-- Two backends that do the same, up to a translation of facades and
worlds. -/
structure Backend.Translation (b : Backend γ σ φ κ) (b' : Backend γ τ ψ κ) (f : φ → ψ)
    (g : σ → τ) : Prop where
  create : ∀ c w, b'.create c (g w) = ((b.create c w).1.map f, g (b.create c w).2)
  openUp : ∀ t w, b'.openUp (f t) (g w) = (b.openUp t w).image f g
  close : ∀ t w, b'.close (f t) (g w) = (b.close t w).image f g
  isOpen : ∀ t w, b'.isOpen (f t) (g w) = b.isOpen t w
  start : ∀ x t w, b'.start x (f t) (g w) = (b.start x t w).image f g
  endAndPrepare : ∀ x t w, b'.endAndPrepare x (f t) (g w) = (b.endAndPrepare x t w).image f g
  finish : ∀ how x t w, b'.finish how x (f t) (g w) = (b.finish how x t w).image f g
  recover : ∀ t w, b'.recover (f t) (g w) = (b.recover t w).image f g
  ask : ∀ t w, b'.ask (f t) (g w) = (b.ask t w).image f g
  isConnectionValid : ∀ t w, b'.isConnectionValid (f t) (g w) = (b.isConnectionValid t w).image f g
  establishConnection : ∀ t w,
    b'.establishConnection (f t) (g w) = (b.establishConnection t w).image f g
  drop : ∀ t w, b'.drop (f t) (g w) = (b.drop t w).image f g
  reestablishConnection : ∀ t w,
    b'.reestablishConnection (f t) (g w) = (b.reestablishConnection t w).image f g

namespace Backend.Translation

open Facade Provider

variable {b : Backend γ σ φ κ} {b' : Backend γ τ ψ κ} {f : φ → ψ} {g : σ → τ}

theorem perform (h : Translation b b' f g) (op : Operation) (t : φ) (w : σ) :
    b'.perform op (f t) (g w) = (b.perform op t w).image f g := by
  cases op with
  | openUp => exact h.openUp t w
  | close => exact h.close t w
  | start x => exact h.start x t w
  | endAndPrepare x => exact h.endAndPrepare x t w
  | finish how x => exact h.finish how x t w
  -- here the result is dropped, which the translation does not touch
  | recover => simp only [Backend.perform, h.recover]; rfl
  | useData use =>
    cases use with
    | ask => simp only [Backend.perform, h.ask]; rfl
    | check => simp only [Backend.perform, h.isConnectionValid]; rfl
    | establish => simp only [Backend.perform, h.establishConnection]; rfl
    | drop => exact h.drop t w
    | reestablish => simp only [Backend.perform, h.reestablishConnection]; rfl

/-! ### Calls on a provider -/

theorem closeAll (h : Translation b b' f g) (ts : List φ) (w : σ) :
    Provider.closeAll b' (ts.map f) (g w) =
      ((Provider.closeAll b ts w).1, g (Provider.closeAll b ts w).2) := by
  induction ts generalizing w with
  | nil => rfl
  | cons t ts ih =>
    rw [List.map_cons, Provider.closeAll, Provider.closeAll, h.close]
    simp only [Facade.Reply.image, ih]
    cases (b.close t w).answer <;> rfl

theorem makeFacade (h : Translation b b' f g) (c : γ) (w : σ) :
    Provider.makeFacade b' c (g w) =
      ((Provider.makeFacade b c w).1.map f, g (Provider.makeFacade b c w).2) := by
  rw [Provider.makeFacade, Provider.makeFacade, h.create]
  rcases b.create c w with ⟨_ | t, w'⟩
  · rfl
  · simp only [Except.map, h.openUp, Facade.Reply.image]
    cases (b.openUp t w').answer <;> rfl

theorem takeIdle (h : Translation b b' f g) (s : Pool φ) (p : Provider γ φ) (w : σ) :
    Provider.takeIdle b' (s.map f) (p.map f) (g w) =
      ((Provider.takeIdle b s p w).1.map fun r => (f r.1, r.2.1.map f, r.2.2),
        g (Provider.takeIdle b s p w).2) := by
  obtain ⟨idle, bound, active⟩ := s
  cases idle with
  | cons t rest => rfl
  | nil =>
    simp only [Provider.takeIdle, Pool.map, List.map_nil, Provider.map, h.makeFacade]
    rcases Provider.makeFacade b p.factory w with ⟨_ | t, w'⟩ <;> rfl

theorem withActive (operation : String) {call : φ → σ → Facade.Reply φ σ α}
    {call' : ψ → τ → Facade.Reply ψ τ α} (h : ∀ t w, call' (f t) (g w) = (call t w).image f g)
    (p : Provider γ φ) (w : σ) :
    Provider.withActive operation call' (p.map f) (g w) =
      (Provider.withActive operation call p w).image f g := by
  obtain ⟨factory, pool, tally⟩ := p
  cases pool with
  | none => rfl
  | some s =>
    simp only [Provider.withActive, Provider.map, Option.map_some, Pool.activeFacade?_map]
    rcases s.activeFacade? with _ | ⟨x, t⟩
    · rfl
    · simp only [Option.map_some, h]
      simp [Facade.Reply.image, Provider.Reply.image, Provider.map, Pool.map]

theorem openUp_provider (h : Translation b b' f g) (p : Provider γ φ) (w : σ) :
    Provider.openUp b' (p.map f) (g w) = (Provider.openUp b p w).image f g := by
  obtain ⟨factory, _ | s, tally⟩ := p
  · rfl
  · obtain ⟨idle, bound, _ | x⟩ := s
    · have hclose := h.closeAll (Pool.facades ⟨idle, bound, none⟩) w
      rw [← Pool.facades_map] at hclose
      simp only [Provider.openUp, Provider.map, active?, Option.map_some, Option.bind_some,
        Pool.map, Option.getD_some] at hclose ⊢
      rw [hclose]
      rfl
    · rfl

theorem close_provider (h : Translation b b' f g) (p : Provider γ φ) (w : σ) :
    Provider.close b' (p.map f) (g w) = (Provider.close b p w).image f g := by
  obtain ⟨factory, _ | s, tally⟩ := p
  · rfl
  · simp only [Provider.close, Provider.map, Option.map_some, Pool.facades_map, h.closeAll,
      List.length_map]
    rfl

theorem startOn (h : Translation b b' f g) (x : Xid) (t : φ) (s : Pool φ) (p : Provider γ φ)
    (w : σ) :
    Provider.startOn b' x (f t) (s.map f) (p.map f) (g w) =
      (Provider.startOn b x t s p w).image f g := by
  simp only [Provider.startOn, h.start, Facade.Reply.image, h.close]
  cases (b.start x t w).answer with
  | error e => rfl
  | ok u => simp [Provider.Reply.image, Provider.map, Pool.bindActive, Pool.map]

theorem start_provider (h : Translation b b' f g) (x : Xid) (p : Provider γ φ) (w : σ) :
    Provider.start b' x (p.map f) (g w) = (Provider.start b x p w).image f g := by
  obtain ⟨factory, _ | s, tally⟩ := p
  · rfl
  obtain ⟨idle, bound, _ | y⟩ := s
  swap
  · rfl
  have htake := h.takeIdle ⟨idle, bound, none⟩ ⟨factory, some ⟨idle, bound, none⟩, tally⟩ w
  simp only [Provider.start, Provider.map, Option.map_some, Pool.map,
    BranchMap.contains_map] at htake ⊢
  split
  · rfl
  -- the same facade is taken on both sides, up to the translation
  · rw [htake]
    rcases Provider.takeIdle b ⟨idle, bound, none⟩ ⟨factory, some ⟨idle, bound, none⟩, tally⟩ w with
      ⟨_ | ⟨t, rest, tally'⟩, w'⟩
    · rfl
    · exact h.startOn x t ⟨rest, bound, none⟩ ⟨factory, some ⟨idle, bound, none⟩, tally'⟩ w'

theorem endAndPrepare_provider (h : Translation b b' f g) (x : Xid) (p : Provider γ φ) (w : σ) :
    Provider.endAndPrepare b' x (p.map f) (g w) = (Provider.endAndPrepare b x p w).image f g := by
  obtain ⟨factory, _ | s, tally⟩ := p
  · rfl
  obtain ⟨idle, bound, _ | y⟩ := s
  · rfl
  simp only [Provider.endAndPrepare, Provider.map, Option.map_some, Pool.map, BranchMap.get?_map]
  split
  swap
  · rfl
  cases bound.get? x with
  | none => rfl
  | some t =>
    simp only [Option.map_some, h.endAndPrepare, Facade.Reply.image]
    cases (b.endAndPrepare x t w).answer <;> simp [Provider.Reply.image, Provider.map, Pool.map]

theorem finish_provider (h : Translation b b' f g) (how : Finish) (x : Xid) (p : Provider γ φ)
    (w : σ) :
    Provider.finish b' how x (p.map f) (g w) = (Provider.finish b how x p w).image f g := by
  obtain ⟨factory, _ | s, tally⟩ := p
  · rfl
  -- what decides whether the call is refused is not translated
  have hactive : (s.map f).active = s.active := rfl
  simp only [Provider.finish, Provider.map, Option.map_some, Pool.unbind?_map, hactive]
  split
  · rfl
  cases s.unbind? x with
  | some e =>
    obtain ⟨t, rest⟩ := e
    simp only [Option.map_some, h.finish, Facade.Reply.image]
    rw [← concludeFinish_map]
    simp [Provider.map, Pool.offerIdle, Pool.map]
  | none =>
    have htake := h.takeIdle s ⟨factory, some s, tally.addUnmapped⟩ w
    simp only [Provider.map, Option.map_some] at htake
    simp only [Option.map_none, peekIdle_andThen, htake]
    rcases Provider.takeIdle b s ⟨factory, some s, tally.addUnmapped⟩ w with
      ⟨_ | ⟨t, rest, tally'⟩, w'⟩
    · rfl
    · simp only [Except.map, h.finish, Facade.Reply.image]
      rw [← concludeFinish_map]
      rfl

theorem recover_provider (h : Translation b b' f g) (p : Provider γ φ) (w : σ) :
    Provider.recover b' (p.map f) (g w) = (Provider.recover b p w).image f g := by
  obtain ⟨factory, _ | s, tally⟩ := p
  · rfl
  have htake := h.takeIdle s ⟨factory, some s, tally⟩ w
  simp only [Provider.map, Option.map_some] at htake
  simp only [Provider.recover, peekIdle_andThen, Provider.map, Option.map_some, htake]
  rcases Provider.takeIdle b s ⟨factory, some s, tally⟩ w with ⟨_ | ⟨t, rest, tally'⟩, w'⟩
  · rfl
  · simp only [Except.map, h.recover, Facade.Reply.image]
    cases (b.recover t w').answer <;> rfl

/-- A call on a translated provider is the translation of the call. -/
theorem run_call (h : Translation b b' f g) (c : Provider.Call) (p : Provider γ φ) (w : σ) :
    c.run b' (p.map f) (g w) = (c.run b p w).image f g := by
  cases c with
  | openUp => simp only [Call.run, h.openUp_provider]; rfl
  | close => simp only [Call.run, h.close_provider]; rfl
  | start x => simp only [Call.run, h.start_provider]; rfl
  | endAndPrepare x => simp only [Call.run, h.endAndPrepare_provider]; rfl
  | finish how x => simp only [Call.run, h.finish_provider]; rfl
  | recover => simp only [Call.run, h.recover_provider]; rfl
  | useData use =>
    cases use with
    | ask => simp only [Call.run, connection?_eq, withActive _ h.ask]; rfl
    | check =>
      simp only [Call.run, Provider.isConnectionValid, withActive _ h.isConnectionValid]; rfl
    | establish =>
      simp only [Call.run, Provider.establishConnection, withActive _ h.establishConnection]; rfl
    | drop => simp only [Call.run, closeConnection_eq, withActive _ h.drop]; rfl
    | reestablish =>
      simp only [Call.run, Provider.reestablishConnection, withActive _ h.reestablishConnection]
      rfl

/-! ### Runs -/

/-- A run on a translated provider is the translation of the run. -/
theorem run (h : Translation b b' f g) {act : ε → σ → σ} {act' : ε → τ → τ}
    (hact : ∀ e w, act' e (g w) = g (act e w)) (ms : List (Move ε)) (s : State γ φ σ) :
    Provider.run b' act' ms (s.image f g) = (Provider.run b act ms s).image f g := by
  induction ms generalizing s with
  | nil => rfl
  | cons m ms ih =>
    have hmove : m.apply b' act' (s.image f g) = (m.apply b act s).image f g := by
      cases m with
      | call c => simp only [Move.apply, State.image, h.run_call]; rfl
      | environment e => simp only [Move.apply, State.image, hact]
      | reorder order => simp only [Move.apply, State.image, reorder_map]
    show Provider.run b' act' ms (m.apply b' act' (s.image f g)) = _
    rw [hmove, ih]
    rfl

end Backend.Translation

end BranchPool
