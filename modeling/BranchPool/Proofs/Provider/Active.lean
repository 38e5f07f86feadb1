/-
The active branch of a provider has a facade.

* `Pool.Sound` — a branch that is active has a facade bound to it; each change
  that a provider makes to its pool keeps this;
* `Provider.sound_run` — so it holds after every run.
-/
import BranchPool.Proofs.Provider.Run

namespace BranchPool

open Facade

variable {γ σ φ κ ε α : Type}

/-- Whether the active branch has a facade. -/
def Pool.Sound (s : Pool φ) : Prop :=
  ∀ x, s.active = some x → ∃ f, s.bound.get? x = some f

namespace Pool.Sound

theorem ofInactive {s : Pool φ} (h : s.active = none) : s.Sound := by
  intro x hx
  rw [h] at hx
  cases hx

theorem idle {s : Pool φ} (h : s.Sound) (fs : List φ) : Sound { s with idle := fs } := h

theorem bindActive (s : Pool φ) (x : Xid) (f : φ) : (s.bindActive x f).Sound := by
  intro y hy
  cases hy
  exact ⟨f, s.bound.get?_insert_self x f⟩

theorem update {s : Pool φ} (h : s.Sound) (x : Xid) (f : φ) :
    Sound { s with bound := s.bound.update x f } := by
  intro y hy
  obtain ⟨g, hg⟩ := h y hy
  rw [BranchMap.get?_update]
  by_cases hxy : y = x
  · subst hxy
    exact ⟨f, by simp [hg]⟩
  · exact ⟨g, by rw [if_neg hxy, hg]⟩

theorem unbind {s s' : Pool φ} {x : Xid} {f : φ} (h : s.Sound) (hs : s.unbind? x = some (f, s')) :
    s'.Sound := by
  obtain ⟨_, -, heq⟩ := Option.map_eq_some_iff.mp hs
  cases heq
  intro y hy
  -- the branch that is taken away is no longer active
  have hxy : y ≠ x := by
    rintro rfl
    by_cases hactive : s.active = some y <;> simp [hactive] at hy
  have hactive : s.active = some y := by
    by_cases hx : s.active = some x
    · simp [hx] at hy
    · rwa [if_neg hx] at hy
  obtain ⟨g, hg⟩ := h y hactive
  exact ⟨g, by rw [BranchMap.get?_erase, if_neg hxy, hg]⟩

theorem arrange {s : Pool φ} (h : s.Sound) (order : List Xid) :
    Sound { s with bound := s.bound.arrange order } := by
  intro x hx
  simpa using h x hx

end Pool.Sound

namespace Provider

/-- Whether the active branch has a facade. -/
def Sound (p : Provider γ φ) : Prop := ∀ s, p.pool = some s → s.Sound

variable {b : Backend γ σ φ κ}

theorem Sound.some {factory : γ} {s : Pool φ} {tally : Tally} (h : s.Sound) :
    Sound ⟨factory, some s, tally⟩ := by
  rintro _ ⟨⟩
  exact h

theorem Sound.none {factory : γ} {tally : Tally} :
    Sound (⟨factory, .none, tally⟩ : Provider γ φ) := by
  rintro _ ⟨⟩

theorem sound_ofFactory (factory : γ) : (ofFactory factory : Provider γ φ).Sound := .none

theorem Sound.active {p : Provider γ φ} (h : p.Sound) {x : Xid} (hx : p.active? = .some x) :
    ∃ f, p.boundFacade? x = .some f := by
  obtain ⟨factory, _ | s, tally⟩ := p
  · cases hx
  · exact h s rfl x hx

/-- A provider is open for work if a branch is active, as long as the facades
of active branches are open. -/
theorem Sound.isOpen {p : Provider γ φ} (h : p.Sound) {w : σ}
    (hopen : ∀ x f, p.active? = .some x → p.boundFacade? x = .some f → b.isOpen f w = true) :
    p.isOpen b w = p.active?.isSome := by
  obtain ⟨factory, _ | s, tally⟩ := p
  · rfl
  obtain ⟨idle, bound, _ | x⟩ := s
  · rfl
  obtain ⟨f, hf⟩ := h.active (x := x) rfl
  have hfacade : bound.get? x = .some f := hf
  have hactive : activeFacade? ⟨factory, .some ⟨idle, bound, .some x⟩, tally⟩ = .some (x, f) := by
    simp [activeFacade?, Pool.activeFacade?, hfacade]
  simp only [Provider.isOpen, hactive, hopen x f rfl hf]
  rfl

theorem sound_openUp {p : Provider γ φ} (h : p.Sound) (w : σ) : (p.openUp b w).provider.Sound := by
  rw [openUp]
  cases p.active? with
  | some x => exact h
  | none => exact .some (.ofInactive rfl)

theorem sound_close {p : Provider γ φ} (h : p.Sound) (w : σ) : (p.close b w).provider.Sound := by
  obtain ⟨factory, _ | s, tally⟩ := p
  · exact h
  · exact .none

theorem sound_start {p : Provider γ φ} (h : p.Sound) (x : Xid) (w : σ) :
    (p.start b x w).provider.Sound := by
  obtain ⟨factory, _ | s, tally⟩ := p
  · exact h
  obtain ⟨idle, bound, _ | y⟩ := s
  swap
  · exact h
  simp only [start]
  split
  · exact h
  · rcases takeIdle b ⟨idle, bound, none⟩ ⟨factory, some ⟨idle, bound, none⟩, tally⟩ w with
      ⟨_ | ⟨f, rest, tally'⟩, w'⟩
    · exact h
    · simp only [startOn]
      -- the branch that becomes active is bound by the same step; a failure leaves none active
      cases (b.start x f w').answer with
      | ok u => exact .some (.bindActive _ _ _)
      | error e => exact .some (.ofInactive rfl)

theorem sound_endAndPrepare {p : Provider γ φ} (h : p.Sound) (x : Xid) (w : σ) :
    (p.endAndPrepare b x w).provider.Sound := by
  obtain ⟨factory, _ | s, tally⟩ := p
  · exact h
  cases hactive : s.active with
  | none =>
    simp only [endAndPrepare, hactive]
    exact h
  | some y =>
    simp only [endAndPrepare, hactive]
    split
    swap
    · exact h
    cases s.bound.get? x with
    -- the slot is cleared whether or not the facade did what it should
    | none => exact .some (.ofInactive rfl)
    | some f =>
      dsimp only
      cases (b.endAndPrepare x f w).answer <;> exact .some (.ofInactive rfl)

theorem pool_concludeFinish (how : Finish) (x : Xid) (answer : Except Facade.Error Unit)
    (p : Provider γ φ) (w : σ) : (concludeFinish how x answer p w).provider.pool = p.pool := by
  cases answer <;> rfl

theorem sound_finish {p : Provider γ φ} (h : p.Sound) (how : Finish) (x : Xid) (w : σ) :
    (p.finish b how x w).provider.Sound := by
  obtain ⟨factory, _ | s, tally⟩ := p
  · exact h
  have hs : s.Sound := h s rfl
  simp only [finish, peekIdle_andThen]
  split
  · exact h
  cases hunbind : s.unbind? x with
  | some e =>
    obtain ⟨f, s'⟩ := e
    simp only [Sound, pool_concludeFinish]
    rintro _ ⟨⟩
    -- a branch that is unbound is not active any more
    exact (hs.unbind hunbind).idle _
  | none =>
    dsimp only
    rcases takeIdle b s ⟨factory, some s, tally.addUnmapped⟩ w with ⟨_ | ⟨f, rest, tally'⟩, w'⟩
    · exact .some hs
    · -- the facade that is lent goes back to the queue, and no binding changes
      simp only [Sound, pool_concludeFinish]
      rintro _ ⟨⟩
      exact hs.idle _

theorem sound_recover {p : Provider γ φ} (h : p.Sound) (w : σ) : (p.recover b w).provider.Sound := by
  obtain ⟨factory, _ | s, tally⟩ := p
  · exact h
  have hs : s.Sound := h s rfl
  simp only [recover, peekIdle_andThen]
  rcases takeIdle b s ⟨factory, some s, tally⟩ w with ⟨_ | ⟨f, rest, tally'⟩, w'⟩
  · exact h
  · dsimp only
    cases (b.recover f w').answer <;> exact .some (hs.idle _)

theorem sound_withActive {p : Provider γ φ} (h : p.Sound) (operation : String)
    (call : φ → σ → Facade.Reply φ σ α) (w : σ) :
    (withActive operation call p w).provider.Sound := by
  obtain ⟨factory, _ | s, tally⟩ := p
  · exact h
  simp only [withActive]
  rcases s.activeFacade? with _ | ⟨x, f⟩
  · exact h
  · exact .some ((h s rfl).update x _)

theorem sound_call (c : Call) {p : Provider γ φ} (h : p.Sound) (w : σ) :
    (c.run b p w).provider.Sound := by
  cases c with
  | openUp => exact sound_openUp h w
  | close => exact sound_close h w
  | start x => exact sound_start h x w
  | endAndPrepare x => exact sound_endAndPrepare h x w
  | finish how x => exact sound_finish h how x w
  | recover => exact sound_recover h w
  | useData use => cases use <;> exact sound_withActive h _ _ w

theorem Sound.reorder {p : Provider γ φ} (h : p.Sound) (order : List Xid) :
    (p.reorder order).Sound := by
  obtain ⟨factory, _ | s, tally⟩ := p
  · exact h
  · exact .some ((h s rfl).arrange order)

theorem lasting_sound (b : Backend γ σ φ κ) : Lasting b Sound where
  start := sound_ofFactory
  call c _ w h := sound_call c h w
  reorder order _ h := h.reorder order
  refit _ _ h := h

/-- The active branch has a facade after every run that begins so. -/
theorem sound_run {act : ε → σ → σ} (ms : List (Move ε)) {s : State γ φ σ}
    (h : s.provider.Sound) : (run b act ms s).provider.Sound := by
  refine List.foldlRecOn (motive := fun s : State γ φ σ => s.provider.Sound) ms _ h
    fun s hs m _ => ?_
  obtain ⟨p, w⟩ := s
  cases m with
  | call c => exact sound_call c hs w
  | environment e => exact hs
  | reorder order => exact hs.reorder order

end Provider

end BranchPool
