/-
Sessions that share a resource manager.

* `Session.Apart.perform` — a call on one session leaves another one at its
  work, and stays off its branch;
* `Concord` — of all sessions of a trace, each is sound, and no two are bound to
  the same branch; `Concord.step` keeps this, whatever is done with the sessions;
* `Harmony` — the same of a list of sessions, kept by handlings.
-/
import BranchPool.Proofs.Deployment.Handling
import BranchPool.Proofs.ResourceManager.SessionEffect

namespace BranchPool

open Facade

theorem getElem?_concat_eq_some {α : Type} {l : List α} {a b : α} {i : Nat}
    (h : (l ++ [a])[i]? = some b) : l[i]? = some b ∨ b = a := by
  rw [List.getElem?_append] at h
  split at h
  · exact .inl h
  · exact .inr (List.mem_singleton.mp (List.mem_of_getElem? h))

theorem getElem?_set_eq_some {α : Type} {l : List α} {a b : α} {i j : Nat}
    (h : (l.set i a)[j]? = some b) : j = i ∧ b = a ∨ j ≠ i ∧ l[j]? = some b := by
  by_cases hij : i = j
  · subst hij
    rw [List.getElem?_set_self'] at h
    obtain ⟨-, -, rfl⟩ := Option.map_eq_some_iff.mp h
    exact .inl ⟨rfl, rfl⟩
  · rw [List.getElem?_set_ne hij] at h
    exact .inr ⟨Ne.symm hij, h⟩

/-! ### Two sessions -/

namespace Session

variable {s t : Session} {m : ResourceManager}

/-- Whether two sessions are not bound to the same branch. -/
def Apart (s t : Session) : Prop := ∀ x, s.bound = some x → t.bound ≠ some x

theorem Apart.symm (h : s.Apart t) : t.Apart s := fun x ht hs => h x hs ht

theorem Apart.perform (h : s.Apart t) (hs : s.Sound m) (ht : t.Sound m) (op : Operation) :
    let r := ResourceManager.backend.perform op s m
    t.Sound r.world ∧ r.facade.Apart t := by
  intro r
  have heffect := effect_perform op hs
  constructor
  · intro x hx
    obtain ⟨hopen, hactive⟩ := ht x hx
    exact ⟨hopen, heffect.active_of_active (fun hbound => h x hbound hx) hactive⟩
  · intro x hx hx'
    -- a branch that is bound from now on was not live, and so is not the other's
    obtain ⟨-, -, hold | hnone⟩ := heffect.bound_eq_some hs hx
    · exact h x hold hx'
    · rw [(ht x hx').2] at hnone
      cases hnone

end Session

/-! ### Traces -/

/-- Whether all sessions of a trace, also those that were dropped, are sound and
bound to different branches. -/
structure Concord (w : Trace ResourceManager Session) : Prop where
  sound : ∀ (i : Nat) s, w.facades[i]? = some s → s.Sound w.world
  apart : ∀ (i j : Nat) s t x, w.facades[i]? = some s → w.facades[j]? = some t →
    s.bound = some x → t.bound = some x → i = j

namespace Concord

variable {w w' : Trace ResourceManager Session}

theorem start (m : ResourceManager) : Concord { world := m } where
  sound i s hs := by simp at hs
  apart i j s t x hs := by simp at hs

theorem setAvailable (available : Bool) (h : Concord w) :
    Concord (w.lift (fun available m => m.setAvailable available) available) :=
  ⟨h.sound, h.apart⟩

theorem made (config : Config) (h : Concord w) :
    Concord { w with facades := w.facades ++ [{ config }] } where
  sound i s hs := by
    rcases getElem?_concat_eq_some hs with hs | rfl
    · exact h.sound i s hs
    · rintro x ⟨⟩
  apart i j s t x hs ht hx hx' := by
    rcases getElem?_concat_eq_some hs with hs | rfl
    · rcases getElem?_concat_eq_some ht with ht | rfl
      · exact h.apart i j s t x hs ht hx hx'
      · cases hx'
    · cases hx

theorem called (op : Operation) {i : Nat} {s : Session} (hs : w.facades[i]? = some s)
    (h : Concord w) :
    Concord (Trace.observe op (ResourceManager.backend.perform op) ⟨i, s⟩ w).world := by
  have hsound : s.Sound w.world := h.sound i s hs
  have hother : ∀ {j t}, j ≠ i → w.facades[j]? = some t →
      t.Sound (ResourceManager.backend.perform op s w.world).world ∧
        (ResourceManager.backend.perform op s w.world).facade.Apart t := by
    intro j t hji ht
    have hapart : s.Apart t := fun x hx hx' => hji (h.apart _ _ _ _ _ ht hs hx' hx)
    exact hapart.perform hsound (h.sound j t ht) op
  constructor
  · intro j t ht
    rcases getElem?_set_eq_some ht with ⟨rfl, rfl⟩ | ⟨hji, ht⟩
    · exact hsound.perform op
    · exact (hother hji ht).1
  -- of two facades at most one made the call; it shares no branch with any of the others
  · intro j k t u x ht hu hx hx'
    rcases getElem?_set_eq_some ht with ⟨rfl, rfl⟩ | ⟨hji, htold⟩
    · rcases getElem?_set_eq_some hu with ⟨rfl, -⟩ | ⟨hki, huold⟩
      · rfl
      · exact absurd hx' ((hother hki huold).2 x hx)
    · rcases getElem?_set_eq_some hu with ⟨rfl, rfl⟩ | ⟨hki, huold⟩
      · exact absurd hx ((hother hji htold).2 x hx')
      · exact h.apart j k t u x htold huold hx hx'

theorem step (hstep : Trace.Step ResourceManager.backend w w') (h : Concord w) : Concord w' := by
  cases hstep with
  | made hmake =>
    cases hmake
    exact h.made _
  | notMade hmake => cases hmake
  | called op hs => exact h.called op hs

end Concord

/-! ### Lists -/

/-- Whether sessions are sound and bound to different branches. -/
structure Harmony (H : List Session) (m : ResourceManager) : Prop where
  sound : ∀ s ∈ H, s.Sound m
  apart : H.Pairwise Session.Apart

namespace Harmony

theorem nil (m : ResourceManager) : Harmony [] m where
  sound s hs := by cases hs
  apart := .nil

theorem setAvailable {H : List Session} {m : ResourceManager} (h : Harmony H m)
    (available : Bool) : Harmony H (m.setAvailable available) :=
  ⟨h.sound, h.apart⟩

theorem handling {s s' : List Session × ResourceManager}
    (hhandling : Handling ResourceManager.backend s s') (h : Harmony s.1 s.2) :
    Harmony s'.1 s'.2 := by
  cases hhandling with
  | regroup hH =>
    constructor
    · exact fun s hs => h.sound s (hH.mem_iff.mpr hs)
    · exact (hH.pairwise_iff fun {_ _} hapart => hapart.symm).mp h.apart
  | make hmake =>
    cases hmake
    constructor
    · -- the new session is bound to nothing
      intro s hs
      rcases List.mem_cons.mp hs with rfl | hs
      · intro x hx
        cases hx
      · exact h.sound s hs
    · refine List.pairwise_cons.mpr ⟨fun t _ x hx => ?_, h.apart⟩
      cases hx
  | notMade hmake => cases hmake
  | @call op s H m =>
    obtain ⟨hapart, hrest⟩ := List.pairwise_cons.mp h.apart
    have hsound : s.Sound m := h.sound s List.mem_cons_self
    -- the session that is called keeps apart from every other, and the others do not notice
    have hother := fun t ht =>
      (hapart t ht).perform hsound (h.sound t (List.mem_cons_of_mem _ ht)) op
    constructor
    · intro t ht
      rcases List.mem_cons.mp ht with rfl | ht
      · exact hsound.perform op
      · exact (hother t ht).1
    · exact List.pairwise_cons.mpr ⟨fun t ht => (hother t ht).2, hrest⟩
  | drop =>
    constructor
    · exact fun s hs => h.sound s (List.mem_cons_of_mem _ hs)
    · exact (List.pairwise_cons.mp h.apart).2

end Harmony

end BranchPool
