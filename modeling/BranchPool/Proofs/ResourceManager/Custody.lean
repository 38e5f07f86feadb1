/-
Nobody loses a session that works on a branch.

* `Deployment.Tidy` — whether a run drops only facades that were closed;
* `Attended` — whether each session that is bound to a branch is held by somebody;
* `Deployment.Staffed.run` — a tidy run keeps this.  A session that a provider
  leaves alone was closed by the provider or never opened, so it is free.
-/
import BranchPool.Proofs.ResourceManager.Sharing
import BranchPool.Proofs.ResourceManager.Standing

namespace BranchPool

open Facade

/-! ### Tidy runs -/

namespace Deployment

section Tidy

variable {γ σ τ φ ψ κ ε : Type}

/-- Whether a move drops only facades that are closed. -/
def Move.Tidy (b : Backend γ σ φ κ) (D : Deployment γ φ σ) : Move γ ε → Prop
  | .dropProvider i =>
    ∀ p, D.providers[i]? = some p → ∀ f ∈ p.facades, b.isOpen f D.world = false
  | .dropFacade i => ∀ f, D.facades[i]? = some f → b.isOpen f D.world = false
  | _ => True

/-- Whether each move of a run drops only facades that are closed. -/
def Tidy (b : Backend γ σ φ κ) (act : ε → σ → σ) : List (Move γ ε) → Deployment γ φ σ → Prop
  | [], _ => True
  | m :: ms, D => m.Tidy b D ∧ Tidy b act ms (m.apply b act D)

variable {b : Backend γ σ φ κ} {b' : Backend γ τ ψ κ} {act : ε → σ → σ} {act' : ε → τ → τ}
  {f : φ → ψ} {g : σ → τ}

theorem Move.Tidy.ofImage (h : b.Translation b' f g) {D : Deployment γ φ σ} {m : Move γ ε}
    (hm : m.Tidy b' (D.image f g)) : m.Tidy b D := by
  cases m with
  | dropProvider i =>
    intro p hi t ht
    have hp : (D.image f g).providers[i]? = some (p.map f) := by simp [image, hi]
    have hmem : f t ∈ (p.map f).facades := by
      rw [Provider.facades_map]
      exact List.mem_map_of_mem ht
    exact (h.isOpen t D.world).symm.trans (hm _ hp _ hmem)
  | dropFacade i =>
    intro t hi
    have ht : (D.image f g).facades[i]? = some (f t) := by simp [image, hi]
    exact (h.isOpen t D.world).symm.trans (hm _ ht)
  | _ => trivial

/-- A run is tidy if its translation is. -/
theorem Tidy.ofImage (h : b.Translation b' f g) (hact : ∀ e w, act' e (g w) = g (act e w)) :
    ∀ (ms : List (Move γ ε)) {D : Deployment γ φ σ}, Tidy b' act' ms (D.image f g) →
      Tidy b act ms D
  | [], _, _ => trivial
  | m :: ms, D, htidy => by
    obtain ⟨hm, hms⟩ := htidy
    rw [image_apply h hact] at hms
    exact ⟨hm.ofImage h, ofImage h hact ms hms⟩

end Tidy

end Deployment

/-! ### Sessions at work -/

/-- Whether each session of a trace is free, or held by somebody. -/
def Attended (w : Trace ResourceManager Session) (H : List (Numbered Session)) : Prop :=
  ∀ (i : Nat) s, w.facades[i]? = some s → s.bound = none ∨ i ∈ H.map Numbered.number

namespace Attended

variable {w : Trace ResourceManager Session} {H H' : List (Numbered Session)}

theorem perm (hH : H.Perm H') (h : Attended w H) : Attended w H' := by
  intro i s hs
  rcases h i s hs with hfree | hmem
  · exact .inl hfree
  · exact .inr ((hH.map _).mem_iff.mp hmem)

theorem make (config : Config) (h : Attended w H) :
    Attended { w with facades := w.facades ++ [{ config }] }
      (⟨w.facades.length, { config }⟩ :: H) := by
  intro i s hs
  rcases getElem?_concat_eq_some hs with hs | rfl
  · rcases h i s hs with hfree | hmem
    · exact .inl hfree
    · exact .inr (List.mem_cons_of_mem _ hmem)
  · exact .inl rfl

theorem call (op : Operation) {t : Numbered Session} (h : Attended w (t :: H)) :
    let r := Trace.observe op (ResourceManager.backend.perform op) t w
    Attended r.world (r.facade :: H) := by
  intro r i s hs
  rcases getElem?_set_eq_some hs with ⟨rfl, -⟩ | ⟨-, hs⟩
  · exact .inr List.mem_cons_self
  · exact h i s hs

/-- A session that is free may be lost. -/
theorem tail {t : Numbered Session} (hcurrent : w.facades[t.number]? = some t.value)
    (hfree : t.value.bound = none) (h : Attended w (t :: H)) : Attended w H := by
  intro i s hs
  rcases h i s hs with hs' | hmem
  · exact .inl hs'
  · rcases List.mem_cons.mp hmem with rfl | hmem
    · rw [hcurrent] at hs
      cases hs
      exact .inl hfree
    · exact .inr hmem

theorem drop {K : List (Numbered Session)} (hholds : w.Holds (H ++ K))
    (hfree : ∀ t ∈ H, t.value.bound = none) (h : Attended w (H ++ K)) : Attended w K := by
  induction H with
  | nil => exact h
  | cons t H ih =>
    have hcurrent := hholds.current t List.mem_cons_self
    have htail := h.tail hcurrent (hfree t List.mem_cons_self)
    exact ih hholds.tail (fun u hu => hfree u (List.mem_cons_of_mem _ hu)) htail

theorem duty {closing : Bool} {m m' : Muster (Numbered Session) (Trace ResourceManager Session)}
    (hduty : Duty ResourceManager.backend.traced closing m m') {K : List (Numbered Session)}
    (hdescribed : ∀ e ∈ m.roster, e.1.value.AtStage e.2)
    (hholds : m.world.Holds (m.roster.map Prod.fst ++ K))
    (h : Attended m.world (m.roster.map Prod.fst ++ K)) :
    Attended m'.world (m'.roster.map Prod.fst ++ K) := by
  cases hduty with
  | regroup hR => exact h.perm ((hR.map _).append_right K)
  | make hmake =>
    obtain ⟨s, world, hcreate, rfl, rfl⟩ := Backend.create_traced_ok hmake
    cases hcreate
    exact h.make _
  | notMade hmake =>
    obtain ⟨world, hcreate, rfl⟩ := Backend.create_traced_error hmake
    cases hcreate
  -- a call works on the facade that is held; only a final stage lets go of one, and it is free
  | @work t q op R n d w hpermits hclose =>
    simp only [Muster.afterCall, Backend.perform_traced]
    exact h.call op
  | @leave t q R n d w hfinal =>
    have hfree := (hdescribed (t, q) List.mem_cons_self).bound_of_isFinal hfinal
    exact h.tail (hholds.current t List.mem_cons_self) hfree

theorem duties {closing : Bool} {m m' : Muster (Numbered Session) (Trace ResourceManager Session)}
    (hchain : Duties ResourceManager.backend.traced closing m m') {K : List (Numbered Session)}
    (hdescribed : ∀ e ∈ m.roster, e.1.value.AtStage e.2)
    (hholds : m.world.Holds (m.roster.map Prod.fst ++ K))
    (h : Attended m.world (m.roster.map Prod.fst ++ K)) :
    Attended m'.world (m'.roster.map Prod.fst ++ K) := by
  -- what a duty relies on is kept by the duties before it
  suffices hkept : Attended m'.world (m'.roster.map Prod.fst ++ K) ∧
      (∀ e ∈ m'.roster, e.1.value.AtStage e.2) ∧
        m'.world.Holds (m'.roster.map Prod.fst ++ K) from hkept.1
  induction hchain with
  | refl => exact ⟨h, hdescribed, hholds⟩
  | tail _ hduty ih =>
    obtain ⟨hattended, hdescribed', hholds'⟩ := ih
    refine ⟨hattended.duty hduty hdescribed' hholds', ?_, ?_⟩
    · exact Session.describes.traced.duty hduty hdescribed'
    · exact (Trace.Holds.handling (hduty.handling K) hholds').1

end Attended

/-! ### Runs -/

namespace Deployment

/-- Whether sessions that share a manager agree with each other, and each that
works on a branch is held. -/
structure Staffed (D : Deployment Config (Numbered Session) (Trace ResourceManager Session)) :
    Prop where
  concord : Concord D.world
  holds : D.world.Holds D.held
  described : ∀ p ∈ D.providers, p.Described fun q t => t.value.AtStage q
  attended : Attended D.world D.held

namespace Staffed

variable {D : Deployment Config (Numbered Session) (Trace ResourceManager Session)}
  {act : Bool → ResourceManager → ResourceManager}

theorem start : Staffed { world := { world := {} } } where
  concord := .start {}
  holds := .nil _
  described p hp := by simp at hp
  attended i s hs := by simp at hs

/-- A session that is closed is free. -/
theorem free_of_closed (h : D.Staffed) {t : Numbered Session} (ht : t ∈ D.held)
    (hclosed : t.value.isOpen = false) : t.value.bound = none :=
  (h.concord.sound _ _ (h.holds.current t ht)).bound_eq_none (by simp [hclosed])

theorem attended_apply (h : D.Staffed) (m : Move Config Bool)
    (hm : m.Tidy ResourceManager.backend.traced D) :
    Attended (m.apply ResourceManager.backend.traced (Trace.lift act) D).world
      (m.apply ResourceManager.backend.traced (Trace.lift act) D).held := by
  have hattended := h.attended
  -- a provider's call and a single facade's are duties; what is left only moves facades about
  cases m with
  | environment e => exact hattended
  | addProvider factory =>
    have hheld : held { D with providers := D.providers ++ [.ofFactory factory] } = D.held := by
      simp [held, Provider.ofFactory, Provider.facades]
    simp only [Move.apply, hheld]
    exact hattended
  | dropProvider i =>
    simp only [Move.apply]
    cases hi : D.providers[i]? with
    | none =>
      rw [List.eraseIdx_of_length_le (List.getElem?_eq_none_iff.mp hi)]
      exact hattended
    | some p =>
      have hperm := held_perm_of_provider hi
      -- a tidy move drops closed facades only, and a closed session is bound to nothing
      refine (hattended.perm hperm).drop (h.holds.perm hperm) fun t ht => ?_
      have hheld : t ∈ D.held := hperm.mem_iff.mpr (List.mem_append_left _ ht)
      exact h.free_of_closed hheld (hm p hi t ht)
  | callProvider i c =>
    simp only [Move.apply]
    cases hi : D.providers[i]? with
    | none => exact hattended
    | some p =>
      have hlt : i < D.providers.length := (List.getElem?_eq_some_iff.mp hi).1
      have hperm := held_perm_of_provider hi
      have hroster := Provider.map_fst_roster p
      have hholds := h.holds.perm hperm
      have hbefore := hattended.perm hperm
      rw [← hroster] at hholds hbefore
      have hafter := hbefore.duties (Provider.run_duties c p D.world)
        (h.described p (List.mem_of_getElem? hi)) hholds
      -- the duties are about the roster, so both ends are read back as facades held
      rw [Provider.muster, Provider.map_fst_roster] at hafter
      exact hafter.perm (held_set_provider hlt _ _).symm
  | reorder i order =>
    simp only [Move.apply]
    cases hi : D.providers[i]? with
    | none => exact hattended
    | some p =>
      have hlt : i < D.providers.length := (List.getElem?_eq_some_iff.mp hi).1
      have horder : p.facades.Perm (p.reorder order).facades := by
        rw [← Provider.map_fst_roster, ← Provider.map_fst_roster]
        exact (p.roster_reorder order).map _
      have hperm := (held_perm_of_provider hi).trans (horder.append_right _)
      exact hattended.perm (hperm.trans (held_set_provider hlt _ D.world).symm)
  | addFacade factory =>
    have hmake := (hattended.make factory).perm
      (List.perm_append_singleton (⟨D.world.facades.length, { config := factory }⟩ : Numbered Session)
        D.held).symm
    show Attended _ (held { D with facades := D.facades ++ [_] })
    rw [held, ← List.append_assoc]
    exact hmake
  | dropFacade i =>
    simp only [Move.apply]
    cases hi : D.facades[i]? with
    | none =>
      rw [List.eraseIdx_of_length_le (List.getElem?_eq_none_iff.mp hi)]
      exact hattended
    | some t =>
      have hperm := held_perm_of_facade hi
      have hheld : t ∈ D.held := hperm.mem_iff.mpr List.mem_cons_self
      refine (hattended.perm hperm).tail (h.holds.current t hheld) ?_
      exact h.free_of_closed hheld (hm t hi)
  | callFacade i op =>
    simp only [Move.apply]
    cases hi : D.facades[i]? with
    | none => exact hattended
    | some t =>
      have hlt : i < D.facades.length := (List.getElem?_eq_some_iff.mp hi).1
      have hcall := (hattended.perm (held_perm_of_facade hi)).call op
      simp only [Backend.perform_traced]
      exact hcall.perm (held_set_facade hlt _ _).symm

theorem apply (h : D.Staffed) (m : Move Config Bool)
    (hm : m.Tidy ResourceManager.backend.traced D) :
    Staffed (m.apply ResourceManager.backend.traced
      (Trace.lift fun available m => m.setAvailable available) D) := by
  let D' := m.apply ResourceManager.backend.traced
    (Trace.lift fun available m => m.setAvailable available) D
  have hshared : Concord D'.world ∧ D'.world.Holds D'.held := by
    refine held_induction (I := fun s => Concord s.2 ∧ s.2.Holds s.1) (fun s s' hhandling hs => ?_)
      (fun available H w hs => ⟨hs.1.setAvailable available, hs.2.ofWorld _⟩) [m]
      ⟨h.concord, h.holds⟩
    obtain ⟨hholds, hsame | hstep⟩ := hs.2.handling hhandling
    · exact ⟨hsame ▸ hs.1, hholds⟩
    · exact ⟨hs.1.step hstep, hholds⟩
  refine ⟨hshared.1, hshared.2, ?_, h.attended_apply m hm⟩
  exact lasting_apply Session.describes.traced.lasting m h.described

theorem run : ∀ (ms : List (Move Config Bool))
    {D : Deployment Config (Numbered Session) (Trace ResourceManager Session)}, D.Staffed →
      Tidy ResourceManager.backend.traced (Trace.lift fun available m => m.setAvailable available)
        ms D →
      Staffed (Deployment.run ResourceManager.backend.traced
        (Trace.lift fun available m => m.setAvailable available) ms D)
  | [], _, h, _ => h
  | m :: ms, _, h, htidy => run ms (h.apply m htidy.1) htidy.2

end Staffed

end Deployment

end BranchPool
