/-
What happens at one place of a fleet.

A call on an attached facade is a call on the facade alone, in its own world, so
whatever is true of facades that share one world is true of those at one place.

* `Handling.residents` — what happens to a facade of a fleet happens to the
  facades at its place, and to nothing elsewhere;
* `Fleet.run` — providers and facades over a fleet.  A provider may be attached
  to another place at any time;
* `Fleet.held_induction` — a property that handlings in one world preserve
  holds at each place, after every run.

The number of worlds is fixed at the start of a run.  A world that is added later
is one that nobody has used so far.
-/
import BranchPool.Fleet
import BranchPool.Proofs.Deployment.Handling
import BranchPool.Proofs.Provider.Description

namespace BranchPool

open Facade

variable {γ σ φ κ ε α : Type}

namespace Fleet

variable [Inhabited σ] {ws : Fleet σ} {site site' : Nat}

theorem get_set_self (h : site < ws.length) (w : σ) : Fleet.get (ws.set site w) site = w := by
  simp [get, List.getD_eq_getElem?_getD, h]

theorem get_set_of_ne (h : site' ≠ site) (w : σ) :
    Fleet.get (ws.set site' w) site = ws.get site := by
  simp [get, List.getD_eq_getElem?_getD, h]

theorem get_replicate {n : Nat} (h : site < n) (w : σ) :
    Fleet.get (List.replicate n w) site = w := by
  simp [get, List.getD_eq_getElem?_getD, h]

theorem set_get (ws : Fleet σ) (site : Nat) : List.set ws site (ws.get site) = ws := by
  by_cases h : site < ws.length
  · have hget : ws.get site = ws[site] := by simp [get, List.getD_eq_getElem?_getD, h]
    rw [hget, List.set_getElem_self]
  · rw [List.set_eq_of_length_le (by omega)]

theorem get_of_length_le (h : ws.length ≤ site) : ws.get site = default := by
  simp [get, List.getD_eq_getElem?_getD, h]

end Fleet

/-! ### Calls -/

namespace Backend

variable [Inhabited σ] {b : Backend γ σ φ κ}

theorem perform_fleet (op : Operation) : b.fleet.perform op = atSite (b.perform op) := by
  funext f ws
  cases op with
  | useData use => cases use <;> rfl
  | _ => rfl

theorem create_fleet_ok {g : Attached γ} {ws ws' : Fleet σ} {f : Attached φ}
    (h : b.fleet.create g ws = (.ok f, ws')) :
    ∃ f₀ w, b.create g.value (ws.get g.site) = (.ok f₀, w) ∧ f = ⟨g.site, f₀⟩ ∧
      ws' = ws.set g.site w := by
  have hanswer : (b.create g.value (ws.get g.site)).1.map (Attached.mk g.site) = .ok f :=
    congrArg Prod.fst h
  have hworld : List.set ws g.site (b.create g.value (ws.get g.site)).2 = ws' :=
    congrArg Prod.snd h
  rcases hcreate : b.create g.value (ws.get g.site) with ⟨e | f₀, w⟩
  · rw [hcreate] at hanswer
    cases hanswer
  · rw [hcreate] at hanswer hworld
    exact ⟨f₀, w, rfl, (Except.ok.inj hanswer).symm, hworld.symm⟩

theorem create_fleet_error {g : Attached γ} {ws ws' : Fleet σ} {e : Facade.Error}
    (h : b.fleet.create g ws = (.error e, ws')) :
    ∃ w, b.create g.value (ws.get g.site) = (.error e, w) ∧ ws' = ws.set g.site w := by
  have hanswer : (b.create g.value (ws.get g.site)).1.map (Attached.mk g.site) = .error e :=
    congrArg Prod.fst h
  have hworld : List.set ws g.site (b.create g.value (ws.get g.site)).2 = ws' :=
    congrArg Prod.snd h
  rcases hcreate : b.create g.value (ws.get g.site) with ⟨e' | f₀, w⟩
  · rw [hcreate] at hanswer hworld
    cases hanswer
    exact ⟨w, rfl, hworld.symm⟩
  · rw [hcreate] at hanswer
    cases hanswer

/-- A facade that is made and opened in a fleet is one that is made and opened in
the world at its place. -/
theorem makeFacade_fleet {g : Attached γ} {ws : Fleet σ} (hsite : g.site < ws.length) :
    Provider.makeFacade b.fleet g ws =
      ((Provider.makeFacade b g.value (ws.get g.site)).1.map (Attached.mk g.site),
        ws.set g.site (Provider.makeFacade b g.value (ws.get g.site)).2) := by
  have hcreate : b.fleet.create g ws =
      ((b.create g.value (ws.get g.site)).1.map (Attached.mk g.site),
        ws.set g.site (b.create g.value (ws.get g.site)).2) := rfl
  simp only [Provider.makeFacade, hcreate]
  rcases b.create g.value (ws.get g.site) with ⟨e | f, w⟩
  · rfl
  -- the facade is opened in the world that its creation left at the same place
  · have hopen : b.fleet.openUp ⟨g.site, f⟩ (ws.set g.site w) =
        ⟨(b.openUp f w).answer, ⟨g.site, (b.openUp f w).facade⟩,
          ws.set g.site (b.openUp f w).world⟩ := by
      show atSite b.openUp ⟨g.site, f⟩ (ws.set g.site w) = _
      simp only [atSite, Fleet.get_set_self hsite, List.set_set]
    simp only [Except.map, hopen]
    cases (b.openUp f w).answer <;> rfl

/-- A description of facades is one of attached facades. -/
theorem Describes.fleet {P : Stage → φ → Prop} (h : b.Describes P) :
    b.fleet.Describes fun q f => P q f.value where
  made {g ws f ws'} hcreate := by
    obtain ⟨f₀, w, hmade, rfl, -⟩ := create_fleet_ok hcreate
    exact h.made hmade
  call ws hpermits hf := by
    rw [perform_fleet]
    exact h.call _ hpermits hf

end Backend

/-! ### Handlings -/

namespace Fleet

/-- The facades at one place. -/
def residents (site : Nat) (H : List (Attached φ)) : List φ :=
  H.filterMap fun f => if f.site = site then some f.value else none

theorem residents_cons_self (site : Nat) (f : φ) (H : List (Attached φ)) :
    residents site (⟨site, f⟩ :: H) = f :: residents site H := by
  simp [residents]

theorem residents_cons_of_ne {site site' : Nat} (h : site' ≠ site) (f : φ)
    (H : List (Attached φ)) : residents site (⟨site', f⟩ :: H) = residents site H := by
  simp [residents, h]

theorem mem_residents {site : Nat} {H : List (Attached φ)} {f : φ} :
    f ∈ residents site H ↔ ⟨site, f⟩ ∈ H := by
  simp only [residents, List.mem_filterMap]
  constructor
  · rintro ⟨⟨k, g⟩, hmem, hsome⟩
    split at hsome
    · rename_i hk
      subst hk
      cases hsome
      exact hmem
    · cases hsome
  · intro hmem
    exact ⟨⟨site, f⟩, hmem, if_pos rfl⟩

end Fleet

namespace Handling

variable [Inhabited σ] {b : Backend γ σ φ κ} {s s' : List (Attached φ) × Fleet σ} {site : Nat}

theorem length_fleet (h : Handling b.fleet s s') : s'.2.length = s.2.length := by
  cases h with
  | regroup hH => rfl
  | make hmake =>
    have hworld := congrArg Prod.snd hmake
    simp only [Backend.fleet] at hworld
    rw [← hworld, List.length_set]
  | notMade hmake =>
    have hworld := congrArg Prod.snd hmake
    simp only [Backend.fleet] at hworld
    rw [← hworld, List.length_set]
  | call op =>
    rw [Backend.perform_fleet]
    exact List.length_set
  | drop => rfl

/-- What happens to the facades of a fleet is, at each place, something that
happens to the facades there, or nothing. -/
theorem residents (h : Handling b.fleet s s') (hsite : site < s.2.length) :
    Handlings b (Fleet.residents site s.1, s.2.get site)
      (Fleet.residents site s'.1, s'.2.get site) := by
  cases h with
  | regroup hH => exact .regroup (hH.filterMap _) _
  | make hmake =>
    obtain ⟨f, w, hcreate, rfl, rfl⟩ := Backend.create_fleet_ok hmake
    rename_i g H ws
    -- a facade of another place is not among the residents here, and its world is not this one
    by_cases hg : g.site = site
    · subst hg
      rw [Fleet.get_set_self hsite, Fleet.residents_cons_self]
      exact .single (.make hcreate)
    · rw [Fleet.get_set_of_ne hg, Fleet.residents_cons_of_ne hg]
  | notMade hmake =>
    obtain ⟨w, hcreate, rfl⟩ := Backend.create_fleet_error hmake
    rename_i g e H ws
    by_cases hg : g.site = site
    · subst hg
      rw [Fleet.get_set_self hsite]
      exact .single (.notMade hcreate)
    · rw [Fleet.get_set_of_ne hg]
  | @call op f H ws =>
    obtain ⟨site', f⟩ := f
    rw [Backend.perform_fleet]
    simp only [Backend.atSite]
    by_cases hf : site' = site
    · subst hf
      rw [Fleet.get_set_self hsite, Fleet.residents_cons_self, Fleet.residents_cons_self]
      exact .single (.call op)
    · rw [Fleet.get_set_of_ne hf, Fleet.residents_cons_of_ne hf, Fleet.residents_cons_of_ne hf]
  | @drop f H ws =>
    obtain ⟨site', f⟩ := f
    by_cases hf : site' = site
    · subst hf
      rw [Fleet.residents_cons_self]
      exact .single .drop
    · rw [Fleet.residents_cons_of_ne hf]

end Handling

/-! ### Runs -/

namespace Fleet

/-- Others act on the world at a place. -/
def lift [Inhabited σ] (act : ε → σ → σ) (e : Nat × ε) (ws : Fleet σ) : Fleet σ :=
  ws.set e.1 (act e.2 (ws.get e.1))

/-- What can happen next in a fleet. -/
inductive Move (γ ε : Type) where
  | deploy (m : Deployment.Move (Attached γ) (Nat × ε))
  /-- A provider gets another factory, such as its own at another place. -/
  | refit (i : Nat) (factory : Attached γ)

variable [Inhabited σ] {b : Backend γ σ φ κ} {act : ε → σ → σ}

/-- The deployment after a move. -/
def Move.apply (b : Backend γ σ φ κ) (act : ε → σ → σ)
    (D : Deployment (Attached γ) (Attached φ) (Fleet σ)) :
    Move γ ε → Deployment (Attached γ) (Attached φ) (Fleet σ)
  | .deploy m => m.apply b.fleet (lift act) D
  | .refit i factory =>
    match D.providers[i]? with
    | none => D
    | some p => { D with providers := D.providers.set i { p with factory } }

/-- The deployment after a list of moves. -/
def run (b : Backend γ σ φ κ) (act : ε → σ → σ) (ms : List (Move γ ε))
    (D : Deployment (Attached γ) (Attached φ) (Fleet σ)) :
    Deployment (Attached γ) (Attached φ) (Fleet σ) :=
  ms.foldl (Move.apply b act) D

/-- To attach a provider is to refit it. -/
theorem apply_attach {D : Deployment (Attached γ) (Attached φ) (Fleet σ)} {i : Nat}
    {p : Provider (Attached γ) (Attached φ)} (hi : D.providers[i]? = some p) (site : Nat) :
    Move.apply b act D (.refit i ⟨site, p.factory.value⟩) =
      { D with providers := D.providers.set i (p.attach site) } := by
  simp only [Move.apply, hi]
  rfl

/-- Each move in a fleet is a chain of handlings, or a change to one of the
worlds by others. -/
theorem apply_handlings (b : Backend γ σ φ κ) (act : ε → σ → σ)
    (D : Deployment (Attached γ) (Attached φ) (Fleet σ)) (m : Move γ ε) :
    (∃ e, m = .deploy (.environment e)) ∨
      Handlings b.fleet (D.held, D.world)
        ((Move.apply b act D m).held, (Move.apply b act D m).world) := by
  cases m with
  | deploy m =>
    obtain ⟨e, rfl⟩ | hchain := Deployment.apply_handlings b.fleet (lift act) D m
    · exact .inl ⟨e, rfl⟩
    · exact .inr hchain
  | refit i factory =>
    right
    simp only [Move.apply]
    cases hi : D.providers[i]? with
    | none => exact .refl
    | some p =>
      have hlt : i < D.providers.length := (List.getElem?_eq_some_iff.mp hi).1
      -- a factory is no facade
      exact Handlings.regroup ((Deployment.held_perm_of_provider hi).trans
        (Deployment.held_set_provider hlt { p with factory } D.world).symm) _

/-- A property of facades and of the world that they share holds at each place
after every run, if handlings in that world and others preserve it. -/
theorem held_induction (b : Backend γ σ φ κ) (act : ε → σ → σ) {I : List φ × σ → Prop}
    (hhandling : ∀ s s', Handling b s s' → I s → I s')
    (henvironment : ∀ e H w, I (H, w) → I (H, act e w)) {n : Nat} {w : σ} (hstart : I ([], w))
    (ms : List (Move γ ε)) :
    let D := run b act ms { world := List.replicate n w }
    D.world.length = n ∧ ∀ site < n, I (residents site D.held, D.world.get site) := by
  have hmove : ∀ (D : Deployment (Attached γ) (Attached φ) (Fleet σ)) (m : Move γ ε),
      (D.world.length = n ∧ ∀ site < n, I (residents site D.held, D.world.get site)) →
      (Move.apply b act D m).world.length = n ∧ ∀ site < n,
        I (residents site (Move.apply b act D m).held, (Move.apply b act D m).world.get site) := by
    intro D m hD
    -- others act on one world, or facades are handled in one; the other places do not notice
    obtain ⟨⟨k, e⟩, rfl⟩ | hchain := apply_handlings b act D m
    · refine ⟨List.length_set.trans hD.1, fun site hsite => ?_⟩
      show I (residents site D.held, Fleet.get (D.world.set k (act e (D.world.get k))) site)
      by_cases hk : k = site
      · subst hk
        rw [get_set_self (by rw [hD.1]; exact hsite)]
        exact henvironment e _ _ (hD.2 k hsite)
      · rw [get_set_of_ne hk]
        exact hD.2 site hsite
    · refine hchain.preserve (I := fun s => s.2.length = n ∧
        ∀ site < n, I (residents site s.1, Fleet.get s.2 site)) (fun s s' hstep hs => ?_) hD
      refine ⟨hstep.length_fleet.trans hs.1, fun site hsite => ?_⟩
      -- no handling adds or removes a world, so the place still exists
      have hlt : site < s.2.length := by
        rw [hs.1]
        exact hsite
      exact (hstep.residents hlt).preserve hhandling (hs.2 site hsite)
  refine List.foldlRecOn (motive := fun D : Deployment (Attached γ) (Attached φ) (Fleet σ) =>
    D.world.length = n ∧ ∀ site < n, I (residents site D.held, D.world.get site)) ms _ ?_
    fun D hD m _ => hmove D m hD
  refine ⟨List.length_replicate, fun site hsite => ?_⟩
  rw [get_replicate hsite]
  exact hstart

theorem lasting_apply {I : Provider (Attached γ) (Attached φ) → Prop}
    (hI : Provider.Lasting b.fleet I) (m : Move γ ε)
    {D : Deployment (Attached γ) (Attached φ) (Fleet σ)} (h : ∀ p ∈ D.providers, I p) :
    ∀ p ∈ (m.apply b act D).providers, I p := by
  cases m with
  | deploy m => exact Deployment.lasting_apply hI m h
  | refit i factory =>
    simp only [Move.apply]
    cases hi : D.providers[i]? with
    | none => exact h
    | some p =>
      exact Deployment.forall_mem_set h i (hI.refit factory (h p (List.mem_of_getElem? hi)))

/-- A property of providers that lasts holds of all providers of a fleet. -/
theorem lasting_run {I : Provider (Attached γ) (Attached φ) → Prop}
    (hI : Provider.Lasting b.fleet I) (ms : List (Move γ ε))
    {D : Deployment (Attached γ) (Attached φ) (Fleet σ)} (h : ∀ p ∈ D.providers, I p) :
    ∀ p ∈ (run b act ms D).providers, I p :=
  List.foldlRecOn (motive := fun D : Deployment (Attached γ) (Attached φ) (Fleet σ) =>
    ∀ p ∈ D.providers, I p) ms _ h fun _ hD m _ => lasting_apply hI m hD

end Fleet

end BranchPool
