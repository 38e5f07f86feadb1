/-
A pool of sessions and the resource manager beneath.

* `Session.Fits` — what a session is at each stage: an idle one is open and
  free, an active one works on its branch, and an ended one works on it still if
  the branch could not be prepared;
* `Session.contract` — sessions keep this, and never complain about misuse;
* `Provider.coupling_run` — so the pool, the sessions and the manager agree
  after every run, however often the manager became unavailable.
-/
import BranchPool.Proofs.Provider.Contract
import BranchPool.Proofs.ResourceManager.Answers
import BranchPool.Proofs.ResourceManager.SessionEffect

namespace BranchPool

open Facade

namespace Session

variable {s s' : Session} {m m' : ResourceManager} {q q' : Stage} {op : Operation} {ok : Bool}
  {bound : Xid → Prop}

/-- Whether a session works on a branch that is active. -/
def WorksOn (s : Session) (m : ResourceManager) (x : Xid) : Prop :=
  s.isOpen = true ∧ s.bound = some x ∧ m.phase? x = some .active

/-- What a session is at a stage, if `ok` tells whether its latest call
succeeded. -/
def Fits (m : ResourceManager) : Stage → Bool → Session → Prop
  | .made, _, s => s.isOpen = false ∧ s.bound = none
  | .idle, _, s => s.isOpen = true ∧ s.bound = none
  | .active x, _, s => s.WorksOn m x
  | .ended x, false, s => s.WorksOn m x
  | .ended x, true, s => s.isOpen = true ∧ s.bound = none ∧ m.phase? x = some .prepared
  | .rejected, _, s => s.isOpen = true ∧ s.bound = none
  | _, _, _ => True

theorem WorksOn.sound {x : Xid} (h : s.WorksOn m x) : s.Sound m := by
  intro y hy
  obtain rfl : x = y := Option.some_inj.mp (h.2.1.symm.trans hy)
  exact ⟨h.1, h.2.2⟩

theorem sound_of_free (h : s.bound = none) : s.Sound m := by
  intro x hx
  rw [h] at hx
  cases hx

/-- A session that may be called is sound, and bound to the branch of its
stage if at all. -/
theorem Fits.sound (h : Fits m q ok s) (hq : ¬q.IsFinal) : s.Sound m := by
  cases q with
  | made => exact sound_of_free h.2
  | idle => exact sound_of_free h.2
  | active x => exact h.sound
  | ended x =>
    cases ok with
    | false => exact h.sound
    | true => exact sound_of_free h.2.1
  | rejected => exact sound_of_free h.2
  | _ => exact absurd trivial hq

theorem Fits.branch? (h : Fits m q ok s) (hq : ¬q.IsFinal) {x : Xid} (hx : s.bound = some x) :
    q.branch? = some x := by
  cases q with
  | made => rw [h.2] at hx; cases hx
  | idle => rw [h.2] at hx; cases hx
  | active y => exact h.2.1.symm.trans hx
  | ended y =>
    cases ok with
    | false => exact h.2.1.symm.trans hx
    | true => rw [h.2.1] at hx; cases hx
  | rejected => rw [h.2] at hx; cases hx
  | _ => exact absurd trivial hq

/-- A permitted call leaves a session as it should be at its next stage. -/
theorem Fits.next (hpermits : q.Permits bound op) (h : Fits m q ok s) {ok' : Bool}
    (heffect : Effect s m op ok' s' m') (hopen : (q.after op ok').IsFinal ∨ s'.isOpen = true) :
    Fits m' (q.after op ok') ok' s' := by
  -- by stage and permitted call: `hopen` keeps the session open, the effect tells its binding
  cases q with
  | made =>
    cases op with
    | openUp =>
      cases ok' with
      | false => trivial
      | true => exact ⟨hopen.resolve_left id, (heffect.still rfl nofun).1.trans h.2⟩
    | _ => exact hpermits.elim
  | idle =>
    cases op with
    | close => trivial
    | recover => exact ⟨hopen.resolve_left id, (heffect.still rfl nofun).1.trans h.2⟩
    | finish how x => exact ⟨hopen.resolve_left id, heffect.of_finish (.inl h.2)⟩
    | start x =>
      have hstart := heffect.of_start
      cases ok' with
      | false => exact ⟨hopen.resolve_left id, hstart.trans h.2⟩
      | true => exact ⟨hopen.resolve_left id, hstart⟩
    | _ => exact hpermits.elim
  | active x =>
    cases op with
    | close => trivial
    | useData use =>
      obtain ⟨hbound, hbranches⟩ := heffect.still rfl nofun
      exact ⟨hopen.resolve_left id, hbound.trans h.2.1,
        (ResourceManager.phase?_congr hbranches x).trans h.2.2⟩
    | endAndPrepare y =>
      obtain rfl : y = x := hpermits
      have hend := heffect.of_endAndPrepare
      cases ok' with
      | false => exact ⟨hopen.resolve_left id, hend.1.trans h.2.1, hend.2.trans h.2.2⟩
      | true => exact ⟨hopen.resolve_left id, hend⟩
    | finish how y =>
      obtain ⟨rfl, -⟩ := hpermits
      exact ⟨hopen.resolve_left id, heffect.of_finish (.inr h.2.1)⟩
    | _ => exact hpermits.elim
  | ended x =>
    cases op with
    | close => trivial
    | finish how y =>
      obtain rfl : y = x := hpermits
      refine ⟨hopen.resolve_left id, heffect.of_finish ?_⟩
      -- after a failed end the branch is still bound, after a successful one it is prepared
      cases ok with
      | false => exact .inr h.2.1
      | true => exact .inl h.2.1
    | _ => exact hpermits.elim
  | rejected =>
    cases op with
    | close => trivial
    | _ => exact hpermits.elim
  | _ => exact hpermits.elim

/-- A session does not mind what becomes of branches that are not its own. -/
theorem Fits.keep (h : Fits m q' ok s')
    (hactive : ∀ x, q'.branch? = some x → m.phase? x = some .active → m'.phase? x = some .active)
    (hprepared : ∀ x, q'.branch? = some x → m.phase? x = some .prepared →
      m'.phase? x = some .prepared) : Fits m' q' ok s' := by
  cases q' with
  | active x => exact ⟨h.1, h.2.1, hactive x rfl h.2.2⟩
  | ended x =>
    cases ok with
    | false => exact ⟨h.1, h.2.1, hactive x rfl h.2.2⟩
    | true => exact ⟨h.1, h.2.1, hprepared x rfl h.2.2⟩
  | _ => exact h

/-- A session that may be called is open, unless it has yet to be opened. -/
theorem Fits.isOpen (h : Fits m q ok s) (hpermits : q.Permits bound op) :
    q = .made ∧ op = .openUp ∨ s.isOpen = true := by
  cases q with
  | made =>
    cases op with
    | openUp => exact .inl ⟨rfl, rfl⟩
    | _ => exact hpermits.elim
  | idle => exact .inr h.1
  | active x => exact .inr h.1
  | ended x => cases ok <;> exact .inr h.1
  | rejected => exact .inr h.1
  | _ => exact hpermits.elim

/-- A session that may be called has nothing to complain about. -/
theorem Fits.proper (h : Fits m q ok s) (hpermits : q.Permits bound op) :
    Proper (ResourceManager.backend.perform op s m).answer := by
  refine proper_perform ?_ ?_ ?_
  · obtain ⟨-, hop⟩ | hopen := h.isOpen hpermits
    · exact .inl hop
    · exact .inr (.inr hopen)
  · rintro x rfl
    -- a start is permitted at the idle stage only, where the session is free
    cases q <;> first | exact h.2 | exact hpermits.elim
  · rintro x rfl
    cases q with
    | active y =>
      obtain rfl : x = y := hpermits
      exact h.2.1
    | _ => exact hpermits.elim

/-- A session that was called is open, unless it will not be called again. -/
theorem Fits.isFinal_or_isOpen (h : Fits m q ok s) (hpermits : q.Permits bound op) :
    let r := ResourceManager.backend.perform op s m
    (q.after op r.answer.isOk).IsFinal ∨ r.facade.isOpen = true := by
  by_cases hclose : op = .close
  · subst hclose
    cases q <;> exact .inl trivial
  -- a session still closed has just been made, and opening it either works or is final
  obtain ⟨rfl, rfl⟩ | hopen := h.isOpen hpermits
  · have hclosed : ¬s.isOpen = true := by simp [h.1]
    simp only [Backend.perform, ResourceManager.backend, openUp, if_neg hclosed]
    cases m.connect? with
    | error e => exact .inl trivial
    | ok m' => exact .inr rfl
  · exact .inr (isOpen_perform hopen hclose)

/-- What a pool may rely on if its facades are sessions. -/
theorem contract : ResourceManager.backend.Contract Fits (fun _ => Proper) where
  made h := by
    cases h
    exact ⟨rfl, rfl⟩
  create _ {_ _ _ _} h := h
  call {bound q op m ok s} hpermits h := by
    have heffect := effect_perform op (h.sound hpermits.not_isFinal)
    exact ⟨h.proper hpermits, h.next hpermits heffect (h.isFinal_or_isOpen hpermits)⟩
  others {bound q op m ok s q' ok' s'} hpermits h h' hother := by
    have hfinal := hpermits.not_isFinal
    have heffect := effect_perform op (h.sound hfinal)
    -- another facade's branch is neither the one bound here nor the one the call names
    refine h'.keep (fun x hx hactive => ?_) fun x hx hprepared => ?_
    · refine heffect.active_of_active (fun hbound => ?_) hactive
      exact (hother x hx).1 (h.branch? hfinal hbound)
    · refine (heffect.prepared_iff (h.sound hfinal) x).mpr (.inr ⟨hprepared, ?_⟩)
      rintro ⟨how, rfl, -⟩
      exact (hother x hx).2 rfl

end Session

/-! ### Runs -/

/-- Whether the latest call on a facade was this one, and failed. -/
def History.LastFailed (h : History) (i : Nat) (op : Operation) : Prop :=
  ∃ e, h.last? i = some ⟨i, op, .error e⟩

namespace Provider

/-- A session that is bound to an ended branch works on it if and only if the
branch could not be prepared. -/
theorem fits_ended {h : History} (horderly : h.Orderly) {m : ResourceManager} {i : Nat} {x : Xid}
    {s : Session} (hstage : h.stage i = .ended x) (hfits : s.Fits m (.ended x) (h.lastOk i)) :
    (h.LastFailed i (.endAndPrepare x) ∧ s.WorksOn m x) ∨
      (¬h.LastFailed i (.endAndPrepare x) ∧ s.isOpen = true ∧ s.bound = none ∧
        m.phase? x = some .prepared) := by
  -- the latest call is the one that ended the branch, so its answer decides
  obtain ⟨answer, hlast⟩ := History.last?_of_ended horderly hstage
  rw [History.lastOk, hlast] at hfits
  cases answer with
  | error e => exact .inl ⟨⟨e, hlast⟩, hfits⟩
  | ok u =>
    refine .inr ⟨?_, hfits⟩
    rintro ⟨e, he⟩
    rw [hlast] at he
    cases he

section Kept

variable {s : State Config (Numbered Session) (Trace ResourceManager Session)}
  (hkept : Backend.Contract.Kept Session.Fits (fun _ => Proper) (s.provider.muster s.world))

include hkept

/-- The session that is bound to a branch is open.  It works on the branch if the
branch is active or could not be prepared, and else it is free and the branch is
prepared. -/
theorem fits_bound {x : Xid} {t : Numbered Session} (ht : s.provider.boundFacade? x = some t) :
    t.value.isOpen = true ∧
      (s.provider.active? = some x ∨ s.world.events.LastFailed t.number (.endAndPrepare x) →
        s.world.world.phase? x = some .active ∧ t.value.bound = some x) ∧
      (¬(s.provider.active? = some x ∨ s.world.events.LastFailed t.number (.endAndPrepare x)) →
        s.world.world.phase? x = some .prepared ∧ t.value.bound = none) := by
  have hmem := mem_roster_of_bound ht
  have hfits := hkept.fits _ hmem
  have hstage := hkept.books.stage _ hmem
  -- a mapped facade is active, or has ended its branch: then the last call on it tells how
  by_cases hactive : s.provider.active? = some x
  · rw [if_pos hactive] at hfits
    exact ⟨hfits.1, fun _ => ⟨hfits.2.2, hfits.2.1⟩, fun hnot => absurd (.inl hactive) hnot⟩
  · rw [if_neg hactive] at hfits hstage
    obtain ⟨hfailed, hworks⟩ | ⟨hok, hprepared⟩ := fits_ended hkept.books.orderly hstage hfits
    · exact ⟨hworks.1, fun _ => ⟨hworks.2.2, hworks.2.1⟩, fun hnot => absurd (.inr hfailed) hnot⟩
    · exact ⟨hprepared.1, fun hor => absurd (hor.resolve_left hactive) hok,
        fun _ => ⟨hprepared.2.2, hprepared.2.1⟩⟩

theorem fits_idle {t : Numbered Session} (ht : t ∈ s.provider.idle) :
    t.value.isOpen = true ∧ t.value.bound = none :=
  hkept.fits _ (mem_roster_of_idle ht)

theorem isOpen_of_mem_facades {t : Numbered Session} (ht : t ∈ s.provider.facades) :
    t.value.isOpen = true := by
  obtain ⟨x, hx⟩ | hidle := s.provider.mem_facades_iff.mp ht
  · exact (fits_bound hkept hx).1
  · exact (fits_idle hkept hidle).1

end Kept

/-- The pool, its sessions and the manager agree after every run of a provider
that is the only user of the manager, however the manager became available or
unavailable between two calls. -/
theorem coupling_run (ms : List (Move Bool)) (config : Config) (manager : ResourceManager) :
    let b := ResourceManager.backend
    let act := fun available (m : ResourceManager) => m.setAvailable available
    let s := run b.traced (Trace.lift act) ms (.fresh config manager)
    let p := s.provider
    let h := s.world.events
    let m := s.world.world
    s.untraced = run b act ms ⟨.ofFactory config, manager⟩ ∧
      (∀ t ∈ p.facades, t.value.isOpen = true) ∧
      (∀ t ∈ p.idle, t.value.bound = none) ∧
      (∀ x t, p.boundFacade? x = some t →
        (p.active? = some x ∨ h.LastFailed t.number (.endAndPrepare x) →
          m.phase? x = some .active ∧ t.value.bound = some x) ∧
        (¬(p.active? = some x ∨ h.LastFailed t.number (.endAndPrepare x)) →
          m.phase? x = some .prepared ∧ t.value.bound = none)) ∧
      (∀ e ∈ h, Proper e.answer) ∧
      s.untraced.provider.isOpen b s.untraced.world = p.active?.isSome := by
  intro b act s p h m
  -- availability is nothing that a session depends on between two calls
  have hkept := contract_run Session.contract act
    (fun _ {_ _ _ _} hfits => hfits.keep (fun _ _ => id) fun _ _ => id) ms config manager
  have hsound : p.Sound := sound_run ms (sound_ofFactory config)
  refine ⟨untraced_run b act ms config manager, fun t ht => isOpen_of_mem_facades hkept ht,
    fun t ht => (fits_idle hkept ht).2, fun x t ht => (fits_bound hkept ht).2, hkept.allowed, ?_⟩
  rw [isOpen_untraced]
  exact hsound.isOpen fun x t _ ht => (fits_bound hkept ht).1

end Provider

end BranchPool
