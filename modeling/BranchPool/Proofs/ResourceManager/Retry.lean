/-
A commit that failed and is made again.

The facade of a branch goes back to the queue even if it failed to commit it, so
the second attempt is made by another facade, which is not bound to the branch.

* `Provider.Coupled` — what a session is to its provider and the manager, between
  two calls;
* `Session.commit_bound`, `Session.commit_free` — a branch whose session is bound
  to it was never prepared and is rolled back; otherwise the manager decides;
* `Provider.retried_commit_run` — so the second attempt succeeds only if the branch
  is committed by it, or was rolled back by the first one and a branch that the
  manager does not know counts as committed.
-/
import BranchPool.Proofs.Provider.Finishing
import BranchPool.Proofs.ResourceManager.Coupling

namespace BranchPool

open Facade

theorem ResourceManager.outcome?_resolve_self (m : ResourceManager) (x : Xid) (outcome : Outcome) :
    (m.resolve x outcome).outcome? x = some outcome := by
  simp [outcome?, resolve]

/-! ### Sessions -/

namespace Session

variable {s : Session} {m : ResourceManager} {x : Xid} {ignoreUnknown : Bool}

theorem commit_bound (hopen : s.isOpen = true) (hbound : s.bound = some x)
    (hactive : m.phase? x = some .active) :
    s.commit x ignoreUnknown m =
      ⟨.error (.rejected (.neverEnded x)), { s with bound := none }, m.resolve x .rolledBack⟩ := by
  simp only [commit, whenOpen, if_pos hopen, if_pos hbound, release,
    ResourceManager.abandon_of_active hactive]

theorem commit_free (hopen : s.isOpen = true) (hfree : s.bound = none) :
    s.commit x ignoreUnknown m = ask (m.commit? x ignoreUnknown) s s m := by
  have hother : ¬s.bound = some x := by simp [hfree]
  simp only [commit, whenOpen, if_pos hopen, if_neg hother]

end Session

/-! ### Providers -/

namespace Provider

/-- Whether the sessions of a provider are as the manager has it. -/
structure Coupled (p : Provider Config Session) (m : ResourceManager) : Prop where
  idle : ∀ s ∈ p.idle, s.isOpen = true ∧ s.bound = none
  bound : ∀ x s, p.boundFacade? x = some s → s.isOpen = true ∧
    (s.bound = some x ∧ m.phase? x = some .active ∨
      s.bound = none ∧ m.phase? x = some .prepared)

theorem coupled_run (ms : List (Move Bool)) (config : Config) (manager : ResourceManager) :
    let s := run ResourceManager.backend (fun available m => m.setAvailable available) ms
      ⟨.ofFactory config, manager⟩
    s.provider.Coupled s.world := by
  have hkept := contract_run Session.contract
    (fun available (m : ResourceManager) => m.setAvailable available)
    (fun _ {_ _ _ _} hfits => hfits.keep (fun _ _ => id) fun _ _ => id) ms config manager
  -- the contract is about the traced run, of which the run is the untraced half
  rw [← untraced_run]
  generalize run ResourceManager.backend.traced _ ms _ = s at hkept
  constructor
  · intro _ hmem
    have hidle : s.untraced.provider.idle = s.provider.idle.map Numbered.value := by
      obtain ⟨⟨factory, _ | s, tally⟩, w⟩ := s <;> rfl
    rw [hidle] at hmem
    obtain ⟨t, ht, rfl⟩ := List.mem_map.mp hmem
    exact fits_idle hkept ht
  · intro x _ hget
    have hbound : s.untraced.provider.boundFacade? x =
        (s.provider.boundFacade? x).map Numbered.value := by
      obtain ⟨⟨factory, _ | s, tally⟩, w⟩ := s
      · rfl
      · exact s.bound.get?_map _ x
    rw [hbound] at hget
    obtain ⟨t, ht, rfl⟩ := Option.map_eq_some_iff.mp hget
    obtain ⟨hopen, hactive, hprepared⟩ := fits_bound hkept ht
    refine ⟨hopen, ?_⟩
    -- whether the mapped branch was ever prepared is told by the last call on its facade
    by_cases hworks : s.provider.active? = some x ∨
        s.world.events.LastFailed t.number (.endAndPrepare x)
    · obtain ⟨hphase, hbusy⟩ := hactive hworks
      exact .inl ⟨hbusy, hphase⟩
    · obtain ⟨hphase, hfree⟩ := hprepared hworks
      exact .inr ⟨hfree, hphase⟩

variable {p : Provider Config Session} {m : ResourceManager} {x : Xid} {ignoreUnknown : Bool}

section Commit

/-- A commit that fails and may be made again has rolled the branch back if it was
never prepared, and else has done nothing to it. -/
theorem failed_commit (hcoupled : p.Coupled m) {s : Session} {e : Error}
    (hs : p.boundFacade? x = some s)
    (hfailed : (p.commit ResourceManager.backend x ignoreUnknown m).answer = .error e)
    (hretryable : e.retryable = true) :
    (p.commit ResourceManager.backend x ignoreUnknown m).world =
      if m.isActive x then m.resolve x .rolledBack else m := by
  have hmay : p.MayFinish (.commit ignoreUnknown) x := mayFinish_of_retryable hfailed hretryable
  have hfinisher : p.finisher ResourceManager.backend x m = (.ok s, m) := by
    simp only [finisher, hs]
  obtain ⟨hanswer, hworld⟩ := finish_of_finisher hmay hfinisher
  obtain ⟨e', he'⟩ := mapError_eq_error (hanswer.symm.trans hfailed)
  have hcall : (s.commit x ignoreUnknown m).answer = .error e' := he'
  refine hworld.trans ?_
  show (s.commit x ignoreUnknown m).world = _
  -- a branch still bound is lost with its work; a prepared one stays, as the manager refused
  obtain ⟨hopen, ⟨hbound, hactive⟩ | ⟨hfree, hprepared⟩⟩ := hcoupled.bound x s hs
  · have hisActive : m.isActive x = true := by simp [ResourceManager.isActive, hactive]
    rw [Session.commit_bound hopen hbound hactive, if_pos hisActive]
  · have hisActive : ¬m.isActive x = true := by simp [ResourceManager.isActive, hprepared]
    rw [Session.commit_free hopen hfree] at hcall ⊢
    rw [if_neg hisActive]
    cases hcommit : m.commit? x ignoreUnknown with
    | error e => rfl
    | ok m' =>
      rw [hcommit] at hcall
      cases hcall

/-- A branch that has no facade is committed by the manager or not at all. -/
theorem commit_of_idle (hcoupled : p.Coupled m) (hmay : p.MayFinish (.commit ignoreUnknown) x)
    (hbound : p.boundFacade? x = none) (hidle : p.idle ≠ [])
    (hsucceeded : (p.commit ResourceManager.backend x ignoreUnknown m).answer = .ok ()) :
    m.commit? x ignoreUnknown = .ok (p.commit ResourceManager.backend x ignoreUnknown m).world := by
  obtain ⟨s, rest, hcons⟩ := List.exists_cons_of_ne_nil hidle
  obtain ⟨hopen, hfree⟩ := hcoupled.idle s (by simp [hcons])
  have hfinisher : p.finisher ResourceManager.backend x m = (.ok s, m) :=
    finisher_of_idle hbound hcons m
  obtain ⟨hanswer, hworld⟩ := finish_of_finisher hmay hfinisher
  have hcall : (s.commit x ignoreUnknown m).answer = .ok () :=
    mapError_eq_ok.mp (hanswer.symm.trans hsucceeded)
  have hcommitted : (p.commit ResourceManager.backend x ignoreUnknown m).world =
      (s.commit x ignoreUnknown m).world := hworld
  rw [hcommitted]
  -- a free session passes the commit on, so its answer is the manager's
  rw [Session.commit_free hopen hfree] at hcall ⊢
  cases hcommit : m.commit? x ignoreUnknown with
  | error e =>
    rw [hcommit] at hcall
    cases hcall
  | ok m' => rfl

end Commit

/-- In every run of a provider that is the only user of a manager, a commit that
fails and may be made again, and succeeds when it is made again at once, whether
or not the manager became available meanwhile, has committed the branch, unless
the branch was active in the manager and those that the manager does not know
count as committed: then it was rolled back. -/
theorem retried_commit_run (ms : List (Move Bool)) (config : Config) (manager : ResourceManager)
    (x : Xid) (ignoreUnknown available : Bool) :
    let b := ResourceManager.backend
    let act := fun available (m : ResourceManager) => m.setAvailable available
    let s := run b act ms ⟨.ofFactory config, manager⟩
    let r := s.provider.commit b x ignoreUnknown s.world
    let r' := r.provider.commit b x ignoreUnknown (act available r.world)
    ∀ t e, s.provider.boundFacade? x = some t → r.answer = .error e → e.retryable = true →
      r'.answer = .ok () →
        r'.world.outcome? x =
          some (if ignoreUnknown = true ∧ s.world.isActive x = true then .rolledBack
            else .committed) := by
  intro b act s r r' t e ht hfailed hretryable hsucceeded
  have hcoupled : s.provider.Coupled s.world := coupled_run ms config manager
  have hcoupled' : r.provider.Coupled (act available r.world) := by
    have hrun := coupled_run
      (ms ++ [.call (.finish (.commit ignoreUnknown) x), .environment available]) config manager
    rw [run, List.foldl_append] at hrun
    exact hrun
  -- the first attempt is made by the session of the branch, the second by an idle one
  have hworld : r.world = if s.world.isActive x then s.world.resolve x .rolledBack else s.world :=
    failed_commit hcoupled ht hfailed hretryable
  have hmay := mayFinish_of_retryable hfailed hretryable
  obtain ⟨hmay', hnone, hidle⟩ := unbound_of_finish b hmay ht s.world
  have hnonempty : r.provider.idle ≠ [] := by
    intro hempty
    exact List.cons_ne_nil _ _ (List.append_eq_nil_iff.mp (hidle.symm.trans hempty)).2
  have hcommit := commit_of_idle hcoupled' hmay' hnone hnonempty hsucceeded
  by_cases hactive : s.world.isActive x = true
  · -- the branch is gone, and its outcome is that of the first attempt
    rw [if_pos hactive] at hworld
    have hgone : (act available r.world).phase? x = none := by
      show r.world.phase? x = none
      rw [hworld, ResourceManager.phase?_resolve, if_pos rfl]
    obtain ⟨hprepared, -⟩ | ⟨⟨-, hignore⟩, hsame⟩ := ResourceManager.commit?_eq_ok hcommit
    · rw [hgone] at hprepared
      cases hprepared
    · have houtcome : r'.world.outcome? x = r.world.outcome? x := congrArg (·.outcome? x) hsame
      rw [houtcome, hworld, ResourceManager.outcome?_resolve_self, if_pos ⟨hignore, hactive⟩]
  · -- the branch is still prepared, and the second attempt commits it
    rw [if_neg hactive] at hworld
    have hprepared : (act available r.world).phase? x = some .prepared := by
      show r.world.phase? x = some .prepared
      rw [hworld]
      obtain ⟨-, ⟨-, hphase⟩ | ⟨-, hphase⟩⟩ := hcoupled.bound x t ht
      · exact absurd (decide_eq_true hphase) hactive
      · exact hphase
    obtain ⟨-, hresolved⟩ | ⟨⟨hgone, -⟩, -⟩ := ResourceManager.commit?_eq_ok hcommit
    · have houtcome := congrArg (·.outcome? x) hresolved
      rw [if_neg fun h => hactive h.2]
      exact houtcome.trans (ResourceManager.outcome?_resolve_self _ x .committed)
    · rw [hprepared] at hgone
      cases hgone

/-- A branch is prepared, and the manager is away when it is to be committed. -/
theorem retried_commit_after_outage :
    let b := ResourceManager.backend
    let act := fun available (m : ResourceManager) => m.setAvailable available
    let x : Xid := ⟨1, [], [], by decide, by decide⟩
    let s := run b act
      [.call .openUp, .call (.start x), .call (.endAndPrepare x), .environment false]
      ⟨.ofFactory default, {}⟩
    let r := s.provider.commit b x false s.world
    let r' := r.provider.commit b x false (act true r.world)
    ∃ t e, s.provider.boundFacade? x = some t ∧ r.answer = .error e ∧ e.retryable = true ∧
      r'.answer = .ok () ∧ r'.world.outcome? x = some .committed := by
  intro b act x s r r'
  have ht : s.provider.boundFacade? x = some ⟨default, true, none, none⟩ := by decide
  have hfailed : r.answer = .error (.transient .commit (some x) ResourceManager.unreachable) := by
    rfl
  have hsucceeded : r'.answer = .ok () := by rfl
  -- the branch was prepared before the outage, so the first commit left the manager as it was
  have houtcome := retried_commit_run _ _ _ x false true _ _ ht hfailed rfl hsucceeded
  exact ⟨_, _, ht, hfailed, rfl, hsucceeded, houtcome⟩

/-- A branch could not be prepared, its commit rolls it back, and then the manager
does not know it any more, which counts as a commit if the caller says so. -/
theorem retried_commit_of_rolled_back :
    let b := ResourceManager.backend
    let act := fun available (m : ResourceManager) => m.setAvailable available
    let x : Xid := ⟨1, [], [], by decide, by decide⟩
    let s := run b act
      [.call .openUp, .call (.start x), .environment false, .call (.endAndPrepare x),
        .environment true]
      ⟨.ofFactory default, {}⟩
    let r := s.provider.commit b x true s.world
    let r' := r.provider.commit b x true (act true r.world)
    ∃ t e, s.provider.boundFacade? x = some t ∧ r.answer = .error e ∧ e.retryable = true ∧
      r'.answer = .ok () ∧ r'.world.outcome? x = some .rolledBack := by
  intro b act x s r r'
  -- the end failed in the outage: the session is still bound when the commit arrives
  have ht : s.provider.boundFacade? x = some ⟨default, true, some x, none⟩ := by decide
  have hfailed : r.answer = .error (.transient .commit (some x) (.rejected (.neverEnded x))) := by
    rfl
  have hsucceeded : r'.answer = .ok () := by rfl
  have houtcome : r'.world.outcome? x = some .rolledBack := by decide
  exact ⟨_, _, ht, hfailed, rfl, hsucceeded, houtcome⟩

end Provider

end BranchPool
