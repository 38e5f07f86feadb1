/-
What a crash leaves behind, and what becomes of it, in closed form.

* `Recovery.prepared_after` — the first provider leaves as many branches prepared as it
  should, each with a session of its own;
* `Recovery.resolveAll_eq` — to finish the branches in doubt is a run of the second provider;
* `Recovery.takeOver_run` — so the second provider is told of all these branches, in ascending
  order, and finishes them, all through one session;
* `Recovery.crash_run` — so the report is known before the workload is run.
-/
import BranchPool.Proofs.Workload.Simulation
import BranchPool.Workload.Recovery

namespace BranchPool

open Facade

/-! ### Managers and providers -/

/-- The prepared branches of a manager under a poised pool. -/
theorem Pool.Poised.prepared_eq {xs : List Xid} {s : Pool Session} {m : ResourceManager}
    (h : s.Poised none xs m) : m.prepared = Xid.sort xs := by
  have hnodup : xs.Nodup := h.nodup
  refine ResourceManager.prepared_eq (Xid.pairwise_sort hnodup) fun y => ?_
  rw [h.phase, if_neg (by simp), (Xid.sort_perm xs).mem_iff]
  by_cases hy : y ∈ xs <;> simp [hy]

namespace Recovery

open Simulation (State branch call_eq_ok)
open Provider (planMoves planTally single transcript)

variable {s : State} {xs : List Xid} {x : Xid}

/-! ### The first provider -/

/-- A branch without a session is started and prepared. -/
theorem prepareBranch_run {uuid : Nat → Uuid} {i : Nat} {a : Provider.Account}
    (h : s.provider.Poised none xs a s.manager) (hi : branch uuid i ∉ xs) :
    ∃ p m, prepareBranch uuid i s = .ok (s.served p m) ∧
      p.Poised none (xs ++ [branch uuid i])
        { a with sessions := max a.sessions (xs.length + 1) } m ∧
      p.factory = s.provider.factory := by
  obtain ⟨p, m, hstart, hstarted, hfactory⟩ := h.start hi
  obtain ⟨p', m', hprepare, hprepared, hfactory'⟩ := hstarted.endAndPrepare
  have hcall : Simulation.call (Provider.start ResourceManager.backend (branch uuid i)) s = _ :=
    call_eq_ok hstart
  have hcall' : Simulation.call (Provider.endAndPrepare ResourceManager.backend (branch uuid i))
      (s.served p m) = _ := call_eq_ok hprepare
  refine ⟨p', m', ?_, hprepared, hfactory'.trans hfactory⟩
  show (Simulation.call (Provider.start ResourceManager.backend (branch uuid i)) s >>=
    fun s => _) = _
  rw [hcall]
  exact hcall'

/-- What the first provider leaves behind. -/
theorem prepared_after (o : Options) (uuid : Nat → Uuid) :
    ∃ s, prepareAll o uuid = .ok s ∧ s.provider.factory = .named "recovery" ∧
      s.provider.Poised none ((List.range o.prepared.toNat).map (branch uuid))
        { sessions := o.prepared.toNat } s.manager := by
  let opened : State := { provider := ⟨.named "recovery", some {}, {}⟩, manager := {} }
  have hstep : ∀ i < o.prepared.toNat, ∀ s : State,
      s.provider.factory = .named "recovery" ∧
        s.provider.Poised none ((List.range i).map (branch uuid)) { sessions := i } s.manager →
      ∃ s', prepareBranch uuid i s = .ok s' ∧ s'.provider.factory = .named "recovery" ∧
        s'.provider.Poised none ((List.range (i + 1)).map (branch uuid)) { sessions := i + 1 }
          s'.manager := by
    intro i hi s ⟨hfactory, hpoised⟩
    have hlt : i < UInt32.size := Nat.lt_trans hi o.prepared.toNat_lt
    -- all numbers are below the size of a word, so this one was not used before
    have hfresh : branch uuid i ∉ (List.range i).map (branch uuid) := by
      intro hmem
      obtain ⟨j, hj, heq⟩ := List.mem_map.mp hmem
      have hj : j < i := List.mem_range.mp hj
      exact Xid.generate_ne (Nat.lt_trans hj hlt) hlt (Nat.ne_of_lt hj) _ _ _ heq
    obtain ⟨p, m, hprepare, hpoised', hfactory'⟩ := prepareBranch_run hpoised hfresh
    rw [List.length_map, List.length_range, Nat.max_eq_right (Nat.le_succ i)] at hpoised'
    refine ⟨s.served p m, hprepare, hfactory'.trans hfactory, ?_⟩
    rw [List.range_succ, List.map_append]
    exact hpoised'
  exact foldlM_range (s := opened) ⟨rfl, .opened _⟩ hstep (Nat.le_refl _)

/-! ### The second provider -/

/-- The way in which all branches in doubt are finished. -/
def way (commit : Bool) : Finish := if commit then .commit true else .rollback

theorem resolve_eq (commit : Bool) (x : Xid) (p : Restored) (ws : Fleet ResourceManager) :
    resolve commit x p ws = p.finish ResourceManager.backend.fleet (way commit) x ws := by
  cases commit <;> rfl

/-- The branches in doubt, with the way in which they are finished. -/
def planned (commit : Bool) (xs : List Xid) : List (Finish × Xid) := xs.map (way commit, ·)

theorem map_snd_planned (commit : Bool) (xs : List Xid) :
    (planned commit xs).map Prod.snd = xs := by
  rw [planned, List.map_map]
  exact List.map_id _

/-- If no call fails, to finish branches one after the other is the run that finishes them. -/
theorem resolveAll_eq (commit : Bool) (p : Restored) (ws : Fleet ResourceManager) :
    let moves := planMoves (planned commit xs)
    let done := Provider.run ResourceManager.backend.fleet Empty.elim moves ⟨p, ws⟩
    (∀ o ∈ transcript ResourceManager.backend.fleet Empty.elim moves ⟨p, ws⟩,
      o.answer = .ok .done) →
    resolveAll commit xs p ws = .ok (done.provider, done.world) := by
  induction xs generalizing p ws with
  | nil => exact fun _ => rfl
  | cons x xs ih =>
    intro moves done hanswers
    let r := p.finish ResourceManager.backend.fleet (way commit) x ws
    -- the transcript shows of a finish only that it is done, which no error is shown as
    have hfirst : (r.answer.map fun _ => (.done : Provider.Result DataLink)).map
        Provider.Result.shown = .ok .done := hanswers _ List.mem_cons_self
    have hok : r.answer = .ok () := by
      cases hanswer : r.answer with
      | ok u => rfl
      | error e =>
        rw [hanswer] at hfirst
        cases hfirst
    have hrest := ih r.provider r.world fun o ho => hanswers o (List.mem_cons_of_mem _ ho)
    rw [resolveAll, resolve_eq]
    show (r.answer.map fun u => (u, r.provider, r.world)) >>= _ = _
    rw [hok]
    exact hrest

/-- All branches are counted in the way in which they are finished. -/
theorem planTally_planned (commit : Bool) (xs : List Xid) (tally : Tally) :
    planTally (planned commit xs) tally =
      { tally with
        unmappedFinalizations := tally.unmappedFinalizations + xs.length
        branchesCommitted := tally.branchesCommitted + if commit then xs.length else 0
        branchesRolledBack := tally.branchesRolledBack + if commit then 0 else xs.length } := by
  induction xs generalizing tally with
  | nil => cases commit <;> rfl
  | cons x xs ih =>
    show planTally (planned commit xs)
      (Provider.addFinished (way commit) tally.addUnmapped) = _
    rw [ih]
    cases commit with
    | true =>
      simp [way, Provider.addFinished, Tally.addCommitted, Tally.addUnmapped]
      omega
    | false =>
      simp [way, Provider.addFinished, Tally.addRolledBack, Tally.addUnmapped]
      omega

/-- What the second provider does on a manager with prepared branches. -/
theorem takeOver_run (o : Options) (snapshot : String) (config : Config) {m : ResourceManager}
    (havailable : m.available = true) (spare : ResourceManager) :
    takeOver o snapshot (.ofFactory ⟨0, config⟩) [m, spare] = .ok
      { snapshotBytes := snapshot.utf8ByteSize
        inDoubt := m.prepared
        committed := o.commit
        remainingPrepared := 0
        tally :=
          { facadesCreated := 1
            recoveries := 1
            unmappedFinalizations := m.prepared.length
            branchesCommitted := if o.commit then m.prepared.length else 0
            branchesRolledBack := if o.commit then 0 else m.prepared.length } } := by
  let b := ResourceManager.backend.fleet
  let f : Attached Session := ⟨0, { config, isOpen := true }⟩
  let tally : Tally := { facadesCreated := 1, recoveries := 1 }
  let plan := planned o.commit m.prepared
  let found : Restored := single ⟨0, config⟩ f tally
  let done : Restored := single ⟨0, config⟩ f (planTally plan tally)
  have hplan : plan.map Prod.snd = m.prepared := map_snd_planned o.commit m.prepared
  have hrecover : Provider.recover b ⟨⟨0, config⟩, some {}, {}⟩ [m, spare] =
      ⟨.ok m.prepared, found, [m.connected, spare]⟩ :=
    Provider.recover_fresh [m, spare] 0 config Nat.zero_lt_two havailable {}
  have hnodup : (plan.map Prod.snd).Nodup := hplan ▸ m.nodup_prepared
  obtain ⟨hanswers, hrun⟩ := Provider.run_plan [m.connected, spare] (s := f.value) rfl rfl
    ⟨0, config⟩ Nat.zero_lt_two havailable hnodup
    (fun e he => ResourceManager.mem_prepared.mp (hplan ▸ List.mem_map_of_mem he)) tally
  have hresolve : resolveAll o.commit m.prepared found [m.connected, spare] =
      .ok (done, [m.connected.resolveAll plan, spare]) := by
    rw [resolveAll_eq o.commit _ _ hanswers, hrun]
    rfl
  have hnone : (m.connected.resolveAll plan).prepared = [] :=
    m.connected.prepared_resolveAll fun x hx => hplan ▸ hx
  obtain ⟨p, ws, hclose⟩ := Provider.close_ok (b := b) (fun _ _ => rfl) done
    [m.connected.resolveAll plan, spare]
  -- each call succeeds, so what comes after it goes on from what it leaves behind
  show ((Provider.recover b ⟨⟨0, config⟩, some {}, {}⟩ [m, spare]).toExcept >>= fun _ => _) = _
  rw [hrecover]
  show (resolveAll o.commit m.prepared found [m.connected, spare] >>= fun _ => _) = _
  rw [hresolve]
  show ((done.close b [m.connected.resolveAll plan, spare]).toExcept >>= fun _ => _) = _
  rw [hclose]
  show Except.ok ({
    snapshotBytes := snapshot.utf8ByteSize
    inDoubt := m.prepared
    committed := o.commit
    remainingPrepared := (m.connected.resolveAll plan).prepared.length
    tally := planTally plan tally } : Report) = _
  rw [hnone, planTally_planned]
  simp [tally]

/-! ### Runs -/

/-- The identifiers of different branches have different texts. -/
theorem nodup_texts {xs : List Xid} (h : xs.Nodup) : (xs.map Xid.text).Nodup :=
  h.map fun _ _ => Xid.text_injective

/-- Whatever the identifiers of the transactions are, and even if some are alike, a crash and the
recovery from it succeed.  The branches in doubt are those that the first provider prepared, in
ascending order, and no two of them have the same text.  All are finished in the way that was
chosen, through one session, and the text that survives the crash is always the same. -/
theorem crash_run (o : Options) (uuid : Nat → Uuid) :
    let n := o.prepared.toNat
    let xs := (List.range n).map (branch uuid)
    let survivor : Provider Config Session := .ofFactory (.named "recovery")
    run o uuid = .ok
        { snapshotBytes := (Snapshot.text form survivor).utf8ByteSize
          inDoubt := Xid.sort xs
          committed := o.commit
          remainingPrepared := 0
          tally :=
            { facadesCreated := 1
              recoveries := 1
              unmappedFinalizations := n
              branchesCommitted := if o.commit then n else 0
              branchesRolledBack := if o.commit then 0 else n } } ∧
      (Xid.sort xs).Pairwise (· < ·) ∧ ((Xid.sort xs).map Xid.text).Nodup ∧
      (Xid.sort xs).length = n := by
  intro n xs survivor
  obtain ⟨s, hprepare, hfactory, hpoised⟩ := prepared_after o uuid
  obtain ⟨pool, hpool, hsessions⟩ := hpoised.pool
  have hnodup : xs.Nodup := hsessions.nodup
  have hdoubt : s.manager.prepared = Xid.sort xs := hsessions.prepared_eq
  have hlength : (Xid.sort xs).length = n := by
    rw [(Xid.sort_perm xs).length_eq, List.length_map, List.length_range]
  refine ⟨?_, Xid.pairwise_sort hnodup,
    nodup_texts ((Xid.sort_perm xs).nodup_iff.mpr hnodup), hlength⟩
  -- the text depends on the settings alone, so it is that of a provider that has done nothing
  have htext : Snapshot.text form s.provider = Snapshot.text form survivor :=
    congrArg (fun config => Snapshot.text form (.ofFactory config)) hfactory
  have hrestore : Snapshot.restore (φ := Session) Snapshot.sessionFactory
      (Snapshot.text form survivor) [s.manager] =
        .ok (.ofFactory ⟨1, .named "recovery"⟩, [s.manager, {}]) :=
    Snapshot.restore_render Snapshot.sessionFactory_lossless [] [] nofun nofun _ [s.manager]
  have hresolve := takeOver_run o (Snapshot.text form survivor) (.named "recovery")
    hsessions.available {}
  rw [hdoubt, hlength] at hresolve
  have htake : takeOver o (Snapshot.text form survivor)
      ((Provider.ofFactory ⟨1, .named "recovery"⟩ : Restored).attach 0) [s.manager, {}] = _ :=
    hresolve
  simp only [run, hprepare, Except.mapError, bind, Except.bind, htext, hrestore, htake]

end Recovery

end BranchPool
