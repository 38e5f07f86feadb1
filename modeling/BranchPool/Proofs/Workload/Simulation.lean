/-
What a simulated workload uses and does, in closed form.

* `Simulation.failures` — how many of the first branches fail;
* `Simulation.after` — the workload after its first branches;
* `Simulation.Stands`, `Simulation.Reached` — what the pool, the manager and the counts are at
  such a point; `Simulation.settle_stands` and `Simulation.Reached.step` keep this, commit by
  commit and branch by branch;
* `Simulation.workload_run` — so the report is known before the workload is run, and no count
  on the way exceeds its width.

Design note: a branch that is to be started needs a session of its own, besides those of the
branches that wait.  No branch waits longer than until more than `inFlight` do, so the most
sessions were needed when the last branch was started.
-/
import BranchPool.Proofs.Workload.Poise
import BranchPool.Workload.Simulation

namespace BranchPool.Simulation

open Provider (Account)

/-- The identifier of the branch with an index. -/
def branch (uuid : Nat → Uuid) (index : Nat) : Xid :=
  Xid.generate workloadFormatId (uuid index) (UInt32.ofNat index)

/-! ### Branches that fail -/

/-- How many of the first `n` branches fail. -/
def failures (failEvery : Option UInt32) (n : Nat) : Nat :=
  match failEvery with
  | some k => if 0 < k then n / k.toNat else 0
  | none => 0

theorem failures_zero (failEvery : Option UInt32) : failures failEvery 0 = 0 := by
  cases failEvery with
  | none => rfl
  | some k => simp [failures]

theorem failures_le (failEvery : Option UInt32) (n : Nat) : failures failEvery n ≤ n := by
  cases failEvery with
  | none => exact Nat.zero_le n
  | some k =>
    rw [failures]
    split
    · exact Nat.div_le_self n k.toNat
    · exact Nat.zero_le n

theorem failures_succ (failEvery : Option UInt32) (n : Nat) :
    failures failEvery (n + 1) = failures failEvery n + (fails failEvery n).toNat := by
  cases failEvery with
  | none => rfl
  | some k =>
    by_cases hk : 0 < k
    · simp only [failures, fails, hk, decide_true, Bool.true_and, Nat.succ_div,
        Nat.dvd_iff_mod_eq_zero]
      by_cases hmod : (n + 1) % k.toNat = 0 <;> simp [hmod]
    · simp [failures, fails, hk]

/-! ### Steps -/

/-- The workload after its first branches. -/
def after (o : Options) (uuid : Nat → Uuid) (i : Nat) : Except Provider.Error State := do
  let s ← call (Provider.openUp ResourceManager.backend) initial
  (List.range i).foldlM (fun s index => runBranch o uuid index s) s

/-- Whether the pool of a workload is poised, and its counts are as the account says. -/
structure Stands (busy : Option Xid) (xs : List Xid) (a : Account) (s : State) : Prop where
  poised : s.provider.Poised busy xs a s.manager
  committed : s.committed = a.committed
  rolledBack : s.rolledBack = a.rolledBack

variable {o : Options} {uuid : Nat → Uuid} {i : Nat} {a : Account} {s : State} {xs : List Xid}

/-- The state after a call, which leaves a provider and a manager behind. -/
def State.served (s : State) (p : Provider Config Session) (m : ResourceManager) : State :=
  { s with provider := p, manager := m }

theorem call_eq_ok {α : Type} {r : α} {p : Provider Config Session} {m : ResourceManager}
    {f : Provider Config Session → ResourceManager →
      Provider.Reply Config Session ResourceManager α}
    (h : f s.provider s.manager = ⟨.ok r, p, m⟩) : call f s = .ok (s.served p m) := by
  simp only [call, h]
  rfl

/-- Of the branches that wait, the oldest are committed, until few enough are left. -/
theorem settle_stands (limit : Nat) (h : Stands none xs a s) :
    ∃ s', settle limit xs s = .ok s' ∧ s'.pending = xs.drop (xs.length - limit) ∧
      Stands none s'.pending { a with committed := a.committed + (xs.length - limit) } s' := by
  induction xs generalizing a s with
  | nil =>
    have hnone : ([] : List Xid).length - limit = 0 := Nat.zero_sub limit
    rw [hnone]
    exact ⟨{ s with pending := [] }, rfl, rfl, h.poised, h.committed, h.rolledBack⟩
  | cons x rest ih =>
    rw [List.length_cons]
    -- a commit is due exactly when more branches wait than may be in flight
    by_cases hlimit : rest.length + 1 > limit
    · obtain ⟨p, m, hcommit, hpoised⟩ := h.poised.commit false
      have hcall : call (Provider.commit ResourceManager.backend x false) s = _ :=
        call_eq_ok hcommit
      have hnext : Stands none rest { a with committed := a.committed + 1 }
          { s.served p m with committed := s.committed + 1 } :=
        ⟨hpoised, congrArg (· + 1) h.committed, h.rolledBack⟩
      obtain ⟨s', hsettle, hpending, hstands⟩ := ih hnext
      have hmore : rest.length + 1 - limit = rest.length - limit + 1 := by omega
      refine ⟨s', ?_, ?_, ?_⟩
      · rw [settle, if_pos hlimit, hcall]
        exact hsettle
      · rw [hmore, List.drop_succ_cons]
        exact hpending
      · rw [hmore, ← Nat.add_assoc, Nat.add_right_comm]
        exact hstands
    · have hnone : rest.length + 1 - limit = 0 := by omega
      rw [hnone, settle, if_neg hlimit]
      exact ⟨{ s with pending := x :: rest }, rfl, rfl, h.poised, h.committed, h.rolledBack⟩

/-- How a branch is run once it is started. -/
def conclude (o : Options) (index : Nat) (x : Xid) : Step := fun s =>
  if fails o.failEvery index then do
    let s ← call (Provider.failAndRollback ResourceManager.backend x) s
    return { s with rolledBack := s.rolledBack + 1 }
  else do
    let s ← call (Provider.endAndPrepare ResourceManager.backend x) s
    settle o.inFlight.toNat (s.pending ++ [x]) s

/-- A branch that is unlike those that wait is started, and given a data connection. -/
theorem runBranch_begun (o : Options) (h : Stands none s.pending a s)
    (hi : branch uuid i ∉ s.pending) :
    ∃ p m, runBranch o uuid i s = conclude o i (branch uuid i) (s.served p m) ∧
      p.Poised (some (branch uuid i)) s.pending { a with
        sessions := max a.sessions (s.pending.length + 1), requests := a.requests + 1 } m := by
  -- both calls succeed on a poised provider, so the binds can be taken one by one
  obtain ⟨p, m, hstart, hstarted, -⟩ := h.poised.start hi
  obtain ⟨link, p', m', hestablish, hestablished⟩ := hstarted.establish
  have hcall : call (Provider.start ResourceManager.backend (branch uuid i)) s = _ :=
    call_eq_ok hstart
  have hcall' : call (Provider.establishConnection ResourceManager.backend) (s.served p m) = _ :=
    call_eq_ok hestablish
  refine ⟨p', m', ?_, hestablished⟩
  show (call (Provider.start ResourceManager.backend (branch uuid i)) s >>= fun s => _) = _
  rw [hcall]
  show (call (Provider.establishConnection ResourceManager.backend) (s.served p m) >>=
    fun s => _) = _
  rw [hcall']
  rfl

/-- A branch that fails is given up, and none that waits is touched. -/
theorem conclude_failing {x : Xid} (h : Stands (some x) s.pending a s)
    (hfails : fails o.failEvery i = true) :
    ∃ s', conclude o i x s = .ok s' ∧ s'.pending = s.pending ∧
      Stands none s'.pending { a with rolledBack := a.rolledBack + 1 } s' := by
  obtain ⟨p, m, hfinish, hfinished⟩ := h.poised.failAndRollback
  have hcall : call (Provider.failAndRollback ResourceManager.backend x) s = _ := call_eq_ok hfinish
  refine ⟨{ s.served p m with rolledBack := s.rolledBack + 1 }, ?_, rfl, hfinished, h.committed,
    congrArg (· + 1) h.rolledBack⟩
  rw [conclude, if_pos hfails, hcall]
  rfl

/-- Another branch is prepared, and the oldest are committed if too many wait. -/
theorem conclude_passing {x : Xid} (h : Stands (some x) s.pending a s)
    (hfails : fails o.failEvery i = false) :
    let excess := s.pending.length + 1 - o.inFlight.toNat
    ∃ s', conclude o i x s = .ok s' ∧ s'.pending = (s.pending ++ [x]).drop excess ∧
      Stands none s'.pending { a with committed := a.committed + excess } s' := by
  intro excess
  obtain ⟨p, m, hprepare, hprepared, -⟩ := h.poised.endAndPrepare
  have hcall : call (Provider.endAndPrepare ResourceManager.backend x) s = _ := call_eq_ok hprepare
  have hnext : Stands none (s.pending ++ [x]) a (s.served p m) :=
    ⟨hprepared, h.committed, h.rolledBack⟩
  -- with the branch prepared one more waits, and the oldest are committed to make room
  obtain ⟨s', hsettle, hpending, hstands⟩ := settle_stands o.inFlight.toNat hnext
  rw [List.length_append, List.length_singleton] at hpending hstands
  refine ⟨s', ?_, hpending, hstands⟩
  rw [conclude, if_neg (by simp [hfails]), hcall]
  exact hsettle

/-! ### Runs -/

/-- How many branches wait after the first ones. -/
def waiting (o : Options) (i : Nat) : Nat :=
  min o.inFlight.toNat (i - failures o.failEvery i)

/-- How many sessions there are after the first branches. -/
def sessions (o : Options) : Nat → Nat
  | 0 => 0
  | i + 1 => waiting o i + 1

/-- What is to be expected after the first branches. -/
def account (o : Options) (i : Nat) : Account where
  sessions := sessions o i
  committed := i - failures o.failEvery i - waiting o i
  rolledBack := failures o.failEvery i
  requests := i

/-- Never fewer branches wait than before. -/
theorem sessions_succ (o : Options) (i : Nat) :
    sessions o (i + 1) = max (sessions o i) (waiting o i + 1) := by
  cases i with
  | zero => exact (Nat.zero_max _).symm
  | succ i =>
    have hsucc := failures_succ o.failEvery i
    have hle := Bool.toNat_le (fails o.failEvery i)
    have hbelow := failures_le o.failEvery i
    simp only [sessions, waiting]
    omega

theorem account_failing {o : Options} {i : Nat} (h : fails o.failEvery i = true) :
    waiting o (i + 1) = waiting o i ∧
      account o (i + 1) = { account o i with
        sessions := max (sessions o i) (waiting o i + 1), requests := i + 1
        rolledBack := failures o.failEvery i + 1 } := by
  have hsucc : failures o.failEvery (i + 1) = failures o.failEvery i + 1 := by
    rw [failures_succ, h]
    rfl
  have hwaiting : waiting o (i + 1) = waiting o i := by
    rw [waiting, waiting, hsucc, Nat.add_sub_add_right]
  refine ⟨hwaiting, ?_⟩
  rw [account, hwaiting, hsucc, sessions_succ, Nat.add_sub_add_right]
  rfl

theorem account_passing {o : Options} {i : Nat} (h : fails o.failEvery i = false) :
    waiting o (i + 1) = waiting o i + 1 - (waiting o i + 1 - o.inFlight.toNat) ∧
      account o (i + 1) = { account o i with
        sessions := max (sessions o i) (waiting o i + 1), requests := i + 1
        committed := (account o i).committed + (waiting o i + 1 - o.inFlight.toNat) } := by
  have hsucc : failures o.failEvery (i + 1) = failures o.failEvery i := by
    rw [failures_succ, h]
    rfl
  have hbelow := failures_le o.failEvery i
  have hcommitted : i + 1 - failures o.failEvery i - waiting o (i + 1) =
      i - failures o.failEvery i - waiting o i + (waiting o i + 1 - o.inFlight.toNat) := by
    simp only [waiting, hsucc]
    omega
  constructor
  · simp only [waiting, hsucc]
    omega
  · rw [account, hsucc, hcommitted, sessions_succ]
    rfl

/-- Whether a workload stands as expected after its first branches, and only such branches
wait. -/
structure Reached (o : Options) (uuid : Nat → Uuid) (i : Nat) (s : State) : Prop where
  stands : Stands none s.pending (account o i) s
  waiting : s.pending.length = waiting o i
  started : ∀ x ∈ s.pending, ∃ j, j < i ∧ x = branch uuid j

namespace Reached

/-- The identifier of the next branch is not among those that wait. -/
theorem not_mem (h : Reached o uuid i s) (hi : i < UInt32.size) : branch uuid i ∉ s.pending := by
  intro hmem
  obtain ⟨j, hj, heq⟩ := h.started _ hmem
  exact Xid.generate_ne hi (Nat.lt_trans hj hi) (Nat.ne_of_gt hj) _ _ _ heq

theorem step (h : Reached o uuid i s) (hi : i < UInt32.size) :
    ∃ s', runBranch o uuid i s = .ok s' ∧ Reached o uuid (i + 1) s' := by
  obtain ⟨p, m, hrun, hbegun⟩ := runBranch_begun o h.stands (h.not_mem hi)
  rw [hrun]
  rw [h.waiting] at hbegun
  have hstands : Stands (some (branch uuid i)) (s.served p m).pending _ (s.served p m) :=
    ⟨hbegun, h.stands.committed, h.stands.rolledBack⟩
  have hearlier : ∀ x ∈ s.pending, ∃ j, j < i + 1 ∧ x = branch uuid j := by
    intro x hx
    obtain ⟨j, hj, heq⟩ := h.started x hx
    exact ⟨j, by omega, heq⟩
  -- whichever way the branch ends, the books say what `account` says of one branch more
  cases hfails : fails o.failEvery i with
  | true =>
    obtain ⟨hwaiting, haccount⟩ := account_failing hfails
    obtain ⟨s', hconclude, hpending, hstands'⟩ := conclude_failing hstands hfails
    refine ⟨s', hconclude, ?_, ?_, ?_⟩
    · rw [haccount]
      exact hstands'
    · rw [hpending, hwaiting]
      exact h.waiting
    · rw [hpending]
      exact hearlier
  | false =>
    obtain ⟨hwaiting, haccount⟩ := account_passing hfails
    obtain ⟨s', hconclude, hpending, hstands'⟩ := conclude_passing hstands hfails
    have hlength : (s.served p m).pending.length = Simulation.waiting o i := h.waiting
    rw [hlength] at hpending hstands'
    refine ⟨s', hconclude, ?_, ?_, ?_⟩
    · rw [haccount]
      exact hstands'
    · rw [hpending, hwaiting, List.length_drop, List.length_append, hlength,
        List.length_singleton]
    · intro x hx
      rw [hpending] at hx
      rcases List.mem_append.mp (List.mem_of_mem_drop hx) with hx | hx
      · exact hearlier x hx
      · exact ⟨i, Nat.lt_succ_self i, List.mem_singleton.mp hx⟩

end Reached

theorem account_zero (o : Options) : account o 0 = {} := by
  rw [account, failures_zero, Nat.zero_sub]
  rfl

/-- However many branches are run, all calls succeed. -/
theorem reached_after (o : Options) (uuid : Nat → Uuid) {i : Nat} (hi : i ≤ o.branches.toNat) :
    ∃ s, after o uuid i = .ok s ∧ Reached o uuid i s := by
  let opened := initial.served ⟨.named "simulation", some {}, {}⟩ {}
  have hopen : call (Provider.openUp ResourceManager.backend) initial = .ok opened := rfl
  have hstart : Reached o uuid 0 opened := by
    refine ⟨?_, ?_, nofun⟩
    · rw [account_zero]
      exact ⟨.opened _, rfl, rfl⟩
    · rw [waiting, failures_zero]
      exact (Nat.min_zero _).symm
  rw [after, hopen]
  exact foldlM_range hstart (fun i hi s hs => hs.step (Nat.lt_trans hi o.branches.toNat_lt)) hi

/-- What is to be expected after the first branches once none waits. -/
def settled (o : Options) (i : Nat) : Account :=
  { account o i with committed := i - failures o.failEvery i }

theorem tally_settled (o : Options) (i : Nat) :
    (settled o i).tally none [] =
      { facadesCreated := sessions o i
        branchesStarted := i
        branchesPrepared := i - failures o.failEvery i
        branchesCommitted := i - failures o.failEvery i
        branchesRolledBack := failures o.failEvery i } := by
  have hstarted :
      i - failures o.failEvery i + failures o.failEvery i + ([] : List Xid).length = i :=
    Nat.sub_add_cancel (failures_le o.failEvery i)
  simp only [Account.tally, settled, account, Option.toList_none, List.append_nil, hstarted]
  rfl

/-- At the end, all branches that wait are committed. -/
theorem Reached.settle (h : Reached o uuid i s) :
    ∃ s', Simulation.settle 0 s.pending s = .ok s' ∧ Stands none [] (settled o i) s' := by
  obtain ⟨s', hsettle, hpending, hstands⟩ := settle_stands 0 h.stands
  rw [Nat.sub_zero, List.drop_length] at hpending
  have hcommitted : (account o i).committed + (s.pending.length - 0) =
      i - failures o.failEvery i := by
    have hle : Simulation.waiting o i ≤ i - failures o.failEvery i := Nat.min_le_right _ _
    rw [h.waiting, account, Nat.sub_zero, Nat.sub_add_cancel hle]
  rw [hpending, hcommitted] at hstands
  exact ⟨s', hsettle, hstands⟩

/-- Whether every count of a workload fits in the width that it has.  Counts only grow, so if
they fit after a step, they fitted all through it. -/
structure State.InRange (s : State) : Prop where
  committed : s.committed < UInt32.size
  rolledBack : s.rolledBack < UInt32.size
  connections : s.manager.connectionsOpened < UInt64.size
  links : s.manager.lastConnectionId < UInt64.size
  tally : ∀ e ∈ s.provider.tally.entries, e.2 < UInt64.size

/-- Few branches make for low counts. -/
theorem Stands.inRange (h : Stands none xs a s)
    (hbranches : a.committed + a.rolledBack + xs.length < UInt32.size)
    (hsessions : a.sessions < UInt32.size) (hrequests : a.requests < UInt32.size) :
    s.InRange := by
  -- the account bounds every counter by 32 bits, and those of the tally have 64
  have hsize : UInt32.size ≤ UInt64.size := by decide
  have hlinks := h.poised.links
  refine ⟨?_, ?_, ?_, by omega, ?_⟩
  · rw [h.committed]
    omega
  · rw [h.rolledBack]
    omega
  · rw [h.poised.connections]
    omega
  · rw [h.poised.tally]
    intro e he
    simp only [Tally.entries, Account.tally, List.mem_cons, List.not_mem_nil, or_false] at he
    rcases he with rfl | rfl | rfl | rfl | rfl | rfl | rfl | rfl | rfl <;> simp <;> omega

theorem sessions_le (o : Options) (i : Nat) : sessions o i ≤ i := by
  cases i with
  | zero => exact Nat.le_refl 0
  | succ i =>
    simp only [sessions, waiting]
    omega

theorem sessions_eq (o : Options) (n : Nat) : sessions o n =
    if n = 0 then 0 else min o.inFlight.toNat (n - 1 - failures o.failEvery (n - 1)) + 1 := by
  cases n <;> rfl

theorem run_eq (o : Options) (uuid : Nat → Uuid) :
    run o uuid = (do
      let s ← after o uuid o.branches.toNat
      let s ← settle 0 s.pending s
      let _ ← call (Provider.close ResourceManager.backend) s
      return {
        branches := o.branches.toNat
        committed := s.committed
        rolledBack := s.rolledBack
        connectionsOpened := s.manager.connectionsOpened
        idleFacades := s.provider.idleCount
        tally := s.provider.tally }) := by
  simp only [run, after, bind_assoc]

/-- Whatever the identifiers of the transactions are, and even if some are alike, a workload
succeeds.  All branches are started; those that fail are rolled back, and the others are
prepared and committed.  It takes as many sessions as branches waited when the last one was
started, and one for that one.  No count exceeds its width, neither after any number of the
branches nor if those that wait are committed then. -/
theorem workload_run (o : Options) (uuid : Nat → Uuid) :
    let n := o.branches.toNat
    let r := failures o.failEvery n
    let c := if n = 0 then 0
      else min o.inFlight.toNat (n - 1 - failures o.failEvery (n - 1)) + 1
    run o uuid = .ok
        { branches := n
          committed := n - r
          rolledBack := r
          connectionsOpened := c
          idleFacades := c
          tally :=
            { facadesCreated := c
              branchesStarted := n
              branchesPrepared := n - r
              branchesCommitted := n - r
              branchesRolledBack := r } } ∧
      ∀ i ≤ n, i < UInt32.size ∧ ∃ s s', after o uuid i = .ok s ∧ s.InRange ∧
        settle 0 s.pending s = .ok s' ∧ s'.InRange := by
  intro n r c
  have hn : n < UInt32.size := o.branches.toNat_lt
  constructor
  -- the loop first, then the commits still due, then the close, as the program takes them
  · obtain ⟨s, hafter, hreached⟩ := reached_after o uuid (Nat.le_refl n)
    obtain ⟨s', hsettle, hstands⟩ := hreached.settle
    obtain ⟨p, m, hclose⟩ := Provider.close_ok (b := ResourceManager.backend) (fun _ _ => rfl)
      s'.provider s'.manager
    have hcall : call (Provider.close ResourceManager.backend) s' = _ := call_eq_ok hclose
    have hmost : c = sessions o n := (sessions_eq o n).symm
    rw [run_eq, hafter]
    show (settle 0 s.pending s >>= fun s => _) = _
    rw [hsettle]
    show (call (Provider.close ResourceManager.backend) s' >>= fun _ => _) = _
    rw [hcall, hstands.committed, hstands.rolledBack, hstands.poised.connections,
      hstands.poised.idleCount, hstands.poised.tally, tally_settled, hmost]
    rfl
  -- the counters are looked at after every branch, and again once the pending ones are settled
  · intro i hi
    have hsize : i < UInt32.size := Nat.lt_of_le_of_lt hi hn
    obtain ⟨s, hafter, hreached⟩ := reached_after o uuid hi
    obtain ⟨s', hsettle, hstands⟩ := hreached.settle
    have hfailures := failures_le o.failEvery i
    have hsessions := sessions_le o i
    refine ⟨hsize, s, s', hafter, hreached.stands.inRange ?_ ?_ hsize, hsettle,
      hstands.inRange ?_ ?_ hsize⟩
    · rw [hreached.waiting]
      simp only [account, waiting]
      omega
    · exact Nat.lt_of_le_of_lt hsessions hsize
    · simp only [settled, account, List.length_nil]
      omega
    · exact Nat.lt_of_le_of_lt hsessions hsize

end BranchPool.Simulation
