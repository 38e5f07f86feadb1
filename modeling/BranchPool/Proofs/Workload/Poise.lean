/-
A pool of sessions at work, while its manager is available and nobody else works there.

* `foldlM_range` — what each pass of a loop keeps, the loop keeps;
* `Xid.generate_ne` — branches with different numbers have different identifiers, whatever the
  identifiers of their transactions are;
* `Pool.Poised` — whether the sessions are as they should be between two calls: at most one works
  on a branch, those whose branches are prepared hold no work, and the others are idle;
* `Provider.Account`, `Provider.Poised` — how many sessions there are and how many branches were
  finished, and whether the pool is poised and its counters say so;
* `Provider.Poised.start` and its neighbours — each call of a workload succeeds, and leaves the
  pool poised with the account that is to be expected.
-/
import BranchPool.Proofs.Provider.Demand
import BranchPool.Proofs.Register.Session
import BranchPool.Uuid

namespace BranchPool

open Facade

/-! ### Loops -/

/-- What each pass of a loop keeps, if it goes on to the next one, holds after any number of
passes, and none of them fails. -/
theorem foldlM_range {ε σ : Type} {step : σ → Nat → Except ε σ} {I : Nat → σ → Prop} {n : Nat}
    {s : σ} (hstart : I 0 s)
    (hstep : ∀ i < n, ∀ s, I i s → ∃ s', step s i = .ok s' ∧ I (i + 1) s') {i : Nat} (hi : i ≤ n) :
    ∃ s', (List.range i).foldlM step s = .ok s' ∧ I i s' := by
  induction i with
  | zero => exact ⟨s, rfl, hstart⟩
  | succ i ih =>
    obtain ⟨s', hrun, hs'⟩ := ih (Nat.le_of_succ_le hi)
    obtain ⟨s'', hnext, hs''⟩ := hstep i hi s' hs'
    refine ⟨s'', ?_, hs''⟩
    rw [List.range_succ, List.foldlM_append, hrun]
    show (step s' i >>= fun s => pure s) = _
    rw [hnext]
    rfl

/-! ### Identifiers -/

theorem bigEndian_injective {n n' : UInt32} (h : bigEndian n = bigEndian n') : n = n' := by
  -- the words agree byte by byte, and each byte is a digit to the base 256
  simp only [bigEndian, List.cons.injEq, and_true] at h
  obtain ⟨h₃, h₂, h₁, h₀⟩ := h
  refine UInt32.toNat_inj.mp ?_
  replace h₃ := congrArg UInt8.toNat h₃
  replace h₂ := congrArg UInt8.toNat h₂
  replace h₁ := congrArg UInt8.toNat h₁
  replace h₀ := congrArg UInt8.toNat h₀
  have hn := n.toNat_lt
  have hn' := n'.toNat_lt
  simp at h₃ h₂ h₁ h₀
  omega

/-- Branches with different numbers differ, even in one transaction. -/
theorem Xid.generate_ne {i j : Nat} (hi : i < UInt32.size) (hj : j < UInt32.size) (hij : i ≠ j)
    (formatId : Int32) (uuid uuid' : Uuid) :
    generate formatId uuid (UInt32.ofNat i) ≠ generate formatId uuid' (UInt32.ofNat j) := by
  intro heq
  have hnumber := congrArg UInt32.toNat (bigEndian_injective (congrArg Xid.qualifier heq))
  rw [UInt32.toNat_ofNat_of_lt' hi, UInt32.toNat_ofNat_of_lt' hj] at hnumber
  exact hij hnumber

variable {busy : Option Xid} {xs : List Xid} {x : Xid} {m m' : ResourceManager} {f : Session}

/-! ### Pools -/

/-- Whether the sessions of a pool are as they should be between two calls, if `busy` is the
branch that one of them works on and `xs` are those that are prepared: no other branch is
live, nor has a session. -/
structure Pool.Poised (busy : Option Xid) (xs : List Xid) (s : Pool Session)
    (m : ResourceManager) : Prop where
  active : s.active = busy
  available : m.available = true
  idle : ∀ f ∈ s.idle, f.isOpen = true ∧ f.bound = none
  bound : ∀ x f, s.bound.get? x = some f →
    f.isOpen = true ∧ f.bound = if busy = some x then some x else none
  keys : s.bound.keys.Perm (busy.toList ++ xs)
  phase : ∀ x, m.phase? x =
    if busy = some x then some .active else if x ∈ xs then some .prepared else none

namespace Pool.Poised

variable {s : Pool Session}

theorem empty (havailable : m.available = true) (hphase : ∀ x, m.phase? x = none) :
    Poised none [] {} m where
  active := rfl
  available := havailable
  idle f hf := by cases hf
  bound x f hf := by cases hf
  keys := List.Perm.refl []
  phase x := by simp [hphase]

theorem nodup (h : s.Poised busy xs m) : (busy.toList ++ xs).Nodup :=
  h.keys.nodup_iff.mp s.bound.nodup_keys

theorem size_bound (h : s.Poised busy xs m) : s.bound.size = (busy.toList ++ xs).length := by
  rw [← h.keys.length_eq, BranchMap.keys, List.length_map, BranchMap.size]

theorem exists_get? (h : s.Poised busy xs m) (hx : x ∈ busy.toList ++ xs) :
    ∃ f, s.bound.get? x = some f :=
  s.bound.mem_keys_iff.mp (h.keys.mem_iff.mpr hx)

theorem get?_eq_none (h : s.Poised busy xs m) (hx : x ∉ busy.toList ++ xs) :
    s.bound.get? x = none := by
  refine Option.eq_none_iff_forall_ne_some.mpr fun f hf => ?_
  exact hx (h.keys.mem_iff.mp (s.bound.mem_keys_iff.mpr ⟨f, hf⟩))

/-- The session of the active branch works on it. -/
theorem worksOn (h : s.Poised (some x) xs m) (hf : s.bound.get? x = some f) : f.WorksOn m x := by
  obtain ⟨hopen, hbound⟩ := h.bound x f hf
  rw [if_pos rfl] at hbound
  exact ⟨hopen, hbound, by rw [h.phase, if_pos rfl]⟩

/-- Other sessions are idle, and the manager has the branches that it had. -/
theorem withIdle (h : s.Poised busy xs m) {fs : List Session}
    (hfs : ∀ f ∈ fs, f.isOpen = true ∧ f.bound = none) (havailable : m'.available = true)
    (hbranches : m'.branches = m.branches) : Poised busy xs { s with idle := fs } m' where
  active := h.active
  available := havailable
  idle := hfs
  bound := h.bound
  keys := h.keys
  phase y := (ResourceManager.phase?_congr hbranches y).trans (h.phase y)

theorem bindActive (h : s.Poised none xs m) (hx : x ∉ xs) (hopen : f.isOpen = true)
    (hbound : f.bound = some x) (timeout : Option Timeout) :
    (s.bindActive x f).Poised (some x) xs
      { m with branches := m.branches.insert x ⟨.active, timeout⟩ } where
  active := rfl
  available := h.available
  idle := h.idle
  -- the new session is the only one at work; all the others are where they were
  bound y g hg := by
    simp only [Pool.bindActive, BranchMap.get?_insert] at hg
    split at hg
    · rename_i hy
      obtain rfl := Option.some.inj hg
      rw [hy, if_pos rfl]
      exact ⟨hopen, hbound⟩
    · rename_i hy
      rw [if_neg (by simpa using Ne.symm hy)]
      exact h.bound y g hg
  keys := by
    -- an insert first takes the old entry out, and for a fresh branch there is none
    have hnone : s.bound.get? x = none := h.get?_eq_none hx
    simp only [Pool.bindActive, BranchMap.insert, BranchMap.keys,
      BranchMap.erase_of_get?_eq_none hnone]
    exact h.keys.cons x
  phase y := by
    rw [ResourceManager.phase?_insert, h.phase]
    by_cases hy : y = x
    · simp [hy]
    · simp [hy, Ne.symm hy]

/-- The session of the active branch is replaced, and the manager has the branches that it
had. -/
theorem update (h : s.Poised (some x) xs m) (hopen : f.isOpen = true) (hbound : f.bound = some x)
    (havailable : m'.available = true) (hbranches : m'.branches = m.branches) :
    Poised (some x) xs { s with bound := s.bound.update x f } m' where
  active := h.active
  available := havailable
  idle := h.idle
  bound y g hg := by
    simp only [BranchMap.get?_update] at hg
    split at hg
    · rename_i hy
      obtain ⟨-, -, rfl⟩ := Option.map_eq_some_iff.mp hg
      rw [hy, if_pos rfl]
      exact ⟨hopen, hbound⟩
    · exact h.bound y g hg
  keys := by
    rw [BranchMap.keys_update]
    exact h.keys
  phase y := (ResourceManager.phase?_congr hbranches y).trans (h.phase y)

/-- The active branch is prepared, and its session is free. -/
theorem ended (h : s.Poised (some x) xs m) (hopen : f.isOpen = true) (hfree : f.bound = none)
    {timeout : Option Timeout} (hbranch : m.branches.get? x = some ⟨.active, timeout⟩) :
    Poised none (xs ++ [x]) { s with bound := s.bound.update x f, active := none }
      { m with branches := m.branches.update x ⟨.prepared, timeout⟩ } where
  active := rfl
  available := h.available
  idle := h.idle
  -- the ended session is free now, so what is left of `bound` no longer depends on the branch
  bound y g hg := by
    simp only [BranchMap.get?_update] at hg
    rw [if_neg (by simp)]
    split at hg
    · obtain ⟨-, -, rfl⟩ := Option.map_eq_some_iff.mp hg
      exact ⟨hopen, hfree⟩
    · rename_i hy
      have hother := h.bound y g hg
      rwa [if_neg (by simpa using Ne.symm hy)] at hother
  -- the branch that was busy has become the last of those prepared
  keys := by
    rw [BranchMap.keys_update]
    exact h.keys.trans (List.perm_append_singleton x xs).symm
  phase y := by
    rw [ResourceManager.phase?_update hbranch, h.phase]
    by_cases hy : y = x
    · simp [hy]
    · simp [hy, Ne.symm hy]

/-- A branch is finished, and its session is free and becomes idle. -/
theorem released {ys : List Xid} (h : s.Poised busy ys m) (hbusy : busy.toList ++ ys = x :: xs)
    (hopen : f.isOpen = true) (hfree : f.bound = none) (outcome : Outcome) :
    ((s.without x).offerIdle f).Poised none xs (m.resolve x outcome) := by
  have hnodup := h.nodup
  rw [hbusy] at hnodup
  have hx : x ∉ xs := (List.nodup_cons.mp hnodup).1
  obtain ⟨g, hg⟩ := h.exists_get? (by rw [hbusy]; exact List.mem_cons_self)
  -- no branch is active afterwards, and none but this one was before
  have hother : ∀ y, y ≠ x → busy ≠ some y := by
    rintro y hy rfl
    exact hy (List.cons.inj hbusy).1
  -- so behind `x` the two lists of live branches agree
  have hmem : ∀ y, y ≠ x → (y ∈ ys ↔ y ∈ xs) := by
    intro y hy
    have hiff : y ∈ busy.toList ++ ys ↔ y ∈ x :: xs := by rw [hbusy]
    simpa [hy, hother y hy] using hiff
  refine ⟨?_, h.available, ?_, ?_, ?_, ?_⟩
  · -- the slot is cleared if it was this branch's, and was empty otherwise
    show (if s.active = some x then none else s.active) = none
    rw [h.active]
    split
    · rfl
    · rename_i hne
      cases hcase : busy with
      | none => rfl
      | some y => exact absurd hcase (hother y fun hy => hne (by rw [hcase, hy]))
  · -- the session that comes back is open and free, as its call left it
    intro e he
    rcases List.mem_append.mp he with he | he
    · exact h.idle e he
    · rw [List.mem_singleton.mp he]
      exact ⟨hopen, hfree⟩
  · -- an entry that stays belongs to another branch, which is prepared as before
    intro y e he
    have hget : (s.bound.erase x).get? y = some e := he
    rw [BranchMap.get?_erase] at hget
    split at hget
    · cases hget
    · rename_i hy
      have hbound := h.bound y e hget
      rw [if_neg (hother y hy)] at hbound
      rwa [if_neg (by simp)]
  · -- one key goes, and one branch with it
    have hperm : (x :: (s.bound.erase x).keys).Perm (x :: xs) := by
      have hkeys := (BranchMap.entries_perm hg).map Prod.fst
      rw [← hbusy]
      exact hkeys.symm.trans h.keys
    exact hperm.cons_inv
  · -- the manager forgets `x`, and knows the other branches by the two lists
    intro y
    rw [ResourceManager.phase?_resolve, h.phase]
    by_cases hy : y = x
    · simp [hy, hx]
    · simp [hy, hother y hy, hmem y hy]

end Pool.Poised

/-! ### Providers -/

namespace Provider

/-- How many sessions there are, how many branches were finished in each way, and how often a
data connection was asked for. -/
structure Account where
  sessions : Nat := 0
  committed : Nat := 0
  rolledBack : Nat := 0
  requests : Nat := 0

/-- The counters of a provider with an account, while a branch is active or none, and some are
prepared. -/
def Account.tally (a : Account) (busy : Option Xid) (xs : List Xid) : Tally where
  facadesCreated := a.sessions
  branchesStarted := a.committed + a.rolledBack + (busy.toList ++ xs).length
  branchesPrepared := a.committed + xs.length
  branchesCommitted := a.committed
  branchesRolledBack := a.rolledBack

namespace Account

variable (a : Account) (x : Xid) (xs : List Xid)

theorem addStarted (n : Nat) :
    Tally.addStarted { a.tally none xs with facadesCreated := n } =
      tally { a with sessions := n } (some x) xs := rfl

theorem addPrepared : (a.tally (some x) xs).addPrepared = a.tally none (xs ++ [x]) := by
  simp [tally, Tally.addPrepared]
  omega

theorem addRolledBack : (a.tally (some x) xs).addRolledBack =
    tally { a with rolledBack := a.rolledBack + 1 } none xs := by
  simp [tally, Tally.addRolledBack]
  omega

theorem addCommitted : (a.tally none (x :: xs)).addCommitted =
    tally { a with committed := a.committed + 1 } none xs := by
  simp [tally, Tally.addCommitted]
  omega

end Account

/-- Whether the pool of a provider is poised, and what was counted is as the account says. -/
structure Poised (busy : Option Xid) (xs : List Xid) (a : Account)
    (p : Provider Config Session) (m : ResourceManager) : Prop where
  pool : ∃ s, p.pool = some s ∧ s.Poised busy xs m
  size : p.size = a.sessions
  tally : p.tally = a.tally busy xs
  connections : m.connectionsOpened = a.sessions
  links : m.lastConnectionId ≤ a.requests

theorem size_some {γ φ : Type} (factory : γ) (s : Pool φ) (tally : Tally) :
    size ⟨factory, some s, tally⟩ = s.idle.length + s.bound.size := rfl

namespace Poised

variable {a : Account} {p : Provider Config Session}

theorem opened (config : Config) : Poised none [] {} ⟨config, some {}, {}⟩ {} where
  pool := ⟨{}, rfl, .empty rfl fun _ => rfl⟩
  size := rfl
  tally := rfl
  connections := rfl
  links := Nat.zero_le _

/-- Without branches, all sessions are idle. -/
theorem idleCount (h : p.Poised none [] a m) : p.idleCount = a.sessions := by
  obtain ⟨config, pool, tally⟩ := p
  obtain ⟨s, rfl, hs⟩ := h.pool
  have hnone : s.bound.size = 0 := hs.size_bound
  have hsize : s.idle.length + s.bound.size = a.sessions := h.size
  show s.idle.length = a.sessions
  omega

/-- A session is at hand for every branch: an idle one, or a new one. -/
theorem lend (config : Config) {s : Pool Session} (tally : Tally) (h : s.Poised none xs m) :
    ∃ f rest m' made, takeIdle ResourceManager.backend s ⟨config, some s, tally⟩ m =
        (.ok (f, rest, { tally with facadesCreated := tally.facadesCreated + made }), m') ∧
      f.isOpen = true ∧ f.bound = none ∧ Pool.Poised none xs { s with idle := rest } m' ∧
      m'.connectionsOpened = m.connectionsOpened + made ∧
      m'.lastConnectionId = m.lastConnectionId ∧
      rest.length + 1 = s.idle.length + made ∧ made = if s.idle.length = 0 then 1 else 0 := by
  cases hidle : s.idle with
  -- with nobody idle a session is made, and the manager counts its connection
  | nil =>
    refine ⟨{ config, isOpen := true }, [], m.connected, 1, ?_, rfl, rfl,
      h.withIdle nofun h.available rfl, rfl, rfl, rfl, rfl⟩
    simp only [takeIdle, hidle, Session.makeFacade_eq config h.available]
    rfl
  | cons f rest =>
    obtain ⟨hopen, hfree⟩ := h.idle f (by rw [hidle]; exact List.mem_cons_self)
    have hrest : ∀ g ∈ rest, g.isOpen = true ∧ g.bound = none := fun g hg =>
      h.idle g (by rw [hidle]; exact List.mem_cons_of_mem _ hg)
    refine ⟨f, rest, m, 0, ?_, hopen, hfree, h.withIdle hrest h.available rfl, rfl, rfl, rfl, ?_⟩
    · simp only [takeIdle, hidle]
      rfl
    · rw [List.length_cons, if_neg (by omega)]

/-- A branch that has no session is started, on a new session only if no other is idle. -/
theorem start (h : p.Poised none xs a m) (hx : x ∉ xs) :
    ∃ p' m', p.start ResourceManager.backend x m = ⟨.ok (), p', m'⟩ ∧
      p'.Poised (some x) xs { a with sessions := max a.sessions (xs.length + 1) } m' ∧
      p'.factory = p.factory := by
  obtain ⟨config, pool, tally⟩ := p
  obtain ⟨s, rfl, hs⟩ := h.pool
  obtain ⟨f, rest, m₁, made, htake, hopen, hfree, hlent, hconnections, hlinks, hlength, hmade⟩ :=
    lend config tally hs
  have hget : s.bound.get? x = none := hs.get?_eq_none hx
  have hcontains : ¬s.bound.contains x = true := by simp [BranchMap.contains, hget]
  have hphase : m₁.phase? x = none := by rw [hlent.phase, if_neg (by simp), if_neg hx]
  have hcall : ResourceManager.backend.start x f m₁ = _ :=
    Session.start_free hopen hfree hlent.available hphase
  let f' : Session := { f with bound := some x }
  have hbind := hlent.bindActive (f := f') hx hopen rfl f.config.timeout
  have hinsert : (s.bound.insert x f').size = s.bound.size + 1 := BranchMap.size_insert hget f'
  have hsize : s.idle.length + s.bound.size = a.sessions := h.size
  have hprepared : s.bound.size = xs.length := hs.size_bound
  -- a session is made only where all of them are mapped, which is when the peak grows
  have hmost : a.sessions + made = max a.sessions (xs.length + 1) := by
    split at hmade <;> omega
  refine ⟨⟨config, some (Pool.bindActive { s with idle := rest } x f'),
      ({ tally with facadesCreated := tally.facadesCreated + made } : Tally).addStarted⟩, _, ?_,
    ⟨⟨_, rfl, hbind⟩, ?_, ?_, ?_, hlinks.trans_le h.links⟩, rfl⟩
  · simp only [Provider.start, hs.active, if_neg hcontains, htake, startOn, hcall]
    rfl
  · show rest.length + (s.bound.insert x f').size = max a.sessions (xs.length + 1)
    omega
  · have htally : tally = a.tally none xs := h.tally
    rw [htally, ← a.addStarted x xs, ← hmost]
    rfl
  · exact hconnections.trans ((congrArg (· + made) h.connections).trans hmost)

/-- The active branch is given a data connection. -/
theorem establish (h : p.Poised (some x) xs a m) :
    ∃ link p' m', p.establishConnection ResourceManager.backend m = ⟨.ok link, p', m'⟩ ∧
      p'.Poised (some x) xs { a with requests := a.requests + 1 } m' := by
  obtain ⟨config, pool, tally⟩ := p
  obtain ⟨s, rfl, hs⟩ := h.pool
  obtain ⟨f, hget⟩ := hs.exists_get? (x := x) (by simp)
  obtain ⟨hopen, hbound, -⟩ := hs.worksOn hget
  have hactive : s.activeFacade? = some (x, f) := by
    simp [Pool.activeFacade?, hs.active, hget]
  -- a session keeps its data connection, and numbers one if it has none
  obtain ⟨link, f', m', hcall, hopen', hbound', havailable, hbranches, hconnections, hlinks⟩ :
      ∃ link f' m', Session.establish f m = ⟨.ok link, f', m'⟩ ∧ f'.isOpen = true ∧
        f'.bound = some x ∧ m'.available = true ∧ m'.branches = m.branches ∧
        m'.connectionsOpened = m.connectionsOpened ∧
        m'.lastConnectionId ≤ m.lastConnectionId + 1 := by
    rw [Session.establish_eq, Session.whenOpen, if_pos hopen]
    cases f.link with
    | some link => exact ⟨link, f, m, rfl, hopen, hbound, hs.available, rfl, rfl, by omega⟩
    | none =>
      refine ⟨_, _, _, if_pos hopen, hopen, hbound, hs.available, rfl, rfl, Nat.le_refl _⟩
  have hsize : (s.bound.update x f').size = s.bound.size := BranchMap.size_update _ _ _
  refine ⟨link, ⟨config, some { s with bound := s.bound.update x f' }, tally⟩, m', ?_,
    ⟨_, rfl, hs.update hopen' hbound' havailable hbranches⟩, ?_, h.tally,
    hconnections.trans h.connections, hlinks.trans (Nat.add_le_add_right h.links 1)⟩
  · have hcall' : ResourceManager.backend.establishConnection f m = _ := hcall
    simp only [establishConnection, withActive, hactive, hcall']
    rfl
  · rw [size_some, hsize]
    exact h.size

/-- The active branch is prepared. -/
theorem endAndPrepare (h : p.Poised (some x) xs a m) :
    ∃ p' m', p.endAndPrepare ResourceManager.backend x m = ⟨.ok (), p', m'⟩ ∧
      p'.Poised none (xs ++ [x]) a m' ∧ p'.factory = p.factory := by
  obtain ⟨config, pool, tally⟩ := p
  obtain ⟨s, rfl, hs⟩ := h.pool
  obtain ⟨f, hget⟩ := hs.exists_get? (x := x) (by simp)
  -- the one session at work carries the branch, so the manager lets it be prepared
  have hworks := hs.worksOn hget
  obtain ⟨timeout, hbranch, hcall⟩ := Session.endAndPrepare_working hworks hs.available
  have hcall' : ResourceManager.backend.endAndPrepare x f m = _ := hcall
  let f' : Session := { f with bound := none }
  have hsize : (s.bound.update x f').size = s.bound.size := BranchMap.size_update _ _ _
  refine ⟨⟨config, some { s with bound := s.bound.update x f', active := none },
    tally.addPrepared⟩, _, ?_, ⟨⟨_, rfl, hs.ended (f := f') hworks.1 rfl hbranch⟩, ?_, ?_,
    h.connections, h.links⟩, rfl⟩
  · simp only [Provider.endAndPrepare, hs.active, if_true, hget, hcall']
    rfl
  · rw [size_some, hsize]
    exact h.size
  · have htally : tally = a.tally (some x) xs := h.tally
    rw [htally]
    exact a.addPrepared x xs

/-- A branch is finished through its session, which becomes idle. -/
theorem finish_session (config : Config) {s : Pool Session} (tally : Tally) (how : Finish)
    {ys : List Xid} (hs : s.Poised busy ys m) (hbusy : busy.toList ++ ys = x :: xs)
    (hended : ¬(needsEnded how = true ∧ busy = some x))
    (hcall : ∀ f, s.bound.get? x = some f →
      f.finish how x m = ⟨.ok (), { f with bound := none }, m.resolve x how.outcome⟩) :
    ∃ s', finish ResourceManager.backend how x ⟨config, some s, tally⟩ m =
        ⟨.ok (), ⟨config, some s', addFinished how tally⟩, m.resolve x how.outcome⟩ ∧
      s'.Poised none xs (m.resolve x how.outcome) ∧
      s'.idle.length + s'.bound.size = s.idle.length + s.bound.size := by
  obtain ⟨f, hget⟩ := hs.exists_get? (x := x) (by rw [hbusy]; exact List.mem_cons_self)
  have hsession : ResourceManager.backend.finish how x f m = _ := hcall f hget
  have hsize : (s.bound.erase x).size + 1 = s.bound.size := BranchMap.size_erase hget
  let f' : Session := { f with bound := none }
  -- the branch leaves the map and its session joins the idle ones: their number stays
  refine ⟨(s.without x).offerIdle f', ?_,
    hs.released (f := f') hbusy (hs.bound x f hget).1 rfl how.outcome, ?_⟩
  · rw [← hs.active] at hended
    rw [finish_bound hended hget, hsession]
    rfl
  · show (s.idle ++ [_]).length + (s.bound.erase x).size = _
    rw [List.length_append, List.length_singleton]
    omega

/-- The active branch is given up. -/
theorem failAndRollback (h : p.Poised (some x) xs a m) :
    ∃ p' m', p.failAndRollback ResourceManager.backend x m = ⟨.ok (), p', m'⟩ ∧
      p'.Poised none xs { a with rolledBack := a.rolledBack + 1 } m' := by
  obtain ⟨config, pool, tally⟩ := p
  obtain ⟨s, rfl, hs⟩ := h.pool
  obtain ⟨s', hfinish, hs', hsize⟩ := finish_session config tally .failAndRollback hs rfl
    (by simp [needsEnded]) fun f hget =>
      Session.failAndRollback_working (hs.worksOn hget) hs.available
  refine ⟨_, _, hfinish, ⟨_, rfl, hs'⟩, ?_, ?_, h.connections, h.links⟩
  · rw [size_some, hsize]
    exact h.size
  · have htally : tally = a.tally (some x) xs := h.tally
    rw [htally]
    exact a.addRolledBack x xs

/-- The oldest of the prepared branches is committed. -/
theorem commit (h : p.Poised none (x :: xs) a m) (ignoreUnknown : Bool) :
    ∃ p' m', p.commit ResourceManager.backend x ignoreUnknown m = ⟨.ok (), p', m'⟩ ∧
      p'.Poised none xs { a with committed := a.committed + 1 } m' := by
  obtain ⟨config, pool, tally⟩ := p
  obtain ⟨s, rfl, hs⟩ := h.pool
  obtain ⟨s', hfinish, hs', hsize⟩ := finish_session config tally (.commit ignoreUnknown) hs rfl
    (by simp) fun f hget => by
      -- a prepared branch's session is free, and so stays as it is when the manager commits
      obtain ⟨hopen, hfree⟩ := hs.bound x f hget
      rw [if_neg (by simp)] at hfree
      have hcall := Session.finish_prepared hopen (x := x) (by simp [hfree]) hs.available
        (by simp [hs.phase]) (.commit ignoreUnknown)
      rwa [show ({ f with bound := none } : Session) = f by rw [← hfree]]
  refine ⟨_, _, hfinish, ⟨_, rfl, hs'⟩, ?_, ?_, h.connections, h.links⟩
  · rw [size_some, hsize]
    exact h.size
  · have htally : tally = a.tally none (x :: xs) := h.tally
    rw [htally]
    exact a.addCommitted x xs

end Poised

section Close

variable {γ σ φ κ : Type} {b : Backend γ σ φ κ} (hclose : ∀ f w, (b.close f w).answer = .ok ())

include hclose

theorem closeAll_eq_nil (fs : List φ) (w : σ) : (closeAll b fs w).1 = [] := by
  induction fs generalizing w with
  | nil => rfl
  | cons f fs ih =>
    simp only [closeAll, hclose]
    exact ih _

/-- Where facades never fail to close, neither does a provider. -/
theorem close_ok (p : Provider γ φ) (w : σ) : ∃ p' w', p.close b w = ⟨.ok (), p', w'⟩ := by
  obtain ⟨factory, _ | s, tally⟩ := p
  · exact ⟨_, _, rfl⟩
  · refine ⟨⟨factory, none, tally⟩, (closeAll b s.facades w).2, ?_⟩
    simp only [close, closeAll_eq_nil hclose, List.isEmpty_nil, if_true]

end Close

end Provider

end BranchPool
