/-
Finishing one branch and finishing another commute.

* `ResourceManager.AgreesOn` — two managers that a session cannot tell apart when it
  finishes a branch;
* `Session.local_finish` — what a session makes of a branch does not depend on the others;
* `Provider.Turnout` — what comes of finishing a branch: the answer, and what is done to
  the provider and to the manager, whatever else they hold;
* `Provider.Turnout.Occurs.after` — a branch turns out the same after another one was
  finished;
* `Provider.commuting_finishes` — so two branches may be finished in either order.

Design note: whether a call is refused, fails or succeeds is settled in `turnout_finish`.
That two turnouts commute is then a fact on lists and maps.
-/
import BranchPool.Proofs.Provider.Finishing
import BranchPool.Proofs.Provider.Run
import BranchPool.Proofs.ResourceManager.Verdict

namespace BranchPool

open Facade

/-- Whether each of two calls appends at most one entry to a list, and appends the same when it
comes after the other. -/
def Swapped {α : Type} (start first second firstSecond secondFirst : List α) : Prop :=
  ∃ as bs, as.length ≤ 1 ∧ bs.length ≤ 1 ∧ first = start ++ as ∧ second = start ++ bs ∧
    firstSecond = start ++ as ++ bs ∧ secondFirst = start ++ bs ++ as

theorem swapped_append {α : Type} (l : List α) {as bs : List α} (has : as.length ≤ 1)
    (hbs : bs.length ≤ 1) : Swapped l (l ++ as) (l ++ bs) (l ++ as ++ bs) (l ++ bs ++ as) :=
  ⟨as, bs, has, hbs, rfl, rfl, rfl, rfl⟩

/-! ### The manager -/

namespace ResourceManager

/-- Whether two managers are the same to a session that finishes a branch. -/
def AgreesOn (x : Xid) (m m' : ResourceManager) : Prop :=
  m'.phase? x = m.phase? x ∧ m'.available = m.available

/-- Finishes a branch in some way, or leaves it alone. -/
def settle (m : ResourceManager) (x : Xid) : Option Outcome → ResourceManager
  | some outcome => m.resolve x outcome
  | none => m

theorem agreesOn_settle {x y : Xid} (hne : x ≠ y) (m : ResourceManager) (o : Option Outcome) :
    m.AgreesOn x (m.settle y o) := by
  cases o with
  | none => exact ⟨rfl, rfl⟩
  | some outcome => exact ⟨by rw [settle, phase?_resolve, if_neg hne], rfl⟩

theorem outcomes_settle (m : ResourceManager) (x : Xid) (o : Option Outcome) :
    (m.settle x o).outcomes = m.outcomes ++ o.toList.map fun outcome => (x, outcome) := by
  cases o with
  | none => exact m.outcomes.append_nil.symm
  | some outcome => rfl

theorem swapped_outcomes (m : ResourceManager) (x y : Xid) (o o' : Option Outcome) :
    Swapped m.outcomes (m.settle x o).outcomes (m.settle y o').outcomes
      ((m.settle x o).settle y o').outcomes ((m.settle y o').settle x o).outcomes := by
  have hlength : ∀ (x : Xid) (o : Option Outcome),
      (o.toList.map fun outcome => (x, outcome)).length ≤ 1 := by
    simp [Option.length_toList_le]
  simp only [outcomes_settle]
  exact swapped_append _ (hlength x o) (hlength y o')

theorem settle_comm (m : ResourceManager) (x y : Xid) (o o' : Option Outcome) :
    (m.settle y o').settle x o =
      { (m.settle x o).settle y o' with outcomes := ((m.settle y o').settle x o).outcomes } := by
  cases o with
  | none => cases o' <;> rfl
  | some outcome =>
    cases o' with
    | none => rfl
    | some outcome' => simp only [settle, resolve, m.branches.erase_comm y x]

/-- Whether managers that agree on a branch answer a call alike, and at most settle the
branch. -/
def Local (m : ResourceManager) (x : Xid) (call : ResourceManager → Except Error ResourceManager) :
    Prop :=
  ∃ verdict : Except Error (Option Outcome), ∀ m', m.AgreesOn x m' →
    call m' = verdict.map (m'.settle x)

theorem local_commit? (m : ResourceManager) (x : Xid) (ignoreUnknown : Bool) :
    m.Local x fun m' => m'.commit? x ignoreUnknown := by
  -- the verdict is written out by phase, so that no other branch occurs in it
  refine ⟨if m.available then
      if m.phase? x = some .prepared then .ok (some .committed)
      else if m.phase? x = some .active then .error (.rejected (.notPrepared x))
      else if ignoreUnknown then .ok none else .error (.unknownBranch x)
    else .error unreachable, fun m' hagrees => ?_⟩
  simp only [commit?, hagrees.1, hagrees.2]
  cases m.available with
  | false => rfl
  | true =>
    cases m.phase? x with
    | none => cases ignoreUnknown <;> rfl
    | some phase => cases phase <;> rfl

theorem local_rollback? (m : ResourceManager) (x : Xid) (allowActive : Bool) :
    m.Local x fun m' => m'.rollback? x allowActive := by
  -- as for a commit, but here the caller may allow a branch that is still active
  refine ⟨if m.available then
      if m.phase? x = none then .error (.unknownBranch x)
      else if m.phase? x = some .prepared ∨ allowActive = true then .ok (some .rolledBack)
      else .error (.rejected (.stillActive x))
    else .error unreachable, fun m' hagrees => ?_⟩
  simp only [rollback?, hagrees.1, hagrees.2]
  cases m.available with
  | false => rfl
  | true =>
    cases m.phase? x with
    | none => rfl
    | some phase =>
      cases phase with
      | active => cases allowActive <;> rfl
      | prepared => rfl

theorem settle_of_abandon (m : ResourceManager) (x : Xid) :
    ∃ o, ∀ m', m.AgreesOn x m' → m'.abandon x = m'.settle x o := by
  refine ⟨if m.isActive x then some .rolledBack else none, fun m' hagrees => ?_⟩
  rw [abandon, isActive, hagrees.1, isActive]
  split <;> rfl

end ResourceManager

/-! ### The session -/

namespace Session

variable {m : ResourceManager} {x : Xid}

/-- Whether a call that finishes a branch, or fails to, has one answer and one effect on all
managers that agree on the branch. -/
def Local (m : ResourceManager) (x : Xid) (call : ResourceManager → Reply Unit) : Prop :=
  ∃ answer s o, ∀ m', m.AgreesOn x m' → call m' = ⟨answer, s, m'.settle x o⟩

theorem local_ask {call : ResourceManager → Except Error ResourceManager} (hcall : m.Local x call)
    (s : Session) : Local m x fun m' => ask (call m') s s m' := by
  obtain ⟨verdict, hverdict⟩ := hcall
  cases verdict with
  | ok o => exact ⟨.ok (), s, o, fun m' hagrees => by simp only [hverdict m' hagrees]; rfl⟩
  | error e => exact ⟨.error e, s, none, fun m' hagrees => by simp only [hverdict m' hagrees]; rfl⟩

theorem local_abandon (answer : Except Error Unit) (s : Session) :
    Local m x fun m' => ⟨answer, s, m'.abandon x⟩ := by
  obtain ⟨o, ho⟩ := m.settle_of_abandon x
  exact ⟨answer, s, o, fun m' hagrees => by simp only [ho m' hagrees]⟩

/-- What a session makes of a branch does not depend on the other branches. -/
theorem local_finish (s : Session) (how : Finish) (x : Xid) (m : ResourceManager) :
    Local m x (s.finish how x) := by
  by_cases hopen : s.isOpen = true
  swap
  -- a closed session does not reach the manager: nothing of `m'` can be read
  · exact ⟨.error .closed, s, none, fun m' _ => finish_closed hopen how x m'⟩
  cases how with
  | commit ignoreUnknown =>
    have hcall : s.commit x ignoreUnknown = fun m' =>
        if s.bound = some x then
          ⟨.error (.rejected (.neverEnded x)), { s with bound := none }, m'.abandon x⟩
        else ask (m'.commit? x ignoreUnknown) s s m' := funext fun m' => if_pos hopen
    rw [finish, hcall]
    -- a branch still bound is abandoned without asking; otherwise the manager decides
    by_cases hbound : s.bound = some x
    · simp only [if_pos hbound]
      exact local_abandon _ _
    · simp only [if_neg hbound]
      exact local_ask (m.local_commit? x ignoreUnknown) s
  | rollback =>
    have hcall : s.rollback x = fun m' =>
        if s.bound = some x then ⟨.ok (), { s with bound := none }, m'.abandon x⟩
        else ask (m'.rollback? x false) s s m' := funext fun m' => if_pos hopen
    rw [finish, hcall]
    by_cases hbound : s.bound = some x
    · simp only [if_pos hbound]
      exact local_abandon _ _
    · simp only [if_neg hbound]
      exact local_ask (m.local_rollback? x false) s
  | failAndRollback =>
    -- here the manager is asked in both cases, and the binding only goes along with the question
    obtain ⟨verdict, hverdict⟩ := m.local_rollback? x (s.bound = some x)
    refine ⟨(s.failAndRollback x m).answer, if s.bound = some x then { s with bound := none } else s,
      verdict.toOption.join, fun m' hagrees => ?_⟩
    simp only [finish, failAndRollback, whenOpen, if_pos hopen, hverdict m' hagrees,
      hverdict m ⟨rfl, rfl⟩]
    cases verdict with
    | ok o => rfl
    | error e => cases e <;> rfl

end Session

/-! ### The pool -/

namespace Pool

variable {φ : Type} {x y : Xid}

/-- Takes a branch off and puts a facade at the tail of the queue, or does nothing. -/
def giveBack (s : Pool φ) (x : Xid) : Option φ → Pool φ
  | some f => (s.without x).offerIdle f
  | none => s

theorem idle_giveBack (s : Pool φ) (x : Xid) (o : Option φ) :
    (s.giveBack x o).idle = s.idle ++ o.toList := by
  cases o with
  | none => exact s.idle.append_nil.symm
  | some f => rfl

theorem swapped_idle (s : Pool φ) (x y : Xid) (o o' : Option φ) :
    Swapped s.idle (s.giveBack x o).idle (s.giveBack y o').idle
      ((s.giveBack x o).giveBack y o').idle ((s.giveBack y o').giveBack x o).idle := by
  simp only [idle_giveBack]
  exact swapped_append _ Option.length_toList_le Option.length_toList_le

theorem get?_giveBack (hne : x ≠ y) (s : Pool φ) (o : Option φ) :
    (s.giveBack y o).bound.get? x = s.bound.get? x := by
  cases o with
  | none => rfl
  | some f => exact (BranchMap.get?_erase s.bound y x).trans (if_neg hne)

theorem active_giveBack (hne : x ≠ y) (s : Pool φ) (o : Option φ) :
    (s.giveBack y o).active = some x ↔ s.active = some x := by
  cases o with
  | none => rfl
  | some f =>
    show (if s.active = some y then none else s.active) = some x ↔ _
    by_cases hy : s.active = some y
    · simp [hy, hne.symm]
    · rw [if_neg hy]

theorem without_comm (s : Pool φ) (x y : Xid) : (s.without y).without x = (s.without x).without y := by
  simp only [without, s.bound.erase_comm y x, Pool.mk.injEq, true_and]
  by_cases hx : s.active = some x <;> by_cases hy : s.active = some y <;> simp [hx, hy]

theorem giveBack_comm (s : Pool φ) (x y : Xid) (o o' : Option φ) :
    (s.giveBack y o').giveBack x o =
      { (s.giveBack x o).giveBack y o' with idle := ((s.giveBack y o').giveBack x o).idle } := by
  cases o with
  | none => cases o' <;> rfl
  | some f =>
    cases o' with
    | none => rfl
    | some g =>
      have hcomm := s.without_comm x y
      exact congrArg (fun t : Pool φ => { t with idle := s.idle ++ [g] ++ [f] }) hcomm

end Pool

/-! ### The provider -/

namespace Provider

theorem addFinished_comm (how how' : Finish) (t : Tally) :
    addFinished how (addFinished how' t) = addFinished how' (addFinished how t) := by
  cases how <;> cases how' <;> rfl

theorem addTransient_addFinished (how : Finish) (t : Tally) :
    (addFinished how t).addTransient = addFinished how t.addTransient := by
  cases how <;> rfl

/-- What may be added to the counters by a call that finishes a branch. -/
inductive Counting (how : Finish) : (Tally → Tally) → Prop where
  | refused : Counting how id
  | finished : Counting how (addFinished how)
  | failed : Counting how Tally.addTransient

theorem Counting.comm {how how' : Finish} {count count' : Tally → Tally} (h : Counting how count)
    (h' : Counting how' count') (t : Tally) : count (count' t) = count' (count t) := by
  -- counters are sums: what two finishes add does not depend on which of them comes first
  cases h with
  | refused => rfl
  | finished =>
    cases h' with
    | refused => rfl
    | finished => exact addFinished_comm how how' t
    | failed => exact (addTransient_addFinished how t).symm
  | failed =>
    cases h' with
    | refused => rfl
    | finished => exact addTransient_addFinished how' t
    | failed => rfl

/-- What comes of finishing a branch. -/
structure Turnout where
  answer : Except Error Unit
  /-- The session that goes to the tail of the queue, unless the call is refused. -/
  returned : Option Session
  outcome : Option Outcome
  count : Tally → Tally

/-- The reply of a provider for which finishing a branch turns out so. -/
def Turnout.reply (t : Turnout) (x : Xid) (factory : Config) (s : Pool Session) (tally : Tally)
    (m : ResourceManager) : Reply Config Session ResourceManager Unit :=
  ⟨t.answer, ⟨factory, some (s.giveBack x t.returned), t.count tally⟩, m.settle x t.outcome⟩

/-- Whether a branch turns out so in all pools in which it has a given session and is active or
not, as in a given one, and under all managers that agree with a given one on the branch. -/
def Turnout.Occurs (t : Turnout) (how : Finish) (x : Xid) (f : Session) (s : Pool Session)
    (m : ResourceManager) : Prop :=
  ∀ factory tally s' m', s'.bound.get? x = some f → (s'.active = some x ↔ s.active = some x) →
    m.AgreesOn x m' →
      finish ResourceManager.backend how x ⟨factory, some s', tally⟩ m' =
        t.reply x factory s' tally m'

theorem turnout_finish (how : Finish) (x : Xid) (f : Session) (s : Pool Session)
    (m : ResourceManager) :
    ∃ t : Turnout, Counting how t.count ∧ t.Occurs how x f s m := by
  by_cases hrefused : needsEnded how = true ∧ s.active = some x
  · refine ⟨⟨.error (.stateViolation (.stillActive (.ofFinish how) x)), none, none, id⟩, .refused,
      fun factory tally s' m' hget hactive hagrees => ?_⟩
    exact if_pos ⟨hrefused.1, hactive.mpr hrefused.2⟩
  · -- a call that is not refused is made of the facade, which goes to the queue in any case
    obtain ⟨answer, f', o, hcall⟩ := f.local_finish how x m
    have hfinish : ∀ factory tally s' m', s'.bound.get? x = some f →
        (s'.active = some x ↔ s.active = some x) → m.AgreesOn x m' →
          finish ResourceManager.backend how x ⟨factory, some s', tally⟩ m' =
            concludeFinish how x answer ⟨factory, some (s'.giveBack x (some f')), tally⟩
              (m'.settle x o) := by
      intro factory tally s' m' hget hactive hagrees
      have hended : ¬(needsEnded how = true ∧ s'.active = some x) :=
        fun h => hrefused ⟨h.1, hactive.mp h.2⟩
      have hreply : ResourceManager.backend.finish how x f m' = ⟨answer, f', m'.settle x o⟩ :=
        hcall m' hagrees
      rw [finish_bound hended hget m', hreply]
      rfl
    cases answer with
    | ok u => exact ⟨⟨.ok (), some f', o, addFinished how⟩, .finished, hfinish⟩
    | error e =>
      exact ⟨⟨.error (.transient (.ofFinish how) (some x) e), some f', o, Tally.addTransient⟩,
        .failed, hfinish⟩

/-- A branch turns out the same after another one was finished, as nothing has changed that
matters to it. -/
theorem Turnout.Occurs.after {t t' : Turnout} {how how' : Finish} {x y : Xid} {f g : Session}
    {s : Pool Session} {m : ResourceManager} (hne : x ≠ y) (ht : t.Occurs how x f s m)
    (ht' : t'.Occurs how' y g s m) (hf : s.bound.get? x = some f) (hg : s.bound.get? y = some g)
    (factory : Config) (tally : Tally) :
    let b := ResourceManager.backend
    let r := finish b how x ⟨factory, some s, tally⟩ m
    r = t.reply x factory s tally m ∧
      finish b how' y r.provider r.world =
        t'.reply y factory (s.giveBack x t.returned) (t.count tally) (m.settle x t.outcome) := by
  intro b r
  have hr : r = t.reply x factory s tally m := ht factory tally s m hf .rfl ⟨rfl, rfl⟩
  refine ⟨hr, ?_⟩
  rw [hr]
  -- the first finish gives back a facade of `x` and settles `x`: at `y` nothing has moved
  exact ht' _ _ _ _ ((s.get?_giveBack hne.symm _).trans hg) (s.active_giveBack hne.symm _)
    (m.agreesOn_settle hne.symm _)

/-- A provider with its facades queued otherwise. -/
def withIdle {γ φ : Type} (p : Provider γ φ) (idle : List φ) : Provider γ φ :=
  { p with pool := p.pool.map fun s => { s with idle } }

variable {p : Provider Config Session} {m : ResourceManager} {x y : Xid}

/-- Two branches that have facades may be finished in either order, whatever the provider and
the manager have been through and whether or not the manager is available.  Each call has the
same answer in both orders, and at the end everything is the same but for the order of the
facades that went back to the queue and of the outcomes that were noted. -/
theorem commuting_finishes (hne : x ≠ y) (hx : p.boundFacade? x ≠ none)
    (hy : p.boundFacade? y ≠ none) (how how' : Finish) :
    let b := ResourceManager.backend
    let r := p.finish b how x m
    let r' := p.finish b how' y m
    let rr' := r.provider.finish b how' y r.world
    let r'r := r'.provider.finish b how x r'.world
    (r'r.answer = r.answer ∧ rr'.answer = r'.answer) ∧
      (Swapped p.idle r.provider.idle r'.provider.idle rr'.provider.idle r'r.provider.idle ∧
        r'r.provider = rr'.provider.withIdle r'r.provider.idle) ∧
      Swapped m.outcomes r.world.outcomes r'.world.outcomes rr'.world.outcomes
          r'r.world.outcomes ∧
        r'r.world = { rr'.world with outcomes := r'r.world.outcomes } := by
  obtain ⟨factory, _ | s, tally⟩ := p
  · exact absurd rfl hx
  obtain ⟨f, hf⟩ := Option.ne_none_iff_exists'.mp hx
  obtain ⟨g, hg⟩ := Option.ne_none_iff_exists'.mp hy
  obtain ⟨t, hcount, ht⟩ := turnout_finish how x f s m
  obtain ⟨t', hcount', ht'⟩ := turnout_finish how' y g s m
  intro b r r' rr' r'r
  obtain ⟨hr, hrr'⟩ : r = _ ∧ rr' = _ := ht.after hne ht' hf hg factory tally
  obtain ⟨hr', hr'r⟩ : r' = _ ∧ r'r = _ := ht'.after hne.symm ht hg hf factory tally
  -- in both orders the turnouts are those of the start, so the answers are
  rw [hrr', hr'r, hr, hr']
  refine ⟨⟨rfl, rfl⟩, ⟨s.swapped_idle x y _ _, ?_⟩, m.swapped_outcomes x y _ _,
    m.settle_comm x y _ _⟩
  show Provider.mk _ (some _) _ = Provider.mk _ (some _) _
  rw [hcount.comm hcount', s.giveBack_comm x y]
  rfl

/-- An active branch is given up, and another one, which could not be prepared, is committed,
which fails. -/
theorem commuting_finishes_of_active :
    let b := ResourceManager.backend
    let act := fun available (m : ResourceManager) => m.setAvailable available
    let x : Xid := ⟨1, [], [], by decide, by decide⟩
    let y : Xid := ⟨1, [], [0], by decide, by decide⟩
    let s := run b act
      [.call .openUp, .call (.start y), .environment false, .call (.endAndPrepare y),
        .environment true, .call (.start x)]
      ⟨.ofFactory default, {}⟩
    let r := s.provider.finish b .failAndRollback x s.world
    let r' := s.provider.finish b (.commit false) y s.world
    let rr' := r.provider.finish b (.commit false) y r.world
    let r'r := r'.provider.finish b .failAndRollback x r'.world
    (x ≠ y ∧ s.provider.boundFacade? x ≠ none ∧ s.provider.boundFacade? y ≠ none) ∧
      (r'r.answer = r.answer ∧ rr'.answer = r'.answer) ∧
      (Swapped s.provider.idle r.provider.idle r'.provider.idle rr'.provider.idle
          r'r.provider.idle ∧
        r'r.provider = rr'.provider.withIdle r'r.provider.idle) ∧
      Swapped s.world.outcomes r.world.outcomes r'.world.outcomes rr'.world.outcomes
          r'r.world.outcomes ∧
        r'r.world = { rr'.world with outcomes := r'r.world.outcomes } := by
  intro b act x y s r r' rr' r'r
  have hne : x ≠ y := by decide
  have hx : s.provider.boundFacade? x ≠ none := by decide
  have hy : s.provider.boundFacade? y ≠ none := by decide
  -- the states after it need not be computed
  clear_value s
  exact ⟨⟨hne, hx, hy⟩, commuting_finishes hne hx hy .failAndRollback (.commit false)⟩

end Provider

end BranchPool
