/-
The order in which idle facades are used again.

* `Provider.Deal.put`, `Provider.Deal.taken` — the facades that a call puts into
  the queue, and those that it takes from there to start a branch;
* `Provider.Course.conserves` — one call keeps the balance of the queue: what was
  there and what is put is what is taken and what is there afterwards, in order;
* `Provider.Course.peeks` — a call that only borrows a facade borrows the one that
  is taken next, and leaves the order as it is;
* `Provider.queue_run` — so facades are taken in the order in which they were put,
  from one opening of the pool to the next.
-/
import BranchPool.Proofs.Provider.Engagement
import BranchPool.Proofs.Provider.Ledger
import BranchPool.Proofs.Provider.Transcript
import BranchPool.ResourceManager.Session

namespace BranchPool

open Facade

variable {γ σ φ κ ε : Type}

namespace History

/-- The facades that were told to start a branch, the latest first. -/
def starters : History → List Nat
  | [] => []
  | ⟨i, .start _, _⟩ :: h => i :: starters h
  | _ :: h => starters h

theorem starters_append (h h' : History) : starters (h ++ h') = starters h ++ starters h' := by
  induction h with
  | nil => rfl
  | cons e h ih =>
    obtain ⟨i, op, answer⟩ := e
    cases op <;> simp [starters, ih]

theorem opened_append (h h' : History) : opened (h ++ h') = opened h ++ opened h' := by
  induction h with
  | nil => rfl
  | cons e h ih =>
    obtain ⟨i, op, _ | u⟩ := e <;> cases op <;> simp [opened, ih]

end History

namespace Provider

/-- The numbers of the idle facades, the next to be taken first. -/
def queue (p : Provider γ (Numbered φ)) : List Nat := p.idle.map Numbered.number

namespace Deal

variable (d : Deal γ (Numbered φ) (Trace σ φ) κ)

/-- The facades that a call takes from the queue to start a branch on them, whether
or not they start it. -/
def taken : List Nat := d.events.starters.filter fun i => i ∈ d.before.provider.queue

/-- The facades that a call puts into the queue: the one that was bound to a branch
that is finished, or to be finished, and one that is made to finish a branch that
has none or to tell the prepared branches. -/
def put : List Nat :=
  match d.call with
  | .finish _ x =>
    match d.before.provider.boundFacade? x with
    | some t => if d.isRefused then [] else [t.number]
    | none => d.events.opened
  | .recover => d.events.opened
  | _ => []

/-- What a call asks of a facade that it borrows, if it borrows one: to finish a
branch that has none, or to tell the prepared branches. -/
def errand : Option Operation :=
  match d.call with
  | .finish how x => if d.finishesUnbound then some (.finish how x) else none
  | .recover => if d.isRefused then none else some .recover
  | _ => none

end Deal

variable {b : Backend γ σ φ κ} {c : Call} {p : Provider γ (Numbered φ)} {w w' : Trace σ φ}
  {reply : Reply γ (Numbered φ) (Trace σ φ) (Result κ)}

/-! ### What a call adds to the trace -/

theorem Deal.events_eq {d : Deal γ (Numbered φ) (Trace σ φ) κ} {new : History}
    (h : d.after.world.events = new ++ d.before.world.events) : d.events = new := by
  rw [Deal.events, h, List.length_append, Nat.add_sub_cancel]
  exact List.take_left' rfl

/-- A call on a facade is the one event that it adds. -/
theorem events_of_observe {op : Operation} {call : φ → σ → Facade.Reply φ σ Unit} {t : Numbered φ}
    {a : Facade.Reply (Numbered φ) (Trace σ φ) Unit} (h : Trace.observe op call t w = a) :
    a.facade.number = t.number ∧ a.world.events = ⟨t.number, op, a.answer⟩ :: w.events := by
  subst h
  refine ⟨rfl, ?_⟩
  simp only [Trace.observe, map_unit]

theorem Deal.taken_of_head {d : Deal γ (Numbered φ) (Trace σ φ) κ} (new : History) {i : Nat}
    {is : List Nat} (hevents : d.after.world.events = new ++ d.before.world.events)
    (hstarters : new.starters = [i]) (hqueue : d.before.provider.queue = i :: is) :
    d.taken = [i] := by
  simp [Deal.taken, Deal.events_eq hevents, hstarters, hqueue]

/-- A facade that cannot be made or opened leaves at most a failed opening in the
trace. -/
theorem events_of_unmade {factory : γ} {e : Facade.Error}
    (h : makeFacade b.traced factory w = (.error e, w')) :
    ∃ new : History, w'.events = new ++ w.events ∧ new.starters = [] ∧ new.opened = [] := by
  cases made_of_eq h with
  | notCreated hcreate => exact ⟨[], rfl, rfl, rfl⟩
  | @notOpened f world t w' e hcreate hopen =>
    exact ⟨[⟨w.facades.length, .openUp, .error e⟩], (events_of_observe hopen).2, rfl, rfl⟩

variable {factory : γ} {s : Pool (Numbered φ)} {tally tally' : Tally} {t : Numbered φ}
  {rest : List (Numbered φ)}

/-- A facade that is lent is the head of the queue, and then nothing happens to it
before, or it is made and opened for want of an idle one. -/
theorem Lent.events (h : Lent b.traced factory s tally w t rest tally' w') :
    s.idle = t :: rest ∧ w'.events = w.events ∨
      s.idle = [] ∧ rest = [] ∧ w'.events = ⟨t.number, .openUp, .ok ()⟩ :: w.events := by
  cases h with
  | idle hidle => exact .inl ⟨hidle, rfl⟩
  | made hidle hmake =>
    refine .inr ⟨hidle, rfl, ?_⟩
    cases made_of_eq hmake with
    | @opened f world t w' hcreate hopen =>
      obtain ⟨hnumber, hevents⟩ := events_of_observe hopen
      rw [show t.number = w.facades.length from hnumber]
      exact hevents

/-- A facade that is lent while some are idle is the head of the queue. -/
theorem Lent.head {i : Nat} {is : List Nat}
    (h : Lent b.traced factory s tally w t rest tally' w')
    (hqueue : s.idle.map Numbered.number = i :: is) :
    t.number = i ∧ rest.map Numbered.number = is ∧ w'.events = w.events := by
  rcases h.events with ⟨hhead, hsame⟩ | ⟨hempty, -, -⟩
  · rw [hhead] at hqueue
    obtain ⟨hnumber, hrest⟩ := List.cons.inj hqueue
    exact ⟨hnumber, hrest, hsame⟩
  · rw [hempty] at hqueue
    cases hqueue

/-! ### The balance of the queue -/

/-- Whether what was in the queue and what is put there is what is taken from it and
what is there afterwards, in the same order. -/
def Deal.Conserves (d : Deal γ (Numbered φ) (Trace σ φ) κ) : Prop :=
  d.before.provider.queue ++ d.put = d.taken ++ d.after.provider.queue

namespace Deal.Conserves

variable {d : Deal γ (Numbered φ) (Trace σ φ) κ} (new : History)

/-- No branch is started, and the queue grows by what is put there. -/
theorem ofGrowth (hevents : d.after.world.events = new ++ d.before.world.events)
    (hstarters : new.starters = [])
    (hqueue : d.after.provider.queue = d.before.provider.queue ++ d.put) : d.Conserves := by
  rw [Deal.Conserves, Deal.taken, Deal.events_eq hevents, hstarters, hqueue]
  rfl

/-- A branch is started, or is to be started, on the facade that is lent. -/
theorem ofStart (hlent : Lent b.traced factory s tally d.before.world t rest tally' w')
    (hidle : d.before.provider.idle = s.idle) (hput : d.put = [])
    (hevents : d.after.world.events = new ++ w'.events) (hstarters : new.starters = [t.number])
    (hrest : d.after.provider.idle = rest) : d.Conserves := by
  rw [Deal.Conserves, hput, List.append_nil, queue, queue, hidle, hrest]
  rcases hlent.events with ⟨hhead, hsame⟩ | ⟨hempty, hnone, hmade⟩
  · -- it was the head of the queue
    rw [hsame] at hevents
    have hqueue : d.before.provider.queue = t.number :: rest.map Numbered.number := by
      rw [queue, hidle, hhead, List.map_cons]
    rw [Deal.taken_of_head _ hevents hstarters hqueue, hhead]
    rfl
  · -- it was made, as the queue was empty
    have htaken : d.taken = [] := by
      simp [Deal.taken, queue, hidle, hempty]
    rw [htaken, hempty, hnone]
    rfl

/-- The facade that is lent is called, and becomes idle. -/
theorem ofErrand (hlent : Lent b.traced factory s tally d.before.world t rest tally' w')
    (hidle : d.before.provider.idle = s.idle) (hput : d.put = d.events.opened)
    (hevents : d.after.world.events = new ++ w'.events) (hstarters : new.starters = [])
    (hopened : new.opened = [])
    (hqueue : d.after.provider.queue = t.number :: rest.map Numbered.number) : d.Conserves := by
  rcases hlent.events with ⟨hhead, hsame⟩ | ⟨hempty, hnone, hmade⟩
  · -- it stays the head of the queue
    rw [hsame] at hevents
    refine .ofGrowth _ hevents hstarters ?_
    rw [hput, Deal.events_eq hevents, hopened, hqueue, List.append_nil, queue, hidle, hhead]
    rfl
  · -- it was made, and is now the only one in the queue
    have hall : d.after.world.events =
        (new ++ [⟨t.number, .openUp, .ok ()⟩]) ++ d.before.world.events := by
      rw [hevents, hmade, List.append_assoc]
      rfl
    refine .ofGrowth _ hall ?_ ?_
    · rw [History.starters_append, hstarters]
      rfl
    · rw [hput, Deal.events_eq hall, History.opened_append, hopened, hqueue, queue, hidle, hempty,
        hnone]
      rfl

end Deal.Conserves

/-- A call that is refused puts nothing into the queue. -/
theorem put_of_isRefused {d : Deal γ (Numbered φ) (Trace σ φ) κ} (h : d.isRefused = true)
    (hworld : d.after.world = d.before.world) : d.put = [] := by
  have hevents : d.events = [] := Deal.events_eq (by rw [hworld]; rfl)
  simp only [Deal.put, hevents, h, if_true]
  split
  · split <;> rfl
  · rfl
  · rfl

theorem Course.conserves (h : Course b.traced c p w reply) (hc : c.closes = false) :
    Deal.Conserves ⟨c, ⟨p, w⟩, reply⟩ := by
  cases h with
  | refused happlies =>
    -- a call that is refused neither takes nor puts anything
    refine .ofGrowth [] rfl rfl ?_
    rw [put_of_isRefused rfl rfl, List.append_nil]
    rfl
  | unready hactive => exact .ofGrowth [] rfl rfl (List.append_nil _).symm
  | opened hactive => cases hc
  | closed hclose => cases hc
  | @unmade c factory s tally w e w' hborrows hidle hmake =>
    -- nobody is idle and nobody was made, so there was nothing to take and nothing is put
    obtain ⟨new, hevents, hstarters, hopened⟩ := events_of_unmade hmake
    cases c with
    | start x => exact .ofGrowth _ hevents hstarters (List.append_nil _).symm
    | finish how x =>
      have hnone : boundFacade? ⟨factory, some s, tally⟩ x = none := hborrows.2
      refine .ofGrowth _ hevents hstarters ?_
      simp only [Deal.put, hnone]
      rw [Deal.events_eq hevents, hopened, List.append_nil]
      rfl
    | recover =>
      refine .ofGrowth _ hevents hstarters ?_
      simp only [Deal.put]
      rw [Deal.events_eq hevents, hopened, List.append_nil]
      rfl
    | _ => exact hborrows.elim
  | @rejected x factory s tally w t rest tally' w' e hborrows hlent hanswer =>
    exact .ofStart [_, _] hlent rfl rfl rfl rfl rfl
  | @started x factory s tally w t rest tally' w' hborrows hlent hanswer =>
    exact .ofStart [_] hlent rfl rfl rfl rfl rfl
  | unprepared hactive hget hanswer =>
    exact .ofGrowth [_] rfl rfl (List.append_nil _).symm
  | prepared hactive hget hanswer =>
    exact .ofGrowth [_] rfl rfl (List.append_nil _).symm
  | @finishedBound how x factory s tally w t hended hget =>
    have hsome : boundFacade? ⟨factory, some s, tally⟩ x = some t := hget
    -- this is the one call that puts a facade at the tail, whatever it answered
    have hqueue : (s.idle ++ [(b.traced.finish how x t w).facade]).map Numbered.number =
        s.idle.map Numbered.number ++ [t.number] := by
      rw [List.map_append]
      rfl
    cases hanswer : (b.traced.finish how x t w).answer with
    | ok u =>
      refine .ofGrowth [_] rfl rfl ?_
      simp only [Deal.put, hsome]
      exact hqueue
    | error e =>
      refine .ofGrowth [_] rfl rfl ?_
      simp only [Deal.put, hsome]
      exact hqueue
  | @finishedLent how x factory s tally w t rest tally' w' hborrows hlent =>
    -- a facade that is lent is not taken; if it is a new one, it is put
    have hnone : boundFacade? ⟨factory, some s, tally⟩ x = none := hborrows.2
    cases hanswer : (b.traced.finish how x t w').answer with
    | ok u =>
      refine .ofErrand [_] hlent rfl ?_ rfl rfl rfl rfl
      simp only [Deal.put, hnone]
    | error e =>
      refine .ofErrand [_] hlent rfl ?_ rfl rfl rfl rfl
      simp only [Deal.put, hnone]
  | unrecovered hlent hanswer => exact .ofErrand [_] hlent rfl rfl rfl rfl rfl rfl
  | recovered hlent hanswer => exact .ofErrand [_] hlent rfl rfl rfl rfl rfl rfl
  | @used use x factory s tally w t reply hactive hget hreply =>
    rw [Backend.perform_traced] at hreply
    exact .ofGrowth [_] (events_of_observe hreply).2 rfl (List.append_nil _).symm

/-! ### The head of the queue -/

/-- A branch that is started, or is to be started, takes the head of the queue. -/
theorem Course.takes {x : Xid} {i : Nat} {is : List Nat}
    (h : Course b.traced (.start x) p w reply) (hqueue : p.queue = i :: is)
    (hanswer : Deal.isRefused ⟨.start x, ⟨p, w⟩, reply⟩ = false) :
    Deal.taken ⟨.start x, ⟨p, w⟩, reply⟩ = [i] := by
  cases h with
  | refused happlies => cases hanswer
  | @unmade _ factory s tally w e w' hborrows hidle hmake =>
    -- nobody could be made because nobody was idle, but here the queue has a head
    have hempty : queue ⟨factory, some s, tally⟩ = [] := congrArg (List.map _) hidle
    rw [hempty] at hqueue
    cases hqueue
  | rejected hborrows hlent hanswer =>
    -- whoever started the branch came from the head of the queue
    obtain ⟨rfl, -, hsame⟩ := hlent.head hqueue
    exact Deal.taken_of_head [_, _] (congrArg (_ :: _ :: ·) hsame) rfl hqueue
  | started hborrows hlent hanswer =>
    obtain ⟨rfl, -, hsame⟩ := hlent.head hqueue
    exact Deal.taken_of_head [_] (congrArg (_ :: ·) hsame) rfl hqueue

/-- Whether a call that only borrows a facade borrows the head of the queue, which
a start would take, and leaves the queue as it was. -/
def Deal.Peeks (b : Backend γ σ φ κ) (d : Deal γ (Numbered φ) (Trace σ φ) κ) : Prop :=
  ∀ op i is, d.errand = some op → d.before.provider.queue = i :: is →
    (∃ answer, d.events = [⟨i, op, answer⟩]) ∧ d.after.provider.queue = i :: is ∧
      ∀ x, (deal b.traced (.start x) d.before).isRefused = false →
        (deal b.traced (.start x) d.before).taken = [i]

/-- The facade that is lent is called, and stays where it was. -/
theorem Deal.Peeks.ofErrand {d : Deal γ (Numbered φ) (Trace σ φ) κ} (op : Operation)
    {answer : Except Facade.Error Unit}
    (hlent : Lent b.traced factory s tally d.before.world t rest tally' w')
    (hidle : d.before.provider.idle = s.idle) (herrand : d.errand = some op)
    (hevents : d.after.world.events = ⟨t.number, op, answer⟩ :: w'.events)
    (hqueue : d.after.provider.queue = t.number :: rest.map Numbered.number) : d.Peeks b := by
  intro op' i is herrand' hbefore
  obtain rfl : op = op' := Option.some.inj (herrand.symm.trans herrand')
  obtain ⟨rfl, rfl, hsame⟩ := hlent.head (by rw [← hidle]; exact hbefore)
  refine ⟨⟨answer, Deal.events_eq ?_⟩, hqueue, fun x hanswer => ?_⟩
  · rw [hevents, hsame]
    rfl
  · exact Course.takes (course_start x d.before.provider d.before.world) hbefore hanswer

theorem Deal.Peeks.ofNone {d : Deal γ (Numbered φ) (Trace σ φ) κ} (h : d.errand = none) :
    d.Peeks b := by
  intro op i is herrand
  rw [h] at herrand
  cases herrand

theorem errand_of_isRefused {d : Deal γ (Numbered φ) (Trace σ φ) κ} (h : d.isRefused = true) :
    d.errand = none := by
  rw [Deal.errand, Deal.finishesUnbound, h]
  split <;> rfl

section

variable {how : Finish} {x : Xid} {t : Numbered φ} {p : Provider γ (Numbered φ)} {w : Trace σ φ}
  {after : Reply γ (Numbered φ) (Trace σ φ) (Result κ)}

theorem errand_of_bound (h : p.boundFacade? x = some t) :
    Deal.errand ⟨.finish how x, ⟨p, w⟩, after⟩ = none := by
  rw [Deal.errand, Deal.finishesUnbound_of_bound h]
  rfl

theorem errand_of_unbound (h : p.boundFacade? x = none)
    (hpassed : Deal.isRefused ⟨.finish how x, ⟨p, w⟩, after⟩ = false) :
    Deal.errand ⟨.finish how x, ⟨p, w⟩, after⟩ = some (.finish how x) := by
  rw [Deal.errand, Deal.finishesUnbound_of_unbound h, hpassed]
  rfl

end

theorem Course.peeks (h : Course b.traced c p w reply) : Deal.Peeks b ⟨c, ⟨p, w⟩, reply⟩ := by
  cases h with
  | refused happlies => exact .ofNone (errand_of_isRefused rfl)
  | @unmade c factory s tally w e w' hborrows hidle hmake =>
    intro op i is herrand hqueue
    have hempty : queue ⟨factory, some s, tally⟩ = [] := congrArg (List.map _) hidle
    rw [hempty] at hqueue
    cases hqueue
  | @finishedBound how x factory s tally w t hended hget =>
    -- the facade of the branch did the work, so the queue was not asked for one
    have hsome : boundFacade? ⟨factory, some s, tally⟩ x = some t := hget
    exact .ofNone (errand_of_bound hsome)
  | @finishedLent how x factory s tally w t rest tally' w' hborrows hlent =>
    have hnone : boundFacade? ⟨factory, some s, tally⟩ x = none := hborrows.2
    cases hanswer : (b.traced.finish how x t w').answer with
    | ok u => exact .ofErrand (.finish how x) hlent rfl (errand_of_unbound hnone rfl) rfl rfl
    | error e => exact .ofErrand (.finish how x) hlent rfl (errand_of_unbound hnone rfl) rfl rfl
  | unrecovered hlent hanswer => exact .ofErrand .recover hlent rfl rfl rfl rfl
  | recovered hlent hanswer => exact .ofErrand .recover hlent rfl rfl rfl rfl
  | _ => exact .ofNone rfl

/-! ### Runs -/

theorem queue_reorder (p : Provider γ (Numbered φ)) (order : List Xid) :
    (p.reorder order).queue = p.queue := by
  obtain ⟨factory, _ | s, tally⟩ := p <;> rfl

/-- Every deal of a run is about one of its calls. -/
theorem call_mem_calls {act : ε → σ → σ} {ms : List (Move ε)} {s : State γ φ σ}
    {d : Deal γ φ σ κ} (hd : d ∈ journal b act ms s) : d.call ∈ calls ms := by
  induction ms generalizing s with
  | nil => cases hd
  | cons m ms ih =>
    cases m with
    | call c =>
      rcases List.mem_cons.mp hd with rfl | hd
      · exact List.mem_cons_self
      · exact List.mem_cons_of_mem _ (ih hd)
    | environment e => exact ih hd
    | reorder order => exact ih hd

/-- What every call conserves, a run conserves. -/
theorem conserves_run (b : Backend γ σ φ κ) (act : ε → Trace σ φ → Trace σ φ) (ms : List (Move ε))
    (hcalls : ∀ c ∈ calls ms, c.closes = false) {s : State γ (Numbered φ) (Trace σ φ)}
    (h : s.provider.Sound) :
    s.provider.queue ++ (journal b.traced act ms s).flatMap Deal.put =
        (journal b.traced act ms s).flatMap Deal.taken ++
          (run b.traced act ms s).provider.queue ∧
      ∀ d ∈ journal b.traced act ms s, d.Peeks b := by
  refine journal_induction (Q := fun p ds p' => (∀ d ∈ ds, d.call.closes = false) →
      p.queue ++ ds.flatMap Deal.put = ds.flatMap Deal.taken ++ p'.queue ∧
        ∀ d ∈ ds, Deal.Peeks b d) ?_ ?_ ?_ ms h fun d hd => hcalls _ (call_mem_calls hd)
  · intro p _
    exact ⟨List.append_nil _, fun d hd => absurd hd List.not_mem_nil⟩
  -- one deal conserves the queue, and the rest goes on from the queue that it leaves
  · intro d ds p' hd hrest hclosing
    have hone : d.Conserves := Course.conserves hd (hclosing d List.mem_cons_self)
    obtain ⟨hrest, hpeeks⟩ := hrest fun e he => hclosing e (List.mem_cons_of_mem _ he)
    constructor
    · calc d.before.provider.queue ++ (d.put ++ ds.flatMap Deal.put)
          = d.taken ++ (d.after.provider.queue ++ ds.flatMap Deal.put) := by
            rw [← List.append_assoc, hone, List.append_assoc]
        _ = d.taken ++ (ds.flatMap Deal.taken ++ p'.queue) := by rw [hrest]
        _ = d.taken ++ ds.flatMap Deal.taken ++ p'.queue := (List.append_assoc _ _ _).symm
    · intro e he
      rcases List.mem_cons.mp he with rfl | he
      · exact Course.peeks hd
      · exact hpeeks e he
  · intro order p ds p' hrest
    rwa [queue_reorder] at hrest

/-- A pool that was opened has no idle facade. -/
theorem queue_of_opened {s : State γ (Numbered φ) (Trace σ φ)}
    (h : (deal b.traced .openUp s).after.answer = .ok .done) :
    (deal b.traced .openUp s).after.provider.queue = [] := by
  obtain ⟨p, w⟩ := s
  simp only [deal, Call.run, openUp] at h ⊢
  cases hactive : p.active? with
  | none => rfl
  | some y =>
    rw [hactive] at h
    cases h

/-- From one opening of the pool until the next, or until it is closed, idle facades
are taken in the order in which they became idle: those that were put into the queue
are those that were taken from it, and then those that are idle now.  A call that
only borrows a facade borrows the one that would be taken next, if there is one, and
does not change the order. -/
theorem queue_run (b : Backend γ σ φ κ) (act : ε → σ → σ) (before ms : List (Move ε)) (factory : γ)
    (w : σ)
    (hopened : (deal b.traced .openUp
      (run b.traced (Trace.lift act) before (.fresh factory w))).after.answer = .ok .done)
    (hcalls : ∀ c ∈ calls ms, c.closes = false) :
    let opened := run b.traced (Trace.lift act) (before ++ [.call .openUp]) (.fresh factory w)
    let s := run b.traced (Trace.lift act) ms opened
    let ds := journal b.traced (Trace.lift act) ms opened
    s.untraced = run b act (before ++ [.call .openUp] ++ ms) ⟨.ofFactory factory, w⟩ ∧
      ds.map Deal.untraced =
        journal b act ms (run b act (before ++ [.call .openUp]) ⟨.ofFactory factory, w⟩) ∧
      ds.flatMap Deal.put = ds.flatMap Deal.taken ++ s.provider.queue ∧
      ∀ d ∈ ds, d.Peeks b := by
  intro opened s ds
  have hstate : opened = Move.apply b.traced (Trace.lift act) (.call .openUp)
      (run b.traced (Trace.lift act) before (.fresh factory w)) := List.foldl_append
  have hsound : opened.provider.Sound := sound_run _ (sound_ofFactory factory)
  -- reopening leaves no facade idle, so what is put and what is taken balance alone
  have hempty : opened.provider.queue = [] := by
    rw [hstate]
    exact queue_of_opened hopened
  obtain ⟨hqueue, hpeeks⟩ := conserves_run b (Trace.lift act) ms hcalls hsound
  refine ⟨?_, ?_, ?_, hpeeks⟩
  · rw [← untraced_run, run, List.foldl_append]
    rfl
  · rw [← untraced_run]
    exact untraced_journal b act ms opened
  · rw [hempty, List.nil_append] at hqueue
    exact hqueue

/-- Two facades of an earlier opening are gone.  Of the two that are made next, the
one whose branch is finished first is taken first, though the other one is older, and
a facade that is asked for the prepared branches in between stays where it is. -/
theorem queue_of_two_facades :
    let b := ResourceManager.backend
    let x : Xid := ⟨1, [1], [], by decide, by decide⟩
    let y : Xid := ⟨1, [2], [], by decide, by decide⟩
    let z : Xid := ⟨1, [3], [], by decide, by decide⟩
    let before : List (Move Empty) :=
      [.call .openUp, .call (.start x), .call (.endAndPrepare x), .call .recover]
    let ms : List (Move Empty) :=
      [.call (.start y), .call (.endAndPrepare y), .call (.start z), .call (.endAndPrepare z),
        .call (.finish (.commit false) z), .call (.finish .rollback y), .call .recover,
        .call (.start z)]
    let opened := run b.traced (Trace.lift Empty.elim) (before ++ [.call .openUp])
      (.fresh default {})
    let s := run b.traced (Trace.lift Empty.elim) ms opened
    let ds := journal b.traced (Trace.lift Empty.elim) ms opened
    (deal b.traced .openUp
        (run b.traced (Trace.lift Empty.elim) before (.fresh default {}))).after.answer =
          .ok .done ∧
      (∀ c ∈ calls ms, c.closes = false) ∧
      ds.flatMap Deal.put = [3, 2] ∧ ds.flatMap Deal.taken = [3] ∧ s.provider.queue = [2] ∧
      ds.flatMap Deal.put = ds.flatMap Deal.taken ++ s.provider.queue := by
  intro b x y z before ms opened s ds
  have hopened : (deal b.traced .openUp
      (run b.traced (Trace.lift Empty.elim) before (.fresh default {}))).after.answer =
        .ok .done := rfl
  have hcalls : ∀ c ∈ calls ms, c.closes = false := by decide
  have hput : ds.flatMap Deal.put = [3, 2] := by decide +kernel
  have htaken : ds.flatMap Deal.taken = [3] := by decide +kernel
  have hqueue : s.provider.queue = [2] := by decide +kernel
  obtain ⟨-, -, hall, -⟩ := queue_run b Empty.elim before ms default {} hopened hcalls
  exact ⟨hopened, hcalls, hput, htaken, hqueue, hall⟩

end Provider

end BranchPool
