/-
The counters of a provider as a ledger of what its callers were answered.

* `Provider.Deal` — a call, the state that it came in and what it left behind;
* `Provider.journal` — the deals of a run;
* `Provider.Deal.book` — what a deal adds to the counters;
* `Provider.journal_induction` — what each deal keeps true, a run keeps true;
* `Provider.ledger_run` — the counters after a run are the numbers of deals of
  each kind, and with them the number of bound facades is known.
-/
import BranchPool.Proofs.Provider.Shutdown
import BranchPool.Proofs.Trace

namespace BranchPool

open Facade

variable {γ σ φ κ ε : Type}

/-- Whether no counter is lower in the second tally than in the first. -/
def Tally.Below (t t' : Tally) : Prop :=
  List.Forall₂ (fun e e' => e.1 = e'.1 ∧ e.2 ≤ e'.2) t.entries t'.entries

namespace Provider

/-- A call on a provider, with the state that it came in and what it left
behind. -/
structure Deal (γ φ σ κ : Type) where
  call : Call
  before : State γ φ σ
  after : Reply γ φ σ (Result κ)

/-- A call that is made in a state. -/
def deal (b : Backend γ σ φ κ) (c : Call) (s : State γ φ σ) : Deal γ φ σ κ :=
  ⟨c, s, c.run b s.provider s.world⟩

/-- The deals of a run, in order. -/
def journal (b : Backend γ σ φ κ) (act : ε → σ → σ) :
    List (Move ε) → State γ φ σ → List (Deal γ φ σ κ)
  | [], _ => []
  | .call c :: ms, s => deal b c s :: journal b act ms (Move.apply b act (.call c) s)
  | m :: ms, s => journal b act ms (Move.apply b act m s)

namespace Deal

variable (d : Deal γ φ σ κ)

/-! ### Kinds of deals -/

/-- Whether a branch was started. -/
def starts : Bool := d.after.answer.isOk && d.call matches .start _

/-- Whether a branch was prepared. -/
def prepares : Bool := d.after.answer.isOk && d.call matches .endAndPrepare _

/-- Whether a branch was committed. -/
def commits : Bool := d.after.answer.isOk && d.call matches .finish (.commit _) _

/-- Whether a branch was rolled back, after a failure or without. -/
def rollsBack : Bool :=
  d.after.answer.isOk && d.call matches .finish .rollback _ | .finish .failAndRollback _

/-- Whether the prepared branches were told. -/
def recovers : Bool := d.after.answer.isOk && d.call matches .recover

/-- Whether the caller was told of a transient failure. -/
def isTransient : Bool := d.after.answer matches .error (.transient ..)

/-- Whether the caller was told that a facade did not start a branch. -/
def discards : Bool :=
  (d.after.answer matches .error (.resource _)) && d.call matches .start _

/-- Whether the caller was told of a violation. -/
def isRefused : Bool := d.after.answer matches .error (.stateViolation _)

/-- Whether it was attempted to finish a branch. -/
def finishes : Bool := !d.isRefused && d.call matches .finish _ _

/-- Whether it was attempted to finish a branch that had no facade. -/
def finishesUnbound : Bool :=
  !d.isRefused && match d.call with
    | .finish _ x => (d.before.provider.boundFacade? x).isNone
    | _ => false

/-- The calls on facades that a deal adds to a trace. -/
def events (d : Deal γ (Numbered φ) (Trace σ φ) κ) : History :=
  d.after.world.events.take (d.after.world.events.length - d.before.world.events.length)

/-- The facades that were bound to a branch and that a deal closes for good. -/
def closedBound (d : Deal γ (Numbered φ) (Trace σ φ) κ) : List (Numbered φ) :=
  if d.call.closes then
    d.before.provider.bound.values.filter fun t =>
      d.events.any fun e => e.facade = t.number ∧ e.operation = .close
  else []

/-- A deal of a traced provider, without the trace. -/
def untraced (d : Deal γ (Numbered φ) (Trace σ φ) κ) : Deal γ φ σ κ :=
  ⟨d.call, d.before.untraced, d.after.image Numbered.value Trace.world⟩

section

variable {how : Finish} {x : Xid} {f : φ} {p : Provider γ φ} {w : σ}
  {after : Reply γ φ σ (Result κ)}

theorem finishesUnbound_of_bound (h : p.boundFacade? x = some f) :
    finishesUnbound ⟨.finish how x, ⟨p, w⟩, after⟩ = false := by
  simp [finishesUnbound, h]

/-- A branch without a facade is an attempt of this kind unless the provider itself refuses it. -/
theorem finishesUnbound_of_unbound (h : p.boundFacade? x = none) :
    finishesUnbound ⟨.finish how x, ⟨p, w⟩, after⟩ =
      !isRefused ⟨.finish how x, ⟨p, w⟩, after⟩ := by
  simp [finishesUnbound, h]

end

end Deal

/-- Whether a deal is one of the courses that a call can take. -/
def Deal.Regular (b : Backend γ σ φ κ) (d : Deal γ φ σ κ) : Prop :=
  Course b d.call d.before.provider d.before.world d.after

variable {b : Backend γ σ φ κ} {act : ε → σ → σ}

theorem regular_deal (c : Call) {s : State γ φ σ} (h : s.provider.Sound) :
    (deal b c s).Regular b :=
  course_run c h s.world

/-- The deals of a traced run are those of the run. -/
theorem untraced_journal (b : Backend γ σ φ κ) (act : ε → σ → σ) (ms : List (Move ε))
    (s : State γ (Numbered φ) (Trace σ φ)) :
    (journal b.traced (Trace.lift act) ms s).map Deal.untraced = journal b act ms s.untraced := by
  induction ms generalizing s with
  | nil => rfl
  | cons m ms ih =>
    -- a move and its trace belong together, so the two journals go on from the same state
    have hmove : m.apply b act s.untraced = (m.apply b.traced (Trace.lift act) s).untraced :=
      b.traced_translation.run (fun _ _ => rfl) [m] s
    have hrest := ih (m.apply b.traced (Trace.lift act) s)
    rw [← hmove] at hrest
    cases m with
    | call c =>
      show _ :: _ = _ :: _
      rw [hrest]
      refine congrArg (· :: _) ?_
      simp only [Deal.untraced, deal, State.untraced, State.image, b.traced_translation.run_call]
    | environment e => exact hrest
    | reorder order => exact hrest

/-- What is true of an empty run, and stays true with one more deal before it, is
true of every run and its deals. -/
theorem journal_induction {Q : Provider γ φ → List (Deal γ φ σ κ) → Provider γ φ → Prop}
    (hnil : ∀ p, Q p [] p)
    (hdeal : ∀ d ds p', d.Regular b → Q d.after.provider ds p' → Q d.before.provider (d :: ds) p')
    (hreorder : ∀ order p ds p', Q (p.reorder order) ds p' → Q p ds p') (ms : List (Move ε))
    {s : State γ φ σ} (h : s.provider.Sound) :
    Q s.provider (journal b act ms s) (run b act ms s).provider := by
  induction ms generalizing s with
  | nil => exact hnil _
  | cons m ms ih =>
    -- the induction needs a sound state to begin each of its steps with
    have hsound : (m.apply b act s).provider.Sound := sound_run [m] h
    have hrest := ih hsound
    cases m with
    | call c => exact hdeal (deal b c s) _ _ (regular_deal c h) hrest
    | environment e => exact hrest
    | reorder order => exact hreorder order _ _ _ hrest

theorem countP_cons_toNat (test : Deal γ φ σ κ → Bool) (d : Deal γ φ σ κ)
    (ds : List (Deal γ φ σ κ)) : (d :: ds).countP test = (test d).toNat + ds.countP test := by
  rw [List.countP_cons, Nat.add_comm]
  cases test d <;> rfl

/-! ### What a call adds to the counters -/

/-- The counters after a deal for which so many facades were made and opened. -/
def Deal.book (d : Deal γ φ σ κ) (made : Nat) (t : Tally) : Tally where
  facadesCreated := t.facadesCreated + made
  facadesDiscarded := t.facadesDiscarded + d.discards.toNat
  branchesStarted := t.branchesStarted + d.starts.toNat
  branchesPrepared := t.branchesPrepared + d.prepares.toNat
  branchesCommitted := t.branchesCommitted + d.commits.toNat
  branchesRolledBack := t.branchesRolledBack + d.rollsBack.toNat
  unmappedFinalizations := t.unmappedFinalizations + d.finishesUnbound.toNat
  transientFailures := t.transientFailures + d.isTransient.toNat
  recoveries := t.recoveries + d.recovers.toNat

theorem Deal.below_book (d : Deal γ φ σ κ) (made : Nat) (t : Tally) :
    t.Below (d.book made t) := by
  simp [Tally.Below, Tally.entries, Deal.book]

/-- A facade that is lent was idle, or is counted as made. -/
theorem Lent.tally_eq {factory : γ} {s : Pool φ} {t t' : Tally} {w w' : σ} {f : φ} {rest : List φ}
    (h : Lent b factory s t w f rest t' w') :
    ∃ made, t' = { t with facadesCreated := t.facadesCreated + made } := by
  cases h with
  | idle hidle => exact ⟨0, rfl⟩
  | made hidle hmake => exact ⟨1, rfl⟩

/-- Each deal is booked. -/
theorem Deal.Regular.booked {d : Deal γ φ σ κ} (h : d.Regular b) :
    ∃ made, d.after.provider.tally = d.book made d.before.provider.tally := by
  obtain ⟨c, ⟨p, w⟩, reply⟩ := d
  have hcourse : Course b c p w reply := h
  cases hcourse with
  | refused happlies => exact ⟨0, rfl⟩
  | unready hactive => exact ⟨0, rfl⟩
  | opened hactive => exact ⟨0, rfl⟩
  | @closed p w failures w' hclose =>
    cases failures <;> exact ⟨0, rfl⟩
  | @unmade c factory s tally w e w' hborrows hidle hmake =>
    cases c with
    | start x => exact ⟨0, rfl⟩
    | finish how x =>
      -- the attempt is counted though no facade could be made for it
      refine ⟨0, ?_⟩
      have hnone : boundFacade? ⟨factory, some s, tally⟩ x = none := hborrows.2
      simp only [Deal.book, Deal.finishesUnbound_of_unbound hnone]
      rfl
    | recover => exact ⟨0, rfl⟩
    | _ => exact hborrows.elim
  -- a facade may have been made for the call, which is one of the counters
  | rejected hborrows hlent hanswer =>
    obtain ⟨made, rfl⟩ := hlent.tally_eq
    exact ⟨made, rfl⟩
  | started hborrows hlent hanswer =>
    obtain ⟨made, rfl⟩ := hlent.tally_eq
    exact ⟨made, rfl⟩
  | unprepared hactive hget hanswer => exact ⟨0, rfl⟩
  | prepared hactive hget hanswer => exact ⟨0, rfl⟩
  | @finishedBound how x factory s tally w f hended hget =>
    have hsome : boundFacade? ⟨factory, some s, tally⟩ x = some f := hget
    refine ⟨0, ?_⟩
    simp only [Deal.book, Deal.finishesUnbound_of_bound hsome]
    cases (b.finish how x f w).answer <;> cases how <;> rfl
  | @finishedLent how x factory s tally w f rest tally' w' hborrows hlent =>
    have hnone : boundFacade? ⟨factory, some s, tally⟩ x = none := hborrows.2
    obtain ⟨made, rfl⟩ := hlent.tally_eq
    refine ⟨made, ?_⟩
    simp only [Deal.book, Deal.finishesUnbound_of_unbound hnone]
    cases (b.finish how x f w').answer <;> cases how <;> rfl
  | unrecovered hlent hanswer =>
    obtain ⟨made, rfl⟩ := hlent.tally_eq
    exact ⟨made, rfl⟩
  | recovered hlent hanswer =>
    obtain ⟨made, rfl⟩ := hlent.tally_eq
    exact ⟨made, rfl⟩
  | @used use x factory s tally w f reply hactive hget hreply =>
    obtain ⟨answer, facade, world⟩ := reply
    cases answer <;> exact ⟨0, rfl⟩

/-- A counter to which each deal of a kind adds one is the number of such deals in
a run. -/
theorem tally_run {counter : Tally → Nat} {test : Deal γ φ σ κ → Bool} (hzero : counter {} = 0)
    (hbook : ∀ d made t, counter (Deal.book d made t) = counter t + (test d).toNat)
    (ms : List (Move ε)) (factory : γ) (w : σ) :
    counter (run b act ms ⟨.ofFactory factory, w⟩).provider.tally =
      (journal b act ms ⟨.ofFactory factory, w⟩).countP test := by
  have hcount : counter (run b act ms ⟨.ofFactory factory, w⟩).provider.tally =
      counter {} + (journal b act ms ⟨.ofFactory factory, w⟩).countP test := by
    -- each deal adds to the counter what the test says of it
    refine journal_induction
      (Q := fun p ds p' => counter p'.tally = counter p.tally + ds.countP test)
      (fun _ => rfl) (fun d ds p' hd hrest => ?_) (fun _ _ _ _ h => h) ms (sound_ofFactory factory)
    obtain ⟨made, htally⟩ := hd.booked
    rw [htally, hbook] at hrest
    rw [hrest, countP_cons_toNat, Nat.add_assoc]
  rw [hcount, hzero, Nat.zero_add]

/-- No move lowers a counter. -/
theorem below_apply (m : Move ε) {s : State γ φ σ} (h : s.provider.Sound) :
    s.provider.tally.Below (m.apply b act s).provider.tally := by
  have hsame : s.provider.tally.Below s.provider.tally := by simp [Tally.Below, Tally.entries]
  cases m with
  | call c =>
    obtain ⟨made, htally⟩ := (regular_deal (b := b) c h).booked
    show s.provider.tally.Below (deal b c s).after.provider.tally
    rw [htally]
    exact Deal.below_book _ _ _
  | environment e => exact hsame
  | reorder order => exact hsame

/-! ### Prepared branches -/

/-- Whether every branch that was prepared, and also the one that is active, was
started. -/
def PreparesStarted (p : Provider γ φ) : Prop :=
  p.tally.branchesPrepared + p.active?.isSome.toNat ≤ p.tally.branchesStarted

theorem Course.preparesStarted {c : Call} {p : Provider γ φ} {w : σ}
    {reply : Reply γ φ σ (Result κ)} (h : Course b c p w reply) (hp : p.PreparesStarted) :
    reply.provider.PreparesStarted := by
  cases h with
  | refused h => exact hp
  | unready h => exact hp
  -- no branch is active any more, so there is less to be counted
  | opened h => exact Nat.le_trans (Nat.le_add_right _ _) hp
  | closed h => exact Nat.le_trans (Nat.le_add_right _ _) hp
  | @unmade c factory s tally w e w' hborrows hidle hmake =>
    cases c with
    | start x => exact hp
    | finish how x => exact hp
    | recover => exact hp
    | _ => exact hborrows.elim
  | rejected hborrows hlent hanswer =>
    obtain ⟨made, rfl⟩ := hlent.tally_eq
    exact hp
  | started hborrows hlent hanswer =>
    obtain ⟨made, rfl⟩ := hlent.tally_eq
    -- one more was started, and it is the active one now
    exact Nat.succ_le_succ (Nat.le_trans (Nat.le_add_right _ _) hp)
  | unprepared hactive hget hanswer => exact Nat.le_trans (Nat.le_add_right _ _) hp
  | @prepared x factory s tally w f hactive hget hanswer =>
    -- the branch that was active is prepared now, so the sum is what it was
    have hsome : active? ⟨factory, some s, tally⟩ = some x := hactive
    rw [PreparesStarted, hsome] at hp
    exact hp
  | @finishedBound how x factory s tally w f hended hget =>
    have hless : (s.without x).active.isSome.toNat ≤ s.active.isSome.toNat := by
      rw [Pool.without]
      split <;> simp
    have hp : tally.branchesPrepared + s.active.isSome.toNat ≤ tally.branchesStarted := hp
    have hp' : tally.branchesPrepared + (s.without x).active.isSome.toNat ≤ tally.branchesStarted :=
      Nat.le_trans (Nat.add_le_add_left hless _) hp
    cases (b.finish how x f w).answer <;> cases how <;> exact hp'
  | @finishedLent how x factory s tally w f rest tally' w' hborrows hlent =>
    obtain ⟨made, rfl⟩ := hlent.tally_eq
    cases (b.finish how x f w').answer <;> cases how <;> exact hp
  | unrecovered hlent hanswer =>
    obtain ⟨made, rfl⟩ := hlent.tally_eq
    exact hp
  | recovered hlent hanswer =>
    obtain ⟨made, rfl⟩ := hlent.tally_eq
    exact hp
  | used hactive hget hreply => exact hp

theorem preparesStarted_run (b : Backend γ σ φ κ) (act : ε → σ → σ) (ms : List (Move ε))
    (factory : γ) (w : σ) : (run b act ms ⟨.ofFactory factory, w⟩).provider.PreparesStarted := by
  refine journal_induction (b := b) (Q := fun p _ p' => p.PreparesStarted → p'.PreparesStarted)
    (fun _ => id) (fun d ds p' hd hrest hp => hrest (hd.preparesStarted hp))
    (fun order p ds p' hrest hp => hrest ?_) ms (sound_ofFactory factory) (Nat.le_refl 0)
  obtain ⟨factory, _ | s, tally⟩ := p <;> exact hp

/-! ### Bound facades -/

theorem Deal.closedBound_of_world_eq {d : Deal γ (Numbered φ) (Trace σ φ) κ}
    (h : d.after.world = d.before.world) : d.closedBound = [] := by
  simp [Deal.closedBound, Deal.events, h]

/-- A deal that closes every facade closes those that are bound. -/
theorem Deal.closedBound_of_closeAll {d : Deal γ (Numbered φ) (Trace σ φ) κ}
    (hcloses : d.call.closes = true)
    (hworld : d.after.world = (closeAll b.traced d.before.provider.facades d.before.world).2) :
    d.closedBound = d.before.provider.bound.values := by
  obtain ⟨new, hnew, hall⟩ :=
    (shuts_closeAll b d.before.provider.facades d.before.world).exists_close
  -- the events of this call are those of the closes, as it does nothing else to facades
  have hevents : d.events = new := by
    rw [Deal.events, hworld, hnew, List.length_append, Nat.add_sub_cancel]
    exact List.take_left' rfl
  rw [Deal.closedBound, if_pos hcloses, hevents, List.filter_eq_self]
  intro t ht
  -- the facades that are closed are all that were held, the bound ones among them
  have hmem : t ∈ d.before.provider.facades := by
    rw [facades_eq]
    exact List.mem_append_left _ ht
  obtain ⟨e, he, hfacade, hop⟩ := hall t hmem
  exact List.any_eq_true.mpr ⟨e, he, by simp [hfacade, hop]⟩

/-- A facade is bound when a branch is started, and ceases to be when its branch
is finished or the pool is closed. -/
theorem Deal.Regular.bound_balance {d : Deal γ (Numbered φ) (Trace σ φ) κ}
    (h : d.Regular b.traced) :
    d.after.provider.boundCount + (d.finishes.toNat + d.closedBound.length) =
      d.before.provider.boundCount + (d.starts.toNat + d.finishesUnbound.toNat) := by
  obtain ⟨c, ⟨p, w⟩, reply⟩ := d
  have hcourse : Course b.traced c p w reply := h
  cases hcourse with
  | refused happlies =>
    rw [Deal.closedBound_of_world_eq rfl]
    rfl
  | unready hactive =>
    rw [Deal.closedBound_of_world_eq rfl]
    rfl
  -- both ways to close empty the map, and all that was in it was closed
  | opened hactive =>
    rw [Deal.closedBound_of_closeAll rfl rfl, BranchMap.length_values]
    show 0 + (0 + p.boundCount) = p.boundCount + 0
    omega
  | @closed p w failures w' hclose =>
    rw [Deal.closedBound_of_closeAll (b := b) rfl (congrArg Prod.snd hclose).symm,
      BranchMap.length_values]
    have hall : 0 + (0 + p.boundCount) = p.boundCount + 0 := by omega
    cases failures <;> exact hall
  | @unmade c factory s tally w e w' hborrows hidle hmake =>
    cases c with
    | start x => rfl
    | finish how x =>
      have hnone : boundFacade? ⟨factory, some s, tally⟩ x = none := hborrows.2
      rw [Deal.finishesUnbound_of_unbound hnone]
      rfl
    | recover => rfl
    | _ => exact hborrows.elim
  | rejected hborrows hlent hanswer => rfl
  | @started x factory s tally w f rest tally' w' hborrows hlent hanswer =>
    -- the branch had no facade, so the map gets a new entry
    exact BranchMap.size_insert hborrows.2 (b.traced.start x f w').facade
  -- a facade that is called stays bound, and its entry is only replaced
  | unprepared hactive hget hanswer => exact BranchMap.size_update _ _ _
  | prepared hactive hget hanswer => exact BranchMap.size_update _ _ _
  | @finishedBound how x factory s tally w f hended hget =>
    have hsome : boundFacade? ⟨factory, some s, tally⟩ x = some f := hget
    have hsize : (s.bound.erase x).size + 1 = s.bound.size := BranchMap.size_erase hget
    rw [Deal.finishesUnbound_of_bound hsome]
    cases (b.traced.finish how x f w).answer <;> cases how <;> exact hsize
  | @finishedLent how x factory s tally w f rest tally' w' hborrows hlent =>
    have hnone : boundFacade? ⟨factory, some s, tally⟩ x = none := hborrows.2
    rw [Deal.finishesUnbound_of_unbound hnone]
    cases (b.traced.finish how x f w').answer <;> cases how <;> rfl
  | unrecovered hlent hanswer => rfl
  | recovered hlent hanswer => rfl
  | @used use x factory s tally w f reply hactive hget hreply =>
    obtain ⟨answer, facade, world⟩ := reply
    cases answer <;> exact BranchMap.size_update _ _ _

/-- Whether the number of bound facades has changed as the deals in between
say. -/
def Balanced (p : Provider γ (Numbered φ)) (ds : List (Deal γ (Numbered φ) (Trace σ φ) κ))
    (p' : Provider γ (Numbered φ)) : Prop :=
  p'.boundCount + ds.countP Deal.finishes + (ds.flatMap Deal.closedBound).length =
    p.boundCount + ds.countP Deal.starts + ds.countP Deal.finishesUnbound

theorem Balanced.cons {d : Deal γ (Numbered φ) (Trace σ φ) κ}
    {ds : List (Deal γ (Numbered φ) (Trace σ φ) κ)} {p' : Provider γ (Numbered φ)}
    (hd : d.Regular b.traced) (h : Balanced d.after.provider ds p') :
    Balanced d.before.provider (d :: ds) p' := by
  have hfirst := hd.bound_balance
  simp only [Balanced, countP_cons_toNat, List.flatMap_cons, List.length_append] at h ⊢
  omega

theorem Balanced.reorder {p p' : Provider γ (Numbered φ)}
    {ds : List (Deal γ (Numbered φ) (Trace σ φ) κ)} {order : List Xid}
    (h : Balanced (p.reorder order) ds p') : Balanced p ds p' := by
  obtain ⟨factory, _ | s, tally⟩ := p
  · exact h
  · have hsize : (s.bound.arrange order).size = s.bound.size := s.bound.size_arrange order
    have hcount : boundCount (Provider.reorder ⟨factory, some s, tally⟩ order) =
        boundCount ⟨factory, some s, tally⟩ := hsize
    rwa [Balanced, hcount] at h

theorem balanced_run (b : Backend γ σ φ κ) (act : ε → Trace σ φ → Trace σ φ) (ms : List (Move ε))
    {s : State γ (Numbered φ) (Trace σ φ)} (h : s.provider.Sound) :
    Balanced s.provider (journal b.traced act ms s) (run b.traced act ms s).provider :=
  journal_induction (fun _ => rfl) (fun _ _ _ hd hrest => hrest.cons hd)
    (fun _ _ _ _ hrest => hrest.reorder) ms h

/-- The counters after a run are the numbers of calls that were answered so, of
each kind: a caller could keep them.  No counter ever goes down, and opening and
closing leave them all.  The facades that are bound are those on which a branch
was started, less those whose branch was finished and those that were closed. -/
theorem ledger_run (b : Backend γ σ φ κ) (act : ε → σ → σ) (ms : List (Move ε)) (factory : γ)
    (w : σ) :
    let s := run b.traced (Trace.lift act) ms (.fresh factory w)
    let ds := journal b.traced (Trace.lift act) ms (.fresh factory w)
    let t := s.provider.tally
    s.untraced = run b act ms ⟨.ofFactory factory, w⟩ ∧
      ds.map Deal.untraced = journal b act ms ⟨.ofFactory factory, w⟩ ∧
      t.branchesStarted = ds.countP Deal.starts ∧
      t.branchesPrepared = ds.countP Deal.prepares ∧
      t.branchesCommitted = ds.countP Deal.commits ∧
      t.branchesRolledBack = ds.countP Deal.rollsBack ∧
      t.recoveries = ds.countP Deal.recovers ∧
      t.transientFailures = ds.countP Deal.isTransient ∧
      t.facadesDiscarded = ds.countP Deal.discards ∧
      t.unmappedFinalizations = ds.countP Deal.finishesUnbound ∧
      (∀ m : Move ε, t.Below (m.apply b.traced (Trace.lift act) s).provider.tally) ∧
      (∀ c : Call, c.closes = true → (c.run b.traced s.provider s.world).provider.tally = t) ∧
      (s.provider.boundCount : Int) =
        t.branchesStarted - ((ds.countP Deal.finishes : Int) - t.unmappedFinalizations) -
          (ds.flatMap Deal.closedBound).length ∧
      t.branchesPrepared ≤ t.branchesStarted := by
  intro s ds t
  have hsound : s.provider.Sound := sound_run ms (sound_ofFactory factory)
  have hunmapped : t.unmappedFinalizations = ds.countP Deal.finishesUnbound :=
    tally_run rfl (fun _ _ _ => rfl) ms factory _
  have hstarted : t.branchesStarted = ds.countP Deal.starts :=
    tally_run rfl (fun _ _ _ => rfl) ms factory _
  refine ⟨untraced_run b act ms factory w, untraced_journal b act ms _, hstarted,
    tally_run rfl (fun _ _ _ => rfl) ms factory _, tally_run rfl (fun _ _ _ => rfl) ms factory _,
    tally_run rfl (fun _ _ _ => rfl) ms factory _, tally_run rfl (fun _ _ _ => rfl) ms factory _,
    tally_run rfl (fun _ _ _ => rfl) ms factory _, tally_run rfl (fun _ _ _ => rfl) ms factory _,
    hunmapped, fun m => below_apply m hsound, fun c hc => tally_of_closes hc _ _, ?_, ?_⟩
  · -- nothing was bound at first
    have hbalanced : s.provider.boundCount + ds.countP Deal.finishes +
        (ds.flatMap Deal.closedBound).length =
          0 + ds.countP Deal.starts + ds.countP Deal.finishesUnbound :=
      balanced_run b (Trace.lift act) ms (sound_ofFactory factory)
    omega
  · exact Nat.le_trans (Nat.le_add_right _ _) (preparesStarted_run b.traced _ ms factory _)

end Provider

end BranchPool
