/-
A branch is started on a facade, and ended on it.

* `Provider.StartsOn` — what the facade that is given a branch answers, and what
  becomes of it: it is bound to the branch, or is closed and dropped;
* `Provider.Ended` — what an end of the active branch leaves behind, whatever its
  facade answers;
* `Provider.Course.engages` — which facade a branch is started on;
* `Provider.engagement_run` — so it is after every run.

Design note: a call on a facade is named by its observation in the trace.  A
world that is the one left by an observation thus holds that one call more, and
no other.
-/
import BranchPool.Proofs.Provider.Conduct
import BranchPool.Proofs.Provider.Finalization
import BranchPool.Proofs.Provider.Refusal
import BranchPool.Recorder

namespace BranchPool.Provider

open Facade

variable {γ σ φ κ ε : Type}

/-! ### What may become of a branch and its facade -/

/-- Whether a facade that failed to start a branch is closed once and dropped,
and all else but the queue and the counters is as it was.  The caller is told
why the branch was not started, even if the facade could not be closed either. -/
structure Dropped (b : Backend γ σ φ κ) (e : Facade.Error)
    (a : Facade.Reply (Numbered φ) (Trace σ φ) Unit) (rest : List (Numbered φ)) (tally : Tally)
    (p : Provider γ (Numbered φ)) (r : Reply γ (Numbered φ) (Trace σ φ) (Result κ)) : Prop where
  answer : r.answer = .error (.resource e)
  world : r.world = (Trace.observe .close b.close a.facade a.world).world
  isInitialized : r.provider.isInitialized = true
  idle : r.provider.idle = rest
  bound : r.provider.bound = p.bound
  active : r.provider.active? = none
  tally : r.provider.tally = tally.addDiscarded
  gone : ∀ u ∈ r.provider.facades, u.number ≠ a.facade.number

/-- Whether a facade that started a branch is bound to it, and the branch is the
active one. -/
structure Seated (x : Xid) (a : Facade.Reply (Numbered φ) (Trace σ φ) Unit)
    (rest : List (Numbered φ)) (tally : Tally) (p : Provider γ (Numbered φ))
    (r : Reply γ (Numbered φ) (Trace σ φ) (Result κ)) : Prop where
  answer : r.answer = .ok .done
  world : r.world = a.world
  idle : r.provider.idle = rest
  bound : ∀ y, r.provider.boundFacade? y = if y = x then some a.facade else p.boundFacade? y
  active : r.provider.active? = some x
  tally : r.provider.tally = tally.addStarted

/-- Whether a branch is started on a facade, in a world where others stay idle
and the counters are known. -/
structure StartsOn (b : Backend γ σ φ κ) (x : Xid) (p : Provider γ (Numbered φ))
    (r : Reply γ (Numbered φ) (Trace σ φ) (Result κ)) (t : Numbered φ) (rest : List (Numbered φ))
    (tally : Tally) (w : Trace σ φ) : Prop where
  failed : ∀ e, (Trace.observe (.start x) (b.start x) t w).answer = .error e →
    Dropped b e (Trace.observe (.start x) (b.start x) t w) rest tally p r
  succeeded : (Trace.observe (.start x) (b.start x) t w).answer = .ok () →
    Seated x (Trace.observe (.start x) (b.start x) t w) rest tally p r

/-- Whether an end of the active branch leaves no branch active and every facade
in its place, whatever the facade of the branch answered. -/
structure Ended (x : Xid) (a : Facade.Reply (Numbered φ) (Trace σ φ) Unit)
    (p : Provider γ (Numbered φ)) (r : Reply γ (Numbered φ) (Trace σ φ) (Result κ)) : Prop where
  answer : r.answer = (a.answer.map fun _ => .done).mapError .resource
  world : r.world = a.world
  isInitialized : r.provider.isInitialized = true
  idle : r.provider.idle = p.idle
  bound : ∀ y, r.provider.boundFacade? y = if y = x then some a.facade else p.boundFacade? y
  active : r.provider.active? = none
  tally : r.provider.tally = if a.answer.isOk then p.tally.addPrepared else p.tally

variable {b : Backend γ σ φ κ} {x : Xid} {p : Provider γ (Numbered φ)}
  {r : Reply γ (Numbered φ) (Trace σ φ) (Result κ)}

/-! ### The facade that is lent -/

/-- A facade that was made has the number that comes next. -/
theorem Made.number_eq {factory : γ} {w w' : Trace σ φ} {t : Numbered φ}
    (h : Made b factory w (.ok t) w') : t.number = w.facades.length := by
  cases h with
  | opened hcreate hopen => exact (congrArg (Numbered.number ∘ Facade.Reply.facade) hopen).symm

theorem made_of_eq {factory : γ} {w w' : Trace σ φ} {answer : Except Facade.Error (Numbered φ)}
    (h : makeFacade b.traced factory w = (answer, w')) : Made b factory w answer w' := by
  have hmade := made_makeFacade b factory w
  rwa [h] at hmade

variable {factory : γ} {s : Pool (Numbered φ)} {tally tally' : Tally} {w w' : Trace σ φ}
  {t : Numbered φ} {rest : List (Numbered φ)}

/-- A facade that is lent is none of those that stay. -/
theorem Lent.apart (h : Lent b.traced factory s tally w t rest tally' w')
    (hholds : w.Holds s.facades) : ∀ u ∈ s.bound.values ++ rest, u.number ≠ t.number := by
  intro u hu
  cases h with
  | idle hidle =>
    have hperm : s.facades.Perm (t :: (s.bound.values ++ rest)) := by
      rw [Pool.facades, hidle]
      exact List.perm_middle
    exact ((hholds.perm hperm).ne_number hu).symm
  | made hidle hmake =>
    have hmem : u ∈ s.facades := by
      rw [Pool.facades, hidle]
      exact hu
    -- A new facade has the next number, and all numbers in the pool are below it.
    rw [(made_of_eq hmake).number_eq]
    exact Nat.ne_of_lt (hholds.number_lt hmem)

/-- What is true of the facade that is lent is true of the head of the queue, or
of a facade that was made just now if the queue is empty. -/
theorem Lent.dispatch {Q : Numbered φ → List (Numbered φ) → Tally → Trace σ φ → Prop} {unmade : Prop}
    (h : Lent b.traced factory s tally w t rest tally' w') (hQ : Q t rest tally' w') :
    (∀ u us, s.idle = u :: us → Q u us tally w) ∧
      (s.idle = [] → unmade ∨ ∃ u w'', Made b factory w (.ok u) w'' ∧ Q u [] tally.addCreated w'') := by
  cases h with
  | idle hidle =>
    refine ⟨fun u us hu => ?_, fun hempty => ?_⟩
    · cases hidle.symm.trans hu
      exact hQ
    · cases hidle.symm.trans hempty
  | made hidle hmake =>
    refine ⟨fun u us hu => ?_, fun _ => .inr ⟨t, w', made_of_eq hmake, hQ⟩⟩
    cases hidle.symm.trans hu

/-! ### The two calls -/

/-- A branch that has no facade, while no other is active, is started on the head
of the queue, or on a new facade if the queue is empty.  If none can be made, the
provider is as it was. -/
theorem Course.engages (h : Course b.traced (.start x) p w r) (hopen : p.isInitialized = true)
    (hactive : p.active? = none) (hfree : p.boundFacade? x = none) (hholds : w.Holds p.facades) :
    (∀ t rest, p.idle = t :: rest → StartsOn b x p r t rest p.tally w) ∧
      (p.idle = [] →
        (∃ e w', Made b p.factory w (.error e) w' ∧ r = ⟨.error (.creation e), p, w'⟩) ∨
        ∃ t w', Made b p.factory w (.ok t) w' ∧ StartsOn b x p r t [] p.tally.addCreated w') := by
  cases h with
  | refused happlies =>
    -- the call meets all conditions, so no violation can be true of it
    rcases happlies.forbids with hclosed | hsome | hsome
    · rw [hopen] at hclosed
      cases hclosed
    · rw [hactive] at hsome
      cases hsome
    · rw [hfree] at hsome
      cases hsome
  | @unmade c factory s tally w e w' hborrows hidle hmake =>
    refine ⟨fun t rest ht => ?_, fun _ => .inl ⟨e, w', made_of_eq hmake, rfl⟩⟩
    cases hidle.symm.trans ht
  | @rejected x factory s tally w t rest tally' w' e hborrows hlent hanswer =>
    -- it is closed right away, and nobody else holds it: no trace of it is left in the pool
    have hgone : ∀ u ∈ s.bound.values ++ rest, u.number ≠ t.number := hlent.apart hholds
    refine hlent.dispatch (Q := StartsOn b x _ _) ⟨fun e' he' => ?_, fun hok => ?_⟩
    · cases hanswer.symm.trans he'
      exact ⟨rfl, rfl, rfl, rfl, rfl, hactive, rfl, hgone⟩
    · cases hanswer.symm.trans hok
  | @started x factory s tally w t rest tally' w' hborrows hlent hanswer =>
    refine hlent.dispatch (Q := StartsOn b x _ _) ⟨fun e he => ?_, fun _ => ?_⟩
    · cases hanswer.symm.trans he
    · exact ⟨rfl, rfl, rfl, fun y => s.bound.get?_insert x y _, rfl, rfl⟩

/-- The active branch is ended by one call on its facade. -/
theorem Course.ends (h : Course b.traced (.endAndPrepare x) p w r) (hactive : p.active? = some x) :
    ∃ t, p.boundFacade? x = some t ∧
      Ended x (Trace.observe (.endAndPrepare x) (b.endAndPrepare x) t w) p r := by
  cases h with
  | refused happlies =>
    rcases happlies.forbids with hclosed | hne
    -- A closed provider has no active branch.
    · obtain ⟨factory, _ | s, tally⟩ := p
      · cases hactive
      · cases hclosed
    · exact absurd hactive hne
  | unmade hborrows => exact hborrows.elim
  | @unprepared x factory s tally w t e hsome hget hanswer =>
    have hobserved :
        (Trace.observe (.endAndPrepare x) (b.endAndPrepare x) t w).answer = .error e := hanswer
    refine ⟨t, hget, ?_, rfl, rfl, rfl, fun y => ?_, rfl, ?_⟩
    · rw [hobserved]
      rfl
    · exact (s.bound.get?_update x y _).trans (by rw [hget]; rfl)
    · rw [hobserved]
      rfl
  | @prepared x factory s tally w t hsome hget hanswer =>
    have hobserved :
        (Trace.observe (.endAndPrepare x) (b.endAndPrepare x) t w).answer = .ok () := hanswer
    refine ⟨t, hget, ?_, rfl, rfl, rfl, fun y => ?_, rfl, ?_⟩
    · rw [hobserved]
      rfl
    · exact (s.bound.get?_update x y _).trans (by rw [hget]; rfl)
    · rw [hobserved]
      rfl

/-- A provider without an active branch does not refuse to start a branch that
has no facade. -/
theorem admits_start {γ σ φ κ : Type} {b : Backend γ σ φ κ} {p : Provider γ φ} (hsound : p.Sound)
    (hopen : p.isInitialized = true) (hactive : p.active? = none) {y : Xid}
    (hfree : p.boundFacade? y = none) (w : σ) : Admits ((Call.start y).run b p w).answer := by
  have hallowed : ¬p.Forbids (.start y) := by
    simp [Forbids, hopen, hactive, hfree]
  obtain ⟨v, happlies, -⟩ | ⟨use, huse, -⟩ | ⟨-, -, hadmits⟩ :=
    (course_run (b := b) (.start y) hsound w).verdict
  · exact absurd happlies.forbids hallowed
  · cases huse
  · exact hadmits

/-- After every run a branch is started on one facade, which is bound to it or is
closed once and dropped; and the active branch is ended by one call on its
facade, after which any branch without a facade may be started. -/
theorem engagement_run (b : Backend γ σ φ κ) (act : ε → σ → σ) (ms : List (Move ε)) (factory : γ)
    (w : σ) :
    let s := run b.traced (Trace.lift act) ms (.fresh factory w)
    let p := s.provider
    s.untraced = run b act ms ⟨.ofFactory factory, w⟩ ∧
      (∀ x, p.isInitialized = true → p.active? = none → p.boundFacade? x = none →
        let r := (Call.start x).run b.traced p s.world
        (∀ t rest, p.idle = t :: rest → StartsOn b x p r t rest p.tally s.world) ∧
        (p.idle = [] →
          (∃ e w', Made b p.factory s.world (.error e) w' ∧ r = ⟨.error (.creation e), p, w'⟩) ∨
          ∃ t w', Made b p.factory s.world (.ok t) w' ∧
            StartsOn b x p r t [] p.tally.addCreated w')) ∧
      ∀ x, p.active? = some x →
        let r := (Call.endAndPrepare x).run b.traced p s.world
        (∃ t, p.boundFacade? x = some t ∧
          Ended x (Trace.observe (.endAndPrepare x) (b.endAndPrepare x) t s.world) p r) ∧
        ∀ y, r.provider.boundFacade? y = none → ∀ w',
          Admits ((Call.start y).run b.traced r.provider w').answer := by
  intro s p
  have hsound : p.Sound := sound_run ms (sound_ofFactory factory)
  have hholds : s.world.Holds p.facades :=
    (State.Agrees.ofBooks (books_run b act ms factory w) hsound).holds
  refine ⟨untraced_run b act ms factory w, fun x hopen hactive hfree => ?_, fun x hactive => ?_⟩
  · exact (course_run (.start x) hsound s.world).engages hopen hactive hfree hholds
  · obtain ⟨t, ht, hends⟩ := (course_run (.endAndPrepare x) hsound s.world).ends hactive
    refine ⟨⟨t, ht, hends⟩, fun y hy w' => ?_⟩
    -- the slot is free by now, whatever the facade answered, so any other start is admitted
    have hsound' : ((Call.endAndPrepare x).run b.traced p s.world).provider.Sound :=
      sound_call (.endAndPrepare x) hsound s.world
    exact admits_start hsound' hends.isInitialized hends.active hy w'

/-- A facade that served one branch fails to start the next: it is closed, and
nothing is left in the pool. -/
theorem engagement_of_failing_facade :
    let b := Recorder.backend
    let x : Xid := ⟨1, [1], [], by decide, by decide⟩
    let y : Xid := ⟨1, [2], [], by decide, by decide⟩
    let failNext : Facade.Call → Recorder → Recorder := fun call r => r.failNext call 1
    let s : State _ _ _ := run b.traced (Trace.lift failNext)
      [.call .openUp, .call (.start y), .call (.endAndPrepare y), .call (.finish (.commit false) y),
        .environment .start] (.fresh default {})
    let r := (Call.start x).run b.traced s.provider s.world
    s.provider.isInitialized = true ∧ s.provider.active? = none ∧
      s.provider.boundFacade? x = none ∧ ∃ t e, s.provider.idle = [t] ∧
        Dropped b e (Trace.observe (.start x) (b.start x) t s.world) [] s.provider.tally
          s.provider r := by
  intro b x y failNext s r
  have hopen : s.provider.isInitialized = true := by decide +kernel
  have hactive : s.provider.active? = none := by decide +kernel
  have hfree : s.provider.boundFacade? x = none :=
    Option.isNone_iff_eq_none.mp (by decide +kernel)
  have hnumbers : s.provider.idle.map Numbered.number = [0] := by decide +kernel
  have hfails : r.answer.isOk = false := by decide +kernel
  obtain ⟨-, hstart, -⟩ := engagement_run b failNext
    [.call .openUp, .call (.start y), .call (.endAndPrepare y), .call (.finish (.commit false) y),
      .environment .start] default {}
  -- it is the facade that finished the other branch, so the start goes to it
  obtain ⟨t, hidle, -⟩ := List.map_eq_singleton_iff.mp hnumbers
  have hstarts : StartsOn b x s.provider r t [] s.provider.tally s.world :=
    (hstart x hopen hactive hfree).1 t [] hidle
  cases hanswer : (Trace.observe (.start x) (b.start x) t s.world).answer with
  | error e => exact ⟨hopen, hactive, hfree, t, e, hidle, hstarts.failed e hanswer⟩
  | ok u =>
    have hisOk : r.answer.isOk = true := congrArg Except.isOk (hstarts.succeeded hanswer).answer
    exact absurd (hfails.symm.trans hisOk) Bool.false_ne_true

end BranchPool.Provider
