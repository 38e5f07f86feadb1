/-
A pool of recorded facades, whichever of their calls are made to fail.

A recorder fails calls on request: calls of any kind, any number of them, and a
request may come between any two calls on the provider.

* `Recorder.Request` — what may be asked of a recorder meanwhile;
* `Facade.Operation.MayReport` — the failures that a well used facade reports;
* `RecordedFacade.Stands` — what a facade is at each stage: an idle one is open
  and free, and one whose branch is ended is bound to it if that failed;
* `Provider.idle_safety_run` — so it is with every facade of a pool after every
  run, and nothing else is ever reported.

Design note: a facade that finishes its branch lets go of it before the call can
fail, so a failure that was asked for never leaves an idle facade bound.
-/
import BranchPool.Proofs.Register.Recorder

namespace BranchPool

open Facade

/-! ### Requests and failures -/

/-- What a test may ask of a recorder between two calls. -/
inductive Recorder.Request where
  | failNext (call : Facade.Call) (times : Nat)
  | clearFaults
  | clearCalls
  | seedPrepared (x : Xid)

/-- The recorder after a request. -/
def Recorder.heed : Request → Recorder → Recorder
  | .failNext call times, r => r.failNext call times
  | .clearFaults, r => r.clearFaults
  | .clearCalls, r => r.clearCalls
  | .seedPrepared x, r => r.seedPrepared x

/-- The kind under which a call is recorded.  The use of a data connection is
not recorded. -/
def Facade.Operation.kind? : Operation → Option Facade.Call
  | .openUp => some .openUp
  | .close => some .close
  | .start _ => some .start
  | .endAndPrepare _ => some .endAndPrepare
  | .finish (.commit _) _ => some .commit
  | .finish .rollback _ => some .rollback
  | .finish .failAndRollback _ => some .failAndRollback
  | .recover => some .recover
  | .useData _ => none

/-- The failures that a recorded facade reports of a call that comes in
order. -/
inductive Facade.Operation.MayReport : Operation → Facade.Error → Prop where
  /-- A failure of calls of this kind was asked for. -/
  | injected {op call} (h : op.kind? = some call) : MayReport op (.rejected (.injected call))
  /-- Nobody knows the branch, which the caller did not choose to ignore. -/
  | unknown {how x} (h : how = .commit false ∨ how = .rollback) :
    MayReport (.finish how x) (.unknownBranch x)
  /-- The branch was to be committed though it could not be prepared. -/
  | neverEnded {ignoreUnknown x} :
    MayReport (.finish (.commit ignoreUnknown) x) (.rejected (.neverEnded x))

theorem Facade.Operation.MayReport.not_isMisuse {op : Operation} {e : Facade.Error}
    (h : op.MayReport e) : ¬e.IsMisuse := by
  cases h <;> exact id

namespace RecordedFacade

variable {α : Type} {f f' : RecordedFacade} {r : Recorder} {x : Xid} {q : Stage} {op : Operation}
  {call : Facade.Call} {bound : Xid → Prop} {ok : Bool}

/-! ### One call -/

/-- A recorded call fails because a failure was asked for, and then nothing has
happened to its facade, or it does its work. -/
theorem recorded_induction {P : Reply α → Prop} (call : Facade.Call) (branch : Option Xid)
    (body : RecordedFacade → Recorder → Reply α) (f : RecordedFacade) (r : Recorder)
    (hfail : ∀ r', P ⟨.error (.rejected (.injected call)), f, r'⟩) (hbody : ∀ r', P (body f r')) :
    P (recorded call branch body f r) := by
  rw [recorded, Recorder.record]
  by_cases h : r.faults call = 0
  · simp only [h, if_true]
    exact hbody _
  · simp only [h, if_false]
    exact hfail _

/-- Whether a call succeeded and made one facade into another, or failed because
that was asked for, and left it as it was. -/
def Attempted (call : Facade.Call) (f f' : RecordedFacade) (reply : Reply α) : Prop :=
  (∃ a, reply.answer = .ok a ∧ reply.facade = f') ∨
    (reply.answer = .error (.rejected (.injected call)) ∧ reply.facade = f)

theorem attempted_recorded {branch : Option Xid} {body : RecordedFacade → Recorder → Reply α}
    (hbody : ∀ r', ∃ a r'', body f r' = ⟨.ok a, f', r''⟩) (r : Recorder) :
    Attempted call f f' (recorded call branch body f r) := by
  refine recorded_induction call branch body f r (fun r' => .inr ⟨rfl, rfl⟩) fun r' => ?_
  obtain ⟨a, r'', h⟩ := hbody r'
  rw [h]
  exact .inl ⟨a, rfl, rfl⟩

theorem attempted_openUp (f : RecordedFacade) (r : Recorder) :
    Attempted .openUp f { f with isOpen := true } (f.openUp r) := by
  refine attempted_recorded (fun r' => ?_) r
  exact ⟨(), r', rfl⟩

theorem attempted_close (f : RecordedFacade) (r : Recorder) :
    Attempted .close f { f with isOpen := false, bound := none, link := none } (f.close r) := by
  refine attempted_recorded (fun r' => ?_) r
  exact ⟨(), r', rfl⟩

theorem attempted_start (hopen : f.isOpen = true) (hfree : f.bound = none) (x : Xid)
    (r : Recorder) : Attempted .start f { f with bound := some x } (f.start x r) := by
  refine attempted_recorded (fun r' => ⟨(), r', ?_⟩) r
  simp only [whenOpen_eq hopen, hfree]

theorem attempted_endAndPrepare (hopen : f.isOpen = true) (hbound : f.bound = some x)
    (r : Recorder) : Attempted .endAndPrepare f { f with bound := none } (f.endAndPrepare x r) := by
  refine attempted_recorded (fun r' => ⟨(), r'.seedPrepared x, ?_⟩) r
  simp only [whenOpen_eq hopen, hbound, if_true]

theorem attempted_recover (hopen : f.isOpen = true) (r : Recorder) :
    Attempted .recover f f (f.recover r) :=
  attempted_recorded (fun r' => ⟨r'.prepared, r', whenOpen_eq hopen _⟩) r

theorem Attempted.mayReport {reply : Reply α} (h : Attempted call f f' reply)
    (hop : op.kind? = some call) {e : Facade.Error} (he : reply.answer = .error e) :
    op.MayReport e := by
  obtain ⟨a, hok, -⟩ | ⟨hfail, -⟩ := h
  · rw [hok] at he
    cases he
  · rw [hfail] at he
    cases he
    exact .injected hop

theorem release_of_bound (h : f.bound = some x) : f.release x = { f with bound := none } :=
  if_pos h

theorem release_of_free (h : f.bound = none) (x : Xid) : f.release x = f :=
  if_neg (by simp [h])

theorem isOpen_release (f : RecordedFacade) (x : Xid) : (f.release x).isOpen = f.isOpen := by
  rw [release]
  split <;> rfl

/-- An open facade that is to finish a branch lets go of it, whatever it answers.
It fails because that was asked for, or because the branch is unknown or was never
ended. -/
theorem finish_induction {P : Reply Unit → Prop} (hopen : f.isOpen = true) (how : Finish) (x : Xid)
    (r : Recorder) (hok : ∀ r', P ⟨.ok (), f.release x, r'⟩)
    (hfail : ∀ e r', (Operation.finish how x).MayReport e → P ⟨.error e, f.release x, r'⟩) :
    P (f.finish how x r) := by
  -- the binding is given up before the call is recorded, and so before a fault can strike
  have hopen' : (f.release x).isOpen = true := (f.isOpen_release x).trans hopen
  cases how with
  | commit ignoreUnknown =>
    refine recorded_induction .commit _ _ _ r (fun r' => hfail _ r' (.injected rfl)) fun r' => ?_
    rw [whenOpen_eq hopen']
    split
    · exact hfail _ r' .neverEnded
    · split
      · exact hok _
      · cases ignoreUnknown with
        | true => exact hok r'
        | false => exact hfail _ r' (.unknown (.inl rfl))
  | rollback =>
    refine recorded_induction .rollback _ _ _ r (fun r' => hfail _ r' (.injected rfl)) fun r' => ?_
    rw [whenOpen_eq hopen']
    split
    · exact hok r'
    · split
      · exact hok _
      · exact hfail _ r' (.unknown (.inr rfl))
  | failAndRollback =>
    refine recorded_induction .failAndRollback _ _ _ r (fun r' => hfail _ r' (.injected rfl))
      fun r' => ?_
    rw [whenOpen_eq hopen']
    exact hok _

theorem facade_finish (hopen : f.isOpen = true) (how : Finish) (x : Xid) (r : Recorder) :
    (f.finish how x r).facade = f.release x :=
  finish_induction (P := fun reply => reply.facade = f.release x) hopen how x r (fun _ => rfl)
    fun _ _ _ => rfl

theorem mayReport_finish (hopen : f.isOpen = true) (how : Finish) (x : Xid) (r : Recorder) :
    ∀ e, (f.finish how x r).answer = .error e → (Operation.finish how x).MayReport e := by
  refine finish_induction
    (P := fun reply => ∀ e, reply.answer = .error e → (Operation.finish how x).MayReport e)
    hopen how x r (fun r' => nofun) fun e r' he => ?_
  rintro _ ⟨⟩
  exact he

/-- The data connection of an open facade can always be used. -/
theorem answer_useData (hopen : f.isOpen = true) (use : DataUse) (r : Recorder) :
    (Recorder.backend.perform (.useData use) f r).answer = .ok () := by
  obtain ⟨-, -, -, hseen⟩ := seen_useData (r := r) hopen use
  exact (congrArg Facade.Reply.answer hseen).trans (by cases use <;> rfl)

/-! ### Facades by stage -/

/-- What a recorded facade is at a stage, if `ok` tells whether its latest call
succeeded. -/
def Stands : Stage → Bool → RecordedFacade → Prop
  | .made, _, f => f.bound = none
  | .idle, _, f => f.isOpen = true ∧ f.bound = none
  | .active x, _, f => f.isOpen = true ∧ f.bound = some x
  | .ended x, ok, f => f.isOpen = true ∧ f.bound = if ok then none else some x
  | .rejected, _, f => f.isOpen = true ∧ f.bound = none
  | _, _, _ => True

/-- A facade that is to finish its branch is free afterwards. -/
theorem stands_finish (hopen : f.isOpen = true) (hbound : f.bound = none ∨ f.bound = some x)
    (how : Finish) (r : Recorder) (ok : Bool) : (f.finish how x r).facade.Stands .idle ok := by
  rw [facade_finish hopen]
  obtain hfree | hbusy := hbound
  · rw [release_of_free hfree]
    exact ⟨hopen, hfree⟩
  · rw [release_of_bound hbusy]
    exact ⟨hopen, rfl⟩

/-- A call that a facade may receive at its stage leaves it as it should be at
the next one, and reports nothing but what such a call may report. -/
theorem stands_perform (hpermits : q.Permits bound op) (h : f.Stands q ok) (r : Recorder) :
    let reply := Recorder.backend.perform op f r
    (∀ e, reply.answer = .error e → op.MayReport e) ∧
      reply.facade.Stands (q.after op reply.answer.isOk) reply.answer.isOk := by
  have hclose := attempted_close f r
  cases q with
  | made =>
    cases op with
    | openUp =>
      have hopenUp := attempted_openUp f r
      refine ⟨fun e he => hopenUp.mayReport rfl he, ?_⟩
      obtain ⟨a, hok, hfacade⟩ | ⟨hfail, -⟩ := hopenUp
      · simp only [Backend.perform, Recorder.backend, hok, hfacade]
        exact ⟨rfl, h⟩
      · simp only [Backend.perform, Recorder.backend, hfail]
        trivial
    | _ => exact hpermits.elim
  | idle =>
    cases op with
    | close => exact ⟨fun e he => hclose.mayReport rfl he, trivial⟩
    | start x =>
      have hstart := attempted_start h.1 h.2 x r
      refine ⟨fun e he => hstart.mayReport rfl he, ?_⟩
      obtain ⟨a, hok, hfacade⟩ | ⟨hfail, hfacade⟩ := hstart
      · simp only [Backend.perform, Recorder.backend, hok, hfacade]
        exact ⟨h.1, rfl⟩
      · simp only [Backend.perform, Recorder.backend, hfail, hfacade]
        exact h
    | finish how x => exact ⟨mayReport_finish h.1 how x r, stands_finish h.1 (.inl h.2) how r _⟩
    | recover =>
      have hrecover := attempted_recover h.1 r
      obtain ⟨a, hok, hfacade⟩ | ⟨hfail, hfacade⟩ := hrecover
      · simp only [Backend.perform, Recorder.backend, Facade.Reply.map, hok, hfacade]
        refine ⟨fun e he => ?_, h⟩
        cases he
      · simp only [Backend.perform, Recorder.backend, Facade.Reply.map, hfail, hfacade]
        refine ⟨?_, h⟩
        rintro _ ⟨⟩
        exact .injected rfl
    | _ => exact hpermits.elim
  | active x =>
    cases op with
    | close => exact ⟨fun e he => hclose.mayReport rfl he, trivial⟩
    | endAndPrepare y =>
      obtain rfl : y = x := hpermits
      have hend := attempted_endAndPrepare h.1 h.2 r
      refine ⟨fun e he => hend.mayReport rfl he, ?_⟩
      obtain ⟨a, hok, hfacade⟩ | ⟨hfail, hfacade⟩ := hend
      · simp only [Backend.perform, Recorder.backend, hok, hfacade]
        exact ⟨h.1, rfl⟩
      · -- the facade was not asked to let go of the branch
        simp only [Backend.perform, Recorder.backend, hfail, hfacade]
        exact h
    | finish how y =>
      obtain ⟨rfl, -⟩ := hpermits
      exact ⟨mayReport_finish h.1 how y r, stands_finish h.1 (.inr h.2) how r _⟩
    | useData use =>
      obtain ⟨-, hopen, hbound, -⟩ := seen_useData (r := r) h.1 use
      refine ⟨fun e he => ?_, hopen, hbound.trans h.2⟩
      rw [answer_useData h.1 use r] at he
      cases he
    | _ => exact hpermits.elim
  | ended x =>
    cases op with
    | close => exact ⟨fun e he => hclose.mayReport rfl he, trivial⟩
    | finish how y =>
      obtain rfl : y = x := hpermits
      have hbound : f.bound = none ∨ f.bound = some y := by
        cases ok with
        | true => exact .inl h.2
        | false => exact .inr h.2
      exact ⟨mayReport_finish h.1 how y r, stands_finish h.1 hbound how r _⟩
    | _ => exact hpermits.elim
  | rejected =>
    cases op with
    | close => exact ⟨fun e he => hclose.mayReport rfl he, trivial⟩
    | _ => exact hpermits.elim
  | _ => exact hpermits.elim

/-- What a pool may rely on if its facades are recorded, whichever calls are
made to fail. -/
theorem contract : Recorder.backend.Contract (fun _ q ok f => f.Stands q ok)
    (fun op answer => ∀ e, answer = .error e → op.MayReport e) where
  made {name r f r' ok} h := by
    simp only [Recorder.backend] at h
    split at h
    · cases h
    · cases h
      exact rfl
  create _ {_ _ _ _} h := h
  call hpermits h := stands_perform hpermits h _
  others _ _ h' _ := h'

end RecordedFacade

/-! ### Runs -/

/-- The latest call on a facade whose branch is ended failed if and only if that
was the call that ended the branch, and it failed. -/
theorem History.lastFailed_iff {h : History} (horderly : h.Orderly) {i : Nat} {x : Xid}
    (hstage : h.stage i = .ended x) :
    h.LastFailed i (.endAndPrepare x) ↔ h.lastOk i = false := by
  obtain ⟨answer, hlast⟩ := last?_of_ended horderly hstage
  rw [LastFailed, lastOk, hlast]
  cases answer with
  | error e => exact ⟨fun _ => rfl, fun _ => ⟨e, rfl⟩⟩
  | ok u =>
    constructor
    · rintro ⟨e, he⟩
      cases he
    · intro hok
      cases hok

namespace Provider

section Kept

variable {s : State RecorderName (Numbered RecordedFacade) (Trace Recorder RecordedFacade)}
  (hkept : Backend.Contract.Kept (fun _ q ok f => f.Stands q ok)
    (fun op answer => ∀ e, answer = .error e → op.MayReport e) (s.provider.muster s.world))

include hkept

theorem stands_idle {t : Numbered RecordedFacade} (ht : t ∈ s.provider.idle) :
    t.value.isOpen = true ∧ t.value.bound = none :=
  hkept.fits _ (mem_roster_of_idle ht)

/-- The facade that a pool has for a branch is open.  It is bound to the branch if
the branch is active or could not be ended, and else it is free. -/
theorem stands_bound {x : Xid} {t : Numbered RecordedFacade}
    (ht : s.provider.boundFacade? x = some t) :
    t.value.isOpen = true ∧
      (s.provider.active? = some x ∨ s.world.events.LastFailed t.number (.endAndPrepare x) →
        t.value.bound = some x) ∧
      (¬(s.provider.active? = some x ∨ s.world.events.LastFailed t.number (.endAndPrepare x)) →
        t.value.bound = none) := by
  have hmem := mem_roster_of_bound ht
  have hstands := hkept.fits _ hmem
  have hstage := hkept.books.stage _ hmem
  by_cases hactive : s.provider.active? = some x
  · rw [if_pos hactive] at hstands
    exact ⟨hstands.1, fun _ => hstands.2, fun hnot => absurd (.inl hactive) hnot⟩
  · -- the latest call ended the branch, so its answer decides
    rw [if_neg hactive] at hstands hstage
    obtain ⟨hopen, hbound⟩ := hstands
    have hlast := History.lastFailed_iff hkept.books.orderly hstage
    refine ⟨hopen, fun hfailed => ?_, fun hnot => ?_⟩
    · rwa [hlast.mp (hfailed.resolve_left hactive)] at hbound
    · rwa [Bool.eq_true_of_not_eq_false fun hok => hnot (.inr (hlast.mpr hok))] at hbound

theorem stands_pooled {t : Numbered RecordedFacade} (ht : t ∈ s.provider.facades) :
    t.value.isOpen = true := by
  obtain ⟨x, hx⟩ | hidle := s.provider.mem_facades_iff.mp ht
  · exact (stands_bound hkept hx).1
  · exact (stands_idle hkept hidle).1

end Kept

/-- After every run of a provider that is the only user of a recorder, whichever
calls were made to fail and whenever: every facade of the pool is open; an idle
one is bound to no branch; and one that the pool has for a branch is bound to it
if the branch is active or could not be ended, and else to none.  So whatever a
facade reported of a call was a failure that was asked for, a branch that nobody
knows, or a commit of a branch that was never ended; none complained of being
used in the wrong way. -/
theorem idle_safety_run (ms : List (Move Recorder.Request)) (name : RecorderName)
    (recorder : Recorder) :
    let b := Recorder.backend
    let s := run b.traced (Trace.lift Recorder.heed) ms (.fresh name recorder)
    let p := s.provider
    let h := s.world.events
    s.untraced = run b Recorder.heed ms ⟨.ofFactory name, recorder⟩ ∧
      (∀ t ∈ p.facades, t.value.isOpen = true) ∧
      (∀ t ∈ p.idle, t.value.bound = none) ∧
      (∀ x t, p.boundFacade? x = some t →
        (p.active? = some x ∨ h.LastFailed t.number (.endAndPrepare x) →
          t.value.bound = some x) ∧
        (¬(p.active? = some x ∨ h.LastFailed t.number (.endAndPrepare x)) →
          t.value.bound = none)) ∧
      ∀ e ∈ h, ∀ error, e.answer = .error error →
        e.operation.MayReport error ∧ ¬error.IsMisuse := by
  intro b s p h
  -- a request changes nothing that a facade depends on between two calls
  have hkept := contract_run RecordedFacade.contract Recorder.heed (fun _ {_ _ _ _} h => h) ms name
    recorder
  refine ⟨untraced_run b Recorder.heed ms name recorder, fun t ht => stands_pooled hkept ht,
    fun t ht => (stands_idle hkept ht).2, fun x t ht => (stands_bound hkept ht).2,
    fun e he error herror => ?_⟩
  have hreport : e.operation.MayReport error := hkept.allowed e he error herror
  exact ⟨hreport, hreport.not_isMisuse⟩

end Provider

end BranchPool
