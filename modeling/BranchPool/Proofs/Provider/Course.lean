/-
The courses that a call on a provider can take.

* `Provider.Violation.Applies` — when a violation is true of a call;
* `Provider.Lent` — where the facade comes from that a call is given for want of
  one that is bound to its branch;
* `Provider.Course` — what may become of a call, with all that was true before
  and all that it leaves behind;
* `Provider.course_run` — every call takes one of these courses.

Design note: the courses tell calls apart by what the caller is answered, which
the single steps of `Duty` do not know.  A statement about answers is shown by
cases on the course.
-/
import BranchPool.Proofs.Provider.Active
import BranchPool.Proofs.Provider.Finishing

namespace BranchPool

open Facade

variable {γ σ φ κ α : Type}

/-- The name under which a use of the data connection is reported. -/
def Facade.DataUse.name : DataUse → String
  | .ask => "connection"
  | .check => "is_connection_valid"
  | .establish => "get_or_establish_connection"
  | .drop => "close_connection"
  | .reestablish => "reestablish_connection"

namespace Provider

/-- Whether a call is only for an open provider. -/
def Call.needsOpen : Call → Bool
  | .start _ => true
  | .endAndPrepare _ => true
  | .finish _ _ => true
  | .recover => true
  | _ => false

/-- Whether a violation is true of a call on a provider.  The last two tell of a
pool that is out of order, and are true of no call. -/
def Violation.Applies (c : Call) (p : Provider γ φ) : Violation → Prop
  | .notOpen => c.needsOpen = true ∧ p.isInitialized = false
  | .openWhileActive y => c = .openUp ∧ p.active? = some y
  | .startWhileActive x y => c = .start x ∧ p.active? = some y
  | .alreadyBound x => c = .start x ∧ ∃ f, p.boundFacade? x = some f
  | .endOther x y => c = .endAndPrepare x ∧ p.active? = some y ∧ y ≠ x
  | .endNone x => c = .endAndPrepare x ∧ p.active? = none
  | .stillActive action x =>
    ∃ how, c = .finish how x ∧ needsEnded how = true ∧ p.active? = some x ∧
      action = .ofFinish how
  | .activeUnbound _ => False
  | .stated _ => False

/-- Whether a call needs a facade that is bound to no branch. -/
def Call.Borrows (s : Pool φ) : Call → Prop
  | .start x => s.active = none ∧ s.bound.get? x = none
  | .finish how x => ¬(needsEnded how = true ∧ s.active = some x) ∧ s.bound.get? x = none
  | .recover => True
  | _ => False

/-- The counters when a call asks for a facade that is bound to no branch. -/
def Call.noted : Call → Tally → Tally
  | .finish _ _, t => t.addUnmapped
  | _, t => t

/-- Which facade is lent to a call, which ones stay idle, what the counters are
and what the world is by then: the next idle facade, or else a new one. -/
inductive Lent (b : Backend γ σ φ κ) (factory : γ) (s : Pool φ) (t : Tally) (w : σ) :
    φ → List φ → Tally → σ → Prop where
  | idle {f rest} (h : s.idle = f :: rest) : Lent b factory s t w f rest t w
  | made {f w'} (h : s.idle = []) (hmake : makeFacade b factory w = (.ok f, w')) :
    Lent b factory s t w f [] t.addCreated w'

/-- What may become of a call on a provider. -/
inductive Course (b : Backend γ σ φ κ) :
    Call → Provider γ φ → σ → Reply γ φ σ (Result κ) → Prop where
  | refused {c p w v} (h : v.Applies c p) : Course b c p w (refuse v p w)
  /-- There is no active branch whose data connection could be used. -/
  | unready {use p w} (h : p.active? = none) :
    Course b (.useData use) p w ⟨.error (.noActiveBranch use.name), p, w⟩
  | opened {p w} (h : p.active? = none) :
    Course b .openUp p w ⟨.ok .done, { p with pool := some {} }, (closeAll b p.facades w).2⟩
  | closed {p w failures w'} (h : closeAll b p.facades w = (failures, w')) :
    Course b .close p w
      ⟨if failures.isEmpty then .ok .done else .error (.closeFailed p.facades.length failures),
        { p with pool := none }, w'⟩
  /-- No facade was idle, and none could be made. -/
  | unmade {c factory s tally w e w'} (hborrows : c.Borrows s) (hidle : s.idle = [])
      (hmake : makeFacade b factory w = (.error e, w')) :
    Course b c ⟨factory, some s, tally⟩ w
      ⟨.error (.creation e), ⟨factory, some s, c.noted tally⟩, w'⟩
  /-- The facade did not start the branch, and is closed and dropped. -/
  | rejected {x factory s tally w f rest tally' w' e} (hborrows : (Call.start x).Borrows s)
      (hlent : Lent b factory s tally w f rest tally' w')
      (hanswer : (b.start x f w').answer = .error e) :
    Course b (.start x) ⟨factory, some s, tally⟩ w
      ⟨.error (.resource e), ⟨factory, some { s with idle := rest }, tally'.addDiscarded⟩,
        (b.close (b.start x f w').facade (b.start x f w').world).world⟩
  | started {x factory s tally w f rest tally' w'} (hborrows : (Call.start x).Borrows s)
      (hlent : Lent b factory s tally w f rest tally' w')
      (hanswer : (b.start x f w').answer = .ok ()) :
    Course b (.start x) ⟨factory, some s, tally⟩ w
      ⟨.ok .done,
        ⟨factory, some (Pool.bindActive { s with idle := rest } x (b.start x f w').facade),
          tally'.addStarted⟩,
        (b.start x f w').world⟩
  /-- The branch was ended but could not be prepared. -/
  | unprepared {x factory s tally w f e} (hactive : s.active = some x)
      (hget : s.bound.get? x = some f) (hanswer : (b.endAndPrepare x f w).answer = .error e) :
    Course b (.endAndPrepare x) ⟨factory, some s, tally⟩ w
      ⟨.error (.resource e),
        ⟨factory, some { s with
          bound := s.bound.update x (b.endAndPrepare x f w).facade, active := none }, tally⟩,
        (b.endAndPrepare x f w).world⟩
  | prepared {x factory s tally w f} (hactive : s.active = some x)
      (hget : s.bound.get? x = some f) (hanswer : (b.endAndPrepare x f w).answer = .ok ()) :
    Course b (.endAndPrepare x) ⟨factory, some s, tally⟩ w
      ⟨.ok .done,
        ⟨factory, some { s with
          bound := s.bound.update x (b.endAndPrepare x f w).facade, active := none },
          tally.addPrepared⟩,
        (b.endAndPrepare x f w).world⟩
  /-- The facade of the branch finishes it, or fails to, and becomes idle. -/
  | finishedBound {how x factory s tally w f}
      (hended : ¬(needsEnded how = true ∧ s.active = some x))
      (hget : s.bound.get? x = some f) :
    Course b (.finish how x) ⟨factory, some s, tally⟩ w
      ((concludeFinish how x (b.finish how x f w).answer
        ⟨factory, some ((s.without x).offerIdle (b.finish how x f w).facade), tally⟩
        (b.finish how x f w).world).map fun _ => .done)
  /-- A facade that is lent finishes the branch, or fails to, and stays where it
  was. -/
  | finishedLent {how x factory s tally w f rest tally' w'}
      (hborrows : (Call.finish how x).Borrows s)
      (hlent : Lent b factory s tally.addUnmapped w f rest tally' w') :
    Course b (.finish how x) ⟨factory, some s, tally⟩ w
      ((concludeFinish how x (b.finish how x f w').answer
        ⟨factory, some { s with idle := (b.finish how x f w').facade :: rest }, tally'⟩
        (b.finish how x f w').world).map fun _ => .done)
  | unrecovered {factory s tally w f rest tally' w' e}
      (hlent : Lent b factory s tally w f rest tally' w')
      (hanswer : (b.recover f w').answer = .error e) :
    Course b .recover ⟨factory, some s, tally⟩ w
      ⟨.error (.transient .recover none e),
        ⟨factory, some { s with idle := (b.recover f w').facade :: rest }, tally'.addTransient⟩,
        (b.recover f w').world⟩
  | recovered {factory s tally w f rest tally' w' xs}
      (hlent : Lent b factory s tally w f rest tally' w')
      (hanswer : (b.recover f w').answer = .ok xs) :
    Course b .recover ⟨factory, some s, tally⟩ w
      ⟨.ok (.branches xs),
        ⟨factory, some { s with idle := (b.recover f w').facade :: rest }, tally'.addRecovery⟩,
        (b.recover f w').world⟩
  /-- The facade of the active branch does as it is told, or fails to, and stays
  bound. -/
  | used {use x factory s tally w f} {reply : Facade.Reply φ σ (Result κ)}
      (hactive : s.active = some x) (hget : s.bound.get? x = some f)
      (hreply : b.perform (.useData use) f w = reply.map fun _ => ()) :
    Course b (.useData use) ⟨factory, some s, tally⟩ w
      ⟨reply.answer.mapError .resource,
        ⟨factory, some { s with bound := s.bound.update x reply.facade }, tally⟩, reply.world⟩

variable {b : Backend γ σ φ κ}

/-- An idle facade is taken, or a new one, unless there is none and none can be
made. -/
theorem takeIdle_cases (b : Backend γ σ φ κ) (s : Pool φ) (p : Provider γ φ) (w : σ) :
    (∃ f rest tally w', takeIdle b s p w = (.ok (f, rest, tally), w') ∧
        Lent b p.factory s p.tally w f rest tally w') ∨
      ∃ e w', takeIdle b s p w = (.error e, w') ∧ s.idle = [] ∧
        makeFacade b p.factory w = (.error e, w') := by
  rw [takeIdle]
  cases hidle : s.idle with
  | cons f rest => exact .inl ⟨f, rest, p.tally, w, rfl, .idle hidle⟩
  | nil =>
    rcases hmake : makeFacade b p.factory w with ⟨e | f, w'⟩
    · exact .inr ⟨e, w', rfl, rfl, rfl⟩
    · exact .inl ⟨f, [], p.tally.addCreated, w', rfl, .made hidle hmake⟩

/-! ### The calls -/

theorem course_openUp (p : Provider γ φ) (w : σ) :
    Course b .openUp p w ((p.openUp b w).map fun _ => .done) := by
  rw [openUp]
  cases hactive : p.active? with
  | some y => exact .refused (v := .openWhileActive y) ⟨rfl, hactive⟩
  | none => exact .opened hactive

theorem course_close (p : Provider γ φ) (w : σ) :
    Course b .close p w ((p.close b w).map fun _ => .done) := by
  obtain ⟨factory, _ | s, tally⟩ := p
  · have hnone : closeAll b (facades ⟨factory, none, tally⟩) w = ([], w) := rfl
    exact .closed hnone
  · have hcourse : Course b .close ⟨factory, some s, tally⟩ w _ := .closed rfl
    rw [close]
    simp only [Reply.map]
    cases h : (closeAll b s.facades w).1.isEmpty <;>
      simpa [facades, h, Except.map] using hcourse

theorem course_start (x : Xid) (p : Provider γ φ) (w : σ) :
    Course b (.start x) p w ((p.start b x w).map fun _ => .done) := by
  obtain ⟨factory, _ | ⟨idle, bound, _ | y⟩, tally⟩ := p
  · exact .refused (v := .notOpen) ⟨rfl, rfl⟩
  swap
  · exact .refused (v := .startWhileActive x y) ⟨rfl, rfl⟩
  simp only [start]
  cases hget : bound.get? x with
  | some f =>
    have hcontains : bound.contains x = true := by rw [BranchMap.contains, hget]; rfl
    rw [if_pos hcontains]
    exact .refused (v := .alreadyBound x) ⟨rfl, f, hget⟩
  | none =>
    have hcontains : ¬bound.contains x = true := by simp [BranchMap.contains, hget]
    rw [if_neg hcontains]
    have hborrows : (Call.start x).Borrows ⟨idle, bound, none⟩ := ⟨rfl, hget⟩
    obtain ⟨f, rest, tally', w', htake, hlent⟩ | ⟨e, w', htake, hidle, hmake⟩ :=
      takeIdle_cases b ⟨idle, bound, none⟩ ⟨factory, some ⟨idle, bound, none⟩, tally⟩ w
    · simp only [htake, startOn]
      -- from here on the facade is out of the queue, and its answer decides where it goes
      cases hanswer : (b.start x f w').answer with
      | ok u => exact .started hborrows hlent hanswer
      | error e => exact .rejected hborrows hlent hanswer
    · simp only [htake]
      exact .unmade (c := .start x) hborrows hidle hmake

theorem course_endAndPrepare {p : Provider γ φ} (hsound : p.Sound) (x : Xid) (w : σ) :
    Course b (.endAndPrepare x) p w ((p.endAndPrepare b x w).map fun _ => .done) := by
  obtain ⟨factory, _ | s, tally⟩ := p
  · exact .refused (v := .notOpen) ⟨rfl, rfl⟩
  cases hactive : s.active with
  | none =>
    simp only [endAndPrepare, hactive]
    exact .refused (v := .endNone x) ⟨rfl, hactive⟩
  | some y =>
    simp only [endAndPrepare, hactive]
    by_cases hy : y = x
    · subst hy
      -- the active branch has a facade, so the case without one does not occur
      obtain ⟨f, hget⟩ := hsound s rfl y hactive
      simp only [if_true, hget]
      cases hanswer : (b.endAndPrepare y f w).answer with
      | ok u => exact .prepared hactive hget hanswer
      | error e => exact .unprepared hactive hget hanswer
    · rw [if_neg hy]
      exact .refused (v := .endOther x y) ⟨rfl, hactive, hy⟩

theorem course_finish (how : Finish) (x : Xid) (p : Provider γ φ) (w : σ) :
    Course b (.finish how x) p w ((p.finish b how x w).map fun _ => .done) := by
  obtain ⟨factory, _ | s, tally⟩ := p
  · exact .refused (v := .notOpen) ⟨rfl, rfl⟩
  by_cases hended : needsEnded how = true ∧ s.active = some x
  · simp only [finish, if_pos hended]
    exact .refused (v := .stillActive (.ofFinish how) x) ⟨how, rfl, hended.1, hended.2, rfl⟩
  -- a branch that is unknown here is finished through a facade that is lent
  cases hget : s.bound.get? x with
  | some f =>
    rw [finish_bound hended hget]
    exact .finishedBound hended hget
  | none =>
    have hborrows : (Call.finish how x).Borrows s := ⟨hended, hget⟩
    obtain ⟨f, rest, tally', w', htake, hlent⟩ | ⟨e, w', htake, hidle, hmake⟩ :=
      takeIdle_cases b s ⟨factory, some s, tally.addUnmapped⟩ w
    · rw [finish_lent hended hget htake]
      exact .finishedLent hborrows hlent
    · rw [finish_unmade hended hget htake]
      exact .unmade (c := .finish how x) hborrows hidle hmake

theorem course_recover (p : Provider γ φ) (w : σ) :
    Course b .recover p w ((p.recover b w).map .branches) := by
  obtain ⟨factory, _ | s, tally⟩ := p
  · exact .refused (v := .notOpen) ⟨rfl, rfl⟩
  simp only [recover, peekIdle_andThen]
  obtain ⟨f, rest, tally', w', htake, hlent⟩ | ⟨e, w', htake, hidle, hmake⟩ :=
    takeIdle_cases b s ⟨factory, some s, tally⟩ w
  · simp only [htake]
    cases hanswer : (b.recover f w').answer with
    | ok xs => exact .recovered hlent hanswer
    | error e => exact .unrecovered hlent hanswer
  · simp only [htake]
    exact .unmade (c := .recover) trivial hidle hmake

theorem course_withActive {p : Provider γ φ} (hsound : p.Sound) (use : DataUse)
    {call : φ → σ → Facade.Reply φ σ α} (result : α → Result κ)
    (hcall : ∀ f w, b.perform (.useData use) f w = (call f w).map fun _ => ()) (w : σ) :
    Course b (.useData use) p w ((withActive use.name call p w).map result) := by
  obtain ⟨factory, _ | s, tally⟩ := p
  · exact .unready rfl
  cases hactive : s.active with
  | none =>
    have hnone : s.activeFacade? = none := by simp [Pool.activeFacade?, hactive]
    simp only [withActive, hnone]
    exact .unready hactive
  | some x =>
    obtain ⟨f, hget⟩ := hsound s rfl x hactive
    have hsome : s.activeFacade? = some (x, f) := by simp [Pool.activeFacade?, hactive, hget]
    have hreply : b.perform (.useData use) f w =
        ((call f w).map result).map fun _ => () := by
      rw [hcall]
      simp only [Facade.Reply.map]
      cases (call f w).answer <;> rfl
    -- the course is stated for the answer as the caller sees it, so both are compared by cases
    have hcourse : Course b (.useData use) ⟨factory, some s, tally⟩ w _ :=
      .used hactive hget hreply
    simp only [withActive, hsome, Reply.map, Facade.Reply.map] at hcourse ⊢
    cases h : (call f w).answer <;> simpa [h, Except.map, Except.mapError] using hcourse

theorem course_useData {p : Provider γ φ} (hsound : p.Sound) (use : DataUse) (w : σ) :
    Course b (.useData use) p w (Call.run b (.useData use) p w) := by
  cases use with
  | ask => exact course_withActive hsound .ask .link (fun _ _ => rfl) w
  | check => exact course_withActive hsound .check .valid (fun _ _ => rfl) w
  | establish => exact course_withActive hsound .establish (.link ∘ some) (fun _ _ => rfl) w
  | drop => exact course_withActive hsound .drop (fun _ => .done) (fun _ _ => rfl) w
  | reestablish => exact course_withActive hsound .reestablish (.link ∘ some) (fun _ _ => rfl) w

/-- Every call takes one of the courses, if the active branch has a facade. -/
theorem course_run (c : Call) {p : Provider γ φ} (hsound : p.Sound) (w : σ) :
    Course b c p w (c.run b p w) := by
  cases c with
  | openUp => exact course_openUp p w
  | close => exact course_close p w
  | start x => exact course_start x p w
  | endAndPrepare x => exact course_endAndPrepare hsound x w
  | finish how x => exact course_finish how x p w
  | recover => exact course_recover p w
  | useData use => exact course_useData hsound use w

end Provider

end BranchPool
