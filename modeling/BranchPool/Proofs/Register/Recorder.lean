/-
Recorded facades follow the register while no failure is owed.

* `Recorder.Faultless` — whether no call is to fail;
* `RecordedFacade.perform_of_permits` — what a call does that a facade may receive at its stage;
* `Recorder.follows` — so a pool of recorded facades shows what a pool over the register shows;
* `Provider.agreement_run` — and what a pool of sessions shows.
-/
import BranchPool.Proofs.Register.Mirror
import BranchPool.Proofs.Register.Session
import BranchPool.Recorder

namespace BranchPool

open Facade

namespace Recorder

variable {r : Recorder} {x : Xid}

/-- Whether no call is to fail. -/
def Faultless (r : Recorder) : Prop := ∀ call, r.faults call = 0

/-- The recorder with one more call in the log. -/
def noted (r : Recorder) (facade : Nat) (call : Facade.Call) (branch : Option Xid) : Recorder :=
  { r with log := r.log ++ [⟨facade, call, branch⟩] }

theorem record_eq (h : r.Faultless) (facade : Nat) (call : Facade.Call) (branch : Option Xid) :
    r.record facade call branch = (.ok (), r.noted facade call branch) :=
  if_pos (h call)

theorem contains_eq_true_iff (r : Recorder) (x : Xid) :
    r.registry.contains x = true ↔ x ∈ r.prepared :=
  r.registry.mem_sortedKeys.symm

theorem prepared_seedPrepared (r : Recorder) (x : Xid) :
    (r.seedPrepared x).prepared = Register.enter x r.prepared := by
  refine Xid.eq_of_ascending (BranchMap.pairwise_sortedKeys _)
    (Register.pairwise_enter r.registry.pairwise_sortedKeys x) fun y => ?_
  rw [prepared, BranchMap.mem_sortedKeys, Register.mem_enter, ← contains_eq_true_iff]
  simp only [seedPrepared, BranchMap.contains, BranchMap.get?_insert]
  by_cases hy : y = x <;> simp [hy]

theorem prepared_erase (r : Recorder) (x : Xid) :
    ({ r with registry := r.registry.erase x } : Recorder).prepared =
      Register.strike x r.prepared := by
  refine Xid.eq_of_ascending (BranchMap.pairwise_sortedKeys _)
    (Register.pairwise_strike r.registry.pairwise_sortedKeys x) fun y => ?_
  rw [prepared, BranchMap.mem_sortedKeys, Register.mem_strike, ← contains_eq_true_iff]
  simp only [BranchMap.contains, BranchMap.get?_erase]
  by_cases hy : y = x <;> simp [hy]

end Recorder

namespace RecordedFacade

variable {α : Type} {f : RecordedFacade} {r : Recorder} {x : Xid} {q : Stage} {op : Operation}
  {bound : Xid → Prop}

/-- What a recorded facade is at a stage. -/
def Fits : Stage → RecordedFacade → Prop
  | .made, f => f.bound = none
  | .idle, f => f.isOpen = true ∧ f.bound = none
  | .active x, f => f.isOpen = true ∧ f.bound = some x
  | .ended _, f => f.isOpen = true ∧ f.bound = none
  | .rejected, f => f.isOpen = true ∧ f.bound = none
  | _, _ => True

/-- Whether there is a data connection is all that is seen of a recorded facade. -/
def linked (f : RecordedFacade) : Bool := f.link.isSome

/-- What a recorded facade makes of a call, as it is seen. -/
def seen (reply : Reply α) : Facade.Reply Bool Register α := reply.image linked Recorder.prepared

theorem recorded_eq (h : r.Faultless) (call : Facade.Call) (branch : Option Xid)
    (body : RecordedFacade → Recorder → Reply α) (f : RecordedFacade) :
    recorded call branch body f r = body f (r.noted f.id call branch) := by
  rw [recorded, Recorder.record_eq h]

theorem whenOpen_eq (hopen : f.isOpen = true) (body : RecordedFacade → Recorder → Reply α) :
    whenOpen body f r = body f r :=
  if_pos hopen

theorem start_free (h : r.Faultless) (hopen : f.isOpen = true) (hfree : f.bound = none) :
    f.start x r = ⟨.ok (), { f with bound := some x }, r.noted f.id .start (some x)⟩ := by
  simp only [start, recorded_eq h, whenOpen_eq hopen, hfree]

theorem endAndPrepare_bound (h : r.Faultless) (hopen : f.isOpen = true)
    (hbound : f.bound = some x) :
    f.endAndPrepare x r = ⟨.ok (), { f with bound := none },
      (r.noted f.id .endAndPrepare (some x)).seedPrepared x⟩ := by
  simp only [endAndPrepare, recorded_eq h, whenOpen_eq hopen, hbound, if_true]

theorem finish_free (h : r.Faultless) (hopen : f.isOpen = true) (hfree : f.bound = none)
    (how : Finish) (x : Xid) :
    ∃ r', f.finish how x r = ⟨Register.settle how x r.prepared, f, r'⟩ ∧ r'.Faultless ∧
      r'.prepared = Register.strike x r.prepared := by
  have hrelease : f.release x = f := if_neg (by simp [hfree])
  have hother : ¬f.bound = some x := by simp [hfree]
  -- the branch is in the registry, or there is nothing to take out of it
  have hcontains : ∀ call, (r.noted f.id call (some x)).registry.contains x = true ↔
      x ∈ r.prepared := fun _ => r.contains_eq_true_iff x
  cases how with
  | commit ignoreUnknown =>
    simp only [finish, commit, hrelease, recorded_eq h, whenOpen_eq hopen, if_neg hother, hcontains]
    by_cases hx : x ∈ r.prepared
    · rw [if_pos hx, Register.settle_of_mem hx]
      exact ⟨_, rfl, h, Recorder.prepared_erase _ x⟩
    · refine ⟨r.noted f.id .commit (some x), ?_, h, (Register.strike_of_not_mem hx).symm⟩
      cases ignoreUnknown <;> simp [hx, Register.settle]
  | rollback =>
    simp only [finish, rollback, hrelease, recorded_eq h, whenOpen_eq hopen, if_neg hother,
      hcontains]
    by_cases hx : x ∈ r.prepared
    · rw [if_pos hx, Register.settle_of_mem hx]
      exact ⟨_, rfl, h, Recorder.prepared_erase _ x⟩
    · refine ⟨r.noted f.id .rollback (some x), ?_, h, (Register.strike_of_not_mem hx).symm⟩
      simp [hx, Register.settle]
  | failAndRollback =>
    simp only [finish, failAndRollback, hrelease, recorded_eq h, whenOpen_eq hopen]
    rw [Register.settle_failAndRollback]
    exact ⟨_, rfl, h, Recorder.prepared_erase _ x⟩

/-- A facade may be bound to a branch that it gives up. -/
theorem failAndRollback_bound (h : r.Faultless) (hopen : f.isOpen = true)
    (hbound : f.bound = some x) :
    ∃ r', f.failAndRollback x r = ⟨.ok (), { f with bound := none }, r'⟩ ∧ r'.Faultless ∧
      r'.prepared = Register.strike x r.prepared := by
  have hrelease : f.release x = { f with bound := none } := if_pos hbound
  have hopen' : ({ f with bound := none } : RecordedFacade).isOpen = true := hopen
  simp only [failAndRollback, hrelease, recorded_eq h, whenOpen_eq hopen']
  exact ⟨_, rfl, h, Recorder.prepared_erase _ x⟩

theorem seen_useData (hopen : f.isOpen = true) (use : DataUse) :
    let reply := Recorder.backend.perform (.useData use) f r
    reply.world = r ∧ reply.facade.isOpen = true ∧ reply.facade.bound = f.bound ∧
      seen reply = Register.backend.perform (.useData use) f.linked r.prepared := by
  cases use with
  | establish =>
    simp only [Backend.perform, Recorder.backend, establish_eq, reestablish, whenOpen_eq hopen]
    cases hlink : f.link with
    | none => exact ⟨rfl, hopen, rfl, rfl⟩
    -- a link that is there is given back as it is; its number is not part of what is seen
    | some link =>
      refine ⟨rfl, hopen, rfl, ?_⟩
      simp only [seen, Facade.Reply.image, Facade.Reply.map, linked, hlink]
      rfl
  | reestablish =>
    simp only [Backend.perform, Recorder.backend, reestablish, whenOpen_eq hopen]
    exact ⟨rfl, hopen, rfl, rfl⟩
  | _ => exact ⟨rfl, hopen, rfl, rfl⟩

/-- A call that a facade may receive leaves it as it should be at its next stage, and is
answered as by the register. -/
theorem perform_of_permits (hpermits : q.Permits bound op) (h : r.Faultless) (hfits : f.Fits q) :
    let reply := Recorder.backend.perform op f r
    reply.world.Faultless ∧ reply.facade.Fits (q.after op reply.answer.isOk) ∧
      seen reply = Register.backend.perform op f.linked r.prepared := by
  have hclose : f.close r = ⟨.ok (), { f with isOpen := false, bound := none, link := none },
      r.noted f.id .close none⟩ := recorded_eq h _ _ _ f
  -- one case for each call the stage permits; every other call is ruled out by `hpermits`
  cases q with
  | made =>
    cases op with
    | openUp =>
      have hopenUp : f.openUp r = ⟨.ok (), { f with isOpen := true }, r.noted f.id .openUp none⟩ :=
        recorded_eq h _ _ _ f
      simp only [Backend.perform, Recorder.backend, hopenUp]
      exact ⟨h, ⟨rfl, hfits⟩, rfl⟩
    | _ => exact hpermits.elim
  | idle =>
    cases op with
    | close =>
      simp only [Backend.perform, Recorder.backend, hclose]
      exact ⟨h, trivial, rfl⟩
    | recover =>
      simp only [Backend.perform, Recorder.backend, recover, recorded_eq h, whenOpen_eq hfits.1]
      exact ⟨h, hfits, rfl⟩
    | start x =>
      simp only [Backend.perform, Recorder.backend, start_free h hfits.1 hfits.2]
      exact ⟨h, ⟨hfits.1, rfl⟩, rfl⟩
    | finish how x =>
      obtain ⟨r', hfinish, hfaults, hprepared⟩ := finish_free h hfits.1 hfits.2 how x
      simp only [Backend.perform, Recorder.backend, hfinish, seen, Facade.Reply.image, hprepared]
      exact ⟨hfaults, hfits, rfl⟩
    | _ => exact hpermits.elim
  | active x =>
    cases op with
    | close =>
      simp only [Backend.perform, Recorder.backend, hclose]
      exact ⟨h, trivial, rfl⟩
    -- the five uses of the connection are shared: none of them touches binding or world
    | useData use =>
      obtain ⟨hworld, hopen, hbound, hseen⟩ := seen_useData (r := r) hfits.1 use
      refine ⟨?_, ⟨hopen, hbound.trans hfits.2⟩, hseen⟩
      rw [hworld]
      exact h
    | endAndPrepare y =>
      obtain rfl : y = x := hpermits
      simp only [Backend.perform, Recorder.backend, endAndPrepare_bound h hfits.1 hfits.2, seen,
        Facade.Reply.image, Recorder.prepared_seedPrepared]
      exact ⟨h, ⟨hfits.1, rfl⟩, rfl⟩
    | finish how y =>
      -- a bound branch can only be failed and rolled back, which the register leaves alone
      obtain ⟨rfl, rfl⟩ := hpermits
      obtain ⟨r', hfail, hfaults, hprepared⟩ := failAndRollback_bound h hfits.1 hfits.2
      simp only [Backend.perform, Recorder.backend, Register.backend, finish, hfail, seen,
        Facade.Reply.image, hprepared, Register.settle_failAndRollback]
      exact ⟨hfaults, ⟨hfits.1, rfl⟩, rfl⟩
    | _ => exact hpermits.elim
  | ended x =>
    cases op with
    | close =>
      simp only [Backend.perform, Recorder.backend, hclose]
      exact ⟨h, trivial, rfl⟩
    | finish how y =>
      obtain ⟨r', hfinish, hfaults, hprepared⟩ := finish_free h hfits.1 hfits.2 how y
      simp only [Backend.perform, Recorder.backend, hfinish, seen, Facade.Reply.image, hprepared]
      exact ⟨hfaults, hfits, rfl⟩
    | _ => exact hpermits.elim
  | rejected =>
    cases op with
    | close =>
      simp only [Backend.perform, Recorder.backend, hclose]
      exact ⟨h, trivial, rfl⟩
    | _ => exact hpermits.elim
  | _ => exact hpermits.elim

end RecordedFacade

/-- Recorded facades follow the register of what is prepared, while no failure is owed. -/
theorem Recorder.follows : Recorder.backend.Follows Recorder.Faultless (fun _ _ => False)
    (fun _ q f => f.Fits q) RecordedFacade.linked Recorder.prepared where
  create name {r} h := by
    refine ⟨{ id := r.created }, { r.noted r.created .create none with created := r.created + 1 },
      ?_, rfl, rfl, h, fun _ => id, rfl, fun _ _ => id⟩
    simp only [Recorder.backend, Recorder.record_eq h]
    rfl
  call hpermits h hfits :=
    let hcall := RecordedFacade.perform_of_permits hpermits h hfits
    ⟨hcall.1, hcall.2.1, fun _ hx => hx.elim⟩
  others _ _ h' _ := h'
  answer hpermits h _ hfits _ := (RecordedFacade.perform_of_permits hpermits h hfits).2.2.symm
  recover {r f} h hfits := by
    show (f.recover r).answer = _
    rw [RecordedFacade.recover, RecordedFacade.recorded_eq h, RecordedFacade.whenOpen_eq hfits.1]
    rfl
  ask _ _ := rfl
  check {r f x} _ hfits := by
    show Except.ok (f.isOpen && f.link.isSome) = _
    rw [hfits.1]
    rfl

namespace Provider

/-- Make the same calls on a new provider over a manager that stays available, and on a new
provider over a recorder that owes no failure, each the only user of what is beneath.  The same
branches are prepared at the start, as for instance none, and none is active.  If no branch is
started while it is prepared and has no facade, the same is seen in both runs: each call gives
the same result or the same error, and leaves the same branches active and bound, as many idle
facades, and the same counters.  (Of a data connection it is seen only that there is one.) -/
theorem agreement_run {ms ms' : List (Move Empty)} (hcalls : calls ms = calls ms')
    (config : Config) (name : RecorderName) {manager : ResourceManager} {recorder : Recorder}
    (havailable : manager.available = true) (hactive : ∀ x, manager.phase? x ≠ some .active)
    (hfaults : ∀ call, recorder.faults call = 0) (hprepared : manager.prepared = recorder.prepared)
    (hfresh : StartsFresh ResourceManager.backend Empty.elim ResourceManager.prepared ms
      ⟨.ofFactory config, manager⟩) :
    transcript ResourceManager.backend Empty.elim ms ⟨.ofFactory config, manager⟩ =
      transcript Recorder.backend Empty.elim ms' ⟨.ofFactory name, recorder⟩ :=
  transcript_congr Session.follows Recorder.follows hcalls hprepared havailable hfaults hactive
    (fun _ => id) config name hfresh

/-- A branch is prepared and its facade lost, another one is given up while active, and then both
are finished, one of them twice; meanwhile the map of one provider takes another order. -/
theorem agreement_after_reopening :
    let x : Xid := ⟨1, [1], [], by decide, by decide⟩
    let y : Xid := ⟨1, [2], [], by decide, by decide⟩
    let ms : List (Move Empty) :=
      [.call .openUp, .call (.start x), .call (.endAndPrepare x), .call .close, .call .openUp,
        .call .recover, .call (.start y), .call (.finish .failAndRollback y), .call (.start y),
        .call (.start y), .call (.endAndPrepare y), .call (.finish (.commit false) x),
        .call (.finish .rollback x), .call (.finish (.commit true) y)]
    let ms' := ms.take 11 ++ .reorder [y] :: ms.drop 11
    StartsFresh ResourceManager.backend Empty.elim ResourceManager.prepared ms
        ⟨.ofFactory default, {}⟩ ∧
      transcript ResourceManager.backend Empty.elim ms ⟨.ofFactory default, {}⟩ =
        transcript Recorder.backend Empty.elim ms' ⟨.ofFactory default, {}⟩ := by
  intro x y ms ms'
  have hfresh : StartsFresh ResourceManager.backend Empty.elim ResourceManager.prepared ms
      ⟨.ofFactory default, {}⟩ := by
    -- only a start has anything to show: that its branch is not prepared at that point
    refine ⟨nofun, ?_, nofun, nofun, nofun, nofun, ?_, nofun, ?_, ?_, nofun, nofun,
      nofun, nofun, trivial⟩
    all_goals
      rintro _ ⟨⟩ hmem
      exact absurd hmem (ResourceManager.not_mem_prepared (by decide))
  have hcalls : calls ms = calls ms' := rfl
  have hprepared : ({} : ResourceManager).prepared = ({} : Recorder).prepared := rfl
  have hactive : ∀ x, ({} : ResourceManager).phase? x ≠ some .active := nofun
  exact ⟨hfresh, agreement_run hcalls default default rfl hactive (fun _ => rfl) hprepared hfresh⟩

end Provider

end BranchPool
