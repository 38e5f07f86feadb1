/-
Sessions follow the register while their manager is available.

* `Session.start_free` and its neighbours — what a call does to a session that may receive it;
* `ResourceManager.prepared_insert` and its neighbours — what becomes of the prepared branches;
* `Session.follows` — so a pool of sessions shows what a pool over the register shows.
-/
import BranchPool.Proofs.Register
import BranchPool.Proofs.ResourceManager.Orphans
import BranchPool.Proofs.ResourceManager.Restart

namespace BranchPool

open Facade

/-! ### The prepared branches -/

namespace ResourceManager

variable {m m' : ResourceManager} {x : Xid} {l : Register}

theorem prepared_eq (hl : l.Pairwise (· < ·)) (h : ∀ y, m.phase? y = some .prepared ↔ y ∈ l) :
    m.prepared = l :=
  Xid.eq_of_ascending m.pairwise_prepared hl fun y => mem_prepared.trans (h y)

/-- A branch that was just started is not prepared. -/
theorem prepared_insert (hx : m.phase? x = none) (timeout : Option Timeout) :
    ({ m with branches := m.branches.insert x ⟨.active, timeout⟩ } : ResourceManager).prepared =
      m.prepared := by
  refine prepared_eq m.pairwise_prepared fun y => ?_
  rw [phase?_insert, mem_prepared]
  by_cases hy : y = x <;> simp [hy, hx]

theorem prepared_update {timeout : Option Timeout}
    (hx : m.branches.get? x = some ⟨.active, timeout⟩) :
    ({ m with branches := m.branches.update x ⟨.prepared, timeout⟩ } : ResourceManager).prepared =
      Register.enter x m.prepared := by
  refine prepared_eq (Register.pairwise_enter m.pairwise_prepared x) fun y => ?_
  rw [phase?_update hx, Register.mem_enter, mem_prepared]
  by_cases hy : y = x <;> simp [hy]

theorem prepared_resolve (m : ResourceManager) (x : Xid) (outcome : Outcome) :
    (m.resolve x outcome).prepared = Register.strike x m.prepared := by
  refine prepared_eq (Register.pairwise_strike m.pairwise_prepared x) fun y => ?_
  rw [phase?_resolve, Register.mem_strike, mem_prepared]
  by_cases hy : y = x <;> simp [hy]

theorem not_mem_prepared (hx : m.phase? x ≠ some .prepared) : x ∉ m.prepared :=
  mt mem_prepared.mp hx

end ResourceManager

namespace Session

variable {s : Session} {m : ResourceManager} {x : Xid}

/-! ### Calls on a session of an available manager -/

theorem openUp_closed (hclosed : s.isOpen = false) (havailable : m.available = true) :
    s.openUp m = ⟨.ok (), { s with isOpen := true }, m.connected⟩ := by
  have hconnect : m.connect? = .ok m.connected := if_pos havailable
  simp only [openUp, hclosed, Bool.false_eq_true, if_false, hconnect]
  rfl

theorem start_free (hopen : s.isOpen = true) (hfree : s.bound = none)
    (havailable : m.available = true) (hphase : m.phase? x = none) :
    s.start x m = ⟨.ok (), { s with bound := some x },
      { m with branches := m.branches.insert x ⟨.active, s.config.timeout⟩ }⟩ := by
  have hbegin : m.begin? x s.config.timeout =
      .ok { m with branches := m.branches.insert x ⟨.active, s.config.timeout⟩ } := by
    have hcontains : ¬m.branches.contains x = true := by
      rw [BranchMap.contains]
      rw [ResourceManager.phase?, Option.map_eq_none_iff] at hphase
      simp [hphase]
    rw [ResourceManager.begin?, if_pos havailable, if_neg hcontains]
  simp only [start, whenOpen, hopen, if_true, hfree, hbegin]
  rfl

theorem endAndPrepare_working (h : s.WorksOn m x) (havailable : m.available = true) :
    ∃ timeout, m.branches.get? x = some ⟨.active, timeout⟩ ∧
      s.endAndPrepare x m = ⟨.ok (), { s with bound := none },
        { m with branches := m.branches.update x ⟨.prepared, timeout⟩ }⟩ := by
  obtain ⟨hopen, hbound, hphase⟩ := h
  obtain ⟨⟨phase, timeout⟩, hget, rfl⟩ := Option.map_eq_some_iff.mp hphase
  refine ⟨timeout, hget, ?_⟩
  simp only [endAndPrepare, whenOpen, hopen, if_true, hbound, ResourceManager.prepare?, havailable,
    hget]
  rfl

theorem close_working (h : s.WorksOn m x) :
    s.close m = ⟨.ok (), { s with isOpen := false, bound := none, link := none },
      m.resolve x .rolledBack⟩ := by
  simp only [close, h.2.1, ResourceManager.abandon_of_active h.2.2]

theorem failAndRollback_working (h : s.WorksOn m x) (havailable : m.available = true) :
    s.failAndRollback x m = ⟨.ok (), { s with bound := none }, m.resolve x .rolledBack⟩ := by
  obtain ⟨hopen, hbound, hphase⟩ := h
  simp only [failAndRollback, whenOpen, hopen, if_true, hbound, decide_true,
    ResourceManager.rollback?, havailable, hphase]

/-- A branch that the manager does not know is finished as if it was not in the register. -/
theorem finish_unknown (hopen : s.isOpen = true) (hother : s.bound ≠ some x)
    (havailable : m.available = true) (hphase : m.phase? x = none) (how : Finish) :
    s.finish how x m = ⟨Register.settle how x m.prepared, s, m⟩ := by
  have hx : x ∉ m.prepared := ResourceManager.not_mem_prepared (by simp [hphase])
  rw [(verdict_finish hopen how x m).of_unknown hother havailable hphase]
  cases how with
  | commit ignoreUnknown =>
    cases ignoreUnknown <;> simp [Finish.toleratesUnknown, Register.settle, hx]
  | rollback => simp [Finish.toleratesUnknown, Register.settle, hx]
  | failAndRollback => simp [Finish.toleratesUnknown, Register.settle]

/-! ### The register -/

/-- Whether there is a data connection is all that is seen of a session. -/
def linked (s : Session) : Bool := s.link.isSome

/-- What a session makes of a call, as it is seen. -/
def seen {α : Type} (r : Reply α) : Facade.Reply Bool Register α :=
  r.image linked ResourceManager.prepared

theorem seen_close (hfree : s.bound = none) :
    seen (s.close m) = Register.backend.close s.linked m.prepared := by
  simp only [close, hfree]
  rfl

theorem seen_close_working (h : s.WorksOn m x) :
    seen (s.close m) = Register.backend.close s.linked m.prepared := by
  have hprepared : (m.resolve x .rolledBack).prepared = m.prepared := by
    rw [ResourceManager.prepared_resolve,
      Register.strike_of_not_mem (ResourceManager.not_mem_prepared (by simp [h.2.2]))]
  simp only [close_working h, seen, Facade.Reply.image, hprepared]
  rfl

theorem seen_start (hopen : s.isOpen = true) (hfree : s.bound = none)
    (havailable : m.available = true) (hphase : m.phase? x = none) :
    seen (s.start x m) = Register.backend.start x s.linked m.prepared := by
  simp only [start_free hopen hfree havailable hphase, seen, Facade.Reply.image,
    ResourceManager.prepared_insert hphase]
  rfl

theorem seen_endAndPrepare (h : s.WorksOn m x) (havailable : m.available = true) :
    seen (s.endAndPrepare x m) = Register.backend.endAndPrepare x s.linked m.prepared := by
  obtain ⟨timeout, hget, hend⟩ := endAndPrepare_working h havailable
  simp only [hend, seen, Facade.Reply.image, ResourceManager.prepared_update hget]
  rfl

theorem seen_failAndRollback (h : s.WorksOn m x) (havailable : m.available = true) :
    seen (s.failAndRollback x m) =
      Register.backend.finish .failAndRollback x s.linked m.prepared := by
  simp only [failAndRollback_working h havailable, seen, Facade.Reply.image,
    ResourceManager.prepared_resolve, Register.backend, Register.settle_failAndRollback]
  rfl

/-- A branch that is not active is finished as it would be in the register. -/
theorem seen_finish (hopen : s.isOpen = true) (hother : s.bound ≠ some x)
    (havailable : m.available = true) (hphase : m.phase? x ≠ some .active) (how : Finish) :
    seen (s.finish how x m) = Register.backend.finish how x s.linked m.prepared := by
  -- unknown or prepared, the two phases where manager and register both decide by membership
  cases hx : m.phase? x with
  | none =>
    have hnot : x ∉ m.prepared := ResourceManager.not_mem_prepared (by simp [hx])
    simp only [finish_unknown hopen hother havailable hx, seen, Facade.Reply.image,
      Register.backend, Register.strike_of_not_mem hnot]
  | some phase =>
    cases phase with
    | active => exact absurd hx hphase
    | prepared =>
      have hmem : x ∈ m.prepared := ResourceManager.mem_prepared.mpr hx
      simp only [finish_prepared hopen hother havailable hx, seen, Facade.Reply.image,
        ResourceManager.prepared_resolve, Register.backend, Register.settle_of_mem hmem]

theorem seen_useData (hopen : s.isOpen = true) (use : DataUse) :
    seen (ResourceManager.backend.perform (.useData use) s m) =
      Register.backend.perform (.useData use) s.linked m.prepared := by
  -- with the session open only `establish` still has a case of its own, the link it may have
  cases use with
  | establish =>
    simp only [Backend.perform, ResourceManager.backend, establish_eq, reestablish, whenOpen, hopen,
      if_true]
    cases hlink : s.link with
    | none => rfl
    | some link =>
      simp only [seen, Facade.Reply.image, Facade.Reply.map, linked, hlink]
      rfl
  | reestablish =>
    simp only [Backend.perform, ResourceManager.backend, reestablish, whenOpen, hopen, if_true]
    rfl
  | _ => rfl

theorem Fits.ofEnded {q : Stage} {ok : Bool} (h : Fits m q ok s)
    (hok : ∀ x, q = .ended x → ok = true) : Fits m q true s := by
  cases q with
  | ended x =>
    cases hok x rfl
    exact h
  | _ => exact h

/-- A branch that was ended was prepared. -/
theorem ended_of_permits {bound : Xid → Prop} {q : Stage} {op : Operation}
    (hpermits : q.Permits bound op) (havailable : m.available = true) (h : Fits m q true s)
    (x : Xid) (hx : q.after op (ResourceManager.backend.perform op s m).answer.isOk = .ended x) :
    (ResourceManager.backend.perform op s m).answer.isOk = true := by
  obtain rfl := hpermits.eq_endAndPrepare hx
  cases q with
  | active y =>
    obtain rfl : x = y := hpermits
    obtain ⟨timeout, -, hend⟩ := endAndPrepare_working h havailable
    simp only [Backend.perform, ResourceManager.backend, hend]
    rfl
  | _ => exact hpermits.elim

/-- A branch that is active after a call is that of the session, or was active before and is not. -/
theorem busy_of_permits {bound : Xid → Prop} {q : Stage} {op : Operation}
    (hpermits : q.Permits bound op) (havailable : m.available = true) (h : Fits m q true s) :
    let r := ResourceManager.backend.perform op s m
    r.world.phase? x = some .active →
      (q.after op r.answer.isOk).branch? = some x ∨
        m.phase? x = some .active ∧ q.branch? ≠ some x := by
  intro r hx
  have hresolved : ∀ outcome, r.world ≠ m.resolve x outcome := by
    intro outcome hworld
    rw [hworld, ResourceManager.phase?_resolve, if_pos rfl] at hx
    cases hx
  by_cases hq : q.branch? = some x
  · -- the session of the branch either keeps it, or takes it off the live ones
    refine .inl ?_
    cases q with
    | active y =>
      obtain rfl : y = x := Option.some_inj.mp hq
      cases op with
      | close => exact absurd (congrArg Facade.Reply.world (close_working h)) (hresolved _)
      | finish how z =>
        obtain ⟨rfl, rfl⟩ := hpermits
        have hfail := failAndRollback_working h havailable
        exact absurd (congrArg Facade.Reply.world hfail) (hresolved _)
      | endAndPrepare z => rfl
      | useData use => rfl
      | _ => exact hpermits.elim
    | ended y =>
      obtain rfl : y = x := Option.some_inj.mp hq
      obtain ⟨hopen, hfree, hphase⟩ := h
      cases op with
      | close =>
        have hworld : (s.close m).world = m := by simp only [close, hfree]
        have hsame : m.phase? y = some .active := hworld ▸ hx
        rw [hphase] at hsame
        cases hsame
      | finish how z =>
        obtain rfl : z = y := hpermits
        have hfinish := finish_prepared hopen (by simp [hfree]) havailable hphase how
        exact absurd (congrArg Facade.Reply.world hfinish) (hresolved _)
      | _ => exact hpermits.elim
    | _ => cases hq
  · -- another session starts the branch, or leaves it alone
    have heffect := effect_perform op (h.sound hpermits.not_isFinal)
    obtain ⟨⟨rfl, hok⟩, -⟩ | ⟨-, hactive, -⟩ := heffect.of_active hx
    · refine .inl ?_
      cases q with
      | idle => rw [hok]; rfl
      | _ => exact hpermits.elim
    · exact .inr ⟨hactive, hq⟩

/-- Sessions follow the register of what is prepared, while their manager is available. -/
theorem follows : ResourceManager.backend.Follows (fun m => m.available = true)
    (fun m x => m.phase? x = some .active) (fun m q s => s.Fits m q true) linked
    ResourceManager.prepared where
  create config {m} havailable :=
    ⟨{ config }, m, rfl, rfl, rfl, havailable, fun _ => id, ⟨rfl, rfl⟩, fun _ _ => id⟩
  call {bound q op m s} hpermits havailable h := by
    have hfinal := hpermits.not_isFinal
    have heffect := effect_perform op (h.sound hfinal)
    refine ⟨(available_perform op s m).trans havailable, ?_, fun x hx => ?_⟩
    · exact (h.next hpermits heffect (h.isFinal_or_isOpen hpermits)).ofEnded
        (ended_of_permits hpermits havailable h)
    · exact busy_of_permits hpermits havailable h hx
  others hpermits h h' hother := contract.others hpermits h h' hother
  answer {bound q op m s} hpermits havailable hbusy h hfresh := by
    refine Eq.symm ?_
    show seen _ = _
    cases q with
    | made =>
      cases op with
      | openUp =>
        simp only [Backend.perform, ResourceManager.backend, openUp_closed h.1 havailable]
        rfl
      | _ => exact hpermits.elim
    | idle =>
      -- what has no session in the pool is not active, as nobody else uses the manager
      have hnot : ∀ {x}, ¬bound x → m.phase? x ≠ some .active := fun hx hactive =>
        hx (hbusy _ hactive)
      cases op with
      | close => exact seen_close h.2
      | recover =>
        simp only [Backend.perform, ResourceManager.backend, recover_eq h.1 havailable]
        rfl
      | start x =>
        have hphase : m.phase? x = none := by
          have hnew := hfresh x rfl
          rw [ResourceManager.mem_prepared] at hnew
          cases hx : m.phase? x with
          | none => rfl
          | some phase =>
            cases phase with
            | active => exact absurd hx (hnot hpermits)
            | prepared => exact absurd hx hnew
        exact seen_start h.1 h.2 havailable hphase
      | finish how x => exact seen_finish h.1 (by simp [h.2]) havailable (hnot hpermits) how
      | _ => exact hpermits.elim
    | active x =>
      cases op with
      | close => exact seen_close_working h
      | useData use => exact seen_useData h.1 use
      | endAndPrepare y =>
        obtain rfl : y = x := hpermits
        exact seen_endAndPrepare h havailable
      | finish how y =>
        obtain ⟨rfl, rfl⟩ := hpermits
        exact seen_failAndRollback h havailable
      | _ => exact hpermits.elim
    | ended x =>
      cases op with
      | close => exact seen_close h.2.1
      | finish how y =>
        obtain rfl : y = x := hpermits
        exact seen_finish h.1 (by simp [h.2.1]) havailable (by simp [h.2.2]) how
      | _ => exact hpermits.elim
    | rejected =>
      cases op with
      | close => exact seen_close h.2
      | _ => exact hpermits.elim
    | _ => exact hpermits.elim
  recover {m s} havailable h := by
    show (s.recover m).answer = _
    rw [recover_eq h.1 havailable]
  ask _ _ := rfl
  check {m s x} havailable h := by
    show Except.ok (s.isLinkValid m) = _
    simp only [isLinkValid, h.1, havailable, Bool.true_and, Bool.and_true]
    rfl

end Session

end BranchPool
