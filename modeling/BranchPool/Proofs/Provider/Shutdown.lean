/-
The end of every facade in a pool.

* `Provider.Shuts` — each facade of a list is closed once, in order, and no
  other is called, whatever the facades answer;
* `Provider.shuts_closeAll` — so it is for the facades of a pool, and every
  failure is collected;
* `Provider.shutdown_run` — what `close` and `openUp` make of this after every
  run, the one with a report of the failures and the other without.

Design note: the bound facades come in the order of the branch map, which
promises none.  A run may give the map another order at any time, so what holds
after every run holds for every order.
-/
import BranchPool.Proofs.Provider.Conduct
import BranchPool.Proofs.Provider.Refusal
import BranchPool.Recorder

namespace BranchPool

open Facade

variable {γ σ φ κ ε : Type}

/-- The failure that a facade answered. -/
def Event.failure? (e : Event) : Option Facade.Error :=
  match e.answer with
  | .ok _ => none
  | .error error => some error

namespace Provider

/-- Whether each facade of a list is closed once, in order, with no other call
in between, and these are the failures that were answered. -/
def Shuts (ts : List (Numbered φ)) (w w' : Trace σ φ) (failures : List Facade.Error) : Prop :=
  ∃ new : History, w'.events = new ++ w.events ∧
    (new.reverse.map fun e => (e.facade, e.operation)) = (ts.map fun t => (t.number, .close)) ∧
    new.reverse.filterMap Event.failure? = failures

namespace Shuts

variable {w w' : Trace σ φ} {t : Numbered φ} {ts : List (Numbered φ)} {failures : List Facade.Error}

theorem nil (w : Trace σ φ) : Shuts [] w w [] := ⟨[], rfl, rfl, rfl⟩

/-- One facade is closed, and then the others. -/
theorem cons (b : Backend γ σ φ κ) (h : Shuts ts (b.traced.close t w).world w' failures) :
    Shuts (t :: ts) w w'
      (match (b.traced.close t w).answer with
        | .ok _ => failures
        | .error e => e :: failures) := by
  obtain ⟨new, hevents, hcalls, hfailures⟩ := h
  -- The newest event comes first in a history, so the first close goes to the end.
  refine ⟨new ++ [⟨t.number, .close, (b.traced.close t w).answer⟩], ?_, ?_, ?_⟩
  · have hclose : (b.traced.close t w).world.events =
        ⟨t.number, .close, (b.traced.close t w).answer.map fun _ => ()⟩ :: w.events := rfl
    rw [hevents, hclose, map_unit, List.append_assoc]
    rfl
  · rw [List.reverse_append, List.map_append, hcalls]
    rfl
  · rw [List.reverse_append, List.filterMap_append, hfailures]
    cases (b.traced.close t w).answer <;> rfl

/-- Every facade of the list is closed by a call that is new. -/
theorem exists_close (h : Shuts ts w w' failures) :
    ∃ new, w'.events = new ++ w.events ∧
      ∀ t ∈ ts, ∃ e ∈ new, e.facade = t.number ∧ e.operation = .close := by
  obtain ⟨new, hevents, hcalls, -⟩ := h
  refine ⟨new, hevents, fun t ht => ?_⟩
  have hmem : (t.number, Operation.close) ∈ new.reverse.map fun e => (e.facade, e.operation) := by
    rw [hcalls]
    exact List.mem_map_of_mem ht
  obtain ⟨e, he, heq⟩ := List.mem_map.mp hmem
  exact ⟨e, List.mem_reverse.mp he, congrArg Prod.fst heq, congrArg Prod.snd heq⟩

end Shuts

/-- A facade that fails to close stops nothing: the others are closed after it, and
it is reported in its place. -/
theorem shuts_closeAll (b : Backend γ σ φ κ) (ts : List (Numbered φ)) (w : Trace σ φ) :
    Shuts ts w (closeAll b.traced ts w).2 (closeAll b.traced ts w).1 := by
  induction ts generalizing w with
  | nil => exact .nil w
  | cons t ts ih =>
    have hcons := Shuts.cons b (ih (b.traced.close t w).world)
    rw [closeAll]
    cases hanswer : (b.traced.close t w).answer <;> simpa only [hanswer] using hcons

/-- A call that closes the pool counts nothing. -/
theorem tally_of_closes {b : Backend γ σ φ κ} {c : Call} (hc : c.closes = true)
    (p : Provider γ φ) (w : σ) : (c.run b p w).provider.tally = p.tally := by
  cases c with
  | openUp =>
    show (p.openUp b w).provider.tally = p.tally
    rw [openUp]
    cases p.active? <;> rfl
  | close =>
    obtain ⟨factory, _ | s, tally⟩ := p <;> rfl
  | _ => cases hc

theorem activeFacade?_eq_some {p : Provider γ φ} {x : Xid} {f : φ} (hactive : p.active? = some x)
    (hf : p.boundFacade? x = some f) : p.activeFacade? = some (x, f) := by
  obtain ⟨factory, _ | ⟨idle, bound, active⟩, tally⟩ := p
  · cases hactive
  · have hactive : active = some x := hactive
    have hget : bound.get? x = some f := hf
    simp [activeFacade?, Pool.activeFacade?, hactive, hget]

/-- A closed provider has nothing to close. -/
theorem close_eq_of_closed {b : Backend γ σ φ κ} {p : Provider γ φ} {w : σ}
    (h : p.isInitialized = false) : Call.close.run b p w = ⟨.ok .done, p, w⟩ := by
  obtain ⟨factory, _ | s, tally⟩ := p
  · rfl
  · cases h

/-! ### Closing and opening -/

variable {b : Backend γ σ φ κ} {p : Provider γ (Numbered φ)} {w : Trace σ φ}
  {r : Reply γ (Numbered φ) (Trace σ φ) (Result κ)}

/-- Whatever fails to close is reported, after all has been closed. -/
theorem Course.shuts_of_close (h : Course b.traced .close p w r) :
    ∃ failures, Shuts p.facades w r.world failures ∧
      (failures = [] → r.answer = .ok .done) ∧
      (failures ≠ [] →
        r.answer = .error (.closeFailed (p.idleCount + p.boundCount) failures)) ∧
      r.provider = { p with pool := none } := by
  -- a close is refused by nothing and makes no facade, so only the third course is left
  cases h with
  | refused happlies => exact happlies.forbids.elim
  | unmade hborrows => exact hborrows.elim
  | @closed p w failures w' hclose =>
    have hshuts := shuts_closeAll b p.facades w
    rw [hclose] at hshuts
    refine ⟨failures, hshuts, fun hnil => ?_, fun hfailed => ?_, rfl⟩
    · rw [hnil]
      rfl
    · rw [← length_facades, if_neg (by simpa using hfailed)]

/-- A provider without an active branch is opened whatever fails to close, and its
facades are closed as if by `close`. -/
theorem openUp_eq_of_inactive (h : p.active? = none) :
    Call.openUp.run b.traced p w =
      ⟨.ok .done, { p with pool := some {} }, (Call.close.run b.traced p w).world⟩ := by
  obtain ⟨factory, _ | s, tally⟩ := p
  · rfl
  · show (openUp b.traced _ w).map _ = _
    rw [openUp, h]
    rfl

/-- After every run, and in whatever order the branch map has its entries: `close`
closes each facade of an open provider once and calls no other, leaves the
provider closed, and reports exactly what failed; on a closed provider it does
nothing.  While no branch is active, `openUp` closes the same facades, reports
nothing, and leaves an empty pool.  Neither of them counts anything. -/
theorem shutdown_run (b : Backend γ σ φ κ) (act : ε → σ → σ) (ms : List (Move ε)) (factory : γ)
    (w : σ) :
    let s := run b.traced (Trace.lift act) ms (.fresh factory w)
    let p := s.provider
    let closed := Call.close.run b.traced p s.world
    let opened := Call.openUp.run b.traced p s.world
    s.untraced = run b act ms ⟨.ofFactory factory, w⟩ ∧
      (p.facades.map Numbered.number).Nodup ∧
      (∀ t, t ∈ p.facades ↔ (∃ x, p.boundFacade? x = some t) ∨ t ∈ p.idle) ∧
      (∀ x, p.active? = some x → ∃ t ∈ p.facades, p.activeFacade? = some (x, t)) ∧
      (p.isInitialized = true →
        ∃ failures, Shuts p.facades s.world closed.world failures ∧
          (failures = [] → closed.answer = .ok .done) ∧
          (failures ≠ [] →
            closed.answer = .error (.closeFailed (p.idleCount + p.boundCount) failures)) ∧
          closed.provider = { p with pool := none }) ∧
      (p.isInitialized = false → closed = ⟨.ok .done, p, s.world⟩) ∧
      (p.active? = none →
        opened.answer = .ok .done ∧ opened.provider = { p with pool := some {} } ∧
          opened.world = closed.world ∧
          ∃ failures, Shuts p.facades s.world opened.world failures) ∧
      closed.provider.tally = p.tally ∧ opened.provider.tally = p.tally := by
  intro s p closed opened
  -- at every point of the run the numbered facades are the provider's own, one number each
  have hsound : p.Sound := sound_run ms (sound_ofFactory factory)
  have hholds : s.world.Holds p.facades :=
    (State.Agrees.ofBooks (books_run b act ms factory w) hsound).holds
  have hclose := (course_run (b := b.traced) .close hsound s.world).shuts_of_close
  refine ⟨untraced_run b act ms factory w, hholds.nodup, fun t => p.mem_facades_iff,
    fun x hx => ?_, fun _ => hclose, fun hclosed => ?_, fun hinactive => ?_,
    tally_of_closes rfl p s.world, tally_of_closes rfl p s.world⟩
  · obtain ⟨t, ht⟩ := hsound.active hx
    exact ⟨t, p.mem_facades_iff.mpr (.inl ⟨x, ht⟩), activeFacade?_eq_some hx ht⟩
  · exact close_eq_of_closed hclosed
  -- opening again closes the old pool in the same way, but keeps its failures to itself
  · have hopened : opened = ⟨.ok .done, { p with pool := some {} }, closed.world⟩ :=
      openUp_eq_of_inactive hinactive
    obtain ⟨failures, hshuts, -⟩ := hclose
    rw [hopened]
    exact ⟨rfl, rfl, rfl, failures, hshuts⟩

/-- Two facades are bound, the one to the active branch, and the one that is closed
first fails to close. -/
theorem shutdown_of_failing_facade :
    let b := Recorder.backend
    let x : Xid := ⟨1, [1], [], by decide, by decide⟩
    let y : Xid := ⟨1, [2], [], by decide, by decide⟩
    let failNext : Facade.Call → Recorder → Recorder := fun call r => r.failNext call 1
    let s : State _ _ _ := run b.traced (Trace.lift failNext)
      [.call .openUp, .call (.start x), .call (.endAndPrepare x), .call (.start y),
        .environment .close] (.fresh default {})
    let closed := Call.close.run b.traced s.provider s.world
    s.provider.isInitialized = true ∧ s.provider.facades.map Numbered.number = [1, 0] ∧
      ∃ failures, failures ≠ [] ∧ Shuts s.provider.facades s.world closed.world failures ∧
        closed.answer =
          .error (.closeFailed (s.provider.idleCount + s.provider.boundCount) failures) := by
  intro b x y failNext s closed
  have hopen : s.provider.isInitialized = true := by decide +kernel
  have hnumbers : s.provider.facades.map Numbered.number = [1, 0] := by decide +kernel
  have hfails : closed.answer.isOk = false := by decide +kernel
  obtain ⟨-, -, -, -, hclose, -⟩ := shutdown_run b failNext
    [.call .openUp, .call (.start x), .call (.endAndPrepare x), .call (.start y),
      .environment .close] default {}
  obtain ⟨failures, hshuts, hok, hfailed, -⟩ := hclose hopen
  -- an empty list of failures would have made the answer `Ok`
  have hne : failures ≠ [] := fun hnil => by
    have hisOk : closed.answer.isOk = true := congrArg Except.isOk (hok hnil)
    exact Bool.false_ne_true (hfails.symm.trans hisOk)
  exact ⟨hopen, hnumbers, failures, hne, hshuts, hfailed hne⟩

end Provider

end BranchPool
