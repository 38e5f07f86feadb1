/-
Which branches are prepared, by the history.

* `History.Awaiting` — a branch was prepared, and has not been finished since;
* `Deployment.durability_run` — in every run of providers and sessions over one
  manager, these are the branches that are prepared, and an open session lists
  them in ascending order.
-/
import BranchPool.Proofs.ResourceManager.Sharing
import BranchPool.Proofs.XidOrder

namespace BranchPool

open Facade

namespace History

/-- Whether some call prepared a branch, and no later one finished it. -/
def Awaiting (h : History) (x : Xid) : Prop :=
  ∃ later e earlier, h = later ++ e :: earlier ∧
    e.operation = .endAndPrepare x ∧ e.answer.isOk = true ∧
    ∀ e' ∈ later, ∀ how, e'.operation = .finish how x → e'.answer.isOk = false

theorem not_awaiting_nil (x : Xid) : ¬Awaiting [] x := by
  rintro ⟨later, e, earlier, heq, -⟩
  cases later <;> cases heq

/-- A branch waits after a call if the call prepared it, or if it waited before
and the call did not finish it. -/
theorem awaiting_cons (e : Event) (h : History) (x : Xid) :
    Awaiting (e :: h) x ↔
      e.operation = .endAndPrepare x ∧ e.answer.isOk = true ∨
        h.Awaiting x ∧ ¬∃ how, e.operation = .finish how x ∧ e.answer.isOk = true := by
  constructor
  · rintro ⟨later, e', earlier, heq, hop, hok, hlater⟩
    -- the call that prepared the branch is the latest one, or came before
    cases later with
    | nil =>
      cases heq
      exact .inl ⟨hop, hok⟩
    | cons e'' later =>
      cases heq
      refine .inr ⟨⟨later, e', earlier, rfl, hop, hok, fun e'' he => ?_⟩, ?_⟩
      · exact hlater e'' (List.mem_cons_of_mem _ he)
      · rintro ⟨how, hfinish, hok'⟩
        rw [hlater e List.mem_cons_self how hfinish] at hok'
        cases hok'
  · rintro (⟨hop, hok⟩ | ⟨⟨later, e', earlier, rfl, hop, hok, hlater⟩, hnot⟩)
    · exact ⟨[], e, h, rfl, hop, hok, fun e' he => by cases he⟩
    · refine ⟨e :: later, e', earlier, rfl, hop, hok, fun e'' he how hfinish => ?_⟩
      rcases List.mem_cons.mp he with rfl | he
      · exact Bool.eq_false_iff.mpr fun hok' => hnot ⟨how, hfinish, hok'⟩
      · exact hlater e'' he how hfinish

end History

/-- Whether the prepared branches are those that wait to be finished. -/
def Exact (w : Trace ResourceManager Session) : Prop :=
  ∀ x, w.world.phase? x = some .prepared ↔ w.events.Awaiting x

theorem Exact.step {w w' : Trace ResourceManager Session}
    (hstep : Trace.Step ResourceManager.backend w w') (hconcord : Concord w) (h : Exact w) :
    Exact w' := by
  cases hstep with
  | made hmake =>
    cases hmake
    exact h
  | notMade hmake => cases hmake
  -- making a facade asks nothing of the manager, so only a call can change a phase
  | @called op i s w hs =>
    intro x
    have hsound : s.Sound w.world := hconcord.sound i s hs
    have heffect := Session.effect_perform op hsound
    simp only [Trace.observe, map_unit]
    rw [History.awaiting_cons, heffect.prepared_iff hsound x, h x]

namespace ResourceManager

theorem mem_prepared {m : ResourceManager} {x : Xid} :
    x ∈ m.prepared ↔ m.phase? x = some .prepared := by
  rw [prepared, BranchMap.mem_sortedKeysWhere, phase?]
  simp only [decide_eq_true_eq, Option.map_eq_some_iff]

theorem pairwise_prepared (m : ResourceManager) : m.prepared.Pairwise (· < ·) :=
  m.branches.pairwise_sortedKeysWhere _

end ResourceManager

theorem Session.recover_eq {s : Session} {m : ResourceManager} (hopen : s.isOpen = true)
    (havailable : m.available = true) : s.recover m = ⟨.ok m.prepared, s, m⟩ := by
  rw [recover, whenOpen, if_pos hopen, ResourceManager.scan?, if_pos havailable]

namespace Deployment

/-- In every run of any number of providers and sessions over one manager, from
a manager without branches, a branch is prepared if and only if it waits to be
finished.  An open session tells exactly these branches while the manager is
available, and changes nothing. -/
theorem durability_run (ms : List (Move Config Bool)) :
    let b := ResourceManager.backend
    let act := fun available (m : ResourceManager) => m.setAvailable available
    let D := run b.traced (Trace.lift act) ms { world := { world := {} } }
    let m := D.world.world
    let h := D.world.events
    D.untraced = run b act ms { world := {} } ∧
      (∀ x, m.phase? x = some .prepared ↔ h.Awaiting x) ∧
      ∀ t ∈ D.held, t.value.isOpen = true → m.available = true →
        ∃ xs, b.recover t.value m = ⟨.ok xs, t.value, m⟩ ∧ xs.Pairwise (· < ·) ∧
          ∀ x, x ∈ xs ↔ h.Awaiting x := by
  intro b act D m h
  obtain ⟨⟨-, hexact⟩, -⟩ := trace_induction b act (I := fun w => Concord w ∧ Exact w)
    (fun w w' hstep hw => ⟨hw.1.step hstep, hw.2.step hstep hw.1⟩)
    (fun available w hw => ⟨hw.1.setAvailable available, hw.2⟩) ms {}
    ⟨.start {}, fun x => by simp [History.not_awaiting_nil, ResourceManager.phase?]⟩
  refine ⟨untraced_run_eq b act ms {}, hexact, fun t _ hopen havailable => ?_⟩
  refine ⟨m.prepared, Session.recover_eq hopen havailable, m.pairwise_prepared, fun x => ?_⟩
  rw [ResourceManager.mem_prepared]
  exact hexact x

end Deployment

end BranchPool
