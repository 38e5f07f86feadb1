/-
Which active branches have a session.

A session that is bound to a branch and gives up on it is free afterwards, even
if the manager could not be reached and the branch is active still.  Nobody can
end or abort that branch any more.

* `History.Deserted` — whether this has happened to a branch since it was started
  last;
* `Session.Effect.of_active` — what a call may do to the session of a branch that is
  active afterwards;
* `Manned` — an active branch has a session if and only if it was not deserted;
  each call keeps this;
* `Deployment.custody_run` — so it holds in every run that drops no session before
  it is closed, and the session is one that somebody holds.
-/
import BranchPool.Proofs.ResourceManager.Custody

namespace BranchPool

open Facade

/-! ### Histories -/

/-- Whether a call started a branch. -/
def Event.Starts (e : Event) (x : Xid) : Prop := e.operation = .start x ∧ e.answer.isOk = true

instance (e : Event) (x : Xid) : Decidable (e.Starts x) :=
  inferInstanceAs (Decidable (e.operation = .start x ∧ e.answer.isOk = true))

/-- Whether a call was to give up on a branch and roll it back, and failed. -/
def Event.Deserts (e : Event) (x : Xid) : Prop :=
  e.operation = .finish .failAndRollback x ∧ e.answer.isOk = false

namespace History

/-- The facade on which a branch was started last. -/
def starter? (h : History) (x : Xid) : Option Nat :=
  (h.find? fun e => e.Starts x).map (·.facade)

/-- Whether the facade on which a branch was started last was to give up on the
branch, and failed. -/
def Deserted (h : History) (x : Xid) : Prop :=
  ∃ later e earlier, h = later ++ e :: earlier ∧ e.Deserts x ∧
    starter? earlier x = some e.facade ∧ ∀ e' ∈ later, ¬e'.Starts x

theorem starter?_cons (e : Event) (h : History) (x : Xid) :
    starter? (e :: h) x = if e.Starts x then some e.facade else h.starter? x := by
  by_cases hstarts : e.Starts x <;> simp [starter?, hstarts]

theorem deserted_cons (e : Event) (h : History) (x : Xid) :
    Deserted (e :: h) x ↔
      e.Deserts x ∧ h.starter? x = some e.facade ∨ h.Deserted x ∧ ¬e.Starts x := by
  -- either the new event deserts the branch, or an earlier one did and no start came after it
  constructor
  · rintro ⟨later, e', earlier, heq, hdeserts, hstarter, hlater⟩
    cases later with
    | nil =>
      cases heq
      exact .inl ⟨hdeserts, hstarter⟩
    | cons e'' later =>
      cases heq
      refine .inr ⟨⟨later, e', earlier, rfl, hdeserts, hstarter, ?_⟩, hlater e List.mem_cons_self⟩
      exact fun e'' he => hlater e'' (List.mem_cons_of_mem _ he)
  · rintro (⟨hdeserts, hstarter⟩ | ⟨⟨later, e', earlier, rfl, hdeserts, hstarter, hlater⟩, hnot⟩)
    · exact ⟨[], e, h, rfl, hdeserts, hstarter, by simp⟩
    · refine ⟨e :: later, e', earlier, rfl, hdeserts, hstarter, fun e'' he => ?_⟩
      rcases List.mem_cons.mp he with rfl | he
      · exact hnot
      · exact hlater e'' he

end History

/-! ### One call -/

/-- A branch that is active after a call was started by it, or was active before.
Then the session is bound to it if it was before, unless it gave up on the branch
and failed. -/
theorem Session.Effect.of_active {s s' : Session} {m m' : ResourceManager} {op : Operation}
    {ok : Bool} (heffect : Effect s m op ok s' m') {x : Xid}
    (hx : m'.phase? x = some .active) :
    (op = .start x ∧ ok = true) ∧ s'.bound = some x ∨
      ¬(op = .start x ∧ ok = true) ∧ m.phase? x = some .active ∧
        ((op = .finish .failAndRollback x ∧ ok = false) ∧ s.bound = some x ∧ s'.bound = none ∨
          ¬(s.bound = some x ∧ op = .finish .failAndRollback x ∧ ok = false) ∧
            (s'.bound = some x ↔ s.bound = some x)) := by
  -- three outcomes: the call started `x`, it deserted `x`, or it left `x` with whoever had it
  cases heffect with
  | stay hquiet hbound hbranches houtcomes =>
    rw [ResourceManager.phase?_congr hbranches] at hx
    refine .inr ⟨?_, hx, .inr ⟨?_, by rw [hbound]⟩⟩
    · rintro ⟨rfl, hok⟩
      exact Bool.false_ne_true (hquiet.symm.trans hok)
    · rintro ⟨hbusy, rfl, -⟩
      exact hquiet.1 hbusy
  | @start y s' hopen hfree hphase hbound =>
    by_cases hy : x = y
    · subst hy
      exact .inl ⟨⟨rfl, rfl⟩, hbound⟩
    · rw [ResourceManager.phase?_insert, if_neg hy] at hx
      refine .inr ⟨by simp [Ne.symm hy], hx, .inr ⟨by simp, ?_⟩⟩
      simp [hbound, hfree, Ne.symm hy]
  -- `x` is still active afterwards, so it is not the branch the call prepared or resolved
  | @prepare y timeout s' hbranch hbusy hfree =>
    rw [ResourceManager.phase?_update hbranch] at hx
    split at hx
    · cases hx
    · rename_i hy
      refine .inr ⟨by simp, hx, .inr ⟨by simp, ?_⟩⟩
      simp [hbusy, hfree, Ne.symm hy]
  | @resolve how y s' hother hphase hbound =>
    rw [ResourceManager.phase?_resolve] at hx
    split at hx
    · cases hx
    · exact .inr ⟨by simp, hx, .inr ⟨by simp, by rw [hbound]⟩⟩
  | @discard op ok y s' hop hbusy hfree =>
    rw [ResourceManager.phase?_resolve] at hx
    split at hx
    · cases hx
    · rename_i hy
      have hbound : ¬s.bound = some x := by simp [hbusy, Ne.symm hy]
      refine .inr ⟨?_, hx, .inr ⟨fun h => hbound h.1, by simp [hfree, hbound]⟩⟩
      rintro ⟨rfl, -⟩
      simp at hop
  | @desert y s' hbusy hfree =>
    refine .inr ⟨by simp, hx, ?_⟩
    by_cases hy : x = y
    · subst hy
      exact .inl ⟨⟨rfl, rfl⟩, hbusy, hfree⟩
    · refine .inr ⟨fun h => hy ?_, by simp [hbusy, hfree, Ne.symm hy]⟩
      exact Option.some_inj.mp (h.1.symm.trans hbusy)

/-! ### Traces -/

/-- Whether each active branch has a session, unless it was deserted. -/
def Manned (w : Trace ResourceManager Session) : Prop :=
  ∀ x, w.world.phase? x = some .active →
    (w.events.Deserted x ∧ ∀ (i : Nat) s, w.facades[i]? = some s → s.bound ≠ some x) ∨
      (¬w.events.Deserted x ∧ ∃ i s, w.events.starter? x = some i ∧ w.facades[i]? = some s ∧
        s.bound = some x)

namespace Manned

variable {w w' : Trace ResourceManager Session}

theorem start : Manned { world := {} } := by
  intro x hx
  cases hx

theorem made (config : Config) (h : Manned w) :
    Manned { w with facades := w.facades ++ [{ config }] } := by
  intro x hx
  obtain ⟨hdeserted, hfree⟩ | ⟨hnot, i, s, hstarter, hs, hbound⟩ := h x hx
  · refine .inl ⟨hdeserted, fun i s hs => ?_⟩
    rcases getElem?_concat_eq_some hs with hs | rfl
    · exact hfree i s hs
    · exact nofun
  · refine .inr ⟨hnot, i, s, hstarter, ?_, hbound⟩
    rw [List.getElem?_append_left (List.getElem?_eq_some_iff.mp hs).1]
    exact hs

theorem called (op : Operation) {i : Nat} {s : Session} (hs : w.facades[i]? = some s)
    (hconcord : Concord w) (h : Manned w) :
    Manned (Trace.observe op (ResourceManager.backend.perform op) ⟨i, s⟩ w).world := by
  intro x hx
  have heffect := Session.effect_perform op (hconcord.sound i s hs)
  simp only [Trace.observe, map_unit] at hx ⊢
  generalize ResourceManager.backend.perform op s w.world = r at hx heffect ⊢
  have hself : (w.facades.set i r.facade)[i]? = some r.facade := by
    rw [List.getElem?_set_self (List.getElem?_eq_some_iff.mp hs).1]
  have hothers : ∀ {j : Nat} {t : Session}, j ≠ i →
      ((w.facades.set i r.facade)[j]? = some t ↔ w.facades[j]? = some t) := by
    intro j t hji
    rw [List.getElem?_set_ne (Ne.symm hji)]
  rw [History.deserted_cons, History.starter?_cons]
  obtain ⟨hstarts, hbound⟩ | ⟨hstarts, hactive, hcase⟩ := heffect.of_active hx
  · -- the branch was started just now
    refine .inr ⟨?_, i, r.facade, if_pos hstarts, hself, hbound⟩
    rintro (⟨⟨hop, -⟩, -⟩ | ⟨-, hnot⟩)
    · rw [hstarts.1] at hop
      cases hop
    · exact hnot hstarts
  have hkept := h x hactive
  obtain ⟨hdeserts, hbusy, hfree⟩ | ⟨hnot, hsame⟩ := hcase
  · -- the session was the one of the branch, and no other one has it
    obtain ⟨-, hnone⟩ | ⟨-, j, t, hstarter, ht, hbound⟩ := hkept
    · exact absurd hbusy (hnone i s hs)
    · have hij : j = i := hconcord.apart j i t s x ht hs hbound hbusy
      subst hij
      refine .inl ⟨.inl ⟨hdeserts, hstarter⟩, fun k u hu hx' => ?_⟩
      rcases getElem?_set_eq_some hu with ⟨rfl, rfl⟩ | ⟨hkj, hu⟩
      · rw [hfree] at hx'
        cases hx'
      · exact hkj (hconcord.apart k j u s x hu hs hx' hbusy)
  · obtain ⟨hdeserted, hnone⟩ | ⟨hdeserted, j, t, hstarter, ht, hbound⟩ := hkept
    · refine .inl ⟨.inr ⟨hdeserted, hstarts⟩, fun k u hu hx' => ?_⟩
      rcases getElem?_set_eq_some hu with ⟨rfl, rfl⟩ | ⟨-, hu⟩
      · exact hnone k s hs (hsame.mp hx')
      · exact hnone k u hu hx'
    · have hstill : ¬(Event.Deserts ⟨i, op, r.answer⟩ x ∧ w.events.starter? x = some i ∨
          w.events.Deserted x ∧ ¬Event.Starts ⟨i, op, r.answer⟩ x) := by
        rintro (⟨hdeserts, hi⟩ | ⟨hold, -⟩)
        · -- the session of the branch would be the one that was called
          obtain rfl : j = i := Option.some_inj.mp (hstarter.symm.trans hi)
          rw [hs] at ht
          cases ht
          exact hnot ⟨hbound, hdeserts⟩
        · exact hdeserted hold
      by_cases hji : j = i
      · subst hji
        rw [hs] at ht
        cases ht
        exact .inr ⟨hstill, j, r.facade, (if_neg hstarts).trans hstarter, hself, hsame.mpr hbound⟩
      · exact .inr ⟨hstill, j, t, (if_neg hstarts).trans hstarter, (hothers hji).mpr ht, hbound⟩

theorem step (hstep : Trace.Step ResourceManager.backend w w') (hconcord : Concord w)
    (h : Manned w) : Manned w' := by
  cases hstep with
  | made hmake =>
    cases hmake
    exact h.made _
  | notMade hmake => cases hmake
  | called op hs => exact h.called op hs hconcord

end Manned

/-! ### Runs -/

namespace Deployment

theorem countP_of_manned {D : Deployment Config (Numbered Session) (Trace ResourceManager Session)}
    (hstaffed : D.Staffed) (hmanned : Manned D.world) {x : Xid}
    (hx : D.world.world.phase? x = some .active) :
    (D.world.events.Deserted x →
      D.held.countP (fun t => t.value.isOpen ∧ t.value.bound = some x) = 0) ∧
    (¬D.world.events.Deserted x →
      D.held.countP (fun t => t.value.isOpen ∧ t.value.bound = some x) = 1) := by
  obtain ⟨hdeserted, hnone⟩ | ⟨hdeserted, i, s, -, hs, hbound⟩ := hmanned x hx
  · refine ⟨fun _ => List.countP_eq_zero.mpr fun t ht htx => ?_, fun h => absurd hdeserted h⟩
    have hcurrent := hstaffed.holds.current t ht
    exact hnone t.number t.value hcurrent (of_decide_eq_true htx).2
  · refine ⟨fun h => absurd h hdeserted, fun _ => ?_⟩
    have hheld : i ∈ D.held.map Numbered.number := by
      rcases hstaffed.attended i s hs with hfree | hmem
      · rw [hbound] at hfree
        cases hfree
      · exact hmem
    -- the sessions that count are those with the number of this one
    have hcount : D.held.countP (fun t => t.value.isOpen ∧ t.value.bound = some x) =
        D.held.countP (fun t => t.number == i) := by
      refine List.countP_congr fun t ht => ?_
      have hcurrent := hstaffed.holds.current t ht
      rw [decide_eq_true_eq, beq_iff_eq]
      constructor
      · rintro ⟨-, htx⟩
        exact hstaffed.concord.apart _ _ _ _ x hcurrent hs htx hbound
      · rintro rfl
        rw [hcurrent] at hs
        cases hs
        exact ⟨(hstaffed.concord.sound _ _ hcurrent x hbound).1, hbound⟩
    rw [hcount]
    have hnodup := List.count_eq_one_of_mem hstaffed.holds.nodup hheld
    rw [List.count, List.countP_map] at hnodup
    exact hnodup

/-- In every run of any number of providers and sessions over one manager, from a
manager without branches, in which no session is dropped before it is closed, an
active branch is bound to exactly one of the open sessions that somebody holds,
unless the session on which it was started last was to give up on it and failed:
then it is bound to none. -/
theorem custody_run (ms : List (Move Config Bool)) :
    let b := ResourceManager.backend
    let act := fun available (m : ResourceManager) => m.setAvailable available
    let D := run b.traced (Trace.lift act) ms { world := { world := {} } }
    let m := D.world.world
    let h := D.world.events
    Tidy b act ms { world := {} } →
      D.untraced = run b act ms { world := {} } ∧
        ∀ x, m.phase? x = some .active →
          (h.Deserted x → D.held.countP (fun t => t.value.isOpen ∧ t.value.bound = some x) = 0) ∧
          (¬h.Deserted x → D.held.countP (fun t => t.value.isOpen ∧ t.value.bound = some x) = 1) := by
  intro b act D m h htidy
  -- erasing the trace keeps a run tidy: what it drops is closed on either side
  have htraced : Tidy b.traced (Trace.lift act) ms { world := { world := {} } } :=
    Tidy.ofImage b.traced_translation (fun _ _ => rfl) ms htidy
  have hstaffed : D.Staffed := Staffed.start.run ms htraced
  obtain ⟨⟨-, hmanned⟩, -⟩ := trace_induction b act (I := fun w => Concord w ∧ Manned w)
    (fun w w' hstep hw => ⟨hw.1.step hstep, hw.2.step hstep hw.1⟩)
    (fun available w hw => ⟨hw.1.setAvailable available, hw.2⟩) ms {} ⟨.start {}, .start⟩
  exact ⟨untraced_run_eq b act ms {}, fun x hx => countP_of_manned hstaffed hmanned hx⟩

/-- A provider works on a branch, while another session starts a branch of its own,
is closed, and is dropped. -/
theorem custody_of_working_provider :
    let b := ResourceManager.backend
    let act := fun available (m : ResourceManager) => m.setAvailable available
    let x : Xid := ⟨1, [], [], by decide, by decide⟩
    let y : Xid := ⟨2, [], [], by decide, by decide⟩
    let ms : List (Move Config Bool) :=
      [.addProvider default, .callProvider 0 .openUp, .callProvider 0 (.start x),
        .addFacade default, .callFacade 0 .openUp, .callFacade 0 (.start y), .callFacade 0 .close,
        .dropFacade 0]
    let D := run b.traced (Trace.lift act) ms { world := { world := {} } }
    Tidy b act ms { world := {} } ∧ D.world.world.phase? x = some .active ∧
      ¬D.world.events.Deserted x ∧
        D.held.countP (fun t => t.value.isOpen ∧ t.value.bound = some x) = 1 := by
  intro b act x y ms D
  -- only the last move drops a facade, the one that was closed just before
  have hlast : ∀ f, (run b act (ms.take 7) { world := {} }).facades[0]? = some f →
      f.isOpen = false := by decide
  have htidy : Tidy b act ms { world := {} } := by
    simp only [ms, Tidy, Move.Tidy, true_and, and_true]
    exact hlast
  have hactive : D.world.world.phase? x = some .active := by decide
  have hdeserted : ¬D.world.events.Deserted x := by
    rintro ⟨later, e, earlier, heq, hdeserts, -⟩
    have hnone : ∀ e ∈ D.world.events, e.operation ≠ .finish .failAndRollback x := by decide
    exact hnone e (by simp [heq]) hdeserts.1
  have hheld := (custody_run ms htidy).2 x hactive
  have hcount := hheld.2 hdeserted
  exact ⟨htidy, hactive, hdeserted, hcount⟩

/-- A session gives up on its branch while the manager is away.  The session is
free then, and the branch is active still. -/
theorem orphan_of_outage :
    let b := ResourceManager.backend
    let act := fun available (m : ResourceManager) => m.setAvailable available
    let x : Xid := ⟨1, [], [], by decide, by decide⟩
    let ms : List (Move Config Bool) :=
      [.addFacade default, .callFacade 0 .openUp, .callFacade 0 (.start x), .environment false,
        .callFacade 0 (.finish .failAndRollback x)]
    let D := run b act ms { world := {} }
    Tidy b act ms { world := {} } ∧ D.world.phase? x = some .active ∧
      D.held.countP (fun s => s.isOpen ∧ s.bound = some x) = 0 := by
  intro b act x ms D
  exact ⟨⟨trivial, trivial, trivial, trivial, trivial, trivial⟩, by decide, by decide⟩

end Deployment

end BranchPool
