/-
A pool over a backend that follows the register, beside a pool over the register.

* `Provider.Mirrors` — whether two providers hold as many facades in the same places, and have
  counted the same; the entries of their maps may stand in different orders;
* `Provider.Matches` — whether two calls gave the same answer and leave mirrored providers;
* `Backend.Follows.run_matches` — every call does, unless it starts a branch that is prepared
  and has no facade;
* `Backend.Follows.transcript_eq` — so the same is seen in a whole run.
-/
import BranchPool.Proofs.Register
import BranchPool.Proofs.Provider.Transcript

namespace BranchPool

open Facade

variable {γ σ φ κ ε α β α' β' : Type} {linked : φ → Bool} {register : σ → Register}

theorem Facade.Reply.eq_of_parts {r r' : Facade.Reply φ σ α} (hanswer : r.answer = r'.answer)
    (hfacade : r.facade = r'.facade) (hworld : r.world = r'.world) : r = r' := by
  obtain ⟨_, _, _⟩ := r
  cases hanswer
  cases hfacade
  cases hworld
  rfl

/-! ### Pools -/

/-- Whether two pools hold facades in the same places. -/
structure Pool.Mirrors (linked : φ → Bool) (s : Pool φ) (s' : Pool Bool) : Prop where
  idle : s'.idle = s.idle.map linked
  bound : ∀ x, s'.bound.get? x = (s.bound.get? x).map linked
  active : s'.active = s.active

namespace Pool.Mirrors

variable {s : Pool φ} {s' : Pool Bool}

theorem empty : Mirrors linked ({} : Pool φ) {} := ⟨rfl, fun _ => rfl, rfl⟩

theorem contains (h : s.Mirrors linked s') (x : Xid) :
    s'.bound.contains x = s.bound.contains x := by
  rw [BranchMap.contains, BranchMap.contains, h.bound, Option.isSome_map]

theorem ofIdle (h : s.Mirrors linked s') (fs : List φ) :
    Mirrors linked { s with idle := fs } { s' with idle := fs.map linked } :=
  ⟨rfl, h.bound, h.active⟩

theorem bindActive (h : s.Mirrors linked s') (x : Xid) (f : φ) :
    (s.bindActive x f).Mirrors linked (s'.bindActive x (linked f)) := by
  refine ⟨h.idle, fun y => ?_, rfl⟩
  simp only [Pool.bindActive, BranchMap.get?_insert, h.bound y]
  split <;> rfl

theorem clearActive (h : s.Mirrors linked s') : s.clearActive.Mirrors linked s'.clearActive :=
  ⟨h.idle, h.bound, rfl⟩

theorem update (h : s.Mirrors linked s') (x : Xid) (f : φ) :
    Mirrors linked { s with bound := s.bound.update x f }
      { s' with bound := s'.bound.update x (linked f) } := by
  refine ⟨h.idle, fun y => ?_, h.active⟩
  simp only [BranchMap.get?_update, h.bound]
  split
  · cases s.bound.get? x <;> rfl
  · rfl

theorem without (h : s.Mirrors linked s') (x : Xid) :
    (s.without x).Mirrors linked (s'.without x) := by
  refine ⟨h.idle, fun y => ?_, ?_⟩
  · simp only [Pool.without, BranchMap.get?_erase, h.bound y]
    split <;> rfl
  · simp only [Pool.without, h.active]

theorem offerIdle (h : s.Mirrors linked s') (f : φ) :
    (s.offerIdle f).Mirrors linked (s'.offerIdle (linked f)) := by
  refine ⟨?_, h.bound, h.active⟩
  simp only [Pool.offerIdle, h.idle, List.map_append, List.map_cons, List.map_nil]

theorem arrange (h : s.Mirrors linked s') (order : List Xid) :
    Mirrors linked { s with bound := s.bound.arrange order } s' :=
  ⟨h.idle, fun x => by rw [BranchMap.get?_arrange, h.bound x], h.active⟩

theorem activeFacade? (h : s.Mirrors linked s') :
    s'.activeFacade? = s.activeFacade?.map fun e => (e.1, linked e.2) := by
  rw [Pool.activeFacade?, Pool.activeFacade?, h.active]
  cases s.active with
  | none => rfl
  | some x =>
    simp only [Option.bind_eq_bind, Option.bind_some, h.bound x]
    cases s.bound.get? x <;> rfl

end Pool.Mirrors

/-! ### Providers -/

namespace Provider

/-- Whether two providers have counted the same and hold facades in the same places. -/
inductive Mirrors (linked : φ → Bool) : Provider γ φ → Provider Unit Bool → Prop where
  | closed {factory tally} : Mirrors linked ⟨factory, none, tally⟩ ⟨(), none, tally⟩
  | opened {factory s s' tally} (h : s.Mirrors linked s') :
    Mirrors linked ⟨factory, some s, tally⟩ ⟨(), some s', tally⟩

/-- Whether two calls gave the same answer, as far as it is seen, and leave the same behind. -/
structure Matches (linked : φ → Bool) (register : σ → Register) (seen : α → β) (r : Reply γ φ σ α)
    (r' : Reply Unit Bool Register β) : Prop where
  answer : r'.answer = r.answer.map seen
  provider : Mirrors linked r.provider r'.provider
  world : r'.world = register r.world

namespace Mirrors

variable {p : Provider γ φ} {p' : Provider Unit Bool}

theorem active? (h : Mirrors linked p p') : p'.active? = p.active? := by
  cases h with
  | closed => rfl
  | opened hs => exact hs.active

theorem boundBranches (h : Mirrors linked p p') : p'.boundBranches = p.boundBranches := by
  cases h with
  | closed => rfl
  | opened hs => exact BranchMap.sortedKeys_congr hs.contains

theorem idleCount (h : Mirrors linked p p') : p'.idleCount = p.idleCount := by
  cases h with
  | closed => rfl
  | opened hs => exact (congrArg List.length hs.idle).trans (List.length_map _)

theorem tally (h : Mirrors linked p p') : p'.tally = p.tally := by
  cases h <;> rfl

theorem boundFacade? (h : Mirrors linked p p') (x : Xid) :
    p'.boundFacade? x = (p.boundFacade? x).map linked := by
  cases h with
  | closed => rfl
  | opened hs => exact hs.bound x

theorem reorder (h : Mirrors linked p p') (order : List Xid) :
    Mirrors linked (p.reorder order) p' := by
  cases h with
  | closed => exact .closed
  | opened hs => exact .opened (hs.arrange order)

end Mirrors

namespace Matches

variable {seen : α → β} {r : Reply γ φ σ α} {r' : Reply Unit Bool Register β}

/-- A call that both providers refuse. -/
theorem refuse {p : Provider γ φ} {p' : Provider Unit Bool} (h : Mirrors linked p p')
    (v : Violation) (seen : α → β) (w : σ) :
    Matches linked register seen (refuse v p w) (Provider.refuse v p' (register w)) :=
  ⟨rfl, h, rfl⟩

theorem map {seen' : α' → β'} {g : α → α'} {g' : β → β'} (h : Matches linked register seen r r')
    (hg : ∀ a, g' (seen a) = seen' (g a)) :
    Matches linked register seen' (r.map g) (r'.map g') := by
  refine ⟨?_, h.provider, h.world⟩
  simp only [Reply.map, h.answer]
  cases r.answer with
  | error e => rfl
  | ok a => exact congrArg Except.ok (hg a)

theorem concludeFinish {how : Finish} {x : Xid} {answer : Except Facade.Error Unit}
    {p : Provider γ φ} {p' : Provider Unit Bool} (h : Mirrors linked p p') (w : σ) :
    Matches linked register id (Provider.concludeFinish how x answer p w)
      (Provider.concludeFinish how x answer p' (register w)) := by
  cases answer with
  | ok u => exact ⟨rfl, by cases h <;> constructor; assumption, rfl⟩
  | error e => exact ⟨rfl, by cases h <;> constructor; assumption, rfl⟩

theorem observe {κ : Type} {r : Reply γ φ σ (Result κ)}
    {r' : Reply Unit Bool Register (Result Unit)} (h : Matches linked register Result.shown r r') :
    Provider.observe r' = Provider.observe r := by
  have hshown : r'.answer.map Result.shown = r.answer.map Result.shown := by
    rw [h.answer]
    cases r.answer with
    | error e => rfl
    | ok a =>
      cases a with
      | link link? => cases link? <;> rfl
      | _ => rfl
  simp only [Provider.observe, hshown, h.provider.active?, h.provider.boundBranches,
    h.provider.idleCount, h.provider.tally]

end Matches

theorem closeAll_register (fs : List Bool) (l : Register) :
    closeAll Register.backend fs l = ([], l) := by
  induction fs with
  | nil => rfl
  | cons f fs ih => exact ih

end Provider

/-! ### Calls -/

namespace Backend.Follows

open Provider

variable {b : Backend γ σ φ κ} {Sane : σ → Prop} {Busy : σ → Xid → Prop}
  {Fits : σ → Stage → φ → Prop} {R : List (φ × Stage)} {n d : Nat} {w : σ} {factory : γ}
  {s : Pool φ} {s' : Pool Bool} {tally : Tally} {p : Provider γ φ} {p' : Provider Unit Bool}
  (hfollows : b.Follows Sane Busy Fits linked register)

include hfollows

theorem makeFacade_eq (c : γ) (h : Kept Sane Busy Fits ⟨R, n, d, w⟩) :
    ∃ f w', makeFacade b c w = (.ok f, w') ∧ linked f = false ∧ register w' = register w := by
  obtain ⟨f, w', hcreate, hlinked, hregister, -⟩ := hfollows.create c h.sane
  have hduty : Duty b false ⟨R, n, d, w⟩ ⟨(f, .made) :: R, n, d, w'⟩ := .make hcreate
  have hmade := hfollows.kept_duty hduty h
  have hopen := Kept.answer hfollows hmade List.mem_cons_self .openUp trivial nofun
  obtain ⟨hanswer, hfacade, hworld⟩ := Facade.Reply.mk.inj hopen
  refine ⟨(b.openUp f w').facade, (b.openUp f w').world, ?_, hfacade.symm.trans hlinked,
    hworld.symm.trans hregister⟩
  have hok : (b.openUp f w').answer = .ok () := hanswer.symm
  simp only [makeFacade, hcreate, hok]

/-- Both pools give an idle facade, or make one. -/
theorem takeIdle_eq (h : Kept Sane Busy Fits (muster ⟨factory, some s, tally⟩ w))
    (hs : s.Mirrors linked s') :
    ∃ f rest tally' w', takeIdle b s ⟨factory, some s, tally⟩ w = (.ok (f, rest, tally'), w') ∧
      takeIdle Register.backend s' ⟨(), some s', tally⟩ (register w) =
        (.ok (linked f, rest.map linked, tally'), register w') ∧
      register w' = register w ∧
      Kept Sane Busy Fits ⟨(f, .idle) :: Pool.roster { s with idle := rest },
        tally'.facadesCreated, tally'.facadesDiscarded, w'⟩ := by
  -- what the call does to the roster, so that `Kept` still holds of the pool the facade left
  have hduties : Duties b false _ _ := duties_takeIdle s ⟨factory, some s, tally⟩ w
  have hkept := hfollows.kept_duties hduties h
  simp only [takeIdle, hs.idle] at hkept ⊢
  cases hidle : s.idle with
  | cons f rest =>
    simp only [hidle] at hkept
    exact ⟨f, rest, tally, w, rfl, rfl, rfl, hkept⟩
  -- the queue is empty on both sides, and the facade that is made is linked to nothing yet
  | nil =>
    obtain ⟨f, w', hmake, hlinked, hregister⟩ := hfollows.makeFacade_eq factory h
    simp only [hidle, hmake] at hkept
    refine ⟨f, [], tally.addCreated, w', by simp only [hmake], ?_, hregister, hkept⟩
    rw [hlinked, hregister]
    rfl

/-- Every facade in use can be closed, which leaves the prepared branches as they are. -/
theorem closeAll_eq (hheld : ∀ e ∈ R, e.2.IsHeld) (h : Kept Sane Busy Fits ⟨R, n, d, w⟩) :
    (closeAll b (R.map Prod.fst) w).1 = [] ∧
      register (closeAll b (R.map Prod.fst) w).2 = register w := by
  induction R generalizing w with
  | nil => exact ⟨rfl, rfl⟩
  | cons e R ih =>
    obtain ⟨f, q⟩ := e
    have hq : q.IsHeld := hheld (f, q) List.mem_cons_self
    have hpermits := hq.permits_close (Binds ((f, q) :: R))
    -- a permitted close is answered as by the register, and the register never fails one
    have hanswer := Kept.answer hfollows h List.mem_cons_self .close hpermits nofun
    obtain ⟨hok, -, hworld⟩ := Facade.Reply.mk.inj hanswer
    -- so `e` leaves the roster and the rest is closed in the world it leaves behind
    have hclose : (b.close f w).answer = .ok () := hok.symm
    have hduties : Duties b true ⟨(f, q) :: R, n, d, w⟩ ⟨R, n, d, (b.close f w).world⟩ :=
      Duties.lastCall (rfl : (b.perform .close f w).answer.isOk = _) hpermits (fun _ => .inr rfl)
        (by rw [hq.after_close]; trivial)
    have hkept := hfollows.kept_duties hduties h
    obtain ⟨hnone, hregister⟩ := ih (fun e he => hheld e (List.mem_cons_of_mem _ he)) hkept
    rw [List.map_cons, closeAll]
    simp only [hclose]
    exact ⟨hnone, hregister.trans hworld.symm⟩

theorem closeAll_facades (h : Kept Sane Busy Fits (p.muster w)) :
    (closeAll b p.facades w).1 = [] ∧ register (closeAll b p.facades w).2 = register w := by
  have hclose := hfollows.closeAll_eq (fun e he => isHeld_of_mem_roster (p := p) he) h
  rwa [map_fst_roster] at hclose

theorem openUp_matches (h : Kept Sane Busy Fits (p.muster w)) (hp : Mirrors linked p p') :
    Matches linked register id (p.openUp b w) (p'.openUp Register.backend (register w)) := by
  obtain ⟨-, hregister⟩ := hfollows.closeAll_facades h
  rw [Provider.openUp, Provider.openUp, hp.active?]
  cases p.active? with
  | some x => exact .refuse hp _ _ _
  | none =>
    dsimp only
    rw [closeAll_register]
    refine ⟨rfl, ?_, hregister.symm⟩
    cases hp <;> exact .opened .empty

theorem close_matches (h : Kept Sane Busy Fits (p.muster w)) (hp : Mirrors linked p p') :
    Matches linked register id (p.close b w) (p'.close Register.backend (register w)) := by
  cases hp with
  | closed => exact ⟨rfl, .closed, rfl⟩
  | @opened factory s s' tally hs =>
    -- no facade fails to close, so the two answers are alike
    obtain ⟨hnone, hregister⟩ := hfollows.closeAll_facades h
    have hfacades : facades ⟨factory, some s, tally⟩ = s.facades := rfl
    rw [hfacades] at hnone hregister
    simp only [Provider.close, closeAll_register, hnone, List.isEmpty_nil, if_true]
    exact ⟨rfl, .closed, hregister.symm⟩

theorem start_matches (h : Kept Sane Busy Fits (p.muster w)) (hp : Mirrors linked p p') {x : Xid}
    (hfresh : x ∈ register w → (p.boundFacade? x).isSome = true) :
    Matches linked register id (p.start b x w) (p'.start Register.backend x (register w)) := by
  cases hp with
  | closed => exact .refuse .closed _ _ _
  | @opened factory s s' tally hs =>
    have hp : Mirrors linked (⟨factory, some s, tally⟩ : Provider γ φ) ⟨(), some s', tally⟩ :=
      .opened hs
    simp only [Provider.start, hs.active, hs.contains]
    cases hactive : s.active with
    | some y => exact .refuse hp _ _ _
    | none =>
      dsimp only
      split
      · exact .refuse hp _ _ _
      rename_i hcontains
      obtain ⟨f, rest, tally', w', htake, htake', hregister, hkept⟩ := hfollows.takeIdle_eq h hs
      have hget : s.bound.get? x = none :=
        s.bound.contains_eq_false_iff.mp (by simpa using hcontains)
      -- the branch has no facade, and so is not prepared
      have hnew : x ∉ register w' := by
        rw [hregister]
        intro hx
        exact hcontains (hfresh hx)
      have hstart : Register.backend.start x (linked f) (register w') =
          (b.start x f w').image linked register :=
        Kept.answer hfollows hkept List.mem_cons_self (.start x)
          (not_binds_idle (s := { s with idle := rest }) hget) (by rintro _ ⟨⟩; exact hnew)
      have hok : (b.start x f w').answer = .ok () := (congrArg Facade.Reply.answer hstart).symm
      simp only [htake, htake', startOn, hstart, Facade.Reply.image, hok]
      exact ⟨rfl, .opened ((hs.ofIdle rest).bindActive x _), rfl⟩

theorem endAndPrepare_matches (h : Kept Sane Busy Fits (p.muster w)) (hp : Mirrors linked p p')
    (x : Xid) :
    Matches linked register id (p.endAndPrepare b x w)
      (p'.endAndPrepare Register.backend x (register w)) := by
  cases hp with
  | closed => exact .refuse .closed _ _ _
  | @opened factory s s' tally hs =>
    have hp : Mirrors linked (⟨factory, some s, tally⟩ : Provider γ φ) ⟨(), some s', tally⟩ :=
      .opened hs
    -- both sides compare with the same active branch and look up the same entry of the map
    simp only [Provider.endAndPrepare, hs.active, hs.bound]
    cases hactive : s.active with
    | none => exact .refuse hp _ _ _
    | some y =>
      dsimp only
      split
      swap
      · exact .refuse hp _ _ _
      rename_i hy
      subst hy
      cases hget : s.bound.get? y with
      | none => exact .refuse (.opened hs.clearActive) _ _ _
      | some f =>
        -- the branch is the active one, so its facade is at the stage that permits the call
        have hmem := Pool.mem_roster_of_bound hget
        rw [Pool.stageOf_active hactive] at hmem
        have hend : Register.backend.endAndPrepare y (linked f) (register w) =
            (b.endAndPrepare y f w).image linked register :=
          Kept.answer hfollows h hmem (.endAndPrepare y) rfl (by simp)
        have hok : (b.endAndPrepare y f w).answer = .ok () :=
          (congrArg Facade.Reply.answer hend).symm
        simp only [Option.map_some, hend, Facade.Reply.image, hok]
        exact ⟨rfl, .opened (hs.update y _).clearActive, rfl⟩

theorem finish_matches (h : Kept Sane Busy Fits (p.muster w)) (hp : Mirrors linked p p')
    (how : Finish) (x : Xid) :
    Matches linked register id (p.finish b how x w)
      (p'.finish Register.backend how x (register w)) := by
  cases hp with
  | closed => exact .refuse .closed _ _ _
  | @opened factory s s' tally hs =>
    simp only [Provider.finish, hs.active, Pool.unbind?_eq, hs.bound]
    split
    · exact .refuse (.opened hs) _ _ _
    rename_i hended
    cases hget : s.bound.get? x with
    | some f =>
      -- the facade of the branch goes to the tail of the queue
      have hfinish : Register.backend.finish how x (linked f) (register w) =
          (b.finish how x f w).image linked register :=
        Kept.answer hfollows h (Pool.mem_roster_of_bound hget) (.finish how x)
          (permits_finish hended) (by simp)
      simp only [Option.map_some, hfinish]
      exact .concludeFinish (.opened ((hs.without x).offerIdle _)) _
    | none =>
      -- the facade that is lent goes back to the head of the queue
      have hcount : Kept Sane Busy Fits (muster ⟨factory, some s, tally.addUnmapped⟩ w) := h
      obtain ⟨f, rest, tally', w', htake, htake', -, hkept⟩ := hfollows.takeIdle_eq hcount hs
      have hfinish : Register.backend.finish how x (linked f) (register w') =
          (b.finish how x f w').image linked register :=
        Kept.answer hfollows hkept List.mem_cons_self (.finish how x)
          (not_binds_idle (s := { s with idle := rest }) hget) (by simp)
      simp only [Option.map_none, peekIdle_andThen, htake, htake', hfinish]
      refine .concludeFinish (.opened ?_) _
      exact ⟨rfl, hs.bound, rfl⟩

theorem recover_matches (h : Kept Sane Busy Fits (p.muster w)) (hp : Mirrors linked p p') :
    Matches linked register id (p.recover b w) (p'.recover Register.backend (register w)) := by
  cases hp with
  | closed => exact .refuse .closed _ _ _
  | @opened factory s s' tally hs =>
    obtain ⟨f, rest, tally', w', htake, htake', -, hkept⟩ := hfollows.takeIdle_eq h hs
    have hrecover : Register.backend.perform .recover (linked f) (register w') =
        (b.perform .recover f w').image linked register :=
      Kept.answer hfollows hkept List.mem_cons_self .recover trivial nofun
    obtain ⟨-, hfacade, hworld⟩ := Facade.Reply.mk.inj hrecover
    have hok : (b.recover f w').answer = .ok (register w') :=
      hfollows.recover hkept.sane (hkept.fits _ List.mem_cons_self)
    -- the call goes to the facade that was taken, which the put and second look leave in front
    simp only [Provider.recover, peekIdle_andThen, htake, htake', hok]
    exact ⟨rfl, .opened ⟨congrArg (· :: rest.map linked) hfacade, hs.bound, hs.active⟩, hworld⟩

omit hfollows in
/-- A call on the facade of the active branch. -/
theorem withActive_matches (hp : Mirrors linked p p')
    (operation : String) (seen : α → β) (call : φ → σ → Facade.Reply φ σ α)
    (call' : Bool → Register → Facade.Reply Bool Register β)
    (hcall : ∀ x f, (f, .active x) ∈ p.roster →
      call' (linked f) (register w) = ((call f w).map seen).image linked register) :
    Matches linked register seen (withActive operation call p w)
      (withActive operation call' p' (register w)) := by
  cases hp with
  | closed => exact ⟨rfl, .closed, rfl⟩
  | @opened factory s s' tally hs =>
    simp only [withActive, hs.activeFacade?]
    cases hfacade : s.activeFacade? with
    | none => exact ⟨rfl, .opened hs, rfl⟩
    | some e =>
      obtain ⟨x, f⟩ := e
      obtain ⟨hactive, hget⟩ := Pool.activeFacade?_eq_some hfacade
      -- the lent facade is the active branch's, where every use of the connection is permitted
      have hmem := Pool.mem_roster_of_bound hget
      rw [Pool.stageOf_active hactive] at hmem
      simp only [Option.map_some, hcall x f hmem, Facade.Reply.image, Facade.Reply.map]
      refine ⟨?_, .opened (hs.update x _), rfl⟩
      cases (call f w).answer <;> rfl

theorem useData_matches (h : Kept Sane Busy Fits (p.muster w)) (hp : Mirrors linked p p')
    (use : DataUse) :
    Matches linked register Result.shown (Call.run b (.useData use) p w)
      (Call.run Register.backend (.useData use) p' (register w)) := by
  have hanswer : ∀ x f, (f, .active x) ∈ p.roster →
      Register.backend.perform (.useData use) (linked f) (register w) =
        (b.perform (.useData use) f w).image linked register := fun x f hmem =>
    Kept.answer hfollows h hmem (.useData use) trivial nofun
  -- the uses differ in what an answer shows: a connection is only compared as present or not
  cases use with
  | ask =>
    refine (withActive_matches hp "connection" (Option.map fun _ => ()) b.ask
      Register.backend.ask fun x f hmem => ?_).map fun _ => rfl
    obtain ⟨-, -, hworld⟩ := Facade.Reply.mk.inj (hanswer x f hmem)
    have hlink : (if linked f then some () else none) =
        (b.askConnection f w).1.map fun _ => () := by
      rw [← hfollows.ask f w]
      cases (b.askConnection f w).1 <;> rfl
    exact Facade.Reply.eq_of_parts (congrArg Except.ok hlink) rfl hworld
  | check =>
    refine (withActive_matches hp "is_connection_valid" id b.isConnectionValid
      Register.backend.isConnectionValid fun x f hmem => ?_).map fun _ => rfl
    obtain ⟨-, hfacade, hworld⟩ := Facade.Reply.mk.inj (hanswer x f hmem)
    have hok : (b.isConnectionValid f w).answer = .ok (linked f) :=
      hfollows.check h.sane (h.fits _ hmem)
    refine Facade.Reply.eq_of_parts ?_ hfacade hworld
    simp only [Facade.Reply.image, Facade.Reply.map, hok]
    rfl
  | establish =>
    refine (withActive_matches hp "get_or_establish_connection" (fun _ => ())
      b.establishConnection Register.backend.establishConnection
      fun x f hmem => ?_).map fun _ => rfl
    exact hanswer x f hmem
  | drop =>
    refine (withActive_matches hp "close_connection" id b.drop Register.backend.drop
      fun x f hmem => ?_).map fun _ => rfl
    exact hanswer x f hmem
  | reestablish =>
    refine (withActive_matches hp "reestablish_connection" (fun _ => ())
      b.reestablishConnection Register.backend.reestablishConnection
      fun x f hmem => ?_).map fun _ => rfl
    exact hanswer x f hmem

/-- Every call gives the same answer and leaves the same behind, unless it starts a branch that
is prepared and has no facade. -/
theorem run_matches (h : Kept Sane Busy Fits (p.muster w)) (hp : Mirrors linked p p')
    (c : Provider.Call)
    (hfresh : ∀ x, c = .start x → x ∈ register w → (p.boundFacade? x).isSome = true) :
    Matches linked register Result.shown (c.run b p w)
      (c.run Register.backend p' (register w)) := by
  cases c with
  | openUp => exact (hfollows.openUp_matches h hp).map fun _ => rfl
  | close => exact (hfollows.close_matches h hp).map fun _ => rfl
  | start x => exact (hfollows.start_matches h hp (hfresh x rfl)).map fun _ => rfl
  | endAndPrepare x => exact (hfollows.endAndPrepare_matches h hp x).map fun _ => rfl
  | finish how x => exact (hfollows.finish_matches h hp how x).map fun _ => rfl
  | recover => exact (hfollows.recover_matches h hp).map fun _ => rfl
  | useData use => exact hfollows.useData_matches h hp use

/-! ### Runs -/

/-- What is seen in a run is what is seen over the register, where the entries of the branch map
never change their order. -/
theorem transcript_eq (ms : List (Move Empty)) (h : Kept Sane Busy Fits (p.muster w))
    (hp : Mirrors linked p p') :
    let run' : List (Move Empty) := (calls ms).map .call
    (StartsFresh b Empty.elim register ms ⟨p, w⟩ ↔
      StartsFresh Register.backend Empty.elim id run' ⟨p', register w⟩) ∧
    (StartsFresh b Empty.elim register ms ⟨p, w⟩ →
      transcript b Empty.elim ms ⟨p, w⟩ =
        transcript Register.backend Empty.elim run' ⟨p', register w⟩) := by
  induction ms generalizing p w p' with
  | nil => exact ⟨Iff.rfl, fun _ => rfl⟩
  | cons m ms ih =>
    cases m with
    | environment e => exact e.elim
    | reorder order =>
      -- only one of the two maps takes another order, and they mirror each other still
      have hduty : Duty b false (p.muster w) ((p.reorder order).muster w) :=
        .regroup (roster_reorder p order)
      exact ih (hfollows.kept_duty hduty h) (hp.reorder order)
    | call c =>
      have hkept := hfollows.kept_duties (run_duties c p w) h
      have hbound : ∀ x, (p'.boundFacade? x).isSome = (p.boundFacade? x).isSome := fun x => by
        rw [hp.boundFacade?, Option.isSome_map]
      -- both runs go on alike after a call that may be made
      have hstep : (∀ x, c = .start x → x ∈ register w → (p.boundFacade? x).isSome = true) → _ :=
        fun hfresh => hfollows.run_matches h hp c hfresh
      simp only [calls, List.map_cons, StartsFresh, transcript, Move.apply, hbound, id_eq]
      constructor
      · refine and_congr_right fun hfresh => ?_
        rw [(hstep hfresh).world]
        exact (ih hkept (hstep hfresh).provider).1
      · rintro ⟨hfresh, hrest⟩
        rw [(hstep hfresh).observe, (hstep hfresh).world]
        exact congrArg _ ((ih hkept (hstep hfresh).provider).2 hrest)

end Backend.Follows

/-- Two backends that follow the register, and begin with the same branches prepared and none in
use, show the same in the same calls. -/
theorem Provider.transcript_congr {γ' σ' φ' κ' : Type} {b : Backend γ σ φ κ}
    {b' : Backend γ' σ' φ' κ'} {Sane : σ → Prop} {Busy : σ → Xid → Prop}
    {Fits : σ → Stage → φ → Prop} {linked : φ → Bool} {register : σ → Register} {Sane' : σ' → Prop}
    {Busy' : σ' → Xid → Prop} {Fits' : σ' → Stage → φ' → Prop} {linked' : φ' → Bool}
    {register' : σ' → Register} (hfollows : b.Follows Sane Busy Fits linked register)
    (hfollows' : b'.Follows Sane' Busy' Fits' linked' register') {ms ms' : List (Move Empty)}
    (hcalls : calls ms = calls ms') {w : σ} {w' : σ'} (hregister : register w = register' w')
    (hsane : Sane w) (hsane' : Sane' w') (hidle : ∀ x, ¬Busy w x) (hidle' : ∀ x, ¬Busy' w' x)
    (factory : γ) (factory' : γ')
    (hfresh : StartsFresh b Empty.elim register ms ⟨.ofFactory factory, w⟩) :
    transcript b Empty.elim ms ⟨.ofFactory factory, w⟩ =
      transcript b' Empty.elim ms' ⟨.ofFactory factory', w'⟩ := by
  have hkept : Backend.Follows.Kept Sane Busy Fits ((ofFactory factory).muster w) :=
    .start hsane hidle
  have hkept' : Backend.Follows.Kept Sane' Busy' Fits' ((ofFactory factory').muster w') :=
    .start hsane' hidle'
  -- each transcript equals the register's, and both register runs start from the same one
  obtain ⟨hiff, hseen⟩ := hfollows.transcript_eq ms hkept .closed
  obtain ⟨hiff', hseen'⟩ := hfollows'.transcript_eq ms' hkept' .closed
  rw [← hcalls, ← hregister] at hiff' hseen'
  rw [hseen hfresh]
  exact (hseen' (hiff'.mpr (hiff.mp hfresh))).symm

end BranchPool
