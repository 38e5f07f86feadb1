/-
The data connections of the sessions of one manager.

* `DataEvent` — a call on a facade with the data connection that it gave out;
* `DataHistory.carried`, `DataHistory.created` — the data connection that a facade carries,
  and all that were ever created, by the calls so far;
* `Session.Keeps` — what a call does to the data connection of a session and to the count
  of the manager;
* `Deployment.connections_run` — so in every run each data connection has a number of its
  own, and a session gives out the one that it carries until it is closed or told to drop it.

Design note: the history is all that these notions look at.  That a session really carries
what its history says is a statement about the run.
-/
import BranchPool.Proofs.Noted
import BranchPool.Proofs.ResourceManager.Frame

namespace BranchPool

open Facade

variable {γ σ φ κ : Type}

/-! ### Histories of data connections -/

/-- The data connection that a call gives out. -/
def Backend.granted (b : Backend γ σ φ κ) : Operation → φ → σ → Option κ
  | .useData .ask, f, w => (b.askConnection f w).1
  | .useData .establish, f, w => (b.establishConnection f w).answer.toOption
  | .useData .reestablish, f, w => (b.reestablishConnection f w).answer.toOption
  | _, _, _ => none

/-- A call that a facade received, its answer less the result, and the data connection that
it gave out. -/
structure DataEvent (κ : Type) extends Event where
  granted : Option κ

namespace DataEvent

/-- The data connection that the facade carries after a call, by the one that it carried
before. -/
def carries (e : DataEvent κ) (before : Option κ) : Option κ :=
  match e.operation with
  | .close => none
  | .useData .drop => none
  | .useData .establish => e.granted.or before
  | .useData .reestablish => e.granted.or before
  | _ => before

/-- The data connection that a call creates, by the one that the facade carried before. -/
def creates (e : DataEvent κ) (before : Option κ) : Option κ :=
  match e.operation with
  | .useData .establish => if before.isSome then none else e.granted
  | .useData .reestablish => e.granted
  | _ => none

/-- Whether the facade is open after a call, by whether it was open before. -/
def opens (e : DataEvent κ) (before : Bool) : Bool :=
  match e.operation with
  | .openUp => before || e.answer.isOk
  | .close => false
  | _ => before

end DataEvent

/-- The calls so far with the data connections that they gave out, the latest first. -/
abbrev DataHistory (κ : Type) := List (DataEvent κ)

namespace DataHistory

/-- The data connection that a facade carries: the latest one that was made for it, unless
the facade was closed since then or told to drop it. -/
def carried : DataHistory κ → Nat → Option κ
  | [], _ => none
  | e :: h, i => if e.facade = i then e.carries (carried h i) else carried h i

/-- The data connections that were created, the earliest first. -/
def created : DataHistory κ → List κ
  | [] => []
  | e :: h => created h ++ (e.creates (carried h e.facade)).toList

/-- Whether a facade is open. -/
def isOpen : DataHistory κ → Nat → Bool
  | [], _ => false
  | e :: h, i => if e.facade = i then e.opens (isOpen h i) else isOpen h i

end DataHistory

/-- What a session tells of its data connection when it is called, by the one that it
carries and whether it is open. -/
structure DataEvent.Faithful (e : DataEvent DataLink) (before : Option DataLink) (isOpen : Bool) :
    Prop where
  /-- A data connection that exists is given out again. -/
  established : e.operation = .useData .establish → ∀ l, before = some l →
    e.answer = .ok () ∧ e.granted = some l
  /-- Whoever wants a data connection of an open session gets one. -/
  answered : e.operation = .useData .establish ∨ e.operation = .useData .reestablish →
    if isOpen then e.answer = .ok () ∧ e.granted.isSome = true
    else e.answer = .error .closed ∧ e.granted = none
  asked : e.operation = .useData .ask → e.granted = before

/-- A trace with the data connections that were given out, as a history. -/
def Trace.dataHistory (w : Trace (Noted σ (Option κ)) φ) : DataHistory κ :=
  List.zipWith DataEvent.mk w.events w.world.notes

/-! ### Calls on a session -/

namespace Session

/-- A call on a session as an event. -/
def dataEvent (i : Nat) (op : Operation) (s : Session) (m : ResourceManager) : DataEvent DataLink :=
  ⟨⟨i, op, (ResourceManager.backend.perform op s m).answer⟩, ResourceManager.backend.granted op s m⟩

/-- What a call on a session does to its data connection, and how it counts. -/
structure Keeps (e : DataEvent DataLink) (s : Session) (m : ResourceManager) (s' : Session)
    (m' : ResourceManager) : Prop where
  link : s'.link = e.carries s.link
  isOpen : s'.isOpen = e.opens s.isOpen
  /-- What is created gets the next number. -/
  number : (e.creates s.link).toList.map (·.id) =
    List.range' (m.lastConnectionId + 1) (e.creates s.link).toList.length
  count : m'.lastConnectionId = m.lastConnectionId + (e.creates s.link).toList.length
  faithful : e.Faithful s.link s.isOpen

variable {s : Session} {m : ResourceManager}

theorem Steady.keeps {α : Type} {e : DataEvent DataLink} {r : Reply α} (h : Steady s m r)
    (hcarries : e.carries s.link = s.link) (hopens : e.opens s.isOpen = s.isOpen)
    (hcreates : e.creates s.link = none) (hfaithful : e.Faithful s.link s.isOpen) :
    Keeps e s m r.facade r.world where
  link := h.link.trans hcarries.symm
  isOpen := h.isOpen.trans hopens.symm
  number := by rw [hcreates]; rfl
  count := by rw [hcreates]; exact h.lastConnectionId
  faithful := hfaithful

/-- A session that carries a data connection is open. -/
def Linked (s : Session) : Prop := s.link ≠ none → s.isOpen = true

theorem keeps_establish (hlinked : s.Linked) (i : Nat) (m : ResourceManager) :
    Keeps (dataEvent i (.useData .establish) s m) s m (s.establish m).facade
      (s.establish m).world := by
  obtain ⟨config, isOpen, bound, link⟩ := s
  cases isOpen with
  | false =>
    cases link with
    | none => exact ⟨rfl, rfl, rfl, rfl, ⟨nofun, fun _ => ⟨rfl, rfl⟩, nofun⟩⟩
    | some l => cases hlinked nofun
  | true =>
    cases link with
    | none => exact ⟨rfl, rfl, rfl, rfl, ⟨nofun, fun _ => ⟨rfl, rfl⟩, nofun⟩⟩
    | some l =>
      -- what is given out is what was carried, so the count stands still
      refine ⟨rfl, rfl, rfl, rfl, ⟨?_, fun _ => ⟨rfl, rfl⟩, nofun⟩⟩
      rintro - _ ⟨⟩
      exact ⟨rfl, rfl⟩

theorem keeps_reestablish (i : Nat) (s : Session) (m : ResourceManager) :
    Keeps (dataEvent i (.useData .reestablish) s m) s m (s.reestablish m).facade
      (s.reestablish m).world := by
  obtain ⟨config, isOpen, bound, link⟩ := s
  cases isOpen with
  | false => exact ⟨rfl, rfl, rfl, rfl, ⟨nofun, fun _ => ⟨rfl, rfl⟩, nofun⟩⟩
  | true => exact ⟨rfl, rfl, rfl, rfl, ⟨nofun, fun _ => ⟨rfl, rfl⟩, nofun⟩⟩

theorem keeps_openUp (i : Nat) (s : Session) (m : ResourceManager) :
    Keeps (dataEvent i .openUp s m) s m (s.openUp m).facade (s.openUp m).world := by
  obtain ⟨config, isOpen, bound, link⟩ := s
  cases isOpen with
  | true => exact ⟨rfl, rfl, rfl, rfl, ⟨nofun, nofun, nofun⟩⟩
  | false =>
    obtain ⟨branches, outcomes, available, opened, count⟩ := m
    cases available <;> exact ⟨rfl, rfl, rfl, rfl, ⟨nofun, nofun, nofun⟩⟩

theorem keeps_close (i : Nat) (s : Session) (m : ResourceManager) :
    Keeps (dataEvent i .close s m) s m (s.close m).facade (s.close m).world := by
  refine ⟨rfl, rfl, rfl, ?_, ⟨nofun, nofun, nofun⟩⟩
  rw [close]
  cases s.bound with
  | none => rfl
  | some x =>
    obtain ⟨_, _, habandon⟩ := m.abandon_eq x
    show (m.abandon x).lastConnectionId = _
    rw [habandon]
    rfl

theorem keeps_perform (hlinked : s.Linked) (i : Nat) (op : Operation) (m : ResourceManager) :
    let r := ResourceManager.backend.perform op s m
    Keeps (dataEvent i op s m) s m r.facade r.world := by
  -- the calls on branches are steady; the others open, close, or have to do with the link
  cases op with
  | openUp => exact keeps_openUp i s m
  | close => exact keeps_close i s m
  | start x => exact (steady_start x s m).keeps rfl rfl rfl ⟨nofun, nofun, nofun⟩
  | endAndPrepare x => exact (steady_endAndPrepare x s m).keeps rfl rfl rfl ⟨nofun, nofun, nofun⟩
  | finish how x => exact (steady_finish how x s m).keeps rfl rfl rfl ⟨nofun, nofun, nofun⟩
  | recover =>
    exact (steady_perform (.inr rfl) s m).keeps rfl rfl rfl ⟨nofun, nofun, nofun⟩
  | useData use =>
    cases use with
    | ask => exact ⟨rfl, rfl, rfl, rfl, ⟨nofun, nofun, fun _ => rfl⟩⟩
    | check => exact ⟨rfl, rfl, rfl, rfl, ⟨nofun, nofun, nofun⟩⟩
    | establish => exact keeps_establish hlinked i m
    | drop => exact ⟨rfl, rfl, rfl, rfl, ⟨nofun, nofun, nofun⟩⟩
    | reestablish => exact keeps_reestablish i s m

theorem Keeps.linked {e : DataEvent DataLink} {s' : Session} {m' : ResourceManager}
    (h : Keeps e s m s' m') (hlinked : s.Linked) : s'.Linked := by
  intro hlink
  rw [h.link] at hlink
  have hopen : s.isOpen = true := by
    by_contra hclosed
    -- a closed session carries nothing and gets nothing
    have hnone : s.link = none := by_contra fun hne => hclosed (hlinked hne)
    have hanswered := h.faithful.answered
    rw [if_neg hclosed] at hanswered
    refine hlink ?_
    rw [DataEvent.carries, hnone]
    split
    · rfl
    · rfl
    · next hop => rw [(hanswered (.inl hop)).2]; rfl
    · next hop => rw [(hanswered (.inr hop)).2]; rfl
    · rfl
  rw [h.isOpen, hopen]
  rw [DataEvent.opens]
  split
  · rfl
  · next hop => simp [DataEvent.carries, hop] at hlink
  · rfl

end Session

/-! ### Runs -/

namespace DataHistory

section Views

variable {α β : Type} (d : β) (g : α → β)

theorem elim_append {a : α} (ha : g a = d) (l : List α) (i : Nat) :
    (l ++ [a])[i]?.elim d g = l[i]?.elim d g := by
  rw [List.getElem?_append]
  split
  · rfl
  · next hlt =>
    rw [List.getElem?_eq_none (Nat.not_lt.mp hlt)]
    cases i - l.length with
    | zero => exact ha
    | succ n => rfl

theorem elim_set {l : List α} {i : Nat} (hi : i < l.length) (a : α) (j : Nat) :
    (l.set i a)[j]?.elim d g = if i = j then g a else l[j]?.elim d g := by
  rw [List.getElem?_set, if_pos hi]
  split
  · rfl
  · rfl

end Views

/-- Whether sessions carry what their history says, and the manager has counted what was
created, beginning after the given number. -/
structure Kept (last : Nat) (w : Trace (Noted ResourceManager (Option DataLink)) Session) :
    Prop where
  complete : w.dataHistory.map (·.toEvent) = w.events
  carried : ∀ i, w.facades[i]?.elim none Session.link = w.dataHistory.carried i
  isOpen : ∀ i, w.facades[i]?.elim false Session.isOpen = w.dataHistory.isOpen i
  linked : ∀ s ∈ w.facades, s.Linked
  number : w.dataHistory.created.map (·.id) =
    List.range' (last + 1) w.dataHistory.created.length
  count : w.world.world.lastConnectionId = last + w.dataHistory.created.length
  faithful : ∀ e earlier, (e :: earlier) <:+ w.dataHistory →
    e.Faithful (DataHistory.carried earlier e.facade) (DataHistory.isOpen earlier e.facade)

variable {last : Nat} {w w' : Trace (Noted ResourceManager (Option DataLink)) Session}

theorem Kept.start (manager : ResourceManager) :
    Kept manager.lastConnectionId { world := { world := manager } } where
  complete := rfl
  carried _ := rfl
  isOpen _ := rfl
  linked := nofun
  number := rfl
  count := rfl
  faithful e earlier hsuffix := by cases List.suffix_nil.mp hsuffix

theorem Kept.setAvailable (h : Kept last w) (available : Bool) :
    Kept last (Trace.lift
      (Noted.lift fun available (m : ResourceManager) => m.setAvailable available) available w) where
  complete := h.complete
  carried := h.carried
  isOpen := h.isOpen
  linked := h.linked
  number := h.number
  count := h.count
  faithful := h.faithful

/-- A session is made closed and carries nothing. -/
theorem Kept.make (h : Kept last w) (config : Config) :
    Kept last { w with facades := w.facades ++ [{ config }] } where
  complete := h.complete
  -- the new facade is the last one and has neither link nor history
  carried i := (elim_append none Session.link rfl w.facades i).trans (h.carried i)
  isOpen i := (elim_append false Session.isOpen rfl w.facades i).trans (h.isOpen i)
  linked s hs := by
    rcases List.mem_append.mp hs with hs | hs
    · exact h.linked s hs
    · cases List.mem_singleton.mp hs
      exact nofun
  number := h.number
  count := h.count
  faithful := h.faithful

theorem dataHistory_observe (op : Operation) (i : Nat) (s : Session)
    (w : Trace (Noted ResourceManager (Option DataLink)) Session) :
    (Trace.observe op
      ((ResourceManager.backend.annotated ResourceManager.backend.granted).perform op) ⟨i, s⟩
        w).world.dataHistory = s.dataEvent i op w.world.world :: w.dataHistory := by
  rw [Backend.perform_annotated]
  simp only [Trace.dataHistory, Trace.observe, Observer.watch, map_unit]
  rfl

/-- One more call on one of the sessions, whichever call it is. -/
theorem Kept.extend (h : Kept last w) {e : DataEvent DataLink} {s s' : Session}
    (hs : w.facades[e.facade]? = some s) (hkeeps : s.Keeps e w.world.world s' w'.world.world)
    (hhistory : w'.dataHistory = e :: w.dataHistory) (hevents : w'.events = e.toEvent :: w.events)
    (hfacades : w'.facades = w.facades.set e.facade s') : Kept last w' := by
  obtain ⟨hi, -⟩ := List.getElem?_eq_some_iff.mp hs
  have hcarried : s.link = w.dataHistory.carried e.facade := by rw [← h.carried, hs]; rfl
  have hisOpen : s.isOpen = w.dataHistory.isOpen e.facade := by rw [← h.isOpen, hs]; rfl
  have hcreated : w'.dataHistory.created = w.dataHistory.created ++ (e.creates s.link).toList := by
    rw [hhistory, created, hcarried]
  constructor
  · rw [hhistory, hevents, List.map_cons, h.complete]
  · intro i
    rw [hfacades, elim_set _ _ hi, hhistory, DataHistory.carried, ← h.carried i]
    split
    · next heq => rw [← heq, hs, hkeeps.link]; rfl
    · rfl
  · intro i
    rw [hfacades, elim_set _ _ hi, hhistory, DataHistory.isOpen, ← h.isOpen i]
    split
    · next heq => rw [← heq, hs, hkeeps.isOpen]; rfl
    · rfl
  · intro t ht
    rw [hfacades] at ht
    rcases List.mem_or_eq_of_mem_set ht with ht | rfl
    · exact h.linked t ht
    · exact hkeeps.linked (h.linked s (List.mem_of_getElem? hs))
  · -- the numbers go on where they stopped
    have hnumber := hkeeps.number
    rw [h.count, Nat.add_right_comm] at hnumber
    rw [hcreated, List.map_append, h.number, hnumber, List.length_append, List.range'_append_1]
  · rw [hkeeps.count, h.count, hcreated, List.length_append, Nat.add_assoc]
  · intro e' earlier hsuffix
    rw [hhistory, List.suffix_cons_iff] at hsuffix
    obtain heq | hsuffix := hsuffix
    · obtain ⟨rfl, rfl⟩ := List.cons.inj heq
      rw [← hcarried, ← hisOpen]
      exact hkeeps.faithful
    · exact h.faithful e' earlier hsuffix

theorem Kept.call (h : Kept last w) (op : Operation) {i : Nat} {s : Session}
    (hs : w.facades[i]? = some s) :
    Kept last (Trace.observe op
      ((ResourceManager.backend.annotated ResourceManager.backend.granted).perform op) ⟨i, s⟩
        w).world := by
  have hkeeps := Session.keeps_perform (h.linked s (List.mem_of_getElem? hs)) i op w.world.world
  have hhistory := dataHistory_observe op i s w
  rw [Backend.perform_annotated] at hhistory ⊢
  refine h.extend hs hkeeps hhistory ?_ rfl
  rw [Trace.observe, Observer.watch, map_unit]
  rfl

theorem Kept.step (hstep : Trace.Step
      (ResourceManager.backend.annotated ResourceManager.backend.granted) w w')
    (h : Kept last w) : Kept last w' := by
  cases hstep with
  | made hcreate =>
    cases hcreate
    exact h.make _
  | notMade hcreate => cases hcreate
  | called op hs => exact h.call op hs

theorem Kept.pairwise (h : Kept last w) :
    w.dataHistory.created.Pairwise fun l l' => l.id < l'.id := by
  have hids : (w.dataHistory.created.map (·.id)).Pairwise (· < ·) := by
    rw [h.number]
    exact List.pairwise_lt_range'
  exact List.pairwise_map.mp hids

theorem created_mono {earlier h : DataHistory κ} (hsuffix : earlier <:+ h) :
    earlier.created <+: h.created := by
  induction h with
  | nil =>
    cases List.suffix_nil.mp hsuffix
    exact List.prefix_rfl
  | cons e h ih =>
    obtain rfl | hsuffix := List.suffix_cons_iff.mp hsuffix
    · exact List.prefix_rfl
    · exact (ih hsuffix).trans (List.prefix_append _ _)

/-- What is created has a greater number than all that was created before. -/
theorem Kept.newer (h : Kept last w) {e : DataEvent DataLink} {earlier : DataHistory DataLink}
    (hsuffix : (e :: earlier) <:+ w.dataHistory) {l : DataLink}
    (hl : e.creates (earlier.carried e.facade) = some l) :
    ∀ l' ∈ earlier.created, l'.id < l.id := by
  have hpairwise := h.pairwise.sublist (created_mono hsuffix).sublist
  rw [created, hl] at hpairwise
  exact fun l' hl' => (List.pairwise_append.mp hpairwise).2.2 l' hl' l List.mem_cons_self

end DataHistory

/-- In every run of providers, and of sessions that are used directly, over one manager, the
data connections are numbered one by one as they are created.  A session that carries one gives
it out again and has none created, until it is closed or told to drop it; one that is to be
made anew has a greater number than all before.  The calls that work on branches leave every
session with the data connection that it carries, whether they succeed or not, and so it is
with the idle sessions of a provider. -/
theorem Deployment.connections_run (ms : List (Move Config Bool)) (manager : ResourceManager) :
    let b := ResourceManager.backend
    let act := fun available (m : ResourceManager) => m.setAvailable available
    let D := run (b.annotated b.granted).traced (Trace.lift (Noted.lift act)) ms
      { world := { world := { world := manager } } }
    let h := D.world.dataHistory
    (D.untraced.unnoted = run b act ms { world := manager } ∧
        h.map (·.toEvent) = D.world.events) ∧
      (h.created.map (·.id) = List.range' (manager.lastConnectionId + 1) h.created.length ∧
        h.created.Pairwise (fun l l' => l.id < l'.id) ∧
        (run b act ms { world := manager }).world.lastConnectionId =
          manager.lastConnectionId + h.created.length) ∧
      (∀ e (earlier : DataHistory DataLink), (e :: earlier) <:+ h →
        e.Faithful (earlier.carried e.facade) (earlier.isOpen e.facade) ∧
          (e.operation = .useData .reestablish → ∀ l, e.granted = some l →
            ∀ l' ∈ earlier.created, l'.id < l.id)) ∧
      ∀ t ∈ D.held, t.value.link = h.carried t.number ∧
        ∀ op, op.branch? ≠ none ∨ op = .recover →
          ∀ m, (b.perform op t.value m).facade.link = t.value.link := by
  intro b act D h
  obtain ⟨hkept, hholds⟩ := trace_induction (b.annotated b.granted) (Noted.lift act)
    (I := DataHistory.Kept manager.lastConnectionId) (fun _ _ hstep hw => hw.step hstep)
    (fun available _ hw => hw.setAvailable available) ms { world := manager } (.start manager)
  -- two erasures: the trace first, then the notes on what each call was granted
  have hplain : D.untraced.unnoted = run b act ms { world := manager } := by
    rw [← unnoted_run b (fun op f _ w _ => b.granted op f w) act ms manager]
    exact congrArg unnoted
      (untraced_run_eq (b.annotated b.granted) (Noted.lift act) ms { world := manager })
  refine ⟨⟨hplain, hkept.complete⟩, ⟨hkept.number, hkept.pairwise, ?_⟩, ?_, ?_⟩
  · rw [← hplain]
    exact hkept.count
  · refine fun e earlier hsuffix => ⟨hkept.faithful e earlier hsuffix, fun hop l hl => ?_⟩
    have hcreates : e.creates (earlier.carried e.facade) = some l := by
      rw [DataEvent.creates, hop]
      exact hl
    exact hkept.newer hsuffix hcreates
  · intro t ht
    have hcarried := hkept.carried t.number
    rw [hholds.current t ht] at hcarried
    exact ⟨hcarried, fun op hop m => (Session.steady_perform hop t.value m).link⟩

end BranchPool
