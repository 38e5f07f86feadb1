/-
Which failures sessions report.

A connection that is closed, or busy with another branch, or not bound to the
branch that it should end, has been used in the wrong way.

* `Facade.Proper` — whether an answer is no complaint about misuse;
* `Session.proper_perform` — a session complains only if it is not open, or is
  asked to start a branch or to end one at the wrong time.
-/
import BranchPool.Proofs.Provider.Run
import BranchPool.Proofs.ResourceManager.Verdict

namespace BranchPool

open Facade

/-- Whether a failure says that the connection was used in the wrong way. -/
def Facade.Error.IsMisuse : Facade.Error → Prop
  | .closed => True
  | .busy _ _ => True
  | .rejected (.notBound _) => True
  | .rejected (.notBoundTo _ _) => True
  | _ => False

/-- Whether an answer is no complaint about misuse. -/
def Facade.Proper {α : Type} (answer : Except Facade.Error α) : Prop :=
  ∀ e, answer = .error e → ¬e.IsMisuse

/-! ### Answers of a manager -/

namespace ResourceManager

variable {m : ResourceManager} {x : Xid}

theorem proper_connect? : Proper m.connect? := by
  rintro e he
  rw [connect?] at he
  split at he <;> cases he
  exact id

theorem proper_scan? : Proper m.scan? := by
  rintro e he
  rw [scan?] at he
  split at he <;> cases he
  exact id

theorem proper_begin? {timeout : Option Timeout} : Proper (m.begin? x timeout) := by
  rintro e he
  rw [begin?] at he
  split at he
  · split at he <;> cases he
    exact id
  · cases he
    exact id

theorem proper_prepare? : Proper (m.prepare? x) := by
  rintro e he
  rw [prepare?] at he
  split at he
  · split at he <;> cases he <;> exact id
  · cases he
    exact id

end ResourceManager

namespace Session

variable {s : Session} {m : ResourceManager}

/-! ### Answers of a session -/

theorem proper_ok {α : Type} (a : α) : Proper (.ok a : Except Facade.Error α) := by
  rintro e ⟨⟩

theorem proper_ask {result : Except Facade.Error ResourceManager} (h : Proper result)
    (after : Session) : Proper (ask result after s m).answer := by
  cases result with
  | ok m' => exact proper_ok ()
  | error e =>
    rintro _ ⟨⟩
    exact h e rfl

theorem proper_whenOpen {α : Type} {call : Session → ResourceManager → Reply α}
    (hopen : s.isOpen = true) (h : Proper (call s m).answer) :
    Proper (whenOpen call s m).answer := by
  rwa [whenOpen, if_pos hopen]

theorem proper_map {α β : Type} {answer : Except Facade.Error α} (h : Proper answer) (f : α → β) :
    Proper (answer.map f) := by
  cases answer with
  | ok a => exact proper_ok _
  | error e =>
    rintro _ ⟨⟩
    exact h e rfl

theorem proper_start (hopen : s.isOpen = true) (hbound : s.bound = none) (x : Xid) :
    Proper (s.start x m).answer := by
  refine proper_whenOpen hopen ?_
  simp only [hbound]
  exact proper_ask ResourceManager.proper_begin? _

theorem proper_endAndPrepare {x : Xid} (hopen : s.isOpen = true) (hbound : s.bound = some x) :
    Proper (s.endAndPrepare x m).answer := by
  refine proper_whenOpen hopen ?_
  rw [if_pos hbound]
  exact proper_ask ResourceManager.proper_prepare? _

theorem Verdict.proper {how : Finish} {x : Xid} {r : Session.Reply Unit}
    (h : Verdict s m x how r) : Proper r.answer := by
  rintro e he
  cases h with
  | premature _ _ _ hrejection =>
    cases he
    obtain rfl | rfl := hrejection <;> exact id
  | unknown | unreached | lost | deserted =>
    cases he
    exact id
  | _ => cases he

theorem proper_finish (hopen : s.isOpen = true) (how : Finish) (x : Xid) :
    Proper (s.finish how x m).answer :=
  (verdict_finish hopen how x m).proper

theorem proper_useData (hopen : s.isOpen = true) (use : DataUse) :
    Proper (ResourceManager.backend.perform (.useData use) s m).answer := by
  cases use with
  | establish =>
    refine proper_map (?_ : Proper (s.establish m).answer) _
    rw [establish_eq]
    refine proper_whenOpen hopen ?_
    cases s.link with
    | some link => exact proper_ok link
    | none => exact proper_whenOpen hopen (proper_ok _)
  | reestablish => exact proper_map (proper_whenOpen hopen (proper_ok _)) _
  | _ => exact proper_ok ()

/-- An open session that is free to start what it is asked to start, and bound
to what it is asked to end, has nothing to complain about. -/
theorem proper_perform {op : Operation}
    (hopen : op = .openUp ∨ op = .close ∨ s.isOpen = true)
    (hstart : ∀ x, op = .start x → s.bound = none)
    (hend : ∀ x, op = .endAndPrepare x → s.bound = some x) :
    Proper (ResourceManager.backend.perform op s m).answer := by
  -- each operation has its own lemma; the conditions above are what those ask of the session
  cases op with
  | openUp =>
    simp only [Backend.perform, ResourceManager.backend, openUp]
    split
    · exact proper_ok ()
    · exact proper_ask ResourceManager.proper_connect? _
  | close => exact proper_ok ()
  | start x => exact proper_start (by simpa using hopen) (hstart x rfl) x
  | endAndPrepare x => exact proper_endAndPrepare (by simpa using hopen) (hend x rfl)
  | finish how x => exact proper_finish (by simpa using hopen) how x
  | recover =>
    refine proper_map (proper_whenOpen (by simpa using hopen) ?_) _
    exact ResourceManager.proper_scan?
  | useData use => exact proper_useData (by simpa using hopen) use

end Session

end BranchPool
