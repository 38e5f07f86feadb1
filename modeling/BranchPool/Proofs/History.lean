/-
Histories of calls on facades, and what they tell.

* `History.stage` — the stage that a facade has reached, by the calls that it
  received;
* `History.last?` — the latest call on a facade;
* `History.Orderly` — every call was permitted at the stage of its facade.  A
  branch counts as bound at a moment if some facade is bound to it then;
* `History.opened`, `History.discarded`, `History.shut` — the facades that were
  made and opened, those that failed to start a branch, and those that were
  closed though they had not failed so;
* `History.count_opened` and its neighbours — how often a facade stands in each
  of these lists, by its stage.
-/
import BranchPool.Proofs.Stage
import BranchPool.Proofs.Trace

namespace BranchPool

open Facade

/-! ### Stages in a history -/

namespace History

/-- The stage that a facade has reached. -/
def stage : History → Nat → Stage
  | [], _ => .made
  | e :: h, i => if e.facade = i then (stage h i).after e.operation e.answer.isOk else stage h i

/-- Whether some facade is bound to a branch. -/
def Binds (h : History) (x : Xid) : Prop :=
  ∃ i, (h.stage i).branch? = some x

/-- Whether every call was permitted when it was made. -/
def Orderly : History → Prop
  | [] => True
  | e :: h => Orderly h ∧ (stage h e.facade).Permits (Binds h) e.operation

/-- The latest call on a facade. -/
def last? (h : History) (i : Nat) : Option Event :=
  h.find? fun e => e.facade = i

/-- Whether the latest call on a facade succeeded, or there was none. -/
def lastOk (h : History) (i : Nat) : Bool :=
  ((h.last? i).map (·.answer.isOk)).getD true

theorem stage_cons_self (h : History) (e : Event) :
    stage (e :: h) e.facade = (h.stage e.facade).after e.operation e.answer.isOk := by
  rw [stage, if_pos rfl]

theorem stage_cons_of_ne (h : History) {e : Event} {i : Nat} (hi : e.facade ≠ i) :
    stage (e :: h) i = h.stage i := by
  rw [stage, if_neg hi]

theorem last?_cons_self (h : History) (e : Event) : last? (e :: h) e.facade = some e := by
  simp [last?]

theorem last?_cons_of_ne (h : History) {e : Event} {i : Nat} (hi : e.facade ≠ i) :
    last? (e :: h) i = h.last? i := by
  simp [last?, hi]

theorem lastOk_cons_self (h : History) (e : Event) :
    lastOk (e :: h) e.facade = e.answer.isOk := by
  rw [lastOk, last?_cons_self]
  rfl

theorem lastOk_cons_of_ne (h : History) {e : Event} {i : Nat} (hi : e.facade ≠ i) :
    lastOk (e :: h) i = h.lastOk i := by
  rw [lastOk, last?_cons_of_ne h hi, lastOk]

/-- The latest call on a facade whose branch is ended was the one that ended
it. -/
theorem last?_of_ended {h : History} (horderly : h.Orderly) {i : Nat} {x : Xid}
    (hi : h.stage i = .ended x) : ∃ answer, h.last? i = some ⟨i, .endAndPrepare x, answer⟩ := by
  induction h with
  | nil => cases hi
  | cons e h ih =>
    obtain ⟨j, op, answer⟩ := e
    by_cases hj : j = i
    · subst hj
      rw [stage_cons_self h ⟨j, op, answer⟩] at hi
      obtain rfl : op = .endAndPrepare x := horderly.2.eq_endAndPrepare hi
      exact ⟨answer, last?_cons_self h _⟩
    · rw [stage_cons_of_ne h hj] at hi
      rw [last?_cons_of_ne h hj]
      exact ih horderly.1 hi

end History

namespace Facade.Stage

/-- Whether a facade was opened, as a number. -/
def openings : Stage → Nat
  | .made => 0
  | .failed => 0
  | _ => 1

/-- Whether a facade failed to start a branch, as a number. -/
def rejections : Stage → Nat
  | .rejected => 1
  | .discarded => 1
  | _ => 0

/-- Whether a facade was closed though it started its branches, as a number. -/
def closings : Stage → Nat
  | .closed => 1
  | _ => 0

variable {bound : Xid → Prop} {q : Stage} {op : Operation}

theorem openings_le_one (q : Stage) : q.openings ≤ 1 := by
  cases q <;> simp [openings]

theorem Permits.openings_after (h : q.Permits bound op) (ok : Bool) :
    (q.after op ok).openings = q.openings + op.creates ok := by
  cases q <;> cases op <;> first | exact h.elim | (cases ok <;> rfl)

theorem Permits.rejections_after (h : q.Permits bound op) (ok : Bool) :
    (q.after op ok).rejections = q.rejections + op.discards ok := by
  cases q <;> cases op <;> first | exact h.elim | (cases ok <;> rfl)

theorem Permits.closings_after (h : q.Permits bound op) (ok : Bool) :
    (q.after op ok).closings =
      q.closings + if op = .close ∧ q.rejections = 0 then 1 else 0 := by
  cases q <;> cases op <;> first | exact h.elim | (cases ok <;> rfl)

/-- A facade between two calls on its provider was opened if it is held, was
rejected, or was closed. -/
theorem openings_of_isHeld {q : Stage} (h : q.IsHeld) :
    q.openings = 1 ∧ q.rejections = 0 ∧ q.closings = 0 := by
  cases q <;> first | exact h.elim | exact ⟨rfl, rfl, rfl⟩

theorem openings_of_isFinal {q : Stage} (h : q.IsFinal) :
    q.openings = q.rejections + q.closings := by
  cases q <;> first | exact h.elim | rfl

end Facade.Stage

/-! ### Facades that were opened, discarded or shut -/

namespace History

/-- The facades that were made and opened. -/
def opened : History → List Nat
  | [] => []
  | ⟨i, .openUp, .ok _⟩ :: h => i :: opened h
  | _ :: h => opened h

/-- The facades that failed to start a branch. -/
def discarded : History → List Nat
  | [] => []
  | ⟨i, .start _, .error _⟩ :: h => i :: discarded h
  | _ :: h => discarded h

/-- The facades that were closed though they had not failed to start a
branch. -/
def shut : History → List Nat
  | [] => []
  | ⟨i, .close, _⟩ :: h => if i ∈ discarded h then shut h else i :: shut h
  | _ :: h => shut h

/-! Each call puts its facade once into such a list, or not at all. -/

theorem opened_cons (e : Event) (h : History) :
    opened (e :: h) =
      List.replicate (e.operation.creates e.answer.isOk) e.facade ++ opened h := by
  obtain ⟨i, op, _ | u⟩ := e <;> cases op <;> rfl

theorem discarded_cons (e : Event) (h : History) :
    discarded (e :: h) =
      List.replicate (e.operation.discards e.answer.isOk) e.facade ++ discarded h := by
  obtain ⟨i, op, _ | u⟩ := e <;> cases op <;> rfl

theorem shut_cons (e : Event) (h : History) :
    shut (e :: h) =
      List.replicate (if e.operation = .close ∧ e.facade ∉ discarded h then 1 else 0) e.facade ++
        shut h := by
  obtain ⟨i, op, answer⟩ := e
  cases op with
  | close => by_cases hi : i ∈ discarded h <;> simp [shut, hi]
  | _ => rfl

/-- How often a facade stands in a list that grows with the history, if each
call moves the list as it moves a measure of the stages. -/
theorem count_eq_of_orderly {L : History → List Nat} {measure : Stage → Nat}
    {weight : Event → History → Nat} (hnil : L [] = []) (hmade : measure .made = 0)
    (hcons : ∀ e h, L (e :: h) = List.replicate (weight e h) e.facade ++ L h)
    (hmeasure : ∀ e h, Orderly (e :: h) →
      measure (stage (e :: h) e.facade) = measure (stage h e.facade) + weight e h)
    {h : History} (horderly : h.Orderly) (i : Nat) : (L h).count i = measure (h.stage i) := by
  -- the list and the measure move together, and only at the facade that is called
  induction h with
  | nil => rw [hnil, stage, hmade, List.count_nil]
  | cons e h ih =>
    rw [hcons, List.count_append, ih horderly.1]
    by_cases hi : e.facade = i
    · subst hi
      rw [hmeasure e h horderly, List.count_replicate_self, Nat.add_comm]
    · rw [stage_cons_of_ne h hi, List.count_replicate, if_neg (by simpa using hi), Nat.zero_add]

variable {h : History}

theorem count_opened (horderly : h.Orderly) (i : Nat) : h.opened.count i = (h.stage i).openings := by
  refine count_eq_of_orderly rfl rfl opened_cons (fun e h he => ?_) horderly i
  rw [stage_cons_self]
  exact he.2.openings_after _

theorem count_discarded (horderly : h.Orderly) (i : Nat) :
    h.discarded.count i = (h.stage i).rejections := by
  refine count_eq_of_orderly rfl rfl discarded_cons (fun e h he => ?_) horderly i
  rw [stage_cons_self]
  exact he.2.rejections_after _

theorem count_shut (horderly : h.Orderly) (i : Nat) : h.shut.count i = (h.stage i).closings := by
  refine count_eq_of_orderly rfl rfl shut_cons (fun e h he => ?_) horderly i
  -- a facade that was rejected is one that was discarded before
  rw [stage_cons_self, he.2.closings_after, ← count_discarded he.1]
  simp only [List.count_eq_zero]

theorem nodup_opened (horderly : h.Orderly) : h.opened.Nodup := by
  refine List.nodup_iff_count_le_one.mpr fun i => ?_
  rw [count_opened horderly]
  exact (h.stage i).openings_le_one

theorem mem_discarded (horderly : h.Orderly) {i : Nat} (hi : h.stage i = .rejected) :
    i ∈ h.discarded := by
  refine List.count_pos_iff.mp ?_
  rw [count_discarded horderly, hi]
  exact Nat.one_pos

theorem mem_shut_iff (horderly : h.Orderly) {i : Nat} : i ∈ h.shut ↔ h.stage i = .closed := by
  rw [← List.count_pos_iff, count_shut horderly]
  cases h.stage i <;> simp [Stage.closings]

/-- A call does not shut a facade unless it closes one that has not been
rejected. -/
theorem shut_cons_of_rejected {e : Event} (horderly : h.Orderly)
    (hclose : e.operation = .close → h.stage e.facade = .rejected) :
    shut (e :: h) = h.shut := by
  obtain ⟨i, op, answer⟩ := e
  cases op with
  | close => rw [shut, if_pos (mem_discarded horderly (hclose rfl))]
  | _ => rfl

end History

end BranchPool
