/-
Each start of a branch is resolved once.

A *ledger* is the list of calls that sessions received, each with the outcomes
that it added to the history of their manager.  By the ledger, a branch has its
*marks* in time order: a start for each call that started it, an outcome for each
entry of the history.

* `Alternates` — starts and outcomes take turns, and a start comes first;
* `Deed.Turn` — a call starts one branch, or resolves one, or does neither;
* `Ledger.Accounts` — what the ledger of a branch tells;
* `Deployment.resolution_run` — and it tells this in every run of providers and
  sessions over one manager.
-/
import BranchPool.Proofs.Noted
import BranchPool.Proofs.ResourceManager.Sharing
import Mathlib.Data.List.Induction

namespace BranchPool

open Facade

/-! ### Ledgers -/

/-- A call on a session, with what it added to the history of outcomes. -/
structure Deed where
  operation : Operation
  ok : Bool
  outcomes : List (Xid × Outcome)

/-- The calls so far, the latest first. -/
abbrev Ledger := List Deed

/-- What a ledger tells of one branch. -/
inductive Mark where
  | start
  | outcome (outcome : Outcome)
  deriving DecidableEq

namespace Deed

/-- The deed of a call that turned one manager into another. -/
def of (op : Operation) (ok : Bool) (m m' : ResourceManager) : Deed :=
  ⟨op, ok, m'.outcomes.drop m.outcomes.length⟩

/-- Whether a call started a branch. -/
def Starts (d : Deed) (x : Xid) : Prop := d.operation = .start x ∧ d.ok = true

instance (d : Deed) (x : Xid) : Decidable (d.Starts x) :=
  inferInstanceAs (Decidable (d.operation = .start x ∧ d.ok = true))

/-- Whether a call ended and prepared a branch. -/
def Prepares (d : Deed) (x : Xid) : Prop := d.operation = .endAndPrepare x ∧ d.ok = true

/-- The marks of a branch that one call leaves. -/
def marks (d : Deed) (x : Xid) : List Mark :=
  (if d.Starts x then [.start] else []) ++
    (d.outcomes.filter fun e => e.1 = x).map fun e => .outcome e.2

end Deed

namespace Ledger

/-- The marks of a branch, the earliest first. -/
def marks : Ledger → Xid → List Mark
  | [], _ => []
  | d :: l, x => marks l x ++ d.marks x

/-- The outcomes of all branches, the earliest first. -/
def outcomes : Ledger → List (Xid × Outcome)
  | [] => []
  | d :: l => outcomes l ++ d.outcomes

/-- How often a branch was started. -/
def starts (l : Ledger) (x : Xid) : Nat := l.countP fun d => d.Starts x

/-- Whether a branch was prepared after it was last started. -/
def Prepared (l : Ledger) (x : Xid) : Prop :=
  ∃ later d earlier, l = later ++ d :: earlier ∧ d.Prepares x ∧
    (∀ d' ∈ later, ¬d'.Starts x) ∧ ∃ d' ∈ earlier, d'.Starts x

theorem marks_append (later earlier : Ledger) (x : Xid) :
    marks (later ++ earlier) x = marks earlier x ++ marks later x := by
  induction later with
  | nil => simp [marks]
  | cons d later ih => simp [marks, ih]

theorem start_mem_marks {l : Ledger} {x : Xid} : .start ∈ l.marks x ↔ ∃ d ∈ l, d.Starts x := by
  induction l with
  | nil => simp [marks]
  | cons d l ih =>
    have hd : Mark.start ∈ d.marks x ↔ d.Starts x := by
      by_cases h : d.Starts x <;> simp [Deed.marks, h]
    rw [marks, List.mem_append, ih, hd, List.exists_mem_cons_iff, or_comm]

/-- Starts are counted once in the marks, and so are outcomes. -/
theorem count_marks (l : Ledger) (x : Xid) :
    (l.marks x).count .start = l.starts x ∧
      (l.marks x).length = l.starts x + l.outcomes.countP (fun e => e.1 = x) := by
  induction l with
  | nil => exact ⟨rfl, rfl⟩
  | cons d l ih =>
    -- a deed appends its own start and its own outcomes, and only a start is counted as one
    obtain ⟨hcount, hlength⟩ := ih
    have hstarts : starts (d :: l) x = starts l x + if d.Starts x then 1 else 0 := by
      simp [starts, List.countP_cons]
    have houtcomes : (outcomes (d :: l)).countP (fun e => e.1 = x) =
        (outcomes l).countP (fun e => e.1 = x) + (d.outcomes.filter fun e => e.1 = x).length := by
      rw [outcomes, List.countP_append, List.countP_eq_length_filter (l := d.outcomes)]
    have hnone : ((d.outcomes.filter fun e => e.1 = x).map fun e => Mark.outcome e.2).count .start =
        0 := by
      simp [List.count_eq_zero]
    rw [hstarts, houtcomes, marks, Deed.marks, List.count_append, List.count_append, hnone,
      List.length_append, List.length_append, List.length_map]
    by_cases h : d.Starts x <;> simp only [h, if_true, if_false] <;> constructor <;> simp <;> omega

/-- The outcomes of a branch among its marks. -/
theorem filter_marks (l : Ledger) (x : Xid) :
    (l.marks x).filter (· ≠ .start) =
      (l.outcomes.filter fun e => e.1 = x).map fun e => .outcome e.2 := by
  induction l with
  | nil => rfl
  | cons d l ih =>
    have hd : (d.marks x).filter (· ≠ .start) =
        (d.outcomes.filter fun e => e.1 = x).map fun e => Mark.outcome e.2 := by
      by_cases h : d.Starts x <;> simp [Deed.marks, h]
    rw [marks, outcomes, List.filter_append, List.filter_append, List.map_append, ih, hd]

end Ledger

/-! ### Alternation -/

/-- Whether starts and outcomes take turns, and a start comes first. -/
def Alternates (marks : List Mark) : Prop :=
  ∀ (i : Nat) mark, marks[i]? = some mark → (mark = .start ↔ i % 2 = 0)

namespace Alternates

variable {marks marks' : List Mark}

theorem append_left (h : Alternates (marks ++ marks')) : Alternates marks := by
  intro i mark hi
  refine h i mark ?_
  rw [List.getElem?_append_left (List.getElem?_eq_some_iff.mp hi).1]
  exact hi

theorem concat (h : Alternates marks) {mark : Mark} (hmark : mark = .start ↔ marks.length % 2 = 0) :
    Alternates (marks ++ [mark]) := by
  intro i mark' hi
  rw [List.getElem?_append] at hi
  -- below the old length nothing changes, and the one new position is that length
  split at hi
  · exact h i mark' hi
  · rename_i hlt
    have hmem := List.getElem?_eq_some_iff.mp hi
    obtain ⟨hsub, heq⟩ := hmem
    have hlength : i = marks.length := by
      rw [List.length_singleton] at hsub
      omega
    subst hlength
    rw [Nat.sub_self] at hi
    cases hi
    exact hmark

/-- Half of the marks are starts, and one more if the last one is. -/
theorem count_start (h : Alternates marks) : marks.count .start = (marks.length + 1) / 2 := by
  -- from the back, as each mark is placed by the number of marks before it
  induction marks using List.reverseRecOn with
  | nil => rfl
  | append_singleton marks mark ih =>
    have hlast := h marks.length mark (by simp)
    have hcount := ih h.append_left
    rw [List.count_append, hcount, List.length_append, List.length_singleton, List.count_singleton]
    by_cases hmark : mark = .start
    · have heven := hlast.mp hmark
      simp only [hmark, beq_self_eq_true, if_true]
      omega
    · have hodd : ¬marks.length % 2 = 0 := fun heven => hmark (hlast.mpr heven)
      simp only [beq_iff_eq, hmark, if_false]
      omega

/-- After an outcome there comes nothing but a start. -/
theorem eq_nil_of_getLast? (h : Alternates (marks ++ marks')) {outcome : Outcome}
    (hlast : marks.getLast? = some (.outcome outcome)) (hnot : .start ∉ marks') : marks' = [] := by
  rw [List.getLast?_eq_getElem?] at hlast
  have hlt := (List.getElem?_eq_some_iff.mp hlast).1
  have hodd := h.append_left _ _ hlast
  cases marks' with
  | nil => rfl
  | cons mark rest =>
    -- the mark after an outcome stands at an even place, so it would be a start
    have hnext := h marks.length mark (by simp)
    have heven : marks.length % 2 = 0 := by
      simp only [reduceCtorEq, false_iff] at hodd
      omega
    exact absurd (List.mem_cons.mpr (.inl (hnext.mpr heven).symm)) hnot

end Alternates

/-! ### One call -/

/-- What a call does to the manager, by its deed: it starts a branch that is not
live, or resolves one that is, or changes neither which branches are live nor the
history of outcomes. -/
inductive Deed.Turn (m m' : ResourceManager) : Deed → Prop where
  | quiet {op ok} (hstart : ∀ x, ¬(op = .start x ∧ ok = true))
    (hlive : ∀ y, (m'.phase? y).isSome = (m.phase? y).isSome) : Turn m m' ⟨op, ok, []⟩
  | start {x} (hphase : m.phase? x = none)
    (hafter : ∀ y, m'.phase? y = if y = x then some .active else m.phase? y) :
    Turn m m' ⟨.start x, true, []⟩
  | resolve {op ok x outcome} (hstart : ∀ y, op ≠ .start y) (hlive : (m.phase? x).isSome = true)
    (hafter : ∀ y, m'.phase? y = if y = x then none else m.phase? y)
    (hcommitted : outcome = .committed → ok = true ∧ m.phase? x = some .prepared ∧
      ∃ ignoreUnknown, op = .finish (.commit ignoreUnknown) x) :
    Turn m m' ⟨op, ok, [(x, outcome)]⟩

namespace Session.Effect

variable {s s' : Session} {m m' : ResourceManager} {op : Operation} {ok : Bool}

theorem deed_eq {added : List (Xid × Outcome)} (h : m'.outcomes = m.outcomes ++ added) :
    Deed.of op ok m m' = ⟨op, ok, added⟩ := by
  rw [Deed.of, h, List.drop_left]

/-- The deed of a call on a sound session tells all that becomes of branches. -/
theorem turn (h : s.Sound m) (heffect : Effect s m op ok s' m') :
    m'.outcomes = m.outcomes ++ (Deed.of op ok m m').outcomes ∧
      Deed.Turn m m' (Deed.of op ok m m') := by
  have hcollect : ∀ added, m'.outcomes = m.outcomes ++ added → Deed.Turn m m' ⟨op, ok, added⟩ →
      m'.outcomes = m.outcomes ++ (Deed.of op ok m m').outcomes ∧
        Deed.Turn m m' (Deed.of op ok m m') := by
    intro added hadded hturn
    rw [deed_eq hadded]
    exact ⟨hadded, hturn⟩
  cases heffect with
  | stay hquiet hbound hbranches houtcomes =>
    refine hcollect [] (by rw [houtcomes, List.append_nil]) (.quiet ?_ fun y => ?_)
    · rintro x ⟨rfl, rfl⟩
      cases hquiet
    · rw [ResourceManager.phase?_congr hbranches]
  | start hopen hfree hphase hbound =>
    refine hcollect [] (List.append_nil _).symm (.start hphase fun y => ?_)
    exact ResourceManager.phase?_insert m _ y _
  | @prepare x timeout s' hbranch hbusy hfree =>
    refine hcollect [] (List.append_nil _).symm (.quiet (by simp) fun y => ?_)
    -- the branch was active and is prepared
    rw [ResourceManager.phase?_update hbranch]
    by_cases hy : y = x
    · subst hy
      rw [if_pos rfl, (h y hbusy).2]
      rfl
    · rw [if_neg hy]
  | @resolve how x s' hother hphase hbound =>
    refine hcollect [(x, how.outcome)] rfl (.resolve (by simp) ?_ ?_ ?_)
    · rw [hphase]
      rfl
    · exact fun y => ResourceManager.phase?_resolve m x y _
    · intro houtcome
      cases how with
      | commit ignoreUnknown => exact ⟨rfl, hphase, ignoreUnknown, rfl⟩
      | rollback => cases houtcome
      | failAndRollback => cases houtcome
  | @discard op ok x s' hop hbusy hfree =>
    refine hcollect [(x, .rolledBack)] rfl (.resolve ?_ ?_ ?_ nofun)
    · rintro y rfl
      simp at hop
    · rw [(h x hbusy).2]
      rfl
    · exact fun y => ResourceManager.phase?_resolve m x y _
  | desert hbusy hfree =>
    exact hcollect [] (List.append_nil _).symm (.quiet (by simp) fun y => rfl)

end Session.Effect

/-- What a turn does to one branch. -/
theorem Deed.Turn.marks {m m' : ResourceManager} {d : Deed} (h : Turn m m' d) (x : Xid) :
    (d.marks x = [] ∧ (m'.phase? x).isSome = (m.phase? x).isSome) ∨
      (d.marks x = [.start] ∧ m.phase? x = none ∧ (m'.phase? x).isSome = true) ∨
      ∃ outcome, d.marks x = [.outcome outcome] ∧ (m.phase? x).isSome = true ∧
        m'.phase? x = none := by
  -- a turn concerns one branch `y`; for every other branch it is quiet
  cases h with
  | quiet hstart hlive =>
    refine .inl ⟨?_, hlive x⟩
    simp [Deed.marks, Deed.Starts, hstart x]
  | @start y hphase hafter =>
    by_cases hx : x = y
    · subst hx
      refine .inr (.inl ⟨?_, hphase, ?_⟩)
      · simp [Deed.marks, Deed.Starts]
      · rw [hafter, if_pos rfl]
        rfl
    · refine .inl ⟨?_, ?_⟩
      · simp [Deed.marks, Deed.Starts, Ne.symm hx]
      · rw [hafter, if_neg hx]
  | @resolve op ok y outcome hstart hlive hafter hcommitted =>
    by_cases hx : x = y
    · subst hx
      refine .inr (.inr ⟨outcome, ?_, hlive, ?_⟩)
      · simp [Deed.marks, Deed.Starts, hstart x]
      · rw [hafter, if_pos rfl]
    · refine .inl ⟨?_, ?_⟩
      · simp [Deed.marks, Deed.Starts, hstart x, Ne.symm hx]
      · rw [hafter, if_neg hx]

theorem Deed.Turn.committed {m m' : ResourceManager} {d : Deed} (h : Turn m m' d) {x : Xid}
    (hx : (x, .committed) ∈ d.outcomes) :
    d.ok = true ∧ m.phase? x = some .prepared ∧
      ∃ ignoreUnknown, d.operation = .finish (.commit ignoreUnknown) x := by
  cases h with
  | quiet => cases hx
  | start => cases hx
  | resolve hstart hlive hafter hcommitted =>
    obtain ⟨rfl, rfl⟩ := Prod.mk.inj (List.mem_singleton.mp hx)
    exact hcommitted rfl

/-! ### Accounts -/

theorem ResourceManager.outcome?_eq (m : ResourceManager) (x : Xid) :
    m.outcome? x = (m.outcomes.filter fun e => e.1 = x).getLast?.map (·.2) := by
  rw [outcome?, ← List.head?_filter, List.filter_reverse, List.head?_reverse]

/-- What a ledger tells of a branch, beside the manager after all its calls. -/
structure Ledger.Accounts (l : Ledger) (m : ResourceManager) (x : Xid) : Prop where
  /-- The branch was started once for each outcome, and once more if it is live. -/
  starts_eq : l.starts x = (m.outcomes.countP fun e => e.1 = x) +
    if (m.phase? x).isSome then 1 else 0
  /-- Starts and outcomes take turns. -/
  alternates : Alternates (l.marks x)
  /-- No call leaves two marks, so their order is that of the calls. -/
  single : ∀ d ∈ l, (d.marks x).length ≤ 1
  /-- A branch that is resolved keeps its outcome until it is started again. -/
  outcome?_eq : ∀ later earlier outcome, l = later ++ earlier →
    (earlier.marks x).getLast? = some (.outcome outcome) → (∀ d ∈ later, ¬d.Starts x) →
      m.outcome? x = some outcome
  /-- A branch is committed only by a commit that succeeded, after the branch was
  prepared. -/
  committed : ∀ later d earlier, l = later ++ d :: earlier → (x, .committed) ∈ d.outcomes →
    d.ok = true ∧ (∃ ignoreUnknown, d.operation = .finish (.commit ignoreUnknown) x) ∧
      Ledger.Prepared earlier x

/-- What each call keeps true of a ledger. -/
structure Ledger.Kept (l : Ledger) (m : ResourceManager) : Prop where
  outcomes_eq : m.outcomes = l.outcomes
  alternates : ∀ x, Alternates (l.marks x)
  live : ∀ x, (m.phase? x).isSome = decide ((l.marks x).length % 2 = 1)
  single : ∀ x, ∀ d ∈ l, (d.marks x).length ≤ 1
  prepared : ∀ x, m.phase? x = some .prepared → l.Prepared x
  committed : ∀ x later d earlier, l = later ++ d :: earlier → (x, .committed) ∈ d.outcomes →
    d.ok = true ∧ (∃ ignoreUnknown, d.operation = .finish (.commit ignoreUnknown) x) ∧
      Ledger.Prepared earlier x

namespace Ledger

variable {l : Ledger} {m m' : ResourceManager} {x : Xid}

theorem Prepared.cons (h : l.Prepared x) {d : Deed} (hd : ¬d.Starts x) :
    Prepared (d :: l) x := by
  obtain ⟨later, e, earlier, rfl, he, hlater, hearlier⟩ := h
  refine ⟨d :: later, e, earlier, rfl, he, fun d' hd' => ?_, hearlier⟩
  rcases List.mem_cons.mp hd' with rfl | hd'
  · exact hd
  · exact hlater d' hd'

namespace Kept

theorem start : Kept [] {} where
  outcomes_eq := rfl
  alternates x i mark hi := by simp [marks] at hi
  live x := rfl
  single x d hd := by cases hd
  prepared x hx := by cases hx
  committed x later d earlier heq := by cases later <;> cases heq

/-- A branch that is live was started. -/
theorem exists_starts (h : l.Kept m) (hx : (m.phase? x).isSome = true) : ∃ d ∈ l, d.Starts x := by
  have hodd : (l.marks x).length % 2 = 1 := by simpa [h.live x] using hx
  have hpos : 0 < (l.marks x).length := by omega
  have hfirst := (h.alternates x 0 _ (List.getElem?_eq_getElem hpos)).mpr rfl
  refine start_mem_marks.mp ?_
  rw [← hfirst]
  exact List.getElem_mem hpos

theorem call {s s' : Session} {op : Operation} {ok : Bool} (h : l.Kept m) (hsound : s.Sound m)
    (heffect : Session.Effect s m op ok s' m') : Kept (Deed.of op ok m m' :: l) m' := by
  obtain ⟨houtcomes, hturn⟩ := heffect.turn hsound
  have hlive : ∀ x, (m'.phase? x).isSome =
      decide ((marks (Deed.of op ok m m' :: l) x).length % 2 = 1) ∧
      Alternates (marks (Deed.of op ok m m' :: l) x) := by
    intro x
    have hbefore := h.live x
    rw [marks]
    obtain ⟨hmarks, hsame⟩ | ⟨hmarks, hnone, hsome⟩ | ⟨outcome, hmarks, hsome, hnone⟩ :=
      hturn.marks x
    · rw [hmarks, List.append_nil, hsame]
      exact ⟨hbefore, h.alternates x⟩
    · -- the branch was not live, so its last mark was an outcome, if it had any
      have heven : (l.marks x).length % 2 = 0 := by simpa [hnone] using hbefore
      rw [hmarks, hsome, List.length_append, List.length_singleton]
      refine ⟨?_, (h.alternates x).concat (by simpa using heven)⟩
      exact (decide_eq_true (by omega)).symm
    · have hodd : (l.marks x).length % 2 = 1 := by simpa [hsome] using hbefore
      rw [hmarks, hnone, List.length_append, List.length_singleton]
      refine ⟨?_, (h.alternates x).concat (by simp [hodd])⟩
      exact (decide_eq_false (by omega)).symm
  constructor
  · rw [houtcomes, h.outcomes_eq, outcomes]
  · exact fun x => (hlive x).2
  · exact fun x => (hlive x).1
  · intro x d hd
    rcases List.mem_cons.mp hd with rfl | hd
    · obtain ⟨hmarks, -⟩ | ⟨hmarks, -⟩ | ⟨_, hmarks, -⟩ := hturn.marks x <;> simp [hmarks]
    · exact h.single x d hd
  · intro x hx
    rcases (heffect.prepared_iff hsound x).mp hx with ⟨rfl, rfl⟩ | ⟨hold, -⟩
    · -- the branch was active, and so it was started
      have hactive : (m.phase? x).isSome = true := by
        obtain ⟨-, hsame⟩ | ⟨hmarks, -⟩ | ⟨_, -, hsome, -⟩ := hturn.marks x
        · rw [← hsame, hx]
          rfl
        · simp [Deed.marks, Deed.Starts, Deed.of] at hmarks
        · exact hsome
      exact ⟨[], _, l, rfl, ⟨rfl, rfl⟩, by simp, h.exists_starts hactive⟩
    · refine (h.prepared x hold).cons fun hstarts => ?_
      obtain ⟨hmarks, -⟩ | ⟨-, hnone, -⟩ | ⟨_, hmarks, -⟩ := hturn.marks x
      · simp [Deed.marks, hstarts] at hmarks
      · rw [hold] at hnone
        cases hnone
      · simp [Deed.marks, hstarts] at hmarks
  · intro x later d earlier heq hd
    cases later with
    | nil =>
      cases heq
      obtain ⟨hok, hprepared, hop⟩ := hturn.committed hd
      exact ⟨hok, hop, h.prepared x hprepared⟩
    | cons e later =>
      cases heq
      exact h.committed x later d earlier rfl hd

theorem step {w w' : Trace (Noted ResourceManager Deed) Session}
    (hstep : Trace.Step (ResourceManager.backend.noting Deed.of) w w') (hconcord : Concord w.unnoted)
    (h : Ledger.Kept w.world.notes w.world.world) :
    Ledger.Kept w'.world.notes w'.world.world := by
  cases hstep with
  | made hmake =>
    cases hmake
    exact h
  | notMade hmake => cases hmake
  | called op hs =>
    have hsound := hconcord.sound _ _ hs
    have hcall := h.call hsound (Session.effect_perform op hsound)
    -- the note that is written with the call is the deed of that call
    rw [Backend.perform_noting]
    exact hcall

theorem setAvailable (available : Bool) (h : l.Kept m) : l.Kept (m.setAvailable available) :=
  ⟨h.outcomes_eq, h.alternates, h.live, h.single, h.prepared, h.committed⟩

theorem accounts (h : l.Kept m) (x : Xid) : l.Accounts m x := by
  refine ⟨?_, h.alternates x, h.single x, ?_, h.committed x⟩
  · obtain ⟨hcount, hlength⟩ := l.count_marks x
    have hhalf := (h.alternates x).count_start
    have hlive := h.live x
    rw [h.outcomes_eq]
    by_cases hodd : (l.marks x).length % 2 = 1
    · simp only [hlive, hodd, decide_true, if_true]
      omega
    · simp only [hlive, hodd, decide_false, Bool.false_eq_true, if_false]
      omega
  · rintro later earlier outcome rfl hlast hlater
    have halternates := h.alternates x
    rw [marks_append] at halternates
    have hnone : marks later x = [] := by
      refine halternates.eq_nil_of_getLast? hlast fun hstart => ?_
      obtain ⟨d, hd, hstarts⟩ := start_mem_marks.mp hstart
      exact hlater d hd hstarts
    have hfilter := filter_marks (later ++ earlier) x
    rw [marks_append, hnone, List.append_nil, ← h.outcomes_eq] at hfilter
    -- the last mark is the last outcome of the branch in the history
    obtain ⟨marks', hmarks'⟩ := List.getLast?_eq_some_iff.mp hlast
    have hentry := congrArg List.getLast? hfilter
    rw [hmarks', List.filter_append, List.getLast?_map] at hentry
    simp only [ne_eq, reduceCtorEq, not_false_eq_true, decide_true, List.filter_cons_of_pos,
      List.filter_nil, List.getLast?_concat] at hentry
    obtain ⟨e, he, heq⟩ := Option.map_eq_some_iff.mp hentry.symm
    rw [ResourceManager.outcome?_eq, he]
    exact congrArg some (Mark.outcome.inj heq)

end Kept

end Ledger

/-! ### Runs -/

namespace Deployment

/-- In every run of any number of providers and sessions over one manager, from a
manager without branches, the ledger has the whole history of outcomes and
accounts for every branch. -/
theorem resolution_run (ms : List (Move Config Bool)) :
    let b := ResourceManager.backend
    let act := fun available (m : ResourceManager) => m.setAvailable available
    let D := run (b.noting Deed.of) (Noted.lift act) ms { world := { world := {} } }
    let m := D.world.world
    let l : Ledger := D.world.notes
    D.unnoted = run b act ms { world := {} } ∧ m.outcomes = l.outcomes ∧ ∀ x, l.Accounts m x := by
  intro b act D m l
  -- the invariant is on the trace, where each session that was made is in sight
  obtain ⟨⟨-, hkept⟩, -⟩ := trace_induction (b.noting Deed.of) (Noted.lift act)
    (I := fun w => Concord w.unnoted ∧ Ledger.Kept w.world.notes w.world.world)
    (fun w w' hstep hw => ⟨hw.1.step hstep.unnoted, hw.2.step hstep hw.1⟩)
    (fun available w hw => ⟨hw.1.setAvailable available, hw.2.setAvailable available⟩) ms
    { world := {} } ⟨.start {}, .start⟩
  have hworld : (run (b.noting Deed.of).traced (Trace.lift (Noted.lift act)) ms
      { world := { world := { world := {} } } }).world.world = D.world :=
    congrArg Deployment.world
      (untraced_run_eq (b.noting Deed.of) (Noted.lift act) ms { world := {} })
  have hrun : Ledger.Kept l m := by
    show Ledger.Kept D.world.notes D.world.world
    rw [← hworld]
    exact hkept
  exact ⟨unnoted_run b (fun op _ => Deed.of op) act ms {}, hrun.outcomes_eq, hrun.accounts⟩

end Deployment

end BranchPool
