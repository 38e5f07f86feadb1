/-
The books of a recorder: which calls it fails, what it logs, and how it numbers facades.

* `Recorder.Incident` — a request, an attempt to make a facade, or a call on one;
* `Recorder.Chronicle` — all incidents so far, with the failures that were requested and
  injected, the records since the log was emptied, and the facades made, as counted from
  the incidents alone;
* `Recorder.Incident.Books` — what one incident does to the recorder, whichever it is;
* `Deployment.bookkeeping_run` — so a recorder fails exactly the calls for which a failure
  is due, and its log and its numbers are those of the chronicle.

Design note: the chronicle is kept beside the recorder and never looks into it, so that a
statement which compares the two says something about the recorder.
-/
import BranchPool.Proofs.Noted
import BranchPool.Proofs.Recorder.Faults
import Mathlib.Algebra.GroupWithZero.Nat

namespace BranchPool

open Facade

namespace Recorder

/-! ### Chronicles -/

/-- What happened to a recorder: a test asked something of it, somebody tried to make a
facade, or a facade received a call. -/
inductive Incident where
  | request (q : Request)
  /-- The number is that of the facade, or the one that it would have got. -/
  | creation (number : Nat) (answer : Except Facade.Error Unit)
  | call (e : Event)

namespace Incident

/-- The answer; a request is not refused. -/
def answer : Incident → Except Facade.Error Unit
  | request _ => .ok ()
  | creation _ answer => answer
  | call e => e.answer

/-- The call on a facade. -/
def call? : Incident → Option Event
  | call e => some e
  | _ => none

/-- What was asked of the recorder. -/
def request? : Incident → Option Request
  | request q => some q
  | _ => none

/-- The entry that belongs into the log, whatever the answer was. -/
def record? : Incident → Option CallRecord
  | request _ => none
  | creation number _ => some ⟨number, .create, none⟩
  | call e => e.operation.kind?.map fun kind => ⟨e.facade, kind, e.operation.branch?⟩

/-- The kind of call that this is, if it is one that is recorded. -/
def kind? (i : Incident) : Option Facade.Call := i.record?.map (·.call)

/-- Whether it is a call of a kind that failed because that was asked for. -/
def injects (c : Facade.Call) (i : Incident) : Bool :=
  match i.answer with
  | .error (.rejected (.injected kind)) => kind = c && i.kind? = some c
  | _ => false

/-- How many calls of a kind it asks to fail. -/
def asks (c : Facade.Call) : Incident → Nat
  | request (.failNext kind times) => if kind = c then times else 0
  | _ => 0

/-- Whether the failures still owed are to be forgotten. -/
def clearsFaults : Incident → Bool
  | request .clearFaults => true
  | _ => false

/-- Whether the log is to be emptied. -/
def clearsCalls : Incident → Bool
  | request .clearCalls => true
  | _ => false

/-- Whether a facade was made. -/
def makes : Incident → Bool
  | creation _ (.ok _) => true
  | _ => false

/-- Whether it is about calls of a kind: one of them, a request to fail some, or one to
forget all failures. -/
def concerns (c : Facade.Call) : Incident → Bool
  | request (.failNext kind _) => kind = c
  | request q => (request q).clearsFaults
  | i => i.kind? = some c

end Incident

/-- The incidents so far, the latest first. -/
abbrev Chronicle := List Incident

namespace Chronicle

/-- How many calls of a kind were to fail, as asked for since failures were last forgotten. -/
def requested (h : Chronicle) (c : Facade.Call) : Nat :=
  ((h.takeWhile fun i => !i.clearsFaults).map (·.asks c)).sum

/-- How many calls of a kind failed for that reason since failures were last forgotten. -/
def injected (h : Chronicle) (c : Facade.Call) : Nat :=
  (h.takeWhile fun i => !i.clearsFaults).countP (·.injects c)

/-- The records of the calls since the log was last emptied, the earliest first. -/
def logged (h : Chronicle) : List CallRecord :=
  ((h.takeWhile fun i => !i.clearsCalls).filterMap Incident.record?).reverse

/-- How many facades were made. -/
def made (h : Chronicle) : Nat := h.countP Incident.makes

/-- The calls that facades received. -/
def calls (h : Chronicle) : History := h.filterMap Incident.call?

/-- What was asked of the recorder. -/
def requests (h : Chronicle) : List Request := h.filterMap Incident.request?

/-- The incidents that are about calls of a kind. -/
def about (h : Chronicle) (c : Facade.Call) : Chronicle := h.filter (·.concerns c)

end Chronicle

/-! ### What happens, as a chronicle -/

/-- A call on a facade as an incident. -/
def Incident.ofCall (op : Operation) (f : RecordedFacade) (r : Recorder) : Incident :=
  .call ⟨f.id, op, (backend.perform op f r).answer⟩

/-- The observer that makes the chronicle.  A creation is an incident too, unlike
where only the calls on facades are noted. -/
def chronicler : Observer Recorder RecordedFacade (Noted Recorder Incident) where
  world := Noted.world
  made answer w r :=
    ⟨r, .creation (Chronicle.made w.notes) (answer.map fun _ => ()) :: w.notes⟩
  called op f _ w r := ⟨r, Incident.ofCall op f w.world :: w.notes⟩
  world_made _ _ _ := rfl
  world_called _ _ _ _ _ := rfl

/-- Recorded facades, with a chronicle of what happens to them. -/
def chronicled : Backend RecorderName (Noted Recorder Incident) RecordedFacade RecordedLink :=
  backend.observed chronicler

/-- A request, which goes into the chronicle. -/
def enter (q : Request) (w : Noted Recorder Incident) : Noted Recorder Incident :=
  ⟨w.world.heed q, .request q :: w.notes⟩

theorem perform_chronicled (op : Operation) :
    chronicled.perform op = chronicler.watch op (backend.perform op) :=
  backend.perform_observed chronicler op

/-! ### One incident -/

/-- The recorder with one failure of a kind less to come. -/
def relieved (r : Recorder) (call : Facade.Call) : Recorder :=
  { r with faults := fun c => if c = call then r.faults c - 1 else r.faults c }

namespace Incident

variable {i : Incident} {c : Facade.Call}

theorem injects_iff :
    i.injects c = true ↔ i.kind? = some c ∧ i.answer = .error (.rejected (.injected c)) := by
  rw [injects]
  split
  · next kind hanswer =>
    simp only [hanswer, Bool.and_eq_true, decide_eq_true_eq, Except.error.injEq,
      Error.rejected.injEq, Rejection.injected.injEq, and_comm]
  · next hanswer =>
    simp only [Bool.false_eq_true, false_iff, not_and]
    exact fun _ => hanswer c

/-- What is not about a kind of calls changes nothing in how many failures it is owed. -/
theorem of_not_concerns (h : i.concerns c = false) :
    i.clearsFaults = false ∧ i.asks c = 0 ∧ i.injects c = false := by
  cases i with
  | request q =>
    cases q with
    | failNext kind times =>
      -- a request for calls of another kind says nothing about this kind
      have hkind : kind ≠ c := by simpa [concerns] using h
      exact ⟨rfl, if_neg hkind, rfl⟩
    | clearFaults => cases h
    | _ => exact ⟨rfl, rfl, rfl⟩
  | creation number answer =>
    have hkind : (creation number answer).kind? ≠ some c := by simpa [concerns] using h
    refine ⟨rfl, rfl, Bool.eq_false_iff.mpr fun hinjects => hkind (injects_iff.mp hinjects).1⟩
  | call e =>
    have hkind : (call e).kind? ≠ some c := by simpa [concerns] using h
    refine ⟨rfl, rfl, Bool.eq_false_iff.mpr fun hinjects => hkind (injects_iff.mp hinjects).1⟩

/-- What an incident does to the books of a recorder. -/
structure Books (i : Incident) (r r' : Recorder) : Prop where
  /-- A call fails on request if a failure of its kind is owed. -/
  answer : ∀ c, i.answer = .error (.rejected (.injected c)) ↔ i.kind? = some c ∧ 0 < r.faults c
  /-- A failure is owed until it is injected or forgotten. -/
  faults : ∀ c, r'.faults c + (i.injects c).toNat =
    if i.clearsFaults then 0 else r.faults c + i.asks c
  log : r'.log = if i.clearsCalls then [] else r.log ++ i.record?.toList
  created : r'.created = r.created + i.makes.toNat

theorem books_request (q : Request) (r : Recorder) : (request q).Books r (r.heed q) where
  answer c := ⟨nofun, nofun⟩
  faults c := by
    cases q with
    | failNext kind times =>
      show (if c = kind then r.faults c + times else r.faults c) =
        r.faults c + if kind = c then times else 0
      by_cases hc : c = kind
      · rw [if_pos hc, if_pos hc.symm]
      · rw [if_neg hc, if_neg (Ne.symm hc), Nat.add_zero]
    | _ => rfl
  log := by cases q <;> first | rfl | exact (List.append_nil _).symm
  created := by cases q <;> rfl

/-- What is recorded is no request. -/
theorem of_record? {rec : CallRecord} (h : i.record? = some rec) :
    i.kind? = some rec.call ∧ i.clearsFaults = false ∧ i.clearsCalls = false ∧
      ∀ c, i.asks c = 0 := by
  have hkind : i.kind? = some rec.call := by rw [kind?, h]; rfl
  cases i with
  | request q => cases h
  | creation number answer => exact ⟨hkind, rfl, rfl, fun _ => rfl⟩
  | call e => exact ⟨hkind, rfl, rfl, fun _ => rfl⟩

/-- A call of a kind for which no failure is owed is logged. -/
theorem books_of_free {rec : CallRecord} {r : Recorder} (hrecord : i.record? = some rec)
    (hfree : r.faults rec.call = 0) (hanswer : ∀ c, i.answer ≠ .error (.rejected (.injected c)))
    (registry : BranchMap Unit) :
    i.Books r { r.noted rec.facade rec.call rec.branch with
      registry, created := r.created + i.makes.toNat } := by
  obtain ⟨hkind, hfaults, hcalls, hasks⟩ := of_record? hrecord
  have hquiet : ∀ c, i.injects c = false := fun c =>
    Bool.eq_false_iff.mpr fun hinjects => hanswer c (injects_iff.mp hinjects).2
  refine ⟨fun c => ⟨fun h => absurd h (hanswer c), ?_⟩, fun c => ?_, ?_, rfl⟩
  · -- the answer tells of no failure that was asked for, and none was owed
    rintro ⟨hc, howed⟩
    rw [hkind, Option.some.injEq] at hc
    subst hc
    omega
  · rw [hquiet, hfaults, hasks]
    rfl
  · rw [hcalls, hrecord]
    rfl

/-- A call of a kind for which a failure is owed is logged, and the failure is then no longer
owed. -/
theorem books_of_owed {rec : CallRecord} {r : Recorder} (hrecord : i.record? = some rec)
    (howed : 0 < r.faults rec.call)
    (hanswer : i.answer = .error (.rejected (.injected rec.call))) :
    i.Books r ((r.noted rec.facade rec.call rec.branch).relieved rec.call) := by
  obtain ⟨hkind, hfaults, hcalls, hasks⟩ := of_record? hrecord
  -- a creation that failed makes no facade, and other calls make none anyway
  have hmakes : i.makes = false := by
    cases i with
    | creation number answer =>
      cases hanswer
      rfl
    | _ => rfl
  refine ⟨fun c => ?_, fun c => ?_, ?_, by rw [hmakes]; rfl⟩
  · rw [hanswer, hkind]
    constructor
    · rintro ⟨⟩
      exact ⟨rfl, howed⟩
    · rintro ⟨⟨⟩, -⟩
      rfl
  -- the failure that is paid here is one of those owed for this kind; other kinds keep theirs
  · show (if c = rec.call then r.faults c - 1 else r.faults c) + (i.injects c).toNat = _
    rw [hfaults, hasks]
    by_cases hc : c = rec.call
    · subst hc
      have hinjects : i.injects rec.call = true := injects_iff.mpr ⟨hkind, hanswer⟩
      rw [hinjects, if_pos rfl]
      exact Nat.sub_add_cancel howed
    · have hinjects : i.injects c = false := Bool.eq_false_iff.mpr fun hinjects =>
        hc (Option.some.inj (hkind.symm.trans (injects_iff.mp hinjects).1)).symm
      rw [hinjects, if_neg hc]
      rfl
  · rw [hcalls, hrecord]
    rfl

end Incident

/-- A call is logged, and it fails if a failure of its kind is owed. -/
theorem record_cases (r : Recorder) (facade : Nat) (call : Facade.Call) (branch : Option Xid) :
    (r.faults call = 0 ∧ r.record facade call branch = (.ok (), r.noted facade call branch)) ∨
      (0 < r.faults call ∧ r.record facade call branch =
        (.error (.rejected (.injected call)), (r.noted facade call branch).relieved call)) := by
  by_cases h : r.faults call = 0
  · exact .inl ⟨h, if_pos h⟩
  · exact .inr ⟨Nat.pos_of_ne_zero h, if_neg h⟩

/-- An attempt to make a facade is booked under the number that the facade gets. -/
theorem books_create (name : RecorderName) (r : Recorder) :
    (Incident.creation r.created ((backend.create name r).1.map fun _ => ())).Books r
      (backend.create name r).2 := by
  simp only [backend]
  obtain ⟨hfree, hrecord⟩ | ⟨howed, hrecord⟩ := r.record_cases r.created .create none
  · rw [hrecord]
    exact Incident.books_of_free (i := .creation r.created (.ok ())) rfl hfree
      (fun _ h => by cases h) r.registry
  · rw [hrecord]
    exact Incident.books_of_owed
      (i := .creation r.created (.error (.rejected (.injected .create)))) rfl howed rfl

/-- A facade is numbered by how many were made before. -/
theorem id_of_create {name : RecorderName} {r : Recorder} {f : RecordedFacade}
    (h : (backend.create name r).1 = .ok f) : f.id = r.created := by
  simp only [backend] at h
  obtain ⟨-, hrecord⟩ | ⟨-, hrecord⟩ := r.record_cases r.created .create none
  · rw [hrecord] at h
    cases h
    rfl
  · rw [hrecord] at h
    cases h

end Recorder

open Recorder (Incident Chronicle)

namespace RecordedFacade

variable {α : Type} {f : RecordedFacade} {r : Recorder} {op : Operation} {reply : Reply α}

/-- Whether a facade stays itself, leaves everything but the prepared branches to the books, and
does not pretend that it failed on request. -/
structure Silent (f : RecordedFacade) (r : Recorder) (reply : Reply α) : Prop where
  id : reply.facade.id = f.id
  world : ∃ registry, reply.world = { r with registry }
  answer : ∀ c, reply.answer ≠ .error (.rejected (.injected c))

theorem silent_ok {f' : RecordedFacade} {a : α} {registry : BranchMap Unit} (hid : f'.id = f.id) :
    Silent f r ⟨.ok a, f', { r with registry }⟩ :=
  ⟨hid, ⟨registry, rfl⟩, fun _ h => by cases h⟩

theorem silent_error {e : Facade.Error} (he : ∀ c, e ≠ .rejected (.injected c)) :
    Silent f r (⟨.error e, f, r⟩ : Reply α) :=
  ⟨rfl, ⟨r.registry, rfl⟩, fun c h => he c (Except.error.inj h)⟩

theorem silent_whenOpen {body : RecordedFacade → Recorder → Reply α}
    (h : Silent f r (body f r)) : Silent f r (whenOpen body f r) := by
  rw [whenOpen]
  split
  · exact h
  · exact silent_error (by simp)

theorem silent_map {β : Type} (g : α → β) (h : Silent f r reply) : Silent f r (reply.map g) where
  id := h.id
  world := h.world
  answer c := by
    have hanswer := h.answer c
    show reply.answer.map g ≠ _
    cases heq : reply.answer with
    | ok a => exact nofun
    | error e => exact fun he => hanswer (heq.trans (congrArg Except.error (Except.error.inj he)))

/-- Whether a call is in the books, and left its facade the number that it had. -/
def Booked (op : Operation) (f : RecordedFacade) (r : Recorder) (reply : Reply Unit) : Prop :=
  reply.facade.id = f.id ∧ (Incident.call ⟨f.id, op, reply.answer⟩).Books r reply.world

theorem booked_recorded {call : Facade.Call} {branch : Option Xid}
    {body : RecordedFacade → Recorder → Reply Unit} (hkind : op.kind? = some call)
    (hbranch : op.branch? = branch) (hbody : ∀ r', Silent f r' (body f r')) :
    Booked op f r (recorded call branch body f r) := by
  have hentry : ∀ answer, (Incident.call ⟨f.id, op, answer⟩).record? =
      some ⟨f.id, call, branch⟩ := fun answer => by
    simp only [Incident.record?, hkind, hbranch, Option.map_some]
  rw [recorded]
  -- the record is made first, and only then is it decided whether the call fails
  obtain ⟨hfree, hrecord⟩ | ⟨howed, hrecord⟩ := r.record_cases f.id call branch
  · rw [hrecord]
    obtain ⟨hid, ⟨registry, hworld⟩, hanswer⟩ := hbody (r.noted f.id call branch)
    refine ⟨hid, ?_⟩
    simp only [hworld]
    exact Incident.books_of_free (hentry _) hfree hanswer registry
  · rw [hrecord]
    exact ⟨rfl, Incident.books_of_owed (hentry _) howed rfl⟩

/-- A call that is not recorded does not change the books. -/
theorem booked_silent {reply : Reply Unit} (hkind : op.kind? = none) (h : Silent f r reply) :
    Booked op f r reply := by
  obtain ⟨hid, ⟨registry, hworld⟩, hanswer⟩ := h
  have hentry : (Incident.call ⟨f.id, op, reply.answer⟩).record? = none := by
    rw [Incident.record?, hkind]
    rfl
  -- the call leaves no record, so it counts for no kind
  have hother : ∀ c, (Incident.call ⟨f.id, op, reply.answer⟩).kind? ≠ some c := by
    rw [Incident.kind?, hentry]
    exact nofun
  refine ⟨hid, ?_⟩
  rw [hworld]
  constructor
  · exact fun c => ⟨fun h => absurd h (hanswer c), fun h => absurd h.1 (hother c)⟩
  · intro c
    have hquiet : (Incident.call ⟨f.id, op, reply.answer⟩).injects c = false :=
      Bool.eq_false_iff.mpr fun h => hother c (Incident.injects_iff.mp h).1
    rw [hquiet]
    rfl
  · rw [hentry]
    exact (List.append_nil _).symm
  · rfl

theorem recorded_map {β : Type} (g : α → β) (call : Facade.Call) (branch : Option Xid)
    (body : RecordedFacade → Recorder → Reply α) (f : RecordedFacade) (r : Recorder) :
    (recorded call branch body f r).map g =
      recorded call branch (fun f r => (body f r).map g) f r := by
  rw [recorded, recorded]
  rcases r.record f.id call branch with ⟨e | u, r'⟩ <;> rfl

theorem id_release (f : RecordedFacade) (x : Xid) : (f.release x).id = f.id := by
  rw [release]
  split <;> rfl

theorem booked_finish (how : Finish) (x : Xid) (f : RecordedFacade) (r : Recorder) :
    Booked (.finish how x) f r (f.finish how x r) := by
  -- the facade lets go of the branch first, and keeps its number
  have hbooked : Booked (.finish how x) (f.release x) r (f.finish how x r) := by
    cases how with
    | commit ignoreUnknown =>
      refine booked_recorded rfl rfl fun r' => silent_whenOpen ?_
      split
      · exact silent_error (by simp)
      · split
        · exact silent_ok rfl
        · split
          · exact silent_ok rfl
          · exact silent_error (by simp)
    | rollback =>
      refine booked_recorded rfl rfl fun r' => silent_whenOpen ?_
      split
      · exact silent_ok rfl
      · split
        · exact silent_ok rfl
        · exact silent_error (by simp)
    | failAndRollback =>
      exact booked_recorded rfl rfl fun r' => silent_whenOpen (silent_ok rfl)
  rwa [Booked, id_release] at hbooked

theorem silent_reestablish (f : RecordedFacade) (r : Recorder) : Silent f r (f.reestablish r) :=
  silent_whenOpen (silent_ok rfl)

theorem silent_establish (f : RecordedFacade) (r : Recorder) : Silent f r (f.establish r) := by
  rw [establish_eq]
  refine silent_whenOpen ?_
  split
  · exact silent_ok rfl
  · exact silent_reestablish f r

/-- Whatever call a facade receives, it is in the books. -/
theorem booked_perform (op : Operation) (f : RecordedFacade) (r : Recorder) :
    Booked op f r (Recorder.backend.perform op f r) := by
  cases op with
  | openUp =>
    show Booked .openUp f r (f.openUp r)
    refine booked_recorded rfl rfl fun r' => ?_
    exact silent_ok rfl
  | close =>
    show Booked .close f r (f.close r)
    refine booked_recorded rfl rfl fun r' => ?_
    exact silent_ok rfl
  | start x =>
    refine booked_recorded rfl rfl fun r' => silent_whenOpen ?_
    split
    · exact silent_error (by simp)
    · exact silent_ok rfl
  | endAndPrepare x =>
    refine booked_recorded rfl rfl fun r' => silent_whenOpen ?_
    split
    · exact silent_ok rfl
    · exact silent_error (by simp)
  | finish how x => exact booked_finish how x f r
  | recover =>
    -- the branches that are found are dropped, as the books do not have them
    have hmap := recorded_map (fun _ => ()) .recover none
      (whenOpen fun f r => ⟨.ok r.prepared, f, r⟩) f r
    show Booked .recover f r ((f.recover r).map fun _ => ())
    rw [recover, hmap]
    exact booked_recorded rfl rfl fun r' => silent_map _ (silent_whenOpen (silent_ok rfl))
  -- uses of the data connection are not recorded
  | useData use =>
    refine booked_silent rfl ?_
    cases use with
    | ask => exact silent_ok rfl
    | check => exact silent_ok rfl
    | establish => exact silent_map _ (silent_establish f r)
    | drop => exact silent_ok rfl
    | reestablish => exact silent_map _ (silent_reestablish f r)

end RecordedFacade

/-! ### Runs -/

namespace Recorder

namespace Chronicle

variable {h : Chronicle} {i : Incident} {c : Facade.Call} {r r' : Recorder}

theorem requested_cons (i : Incident) (h : Chronicle) (c : Facade.Call) :
    requested (i :: h) c = if i.clearsFaults then 0 else i.asks c + requested h c := by
  rw [requested, List.takeWhile_cons]
  cases i.clearsFaults <;> simp [requested]

theorem injected_cons (i : Incident) (h : Chronicle) (c : Facade.Call) :
    injected (i :: h) c = if i.clearsFaults then 0 else injected h c + (i.injects c).toNat := by
  rw [injected, List.takeWhile_cons]
  cases i.clearsFaults <;> cases hi : i.injects c <;> simp [injected, hi]

theorem logged_cons (i : Incident) (h : Chronicle) :
    logged (i :: h) = if i.clearsCalls then [] else logged h ++ i.record?.toList := by
  rw [logged, List.takeWhile_cons]
  cases i.clearsCalls <;> cases hi : i.record? <;> simp [logged, hi]

theorem made_cons (i : Incident) (h : Chronicle) : made (i :: h) = made h + i.makes.toNat := by
  cases hi : i.makes <;> simp [made, hi]

/-- What is requested and injected of a kind can be read off the incidents about it. -/
theorem owed_about (h : Chronicle) (c : Facade.Call) :
    requested (h.about c) c = requested h c ∧ injected (h.about c) c = injected h c := by
  induction h with
  | nil => exact ⟨rfl, rfl⟩
  | cons i h ih =>
    obtain ⟨hrequested, hinjected⟩ := ih
    rw [requested_cons, injected_cons, ← hrequested, ← hinjected]
    cases hi : i.concerns c with
    | true =>
      rw [about, List.filter_cons_of_pos hi, requested_cons, injected_cons]
      exact ⟨rfl, rfl⟩
    | false =>
      -- what is not about this kind is filtered out, and would not have counted
      obtain ⟨hclears, hasks, hinjects⟩ := Incident.of_not_concerns hi
      rw [about, List.filter_cons_of_neg (by simp [hi]), hclears, hasks, hinjects]
      exact ⟨(Nat.zero_add _).symm, rfl⟩

/-- Whether a chronicle tells what is in the books of a recorder, and why its calls failed. -/
structure Tells (h : Chronicle) (r : Recorder) : Prop where
  faults : ∀ c, r.faults c + h.injected c = h.requested c
  log : r.log = h.logged
  created : r.created = h.made
  answer : ∀ (i : Incident) (earlier : Chronicle), (i :: earlier) <:+ h → ∀ c,
    i.answer = .error (.rejected (.injected c)) ↔
      i.kind? = some c ∧ earlier.injected c < earlier.requested c

theorem Tells.nil : Tells [] {} where
  faults _ := rfl
  log := rfl
  created := rfl
  answer i earlier hsuffix := by cases List.suffix_nil.mp hsuffix

/-- One more incident, whichever it is. -/
theorem Tells.cons (h' : h.Tells r) (hi : i.Books r r') : Tells (i :: h) r' where
  faults c := by
    have howed := h'.faults c
    have hfaults := hi.faults c
    rw [requested_cons, injected_cons]
    cases hclears : i.clearsFaults with
    -- all that was owed is forgotten, so both sums begin anew
    | true =>
      rw [hclears, if_pos rfl] at hfaults
      simp only [if_true]
      omega
    | false =>
      rw [hclears, if_neg Bool.false_ne_true] at hfaults
      simp only [Bool.false_eq_true, if_false]
      omega
  log := by rw [hi.log, h'.log, logged_cons]
  created := by rw [hi.created, h'.created, made_cons]
  answer j earlier hsuffix c := by
    -- the latest incident, or one of those that the books had before
    obtain heq | hsuffix := List.suffix_cons_iff.mp hsuffix
    · obtain ⟨rfl, rfl⟩ := List.cons.inj heq
      have howed := h'.faults c
      rw [hi.answer c, show 0 < r.faults c ↔ injected earlier c < requested earlier c by omega]
    · exact h'.answer j earlier hsuffix c

end Chronicle

/-- Whether the chronicle of a trace tells what is in the books, and its facades are numbered as
they were made. -/
structure Kept (w : Trace (Noted Recorder Incident) RecordedFacade) : Prop where
  tells : Chronicle.Tells w.world.notes w.world.world
  ids : w.facades.map (·.id) = List.range (Chronicle.made w.world.notes)
  calls : Chronicle.calls w.world.notes = w.events

namespace Kept

variable {w w' : Trace (Noted Recorder Incident) RecordedFacade}

theorem start : Kept { world := { world := {} } } := ⟨.nil, rfl, rfl⟩

theorem request (q : Request) (h : Kept w) : Kept (Trace.lift enter q w) where
  tells := h.tells.cons (Incident.books_request q w.world.world)
  ids := h.ids.trans (congrArg List.range (Chronicle.made_cons (.request q) w.world.notes).symm)
  calls := h.calls

/-- A creation counts only if it succeeds. -/
theorem made_chronicler (answer : Except Error RecordedFacade) (w : Noted Recorder Incident)
    (r : Recorder) :
    Chronicle.made (chronicler.made answer w r).notes =
      Chronicle.made w.notes + answer.isOk.toNat := by
  cases answer <;> exact Chronicle.made_cons _ _

/-- The number under which an attempt is booked is the one that the recorder would give. -/
theorem creation (name : RecorderName) (h : Kept w) :
    Chronicle.Tells (chronicled.create name w.world).2.notes
      (chronicled.create name w.world).2.world := by
  have hbooks := books_create name w.world.world
  rw [h.tells.created] at hbooks
  exact h.tells.cons hbooks

theorem made {name : RecorderName} {f : RecordedFacade} {world : Noted Recorder Incident}
    (hcreate : chronicled.create name w.world = (.ok f, world)) (h : Kept w) :
    Kept { w with world, facades := w.facades ++ [f] } := by
  have htells := h.creation name
  rw [hcreate] at htells
  obtain ⟨hanswer, rfl⟩ := Prod.mk.inj hcreate
  have hid : f.id = Chronicle.made w.world.notes :=
    (id_of_create hanswer).trans h.tells.created
  refine ⟨htells, ?_, h.calls⟩
  rw [made_chronicler, hanswer, List.map_append, h.ids]
  show _ = List.range (Chronicle.made w.world.notes + 1)
  rw [List.range_succ, ← hid]
  rfl

theorem notMade {name : RecorderName} {e : Facade.Error} {world : Noted Recorder Incident}
    (hcreate : chronicled.create name w.world = (.error e, world)) (h : Kept w) :
    Kept { w with world } := by
  have htells := h.creation name
  rw [hcreate] at htells
  obtain ⟨hanswer, rfl⟩ := Prod.mk.inj hcreate
  refine ⟨htells, ?_, h.calls⟩
  rw [made_chronicler, hanswer]
  exact h.ids

theorem getElem?_ids {n : Nat} {f : RecordedFacade} (hf : w.facades[n]? = some f) :
    (w.facades.map (·.id))[n]? = some f.id := by
  rw [List.getElem?_map, hf]
  rfl

/-- The number of a facade is its place in the order of creation. -/
theorem id_eq (h : Kept w) {n : Nat} {f : RecordedFacade} (hf : w.facades[n]? = some f) :
    f.id = n := by
  have hid := getElem?_ids hf
  rw [h.ids] at hid
  obtain ⟨_, hrange⟩ := List.getElem?_eq_some_iff.mp hid
  rw [← hrange, List.getElem_range]

theorem called (op : Operation) {n : Nat} {f : RecordedFacade} (hf : w.facades[n]? = some f)
    (h : Kept w) : Kept (Trace.observe op (chronicled.perform op) ⟨n, f⟩ w).world := by
  obtain ⟨hid, hbooks⟩ := RecordedFacade.booked_perform op f w.world.world
  obtain ⟨hn, hget⟩ := List.getElem?_eq_some_iff.mp (getElem?_ids hf)
  rw [perform_chronicled]
  refine ⟨h.tells.cons hbooks, ?_, ?_⟩
  · -- the facade keeps its number, and no other one is touched
    have hset : (w.facades.set n (backend.perform op f w.world.world).facade).map (·.id) =
        w.facades.map (·.id) := by
      rw [List.map_set, hid, ← hget, List.set_getElem_self]
    have hmade := Chronicle.made_cons (Incident.ofCall op f w.world.world) w.world.notes
    exact hset.trans (h.ids.trans (congrArg List.range hmade.symm))
  · show Event.mk f.id op (backend.perform op f w.world.world).answer ::
        Chronicle.calls w.world.notes = _
    rw [h.id_eq hf, h.calls, Trace.observe, Observer.watch, map_unit]
    rfl

theorem step (hstep : Trace.Step chronicled w w') (h : Kept w) : Kept w' := by
  cases hstep with
  | made hcreate => exact h.made hcreate
  | notMade hcreate => exact h.notMade hcreate
  | called op hf => exact h.called op hf

end Kept

end Recorder

namespace Deployment

variable {γ ε : Type}

/-- What others do to the world in a move. -/
def Move.environment? : Move γ ε → Option ε
  | .environment e => some e
  | _ => none

theorem requests_handling {s s' : List RecordedFacade × Noted Recorder Incident}
    (h : Handling Recorder.chronicled s s') :
    Chronicle.requests s'.2.notes = Chronicle.requests s.2.notes := by
  cases h with
  | make hcreate =>
    obtain ⟨-, rfl⟩ := Prod.mk.inj hcreate
    rfl
  | notMade hcreate =>
    obtain ⟨-, rfl⟩ := Prod.mk.inj hcreate
    rfl
  | call op =>
    rw [Recorder.perform_chronicled]
    rfl
  | _ => rfl

theorem requests_apply (D : Deployment RecorderName RecordedFacade (Noted Recorder Incident))
    (m : Move RecorderName Recorder.Request) :
    Chronicle.requests (m.apply Recorder.chronicled Recorder.enter D).world.notes =
      m.environment?.toList ++ Chronicle.requests D.world.notes := by
  obtain ⟨q, rfl⟩ | hchain := apply_handlings Recorder.chronicled Recorder.enter D m
  · rfl
  cases m with
  | environment q => rfl
  | _ =>
    exact hchain.preserve (I := fun s => Chronicle.requests s.2.notes =
      Chronicle.requests D.world.notes) (fun _ _ h hs => (requests_handling h).trans hs) rfl

/-- The requests in a chronicle are those of the run. -/
theorem requests_run (ms : List (Move RecorderName Recorder.Request))
    (D : Deployment RecorderName RecordedFacade (Noted Recorder Incident)) :
    Chronicle.requests (run Recorder.chronicled Recorder.enter ms D).world.notes =
      (ms.filterMap Move.environment?).reverse ++ Chronicle.requests D.world.notes := by
  induction ms generalizing D with
  | nil => rfl
  | cons m ms ih =>
    show Chronicle.requests (run Recorder.chronicled Recorder.enter ms
      (m.apply Recorder.chronicled Recorder.enter D)).world.notes = _
    rw [ih, requests_apply, ← List.append_assoc, List.filterMap_cons]
    cases m.environment? <;> simp

/-- In every run of providers, and of facades that are used directly, over one recorder, with
requests at any time: a call of a kind is rejected as one that was to fail, with the code for a
failed resource manager, if and only if fewer failures of that kind were injected than requested
since failures were last forgotten, on which nothing has a say that is about other kinds.  The
log has one record for each creation and each recorded call since it was last emptied, whether
they succeeded or not, the earliest first.  The facades are numbered from zero as they are made,
and a creation that fails uses up no number.  All this is counted from a chronicle, which has the
calls and the requests of the run and changes nothing in it. -/
theorem bookkeeping_run (ms : List (Move RecorderName Recorder.Request)) :
    let b := Recorder.backend
    let D := run Recorder.chronicled.traced (Trace.lift Recorder.enter) ms
      { world := { world := { world := {} } } }
    let h : Chronicle := D.world.world.notes
    let r := (run b Recorder.heed ms { world := {} }).world
    (D.untraced.unnoted = run b Recorder.heed ms { world := {} } ∧ h.calls = D.world.events ∧
        h.requests = (ms.filterMap Move.environment?).reverse) ∧
      (∀ (i : Incident) (earlier : Chronicle), (i :: earlier) <:+ h → ∀ c,
        let failure := Facade.Error.rejected (.injected c)
        failure.xaCode? = some (-7) ∧
          (i.answer = .error failure ↔
            i.kind? = some c ∧ earlier.injected c < earlier.requested c) ∧
          ∀ other : Chronicle, other.about c = earlier.about c →
            (other.injected c < other.requested c ↔ earlier.injected c < earlier.requested c)) ∧
      r.log = h.logged ∧
      (D.world.facades.map (·.id) = List.range h.made ∧ r.created = h.made ∧
        ∀ t ∈ D.held, t.value.id = t.number) := by
  intro b D h r
  obtain ⟨hkept, hholds⟩ := trace_induction Recorder.chronicled Recorder.enter
    (I := Recorder.Kept) (fun _ _ hstep hw => hw.step hstep) (fun q _ hw => hw.request q) ms
    { world := {} } .start
  have huntraced : D.untraced =
      run Recorder.chronicled Recorder.enter ms { world := { world := {} } } :=
    untraced_run_eq Recorder.chronicled Recorder.enter ms { world := {} }
  have hplain : D.untraced.unnoted = run b Recorder.heed ms { world := {} } := by
    rw [huntraced]
    exact (image_run (Recorder.backend.observed_translation Recorder.chronicler) (fun _ _ => rfl) ms
      { world := { world := {} } }).symm
  have hrequests : h.requests = (ms.filterMap Move.environment?).reverse := by
    have hnotes := requests_run ms { world := { world := {} } }
    rw [← huntraced] at hnotes
    exact hnotes.trans (List.append_nil _)
  have hworld : r = D.world.world.world := congrArg (·.world) hplain.symm
  refine ⟨⟨hplain, hkept.calls, hrequests⟩,
    fun i earlier hsuffix c => ⟨rfl, ?_, fun other habout => ?_⟩, ?_, hkept.ids, ?_,
    fun t ht => hkept.id_eq (hholds.current t ht)⟩
  · exact hkept.tells.answer i earlier hsuffix c
  · -- both are read off the same incidents
    obtain ⟨hrequested, hinjected⟩ := earlier.owed_about c
    rw [← hrequested, ← hinjected, ← habout, (other.owed_about c).1, (other.owed_about c).2]
  · rw [hworld]
    exact hkept.tells.log
  · rw [hworld]
    exact hkept.tells.created

end Deployment

end BranchPool
