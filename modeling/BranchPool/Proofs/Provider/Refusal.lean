/-
Which calls a provider refuses.

* `Provider.Forbids` — the calls that break the rules on the order of calls;
* `Provider.LacksBranch` — the uses of a data connection while no branch is
  active;
* `Provider.Course.verdict` — these are the calls that are refused, and no
  others;
* `Provider.refusal_run` — so it is after every run, and a call that is refused
  leaves no mark on anything.
-/
import BranchPool.Proofs.Provider.Course

namespace BranchPool.Provider

open Facade

variable {γ σ φ κ ε α : Type}

/-- Whether a call breaks the rules on the order of calls. -/
def Forbids (p : Provider γ φ) : Call → Prop
  | .openUp => p.active?.isSome = true
  | .close => False
  | .start x =>
    p.isInitialized = false ∨ p.active?.isSome = true ∨ (p.boundFacade? x).isSome = true
  | .endAndPrepare x => p.isInitialized = false ∨ p.active? ≠ some x
  | .finish (.commit _) x => p.isInitialized = false ∨ p.active? = some x
  | .finish .rollback x => p.isInitialized = false ∨ p.active? = some x
  | .finish .failAndRollback _ => p.isInitialized = false
  | .recover => p.isInitialized = false
  | .useData _ => False

/-- Whether a call is for the active branch of a provider that has none. -/
def LacksBranch (p : Provider γ φ) : Call → Prop
  | .useData _ => p.isInitialized = false ∨ p.active? = none
  | _ => False

/-- Whether a call that fails so was refused. -/
def Error.IsRefusal : Error → Prop
  | .stateViolation _ => True
  | .noActiveBranch _ => True
  | _ => False

/-- Whether an answer tells of no refusal. -/
def Admits (answer : Except Error α) : Prop := ∀ e, answer = .error e → ¬e.IsRefusal

theorem admits_ok (a : α) : Admits (.ok a) := by
  intro e he
  cases he

theorem admits_error {e : Error} (h : ¬e.IsRefusal) : Admits (.error e : Except Error α) := by
  rintro _ ⟨⟩
  exact h

variable {b : Backend γ σ φ κ} {c : Call} {p : Provider γ φ} {w : σ}
  {reply : Reply γ φ σ (Result κ)}

theorem forbids_finish {how : Finish} {x : Xid} : p.Forbids (.finish how x) ↔
    p.isInitialized = false ∨ needsEnded how = true ∧ p.active? = some x := by
  cases how <;> simp [Forbids, needsEnded]

/-- A violation that is true of a call is one of the rules that the call
breaks. -/
theorem Violation.Applies.forbids {v : Violation} (h : v.Applies c p) : p.Forbids c := by
  cases v with
  | notOpen =>
    obtain ⟨hneeds, hclosed⟩ := h
    cases c with
    | start x => exact .inl hclosed
    | endAndPrepare x => exact .inl hclosed
    | finish how x => exact forbids_finish.mpr (.inl hclosed)
    | recover => exact hclosed
    | _ => cases hneeds
  | openWhileActive y =>
    obtain ⟨rfl, hactive⟩ := h
    show p.active?.isSome = true
    rw [hactive]
    rfl
  | startWhileActive x y =>
    obtain ⟨rfl, hactive⟩ := h
    have hsome : p.active?.isSome = true := by rw [hactive]; rfl
    exact .inr (.inl hsome)
  | alreadyBound x =>
    -- the facade that is named shows that the branch is bound
    obtain ⟨rfl, f, hf⟩ := h
    have hsome : (p.boundFacade? x).isSome = true := by rw [hf]; rfl
    exact .inr (.inr hsome)
  | endOther x y =>
    obtain ⟨rfl, hactive, hne⟩ := h
    refine .inr fun heq => hne ?_
    rw [hactive] at heq
    exact Option.some.inj heq
  | endNone x =>
    obtain ⟨rfl, hactive⟩ := h
    refine .inr ?_
    rw [hactive]
    nofun
  | stillActive action x =>
    obtain ⟨how, rfl, hneeds, hactive, -⟩ := h
    exact forbids_finish.mpr (.inr ⟨hneeds, hactive⟩)
  -- these two are true of no call
  | activeUnbound x => exact h.elim
  | stated reason => exact h.elim

/-- A call that borrows a facade breaks no rule. -/
theorem not_forbids_of_borrows {factory : γ} {s : Pool φ} {tally : Tally} (h : c.Borrows s) :
    ¬Forbids ⟨factory, some s, tally⟩ c := by
  cases c with
  | start x =>
    obtain ⟨hactive, hget⟩ := h
    rintro (hclosed | hsome | hsome)
    · cases hclosed
    · have hnone : active? ⟨factory, some s, tally⟩ = none := hactive
      rw [hnone] at hsome
      cases hsome
    · have hnone : boundFacade? ⟨factory, some s, tally⟩ x = none := hget
      rw [hnone] at hsome
      cases hsome
  | finish how x =>
    rw [forbids_finish]
    rintro (hclosed | hended)
    · cases hclosed
    · exact h.1 hended
  | recover => exact nofun
  | _ => exact h.elim

theorem not_lacksBranch_of_borrows {s : Pool φ} (h : c.Borrows s) : ¬p.LacksBranch c := by
  cases c with
  | useData use => exact h.elim
  | _ => exact id

/-- No failure of a facade that finishes a branch is a refusal. -/
theorem admits_concludeFinish (how : Finish) (x : Xid) (answer : Except Facade.Error Unit)
    (p : Provider γ φ) (w : σ) :
    Admits ((concludeFinish how x answer p w).map fun _ => (.done : Result κ)).answer := by
  cases answer with
  | ok u => exact admits_ok _
  | error e => exact admits_error id

/-- No failure of a facade in use is a refusal. -/
theorem admits_mapError_resource (answer : Except Facade.Error α) :
    Admits (answer.mapError Error.resource) := by
  cases answer with
  | ok a => exact admits_ok a
  | error e => exact admits_error id

/-- A call breaks a rule, or lacks a branch, and is told so; or it does neither,
and is not refused. -/
theorem Course.verdict (h : Course b c p w reply) :
    (∃ v, Violation.Applies c p v ∧ reply = refuse v p w) ∨
    (∃ use, c = .useData use ∧ p.active? = none ∧
      reply = ⟨.error (.noActiveBranch use.name), p, w⟩) ∨
    (¬p.Forbids c ∧ ¬p.LacksBranch c ∧ Admits reply.answer) := by
  cases h with
  | refused h => exact .inl ⟨_, h, rfl⟩
  | unready h => exact .inr (.inl ⟨_, rfl, h, rfl⟩)
  | opened h =>
    refine .inr (.inr ⟨fun hsome => ?_, id, admits_ok _⟩)
    have hsome : p.active?.isSome = true := hsome
    rw [h] at hsome
    cases hsome
  | @closed _ _ failures _ h =>
    refine .inr (.inr ⟨id, id, ?_⟩)
    cases failures with
    | nil => exact admits_ok _
    | cons e es => exact admits_error id
  -- what happens to the facade that was lent is no longer about the order of calls
  | unmade hborrows hidle hmake =>
    exact .inr (.inr ⟨not_forbids_of_borrows hborrows, not_lacksBranch_of_borrows hborrows,
      admits_error id⟩)
  | rejected hborrows hlent hanswer =>
    exact .inr (.inr ⟨not_forbids_of_borrows hborrows, id, admits_error id⟩)
  | started hborrows hlent hanswer =>
    exact .inr (.inr ⟨not_forbids_of_borrows hborrows, id, admits_ok _⟩)
  | unprepared hactive hget hanswer =>
    refine .inr (.inr ⟨?_, id, admits_error id⟩)
    rintro (hclosed | hne)
    · cases hclosed
    · exact hne hactive
  | prepared hactive hget hanswer =>
    refine .inr (.inr ⟨?_, id, admits_ok _⟩)
    -- it was the active branch that was ended, so the rule is kept
    rintro (hclosed | hne)
    · cases hclosed
    · exact hne hactive
  | finishedBound hended hget =>
    refine .inr (.inr ⟨?_, id, admits_concludeFinish _ _ _ _ _⟩)
    rw [forbids_finish]
    rintro (hclosed | hactive)
    · cases hclosed
    · exact hended hactive
  | finishedLent hborrows hlent =>
    exact .inr (.inr ⟨not_forbids_of_borrows hborrows, id, admits_concludeFinish _ _ _ _ _⟩)
  | unrecovered hlent hanswer => exact .inr (.inr ⟨nofun, id, admits_error id⟩)
  | recovered hlent hanswer => exact .inr (.inr ⟨nofun, id, admits_ok _⟩)
  | @used use x factory s tally w f reply hactive hget hreply =>
    refine .inr (.inr ⟨id, ?_, admits_mapError_resource _⟩)
    rintro (hclosed | hnone)
    · cases hclosed
    · have hsome : active? ⟨factory, some s, tally⟩ = some x := hactive
      rw [hnone] at hsome
      cases hsome

/-- A violation is reported exactly where a call breaks a rule. -/
theorem Course.forbids_iff (h : Course b c p w reply) :
    (∃ v, reply.answer = .error (.stateViolation v)) ↔ p.Forbids c := by
  constructor
  · rintro ⟨v, hv⟩
    obtain ⟨v', happlies, -⟩ | ⟨use, -, -, rfl⟩ | ⟨-, -, hnot⟩ := h.verdict
    · exact happlies.forbids
    · cases hv
    · exact (hnot _ hv trivial).elim
  · intro hforbids
    obtain ⟨v, -, rfl⟩ | ⟨use, rfl, -, -⟩ | ⟨hallowed, -, -⟩ := h.verdict
    · exact ⟨v, rfl⟩
    · exact hforbids.elim
    · exact absurd hforbids hallowed

/-- The lack of a branch is reported exactly where a call lacks one. -/
theorem Course.lacksBranch_iff (h : Course b c p w reply) :
    (∃ operation, reply.answer = .error (.noActiveBranch operation)) ↔ p.LacksBranch c := by
  constructor
  · rintro ⟨operation, hoperation⟩
    obtain ⟨v, -, rfl⟩ | ⟨use, rfl, hnone, -⟩ | ⟨-, -, hnot⟩ := h.verdict
    · cases hoperation
    · exact .inr hnone
    · exact (hnot _ hoperation trivial).elim
  · intro hlacks
    obtain ⟨v, happlies, -⟩ | ⟨use, -, -, rfl⟩ | ⟨-, hready, -⟩ := h.verdict
    · -- no rule is about the data connection
      have hforbids := happlies.forbids
      cases c with
      | useData use => exact hforbids.elim
      | _ => exact hlacks.elim
    · exact ⟨use.name, rfl⟩
    · exact absurd hlacks hready

/-- The violation that is reported is true of the call. -/
theorem Course.applies (h : Course b c p w reply) {v : Violation}
    (hv : reply.answer = .error (.stateViolation v)) : v.Applies c p := by
  obtain ⟨v', happlies, rfl⟩ | ⟨use, -, -, rfl⟩ | ⟨-, -, hnot⟩ := h.verdict
  · cases hv
    exact happlies
  · cases hv
  · exact (hnot _ hv trivial).elim

/-- The lack of a branch is reported with the name of the use that was tried. -/
theorem Course.use_of_noActiveBranch (h : Course b c p w reply) {operation : String}
    (hoperation : reply.answer = .error (.noActiveBranch operation)) :
    ∃ use, c = .useData use ∧ operation = use.name := by
  obtain ⟨v, -, rfl⟩ | ⟨use, rfl, -, rfl⟩ | ⟨-, -, hnot⟩ := h.verdict
  · cases hoperation
  · cases hoperation
    exact ⟨use, rfl, rfl⟩
  · exact (hnot _ hoperation trivial).elim

/-- A call that is refused leaves everything as it was. -/
theorem Course.unchanged (h : Course b c p w reply) (hrefused : p.Forbids c ∨ p.LacksBranch c) :
    reply.provider = p ∧ reply.world = w := by
  obtain ⟨v, -, rfl⟩ | ⟨use, -, -, rfl⟩ | ⟨hallowed, hready, -⟩ := h.verdict
  · exact ⟨rfl, rfl⟩
  · exact ⟨rfl, rfl⟩
  · exact (hrefused.elim hallowed hready).elim

/-- After every run, a call is refused exactly if it breaks a rule or lacks a
branch, and for a reason that is true of it.  The provider then stays as it is,
and so does the world, whatever the backend: even one that notes each call in
its world has nothing to note.  It is never answered that the active branch has no
facade, or in words that the idle queue is empty just after a facade was put into it. -/
theorem refusal_run (b : Backend γ σ φ κ) (act : ε → σ → σ) (ms : List (Move ε)) (factory : γ)
    (w : σ) :
    let s := run b act ms ⟨.ofFactory factory, w⟩
    let p := s.provider
    ∀ c : Call,
      let answer := (c.run b p s.world).answer
      ((∃ v, answer = .error (.stateViolation v)) ↔ p.Forbids c) ∧
      ((∃ operation, answer = .error (.noActiveBranch operation)) ↔ p.LacksBranch c) ∧
      (∀ v, answer = .error (.stateViolation v) → v.Applies c p) ∧
      (∀ operation, answer = .error (.noActiveBranch operation) →
        ∃ use, c = .useData use ∧ operation = use.name) ∧
      (p.Forbids c ∨ p.LacksBranch c →
        (c.run b p s.world).provider = p ∧ (c.run b p s.world).world = s.world ∧
        ∀ {τ : Type} (b' : Backend γ τ φ κ) (w' : τ),
          (c.run b' p w').provider = p ∧ (c.run b' p w').world = w') ∧
      (∀ x, answer ≠ .error (.stateViolation (.activeUnbound x))) ∧
      ∀ reason, answer ≠ .error (.stateViolation (.stated reason)) := by
  intro s p c answer
  have hsound : p.Sound := sound_run ms (sound_ofFactory factory)
  have hcourse : Course b c p s.world (c.run b p s.world) := course_run c hsound s.world
  refine ⟨hcourse.forbids_iff, hcourse.lacksBranch_iff, fun v hv => hcourse.applies hv,
    fun operation hoperation => hcourse.use_of_noActiveBranch hoperation, fun hrefused => ?_,
    fun x hx => hcourse.applies hx, fun reason hreason => hcourse.applies hreason⟩
  obtain ⟨hprovider, hworld⟩ := hcourse.unchanged hrefused
  exact ⟨hprovider, hworld, fun b' w' => (course_run (b := b') c hsound w').unchanged hrefused⟩

end BranchPool.Provider
