/-
How large a pool grows.

Facades are made when they are needed and not before, and they are kept.  So a
pool is as large as the largest number of facades that were needed at one time.

* `Backend.metered` — a backend that does what another one does, and counts the
  facades that are made, and the attempts to make one, to open one or to start a
  branch that fail;
* `Provider.Deal.demand` — how many facades a call needs;
* `Provider.Course.supplied` — as long as no attempt fails, a call leaves as many
  facades as there were, or as it needs;
* `Provider.demand_run` — so the size of a pool is the peak of the demand after
  every run, and a facade is made only if none is idle.
-/
import BranchPool.Proofs.Observer
import BranchPool.Proofs.Provider.Ledger
import BranchPool.Proofs.Provider.Transcript
import BranchPool.ResourceManager.Session

namespace BranchPool

open Facade

variable {γ σ φ κ ε α : Type}

/-! ### Counted attempts -/

/-- A world with a count of the facades made in it, and of the attempts to make
or open a facade or to start a branch that failed. -/
structure Metered (σ : Type) where
  world : σ
  made : Nat := 0
  failures : Nat := 0

namespace Metered

/-- Others act on a world, which is none of these attempts. -/
def lift (act : ε → σ → σ) (e : ε) (w : Metered σ) : Metered σ :=
  { w with world := act e w.world }

end Metered

/-- Whether a call is an attempt to open a facade or to start a branch. -/
def Facade.Operation.isAttempt : Operation → Bool
  | .openUp => true
  | .start _ => true
  | _ => false

/-- The observer that counts what is made, and which attempts fail. -/
def Observer.meter : Observer σ φ (Metered σ) where
  world := Metered.world
  made answer w world :=
    ⟨world, w.made + answer.isOk.toNat, w.failures + (!answer.isOk).toNat⟩
  called op _ ok w world :=
    { w with world, failures := w.failures + (op.isAttempt && !ok).toNat }
  world_made _ _ _ := rfl
  world_called _ _ _ _ _ := rfl

namespace Backend

/-- The backend that counts what another one makes and where it fails. -/
def metered (b : Backend γ σ φ κ) : Backend γ (Metered σ) φ κ := b.observed .meter

theorem failures_start (b : Backend γ σ φ κ) (x : Xid) (f : φ) (w : Metered σ) :
    (b.metered.start x f w).world.failures =
      w.failures + (!(b.start x f w.world).answer.isOk).toNat := by
  simp [metered, observed, Observer.watch, Observer.meter, Operation.isAttempt]

theorem counts_useData (b : Backend γ σ φ κ) (use : DataUse) (f : φ) (w : Metered σ) :
    (b.metered.perform (.useData use) f w).world.made = w.made ∧
      (b.metered.perform (.useData use) f w).world.failures = w.failures := by
  cases use <;> exact ⟨rfl, rfl⟩

end Backend

namespace Provider

variable {b : Backend γ σ φ κ}

/-- A state of a metered provider, without the counts. -/
def State.unmetered (s : State γ φ (Metered σ)) : State γ φ σ :=
  ⟨s.provider, s.world.world⟩

theorem State.image_id (s : State γ φ (Metered σ)) : s.image id Metered.world = s.unmetered := by
  obtain ⟨⟨factory, pool, tally⟩, w⟩ := s
  have hpool : pool.map (Pool.map id) = pool := by
    cases pool with
    | none => rfl
    | some s =>
      have hbound : s.bound.map id = s.bound := BranchMap.ext_entries (List.map_id _)
      show some (⟨s.idle.map id, s.bound.map id, s.active⟩ : Pool φ) = some s
      rw [List.map_id, hbound]
  show (⟨⟨factory, pool.map (Pool.map id), tally⟩, w.world⟩ : State γ φ σ) = _
  rw [hpool]
  rfl

/-- The counts of a run change nothing in the run. -/
theorem unmetered_run (b : Backend γ σ φ κ) (act : ε → σ → σ) (ms : List (Move ε))
    (s : State γ φ (Metered σ)) :
    (run b.metered (Metered.lift act) ms s).unmetered = run b act ms s.unmetered := by
  have hrun : run b act ms (s.image id Metered.world) =
      (run b.metered (Metered.lift act) ms s).image id Metered.world :=
    (b.observed_translation .meter).run (fun _ _ => rfl) ms s
  rw [State.image_id, State.image_id] at hrun
  exact hrun.symm

/-- A facade that is not made, or not opened, is one failure more. -/
theorem failures_makeFacade (b : Backend γ σ φ κ) (factory : γ) (w : Metered σ) :
    (makeFacade b.metered factory w).2.failures =
      w.failures + (!(makeFacade b.metered factory w).1.isOk).toNat := by
  rw [makeFacade]
  rcases hcreate : b.metered.create factory w with ⟨e | f, w'⟩
  · obtain ⟨hanswer, rfl⟩ := Prod.mk.inj hcreate
    rw [hanswer]
    rfl
  · obtain ⟨hanswer, rfl⟩ := Prod.mk.inj hcreate
    have hmade : (b.create factory w.world).1 = .ok f := hanswer
    simp only [Backend.metered, Backend.observed, Observer.watch, Observer.meter, hmade]
    cases (b.openUp f (b.create factory w.world).2).answer <;> rfl

variable {factory : γ} {s : Pool φ} {t t' : Tally} {w w' : Metered σ} {f : φ} {rest : List φ}

/-- A facade that is lent was idle, and then nothing was attempted, or it was made
and opened for want of an idle one. -/
theorem Lent.metered (h : Lent b.metered factory s t w f rest t' w') :
    w'.failures = w.failures ∧
      (s.idle = f :: rest ∧ w'.made = w.made ∨ s.idle = [] ∧ rest = []) := by
  cases h with
  | idle hidle => exact ⟨rfl, .inl ⟨hidle, rfl⟩⟩
  | made hidle hmake =>
    have hfailures := failures_makeFacade b factory w
    rw [hmake] at hfailures
    exact ⟨hfailures, .inr ⟨hidle, rfl⟩⟩

/-! ### What a call needs -/

/-- How many facades a call needs at one time, the one that it asks for and those
that are bound; none, if it asks for none. -/
def Deal.demand (d : Deal γ φ σ κ) : Nat :=
  match d.call with
  | .start _ => if d.after.answer.isOk then d.after.provider.boundCount else 0
  | .recover => if d.isRefused then 0 else d.before.provider.boundCount + 1
  | .finish _ _ => if d.finishesUnbound then d.before.provider.boundCount + 1 else 0
  | _ => 0

/-- The largest demand in a list of deals. -/
def peak (ds : List (Deal γ φ σ κ)) : Nat := (ds.map Deal.demand).foldr max 0

theorem demand_of_isRefused {d : Deal γ φ σ κ} (h : d.isRefused = true)
    (hfails : d.after.answer.isOk = false) : d.demand = 0 := by
  obtain ⟨c, before, after⟩ := d
  cases c <;> simp_all [Deal.demand, Deal.finishesUnbound]

section

variable {how : Finish} {x : Xid} {p : Provider γ φ} {w : σ} {after : Reply γ φ σ (Result κ)}

theorem demand_of_bound (h : p.boundFacade? x = some f) :
    Deal.demand ⟨.finish how x, ⟨p, w⟩, after⟩ = 0 := by
  rw [Deal.demand, Deal.finishesUnbound_of_bound h]
  rfl

theorem demand_of_unbound (h : p.boundFacade? x = none)
    (hpassed : Deal.isRefused ⟨.finish how x, ⟨p, w⟩, after⟩ = false) :
    Deal.demand ⟨.finish how x, ⟨p, w⟩, after⟩ = p.boundCount + 1 := by
  rw [Deal.demand, Deal.finishesUnbound_of_unbound h, hpassed]
  rfl

end

/-- How many facades a provider has. -/
def size (p : Provider γ φ) : Nat := p.idleCount + p.boundCount

/-- Whether a call makes a facade only if none is idle, and, unless an attempt
fails, leaves as many facades as there were, or as many as it needs. -/
structure Deal.Supplied (d : Deal γ φ (Metered σ) κ) : Prop where
  failures : d.before.world.failures ≤ d.after.world.failures
  size : d.after.world.failures = d.before.world.failures →
    d.after.provider.size = max d.before.provider.size d.demand
  made : d.after.world.made ≠ d.before.world.made → d.before.provider.idleCount = 0

theorem Deal.Supplied.ofSame {d : Deal γ φ (Metered σ) κ} (hdemand : d.demand = 0)
    (hsize : d.after.provider.size = d.before.provider.size)
    (hfailures : d.after.world.failures = d.before.world.failures)
    (hmade : d.after.world.made = d.before.world.made) : d.Supplied where
  failures := by omega
  size _ := by omega
  made hne := absurd hmade hne

/-- A call that is given a facade for want of a bound one. -/
theorem Deal.Supplied.ofLent {d : Deal γ φ (Metered σ) κ} {n : Nat}
    (hlent : Lent b.metered factory s t d.before.world f rest t' w')
    (hidle : d.before.provider.idleCount = s.idle.length)
    (hbound : d.before.provider.boundCount = s.bound.size)
    (hfailures : d.after.world.failures = w'.failures + n) (hmade : d.after.world.made = w'.made)
    (hsize : n = 0 → d.after.provider.size = rest.length + s.bound.size + 1)
    (hdemand : n = 0 → d.demand = s.bound.size + 1) : d.Supplied := by
  obtain ⟨hsame, hplace⟩ := hlent.metered
  refine ⟨by omega, fun heq => ?_, fun hne => ?_⟩
  · have hn : n = 0 := by omega
    rw [hsize hn, hdemand hn, Provider.size, hidle, hbound]
    -- with a facade to spare, the need is met; without one, a facade comes to it
    rcases hplace with ⟨hqueue, -⟩ | ⟨hqueue, hrest⟩
    · rw [hqueue, List.length_cons]
      omega
    · rw [hqueue, hrest, List.length_nil]
      omega
  · rcases hplace with ⟨-, hnone⟩ | ⟨hqueue, -⟩
    · omega
    · rw [hidle, hqueue, List.length_nil]

theorem Course.supplied {c : Call} {p : Provider γ φ} {w : Metered σ}
    {reply : Reply γ φ (Metered σ) (Result κ)} (h : Course b.metered c p w reply)
    (hc : c.closes = false) : Deal.Supplied ⟨c, ⟨p, w⟩, reply⟩ := by
  cases h with
  | refused happlies => exact .ofSame (demand_of_isRefused rfl rfl) rfl rfl rfl
  | unready hactive => exact .ofSame rfl rfl rfl rfl
  | opened hactive => cases hc
  | closed hclose => cases hc
  | @unmade c factory s tally w e w' hborrows hidle hmake =>
    -- the facade that was to be made is a failure, and it was asked for as none was idle
    have hfailures : w'.failures = w.failures + 1 := by
      have hcount := failures_makeFacade b factory w
      rw [hmake] at hcount
      exact hcount
    have hnone : idleCount ⟨factory, some s, tally⟩ = 0 := by
      show s.idle.length = 0
      rw [hidle, List.length_nil]
    exact ⟨by simp only; omega, fun heq => by simp only at heq; omega, fun _ => hnone⟩
  | @rejected x factory s tally w f rest tally' w' e hborrows hlent hanswer =>
    -- a failed start is one attempt more that failed, and then nothing is said of the size
    have hfails : (b.start x f w'.world).answer = .error e := hanswer
    have hfailures := b.failures_start x f w'
    rw [hfails] at hfailures
    exact .ofLent (n := 1) hlent rfl rfl hfailures rfl nofun nofun
  | @started x factory s tally w f rest tally' w' hborrows hlent hanswer =>
    have hok : (b.start x f w'.world).answer = .ok () := hanswer
    have hfailures := b.failures_start x f w'
    rw [hok] at hfailures
    -- the branch was not bound, so its facade joins those that are
    have hsize := BranchMap.size_insert hborrows.2 (b.metered.start x f w').facade
    refine .ofLent (n := 0) hlent rfl rfl hfailures rfl (fun _ => ?_) (fun _ => hsize)
    show rest.length + (s.bound.insert x _).size = _
    omega
  | @unprepared x factory s tally w f e hactive hget hanswer =>
    exact .ofSame rfl (congrArg (_ + ·) (BranchMap.size_update _ _ _)) rfl rfl
  | @prepared x factory s tally w f hactive hget hanswer =>
    exact .ofSame rfl (congrArg (_ + ·) (BranchMap.size_update _ _ _)) rfl rfl
  | @finishedBound how x factory s tally w f hended hget =>
    have hsome : boundFacade? ⟨factory, some s, tally⟩ x = some f := hget
    have hsize : (s.bound.erase x).size + 1 = s.bound.size := BranchMap.size_erase hget
    have hqueue : (s.idle ++ [(b.metered.finish how x f w).facade]).length +
        (s.bound.erase x).size = s.idle.length + s.bound.size := by
      rw [List.length_append, List.length_singleton]
      omega
    -- whether the branch was finished or not, its facade has become idle
    cases (b.metered.finish how x f w).answer with
    | ok u => exact .ofSame (demand_of_bound hsome) hqueue rfl rfl
    | error e => exact .ofSame (demand_of_bound hsome) hqueue rfl rfl
  | @finishedLent how x factory s tally w f rest tally' w' hborrows hlent =>
    have hnone : boundFacade? ⟨factory, some s, tally⟩ x = none := hborrows.2
    -- the facade it was lent stands in front of the queue again, so the call needs one more
    have hqueue : (rest.length + 1) + s.bound.size = rest.length + s.bound.size + 1 := by omega
    cases (b.metered.finish how x f w').answer with
    | ok u =>
      exact .ofLent (n := 0) hlent rfl rfl rfl rfl (fun _ => hqueue)
        fun _ => demand_of_unbound hnone rfl
    | error e =>
      exact .ofLent (n := 0) hlent rfl rfl rfl rfl (fun _ => hqueue)
        fun _ => demand_of_unbound hnone rfl
  | unrecovered hlent hanswer =>
    exact .ofLent (n := 0) hlent rfl rfl rfl rfl (fun _ => Nat.add_right_comm _ _ _) (fun _ => rfl)
  | recovered hlent hanswer =>
    exact .ofLent (n := 0) hlent rfl rfl rfl rfl (fun _ => Nat.add_right_comm _ _ _) (fun _ => rfl)
  | @used use x factory s tally w f reply hactive hget hreply =>
    obtain ⟨hmade, hfailures⟩ := b.counts_useData use f w
    rw [hreply] at hmade hfailures
    exact .ofSame rfl (congrArg (_ + ·) (BranchMap.size_update _ _ _)) hfailures hmade

/-! ### Runs -/

variable {act : ε → σ → σ} {ms : List (Move ε)} {p : Provider γ φ}

theorem size_reorder (p : Provider γ φ) (order : List Xid) : (p.reorder order).size = p.size := by
  obtain ⟨factory, _ | s, tally⟩ := p
  · rfl
  · exact congrArg (s.idle.length + ·) (s.bound.size_arrange order)

/-- No call takes a failure back. -/
theorem failures_run (ms : List (Move ε)) (hcalls : ∀ c ∈ calls ms, c.closes = false)
    {s : State γ φ (Metered σ)} (h : s.provider.Sound) :
    s.world.failures ≤ (run b.metered (Metered.lift act) ms s).world.failures := by
  induction ms generalizing s with
  | nil => exact Nat.le_refl _
  | cons m ms ih =>
    -- the provider stays sound, so each call takes one of the courses
    have hsound : (m.apply b.metered (Metered.lift act) s).provider.Sound := sound_run [m] h
    cases m with
    | call c =>
      have hc : c.closes = false := hcalls c List.mem_cons_self
      have hsupplied := (course_run (b := b.metered) c h s.world).supplied hc
      have hrest := ih (fun c' hc' => hcalls c' (List.mem_cons_of_mem _ hc')) hsound
      exact Nat.le_trans hsupplied.failures hrest
    | environment e => exact ih hcalls hsound
    | reorder order => exact ih hcalls hsound

/-- The deals of a run in which no attempt fails are supplied as they need. -/
theorem supplied_run (ms : List (Move ε)) (hcalls : ∀ c ∈ calls ms, c.closes = false)
    {s : State γ φ (Metered σ)} (h : s.provider.Sound)
    (hfailures : (run b.metered (Metered.lift act) ms s).world.failures = s.world.failures) :
    (run b.metered (Metered.lift act) ms s).provider.size =
        max s.provider.size (peak (journal b.metered (Metered.lift act) ms s)) ∧
      ∀ d ∈ journal b.metered (Metered.lift act) ms s,
        d.after.world.made ≠ d.before.world.made → d.before.provider.idleCount = 0 := by
  induction ms generalizing s with
  | nil => exact ⟨(Nat.max_zero _).symm, fun d hd => absurd hd List.not_mem_nil⟩
  | cons m ms ih =>
    have hsound : (m.apply b.metered (Metered.lift act) s).provider.Sound := sound_run [m] h
    cases m with
    | call c =>
      have hc : c.closes = false := hcalls c List.mem_cons_self
      have hcalls' : ∀ c' ∈ calls ms, c'.closes = false := fun c' hc' =>
        hcalls c' (List.mem_cons_of_mem _ hc')
      have hsupplied := (course_run (b := b.metered) c h s.world).supplied hc
      -- the count of failures stands still in the whole run, so it does in each call
      have hfirst : s.world.failures ≤ (c.run b.metered s.provider s.world).world.failures :=
        hsupplied.failures
      have hlater : (c.run b.metered s.provider s.world).world.failures ≤
          (run b.metered (Metered.lift act) (.call c :: ms) s).world.failures :=
        failures_run ms hcalls' hsound
      have hstill : (c.run b.metered s.provider s.world).world.failures = s.world.failures := by
        omega
      obtain ⟨hsize, hmade⟩ := ih hcalls' hsound (hfailures.trans hstill.symm)
      constructor
      · have hone : (c.run b.metered s.provider s.world).provider.size =
            max s.provider.size (deal b.metered c s).demand := hsupplied.size hstill
        show _ = max s.provider.size (max (deal b.metered c s).demand (peak _))
        rw [← Nat.max_assoc, ← hone]
        exact hsize
      · intro d hd
        rcases List.mem_cons.mp hd with rfl | hd
        · exact hsupplied.made
        · exact hmade d hd
    | environment e => exact ih hcalls hsound hfailures
    | reorder order =>
      have hrest := ih hcalls hsound hfailures
      rwa [show (Move.apply b.metered (Metered.lift act) (.reorder order) s).provider.size =
        s.provider.size from size_reorder s.provider order] at hrest

/-- In every run that begins with an empty open pool and neither opens nor closes
it, and in which every attempt to make a facade, to open one and to start a branch
succeeds, the pool is at every moment as large as the largest need so far, and a
facade is made only if all that are there are bound. -/
theorem demand_run (b : Backend γ σ φ κ) (act : ε → σ → σ) (ms : List (Move ε)) (p : Provider γ φ)
    (w : σ) (hpool : p.pool = some {}) (hcalls : ∀ c ∈ calls ms, c.closes = false)
    (hfailures : (run b.metered (Metered.lift act) ms ⟨p, { world := w }⟩).world.failures = 0) :
    let s := run b.metered (Metered.lift act) ms ⟨p, { world := w }⟩
    let ds := journal b.metered (Metered.lift act) ms ⟨p, { world := w }⟩
    s.unmetered = run b act ms ⟨p, w⟩ ∧
      s.provider.idleCount + s.provider.boundCount = peak ds ∧
      ∀ d ∈ ds, d.after.world.made ≠ d.before.world.made → d.before.provider.idleCount = 0 := by
  intro s ds
  have hsound : p.Sound := by
    obtain ⟨factory, pool, tally⟩ := p
    cases hpool
    exact .some (.ofInactive rfl)
  -- the peak is also the size, as the pool was empty at the start
  have hempty : p.size = 0 := by
    simp [size, idleCount, boundCount, idle, bound, hpool]
    rfl
  obtain ⟨hsize, hmade⟩ := supplied_run ms hcalls (s := ⟨p, { world := w }⟩) hsound hfailures
  refine ⟨unmetered_run b act ms _, ?_, hmade⟩
  rw [hempty, Nat.zero_max] at hsize
  exact hsize

/-- Two branches are prepared at one time, and the branches are told while both
hold their facades: three facades are made, and serve all that comes later. -/
theorem demand_of_three_facades :
    let b := ResourceManager.backend
    let x : Xid := ⟨1, [1], [], by decide, by decide⟩
    let y : Xid := ⟨1, [2], [], by decide, by decide⟩
    let z : Xid := ⟨1, [3], [], by decide, by decide⟩
    let p : Provider Config Session := { factory := default, pool := some {} }
    let ms : List (Move Empty) :=
      [.call (.start x), .call (.endAndPrepare x), .call (.start y), .call (.endAndPrepare y),
        .call .recover, .call (.finish (.commit false) x), .call (.finish .rollback z),
        .call (.start z)]
    let s := run b.metered (Metered.lift Empty.elim) ms ⟨p, { world := {} }⟩
    let ds := journal b.metered (Metered.lift Empty.elim) ms ⟨p, { world := {} }⟩
    (∀ c ∈ calls ms, c.closes = false) ∧ s.world.failures = 0 ∧ s.world.made = 3 ∧
      peak ds = 3 ∧ s.provider.idleCount + s.provider.boundCount = peak ds := by
  intro b x y z p ms s ds
  have hcalls : ∀ c ∈ calls ms, c.closes = false := by decide
  have hfailures : s.world.failures = 0 := by decide +kernel
  have hmade : s.world.made = 3 := by decide +kernel
  have hpeak : peak ds = 3 := by decide +kernel
  obtain ⟨-, hsize, -⟩ := demand_run b Empty.elim ms p {} rfl hcalls hfailures
  exact ⟨hcalls, hfailures, hmade, hpeak, hsize⟩

end Provider

end BranchPool
