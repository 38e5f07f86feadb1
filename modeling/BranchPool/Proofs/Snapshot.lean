/-
What is written down of a provider, and what comes back.

* `Snapshot.Form.Lossless` — whether all that a form writes can stand in a text and is read
  back as it was; `Snapshot.sessionFactory_lossless` and its neighbours for the settings of
  sessions;
* `Snapshot.restore_render`, `Snapshot.eq_of_restore` — what comes back from a record with
  a factory among its fields, and from any text at all;
* `Provider.factory_run` — no run changes the factory of a provider;
* `Provider.snapshot_run` — so a snapshot carries the settings and nothing else.
-/
import BranchPool.Proofs.Json.Fields
import BranchPool.Proofs.Json.ReadBack
import BranchPool.Proofs.Provider.Run
import BranchPool.ResourceManager.Session
import BranchPool.Snapshot

namespace BranchPool

/-! ### Forms -/

namespace Snapshot

open Json (Written)

variable {α : Type} {form : Form α}

/-- Whether all that a form writes can stand in a text and is read back as it was. -/
structure Form.Lossless (form : Form α) : Prop where
  written : ∀ a, (form.write a).Written
  read : ∀ a, form.read (form.write a) = .ok a

/-- To read the text of a value is to read the value. -/
theorem read_render (form : Form α) {v : Json} (hv : v.Written) :
    read form v.render = form.read v := by
  rw [read, Json.render, String.toList_ofList, Json.readPrefix?_chars hv]
  show (form.read v >>= fun a => .ok a) = form.read v
  cases form.read v <;> rfl

theorem natBelow?_ofNat {n bound : Nat} (h : n < bound) :
    (Json.ofNat n).natBelow? bound = some n := by
  have hint : (Json.ofNat n).int? = some (n : Int) := Json.int?_ofInt n
  rw [Json.natBelow?, hint]
  show (if 0 ≤ (n : Int) ∧ (n : Int) < bound then some (n : Int).toNat else none) = some n
  rw [if_pos ⟨Int.natCast_nonneg n, Int.ofNat_lt.mpr h⟩, Int.toNat_natCast]

theorem timeout_lossless : timeout.Lossless where
  written t := by
    refine Json.written_ofFields fun m hm => ?_
    simp only [List.mem_cons, List.not_mem_nil, or_false] at hm
    obtain rfl | rfl := hm
    · exact Json.written_ofNat _
    · exact Json.written_ofNat _
  read t := by
    -- the fields are found again in what was written, one parser for each
    have hfields : (timeout.write t).fields? ["secs", "nanos"] .refused =
        some [some (.ofNat t.secs), some (.ofNat t.nanos)] := by
      rw [timeout, Json.fields?_ofFields]
      rfl
    -- both parts are in range, as a timeout cannot be built otherwise
    have hnanos : t.nanos < UInt32.size := Nat.lt_trans t.nanos_lt (by decide)
    show ofOption ((timeout.write t).fields? ["secs", "nanos"] .refused >>= _) = .ok t
    rw [hfields]
    simp only [Option.bind_eq_bind, Option.bind_some, natBelow?_ofNat t.secs_lt,
      natBelow?_ofNat hnanos, Timeout.ofParts?_self, ofOption]

/-- A value that may be missing, if a form does not write any value as one that is. -/
theorem Form.Lossless.optional (h : form.Lossless) (hnull : ∀ a, form.write a ≠ .null) :
    (Snapshot.optional form).Lossless where
  written o := by
    cases o with
    | none => exact .null
    | some a => exact h.written a
  read o := by
    cases o with
    | none => rfl
    | some a =>
      -- a value that wrote itself as `null` would be read as absent
      simp only [Snapshot.optional]
      split
      · next heq => exact absurd heq (hnull a)
      · rw [h.read a]
        rfl

/-- What is read of a record whose fields are those of a configuration. -/
theorem read_config {v name : Json} {limit : Option Json}
    (h : v.fields? ["resource_name", "transaction_timeout"] .skipped = some [some name, limit]) :
    config.read v = do
      let resourceName ← ofOption name.text?
      let timeout ← (optional timeout).read (limit.getD .null)
      return { resourceName, timeout } := by
  simp only [config, h]

theorem config_lossless : config.Lossless := by
  have htimeout := timeout_lossless.optional (fun t ht => by cases ht)
  constructor
  · intro c
    refine Json.written_ofFields fun m hm => ?_
    simp only [List.mem_cons, List.not_mem_nil, or_false] at hm
    obtain rfl | rfl := hm
    · exact Json.written_ofString _
    · exact htimeout.written _
  · intro c
    have hfields : (config.write c).fields? ["resource_name", "transaction_timeout"] .skipped =
        some [some (.ofString c.resourceName), some ((optional timeout).write c.timeout)] := by
      rw [config, Json.fields?_ofFields]
      rfl
    have hname : ofOption (Json.ofString c.resourceName).text? = .ok c.resourceName := by
      rw [Json.text?_ofString]
      rfl
    rw [read_config hfields, hname, Option.getD_some, htimeout.read c.timeout]
    rfl

/-- A form under a name, with other fields around it that can stand in a text. -/
theorem read_wrapped (form : Form α) (before after : List (String × Json)) {name : String}
    (hbefore : ∀ m ∈ before, m.1 ≠ name) (hafter : ∀ m ∈ after, m.1 ≠ name) (v : Json) :
    (wrapped name form).read (.ofFields (before ++ (name, v) :: after)) = form.read v := by
  rw [wrapped]
  simp only [Json.fields?_among hbefore hafter]

theorem Form.Lossless.wrapped (h : form.Lossless) (name : String) :
    (Snapshot.wrapped name form).Lossless where
  written a := by
    refine Json.written_ofFields fun m hm => ?_
    rw [List.mem_singleton.mp hm]
    exact h.written a
  read a := by
    rw [← h.read a]
    exact read_wrapped form [] [] nofun nofun (form.write a)

theorem sessionFactory_lossless : sessionFactory.Lossless := config_lossless.wrapped "config"

/-! ### Providers -/

variable {γ σ φ : Type}

/-- A record with a factory among its fields comes back as a provider that has done nothing
yet, with a fresh world at the end of the fleet. -/
theorem restore_render [Inhabited σ] {factory : Form γ} (h : factory.Lossless)
    (before after : List (String × Json))
    (hbefore : ∀ m ∈ before, m.1 ≠ "factory" ∧ m.2.Written)
    (hafter : ∀ m ∈ after, m.1 ≠ "factory" ∧ m.2.Written) (g : γ) (ws : Fleet σ) :
    restore (φ := φ) factory
        (Json.ofFields (before ++ ("factory", factory.write g) :: after)).render ws =
      .ok (.ofFactory ⟨ws.length, g⟩, ws ++ [default]) := by
  -- the text is a rendering of written values only, so it is read back as this record
  have hwritten : (Json.ofFields (before ++ ("factory", factory.write g) :: after)).Written := by
    refine Json.written_ofFields fun m hm => ?_
    rcases List.mem_append.mp hm with hm | hm
    · exact (hbefore m hm).2
    rcases List.mem_cons.mp hm with rfl | hm
    · exact h.written g
    · exact (hafter m hm).2
  rw [restore]
  simp only [read_render _ hwritten, provider, Fleet.add]
  -- no other member is called `factory`, so the first one of that name is ours
  rw [read_wrapped _ _ _ (fun m hm => (hbefore m hm).1) (fun m hm => (hafter m hm).1), attachedAt]
  simp only [h.read g]
  rfl

theorem map_eq_ok {ε β : Type} {a : Except ε α} {f : α → β} {y : β} (h : a.map f = .ok y) :
    ∃ x, a = .ok x ∧ y = f x := by
  cases a with
  | error e => cases h
  | ok x =>
    cases h
    exact ⟨x, rfl, rfl⟩

/-- What is read from a text is read from the value at its front, if nothing but blanks
stands behind that. -/
theorem read_eq_ok_iff {t : String} {a : α} :
    read form t = .ok a ↔
      ∃ v rest, Json.readPrefix? t.toList = some (v, rest) ∧ Json.skipBlanks rest = [] ∧
        form.read v = .ok a := by
  rw [read]
  -- a value must be read first, then its form, and only then is the rest looked at
  cases hvalue : Json.readPrefix? t.toList with
  | none => exact ⟨nofun, by rintro ⟨v, rest, h, -⟩; cases h⟩
  | some found =>
    obtain ⟨v, rest⟩ := found
    simp only [Option.some.injEq, Prod.mk.injEq]
    cases hread : form.read v with
    | error e =>
      refine ⟨fun h => ?_, ?_⟩
      · simp [ofOption, hread, bind, Except.bind] at h
      · rintro ⟨_, _, ⟨rfl, rfl⟩, -, h⟩
        exact absurd (hread.symm.trans h) nofun
    | ok a' =>
      simp only [ofOption, hread, bind, Except.bind]
      constructor
      · intro h
        split at h
        · next hblank => exact ⟨v, rest, ⟨rfl, rfl⟩, List.isEmpty_iff.mp hblank, hread.trans h⟩
        · cases h
      · rintro ⟨_, _, ⟨rfl, rfl⟩, hblank, h⟩
        rw [hblank, List.isEmpty_nil, if_pos rfl, ← hread, h]

/-- A value that is refused is refused whatever stands behind it. -/
theorem read_of_error {t : String} {v : Json} {rest : List Char} {e : Error}
    (hvalue : Json.readPrefix? t.toList = some (v, rest)) (hread : form.read v = .error e) :
    read form t = .error e := by
  rw [read, hvalue]
  simp only [ofOption, hread, bind, Except.bind]

theorem read_wrapped_eq_ok {name : String} {v : Json} {a : α}
    (h : (wrapped name form).read v = .ok a) : ∃ v', form.read v' = .ok a := by
  simp only [wrapped] at h
  split at h
  · exact ⟨_, h⟩
  · cases h

/-- Whatever text a provider comes back from, it has done nothing yet, and a fresh world was
added for it. -/
theorem eq_of_restore [Inhabited σ] {factory : Form γ} {t : String} {ws ws' : Fleet σ}
    {p : Provider (Attached γ) (Attached φ)} (h : restore factory t ws = .ok (p, ws')) :
    (∃ g, p = .ofFactory ⟨ws.length, g⟩) ∧ ws' = ws ++ [default] := by
  simp only [restore, Fleet.add] at h
  -- back from the provider to the factory, one form after the other
  obtain ⟨p', hread, heq⟩ := map_eq_ok h
  cases heq
  obtain ⟨v, -, -, -, hread⟩ := read_eq_ok_iff.mp hread
  obtain ⟨g, hwrapped, rfl⟩ := map_eq_ok hread
  obtain ⟨v', hfactory⟩ := read_wrapped_eq_ok hwrapped
  obtain ⟨value, -, rfl⟩ := map_eq_ok hfactory
  exact ⟨⟨value, rfl⟩, rfl⟩

end Snapshot

/-! ### Runs -/

namespace Provider

variable {γ σ φ κ ε α : Type} (b : Backend γ σ φ κ)

theorem factory_startOn (x : Xid) (f : φ) (s : Pool φ) (p : Provider γ φ) (w : σ) :
    (startOn b x f s p w).provider.factory = p.factory := by
  rw [startOn]
  split <;> rfl

theorem factory_start (x : Xid) (p : Provider γ φ) (w : σ) :
    (p.start b x w).provider.factory = p.factory := by
  rw [start]
  split
  · rfl
  split
  · rfl
  split
  · rfl
  split
  · rfl
  · exact factory_startOn b ..

theorem factory_endAndPrepare (x : Xid) (p : Provider γ φ) (w : σ) :
    (p.endAndPrepare b x w).provider.factory = p.factory := by
  rw [endAndPrepare]
  split
  · rfl
  split
  · rfl
  split
  · split
    · rfl
    · dsimp only
      split <;> rfl
  · rfl

theorem factory_concludeFinish (how : Facade.Finish) (x : Xid) (answer : Except Facade.Error Unit)
    (p : Provider γ φ) (w : σ) : (concludeFinish how x answer p w).provider.factory = p.factory := by
  cases answer <;> rfl

theorem factory_finish (how : Facade.Finish) (x : Xid) (p : Provider γ φ) (w : σ) :
    (p.finish b how x w).provider.factory = p.factory := by
  obtain ⟨factory, _ | s, tally⟩ := p
  · rfl
  simp only [finish, peekIdle_andThen]
  split
  · rfl
  split
  · exact factory_concludeFinish ..
  split
  · rfl
  · exact factory_concludeFinish ..

theorem factory_recover (p : Provider γ φ) (w : σ) :
    (p.recover b w).provider.factory = p.factory := by
  obtain ⟨factory, _ | s, tally⟩ := p
  · rfl
  simp only [recover, peekIdle_andThen]
  split
  · rfl
  split <;> rfl

theorem factory_close (p : Provider γ φ) (w : σ) : (p.close b w).provider.factory = p.factory := by
  rw [close]
  split <;> rfl

theorem factory_openUp (p : Provider γ φ) (w : σ) :
    (p.openUp b w).provider.factory = p.factory := by
  rw [openUp]
  split <;> rfl

theorem factory_withActive (operation : String) (call : φ → σ → Facade.Reply φ σ α)
    (p : Provider γ φ) (w : σ) : (withActive operation call p w).provider.factory = p.factory := by
  rw [withActive]
  split
  · rfl
  split <;> rfl

theorem factory_call (c : Call) (p : Provider γ φ) (w : σ) :
    (c.run b p w).provider.factory = p.factory := by
  cases c with
  | openUp => exact factory_openUp b p w
  | close => exact factory_close b p w
  | start x => exact factory_start b x p w
  | endAndPrepare x => exact factory_endAndPrepare b x p w
  | finish how x => exact factory_finish b how x p w
  | recover => exact factory_recover b p w
  | useData use => cases use <;> exact factory_withActive _ _ p w

/-- No run changes the factory of a provider. -/
theorem factory_run (act : ε → σ → σ) (ms : List (Move ε)) (s : State γ φ σ) :
    (run b act ms s).provider.factory = s.provider.factory := by
  refine List.foldlRecOn (motive := fun s' : State γ φ σ =>
    s'.provider.factory = s.provider.factory) ms _ rfl ?_
  intro s' h m _
  cases m with
  | call c => exact (factory_call b c _ _).trans h
  | environment e => exact h
  | reorder order => exact h

end Provider

namespace Provider

open Snapshot (sessionFactory restore)

/-- The text of a provider of sessions depends on its settings and on nothing else, whatever
was done with it and with its manager; other settings give another text.  From that text comes
back a provider with the same settings that has done nothing yet, attached to a fresh manager;
other fields that the record may have, such as a state or counters, change nothing in this.
And whatever text a provider comes back from, it is closed, has no facades and no counts, and a
fresh manager is added for it. -/
theorem snapshot_run {ε ε' : Type} (act : ε → ResourceManager → ResourceManager)
    (act' : ε' → ResourceManager → ResourceManager) (ms : List (Move ε)) (ms' : List (Move ε'))
    (manager manager' : ResourceManager) (config config' : Config) :
    let b := ResourceManager.backend
    let text := Snapshot.text (Snapshot.provider (φ := Session) sessionFactory)
    let p := (run b act ms ⟨.ofFactory config, manager⟩).provider
    let p' := (run b act' ms' ⟨.ofFactory config', manager'⟩).provider
    let fresh : ResourceManager := {}
    (text p = text p' ↔ config = config') ∧
      (∀ ws : Fleet ResourceManager, restore (φ := Session) sessionFactory (text p) ws =
        .ok (.ofFactory ⟨ws.length, config⟩, ws ++ [fresh])) ∧
      (∀ (before after : List (String × Json)) (ws : Fleet ResourceManager),
        (∀ m ∈ before ++ after, m.1 ≠ "factory" ∧ m.2.Written) →
        restore (φ := Session) sessionFactory
            (Json.ofFields (before ++ ("factory", sessionFactory.write config) :: after)).render ws =
          .ok (.ofFactory ⟨ws.length, config⟩, ws ++ [fresh])) ∧
      ∀ (t : String) (ws ws' : Fleet ResourceManager)
        (q : Provider (Attached Config) (Attached Session)),
        restore sessionFactory t ws = .ok (q, ws') →
          q.isInitialized = false ∧ q.idleCount = 0 ∧ q.boundCount = 0 ∧ q.tally = {} ∧
            q.factory.site = ws.length ∧ ws' = ws ++ [fresh] := by
  intro b text p p' fresh
  have hfactory : p.factory = config := factory_run b act ms _
  have hfactory' : p'.factory = config' := factory_run b act' ms' _
  have htext : ∀ q : Provider Config Session,
      text q = (Json.ofFields ([] ++ ("factory", sessionFactory.write q.factory) :: [])).render :=
    fun _ => rfl
  have hrestore : ∀ (q : Provider Config Session) (ws : Fleet ResourceManager),
      restore (φ := Session) sessionFactory (text q) ws =
        .ok (.ofFactory ⟨ws.length, q.factory⟩, ws ++ [fresh]) := by
    intro q ws
    rw [htext]
    exact Snapshot.restore_render Snapshot.sessionFactory_lossless [] [] nofun nofun q.factory ws
  refine ⟨⟨fun heq => ?_, fun heq => ?_⟩, fun ws => ?_, fun before after ws hfields => ?_, ?_⟩
  · -- the settings come back from the text, so other settings were written otherwise
    have hsame := (hrestore p []).symm.trans ((congrArg (restore _ · []) heq).trans (hrestore p' []))
    rw [hfactory, hfactory'] at hsame
    injection hsame with hsame
    have := congrArg (fun r => r.1.factory.value) hsame
    exact this
  · rw [htext, htext, hfactory, hfactory', heq]
  · rw [hrestore, hfactory]
  · exact Snapshot.restore_render Snapshot.sessionFactory_lossless before after
      (fun m hm => hfields m (List.mem_append_left _ hm))
      (fun m hm => hfields m (List.mem_append_right _ hm)) config ws
  · intro t ws ws' q hq
    obtain ⟨⟨g, rfl⟩, rfl⟩ := Snapshot.eq_of_restore hq
    exact ⟨rfl, rfl, rfl, rfl, rfl, rfl⟩

/-- A snapshot with a state and counters beside the factory, in a fleet that has a manager
already. -/
theorem snapshot_with_other_fields :
    let config : Config := ⟨"say \"hi\"", some ⟨5, 500, by decide, by decide⟩⟩
    let state : Json := .ofFields [("active", .null), ("idle", .array [.ofNat 1, .bool true])]
    let stats : Json := .ofFields [("facades_created", .ofNat 3)]
    let record := Json.ofFields
      [("state", state), ("factory", sessionFactory.write config), ("stats", stats)]
    let manager : ResourceManager := { available := false }
    ∃ q ws', restore (φ := Session) sessionFactory record.render [manager] = .ok (q, ws') ∧
      q.factory.value = config ∧ q.isInitialized = false ∧ q.tally = {} ∧ q.factory.site = 1 ∧
        ws' = [manager, {}] := by
  intro config state stats record manager
  have hstate : state.Written := by
    refine Json.written_ofFields fun m hm => ?_
    simp only [List.mem_cons, List.not_mem_nil, or_false] at hm
    obtain rfl | rfl := hm
    · exact .null
    · refine .array fun v hv => ?_
      simp only [List.mem_cons, List.not_mem_nil, or_false] at hv
      obtain rfl | rfl := hv
      · exact Json.written_ofNat 1
      · exact .bool true
  have hstats : stats.Written := by
    refine Json.written_ofFields fun m hm => ?_
    rw [List.mem_singleton.mp hm]
    exact Json.written_ofNat 3
  have hfields : ∀ m ∈ [("state", state)] ++ [("stats", stats)], m.1 ≠ "factory" ∧ m.2.Written := by
    intro m hm
    simp only [List.cons_append, List.nil_append, List.mem_cons, List.not_mem_nil, or_false] at hm
    obtain rfl | rfl := hm
    · exact ⟨by decide, hstate⟩
    · exact ⟨by decide, hstats⟩
  let act := fun (available : Bool) (m : ResourceManager) => m.setAvailable available
  obtain ⟨-, -, hothers, haccepted⟩ := snapshot_run act act [] [] {} {} config config
  -- both other fields are real JSON, though nothing the provider reads
  have hrestore := hothers [("state", state)] [("stats", stats)] [manager] hfields
  obtain ⟨hclosed, -, -, htally, hsite, hfleet⟩ := haccepted _ _ _ _ hrestore
  exact ⟨_, _, hrestore, rfl, hclosed, htally, hsite, hfleet⟩

end Provider

end BranchPool
