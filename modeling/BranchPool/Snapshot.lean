/-
What is written down to survive a restart, and reading it back.

Only the factory of a provider is written down.  The pool and the counters
belong to the running process: a provider read back is closed and has done
nothing yet.

* `Snapshot.Form` — how values of a type are written as JSON and read back;
* `Snapshot.xid`, `Snapshot.config`, `Snapshot.provider` and the like — the
  forms of this library's types;
* `Snapshot.read` — reads a value of a form from a text that holds it and
  nothing else;
* `Snapshot.restore` — reads a provider back into a fleet, where it comes with a
  fresh world of its own.

An identifier with an oversized part is told apart from a text that cannot be
read at all, and is noticed before anything behind the value.
-/
import BranchPool.Fleet
import BranchPool.Json.Record
import BranchPool.Provider
import BranchPool.Recorder
import BranchPool.ResourceManager

namespace BranchPool.Snapshot

/-- Why a text could not be read. -/
inductive Error where
  /-- It is not JSON of the expected form. -/
  | malformed
  /-- It names a branch with a part that is too long. -/
  | oversized (part : Xid.Oversized)
  deriving DecidableEq

/-- A value, or a text that is not of the expected form. -/
def ofOption {α : Type} : Option α → Except Error α
  | some a => .ok a
  | none => .error .malformed

/-- How values of a type are written as JSON and read back. -/
structure Form (α : Type) where
  write : α → Json
  read : Json → Except Error α

/-- The text of a value. -/
def text {α : Type} (form : Form α) (a : α) : String := (form.write a).render

/-- Reads a value from a text that holds it and nothing else but blanks. -/
def read {α : Type} (form : Form α) (t : String) : Except Error α := do
  let (v, rest) ← ofOption (Json.readPrefix? t.toList)
  let a ← form.read v
  if (Json.skipBlanks rest).isEmpty then .ok a else .error .malformed

/-! ### Branches -/

/-- A list of numbers that each fit in a byte. -/
def bytes? : Json → Option (List UInt8)
  | .array items => items.mapM fun v => (v.natBelow? 256).map UInt8.ofNat
  | _ => none

/-- An integer of 32 bits. -/
def int32? (v : Json) : Option Int32 := do
  let i ← v.int?
  if Int32.minValue.toInt ≤ i ∧ i ≤ Int32.maxValue.toInt then some (Int32.ofInt i) else none

/-- The parts of a branch, of any length, from a record of them. -/
def xidParts? (v : Json) : Option (Int32 × List UInt8 × List UInt8) := do
  match ← v.fields? ["format_id", "global_transaction_id", "branch_qualifier"] .skipped with
  | [some formatId, some globalId, some qualifier] =>
    return (← int32? formatId, ← bytes? globalId, ← bytes? qualifier)
  | _ => none

/-- A branch, as a record of its parts. -/
def xid : Form Xid where
  write x := .ofFields
    [("format_id", .ofInt x.formatId.toInt),
      ("global_transaction_id", .array (x.globalId.map fun b => .ofNat b.toNat)),
      ("branch_qualifier", .array (x.qualifier.map fun b => .ofNat b.toNat))]
  read v := do
    let (formatId, globalId, qualifier) ← ofOption (xidParts? v)
    (Xid.ofParts formatId globalId qualifier).mapError .oversized

/-- An outcome, as its name.  A record with the name as its only field, and no
value for it, is read as well. -/
def outcome : Form Outcome where
  write o := .ofString o.name
  read v := ofOption do
    let name ← match v with
      | .object [(key, .null)] => (Json.string key).text?
      | .object _ => none
      | v => v.text?
    [Outcome.committed, .rolledBack].find? fun o => o.name = name

/-! ### Settings -/

/-- A length of time, as a record of seconds and nanoseconds. -/
def timeout : Form Timeout where
  write t := .ofFields [("secs", .ofNat t.secs), ("nanos", .ofNat t.nanos)]
  read v := ofOption do
    match ← v.fields? ["secs", "nanos"] .refused with
    | [some secs, some nanos] =>
      Timeout.ofParts? (← secs.natBelow? UInt64.size) (← nanos.natBelow? UInt32.size)
    | _ => none

/-- A value that may be missing. -/
def optional {α : Type} (form : Form α) : Form (Option α) where
  write
    | none => .null
    | some a => form.write a
  read
    | .null => .ok none
    | v => (form.read v).map some

/-- Settings, as a record.  The timeout may be left out. -/
def config : Form Config where
  write c := .ofFields
    [("resource_name", .ofString c.resourceName),
      ("transaction_timeout", (optional timeout).write c.timeout)]
  read v :=
    match v.fields? ["resource_name", "transaction_timeout"] .skipped with
    | some [some name, limit] => do
      let resourceName ← ofOption name.text?
      let timeout ← (optional timeout).read (limit.getD .null)
      return { resourceName, timeout }
    | _ => .error .malformed

/-! ### Factories and providers -/

/-- A record with one field, under a name. -/
def wrapped {α : Type} (name : String) (form : Form α) : Form α where
  write a := .ofFields [(name, form.write a)]
  read v :=
    match v.fields? [name] .skipped with
    | some [some v] => form.read v
    | _ => .error .malformed

/-- A factory of sessions, as its settings. -/
def sessionFactory : Form Config := wrapped "config" config

/-- A recording factory, as its name. -/
def recordingFactory : Form RecorderName where
  write r := (wrapped "name" ⟨.ofString, fun v => ofOption v.text?⟩).write r.name
  read v := ((wrapped "name" ⟨.ofString, fun v => ofOption v.text?⟩).read v).map RecorderName.mk

/-- A value of a fleet, without the place it is attached to: whoever reads it
back says where it is attached from then on. -/
def attachedAt {α : Type} (site : Nat) (form : Form α) : Form (Attached α) where
  write a := form.write a.value
  read v := (form.read v).map fun value => ⟨site, value⟩

/-- A provider, as its factory. -/
def provider {γ φ : Type} (factory : Form γ) : Form (Provider γ φ) where
  write p := (wrapped "factory" factory).write p.factory
  read v := ((wrapped "factory" factory).read v).map Provider.ofFactory

/-- Reads a provider back into a fleet.  Its factory is attached to a fresh world
at the end of the fleet until it is attached elsewhere. -/
def restore {γ σ φ : Type} [Inhabited σ] (factory : Form γ) (t : String) (ws : Fleet σ) :
    Except Error (Provider (Attached γ) (Attached φ) × Fleet σ) :=
  let (site, grown) := ws.add default
  (read (provider (attachedAt site factory)) t).map fun p => (p, grown)

/-- The counters of a provider, as a record. -/
def tallyJson (t : Tally) : Json :=
  .ofFields (t.entries.map fun (name, n) => (name, .ofNat n))

end BranchPool.Snapshot
