/-
Several worlds side by side.

A fleet is a list of worlds, such as several resource managers.  A factory or a
facade in it is *attached* to one of them by its place in the list, and works
there as it would alone; the other worlds are not touched.

* `Fleet.get` — the world at a place, a fresh one where the list has ended;
* `Backend.fleet` — facades of a fleet, from those of one world;
* `Provider.attach` — the factory of a provider works in another world from
  then on; the facades it made before stay attached where they are.
-/
import BranchPool.Provider

namespace BranchPool

/-- A value that works in the world at a place of a fleet. -/
structure Attached (α : Type) where
  site : Nat
  value : α
  deriving DecidableEq

/-- Worlds side by side. -/
abbrev Fleet (σ : Type) := List σ

namespace Fleet

variable {σ : Type}

/-- The world at a place. -/
def get [Inhabited σ] (ws : Fleet σ) (site : Nat) : σ := ws.getD site default

/-- A fleet with one more world, and the place of that world. -/
def add (ws : Fleet σ) (w : σ) : Nat × Fleet σ := (ws.length, ws ++ [w])

end Fleet

namespace Backend

variable {γ σ φ κ α : Type} [Inhabited σ]

/-- A call on an attached facade, by a call on the facade in its own world. -/
def atSite (call : φ → σ → Facade.Reply φ σ α) (f : Attached φ) (ws : Fleet σ) :
    Facade.Reply (Attached φ) (Fleet σ) α :=
  let r := call f.value (ws.get f.site)
  ⟨r.answer, ⟨f.site, r.facade⟩, ws.set f.site r.world⟩

/-- The facades of a fleet.  A factory makes facades attached where it is. -/
def fleet (b : Backend γ σ φ κ) : Backend (Attached γ) (Fleet σ) (Attached φ) κ where
  create g ws :=
    let (answer, w) := b.create g.value (ws.get g.site)
    (answer.map fun f => ⟨g.site, f⟩, ws.set g.site w)
  openUp := atSite b.openUp
  close := atSite b.close
  isOpen f ws := b.isOpen f.value (ws.get f.site)
  start x := atSite (b.start x)
  endAndPrepare x := atSite (b.endAndPrepare x)
  finish how x := atSite (b.finish how x)
  recover := atSite b.recover
  connection? f ws := b.connection? f.value (ws.get f.site)
  askConnection f ws :=
    let (link, w) := b.askConnection f.value (ws.get f.site)
    (link, ws.set f.site w)
  isConnectionValid := atSite b.isConnectionValid
  establishConnection := atSite b.establishConnection
  closeConnection f ws :=
    let (value, w) := b.closeConnection f.value (ws.get f.site)
    (⟨f.site, value⟩, ws.set f.site w)
  reestablishConnection := atSite b.reestablishConnection

end Backend

/-- Attaches the factory of a provider to the world at a place. -/
def Provider.attach {γ φ : Type} (p : Provider (Attached γ) φ) (site : Nat) :
    Provider (Attached γ) φ :=
  { p with factory := { p.factory with site } }

end BranchPool
