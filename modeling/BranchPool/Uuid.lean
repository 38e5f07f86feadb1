/-
Fresh branch identifiers.

* `Uuid.random` — sixteen random bytes, marked as a random identifier: the high
  half of byte 6 is 4, the top two bits of byte 8 are 2;
* `Xid.generate` — a branch of a fresh transaction: the global id is a `Uuid`,
  the qualifier the number of the branch as four bytes, the highest first.
-/
import BranchPool.Xid

namespace BranchPool

/-- Sixteen bytes that name a transaction. -/
structure Uuid where
  bytes : Vector UInt8 16
  deriving DecidableEq

namespace Uuid

instance : Inhabited Uuid := ⟨⟨Vector.replicate 16 0⟩⟩

/-- The identifier made of random bytes. -/
def random (noise : Vector UInt8 16) : Uuid :=
  ⟨(noise.set 6 (noise[6] &&& 0x0f ||| 0x40)).set 8 (noise[8] &&& 0x3f ||| 0x80)⟩

end Uuid

/-- A number as four bytes, the highest first. -/
def bigEndian (n : UInt32) : List UInt8 :=
  [(n >>> 24).toUInt8, (n >>> 16).toUInt8, (n >>> 8).toUInt8, n.toUInt8]

/-- A branch of the transaction that the `Uuid` names. -/
def Xid.generate (formatId : Int32) (uuid : Uuid) (branch : UInt32) : Xid where
  formatId := formatId
  globalId := uuid.bytes.toList
  qualifier := bigEndian branch
  globalId_le := by simp [Xid.maxPartSize]
  qualifier_le := by simp [bigEndian, Xid.maxPartSize]

end BranchPool
