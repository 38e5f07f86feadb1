/-
Branches that tests know by a number.

* `TestBranch.xid` — branch number `n`: the same number always names the same
  branch, and different numbers name different ones;
* `TestBranch.Operation` — a call on a provider that names its branch by number.
-/
import BranchPool.Facade

namespace BranchPool.TestBranch

/-- The format id of all test branches. -/
def formatId : Int32 := 22593

/-- The word before the number of a test branch. -/
def word : List Char := ['g', 't', 'r', 'i', 'd', '-']

/-- The global id of a test branch: its number in decimal, behind the word. -/
def globalId (n : UInt32) : List UInt8 :=
  (word ++ Decimal.ofNat n.toNat).map fun c => UInt8.ofNat c.toNat

theorem length_globalId_le (n : UInt32) : (globalId n).length ≤ Xid.maxPartSize := by
  have hn : n.toNat < 10 ^ 10 := Nat.lt_trans n.toNat_lt (by decide)
  have hlen : (Decimal.ofNat n.toNat).length ≤ 10 :=
    (Nat.length_toDigits_le_iff (by decide) (by decide)).mpr hn
  have hword : word.length = 6 := rfl
  rw [globalId, List.length_map, List.length_append, hword]
  exact Nat.le_trans (Nat.add_le_add_left hlen 6) (by decide)

/-- The test branch with a number. -/
def xid (n : UInt32) : Xid where
  formatId := formatId
  globalId := globalId n
  qualifier := [1]
  globalId_le := length_globalId_le n
  qualifier_le := by decide

/-- A call on a provider, its branch named by number. -/
inductive Operation where
  | start (n : UInt32)
  | endAndPrepare (n : UInt32)
  | finish (how : Facade.Finish) (n : UInt32)
  | recover
  deriving DecidableEq

/-- The branch that a call is about, if it is about one. -/
def Operation.branch? : Operation → Option Xid
  | .start n => some (xid n)
  | .endAndPrepare n => some (xid n)
  | .finish _ n => some (xid n)
  | .recover => none

end BranchPool.TestBranch
