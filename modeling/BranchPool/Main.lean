/-
The program: reads the command line, draws random identifiers for the
transactions it needs, and prints the answer.
-/
import BranchPool.CommandLine

open BranchPool

/-- Draws a random transaction identifier. -/
def drawUuid : IO Uuid := do
  let noise ← IO.getRandomBytes 16
  return Uuid.random (Vector.ofFn fun i => noise.data.getD i.val 0)

/-- Draws as many random transaction identifiers as asked for. -/
def drawUuids : Nat → Array Uuid → IO (Array Uuid)
  | 0, drawn => return drawn
  | n + 1, drawn => do drawUuids n (drawn.push (← drawUuid))

def main (arguments : List String) : IO UInt32 := do
  let request := CommandLine.parse arguments
  let uuids ← drawUuids (CommandLine.transactions request) #[]
  let output := CommandLine.respond (fun i => uuids.getD i default) request
  for line in output.lines do
    IO.println line
  for line in output.errors do
    IO.eprintln line
  return output.exit
