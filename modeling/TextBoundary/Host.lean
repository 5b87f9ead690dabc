import TextBoundary.Host.Glob
import TextBoundary.Program.Run

/-! What a run of the program gets from outside, given the files that it may read. -/

namespace TextBoundary.Host

def step (state : Nat) : Nat := (state * 6364136223846793005 + 1442695040888963407) % UInt64.size

def keys : Nat → Nat → List Nat
  | 0, _ => []
  | n + 1, state => state >>> 32 :: keys n (step state)

def shuffle (seed : Nat) : Benchmark.Shuffle := fun round chars =>
  (((keys chars.length (step (step (seed + round) + round))).zip chars).mergeSort
    fun a b => a.1 ≤ b.1).map Prod.snd

def environment (t : Files.Tree) (seconds : Kind → Number.Binary64) : Program.Environment :=
  ⟨t, Glob.paths t, shuffle, seconds⟩

structure Access where
  path : String
  deep : Bool
  deriving DecidableEq, Repr

namespace Access

def along (path : String) : List String → List Access
  | [] => [⟨path, false⟩]
  | part :: parts => ⟨path, false⟩ :: along (Files.Path.join path part) parts

def ofPath (path : String) : List Access :=
  match Files.Path.parts path with
  | [] => []
  | "" :: parts => along "/" parts
  | part :: parts => along part parts

def ofPattern (pattern : String) : List Access :=
  match Glob.parse? pattern with
  | none => []
  | some glob =>
    let (paths, deep) := Glob.trail glob.start glob.components
    let all := glob.start :: paths
    all.dropLast.map (⟨·, false⟩) ++ [⟨all.getLastD glob.start, deep⟩]

open Program

def ofCommand : Command → List Access
  | .show o => o.inputs.flatMap ofPattern
  | .tokenize o => o.inputs.flatMap ofPattern
  | .breakTest o => ofPath o.file
  | .benchmark o => ofPath o.file
  | .codePoint _ => []

def ofRequest (r : Request) : List Access :=
  r.configuration.toList.flatMap ofPath ++ ofCommand r.command

end Access

end TextBoundary.Host
