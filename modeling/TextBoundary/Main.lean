import TextBoundary.Host

namespace TextBoundary.Main

open Files Program

partial def read (path : String) (location : Location) (deep : Bool) : IO (List (Location × Node)) := do
  try
    let place ← IO.FS.realPath path
    if ← place.isDir then
      let names ← if deep then pure ((← place.readDir).toList.map (·.fileName)) else pure []
      let inner ← names.mapM fun name => read (Path.join path name) (location ++ [name]) deep
      return (location, .directory) :: inner.flatten
    else
      let bytes ← IO.FS.readBinFile path
      return [(location, .file bytes.toList)]
  catch _ => return []

def tree (r : Request) : IO Tree := do
  let entries ← (Host.Access.ofRequest r).mapM fun a => read a.path (Location.ofPath a.path) a.deep
  return ⟨entries.flatten⟩

def time (chars : List Char) (filter : WordFilter) (kind : Kind) : IO Number.Binary64 := do
  let start ← IO.monoNanosNow
  let _ ← IO.lazyPure fun _ => Benchmark.count kind chars filter
  let stop ← IO.monoNanosNow
  return (Number.Binary64.ofRatio false (stop - start) 1000000000).getD (.zero false)

def times (r : Request) (t : Tree) : IO (Kind → Number.Binary64) := do
  let workload := match r.command with
    | .benchmark o =>
      let e := Host.environment t fun _ => .zero false
      (r.context t).bind fun c => o.workload e c.configuration
    | _ => .ok ([], .none)
  match workload with
  | .error _ => return fun _ => .zero false
  | .ok (chars, filter) =>
    let grapheme ← time chars filter .grapheme
    let word ← time chars filter .word
    let sentence ← time chars filter .sentence
    return fun
      | .grapheme => grapheme
      | .word => word
      | .sentence => sentence

end TextBoundary.Main

open TextBoundary Program in
def main (args : List String) : IO UInt32 := do
  match Request.parse? args with
  | none =>
    (← IO.getStderr).putStr Request.usage
    return Request.usageCode
  | some r =>
    let t ← Main.tree r
    let outcome := r.run (Host.environment t (← Main.times r t))
    (← IO.getStdout).putStr outcome.output
    (← IO.getStderr).putStr outcome.errors
    return outcome.code.toUInt32
