import TextBoundary.Quoted
import TextBoundary.Tokenizer.Creation

/-! Tokenizer factories by name. Every registration gets a generation of its own, and a handle keeps
the one it was created from, so that a replaced or removed tokenizer is noticed at the next use. -/

namespace TextBoundary.Tokenizer

structure Binding where
  name : String
  generation : Nat
  args : List String
  deriving DecidableEq, Repr, Inhabited

/-- A chain of tokenizers: wrappers from the outermost on, each with its registration, around a leaf
and the texts and reasons that it has been called with, the last call first. -/
structure Handle where
  wrappers : List (Binding × Wrapper)
  binding : Binding
  leaf : Leaf
  calls : List (String × Reason)
  deriving Inhabited

namespace Handle

def outermost (h : Handle) : Binding := (h.wrappers.head?.map Prod.fst).getD h.binding

def name (h : Handle) : String := h.outermost.name

def args (h : Handle) : List String := h.outermost.args

end Handle

structure Entry where
  factory : Factory
  generation : Nat

structure Registry where
  entries : List (String × Entry)
  generation : Nat
  depth : Nat

namespace Registry

def empty : Registry := ⟨[], 0, 0⟩

def maxNesting : Nat := 16

def find? (r : Registry) (name : String) : Option Entry :=
  (r.entries.find? (·.1 == name)).map Prod.snd

def register (r : Registry) (name : String) (factory : Factory) : Registry :=
  { r with
    entries := (name, ⟨factory, r.generation + 1⟩) :: r.entries.filter (·.1 != name)
    generation := r.generation + 1 }

def contains (r : Registry) (name : String) : Bool := (r.find? name).isSome

def unregister (r : Registry) (name : String) : Registry :=
  { r with entries := r.entries.filter (·.1 != name) }

def generation? (r : Registry) (name : String) : Option Nat := (r.find? name).map Entry.generation

def names (r : Registry) : List String := (r.entries.map Prod.fst).mergeSort fun a b => a ≤ b

def validate (r : Registry) (b : Binding) : Except TokenizerError Unit :=
  match r.generation? b.name with
  | some generation => if generation = b.generation then .ok () else .error (.changed b.name)
  | none => .error (.removed b.name)

inductive Created
  | leaf (leaf : Leaf)
  | wrapping (wrapper : Wrapper) (inner : Handle)

def Created.bind (b : Binding) : Created → Handle
  | .leaf l => ⟨[], b, l, []⟩
  | .wrapping w inner => { inner with wrappers := (b, w) :: inner.wrappers }

abbrev Loader := Registry → String → List String → Registry × Except TokenizerError Handle

end Registry

open Registry in
def Creation.run (loader : Loader) :
    Creation → Option Handle → Registry → Registry × Except TokenizerError Created
  | .ready leaf, _, r => (r, .ok (.leaf leaf))
  | .wrap wrapper, some inner, r => (r, .ok (.wrapping wrapper inner))
  | .wrap _, none, r => (r, .error (.failed "no tokenizer to wrap"))
  | .refuse e, _, r => (r, .error e)
  | .load name args failed next, loaded, r =>
    match loader r name args with
    | (r, .ok h) => next.run loader (some h) r
    | (r, .error e) => (failed e).run loader loaded r
  | .register name factory next, loaded, r => next.run loader loaded (r.register name factory)
  | .unregister name next, loaded, r =>
    (next (r.contains name)).run loader loaded (r.unregister name)
  | .generation name next, loaded, r => (next (r.generation? name)).run loader loaded r
  | .names next, loaded, r => (next r.names).run loader loaded r

namespace Registry

/-- Loads a tokenizer with at most `levels` more creations inside each other. -/
def loadWithin : Nat → Loader
  | 0, r, name, _ =>
    match r.find? name with
    | none => (r, .error (.notFound name))
    | some _ => (r, .error (.nestedTooDeep name r.depth))
  | levels + 1, r, name, args =>
    match r.find? name with
    | none => (r, .error (.notFound name))
    | some entry =>
      if maxNesting ≤ r.depth then (r, .error (.nestedTooDeep name r.depth))
      else
        let (after, created) :=
          (entry.factory args).run (loadWithin levels) none { r with depth := r.depth + 1 }
        ({ after with depth := r.depth },
          created.map (Created.bind ⟨name, entry.generation, args⟩))

def load (r : Registry) (name : String) (args : List String) :
    Registry × Except TokenizerError Handle :=
  loadWithin (maxNesting - r.depth) r name args

def debug (r : Registry) : String :=
  "TokenizerRegistry \x7b names: " ++ Quoted.list r.names ++ ", generation: "
    ++ toString r.generation ++ " \x7d"

end Registry

def Handle.debug (h : Handle) : String :=
  "TokenizerHandle \x7b name: " ++ Quoted.quote h.name ++ ", generation: "
    ++ toString h.outermost.generation ++ ", args: " ++ Quoted.list h.args ++ ", .. \x7d"

end TextBoundary.Tokenizer
