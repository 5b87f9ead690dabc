import TextBoundary.Segment
import TextBoundary.Tokenizer.Builtin
import TextBoundary.Tokenizer.Value
import TextBoundary.Utf8

namespace TextBoundary.Tokenizer

variable {σ : Type}

def Routine.run : Routine → Registry → Registry × Except TokenizerError (List Json)
  | .values vs, r => (r, .ok vs)
  | .fail message, r => (r, .error (.failed message))
  | .load name args next, r =>
    match r.load name args with
    | (r, .ok _) => (next none).run r
    | (r, .error e) => (next (some e)).run r
  | .register name factory next, r => next.run (r.register name factory)
  | .unregister name next, r => (next (r.contains name)).run (r.unregister name)
  | .generation name next, r => (next (r.generation? name)).run r
  | .names next, r => (next r.names).run r

def reportWords (sink : Sink σ) (filter : WordFilter) (t : Text) (rounds offset : Nat) :
    ExceptT TokenizerError (StateM σ) Unit :=
  if t.length ≤ offset then pure ()
  else
    match rounds with
    | 0 => throw (.text (.fault .endless))
    | rounds + 1 =>
      match t.nextWord offset filter with
      | .error e => throw (.text e)
      | .ok (start, stop) =>
        if start = stop then pure ()
        else do
          sink ⟨0, String.ofList (t.slice start stop), start, stop⟩
          reportWords sink filter t rounds stop

def reportAll (sink : Sink σ) : List Report → ExceptT TokenizerError (StateM σ) Unit
  | [] => pure ()
  | r :: rs => do
    sink r
    reportAll sink rs

structure Outcome (σ : Type) where
  handle : Handle
  registry : Registry
  state : σ
  result : Except TokenizerError Unit

namespace Handle

def runLeaf (h : Handle) (r : Registry) (text : String) (reason : Reason) (sink : Sink σ) (s : σ) :
    Outcome σ :=
  match h.leaf with
  | .words f =>
    let t : Text := ⟨.bytes, text.toList⟩
    -- one round for each word and one that finds no further word
    let (result, s) := (reportWords sink f t (t.length + 1) 0).run s
    ⟨h, r, s, result⟩
  | .function call =>
    let called := { h with calls := (text, reason) :: h.calls }
    match (call h.calls text reason).run r with
    | (r, .error e) => ⟨called, r, s, .error e⟩
    | (r, .ok values) =>
      let (result, s) := (Value.reportAll sink text.utf8ByteSize values).run s
      ⟨called, r, s, result⟩
  | .reports rs =>
    let (result, s) := (reportAll sink rs).run s
    ⟨h, r, s, result⟩

/-- Checks the registrations from the outermost on and passes the sink inward through the wrappers. -/
def inward (r : Registry) (binding : Binding) :
    List (Binding × Wrapper) → Sink σ → Except TokenizerError (Sink σ)
  | [], sink => do
    r.validate binding
    return sink
  | (b, wrapper) :: wrappers, sink => do
    r.validate b
    inward r binding wrappers (wrapper.sink sink)

/-- Runs a tokenizer behind the wrappers of a handle if all registrations stand. -/
def tokenizeWith (run : Handle → Registry → String → Reason → Sink σ → σ → Outcome σ) (h : Handle)
    (r : Registry) (text : String) (reason : Reason) (sink : Sink σ) (s : σ) : Outcome σ :=
  match inward r h.binding h.wrappers sink with
  | .error e => ⟨h, r, s, .error e⟩
  | .ok sink => run h r text reason sink s

def tokenizeInto (h : Handle) (r : Registry) (text : String) (reason : Reason) (sink : Sink σ)
    (s : σ) : Outcome σ := h.tokenizeWith runLeaf r text reason sink s

structure Tokenized where
  handle : Handle
  registry : Registry
  result : Except TokenizerError (List Token)

def tokenize (h : Handle) (r : Registry) (bytes : List UInt8) (reason : Reason)
    (options : Options) : Tokenized :=
  match checkLength bytes.length with
  | .error e => ⟨h, r, .error e⟩
  | .ok () =>
    match Utf8.decode bytes with
    | .error position => ⟨h, r, .error (.invalidUtf8 position)⟩
    | .ok text =>
      let out := h.tokenizeInto r text reason Collector.sink (.empty bytes.length options)
      ⟨out.handle, out.registry, out.result.map fun _ => out.state.tokens⟩

def tokenizeFlags (h : Handle) (r : Registry) (bytes : List UInt8) (flags : Int)
    (options : Options) : Tokenized :=
  match Reason.ofFlags flags with
  | .error e => ⟨h, r, .error e⟩
  | .ok reason => h.tokenize r bytes reason options

end Handle
end TextBoundary.Tokenizer
