import FrigateAsahi.Host

/-!
# The backend interface and ONNX Runtime

The seam between the protocol code and the engines, and the one engine that installs a session
only after nothing can fail any more.
-/

namespace Detector

open Text Python Numpy Interaction

/-- What the protocol code asks of a backend. -/
class InferenceBackend (β : Type) where
  /-- Load a model from disk; an exception is a failure. -/
  load : PyStr → HostM β Unit
  infer : Feeds → HostM β (List NdArray)
  loaded : β → Bool
  /-- Names of the model inputs, in model order. -/
  inputNames : HostM β (List PyStr)
  /-- Release engine resources. -/
  close : HostM β Unit

/-- `feeds[name]` on a dictionary: of several equal keys the last one counts. -/
def Feeds.get (feeds : Feeds) (name : PyStr) : Option NdArray :=
  (feeds.reverse.find? fun f => decide (f.1 = name)).map Prod.snd

/-- `p and os.path.isfile(p) and os.access(p, os.X_OK)` -/
def isExecutable (p : PyStr) : HostM Unit Bool := do
  let file ← andAlso (decide (p ≠ [])) (ask (.isfile p))
  andAlso file (ask (.accessX p))

/-- Locate a converter: the explicit environment variable, then the search path. -/
def findTool (name env : String) : HostM Unit (Option PyStr) := do
  let p ← ask (.getenv env)
  let executable ← isExecutable (p.getD [])
  if executable then pure p else ask (.which name)

/-- `set(a) == set(b)` -/
def SameNames (a b : List PyStr) : Prop := (∀ n ∈ a, n ∈ b) ∧ ∀ n ∈ b, n ∈ a

instance (a b : List PyStr) : Decidable (SameNames a b) :=
  inferInstanceAs (Decidable ((∀ n ∈ a, n ∈ b) ∧ ∀ n ∈ b, n ∈ a))

/-! ## ONNX Runtime -/

structure OnnxRuntimeBackend : Type where
  providers : List PyStr
  intraOpThreads : Option Int
  session : Option Nat

namespace OnnxRuntimeBackend

def load (modelPath : PyStr) : HostM OnnxRuntimeBackend Unit := do
  let self ← get
  let session ← ask (.ortSession modelPath self.providers (self.intraOpThreads.filter (· ≠ 0)))
  let inputs ← ask (.ortInputs session)
  let _ ← require inputs.head? "list index out of range"
  let outputs ← ask (.ortOutputs session)
  let _ ← require outputs.head? "list index out of range"
  modify fun self => { self with session := some session }

def infer (feeds : Feeds) : HostM OnnxRuntimeBackend (List NdArray) := do
  let self ← get
  let session ← require self.session "'NoneType' object has no attribute 'run'"
  ask (.ortRun session feeds)

def loaded (self : OnnxRuntimeBackend) : Bool := self.session.isSome

def inputNames : HostM OnnxRuntimeBackend (List PyStr) := do
  let self ← get
  match self.session with
  | none => pure []
  | some session => ask (.ortInputs session)

/-- Inherited: nothing to release. -/
def close : HostM OnnxRuntimeBackend Unit := pure ()

instance : InferenceBackend OnnxRuntimeBackend := ⟨load, infer, loaded, inputNames, close⟩

end OnnxRuntimeBackend

/-- The `cpu` factory. -/
def cpuBackend (threads : Option Int) : OnnxRuntimeBackend :=
  ⟨[py "CPUExecutionProvider"], threads, none⟩

end Detector
