import FrigateAsahi.Backends.Ncnn
import FrigateAsahi.Backends.Mnn

/-!
# The fallback wrapper and the backends the factories build

`FallbackBackend` is generic in both engines. `Backend` is the sum of the backends that a factory
can hand to the server, and of the bare engines.
-/

namespace Detector

open Text Python Numpy Interaction

/-- Which of the two engines serves. -/
inductive Active : Type
  | primary
  | fallback
  deriving DecidableEq

structure FallbackBackend (α β : Type) : Type where
  primary : α
  fallback : β
  active : Option Active

namespace FallbackBackend

variable {α β γ : Type}

def onPrimary (p : HostM α γ) : HostM (FallbackBackend α β) γ :=
  Py.zoom FallbackBackend.primary (fun primary self => { self with primary }) p

def onFallback (p : HostM β γ) : HostM (FallbackBackend α β) γ :=
  Py.zoom FallbackBackend.fallback (fun fallback self => { self with fallback }) p

/-- Call a method of the engine that serves. -/
def onActive (p : HostM α γ) (q : HostM β γ) (none : HostM (FallbackBackend α β) γ) :
    HostM (FallbackBackend α β) γ := do
  let self ← get
  match self.active with
  | some .primary => onPrimary p
  | some .fallback => onFallback q
  | Option.none => none

def setActive (a : Active) : HostM (FallbackBackend α β) Unit :=
  modify fun self => { self with active := some a }

variable [InferenceBackend α] [InferenceBackend β]

def closePrimary : HostM (FallbackBackend α β) Unit :=
  exceptException (onPrimary InferenceBackend.close) fun _ => pure ()

def closeFallback : HostM (FallbackBackend α β) Unit :=
  exceptException (onFallback InferenceBackend.close) fun _ => pure ()

/-- Load into the primary, and close it if that fails; the answer tells whether it serves. -/
def tryPrimary (modelPath : PyStr) : HostM (FallbackBackend α β) Bool :=
  exceptException (do
    onPrimary (InferenceBackend.load modelPath)
    setActive .primary
    pure true) fun _ => do
      closePrimary
      pure false

/-- The exception of the primary goes when its handler ends, before the fallback is tried. -/
def load (modelPath : PyStr) : HostM (FallbackBackend α β) Unit := do
  let served ← tryPrimary modelPath
  if served then pure ()
  else do
    dropException
    onFallback (InferenceBackend.load modelPath)
    setActive .fallback

def infer (feeds : Feeds) : HostM (FallbackBackend α β) (List NdArray) :=
  onActive (InferenceBackend.infer feeds) (InferenceBackend.infer feeds)
    (throw (exception "'NoneType' object has no attribute 'infer'"))

def loaded (self : FallbackBackend α β) : Bool :=
  match self.active with
  | none => false
  | some .primary => InferenceBackend.loaded self.primary
  | some .fallback => InferenceBackend.loaded self.fallback

def inputNames : HostM (FallbackBackend α β) (List PyStr) :=
  onActive InferenceBackend.inputNames InferenceBackend.inputNames (pure [])

def close : HostM (FallbackBackend α β) Unit := do
  closePrimary
  closeFallback

instance : InferenceBackend (FallbackBackend α β) := ⟨load, infer, loaded, inputNames, close⟩

end FallbackBackend

/-! ## The factories -/

inductive Backend : Type
  | ort (b : OnnxRuntimeBackend)
  | ncnn (b : NcnnBackend)
  | mnn (b : MnnBackend)
  | ncnnFallback (b : FallbackBackend NcnnBackend OnnxRuntimeBackend)
  | mnnFallback (b : FallbackBackend MnnBackend OnnxRuntimeBackend)

namespace Backend

/-- Run a method of the engine inside. -/
def within {β γ : Type} (wrap : β → Backend) (b : β) (p : HostM β γ) : HostM Backend γ :=
  Py.zoom (fun _ => b) (fun b _ => wrap b) p

variable [NumPy]

/-- Choose the method by the engine inside. -/
def dispatch {γ : Type} (method : ∀ {β : Type}, [InferenceBackend β] → HostM β γ) :
    HostM Backend γ := do
  let self ← get
  match self with
  | .ort b => within .ort b method
  | .ncnn b => within .ncnn b method
  | .mnn b => within .mnn b method
  | .ncnnFallback b => within .ncnnFallback b method
  | .mnnFallback b => within .mnnFallback b method

def loaded : Backend → Bool
  | .ort b => b.loaded
  | .ncnn b => b.loaded
  | .mnn b => b.loaded
  | .ncnnFallback b => b.loaded
  | .mnnFallback b => b.loaded

instance : InferenceBackend Backend where
  load modelPath := dispatch (InferenceBackend.load modelPath)
  infer feeds := dispatch (InferenceBackend.infer feeds)
  loaded := loaded
  inputNames := dispatch InferenceBackend.inputNames
  close := dispatch InferenceBackend.close

/-- What a factory builds: the CPU engine, or an accelerated one with the CPU engine behind it. -/
inductive Built : Backend → Prop
  | ort (providers : List PyStr) (threads : Option Int) : Built (.ort ⟨providers, threads, none⟩)
  | ncnn (useVulkan fp16 : Bool) (threads deviceIndex : Option Int) :
    Built (.ncnnFallback ⟨.init useVulkan fp16 threads deviceIndex, cpuBackend threads, none⟩)
  | mnn (forwardType : Int) (fp16 : Bool) (threads : Option Int) :
    Built (.mnnFallback ⟨.init forwardType fp16 threads, cpuBackend threads, none⟩)

end Backend

end Detector
