import FrigateAsahi.Numpy

/-!
# What the detector process asks of its surroundings

`HostCall` lists the calls by which the detector process, its sockets aside, touches the outside:
files, converter tools, the three inference engines, the clock and the log. Every answer may be an
exception. Four calls have no counterpart in the source text. Three of them follow the references to
a net, which lives as long as something refers to it: at `ncnnRelease` the last variable that refers
to it goes; at `tracebackKeeps` an exception leaves a frame with such a variable, and its traceback
refers to the net from then on; at `dropTraceback` the handler of an exception ends, and the exception
goes with its traceback. The fourth, `postProcess`, stands for the functions of `model_util`, each of
which fills a zeroed `(20, 6)` array of `float32`.
-/

namespace Detector

open Text Python Numpy Interaction

/-- A file named by a path, or a file inside a directory that `mkdtemp` made. -/
inductive FilePath : Type
  | at (path : PyStr)
  | temp (dir : Nat) (name : PyStr)
  deriving DecidableEq

/-- What is read of a finished converter: its return code, and whether a line of its error output
speaks of something that is not supported. -/
structure ProcResult : Type where
  returncode : Int
  unsupported : Bool

inductive Command : Type
  | onnx2ncnn (tool onnx : PyStr) (rawParam rawBin : FilePath)
  | ncnnoptimize (tool : PyStr) (rawParam rawBin optParam optBin : FilePath)
  | mnnconvert (tool : Option PyStr) (onnx : PyStr) (mnn : FilePath)

/-- A dimension of an ONNX tensor. -/
inductive Dim : Type
  | int (n : Int)
  | sym (name : PyStr)
  | none
  deriving DecidableEq

/-- Names and shapes of a graph's inputs or outputs. -/
abbrev IoMeta : Type := List (PyStr × List Dim)

abbrev Feeds : Type := List (PyStr × NdArray)

/-- What `mnn_shim_io_info` leaves behind. -/
structure IoInfo : Type where
  nd : Int
  name : Bytes
  dims : Fin 8 → Int

/-- How a call fills buffers that it is handed. -/
abbrev Fill : Type := Nat → (a : NdArray) → {octets : Bytes // octets.length = a.data.length}

def Fill.untouched : Fill := fun _ a => ⟨a.data, rfl⟩

inductive Engine : Type
  | ncnn
  | mnn
  deriving DecidableEq

/-- The log lines that tell how far the load of a model came. -/
inductive LogLine : Type
  | loadingModel (path : PyStr)
  | loaded (engine : Engine)
  | warmUpOk (engine : Engine)
  deriving DecidableEq

inductive PostProcess : Type
  | yolo (width height : Int)
  | dfine (width height : Int)
  | rfdetr

/-- Twenty rows of six numbers. -/
structure Detections : Type where
  octets : Bytes
  length_eq : octets.length = 480

def Detections.array (d : Detections) : NdArray := ⟨[20, 6], .float32, d.octets, d.length_eq⟩

inductive HostCall : Type
  | exists (p : FilePath)
  | makedirs (p : PyStr)
  | openWb (p : PyStr)
  | write (p : PyStr) (data : Bytes)
  | closeFile (p : PyStr)
  | getmtime (p : FilePath)
  | getsize (p : FilePath)
  | replace (source target : FilePath)
  | mkdtemp (beside : PyStr)
  | rmtree (dir : Nat)
  | getenv (name : String)
  | isfile (p : PyStr)
  | accessX (p : PyStr)
  | which (name : String)
  | run (command : Command)
  | onnxIoMeta (path : PyStr)
  | ortSession (path : PyStr) (providers : List PyStr) (threads : Option Int)
  | ortInputs (session : Nat)
  | ortOutputs (session : Nat)
  | ortRun (session : Nat) (feeds : Feeds)
  | ncnnNet
  | ncnnOptions (net : Nat) (useVulkan fp16 : Bool) (threads : Int) (deviceIndex : Option Int)
  | ncnnLoadParam (net : Nat) (path : PyStr)
  | ncnnLoadModel (net : Nat) (path : PyStr)
  | ncnnInputNames (net : Nat)
  | ncnnOutputNames (net : Nat)
  | ncnnExtractor (net : Nat)
  | ncnnInput (extractor : Nat) (name : PyStr) (mat : NdArray)
  | ncnnExtract (extractor : Nat) (name : PyStr)
  | ncnnRelease (net : Nat)
  | tracebackKeeps (net : Nat)
  | dropTraceback
  | ncnnDestroyGpuInstance
  | mnnCreate (path : PyStr) (forwardType precision threads : Int)
  | mnnNumInputs (handle : Nat)
  | mnnNumOutputs (handle : Nat)
  | mnnIoInfo (handle : Nat) (which idx : Nat)
  | mnnInfer (handle : Option Nat) (inputs outputs : List NdArray)
  | mnnDestroy (handle : Nat)
  | postProcess (kind : PostProcess) (outputs : List NdArray)
  | time
  | sleep
  | log (line : LogLine)

/-- The type of a call's answer, exceptions aside. -/
@[reducible] def HostCall.Answer : HostCall → Type
  | .exists _ | .isfile _ | .accessX _ => Bool
  | .getmtime _ | .getsize _ | .mkdtemp _ => Nat
  | .getenv _ | .which _ => Option PyStr
  | .run _ => ProcResult
  | .onnxIoMeta _ => IoMeta × IoMeta
  | .ortSession _ _ _ | .ncnnNet | .ncnnExtractor _ => Nat
  | .ortInputs _ | .ortOutputs _ | .ncnnInputNames _ | .ncnnOutputNames _ => List PyStr
  | .ortRun _ _ => List NdArray
  | .ncnnLoadParam _ _ | .ncnnLoadModel _ _ => Int
  | .ncnnExtract _ _ => Int × NdArray
  | .mnnCreate _ _ _ _ => Option Nat
  | .mnnNumInputs _ | .mnnNumOutputs _ => Int
  | .mnnIoInfo _ _ _ => IoInfo
  | .mnnInfer _ _ _ => Int × Fill
  | .postProcess _ _ => Detections
  | .time => FloatLit
  | _ => Unit

abbrev Host : PFunctor.{0, 0} := ⟨HostCall, fun c => Except PyErr c.Answer⟩

/-- A method of an object in the detector process. -/
abbrev HostM (σ α : Type) : Type := Py Host σ PyErr α

/-- Make a call, raising the exception it answers with. -/
abbrev ask {σ : Type} (c : HostCall) : HostM σ c.Answer := Py.ask c fun r => r

/-- A function that touches no object, called from a method. -/
def free {σ α : Type} (p : HostM Unit α) : HostM σ α := Py.zoom (fun _ => ()) (fun _ s => s) p

abbrev log {σ : Type} (line : LogLine) : HostM σ Unit := ask (.log line)

/-- The value that must be there, or the exception its absence raises. -/
def require {σ α : Type} (x : Option α) (msg : String) : HostM σ α :=
  Py.ofExcept (x.elim (.error (exception msg)) .ok)

/-- The end of a handler: the exception goes, with its traceback. This cannot fail. -/
def dropException {σ : Type} : HostM σ Unit :=
  Py.catching (ask .dropTraceback) fun _ => pure ()

section Rules

variable {W σ α : Type} {E : Env Host W} {C : W → Prop} {s : σ} {w : W}

@[simp] theorem wpc_free (p : HostM Unit α) {Q : Except PyErr α → σ → W → Prop} :
    (free p : HostM σ α).wpc E C Q s w ↔ p.wpc E C (fun r _ w' => Q r s w') () w :=
  Py.wpc_zoom _ _ p

@[simp] theorem wpc_require (x : Option α) (msg : String) {Q : Except PyErr α → σ → W → Prop} :
    (require x msg : HostM σ α).wpc E C Q s w ↔
      (∀ a, x = some a → Q (.ok a) s w) ∧ (x = none → Q (.error (exception msg)) s w) := by
  cases x <;> simp [require]

theorem wpc_dropException {Q : Except PyErr Unit → σ → W → Prop} :
    dropException.wpc E C Q s w ↔
      ∀ r w', E.step w .dropTraceback r w' → C w' ∧ Q (.ok ()) s w' := by
  rw [dropException, Py.wpc_catching, Py.wpc_ask]
  refine forall₃_congr fun r w' _ => ?_
  cases r <;> simp

theorem within_dropException {R : σ × W → σ × W → Prop} [IsPreorder (σ × W) R]
    (asked : Py.Within E R (ask .dropTraceback : HostM σ Unit)) :
    Py.Within E R (dropException : HostM σ Unit) :=
  asked.catching fun _ => .pure ()

end Rules

end Detector
