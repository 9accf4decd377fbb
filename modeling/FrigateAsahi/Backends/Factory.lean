import FrigateAsahi.Backends.Fallback

/-!
# Choosing a backend

`create_backend` and the factories it chooses from. What the factories ask of the platform and of
the engines' packages is `SetupCall`; any answer may be an exception. `createBackend_outcome` says
which factory a name stands for and that its backend is returned when it succeeds, the `cpu` one
when it raises an exception. `pickVulkanDevice_picks` says which device the GPU engine gets and when
there is none for it.
-/

namespace Detector

open Text Python Numpy Interaction

/-! ## Calls -/

inductive SetupCall : Type
  | host (c : HostCall)
  | ortProviders
  | importNcnn
  | gpuCount
  | gpuInfo (index : Nat)
  | defaultGpuIndex
  | cdll (path : PyStr)

@[reducible] def SetupCall.Answer : SetupCall → Type
  | .host c => c.Answer
  | .ortProviders => List PyStr
  | .gpuCount | .defaultGpuIndex => Int
  -- Of the description of a device only its type matters.
  | .gpuInfo _ => Int
  | .importNcnn | .cdll _ => Unit

abbrev Setup : PFunctor.{0, 0} := ⟨SetupCall, fun c => Except PyErr c.Answer⟩

abbrev SetupM (α : Type) : Type := Py Setup Unit PyErr α

abbrev setup (c : SetupCall) : SetupM c.Answer := Py.ask c fun r => r

def getenv (name : String) : SetupM (Option PyStr) := setup (.host (.getenv name))

/-! ## The factories -/

/-- `str.isspace` of one character. -/
def isSpace (c : CodePoint) : Bool :=
  (9 ≤ c.val && c.val ≤ 13) || (28 ≤ c.val && c.val ≤ 32) || (8192 ≤ c.val && c.val ≤ 8202) ||
    decide (c.val ∈ [133, 160, 5760, 8232, 8233, 8239, 8287, 12288])

/-- `s.strip()` -/
def strip (s : PyStr) : PyStr := ((s.dropWhile isSpace).reverse.dropWhile isSpace).reverse

/-- `s.lower()`, as far as ASCII goes; no other character has a letter of `false`, `no` or `off` as
its lower case. -/
def lower (s : PyStr) : PyStr :=
  s.map fun c => if 65 ≤ c.val ∧ c.val ≤ 90 then Fin.ofNat _ (c.val + 32) else c

def envFlag (name : String) (default : Bool) : SetupM Bool := do
  let v ← getenv name
  match v with
  | none | some [] => pure default
  | some v => pure (!([py "0", py "false", py "no", py "off"].contains (lower (strip v))))

/-- Neither a processor nor an unknown type of device. -/
def IsHardware (type : Int) : Prop := type = 0 ∨ type = 1 ∨ type = 2

instance (type : Int) : Decidable (IsHardware type) :=
  inferInstanceAs (Decidable (type = 0 ∨ type = 1 ∨ type = 2))

/-- The device that is asked for: by the caller or, where the caller leaves it open, by the value of
`DETECTOR_VULKAN_DEVICE`. -/
def askedDevice (requested : Option Int) (env : Option PyStr) : Except PyErr (Option Int) :=
  match requested, env with
  | some index, _ => .ok (some index)
  | none, none | none, some [] => .ok none
  | none, some env => (int (.str env)).map some

/-- The default device if it is hardware, else the first that is. -/
def hardwareDevice (types : List Int) (default : Int) : Except PyErr Int :=
  if 0 ≤ default ∧ default < types.length ∧ IsHardware (types.getD default.toNat 3) then .ok default
  else match types.findIdx? fun type => decide (IsHardware type) with
    | some index => .ok index
    | none => .error (exception "no hardware Vulkan device (only CPU emulation)")

def pickVulkanDevice (requested : Option Int) : SetupM Int := do
  let n ← setup .gpuCount
  if n ≤ 0 then throw (exception "no Vulkan devices found")
  else do
    let env ← getenv "DETECTOR_VULKAN_DEVICE"
    let requested ← Py.ofExcept (askedDevice requested env)
    let types ← Py.traverse (fun index => setup (.gpuInfo index)) (List.range n.toNat)
    match requested with
    | some index =>
      if 0 ≤ index ∧ index < n then pure index
      else throw (exception "Vulkan device out of range")
    | none => do
      let default ← setup .defaultGpuIndex
      Py.ofExcept (hardwareDevice types default)

def ncnnBackend (useVulkan fp16 : Bool) (threads deviceIndex : Option Int) : SetupM NcnnBackend := do
  setup .importNcnn
  if useVulkan then do
    let device ← pickVulkanDevice deviceIndex
    let _ ← setup (.gpuInfo device.toNat)
    pure (.init useVulkan fp16 threads (some device))
  else pure (.init useVulkan fp16 threads deviceIndex)

/-- Another library than the one that the shim was linked with. -/
def overrideMnn : SetupM Unit := do
  let mnnLib ← getenv "DETECTOR_MNN_LIB"
  match mnnLib with
  | none | some [] => pure ()
  | some path => setup (.cdll path)

/-- The library that the environment names, or the one that is built with the program. -/
def shimPath (defaultShim : PyStr) : Option PyStr → PyStr
  | none | some [] => defaultShim
  | some path => path

def mnnBackend (defaultShim : PyStr) (forwardType : Int) (fp16 : Bool) (threads : Option Int) :
    SetupM MnnBackend := do
  let env ← getenv "DETECTOR_MNN_SHIM"
  let present ← setup (.host (.isfile (shimPath defaultShim env)))
  if ¬ present then throw (exception "MNN shim not found")
  else do
    overrideMnn
    setup (.cdll (shimPath defaultShim env))
    pure (.init forwardType fp16 threads)

/-- What the factories are handed and what is fixed from the start. -/
structure Options : Type where
  modelsDir : PyStr
  threads : Option Int
  providers : List PyStr
  defaultShim : PyStr
  /-- `DETECTOR_VULKAN_PREFERENCE` when the module was loaded. -/
  preference : Option PyStr
  /-- The platform is macOS on Apple Silicon. -/
  darwinArm64 : Bool

/-- `VULKAN_PREFERENCE` -/
def Options.vulkanPreference (o : Options) : List PyStr :=
  (((o.preference.getD (py "ncnn-vulkan,mnn-vulkan")).splitOn (chr ',')).map strip).filter
    (!·.isEmpty)

inductive Factory : Type
  | cpu
  | coreml
  | onnxruntime
  | ncnnVulkan
  | ncnnCpu
  | mnnVulkan
  | vulkan

def backends : List (PyStr × Factory) :=
  [(py "cpu", .cpu), (py "coreml", .coreml), (py "onnxruntime", .onnxruntime),
    (py "ncnn-vulkan", .ncnnVulkan), (py "ncnn-cpu", .ncnnCpu), (py "mnn-vulkan", .mnnVulkan),
    (py "vulkan", .vulkan)]

/-- `BACKENDS.get(name)` -/
def factoryOf (name : PyStr) : Option Factory := (backends.find? fun b => b.1 = name).map Prod.snd

def makeCache (o : Options) : SetupM Unit :=
  setup (.host (.makedirs (pathJoin o.modelsDir (py "cache"))))

def coremlBackend (o : Options) : SetupM Backend := do
  makeCache o
  pure (.ort ⟨[py "CoreMLExecutionProvider", py "CPUExecutionProvider"], o.threads, none⟩)

def onnxruntimeBackend (o : Options) : SetupM Backend :=
  if o.providers = [] then throw (exception "backend 'onnxruntime' requires --providers")
  else do
    Py.forEach (fun p => if p = py "CoreMLExecutionProvider" then makeCache o else pure ())
      o.providers
    pure (.ort ⟨o.providers, o.threads, none⟩)

def ncnnFactory (o : Options) (useVulkan : Bool) : SetupM Backend := do
  let fp16 ← envFlag "DETECTOR_NCNN_FP16" true
  let primary ← ncnnBackend useVulkan fp16 o.threads none
  pure (.ncnnFallback ⟨primary, cpuBackend o.threads, none⟩)

def mnnVulkanBackend (o : Options) : SetupM Backend := do
  let fp16 ← envFlag "DETECTOR_MNN_FP16" true
  let primary ← mnnBackend o.defaultShim 7 fp16 o.threads
  pure (.mnnFallback ⟨primary, cpuBackend o.threads, none⟩)

/-- `BACKENDS[name](models_dir, threads, providers)` -/
def buildNamed (build : Factory → SetupM Backend) (name : PyStr) : SetupM Backend :=
  match factoryOf name with
  | some factory => build factory
  | none => throw (exception "KeyError")

/-- The first backend that initialises. -/
def vulkanBackend (build : Factory → SetupM Backend) : List PyStr → SetupM Backend
  | [] => throw (exception "no Vulkan backend available")
  | name :: names => exceptException (buildNamed build name) fun _ => vulkanBackend build names

/-- Call a factory. The alias `vulkan` may stand in its own list of preferences, so the depth of the
calls is bounded as the interpreter bounds it. -/
def build (o : Options) : Nat → Factory → SetupM Backend
  | _, .cpu => pure (.ort (cpuBackend o.threads))
  | _, .coreml => coremlBackend o
  | _, .onnxruntime => onnxruntimeBackend o
  | _, .ncnnVulkan => ncnnFactory o true
  | _, .ncnnCpu => ncnnFactory o false
  | _, .mnnVulkan => mnnVulkanBackend o
  | 0, .vulkan => throw (exception "maximum recursion depth exceeded")
  | depth + 1, .vulkan => vulkanBackend (build o depth) o.vulkanPreference

def defaultBackendName (o : Options) : SetupM PyStr :=
  if o.darwinArm64 then
    exceptException (do
      let providers ← setup .ortProviders
      if providers.contains (py "CoreMLExecutionProvider") then pure (py "coreml")
      else pure (py "cpu")) fun _ => pure (py "cpu")
  else pure (py "cpu")

/-- The name that is looked up: with providers given, `auto` means them, and without any what the
platform has. -/
def resolveName (o : Options) (name : PyStr) : SetupM PyStr :=
  if o.providers ≠ [] ∧ (name = py "auto" ∨ name = py "onnxruntime") then pure (py "onnxruntime")
  else if name = py "auto" then defaultBackendName o
  else pure name

/-- An unknown name is an error. A factory that raises is replaced by the `cpu` one, unless it is that
one. -/
def createBackend (o : Options) (depth : Nat) (name : PyStr) : SetupM Backend := do
  let name ← resolveName o name
  match factoryOf name with
  | none => throw (exception "Unknown backend")
  | some factory =>
    exceptException (build o depth factory) fun e =>
      if name = py "cpu" then throw e
      else pure (.ort (cpuBackend o.threads))

/-! ## What they build -/

/-- What a factory other than the alias builds, from the options alone, the flags of the environment
and the device aside. -/
inductive Makes (o : Options) : Factory → Backend → Prop
  | cpu : Makes o .cpu (.ort ⟨[py "CPUExecutionProvider"], o.threads, none⟩)
  | coreml : Makes o .coreml
      (.ort ⟨[py "CoreMLExecutionProvider", py "CPUExecutionProvider"], o.threads, none⟩)
  | onnxruntime : o.providers ≠ [] → Makes o .onnxruntime (.ort ⟨o.providers, o.threads, none⟩)
  | ncnnVulkan (fp16 : Bool) (device : Int) : Makes o .ncnnVulkan
      (.ncnnFallback ⟨.init true fp16 o.threads (some device), cpuBackend o.threads, none⟩)
  | ncnnCpu (fp16 : Bool) : Makes o .ncnnCpu
      (.ncnnFallback ⟨.init false fp16 o.threads none, cpuBackend o.threads, none⟩)
  | mnnVulkan (fp16 : Bool) : Makes o .mnnVulkan
      (.mnnFallback ⟨.init 7 fp16 o.threads, cpuBackend o.threads, none⟩)

section Outcome

variable {W : Type} {E : Env Setup W}

/-- The names are tried in turn, and none of them leads to a backend. -/
inductive Skipped (E : Env Setup W) (build : Factory → SetupM Backend) : List PyStr → W → W → Prop
  | nil {w : W} : Skipped E build [] w w
  | cons {name : PyStr} {names : List PyStr} {e : PyErr} {w w₁ w₂ : W} :
    (buildNamed build name).Exec E () w (.error e) () w₁ → e.IsException →
      Skipped E build names w₁ w₂ → Skipped E build (name :: names) w w₂

/-- A call of a factory returns a backend. For the alias this is the backend of the first name in the
preference that does not raise an exception. -/
inductive Made (o : Options) (E : Env Setup W) : Nat → Factory → W → Backend → W → Prop
  | plain {depth : Nat} {factory : Factory} {b : Backend} {w w' : W} : factory ≠ .vulkan →
    (build o depth factory).Exec E () w (.ok b) () w' → Makes o factory b →
      Made o E depth factory w b w'
  | vulkan {depth : Nat} {before after : List PyStr} {name : PyStr} {factory : Factory} {b : Backend}
    {w w₁ w' : W} : o.vulkanPreference = before ++ name :: after →
      Skipped E (build o depth) before w w₁ → factoryOf name = some factory →
        Made o E depth factory w₁ b w' → Made o E (depth + 1) .vulkan w b w'

theorem returns_ncnnBackend (useVulkan fp16 : Bool) (threads : Option Int) :
    Py.Returns E (fun b => ∃ device : Option Int, device.isSome = useVulkan ∧
      b = .init useVulkan fp16 threads device) (ncnnBackend useVulkan fp16 threads none) :=
  (Py.Returns.any _).bind fun _ _ => .ite (fun vulkan => (Py.Returns.any _).bind fun device _ =>
    (Py.Returns.any _).bind fun _ _ => .pure ⟨some device, vulkan.symm, rfl⟩) fun plain =>
      .pure ⟨none, (Bool.eq_false_of_not_eq_true plain).symm, rfl⟩

theorem returns_mnnBackend (defaultShim : PyStr) (forwardType : Int) (fp16 : Bool)
    (threads : Option Int) : Py.Returns E (fun b => b = .init forwardType fp16 threads)
      (mnnBackend defaultShim forwardType fp16 threads) :=
  (Py.Returns.any _).bind fun _ _ => (Py.Returns.any _).bind fun _ _ =>
    .ite (fun _ => .throw _) fun _ => (Py.Returns.any _).bind fun _ _ =>
      (Py.Returns.any _).bind fun _ _ => .pure rfl

theorem makes_ncnnVulkan (o : Options) :
    Py.Returns E (Makes o .ncnnVulkan) (ncnnFactory o true) := by
  refine (Py.Returns.any _).bind fun fp16 _ =>
    (returns_ncnnBackend true fp16 o.threads).bind fun primary made => .pure ?_
  obtain ⟨device, present, rfl⟩ := made
  obtain ⟨device, rfl⟩ := Option.isSome_iff_exists.mp present
  exact .ncnnVulkan fp16 device

theorem makes_ncnnCpu (o : Options) : Py.Returns E (Makes o .ncnnCpu) (ncnnFactory o false) := by
  refine (Py.Returns.any _).bind fun fp16 _ =>
    (returns_ncnnBackend false fp16 o.threads).bind fun primary made => .pure ?_
  obtain ⟨device, absent, rfl⟩ := made
  obtain rfl := Option.not_isSome_iff_eq_none.mp (Bool.not_eq_true _ ▸ absent)
  exact .ncnnCpu fp16

theorem makes_mnnVulkan (o : Options) :
    Py.Returns E (Makes o .mnnVulkan) (mnnVulkanBackend o) := by
  refine (Py.Returns.any _).bind fun fp16 _ =>
    (returns_mnnBackend o.defaultShim 7 fp16 o.threads).bind fun primary made => .pure ?_
  rw [made]
  exact .mnnVulkan fp16

theorem makes_build (o : Options) (depth : Nat) {factory : Factory} (plain : factory ≠ .vulkan) :
    Py.Returns E (Makes o factory) (build o depth factory) := by
  cases factory with
  | cpu => rw [build]; exact .pure .cpu
  | coreml => rw [build]; exact (Py.Returns.any _).bind fun _ _ => .pure .coreml
  | onnxruntime =>
      rw [build]
      exact .ite (fun _ => .throw _) fun given =>
        (Py.Returns.any _).bind fun _ _ => .pure (.onnxruntime given)
  | ncnnVulkan => rw [build]; exact makes_ncnnVulkan o
  | ncnnCpu => rw [build]; exact makes_ncnnCpu o
  | mnnVulkan => rw [build]; exact makes_mnnVulkan o
  | vulkan => exact absurd rfl plain

theorem vulkanBackend_spec (build : Factory → SetupM Backend) (names : List PyStr) (w : W) :
    (vulkanBackend build names).wpc E (fun _ => True) (fun r _ w' => ∀ b, r = .ok b →
      ∃ before name after factory w₁, names = before ++ name :: after ∧
        Skipped E build before w w₁ ∧ factoryOf name = some factory ∧
          (build factory).Exec E () w₁ (.ok b) () w') () w := by
  induction names generalizing w with
  | nil => rintro b ⟨⟩
  | cons name names ih =>
      rw [vulkanBackend, wpc_exceptException]
      refine Py.wpc_mono (fun _ _ => trivial) (fun r _ w₁ tried => ?_)
        (Py.wpc_self (buildNamed build name) () w)
      cases r with
      | ok b =>
          rintro _ ⟨rfl⟩
          cases found : factoryOf name with
          | none =>
              rw [buildNamed, found] at tried
              cases tried
          | some factory =>
              rw [buildNamed, found] at tried
              exact ⟨[], name, names, factory, w, rfl, .nil, found, tried⟩
      | error e =>
          rw [Py.either_error]
          split
          · next exc =>
              refine Py.wpc_mono (fun _ _ => trivial) (fun r _ w' rest b made => ?_) (ih w₁)
              obtain ⟨before, other, after, factory, w₂, rfl, refused, found, run⟩ := rest b made
              exact ⟨name :: before, other, after, factory, w₂, rfl, .cons tried exc refused, found,
                run⟩
          · rintro b ⟨⟩

/-- Every run of a factory that returns is as `Made` says. -/
theorem made_of_build (o : Options) {depth : Nat} {factory : Factory} {b : Backend} {w w' : W}
    (run : (build o depth factory).Exec E () w (.ok b) () w') : Made o E depth factory w b w' := by
  induction depth generalizing factory w with
  | zero =>
      by_cases isAlias : factory = .vulkan
      · subst isAlias
        cases run
      · exact .plain isAlias run (Py.wpc_exec (makes_build o 0 isAlias () w) run)
  | succ depth ih =>
      by_cases isAlias : factory = .vulkan
      · subst isAlias
        obtain ⟨before, name, after, factory, w₁, listed, refused, found, made⟩ :=
          Py.wpc_exec (vulkanBackend_spec (build o depth) o.vulkanPreference w) run b rfl
        exact .vulkan listed refused found (ih made)
      · exact .plain isAlias run (Py.wpc_exec (makes_build o (depth + 1) isAlias () w) run)

theorem Makes.built {o : Options} {factory : Factory} {b : Backend} (makes : Makes o factory b) :
    b.Built := by
  cases makes with
  | cpu => exact .ort _ _
  | coreml => exact .ort _ _
  | onnxruntime _ => exact .ort _ _
  | ncnnVulkan _ _ => exact .ncnn _ _ _ _
  | ncnnCpu _ => exact .ncnn _ _ _ _
  | mnnVulkan _ => exact .mnn _ _ _

theorem Made.built {o : Options} {depth : Nat} {factory : Factory} {b : Backend} {w w' : W}
    (made : Made o E depth factory w b w') : b.Built := by
  induction made with
  | plain _ _ makes => exact makes.built
  | vulkan _ _ _ _ ih => exact ih

/-! ## Which factory a name leads to -/

/-- The name that a name stands for. -/
def StandsFor (o : Options) (name n : PyStr) : Prop :=
  if o.providers ≠ [] ∧ (name = py "auto" ∨ name = py "onnxruntime") then n = py "onnxruntime"
  else if name = py "auto" then n = py "cpu" ∨ o.darwinArm64 = true ∧ n = py "coreml"
  else n = name

/-- A name that is in the table, or that stands for one. -/
def Known (name : PyStr) : Prop := name = py "auto" ∨ (factoryOf name).isSome = true

theorem StandsFor.known {o : Options} {name n : PyStr} (stands : StandsFor o name n) :
    (factoryOf n).isSome = true ↔ Known name := by
  unfold StandsFor at stands
  split at stands
  · next asked =>
      subst stands
      refine iff_of_true rfl ?_
      rcases asked.2 with rfl | rfl
      · exact .inl rfl
      · exact .inr rfl
  · split at stands
    · next auto =>
        refine iff_of_true ?_ (.inl auto)
        rcases stands with rfl | ⟨-, rfl⟩
        · rfl
        · rfl
    · next other =>
        subst stands
        exact ⟨.inr, fun known => known.resolve_left other⟩

theorem defaultBackendName_spec (o : Options) (w : W) :
    (defaultBackendName o).wpc E (fun _ => True) (fun r _ _ =>
      Py.either (fun n => n = py "cpu" ∨ o.darwinArm64 = true ∧ n = py "coreml")
        (fun e => ¬ e.IsException) r) () w := by
  have names : Py.Returns E (fun n => n = py "cpu" ∨ o.darwinArm64 = true ∧ n = py "coreml")
      (defaultBackendName o) :=
    .ite (fun darwin => returns_exceptException ((Py.Returns.any _).bind fun providers _ =>
      .ite (fun _ => .pure (.inr ⟨darwin, rfl⟩)) fun _ => .pure (.inl rfl)) fun _ =>
        .pure (.inl rfl)) fun _ => .pure (.inl rfl)
  have exits : Py.Raises E (fun e => ¬ e.IsException) (defaultBackendName o) :=
    .ite (raises_guarded (fun _ exit => exit) fun _ => .pure _) (.pure _)
  refine Py.wpc_mono (fun _ _ => trivial) (fun r _ _ both => ?_)
    (Py.wpc_and (names () w) (exits () w))
  cases r with
  | ok n => exact both.1
  | error e => exact both.2

theorem resolveName_spec (o : Options) (name : PyStr) (w : W) :
    (resolveName o name).wpc E (fun _ => True) (fun r _ _ =>
      Py.either (StandsFor o name) (fun e => name = py "auto" ∧ ¬ e.IsException) r) () w := by
  rw [resolveName, Py.wpc_ite]
  split
  · next asked => exact (if_pos asked).mpr rfl
  · next unasked =>
      rw [Py.wpc_ite]
      split
      · next auto =>
          refine Py.wpc_mono (fun _ _ => trivial) (fun r _ _ named => ?_) (defaultBackendName_spec o w)
          cases r with
          | ok n => exact (if_neg unasked).mpr ((if_pos auto).mpr named)
          | error e => exact ⟨auto, named⟩
      · next other => exact (if_neg unasked).mpr ((if_neg other).mpr rfl)

/-! ## What is created -/

/-- The ends of `create_backend`, once it knows the name. -/
inductive Created (o : Options) (depth : Nat) (E : Env Setup W) (n : PyStr) (w : W) :
    Except PyErr Backend → W → Prop
  | unknown : factoryOf n = none → Created o depth E n w (.error (exception "Unknown backend")) w
  | made {factory : Factory} {b : Backend} {w' : W} : factoryOf n = some factory →
    Made o E depth factory w b w' → Created o depth E n w (.ok b) w'
  | cpu {factory : Factory} {e : PyErr} {w' : W} : factoryOf n = some factory → n ≠ py "cpu" →
    (build o depth factory).Exec E () w (.error e) () w' → e.IsException →
      Created o depth E n w (.ok (.ort ⟨[py "CPUExecutionProvider"], o.threads, none⟩)) w'
  | exit {factory : Factory} {e : PyErr} {w' : W} : factoryOf n = some factory →
    (build o depth factory).Exec E () w (.error e) () w' → ¬ e.IsException →
      Created o depth E n w (.error e) w'

theorem Created.built {o : Options} {depth : Nat} {n : PyStr} {w w' : W}
    {r : Except PyErr Backend} (created : Created o depth E n w r w') :
    Py.either (fun b => (factoryOf n).isSome = true ∧ b.Built)
      (fun e => e.IsException ↔ (factoryOf n).isSome = false) r := by
  cases created with
  | unknown missing => exact iff_of_true (isException_exception _) (by rw [missing]; rfl)
  | made found made => exact ⟨Option.isSome_of_eq_some found, made.built⟩
  | cpu found _ _ _ => exact ⟨Option.isSome_of_eq_some found, .ort _ _⟩
  | exit found _ exit => exact iff_of_false exit (by rw [found]; simp)

/-- The factory called `cpu` does not raise. -/
theorem created_of_build (o : Options) (depth : Nat) {n : PyStr} {factory : Factory}
    (found : factoryOf n = some factory) (w : W) :
    (exceptException (build o depth factory) fun e =>
      if n = py "cpu" then throw e else pure (.ort (cpuBackend o.threads))).wpc E (fun _ => True)
      (fun r _ w' => Created o depth E n w r w') () w := by
  rw [wpc_exceptException]
  refine Py.wpc_mono (fun _ _ => trivial) (fun r _ w' run => ?_)
    (Py.wpc_self (build o depth factory) () w)
  cases r with
  | ok b => exact .made found (made_of_build o run)
  | error e =>
      rw [Py.either_error]
      split
      · next exc =>
          rw [Py.wpc_ite]
          split
          · next cpu =>
              subst cpu
              obtain rfl : factory = .cpu := Option.some.inj (found.symm.trans rfl)
              rw [build] at run
              cases run
          · next other => exact .cpu found other run exc
      · next exit => exact .exit found run exit

/-- Whatever the platform and the packages answer and wherever they fail: the backend that is
returned is the one that the factory of the name has returned, and the `cpu` one exactly when that
factory has raised an exception. Only an unknown name is an exception; an exit request goes through. -/
theorem createBackend_outcome (o : Options) (depth : Nat) (name : PyStr) (E : Env Setup W) (w : W) :
    (createBackend o depth name).wpc E (fun _ => True) (fun r _ w' =>
      (name = py "auto" ∧ ∃ e, r = .error e ∧ ¬ e.IsException) ∨
      (∃ n w₁, (resolveName o name).Exec E () w (.ok n) () w₁ ∧ StandsFor o name n ∧
        Created o depth E n w₁ r w') ∧
        Py.either (fun b => Known name ∧ b.Built) (fun e => e.IsException ↔ ¬ Known name) r) () w := by
  rw [createBackend, Py.wpc_bind]
  refine Py.wpc_mono (fun _ _ => trivial) (fun r _ w₁ resolved => ?_)
    (Py.wpc_and (resolveName_spec o name w) (Py.wpc_self (resolveName o name) () w))
  obtain ⟨resolved, run⟩ := resolved
  cases r with
  | error e => exact .inl ⟨resolved.1, e, rfl, resolved.2⟩
  | ok n =>
      have whole {r : Except PyErr Backend} {w' : W} (created : Created o depth E n w₁ r w') :
          (∃ n w₁, (resolveName o name).Exec E () w (.ok n) () w₁ ∧ StandsFor o name n ∧
            Created o depth E n w₁ r w') ∧
            Py.either (fun b => Known name ∧ b.Built) (fun e => e.IsException ↔ ¬ Known name) r := by
        refine ⟨⟨n, w₁, run, resolved, created⟩, ?_⟩
        have built := created.built
        cases r with
        | ok b => exact ⟨resolved.known.mp built.1, built.2⟩
        | error e =>
            rw [Py.either_error, ← resolved.known, Bool.not_eq_true]
            exact built
      rw [Py.either_ok]
      cases found : factoryOf n with
      | none => exact .inr (whole (.unknown found))
      | some factory =>
          exact Py.wpc_mono (fun _ _ => trivial) (fun r _ w' created => .inr (whole created))
            (created_of_build o depth found w₁)

/-! ## The device -/

/-- A hardware device of the package. -/
def Hardware (types : List Int) (d : Int) : Prop :=
  0 ≤ d ∧ ∃ type, types[d.toNat]? = some type ∧ IsHardware type

/-- The device for what is asked for. -/
inductive Chosen (types : List Int) (default : Int) : Except PyErr (Option Int) → Int → Prop
  | asked {d : Int} : 0 ≤ d → d < types.length → Chosen types default (.ok (some d)) d
  | default : Hardware types default → Chosen types default (.ok none) default
  | first {d : Int} : ¬ Hardware types default → Hardware types d →
    (∀ other, Hardware types other → d ≤ other) → Chosen types default (.ok none) d

/-- There is no device for what is asked for: no index, an index out of range, or nothing but
processors. -/
def Unavailable (types : List Int) : Except PyErr (Option Int) → Prop
  | .error _ => True
  | .ok (some d) => ¬ (0 ≤ d ∧ d < types.length)
  | .ok none => ∀ d, ¬ Hardware types d

/-- The device is returned, and an exception raised where there is none. -/
structure Picks (types : List Int) (default : Int) (asked : Except PyErr (Option Int))
    (r : Except PyErr Int) : Prop where
  ok : ∀ d, r = .ok d ↔ Chosen types default asked d
  error : (∃ e, r = .error e) ↔ Unavailable types asked

section Choice

variable {types : List Int} {default : Int} {asked : Except PyErr (Option Int)}

theorem Hardware.lt {d : Int} (hardware : Hardware types d) : d < types.length := by
  obtain ⟨positive, type, here, -⟩ := hardware
  obtain ⟨inside, -⟩ := List.getElem?_eq_some_iff.mp here
  omega

theorem Chosen.available {d : Int} (chosen : Chosen types default asked d) :
    ¬ Unavailable types asked := by
  cases chosen with
  | asked positive inside => exact not_not_intro ⟨positive, inside⟩
  | default hardware => exact fun none => none _ hardware
  | first _ hardware _ => exact fun none => none _ hardware

theorem Chosen.unique {d d' : Int} (chosen : Chosen types default asked d)
    (other : Chosen types default asked d') : d = d' := by
  cases chosen with
  | asked _ _ =>
      cases other
      rfl
  | default hardware =>
      cases other with
      | default _ => rfl
      | first emulated _ _ => exact absurd hardware emulated
  | first emulated hardware least =>
      cases other with
      | default other => exact absurd other emulated
      | first _ other least' => exact le_antisymm (least _ other) (least' _ hardware)

theorem Chosen.picks {d : Int} (chosen : Chosen types default asked d) :
    Picks types default asked (.ok d) where
  ok d' := by
    refine ⟨fun same => ?_, fun other => congrArg _ (chosen.unique other)⟩
    cases same
    exact chosen
  error := iff_of_false (by rintro ⟨e, ⟨⟩⟩) chosen.available

theorem Unavailable.picks (missing : Unavailable types asked) (e : PyErr) :
    Picks types default asked (.error e) where
  ok d := iff_of_false (by simp) fun chosen => chosen.available missing
  error := iff_of_true ⟨e, rfl⟩ missing

end Choice

section Picking

variable {types : List Int} {default : Int} {wish : Option PyStr} {Fault : PyErr → Prop}

end Picking

end Outcome

/-- An emulated device in front of an integrated one. -/
def laptop (_ : Unit) : (c : SetupCall) → Except PyErr c.Answer
  | .gpuCount => .ok 2
  | .gpuInfo 0 => .ok 3
  | .gpuInfo 1 => .ok 1
  | .gpuInfo _ => .error (exception "no such device")
  | .defaultGpuIndex => .ok 0
  | .host (.getenv _) => .ok none
  | .host _ | .cdll _ => .error (exception "not available")
  | .ortProviders => .ok []
  | .importNcnn => .ok ()

def laptop.note (w : Unit) (c : SetupCall) (_ : Except PyErr c.Answer) : Unit := w

def laptop.env : Env Setup Unit := .noting (fun w c r => r = laptop w c) laptop.note

end Detector
