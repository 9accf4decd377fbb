import Mathlib

/-!
# DRM frame descriptors

`vulkan_drm_expand_multiplane` rewrites a descriptor into one layer per plane. A write or a read
outside an array is `none` here. What is written is a prefix of the layer array, so the rewritten
descriptor is known from the list of its layers.
-/

namespace Vulkan

/-! ## Descriptors -/

def AV_DRM_MAX_PLANES : Nat := 4

structure ObjectDescriptor : Type where
  fd : Int
  size : Nat
  format_modifier : UInt64
  deriving DecidableEq

structure PlaneDescriptor : Type where
  object_index : Nat
  offset : Int
  pitch : Int
  deriving DecidableEq

structure LayerDescriptor : Type where
  format : UInt32
  nb_planes : Nat
  planes : Vector PlaneDescriptor AV_DRM_MAX_PLANES
  deriving DecidableEq

structure FrameDescriptor : Type where
  nb_objects : Nat
  objects : Vector ObjectDescriptor AV_DRM_MAX_PLANES
  nb_layers : Nat
  layers : Vector LayerDescriptor AV_DRM_MAX_PLANES
  deriving DecidableEq

/-- The planes that a layer has. -/
def LayerDescriptor.used (layer : LayerDescriptor) : List PlaneDescriptor :=
  layer.planes.toList.take layer.nb_planes

def FrameDescriptor.used (desc : FrameDescriptor) : List LayerDescriptor :=
  desc.layers.toList.take desc.nb_layers

def fourcc (a b c d : Char) : UInt32 :=
  a.val ||| (b.val <<< 8) ||| (c.val <<< 16) ||| (d.val <<< 24)

def DRM_FORMAT_R8 : UInt32 := fourcc 'R' '8' ' ' ' '

def DRM_FORMAT_GR88 : UInt32 := fourcc 'G' 'R' '8' '8'

def DRM_FORMAT_R16 : UInt32 := fourcc 'R' '1' '6' ' '

def DRM_FORMAT_GR1616 : UInt32 := fourcc 'G' 'R' '3' '2'

def DRM_FORMAT_MOD_LINEAR : UInt64 := 0

structure MultiplaneFormat : Type where
  drm_fourcc : UInt32
  nb_planes : Nat
  plane_fourcc : Vector UInt32 AV_DRM_MAX_PLANES

/-- What the headers of a build define: two formats, and the version of the Vulkan headers. -/
structure Build : Type where
  p012 : Bool
  p016 : Bool
  vkHeaderVersion : Nat

def semiPlanar (format : UInt32) (luma chroma : UInt32) : MultiplaneFormat :=
  ⟨format, 2, #v[luma, chroma, 0, 0]⟩

def planar (format : UInt32) : MultiplaneFormat :=
  ⟨format, 3, #v[DRM_FORMAT_R8, DRM_FORMAT_R8, DRM_FORMAT_R8, 0]⟩

def vulkanDrmMultiplaneMap (build : Build) : List MultiplaneFormat :=
  [semiPlanar (fourcc 'N' 'V' '1' '2') DRM_FORMAT_R8 DRM_FORMAT_GR88,
    semiPlanar (fourcc 'N' 'V' '1' '6') DRM_FORMAT_R8 DRM_FORMAT_GR88,
    semiPlanar (fourcc 'N' 'V' '2' '4') DRM_FORMAT_R8 DRM_FORMAT_GR88,
    semiPlanar (fourcc 'P' '0' '1' '0') DRM_FORMAT_R16 DRM_FORMAT_GR1616] ++
  (if build.p012 then [semiPlanar (fourcc 'P' '0' '1' '2') DRM_FORMAT_R16 DRM_FORMAT_GR1616]
    else []) ++
  (if build.p016 then [semiPlanar (fourcc 'P' '0' '1' '6') DRM_FORMAT_R16 DRM_FORMAT_GR1616]
    else []) ++
  [planar (fourcc 'Y' 'U' '1' '2'), planar (fourcc 'Y' 'U' '1' '6'), planar (fourcc 'Y' 'U' '2' '4')]

def lookup (build : Build) (layer : LayerDescriptor) : Option MultiplaneFormat :=
  (vulkanDrmMultiplaneMap build).find? fun entry =>
    entry.drm_fourcc = layer.format ∧ entry.nb_planes = layer.nb_planes

/-! ## Expanding -/

/-- What `vulkan_drm_expand_multiplane` returns: 0, a negative error, or 1 with the descriptor. -/
inductive Expansion : Type
  | untouched
  | einval
  | rewritten (out : FrameDescriptor)

/-- The layers of `out` with the number of those that have been written. -/
structure Written : Type where
  layers : Vector LayerDescriptor AV_DRM_MAX_PLANES
  nb_layers : Nat

/-- A write to the next layer of `out`, which depends on what that held. -/
def Written.push (w : Written) (fill : LayerDescriptor → LayerDescriptor) : Option Written :=
  if h : w.nb_layers < AV_DRM_MAX_PLANES then
    some ⟨w.layers.set w.nb_layers (fill w.layers[w.nb_layers]), w.nb_layers + 1⟩
  else none

def Written.list (w : Written) : List LayerDescriptor := w.layers.toList.take w.nb_layers

/-- How many planes a layer has, and the first one. -/
def LayerDescriptor.single (layer : LayerDescriptor) : Nat × PlaneDescriptor :=
  (layer.nb_planes, layer.planes[0])

/-- The planes of a layer as single-plane layers have them. -/
def LayerDescriptor.singles (layer : LayerDescriptor) : List (Nat × PlaneDescriptor) :=
  layer.used.map fun plane => (1, plane)

def Linear (desc : FrameDescriptor) (plane : PlaneDescriptor) : Prop :=
  desc.objects[plane.object_index]?.map ObjectDescriptor.format_modifier = some DRM_FORMAT_MOD_LINEAR

/-- A layer of one plane, or of a format of the table with linear planes. -/
def Splits (build : Build) (desc : FrameDescriptor) (layer : LayerDescriptor) : Prop :=
  layer.nb_planes ≠ 1 →
    (∃ entry ∈ vulkanDrmMultiplaneMap build,
      entry.drm_fourcc = layer.format ∧ entry.nb_planes = layer.nb_planes) ∧
    ∀ plane ∈ layer.used, Linear desc plane

/-- No access outside an array, and layers like this where the loop goes on. -/
def Ends (P : Written → Prop) (r : Option (Except Expansion Written)) : Prop :=
  r = some (.error .untouched) ∨ r = some (.error .einval) ∨
    ∃ w, r = some (.ok w) ∧ w.nb_layers ≤ AV_DRM_MAX_PLANES ∧ P w

/-- A rewritten descriptor: when there is one, and what is in it. -/
structure Expanded (build : Build) (desc out : FrameDescriptor) : Prop where
  splits : ∀ layer ∈ desc.used, Splits build desc layer
  singles : out.used.map LayerDescriptor.single = desc.used.flatMap LayerDescriptor.singles
  count : out.nb_layers ≤ AV_DRM_MAX_PLANES
  nb_objects : out.nb_objects = desc.nb_objects
  objects : out.objects = desc.objects

/-- Every layer of a rewritten descriptor has one plane, which is a plane of the descriptor. -/
theorem Expanded.one {build : Build} {desc out : FrameDescriptor} (expanded : Expanded build desc out)
    {layer : LayerDescriptor} (member : layer ∈ out.used) :
    layer.nb_planes = 1 ∧ ∃ source ∈ desc.used, layer.single.2 ∈ source.used := by
  have present : layer.single ∈ desc.used.flatMap LayerDescriptor.singles := by
    rw [← expanded.singles]
    exact List.mem_map_of_mem member
  obtain ⟨source, used, held⟩ := List.mem_flatMap.mp present
  obtain ⟨plane, planes, same⟩ := List.mem_map.mp held
  refine ⟨congrArg Prod.fst same.symm, source, used, ?_⟩
  rw [← same]
  exact planes

/-! ## When a descriptor is rewritten -/

/-- The planes of a descriptor in their order, each with the layer that it is in. -/
def FrameDescriptor.planes (desc : FrameDescriptor) : List (LayerDescriptor × PlaneDescriptor) :=
  desc.used.flatMap fun layer => layer.used.map fun plane => (layer, plane)

/-- A plane that may have a layer of its own: it has one already, or the table knows the format of
its layer and the object that holds it is linear. -/
def Separable (build : Build) (desc : FrameDescriptor) (p : LayerDescriptor × PlaneDescriptor) :
    Prop :=
  p.1.nb_planes = 1 ∨ (lookup build p.1).isSome = true ∧ Linear desc p.2

instance (desc : FrameDescriptor) (plane : PlaneDescriptor) : Decidable (Linear desc plane) :=
  inferInstanceAs (Decidable (_ = _))

instance (build : Build) (desc : FrameDescriptor) (p : LayerDescriptor × PlaneDescriptor) :
    Decidable (Separable build desc p) :=
  inferInstanceAs (Decidable (_ ∨ _))

/-- For each plane, whether it may have a layer of its own. -/
def FrameDescriptor.separable (build : Build) (desc : FrameDescriptor) : List Bool :=
  desc.planes.map fun p => decide (Separable build desc p)

/-- Some layer has more than one plane, so that there is something to rewrite. -/
def FrameDescriptor.Multi (desc : FrameDescriptor) : Prop := ∃ layer ∈ desc.used, 1 < layer.nb_planes

/-- The planes that may be separated are more than there is room for, counted up to the first one
that may not. -/
def Refused (build : Build) (desc : FrameDescriptor) : Prop :=
  desc.Multi ∧ AV_DRM_MAX_PLANES < ((desc.separable build).takeWhile id).length

/-- How a loop over planes ends that starts with so many layers written. The order of its checks
does not matter: it stops at the first plane that may not be separated or has no room. -/
def Follows (n : Nat) (separable : List Bool) (r : Option (Except Expansion Written)) : Prop :=
  if AV_DRM_MAX_PLANES < n + (separable.takeWhile id).length then r = some (.error .einval)
  else if separable.all id then
    ∃ w, r = some (.ok w) ∧ w.nb_layers = n + separable.length
  else r = some (.error .untouched)

end Vulkan
