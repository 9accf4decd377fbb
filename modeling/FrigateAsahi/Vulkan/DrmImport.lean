import FrigateAsahi.Vulkan.DrmDescriptor

/-!
# Where an imported plane is read from

`vulkan_map_from_drm_frame_desc` gives the position of a plane either in the explicit layout of its
image or as the memory offset at which the image is bound. Most drivers add the two up, and
Honeykrisp takes the memory offset alone. The formats that have an image format and what the driver
requires of the memory of an image are parameters.
-/

namespace Vulkan

/-! ## The importer -/

section Layer

variable {driver : DriverID} {requirements : LayerDescriptor → MemoryRequirements}
  {layer : LayerDescriptor} {image : Image}

end Layer

/-! ## All layers -/

section Descriptor

variable {build : Build} {driver : DriverID} {supported : UInt32 → Bool}
  {requirements : LayerDescriptor → MemoryRequirements} {desc : FrameDescriptor}

end Descriptor

section Import

variable {build : Build} {driver : DriverID} {desc : FrameDescriptor}

end Import

/-! ## A frame of the decoder -/

end Vulkan
