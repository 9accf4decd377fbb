import FrigateAsahi.Lib.Interaction
import FrigateAsahi.Lib.JsonRoundTrip
import FrigateAsahi.Lib.Python
import FrigateAsahi.ZmqOnnxClient
import FrigateAsahi.ZmqIpcDetector
import FrigateAsahi.ClientContract
import FrigateAsahi.ClientReadiness
import FrigateAsahi.Replies
import FrigateAsahi.RepSocket
import FrigateAsahi.Lockstep
import FrigateAsahi.Engines
import FrigateAsahi.Backends.NcnnContract
import FrigateAsahi.Backends.MnnContract
import FrigateAsahi.Backends.Factory
import FrigateAsahi.Backends.FallbackContract
import FrigateAsahi.Backends.Contract
import FrigateAsahi.EngineLedger
import FrigateAsahi.Service
import FrigateAsahi.ModelIdentity
import FrigateAsahi.ScalerFilter
import FrigateAsahi.ArgumentRewrite
import FrigateAsahi.ModelPaths
import FrigateAsahi.WireFormat
import FrigateAsahi.Interchange
import FrigateAsahi.Lib.Greedy
import FrigateAsahi.Lib.Utf8
import FrigateAsahi.MnnShim
import FrigateAsahi.ModelUtil
import FrigateAsahi.MultipartDecoding
import FrigateAsahi.BoxClipping
import FrigateAsahi.SingleTensorDecoding
import FrigateAsahi.OverlapSuppression
import FrigateAsahi.DetectionThreshold
import FrigateAsahi.Lib.Machine
import FrigateAsahi.Avd.H264
import FrigateAsahi.Avd.Driver
import FrigateAsahi.Avd.ReferenceSlots
import FrigateAsahi.Avd.ReferenceTable
import FrigateAsahi.Avd.BaseStream
import FrigateAsahi.Avd.DecoderSlots
import FrigateAsahi.Avd.CodedSlice
import FrigateAsahi.Vulkan.DrmDescriptor
import FrigateAsahi.Vulkan.DrmImport
import FrigateAsahi.Lib.Bits
import FrigateAsahi.NalInfo.BitReader
import FrigateAsahi.NalInfo.AnnexB
import FrigateAsahi.NalInfo.PictureCut
import FrigateAsahi.NalInfo.Recutting
import FrigateAsahi.NalInfo.SequenceParameterSet
import FrigateAsahi.NalInfo.PictureParameterSet
import FrigateAsahi.Backends.Calls
import FrigateAsahi.ModelStore
import FrigateAsahi.ConversionCache
import FrigateAsahi.InterruptedConversion
import FrigateAsahi.CacheFreshness
import FrigateAsahi.Handshake
import FrigateAsahi.InterruptedTransfer
import FrigateAsahi.ModelReadiness
import FrigateAsahi.ServerRestarts
import FrigateAsahi.SocketLedger
import FrigateAsahi.DetectionRoundTrip
import FrigateAsahi.Lib.BitFields
import FrigateAsahi.Lib.Readers
import FrigateAsahi.Avd.SliceStream
import FrigateAsahi.Avd.VideoProcessor
import FrigateAsahi.Avd.PredictionTables
import FrigateAsahi.Avd.SliceRoundTrip
import FrigateAsahi.Avd.SliceData
import FrigateAsahi.Avd.PollLimit
import FrigateAsahi.Avd.HeaderStream
import FrigateAsahi.Avd.HeaderRoundTrip
