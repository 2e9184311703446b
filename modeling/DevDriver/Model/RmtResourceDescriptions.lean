import DevDriver.Model.RmtTokens

/-!
# The descriptions of RMT resources

The constructors of rmtResourceDescriptions.h. Each works on a byte array of its own, which it does
not initialize, and only calls `SetBits`. `RmtResource` is a call of a constructor.
-/

namespace DevDriver.Model

/-! ## Enumerations

The values of each are numbered from 0 on. -/

inductive RmtImageType where
  | type1D
  | type2D
  | type3D

inductive RmtImageTilingType where
  | linear
  | optimal
  | standardSwizzle

inductive RmtImageTilingOptMode where
  | balanced
  | optForSpace
  | optForSpeed

inductive RmtImageMetadataMode where
  | default
  | optForTexPrefetch
  | disabled

inductive RmtDescriptorType where
  | csvSrvUav
  | sampler
  | rtv
  | dsv
  | combinedImageSampler
  | sampledImage
  | storageImage
  | uniformTexelBuffer
  | storageTexelBuffer
  | uniformBuffer
  | storageBuffer
  | uniformBufferDynamic
  | storageBufferDynamic
  | inputAttachment
  | inlineUniformBlock
  | accelerationStructure

inductive RmtQueryHeapType where
  | occlusion
  | pipelineStats
  | streamoutStats
  | videoDecodeStats

inductive RmtEngineType where
  | universal
  | compute
  | exclusiveCompute
  | dma
  | timer
  | vceEncode
  | uvdDecode
  | uvdEncode
  | vcnDecode
  | vcnEncode
  | hp3D

inductive RmtVideoDecoderType where
  | h264
  | vc1
  | mpeg2Idct
  | mpeg2Vld
  | mpeg4
  | wmv9
  | mjpeg
  | hvec
  | vp9
  | hevc10Bit
  | vp910Bit
  | av1
  | av112Bit

inductive RmtVideoEncoderType where
  | h264
  | h265

inductive RmtMiscInternalType where
  | occlusionQueryResetData
  | cpdmaPatch
  | occlusionQueryResultPair
  | shaderMemory
  | shaderRing
  | srdTable
  | debugStallMemory
  | frameCountMemory
  | pipelinePerfData
  | pageFaultSrd
  | dummyChunk
  | delagDevice
  | tileGridMemory
  | fmaskMemory
  | videoDecoderHeap

/-! ## The constructors -/

/-- The loop of `Log2`.  The value is left at 0 at the latest, where a bit of the number has reached
the highest place.
rmtResourceDescriptions.h:18-27 -/
def log2Loop : ℕ → BitVec 64 → ℕ
  | 0, _ => 0
  | log2Val + 1, x =>
    if x ≠ 0 then
      if x &&& 0x8000000000000000 ≠ 0 then log2Val + 1 else log2Loop log2Val (x <<< 1)
    else log2Val + 1

/-- `Log2`.
rmtResourceDescriptions.h:14-29 -/
def rmtLog2 (x : BitVec 64) : BitVec 64 := BitVec.ofNat 64 (log2Loop 63 x)

structure RmtImageDescCreateInfo where
  createFlags : BitVec 32
  usageFlags : BitVec 16
  imageType : RmtImageType
  dimensionX : BitVec 16
  dimensionY : BitVec 16
  dimensionZ : BitVec 16
  format : BitVec 32
  mips : BitVec 8
  slices : BitVec 16
  samples : BitVec 8
  fragments : BitVec 8
  tilingType : RmtImageTilingType
  tilingOptMode : RmtImageTilingOptMode
  metadataMode : RmtImageMetadataMode
  maxBaseAlignment : BitVec 64
  isPresentable : Bool
  imageSize : BitVec 32
  metadataOffset : BitVec 32
  metadataSize : BitVec 32
  metadataHeaderOffset : BitVec 32
  metadataHeaderSize : BitVec 32
  imageAlignment : BitVec 64
  metadataAlignment : BitVec 64
  metadataHeaderAlignment : BitVec 64
  isFullscreen : Bool

structure RmtPipelineStages where
  psStage : Bool
  hsStage : Bool
  dsStage : Bool
  vsStage : Bool
  gsStage : Bool
  csStage : Bool
  tsStage : Bool
  msStage : Bool

/-- The resources that a token can describe. -/
inductive RmtResource where
  | image (createInfo : RmtImageDescCreateInfo)
  | buffer (createFlags : BitVec 8) (usageFlags : BitVec 16) (size : BitVec 64)
  | gpuEvent (isGpuOnly : Bool)
  | borderColorPalette (numEntries : BitVec 8)
  | perfExperiment (spmSize sqttSize counterSize : BitVec 32)
  | queryHeap (type : RmtQueryHeapType) (enableCpuAccess : Bool)
  | videoDecoder (engineType : RmtEngineType) (decoderType : RmtVideoDecoderType)
      (width height : BitVec 32)
  | videoEncoder (engineType : RmtEngineType) (encoderType : RmtVideoEncoderType)
      (width height : BitVec 16) (format : BitVec 32)
  | heap (flags : BitVec 8) (size alignment : BitVec 64) (segmentIndex : BitVec 8)
  | pipeline (flags : BitVec 8) (hashUpper hashLower : BitVec 64) (stages : RmtPipelineStages)
      (isNgg : Bool)
  | workgraph (flags : BitVec 8) (hashUpper hashLower : BitVec 64)
  | descriptorHeap (type : RmtDescriptorType) (isShaderVisible : Bool) (gpuMask : BitVec 8)
      (numDescriptors : BitVec 16)
  | poolSize (maxSets : BitVec 16) (poolSizeCount : BitVec 8)
  | poolSizeDesc (type : RmtDescriptorType) (numDescriptors : BitVec 16)
  | cmdAllocator (flags : BitVec 8)
      (cmdDataPreferredHeap : RmtHeapType) (cmdDataAllocSize cmdDataSuballocSize : BitVec 64)
      (embeddedDataPreferredHeap : RmtHeapType)
      (embeddedDataAllocSize embeddedDataSuballocSize : BitVec 64)
      (gpuScratchMemPreferredHeap : RmtHeapType)
      (gpuScratchMemAllocSize gpuScratchMemSuballocSize : BitVec 64)
  | miscInternal (type : RmtMiscInternalType)

namespace RmtResource

/-- The sizes of the byte arrays.
rmtResourceDescriptions.h:594, 695, 719, 737, 755, 779, 803, 834, 869, 899, 963, 985, 1020,
1039, 1060, 1121 -/
def bytesSize : RmtResource → ℕ
  | .image _ => 312 / 8
  | .buffer .. => 88 / 8
  | .gpuEvent _ => 8 / 8
  | .borderColorPalette _ => 8 / 8
  | .perfExperiment .. => 96 / 8
  | .queryHeap .. => 8 / 8
  | .videoDecoder .. => 32 / 8
  | .videoEncoder .. => 48 / 8
  | .heap .. => 80 / 8
  | .pipeline .. => 152 / 8
  | .workgraph .. => 136 / 8
  | .descriptorHeap .. => 32 / 8
  | .poolSize .. => 24 / 8
  | .poolSizeDesc .. => 32 / 8
  | .cmdAllocator .. => 352 / 8
  | .miscInternal _ => 8 / 8

/-- The calls of `SetBits` of each constructor, in their order.
rmtResourceDescriptions.h:599-1134 -/
def writes : RmtResource → List RmtWrite
  | .image createInfo =>
    [⟨createInfo.createFlags.setWidth 64, 19, 0⟩,
      ⟨createInfo.usageFlags.setWidth 64, 34, 20⟩,
      ⟨.ofNat 64 createInfo.imageType.ctorIdx, 36, 35⟩,
      ⟨createInfo.dimensionX.setWidth 64 - 1, 50, 37⟩,
      ⟨createInfo.dimensionY.setWidth 64 - 1, 64, 51⟩,
      ⟨createInfo.dimensionZ.setWidth 64 - 1, 78, 65⟩,
      ⟨createInfo.format.setWidth 64, 98, 79⟩,
      ⟨createInfo.mips.setWidth 64, 102, 99⟩,
      ⟨createInfo.slices.setWidth 64 - 1, 113, 103⟩,
      ⟨rmtLog2 (createInfo.samples.setWidth 64), 116, 114⟩,
      ⟨rmtLog2 (createInfo.fragments.setWidth 64), 118, 117⟩,
      ⟨.ofNat 64 createInfo.tilingType.ctorIdx, 120, 119⟩,
      ⟨.ofNat 64 createInfo.tilingOptMode.ctorIdx, 122, 121⟩,
      ⟨.ofNat 64 createInfo.metadataMode.ctorIdx, 124, 123⟩,
      ⟨if createInfo.maxBaseAlignment = 0 then 0 else rmtLog2 createInfo.maxBaseAlignment,
        129, 125⟩,
      ⟨boolVal createInfo.isPresentable, 130, 130⟩,
      ⟨createInfo.imageSize.setWidth 64, 162, 131⟩,
      ⟨createInfo.metadataOffset.setWidth 64, 194, 163⟩,
      ⟨createInfo.metadataSize.setWidth 64, 226, 195⟩,
      ⟨createInfo.metadataHeaderOffset.setWidth 64, 258, 227⟩,
      ⟨createInfo.metadataHeaderSize.setWidth 64, 290, 259⟩,
      ⟨rmtLog2 createInfo.imageAlignment, 295, 291⟩,
      ⟨rmtLog2 createInfo.metadataAlignment, 300, 296⟩,
      ⟨rmtLog2 createInfo.metadataHeaderAlignment, 305, 301⟩,
      ⟨boolVal createInfo.isFullscreen, 306, 306⟩,
      ⟨0, 311, 307⟩]
  | .buffer createFlags usageFlags size =>
    [⟨createFlags.setWidth 64, 7, 0⟩, ⟨usageFlags.setWidth 64, 23, 8⟩, ⟨size, 87, 24⟩]
  | .gpuEvent isGpuOnly => [⟨boolVal isGpuOnly, 7, 0⟩]
  | .borderColorPalette numEntries => [⟨numEntries.setWidth 64, 7, 0⟩]
  | .perfExperiment spmSize sqttSize counterSize =>
    [⟨spmSize.setWidth 64, 31, 0⟩, ⟨sqttSize.setWidth 64, 63, 32⟩,
      ⟨counterSize.setWidth 64, 95, 64⟩]
  | .queryHeap type enableCpuAccess =>
    [⟨.ofNat 64 type.ctorIdx, 1, 0⟩, ⟨boolVal enableCpuAccess, 2, 2⟩, ⟨0, 7, 3⟩]
  | .videoDecoder engineType decoderType width height =>
    [⟨.ofNat 64 engineType.ctorIdx, 3, 0⟩, ⟨.ofNat 64 decoderType.ctorIdx, 7, 4⟩,
      ⟨(width - 1).setWidth 64, 19, 8⟩, ⟨(height - 1).setWidth 64, 31, 20⟩]
  | .videoEncoder engineType encoderType width height format =>
    [⟨.ofNat 64 engineType.ctorIdx, 3, 0⟩, ⟨.ofNat 64 encoderType.ctorIdx, 4, 4⟩,
      ⟨width.setWidth 64 - 1, 16, 5⟩, ⟨height.setWidth 64 - 1, 28, 17⟩,
      ⟨format.setWidth 64, 47, 29⟩]
  | .heap flags size alignment segmentIndex =>
    [⟨flags.setWidth 64, 4, 0⟩, ⟨size, 68, 5⟩, ⟨rmtLog2 alignment, 73, 69⟩,
      ⟨segmentIndex.setWidth 64, 77, 74⟩, ⟨0, 79, 78⟩]
  | .pipeline flags hashUpper hashLower stages isNgg =>
    [⟨flags.setWidth 64, 7, 0⟩, ⟨hashUpper, 71, 8⟩, ⟨hashLower, 135, 72⟩,
      ⟨boolVal stages.psStage, 136, 136⟩, ⟨boolVal stages.hsStage, 137, 137⟩,
      ⟨boolVal stages.dsStage, 138, 138⟩, ⟨boolVal stages.vsStage, 139, 139⟩,
      ⟨boolVal stages.gsStage, 140, 140⟩, ⟨boolVal stages.csStage, 141, 141⟩,
      ⟨boolVal stages.tsStage, 142, 142⟩, ⟨boolVal stages.msStage, 143, 143⟩,
      ⟨boolVal isNgg, 144, 144⟩, ⟨0, 151, 145⟩]
  | .workgraph flags hashUpper hashLower =>
    [⟨flags.setWidth 64, 7, 0⟩, ⟨hashUpper, 71, 8⟩, ⟨hashLower, 135, 72⟩]
  | .descriptorHeap type isShaderVisible gpuMask numDescriptors =>
    [⟨.ofNat 64 type.ctorIdx, 3, 0⟩, ⟨boolVal isShaderVisible, 4, 4⟩,
      ⟨gpuMask.setWidth 64, 12, 5⟩, ⟨numDescriptors.setWidth 64, 28, 13⟩, ⟨0, 31, 29⟩]
  | .poolSize maxSets poolSizeCount =>
    [⟨maxSets.setWidth 64, 15, 0⟩, ⟨poolSizeCount.setWidth 64, 23, 16⟩]
  | .poolSizeDesc type numDescriptors =>
    [⟨.ofNat 64 type.ctorIdx, 15, 0⟩, ⟨numDescriptors.setWidth 64, 31, 16⟩]
  | .cmdAllocator flags cmdDataPreferredHeap cmdDataAllocSize cmdDataSuballocSize
      embeddedDataPreferredHeap embeddedDataAllocSize embeddedDataSuballocSize
      gpuScratchMemPreferredHeap gpuScratchMemAllocSize gpuScratchMemSuballocSize =>
    [⟨flags.setWidth 64, 3, 0⟩, ⟨.ofNat 64 cmdDataPreferredHeap.ctorIdx, 7, 4⟩,
      ⟨cmdDataAllocSize, 63, 8⟩, ⟨cmdDataSuballocSize, 119, 64⟩,
      ⟨.ofNat 64 embeddedDataPreferredHeap.ctorIdx, 123, 120⟩,
      ⟨embeddedDataAllocSize, 179, 124⟩, ⟨embeddedDataSuballocSize, 235, 180⟩,
      ⟨.ofNat 64 gpuScratchMemPreferredHeap.ctorIdx, 239, 236⟩,
      ⟨gpuScratchMemAllocSize, 295, 240⟩, ⟨gpuScratchMemSuballocSize, 351, 296⟩]
  | .miscInternal type => [⟨.ofNat 64 type.ctorIdx, 7, 0⟩]

theorem bytesSize_lt (r : RmtResource) : r.bytesSize < 2 ^ 32 := by
  cases r <;> simp [bytesSize]

def build (memory : ℕ → BitVec 8) (r : RmtResource) : RmtTokenData :=
  (RmtTokenData.create memory r.bytesSize r.bytesSize (Nat.le_refl _) r.bytesSize_lt).writeFields
    r.writes

end RmtResource

end DevDriver.Model
