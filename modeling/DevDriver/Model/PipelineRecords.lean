import DevDriver.Library.Buffer
import DevDriver.Model.Message

/-!
# Pipeline records

The records that the pipeline service writes into its responses, and the iterator that reads them
from the data of a request.  The writer takes all bytes.
-/

namespace DevDriver.Model

open Library

structure PipelineHash where
  qword0 : UInt64
  qword1 : UInt64
  deriving DecidableEq

structure PipelineRecordHeader where
  hash : PipelineHash
  size : UInt64
  deriving DecidableEq

/-- `pBinary` is the memory behind the pointer, or nothing for the null pointer. -/
structure PipelineRecord where
  header : PipelineRecordHeader
  pBinary : Option (List UInt8)
  deriving DecidableEq

def PipelineRecordHeader.bytes (header : PipelineRecordHeader) : List UInt8 :=
  leBytes 8 header.hash.qword0.toNat ++ leBytes 8 header.hash.qword1.toNat ++
    leBytes 8 header.size.toNat

def PipelineRecordHeader.ofBytes (bytes : List UInt8) : PipelineRecordHeader :=
  ⟨⟨.ofNat (leNat (slice bytes 0 8)), .ofNat (leNat (slice bytes 8 8))⟩,
    .ofNat (leNat (slice bytes 16 8))⟩

/-- What `AddPipeline` writes.
ddPipelineUriService.cpp:321-333 -/
def addPipeline (record : PipelineRecord) : List UInt8 :=
  record.header.bytes ++
    if record.header.size > 0 ∧ record.pBinary ≠ none then
      (record.pBinary.getD []).take record.header.size.toUInt32.toNat
    else []

/-- `ByteReader::GetBytes`: its result, the bytes and the rest of the range.
ddByteReader.cpp:25-44 -/
def byteReaderGetBytes (reader : List UInt8) (dataSize : ℕ) :
    Result × List UInt8 × List UInt8 :=
  if dataSize > 0 then
    if dataSize ≤ reader.length then (.success, reader.take dataSize, reader.drop dataSize)
    else (.error, [], reader)
  else (.invalidParameter, [], reader)

structure PipelineRecordsIterator where
  record : PipelineRecord
  reader : List UInt8
  lastResult : Result

namespace PipelineRecordsIterator

/-- ddPipelineUriService.cpp:68-99 -/
def next (it : PipelineRecordsIterator) : PipelineRecordsIterator :=
  if it.reader.length ≠ 0 then
    if it.lastResult = .success then
      let read := byteReaderGetBytes it.reader 24
      if read.1 = .success then
        let header := PipelineRecordHeader.ofBytes read.2.1
        let binary := byteReaderGetBytes read.2.2 header.size.toNat
        if binary.1 = .success then ⟨⟨header, some binary.2.1⟩, binary.2.2, .success⟩
        else ⟨it.record, binary.2.2, binary.1⟩
      else ⟨it.record, read.2.2, read.1⟩
    else it
  else if it.lastResult = .success then { it with lastResult := .endOfStream }
  else it

/-- The constructor, which reads the first record.
ddPipelineUriService.cpp:48-56 -/
def new (blob : List UInt8) : PipelineRecordsIterator :=
  next ⟨⟨⟨⟨0, 0⟩, 0⟩, none⟩, blob, .success⟩

def get (it : PipelineRecordsIterator) : Option PipelineRecord :=
  if it.lastResult = .success then some it.record else none

end PipelineRecordsIterator

end DevDriver.Model
