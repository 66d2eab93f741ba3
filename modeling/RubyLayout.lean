import RubyLayout.Api.Access
import RubyLayout.Api.Basic
import RubyLayout.Api.Classify
import RubyLayout.Binary64.Read
import RubyLayout.Binary64.Round
import RubyLayout.Binary64.Shortest
import RubyLayout.Binary64.Text
import RubyLayout.Cbor.Decode
import RubyLayout.Cbor.Item
import RubyLayout.Cbor.Read
import RubyLayout.Conformance.Build
import RubyLayout.Conformance.Case
import RubyLayout.Conformance.Compare
import RubyLayout.Conformance.Corpus
import RubyLayout.Conformance.Report
import RubyLayout.Conformance.Standard
import RubyLayout.Facts.Basic
import RubyLayout.Facts.Binary
import RubyLayout.Facts.Diff
import RubyLayout.Hash.Fnv
import RubyLayout.Hash.Xxh3
import RubyLayout.Heap.Basic
import RubyLayout.Heap.Build
import RubyLayout.Heap.Error
import RubyLayout.Heap.Host
import RubyLayout.Heap.Sample
import RubyLayout.Heap.Symbols
import RubyLayout.LayoutConsts
import RubyLayout.Memory
import RubyLayout.Proofs.Bits
import RubyLayout.Proofs.WordKinds
import RubyLayout.Proofs.MemoryBytes
import RubyLayout.Proofs.HeapSteps
import RubyLayout.Proofs.BuilderFrames
import RubyLayout.Proofs.Decoders
import RubyLayout.Proofs.Objects
import RubyLayout.Release
import RubyLayout.Service.Classify
import RubyLayout.Service.Corpus
import RubyLayout.Service.Doc
import RubyLayout.Service.Facts
import RubyLayout.Service.Handle
import RubyLayout.Service.Input
import RubyLayout.Service.Render
import RubyLayout.Service.Report
import RubyLayout.Service.Samples
import RubyLayout.Service.Session.Basic
import RubyLayout.Service.Session.Build
import RubyLayout.Service.Session.Call
import RubyLayout.Service.Session.Describe
import RubyLayout.Service.Session.Inspect
import RubyLayout.Service.Session.Run
import RubyLayout.Service.Versions
import RubyLayout.Text.Blank
import RubyLayout.Text.ByteSize
import RubyLayout.Text.Category
import RubyLayout.Text.Numeral
import RubyLayout.Text.Quoted
import RubyLayout.Toml.Decode
import RubyLayout.Toml.Document
import RubyLayout.Toml.Number
import RubyLayout.Toml.Token
import RubyLayout.Toml.Value
import RubyLayout.TypeCode
import RubyLayout.Value.Flonum
import RubyLayout.Value.Word
import RubyLayout.Version
import RubyLayout.Proofs.Strings
import RubyLayout.Proofs.StringBuild
import RubyLayout.Proofs.Arrays
import RubyLayout.Proofs.ArrayBuild
import RubyLayout.Proofs.TypeTests
import RubyLayout.Proofs.HeapFrame
import RubyLayout.Proofs.Integers
import RubyLayout.Proofs.TypedData
import RubyLayout.Proofs.Headers
import RubyLayout.Proofs.HeaderBuild
import RubyLayout.Proofs.Queries
import RubyLayout.Proofs.CheckedTier
import RubyLayout.Proofs.DebugAssertions
import RubyLayout.Proofs.SlotReads
import RubyLayout.Proofs.Confinement
import RubyLayout.Proofs.Persistence
import RubyLayout.Proofs.FixnumCodec
import RubyLayout.Proofs.ImmediateFloats
import RubyLayout.Proofs.BuildFailures
import RubyLayout.Proofs.CorpusBuild
import RubyLayout.Proofs.SymbolFrame
import RubyLayout.Proofs.SampleShapes
import RubyLayout.Proofs.CheckedComparison
import RubyLayout.Proofs.VersionLookup
import RubyLayout.Proofs.VersionParse
import RubyLayout.Proofs.SymbolCalls
import RubyLayout.Proofs.SlotPools
import RubyLayout.Proofs.CborHeads
import RubyLayout.Proofs.CborItems
import RubyLayout.Proofs.CborRecords
import RubyLayout.Proofs.FactsCodec
import RubyLayout.Proofs.CborLimits
import RubyLayout.Proofs.ReportCodec
