import ContentCoding.Amount
import ContentCoding.Brotli.BlockSplit
import ContentCoding.Brotli.BlockWriter
import ContentCoding.Brotli.CodeWriter
import ContentCoding.Brotli.Command
import ContentCoding.Brotli.Compressed
import ContentCoding.Brotli.Context
import ContentCoding.Brotli.Damage
import ContentCoding.Brotli.Dictionary
import ContentCoding.Brotli.Entropy
import ContentCoding.Brotli.Layer
import ContentCoding.Brotli.Lexicon
import ContentCoding.Brotli.MetaBlock
import ContentCoding.Brotli.PrefixCode
import ContentCoding.Brotli.Raw
import ContentCoding.Brotli.Search
import ContentCoding.Brotli.Smoothing
import ContentCoding.Brotli.Splitting
import ContentCoding.Brotli.Stream
import ContentCoding.Brotli.Transform
import ContentCoding.Brotli.Words
import ContentCoding.Builtin.Registry
import ContentCoding.Bytes
import ContentCoding.Checksum.Adler32
import ContentCoding.Checksum.Crc32
import ContentCoding.Checksum.XxHash64
import ContentCoding.Compressor
import ContentCoding.Config
import ContentCoding.Config.Json
import ContentCoding.Decimal.Shortest
import ContentCoding.Decode.Buffered
import ContentCoding.Decode.Format
import ContentCoding.Decode.Inlet
import ContentCoding.Decode.Layer
import ContentCoding.Decode.Scan
import ContentCoding.Decode.Stack
import ContentCoding.Decode.Transducer
import ContentCoding.Decompressor
import ContentCoding.Deflate.Block
import ContentCoding.Deflate.Compressed
import ContentCoding.Deflate.Layer
import ContentCoding.Deflate.Search
import ContentCoding.Deflate.Stored
import ContentCoding.Deflate.Tokens
import ContentCoding.Encode.BitField
import ContentCoding.Encode.Deferred
import ContentCoding.Encode.Engine
import ContentCoding.Encode.Layer
import ContentCoding.Encode.Outlet
import ContentCoding.Encode.Packer
import ContentCoding.Encode.Stack
import ContentCoding.Encode.Verified
import ContentCoding.Fault
import ContentCoding.Gzip.Layer
import ContentCoding.Gzip.Member
import ContentCoding.HeaderList
import ContentCoding.Huffman.Code
import ContentCoding.Huffman.Lengths
import ContentCoding.Json.Error
import ContentCoding.Json.Number
import ContentCoding.Json.Record
import ContentCoding.Json.Skip
import ContentCoding.Json.String
import ContentCoding.Lifecycle
import ContentCoding.Lzw.Code
import ContentCoding.Lzw.Decoding
import ContentCoding.Lzw.Layer
import ContentCoding.Lzw.Packing
import ContentCoding.Lzw.Unpacking
import ContentCoding.OneShot
import ContentCoding.Registry
import ContentCoding.Scripted.Endpoint
import ContentCoding.Scripted.Layers
import ContentCoding.SharedGuard
import ContentCoding.Span
import ContentCoding.Stack
import ContentCoding.Stream.Endpoint
import ContentCoding.Stream.Pull
import ContentCoding.Stream.Push
import ContentCoding.Telemetry.Counters
import ContentCoding.Telemetry.Json
import ContentCoding.Text.Blank
import ContentCoding.Text.Invisible
import ContentCoding.Text.Quoted
import ContentCoding.Text.Radix64
import ContentCoding.Zlib.Layer
import ContentCoding.Zlib.Stream
import ContentCoding.Zstd.BitStack
import ContentCoding.Zstd.Block
import ContentCoding.Zstd.Compressed
import ContentCoding.Zstd.Counts
import ContentCoding.Zstd.Damage
import ContentCoding.Zstd.Frame
import ContentCoding.Zstd.Fse
import ContentCoding.Zstd.Header
import ContentCoding.Zstd.Layer
import ContentCoding.Zstd.LiteralCode
import ContentCoding.Zstd.Literals
import ContentCoding.Zstd.PrefixStreams
import ContentCoding.Zstd.PrefixTable
import ContentCoding.Zstd.Raw
import ContentCoding.Zstd.Reserve
import ContentCoding.Zstd.Search
import ContentCoding.Zstd.Sequences
import ContentCoding.Proofs.SharedGuard
import ContentCoding.Proofs.Calls
import ContentCoding.Proofs.Frame
import ContentCoding.Proofs.ClosingWalk
import ContentCoding.Proofs.Isolation
import ContentCoding.Proofs.Transcription
import ContentCoding.Proofs.Recovery
import ContentCoding.Proofs.RoundTrip
import ContentCoding.Proofs.Buffering
import ContentCoding.Proofs.Lzw.Bits
import ContentCoding.Proofs.Lzw.Unpacking
import ContentCoding.Proofs.Lzw.Decoding
import ContentCoding.Proofs.Lzw.Packing
import ContentCoding.Proofs.Delivery
import ContentCoding.Proofs.Lzw.Codes
import ContentCoding.Proofs.Lzw.Layer
import ContentCoding.Proofs.Lzw.Output
import ContentCoding.Proofs.Lzw.Reading
import ContentCoding.Proofs.Lzw.RoundTrip
import ContentCoding.Proofs.Lzw.Truncation
import ContentCoding.Proofs.Steadfast
import ContentCoding.Proofs.OneShot
import ContentCoding.Proofs.Simulation
import ContentCoding.Proofs.Telemetry
import ContentCoding.Proofs.Rendering
import ContentCoding.Proofs.Stacking
import ContentCoding.Proofs.Flow
import ContentCoding.Proofs.Lzw.Flow
import ContentCoding.Proofs.Unstacking
import ContentCoding.Proofs.Brotli.Raw
import ContentCoding.Proofs.Ledger
import ContentCoding.Proofs.Brotli.Layer
import ContentCoding.Proofs.Finalizing
import ContentCoding.Proofs.Forwarding
import ContentCoding.Proofs.Construction
import ContentCoding.Proofs.Allowance
import ContentCoding.Proofs.Lzw.Allowance
import ContentCoding.Proofs.Lzw.Resumption
import ContentCoding.Proofs.HeaderList
import ContentCoding.Proofs.Parameters
import ContentCoding.Proofs.Responding
import ContentCoding.Proofs.Lzw.Progress
import ContentCoding.Proofs.Lzw.Rounds
import ContentCoding.Proofs.Json.Grammar
import ContentCoding.Proofs.Json.Skipping
import ContentCoding.Proofs.Json.Reading
import ContentCoding.Proofs.ConfigText
import ContentCoding.Proofs.TextOrder
import ContentCoding.Proofs.RegistryHistory
import ContentCoding.Proofs.Format
import ContentCoding.Proofs.Nesting
import ContentCoding.Proofs.Deflate.Stored
import ContentCoding.Proofs.Deflate.Units
import ContentCoding.Proofs.Gzip.Members
import ContentCoding.Proofs.WholeStream
import ContentCoding.Proofs.Deferred
import ContentCoding.Proofs.Zlib.Wrapping
import ContentCoding.Proofs.Zstd.Raw
import ContentCoding.Proofs.FailedWrites
