import ClassAtlas.Archive
import ClassAtlas.Archive.Content
import ClassAtlas.Archive.Directory
import ClassAtlas.Archive.ExtraField
import ClassAtlas.Archive.Header
import ClassAtlas.Archive.Record
import ClassAtlas.Bytes.Bits
import ClassAtlas.Bytes.ConstantPool
import ClassAtlas.Bytes.LittleEndian
import ClassAtlas.Bytes.Reader
import ClassAtlas.Checksum.Crc32
import ClassAtlas.Checksum.Crc64
import ClassAtlas.Checksum.Sha256
import ClassAtlas.Checksum.XxHash
import ClassAtlas.ClassFile.Attribute
import ClassAtlas.ClassFile.Decode
import ClassAtlas.ClassFile.Structure
import ClassAtlas.ClassName
import ClassAtlas.Cli.Arguments
import ClassAtlas.Cli.Report
import ClassAtlas.Cli.Run
import ClassAtlas.Compression.Bzip2
import ClassAtlas.Compression.CodeTree
import ClassAtlas.Compression.Deflate
import ClassAtlas.Compression.Filter
import ClassAtlas.Compression.Inflate
import ClassAtlas.Compression.Inflate64
import ClassAtlas.Compression.Lzma
import ClassAtlas.Compression.Lzma2
import ClassAtlas.Compression.PrefixCode
import ClassAtlas.Compression.RangeCoder
import ClassAtlas.Compression.Shuffle
import ClassAtlas.Compression.StateCode
import ClassAtlas.Compression.Window
import ClassAtlas.Compression.Xz
import ClassAtlas.Compression.Zstandard
import ClassAtlas.Compression.Zstandard.Literals
import ClassAtlas.Compression.Zstandard.Sequences
import ClassAtlas.Compression.Zstandard.Weights
import ClassAtlas.Decimal.Binary
import ClassAtlas.Decimal.Shortest
import ClassAtlas.Decimal.Text
import ClassAtlas.Declaration
import ClassAtlas.Descriptor
import ClassAtlas.Expr.Arena
import ClassAtlas.Expr.Build
import ClassAtlas.Expr.Leaf
import ClassAtlas.Expr.Node
import ClassAtlas.Expr.Operator
import ClassAtlas.Expr.Printing
import ClassAtlas.Expr.Shape
import ClassAtlas.Expr.Tree
import ClassAtlas.Expr.Typing
import ClassAtlas.Failure
import ClassAtlas.FileSystem
import ClassAtlas.FileTree
import ClassAtlas.JavaType
import ClassAtlas.JavaType.Array
import ClassAtlas.Json
import ClassAtlas.Language
import ClassAtlas.Location
import ClassAtlas.Location.Directory
import ClassAtlas.Location.Jar
import ClassAtlas.Location.Memory
import ClassAtlas.Location.SingleFile
import ClassAtlas.Main
import ClassAtlas.Member
import ClassAtlas.Modifier
import ClassAtlas.Module.Descriptor
import ClassAtlas.Module.File
import ClassAtlas.Module.Relations
import ClassAtlas.Path
import ClassAtlas.Place
import ClassAtlas.Position
import ClassAtlas.Proofs.Expr.Acyclic
import ClassAtlas.Proofs.Expr.Copies
import ClassAtlas.Proofs.Expr.Edits
import ClassAtlas.Proofs.Expr.Renaming
import ClassAtlas.Proofs.Expr.Substitution
import ClassAtlas.Proofs.Expr.Traversal
import ClassAtlas.Proofs.Expr.WellFormed
import ClassAtlas.Proofs.View.FirstOffer
import ClassAtlas.Proofs.View.Memo
import ClassAtlas.Proofs.View.Steps
import ClassAtlas.Quoting
import ClassAtlas.RawPath
import ClassAtlas.Settings
import ClassAtlas.Source
import ClassAtlas.Subtyping
import ClassAtlas.Text.Alphabetic
import ClassAtlas.Text.Codepage
import ClassAtlas.Text.Extender
import ClassAtlas.Text.Hidden
import ClassAtlas.Text.Identifier
import ClassAtlas.Text.Literal
import ClassAtlas.Text.ModifiedUtf8
import ClassAtlas.Text.Numeric
import ClassAtlas.Text.Ranges
import ClassAtlas.Text.Segments
import ClassAtlas.Text.Utf8
import ClassAtlas.View
import ClassAtlas.Proofs.Subtyping.Arrays
import ClassAtlas.Proofs.Subtyping.Preorder
import ClassAtlas.Proofs.Subtyping.WorkList
import ClassAtlas.Proofs.View.Assignability
import ClassAtlas.Proofs.View.Identity
import ClassAtlas.Proofs.View.PointLookup
import ClassAtlas.Proofs.Attempts
import ClassAtlas.Proofs.Bytes.Reading
import ClassAtlas.Proofs.Text.Utf8
import ClassAtlas.Proofs.Bytes.ConstantPool
import ClassAtlas.Proofs.Module.File
import ClassAtlas.Proofs.View.Retry
import ClassAtlas.Proofs.Files.Tree
import ClassAtlas.Proofs.Files.Paths
import ClassAtlas.Proofs.Location.Alike
import ClassAtlas.Proofs.Location.Agreement
import ClassAtlas.Proofs.Expr.InPlace
import ClassAtlas.Proofs.Expr.SlotMaps
import ClassAtlas.Proofs.Names.Grammar
import ClassAtlas.Proofs.Names.Spellings
import ClassAtlas.Proofs.Names.Descriptors
import ClassAtlas.Proofs.Cli.Classpath
import ClassAtlas.Proofs.Bytes.Cuts
import ClassAtlas.Proofs.Expr.Equivalence
import ClassAtlas.Proofs.Module.Cuts
import ClassAtlas.Proofs.Location.Listing
import ClassAtlas.Proofs.Module.Relations
import ClassAtlas.Proofs.ClassFile.Stored
import ClassAtlas.Proofs.ClassFile.Assembly
import ClassAtlas.Proofs.ClassFile.RoundTrip
import ClassAtlas.Proofs.ClassFile.Options
import ClassAtlas.Proofs.Files.Order
import ClassAtlas.Proofs.Location.Enumeration
import ClassAtlas.Proofs.Names.Quoting
import ClassAtlas.Proofs.Expr.Rendering
import ClassAtlas.Proofs.Expr.Construction
import ClassAtlas.Proofs.Expr.Arithmetic
import ClassAtlas.Proofs.Cli.Libraries
import ClassAtlas.Proofs.Location.Containment
import ClassAtlas.Proofs.JavaType.Dimensions
import ClassAtlas.Proofs.Location.Memory
import ClassAtlas.Proofs.Expr.Ways
import ClassAtlas.Proofs.Files.Writing
import ClassAtlas.Proofs.Json
import ClassAtlas.Proofs.Cli.Reports
import ClassAtlas.Proofs.View.Depth
