import Keyspace.Bytes
import Keyspace.Cache.SoftCache
import Keyspace.Cache.Statistics
import Keyspace.Collation.ComparatorCache
import Keyspace.Collation.Mode
import Keyspace.Collation.Recipe
import Keyspace.Collation.Scheme
import Keyspace.Cursor.Description
import Keyspace.Cursor.GroupCursor
import Keyspace.Cursor.ScanUsage
import Keyspace.Cursor.Source
import Keyspace.Error
import Keyspace.HKey
import Keyspace.Number.Binary
import Keyspace.Number.Decimal
import Keyspace.Number.Digits
import Keyspace.Number.Shortest
import Keyspace.Row.BufferedComparator
import Keyspace.Row.Comparator
import Keyspace.Row.Conversion
import Keyspace.Row.Row
import Keyspace.Row.Value
import Keyspace.Sample
import Keyspace.Schema.DataType
import Keyspace.Schema.Declaration
import Keyspace.Schema.Group
import Keyspace.Schema.Index
import Keyspace.Schema.Storability
import Keyspace.Schema.Table
import Keyspace.Settings.File
import Keyspace.Settings.Settings
import Keyspace.Spatial.Space
import Keyspace.Spatial.SpatialIndex
import Keyspace.Spatial.Turns
import Keyspace.Store.GroupStore
import Keyspace.Store.KeyLayout
import Keyspace.Store.Map
import Keyspace.Store.Metered
import Keyspace.Store.Querying
import Keyspace.Store.Range
import Keyspace.Store.Scan
import Keyspace.Text.Blank
import Keyspace.Text.Hexadecimal
import Keyspace.Text.Parts
import Keyspace.Text.Quoted
import Keyspace.Text.Utf8
import Keyspace.Toml.Document
import Keyspace.Toml.Literal
import Keyspace.Toml.Path
import Keyspace.Toml.Scanner
import Keyspace.Toml.Value
import Keyspace.Tuple.Element
import Keyspace.Tuple.GuardedReader
import Keyspace.Tuple.Pack
import Keyspace.Tuple.Reader
import Keyspace.Unicode.CaseFolding
import Keyspace.Unicode.CombiningClass
import Keyspace.Unicode.Decomposition
import Keyspace.Unicode.Decomposition.Greek
import Keyspace.Unicode.Decomposition.Ideographs
import Keyspace.Unicode.Decomposition.Latin
import Keyspace.Unicode.Decomposition.Scripts
import Keyspace.Unicode.Shapeless
import Keyspace.Unicode.Uppercase
import Keyspace.Uuid
import Keyspace.Words
import Keyspace.Proofs.Bytes.Order
import Keyspace.Proofs.Number.Digits
import Keyspace.Proofs.Number.Rounding
import Keyspace.Proofs.Tuple.Layouts
import Keyspace.Proofs.Tuple.Order
import Keyspace.Proofs.Tuple.RoundTrip
import Keyspace.Proofs.Tuple.ReaderSteps
import Keyspace.Proofs.Tuple.ReaderSafety
import Keyspace.Proofs.Tuple.Repacking
import Keyspace.Proofs.Cursor.Drain
import Keyspace.Proofs.Cursor.Subtree
import Keyspace.Proofs.Store.Calls
import Keyspace.Proofs.Store.RowMap
import Keyspace.Proofs.Schema.KeyLayout
import Keyspace.Proofs.HKey.NaturalOrder
import Keyspace.Proofs.Cursor.ScanOrder
import Keyspace.Proofs.Store.RowNumbers
import Keyspace.Proofs.Store.Readable
import Keyspace.Proofs.Store.SharedSessions
import Keyspace.Proofs.Store.ScanRun
import Keyspace.Proofs.Schema.Preorder
import Keyspace.Proofs.Schema.GroupTree
import Keyspace.Proofs.Schema.BuiltTree
import Keyspace.Proofs.Checks
import Keyspace.Proofs.Schema.WellFormed
import Keyspace.Proofs.Schema.Buildable
import Keyspace.Proofs.HKey.Decoding
import Keyspace.Proofs.HKey.Rereading
import Keyspace.Proofs.HKey.RowKeys
import Keyspace.Proofs.Row.DecodedRows
import Keyspace.Proofs.Cursor.Faults
import Keyspace.Proofs.Cursor.Readings
import Keyspace.Proofs.Cursor.Phases
import Keyspace.Proofs.Cursor.Lifecycle
import Keyspace.Proofs.Cursor.StepAccounts
import Keyspace.Proofs.Cursor.SharedUsage
import Keyspace.Proofs.Cache.Contents
import Keyspace.Proofs.Collation.SchemeNames
import Keyspace.Proofs.Collation.CanonicalNames
import Keyspace.Proofs.Collation.Transparency
import Keyspace.Proofs.Number.Doubles
import Keyspace.Proofs.Row.ValueOrder
import Keyspace.Proofs.Number.SameNumber
import Keyspace.Proofs.HKey.Ancestry
import Keyspace.Proofs.Cache.Recency
import Keyspace.Proofs.Schema.Storability
import Keyspace.Proofs.HKey.RoundTrip
import Keyspace.Proofs.Spatial.Passes
import Keyspace.Proofs.Spatial.Interleave
import Keyspace.Proofs.Spatial.ZValue
import Keyspace.Proofs.Spatial.Dominance
import Keyspace.Proofs.Collation.Letters
import Keyspace.Proofs.Collation.LevelOrder
import Keyspace.Proofs.Cache.LatestKeys
import Keyspace.Proofs.Collation.Retention
import Keyspace.Proofs.Collation.FirstUse
import Keyspace.Proofs.Row.RowOrder
import Keyspace.Proofs.Store.IndexKeys
import Keyspace.Proofs.Spatial.SpatialKeys
import Keyspace.Proofs.Store.IndexEntries
import Keyspace.Proofs.Store.Answers
import Keyspace.Proofs.Store.NumberRuns
import Keyspace.Proofs.Store.IndexedRows
import Keyspace.Proofs.Store.Querying
import Keyspace.Proofs.Store.StartRange
import Keyspace.Proofs.Store.RangeRoom
import Keyspace.Proofs.Collation.AfterZ
import Keyspace.Proofs.Row.DecimalPlaces
import Keyspace.Proofs.Cache.Accounting
import Keyspace.Proofs.Spatial.TurnOrder
