import DdlDump.CommandLine.Arguments
import DdlDump.CommandLine.Run
import DdlDump.CommandLine.Transcript
import DdlDump.Ddl.Replay
import DdlDump.Ddl.Scan
import DdlDump.Ddl.Statement
import DdlDump.Dump.Files
import DdlDump.Dump.Recorded
import DdlDump.Dump.Session
import DdlDump.Files.Path
import DdlDump.Files.Tree
import DdlDump.Flags
import DdlDump.Main
import DdlDump.Partition
import DdlDump.Proofs.Ddl.Clause
import DdlDump.Proofs.Ddl.ClauseBlock
import DdlDump.Proofs.Ddl.ClauseLaws
import DdlDump.Proofs.Ddl.ClauseLines
import DdlDump.Proofs.Ddl.Column
import DdlDump.Proofs.Ddl.ColumnLine
import DdlDump.Proofs.Ddl.CopiedStatement
import DdlDump.Proofs.Ddl.CreatedObjects
import DdlDump.Proofs.Ddl.Cursor
import DdlDump.Proofs.Ddl.Header
import DdlDump.Proofs.Ddl.HeaderGrammar
import DdlDump.Proofs.Ddl.HeaderLines
import DdlDump.Proofs.Ddl.JointStriking
import DdlDump.Proofs.Ddl.Line
import DdlDump.Proofs.Ddl.PreparedHeaders
import DdlDump.Proofs.Ddl.QuotedNames
import DdlDump.Proofs.Ddl.Replay
import DdlDump.Proofs.Ddl.Scan
import DdlDump.Proofs.Ddl.Semicolons
import DdlDump.Proofs.Ddl.Separation
import DdlDump.Proofs.Ddl.Stable
import DdlDump.Proofs.Ddl.StatementHeader
import DdlDump.Proofs.Ddl.StatementLines
import DdlDump.Proofs.Ddl.StatementTexts
import DdlDump.Proofs.Ddl.TableStatement
import DdlDump.Proofs.Ddl.TerminatedStatement
import DdlDump.Proofs.Dump.Answers
import DdlDump.Proofs.Dump.FailedLookUps
import DdlDump.Proofs.Dump.Files
import DdlDump.Proofs.Dump.ParallelFetch
import DdlDump.Proofs.Dump.PartitionGroups
import DdlDump.Proofs.Dump.PartitionListing
import DdlDump.Proofs.Dump.Recorded
import DdlDump.Proofs.Dump.Schedule
import DdlDump.Proofs.Dump.SideBySide
import DdlDump.Proofs.Dump.StatementCount
import DdlDump.Proofs.Dump.WrittenFiles
import DdlDump.Proofs.Files.Place
import DdlDump.Proofs.Files.Tree
import DdlDump.Proofs.Listing
import DdlDump.Proofs.Lists
import DdlDump.Proofs.Partition.AddedPartitions
import DdlDump.Proofs.Partition.CommentedTable
import DdlDump.Proofs.Partition.ListedPairs
import DdlDump.Proofs.Partition.Parts
import DdlDump.Proofs.Partition.Row
import DdlDump.Proofs.Settings
import DdlDump.Proofs.Text.Front
import DdlDump.Proofs.Text.Lines
import DdlDump.Proofs.Text.Trim
import DdlDump.Proofs.Text.Word
import DdlDump.Proofs.View.Arrangement
import DdlDump.Proofs.View.Depth
import DdlDump.Proofs.View.FromList
import DdlDump.Proofs.View.Levels
import DdlDump.Proofs.View.Mentions
import DdlDump.Proofs.View.Reference
import DdlDump.Proofs.View.Split
import DdlDump.Proofs.Warehouse.Connection
import DdlDump.Settings
import DdlDump.Text.Basic
import DdlDump.Text.Blank
import DdlDump.Text.LowerCase
import DdlDump.Text.Numeral
import DdlDump.Text.Utf8
import DdlDump.Text.Word
import DdlDump.View.Order
import DdlDump.View.Reference
import DdlDump.Warehouse.Catalog
import DdlDump.Warehouse.Connection
import DdlDump.Warehouse.Tool
