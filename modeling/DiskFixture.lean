import DiskFixture.Catalog
import DiskFixture.Command
import DiskFixture.Decimal.Double
import DiskFixture.Decimal.Layout
import DiskFixture.Decimal.Places
import DiskFixture.Decimal.RoundDiv
import DiskFixture.Decimal.Shortest
import DiskFixture.Digest.Request
import DiskFixture.Digest.Sha256
import DiskFixture.Digest.Stream
import DiskFixture.Disk.Build
import DiskFixture.Disk.Plan
import DiskFixture.Disk.Release
import DiskFixture.Fault
import DiskFixture.Files.Change
import DiskFixture.Files.Path
import DiskFixture.Files.Refusal
import DiskFixture.Files.Tree
import DiskFixture.Files.Walk
import DiskFixture.Filesystem
import DiskFixture.Fixture
import DiskFixture.Log.Logger
import DiskFixture.Log.Operation
import DiskFixture.Log.Record
import DiskFixture.Log.Sink
import DiskFixture.Misuse
import DiskFixture.Mount
import DiskFixture.Partition.Identifier
import DiskFixture.Partition.Layout
import DiskFixture.Partition.Lookup
import DiskFixture.Partition.Spec
import DiskFixture.PartitionFile
import DiskFixture.Proofs.Disk.BuildPlan
import DiskFixture.Proofs.Disk.Closing
import DiskFixture.Proofs.Disk.Course
import DiskFixture.Proofs.Disk.Leftover
import DiskFixture.Proofs.Disk.Lifetime
import DiskFixture.Proofs.Disk.Removal
import DiskFixture.Proofs.Disk.Rollback
import DiskFixture.Proofs.Disk.Trace
import DiskFixture.Proofs.Ending
import DiskFixture.Proofs.Files.Deletion
import DiskFixture.Proofs.Files.Stride
import DiskFixture.Proofs.Log.Operation
import DiskFixture.Proofs.Scene
import DiskFixture.Rehearsal.Body
import DiskFixture.Rehearsal.Emission
import DiskFixture.Rehearsal.LogFile
import DiskFixture.Rehearsal.Raise
import DiskFixture.Rehearsal.Script
import DiskFixture.Rehearsal.Session
import DiskFixture.Settings
import DiskFixture.Signature
import DiskFixture.Template.Ancestry
import DiskFixture.Template.Class
import DiskFixture.Template.Class.Parts
import DiskFixture.Template.Class.Values
import DiskFixture.Template.Fault
import DiskFixture.Template.Fill
import DiskFixture.Template.Format
import DiskFixture.Template.FormatSpec
import DiskFixture.Template.Found
import DiskFixture.Template.Moment
import DiskFixture.Template.Padding
import DiskFixture.Template.Piece
import DiskFixture.Template.Selector
import DiskFixture.Template.Slot
import DiskFixture.Text.Blank
import DiskFixture.Text.Case
import DiskFixture.Text.CaseTable
import DiskFixture.Text.Digit
import DiskFixture.Text.Integer
import DiskFixture.Text.Pieces
import DiskFixture.Text.Printable
import DiskFixture.Text.Quoted
import DiskFixture.Text.Search
import DiskFixture.Text.Utf8
import DiskFixture.Value
import DiskFixture.Value.Integer
import DiskFixture.Value.Items
import DiskFixture.Value.Json
import DiskFixture.Value.JsonText
import DiskFixture.Value.Path
import DiskFixture.Value.Same
import DiskFixture.Value.Text
import DiskFixture.Verify
import DiskFixture.World
import DiskFixture.Proofs.Disk.Steps
import DiskFixture.Proofs.Disk.RollbackNotes
import DiskFixture.Proofs.Disk.Blame
import DiskFixture.Proofs.Disk.Occupied
import DiskFixture.Proofs.Mount
import DiskFixture.Proofs.PartitionFile.Filling
import DiskFixture.Proofs.PartitionFile.Trace
import DiskFixture.Proofs.Digest.Reading
import DiskFixture.Proofs.Digest.Hex
import DiskFixture.Proofs.Text.Utf8
import DiskFixture.Proofs.Value.Json
import DiskFixture.Proofs.Settings.Load
import DiskFixture.Proofs.Settings.Integer
import DiskFixture.Proofs.Verify
import DiskFixture.Proofs.Verify.Buffer
import DiskFixture.Proofs.Mount.Release
import DiskFixture.Proofs.Text.Strip
import DiskFixture.Proofs.Disk.Returned
import DiskFixture.Proofs.Disk.Records
import DiskFixture.Proofs.Disk.Partitions
import DiskFixture.Proofs.PartitionFile.Failure
import DiskFixture.Proofs.Fixture.Teardown
import DiskFixture.Proofs.Text.Case
import DiskFixture.Proofs.Log.Transparency
import DiskFixture.Proofs.Abreast
import DiskFixture.Proofs.Disk.Settling
import DiskFixture.Proofs.Value.Fields
import DiskFixture.Proofs.Value.Members
import DiskFixture.Proofs.Settings.History
import DiskFixture.Proofs.Log.Emission
import DiskFixture.Proofs.Log.Sinks
import DiskFixture.Proofs.Files.Making
import DiskFixture.Proofs.Verify.Rounds
import DiskFixture.Proofs.Text.Fields
import DiskFixture.Proofs.Text.Search
import DiskFixture.Proofs.Text.Hexadecimal
import DiskFixture.Proofs.Partition.Rendering
import DiskFixture.Proofs.Partition.Line
import DiskFixture.Proofs.Partition.Layout
import DiskFixture.Proofs.Disk.Extents
import DiskFixture.Proofs.Disk.Nodes
import DiskFixture.Proofs.Text.Numeral
import DiskFixture.Proofs.Partition.Acceptance
import DiskFixture.Proofs.Log.Console
import DiskFixture.Proofs.Log.Account
import DiskFixture.Proofs.Files.Joining
import DiskFixture.Proofs.Files.Writing
import DiskFixture.Proofs.Fixture.Images
