import SparseFixture.Bytes
import SparseFixture.Utf8
import SparseFixture.Character.Ranges
import SparseFixture.Character.Unshown
import SparseFixture.Character.Extending
import SparseFixture.Character.Ignorable
import SparseFixture.Quoted
import SparseFixture.ErrorKind
import SparseFixture.Errno
import SparseFixture.Cause
import SparseFixture.Failure
import SparseFixture.Mode
import SparseFixture.Content
import SparseFixture.OpenFile
import SparseFixture.FileSystem.Basic
import SparseFixture.FileSystem.Resolve
import SparseFixture.FileSystem.Calls
import SparseFixture.FileSystem.Setup
import SparseFixture.FileSystem.Layout
import SparseFixture.FileSystem.Listing
import SparseFixture.Fixture.Basic
import SparseFixture.Log.Level
import SparseFixture.Log.Filter
import SparseFixture.Fixture.Generate
import SparseFixture.Fixture.Run
import SparseFixture.CommandLine
import SparseFixture.Proofs.Utf8
import SparseFixture.Proofs.Quoted
import SparseFixture.Proofs.Failure
import SparseFixture.Proofs.OpenFile
import SparseFixture.Proofs.FileSystem.Names
import SparseFixture.Proofs.FileSystem.Changes
import SparseFixture.Proofs.FileSystem.Opening
import SparseFixture.Proofs.FileSystem.Detours
import SparseFixture.Proofs.FileSystem.Trees
import SparseFixture.Proofs.Fixture.Endings
import SparseFixture.Proofs.Fixture.Records
import SparseFixture.Proofs.Fixture.Paths
import SparseFixture.Proofs.Fixture.Frame
import SparseFixture.Proofs.Fixture.Histories
import SparseFixture.Proofs.Fixture.Modes
import SparseFixture.Proofs.Fixture.Places
import SparseFixture.Proofs.Fixture.Succession
import SparseFixture.Proofs.Fixture.Interleaving
import SparseFixture.Proofs.Fixture.EntryPoints
import SparseFixture.Proofs.Log.Directives
import SparseFixture.Proofs.CommandLine
import SparseFixture.Proofs.Diagnostics
import SparseFixture.Proofs.Rendering
