import SourceIndex.Main
import SourceIndex.Proofs.CallGraph
import SourceIndex.Proofs.FailedRun
import SourceIndex.Proofs.Failures
import SourceIndex.Proofs.Repeat
import SourceIndex.Proofs.FullRun
import SourceIndex.Proofs.SavedManifest
import SourceIndex.Proofs.Contents
import SourceIndex.Proofs.Renames
import SourceIndex.Proofs.RecordOrder
import SourceIndex.Proofs.Anonymous
import SourceIndex.Proofs.Impact
import SourceIndex.Proofs.Components
import SourceIndex.Proofs.ResolvedCalls
import SourceIndex.Proofs.Layout
import SourceIndex.Proofs.Matching
import SourceIndex.Proofs.Partition
import SourceIndex.Proofs.Recursion
import SourceIndex.Proofs.Places
import SourceIndex.Proofs.TrackedFiles
import SourceIndex.Proofs.Ownership
import SourceIndex.Proofs.Imports
import SourceIndex.Proofs.TypeArguments
import SourceIndex.Proofs.Accounting
import SourceIndex.Proofs.Recovery
import SourceIndex.Proofs.Similarity
import SourceIndex.Proofs.RelativeKey
