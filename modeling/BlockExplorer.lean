import BlockExplorer.Main
import BlockExplorer.Lookup.Turns
import BlockExplorer.Proofs.Collecting
import BlockExplorer.Proofs.Rows
import BlockExplorer.Proofs.Runs
import BlockExplorer.Proofs.Answers
import BlockExplorer.Proofs.Turns
import BlockExplorer.Proofs.Composition
import BlockExplorer.Proofs.Retrieval
import BlockExplorer.Proofs.Columns
import BlockExplorer.Proofs.Ordering
import BlockExplorer.Proofs.Requests
import BlockExplorer.Proofs.Pages
import BlockExplorer.Proofs.NodeBoundary
import BlockExplorer.Proofs.Agreement
import BlockExplorer.Proofs.WrittenForms
import BlockExplorer.Proofs.Responses
import BlockExplorer.Proofs.QueryArguments
import BlockExplorer.Proofs.StoreBoundary
import BlockExplorer.Proofs.Footprint
import BlockExplorer.Proofs.ProgramTable
import BlockExplorer.Proofs.ResponseFormat
import BlockExplorer.Proofs.Histories
import BlockExplorer.Proofs.Scheduling
import BlockExplorer.Proofs.ChainGrowth
import BlockExplorer.Proofs.Tiling
import BlockExplorer.Proofs.EpochReplies
import BlockExplorer.Proofs.NodeAddress
import BlockExplorer.Proofs.Wiring
import BlockExplorer.Proofs.HashGrammar
import BlockExplorer.Proofs.RowContents
import BlockExplorer.Proofs.LastBlock
import BlockExplorer.Proofs.CatchingUp
import BlockExplorer.Proofs.PoolLife
import BlockExplorer.Proofs.Rejection
import BlockExplorer.Proofs.Utf8
import BlockExplorer.Proofs.ChecksumFile
import BlockExplorer.Proofs.AcceptedSettings
import BlockExplorer.Proofs.DecodeFailures
import BlockExplorer.Proofs.RequestNumbers
import BlockExplorer.Proofs.EpochEncoding
