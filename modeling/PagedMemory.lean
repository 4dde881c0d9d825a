import PagedMemory.CommandLine
import PagedMemory.Counters
import PagedMemory.Directory
import PagedMemory.Entry
import PagedMemory.Event
import PagedMemory.FreeList
import PagedMemory.LogFilter
import PagedMemory.Machine.Basic
import PagedMemory.Machine.Ownership
import PagedMemory.Machine.Run
import PagedMemory.Main
import PagedMemory.Memory
import PagedMemory.Outcome
import PagedMemory.PageTable
import PagedMemory.PagingError
import PagedMemory.Pattern
import PagedMemory.Pattern.Beginning
import PagedMemory.Pattern.Brackets
import PagedMemory.Pattern.CharSet
import PagedMemory.Pattern.Cursor
import PagedMemory.Pattern.Escape
import PagedMemory.Pattern.Expression
import PagedMemory.Pattern.Fault
import PagedMemory.Pattern.Graph
import PagedMemory.Pattern.Groups
import PagedMemory.Pattern.Matching
import PagedMemory.Pattern.Meaning
import PagedMemory.Pattern.Tree
import PagedMemory.Percentage
import PagedMemory.Program
import PagedMemory.Randomness
import PagedMemory.Report
import PagedMemory.Search
import PagedMemory.Settings
import PagedMemory.Text
import PagedMemory.Text.Letter
import PagedMemory.Text.Quoted
import PagedMemory.UserProcess
import PagedMemory.VictimPolicy
import PagedMemory.Word
import PagedMemory.Workload
import PagedMemory.Proofs.Charges
import PagedMemory.Proofs.Residents
import PagedMemory.Proofs.Selection
import PagedMemory.Proofs.Touch
import PagedMemory.Proofs.Loading
import PagedMemory.Proofs.Searching
import PagedMemory.Proofs.Turns
import PagedMemory.Proofs.Calls
import PagedMemory.Proofs.Conservation
import PagedMemory.Proofs.Ownership
import PagedMemory.Proofs.Settling
import PagedMemory.Proofs.Orderly
import PagedMemory.Proofs.Starvation
import PagedMemory.Proofs.Alike
import PagedMemory.Proofs.Indifference
import PagedMemory.Proofs.Serving
import PagedMemory.Proofs.Progress
import PagedMemory.Proofs.Sufficiency
import PagedMemory.Proofs.Histories
import PagedMemory.Proofs.Ledger
import PagedMemory.Proofs.Occupancy
import PagedMemory.Proofs.Books
import PagedMemory.Proofs.Supply
import PagedMemory.Proofs.Plenty
import PagedMemory.Proofs.ByHand
import PagedMemory.Proofs.Reuse
import PagedMemory.Proofs.Pinning
import PagedMemory.Proofs.Situations
import PagedMemory.Proofs.FaultOrder
import PagedMemory.Proofs.RoundRobin
import PagedMemory.Proofs.Provenance
import PagedMemory.Proofs.ArrayBounds
import PagedMemory.Proofs.Journal
import PagedMemory.Proofs.Completion
import PagedMemory.Proofs.Leaks
import PagedMemory.Proofs.Reserve
import PagedMemory.Proofs.Transparency
import PagedMemory.Proofs.Spacing
import PagedMemory.Proofs.Numerals
import PagedMemory.Proofs.Fields
import PagedMemory.Proofs.Grammar
import PagedMemory.Proofs.Offences
import PagedMemory.Proofs.Legibility
import PagedMemory.Proofs.Endings
import PagedMemory.Proofs.Stages
import PagedMemory.Proofs.Recency
import PagedMemory.Proofs.Convergence
import PagedMemory.Proofs.Upkeep
import PagedMemory.Proofs.Effects
import PagedMemory.Proofs.Malformed
import PagedMemory.Proofs.Preference
import PagedMemory.Proofs.Ranking
import PagedMemory.Proofs.Release
