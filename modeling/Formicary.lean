import Formicary.Console.Directory
import Formicary.Main
import Formicary.Proofs.Deed
import Formicary.Proofs.Course
import Formicary.Proofs.Layout
import Formicary.Proofs.Start
import Formicary.Proofs.Occupancy
import Formicary.Proofs.Stores
import Formicary.Proofs.Encirclement
import Formicary.Proofs.Mirror
import Formicary.Proofs.Rescan
import Formicary.Proofs.Slots
import Formicary.Proofs.Correspondence
import Formicary.Proofs.Guarded
import Formicary.Proofs.Odds
import Formicary.Proofs.Safety
import Formicary.Proofs.Batches
import Formicary.Proofs.Numerals
import Formicary.Proofs.Readers
import Formicary.Proofs.Grammar
import Formicary.Proofs.Viability
import Formicary.Proofs.Source
import Formicary.Proofs.Accounts
import Formicary.Proofs.Schedule
import Formicary.Proofs.Credit
import Formicary.Proofs.Cycle
import Formicary.Proofs.MapText
import Formicary.Proofs.Rectangle
import Formicary.Proofs.Dumps
import Formicary.Proofs.Segments
import Formicary.Proofs.Seeds
import Formicary.Proofs.Twins
import Formicary.Proofs.Deaths
import Formicary.Proofs.Locality
import Formicary.Proofs.Distance
import Formicary.Proofs.Neighbours
import Formicary.Proofs.Pace
import Formicary.Proofs.Paths
import Formicary.Proofs.Repeats
import Formicary.Proofs.Muster
import Formicary.Proofs.FirstFault
import Formicary.Proofs.Defects
import Formicary.Proofs.Balance
import Formicary.Proofs.Counters
import Formicary.Proofs.Collation
import Formicary.Proofs.Ranking
import Formicary.Proofs.Trace
import Formicary.Proofs.Denotation
import Formicary.Proofs.Failures
import Formicary.Proofs.Snapshots
import Formicary.Proofs.Scents
