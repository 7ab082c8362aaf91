import RootedHeap.Config.Reader
import RootedHeap.Folder
import RootedHeap.Main
import RootedHeap.Run
import RootedHeap.Proofs.Transparency
import RootedHeap.Proofs.Atomicity
import RootedHeap.Proofs.Accounting
import RootedHeap.Proofs.Handles
import RootedHeap.Proofs.Flags
import RootedHeap.Proofs.Amortisation
import RootedHeap.Proofs.RoundTrip
import RootedHeap.Proofs.Reports
import RootedHeap.Proofs.Joining
import RootedHeap.Proofs.RootSets
import RootedHeap.Proofs.WhitePaths
import RootedHeap.Proofs.Occupancy
import RootedHeap.Proofs.SlotOrder
import RootedHeap.Proofs.Refusals
import RootedHeap.Proofs.Scanning
import RootedHeap.Proofs.Labels
import RootedHeap.Proofs.Worklist
import RootedHeap.Proofs.Sessions
import RootedHeap.Proofs.ConfigTexts
import RootedHeap.Proofs.Sweeping
