import BootExtents.Dump
import BootExtents.Files.Tree
import BootExtents.Inquiry.Lemmas
import BootExtents.Main
import BootExtents.Sector.Reader
import BootExtents.Proofs.Bytes.Altered
import BootExtents.Proofs.Bytes.Fields
import BootExtents.Proofs.Extent.Chain
import BootExtents.Proofs.Extent.Walk
import BootExtents.Proofs.Extent.Regions
import BootExtents.Proofs.Extent.Exposure
import BootExtents.Proofs.Extent.Faults
import BootExtents.Proofs.Volume.Mapping
import BootExtents.Proofs.Region.Codec
import BootExtents.Proofs.Extent.Overlap
import BootExtents.Proofs.Volume.Marks
import BootExtents.Proofs.Volume.Directory
import BootExtents.Proofs.Disk.Choice
import BootExtents.Proofs.Disk.Order
import BootExtents.Proofs.Location.Derived
import BootExtents.Proofs.Location.FirstMatch
import BootExtents.Proofs.Location.Snapshot
import BootExtents.Proofs.Record.Codec
import BootExtents.Proofs.Location.Origin
import BootExtents.Proofs.Location.PartitionStart
import BootExtents.Proofs.Location.Search
import BootExtents.Proofs.Volume.Failures
import BootExtents.Proofs.Volume.Integrity
import BootExtents.Proofs.Volume.Lookup
import BootExtents.Proofs.Volume.Bounds
import BootExtents.Proofs.Volume.Words
import BootExtents.Proofs.Volume.NoTraps
import BootExtents.Proofs.Record.Channels
import BootExtents.Proofs.Extent.Shift
import BootExtents.Proofs.Extent.Units
import BootExtents.Proofs.Inquiry.Failures
import BootExtents.Proofs.Record.Scan
import BootExtents.Proofs.Volume.Addresses
import BootExtents.Proofs.Volume.ClusterPath
import BootExtents.Proofs.Volume.ShortData
import BootExtents.Proofs.Inquiry.Silent
import BootExtents.Proofs.Volume.Neighbours
import BootExtents.Proofs.Volume.CaseSegments
import BootExtents.Proofs.Record.Edits
import BootExtents.Proofs.Record.ImagePath
import BootExtents.Proofs.Sector.History
import BootExtents.Proofs.Platform.Printouts
