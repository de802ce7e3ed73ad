import BootExtents.Region.Basic

/-!
# Linear tables

The table by which the device mapper lays an image over the partition that holds it: a line for
each region with its start and length, both in disk units of the image, and the disk unit of the
partition where it begins.

## Main definitions

* `BootExtents.LinearTable` — a region list, the partition's device and where the partition starts.
* `BootExtents.LinearTable.Row`, `rows` — the lines of the table, as numbers.
* `BootExtents.LinearTable.text` — the table.
-/

set_option relaxedAutoImplicit false
set_option autoImplicit false

namespace BootExtents

/-- An image laid over the partition that holds it. -/
structure LinearTable where
  /-- The regions of the image on the disk. -/
  list : RegionList
  /-- The path of the partition's device. -/
  device : String
  /-- The disk unit where the partition starts. -/
  partitionStart : Nat

namespace LinearTable

/-- A line of the table, in disk units. -/
structure Row where
  /-- Where the line starts in the image. -/
  start : Nat
  /-- How many units it maps. -/
  count : Nat
  /-- Where it starts on the partition. -/
  offset : Nat
deriving DecidableEq, Repr, Inhabited

/-- The lines of a table. A region in front of the partition counts as its start. -/
def rows (table : LinearTable) : List Row :=
  table.list.regions.map fun region =>
    { start := region.imageStart.toNat * table.list.unitRatio
      count := region.imageCount.toNat * table.list.unitRatio
      offset := region.diskStart.toNat - table.partitionStart }

/-- A table has a line for each region. -/
@[simp] theorem length_rows (table : LinearTable) :
    table.rows.length = table.list.regions.length :=
  List.length_map _

/-- A line as text. -/
def Row.text (row : Row) (device : String) : String :=
  s!"{row.start} {row.count} linear {device} {row.offset}\n"

/-- The table as text, a line for each region. -/
def text (table : LinearTable) : String :=
  String.join (table.rows.map (·.text table.device))

end LinearTable

end BootExtents
