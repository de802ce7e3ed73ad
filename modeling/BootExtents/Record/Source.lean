import BootExtents.Inquiry.Basic
import BootExtents.Record.Scan

/-!
# Where a record may be

A record may be in several places, some of which may not exist or not be readable. They are tried
in order, and the first genuine record counts.

## Main definitions

* `BootExtents.RecordSource` — a place where a record may be.
* `BootExtents.Record.locate` — the record of the first place that has one.
-/

set_option relaxedAutoImplicit false
set_option autoImplicit false

namespace BootExtents

/-- A place where a record may be. -/
structure RecordSource (I : Interface) where
  /-- The name of the place. -/
  name : String
  /-- The genuine record there, if there is one. -/
  find : Inquiry I Error (Option Record)

/-- The record of the first place that has one. A place that cannot be read is worth a warning and
is passed over. -/
def Record.locate {I : Interface} : List (RecordSource I) → Inquiry I Error Record
  | [] => .fail .recordNotFound
  | source :: others => do
    match ← source.find.attempt with
    | .ok (some record) => return record
    | .ok none => locate others
    | .error error => .warn (.recordSource source.name error) (locate others)

end BootExtents
