import BootExtents.Record.Basic

/-!
# Finding a record in a buffer

## Main definitions

* `BootExtents.Record.scan` — the first genuine record at a multiple of a stride, and its offset.
-/

set_option relaxedAutoImplicit false
set_option autoImplicit false

namespace BootExtents.Record

/-- The first genuine record at the start of `bytes` or of what is left of them after dropping
`gap + 1` bytes any number of times; `offset` counts the bytes dropped before. -/
def scanFrom (gap offset : Nat) (bytes : List UInt8) : Option (Nat × Record) :=
  match parse? bytes with
  | some record => some (offset, record)
  | none =>
    match bytes with
    | [] => none
    | _ :: rest => scanFrom gap (offset + (gap + 1)) (rest.drop gap)
termination_by bytes.length
decreasing_by simp only [List.length_drop, List.length_cons]; omega

/-- The first genuine record of a buffer at a multiple of `stride`, or of 1 for stride zero. -/
def scan (bytes : List UInt8) (stride : Nat) : Option (Nat × Record) :=
  scanFrom (stride - 1) 0 bytes

end BootExtents.Record
