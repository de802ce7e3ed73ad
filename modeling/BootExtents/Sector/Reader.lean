import BootExtents.Sector.Basic

/-!
# A reader of sectors

A file open for reading in sectors of a size that may change. The reader keeps its position in the
file and one buffer, as large as the largest sector, for all reads.

## Main definitions

* `BootExtents.SectorReader` — the file, and what the reader keeps between calls.
* `BootExtents.SectorReader.ofFile` — a reader of 512-byte sectors.
* `BootExtents.SectorReader.setShift` — another sector size.
* `BootExtents.SectorReader.read` — one sector.
-/

set_option relaxedAutoImplicit false
set_option autoImplicit false

namespace BootExtents

/-- The bytes of the largest sector. -/
def maxSectorSize : Nat := 4096

/-- A file open for reading in sectors. -/
structure SectorReader where
  /-- The content of the file. -/
  file : ByteArray
  /-- The place of the next byte to be read. -/
  position : Nat
  /-- The size of a sector is two to this power. -/
  shift : Nat
  /-- Where sectors are read to. -/
  buffer : ByteArray

namespace SectorReader

/-- A reader at the start of a file, in sectors of 512 bytes. -/
def ofFile (file : ByteArray) : SectorReader :=
  { file, position := 0, shift := 9, buffer := ⟨Array.replicate maxSectorSize 0⟩ }

/-- Sets the sector size to two to the given power, unless that is larger than the buffer. The power
is meant to be below 64, the bits of a word. -/
def setShift (reader : SectorReader) (shift : Nat) : Except IoError SectorReader :=
  if maxSectorSize < 1 <<< shift then .error (.sectorSize shift) else .ok { reader with shift }

/-- Moves to a place in the file, at its end or behind it also. -/
def seek (reader : SectorReader) (position : Nat) : Except IoError SectorReader :=
  if positionLimit ≤ position then .error .invalidPosition else .ok { reader with position }

/-- Fills the first `length` bytes of the buffer from the file, or as many as the file still has.
Says whether there were enough. -/
def fill (reader : SectorReader) (length : Nat) : Bool × SectorReader :=
  let count := min length (reader.file.size - reader.position)
  (count == length,
    { reader with
      position := reader.position + count
      buffer := reader.file.copySlice reader.position reader.buffer 0 count })

/-- Reads a sector by its number, in sectors of the present size. Its position is a plain product,
which a word of 64 bits holds for every position that can be asked for. -/
def read (reader : SectorReader) (number : Nat) : Except IoError ByteArray × SectorReader :=
  match reader.seek (number * (1 <<< reader.shift)) with
  | .error error => (.error error, reader)
  | .ok reader =>
    match reader.fill (1 <<< reader.shift) with
    | (true, reader) => (.ok (reader.buffer.extract 0 (1 <<< reader.shift)), reader)
    | (false, reader) => (.error .endOfFile, reader)

end SectorReader

end BootExtents
