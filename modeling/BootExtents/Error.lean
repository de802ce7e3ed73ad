import BootExtents.Cluster
import BootExtents.Filesystem

/-!
# Errors

What can go wrong, by cause. Each layer has its own type, and each type its own messages: reading
files and devices (`IoError`), reading an exFAT volume (`VolumeError`), and the whole job
(`Error`).

## Main definitions

* `BootExtents.IoError` and `BootExtents.IoError.kind` — failures of reading, and their classes.
* `BootExtents.VolumeError` — content of a volume that does not hold up.
* `BootExtents.Error` — failures of the whole job.
-/

set_option relaxedAutoImplicit false
set_option autoImplicit false

namespace BootExtents

/-! ### Reading -/

/-- The classes of reading failures. -/
inductive IoKind where
  | notFound
  | permissionDenied
  | notADirectory
  | isADirectory
  | invalidFilename
  | invalidInput
  | invalidData
  | unexpectedEof
  | other
deriving DecidableEq, Repr, Inhabited

/-- Why a chain of clusters cannot be turned into disk regions. -/
inductive ExtentFault where
  /-- The chain starts outside the data area. -/
  | invalidStart (cluster : ClusterId)
  /-- The chain leaves the data area. -/
  | invalidMember (cluster : ClusterId)
  /-- A run that another one follows is no whole number of image units. -/
  | unaligned (size : Nat)
deriving DecidableEq, Repr, Inhabited

/-- Why a read fails. -/
inductive IoError where
  | notFound
  | notADirectory
  | isADirectory
  /-- A path, or a name on it, has more bytes than a system takes. -/
  | nameTooLong
  /-- A path holds the character that ends paths. -/
  | nulInPath
  /-- The file ends before the bytes asked for. -/
  | endOfFile
  /-- A position in a file that no signed 64-bit number expresses. -/
  | invalidPosition
  /-- A range of the memory device that its file does not hold. -/
  | beyondEnd (address : UInt64) (length : Nat) (path : String)
  /-- A sector size above the largest one supported. -/
  | sectorSize (shift : Nat)
  /-- Data read from a chain of clusters is unusable. -/
  | invalidData (fault : ExtentFault)
  /-- Any other failure, as a device reports it. -/
  | device (kind : IoKind) (message : String)
deriving DecidableEq, Repr, Inhabited

/-- The message of an unusable chain. -/
def ExtentFault.message : ExtentFault → String
  | .invalidStart cluster => s!"invalid first cluster {cluster}"
  | .invalidMember cluster => s!"invalid cluster {cluster} in chain"
  | .unaligned size => s!"extent of {size} bytes not aligned to image unit"

namespace IoError

/-- The class of a failure. -/
def kind : IoError → IoKind
  | notFound => .notFound
  | notADirectory => .notADirectory
  | isADirectory => .isADirectory
  | nameTooLong => .invalidFilename
  | nulInPath => .invalidInput
  | endOfFile => .unexpectedEof
  | invalidPosition => .invalidInput
  | beyondEnd _ _ _ => .unexpectedEof
  | sectorSize _ => .invalidInput
  | invalidData _ => .invalidData
  | device kind _ => kind

/-- The message of a failure. -/
def message : IoError → String
  | notFound => "No such file or directory (os error 2)"
  | notADirectory => "Not a directory (os error 20)"
  | isADirectory => "Is a directory (os error 21)"
  | nameTooLong => "File name too long (os error 36)"
  | nulInPath => "file name contained an unexpected NUL byte"
  | endOfFile => "failed to fill whole buffer"
  | invalidPosition => "Invalid argument (os error 22)"
  | beyondEnd address length path =>
    "0x" ++ String.ofList (Nat.toDigits 16 address.toNat) ++ s!"+{length} beyond end of {path}"
  | sectorSize shift => s!"sector size 2^{shift} not supported"
  | invalidData fault => fault.message
  | device _ message => message

end IoError

/-! ### Volumes -/

/-- Why an exFAT volume cannot be read. -/
inductive VolumeError where
  | io (error : IoError)
  | notExfat
  | geometry
  | fatChain
  | metadata
  | caseMapMissing
  | texfat
  | notFound
deriving DecidableEq, Repr, Inhabited

/-- The message of a volume's failure. -/
def VolumeError.message : VolumeError → String
  | .io error => "IO(" ++ error.message ++ ")"
  | .notExfat => "Not ExFAT filesystem"
  | .geometry => "Unsupported sector or cluster size"
  | .fatChain => "Broken FAT chain"
  | .metadata => "Corrupted metadata"
  | .caseMapMissing => "Upcase table missing"
  | .texfat => "TexFAT not supported"
  | .notFound => "No such file or directory"

/-! ### The whole job -/

/-- What was found corrupted. -/
inductive Corruption where
  | locationHeader
  | unitSize
  /-- More regions are announced than the bytes can hold. -/
  | regionCount (count size : Nat)
  /-- A list of regions without the identity of the boot stage. -/
  | imageLocation
  /-- Anything else, by its name. -/
  | named (what : String)
deriving DecidableEq, Repr, Inhabited

/-- The name of what was found corrupted. -/
def Corruption.name : Corruption → String
  | .locationHeader => "location header"
  | .unitSize => "location unit size"
  | .regionCount _ _ => "location region count"
  | .imageLocation => "image location"
  | .named what => what

/-- Why the job fails. -/
inductive Error where
  | recordNotFound
  | corrupted (what : Corruption)
  | diskNotFound
  | diskAmbiguous (count : Nat)
  | unsupportedFilesystem (kind : FilesystemKind)
  | locationNotFound
  | io (error : IoError)
  | volume (error : VolumeError)
  /-- A chain whose clusters hold no bytes cannot hold a file. -/
  | zeroClusterSize
deriving DecidableEq, Repr, Inhabited

/-- The message of a failure. -/
def Error.message : Error → String
  | .recordNotFound => "Runtime parameters not found"
  | .corrupted what => "Corrupted " ++ what.name
  | .diskNotFound => "No disk matches runtime parameters"
  | .diskAmbiguous count => s!"{count} disks match runtime parameters, indistinguishable"
  | .unsupportedFilesystem kind => "Unsupported filesystem " ++ kind.name
  | .locationNotFound => "Image location not found"
  | .io error => "IO(" ++ error.message ++ ")"
  | .volume error => "ExFAT(" ++ error.message ++ ")"
  | .zeroClusterSize => "Cluster size is zero"

end BootExtents
