import BootExtents.Extent.Extract
import BootExtents.Proofs.Inquiry.Failures
import BootExtents.Proofs.Volume.Mapping
import Mathlib

/-!
# Sectors that cannot be read

Whatever is done with a volume, a sector that cannot be read either is not needed, and everything is
as it would be otherwise, or its failure is what comes out in the end. The reader makes up no failed
reads: its own errors are about what the sectors say. So a failed read at the end is the failure of
a sector.

## Main definitions

* `BootExtents.VolumeError.IsContent`, `Error.IsContent` — errors that are no failed reads.
* `BootExtents.VolumeError.IsBroken` — among them, those about chains and entries.

## Main results

* `BootExtents.Volume.ownErrors_mount`, `ownErrors_entries`, `ownErrors_lookup`,
  `Geometry.ownErrors_fatEntry`, `ownErrors_extract` — the errors that the reader makes up.
* `BootExtents.failures_shown` — failed reads are neither masked nor turned into data.
-/

set_option relaxedAutoImplicit false
set_option autoImplicit false

namespace BootExtents

/-- An error about the content of a volume, not a failed read. -/
def VolumeError.IsContent (error : VolumeError) : Prop :=
  ∀ cause, error ≠ .io cause

/-- An error that is no failed read of a volume. -/
def Error.IsContent (error : Error) : Prop :=
  ∀ cause, error ≠ .volume (.io cause)

/-- An error about a broken chain of clusters or broken entries of a directory. -/
def VolumeError.IsBroken (error : VolumeError) : Prop :=
  error = .fatChain ∨ error = .metadata

/-- An error about broken chains or entries is no failed read. -/
lemma VolumeError.IsBroken.isContent {error : VolumeError} (h : error.IsBroken) :
    error.IsContent := by
  rcases h with rfl | rfl <;> exact nofun

/-- An error about the content of a volume stays one among all errors. -/
lemma VolumeError.IsContent.volume {error : VolumeError} (h : error.IsContent) :
    (Error.volume error).IsContent :=
  fun cause hcause => h cause (Error.volume.inj hcause)

open Inquiry (OwnErrors)

/-! ### Clusters -/

namespace Geometry

variable (geometry : Geometry)

/-- What is wrong with a boot sector is in the sector. -/
lemma isContent_of_ofBootSector {sector : List UInt8} {error : VolumeError}
    (h : ofBootSector sector = .error error) : error.IsContent := by
  unfold ofBootSector at h
  split at h
  · obtain rfl := Except.error.inj h
    nofun
  dsimp only at h
  split at h
  · split at h
    · obtain rfl := Except.error.inj h
      nofun
    · cases h
  · obtain rfl := Except.error.inj h
    nofun

/-- Reading a sector makes up no error, as it is one question. -/
lemma ownErrors_sector (number : Nat) :
    (geometry.sector number).OwnErrors VolumeError.IsBroken :=
  fun _ => trivial

/-- Reading an entry of the table makes up the error of a broken chain only, where the table is
over. -/
lemma ownErrors_fatEntry (cluster : ClusterId) :
    (geometry.fatEntry cluster).OwnErrors VolumeError.IsBroken := by
  unfold fatEntry
  split
  · exact .inl rfl
  · exact (geometry.ownErrors_sector _).bind fun _ => trivial

/-- Following a chain makes up that error only, at a cluster outside the heap or at a mark. -/
lemma ownErrors_followChain (contiguous : Bool) (limit : Nat) (cluster : ClusterId)
    (found : List ClusterId) :
    (geometry.followChain contiguous limit cluster found).OwnErrors VolumeError.IsBroken := by
  induction limit generalizing cluster found with
  | zero => exact trivial
  | succ limit ih =>
    unfold followChain
    split
    · split
      · exact ih _ _
      · refine (geometry.ownErrors_fatEntry cluster).bind fun value => ?_
        split
        · exact ih _ _
        · exact trivial
        · exact .inl rfl
        · exact .inl rfl
    · exact .inl rfl

/-- Reading a cluster makes up no error, as reading its sectors does not. -/
lemma ownErrors_readCluster (cluster : ClusterId) :
    (geometry.readCluster cluster).OwnErrors VolumeError.IsBroken :=
  (OwnErrors.mapM geometry.ownErrors_sector _).bind fun _ => trivial

/-- Reading the bytes of a chain makes up the errors of following it. -/
lemma ownErrors_readData (first : ClusterId) (contiguous : Bool) (length : Option Nat) :
    (geometry.readData first contiguous length).OwnErrors VolumeError.IsBroken := by
  refine (geometry.ownErrors_followChain contiguous _ first []).bind fun clusters => ?_
  refine (OwnErrors.mapM geometry.ownErrors_readCluster clusters).bind fun parts => ?_
  cases length <;> exact trivial

/-- Reading a directory makes up the errors of reading its bytes. -/
lemma ownErrors_readDirectory (directory : Node) :
    (geometry.readDirectory directory).OwnErrors VolumeError.IsBroken :=
  (geometry.ownErrors_readData ..).bind fun _ => trivial

/-- Reading the case map makes up errors about the content: that there is none, that its checksum is
wrong, or those of reading its bytes. -/
lemma ownErrors_readCaseMap : geometry.readCaseMap.OwnErrors VolumeError.IsContent := by
  refine ((geometry.ownErrors_readDirectory _).mono fun _ h => h.isContent).bind fun entries => ?_
  split
  · exact nofun
  · refine ((geometry.ownErrors_readData ..).mono fun _ h => h.isContent).bind fun bytes => ?_
    dsimp only
    split
    · exact trivial
    · exact nofun

end Geometry

/-! ### Directories -/

namespace Node

/-- A set of entries makes up the error of bad metadata only. -/
lemma ownErrors_ofSet (map : CaseMap) (entries : List DirectoryEntry) :
    (ofSet map entries : Inquiry Sectors VolumeError Node).OwnErrors VolumeError.IsBroken := by
  unfold ofSet
  split
  · dsimp only
    split_ifs
    · exact .inr rfl
    · exact .inr rfl
    · exact trivial
    · exact trivial
    · exact .inr rfl
  · exact .inr rfl

/-- Listing entries makes up the error of bad metadata only, for a set or for an entry of unknown
kind. -/
lemma ownErrors_listFrom (map : CaseMap) (found : List Node) (entries : List DirectoryEntry) :
    (listFrom map found entries : Inquiry Sectors VolumeError _).OwnErrors
      VolumeError.IsBroken := by
  fun_induction listFrom (I := Sectors) map found entries with
  | case1 found => exact trivial
  | case2 found entry rest hend => exact trivial
  | case3 found entry rest hend hfile count hshort => exact .inr rfl
  | case4 found entry rest hend hfile count hshort ih => exact (ownErrors_ofSet map _).bind ih
  | case5 found entry rest hend hfile hkind => exact .inr rfl
  | case6 found entry rest hend hfile hkind ih => exact ih

end Node

namespace Volume

/-- Mounting makes up errors about the content: those of the boot sector and those of the case
map. -/
lemma ownErrors_mount : mount.OwnErrors VolumeError.IsContent := by
  refine OwnErrors.bind (fun _ => trivial) fun boot => ?_
  refine OwnErrors.bind (.ofExcept fun _ => Geometry.isContent_of_ofBootSector) fun geometry => ?_
  exact geometry.ownErrors_readCaseMap.bind fun _ => trivial

variable (volume : Volume)

/-- Listing a directory makes up the errors of reading it and of listing its entries. -/
lemma ownErrors_entries (directory : Node) :
    (volume.entries directory).OwnErrors VolumeError.IsBroken :=
  (volume.geometry.ownErrors_readDirectory directory).bind fun entries =>
    Node.ownErrors_listFrom volume.caseMap [] entries

/-- A descent makes up errors about the content: that nothing was found, or those of listing. -/
lemma ownErrors_descend (node : Node) (names : List String) :
    (volume.descend node names).OwnErrors VolumeError.IsContent := by
  induction names generalizing node with
  | nil => exact trivial
  | cons name names ih =>
    unfold descend
    split
    · refine ((volume.ownErrors_entries node).mono fun _ h => h.isContent).bind fun nodes => ?_
      split
      · exact ih _
      · exact nofun
    · exact nofun

/-- Looking up a path makes up the errors of the descent. -/
lemma ownErrors_lookup (path : String) :
    (volume.lookup path).OwnErrors VolumeError.IsContent :=
  volume.ownErrors_descend _ _

/-! ### Chains -/

/-- The next cluster of a node makes up the errors of reading the table, if it is looked up
there. -/
lemma ownErrors_nextCluster (contiguous : Bool) (cluster : ClusterId) :
    (volume.nextCluster contiguous cluster).OwnErrors VolumeError.IsContent := by
  unfold nextCluster
  split
  · exact trivial
  · exact (volume.geometry.ownErrors_fatEntry cluster).mono fun _ h => h.isContent

/-- A step of the walk makes up errors about the content: those of the chain, and for a cluster that
is not valid or an extent that is over within an image unit. -/
lemma ownErrors_advance (node : Node) (base : Nat) (walk : ChainWalk) :
    (walk.advance (volume.chain node) base).OwnErrors Error.IsContent := by
  have hnext : ((volume.chain node).next walk.cluster).OwnErrors Error.IsContent :=
    ((volume.ownErrors_nextCluster node.isContiguous walk.cluster).mono
      fun _ => VolumeError.IsContent.volume).mapError
  unfold ChainWalk.advance
  refine hnext.bind fun cluster => ?_
  have hoffset : ((volume.chain node).offset cluster).OwnErrors Error.IsContent := trivial
  split
  · refine hoffset.bind fun offset => ?_
    split
    · exact trivial
    · exact nofun
  · exact nofun

/-- Extraction makes up errors about the content: those of its steps, and for clusters without bytes
or a first cluster that is not valid. -/
lemma ownErrors_extract (node : Node) (length base : Nat) :
    (extract (volume.chain node) length base).OwnErrors Error.IsContent := by
  unfold extract
  split
  · exact nofun
  have hfirst : (volume.chain node).first.OwnErrors Error.IsContent := trivial
  refine hfirst.bind fun cluster => ?_
  have hoffset : ((volume.chain node).offset cluster).OwnErrors Error.IsContent := trivial
  split
  · split
    · exact trivial
    refine hoffset.bind fun offset => ?_
    exact (OwnErrors.iterate (volume.ownErrors_advance node base) _ _).bind fun _ => trivial
  · exact nofun

end Volume

/-! ### Failing sectors -/

/-- **Failed reads are neither masked nor turned into data.** Let some sectors of an image fail to
be read. Mounting the volume, the entries of a directory, the lookup of a path, the table entry of a
cluster and the extraction of a file then end as they do if no sector fails, or with the failure of
the first failing sector that they read if no sector fails.

**Proof sketch.** The reader goes from one sector to the next and its own errors are no failed
reads, so failures show (`Inquiry.OwnErrors.showsFailures`). -/
theorem failures_shown (image : ByteArray) (failure : SectorAddress → Option IoError) :
    let failed address := (failure address).map VolumeError.io
    Volume.mount.ShowsFailures (volumeSectors image) failed ∧
      ∀ volume : Volume,
        (∀ directory, (volume.entries directory).ShowsFailures (volumeSectors image) failed) ∧
        (∀ path, (volume.lookup path).ShowsFailures (volumeSectors image) failed) ∧
        (∀ cluster, (volume.geometry.fatEntry cluster).ShowsFailures (volumeSectors image)
          failed) ∧
        ∀ node length base, (extract (volume.chain node) length base).ShowsFailures
          (chainSectors image) fun address => (failed address).map .volume := by
  intro failed
  have hfailed : ∀ address error, failed address = some error → ¬error.IsContent := by
    intro address error herror hcontent
    obtain ⟨cause, -, rfl⟩ := Option.map_eq_some_iff.1 herror
    exact hcontent cause rfl
  have hfailed' : ∀ address error, (failed address).map Error.volume = some error →
      ¬error.IsContent := by
    intro address error herror hcontent
    obtain ⟨cause, hcause, rfl⟩ := Option.map_eq_some_iff.1 herror
    obtain ⟨cause, -, rfl⟩ := Option.map_eq_some_iff.1 hcause
    exact hcontent cause rfl
  exact ⟨Volume.ownErrors_mount.showsFailures hfailed _, fun volume =>
    ⟨fun directory => ((volume.ownErrors_entries directory).mono
        fun _ h => h.isContent).showsFailures hfailed _,
      fun path => (volume.ownErrors_lookup path).showsFailures hfailed _,
      fun cluster => ((volume.geometry.ownErrors_fatEntry cluster).mono
        fun _ h => h.isContent).showsFailures hfailed _,
      fun node length base => (volume.ownErrors_extract node length base).showsFailures hfailed' _⟩⟩

/-- An image does not fail as a device does. -/
lemma volumeSectors_ne_device (image : ByteArray) (address : SectorAddress) (kind : IoKind)
    (message : String) : volumeSectors image address ≠ .error (.io (.device kind message)) := by
  unfold volumeSectors readSector readExact
  split_ifs <;> nofun

/-- Addresses of sectors can be compared. -/
instance : DecidableEq Sectors.Question :=
  inferInstanceAs (DecidableEq SectorAddress)

/-- A small volume whose table cannot be read is not mounted. One that only lacks a sector of a file
is mounted as usual. -/
theorem failures_shown_small_volume :
    let image : ByteArray := ⟨smallVolume.toArray⟩
    let failure (number : ℕ) (address : SectorAddress) : Option IoError :=
      if address = ⟨9, number⟩ then some (.device .other "bad sector") else none
    let mounted (number : ℕ) := Volume.mount.result
      ((volumeSectors image).failing fun address => (failure number address).map .io)
    mounted 1 = .error (.io (.device .other "bad sector")) ∧
      mounted 6 = Volume.mount.result (volumeSectors image) := by
  intro image failure mounted
  have hasked : Volume.mount.asked (volumeSectors image) =
      [⟨9, 0⟩, ⟨9, 1⟩, ⟨9, 2⟩, ⟨9, 3⟩, ⟨9, 4⟩, ⟨9, 5⟩] := by
    rw [volumeSectors_toArray]
    decide +kernel
  have hapart (number : ℕ) : ∀ address error,
      (failure number address).map VolumeError.io = some error →
        ∀ other, volumeSectors image other ≠ .error error := by
    intro address error herror other
    obtain ⟨cause, hcause, rfl⟩ := Option.map_eq_some_iff.1 herror
    rw [Option.ite_none_right_eq_some] at hcause
    obtain ⟨-, hcause⟩ := hcause
    obtain rfl := Option.some.inj hcause
    exact volumeSectors_ne_device image other _ _
  refine ⟨?_, ?_⟩
  · exact (failures_shown image (failure 1)).1.first_failure [⟨9, 0⟩] ⟨9, 1⟩
      [⟨9, 2⟩, ⟨9, 3⟩, ⟨9, 4⟩, ⟨9, 5⟩] _ hasked (by decide) rfl
  · have hshown := (failures_shown image (failure 6)).1
    have hnone : ¬∃ address ∈ Volume.mount.asked (volumeSectors image),
        ((failure 6 address).map VolumeError.io).isSome = true := by
      rw [hasked]
      decide
    rcases hshown.same_or_failure with hsame | ⟨address, -, error, herror, hresult⟩
    · exact hsame
    · exact absurd ((hshown.error_iff (hapart 6)).1 ⟨address, error, herror, hresult⟩) hnone

end BootExtents
