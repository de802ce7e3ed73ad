import BootExtents.Proofs.Volume.Marks
import Mathlib

/-!
# Bounds for the places on a volume

The numbers of a boot sector are words that may have any value, except for the two that tell the
sizes of sectors and clusters. These two are small enough for every place on the volume to be a
number of 63 bits.

## Main definitions

* `BootExtents.Geometry.Bounded` — how far the numbers of a volume reach.

## Main results

* `BootExtents.Geometry.bounded` — they reach no further, whatever the volume.
-/

set_option relaxedAutoImplicit false
set_option autoImplicit false

namespace BootExtents.Geometry

variable {geometry : Geometry} {cluster : ClusterId} {number : Nat}

/-- How far the numbers of a volume reach: what is worked out of the sizes, of the number of a
cluster in the heap, of any number for its entry in the table, and of a length. -/
structure Bounded (geometry : Geometry) : Prop where
  shift_le : geometry.sectorShift + geometry.clusterShift ≤ 25
  sectorSize_le : geometry.sectorSize ≤ 2 ^ 12
  clusterSize_pos : 0 < geometry.clusterSize
  clusterSize_lt : geometry.clusterSize < 2 ^ 32
  firstCluster_le : ∀ cluster, geometry.isValid cluster = true → firstCluster ≤ cluster
  clusterOffset_lt : ∀ cluster, geometry.isValid cluster = true →
    geometry.clusterOffset cluster < 2 ^ 63
  clusterSectors_lt : ∀ cluster, geometry.isValid cluster = true →
    ∀ number ∈ geometry.clusterSectors cluster,
      number < 2 ^ 63 ∧ number * geometry.sectorSize < 2 ^ 63
  fatSector_lt : ∀ cluster, ∀ number ∈ geometry.fatSector? cluster,
    number < 2 ^ 63 ∧ number * geometry.sectorSize < 2 ^ 63
  fatSlot_le : ∀ cluster, geometry.fatSlot cluster + 4 ≤ geometry.sectorSize
  chainLimit_lt : ∀ contiguous length, geometry.chainLimit contiguous length *
    geometry.clusterSize < length.getD (2 ^ 57) + geometry.clusterSize

/-- An entry of the table ends in the sector where it starts, as a sector has room for a whole
number of entries. -/
lemma fatSlot_add_le (geometry : Geometry) (cluster : ClusterId) :
    geometry.fatSlot cluster + 4 ≤ geometry.sectorSize := by
  have hdvd : 4 ∣ geometry.sectorSize :=
    Nat.dvd_trans (by decide) geometry.diskUnitSize_dvd_sectorSize
  obtain ⟨entries, hentries⟩ := hdvd
  have hpos := geometry.sectorSize_pos
  have hlt : cluster.toNat % entries < entries := Nat.mod_lt _ (by omega)
  rw [fatSlot, hentries, Nat.mul_comm cluster.toNat, Nat.mul_mod_mul_left]
  omega

/-- A number below a bound for the place of its sector is below that bound itself. -/
lemma lt_of_mul_sectorSize_lt {bound : Nat} (h : number * geometry.sectorSize < bound) :
    number < bound :=
  (Nat.le_mul_of_pos_right number geometry.sectorSize_pos).trans_lt h

/-- The sectors of the table start far below what 63 bits hold. -/
lemma position_lt_of_mem_fatSector? (h : number ∈ geometry.fatSector? cluster) :
    number * geometry.sectorSize < 2 ^ 63 := by
  have hoffset := geometry.fatOffset.toNat_lt
  have hlength := geometry.fatLength.toNat_lt
  obtain ⟨hindex, hsome⟩ := Option.ite_none_right_eq_some.1 h
  obtain rfl := Option.some.inj hsome
  have hnumber : geometry.fatOffset.toNat + cluster.toNat * 4 / geometry.sectorSize ≤ 2 ^ 33 := by
    omega
  have hposition := Nat.mul_le_mul hnumber geometry.sectorSize_le
  omega

/-- A sector of a cluster starts in the cluster. -/
lemma position_lt_of_mem_clusterSectors (h : number ∈ geometry.clusterSectors cluster) :
    number * geometry.sectorSize < 2 ^ 63 := by
  obtain ⟨place, hplace, rfl⟩ := List.mem_map.1 h
  have hbehind : place * geometry.sectorSize ≤ geometry.clusterSize := by
    rw [clusterSize_eq]
    exact Nat.mul_le_mul_right _ (List.mem_range.1 hplace).le
  have hoffset := geometry.clusterOffset_lt cluster
  have hsize := geometry.clusterSize_le
  rw [clusterSector_mul]
  omega

/-- The clusters for a length end less than a cluster behind it. Where the length is not known, they
are no more than the heap has. -/
lemma chainLimit_mul_lt (geometry : Geometry) (contiguous : Bool) (length : Option Nat) :
    geometry.chainLimit contiguous length * geometry.clusterSize <
      length.getD (2 ^ 57) + geometry.clusterSize := by
  have hpos := geometry.clusterSize_pos
  cases length with
  | some length => exact ceilDiv_mul_lt hpos length
  | none =>
    have hlimit : geometry.chainLimit contiguous none ≤ 2 ^ 32 := by
      have hcount := geometry.clusterCount.toNat_lt
      rw [chainLimit]
      split <;> omega
    have hproduct := Nat.mul_le_mul hlimit geometry.clusterSize_le
    rw [Option.getD_none]
    omega

/-- **The numbers of a volume are bounded**, whatever else its boot sector tells. -/
theorem bounded (geometry : Geometry) : geometry.Bounded where
  shift_le := geometry.clusterShift_bound
  sectorSize_le := geometry.sectorSize_le
  clusterSize_pos := geometry.clusterSize_pos
  clusterSize_lt := geometry.clusterSize_le.trans_lt (by decide)
  firstCluster_le _ hvalid := UInt32.le_iff_toNat_le.2 (isValid_iff.1 hvalid).1
  clusterOffset_lt cluster _ := (geometry.clusterOffset_lt cluster).trans (by decide)
  clusterSectors_lt _ _ _ hnumber :=
    have hposition := position_lt_of_mem_clusterSectors hnumber
    ⟨lt_of_mul_sectorSize_lt hposition, hposition⟩
  fatSector_lt _ _ hnumber :=
    have hposition := position_lt_of_mem_fatSector? hnumber
    ⟨lt_of_mul_sectorSize_lt hposition, hposition⟩
  fatSlot_le := geometry.fatSlot_add_le
  chainLimit_lt := geometry.chainLimit_mul_lt

/-- Two bytes of a boot sector tell the sizes of sectors and clusters. -/
lemma shifts_of_ofBootSector {boot : List UInt8} (h : ofBootSector boot = .ok geometry) :
    geometry.sectorShift = (boot.getD 108 0).toNat ∧
      geometry.clusterShift = (boot.getD 109 0).toNat := by
  unfold ofBootSector at h
  dsimp only at h
  split_ifs at h
  obtain rfl := Except.ok.inj h
  exact ⟨rfl, rfl⟩

end BootExtents.Geometry
