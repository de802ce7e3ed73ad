import BootExtents.Proofs.Extent.Units
import BootExtents.Proofs.Inquiry.Silent
import BootExtents.Proofs.Volume.Addresses
import BootExtents.Proofs.Volume.ClusterPath
import Mathlib

/-!
# Rows of neighbours

A file may be marked as one row of neighbours, whose clusters are told without the allocation table.
Where the table leads through the same row, it makes no difference whether the mark is there.

## Main definitions

* `BootExtents.Geometry.TableFollows` — the table leads through a row.

## Main results

* `BootExtents.extract_congr` — chains that agree as far as a file reaches have the same regions.
* `BootExtents.Geometry.result_followChain_row` — what is read of a row is what the table tells.
* `BootExtents.Volume.result_extract_row` — so is what is mapped of it.
* `BootExtents.Volume.regions_of_row` — a row has one region.
* `BootExtents.row_agrees_with_table` — all of this for a file of a volume.
-/

set_option relaxedAutoImplicit false
set_option autoImplicit false

namespace BootExtents

/-! ### Chains that agree -/

section Congr

variable {I : Interface} {chain other : ClusterChain I} {answer : Inquiry.Respondent I Error}
  {place : ClusterId → Nat} {length base count index limit : Nat} {walk after : ChainWalk}

/-- A step comes to the cluster that the chain names. -/
lemma ChainWalk.next_of_advance (hplaced : chain.PlacedBy answer place)
    (h : (walk.advance chain base).result answer = .ok after) :
    (chain.next walk.cluster).result answer = .ok after.cluster := by
  rw [result_advance hplaced] at h
  cases hnext : (chain.next walk.cluster).result answer with
  | error error =>
    rw [hnext] at h
    cases h
  | ok cluster =>
    rw [hnext] at h
    dsimp only at h
    split at h
    · split at h
      · rw [← Except.ok.inj h]
      · cases h
    · cases h

/-- Two walks take the same steps while the chains name the same clusters.

**Proof sketch.** Induction on the number of steps. The cluster that a walk has come to is that at
its place in the chain, so the next one is the same in both. -/
lemma ChainWalk.result_iterate_congr (hplaced : chain.PlacedBy answer place)
    (hplaced' : other.PlacedBy answer place) (hsize : chain.clusterSize = other.clusterSize)
    (hvalid : chain.isValid = other.isValid)
    (hnext : ∀ index < limit, ∀ cluster, chain.clusterAt answer index = .ok cluster →
      (chain.next cluster).result answer = (other.next cluster).result answer)
    (hat : chain.clusterAt answer index = .ok walk.cluster) (hcount : index + count ≤ limit) :
    (Inquiry.iterate (ChainWalk.advance chain base) count walk).result answer =
      (Inquiry.iterate (ChainWalk.advance other base) count walk).result answer := by
  induction count generalizing walk index with
  | zero => rfl
  | succ count ih =>
    have hstep : (walk.advance chain base).result answer =
        (walk.advance other base).result answer := by
      rw [result_advance hplaced, result_advance hplaced', hsize, hvalid,
        hnext index (by omega) _ hat]
    rw [Inquiry.iterate_succ, Inquiry.iterate_succ, Inquiry.result_bind, Inquiry.result_bind, ← hstep]
    cases hadvance : (walk.advance chain base).result answer with
    | error error => rfl
    | ok after =>
      have hafter := (ClusterChain.clusterAt_succ hat).trans (next_of_advance hplaced hadvance)
      exact ih hafter (by omega)

/-- **Chains that agree as far as a file reaches** have the same regions, or the same error.

**Proof sketch.** The walks start at the same cluster, and take one step less than the file has
clusters (`ChainWalk.result_iterate_congr`). -/
theorem extract_congr (hplaced : chain.PlacedBy answer place)
    (hplaced' : other.PlacedBy answer place) (hsize : chain.clusterSize = other.clusterSize)
    (hvalid : chain.isValid = other.isValid)
    (hfirst : chain.first.result answer = other.first.result answer)
    (hnext : ∀ index, index + 1 < ceilDiv length chain.clusterSize → ∀ cluster,
      chain.clusterAt answer index = .ok cluster →
        (chain.next cluster).result answer = (other.next cluster).result answer) :
    (extract chain length base).result answer = (extract other length base).result answer := by
  rw [extract, extract, ← hsize, ← hvalid]
  split
  · rfl
  · rw [Inquiry.bind_eq, Inquiry.bind_eq, Inquiry.result_bind, Inquiry.result_bind, ← hfirst]
    cases hat : chain.first.result answer with
    | error error => rfl
    | ok cluster =>
      have hwalk (start : ChainWalk) (hstart : start.cluster = cluster) :
          (Inquiry.iterate (ChainWalk.advance chain base) (ceilDiv length chain.clusterSize - 1)
            start).result answer =
            (Inquiry.iterate (ChainWalk.advance other base) (ceilDiv length chain.clusterSize - 1)
              start).result answer := by
        have hat' : chain.clusterAt answer 0 = .ok start.cluster := hstart ▸ hat
        refine ChainWalk.result_iterate_congr hplaced hplaced' hsize hvalid ?_ hat' (Nat.zero_add _).le
        exact fun index hindex => hnext index (by omega)
      dsimp only
      split
      · next hin =>
        split
        · rfl
        · rw [Inquiry.bind_eq, Inquiry.bind_eq, Inquiry.result_bind, Inquiry.result_bind,
            hplaced cluster hin, hplaced' cluster (hvalid ▸ hin)]
          dsimp only
          rw [Inquiry.bind_eq, Inquiry.bind_eq, Inquiry.result_bind, Inquiry.result_bind]
          rw [hwalk _ rfl]
      · rfl

end Congr

/-! ### What is read of a row -/

/-- The neighbours of a cluster are counted one by one. -/
lemma add_toUInt32_succ (first : ClusterId) (index : Nat) :
    first + (index + 1).toUInt32 = first + index.toUInt32 + 1 := by
  have hsucc : (index + 1).toUInt32 = index.toUInt32 + 1 := UInt32.ofNat_add index 1
  rw [hsucc, UInt32.add_assoc]

namespace Geometry

variable {geometry : Geometry} {answer : Inquiry.Respondent Sectors VolumeError}
  {first cluster : ClusterId} {count : Nat}

/-- A neighbour in the heap has the next number. -/
lemma toNat_succ_of_isValid (h : geometry.isValid (cluster + 1) = true) :
    (cluster + 1).toNat = cluster.toNat + 1 := by
  have hpos : 2 ≤ (cluster + 1).toNat := (isValid_iff.1 h).1
  rw [UInt32.toNat_add] at hpos ⊢
  have hone : (1 : UInt32).toNat = 1 := rfl
  have := cluster.toNat_lt
  omega

/-- The table leads through a row of `count` neighbours: the entry of each one but the last is the
number of the next. -/
def TableFollows (geometry : Geometry) (answer : Inquiry.Respondent Sectors VolumeError)
    (first : ClusterId) (count : Nat) : Prop :=
  ∀ index, index + 1 < count →
    (geometry.fatEntry (first + index.toUInt32)).result answer =
      .ok (first + index.toUInt32 + 1)

/-- What the table leads through from a cluster on, it leads through from the next one on. -/
lemma TableFollows.tail (h : geometry.TableFollows answer first (count + 1)) :
    geometry.TableFollows answer (first + 1) count := by
  intro index hindex
  have hnext := h (index + 1) (Nat.succ_lt_succ hindex)
  rw [add_toUInt32_succ] at hnext
  rwa [UInt32.add_assoc, UInt32.add_comm 1, ← UInt32.add_assoc]

/-- **What is read of a row is what the table tells**, if the last cluster has a number that the
table may name, and an entry with a meaning.

**Proof sketch.** Induction on the number of clusters. A cluster outside the heap ends both walks.
From any other one but the last, both go on to the neighbour. From the last, the walk along the
table is over or would go on, which the limit keeps it from. -/
theorem result_followChain_row (h : geometry.TableFollows answer first count)
    (hmax : first.toNat + (count - 1) ≤ FatEntry.maxCluster.toNat)
    (hlast : geometry.Says answer (first + (count - 1).toUInt32) .last ∨
      ∃ next, geometry.Says answer (first + (count - 1).toUInt32) (.next next)) :
    (geometry.followChain true count first []).result answer =
      (geometry.followChain false count first []).result answer := by
  have hbound : FatEntry.maxCluster.toNat = 0xFFFFFFF6 := rfl
  induction count generalizing first with
  | zero => rfl
  | succ count ih =>
    have hfirst : first + Nat.toUInt32 0 = first := UInt32.add_zero first
    cases hvalid : geometry.isValid first with
    | false =>
      rw [result_followChain_of_stopsAt count (.outside hvalid),
        result_followChain_of_stopsAt count (.outside hvalid)]
    | true =>
      have hrow : geometry.LeadsTo answer true first (first + 1) := rfl
      rw [result_followChain_of_leadsTo count hvalid hrow]
      cases count with
      | zero =>
        rw [Nat.zero_add, Nat.sub_self, hfirst] at hlast
        rcases hlast with hlast | ⟨next, hnext⟩
        · rw [result_followChain_of_last 0 hvalid hlast]
          rfl
        · have hchained : geometry.LeadsTo answer false first next := hnext
          rw [result_followChain_of_leadsTo 0 hvalid hchained]
          rfl
      | succ count =>
        have hnumber : (first + 1).toNat = first.toNat + 1 := by
          rw [UInt32.toNat_add]
          exact Nat.mod_eq_of_lt (show first.toNat + 1 < 2 ^ 32 by omega)
        have hchained : geometry.LeadsTo answer false first (first + 1) := by
          have hentry := h 0 (by omega)
          rw [hfirst] at hentry
          have hbounds := (isValid_iff.1 hvalid).1
          refine says_next_iff.2 ⟨hentry, ?_⟩
          show firstCluster ≤ first + 1 ∧ first + 1 ≤ FatEntry.maxCluster
          rw [UInt32.le_iff_toNat_le, UInt32.le_iff_toNat_le, hnumber]
          omega
        have hshift : first + (count + 1 + 1 - 1).toUInt32 =
            first + 1 + (count + 1 - 1).toUInt32 := by
          rw [Nat.add_sub_cancel, Nat.add_sub_cancel, add_toUInt32_succ, UInt32.add_assoc,
            UInt32.add_comm _ 1, ← UInt32.add_assoc]
        rw [hshift] at hlast
        rw [result_followChain_of_leadsTo _ hvalid hchained, ih h.tail (by omega) hlast]

end Geometry

/-! ### Rows of a volume -/

namespace Volume

variable {volume : Volume} {node : Node} {length base : Nat}

/-- In a row, the clusters are counted from the first one on. -/
lemma clusterAt_row (volume : Volume) (hrow : node.isContiguous = true)
    (answer : Inquiry.Respondent Sectors Error) (index : Nat) :
    (volume.chain node).clusterAt answer index = .ok (node.firstCluster + index.toUInt32) := by
  have hnext (cluster : ClusterId) :
      ((volume.chain node).next cluster).result answer = .ok (cluster + 1) := by
    simp [chain, nextCluster, hrow, Inquiry.mapError, Inquiry.result]
  induction index with
  | zero => exact congrArg Except.ok (UInt32.add_zero node.firstCluster).symm
  | succ index ih => rw [ClusterChain.clusterAt_succ ih, hnext, add_toUInt32_succ]

/-- A row is mapped without asking. -/
lemma asksNothing_extract_row (volume : Volume) (hrow : node.isContiguous = true)
    (length base : Nat) : (extract (volume.chain node) length base).AsksNothing := by
  have hnext (cluster : ClusterId) : ((volume.chain node).next cluster).AsksNothing := by
    simp [chain, nextCluster, hrow, Inquiry.mapError, Inquiry.AsksNothing]
  exact asksNothing_extract (show (volume.chain node).first.AsksNothing from trivial) hnext
    (fun _ => trivial) length base

/-- **A row has the regions that the table leads to**, where it leads through the row. -/
theorem result_extract_row {answer : Inquiry.Respondent Sectors VolumeError} {row chained : Node}
    (hrow : row.isContiguous = true) (hchained : chained.isContiguous = false)
    (hfirst : row.firstCluster = chained.firstCluster)
    (hfollows : volume.geometry.TableFollows answer row.firstCluster
      (ceilDiv length volume.geometry.clusterSize)) :
    (extract (volume.chain row) length base).result
        (fun address => (answer address).mapError .volume) =
      (extract (volume.chain chained) length base).result
        (fun address => (answer address).mapError .volume) := by
  refine extract_congr (volume.placedBy_chain row _) (volume.placedBy_chain chained _) rfl rfl
    (congrArg Except.ok hfirst) fun index hindex cluster hat => ?_
  rw [volume.clusterAt_row hrow] at hat
  obtain rfl := Except.ok.inj hat
  have hentry := hfollows index hindex
  simp only [chain, nextCluster, hrow, hchained, if_true, if_neg Bool.false_ne_true,
    Inquiry.result_mapError, hentry]
  rfl

/-- **A row has one region**, from where its first cluster lies.

**Proof sketch.** The regions are those of the row's clusters
(`ClusterChain.exists_rows_of_extract`). All are in the heap, so each one lies behind the one before
it. -/
theorem regions_of_row {answer : Inquiry.Respondent Sectors Error} {list : RegionList}
    (hrow : node.isContiguous = true) (hpos : 0 < length)
    (hresult : (extract (volume.chain node) length base).result answer = .ok list) :
    list = .ofRegions
      [.ofExtent 0 (.onDisk base (volume.geometry.clusterOffset node.firstCluster) length)] := by
  have hplaced := volume.placedBy_chain node answer
  have hsize : 0 < (volume.chain node).clusterSize := volume.geometry.clusterSize_pos
  obtain ⟨clusters, hlength, hsound, -⟩ :=
    ClusterChain.exists_rows_of_extract hplaced hsize hresult
  have hcluster (index : Nat) (hindex : index < clusters.length) :
      clusters[index] = node.firstCluster + index.toUInt32 := by
    have hat := hsound.begins index hindex
    rw [volume.clusterAt_row hrow] at hat
    exact (Except.ok.inj hat).symm
  have hhead : clusters.head? = some node.firstCluster := by
    have hcount : 0 < clusters.length := hlength ▸ (lt_ceilDiv hsize 0 length).2 (by simpa)
    rw [List.head?_eq_getElem?, List.getElem?_eq_getElem hcount, hcluster]
    exact congrArg some (UInt32.add_zero node.firstCluster)
  have hbehind : clusters.IsChain fun member next => volume.geometry.clusterOffset member +
      (volume.chain node).clusterSize = volume.geometry.clusterOffset next := by
    refine List.isChain_iff_getElem.2 fun index hindex => ?_
    have hvalid := hsound.valid _ (List.getElem_mem (Nat.lt_of_succ_lt hindex))
    have hnext := hsound.valid _ (List.getElem_mem hindex)
    rw [hcluster _ hindex, add_toUInt32_succ, ← hcluster _ (Nat.lt_of_succ_lt hindex)] at hnext ⊢
    exact (Geometry.clusterOffset_next hvalid (Geometry.toNat_succ_of_isValid hnext)).symm
  exact Except.ok.inj (hresult.symm.trans
    (result_extract_of_row hplaced hsize hpos hhead hlength hsound.begins hsound.valid hbehind))

end Volume

/-- **A row agrees with the table that leads through it.** Mapped with the mark and without it, a
file has the same regions, or the same error. What is read of it is the same too, if the last
cluster has a number that the table may name, and an entry with a meaning. With the mark, nothing is
asked to map the file, whatever the table says, and it has one region. -/
theorem row_agrees_with_table (volume : Volume) (node : Node) (length base : Nat)
    (hpos : 0 < length) :
    let row : Node := { node with isContiguous := true }
    let chained : Node := { node with isContiguous := false }
    let count := ceilDiv length volume.geometry.clusterSize
    let lastCluster := node.firstCluster + (count - 1).toUInt32
    (∀ answer : Inquiry.Respondent Sectors VolumeError,
      volume.geometry.TableFollows answer node.firstCluster count →
        (extract (volume.chain row) length base).result
            (fun address => (answer address).mapError .volume) =
          (extract (volume.chain chained) length base).result
            (fun address => (answer address).mapError .volume) ∧
        (node.firstCluster.toNat + (count - 1) ≤ FatEntry.maxCluster.toNat →
          (volume.geometry.Says answer lastCluster .last ∨
            ∃ next, volume.geometry.Says answer lastCluster (.next next)) →
          (volume.geometry.readChain node.firstCluster true (some length)).result answer =
            (volume.geometry.readChain node.firstCluster false (some length)).result answer)) ∧
    (∀ answer other, (extract (volume.chain row) length base).asked answer = [] ∧
      (extract (volume.chain row) length base).result answer =
        (extract (volume.chain row) length base).result other) ∧
    ∀ answer list, (extract (volume.chain row) length base).result answer = .ok list →
      ∃ region, list.regions = [region] ∧ region.imageStart = 0 ∧
        (ceilDiv length imageUnitSize < 2 ^ 32 →
          region.imageCount.toNat = ceilDiv length imageUnitSize) ∧
        (diskUnitSize ∣ base → base + volume.geometry.clusterOffset node.firstCluster < 2 ^ 64 →
          region.diskStart.toNat * diskUnitSize =
            base + volume.geometry.clusterOffset node.firstCluster) := by
  intro row chained count lastCluster
  refine ⟨fun answer hfollows => ⟨?_, fun hmax hlast => ?_⟩, fun answer other => ?_,
    fun answer list hresult => ?_⟩
  · exact Volume.result_extract_row rfl rfl rfl hfollows
  · exact Geometry.result_followChain_row hfollows hmax hlast
  · have hrow : row.isContiguous = true := rfl
    have hsilent := volume.asksNothing_extract_row hrow length base
    exact ⟨hsilent.asked_eq_nil answer, hsilent.result_eq answer other⟩
  · obtain rfl := Volume.regions_of_row rfl hpos hresult
    refine ⟨_, rfl, rfl, fun hunits => Region.toNat_imageCount_ofExtent 0 hunits,
      fun hbase hlt => ?_⟩
    have hplace := Nat.dvd_trans volume.geometry.diskUnitSize_dvd_sectorSize
      (volume.geometry.sectorSize_dvd_clusterOffset node.firstCluster)
    have hstart : (Extent.onDisk base (volume.geometry.clusterOffset node.firstCluster)
        length).start = base + volume.geometry.clusterOffset node.firstCluster :=
      Nat.mod_eq_of_lt hlt
    have hunit := Region.toNat_diskStart_ofExtent 0 ((Nat.div_le_self _ _).trans_lt (hstart ▸ hlt))
    rw [hunit, hstart]
    exact Nat.div_mul_cancel (Nat.dvd_add hbase hplace)

/-- A file of two clusters, from the first one of the heap to the second one, where the table has
the end mark. -/
theorem row_agrees_with_table_two_clusters :
    let answer : Inquiry.Respondent Sectors VolumeError := fun _ =>
      .ok ⟨#[0, 0, 0, 0, 0, 0, 0, 0, 3, 0, 0, 0, 0xFF, 0xFF, 0xFF, 0xFF]⟩
    (extract (endedVolume.chain endedNode) 4096 0).result
        (fun address => (answer address).mapError .volume) = .ok (.ofRegions [⟨0, 2, 2⟩]) ∧
      (endedVolume.geometry.readChain 2 false (some 4096)).result answer = .ok [2, 3] := by
  intro answer
  obtain ⟨hagree, -, -⟩ := row_agrees_with_table endedVolume endedNode 4096 0 (by decide)
  have hfollows : endedVolume.geometry.TableFollows answer 2 2 := by
    intro index hindex
    obtain rfl : index = 0 := by omega
    rfl
  obtain ⟨hmapped, hread⟩ := hagree answer hfollows
  refine ⟨hmapped.symm.trans rfl, (hread (by decide) (.inl ?_)).symm.trans rfl⟩
  exact ⟨0xFFFFFFFF, rfl, by decide⟩

end BootExtents
