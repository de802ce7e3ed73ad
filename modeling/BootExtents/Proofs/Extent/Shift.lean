import BootExtents.Proofs.Extent.Faults
import Mathlib

/-!
# Extraction on a disk further on

Where a volume starts on its disk enters an extraction at every cluster: into what counts as a
neighbour, into the disk units of the regions and into how regions grow together. Still, with the
volume some disk units further on, the regions are those of a volume at the start of the disk, just
as many units further on, as long as no byte of the disk is beyond 64 bits.

## Main definitions

* `BootExtents.EndAlike` — two runs end with one error, or with values that are related.
* `BootExtents.Region.shift`, `RegionList.shift`, `ExtentFold.shift` — the same regions and extents,
  further on.
* `BootExtents.ClusterChain.HasRoom` — no place that an extraction is told of is beyond 64 bits.

## Main results

* `BootExtents.RegionBuilder.push_shift`, `ExtentFold.add_shift` — a piece further on.
* `BootExtents.ChainWalk.Moved.advance` — what one step preserves.
* `BootExtents.ChainWalk.Moved.iterate` — what a whole run preserves.
* `BootExtents.endAlike_extract` — the same extraction, further on.
* `BootExtents.extract_mod` — where the volume starts is told with 64 bits.
-/

set_option relaxedAutoImplicit false
set_option autoImplicit false

namespace BootExtents

/-! ### Runs that end alike -/

/-- Two runs end with one error, or with values that are related. -/
inductive EndAlike {ε α β : Type} (related : α → β → Prop) : Except ε α → Except ε β → Prop where
  /-- Both have a value. -/
  | ok {value : α} {other : β} (h : related value other) : EndAlike related (.ok value) (.ok other)
  /-- Both fail. -/
  | error (error : ε) : EndAlike related (.error error) (.error error)

namespace EndAlike

variable {I J : Interface} {ε α β γ δ : Type}

/-- Every run ends like itself. -/
lemma refl (outcome : Except ε α) : EndAlike Eq outcome outcome := by
  cases outcome with
  | ok value => exact .ok rfl
  | error error => exact .error error

/-- Outcomes that end alike end alike in any wider sense. -/
lemma mono {related related' : α → β → Prop} {outcome : Except ε α} {other : Except ε β}
    (h : EndAlike related outcome other)
    (hmono : ∀ value value', related value value' → related' value value') :
    EndAlike related' outcome other := by
  cases h with
  | ok h => exact .ok (hmono _ _ h)
  | error error => exact .error error

/-- Two runs that end alike to a third one are related through it. -/
lemma common {related : α → β → Prop} {related' : α → γ → Prop} {outcome : Except ε α}
    {other : Except ε β} {other' : Except ε γ} (h : EndAlike related outcome other)
    (h' : EndAlike related' outcome other') :
    EndAlike (fun second third => ∃ first, related first second ∧ related' first third)
      other other' := by
  cases h with
  | ok h =>
    cases h' with
    | ok h' => exact .ok ⟨_, h, h'⟩
  | error error =>
    cases h' with
    | error => exact .error error

/-- What follows runs that end alike ends alike, if it does so for related values. -/
lemma bind {answer : Inquiry.Respondent I ε} {answer' : Inquiry.Respondent J ε}
    {inquiry : Inquiry I ε α} {inquiry' : Inquiry J ε β} {next : α → Inquiry I ε γ}
    {next' : β → Inquiry J ε δ} {related : α → β → Prop} {related' : γ → δ → Prop}
    (h : EndAlike related (inquiry.result answer) (inquiry'.result answer'))
    (hnext : ∀ value other, inquiry'.result answer' = .ok other → related value other →
      EndAlike related' ((next value).result answer) ((next' other).result answer')) :
    EndAlike related' ((inquiry.bind next).result answer)
      ((inquiry'.bind next').result answer') := by
  rw [Inquiry.result_bind, Inquiry.result_bind]
  generalize inquiry.result answer = outcome at h ⊢
  generalize inquiry'.result answer' = outcome' at h hnext ⊢
  cases h with
  | ok h => exact hnext _ _ rfl h
  | error error => exact .error error

end EndAlike

/-! ### Regions further on -/

/-- The same region, some disk units further on. -/
def Region.shift (units : Nat) (region : Region) : Region :=
  { region with diskStart := region.diskStart + units.toUInt64 }

/-- A region can be so many disk units further on. -/
def Region.HasRoom (units : Nat) (region : Region) : Prop :=
  region.diskStart.toNat + units < 2 ^ 64

/-- With room for it, a region is moved by just as many units. -/
lemma Region.HasRoom.toNat_diskStart_shift {units : Nat} {region : Region}
    (h : region.HasRoom units) :
    (region.shift units).diskStart.toNat = region.diskStart.toNat + units := by
  unfold HasRoom at h
  simp only [shift, Nat.toUInt64, UInt64.toNat_add, UInt64.toNat_ofNat']
  omega

/-- The same list, its regions further on. -/
def RegionList.shift (units : Nat) (list : RegionList) : RegionList :=
  { list with regions := list.regions.map (Region.shift units) }

/-- The same extent, some disk units further on. -/
def Extent.shift (units : Nat) (extent : Extent) : Extent :=
  ⟨units * diskUnitSize + extent.start, extent.size⟩

/-- Bytes of a volume further on are the same bytes, further on, if they start within 64 bits. -/
lemma Extent.onDisk_eq_shift {units offset size : Nat}
    (h : units * diskUnitSize + offset < 2 ^ 64) :
    Extent.onDisk (units * diskUnitSize) offset size =
      (Extent.onDisk 0 offset size).shift units := by
  simp only [onDisk_eq, shift, Extent.mk.injEq, and_true]
  omega

namespace RegionBuilder

variable {units offset size : Nat} {builder : RegionBuilder}

/-- The same regions so far, further on. -/
def shift (units : Nat) (builder : RegionBuilder) : RegionBuilder :=
  { builder with newestFirst := builder.newestFirst.map (Region.shift units) }

/-- The regions so far can be so many disk units further on. -/
def HasRoom (units : Nat) (builder : RegionBuilder) : Prop :=
  ∀ region ∈ builder.newestFirst, region.HasRoom units

/-- A builder without regions has room for any move. -/
lemma hasRoom_empty (units : Nat) : empty.HasRoom units := by
  simp [HasRoom, empty]

/-- Regions can be moved before or after they are built. -/
lemma build_shift (units : Nat) (builder : RegionBuilder) :
    (builder.shift units).build = builder.build.shift units := by
  simp [build, shift, RegionList.shift, RegionList.ofRegions]

/-- The disk unit of a byte further on. -/
lemma shift_div (units offset : Nat) :
    (units * diskUnitSize + offset) / diskUnitSize = offset / diskUnitSize + units := by
  rw [Nat.mul_comm, Nat.mul_add_div diskUnitSize_pos, Nat.add_comm]

/-- An extent further on is added as it would be, further on: it touches the last region exactly if
it did so before, since both have moved. -/
lemma push_shift (h : builder.HasRoom units) :
    (builder.shift units).push (units * diskUnitSize + offset) size =
      (builder.push offset size).shift units := by
  obtain ⟨newestFirst, imageUnits⟩ := builder
  unfold push
  by_cases hsize : size = 0
  · rw [if_pos hsize, if_pos hsize]
  rw [if_neg hsize, if_neg hsize]
  have hstart : (offset / diskUnitSize + units).toUInt64 =
      (offset / diskUnitSize).toUInt64 + units.toUInt64 := UInt64.ofNat_add _ _
  dsimp only
  rw [shift_div, hstart]
  cases newestFirst with
  | nil => rfl
  | cons last older =>
    have hlast := (h last (List.mem_cons_self ..)).toNat_diskStart_shift
    have hcount : (last.shift units).imageCount = last.imageCount := rfl
    simp only [shift, List.map_cons, hlast, hcount]
    by_cases htouch : last.diskStart.toNat + last.imageCount.toNat * unitsPerImageUnit =
        offset / diskUnitSize
    · rw [if_pos htouch, if_pos (by omega)]
      rfl
    · rw [if_neg htouch, if_neg (by omega)]
      rfl

/-- With one more extent that has room, there still is room. -/
lemma HasRoom.push (h : builder.HasRoom units) (hoffset : units * diskUnitSize + offset < 2 ^ 64)
    (size : Nat) : (builder.push offset size).HasRoom units := by
  have hadded : (offset / diskUnitSize).toUInt64.toNat + units < 2 ^ 64 := by
    have hle := Nat.div_le_self (units * diskUnitSize + offset) diskUnitSize
    rw [shift_div] at hle
    rw [Nat.toUInt64, UInt64.toNat_ofNat', Nat.mod_eq_of_lt (by omega)]
    omega
  obtain ⟨newestFirst, imageUnits⟩ := builder
  unfold RegionBuilder.push
  by_cases hsize : size = 0
  · rwa [if_pos hsize]
  rw [if_neg hsize]
  cases newestFirst with
  | nil => simpa [HasRoom, Region.HasRoom] using hadded
  | cons last older =>
    obtain ⟨hlast, holder⟩ := List.forall_mem_cons.1 h
    dsimp only
    split
    · exact List.forall_mem_cons.2 ⟨hlast, holder⟩
    · exact List.forall_mem_cons.2 ⟨hadded, h⟩

end RegionBuilder

/-! ### The fold further on -/

namespace ExtentFold

variable {units : Nat} {fold next : ExtentFold} {piece : Extent}

/-- The same fold, further on. -/
def shift (units : Nat) (fold : ExtentFold) : ExtentFold :=
  ⟨fold.builder.shift units, fold.pending.shift units⟩

/-- What was found so far can be so many disk units further on. -/
structure HasRoom (units : Nat) (fold : ExtentFold) : Prop where
  builder : fold.builder.HasRoom units
  pending : units * diskUnitSize + fold.pending.start < 2 ^ 64

/-- A piece further on is taken in as it would be, further on, or ends with the same extent.

**Proof sketch.** The piece continues the pending extent further on exactly if it did so before:
both have moved by as much, and the piece starts within 64 bits on either disk. -/
lemma add_shift (h : fold.HasRoom units) (piece : Extent)
    (hpiece : units * diskUnitSize + piece.start < 2 ^ 64) :
    (fold.shift units).add (piece.shift units) =
      ((fold.add piece).map (shift units)).mapError (Extent.shift units) := by
  have hstop : (fold.shift units).pending.stop = (piece.shift units).start ↔
      fold.pending.stop = piece.start := by
    simp only [shift, Extent.shift, Extent.stop_eq]
    omega
  have hpush : (fold.shift units).builder.push (fold.shift units).pending.start
      (fold.shift units).pending.size =
      (fold.builder.push fold.pending.start fold.pending.size).shift units :=
    RegionBuilder.push_shift h.builder
  unfold add
  by_cases htouch : fold.pending.stop = piece.start
  · rw [if_pos htouch, if_pos (hstop.2 htouch)]
    rfl
  rw [if_neg htouch, if_neg (mt hstop.1 htouch)]
  have hsize : (fold.shift units).pending.size = fold.pending.size := rfl
  by_cases hwhole : fold.pending.size % imageUnitSize ≠ 0
  · rw [if_pos hwhole, if_pos (hsize ▸ hwhole)]
    rfl
  · rw [if_neg hwhole, if_neg (hsize ▸ hwhole), hpush]
    rfl

/-- With one more piece that has room, there still is room. -/
lemma HasRoom.add (h : fold.HasRoom units) (hpiece : units * diskUnitSize + piece.start < 2 ^ 64)
    (hadd : fold.add piece = .ok next) : next.HasRoom units := by
  unfold ExtentFold.add at hadd
  split_ifs at hadd with htouch hwhole
  · obtain rfl := Except.ok.inj hadd
    exact ⟨h.builder, h.pending⟩
  · obtain rfl := Except.ok.inj hadd
    exact ⟨h.builder.push h.pending _, hpiece⟩

/-- A fold can be moved before or after it is finished. -/
lemma finish_shift (h : fold.HasRoom units) :
    (fold.shift units).finish = fold.finish.shift units := by
  have hpush : (fold.shift units).builder.push (fold.shift units).pending.start
      (fold.shift units).pending.size =
      (fold.builder.push fold.pending.start fold.pending.size).shift units :=
    RegionBuilder.push_shift h.builder
  rw [finish, finish, hpush, RegionBuilder.build_shift]

/-- Where a fold has room for a move, its regions have. -/
lemma HasRoom.finish (h : fold.HasRoom units) :
    ∀ region ∈ fold.finish.regions, region.HasRoom units := by
  intro region hregion
  rw [ExtentFold.finish, RegionBuilder.build, RegionList.ofRegions, List.mem_reverse] at hregion
  exact h.builder.push h.pending _ region hregion

end ExtentFold

/-! ### The walk further on -/

namespace ClusterChain

/-- The places that are told of in some calls are within 64 bits, `base` bytes further on. -/
def HasRoom (answer : Inquiry.Respondent ChainCalls Error) (base : Nat)
    (calls : List ChainCall) : Prop :=
  ∀ cluster, .offset cluster ∈ calls → ∀ offset, answer (.offset cluster) = .ok offset →
    base + offset < 2 ^ 64

variable {answer : Inquiry.Respondent ChainCalls Error} {base size : Nat}
  {isValid : ClusterId → Bool}

/-- There is room for the calls of one inquiry after another if there is for those of both. -/
lemma hasRoom_bind {α β : Type} {inquiry : Inquiry ChainCalls Error α}
    {next : α → Inquiry ChainCalls Error β}
    (h : HasRoom answer base ((inquiry.bind next).asked answer)) :
    HasRoom answer base (inquiry.asked answer) ∧ ∀ value, inquiry.result answer = .ok value →
      HasRoom answer base ((next value).asked answer) := by
  rw [Inquiry.asked_bind] at h
  refine ⟨fun cluster hcluster => h cluster (List.mem_append_left _ hcluster),
    fun value hvalue cluster hcluster => h cluster (List.mem_append_right _ ?_)⟩
  rwa [hvalue]

/-- The place of a cluster that was asked for has room. -/
lemma HasRoom.place_lt {cluster : ClusterId} {offset : Nat}
    (h : HasRoom answer base (((remote size isValid).offset cluster).asked answer))
    (hoffset : ((remote size isValid).offset cluster).result answer = .ok offset) :
    base + offset < 2 ^ 64 := by
  rw [offset_remote, Inquiry.asked_query] at h
  rw [offset_remote, Inquiry.result_query] at hoffset
  exact h cluster (List.mem_singleton_self _) offset hoffset

end ClusterChain

namespace ChainWalk

open ClusterChain (HasRoom hasRoom_bind)

variable {units size : Nat} {isValid : ClusterId → Bool}
  {answer : Inquiry.Respondent ChainCalls Error} {walk walk' : ChainWalk}

/-- A walk is the same as another one, some disk units further on. -/
structure Moved (units : Nat) (walk walk' : ChainWalk) : Prop where
  eq : walk' = { walk with fold := walk.fold.shift units }
  room : walk.fold.HasRoom units

/-- **One step.** A walk further on visits the same cluster, or fails in the same way.

**Proof sketch.** The chain is asked the same, and answers the same. The place of a valid cluster
is further on, which it has room for, and so is the piece that the fold takes in
(`ExtentFold.add_shift`). -/
theorem Moved.advance (h : Moved units walk walk')
    (hroom : HasRoom answer (units * diskUnitSize)
      ((walk'.advance (.remote size isValid) (units * diskUnitSize)).asked answer)) :
    EndAlike (Moved units) ((walk.advance (.remote size isValid) 0).result answer)
      ((walk'.advance (.remote size isValid) (units * diskUnitSize)).result answer) := by
  obtain ⟨rfl, hfold⟩ := h
  unfold ChainWalk.advance at hroom ⊢
  have hrest := (hasRoom_bind hroom).2
  refine EndAlike.bind (.refl _) fun cluster other hcluster heq => ?_
  subst heq
  have hvisit := hrest cluster hcluster
  by_cases hvalid : (ClusterChain.remote size isValid).isValid cluster = true
  · rw [if_pos hvalid] at hvisit
    rw [if_pos hvalid, if_pos hvalid]
    refine EndAlike.bind (.refl _) fun offset other hoffset heq => ?_
    subst heq
    have hplace := (hasRoom_bind hvisit).1.place_lt hoffset
    have hpiece : units * diskUnitSize + (Extent.onDisk 0 offset (min size walk.left)).start <
        2 ^ 64 := by
      rw [Extent.start_onDisk]
      omega
    rw [ClusterChain.clusterSize_remote, Extent.onDisk_eq_shift hplace,
      ExtentFold.add_shift hfold _ hpiece]
    cases hstep : walk.fold.add (.onDisk 0 offset (min size walk.left)) with
    | ok fold => exact .ok ⟨rfl, hfold.add hpiece hstep⟩
    | error extent => exact .error _
  · rw [if_neg hvalid, if_neg hvalid]
    exact .error _

/-- **A whole run.** In as many steps, a walk further on visits the same clusters, or fails in the
same way.

**Proof sketch.** Induction on `count`: after a step, the walk still is the same, further on
(`Moved.advance`), and the calls of the other steps are among those of the run. -/
theorem Moved.iterate (count : ℕ) (h : Moved units walk walk')
    (hroom : HasRoom answer (units * diskUnitSize) ((Inquiry.iterate
      (ChainWalk.advance (.remote size isValid) (units * diskUnitSize)) count walk').asked
        answer)) :
    EndAlike (Moved units)
      ((Inquiry.iterate (ChainWalk.advance (.remote size isValid) 0) count walk).result answer)
      ((Inquiry.iterate (ChainWalk.advance (.remote size isValid) (units * diskUnitSize)) count
        walk').result answer) := by
  induction count generalizing walk walk' with
  | zero => exact .ok h
  | succ count ih =>
    rw [Inquiry.iterate_succ] at hroom
    rw [Inquiry.iterate_succ, Inquiry.iterate_succ]
    obtain ⟨hstep, hrest⟩ := hasRoom_bind hroom
    exact (h.advance hstep).bind fun next next' hnext hmoved => ih hmoved (hrest next' hnext)

end ChainWalk

/-! ### The extraction further on -/

/-- A list is the same as another one, some disk units further on. -/
structure RegionList.Moved (units : Nat) (list list' : RegionList) : Prop where
  eq : list' = list.shift units
  room : ∀ region ∈ list.regions, region.HasRoom units

/-- No byte of the disk that an extraction works out is beyond 64 bits. -/
def ClusterChain.NoOverflow {I : Interface} (chain : ClusterChain I)
    (answer : Inquiry.Respondent I Error) (length base : Nat) : Prop :=
  HasRoom (fun call => (chain.reply call).result answer) base (chain.calls answer length base)

/-- An extraction asks for the places of valid clusters only, so there is no overflow where all of
them have room. -/
lemma ClusterChain.noOverflow_of_valid {I : Interface} {chain : ClusterChain I}
    {answer : Inquiry.Respondent I Error} {length base : Nat}
    (h : ∀ cluster, chain.isValid cluster = true → ∀ offset,
      (chain.offset cluster).result answer = .ok offset → base + offset < 2 ^ 64) :
    chain.NoOverflow answer length base := by
  intro cluster hcall offset hoffset
  exact h cluster ((asked_extract length base).valid _ hcall cluster rfl) offset hoffset

section Extract

open ClusterChain (HasRoom hasRoom_bind)

variable {I : Interface} {units : Nat}

/-- A remote chain is extracted for two bases alike, up to the move between them. -/
private lemma endAlike_extract_remote {size : Nat} {isValid : ClusterId → Bool}
    {answer : Inquiry.Respondent ChainCalls Error} (length : Nat)
    (hroom : HasRoom answer (units * diskUnitSize)
      ((extract (.remote size isValid) length (units * diskUnitSize)).asked answer)) :
    EndAlike (RegionList.Moved units)
      ((extract (.remote size isValid) length 0).result answer)
      ((extract (.remote size isValid) length (units * diskUnitSize)).result answer) := by
  unfold extract at hroom ⊢
  by_cases hsize : (ClusterChain.remote size isValid).clusterSize = 0
  · rw [if_pos hsize, if_pos hsize]
    exact .error _
  rw [if_neg hsize] at hroom
  rw [if_neg hsize, if_neg hsize]
  have hrest := (hasRoom_bind hroom).2
  refine EndAlike.bind (.refl _) fun cluster other hcluster heq => ?_
  subst heq
  have hvisit := hrest cluster hcluster
  by_cases hvalid : (ClusterChain.remote size isValid).isValid cluster = true
  · rw [if_pos hvalid] at hvisit
    rw [if_pos hvalid, if_pos hvalid]
    by_cases hempty : length = 0
    · rw [if_pos hempty, if_pos hempty]
      exact .ok ⟨rfl, by simp [RegionBuilder.build, RegionBuilder.empty, RegionList.ofRegions]⟩
    rw [if_neg hempty] at hvisit
    rw [if_neg hempty, if_neg hempty]
    obtain ⟨hfirst, hwalk⟩ := hasRoom_bind hvisit
    refine EndAlike.bind (.refl _) fun offset other hoffset heq => ?_
    subst heq
    have hplace := hfirst.place_lt hoffset
    obtain ⟨hsteps, -⟩ := hasRoom_bind (hwalk offset hoffset)
    refine EndAlike.bind (ChainWalk.Moved.iterate _ ⟨?_, ?_⟩ hsteps) ?_
    · rw [Extent.onDisk_eq_shift hplace]
      rfl
    · refine ⟨RegionBuilder.hasRoom_empty units, ?_⟩
      rw [Extent.start_onDisk]
      omega
    · rintro walk _ - ⟨rfl, hfold⟩
      exact .ok ⟨ExtentFold.finish_shift hfold, hfold.finish⟩
  · rw [if_neg hvalid, if_neg hvalid]
    exact .error _

/-- **The same extraction, further on.** On a disk where the volume starts some disk units further
on, an extraction ends with the same regions, as many units further on, or fails in the same way.

**Proof sketch.** The calls to the chain are answered in the same way on both disks
(`extract_eq_interpret`). The first cluster is further on, so the walk is from its start
(`ChainWalk.Moved.iterate`), and so is what it finds in the end. -/
theorem endAlike_extract {chain : ClusterChain I} {answer : Inquiry.Respondent I Error}
    {length : Nat} (h : chain.NoOverflow answer length (units * diskUnitSize)) :
    EndAlike (RegionList.Moved units) ((extract chain length 0).result answer)
      ((extract chain length (units * diskUnitSize)).result answer) := by
  rw [extract_eq_interpret, Inquiry.result_interpret, extract_eq_interpret chain length (_ * _),
    Inquiry.result_interpret]
  exact endAlike_extract_remote length h

end Extract

/-- **An extraction keeps the 64 bits of an address** of where the volume starts.

**Proof sketch.** The start is only ever added to places in the volume, and the sums are kept to 64
bits. -/
theorem extract_mod {I : Interface} (chain : ClusterChain I) (length base : Nat) :
    extract chain length (base % 2 ^ 64) = extract chain length base := by
  have hpiece (offset size : Nat) :
      Extent.onDisk (base % 2 ^ 64) offset size = Extent.onDisk base offset size := by
    rw [Extent.onDisk_eq, Extent.onDisk_eq, Nat.mod_add_mod]
  have hstep : ChainWalk.advance chain (base % 2 ^ 64) = ChainWalk.advance chain base := by
    funext walk
    simp only [ChainWalk.advance, hpiece]
  simp only [extract, hpiece, hstep]

/-! ### Two disks -/

/-- Two regions are of the same image units, so many disk units apart. -/
structure Region.Apart (distance : ℤ) (region other : Region) : Prop where
  imageStart : region.imageStart = other.imageStart
  imageCount : region.imageCount = other.imageCount
  diskStart : (region.diskStart.toNat : ℤ) - other.diskStart.toNat = distance

/-- Two lists have the same number of regions, and each of them is so many disk units from the one
in its place. -/
structure RegionList.Apart (distance : ℤ) (list other : RegionList) : Prop where
  identity : list.identity = other.identity
  imageUnit : list.imageUnit = other.imageUnit
  diskUnit : list.diskUnit = other.diskUnit
  regions : List.Forall₂ (Region.Apart distance) list.regions other.regions

/-- Two moves of one list are apart by their difference. -/
lemma RegionList.Moved.apart {units units' : Nat} {list list' list'' : RegionList}
    (h : Moved units list list') (h' : Moved units' list list'') :
    list'.Apart ((units : ℤ) - units') list'' := by
  obtain ⟨rfl, hroom⟩ := h
  obtain ⟨rfl, hroom'⟩ := h'
  refine ⟨rfl, rfl, rfl, ?_⟩
  refine List.forall₂_map_left_iff.2 (List.forall₂_map_right_iff.2 (List.forall₂_same.2 ?_))
  intro region hregion
  refine ⟨rfl, rfl, ?_⟩
  rw [(hroom region hregion).toNat_diskStart_shift, (hroom' region hregion).toNat_diskStart_shift]
  omega

/-- **Two disks.** On two disks where the volume starts at whole disk units, an extraction ends with
the same regions, as far apart as the starts of the volume, or fails in the same way. -/
theorem endAlike_extract_of_dvd {I : Interface} {chain : ClusterChain I}
    {answer : Inquiry.Respondent I Error} {length base base' : Nat} (hbase : diskUnitSize ∣ base)
    (hbase' : diskUnitSize ∣ base') (h : chain.NoOverflow answer length base)
    (h' : chain.NoOverflow answer length base') :
    EndAlike (RegionList.Apart (((base : ℤ) - base') / diskUnitSize))
      ((extract chain length base).result answer) ((extract chain length base').result answer) := by
  obtain ⟨units, rfl⟩ := exists_eq_mul_left_of_dvd hbase
  obtain ⟨units', rfl⟩ := exists_eq_mul_left_of_dvd hbase'
  have hunits : (((units * diskUnitSize : ℕ) : ℤ) - ((units' * diskUnitSize : ℕ) : ℤ)) /
      diskUnitSize = (units : ℤ) - units' := by
    push_cast
    rw [← Int.sub_mul]
    exact Int.mul_ediv_cancel _ (by decide)
  rw [hunits]
  exact ((endAlike_extract h).common (endAlike_extract h')).mono
    fun _ _ ⟨_, hmoved, hmoved'⟩ => hmoved.apart hmoved'

end BootExtents
