import BootExtents.Proofs.Disk.Choice
import Mathlib

/-!
# What the choice of a disk does not depend on

A machine may list its devices in any order, and among them some that can never hold the image. The
order does not matter for which disk is chosen, or for how many disks cannot be told apart. Hidden
names, ramdisks, loop devices, mapped devices and optical drives do not matter at all: they change
neither the choice nor the calls made for it, as they are never asked.

## Main definitions

* `BootExtents.Disk.SameReadings` — two machines tell the same of a device.
* `BootExtents.Disk.AddsIneligible` — a list of names with ineligible ones put in.

## Main results

* `BootExtents.Disk.isEligible_eq_false_iff` — which names are ineligible.
* `BootExtents.Disk.AddsIneligible.filter_isEligible` — such names leave the eligible ones as they
  are.
* `BootExtents.Disk.candidates_perm`, `candidates_congr` — the candidates of two machines.
* `BootExtents.Disk.resolve_order_and_ineligible_irrelevant` — the choice depends neither on the
  order of the names nor on ineligible ones.
-/

set_option relaxedAutoImplicit false
set_option autoImplicit false

namespace BootExtents.Disk

variable {I J : Interface} {names more : List String}

/-! ### Ineligible names -/

/-- A name is ineligible if it is hidden, or starts as those of ramdisks, loop devices, mapped
devices and optical drives do. -/
theorem isEligible_eq_false_iff {name : String} : isEligible name = false ↔
    ∃ start ∈ [".", "ram", "loop", "dm-", "sr"], start.toList <+: name.toList := by
  simp only [isEligible, excludedStarts, Bool.not_eq_false', List.any_eq_true,
    List.isPrefixOf_iff_prefix]

/-- A list of names with ineligible ones put in, anywhere and any number of them. -/
inductive AddsIneligible : List String → List String → Prop where
  /-- Nothing is added to no names. -/
  | nil : AddsIneligible [] []
  /-- A name that is listed stays. -/
  | keep (name : String) {names more : List String} (h : AddsIneligible names more) :
      AddsIneligible (name :: names) (name :: more)
  /-- An ineligible name is put in. -/
  | insert {start name : String} (hstart : start ∈ [".", "ram", "loop", "dm-", "sr"])
      (hname : start.toList <+: name.toList) {names more : List String}
      (h : AddsIneligible names more) : AddsIneligible names (name :: more)

/-- Ineligible names leave the eligible ones as they are. -/
theorem AddsIneligible.filter_isEligible (h : AddsIneligible names more) :
    more.filter isEligible = names.filter isEligible := by
  induction h with
  | nil => rfl
  | keep name h ih => rw [List.filter_cons, List.filter_cons, ih]
  | insert hstart hname h ih =>
    have hineligible := isEligible_eq_false_iff.2 ⟨_, hstart, hname⟩
    rw [List.filter_cons_of_neg (by simp [hineligible]), ih]

/-! ### Two machines -/

section Machines

variable {record : Record} {devices : BlockDevices I} {devices' : BlockDevices J}
  {answer : (question : I.Question) → I.Answer question}
  {answer' : (question : J.Question) → J.Answer question}

/-- Two machines tell the same of a device. -/
structure SameReadings (devices : BlockDevices I) (devices' : BlockDevices J)
    (answer : (question : I.Question) → I.Answer question)
    (answer' : (question : J.Question) → J.Answer question) (name : String) : Prop where
  size : devices.readSize answer name = devices'.readSize answer' name
  identity : devices.readIdentity answer name = devices'.readIdentity answer' name

/-- Machines with the same readings have the same devices of a size. -/
lemma ofSize_congr (h : ∀ name ∈ names, SameReadings devices devices' answer answer' name) :
    devices.ofSize answer record names = devices'.ofSize answer' record names :=
  List.filter_congr fun name hname => by rw [(h name hname).size]

/-- Machines with the same readings have the same devices of an identity. -/
lemma ofIdentity_congr (h : ∀ name ∈ names, SameReadings devices devices' answer answer' name) :
    devices.ofIdentity answer record names = devices'.ofIdentity answer' record names :=
  List.filter_congr fun name hname => by rw [(h name hname).identity]

/-- Machines with the same eligible devices have the same candidates. -/
lemma candidates_congr (hnames : names.filter isEligible = more.filter isEligible)
    (h : ∀ name, isEligible name = true → SameReadings devices devices' answer answer' name) :
    candidates record devices answer names = candidates record devices' answer' more := by
  have hsized : devices.ofSize answer record (names.filter isEligible) =
      devices'.ofSize answer' record (more.filter isEligible) := by
    rw [← hnames]
    exact ofSize_congr fun name hname => h name (List.mem_filter.1 hname).2
  rw [candidates, candidates, hsized, hnames]

/-- Names in another order have the same candidates in another order.

**Proof sketch.** As many names have the right size. If it is one, it is the same one; otherwise the
candidates are all eligible names. -/
lemma candidates_perm (hperm : names.Perm more) :
    (candidates record devices answer names).Perm (candidates record devices answer more) := by
  have heligible := hperm.filter isEligible
  have hsized : (devices.ofSize answer record (names.filter isEligible)).Perm
      (devices.ofSize answer record (more.filter isEligible)) := heligible.filter _
  rw [candidates, candidates, hsized.length_eq]
  split_ifs with hone
  · exact hsized
  · exact heligible

/-- The only name of a list is that of the list in another order. -/
lemma only_eq_of_perm (hperm : names.Perm more) : only names = only more := by
  have hlength := hperm.length_eq
  rcases names with _ | ⟨first, _ | ⟨second, names⟩⟩
  · rw [hperm.nil_eq]
  · rw [hperm.singleton_eq]
  · rcases more with _ | ⟨first', _ | ⟨second', more⟩⟩
    · simp at hlength
    · simp at hlength
    · show Except.error (Error.diskAmbiguous _) = Except.error (Error.diskAmbiguous _)
      rw [hlength]

/-- Only eligible devices are asked. -/
lemma isEligible_of_mem_calls {call : DeviceCall} {name : String}
    (hcall : call ∈ calls record devices answer) (hname : name ∈ call.device?) :
    isEligible name = true := by
  rw [calls_eq, List.mem_cons] at hcall
  rcases hcall with rfl | hcall
  · cases hname
  · cases hnames : devices.readNames answer with
    | error error =>
      rw [hnames] at hcall
      cases hcall
    | ok names =>
      rw [hnames] at hcall
      rcases List.mem_append.1 hcall with hsize | hidentity
      · obtain ⟨other, hother, rfl⟩ := List.mem_map.1 hsize
        cases hname
        exact (List.mem_filter.1 hother).2
      · obtain ⟨other, hother, rfl⟩ := List.mem_map.1 hidentity
        cases hname
        exact (of_mem_candidates hother).2

end Machines

/-- **Neither the order of the names nor ineligible ones matter.** Two machines that list the same
names in any order, and tell the same of each device, have the same result, be it a disk or a
failure. Two machines that differ in ineligible names only, and tell the same of all others, even
have the same calls; no ineligible device is ever asked. -/
theorem resolve_order_and_ineligible_irrelevant (record : Record) (devices : BlockDevices I)
    (devices' : BlockDevices J) (answer : (question : I.Question) → I.Answer question)
    (answer' : (question : J.Question) → J.Answer question)
    (hnames : devices.readNames answer = .ok names)
    (hnames' : devices'.readNames answer' = .ok more) :
    (names.Perm more → (∀ name, SameReadings devices devices' answer answer' name) →
      (resolve record devices).result (.willing answer) =
        (resolve record devices').result (.willing answer')) ∧
    (AddsIneligible names more →
      (∀ name, isEligible name = true → SameReadings devices devices' answer answer' name) →
        (resolve record devices).result (.willing answer) =
          (resolve record devices').result (.willing answer') ∧
        calls record devices answer = calls record devices' answer') ∧
    ∀ call ∈ calls record devices answer, ∀ name ∈ call.device?, isEligible name = true := by
  rw [result_resolve_of_ok hnames, result_resolve_of_ok hnames', calls_of_ok hnames,
    calls_of_ok hnames']
  refine ⟨fun hperm hsame => ?_, fun hadds hsame => ?_, ?_⟩
  · have hcandidates : candidates record devices answer more =
        candidates record devices' answer' more :=
      candidates_congr rfl fun name _ => hsame name
    rw [← hcandidates, ← ofIdentity_congr fun name _ => hsame name]
    exact only_eq_of_perm ((candidates_perm hperm).filter _)
  · have heligible := hadds.filter_isEligible
    have hcandidates : candidates record devices answer names =
        candidates record devices' answer' more :=
      candidates_congr heligible.symm hsame
    rw [← hcandidates, heligible]
    refine ⟨?_, rfl⟩
    rw [ofIdentity_congr fun name hname => hsame name (of_mem_candidates hname).2]
  · rw [← calls_of_ok hnames]
    exact fun call hcall name hname => isEligible_of_mem_calls hcall hname

/-- Two disks of the same size and identity cannot be told apart, in whichever order they are
listed, and a loop device between them is not asked. -/
theorem resolve_order_and_ineligible_irrelevant_two_disks :
    let record := Record.create (Vector.replicate 16 7) 1024 1 .exfat "/a" 0
    let told (listed : List String) : (call : DeviceCall) → DeviceCalls.Answer call
      | .names => .ok listed
      | .size _ => .ok 1024
      | .identity _ => .ok (Vector.replicate 16 7)
    (resolve record .remote).result (.willing (told ["sdb", "sda"])) =
        .error (.diskAmbiguous 2) ∧
      (resolve record .remote).result (.willing (told ["sda", "loop0", "sdb"])) =
        .error (.diskAmbiguous 2) ∧
      calls record .remote (told ["sda", "loop0", "sdb"]) =
        [.names, .size "sda", .size "sdb", .identity "sda", .identity "sdb"] := by
  intro record told
  have hsame : ∀ listed name,
      SameReadings .remote .remote (told ["sda", "sdb"]) (told listed) name :=
    fun _ _ => ⟨rfl, rfl⟩
  have hfirst : (resolve record .remote).result (.willing (told ["sda", "sdb"])) =
      .error (.diskAmbiguous 2) := by decide
  have hswapped := (resolve_order_and_ineligible_irrelevant record .remote .remote
    (told ["sda", "sdb"]) (told ["sdb", "sda"]) rfl rfl).1 (.swap ..) (hsame _)
  have hadds : AddsIneligible ["sda", "sdb"] ["sda", "loop0", "sdb"] :=
    .keep _ (@AddsIneligible.insert "loop" _ (by decide) (by decide) _ _ (.keep _ .nil))
  obtain ⟨hadded, hcalls⟩ := (resolve_order_and_ineligible_irrelevant record .remote .remote
    (told ["sda", "sdb"]) (told ["sda", "loop0", "sdb"]) rfl rfl).2.1 hadds fun _ _ => hsame _ _
  exact ⟨hswapped.symm.trans hfirst, hadded.symm.trans hfirst, hcalls.symm.trans (by decide)⟩

end BootExtents.Disk
