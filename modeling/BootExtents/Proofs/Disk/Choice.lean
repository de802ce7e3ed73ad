import BootExtents.Disk.Resolve
import BootExtents.Inquiry.Lemmas
import Mathlib

/-!
# Which disk is chosen

The devices of a machine are asked for their names, for the size of each eligible one, and then for
some identities: of the only disk that has the size of the record's disk, or of all eligible ones.
To see these calls, the devices are put behind an interface of their own. With the answers fixed,
the choice is a function of the listed names.

## Main definitions

* `BootExtents.DeviceCall`, `DeviceCalls` — what devices are asked for, and the interface of that.
* `BootExtents.BlockDevices.remote`, `reply` — the devices behind the interface, and their answers.
* `BootExtents.BlockDevices.readNames`, `readSize`, `readIdentity` — what devices tell.
* `BootExtents.BlockDevices.ofSize`, `ofIdentity` — the names that a record's size or identity fits.
* `BootExtents.Disk.calls` — the calls that a choice makes.

## Main results

* `BootExtents.Disk.resolve_eq_interpret` — the calls are all that the devices are used for.
* `BootExtents.Disk.result_resolve`, `calls_eq` — what is chosen, and the calls made for it.
* `BootExtents.Disk.resolve_by_size_or_identity` — the only disk of the right size must have the
  right identity; without such a disk, the only one of the right identity is chosen.
-/

set_option relaxedAutoImplicit false
set_option autoImplicit false

namespace BootExtents

variable {I : Interface}

/-! ### Calls to devices -/

/-- What devices are asked for. -/
inductive DeviceCall where
  /-- The names of all devices. -/
  | names
  /-- The size of a device. -/
  | size (name : String)
  /-- The identity of a device. -/
  | identity (name : String)
deriving DecidableEq, Repr

/-- The device that a call is about. -/
def DeviceCall.device? : DeviceCall → Option String
  | names => none
  | size name => some name
  | identity name => some name

/-- Calls to devices, and the types of their answers. -/
abbrev DeviceCalls : Interface where
  Question := DeviceCall
  Answer
    | .names => Except Error (List String)
    | .size _ => Except Error UInt64
    | .identity _ => Except Error Identity

namespace BlockDevices

/-- Devices of which nothing is known at hand. -/
def remote : BlockDevices DeviceCalls where
  names := .ask (I := DeviceCalls) .names .ofExcept
  size name := .ask (I := DeviceCalls) (.size name) .ofExcept
  identity name := .ask (I := DeviceCalls) (.identity name) .ofExcept

/-- How devices answer a call. A failure is an answer, too. -/
def reply (devices : BlockDevices I) :
    (call : DeviceCall) → Inquiry I Error (DeviceCalls.Answer call)
  | .names => devices.names.attempt
  | .size name => (devices.size name).attempt
  | .identity name => (devices.identity name).attempt

section Readings

variable (devices : BlockDevices I) (answer : (question : I.Question) → I.Answer question)

/-- The names that the devices tell. -/
def readNames : Except Error (List String) :=
  devices.names.result (.willing answer)

/-- The size of a device, as far as it can be told. -/
def readSize (name : String) : Except Error UInt64 :=
  (devices.size name).result (.willing answer)

/-- The identity of a device, as far as it can be read. -/
def readIdentity (name : String) : Except Error Identity :=
  (devices.identity name).result (.willing answer)

/-- The answers of devices to calls. -/
def readings : (call : DeviceCall) → DeviceCalls.Answer call
  | .names => devices.readNames answer
  | .size name => devices.readSize answer name
  | .identity name => devices.readIdentity answer name

/-- Those of the names whose device has the size of a record's disk. -/
def ofSize (record : Record) (names : List String) : List String :=
  names.filter fun name => devices.readSize answer name = .ok record.diskSize

/-- Those of the names whose device has the identity of a record's disk. -/
def ofIdentity (record : Record) (names : List String) : List String :=
  names.filter fun name => devices.readIdentity answer name = .ok record.diskIdentity

end Readings

end BlockDevices

/-! ### The same choice -/

namespace Disk

/-- The test of a device's size is its call, answered by the device. -/
lemma hasSize_eq_interpret (devices : BlockDevices I) (expected : UInt64) (name : String) :
    hasSize devices expected name =
      (hasSize .remote expected name).interpret devices.reply := by
  show _ = Inquiry.bind (devices.size name).attempt _
  rw [hasSize, Inquiry.bind_eq]
  congr 1
  funext size
  cases size <;> rfl

/-- The test of a device's identity is its call, answered by the device. -/
lemma hasIdentity_eq_interpret (devices : BlockDevices I) (expected : Identity) (name : String) :
    hasIdentity devices expected name =
      (hasIdentity .remote expected name).interpret devices.reply := by
  show _ = Inquiry.bind (devices.identity name).attempt _
  rw [hasIdentity, Inquiry.bind_eq]
  congr 1
  funext identity
  cases identity <;> rfl

/-- The choice of a single name makes no call. -/
lemma single_eq_interpret (devices : BlockDevices I) (names : List String) :
    single names = (single names : Inquiry DeviceCalls Error String).interpret devices.reply := by
  unfold single
  split <;> rfl

/-- **A choice is its calls, answered by the devices.** -/
theorem resolve_eq_interpret (record : Record) (devices : BlockDevices I) :
    resolve record devices = (resolve record .remote).interpret devices.reply := by
  have hnames : (BlockDevices.remote.names).interpret devices.reply = devices.names := by
    show Inquiry.bind devices.names.attempt _ = _
    conv_rhs => rw [← Inquiry.attempt_bind_ofExcept devices.names]
    congr 1
    funext names
    cases names <;> rfl
  rw [resolve, resolve]
  simp only [Inquiry.bind_eq, Inquiry.interpret_bind, Inquiry.interpret_filterM, hnames,
    ← hasSize_eq_interpret, ← hasIdentity_eq_interpret, ← single_eq_interpret]

/-! ### What is chosen -/

section Choice

variable (record : Record) (devices : BlockDevices I)
  (answer : (question : I.Question) → I.Answer question)

/-- The only name of a list. -/
def only : List String → Except Error String
  | [] => .error .diskNotFound
  | [name] => .ok name
  | names => .error (.diskAmbiguous names.length)

/-- The choice of a single name is decided by the names. -/
lemma result_single (respondent : Inquiry.Respondent I Error) (names : List String) :
    (single names).result respondent = only names := by
  rcases names with _ | ⟨name, _ | ⟨other, names⟩⟩ <;> rfl

/-- The choice of a single name puts no question. -/
lemma asked_single (respondent : Inquiry.Respondent I Error) (names : List String) :
    (single names).asked respondent = [] := by
  rcases names with _ | ⟨name, _ | ⟨other, names⟩⟩ <;> rfl

/-- The names whose identity is read: the only eligible one that the size fits, or all eligible
ones. -/
def candidates (names : List String) : List String :=
  let sized := devices.ofSize answer record (names.filter isEligible)
  if sized.length = 1 then sized else names.filter isEligible

/-- The calls that choosing a disk makes to devices, in order. -/
def calls : List DeviceCall :=
  (resolve record .remote).asked (.willing (devices.readings answer))

/-- Devices answer every call. -/
lemma result_reply (call : DeviceCall) :
    (devices.reply call).result (.willing answer) = .ok (devices.readings answer call) := by
  cases call <;> exact Inquiry.result_attempt ..

/-- The choice is the same with the devices' answers to its calls. -/
lemma result_resolve_remote : (resolve record devices).result (.willing answer) =
    (resolve record .remote).result (.willing (devices.readings answer)) := by
  rw [resolve_eq_interpret, Inquiry.result_interpret]
  exact congrArg (fun respondent => (resolve record .remote).result respondent)
    (funext (result_reply devices answer))

/-- One call tells the names. -/
lemma names_remote :
    BlockDevices.remote.names.result (.willing (devices.readings answer)) =
        devices.readNames answer ∧
      BlockDevices.remote.names.asked (.willing (devices.readings answer)) = [.names] := by
  constructor
  · show (Inquiry.ofExcept (devices.readNames answer)).result _ = _
    cases devices.readNames answer <;> rfl
  · show DeviceCall.names ::
      (Inquiry.ofExcept (I := DeviceCalls) (devices.readNames answer)).asked _ = _
    cases devices.readNames answer <;> rfl

/-- One call tells whether a device has a size. -/
lemma hasSize_remote (expected : UInt64) (name : String) :
    hasSize .remote expected name = .ask (I := DeviceCalls) (.size name)
      fun size => .done (decide (size = .ok expected)) := by
  refine congrArg (Inquiry.ask (I := DeviceCalls) (.size name)) (funext fun size => ?_)
  cases size with
  | ok size => exact congrArg Inquiry.done (by simp [beq_eq_decide])
  | error error => exact congrArg Inquiry.done (by simp)

/-- One call tells whether a device has an identity. -/
lemma hasIdentity_remote (expected : Identity) (name : String) :
    hasIdentity .remote expected name = .ask (I := DeviceCalls) (.identity name)
      fun identity => .done (decide (identity = .ok expected)) := by
  refine congrArg (Inquiry.ask (I := DeviceCalls) (.identity name)) (funext fun identity => ?_)
  cases identity with
  | ok identity => exact congrArg Inquiry.done (by simp [beq_eq_decide])
  | error error => exact congrArg Inquiry.done (by simp)

/-- What the filter by size keeps, and what it asks. -/
lemma filterM_hasSize (names : List String) :
    (names.filterM (hasSize .remote record.diskSize)).result (.willing (devices.readings answer)) =
        .ok (devices.ofSize answer record names) ∧
      (names.filterM (hasSize .remote record.diskSize)).asked
        (.willing (devices.readings answer)) = names.map .size :=
  Inquiry.filterM_ask (hasSize_remote record.diskSize) names

/-- What the filter by identity keeps, and what it asks. -/
lemma filterM_hasIdentity (names : List String) :
    (names.filterM (hasIdentity .remote record.diskIdentity)).result
        (.willing (devices.readings answer)) = .ok (devices.ofIdentity answer record names) ∧
      (names.filterM (hasIdentity .remote record.diskIdentity)).asked
        (.willing (devices.readings answer)) = names.map .identity :=
  Inquiry.filterM_ask (hasIdentity_remote record.diskIdentity) names

/-- **What is chosen**: the only candidate of the right identity. -/
theorem result_resolve : (resolve record devices).result (.willing answer) =
    match devices.readNames answer with
    | .error error => .error error
    | .ok names =>
      only (devices.ofIdentity answer record (candidates record devices answer names)) := by
  rw [result_resolve_remote, resolve, Inquiry.bind_eq, Inquiry.result_bind]
  rw [(names_remote ..).1]
  cases devices.readNames answer with
  | error error => rfl
  | ok names =>
    dsimp only
    rw [Inquiry.bind_eq, Inquiry.result_bind, (filterM_hasSize ..).1]
    dsimp only
    rw [Inquiry.bind_eq, Inquiry.result_bind, (filterM_hasIdentity ..).1]
    exact result_single ..

/-- **What is asked**: the size of every eligible device, and the identity of every candidate. -/
theorem calls_eq : calls record devices answer =
    .names :: match devices.readNames answer with
      | .error _ => []
      | .ok names => (names.filter isEligible).map .size ++
          (candidates record devices answer names).map .identity := by
  rw [calls, resolve, Inquiry.bind_eq, Inquiry.asked_bind, (names_remote ..).1, (names_remote ..).2]
  cases devices.readNames answer with
  | error error => rfl
  | ok names =>
    dsimp only
    rw [Inquiry.bind_eq, Inquiry.asked_bind, (filterM_hasSize ..).1, (filterM_hasSize ..).2]
    dsimp only
    rw [Inquiry.bind_eq, Inquiry.asked_bind, (filterM_hasIdentity ..).1, (filterM_hasIdentity ..).2]
    dsimp only
    rw [asked_single, List.append_nil]
    rfl

end Choice

/-! ### Size first, then identity -/

section Names

variable {record : Record} {devices : BlockDevices I}
  {answer : (question : I.Question) → I.Answer question} {names : List String} {name : String}

/-- Where the names can be read, the result is the only candidate of the identity. -/
lemma result_resolve_of_ok (hnames : devices.readNames answer = .ok names) :
    (resolve record devices).result (.willing answer) =
      only (devices.ofIdentity answer record (candidates record devices answer names)) := by
  rw [result_resolve, hnames]

/-- Where the names can be read, the sizes of all eligible devices are asked for, then the
identities of the candidates. -/
lemma calls_of_ok (hnames : devices.readNames answer = .ok names) :
    calls record devices answer = .names :: ((names.filter isEligible).map .size ++
      (candidates record devices answer names).map .identity) := by
  rw [calls_eq, hnames]

/-- The only eligible device of the right size is the only candidate. -/
lemma candidates_of_eq_singleton
    (h : devices.ofSize answer record (names.filter isEligible) = [name]) :
    candidates record devices answer names = [name] := by
  simp [candidates, h]

/-- Without such a device, all eligible ones are candidates. -/
lemma candidates_of_length_ne_one
    (h : (devices.ofSize answer record (names.filter isEligible)).length ≠ 1) :
    candidates record devices answer names = names.filter isEligible :=
  if_neg h

/-- Only a list of one name has a single name. -/
lemma only_eq_ok_iff : only names = .ok name ↔ names = [name] := by
  rcases names with _ | ⟨first, _ | ⟨second, names⟩⟩ <;> simp [only]

/-- Without an only name there are none, or too many. -/
lemma of_only_eq_error {error : Error} (h : only names = .error error) :
    error = .diskNotFound ∨ ∃ count, 2 ≤ count ∧ error = .diskAmbiguous count := by
  rcases names with _ | ⟨first, _ | ⟨second, names⟩⟩
  · exact .inl (Except.error.inj h).symm
  · cases h
  · exact .inr ⟨_, by simp, (Except.error.inj h).symm⟩

/-- Every candidate is listed and eligible. -/
lemma of_mem_candidates (h : name ∈ candidates record devices answer names) :
    name ∈ names ∧ isEligible name = true := by
  apply List.mem_filter.1
  rw [candidates] at h
  split_ifs at h
  · exact List.mem_of_mem_filter h
  · exact h

/-- A disk that is chosen is a candidate of the right identity. -/
lemma of_result_resolve_eq_ok (hnames : devices.readNames answer = .ok names)
    (h : (resolve record devices).result (.willing answer) = .ok name) :
    name ∈ names ∧ isEligible name = true ∧
      devices.readIdentity answer name = .ok record.diskIdentity := by
  rw [result_resolve_of_ok hnames] at h
  have hmem : name ∈ devices.ofIdentity answer record (candidates record devices answer names) := by
    rw [only_eq_ok_iff.1 h]
    exact List.mem_singleton_self name
  obtain ⟨hcandidate, hidentity⟩ := List.mem_filter.1 hmem
  obtain ⟨hlisted, heligible⟩ := of_mem_candidates hcandidate
  exact ⟨hlisted, heligible, of_decide_eq_true hidentity⟩

end Names

/-- **The right disk or none.** If exactly one eligible device has the size of the record's disk, it
is chosen if it has the right identity too, and no other identity is read. Otherwise the only
eligible device of the right identity is chosen. So a disk that is chosen is listed and eligible and
has the right identity. No device's failure shows, only a failure to list the devices does. -/
theorem resolve_by_size_or_identity (record : Record) (devices : BlockDevices I)
    (answer : (question : I.Question) → I.Answer question) :
    (∀ error, devices.readNames answer = .error error →
      (resolve record devices).result (.willing answer) = .error error) ∧
    ∀ names, devices.readNames answer = .ok names →
      (∀ name, devices.ofSize answer record (names.filter isEligible) = [name] →
        (resolve record devices).result (.willing answer) =
          (if devices.readIdentity answer name = .ok record.diskIdentity then .ok name
            else .error .diskNotFound) ∧
        calls record devices answer =
          .names :: ((names.filter isEligible).map .size ++ [.identity name])) ∧
      ((devices.ofSize answer record (names.filter isEligible)).length ≠ 1 →
        (resolve record devices).result (.willing answer) =
          match devices.ofIdentity answer record (names.filter isEligible) with
          | [] => .error .diskNotFound
          | [name] => .ok name
          | many => .error (.diskAmbiguous many.length)) ∧
      (∀ name, (resolve record devices).result (.willing answer) = .ok name →
        name ∈ names ∧ isEligible name = true ∧
          devices.readIdentity answer name = .ok record.diskIdentity) ∧
      ∀ error, (resolve record devices).result (.willing answer) = .error error →
        error = .diskNotFound ∨ ∃ count, 2 ≤ count ∧ error = .diskAmbiguous count := by
  refine ⟨fun error herror => ?_, fun names hnames => ⟨fun name hsized => ⟨?_, ?_⟩, fun hmany => ?_,
    fun name => of_result_resolve_eq_ok hnames, fun error herror => ?_⟩⟩
  · rw [result_resolve, herror]
  · rw [result_resolve_of_ok hnames, candidates_of_eq_singleton hsized]
    by_cases hidentity : devices.readIdentity answer name = .ok record.diskIdentity
    · simp [BlockDevices.ofIdentity, hidentity, only]
    · simp [BlockDevices.ofIdentity, hidentity, only]
  · rw [calls_of_ok hnames, candidates_of_eq_singleton hsized]
    rfl
  · rw [result_resolve_of_ok hnames, candidates_of_length_ne_one hmany]
    rfl
  · rw [result_resolve_of_ok hnames] at herror
    exact of_only_eq_error herror

/-- Two disks and a ramdisk. The only disk of the right size has another identity, so the disk of
the right identity is not chosen either. -/
theorem resolve_by_size_or_identity_two_disks :
    let record := Record.create (Vector.replicate 16 7) 1024 1 .exfat "/a" 0
    let told : (call : DeviceCall) → DeviceCalls.Answer call
      | .names => .ok ["sda", "ram0", "sdb"]
      | .size name => .ok (if name = "sda" then 2048 else 1024)
      | .identity name => .ok (Vector.replicate 16 (if name = "sdb" then 8 else 7))
    (resolve record .remote).result (.willing told) = .error .diskNotFound ∧
      calls record .remote told = [.names, .size "sda", .size "sdb", .identity "sdb"] := by
  intro record told
  have hnames : BlockDevices.remote.readNames told = .ok ["sda", "ram0", "sdb"] := rfl
  have hsized : BlockDevices.remote.ofSize told record
      (["sda", "ram0", "sdb"].filter isEligible) = ["sdb"] := by decide
  obtain ⟨hresult, hcalls⟩ :=
    ((resolve_by_size_or_identity record .remote told).2 _ hnames).1 "sdb" hsized
  exact ⟨hresult.trans (by decide), hcalls.trans (by decide)⟩

end Disk

end BootExtents
