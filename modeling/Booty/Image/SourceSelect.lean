import Booty.Image.PartitionTable

namespace Booty.Image

open Booty.Lib Booty.Lib.Outcome List

/-!
# Selecting the boot and the root partition (`pkg/image/ab.go`)

`selectSourceBootPartition` takes the first EFI system partition, `selectSourceRootPartition`
the partition with the configured number or label, or else the only partition with a common
root label, or else the only Linux file system.

* `selectSourceBootPartition_mem`, `selectSourceRootPartition_meets` — what is selected is one
  of the listed partitions.
-/

/-- The type of an EFI system partition. -/
def efiSystemPartitionGUID : String := "C12A7328-F81F-11D2-BA4B-00A0C93EC93B"

/-- The type of a Linux partition. -/
def linuxFilesystemGUID : String := "0FC63DAF-8483-4772-8E79-3D69D8477DE4"

/-- The type of an EFI system partition in an MBR. -/
def efiSystemMBRType : String := "ef"

/-- The type of a Linux partition in an MBR. -/
def linuxFilesystemMBRType : String := "83"

/-- What to set to select the root partition. -/
def sourceRootSelectorHint : String :=
  "set provision.image.sourceRootLabel/provision.image.sourceRootPartition for " ++
    "partition-layout root streaming, or provision.ab.sourceRootLabel/" ++
    "provision.ab.sourceRootPartition for A/B streaming"

/-- The labels that root partitions have. -/
def commonSourceRootLabels : List String :=
  ["root", "root-a", "root-b", "rootfs", "cloudimg-rootfs", "booty-root-a", "booty-root-b",
    "ubuntu-root", "debian-root", "fedora-root", "opensuse-root", "opensuse-rootfs",
    "flatcar-root", "bottlerocket-root"]

section

variable (u : Unicode)

/-- `isEFISystemPartition`. -/
def isEFISystemPartition (p : SfdiskPartition) : Bool :=
  equalFold u p.type efiSystemPartitionGUID || equalFold u p.type efiSystemMBRType

/-- `isLinuxFilesystemPartition`. -/
def isLinuxFilesystemPartition (p : SfdiskPartition) : Bool :=
  equalFold u p.type linuxFilesystemGUID || equalFold u p.type linuxFilesystemMBRType

/-- `normalizeSourceRootLabel`. -/
def normalizeSourceRootLabel (label : String) : String :=
  replaceChar '_' '-' (toLower u (trimSpace label))

/-- `hasCommonSourceRootLabel`. -/
def hasCommonSourceRootLabel (p : SfdiskPartition) : Bool :=
  !isEFISystemPartition u p && commonSourceRootLabels.contains (normalizeSourceRootLabel u p.name)

/-- `isFlatcarUSRSlotLabel`. -/
def isFlatcarUSRSlotLabel (label : String) : Bool :=
  ["usr-a", "usr-b"].contains (normalizeSourceRootLabel u label)

variable (parts : List SfdiskPartition)

/-- `hasFlatcarUSRSlot`. -/
def hasFlatcarUSRSlot : Bool :=
  parts.any (fun p => isFlatcarUSRSlotLabel u p.name)

/-- `selectSourceBootPartition`. -/
def selectSourceBootPartition : Option SfdiskPartition :=
  parts.find? (isEFISystemPartition u)

/-- `selectSingleSourceRootCandidate`: the only partition that matches. -/
def selectSingleSourceRootCandidate
    (isMatch : SfdiskPartition → Bool) (reason : String) : Outcome Err SfdiskPartition :=
  match parts.filter isMatch with
  | [] => .err (.sentinel .noSourceRootCandidate)
  | [candidate] => .ok candidate
  | candidates =>
    .err (.new
      s!"source image has {candidates.length} {reason} candidates; {sourceRootSelectorHint}")

/-- The partition with a configured number. -/
def selectByNumber (number : Nat) : Outcome Err SfdiskPartition :=
  match parts.find? (fun p => p.number = number) with
  | none => .err (.new s!"source image has no partition number {number}")
  | some p =>
    if isEFISystemPartition u p then
      .err (.new s!"source image partition number {number} is EFI, not a root partition")
    else .ok p

/-- The selection without a configured number or label: a common root label, or else a Linux
    file system.  Only a missing candidate lets the next rule decide. -/
def selectByConvention : Outcome Err SfdiskPartition :=
  match selectSingleSourceRootCandidate parts (hasCommonSourceRootLabel u)
      "common root partition label" with
  | .err e =>
    if e.is .noSourceRootCandidate then
      match selectSingleSourceRootCandidate parts (isLinuxFilesystemPartition u)
          "Linux filesystem partition" with
      | .err e =>
        if e.is .noSourceRootCandidate then
          .err (.new ("source image has no Linux root partition candidate; " ++
            s!"{sourceRootSelectorHint} for supported Linux images without a standard root " ++
            "label or partition type"))
        else .err e
      | r => r
    else .err e
  | r => r

/-- `selectSourceRootPartition`; a number that is not positive selects nothing. -/
def selectSourceRootPartition (label : String) (number : Int) : Outcome Err SfdiskPartition :=
  if 0 < number then selectByNumber u parts number.toNat
  else if trimSpace label ≠ "" then
    selectSingleSourceRootCandidate parts
      (fun p => equalFold u (trimSpace p.name) (trimSpace label))
      ("label " ++ u.quote (trimSpace label))
  else if hasFlatcarUSRSlot u parts then
    .err (.new s!"source image has Flatcar-like USR-A/USR-B slots; {sourceRootSelectorHint}")
  else selectByConvention u parts

/-! ### What is selected -/

theorem selectSourceBootPartition_mem {parts : List SfdiskPartition} {p : SfdiskPartition}
    (h : selectSourceBootPartition u parts = some p) : p ∈ parts :=
  mem_of_find?_eq_some h

theorem selectSingleSourceRootCandidate_meets (isMatch : SfdiskPartition → Bool) (reason : String) :
    (selectSingleSourceRootCandidate parts isMatch reason).Meets (· ∈ parts) := by
  unfold selectSingleSourceRootCandidate
  cases hf : parts.filter isMatch with
  | nil => exact meets_err
  | cons p rest =>
    have hp : p ∈ parts.filter isMatch := by
      rw [hf]
      exact mem_cons_self
    cases rest with
    | nil => exact mem_of_mem_filter hp
    | cons q rest => exact meets_err

theorem selectByNumber_meets (number : Nat) :
    (selectByNumber u parts number).Meets (· ∈ parts) := by
  unfold selectByNumber
  cases hf : parts.find? (fun p => p.number = number) with
  | none => exact meets_err
  | some p => exact Meets.guard (fun _ => mem_of_find?_eq_some hf)

theorem selectByConvention_meets : (selectByConvention u parts).Meets (· ∈ parts) := by
  have hcommon := selectSingleSourceRootCandidate_meets parts (hasCommonSourceRootLabel u)
    "common root partition label"
  have hlinux := selectSingleSourceRootCandidate_meets parts (isLinuxFilesystemPartition u)
    "Linux filesystem partition"
  unfold selectByConvention
  cases hc : selectSingleSourceRootCandidate parts (hasCommonSourceRootLabel u)
      "common root partition label" with
  | ok p => exact hcommon.of_eq_ok hc
  | fault f => exact absurd hc (hcommon.noFault f)
  | err e =>
    by_cases hnone : e.is .noSourceRootCandidate = true
    · aesop
    · simp only [hnone]
      exact meets_err

/-- **Root selection.**  The selection never faults, and the root is a listed partition. -/
theorem selectSourceRootPartition_meets (label : String)
    (number : Int) : (selectSourceRootPartition u parts label number).Meets (· ∈ parts) := by
  unfold selectSourceRootPartition
  by_cases hnumber : 0 < number
  · rw [if_pos hnumber]
    exact selectByNumber_meets u parts number.toNat
  rw [if_neg hnumber]
  by_cases hlabel : trimSpace label ≠ ""
  · grind [selectSingleSourceRootCandidate_meets]
  rw [if_neg hlabel]
  exact Meets.guard (fun _ => selectByConvention_meets u parts)

end

end Booty.Image
