import Booty.Lib.Bytes

namespace Booty.Disk

open Booty.Lib Option

/-!
# Space for the metadata of a mirror

The metadata of a mirror lies at the end of each member.  `checkMirrorTailSpace` lets a member
through when the size that the superblock of its filesystem records leaves a reserve there; it
computes that size in 64 bits.

* `filesystemSize`, `checkMirrorTailSpace` — the functions, over the superblock that is found.
* `Superblock.size` — the size in unbounded numbers.
* `tailSpace_iff` — when a member that passes has room for the metadata; `wrapped_size_passes`
  breaks it.
-/

/-- `mirrorMetadataReserve`. -/
def mirrorMetadataReserve : Int := 2 ^ 20

/-- A member device: the errors of opening it and of seeking to its end, and its content. -/
structure Member where
  path : String
  openErr : Option String
  seekErr : Option String
  content : Bytes
  fits : content.length < 2 ^ 63

/-- The size of the partition. -/
def Member.size (m : Member) : Int := m.content.length

/-- The fields of the superblocks that `filesystemSize` reads. -/
inductive Superblock
  | ext (blocks logBlockSize : Nat)
  | xfs (blocks blockSize : Nat)
  | btrfs (totalBytes : Nat)
deriving DecidableEq, Repr

/-- `ReadAt` of a buffer, for content that starts like a superblock of the kind. -/
def readAt (r : Bytes) (n off : Nat) (magic : Bytes → Bool) : Option Bytes :=
  if off + n ≤ r.length then some (window r off n) |>.filter magic else none

/-- The first superblock that `filesystemSize` finds, in its order. -/
def superblock (r : Bytes) : Option Superblock :=
  match readAt r 1024 1024 fun ext => littleEndian (window ext 56 2) = 0xEF53 with
  | some ext =>
    let blocks := littleEndian (window ext 4 4)
    -- INCOMPAT_64BIT
    let blocks := if littleEndian (window ext 96 4) &&& 0x80 ≠ 0 then
        blocks ||| littleEndian (window ext 0x150 4) <<< 32
      else blocks
    some (.ext blocks (littleEndian (window ext 24 4)))
  | none =>
    match readAt r 16 0 fun xfs => xfs.take 4 = [0x58, 0x46, 0x53, 0x42] with
    | some xfs => some (.xfs (bigEndian (window xfs 8 8)) (bigEndian (window xfs 4 4)))
    | none =>
      (readAt r 0x78 0x10000 fun btrfs =>
        window btrfs 0x40 8 = [0x5f, 0x42, 0x48, 0x52, 0x66, 0x53, 0x5f, 0x4d]).map
          fun btrfs => .btrfs (littleEndian (window btrfs 0x70 8))

/-- `filesystemSize`; the products are 64-bit ones. -/
def filesystemSize (r : Bytes) : Except String Nat :=
  match superblock r with
  | some (.ext blocks logBlockSize) =>
    if logBlockSize > 16 then .error s!"invalid ext block size exponent {logBlockSize}"
    else .ok (blocks * (1024 <<< logBlockSize) % 2 ^ 64)
  | some (.xfs blocks blockSize) => .ok (blocks * blockSize % 2 ^ 64)
  | some (.btrfs totalBytes) => .ok totalBytes
  | none => .error "no ext, XFS or btrfs superblock found"

/-- `CheckMirrorTailSpace`. -/
def checkMirrorTailSpace (m : Member) : Except String Unit :=
  match m.openErr, m.seekErr with
  | some err, _ => .error s!"open {m.path}: {err}"
  | none, some err => .error s!"size of {m.path}: {err}"
  | none, none =>
    match filesystemSize m.content with
    | .error err => .error s!"filesystem size on {m.path}: {err}"
    | .ok fsBytes =>
      if max (m.size - mirrorMetadataReserve) 0 < fsBytes then
        .error (s!"filesystem on {m.path} ({fsBytes} bytes) leaves no room for mirror metadata " ++
          s!"in the {m.size} byte partition; the root partition could not grow")
      else .ok ()

/-! ### What passes -/

namespace Superblock

/-- The size that a superblock records, in unbounded numbers. -/
def size : Superblock → Nat
  | .ext blocks logBlockSize => blocks * (1024 * 2 ^ logBlockSize)
  | .xfs blocks blockSize => blocks * blockSize
  | .btrfs totalBytes => totalBytes

/-- The block size of an ext filesystem is one that the code accepts. -/
def Valid : Superblock → Prop
  | .ext _ logBlockSize => logBlockSize ≤ 16
  | _ => True

end Superblock

/-- The field of a btrfs superblock has eight bytes. -/
theorem superblock_btrfs_lt {r : Bytes} {n : Nat} (h : superblock r = some (.btrfs n)) :
    n < 2 ^ 64 := by
  unfold superblock at h
  split at h
  · cases h
  split at h
  · cases h
  obtain ⟨btrfs, -, hn⟩ := map_eq_some_iff.mp h
  cases hn
  simpa using littleEndian_lt (window btrfs 0x70 8)

theorem filesystemSize_ok_iff {r : Bytes} {n : Nat} :
    filesystemSize r = .ok n ↔ ∃ sb, superblock r = some sb ∧ sb.Valid ∧ n = sb.size % 2 ^ 64 := by
  unfold filesystemSize
  cases hsb : superblock r with
  | none => simp
  | some sb =>
    cases sb with
    | ext blocks e =>
      by_cases he : e > 16
      · simp [he, Superblock.Valid]
      · simp [he, Superblock.Valid, Superblock.size, Nat.shiftLeft_eq, not_lt.mp he, eq_comm]
    | xfs blocks size => simp [Superblock.Valid, Superblock.size, eq_comm]
    | btrfs total =>
      have hlt := superblock_btrfs_lt hsb
      simp only [Except.ok.injEq, some.injEq, exists_eq_left', Superblock.Valid,
        Superblock.size, true_and]
      omega

theorem checkMirrorTailSpace_ok_iff {m : Member} :
    checkMirrorTailSpace m = .ok () ↔ m.openErr = none ∧ m.seekErr = none ∧
      ∃ sb, superblock m.content = some sb ∧ sb.Valid ∧
        ((sb.size % 2 ^ 64 : Nat) : Int) ≤ max (m.size - mirrorMetadataReserve) 0 := by
  unfold checkMirrorTailSpace
  cases m.openErr with
  | some err => simp
  | none =>
    cases m.seekErr with
    | some err => simp
    | none =>
      cases hfs : filesystemSize m.content with
      | error err =>
        have hnone : ∀ n, filesystemSize m.content ≠ .ok n := by simp [hfs]
        simp only [ne_eq, filesystemSize_ok_iff] at hnone
        grind
      | ok n =>
        obtain ⟨sb, hsb, hvalid, rfl⟩ := filesystemSize_ok_iff.mp hfs
        simp only [hsb, some.injEq, exists_eq_left', hvalid, true_and, ite_eq_right_iff,
          reduceCtorEq, imp_false, not_lt]

/-- **A member that passes has room for the metadata** iff the recorded size fits 64 bits and is not
    zero on a member without room for the reserve, or what is left of it in 64 bits is still too
    large. -/
theorem tailSpace_iff (m : Member) :
    (checkMirrorTailSpace m = .ok () → ∃ sb, superblock m.content = some sb ∧
      (sb.size : Int) ≤ m.size - mirrorMetadataReserve) ↔
    (m.openErr = none → m.seekErr = none → ∀ sb, superblock m.content = some sb → sb.Valid →
      (sb.size < 2 ^ 64 ∧ (sb.size ≠ 0 ∨ mirrorMetadataReserve ≤ m.size)) ∨
        max (m.size - mirrorMetadataReserve) 0 < (sb.size % 2 ^ 64 : Nat)) := by
  rw [checkMirrorTailSpace_ok_iff]
  cases hsb : superblock m.content with
  | none => simp
  | some sb =>
    simp only [Option.some.injEq, exists_eq_left', forall_eq']
    have hfits := m.fits
    have hsize : m.size = m.content.length := rfl
    refine ⟨fun h ho hs hv => ?_, fun h ⟨ho, hs, hv, hle⟩ => ?_⟩
    · by_cases hle : ((sb.size % 2 ^ 64 : Nat) : Int) ≤ max (m.size - mirrorMetadataReserve) 0
      · have hroom := h ⟨ho, hs, hv, hle⟩
        have : 0 < mirrorMetadataReserve := by decide
        omega
      · exact .inr (not_le.mp hle)
    · have := h ho hs hv
      omega

/-- A member of 16 bytes whose XFS superblock records `2 ^ 52` blocks of 4096 bytes. -/
def wrappedMember : Member where
  path := "/dev/sda3"
  openErr := none
  seekErr := none
  content := [0x58, 0x46, 0x53, 0x42, 0, 0, 0x10, 0, 0, 0x10, 0, 0, 0, 0, 0, 0]
  fits := by decide

/-- The recorded size is `2 ^ 64`, and nothing is left of it in 64 bits. -/
theorem wrapped_size_passes :
    checkMirrorTailSpace wrappedMember = .ok () ∧
      superblock wrappedMember.content = some (.xfs (2 ^ 52) 4096) ∧
      wrappedMember.size - mirrorMetadataReserve < Superblock.size (.xfs (2 ^ 52) 4096) := by
  refine ⟨rfl, rfl, by decide⟩

end Booty.Disk
