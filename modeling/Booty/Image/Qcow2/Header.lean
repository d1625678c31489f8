import Booty.Image.Errors
import Booty.Lib.Outcome

namespace Booty.Image

open Booty.Lib Booty.Lib.Outcome Meets Nat

/-!
# qcow2 headers (`pkg/image/qcow2raw.go`)

`parseQCOW2Header` decodes and checks the header of an untrusted image.  Header fields are
unsigned integers of 32 or 64 bits; they are natural numbers here, and every index, slice and
`int64` operation on them is a checked one.

* `parseQCOW2Header_meets` — parsing never faults, and an accepted header has a `Layout`;
* the `Layout` lemmas — the bounds that the conversion loops rely on.
-/

/-- The first bytes of an image. -/
def qcow2Magic : Bytes := [0x51, 0x46, 0x49, 0xfb]

/-- The length of what is read of the header. -/
def qcow2HeaderLen : Nat := 80

/-- The length of the header in version 3. -/
def qcow2V3HeaderLen : Nat := 104

/-- The refcounts may be wrong. -/
def qcow2IncompatDirty : Nat := 1 <<< 0

/-- The image is corrupt. -/
def qcow2IncompatCorrupt : Nat := 1 <<< 1

/-- The data is in another file. -/
def qcow2IncompatExternalData : Nat := 1 <<< 2

/-- The compression type is not the default one. -/
def qcow2IncompatCompressType : Nat := 1 <<< 3

/-- L2 entries have subclusters. -/
def qcow2IncompatExtendedL2 : Nat := 1 <<< 4

/-- The features that the code knows. -/
def qcow2IncompatKnown : Nat :=
  qcow2IncompatDirty ||| qcow2IncompatCorrupt ||| qcow2IncompatExternalData |||
    qcow2IncompatCompressType ||| qcow2IncompatExtendedL2

/-- Clusters are compressed with zlib. -/
def qcow2CompressZlib : Nat := 0

/-- Clusters are compressed with zstd. -/
def qcow2CompressZstd : Nat := 1

/-- The smallest cluster size. -/
def qcow2MinClusterBits : Nat := 9

/-- The largest cluster size. -/
def qcow2MaxClusterBits : Nat := 21

/-- The largest L1 table. -/
def qcow2MaxL1Bytes : Nat := 32 <<< 20

/-- The fields of a qcow2 header that a raw conversion needs. -/
structure Qcow2Header where
  version : Nat
  clusterBits : Nat
  size : Nat
  l1Size : Nat
  l1Offset : Nat
  compression : Nat := 0
  extendedL2 : Bool := false
  deriving DecidableEq, Repr

namespace Qcow2Header

variable (h : Qcow2Header)

/-- `clusterSize`; the callers have bounded `clusterBits`. -/
def clusterSize : Nat := 2 ^ h.clusterBits

/-- `l2Entries`: the number of guest clusters that one L2 table maps. -/
def l2Entries : Nat := if h.extendedL2 then h.clusterSize / 16 else h.clusterSize / 8

/-- The number of L1 entries that the virtual size needs. -/
def needL1 : Nat :=
  ((h.size + h.clusterSize - 1) / h.clusterSize + h.l2Entries - 1) / h.l2Entries

theorem l2Entries_le : h.l2Entries ≤ h.clusterSize / 8 := by
  unfold l2Entries
  split <;> omega

/-- The widths of the fields of the L1 table. -/
structure Widths : Prop where
  l1Size_lt : h.l1Size < 2 ^ 32
  l1Offset_lt : h.l1Offset < 2 ^ 64

/-- An accepted header: the field widths and what `checkQCOW2Layout` establishes. -/
structure Layout : Prop extends h.Widths where
  minBits : 9 ≤ h.clusterBits
  maxBits : h.clusterBits ≤ 21
  size_le : h.size ≤ 2 ^ 56
  covers : h.needL1 ≤ h.l1Size
  l1Bytes : h.l1Size * 8 ≤ 32 * 2 ^ 20
  aligned : 0 < h.l1Size → h.l1Offset &&& (h.clusterSize - 1) = 0

end Qcow2Header

/-! ### Parsing -/

variable (h : Qcow2Header) (b : Bytes)

/-- `checkQCOW2Layout`. -/
def checkQCOW2Layout : Outcome Err Unit :=
  if h.clusterBits < qcow2MinClusterBits ∨ qcow2MaxClusterBits < h.clusterBits then
    .err (.new (s!"qcow2 cluster bits {h.clusterBits} out of range " ++
      s!"[{qcow2MinClusterBits}, {qcow2MaxClusterBits}]"))
  else if 1 <<< 56 < h.size then
    .err (.new s!"qcow2 virtual size {h.size} is too large")
  else do
    let sum ← add64 h.size h.clusterSize
    let need := (sum - 1) / h.clusterSize
    let sumL1 ← add64 need h.l2Entries
    let needL1 := (sumL1 - 1) / h.l2Entries
    if h.l1Size < needL1 then
      .err (.new s!"qcow2 L1 table has {h.l1Size} entries, the virtual size needs {needL1}")
    else do
      let l1Bytes ← mul64 h.l1Size 8
      if qcow2MaxL1Bytes < l1Bytes then
        .err (.new s!"qcow2 L1 table of {h.l1Size} entries is too large")
      else if 0 < h.l1Size ∧ h.l1Offset &&& (h.clusterSize - 1) ≠ 0 then
        .err (.new ("qcow2 L1 table offset " ++ hex h.l1Offset ++ " is not cluster aligned"))
      else .ok ()

/-- The bits of `a` that are not in `b` (`a &^ b`). -/
def andNot (a b : Nat) : Nat := a ^^^ (a &&& b)

/-- `hasField` of `parseQCOW2V3Fields`: the header is long enough for a compression type. -/
def hasCompressionField : Outcome Err Bool :=
  if qcow2V3HeaderLen < b.length then do
    let headerLength ← uintBE b 100 104
    .ok (decide (qcow2V3HeaderLen < headerLength))
  else .ok false

/-- `parseQCOW2V3Fields`: the feature bits and the compression type of a version 3 header. -/
def parseQCOW2V3Fields : Outcome Err Qcow2Header :=
  if b.length < qcow2HeaderLen then .err (.new "qcow2 v3 header is truncated")
  else do
    let incompat ← uintBE b 72 80
    if incompat &&& qcow2IncompatExternalData ≠ 0 then
      .err (.new "qcow2 image has an external data file; only self-contained images are supported")
    else if andNot incompat qcow2IncompatKnown ≠ 0 then
      .err (.new ("qcow2 image has unknown incompatible features " ++
        hex (andNot incompat qcow2IncompatKnown)))
    else do
      let h := { h with extendedL2 := incompat &&& qcow2IncompatExtendedL2 != 0 }
      let hasField ← hasCompressionField b
      if incompat &&& qcow2IncompatCompressType = 0 then
        -- A compression type other than zlib needs the feature bit.
        if hasField then do
          let t ← index b 104
          if t.toNat ≠ qcow2CompressZlib then
            .err (.new
              s!"qcow2 compression type {t.toNat} without the compression type feature bit")
          else .ok h
        else .ok h
      else if !hasField then
        .err (.new "qcow2 header announces a compression type but has no field for it")
      else do
        let t ← index b 104
        if t.toNat ≠ qcow2CompressZlib ∧ t.toNat ≠ qcow2CompressZstd then
          .err (.new s!"qcow2 compression type {t.toNat} is not supported")
        else .ok { h with compression := t.toNat }

/-- The fields that only a version 3 header has. -/
def parseVersionFields : Outcome Err Qcow2Header :=
  if h.version = 3 then parseQCOW2V3Fields h b else .ok h

/-- The fields of every qcow2 header, before any check. -/
def headerFields : Outcome Err Qcow2Header := do
  let version ← uintBE b 4 8
  let clusterBits ← uintBE b 20 24
  let size ← uintBE b 24 32
  let l1Size ← uintBE b 36 40
  let l1Offset ← uintBE b 40 48
  .ok { version, clusterBits, size, l1Size, l1Offset }

/-- `parseQCOW2Header`: read and validate a header. -/
def parseQCOW2Header : Outcome Err Qcow2Header :=
  if b.length < 72 ∨ b.take 4 ≠ qcow2Magic then .err (.new "not a valid qcow2 header")
  else do
    let h ← headerFields b
    let backing ← uintBE b 8 16
    if backing ≠ 0 then
      .err (.new "qcow2 image has a backing file; only self-contained images are supported")
    else if h.version < 2 ∨ 3 < h.version then
      .err (.new s!"qcow2 version {h.version} is not supported")
    else do
      let h ← parseVersionFields h b
      let crypt ← uintBE b 32 36
      if crypt ≠ 0 then
        .err (.new s!"qcow2 image is encrypted (method {crypt}); not supported")
      else do
        checkQCOW2Layout h
        .ok h

/-! ### The bounds of a layout -/

namespace Qcow2Header.Layout

variable {h : Qcow2Header} (lay : h.Layout)
include lay

/-- A cluster has at least one sector. -/
theorem clusterSize_ge : 512 ≤ h.clusterSize := Nat.pow_le_pow_right (n := 2) (by omega) lay.minBits

/-- A cluster has at most 2 MiB. -/
theorem clusterSize_le : h.clusterSize ≤ 2 ^ 21 :=
  Nat.pow_le_pow_right (n := 2) (by omega) lay.maxBits

/-- Clusters are whole numbers of 512-byte sectors. -/
theorem sector_dvd : 512 ∣ h.clusterSize := Nat.pow_dvd_pow 2 lay.minBits

theorem l2Entries_pos : 0 < h.l2Entries := by grind [lay.clusterSize_ge, Qcow2Header.l2Entries]

/-- **L1 bound.**  Every L1 index whose guest range starts inside the virtual size lies inside
    the L1 table. -/
theorem l1_index_lt {i : Nat} (hi : i * h.l2Entries * h.clusterSize < h.size) : i < h.l1Size := by
  have hcs := lay.clusterSize_ge
  have hper := lay.l2Entries_pos
  refine Nat.lt_of_lt_of_le ?_ lay.covers
  -- Both divisions round up, so it is enough to bound the numerators.
  have hneed : i * h.l2Entries + 1 ≤ (h.size + h.clusterSize - 1) / h.clusterSize := by
    rw [le_div_iff_mul_le (by omega), Nat.add_mul]
    omega
  show i + 1 ≤ h.needL1
  rw [Qcow2Header.needL1, le_div_iff_mul_le hper, Nat.add_mul]
  omega

end Qcow2Header.Layout

/-! ### What parsing guarantees -/

/-- The fields of a header are within their widths. -/
theorem headerFields_meets {b : Bytes} (hb : 72 ≤ b.length) :
    (headerFields b).Meets Qcow2Header.Widths := by
  have hlt : ∀ i n, bigEndian (window b i n) < 256 ^ n := by
    intro i n
    simpa using bigEndian_lt (window b i n)
  refine (meets_uintBE (by omega) (by omega)).bind (fun _ _ => ?_)
  refine (meets_uintBE (by omega) (by omega)).bind (fun _ _ => ?_)
  refine (meets_uintBE (by omega) (by omega)).bind (fun _ _ => ?_)
  refine (meets_uintBE (by omega) (by omega)).bind (fun l1Size hsize => ?_)
  refine (meets_uintBE (by omega) (by omega)).bind (fun l1Offset hoffset => ?_)
  subst hsize hoffset
  exact ⟨hlt 36 4, hlt 40 8⟩

/-- A header with a compression type is long enough for it. -/
theorem hasCompressionField_meets (b : Bytes) :
    (hasCompressionField b).Meets (fun has => has = true → 104 < b.length) := by
  unfold hasCompressionField
  split
  · rename_i hb
    exact (meets_uintBE (by omega) (by simp only [qcow2V3HeaderLen] at hb; omega)).bind
      (fun _ _ _ => hb)
  · exact nofun

/-- The version 3 fields leave the L1 table alone. -/
theorem parseQCOW2V3Fields_meets {h : Qcow2Header} {b : Bytes} (hw : h.Widths) :
    (parseQCOW2V3Fields h b).Meets Qcow2Header.Widths := by
  refine guard (fun hlen => ?_)
  simp only [qcow2HeaderLen] at hlen
  refine (meets_uintBE (by omega) (by omega)).bind (fun incompat _ => ?_)
  refine guard (fun _ => guard (fun _ => ?_))
  refine (hasCompressionField_meets b).bind (fun has hhas => ?_)
  cases has with
  | false =>
    -- Without the field the byte at 104 is never read.
    split
    · exact ⟨hw.l1Size_lt, hw.l1Offset_lt⟩
    · exact meets_err
  | true =>
    have hidx := meets_index (ε := Err) (hhas rfl)
    split <;> exact hidx.bind (fun _ _ => guard (fun _ => ⟨hw.l1Size_lt, hw.l1Offset_lt⟩))

/-- A header that passes the check has a layout. -/
theorem checkQCOW2Layout_meets {h : Qcow2Header} (hw : h.Widths) :
    (checkQCOW2Layout h).Meets (fun _ => h.Layout) := by
  refine guard (fun hbits => guard (fun hsize => ?_))
  simp only [not_or, not_lt] at hbits hsize
  have hcs : h.clusterSize ≤ 2 ^ 21 := Nat.pow_le_pow_right (by omega) hbits.2
  have hsz : h.size ≤ 2 ^ 56 := hsize
  have hneed : (h.size + h.clusterSize - 1) / h.clusterSize ≤ h.size + h.clusterSize :=
    (Nat.div_le_self _ _).trans (by omega)
  have hper := h.l2Entries_le
  have hl1 := hw.l1Size_lt
  refine (meets_add64 (by omega)).bind (fun _ hsum => ?_)
  subst hsum
  refine (meets_add64 (by omega)).bind (fun _ hsum => ?_)
  subst hsum
  refine guard (fun hcov => ?_)
  have hcov : h.needL1 ≤ h.l1Size := by
    rw [not_lt] at hcov
    exact hcov
  refine (meets_mul64 (by omega)).bind (fun _ hmul => ?_)
  subst hmul
  refine guard (fun hmax => guard (fun halign => ?_))
  simp only [not_lt, not_and, not_not] at hmax halign
  exact ⟨hw, hbits.1, hbits.2, hsz, hcov, hmax, halign⟩

/-- **Header safety.**  Parsing an untrusted header never faults, and an accepted header has a
    bounded layout. -/
theorem parseQCOW2Header_meets (b : Bytes) : (parseQCOW2Header b).Meets Qcow2Header.Layout := by
  refine guard (fun hlen => ?_)
  simp only [not_or, not_lt] at hlen
  refine (headerFields_meets hlen.1).bind (fun h hw => ?_)
  refine (meets_uintBE (by omega) (by omega)).bind (fun backing _ => ?_)
  refine guard (fun _ => guard (fun _ => ?_))
  have hv3 : (parseVersionFields h b).Meets Qcow2Header.Widths := by
    unfold parseVersionFields
    split
    · exact parseQCOW2V3Fields_meets hw
    · exact hw
  refine hv3.bind (fun h hw => ?_)
  refine (meets_uintBE (by omega) (by omega)).bind (fun crypt _ => ?_)
  exact guard (fun _ => (checkQCOW2Layout_meets hw).bind (fun _ hlay => hlay))

end Booty.Image
