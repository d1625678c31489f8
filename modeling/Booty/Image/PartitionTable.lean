import Booty.Image.Errors
import Booty.Lib.GoInt
import Booty.Lib.Outcome
import Booty.Lib.Text

namespace Booty.Image

open Booty.Lib Booty.Lib.Outcome Errs Meets

/-!
# Partition tables of a source image (`pkg/image/ab_stream.go`)

`parseStreamPartitions` reads the GPT, or else the MBR, from the first bytes of an untrusted
image.  All unsigned arithmetic wraps at 64 bits, as in the source, and every slice is checked.

`TableRange` is the table read back directly: the first and the last sector of an entry, as
unbounded integers.

* `parseStreamPartitions_meets` — parsing never faults, and every listed partition is the entry
  of its number, converted to `int64`.
-/

/-- The size of a sector. -/
def gptSectorSize : Nat := 512

/-- The largest size of a GPT entry. -/
def gptPartitionEntryMaxSize : Nat := 4096

/-- Where the MBR has its entries. -/
def mbrPartitionTableOffset : Nat := 446

/-- The size of an MBR entry. -/
def mbrPartitionEntrySize : Nat := 16

/-- The number of MBR entries. -/
def mbrPartitionEntryCount : Nat := 4

/-- A partition of the source image (`sfdiskPartition`); `start` and `size` are `int64` sector
    numbers. -/
structure SfdiskPartition where
  node : String
  start : Int
  size : Int
  type : String
  name : String := ""
  number : Nat
  deriving DecidableEq, Repr

/-! ### GPT -/

/-- `isZeroGUID`. -/
def isZeroGUID (guid : Bytes) : Bool := guid.all (· == 0)

/-- `guidString`: the text of a GUID, in upper case. -/
def guidString (guid : Bytes) : String :=
  let le (i n : Nat) := littleEndian (window guid i n)
  let b (i : Nat) := upperHex 2 (byteAt guid i).toNat
  upperHex 8 (le 0 4) ++ "-" ++ upperHex 4 (le 4 2) ++ "-" ++ upperHex 4 (le 6 2) ++ "-" ++
    b 8 ++ b 9 ++ "-" ++ b 10 ++ b 11 ++ b 12 ++ b 13 ++ b 14 ++ b 15

/-- The code units of a partition name, up to the first zero; an odd last byte is ignored. -/
def nameUnits : Bytes → List Nat
  | lo :: hi :: rest =>
    let r := lo.toNat + 256 * hi.toNat
    if r = 0 then [] else r :: nameUnits rest
  | _ => []

/-- `decodeGPTPartitionName`. -/
def decodeGPTPartitionName (name : Bytes) : String :=
  trimSpace (String.ofList (utf16Decode (nameUnits name)))

/-- The bytes of `"EFI PART"`. -/
def gptSignature : Bytes := [0x45, 0x46, 0x49, 0x20, 0x50, 0x41, 0x52, 0x54]

/-- The fields of a GPT header that the parser uses. -/
structure GptHeader where
  entriesLBA : Nat
  entryCount : Nat
  entrySize : Nat

variable (pre : Bytes) (h : GptHeader)

/-- The byte offset of the entry array; the product is a `uint64` and wraps. -/
def GptHeader.entriesOffset : Nat := h.entriesLBA * gptSectorSize % 2 ^ 64

/-- The offset of entry `i` (`uint64`). -/
def GptHeader.entryOffset (i : Nat) : Nat :=
  (h.entriesOffset + i * h.entrySize) % 2 ^ 64

/-- The GPT header in the second sector, or `errNoGPT`. -/
def gptHeader : Outcome Err GptHeader :=
  if pre.length < 2 * gptSectorSize then .err (.sentinel .noGPT)
  else do
    let header ← slice pre gptSectorSize (2 * gptSectorSize)
    let signature ← slice header 0 8
    if signature ≠ gptSignature then .err (.sentinel .noGPT)
    else do
      let entriesLBA ← uintLE header 72 80
      let entryCount ← uintLE header 80 84
      let entrySize ← uintLE header 84 88
      .ok { entriesLBA, entryCount, entrySize }

/-- Entry `i` of the GPT; `none` for an unused entry. -/
def gptEntry (i : Nat) : Outcome Err (Option SfdiskPartition) :=
  let offset := h.entryOffset i
  let stop := (offset + h.entrySize) % 2 ^ 64
  if stop < offset ∨ pre.length < offset ∨ pre.length < stop then
    .err (.new (s!"GPT partition entry {i + 1} exceeds streaming prefix: offset={offset} " ++
      s!"size={h.entrySize} prefix={pre.length}"))
  else do
    let entry ← slice pre offset stop
    let guid ← slice entry 0 16
    if isZeroGUID guid then .ok none
    else do
      let firstLBA ← uintLE entry 32 40
      let lastLBA ← uintLE entry 40 48
      if firstLBA = 0 ∨ lastLBA < firstLBA then
        .err (.new s!"invalid GPT partition {i + 1}: first_lba={firstLBA} last_lba={lastLBA}")
      else do
        let name ← slice entry 56 (min entry.length 128)
        .ok (some {
          node := s!"gpt-part-{i + 1}"
          start := wrap64 firstLBA
          size := wrap64 ((lastLBA - firstLBA + 1) % 2 ^ 64 : Nat)
          type := guidString guid
          name := decodeGPTPartitionName name
          number := i + 1 })

/-- The partitions from entry `i` on, `n` entries to go: the loop over a table. -/
def tableFrom (entry : Nat → Outcome Err (Option SfdiskPartition)) :
    Nat → Nat → Outcome Err (List SfdiskPartition)
  | 0, _ => .ok []
  | n + 1, i => do
    let p ← entry i
    let rest ← tableFrom entry n (i + 1)
    .ok (p.toList ++ rest)

/-- `parseGPTPartitions`. -/
def parseGPTPartitions : Outcome Err (List SfdiskPartition) := do
  let h ← gptHeader pre
  if h.entrySize < 56 ∨ gptPartitionEntryMaxSize < h.entrySize then
    .err (.new s!"invalid GPT partition entry size {h.entrySize}")
  else if 4096 < h.entryCount then
    .err (.new s!"refusing GPT with {h.entryCount} partition entries")
  else if pre.length < h.entriesOffset ∨
      pre.length - h.entriesOffset < h.entryCount * h.entrySize then
    .err (.new (s!"GPT partition entries exceed streaming prefix: offset={h.entriesOffset} " ++
      s!"size={h.entryCount * h.entrySize} prefix={pre.length}"))
  else tableFrom (gptEntry pre h) h.entryCount 0

/-! ### MBR -/

/-- Entry `i` of the MBR; `none` for an unused entry. -/
def mbrEntry (i : Nat) : Outcome Err (Option SfdiskPartition) := do
  let offset := mbrPartitionTableOffset + i * mbrPartitionEntrySize
  let entry ← slice pre offset (offset + mbrPartitionEntrySize)
  let partType ← index entry 4
  let start ← uintLE entry 8 12
  let size ← uintLE entry 12 16
  if partType = 0 ∨ size = 0 then .ok none
  else if start = 0 then
    .err (.new s!"invalid MBR partition {i + 1}: start_lba=0 size={size}")
  else
    .ok (some {
      node := s!"mbr-part-{i + 1}"
      start := wrap64 start
      size := wrap64 size
      type := lowerHex 2 partType.toNat
      number := i + 1 })

/-- `parseMBRPartitions`. -/
def parseMBRPartitions : Outcome Err (List SfdiskPartition) :=
  if pre.length < gptSectorSize then .err (.sentinel .noPartitionTable)
  else do
    let b510 ← index pre 510
    let b511 ← index pre 511
    if b510 ≠ 0x55 ∨ b511 ≠ 0xaa then .err (.sentinel .noPartitionTable)
    else do
      let parts ← tableFrom (mbrEntry pre) mbrPartitionEntryCount 0
      if parts.length = 0 then .err (.sentinel .noPartitionTable) else .ok parts

/-- `parseStreamPartitions`: the GPT, or the MBR where there is no GPT. -/
def parseStreamPartitions : Outcome Err (List SfdiskPartition) :=
  match parseGPTPartitions pre with
  | .err e =>
    if e.is .noGPT then
      match parseMBRPartitions pre with
      | .err e => if e.is .noPartitionTable then .err (.sentinel .noPartitionTable) else .err e
      | r => r
    else .err e
  | r => r

/-! ### The entries of a table -/

/-- The first and the last sector of a partition. -/
structure TableRange where
  first : Nat
  last : Nat
  deriving DecidableEq, Repr

/-- The GPT header fields of a prefix, read directly. -/
def gptFields : GptHeader where
  entriesLBA := littleEndian (window pre (512 + 72) 8)
  entryCount := littleEndian (window pre (512 + 80) 4)
  entrySize := littleEndian (window pre (512 + 84) 4)

/-- The prefix has a GPT header. -/
def hasGPT : Bool := 1024 ≤ pre.length ∧ window pre 512 8 = gptSignature

/-- The sectors of the table entry with the given number, from its `firstLBA` and `lastLBA`
    fields (GPT) or its start and size fields (MBR), as unbounded integers. -/
def tableRange (pre : Bytes) (number : Nat) : TableRange :=
  if hasGPT pre then
    let offset := (gptFields pre).entryOffset (number - 1)
    { first := littleEndian (window pre (offset + 32) 8)
      last := littleEndian (window pre (offset + 40) 8) }
  else
    let offset := 446 + (number - 1) * 16
    let start := littleEndian (window pre (offset + 8) 4)
    { first := start, last := start + littleEndian (window pre (offset + 12) 4) - 1 }

/-- The partition is the table entry of its number, converted to `int64` sector numbers. -/
structure IsEntry (pre : Bytes) (p : SfdiskPartition) : Prop where
  first_pos : 0 < (tableRange pre p.number).first
  ordered : (tableRange pre p.number).first ≤ (tableRange pre p.number).last
  last_lt : (tableRange pre p.number).last < 2 ^ 64
  start_eq : p.start = wrap64 (tableRange pre p.number).first
  size_eq : p.size =
    wrap64 ((tableRange pre p.number).last - (tableRange pre p.number).first + 1 : Nat)

theorem IsEntry.of_range {pre : Bytes} {p : SfdiskPartition} {first last : Nat}
    (hr : tableRange pre p.number = ⟨first, last⟩) (hpos : 0 < first) (hle : first ≤ last)
    (hlt : last < 2 ^ 64) (hstart : p.start = wrap64 first)
    (hsize : p.size = wrap64 (last - first + 1 : Nat)) : IsEntry pre p := by
  refine ⟨?_, ?_, ?_, ?_, ?_⟩ <;> rw [hr] <;> assumption

variable {entry : Nat → Outcome Err (Option SfdiskPartition)}

/-- The table loop never faults when no entry does, and lists only partitions of its entries. -/
theorem tableFrom_meets {P : SfdiskPartition → Prop} {n i : Nat}
    (hentry : ∀ k, i ≤ k → k < i + n → (entry k).Meets (fun p => ∀ q, p = some q → P q)) :
    (tableFrom entry n i).Meets (fun parts => ∀ q ∈ parts, P q) := by
  induction n generalizing i with
  | zero => exact fun q hq => absurd hq List.not_mem_nil
  | succ n ih =>
    refine (hentry i le_rfl (by omega)).bind (fun p hp => ?_)
    refine (ih (fun k hk hlt => hentry k (by omega) (by omega))).bind (fun rest hrest => ?_)
    intro q hq
    rcases List.mem_append.mp hq with hq | hq
    · exact hp q (Option.mem_toList.mp hq)
    · exact hrest q hq

/-- The GPT header is found exactly by its signature, and holds the fields of the prefix. -/
theorem gptHeader_eq :
    gptHeader pre = if hasGPT pre then .ok (gptFields pre) else .err (.sentinel .noGPT) := by
  unfold gptHeader
  by_cases hlen : pre.length < 2 * gptSectorSize
  · have hno : hasGPT pre = false := decide_eq_false (fun h => by
      simp only [gptSectorSize] at hlen
      omega)
    rw [if_pos hlen, hno]
    rfl
  · simp only [gptSectorSize] at hlen
    rw [if_neg (by simp only [gptSectorSize]; omega)]
    show slice pre 512 1024 >>= _ = _
    rw [slice_of_le (by omega) (by omega), bind_ok, slice_of_le (by omega) (by simp), bind_ok,
      window_window (by omega), uintLE_of_le (by omega) (by simp),
      uintLE_of_le (by omega) (by simp), uintLE_of_le (by omega) (by simp),
      window_window (by omega), window_window (by omega), window_window (by omega)]
    by_cases hsig : window pre 512 8 = gptSignature
    · have hyes : hasGPT pre = true := decide_eq_true ⟨by omega, hsig⟩
      rw [hyes, if_neg (not_not.mpr hsig)]
      rfl
    · have hno : hasGPT pre = false := decide_eq_false (fun h => hsig h.2)
      rw [hno, if_pos hsig]
      rfl

/-- Behind the header, no error of the GPT parser is `errNoGPT`. -/
theorem gptEntry_errs (i : Nat) : (gptEntry pre h i).Errs (fun e => e.is .noGPT = false) := by
  refine ite rfl (errs_slice.bind (fun entry => errs_slice.bind (fun guid => ?_)))
  refine ite trivial (errs_uintLE.bind (fun _ => errs_uintLE.bind (fun _ => ?_)))
  exact ite rfl (errs_slice.bind (fun _ => trivial))

theorem tableFrom_errs {E : Err → Prop}
    (hentry : ∀ i, (entry i).Errs E) (n i : Nat) : (tableFrom entry n i).Errs E := by
  induction n generalizing i with
  | zero => trivial
  | succ n ih => exact (hentry i).bind (fun _ => (ih (i + 1)).bind (fun _ => trivial))

/-- `errNoGPT` means that there is no GPT header. -/
theorem hasGPT_of_noGPT {pre : Bytes} {e : Err} (he : parseGPTPartitions pre = .err e)
    (hno : e.is .noGPT = true) : hasGPT pre = false := by
  by_contra hgpt
  rw [Bool.not_eq_false] at hgpt
  -- With the signature in place the header is read, and every later error is another one.
  have herrs : (parseGPTPartitions pre).Errs (fun e => e.is .noGPT = false) := by
    unfold parseGPTPartitions
    rw [gptHeader_eq, if_pos hgpt]
    exact ite rfl (ite rfl (ite rfl (tableFrom_errs (gptEntry_errs pre _) _ _)))
  rw [herrs.of_eq_err he] at hno
  cases hno

/-- A GPT entry never faults and is the entry of its number. -/
theorem gptEntry_meets {pre : Bytes} {i : Nat} (hgpt : hasGPT pre = true)
    (hsize : 56 ≤ (gptFields pre).entrySize) :
    (gptEntry pre (gptFields pre) i).Meets (fun p => ∀ q, p = some q → IsEntry pre q) := by
  have hsize32 : (gptFields pre).entrySize < 2 ^ 32 := by
    simpa [gptFields] using littleEndian_lt (window pre (512 + 84) 4)
  have hrange : tableRange pre (i + 1) =
      ⟨littleEndian (window pre ((gptFields pre).entryOffset i + 32) 8),
        littleEndian (window pre ((gptFields pre).entryOffset i + 40) 8)⟩ := by
    rw [tableRange, if_pos hgpt, Nat.add_sub_cancel]
  unfold gptEntry
  generalize (gptFields pre).entryOffset i = offset at hrange ⊢
  refine guard (fun hbounds => ?_)
  simp only [not_or, not_lt] at hbounds
  -- The end of the entry did not wrap, so the slice is one whole entry.
  have hstop : (offset + (gptFields pre).entrySize) % 2 ^ 64 =
      offset + (gptFields pre).entrySize := by
    omega
  rw [hstop] at hbounds ⊢
  refine (meets_slice hbounds.1 hbounds.2.2).bind (fun entry hentry => ?_)
  rw [Nat.add_sub_cancel_left] at hentry
  have hlen : entry.length = (gptFields pre).entrySize := by rw [hentry, length_window]
  refine (meets_slice (by omega) (by omega)).bind (fun guid _ => ?_)
  by_cases hzero : isZeroGUID guid = true
  · simp_all
  rw [if_neg hzero]
  refine (meets_uintLE (by omega) (by omega)).bind (fun first hfirst => ?_)
  refine (meets_uintLE (by omega) (by omega)).bind (fun last hlast => ?_)
  rw [hentry, window_window (by omega)] at hfirst hlast
  refine guard (fun horder => ?_)
  refine (meets_slice (by omega) (by omega)).bind (fun name _ => ?_)
  intro q hq
  cases hq
  have hlast64 : last < 2 ^ 64 := by
    rw [hlast]
    simpa using littleEndian_lt (window pre (offset + 40) 8)
  simp only [not_or, not_lt] at horder
  rw [← hfirst, ← hlast] at hrange
  refine IsEntry.of_range hrange (by omega) horder.2 hlast64 ?_ ?_
  · dsimp only
  · rw [Nat.mod_eq_of_lt (by omega)]

/-- An MBR entry never faults and is the entry of its number. -/
theorem mbrEntry_meets {pre : Bytes} {i : Nat} (hgpt : hasGPT pre = false)
    (hlen : 512 ≤ pre.length) (hi : i < 4) :
    (mbrEntry pre i).Meets (fun p => ∀ q, p = some q → IsEntry pre q) := by
  have hrange : tableRange pre (i + 1) =
      ⟨littleEndian (window pre (446 + i * 16 + 8) 4),
        littleEndian (window pre (446 + i * 16 + 8) 4) +
          littleEndian (window pre (446 + i * 16 + 12) 4) - 1⟩ := by
    rw [tableRange, hgpt]
    rfl
  unfold mbrEntry
  simp only [mbrPartitionTableOffset, mbrPartitionEntrySize]
  refine (meets_slice (by omega) (by omega)).bind (fun entry hentry => ?_)
  rw [Nat.add_sub_cancel_left] at hentry
  have hl : entry.length = 16 := by rw [hentry, length_window]
  refine (meets_index (by omega)).bind (fun partType _ => ?_)
  refine (meets_uintLE (by omega) (by omega)).bind (fun start hstart => ?_)
  refine (meets_uintLE (by omega) (by omega)).bind (fun size hsize => ?_)
  rw [hentry, window_window (by omega)] at hstart hsize
  by_cases hunused : partType = 0 ∨ size = 0
  · simp_all
  rw [if_neg hunused]
  refine guard (fun hpos => ?_)
  intro q hq
  cases hq
  have hstart32 : start < 2 ^ 32 := by
    rw [hstart]
    simpa using littleEndian_lt (window pre (446 + i * 16 + 8) 4)
  have hsize32 : size < 2 ^ 32 := by
    rw [hsize]
    simpa using littleEndian_lt (window pre (446 + i * 16 + 12) 4)
  rw [← hstart, ← hsize] at hrange
  refine IsEntry.of_range hrange (by omega) (by omega) (by omega) ?_ ?_
  · dsimp only
  · grind

/-- **Partition tables.**  Parsing an untrusted prefix never faults, and every listed partition
    is the table entry of its number. -/
theorem parseStreamPartitions_meets :
    (parseStreamPartitions pre).Meets (fun parts => ∀ p ∈ parts, IsEntry pre p) := by
  have hgptMeets : (parseGPTPartitions pre).Meets (fun parts => ∀ p ∈ parts, IsEntry pre p) := by
    unfold parseGPTPartitions
    rw [gptHeader_eq]
    by_cases hgpt : hasGPT pre = true
    · rw [if_pos hgpt]
      refine guard (fun hsize => guard (fun _ => guard (fun _ => ?_)))
      simp only [not_or, not_lt] at hsize
      exact tableFrom_meets (fun k _ _ => gptEntry_meets hgpt hsize.1)
    · rw [if_neg hgpt]
      exact meets_err
  have hmbrMeets (hgpt : hasGPT pre = false) :
      (parseMBRPartitions pre).Meets (fun parts => ∀ p ∈ parts, IsEntry pre p) := by
    refine guard (fun hlen => ?_)
    simp only [gptSectorSize, not_lt] at hlen
    refine (meets_index (by omega)).bind (fun _ _ => ?_)
    refine (meets_index (by omega)).bind (fun _ _ => guard (fun _ => ?_))
    have hentry : ∀ k, 0 ≤ k → k < 0 + mbrPartitionEntryCount →
        (mbrEntry pre k).Meets (fun p => ∀ q, p = some q → IsEntry pre q) := fun k _ hk =>
      mbrEntry_meets hgpt hlen (by simpa [mbrPartitionEntryCount] using hk)
    exact (tableFrom_meets hentry).bind (fun parts hparts => guard (fun _ => hparts))
  unfold parseStreamPartitions
  cases hg : parseGPTPartitions pre with
  | ok parts => exact hgptMeets.of_eq_ok hg
  | fault p => exact absurd hg (hgptMeets.noFault p)
  | err e =>
    -- Only a missing GPT leads on to the MBR.
    by_cases hno : e.is .noGPT = true
    · have hmbr := hmbrMeets (hasGPT_of_noGPT hg hno)
      simp only [hno]
      cases hm : parseMBRPartitions pre with
      | ok parts => exact hmbr.of_eq_ok hm
      | fault p => exact absurd hm (hmbr.noFault p)
      | err e => exact guard (fun _ => meets_err)
    · simp only [hno]
      exact meets_err

end Booty.Image
