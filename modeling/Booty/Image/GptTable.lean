import Booty.Image.PartitionTable

namespace Booty.Image

open Booty.Lib Booty.Lib.Outcome List Nat Outcome

/-!
# What the GPT parser lists

The entries of a GPT read directly, at unbounded byte offsets, next to what `parseGPTPartitions`
lists.  The two agree unless `entriesLBA * 512` wraps at 64 bits and the bytes at the wrapped
offset look like a table.

* `parseGPTPartitions_ok_iff` — when the parser succeeds, and what it lists.
* `gptTable_exact_iff` — the exact condition; `wrapped_entries_listed` breaks it.
-/

/-- The partition of an entry at a byte offset of the image; `none` for an unused entry. -/
def gptEntryAt (pre : Bytes) (offset size i : Nat) : Option SfdiskPartition :=
  let guid := window pre offset 16
  let firstLBA := littleEndian (window pre (offset + 32) 8)
  let lastLBA := littleEndian (window pre (offset + 40) 8)
  if isZeroGUID guid then none
  else some {
    node := s!"gpt-part-{i + 1}"
    start := wrap64 firstLBA
    size := wrap64 ((lastLBA - firstLBA + 1) % 2 ^ 64 : Nat)
    type := guidString guid
    name := decodeGPTPartitionName (window pre (offset + 56) (min size 128 - 56))
    number := i + 1 }

/-- The entries of a table at a byte offset, in table order. -/
def gptEntriesAt (pre : Bytes) (h : GptHeader) (offset : Nat) : List SfdiskPartition :=
  (List.range h.entryCount).filterMap fun i =>
    gptEntryAt pre (offset + i * h.entrySize) h.entrySize i

/-- The entry at a byte offset is unused or has a range of sectors. -/
def GoodEntry (pre : Bytes) (offset : Nat) : Prop :=
  isZeroGUID (window pre offset 16) = true ∨
    (0 < littleEndian (window pre (offset + 32) 8) ∧
      littleEndian (window pre (offset + 32) 8) ≤ littleEndian (window pre (offset + 40) 8))

/-- A header that the parser accepts: sizes in range, and a table of good entries in the prefix at
    the offset as a `uint64`. -/
structure Accepted (pre : Bytes) (h : GptHeader) : Prop where
  size : 56 ≤ h.entrySize ∧ h.entrySize ≤ gptPartitionEntryMaxSize
  count : h.entryCount ≤ 4096
  inside : h.entriesOffset + h.entryCount * h.entrySize ≤ pre.length
  good : ∀ i < h.entryCount, GoodEntry pre (h.entriesOffset + i * h.entrySize)

/-- The law: no access outside the prefix, and a table that is listed lies in the prefix and is
    listed as it stands there. -/
def GptExact (pre : Bytes) : Prop :=
  let h := gptFields pre
  let offset := h.entriesLBA * gptSectorSize
  (parseGPTPartitions pre).NoFault ∧ ∀ parts, parseGPTPartitions pre = .ok parts →
    offset + h.entryCount * h.entrySize ≤ pre.length ∧ parts = gptEntriesAt pre h offset

variable {pre : Bytes} {h : GptHeader}

/-- One entry. -/
theorem gptEntry_ok_iff {i offset : Nat} {p : Option SfdiskPartition} (hsize : 56 ≤ h.entrySize)
    (hoffset : h.entryOffset i = offset) (hin : offset + h.entrySize ≤ pre.length)
    (hlen : pre.length < 2 ^ 63) :
    gptEntry pre h i = .ok p ↔ GoodEntry pre offset ∧ gptEntryAt pre offset h.entrySize i = p := by
  -- No sum wraps around inside the prefix.
  have hstop : (offset + h.entrySize) % 2 ^ 64 = offset + h.entrySize := by omega
  have hread : ∀ k n, k + n ≤ h.entrySize →
      window (window pre offset h.entrySize) k n = window pre (offset + k) n :=
    fun k n hk => window_window hk
  unfold gptEntry
  simp only [hoffset, hstop]
  rw [if_neg (by omega), slice_of_le (by omega) hin, bind_ok, Nat.add_sub_cancel_left,
    slice_of_le (by omega) (by simp; omega), bind_ok, hread 0 16 (by omega), Nat.add_zero]
  unfold GoodEntry gptEntryAt
  by_cases hzero : isZeroGUID (window pre offset 16) = true
  · simp [hzero]
  · rw [if_neg hzero, uintLE_of_le (by omega) (by simp; omega), bind_ok,
      uintLE_of_le (by omega) (by simp; omega), bind_ok, hread 32 8 (by omega),
      hread 40 8 (by omega)]
    by_cases hbad : littleEndian (window pre (offset + 32) 8) = 0 ∨
        littleEndian (window pre (offset + 40) 8) < littleEndian (window pre (offset + 32) 8)
    · rw [if_pos hbad]
      refine iff_of_false (by simp) fun ⟨hgood, _⟩ => ?_
      have := hgood.resolve_left hzero
      omega
    · rw [if_neg hbad, length_window, slice_of_le (by omega) (by simp), bind_ok,
        hread 56 _ (by omega)]
      simp only [hzero, ok.injEq]
      exact ⟨fun hp => ⟨by omega, hp⟩, fun hp => hp.2⟩

/-- The table loop succeeds iff every entry is good, and lists the entries in order. -/
theorem tableFrom_ok_iff {entry : Nat → Outcome Err (Option SfdiskPartition)} {good : Nat → Prop}
    {f : Nat → Option SfdiskPartition} {n i : Nat} {parts : List SfdiskPartition}
    (hentry : ∀ k, i ≤ k → k < i + n → ∀ p, entry k = .ok p ↔ good k ∧ f k = p) :
    tableFrom entry n i = .ok parts ↔
      (∀ k, i ≤ k → k < i + n → good k) ∧ parts = (range' i n).filterMap f := by
  induction n generalizing i parts with
  | zero =>
    simp only [tableFrom, ok.injEq]
    exact ⟨fun hp => ⟨fun k _ _ => by omega, hp.symm⟩, fun hp => hp.2.symm⟩
  | succ n ih =>
    have hrest := fun rest => @ih (i + 1) rest fun k hk hlt => hentry k (by omega) (by omega)
    simp only [tableFrom, bind_eq_ok, hentry i le_rfl (by omega), hrest, ok.injEq]
    rw [range'_succ, filterMap_cons]
    constructor
    · rintro ⟨p, ⟨hgood, rfl⟩, rest, ⟨hall, rfl⟩, rfl⟩
      refine ⟨fun k hk hlt => ?_, by cases f i <;> rfl⟩
      rcases Nat.eq_or_lt_of_le hk with rfl | hk
      · exact hgood
      · exact hall k hk (by omega)
    · rintro ⟨hall, rfl⟩
      refine ⟨f i, ⟨hall i le_rfl (by omega), rfl⟩, _,
        ⟨fun k hk hlt => hall k (by omega) (by omega), rfl⟩, by cases f i <;> rfl⟩

/-- **When the parser succeeds**, and what it lists. -/
theorem parseGPTPartitions_ok_iff {parts : List SfdiskPartition} (hgpt : hasGPT pre = true)
    (hlen : pre.length < 2 ^ 63) :
    parseGPTPartitions pre = .ok parts ↔ Accepted pre (gptFields pre) ∧
      parts = gptEntriesAt pre (gptFields pre) (gptFields pre).entriesOffset := by
  unfold parseGPTPartitions
  rw [gptHeader_eq, if_pos hgpt, bind_ok]
  generalize gptFields pre = h
  split_ifs with hsize hcount hin
  · simp only [false_iff]
    exact fun ⟨hacc, _⟩ => by have := hacc.size; omega
  · simp only [false_iff]
    exact fun ⟨hacc, _⟩ => by have := hacc.count; omega
  · simp only [false_iff]
    exact fun ⟨hacc, _⟩ => by have := hacc.inside; omega
  · have hend : ∀ k, k < h.entryCount →
        h.entriesOffset + k * h.entrySize + h.entrySize ≤ pre.length := by
      intro k hk
      have hmul : (k + 1) * h.entrySize ≤ h.entryCount * h.entrySize := mul_le_mul_right _ hk
      rw [succ_mul] at hmul
      omega
    rw [tableFrom_ok_iff fun k _ hk p => gptEntry_ok_iff (by omega)
      (mod_eq_of_lt (by have := hend k (by omega); omega)) (hend k (by omega)) hlen]
    rw [← range_eq_range']
    refine and_congr_left fun _ => ⟨fun hgood => ?_, fun hacc k _ hk => hacc.good k (by omega)⟩
    exact ⟨by omega, by omega, by omega, fun i hi => hgood i (zero_le i) (by omega)⟩

/-- **The table is listed as it stands in the image** iff no accepted table lies at a wrapped
    offset. -/
theorem gptTable_exact_iff (pre : Bytes) (hgpt : hasGPT pre = true) (hlen : pre.length < 2 ^ 63) :
    GptExact pre ↔
      (Accepted pre (gptFields pre) → (gptFields pre).entriesLBA * gptSectorSize < 2 ^ 64) := by
  constructor
  · intro hexact hacc
    obtain ⟨hin, -⟩ := hexact.2 _ ((parseGPTPartitions_ok_iff hgpt hlen).mpr ⟨hacc, rfl⟩)
    omega
  · intro hwrap
    refine ⟨fun p hp => ?_, fun parts hparts => ?_⟩
    · -- A fault of this parser would be one of the whole parser.
      have hmeets := parseStreamPartitions_meets pre
      rw [parseStreamPartitions, hp] at hmeets
      exact hmeets
    · obtain ⟨hacc, rfl⟩ := (parseGPTPartitions_ok_iff hgpt hlen).mp hparts
      have hoffset : (gptFields pre).entriesOffset = (gptFields pre).entriesLBA * gptSectorSize :=
        Nat.mod_eq_of_lt (hwrap hacc)
      exact ⟨hoffset ▸ hacc.inside, by rw [hoffset]⟩

/-- An image with one entry of 128 bytes, the bytes of the LBA of the table given: its first bytes
    look like an entry, and behind the header is an unused one. -/
def gptSample (lba : Bytes) : Bytes :=
  List.replicate 16 1 ++ List.replicate 16 0 ++ [1, 0, 0, 0, 0, 0, 0, 0] ++
    [1, 0, 0, 0, 0, 0, 0, 0] ++ List.replicate 464 0 ++ gptSignature ++ List.replicate 64 0 ++
    lba ++ [1, 0, 0, 0] ++ [128, 0, 0, 0] ++ List.replicate 552 0

/-- A table behind the header is listed as it stands there. -/
theorem gptTable_exact_sample :
    hasGPT (gptSample [2, 0, 0, 0, 0, 0, 0, 0]) = true ∧
      GptExact (gptSample [2, 0, 0, 0, 0, 0, 0, 0]) := by
  have hgpt : hasGPT (gptSample [2, 0, 0, 0, 0, 0, 0, 0]) = true := by decide +kernel
  have hlba : (gptFields (gptSample [2, 0, 0, 0, 0, 0, 0, 0])).entriesLBA * gptSectorSize
      < 2 ^ 64 := by decide +kernel
  exact ⟨hgpt, (gptTable_exact_iff _ hgpt (by decide +kernel)).mpr fun _ => hlba⟩

/-- **A table outside the image is listed.** Its LBA is 2⁵⁵, so that its offset wraps to 0. -/
theorem wrapped_entries_listed :
    hasGPT (gptSample [0, 0, 0, 0, 0, 0, 128, 0]) = true ∧
      parseGPTPartitions (gptSample [0, 0, 0, 0, 0, 0, 128, 0]) =
        .ok [⟨"gpt-part-1", 1, 1, "01010101-0101-0101-0101-010101010101", "", 1⟩] ∧
      ¬ GptExact (gptSample [0, 0, 0, 0, 0, 0, 128, 0]) := by
  have hparts : parseGPTPartitions (gptSample [0, 0, 0, 0, 0, 0, 128, 0]) =
      .ok [⟨"gpt-part-1", 1, 1, "01010101-0101-0101-0101-010101010101", "", 1⟩] := by
    decide +kernel
  refine ⟨by decide +kernel, hparts, fun hexact => ?_⟩
  exact absurd (hexact.2 _ hparts).1 (by decide +kernel)

end Booty.Image
