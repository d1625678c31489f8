import Booty.Image.Qcow2.Cluster

namespace Booty.Image

open Booty.Lib Booty.Lib.Outcome List Nat Qcow2Header

/-!
# The guest view of a qcow2 image

`guestByte` is the plain lookup of one guest offset: L1 entry, L2 entry, cluster.  The
conversion walks the tables cluster by cluster with shared buffers and skips what reads as
zeros; the theorems here say that its result is the lookup at every offset, and that no
untrusted table makes it fault.

* `convertL2From_meets`, `convertL1From_meets` — the loop invariants of the two walks;
* `qcow2ToRaw_eq_guestView` — the raw file is the guest view;
* `qcow2ToRaw_in_bounds` — every index, slice and offset of the conversion is in range.
-/

section

variable (codec : Codec) (img : Bytes) (h : Qcow2Header)

/-- Entry `i` of the L1 table. -/
def l1Entry (i : Nat) : Nat := bigEndian (window img (h.l1Offset + i * 8) 8)

/-- Entry `j` of the L2 table at `l2Offset`. -/
def l2Entry (l2Offset j : Nat) : Nat := bigEndian (window img (l2Offset + j * l2Width h) 8)

/-- The subcluster bitmap of entry `j` of the L2 table at `l2Offset`; zero for standard
    entries. -/
def l2EntryBitmap (l2Offset j : Nat) : Nat :=
  if h.extendedL2 then bigEndian (window img (l2Offset + (j * l2Width h + 8)) 8) else 0

/-- The host offset of the L2 table that maps guest cluster `i * l2Entries` and the following
    ones. -/
def l2Host (i : Nat) : Nat := l1Entry img h i &&& qcow2OffsetMask

/-- **The lookup.**  The guest byte at offset `g`. -/
def guestByte (g : Nat) : UInt8 :=
  let l2Offset := l2Host img h (g / (h.l2Entries * h.clusterSize))
  let j := g / h.clusterSize % h.l2Entries
  if l2Offset = 0 then 0
  else clusterByte codec img h (l2Entry img h l2Offset j) (l2EntryBitmap img h l2Offset j)
    (g % h.clusterSize)

/-- Guest cluster `i * l2Entries + j` is entry `j` of L2 table `i`. -/
theorem guestByte_of_cluster {i j r : Nat} (hj : j < h.l2Entries) (hr : r < h.clusterSize) :
    guestByte codec img h ((i * h.l2Entries + j) * h.clusterSize + r) =
      if l2Host img h i = 0 then 0
      else clusterByte codec img h (l2Entry img h (l2Host img h i) j)
        (l2EntryBitmap img h (l2Host img h i) j) r := by
  have hq : ((i * h.l2Entries + j) * h.clusterSize + r) / h.clusterSize = i * h.l2Entries + j := by
    rw [Nat.mul_comm, Nat.mul_add_div (by omega), Nat.div_eq_of_lt hr, Nat.add_zero]
  have hm : ((i * h.l2Entries + j) * h.clusterSize + r) % h.clusterSize = r := by
    rw [Nat.mul_add_mod', Nat.mod_eq_of_lt hr]
  have hi : (i * h.l2Entries + j) / h.l2Entries = i := by
    rw [Nat.mul_comm, Nat.mul_add_div (by omega), Nat.div_eq_of_lt hj, Nat.add_zero]
  have hjm : (i * h.l2Entries + j) % h.l2Entries = j := by
    rw [Nat.mul_add_mod', Nat.mod_eq_of_lt hj]
  unfold guestByte
  rw [Nat.mul_comm h.l2Entries, ← Nat.div_div_eq_div_mul, hq, hm, hi, hjm]

/-! ### The invariant of the table walks -/

/-- After `m` guest clusters the raw file holds their bytes and zeros behind them, wherever
    the destination `dst0` read as zero. -/
def Agrees (dst0 dst : Bytes) (m : Nat) : Prop :=
  ∀ p, byteAt dst0 p = 0 →
    byteAt dst p = if p < m * h.clusterSize then guestByte codec img h p else 0

variable {codec img h} {dst0 dst dst' : Bytes} {i j m : Nat}

/-- Storing the bytes of the next guest cluster. -/
theorem Agrees.store (hag : Agrees codec img h dst0 dst (i * h.l2Entries + j))
    (hj : j < h.l2Entries) (hhost : l2Host img h i ≠ 0)
    (hst : Stores dst dst' ((i * h.l2Entries + j) * h.clusterSize) h.clusterSize
      (clusterByte codec img h (l2Entry img h (l2Host img h i) j)
        (l2EntryBitmap img h (l2Host img h i) j))) :
    Agrees codec img h dst0 dst' (i * h.l2Entries + (j + 1)) := by
  intro p hp
  have hnext : (i * h.l2Entries + (j + 1)) * h.clusterSize =
      (i * h.l2Entries + j) * h.clusterSize + h.clusterSize := by
    rw [← Nat.add_assoc, succ_mul]
  rw [hst p (fun hlo _ => by rw [hag p hp, if_neg (by omega)]), hnext]
  by_cases hin : (i * h.l2Entries + j) * h.clusterSize ≤ p ∧
      p < (i * h.l2Entries + j) * h.clusterSize + h.clusterSize
  · obtain ⟨r, rfl⟩ := Nat.exists_eq_add_of_le hin.1
    have hr : r < h.clusterSize := by omega
    rw [if_pos hin, if_pos hin.2, guestByte_of_cluster codec img h hj hr, if_neg hhost,
      Nat.add_sub_cancel_left]
  · rw [if_neg hin, hag p hp]
    exact if_congr (by omega) rfl rfl

/-- An unallocated L2 table maps zeros only. -/
theorem Agrees.skip (hag : Agrees codec img h dst0 dst (i * h.l2Entries))
    (hhost : l2Host img h i = 0) :
    Agrees codec img h dst0 dst ((i + 1) * h.l2Entries) := by
  intro p hp
  rw [hag p hp]
  have hle : i * h.l2Entries * h.clusterSize ≤ (i + 1) * h.l2Entries * h.clusterSize :=
    Nat.mul_le_mul_right _ (Nat.mul_le_mul_right _ (by omega))
  by_cases hlo : p < i * h.l2Entries * h.clusterSize
  · rw [if_pos hlo, if_pos (by omega)]
  · rw [if_neg hlo]
    split
    · rename_i hhi
      have hdiv : p / (h.l2Entries * h.clusterSize) = i := by
        refine Nat.div_eq_of_lt_le ?_ ?_
        · rw [← Nat.mul_assoc]; omega
        · rw [← Nat.mul_assoc]; exact hhi
      unfold guestByte
      rw [hdiv, if_pos hhost]
    · rfl

/-- The state before L1 entry `i`: all earlier guest clusters are converted, or the walk has
    already passed the virtual size. -/
def Walked (codec : Codec) (img : Bytes) (h : Qcow2Header) (dst0 : Bytes) (i : Nat)
    (c : Converter) : Prop :=
  c.cluster.length = h.clusterSize ∧ ∃ m, m ≤ i * h.l2Entries ∧ Agrees codec img h dst0 c.dst m ∧
    (m = i * h.l2Entries ∨ h.size ≤ m * h.clusterSize)

end

/-! ### The walks -/

section

variable (codec : Codec) (os : Files) (img : Bytes) {h : Qcow2Header} (lay : h.Layout)
  {dst0 : Bytes}
include lay

/-- An L2 entry lies inside its table. -/
theorem l2_entry_le {j : Nat} (hj : j < h.l2Entries) :
    j * l2Width h + 8 ≤ h.clusterSize ∧
      (h.extendedL2 = true → j * l2Width h + 8 + 8 ≤ h.clusterSize) := by
  obtain ⟨k, hk⟩ := lay.sector_dvd
  rw [l2Entries] at hj
  rw [l2Width]
  grind

/-- Every guest offset of an L1 entry inside the table, with its cluster, fits in `int64`. -/
theorem guest_lt {i j : Nat} (hi : i < h.l1Size) (hj : j < h.l2Entries) :
    (i * h.l2Entries + j) * h.clusterSize + h.clusterSize ≤ 2 ^ 61 := by
  have hcs := lay.clusterSize_le
  have hper : h.l2Entries ≤ 2 ^ 18 := h.l2Entries_le.trans (by omega)
  have hl1 := lay.l1Bytes
  calc (i * h.l2Entries + j) * h.clusterSize + h.clusterSize
      = (i * h.l2Entries + (j + 1)) * h.clusterSize := by
        rw [← Nat.add_assoc, succ_mul]
    _ ≤ ((i + 1) * h.l2Entries) * h.clusterSize := by
        apply Nat.mul_le_mul_right
        rw [succ_mul]; omega
    _ ≤ (2 ^ 22 * 2 ^ 18) * 2 ^ 21 := Nat.mul_le_mul (Nat.mul_le_mul (by omega) hper) hcs
    _ = 2 ^ 61 := by norm_num

omit lay in
theorem l2Bitmap_meets {l2 : Bytes} {l2Offset j : Nat}
    (hl2 : l2 = window img l2Offset h.clusterSize)
    (hj : h.extendedL2 = true → j * l2Width h + 8 + 8 ≤ h.clusterSize) :
    (l2Bitmap h l2 j).Meets (· = l2EntryBitmap img h l2Offset j) := by
  unfold l2Bitmap l2EntryBitmap
  by_cases hext : h.extendedL2 = true
  · grind [meets_uint64At, length_window, window_window]
  · rw [if_neg hext, if_neg hext]
    rfl

/-- **L2 walk.**  From entry `j` on, the loop converts one guest cluster after the other until
    the table or the virtual size ends. -/
theorem convertL2From_meets {i : Nat} (hi : i < h.l1Size) (hhost : l2Host img h i ≠ 0)
    {n j : Nat} (hn : j + n = h.l2Entries) {c : Converter} (hc : c.cluster.length = h.clusterSize)
    (hag : Agrees codec img h dst0 c.dst (i * h.l2Entries + j)) :
    (convertL2From codec os img h (window img (l2Host img h i) h.clusterSize) (i * h.l2Entries)
      n j c).Meets (Walked codec img h dst0 (i + 1)) := by
  have hend : (i + 1) * h.l2Entries = i * h.l2Entries + h.l2Entries := succ_mul _ _
  induction n generalizing j c with
  | zero => exact ⟨hc, _, by omega, hag, .inl (by omega)⟩
  | succ n ih =>
    have hj : j < h.l2Entries := by omega
    have hguest := guest_lt lay hi hj
    have hsum : i * h.l2Entries + j < 2 ^ 63 := by
      have := Nat.le_mul_of_pos_right (i * h.l2Entries + j)
        (show 0 < h.clusterSize by have := lay.clusterSize_ge; omega)
      omega
    refine (meets_add64 hsum).bind (fun cl hcl => ?_)
    subst hcl
    refine (meets_mul64 (by omega)).bind (fun guest hg => ?_)
    subst hg
    by_cases hsize : h.size ≤ (i * h.l2Entries + j) * h.clusterSize
    · rw [if_pos hsize]
      exact ⟨hc, _, by omega, hag, .inr hsize⟩
    rw [if_neg hsize]
    obtain ⟨hentry, hbitmap⟩ := l2_entry_le lay hj
    refine (meets_uint64At (by rw [length_window]; exact hentry)).bind (fun entry he => ?_)
    rw [window_window hentry] at he
    refine (l2Bitmap_meets img rfl hbitmap).bind (fun bitmap hb => ?_)
    subst he hb
    refine (convertCluster_meets lay codec os img hc (by omega)).mapErr.bind (fun c' hc' => ?_)
    exact ih (by omega) hc'.1 (hag.store hj hhost hc'.2)

/-- **L1 step.**  One L1 entry. -/
theorem convertL1_meets {l1 l2 : Bytes} {i : Nat} {c : Converter}
    (hl1 : l1 = window img h.l1Offset (h.l1Size * 8)) (hl2 : l2.length = h.clusterSize)
    (hi : i < h.l1Size) (hsize : i * h.l2Entries * h.clusterSize < h.size)
    (hw : Walked codec img h dst0 i c) :
    (convertL1 codec os img h l1 i c l2).Meets (fun next =>
      Walked codec img h dst0 (i + 1) next.1 ∧ next.2.length = h.clusterSize) := by
  have hcs := lay.clusterSize_ge
  obtain ⟨hc, m, hm, hag, hmi⟩ := hw
  -- The walk has not passed the virtual size, so every earlier cluster is converted.
  have hmi : m = i * h.l2Entries := hmi.resolve_right (fun hle => by
    have := Nat.mul_le_mul_right h.clusterSize hm
    omega)
  subst hmi
  unfold convertL1
  cases os.ctxErr i with
  | some e => exact meets_err
  | none =>
    refine (meets_uint64At (by rw [hl1, length_window]; omega)).bind (fun e he => ?_)
    rw [hl1, window_window (by omega)] at he
    have hhost : e &&& qcow2OffsetMask = l2Host img h i := by rw [he]; rfl
    by_cases hzero : e &&& qcow2OffsetMask = 0
    · rw [if_pos hzero]
      exact ⟨⟨hc, _, le_rfl, hag.skip (hhost ▸ hzero), .inl rfl⟩, hl2⟩
    rw [if_neg hzero]
    refine Meets.guard (fun _ => ?_)
    rw [wrap64_host, hhost]
    refine (readFullAt_meets os img l2 _).mapErr.bind (fun l2' hl2' => ?_)
    obtain ⟨-, hwin⟩ := hl2'.2 (by omega)
    rw [hl2] at hwin
    have hfirst : i * h.l2Entries < 2 ^ 63 := by
      have := guest_lt lay hi lay.l2Entries_pos
      have := Nat.le_mul_of_pos_right (i * h.l2Entries + 0) (show 0 < h.clusterSize by omega)
      omega
    refine (meets_mul64 hfirst).bind (fun first hf => ?_)
    subst hf
    subst hwin
    refine (convertL2From_meets codec os img lay hi (hhost ▸ hzero) (Nat.zero_add _) hc hag).bind
      (fun c' hc' => ⟨hc', length_window _ _ _⟩)

/-- **L1 walk.**  The loop ends by itself, with the guest view up to the virtual size. -/
theorem convertL1From_meets {l1 : Bytes} (hl1 : l1 = window img h.l1Offset (h.l1Size * 8))
    {fuel i : Nat} {c : Converter} {l2 : Bytes} (hi : i ≤ h.l1Size) (hfuel : h.l1Size < i + fuel)
    (hl2 : l2.length = h.clusterSize) (hw : Walked codec img h dst0 i c) :
    (convertL1From codec os img h l1 fuel i c l2).Meets (fun c' =>
      ∃ m, h.size ≤ m * h.clusterSize ∧ Agrees codec img h dst0 c'.dst m) := by
  induction fuel generalizing i c l2 with
  | zero => exact absurd hfuel (by omega)
  | succ fuel ih =>
    have hcs := lay.clusterSize_le
    have hper : h.l2Entries ≤ 2 ^ 18 := h.l2Entries_le.trans (by omega)
    have hl1b := lay.l1Bytes
    have hprod : i * h.l2Entries ≤ 2 ^ 22 * 2 ^ 18 := Nat.mul_le_mul (by omega) hper
    have hguest : i * h.l2Entries * h.clusterSize ≤ 2 ^ 22 * 2 ^ 18 * 2 ^ 21 :=
      Nat.mul_le_mul hprod hcs
    refine (meets_mul64 (by omega)).bind (fun first hf => ?_)
    subst hf
    refine (meets_mul64 (by omega)).bind (fun guest hg => ?_)
    subst hg
    by_cases hsize : i * h.l2Entries * h.clusterSize < h.size
    · rw [if_pos hsize]
      have hlt := lay.l1_index_lt hsize
      refine (convertL1_meets codec os img lay hl1 hl2 hlt hsize hw).bind (fun next hnext => ?_)
      exact ih (by omega) (by omega) hnext.2 hnext.1
    · rw [if_neg hsize]
      obtain ⟨-, m, -, hag, rfl | hm⟩ := hw
      · exact ⟨_, by omega, hag⟩
      · exact ⟨m, hm, hag⟩

end

/-! ### The whole conversion -/

/-- The conversion of an accepted header never faults, and the raw file has the virtual size
    and the guest view wherever the destination read as zero. -/
theorem convert_meets (codec : Codec) (os : Files) (img dst : Bytes) {h : Qcow2Header}
    (lay : h.Layout) :
    (convert codec os img dst h).Meets (fun raw => raw.length = h.size ∧
      ∀ g, g < h.size → byteAt dst g = 0 → byteAt raw g = guestByte codec img h g) := by
  have hl1 := lay.l1Bytes
  unfold convert
  cases os.statErr with
  | some e => exact meets_err
  | none =>
    refine (meets_mul64 (by omega)).bind (fun n hn => ?_)
    subst hn
    refine (readFullAt_meets os img _ _).mapErr.bind (fun l1 hread => ?_)
    rw [length_replicate] at hread
    have hwin : l1 = window img h.l1Offset (h.l1Size * 8) := by
      by_cases hpos : 0 < h.l1Size * 8
      · -- A negative offset would have failed the read.
        obtain ⟨hoff, heq⟩ := hread.2 hpos
        rwa [(wrap64_of_nonneg lay.l1Offset_lt hoff).2, Int.toNat_natCast] at heq
      · grind [length_window]
    have hstart : Walked codec img h dst 0
        { dst, cluster := replicate h.clusterSize 0 } := by
      refine ⟨length_replicate, 0, Nat.zero_le _, fun p hp => ?_, .inl (Nat.zero_mul _).symm⟩
      rw [hp, if_neg (by omega)]
    refine (convertL1From_meets codec os img lay hwin (Nat.zero_le _) (by omega)
      length_replicate hstart).bind (fun c hc => ?_)
    obtain ⟨m, hm, hag⟩ := hc
    cases os.truncateErr with
    | some e => exact meets_err
    | none =>
      refine ⟨length_resize _ _, fun g hg hz => ?_⟩
      rw [byteAt_resize, if_pos hg, hag g hz, if_pos (by omega)]

theorem readQCOW2Header_meets (os : Files) (img : Bytes) :
    (readQCOW2Header os img).Meets Layout := by
  unfold readQCOW2Header
  dsimp only
  cases (readAt os img 512 0).failure with
  | some e => exact meets_err
  | none => exact parseQCOW2Header_meets _

/-- The accepted header is the one in the first 512 bytes of the image. -/
theorem readQCOW2Header_eq_ok {os : Files} {img : Bytes} {h : Qcow2Header}
    (hh : readQCOW2Header os img = .ok h) : parseQCOW2Header (img.take 512) = .ok h := by
  unfold readQCOW2Header at hh
  dsimp only at hh
  cases hf : (readAt os img 512 0).failure with
  | some e =>
    rw [hf] at hh
    cases hh
  | none => simp_all [readAt_of_failure_none]

/-- **Guest view.**  Whenever the conversion into an empty destination succeeds, the raw file
    has exactly the virtual size of the header, and every byte of it is the one that the plain
    lookup gives. -/
theorem qcow2ToRaw_eq_guestView (codec : Codec) (os : Files) (img raw : Bytes)
    (hok : qcow2ToRaw codec os img [] = .ok raw) :
    ∃ h, parseQCOW2Header (img.take 512) = .ok h ∧ raw.length = h.size ∧
      ∀ g, g < h.size → byteAt raw g = guestByte codec img h g := by
  obtain ⟨h, hh, hconv⟩ := bind_eq_ok.mp hok
  have hlay := (readQCOW2Header_meets os img).of_eq_ok hh
  obtain ⟨hlen, hbyte⟩ := (convert_meets codec os img [] hlay).of_eq_ok hconv
  exact ⟨h, readQCOW2Header_eq_ok hh, hlen, fun g hg => hbyte g hg (byteAt_nil g)⟩

/-- A version 2 image of two 512-byte guest clusters: the first one is a data cluster that the
    end of the file cuts short, the second one is compressed. -/
def sampleImage : Bytes :=
  resize (qcow2Magic ++ putBigEndian 4 2 ++ putBigEndian 12 0 ++ putBigEndian 4 9 ++
    putBigEndian 8 1024 ++ putBigEndian 4 0 ++ putBigEndian 4 1 ++ putBigEndian 8 512) 512 ++
  resize (putBigEndian 8 1024) 512 ++
  resize (putBigEndian 8 1536 ++ putBigEndian 8 (2 ^ 62 + 1536)) 512 ++ [1, 2, 3, 4]

/-- A decompressor that repeats the number of stored bytes. -/
def sampleCodec : Codec where
  inflate stored := ⟨List.replicate 512 (UInt8.ofNat stored.length), none⟩
  unzstd _ _ := ⟨[], none⟩

/-- The guest view of `sampleImage`. -/
def sampleRaw : Bytes := resize [1, 2, 3, 4] 512 ++ List.replicate 512 4

theorem sampleImage_guestView :
    qcow2ToRaw sampleCodec {} sampleImage [] = .ok sampleRaw ∧
    ∃ h, parseQCOW2Header (sampleImage.take 512) = .ok h ∧ sampleRaw.length = h.size ∧
      ∀ g, g < h.size → byteAt sampleRaw g = guestByte sampleCodec sampleImage h g :=
  have hok : qcow2ToRaw sampleCodec {} sampleImage [] = .ok sampleRaw := by decide +kernel
  ⟨hok, qcow2ToRaw_eq_guestView sampleCodec {} sampleImage sampleRaw hok⟩

/-- **Bounds.**  For every image with an accepted header, whatever its tables hold: the L1
    index is inside the L1 table, every L2 entry and bitmap inside the L2 table, every guest
    offset and the offset of every write into its cluster inside `int64`, every compressed
    read between one byte and two clusters, every subcluster slice inside the cluster; and the
    conversion reaches neither an index or slice out of range, nor an overflow, nor the end of
    the bounds given for its loops. -/
theorem qcow2ToRaw_in_bounds (codec : Codec) (os : Files) (img dst : Bytes) (h : Qcow2Header)
    (hh : parseQCOW2Header (img.take 512) = .ok h) :
    (∀ i, i * h.l2Entries * h.clusterSize < h.size → i < h.l1Size) ∧
    (∀ j, j < h.l2Entries → j * l2Width h + 8 ≤ h.clusterSize ∧
      (h.extendedL2 = true → j * l2Width h + 8 + 8 ≤ h.clusterSize)) ∧
    (∀ i j r, i * h.l2Entries * h.clusterSize < h.size → j < h.l2Entries → r < h.clusterSize →
      (i * h.l2Entries + j) * h.clusterSize + r < 2 ^ 63) ∧
    (∀ entry, 1 ≤ compressedSize h entry ∧ compressedSize h entry ≤ 2 * h.clusterSize) ∧
    (∀ k, k < qcow2Subclusters →
      (k + 1) * (h.clusterSize / qcow2Subclusters) ≤ h.clusterSize) ∧
    (qcow2ToRaw codec os img dst).NoFault := by
  have hlay := (parseQCOW2Header_meets (img.take 512)).of_eq_ok hh
  refine ⟨fun i hi => hlay.l1_index_lt hi, fun j hj => l2_entry_le hlay hj, ?_,
    fun entry => compressedSize_bounds hlay entry, fun k hk => subcluster_le hk, ?_⟩
  · intro i j r hi hj hr
    have := guest_lt hlay (hlay.l1_index_lt hi) hj
    omega
  · have hmeets : (qcow2ToRaw codec os img dst).Meets (fun _ => True) :=
      (readQCOW2Header_meets os img).bind
        (fun _ hlay' => (convert_meets codec os img dst hlay').mono (fun _ _ => trivial))
    exact hmeets.noFault

/-- The header of `sampleImage`. -/
def sampleHeader : Qcow2Header where
  version := 2
  clusterBits := 9
  size := 1024
  l1Size := 1
  l1Offset := 512

theorem sampleImage_in_bounds :
    parseQCOW2Header (sampleImage.take 512) = .ok sampleHeader ∧
    (∀ i, i * sampleHeader.l2Entries * sampleHeader.clusterSize < sampleHeader.size →
      i < sampleHeader.l1Size) ∧
    (qcow2ToRaw sampleCodec {} sampleImage []).NoFault := by
  have hh : parseQCOW2Header (sampleImage.take 512) = .ok sampleHeader := by decide +kernel
  obtain ⟨hl1, -, -, -, -, hfault⟩ :=
    qcow2ToRaw_in_bounds sampleCodec {} sampleImage [] sampleHeader hh
  exact ⟨hh, hl1, hfault⟩

end Booty.Image
