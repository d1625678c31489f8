import Booty.Image.Qcow2.Convert

namespace Booty.Image

open Booty.Lib Booty.Lib.Outcome List Meets Nat

/-!
# One guest cluster of a qcow2 image

`clusterByte` says what byte an L2 entry gives at an offset inside its cluster, by a direct
look at the image.  Every function of the conversion below the table walks gets one
specification: it does not fault, and a successful call leaves these bytes.

* `readFullAt_meets` — a read fills the buffer with a window of the image;
* `writeSparse_meets` — the sparse writer stores its buffer, where the file still reads as
  zeros;
* `convertCluster_meets` — one guest cluster is the image's `clusterByte`s.
-/

/-! ### The bytes of an entry -/

section

variable (codec : Codec) (img : Bytes) (h : Qcow2Header)

/-- The bytes that a compressed entry stores; fewer at the end of the image. -/
def storedBytes (entry : Nat) : Bytes :=
  (img.drop (compressedOffset h entry)).take (compressedSize h entry).toNat

/-- The output of the image's decompressor on the stored bytes of an entry. -/
def decompressed (entry : Nat) : Bytes :=
  if h.compression = qcow2CompressZstd then
    (codec.unzstd (zstdWindow h) (storedBytes img h entry)).out
  else (codec.inflate (storedBytes img h entry)).out

/-- The byte at offset `r` of the cluster of an L2 entry. -/
def clusterByte (entry bitmap r : Nat) : UInt8 :=
  if entry &&& qcow2Compressed ≠ 0 then byteAt (decompressed codec img h entry) r
  else if !h.extendedL2 ∧ 3 ≤ h.version ∧ entry &&& qcow2ZeroFlag ≠ 0 then 0
  else if entry &&& qcow2OffsetMask = 0 then 0
  else if h.extendedL2 ∧ subclusterZero bitmap (r / (h.clusterSize / qcow2Subclusters)) then 0
  else byteAt img ((entry &&& qcow2OffsetMask) + r)

end

/-! ### Reads -/

section

variable (os : Files) (img : Bytes)

/-- What a read does: it fails with an error other than `io.EOF`, or it delivers the bytes of
    the image, with `io.EOF` exactly when they are fewer than asked for. -/
theorem readAt_cases (n : Nat) (off : Int) :
    (∃ e, e.isStd .eof = false ∧ readAt os img n off = ⟨[], some e⟩) ∨
    (0 ≤ off ∧ ∃ data, data = (img.drop off.toNat).take n ∧ readAt os img n off =
      ⟨data, if data.length < n then some (.std .eof) else none⟩) := by
  unfold readAt
  by_cases hoff : off < 0
  · aesop
  · rw [if_neg hoff]
    cases os.readErr off.toNat n with
    | some text => exact .inl ⟨_, rfl, rfl⟩
    | none => exact .inr ⟨by omega, _, rfl, rfl⟩

/-- A read that does not fail delivers the bytes of the image. -/
theorem readAt_of_failure_none {n : Nat} {off : Int} (hr : (readAt os img n off).failure = none) :
    0 ≤ off ∧ (readAt os img n off).data = (img.drop off.toNat).take n := by
  rcases readAt_cases os img n off with ⟨e, hne, heq⟩ | ⟨hoff, data, hdata, heq⟩
  · grind [ReadResult.failure]
  · rw [heq]
    exact ⟨hoff, hdata⟩

/-- **Full reads.**  The buffer keeps its length and holds a window of the image; bytes past
    the end of the image are zeros. -/
theorem readFullAt_meets (b : Bytes) (off : Int) :
    (readFullAt os img b off).Meets (fun b' => b'.length = b.length ∧
      (0 < b.length → 0 ≤ off ∧ b' = window img off.toNat b.length)) := by
  unfold readFullAt
  by_cases hb : b.length = 0
  · simp_all
  rw [if_neg hb]
  refine guard (fun _ => ?_)
  rcases readAt_cases os img b.length off with ⟨e, hne, heq⟩ | ⟨hoff, data, hdata, heq⟩
  · simp only [heq, hne]
    exact meets_err
  have hle : data.length ≤ b.length := by
    rw [hdata]
    exact length_take_le _ _
  have hbuf : (data ++ b.drop data.length).length = b.length := by
    rw [length_append, length_drop]
    omega
  have hbyte : ∀ k, k < data.length → byteAt data k = byteAt img (off.toNat + k) := by
    intro k hk
    rw [hdata, byteAt_take, if_pos (by omega), byteAt_drop]
  simp only [heq]
  by_cases hshort : data.length < b.length
  · rw [if_pos hshort]
    refine (meets_clearSlice (by omega) le_rfl).mono (fun b' hb' => ?_)
    obtain ⟨hlen', hbyte'⟩ := hb'
    rw [hbuf] at hlen' hbyte'
    refine ⟨hlen', fun _ => ⟨hoff, ext_byteAt (by rw [hlen', length_window]) (fun k hk => ?_)⟩⟩
    rw [hlen'] at hk
    rw [hbyte', byteAt_window, if_pos hk]
    by_cases hk' : k < data.length
    · grind [byteAt_append]
    · -- Past the data the image itself has ended.
      rw [if_pos (by omega), byteAt_of_length_le]
      rw [hdata, length_take, length_drop] at hk' hshort
      omega
  · rw [if_neg hshort]
    refine ⟨hbuf, fun _ => ⟨hoff, ext_byteAt (by rw [hbuf, length_window]) (fun k hk => ?_)⟩⟩
    rw [hbuf] at hk
    rw [byteAt_append, if_pos (by omega), byteAt_window, if_pos hk, hbyte k (by omega)]

/-- A host offset is below `2 ^ 56`, so its `int64` conversion is exact. -/
theorem wrap64_host (entry : Nat) :
    wrap64 (entry &&& qcow2OffsetMask : Nat) = (entry &&& qcow2OffsetMask : Nat) := by
  have hle : entry &&& qcow2OffsetMask ≤ 0x00fffffffffffe00 := and_le_right
  exact wrap64_of_inInt64 ⟨by omega, by omega⟩

end

/-! ### Sparse writes -/

/-- `dst'` is `dst` with the bytes `f 0, …, f (n - 1)` stored at `off`; a byte of the range is
    only determined where `dst` reads as zero, because zero runs are skipped. -/
def Stores (dst dst' : Bytes) (off n : Nat) (f : Nat → UInt8) : Prop :=
  ∀ p, (off ≤ p → p < off + n → byteAt dst p = 0) →
    byteAt dst' p = if off ≤ p ∧ p < off + n then f (p - off) else byteAt dst p

/-- Leaving the raw file alone stores a cluster of zeros. -/
theorem stores_zero (dst : Bytes) (off n : Nat) (f : Nat → UInt8) (hf : ∀ k, f k = 0) :
    Stores dst dst off n f := by
  intro p hp
  split
  · rename_i hin
    rw [hp hin.1 hin.2, hf]
  · rfl

theorem Stores.congr {dst dst' : Bytes} {off n : Nat} {f g : Nat → UInt8}
    (hs : Stores dst dst' off n f) (hfg : ∀ k, k < n → f k = g k) : Stores dst dst' off n g := by
  intro p hp
  rw [hs p hp]
  split
  · exact hfg _ (by omega)
  · rfl

theorem byteAt_of_allZero {b : Bytes} (hz : allZero b = true) (k : Nat) : byteAt b k = 0 := by
  by_cases hk : k < b.length
  · rw [byteAt_eq_getElem hk]
    simpa using all_eq_true.mp hz b[k] (getElem_mem hk)
  · exact byteAt_of_length_le (by omega)

section

variable (os : Files)

/-- The loop of the sparse writer from `start` on, by induction on the blocks to go. -/
theorem writeSparseFrom_meets {b : Bytes} {off : Nat} (hoff : off + b.length < 2 ^ 63)
    {fuel start : Nat} {dst : Bytes} (hpos : 0 < fuel) (hfuel : b.length < start + fuel) :
    (writeSparseFrom os b off fuel start dst).Meets (fun dst' =>
      Stores dst dst' (off + start) (b.length - start) (fun k => byteAt b (start + k))) := by
  induction fuel generalizing start dst with
  | zero => exact absurd hpos (by omega)
  | succ fuel ih =>
    unfold writeSparseFrom
    by_cases hstart : start < b.length
    · rw [if_pos hstart]
      have ih := @ih (start + sparseBlock)
      simp only [sparseBlock] at ih ⊢
      refine (meets_slice (by omega) (by omega)).bind (fun block hblock => ?_)
      have hbyte : ∀ k, byteAt block k =
          if k < min (start + 4096) b.length - start then byteAt b (start + k) else 0 := by
        intro k
        rw [hblock, byteAt_window]
      have hlen : block.length = min (start + 4096) b.length - start := by
        rw [hblock, length_window]
      by_cases hz : allZero block = true
      · -- A block of zeros is skipped: the file already reads as zeros there.
        rw [if_pos hz]
        refine (ih (by omega) (by omega)).mono (fun dst' hst p hp => ?_)
        rw [hst p (fun h1 h2 => hp (by omega) (by omega))]
        by_cases hin : off + start ≤ p ∧ p < off + start + (b.length - start)
        · rw [if_pos hin]
          by_cases hnext : off + (start + 4096) ≤ p
          · rw [if_pos (by omega)]
            exact congrArg (byteAt b) (by omega)
          · rw [if_neg (by omega), hp hin.1 hin.2]
            have hzero := byteAt_of_allZero hz (p - (off + start))
            rw [hbyte, if_pos (by omega)] at hzero
            exact hzero.symm
        · rw [if_neg hin, if_neg (by omega)]
      · rw [if_neg hz]
        refine (meets_add64 (by omega)).bind (fun pos hpos' => ?_)
        subst hpos'
        cases os.writeErr (off + start) block with
        | some e => exact meets_err
        | none =>
          refine (ih (by omega) (by omega)).mono (fun dst' hst p hp => ?_)
          have hw := byteAt_writeAt dst (off + start) block p
          rw [hst p (fun h1 h2 => by rw [hw, if_neg (by omega)]; exact hp (by omega) (by omega)),
            hw, hbyte]
          by_cases hnext : off + (start + 4096) ≤ p ∧
              p < off + (start + 4096) + (b.length - (start + 4096))
          · rw [if_pos hnext, if_pos (by omega)]
            exact congrArg (byteAt b) (by omega)
          · rw [if_neg hnext]
            by_cases hin : off + start ≤ p ∧ p < off + start + (b.length - start)
            · rw [if_pos (by omega), if_pos (by omega), if_pos hin]
            · rw [if_neg (by omega), if_neg hin]
    · rw [if_neg hstart]
      intro p _
      rw [if_neg (by omega)]

/-- **Sparse writes.**  The buffer is stored at `off`. -/
theorem writeSparse_meets {b : Bytes} {off : Nat} (hoff : off + b.length < 2 ^ 63) (dst : Bytes) :
    (writeSparse os dst b off).Meets (fun dst' => Stores dst dst' off b.length (byteAt b)) := by
  refine (writeSparseFrom_meets os hoff (by omega) (by omega)).mono (fun dst' hst => ?_)
  simpa using hst

end

/-! ### Decompressors -/

theorem openDecoder_meets (codec : Codec) (img : Bytes) (h : Qcow2Header) (c : Converter)
    (entry : Nat) :
    (openDecoder codec h c (storedBytes img h entry)).Meets (fun opened =>
      opened.1.out = decompressed codec img h entry ∧ opened.2.dst = c.dst) := by
  unfold openDecoder decompressed
  by_cases hz : h.compression = qcow2CompressZstd
  · aesop
  · simp_all

/-- A full read from a decompressor takes the first bytes of its output. -/
theorem readFull_meets (d : Decoded) (b : Bytes) :
    (readFull d b).Meets (fun b' => b'.length = b.length ∧
      ∀ k, k < b.length → byteAt b' k = byteAt d.out k) := by
  unfold readFull
  split
  · rename_i hle
    refine ⟨by rw [length_take]; omega, fun k hk => ?_⟩
    rw [byteAt_take, if_pos hk]
  · split <;> exact meets_err

/-! ### Subclusters -/

/-- The subcluster loop from subcluster `k` on clears the subclusters that read as zeros. -/
theorem clearSubclusters_meets {bitmap sub : Nat} (hsub : 0 < sub) {n k : Nat} {b : Bytes}
    (hb : (k + n) * sub ≤ b.length) :
    (clearSubclusters bitmap sub n k b).Meets (fun b' => b'.length = b.length ∧
      ∀ p, byteAt b' p = if k * sub ≤ p ∧ p < (k + n) * sub ∧ subclusterZero bitmap (p / sub)
        then 0 else byteAt b p) := by
  induction n generalizing k b with
  | zero =>
    refine ⟨rfl, fun p => ?_⟩
    rw [if_neg (by rw [Nat.add_zero]; omega)]
  | succ n ih =>
    have hk1 : (k + 1 + n) * sub = (k + (n + 1)) * sub := by rw [Nat.add_assoc, Nat.add_comm 1 n]
    have hstep : (k + 1) * sub = k * sub + sub := succ_mul k sub
    have hle : (k + 1) * sub ≤ (k + (n + 1)) * sub := Nat.mul_le_mul_right sub (by omega)
    -- Subcluster `k` covers the offsets whose quotient is `k`.
    have hdiv : ∀ p, k * sub ≤ p → p < (k + 1) * sub → p / sub = k := fun p h1 h2 =>
      Nat.div_eq_of_lt_le h1 h2
    unfold clearSubclusters
    by_cases hz : subclusterZero bitmap k = true
    · rw [if_pos hz]
      refine (meets_clearSlice (by omega) (by omega)).bind (fun c hc => ?_)
      refine (ih (by rw [hk1, hc.1]; exact hb)).mono (fun b' hb' => ?_)
      refine ⟨hb'.1.trans hc.1, fun p => ?_⟩
      grind
    · rw [if_neg hz]
      refine (ih (by rw [hk1]; exact hb)).mono (fun b' hb' => ⟨hb'.1, fun p => ?_⟩)
      rw [hb'.2]
      refine if_congr ⟨?_, ?_⟩ rfl rfl
      · grind
      · grind

/-- Every subcluster slice lies inside the cluster. -/
theorem subcluster_le {h : Qcow2Header} {k : Nat} (hk : k < qcow2Subclusters) :
    (k + 1) * (h.clusterSize / qcow2Subclusters) ≤ h.clusterSize :=
  calc (k + 1) * (h.clusterSize / qcow2Subclusters)
      ≤ qcow2Subclusters * (h.clusterSize / qcow2Subclusters) := mul_le_mul_right _ hk
    _ ≤ h.clusterSize := mul_div_le _ _

section

variable {h : Qcow2Header} (lay : h.Layout)
include lay

theorem subclusters_eq : qcow2Subclusters * (h.clusterSize / qcow2Subclusters) = h.clusterSize :=
  Nat.mul_div_cancel' (Dvd.dvd.trans (by decide) lay.sector_dvd)

theorem applyBitmap_meets {bitmap : Nat} {b : Bytes} (hb : b.length = h.clusterSize) :
    (applyBitmap h bitmap b).Meets (fun b' => b'.length = b.length ∧
      ∀ r, r < h.clusterSize → byteAt b' r =
        if h.extendedL2 ∧ subclusterZero bitmap (r / (h.clusterSize / qcow2Subclusters))
        then 0 else byteAt b r) := by
  have hcs := lay.clusterSize_ge
  have heq := subclusters_eq lay
  unfold applyBitmap
  by_cases hext : h.extendedL2 = true
  · rw [if_pos hext]
    refine (clearSubclusters_meets ?_ (by rw [Nat.zero_add, heq, hb])).mono
      (fun b' hb' => ⟨hb'.1, fun r hr => ?_⟩)
    · grind
    · grind
  · simp_all

/-! ### Compressed clusters -/

theorem compressedOffset_lt (entry : Nat) : compressedOffset h entry < 2 ^ 61 := by
  have hbits := lay.minBits
  have hshift : 2 ^ compressedShift h ≤ 2 ^ 61 :=
    Nat.pow_le_pow_right (by omega) (by simp only [compressedShift]; omega)
  rw [compressedOffset, one_shiftLeft, and_two_pow_sub_one_eq_mod]
  exact Nat.lt_of_lt_of_le (Nat.mod_lt _ (by positivity)) hshift

/-- The sectors of a compressed entry hold at most two clusters. -/
theorem compressedSectors_le (entry : Nat) :
    compressedSectors h entry * 512 ≤ 2 * h.clusterSize := by
  have hbits := lay.minBits
  rw [compressedSectors, Nat.one_shiftLeft, Nat.and_two_pow_sub_one_eq_mod]
  have hlt := Nat.mod_lt (entry >>> compressedShift h) (Nat.two_pow_pos (h.clusterBits - 8))
  have hpow : 2 ^ (h.clusterBits - 8) * 512 = 2 * h.clusterSize := by
    rw [Qcow2Header.clusterSize, show (512 : Nat) = 2 ^ 9 from rfl, ← Nat.pow_add, ← Nat.pow_succ']
    congr 1; omega
  calc (entry >>> compressedShift h % 2 ^ (h.clusterBits - 8) + 1) * 512
      ≤ 2 ^ (h.clusterBits - 8) * 512 := Nat.mul_le_mul_right _ hlt
    _ = 2 * h.clusterSize := hpow

/-- **Compressed sizes** lie between one byte and two clusters. -/
theorem compressedSize_bounds (entry : Nat) :
    1 ≤ compressedSize h entry ∧ compressedSize h entry ≤ 2 * h.clusterSize := by
  have hle := compressedSectors_le lay entry
  have hsub : compressedOffset h entry &&& 511 ≤ 511 := and_le_right
  have hone : 1 ≤ compressedSectors h entry := succ_pos _
  unfold compressedSize
  omega

variable (codec : Codec) (os : Files) (img : Bytes)

/-- **Compressed clusters.**  The buffer holds the first bytes of the decompressed entry. -/
theorem readCompressed_meets {c : Converter} (hc : c.cluster.length = h.clusterSize) (entry : Nat) :
    (readCompressed codec os img h c entry).Meets (fun c' => c'.dst = c.dst ∧
      c'.cluster.length = h.clusterSize ∧ ∀ k, k < h.clusterSize →
        byteAt c'.cluster k = byteAt (decompressed codec img h entry) k) := by
  have hoff := compressedOffset_lt lay entry
  have hwrap : wrap64 (compressedOffset h entry) = compressedOffset h entry :=
    wrap64_of_inInt64 ⟨by omega, by omega⟩
  have hsectors := compressedSectors_le lay entry
  have hcs := lay.clusterSize_le
  refine (meets_mul64 (by omega)).bind (fun bytes hbytes => ?_)
  subst hbytes
  rw [hwrap]
  refine guard (fun _ => ?_)
  have hsize : (makeLen (compressedSize h entry) : Outcome Err Nat) =
      .ok (compressedSize h entry).toNat :=
    if_pos (by have := (compressedSize_bounds lay entry).1; omega)
  show (makeLen (compressedSize h entry) >>= _).Meets _
  rw [hsize, bind_ok]
  dsimp only
  cases hf : (readAt os img (compressedSize h entry).toNat (compressedOffset h entry)).failure with
  | some e => exact meets_err
  | none =>
    have hdata := (readAt_of_failure_none os img hf).2
    rw [hdata]
    refine (openDecoder_meets codec img h c entry).bind (fun opened hopened => ?_)
    refine (readFull_meets opened.1 c.cluster).mapErr.bind (fun cluster hcluster => ?_)
    rw [hc, hopened.1] at hcluster
    exact ⟨hopened.2, hcluster⟩

/-- **One guest cluster.**  A successful conversion of an entry stores its `clusterByte`s. -/
theorem convertCluster_meets {c : Converter} (hc : c.cluster.length = h.clusterSize)
    {entry bitmap guest : Nat} (hguest : guest + h.clusterSize < 2 ^ 63) :
    (convertCluster codec os img h c entry bitmap guest).Meets (fun c' =>
      c'.cluster.length = h.clusterSize ∧
      Stores c.dst c'.dst guest h.clusterSize (clusterByte codec img h entry bitmap)) := by
  unfold convertCluster
  by_cases hcomp : entry &&& qcow2Compressed ≠ 0
  · rw [if_pos hcomp]
    refine (readCompressed_meets lay codec os img hc entry).bind (fun c1 hc1 => ?_)
    obtain ⟨hdst, hlen, hbytes⟩ := hc1
    refine (writeSparse_meets os (by rw [hlen]; exact hguest) c1.dst).bind (fun dst hst => ?_)
    rw [hlen, hdst] at hst
    refine ⟨hlen, hst.congr (fun k hk => ?_)⟩
    rw [hbytes k hk, clusterByte, if_pos hcomp]
  -- Not compressed: zeros, no data, or a data cluster.
  rw [if_neg hcomp]
  by_cases hzero : !h.extendedL2 ∧ 3 ≤ h.version ∧ entry &&& qcow2ZeroFlag ≠ 0
  · rw [if_pos hzero]
    refine ⟨hc, stores_zero _ _ _ _ (fun k => ?_)⟩
    rw [clusterByte, if_neg hcomp, if_pos hzero]
  rw [if_neg hzero]
  by_cases hhost : entry &&& qcow2OffsetMask = 0
  · simp only [hhost]
    refine ⟨hc, stores_zero _ _ _ _ (fun k => ?_)⟩
    rw [clusterByte, if_neg hcomp, if_neg hzero, if_pos hhost]
  simp only [hhost]
  refine guard (fun _ => ?_)
  rw [wrap64_host]
  refine (readFullAt_meets os img c.cluster _).mapErr.bind (fun cl hcl => ?_)
  have hcs := lay.clusterSize_ge
  obtain ⟨-, hwin⟩ := hcl.2 (by omega)
  rw [Int.toNat_natCast, hc] at hwin
  have hlen : cl.length = h.clusterSize := hcl.1.trans hc
  refine (applyBitmap_meets lay hlen).bind (fun cl' hcl' => ?_)
  have hlen' := hcl'.1.trans hlen
  refine (writeSparse_meets os (by rw [hlen']; exact hguest) c.dst).bind (fun dst hst => ?_)
  rw [hlen'] at hst
  refine ⟨hlen', hst.congr (fun k hk => ?_)⟩
  rw [hcl'.2 k hk, clusterByte, if_neg hcomp, if_neg hzero, if_neg hhost, hwin, byteAt_window,
    if_pos hk]

end

end Booty.Image
