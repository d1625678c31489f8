import Booty.Image.Qcow2.Header
import Booty.Lib.GoInt

namespace Booty.Image

open Booty.Lib Booty.Lib.Outcome

/-!
# The qcow2 to raw conversion (`pkg/image/qcow2raw.go`)

The functions of `qcow2ToRaw`, as the source computes them: the walk over the L1 table, the
walk over each L2 table, the standard, extended and compressed clusters, and the sparse
writer.  The source image is a byte string; the raw file, the shared cluster buffer and the
zstd decoder are the state of the converter, passed from call to call.

What the code takes from outside is a parameter.  `Codec` holds the two decompressors as fixed
functions of the stored bytes.  `Files` holds the answers of the context and of the operating
system: a cancellation before any L1 entry, and an error of any read, write, `Stat` or
`Truncate`.
-/

/-- The offset in an L2 entry. -/
def qcow2OffsetMask : Nat := 0x00fffffffffffe00

/-- The flag of a compressed cluster. -/
def qcow2Compressed : Nat := 1 <<< 62

/-- The flag of a cluster of zeros. -/
def qcow2ZeroFlag : Nat := 1 <<< 0

/-- The number of subclusters. -/
def qcow2Subclusters : Nat := 32

/-- The size of the blocks that are looked at for zeros. -/
def sparseBlock : Nat := 4096

/-- `zstd.MinWindowSize`. -/
def minWindowSize : Nat := 1024

/-- What a decompressor delivers: its output, and the error after it (`none`: end of stream). -/
structure Decoded where
  out : Bytes
  error : Option Err := none

/-- The decompressors, as functions of the stored bytes; zstd also of its largest window.
    `zstdNew` is the error of `zstd.NewReader`, `zstdReset` that of `Reset`. -/
structure Codec where
  inflate : Bytes → Decoded
  unzstd : Nat → Bytes → Decoded
  zstdNew : Option Err := none
  zstdReset : Bytes → Option Err := fun _ => none

/-- The answers of the context and the operating system. -/
structure Files where
  srcName : String := "image.qcow2"
  ctxErr : Nat → Option Err := fun _ => none
  statErr : Option Err := none
  readErr : Nat → Nat → Option String := fun _ _ => none
  writeErr : Nat → Bytes → Option Err := fun _ _ => none
  truncateErr : Option Err := none

/-- The state of a `qcow2Converter` that changes: the raw file, the shared cluster buffer and
    whether the zstd decoder was created. -/
structure Converter where
  dst : Bytes
  cluster : Bytes
  zstd : Bool := false

section

variable (codec : Codec) (os : Files) (img : Bytes)

/-! ### Reading the source -/

/-- The result of a read: the bytes read, and the error. -/
structure ReadResult where
  data : Bytes
  error : Option Err

/-- `os.File.ReadAt` for `n` bytes; a read past the end of the file ends with `io.EOF`. -/
def readAt (n : Nat) (off : Int) : ReadResult :=
  if off < 0 then ⟨[], some (.wrap s!"readat {os.srcName}" (.new "negative offset"))⟩
  else
    match os.readErr off.toNat n with
    | some text => ⟨[], some (.wrap s!"read {os.srcName}" (.new text))⟩
    | none =>
      let data := (img.drop off.toNat).take n
      ⟨data, if data.length < n then some (.std .eof) else none⟩

/-- The error of a read, where the end of the file is none (`err != nil && !errors.Is(err,
    io.EOF)`). -/
def ReadResult.failure (r : ReadResult) : Option Err := r.error.filter (fun e => !e.isStd .eof)

/-- `readFullAt`: fill `b` from offset `off`; returns the new content of `b`. -/
def readFullAt (b : Bytes) (off : Int) : Outcome Err Bytes :=
  if b.length = 0 then .ok b
  else if (img.length : Int) ≤ off then
    .err (.new (s!"offset {hex off.toNat} is past the end of the image ({img.length} bytes): " ++
      "truncated download?"))
  else
    let r := readAt os img b.length off
    let b := r.data ++ b.drop r.data.length
    match r.error with
    | none => .ok b
    | some e => if e.isStd .eof then clearSlice b r.data.length b.length else .err e

/-! ### Writing the raw file -/

/-- `allZero`. -/
def allZero (b : Bytes) : Bool := b.all (· == 0)

/-- The loop of `writeSparse` from offset `start` of `b` on. -/
def writeSparseFrom (b : Bytes) (off : Nat) : Nat → Nat → Bytes → Outcome Err Bytes
  | 0, _, _ => .fault .outOfFuel
  | fuel + 1, start, dst =>
    if start < b.length then do
      let stop := min (start + sparseBlock) b.length
      let block ← slice b start stop
      if allZero block then writeSparseFrom b off fuel (start + sparseBlock) dst
      else do
        let at_ ← add64 off start
        match os.writeErr at_ block with
        | some e => .err (.wrap "write raw image" e)
        | none => writeSparseFrom b off fuel (start + sparseBlock) (writeAt dst at_ block)
    else .ok dst

/-- `writeSparse`: write `b` at `off` and skip runs of zeros; returns the new raw file. -/
def writeSparse (dst b : Bytes) (off : Nat) : Outcome Err Bytes :=
  writeSparseFrom os b off (b.length + 1) 0 dst

/-! ### One cluster -/

variable (h : Qcow2Header)

/-- The bits of a compressed entry that hold the host offset. -/
def compressedShift : Nat := 62 - (h.clusterBits - 8)

/-- The host offset of a compressed entry. -/
def compressedOffset (entry : Nat) : Nat := entry &&& (1 <<< compressedShift h - 1)

/-- The number of sectors of a compressed entry. -/
def compressedSectors (entry : Nat) : Nat :=
  ((entry >>> compressedShift h) &&& (1 <<< (h.clusterBits - 8) - 1)) + 1

/-- The number of bytes that a compressed entry stores at most. -/
def compressedSize (entry : Nat) : Int :=
  ((compressedSectors h entry * 512 : Nat) : Int) - (compressedOffset h entry &&& 511 : Nat)

/-- `io.ReadFull(r, b)` for a decompressor that delivers `d`: the new content of `b`. -/
def readFull (d : Decoded) (b : Bytes) : Outcome Err Bytes :=
  if b.length ≤ d.out.length then .ok (d.out.take b.length)
  else
    match d.error with
    | some e => .err e
    | none => .err (.std (if d.out = [] then .eof else .unexpectedEOF))

/-- The window limit of the zstd decoder. -/
def zstdWindow : Nat := max h.clusterSize minWindowSize

/-- The decompressor that `readCompressed` sets up for the stored bytes. -/
def openDecoder (c : Converter) (stored : Bytes) : Outcome Err (Decoded × Converter) :=
  if h.compression = qcow2CompressZstd then
    match (if c.zstd then none else codec.zstdNew) with
    | some e => .err (.wrap "zstd decoder" e)
    | none =>
      match codec.zstdReset stored with
      | some e => .err (.wrap "zstd cluster" e)
      | none => .ok (codec.unzstd (zstdWindow h) stored, { c with zstd := true })
  else .ok (codec.inflate stored, c)

/-- `readCompressed`: decompress the cluster of a compressed entry into the buffer. -/
def readCompressed (c : Converter) (entry : Nat) : Outcome Err Converter := do
  let offset := compressedOffset h entry
  let bytes ← mul64 (compressedSectors h entry) 512
  let size : Int := (bytes : Int) - (offset &&& 511 : Nat)
  if (img.length : Int) ≤ wrap64 offset then
    .err (.new (s!"compressed cluster at {hex offset} starts past the end of the image " ++
      s!"({img.length} bytes): truncated download?"))
  else do
    let n ← makeLen size
    let r := readAt os img n (wrap64 offset)
    match r.failure with
    | some e => .err (.wrap "read compressed cluster" e)
    | none => do
      -- The last compressed cluster may end before its last sector.
      let opened ← openDecoder codec h c r.data
      let cluster ← (readFull opened.1 c.cluster).mapErr (.wrap "decompress cluster")
      .ok { opened.2 with cluster }

/-- Subcluster `k` reads as zeros: its zero bit is set or its allocated bit is clear. -/
def subclusterZero (bitmap k : Nat) : Bool :=
  bitmap &&& (1 <<< (32 + k)) != 0 || bitmap &&& (1 <<< k) == 0

/-- The subcluster loop of `convertCluster` from subcluster `k` on, `n` to go. -/
def clearSubclusters (bitmap sub : Nat) : Nat → Nat → Bytes → Outcome Err Bytes
  | 0, _, b => .ok b
  | n + 1, k, b =>
    if subclusterZero bitmap k then do
      let b ← clearSlice b (k * sub) ((k + 1) * sub)
      clearSubclusters bitmap sub n (k + 1) b
    else clearSubclusters bitmap sub n (k + 1) b

/-- The extended part of `convertCluster`: clear the subclusters that read as zeros. -/
def applyBitmap (bitmap : Nat) (b : Bytes) : Outcome Err Bytes :=
  if h.extendedL2 then
    clearSubclusters bitmap (h.clusterSize / qcow2Subclusters) qcow2Subclusters 0 b
  else .ok b

/-- `convertCluster`: write one guest cluster. -/
def convertCluster (c : Converter) (entry bitmap guest : Nat) : Outcome Err Converter :=
  if entry &&& qcow2Compressed ≠ 0 then do
    let c ← readCompressed codec os img h c entry
    let dst ← writeSparse os c.dst c.cluster guest
    .ok { c with dst }
  else if !h.extendedL2 ∧ 3 ≤ h.version ∧ entry &&& qcow2ZeroFlag ≠ 0 then .ok c
  else
    let host := entry &&& qcow2OffsetMask
    if host = 0 then .ok c
    else if host &&& (h.clusterSize - 1) ≠ 0 then
      .err (.new s!"data cluster offset {hex host} is not cluster aligned")
    else do
      let cluster ← (readFullAt os img c.cluster (wrap64 host)).mapErr (.wrap "read data cluster")
      let cluster ← applyBitmap h bitmap cluster
      let dst ← writeSparse os c.dst cluster guest
      .ok { c with dst, cluster }

/-! ### The table walks -/

/-- The width of an L2 entry. -/
def l2Width : Nat := if h.extendedL2 then 16 else 8

/-- The subcluster bitmap of L2 entry `j`; zero for standard entries. -/
def l2Bitmap (l2 : Bytes) (j : Nat) : Outcome Err Nat :=
  if h.extendedL2 then uint64At l2 (j * l2Width h + 8) else .ok 0

/-- The loop of `convertL2` from entry `j` on, `n` entries to go. -/
def convertL2From (l2 : Bytes) (first : Nat) : Nat → Nat → Converter → Outcome Err Converter
  | 0, _, c => .ok c
  | n + 1, j, c => do
    let cl ← add64 first j
    let guest ← mul64 cl h.clusterSize
    if h.size ≤ guest then .ok c
    else do
      let entry ← uint64At l2 (j * l2Width h)
      let bitmap ← l2Bitmap h l2 j
      let c ← (convertCluster codec os img h c entry bitmap guest).mapErr
        (.wrap s!"qcow2 guest offset {hex guest}")
      convertL2From l2 first n (j + 1) c

/-- `convertL2`: write the guest clusters that one L2 table maps. -/
def convertL2 (c : Converter) (l2 : Bytes) (first : Nat) : Outcome Err Converter :=
  convertL2From codec os img h l2 first h.l2Entries 0 c

/-- The body of the L1 loop for entry `i`: returns the converter and the L2 buffer. -/
def convertL1 (l1 : Bytes) (i : Nat) (c : Converter) (l2 : Bytes) :
    Outcome Err (Converter × Bytes) :=
  match os.ctxErr i with
  | some e => .err (.wrap "qcow2 conversion" e)
  | none => do
    let e ← uint64At l1 (i * 8)
    let l2Offset := e &&& qcow2OffsetMask
    if l2Offset = 0 then .ok (c, l2)
    else if l2Offset &&& (h.clusterSize - 1) ≠ 0 then
      .err (.new s!"qcow2 L2 table offset {hex l2Offset} is not cluster aligned")
    else do
      let l2 ← (readFullAt os img l2 (wrap64 l2Offset)).mapErr (.wrap s!"read qcow2 L2 table {i}")
      let first ← mul64 i h.l2Entries
      let c ← convertL2 codec os img h c l2 first
      .ok (c, l2)

/-- The L1 loop of `qcow2ToRaw` from entry `i` on. -/
def convertL1From (l1 : Bytes) : Nat → Nat → Converter → Bytes → Outcome Err Converter
  | 0, _, _, _ => .fault .outOfFuel
  | fuel + 1, i, c, l2 => do
    let first ← mul64 i h.l2Entries
    let guest ← mul64 first h.clusterSize
    if guest < h.size then do
      let next ← convertL1 codec os img h l1 i c l2
      convertL1From l1 fuel (i + 1) next.1 next.2
    else .ok c

end

/-- `readQCOW2Header`: read and validate the header of the source file. -/
def readQCOW2Header (os : Files) (img : Bytes) : Outcome Err Qcow2Header :=
  let r := readAt os img 512 0
  match r.failure with
  | some e => .err (.wrap "read qcow2 header" e)
  | none => parseQCOW2Header r.data

/-- `qcow2ToRaw` after the header was read: the conversion loops and the final truncation. -/
def convert (codec : Codec) (os : Files) (img dst : Bytes) (h : Qcow2Header) : Outcome Err Bytes :=
  match os.statErr with
  | some e => .err (.wrap "stat qcow2 image" e)
  | none => do
    let n ← mul64 h.l1Size 8
    let l1 ← (readFullAt os img (List.replicate n 0) (wrap64 h.l1Offset)).mapErr
      (.wrap "read qcow2 L1 table")
    let c ← convertL1From codec os img h l1 (h.l1Size + 1) 0
      { dst, cluster := List.replicate h.clusterSize 0 } (List.replicate h.clusterSize 0)
    match os.truncateErr with
    | some e => .err (.wrap "set raw image size" e)
    | none => .ok (resize c.dst h.size)

/-- `qcow2ToRaw`: write the guest view of the image to the raw file `dst`. -/
def qcow2ToRaw (codec : Codec) (os : Files) (img dst : Bytes) : Outcome Err Bytes := do
  let h ← readQCOW2Header os img
  convert codec os img dst h

end Booty.Image
