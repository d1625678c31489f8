import Booty.Image.Checksum
import Booty.Image.SourceSelect
import Booty.Lib.Stream

namespace Booty.Image

open Booty.Lib Booty.Lib.Prog

/-!
# Streaming an image into A/B targets (`pkg/image/ab.go`, `pkg/image/ab_stream.go`)

`streamABRaw` reads the partition table from the first 1 MiB of a forward-only stream and copies
the selected partitions into the target devices; a stream without a partition table is copied
whole into the root target.

The world holds the state of the source reader, what the readers in front of it keep
(`io.MultiReader`, `io.LimitedReader`, the payload hash), and the target devices: one log entry
for every opened device with the bytes written through it, and the devices that were synced.
The answers of the context and of the operating system may differ from call to call; they are
functions of the number of calls made before.
-/

/-- The size of the copy buffer. -/
def imageCopyBufferSize : Nat := 16 * 2 ^ 20

/-- How much of an image is read for its partition table. -/
def streamABPrefixBytes : Nat := 2 ^ 20

/-- The answers of the context and the operating system, by the number of calls before, and the
    free space that a `bytes.Buffer` offers after some bytes. -/
structure Os where
  ctxErr : Nat → Option Err := fun _ => none
  openErr : Nat → String → Option Err := fun _ _ => none
  write : Nat → String → Bytes → Nat × Option Err := fun _ _ b => (b.length, none)
  syncErr : Nat → String → Option Err := fun _ _ => none
  bufRoom : Nat → Nat := fun _ => 512

/-- The world of an A/B copy. -/
structure World (σ : Type) where
  src : σ
  srcEnded : Bool := false
  pending : Bytes := []
  limit : Int := 0
  hashed : Bytes := []
  clock : Nat := 0
  log : List (String × Bytes) := []
  synced : List String := []

/-- The targets of an A/B copy (`ABTargets`). -/
structure ABTargets where
  bootPartition : String
  rootPartition : String
  sourceRootLabel : String := ""
  sourceRootPartition : Int := 0

/-- `abStreamRange`: a byte range of the stream and its target. -/
structure AbStreamRange where
  name : String
  start : Int
  size : Int
  dst : String
  deriving DecidableEq, Repr

/-! ### Dirty targets -/

/-- The targets that an error lists. -/
def dirtyTargets (e : DirtyErr) : List String := e.as.getD []

/-- `dirtyABTargetsError` for an error that is not nil: add the targets to those that the error
    already lists, without blanks and repetitions. -/
def dirtyABTargetsError (e : DirtyErr) (targets : List String) : DirtyErr :=
  let unique := (((targets ++ dirtyTargets e).map trimSpace).filter (· ≠ "")).eraseDups
  if unique = [] then e else .typed unique e

/-- `invalidateDirtyABTargets`: the devices that are wiped after an error. -/
def invalidateDirtyABTargets (e : DirtyErr) : List String := dirtyTargets e

/-- `abRangeTargets`. -/
def abRangeTargets (ranges : List AbStreamRange) : List String := ranges.map (·.dst)

section

variable {σ : Type}

/-! ### The operating system -/

variable (os : Os) (r : Reader (World σ) Sentinel)

/-- `ctx.Err()`. -/
def ctxErr : Prog (World σ) DirtyErr (Option Err) :=
  act fun w => (os.ctxErr w.clock, { w with clock := w.clock + 1 })

/-- `os.OpenFile(dst, os.O_WRONLY, 0)`: a handle, or an error; the empty path does not exist. -/
def openFile (dst : String) : Prog (World σ) DirtyErr (Except Err Nat) :=
  act fun w =>
    if dst = "" then
      (.error (.wrap "open " (.new "no such file or directory")), { w with clock := w.clock + 1 })
    else
      match os.openErr w.clock dst with
      | some e => (.error e, { w with clock := w.clock + 1 })
      | none => (.ok w.log.length, { w with clock := w.clock + 1, log := w.log ++ [(dst, [])] })

/-- `out.Write(data)`: the number of bytes that reached the device, and the error. -/
def write (out : Nat) (dst : String) (data : Bytes) : Prog (World σ) DirtyErr (Nat × Option Err) :=
  act fun w =>
    let res := os.write w.clock dst data
    let n := min res.1 data.length
    ((n, res.2), { w with
      clock := w.clock + 1
      log := w.log.modify out (fun entry => (entry.1, entry.2 ++ data.take n)) })

/-- `out.Sync()`. -/
def sync (dst : String) : Prog (World σ) DirtyErr (Option Err) :=
  act fun w => (os.syncErr w.clock dst,
    { w with clock := w.clock + 1, synced := w.synced ++ [dst] })

/-! ### Readers -/

/-- The source reader, as part of the world. -/
def srcRead (r : Reader σ Sentinel) : Reader (World σ) Sentinel := fun n w =>
  let res := r n w.src
  (res.1, { w with src := res.2 })

/-- `io.MultiReader(bytes.NewReader(prefix), src)`: the pending bytes first; after `io.EOF` the
    source is not read again. -/
def multiRead (r : Reader σ Sentinel) : Reader (World σ) Sentinel := fun n w =>
  if w.pending ≠ [] then (⟨w.pending.take n, none⟩, { w with pending := w.pending.drop n })
  else if w.srcEnded then (⟨[], some (.std .eof)⟩, w)
  else
    let res := srcRead r n w
    (res.1, { res.2 with srcEnded := res.1.err = some (.std .eof) })

/-- `io.TeeReader(r, h)` into the payload hash. -/
def teeRead : Reader (World σ) Sentinel := fun n w =>
  let res := r n w
  (res.1, { res.2 with hashed := res.2.hashed ++ res.1.data })

/-- `io.LimitedReader` with `N` bytes left. -/
def limitedRead : Reader (World σ) Sentinel := fun n w =>
  if w.limit ≤ 0 then (⟨[], some (.std .eof)⟩, w)
  else
    let res := r (min n w.limit.toNat) w
    (res.1, { res.2 with limit := res.2.limit - res.1.data.length })

/-- `&io.LimitedReader{R: r, N: n}`. -/
def setLimit (n : Int) : Prog (World σ) DirtyErr Unit :=
  act fun w => ((), { w with limit := n })

/-- `io.CopyN` into a buffer or `io.Discard` with the given room: the bytes copied, and the
    error. -/
def copyN (room : Nat → Nat) (n : Int) (fuel : Nat) :
    Prog (World σ) DirtyErr (Bytes × Option Err) := do
  setLimit n
  let res ← copyAll (limitedRead r) room fuel
  if (res.1.length : Int) = n then pure (res.1, none)
  else if (res.1.length : Int) < n ∧ res.2 = none then pure (res.1, some (.std .eof))
  else pure res

/-- `readStreamPrefix`. -/
def readStreamPrefix (limit : Int) (fuel : Nat) : Prog (World σ) DirtyErr Bytes := do
  let res ← copyN r os.bufRoom limit fuel
  match res.2 with
  | none => pure res.1
  | some e =>
    if e.isStd .eof ∨ e.isStd .unexpectedEOF then pure res.1
    else fail (.wrap "reading source image prefix" e.widen)

/-! ### Copying into a device -/

/-- The write of one chunk in `copyReader`: the new total, and the error. -/
def writeChunk (out : Nat) (dst : String) (data : Bytes) (total : Nat) :
    Prog (World σ) DirtyErr (Nat × Option DirtyErr) :=
  if data = [] then pure (total, none)
  else do
    let res ← write os out dst data
    match res.2 with
    | some e => pure (total + res.1, some (.wrap "writing stream chunk" e.widen))
    | none =>
      if res.1 ≠ data.length then
        pure (total + res.1, some (.wrap "writing stream chunk" (.std .shortWrite)))
      else pure (total + res.1, none)

/-- What `copyReader` does after a chunk was written. -/
def afterChunk (c : Chunk Sentinel) (total : Nat) : Step Nat (Nat × Option DirtyErr) :=
  match c.err with
  | none =>
    if c.data = [] then .done (total, some (.wrap "reading stream chunk" (.std .noProgress)))
    else .next total
  | some e =>
    if e.isStd .eof then .done (total, none)
    else .done (total, some (.wrap "reading stream chunk" e.widen))

/-- One iteration of `copyReader`. -/
def copyReaderStep (out : Nat) (dst : String)
    (total : Nat) : Prog (World σ) DirtyErr (Step Nat (Nat × Option DirtyErr)) := do
  match ← ctxErr os with
  | some e => pure (.done (total, some (.wrap "copy canceled" e.widen)))
  | none => do
    let c ← act (r imageCopyBufferSize)
    let res ← writeChunk os out dst c.data total
    match res.2 with
    | some e => pure (.done (res.1, some e))
    | none => pure (afterChunk c res.1)

/-- `copyReader`: the number of bytes written, and the error. -/
def copyReader (out : Nat) (dst : String)
    (fuel : Nat) : Prog (World σ) DirtyErr (Nat × Option DirtyErr) :=
  loop (copyReaderStep os r out dst) fuel 0

/-- The error of a device that some bytes may have reached. -/
def deviceError (e : DirtyErr) (written : Nat) (dst : String) : DirtyErr :=
  if 0 < written then dirtyABTargetsError e [dst] else e

/-- The end of a device copy: `out.Sync()`. -/
def syncTarget (dst what : String) : Prog (World σ) DirtyErr Unit := do
  match ← sync os dst with
  | some e => fail (dirtyABTargetsError (.wrap s!"syncing {what} {dst}" e.widen) [dst])
  | none => pure ()

/-- `streamReaderToDevice`. -/
def streamReaderToDevice (dst : String) (fuel : Nat) : Prog (World σ) DirtyErr Unit := do
  match ← openFile os dst with
  | .error e => fail (.wrap s!"opening target {dst}" e.widen)
  | .ok out => do
    let res ← copyReader os r out dst fuel
    match res.2 with
    | some e => fail (deviceError (.wrap s!"writing root target {dst}" e) res.1 dst)
    | none => syncTarget os dst "root target"

/-- `copyReaderRangeToDevice`. -/
def copyReaderRangeToDevice (dst : String) (size : Int)
    (fuel : Nat) : Prog (World σ) DirtyErr Unit := do
  match ← openFile os dst with
  | .error e => fail (.wrap s!"opening target {dst}" e.widen)
  | .ok out => do
    setLimit size
    let res ← copyReader os (limitedRead r) out dst fuel
    match res.2 with
    | some e => fail (deviceError (.wrap "copying stream to target" e) res.1 dst)
    | none => do
      let left ← act (fun w => (w.limit, w))
      if left ≠ 0 then
        fail (deviceError (.new
          s!"source image ended {left} bytes before partition range completed")
          res.1 dst)
      else syncTarget os dst "target"

/-! ### The ranges -/

/-- The loop of `copyABStreamRanges` over the sorted ranges, from stream position `pos` on. -/
def copyRanges (os : Os) (r : Reader (World σ) Sentinel) (fuel : Nat) :
    List AbStreamRange → Int → List String → Prog (World σ) DirtyErr (List String)
  | [], _, dirty => pure dirty
  | range :: ranges, pos, dirty => do
    match ← ctxErr os with
    | some e => fail (dirtyABTargetsError (.wrap "copying A/B ranges canceled" e.widen) dirty)
    | none =>
      if range.start < pos then
        fail (dirtyABTargetsError (.new s!"overlapping A/B copy ranges at {range.name}") dirty)
      else if range.size ≤ 0 then
        fail (dirtyABTargetsError
          (.new s!"invalid A/B copy range size for {range.name}: {range.size}") dirty)
      else do
        let skipped ← copyN r discardRoom (wrap64 (range.start - pos)) fuel
        match skipped.2 with
        | some e =>
          fail (dirtyABTargetsError
            (.wrap s!"skipping to {range.name} partition at byte {range.start}" e.widen) dirty)
        | none => do
          mapErr (fun e => dirtyABTargetsError
              (.wrap s!"copying {range.name} partition to {range.dst}" e) dirty)
            (copyReaderRangeToDevice os r range.dst range.size fuel)
          copyRanges os r fuel ranges (wrap64 (range.start + range.size)) (dirty ++ [range.dst])

/-- `sort.Slice` by start; for up to twelve elements it is an insertion sort. -/
def sortRanges (ranges : List AbStreamRange) : List AbStreamRange :=
  ranges.insertionSort (fun a b => a.start ≤ b.start)

/-- `copyABStreamRanges`. -/
def copyABStreamRanges (ranges : List AbStreamRange)
    (drain : Bool) (fuel : Nat) : Prog (World σ) DirtyErr Unit := do
  let dirty ← copyRanges os r fuel (sortRanges ranges) 0 []
  if drain then do
    let res ← copyAll r discardRoom fuel
    match res.2 with
    | some e =>
      fail (dirtyABTargetsError (.wrap "draining source image for checksum" e.widen) dirty)
    | none => pure ()
  else pure ()

/-! ### The whole copy -/

/-- A program over the state of the source. -/
def onSrc {α : Type} (m : Prog σ Err α) : Prog (World σ) Err α := fun w =>
  let res := m w.src
  (res.1, { w with src := res.2 })

theorem sat_onSrc {α : Type} {m : Prog σ Err α} {w : World σ} {Q : α → World σ → Prop}
    {E : Err → World σ → Prop} {F : Prop}
    (hm : Sat m w.src (fun a s => Q a { w with src := s }) (fun e s => E e { w with src := s }) F) :
    Sat (onSrc m) w Q E F := by
  unfold Sat at hm
  unfold Sat onSrc
  generalize m w.src = r at hm ⊢
  obtain ⟨r, s⟩ := r
  cases r <;> exact hm

/-- `verifyChecksum`: the download checksum first, then the payload hash, if there is one. -/
def verifyChecksum (u : Unicode) (digest : Digest) (download : Prog σ Err Unit)
    (sum : Option HashType) (opt : StreamOpts) : Prog (World σ) Err Unit := do
  onSrc download
  match sum with
  | none => pure ()
  | some t => do
    let fed ← act (fun w => (w.hashed, w))
    lift (compareDigest u digest t fed opt)

/-- `streamABRootFilesystem`. -/
def streamABRootFilesystem (u : Unicode) (digest : Digest) (os : Os)
    (stream : Reader (World σ) Sentinel) (download : Prog σ Err Unit) (sum : Option HashType)
    (target : ABTargets) (opt : StreamOpts) (fuel : Nat) : Prog (World σ) DirtyErr Unit := do
  streamReaderToDevice os stream target.rootPartition fuel
  mapErr (fun e => dirtyABTargetsError e.widen [target.rootPartition])
    (verifyChecksum u digest download sum opt)

/-- The byte range of a partition (`int64` products). -/
def partitionRange (name : String) (p : SfdiskPartition) (dst : String) : AbStreamRange where
  name := name
  start := wrap64 (gptSectorSize * p.start)
  size := wrap64 (gptSectorSize * p.size)
  dst := dst

/-- The boot partition to copy: none without a boot target or an EFI system partition. -/
def bootSelection (u : Unicode) (target : ABTargets) (parts : List SfdiskPartition) :
    Option SfdiskPartition :=
  if target.bootPartition ≠ "" then selectSourceBootPartition u parts else none

/-- The ranges that `streamABRaw` copies. -/
def abRanges (target : ABTargets) (boot : Option SfdiskPartition) (root : SfdiskPartition) :
    List AbStreamRange :=
  (boot.map (fun p => partitionRange "boot" p target.bootPartition)).toList ++
    [partitionRange "root" root target.rootPartition]

/-- The partitioned part of `streamABRaw`. -/
def streamABPartitions (u : Unicode) (digest : Digest) (os : Os)
    (stream : Reader (World σ) Sentinel) (download : Prog σ Err Unit) (sum : Option HashType)
    (target : ABTargets) (opt : StreamOpts) (parts : List SfdiskPartition) (fuel : Nat) :
    Prog (World σ) DirtyErr Unit := do
  let root ← mapErr GoError.widen
    (lift (selectSourceRootPartition u parts target.sourceRootLabel target.sourceRootPartition))
  let ranges := abRanges target (bootSelection u target parts) root
  copyABStreamRanges os stream ranges sum.isSome fuel
  mapErr (fun e => dirtyABTargetsError e.widen (abRangeTargets ranges))
    (verifyChecksum u digest download sum opt)

/-- `streamABRaw`.  `r` reads the image, `download` verifies a download-scope checksum; `fuel`
    bounds every read loop. -/
def streamABRaw (u : Unicode) (digest : Digest) (os : Os) (r : Reader σ Sentinel)
    (download : Prog σ Err Unit) (target : ABTargets) (opt : StreamOpts) (fuel : Nat) :
    Prog (World σ) DirtyErr Unit := do
  let head ← readStreamPrefix os (srcRead r) streamABPrefixBytes fuel
  act (fun w => ((), { w with pending := head }))
  let sum ← mapErr GoError.widen (lift (payloadHash u opt))
  let stream := if sum.isSome then teeRead (multiRead r) else multiRead r
  match parseStreamPartitions head with
  | .ok parts => streamABPartitions u digest os stream download sum target opt parts fuel
  | .err e =>
    if e.is .noPartitionTable then
      streamABRootFilesystem u digest os stream download sum target opt fuel
    else fail e.widen
  | .fault p => lift (.fault p)

end

end Booty.Image
