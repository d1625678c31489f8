import Booty.Image.ABStream
import Booty.Image.Download

namespace Booty.Image

open Booty.Lib Booty.Lib.Prog

/-!
# Writing a download (`Stream`, `StreamAB` and `downloadToFile` of `pkg/image`)

The three ways in which a downloaded image is used.  `stream` writes it to one device, `streamAB`
copies its partitions, and `downloadToFile` stores it.  A qcow2 image is staged in a file first;
what happens to the file afterwards does not read the download again and is a parameter
(`Staging`).
-/

/-- The buffer of `io.Copy`. -/
def copyBufferSize : Nat := 32 * 1024

section

variable {σ : Type}
variable (os : Os) (r : Reader (World σ) Sentinel)

/-- The write of one chunk in `io.Copy`. -/
def writeData (out : Nat) (dst : String) (data : Bytes) :
    Prog (World σ) DirtyErr (Nat × Option Err) :=
  if data = [] then pure (0, none) else write os out dst data

/-- One iteration of `io.Copy`. -/
def ioCopyStep (out : Nat) (dst : String)
    (written : Nat) : Prog (World σ) DirtyErr (Step Nat (Nat × Option DirtyErr)) := do
  let c ← act (r copyBufferSize)
  let res ← writeData os out dst c.data
  match res.2 with
  | some e => pure (.done (written + res.1, some e.widen))
  | none =>
    if res.1 ≠ c.data.length then
      pure (.done (written + res.1, some (.std .shortWrite)))
    else
      match c.err with
      | none => pure (.next (written + res.1))
      | some e =>
        pure (.done (written + res.1, if e = .std .eof then none else some e.widen))

/-- `io.Copy` into an open file: the number of bytes written, and the error. -/
def ioCopy (out : Nat) (dst : String) (fuel : Nat) :
    Prog (World σ) DirtyErr (Nat × Option DirtyErr) :=
  loop (ioCopyStep os r out dst) fuel 0

/-- `writeImageToFile`. -/
def writeImageToFile (dest : String) (fuel : Nat) : Prog (World σ) DirtyErr Unit := do
  match ← openFile os dest with
  | .error e => fail (.wrap s!"creating file {dest}" e.widen)
  | .ok out => do
    let res ← ioCopy os r out dest fuel
    match res.2 with
    | some e => fail (.wrap "writing to file" e)
    | none => pure ()

/-- `downloadToFile`. -/
def downloadToFile (u : Unicode) (digest : Digest) (os : Os) (check : Option DownloadChecksum)
    (body : Reader σ Sentinel) (openErr : Option Err) (dest : String) (fuel : Nat) :
    Prog (World (Download σ)) DirtyErr Unit :=
  match openErr with
  | some e => fail e.widen
  | none => do
    act (fun w => ((), { w with src := { w.src with opened := true } }))
    writeImageToFile os
      (srcRead (verifyAtEOF check (verify u digest check body fuel) (sourceRead check body)))
      dest fuel

end

section

variable {σ δ : Type}

/-- The staging of a qcow2 image in RAM: mounting the ramdisk, the limit on its size, and the
    conversion and the copies that follow. -/
structure Staging (σ δ : Type) where
  setup : Option Err := none
  limitCheck : DirtyErr → DirtyErr := id
  path : String := "/tmp/booty-ramdisk/image.qcow2"
  after : Prog (World (Pipe σ δ)) DirtyErr Unit := pure ()

/-- `StagingForbiddenError`. -/
def stagingForbiddenError (f : Format) : DirtyErr :=
  .wrap (s!"%w: a {f.text} image cannot be streamed and IMAGE_STREAM=true forbids staging it; " ++
      "use the raw or compressed raw image (for example .raw.lz4) or unset IMAGE_STREAM")
    (.sentinel .stagingForbidden)

/-- Stage the image in a file, then go on with the file (`ConvertQCOW2FromReader`,
    `streamABViaRamdisk`). -/
def stageImage (os : Os) (staging : Staging σ δ) (what : String)
    (r : Reader (World (Pipe σ δ)) Sentinel) (fuel : Nat) :
    Prog (World (Pipe σ δ)) DirtyErr Unit :=
  match staging.setup with
  | some e => fail (.wrap "setting up ramdisk" e.widen)
  | none => do
    mapErr (fun e => staging.limitCheck (.wrap what e))
      (writeImageToFile os r staging.path fuel)
    staging.after

variable (u : Unicode) (digest : Digest) (os : Os) (decoders : Decoders δ)
  (body : Reader σ Sentinel)
  (openErr : Option Err) (staging : Staging σ δ)

/-- The part of `Stream` after the device was opened: copy, verify, sync. -/
def streamToDevice (check : Option DownloadChecksum) (decoded : Bool) (device : String)
    (out : Nat) (opt : StreamOpts) (fuel : Nat) : Prog (World (Pipe σ δ)) DirtyErr Unit := do
  let sum ← mapErr GoError.widen (lift (payloadHash u opt))
  let src := srcRead (pipeRead u digest decoders check body fuel decoded)
  let res ← ioCopy os (if sum.isSome then teeRead src else src) out device fuel
  match res.2 with
  | some e =>
    if e.is .checksumMismatch then fail e else fail (.wrap "writing to device" e)
  | none => do
    mapErr GoError.widen
      (verifyChecksum u digest (pipeVerify u digest check body fuel) sum opt)
    match ← sync os device with
    | some e => fail (.wrap s!"syncing device {device}" e.widen)
    | none => pure ()

/-- `Stream`. -/
def stream (device : String) (opt : StreamOpts) (fuel : Nat) :
    Prog (World (Pipe σ δ)) DirtyErr Unit := do
  let conf ← mapErr GoError.widen (lift (withDownloadChecksum u opt))
  let opened ← mapErr GoError.widen (onSrc (openAndDecompress decoders conf.2 body openErr))
  if opened.1 = .qcow2 then
    if conf.1.streamOnly then fail (stagingForbiddenError opened.1)
    else
      stageImage os staging "writing qcow2 image"
        (srcRead (pipeRead u digest decoders conf.2 body fuel opened.2)) fuel
  else do
    match ← openFile os device with
    | .error e => fail (.wrap s!"opening device {device}" e.widen)
    | .ok out => streamToDevice u digest os decoders body conf.2 opened.2 device out conf.1 fuel

/-- `StreamAB`, with `streamSelectedImagePayload` and `streamABViaRamdisk`. -/
def streamAB (target : ABTargets) (opt : StreamOpts) (fuel : Nat) :
    Prog (World (Pipe σ δ)) DirtyErr Unit :=
  if trimSpace target.rootPartition = "" then fail (.new "a/b root partition is required")
  else do
    let conf ← mapErr GoError.widen (lift (withDownloadChecksum u opt))
    let opened ← mapErr GoError.widen (onSrc (openAndDecompress decoders conf.2 body openErr))
    if opened.1 ≠ .qcow2 then
      streamABRaw u digest os (pipeRead u digest decoders conf.2 body fuel opened.2)
        (pipeVerify u digest conf.2 body fuel) target conf.1 fuel
    else if conf.1.streamOnly then fail (stagingForbiddenError opened.1)
    else
      stageImage os staging "writing qcow2 image to ramdisk"
        (srcRead (pipeRead u digest decoders conf.2 body fuel opened.2)) fuel

end

end Booty.Image
