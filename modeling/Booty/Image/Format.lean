import Booty.Image.Errors
import Booty.Lib.Bufio

namespace Booty.Image

open Booty.Lib Booty.Lib.Prog

/-!
# Image formats (`pkg/image/format.go`)

`detectFormat` peeks at the first 512 bytes of a stream; `decompressor` starts the decoder of a
format.  The decoders themselves are libraries of other authors: a `Decoders` is any set of
programs that read the stream below them.
-/

/-- The formats of an image or a container. -/
inductive Format
  | raw
  | gzip
  | zstd
  | lz4
  | xz
  | bzip2
  | qcow2
  | vmdk
  | ova
  | ovf
  deriving DecidableEq, Repr

/-- The text of a format. -/
def Format.text : Format → String
  | .raw => "raw"
  | .gzip => "gzip"
  | .zstd => "zstd"
  | .lz4 => "lz4"
  | .xz => "xz"
  | .bzip2 => "bzip2"
  | .qcow2 => "qcow2"
  | .vmdk => "vmdk"
  | .ova => "ova"
  | .ovf => "ovf"

/-- How much of an image is read for its format. -/
def formatHeaderSize : Nat := 512

/-- The bytes of an ASCII text. -/
def asciiBytes (s : String) : Bytes := s.toList.map (fun c => UInt8.ofNat c.toNat)

/-- The magic byte signatures, in the order of the source. -/
def magicBytes : List (Format × Bytes) :=
  [(.gzip, [0x1f, 0x8b]), (.zstd, [0x28, 0xb5, 0x2f, 0xfd]), (.lz4, [0x04, 0x22, 0x4d, 0x18]),
    (.xz, [0xfd, 0x37, 0x7a, 0x58, 0x5a, 0x00]), (.bzip2, [0x42, 0x5a, 0x68]),
    (.qcow2, [0x51, 0x46, 0x49, 0xfb]), (.vmdk, [0x4b, 0x44, 0x4d, 0x56]),
    (.vmdk, asciiBytes "# Disk DescriptorFile")]

/-- `isOVFHeader`. -/
def isOVFHeader (header : Bytes) : Bool :=
  let bom : Bytes := [0xef, 0xbb, 0xbf]
  let trimmed := if bom.isPrefixOf header then header.drop 3 else header
  let trimmed := trimmed.dropWhile (fun b => b == 0x20 || b == 0x09 || b == 0x0d || b == 0x0a)
  (asciiBytes "<?xml").isPrefixOf trimmed || (asciiBytes "<Envelope").isPrefixOf trimmed ||
    (asciiBytes "<ovf:Envelope").isPrefixOf trimmed

/-- `isOVAHeader`. -/
def isOVAHeader (header : Bytes) : Bool :=
  262 ≤ header.length && window header 257 5 == asciiBytes "ustar"

/-- The format that the header of a stream shows. -/
def headerFormat (header : Bytes) : Format :=
  match magicBytes.find? (fun m => m.2.isPrefixOf header) with
  | some m => m.1
  | none =>
    if isOVFHeader header then .ovf
    else if isOVAHeader header then .ova
    else .raw

/-- `isUnsupportedContainerFormat`. -/
def isUnsupportedContainerFormat : Format → Bool
  | .vmdk | .ova | .ovf => true
  | _ => false

/-- `unsupportedImageFormatError`. -/
def unsupportedImageFormatError (f : Format) : Err :=
  .new s!"unsupported image format {f.text}: convert to raw or qcow2 before provisioning"

variable {σ δ : Type}

/-- `DetectFormat`: a new buffer in front of the reader, and the format of the bytes that it can
    peek at. -/
def detectFormat (r : Reader σ Sentinel) : Prog (σ × Buffer Sentinel) Err Format := do
  act (fun s => ((), (s.1, {})))
  let header ← act (peek r formatHeaderSize formatHeaderSize)
  match header.err with
  | some e =>
    if header.data = [] then fail (.wrap "peek header" e) else pure (headerFormat header.data)
  | none => pure (headerFormat header.data)

/-- The decoders: how each is started, and how it answers a `Read`. -/
structure Decoders (δ : Type) where
  gzip : Decoder Sentinel (Except Err δ)
  zstd : Decoder Sentinel (Except Err δ)
  xz : Decoder Sentinel (Except Err δ)
  lz4 : δ
  bzip2 : δ
  read : δ → Nat → Decoder Sentinel (Chunk Sentinel × δ)

/-- Start a decoder that reads its header at once. -/
def startDecoder (src : Supplier σ Sentinel) (name : String)
    (start : Decoder Sentinel (Except Err δ)) : Prog σ Err (Option δ) := do
  match ← act (start.run src) with
  | .ok d => pure (some d)
  | .error e => fail (.wrap name e)

/-- `Decompressor`: the state of the decoder; none means that the reader is used as it is. -/
def decompressor (decoders : Decoders δ) (src : Supplier σ Sentinel) (f : Format) :
    Prog σ Err (Option δ) :=
  if isUnsupportedContainerFormat f then fail (unsupportedImageFormatError f)
  else
    match f with
    | .gzip => startDecoder src "gzip reader" decoders.gzip
    | .zstd => startDecoder src "zstd reader" decoders.zstd
    | .lz4 => pure (some decoders.lz4)
    | .xz => startDecoder src "xz reader" decoders.xz
    | .bzip2 => pure (some decoders.bzip2)
    | .qcow2 => fail (.new "qcow2 images cannot be streamed directly; use ConvertQCOW2 first")
    | _ => pure none

section

variable {P : σ → Prop} {s : σ}

/-- Looking at the header keeps what reads keep. -/
theorem detectFormat_keeps {r : Reader σ Sentinel} (hr : Keeps r P) (b : Buffer Sentinel)
    (h : P s) : Sat (detectFormat r) (s, b) (fun _ s' => P s'.1) (fun _ s' => P s'.1) False := by
  grind [detectFormat, sat_bind, sat_act.mpr, peek_keeps, sat_fail.mpr, sat_pure.mpr]

/-- Starting a decoder keeps what requests keep. -/
theorem decompressor_keeps (decoders : Decoders δ) {src : Supplier σ Sentinel}
    (hsrc : ∀ q s, P s → P (src q s).2) (f : Format) (h : P s) :
    Sat (decompressor decoders src f) s (fun _ s' => P s') (fun _ s' => P s') False := by
  have hstart : ∀ name start, Sat (startDecoder src name start : Prog σ Err (Option δ)) s
      (fun _ s' => P s') (fun _ s' => P s') False := by
    intro name start
    refine sat_bindAct ?_
    have hrun := Decoder.run_keeps hsrc start s h
    split
    · exact sat_pure.mpr hrun
    · exact sat_fail.mpr hrun
  unfold decompressor
  split
  · exact sat_fail.mpr h
  · grind [sat_pure.mpr, sat_fail.mpr]

end

end Booty.Image
