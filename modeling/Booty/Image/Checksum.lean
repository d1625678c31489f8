import Booty.Image.Errors
import Booty.Lib.Prog
import Booty.Lib.Text

namespace Booty.Image

open Booty.Lib Booty.Lib.Outcome

/-!
# Image checksums (`pkg/image/stream.go`, `pkg/image/checksum_scope.go`)

The checksum options, their normalisation, and the comparison of a digest with the expected
one.  The hash functions are a parameter (`Digest`): a hash state is the byte string that was
fed to it.

* `compareDigest_ok` — the comparison succeeds only on the digest of the fed bytes.
-/

/-- A hash algorithm. -/
inductive HashType
  | sha256
  | sha512
  deriving DecidableEq, Repr

/-- The hash functions. -/
abbrev Digest := HashType → Bytes → Bytes

/-- The checksum options of `StreamOpts`. -/
structure StreamOpts where
  checksum : String := ""
  checksumType : String := ""
  checksumScope : String := ""
  streamOnly : Bool := false
  deriving DecidableEq, Repr

/-- The checksum is of the file as downloaded. -/
def checksumScopeDownload : String := "download"

/-- The checksum is of the decompressed image. -/
def checksumScopeDecompressed : String := "decompressed"

/-- `hex.EncodeToString`. -/
def hexBytes (b : Bytes) : String :=
  String.ofList (b.flatMap (fun v => (lowerHex 2 v.toNat).toList))

/-- `len(s)` of a Go string: its length in UTF-8. -/
def byteLen (s : String) : Nat := (s.toList.map Char.utf8Size).sum

/-- A hexadecimal digit. -/
def isHexDigit (c : Char) : Bool :=
  ('0' ≤ c && c ≤ '9') || ('a' ≤ c && c ≤ 'f') || ('A' ≤ c && c ≤ 'F')

/-- The first byte of a character in UTF-8. -/
def leadByte (c : Char) : Nat :=
  let n := c.toNat
  if n < 0x80 then n else if n < 0x800 then 0xc0 + n / 0x40
  else if n < 0x10000 then 0xe0 + n / 0x1000 else 0xf0 + n / 0x40000

/-- `hex.InvalidByteError`, with the byte in the format `%#U`. -/
def invalidByteError (b : Nat) : Err :=
  let shown := if (0x20 ≤ b ∧ b ≤ 0x7e) ∨ 0xa1 ≤ b then s!" '{Char.ofNat b}'" else ""
  .new ("encoding/hex: invalid byte: U+" ++ upperHex 4 b ++ shown)

/-- `hex.DecodeString`, only its error; the callers have checked the length. -/
def hexError (s : String) : Option Err :=
  (s.toList.find? (fun c => !isHexDigit c)).map (fun c => invalidByteError (leadByte c))

section

variable (u : Unicode)

/-- `newHash`. -/
def newHash (checksumType : String) : Outcome Err HashType :=
  let t := toLower u (trimSpace checksumType)
  if t = "sha256" then .ok .sha256
  else if t = "sha512" then .ok .sha512
  else .err (.new s!"unsupported checksum type: {checksumType}")

/-- The length of a digest text. -/
def digestLen (checksumType : String) : Outcome Err Nat :=
  if checksumType = "sha256" then .ok 64
  else if checksumType = "sha512" then .ok 128
  else .err (.new s!"unsupported checksum type: {checksumType}")

/-- `validateChecksumDigest`. -/
def validateChecksumDigest (checksumType checksum : String) : Outcome Err Unit := do
  let expectedLen ← digestLen checksumType
  if byteLen checksum ≠ expectedLen then
    .err (.new s!"{checksumType} checksum length {byteLen checksum}, want {expectedLen}")
  else
    match hexError checksum with
    | some e => .err (.wrap s!"invalid {checksumType} checksum hex" e)
    | none => .ok ()

/-- The algorithm prefix of a checksum: the loop over `sha256:` and `sha512:`. -/
def stripAlgorithm (opt : StreamOpts) : List String → Outcome Err StreamOpts
  | [] => .ok opt
  | alg :: algs =>
    match afterPrefix (alg ++ ":") opt.checksum with
    | none => stripAlgorithm opt algs
    | some digest =>
      if opt.checksumType ≠ "" ∧ opt.checksumType ≠ alg then
        .err (.new s!"checksum prefix {alg} conflicts with checksum type {opt.checksumType}")
      else if digest = "" then
        .err (.new s!"checksum prefix {alg} requires a non-empty digest")
      else .ok { opt with checksumType := alg, checksum := digest }

/-- The algorithm that the length of a checksum implies. -/
def inferType (opt : StreamOpts) : Outcome Err StreamOpts :=
  if opt.checksumType ≠ "" then .ok opt
  else if byteLen opt.checksum = 64 then .ok { opt with checksumType := "sha256" }
  else if byteLen opt.checksum = 128 then .ok { opt with checksumType := "sha512" }
  else .err (.new s!"cannot infer checksum type from checksum length {byteLen opt.checksum}")

/-- `normalizeChecksumOpt`. -/
def normalizeChecksumOpt (opt : StreamOpts) : Outcome Err StreamOpts :=
  let opt := { opt with
    checksum := toLower u (trimSpace opt.checksum)
    checksumType := toLower u (trimSpace opt.checksumType) }
  if opt.checksum = "" then .ok opt
  else do
    let opt ← stripAlgorithm opt ["sha256", "sha512"]
    let opt ← inferType opt
    validateChecksumDigest opt.checksumType opt.checksum
    .ok opt

/-- `checksumScopeHint`. -/
def checksumScopeHint (opt : StreamOpts) : String :=
  if opt.checksumScope = checksumScopeDownload then
    "IMAGE_CHECKSUM_SCOPE=download: the file as downloaded; set " ++
      "IMAGE_CHECKSUM_SCOPE=decompressed for a digest of the decompressed image"
  else "IMAGE_CHECKSUM_SCOPE=decompressed: the decompressed image"

/-- The first eight bytes of a digest text. -/
def shortDigest (s : String) : String := String.ofList (s.toList.take 8)

/-- The second half of `verifyChecksum`: the digest of the bytes `fed` to the hash, against the
    expected one. -/
def compareDigest (digest : Digest) (t : HashType) (fed : Bytes) (opt : StreamOpts) :
    Outcome Err Unit := do
  let opt ← normalizeChecksumOpt u opt
  let got := hexBytes (digest t fed)
  if got ≠ opt.checksum then
    let digests := s!"computed={shortDigest got} want={shortDigest opt.checksum}"
    .err (.wrap s!"%w ({checksumScopeHint opt}): {digests}" (.sentinel .checksumMismatch))
  else .ok ()

/-- The hash of `wrapChecksum`: none without a payload checksum. -/
def payloadHash (opt : StreamOpts) : Outcome Err (Option HashType) :=
  if opt.checksum = "" then .ok none
  else do
    let opt ← normalizeChecksumOpt u opt
    let t ← newHash u opt.checksumType
    .ok (some t)

/-- The comparison succeeds only on the expected digest. -/
theorem compareDigest_ok {digest : Digest} {t : HashType} {fed : Bytes} {opt : StreamOpts}
    (hok : compareDigest u digest t fed opt = .ok ()) :
    ∃ norm, normalizeChecksumOpt u opt = .ok norm ∧ hexBytes (digest t fed) = norm.checksum := by
  obtain ⟨norm, hnorm, hcmp⟩ := bind_eq_ok.mp hok
  refine ⟨norm, hnorm, ?_⟩
  by_contra hne
  rw [if_pos hne] at hcmp
  cases hcmp

/-! ### Checksum errors are never the bare `io.EOF` -/

theorem validateChecksumDigest_errs (t s : String) :
    (validateChecksumDigest t s).Errs (· ≠ .std .eof) := by
  have hlen : (digestLen t).Errs (· ≠ .std .eof) := by
    unfold digestLen
    split
    · exact errs_ok
    · grind [errs_ok, errs_err]
  refine hlen.bind (fun len => ?_)
  split
  · exact errs_err nofun
  · grind [errs_err, errs_ok]

theorem stripAlgorithm_errs (algs : List String) (opt : StreamOpts) :
    (stripAlgorithm opt algs).Errs (· ≠ .std .eof) := by
  induction algs with
  | nil => exact errs_ok
  | cons alg algs ih =>
    unfold stripAlgorithm
    split
    · exact ih
    · grind [errs_err, errs_ok]

theorem inferType_errs (opt : StreamOpts) : (inferType opt).Errs (· ≠ .std .eof) := by
  unfold inferType
  split
  · exact errs_ok
  · grind [errs_ok, errs_err]

theorem normalizeChecksumOpt_errs (opt : StreamOpts) :
    (normalizeChecksumOpt u opt).Errs (· ≠ .std .eof) := by
  unfold normalizeChecksumOpt
  generalize ({ opt with
    checksum := toLower u (trimSpace opt.checksum)
    checksumType := toLower u (trimSpace opt.checksumType) } : StreamOpts) = opt'
  by_cases hempty : opt'.checksum = ""
  · rw [if_pos hempty]
    exact errs_ok
  · grind [Errs.bind, stripAlgorithm_errs, inferType_errs, validateChecksumDigest_errs, errs_ok]

-- From here on the normalisation is a black box; unfolding it would run it on unknown texts.
attribute [irreducible] normalizeChecksumOpt

theorem compareDigest_errs (digest : Digest) (t : HashType) (fed : Bytes) (opt : StreamOpts) :
    (compareDigest u digest t fed opt).Errs (· ≠ .std .eof) := by
  refine Errs.bind (normalizeChecksumOpt_errs u opt) (fun norm => ?_)
  by_cases hne : hexBytes (digest t fed) ≠ norm.checksum
  · rw [if_pos hne]
    exact errs_err nofun
  · rw [if_neg hne]
    exact errs_ok

end

end Booty.Image
