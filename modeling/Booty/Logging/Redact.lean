import Booty.Lib.Regex

namespace Booty.Logging

open Booty.Lib
open Booty.Lib.Regex

/-!
# Secret shapes in free text

`RedactText` replaces known shapes of secrets in a line: private keys, tokens, key dumps, headers,
credentials in URLs and the values of keys with a sensitive name.
-/

/-- `[A-Z ]*`. -/
def upperWords : Regex := star true (one ⟨[(0x41, 0x5a), (0x20, 0x20)], false⟩)

/-- `.` with the flag `s`. -/
def anyChar : Regex := one ⟨[], true⟩

/-- Any number of blanks. -/
def spaces : Regex := star true (one space)

/-- `[A-Za-z0-9_-]`. -/
def tokenChar : Regex :=
  one ⟨[(0x41, 0x5a), (0x61, 0x7a), (0x30, 0x39), (0x5f, 0x5f), (0x2d, 0x2d)], false⟩

/-- `[A-Za-z0-9_.-]` with the flag `i`, under which the letters include U+017F and U+212A. -/
def nameChar : Regex :=
  one ⟨[(0x41, 0x5a), (0x61, 0x7a), (0x30, 0x39), (0x5f, 0x5f), (0x2e, 0x2e), (0x2d, 0x2d),
    (0x17f, 0x17f), (0x212a, 0x212a)], false⟩

/-- `[0-9a-f]` with the flag `i`. -/
def hexDigit : Regex := one ⟨[(0x30, 0x39), (0x61, 0x66), (0x41, 0x46)], false⟩

/-- A double or a single quote. -/
def quoteChar : Regex := one ⟨[(0x22, 0x22), (0x27, 0x27)], false⟩

/-- `pemPrivateKeyPattern`. -/
def pemPrivateKeyPattern : Regex :=
  seqs [text "-----BEGIN ", upperWords, text "PRIVATE KEY-----",
    alt (seqs [star false anyChar, text "-----END ", upperWords, text "PRIVATE KEY-----"])
      (star true anyChar)]

/-- `jwtPattern`. -/
def jwtPattern : Regex :=
  seqs [wordBoundary, text "eyJ", atLeast 4 tokenChar, text ".", atLeast 4 tokenChar, text ".",
    atLeast 4 tokenChar]

/-- `luksKeyDumpPattern`. -/
def luksKeyDumpPattern : Regex :=
  seqs [wordBoundary, group 1 (alts [foldText "MK dump", foldText "master key",
    foldText "volume key"]), spaces, text ":", spaces,
    star true (seqs [times 2 hexDigit, plus (one space)]), times 2 hexDigit, wordBoundary]

/-- `authorizationPattern`. -/
def authorizationPattern : Regex :=
  seqs [group 1 (alt start (one ⟨space.ranges ++
      [(0x2c, 0x2c), (0x3b, 0x3b), (0x26, 0x26), (0x3f, 0x3f), (0x22, 0x22)], false⟩)),
    group 2 (foldText "authorization"), spaces, text ":", spaces,
    group 3 (plus (one ⟨[(0x22, 0x22), (0x2c, 0x2c), (0x3b, 0x3b)], true⟩))]

/-- `bearerPattern`. -/
def bearerPattern : Regex :=
  seqs [wordBoundary, foldText "Bearer", plus (one space), opt quoteChar,
    plus (one ⟨(0x22, 0x22) :: (0x27, 0x27) :: space.ranges ++ [(0x2c, 0x2c), (0x3b, 0x3b)], true⟩),
    opt quoteChar]

/-- `urlCredentialPattern`. -/
def urlCredentialPattern : Regex :=
  seqs [wordBoundary, group 1 (seqs [
      one ⟨[(0x41, 0x5a), (0x61, 0x7a), (0x17f, 0x17f), (0x212a, 0x212a)], false⟩,
      star true (one ⟨[(0x41, 0x5a), (0x61, 0x7a), (0x30, 0x39), (0x2b, 0x2b), (0x2e, 0x2e),
        (0x2d, 0x2d), (0x17f, 0x17f), (0x212a, 0x212a)], false⟩), text "://"]),
    plus (one (butSpaceAnd "/:@")), text ":", plus (one (butSpaceAnd "@/")), text "@"]

/-- `[-_]?`. -/
def optDash : Regex := opt (one ⟨[(0x2d, 0x2d), (0x5f, 0x5f)], false⟩)

/-- The keys of `sensitiveAssignPattern`. -/
def sensitiveAssignKey : Regex :=
  alt
    (seqs [star true nameChar, alts [foldText "password", foldText "passwd", foldText "passphrase",
      foldText "token", foldText "secret", foldText "credential", foldText "authorization",
      foldText "auth", foldText "private"], star true nameChar])
    (alts [seqs [foldText "api", optDash, foldText "key"],
      seqs [foldText "secret", optDash, foldText "key"],
      seqs [foldText "private", optDash, foldText "key"],
      seqs [foldText "access", optDash, foldText "key"],
      seqs [foldText "luks", optDash, foldText "key"],
      seqs [foldText "master", optDash, foldText "key"],
      seqs [foldText "volume", optDash, foldText "key"],
      foldText "key", foldText "x-amz-signature", foldText "signature", foldText "sig"])

/-- The values of `sensitiveAssignPattern`: quoted, or up to a separator. -/
def assignedValue : Regex :=
  alts [seqs [one ⟨[(0x22, 0x22)], false⟩, star true (one ⟨[(0x22, 0x22)], true⟩),
      one ⟨[(0x22, 0x22)], false⟩],
    seqs [one ⟨[(0x27, 0x27)], false⟩, star true (one ⟨[(0x27, 0x27)], true⟩),
      one ⟨[(0x27, 0x27)], false⟩],
    plus (one (butSpaceAnd ",;&"))]

/-- `sensitiveAssignPattern`. -/
def sensitiveAssignPattern : Regex :=
  seqs [group 1 (alt start (one ⟨space.ranges ++
      [(0x2c, 0x2c), (0x3b, 0x3b), (0x26, 0x26), (0x3f, 0x3f), (0x3d, 0x3d)], false⟩)),
    group 2 sensitiveAssignKey, spaces, group 3 (one ⟨[(0x3d, 0x3d), (0x3a, 0x3a)], false⟩), spaces,
    group 4 assignedValue]

/-- `RedactText`. -/
def redactText (line : String) : String :=
  let s := replaceAll pemPrivateKeyPattern [.lit "[REDACTED PRIVATE KEY]"] line.toList
  let s := replaceAll jwtPattern [.lit "[REDACTED]"] s
  let s := replaceAll luksKeyDumpPattern [.ref 1, .lit ": [REDACTED]"] s
  let s := replaceAll authorizationPattern [.ref 1, .ref 2, .lit ": [REDACTED]"] s
  let s := replaceAll bearerPattern [.lit "Bearer [REDACTED]"] s
  let s := replaceAll urlCredentialPattern [.ref 1, .lit "[REDACTED]@"] s
  String.ofList (replaceAll sensitiveAssignPattern [.ref 1, .ref 2, .ref 3, .lit "[REDACTED]"] s)

end Booty.Logging
