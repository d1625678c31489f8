import Booty.Lib.GoError

namespace Booty.Image

open Booty.Lib

/-!
# Errors of `pkg/image`

The sentinels of the package and the number formats of its error texts.  Most errors are plain
chains (`Err`).  The A/B copy adds `abDirtyTargetsError`, whose payload is the list of targets
to wipe (`DirtyErr`); a plain error, also one of a reader or of the operating system, cannot
hold one.
-/

/-- The sentinel errors that the package compares with `errors.Is`. -/
inductive Sentinel
  | noGPT
  | noPartitionTable
  | noSourceRootCandidate
  | checksumMismatch
  | stagingForbidden
  deriving DecidableEq, Repr

/-- An error without an `abDirtyTargetsError` in its chain. -/
abbrev Err := GoError Sentinel Empty

/-- An error that may hold an `abDirtyTargetsError`. -/
abbrev DirtyErr := GoError Sentinel (List String)

/-- `%#x` of a nonnegative number. -/
def hex (n : Nat) : String := "0x" ++ String.ofList (Nat.toDigits 16 n)

end Booty.Image
