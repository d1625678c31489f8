import Mathlib

namespace Booty.Lib

/-!
# Go error chains

An error is a chain: a leaf (an error of the standard `io` package, a sentinel variable of the
package or a fresh `errors.New` text) under any number of `fmt.Errorf` wrappings and of typed
errors that unwrap to the error below them.  The text of a wrapping has a `%w` for the error below;
without one that error follows after a colon.  `κ` names the sentinels of a package and `τ` is the
payload of its error type.

* `GoError.isStd`, `GoError.is` — `errors.Is` for a leaf;
* `GoError.as` — `errors.As` for the typed error: the outermost payload of the chain;
* `GoError.widen` — an error from outside the package, which holds no typed error.
-/

/-- The errors of Go's `io` package. -/
inductive StdErr
  | eof
  | unexpectedEOF
  | shortWrite
  | noProgress
  deriving DecidableEq, Repr

/-- An error chain. -/
inductive GoError (κ τ : Type)
  | std (e : StdErr)
  | sentinel (k : κ)
  | new (text : String)
  | wrap (text : String) (inner : GoError κ τ)
  | typed (payload : τ) (inner : GoError κ τ)
  deriving DecidableEq, Repr

namespace GoError

variable {κ τ : Type}

/-- `errors.Is(e, k)` for an error of package `io`. -/
def isStd : GoError κ τ → StdErr → Bool
  | .std k', k => k' == k
  | .sentinel _, _ => false
  | .new _, _ => false
  | .wrap _ e, k => e.isStd k
  | .typed _ e, k => e.isStd k

/-- `errors.Is(e, k)` for a sentinel of the package. -/
def is [DecidableEq κ] : GoError κ τ → κ → Bool
  | .std _, _ => false
  | .sentinel k', k => k' == k
  | .new _, _ => false
  | .wrap _ e, k => e.is k
  | .typed _ e, k => e.is k

/-- `errors.As(e, &t)`: the outermost typed error of the chain. -/
def as : GoError κ τ → Option τ
  | .std _ => none
  | .sentinel _ => none
  | .new _ => none
  | .wrap _ e => e.as
  | .typed t _ => some t

/-- An error from outside the package: it cannot hold the package's own error type. -/
def widen : GoError κ Empty → GoError κ τ
  | .std e => .std e
  | .sentinel k => .sentinel k
  | .new s => .new s
  | .wrap s e => .wrap s e.widen
  | .typed t _ => t.elim

@[simp] theorem as_widen (e : GoError κ Empty) : (e.widen : GoError κ τ).as = none := by
  induction e with
  | std k => rfl
  | sentinel k => rfl
  | new s => rfl
  | wrap s e ih => exact ih
  | typed t e ih => exact t.elim

end GoError

end Booty.Lib
