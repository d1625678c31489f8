import Mathlib

namespace Booty.Lib

/-!
# Go error trees

An error may have an `Is` method, be a `net.Error`, and unwrap to one error or to several.  `κ`
names the errors that a program asks for.

* `ErrorTree.is` — `errors.Is`.
* `ErrorTree.leafIs` — the same, asked only of the errors that unwrap to nothing.
* `ErrorTree.asNet` — `errors.As` for a `net.Error`: whether it is a timeout.
-/

/-- An error: its text, what it matches itself (as the value or by its `Is` method), and whether it
    is a `net.Error` with a timeout.  A `hollow` error unwraps to nil. -/
inductive ErrorTree (κ : Type)
  | leaf (text : String) (own : κ → Bool) (net : Option Bool)
  | hollow (text : String) (own : κ → Bool) (net : Option Bool)
  | wrap (text : String) (own : κ → Bool) (net : Option Bool) (inner : ErrorTree κ)
  | join (text : String) (own : κ → Bool) (net : Option Bool) (inners : List (ErrorTree κ))
  | url (op address : String) (inner : ErrorTree κ)

namespace ErrorTree

variable {κ : Type}

/-- An error that matches nothing itself. -/
def plain : κ → Bool := fun _ => false

/-- `errors.New`. -/
def new (text : String) : ErrorTree κ := leaf text plain none

/-- `fmt.Errorf` with one `%w`. -/
def errorf (text : String) (inner : ErrorTree κ) : ErrorTree κ := wrap text plain none inner

mutual

/-- `errors.Is`. -/
def is (k : κ) : ErrorTree κ → Bool
  | leaf _ own _ => own k
  | hollow _ own _ => own k
  | wrap _ own _ inner => own k || is k inner
  | join _ own _ inners => own k || isAny k inners
  | url _ _ inner => is k inner

/-- `errors.Is` for one of some errors. -/
def isAny (k : κ) : List (ErrorTree κ) → Bool
  | [] => false
  | e :: es => is k e || isAny k es

end

mutual

/-- An innermost error matches. -/
def leafIs (k : κ) : ErrorTree κ → Bool
  | leaf _ own _ => own k
  | hollow _ _ _ => false
  | wrap _ _ _ inner => leafIs k inner
  | join _ _ _ inners => leafIsAny k inners
  | url _ _ inner => leafIs k inner

/-- The same for the leaves. -/
def leafIsAny (k : κ) : List (ErrorTree κ) → Bool
  | [] => false
  | e :: es => leafIs k e || leafIsAny k es

end

/-- The error is a `net.Error` itself: whether it is a timeout.  A `url.Error` asks its cause. -/
def net : ErrorTree κ → Option Bool
  | leaf _ _ net => net
  | hollow _ _ net => net
  | wrap _ _ net _ => net
  | join _ _ net _ => net
  | url _ _ inner => some (inner.net = some true)

mutual

/-- `errors.As` for a `net.Error`. -/
def asNet : ErrorTree κ → Option Bool
  | leaf _ _ net => net
  | hollow _ _ net => net
  | wrap _ _ net inner => net.or (asNet inner)
  | join _ _ net inners => net.or (asNetAny inners)
  | url _ _ inner => some (inner.net = some true)

/-- `errors.As` for the first of some errors. -/
def asNetAny : List (ErrorTree κ) → Option Bool
  | [] => none
  | e :: es => (asNet e).or (asNetAny es)

end

/-- `Error`; `quote` is the text of `%q`. -/
def text (quote : String → String) : ErrorTree κ → String
  | leaf text _ _ => text
  | hollow text _ _ => text
  | wrap text _ _ _ => text
  | join text _ _ _ => text
  | url op address inner => op ++ " " ++ quote address ++ ": " ++ inner.text quote

@[simp] theorem is_new (k : κ) (text : String) : is k (new text) = false := by
  simp [new, is, plain]

@[simp] theorem is_errorf (k : κ) (text : String) (e : ErrorTree κ) :
    is k (errorf text e) = is k e := by
  simp [errorf, is, plain]

end ErrorTree

end Booty.Lib
