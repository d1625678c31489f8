import Mathlib

namespace Booty.Lib

/-!
# Go's path functions

`path.Clean`, `Base`, `Dir` and `IsAbs` on texts with `/` as the separator.
-/

/-- The elements of a cleaned path so far, the last one first; `rooted` paths have nothing above
    their root. -/
def cleanStep (rooted : Bool) (done : List (List Char)) (e : List Char) : List (List Char) :=
  if e = [] ∨ e = ['.'] then done
  else if e = ['.', '.'] then
    match done with
    | [] => if rooted then [] else [e]
    | last :: rest => if last = ['.', '.'] then e :: last :: rest else rest
  else e :: done

/-- `filepath.IsAbs`. -/
def isAbs (path : String) : Bool := path.toList.head? = some '/'

theorem isAbs_slash : isAbs "/" = true := by decide

/-- `filepath.Clean`. -/
def clean (path : String) : String :=
  let elements := (path.toList.splitOn '/').foldl (cleanStep (isAbs path)) []
  let joined := ['/'].intercalate elements.reverse
  if isAbs path then String.ofList ('/' :: joined)
  else if elements = [] then "." else String.ofList joined

/-- `filepath.Base`. -/
def base (path : String) : String :=
  if path = "" then "."
  else
    match (path.toList.reverse.dropWhile (· = '/')).takeWhile (· ≠ '/') with
    | [] => "/"
    | last => String.ofList last.reverse

/-- `filepath.Dir`. -/
def dir (path : String) : String :=
  clean (String.ofList (path.toList.reverse.dropWhile (· ≠ '/')).reverse)

end Booty.Lib
