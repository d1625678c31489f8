import Mathlib

namespace Booty.Lib

/-!
# Regular expressions with captures

Go's `regexp`: a search takes the leftmost match and, among those, the one that a backtracking
matcher finds first (an alternative before the next one, a greedy repetition with more turns before
fewer).

* `Regex.run` — the matcher, with the rest of the expression as a continuation.
* `Regex.replaceAll` — `ReplaceAllString` with a template.
-/

/-- A class of characters: ranges of code points, or everything outside them. -/
structure CharClass where
  ranges : List (Nat × Nat)
  negated : Bool
deriving DecidableEq, Repr

/-- The class has a character. -/
def CharClass.has (c : CharClass) (x : Char) : Bool :=
  (c.ranges.any fun r => decide (r.1 ≤ x.toNat) && decide (x.toNat ≤ r.2)) != c.negated

/-- The expressions. -/
inductive Regex
  | empty
  | one (c : CharClass)
  | seq (a b : Regex)
  | alt (a b : Regex)
  | star (greedy : Bool) (a : Regex)
  | group (n : Nat) (a : Regex)
  /-- `^`: the start of the text. -/
  | start
  /-- `\b`: between a word character and something else, in ASCII. -/
  | wordBoundary
deriving DecidableEq, Repr

/-- A place in the text: the character before it and what follows. -/
structure Cursor where
  before : Option Char
  rest : List Char
deriving DecidableEq, Repr

/-- The texts of the groups, the latest first. -/
abbrev Captures := List (Nat × List Char)

namespace Regex

/-- `\w`. -/
def wordClass : CharClass := ⟨[(0x30, 0x39), (0x41, 0x5a), (0x5f, 0x5f), (0x61, 0x7a)], false⟩

/-- A character of a word. -/
def Cursor.isWord (c : Option Char) : Bool := c.any wordClass.has

/-- The turns of a repetition; a turn that takes nothing ends it. -/
def runStar {R : Type} (greedy : Bool)
    (body : Cursor → Captures → (Cursor → Captures → Option R) → Option R)
    (k : Cursor → Captures → Option R) : Nat → Cursor → Captures → Option R
  | 0, s, caps => k s caps
  | n + 1, s, caps =>
    let more := fun _ : Unit => body s caps fun s' caps' =>
      if s'.rest.length < s.rest.length then runStar greedy body k n s' caps' else none
    if greedy then (more ()).orElse fun _ => k s caps else (k s caps).orElse more

/-- The matcher: the first match of the expression after which `k` succeeds. -/
def run {R : Type} : Regex → Cursor → Captures → (Cursor → Captures → Option R) → Option R
  | empty, s, caps, k => k s caps
  | one c, s, caps, k =>
    match s.rest with
    | [] => none
    | x :: rest => if c.has x then k ⟨some x, rest⟩ caps else none
  | seq a b, s, caps, k => a.run s caps fun s' caps' => b.run s' caps' k
  | alt a b, s, caps, k => (a.run s caps k).orElse fun _ => b.run s caps k
  | star greedy a, s, caps, k => runStar greedy a.run k s.rest.length s caps
  | group n a, s, caps, k => a.run s caps fun s' caps' =>
    k s' ((n, s.rest.take (s.rest.length - s'.rest.length)) :: caps')
  | start, s, caps, k => if s.before.isNone then k s caps else none
  | wordBoundary, s, caps, k =>
    if Cursor.isWord s.before != Cursor.isWord s.rest.head? then k s caps else none

/-! ### Expressions -/

/-- `ab…` -/
def text (s : String) : Regex :=
  s.toList.foldr (fun c r => seq (one ⟨[(c.toNat, c.toNat)], false⟩) r) empty

/-- The code points that `(?i)` takes for a letter of ASCII; `k` and `s` have a third form. -/
def foldOf (c : Char) : CharClass :=
  let lower := c.toLower.toNat
  let upper := c.toUpper.toNat
  let third := if lower = 0x6b then [(0x212a, 0x212a)] else if lower = 0x73 then [(0x17f, 0x17f)]
    else []
  ⟨(lower, lower) :: (upper, upper) :: third, false⟩

/-- `(?i)ab…` -/
def foldText (s : String) : Regex := s.toList.foldr (fun c r => seq (one (foldOf c)) r) empty

/-- One or more. -/
def plus (a : Regex) : Regex := seq a (star true a)

/-- One or none. -/
def opt (a : Regex) : Regex := alt a empty

/-- `a{n}`. -/
def times (n : Nat) (a : Regex) : Regex := (List.replicate n a).foldr seq empty

/-- `a{n,}`. -/
def atLeast (n : Nat) (a : Regex) : Regex := seq (times n a) (star true a)

/-- One after another. -/
def seqs (as : List Regex) : Regex := as.foldr seq empty

/-- `a|b|…`. -/
def alts : List Regex → Regex
  | [] => empty
  | [a] => a
  | a :: as => alt a (alts as)

/-- `\s`. -/
def space : CharClass := ⟨[(0x09, 0x0a), (0x0c, 0x0d), (0x20, 0x20)], false⟩

/-- `[^…]` of `\s` and some characters. -/
def butSpaceAnd (s : String) : CharClass :=
  ⟨space.ranges ++ s.toList.map fun c => (c.toNat, c.toNat), true⟩

/-! ### Replacement -/

/-- A part of a template: text, or the text of a group. -/
inductive Piece
  | lit (s : String)
  | ref (n : Nat)
deriving DecidableEq, Repr

/-- The template with the groups of a match. -/
def expand (template : List Piece) (caps : Captures) : List Char :=
  template.flatMap fun
    | .lit s => s.toList
    | .ref n => ((caps.find? fun c => c.1 = n).map Prod.snd).getD []

/-- The rest of `ReplaceAllString` from a place on, for an expression that matches no empty text. -/
def replaceFrom (re : Regex) (template : List Piece) : Nat → Cursor → List Char
  | 0, s => s.rest
  | fuel + 1, s =>
    let found := re.run s [] fun s' caps =>
      if s'.rest.length < s.rest.length then some (s', caps) else none
    match found with
    | some (s', caps) => expand template caps ++ replaceFrom re template fuel s'
    | none =>
      match s.rest with
      | [] => []
      | c :: rest => c :: replaceFrom re template fuel ⟨some c, rest⟩

/-- `ReplaceAllString`. -/
def replaceAll (re : Regex) (template : List Piece) (s : List Char) : List Char :=
  replaceFrom re template (s.length + 1) ⟨none, s⟩

end Regex

end Booty.Lib
