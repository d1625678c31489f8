import Booty.Caprf.LogRing
import Booty.Lib.Text
import Booty.Logging.Redact

namespace Booty.Caprf

open Booty.Lib
open Booty.Logging (redactText)

/-!
# The log handler and its redaction

A record's attributes are redacted by their keys before the record goes to the inner handler, and
the line for the server is written from the same attributes.

* `isSensitiveKey` — the keys whose values are secret.
* `redactAttr`, `redactAttrs`, `redactRecord` — the redaction.
* `RemoteHandler` with `withAttrs`, `withGroup` and `handle`.
-/

/-! ### Sensitive keys -/

/-- The words of a key that make it sensitive. -/
def sensitiveWords : List String :=
  ["password", "token", "secret", "key", "credential", "auth", "authorization", "cert", "private",
    "bearer", "session"]

/-- The words that make a key sensitive wherever they stand in it. -/
def highSignalWords : List String :=
  ["password", "token", "secret", "credential", "bearer", "private", "session", "authorization"]

/-- What may stand before a `key` in one word. -/
def sensitiveKeyPrefixes : List String := ["api"]

section Keys

variable (u : LetterTables)

/-- The loop of `splitCamel`: the character before the previous one, the current segment without its
    last character and that character, and the rest. -/
def splitCamelFrom : Option Char → List Char → Char → List Char → List (List Char)
  | _, seg, prev, [] => [seg ++ [prev]]
  | prev2, seg, prev, cur :: rest =>
    if (u.isLower prev && u.isUpper cur) || (u.isDigit prev && u.isUpper cur) ||
        (u.isDigit prev && u.isLower cur) then
      (seg ++ [prev]) :: splitCamelFrom (some prev) [] cur rest
    else if prev2.any u.isUpper && u.isUpper prev && u.isLower cur then
      seg :: splitCamelFrom (some prev) [prev] cur rest
    else splitCamelFrom (some prev) (seg ++ [prev]) cur rest

/-- The words of a text in camel case. -/
def splitCamel : List Char → List (List Char)
  | [] => []
  | c :: cs => splitCamelFrom u none [] c cs

/-- `splitKeySegments`. -/
def splitKeySegments (key : String) : List String :=
  let parts := (key.toList.splitOnP fun c => c == '_' || c == '.' || c == '-').filter (· ≠ [])
  match parts.flatMap (splitCamel u) with
  | [] => [key]
  | segs => segs.map String.ofList

/-- `strings.HasSuffix`: what stands before the suffix. -/
def beforeSuffix (suffix s : List Char) : Option (List Char) :=
  if suffix.isSuffixOf s then some (s.take (s.length - suffix.length)) else none

/-- `endsWithWordKey`. -/
def endsWithWordKey (s : String) : Bool :=
  match beforeSuffix "key".toList s.toList with
  | none => false
  | some before =>
    match before.getLast? with
    | none => true
    | some c => !u.isLetter c || sensitiveKeyPrefixes.any fun p => p.toList.isSuffixOf before

/-- `isSensitiveKey`. -/
def isSensitiveKey (key : String) : Bool :=
  (splitKeySegments u key).any (fun seg => sensitiveWords.contains (toLower u.toUnicode seg)) ||
    endsWithWordKey u (toLower u.toUnicode key) ||
    highSignalWords.any fun w => (toLower u.toUnicode key).toList.tails.any w.toList.isPrefixOf

end Keys

/-! ### Attributes -/

/-- The kinds of a value other than groups and `LogValuer`s. -/
inductive LeafKind
  | any | bool | duration | float64 | int64 | string | time | uint64
deriving DecidableEq, Repr

/-- A value that is not a group, with its text. -/
structure Leaf where
  kind : LeafKind
  text : String
deriving DecidableEq, Repr

/-- `slog.Value`.  A `LogValuer` has the text that `fmt` prints for it, and the value that `Resolve`
    returns. -/
inductive Value
  | leaf (x : Leaf)
  | group (attrs : List (String × Value))
  | logValuer (text : String) (resolved : Value)

/-- `slog.Attr`: a key and a value. -/
abbrev Attr := String × Value

/-- A group without attributes, which slog leaves out. -/
def Value.isEmptyGroup : Value → Bool
  | .group [] => true
  | _ => false

/-- `slog.GroupValue`, which leaves out empty groups. -/
def groupValue (attrs : List Attr) : Value := .group (attrs.filter fun a => !a.2.isEmptyGroup)

/-- `slog.String(key, "[REDACTED]")` without its key. -/
def redacted : Value := .leaf ⟨.string, "[REDACTED]"⟩

mutual

/-- `Value.String`. -/
def Value.string : Value → String
  | .leaf x => x.text
  | .group attrs => "[" ++ " ".intercalate (attrStrings attrs) ++ "]"
  | .logValuer text _ => text

/-- `Attr.String` of each member. -/
def attrStrings : List (String × Value) → List String
  | [] => []
  | (key, v) :: rest => (key ++ "=" ++ v.string) :: attrStrings rest

end

section Redact

variable (sensitive : String → Bool)

mutual

/-- `redactAttr`, without the key that it keeps. -/
def redactValue (key : String) : Value → Value
  | .group attrs =>
    if sensitive key then groupValue (attrs.map fun a => (a.1, redacted))
    else groupValue (redactAttrs attrs)
  | .leaf x => if sensitive key then redacted else .leaf x
  | .logValuer text v => if sensitive key then redacted else .logValuer text v

/-- `redactAttrs`. -/
def redactAttrs : List (String × Value) → List (String × Value)
  | [] => []
  | (key, v) :: rest => (key, redactValue key v) :: redactAttrs rest

end

/-- `redactAttr`. -/
def redactAttr (a : Attr) : Attr := (a.1, redactValue sensitive a.1 a.2)

end Redact

/-! ### The handler -/

/-- `slog.Record`, without its time and program counter. -/
structure Record where
  level : Int
  message : String
  attrs : List Attr

/-- `Record.AddAttrs`, which leaves out empty groups. -/
def Record.addAttrs (r : Record) (attrs : List Attr) : Record :=
  { r with attrs := r.attrs ++ attrs.filter fun a => !a.2.isEmptyGroup }

/-- `redactRecord`. -/
def redactRecord (sensitive : String → Bool) (r : Record) : Record :=
  r.attrs.foldl (fun acc a => acc.addAttrs [redactAttr sensitive a]) ⟨r.level, r.message, []⟩

/-- `Level.String`. -/
def levelString (level : Int) : String :=
  let str := fun (base : String) (val : Int) =>
    if val = 0 then base else base ++ (if 0 ≤ val then "+" else "") ++ toString val
  if level < 0 then str "DEBUG" (level + 4)
  else if level < 4 then str "INFO" level
  else if level < 8 then str "WARN" (level - 4)
  else str "ERROR" (level - 8)

/-- A derivation of a handler. -/
inductive HandlerCall
  | withAttrs (attrs : List Attr)
  | withGroup (name : String)

/-- `RemoteHandler`: the calls that made its inner handler, its attributes and its groups. -/
structure RemoteHandler where
  inner : List HandlerCall
  attrs : List Attr
  groups : List String

namespace RemoteHandler

variable (sensitive : String → Bool)

/-- `NewRemoteHandler`. -/
def new : RemoteHandler := ⟨[], [], []⟩

variable (h : RemoteHandler)

/-- `WithAttrs`. -/
def withAttrs (attrs : List Attr) : RemoteHandler :=
  { h with
    inner := h.inner ++ [.withAttrs (redactAttrs sensitive attrs)]
    attrs := h.attrs ++ redactAttrs sensitive attrs }

/-- `WithGroup`. -/
def withGroup (name : String) : RemoteHandler :=
  { h with inner := h.inner ++ [.withGroup name], groups := h.groups ++ [name] }

/-- The handler after a call. -/
def apply : HandlerCall → RemoteHandler
  | .withAttrs attrs => h.withAttrs sensitive attrs
  | .withGroup name => h.withGroup name

/-- The handler after a sequence of calls. -/
def derive (calls : List HandlerCall) : RemoteHandler := calls.foldl (apply sensitive) new

/-- One attribute of the line. -/
def lineAttr (groups : String) (a : Attr) : String := " " ++ groups ++ a.1 ++ "=" ++ a.2.string

/-- The line of `Handle` before `RedactText`; `r'` is the redacted record. -/
def line (r r' : Record) : String :=
  let groups := if h.groups = [] then "" else ".".intercalate h.groups ++ "."
  "[" ++ levelString r.level ++ "] " ++ r.message ++
    String.join (h.attrs.map fun a => lineAttr groups (redactAttr sensitive a)) ++
    String.join (r'.attrs.map (lineAttr groups))

/-- What `Handle` gives away: the calls and the record of the inner handler, and the rank and the
    line that are pushed, unless the inner handler fails. -/
structure Handled where
  innerCalls : List HandlerCall
  innerRecord : Record
  pushed : Option (Fin 4 × String)

/-- `Handle`. -/
def handle (r : Record) (innerFails : Bool) : Handled :=
  let redactedRecord := redactRecord sensitive r
  ⟨h.inner, redactedRecord,
    if innerFails then none
    else some (levelRank r.level, redactText (h.line sensitive r redactedRecord))⟩

end RemoteHandler

end Booty.Caprf
