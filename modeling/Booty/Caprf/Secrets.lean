import Booty.Caprf.LogRedact

namespace Booty.Caprf

open Booty.Lib List Bool RemoteHandler Value

/-!
# Which log values stay secret

A value is secret if a key above it, or a name given to `WithGroup` above it, is sensitive.  For the
inner handler the names above it are those given before it was bound; the line has every name in
front of every value.  Nothing secret may show: two uses of a handler that differ only in secret
values must give the same calls, the same record and the same line.

* `CallsAgree`, `Record.Agrees` — uses that differ only in secret values.
* `InnerProtected`, `LineProtected` — the handler gives away the same for all of them.
* `attrsShown`, `callsShown` — the secret values that the redaction leaves in place.
* `protected_iff_none_shown` — a use is protected exactly if there is none.
-/

variable (sensitive : String → Bool)

/-! ### Uses that differ only in secret values -/

mutual

/-- The values are the same but for secret leaves; `flag` says that a name above is sensitive.  The
    text that `fmt` prints for a `LogValuer` may change with the value that it resolves to. -/
def Value.Agrees (flag : Bool) : Value → Value → Prop
  | .leaf x, .leaf y => flag = true ∨ x = y
  | .group as, .group bs => AttrsAgree flag as bs
  | .logValuer text v, .logValuer text' v' => v.Agrees flag v' ∧ (text = text' ∨ v ≠ v')
  | _, _ => False

/-- The attributes are the same but for secrets. -/
def AttrsAgree (flag : Bool) : List (String × Value) → List (String × Value) → Prop
  | [], [] => True
  | (key, v) :: as, (key', v') :: bs =>
    key = key' ∧ v.Agrees (flag || sensitive key) v' ∧ AttrsAgree flag as bs
  | _, _ => False

end

/-- The same calls but for secret values; with `flag`, every value is below a sensitive name. -/
def CallsAgree (flag : Bool) : List HandlerCall → List HandlerCall → Prop
  | [], [] => True
  | .withAttrs as :: calls, .withAttrs bs :: calls' =>
    AttrsAgree sensitive flag as bs ∧ CallsAgree flag calls calls'
  | .withGroup name :: calls, .withGroup name' :: calls' =>
    name = name' ∧ CallsAgree (flag || sensitive name) calls calls'
  | _, _ => False

/-- The same record but for secret values. -/
def Record.Agrees (flag : Bool) (r r' : Record) : Prop :=
  r.level = r'.level ∧ r.message = r'.message ∧ AttrsAgree sensitive flag r.attrs r'.attrs

/-- A sensitive name was given to `WithGroup`. -/
def inSensitiveGroup (calls : List HandlerCall) : Bool :=
  calls.any fun
    | .withAttrs _ => false
    | .withGroup name => sensitive name

/-- What the handler that the calls make gives away of a record. -/
def handled (calls : List HandlerCall) (r : Record) (innerFails : Bool) : Handled :=
  (derive sensitive calls).handle sensitive r innerFails

/-- No secret value of the calls and the record reaches the inner handler. -/
def InnerProtected (calls : List HandlerCall) (r : Record) : Prop :=
  ∀ calls' r', CallsAgree sensitive false calls calls' →
    r.Agrees sensitive (inSensitiveGroup sensitive calls) r' → ∀ innerFails,
      (handled sensitive calls r innerFails).innerCalls =
          (handled sensitive calls' r' innerFails).innerCalls ∧
        (handled sensitive calls r innerFails).innerRecord =
          (handled sensitive calls' r' innerFails).innerRecord

/-- No secret value reaches the line, in which the names of all groups are in front. -/
def LineProtected (calls : List HandlerCall) (r : Record) : Prop :=
  ∀ calls' r', CallsAgree sensitive (inSensitiveGroup sensitive calls) calls calls' →
    r.Agrees sensitive (inSensitiveGroup sensitive calls) r' → ∀ innerFails,
      (handled sensitive calls r innerFails).pushed =
        (handled sensitive calls' r' innerFails).pushed

/-! ### The secret values that the redaction leaves -/

mutual

/-- The number of secret leaves of a value. -/
def Value.secrets (flag : Bool) : Value → Nat
  | .leaf _ => if flag then 1 else 0
  | .group attrs => attrsSecrets flag attrs
  | .logValuer _ v => v.secrets flag

/-- The secrets in some attributes. -/
def attrsSecrets (flag : Bool) : List (String × Value) → Nat
  | [] => 0
  | (key, v) :: rest => v.secrets (flag || sensitive key) + attrsSecrets flag rest

end

mutual

/-- The number of secret leaves under a key that `redactAttr` leaves in place: of an attribute whose
    own keys are not sensitive but which is in a sensitive group, and of a `LogValuer`. -/
def Value.shown (flag : Bool) (key : String) : Value → Nat
  | .leaf _ => if sensitive key then 0 else if flag then 1 else 0
  | .group attrs => if sensitive key then 0 else attrsShown flag attrs
  | .logValuer _ v => if sensitive key then 0 else v.secrets sensitive flag

/-- The secrets of some attributes that are shown. -/
def attrsShown (flag : Bool) : List (String × Value) → Nat
  | [] => 0
  | (key, v) :: rest => v.shown flag key + attrsShown flag rest

end

/-- The number of secret leaves of the bound attributes that are left in place. -/
def callsShown (flag : Bool) : List HandlerCall → Nat
  | [] => 0
  | .withAttrs attrs :: calls => attrsShown sensitive flag attrs + callsShown flag calls
  | .withGroup name :: calls => callsShown (flag || sensitive name) calls

/-! ### What the redaction hides -/

variable {sensitive}

mutual

/-- Values without secrets that agree are the same. -/
theorem Value.eq_of_secrets {flag : Bool} {v v' : Value} (h : v.secrets sensitive flag = 0)
    (hagree : v.Agrees sensitive flag v') : v = v' := by
  match v, v' with
  | .leaf x, .leaf y =>
    obtain hflag | rfl := hagree
    · simp [secrets, hflag] at h
    · rfl
  | .group as, .group bs => exact congrArg group (attrs_eq_of_secrets h hagree)
  | .logValuer text v, .logValuer text' v' =>
    have hv : v = v' := Value.eq_of_secrets (v := v) h hagree.1
    obtain htext | hne := hagree.2
    · rw [hv, htext]
    · exact absurd hv hne
  | .leaf _, .group _ | .leaf _, .logValuer _ _ | .group _, .leaf _ | .group _, .logValuer _ _
  | .logValuer _ _, .leaf _ | .logValuer _ _, .group _ => exact hagree.elim

/-- So are attributes. -/
theorem attrs_eq_of_secrets {flag : Bool} {as bs : List (String × Value)}
    (h : attrsSecrets sensitive flag as = 0) (hagree : AttrsAgree sensitive flag as bs) :
    as = bs := by
  match as, bs with
  | [], [] => rfl
  | (key, v) :: as, (key', v') :: bs =>
    obtain ⟨hv, has⟩ := Nat.add_eq_zero_iff.mp h
    rw [← hagree.1, Value.eq_of_secrets hv hagree.2.1, attrs_eq_of_secrets has hagree.2.2]
  | [], _ :: _ | _ :: _, [] => exact hagree.elim

end

/-- Attributes that agree have the same keys. -/
theorem keys_eq {flag : Bool} {as bs : List (String × Value)}
    (hagree : AttrsAgree sensitive flag as bs) :
    as.map (fun a => (a.1, redacted)) = bs.map fun a => (a.1, redacted) := by
  induction as generalizing bs with
  | nil =>
    cases bs with
    | nil => rfl
    | cons b bs => exact hagree.elim
  | cons a as ih =>
    cases bs with
    | nil => exact hagree.elim
    | cons b bs =>
      obtain ⟨hkey, -, hrest⟩ := hagree
      rw [map_cons, map_cons, ih hrest, hkey]

mutual

/-- **Hiding.** If no secret leaf is left, values that differ only in secret leaves are redacted to
    the same value. -/
theorem redactValue_eq {flag : Bool} {key : String} {v v' : Value}
    (h : v.shown sensitive flag key = 0) (hagree : v.Agrees sensitive (flag || sensitive key) v') :
    redactValue sensitive key v = redactValue sensitive key v' := by
  match v, v' with
  | .leaf x, .leaf y =>
    cases hkey : sensitive key with
    | true => simp only [redactValue, hkey, if_true]
    | false =>
      rw [hkey, Bool.or_false] at hagree
      obtain hflag | rfl := hagree
      · simp [shown, hkey, hflag] at h
      · rfl
  | .group as, .group bs =>
    cases hkey : sensitive key with
    | true => simp only [redactValue, hkey, if_true, keys_eq hagree]
    | false =>
      rw [hkey, Bool.or_false] at hagree
      simp only [shown, hkey, false_eq_true, if_false] at h
      simp only [redactValue, hkey, false_eq_true, if_false, redactAttrs_eq h hagree]
  | .logValuer text v, .logValuer text' v' =>
    cases hkey : sensitive key with
    | true => simp only [redactValue, hkey, if_true]
    | false =>
      rw [hkey, Bool.or_false] at hagree
      simp only [shown, hkey, false_eq_true, if_false] at h
      -- `redactAttr` does not look inside, so nothing inside may be secret.
      have hv : logValuer text v = .logValuer text' v' := eq_of_secrets h hagree
      rw [hv]
  | .leaf _, .group _ | .leaf _, .logValuer _ _ | .group _, .leaf _ | .group _, .logValuer _ _
  | .logValuer _ _, .leaf _ | .logValuer _ _, .group _ => exact hagree.elim

/-- Where nothing is shown, the redacted attributes tell nothing of the secrets. -/
theorem redactAttrs_eq {flag : Bool} {as bs : List (String × Value)}
    (h : attrsShown sensitive flag as = 0) (hagree : AttrsAgree sensitive flag as bs) :
    redactAttrs sensitive as = redactAttrs sensitive bs := by
  match as, bs with
  | [], [] => rfl
  | (key, v) :: as, (key', v') :: bs =>
    obtain ⟨hv, has⟩ := Nat.add_eq_zero_iff.mp h
    obtain ⟨rfl, hvalue, hrest⟩ := hagree
    rw [redactAttrs, redactAttrs, redactValue_eq hv hvalue, redactAttrs_eq has hrest]
  | [], _ :: _ | _ :: _, [] => exact hagree.elim

end

/-! ### Handlers and records -/

variable (sensitive) in
/-- A call as the inner handler gets it. -/
def redactCall : HandlerCall → HandlerCall
  | .withAttrs attrs => .withAttrs (redactAttrs sensitive attrs)
  | .withGroup name => .withGroup name

/-- A call with attributes that are redacted already. -/
def RemoteHandler.applyRedacted (h : RemoteHandler) : HandlerCall → RemoteHandler
  | .withAttrs attrs =>
    { h with inner := h.inner ++ [.withAttrs attrs], attrs := h.attrs ++ attrs }
  | .withGroup name => h.withGroup name

/-- A derived handler is made of redacted calls. -/
theorem derive_eq (calls : List HandlerCall) :
    derive sensitive calls = (calls.map (redactCall sensitive)).foldl applyRedacted .new := by
  rw [foldl_map]
  have happly : (fun (h : RemoteHandler) c => h.applyRedacted (redactCall sensitive c)) =
      apply sensitive := by
    funext h c
    cases c <;> rfl
  rw [happly]
  rfl

theorem inner_foldl (h : RemoteHandler) (calls : List HandlerCall) :
    (calls.foldl applyRedacted h).inner = h.inner ++ calls := by
  induction calls generalizing h with
  | nil => exact (append_nil _).symm
  | cons c calls ih =>
    rw [foldl_cons, ih]
    cases c <;> simp [applyRedacted, withGroup]

/-- The inner handler gets the redacted calls. -/
theorem derive_inner (calls : List HandlerCall) :
    (derive sensitive calls).inner = calls.map (redactCall sensitive) := by
  rw [derive_eq, inner_foldl]
  rfl

/-- The redacted record, without empty groups. -/
theorem redactRecord_eq (r : Record) :
    redactRecord sensitive r = ⟨r.level, r.message,
      (redactAttrs sensitive r.attrs).filter fun a => !a.2.isEmptyGroup⟩ := by
  have hfold : ∀ (attrs done : List Attr),
      attrs.foldl (fun acc a => acc.addAttrs [redactAttr sensitive a])
        (⟨r.level, r.message, done⟩ : Record) = ⟨r.level, r.message,
          done ++ (redactAttrs sensitive attrs).filter fun a => !a.2.isEmptyGroup⟩ := by
    intro attrs
    induction attrs with
    | nil => intro done; simp [redactAttrs]
    | cons a attrs ih =>
      intro done
      rw [foldl_cons, Record.addAttrs, ih]
      simp [redactAttrs, redactAttr, filter_cons]
      split <;> simp
  exact hfold r.attrs []

/-- Where nothing is shown, the redacted calls tell nothing of the secrets. -/
theorem map_redactCall_eq {flag : Bool} {calls calls' : List HandlerCall}
    (h : callsShown sensitive flag calls = 0) (hagree : CallsAgree sensitive flag calls calls') :
    calls.map (redactCall sensitive) = calls'.map (redactCall sensitive) := by
  induction calls generalizing flag calls' with
  | nil =>
    cases calls' with
    | nil => rfl
    | cons c calls' => exact hagree.elim
  | cons c calls ih =>
    cases calls' with
    | nil => cases c <;> exact hagree.elim
    | cons c' calls' =>
      match c, c' with
      | .withAttrs as, .withAttrs bs =>
        obtain ⟨has, hcalls⟩ := Nat.add_eq_zero_iff.mp h
        rw [map_cons, map_cons, ih hcalls hagree.2, redactCall, redactCall,
          redactAttrs_eq has hagree.1]
      | .withGroup name, .withGroup name' =>
        obtain ⟨rfl, hrest⟩ := hagree
        rw [map_cons, map_cons, ih h hrest]
      | .withAttrs _, .withGroup _ | .withGroup _, .withAttrs _ => exact hagree.elim

/-! ### Changing the secret values -/

/-- Another text for a leaf. -/
def Leaf.longer (x : Leaf) : Leaf := { x with text := x.text.push '*' }

variable (sensitive) in
mutual

/-- Another text for each secret leaf. -/
def Value.change (flag : Bool) : Value → Value
  | .leaf x => .leaf (if flag then x.longer else x)
  | .group attrs => .group (changeAttrs flag attrs)
  | .logValuer text v => .logValuer text (v.change flag)

/-- The attributes with other secrets. -/
def changeAttrs (flag : Bool) : List (String × Value) → List (String × Value)
  | [] => []
  | (key, v) :: rest => (key, v.change (flag || sensitive key)) :: changeAttrs flag rest

end

variable (sensitive) in

/-- The calls with other secrets. -/
def changeCalls (flag : Bool) : List HandlerCall → List HandlerCall
  | [] => []
  | .withAttrs attrs :: calls =>
    .withAttrs (changeAttrs sensitive flag attrs) :: changeCalls flag calls
  | .withGroup name :: calls => .withGroup name :: changeCalls (flag || sensitive name) calls

mutual

/-- A value agrees with the one with other secrets. -/
theorem Value.agrees_change (flag : Bool) (v : Value) :
    v.Agrees sensitive flag (v.change sensitive flag) := by
  match v with
  | .leaf x =>
    cases flag with
    | true => exact .inl rfl
    | false => exact .inr rfl
  | .group attrs => exact attrs_agree_change flag attrs
  | .logValuer text v => exact ⟨v.agrees_change flag, .inl rfl⟩

/-- So do attributes. -/
theorem attrs_agree_change (flag : Bool) (attrs : List (String × Value)) :
    AttrsAgree sensitive flag attrs (changeAttrs sensitive flag attrs) := by
  match attrs with
  | [] => trivial
  | (key, v) :: rest => exact ⟨rfl, v.agrees_change _, attrs_agree_change flag rest⟩

end

/-- So do calls. -/
theorem calls_agree_change (flag : Bool) (calls : List HandlerCall) :
    CallsAgree sensitive flag calls (changeCalls sensitive flag calls) := by
  induction calls generalizing flag with
  | nil => trivial
  | cons c calls ih =>
    cases c with
    | withAttrs attrs => exact ⟨attrs_agree_change flag attrs, ih flag⟩
    | withGroup name => exact ⟨rfl, ih _⟩

/-! ### The change shows

The length of all leaf texts grows by one for each secret leaf that is left. -/

mutual

/-- The length of the leaf texts. -/
def Value.weight : Value → Nat
  | .leaf x => x.text.length
  | .group attrs => attrsWeight attrs
  | .logValuer _ v => v.weight

/-- The same for attributes. -/
def attrsWeight : List (String × Value) → Nat
  | [] => 0
  | (_, v) :: rest => v.weight + attrsWeight rest

end

/-- The same for the calls. -/
def callsWeight : List HandlerCall → Nat
  | [] => 0
  | .withAttrs attrs :: calls => attrsWeight attrs + callsWeight calls
  | .withGroup _ :: calls => callsWeight calls

/-- Empty groups have no texts. -/
theorem attrsWeight_filter (attrs : List Attr) :
    attrsWeight (attrs.filter fun a => !a.2.isEmptyGroup) = attrsWeight attrs := by
  induction attrs with
  | nil => rfl
  | cons a attrs ih =>
    obtain ⟨key, v⟩ := a
    rw [filter_cons]
    split
    · rw [attrsWeight, attrsWeight, ih]
    next hempty =>
      have hv : v = .group [] := by
        unfold isEmptyGroup at hempty
        split at hempty
        · assumption
        · exact absurd rfl hempty
      rw [ih, hv]
      simp [attrsWeight, weight]

@[simp] theorem groupValue_weight (attrs : List Attr) :
    (groupValue attrs).weight = attrsWeight attrs := attrsWeight_filter attrs

mutual

/-- Each secret gets longer by one. -/
theorem Value.weight_change (flag : Bool) (v : Value) :
    (v.change sensitive flag).weight = v.weight + v.secrets sensitive flag := by
  match v with
  | .leaf x => cases flag <;> simp [change, weight, secrets, Leaf.longer]
  | .group attrs => exact attrsWeight_change flag attrs
  | .logValuer text v => exact v.weight_change flag

/-- The same for attributes. -/
theorem attrsWeight_change (flag : Bool) (attrs : List (String × Value)) :
    attrsWeight (changeAttrs sensitive flag attrs) =
      attrsWeight attrs + attrsSecrets sensitive flag attrs := by
  match attrs with
  | [] => rfl
  | (key, v) :: rest =>
    have hv := v.weight_change (flag || sensitive key)
    have hrest := attrsWeight_change flag rest
    simp only [changeAttrs, attrsWeight, attrsSecrets]
    omega

end

/-- Redacted values tell nothing. -/
theorem weight_keys (flag : Bool) (attrs : List Attr) :
    attrsWeight ((changeAttrs sensitive flag attrs).map fun a => (a.1, redacted)) =
      attrsWeight (attrs.map fun a => (a.1, redacted)) := by
  rw [keys_eq (attrs_agree_change flag attrs)]

mutual

/-- **The change shows**, once for each secret leaf that is left in place. -/
theorem redactValue_weight (flag : Bool) (key : String) (v : Value) :
    (redactValue sensitive key (v.change sensitive (flag || sensitive key))).weight =
      (redactValue sensitive key v).weight + v.shown sensitive flag key := by
  match v with
  | .leaf x =>
    cases hkey : sensitive key with
    | true => simp [redactValue, change, shown, hkey]
    | false =>
      cases flag <;>
        simp [redactValue, change, shown, weight, Leaf.longer, hkey]
  | .group attrs =>
    cases hkey : sensitive key with
    | true => simp [redactValue, change, shown, hkey, weight_keys]
    | false =>
      have := redactAttrs_weight flag attrs
      simpa [redactValue, change, shown, hkey] using this
  | .logValuer text v =>
    cases hkey : sensitive key with
    | true => simp [redactValue, change, shown, hkey]
    | false =>
      have : (v.change sensitive flag).weight = _ := v.weight_change flag
      simpa [redactValue, change, shown, weight, hkey] using this

/-- Redacted attributes get longer by the secrets that they show. -/
theorem redactAttrs_weight (flag : Bool) (attrs : List (String × Value)) :
    attrsWeight (redactAttrs sensitive (changeAttrs sensitive flag attrs)) =
      attrsWeight (redactAttrs sensitive attrs) + attrsShown sensitive flag attrs := by
  match attrs with
  | [] => rfl
  | (key, v) :: rest =>
    have hv := redactValue_weight flag key v
    have hrest := redactAttrs_weight flag rest
    simp only [changeAttrs, redactAttrs, attrsWeight, attrsShown]
    omega

end

/-- So do redacted calls. -/
theorem callsWeight_change (flag : Bool) (calls : List HandlerCall) :
    callsWeight ((changeCalls sensitive flag calls).map (redactCall sensitive)) =
      callsWeight (calls.map (redactCall sensitive)) + callsShown sensitive flag calls := by
  induction calls generalizing flag with
  | nil => rfl
  | cons c calls ih =>
    cases c with
    | withAttrs attrs =>
      have hattrs : attrsWeight (redactAttrs sensitive (changeAttrs sensitive flag attrs)) = _ :=
        redactAttrs_weight flag attrs
      have hcalls := ih flag
      simp only [changeCalls, map_cons, redactCall, callsWeight, callsShown]
      omega
    | withGroup name =>
      exact ih _

/-! ### Protected uses -/

section Protected

variable {calls : List HandlerCall} {r : Record}

/-- **Shown to the inner handler.** Another text for every secret leaf gives other calls or another
    record if a secret leaf is left in place. -/
theorem shown_of_innerProtected (h : InnerProtected sensitive calls r) :
    callsShown sensitive false calls = 0 ∧
      attrsShown sensitive (inSensitiveGroup sensitive calls) r.attrs = 0 := by
  obtain ⟨hinner, hrecord⟩ := h (changeCalls sensitive false calls)
    ⟨r.level, r.message, changeAttrs sensitive (inSensitiveGroup sensitive calls) r.attrs⟩
    (calls_agree_change false calls) ⟨rfl, rfl, attrs_agree_change _ _⟩ false
  constructor
  · simp only [handled, handle, derive_inner] at hinner
    have hweight := congrArg callsWeight hinner
    rw [callsWeight_change] at hweight
    omega
  · simp only [handled, handle, redactRecord_eq] at hrecord
    have hattrs := congrArg (fun r : Record => attrsWeight r.attrs) hrecord
    simp only [attrsWeight_filter, redactAttrs_weight] at hattrs
    omega

/-- **Hidden.** If no secret leaf is left in place, nothing that the handler gives away changes. -/
theorem handled_eq {flag innerFails : Bool} {calls' : List HandlerCall} {r' : Record}
    (hcalls : callsShown sensitive flag calls = 0)
    (hattrs : attrsShown sensitive (inSensitiveGroup sensitive calls) r.attrs = 0)
    (hagree : CallsAgree sensitive flag calls calls')
    (hrecord : r.Agrees sensitive (inSensitiveGroup sensitive calls) r') :
    handled sensitive calls r innerFails = handled sensitive calls' r' innerFails := by
  obtain ⟨hlevel, hmessage, hrecord⟩ := hrecord
  have hderive : derive sensitive calls = derive sensitive calls' := by
    rw [derive_eq, derive_eq, map_redactCall_eq hcalls hagree]
  have hredacted : redactRecord sensitive r = redactRecord sensitive r' := by
    rw [redactRecord_eq, redactRecord_eq, redactAttrs_eq hattrs hrecord, hlevel, hmessage]
  simp only [handled, handle, line, hderive, hredacted, hlevel, hmessage]

end Protected

/-- **Which uses of the handler keep their secrets.** For the inner handler, exactly those in which
    the redaction leaves no secret leaf in place; for the line, those in which it leaves none if
    every group name counts for every attribute. -/
theorem protected_iff_none_shown (u : LetterTables) (calls : List HandlerCall) (r : Record) :
    (InnerProtected (isSensitiveKey u) calls r ↔
      callsShown (isSensitiveKey u) false calls = 0 ∧
        attrsShown (isSensitiveKey u) (inSensitiveGroup (isSensitiveKey u) calls) r.attrs = 0) ∧
    (callsShown (isSensitiveKey u) (inSensitiveGroup (isSensitiveKey u) calls) calls = 0 →
      attrsShown (isSensitiveKey u) (inSensitiveGroup (isSensitiveKey u) calls) r.attrs = 0 →
        LineProtected (isSensitiveKey u) calls r) := by
  refine ⟨⟨shown_of_innerProtected, fun h calls' r' hagree hrecord innerFails => ?_⟩,
    fun hcalls hattrs calls' r' hagree hrecord innerFails => ?_⟩
  · rw [handled_eq h.1 h.2 hagree hrecord]
    exact ⟨rfl, rfl⟩
  · rw [handled_eq hcalls hattrs hagree hrecord]

/-- A user name that is logged. -/
def userAttr (user : String) : Attr := ("user", .leaf ⟨.string, user⟩)

/-- A record for a logger with `WithGroup("secret")`. -/
def groupedLogin (user : String) : Record := ⟨0, "login", [userAttr user]⟩

/-- A record with a `LogValuer` that resolves to a group with a password. -/
def valuerLogin (password : String) : Record :=
  ⟨0, "login", [("user", .logValuer ("\x7b" ++ password ++ "\x7d")
    (.group [("name", .leaf ⟨.string, "root"⟩), ("password", .leaf ⟨.string, password⟩)]))]⟩

/-- The calls of a logger that is put into a group after its user was bound. -/
def lateGroup (user : String) : List HandlerCall :=
  [.withAttrs [userAttr user], .withGroup "session"]

/-- Neither login is protected, and the line shows the user of the late group. -/
theorem logins_not_protected :
    ¬InnerProtected (isSensitiveKey asciiLetters) [.withGroup "secret"] (groupedLogin "hunter2") ∧
      ¬InnerProtected (isSensitiveKey asciiLetters) [] (valuerLogin "hunter2") ∧
      ¬LineProtected (isSensitiveKey asciiLetters) (lateGroup "hunter2") ⟨0, "login", []⟩ := by
  refine ⟨fun h => ?_, fun h => ?_, fun h => ?_⟩
  -- Protected, another user name would give the same record.
  · have hagree : (groupedLogin "hunter2").Agrees (isSensitiveKey asciiLetters)
        (inSensitiveGroup (isSensitiveKey asciiLetters) [.withGroup "secret"])
        (groupedLogin "hunter3") := ⟨rfl, rfl, rfl, .inl (by decide), trivial⟩
    have hsame := h [.withGroup "secret"] (groupedLogin "hunter3") ⟨rfl, trivial⟩ hagree false
    have hattrs := congrArg (fun o => attrStrings o.attrs) hsame.2
    revert hattrs
    decide
  · have hagree : (valuerLogin "hunter2").Agrees (isSensitiveKey asciiLetters)
        (inSensitiveGroup (isSensitiveKey asciiLetters) []) (valuerLogin "hunter3") := by
      refine ⟨rfl, rfl, rfl, ⟨⟨rfl, .inr rfl, rfl, .inl (by decide), trivial⟩, .inr ?_⟩, trivial⟩
      intro heq
      have htext := congrArg Value.string heq
      revert htext
      decide
    have hsame := h [] (valuerLogin "hunter3") trivial hagree false
    have hattrs := congrArg (fun o => attrStrings o.attrs) hsame.2
    revert hattrs
    decide
  · have hline := h (lateGroup "hunter3") ⟨0, "login", []⟩
      ⟨⟨rfl, .inl (by decide), trivial⟩, rfl, trivial⟩ ⟨rfl, rfl, trivial⟩ false
    revert hline
    decide +kernel

end Booty.Caprf
