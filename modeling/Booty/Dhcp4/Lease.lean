import Booty.Lib.Bytes
import Booty.Lib.GoInt

namespace Booty.Dhcp4

open Booty.Lib

/-!
# DHCPv4 leases and replies (`pkg/network/dhcp4/message.go`)

What the client keeps of a server's message.  A `Header` is a parsed BOOTP message with the options
that decide whether it is used; times are in nanoseconds.

* `decodeReply_timed` — the times of every lease that is accepted: `Bound ≤ Renew ≤ Rebind <
  Expire`, all three are set, and usable times of the server are kept.
-/

/-- An IPv4 address; 0 is `0.0.0.0`. -/
abbrev Ip := UInt32

/-- The DHCP message types. -/
inductive MessageType
  | discover
  | offer
  | request
  | decline
  | ack
  | nak
  | release
  | inform
  | other (code : Nat)
  deriving DecidableEq, Repr

/-- `Lease`, without the options that only the callbacks read; an unset time is `none`. -/
structure Lease where
  serverID : Option Ip
  fixedAddress : Ip
  bound : Int
  renew : Option Int := none
  rebind : Option Int := none
  expire : Option Int := none
  deriving DecidableEq, Repr

/-- A parsed BOOTP reply: the header fields and options 53, 54, 51, 58, 59, 80 and 52; an absent
    time is 0. -/
structure Header where
  typ : MessageType
  xid : Nat
  mac : Bytes
  yiaddr : Ip
  serverID : Option Ip
  lease : UInt32
  t1 : UInt32
  t2 : UInt32
  rapidCommit : Bool
  overload : Bool
  deriving DecidableEq, Repr

/-- `reply`. -/
structure Reply where
  typ : MessageType
  xid : Nat
  mac : Bytes
  lease : Lease
  rapidCommit : Bool
  overload : Bool
  deriving DecidableEq, Repr

/-- `leaseTimes`: options 51, 58 and 59 in seconds, 0 when absent. -/
structure LeaseTimes where
  lease : Nat
  t1 : Nat
  t2 : Nat

/-- The defaults of T1 and T2. -/
def LeaseTimes.normalize (t : LeaseTimes) : LeaseTimes :=
  let t2 := if t.t2 = 0 ∨ t.lease ≤ t.t2 then t.lease * 7 / 8 else t.t2
  if t.t1 = 0 ∨ t2 ≤ t.t1 then
    let t1 := t.lease / 2
    { t with t1 := t1, t2 := if t2 ≤ t1 then t.lease * 7 / 8 else t2 }
  else { t with t2 := t2 }

/-- `leaseTimes.set`. -/
def LeaseTimes.set (t : LeaseTimes) (l : Lease) (now : Int) : Lease :=
  if t.lease = 0 then l
  else
    let n := t.normalize
    { l with
      expire := some (now + n.lease * second)
      renew := some (now + n.t1 * second)
      rebind := some (now + n.t2 * second) }

/-- `reply.usable`. -/
def Reply.usable (r : Reply) (hasLease : Bool) : Bool :=
  match r.typ with
  | .offer | .ack =>
    r.lease.fixedAddress ≠ 0 && r.lease.serverID.isSome && r.lease.serverID ≠ some 0 &&
      hasLease && !r.overload
  | .nak => r.lease.serverID.isSome
  | _ => true

/-- `decodeReply`, after the parser: `none` for a payload that is not a usable server reply. -/
def decodeReply (payload : Option Header) (now : Int) : Option Reply :=
  match payload with
  | none => none
  | some h =>
    let times : LeaseTimes := ⟨h.lease.toNat, h.t1.toNat, h.t2.toNat⟩
    let r : Reply := {
      typ := h.typ
      xid := h.xid
      mac := h.mac
      rapidCommit := h.rapidCommit
      overload := h.overload
      lease := times.set { serverID := h.serverID, fixedAddress := h.yiaddr, bound := now } now }
    if r.usable (0 < times.lease) then some r else none

/-! ### The times of a lease -/

/-- The times of a lease are set and in order. -/
structure Lease.Ordered (l : Lease) : Prop where
  renew : ∃ t, l.renew = some t
  rebind : ∃ t, l.rebind = some t
  expire : ∃ t, l.expire = some t
  renew_le : ∀ a b, l.renew = some a → l.rebind = some b → a ≤ b
  rebind_le : ∀ a b, l.rebind = some a → l.expire = some b → a ≤ b

/-- The times of a lease at `now` from the header of its message: in order, before the end of the
    lease, and those of the server where it sent usable ones. -/
structure Lease.Timed (l : Lease) (now : Int) (hd : Header) : Prop where
  bound : l.bound = now
  ordered : ∃ renew rebind expire, l.renew = some renew ∧ l.rebind = some rebind ∧
    l.expire = some expire ∧ now ≤ renew ∧ renew ≤ rebind ∧ rebind < expire
  kept : 0 < hd.t1.toNat → hd.t1.toNat < hd.t2.toNat → hd.t2.toNat < hd.lease.toNat →
    l.renew = some (now + hd.t1.toNat * second) ∧ l.rebind = some (now + hd.t2.toNat * second)

/-- T1 and T2 after the defaults, for a lease time that is not 0. -/
theorem LeaseTimes.normalize_ordered (t : LeaseTimes) (h : 0 < t.lease) :
    t.normalize.t1 ≤ t.normalize.t2 ∧ t.normalize.t2 < t.normalize.lease ∧
      (0 < t.t1 → t.t1 < t.t2 → t.t2 < t.lease → t.normalize = t) := by
  unfold LeaseTimes.normalize
  dsimp only
  split_ifs <;> grind

variable {payload : Option Header} {now : Int} {r : Reply}

/-- **Lease times.**  An accepted OFFER or ACK has all three times. -/
theorem decodeReply_timed
    (h : decodeReply payload now = some r) (htyp : r.typ = .offer ∨ r.typ = .ack) :
    ∃ hd, payload = some hd ∧ r.lease.Timed now hd := by
  cases payload with
  | none => cases h
  | some hd =>
    rw [decodeReply] at h
    split at h
    · rename_i husable
      cases h
      have hlease : (0 : Nat) < hd.lease.toNat := by
        rcases htyp with ht | ht <;> simp_all [Reply.usable]
      obtain ⟨h1, h2, hkept⟩ :=
        LeaseTimes.normalize_ordered ⟨hd.lease.toNat, hd.t1.toNat, hd.t2.toNat⟩ hlease
      dsimp only [LeaseTimes.set]
      rw [if_neg (by omega)]
      refine ⟨hd, rfl, rfl, ⟨_, _, _, rfl, rfl, rfl, ?_⟩, fun h₁ h₂ h3 => ?_⟩
      · unfold second millisecond microsecond
        omega
      · rw [hkept h₁ h₂ h3]
        exact ⟨rfl, rfl⟩
    · cases h

theorem decodeReply_ordered
    (h : decodeReply payload now = some r) (htyp : r.typ = .offer ∨ r.typ = .ack) :
    r.lease.Ordered := by
  obtain ⟨hd, -, ht⟩ := decodeReply_timed h htyp
  obtain ⟨renew, rebind, expire, h₁, h₂, h3, -, hle, hlt⟩ := ht.ordered
  exact ⟨⟨_, h₁⟩, ⟨_, h₂⟩, ⟨_, h3⟩, by grind, by grind⟩

end Booty.Dhcp4
