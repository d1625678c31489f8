import Booty.Lib.Bytes
import Booty.Lib.GoInt

namespace Booty.Dhcp6

open Booty.Lib List

/-!
# DHCPv6 replies (`pkg/network/dhcp6/message.go`)

What the client keeps of a server's message.  A `Packet` is a message after the option parser:
an option that the parser could not read is kept as raw bytes and ignored, as in `lenient`.  The
options that only the callbacks read (DNS servers, search domains) are left out.  Times are in
nanoseconds.

* `decode_timed` — the times of every lease with an address: `Bound ≤ Renew ≤ Rebind ≤ Expire`, and
  usable times of the server are kept.
-/

/-- The DHCPv6 message types. -/
inductive MessageType
  | solicit
  | advertise
  | request
  | renew
  | rebind
  | reply
  | release
  | informationRequest
  | other (code : Nat)
  deriving DecidableEq, Repr

/-- An IPv6 address. -/
abbrev Ip := BitVec 128

/-- The IA status NoBinding; 0 is success. -/
def statusNoBinding : Nat := 3

/-- An IA address option with the status code in it. -/
structure IAAddress where
  addr : Ip
  preferred : UInt32
  valid : UInt32
  status : Option Nat := none
  deriving DecidableEq, Repr

/-- An IA_NA option with the status code in it; an address option that did not parse is `none`. -/
structure IANA where
  iaid : UInt32
  t1 : UInt32
  t2 : UInt32
  status : Option Nat := none
  addrs : List (Option IAAddress) := []
  deriving DecidableEq, Repr

/-- The options that `decode` reads; an IA_NA that did not parse is `none`. -/
inductive Opt
  | clientID (data : Bytes)
  | serverID (data : Bytes)
  | preference (data : Bytes)
  | statusCode (data : Bytes)
  | infoRefresh (data : Bytes)
  | rapidCommit
  | iaNA (ia : Option IANA)
  | other
  deriving DecidableEq, Repr

/-- A message after the option parser. -/
structure Packet where
  typ : MessageType
  xid : Nat
  opts : List Opt
  deriving DecidableEq, Repr

/-- A datagram: one that is too short, one with a truncated option, or a message. -/
inductive Datagram
  | short
  | malformed
  | message (p : Packet)
  deriving DecidableEq, Repr

/-- `Lease`; an unset time is `none`. -/
structure Lease where
  addr : Option Ip := none
  preferred : Nat := 0
  valid : Nat := 0
  serverID : Bytes := []
  infoRefresh : Int := 0
  bound : Option Int := none
  renew : Option Int := none
  rebind : Option Int := none
  expire : Option Int := none
  deriving DecidableEq, Repr

/-- `reply`. -/
structure Reply where
  typ : MessageType
  xid : Nat
  clientID : Bytes := []
  rapidCommit : Bool := false
  iaStatus : Nat := 0
  pref : Nat := 0
  lease : Lease := {}
  hasAddr : Bool := false
  deriving DecidableEq, Repr

/-- The errors of `decode`. -/
inductive DecodeError
  | short
  | parse
  | noServer
  | invalid
  deriving DecidableEq, Repr

/-- `strict`, with the identifiers that were seen before. -/
def strictFrom (client server : Bool) : List Opt → Bool
  | [] => true
  | .clientID b :: opts => !client && strictFrom (b ≠ []) server opts
  | .serverID b :: opts => !server && strictFrom client (b ≠ []) opts
  | .preference b :: opts => b.length = 1 && strictFrom client server opts
  | .statusCode b :: opts =>
    2 ≤ b.length && bigEndian (b.take 2) = 0 && strictFrom client server opts
  | .infoRefresh b :: opts => b.length = 4 && strictFrom client server opts
  | _ :: opts => strictFrom client server opts

/-- `strict`. -/
def strict (opts : List Opt) : Bool := strictFrom false false opts

/-- The content of a client identifier. -/
def Opt.clientID? : Opt → Option Bytes
  | .clientID b => some b
  | _ => none

/-- The content of a server identifier. -/
def Opt.serverID? : Opt → Option Bytes
  | .serverID b => some b
  | _ => none

/-- The content of a preference. -/
def Opt.preference? : Opt → Option Bytes
  | .preference b => some b
  | _ => none

/-- The content of an information refresh time. -/
def Opt.infoRefresh? : Opt → Option Bytes
  | .infoRefresh b => some b
  | _ => none

/-- The IA_NA options that parsed. -/
def Opt.iaNA? : Opt → Option IANA
  | .iaNA ia => ia
  | _ => none

/-- `optionData`: the first payload that is not empty. -/
def optionData (get : Opt → Option Bytes) (opts : List Opt) : Bytes :=
  ((opts.filterMap get).find? (· ≠ [])).getD []

/-- The addresses that `Lease.ia` does not skip. -/
def IAAddress.usable (a : IAAddress) : Bool :=
  (a.status = none || a.status = some 0) && a.valid ≠ 0 && a.preferred ≤ a.valid

/-- `Lease.ia`: the lease with the first usable address of the IA. -/
def Lease.ia (l : Lease) (ia : IANA) (now : Int) : Lease × Bool :=
  if 0 < ia.t1 ∧ 0 < ia.t2 ∧ ia.t2 < ia.t1 then (l, false)
  else
    match (ia.addrs.filterMap id).find? IAAddress.usable with
    | none => (l, false)
    | some a =>
      let t1 := if ia.t1 = 0 then a.preferred.toNat / 2 else ia.t1.toNat
      let t2 := if ia.t2 = 0 then a.preferred.toNat * 4 / 5 else ia.t2.toNat
      let t2 := min t2 a.valid.toNat
      let t1 := min t1 t2
      ({ l with
          addr := some a.addr
          preferred := a.preferred.toNat
          valid := a.valid.toNat
          bound := some now
          renew := some (now + t1 * second)
          rebind := some (now + t2 * second)
          expire := some (now + a.valid.toNat * second) }, true)

/-- What `decode` does with one IA_NA option. -/
def Reply.readIA (iaid : UInt32) (now : Int) (r : Reply) (ia : IANA) : Reply :=
  if ia.iaid = iaid then
    let (lease, hasAddr) := r.lease.ia ia now
    { r with iaStatus := ia.status.getD r.iaStatus, lease := lease, hasAddr := hasAddr }
  else r

/-- `decode`. -/
def decode (d : Datagram) (iaid : UInt32) (now : Int) : Except DecodeError Reply :=
  match d with
  | .short => .error .short
  | .malformed => .error .parse
  | .message p =>
    if !strict p.opts then .error .invalid
    else
      let server := optionData Opt.serverID? p.opts
      if (p.typ = .advertise ∨ p.typ = .reply) ∧ server = [] then .error .noServer
      else
        let pref := optionData Opt.preference? p.opts
        -- At least IRT_MINIMUM, also for 0.
        let refresh := match (p.opts.filterMap Opt.infoRefresh?).head? with
          | some b => max (bigEndian b * second) (600 * second)
          | none => 0
        let r : Reply := {
          typ := p.typ
          xid := p.xid
          clientID := optionData Opt.clientID? p.opts
          rapidCommit := .rapidCommit ∈ p.opts
          pref := if pref.length = 1 then bigEndian pref else 0
          lease := { serverID := server, infoRefresh := refresh } }
        .ok ((p.opts.filterMap Opt.iaNA?).foldl (Reply.readIA iaid now) r)

/-! ### The times of a lease -/

/-- The address that a lease takes from an IA. -/
def IANA.chosen (ia : IANA) : Option IAAddress := (ia.addrs.filterMap id).find? IAAddress.usable

/-- The last IA with our IAID in a message. -/
def Packet.lastIA (p : Packet) (iaid : UInt32) : Option IANA :=
  ((p.opts.filterMap Opt.iaNA?).filter (·.iaid = iaid)).getLast?

/-- The times of a lease at `now` from an address of an IA: in order, and those of the server where
    it sent usable ones. -/
structure Lease.Timed (l : Lease) (now : Int) (ia : IANA) (a : IAAddress) : Prop where
  bound : l.bound = some now
  ordered : ∃ renew rebind expire, l.renew = some renew ∧ l.rebind = some rebind ∧
    l.expire = some expire ∧ now ≤ renew ∧ renew ≤ rebind ∧ rebind ≤ expire
  kept : 0 < ia.t1.toNat → ia.t1.toNat ≤ ia.t2.toNat → ia.t2.toNat ≤ a.valid.toNat →
    l.renew = some (now + ia.t1.toNat * second) ∧ l.rebind = some (now + ia.t2.toNat * second)

theorem Lease.ia_timed {l : Lease} {ia : IANA} {now : Int} (h : (l.ia ia now).2 = true) :
    ∃ a, ia.chosen = some a ∧ (l.ia ia now).1.Timed now ia a := by
  have hchosen : (ia.addrs.filterMap id).find? IAAddress.usable = ia.chosen := rfl
  unfold Lease.ia at h ⊢
  rw [hchosen] at h ⊢
  by_cases hdiscard : 0 < ia.t1 ∧ 0 < ia.t2 ∧ ia.t2 < ia.t1
  · rw [if_pos hdiscard] at h
    cases h
  · rw [if_neg hdiscard] at h ⊢
    cases ha : ia.chosen with
    | none =>
      rw [ha] at h
      cases h
    | some a =>
      refine ⟨a, rfl, rfl, ⟨_, _, _, rfl, rfl, rfl, ?_⟩, fun h1 h2 h3 => ?_⟩
      · unfold second millisecond microsecond
        omega
      · have ht1 : ia.t1 ≠ 0 := by rintro h; simp [h] at h1
        have ht2 : ia.t2 ≠ 0 := by rintro h; simp [h] at h2; omega
        dsimp only
        rw [if_neg ht1, if_neg ht2, min_eq_left h3, min_eq_left h2]
        exact ⟨rfl, rfl⟩

/-- **Lease times.**  The address of a message comes from the last IA with our IAID, and so do its
    times. -/
theorem decode_timed {d : Datagram} {iaid : UInt32} {now : Int} {r : Reply}
    (h : decode d iaid now = .ok r) (haddr : r.hasAddr = true) :
    ∃ p ia a, d = .message p ∧ p.lastIA iaid = some ia ∧ ia.chosen = some a ∧
      r.lease.Timed now ia a := by
  -- The IAs are read in turn, each on top of what the ones before it have left.
  have hfold : ∀ (ias : List IANA) (r : Reply), r.hasAddr = false →
      (ias.foldl (Reply.readIA iaid now) r).hasAddr = true →
      ∃ ia a, (ias.filter (·.iaid = iaid)).getLast? = some ia ∧ ia.chosen = some a ∧
        (ias.foldl (Reply.readIA iaid now) r).lease.Timed now ia a := by
    intro ias r hr
    induction ias using List.reverseRecOn with
    | nil => exact fun h => absurd h (by rw [foldl_nil, hr]; decide)
    | append_singleton ias ia ih =>
      rw [foldl_append]
      intro h
      rw [foldl_cons, Reply.readIA] at h ⊢
      by_cases hia : ia.iaid = iaid
      · rw [if_pos hia] at h ⊢
        obtain ⟨a, ha, htimed⟩ := Lease.ia_timed h
        exact ⟨ia, a, by simp [hia], ha, htimed⟩
      · rw [if_neg hia] at h ⊢
        simpa [hia] using ih h
  unfold decode at h
  cases d with
  | short => cases h
  | malformed => cases h
  | message p =>
    dsimp only at h
    split at h
    · cases h
    · split at h
      · cases h
      · cases h
        obtain ⟨ia, a, hlast, ha, htimed⟩ := hfold _ _ rfl haddr
        exact ⟨p, ia, a, rfl, hlast, ha, htimed⟩

end Booty.Dhcp6
