import Booty.Lib.GoMap
import Booty.Lib.Ledger
import Booty.Lib.System
import Booty.Network.LeaseRoutes

namespace Booty.Network

open Booty.Lib

/-!
# What leases configure (`pkg/network/dhcp.go`)

DHCP mode configures each NIC from its leases and keeps what it set: the current lease of a NIC in
`nics`, what it could not remove in `stale`.  Every kernel call can fail; a call that finds the
object there already, or gone already, does not count as failed.  A run is any sequence of leases
that bind and end, on any NICs.

* `apply` — a lease is applied: address, main table routes, source routes and rule, in this order.
* `endLease` — a lease ends and what it configured goes.
* `teardown` — everything that is still recorded goes.
-/

/-- The kernel objects that leases configure. -/
inductive Obj
  | addr (link : Nat) (a : Addr)
  | route (r : Route)
  | rule (r : Rule)
deriving DecidableEq, Repr

/-- `dhcpApplied`: what a lease configured on a link. -/
structure DhcpApplied where
  link : Nat
  addr : Option Addr := none
  routes : List Route := []
  srcRoutes : List Route := []
  rule : Option Rule := none
deriving DecidableEq, Repr

/-- The objects an entry refers to. -/
def DhcpApplied.objects (a : DhcpApplied) : List Obj :=
  (a.addr.map (Obj.addr a.link)).toList ++ a.routes.map Obj.route ++ a.srcRoutes.map Obj.route ++
    (a.rule.map Obj.rule).toList

/-- A kernel call on an object. -/
inductive Call
  | add (o : Obj)
  | del (o : Obj)
  | replace (o : Obj)
deriving DecidableEq, Repr

/-- The environment of one event: whether the `n`-th call of the run fails with an error that leaves
    the kernel as it is, and the order in which `Teardown` visits the NICs. -/
structure Env where
  fails : Nat → Call → Bool
  visit : Visit

/-- DHCP mode and the kernel; `calls` counts the kernel calls so far. -/
structure DhcpMode where
  nics : GoMap Nat DhcpApplied
  stale : List DhcpApplied
  kernel : Obj → Ledger.Presence
  calls : Nat

namespace DhcpMode

/-! ### Kernel calls -/

variable (env : Env) (d : DhcpMode) (link : Nat)

/-- A call that adds an object (`dhcpRouteAdd`, `dhcpRuleAdd`); the Boolean is a real error. -/
def add (o : Obj) : Bool × DhcpMode :=
  if env.fails d.calls (.add o) then (true, { d with calls := d.calls + 1 })
  else (false, { d with calls := d.calls + 1, kernel := Ledger.put d.kernel o })

/-- A call that removes an object (`dhcpRouteDel`, `dhcpRuleDel`, `dhcpAddrDel`). -/
def del (o : Obj) : Bool × DhcpMode :=
  if env.fails d.calls (.del o) then (true, { d with calls := d.calls + 1 })
  else (false, { d with calls := d.calls + 1, kernel := Ledger.drop d.kernel o })

/-- The link has another entry for the same IP. -/
def sameIp (a : Addr) : Obj → Bool
  | .addr l b => l == link && b.ip == a.ip
  | _ => false

/-- `dhcpAddrReplace` leaves exactly one entry for the IP on the link, the new one. -/
def addrReplace (a : Addr) : Bool × DhcpMode :=
  if env.fails d.calls (.replace (.addr link a)) then (true, { d with calls := d.calls + 1 })
  else (false, { d with
    calls := d.calls + 1
    kernel := fun o => if o = .addr link a then .ours else if sameIp link a o then .absent
      else d.kernel o })

/-- Remove an object; one that cannot be removed is recorded in an entry of its own. -/
def dropOr (entry : DhcpApplied) (d : DhcpMode) (o : Obj) : DhcpMode :=
  let (failed, d) := d.del env o
  if failed then { d with stale := d.stale ++ [entry] } else d

/-- Remove a route, recorded as stale when that fails. -/
def dropRoute (d : DhcpMode) (r : Route) : DhcpMode :=
  d.dropOr env { link := link, routes := [r] } (.route r)

/-- `dropRule`. -/
def dropRule (rule : Option Rule) : DhcpMode :=
  match rule with
  | none => d
  | some r => d.dropOr env { link := 0, rule := some r } (.rule r)

/-- Remove an address, recorded as stale when that fails. -/
def dropAddr (d : DhcpMode) (a : Addr) : DhcpMode :=
  d.dropOr env { link := link, addr := some a } (.addr link a)

/-! ### A lease is applied -/

/-- The first loop of `applyRoutes`; `added` are the routes that the previous lease does not have.
    A failure removes those again. -/
def addRoutes (env : Env) (link : Nat) (prev : List Route) :
    List Route → List Route → DhcpMode → Bool × DhcpMode
  | [], _, d => (false, d)
  | r :: want, added, d =>
    let (failed, d) := d.add env (.route r)
    if failed then (true, added.foldl (dropRoute env link) d)
    else if prev.any (fun p => sameRoute p r) then addRoutes env link prev want added d
    else addRoutes env link prev want (added ++ [r]) d

/-- `applyRoutes`: `none` when a route could not be added. -/
def applyRoutes (addr : Addr) (lease : BoundLease) (prev : List Route)
    (d : DhcpMode) : Option (List Route) × DhcpMode :=
  let want := leaseRoutes link addr lease
  let (failed, d) := addRoutes env link prev want [] d
  if failed then (none, d)
  else
    (some want,
      (prev.filter (fun p => !want.any (fun r => sameRoute p r))).foldl (dropRoute env link) d)

/-- `dropUnappliedAddr`. -/
def dropUnappliedAddr (addr : Addr) (prev : Option DhcpApplied) (d : DhcpMode) : DhcpMode :=
  match prev with
  | some a =>
    match a.addr with
    | some old =>
      if old.ip = addr.ip then
        if old = addr then d
        else
          let (failed, d) := d.addrReplace env link old
          -- The kernel keeps the new mask, so that is what is tracked.
          if failed then { d with nics := d.nics.set link { a with addr := some addr } } else d
      else d.dropAddr env link addr
    | none => d.dropAddr env link addr
  | none => d.dropAddr env link addr

/-- The first loop of `applySource`: the routes that are in the table now.  A route that fails is
    left out. -/
def addSource (env : Env) : List Route → List Route → DhcpMode → List Route × DhcpMode
  | [], added, d => (added, d)
  | r :: want, added, d =>
    let (failed, d) := d.add env (.route r)
    if failed then addSource env want added d else addSource env want (added ++ [r]) d

/-- `applySource`. -/
def applySource (addr : Addr) (main : List Route) (prev : DhcpApplied)
    (d : DhcpMode) : List Route × Option Rule × DhcpMode :=
  let want := sourceRoutes main link addr
  let (added, d) := addSource env want [] d
  let d := (prev.srcRoutes.filter (fun p => !want.any (fun r => sameRoute p r))).foldl
    (dropRoute env link) d
  if prev.rule.isSome ∧ prev.addr.any (fun a => a.ip = addr.ip) then (added, prev.rule, d)
  else
    let d := d.dropRule env prev.rule
    let (failed, d) := d.add env (.rule (sourceRule link addr))
    if failed then (added, none, d) else (added, some (sourceRule link addr), d)

/-- The address of the previous lease goes when the new one has another. -/
def dropPrevAddr (addr : Addr) (prev : DhcpApplied) (d : DhcpMode) : DhcpMode :=
  match prev.addr with
  | some old => if old.ip = addr.ip then d else d.dropAddr env link old
  | none => d

/-- `apply`: a lease that cannot be applied leaves the previous state of the NIC in place. -/
def apply (addr : Addr) (lease : BoundLease) (d : DhcpMode) : DhcpMode :=
  let prev := d.nics.get link
  let old := prev.getD { link := link }
  let (failed, d) := d.addrReplace env link addr
  if failed then d
  else
    match d.applyRoutes env link addr lease old.routes with
    | (none, d) => d.dropUnappliedAddr env link addr prev
    | (some routes, d) =>
      let d := d.dropPrevAddr env link addr old
      let (srcRoutes, rule, d) := d.applySource env link addr routes old
      { d with
        nics := d.nics.set link
          { link := link, addr := some addr, routes := routes, srcRoutes := srcRoutes,
            rule := rule } }

/-- `onBound`: leases without an address or a lifetime are ignored. -/
def onBound (lease : BoundLease) (d : DhcpMode) : DhcpMode :=
  match leaseAddr lease, leaseUsable lease with
  | .ok addr, .ok () => d.apply env link addr lease
  | _, _ => d

/-! ### A lease ends -/

/-- `endLease`, the callback `onExpire`. -/
def endLease (d : DhcpMode) : DhcpMode :=
  match d.nics.get link with
  | none => d
  | some a =>
    let d := { d with nics := d.nics.delete link }
    let d := d.dropRule env a.rule
    let d := (a.routes ++ a.srcRoutes).foldl (dropRoute env link) d
    match a.addr with
    | none => d
    | some addr => d.dropAddr env link addr

/-- The calls of `Teardown` for one entry. -/
def removeApplied (a : DhcpApplied) : DhcpMode :=
  let d := match a.rule with
    | none => d
    | some r => (d.del env (.rule r)).2
  let d := (a.routes ++ a.srcRoutes).foldl (fun d r => (d.del env (.route r)).2) d
  match a.addr with
  | none => d
  | some addr => (d.del env (.addr a.link addr)).2

/-- `Teardown`: the stale entries, then those of the NICs. -/
def teardown : DhcpMode :=
  let applied := d.stale ++ (env.visit.keys d.nics).filterMap d.nics.get
  applied.foldl (removeApplied env) { d with nics := ∅, stale := [] }

end DhcpMode

/-! ### Runs -/

/-- A lease binds or ends. -/
inductive DhcpEvent
  | bound (link : Nat) (lease : BoundLease) (env : Env)
  | expired (link : Nat) (env : Env)

/-- One event. -/
def dhcpStep (d : DhcpMode) : DhcpEvent → Option DhcpMode
  | .bound link lease env => some (d.onBound env link lease)
  | .expired link env => some (d.endLease env link)

/-- DHCP mode starts without leases, next to whatever others have configured. -/
def dhcpMachine (foreign : Obj → Bool) : Machine DhcpMode DhcpEvent where
  start := { nics := ∅, stale := [], calls := 0
             kernel := fun o => if foreign o then .foreign else .absent }
  step := dhcpStep

end Booty.Network
