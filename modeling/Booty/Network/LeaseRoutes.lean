import Booty.Dhcp4.Lease

namespace Booty.Network

open List

open Booty.Dhcp4 (Ip)

/-!
# The address and the routes of a lease (`pkg/network/dhcp_options.go`)

What DHCP mode takes from a lease: the interface address, the main table routes of networkd, their
copies in a table of the NIC and the rule that sends the lease address there.

* `sameRoute_iff` — the comparison of two routes of one NIC is their equality.
* `leaseRoutes_link`, `sourceRoutes_link` — the routes of a lease are routes of its NIC.
-/

/-- An interface address: `net.IPNet` with a mask given by its length. -/
structure Addr where
  ip : Ip
  len : Nat
deriving DecidableEq, Repr

/-- `ip.Mask`. -/
def maskIp (ip : Ip) (len : Nat) : Ip := UInt32.ofNat (ip.toNat / 2 ^ (32 - len) * 2 ^ (32 - len))

/-- Option 1 of a lease: absent, a mask, or bytes that are no mask, as they are printed. -/
inductive Netmask
  | absent
  | len (n : Nat)
  | invalid (hex : String)
deriving DecidableEq, Repr

/-- `dhcpRoute`: a destination and a gateway, `0.0.0.0` for an on-link destination. -/
structure DhcpRoute where
  dst : Addr
  gw : Ip
deriving DecidableEq, Repr

/-- A lease with the options that DHCP mode reads.  `staticRoutes` are the pairs of option 33 and
    `classless` the routes of option 121, both empty when the option is absent or malformed. -/
structure BoundLease extends Dhcp4.Lease where
  netmask : Netmask
  router : List Ip
  staticRoutes : List (Ip × Ip)
  classless : List DhcpRoute
deriving DecidableEq, Repr

/-- `DefaultMask`: the classful mask of an address. -/
def defaultMask (ip : Ip) : Nat :=
  if ip.toNat / 2 ^ 24 < 128 then 8 else if ip.toNat / 2 ^ 24 < 192 then 16 else 24

variable (link : Nat) (lease : BoundLease) (addr : Addr)

/-- `leaseAddr`. -/
def leaseAddr : Except String Addr :=
  if lease.fixedAddress = 0 then .error "lease has no IPv4 address"
  else match lease.netmask with
    | .absent => .ok ⟨lease.fixedAddress, defaultMask lease.fixedAddress⟩
    | .len n => .ok ⟨lease.fixedAddress, n⟩
    | .invalid hex => .error s!"lease has an invalid subnet mask {hex}"

/-- `leaseUsable`. -/
def leaseUsable : Except String Unit :=
  if !(lease.expire.any (fun e => lease.bound < e)) then .error "lease has no lifetime"
  else if !(lease.serverID.any (· ≠ 0)) then .error "lease has no server identifier"
  else .ok ()

/-! ### Routes -/

/-- The scopes of a route. -/
inductive Scope
  | universe
  | link
  | host
deriving DecidableEq, Repr

/-- A kernel route; a missing destination is the default route.  Metric and protocol are the same
    for all of them. -/
structure Route where
  linkIndex : Nat
  dst : Option Addr
  gw : Option Ip
  src : Option Ip
  scope : Scope
  table : Nat
deriving DecidableEq, Repr

/-- The rule that sends what comes from an address to a table. -/
structure Rule where
  src : Ip
  table : Nat
deriving DecidableEq, Repr

/-- A loopback address. -/
def isLoopback (ip : Ip) : Bool := ip.toNat / 2 ^ 24 == 127

/-- `staticRoutes`: 0.0.0.0 and class D and E are no destinations. -/
def staticRoutes (pairs : List (Ip × Ip)) : List DhcpRoute :=
  pairs.filterMap (fun (dst, router) =>
    if dst = 0 ∨ 224 ≤ dst.toNat / 2 ^ 24 then none
    else some ⟨⟨maskIp dst (defaultMask dst), defaultMask dst⟩, router⟩)

/-- `leaseRouteSet`: option 121, or without it option 33 and a default route through the first
    router. -/
def leaseRouteSet : List DhcpRoute :=
  if lease.classless ≠ [] then lease.classless
  else
    staticRoutes lease.staticRoutes ++
      (match lease.router.find? (· ≠ 0) with
        | some r => [⟨⟨0, 0⟩, r⟩]
        | none => [])

/-- The route of a destination in `leaseRoutes`. -/
def leaseRoute (dst : Addr) (gw : Ip) : Route :=
  let r : Route := { linkIndex := link, dst := if 0 < dst.len then some dst else none, gw := none
                     src := some addr.ip, scope := .universe, table := 0 }
  if isLoopback dst.ip then { r with scope := .host, src := none }
  else if dst.ip = addr.ip then { r with scope := .host }
  else if gw = 0 then { r with scope := .link }
  else { r with gw := some gw }

/-- `containsGateway`. -/
def containsGateway (routes : List Route) (gw : Ip) : Bool :=
  routes.any (fun r => r.dst.any (fun d => d.ip = gw))

/-- The host routes to the gateways of the routes, each gateway once. -/
def gatewayRoutes (routes : List DhcpRoute) : List Route :=
  routes.foldl (fun gws r =>
    let host := isLoopback r.dst.ip || r.dst.ip == addr.ip
    if !host && r.gw != 0 && !containsGateway gws r.gw then
      gws ++ [leaseRoute link addr ⟨r.gw, 32⟩ 0]
    else gws) []

/-- `leaseRoutes`: a host route to every gateway, then the routes of the lease. -/
def leaseRoutes (lease : BoundLease) : List Route :=
  let routes := leaseRouteSet lease
  gatewayRoutes link addr routes ++ routes.map (fun r => leaseRoute link addr r.dst r.gw)

/-- `sourceTable`. -/
def sourceTable : Nat := 10000 + link

/-- `sourceRoutes`: the subnet of the address and copies of the main table routes, without host
    routes. -/
def sourceRoutes (main : List Route) (link : Nat) (addr : Addr) : List Route :=
  let subnet : List Route :=
    if addr.len < 32 then
      [{ linkIndex := link, dst := some ⟨maskIp addr.ip addr.len, addr.len⟩, gw := none
         src := some addr.ip, scope := .link, table := sourceTable link }]
    else []
  subnet ++ (main.filter (fun r => r.scope ≠ .host)).map
    (fun r => { r with table := sourceTable link })

/-- `sourceRule`. -/
def sourceRule : Rule := ⟨addr.ip, sourceTable link⟩

/-- `sameRoute` compares the keys of two lease routes. -/
def sameRoute (a b : Route) : Bool :=
  a.dst == b.dst && a.gw == b.gw && a.src == b.src && a.scope == b.scope && a.table == b.table

/-! ### Routes of one NIC -/

/-- **For routes of one NIC the comparison is equality.** -/
theorem sameRoute_iff {a b : Route} (h : a.linkIndex = b.linkIndex) :
    sameRoute a b = true ↔ a = b := by
  cases a; cases b
  simp only [sameRoute, Bool.and_eq_true, beq_iff_eq, Route.mk.injEq] at *
  tauto

theorem leaseRoute_link (addr dst : Addr) (gw : Ip) :
    (leaseRoute link addr dst gw).linkIndex = link := by grind [leaseRoute]

theorem leaseRoutes_link {link : Nat} {addr : Addr} {lease : BoundLease} :
    ∀ r ∈ leaseRoutes link addr lease, r.linkIndex = link := by
  have hfold : ∀ (routes : List DhcpRoute) (gws : List Route), (∀ r ∈ gws, r.linkIndex = link) →
      ∀ r ∈ routes.foldl (fun gws r =>
        let host := isLoopback r.dst.ip || r.dst.ip == addr.ip
        if !host && r.gw != 0 && !containsGateway gws r.gw then
          gws ++ [leaseRoute link addr ⟨r.gw, 32⟩ 0]
        else gws) gws, r.linkIndex = link := by
    intro routes
    induction routes with
    | nil => exact fun gws h => h
    | cons r routes ih =>
      intro gws h
      refine ih _ ?_
      dsimp only
      split
      · grind [leaseRoute_link]
      · exact h
  intro r hr
  rcases mem_append.mp hr with hr | hr
  · exact hfold _ [] (fun r hr => absurd hr not_mem_nil) r hr
  · grind [leaseRoute_link]

theorem sourceRoutes_link {main : List Route} {link : Nat} {addr : Addr}
    (h : ∀ r ∈ main, r.linkIndex = link) :
    ∀ r ∈ sourceRoutes main link addr, r.linkIndex = link := by
  intro r hr
  rcases mem_append.mp hr with hr | hr <;> grind

end Booty.Network
