import Booty.Gobgp.Evpn
import Booty.Lib.SortBy

namespace Booty.Gobgp

open Booty.Lib

/-!
# Type-5 routes (`pkg/network/gobgp/overlay.go`)

The IP prefix routes of the overlay: the live paths of each prefix, which of them is installed, the
kernel routes, and the gateway state that goes with a path that has a router MAC — a neighbor entry
on the bridge and an FDB entry on the VXLAN device, shared by all prefixes that need them and
recorded in one reference for each prefix.

The kernel has one route for each prefix, one neighbor entry for each gateway and one destination
for each MAC in the VXLAN FDB (`NeighSet` replaces).  `RouteDel` with a gateway deletes only a route
through that gateway; a missing route is `ESRCH`.  What the handlers ask of other parts of the
program is in `Type5Env`.

* `applyType5PathDetailed` — one path is installed.
* `addType5Path`, `withdrawType5Path`, `resolveType5Prefix` — the changes of one prefix.
* `handleType5Update`, `processType5Update`, `resolveType5Gateway` — the updates.
* `RouteFrame` — what the gateway state leaves alone.
-/

/-- `type5Path`: one live path of a prefix; the router MAC is empty for none. -/
structure Type5Path where
  key : Type5Key
  route : Type5Route
  vtep : String
  routerMAC : Mac
  valid : Bool
deriving DecidableEq, Repr

/-- `type5GatewayRef`: the gateway state that a prefix needs. -/
structure GatewayRef where
  gateway : Gateway
  vtep : Option Ip
  routerMAC : Mac
deriving DecidableEq, Repr

/-- The records of the gateway state and its kernel entries: neighbors on the bridge and the FDB of
    the VXLAN device. -/
structure Gateways where
  refs : GoMap IPNet GatewayRef
  gatewayMAC : GoMap Gateway Mac
  neighbors : GoMap Gateway Mac
  fdb : GoMap Mac (BitVec 32)

/-- The Type-5 state and the kernel routes. -/
structure Type5 where
  paths : GoMap IPNet (GoMap Type5Key Type5Path)
  active : GoMap IPNet Type5Key
  gateways : Gateways
  routes : GoMap IPNet Gateway
  calls : Nat

/-- Nothing is known and nothing is installed. -/
def Type5.empty : Type5 := ⟨∅, ∅, ⟨∅, ∅, ∅, ∅⟩, ∅, 0⟩

/-- The kernel and the rest of the program during an update: `type2HasIP`, whether the FIB writer
    owns a prefix, and the IPs with a Type-2 neighbor entry. -/
structure Type5Env extends Env where
  type2HasIP : Ip → Bool
  fibOwns : IPNet → Bool
  type2Neigh : Ip → Bool

/-- `type2OwnsNeighbor`: an IPv4-mapped gateway is an entry of its own. -/
def Type5Env.type2OwnsNeighbor (env : Type5Env) : Gateway → Bool
  | .v4 a => env.type2Neigh (.ofV4 a)
  | .v6 ip => ip.to4.isNone && env.type2Neigh ip

/-- The length of a MAC address. -/
def ethernetMACLength : Nat := 6

/-- `buildType5GatewayNeighbor` gives an entry: for IPv4 and IPv4-mapped gateways. -/
def hasGatewayNeighbor (gw : Gateway) (routerMAC : Mac) : Bool :=
  decide (routerMAC.length = ethernetMACLength) &&
    match gw with
    | .v4 _ => true
    | .v6 ip => ip.to4.isSome

/-- `type5RouteState`. -/
structure RouteState where
  dst : IPNet
  gw : Gateway
  vtep : Option Ip
deriving DecidableEq, Repr

/-- The gateway of a Type-5 route; without one, or with 0.0.0.0 or `::`, it is the VTEP. -/
def routeGateway (txt : NetText) (dst : IPNet) (route : Type5Route) (vtep : String) :
    Option Gateway :=
  let gwStr :=
    if route.gwAddress = "" ∨ (txt.parseIP route.gwAddress).any Ip.isUnspecified then vtep
    else route.gwAddress
  (txt.parseIP gwStr).bind (type5Gateway dst)

/-- How `RouteDel` ends. -/
inductive DelResult
  | ok
  | esrch
  | failed
deriving DecidableEq, Repr

/-- The text of a prefix, by which prefixes are sorted. -/
def IPNet.text (txt : NetText) (dst : IPNet) : String := s!"{txt.ipString dst.ip}/{dst.len}"

namespace Type5

variable (cfg : Config) (txt : NetText) (env : Type5Env) (s : Type5)

/-! ### Kernel calls -/

/-- A kernel call that does `f` unless it fails. -/
def call (f : Type5 → Type5) : Bool × Type5 :=
  if env.fails s.calls then (true, { s with calls := s.calls + 1 })
  else (false, { f s with calls := s.calls + 1 })

/-- `LinkByName`, and the check of the underlay route of a VTEP. -/
def linkByName : Bool × Type5 := s.call env id

/-- `RouteReplace`. -/
def routeReplace (dst : IPNet) (gw : Gateway) : Bool × Type5 :=
  s.call env (fun s => { s with routes := s.routes.set dst gw })

/-- `RouteDel`: without a gateway any route of the prefix. -/
def routeDel (dst : IPNet) (gw : Option Gateway) : DelResult × Type5 :=
  let there := (s.routes.get dst).any (fun g => gw.all (· = g))
  match s.call env (fun s => if there then { s with routes := s.routes.delete dst } else s) with
  | (true, s) => (.failed, s)
  | (false, s) => (if there then .ok else .esrch, s)

/-- `NeighSet` on the bridge. -/
def neighSet (gw : Gateway) (mac : Mac) : Bool × Type5 :=
  s.call env (fun s => { s with gateways.neighbors := s.gateways.neighbors.set gw mac })

/-- `NeighDel` of a gateway ignores the MAC. -/
def neighDel (gw : Gateway) : Bool × Type5 :=
  s.call env (fun s => { s with gateways.neighbors := s.gateways.neighbors.delete gw })

/-- `NeighSet` on the VXLAN device. -/
def fdbSet (mac : Mac) (vtep : BitVec 32) : Bool × Type5 :=
  s.call env (fun s => { s with gateways.fdb := s.gateways.fdb.set mac vtep })

/-- `NeighDel` of an FDB entry: only an entry towards this VTEP goes. -/
def fdbDel (mac : Mac) (vtep : BitVec 32) : Bool × Type5 :=
  s.call env (fun s =>
    if s.gateways.fdb.get mac = some vtep then
      { s with gateways.fdb := s.gateways.fdb.delete mac }
    else s)

/-! ### Gateway state -/

/-- `hasType5GatewayRef`. -/
def hasType5GatewayRef (gw : Gateway) : Bool :=
  s.gateways.refs.values.any (fun r => r.gateway = gw)

/-- `hasType5GatewayFDBRef`. -/
def hasType5GatewayFDBRef (vtep : Option Ip) (mac : Mac) : Bool :=
  mac ≠ [] && s.gateways.refs.values.any (fun r => r.vtep = vtep && r.routerMAC = mac)

/-- `buildType5GatewayFDB`: the IPv4 address of the VTEP, for a MAC of the right length. -/
def gatewayFDB (vtep : Option Ip) (mac : Mac) : Option (BitVec 32) × Type5 :=
  let (failed, s) := s.linkByName env
  (if failed ∨ mac.length ≠ ethernetMACLength then none else vtep.bind Ip.to4, s)

/-- The neighbor entry of a gateway without references goes, unless a Type-2 route owns it. -/
def dropNeighbor (ref : GatewayRef) (deleteGateway : Bool) : Bool × Type5 :=
  if !deleteGateway then (true, s)
  else if !hasGatewayNeighbor ref.gateway ref.routerMAC then (false, s)
  else if env.type2OwnsNeighbor ref.gateway then (true, s)
  else
    let (failed, s) := s.neighDel env ref.gateway
    (!failed, s)

/-- The FDB entry that no reference uses goes. -/
def dropFDB (ref : GatewayRef) (deleteFDB : Bool) : Bool × Type5 :=
  if !deleteFDB then (true, s)
  else
    match s.gatewayFDB env ref.vtep ref.routerMAC with
    | (none, s) => (false, s)
    | (some vtep, s) =>
      let (failed, s) := s.fdbDel env ref.routerMAC vtep
      (!failed, s)

/-- The recorded MAC of a gateway without references is forgotten. -/
def forgetGatewayMAC (gw : Gateway) (deleteGateway : Bool) : Type5 :=
  if deleteGateway then { s with gateways.gatewayMAC := s.gateways.gatewayMAC.delete gw } else s

/-- `deleteType5GatewayRefLocked`: the kernel entries of a reference that is not stored any more. -/
def deleteType5GatewayRef (ref : GatewayRef) : Bool × Type5 :=
  let deleteGateway := !s.hasType5GatewayRef ref.gateway
  if ref.routerMAC.length ≠ ethernetMACLength then
    (true, s.forgetGatewayMAC ref.gateway deleteGateway)
  else
    let deleteFDB := !s.hasType5GatewayFDBRef ref.vtep ref.routerMAC
    let (neighOK, s) := s.dropNeighbor env ref deleteGateway
    let (fdbOK, s) := s.dropFDB env ref deleteFDB
    if !(neighOK && fdbOK) then (false, s)
    else (true, s.forgetGatewayMAC ref.gateway deleteGateway)

/-- The reference of a prefix is stored. -/
def storeRef (dst : IPNet) (ref : GatewayRef) : Type5 :=
  { s with gateways.refs := s.gateways.refs.set dst ref }

/-- The reference of a prefix is not stored any more. -/
def unstoreRef (dst : IPNet) : Type5 :=
  { s with gateways.refs := s.gateways.refs.delete dst }

/-- `storeType5GatewayRef`. -/
def storeType5GatewayRef (dst : IPNet) (ref : GatewayRef) : Type5 :=
  let s := s.storeRef dst ref
  { s with gateways.gatewayMAC := s.gateways.gatewayMAC.set ref.gateway ref.routerMAC }

/-- The end of `setType5GatewayNeighbor`: the new reference takes the place of the old one. -/
def replaceRef (dst : IPNet) (ref : GatewayRef) : Type5 :=
  match s.gateways.refs.get dst with
  | none => s.storeType5GatewayRef dst ref
  | some old =>
    if old = ref then s.storeType5GatewayRef dst ref
    else ((s.storeType5GatewayRef dst ref).deleteType5GatewayRef env old).2

/-- The neighbor entry of a gateway, unless it is shared with a Type-2 route. -/
def setNeighbor (gw : Gateway) (mac : Mac) : Bool × Type5 :=
  if env.type2OwnsNeighbor gw then (false, s) else s.neighSet env gw mac

/-- The entry goes again when the FDB entry failed. -/
def rollBackNeighbor (gw : Gateway) : Type5 :=
  if env.type2OwnsNeighbor gw then s else (s.neighDel env gw).2

/-- `setType5GatewayNeighbor`. -/
def setType5GatewayNeighbor (dst : IPNet) (gw : Gateway)
    (vtep : Option Ip) (routerMAC : Mac) : Bool × Type5 :=
  if !hasGatewayNeighbor gw routerMAC then (true, s)
  else
    match s.gatewayFDB env vtep routerMAC with
    | (none, s) => (false, s)
    | (some a, s) =>
      let (failed, s) := s.setNeighbor env gw routerMAC
      if failed then (false, s)
      else
        let (failed, s) := s.fdbSet env routerMAC a
        if failed then (false, s.rollBackNeighbor env gw)
        else (true, s.replaceRef env dst ⟨gw, vtep, routerMAC⟩)

/-- `updateType5GatewayRefWithoutRouterMAC`. -/
def updateType5GatewayRefWithoutRouterMAC (dst : IPNet) (gw : Gateway) (vtep : Option Ip) : Type5 :=
  match s.gateways.refs.get dst with
  | none => s.storeRef dst ⟨gw, vtep, []⟩
  | some old =>
    if old.gateway = gw ∧ old.vtep = vtep then s
    else
      let (deleted, s) := (s.storeRef dst ⟨gw, vtep, []⟩).deleteType5GatewayRef env old
      if deleted then s else s.storeRef dst old

/-- A stored reference is deleted with its kernel entries, or stored again when that fails. -/
def dropRef (dst : IPNet) (ref : GatewayRef) (restore : Bool) : Type5 :=
  let (deleted, s) := (s.unstoreRef dst).deleteType5GatewayRef env ref
  if !deleted && restore then s.storeRef dst ref else s

/-- The reference that `deleteType5GatewayNeighbor` deletes: the stored one with the VTEP and the
    MAC of the withdrawn path, or a new one. -/
def withdrawnRef (dst : IPNet) (gw : Gateway) (vtep : Option Ip) (routerMAC : Mac) : GatewayRef :=
  match s.gateways.refs.get dst with
  | none => ⟨gw, vtep, routerMAC⟩
  | some stored =>
    { stored with routerMAC := if routerMAC ≠ [] then routerMAC else stored.routerMAC
                  vtep := vtep.or stored.vtep }

/-- `deleteType5GatewayNeighbor`. -/
def deleteType5GatewayNeighbor (dst : IPNet) (gw : Gateway)
    (vtep : Option Ip) (routerMAC : Mac) : Type5 :=
  let ref := s.withdrawnRef dst gw vtep routerMAC
  let ref :=
    if ref.routerMAC = [] then
      { ref with routerMAC := (s.gateways.gatewayMAC.get ref.gateway).getD [] }
    else ref
  s.dropRef env dst ref (s.gateways.refs.get dst).isSome

/-- `clearType5GatewayNeighbor`. -/
def clearType5GatewayNeighbor (dst : IPNet) : Type5 :=
  match s.gateways.refs.get dst with
  | none => s
  | some ref => s.dropRef env dst ref true

/-! ### Kernel routes -/

/-- `type5RouteState`: nothing when prefix or gateway do not parse, or the bridge is missing. -/
def type5RouteState (route : Type5Route) (vtep : String)
    (vtepIP : Option Ip) : Option RouteState × Type5 :=
  match parsePrefixRoute txt route.ipPrefix route.ipPrefixLen with
  | none => (none, s)
  | some dst =>
    match routeGateway txt dst route vtep with
    | none => (none, s)
    | some gw =>
      let (failed, s) := s.linkByName env
      (if failed then none else some ⟨dst, gw, vtepIP⟩, s)

/-- `deleteType5KernelRoute`. -/
def deleteType5KernelRoute (st : RouteState) : Bool × Type5 :=
  let (r, s) := s.routeDel env st.dst (some st.gw)
  (r = .ok, s)

/-- `withdrawType5Route`. -/
def withdrawType5Route (st : RouteState) (routerMAC : Mac) : Type5 :=
  let (deleted, s) := s.deleteType5KernelRoute env st
  if deleted then s.deleteType5GatewayNeighbor env st.dst st.gw st.vtep routerMAC else s

/-- `removeType5Prefix`: the route goes whatever its gateway. -/
def removeType5Prefix (st : RouteState) : Type5 :=
  match s.routeDel env st.dst none with
  | (.failed, s) => s
  | (_, s) => s.clearType5GatewayNeighbor env st.dst

/-- The gateway state of an installed route. -/
def setGatewayState (st : RouteState) (routerMAC : Mac) (valid : Bool) : Bool × Type5 :=
  if !valid then (true, s.updateType5GatewayRefWithoutRouterMAC env st.dst st.gw st.vtep)
  else if routerMAC = [] then (true, s.clearType5GatewayNeighbor env st.dst)
  else s.setType5GatewayNeighbor env st.dst st.gw st.vtep routerMAC

/-- `installType5RouteDetailed`: whether the path is installed, and whether the route was
    replaced. -/
def installType5RouteDetailed (st : RouteState) (routerMAC : Mac)
    (valid : Bool) : (Bool × Bool) × Type5 :=
  let (failed, s) := s.routeReplace env st.dst st.gw
  if failed then ((false, false), s)
  else
    let (ok, s) := s.setGatewayState env st routerMAC valid
    ((ok, true), s)

/-! ### Paths -/

/-- The live paths of a prefix. -/
def pathsOf (dst : IPNet) : GoMap Type5Key Type5Path := (s.paths.get dst).getD ∅

/-- `sortedType5Paths`. -/
def sortedType5Paths (dst : IPNet) : List Type5Path :=
  (sortBy Type5Key.text (s.pathsOf dst).keys).filterMap (s.pathsOf dst).get

/-- `rememberType5Path`. -/
def rememberType5Path (dst : IPNet) (p : Type5Path) : Type5 :=
  { s with paths := s.paths.set dst ((s.pathsOf dst).set p.key p) }

/-- `forgetType5Path`: the remaining paths of the prefix. -/
def forgetType5Path (dst : IPNet) (key : Type5Key) : List Type5Path × Type5 :=
  let paths := (s.pathsOf dst).delete key
  if paths.keys = [] then ([], { s with paths := s.paths.delete dst })
  else
    let s := { s with paths := s.paths.set dst paths }
    (s.sortedType5Paths dst, s)

/-- `markType5Active`. -/
def markType5Active (dst : IPNet) (key : Type5Key) : Type5 :=
  { s with active := s.active.set dst key }

/-- No path of the prefix counts as installed. -/
def forgetActive (dst : IPNet) : Type5 := { s with active := s.active.delete dst }

/-- `ensureType5VTEP` of an announcement. -/
def ensureType5VTEP (vtep : String) : Option Ip × Type5 :=
  match txt.parseIP vtep with
  | none => (none, s)
  | some ip =>
    let (failed, s) := s.linkByName env
    (if failed then none else some ip, s)

/-- The gateway IP overlay index of a path, if any, is resolved. -/
def gatewayResolved (route : Type5Route) : Bool :=
  match type5OverlayGateway txt route with
  | none => true
  | some gw => cfg.resolveOverlayIndex && cfg.enableL2 && env.type2HasIP gw

/-- The router MAC that a path is installed with; a gateway IP needs none. -/
def usedMAC (p : Type5Path) : Mac :=
  if (type5OverlayGateway txt p.route).isSome then [] else p.routerMAC

/-- The router MAC of the path counts as valid. -/
def usedValid (p : Type5Path) : Bool :=
  (type5OverlayGateway txt p.route).isSome || p.valid

/-- `applyType5PathDetailed` and `applyType5GatewayIPPath`, which ignores the router MAC: whether
    the path is installed, and whether the route was replaced. -/
def applyType5PathDetailed (p : Type5Path) : (Bool × Bool) × Type5 :=
  match s.ensureType5VTEP txt env p.vtep with
  | (none, s) => ((false, false), s)
  | (some vtepIP, s) =>
    if !gatewayResolved cfg txt env p.route then ((false, false), s)
    else
      match s.type5RouteState txt env p.route p.vtep (some vtepIP) with
      | (none, s) => ((false, false), s)
      | (some st, s) => s.installType5RouteDetailed env st (usedMAC txt p) (usedValid txt p)

/-- The first path that can be installed, in the loops over the paths of a prefix. -/
def applyFirst (cfg : Config) (txt : NetText) (env : Type5Env) :
    List Type5Path → Type5 → Option Type5Path × Type5
  | [], s => (none, s)
  | p :: ps, s =>
    match s.applyType5PathDetailed cfg txt env p with
    | ((true, _), s) => (some p, s)
    | ((false, _), s) => applyFirst cfg txt env ps s

/-! ### Changes of one prefix -/

/-- The paths that `addType5Path` falls back to: the installed one, then the others. -/
def fallbackPaths (dst : IPNet) (key : Type5Key) : List Type5Path :=
  let previous := s.active.get dst
  let first := (previous.filter (· ≠ key)).bind (s.pathsOf dst).get
  first.toList ++
    (s.sortedType5Paths dst).filter (fun p => p.key ≠ key ∧ some p.key ≠ previous)

/-- The end of `addType5Path`, when the route was replaced and the gateway state then failed. -/
def fallBack (dst : IPNet) (path : Type5Path) : Type5 :=
  match applyFirst cfg txt env (s.fallbackPaths dst path.key) (s.forgetActive dst) with
  | (some p, s) => s.markType5Active dst p.key
  | (none, s) =>
    if (s.sortedType5Paths dst).length > 1 then
      match s.type5RouteState txt env path.route path.vtep (txt.parseIP path.vtep) with
      | (none, s) => s
      | (some st, s) => s.removeType5Prefix env st
    else s

/-- `addType5Path`. -/
def addType5Path (dst : IPNet) (path : Type5Path) : Type5 :=
  match (s.rememberType5Path dst path).applyType5PathDetailed cfg txt env path with
  | ((true, _), s) => s.markType5Active dst path.key
  | ((false, false), s) =>
    -- The update of the installed path itself: the recorded path no longer matches the kernel.
    if s.active.get dst = some path.key then s.forgetActive dst else s
  | ((false, true), s) => s.fallBack cfg txt env dst path

/-- The end of `withdrawType5Path`, when no remaining path could be installed; `known` says that a
    path counted as installed. -/
def withdrawLast (tracked known : Bool)
    (remaining : List Type5Path) (route : Type5Route) (vtep : String) (routerMAC : Mac) : Type5 :=
  match s.type5RouteState txt env route vtep (txt.parseIP vtep) with
  | (none, s) => s
  | (some st, s) =>
    if remaining ≠ [] ∨ (tracked && !known) = true then s.removeType5Prefix env st
    else if (type5OverlayGateway txt route).isSome then (s.deleteType5KernelRoute env st).2
    else s.withdrawType5Route env st routerMAC

/-- `withdrawType5Path` once it is known what the path installed. -/
def withdrawPath (dst : IPNet)
    (key : Type5Key) (tracked : Bool) (route : Type5Route) (vtep : String) (routerMAC : Mac) :
    Type5 :=
  let (remaining, s) := s.forgetType5Path dst key
  let known := (s.active.get dst).isSome
  if known ∧ s.active.get dst ≠ some key ∧ remaining ≠ [] then s
  else
    match applyFirst cfg txt env remaining (s.forgetActive dst) with
    | (some p, s) => s.markType5Active dst p.key
    | (none, s) => s.withdrawLast txt env tracked known remaining route vtep routerMAC

/-- `withdrawType5Path`: what a tracked path installed is taken from the path. -/
def withdrawType5Path (dst : IPNet)
    (key : Type5Key) (route : Type5Route) (vtep : String) (routerMAC : Mac) (converted : Bool) :
    Type5 :=
  match (s.pathsOf dst).get key with
  | some old =>
    let mac := if converted ∨ old.routerMAC ≠ [] then old.routerMAC else routerMAC
    s.withdrawPath cfg txt env dst key true old.route old.vtep mac
  | none => if converted then s else s.withdrawPath cfg txt env dst key false route vtep routerMAC

/-- `forgetShadowedType5Path`: the kernel route is the FIB writer's. -/
def forgetShadowedType5Path (dst : IPNet) (key : Type5Key) : Type5 :=
  let (remaining, s) := (s.forgetActive dst).forgetType5Path dst key
  if remaining ≠ [] then s
  else
    let (failed, s) := s.linkByName env
    if failed then s else s.clearType5GatewayNeighbor env dst

/-- The installed path of a prefix. -/
def activePath (dst : IPNet) : Option Type5Path :=
  (s.active.get dst).bind (s.pathsOf dst).get

/-- The end of `resolveType5Prefix`, when no path can be installed. -/
def unresolve (dst : IPNet) (installed : Option Type5Path) : Type5 :=
  match installed with
  | none => s.forgetActive dst
  | some p =>
    match (s.forgetActive dst).type5RouteState txt env p.route p.vtep (txt.parseIP p.vtep) with
    | (none, s) => s
    | (some st, s) => s.removeType5Prefix env st

/-- `resolveType5Prefix`. -/
def resolveType5Prefix (dst : IPNet) (ip : Ip) : Type5 :=
  if env.fibOwns dst then s.forgetActive dst
  else if (s.activePath dst).any (fun p =>
      type5OverlayGateway txt p.route ≠ some ip ∨ env.type2HasIP ip = true) then s
  else
    match applyFirst cfg txt env (s.sortedType5Paths dst) s with
    | (some p, s) => s.markType5Active dst p.key
    | (none, s') => s'.unresolve txt env dst (s.activePath dst)

/-! ### Updates -/

/-- A path of the prefix has the gateway IP. -/
def usesGateway (ip : Ip) (dst : IPNet) : Bool :=
  (s.pathsOf dst).values.any (fun p => type5OverlayGateway txt p.route = some ip)

/-- One round of `resolveType5Gateway`. -/
def resolveRound (ip : Ip) (s : Type5) (dst : IPNet) : Type5 :=
  if s.usesGateway txt ip dst then s.resolveType5Prefix cfg txt env dst ip else s

/-- `resolveType5Gateway`: the prefixes through a gateway IP whose Type-2 routes changed. -/
def resolveType5Gateway (ip : Ip) : Type5 :=
  (sortBy (IPNet.text txt) s.paths.keys).foldl (resolveRound cfg txt env ip) s

/-- `handleType5Update`. -/
def handleType5Update (route : Type5Route)
    (vtep : String) (routerMAC : Mac) (valid withdraw converted : Bool) : Type5 :=
  if vtep = cfg.routerID then s
  else
    match parsePrefixRoute txt route.ipPrefix route.ipPrefixLen with
    | none => s
    | some dst =>
      let key := type5PathKey route
      if withdraw then
        if env.fibOwns dst then s.forgetShadowedType5Path env dst key
        else s.withdrawType5Path cfg txt env dst key route vtep routerMAC converted
      else if cfg.blackholes.contains dst then s
      else
        let path : Type5Path := ⟨key, route, vtep, routerMAC, valid⟩
        if env.fibOwns dst then (s.rememberType5Path dst path).forgetActive dst
        else s.addType5Path cfg txt env dst path

/-- `processType5Update`: an unusable announcement is a withdraw of its route key. -/
def processType5Update (p : EvpnPath)
    (route : Type5Route) (vtep : String) (withdraw converted : Bool) : Type5 :=
  let mac := extractRouterMAC txt p.pattrs
  let unusable := !withdraw && (type5Unusable txt route mac cfg.type5LocalVNI).isSome
  s.handleType5Update cfg txt env route vtep (mac.toOption.getD []) mac.isOk (withdraw || unusable)
    (converted || unusable)

/-! ### Frames -/

variable {txt : NetText} {env : Type5Env} {s : Type5}

/-- What the gateway state leaves alone: the paths, which of them are installed, and the kernel
    routes. -/
structure RouteFrame (s s' : Type5) : Prop where
  paths : s'.paths = s.paths
  active : s'.active = s.active
  routes : s'.routes = s.routes

theorem RouteFrame.refl (s : Type5) : RouteFrame s s := ⟨rfl, rfl, rfl⟩

theorem RouteFrame.trans {s1 s2 s3 : Type5} (h : RouteFrame s1 s2) (h' : RouteFrame s2 s3) :
    RouteFrame s1 s3 :=
  ⟨h'.paths.trans h.paths, h'.active.trans h.active, h'.routes.trans h.routes⟩

theorem call_frame {f : Type5 → Type5} (hf : ∀ s, RouteFrame s (f s)) :
    RouteFrame s (s.call env f).2 := by
  unfold call
  split
  · exact ⟨rfl, rfl, rfl⟩
  · exact { hf s with }

theorem linkByName_frame : RouteFrame s (s.linkByName env).2 := call_frame fun s => .refl s

theorem gatewayFDB_frame (vtep : Option Ip) (mac : Mac) :
    RouteFrame s (s.gatewayFDB env vtep mac).2 := linkByName_frame

variable (ref : GatewayRef)

theorem dropNeighbor_frame (b : Bool) : RouteFrame s (s.dropNeighbor env ref b).2 := by
  have hdel : RouteFrame s (s.neighDel env ref.gateway).2 := call_frame fun _ => ⟨rfl, rfl, rfl⟩
  unfold dropNeighbor
  grind [RouteFrame.refl]

theorem fdbDel_frame (mac : Mac) (vtep : BitVec 32) : RouteFrame s (s.fdbDel env mac vtep).2 := by
  refine call_frame fun s => ?_
  split <;> exact ⟨rfl, rfl, rfl⟩

theorem dropFDB_frame (b : Bool) : RouteFrame s (s.dropFDB env ref b).2 := by
  have hlink : RouteFrame s (s.gatewayFDB env ref.vtep ref.routerMAC).2 := gatewayFDB_frame _ _
  unfold dropFDB
  grind [RouteFrame.refl, hlink.trans, fdbDel_frame]

theorem forgetGatewayMAC_frame (gw : Gateway) (b : Bool) :
    RouteFrame s (s.forgetGatewayMAC gw b) := by
  unfold forgetGatewayMAC
  split <;> exact ⟨rfl, rfl, rfl⟩

theorem deleteType5GatewayRef_frame : RouteFrame s (s.deleteType5GatewayRef env ref).2 := by
  unfold deleteType5GatewayRef
  dsimp only
  split
  · exact forgetGatewayMAC_frame _ _
  · have hneigh : RouteFrame s (s.dropNeighbor env ref (!s.hasType5GatewayRef ref.gateway)).2 :=
      dropNeighbor_frame ref _
    split
    · exact hneigh.trans (dropFDB_frame ref _)
    · exact (hneigh.trans (dropFDB_frame ref _)).trans (forgetGatewayMAC_frame _ _)

theorem storeRef_frame (dst : IPNet) (ref : GatewayRef) : RouteFrame s (s.storeRef dst ref) :=
  ⟨rfl, rfl, rfl⟩

theorem replaceRef_frame (dst : IPNet) (ref : GatewayRef) :
    RouteFrame s (s.replaceRef env dst ref) := by
  have hstore : RouteFrame s (s.storeType5GatewayRef dst ref) := ⟨rfl, rfl, rfl⟩
  unfold replaceRef
  split
  · exact hstore
  · grind [hstore.trans, deleteType5GatewayRef_frame]

variable (dst : IPNet) (gw : Gateway) (vtep : Option Ip)

theorem setType5GatewayNeighbor_frame (mac : Mac) :
    RouteFrame s (s.setType5GatewayNeighbor env dst gw vtep mac).2 := by
  have hlink : RouteFrame s (s.gatewayFDB env vtep mac).2 := gatewayFDB_frame _ _
  have hneigh : ∀ s1 : Type5, RouteFrame s1 (s1.setNeighbor env gw mac).2 ∧
      RouteFrame s1 (s1.rollBackNeighbor env gw) := by
    intro s1
    unfold setNeighbor rollBackNeighbor
    split
    · exact ⟨.refl s1, .refl s1⟩
    · exact ⟨call_frame fun _ => ⟨rfl, rfl, rfl⟩, call_frame fun _ => ⟨rfl, rfl, rfl⟩⟩
  have hfdb : ∀ (s1 : Type5) (a : BitVec 32), RouteFrame s1 (s1.fdbSet env mac a).2 :=
    fun s1 a => call_frame fun _ => ⟨rfl, rfl, rfl⟩
  unfold setType5GatewayNeighbor
  split
  · exact .refl s
  · split
    · grind
    next a s1 hs1 =>
      have h1 : RouteFrame s (s1.setNeighbor env gw mac).2 := by grind [hlink.trans]
      have h2 := h1.trans (hfdb _ a)
      grind [h2.trans, replaceRef_frame]

theorem updateType5GatewayRefWithoutRouterMAC_frame :
    RouteFrame s (s.updateType5GatewayRefWithoutRouterMAC env dst gw vtep) := by
  unfold updateType5GatewayRefWithoutRouterMAC
  split
  · exact storeRef_frame dst _
  next old _ =>
    have hdel : RouteFrame s ((s.storeRef dst ⟨gw, vtep, []⟩).deleteType5GatewayRef env old).2 :=
      (storeRef_frame dst _).trans (deleteType5GatewayRef_frame old)
    grind [RouteFrame.refl, hdel.trans, storeRef_frame]

theorem dropRef_frame (dst : IPNet) (ref : GatewayRef) (restore : Bool) :
    RouteFrame s (s.dropRef env dst ref restore) := by
  have hgone : RouteFrame s (s.unstoreRef dst) := ⟨rfl, rfl, rfl⟩
  have hdel : RouteFrame s ((s.unstoreRef dst).deleteType5GatewayRef env ref).2 :=
    hgone.trans (deleteType5GatewayRef_frame ref)
  unfold dropRef
  dsimp only
  split
  · exact hdel.trans (storeRef_frame dst _)
  · exact hdel

theorem deleteType5GatewayNeighbor_frame (mac : Mac) :
    RouteFrame s (s.deleteType5GatewayNeighbor env dst gw vtep mac) := dropRef_frame dst _ _

theorem clearType5GatewayNeighbor_frame (dst : IPNet) :
    RouteFrame s (s.clearType5GatewayNeighbor env dst) := by
  unfold clearType5GatewayNeighbor
  split
  · exact .refl s
  · exact dropRef_frame dst _ _

theorem setGatewayState_frame (st : RouteState) (mac : Mac) (valid : Bool) :
    RouteFrame s (s.setGatewayState env st mac valid).2 := by
  grind [setGatewayState, updateType5GatewayRefWithoutRouterMAC_frame,
    clearType5GatewayNeighbor_frame, setType5GatewayNeighbor_frame]

end Type5

end Booty.Gobgp
