import Booty.Lib.GoMap
import Booty.Lib.GoString
import Booty.Lib.Text

namespace Booty.Gobgp

open Option

open Booty.Lib (parseUintBase10 trimSpace)

/-!
# EVPN routes and their attributes (`overlay.go`, `esi.go`, `l3vni.go` and `policy.go`)

The best-path updates that the overlay receives and what it reads from them before it looks at its
own state: route keys, route targets, next hop, encapsulation, router MAC and the reasons not to
use a Type-5 route.  How `net.ParseIP`, `net.ParseMAC` and `IP.String` read and print addresses is a
parameter (`NetText`); route keys that the code prints with separators are structures here, and a
map keyed by the text of an address or a prefix is keyed by the address or the prefix.

* `importsRoute` — whether an update carries an import route target.
* `type5Unusable` — why a Type-5 route is treated as a withdraw.
* `extractRouterMAC_length` — a router MAC is an Ethernet MAC.
* `importsRoute_announce` — an imported announcement has one of the import route targets.
-/

/-! ### Addresses -/

/-- `net.IP` in its 16 byte form, in which an IPv4 address is IPv4-mapped. -/
structure Ip where
  bits : BitVec 128
deriving DecidableEq, Repr

/-- `net.HardwareAddr`. -/
abbrev Mac := List UInt8

namespace Ip

/-- An IPv4 address in the form with 16 bytes. -/
def ofV4 (a : BitVec 32) : Ip := ⟨0xffff#96 ++ a⟩

/-- `To4`. -/
def to4 (ip : Ip) : Option (BitVec 32) :=
  if ip.bits.extractLsb' 32 96 = 0xffff#96 then some (ip.bits.extractLsb' 0 32) else none

/-- `IsUnspecified`: 0.0.0.0 or `::`. -/
def isUnspecified (ip : Ip) : Bool := ip == ofV4 0 || ip == ⟨0⟩

end Ip

/-- The text functions of the standard library: `net.ParseIP`, `IP.String`, and `net.ParseMAC` of a
    lower case text. -/
structure NetText where
  parseIP : String → Option Ip
  ipString : Ip → String
  parseLowerMAC : String → Option Mac

/-- `strings.ToLower` of a MAC address. -/
def lowerMAC (s : String) : String := Booty.Lib.toLower Booty.Lib.asciiTables s

/-- `net.ParseMAC`, which reads both cases. -/
def NetText.parseMAC (txt : NetText) (s : String) : Option Mac := txt.parseLowerMAC (lowerMAC s)

/-- `net.IPNet` with a mask given by its length. -/
structure IPNet where
  ip : Ip
  len : Nat
deriving DecidableEq, Repr

/-- The address with the bits after the first `len` of its family cleared. -/
def maskIp (ip : Ip) (len : Nat) : Ip :=
  match ip.to4 with
  | some a => Ip.ofV4 (BitVec.ofNat 32 (a.toNat / 2 ^ (32 - len) * 2 ^ (32 - len)))
  | none => ⟨BitVec.ofNat 128 (ip.bits.toNat / 2 ^ (128 - len) * 2 ^ (128 - len))⟩

/-- `parsePrefixRoute`; the errors are only logged. -/
def parsePrefixRoute (txt : NetText) (pfx : String) (prefixLen : Nat) : Option IPNet := do
  let ip ← txt.parseIP pfx
  if prefixLen > (if ip.to4.isSome then 32 else 128) then none
  else some ⟨maskIp ip prefixLen, prefixLen⟩

/-- A kernel gateway: 4 bytes for IPv4 routes and 16 bytes for IPv6 routes, possibly IPv4-mapped. -/
inductive Gateway
  | v4 (a : BitVec 32)
  | v6 (ip : Ip)
deriving DecidableEq, Repr

/-- `type5Gateway`: the gateway in the form of the prefix. -/
def type5Gateway (dst : IPNet) (gw : Ip) : Option Gateway :=
  if dst.ip.to4.isSome then gw.to4.map .v4 else some (.v6 gw)

/-! ### Routes -/

/-- An Ethernet segment identifier. -/
structure Esi where
  typ : Nat
  value : List UInt8
deriving DecidableEq, Repr

/-- `esiKey`: the ESI unless it is a reserved value, 0 or MAX-ESI. -/
def esiKey (esi : Esi) : Option Esi :=
  let zero := esi.typ == 0 && esi.value.all (· == 0)
  let maxESI := esi.typ == 0xff && esi.value.length == 9 && esi.value.all (· == 0xff)
  if zero || maxESI then none else some esi

/-- The Ethernet Tag of an EAD-per-ES route. -/
def maxET : Nat := 0xFFFFFFFF

/-- An Ethernet auto-discovery (EAD) route; `rd` is the key of its route distinguisher. -/
structure Type1Route where
  rd : String
  esi : Esi
  ethernetTag : Nat
deriving DecidableEq, Repr

/-- A MAC/IP advertisement route. -/
structure Type2Route where
  rd : String
  esi : Esi
  ethernetTag : Nat
  macAddress : String
  ipAddress : String
deriving DecidableEq, Repr

/-- An inclusive multicast Ethernet tag route. -/
structure Type3Route where
  rd : String
  ethernetTag : Nat
  ipAddress : String
deriving DecidableEq, Repr

/-- An IP prefix route. -/
structure Type5Route where
  rd : String
  esi : Esi
  ethernetTag : Nat
  ipPrefix : String
  ipPrefixLen : Nat
  gwAddress : String
  label : Nat
deriving DecidableEq, Repr

/-- `type1Key`: RD, ESI and Ethernet Tag. -/
structure Type1Key where
  rd : String
  esi : Esi
  tag : Nat
deriving DecidableEq, Repr

/-- `type2Key`: RD, Ethernet Tag, MAC in lower case and IP address. -/
structure Type2Key where
  rd : String
  tag : Nat
  mac : String
  ip : String
deriving DecidableEq, Repr

/-- `type5PathKey`: RD, Ethernet Tag, prefix and its length. -/
structure Type5Key where
  rd : String
  tag : Nat
  ipPrefix : String
  len : Nat
deriving DecidableEq, Repr

/-- The key of a Type-1 route. -/
def type1Key (r : Type1Route) : Type1Key := ⟨r.rd, r.esi, r.ethernetTag⟩

/-- The key of a Type-2 route. -/
def type2Key (r : Type2Route) : Type2Key :=
  ⟨r.rd, r.ethernetTag, lowerMAC r.macAddress, r.ipAddress⟩

/-- The key of a Type-5 route. -/
def type5PathKey (r : Type5Route) : Type5Key := ⟨r.rd, r.ethernetTag, r.ipPrefix, r.ipPrefixLen⟩

/-- The key as the code prints it, by which the paths of a prefix are sorted. -/
def Type5Key.text (k : Type5Key) : String := s!"{k.rd}|{k.tag}|{k.ipPrefix}/{k.len}"

/-- The IP of a Type-2 route, if it has one. -/
def type2IP (txt : NetText) (ipAddress : String) : Option Ip :=
  (txt.parseIP ipAddress).filter (fun ip => !ip.isUnspecified)

/-- `type5OverlayGateway`: the gateway IP overlay index of a Type-5 route. -/
def type5OverlayGateway (txt : NetText) (r : Type5Route) : Option Ip :=
  (txt.parseIP r.gwAddress).filter (fun ip => !ip.isUnspecified)

/-! ### Path attributes -/

/-- The extended communities that the overlay reads. -/
inductive ExtCommunity
  | twoOctetAs (subType asn localAdmin : Nat)
  | fourOctetAs (subType asn localAdmin : Nat)
  | ipv4Address (subType : Nat)
  | unknown (typ : Nat) (value : List UInt8)
  | encap (tunnelType : Nat)
  | routerMac (mac : String)
  | esiLabel (isSingleActive : Bool)
  | macMobility (seq : BitVec 32) (sticky : Bool)
  | arpNd (isRouter : Bool)
  | other
deriving DecidableEq, Repr

/-- The path attributes that the code reads. -/
inductive Attribute
  | mpReach (nextHops : List String)
  | extendedCommunities (communities : List ExtCommunity)
  | pmsiTunnel (typ : Nat)
  | other
deriving DecidableEq, Repr

/-- The EVPN routes by type. -/
inductive Nlri
  | ethernetAd (r : Type1Route)
  | macadv (r : Type2Route)
  | multicast (r : Type3Route)
  | ipPrefix (r : Type5Route)
  | other
deriving DecidableEq, Repr

/-- A best-path update of the RIB: an announcement or a withdrawal. -/
structure EvpnPath where
  isWithdraw : Bool
  nlri : Nlri
  pattrs : List Attribute
deriving DecidableEq, Repr

namespace EvpnPath
variable (p : EvpnPath)

/-- The extended communities of all attributes, in order. -/
def communities : List ExtCommunity :=
  p.pattrs.flatMap (fun
    | .extendedCommunities cs => cs
    | _ => [])

/-- `extractNextHop`: the first next hop, or the empty text. -/
def extractNextHop : String :=
  (p.pattrs.findSome? (fun
    | .mpReach (hop :: _) => some hop
    | _ => none)).getD ""

/-- `encapTunnelTypes`. -/
def encapTunnelTypes : List Nat :=
  p.communities.filterMap (fun
    | .encap t => some t
    | _ => none)

/-- The number of VXLAN among the tunnel types. -/
def vxlanTunnelType : Nat := 8

/-- `notVXLAN`: an update (not a withdraw) whose encapsulation communities do not include VXLAN. -/
def notVXLAN (withdraw : Bool) : Bool :=
  !withdraw && !(p.encapTunnelTypes.isEmpty || p.encapTunnelTypes.contains vxlanTunnelType)

/-- `esiSingleActive`. -/
def esiSingleActive : Bool :=
  (p.communities.findSome? (fun
    | .esiLabel sa => some sa
    | _ => none)).getD false

/-- `macMobilityOf`: the sequence number and the sticky flag. -/
def macMobilityOf : BitVec 32 × Bool :=
  (p.communities.findSome? (fun
    | .macMobility seq sticky => some (seq, sticky)
    | _ => none)).getD (0, false)

/-- `arpNdRouter`. -/
def arpNdRouter : Bool :=
  (p.communities.findSome? (fun
    | .arpNd r => some r
    | _ => none)).getD false

/-- The number of ingress replication among the PMSI tunnels. -/
def pmsiTunnelTypeIngressReplication : Nat := 6

/-- `ingressReplication`: the type of the first PMSI tunnel attribute. -/
def ingressReplication : Bool :=
  (p.pattrs.findSome? (fun
    | .pmsiTunnel t => some (t == pmsiTunnelTypeIngressReplication)
    | _ => none)).getD false

end EvpnPath

/-! ### Route targets -/

/-- The configuration that the overlay reads while it handles updates; `blackholes` are the masked
    prefixes of the static blackhole routes. -/
structure Config where
  routerID : String
  enableL2 : Bool
  resolveOverlayIndex : Bool
  type5Only : Bool
  asn : Nat
  provisionVNI : Nat
  vpnRT : String
  importRTs : List String
  blackholes : List IPNet
deriving Repr

/-- The largest AS number with two bytes. -/
def asnMax2Byte : Nat := 65535

/-- The largest local part of a route target with an AS of four bytes. -/
def routeTargetLocalAdminMax : Nat := 65535

/-- `ParseRouteTarget`: `ASN:value` or `RT:ASN:value`; the errors are only logged. -/
def parseRouteTarget (s : String) : Option (Nat × Nat) :=
  let parts := (trimSpace s).splitOn ":"
  let parts := if parts.length = 3 ∧
    parts.head?.any (Booty.Lib.equalFold Booty.Lib.asciiTables "RT")
    then parts.drop 1 else parts
  match parts with
  | [a, v] => do
    let a ← parseUintBase10 32 (trimSpace a)
    let v ← parseUintBase10 32 (trimSpace v)
    if a > asnMax2Byte ∧ v > routeTargetLocalAdminMax then none else some (a, v)
  | _ => none

/-- The subtype of a route target. -/
def rtSubType : Nat := 0x02

/-- `isRawRouteTargetType`. -/
def isRawRouteTargetType (t : Nat) : Bool := [0x00, 0x01, 0x02, 0x40, 0x41, 0x42].contains t

/-- `rtCommunityPresent`: the community is a route target. -/
def rtCommunityPresent : ExtCommunity → Bool
  | .twoOctetAs subType _ _ => subType == rtSubType
  | .ipv4Address subType => subType == rtSubType
  | .fourOctetAs subType _ _ => subType == rtSubType
  | .unknown typ value => isRawRouteTargetType typ && (value.headD 0).toNat == rtSubType
  | _ => false

/-- `rtCommunityMatches`: the community is the route target `asn:vni`. -/
def rtCommunityMatches (asn vni : Nat) : ExtCommunity → Bool
  | .twoOctetAs subType a l => subType == rtSubType && a == asn && l == vni
  | .fourOctetAs subType a l =>
    subType == rtSubType && a == asn && decide (vni ≤ routeTargetLocalAdminMax) && l == vni
  | _ => false

/-- `routeTargetMatchState`: whether a route target matches, and whether there is one. -/
def routeTargetMatchState (p : EvpnPath) (asn vni : Nat) : Bool × Bool :=
  if p.communities.any (rtCommunityMatches asn vni) then (true, true)
  else (false, p.communities.any rtCommunityPresent)

/-- `importRouteTarget` of the configuration: `vpn_rt`, or without it ASN and VNI. -/
def Config.importRouteTarget (cfg : Config) : Option (Nat × Nat) :=
  if trimSpace cfg.vpnRT = "" then some (cfg.asn, cfg.provisionVNI)
  else parseRouteTarget (trimSpace cfg.vpnRT)

/-- The loop of `importsRoute` over the explicit import route targets. -/
def Config.importsAny (p : EvpnPath) : List String → Bool → Option Bool
  | [], seen => some (p.isWithdraw && !seen)
  | spec :: specs, seen => do
    let (asn, val) ← parseRouteTarget spec
    let (isMatch, present) := routeTargetMatchState p asn val
    if isMatch then some true else Config.importsAny p specs (seen || present)

/-- `importsRoute`: `none` for an invalid configured route target. -/
def Config.importsRoute (cfg : Config) (p : EvpnPath) : Option Bool :=
  if cfg.importRTs = [] then do
    let (asn, vni) ← cfg.importRouteTarget
    let (isMatch, hasRouteTarget) := routeTargetMatchState p asn vni
    if p.isWithdraw && !hasRouteTarget then some true else some isMatch
  else Config.importsAny p cfg.importRTs false

/-! ### Type-5 routes -/

/-- `parseRouterMAC`. -/
def parseRouterMAC (txt : NetText) (routerMAC : String) : Except String Mac :=
  match txt.parseMAC routerMAC with
  | none => .error s!"parse router MAC {routerMAC}: address {routerMAC}: invalid MAC address"
  | some mac =>
    if mac.length ≠ 6 then
      .error s!"parse router MAC {routerMAC}: expected 48-bit MAC, got {mac.length} bytes"
    else if mac.headD 0 &&& 1 ≠ 0 ∨ mac = List.replicate 6 0 then
      .error s!"router MAC {routerMAC} is not a unicast MAC"
    else .ok mac

/-- `routerMACInCommunities`: the first router MAC, empty for none and for a zero MAC. -/
def routerMACInCommunities (txt : NetText) : List ExtCommunity → Except String Mac
  | [] => .ok []
  | .routerMac m :: _ =>
    if txt.parseMAC m = some (List.replicate 6 0) then .ok [] else parseRouterMAC txt m
  | _ :: cs => routerMACInCommunities txt cs

/-- `extractRouterMAC`. -/
def extractRouterMAC (txt : NetText) : List Attribute → Except String Mac
  | [] => .ok []
  | .extendedCommunities cs :: attrs =>
    match routerMACInCommunities txt cs with
    | .error e => .error e
    | .ok [] => extractRouterMAC txt attrs
    | .ok mac => .ok mac
  | _ :: attrs => extractRouterMAC txt attrs

/-- `type5LocalVNI`. -/
def Config.type5LocalVNI (cfg : Config) : Nat := if cfg.type5Only then cfg.provisionVNI else 0

/-- `type5Unusable`: why a received Type-5 route must not be used. -/
def type5Unusable (txt : NetText) (r : Type5Route) (mac : Except String Mac) (localVNI : Nat) :
    Option String :=
  let esiSet := r.esi.typ != 0 || r.esi.value.any (· != 0)
  let gwSet := (type5OverlayGateway txt r).isSome
  match mac with
  | .error e => some ("invalid router MAC: " ++ e)
  | .ok _ =>
    if esiSet && gwSet then some "both ESI and gateway IP are set"
    else if !gwSet && r.label == 0 then some "label is zero without a gateway IP overlay index"
    else if !gwSet && localVNI != 0 && r.label != localVNI then
      some s!"VNI {r.label} is not the local L3VNI {localVNI}"
    else none

/-! ### Kernel calls -/

/-- The environment of one update: whether the `n`-th kernel call fails, which leaves the kernel as
    it is, and the order of a loop over a map that starts after `n` calls. -/
structure Env where
  fails : Nat → Bool
  visit : Nat → Booty.Lib.Visit

/-! ### Sample values -/

/-- The addresses of the examples. -/
def sampleIPs : List (String × Ip) :=
  [("10.0.0.1", .ofV4 0x0a000001), ("10.0.0.2", .ofV4 0x0a000002), ("10.0.0.3", .ofV4 0x0a000003),
    ("10.1.0.0", .ofV4 0x0a010000), ("10.2.0.0", .ofV4 0x0a020000), ("10.9.0.1", .ofV4 0x0a090001)]

/-- Text functions that know these addresses and two MACs. -/
def sampleText : NetText where
  parseIP s := (sampleIPs.find? (fun a => a.1 = s)).map Prod.snd
  ipString ip := ((sampleIPs.find? (fun a => a.2 = ip)).map Prod.fst).getD "?"
  parseLowerMAC s :=
    if s = "02:00:00:00:00:01" then some [2, 0, 0, 0, 0, 1]
    else if s = "02:00:00:00:00:02" then some [2, 0, 0, 0, 0, 2] else none

/-- A node of an L2 overlay that resolves gateway IPs. -/
def sampleConfig : Config where
  routerID := "10.0.0.1"
  enableL2 := true
  resolveOverlayIndex := true
  type5Only := false
  asn := 65000
  provisionVNI := 100
  vpnRT := ""
  importRTs := []
  blackholes := []

/-- Calls that all work. -/
def Env.working : Env := ⟨fun _ => false, fun _ => .stored⟩

/-- Calls that all fail. -/
def Env.failing : Env := ⟨fun _ => true, fun _ => .stored⟩

/-! ### What the checks mean -/

theorem routeTargetMatchState_fst (p : EvpnPath) (asn vni : Nat) :
    (routeTargetMatchState p asn vni).1 = p.communities.any (rtCommunityMatches asn vni) := by
  unfold routeTargetMatchState
  split
  next h => rw [h]
  next h => exact (Bool.eq_false_iff.mpr h).symm

theorem importsAny_announce {p : EvpnPath} (ha : p.isWithdraw = false) {specs : List String}
    {seen : Bool} (h : Config.importsAny p specs seen = some true) :
    ∃ spec ∈ specs, ∃ asn vni, parseRouteTarget spec = some (asn, vni) ∧
      p.communities.any (rtCommunityMatches asn vni) = true := by
  induction specs generalizing seen with
  | nil => simp [Config.importsAny, ha] at h
  | cons spec specs ih =>
    simp only [Config.importsAny, bind_eq_bind, bind_eq_some_iff] at h
    obtain ⟨⟨asn, vni⟩, hparse, h⟩ := h
    by_cases hm : (routeTargetMatchState p asn vni).1 = true
    · grind [routeTargetMatchState_fst]
    · grind

/-- The import route targets: the explicit ones, or that of the configuration. -/
def Config.ImportTarget (cfg : Config) (asn vni : Nat) : Prop :=
  if cfg.importRTs = [] then cfg.importRouteTarget = some (asn, vni)
  else ∃ spec ∈ cfg.importRTs, parseRouteTarget spec = some (asn, vni)

/-- **An imported announcement carries an import route target.** -/
theorem importsRoute_announce {cfg : Config} {p : EvpnPath} (ha : p.isWithdraw = false)
    (h : cfg.importsRoute p = some true) :
    ∃ asn vni, cfg.ImportTarget asn vni ∧
      p.communities.any (rtCommunityMatches asn vni) = true := by
  unfold Config.ImportTarget
  unfold Config.importsRoute at h
  split at h
  next hnil =>
    simp only [bind_eq_bind, bind_eq_some_iff] at h
    obtain ⟨⟨asn, vni⟩, hrt, h⟩ := h
    refine ⟨asn, vni, by rw [if_pos hnil]; exact hrt, ?_⟩
    have h : (if p.isWithdraw && !(routeTargetMatchState p asn vni).2 then some true
        else some (routeTargetMatchState p asn vni).1) = some true := h
    rw [ha] at h
    rw [← routeTargetMatchState_fst]
    exact some.inj h
  next hne => grind [importsAny_announce]

end Booty.Gobgp
