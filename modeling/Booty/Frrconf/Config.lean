import Booty.Lib.GoError
import Booty.Lib.GoString

namespace Booty.Frrconf

open Booty.Lib

/-!
# The parsed FRR configuration

The typed model that the parser fills, and the tables of FRR's command words.  A pointer that may be
nil is an option, and a `uint32` is a number that `parseUint32` bounds.
-/

/-! ### Configuration -/

/-- The defaults of FRR. -/
inductive Profile
  | traditional
  | datacenter
deriving DecidableEq, Repr

/-- The VNI of a VRF. -/
structure VRFVNI where
  vrf : String
  vni : Nat
  prefixRoutesOnly : Bool
  line : Nat
deriving DecidableEq, Repr

/-- A static route. -/
structure StaticRoute where
  dst : String
  blackhole : Bool
  line : Nat
deriving DecidableEq, Repr

/-- The remote AS of a neighbor. -/
inductive RemoteAS
  | number (n : Nat)
  | internal
  | external
deriving DecidableEq, Repr

/-- The local AS of a neighbor. -/
structure LocalAS where
  asn : Nat
  noPrepend : Bool := false
  replaceAS : Bool := false
deriving DecidableEq, Repr

/-- A peer-group, or a peer: an address or an interface. -/
structure Neighbor where
  name : String := ""
  peerGroup : Bool := false
  interface : Bool := false
  group : String := ""
  remoteAS : Option RemoteAS := none
  localAS : Option LocalAS := none
  bfd : Bool := false
  bfdProfile : String := ""
  keepaliveTime : Option Nat := none
  holdTime : Option Nat := none
  connectRetry : Option Nat := none
  line : Nat := 0
deriving DecidableEq, Repr

/-- A VNI in the EVPN address family. -/
structure L2VNI where
  vni : Nat
  rd : String := ""
  routeTargetImport : List String := []
  routeTargetExport : List String := []
  advertiseDefaultGW : Bool := false
  line : Nat
deriving DecidableEq, Repr

/-- The settings of a neighbor in an address family. -/
structure AFNeighbor where
  name : String
  activate : Bool := false
  softReconfigInbound : Bool := false
  allowASIn : Int := 0
  routeMapIn : String := ""
  routeMapOut : String := ""
deriving DecidableEq, Repr

/-- The address families. -/
inductive Afi
  | ipv4
  | ipv6
  | l2vpn
deriving DecidableEq, Repr

/-- The subsequent address families. -/
inductive Safi
  | unicast
  | evpn
deriving DecidableEq, Repr

/-- Its name in the configuration. -/
def Afi.name : Afi → String
  | .ipv4 => "ipv4"
  | .ipv6 => "ipv6"
  | .l2vpn => "l2vpn"

/-- Its name in the configuration. -/
def Safi.name : Safi → String
  | .unicast => "unicast"
  | .evpn => "evpn"

/-- An `address-family` block. -/
structure AddressFamily where
  afi : Afi
  safi : Safi
  networks : List String := []
  redistributeConnected : Bool := false
  neighbors : List AFNeighbor := []
  advertiseAllVNI : Bool := false
  advertiseDefaultGW : Bool := false
  resolveOverlayIndex : Bool := false
  advertiseIPv4Unicast : Bool := false
  advertiseIPv6Unicast : Bool := false
  routeTargetImport : List String := []
  routeTargetExport : List String := []
  rd : String := ""
  l2vnis : List L2VNI := []
  line : Nat
deriving DecidableEq, Repr

/-- A `router bgp ASN [vrf NAME]` block. -/
structure Router where
  asn : Nat
  vrf : String := ""
  routerID : String := ""
  ebgpRequiresPolicy : Option Bool := none
  suppressDuplicates : Option Bool := none
  defaultIPv4Unicast : Option Bool := none
  multipathRelax : Bool := false
  fastExternalFailover : Option Bool := none
  neighbors : List Neighbor := []
  addressFamilies : List AddressFamily := []
  line : Nat
deriving DecidableEq, Repr

/-- Whether an entry permits or denies. -/
inductive RouteMapAction
  | permit
  | deny
deriving DecidableEq, Repr

/-- Its name in the configuration. -/
def RouteMapAction.name : RouteMapAction → String
  | .permit => "permit"
  | .deny => "deny"

/-- An entry of a route-map. -/
structure RouteMapEntry where
  seq : Int
  action : RouteMapAction
  matchCommunity : String := ""
  setLocalPreference : Option Nat := none
  setCommunities : List String := []
  setCommunityAdditive : Bool := false
  line : Nat
deriving DecidableEq, Repr

/-- A route-map. -/
structure RouteMap where
  name : String
  entries : List RouteMapEntry := []
deriving DecidableEq, Repr

/-- An entry of a community list. -/
structure CommunityListEntry where
  action : RouteMapAction
  communities : List String
  line : Nat
deriving DecidableEq, Repr

/-- A community list. -/
structure CommunityList where
  name : String
  entries : List CommunityListEntry := []
deriving DecidableEq, Repr

/-- A BFD profile. -/
structure BFDProfile where
  name : String
  transmitInterval : Option Nat := none
  receiveInterval : Option Nat := none
  detectMultiplier : Option Nat := none
  line : Nat
deriving DecidableEq, Repr

/-- What was read of a configuration. -/
structure Config where
  version : String := ""
  defaults : Option Profile := none
  hostname : String := ""
  ipForwarding : Option Bool := none
  ipv6Forwarding : Option Bool := none
  vrfVNIs : List VRFVNI := []
  staticRoutes : List StaticRoute := []
  routers : List Router := []
  routeMaps : List RouteMap := []
  communityLists : List CommunityList := []
  bfdProfiles : List BFDProfile := []
deriving DecidableEq, Repr

/-! ### Errors -/

/-- The sentinel errors of the package. -/
inductive Sentinel
  | noMatch
  | unsupported
deriving DecidableEq, Repr

/-- The errors of the parser. -/
abbrev FrrError := GoError Sentinel Empty

/-- The error of a statement that the node does not have. -/
def errNoMatch : FrrError := .sentinel .noMatch

/-- `unsupported`. -/
def unsupported (reason : String) : FrrError := .wrap reason (.sentinel .unsupported)

/-- A statement that is not accepted. -/
structure ParseError where
  line : Nat
  text : String
  err : FrrError
deriving DecidableEq, Repr

/-! ### Nodes and their command words -/

/-- The CLI node that a statement belongs to. -/
inductive Node
  | config
  | bgp
  | af
  | routeMap
  | bfd
  | bfdProfile
  | vrf
  | lineVTY
  | l2vni
deriving DecidableEq, Repr

/-- The first words of statements that open a node in FRR. -/
def blockOpeners : List String :=
  ["router", "vrf", "interface", "address-family", "vni", "route-map", "bfd",
    "profile", "peer", "line", "key", "segment-routing", "srv6", "locators",
    "locator", "mpls", "l2vpn", "pseudowire", "pbr-map", "nexthop-group",
    "rpki", "bmp", "vnc", "vrf-policy", "link-params", "affinity-map", "evpn"]

/-- The statements of FRR at the top. -/
def configWords : List String :=
  ["frr", "hostname", "domainname", "log", "service", "password", "enable",
    "banner", "debug", "ip", "ipv6", "vni", "router", "bfd", "route-map", "bgp",
    "vrf", "interface", "line", "key", "access-list", "agentx", "zebra", "table",
    "allow-external-route-update", "fpm", "mpls", "segment-routing", "pbr-map",
    "nexthop-group", "l2vpn", "rpki", "username", "evpn", "router-id",
    "ptm-enable", "dump", "pseudowire", "end", "exit"]

/-- The statements of FRR in `router bgp`. -/
def bgpWords : List String :=
  ["bgp", "neighbor", "address-family", "network", "aggregate-address",
    "redistribute", "maximum-paths", "distance", "timers", "coalesce-time",
    "read-quanta", "write-quanta", "update-delay", "table-map", "vnc", "bmp",
    "segment-routing", "sid", "exit"]

/-- The commands of the unicast address-families. -/
def afWords : List String :=
  ["network", "aggregate-address", "redistribute", "maximum-paths", "neighbor",
    "table-map", "distance", "bgp", "import", "export", "rd", "rt", "label",
    "nexthop", "route-map", "sid", "route-target", "route-target6", "rt6",
    "exit-address-family", "exit"]

/-- The commands of the l2vpn evpn address-family. -/
def evpnWords : List String :=
  ["advertise", "advertise-all-vni", "advertise-default-gw",
    "advertise-svi-ip", "advertise-pip", "autort",
    "default-originate", "dup-addr-detection", "exit-address-family",
    "flooding", "disable-ead-evi-rx", "disable-ead-evi-tx", "use-es-l3nhg",
    "neighbor", "network", "rd", "route-target", "vni", "mac-vrf",
    "enable-resolve-overlay-index", "ead-es-route-target", "ead-es-frag",
    "test", "exit"]

/-- The statements of FRR about a neighbor in the EVPN family. -/
def evpnNeighborWords : List String :=
  ["activate", "allowas-in", "attribute-unchanged", "next-hop-self",
    "route-map", "route-reflector-client", "route-server-client",
    "soft-reconfiguration", "maximum-prefix", "soo"]

/-- The statements of FRR about a neighbor in another family. -/
def afNeighborWords : List String :=
  ["activate", "addpath-tx-all-paths", "addpath-tx-bestpath-per-AS",
    "allowas-in", "as-override", "attribute-unchanged", "default-originate",
    "distribute-list", "filter-list", "maximum-prefix", "maximum-prefix-out",
    "next-hop-self", "prefix-list", "remove-private-AS", "route-map",
    "route-reflector-client", "route-server-client", "send-community",
    "soft-reconfiguration", "unsuppress-map", "weight", "advertise-map",
    "disable-addpath-rx", "nexthop-local", "soo", "dampening", "addpath-rx-paths-limit"]

/-- The statements of FRR in `vni`. -/
def l2vniWords : List String :=
  ["rd", "route-target", "advertise-default-gw", "advertise-svi-ip", "advertise-subnet", "exit-vni",
    "exit"]

/-- The statements of FRR in `route-map`. -/
def routeMapWords : List String :=
  ["match", "set", "call", "on-match", "continue", "description", "exit"]

/-- The statements of FRR in `bfd`. -/
def bfdWords : List String := ["profile", "peer", "sbfd", "exit"]

/-- The statements of FRR in a BFD profile. -/
def bfdProfileWords : List String :=
  ["transmit-interval", "receive-interval", "detect-multiplier", "echo-mode",
    "echo-interval", "echo", "minimum-ttl", "passive-mode", "shutdown", "exit"]

/-- The statements of FRR in `vrf`. -/
def vrfWords : List String := ["vni", "ip", "ipv6", "netns", "exit-vrf", "exit"]

/-- The statements of FRR in `line vty`. -/
def lineVTYWords : List String := ["exec-timeout", "login", "access-class", "ipv6", "exit"]

/-- `nodeWords`: the command tables of the nodes other than the address-families. -/
def nodeWords : Node → List String
  | .config => configWords
  | .bgp => bgpWords
  | .l2vni => l2vniWords
  | .routeMap => routeMapWords
  | .bfd => bfdWords
  | .bfdProfile => bfdProfileWords
  | .vrf => vrfWords
  | .lineVTY => lineVTYWords
  | .af => []

end Booty.Frrconf
