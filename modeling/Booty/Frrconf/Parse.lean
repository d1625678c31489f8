import Booty.Frrconf.Config
import Booty.Lib.NetIP
import Booty.Lib.Prog

namespace Booty.Frrconf

open Booty.Lib
open Booty.Lib.Prog (fail lift act fetch focus handle)

/-!
# The parser of frr.conf

A statement is tried in the node the parser is in and then in the nodes above it.  The nodes are a
stack, and the objects that their blocks opened are indices into the configuration, shared by all
levels: an index that is out of range is a fault, as it panics in Go.

* `apply` and the statements of each node.
* `statement` — one statement in the nodes of the stack.
* `parseWith` — the whole text, strict or lenient.
-/

/-- The text functions of the standard library that the parser calls. -/
structure Texts where
  parseAddr : String → Except String Addr
  parsePrefix : String → Except String Prefix
  prefixString : Prefix → String
  quote : String → String

/-- The node stack, from the top level to the deepest node, and the open objects. -/
structure Parser where
  cfg : Config := {}
  stack : List Node := [.config]
  router : Nat := 0
  af : Nat := 0
  rmIndex : Nat := 0
  rmEntry : Nat := 0
  profile : Nat := 0
  vrf : String := ""
  line : Nat := 0
  text : String := ""
  unsure : Nat := 0
  warnings : List ParseError := []
deriving Repr

/-- A function of the parser. -/
abbrev P := Prog Parser FrrError

/-! ### Words -/

/-- `f[i]`. -/
def word {σ : Type} (f : List String) (i : Nat) : Prog σ FrrError String := fetch fun _ => f[i]?

/-- `f[i:]`. -/
def wordsFrom {σ : Type} (f : List String) (i : Nat) : Prog σ FrrError (List String) :=
  lift (if i ≤ f.length then .ok (f.drop i) else .fault .outOfRange)

/-- `is`: exactly these words. -/
def is (f words : List String) : Bool := f == words

/-- `has`: the statement starts with these words. -/
def has (f words : List String) : Bool :=
  decide (words.length ≤ f.length) && is (f.take words.length) words

variable (T : Texts) (f : List String)

/-- `unNo` drops a leading "no". -/
def unNo : List String :=
  if 1 < f.length && f.head? == some "no" then f.drop 1 else f

/-- `parseUint32`. -/
def parseUint32 (v what : String) : Outcome FrrError Nat :=
  match parseUintBase10 32 v with
  | some n => .ok n
  | none => .err (.new ("invalid " ++ what ++ " " ++ T.quote v))

/-- `validateCommunity` accepts `AA:NN` with 16-bit parts. -/
def validateCommunity (c : String) : Outcome FrrError Unit :=
  match cutAt ':' c with
  | none => .err (.new ("invalid community " ++ T.quote c))
  | some (a, b) =>
    if (parseUintBase10 16 a).isSome && (parseUintBase10 16 b).isSome then .ok ()
    else .err (.new ("invalid community " ++ T.quote c))

/-- `validateCommunities`. -/
def validateCommunities (T : Texts) : List String → Outcome FrrError Unit
  | [] => .ok ()
  | c :: cs => (validateCommunity T c).bind fun _ => validateCommunities T cs

/-- `validateExtCommunity` accepts `ASN:NN` and `IPv4:NN`. -/
def validateExtCommunity (rt : String) : Outcome FrrError Unit :=
  match cutAt ':' rt with
  | none => .err (.new "want ASN:NN or IPv4:NN")
  | some (a, b) =>
    match T.parseAddr a with
    | .ok addr =>
      if !addr.is4 then .err (unsupported "IPv6 route targets")
      else if (parseUintBase10 16 b).isNone then .err (.new "want IPv4:NN with a 16-bit NN")
      else .ok ()
    | .error _ =>
      match parseUintBase10 32 a with
      | none => .err (.new "want ASN:NN or IPv4:NN")
      | some asn =>
        let bits := if asn > 65535 then 16 else 32
        if (parseUintBase10 bits b).isNone then
          .err (.new ("want ASN:NN with a " ++ toString bits ++ "-bit NN"))
        else .ok ()

/-! ### The parser's state -/

/-- A node is entered. -/
def push (n : Node) : P Unit := act fun p => ((), { p with stack := p.stack ++ [n] })

/-- A node is left, but for the first. -/
def pop : P Unit :=
  act fun p => ((), if 1 < p.stack.length then { p with stack := p.stack.dropLast } else p)

/-- The configuration changes. -/
def modifyCfg (g : Config → Config) : P Unit := act fun p => ((), { p with cfg := g p.cfg })

/-- The number of the line. -/
def getLine : P Nat := act fun p => (p.line, p)

/-- `currentRouter`. -/
def currentRouter : P Router := fetch fun p => p.cfg.routers[p.router]?

/-- Work on the open router. -/
def onRouter {α : Type} (m : Prog Router FrrError α) : P α :=
  focus (fun p => p.cfg.routers[p.router]?)
    (fun r p => { p with cfg := { p.cfg with routers := p.cfg.routers.set p.router r } }) m

/-- The open address-family. -/
def currentAF : P AddressFamily :=
  fetch fun p => p.cfg.routers[p.router]?.bind fun r => r.addressFamilies[p.af]?

/-- Work on the address-family `i` of a router. -/
def onAddressFamily {α : Type} (i : Nat) (m : Router → Prog AddressFamily FrrError α) :
    Prog Router FrrError α := fun r =>
  focus (fun r => r.addressFamilies[i]?)
    (fun af r => { r with addressFamilies := r.addressFamilies.set i af }) (m r) r

/-- Work on the open address-family. -/
def onAF {α : Type} (m : Router → Prog AddressFamily FrrError α) : P α := fun p =>
  onRouter (onAddressFamily p.af m) p

/-! ### Top level -/

/-- `isLogStatement`. -/
def isLogStatement : Bool :=
  (has f ["log", "stdout"] && f.length ≤ 3) || (has f ["log", "syslog"] && f.length ≤ 3) ||
    (has f ["log", "file"] && (f.length == 3 || f.length == 4)) ||
    (has f ["log", "timestamp", "precision"] && f.length == 4)

/-- `vni`. -/
def vni (vrf : String) : P Unit := do
  if f.length != 2 && (f.length != 3 || f[2]? != some "prefix-routes-only") then fail errNoMatch
  else
    let w ← word f 1
    let n ← lift (parseUint32 T w "VNI")
    let line ← getLine
    modifyCfg fun c => { c with vrfVNIs := c.vrfVNIs ++ [⟨vrf, n, f.length == 3, line⟩] }

/-- `staticRoute`. -/
def staticRoute : P Unit := do
  if f.length != 4 || f[3]? != some "blackhole" then
    fail (unsupported "only blackhole static routes are supported")
  else
    let w ← word f 2
    let kind ← word f 0
    match T.parsePrefix w with
    | .error e => fail (.wrap "invalid prefix" (.new e))
    | .ok dst =>
      if (kind == "ip") != dst.addr.is4 then
        fail (.new (kind ++ " route with a prefix of the other address family"))
      else
        let line ← getLine
        modifyCfg fun c =>
          { c with staticRoutes := c.staticRoutes ++ [⟨T.prefixString dst, true, line⟩] }

/-- The VRF of a router. -/
def routerVRF : P String := if f.length == 5 then word f 4 else pure ""

/-- `routerBGP`. -/
def routerBGP : P Unit := do
  if f.length != 3 && (f.length != 5 || f[3]? != some "vrf") then fail errNoMatch
  else
    let w ← word f 2
    let asn ← lift (parseUint32 T w "ASN")
    let vrf ← routerVRF f
    act fun p => ((), { p with
      cfg := { p.cfg with routers := p.cfg.routers ++ [{ asn := asn, vrf := vrf, line := p.line }] }
      router := p.cfg.routers.length })
    push .bgp

/-- The last index whose element satisfies `q`, as a loop without `break` finds it. -/
def lastIndex {α : Type} (q : α → Bool) (l : List α) : Option Nat :=
  (l.zipIdx.filter fun x => q x.1).getLast?.map Prod.snd

/-- Insert at a position: `append`, `copy` to the right, and the assignment. -/
def insertAt {α : Type} (pos : Nat) (a : α) (l : List α) : Outcome FrrError (List α) :=
  if pos ≤ l.length then .ok (l.take pos ++ a :: l.drop pos) else .fault .outOfRange

/-- The action that a word names. -/
def routeMapAction (w : String) : Option RouteMapAction :=
  if w = "permit" then some .permit else if w = "deny" then some .deny else none

/-- The index of the route-map, which is added if there is none of the name. -/
def routeMapIndex (name : String) : P Nat := act fun p =>
  match lastIndex (fun m => m.name = name) p.cfg.routeMaps with
  | some i => (i, p)
  | none => (p.cfg.routeMaps.length,
      { p with cfg := { p.cfg with routeMaps := p.cfg.routeMaps ++ [{ name := name }] } })

/-- The new entry of a route-map, sorted by sequence number. -/
def addEntry (idx : Nat) (name : String) (seq : Int) (action : RouteMapAction) : P Unit := do
  let rm ← fetch fun p => p.cfg.routeMaps[idx]?
  if rm.entries.any (fun e => e.seq = seq) then
    fail (.new ("route-map " ++ name ++ " sequence " ++ toString seq ++ " is defined twice"))
  else
    let pos := rm.entries.findIdx (fun e => e.seq > seq)
    let line ← getLine
    let entries ← lift (insertAt pos { seq := seq, action := action, line := line } rm.entries)
    act fun p => ((), { p with
      cfg := { p.cfg with routeMaps := p.cfg.routeMaps.set idx { rm with entries := entries } }
      rmIndex := idx
      rmEntry := pos })

/-- `routeMap`. -/
def routeMap : P Unit := do
  if f.length != 4 then fail errNoMatch
  else
    let act ← word f 2
    match routeMapAction act with
    | none => fail errNoMatch
    | some action =>
      let name ← word f 1
      let w ← word f 3
      match (atoi w).filter (fun n => 1 ≤ n && n ≤ 65535) with
      | none => fail (.new ("invalid route-map sequence " ++ T.quote w))
      | some seq =>
        let idx ← routeMapIndex name
        addEntry idx name seq action
        push .routeMap

/-- The last community-list of the name gets the entry, or a new one. -/
def addCommunityListEntry (name : String) (e : CommunityListEntry) (lists : List CommunityList) :
    List CommunityList :=
  match lastIndex (fun l => l.name = name) lists with
  | some i => lists.modify i fun l => { l with entries := l.entries ++ [e] }
  | none => lists ++ [⟨name, [e]⟩]

/-- The words after `seq N`. -/
def afterSeq (first : String) (rest : List String) : P (List String) :=
  if first == "seq" then wordsFrom rest 2 else pure rest

/-- `communityList`. -/
def communityList : P Unit := do
  if f.length < 6 || f[2]? != some "standard" then
    fail (unsupported "only standard community-lists")
  else
    let name ← word f 3
    let rest ← wordsFrom f 4
    let first ← word rest 0
    if first == "seq" && rest.length < 4 then fail errNoMatch
    else
      let rest ← afterSeq first rest
      let act ← word rest 0
      match routeMapAction act with
      | none => fail errNoMatch
      | some action =>
        let communities ← wordsFrom rest 1
        lift (validateCommunities T communities)
        let line ← getLine
        modifyCfg fun c => { c with
          communityLists := addCommunityListEntry name ⟨action, communities, line⟩
            c.communityLists }

/-- The defaults that a word names. -/
def profileOf (w : String) : Option Profile :=
  if w = "traditional" then some .traditional
  else if w = "datacenter" then some .datacenter
  else none

/-- `configStatement`. -/
def configStatement : P Unit := do
  if has f ["frr", "version"] && f.length == 3 then
    let v ← word f 2
    modifyCfg fun c => { c with version := v }
  else if has f ["frr", "defaults"] && f.length == 3 then
    let v ← word f 2
    match profileOf v with
    | some d => modifyCfg fun c => { c with defaults := some d }
    | none => fail (.new ("unknown frr defaults profile " ++ T.quote v))
  else if has f ["hostname"] && f.length == 2 then
    let v ← word f 1
    modifyCfg fun c => { c with hostname := v }
  else if isLogStatement f || (has f ["debug"] && 2 ≤ f.length) then
    pure ()
  else if is f ["service", "integrated-vtysh-config"] then
    pure ()
  else if is f ["ip", "forwarding"] || is f ["no", "ip", "forwarding"] then
    let w ← word f 0
    modifyCfg fun c => { c with ipForwarding := some (w != "no") }
  else if is f ["ipv6", "forwarding"] || is f ["no", "ipv6", "forwarding"] then
    let w ← word f 0
    modifyCfg fun c => { c with ipv6Forwarding := some (w != "no") }
  else if has f ["vni"] then
    vni T f ""
  else if has f ["ip", "route"] || has f ["ipv6", "route"] then
    staticRoute T f
  else if has f ["router", "bgp"] then
    routerBGP T f
  else if is f ["bfd"] then
    push .bfd
  else if has f ["route-map"] then
    routeMap T f
  else if has f ["bgp", "community-list"] then
    communityList T f
  else if has f ["vrf"] && f.length == 2 then
    let w ← word f 1
    act fun p => ((), { p with vrf := w })
    push .vrf
  else if is f ["line", "vty"] then
    push .lineVTY
  else if is f ["exit"] || is f ["end"] then
    pure ()
  else fail errNoMatch

/-- `vrfStatement`. -/
def vrfStatement : P Unit := do
  let vrf ← act fun p => (p.vrf, p)
  if has f ["vni"] then vni T f vrf
  else if has f ["ip", "route"] || has f ["ipv6", "route"] then
    fail (unsupported ("static routes inside vrf " ++ vrf))
  else if is f ["exit-vrf"] || is f ["exit"] then pop
  else fail errNoMatch

/-! ### Neighbors -/

/-- `parseRemoteAS`. -/
def parseRemoteAS (v : String) : Outcome FrrError RemoteAS :=
  if v = "internal" then .ok .internal
  else if v = "external" then .ok .external
  else if v = "auto" then
    .err (.new "remote-as auto is not supported; use a number, internal or external")
  else (parseUint32 T v "remote-as").bind fun n => .ok (.number n)

/-- `parseLocalAS`. -/
def parseLocalAS (rest : List String) : Prog Neighbor FrrError Unit := do
  if rest.length < 2 || 4 < rest.length then fail errNoMatch
  else
    let w ← word rest 1
    let asn ← lift (parseUint32 T w "local-as")
    let flags ← wordsFrom rest 2
    if rest.length == 2 then
      act fun n => ((), { n with localAS := some { asn := asn } })
    else if is flags ["no-prepend"] then
      act fun n => ((), { n with localAS := some { asn := asn, noPrepend := true } })
    else if is flags ["no-prepend", "replace-as"] then
      act fun n => ((), { n with localAS := some ⟨asn, true, true⟩ })
    else fail errNoMatch

/-- `parseTimers`. -/
def parseTimers (keepalive hold : String) : Prog Neighbor FrrError Unit := do
  let k ← lift (parseUint32 T keepalive "keepalive")
  let h ← lift (parseUint32 T hold "hold time")
  if k > 65535 || h > 65535 || (h != 0 && h < 3) then
    fail (.new ("invalid timers " ++ toString k ++ " " ++ toString h))
  else act fun n => ((), { n with keepaliveTime := some k, holdTime := some h })

/-- `neighborAttribute`. -/
def neighborAttribute (rest : List String) : Prog Neighbor FrrError Unit := do
  if has rest ["remote-as"] && rest.length == 2 then
    let w ← word rest 1
    let ras ← lift (parseRemoteAS T w)
    act fun n => ((), { n with remoteAS := some ras })
  else if has rest ["local-as"] then parseLocalAS T rest
  else if is rest ["bfd"] then act fun n => ((), { n with bfd := true })
  else if has rest ["bfd", "profile"] && rest.length == 3 then
    let w ← word rest 2
    act fun n => ((), { n with bfd := true, bfdProfile := w })
  else if has rest ["timers", "connect"] && rest.length == 3 then
    let w ← word rest 2
    let v ← lift (parseUint32 T w "connect timer")
    act fun n => ((), { n with connectRetry := some v })
  else if has rest ["timers"] && rest.length == 3 then
    let k ← word rest 1
    let h ← word rest 2
    parseTimers T k h
  else fail errNoMatch

/-- `findNeighbor`. -/
def findNeighbor (r : Router) (name : String) : Option Neighbor :=
  r.neighbors.find? fun n => n.name = name

/-- Work on the neighbor of the name, which is added if there is none. -/
def onNeighborIn {α : Type} (name : String) (line : Nat) (m : Prog Neighbor FrrError α) :
    List Neighbor → Outcome FrrError α × List Neighbor
  | [] => ((m { name := name, line := line }).1, [(m { name := name, line := line }).2])
  | n :: ns =>
    if n.name = name then ((m n).1, (m n).2 :: ns)
    else ((onNeighborIn name line m ns).1, n :: (onNeighborIn name line m ns).2)

/-- `neighbor`, and what is done with the entry. -/
def onNeighbor {α : Type} (name : String) (line : Nat) (m : Prog Neighbor FrrError α) :
    Prog Router FrrError α := fun r =>
  ((onNeighborIn name line m r.neighbors).1,
    { r with neighbors := (onNeighborIn name line m r.neighbors).2 })

/-- The router. -/
def getRouter : Prog Router FrrError Router := act fun r => (r, r)

/-- `checkGroup`. -/
def checkGroup (group : String) : Prog Router FrrError Unit := do
  let r ← getRouter
  if (findNeighbor r group).any Neighbor.peerGroup then pure ()
  else fail (.new ("peer-group " ++ group ++ " is not defined"))

/-- `interfaceNeighbor`. -/
def interfaceNeighbor (line : Nat) (name : String) (rest : List String) :
    Prog Router FrrError Unit := do
  if rest.length == 0 then
    onNeighbor name line (act fun n => ((), { n with interface := true }))
  else if rest.length == 2 && rest.head? == some "peer-group" then
    let group ← word rest 1
    checkGroup group
    onNeighbor name line (act fun n =>
      ((), { n with interface := true, group := if group != "" then group else n.group }))
  else if rest.length == 2 && rest.head? == some "remote-as" then
    let w ← word rest 1
    let ras ← lift (parseRemoteAS T w)
    onNeighbor name line (act fun n => ((), { n with interface := true, remoteAS := some ras }))
  else fail errNoMatch

/-- `newNeighbor`: the statement is checked on an empty entry before the peer exists. -/
def newNeighbor (line : Nat) (name : String) (rest : List String) : Prog Router FrrError Unit := do
  let first ← word rest 0
  if first != "remote-as" then fail (.new ("neighbor " ++ name ++ " is not defined"))
  else if !(T.parseAddr name).isOk then
    fail (.new ("neighbor " ++ name ++ " is not an address, an interface or a peer-group"))
  else
    lift ((neighborAttribute T rest {}).1)
    onNeighbor name line (neighborAttribute T rest)

/-- The check of `neighbor NAME peer-group GROUP`: a peer-group or interface, or an address. -/
def memberName (name : String) : Prog Router FrrError Unit := do
  let r ← getRouter
  if (findNeighbor r name).any (fun n => n.peerGroup || n.interface) then pure ()
  else if (T.parseAddr name).isOk then pure ()
  else fail (.new ("neighbor " ++ name ++ " is not an address"))

/-- `neighborStatement`. -/
def neighborStatement (line : Nat) (name : String) (rest : List String) :
    Prog Router FrrError Unit := do
  if is rest ["peer-group"] then
    onNeighbor name line (act fun n => ((), { n with peerGroup := true }))
  else
    let first ← word rest 0
    let r ← getRouter
    if first == "interface" then
      let args ← wordsFrom rest 1
      interfaceNeighbor T line name args
    else if first == "description" then
      if (findNeighbor r name).isSome then pure ()
      else fail (.new ("neighbor " ++ name ++ " is not defined"))
    else if rest.length == 2 && first == "peer-group" then
      let group ← word rest 1
      memberName T name
      checkGroup group
      onNeighbor name line (act fun n => ((), { n with group := group }))
    else if (findNeighbor r name).isSome then
      onNeighbor name line (neighborAttribute T rest)
    else newNeighbor T line name rest

/-! ### The router node -/

/-- `routerFlag` sets a `[no] bgp FLAG` flag; `none` if the statement is no flag. -/
def routerFlag (r : Router) (f : List String) : Option Router :=
  let no := f.head? == some "no"
  let words := if no then f.drop 1 else f
  if is words ["bgp", "default", "ipv4-unicast"] then some { r with defaultIPv4Unicast := some !no }
  else if is words ["bgp", "ebgp-requires-policy"] then
    some { r with ebgpRequiresPolicy := some !no }
  else if is words ["bgp", "suppress-duplicates"] then
    some { r with suppressDuplicates := some !no }
  else if is words ["bgp", "fast-external-failover"] then
    some { r with fastExternalFailover := some !no }
  else none

/-- The address-family that the words name. -/
def afOf : Option (Afi × Safi) :=
  if is f ["address-family", "ipv4", "unicast"] || is f ["address-family", "ipv4"] then
    some (.ipv4, .unicast)
  else if is f ["address-family", "ipv6", "unicast"] || is f ["address-family", "ipv6"] then
    some (.ipv6, .unicast)
  else if is f ["address-family", "l2vpn", "evpn"] then some (.l2vpn, .evpn)
  else none

/-- The open address-family is one of the router's, or a new one. -/
def openAF (id : Afi × Safi) : P Unit := do
  let r ← currentRouter
  let line ← getLine
  match r.addressFamilies.findIdx? (fun a => a.afi = id.1 ∧ a.safi = id.2) with
  | some i =>
    act fun p => ((), { p with af := i })
    push .af
  | none =>
    onRouter (act fun r => ((), { r with
      addressFamilies := r.addressFamilies ++ [{ afi := id.1, safi := id.2, line := line }] }))
    act fun p => ((), { p with af := r.addressFamilies.length })
    push .af

/-- `addressFamily`. -/
def addressFamily : P Unit :=
  match afOf f with
  | some id => openAF id
  | none => do
    let words ← wordsFrom f 1
    fail (unsupported ("address-family " ++ " ".intercalate words))

/-- `bgpStatement`. -/
def bgpStatement : P Unit := do
  let r ← currentRouter
  if has f ["bgp", "router-id"] && f.length == 3 then
    let w ← word f 2
    match T.parseAddr w with
    | .ok addr =>
      if addr.is4 then onRouter (act fun r => ((), { r with routerID := w }))
      else fail (.new ("invalid router-id " ++ T.quote w))
    | .error _ => fail (.new ("invalid router-id " ++ T.quote w))
  else if (routerFlag r f).isSome then
    onRouter (act fun r => ((), (routerFlag r f).getD r))
  else if is f ["bgp", "bestpath", "as-path", "multipath-relax"] then
    onRouter (act fun r => ((), { r with multipathRelax := true }))
  else if has f ["bgp", "bestpath", "as-path", "multipath-relax"] then
    let words ← wordsFrom f 4
    fail (.new ("bgp bestpath as-path multipath-relax " ++ " ".intercalate words ++
      " is not supported"))
  else if is f ["bgp", "log-neighbor-changes"] || is f ["no", "bgp", "log-neighbor-changes"] then
    pure ()
  else if has f ["neighbor"] && 3 ≤ f.length then
    let name ← word f 1
    let rest ← wordsFrom f 2
    let line ← getLine
    onRouter (neighborStatement T line name rest)
  else if has f ["address-family"] then addressFamily f
  else if is f ["exit"] then pop
  else fail errNoMatch

/-! ### The address-family node -/

/-- What a statement does with the stack after its change of an object. -/
inductive Block
  | stay
  | openVNI
  | leave
deriving DecidableEq, Repr

/-- What a statement does to the stack of nodes. -/
def follow : Block → P Unit
  | .stay => pure ()
  | .openVNI => push .l2vni
  | .leave => pop

/-- `addRouteTarget`: the lists of import and export targets. -/
def addRouteTarget (lists : List String × List String) (direction rt : String) :
    Outcome FrrError (List String × List String) :=
  ((validateExtCommunity T rt).mapErr (.wrap ("invalid route-target " ++ T.quote rt))).bind fun _ =>
    if direction = "import" then .ok (lists.1 ++ [rt], lists.2)
    else if direction = "export" then .ok (lists.1, lists.2 ++ [rt])
    else if direction = "both" then .ok (lists.1 ++ [rt], lists.2 ++ [rt])
    else .err errNoMatch

/-- The change that an address-family neighbor statement makes. -/
def afNeighborSet (rest : List String) : Outcome FrrError (AFNeighbor → AFNeighbor) :=
  if is rest ["activate"] then .ok fun an => { an with activate := true }
  else if is rest ["soft-reconfiguration", "inbound"] then
    .ok fun an => { an with softReconfigInbound := true }
  else if is rest ["allowas-in"] then .ok fun an => { an with allowASIn := 3 }
  else if has rest ["allowas-in"] && rest.length == 2 then
    match rest[1]? with
    | none => .fault .outOfRange
    | some w =>
      match (atoi w).filter (fun n => 1 ≤ n && n ≤ 10) with
      | some n => .ok fun an => { an with allowASIn := n }
      | none => .err (.new ("invalid allowas-in count " ++ T.quote w))
  else if has rest ["route-map"] && rest.length == 3 && rest[2]? == some "in" then
    match rest[1]? with
    | none => .fault .outOfRange
    | some w => .ok fun an => { an with routeMapIn := w }
  else if has rest ["route-map"] && rest.length == 3 && rest[2]? == some "out" then
    match rest[1]? with
    | none => .fault .outOfRange
    | some w => .ok fun an => { an with routeMapOut := w }
  else .err errNoMatch

/-- The first entry of the name is changed, or a new one. -/
def setAFNeighbor (name : String) (set : AFNeighbor → AFNeighbor) :
    List AFNeighbor → List AFNeighbor
  | [] => [set { name := name }]
  | an :: ans => if an.name = name then set an :: ans else an :: setAFNeighbor name set ans

/-- `afNeighbor`. -/
def afNeighbor (r : Router) (name : String) (rest : List String) :
    Prog AddressFamily FrrError Block := do
  let set ← lift (afNeighborSet T rest)
  if (findNeighbor r name).isNone then fail (.new ("neighbor " ++ name ++ " is not defined"))
  else act fun af => (.stay, { af with neighbors := setAFNeighbor name set af.neighbors })

/-- `afStatement`, as far as it works on the address-family. -/
def afContent (line : Nat) (r : Router) : Prog AddressFamily FrrError Block := do
  let af ← act fun af => (af, af)
  let evpn := af.safi == .evpn
  if has f ["network"] && f.length == 2 && !evpn then
    let w ← word f 1
    match T.parsePrefix w with
    | .error e => fail (.wrap "invalid network" (.new e))
    | .ok dst =>
      if (af.afi == .ipv4) != dst.addr.is4 then
        fail (.new ("network " ++ w ++ " in address-family " ++ af.afi.name))
      else act fun af => (.stay, { af with networks := af.networks ++ [T.prefixString dst] })
  else if is f ["redistribute", "connected"] && !evpn then
    act fun af => (.stay, { af with redistributeConnected := true })
  else if has f ["neighbor"] && 3 ≤ f.length then
    let name ← word f 1
    let rest ← wordsFrom f 2
    afNeighbor T r name rest
  else if is f ["advertise-all-vni"] && evpn then
    act fun af => (.stay, { af with advertiseAllVNI := true })
  else if is f ["advertise-default-gw"] && evpn then
    act fun af => (.stay, { af with advertiseDefaultGW := true })
  else if is f ["enable-resolve-overlay-index"] && evpn then
    act fun af => (.stay, { af with resolveOverlayIndex := true })
  else if has f ["vni"] && f.length == 2 && evpn then
    let w ← word f 1
    let n ← lift (parseUint32 T w "VNI")
    act fun af => (.openVNI, { af with l2vnis := af.l2vnis ++ [{ vni := n, line := line }] })
  else if is f ["advertise", "ipv4", "unicast"] && evpn then
    act fun af => (.stay, { af with advertiseIPv4Unicast := true })
  else if is f ["advertise", "ipv6", "unicast"] && evpn then
    act fun af => (.stay, { af with advertiseIPv6Unicast := true })
  else if has f ["route-target"] && f.length == 3 && evpn then
    let dir ← word f 1
    let rt ← word f 2
    let lists ← lift (addRouteTarget T (af.routeTargetImport, af.routeTargetExport) dir rt)
    act fun af => (.stay, { af with routeTargetImport := lists.1, routeTargetExport := lists.2 })
  else if has f ["rd"] && f.length == 2 && evpn then
    let w ← word f 1
    lift ((validateExtCommunity T w).mapErr (.wrap ("invalid rd " ++ T.quote w)))
    act fun af => (.stay, { af with rd := w })
  else if is f ["exit-address-family"] || is f ["exit"] then pure .leave
  else fail errNoMatch

/-- `afStatement`. -/
def afStatement : P Unit := do
  let line ← getLine
  let block ← onAF (afContent T f line)
  follow block

/-- `l2vniStatement`, as far as it works on the last L2VNI. -/
def l2vniContent : Prog L2VNI FrrError Block := do
  let v ← act fun v => (v, v)
  if has f ["rd"] && f.length == 2 then
    let w ← word f 1
    lift ((validateExtCommunity T w).mapErr (.wrap ("invalid rd " ++ T.quote w)))
    act fun v => (.stay, { v with rd := w })
  else if has f ["route-target"] && f.length == 3 then
    let dir ← word f 1
    let rt ← word f 2
    let lists ← lift (addRouteTarget T (v.routeTargetImport, v.routeTargetExport) dir rt)
    act fun v => (.stay, { v with routeTargetImport := lists.1, routeTargetExport := lists.2 })
  else if is f ["advertise-default-gw"] then
    act fun v => (.stay, { v with advertiseDefaultGW := true })
  else if is f ["exit-vni"] || is f ["exit"] then pure .leave
  else fail errNoMatch

/-- Work on the last L2VNI of an address-family. -/
def onLastVNI {α : Type} (m : Prog L2VNI FrrError α) : Prog AddressFamily FrrError α :=
  focus (fun af => af.l2vnis[af.l2vnis.length - 1]?)
    (fun v af => { af with l2vnis := af.l2vnis.set (af.l2vnis.length - 1) v }) m

/-- `l2vniStatement`. -/
def l2vniStatement : P Unit := do
  let block ← onAF fun _ => onLastVNI (l2vniContent T f)
  follow block

/-! ### The other nodes -/

/-- `routeMapStatement`, as far as it works on the entry. -/
def entryContent : Prog RouteMapEntry FrrError Block := do
  if has f ["set", "local-preference"] && f.length == 3 then
    let w ← word f 2
    let v ← lift (parseUint32 T w "local-preference")
    act fun e => (.stay, { e with setLocalPreference := some v })
  else if has f ["set", "community"] && 3 ≤ f.length then
    let comms ← wordsFrom f 2
    let last ← word comms (comms.length - 1)
    let additive := last == "additive"
    let comms := if additive then comms.dropLast else comms
    if comms.length == 0 then fail errNoMatch
    else
      lift (validateCommunities T comms)
      act fun e => (.stay, { e with setCommunities := comms, setCommunityAdditive := additive })
  else if has f ["match", "community"] && f.length == 3 then
    let w ← word f 2
    act fun e => (.stay, { e with matchCommunity := w })
  else if is f ["exit"] then pure .leave
  else fail errNoMatch

/-- The open route-map and its open entry. -/
def openEntry (p : Parser) : Option (RouteMap × RouteMapEntry) :=
  p.cfg.routeMaps[p.rmIndex]?.bind fun rm => rm.entries[p.rmEntry]?.map fun e => (rm, e)

/-- Work on the open entry of a route-map. -/
def onEntry {α : Type} (m : Prog RouteMapEntry FrrError α) : P α :=
  focus (fun p => (openEntry p).map Prod.snd)
    (fun e p => { p with cfg := { p.cfg with
      routeMaps := p.cfg.routeMaps.modify p.rmIndex fun rm =>
        { rm with entries := rm.entries.set p.rmEntry e } } }) m

/-- `routeMapStatement`. -/
def routeMapStatement : P Unit := do
  let block ← onEntry (entryContent T f)
  follow block

/-- `bfdStatement`. -/
def bfdStatement : P Unit := do
  if has f ["profile"] && f.length == 2 then
    let w ← word f 1
    act fun p =>
      match p.cfg.bfdProfiles.findIdx? (fun b => b.name = w) with
      | some i => ((), { p with profile := i })
      | none => ((), { p with
          cfg := { p.cfg with bfdProfiles := p.cfg.bfdProfiles ++ [{ name := w, line := p.line }] }
          profile := p.cfg.bfdProfiles.length })
    push .bfdProfile
  else if is f ["exit"] then pop
  else fail errNoMatch

/-- `bfdProfileStatement`, as far as it works on the profile. -/
def profileContent : Prog BFDProfile FrrError Block := do
  if is f ["exit"] then pure .leave
  else if f.length != 2 then fail errNoMatch
  else
    let key ← word f 0
    let w ← word f 1
    if key == "transmit-interval" || key == "receive-interval" then
      let v ← lift (parseUint32 T w key)
      if v < 10 || v > 60000 then
        fail (.new (key ++ " " ++ toString v ++ " out of range 10-60000"))
      else if key == "transmit-interval" then
        act fun b => (.stay, { b with transmitInterval := some v })
      else act fun b => (.stay, { b with receiveInterval := some v })
    else if key == "detect-multiplier" then
      let v ← lift (parseUint32 T w key)
      if v < 2 || v > 255 then
        fail (.new ("detect-multiplier " ++ toString v ++ " out of range 2-255"))
      else act fun b => (.stay, { b with detectMultiplier := some v })
    else fail errNoMatch

/-- Work on the open profile. -/
def onProfile {α : Type} (m : Prog BFDProfile FrrError α) : P α :=
  focus (fun p => p.cfg.bfdProfiles[p.profile]?)
    (fun b p => { p with cfg := { p.cfg with bfdProfiles := p.cfg.bfdProfiles.set p.profile b } }) m

/-- `bfdProfileStatement`. -/
def bfdProfileStatement : P Unit := do
  let block ← onProfile (profileContent T f)
  follow block

/-- `apply`. -/
def apply (n : Node) (f : List String) : P Unit :=
  match n with
  | .config => configStatement T f
  | .bgp => bgpStatement T f
  | .af => afStatement T f
  | .routeMap => routeMapStatement T f
  | .bfd => bfdStatement f
  | .bfdProfile => bfdProfileStatement T f
  | .vrf => vrfStatement T f
  | .l2vni => l2vniStatement T f
  | .lineVTY => if is f ["exit"] then pop else fail errNoMatch

/-! ### Statements -/

/-- `nodeName`. -/
def nodeName (n : Node) : P String :=
  match n with
  | .bgp => do
    let r ← currentRouter
    pure ("router bgp " ++ toString r.asn ++ if r.vrf != "" then " vrf " ++ r.vrf else "")
  | .af => do
    let af ← currentAF
    pure ("address-family " ++ af.afi.name ++ " " ++ af.safi.name)
  | .routeMap => do
    let e ← fetch openEntry
    pure ("route-map " ++ e.1.name ++ " " ++ e.2.action.name ++ " " ++ toString e.2.seq)
  | .bfd => pure "bfd"
  | .bfdProfile => do
    let b ← fetch fun p => p.cfg.bfdProfiles[p.profile]?
    pure ("profile " ++ b.name)
  | .vrf => act fun p => ("vrf " ++ p.vrf, p)
  | .lineVTY => pure "line vty"
  | .l2vni => do
    let af ← currentAF
    let v ← fetch fun _ => af.l2vnis[af.l2vnis.length - 1]?
    pure ("vni " ++ toString v.vni)
  | .config => pure "config"

/-- The names of some nodes. -/
def nodeNames : List Node → P (List String)
  | [] => pure []
  | n :: ns => do
    let name ← nodeName n
    let names ← nodeNames ns
    pure (name :: names)

/-- `context`: the nodes of a stack. -/
def context (stack : List Node) : P String :=
  if stack.length == 1 then pure "the top level"
  else do
    let names ← nodeNames (stack.drop 1)
    pure (" > ".intercalate names)

/-- `inEVPN`. -/
def inEVPN (n : Node) : P Bool :=
  if n = .af then do
    let af ← currentAF
    pure (af.safi == .evpn)
  else pure false

/-- `isAFNeighborAttr`. -/
def isAFNeighborAttr : Bool :=
  if f.length < 3 then false
  else if f[2]? == some "capability" then 3 < f.length && f[3]? == some "orf"
  else f[2]?.any afNeighborWords.contains

/-- `knownInAF`. -/
def knownInAF (evpn : Bool) (f : List String) (first : String) : Bool :=
  if evpn && first == "neighbor" then 2 < f.length && f[2]?.any evpnNeighborWords.contains
  else if evpn then evpnWords.contains first
  else if first == "neighbor" then isAFNeighborAttr f
  else afWords.contains first

/-- `knownIn`: FRR has a command in the node that starts like the statement. -/
def knownIn (n : Node) (evpn : Bool) (f : List String) : P Bool := do
  let f := unNo f
  let first ← word f 0
  pure (if n = .af then knownInAF evpn f first else (nodeWords n).contains first)

/-- `afterApply`. -/
def afterApply (depth : Nat) : P Unit := act fun p =>
  if p.unsure = 0 then ((), p)
  else if depth + 1 < p.unsure then ((), { p with unsure := 0 })
  else ((), { p with warnings := p.warnings ++ [⟨p.line, p.text, .new
    "applied after a skipped statement that FRR does not know; FRR may apply it in another node"⟩]
      })

/-- The error of a statement with the nodes it was tried in. -/
def failIn (stack : List Node) (err : String → FrrError) : P Unit := do
  let ctx ← context stack
  fail (err ctx)

/-- Another stack of nodes. -/
def setStack (stack : List Node) : P Unit := act fun p => ((), { p with stack := stack })

/-- The second loop of `statement`, from the node at `depth - 1` up: no node accepts the statement,
    and the parser moves to the deepest node where FRR knows the command. -/
def moveToKnown (saved : List Node) (f : List String) : Nat → P Unit
  | 0 => do
    act fun p => ((), { p with
      stack := saved
      unsure := if 1 < saved.length && (p.unsure == 0 || saved.length < p.unsure) then saved.length
        else p.unsure })
    failIn saved fun ctx => .wrap ("statement %w (in " ++ ctx ++ ")") (.sentinel .unsupported)
  | depth + 1 => do
    let n ← fetch fun _ => saved[depth]?
    let evpn ← inEVPN n
    let known ← knownIn n evpn f
    if known then
      act fun p => ((), { p with
        stack := saved.take (depth + 1)
        unsure := if depth + 1 < p.unsure then 0 else p.unsure })
      failIn (saved.take (depth + 1)) fun ctx =>
        .wrap ("statement %w (in " ++ ctx ++ ")") (.sentinel .unsupported)
    else moveToKnown saved f depth

/-- The first loop of `statement`, from the node at `depth - 1` up. -/
def tryNodes (T : Texts) (saved : List Node) (f : List String) : Nat → P Unit
  | 0 => moveToKnown saved f saved.length
  | depth + 1 => do
    let n ← fetch fun _ => saved[depth]?
    setStack (saved.take (depth + 1))
    handle (apply T n f) (fun _ => afterApply depth) fun e =>
      if e.is .noMatch then tryNodes T saved f depth
      else do
        setStack saved
        failIn saved fun ctx => .wrap ("%w (in " ++ ctx ++ ")") e

/-- `statement`. -/
def statement : P Unit := fun p =>
  tryNodes T p.stack f p.stack.length p

/-! ### The text -/

/-- The options of the parser. -/
structure Options where
  lenient : Bool

/-- A line without a statement. -/
def isComment : Bool :=
  match f.head? with
  | none => true
  | some w => w.toList.head? == some '!' || w.toList.head? == some '#'

/-- The line `i`, from zero: its statement is applied, or skipped with a warning in lenient mode. -/
def parseLine (o : Options) (i : Nat) (raw : List Char) : P Unit := do
  act fun p => ((), { p with line := i + 1, text := trimFields raw })
  let f := fields raw
  if isComment f then pure ()
  else
    handle (statement T f) pure fun e => do
      let first ← word (unNo f) 0
      if !o.lenient || !e.is .unsupported || blockOpeners.contains first then fail e
      else act fun p => ((), { p with warnings := p.warnings ++ [⟨p.line, p.text, e⟩] })

/-- The lines from the line `i` on. -/
def parseLines (T : Texts) (o : Options) : Nat → List (List Char) → P Unit
  | _, [] => pure ()
  | i, raw :: rest => do
    parseLine T o i raw
    parseLines T o (i + 1) rest

/-- The lines of a text. -/
def linesOf (data : List UInt8) : List (List Char) := (goString data).splitOn '\n'

/-- `ParseWith`: the configuration, or the first statement that is not accepted. -/
def parseWith (o : Options) (data : List UInt8) : Outcome ParseError Config :=
  match parseLines T o 0 (linesOf data) {} with
  | (.ok (), p) => .ok p.cfg
  | (.err e, p) => .err ⟨p.line, p.text, e⟩
  | (.fault e, _) => .fault e

end Booty.Frrconf
