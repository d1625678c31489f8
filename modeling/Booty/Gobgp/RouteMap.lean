import Booty.Lib.NetIP
import Booty.Gobgp.AsOccurrences
import Booty.Lib.GoMap
import Booty.Lib.SortBy
import Booty.Lib.Text

namespace Booty.Gobgp

open Booty.Lib

/-!
# Route-maps as GoBGP policies

`buildPolicy` translates the route-maps of all peers into one import and one export policy: defined
sets and a list of statements, each for the peers of a neighbor set.

* `buildPolicy` — the translation.
* `BgpPolicy.evaluate` — what GoBGP decides with it: the first statement whose conditions hold, else
  the default action.
-/

/-! ### Configuration -/

/-- The address families of a session. -/
inductive Family
  | ipv4Unicast
  | ipv6Unicast
  | l2vpnEvpn
deriving DecidableEq, Repr

/-- The name of a family. -/
def Family.name : Family → String
  | .ipv4Unicast => "ipv4-unicast"
  | .ipv6Unicast => "ipv6-unicast"
  | .l2vpnEvpn => "l2vpn-evpn"

/-- The directions of a policy. -/
inductive Direction
  | inbound
  | outbound
deriving DecidableEq, Repr

/-- The name of a direction. -/
def Direction.name : Direction → String
  | .inbound => "in"
  | .outbound => "out"

/-- The route-maps of a session in one family; the empty name stands for none. -/
structure SessionRouteMaps where
  family : Family
  inMap : String := ""
  outMap : String := ""
deriving DecidableEq, Repr

/-- The route-map of a direction. -/
def SessionRouteMaps.get (rm : SessionRouteMaps) : Direction → String
  | .inbound => rm.inMap
  | .outbound => rm.outMap

/-- One `route-map NAME permit|deny SEQ`; the empty `matchCommunity` matches every route. -/
structure RouteMapEntry where
  seq : Nat
  deny : Bool := false
  matchCommunity : String := ""
  setLocalPreference : Option (BitVec 32) := none
  setCommunities : List String := []
  setCommunityAdditive : Bool := false
deriving DecidableEq, Repr

/-- A route-map. -/
structure RouteMap where
  name : String
  entries : List RouteMapEntry
deriving DecidableEq, Repr

/-- An entry of a community list. -/
structure CommunityListEntry where
  deny : Bool := false
  communities : List String
deriving DecidableEq, Repr

/-- A community list. -/
structure CommunityList where
  name : String
  entries : List CommunityListEntry
deriving DecidableEq, Repr

/-- A peer with what the policies must cover. -/
structure PolicyPeer where
  name : String
  addr : Addr
  routeMaps : List SessionRouteMaps := []
  localAS : Nat := 0
  routerAS : Nat := 0
  allowASIn : Nat := 0
  requirePolicy : Bool := false
  families : List Family := []
deriving DecidableEq, Repr

/-! ### GoBGP's policies -/

/-- GoBGP's address families. -/
inductive Afi
  | ip
  | ip6
  | l2vpn
deriving DecidableEq, Repr

/-- GoBGP's subsequent address families. -/
inductive Safi
  | unicast
  | evpn
deriving DecidableEq, Repr

/-- `familyOf`. -/
def familyOf : Family → Afi × Safi
  | .ipv6Unicast => (.ip6, .unicast)
  | .l2vpnEvpn => (.l2vpn, .evpn)
  | .ipv4Unicast => (.ip, .unicast)

/-- An entry of a neighbor set: an address without its zone, the zone, and the prefix length. -/
structure NeighborEntry where
  addr : Addr
  zone : String
  bits : Nat
deriving DecidableEq, Repr

/-- What a defined set holds. -/
inductive SetContent
  | neighbor (list : List NeighborEntry)
  | community (list : List String)
  | asPath (list : List Pattern)
deriving DecidableEq, Repr

/-- A defined set.  Sets of different types have names of their own. -/
structure DefinedSet where
  name : String
  content : SetContent
deriving DecidableEq, Repr

/-- How a condition matches a set. -/
inductive MatchType
  | any
  | all
deriving DecidableEq, Repr

/-- A condition on a defined set. -/
structure MatchSet where
  typ : MatchType
  name : String
deriving DecidableEq, Repr

/-- The conditions of a statement. -/
structure Conditions where
  neighborSet : MatchSet
  afiSafiIn : List (Afi × Safi) := []
  communitySet : Option MatchSet := none
  asPathSet : Option MatchSet := none
deriving DecidableEq, Repr

/-- What a statement decides. -/
inductive RouteAction
  | accept
  | reject
deriving DecidableEq, Repr

/-- What a statement does with communities. -/
inductive CommunityActionType
  | add
  | replace
deriving DecidableEq, Repr

/-- The action on communities. -/
structure CommunityAction where
  typ : CommunityActionType
  communities : List String
deriving DecidableEq, Repr

/-- The actions of a statement. -/
structure Actions where
  routeAction : RouteAction
  localPref : Option (BitVec 32) := none
  community : Option CommunityAction := none
deriving DecidableEq, Repr

/-- A statement of a policy. -/
structure Statement where
  name : String
  conditions : Conditions
  actions : Actions
deriving DecidableEq, Repr

/-- One family and direction of a peer whose routes `bgp ebgp-requires-policy` rejects. -/
structure PolicyReject where
  peer : String
  dir : Direction
  fam : Family
deriving DecidableEq, Repr

/-- The sets and the statements of both directions. -/
structure BgpPolicy where
  sets : List DefinedSet := []
  im : List Statement := []
  ex : List Statement := []
  rejected : List PolicyReject := []
deriving DecidableEq, Repr

/-- The statements of the policy of a direction. -/
def BgpPolicy.statements (p : BgpPolicy) : Direction → List Statement
  | .inbound => p.im
  | .outbound => p.ex

/-- The policy with more statements. -/
def BgpPolicy.add (p : BgpPolicy) (dir : Direction) (stmts : List Statement) : BgpPolicy :=
  match dir with
  | .inbound => { p with im := p.im ++ stmts }
  | .outbound => { p with ex := p.ex ++ stmts }

/-! ### Evaluation -/

/-- What a policy reads of a route. -/
structure PolicyRoute where
  peer : Addr
  family : Afi × Safi
  communities : List String
  asPath : List Nat
deriving DecidableEq, Repr

/-- The outcome for a route: rejected, or accepted with these changes. -/
inductive Decision
  | reject
  | accept (localPref : Option (BitVec 32)) (community : Option CommunityAction)
deriving DecidableEq, Repr

/-- Whether a condition holds for the members of a set. -/
def MatchType.holds {α : Type} (typ : MatchType) (l : List α) (p : α → Bool) : Bool :=
  match typ with
  | .any => l.any p
  | .all => l.all p

/-- The neighbors of a set. -/
def neighborsOf (sets : List DefinedSet) (name : String) : List NeighborEntry :=
  (sets.findSome? fun s =>
    match s.content with
    | .neighbor l => if s.name = name then some l else none
    | _ => none).getD []

/-- The communities of a set. -/
def communitiesOf (sets : List DefinedSet) (name : String) : List String :=
  (sets.findSome? fun s =>
    match s.content with
    | .community l => if s.name = name then some l else none
    | _ => none).getD []

/-- The patterns of a set. -/
def asPathsOf (sets : List DefinedSet) (name : String) : List Pattern :=
  (sets.findSome? fun s =>
    match s.content with
    | .asPath l => if s.name = name then some l else none
    | _ => none).getD []

/-- The conditions hold for a route; `isPeer` says which peer an entry of a neighbor set stands
    for. -/
def Conditions.hold (isPeer : NeighborEntry → Addr → Bool) (sets : List DefinedSet) (c : Conditions)
    (r : PolicyRoute) : Bool :=
  c.neighborSet.typ.holds (neighborsOf sets c.neighborSet.name) (isPeer · r.peer) &&
    (c.afiSafiIn.isEmpty || c.afiSafiIn.contains r.family) &&
    c.communitySet.all (fun m => m.typ.holds (communitiesOf sets m.name)
      (r.communities.contains ·)) &&
    c.asPathSet.all (fun m => m.typ.holds (asPathsOf sets m.name)
      (·.fullMatch (asPathText r.asPath)))

/-- The decision of the actions. -/
def Actions.decision (a : Actions) : Decision :=
  match a.routeAction with
  | .accept => .accept a.localPref a.community
  | .reject => .reject

/-- The decision of the first statement that applies. -/
def firstMatch (isPeer : NeighborEntry → Addr → Bool) (sets : List DefinedSet)
    (stmts : List Statement)
    (r : PolicyRoute) : Option Decision :=
  (stmts.find? fun st => st.conditions.hold isPeer sets r).map fun st => st.actions.decision

/-- The decision of a policy with the default action accept. -/
def BgpPolicy.evaluate (isPeer : NeighborEntry → Addr → Bool) (p : BgpPolicy) (dir : Direction)
    (r : PolicyRoute) : Decision :=
  (firstMatch isPeer p.sets (p.statements dir) r).getD (.accept none none)

/-! ### Neighbor sets -/

/-- `hostPrefix`: only a link-local address keeps its zone. -/
def hostPrefix (a : Addr) : NeighborEntry :=
  if a.zone = "" || !a.isLinkLocalUnicast then ⟨a.withoutZone, "", a.bitLen⟩
  else ⟨a.withoutZone, a.zone, a.bitLen⟩

/-! ### Names of the sets -/

/-- The name of the sets and the statement against loops. -/
def routerASName (as count : Nat) : String := "router-as-" ++ toString as ++ "-" ++ toString count

/-- The name for peers without a policy. -/
def requirePolicyName (dir : Direction) (fam : Family) : String :=
  "ebgp-requires-policy-" ++ dir.name ++ "-" ++ fam.name

/-- The name of a route-map in a direction and family. -/
def routeMapName (dir : Direction) (rm : String) (fam : Family) : String :=
  "rm-" ++ dir.name ++ "-" ++ rm ++ "-" ++ fam.name

/-- The name of the set of an entry. -/
def communitySetName (list : String) (j : Nat) : String := "cl-" ++ list ++ "-" ++ toString j

/-! ### The local-as check -/

/-- The group of a peer with a local-as that is not the router AS: the AS and how often it may
    occur. -/
def localASKey (peer : PolicyPeer) : Option (Nat × Nat) :=
  if peer.localAS ≠ 0 ∧ peer.localAS ≠ peer.routerAS then
    some (peer.routerAS, peer.allowASIn)
  else none

variable (u : Unicode) (peers : List PolicyPeer) (maps : List RouteMap)
  (lists : List CommunityList)

/-- The peers with another local AS, by group. -/
def localASMembers : List ((Nat × Nat) × NeighborEntry) :=
  peers.filterMap fun peer => (localASKey peer).map fun k => (k, hostPrefix peer.addr)

/-- The sets of a group. -/
def localASSets (groups : GoMap (Nat × Nat) (List NeighborEntry)) (k : Nat × Nat) :
    List DefinedSet :=
  [⟨routerASName k.1 k.2, .neighbor ((groups.get k).getD [])⟩,
    ⟨routerASName k.1 k.2, .asPath [asOccurrences k.1 (k.2 + 1)]⟩]

/-- The statement of a group. -/
def localASStatement (k : Nat × Nat) : Statement where
  name := routerASName k.1 k.2
  conditions :=
    { neighborSet := ⟨.any, routerASName k.1 k.2⟩
      asPathSet := some ⟨.any, routerASName k.1 k.2⟩ }
  actions := { routeAction := .reject }

/-- `localASChecks`. -/
def BgpPolicy.localASChecks (visit : Visit) (peers : List PolicyPeer) (p : BgpPolicy) : BgpPolicy :=
  let groups := GoMap.group (localASMembers peers)
  let keys := sortBy toLex (visit.keys groups)
  { p with
    sets := p.sets ++ keys.flatMap (localASSets groups)
    im := p.im ++ keys.map localASStatement }

/-! ### Peers that require a policy -/

/-- The peer has a route-map for the family and direction. -/
def PolicyPeer.hasRouteMap (peer : PolicyPeer) (dir : Direction) (fam : Family) : Bool :=
  (peer.routeMaps.find? fun rm => rm.family = fam).any fun rm => rm.get dir ≠ ""

/-- The families and directions without a policy, in the order of the loops. -/
def PolicyPeer.unfiltered (peer : PolicyPeer) : List (Direction × Family) :=
  if peer.requirePolicy then
    (peer.families.flatMap fun fam => [(.inbound, fam), (.outbound, fam)]).filter
      fun k => !peer.hasRouteMap k.1 k.2
  else []

/-- The statement for peers without a policy. -/
def requirePolicyStatement (k : Direction × Family) : Statement where
  name := requirePolicyName k.1 k.2
  conditions :=
    { neighborSet := ⟨.any, requirePolicyName k.1 k.2⟩
      afiSafiIn := [familyOf k.2] }
  actions := { routeAction := .reject }

/-- The peers without a policy, by direction and family. -/
def unfilteredMembers : List ((Direction × Family) × NeighborEntry) :=
  peers.flatMap fun peer => peer.unfiltered.map fun k => (k, hostPrefix peer.addr)

/-- The set and the statement of one family and direction. -/
def BgpPolicy.addReject (members : GoMap (Direction × Family) (List NeighborEntry)) (p : BgpPolicy)
    (k : Direction × Family) : BgpPolicy :=
  let set := ⟨requirePolicyName k.1 k.2, .neighbor ((members.get k).getD [])⟩
  { p with sets := p.sets ++ [set] }.add k.1 [requirePolicyStatement k]

/-- `requirePolicy`. -/
def BgpPolicy.requirePolicy (visit : Visit) (peers : List PolicyPeer) (p : BgpPolicy) : BgpPolicy :=
  let members := GoMap.group (unfilteredMembers peers)
  let rejected := peers.flatMap fun peer => peer.unfiltered.map fun k => ⟨peer.name, k.1, k.2⟩
  let keys := sortBy (fun k => k.1.name ++ k.2.name) (visit.keys members)
  keys.foldl (addReject members) { p with rejected := p.rejected ++ rejected }

/-! ### Route-maps -/

/-- `entryActions`. -/
def entryActions (e : RouteMapEntry) : Actions :=
  if e.deny then { routeAction := .reject }
  else
    { routeAction := .accept
      localPref := e.setLocalPreference
      community :=
        if e.setCommunities = [] then none
        else some ⟨if e.setCommunityAdditive then .add else .replace, e.setCommunities⟩ }

/-- The loop of `communitySets` from the entry `j` on: the names, and the sets with the new ones. -/
def communitySetsFrom (u : Unicode) (name : String) :
    Nat → List CommunityListEntry → List DefinedSet → Except String (List String × List DefinedSet)
  | _, [], sets => .ok ([], sets)
  | j, e :: entries, sets =>
    if e.deny then
      .error ("community-list " ++ u.quote name ++ ": deny entries are not implemented")
    else
      let set := communitySetName name j
      let sets := if sets.any (fun s => s.name = set) then sets
        else sets ++ [⟨set, .community e.communities⟩]
      match communitySetsFrom u name (j + 1) entries sets with
      | .error err => .error err
      | .ok (names, sets) => .ok (set :: names, sets)

/-- `communitySets`. -/
def communitySets (name : String) (sets : List DefinedSet) :
    Except String (List String × List DefinedSet) :=
  match lists.find? fun l => l.name = name with
  | none => .error ("community-list " ++ u.quote name ++ " is not defined")
  | some l => communitySetsFrom u name 0 l.entries sets

/-- The conditions of every statement of a route-map. -/
def baseConditions (nset : String) (fam : Family) : Conditions :=
  { neighborSet := ⟨.any, nset⟩, afiSafiIn := [familyOf fam] }

/-- The statements of an entry that matches a community-list, one for each community set. -/
def communityStatements (nset : String) (fam : Family) (e : RouteMapEntry) (names : List String) :
    List Statement :=
  names.mapIdx fun j set =>
    { name := nset ++ "-" ++ toString e.seq ++ "-" ++ toString j
      conditions := { baseConditions nset fam with communitySet := some ⟨.all, set⟩ }
      actions := entryActions e }

/-- The statements of an entry of a route-map. -/
def entryStatements (rm : RouteMap) (nset : String)
    (fam : Family) (e : RouteMapEntry) (sets : List DefinedSet) :
    Except String (List Statement × List DefinedSet) :=
  if e.matchCommunity = "" then
    .ok ([⟨nset ++ "-" ++ toString e.seq, baseConditions nset fam, entryActions e⟩], sets)
  else
    match communitySets u lists e.matchCommunity sets with
    | .error err => .error ("route-map " ++ rm.name ++ " " ++ toString e.seq ++ ": " ++ err)
    | .ok (names, sets) => .ok (communityStatements nset fam e names, sets)

/-- The implicit deny at the end of a route-map. -/
def denyStatement (nset : String) (fam : Family) : Statement :=
  ⟨nset ++ "-deny", baseConditions nset fam, { routeAction := .reject }⟩

/-- The loop of `routeMapStatements` over the sorted entries. -/
def entriesStatements (u : Unicode) (lists : List CommunityList) (rm : RouteMap) (nset : String)
    (fam : Family) :
    List RouteMapEntry → List DefinedSet → Except String (List Statement × List DefinedSet)
  | [], sets => .ok ([denyStatement nset fam], sets)
  | e :: entries, sets =>
    match entryStatements u lists rm nset fam e sets with
    | .error err => .error err
    | .ok (stmts, sets) =>
      match entriesStatements u lists rm nset fam entries sets with
      | .error err => .error err
      | .ok (rest, sets) => .ok (stmts ++ rest, sets)

/-- `routeMapStatements`. -/
def routeMapStatements (rm : RouteMap) (nset : String)
    (fam : Family) (sets : List DefinedSet) : Except String (List Statement × List DefinedSet) :=
  entriesStatements u lists rm nset fam (sortBy RouteMapEntry.seq rm.entries) sets

/-! ### The translation -/

/-- A route-map that peers use in a direction and family. -/
structure RouteMapKey where
  dir : Direction
  rm : String
  fam : Family
deriving DecidableEq, Repr

/-- The orders of the loops over maps. -/
structure PolicyVisits where
  groups : Visit
  rejects : Visit
  routeMaps : PolicyPeer → SessionRouteMaps → Visit

/-- The uses of route-maps, in the order of the loops. -/
def routeMapMembers (visits : PolicyVisits) (peers : List PolicyPeer) :
    List (RouteMapKey × NeighborEntry) :=
  peers.flatMap fun peer => peer.routeMaps.flatMap fun rm =>
    ((visits.routeMaps peer rm).order [Direction.inbound, .outbound]).filterMap fun dir =>
      if rm.get dir = "" then none else some (⟨dir, rm.get dir, rm.family⟩, hostPrefix peer.addr)

/-- The keys in the order in which they first occur. -/
def firstUses (members : List (RouteMapKey × NeighborEntry)) : List RouteMapKey :=
  members.foldl (fun order e => if e.1 ∈ order then order else order ++ [e.1]) []

/-- The set and the statements of one route-map. -/
def BgpPolicy.addRouteMap
    (members : GoMap RouteMapKey (List NeighborEntry)) (p : BgpPolicy) (k : RouteMapKey) :
    Except String BgpPolicy :=
  match maps.find? fun m => m.name = k.rm with
  | none => .error ("route-map " ++ u.quote k.rm ++ " is not defined")
  | some m =>
    let nset := routeMapName k.dir k.rm k.fam
    let sets := p.sets ++ [⟨nset, .neighbor ((members.get k).getD [])⟩]
    match routeMapStatements u lists m nset k.fam sets with
    | .error err => .error err
    | .ok (stmts, sets) => .ok ({ p with sets := sets }.add k.dir stmts)

/-- `buildPolicy`. -/
def buildPolicy (u : Unicode) (visits : PolicyVisits) (peers : List PolicyPeer)
    (maps : List RouteMap) (lists : List CommunityList) : Except String BgpPolicy :=
  let members := routeMapMembers visits peers
  let order := sortBy (fun k => k.dir.name ++ k.rm ++ k.fam.name) (firstUses members)
  let p := BgpPolicy.localASChecks visits.groups peers {}
  let p := p.requirePolicy visits.rejects peers
  order.foldlM (BgpPolicy.addRouteMap u maps lists (GoMap.group members)) p

end Booty.Gobgp
