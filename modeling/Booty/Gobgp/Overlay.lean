import Booty.Gobgp.Segments
import Booty.Gobgp.Type5

namespace Booty.Gobgp

open Booty.Lib

/-!
# The overlay tier (`pkg/network/gobgp/overlay.go`)

The parts of the overlay together: the L2 state, the Type-5 state, which asks the L2 state whether a
gateway IP is resolved, and the entries for BUM flooding.  `processRouteUpdate` takes a best-path
update of the RIB and hands it to one handler; `overlayMachine` is driven by the handlers'
arguments.

* `Flooding.handleType3Path` — the handler of Type-3 routes, which tell where broadcast, unknown
  unicast and multicast frames are to be sent.
* `OverlayTier.processRouteUpdate` — the dispatch.
-/

/-! ### Type-3 routes -/

/-- The flooding entries of the VXLAN device, and the kernel calls so far. -/
structure Flooding where
  bum : GoMap Ip Unit
  calls : Nat

/-- No entries. -/
def Flooding.empty : Flooding := ⟨∅, 0⟩

/-- The VTEP that a Type-3 route names: its originator, or else its next hop. -/
def remoteVTEP (txt : NetText) (route : Type3Route) (vtep : String) : Option Ip :=
  (txt.parseIP route.ipAddress).or (txt.parseIP vtep)

namespace Flooding
variable (cfg : Config) (txt : NetText) (env : Env) (s : Flooding)

/-- A kernel call that does `f` unless it fails. -/
def call (f : GoMap Ip Unit → GoMap Ip Unit) : Bool × Flooding :=
  if env.fails s.calls then (true, { s with calls := s.calls + 1 })
  else (false, { s with calls := s.calls + 1, bum := f s.bum })

/-- `handleType3Route`. -/
def handleType3Route (route : Type3Route) (vtep : String) (withdraw : Bool) : Flooding :=
  match remoteVTEP txt route vtep with
  | none => s
  | some remoteIP =>
    if txt.ipString remoteIP = cfg.routerID then s
    else
      let (failed, s) := s.call env id      -- `LinkByName`
      if failed then s
      else if withdraw then (s.call env (·.delete remoteIP)).2
      else (s.call env (·.set remoteIP ())).2

/-- `handleType3Path`: another tunnel type than ingress replication is a withdraw of the entry. -/
def handleType3Path (p : EvpnPath)
    (route : Type3Route) (vtep : String) (withdraw : Bool) : Flooding :=
  s.handleType3Route cfg txt env route vtep (withdraw || !p.ingressReplication)

end Flooding

/-! ### The tier -/

/-- The overlay; the parts have kernel tables of their own. -/
structure OverlayTier where
  l2 : L2
  t5 : Type5
  flooding : Flooding

/-- Nothing is known and nothing is installed. -/
def OverlayTier.empty : OverlayTier := ⟨.empty, .empty, .empty⟩

/-- The Type-5 code sees the live Type-2 routes. -/
def Type5Env.seeing (env : Type5Env) (l2 : L2) : Type5Env :=
  { env with type2HasIP := l2.type2HasIP }

namespace OverlayTier
variable (cfg : Config) (txt : NetText) (env : Type5Env) (s : OverlayTier)

/-- After a change of a MAC/IP route the prefixes through its IP are resolved again. -/
def resolveAfter (ip : Option Ip) : OverlayTier :=
  match ip with
  | none => s
  | some ip =>
    if cfg.resolveOverlayIndex then
      { s with t5 := s.t5.resolveType5Gateway cfg txt (env.seeing s.l2) ip }
    else s

/-- `handleType2Update`. -/
def handleType2Update
    (route : Type2Route) (vtep : String) (seq : BitVec 32) (sticky router withdraw : Bool) :
    OverlayTier :=
  match L2.type2Change cfg txt route vtep seq sticky router withdraw with
  | none => s
  | some (mac, p) =>
    let ip := type2IP txt route.ipAddress
    let l2 := s.l2.updateType2 txt env.toEnv mac (type2Key route) ip p
    resolveAfter cfg txt env { s with l2 := l2 } ip

/-- `processRouteUpdate`. -/
def processRouteUpdate (p : EvpnPath) : OverlayTier :=
  if cfg.importsRoute p ≠ some true then s
  else
    let vtep := p.extractNextHop
    let notVXLAN := p.notVXLAN p.isWithdraw
    let withdraw := p.isWithdraw || notVXLAN
    match p.nlri with
    | .ipPrefix r =>
      { s with t5 := s.t5.processType5Update cfg txt (env.seeing s.l2) p r vtep withdraw notVXLAN }
    | .macadv r =>
      -- The entry of the tracked route goes, not that of this update.
      let vtep := if notVXLAN then "" else vtep
      if cfg.enableL2 then
        s.handleType2Update cfg txt env r vtep p.macMobilityOf.1 p.macMobilityOf.2 p.arpNdRouter
          withdraw
      else s
    | .ethernetAd r =>
      if cfg.enableL2 then
        { s with l2 := s.l2.handleType1Route cfg txt env.toEnv r vtep p.esiSingleActive withdraw }
      else s
    | .multicast r =>
      if cfg.enableL2 then
        { s with flooding := s.flooding.handleType3Path cfg txt env.toEnv p r vtep withdraw }
      else s
    | .other => s

end OverlayTier

/-! ### Runs -/

/-- The calls of the handlers. -/
inductive OverlayEvent
  | type1 (route : Type1Route) (vtep : String) (singleActive withdraw : Bool) (env : Type5Env)
  | type2 (route : Type2Route) (vtep : String) (seq : BitVec 32) (sticky router withdraw : Bool)
      (env : Type5Env)
  | type3 (path : EvpnPath) (route : Type3Route) (vtep : String) (withdraw : Bool) (env : Type5Env)
  | type5 (route : Type5Route) (vtep : String) (routerMAC : Mac) (valid withdraw converted : Bool)
      (env : Type5Env)

variable (cfg : Config) (txt : NetText) (s : OverlayTier)

/-- One call of a handler. -/
def overlayStep : OverlayEvent → Option OverlayTier
  | .type1 route vtep singleActive withdraw env =>
    some { s with l2 := s.l2.handleType1Route cfg txt env.toEnv route vtep singleActive withdraw }
  | .type2 route vtep seq sticky router withdraw env =>
    some (s.handleType2Update cfg txt env route vtep seq sticky router withdraw)
  | .type3 path route vtep withdraw env =>
    some { s with
      flooding := s.flooding.handleType3Path cfg txt env.toEnv path route vtep withdraw }
  | .type5 route vtep routerMAC valid withdraw converted env =>
    some { s with
      t5 := s.t5.handleType5Update cfg txt (env.seeing s.l2) route vtep routerMAC valid withdraw
        converted }

/-- The overlay, driven by calls of its handlers. -/
def overlayMachine : Machine OverlayTier OverlayEvent where
  start := .empty
  step := overlayStep cfg txt

/-! ### The parts -/

section Parts

variable {cfg : Config} {txt : NetText} {s : OverlayTier}

/-- The prefixes are resolved in the Type-5 state. -/
theorem resolveAfter_rest (env : Type5Env) (ip : Option Ip) :
    (s.resolveAfter cfg txt env ip).l2 = s.l2 ∧
      (s.resolveAfter cfg txt env ip).flooding = s.flooding := by
  unfold OverlayTier.resolveAfter
  split
  · exact ⟨rfl, rfl⟩
  · split <;> exact ⟨rfl, rfl⟩

/-- The Type-2 handler does to the L2 state what the L2 machine does. -/
theorem handleType2Update_l2 (env : Type5Env) (route : Type2Route) (vtep : String) (seq : BitVec 32)
    (sticky router withdraw : Bool) :
    (s.handleType2Update cfg txt env route vtep seq sticky router withdraw).l2 =
      s.l2.handleType2 cfg txt env.toEnv route vtep seq sticky router withdraw := by
  unfold OverlayTier.handleType2Update L2.handleType2
  cases L2.type2Change cfg txt route vtep seq sticky router withdraw with
  | none => rfl
  | some c => exact (resolveAfter_rest env _).1

/-- The Type-2 handler leaves the flooding entries alone. -/
theorem handleType2Update_flooding (env : Type5Env) (route : Type2Route) (vtep : String)
    (seq : BitVec 32) (sticky router withdraw : Bool) :
    (s.handleType2Update cfg txt env route vtep seq sticky router withdraw).flooding =
      s.flooding := by
  unfold OverlayTier.handleType2Update
  cases L2.type2Change cfg txt route vtep seq sticky router withdraw with
  | none => rfl
  | some c => exact (resolveAfter_rest env _).2

end Parts

end Booty.Gobgp
