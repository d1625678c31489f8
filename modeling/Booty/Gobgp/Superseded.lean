import Booty.Gobgp.KernelRoutes
import Booty.Gobgp.LivePaths

namespace Booty.Gobgp

open Booty.Lib Option EvpnPath L2 Type5

/-!
# Superseded routes

The RIB sends the best path of a route key whenever it changes, and an update replaces the one
before it.  The overlay is watched together with the updates so far: a tracked path should be the
path of the most recent update of its route key, which then is an announcement that the overlay
imports.

* `Current` — the law, for Type-1, Type-2 and Type-5 route keys.
* `processRouteUpdate_current` — one update keeps it.
* `tracked_paths_are_current` — the law over runs.
* `mismatchedUpdate_keepsPath` — an update that is not imported leaves the superseded path.
-/

/-! ### Updates and their routes -/

/-- What identifies a route. -/
inductive EvpnRouteKey
  | type1 (k : Type1Key)
  | type2 (k : Type2Key)
  | type5 (k : Type5Key)
deriving DecidableEq, Repr

namespace EvpnPath

/-- The route key of an update. -/
def routeKey (p : EvpnPath) : Option EvpnRouteKey :=
  match p.nlri with
  | .ethernetAd r => some (.type1 (type1Key r))
  | .macadv r => some (.type2 (type2Key r))
  | .ipPrefix r => some (.type5 (type5PathKey r))
  | .multicast _ => none
  | .other => none

/-- The path that a Type-1 announcement describes. -/
def type1Path (p : EvpnPath) (r : Type1Route) : Option Type1Path :=
  (esiKey r.esi).map fun esi =>
    ⟨esi, p.extractNextHop, r.ethernetTag == maxET, r.ethernetTag == maxET && p.esiSingleActive⟩

/-- The path that a Type-2 announcement describes. -/
def type2Path (txt : NetText) (p : EvpnPath) (r : Type2Route) : Option Type2Path :=
  (txt.parseIP p.extractNextHop).map fun ip =>
    ⟨ip, p.macMobilityOf.1, p.macMobilityOf.2, p.arpNdRouter, type2IP txt r.ipAddress, esiKey r.esi⟩

/-- The path that a Type-5 announcement describes. -/
def type5Path (txt : NetText) (p : EvpnPath) (r : Type5Route) : Option Type5Path :=
  (extractRouterMAC txt p.pattrs).toOption.map fun mac =>
    ⟨type5PathKey r, r, p.extractNextHop, mac, true⟩

/-- The next hop is an address of another node; that of a Type-1 route is an IPv4 address. -/
def usableNextHop (cfg : Config) (txt : NetText) (p : EvpnPath) : Prop :=
  p.extractNextHop ≠ cfg.routerID ∧ ∃ ip, txt.parseIP p.extractNextHop = some ip ∧
    ∀ r, p.nlri = .ethernetAd r → ip.to4.isSome = true

/-- **An announcement that the overlay can use**: it carries an import route target and has a usable
    next hop. -/
structure Announced (cfg : Config) (txt : NetText) (p : EvpnPath) : Prop where
  announce : p.isWithdraw = false
  target : ∃ asn vni, cfg.ImportTarget asn vni ∧
    p.communities.any (rtCommunityMatches asn vni) = true
  nextHop : p.usableNextHop cfg txt

end EvpnPath

/-! ### Runs -/

/-- The overlay and the updates so far, the newest one first. -/
structure Watched where
  tier : OverlayTier
  history : List EvpnPath

/-- The most recent update of a route key. -/
def Watched.latest (w : Watched) (key : EvpnRouteKey) : Option EvpnPath :=
  w.history.find? fun p => p.routeKey = some key

/-- An update with what the rest of the program and the kernel do meanwhile. -/
structure RouteUpdate where
  path : EvpnPath
  env : Type5Env

/-- One update of the watched overlay. -/
def watchStep (cfg : Config) (txt : NetText) (w : Watched) (u : RouteUpdate) : Watched :=
  ⟨w.tier.processRouteUpdate cfg txt u.env u.path, u.path :: w.history⟩

/-- The watched overlay. -/
def watchMachine (cfg : Config) (txt : NetText) : Machine Watched RouteUpdate where
  start := ⟨.empty, []⟩
  step w u := some (watchStep cfg txt w u)

/-- **Every tracked path is the path of the most recent update of its route key**, and this update
    is an announcement that the overlay can use. -/
structure Current (cfg : Config) (txt : NetText) (w : Watched) : Prop where
  type1 : ∀ k q, w.tier.l2.type1Paths.get k = some q → ∃ p r, w.latest (.type1 k) = some p ∧
    p.nlri = .ethernetAd r ∧ p.Announced cfg txt ∧ p.type1Path r = some q
  type2 : ∀ mac k q, (w.tier.l2.pathsOf mac).get k = some q → ∃ p r, w.latest (.type2 k) = some p ∧
    p.nlri = .macadv r ∧ p.Announced cfg txt ∧ p.type2Path txt r = some q
  type5 : ∀ dst k q, (w.tier.t5.pathsOf dst).get k = some q → ∃ p r, w.latest (.type5 k) = some p ∧
    p.nlri = .ipPrefix r ∧ p.Announced cfg txt ∧ p.type5Path txt r = some q

/-- A path of the route key is tracked. -/
def OverlayTier.Tracks (s : OverlayTier) : EvpnRouteKey → Prop
  | .type1 k => ∃ q, s.l2.type1Paths.get k = some q
  | .type2 k => ∃ mac q, (s.l2.pathsOf mac).get k = some q
  | .type5 k => ∃ dst q, (s.t5.pathsOf dst).get k = some q

/-- The overlay takes an update of a tracked route key: it is imported, a Type-1 or Type-2
    announcement has a usable next hop, and a Type-5 update does not have the own next hop. -/
def Taken (cfg : Config) (txt : NetText) (p : EvpnPath) : Prop :=
  cfg.importsRoute p = some true ∧
    match p.nlri with
    | .ethernetAd _ | .macadv _ =>
      p.isWithdraw = false → p.notVXLAN false = false → p.usableNextHop cfg txt
    | .ipPrefix _ => p.extractNextHop ≠ cfg.routerID
    | .multicast _ | .other => True

/-- An update of a tracked route key is taken, and an imported Type-5 announcement has a next hop
    that parses. -/
structure SafeUpdate (cfg : Config) (txt : NetText) (w : Watched) (p : EvpnPath) : Prop where
  replaces : ∀ key, p.routeKey = some key → w.tier.Tracks key → Taken cfg txt p
  nextHop : ∀ r, p.nlri = .ipPrefix r → p.isWithdraw = false → cfg.importsRoute p = some true →
    (txt.parseIP p.extractNextHop).isSome = true

/-- What the keys of tracked paths say: the code finds a path by them alone, and no check of the key
    can skip a later update of it. -/
structure KeysOk (cfg : Config) (txt : NetText) (s : OverlayTier) : Prop where
  indexed : s.l2.Indexed txt
  esi : ∀ k q, s.l2.type1Paths.get k = some q → (esiKey k.esi).isSome = true
  layer2 : cfg.enableL2 = false →
    (∀ k, s.l2.type1Paths.get k = none) ∧ ∀ mac k, (s.l2.pathsOf mac).get k = none
  prefixes : ∀ dst k q, (s.t5.pathsOf dst).get k = some q →
    parsePrefixRoute txt k.ipPrefix k.len = some dst ∧ cfg.blackholes.contains dst = false

section Steps

variable {cfg : Config} {txt : NetText} {s s' : OverlayTier} {p : EvpnPath} {h : List EvpnPath}
  {env : Type5Env}

/-! ### The history -/

theorem latest_here {key : EvpnRouteKey} (hkey : p.routeKey = some key) :
    (Watched.mk s' (p :: h)).latest key = some p := by
  unfold Watched.latest
  rw [List.find?_cons_of_pos]
  exact decide_eq_true hkey

theorem latest_other {key : EvpnRouteKey} (hkey : p.routeKey ≠ some key) :
    (Watched.mk s' (p :: h)).latest key = (Watched.mk s h).latest key := by
  unfold Watched.latest
  rw [List.find?_cons_of_neg]
  exact fun hc => hkey (of_decide_eq_true hc)

/-- **One update**: a path that is tracked afterwards was tracked before under the key of another
    route, or it is the path that the update announces. -/
theorem Current.update (hcur : Current cfg txt ⟨s, h⟩)
    (hone : ∀ k q, s'.l2.type1Paths.get k = some q →
      (s.l2.type1Paths.get k = some q ∧ p.routeKey ≠ some (.type1 k)) ∨
      (p.routeKey = some (.type1 k) ∧ ∃ r, p.nlri = .ethernetAd r ∧ p.Announced cfg txt ∧
        p.type1Path r = some q)) (htwo : ∀ mac k q, (s'.l2.pathsOf mac).get k = some q →
      ((s.l2.pathsOf mac).get k = some q ∧ p.routeKey ≠ some (.type2 k)) ∨
      (p.routeKey = some (.type2 k) ∧ ∃ r, p.nlri = .macadv r ∧ p.Announced cfg txt ∧
        p.type2Path txt r = some q)) (hfive : ∀ dst k q, (s'.t5.pathsOf dst).get k = some q →
      ((s.t5.pathsOf dst).get k = some q ∧ p.routeKey ≠ some (.type5 k)) ∨
      (p.routeKey = some (.type5 k) ∧ ∃ r, p.nlri = .ipPrefix r ∧ p.Announced cfg txt ∧
        p.type5Path txt r = some q)) : Current cfg txt ⟨s', p :: h⟩ := by
  refine ⟨fun k q hq => ?_, fun mac k q hq => ?_, fun dst k q hq => ?_⟩
  · grind [hcur.type1, latest_other, latest_here]
  · grind [hcur.type2, latest_other, latest_here]
  · grind [hcur.type5, latest_other, latest_here]

/-- An update of an untracked key that changes no path. -/
theorem Current.ignored (hcur : Current cfg txt ⟨s, h⟩) (hl2 : s'.l2 = s.l2) (ht5 : s'.t5 = s.t5)
    (hnot : ∀ key, p.routeKey = some key → ¬ s.Tracks key) : Current cfg txt ⟨s', p :: h⟩ := by
  refine hcur.update (fun k q hq => ?_) (fun mac k q hq => ?_) (fun dst k q hq => ?_)
  · rw [hl2] at hq
    exact .inl ⟨hq, fun hc => hnot _ hc ⟨q, hq⟩⟩
  · rw [hl2] at hq
    exact .inl ⟨hq, fun hc => hnot _ hc ⟨mac, q, hq⟩⟩
  · rw [ht5] at hq
    exact .inl ⟨hq, fun hc => hnot _ hc ⟨dst, q, hq⟩⟩

/-! ### What an update changes -/

variable {r : Type2Route} {vtep : String} {mac : Mac}

theorem handleType2Update_t5 (cfg : Config) (txt : NetText) (env : Type5Env) (s : OverlayTier)
    (r : Type2Route) (vtep : String) (seq : BitVec 32) (sticky router withdraw : Bool)
    (dst : IPNet) :
    (s.handleType2Update cfg txt env r vtep seq sticky router withdraw).t5.pathsOf dst =
      s.t5.pathsOf dst := by
  unfold OverlayTier.handleType2Update
  split
  · rfl
  · dsimp only
    unfold OverlayTier.resolveAfter
    split
    · rfl
    · grind [pathsOf_congr, resolveType5Gateway_paths]

variable {seq : BitVec 32} {sticky router withdraw : Bool}

/-- An update with a route: it announces, from a next hop of another node. -/
theorem type2Change_announce {q : Type2Path}
    (hchange : L2.type2Change cfg txt r vtep seq sticky router withdraw = some (mac, some q)) :
    withdraw = false ∧ vtep ≠ cfg.routerID ∧ ∃ ip, txt.parseIP vtep = some ip ∧
      q = ⟨ip, seq, sticky, router, type2IP txt r.ipAddress, esiKey r.esi⟩ := by
  obtain ⟨m, -, hchange⟩ := bind_eq_some_iff.mp hchange
  split at hchange
  · cases hchange
  next hw =>
    obtain ⟨ip, hip, hchange⟩ := bind_eq_some_iff.mp hchange
    split at hchange
    · cases hchange
    next hown => grind

/-- An update that is taken is not skipped. -/
theorem type2Change_taken (hmac : txt.parseMAC r.macAddress = some mac)
    (htaken : withdraw = false → vtep ≠ cfg.routerID ∧ (txt.parseIP vtep).isSome = true) :
    L2.type2Change cfg txt r vtep seq sticky router withdraw ≠ none := by
  unfold L2.type2Change
  cases withdraw with
  | true => simp [hmac]
  | false => simp_all [isSome_iff_exists.mp]

theorem handleType2_type1Paths (cfg : Config) (txt : NetText) (env : Env) (s : L2) (r : Type2Route)
    (vtep : String) (seq : BitVec 32) (sticky router withdraw : Bool) :
    (s.handleType2 cfg txt env r vtep seq sticky router withdraw).type1Paths = s.type1Paths := by
  unfold L2.handleType2
  split
  · rfl
  · unfold updateType2
    rw [(syncType2FDB_kept _).type1Paths]
    exact (routeType2_frame _ _ _ _).type1Paths

theorem usableType1_iff : L2.usableType1 cfg txt vtep = true ↔
    vtep ≠ cfg.routerID ∧ ∃ ip, txt.parseIP vtep = some ip ∧ ip.to4.isSome = true := by
  unfold L2.usableType1
  rw [Bool.and_eq_true, any_eq_true, bne_iff_ne, and_comm]

/-! ### Type-5 updates -/

/-- A Type-5 update is an announcement that the overlay can use, with this path. -/
def Type5Announced (cfg : Config) (txt : NetText) (p : EvpnPath) (q : Type5Path) : Prop :=
  ∃ r, p.nlri = .ipPrefix r ∧ p.Announced cfg txt ∧ p.type5Path txt r = some q

section Imported

variable (hkeys : KeysOk cfg txt s) (hsafe : SafeUpdate cfg txt ⟨s, h⟩ p)
  (himport : cfg.importsRoute p = some true)

include hkeys hsafe himport

/-- What is tracked after a Type-5 update: a path of another key, or the path of the update. -/
theorem processType5Update_tracked {r : Type5Route} (hr : p.nlri = .ipPrefix r)
    (hkey : p.routeKey = some (.type5 (type5PathKey r))) {dst : IPNet} {k : Type5Key}
    {q : Type5Path}
    (hq : ((s.t5.processType5Update cfg txt env p r p.extractNextHop
      (p.isWithdraw || p.notVXLAN p.isWithdraw) (p.notVXLAN p.isWithdraw)).pathsOf dst).get k =
        some q) :
    ((s.t5.pathsOf dst).get k = some q ∧ k ≠ type5PathKey r) ∨
      (k = type5PathKey r ∧ parsePrefixRoute txt r.ipPrefix r.ipPrefixLen = some dst ∧
        cfg.blackholes.contains dst = false ∧ Type5Announced cfg txt p q) := by
  unfold Type5.processType5Update at hq
  rw [handleType5Update_get] at hq
  split at hq
  next hc =>
    obtain ⟨hchanged, hk⟩ := hc
    split at hq
    · cases hq
    next hannounce =>
      obtain ⟨hplain, husable⟩ := Bool.or_eq_false_iff.mp (Bool.eq_false_iff.mpr hannounce)
      obtain ⟨hwithdraw, hvxlan⟩ := Bool.or_eq_false_iff.mp hplain
      unfold changedPrefix at hchanged
      split at hchanged
      · cases hchanged
      next hown =>
        obtain ⟨hparse, hblack⟩ := filter_eq_some_iff.mp hchanged
        rw [Bool.eq_false_iff.mpr hannounce, Bool.false_or, Bool.not_eq_true'] at hblack
        obtain ⟨ip, hip⟩ := isSome_iff_exists.mp (hsafe.nextHop r hr hwithdraw himport)
        refine .inr ⟨hk, hparse, hblack, r, hr,
          ⟨hwithdraw, importsRoute_announce hwithdraw himport, hown, ip, hip, by simp [hr]⟩, ?_⟩
        unfold type5Path
        rw [hplain] at husable
        cases hmac : extractRouterMAC txt p.pattrs with
        | error e =>
          rw [hmac] at husable
          cases husable
        | ok mac =>
          rw [hmac] at hq
          exact hq
  next hc =>
    refine .inl ⟨hq, fun hk => hc ⟨?_, hk⟩⟩
    -- The update of a tracked key is not skipped.
    obtain ⟨hparse, hblack⟩ := hkeys.prefixes dst k q hq
    have htaken := (hsafe.replaces _ hkey ⟨dst, q, hk ▸ hq⟩).2
    rw [hr] at htaken
    rw [hk] at hparse
    unfold changedPrefix
    rw [if_neg htaken]
    refine filter_eq_some_iff.mpr ⟨hparse, ?_⟩
    rw [hblack, Bool.not_false, Bool.or_true]

/-- **A Type-5 update** replaces the tracked path of its route key. -/
theorem processType5Update_current (hcur : Current cfg txt ⟨s, h⟩) {r : Type5Route}
    (hr : p.nlri = .ipPrefix r) :
    let t5 := s.t5.processType5Update cfg txt env p r p.extractNextHop
      (p.isWithdraw || p.notVXLAN p.isWithdraw) (p.notVXLAN p.isWithdraw)
    Current cfg txt ⟨{ s with t5 := t5 }, p :: h⟩ ∧ KeysOk cfg txt { s with t5 := t5 } := by
  intro t5
  have hkey : p.routeKey = some (.type5 (type5PathKey r)) := by simp [EvpnPath.routeKey, hr]
  refine ⟨hcur.update (fun k q hq => .inl ⟨hq, ?_⟩) (fun mac k q hq => .inl ⟨hq, ?_⟩)
    (fun dst k q hq => ?_), hkeys.indexed, hkeys.esi, hkeys.layer2, fun dst k q hq => ?_⟩
  · simp [hkey]
  · simp [hkey]
  · rcases processType5Update_tracked hkeys hsafe himport hr hkey hq with
      ⟨hold, hne⟩ | ⟨hk, -, -, hnew⟩
    · grind
    · exact .inr ⟨hk ▸ hkey, hnew⟩
  · rcases processType5Update_tracked hkeys hsafe himport hr hkey hq with
      ⟨hold, -⟩ | ⟨hk, hparse, hblack, -⟩
    · exact hkeys.prefixes dst k q hold
    · rw [hk]
      exact ⟨hparse, hblack⟩

/-! ### Type-2 updates -/

/-- What is tracked after a Type-2 update: a path of another key, or the path of the update. -/
theorem handleType2_tracked (hr : p.nlri = .macadv r)
    (hkey : p.routeKey = some (.type2 (type2Key r)))
    (hvtep : p.notVXLAN p.isWithdraw = false → vtep = p.extractNextHop) {k : Type2Key}
    {q : Type2Path}
    (hq : ((s.l2.handleType2 cfg txt env.toEnv r vtep p.macMobilityOf.1 p.macMobilityOf.2
      p.arpNdRouter
      (p.isWithdraw || p.notVXLAN p.isWithdraw)).pathsOf mac).get k = some q) :
    ((s.l2.pathsOf mac).get k = some q ∧ k ≠ type2Key r) ∨
      (k = type2Key r ∧ p.Announced cfg txt ∧ p.type2Path txt r = some q) := by
  unfold L2.handleType2 at hq
  split at hq
  next hnone =>
    refine .inl ⟨hq, fun hk => ?_⟩
    -- The update of a tracked key is not skipped.
    obtain ⟨hmac, -⟩ := hkeys.indexed.keyed mac k q hq
    have htaken := (hsafe.replaces _ hkey ⟨mac, q, hk ▸ hq⟩).2
    rw [hr] at htaken
    rw [hk] at hmac
    refine type2Change_taken hmac (fun hplain => ?_) hnone
    obtain ⟨hwithdraw, hvxlan⟩ := Bool.or_eq_false_iff.mp hplain
    obtain ⟨hown, ip, hip, -⟩ := htaken hwithdraw (hwithdraw ▸ hvxlan)
    rw [hvtep hvxlan, hip]
    exact ⟨hown, rfl⟩
  next mac' new hchange =>
    rw [updateType2_get] at hq
    split at hq
    next hhere =>
      rw [hq] at hchange
      obtain ⟨hplain, hown, ip, hip, hpath⟩ := type2Change_announce hchange
      obtain ⟨hwithdraw, hvxlan⟩ := Bool.or_eq_false_iff.mp hplain
      rw [hvtep hvxlan] at hown hip
      refine .inr ⟨hhere.2,
        ⟨hwithdraw, importsRoute_announce hwithdraw himport, hown, ip, hip, by simp [hr]⟩, ?_⟩
      simp [type2Path, hip, hpath]
    next hother =>
      refine .inl ⟨hq, fun hk => hother ⟨?_, hk⟩⟩
      -- The key has the MAC, so a tracked path of the key is a path of this MAC.
      obtain ⟨hmac, -⟩ := hkeys.indexed.keyed mac k q hq
      have hmac' := (type2Change_args hchange).mac
      rw [hk, hmac'] at hmac
      exact (some.inj hmac).symm

/-- **A Type-2 update** replaces the tracked path of its route key. -/
theorem handleType2Update_current (hcur : Current cfg txt ⟨s, h⟩)
    (hr : p.nlri = .macadv r) (hl2 : cfg.enableL2 = true)
    (hvtep : p.notVXLAN p.isWithdraw = false → vtep = p.extractNextHop) :
    let s' := s.handleType2Update cfg txt env r vtep p.macMobilityOf.1 p.macMobilityOf.2
      p.arpNdRouter
      (p.isWithdraw || p.notVXLAN p.isWithdraw)
    Current cfg txt ⟨s', p :: h⟩ ∧ KeysOk cfg txt s' := by
  intro s'
  have hkey : p.routeKey = some (.type2 (type2Key r)) := by simp [EvpnPath.routeKey, hr]
  have hlayer2 : s'.l2 = s.l2.handleType2 cfg txt env.toEnv r vtep p.macMobilityOf.1
      p.macMobilityOf.2 p.arpNdRouter (p.isWithdraw || p.notVXLAN p.isWithdraw) :=
    handleType2Update_l2 env r vtep _ _ _ _
  have hone : s'.l2.type1Paths = s.l2.type1Paths := by
    rw [hlayer2, handleType2_type1Paths]
  have hfive : ∀ dst, s'.t5.pathsOf dst = s.t5.pathsOf dst :=
    fun dst => handleType2Update_t5 cfg txt env s r vtep _ _ _ _ dst
  refine ⟨hcur.update (fun k q hq => .inl ⟨hone ▸ hq, ?_⟩) (fun mac k q hq => ?_)
    (fun dst k q hq => .inl ⟨hfive dst ▸ hq, ?_⟩), ?_, ?_, fun hoff => ?_, fun dst k q hq => ?_⟩
  · simp [hkey]
  · rw [hlayer2] at hq
    rcases handleType2_tracked hkeys hsafe himport hr hkey hvtep hq with ⟨hold, hne⟩ | ⟨hk, hnew⟩
    · grind
    · exact .inr ⟨hk ▸ hkey, r, hr, hnew⟩
  · simp [hkey]
  · rw [hlayer2]
    exact L2.l2Step_indexed (e := .type2 r vtep _ _ _ _ env.toEnv) hkeys.indexed rfl
  · rw [hone]
    exact hkeys.esi
  · rw [hl2] at hoff
    cases hoff
  · grind [hkeys.prefixes]

/-! ### Type-1 updates -/

/-- What is tracked after a Type-1 update: a path of another key, or the path of the update. -/
theorem handleType1Route_tracked {r : Type1Route} (hr : p.nlri = .ethernetAd r)
    (hkey : p.routeKey = some (.type1 (type1Key r))) {k : Type1Key} {q : Type1Path}
    (hq : (s.l2.handleType1Route cfg txt env.toEnv r p.extractNextHop p.esiSingleActive
      (p.isWithdraw || p.notVXLAN p.isWithdraw)).type1Paths.get k = some q) :
    (s.l2.type1Paths.get k = some q ∧ k ≠ type1Key r) ∨
      (k = type1Key r ∧ p.Announced cfg txt ∧ p.type1Path r = some q) := by
  by_cases hskip : esiKey r.esi = none ∨ ((p.isWithdraw || p.notVXLAN p.isWithdraw) = false ∧
      L2.usableType1 cfg txt p.extractNextHop = false)
  · rw [L2.handleType1Route_skipped hskip] at hq
    refine .inl ⟨hq, fun hk => ?_⟩
    -- The update of a tracked key is not skipped.
    have htaken := (hsafe.replaces _ hkey ⟨q, hk ▸ hq⟩).2
    rw [hr] at htaken
    rcases hskip with hesi | ⟨hplain, hunusable⟩
    · have hsome := hkeys.esi k q hq
      rw [hk, show (type1Key r).esi = r.esi from rfl, hesi] at hsome
      cases hsome
    · obtain ⟨hwithdraw, hvxlan⟩ := Bool.or_eq_false_iff.mp hplain
      obtain ⟨hown, ip, hip, hip4⟩ := htaken hwithdraw (hwithdraw ▸ hvxlan)
      rw [usableType1_iff.mpr ⟨hown, ip, hip, hip4 r hr⟩] at hunusable
      cases hunusable
  · rw [not_or, not_and, Bool.not_eq_false] at hskip
    obtain ⟨esi, hesi⟩ := ne_none_iff_exists'.mp hskip.1
    rw [handleType1Route_get k ⟨hesi, or_iff_not_imp_left.mpr fun hc =>
      hskip.2 (Bool.eq_false_iff.mpr hc)⟩] at hq
    split at hq
    next hk =>
      split at hq
      · cases hq
      next hplain =>
        rw [Bool.not_eq_true] at hplain
        obtain ⟨hwithdraw, -⟩ := Bool.or_eq_false_iff.mp hplain
        obtain ⟨hown, ip, hip, hip4⟩ := usableType1_iff.mp (hskip.2 hplain)
        refine .inr ⟨hk, ⟨hwithdraw, importsRoute_announce hwithdraw himport, hown, ip, hip,
          fun _ _ => hip4⟩, ?_⟩
        unfold type1Path
        rw [hesi]
        exact hq
    next hk => exact .inl ⟨hq, hk⟩

/-- **A Type-1 update** replaces the tracked path of its route key. -/
theorem handleType1Route_current (hcur : Current cfg txt ⟨s, h⟩) {r : Type1Route}
    (hr : p.nlri = .ethernetAd r) (hl2 : cfg.enableL2 = true) :
    let l2 := s.l2.handleType1Route cfg txt env.toEnv r p.extractNextHop p.esiSingleActive
      (p.isWithdraw || p.notVXLAN p.isWithdraw)
    Current cfg txt ⟨{ s with l2 := l2 }, p :: h⟩ ∧ KeysOk cfg txt { s with l2 := l2 } := by
  intro l2
  have hkey : p.routeKey = some (.type1 (type1Key r)) := by simp [EvpnPath.routeKey, hr]
  have htwo : ∀ mac, l2.pathsOf mac = s.l2.pathsOf mac :=
    (L2.handleType1Route_rest cfg txt env.toEnv s.l2 r _ _ _).1
  refine ⟨hcur.update (fun k q hq => ?_) (fun mac k q hq => .inl ⟨htwo mac ▸ hq, ?_⟩)
    (fun dst k q hq => .inl ⟨hq, ?_⟩), ?_, fun k q hq => ?_, fun hoff => ?_, hkeys.prefixes⟩
  · rcases handleType1Route_tracked hkeys hsafe himport hr hkey hq with ⟨hold, hne⟩ | ⟨hk, hnew⟩
    · grind
    · exact .inr ⟨hk ▸ hkey, r, hr, hnew⟩
  · simp [hkey]
  · simp [hkey]
  · exact L2.l2Step_indexed (e := .type1 r _ _ _ env.toEnv) hkeys.indexed rfl
  · rcases handleType1Route_tracked hkeys hsafe himport hr hkey hq with ⟨hold, -⟩ | ⟨hk, -, hpath⟩
    · exact hkeys.esi k q hold
    · obtain ⟨esi, hesi, -⟩ := map_eq_some_iff.mp hpath
      rw [hk, show (type1Key r).esi = r.esi from rfl, hesi]
      rfl
  · rw [hl2] at hoff
    cases hoff

end Imported

/-! ### The step and the runs -/

/-- **One update keeps the law**, whatever calls fail meanwhile. -/
theorem processRouteUpdate_current (hcur : Current cfg txt ⟨s, h⟩) (hkeys : KeysOk cfg txt s)
    (hsafe : SafeUpdate cfg txt ⟨s, h⟩ p) :
    Current cfg txt ⟨s.processRouteUpdate cfg txt env p, p :: h⟩ ∧
      KeysOk cfg txt (s.processRouteUpdate cfg txt env p) := by
  unfold OverlayTier.processRouteUpdate
  split
  next hskip =>
    -- The tracked keys are those whose updates are imported.
    exact ⟨hcur.ignored rfl rfl fun key hkey htrack =>
      hskip (hsafe.replaces key hkey htrack).1, hkeys⟩
  next himport =>
    split
    next r hr => grind [processType5Update_current]
    next r hr =>
      split
      next hl2 => grind [handleType2Update_current]
      next hl2 =>
        refine ⟨hcur.ignored rfl rfl fun key hkey htrack => ?_, hkeys⟩
        rw [show p.routeKey = some (.type2 (type2Key r)) by simp [routeKey, hr]] at hkey
        cases hkey
        obtain ⟨mac, q, hq⟩ := htrack
        rw [(hkeys.layer2 (Bool.eq_false_iff.mpr hl2)).2 mac] at hq
        cases hq
    next r hr =>
      split
      next hl2 => grind [handleType1Route_current]
      next hl2 =>
        refine ⟨hcur.ignored rfl rfl fun key hkey htrack => ?_, hkeys⟩
        rw [show p.routeKey = some (.type1 (type1Key r)) by simp [routeKey, hr]] at hkey
        cases hkey
        obtain ⟨q, hq⟩ := htrack
        rw [(hkeys.layer2 (Bool.eq_false_iff.mpr hl2)).1] at hq
        cases hq
    next r hr =>
      have hnone : p.routeKey = none := by simp [routeKey, hr]
      have hnot : ∀ key, p.routeKey = some key → ¬ s.Tracks key := by simp [hnone]
      split
      · exact ⟨hcur.ignored rfl rfl hnot, { hkeys with }⟩
      · exact ⟨hcur.ignored rfl rfl hnot, hkeys⟩
    next hr =>
      have hnone : p.routeKey = none := by simp [routeKey, hr]
      exact ⟨hcur.ignored rfl rfl (by simp [hnone]), hkeys⟩

theorem current_empty (cfg : Config) (txt : NetText) : Current cfg txt ⟨.empty, []⟩ :=
  ⟨fun _ _ hq => (by cases hq), fun _ _ _ hq => (by cases hq), fun _ _ _ hq => (by cases hq)⟩

theorem keysOk_empty (cfg : Config) (txt : NetText) : KeysOk cfg txt .empty :=
  ⟨L2.indexed_empty txt, fun _ _ hq => (by cases hq), fun _ => ⟨fun _ => rfl, fun _ _ => rfl⟩,
    fun _ _ _ hq => (by cases hq)⟩

/-- **No superseded path.** After every run of updates that the overlay takes where it tracks their
    key, every tracked path is the one that the most recent update of its key announced,
    with an import route target and a usable next hop. -/
theorem tracked_paths_are_current {w : Watched}
    (hw : (watchMachine cfg txt).Reaches (fun w u => SafeUpdate cfg txt w u.path) w) :
    Current cfg txt w := by
  have hboth : Current cfg txt w ∧ KeysOk cfg txt w.tier := by
    refine hw.invariant (I := fun w => Current cfg txt w ∧ KeysOk cfg txt w.tier)
      ⟨current_empty cfg txt, keysOk_empty cfg txt⟩ ?_
    rintro w w' u ⟨hcur, hkeys⟩ hsafe hstep
    cases hstep
    exact processRouteUpdate_current hcur hkeys hsafe
  exact hboth.1

end Steps

/-- An announcement of 10.1.0.0/16 by 10.0.0.2 with a route target. -/
def announceTarget (asn vni : Nat) : RouteUpdate :=
  ⟨⟨false, .ipPrefix ⟨"a", ⟨0, []⟩, 0, "10.1.0.0", 16, "", 100⟩,
    [.mpReach ["10.0.0.2"], .extendedCommunities [.twoOctetAs rtSubType asn vni]]⟩, .working⟩

/-- The first announcement of a route is tracked, and it is the most recent one. -/
theorem firstAnnouncement_tracked :
    ∃ w, (watchMachine sampleConfig sampleText).Reaches
        (fun w u => SafeUpdate sampleConfig sampleText w u.path) w ∧
      w.tier.Tracks (.type5 ⟨"a", 0, "10.1.0.0", 16⟩) ∧ Current sampleConfig sampleText w := by
  let w₁ := watchStep sampleConfig sampleText ⟨.empty, []⟩ (announceTarget 65000 100)
  have hsafe : SafeUpdate sampleConfig sampleText ⟨.empty, []⟩ (announceTarget 65000 100).path := by
    refine ⟨fun key hkey htrack => ?_, fun _ _ _ _ => by decide +kernel⟩
    cases hkey
    obtain ⟨dst, q, hq⟩ := htrack
    cases hq
  have hrun : (watchMachine sampleConfig sampleText).Reaches
      (fun w u => SafeUpdate sampleConfig sampleText w u.path) w₁ :=
    .step (a := announceTarget 65000 100) .start hsafe rfl
  have htracked :
      ((w₁.tier.t5.pathsOf samplePrefix).get ⟨"a", 0, "10.1.0.0", 16⟩).isSome = true := by
    decide +kernel
  obtain ⟨q, hq⟩ := isSome_iff_exists.mp htracked
  exact ⟨w₁, hrun, ⟨samplePrefix, q, hq⟩, tracked_paths_are_current hrun⟩

/-- **A superseded path in use.** The route is announced with the import route target and then,
    under the same key, with another one: the second update is not imported, and the first path
    stays tracked. -/
theorem mismatchedUpdate_keepsPath :
    ∃ w, (watchMachine sampleConfig sampleText).Reaches (fun _ _ => True) w ∧
      w.tier.Tracks (.type5 ⟨"a", 0, "10.1.0.0", 16⟩) ∧
      w.latest (.type5 ⟨"a", 0, "10.1.0.0", 16⟩) = some (announceTarget 65000 200).path ∧
      ¬ (announceTarget 65000 200).path.Announced sampleConfig sampleText ∧
      ¬ Current sampleConfig sampleText w := by
  let w₁ := watchStep sampleConfig sampleText ⟨.empty, []⟩ (announceTarget 65000 100)
  let w₂ := watchStep sampleConfig sampleText w₁ (announceTarget 65000 200)
  have hrun : (watchMachine sampleConfig sampleText).Reaches (fun _ _ => True) w₂ :=
    .step (a := announceTarget 65000 200)
      (.step (a := announceTarget 65000 100) .start trivial rfl) trivial rfl
  have htracked :
      ((w₂.tier.t5.pathsOf samplePrefix).get ⟨"a", 0, "10.1.0.0", 16⟩).isSome = true := by
    decide +kernel
  have hlatest : w₂.latest (.type5 ⟨"a", 0, "10.1.0.0", 16⟩) =
      some (announceTarget 65000 200).path := by
    decide +kernel
  have hnot : ¬ (announceTarget 65000 200).path.Announced sampleConfig sampleText := by
    rintro ⟨-, ⟨asn, vni, htarget, hmatch⟩, -⟩
    -- Without import route targets the configured one is 65000:100.
    cases htarget
    exact absurd hmatch (by decide +kernel)
  obtain ⟨q, hq⟩ := isSome_iff_exists.mp htracked
  refine ⟨w₂, hrun, ⟨samplePrefix, q, hq⟩, hlatest, hnot, fun hcur => ?_⟩
  obtain ⟨u, r, hu, -, hann, -⟩ := hcur.type5 _ _ _ hq
  cases hu
  exact hnot hann

end Booty.Gobgp
