import Booty.Gobgp.LiveRoutes
import Booty.Gobgp.Type5Routes

namespace Booty.Gobgp

open Booty.Lib L2 Option OverlayTier Type5

/-!
# Kernel routes follow the live Type-5 paths

The law of `Type5Routes` over runs of the overlay, in which Type-2 updates come between the Type-5
updates and resolve the gateway IPs.

* `Installable` — what it takes to install a path, in terms of the live routes.
* `overlayStep_follows` — one update keeps the law.
* `kernel_routes_follow_paths` — the law over runs.
* `replacedPath_staysInstalled` — an update of the installed path that cannot be installed leaves
  the old route.
-/

section Law

variable {cfg : Config} {txt : NetText} {s s' : OverlayTier} {e : OverlayEvent} {dst : IPNet}
  {p : Type5Path} {gw : Gateway}

/-! ### The law -/

/-- A path can be installed through `gw`: its VTEP and its gateway parse, and a gateway IP overlay
    index is resolved by a live Type-2 route. -/
structure Installable (cfg : Config) (txt : NetText) (s : OverlayTier) (dst : IPNet) (p : Type5Path)
    (gw : Gateway) : Prop where
  vtep : ∃ ip, txt.parseIP p.vtep = some ip
  gateway : routeGateway txt dst p.route p.vtep = some gw
  resolved : ∀ g, type5OverlayGateway txt p.route = some g →
    cfg.resolveOverlayIndex = true ∧ cfg.enableL2 = true ∧ ∃ mac, s.l2.RouteWithIP g mac

/-- A live path of the prefix can be installed through `gw`. -/
def LiveThrough (cfg : Config) (txt : NetText) (s : OverlayTier) (dst : IPNet) (gw : Gateway) :
    Prop :=
  ∃ k p, (s.t5.pathsOf dst).get k = some p ∧ Installable cfg txt s dst p gw

/-- **The kernel routes follow the live paths.** -/
structure RoutesFollow (cfg : Config) (txt : NetText) (s : OverlayTier) : Prop where
  installed : ∀ dst, (∃ gw, s.t5.routes.get dst = some gw) ↔ ∃ gw, LiveThrough cfg txt s dst gw
  gateway : ∀ dst gw, s.t5.routes.get dst = some gw → LiveThrough cfg txt s dst gw
  withdrawn : ∀ dst, (∀ k, (s.t5.pathsOf dst).get k = none) → s.t5.routes.get dst = none

/-- The code's checks of a path ask for the same. -/
theorem installs_iff (h : s.l2.Indexed txt) (env : Type5Env) :
    installs cfg txt (env.seeing s.l2) dst p = some gw ↔ Installable cfg txt s dst p gw := by
  have hres : gatewayResolved cfg txt (env.seeing s.l2) p.route = true ↔
      ∀ g, type5OverlayGateway txt p.route = some g →
        cfg.resolveOverlayIndex = true ∧ cfg.enableL2 = true ∧ ∃ mac, s.l2.RouteWithIP g mac := by
    unfold gatewayResolved
    cases type5OverlayGateway txt p.route with
    | none => simp
    | some g =>
      show (cfg.resolveOverlayIndex && cfg.enableL2 && s.l2.type2HasIP g) = true ↔ _
      rw [Bool.and_eq_true, type2HasIP_iff h]
      simp [and_assoc]
  unfold installs
  constructor
  · intro hi
    split at hi
    next hc => exact ⟨isSome_iff_exists.mp hc.1, hi, hres.mp hc.2⟩
    next => cases hi
  · intro hi
    rw [if_pos ⟨isSome_iff_exists.mpr hi.vtep, hres.mpr hi.resolved⟩]
    exact hi.gateway

/-- The invariant: the index of IPs is exact, and every prefix is in order. -/
structure Follows (cfg : Config) (txt : NetText) (s : OverlayTier) : Prop where
  indexed : s.l2.Indexed txt
  ok : ∀ (env : Type5Env) d, (s.t5.view d).Ok cfg txt (env.seeing s.l2) d

/-- The order of a prefix does not depend on the kernel calls. -/
theorem ok_seeing {v : PrefixView} {l2 : L2} (env env' : Type5Env)
    (h : v.Ok cfg txt (env.seeing l2) dst) : v.Ok cfg txt (env'.seeing l2) dst := { h with }

theorem follows_empty (cfg : Config) (txt : NetText) : Follows cfg txt .empty := by
  refine ⟨indexed_empty txt, fun env d => ⟨fun k p hp => ?_, fun k hk => ?_, fun _ => rfl, ?_⟩⟩
  · cases hp
  · cases hk
  · intro _ k p hp
    cases hp

/-- The invariant gives the law. -/
theorem Follows.routesFollow (h : Follows cfg txt s) : RoutesFollow cfg txt s := by
  -- A kernel route is that of the installed path, which is live.
  have hgateway : ∀ dst gw, s.t5.routes.get dst = some gw → LiveThrough cfg txt s dst gw := by
    intro dst gw hgw
    have hok := h.ok .working dst
    cases hact : s.t5.active.get dst with
    | none =>
      have hnone : s.t5.routes.get dst = none := hok.idle hact
      rw [hnone] at hgw
      cases hgw
    | some k =>
      obtain ⟨p, gw', hp, hi, hr⟩ := hok.installed k hact
      have hr : s.t5.routes.get dst = some gw' := hr
      rw [hgw] at hr
      cases hr
      exact ⟨k, p, hp, (installs_iff h.indexed _).mp hi⟩
  refine ⟨fun dst => ⟨fun ⟨gw, hgw⟩ => ⟨gw, hgateway dst gw hgw⟩, ?_⟩, hgateway,
    fun dst hnone => ?_⟩
  · rintro ⟨gw, k, p, hp, hi⟩
    have hok := h.ok .working dst
    cases hact : s.t5.active.get dst with
    | none =>
      have hi := (installs_iff h.indexed .working).mpr hi
      rw [hok.complete hact k p hp] at hi
      cases hi
    | some k =>
      obtain ⟨p, gw', -, -, hr⟩ := hok.installed k hact
      exact ⟨gw', hr⟩
  · cases hr : s.t5.routes.get dst with
    | none => rfl
    | some gw =>
      obtain ⟨k, p, hp, -⟩ := hgateway dst gw hr
      rw [hnone k] at hp
      cases hp

/-! ### Steps -/

/-- All kernel calls of the update work, and the FIB writer owns no prefix. -/
def OverlayEvent.CallsWork : OverlayEvent → Prop
  | .type1 _ _ _ _ env | .type2 _ _ _ _ _ _ env | .type5 _ _ _ _ _ _ env =>
    env.Works ∧ ∀ d, env.fibOwns d = false
  | .type3 _ _ _ _ env => ∀ n, env.fails n = false

/-- An announcement of an installed path can be installed. -/
def SafeType5 (cfg : Config) (txt : NetText) (s : OverlayTier) : OverlayEvent → Prop
  | .type5 route vtep routerMAC valid withdraw _ env =>
    s.t5.SafeAnnounce cfg txt (env.seeing s.l2) route vtep routerMAC valid withdraw
  | _ => True

/-- While gateway IPs are not resolved the Type-2 routes do not matter. -/
theorem ok_unresolving {v : PrefixView} {env env' : Type5Env}
    (hoff : cfg.resolveOverlayIndex = false) (h : v.Ok cfg txt env dst) :
    v.Ok cfg txt env' dst := by
  have hsame : installs cfg txt env' dst = installs cfg txt env dst := by
    funext p
    unfold installs gatewayResolved
    rw [hoff]
    rfl
  refine ⟨h.keyed, fun k hk => ?_, h.idle, fun hc k p hp => ?_⟩
  · rw [hsame]
    exact h.installed k hk
  · rw [hsame]
    exact h.complete hc k p hp

/-- **A Type-2 update** changes the Type-2 routes of one IP, and the prefixes through this IP are
    resolved again. -/
theorem handleType2Update_follows (h : Follows cfg txt s) {env : Type5Env} (hw : env.Works)
    (hfib : ∀ d, env.fibOwns d = false) (route : Type2Route) (vtep : String) (seq : BitVec 32)
    (sticky router withdraw : Bool) :
    Follows cfg txt (s.handleType2Update cfg txt env route vtep seq sticky router withdraw) := by
  unfold handleType2Update
  cases hc : type2Change cfg txt route vtep seq sticky router withdraw with
  | none => exact h
  | some c =>
    have hargs := type2Change_args hc
    have hindexed : (s.l2.updateType2 txt env.toEnv c.1 (type2Key route)
        (type2IP txt route.ipAddress) c.2).Indexed txt :=
      (syncType2FDB_kept c.1).toRoutesKept.indexed (routeType2_indexed h.indexed hargs)
    have hsame : ∀ g, type2IP txt route.ipAddress ≠ some g →
        (s.l2.updateType2 txt env.toEnv c.1 (type2Key route) (type2IP txt route.ipAddress)
          c.2).type2HasIP g = s.l2.type2HasIP g := by
      intro g hne
      unfold updateType2 type2HasIP
      rw [(syncType2FDB_kept c.1).type2IPMACs]
      exact routeType2_type2HasIP hargs hne
    dsimp only
    generalize s.l2.updateType2 txt env.toEnv c.1 (type2Key route) (type2IP txt route.ipAddress)
      c.2 = l2 at hindexed hsame ⊢
    unfold resolveAfter
    cases hip : type2IP txt route.ipAddress with
    | none =>
      -- The index is the same for every IP.
      rw [hip] at hsame
      refine ⟨hindexed, fun env' d => ?_⟩
      have hall : l2.type2HasIP = s.l2.type2HasIP := funext fun g => hsame g nofun
      show (s.t5.view d).Ok cfg txt { env' with type2HasIP := l2.type2HasIP } d
      rw [hall]
      exact h.ok env' d
    | some ip =>
      rw [hip] at hsame
      dsimp only
      split
      next hon =>
        refine ⟨hindexed, fun env' d => ok_seeing env env' ?_⟩
        have hw : (env.seeing l2).Works := hw
        refine resolveType5Gateway_ok hw hfib (h.ok env) ?_ d
        intro g hne
        exact hsame g fun hc => hne (some.inj hc).symm
      next hoff =>
        exact ⟨hindexed, fun env' d => ok_unresolving (Bool.eq_false_iff.mpr hoff) (h.ok env' d)⟩

/-- **One update keeps the law.** -/
theorem overlayStep_follows (h : Follows cfg txt s) (hcalls : e.CallsWork)
    (hsafe : SafeType5 cfg txt s e)
    (hs : overlayStep cfg txt s e = some s') : Follows cfg txt s' := by
  cases e with
  | type1 route vtep singleActive withdraw env =>
    cases hs
    have hkept := (handleType1Route_rest cfg txt env.toEnv s.l2 route vtep singleActive withdraw).2
    refine ⟨l2Step_indexed (e := .type1 route vtep singleActive withdraw env.toEnv) h.indexed rfl,
      fun env' d => ?_⟩
    have hall : (s.l2.handleType1Route cfg txt env.toEnv route vtep singleActive
        withdraw).type2HasIP = s.l2.type2HasIP := by
      unfold type2HasIP
      rw [hkept]
    show (s.t5.view d).Ok cfg txt { env' with type2HasIP := type2HasIP _ } d
    rw [hall]
    exact h.ok env' d
  | type2 route vtep seq sticky router withdraw env =>
    cases hs
    exact handleType2Update_follows h hcalls.1 hcalls.2 route vtep seq sticky router withdraw
  | type3 path route vtep withdraw env =>
    cases hs
    exact ⟨h.indexed, h.ok⟩
  | type5 route vtep routerMAC valid withdraw converted env =>
    cases hs
    have hw : (env.seeing s.l2).Works := hcalls.1
    refine ⟨h.indexed, fun env' d => ok_seeing env env' ?_⟩
    exact handleType5Update_ok hw hcalls.2 (h.ok env) converted hsafe d

/-- **The kernel has a route of a prefix exactly when one of its live paths can be installed**,
    through the gateway of such a path, after every run in which announcements of an installed path
    can be installed. -/
theorem kernel_routes_follow_paths
    (h : (overlayMachine cfg txt).Reaches (fun s e => e.CallsWork ∧ SafeType5 cfg txt s e) s) :
    RoutesFollow cfg txt s := by
  refine Follows.routesFollow ?_
  refine Machine.Reaches.invariant (I := fun s => Follows cfg txt s) h (follows_empty cfg txt) ?_
  intro s e s' hi hok hs
  exact overlayStep_follows hi hok.1 hok.2 hs

end Law

/-! ### Sample runs -/

/-- The prefix 10.1.0.0/16. -/
def samplePrefix : IPNet := ⟨.ofV4 0x0a010000, 16⟩

/-- A Type-5 announcement of the prefix by 10.0.0.2. -/
def announcePrefix (gwAddress : String) : OverlayEvent :=
  .type5 ⟨"a", ⟨0, []⟩, 0, "10.1.0.0", 16, gwAddress, 100⟩ "10.0.0.2" [] true false false .working

/-- A Type-2 announcement of the host 10.9.0.1 behind 10.0.0.2. -/
def announceHost : OverlayEvent :=
  .type2 ⟨"a", ⟨0, []⟩, 0, "02:00:00:00:00:01", "10.9.0.1"⟩ "10.0.0.2" 0 false false false .working

/-- A gateway IP is announced before its host: the prefix is installed with the Type-2 route. -/
theorem resolvedPrefix_installed :
    ∃ s, (overlayMachine sampleConfig sampleText).Reaches
        (fun s e => e.CallsWork ∧ SafeType5 sampleConfig sampleText s e) s ∧
      s.t5.routes.get samplePrefix = some (.v4 0x0a090001) ∧
      LiveThrough sampleConfig sampleText s samplePrefix (.v4 0x0a090001) := by
  let s₁ := (overlayStep sampleConfig sampleText .empty (announcePrefix "10.9.0.1")).getD .empty
  let s₂ := (overlayStep sampleConfig sampleText s₁ announceHost).getD .empty
  have hsafe : SafeType5 sampleConfig sampleText .empty (announcePrefix "10.9.0.1") := by
    intro _ dst _ hact
    have hact : (∅ : GoMap IPNet Type5Key).get dst = some _ := hact
    cases hact
  have hrun : (overlayMachine sampleConfig sampleText).Reaches
      (fun s e => e.CallsWork ∧ SafeType5 sampleConfig sampleText s e) s₂ :=
    .step (a := announceHost)
      (.step (a := announcePrefix "10.9.0.1") .start ⟨⟨working_works, fun _ => rfl⟩, hsafe⟩ rfl)
      ⟨⟨working_works, fun _ => rfl⟩, trivial⟩ rfl
  have hroute : s₂.t5.routes.get samplePrefix = some (.v4 0x0a090001) := by decide +kernel
  exact ⟨s₂, hrun, hroute, (kernel_routes_follow_paths hrun).gateway _ _ hroute⟩

/-- **The replaced path stays installed.** The prefix is installed through 10.0.0.2; then its route
    is announced again with the gateway IP 10.9.0.1, for which there is no Type-2 route.  The only
    live path cannot be installed, and the kernel route through 10.0.0.2 stays. -/
theorem replacedPath_staysInstalled :
    ∃ s, (overlayMachine sampleConfig sampleText).Reaches (fun _ e => e.CallsWork) s ∧
      s.t5.routes.get samplePrefix = some (.v4 0x0a000002) ∧
      ¬ RoutesFollow sampleConfig sampleText s := by
  let s₁ := (overlayStep sampleConfig sampleText .empty (announcePrefix "")).getD .empty
  let s₂ := (overlayStep sampleConfig sampleText s₁ (announcePrefix "10.9.0.1")).getD .empty
  have hrun : (overlayMachine sampleConfig sampleText).Reaches (fun _ e => e.CallsWork) s₂ :=
    .step (a := announcePrefix "10.9.0.1")
      (.step (a := announcePrefix "") .start ⟨working_works, fun _ => rfl⟩ rfl)
      ⟨working_works, fun _ => rfl⟩ rfl
  have hroute : s₂.t5.routes.get samplePrefix = some (.v4 0x0a000002) := by decide +kernel
  refine ⟨s₂, hrun, hroute, fun h => ?_⟩
  obtain ⟨k, p, hp, hi⟩ := h.gateway samplePrefix _ hroute
  let route : Type5Route := ⟨"a", ⟨0, []⟩, 0, "10.1.0.0", 16, "10.9.0.1", 100⟩
  have hpaths : s₂.t5.pathsOf samplePrefix =
      (∅ : GoMap Type5Key Type5Path).set (type5PathKey route)
        ⟨type5PathKey route, route, "10.0.0.2", [], true⟩ := by
    apply AList.ext
    decide +kernel
  rw [hpaths, GoMap.get_set] at hp
  split at hp
  · -- The path is the new one, and no Type-2 route is live.
    cases hp
    obtain ⟨-, -, mac, k, q, hq, -⟩ := hi.resolved (.ofV4 0x0a090001) (by decide +kernel)
    cases hq
  · cases hp

end Booty.Gobgp
