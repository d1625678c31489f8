import Booty.Gobgp.Overlay

namespace Booty.Gobgp

open Booty.Lib List Option GoMap

/-!
# One prefix and its kernel route

With working kernel calls and no prefix of the FIB writer, a prefix has a kernel route exactly when
one of its live paths can be installed, and the route goes through the gateway of such a path.  All
that the code knows of one prefix is its `PrefixView`; every change of a prefix leaves the others
alone.

* `applyType5PathDetailed_installs`, `applyType5PathDetailed_idle` — what one path does.
* `PrefixView.Ok` — the law for one prefix.
* `addType5Path_change`, `withdrawType5Path_change`, `resolveType5Prefix_ok` — the changes of a
  prefix keep the law for it.
* `resolveType5Gateway_ok`, `handleType5Update_change` — the law for all prefixes after an update.
-/

/-- The prefix of the route. -/
abbrev Type5Route.IsFor (route : Type5Route) (txt : NetText) (dst : IPNet) : Prop :=
  parsePrefixRoute txt route.ipPrefix route.ipPrefixLen = some dst

/-- All kernel calls work. -/
def Type5Env.Works (env : Type5Env) : Prop := ∀ n, env.fails n = false

/-- Calls that all work, without a FIB writer and without Type-2 neighbors. -/
def Type5Env.working : Type5Env := ⟨.working, fun _ => false, fun _ => false, fun _ => false⟩

theorem working_works : Type5Env.working.Works := fun _ => rfl

namespace Type5

variable {cfg : Config} {txt : NetText} {env : Type5Env} {s s' : Type5} {dst : IPNet}
  {p : Type5Path} {gw : Gateway}

/-! ### Working calls -/

/-- A kernel call has been made. -/
def did (s : Type5) (f : Type5 → Type5) : Type5 := { f s with calls := s.calls + 1 }

theorem call_did {f : Type5 → Type5} (hw : env.Works) : s.call env f = (false, s.did f) :=
  if_neg (by rw [hw]; exact Bool.false_ne_true)

/-- `LinkByName` works. -/
theorem linkByName_did (hw : env.Works) : s.linkByName env = (false, s.did id) := call_did hw

variable {mac : Mac}

/-- The FDB entry of a gateway is set. -/
theorem gatewayFDB_works (hw : env.Works) {vtep : Option Ip} {a : BitVec 32}
    (hlen : mac.length = ethernetMACLength) (ha : vtep.bind Ip.to4 = some a) :
    s.gatewayFDB env vtep mac = (some a, s.did id) := by
  unfold gatewayFDB
  rw [linkByName_did hw]
  dsimp only
  rw [if_neg (by simp [hlen]), ha]

/-- The gateway state is made when the VTEP of a gateway neighbor is an IPv4 address. -/
theorem setType5GatewayNeighbor_ok (hw : env.Works) {vtep : Option Ip}
    (hv4 : hasGatewayNeighbor gw mac = true → ∃ a, vtep.bind Ip.to4 = some a) :
    (s.setType5GatewayNeighbor env dst gw vtep mac).1 = true := by
  unfold setType5GatewayNeighbor
  by_cases hneigh : hasGatewayNeighbor gw mac = true
  · obtain ⟨a, ha⟩ := hv4 hneigh
    have hlen : mac.length = ethernetMACLength := by
      exact of_decide_eq_true (Bool.and_eq_true_iff.mp hneigh).1
    have hset : ∃ s₁, (s.did id).setNeighbor env gw mac = (false, s₁) := by
      unfold setNeighbor
      split
      · exact ⟨_, rfl⟩
      · exact ⟨_, call_did hw⟩
    obtain ⟨s₁, hs1⟩ := hset
    rw [hneigh, gatewayFDB_works hw hlen ha]
    dsimp only
    rw [hs1]
    unfold fdbSet
    rw [call_did hw]
    rfl
  · rw [Bool.eq_false_iff.mpr hneigh]
    rfl

variable {valid : Bool}

/-- The gateway state is set. -/
theorem setGatewayState_ok (hw : env.Works) {st : RouteState}
    (hv4 : hasGatewayNeighbor st.gw mac = true → ∃ a, st.vtep.bind Ip.to4 = some a) :
    (s.setGatewayState env st mac valid).1 = true := by
  unfold setGatewayState
  split
  · rfl
  · grind [setType5GatewayNeighbor_ok]

/-! ### One path -/

/-- The gateway through which a path can be installed now. -/
def installs (cfg : Config) (txt : NetText) (env : Type5Env) (dst : IPNet) (p : Type5Path) :
    Option Gateway :=
  if (txt.parseIP p.vtep).isSome ∧ gatewayResolved cfg txt env p.route = true then
    routeGateway txt dst p.route p.vtep
  else none

/-- What it needs to install a path. -/
theorem installs_gateway (h : installs cfg txt env dst p = some gw) :
    (txt.parseIP p.vtep).isSome ∧ gatewayResolved cfg txt env p.route = true ∧
      routeGateway txt dst p.route p.vtep = some gw := by
  unfold installs at h
  split at h
  next hc => exact ⟨hc.1, hc.2, h⟩
  next => cases h

variable {route : Type5Route} {vtep : String}

/-- Without a gateway IP the gateway is the VTEP, so a gateway with a neighbor entry has an IPv4
    VTEP. -/
theorem routeGateway_v4 {vtepIP : Ip}
    (hgw : routeGateway txt dst route vtep = some gw) (hip : txt.parseIP vtep = some vtepIP)
    (hnone : type5OverlayGateway txt route = none) (hneigh : hasGatewayNeighbor gw mac = true) :
    ∃ a, vtepIP.to4 = some a := by
  unfold routeGateway at hgw
  dsimp only at hgw
  have hvtep : type5Gateway dst vtepIP = some gw := by
    split at hgw
    next => rw [hip] at hgw; exact hgw
    next hset =>
      -- A gateway address that parses and is not unspecified is an overlay index.
      cases hg : txt.parseIP route.gwAddress with
      | none => rw [hg] at hgw; cases hgw
      | some g =>
        unfold type5OverlayGateway at hnone
        rw [hg] at hnone hset
        exact absurd (by simpa using hnone) (fun hc => hset (.inr (by simpa using hc)))
  unfold type5Gateway at hvtep
  split at hvtep
  · aesop
  · cases hvtep
    exact isSome_iff_exists.mp (Bool.and_eq_true_iff.mp hneigh).2

/-- The state after a path was installed through `gw`: only the route of the prefix and the gateway
    state changed, the latter as for this path. -/
structure Installed (txt : NetText) (env : Type5Env) (s s' : Type5) (dst : IPNet) (p : Type5Path)
    (gw : Gateway) : Prop where
  paths : s'.paths = s.paths
  active : s'.active = s.active
  routes : s'.routes = s.routes.set dst gw
  gateways : ∃ s₁ : Type5, s₁.gateways = s.gateways ∧ s'.gateways =
    (s₁.setGatewayState env ⟨dst, gw, txt.parseIP p.vtep⟩ (usedMAC txt p)
      (usedValid txt p)).2.gateways

/-- Nothing but the number of kernel calls changed. -/
structure Same (s s' : Type5) : Prop where
  frame : RouteFrame s s'
  gateways : s'.gateways = s.gateways

theorem Same.refl (s : Type5) : Same s s := ⟨.refl s, rfl⟩

variable {s₁ : Type5}

theorem Same.trans {s2 s3 : Type5} (h : Same s₁ s2) (h' : Same s2 s3) : Same s₁ s3 :=
  ⟨h.frame.trans h'.frame, h'.gateways.trans h.gateways⟩

theorem same_did_id (s : Type5) : Same s (s.did id) := ⟨⟨rfl, rfl, rfl⟩, rfl⟩

theorem pathsOf_congr (h : s'.paths = s.paths) (d : IPNet) : s'.pathsOf d = s.pathsOf d := by
  unfold Type5.pathsOf
  rw [h]

theorem Same.pathsOf {s2 : Type5} (h : Same s₁ s2) (d : IPNet) : s2.pathsOf d = s₁.pathsOf d :=
  pathsOf_congr h.frame.paths d

/-- The state of a route: its prefix and its gateway, when they parse. -/
theorem type5RouteState_works (hw : env.Works) (vtep : String)
    (vtepIP : Option Ip) (hp : route.IsFor txt dst) :
    ∃ s', s.type5RouteState txt env route vtep vtepIP =
        ((routeGateway txt dst route vtep).map (fun gw => ⟨dst, gw, vtepIP⟩), s') ∧ Same s s' := by
  unfold type5RouteState
  rw [hp]
  cases hgw : routeGateway txt dst route vtep with
  | none => exact ⟨s, by dsimp only; rw [hgw]; rfl, .refl s⟩
  | some gw =>
    refine ⟨s.did id, ?_, same_did_id s⟩
    dsimp only
    rw [hgw, linkByName_did hw]
    rfl

/-- **A path that can be installed is installed.** -/
theorem applyType5PathDetailed_installs (hw : env.Works) (hp : p.route.IsFor txt dst)
    (hi : installs cfg txt env dst p = some gw) :
    ∃ s', s.applyType5PathDetailed cfg txt env p = ((true, true), s') ∧
      Installed txt env s s' dst p gw := by
  obtain ⟨hvtep, hres, hi⟩ := installs_gateway hi
  obtain ⟨vtepIP, hip⟩ := isSome_iff_exists.mp hvtep
  have hvtep : s.ensureType5VTEP txt env p.vtep = (some vtepIP, s.did id) := by
    unfold ensureType5VTEP
    rw [hip]
    rw [linkByName_did hw]
    rfl
  obtain ⟨s2, hstate, hsame⟩ := type5RouteState_works (s := s.did id) hw p.vtep (some vtepIP) hp
  rw [hi] at hstate
  have hsame : Same s s2 := (same_did_id s).trans hsame
  let s3 := s2.did (fun s => { s with routes := s.routes.set dst gw })
  let st : RouteState := ⟨dst, gw, some vtepIP⟩
  have hok : (s3.setGatewayState env st (usedMAC txt p) (usedValid txt p)).1 = true := by
    refine setGatewayState_ok hw fun hneigh => ?_
    cases hov : type5OverlayGateway txt p.route with
    | none => exact routeGateway_v4 hi hip hov hneigh
    | some g =>
      -- Without a router MAC there is no neighbor entry.
      simp_all [usedMAC, hasGatewayNeighbor, ethernetMACLength]
  have hframe : RouteFrame s3 (s3.setGatewayState env st (usedMAC txt p) (usedValid txt p)).2 :=
    setGatewayState_frame st _ _
  refine ⟨(s3.setGatewayState env st (usedMAC txt p) (usedValid txt p)).2, ?_, ?_, ?_, ?_, s3,
    hsame.gateways, ?_⟩
  · unfold applyType5PathDetailed
    rw [hvtep]
    dsimp only
    rw [hres, hstate]
    dsimp only [map_some]
    unfold installType5RouteDetailed routeReplace
    rw [call_did hw]
    exact congrArg (fun b => ((b, true), _)) hok
  · exact hframe.paths.trans hsame.frame.paths
  · exact hframe.active.trans hsame.frame.active
  · rw [hframe.routes]
    show s2.routes.set dst gw = _
    rw [hsame.frame.routes]
  · rw [hip]

/-- **A path that cannot be installed changes nothing.** -/
theorem applyType5PathDetailed_idle (hw : env.Works) (hp : p.route.IsFor txt dst)
    (hi : installs cfg txt env dst p = none) :
    ∃ s', s.applyType5PathDetailed cfg txt env p = ((false, false), s') ∧ Same s s' := by
  unfold applyType5PathDetailed ensureType5VTEP
  cases hip : txt.parseIP p.vtep with
  | none => exact ⟨s, rfl, .refl s⟩
  | some vtepIP =>
    dsimp only
    rw [linkByName_did hw]
    rw [if_neg Bool.false_ne_true]
    by_cases hres : gatewayResolved cfg txt env p.route = true
    · have hgw : routeGateway txt dst p.route p.vtep = none := by
        unfold installs at hi
        rw [if_pos ⟨by rw [hip]; rfl, hres⟩] at hi
        exact hi
      obtain ⟨s2, hstate, hsame⟩ := type5RouteState_works (s := s.did id) hw p.vtep (some vtepIP) hp
      rw [hgw] at hstate
      refine ⟨s2, ?_, (same_did_id s).trans hsame⟩
      dsimp only
      rw [hres, hstate]
      rfl
    · refine ⟨s.did id, ?_, same_did_id s⟩
      rw [Bool.eq_false_iff.mpr hres]
      rfl

/-- The loop over the paths of a prefix stops at the first one that can be installed. -/
theorem applyFirst_outcome (cfg : Config) (hw : env.Works) (ps : List Type5Path)
    (hps : ∀ p ∈ ps, p.route.IsFor txt dst) (s : Type5) :
    (∃ p gw s', applyFirst cfg txt env ps s = (some p, s') ∧ p ∈ ps ∧
        installs cfg txt env dst p = some gw ∧ Installed txt env s s' dst p gw) ∨
      ∃ s', applyFirst cfg txt env ps s = (none, s') ∧ Same s s' ∧
        ∀ p ∈ ps, installs cfg txt env dst p = none := by
  induction ps generalizing s with
  | nil => exact .inr ⟨s, rfl, .refl s, fun p hp => absurd hp not_mem_nil⟩
  | cons p ps ih =>
    have hp := hps p mem_cons_self
    cases hi : installs cfg txt env dst p with
    | some gw =>
      obtain ⟨s', hs', hinst⟩ := applyType5PathDetailed_installs (s := s) hw hp hi
      refine .inl ⟨p, gw, s', ?_, mem_cons_self, hi, hinst⟩
      unfold applyFirst
      rw [hs']
    | none =>
      obtain ⟨s₁, hs1, hsame⟩ := applyType5PathDetailed_idle (s := s) hw hp hi
      have hstep : applyFirst cfg txt env (p :: ps) s = applyFirst cfg txt env ps s₁ := by
        rw [applyFirst, hs1]
      rw [hstep]
      rcases ih (fun q hq => hps q (mem_cons_of_mem p hq)) s₁ with
        ⟨q, gw, s', hres, hmem, hiq, hinst⟩ | ⟨s', hres, hsame', hnone⟩
      · refine .inl ⟨q, gw, s', hres, mem_cons_of_mem p hmem, hiq, ?_⟩
        obtain ⟨s2, hs2, hg⟩ := hinst.gateways
        exact ⟨hinst.paths.trans hsame.frame.paths, hinst.active.trans hsame.frame.active,
          by rw [hinst.routes, hsame.frame.routes], s2, hs2.trans hsame.gateways, hg⟩
      · grind [hsame.trans]

/-! ### One prefix -/

/-- All that the code knows of one prefix, and its kernel route. -/
structure PrefixView where
  paths : GoMap Type5Key Type5Path
  active : Option Type5Key
  route : Option Gateway

/-- The view of a state. -/
def view (s : Type5) (dst : IPNet) : PrefixView :=
  ⟨s.pathsOf dst, s.active.get dst, s.routes.get dst⟩

/-- **The law for one prefix**: the installed path is live and can be installed, and the kernel
    route goes through its gateway; without an installed path there is no kernel route, and no live
    path can be installed. -/
structure PrefixView.Ok (cfg : Config) (txt : NetText) (env : Type5Env) (dst : IPNet)
    (v : PrefixView) : Prop where
  keyed : ∀ k p, v.paths.get k = some p →
    p.key = k ∧ parsePrefixRoute txt p.route.ipPrefix p.route.ipPrefixLen = some dst
  installed : ∀ k, v.active = some k → ∃ p gw, v.paths.get k = some p ∧
    installs cfg txt env dst p = some gw ∧ v.route = some gw
  idle : v.active = none → v.route = none
  complete : v.active = none → ∀ k p, v.paths.get k = some p → installs cfg txt env dst p = none

/-- Only one prefix changed. -/
def Elsewhere (dst : IPNet) (s s' : Type5) : Prop := ∀ d, d ≠ dst → s'.view d = s.view d

/-- A change of a prefix that keeps the law for it and leaves the others alone. -/
structure Change (cfg : Config) (txt : NetText) (env : Type5Env) (s s' : Type5) (dst : IPNet) :
    Prop where
  elsewhere : Elsewhere dst s s'
  ok : (s'.view dst).Ok cfg txt env dst

/-! ### Removing a route -/

/-- The route of a prefix is gone, and nothing else changed but the gateway state. -/
structure Removed (s s' : Type5) (dst : IPNet) : Prop where
  paths : s'.paths = s.paths
  active : s'.active = s.active
  routes : ∀ d, s'.routes.get d = if d = dst then none else s.routes.get d

/-- A removal after calls that change nothing. -/
theorem Removed.of_same (h : Removed s₁ s' dst) (hsame : Same s s₁) : Removed s s' dst := by
  refine ⟨h.paths.trans hsame.frame.paths, h.active.trans hsame.frame.active, fun d => ?_⟩
  rw [h.routes, hsame.frame.routes]

theorem Removed.frame (h : Removed s s₁ dst) (hf : RouteFrame s₁ s') : Removed s s' dst := by
  refine ⟨hf.paths.trans h.paths, hf.active.trans h.active, fun d => ?_⟩
  rw [hf.routes]
  exact h.routes d

/-- A delete removes the route of the prefix, if it has one with the gateway. -/
theorem routeDel_cases (dst : IPNet) (hw : env.Works) (g : Option Gateway) :
    (∃ gw s', s.routes.get dst = some gw ∧ g.all (· = gw) = true ∧
        s.routeDel env dst g = (.ok, s') ∧ Removed s s' dst ∧ s'.gateways = s.gateways) ∨
      ∃ s', (∀ gw, s.routes.get dst = some gw → g.all (· = gw) = false) ∧
        s.routeDel env dst g = (.esrch, s') ∧ Same s s' := by
  unfold routeDel
  dsimp only
  cases hany : (s.routes.get dst).any (fun r => g.all (· = r)) with
  | true =>
    obtain ⟨gw, hgw, hg⟩ := (any_eq_true _ _).mp hany
    rw [call_did hw]
    exact .inl ⟨gw, _, hgw, hg, rfl, ⟨rfl, rfl, get_delete s.routes dst⟩, rfl⟩
  | false =>
    rw [call_did hw]
    refine .inr ⟨s.did id, fun gw hgw => ?_, rfl, same_did_id s⟩
    rw [hgw] at hany
    exact hany

/-- `removeType5Prefix` removes the route, if there is one, and the gateway state. -/
theorem removeType5Prefix_works (hw : env.Works) (st : RouteState) :
    Removed s (s.removeType5Prefix env st) st.dst ∧ ∃ s₁ : Type5, s₁.gateways = s.gateways ∧
      (s.removeType5Prefix env st).gateways =
        (s₁.clearType5GatewayNeighbor env st.dst).gateways := by
  have hclear : ∀ s₁ : Type5, RouteFrame s₁ (s₁.clearType5GatewayNeighbor env st.dst) :=
    fun s₁ => clearType5GatewayNeighbor_frame st.dst
  unfold removeType5Prefix
  obtain ⟨gw, s₁, -, -, hdel, hrem, hg⟩ | ⟨s₁, hnone, hdel, hsame⟩ :=
    routeDel_cases (s := s) st.dst hw none
  · rw [hdel]
    exact ⟨hrem.frame (hclear s₁), s₁, hg, rfl⟩
  · rw [hdel]
    have hf := hsame.frame.trans (hclear s₁)
    refine ⟨⟨hf.paths, hf.active, fun d => ?_⟩, s₁, hsame.gateways, rfl⟩
    rw [hf.routes]
    split
    next hd =>
      rw [hd]
      exact eq_none_iff_forall_ne_some.mpr fun gw hgw => by cases hnone gw hgw
    next => rfl

/-! ### How a change ends -/

/-- The records of one prefix were prepared for a change, and nothing was installed or removed
    yet. -/
structure Prepared (dst : IPNet) (s s₁ : Type5) : Prop where
  paths : ∀ d, d ≠ dst → s₁.pathsOf d = s.pathsOf d
  active : ∀ d, d ≠ dst → s₁.active.get d = s.active.get d
  routes : s₁.routes = s.routes
  gateways : s₁.gateways = s.gateways

theorem Prepared.refl (dst : IPNet) (s : Type5) : Prepared dst s s :=
  ⟨fun _ _ => rfl, fun _ _ => rfl, rfl, rfl⟩

theorem Prepared.same {s2 : Type5} (h : Prepared dst s s₁) (h' : Same s₁ s2) :
    Prepared dst s s2 := by
  refine ⟨fun d hd => (h'.pathsOf d).trans (h.paths d hd), fun d hd => ?_,
    h'.frame.routes.trans h.routes, h'.gateways.trans h.gateways⟩
  rw [← h.active d hd, h'.frame.active]

theorem Prepared.forgetActive (h : Prepared dst s s₁) : Prepared dst s (s₁.forgetActive dst) := by
  refine ⟨h.paths, fun d hd => ?_, h.routes, h.gateways⟩
  show (s₁.active.delete dst).get d = _
  rw [get_delete_of_ne hd]
  exact h.active d hd

/-- No path is installed then. -/
theorem forgetActive_idle (s : Type5) (dst : IPNet) : (s.forgetActive dst).active.get dst = none :=
  get_delete_self _ _

theorem Prepared.elsewhere (h : Prepared dst s s₁) : Elsewhere dst s s₁ := by
  intro d hd
  show PrefixView.mk _ _ _ = PrefixView.mk _ _ _
  rw [h.paths d hd, h.active d hd, h.routes]

/-- The live paths of a prefix belong to it. -/
def Keyed (txt : NetText) (dst : IPNet) (paths : GoMap Type5Key Type5Path) : Prop :=
  ∀ k p, paths.get k = some p →
    p.key = k ∧ parsePrefixRoute txt p.route.ipPrefix p.route.ipPrefixLen = some dst

/-- No path of the prefix counts as installed, and none can be. -/
structure Idle (cfg : Config) (txt : NetText) (env : Type5Env) (dst : IPNet) (s : Type5) :
    Prop where
  keyed : Keyed txt dst (s.pathsOf dst)
  active : s.active.get dst = none
  barred : ∀ k q, (s.pathsOf dst).get k = some q → installs cfg txt env dst q = none

theorem Idle.same {s2 : Type5} (h : Idle cfg txt env dst s₁) (h' : Same s₁ s2) :
    Idle cfg txt env dst s2 := by
  have hpaths := h'.pathsOf dst
  exact ⟨by rw [hpaths]; exact h.keyed, by rw [h'.frame.active]; exact h.active,
    by rw [hpaths]; exact h.barred⟩

/-- A prefix without a route is in order when no path can be installed. -/
theorem Idle.ok (h : Idle cfg txt env dst s) (hroute : s.routes.get dst = none) :
    (s.view dst).Ok cfg txt env dst := by
  refine ⟨h.keyed, fun k hk => ?_, fun _ => hroute, fun _ => h.barred⟩
  have hk : s.active.get dst = some k := hk
  rw [h.active] at hk
  cases hk

/-- The records once a path counts as installed. -/
theorem Installed.marked (h : Installed txt env s₁ s' dst p gw) :
    (∀ d, (s'.markType5Active dst p.key).pathsOf d = s₁.pathsOf d) ∧
      ∀ d, (s'.markType5Active dst p.key).active.get d =
        if d = dst then some p.key else s₁.active.get d := by
  refine ⟨pathsOf_congr h.paths, fun d => ?_⟩
  show (s'.active.set dst p.key).get d = _
  rw [get_set, h.active]

/-- **A path was installed.** -/
theorem Prepared.installed (h : Prepared dst s s₁) (hkeyed : Keyed txt dst (s₁.pathsOf dst))
    (hlive : (s₁.pathsOf dst).get p.key = some p) (hi : installs cfg txt env dst p = some gw)
    (hinst : Installed txt env s₁ s' dst p gw) :
    Change cfg txt env s (s'.markType5Active dst p.key) dst := by
  obtain ⟨hpaths, hact⟩ := hinst.marked
  have hroute : ∀ d, (s'.markType5Active dst p.key).routes.get d =
      if d = dst then some gw else s.routes.get d := by
    intro d
    show s'.routes.get d = _
    rw [hinst.routes, get_set, h.routes]
  have hview : (s'.markType5Active dst p.key).view dst = ⟨s₁.pathsOf dst, some p.key, some gw⟩ := by
    show PrefixView.mk _ _ _ = _
    rw [hpaths, hact, hroute, if_pos rfl, if_pos rfl]
  refine ⟨fun d hd => ?_, ?_⟩
  · show PrefixView.mk _ _ _ = PrefixView.mk _ _ _
    rw [hpaths, hact, hroute, if_neg hd, if_neg hd, h.paths d hd, h.active d hd]
  · rw [hview]
    refine ⟨hkeyed, fun k hk => ?_, fun hc => ?_, fun hc => ?_⟩
    · grind
    · cases hc
    · cases hc

/-- **Nothing was installed or removed**, because the installed path is still the right one. -/
theorem Prepared.kept (h : Prepared dst s s') (hok : (s.view dst).Ok cfg txt env dst)
    (hkeyed : Keyed txt dst (s'.pathsOf dst)) (hact : s'.active.get dst = s.active.get dst)
    (hlive : ∀ k, s.active.get dst = some k → (s'.pathsOf dst).get k = (s.pathsOf dst).get k)
    (hnew : s.active.get dst = none → ∀ k q, (s'.pathsOf dst).get k = some q →
      installs cfg txt env dst q = none) : Change cfg txt env s s' dst := by
  have hview : s'.view dst = ⟨s'.pathsOf dst, s.active.get dst, s.routes.get dst⟩ := by
    show PrefixView.mk _ _ _ = _
    rw [hact, h.routes]
  refine ⟨h.elsewhere, ?_⟩
  rw [hview]
  refine ⟨hkeyed, fun k hk => ?_, hok.idle, hnew⟩
  obtain ⟨q, gw, hq, hi, hr⟩ := hok.installed k hk
  exact ⟨q, gw, (hlive k hk).trans hq, hi, hr⟩

/-- **The route was removed.** -/
theorem Prepared.removed (h : Prepared dst s s₁) (hidle : Idle cfg txt env dst s₁)
    (hrem : Removed s₁ s' dst) : Change cfg txt env s s' dst := by
  have hpaths := pathsOf_congr hrem.paths
  refine ⟨fun d hd => ?_, Idle.ok ⟨?_, ?_, ?_⟩ ?_⟩
  · show PrefixView.mk _ _ _ = PrefixView.mk _ _ _
    rw [hpaths, hrem.active, hrem.routes, if_neg hd, h.paths d hd, h.active d hd, h.routes]
  · rw [hpaths]
    exact hidle.keyed
  · rw [hrem.active]
    exact hidle.active
  · rw [hpaths]
    exact hidle.barred
  · rw [hrem.routes, if_pos rfl]

/-! ### Adding a path -/

theorem rememberType5Path_pathsOf (s : Type5) (dst : IPNet) (p : Type5Path) (d : IPNet) :
    (s.rememberType5Path dst p).pathsOf d =
      if d = dst then (s.pathsOf dst).set p.key p else s.pathsOf d := by
  show ((s.paths.set dst _).get d).getD ∅ = _
  rw [get_set]
  split <;> rfl

/-- **An announced path** is remembered, and installed when it can be. -/
theorem addType5Path_change (hw : env.Works) (hok : (s.view dst).Ok cfg txt env dst)
    (hp : p.route.IsFor txt dst)
    (hsafe : s.active.get dst = some p.key → installs cfg txt env dst p ≠ none) :
    Change cfg txt env s (s.addType5Path cfg txt env dst p) dst := by
  let s₁ := s.rememberType5Path dst p
  have hpaths := rememberType5Path_pathsOf s dst p
  have hhere : ∀ k, (s₁.pathsOf dst).get k =
      if k = p.key then some p else (s.pathsOf dst).get k := by
    intro k
    rw [hpaths, if_pos rfl, get_set]
  have hprep : Prepared dst s s₁ := by
    refine ⟨fun d hd => ?_, fun _ _ => rfl, rfl, rfl⟩
    rw [hpaths, if_neg hd]
  have hkeyed : Keyed txt dst (s₁.pathsOf dst) := by
    intro k q hq
    rw [hhere] at hq
    split at hq
    next hk => cases hq; exact ⟨hk.symm, hp⟩
    next => exact hok.keyed k q hq
  unfold addType5Path
  cases hi : installs cfg txt env dst p with
  | some gw =>
    obtain ⟨s', hs', hinst⟩ := applyType5PathDetailed_installs (s := s₁) hw hp hi
    rw [hs']
    exact hprep.installed hkeyed (by rw [hhere, if_pos rfl]) hi hinst
  -- It cannot be installed; what was installed before stays, by `hsafe` another path.
  | none =>
    obtain ⟨s', hs', hsame⟩ := applyType5PathDetailed_idle (s := s₁) hw hp hi
    have hact : s'.active = s.active := hsame.frame.active
    have hpaths' := hsame.pathsOf dst
    rw [hs']
    dsimp only
    rw [if_neg (by rw [hact]; exact fun hc => hsafe hc hi)]
    refine (hprep.same hsame).kept hok (by rw [hpaths']; exact hkeyed) (by rw [hact])
      (fun k hk => ?_) fun hc k q hq => ?_
    · grind
    · rw [hpaths', hhere] at hq
      split at hq
      · cases hq; exact hi
      · exact hok.complete hc k q hq

/-! ### Withdrawing a path -/

/-- The sorted paths are the live ones. -/
theorem mem_sortedType5Paths {q : Type5Path} :
    q ∈ s.sortedType5Paths dst ↔ ∃ k, (s.pathsOf dst).get k = some q := by
  unfold sortedType5Paths
  rw [mem_filterMap]
  constructor
  · rintro ⟨k, -, hk⟩
    exact ⟨k, hk⟩
  · rintro ⟨k, hk⟩
    exact ⟨k, mem_sortBy.mpr (mem_keys_iff.mpr ⟨q, hk⟩), hk⟩

/-- What `forgetType5Path` does: the path of the key goes, and the others of the prefix remain. -/
theorem forgetType5Path_spec (s : Type5) (dst : IPNet) (key : Type5Key) :
    ∃ remaining s₁, s.forgetType5Path dst key = (remaining, s₁) ∧ Prepared dst s s₁ ∧
      s₁.active = s.active ∧ (∀ k, (s₁.pathsOf dst).get k =
        if k = key then none else (s.pathsOf dst).get k) ∧
      ∀ q, q ∈ remaining ↔ ∃ k, (s₁.pathsOf dst).get k = some q := by
  unfold forgetType5Path
  dsimp only
  split
  -- The last path of a prefix: its map goes too.
  next hnil =>
    let s₁ : Type5 := { s with paths := s.paths.delete dst }
    have hempty : ∀ k, ((s.pathsOf dst).delete key).get k = none := by
      intro k
      cases hk : ((s.pathsOf dst).delete key).get k with
      | none => rfl
      | some q =>
        have hmem := mem_keys_iff.mpr ⟨q, hk⟩
        rw [hnil] at hmem
        exact absurd hmem not_mem_nil
    have hhere : s₁.pathsOf dst = ∅ := by
      show ((s.paths.delete dst).get dst).getD ∅ = _
      rw [get_delete_self]
      rfl
    refine ⟨[], s₁, rfl, ⟨fun d hd => ?_, fun _ _ => rfl, rfl, rfl⟩, rfl, fun k => ?_, fun q => ?_⟩
    · show ((s.paths.delete dst).get d).getD ∅ = _
      rw [get_delete_of_ne hd]
      rfl
    · rw [hhere, get_empty, ← get_delete, hempty]
    · grind
  next =>
    let s₁ : Type5 := { s with paths := s.paths.set dst ((s.pathsOf dst).delete key) }
    have hpaths : ∀ d, s₁.pathsOf d =
        if d = dst then (s.pathsOf dst).delete key else s.pathsOf d := by
      intro d
      show ((s.paths.set dst _).get d).getD ∅ = _
      rw [get_set]
      split <;> rfl
    refine ⟨s₁.sortedType5Paths dst, s₁, rfl, ⟨fun d hd => ?_, fun _ _ => rfl, rfl, rfl⟩, rfl,
      fun k => ?_, fun q => mem_sortedType5Paths⟩
    · rw [hpaths, if_neg hd]
    · rw [hpaths, if_pos rfl, get_delete]

/-- What a withdraw takes away: the tracked path, or the attributes of the withdraw itself. -/
structure Withdraws (s : Type5) (dst : IPNet) (key : Type5Key) (tracked : Bool) (route : Type5Route)
    (vtep : String) (mac : Mac) : Prop where
  known : tracked = true → ∃ old, (s.pathsOf dst).get key = some old ∧ route = old.route ∧
    vtep = old.vtep ∧ (old.routerMAC ≠ [] → mac = old.routerMAC)
  unknown : tracked = false → (s.pathsOf dst).get key = none

variable {key : Type5Key} {tracked known : Bool} {remaining : List Type5Path}

/-- How a withdraw ends, when no remaining path can be installed. -/
inductive LastEnd (txt : NetText) (env : Type5Env) (s s' : Type5) (dst : IPNet) (route : Type5Route)
    (vtep : String) (mac : Mac) (last : Prop) : Prop
  | nothing (same : Same s s')
      (gone : ∀ gw, routeGateway txt dst route vtep = some gw → s.routes.get dst ≠ some gw)
  | cleared (removed : Removed s s' dst) (s₁ : Type5) (before : s₁.gateways = s.gateways)
      (after : s'.gateways = (s₁.clearType5GatewayNeighbor env dst).gateways)
  | deleted (gw : Gateway) (gateway : routeGateway txt dst route vtep = some gw) (isLast : last)
      (removed : Removed s s' dst)
      (gateways : s'.gateways = s.gateways ∨ type5OverlayGateway txt route = none ∧
        ∃ s₁ : Type5, s₁.gateways = s.gateways ∧ s'.gateways =
          (s₁.deleteType5GatewayNeighbor env dst gw (txt.parseIP vtep) mac).gateways)

/-- How a withdrawal ends. -/
theorem withdrawLast_ends (hw : env.Works) (mac : Mac) (hp : route.IsFor txt dst) :
    LastEnd txt env s (s.withdrawLast txt env tracked known remaining route vtep mac)
      dst route vtep mac
      (remaining = [] ∧ (tracked && !known) = false) := by
  obtain ⟨s₁, hstate, hsame⟩ := type5RouteState_works (s := s) hw vtep (txt.parseIP vtep) hp
  unfold withdrawLast
  rw [hstate]
  cases hgw : routeGateway txt dst route vtep with
  | none => exact .nothing hsame fun gw hc => by rw [hgw] at hc; cases hc
  | some gw =>
    dsimp only [map_some]
    split
    next =>
      obtain ⟨hrem, s2, hbefore, hafter⟩ :=
        removeType5Prefix_works (s := s₁) hw ⟨dst, gw, txt.parseIP vtep⟩
      exact .cleared (hrem.of_same hsame) s2 (hbefore.trans hsame.gateways) hafter
    -- No path remains: the route goes if it has the gateway of this path.
    next hlast =>
      rw [not_or, not_not, Bool.not_eq_true] at hlast
      unfold withdrawType5Route deleteType5KernelRoute
      obtain ⟨gw', s2, -, hg, hdel, hrem, hgates⟩ | ⟨s2, hmiss, hdel, hsame2⟩ :=
        routeDel_cases (s := s₁) dst hw (some gw)
      · have hrem := hrem.of_same hsame
        have hgates := hgates.trans hsame.gateways
        rw [hdel]
        split
        next => exact .deleted gw hgw hlast hrem (.inl hgates)
        next hov =>
          exact .deleted gw hgw hlast (hrem.frame (deleteType5GatewayNeighbor_frame _ _ _ _))
            (.inr ⟨not_isSome_iff_eq_none.mp hov, s2, hgates, rfl⟩)
      · have hend : LastEnd txt env s s2 dst route vtep mac
            (remaining = [] ∧ (tracked && !known) = false) := by
          refine .nothing (hsame.trans hsame2) fun gw' hgw' hthere => ?_
          rw [hgw] at hgw'
          cases hgw'
          have hno := hmiss gw (by rw [hsame.frame.routes]; exact hthere)
          simp at hno
        rw [hdel]
        split <;> exact hend

section

variable (hw : env.Works) (hok : (s.view dst).Ok cfg txt env dst)
include hw hok

/-- The end of a withdraw, when the installed path goes or there is none: either the route is
    deleted, or there was none. -/
theorem withdrawLast_change (hwd : Withdraws s dst key tracked route vtep mac)
    (hp : route.IsFor txt dst) (hprep : Prepared dst s s₁) (hidle : Idle cfg txt env dst s₁)
    (hgone : ∀ k, s.active.get dst = some k → k = key) :
    Change cfg txt env s (s₁.withdrawLast txt env tracked (s.active.get dst).isSome remaining
      route vtep
      mac) dst := by
  -- The installed path is the withdrawn one, with its own gateway.
  have hactive : ∀ k, s.active.get dst = some k →
      ∃ gw, routeGateway txt dst route vtep = some gw ∧ s.routes.get dst = some gw := by
    intro k hk
    obtain ⟨q, gw, hq, hi, hr⟩ := hok.installed k hk
    have hq : (s.pathsOf dst).get k = some q := hq
    rw [hgone k hk] at hq
    cases htr : tracked with
    | false =>
      rw [hwd.unknown htr] at hq
      cases hq
    | true =>
      obtain ⟨old, hold, hroute, hvtep, -⟩ := hwd.known htr
      rw [hold] at hq
      cases hq
      exact ⟨gw, by rw [hroute, hvtep]; exact (installs_gateway hi).2.2, hr⟩
  cases withdrawLast_ends (s := s₁) hw mac hp with
  | nothing hsame hno =>
    -- Then there was no route, since that of an installed path has its gateway.
    have hprep' := hprep.same hsame
    refine ⟨hprep'.elsewhere, (hidle.same hsame).ok ?_⟩
    rw [hprep'.routes]
    refine hok.idle (eq_none_iff_forall_ne_some.mpr fun k hk => ?_)
    obtain ⟨gw, hgw, hr⟩ := hactive k hk
    exact hno gw hgw (hprep.routes ▸ hr)
  | cleared hrem => exact hprep.removed hidle hrem
  | deleted gw hgw hlast hrem => exact hprep.removed hidle hrem

/-- **A withdrawn path** goes; if it was the installed one, another path takes its place or the
    route is deleted. -/
theorem withdrawPath_change {tracked : Bool} (hwd : Withdraws s dst key tracked route vtep mac)
    (hp : route.IsFor txt dst) :
    Change cfg txt env s (s.withdrawPath cfg txt env dst key tracked route vtep mac) dst := by
  obtain ⟨remaining, s₁, hforget, hprep, hact, hget, hmem⟩ := forgetType5Path_spec s dst key
  have hsub : ∀ k q, (s₁.pathsOf dst).get k = some q →
      k ≠ key ∧ (s.pathsOf dst).get k = some q := by
    intro k q hq
    rw [hget] at hq
    split at hq
    · cases hq
    next hk => exact ⟨hk, hq⟩
  have hkeyed : Keyed txt dst (s₁.pathsOf dst) := fun k q hq => hok.keyed k q (hsub k q hq).2
  -- The installed path remains unless it is the withdrawn one.
  have hstays : ∀ k, s.active.get dst = some k → k ≠ key →
      ∃ q, (s₁.pathsOf dst).get k = some q := by
    intro k hk hne
    obtain ⟨q, gw, hq, -, -⟩ := hok.installed k hk
    exact ⟨q, by rw [hget, if_neg hne]; exact hq⟩
  unfold withdrawPath
  rw [hforget]
  dsimp only
  rw [hact]
  split
  next hkeep =>
    refine hprep.kept hok hkeyed (by rw [hact]) (fun k hk => ?_) fun hc => ?_
    · grind
    · grind
  next hgo =>
    have hgone : ∀ k, s.active.get dst = some k → k = key := by
      intro k hk
      by_contra hne
      obtain ⟨q, hq⟩ := hstays k hk hne
      refine hgo ⟨by rw [hk]; rfl, fun hc => hne ?_, ?_⟩
      · rw [hk] at hc
        exact Option.some.inj hc
      · simp_all
    have hprep' := hprep.forgetActive
    rcases applyFirst_outcome cfg hw remaining
        (fun q hq => ((hmem q).mp hq).elim fun k hk => (hkeyed k q hk).2) (s₁.forgetActive dst) with
      ⟨q, gw, s', hres, hq, hi, hinst⟩ | ⟨s', hres, hsame, hnone⟩
    · rw [hres]
      obtain ⟨k, hk⟩ := (hmem q).mp hq
      have hlive : ((s₁.forgetActive dst).pathsOf dst).get q.key = some q := by
        rw [(hkeyed k q hk).1]
        exact hk
      exact hprep'.installed hkeyed hlive hi hinst
    · rw [hres]
      refine withdrawLast_change hw hok hwd hp (hprep'.same hsame) (Idle.same ?_ hsame) hgone
      exact ⟨hkeyed, forgetActive_idle s₁ dst, fun k q hq => hnone q ((hmem q).mpr ⟨k, hq⟩)⟩

/-- A withdraw of a route key. -/
theorem withdrawType5Path_change {converted : Bool} (hp : route.IsFor txt dst) :
    Change cfg txt env s
      (s.withdrawType5Path cfg txt env dst key route vtep mac converted) dst := by
  unfold withdrawType5Path
  cases hold : (s.pathsOf dst).get key with
  | some old =>
    refine withdrawPath_change hw hok ⟨fun _ => ⟨old, hold, rfl, rfl, fun hmac => ?_⟩, fun hc => ?_⟩
      (hok.keyed key old hold).2
    · rw [if_pos (.inr hmac)]
    · cases hc
  | none =>
    dsimp only
    split
    · tauto
    · refine withdrawPath_change hw hok ⟨fun hc => ?_, fun _ => hold⟩ hp
      cases hc

end

/-! ### Resolving a gateway IP -/

section Resolve

variable {env₀ : Type5Env} {ip : Ip}

/-- The Type-2 routes changed for one IP only. -/
def ChangedAt (ip : Ip) (env₀ env : Type5Env) : Prop :=
  ∀ g, g ≠ ip → env.type2HasIP g = env₀.type2HasIP g

/-- Only the routes through the IP are resolved in another way. -/
theorem gatewayResolved_congr (h : ChangedAt ip env₀ env)
    (hne : type5OverlayGateway txt route ≠ some ip) :
    gatewayResolved cfg txt env route = gatewayResolved cfg txt env₀ route := by
  unfold gatewayResolved
  cases hg : type5OverlayGateway txt route with
  | none => rfl
  | some g =>
    dsimp only
    rw [h g fun hc => hne (by rw [hg, hc])]

/-- A path through another gateway does not see the change. -/
theorem installs_congr (h : ChangedAt ip env₀ env)
    (hne : type5OverlayGateway txt p.route ≠ some ip) :
    installs cfg txt env dst p = installs cfg txt env₀ dst p := by
  unfold installs
  rw [gatewayResolved_congr h hne]

/-- An installed path stays installable while its gateway IP is resolved. -/
theorem installs_resolved (h : installs cfg txt env₀ dst p = some gw)
    (hip : env.type2HasIP ip = true)
    (hgw : type5OverlayGateway txt p.route = some ip) : installs cfg txt env dst p = some gw := by
  unfold installs at h ⊢
  split at h
  next hc =>
    rw [if_pos]
    · exact h
    · refine ⟨hc.1, ?_⟩
      have hold := hc.2
      unfold gatewayResolved at hold ⊢
      rw [hgw] at hold ⊢
      dsimp only at hold ⊢
      rw [hip]
      rw [Bool.and_eq_true] at hold ⊢
      exact ⟨hold.1, rfl⟩
  next => cases h

/-- A prefix none of whose paths has the gateway IP does not see the change. -/
theorem PrefixView.Ok.unaffected {v : PrefixView} (hok : v.Ok cfg txt env₀ dst)
    (h : ChangedAt ip env₀ env)
    (hne : ∀ k q, v.paths.get k = some q → type5OverlayGateway txt q.route ≠ some ip) :
    v.Ok cfg txt env dst := by
  refine ⟨hok.keyed, fun k hk => ?_, hok.idle, fun hc k q hq => ?_⟩
  · grind [hok.installed, installs_congr]
  · rw [installs_congr h (hne k q hq)]
    exact hok.complete hc k q hq

/-- **A prefix through the gateway IP** is in order again. -/
theorem resolveType5Prefix_ok (hw : env.Works) (hfib : env.fibOwns dst = false)
    (hok : (s.view dst).Ok cfg txt env₀ dst) (h : ChangedAt ip env₀ env) :
    Change cfg txt env s (s.resolveType5Prefix cfg txt env dst ip) dst := by
  have hkeyed : Keyed txt dst (s.pathsOf dst) := hok.keyed
  have hactive : ∀ k, s.active.get dst = some k → ∃ p gw, s.activePath dst = some p ∧
      (s.pathsOf dst).get k = some p ∧ installs cfg txt env₀ dst p = some gw ∧
      s.routes.get dst = some gw := by
    intro k hk
    obtain ⟨p, gw, hp, hi, hr⟩ := hok.installed k hk
    refine ⟨p, gw, ?_, hp, hi, hr⟩
    unfold activePath
    rw [hk]
    exact hp
  unfold resolveType5Prefix
  rw [hfib, if_neg Bool.false_ne_true]
  split
  next hstay =>
    -- The installed path does not change.
    obtain ⟨p, hp, hcase⟩ := any_eq_true _ _ |>.mp hstay
    have hsome : s.active.get dst ≠ none := by
      intro hc
      unfold activePath at hp
      rw [hc] at hp
      cases hp
    refine ⟨fun _ _ => rfl, hkeyed, fun k hk => ?_, (absurd · hsome), (absurd · hsome)⟩
    · obtain ⟨q, gw, hq, hget, hi, hr⟩ := hactive k hk
      rw [hp] at hq
      cases hq
      refine ⟨p, gw, hget, ?_, hr⟩
      by_cases hgw : type5OverlayGateway txt p.route = some ip
      · have hip : env.type2HasIP ip = true := by
          rcases of_decide_eq_true hcase with hne | hip
          · exact absurd hgw hne
          · exact hip
        exact installs_resolved hi hip hgw
      · rw [installs_congr h hgw]
        exact hi
  next =>
    rcases applyFirst_outcome cfg hw (s.sortedType5Paths dst)
        (fun q hq => (mem_sortedType5Paths.mp hq).elim fun k hk => (hkeyed k q hk).2) s with
      ⟨q, gw, s', hres, hq, hi, hinst⟩ | ⟨s', hres, hsame, hnone⟩
    · rw [hres]
      obtain ⟨k, hk⟩ := mem_sortedType5Paths.mp hq
      have hlive : (s.pathsOf dst).get q.key = some q := by
        rw [(hkeyed k q hk).1]
        exact hk
      exact (Prepared.refl dst s).installed hkeyed hlive hi hinst
    · rw [hres]
      have hnone' : ∀ k q, (s.pathsOf dst).get k = some q → installs cfg txt env dst q = none :=
        fun k q hq => hnone q (mem_sortedType5Paths.mpr ⟨k, hq⟩)
      have hprep := ((Prepared.refl dst s).same hsame).forgetActive
      have hidle : Idle cfg txt env dst (s'.forgetActive dst) := by
        have hpaths : (s'.forgetActive dst).pathsOf dst = s.pathsOf dst := hsame.pathsOf dst
        exact ⟨by rw [hpaths]; exact hkeyed, forgetActive_idle s' dst, by rw [hpaths]; exact hnone'⟩
      cases hk : s.active.get dst with
      | none =>
        -- Nothing was installed, and nothing is.
        have hp : s.activePath dst = none := by
          unfold activePath
          rw [hk]
          rfl
        rw [hp]
        exact ⟨hprep.elsewhere, hidle.ok (by rw [hprep.routes]; exact hok.idle hk)⟩
      | some k =>
        obtain ⟨p, gw, hp, hget, hi, hr⟩ := hactive k hk
        obtain ⟨s2, hstate, hsame2⟩ := type5RouteState_works (s := s'.forgetActive dst) hw p.vtep
          (txt.parseIP p.vtep) (hkeyed k p hget).2
        rw [(installs_gateway hi).2.2] at hstate
        have hrem := (removeType5Prefix_works (s := s2) hw ⟨dst, gw, txt.parseIP p.vtep⟩).1
        have hdef : s'.unresolve txt env dst (some p) =
            s2.removeType5Prefix env ⟨dst, gw, txt.parseIP p.vtep⟩ := by
          unfold unresolve
          dsimp only
          rw [hstate]
          rfl
        rw [hp]
        dsimp only
        rw [hdef]
        exact (hprep.same hsame2).removed (hidle.same hsame2) hrem

/-- One round of the loop over the prefixes. -/
theorem resolveRound_ok (hw : env.Works) (hfib : env.fibOwns dst = false)
    (hok : (s.view dst).Ok cfg txt env₀ dst) (h : ChangedAt ip env₀ env) :
    Change cfg txt env s (s.resolveRound cfg txt env ip dst) dst := by
  unfold resolveRound
  split
  · exact resolveType5Prefix_ok hw hfib hok h
  next hno =>
    refine ⟨fun _ _ => rfl, hok.unaffected h fun k q hq hgw => hno ?_⟩
    exact any_eq_true.mpr ⟨q, mem_values.mpr ⟨k, hq⟩, decide_eq_true hgw⟩

/-- **After a change of the Type-2 routes of one IP** all prefixes are in order again. -/
theorem resolveType5Gateway_ok (hw : env.Works) (hfib : ∀ d, env.fibOwns d = false)
    (hok : ∀ d, (s.view d).Ok cfg txt env₀ d) (h : ChangedAt ip env₀ env) (d : IPNet) :
    ((s.resolveType5Gateway cfg txt env ip).view d).Ok cfg txt env d := by
  have hfold : ∀ (ds : List IPNet) (s₁ : Type5), ds.Nodup →
      (∀ d ∈ ds, s₁.view d = s.view d) → (∀ d, d ∉ ds → (s₁.view d).Ok cfg txt env d) →
      ∀ d, ((ds.foldl (resolveRound cfg txt env ip) s₁).view d).Ok cfg txt env d := by
    intro ds
    induction ds with
    | nil => grind
    | cons dst ds ih =>
      intro s₁ hnodup hrest hdone
      obtain ⟨hnot, hnodup⟩ := nodup_cons.mp hnodup
      have hhere : (s₁.view dst).Ok cfg txt env₀ dst := by
        rw [hrest dst mem_cons_self]
        exact hok dst
      obtain ⟨helse, hok'⟩ := resolveRound_ok hw (hfib dst) hhere h
      refine ih _ hnodup (fun d hd => ?_) fun d hd => ?_
      · rw [helse d fun hc => hnot (hc ▸ hd)]
        exact hrest d (mem_cons_of_mem dst hd)
      · by_cases hdd : d = dst
        · rw [hdd]
          exact hok'
        · rw [helse d hdd]
          exact hdone d fun hc => (mem_cons.mp hc).elim hdd hd
  refine hfold _ s ?_ (fun _ _ => rfl) (fun d hd => ?_) d
  · grind [sortBy_perm, AList.keys_nodup]
  · -- A prefix without paths.
    have hnone : s.paths.get d = none := by
      cases hc : s.paths.get d with
      | none => rfl
      | some paths => simp_all [mem_keys_iff.mpr]
    refine (hok d).unaffected h fun k q hq => ?_
    have hq : ((s.paths.get d).getD ∅).get k = some q := hq
    rw [hnone] at hq
    have hq : (∅ : GoMap Type5Key Type5Path).get k = some q := hq
    cases hq

end Resolve

/-! ### Updates -/

/-- An announcement of the installed path can be installed. -/
def SafeAnnounce (cfg : Config) (txt : NetText) (env : Type5Env) (s : Type5) (route : Type5Route)
    (vtep : String) (routerMAC : Mac) (valid withdraw : Bool) : Prop :=
  withdraw = false → ∀ dst, parsePrefixRoute txt route.ipPrefix route.ipPrefixLen = some dst →
    s.active.get dst = some (type5PathKey route) →
      installs cfg txt env dst ⟨type5PathKey route, route, vtep, routerMAC, valid⟩ ≠ none

variable (hw : env.Works) (hfib : ∀ d, env.fibOwns d = false)
  (hok : ∀ d, (s.view d).Ok cfg txt env d) {routerMAC : Mac} {withdraw : Bool} (converted : Bool)
  (hsafe : SafeAnnounce cfg txt env s route vtep routerMAC valid withdraw)
include hw hfib hok hsafe

/-- **A Type-5 update** changes one prefix, which is in order afterwards, or nothing. -/
theorem handleType5Update_change :
    s.handleType5Update cfg txt env route vtep routerMAC valid withdraw converted = s ∨
      ∃ dst, parsePrefixRoute txt route.ipPrefix route.ipPrefixLen = some dst ∧ Change cfg txt env s
        (s.handleType5Update cfg txt env route vtep routerMAC valid withdraw converted) dst := by
  unfold handleType5Update
  split
  · exact .inl rfl
  · cases hp : parsePrefixRoute txt route.ipPrefix route.ipPrefixLen with
    | none => exact .inl rfl
    | some dst =>
      dsimp only
      rw [hfib dst]
      cases withdraw with
      | true => grind [withdrawType5Path_change]
      | false =>
        rw [if_neg Bool.false_ne_true]
        split
        · exact .inl rfl
        · exact .inr ⟨dst, rfl, addType5Path_change hw (hok dst) hp (hsafe rfl dst hp)⟩

/-- **One update.** -/
theorem handleType5Update_ok (d : IPNet) :
    ((s.handleType5Update cfg txt env route vtep routerMAC valid withdraw converted).view d).Ok
      cfg txt
      env d := by
  rcases handleType5Update_change hw hfib hok converted hsafe with hsame | ⟨dst, -, hc⟩
  · rw [hsame]
    exact hok d
  · by_cases hd : d = dst
    · rw [hd]
      exact hc.ok
    · rw [hc.elsewhere d hd]
      exact hok d

end Type5

end Booty.Gobgp
