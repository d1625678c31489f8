import Booty.Gobgp.Superseded

namespace Booty.Gobgp

open Booty.Lib GoMap

/-!
# BUM flooding follows the routes

The kernel keeps one flooding entry for each remote VTEP, the Type-3 routes are keyed by route
distinguisher, Ethernet tag and originator, and the overlay keeps no record of its own.  A route is
live if the most recent update of its key is an announcement that the overlay imports; it is read
off the updates that the watch has seen, whether the overlay handled them or not.

* `Watched.named` — the VTEP that the live route of a key names.
* `step_flooded_iff` — one update keeps the entries in line exactly under `SafeType3`.
* `flooding_follows_routes` — the same over whole runs.
* `sharedVtep_unflooded` — a VTEP that two routes name is lost with the first of them.
-/

/-! ### Live routes -/

/-- What identifies a Type-3 route. -/
structure Type3Key where
  rd : String
  tag : Nat
  ip : String
deriving DecidableEq, Repr

namespace EvpnPath
variable (cfg : Config) (txt : NetText) (p : EvpnPath)

/-- The key of an update of a Type-3 route. -/
def type3Key : Option Type3Key :=
  match p.nlri with
  | .multicast r => some ⟨r.rd, r.ethernetTag, r.ipAddress⟩
  | _ => none

/-- The VTEP that a Type-3 update is about, if the overlay handles it. -/
def type3Target : Option Ip :=
  match p.nlri with
  | .multicast r =>
    if cfg.importsRoute p = some true ∧ cfg.enableL2 = true then remoteVTEP txt r p.extractNextHop
    else none
  | _ => none

/-- A withdrawal, another encapsulation than VXLAN, or no ingress replication. -/
def type3Removes : Bool :=
  p.isWithdraw || p.notVXLAN p.isWithdraw || !p.ingressReplication

/-- The VTEP that a live Type-3 route with ingress replication names. -/
def floods : Option Ip := if p.type3Removes then none else p.type3Target cfg txt

end EvpnPath

section Law

variable (cfg : Config) (txt : NetText) (w : Watched)

/-- The VTEP that the live route of a key names, by the most recent update of the key. -/
def Watched.named (k : Type3Key) : Option Ip :=
  (w.history.find? fun p => p.type3Key = some k).bind (EvpnPath.floods cfg txt)

/-- The address is that of another node. -/
def Remote (v : Ip) : Prop := txt.ipString v ≠ cfg.routerID

/-- **The entries are in line with the routes**: there is an entry for a remote VTEP exactly when a
    live route with ingress replication names it. -/
def Watched.InLine : Prop :=
  ∀ v, Remote cfg txt v → (w.tier.flooding.bum.get v = some () ↔ ∃ k, w.named cfg txt k = some v)

/-- Another route than that of `k` names the VTEP. -/
def Watched.NamedBesides (k : Type3Key) (v : Ip) : Prop :=
  ∃ k', k' ≠ k ∧ w.named cfg txt k' = some v

/-- The update does no harm: the VTEP that the route named so far is the one that the update is
    about or is named by another route, and an entry that is taken away is of no other route. -/
structure SafeType3 (p : EvpnPath) : Prop where
  moved : ∀ k u, p.type3Key = some k → Remote cfg txt u → w.named cfg txt k = some u →
    p.type3Target cfg txt ≠ some u → w.NamedBesides cfg txt k u
  shared : ∀ k v, p.type3Key = some k → Remote cfg txt v → p.type3Target cfg txt = some v →
    p.type3Removes = true → ¬ w.NamedBesides cfg txt k v

end Law

/-! ### One update -/

section Step

variable {cfg : Config} {txt : NetText} {w : Watched} {u : RouteUpdate} {k : Type3Key} {v : Ip}

/-- The entries after a Type-3 update with working calls. -/
theorem handleType3Path_bum {s : Flooding} {env : Env} (hw : ∀ n, env.fails n = false)
    (p : EvpnPath) (route : Type3Route) (vtep : String) (withdraw : Bool) (hv : Remote cfg txt v) :
    (s.handleType3Path cfg txt env p route vtep withdraw).bum.get v =
      if remoteVTEP txt route vtep = some v then
        (if withdraw || !p.ingressReplication then none else some ())
      else s.bum.get v := by
  have hcall : ∀ (s : Flooding) f, s.call env f =
      (false, { s with calls := s.calls + 1, bum := f s.bum }) := fun s f =>
    if_neg (by rw [hw]; exact Bool.false_ne_true)
  unfold Flooding.handleType3Path Flooding.handleType3Route
  cases remoteVTEP txt route vtep with
  | none => rw [if_neg nofun]
  | some remoteIP =>
    dsimp only
    by_cases hown : txt.ipString remoteIP = cfg.routerID
    · -- The route of the node itself.
      rw [if_pos hown, if_neg]
      rintro ⟨⟩
      exact hv hown
    · rw [if_neg hown, hcall]
      grind

/-- The entries after an update with working calls; only Type-3 updates have a target. -/
theorem watchStep_bum (hw : ∀ n, u.env.fails n = false) (hv : Remote cfg txt v) :
    (watchStep cfg txt w u).tier.flooding.bum.get v =
      if u.path.type3Target cfg txt = some v then (if u.path.type3Removes then none else some ())
      else w.tier.flooding.bum.get v := by
  unfold watchStep OverlayTier.processRouteUpdate EvpnPath.type3Target
  by_cases himport : cfg.importsRoute u.path = some true
  · rw [if_neg (not_not.mpr himport)]
    cases u.path.nlri with
    | ipPrefix r => simp
    | macadv r =>
      dsimp only
      split
      · rw [handleType2Update_flooding]
        simp
      · simp
    | ethernetAd r =>
      dsimp only
      split <;> simp
    -- The only routes that reach the flooding entries.
    | multicast r =>
      dsimp only
      by_cases hl2 : cfg.enableL2 = true
      · simp only [hl2, himport, and_self, if_true]
        exact handleType3Path_bum hw u.path r _ _ hv
      · simp [hl2]
    | other => simp
  · rw [if_pos himport]
    cases u.path.nlri <;> simp [himport]

theorem named_other (h : u.path.type3Key ≠ some k) :
    (watchStep cfg txt w u).named cfg txt k = w.named cfg txt k := by
  simp [watchStep, Watched.named, h]

/-- The VTEPs that are named after the update of a Type-3 route. -/
theorem named_watchStep (hk : u.path.type3Key = some k) :
    (∃ k', (watchStep cfg txt w u).named cfg txt k' = some v) ↔
      (u.path.type3Target cfg txt = some v ∧ u.path.type3Removes = false) ∨
        w.NamedBesides cfg txt k v := by
  have hhere : (watchStep cfg txt w u).named cfg txt k = u.path.floods cfg txt := by
    simp [watchStep, Watched.named, hk]
  have hfloods : u.path.floods cfg txt = some v ↔
      u.path.type3Target cfg txt = some v ∧ u.path.type3Removes = false := by
    unfold EvpnPath.floods
    split <;> simp_all
  constructor
  · rintro ⟨k', hk'⟩
    by_cases heq : k' = k
    · subst heq
      exact .inl (hfloods.mp (hhere ▸ hk'))
    · rw [named_other (by simpa [hk] using Ne.symm heq)] at hk'
      exact .inr ⟨k', heq, hk'⟩
  · rintro (hv | ⟨k', hne, hk'⟩)
    · exact ⟨k, hhere.trans (hfloods.mpr hv)⟩
    · exact ⟨k', (named_other (by simpa [hk] using Ne.symm hne)).trans hk'⟩

/-- **One update** keeps the entries in line exactly when it does no harm. -/
theorem step_flooded_iff (hw : ∀ n, u.env.fails n = false) (h : w.InLine cfg txt) :
    (watchStep cfg txt w u).InLine cfg txt ↔ SafeType3 cfg txt w u.path := by
  cases hkey : u.path.type3Key with
  | none =>
    -- Another kind of route: neither the entries nor the live routes change.
    have htarget : u.path.type3Target cfg txt = none := by
      unfold EvpnPath.type3Key at hkey
      unfold EvpnPath.type3Target
      split at hkey <;> simp_all
    refine iff_of_true (fun v hv => ?_) ⟨by simp [hkey], by simp [hkey]⟩
    have hnamed : ∀ k, (watchStep cfg txt w u).named cfg txt k = w.named cfg txt k :=
      fun k => named_other (by simp [hkey])
    rw [watchStep_bum hw hv, htarget, if_neg nofun, h v hv]
    simp only [hnamed]
  | some k =>
    -- A VTEP that was named is named by the updated route or by another one.
    have hsplit : ∀ v, (∃ k', w.named cfg txt k' = some v) ↔
        w.named cfg txt k = some v ∨ w.NamedBesides cfg txt k v := by
      intro v
      constructor
      · rintro ⟨k', hk'⟩
        by_cases heq : k' = k
        · exact .inl (heq ▸ hk')
        · exact .inr ⟨k', heq, hk'⟩
      · rintro (hk' | ⟨k', -, hk'⟩)
        · exact ⟨_, hk'⟩
        · exact ⟨k', hk'⟩
    constructor
    · intro h'
      refine ⟨fun k₁ u hk₁ hu hold hne => ?_, fun k₁ v hk₁ hv ht hrem hbes => ?_⟩ <;>
        obtain rfl : k = k₁ := Option.some.inj (hkey.symm.trans hk₁)
      · have hu' := h' u hu
        rw [watchStep_bum hw hu, if_neg hne, h u hu, named_watchStep hkey] at hu'
        exact (hu'.mp ⟨_, hold⟩).resolve_left fun hc => hne hc.1
      · have hv' := (h' v hv).mpr ((named_watchStep hkey).mpr (.inr hbes))
        rw [watchStep_bum hw hv, if_pos ht, if_pos hrem] at hv'
        cases hv'
    · intro hsafe v hv
      rw [watchStep_bum hw hv, named_watchStep hkey]
      by_cases ht : u.path.type3Target cfg txt = some v
      · cases hrem : u.path.type3Removes with
        | true => grind [hsafe.shared]
        | false => simp [ht]
      · rw [if_neg ht, h v hv, hsplit]
        grind [hsafe.moved]

end Step

/-! ### Runs -/

/-- **Flooding follows the routes.** After every sequence of updates with working calls that do no
    harm, the device has an entry for a remote VTEP exactly when a live route with ingress
    replication names it; and an update that does harm breaks this at once. -/
theorem flooding_follows_routes {cfg : Config} {txt : NetText} {w : Watched}
    (h : (watchMachine cfg txt).Reaches
      (fun w u => (∀ n, u.env.fails n = false) ∧ SafeType3 cfg txt w u.path) w) :
    (∀ v, Remote cfg txt v →
      (w.tier.flooding.bum.get v = some () ↔ ∃ k, w.named cfg txt k = some v)) ∧
    ∀ u, (∀ n, u.env.fails n = false) →
      ((watchStep cfg txt w u).InLine cfg txt ↔ SafeType3 cfg txt w u.path) := by
  have hinv : w.InLine cfg txt := by
    refine h.invariant (I := fun w : Watched => w.InLine cfg txt) (fun v _ => ?_) ?_
    · -- Nothing is installed and nothing is live.
      exact iff_of_false nofun (by rintro ⟨k, hk⟩; cases hk)
    · rintro w u _ hi ⟨hw, hsafe⟩ ⟨⟩
      exact (step_flooded_iff hw hi).mpr hsafe
  exact ⟨hinv, fun u hw => step_flooded_iff hw hinv⟩

/-- The announcement of a Type-3 route of 10.0.0.2 with ingress replication, and its withdrawal. -/
def imet (rd : String) (vni : Nat) (withdraw : Bool) : EvpnPath :=
  ⟨withdraw, .multicast ⟨rd, 0, "10.0.0.2"⟩,
    [.pmsiTunnel EvpnPath.pmsiTunnelTypeIngressReplication,
      .extendedCommunities [.twoOctetAs rtSubType 65000 vni]]⟩

/-- The watch after updates with working calls. -/
def watched (ps : List EvpnPath) : Watched :=
  ps.foldl (fun w p => watchStep sampleConfig sampleText w ⟨p, .working⟩) ⟨.empty, []⟩

theorem sampleVtep_remote : Remote sampleConfig sampleText (.ofV4 0x0a000002) := by
  unfold Remote
  decide +kernel

/-- One VTEP is announced: frames are flooded to it. -/
theorem oneVtep_flooded :
    (watchMachine sampleConfig sampleText).Reaches (fun w u => (∀ n, u.env.fails n = false) ∧
        SafeType3 sampleConfig sampleText w u.path) (watched [imet "a" 100 false]) ∧
      (watched [imet "a" 100 false]).tier.flooding.bum.get (.ofV4 0x0a000002) = some () := by
  have hsafe : SafeType3 sampleConfig sampleText ⟨.empty, []⟩ (imet "a" 100 false) := by
    refine ⟨fun _ _ _ _ hold => ?_, fun _ _ _ _ _ hrem => ?_⟩
    · cases hold
    · exact absurd hrem (by decide)
  have hrun : (watchMachine sampleConfig sampleText).Reaches (fun w u =>
      (∀ n, u.env.fails n = false) ∧ SafeType3 sampleConfig sampleText w u.path)
        (watched [imet "a" 100 false]) :=
    .step (a := ⟨imet "a" 100 false, .working⟩) .start ⟨fun _ => rfl, hsafe⟩ rfl
  exact ⟨hrun, ((flooding_follows_routes hrun).1 _ sampleVtep_remote).mpr
    ⟨⟨"a", 0, "10.0.0.2"⟩, by decide +kernel⟩⟩

/-- **A VTEP is lost.** Two routes with ingress replication name one VTEP; when the first of them is
    withdrawn the entry goes, although the second one is live.  And an entry stays when its route is
    announced and withdrawn with a route target that is not imported. -/
theorem sharedVtep_unflooded :
    (∃ w, (watchMachine sampleConfig sampleText).Reaches (fun _ u => ∀ n, u.env.fails n = false) w ∧
      Remote sampleConfig sampleText (.ofV4 0x0a000002) ∧
      w.named sampleConfig sampleText ⟨"b", 0, "10.0.0.2"⟩ = some (.ofV4 0x0a000002) ∧
      w.tier.flooding.bum.get (.ofV4 0x0a000002) = none) ∧
    ∃ w, (watchMachine sampleConfig sampleText).Reaches (fun _ u => ∀ n, u.env.fails n = false) w ∧
      (∀ k, w.named sampleConfig sampleText k = none) ∧
      w.tier.flooding.bum.get (.ofV4 0x0a000002) = some () := by
  have hrun : ∀ x y z, (watchMachine sampleConfig sampleText).Reaches
      (fun _ u => ∀ n, u.env.fails n = false) (watched [x, y, z]) := fun x y z =>
    .step (a := ⟨z, .working⟩) (.step (a := ⟨y, .working⟩)
      (.step (a := ⟨x, .working⟩) .start (fun _ => rfl) rfl) (fun _ => rfl) rfl) (fun _ => rfl) rfl
  refine ⟨⟨_, hrun (imet "a" 100 false) (imet "b" 100 false) (imet "a" 100 true),
    sampleVtep_remote, by decide +kernel, by decide +kernel⟩,
    _, hrun (imet "a" 100 false) (imet "a" 200 false) (imet "a" 200 true), fun k => ?_,
    by decide +kernel⟩
  by_cases hk : ⟨"a", 0, "10.0.0.2"⟩ = k
  · subst hk
    decide +kernel
  · simp [Watched.named, watched, watchStep, EvpnPath.type3Key, imet, hk]

end Booty.Gobgp
