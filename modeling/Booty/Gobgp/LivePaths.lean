import Booty.Gobgp.Type5Routes

namespace Booty.Gobgp

open Booty.Lib Option

/-!
# Live paths of Type-5 prefixes

Whatever the kernel answers and whatever the FIB writer owns, an update replaces the live path of
its route key and leaves all others alone; installing and removing routes never changes the live
paths.

* `applyFirst_paths`, `removeType5Prefix_paths`, … — the functions that only install or remove.
* `resolveType5Gateway_paths` — the resolution of a gateway IP.
* `handleType5Update_get` — the live paths after an update.
-/

namespace Type5

variable {cfg : Config} {txt : NetText} {env : Type5Env} {s s' : Type5} {dst : IPNet}

/-! ### Installing and removing -/

/-- A kernel call. -/
theorem call_paths {f : Type5 → Type5} (hf : ∀ s, (f s).paths = s.paths) :
    (s.call env f).2.paths = s.paths := by
  unfold call
  split
  · rfl
  · exact hf s

/-- The state of a route. -/
theorem type5RouteState_paths (txt : NetText) (env : Type5Env) (s : Type5) (route : Type5Route)
    (vtep : String) (vtepIP : Option Ip) :
    (s.type5RouteState txt env route vtep vtepIP).2.paths = s.paths := by
  unfold type5RouteState
  split
  · rfl
  · split
    · rfl
    · exact call_paths fun _ => rfl

variable (st : RouteState)

/-- The installation of a route. -/
theorem installType5RouteDetailed_paths (mac : Mac) (valid : Bool) :
    (s.installType5RouteDetailed env st mac valid).2.paths = s.paths := by
  have hroute : (s.routeReplace env st.dst st.gw).2.paths = s.paths := call_paths fun _ => rfl
  unfold installType5RouteDetailed
  dsimp only
  split
  · exact hroute
  · exact (setGatewayState_frame st mac valid).paths.trans hroute

/-- The installation of a path. -/
theorem applyType5PathDetailed_paths (cfg : Config) (txt : NetText) (env : Type5Env) (s : Type5)
    (p : Type5Path) :
    (s.applyType5PathDetailed cfg txt env p).2.paths = s.paths := by
  have hvtep : (s.ensureType5VTEP txt env p.vtep).2.paths = s.paths := by
    unfold ensureType5VTEP
    split
    · rfl
    · exact call_paths fun _ => rfl
  unfold applyType5PathDetailed
  split
  next s1 hs1 =>
    rw [hs1] at hvtep
    exact hvtep
  next vtepIP s1 hs1 =>
    rw [hs1] at hvtep
    have hvtep : s1.paths = s.paths := hvtep
    have hstate := type5RouteState_paths txt env s1 p.route p.vtep (some vtepIP)
    split
    · exact hvtep
    · split
      next s2 hs2 => grind
      next st s2 hs2 => simp_all [installType5RouteDetailed_paths]

/-- The first path that can be installed. -/
theorem applyFirst_paths (cfg : Config) (txt : NetText) (env : Type5Env) (ps : List Type5Path)
    (s : Type5) :
    (applyFirst cfg txt env ps s).2.paths = s.paths := by
  induction ps generalizing s with
  | nil => rfl
  | cons p ps ih =>
    have hp : (s.applyType5PathDetailed cfg txt env p).2.paths = s.paths :=
      applyType5PathDetailed_paths cfg txt env s p
    unfold applyFirst
    grind

/-- The deletion of a route. -/
theorem routeDel_paths (env : Type5Env) (s : Type5) (dst : IPNet) (gw : Option Gateway) :
    (s.routeDel env dst gw).2.paths = s.paths := by
  have hcall : ∀ b : Bool, (s.call env fun s =>
      if b then { s with routes := s.routes.delete dst } else s).2.paths = s.paths := by
    intro b
    refine call_paths fun s => ?_
    split <;> rfl
  unfold routeDel
  dsimp only
  split
  next s1 hs1 => rw [← hcall _, hs1]
  next s1 hs1 => rw [← hcall _, hs1]

/-- The removal of a prefix. -/
theorem removeType5Prefix_paths : (s.removeType5Prefix env st).paths = s.paths := by
  have hdel := routeDel_paths env s st.dst none
  unfold removeType5Prefix
  split
  · grind
  next r s1 _ hs1 =>
    rw [hs1] at hdel
    exact (clearType5GatewayNeighbor_frame st.dst).paths.trans hdel

/-- The withdrawal of a route. -/
theorem withdrawType5Route_paths (mac : Mac) :
    (s.withdrawType5Route env st mac).paths = s.paths := by
  have hdel : (s.deleteType5KernelRoute env st).2.paths = s.paths := routeDel_paths _ _ _ _
  unfold withdrawType5Route
  dsimp only
  split
  · exact (deleteType5GatewayNeighbor_frame _ _ _ _).paths.trans hdel
  · exact hdel

/-- The end of a withdrawal. -/
theorem withdrawLast_paths (tracked known : Bool) (remaining : List Type5Path) (route : Type5Route)
    (vtep : String) (mac : Mac) :
    (s.withdrawLast txt env tracked known remaining route vtep mac).paths = s.paths := by
  have hstate := type5RouteState_paths txt env s route vtep (txt.parseIP vtep)
  unfold withdrawLast deleteType5KernelRoute
  split
  · grind
  · grind [removeType5Prefix_paths, routeDel_paths, withdrawType5Route_paths]

/-- The way back to another path. -/
theorem fallBack_paths (path : Type5Path) : (s.fallBack cfg txt env dst path).paths = s.paths := by
  have hfirst := applyFirst_paths cfg txt env (s.fallbackPaths dst path.key) (s.forgetActive dst)
  unfold fallBack
  split
  next p s1 hs1 =>
    rw [hs1] at hfirst
    exact hfirst
  next s1 hs1 =>
    rw [hs1] at hfirst
    have hfirst : s1.paths = s.paths := hfirst
    have hstate := type5RouteState_paths txt env s1 path.route path.vtep (txt.parseIP path.vtep)
    grind [removeType5Prefix_paths]

/-! ### Resolving -/

/-- A gateway that is not resolved any more. -/
theorem unresolve_paths (installed : Option Type5Path) :
    (s.unresolve txt env dst installed).paths = s.paths := by
  unfold unresolve
  split
  · rfl
  next p =>
    have hstate := type5RouteState_paths txt env (s.forgetActive dst) p.route
      p.vtep (txt.parseIP p.vtep)
    grind [removeType5Prefix_paths, forgetActive]

/-- The resolution of a prefix. -/
theorem resolveType5Prefix_paths (ip : Ip) :
    (s.resolveType5Prefix cfg txt env dst ip).paths = s.paths := by
  have hfirst := applyFirst_paths cfg txt env (s.sortedType5Paths dst) s
  unfold resolveType5Prefix
  grind [unresolve_paths, forgetActive, markType5Active]

/-- **The resolution of a gateway IP** leaves the live paths alone. -/
theorem resolveType5Gateway_paths (ip : Ip) :
    (s.resolveType5Gateway cfg txt env ip).paths = s.paths := by
  refine List.foldlRecOn (motive := (paths · = s.paths)) _ _ rfl fun s1 h d _ => ?_
  unfold resolveRound
  split
  · exact (resolveType5Prefix_paths ip).trans h
  · exact h

/-! ### Updates -/

/-- A new path is live, whatever is installed. -/
theorem addType5Path_paths (path : Type5Path) :
    (s.addType5Path cfg txt env dst path).paths = (s.rememberType5Path dst path).paths := by
  have happly := applyType5PathDetailed_paths cfg txt env (s.rememberType5Path dst path) path
  unfold addType5Path
  grind [fallBack_paths, forgetActive, markType5Active]

variable (key : Type5Key)

/-- A withdrawn path is not live, whatever is installed. -/
theorem withdrawPath_paths (tracked : Bool) (route : Type5Route) (vtep : String)
    (mac : Mac) : (s.withdrawPath cfg txt env dst key tracked route vtep mac).paths =
      (s.forgetType5Path dst key).2.paths := by
  unfold withdrawPath
  dsimp only
  split
  · rfl
  · have hfirst := applyFirst_paths cfg txt env (s.forgetType5Path dst key).1
      ((s.forgetType5Path dst key).2.forgetActive dst)
    grind [withdrawLast_paths, forgetActive, markType5Active]

/-- One path goes. -/
theorem forgetType5Path_get (s : Type5) (dst : IPNet) (key : Type5Key) (d : IPNet) (k : Type5Key) :
    ((s.forgetType5Path dst key).2.pathsOf d).get k =
      if d = dst ∧ k = key then none else (s.pathsOf d).get k := by
  obtain ⟨remaining, s1, hs1, hprep, -, hget, -⟩ := forgetType5Path_spec s dst key
  rw [hs1]
  by_cases hd : d = dst
  · rw [hd, hget]
    simp
  · rw [hprep.paths d hd, if_neg fun hc => hd hc.1]

/-- One path is new. -/
theorem rememberType5Path_get (s : Type5) (dst : IPNet) (p : Type5Path) (d : IPNet) (k : Type5Key) :
    ((s.rememberType5Path dst p).pathsOf d).get k =
      if d = dst ∧ k = p.key then some p else (s.pathsOf d).get k := by
  rw [rememberType5Path_pathsOf]
  by_cases hd : d = dst
  · rw [if_pos hd, GoMap.get_set, hd]
    simp
  · rw [if_neg hd, if_neg fun hc => hd hc.1]

/-- The path of a prefix that the FIB writer owns goes. -/
theorem forgetShadowedType5Path_get (d : IPNet) (k : Type5Key) :
    ((s.forgetShadowedType5Path env dst key).pathsOf d).get k =
      if d = dst ∧ k = key then none else (s.pathsOf d).get k := by
  have hkept : (s.forgetShadowedType5Path env dst key).paths =
      ((s.forgetActive dst).forgetType5Path dst key).2.paths := by
    unfold forgetShadowedType5Path
    dsimp only
    split
    · rfl
    · have hlink : (((s.forgetActive dst).forgetType5Path dst key).2.linkByName env).2.paths =
          ((s.forgetActive dst).forgetType5Path dst key).2.paths := call_paths fun _ => rfl
      split
      · exact hlink
      · exact (clearType5GatewayNeighbor_frame dst).paths.trans hlink
  rw [pathsOf_congr hkept]
  exact forgetType5Path_get (s.forgetActive dst) dst key d k

variable (route : Type5Route) (vtep : String) (mac : Mac)

/-- **A withdrawal** takes the path of its key and no other. -/
theorem withdrawType5Path_get (converted : Bool) (d : IPNet) (k : Type5Key) :
    ((s.withdrawType5Path cfg txt env dst key route vtep mac converted).pathsOf d).get k =
      if d = dst ∧ k = key then none else (s.pathsOf d).get k := by
  unfold withdrawType5Path
  cases hold : (s.pathsOf dst).get key with
  | some old =>
    rw [pathsOf_congr (withdrawPath_paths _ _ _ _ _)]
    exact forgetType5Path_get s dst key d k
  | none =>
    dsimp only
    split
    · -- The path of the key is not there anyway.
      grind
    · rw [pathsOf_congr (withdrawPath_paths _ _ _ _ _)]
      exact forgetType5Path_get s dst key d k

/-- The prefix whose paths an update changes: none when the update is skipped. -/
def changedPrefix (cfg : Config) (txt : NetText) (route : Type5Route) (vtep : String)
    (withdraw : Bool) :
    Option IPNet :=
  if vtep = cfg.routerID then none
  else (parsePrefixRoute txt route.ipPrefix route.ipPrefixLen).filter
    fun dst => withdraw || !cfg.blackholes.contains dst

/-- **The live paths after an update**: that of the route key is replaced, or it goes. -/
theorem handleType5Update_get (valid withdraw converted : Bool) (d : IPNet) (k : Type5Key) :
    ((s.handleType5Update cfg txt env route vtep mac valid withdraw converted).pathsOf d).get k =
      if changedPrefix cfg txt route vtep withdraw = some d ∧ k = type5PathKey route then
        (if withdraw then none else some ⟨type5PathKey route, route, vtep, mac, valid⟩)
      else (s.pathsOf d).get k := by
  unfold handleType5Update changedPrefix
  split
  · rw [if_neg fun hc => by cases hc.1]
  · cases parsePrefixRoute txt route.ipPrefix route.ipPrefixLen with
    | none => rw [if_neg fun hc => by cases hc.1]
    | some dst =>
      cases withdraw with
      | true =>
        have hall : (some dst).filter (fun dst => true || !cfg.blackholes.contains dst) =
          some dst := rfl
        rw [hall]
        dsimp only
        rw [if_pos rfl]
        simp only [some.injEq, eq_comm (b := d)]
        split
        · exact forgetShadowedType5Path_get _ d k
        · exact withdrawType5Path_get _ _ _ _ _ d k
      | false =>
        dsimp only
        rw [if_neg Bool.false_ne_true]
        -- A static blackhole route keeps the prefix from being learned.
        by_cases hb : cfg.blackholes.contains dst = true
        · grind
        · have hall : (some dst).filter (fun dst => false || !cfg.blackholes.contains dst) =
              some dst := by
            rw [filter_some, Bool.eq_false_iff.mpr hb]
            rfl
          rw [if_neg hb, hall]
          simp only [some.injEq, eq_comm (b := d)]
          split
          · exact rememberType5Path_get s dst _ d k
          · rw [pathsOf_congr (addType5Path_paths _)]
            exact rememberType5Path_get s dst _ d k

end Type5

end Booty.Gobgp
