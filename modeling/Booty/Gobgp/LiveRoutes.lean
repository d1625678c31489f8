import Booty.Gobgp.Segments

namespace Booty.Gobgp

open Booty.Lib List Option GoMap

/-!
# Live routes of the L2 overlay

The live EAD and MAC routes change only by the update itself: whatever the kernel answers, the code
that follows an update leaves them alone.  The index of IPs, through which Type-5 gateways are
resolved, follows the MAC routes.

* `RoutesKept` — what the code that follows an update leaves alone, with a lemma for each function.
* `handleType1Route_get`, `updateType2_get` — the live routes after an update.
* `type2HasIP_iff` — the index has exactly the IPs of the live MAC routes.
-/

namespace L2

variable {txt : NetText} {env : Env} {s s' : L2} {esi : Esi} {mac m : Mac} {v : Visit}
  {key k : Type2Key} {ip : Ip}

/-! ### Best routes -/

/-- The live routes of a MAC in the order of a loop. -/
def loopPaths (v : Visit) (s : L2) (mac : Mac) : List Type2Path :=
  (v.keys (s.pathsOf mac)).filterMap (s.pathsOf mac).get

/-- The loop visits the routes of the MAC. -/
theorem mem_loopPaths {p : Type2Path} :
    p ∈ s.loopPaths v mac ↔ ∃ k, (s.pathsOf mac).get k = some p := by
  unfold loopPaths
  rw [mem_filterMap]
  constructor
  · rintro ⟨k, -, hk⟩
    exact ⟨k, hk⟩
  · rintro ⟨k, hk⟩
    exact ⟨k, Visit.mem_keys.mpr ⟨p, hk⟩, hk⟩

/-- The loop keeps a route. -/
theorem foldl_pickBetter_some (l : List Type2Path) (a : Type2Path) :
    ∃ b, l.foldl pickBetter (some a) = some b := by
  induction l generalizing a with
  | nil => exact ⟨a, rfl⟩
  | cons q l ih =>
    rw [foldl_cons]
    unfold pickBetter
    dsimp only
    split
    · exact ih q
    · exact ih a

/-- A MAC has a best route exactly when it has a live route. -/
theorem bestType2Path_none : s.bestType2Path v mac = none ↔ ∀ k, (s.pathsOf mac).get k = none := by
  have hloop : s.bestType2Path v mac = (s.loopPaths v mac).foldl pickBetter none := rfl
  constructor
  · intro h k
    cases hk : (s.pathsOf mac).get k with
    | none => rfl
    | some p =>
      obtain ⟨q, l, hl⟩ := exists_cons_of_ne_nil
        (ne_nil_of_mem (mem_loopPaths.mpr ⟨k, hk⟩ : p ∈ s.loopPaths v mac))
      obtain ⟨b, hb⟩ := foldl_pickBetter_some l q
      rw [hloop, hl] at h
      exact absurd (h.symm.trans hb) nofun
  · intro h
    have hnil : s.loopPaths v mac = [] := by
      refine eq_nil_iff_forall_not_mem.mpr fun p hp => ?_
      obtain ⟨k, hk⟩ := mem_loopPaths.mp hp
      rw [h k] at hk
      cases hk
    rw [hloop, hnil]
    rfl

/-! ### What follows an update -/

/-- The live routes and the index of IPs are the same. -/
structure RoutesKept (s s' : L2) : Prop where
  type1Paths : s'.type1Paths = s.type1Paths
  pathsOf : ∀ m, s'.pathsOf m = s.pathsOf m
  type2IPMACs : s'.type2IPMACs = s.type2IPMACs

theorem RoutesKept.refl (s : L2) : RoutesKept s s := ⟨rfl, fun _ => rfl, rfl⟩

theorem RoutesKept.trans {s1 s2 s3 : L2} (h : RoutesKept s1 s2) (h' : RoutesKept s2 s3) :
    RoutesKept s1 s3 :=
  ⟨h'.type1Paths.trans h.type1Paths, fun m => (h'.pathsOf m).trans (h.pathsOf m),
    h'.type2IPMACs.trans h.type2IPMACs⟩

/-- A loop keeps what each of its rounds keeps. -/
theorem foldl_kept {α : Type} {f : L2 → α → L2} (hf : ∀ s a, RoutesKept s (f s a)) (l : List α)
    (s : L2) : RoutesKept s (l.foldl f s) := by
  exact foldlRecOn l f (.refl s) fun s' h a _ => h.trans (hf s' a)

/-- A kernel call leaves the routes alone. -/
theorem call_kept (f : KernelTables → KernelTables) : RoutesKept s (s.call env f).2 := by
  unfold call
  split <;> exact ⟨rfl, fun _ => rfl, rfl⟩

/-- Only an entry without routes is forgotten. -/
theorem forgetEmpty_pathsOf (v : Visit) (m : Mac) :
    (s.forgetEmpty mac (s.bestType2Path v mac)).pathsOf m = s.pathsOf m := by
  unfold forgetEmpty
  split
  next hnone =>
    have hbest : s.bestType2Path v mac = none := isNone_iff_eq_none.mp hnone
    have hempty := bestType2Path_none.mp hbest
    show ((s.type2Paths.delete mac).get m).getD ∅ = (s.type2Paths.get m).getD ∅
    rw [get_delete]
    split
    next hm =>
      -- The routes of the MAC are an empty map either way.
      rw [hm]
      refine (AList.ext ?_).symm
      refine eq_nil_iff_forall_not_mem.mpr fun e he => ?_
      have hmem : e.1 ∈ (s.pathsOf mac).keys := mem_map.mpr ⟨e, he, rfl⟩
      obtain ⟨p, hp⟩ := mem_keys_iff.mp hmem
      rw [hempty] at hp
      cases hp
    next => rfl
  next => rfl

/-- The FDB code changes the FDB entries and their records alone. -/
structure FdbKept (s s' : L2) : Prop extends FdbFrame s s', RoutesKept s s'

theorem FdbKept.refl (s : L2) : FdbKept s s := ⟨.refl s, fun _ => rfl, rfl⟩

theorem FdbKept.trans {s1 s2 s3 : L2} (h : FdbKept s1 s2) (h' : FdbKept s2 s3) : FdbKept s1 s3 :=
  ⟨h.toFdbFrame.trans h'.toFdbFrame, fun m => (h'.pathsOf m).trans (h.pathsOf m),
    h'.type2IPMACs.trans h.type2IPMACs⟩

/-- A call that changes the FDB alone. -/
theorem call_fdbKept {f : KernelTables → KernelTables} (hf : ∀ k, (f k).nexthops = k.nexthops) :
    FdbKept s (s.call env f).2 := by
  unfold call
  split
  · exact ⟨⟨rfl, rfl, rfl⟩, fun _ => rfl, rfl⟩
  · exact ⟨⟨rfl, rfl, hf s.kernel⟩, fun _ => rfl, rfl⟩

/-- The entry of a MAC without routes goes. -/
theorem forgetEmpty_kept (mac : Mac) (v : Visit) :
    FdbKept s (s.forgetEmpty mac (s.bestType2Path v mac)) := by
  refine ⟨?_, forgetEmpty_pathsOf v, ?_⟩ <;> unfold forgetEmpty
  · split <;> exact ⟨rfl, rfl, rfl⟩
  · split <;> rfl

/-- The FDB entry of a MAC goes. -/
theorem deleteType2FDB_kept (mac : Mac) : FdbKept s (s.deleteType2FDB env mac) := by
  have h : FdbKept s (s.fdbDel env mac).2 := call_fdbKept fun _ => rfl
  exact ⟨{ h with }, h.pathsOf, h.type2IPMACs⟩

/-- The FDB entry of a MAC is set. -/
theorem placeFDB_kept (mac : Mac) (want : Option FdbDst) : FdbKept s (s.placeFDB env mac want) := by
  cases want with
  | none => exact .refl s
  | some w =>
    have h : FdbKept s (s.fdbSet env mac w).2 := call_fdbKept fun _ => rfl
    unfold placeFDB
    dsimp only
    split
    · exact h
    · exact ⟨{ h with }, h.pathsOf, h.type2IPMACs⟩

/-- The FDB entry of a MAC is replaced. -/
theorem moveFDB_kept (mac : Mac) (installed want : Option FdbDst) :
    FdbKept s (s.moveFDB env mac installed want) := by
  have hlink : FdbKept s (s.linkByName env).2 := call_fdbKept fun _ => rfl
  unfold moveFDB
  dsimp only
  split
  · exact hlink
  · split
    · exact hlink.trans ((deleteType2FDB_kept mac).trans (placeFDB_kept mac want))
    · exact hlink.trans (placeFDB_kept mac want)

/-- The FDB entry of a MAC. -/
theorem syncType2FDB_kept (mac : Mac) : FdbKept s (s.syncType2FDB txt env mac) := by
  unfold syncType2FDB
  dsimp only
  split
  · exact forgetEmpty_kept mac _
  · exact (forgetEmpty_kept mac _).trans (moveFDB_kept mac _ _)

/-- The FDB entries of a segment. -/
theorem syncESMACs_kept (esi : Esi) : FdbKept s (s.syncESMACs txt env esi) := by
  refine foldlRecOn (motive := FdbKept s) _ _ (.refl s) fun s1 h mac _ => h.trans ?_
  unfold syncESMAC
  split
  · exact syncType2FDB_kept mac
  · exact .refl s1

/-- A nexthop goes. -/
theorem deleteNexthop_kept (id : NexthopID) : RoutesKept s (s.deleteNexthop env id) := by
  have h : RoutesKept s (s.nexthopDel env id).2 := call_kept _
  unfold deleteNexthop
  dsimp only
  split
  · exact { h with }
  · exact h

/-- The nexthops of unused VTEPs go. -/
theorem dropUnusedVTEPNexthops_kept : RoutesKept s (s.dropUnusedVTEPNexthops env) := by
  have hdrop : ∀ (s : L2) vtep, RoutesKept s (s.dropIfUnused env vtep) := by
    intro s vtep
    have hforget : RoutesKept s { s with nh.vtepNexthops := s.nh.vtepNexthops.delete vtep } :=
      ⟨rfl, fun _ => rfl, rfl⟩
    unfold dropIfUnused
    grind [RoutesKept.refl, hforget.trans, deleteNexthop_kept]
  have hstale : RoutesKept s { s with nh.staleNexthops := [] } := ⟨rfl, fun _ => rfl, rfl⟩
  exact (hstale.trans (foldl_kept (fun s id => deleteNexthop_kept id) _ _)).trans
    (foldl_kept hdrop _ _)

/-- The nexthop of a VTEP. -/
theorem vtepNexthopID_kept (vtep : String) : RoutesKept s (s.vtepNexthopID txt env vtep).2 := by
  unfold vtepNexthopID
  split
  · exact .refl s
  · have hid : RoutesKept s s.nextNexthopID.2 := ⟨rfl, fun _ => rfl, rfl⟩
    have h : RoutesKept s (s.nextNexthopID.2.nexthopReplace env s.nextNexthopID.1
        (.vtep (txt.parseIP vtep))).2 := hid.trans (call_kept _)
    dsimp only
    split
    · exact h
    · exact { h with }

/-- The nexthops of a group. -/
theorem memberIDs_kept (txt : NetText) (env : Env) (vteps : List String) (s : L2) :
    RoutesKept s (memberIDs txt env vteps s).2 := by
  induction vteps generalizing s with
  | nil => exact .refl s
  | cons vtep vteps ih =>
    have hvtep : RoutesKept s (s.vtepNexthopID txt env vtep).2 := vtepNexthopID_kept vtep
    unfold memberIDs
    split
    · grind
    next id s1 hs1 =>
      rw [hs1] at hvtep
      have hrest := hvtep.trans (ih s1)
      grind

/-- The group of a segment goes. -/
theorem dropESGroup_kept (old : Option EsGroup) : RoutesKept s (s.dropESGroup txt env esi old) := by
  let s1 : L2 := { s with nh.esGroups := s.nh.esGroups.delete esi }
  have hforget : RoutesKept s s1 := ⟨rfl, fun _ => rfl, rfl⟩
  have hmacs : RoutesKept s (s1.syncESMACs txt env esi) :=
    hforget.trans (syncESMACs_kept esi).toRoutesKept
  cases old with
  | none => exact hmacs.trans dropUnusedVTEPNexthops_kept
  | some g => exact (hmacs.trans (deleteNexthop_kept g.id)).trans dropUnusedVTEPNexthops_kept

/-- The group of a segment is set. -/
theorem setESGroup_kept (old : Option EsGroup) (vteps : List String) (members : List NexthopID) :
    RoutesKept s (s.setESGroup txt env esi old vteps members) := by
  have hid : RoutesKept s (s.groupID old).2 := by
    cases old with
    | none => exact ⟨rfl, fun _ => rfl, rfl⟩
    | some g => exact .refl s
  have hset : RoutesKept s
      ((s.groupID old).2.nexthopReplace env (s.groupID old).1 (.group members)).2 :=
    hid.trans (call_kept _)
  unfold setESGroup
  dsimp only
  split
  · exact hset.trans (dropESGroup_kept old)
  · refine RoutesKept.trans ?_ (syncESMACs_kept esi).toRoutesKept
    refine RoutesKept.trans ?_ dropUnusedVTEPNexthops_kept
    exact { hset with }

/-- **A segment is synced without a change of the live routes.** -/
theorem syncES_kept : RoutesKept s (s.syncES txt env esi) := by
  unfold syncES
  dsimp only
  split
  · exact .refl s
  · split
    · exact dropESGroup_kept _
    · have hmembers := memberIDs_kept txt env (s.activeVTEPs esi) s
      split
      next s1 hs1 => grind [hmembers.trans, dropESGroup_kept]
      next members s1 hs1 => grind [hmembers.trans, setESGroup_kept]

/-- All that follows an EAD update. -/
theorem syncAfterType1_kept (txt : NetText) (env : Env) (s : L2) (esi : Esi) :
    RoutesKept s ((s.syncES txt env esi).syncESMACs txt env esi) :=
  syncES_kept.trans (syncESMACs_kept esi).toRoutesKept

/-! ### The routes after an update -/

variable {cfg : Config} {vtep : String} {withdraw : Bool}

variable {route : Type1Route} {singleActive : Bool}

/-- The EAD routes after an update that was not skipped. -/
theorem handleType1Route_get (k : Type1Key)
    (hused : esiKey route.esi = some esi ∧ (withdraw = true ∨ usableType1 cfg txt vtep = true)) :
    (s.handleType1Route cfg txt env route vtep singleActive withdraw).type1Paths.get k =
      if k = type1Key route then
        if withdraw then none
        else some ⟨esi, vtep, route.ethernetTag == maxET,
          route.ethernetTag == maxET && singleActive⟩
      else s.type1Paths.get k := by
  have hskip : ¬ (!withdraw && !usableType1 cfg txt vtep) = true := by
    rcases hused.2 with h | h <;> simp [h]
  have hkept := syncAfterType1_kept txt env (s.updateType1 route esi vtep singleActive withdraw) esi
  unfold handleType1Route
  rw [hused.1]
  dsimp only
  rw [if_neg hskip, hkept.type1Paths]
  cases withdraw with
  | true => exact get_delete _ _ _
  | false => exact get_set _ _ _ _

/-- An update that cannot be used does nothing. -/
theorem handleType1Route_skipped
    (h : esiKey route.esi = none ∨ (withdraw = false ∧ usableType1 cfg txt vtep = false)) :
    s.handleType1Route cfg txt env route vtep singleActive withdraw = s := by
  unfold handleType1Route
  split
  · rfl
  next esi hesi => grind

/-- The MAC routes after an update: the one of the key is replaced. -/
theorem routeType2_get (mac : Mac) (key : Type2Key) (ip : Option Ip)
    (p : Option Type2Path) (m : Mac)
    (k : Type2Key) : ((s.routeType2 mac key ip p).pathsOf m).get k =
      if m = mac ∧ k = key then p else (s.pathsOf m).get k := by
  have hset : ∀ paths : GoMap Type2Key Type2Path, ((s.type2Paths.set mac paths).get m).getD ∅ =
      if m = mac then paths else s.pathsOf m := by
    intro paths
    rw [get_set]
    split <;> rfl
  cases p with
  | some p =>
    have hpaths : (s.routeType2 mac key ip (some p)).pathsOf m =
        if m = mac then (s.pathsOf mac).set key p else s.pathsOf m := by
      rw [← hset]
      show (s.rememberType2Path mac key p).pathsOf m = _
      unfold rememberType2Path
      split <;> rfl
    rw [hpaths]
    by_cases hm : m = mac
    · rw [if_pos hm, get_set, hm]
      simp
    · rw [if_neg hm, if_neg fun h => hm h.1]
  | none =>
    have hpaths : (s.routeType2 mac key ip none).pathsOf m = (s.deletePath mac key).pathsOf m := by
      show (s.forgetType2Path mac key ip).pathsOf m = _
      unfold forgetType2Path
      split
      · rfl
      · unfold unindexIP
        split <;> rfl
    rw [hpaths]
    unfold deletePath
    -- A MAC that is not known has no routes to forget.
    cases hmac : s.type2Paths.get mac with
    | none =>
      by_cases h : m = mac ∧ k = key
      · rw [if_pos h, h.1]
        show ((s.type2Paths.get mac).getD ∅).get k = none
        rw [hmac]
        exact get_empty k
      · rw [if_neg h]
    | some paths =>
      show (((s.type2Paths.set mac (paths.delete key)).get m).getD ∅).get k = _
      rw [hset]
      by_cases hm : m = mac
      · have hhere : s.pathsOf mac = paths := by
          show (s.type2Paths.get mac).getD ∅ = paths
          rw [hmac]
          rfl
        rw [if_pos hm, get_delete, hm, hhere]
        simp
      · rw [if_neg hm, if_neg fun h => hm h.1]

/-- **An update of a MAC route** replaces the route of its key and no other. -/
theorem updateType2_get (mac : Mac) (key : Type2Key) (ip : Option Ip)
    (p : Option Type2Path) (m : Mac)
    (k : Type2Key) : ((s.updateType2 txt env mac key ip p).pathsOf m).get k =
      if m = mac ∧ k = key then p else (s.pathsOf m).get k := by
  unfold updateType2
  rw [(syncType2FDB_kept mac).pathsOf]
  exact routeType2_get mac key ip p m k

/-! ### The index of IPs -/

/-- The index has the MAC under the IP. -/
def InIndex (s : L2) (ip : Ip) (m : Mac) : Prop := ((s.type2IPMACs.get ip).getD ∅).get m = some ()

/-- A live route of the MAC has the IP. -/
def RouteWithIP (s : L2) (ip : Ip) (m : Mac) : Prop :=
  ∃ k p, (s.pathsOf m).get k = some p ∧ p.ip = some ip

/-- The routes are stored under their MAC with the IP of their key, and the index has their IPs. -/
structure Indexed (txt : NetText) (s : L2) : Prop where
  keyed : ∀ m k p, (s.pathsOf m).get k = some p →
    txt.parseLowerMAC k.mac = some m ∧ p.ip = type2IP txt k.ip
  index : ∀ ip m, s.InIndex ip m ↔ s.RouteWithIP ip m

theorem indexed_empty (txt : NetText) : Indexed txt .empty := by
  refine ⟨fun m k p hp => ?_, fun ip m => ⟨fun h => ?_, fun ⟨k, p, hp, _⟩ => ?_⟩⟩
  · cases hp
  · cases h
  · cases hp

/-- What keeps the routes keeps the index. -/
theorem RoutesKept.indexed (hk : RoutesKept s s') (h : Indexed txt s) : Indexed txt s' := by
  refine ⟨fun m k p hp => h.keyed m k p (by rw [← hk.pathsOf]; exact hp), fun ip m => ?_⟩
  unfold InIndex RouteWithIP
  rw [hk.pathsOf, hk.type2IPMACs]
  exact h.index ip m

/-- An IP is resolved if the index has it. -/
theorem type2HasIP_iff_inIndex : s.type2HasIP ip = true ↔ ∃ m, s.InIndex ip m := by
  unfold type2HasIP InIndex
  cases s.type2IPMACs.get ip with
  | none => simp
  | some macs =>
    show decide (macs.keys ≠ []) = true ↔ ∃ m, macs.get m = some ()
    rw [decide_eq_true_iff]
    constructor
    · intro hne
      obtain ⟨m, hm⟩ := exists_mem_of_ne_nil _ hne
      obtain ⟨u, hu⟩ := mem_keys_iff.mp hm
      exact ⟨m, hu⟩
    · rintro ⟨m, hm⟩
      exact ne_nil_of_mem (mem_keys_iff.mpr ⟨(), hm⟩)

/-- **The index is exact.** -/
theorem type2HasIP_iff (h : Indexed txt s) : s.type2HasIP ip = true ↔ ∃ m, s.RouteWithIP ip m := by
  rw [type2HasIP_iff_inIndex]
  exact exists_congr fun m => h.index ip m

/-- A new route adds its MAC under its IP. -/
theorem rememberType2Path_inIndex (mac : Mac) (key : Type2Key) (p : Type2Path) (ip : Ip) (m : Mac) :
    (s.rememberType2Path mac key p).InIndex ip m ↔ (p.ip = some ip ∧ m = mac) ∨ s.InIndex ip m := by
  unfold rememberType2Path InIndex
  cases hip : p.ip with
  | none => simp
  | some i =>
    grind

/-- A MAC without a route with the IP leaves the index of the IP. -/
theorem unindexIP_inIndex (mac : Mac) (i ip : Ip) (m : Mac) :
    (s.unindexIP mac i).InIndex ip m ↔
      s.InIndex ip m ∧ (ip = i → m = mac → s.RouteWithIP i mac) := by
  have hany : (s.pathsOf mac).values.any (fun p => p.ip = some i) = true ↔ s.RouteWithIP i mac := by
    rw [List.any_eq_true]
    constructor
    · rintro ⟨p, hp, hip⟩
      obtain ⟨k, hk⟩ := mem_values.mp hp
      exact ⟨k, p, hk, of_decide_eq_true hip⟩
    · rintro ⟨k, p, hk, hip⟩
      exact ⟨p, mem_values.mpr ⟨k, hk⟩, decide_eq_true hip⟩
  unfold unindexIP
  split
  next h => grind
  next h =>
    have hno : ¬ s.RouteWithIP i mac := fun hc => h (hany.mpr hc)
    let macs := ((s.type2IPMACs.get i).getD ∅).delete mac
    let index := if macs.keys = [] then s.type2IPMACs.delete i else s.type2IPMACs.set i macs
    have hmacs : ((index.get ip).getD ∅).get m =
        if ip = i then macs.get m else ((s.type2IPMACs.get ip).getD ∅).get m := by
      unfold index
      split
      next hnil =>
        rw [get_delete]
        split
        · -- No MAC is left, so the IP itself goes.
          cases hm : macs.get m with
          | none => exact get_empty m
          | some u => exact absurd (hnil ▸ mem_keys_iff.mpr ⟨u, hm⟩) not_mem_nil
        · rfl
      next =>
        rw [get_set]
        split <;> rfl
    show ((index.get ip).getD ∅).get m = some () ↔ _
    rw [hmacs]
    by_cases hi : ip = i
    · rw [get_delete, hi]
      by_cases hm : m = mac
      · simp [hm, hno]
      · aesop
    · aesop

/-- What `handleType2Update` passes on: the MAC and the IP of the key, and a route with this IP. -/
structure Type2Args (txt : NetText) (mac : Mac) (key : Type2Key) (i : Option Ip)
    (p : Option Type2Path) : Prop where
  mac : txt.parseLowerMAC key.mac = some mac
  ip : i = type2IP txt key.ip
  path : ∀ q, p = some q → q.ip = i

variable {p : Option Type2Path}

/-- What the checks of an update give. -/
theorem type2Change_args {route : Type2Route} {seq : BitVec 32} {sticky router : Bool}
    (h : type2Change cfg txt route vtep seq sticky router withdraw = some (mac, p)) :
    Type2Args txt mac (type2Key route) (type2IP txt route.ipAddress) p := by
  obtain ⟨mac', hmac, h⟩ := bind_eq_some_iff.mp h
  split at h
  · cases h
    exact ⟨hmac, rfl, fun q hq => by cases hq⟩
  · obtain ⟨remoteIP, -, h⟩ := bind_eq_some_iff.mp h
    split at h
    · cases h
    · cases h
      exact ⟨hmac, rfl, fun q hq => by cases hq; rfl⟩

theorem deletePath_type2IPMACs (mac : Mac) (key : Type2Key) :
    (s.deletePath mac key).type2IPMACs = s.type2IPMACs := by
  unfold deletePath
  split <;> rfl

/-- **The index follows an update.** The old and the new route of the key have the same IP. -/
theorem routeType2_indexed {i : Option Ip} (h : Indexed txt s)
    (hargs : Type2Args txt mac key i p) : Indexed txt (s.routeType2 mac key i p) := by
  have hget := routeType2_get (s := s) mac key i p
  have hold : ∀ q, (s.pathsOf mac).get key = some q → q.ip = i :=
    fun q hq => (h.keyed mac key q hq).2.trans hargs.ip.symm
  refine ⟨fun m k q hq => ?_, fun ip m => ?_⟩
  · rw [hget] at hq
    split at hq
    next hk => simp_all [hargs.mac, hargs.path, hargs.ip]
    next => exact h.keyed m k q hq
  · cases p with
    | some p =>
      have hp : p.ip = i := hargs.path p rfl
      show (s.rememberType2Path mac key p).InIndex ip m ↔ _
      rw [rememberType2Path_inIndex, h.index]
      constructor
      · rintro (⟨hip, hm⟩ | ⟨k, q, hq, hip⟩)
        · exact ⟨key, p, by rw [hget, if_pos ⟨hm, rfl⟩], hip⟩
        · by_cases hk : m = mac ∧ k = key
          · exact ⟨key, p, by grind⟩
          · exact ⟨k, q, by grind⟩
      · rintro ⟨k, q, hq, hip⟩
        rw [hget] at hq
        grind [RouteWithIP]
    | none =>
      -- A withdrawal takes away the route of the key, which may be the last one with its IP.
      have hless : ∀ ip m, (s.routeType2 mac key i none).RouteWithIP ip m → s.RouteWithIP ip m := by
        rintro ip m ⟨k, q, hq, hip⟩
        rw [hget] at hq
        exact ⟨k, q, by grind⟩
      have hmost : ∀ ip m, s.RouteWithIP ip m →
          (s.routeType2 mac key i none).RouteWithIP ip m ∨ (i = some ip ∧ m = mac) := by
        rintro ip m ⟨k, q, hq, hip⟩
        by_cases hk : m = mac ∧ k = key
        · grind
        · exact .inl ⟨k, q, by grind⟩
      have hin : ∀ ip m, (s.deletePath mac key).InIndex ip m ↔ s.RouteWithIP ip m := by
        intro ip m
        unfold InIndex
        rw [deletePath_type2IPMACs]
        exact h.index ip m
      cases i with
      | none =>
        show (s.deletePath mac key).InIndex ip m ↔ _
        rw [hin]
        exact ⟨fun hr => (hmost ip m hr).elim id fun hc => (by cases hc.1), hless ip m⟩
      | some i =>
        have hroutes : ∀ ip m, (s.routeType2 mac key (some i) none).RouteWithIP ip m ↔
            (s.deletePath mac key).RouteWithIP ip m := by
          intro ip m
          show ((s.deletePath mac key).unindexIP mac i).RouteWithIP ip m ↔ _
          unfold unindexIP
          split <;> exact Iff.rfl
        show ((s.deletePath mac key).unindexIP mac i).InIndex ip m ↔ _
        rw [unindexIP_inIndex]
        grind

/-- An update changes the index of its own IP alone. -/
theorem routeType2_type2HasIP {i : Option Ip} (hargs : Type2Args txt mac key i p)
    (hne : i ≠ some ip) : (s.routeType2 mac key i p).type2HasIP ip = s.type2HasIP ip := by
  suffices h : (s.routeType2 mac key i p).type2IPMACs.get ip = s.type2IPMACs.get ip by
    unfold type2HasIP
    rw [h]
  cases p with
  | some p =>
    show (s.rememberType2Path mac key p).type2IPMACs.get ip = _
    unfold rememberType2Path
    rw [hargs.path p rfl]
    cases i with
    | none => rfl
    | some i => grind
  | none =>
    have hdel := deletePath_type2IPMACs (s := s) mac key
    cases i with
    | none => tauto
    | some i =>
      show ((s.deletePath mac key).unindexIP mac i).type2IPMACs.get ip = _
      unfold unindexIP
      split
      · rw [hdel]
      · grind

/-- An EAD update leaves the MAC routes and the index alone. -/
theorem handleType1Route_rest (cfg : Config) (txt : NetText) (env : Env) (s : L2)
    (route : Type1Route)
    (vtep : String) (singleActive withdraw : Bool) :
    (∀ m, (s.handleType1Route cfg txt env route vtep singleActive withdraw).pathsOf m =
      s.pathsOf m) ∧
      (s.handleType1Route cfg txt env route vtep singleActive withdraw).type2IPMACs =
        s.type2IPMACs := by
  unfold handleType1Route
  split
  · exact ⟨fun _ => rfl, rfl⟩
  next esi _ =>
    split
    · exact ⟨fun _ => rfl, rfl⟩
    · have hkept :=
        syncAfterType1_kept txt env (s.updateType1 route esi vtep singleActive withdraw) esi
      have hupdate :
          (s.updateType1 route esi vtep singleActive withdraw).type2Paths = s.type2Paths ∧
          (s.updateType1 route esi vtep singleActive withdraw).type2IPMACs = s.type2IPMACs := by
        unfold updateType1
        split <;> exact ⟨rfl, rfl⟩
      refine ⟨fun m => ?_, hkept.type2IPMACs.trans hupdate.2⟩
      rw [hkept.pathsOf]
      unfold pathsOf
      rw [hupdate.1]

/-- **Every step keeps the index exact.** -/
theorem l2Step_indexed {e : L2Event} (h : Indexed txt s)
    (hs : l2Step cfg txt s e = some s') : Indexed txt s' := by
  cases e with
  | type1 route vtep singleActive withdraw env =>
    cases hs
    obtain ⟨hpaths, hindex⟩ := handleType1Route_rest cfg txt env s route vtep singleActive withdraw
    refine ⟨fun m k p hp => h.keyed m k p (by rw [← hpaths]; exact hp), fun ip m => ?_⟩
    unfold InIndex RouteWithIP
    rw [hpaths, hindex]
    exact h.index ip m
  | type2 route vtep seq sticky router withdraw env =>
    cases hs
    unfold handleType2
    cases hc : type2Change cfg txt route vtep seq sticky router withdraw with
    | none => exact h
    | some c =>
      exact (syncType2FDB_kept c.1).toRoutesKept.indexed
        (routeType2_indexed h (type2Change_args hc))

/-- No entry of the index is empty. -/
def NoEmptyEntry (s : L2) : Prop := ∀ ip macs, s.type2IPMACs.get ip = some macs → macs.keys ≠ []

/-- The routes of a MAC go with the last of them. -/
theorem routeType2_noEmptyEntry {i : Option Ip} (h : NoEmptyEntry s) :
    NoEmptyEntry (s.routeType2 mac key i p) := by
  have hdel := deletePath_type2IPMACs (s := s) mac key
  cases p with
  | some p =>
    show NoEmptyEntry (s.rememberType2Path mac key p)
    unfold rememberType2Path
    cases hip : p.ip with
    | none => exact h
    | some i =>
      intro ip macs hmacs
      rcases get_set_eq_some.mp hmacs with ⟨-, rfl⟩ | ⟨-, hmacs⟩
      · exact ne_nil_of_mem (mem_keys_iff.mpr ⟨(), get_set_self _ mac _⟩)
      · exact h ip macs hmacs
  | none =>
    cases i with
    | none => simpa only [NoEmptyEntry, routeType2, forgetType2Path, hdel] using h
    | some i =>
      intro ip macs hmacs
      simp only [routeType2, forgetType2Path, unindexIP] at hmacs
      grind [NoEmptyEntry]

/-- One update. -/
theorem l2Step_noEmptyEntry {e : L2Event} (h : NoEmptyEntry s)
    (hs : l2Step cfg txt s e = some s') : NoEmptyEntry s' := by
  cases e with
  | type1 route vtep singleActive withdraw env =>
    cases hs
    unfold NoEmptyEntry
    rw [(handleType1Route_rest cfg txt env s route vtep singleActive withdraw).2]
    exact h
  | type2 route vtep seq sticky router withdraw env =>
    cases hs
    unfold handleType2
    split
    · exact h
    next mac p hc =>
      unfold NoEmptyEntry updateType2
      rw [(syncType2FDB_kept mac).type2IPMACs]
      exact routeType2_noEmptyEntry h

end L2

/-- **The index of IPs over whole runs.**  After every sequence of updates the index has the MACs of
    the live routes with the IP and no empty entry, so that `type2HasIP` finds the live routes. -/
theorem type2_index_exact {cfg : Config} {txt : NetText} {s : L2}
    (h : (l2Machine cfg txt).Reachable s) :
    (∀ ip mac, s.InIndex ip mac ↔ s.RouteWithIP ip mac) ∧
      (∀ ip macs, s.type2IPMACs.get ip = some macs → macs.keys ≠ []) ∧
      ∀ ip, s.type2HasIP ip = true ↔ ∃ mac, s.RouteWithIP ip mac := by
  have hinv : s.Indexed txt ∧ s.NoEmptyEntry :=
    Machine.Reachable.invariant (I := fun s => s.Indexed txt ∧ s.NoEmptyEntry) h
      ⟨L2.indexed_empty txt, nofun⟩
      fun s e s' hi hs => ⟨L2.l2Step_indexed hi.1 hs, L2.l2Step_noEmptyEntry hi.2 hs⟩
  exact ⟨hinv.1.index, hinv.2, fun ip => L2.type2HasIP_iff hinv.1⟩

/-- A MAC/IP route is announced, and its IP is found. -/
theorem type2_index_announced :
    ∃ s, (l2Machine sampleConfig sampleText).Reachable s ∧ s.type2HasIP (.ofV4 0x0a090001) = true ∧
      ∃ mac, s.RouteWithIP (.ofV4 0x0a090001) mac := by
  let route : Type2Route := ⟨"a", ⟨0, []⟩, 0, "02:00:00:00:00:01", "10.9.0.1"⟩
  let s := L2.handleType2 sampleConfig sampleText .working .empty route "10.0.0.2" 0 false false
    false
  have hstep : (l2Machine sampleConfig sampleText).run .empty
    [.type2 route "10.0.0.2" 0 false false false .working] = some s := rfl
  have hrun : (l2Machine sampleConfig sampleText).Reachable s := Machine.reachable_of_run hstep
  have hhas : s.type2HasIP (.ofV4 0x0a090001) = true := by decide +kernel
  exact ⟨s, hrun, hhas, ((type2_index_exact hrun).2.2 _).mp hhas⟩

end Booty.Gobgp
