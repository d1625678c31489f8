import Booty.Gobgp.Evpn
import Booty.Lib.SortBy
import Booty.Lib.System

namespace Booty.Gobgp

open Booty.Lib

/-!
# Ethernet segments and the FDB (`pkg/network/gobgp/esi.go`, `overlay.go`)

The receive side of EVPN multihoming: live EAD (Type-1) and MAC (Type-2) routes, the FDB nexthop
group of each Ethernet segment, the nexthops of its VTEPs and the FDB entry of each MAC.  Every
kernel call can fail and then leaves the kernel as it is.  A run of the code passes through several
kernel states within one update; `seen` records all of them.

* `handleType1Route` — an EAD route comes or goes; `syncES` and `syncESMACs` follow it.
* `updateType2` — a MAC route comes or goes; `syncType2FDB` follows it.
* `removeESState` — the nexthops go at Teardown.
-/

/-! ### State -/

/-- The ID of a nexthop object. -/
abbrev NexthopID := BitVec 32

/-- `type1Path`: a live EAD route. -/
structure Type1Path where
  esi : Esi
  vtep : String
  perES : Bool
  singleActive : Bool
deriving DecidableEq, Repr

/-- `esGroup`: the installed nexthop group of an ES and its VTEPs. -/
structure EsGroup where
  id : NexthopID
  vteps : List String
deriving DecidableEq, Repr

/-- `type2Path`: a live MAC route; without an ESI the MAC is single-homed. -/
structure Type2Path where
  vtep : Ip
  seq : BitVec 32
  sticky : Bool
  router : Bool
  ip : Option Ip
  esi : Option Esi
deriving DecidableEq, Repr

/-- What an FDB entry points at. -/
inductive FdbDst
  | vtep (ip : Ip)
  | group (id : NexthopID)
deriving DecidableEq, Repr

/-- The destination is a group. -/
def FdbDst.isGroup : FdbDst → Bool
  | vtep _ => false
  | group _ => true

/-- `fdbNexthop`: a VTEP, or a group of nexthops. -/
inductive FdbNexthop
  | vtep (ip : Option Ip)
  | group (ids : List NexthopID)
deriving DecidableEq, Repr

/-- The kernel: the nexthop objects of the overlay and the FDB of the VXLAN device. -/
structure KernelTables where
  nexthops : GoMap NexthopID FdbNexthop
  fdb : GoMap Mac FdbDst

/-- What the overlay records of its nexthops. -/
structure Nexthops where
  esGroups : GoMap Esi EsGroup
  vtepNexthops : GoMap String NexthopID
  staleNexthops : List NexthopID
  lastNexthopID : BitVec 32

/-- The state of the L2 overlay and the kernel. -/
structure L2 where
  type1Paths : GoMap Type1Key Type1Path
  type2Paths : GoMap Mac (GoMap Type2Key Type2Path)
  type2IPMACs : GoMap Ip (GoMap Mac Unit)
  nh : Nexthops
  type2FDB : GoMap Mac FdbDst
  kernel : KernelTables
  seen : List KernelTables
  calls : Nat

/-- Nothing is known and nothing is installed. -/
def L2.empty : L2 where
  type1Paths := ∅
  type2Paths := ∅
  type2IPMACs := ∅
  nh := ⟨∅, ∅, [], 0⟩
  type2FDB := ∅
  kernel := ⟨∅, ∅⟩
  seen := []
  calls := 0

/-- `nhIDBase`. -/
def nhIDBase : NexthopID := 0x0B007000

/-! ### The best route of a MAC -/

/-- `better`: sticky routes first, then serial number arithmetic, then the lower VTEP. -/
def Type2Path.better (a b : Type2Path) : Bool :=
  if a.sticky != b.sticky then a.sticky
  else
    let d := (a.seq - b.seq).toInt
    if d ≠ 0 then decide (0 < d) else decide (a.vtep.bits.toNat < b.vtep.bits.toNat)

/-- One round of the loop of `bestType2Path`. -/
def pickBetter (best : Option Type2Path) (p : Type2Path) : Option Type2Path :=
  match best with
  | none => some p
  | some b => if p.better b then some p else some b

namespace L2
variable (cfg : Config) (txt : NetText) (env : Env) (s : L2)

/-- The live routes of a MAC. -/
def pathsOf (mac : Mac) : GoMap Type2Key Type2Path := (s.type2Paths.get mac).getD ∅

/-- `bestType2Path`, with the order in which the loop visits the routes. -/
def bestType2Path (v : Visit) (s : L2) (mac : Mac) : Option Type2Path :=
  ((v.keys (s.pathsOf mac)).filterMap (s.pathsOf mac).get).foldl pickBetter none

/-! ### Ethernet segments -/

/-- `esSingleActive`. -/
def esSingleActive (esi : Esi) : Bool :=
  s.type1Paths.values.any (fun p => p.esi = esi && p.singleActive)

/-- `activeVTEPs`: the VTEPs with both EAD routes for the ES, sorted. -/
def activeVTEPs (esi : Esi) : List String :=
  let here := s.type1Paths.values.filter (fun p => p.esi = esi)
  let perES := (here.filter (fun p => p.perES)).map Type1Path.vtep
  let perEVI := (here.filter (fun p => !p.perES)).map Type1Path.vtep
  sortBy id (perES.dedup.filter (fun v => perEVI.contains v))

/-- `wantedFDB`: the FDB entry for the best route of a MAC. -/
def wantedFDB (best : Option Type2Path) : Option FdbDst :=
  match best with
  | none => none
  | some b =>
    match b.esi with
    | none => some (.vtep b.vtep)
    | some esi =>
      if s.esSingleActive esi then
        if (s.activeVTEPs esi).contains (txt.ipString b.vtep) then some (.vtep b.vtep) else none
      else match s.nh.esGroups.get esi with
        | some g => some (.group g.id)
        | none =>
          -- The ES is active, its group failed.
          if s.activeVTEPs esi ≠ [] then some (.vtep b.vtep) else none

/-! ### Kernel calls -/

/-- A kernel call that does `f` unless it fails. -/
def call (f : KernelTables → KernelTables) : Bool × L2 :=
  if env.fails s.calls then (true, { s with calls := s.calls + 1 })
  else (false, { s with calls := s.calls + 1, kernel := f s.kernel, seen := f s.kernel :: s.seen })

/-- `LinkByName`. -/
def linkByName : Bool × L2 := s.call env id

/-- `NexthopReplace`. -/
def nexthopReplace (id : NexthopID) (nh : FdbNexthop) : Bool × L2 :=
  s.call env (fun k => { k with nexthops := k.nexthops.set id nh })

/-- `NexthopDel`. -/
def nexthopDel (id : NexthopID) : Bool × L2 :=
  s.call env (fun k => { k with nexthops := k.nexthops.delete id })

/-- `NeighSet` of a VTEP entry or `FDBNhidSet`. -/
def fdbSet (mac : Mac) (dst : FdbDst) : Bool × L2 :=
  s.call env (fun k => { k with fdb := k.fdb.set mac dst })

/-- `NeighDel` of a VTEP entry or `FDBDel`. -/
def fdbDel (mac : Mac) : Bool × L2 :=
  s.call env (fun k => { k with fdb := k.fdb.delete mac })

/-! ### FDB entries -/

/-- `deleteType2FDB`: the entry is forgotten also when the call fails. -/
def deleteType2FDB (mac : Mac) : L2 :=
  let (_, s) := s.fdbDel env mac
  { s with type2FDB := s.type2FDB.delete mac }

/-- A MAC without a live route is forgotten. -/
def forgetEmpty (mac : Mac) (best : Option Type2Path) : L2 :=
  if best.isNone then { s with type2Paths := s.type2Paths.delete mac } else s

/-- The kernel does not replace a VTEP entry by a group entry or the other way round, so an entry
    that changes its kind is deleted first, as is one that goes. -/
def clearsFirst (installed want : Option FdbDst) : Bool :=
  installed.isSome && (want.isNone || installed.any (·.isGroup) || want.any (·.isGroup))

/-- The new entry of a MAC, if it gets one. -/
def placeFDB (mac : Mac) (want : Option FdbDst) : L2 :=
  match want with
  | none => s
  | some w =>
    let (failed, s) := s.fdbSet env mac w
    if failed then s else { s with type2FDB := s.type2FDB.set mac w }

/-- The kernel calls of `syncType2FDB`. -/
def moveFDB (mac : Mac) (installed want : Option FdbDst) : L2 :=
  let (failed, s) := s.linkByName env
  if failed then s
  else if clearsFirst installed want then placeFDB env (s.deleteType2FDB env mac) mac want
  else placeFDB env s mac want

/-- `syncType2FDB`: the FDB entry of a MAC follows its best live route. -/
def syncType2FDB (mac : Mac) : L2 :=
  let best := s.bestType2Path (env.visit s.calls) mac
  let s := s.forgetEmpty mac best
  let want := s.wantedFDB txt best
  if want = s.type2FDB.get mac then s else s.moveFDB env mac (s.type2FDB.get mac) want

/-- One round of `syncESMACs`. -/
def syncESMAC (esi : Esi) (s : L2) (mac : Mac) : L2 :=
  if (s.bestType2Path (env.visit s.calls) mac).any (fun b => b.esi = some esi) then
    s.syncType2FDB txt env mac
  else s

/-- `syncESMACs`: the MACs whose best route has the ESI. -/
def syncESMACs (esi : Esi) : L2 :=
  ((env.visit s.calls).keys s.type2Paths).foldl (syncESMAC txt env esi) s

/-! ### Nexthops -/

/-- `deleteNexthop`: an ID whose delete fails is kept for a retry. -/
def deleteNexthop (id : NexthopID) : L2 :=
  let (failed, s) := s.nexthopDel env id
  if failed then { s with nh.staleNexthops := s.nh.staleNexthops ++ [id] } else s

/-- `nextNexthopID`, in 32 bit arithmetic. -/
def nextNexthopID : NexthopID × L2 :=
  let last := s.nh.lastNexthopID + 1
  (nhIDBase + last, { s with nh.lastNexthopID := last })

/-- `vtepNexthopID`: the nexthop of a VTEP, created on first use. -/
def vtepNexthopID (vtep : String) : Option NexthopID × L2 :=
  match s.nh.vtepNexthops.get vtep with
  | some id => (some id, s)
  | none =>
    let (id, s) := s.nextNexthopID
    let (failed, s) := s.nexthopReplace env id (.vtep (txt.parseIP vtep))
    if failed then (none, s)
    else (some id, { s with nh.vtepNexthops := s.nh.vtepNexthops.set vtep id })

/-- The members of a group: `none` when a VTEP nexthop cannot be made. -/
def memberIDs (txt : NetText) (env : Env) : List String → L2 → Option (List NexthopID) × L2
  | [], s => (some [], s)
  | v :: vteps, s =>
    match s.vtepNexthopID txt env v with
    | (none, s) => (none, s)
    | (some id, s) =>
      match memberIDs txt env vteps s with
      | (none, s) => (none, s)
      | (some ids, s) => (some (id :: ids), s)

/-- A group uses the VTEP. -/
def usesVtep (vtep : String) : Bool :=
  s.nh.esGroups.values.any (fun g => g.vteps.contains vtep)

/-- One round of the second loop of `dropUnusedVTEPNexthops`. -/
def dropIfUnused (vtep : String) : L2 :=
  match s.nh.vtepNexthops.get vtep with
  | none => s
  | some id =>
    if s.usesVtep vtep then s
    else deleteNexthop env { s with nh.vtepNexthops := s.nh.vtepNexthops.delete vtep } id

/-- `dropUnusedVTEPNexthops`: the failed deletes are tried again, then the VTEP nexthops that no
    group uses go. -/
def dropUnusedVTEPNexthops : L2 :=
  let stale := s.nh.staleNexthops
  let s := stale.foldl (deleteNexthop env) { s with nh.staleNexthops := [] }
  ((env.visit s.calls).keys s.nh.vtepNexthops).foldl (dropIfUnused env) s

/-! ### Groups -/

/-- `dropESGroup`: the MACs move off the group before it goes. -/
def dropESGroup (esi : Esi) (old : Option EsGroup) : L2 :=
  let s := { s with nh.esGroups := s.nh.esGroups.delete esi }
  let s := s.syncESMACs txt env esi
  let s := match old with
    | some g => s.deleteNexthop env g.id
    | none => s
  s.dropUnusedVTEPNexthops env

/-- The ID of a group: that of the installed group, or a new one. -/
def groupID (old : Option EsGroup) : NexthopID × L2 :=
  match old with
  | some g => (g.id, s)
  | none => s.nextNexthopID

/-- The part of `syncES` after the members are known. -/
def setESGroup (esi : Esi) (old : Option EsGroup)
    (vteps : List String) (members : List NexthopID) : L2 :=
  let (id, s) := s.groupID old
  let (failed, s) := s.nexthopReplace env id (.group members)
  if failed then s.dropESGroup txt env esi old
  else
    let s := { s with nh.esGroups := s.nh.esGroups.set esi ⟨id, vteps⟩ }
    let s := s.dropUnusedVTEPNexthops env
    s.syncESMACs txt env esi

/-- `syncES`: the nexthop group of an ES follows its active VTEPs. -/
def syncES (esi : Esi) : L2 :=
  let vteps := s.activeVTEPs esi
  let old := s.nh.esGroups.get esi
  if old.any (·.vteps = vteps) ∨ (old = none ∧ vteps = []) then s
  else if vteps = [] then s.dropESGroup txt env esi old
  else
    match s.memberIDs txt env vteps with
    | (none, s) => s.dropESGroup txt env esi old
    | (some members, s) => s.setESGroup txt env esi old vteps members

/-! ### Updates -/

/-- The live EAD routes after an update. -/
def updateType1 (route : Type1Route) (esi : Esi) (vtep : String)
    (singleActive withdraw : Bool) : L2 :=
  if withdraw then { s with type1Paths := s.type1Paths.delete (type1Key route) }
  else
    let perES := route.ethernetTag == maxET
    let p : Type1Path :=
      { esi := esi, vtep := vtep, perES := perES, singleActive := perES && singleActive }
    { s with type1Paths := s.type1Paths.set (type1Key route) p }

/-- An EAD announcement is used only with an IPv4 next hop of another node. -/
def usableType1 (vtep : String) : Bool :=
  (txt.parseIP vtep).any (·.to4.isSome) && vtep != cfg.routerID

/-- `handleType1Route`. -/
def handleType1Route (route : Type1Route) (vtep : String) (singleActive withdraw : Bool) : L2 :=
  match esiKey route.esi with
  | none => s
  | some esi =>
    if !withdraw && !usableType1 cfg txt vtep then s
    else
      let s := s.updateType1 route esi vtep singleActive withdraw
      let s := s.syncES txt env esi
      s.syncESMACs txt env esi      -- the Single-Active flag may have changed

/-- `rememberType2Path`. -/
def rememberType2Path (mac : Mac) (key : Type2Key) (p : Type2Path) : L2 :=
  let s := { s with type2Paths := s.type2Paths.set mac ((s.pathsOf mac).set key p) }
  match p.ip with
  | none => s
  | some ip =>
    { s with type2IPMACs :=
        s.type2IPMACs.set ip (((s.type2IPMACs.get ip).getD ∅).set mac ()) }

/-- The route of a key goes. -/
def deletePath (mac : Mac) (key : Type2Key) : L2 :=
  match s.type2Paths.get mac with
  | none => s
  | some paths => { s with type2Paths := s.type2Paths.set mac (paths.delete key) }

/-- The MAC leaves the index of an IP with its last route that has the IP. -/
def unindexIP (mac : Mac) (ip : Ip) : L2 :=
  if (s.pathsOf mac).values.any (fun p => p.ip = some ip) then s
  else
    let macs := ((s.type2IPMACs.get ip).getD ∅).delete mac
    { s with type2IPMACs :=
        if macs.keys = [] then s.type2IPMACs.delete ip else s.type2IPMACs.set ip macs }

/-- `forgetType2Path`. -/
def forgetType2Path (mac : Mac) (key : Type2Key) (ip : Option Ip) : L2 :=
  match ip with
  | none => s.deletePath mac key
  | some ip => (s.deletePath mac key).unindexIP mac ip

/-- The live MAC routes after an update; `none` is a withdrawal. -/
def routeType2 (mac : Mac) (key : Type2Key) (ip : Option Ip) (p : Option Type2Path) : L2 :=
  match p with
  | none => s.forgetType2Path mac key ip
  | some p => s.rememberType2Path mac key p

/-- The part of `handleType2Update` that concerns the FDB. -/
def updateType2 (mac : Mac) (key : Type2Key) (ip : Option Ip) (p : Option Type2Path) : L2 :=
  (s.routeType2 mac key ip p).syncType2FDB txt env mac

/-- The checks at the start of `handleType2Update`: the MAC and its new route, which a withdrawal
    does not have; `none` when the update is skipped. -/
def type2Change (route : Type2Route) (vtep : String) (seq : BitVec 32)
    (sticky router withdraw : Bool) : Option (Mac × Option Type2Path) := do
  let mac ← txt.parseMAC route.macAddress
  if withdraw then some (mac, none)
  else
    let remoteIP ← txt.parseIP vtep
    if vtep = cfg.routerID then none
    else
      some (mac, some { vtep := remoteIP, seq := seq, sticky := sticky, router := router
                        ip := type2IP txt route.ipAddress, esi := esiKey route.esi })

/-- `handleType2Update` up to the FDB entry of the MAC. -/
def handleType2 (route : Type2Route)
    (vtep : String) (seq : BitVec 32) (sticky router withdraw : Bool) : L2 :=
  match type2Change cfg txt route vtep seq sticky router withdraw with
  | none => s
  | some (mac, p) => s.updateType2 txt env mac (type2Key route) (type2IP txt route.ipAddress) p

/-- `type2HasIP`: a live MAC/IP route has the IP. -/
def type2HasIP (ip : Ip) : Bool := (s.type2IPMACs.get ip).any (fun macs => macs.keys ≠ [])

/-! ### Teardown -/

/-- The IDs that `removeESState` deletes: groups, then VTEP nexthops, then failed deletes. -/
def nexthopIDs (v : Visit) (s : L2) : List NexthopID :=
  (v.keys s.nh.esGroups).filterMap (fun esi => (s.nh.esGroups.get esi).map EsGroup.id) ++
    (v.keys s.nh.vtepNexthops).filterMap s.nh.vtepNexthops.get ++ s.nh.staleNexthops

/-- `removeESState`. -/
def removeESState : L2 :=
  let s := (s.nexthopIDs (env.visit s.calls)).foldl (fun s id => (s.nexthopDel env id).2) s
  { s with type1Paths := ∅, nh.esGroups := ∅, nh.vtepNexthops := ∅, nh.staleNexthops := [] }

end L2

/-! ### Runs -/

/-- The updates of the L2 overlay. -/
inductive L2Event
  | type1 (route : Type1Route) (vtep : String) (singleActive withdraw : Bool) (env : Env)
  | type2 (route : Type2Route) (vtep : String) (seq : BitVec 32) (sticky router withdraw : Bool)
      (env : Env)

/-- One update. -/
def l2Step (cfg : Config) (txt : NetText) (s : L2) : L2Event → Option L2
  | .type1 route vtep singleActive withdraw env =>
    some (s.handleType1Route cfg txt env route vtep singleActive withdraw)
  | .type2 route vtep seq sticky router withdraw env =>
    some (s.handleType2 cfg txt env route vtep seq sticky router withdraw)

/-- The L2 overlay starts with nothing known and nothing installed. -/
def l2Machine (cfg : Config) (txt : NetText) : Machine L2 L2Event where
  start := .empty
  step := l2Step cfg txt

/-! ### Frames -/

namespace L2

variable {txt : NetText} {env : Env} {s : L2} {f : KernelTables → KernelTables}

theorem call_fails (h : env.fails s.calls = true) :
    s.call env f = (true, { s with calls := s.calls + 1 }) := if_pos h

theorem call_works (h : env.fails s.calls = false) :
    s.call env f = (false, { s with
      calls := s.calls + 1, kernel := f s.kernel, seen := f s.kernel :: s.seen }) :=
  if_neg (by rw [h]; exact Bool.false_ne_true)

/-- All kernel calls work. -/
def Works (env : Env) : Prop := ∀ n, env.fails n = false

/-- A kernel call has been made. -/
def did (s : L2) (f : KernelTables → KernelTables) : L2 :=
  { s with calls := s.calls + 1, kernel := f s.kernel, seen := f s.kernel :: s.seen }

theorem call_did {f : KernelTables → KernelTables} (hw : Works env) :
    s.call env f = (false, s.did f) := call_works (hw s.calls)

/-- What the FDB code leaves alone: the EAD routes, the records of the nexthops and the nexthop
    objects. -/
structure FdbFrame (s s' : L2) : Prop where
  type1Paths : s'.type1Paths = s.type1Paths
  nh : s'.nh = s.nh
  nexthops : s'.kernel.nexthops = s.kernel.nexthops

theorem FdbFrame.refl (s : L2) : FdbFrame s s := ⟨rfl, rfl, rfl⟩

theorem FdbFrame.trans {s1 s2 s3 : L2} (h : FdbFrame s1 s2) (h' : FdbFrame s2 s3) :
    FdbFrame s1 s3 :=
  ⟨h'.type1Paths.trans h.type1Paths, h'.nh.trans h.nh, h'.nexthops.trans h.nexthops⟩

theorem routeType2_frame (mac : Mac) (key : Type2Key) (ip : Option Ip) (p : Option Type2Path) :
    FdbFrame s (s.routeType2 mac key ip p) := by
  have hdel : FdbFrame s (s.deletePath mac key) := by
    unfold deletePath
    split <;> exact ⟨rfl, rfl, rfl⟩
  have hunindex : ∀ (s : L2) (ip : Ip), FdbFrame s (s.unindexIP mac ip) := by
    intro s ip
    unfold unindexIP
    split <;> exact ⟨rfl, rfl, rfl⟩
  cases p with
  | none =>
    cases ip with
    | none => exact hdel
    | some ip => exact hdel.trans (hunindex _ ip)
  | some p =>
    show FdbFrame s (s.rememberType2Path mac key p)
    unfold rememberType2Path
    split <;> exact ⟨rfl, rfl, rfl⟩

end L2

end Booty.Gobgp
