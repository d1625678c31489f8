import Booty.Lib.GoMap
import Booty.Lib.SortBy
import Booty.Lib.Tournament
import Booty.Lib.NetIP

namespace Booty.Gobgp

open Booty.Lib List GoMap

/-!
# Which paths become kernel routes

`fibSelector.selectDestination` groups the learned paths of a destination by routing table, folds
each group to a best path and installs the next hops of the paths that cost as much as it.  The
order of the paths is whatever the RIB lists.

* `tablePaths_eq` — the paths of a table are its share of the list, in the order of the list.
* `tablePaths_perm` — reordering the list reorders them and changes nothing else.
* `nexthops_perm` — the next hops for a given best path do not depend on the order at all.
-/

/-! ### Paths of the RIB -/

/-- The types of AS path segments. -/
inductive AsSegmentType
  | asSet
  | asSequence
  | confedSequence
  | confedSet
deriving DecidableEq, Repr

/-- A segment of an AS path. -/
structure AsSegment where
  type : AsSegmentType
  as : List Nat
deriving DecidableEq, Repr

/-- The path attributes that selection reads; `other` stands for all the rest. -/
inductive PathAttribute
  | localPref (value : Nat)
  | origin (value : Nat)
  | multiExitDisc (value : Nat)
  | asPath (value : List AsSegment)
  | nextHop (value : Addr)
  | mpReachNLRI (nexthop linkLocalNexthop : Addr)
  | other
deriving DecidableEq, Repr

/-- A path of a destination as the RIB lists it. -/
structure Path where
  peerAddress : Addr
  peerASN : Nat
  attrs : List PathAttribute
  best : Bool := false
  filtered : Bool := false
  withdrawal : Bool := false
deriving DecidableEq, Repr

/-- One destination of a RIB listing; `nlri` is the text of its prefix. -/
structure FibDest where
  nlri : String
  paths : List Path

/-! ### Next hops and routes -/

/-- A next hop of a route. -/
structure FibNexthop where
  addr : Addr
  dev : String
deriving DecidableEq, Repr

/-- The order the next hops of a route are sorted by: the address, then the device. -/
def FibNexthop.rank (nh : FibNexthop) : (ℕ ×ₗ ℕ ×ₗ String) ×ₗ String := toLex (nh.addr.rank, nh.dev)

theorem FibNexthop.rank_injective : Function.Injective FibNexthop.rank := by
  intro a b h
  have h' : (a.addr.rank, a.dev) = (b.addr.rank, b.dev) := toLex.injective h
  have haddr : a.addr = b.addr := Addr.rank_injective (Prod.mk.inj h').1
  cases a; cases b
  simp_all

/-- A route for the kernel. -/
structure FibRoute where
  table : Int
  pfx : Prefix
  nexthops : List FibNexthop
deriving DecidableEq, Repr

/-! ### Attributes of a path -/

/-- A path of the RIB. -/
structure PathInfo where
  localPref : Nat
  asPath : List Nat
  asLen : Nat
  leftAS : Nat
  origin : Nat
  med : Nat
  peerAS : Nat
  internal : Bool
  neighbor : String
  table : Int
  best : Bool
  nexthop : FibNexthop
deriving DecidableEq, Repr

/-- One attribute of the loop of `read`; `nh` and `ll` are the next hops found so far, and `segLen`
    is the library's `ASLen`. -/
def PathInfo.readAttr (segLen : AsSegment → Nat) (acc : PathInfo × Addr × Addr)
    (a : PathAttribute) : PathInfo × Addr × Addr :=
  let (info, nh, ll) := acc
  match a with
  | .localPref v => ({ info with localPref := v }, nh, ll)
  | .origin v => ({ info with origin := v }, nh, ll)
  | .multiExitDisc v => ({ info with med := v }, nh, ll)
  | .asPath segs =>
    ({ info with
        asPath := info.asPath ++ (segs.map (·.as)).flatten
        asLen := info.asLen + (segs.map segLen).sum }, nh, ll)
  | .nextHop v => (info, v, ll)
  | .mpReachNLRI v l => (info, v, l)
  | .other => (info, nh, ll)

/-- `read` fills the multipath attributes and returns the next hop and the link-local one.  The
    leftmost AS is the first of the AS path, when it has one. -/
def PathInfo.read (segLen : AsSegment → Nat) (info : PathInfo) (attrs : List PathAttribute) :
    PathInfo × Addr × Addr :=
  let acc := attrs.foldl (PathInfo.readAttr segLen) (info, .invalid, .invalid)
  ({ acc.1 with leftAS := acc.1.asPath.headD acc.1.leftAS }, acc.2)

/-- What selection knows about the sessions, with the text functions of `netip` and `ASLen`. -/
structure FibSelector where
  relax : Bool
  localAS : String → Nat
  table : String → Int
  peerDev : String → String
  addrString : Addr → String
  prefixString : Prefix → String
  parsePrefix : String → Except String Prefix
  segLen : AsSegment → Nat

/-- `learned`: paths that the program added itself have no neighbor address. -/
def learned (p : Path) : Bool := p.peerAddress.isValid && !p.peerAddress.isUnspecified

/-- What `describePath` knows of a path before it reads the attributes. -/
def FibSelector.newInfo (s : FibSelector) (p : Path) : PathInfo :=
  let neighbor := s.addrString p.peerAddress
  { localPref := 100, asPath := [], asLen := 0, leftAS := 0, origin := 0, med := 0
    peerAS := p.peerASN, internal := p.peerASN == s.localAS neighbor, neighbor := neighbor
    table := s.table neighbor, best := p.best, nexthop := ⟨.invalid, ""⟩ }

/-- A link-local next hop is preferred over the global one next to it. -/
def preferredNexthop (nh ll : Addr) : Addr :=
  (if ll.isValid && ll.isLinkLocalUnicast then ll else nh).unmap

/-- `describePath`: the attributes of a path, or why it can not be installed. -/
def FibSelector.describePath (s : FibSelector) (p : Path) : Except String PathInfo :=
  let neighbor := s.addrString p.peerAddress
  let (info, nh, ll) := (s.newInfo p).read s.segLen p.attrs
  let nh := preferredNexthop nh ll
  if !nh.isValid || nh.isUnspecified then
    .error s!"path from {neighbor} has no next hop"
  else if !nh.isLinkLocalUnicast then .ok { info with nexthop := ⟨nh, ""⟩ }
  else if s.peerDev neighbor == "" then
    .error s!"link-local next hop {s.addrString nh} from {neighbor} has no interface"
  else .ok { info with nexthop := ⟨nh, s.peerDev neighbor⟩ }

/-! ### Selection -/

/-- `equalCost`: the multipath rule. -/
def equalCost (a b : PathInfo) (multipathRelax : Bool) : Bool :=
  if a.localPref != b.localPref || a.asLen != b.asLen || a.origin != b.origin ||
      a.internal != b.internal then false
  else if a.leftAS == b.leftAS && a.med != b.med then false
  else if multipathRelax then true
  else if a.internal then a.asPath == b.asPath
  else a.peerAS == b.peerAS

/-- `better`: `a` wins over `b` in the decision order.  The MED counts only between paths of the
    same leftmost AS, so the relation is not transitive. -/
def better (a b : PathInfo) : Bool :=
  if a.localPref != b.localPref then a.localPref > b.localPref
  else if a.asLen != b.asLen then a.asLen < b.asLen
  else if a.origin != b.origin then a.origin < b.origin
  else if a.leftAS == b.leftAS && a.med != b.med then a.med < b.med
  else if a.internal != b.internal then !a.internal
  else a.neighbor < b.neighbor

/-- The challenger `p` replaces the best path so far: it carries the RIB's mark, or neither does
    and it is `better`. -/
def replacesBest (p best : PathInfo) : Bool := p.best || (!best.best && better p best)

/-- The next hop of `c` joins the route's when `c` is the best path or costs as much, once. -/
def addNexthop (relax : Bool) (best : PathInfo) (nexthops : List FibNexthop) (c : PathInfo) :
    List FibNexthop :=
  if (c = best || equalCost best c relax) && !nexthops.contains c.nexthop then
    nexthops ++ [c.nexthop]
  else nexthops

/-- The next hops of a route in the order they are installed. -/
def nexthops (relax : Bool) (best : PathInfo) (paths : List PathInfo) : List FibNexthop :=
  sortBy FibNexthop.rank (paths.foldl (addNexthop relax best) [])

/-- The route of one table: the fold to the best path, then the next hops of equal cost. -/
def tableRoute (relax : Bool) (pfx : Prefix) (t : Int) (first : PathInfo) (rest : List PathInfo) :
    FibRoute :=
  { table := t, pfx := pfx.masked
    nexthops := nexthops relax (Tournament.champion replacesBest first rest) (first :: rest) }

/-- `pathsByTable`: the learned paths of a destination by table and the errors of those that can
    not be installed.  A path of the program itself empties the result. -/
def FibSelector.pathsByTable (s : FibSelector) (pfx : Prefix) :
    List Path → GoMap Int (List PathInfo) → List String → GoMap Int (List PathInfo) × List String
  | [], byTable, errs => (byTable, errs)
  | p :: paths, byTable, errs =>
    if p.filtered || p.withdrawal then s.pathsByTable pfx paths byTable errs
    else if !learned p then (∅, [])
    else match s.describePath p with
      | .error e =>
        s.pathsByTable pfx paths byTable (errs ++ [s!"destination {s.prefixString pfx}: {e}"])
      | .ok info =>
        s.pathsByTable pfx paths
          (byTable.set info.table ((byTable.get info.table).getD [] ++ [info])) errs

/-- `selectDestination`: the routes of one destination, one per table, and the joined errors. -/
def FibSelector.selectDestination (s : FibSelector) (d : FibDest) : List FibRoute × List String :=
  match s.parsePrefix d.nlri with
  | .error e => ([], [s!"destination {d.nlri}: {e}"])
  | .ok pfx =>
    let (byTable, errs) := s.pathsByTable pfx d.paths ∅ []
    let tables := sortBy id (AList.keys byTable)
    (tables.filterMap (fun t =>
      match byTable.get t with
      | some (first :: rest) => some (tableRoute s.relax pfx t first rest)
      | _ => none), errs)

/-! ### The paths of a table -/

/-- A listed path that counts: neither filtered nor withdrawn. -/
def Path.live (p : Path) : Bool := !(p.filtered || p.withdrawal)

/-- The attributes of the live paths that can be installed, in their order. -/
def FibSelector.infos (s : FibSelector) (paths : List Path) : List PathInfo :=
  paths.filterMap (fun p => if p.live then (s.describePath p).toOption else none)

/-- One of the live paths is the program's own. -/
def hasOwnPath (paths : List Path) : Bool := paths.any (fun p => p.live && !learned p)

/-- The groups of `pathsByTable` for a destination; none when its prefix does not parse. -/
def FibSelector.byTable (s : FibSelector) (d : FibDest) : GoMap Int (List PathInfo) :=
  match s.parsePrefix d.nlri with
  | .error _ => ∅
  | .ok pfx => (s.pathsByTable pfx d.paths ∅ []).1

/-- The paths that selection compares in table `t`. -/
def FibSelector.tablePaths (s : FibSelector) (d : FibDest) (t : Int) : List PathInfo :=
  ((s.byTable d).get t).getD []

section Groups

variable {s : FibSelector} {d : FibDest} {pfx : Prefix} {t : Int} {paths paths' : List Path}

theorem pathsByTable_of_own (h : hasOwnPath paths = true) (m : GoMap Int (List PathInfo))
    (errs : List String) : s.pathsByTable pfx paths m errs = (∅, []) := by
  induction paths generalizing m errs with
  | nil => exact absurd h (by simp [hasOwnPath])
  | cons p paths ih =>
    have h : (p.live && !learned p) = true ∨ hasOwnPath paths = true := by
      simpa [hasOwnPath] using h
    unfold FibSelector.pathsByTable
    by_cases hlive : (p.filtered || p.withdrawal) = true
    · grind [Path.live]
    · aesop

/-- **One pass of the grouping.** Each table's list grows by its paths, in their order. -/
theorem pathsByTable_get (h : hasOwnPath paths = false) (m : GoMap Int (List PathInfo))
    (errs : List String) (t : Int) :
    ((s.pathsByTable pfx paths m errs).1.get t).getD [] =
      (m.get t).getD [] ++ (s.infos paths).filter (fun i => i.table = t) := by
  induction paths generalizing m errs with
  | nil => simp [FibSelector.pathsByTable, FibSelector.infos]
  | cons p paths ih =>
    have h : (p.live && !learned p) = false ∧ hasOwnPath paths = false := by
      simpa [hasOwnPath] using h
    unfold FibSelector.pathsByTable
    by_cases hlive : (p.filtered || p.withdrawal) = true
    · have hp : p.live = false := by rw [Path.live, hlive]; rfl
      have hskip : s.infos (p :: paths) = s.infos paths := by simp [FibSelector.infos, hp]
      rw [if_pos hlive, ih h.2, hskip]
    · have hp : p.live = true := by simpa [Path.live] using hlive
      have hlearn : ¬ (!learned p) = true := by
        have := h.1
        rw [hp, Bool.true_and] at this
        rw [this]; exact Bool.false_ne_true
      rw [if_neg hlive, if_neg hlearn]
      cases hd : s.describePath p with
      | error e =>
        have hskip : s.infos (p :: paths) = s.infos paths := by
          simp [FibSelector.infos, hd, Except.toOption]
        rw [ih h.2, hskip]
      | ok info =>
        have hcons : s.infos (p :: paths) = info :: s.infos paths := by
          simp [FibSelector.infos, hp, hd, Except.toOption]
        rw [ih h.2, hcons]
        by_cases ht : t = info.table
        · rw [ht]
          simp
        · grind

/-- No group of `pathsByTable` is empty. -/
theorem pathsByTable_ne_nil (m : GoMap Int (List PathInfo)) (errs : List String)
    (hm : ∀ t, m.get t ≠ some []) (t : Int) :
    (s.pathsByTable pfx paths m errs).1.get t ≠ some [] := by
  induction paths generalizing m errs with
  | nil => exact hm t
  | cons p paths ih =>
    unfold FibSelector.pathsByTable
    split
    · exact ih m errs hm
    · split
      · simp
      · split
        · exact ih m _ hm
        · refine ih _ errs fun t' => ?_
          rw [get_set]
          split
          · simp
          · exact hm t'

theorem byTable_ne_nil (t : Int) : (s.byTable d).get t ≠ some [] := by
  grind [FibSelector.byTable, pathsByTable_ne_nil]

/-- The keys of the groups are the tables that have paths. -/
theorem mem_byTable_keys : t ∈ AList.keys (s.byTable d) ↔ s.tablePaths d t ≠ [] := by
  rw [mem_keys_iff]
  unfold FibSelector.tablePaths
  cases h : (s.byTable d).get t with
  | none => simp
  | some l => grind [byTable_ne_nil]

/-- **The paths of a table**, from the list of the destination. -/
theorem tablePaths_eq (hpfx : s.parsePrefix d.nlri = .ok pfx) (hown : hasOwnPath d.paths = false) :
    s.tablePaths d t = (s.infos d.paths).filter (fun i => i.table = t) := by
  unfold FibSelector.tablePaths FibSelector.byTable
  rw [hpfx]
  rw [pathsByTable_get hown]
  simp

theorem tablePaths_of_own (hown : hasOwnPath d.paths = true) : s.tablePaths d t = [] := by
  unfold FibSelector.tablePaths FibSelector.byTable
  split
  · simp
  · rw [pathsByTable_of_own hown]
    simp

theorem tablePaths_of_error {e : String} (hpfx : s.parsePrefix d.nlri = .error e) :
    s.tablePaths d t = [] := by
  unfold FibSelector.tablePaths FibSelector.byTable
  rw [hpfx]
  simp

theorem hasOwnPath_perm (h : paths.Perm paths') : hasOwnPath paths = hasOwnPath paths' := h.any_eq

/-- **Reordering the paths of a destination reorders each table's paths.** -/
theorem tablePaths_perm (h : paths.Perm d.paths) (t : Int) :
    (s.tablePaths { d with paths := paths } t).Perm (s.tablePaths d t) := by
  cases hpfx : s.parsePrefix d.nlri with
  | error e => grind [tablePaths_of_error]
  | ok pfx =>
    cases hown : hasOwnPath d.paths with
    | true => grind [hasOwnPath_perm, tablePaths_of_own]
    | false =>
      have hown' : hasOwnPath paths = false := by rw [hasOwnPath_perm h, hown]
      rw [tablePaths_eq hpfx hown, tablePaths_eq (d := { d with paths := paths }) hpfx hown']
      exact (h.filterMap _).filter _

end Groups

/-! ### The next hops of a route -/

section Nexthops

variable {relax : Bool} {best : PathInfo} {paths paths' : List PathInfo}

/-- A path contributes its next hop when it is the best path or costs as much. -/
def Contributes (relax : Bool) (best c : PathInfo) : Prop :=
  c = best ∨ equalCost best c relax = true

variable {acc : List FibNexthop} {c : PathInfo}

theorem mem_addNexthop {nh : FibNexthop} : nh ∈ addNexthop relax best acc c ↔
      nh ∈ acc ∨ (Contributes relax best c ∧ c.nexthop = nh) := by
  unfold addNexthop Contributes
  by_cases hc : c = best ∨ equalCost best c relax = true
  · aesop
  · grind

theorem nodup_addNexthop (h : acc.Nodup) : (addNexthop relax best acc c).Nodup := by
  unfold addNexthop
  split
  next hc => grind
  next => exact h

/-- The loop collects each next hop once, and exactly those of the contributing paths. -/
theorem foldl_addNexthop (relax : Bool) (best : PathInfo) (paths : List PathInfo)
    (acc : List FibNexthop) (h : acc.Nodup) :
    (paths.foldl (addNexthop relax best) acc).Nodup ∧
      ∀ nh, nh ∈ paths.foldl (addNexthop relax best) acc ↔
        nh ∈ acc ∨ ∃ c ∈ paths, Contributes relax best c ∧ c.nexthop = nh := by
  induction paths generalizing acc with
  | nil => simp [h]
  | cons c paths ih => simp_all [nodup_addNexthop, mem_addNexthop, or_assoc]

/-- **The next hops for a best path do not depend on the order of the paths.** -/
theorem nexthops_perm (h : paths.Perm paths') :
    nexthops relax best paths = nexthops relax best paths' := by
  have hl := foldl_addNexthop relax best paths [] nodup_nil
  have hl' := foldl_addNexthop relax best paths' [] nodup_nil
  refine sortBy_eq_of_perm FibNexthop.rank_injective ?_
  refine (perm_ext_iff_of_nodup hl.1 hl'.1).mpr fun nh => ?_
  rw [hl.2, hl'.2]
  simp only [h.mem_iff]

end Nexthops

end Booty.Gobgp
