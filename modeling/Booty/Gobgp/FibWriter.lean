import Booty.Lib.GoMap
import Booty.Lib.System
import Booty.Lib.NetIP

namespace Booty.Gobgp

open Booty.Lib List GoMap

/-!
# The FIB writer and the kernel

`fibWriter.apply` brings the kernel routes of the writer to a wanted set and keeps in `installed`
what it put there; `removeAll` takes everything back when the writer stops.  Every netlink call can
fail and then leaves the kernel as it is, and the kernel drops routes of its own (a NIC that went
down).  A run is any sequence of these events.

* `apply_tracks`, `removeAll_tracks` — one event keeps `installed` in step with the kernel when no
  removal of a route that is there fails.
* `installed_tracks_kernel` — the same over whole runs, with the notifications of removed routes.
* `failedRemoval_forgotten` — one failed removal: the route stays and the writer forgets it.
-/

/-- `routeKey`: the table and the prefix of a route. -/
structure RouteKey where
  table : Int
  pfx : Prefix
deriving DecidableEq, Repr

/-- The fields of a next hop that the writer sets. -/
structure NexthopInfo where
  linkIndex : Int
  gw : Option Addr
  via : Option Addr
deriving DecidableEq, Repr

/-- A kernel route of the writer. -/
structure Route where
  key : RouteKey
  priority : Nat
  multiPath : List NexthopInfo
deriving DecidableEq, Repr

/-- `sameRoute` compares the metric and the next hops one by one. -/
def sameRoute (a b : Route) : Bool :=
  if a.priority != b.priority || a.multiPath.length != b.multiPath.length then false
  else (a.multiPath.zip b.multiPath).all (fun (x, y) =>
    x.linkIndex == y.linkIndex && x.gw == y.gw && x.via.isNone == y.via.isNone && x.via == y.via)

/-- A wanted set holds each route under its own table and prefix. -/
structure Wanted where
  routes : GoMap RouteKey Route
  keyed : ∀ k r, routes.get k = some r → r.key = k

/-- The writer, the kernel routes it put there and that are still there, and the calls of
    `onRemove`: the key together with the kernel route of the writer at that moment. -/
structure FibState where
  installed : GoMap RouteKey Route
  kernel : GoMap RouteKey Route
  removals : List (RouteKey × Option Route)

/-- How the calls of one event end, and in which order the maps are visited. -/
structure FibCalls where
  visit : Visit
  replaceFails : RouteKey → Bool
  delFails : RouteKey → Bool

variable (c : FibCalls) (want : Wanted) (force : Bool) (s : FibState)

/-- `RouteReplace`. -/
def FibState.routeReplace (r : Route) : FibState :=
  { s with kernel := s.kernel.set r.key r }

/-- `RouteDel`; a failed call changes nothing. -/
def FibState.routeDel (r : Route) : FibState :=
  if c.delFails r.key then s else { s with kernel := s.kernel.delete r.key }

/-- The first loop of `applyLocked`, for one wanted route. -/
def FibState.install (key : RouteKey) : FibState :=
  match want.routes.get key with
  | none => s
  | some r =>
    let unchanged := (s.installed.get key).any (fun old => !force && sameRoute old r)
    if unchanged || c.replaceFails key then s
    else { s.routeReplace r with installed := s.installed.set key r }

/-- The second loop of `applyLocked`, for one installed route: it is forgotten whether or not the
    kernel let it go.  `removed` collects the keys for `notifyRemoved`. -/
def FibState.remove (acc : FibState × List RouteKey) (key : RouteKey) : FibState × List RouteKey :=
  match acc.1.installed.get key with
  | none => acc
  | some r =>
    if (want.routes.get key).isSome then acc
    else
      let s := acc.1.routeDel c r
      ({ s with installed := s.installed.delete key }, acc.2 ++ [key])

/-- `notifyRemoved` calls `onRemove` for every removed key. -/
def FibState.notifyRemoved (keys : List RouteKey) : FibState :=
  { s with removals := s.removals ++ keys.map (fun k => (k, s.kernel.get k)) }

/-- `applyLocked`: the state and the removed keys. -/
def FibState.applyLocked : FibState × List RouteKey :=
  let s := (c.visit.keys want.routes).foldl (FibState.install c want force) s
  (c.visit.keys s.installed).foldl (FibState.remove c want) (s, [])

/-- `apply`. -/
def FibState.apply : FibState :=
  let (s, removed) := s.applyLocked c want force
  s.notifyRemoved removed

/-- One removal of `removeAll`. -/
def FibState.delInstalled (key : RouteKey) : FibState :=
  match s.installed.get key with
  | none => s
  | some r => s.routeDel c r

/-- `removeAll`: the routes go one by one, the map at the end. -/
def FibState.removeAll (c : FibCalls) (s : FibState) : FibState :=
  let keys := c.visit.keys s.installed
  let s := keys.foldl (FibState.delInstalled c) s
  { s with installed := ∅ }.notifyRemoved keys

/-! ### Events -/

/-- What can happen to the writer and its routes. -/
inductive FibEvent
  | apply (want : Wanted) (force : Bool) (c : FibCalls)
  | removeAll (c : FibCalls)
  | kernelDrop (key : RouteKey)

/-- One call of the writer. -/
def fibStep : FibEvent → Option FibState
  | .apply want force c => some (s.apply c want force)
  | .removeAll c => some (s.removeAll c)
  | .kernelDrop key => some { s with kernel := s.kernel.delete key }

/-- The writer starts without routes. -/
def fibMachine : Machine FibState FibEvent where
  start := { installed := ∅, kernel := ∅, removals := [] }
  step := fibStep

/-- No removal fails of a route that is in the kernel. -/
def RemovalsWork : FibEvent → Prop
  | .apply want _ c =>
    ∀ k r, s.kernel.get k = some r → want.routes.get k = none → c.delFails k = false
  | .removeAll c => ∀ k r, s.kernel.get k = some r → c.delFails k = false
  | .kernelDrop _ => True

/-! ### What one event keeps -/

/-- The kernel's routes of the writer are installed under their keys, and `onRemove` was called
    only for keys without a kernel route. -/
structure Tracks (s : FibState) : Prop where
  tracked : ∀ k r, s.kernel.get k = some r → s.installed.get k = some r
  keyed : ∀ k r, s.installed.get k = some r → r.key = k
  told : ∀ n ∈ s.removals, n.2 = none

section Apply

variable {c : FibCalls} {want : Wanted} {force : Bool} {s : FibState} {key : RouteKey}

/-- Installing a wanted route keeps the maps in step and touches no other key. -/
theorem install_tracks (h : Tracks s) : Tracks (s.install c want force key) := by
  unfold FibState.install
  cases hr : want.routes.get key with
  | none => exact h
  | some r =>
    dsimp only
    split
    · exact h
    · have hkey : r.key = key := want.keyed key r hr
      refine ⟨fun k r' hk => ?_, fun k r' hk => ?_, h.told⟩
      · rw [← hkey]
        rcases get_set_eq_some.mp hk with ⟨rfl, rfl⟩ | ⟨hne, hk⟩
        · exact get_set_self _ _ _
        · exact (get_set_of_ne hne).trans (h.tracked k r' hk)
      · rcases get_set_eq_some.mp hk with ⟨rfl, rfl⟩ | ⟨-, hk⟩
        · exact hkey
        · exact h.keyed k r' hk

/-- Installing adds kernel routes for wanted keys only. -/
theorem install_kernel {k : RouteKey} (hk : want.routes.get k = none) :
    (s.install c want force key).kernel.get k = s.kernel.get k := by
  unfold FibState.install
  cases hr : want.routes.get key with
  | none => rfl
  | some r =>
    dsimp only
    split
    · rfl
    · have hne : k ≠ r.key := by
        rw [want.keyed key r hr]
        rintro rfl
        rw [hk] at hr
        cases hr
      exact get_set_of_ne hne

/-- The first loop of `applyLocked`. -/
theorem installAll_tracks (c : FibCalls) (force : Bool) (h : Tracks s) (keys : List RouteKey) :
    Tracks (keys.foldl (FibState.install c want force) s) ∧
      ∀ k, want.routes.get k = none →
        (keys.foldl (FibState.install c want force) s).kernel.get k = s.kernel.get k := by
  induction keys generalizing s with
  | nil => exact ⟨h, fun _ _ => rfl⟩
  | cons key keys ih => grind [install_tracks, install_kernel]

@[simp] theorem routeDel_installed (r : Route) : (s.routeDel c r).installed = s.installed := by
  unfold FibState.routeDel
  split <;> rfl

@[simp] theorem routeDel_removals (r : Route) : (s.routeDel c r).removals = s.removals := by
  unfold FibState.routeDel
  split <;> rfl

/-- A removal that works when the route is there leaves none under its key: a failed call has
    nothing to leave behind. -/
theorem routeDel_kernel {r : Route}
    (hw : ∀ r', s.kernel.get r.key = some r' → c.delFails r.key = false) (k : RouteKey) :
    (s.routeDel c r).kernel.get k = if k = r.key then none else s.kernel.get k := by
  unfold FibState.routeDel
  cases hf : c.delFails r.key with
  | false => exact get_delete s.kernel r.key k
  | true => aesop

/-- What the second loop maintains: removed keys have no kernel route, and the removals still to
    come work. -/
structure Removing (c : FibCalls) (want : Wanted) (acc : FibState × List RouteKey) : Prop where
  tracks : Tracks acc.1
  gone : ∀ k ∈ acc.2, acc.1.kernel.get k = none
  work : ∀ k r, acc.1.kernel.get k = some r → want.routes.get k = none → c.delFails k = false

variable {acc : FibState × List RouteKey}

theorem remove_removing (h : Removing c want acc) :
    Removing c want (FibState.remove c want acc key) := by
  unfold FibState.remove
  cases hr : acc.1.installed.get key with
  | none => exact h
  | some r =>
    dsimp only
    split
    · exact h
    next hwant =>
      have hnone : want.routes.get key = none := by simpa using hwant
      have hkey : r.key = key := h.tracks.keyed key r hr
      -- The key leaves the records whether or not the kernel lets the route go.
      have hker := routeDel_kernel (c := c) (s := acc.1) (r := r)
        (fun r' hr' => hkey ▸ h.work key r' (hkey ▸ hr') hnone)
      refine ⟨⟨fun k r' hk => ?_, fun k r' hk => ?_, fun n hn => ?_⟩, fun k hk => ?_,
        fun k r' hk hw => ?_⟩
      · have hk : (acc.1.routeDel c r).kernel.get k = some r' := hk
        rw [hker] at hk
        split at hk
        next => cases hk
        next hne => grind [routeDel_installed, h.tracks.tracked]
      · exact h.tracks.keyed k r' (routeDel_installed r ▸ (get_delete_eq_some.mp hk).2)
      · have hn : n ∈ (acc.1.routeDel c r).removals := hn
        rw [routeDel_removals] at hn
        exact h.tracks.told n hn
      · rw [hker]
        split
        next => rfl
        next hne => grind [h.gone, mem_singleton.mp]
      · have hk : (acc.1.routeDel c r).kernel.get k = some r' := hk
        rw [hker] at hk
        split at hk
        next => cases hk
        next => exact h.work k r' hk hw

/-- The second loop of `applyLocked`. -/
theorem removeUnwanted_removing (h : Removing c want acc)
    (keys : List RouteKey) : Removing c want (keys.foldl (FibState.remove c want) acc) := by
  exact List.foldlRecOn keys _ h fun _ h _ _ => remove_removing h

/-- Notifying keys that have no kernel route. -/
theorem notifyRemoved_tracks {keys : List RouteKey} (h : Tracks s)
    (hgone : ∀ k ∈ keys, s.kernel.get k = none) : Tracks (s.notifyRemoved keys) := by
  refine ⟨h.tracked, h.keyed, fun n hn => ?_⟩
  rcases mem_append.mp hn with hn | hn
  · exact h.told n hn
  · grind

/-- **One `apply`** keeps the writer in step with the kernel when its removals work. -/
theorem apply_tracks (h : Tracks s) (hw : RemovalsWork s (.apply want force c)) :
    Tracks (s.apply c want force) := by
  obtain ⟨htr, hker⟩ := installAll_tracks c force h (c.visit.keys want.routes)
  have hrem : Removing c want
      ((c.visit.keys want.routes).foldl (FibState.install c want force) s, []) := by
    refine ⟨htr, fun k hk => absurd hk not_mem_nil, fun k r hk hnone => ?_⟩
    exact hw k r ((hker k hnone).symm.trans hk) hnone
  have hall := removeUnwanted_removing hrem
    (c.visit.keys ((c.visit.keys want.routes).foldl (FibState.install c want force) s).installed)
  exact notifyRemoved_tracks hall.tracks hall.gone

/-- The loop of `removeAll` empties the kernel of the keys it visits. -/
theorem delInstalled_kernel (hkeyed : ∀ k r, s.installed.get k = some r → r.key = k)
    (hw : ∀ k r, s.kernel.get k = some r → c.delFails k = false) (keys : List RouteKey) :
    (keys.foldl (FibState.delInstalled c) s).removals = s.removals ∧
      ∀ k r, (keys.foldl (FibState.delInstalled c) s).kernel.get k = some r →
        s.kernel.get k = some r ∧ (k ∈ keys → s.installed.get k = none) := by
  induction keys generalizing s with
  | nil => grind
  | cons key keys ih =>
    rw [foldl_cons]
    cases hr : s.installed.get key with
    | none =>
      have hskip : s.delInstalled c key = s := by unfold FibState.delInstalled; rw [hr]
      rw [hskip]
      obtain ⟨hrem, hker⟩ := ih hkeyed hw
      refine ⟨hrem, fun k r hk => ⟨(hker k r hk).1, fun hm => ?_⟩⟩
      rcases mem_cons.mp hm with rfl | hm
      · exact hr
      · exact (hker k r hk).2 hm
    | some old =>
      have hstep : s.delInstalled c key = s.routeDel c old := by
        unfold FibState.delInstalled; rw [hr]
      have hdel := routeDel_kernel (c := c) (s := s) (r := old) (fun r' hr' => hw old.key r' hr')
      rw [hstep]
      obtain ⟨hrem, hker⟩ := ih (s := s.routeDel c old) (by rw [routeDel_installed]; exact hkeyed)
        (by grind)
      rw [routeDel_installed, routeDel_removals] at *
      refine ⟨hrem, fun k r hk => ?_⟩
      obtain ⟨hk', hk''⟩ := hker k r hk
      rw [hdel] at hk'
      split at hk'
      next => cases hk'
      next hne => grind

/-- **`removeAll`** leaves no kernel route behind when its removals work. -/
theorem removeAll_tracks (h : Tracks s) (hw : RemovalsWork s (.removeAll c)) :
    Tracks (s.removeAll c) := by
  obtain ⟨hrem, hker⟩ := delInstalled_kernel h.keyed hw (c.visit.keys s.installed)
  -- Every kernel route is installed, hence visited, hence gone.
  have hgone : ∀ k,
      ((c.visit.keys s.installed).foldl (FibState.delInstalled c) s).kernel.get k = none := by
    intro k
    cases hk : ((c.visit.keys s.installed).foldl (FibState.delInstalled c) s).kernel.get k with
    | none => rfl
    | some r =>
      obtain ⟨hk', hnone⟩ := hker k r hk
      have hinst := h.tracked k r hk'
      have := hnone (Visit.mem_keys.mpr ⟨r, hinst⟩)
      rw [hinst] at this
      cases this
  refine notifyRemoved_tracks ⟨fun k r hk => ?_, fun k r hk => ?_, ?_⟩ (fun k _ => hgone k)
  · grind
  · grind
  · intro n hn
    exact h.told n (hrem ▸ hn)

end Apply

/-! ### Whole runs -/

theorem tracks_start : Tracks fibMachine.start :=
  ⟨fun k r hk => by simp [fibMachine] at hk, fun k r hk => by simp [fibMachine] at hk,
    fun n hn => absurd hn not_mem_nil⟩

/-- One event whose removals work keeps the writer in step with the kernel. -/
theorem fibStep_tracks {s s' : FibState} {e : FibEvent} (h : Tracks s) (hw : RemovalsWork s e)
    (hs : fibStep s e = some s') : Tracks s' := by
  cases e with
  | apply want force c => cases hs; exact apply_tracks h hw
  | removeAll c => cases hs; exact removeAll_tracks h hw
  | kernelDrop key =>
    cases hs
    refine ⟨fun k r hk => ?_, h.keyed, h.told⟩
    exact h.tracked k r (get_delete_eq_some.mp hk).2

/-- **The writer tracks its routes.** After every sequence of events in which no removal of a route
    in the kernel fails, each kernel route of the writer is installed under its table and prefix,
    and `onRemove` was only ever called for a prefix without one. -/
theorem installed_tracks_kernel {s : FibState} (h : fibMachine.Reaches RemovalsWork s) :
    (∀ k r, s.kernel.get k = some r → s.installed.get k = some r) ∧
      ∀ n ∈ s.removals, n.2 = none := by
  have hinv : Tracks s :=
    Machine.Reaches.invariant h tracks_start fun s e s' hi hw hs => fibStep_tracks hi hw hs
  exact ⟨hinv.tracked, hinv.told⟩

/-! ### A removal that fails -/

/-- A route of the main table over one next hop. -/
def exampleRoute : Route where
  key := ⟨254, ⟨.v4 0x0a010000#32, 16⟩⟩
  priority := 20
  multiPath := [⟨2, some (.v4 0x0a000001#32), none⟩]

/-- The wanted set with this route alone. -/
def exampleWanted : Wanted where
  routes := GoMap.set ∅ exampleRoute.key exampleRoute
  keyed := by grind

/-- The empty wanted set. -/
def nothingWanted : Wanted where
  routes := ∅
  keyed := by simp

/-- Calls that all work. -/
def workingCalls : FibCalls := ⟨.stored, fun _ => false, fun _ => false⟩

/-- A route is installed and replaced once more with force, all calls working. -/
theorem forcedInstall_tracked :
    ∃ s, fibMachine.Reaches RemovalsWork s ∧ s.kernel.get exampleRoute.key = some exampleRoute ∧
      s.installed.get exampleRoute.key = some exampleRoute := by
  let s₁ := FibState.apply workingCalls exampleWanted false fibMachine.start
  let s₂ := FibState.apply workingCalls exampleWanted true s₁
  have hrun : fibMachine.Reaches RemovalsWork s₂ :=
    .step (a := .apply exampleWanted true workingCalls)
      (.step (a := .apply exampleWanted false workingCalls) .start (fun _ _ _ _ => rfl) rfl)
      (fun _ _ _ _ => rfl) rfl
  have hker : s₂.kernel.get exampleRoute.key = some exampleRoute := by decide +kernel
  exact ⟨s₂, hrun, hker, (installed_tracks_kernel hrun).1 _ _ hker⟩

/-- **A failed removal is forgotten.** The route is no longer wanted and the kernel refuses to
    remove it: it stays there, the writer no longer knows it and calls `onRemove` for it. -/
theorem failedRemoval_forgotten :
    ∃ s, fibMachine.Reachable s ∧ s.kernel.get exampleRoute.key = some exampleRoute ∧
      s.installed.get exampleRoute.key = none ∧
      (exampleRoute.key, some exampleRoute) ∈ s.removals := by
  let c : FibCalls := ⟨.stored, fun _ => false, fun _ => true⟩
  let s₁ := FibState.apply c exampleWanted false fibMachine.start
  let s₂ := FibState.apply c nothingWanted false s₁
  have hrun : fibMachine.Reachable s₂ :=
    .step (a := .apply nothingWanted false c)
      (.step (a := .apply exampleWanted false c) .start trivial rfl) trivial rfl
  refine ⟨s₂, hrun, ?_, ?_, ?_⟩ <;> decide +kernel

end Booty.Gobgp
