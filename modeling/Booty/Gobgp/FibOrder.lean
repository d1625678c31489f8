import Booty.Gobgp.FibSelect

namespace Booty.Gobgp

open Booty.Lib List FibSelector Tournament

/-!
# Kernel routes and the order of the paths

Only the choice of the best path can make the routes of a destination depend on the order in which
the RIB lists its paths: the fold compares pairwise, and the MED step makes the comparison circular.

* `replacesBest_total` — between paths of different neighbors one always replaces the other.
* `exists_paths_of_contender` — every path that dominates its table is the best one for some order.
* `selectDestination_order_iff` — the routes are the same for every order exactly when in each table
  all such paths select the same next hops.
* `medCycle_order` — three paths whose preference runs in a circle.
-/

/-! ### Neighbors -/

theorem readAttr_neighbor (segLen : AsSegment → Nat) (acc : PathInfo × Addr × Addr)
    (a : PathAttribute) : (PathInfo.readAttr segLen acc a).1.neighbor = acc.1.neighbor := by
  cases a <;> rfl

theorem read_neighbor (segLen : AsSegment → Nat) (info : PathInfo) (attrs : List PathAttribute) :
    (info.read segLen attrs).1.neighbor = info.neighbor := by
  exact foldlRecOn (motive := (·.1.neighbor = info.neighbor)) (b := (info, _, _)) attrs _ rfl
    fun acc h a _ => (readAttr_neighbor segLen acc a).trans h

variable {s : FibSelector}

theorem describePath_neighbor {p : Path} {info : PathInfo}
    (h : s.describePath p = .ok info) : info.neighbor = s.addrString p.peerAddress := by
  have hread := read_neighbor s.segLen (s.newInfo p) p.attrs
  unfold describePath at h
  dsimp only at h
  -- Both successful branches keep what `read` returned.
  split at h
  · cases h
  · split at h
    · cases h; exact hread
    · aesop

/-- The neighbors of the installable paths, as texts, are among those of the listed paths. -/
theorem infos_neighbors (s : FibSelector) (paths : List Path) :
    ((s.infos paths).map (·.neighbor)).Sublist (paths.map fun p => s.addrString p.peerAddress) := by
  induction paths with
  | nil => exact .slnil
  | cons p paths ih =>
    unfold infos
    rw [filterMap_cons]
    by_cases hlive : p.live = true
    · rw [if_pos hlive]
      cases hd : s.describePath p with
      | error e => exact ih.cons _
      | ok info =>
        show (info.neighbor :: (s.infos paths).map (·.neighbor)).Sublist _
        rw [describePath_neighbor hd]
        exact ih.cons_cons _
    · rw [if_neg hlive]
      exact ih.cons _

/-- Between paths of different neighbors one always wins. -/
theorem better_total {a b : PathInfo} (h : a.neighbor ≠ b.neighbor) :
    better a b = true ∨ better b a = true := by
  unfold better
  by_cases h1 : a.localPref = b.localPref
  swap
  · grind
  by_cases h2 : a.asLen = b.asLen
  swap
  · grind
  by_cases h3 : a.origin = b.origin
  swap
  · grind
  by_cases h4 : a.leftAS = b.leftAS ∧ a.med ≠ b.med
  · grind
  -- Without a MED that counts, the peer type and then the neighbor decide.
  have hmed : (a.leftAS == b.leftAS && a.med != b.med) = false := by simpa using h4
  have hmed' : (b.leftAS == a.leftAS && b.med != a.med) = false := by
    rw [Bool.beq_comm (a := b.leftAS), bne_comm]
    exact hmed
  simp only [h1, h2, h3, hmed, hmed']
  cases ha : a.internal <;> cases hb : b.internal
  · simpa using lt_or_gt_of_ne h
  · simp
  · simp
  · simpa using lt_or_gt_of_ne h

variable {d : FibDest} {t : Int}

/-- Of two different paths of a table one always replaces the other as the best path. -/
theorem replacesBest_total (hn : (d.paths.map fun p => s.addrString p.peerAddress).Nodup) :
    ∀ a ∈ s.tablePaths d t, ∀ b ∈ s.tablePaths d t, a ≠ b →
      replacesBest a b = true ∨ replacesBest b a = true := by
  intro a ha b hb hab
  have hmem : ∀ x ∈ s.tablePaths d t, x ∈ s.infos d.paths := by
    intro x hx
    cases hpfx : s.parsePrefix d.nlri with
    | error e => grind [tablePaths_of_error]
    | ok pfx =>
      cases hown : hasOwnPath d.paths with
      | true => grind [tablePaths_of_own]
      | false => grind [tablePaths_eq]
  have hne : a.neighbor ≠ b.neighbor := by
    intro hc
    exact hab (inj_on_of_nodup_map (hn.sublist (infos_neighbors s d.paths))
      (hmem a ha) (hmem b hb) hc)
  unfold replacesBest
  cases a.best <;> cases b.best <;> simp [better_total hne]

/-! ### Order independence -/

variable {pfx : Prefix}

/-- The routes of a destination, read off the paths of its tables. -/
theorem selectDestination_routes (hpfx : s.parsePrefix d.nlri = .ok pfx) :
    (s.selectDestination d).1 = (sortBy id (AList.keys (s.byTable d))).filterMap (fun t =>
      match s.tablePaths d t with
      | first :: rest => some (tableRoute s.relax pfx t first rest)
      | [] => none) := by
  have hby : s.byTable d = (s.pathsByTable pfx d.paths ∅ []).1 := by
    unfold byTable
    rw [hpfx]
  unfold selectDestination tablePaths
  rw [hpfx, hby]
  refine filterMap_congr fun t _ => ?_
  cases (s.pathsByTable pfx d.paths ∅ []).1.get t with
  | none => rfl
  | some l => cases l <;> rfl

/-- The route of each table that has paths is among the routes, and no other. -/
theorem mem_selectDestination {r : FibRoute} (hpfx : s.parsePrefix d.nlri = .ok pfx) :
    r ∈ (s.selectDestination d).1 ↔
      ∃ t first rest, s.tablePaths d t = first :: rest ∧
        r = tableRoute s.relax pfx t first rest := by
  rw [selectDestination_routes hpfx, mem_filterMap]
  constructor
  · grind
  · rintro ⟨t, first, rest, ht, rfl⟩
    refine ⟨t, ?_, by rw [ht]⟩
    rw [mem_sortBy, mem_byTable_keys, ht]
    exact cons_ne_nil _ _

/-- Every order of the paths of a table comes from an order of the paths of the destination. -/
theorem exists_paths_of_tablePaths {l : List PathInfo}
    (h : l.Perm (s.tablePaths d t)) (hne : s.tablePaths d t ≠ []) :
    ∃ paths, paths.Perm d.paths ∧ s.tablePaths { d with paths := paths } t = l := by
  cases hpfx : s.parsePrefix d.nlri with
  | error e => exact absurd (tablePaths_of_error hpfx) hne
  | ok pfx =>
    cases hown : hasOwnPath d.paths with
    | true => exact absurd (tablePaths_of_own hown) hne
    | false =>
      rw [tablePaths_eq hpfx hown] at h
      unfold infos at h
      rw [filter_filterMap] at h
      obtain ⟨paths, hp, hmap⟩ := exists_perm_filterMap _ h.symm d.paths rfl
      refine ⟨paths, hp, ?_⟩
      have hown' : hasOwnPath paths = false := by rw [hasOwnPath_perm hp, hown]
      rw [tablePaths_eq (d := { d with paths := paths }) hpfx hown']
      unfold infos
      rw [filter_filterMap]
      exact hmap

/-- A path that can come out as the best of its table: it reaches every other path of the table
    through a chain of comparisons that it and its successors win. -/
def FibSelector.Contender (s : FibSelector) (d : FibDest) (t : Int) (p : PathInfo) : Prop :=
  Tournament.Dominates replacesBest (s.tablePaths d t) p

/-- A contender's next hops are those of some order of the paths. -/
theorem exists_paths_of_contender {p : PathInfo} (hpfx : s.parsePrefix d.nlri = .ok pfx)
    (h : s.Contender d t p) :
    ∃ paths, paths.Perm d.paths ∧
      ∃ r ∈ (s.selectDestination { d with paths := paths }).1, r.table = t ∧
        r.nexthops = nexthops s.relax p (s.tablePaths d t) := by
  obtain ⟨first, rest, hperm, hwin⟩ := exists_perm_champion h
  obtain ⟨paths, hp, ht⟩ := exists_paths_of_tablePaths hperm (ne_nil_of_mem h.1)
  refine ⟨paths, hp, tableRoute s.relax pfx t first rest, ?_, rfl, ?_⟩
  · grind [mem_selectDestination]
  · show nexthops s.relax (champion replacesBest first rest) (first :: rest) = _
    rw [hwin, nexthops_perm hperm]

/-- **Order independence.** The routes of a destination whose paths have distinct neighbors are the
    same for every order of the paths exactly when in each table all contenders for the best path
    select the same next hops. -/
theorem selectDestination_order_iff (s : FibSelector) (d : FibDest)
    (hn : (d.paths.map fun p => s.addrString p.peerAddress).Nodup) :
    (∀ paths, paths.Perm d.paths →
        (s.selectDestination { d with paths := paths }).1 = (s.selectDestination d).1) ↔
      ∀ t p q, s.Contender d t p → s.Contender d t q →
        nexthops s.relax p (s.tablePaths d t) = nexthops s.relax q (s.tablePaths d t) := by
  cases hpfx : s.parsePrefix d.nlri with
  | error e =>
    -- Without a prefix there are neither routes nor contenders.
    constructor
    · intro _ t p q hp
      have := hp.1
      rw [tablePaths_of_error hpfx] at this
      exact absurd this not_mem_nil
    · simp [FibSelector.selectDestination, hpfx]
  | ok pfx =>
    constructor
    · intro hall t p q hp hq
      -- Both are the best path of some order, and all orders give the one route of the table.
      have hone : ∀ {p}, s.Contender d t p → ∃ r ∈ (s.selectDestination d).1, r.table = t ∧
          r.nexthops = nexthops s.relax p (s.tablePaths d t) := by
        intro p hp
        obtain ⟨paths, hperm, r, hr, h⟩ := exists_paths_of_contender hpfx hp
        exact ⟨r, hall paths hperm ▸ hr, h⟩
      obtain ⟨r, hr, hrt, hrp⟩ := hone hp
      obtain ⟨r', hr', hrt', hrq⟩ := hone hq
      obtain ⟨t₁, first, rest, ht₁, rfl⟩ := (mem_selectDestination hpfx).mp hr
      obtain ⟨t₂, first', rest', ht₂, rfl⟩ := (mem_selectDestination hpfx).mp hr'
      have ht : t₁ = t := hrt
      have ht' : t₂ = t := hrt'
      subst ht ht'
      rw [ht₁] at ht₂
      obtain ⟨rfl, rfl⟩ := List.cons.inj ht₂
      rw [← hrp, ← hrq]
    · intro hcond paths hperm
      have htables : ∀ t, (s.tablePaths { d with paths := paths } t).Perm (s.tablePaths d t) :=
        tablePaths_perm hperm
      have hkeys : (AList.keys (s.byTable { d with paths := paths })).Perm
          (AList.keys (s.byTable d)) := by
        refine (perm_ext_iff_of_nodup (AList.keys_nodup _) (AList.keys_nodup _)).mpr fun t => ?_
        rw [mem_byTable_keys, mem_byTable_keys, ← length_pos_iff, ← length_pos_iff,
          (htables t).length_eq]
      rw [selectDestination_routes hpfx,
        selectDestination_routes (d := { d with paths := paths }) hpfx,
        sortBy_eq_of_perm Function.injective_id hkeys]
      refine filterMap_congr fun t _ => ?_
      have hp := htables t
      cases hd : s.tablePaths d t with
      | nil => rw [hd] at hp; rw [hp.eq_nil]
      | cons first rest =>
        cases hd' : s.tablePaths { d with paths := paths } t with
        | nil => simp_all
        | cons first' rest' =>
          rw [hd, hd'] at hp
          -- The best path of either order is a contender.
          have hbest : s.Contender d t (Tournament.champion replacesBest first rest) :=
            Tournament.champion_dominates (replacesBest_total hn) hd
          have hn' : (paths.map fun p => s.addrString p.peerAddress).Nodup :=
            (hperm.map _).nodup_iff.mpr hn
          have hbest' : s.Contender d t (Tournament.champion replacesBest first' rest') :=
            (Tournament.champion_dominates
              (replacesBest_total (d := { d with paths := paths }) hn') hd').perm (htables t)
          have hsame := hcond t _ _ hbest' hbest
          rw [hd] at hsame
          show some (tableRoute s.relax pfx t first' rest') =
            some (tableRoute s.relax pfx t first rest)
          unfold tableRoute
          rw [nexthops_perm hp, hsame]

/-! ### A preference circle -/

/-- Dotted decimals for IPv4 addresses, enough to tell the neighbors below apart. -/
def dotted : Addr → String
  | .v4 ip => s!"{ip.toNat / 2 ^ 24}.{ip.toNat / 2 ^ 16 % 256}." ++
      s!"{ip.toNat / 2 ^ 8 % 256}.{ip.toNat % 256}"
  | _ => "other"

/-- Sessions in the main table, and the one of neighbor 10.0.1.1 in a VRF. -/
def vrfSelector : FibSelector where
  relax := true
  localAS _ := 65000
  table neighbor := if neighbor == "10.0.1.1" then 20 else 254
  peerDev _ := ""
  addrString := dotted
  prefixString p := dotted p.addr
  parsePrefix _ := .ok ⟨.v4 0xc0a80000#32, 24⟩
  segLen seg := seg.as.length

/-- A path of the neighbor 10.0.x.y with the first AS, the MED and the next hop given. -/
def medPath (neighbor : BitVec 32) (as med : Nat) (nexthop : BitVec 32) : Path where
  peerAddress := .v4 neighbor
  peerASN := as
  attrs := [.origin 0, .asPath [⟨.asSequence, [as]⟩], .nextHop (.v4 nexthop), .multiExitDisc med]

/-- Three paths of the main table, two of them from AS 1 with different MEDs, next to the path of
    another VRF that carries the RIB's mark. -/
def medCycle : FibDest where
  nlri := "192.168.0.0/24"
  paths := [medPath 0x0a000001#32 1 10 0xc0000201#32, medPath 0x0a000002#32 2 0 0xc0000202#32,
    medPath 0x0a000003#32 1 5 0xc0000203#32,
    { medPath 0x0a000101#32 3 0 0xc0000301#32 with best := true }]

/-- **Order dependence.** With the first path listed last the main table gets other next hops: the
    MED prefers the third path to the first, the neighbor address the first to the second and the
    second to the third. -/
theorem medCycle_order :
    (medCycle.paths.map fun p => vrfSelector.addrString p.peerAddress).Nodup ∧
      medCycle.paths.countP (·.best) ≤ 1 ∧
      ∃ paths, paths.Perm medCycle.paths ∧
        (vrfSelector.selectDestination { medCycle with paths := paths }).1 ≠
          (vrfSelector.selectDestination medCycle).1 := by
  refine ⟨by decide +kernel, by decide +kernel, medCycle.paths.rotate 1, by decide +kernel, ?_⟩
  decide +kernel

/-- The contenders of the circle do not agree on the next hops. -/
theorem medCycle_contenders_differ :
    (medCycle.paths.map fun p => vrfSelector.addrString p.peerAddress).Nodup ∧
      ¬ ∀ t p q, vrfSelector.Contender medCycle t p → vrfSelector.Contender medCycle t q →
        nexthops vrfSelector.relax p (vrfSelector.tablePaths medCycle t) =
          nexthops vrfSelector.relax q (vrfSelector.tablePaths medCycle t) := by
  have hn : (medCycle.paths.map fun p => vrfSelector.addrString p.peerAddress).Nodup := by
    decide +kernel
  refine ⟨hn, fun hcond => ?_⟩
  have hsame := (selectDestination_order_iff vrfSelector medCycle hn).mpr hcond
    (medCycle.paths.rotate 1) (by decide +kernel)
  exact absurd hsame (by decide +kernel)

end Booty.Gobgp
