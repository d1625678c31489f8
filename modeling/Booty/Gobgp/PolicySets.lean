import Booty.Gobgp.RouteMap

namespace Booty.Gobgp

open Booty.Lib List GoMap

/-!
# The defined sets of the policies

The statements name their sets, so what a statement means depends on every set that the translation
defines: a name must lead to one set only.

* `SetName.text_injective` — different uses have different names.
* `SetsOk` — every set is the one that its name stands for; `neighborsOf_eq`, `communitiesOf_eq` and
  `asPathsOf_eq` — then a lookup finds it.
* `neighbor_holds_iff` — a neighbor set holds for the peers it was made for.
-/

/-! ### Names -/

/-- What a set is for. -/
inductive SetName
  | routerAS (as count : Nat)
  | requires (dir : Direction) (fam : Family)
  | routeMap (dir : Direction) (rm : String) (fam : Family)
  | community (list : String) (j : Nat)
deriving DecidableEq, Repr

namespace SetName

/-- The name as GoBGP has it. -/
def text : SetName → String
  | routerAS as count => routerASName as count
  | requires dir fam => requirePolicyName dir fam
  | routeMap dir rm fam => routeMapName dir rm fam
  | community list j => communitySetName list j

end SetName

variable {α : Type} {sep : α} {a b c d : List α}

/-- A list up to the first separator, and the rest. -/
theorem append_sep_left (ha : sep ∉ a) (hb : sep ∉ b)
    (h : a ++ sep :: c = b ++ sep :: d) : a = b ∧ c = d := by
  induction a generalizing b with
  | nil =>
    cases b with
    | nil => exact ⟨rfl, (cons.inj h).2⟩
    | cons y b => grind
  | cons x a ih =>
    cases b <;> grind

/-- A list from the last separator on, and what is before it. -/
theorem append_sep_right (hc : sep ∉ c) (hd : sep ∉ d)
    (h : a ++ sep :: c = b ++ sep :: d) : a = b ∧ c = d := by
  have hrev := congrArg reverse h
  simp only [reverse_append, reverse_cons, append_assoc] at hrev
  obtain ⟨hcd, hab⟩ := append_sep_left (by simpa using hc) (by simpa using hd) hrev
  exact ⟨reverse_injective hab, reverse_injective hcd⟩

theorem dash_not_mem_digits (n : Nat) : '-' ∉ digits n :=
  fun h => absurd (isDigit_of_mem_digits h) (by decide)

/-- The name tells the AS and the count. -/
theorem routerASName_inj {as count as' count' : Nat}
    (h : routerASName as count = routerASName as' count') : as = as' ∧ count = count' := by
  rw [← String.toList_inj] at h
  simp only [routerASName, String.toList_append, Nat.toString_eq_repr, Nat.toList_repr] at h
  simp only [append_assoc, append_cancel_left_eq] at h
  obtain ⟨has, hcount⟩ := append_sep_left (dash_not_mem_digits as) (dash_not_mem_digits as') h
  exact ⟨digits_injective has, digits_injective hcount⟩

/-- The name tells the direction and the family. -/
theorem requirePolicyName_inj {dir dir' : Direction} {fam fam' : Family}
    (h : requirePolicyName dir fam = requirePolicyName dir' fam') : dir = dir' ∧ fam = fam' := by
  revert h
  cases dir <;> cases dir' <;> cases fam <;> cases fam' <;> decide +kernel

/-- The name tells the list and the entry. -/
theorem communitySetName_inj {list list' : String} {j j' : Nat}
    (h : communitySetName list j = communitySetName list' j') : list = list' ∧ j = j' := by
  rw [← String.toList_inj] at h
  simp only [communitySetName, String.toList_append, Nat.toString_eq_repr, Nat.toList_repr] at h
  simp only [append_assoc, append_cancel_left_eq] at h
  obtain ⟨hlist, hj⟩ := append_sep_right (dash_not_mem_digits j) (dash_not_mem_digits j') h
  exact ⟨String.toList_inj.mp hlist, digits_injective hj⟩

/-- No family's name ends another's, so the name of the route-map is what is left. -/
theorem routeMapName_inj {dir dir' : Direction} {rm rm' : String} {fam fam' : Family}
    (h : routeMapName dir rm fam = routeMapName dir' rm' fam') :
    dir = dir' ∧ rm = rm' ∧ fam = fam' := by
  rw [← String.toList_inj] at h
  simp only [routeMapName, String.toList_append] at h
  have hdir : dir = dir' := by
    cases dir <;> cases dir' <;> simp [Direction.name] at h ⊢
  rw [hdir] at h
  simp only [append_assoc, append_cancel_left_eq] at h
  have hrev := congrArg reverse h
  have hfam : fam = fam' := by
    cases fam <;> cases fam' <;> simp [Family.name] at hrev ⊢
  rw [hfam, append_left_inj] at h
  exact ⟨hdir, String.toList_inj.mp h, hfam⟩

/-- How the names of each kind begin. -/
def SetName.start : SetName → List Char
  | routerAS _ _ => ['r', 'o']
  | requires _ _ => ['e', 'b']
  | routeMap _ _ _ => ['r', 'm']
  | community _ _ => ['c', 'l']

theorem take_two_append {p s : String} {a b : Char} (h : p.toList.take 2 = [a, b]) :
    (p ++ s).toList.take 2 = [a, b] := by
  have hlen : 2 ≤ p.toList.length := by
    have := congrArg length h
    simp only [length_take, length_cons] at this
    omega
  rw [String.toList_append, take_append_of_le_length hlen, h]

/-- The first characters tell the kind of a set. -/
theorem SetName.text_start (n : SetName) : n.text.toList.take 2 = n.start := by
  cases n with
  | routerAS as count =>
    exact take_two_append (take_two_append (take_two_append (by decide +kernel)))
  | requires dir fam =>
    exact take_two_append (take_two_append (take_two_append (by decide +kernel)))
  | routeMap dir rm fam =>
    exact take_two_append (take_two_append (take_two_append (take_two_append (take_two_append
      (by decide +kernel)))))
  | community list j =>
    exact take_two_append (take_two_append (take_two_append (by decide +kernel)))

/-- **Different uses have different names.** -/
theorem SetName.text_injective : Function.Injective SetName.text := by
  intro m n h
  have hstart : m.start = n.start := by rw [← SetName.text_start, ← SetName.text_start, h]
  cases m <;> cases n
  case routerAS.routerAS as count as' count' =>
    obtain ⟨rfl, rfl⟩ := routerASName_inj h
    rfl
  case requires.requires dir fam dir' fam' =>
    obtain ⟨rfl, rfl⟩ := requirePolicyName_inj h
    rfl
  case routeMap.routeMap dir rm fam dir' rm' fam' =>
    obtain ⟨rfl, rfl, rfl⟩ := routeMapName_inj h
    rfl
  case community.community list j list' j' =>
    obtain ⟨rfl, rfl⟩ := communitySetName_inj h
    rfl
  -- The names of different kinds begin differently.
  all_goals simp [SetName.start] at hstart

/-! ### Contents -/

section Contents

variable (visits : PolicyVisits) (peers : List PolicyPeer) (lists : List CommunityList)

/-- The peers of a neighbor set. -/
def neighborsFor : SetName → List NeighborEntry
  | .routerAS as count => GoMap.valuesFor (localASMembers peers) (as, count)
  | .requires dir fam => GoMap.valuesFor (unfilteredMembers peers) (dir, fam)
  | .routeMap dir rm fam => GoMap.valuesFor (routeMapMembers visits peers) ⟨dir, rm, fam⟩
  | .community _ _ => []

/-- The communities of the entry `j` of a community-list. -/
def communitiesFor (list : String) (j : Nat) : List String :=
  (((lists.find? fun l => l.name = list).bind fun l => l.entries[j]?).map
    CommunityListEntry.communities).getD []

/-- A neighbor set for some use. -/
def neighborSetFor (n : SetName) : DefinedSet := ⟨n.text, .neighbor (neighborsFor visits peers n)⟩

/-- The set of the AS paths with the router AS too often. -/
def asPathSetFor (as count : Nat) : DefinedSet :=
  ⟨(SetName.routerAS as count).text, .asPath [asOccurrences as (count + 1)]⟩

/-- The set of the communities of an entry. -/
def communitySetFor (list : String) (j : Nat) : DefinedSet :=
  ⟨(SetName.community list j).text, .community (communitiesFor lists list j)⟩

/-- **Every set is the one that its name stands for.** -/
inductive Expected : DefinedSet → Prop
  | neighbor (n : SetName) (hn : ∀ list j, n ≠ .community list j) :
    Expected (neighborSetFor visits peers n)
  | asPath (as count : Nat) : Expected (asPathSetFor as count)
  | community (list : String) (j : Nat) : Expected (communitySetFor lists list j)

/-- Every set is as its name says. -/
def SetsOk (sets : List DefinedSet) : Prop := ∀ s ∈ sets, Expected visits peers lists s

end Contents

section Lookup

variable {visits : PolicyVisits} {peers : List PolicyPeer} {lists : List CommunityList}
  {sets : List DefinedSet}

/-- A search whose hits all agree. -/
theorem findSome?_of_unique {α β : Type} {f : α → Option β} {l : List α} {a : α} {b : β}
    (ha : a ∈ l) (hb : f a = some b) (huniq : ∀ a' ∈ l, ∀ b', f a' = some b' → b' = b) :
    l.findSome? f = some b := by
  cases hfind : l.findSome? f with
  | none => grind
  | some b' =>
    obtain ⟨a', ha', hb'⟩ := exists_of_findSome?_eq_some hfind
    rw [huniq a' ha' b' hb']

/-- A neighbor set is found by its name. -/
theorem neighborsOf_eq (hsets : SetsOk visits peers lists sets) {n : SetName}
    (hmem : neighborSetFor visits peers n ∈ sets) :
    neighborsOf sets n.text = neighborsFor visits peers n := by
  unfold neighborsOf
  rw [findSome?_of_unique (b := neighborsFor visits peers n) hmem]
  · rfl
  · simp [neighborSetFor]
  · intro s hs l hl
    cases hsets s hs with
    | neighbor m _ =>
      have hl : (if m.text = n.text then some (neighborsFor visits peers m) else none) =
        some l := hl
      split at hl
      next hname => rw [← Option.some.inj hl, SetName.text_injective hname]
      · cases hl
    | asPath as count => simp [asPathSetFor] at hl
    | community list j => simp [communitySetFor] at hl

/-- A community set is found by its name. -/
theorem communitiesOf_eq (hsets : SetsOk visits peers lists sets) {list : String} {j : Nat}
    (hmem : communitySetFor lists list j ∈ sets) :
    communitiesOf sets (communitySetName list j) = communitiesFor lists list j := by
  unfold communitiesOf
  rw [findSome?_of_unique (b := communitiesFor lists list j) hmem]
  · rfl
  · simp [communitySetFor, SetName.text]
  · intro s hs l hl
    cases hsets s hs with
    | neighbor m _ => simp [neighborSetFor] at hl
    | asPath as count => simp [asPathSetFor] at hl
    | community list' j' =>
      have hl : (if communitySetName list' j' = communitySetName list j then
        some (communitiesFor lists list' j') else none) = some l := hl
      split at hl
      next hname => grind [communitySetName_inj]
      · cases hl

/-- An AS path set is found by its name. -/
theorem asPathsOf_eq (hsets : SetsOk visits peers lists sets) {as count : Nat}
    (hmem : asPathSetFor as count ∈ sets) :
    asPathsOf sets (routerASName as count) = [asOccurrences as (count + 1)] := by
  unfold asPathsOf
  rw [findSome?_of_unique (b := [asOccurrences as (count + 1)]) hmem]
  · rfl
  · simp [asPathSetFor, SetName.text]
  · intro s hs l hl
    cases hsets s hs with
    | neighbor m _ => simp [neighborSetFor] at hl
    | asPath as' count' =>
      have hl : (if routerASName as' count' = routerASName as count then
        some [asOccurrences as' (count' + 1)] else none) = some l := hl
      split at hl
      next hname => grind [routerASName_inj]
      · cases hl
    | community list j => simp [communitySetFor] at hl

end Lookup

/-! ### Members -/

section Members

variable {isPeer : NeighborEntry → Addr → Bool} {visits : PolicyVisits} {peers : List PolicyPeer}
  {peer : PolicyPeer}

/-- What is assumed of GoBGP's neighbor sets: the entry of an address stands for the addresses with
    this entry, and for no other one. -/
def EntriesNamePeers (isPeer : NeighborEntry → Addr → Bool) : Prop :=
  ∀ a b, isPeer (hostPrefix a) b = true ↔ hostPrefix a = hostPrefix b

/-- The peer uses the route-map. -/
def PolicyPeer.Uses (peer : PolicyPeer) (k : RouteMapKey) : Prop :=
  k.rm ≠ "" ∧ ∃ rm ∈ peer.routeMaps, rm.family = k.fam ∧ rm.get k.dir = k.rm

/-- The peer belongs to a neighbor set. -/
def PolicyPeer.In (peer : PolicyPeer) : SetName → Prop
  | .routerAS as count => localASKey peer = some (as, count)
  | .requires dir fam => (dir, fam) ∈ peer.unfiltered
  | .routeMap dir rm fam => peer.Uses ⟨dir, rm, fam⟩
  | .community _ _ => False

/-- The members of a route-map are the peers that use it. -/
theorem mem_routeMapMembers {k : RouteMapKey} {e : NeighborEntry} :
    (k, e) ∈ routeMapMembers visits peers ↔
      ∃ peer ∈ peers, peer.Uses k ∧ e = hostPrefix peer.addr := by
  have hdirs : ∀ (v : Visit) (dir : Direction), dir ∈ v.order [Direction.inbound, .outbound] := by
    intro v dir
    rw [(v.perm _).mem_iff]
    cases dir <;> decide
  unfold routeMapMembers
  simp only [mem_flatMap, mem_filterMap]
  constructor
  · rintro ⟨peer, hpeer, rm, hrm, dir, -, h⟩
    split at h
    · cases h
    next hne =>
      cases h
      exact ⟨peer, hpeer, ⟨hne, rm, hrm, rfl, rfl⟩, rfl⟩
  · rintro ⟨peer, hpeer, ⟨hne, rm, hrm, hfam, hget⟩, rfl⟩
    refine ⟨peer, hpeer, rm, hrm, k.dir, hdirs _ _, ?_⟩
    rw [if_neg (hget ▸ hne), hget, hfam]

/-- The neighbors of a set are the peers that are in it. -/
theorem mem_neighborsFor {n : SetName} {e : NeighborEntry} :
    e ∈ neighborsFor visits peers n ↔ ∃ peer ∈ peers, peer.In n ∧ e = hostPrefix peer.addr := by
  cases n with
  | routerAS as count =>
    rw [neighborsFor, mem_valuesFor, localASMembers]
    aesop
  | requires dir fam =>
    rw [neighborsFor, mem_valuesFor, unfilteredMembers]
    aesop
  | routeMap dir rm fam =>
    rw [neighborsFor, mem_valuesFor]
    exact mem_routeMapMembers
  | community list j => tauto

/-- **A neighbor set holds for the peers it was made for.** -/
theorem neighbor_holds_iff (hdistinct : (peers.map fun peer => hostPrefix peer.addr).Nodup)
    (hname : EntriesNamePeers isPeer) (hpeer : peer ∈ peers) (n : SetName) :
    MatchType.any.holds (neighborsFor visits peers n) (isPeer · peer.addr) = true ↔ peer.In n := by
  rw [MatchType.holds, any_eq_true]
  constructor
  · rintro ⟨e, he, hp⟩
    obtain ⟨a, ha, hin, rfl⟩ := mem_neighborsFor.mp he
    have hentry := (hname a.addr peer.addr).mp hp
    rw [← inj_on_of_nodup_map hdistinct ha hpeer hentry]
    exact hin
  · intro hin
    exact ⟨hostPrefix peer.addr, mem_neighborsFor.mpr ⟨peer, hpeer, hin, rfl⟩,
      (hname peer.addr peer.addr).mpr rfl⟩

end Members

end Booty.Gobgp
