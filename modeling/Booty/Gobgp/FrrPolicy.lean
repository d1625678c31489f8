import Booty.Gobgp.PolicySets

namespace Booty.Gobgp

open Booty.Lib List GoMap BgpPolicy PolicyPeer Conditions SessionRouteMaps Nat MatchType

/-!
# The policies decide like FRR

`frrDecision` says what FRR does with a route of a peer; `buildPolicy` puts the rules of all peers,
families and directions into two lists of statements.

* `frrDecision` — FRR's rules for one route.
* `routeMapStatements_firstMatch` — the statements of one route-map.
* `policy_decides_like_frr` — the policies decide every route like FRR.
-/

/-! ### FRR's rules -/

variable (maps : List RouteMap) (lists : List CommunityList)

/-- A community-list matches a route with all communities of one of its entries. -/
def frrListMatches (name : String) (communities : List String) : Bool :=
  (lists.find? fun l => l.name = name).any fun l =>
    l.entries.any fun e => e.communities.all communities.contains

/-- The entry matches a route with these communities. -/
def frrEntryMatches (communities : List String) (e : RouteMapEntry) : Bool :=
  e.matchCommunity = "" || frrListMatches lists e.matchCommunity communities

/-- A deny entry rejects, a permit entry accepts with its sets. -/
def frrEntryDecision (e : RouteMapEntry) : Decision :=
  if e.deny then .reject
  else .accept e.setLocalPreference
    (if e.setCommunities = [] then none
      else some ⟨if e.setCommunityAdditive then .add else .replace, e.setCommunities⟩)

/-- A route-map: the matching entry with the lowest sequence number decides, else the route is
    rejected. -/
def frrRouteMap (m : RouteMap) (communities : List String) : Decision :=
  match (m.entries.filter (frrEntryMatches lists communities)).argmin RouteMapEntry.seq with
  | none => .reject
  | some e => frrEntryDecision e

/-- The route-map of a peer for a family and direction. -/
def PolicyPeer.routeMap (peer : PolicyPeer) (dir : Direction) (fam : Family) : Option String :=
  ((peer.routeMaps.find? fun rm => rm.family = fam).map fun rm => rm.get dir).filter (· ≠ "")

/-- The local-as check on received routes. -/
def frrLoops (peer : PolicyPeer) (dir : Direction) (asPath : List Nat) : Bool :=
  dir = .inbound && peer.localAS ≠ 0 && peer.localAS ≠ peer.routerAS &&
    peer.allowASIn < asPath.count peer.routerAS

/-- **FRR's decision** for a route of a peer. -/
def frrDecision (peer : PolicyPeer)
    (dir : Direction) (fam : Family) (communities : List String) (asPath : List Nat) : Decision :=
  if frrLoops peer dir asPath then .reject
  else
    match peer.routeMap dir fam with
    | some name =>
      match maps.find? fun m => m.name = name with
      | some m => frrRouteMap lists m communities
      | none => .reject
    | none => if peer.requirePolicy ∧ fam ∈ peer.families then .reject else .accept none none

/-! ### Statements -/

section Statements

variable {isPeer : NeighborEntry → Addr → Bool} {visits : PolicyVisits} {peers : List PolicyPeer}
  {lists : List CommunityList} {peer : PolicyPeer} {fam : Family} {r : PolicyRoute}
  {F : List DefinedSet}

/-- The first match of two lists of statements. -/
theorem firstMatch_append (a b : List Statement) : firstMatch isPeer F (a ++ b) r =
    (firstMatch isPeer F a r).or (firstMatch isPeer F b r) := by
  unfold firstMatch
  rw [find?_append, Option.map_or]

variable {stmts : List Statement}

/-- Statements with one decision. -/
theorem firstMatch_const {d : Decision}
    (hd : ∀ st ∈ stmts, st.actions.decision = d) : firstMatch isPeer F stmts r =
      if stmts.any (fun st => st.conditions.hold isPeer F r) then some d else none := by
  unfold firstMatch
  split
  next hany =>
    grind [find?_isSome, Option.isSome_iff_exists.mp]
  next hany => grind

theorem familyOf_injective : Function.Injective familyOf := by
  intro a b h
  cases a <;> cases b <;> first | rfl | cases h

/-- A route of a peer and the sets of the finished policy. -/
structure Setting (isPeer : NeighborEntry → Addr → Bool) (visits : PolicyVisits)
    (peers : List PolicyPeer) (lists : List CommunityList) (F : List DefinedSet) (peer : PolicyPeer)
    (fam : Family) (r : PolicyRoute) : Prop where
  distinct : (peers.map fun peer => hostPrefix peer.addr).Nodup
  entries : EntriesNamePeers isPeer
  sets : SetsOk visits peers lists F
  member : peer ∈ peers
  addr : r.peer = peer.addr
  family : r.family = familyOf fam

section

variable (h : Setting isPeer visits peers lists F peer fam r)
include h

/-- The peer matches the neighbor sets that it is in. -/
theorem Setting.neighbor_iff {n : SetName} (hmem : neighborSetFor visits peers n ∈ F) :
    any.holds (neighborsOf F n.text) (isPeer · r.peer) = true ↔ peer.In n := by
  rw [neighborsOf_eq h.sets hmem, h.addr]
  exact neighbor_holds_iff h.distinct h.entries h.member n

/-- The statement matches the paths of a peer with the router AS too often. -/
theorem localASStatement_iff {k : Nat × Nat}
    (hn : neighborSetFor visits peers (.routerAS k.1 k.2) ∈ F) (ha : asPathSetFor k.1 k.2 ∈ F) :
    (localASStatement k).conditions.hold isPeer F r = true ↔
      localASKey peer = some k ∧ k.2 < r.asPath.count k.1 := by
  have hnbr := h.neighbor_iff hn
  have hpath : any.holds (asPathsOf F (routerASName k.1 k.2))
      (·.fullMatch (asPathText r.asPath)) = true ↔ k.2 < r.asPath.count k.1 := by
    rw [asPathsOf_eq h.sets ha]
    simp [holds, asOccurrences_match]
  unfold hold localASStatement
  simp only [isEmpty_nil, Bool.true_or, Bool.and_true, Option.all_none, Bool.and_eq_true]
  exact and_congr hnbr hpath

/-- The statement matches the peers without a policy. -/
theorem requirePolicyStatement_iff
    {k : Direction × Family} (hn : neighborSetFor visits peers (.requires k.1 k.2) ∈ F) :
    (requirePolicyStatement k).conditions.hold isPeer F r = true ↔
      k ∈ peer.unfiltered ∧ k.2 = fam := by
  have hnbr := h.neighbor_iff hn
  unfold hold requirePolicyStatement
  simp only [isEmpty_cons, Bool.false_or, Bool.and_true, Option.all_none, Bool.and_eq_true,
    contains_cons, contains_nil, Bool.or_false, beq_iff_eq, h.family]
  refine and_congr hnbr ⟨fun hf => (familyOf_injective hf).symm, fun hf => by rw [hf]⟩

end

variable {k : RouteMapKey}

/-- The conditions of the statements of a route-map. -/
theorem baseConditions_iff (h : Setting isPeer visits peers lists F peer fam r)
    (hn : neighborSetFor visits peers (.routeMap k.dir k.rm k.fam) ∈ F) :
    (baseConditions (routeMapName k.dir k.rm k.fam) k.fam).hold isPeer F r = true ↔
      peer.Uses k ∧ k.fam = fam := by
  have hnbr := h.neighbor_iff hn
  unfold hold baseConditions
  simp only [isEmpty_cons, Bool.false_or, Bool.and_true, Option.all_none, Bool.and_eq_true,
    contains_cons, contains_nil, Bool.or_false, beq_iff_eq, h.family]
  refine and_congr hnbr ⟨fun hf => (familyOf_injective hf).symm, fun hf => by rw [hf]⟩

/-! ### Community sets -/

variable {sets : List DefinedSet}

/-- A set with the name of a community set is that set. -/
theorem SetsOk.community_of_name (hsets : SetsOk visits peers lists sets)
    {s : DefinedSet} (hs : s ∈ sets) {list : String} {j : Nat}
    (hname : s.name = communitySetName list j) : communitySetFor lists list j ∈ sets := by
  have htext : ∀ n : SetName, n.text = communitySetName list j → n = .community list j :=
    fun n hn => SetName.text_injective hn
  cases hsets s hs with
  | neighbor n hn => exact absurd (htext n hname) (hn list j)
  | asPath as count => cases htext (.routerAS as count) hname
  | community list' j' =>
    cases htext (.community list' j') hname
    exact hs

variable {u : Unicode} {sets' : List DefinedSet}

/-- The loop over the entries of a community-list. -/
theorem communitySetsFrom_ok {name : String} {entries : List CommunityListEntry} {j : Nat}
    {names : List String}
    (hok : communitySetsFrom u name j entries sets = .ok (names, sets'))
    (hsets : SetsOk visits peers lists sets)
    (hentries : ∀ i e, entries[i]? = some e → communitiesFor lists name (j + i) = e.communities) :
    names = (range' j entries.length).map (communitySetName name) ∧
      SetsOk visits peers lists sets' ∧ sets ⊆ sets' ∧
      ∀ i < entries.length, communitySetFor lists name (j + i) ∈ sets' := by
  induction entries generalizing j sets names with
  | nil =>
    cases hok
    exact ⟨rfl, hsets, Subset.refl _, fun i hi => absurd hi (Nat.not_lt_zero i)⟩
  | cons e entries ih =>
    rw [communitySetsFrom] at hok
    split at hok
    · cases hok
    dsimp only at hok
    -- The set of this entry is there already, or it is added.
    generalize hadd : (if sets.any (fun s => s.name = communitySetName name j) then sets
      else sets ++ [⟨communitySetName name j, .community e.communities⟩]) = sets1 at hok
    have hnew : (⟨communitySetName name j, .community e.communities⟩ : DefinedSet) =
        communitySetFor lists name j := by
      have hzero := hentries 0 e rfl
      rw [Nat.add_zero] at hzero
      rw [communitySetFor, hzero]
      rfl
    have hadded : SetsOk visits peers lists sets1 ∧ sets ⊆ sets1 ∧
        communitySetFor lists name j ∈ sets1 := by
      split at hadd
      next hany =>
        subst hadd
        obtain ⟨s, hs, hname⟩ := any_eq_true.mp hany
        exact ⟨hsets, Subset.refl _, hsets.community_of_name hs (of_decide_eq_true hname)⟩
      next hany =>
        subst hadd
        rw [hnew]
        refine ⟨fun s hs => ?_, subset_append_left _ _, by simp⟩
        rcases mem_append.mp hs with hs | hs
        · exact hsets s hs
        · rw [mem_singleton.mp hs]
          exact .community name j
    obtain ⟨hsets1, hsub1, hhere⟩ := hadded
    split at hok
    · cases hok
    next names' sets'' hrest =>
      cases hok
      obtain ⟨hnames, hsets', hsub', hmem⟩ := ih hrest hsets1 fun i e' he' => by
        rw [Nat.add_assoc, Nat.add_comm 1 i]
        exact hentries (i + 1) e' he'
      refine ⟨by tauto, hsets', Subset.trans hsub1 hsub', fun i hi => ?_⟩
      cases i with
      | zero => exact hsub' hhere
      | succ i => grind

/-! ### One route-map -/

/-- The actions of an entry decide as FRR does. -/
theorem entryActions_decision (e : RouteMapEntry) :
    (entryActions e).decision = frrEntryDecision e := by
  unfold entryActions frrEntryDecision
  split <;> rfl

/-- The statements for the entries of a community-list. -/
theorem communityStatements_iff (h : Setting isPeer visits peers lists F peer fam r)
    (hn : neighborSetFor visits peers (.routeMap k.dir k.rm k.fam) ∈ F) {l : CommunityList}
    {name : String} (hl : (lists.find? fun l => l.name = name) = some l)
    (hmem : ∀ i < l.entries.length, communitySetFor lists name i ∈ F) (e : RouteMapEntry) :
    (communityStatements (routeMapName k.dir k.rm k.fam) k.fam e
        ((range' 0 l.entries.length).map (communitySetName name))).any
        (fun st => st.conditions.hold isPeer F r) = true ↔
      (peer.Uses k ∧ k.fam = fam) ∧ frrListMatches lists name r.communities = true := by
  have hbase := baseConditions_iff h hn
  -- One statement: the base conditions and all communities of its set.
  have hone : ∀ set : String,
      ({ baseConditions (routeMapName k.dir k.rm k.fam) k.fam with
        communitySet := some ⟨.all, set⟩ } : Conditions).hold isPeer F r = true ↔
      (peer.Uses k ∧ k.fam = fam) ∧ (communitiesOf F set).all r.communities.contains = true := by
    intro set
    rw [← hbase]
    unfold hold baseConditions
    simp only [Option.all_none, Bool.and_true, Bool.and_eq_true]
    rfl
  have hfor : ∀ i (hi : i < l.entries.length),
      communitiesOf F (communitySetName name i) = (l.entries[i]).communities := by
    intro i hi
    rw [communitiesOf_eq h.sets (hmem i hi), communitiesFor, hl, Option.bind_some,
      getElem?_eq_getElem hi]
    rfl
  unfold communityStatements frrListMatches
  rw [hl, Option.any_some, any_eq_true, any_eq_true]
  constructor
  · rintro ⟨st, hst, hold⟩
    obtain ⟨j, hj, rfl⟩ := mem_mapIdx.mp hst
    simp only [getElem_map, getElem_range', Nat.zero_add, Nat.one_mul] at hold
    obtain ⟨happlies, hall⟩ := (hone _).mp hold
    have hj' : j < l.entries.length := by simpa using hj
    rw [hfor j hj'] at hall
    exact ⟨happlies, l.entries[j], getElem_mem hj', hall⟩
  · rintro ⟨happlies, entry, hentry, hall⟩
    obtain ⟨j, hj, rfl⟩ := getElem_of_mem hentry
    refine ⟨_, mem_mapIdx.mpr ⟨j, by simpa using hj, rfl⟩, ?_⟩
    simp only [getElem_map, getElem_range', Nat.zero_add, Nat.one_mul]
    refine (hone _).mpr ⟨happlies, ?_⟩
    rw [hfor j hj]
    exact hall

/-- What the statements of an entry decide: the entry, for the routes it matches. -/
structure Decides (isPeer : NeighborEntry → Addr → Bool) (F : List DefinedSet) (r : PolicyRoute)
    (stmts : List Statement) (applies : Prop) (d : Option Decision) : Prop where
  decision : applies → firstMatch isPeer F stmts r = d
  skipped : ¬ applies → firstMatch isPeer F stmts r = none

/-- **One entry** of a route-map. -/
theorem entryStatements_ok {rm : RouteMap} {e : RouteMapEntry}
    (hok : entryStatements u lists rm (routeMapName k.dir k.rm k.fam) k.fam e sets =
      .ok (stmts, sets'))
    (hsets : SetsOk visits peers lists sets) :
    SetsOk visits peers lists sets' ∧ sets ⊆ sets' ∧
      ∀ F, sets' ⊆ F → Setting isPeer visits peers lists F peer fam r →
        neighborSetFor visits peers (.routeMap k.dir k.rm k.fam) ∈ F →
        Decides isPeer F r stmts (peer.Uses k ∧ k.fam = fam)
          (if frrEntryMatches lists r.communities e then some (frrEntryDecision e) else none) := by
  unfold entryStatements at hok
  unfold frrEntryMatches
  split at hok
  -- An entry without a match clause is one statement.
  next hany =>
    cases hok
    refine ⟨hsets, Subset.refl _, fun F _ h hn => ?_⟩
    have hbase := baseConditions_iff h hn
    rw [hany]
    refine ⟨fun happlies => ?_, fun hskip => ?_⟩
    · simp [firstMatch, hbase.mpr happlies, entryActions_decision]
    · simp [firstMatch, Bool.eq_false_iff.mpr (mt hbase.mp hskip)]
  next hmatch =>
    split at hok
    · cases hok
    next names sets'' hsome =>
      cases hok
      unfold communitySets at hsome
      split at hsome
      · cases hsome
      next l hl =>
        obtain ⟨hnames, hsets', hsub, hmem⟩ := communitySetsFrom_ok hsome hsets
          fun i entry hentry => by
            rw [Nat.zero_add, communitiesFor, hl, Option.bind_some, hentry]
            rfl
        refine ⟨hsets', hsub, fun F hF h hn => ?_⟩
        have hmemF : ∀ i < l.entries.length, communitySetFor lists e.matchCommunity i ∈ F := by
          intro i hi
          have := hmem i hi
          rw [Nat.zero_add] at this
          exact hF this
        have hiff := communityStatements_iff h hn hl hmemF e
        -- One statement for each community set, all with the same decision.
        have hconst : firstMatch isPeer F
            (communityStatements (routeMapName k.dir k.rm k.fam) k.fam e names) r =
            if (communityStatements (routeMapName k.dir k.rm k.fam) k.fam e names).any
              (fun st => st.conditions.hold isPeer F r) then
            some (frrEntryDecision e) else none := by
          refine firstMatch_const fun st hst => ?_
          obtain ⟨j, hj, rfl⟩ := mem_mapIdx.mp hst
          exact entryActions_decision e
        refine ⟨fun happlies => ?_, fun hskip => ?_⟩
        · grind
        · grind

/-- The loop over the entries, and the implicit deny. -/
theorem entriesStatements_ok {rm : RouteMap} {entries : List RouteMapEntry}
    (hok : entriesStatements u lists rm (routeMapName k.dir k.rm k.fam) k.fam entries sets =
      .ok (stmts, sets')) (hsets : SetsOk visits peers lists sets) :
    SetsOk visits peers lists sets' ∧ sets ⊆ sets' ∧
      ∀ F, sets' ⊆ F → Setting isPeer visits peers lists F peer fam r →
        neighborSetFor visits peers (.routeMap k.dir k.rm k.fam) ∈ F →
        Decides isPeer F r stmts (peer.Uses k ∧ k.fam = fam)
          (some (match entries.find? (frrEntryMatches lists r.communities) with
            | none => .reject
            | some e => frrEntryDecision e)) := by
  induction entries generalizing sets stmts with
  -- The implicit deny.
  | nil =>
    cases hok
    refine ⟨hsets, Subset.refl _, fun F _ h hn => ?_⟩
    have hbase := baseConditions_iff h hn
    refine ⟨fun happlies => ?_, fun hskip => ?_⟩
    · simp [firstMatch, denyStatement, hbase.mpr happlies, Actions.decision]
    · simp [firstMatch, denyStatement, Bool.eq_false_iff.mpr (mt hbase.mp hskip)]
  | cons e entries ih =>
    rw [entriesStatements] at hok
    split at hok
    · cases hok
    next first sets1 hfirst =>
      split at hok
      · cases hok
      next rest sets2 hrest =>
        cases hok
        obtain ⟨hsets1, hsub1, hdecide1⟩ := entryStatements_ok hfirst hsets
        obtain ⟨hsets', hsub', hdecide'⟩ := ih hrest hsets1
        refine ⟨hsets', Subset.trans hsub1 hsub', fun F hF h hn => ?_⟩
        obtain ⟨hyes1, hno1⟩ := hdecide1 F (Subset.trans hsub' hF) h hn
        obtain ⟨hyes', hno'⟩ := hdecide' F hF h hn
        refine ⟨fun happlies => ?_, fun hskip => ?_⟩
        · rw [firstMatch_append, hyes1 happlies, hyes' happlies, find?_cons]
          cases frrEntryMatches lists r.communities e <;> rfl
        · grind [firstMatch_append]

/-- **The statements of one route-map** decide the routes of its peers like the route-map. -/
theorem routeMapStatements_firstMatch {m : RouteMap} (hseq : (m.entries.map (·.seq)).Nodup)
    (hok : routeMapStatements u lists m (routeMapName k.dir k.rm k.fam) k.fam sets =
      .ok (stmts, sets'))
    (hsets : SetsOk visits peers lists sets) :
    SetsOk visits peers lists sets' ∧ sets ⊆ sets' ∧
      ∀ F, sets' ⊆ F → Setting isPeer visits peers lists F peer fam r →
        neighborSetFor visits peers (.routeMap k.dir k.rm k.fam) ∈ F →
        Decides isPeer F r stmts (peer.Uses k ∧ k.fam = fam)
          (some (frrRouteMap lists m r.communities)) := by
  unfold frrRouteMap
  rw [← find?_sortBy hseq]
  exact entriesStatements_ok hok hsets

/-! ### The uses of route-maps -/

instance (peer : PolicyPeer) (k : RouteMapKey) : Decidable (peer.Uses k) :=
  inferInstanceAs (Decidable (_ ∧ _))

/-- With one pair of route-maps per family, a peer uses the route-map it is configured with. -/
theorem uses_iff (hfam : (peer.routeMaps.map family).Nodup) :
    peer.Uses k ↔ peer.routeMap k.dir k.fam = some k.rm := by
  unfold Uses routeMap
  rw [Option.filter_eq_some_iff, Option.map_eq_some_iff]
  constructor
  · rintro ⟨hne, rm, hrm, hfamily, hget⟩
    refine ⟨⟨rm, ?_, hget⟩, by simpa using hne⟩
    cases hfind : peer.routeMaps.find? fun rm => rm.family = k.fam with
    | none => grind
    | some rm' =>
      have hfamily' : rm'.family = k.fam := by simpa using find?_some hfind
      rw [inj_on_of_nodup_map hfam (mem_of_find?_eq_some hfind) hrm (hfamily'.trans hfamily.symm)]
  · grind

theorem mem_firstUses {members : List (RouteMapKey × NeighborEntry)} :
    k ∈ firstUses members ↔ ∃ e, (k, e) ∈ members := by
  have hfold : ∀ (l : List (RouteMapKey × NeighborEntry)) (order : List RouteMapKey),
      k ∈ l.foldl (fun order e => if e.1 ∈ order then order else order ++ [e.1]) order ↔
        k ∈ order ∨ ∃ e, (k, e) ∈ l := by
    intro l
    induction l with
    | nil => simp
    | cons x l ih =>
      intro order
      rw [foldl_cons, ih]
      have hhere : k ∈ (if x.1 ∈ order then order else order ++ [x.1]) ↔ k ∈ order ∨ k = x.1 := by
        split
        next hx => grind
        · simp
      have htail : (∃ e, (k, e) ∈ x :: l) ↔ k = x.1 ∨ ∃ e, (k, e) ∈ l := by
        grind
      rw [hhere, htail, or_assoc]
  rw [firstUses, hfold]
  simp

/-! ### The three groups of statements -/

theorem SetsOk.append {a b : List DefinedSet} (ha : SetsOk visits peers lists a)
    (hb : SetsOk visits peers lists b) : SetsOk visits peers lists (a ++ b) :=
  fun s hs => (mem_append.mp hs).elim (ha s) (hb s)

@[simp] theorem BgpPolicy.add_sets (p : BgpPolicy) (dir : Direction) (stmts : List Statement) :
    (p.add dir stmts).sets = p.sets := by
  cases dir <;> rfl

theorem BgpPolicy.add_statements (p : BgpPolicy) (dir dir' : Direction) (stmts : List Statement) :
    (p.add dir stmts).statements dir' =
      p.statements dir' ++ (if dir = dir' then stmts else []) := by
  cases dir <;> cases dir' <;> simp [add, statements]

theorem localASSets_eq (visits : PolicyVisits) (peers : List PolicyPeer) (k : Nat × Nat) :
    localASSets (group (localASMembers peers)) k =
      [neighborSetFor visits peers (.routerAS k.1 k.2), asPathSetFor k.1 k.2] := by
  unfold localASSets
  rw [getD_group]
  rfl

/-- **The local-as checks** reject the loops. -/
theorem localASChecks_ok (visit : Visit) :
    SetsOk visits peers lists (localASChecks visit peers {}).sets ∧
      ∀ F, (localASChecks visit peers {}).sets ⊆ F →
        Setting isPeer visits peers lists F peer fam r → ∀ dir,
        firstMatch isPeer F ((localASChecks visit peers {}).statements dir) r =
          if frrLoops peer dir r.asPath then some .reject else none := by
  have hmem : ∀ s k, k ∈ sortBy toLex (visit.keys (group (localASMembers peers))) →
      s ∈ localASSets (group (localASMembers peers)) k →
      s ∈ (localASChecks visit peers {}).sets :=
    fun s k hk hs => mem_append_right _ (mem_flatMap.mpr ⟨k, hk, hs⟩)
  have hkeys : ∀ k, k ∈ sortBy toLex (visit.keys (group (localASMembers peers))) ↔
      ∃ e, (k, e) ∈ localASMembers peers := by
    intro k
    rw [mem_sortBy, Visit.keys, (visit.perm _).mem_iff, mem_keys_group]
  refine ⟨fun s hs => ?_, fun F hF h dir => ?_⟩
  · have hs : s ∈ [] ++ flatMap _ _ := hs
    rw [nil_append, mem_flatMap] at hs
    obtain ⟨k, -, hs⟩ := hs
    rw [localASSets_eq visits] at hs
    simp only [mem_cons, not_mem_nil, or_false] at hs
    rcases hs with rfl | rfl
    · exact .neighbor _ (by simp)
    · exact .asPath _ _
  -- The check is on received routes only.
  cases dir with
  | outbound => rfl
  | inbound =>
    -- All statements reject, so only whether one of them holds counts.
    rw [firstMatch_const (d := .reject) fun st hst => by
      have hst : st ∈ [] ++ map _ _ := hst
      rw [nil_append, mem_map] at hst
      obtain ⟨k, -, rfl⟩ := hst
      rfl]
    refine if_congr ?_ rfl rfl
    rw [any_eq_true]
    constructor
    · rintro ⟨st, hst, hold⟩
      have hst : st ∈ [] ++ map _ _ := hst
      rw [nil_append, mem_map] at hst
      obtain ⟨k, hk, rfl⟩ := hst
      have hsets := fun s hs => hF (hmem s k hk hs)
      rw [localASSets_eq visits] at hsets
      obtain ⟨hkey, hcount⟩ := (localASStatement_iff h (hsets _ (by simp))
        (hsets _ (by simp))).mp hold
      unfold localASKey at hkey
      split at hkey
      next hlocal =>
        cases hkey
        simp [frrLoops, hlocal, hcount]
      · cases hkey
    · intro hloops
      simp only [frrLoops, decide_true, Bool.true_and, Bool.and_eq_true,
        decide_eq_true_eq] at hloops
      obtain ⟨hlocal, hcount⟩ := hloops
      have hkey : localASKey peer = some (peer.routerAS, peer.allowASIn) := by
        rw [localASKey, if_pos hlocal]
      have hk := (hkeys (peer.routerAS, peer.allowASIn)).mpr ⟨hostPrefix peer.addr,
        mem_filterMap.mpr ⟨peer, h.member, by rw [hkey]; rfl⟩⟩
      have hsets := fun s hs => hF (hmem s _ hk hs)
      rw [localASSets_eq visits] at hsets
      refine ⟨_, mem_append_right _ (mem_map.mpr ⟨_, hk, rfl⟩), ?_⟩
      exact (localASStatement_iff h (hsets _ (by simp)) (hsets _ (by simp))).mpr ⟨hkey, hcount⟩

/-- The families of a peer without a route-map. -/
theorem mem_unfiltered {dir : Direction} :
    (dir, fam) ∈ peer.unfiltered ↔
      (peer.requirePolicy = true ∧ fam ∈ peer.families) ∧ peer.routeMap dir fam = none := by
  have hmap : peer.hasRouteMap dir fam = false ↔ peer.routeMap dir fam = none := by
    unfold hasRouteMap routeMap
    cases peer.routeMaps.find? fun rm => rm.family = fam <;> simp
  unfold unfiltered
  split
  next hreq =>
    rw [mem_filter, Bool.not_eq_true', hmap, mem_flatMap]
    refine and_congr_left fun _ => ⟨?_, fun hf => ⟨fam, hf.2, by cases dir <;> simp⟩⟩
    rintro ⟨f, hf, hk⟩
    have : fam = f := by
      simp only [mem_cons, Prod.mk.injEq, not_mem_nil, or_false] at hk
      exact hk.elim (·.2) (·.2)
    exact ⟨hreq, this ▸ hf⟩
  next hreq => simp [hreq]

/-- The families and directions of `requirePolicy`. -/
def rejectKeys (visit : Visit) (peers : List PolicyPeer) : List (Direction × Family) :=
  sortBy (fun k => k.1.name ++ k.2.name) (visit.keys (GoMap.group (unfilteredMembers peers)))

theorem mem_rejectKeys {visit : Visit} {k : Direction × Family} :
    k ∈ rejectKeys visit peers ↔ ∃ e, (k, e) ∈ unfilteredMembers peers := by
  rw [rejectKeys, mem_sortBy, Visit.keys, (visit.perm _).mem_iff, mem_keys_group]

theorem foldl_addReject (keys : List (Direction × Family)) (p : BgpPolicy) (visits : PolicyVisits)
    (peers : List PolicyPeer) :
    (keys.foldl (addReject (group (unfilteredMembers peers))) p).sets =
        p.sets ++ keys.map (fun k => neighborSetFor visits peers (.requires k.1 k.2)) ∧
      ∀ dir, (keys.foldl (addReject (group (unfilteredMembers peers))) p).statements
        dir = p.statements dir ++
          (keys.filter (fun k => k.1 = dir)).map requirePolicyStatement := by
  induction keys generalizing p with
  | nil => simp
  | cons k keys ih =>
    obtain ⟨hsets, hstmts⟩ := ih (p.addReject (group (unfilteredMembers peers)) k)
    refine ⟨?_, fun dir => ?_⟩
    · rw [foldl_cons, hsets, addReject, getD_group]
      simp [neighborSetFor, SetName.text, neighborsFor]
    · have hsame : ∀ sets, ({ p with sets := sets } : BgpPolicy).statements dir =
        p.statements dir :=
        fun sets => by cases dir <;> rfl
      rw [foldl_cons, hstmts, addReject, add_statements, hsame]
      by_cases hdir : k.1 = dir <;> simp [hdir]

theorem requirePolicy_sets (p : BgpPolicy) (visit : Visit) (visits : PolicyVisits)
    (peers : List PolicyPeer) : (p.requirePolicy visit peers).sets =
      p.sets ++ (rejectKeys visit peers).map (fun k =>
        neighborSetFor visits peers (.requires k.1 k.2)) :=
  (foldl_addReject (rejectKeys visit peers) _ visits peers).1

theorem requirePolicy_statements (p : BgpPolicy) (visit : Visit) (visits : PolicyVisits)
    (peers : List PolicyPeer) (dir : Direction) : (p.requirePolicy visit peers).statements dir =
      p.statements dir ++
        ((rejectKeys visit peers).filter (fun k => k.1 = dir)).map requirePolicyStatement := by
  cases dir with
  | inbound => exact (foldl_addReject (rejectKeys visit peers) _ visits peers).2 .inbound
  | outbound => exact (foldl_addReject (rejectKeys visit peers) _ visits peers).2 .outbound

variable {p : BgpPolicy}

/-- **The peers that require a policy** and have none are rejected. -/
theorem requirePolicy_ok (hsets : SetsOk visits peers lists p.sets) (visit : Visit) :
    SetsOk visits peers lists (p.requirePolicy visit peers).sets ∧
      p.sets ⊆ (p.requirePolicy visit peers).sets ∧
      ∀ F, (p.requirePolicy visit peers).sets ⊆ F →
        Setting isPeer visits peers lists F peer fam r → ∀ dir,
        firstMatch isPeer F ((p.requirePolicy visit peers).statements dir) r =
          (firstMatch isPeer F (p.statements dir) r).or
            (if (dir, fam) ∈ peer.unfiltered then some .reject else none) := by
  rw [requirePolicy_sets p visit visits]
  refine ⟨hsets.append fun s hs => ?_, subset_append_left _ _, fun F hF h dir => ?_⟩
  · obtain ⟨k, -, rfl⟩ := mem_map.mp hs
    exact .neighbor _ nofun
  have hn : ∀ k ∈ rejectKeys visit peers, neighborSetFor visits peers (.requires k.1 k.2) ∈ F :=
    fun k hk => hF (mem_append_right _ (mem_map.mpr ⟨k, hk, rfl⟩))
  rw [requirePolicy_statements p visit visits, firstMatch_append]
  congr 1
  rw [firstMatch_const (d := .reject) fun st hst => by
    obtain ⟨k, -, rfl⟩ := mem_map.mp hst
    rfl]
  refine if_congr ?_ rfl rfl
  rw [any_eq_true]
  constructor
  · rintro ⟨st, hst, hold⟩
    obtain ⟨k, hk, rfl⟩ := mem_map.mp hst
    obtain ⟨hk, hdir⟩ := mem_filter.mp hk
    obtain ⟨hin, hfam⟩ := (requirePolicyStatement_iff h (hn k hk)).mp hold
    rw [← of_decide_eq_true hdir, ← hfam]
    exact hin
  · intro hin
    have hk : (dir, fam) ∈ rejectKeys visit peers := mem_rejectKeys.mpr ⟨hostPrefix peer.addr,
      mem_flatMap.mpr ⟨peer, h.member, mem_map.mpr ⟨_, hin, rfl⟩⟩⟩
    refine ⟨_, mem_map.mpr ⟨(dir, fam), mem_filter.mpr ⟨hk, by simp⟩, rfl⟩, ?_⟩
    exact (requirePolicyStatement_iff h (hn _ hk)).mpr ⟨hin, rfl⟩

/-! ### The fold over the route-maps -/

/-- What a use of a route-map decides for a route. -/
def ruling (maps : List RouteMap) (lists : List CommunityList) (peer : PolicyPeer) (dir : Direction)
    (fam : Family) (communities : List String) (k : RouteMapKey) : Option Decision :=
  if k.dir = dir ∧ peer.Uses k ∧ k.fam = fam then
    (maps.find? fun m => m.name = k.rm).map fun m => frrRouteMap lists m communities
  else none

variable {maps : List RouteMap}

/-- **One route-map.** -/
theorem addRouteMap_ok (hseq : ∀ m ∈ maps, (m.entries.map (·.seq)).Nodup) {p' : BgpPolicy}
    (hok : p.addRouteMap u maps lists (group (routeMapMembers visits peers)) k = .ok p')
    (hsets : SetsOk visits peers lists p.sets) :
    SetsOk visits peers lists p'.sets ∧ p.sets ⊆ p'.sets ∧
      (maps.find? fun m => m.name = k.rm).isSome = true ∧
      ∀ F, p'.sets ⊆ F → Setting isPeer visits peers lists F peer fam r → ∀ dir,
        firstMatch isPeer F (p'.statements dir) r =
          (firstMatch isPeer F (p.statements dir) r).or
            (ruling maps lists peer dir fam r.communities k) := by
  unfold addRouteMap at hok
  split at hok
  · cases hok
  next m hm =>
    dsimp only at hok
    split at hok
    · cases hok
    next stmts sets hstmts =>
      cases hok
      have hset : (⟨routeMapName k.dir k.rm k.fam, .neighbor
          (((group (routeMapMembers visits peers)).get k).getD [])⟩ : DefinedSet) =
          neighborSetFor visits peers (.routeMap k.dir k.rm k.fam) := by
        rw [getD_group]
        rfl
      rw [hset] at hstmts
      have hsets1 : SetsOk visits peers lists
          (p.sets ++ [neighborSetFor visits peers (.routeMap k.dir k.rm k.fam)]) := by
        refine hsets.append fun s hs => ?_
        rw [mem_singleton.mp hs]
        exact .neighbor _ nofun
      obtain ⟨hsets', hsub, hdecides⟩ := routeMapStatements_firstMatch
        (hseq m (mem_of_find?_eq_some hm)) hstmts hsets1
      rw [add_sets]
      refine ⟨hsets', Subset.trans (subset_append_left _ _) hsub, by rw [hm]; rfl,
        fun F hF h dir => ?_⟩
      have hn : neighborSetFor visits peers (.routeMap k.dir k.rm k.fam) ∈ F :=
        hF (hsub (mem_append_right _ (mem_singleton_self _)))
      obtain ⟨hyes, hno⟩ := hdecides F hF h hn
      have hsame : ({ p with sets := sets } : BgpPolicy).statements dir = p.statements dir := by
        cases dir <;> rfl
      rw [add_statements, firstMatch_append]
      congr 1
      unfold ruling
      -- The statements of a route-map go to the policy of its direction alone.
      by_cases hdir : k.dir = dir
      · grind
      · rw [if_neg hdir, if_neg fun hc => hdir hc.1]
        rfl

/-- **The fold over the route-maps**: the rulings in order. -/
theorem addRouteMaps_ok
    (hseq : ∀ m ∈ maps, (m.entries.map (·.seq)).Nodup) {order : List RouteMapKey} {p' : BgpPolicy}
    (hok : order.foldlM
      (addRouteMap u maps lists (group (routeMapMembers visits peers))) p = .ok p')
    (hsets : SetsOk visits peers lists p.sets) :
    SetsOk visits peers lists p'.sets ∧ p.sets ⊆ p'.sets ∧
      (∀ k ∈ order, (maps.find? fun m => m.name = k.rm).isSome = true) ∧
      ∀ F, p'.sets ⊆ F → Setting isPeer visits peers lists F peer fam r → ∀ dir,
        firstMatch isPeer F (p'.statements dir) r =
          (firstMatch isPeer F (p.statements dir) r).or
            (order.findSome? (ruling maps lists peer dir fam r.communities)) := by
  induction order generalizing p with
  | nil =>
    cases hok
    refine ⟨hsets, Subset.refl _, by simp, fun F _ _ dir => ?_⟩
    rw [findSome?_nil, Option.or_none]
  | cons k order ih =>
    rw [foldlM_cons] at hok
    cases hstep : p.addRouteMap u maps lists (group (routeMapMembers visits peers)) k with
    | error e =>
      rw [hstep] at hok
      cases hok
    | ok p1 =>
      rw [hstep] at hok
      obtain ⟨hsets1, hsub1, hm, hfirst⟩ := addRouteMap_ok hseq hstep hsets
      obtain ⟨hsets', hsub', hall, hrest⟩ := ih hok hsets1
      refine ⟨hsets', Subset.trans hsub1 hsub', ?_, fun F hF h dir => ?_⟩
      · grind
      · rw [hrest F hF h dir, hfirst F (Subset.trans hsub' hF) h dir, findSome?_cons,
          Option.or_assoc]
        cases ruling maps lists peer dir fam r.communities k <;> rfl

/-! ### The policies -/

/-- The rulings of all used route-maps: that of the peer's own route-map. -/
theorem findSome?_ruling {order : List RouteMapKey} {dir : Direction}
    {communities : List String} (hfam : (peer.routeMaps.map family).Nodup)
    (horder : ∀ k, peer.Uses k → k ∈ order)
    (hmaps : ∀ k ∈ order, (maps.find? fun m => m.name = k.rm).isSome = true) :
    order.findSome? (ruling maps lists peer dir fam communities) =
      (peer.routeMap dir fam).map fun name =>
        match maps.find? fun m => m.name = name with
        | some m => frrRouteMap lists m communities
        | none => .reject := by
  cases hmap : peer.routeMap dir fam with
  | none =>
    rw [Option.map_none, findSome?_eq_none_iff]
    intro k _
    unfold ruling
    rw [if_neg]
    rintro ⟨rfl, huses, rfl⟩
    rw [(uses_iff hfam).mp huses] at hmap
    cases hmap
  | some name =>
    have huses : peer.Uses ⟨dir, name, fam⟩ := (uses_iff hfam).mpr hmap
    have hk := horder _ huses
    obtain ⟨m, hm⟩ := Option.isSome_iff_exists.mp (hmaps _ hk)
    have hm : (maps.find? fun m => m.name = name) = some m := hm
    have hruling : ruling maps lists peer dir fam communities ⟨dir, name, fam⟩ =
        some (frrRouteMap lists m communities) := by
      unfold ruling
      rw [if_pos ⟨rfl, huses, rfl⟩, hm]
      rfl
    rw [findSome?_of_unique hk hruling, Option.map_some, hm]
    intro k' _ d hd
    unfold ruling at hd
    split at hd
    next happlies => grind [uses_iff]
    · cases hd

end Statements

/-! ### A fabric peer -/

/-- Neighbor sets that compare entries. -/
def sameEntry (e : NeighborEntry) (a : Addr) : Bool := e = hostPrefix a

/-- Entries are matched by the address. -/
theorem sameEntry_namesPeers : EntriesNamePeers sameEntry := fun _ _ => decide_eq_true_iff

/-- A fabric peer with a local-as, and the route-maps of the template. -/
def fabricPeer : PolicyPeer where
  name := "fe80::1%eth1"
  addr := .v6 (BitVec.ofNat 128 (0xfe80 * 2 ^ 112 + 1)) "eth1"
  localAS := 65501
  routerAS := 4210000017
  allowASIn := 3
  routeMaps := [⟨.ipv4Unicast, "TAG-FABRIC-IN", "DENY-TAG-FABRIC-OUT"⟩]

/-- A peer with the same link-local address on another interface, which requires a policy. -/
def strictPeer : PolicyPeer where
  name := "fe80::1%eth2"
  addr := .v6 (BitVec.ofNat 128 (0xfe80 * 2 ^ 112 + 1)) "eth2"
  localAS := 0
  routerAS := 4210000017
  allowASIn := 0
  families := [.ipv4Unicast]
  requirePolicy := true

/-- The route-maps of the template. -/
def templateMaps : List RouteMap :=
  [⟨"TAG-FABRIC-IN", [{ seq := 10, setLocalPreference := some 90, setCommunities := ["65169:200"]
                        setCommunityAdditive := true }]⟩,
    ⟨"DENY-TAG-FABRIC-OUT", [{ seq := 20 }, { seq := 10, deny := true
                                              matchCommunity := "cm-received-fabric" }]⟩]

/-- Its community list. -/
def templateLists : List CommunityList :=
  [⟨"cm-received-fabric", [{ communities := ["65169:200"] }]⟩]

/-- All maps are visited in the order in which they are stored. -/
def storedVisits : PolicyVisits := ⟨.stored, .stored, fun _ _ => .stored⟩

end Booty.Gobgp
