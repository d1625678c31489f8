import Booty.Frrconf.Parse

namespace Booty.Frrconf

open Booty.Lib List Option
open Booty.Lib.Prog

/-!
# The objects of the node stack exist

The parser keeps one index for each kind of open object.  A statement is tried in every node of the
stack, so its code relies on the objects of the nodes above as well.

* `StackOk` — every node of the stack has its object, and stands above the right node.
* `apply_sat` — a statement in a node: no fault; the objects stay, or a block opens or ends; an
  error leaves the parser as it was.
* `parse_never_out_of_range` — no text makes the parser index out of range.
* `skipped_statement_keeps_config` — a statement that is skipped changes nothing.
-/

/-! ### Open objects -/

/-- The object that a node refers to exists; an L2VNI belongs to an address-family l2vpn evpn. -/
def Open (p : Parser) : Node → Prop
  | .bgp => ∃ r, p.cfg.routers[p.router]? = some r
  | .af => ∃ r, p.cfg.routers[p.router]? = some r ∧ ∃ a, r.addressFamilies[p.af]? = some a
  | .l2vni => ∃ r, p.cfg.routers[p.router]? = some r ∧
      ∃ a, r.addressFamilies[p.af]? = some a ∧ a.safi = .evpn ∧ a.l2vnis ≠ []
  | .routeMap => ∃ rm, p.cfg.routeMaps[p.rmIndex]? = some rm ∧ ∃ e, rm.entries[p.rmEntry]? = some e
  | .bfdProfile => ∃ b, p.cfg.bfdProfiles[p.profile]? = some b
  | .config | .bfd | .vrf | .lineVTY => True

/-- A node stands above the node that its block belongs to. -/
def ParentOk (parent : Node) : Node → Prop
  | .config => False
  | .bgp | .routeMap | .bfd | .vrf | .lineVTY => parent = .config
  | .af => parent = .bgp
  | .l2vni => parent = .af
  | .bfdProfile => parent = .bfd

/-- **The stack is valid**: it begins at the top level, every node has its object and the right node
    below it. -/
structure StackOk (p : Parser) : Prop where
  top : p.stack.head? = some .config
  valid : ∀ n ∈ p.stack, Open p n
  chain : p.stack.IsChain ParentOk

/-! ### Paths -/

/-- The stack that ends in a node. -/
def path : Node → List Node
  | .config => [.config]
  | .bgp => [.config, .bgp]
  | .af => [.config, .bgp, .af]
  | .l2vni => [.config, .bgp, .af, .l2vni]
  | .routeMap => [.config, .routeMap]
  | .bfd => [.config, .bfd]
  | .bfdProfile => [.config, .bfd, .bfdProfile]
  | .vrf => [.config, .vrf]
  | .lineVTY => [.config, .lineVTY]

/-- The parser is in some node, and the objects on its path exist. -/
def Inv (p : Parser) : Prop := ∃ n, p.stack = path n ∧ Open p n

variable {m : Node}

/-- A part of a path is the path of a node on it. -/
theorem path_take {n : Node} {d : Nat} (h : (path n)[d]? = some m) :
    (path n).take (d + 1) = path m := by
  cases n <;> rcases d with _ | _ | _ | _ | d <;> simp [path] at h ⊢ <;> subst h <;> rfl

/-- The nodes around an open one are open. -/
theorem open_of_path {p : Parser} {n : Node} {d : Nat} (hopen : Open p n)
    (h : (path n)[d]? = some m) : Open p m := by
  cases n <;> rcases d with _ | _ | _ | _ | d <;> simp [path] at h <;> subst h <;>
    first
      | trivial
      | exact hopen
      | exact ⟨hopen.choose, hopen.choose_spec.1⟩
      | exact ⟨hopen.choose, hopen.choose_spec.1, hopen.choose_spec.2.choose,
          hopen.choose_spec.2.choose_spec.1⟩

theorem open_of_mem_path {p : Parser} {n : Node} (hopen : Open p n) (h : m ∈ path n) :
    Open p m := by
  obtain ⟨d, hd⟩ := getElem?_of_mem h
  exact open_of_path hopen hd

/-- The invariant says that the stack fits the objects. -/
theorem Inv.stackOk {p : Parser} (h : Inv p) : StackOk p := by
  obtain ⟨n, hstack, hopen⟩ := h
  refine ⟨?_, fun m hm => open_of_mem_path hopen (hstack ▸ hm), ?_⟩
  · rw [hstack]
    cases n <;> rfl
  · rw [hstack]
    cases n <;> simp [path, ParentOk]

/-! ### What stays open -/

/-- Every object that was open still is. -/
def Keeps (p p' : Parser) : Prop := ∀ n, Open p n → Open p' n

theorem Keeps.refl (p : Parser) : Keeps p p := fun _ h => h

/-- An address-family with the same SAFI that has not lost its L2VNIs. -/
def AFKept (a a' : AddressFamily) : Prop := a'.safi = a.safi ∧ (a.l2vnis ≠ [] → a'.l2vnis ≠ [])

theorem AFKept.refl (a : AddressFamily) : AFKept a a := ⟨rfl, id⟩

/-- The three kinds of open objects, each with what is inside it. -/
structure Grown (p p' : Parser) : Prop where
  router : ∀ r, p.cfg.routers[p.router]? = some r → ∃ r', p'.cfg.routers[p'.router]? = some r' ∧
    ∀ a, r.addressFamilies[p.af]? = some a →
      ∃ a', r'.addressFamilies[p'.af]? = some a' ∧ AFKept a a'
  entry : ∀ rm e, p.cfg.routeMaps[p.rmIndex]? = some rm → rm.entries[p.rmEntry]? = some e →
    ∃ rm', p'.cfg.routeMaps[p'.rmIndex]? = some rm' ∧ ∃ e', rm'.entries[p'.rmEntry]? = some e'
  profile : ∀ b, p.cfg.bfdProfiles[p.profile]? = some b →
    ∃ b', p'.cfg.bfdProfiles[p'.profile]? = some b'

/-- New objects leave the others alone. -/
theorem Grown.keeps {p p' : Parser} (h : Grown p p') : Keeps p p' := by
  intro n hn
  cases n with
  | bgp =>
    obtain ⟨r, hr⟩ := hn
    obtain ⟨r', hr', -⟩ := h.router r hr
    exact ⟨r', hr'⟩
  | af =>
    obtain ⟨r, hr, a, ha⟩ := hn
    obtain ⟨r', hr', hafs⟩ := h.router r hr
    obtain ⟨a', ha', -⟩ := hafs a ha
    exact ⟨r', hr', a', ha'⟩
  | l2vni =>
    obtain ⟨r, hr, a, ha, hevpn, hvni⟩ := hn
    obtain ⟨r', hr', hafs⟩ := h.router r hr
    obtain ⟨a', ha', hsafi, hkept⟩ := hafs a ha
    exact ⟨r', hr', a', ha', hsafi.trans hevpn, hkept hvni⟩
  | routeMap =>
    obtain ⟨rm, hrm, e, he⟩ := hn
    exact h.entry rm e hrm he
  | bfdProfile =>
    obtain ⟨b, hb⟩ := hn
    exact h.profile b hb
  | _ => trivial

/-- A configuration with the same objects that nodes refer to. -/
structure SameObjects (c c' : Config) : Prop where
  routers : c'.routers = c.routers
  routeMaps : c'.routeMaps = c.routeMaps
  bfdProfiles : c'.bfdProfiles = c.bfdProfiles

/-- A change of the configuration that keeps the objects. -/
theorem keeps_cfg {p : Parser} {c : Config} (h : SameObjects p.cfg c) :
    Keeps p { p with cfg := c } := by
  refine Grown.keeps ⟨fun r hr => ⟨r, ?_, fun a ha => ⟨a, ha, .refl a⟩⟩,
    fun rm e hrm he => ⟨rm, ?_, e, he⟩, fun b hb => ⟨b, ?_⟩⟩
  · exact h.routers ▸ hr
  · exact h.routeMaps ▸ hrm
  · exact h.bfdProfiles ▸ hb

/-- The open router is replaced by one with the same address-families. -/
theorem keeps_router {p : Parser} {r r' : Router} (hr : p.cfg.routers[p.router]? = some r)
    (hafs : ∀ a, r.addressFamilies[p.af]? = some a →
      ∃ a', r'.addressFamilies[p.af]? = some a' ∧ AFKept a a') :
    Keeps p { p with cfg := { p.cfg with routers := p.cfg.routers.set p.router r' } } := by
  have hlt : p.router < p.cfg.routers.length := (List.getElem?_eq_some_iff.mp hr).1
  refine Grown.keeps ⟨fun r1 hr1 => ⟨r', getElem?_set_self hlt, ?_⟩,
    fun rm e hrm he => ⟨rm, hrm, e, he⟩, fun b hb => ⟨b, hb⟩⟩
  rw [hr] at hr1
  cases hr1
  exact hafs

/-! ### Specifications -/

/-- A statement that changes objects, and opens and ends no block. -/
def Changes (p : Parser) : Unit → Parser → Prop := fun _ p' => Keeps p p' ∧ p'.stack = p.stack

/-- A statement ends in a node whose objects exist. -/
def Lands : Unit → Parser → Prop := fun _ p' => Inv p'

section Spec

variable {σ α : Type} {s : σ} {T : Texts} {p : Parser} {n : Node} {f rest : List String}

/-- A statement that changes an object stays in its node. -/
theorem changes_inv {m : P Unit} (hstack : p.stack = path n) (hopen : Open p n)
    (h : Safe m p (Changes p)) : Safe m p Lands :=
  h.imp fun _ _ ⟨hk, hs⟩ => ⟨n, hs.trans hstack, hk n hopen⟩

variable {i : Nat}

/-- A word of the statement. -/
theorem sat_word {Q : String → σ → Prop} {E : FrrError → σ → Prop}
    {F : Prop} (h : i < f.length) (hQ : ∀ w, Q w s) : Sat (word f i) s Q E F :=
  sat_fetch (getElem?_eq_getElem h) (hQ _)

variable {g : String → Prog σ FrrError α} {Q : α → σ → Prop}

/-- The next word of a statement that is long enough. -/
theorem sat_bindWord {E : FrrError → σ → Prop}
    {F : Prop} (h : i < f.length) (hg : ∀ w, Sat (g w) s Q E F) :
    Sat (word f i >>= g) s Q E F :=
  sat_bind (sat_word h hg)

/-- The rest of the statement. -/
theorem sat_wordsFrom {Q : List String → σ → Prop}
    {E : FrrError → σ → Prop} {F : Prop} (h : i ≤ f.length) (hQ : Q (f.drop i) s) :
    Sat (wordsFrom f i) s Q E F := by
  unfold wordsFrom
  rw [if_pos h]
  exact sat_lift (fun a ha => by cases ha; exact hQ) nofun nofun

/-- A change of the configuration. -/
theorem sat_modifyCfg {g : Config → Config} (h : SameObjects p.cfg (g p.cfg)) :
    Safe (modifyCfg g) p (Changes p) := by
  exact sat_act.mpr ⟨keeps_cfg h, rfl⟩

theorem sat_unchanged : Safe (pure () : P Unit) p (Changes p) := sat_pure.mpr ⟨.refl p, rfl⟩

variable {e : FrrError}

variable {E : FrrError → Parser → Prop}

theorem sat_getLine {g : Nat → P α} {Q : α → Parser → Prop} {F : Prop}
    (hg : Sat (g p.line) p Q E F) : Sat (getLine >>= g) p Q E F := sat_bindAct hg

/-- A block that opens. -/
theorem sat_push {n' : Node} (hpath : p.stack ++ [n'] = path n')
    (hopen : Open p n') : Sat (push n') p Lands E False := by
  refine sat_act.mpr ⟨n', hpath, ?_⟩
  cases n' <;> exact hopen

/-- The node above. -/
def parent : Node → Node
  | .af => .bgp
  | .l2vni => .af
  | .bfdProfile => .bfd
  | _ => .config

/-- A block that ends. -/
theorem sat_pop (hstack : p.stack = path n) (hopen : Open p n) : Sat pop p Lands E False := by
  have hparent := open_of_mem_path hopen (m := parent n) (by cases n <;> simp [path, parent])
  unfold pop
  rw [sat_act]
  by_cases hlen : 1 < p.stack.length
  · rw [if_pos hlen]
    refine ⟨parent n, ?_, ?_⟩
    · rw [hstack]
      rw [hstack] at hlen
      cases n <;> first | rfl | simp [path] at hlen
    · cases n <;> exact hparent
  · rw [if_neg hlen]
    exact ⟨n, hstack, hopen⟩

/-! ### Texts -/

theorem parseUint32_noFault (T : Texts) (v what : String) : (parseUint32 T v what).NoFault := by
  unfold parseUint32
  split <;> exact nofun

theorem sat_bindUint32 {w what : String} {g : Nat → Prog σ FrrError α} {Q : α → σ → Prop}
    (hg : ∀ v, Safe (g v) s Q) : Safe (lift (parseUint32 T w what) >>= g) s Q :=
  sat_bind (safe_lift (parseUint32_noFault T w what) hg)

/-- One computation after another. -/
theorem noFault_bind {α β : Type} {x : Outcome FrrError α} {g : α → Outcome FrrError β}
    (hx : x.NoFault) (hg : ∀ a, (g a).NoFault) : (x.bind g).NoFault := by
  intro q hq
  cases x with
  | ok a => exact hg a q hq
  | err e => cases hq
  | fault q' => exact hx q' rfl

theorem noFault_mapErr {x : Outcome FrrError α} {g : FrrError → FrrError}
    (hx : x.NoFault) : (x.mapErr g).NoFault := by
  intro q hq
  cases x with
  | ok a => cases hq
  | err e => cases hq
  | fault q' => exact hx q' rfl

/-- `validateCommunities` does not fault. -/
theorem validateCommunities_noFault (T : Texts) (cs : List String) :
    (validateCommunities T cs).NoFault := by
  induction cs with
  | nil => exact nofun
  | cons c cs ih =>
    refine noFault_bind ?_ fun _ => ih
    unfold validateCommunity
    split
    · exact nofun
    · split <;> exact nofun

/-- `validateExtCommunity` does not fault. -/
theorem validateExtCommunity_noFault (T : Texts) (rt : String) :
    (validateExtCommunity T rt).NoFault := by
  unfold validateExtCommunity
  split
  · exact nofun
  · split
    · repeat' split
      all_goals exact nofun
    · split
      · exact nofun
      next asn _ =>
        dsimp only
        generalize (if asn > 65535 then 16 else 32) = bits
        split <;> exact nofun

/-- `parseRemoteAS` does not fault. -/
theorem parseRemoteAS_noFault (T : Texts) (v : String) : (parseRemoteAS T v).NoFault := by
  unfold parseRemoteAS
  repeat' split
  · exact nofun
  · exact nofun
  · exact nofun
  · exact noFault_bind (parseUint32_noFault T v _) fun _ => nofun

/-- `addRouteTarget` does not fault. -/
theorem addRouteTarget_noFault (T : Texts) (lists : List String × List String) (dir rt : String) :
    (addRouteTarget T lists dir rt).NoFault := by
  refine noFault_bind (noFault_mapErr (validateExtCommunity_noFault T rt)) fun _ => ?_
  repeat' split
  all_goals exact nofun

/-! ### The top level -/

/-- The `vni` statement. -/
theorem vni_sat (vrf : String) : Safe (vni T f vrf) p (Changes p) := by
  refine safe_unless fun hlen => ?_
  have hlt : 1 < f.length := by
    simp only [Bool.and_eq_true, bne_iff_ne, Bool.or_eq_true] at hlen
    omega
  refine sat_bindWord hlt fun w => sat_bindUint32 fun v => ?_
  exact sat_getLine (sat_modifyCfg ⟨rfl, rfl, rfl⟩)

/-- The `ip route` statement. -/
theorem staticRoute_sat : Safe (staticRoute T f) p (Changes p) := by
  refine safe_unless fun hlen => ?_
  have hlen : f.length = 4 := by
    simp only [Bool.or_eq_true, bne_iff_ne, not_or, Classical.not_not] at hlen
    exact hlen.1
  refine sat_bindWord (by omega) fun w => sat_bindWord (by omega) fun kind => ?_
  split
  · exact safe_fail
  · refine safe_unless fun _ => ?_
    exact sat_getLine (sat_modifyCfg ⟨rfl, rfl, rfl⟩)

/-- A new router at the top level. -/
theorem routerBGP_sat (hstack : p.stack = path .config) : Safe (routerBGP T f) p Lands := by
  refine safe_unless fun hlen => ?_
  have hlt : 2 < f.length := by
    simp only [Bool.and_eq_true, bne_iff_ne, Bool.or_eq_true] at hlen
    omega
  refine sat_bindWord hlt fun w => sat_bindUint32 fun asn => ?_
  have hvrf : Safe (routerVRF f) p fun _ p' => p' = p := by
    refine sat_ite (fun h5 => sat_word ?_ fun _ => rfl) fun _ => sat_pure.mpr rfl
    rw [beq_iff_eq] at h5
    omega
  refine hvrf.seq ?_
  rintro vrf _ rfl
  refine sat_bindAct (sat_push ?_ ⟨_, getElem?_concat_length⟩)
  rw [hstack]
  rfl

theorem lastIndex_lt {q : α → Bool} {l : List α} (h : lastIndex q l = some i) : i < l.length := by
  obtain ⟨x, hx, rfl⟩ := map_eq_some_iff.mp h
  have hmem := (mem_filter.mp (mem_of_getLast? hx)).1
  have := snd_lt_of_mem_zipIdx hmem
  omega

/-- A new entry of a route-map of the configuration. -/
theorem addEntry_sat {idx : Nat} {name : String} {seq : Int} {action : RouteMapAction}
    (hidx : idx < p.cfg.routeMaps.length) :
    Sat (addEntry idx name seq action) p (fun _ p' => Open p' .routeMap ∧ p'.stack = p.stack)
      (fun _ p' => p' = p ∧ ∃ rm, p.cfg.routeMaps[idx]? = some rm ∧ rm.entries ≠ []) False := by
  refine sat_bind (sat_fetch (getElem?_eq_getElem hidx) ?_)
  refine sat_ite (fun htwice => sat_fail.mpr ⟨rfl, _, getElem?_eq_getElem hidx, ?_⟩)
    fun _ => sat_getLine (sat_bind ?_)
  · intro hnil
    rw [hnil] at htwice
    cases htwice
  have hpos : findIdx (fun e : RouteMapEntry => decide (e.seq > seq))
      p.cfg.routeMaps[idx].entries ≤ p.cfg.routeMaps[idx].entries.length :=
    findIdx_le_length
  rw [insertAt, if_pos hpos]
  refine sat_lift (fun entries hentries => ?_) nofun nofun
  cases hentries
  rw [sat_act]
  refine ⟨⟨_, getElem?_set_self hidx, ⟨seq, action, "", none, [], false, p.line⟩, ?_⟩, rfl⟩
  simp [Nat.min_eq_left hpos]

/-- A route-map is found or added. -/
theorem routeMapIndex_sat (name : String) :
    Safe (routeMapIndex name) p fun idx p' => idx < p'.cfg.routeMaps.length ∧ p'.stack = p.stack ∧
      (p' = p ∨ p'.cfg.routeMaps[idx]? = some { name := name }) := by
  refine sat_act.mpr ?_
  cases hidx : lastIndex (fun m : RouteMap => m.name = name) p.cfg.routeMaps with
  | some i => exact ⟨lastIndex_lt hidx, rfl, .inl rfl⟩
  | none => exact ⟨by simp, rfl, .inr getElem?_concat_length⟩

/-- The `route-map` statement opens a block. -/
theorem routeMap_sat (hstack : p.stack = path .config) : Safe (routeMap T f) p Lands := by
  refine safe_unless fun hlen => ?_
  have hlen : f.length = 4 := by simpa using hlen
  refine sat_bindWord (by omega) fun w => ?_
  split
  · exact safe_fail
  next action _ =>
    refine sat_bindWord (by omega) fun name => sat_bindWord (by omega) fun w => ?_
    split
    · exact safe_fail
    next seq _ =>
      refine (routeMapIndex_sat name).seq fun idx p1 h1 => ?_
      obtain ⟨hidx, hs1, hnew⟩ := h1
      refine sat_bind ((addEntry_sat hidx).mono (fun _ p2 h2 => ?_) ?_)
      · refine sat_push ?_ h2.1
        rw [h2.2, hs1, hstack]
        rfl
      · -- A new route-map has no entry of the sequence number.
        rintro e _ ⟨rfl, rm, hrm, hne⟩
        rcases hnew with rfl | hnew
        · rfl
        · rw [hnew] at hrm
          cases hrm
          exact absurd rfl hne

/-- The `bgp community-list` statement. -/
theorem communityList_sat : Safe (communityList T f) p (Changes p) := by
  refine safe_unless fun hlen => ?_
  have hlen : 6 ≤ f.length := by
    simp only [Bool.or_eq_true, decide_eq_true_eq] at hlen
    omega
  refine sat_bindWord (by omega) fun name => sat_bind (sat_wordsFrom (by omega) ?_)
  have hrest : 2 ≤ (f.drop 4).length := by
    rw [length_drop]
    omega
  refine sat_bindWord (by omega) fun first => ?_
  refine safe_unless fun hseq => sat_bind ?_
  -- What is left has an action, with or without `seq N` before it.
  have hafter : Safe (afterSeq first (f.drop 4)) p fun rest p' => p' = p ∧ 0 < rest.length := by
    refine sat_ite (fun hs => ?_) fun _ => ?_
    · have hfour : 4 ≤ (f.drop 4).length := by
        simp only [Bool.and_eq_true, decide_eq_true_eq, not_and, not_lt] at hseq
        exact hseq hs
      refine sat_wordsFrom (by omega) ⟨rfl, ?_⟩
      rw [length_drop]
      omega
    · exact sat_pure.mpr ⟨rfl, by omega⟩
  refine hafter.imp fun rest p' hp' => ?_
  obtain ⟨rfl, hpos⟩ := hp'
  refine sat_bindWord hpos fun w => ?_
  split
  · exact safe_fail
  · refine sat_bind (sat_wordsFrom (by omega) (sat_bind (safe_lift (validateCommunities_noFault T _)
      fun _ => ?_)))
    exact sat_getLine (sat_modifyCfg ⟨rfl, rfl, rfl⟩)

/-- The length of a statement in a condition. -/
theorem length_of_and {b : Bool} {k : Nat} (h : (b && f.length == k) = true) : f.length = k := by
  grind

/-- The next word of a statement whose length has been checked. -/
theorem sat_bindChecked
    {E : FrrError → σ → Prop} {F : Prop} {b : Bool} {k : Nat} (h : (b && f.length == k) = true)
    (hi : i < k) (hg : ∀ w, Sat (g w) s Q E F) : Sat (word f i >>= g) s Q E F :=
  sat_bindWord (length_of_and h ▸ hi) hg

theorem length_of_is {words : List String} (h : is f words = true) : f.length = words.length := by
  rw [is, beq_iff_eq] at h
  rw [h]

/-- A statement at the top. -/
theorem configStatement_sat (hstack : p.stack = path .config) :
    Safe (configStatement T f) p Lands := by
  have hchanges : ∀ {m : P Unit}, Safe m p (Changes p) →
      Safe m p Lands := fun h => changes_inv hstack trivial h
  have hpush : ∀ n', path n' = path .config ++ [n'] → Open p n' → Safe (push n') p Lands :=
    fun n' hpath hopen => sat_push (by rw [hstack, hpath]) hopen
  -- One case per statement, in the order of the source.
  refine sat_ite (fun h => hchanges (sat_bindChecked h (by decide) fun v =>
    sat_modifyCfg ⟨rfl, rfl, rfl⟩)) fun _ => ?_
  refine sat_ite (fun h => hchanges (sat_bindChecked h (by decide) fun v => ?_)) fun _ => ?_
  · split
    · exact sat_modifyCfg ⟨rfl, rfl, rfl⟩
    · exact safe_fail
  refine sat_ite (fun h => hchanges (sat_bindChecked h (by decide) fun v =>
    sat_modifyCfg ⟨rfl, rfl, rfl⟩)) fun _ => ?_
  refine sat_either (hchanges sat_unchanged) ?_
  refine sat_either (hchanges sat_unchanged) ?_
  have hfirst : ∀ {a b : List String}, a ≠ [] → b ≠ [] → (is f a || is f b) = true →
      0 < f.length := by
    intro a b ha hb h
    rcases Bool.or_eq_true _ _ ▸ h with h | h
    · rw [length_of_is h]
      exact length_pos_iff.mpr ha
    · rw [length_of_is h]
      exact length_pos_iff.mpr hb
  refine sat_ite (fun h => hchanges (sat_bindWord (hfirst (by simp) (by simp) h)
    fun v => sat_modifyCfg ⟨rfl, rfl, rfl⟩)) fun _ => ?_
  refine sat_ite (fun h => hchanges (sat_bindWord (hfirst (by simp) (by simp) h)
    fun v => sat_modifyCfg ⟨rfl, rfl, rfl⟩)) fun _ => ?_
  refine sat_either (hchanges (vni_sat "")) ?_
  refine sat_either (hchanges staticRoute_sat) ?_
  refine sat_either (routerBGP_sat hstack) ?_
  refine sat_either (hpush .bfd rfl trivial) ?_
  refine sat_either (routeMap_sat hstack) ?_
  refine sat_either (hchanges communityList_sat) ?_
  refine sat_ite (fun h => sat_bindChecked h (by decide) fun w => ?_) fun _ => ?_
  · refine sat_bindAct ?_
    exact sat_push (by show p.stack ++ [Node.vrf] = path .vrf; rw [hstack]; rfl) trivial
  refine sat_either (hpush .lineVTY rfl trivial) ?_
  exact sat_either (hchanges sat_unchanged) safe_fail

/-- A statement of a VRF. -/
theorem vrfStatement_sat (hstack : p.stack = path .vrf) : Safe (vrfStatement T f) p Lands := by
  refine sat_bindAct ?_
  refine sat_either (changes_inv hstack trivial (vni_sat p.vrf)) ?_
  refine safe_unless fun _ => ?_
  exact sat_either (sat_pop hstack trivial) safe_fail

/-! ### Neighbors -/

/-- A program that does not fault, and whose error leaves the state. -/
def Runs (m : Prog σ FrrError Unit) : Prop :=
  ∀ s, Safe m s fun _ _ => True

theorem runs_act (g : σ → Unit × σ) : Runs (act g : Prog σ FrrError Unit) :=
  fun _ => sat_act.mpr trivial

theorem parseLocalAS_runs (T : Texts) (rest : List String) : Runs (parseLocalAS T rest) := by
  intro n
  refine safe_unless fun hlen => ?_
  have hlt : 1 < rest.length := by
    simp only [Bool.or_eq_true, decide_eq_true_eq] at hlen
    omega
  refine sat_bindWord hlt fun w => sat_bindUint32 fun asn => ?_
  refine sat_bind (sat_wordsFrom (by omega) ?_)
  refine sat_either (runs_act _ n) ?_
  refine sat_either (runs_act _ n) ?_
  exact sat_either (runs_act _ n) safe_fail

/-- An attribute of a neighbor. -/
theorem neighborAttribute_runs (T : Texts) (rest : List String) :
    Runs (neighborAttribute T rest) := by
  intro n
  refine sat_ite (fun h => sat_bindChecked h (by decide) fun w => ?_) fun _ => ?_
  · exact sat_bind (safe_lift (parseRemoteAS_noFault T w) fun _ => runs_act _ n)
  refine sat_either (parseLocalAS_runs T rest n) ?_
  refine sat_either (runs_act _ n) ?_
  refine sat_ite (fun h => sat_bindChecked h (by decide) fun w => runs_act _ n) fun _ => ?_
  refine sat_ite (fun h => sat_bindChecked h (by decide) fun w => ?_) fun _ => ?_
  · exact sat_bindUint32 fun _ => runs_act _ n
  refine sat_ite (fun h => sat_bindChecked h (by decide) fun k =>
    sat_bindChecked h (by decide) fun h => ?_) fun _ => safe_fail
  refine sat_bindUint32 fun _ => ?_
  refine sat_bindUint32 fun _ => ?_
  exact safe_unless fun _ => runs_act _ n

/-- The address-families of a router stay as they are. -/
def SameAFs (r : Router) : Router → Prop := fun r' => r'.addressFamilies = r.addressFamilies

variable {r : Router}

/-- The entry of the name is there, or a new one that cannot fail. -/
theorem onNeighborIn_runs {m : Prog Neighbor FrrError Unit} (hm : Runs m) {name : String}
    {line : Nat}
    {ns : List Neighbor} (hnew : (∃ n ∈ ns, n.name = name) ∨
      ∀ e, (m { name := name, line := line }).1 ≠ .err e) :
    (onNeighborIn name line m ns).1.NoFault ∧
      ∀ e, (onNeighborIn name line m ns).1 = .err e → (onNeighborIn name line m ns).2 = ns := by
  induction ns with
  | nil =>
    refine ⟨(hm _).noFault, fun e he => ?_⟩
    rcases hnew with ⟨n, hn, -⟩ | hnew
    · cases hn
    · exact absurd he (hnew e)
  | cons n ns ih =>
    unfold onNeighborIn
    split
    · exact ⟨(hm n).noFault, fun e he => congrArg (· :: ns) ((hm n).of_err he)⟩
    next hne =>
      have hrest := ih (hnew.imp_left fun ⟨n', hn', hname⟩ => ⟨n', by grind, hname⟩)
      exact ⟨hrest.1, fun e he => congrArg (n :: ·) (hrest.2 e he)⟩

/-- A change of a neighbor leaves the address families alone. -/
theorem onNeighbor_sat {m : Prog Neighbor FrrError Unit} (hm : Runs m) {name : String} {line : Nat}
    (hnew : (∃ n ∈ r.neighbors, n.name = name) ∨
      ∀ e, (m { name := name, line := line }).1 ≠ .err e) :
    Safe (onNeighbor name line m) r fun _ => SameAFs r := by
  obtain ⟨hnf, herr⟩ := onNeighborIn_runs hm hnew
  cases hres : (onNeighborIn name line m r.neighbors).1 with
  | ok a => exact sat_of_ok hres rfl
  | err e =>
    refine sat_of_err hres ?_
    show ({ r with neighbors := _ } : Router) = r
    rw [herr e hres]
  | fault q => exact absurd hres (hnf q)

theorem onNeighbor_act (g : Neighbor → Unit × Neighbor) (name : String) (line : Nat) :
    Safe (onNeighbor name line (act g)) r fun _ => SameAFs r :=
  onNeighbor_sat (runs_act g) (.inr nofun)

/-- What a program returns does not depend on the state. -/
def Blind (m : Prog σ FrrError α) : Prop := ∀ s s', (m s).1 = (m s').1

theorem blind_bind {β : Type} {m : Prog σ FrrError α} {g : α → Prog σ FrrError β} (hm : Blind m)
    (hg : ∀ a, Blind (g a)) : Blind (m >>= g) := by
  intro s s'
  show (Prog.bind m g s).1 = (Prog.bind m g s').1
  unfold Prog.bind
  have hres := hm s s'
  generalize m s = r1 at hres ⊢
  generalize m s' = r2 at hres ⊢
  obtain ⟨x, t⟩ := r1
  obtain ⟨y, t'⟩ := r2
  cases hres
  cases x with
  | ok a => exact hg a t t'
  | err e => rfl
  | fault q => rfl

theorem blind_ite {c : Prop} [Decidable c] {m m' : Prog σ FrrError α} (hm : Blind m)
    (hm' : Blind m') : Blind (if c then m else m') := by
  split
  · exact hm
  · exact hm'

theorem blind_word (f : List String) (i : Nat) : Blind (word f i : Prog σ FrrError String) := by
  intro s s'
  unfold word fetch
  cases f[i]? <;> rfl

/-- Whether an attribute is accepted does not depend on the neighbor. -/
theorem neighborAttribute_blind (T : Texts) (rest : List String) :
    Blind (neighborAttribute T rest) := by
  have hpure : ∀ (g : Neighbor → Neighbor),
      Blind (act fun n => ((), g n) : Prog Neighbor FrrError Unit) := fun g _ _ => rfl
  have hlocal : Blind (parseLocalAS T rest) :=
    blind_ite (fun _ _ => rfl) (blind_bind (blind_word rest 1) fun w => blind_bind (fun _ _ => rfl)
      fun asn => blind_bind (fun _ _ => rfl) fun flags =>
        blind_ite (hpure _) (blind_ite (hpure _) (blind_ite (hpure _) fun _ _ => rfl)))
  have htimers : ∀ k h, Blind (parseTimers T k h) := fun k h =>
    blind_bind (fun _ _ => rfl) fun _ => blind_bind (fun _ _ => rfl) fun _ =>
      blind_ite (fun _ _ => rfl) (hpure _)
  refine blind_ite (blind_bind (blind_word rest 1) fun w => blind_bind (fun _ _ => rfl)
    fun _ => hpure _) (blind_ite hlocal (blind_ite (hpure _) (blind_ite ?_ (blind_ite ?_ ?_))))
  · exact blind_bind (blind_word rest 2) fun w => hpure _
  · exact blind_bind (blind_word rest 2) fun w => blind_bind (fun _ _ => rfl) fun _ => hpure _
  · exact blind_ite (blind_bind (blind_word rest 1) fun k => blind_bind (blind_word rest 2) fun h =>
      htimers k h) fun _ _ => rfl

theorem checkGroup_sat (group : String) : Safe (checkGroup group) r fun _ r' => r' = r := by
  refine sat_bindAct ?_
  exact sat_either (sat_pure.mpr rfl) safe_fail

variable (line : Nat) (name : String)

/-- A neighbor on an interface. -/
theorem interfaceNeighbor_sat : Safe (interfaceNeighbor T line name rest) r fun _ => SameAFs r := by
  refine sat_either (onNeighbor_act _ name line) ?_
  refine sat_ite (fun h => ?_) fun _ => ?_
  · simp only [Bool.and_eq_true, beq_iff_eq] at h
    refine sat_bindWord (by omega) fun group => sat_bind ?_
    refine (checkGroup_sat group).imp fun _ r' hr' => ?_
    rw [hr']
    exact onNeighbor_act _ name line
  refine sat_ite (fun h => ?_) fun _ => safe_fail
  simp only [Bool.and_eq_true, beq_iff_eq] at h
  refine sat_bindWord (by omega) fun w => ?_
  exact sat_bind (safe_lift (parseRemoteAS_noFault T w) fun _ => onNeighbor_act _ name line)

/-- A new neighbor. -/
theorem newNeighbor_sat (hrest : 0 < rest.length) :
    Safe (newNeighbor T line name rest) r fun _ => SameAFs r := by
  refine sat_bindWord hrest fun first => ?_
  refine safe_unless fun _ => safe_unless fun _ => ?_
  refine sat_bind (sat_lift (fun _ hok => onNeighbor_sat (neighborAttribute_runs T rest) (.inr ?_))
    (fun _ _ => rfl) fun q hq => absurd hq ((neighborAttribute_runs T rest {}).noFault q))
  -- The statement has been checked on an empty entry.
  intro e he
  rw [neighborAttribute_blind T rest _ {}, hok] at he
  cases he

theorem memberName_sat (name : String) : Safe (memberName T name) r fun _ r' => r' = r := by
  refine sat_bindAct ?_
  refine sat_either (sat_pure.mpr rfl) ?_
  exact sat_either (sat_pure.mpr rfl) safe_fail

/-- **A neighbor statement** leaves the address-families. -/
theorem neighborStatement_sat (hrest : 0 < rest.length) :
    Safe (neighborStatement T line name rest) r fun _ => SameAFs r := by
  refine sat_either (onNeighbor_act _ name line) ?_
  refine sat_bindWord hrest fun first => sat_bindAct ?_
  refine sat_either (sat_bind (sat_wordsFrom (by omega) (interfaceNeighbor_sat line name))) ?_
  refine sat_either (sat_either (sat_pure.mpr rfl) safe_fail) ?_
  refine sat_ite (fun h => ?_) fun _ => ?_
  · simp only [Bool.and_eq_true, beq_iff_eq] at h
    refine sat_bindWord (by omega) fun group => sat_bind ?_
    refine (memberName_sat name).imp fun _ r' hr' => ?_
    subst hr'
    refine (checkGroup_sat group).seq fun _ r' hr' => ?_
    subst hr'
    exact onNeighbor_act _ name line
  refine sat_ite (fun h => onNeighbor_sat (neighborAttribute_runs T rest) (.inl ?_))
    fun _ => newNeighbor_sat line name hrest
  simpa [findNeighbor] using h

/-! ### The router node -/

theorem set_same {l : List α} {x : α} (h : l[i]? = some x) : l.set i x = l := by
  obtain ⟨hlt, rfl⟩ := List.getElem?_eq_some_iff.mp h
  exact set_getElem_self hlt

/-- A change of the open router that leaves its address-families. -/
theorem onRouter_sat {m : Prog Router FrrError Unit} (hr : p.cfg.routers[p.router]? = some r)
    (hm : Safe m r fun _ => SameAFs r) :
    Safe (onRouter m) p (Changes p) := by
  have hkeeps : ∀ r', SameAFs r r' →
      Keeps p { p with cfg := { p.cfg with routers := p.cfg.routers.set p.router r' } } := by
    intro r' hsame
    refine keeps_router hr fun a ha => ⟨a, ?_, .refl a⟩
    rw [hsame]
    exact ha
  refine sat_focus hr (hm.mono (fun _ r' h => ⟨hkeeps r' h, rfl⟩) ?_)
  rintro e r' hr'
  rw [hr', set_same hr]

theorem routerFlag_same {r' : Router} (h : routerFlag r f = some r') : SameAFs r r' := by
  unfold routerFlag at h
  dsimp only at h
  generalize (if (f.head? == some "no") = true then drop 1 f else f) = words at h
  repeat' split at h
  all_goals first | (cases h; rfl) | cases h

theorem sat_sameAFs {g : Router → Router} (h : SameAFs r (g r)) :
    Safe (act fun r => ((), g r) : Prog Router FrrError Unit) r fun _ => SameAFs r :=
  sat_act.mpr h

/-- The address-family of the router that is found or added. -/
theorem openAF_sat (hstack : p.stack = path .bgp) (hr : p.cfg.routers[p.router]? = some r)
    (id : Afi × Safi) : Safe (openAF id) p Lands := by
  have hpath : p.stack ++ [Node.af] = path .af := by rw [hstack]; rfl
  refine sat_bind (sat_fetch hr (sat_getLine ?_))
  split
  next i hi =>
    refine sat_bindAct ?_
    have hlt := (findIdx?_eq_some_iff_getElem.mp hi).1
    exact sat_push hpath ⟨r, hr, _, getElem?_eq_getElem hlt⟩
  · refine sat_bind (sat_focus hr (sat_act.mpr ?_))
    refine sat_bindAct ?_
    have hlt : p.router < p.cfg.routers.length := (List.getElem?_eq_some_iff.mp hr).1
    exact sat_push hpath ⟨_, getElem?_set_self hlt, _, getElem?_concat_length⟩

/-- A statement of `router bgp`. -/
theorem bgpStatement_sat (hstack : p.stack = path .bgp) (hopen : Open p .bgp) :
    Safe (bgpStatement T f) p Lands := by
  obtain ⟨r, hr⟩ := hopen
  have hchanges : ∀ {m : Prog Router FrrError Unit},
      Safe m r (fun _ => SameAFs r) → Safe (onRouter m) p Lands :=
    fun h => changes_inv hstack ⟨r, hr⟩ (onRouter_sat hr h)
  refine sat_bind (sat_fetch hr ?_)
  refine sat_ite (fun h => sat_bindChecked h (by decide) fun w => ?_) fun _ => ?_
  · split
    · exact sat_either (hchanges (sat_sameAFs rfl)) safe_fail
    · exact safe_fail
  refine sat_ite (fun h => hchanges (sat_sameAFs ?_)) fun _ => ?_
  · obtain ⟨r', hr'⟩ := isSome_iff_exists.mp h
    rw [hr']
    exact routerFlag_same hr'
  refine sat_either (hchanges (sat_sameAFs rfl)) ?_
  refine sat_ite (fun h => ?_) fun _ => ?_
  · have hlen : 4 ≤ f.length := by
      rw [has, Bool.and_eq_true, decide_eq_true_eq] at h
      exact h.1
    exact sat_bind (sat_wordsFrom (by omega) safe_fail)
  refine sat_either (changes_inv hstack ⟨r, hr⟩ sat_unchanged) ?_
  refine sat_ite (fun h => ?_) fun _ => ?_
  · have hlen : 3 ≤ f.length := by
      rw [Bool.and_eq_true, decide_eq_true_eq] at h
      exact h.2
    refine sat_bindWord (by omega) fun name => sat_bind (sat_wordsFrom (by omega) ?_)
    refine sat_getLine (hchanges (neighborStatement_sat p.line name ?_))
    rw [length_drop]
    omega
  refine sat_ite (fun h => ?_) fun _ => ?_
  · unfold addressFamily
    split
    · exact openAF_sat hstack hr _
    · refine sat_bind (sat_wordsFrom ?_ safe_fail)
      rw [has, Bool.and_eq_true, decide_eq_true_eq] at h
      exact h.1
  exact sat_either (sat_pop hstack ⟨r, hr⟩) safe_fail

/-! ### The address-family node -/

variable {a : AddressFamily}

/-- A change of the open address-family. -/
theorem onAF_sat {m : Router → Prog AddressFamily FrrError α}
    (hr : p.cfg.routers[p.router]? = some r) (ha : r.addressFamilies[p.af]? = some a)
    {Q : α → AddressFamily → Prop} (hm : Safe (m r) a fun x a' => AFKept a a' ∧ Q x a') :
    Safe (onAF m) p fun x p' => (Keeps p p' ∧ p'.stack = p.stack) ∧
      ∃ r' a', p'.cfg.routers[p'.router]? = some r' ∧ r'.addressFamilies[p'.af]? = some a' ∧
        Q x a' := by
  have hrlt : p.router < p.cfg.routers.length := (List.getElem?_eq_some_iff.mp hr).1
  have halt : p.af < r.addressFamilies.length := (List.getElem?_eq_some_iff.mp ha).1
  have hkeeps : ∀ a', AFKept a a' → Keeps p { p with cfg := { p.cfg with
      routers := p.cfg.routers.set p.router
        { r with addressFamilies := r.addressFamilies.set p.af a' } } } := by
    intro a' hkept
    refine keeps_router hr fun a1 ha1 => ⟨a', getElem?_set_self halt, ?_⟩
    rw [ha] at ha1
    cases ha1
    exact hkept
  refine sat_of_run (m := onRouter (onAddressFamily p.af m)) rfl ?_
  refine sat_focus hr ?_
  refine sat_of_run (m := focus _ _ (m r)) rfl ?_
  refine sat_focus ha (hm.mono (fun x a' h => ⟨⟨hkeeps a' h.1, rfl⟩, ?_⟩) fun e a' h => ?_)
  · exact ⟨_, a', getElem?_set_self hrlt, getElem?_set_self halt, h.2⟩
  · rw [h, set_same ha, set_same hr]

/-- What a statement does to the stack fits the objects. -/
theorem follow_sat {b : Block} (hstack : p.stack = path n)
    (hopen : Open p n) (hvni : b = .openVNI → n = .af ∧ Open p .l2vni) :
    Sat (follow b) p Lands E False := by
  cases b with
  | stay =>
    exact sat_pure.mpr ⟨n, hstack, hopen⟩
  | openVNI =>
    obtain ⟨rfl, hl2⟩ := hvni rfl
    exact sat_push (by rw [hstack]; rfl) hl2
  | leave => exact sat_pop hstack hopen

/-- What a change of the address-family promises: it stays, and a VNI block has its VNI. -/
def AFChanged (a : AddressFamily) : Block → AddressFamily → Prop := fun b a' =>
  AFKept a a' ∧ (b = .openVNI → a'.safi = .evpn ∧ a'.l2vnis ≠ [])

theorem sat_afStay {g : AddressFamily → AddressFamily} (h : AFKept a (g a)) :
    Safe (act fun a => (Block.stay, g a) : Prog AddressFamily FrrError Block) a (AFChanged a) :=
  sat_act.mpr ⟨h, nofun⟩

theorem afNeighborSet_noFault (T : Texts) (rest : List String) :
    (afNeighborSet T rest).NoFault := by
  unfold afNeighborSet
  split
  · exact nofun
  split
  · exact nofun
  split
  · exact nofun
  split
  next h =>
    split
    next hnone => grind
    · split <;> exact nofun
  split
  next h =>
    split
    next hnone => grind
    · exact nofun
  split
  next h =>
    split
    next hnone => grind
    · exact nofun
  · exact nofun

/-- The content of an address family. -/
theorem afContent_sat (line : Nat) (a : AddressFamily) :
    Safe (afContent T f line r) a (AFChanged a) := by
  have hword : ∀ {b c : Bool} {k i : Nat}, ((b && f.length == k) && c) = true → i < k →
      i < f.length := by
    intro b c k i h hi
    rw [Bool.and_eq_true] at h
    exact length_of_and h.1 ▸ hi
  refine sat_bindAct ?_
  refine sat_ite (fun h => sat_bindWord (hword h (by decide)) fun w => ?_) fun _ => ?_
  · split
    · exact safe_fail
    · exact safe_unless fun _ => sat_afStay ⟨rfl, id⟩
  refine sat_either (sat_afStay ⟨rfl, id⟩) ?_
  refine sat_ite (fun h => ?_) fun _ => ?_
  · rw [Bool.and_eq_true, decide_eq_true_eq] at h
    refine sat_bindWord (by omega) fun name => sat_bind (sat_wordsFrom (by omega) ?_)
    refine sat_bind (safe_lift (afNeighborSet_noFault T _) fun set => ?_)
    exact safe_unless fun _ => sat_afStay ⟨rfl, id⟩
  refine sat_either (sat_afStay ⟨rfl, id⟩) ?_
  refine sat_either (sat_afStay ⟨rfl, id⟩) ?_
  refine sat_either (sat_afStay ⟨rfl, id⟩) ?_
  refine sat_ite (fun h => sat_bindWord (hword h (by decide)) fun w => ?_) fun _ => ?_
  · -- The new VNI is the last one of an EVPN address-family.
    have hevpn : a.safi = .evpn := by
      rw [Bool.and_eq_true, beq_iff_eq] at h
      exact h.2
    refine sat_bindUint32 fun v => ?_
    exact sat_act.mpr ⟨⟨rfl, fun _ => by simp⟩, fun _ => ⟨hevpn, by simp⟩⟩
  refine sat_either (sat_afStay ⟨rfl, id⟩) ?_
  refine sat_either (sat_afStay ⟨rfl, id⟩) ?_
  refine sat_ite (fun h => sat_bindWord (hword h (by decide)) fun dir =>
    sat_bindWord (hword h (by decide)) fun rt => ?_) fun _ => ?_
  · exact sat_bind (safe_lift (addRouteTarget_noFault T _ dir rt) fun _ => sat_afStay ⟨rfl, id⟩)
  refine sat_ite (fun h => sat_bindWord (hword h (by decide)) fun w => ?_) fun _ => ?_
  · exact sat_bind (safe_lift (noFault_mapErr (validateExtCommunity_noFault T w)) fun _ =>
      sat_afStay ⟨rfl, id⟩)
  exact sat_either (sat_pure.mpr ⟨.refl a, nofun⟩) safe_fail

/-- A statement of an address family. -/
theorem afStatement_sat (hstack : p.stack = path .af) (hopen : Open p .af) :
    Safe (afStatement T f) p Lands := by
  obtain ⟨r, hr, a, ha⟩ := hopen
  refine sat_getLine (sat_bind ?_)
  refine (onAF_sat hr ha (afContent_sat p.line a)).imp fun b p' h => ?_
  obtain ⟨⟨hkeeps, hs⟩, r', a', hr', ha', hvni⟩ := h
  exact follow_sat (hs.trans hstack) (hkeeps .af ⟨r, hr, a, ha⟩)
    fun hb => ⟨rfl, r', hr', a', ha', hvni hb⟩

/-- A statement that only stays or leaves. -/
def StaysOrLeaves (m : Prog σ FrrError Block) : Prop :=
  ∀ s, Safe m s fun b _ => b ≠ .openVNI

theorem sat_stay {g : σ → σ} :
    Safe (act fun s => (Block.stay, g s) : Prog σ FrrError Block) s fun b _ => b ≠ .openVNI :=
  sat_act.mpr nofun

theorem sat_leave : Safe (pure .leave : Prog σ FrrError Block) s fun b _ => b ≠ .openVNI :=
  sat_pure.mpr nofun

/-- The content of a VNI. -/
theorem l2vniContent_stays (T : Texts) (f : List String) : StaysOrLeaves (l2vniContent T f) := by
  intro v
  refine sat_bindAct ?_
  refine sat_ite (fun h => sat_bindChecked h (by decide) fun w => ?_) fun _ => ?_
  · exact sat_bind (safe_lift (noFault_mapErr (validateExtCommunity_noFault T w)) fun _ => sat_stay)
  refine sat_ite (fun h => sat_bindChecked h (by decide) fun dir =>
    sat_bindChecked h (by decide) fun rt => ?_) fun _ => ?_
  · exact sat_bind (safe_lift (addRouteTarget_noFault T _ dir rt) fun _ => sat_stay)
  refine sat_either sat_stay ?_
  exact sat_either sat_leave safe_fail

/-- A statement of a VNI. -/
theorem l2vniStatement_sat (hstack : p.stack = path .l2vni) (hopen : Open p .l2vni) :
    Safe (l2vniStatement T f) p Lands := by
  obtain ⟨r, hr, a, ha, hevpn, hvni⟩ := hopen
  have hlast := Nat.sub_one_lt (mt length_eq_zero_iff.mp hvni)
  have hkept : ∀ v, AFKept a { a with l2vnis := a.l2vnis.set (a.l2vnis.length - 1) v } := by
    refine fun v => ⟨rfl, fun _ => ?_⟩
    rw [← length_pos_iff, length_set]
    exact length_pos_iff.mpr hvni
  refine sat_bind ?_
  have hcontent : Safe (onLastVNI (l2vniContent T f)) a fun b a' => AFKept a a' ∧ b ≠ .openVNI := by
    refine sat_focus (getElem?_eq_getElem hlast) ((l2vniContent_stays T f _).mono
      (fun b v hb => ⟨hkept v, hb⟩) fun _ v hv => ?_)
    rw [hv, set_same (getElem?_eq_getElem hlast)]
  refine (onAF_sat hr ha hcontent).imp fun b p' h => ?_
  obtain ⟨⟨hkeeps, hs⟩, -, -, -, -, hb⟩ := h
  exact follow_sat (hs.trans hstack) (hkeeps .l2vni ⟨r, hr, a, ha, hevpn, hvni⟩)
    fun hc => absurd hc hb

/-! ### The other nodes -/

/-- The content of an entry. -/
theorem entryContent_stays (T : Texts) (f : List String) : StaysOrLeaves (entryContent T f) := by
  intro e
  refine sat_ite (fun h => sat_bindChecked h (by decide) fun w => ?_) fun _ => ?_
  · exact sat_bindUint32 fun _ => sat_stay
  refine sat_ite (fun h => ?_) fun _ => ?_
  · have hlen : 3 ≤ f.length := by
      rw [Bool.and_eq_true, decide_eq_true_eq] at h
      exact h.2
    have hcomms : 1 ≤ (f.drop 2).length := by
      rw [length_drop]
      omega
    refine sat_bind (sat_wordsFrom (by omega) (sat_bindWord (by omega) fun last => ?_))
    refine safe_unless fun _ => ?_
    exact sat_bind (safe_lift (validateCommunities_noFault T _) fun _ => sat_stay)
  refine sat_ite (fun h => sat_bindChecked h (by decide) fun w => sat_stay) fun _ => ?_
  exact sat_either sat_leave safe_fail

/-- A statement of a route-map. -/
theorem routeMapStatement_sat (hstack : p.stack = path .routeMap) (hopen : Open p .routeMap) :
    Safe (routeMapStatement T f) p Lands := by
  obtain ⟨rm, hrm, e, he⟩ := hopen
  have hentry : (openEntry p).map Prod.snd = some e := by
    unfold openEntry
    rw [hrm, bind_some, he]
    rfl
  have helt : p.rmEntry < rm.entries.length := (List.getElem?_eq_some_iff.mp he).1
  have hkeeps : ∀ e', Keeps p { p with cfg := { p.cfg with
      routeMaps := p.cfg.routeMaps.modify p.rmIndex fun rm =>
        { rm with entries := rm.entries.set p.rmEntry e' } } } := by
    intro e'
    refine Grown.keeps ⟨fun r hr => ⟨r, hr, fun a ha => ⟨a, ha, .refl a⟩⟩, fun rm1 e1 hrm1 _ => ?_,
      fun b hb => ⟨b, hb⟩⟩
    rw [hrm] at hrm1
    cases hrm1
    refine ⟨{ rm with entries := rm.entries.set p.rmEntry e' }, ?_, e', getElem?_set_self helt⟩
    rw [getElem?_modify_eq, hrm]
    rfl
  refine sat_bind (sat_focus hentry ((entryContent_stays T f e).mono (fun b e' hb => ?_)
    fun _ e' he' => ?_))
  · exact follow_sat hstack (hkeeps e' .routeMap ⟨rm, hrm, e, he⟩) fun hc => absurd hc hb
  · rw [modify_eq_set_getElem?, hrm]
    show ({ p with cfg.routeMaps := p.cfg.routeMaps.set p.rmIndex _ } : Parser) = p
    rw [he', set_same he, set_same hrm]

/-- A statement of `bfd`. -/
theorem bfdStatement_sat (hstack : p.stack = path .bfd) : Safe (bfdStatement f) p Lands := by
  have hpath : p.stack ++ [Node.bfdProfile] = path .bfdProfile := by rw [hstack]; rfl
  refine sat_ite (fun h => sat_bindChecked h (by decide) fun w => ?_) fun _ => ?_
  · refine sat_bindAct ?_
    split
    next i hi =>
      have hlt := (findIdx?_eq_some_iff_getElem.mp hi).1
      exact sat_push hpath ⟨_, getElem?_eq_getElem hlt⟩
    · exact sat_push hpath ⟨_, getElem?_concat_length⟩
  exact sat_either (sat_pop hstack trivial) safe_fail

/-- The content of a profile. -/
theorem profileContent_stays (T : Texts) (f : List String) :
    StaysOrLeaves (profileContent T f) := by
  intro b
  refine sat_either sat_leave ?_
  refine safe_unless fun hlen => ?_
  have hlen : f.length = 2 := by simpa using hlen
  refine sat_bindWord (by omega) fun key => sat_bindWord (by omega) fun w => ?_
  refine sat_ite (fun _ => ?_) fun _ => sat_either ?_ safe_fail
  · refine sat_bindUint32 fun _ => ?_
    refine safe_unless fun _ => ?_
    exact sat_either sat_stay sat_stay
  · refine sat_bindUint32 fun _ => ?_
    exact safe_unless fun _ => sat_stay

/-- A statement of a BFD profile. -/
theorem bfdProfileStatement_sat (hstack : p.stack = path .bfdProfile) (hopen : Open p .bfdProfile) :
    Safe (bfdProfileStatement T f) p Lands := by
  obtain ⟨b, hb⟩ := hopen
  have hlt : p.profile < p.cfg.bfdProfiles.length := (List.getElem?_eq_some_iff.mp hb).1
  have hkeeps : ∀ b', Keeps p { p with cfg := { p.cfg with
      bfdProfiles := p.cfg.bfdProfiles.set p.profile b' } } := fun b' =>
    Grown.keeps ⟨fun r hr => ⟨r, hr, fun a ha => ⟨a, ha, .refl a⟩⟩,
      fun rm e hrm he => ⟨rm, hrm, e, he⟩, fun _ _ => ⟨b', getElem?_set_self hlt⟩⟩
  refine sat_bind (sat_focus hb ((profileContent_stays T f b).mono (fun block b' hstay => ?_)
    fun _ b' hb' => ?_))
  · exact follow_sat hstack (hkeeps b' .bfdProfile ⟨b, hb⟩) fun hc => absurd hc hstay
  · rw [hb', set_same hb]

/-- **A statement in a node**: no index is out of range; an accepted statement leaves a valid stack,
    a rejected one the whole parser. -/
theorem apply_sat (hstack : p.stack = path n) (hopen : Open p n) : Safe (apply T n f) p Lands := by
  cases n with
  | config => exact configStatement_sat hstack
  | bgp => exact bgpStatement_sat hstack hopen
  | af => exact afStatement_sat hstack hopen
  | routeMap => exact routeMapStatement_sat hstack hopen
  | bfd => exact bfdStatement_sat hstack
  | bfdProfile => exact bfdProfileStatement_sat hstack hopen
  | vrf => exact vrfStatement_sat hstack
  | l2vni => exact l2vniStatement_sat hstack hopen
  | lineVTY => exact sat_either (sat_pop hstack trivial) safe_fail

/-! ### Statements -/

/-- The objects do not depend on the stack and on what the parser notes about a line. -/
theorem keeps_notes (stack : List Node) (line : Nat) (text : String) (unsure : Nat)
    (warnings : List ParseError) :
    Keeps p { p with
      stack := stack, line := line, text := text, unsure := unsure, warnings := warnings } := by
  intro n hn
  cases n <;> exact hn

/-- The name of an open node. -/
theorem nodeName_sat (hopen : Open p n) : Sat (nodeName n) p (fun _ p' => p' = p) E False := by
  have haf : ∀ {r a}, p.cfg.routers[p.router]? = some r → r.addressFamilies[p.af]? = some a →
      p.cfg.routers[p.router]?.bind (fun r => r.addressFamilies[p.af]?) = some a := by
    intro r a hr ha
    rw [hr]
    exact ha
  cases n with
  | bgp =>
    obtain ⟨r, hr⟩ := hopen
    exact sat_bind (sat_fetch hr (sat_pure.mpr rfl))
  | af =>
    obtain ⟨r, hr, a, ha⟩ := hopen
    exact sat_bind (sat_fetch (haf hr ha) (sat_pure.mpr rfl))
  | l2vni =>
    obtain ⟨r, hr, a, ha, -, hvni⟩ := hopen
    have hlast := Nat.sub_one_lt (mt length_eq_zero_iff.mp hvni)
    refine sat_bind (sat_fetch (haf hr ha) ?_)
    exact sat_bind (sat_fetch (getElem?_eq_getElem hlast) (sat_pure.mpr rfl))
  | routeMap =>
    obtain ⟨rm, hrm, e, he⟩ := hopen
    have hentry : openEntry p = some (rm, e) := by
      unfold openEntry
      rw [hrm, bind_some, he]
      rfl
    exact sat_bind (sat_fetch hentry (sat_pure.mpr rfl))
  | bfdProfile =>
    obtain ⟨b, hb⟩ := hopen
    exact sat_bind (sat_fetch hb (sat_pure.mpr rfl))
  | vrf => exact sat_act.mpr rfl
  | config | bfd | lineVTY => exact sat_pure.mpr rfl

theorem nodeNames_sat {ns : List Node} (h : ∀ m ∈ ns, Open p m) :
    Sat (nodeNames ns) p (fun _ p' => p' = p) E False := by
  induction ns with
  | nil => exact sat_pure.mpr rfl
  | cons m ns ih =>
    refine (nodeName_sat (h m mem_cons_self)).seq ?_
    rintro name _ rfl
    refine (ih fun m' hm' => h m' (mem_cons_of_mem m hm')).seq ?_
    rintro names _ rfl
    exact sat_pure.mpr rfl

/-- The error of a statement: naming the nodes of a path finds every object. -/
theorem failIn_sat {err : String → FrrError} {Q : Unit → Parser → Prop} (hopen : Open p n) :
    Safe (failIn (path n) err) p Q := by
  have hcontext : Safe (context (path n)) p fun _ p' => p' = p := by
    refine sat_ite (fun _ => sat_pure.mpr rfl) fun _ => sat_bind ?_
    refine (nodeNames_sat fun m hm => open_of_mem_path hopen (mem_of_mem_drop hm)).imp ?_
    rintro names _ rfl
    exact sat_pure.mpr rfl
  refine hcontext.seq ?_
  rintro ctx _ rfl
  exact sat_fail.mpr rfl

/-- A statement that is not accepted ends there too, and leaves the configuration. -/
def Fails (p : Parser) : FrrError → Parser → Prop := fun _ p' => Inv p' ∧ p'.cfg = p.cfg

/-- An error that leaves the parser in the node `m`. -/
theorem landsIn_sat {stack : List Node} {unsure : Nat} {err : String → FrrError}
    {g : Parser → Parser} (hg : g p = { p with stack := stack, unsure := unsure })
    (hstack : stack = path m) (hopen : Open p m) :
    Sat (do act fun p => ((), g p); failIn stack err) p Lands (Fails p) False := by
  subst hstack
  refine sat_bindAct ?_
  rw [hg]
  have hkept : Open { p with stack := path m, unsure := unsure } m :=
    keeps_notes (path m) p.line p.text unsure p.warnings m hopen
  refine (failIn_sat (Q := fun _ _ => False) hkept).mono (fun _ _ h => h.elim) ?_
  rintro e _ rfl
  exact ⟨⟨m, rfl, hkept⟩, rfl⟩

/-- Whether an open node is in the EVPN family. -/
theorem inEVPN_sat (hopen : Open p n) : Sat (inEVPN n) p (fun _ p' => p' = p) E False := by
  refine sat_ite (fun haf => ?_) fun _ => sat_pure.mpr rfl
  subst haf
  obtain ⟨r, hr, a, ha⟩ := hopen
  refine sat_bind (sat_fetch (a := a) ?_ (sat_pure.mpr rfl))
  rw [hr]
  exact ha

theorem unNo_length (hf : f ≠ []) : 0 < (unNo f).length := by
  have hpos : 0 < f.length := length_pos_iff.mpr hf
  unfold unNo
  split
  next h => grind
  · exact hpos

/-- **A statement that no node accepts**: every node of the path is looked at, and the parser ends
    in one of them. -/
theorem moveToKnown_sat (hf : f ≠ []) (hopen : Open p n) {depth : Nat}
    (hdepth : depth ≤ (path n).length) :
    Sat (moveToKnown (path n) f depth) p Lands (Fails p) False := by
  induction depth with
  | zero => exact landsIn_sat rfl rfl hopen
  | succ depth ih =>
    have hlt : depth < (path n).length := by omega
    have hm : (path n)[depth]? = some (path n)[depth] := getElem?_eq_getElem hlt
    have hopenm := open_of_path hopen hm
    refine sat_bind (sat_fetch hm ((inEVPN_sat hopenm).seq ?_))
    rintro evpn _ rfl
    refine sat_bind (sat_bindWord (unNo_length hf) fun first => sat_pure.mpr ?_)
    refine sat_ite (fun _ => ?_) fun _ => ih (by omega)
    exact landsIn_sat rfl (path_take hm) hopenm

/-- **The nodes from the deepest up**: a rejected statement leaves the objects of the path for the
    node above. -/
theorem tryNodes_sat (hf : f ≠ []) (hopen : Open p n) {depth : Nat}
    (hdepth : depth ≤ (path n).length) :
    Sat (tryNodes T (path n) f depth) p Lands (Fails p) False := by
  -- Induction on the nodes left; what an error leaves behind still has every object of the path.
  induction depth generalizing p with
  | zero => exact moveToKnown_sat hf hopen le_rfl
  | succ depth ih =>
    have hlt : depth < (path n).length := by omega
    have hm : (path n)[depth]? = some (path n)[depth] := getElem?_eq_getElem hlt
    have hkept : Keeps p { p with stack := (path n).take (depth + 1) } :=
      keeps_notes _ p.line p.text p.unsure p.warnings
    refine sat_bind (sat_fetch hm (sat_bindAct (sat_handle ?_)))
    refine (apply_sat (path_take hm) (hkept _ (open_of_path hopen hm))).mono ?_ ?_
    · rintro _ p' ⟨m, hstack, hopenm⟩
      refine sat_act.mpr ?_
      split
      · exact ⟨m, hstack, hopenm⟩
      split <;> tauto
    · rintro e _ rfl
      have hopen' := hkept n hopen
      exact sat_ite (fun _ => ih hopen' (by omega)) fun _ => landsIn_sat rfl rfl hopen'

/-- **One statement.** -/
theorem statement_sat (hf : f ≠ []) (h : Inv p) : Sat (statement T f) p Lands (Fails p) False := by
  obtain ⟨n, hstack, hopen⟩ := h
  refine sat_of_run (m := tryNodes T (path n) f (path n).length) ?_ (tryNodes_sat hf hopen le_rfl)
  unfold statement
  rw [hstack]

/-! ### The text -/

theorem ne_nil_of_not_isComment (h : ¬isComment f = true) : f ≠ [] := by
  rintro rfl
  exact h rfl

/-- A warning keeps the invariant. -/
theorem Inv.noted (h : Inv p) (line : Nat) (text : String) (warnings : List ParseError) :
    Inv { p with line := line, text := text, warnings := warnings } := by
  obtain ⟨n, hstack, hopen⟩ := h
  exact ⟨n, hstack, keeps_notes p.stack line text p.unsure warnings n hopen⟩

/-- **One line**, accepted, rejected or skipped. -/
theorem parseLine_sat (o : Options) (i : Nat) (raw : List Char) (h : Inv p) :
    Sat (parseLine T o i raw) p Lands (fun _ p' => Inv p') False := by
  refine sat_bindAct ?_
  have hinv := h.noted (i + 1) (trimFields raw) p.warnings
  refine sat_ite (fun _ => sat_pure.mpr hinv) fun hcomment => sat_handle ?_
  have hf := ne_nil_of_not_isComment hcomment
  refine (statement_sat hf hinv).mono (fun _ p' hp' => sat_pure.mpr hp') fun e p' hp' => ?_
  refine sat_bindWord (unNo_length hf) fun first => ?_
  exact sat_ite (fun _ => sat_fail.mpr hp'.1) fun _ => sat_act.mpr (hp'.1.noted _ _ _)

/-- **Every line of a text.** -/
theorem parseLines_sat (o : Options) (lines : List (List Char)) (i : Nat) (h : Inv p) :
    Sat (parseLines T o i lines) p Lands (fun _ p' => Inv p') False := by
  induction lines generalizing p i with
  | nil => exact sat_pure.mpr h
  | cons raw rest ih =>
    exact (parseLine_sat o i raw h).seq fun _ p' hp' => ih (i + 1) hp'

end Spec

/-- The invariant holds at first. -/
theorem inv_start : Inv {} := ⟨.config, rfl, trivial⟩

/-- **The parser never indexes out of range.**  For every text, strict or lenient, it returns a
    configuration or an error; and after every number of lines, the last of them accepted, rejected
    or skipped, every node of the stack has its object and the right node below it. -/
theorem parse_never_out_of_range (T : Texts) (o : Options) (data : List UInt8) :
    (parseWith T o data).NoFault ∧
      ∀ k, StackOk (parseLines T o 0 ((linesOf data).take k) {}).2 := by
  constructor
  · intro q hq
    have hrun := parseLines_sat (T := T) o (linesOf data) 0 inv_start
    unfold parseWith at hq
    split at hq
    · cases hq
    · cases hq
    next q' p' heq => exact hrun.noFault q' (congrArg Prod.fst heq)
  · intro k
    have hrun := parseLines_sat (T := T) o ((linesOf data).take k) 0 inv_start
    exact Inv.stackOk hrun.state

/-- The line `i` holds a statement that is not accepted, and the parser goes on. -/
structure Skipped (T : Texts) (i : Nat) (raw : List Char) (p p' : Parser) : Prop where
  statement : isComment (fields raw) = false
  rejected : ∃ e, (Frrconf.statement T (fields raw)
    { p with line := i + 1, text := trimFields raw }).1 = .err e
  skipped : parseLine T ⟨true⟩ i raw p = (.ok (), p')

/-- **A skipped statement changes nothing.**  After every text that the lenient mode has read so far,
    a next statement that it skips leaves the configuration, whatever nodes it was tried in. -/
theorem skipped_statement_keeps_config (T : Texts) (lines : List (List Char)) (raw : List Char)
    (p p' : Parser) (hread : parseLines T ⟨true⟩ 0 lines {} = (.ok (), p))
    (hskip : Skipped T lines.length raw p p') : p'.cfg = p.cfg := by
  obtain ⟨e, he⟩ := hskip.rejected
  have hcomment : ¬ isComment (fields raw) = true := by
    rw [hskip.statement]
    exact Bool.false_ne_true
  have hf := ne_nil_of_not_isComment hcomment
  have hinv : Inv p := by
    have hrun := (parseLines_sat (T := T) ⟨true⟩ lines 0 inv_start).of_ok (congrArg Prod.fst hread)
    rw [hread] at hrun
    exact hrun
  have hkept := (statement_sat hf (hinv.noted (lines.length + 1) (trimFields raw)
    p.warnings)).of_err he
  have hline : Sat (parseLine T ⟨true⟩ lines.length raw) p (fun _ p' => p'.cfg = p.cfg)
      (fun _ _ => True) False := by
    refine sat_bindAct (sat_ite (fun h => absurd h hcomment) fun _ => ?_)
    refine sat_handle (sat_of_err he (sat_bindWord (unNo_length hf) fun first => ?_))
    exact sat_ite (fun _ => sat_fail.mpr trivial) fun _ => sat_act.mpr hkept.2
  have hok := hline.of_ok (congrArg Prod.fst hskip.skipped)
  rw [hskip.skipped] at hok
  exact hok

/-- Texts for statements without addresses. -/
def noAddresses : Texts where
  parseAddr _ := .error "invalid address"
  parsePrefix _ := .error "invalid prefix"
  prefixString _ := ""
  quote s := s

/-- Echo mode is not implemented: the statement is tried in the profile, in `bfd` and at the top
    level, and skipped. -/
theorem skipped_echoMode_keeps_config :
    ∃ p p', parseLines noAddresses ⟨true⟩ 0 ["bfd".toList, " profile a".toList] {} = (.ok (), p) ∧
      Skipped noAddresses 2 "  echo-mode".toList p p' ∧ p'.cfg = p.cfg := by
  have hok : ∀ {x : Outcome FrrError Unit × Parser}, x.1 = .ok () → x = (.ok (), x.2) :=
    fun h => Prod.ext h rfl
  have hread := hok (x := parseLines noAddresses ⟨true⟩ 0 ["bfd".toList, " profile a".toList] {})
    (by decide +kernel)
  have hskip : Skipped noAddresses 2 "  echo-mode".toList _ _ :=
    ⟨by decide +kernel, ⟨.wrap "statement %w (in bfd > profile a)" (.sentinel .unsupported),
      by decide +kernel⟩, hok (x := parseLine noAddresses ⟨true⟩ 2 "  echo-mode".toList
        (parseLines noAddresses ⟨true⟩ 0 ["bfd".toList, " profile a".toList] {}).2)
          (by decide +kernel)⟩
  exact ⟨_, _, hread, hskip, skipped_statement_keeps_config _ _ _ _ _ hread hskip⟩

end Booty.Frrconf
