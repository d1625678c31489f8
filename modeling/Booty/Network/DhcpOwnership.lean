import Booty.Network.DhcpMode

namespace Booty.Network

open Booty.Lib List GoMap DhcpApplied DhcpMode Ledger.Covered

/-!
# Nothing that a lease configured gets lost

Every address, route and rule that DHCP mode put into the kernel and that is still there is
recorded in `nics` or `stale`, so that `Teardown` finds it.  While a lease is applied the objects of
the previous and of the new lease are in flight: `InFlight d link X` says that outside the entry of
the NIC everything is recorded, except what is in `X`.

* `apply_owned`, `endLease_owned` — what one event keeps.
* `applied_is_recorded` — the same over whole runs in which re-adding a source route of the
  previous lease does not fail, with what `Teardown` then leaves.
* `lostSourceRoute` — a renewal that re-adds a source route and fails loses the route.
-/

namespace DhcpMode

variable {env : Env} {d : DhcpMode} {link : Nat} {X : Set Obj} {o : Obj}

/-! ### Objects in flight -/

/-- The objects recorded in `stale`. -/
def staleObjects (d : DhcpMode) : Set Obj := { o | ∃ a ∈ d.stale, o ∈ a.objects }

/-- The objects recorded for the other NICs. -/
def otherObjects (d : DhcpMode) (link : Nat) : Set Obj :=
  { o | ∃ i a, i ≠ link ∧ d.nics.get i = some a ∧ o ∈ a.objects }

/-- Every object of DHCP mode in the kernel is in `X`, stale, or of another NIC. -/
def InFlight (d : DhcpMode) (link : Nat) (X : Set Obj) : Prop :=
  Ledger.Covered d.kernel (X ∪ (d.staleObjects ∪ d.otherObjects link))

/-- A list of routes as objects. -/
def routeSet (routes : List Route) : Set Obj := { o | ∃ r ∈ routes, o = .route r }

theorem routeSet_nil : routeSet [] = ∅ := by simp [routeSet]

theorem routeSet_cons (r : Route) (l : List Route) :
    routeSet (r :: l) = insert (.route r) (routeSet l) := by
  ext o
  simp [routeSet]

theorem routeSet_concat (r : Route) (l : List Route) :
    routeSet (l ++ [r]) = insert (.route r) (routeSet l) := by
  ext o
  simp [routeSet, or_comm]

theorem InFlight.mono {Y : Set Obj} (h : InFlight d link X) (hXY : X ⊆ Y) : InFlight d link Y :=
  Ledger.Covered.mono h (Set.union_subset_union_left _ hXY)

/-- What adding an object can do. -/
theorem add_cases (env : Env) (d : DhcpMode) (o : Obj) :
    ∃ failed d', d.add env o = (failed, d') ∧ d'.nics = d.nics ∧
      (failed = true → env.fails d.calls (.add o) = true) ∧
      ∀ link X, InFlight d link X → InFlight d' link (if failed then X else insert o X) := by
  unfold add
  split
  next hf => aesop
  next =>
    refine ⟨false, _, rfl, rfl, fun h => absurd h Bool.false_ne_true, fun link X h x hx => ?_⟩
    rcases put h x hx with rfl | hx
    · exact .inl (Set.mem_insert _ _)
    · exact hx.imp_left (Set.mem_insert_of_mem _)

@[simp] theorem dropOr_nics {entry : DhcpApplied} : (d.dropOr env entry o).nics = d.nics := by
  unfold dropOr del
  dsimp only
  split <;> split <;> rfl

/-- Removing an object takes it out of flight: it is gone or recorded as stale. -/
theorem InFlight.dropOr {entry : DhcpApplied} (h : InFlight d link X) (ho : o ∈ entry.objects) :
    InFlight (d.dropOr env entry o) link (X \ {o}) := by
  unfold DhcpMode.dropOr DhcpMode.del
  by_cases hf : env.fails d.calls (.del o) = true
  · rw [if_pos hf]
    intro x hx
    by_cases hxo : x = o
    · exact .inr (.inl ⟨entry, mem_append_right _ mem_cons_self, hxo ▸ ho⟩)
    · rcases h x hx with hx | ⟨a, ha, hx⟩ | hx
      · exact .inl ⟨hx, hxo⟩
      · exact .inr (.inl ⟨a, mem_append_left _ ha, hx⟩)
      · exact .inr (.inr hx)
  · rw [if_neg hf]
    intro x hx
    obtain ⟨hx, hxo⟩ := drop h x hx
    rcases hx with hx | hx
    · exact .inl ⟨hx, hxo⟩
    · exact .inr hx

theorem InFlight.dropRoute (h : InFlight d link X) (r : Route) :
    InFlight (d.dropRoute env link r) link (X \ {.route r}) :=
  h.dropOr (by simp [objects])

theorem InFlight.dropAddr (h : InFlight d link X) (a : Addr) :
    InFlight (d.dropAddr env link a) link (X \ {.addr link a}) :=
  h.dropOr (by simp [objects])

theorem InFlight.dropRule (env : Env) (h : InFlight d link X) (rule : Option Rule) :
    InFlight (d.dropRule env rule) link (X \ { o | ∃ r, rule = some r ∧ o = .rule r }) := by
  cases rule with
  | none => exact h.mono (fun o ho => ⟨ho, by simp⟩)
  | some r =>
    refine (h.dropOr (by simp [objects])).mono fun o ho => ⟨ho.1, ?_⟩
    rintro ⟨r', hr', rfl⟩
    cases hr'
    exact ho.2 rfl

/-- Removing a list of routes. -/
theorem InFlight.dropRoutes (env : Env) (h : InFlight d link X) (routes : List Route) :
    InFlight (routes.foldl (DhcpMode.dropRoute env link) d) link (X \ routeSet routes) := by
  induction routes generalizing d X with
  | nil => rwa [routeSet_nil, Set.sdiff_empty]
  | cons r routes ih =>
    rw [routeSet_cons, Set.insert_eq, ← Set.sdiff_sdiff]
    exact ih (h.dropRoute r)

/-- Replacing the address leaves no other entry for its IP. -/
theorem InFlight.addrReplace (h : InFlight d link X) (a : Addr)
    (hok : (d.addrReplace env link a).1 = false) :
    InFlight (d.addrReplace env link a).2 link
      (insert (.addr link a) { o | o ∈ X ∧ sameIp link a o = false }) := by
  unfold DhcpMode.addrReplace at hok ⊢
  by_cases hf : env.fails d.calls (.replace (.addr link a)) = true
  · rw [if_pos hf] at hok; cases hok
  · rw [if_neg hf]
    intro x hx
    dsimp only at hx
    split at hx
    next heq => exact .inl (.inl heq)
    next => aesop

/-- A failed replacement changes nothing. -/
theorem addrReplace_failed {a : Addr} (hf : (d.addrReplace env link a).1 = true) :
    (d.addrReplace env link a).2 = { d with calls := d.calls + 1 } := by
  unfold addrReplace at hf ⊢
  split at hf
  next hc => rw [if_pos hc]
  next => cases hf

@[simp] theorem addrReplace_nics {a : Addr} : (d.addrReplace env link a).2.nics = d.nics := by
  unfold addrReplace; split <;> rfl

theorem dropRoutes_nics (routes : List Route) :
    (routes.foldl (dropRoute env link) d).nics = d.nics := by
  exact foldlRecOn (motive := (nics · = d.nics)) _ _ rfl fun _ h _ _ => dropOr_nics.trans h

theorem dropRule_nics (rule : Option Rule) : (d.dropRule env rule).nics = d.nics := by
  cases rule with
  | none => rfl
  | some r => exact dropOr_nics

theorem dropAddr_nics (a : Addr) : (d.dropAddr env link a).nics = d.nics := dropOr_nics

/-! ### The parts of `apply` -/

/-- The first loop of `applyRoutes`: a failure takes back what it added, a success has all wanted
    routes in flight. -/
theorem addRoutes_inFlight (env : Env) {prev want added : List Route}
    (hprev : ∀ p ∈ prev, p.linkIndex = link)
    (hwant : ∀ r ∈ want, r.linkIndex = link) (hX : routeSet prev ⊆ X)
    (h : InFlight d link (X ∪ routeSet added)) :
    ∃ failed d', addRoutes env link prev want added d = (failed, d') ∧ d'.nics = d.nics ∧
      InFlight d' link (if failed then X else X ∪ routeSet added ∪ routeSet want) := by
  induction want generalizing d added with
  | nil => exact ⟨false, d, rfl, rfl, h.mono fun o ho => .inl ho⟩
  | cons r want ih =>
    obtain ⟨failed, d1, hres, hn, -, hcov⟩ := add_cases env d (.route r)
    have hadd := hcov link _ h
    have hwant' : ∀ r ∈ want, r.linkIndex = link := fun x hx => hwant x (mem_cons_of_mem r hx)
    cases failed with
    | true =>
      have heq : addRoutes env link prev (r :: want) added d =
          (true, added.foldl (DhcpMode.dropRoute env link) d1) := by rw [addRoutes, hres]; rfl
      refine ⟨true, _, heq, (dropRoutes_nics added).trans hn, (hadd.dropRoutes env added).mono ?_⟩
      exact fun o ho => ho.1.resolve_right ho.2
    | false =>
      by_cases hany : prev.any (fun p => sameRoute p r) = true
      · -- The previous lease has the route already.
        have heq : addRoutes env link prev (r :: want) added d =
            addRoutes env link prev want added d1 := by
          rw [addRoutes, hres]; exact if_pos hany
        obtain ⟨p, hp, hsame⟩ := any_eq_true.mp hany
        have hpr : p = r :=
          (sameRoute_iff ((hprev p hp).trans (hwant r mem_cons_self).symm)).mp hsame
        have hr : Obj.route r ∈ X := hX ⟨p, hp, by rw [hpr]⟩
        have hd : InFlight d1 link (X ∪ routeSet added) :=
          hadd.mono (Set.insert_subset (.inl hr) fun o ho => ho)
        obtain ⟨failed, d', hres', hn', hin⟩ := ih hwant' hd
        refine ⟨failed, d', heq.trans hres', hn'.trans hn, hin.mono ?_⟩
        rw [routeSet_cons, Set.union_insert]
        split
        · exact subset_rfl
        · exact Set.subset_insert _ _
      · have heq : addRoutes env link prev (r :: want) added d =
            addRoutes env link prev want (added ++ [r]) d1 := by
          rw [addRoutes, hres]; exact if_neg hany
        have hset : X ∪ routeSet (added ++ [r]) = insert (.route r) (X ∪ routeSet added) := by
          rw [routeSet_concat, Set.union_insert]
        obtain ⟨failed, d', hres', hn', hin⟩ := ih hwant' (hset ▸ hadd)
        refine ⟨failed, d', heq.trans hres', hn'.trans hn, ?_⟩
        rwa [hset, Set.insert_union, ← Set.union_insert, ← routeSet_cons] at hin

/-- Routes of the previous lease that a lease does not have are removed. -/
theorem InFlight.dropGone (env : Env) {prev want : List Route}
    (hprev : ∀ p ∈ prev, p.linkIndex = link)
    (hwant : ∀ r ∈ want, r.linkIndex = link) (h : InFlight d link X) :
    InFlight ((prev.filter (fun p => !want.any (fun r => sameRoute p r))).foldl
        (DhcpMode.dropRoute env link) d) link
      (X \ { o | ∃ p ∈ prev, p ∉ want ∧ o = .route p }) := by
  refine (h.dropRoutes env _).mono fun o ho => ⟨ho.1, ?_⟩
  rintro ⟨p, hp, hpw, rfl⟩
  refine ho.2 ⟨p, mem_filter.mpr ⟨hp, ?_⟩, rfl⟩
  -- A previous route that is not wanted is the same as none that is.
  rw [Bool.not_eq_true', any_eq_false]
  intro r hr hsame
  exact hpw ((sameRoute_iff ((hprev p hp).trans (hwant r hr).symm)).mp hsame ▸ hr)

/-- `applyRoutes`: in flight afterwards are the old objects, or with success the wanted routes and
    the old objects without the routes that the lease no longer has. -/
theorem applyRoutes_inFlight (env : Env) (addr : Addr) (lease : BoundLease) {prev : List Route}
    (hprev : ∀ p ∈ prev, p.linkIndex = link) (hX : routeSet prev ⊆ X) (h : InFlight d link X) :
    (∃ d', d.applyRoutes env link addr lease prev = (none, d') ∧ d'.nics = d.nics ∧
        InFlight d' link X) ∨
      ∃ d', d.applyRoutes env link addr lease prev = (some (leaseRoutes link addr lease), d') ∧
        d'.nics = d.nics ∧
        InFlight d' link ((X ∪ routeSet (leaseRoutes link addr lease)) \
          { o | ∃ p ∈ prev, p ∉ leaseRoutes link addr lease ∧ o = .route p }) := by
  have hwant : ∀ r ∈ leaseRoutes link addr lease, r.linkIndex = link := leaseRoutes_link
  have hd : InFlight d link (X ∪ routeSet []) := h.mono fun o ho => .inl ho
  obtain ⟨failed, d1, hres, hn, hin⟩ := addRoutes_inFlight env hprev hwant hX hd
  unfold applyRoutes
  dsimp only
  rw [hres]
  cases failed with
  | true => exact .inl ⟨d1, rfl, hn, hin⟩
  | false =>
    rw [routeSet_nil, Set.union_empty] at hin
    exact .inr ⟨_, rfl, (dropRoutes_nics _).trans hn, hin.dropGone env hprev hwant⟩

/-- The first loop of `applySource`: the routes that were added are in flight, and a route whose
    call does not fail is added. -/
theorem addSource_inFlight (env : Env) (want : List Route) {added : List Route}
    (h : InFlight d link (X ∪ routeSet added)) :
    ∃ added' d', addSource env want added d = (added', d') ∧ d'.nics = d.nics ∧
      InFlight d' link (X ∪ routeSet added') ∧ (∀ r ∈ added', r ∈ added ∨ r ∈ want) ∧
      (∀ r ∈ added, r ∈ added') ∧
      (∀ r ∈ want, (∀ n, env.fails n (.add (.route r)) = false) → r ∈ added') := by
  induction want generalizing d added with
  | nil => aesop
  | cons r want ih =>
    obtain ⟨failed, d1, hres, hn, hfail, hcov⟩ := add_cases env d (.route r)
    have hadd := hcov link _ h
    cases failed with
    | true =>
      have heq : addSource env (r :: want) added d = addSource env want added d1 := by
        rw [addSource, hres]; rfl
      obtain ⟨added', d', hres', hn', hin, hsub, hkeep, hall⟩ := ih hadd
      refine ⟨added', d', heq.trans hres', hn'.trans hn, hin, fun x hx => ?_, hkeep,
        fun x hx hok => ?_⟩
      · grind
      · grind
    | false =>
      have heq : addSource env (r :: want) added d = addSource env want (added ++ [r]) d1 := by
        rw [addSource, hres]; rfl
      have hd : InFlight d1 link (X ∪ routeSet (added ++ [r])) := by
        rw [routeSet_concat, Set.union_insert]
        exact hadd
      obtain ⟨added', d', hres', hn', hin, hsub, hkeep, hall⟩ := ih hd
      refine ⟨added', d', heq.trans hres', hn'.trans hn, hin, fun x hx => ?_,
        fun x hx => hkeep x (mem_append_left _ hx), fun x hx hok => ?_⟩
      · grind
      · grind

/-- The rule of `applySource`: it is kept for the same address, else replaced. -/
theorem applySource_inFlight (addr : Addr) {main : List Route} {prev : DhcpApplied}
    (hmain : ∀ r ∈ main, r.linkIndex = link) (hprev : ∀ p ∈ prev.srcRoutes, p.linkIndex = link)
    (hwork : ∀ p ∈ prev.srcRoutes, ∀ n, env.fails n (.add (.route p)) = false)
    (h : InFlight d link X) :
    ∃ srcRoutes rule d', d.applySource env link addr main prev = (srcRoutes, rule, d') ∧
      d'.nics = d.nics ∧ (∀ r ∈ srcRoutes, r.linkIndex = link) ∧
      InFlight d' link
        ({ o | o ∈ X ∧ (∀ p ∈ prev.srcRoutes, o ≠ .route p) ∧
            ∀ r, prev.rule = some r → o ≠ .rule r } ∪
          routeSet srcRoutes ∪ { o | ∃ r, rule = some r ∧ o = .rule r }) := by
  have hwant : ∀ r ∈ sourceRoutes main link addr, r.linkIndex = link := sourceRoutes_link hmain
  have hd : InFlight d link (X ∪ routeSet []) := h.mono fun o ho => .inl ho
  obtain ⟨added, d1, hres, hn, hin, hsub, -, hall⟩ :=
    addSource_inFlight env (sourceRoutes main link addr) hd
  have hlink : ∀ r ∈ added, r.linkIndex = link := fun r hr =>
    (hsub r hr).elim (fun hc => absurd hc not_mem_nil) (hwant r)
  -- What remains of the previous source routes is wanted, hence added again.
  have hsrc := (InFlight.dropGone env hprev hwant hin).mono
    (Y := { o | o ∈ X ∧ ∀ p ∈ prev.srcRoutes, o ≠ .route p } ∪ routeSet added) (by
      rintro o ⟨ho | ho, hnot⟩
      · by_cases hp : ∃ p ∈ prev.srcRoutes, o = .route p
        · obtain ⟨p, hp, rfl⟩ := hp
          have hpw : p ∈ sourceRoutes main link addr := by
            by_contra hc
            exact hnot ⟨p, hp, hc, rfl⟩
          exact .inr ⟨p, hall p hpw (hwork p hp), rfl⟩
        · grind
      · exact .inr ho)
  unfold applySource
  dsimp only
  rw [hres]
  split
  next hkeep =>
    refine ⟨added, prev.rule, _, rfl, (dropRoutes_nics _).trans hn, hlink, hsrc.mono ?_⟩
    rintro o (⟨ho, hnot⟩ | ho)
    · grind
    · exact .inl (.inr ho)
  next =>
    have hrule := hsrc.dropRule env prev.rule
    obtain ⟨failed, d2, hres', hn', -, hcov⟩ :=
      add_cases env (dropRule env (List.foldl (DhcpMode.dropRoute env link) d1
        (prev.srcRoutes.filter (fun p => !(sourceRoutes main link addr).any
          (fun r => sameRoute p r))))
        prev.rule) (.rule (sourceRule link addr))
    have hfin := hcov link _ hrule
    have hn2 : d2.nics = d.nics := by rw [hn', dropRule_nics, dropRoutes_nics, hn]
    rw [hres']
    cases failed with
    | true =>
      refine ⟨added, none, d2, rfl, hn2, hlink, hfin.mono ?_⟩
      rintro o ⟨⟨ho, hnot⟩ | ho, hnr⟩
      · grind
      · exact .inl (.inr ho)
    | false =>
      refine ⟨added, some (sourceRule link addr), d2, rfl, hn2, hlink, hfin.mono ?_⟩
      rintro o (rfl | ⟨⟨ho, hnot⟩ | ho, hnr⟩)
      · exact .inr ⟨_, rfl, rfl⟩
      · grind
      · exact .inl (.inr ho)

/-! ### Recorded objects -/

/-- Every object of DHCP mode in the kernel is recorded, and the entry of a NIC is about this
    NIC. -/
structure Owned (d : DhcpMode) : Prop where
  recorded : ∀ o, d.kernel o = .ours →
    ∃ a, (a ∈ d.stale ∨ ∃ i, d.nics.get i = some a) ∧ o ∈ a.objects
  links : ∀ i a, d.nics.get i = some a →
    a.link = i ∧ ∀ r, r ∈ a.routes ∨ r ∈ a.srcRoutes → r.linkIndex = i

/-- The entry of a NIC is about this NIC. -/
def Linked (nics : GoMap Nat DhcpApplied) : Prop := ∀ i a, nics.get i = some a →
  a.link = i ∧ ∀ r, r ∈ a.routes ∨ r ∈ a.srcRoutes → r.linkIndex = i

/-- The objects that the entry of a NIC refers to. -/
def nicObjects (d : DhcpMode) (link : Nat) : Set Obj :=
  { o | ∃ a, d.nics.get link = some a ∧ o ∈ a.objects }

theorem Owned.inFlight (h : Owned d) (link : Nat) : InFlight d link (d.nicObjects link) := by
  intro o ho
  obtain ⟨a, ha | ⟨i, hi⟩, hoa⟩ := h.recorded o ho
  · exact .inr (.inl ⟨a, ha, hoa⟩)
  · by_cases hil : i = link
    · exact .inl ⟨a, hil ▸ hi, hoa⟩
    · exact .inr (.inr ⟨i, a, hil, hi, hoa⟩)

/-- When everything in flight is in the entry of the NIC, everything is recorded. -/
theorem InFlight.recorded (h : InFlight d link X) (hX : X ⊆ d.nicObjects link) :
    ∀ o, d.kernel o = .ours → ∃ a, (a ∈ d.stale ∨ ∃ i, d.nics.get i = some a) ∧ o ∈ a.objects := by
  intro o ho
  rcases h o ho with ho | ⟨a, ha, ho⟩ | ⟨i, a, -, hi, ho⟩
  · obtain ⟨a, ha, ho⟩ := hX ho
    exact ⟨a, .inr ⟨link, ha⟩, ho⟩
  · exact ⟨a, .inl ha, ho⟩
  · exact ⟨a, .inr ⟨i, hi⟩, ho⟩

/-- With a new entry for the NIC, the objects in flight have to be in that entry. -/
theorem InFlight.setNic {a : DhcpApplied} (h : InFlight d link X) (hX : ∀ o ∈ X, o ∈ a.objects)
    (hlinks : Linked d.nics)
    (ha : a.link = link ∧ ∀ r, r ∈ a.routes ∨ r ∈ a.srcRoutes → r.linkIndex = link) :
    Owned { d with nics := d.nics.set link a } := by
  constructor
  · have hin : InFlight { d with nics := d.nics.set link a } link X := by
      intro o ho
      rcases h o ho with ho | ho | ⟨i, b, hi, hb, ho⟩
      · exact .inl ho
      · exact .inr (.inl ho)
      · refine .inr (.inr ⟨i, b, hi, ?_, ho⟩)
        rw [get_set_of_ne hi]
        exact hb
    exact hin.recorded fun o ho => ⟨a, get_set_self d.nics link a, hX o ho⟩
  · grind [Linked]

theorem mem_objects {a : DhcpApplied} :
    o ∈ a.objects ↔ (∃ x, a.addr = some x ∧ o = .addr a.link x) ∨ (∃ r ∈ a.routes, o = .route r) ∨
      (∃ r ∈ a.srcRoutes, o = .route r) ∨ ∃ r, a.rule = some r ∧ o = .rule r := by
  simp only [DhcpApplied.objects, mem_append, Option.mem_toList, Option.map_eq_some_iff,
    mem_map, or_assoc, eq_comm (b := o)]

/-- What is in flight once the new address is in place. -/
def withAddr (link : Nat) (addr : Addr) (objects : List Obj) : Set Obj :=
  insert (.addr link addr) { o | o ∈ objects ∧ sameIp link addr o = false }

/-- The rollback of the address: whatever it does, the previous entry is right again. -/
theorem dropUnappliedAddr_owned {addr : Addr} {prev : Option DhcpApplied}
    (hp : d.nics.get link = prev)
    (hlinks : Linked d.nics)
    (h : InFlight d link (withAddr link addr (prev.getD { link := link }).objects)) :
    Owned (d.dropUnappliedAddr env link addr prev) := by
  -- Without the new address, what is in flight is in the previous entry.
  have hdrop : Owned (d.dropAddr env link addr) := by
    refine ⟨(h.dropAddr addr).recorded fun o ho => ?_, ?_⟩
    · obtain ⟨ho | ⟨ho, -⟩, hne⟩ := ho
      · exact absurd ho hne
      · cases prev with
        | none => grind [mem_objects.mp]
        | some a => exact ⟨a, by rw [dropAddr_nics]; exact hp, ho⟩
    · rw [dropAddr_nics]
      exact hlinks
  unfold dropUnappliedAddr
  cases prev with
  | none => exact hdrop
  | some a =>
    obtain ⟨halink, haroutes⟩ := hlinks link a hp
    cases hadr : a.addr with
    | none => simp only [hadr]; exact hdrop
    | some old =>
      simp only [hadr]
      by_cases hip : old.ip = addr.ip
      · rw [if_pos hip]
        by_cases hsame : old = addr
        · rw [if_pos hsame]
          refine ⟨h.recorded fun o ho => ⟨a, hp, ?_⟩, hlinks⟩
          rcases ho with rfl | ⟨ho, -⟩
          · grind [mem_objects.mpr]
          · exact ho
        · rw [if_neg hsame]
          cases hf : (d.addrReplace env link old).1 with
          | true =>
            -- The previous mask does not come back: the entry takes the new one.
            rw [addrReplace_failed hf]
            have hin : InFlight { d with calls := d.calls + 1 } link
                (withAddr link addr a.objects) := h
            refine hin.setNic ?_ hlinks ⟨halink, haroutes⟩
            rintro o (rfl | ⟨ho, hdiff⟩)
            · grind [mem_objects.mpr]
            · rcases mem_objects.mp ho with ⟨x, hx, rfl⟩ | ho
              · have hx : x = old := Option.some.inj (hx.symm.trans hadr)
                rw [hx, halink] at hdiff
                simp [sameIp, hip] at hdiff
              · exact mem_objects.mpr (.inr ho)
          | false =>
            rw [if_neg Bool.false_ne_true]
            refine ⟨(h.addrReplace old hf).recorded fun o ho => ⟨a, ?_, ?_⟩, ?_⟩
            · rw [addrReplace_nics]; exact hp
            · rcases ho with rfl | ⟨rfl | ⟨ho, -⟩, hdiff⟩
              · grind [mem_objects.mpr]
              · simp [sameIp, hip] at hdiff
              · exact ho
            · rw [addrReplace_nics]; exact hlinks
      · rw [if_neg hip]
        exact hdrop

/-- The previous address goes when the lease has another one. -/
theorem dropPrevAddr_inFlight (env : Env) (addr : Addr) (prev : DhcpApplied)
    (h : InFlight d link X) :
    (d.dropPrevAddr env link addr prev).nics = d.nics ∧
      InFlight (d.dropPrevAddr env link addr prev) link
        { o | o ∈ X ∧ ∀ x, prev.addr = some x → x.ip ≠ addr.ip → o ≠ .addr link x } := by
  unfold dropPrevAddr
  cases hadr : prev.addr with
  | none => grind [h.mono]
  | some old =>
    dsimp only
    split
    next hip => grind [h.mono]
    next =>
      refine ⟨dropAddr_nics old, (h.dropAddr old).mono fun o ho => ⟨ho.1, fun x hx _ heq => ?_⟩⟩
      cases hx
      exact ho.2 heq

/-- **A lease is applied**: nothing gets lost when re-adding the source routes of the previous lease
    does not fail. -/
theorem apply_owned {addr : Addr} {lease : BoundLease} (h : Owned d)
    (hwork : ∀ a, d.nics.get link = some a → ∀ p ∈ a.srcRoutes, ∀ n,
      env.fails n (.add (.route p)) = false) : Owned (d.apply env link addr lease) := by
  unfold apply
  dsimp only
  generalize hprev : d.nics.get link = prev at *
  generalize hgen : prev.getD { link := link } = old
  have hold : (∀ o ∈ d.nicObjects link, o ∈ old.objects) ∧ old.link = link ∧
      (∀ r, r ∈ old.routes ∨ r ∈ old.srcRoutes → r.linkIndex = link) ∧
      ∀ p ∈ old.srcRoutes, ∀ n, env.fails n (.add (.route p)) = false := by
    subst hgen
    cases prev with
    | none => simp [nicObjects, hprev]
    | some a =>
      obtain ⟨hlink, hroutes⟩ := h.links link a hprev
      refine ⟨?_, hlink, hroutes, hwork a rfl⟩
      rintro o ⟨b, hb, ho⟩
      cases hprev.symm.trans hb
      exact ho
  obtain ⟨hobjects, holdLink, hlinkOf, hwork'⟩ := hold
  cases hf : (d.addrReplace env link addr).1 with
  | true =>
    rw [addrReplace_failed hf]
    exact ⟨h.recorded, h.links⟩
  | false =>
    have hin : InFlight (d.addrReplace env link addr).2 link (withAddr link addr old.objects) :=
      ((h.inFlight link).addrReplace addr hf).mono
        (Set.insert_subset_insert fun o ho => ⟨hobjects o ho.1, ho.2⟩)
    have hroutes : routeSet old.routes ⊆ withAddr link addr old.objects := by
      rintro o ⟨r, hr, rfl⟩
      exact .inr ⟨mem_objects.mpr (.inr (.inl ⟨r, hr, rfl⟩)), rfl⟩
    rcases applyRoutes_inFlight env addr lease
        (fun p hp => hlinkOf p (.inl hp)) hroutes hin with
      ⟨d2, hres, hn, hin2⟩ | ⟨d2, hres, hn, hin2⟩
    · rw [hres]
      rw [addrReplace_nics] at hn
      subst hgen
      exact dropUnappliedAddr_owned (by rw [hn]; exact hprev) (by rw [hn]; exact h.links) hin2
    · rw [hres]
      dsimp only
      obtain ⟨hn3, hin3⟩ := dropPrevAddr_inFlight env addr old hin2
      have hmain : ∀ r ∈ leaseRoutes link addr lease, r.linkIndex = link := leaseRoutes_link
      obtain ⟨src, rule, d4, hres4, hn4, hsrc, hin4⟩ :=
        applySource_inFlight addr hmain (fun p hp => hlinkOf p (.inr hp)) hwork' hin3
      rw [hres4]
      have hnics : d4.nics = d.nics := by rw [hn4, hn3, hn, addrReplace_nics]
      refine hin4.setNic ?_ (by rw [hnics]; exact h.links) ⟨rfl, ?_⟩
      · -- Everything that is still in flight belongs to the new entry.
        rintro o ((⟨⟨⟨ho, hgone⟩, hadr⟩, hnsrc, hnrule⟩ | ho) | ⟨r, hr, rfl⟩)
        · rcases ho with (rfl | ⟨ho, hdiff⟩) | ⟨r, hr, rfl⟩
          · grind [mem_objects.mpr]
          · rcases mem_objects.mp ho with ⟨x, hx, rfl⟩ | ⟨r, hr, rfl⟩ | ⟨r, hr, rfl⟩ | ⟨r, hr, rfl⟩
            · rw [holdLink] at hdiff hadr
              have hip : x.ip ≠ addr.ip := by simpa [sameIp] using hdiff
              exact absurd rfl (hadr x hx hip)
            · refine mem_objects.mpr (.inr (.inl ⟨r, ?_, rfl⟩))
              by_contra hnw
              exact hgone ⟨r, hr, hnw, rfl⟩
            · exact absurd rfl (hnsrc r hr)
            · exact absurd rfl (hnrule r hr)
          · grind [mem_objects.mpr]
        · obtain ⟨r, hr, rfl⟩ := ho
          exact mem_objects.mpr (.inr (.inr (.inl ⟨r, hr, rfl⟩)))
        · grind [mem_objects.mpr]
      · grind

/-- **A lease ends**: what cannot be removed is recorded as stale. -/
theorem endLease_owned (h : Owned d) : Owned (d.endLease env link) := by
  unfold endLease
  cases hp : d.nics.get link with
  | none => exact h
  | some a =>
    dsimp only
    have hstart : InFlight { d with nics := d.nics.delete link } link { o | o ∈ a.objects } := by
      intro o ho
      rcases h.inFlight link o ho with ⟨b, hb, ho⟩ | ho | ⟨i, b, hi, hb, ho⟩
      · rw [hp] at hb; cases hb; exact .inl ho
      · exact .inr (.inl ho)
      · refine .inr (.inr ⟨i, b, hi, ?_, ho⟩)
        rw [get_delete_of_ne hi]
        exact hb
    have hrest := (hstart.dropRule env a.rule).dropRoutes env (a.routes ++ a.srcRoutes)
    have hlinks : Linked (d.nics.delete link) := fun i b hb =>
      h.links i b (get_delete_eq_some.mp hb).2
    -- Only the address is left in flight.
    have haddr : ∀ o, o ∈ (({ o | o ∈ a.objects } \ { o | ∃ r, a.rule = some r ∧ o = .rule r }) \
        routeSet (a.routes ++ a.srcRoutes) : Set Obj) →
          ∃ x, a.addr = some x ∧ o = .addr link x := by
      rintro o ⟨⟨ho, hrule⟩, hroute⟩
      rcases mem_objects.mp ho with ⟨x, hx, rfl⟩ | ⟨r, hr, rfl⟩ | ⟨r, hr, rfl⟩ | hr
      · grind [h.links]
      · exact absurd ⟨r, mem_append_left _ hr, rfl⟩ hroute
      · exact absurd ⟨r, mem_append_right _ hr, rfl⟩ hroute
      · exact absurd hr hrule
    cases hadr : a.addr with
    | none =>
      refine ⟨hrest.recorded fun o ho => ?_, ?_⟩
      · grind
      · rw [dropRoutes_nics, dropRule_nics]; exact hlinks
    | some x =>
      refine ⟨(hrest.dropAddr x).recorded fun o ho => ?_, ?_⟩
      · grind
      · rw [dropAddr_nics, dropRoutes_nics, dropRule_nics]; exact hlinks

/-! ### Teardown -/

section

variable (hw : ∀ n c, env.fails n c = false)
include hw

/-- With working calls a removal leaves the other objects of DHCP mode. -/
theorem del_ours {x : Obj}
    (hx : (d.del env o).2.kernel x = .ours) : d.kernel x = .ours ∧ x ≠ o := by
  unfold del at hx
  rw [hw] at hx
  have hx : Ledger.drop d.kernel o x = .ours := hx
  unfold Ledger.drop at hx
  split at hx
  · cases hx
  · exact ⟨hx, ‹_›⟩

theorem delRoutes_ours {x : Obj} (routes : List Route)
    (hx : (routes.foldl (fun d r => (d.del env (.route r)).2) d).kernel x = .ours) :
    d.kernel x = .ours ∧ ∀ r ∈ routes, x ≠ .route r := by
  induction routes generalizing d with
  | nil => grind
  | cons r routes ih => grind [del_ours]

/-- `Teardown` removes every object of an entry. -/
theorem removeApplied_ours {x : Obj} {a : DhcpApplied}
    (hx : (d.removeApplied env a).kernel x = .ours) : d.kernel x = .ours ∧ x ∉ a.objects := by
  unfold removeApplied at hx
  extract_lets d1 d2 at hx
  -- The calls in the order they were made, the last one first.
  have haddr : d2.kernel x = .ours ∧ ∀ y, a.addr = some y → x ≠ .addr a.link y := by
    cases hadr : a.addr with
    | none => grind
    | some y => grind [del_ours]
  obtain ⟨hx, hnaddr⟩ := haddr
  obtain ⟨hx, hnroute⟩ := delRoutes_ours hw _ hx
  have hrule : d.kernel x = .ours ∧ ∀ r, a.rule = some r → x ≠ .rule r := by
    cases hr : a.rule with
    | none => grind
    | some r => grind [del_ours]
  refine ⟨hrule.1, fun ho => ?_⟩
  rcases mem_objects.mp ho with ⟨y, hy, rfl⟩ | ⟨r, hr, rfl⟩ | ⟨r, hr, rfl⟩ | ⟨r, hr, rfl⟩
  · exact hnaddr y hy rfl
  · exact hnroute r (mem_append_left _ hr) rfl
  · grind
  · exact hrule.2 r hr rfl

/-- **`Teardown` with working calls leaves nothing behind** of what is recorded. -/
theorem teardown_ours (h : Owned d) (o : Obj) : (d.teardown env).kernel o ≠ .ours := by
  have hfold : ∀ (applied : List DhcpApplied) (d : DhcpMode),
      (applied.foldl (removeApplied env) d).kernel o = .ours →
      d.kernel o = .ours ∧ ∀ a ∈ applied, o ∉ a.objects := by
    intro applied
    induction applied with
    | nil => grind
    | cons a applied ih =>
      intro d hd
      obtain ⟨hd, hall⟩ := ih _ hd
      obtain ⟨hd, ha⟩ := removeApplied_ours hw hd
      refine ⟨hd, fun b hb => ?_⟩
      rcases mem_cons.mp hb with rfl | hb
      · exact ha
      · exact hall b hb
  intro ho
  obtain ⟨ho, hall⟩ := hfold _ _ ho
  obtain ⟨a, ha | ⟨i, hi⟩, hoa⟩ := h.recorded o ho
  · exact hall a (mem_append_left _ ha) hoa
  · refine hall a (mem_append_right _ (mem_filterMap.mpr ⟨i, ?_, hi⟩)) hoa
    exact Visit.mem_keys.mpr ⟨a, hi⟩

end

end DhcpMode

/-! ### Whole runs -/

open DhcpMode (Owned)

/-- Adding a source route that the previous lease of the NIC has again does not fail. -/
def SourceAddsWork (d : DhcpMode) : DhcpEvent → Prop
  | .bound link _ env => ∀ a, d.nics.get link = some a → ∀ r ∈ a.srcRoutes, ∀ n,
      env.fails n (.add (.route r)) = false
  | .expired _ _ => True

theorem owned_start (foreign : Obj → Bool) : Owned (dhcpMachine foreign).start := by
  constructor
  · intro o ho
    have ho : (if foreign o then Ledger.Presence.foreign else .absent) = .ours := ho
    split at ho <;> cases ho
  · tauto

/-- One event keeps everything recorded. -/
theorem dhcpStep_owned {d d' : DhcpMode} {e : DhcpEvent} (h : Owned d) (hw : SourceAddsWork d e)
    (hs : dhcpStep d e = some d') : Owned d' := by
  cases e with
  | bound link lease env =>
    cases hs
    unfold onBound
    split
    · exact apply_owned h hw
    · exact h
  | expired link env => cases hs; exact endLease_owned h

/-- **Everything configured is recorded.** After every sequence of leases that bind and end, with
    any calls failing except those that re-add a source route of the previous lease, each address,
    route and rule that DHCP mode put into the kernel and that is still there is referred to by an
    entry of `nics` or `stale`, and `Teardown` with working calls leaves none of them behind. -/
theorem applied_is_recorded {foreign : Obj → Bool} {d : DhcpMode}
    (h : (dhcpMachine foreign).Reaches SourceAddsWork d) :
    (∀ o, d.kernel o = .ours →
        ∃ a, (a ∈ d.stale ∨ ∃ i, d.nics.get i = some a) ∧ o ∈ a.objects) ∧
      ∀ env : Env, (∀ n c, env.fails n c = false) → ∀ o, (d.teardown env).kernel o ≠ .ours := by
  have hinv : Owned d := Machine.Reaches.invariant h (owned_start foreign)
    fun d e d' hi hw hs => dhcpStep_owned hi hw hs
  exact ⟨hinv.recorded, fun env hw o => DhcpMode.teardown_ours hw hinv o⟩

/-! ### A renewal that fails -/

/-- A lease of 10.0.0.5/24 for an hour, without routes. -/
def exampleLease : BoundLease where
  serverID := some 0x0a000001
  fixedAddress := 0x0a000005
  bound := 0
  expire := some 3600
  netmask := .len 24
  router := []
  staticRoutes := []
  classless := []

/-- Calls that all work. -/
def workingEnv : Env := ⟨fun _ _ => false, .stored⟩

/-- The subnet route of the lease in the table of NIC 2. -/
def exampleSubnet : Route where
  linkIndex := 2
  dst := some ⟨0x0a000000, 24⟩
  gw := none
  src := some 0x0a000005
  scope := .link
  table := 10002

/-- A lease is bound and renewed with working calls: its subnet route is recorded. -/
theorem renewedLease_recorded :
    ∃ d, (dhcpMachine fun _ => false).Reaches SourceAddsWork d ∧
      d.kernel (.route exampleSubnet) = .ours ∧
      ∃ a, (a ∈ d.stale ∨ ∃ i, d.nics.get i = some a) ∧ Obj.route exampleSubnet ∈ a.objects := by
  let d₁ := DhcpMode.onBound workingEnv 2 exampleLease (dhcpMachine fun _ => false).start
  let d₂ := DhcpMode.onBound workingEnv 2 exampleLease d₁
  have hrun : (dhcpMachine fun _ => false).Reaches SourceAddsWork d₂ :=
    .step (a := .bound 2 exampleLease workingEnv)
      (.step (a := .bound 2 exampleLease workingEnv) .start (fun _ _ _ _ _ => rfl) rfl)
      (fun _ _ _ _ _ => rfl) rfl
  have hker : d₂.kernel (.route exampleSubnet) = .ours := by decide +kernel
  exact ⟨d₂, hrun, hker, (applied_is_recorded hrun).1 _ hker⟩

/-- **A source route is lost.** The renewal of a lease re-adds its subnet route in the table of
    the NIC, which fails: the route is still there, no entry refers to it any more, and `Teardown`
    leaves it behind. -/
theorem lostSourceRoute :
    ∃ d, (dhcpMachine fun _ => false).Reachable d ∧ d.kernel (.route exampleSubnet) = .ours ∧
      (¬ ∃ a, (a ∈ d.stale ∨ ∃ i, d.nics.get i = some a) ∧ Obj.route exampleSubnet ∈ a.objects) ∧
      (d.teardown workingEnv).kernel (.route exampleSubnet) = .ours := by
  let failing : Env := ⟨fun _ c => c == .add (.route exampleSubnet), .stored⟩
  let d₁ := DhcpMode.onBound workingEnv 2 exampleLease (dhcpMachine fun _ => false).start
  let d₂ := DhcpMode.onBound failing 2 exampleLease d₁
  have hrun : (dhcpMachine fun _ => false).Reachable d₂ :=
    .step (a := .bound 2 exampleLease failing)
      (.step (a := .bound 2 exampleLease workingEnv) .start trivial rfl) trivial rfl
  have hstale : d₂.stale = [] := by decide +kernel
  have hkeys : ∀ i ∈ d₂.nics.keys, ∀ a ∈ d₂.nics.get i, Obj.route exampleSubnet ∉ a.objects := by
    decide +kernel
  refine ⟨d₂, hrun, by decide +kernel, ?_, by decide +kernel⟩
  rintro ⟨a, ha | ⟨i, hi⟩, ho⟩
  · grind
  · exact hkeys i (mem_keys_iff.mpr ⟨a, hi⟩) a hi ho

end Booty.Network
