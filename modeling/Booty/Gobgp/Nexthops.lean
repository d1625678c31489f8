import Booty.Gobgp.LiveRoutes

namespace Booty.Gobgp

open Booty.Lib List GoMap L2

/-!
# Every nexthop is recorded

The overlay allocates nexthop IDs from a 32 bit counter and moves them between three records: the
groups of the segments, the nexthops of the VTEPs and the failed deletes.  `Accounted s X` says that
no ID is recorded twice, that every nexthop object in the kernel is recorded or in `X`, the IDs that
are being moved, and that all of them were allocated before.

* `syncES_accounted` — one segment update keeps it, while the counter does not wrap.
* `nexthops_are_recorded` — the same over whole runs, with what `removeESState` then leaves.
* `wrappedID_shared` — after 2³² allocations two VTEPs share an ID.
-/

namespace L2

variable {txt : NetText} {env : Env} {s : L2} {X : Set NexthopID} {id : NexthopID} {esi : Esi}

/-! ### Records -/

/-- The number of the allocation that gave an ID. -/
def serial (id : NexthopID) : Nat := (id - nhIDBase).toNat

/-- Who holds a nexthop: the group of an ES or a VTEP. -/
inductive Owner
  | group (esi : Esi)
  | vtep (v : String)
deriving DecidableEq

/-- The nexthop of an owner. -/
def idOf (s : L2) : Owner → Option NexthopID
  | .group esi => (s.nh.esGroups.get esi).map EsGroup.id
  | .vtep v => s.nh.vtepNexthops.get v

/-- The ID is in one of the three records. -/
def Recorded (s : L2) (id : NexthopID) : Prop :=
  (∃ o, s.idOf o = some id) ∨ id ∈ s.nh.staleNexthops

/-- The records are in order, except that the IDs of `X` are in none of them. -/
structure Accounted (s : L2) (X : Set NexthopID) : Prop where
  inj : ∀ o o' i, s.idOf o = some i → s.idOf o' = some i → o = o'
  stale_nodup : s.nh.staleNexthops.Nodup
  not_stale : ∀ o i, s.idOf o = some i → i ∉ s.nh.staleNexthops
  moved : ∀ i ∈ X, ¬ s.Recorded i
  bound : ∀ i, s.Recorded i ∨ i ∈ X → serial i ≤ s.nh.lastNexthopID.toNat
  kernel : ∀ i nh, s.kernel.nexthops.get i = some nh → s.Recorded i ∨ i ∈ X

/-- What else a step that only moves IDs leaves alone. -/
structure SameRest (s s' : L2) : Prop where
  stale : s'.nh.staleNexthops = s.nh.staleNexthops
  last : s'.nh.lastNexthopID = s.nh.lastNexthopID
  nexthops : s'.kernel.nexthops = s.kernel.nexthops

variable {s' : L2}

/-- A step that keeps the nexthop of every owner. -/
theorem Accounted.congr (h : Accounted s X) (hown : ∀ o, s'.idOf o = s.idOf o)
    (hrest : SameRest s s') : Accounted s' X := by
  have hrec : ∀ i, s'.Recorded i ↔ s.Recorded i := by
    intro i
    simp only [Recorded, hown, hrest.stale]
  refine ⟨?_, ?_, ?_, ?_, ?_, ?_⟩
  · simpa only [hown] using h.inj
  · rw [hrest.stale]; exact h.stale_nodup
  · simpa only [hown, hrest.stale] using h.not_stale
  · simpa only [hrec] using h.moved
  · simpa only [hrec, hrest.last] using h.bound
  · simpa only [hrec, hrest.nexthops] using h.kernel

/-- The FDB code does not touch the records. -/
theorem Accounted.frame (h : Accounted s X) (hf : FdbFrame s s') : Accounted s' X := by
  refine h.congr (fun o => ?_) ⟨?_, ?_, hf.nexthops⟩
  · cases o <;> simp only [idOf, hf.nh]
  · rw [hf.nh]
  · rw [hf.nh]

/-! ### IDs that move -/

/-- The nexthop of an owner that is forgotten is moved. -/
theorem Accounted.forget {o : Owner} (h : Accounted s X) (ho : s.idOf o = some id)
    (hown : ∀ o', s'.idOf o' = if o' = o then none else s.idOf o') (hrest : SameRest s s') :
    Accounted s' (insert id X) := by
  have hget : ∀ o' i, s'.idOf o' = some i → o' ≠ o ∧ s.idOf o' = some i := by
    intro o' i hi
    rw [hown] at hi
    split at hi
    · cases hi
    · exact ⟨‹_›, hi⟩
  have hsub : ∀ i, s'.Recorded i → s.Recorded i := by
    rintro i (⟨o', ho'⟩ | hi)
    · exact .inl ⟨o', (hget o' i ho').2⟩
    · exact .inr (hrest.stale ▸ hi)
  refine ⟨fun o1 o2 i h1 h2 => h.inj o1 o2 i (hget o1 i h1).2 (hget o2 i h2).2, ?_, ?_, ?_, ?_, ?_⟩
  · rw [hrest.stale]; exact h.stale_nodup
  · grind [hrest.stale, h.not_stale]
  · rintro i (rfl | hi) hrec
    · -- No other record has the ID.
      rcases hrec with ⟨o', ho'⟩ | hst
      · grind [h.inj]
      · exact h.not_stale o i ho (hrest.stale ▸ hst)
    · exact h.moved i hi (hsub i hrec)
  · intro i hi
    rw [hrest.last]
    rcases hi with hi | rfl | hi
    · exact h.bound i (.inl (hsub i hi))
    · exact h.bound i (.inl (.inl ⟨o, ho⟩))
    · exact h.bound i (.inr hi)
  · intro i nh hi
    rw [hrest.nexthops] at hi
    rcases h.kernel i nh hi with (⟨o', ho'⟩ | hst) | hi
    · by_cases heq : o' = o
      · grind
      · exact .inl (.inl ⟨o', by rw [hown, if_neg heq]; exact ho'⟩)
    · exact .inl (.inr (hrest.stale ▸ hst))
    · exact .inr (.inr hi)

/-- A moved ID is recorded for an owner that had none. -/
theorem Accounted.record {o : Owner} (h : Accounted s (insert id X)) (hX : id ∉ X)
    (ho : s.idOf o = none) (hown : ∀ o', s'.idOf o' = if o' = o then some id else s.idOf o')
    (hrest : SameRest s s') : Accounted s' X := by
  have hnew : ¬ s.Recorded id := h.moved id (Set.mem_insert _ _)
  have hget : ∀ o' i, s'.idOf o' = some i → (o' = o ∧ i = id) ∨ s.idOf o' = some i := by
    intro o' i hi
    rw [hown] at hi
    split at hi
    · cases hi; exact .inl ⟨‹_›, rfl⟩
    · exact .inr hi
  have hrec : ∀ i, s'.Recorded i ↔ i = id ∨ s.Recorded i := by
    intro i
    constructor
    · rintro (⟨o', ho'⟩ | hi)
      · exact (hget o' i ho').imp And.right fun hi => .inl ⟨o', hi⟩
      · exact .inr (.inr (hrest.stale ▸ hi))
    · rintro (rfl | ⟨o', ho'⟩ | hi)
      · exact .inl ⟨o, by rw [hown, if_pos rfl]⟩
      · refine .inl ⟨o', ?_⟩
        rw [hown, if_neg]
        · exact ho'
        · rintro rfl
          rw [ho] at ho'; cases ho'
      · exact .inr (hrest.stale ▸ hi)
  -- The new owner cannot share the ID: nobody had it while it was moved.
  refine ⟨?_, ?_, ?_, ?_, ?_, ?_⟩
  · intro o1 o2 i h1 h2
    rcases hget o1 i h1 with ⟨rfl, rfl⟩ | h1'
    · rcases hget o2 i h2 with ⟨rfl, -⟩ | h2'
      · rfl
      · exact absurd (.inl ⟨o2, h2'⟩) hnew
    · rcases hget o2 i h2 with ⟨rfl, rfl⟩ | h2'
      · exact absurd (.inl ⟨o1, h1'⟩) hnew
      · exact h.inj o1 o2 i h1' h2'
  · rw [hrest.stale]; exact h.stale_nodup
  · intro o' i hi
    rw [hrest.stale]
    rcases hget o' i hi with ⟨-, rfl⟩ | hi
    · exact fun hst => hnew (.inr hst)
    · exact h.not_stale o' i hi
  · grind [h.moved]
  · intro i hi
    rw [hrest.last]
    rcases hi with hr | hi
    · rcases (hrec i).mp hr with rfl | hr
      · exact h.bound i (.inr (.inl rfl))
      · exact h.bound i (.inl hr)
    · exact h.bound i (.inr (.inr hi))
  · grind [hrest.nexthops, h.kernel]

/-- The failed deletes are taken off their list. -/
theorem Accounted.takeStale (h : Accounted s X) :
    Accounted { s with nh.staleNexthops := [] } (X ∪ { i | i ∈ s.nh.staleNexthops }) := by
  have hown : ∀ o, idOf { s with nh.staleNexthops := [] } o = s.idOf o := by
    intro o
    cases o <;> rfl
  have hsub : ∀ i, Recorded { s with nh.staleNexthops := [] } i → ∃ o, s.idOf o = some i := by
    rintro i (⟨o, ho⟩ | hi)
    · exact ⟨o, hown o ▸ ho⟩
    · exact absurd hi not_mem_nil
  refine ⟨?_, nodup_nil, fun _ _ _ => not_mem_nil, ?_, ?_, ?_⟩
  · simpa only [hown] using h.inj
  · rintro i (hi | hi) hrec
    · exact h.moved i hi (.inl (hsub i hrec))
    · grind [h.not_stale]
  · rintro i (hi | hi | hi)
    · exact h.bound i (.inl (.inl (hsub i hi)))
    · exact h.bound i (.inr hi)
    · exact h.bound i (.inl (.inr hi))
  · intro i nh hi
    rcases h.kernel i nh hi with (⟨o, ho⟩ | hi) | hi
    · exact .inl (.inl ⟨o, (hown o).trans ho⟩)
    · exact .inr (.inr hi)
    · exact .inr (.inl hi)

/-- **Deleting a moved ID** ends its move: the object is gone, or the ID is a failed delete. -/
theorem Accounted.deleteNexthop (h : Accounted s (insert id X)) (hX : id ∉ X) :
    Accounted (s.deleteNexthop env id) X := by
  have hnot : ¬ s.Recorded id := h.moved id (Set.mem_insert _ _)
  unfold L2.deleteNexthop nexthopDel
  by_cases hf : env.fails s.calls = true
  -- A failed delete is recorded for a retry, so the object still has a record.
  · rw [call_fails hf]
    dsimp only
    rw [if_pos rfl]
    have hown : ∀ o, idOf { s with calls := s.calls + 1
                                   nh.staleNexthops := s.nh.staleNexthops ++ [id] } o =
                                     s.idOf o := by
      intro o
      cases o <;> rfl
    have hrec : ∀ i, Recorded { s with calls := s.calls + 1
                                       nh.staleNexthops := s.nh.staleNexthops ++ [id] } i ↔
        s.Recorded i ∨ i = id := by
      intro i
      simp only [Recorded, hown, mem_append, mem_singleton, or_assoc]
    refine ⟨?_, ?_, ?_, ?_, ?_, ?_⟩
    · simpa only [hown] using h.inj
    · refine nodup_append.mpr ⟨h.stale_nodup, nodup_singleton _, fun a ha b hb => ?_⟩
      rintro rfl
      exact hnot (.inr (mem_singleton.mp hb ▸ ha))
    · intro o i ho hmem
      rcases mem_append.mp hmem with hmem | hmem
      · exact h.not_stale o i ho hmem
      · exact hnot (.inl ⟨o, mem_singleton.mp hmem ▸ ho⟩)
    · grind [h.moved]
    · rintro i (hr | hi)
      · rcases (hrec i).mp hr with hr | rfl
        · exact h.bound i (.inl hr)
        · exact h.bound i (.inr (.inl rfl))
      · exact h.bound i (.inr (.inr hi))
    · grind [h.kernel]
  -- The object is gone and needs no record.
  · rw [call_works (Bool.eq_false_iff.mpr hf)]
    refine ⟨h.inj, h.stale_nodup, h.not_stale, fun i hi => h.moved i (.inr hi),
      fun i hi => h.bound i (hi.imp_right .inr), ?_⟩
    intro i nh hi
    obtain ⟨hne, hi⟩ := get_delete_eq_some.mp hi
    rcases h.kernel i nh hi with hr | rfl | hi
    · exact .inl hr
    · exact absurd rfl hne
    · exact .inr hi

/-- Deleting a list of moved IDs. -/
theorem Accounted.deleteNexthops {ids : List NexthopID} (h : Accounted s (X ∪ { i | i ∈ ids }))
    (hnodup : ids.Nodup) (hX : ∀ i ∈ ids, i ∉ X) :
    Accounted (ids.foldl (L2.deleteNexthop env) s) X := by
  induction ids generalizing s with
  | nil => simp_all
  | cons id ids ih =>
    obtain ⟨hnot, hnodup⟩ := nodup_cons.mp hnodup
    have hset : (X ∪ { i | i ∈ id :: ids }) = insert id (X ∪ { i | i ∈ ids }) := by
      ext i
      simp only [Set.mem_union, Set.mem_ofPred_eq, mem_cons, Set.mem_insert_iff]
      tauto
    rw [hset] at h
    refine ih (h.deleteNexthop ?_) hnodup fun i hi => hX i (mem_cons_of_mem id hi)
    rintro (hi | hi)
    · exact hX id mem_cons_self hi
    · exact hnot hi

/-- The ID of an ES group, when the ES has it. -/
theorem idOf_group {g : EsGroup} (hg : s.nh.esGroups.get esi = some g) :
    s.idOf (.group esi) = some g.id := by
  show (s.nh.esGroups.get esi).map EsGroup.id = _
  rw [hg]
  rfl

/-- The record of one ES is written. -/
theorem idOf_setGroups {groups : GoMap Esi EsGroup} {g : Option EsGroup}
    (hget : ∀ e, groups.get e = if e = esi then g else s.nh.esGroups.get e) (o : Owner) :
    idOf { s with nh.esGroups := groups } o =
      if o = .group esi then g.map EsGroup.id else s.idOf o := by
  cases o with
  | group e =>
    show (groups.get e).map EsGroup.id = _
    by_cases he : e = esi
    · grind
    · aesop
  | vtep v => exact (if_neg Owner.noConfusion).symm

/-- The record of one VTEP is written. -/
theorem idOf_setVteps {vteps : GoMap String NexthopID} {v : String} {i : Option NexthopID}
    (hget : ∀ w, vteps.get w = if w = v then i else s.nh.vtepNexthops.get w) (o : Owner) :
    idOf { s with nh.vtepNexthops := vteps } o = if o = .vtep v then i else s.idOf o := by
  cases o with
  | group e => exact (if_neg Owner.noConfusion).symm
  | vtep w =>
    show vteps.get w = _
    rw [hget]
    by_cases hw : w = v
    · rw [if_pos hw, if_pos (congrArg Owner.vtep hw)]
    · aesop

theorem dropIfUnused_accounted (h : Accounted s ∅) (v : String) :
    Accounted (s.dropIfUnused env v) ∅ := by
  unfold dropIfUnused
  cases hv : s.nh.vtepNexthops.get v with
  | none => exact h
  | some id =>
    dsimp only
    split
    · exact h
    · exact (h.forget (o := .vtep v) hv (idOf_setVteps (get_delete _ v))
        ⟨rfl, rfl, rfl⟩).deleteNexthop (Set.notMem_empty id)

theorem dropUnusedVTEPNexthops_accounted (h : Accounted s ∅) :
    Accounted (s.dropUnusedVTEPNexthops env) ∅ := by
  have hstale : Accounted (s.nh.staleNexthops.foldl (deleteNexthop env)
      { s with nh.staleNexthops := [] }) ∅ :=
    h.takeStale.deleteNexthops h.stale_nodup fun i _ => Set.notMem_empty i
  exact List.foldlRecOn (motive := (Accounted · ∅)) _ _ hstale fun _ hs v _ =>
    dropIfUnused_accounted hs v

variable {old : Option EsGroup}

/-- `dropESGroup` keeps the records, for the group that the ES has. -/
theorem dropESGroup_accounted (h : Accounted s ∅)
    (hold : s.nh.esGroups.get esi = old) : Accounted (s.dropESGroup txt env esi old) ∅ := by
  apply dropUnusedVTEPNexthops_accounted
  cases old with
  | none =>
    -- There is no group, so nothing is forgotten.
    have hsame : Accounted { s with nh.esGroups := s.nh.esGroups.delete esi } ∅ := by
      refine h.congr (fun o => ?_) ⟨rfl, rfl, rfl⟩
      rw [idOf_setGroups (get_delete _ esi)]
      split
      next ho => rw [ho]; show none = (s.nh.esGroups.get esi).map EsGroup.id; rw [hold]; rfl
      next => rfl
    exact hsame.frame (syncESMACs_kept esi).toFdbFrame
  | some g =>
    have hmoved := h.forget (idOf_group hold) (idOf_setGroups (get_delete _ esi)) ⟨rfl, rfl, rfl⟩
    exact (hmoved.frame (syncESMACs_kept esi).toFdbFrame).deleteNexthop (Set.notMem_empty _)

/-! ### New IDs -/

section

variable (h : Accounted s X) (hroom : s.nh.lastNexthopID.toNat + 1 < 2 ^ 32)
include h hroom

/-- A new ID is not recorded, as long as the counter does not wrap. -/
theorem nextNexthopID_fresh :
    serial s.nextNexthopID.1 = s.nh.lastNexthopID.toNat + 1 ∧
      ¬ (s.Recorded s.nextNexthopID.1 ∨ s.nextNexthopID.1 ∈ X) := by
  have hserial : serial s.nextNexthopID.1 = s.nh.lastNexthopID.toNat + 1 := by
    show (nhIDBase + (s.nh.lastNexthopID + 1) - nhIDBase).toNat = _
    rw [BitVec.add_comm, BitVec.add_sub_cancel]
    exact Nat.mod_eq_of_lt hroom
  refine ⟨hserial, fun hold => ?_⟩
  have := h.bound _ hold
  omega

/-- A new ID has no object yet. -/
theorem nextNexthopID_none : s.kernel.nexthops.get s.nextNexthopID.1 = none := by
  cases hk : s.kernel.nexthops.get s.nextNexthopID.1 with
  | none => rfl
  | some nh => exact absurd (h.kernel _ nh hk) (nextNexthopID_fresh h hroom).2

/-- A new ID is moved to its record. -/
theorem nextNexthopID_accounted :
    s.nextNexthopID.2.nh.lastNexthopID.toNat = s.nh.lastNexthopID.toNat + 1 ∧
      Accounted s.nextNexthopID.2 (insert s.nextNexthopID.1 X) := by
  have hlast : (s.nh.lastNexthopID + 1).toNat = s.nh.lastNexthopID.toNat + 1 := by
    exact Nat.mod_eq_of_lt hroom
  obtain ⟨hserial, hnew⟩ := nextNexthopID_fresh h hroom
  have hown : ∀ o, s.nextNexthopID.2.idOf o = s.idOf o := by
    intro o
    cases o <;> rfl
  have hrec : ∀ i, s.nextNexthopID.2.Recorded i ↔ s.Recorded i := by
    intro i
    rfl
  refine ⟨hlast, ?_, h.stale_nodup, ?_, ?_, ?_, ?_⟩
  · simpa only [hown] using h.inj
  · intro o i ho
    exact h.not_stale o i (hown o ▸ ho)
  · grind [h.moved]
  · intro i hi
    show serial i ≤ (s.nh.lastNexthopID + 1).toNat
    rw [hlast]
    rcases hi with hr | rfl | hi
    · simp_all [Nat.le_succ_of_le, h.bound]
    · exact Nat.le_of_eq hserial
    · exact Nat.le_succ_of_le (h.bound i (.inr hi))
  · intro i nh hi
    rcases h.kernel i nh hi with hr | hi
    · exact .inl ((hrec i).mpr hr)
    · exact .inr (.inr hi)

end

/-- Putting an object under an ID that is recorded or moved. -/
theorem Accounted.call (env : Env) (nh : FdbNexthop) (h : Accounted s X)
    (hid : s.Recorded id ∨ id ∈ X) :
    Accounted (s.nexthopReplace env id nh).2 X := by
  unfold nexthopReplace
  by_cases hf : env.fails s.calls = true
  · rw [call_fails hf]
    exact h.congr (fun o => by cases o <;> rfl) ⟨rfl, rfl, rfl⟩
  · rw [call_works (Bool.eq_false_iff.mpr hf)]
    refine { h with kernel := fun i nh' hi => ?_ }
    rcases get_set_eq_some.mp hi with ⟨rfl, -⟩ | ⟨-, hi⟩
    · exact hid
    · exact h.kernel i nh' hi

/-- A moved ID without an object is given up. -/
theorem Accounted.abandon (h : Accounted s (insert id X))
    (hnone : s.kernel.nexthops.get id = none) :
    Accounted s X := by
  refine ⟨h.inj, h.stale_nodup, h.not_stale, fun i hi => h.moved i (.inr hi),
    fun i hi => h.bound i (hi.imp_right .inr), fun i nh hi => ?_⟩
  rcases h.kernel i nh hi with hr | rfl | hi'
  · exact .inl hr
  · rw [hnone] at hi; cases hi
  · exact .inr hi'

/-- What making nexthops keeps besides the records: the groups and the routes; `n` IDs are used at
    most. -/
structure Grows (n : Nat) (s s' : L2) : Prop where
  esGroups : s'.nh.esGroups = s.nh.esGroups
  type1Paths : s'.type1Paths = s.type1Paths
  last : s'.nh.lastNexthopID.toNat ≤ s.nh.lastNexthopID.toNat + n

theorem Grows.refl (s : L2) : Grows 0 s s := ⟨rfl, rfl, Nat.le_refl _⟩

theorem Grows.trans {m n : Nat} {s1 s2 s3 : L2} (h : Grows m s1 s2) (h' : Grows n s2 s3) :
    Grows (m + n) s1 s3 := by
  refine ⟨h'.esGroups.trans h.esGroups, h'.type1Paths.trans h.type1Paths, ?_⟩
  have := h.last
  have := h'.last
  omega

/-- A new nexthop object under a new ID: on success the ID is moved, on failure it is given up. -/
theorem newNexthop_accounted (env : Env) (nh : FdbNexthop) (h : Accounted s ∅)
    (hroom : s.nh.lastNexthopID.toNat + 1 < 2 ^ 32) :
    ∃ failed s', s.nextNexthopID.2.nexthopReplace env s.nextNexthopID.1 nh = (failed, s') ∧
      Grows 1 s s' ∧ s'.nh.vtepNexthops = s.nh.vtepNexthops ∧
      Accounted s' (if failed then ∅ else insert s.nextNexthopID.1 ∅) := by
  obtain ⟨hlast, hnew⟩ := nextNexthopID_accounted h hroom
  have hle : s.nextNexthopID.2.nh.lastNexthopID.toNat ≤ s.nh.lastNexthopID.toNat + 1 :=
    Nat.le_of_eq hlast
  have hnone := nextNexthopID_none h hroom
  have hcall := Accounted.call env nh hnew (.inr (Set.mem_insert _ _))
  by_cases hf : env.fails s.nextNexthopID.2.calls = true
  · refine ⟨true, _, call_fails hf, ⟨rfl, rfl, hle⟩, rfl, ?_⟩
    exact (hnew.abandon hnone).congr (fun o => by cases o <;> rfl) ⟨rfl, rfl, rfl⟩
  · have hw := Bool.eq_false_iff.mpr hf
    refine ⟨false, _, call_works hw, ⟨rfl, rfl, hle⟩, rfl, ?_⟩
    unfold nexthopReplace at hcall
    rw [call_works hw] at hcall
    exact hcall

theorem vtepNexthopID_accounted (txt : NetText) (env : Env) (v : String) (h : Accounted s ∅)
    (hroom : s.nh.lastNexthopID.toNat + 1 < 2 ^ 32) :
    ∃ r s', s.vtepNexthopID txt env v = (r, s') ∧ Grows 1 s s' ∧ Accounted s' ∅ := by
  unfold vtepNexthopID
  cases hv : s.nh.vtepNexthops.get v with
  | some id => tauto
  | none =>
    obtain ⟨failed, s', hres, hgrow, hvteps, hacc⟩ :=
      newNexthop_accounted env (.vtep (txt.parseIP v)) h hroom
    dsimp only
    rw [hres]
    cases failed with
    | true => exact ⟨none, s', rfl, hgrow, hacc⟩
    | false =>
      refine ⟨some s.nextNexthopID.1, _, rfl, { hgrow with }, ?_⟩
      refine Accounted.record (o := .vtep v) hacc (Set.notMem_empty _) ?_
        (idOf_setVteps fun w => get_set _ v w _) ⟨rfl, rfl, rfl⟩
      show s'.nh.vtepNexthops.get v = none
      rw [hvteps]
      exact hv

theorem memberIDs_accounted (txt : NetText) (env : Env) (vteps : List String) (h : Accounted s ∅)
    (hroom : s.nh.lastNexthopID.toNat + vteps.length < 2 ^ 32) :
    ∃ r s', s.memberIDs txt env vteps = (r, s') ∧ Grows vteps.length s s' ∧ Accounted s' ∅ := by
  induction vteps generalizing s with
  | nil => exact ⟨some [], s, rfl, .refl s, h⟩
  | cons v vteps ih =>
    rw [length_cons] at hroom
    obtain ⟨r, s1, hres, hgrow, h1⟩ := vtepNexthopID_accounted txt env v h (by omega)
    have hlen : 1 + vteps.length = (v :: vteps).length := by rw [length_cons, Nat.add_comm]
    unfold memberIDs
    rw [hres]
    cases r with
    | none =>
      refine ⟨none, s1, rfl, ⟨hgrow.esGroups, hgrow.type1Paths, hgrow.last.trans ?_⟩, h1⟩
      omega
    | some id => grind [hgrow.last, hgrow.trans]

/-- The object of a group is made or changed: on success its ID is recorded with the new VTEPs, on
    failure the group of the ES is the old one. -/
theorem groupReplace_accounted (env : Env) (vteps : List String)
    (members : List NexthopID) (h : Accounted s ∅) (hold : s.nh.esGroups.get esi = old)
    (hroom : s.nh.lastNexthopID.toNat + 1 < 2 ^ 32) :
    ∃ failed s', (s.groupID old).2.nexthopReplace env (s.groupID old).1 (.group members) =
        (failed, s') ∧ s'.nh.esGroups = s.nh.esGroups ∧
      (failed = true → Accounted s' ∅) ∧
      (failed = false → Accounted
        { s' with nh.esGroups := s'.nh.esGroups.set esi ⟨(s.groupID old).1, vteps⟩ } ∅) := by
  cases old with
  | some g =>
    have hcall := Accounted.call env (.group members) h (.inl (.inl ⟨_, idOf_group hold⟩))
    have hgroups : (s.nexthopReplace env g.id (.group members)).2.nh = s.nh := by
      unfold nexthopReplace call
      split <;> rfl
    refine ⟨_, _, rfl, congrArg Nexthops.esGroups hgroups, fun _ => hcall, fun _ => ?_⟩
    -- The group keeps its ID.
    refine hcall.congr (fun o => ?_) ⟨rfl, rfl, rfl⟩
    rw [idOf_setGroups fun e => get_set _ esi e _]
    split
    next ho =>
      rw [ho]
      show some g.id = ((s.nexthopReplace env g.id (.group members)).2.nh.esGroups.get esi).map _
      rw [hgroups, hold]
      rfl
    next => rfl
  | none =>
    obtain ⟨failed, s', hres, hgrow, -, hacc⟩ := newNexthop_accounted env (.group members) h hroom
    refine ⟨failed, s', hres, hgrow.esGroups, ?_, ?_⟩
    · rintro rfl
      exact hacc
    · rintro rfl
      refine Accounted.record (o := .group esi) hacc (Set.notMem_empty _) ?_
        (idOf_setGroups fun e => get_set _ esi e _) ⟨rfl, rfl, rfl⟩
      show (s'.nh.esGroups.get esi).map EsGroup.id = none
      rw [hgrow.esGroups, hold]
      rfl

/-- The group of an ES is made or changed. -/
theorem setESGroup_accounted {vteps : List String} {members : List NexthopID}
    (h : Accounted s ∅) (hold : s.nh.esGroups.get esi = old)
    (hroom : s.nh.lastNexthopID.toNat + 1 < 2 ^ 32) :
    Accounted (s.setESGroup txt env esi old vteps members) ∅ := by
  obtain ⟨failed, s', hres, hgroups, hbad, hgood⟩ :=
    groupReplace_accounted env vteps members h hold hroom
  unfold setESGroup
  dsimp only
  rw [hres]
  cases failed with
  | true => grind [dropESGroup_accounted]
  | false =>
    exact (dropUnusedVTEPNexthops_accounted (hgood rfl)).frame (syncESMACs_kept esi).toFdbFrame

/-- **One segment update** keeps the records, when there are IDs left for all its VTEPs. -/
theorem syncES_accounted (h : Accounted s ∅)
    (hroom : s.nh.lastNexthopID.toNat + (s.activeVTEPs esi).length + 1 < 2 ^ 32) :
    Accounted (s.syncES txt env esi) ∅ := by
  unfold syncES
  dsimp only
  split
  · exact h
  · split
    · exact dropESGroup_accounted h rfl
    · obtain ⟨r, s', hres, hgrow, hacc⟩ :=
        memberIDs_accounted txt env (s.activeVTEPs esi) h (by omega)
      rw [hres]
      have hold : s'.nh.esGroups.get esi = s.nh.esGroups.get esi := by rw [hgrow.esGroups]
      cases r with
      | none => exact dropESGroup_accounted hacc hold
      | some members => grind [setESGroup_accounted, hgrow.last]

/-! ### Teardown -/

/-- The IDs that `removeESState` deletes are those recorded. -/
theorem mem_nexthopIDs {v : Visit} : id ∈ s.nexthopIDs v ↔ s.Recorded id := by
  unfold nexthopIDs Recorded
  simp only [mem_append, mem_filterMap, Visit.mem_keys]
  constructor
  · rintro ((⟨esi, -, hesi⟩ | ⟨w, -, hw⟩) | hst)
    · exact .inl ⟨.group esi, hesi⟩
    · exact .inl ⟨.vtep w, hw⟩
    · exact .inr hst
  · rintro (⟨o, ho⟩ | hst)
    · cases o with
      | group esi =>
        obtain ⟨g, hg, -⟩ := Option.map_eq_some_iff.mp ho
        exact .inl (.inl ⟨esi, ⟨g, hg⟩, ho⟩)
      | vtep w => exact .inl (.inr ⟨w, ⟨id, ho⟩, ho⟩)
    · exact .inr hst

/-- No ID is recorded twice. -/
theorem nodup_nexthopIDs (h : Accounted s X) (v : Visit) : (s.nexthopIDs v).Nodup := by
  have hpart : ∀ {κ : Type} (ks : List κ) (own : κ → Owner), ks.Nodup → Function.Injective own →
      (ks.filterMap fun k => s.idOf (own k)).Nodup := by
    intro κ ks own hks hinj
    induction ks with
    | nil => exact nodup_nil
    | cons k ks ih =>
      obtain ⟨hk, hks⟩ := nodup_cons.mp hks
      rw [filterMap_cons]
      cases hid : s.idOf (own k) with
      | none => exact ih hks
      | some i => grind [h.inj]
  have hgroups := hpart (v.keys s.nh.esGroups) Owner.group (Visit.nodup_keys v _)
    fun _ _ => Owner.group.inj
  have hvteps := hpart (v.keys s.nh.vtepNexthops) Owner.vtep (Visit.nodup_keys v _)
    fun _ _ => Owner.vtep.inj
  refine nodup_append.mpr ⟨nodup_append.mpr ⟨hgroups, hvteps, ?_⟩, h.stale_nodup, ?_⟩
  · rintro i hi _ hi' rfl
    obtain ⟨esi, -, he⟩ := mem_filterMap.mp hi
    obtain ⟨w, -, hw⟩ := mem_filterMap.mp hi'
    exact Owner.noConfusion (h.inj (.group esi) (.vtep w) i he hw)
  · rintro i hi _ hst rfl
    rcases mem_append.mp hi with hi | hi
    · obtain ⟨esi, -, he⟩ := mem_filterMap.mp hi
      exact h.not_stale (.group esi) i he hst
    · obtain ⟨w, -, hw⟩ := mem_filterMap.mp hi
      exact h.not_stale (.vtep w) i hw hst

/-- **`removeESState` with working calls leaves no nexthop behind.** -/
theorem removeESState_nexthops (h : Accounted s ∅) (hw : ∀ n, env.fails n = false)
    (id : NexthopID) :
    (s.removeESState env).kernel.nexthops.get id = none := by
  have hfold : ∀ (ids : List NexthopID) (s : L2) (nh : FdbNexthop),
      (ids.foldl (fun s i => (s.nexthopDel env i).2) s).kernel.nexthops.get id = some nh →
      s.kernel.nexthops.get id = some nh ∧ id ∉ ids := by
    intro ids
    induction ids with
    | nil => exact fun s nh hs => ⟨hs, not_mem_nil⟩
    | cons i ids ih =>
      intro s nh hs
      obtain ⟨hs, hnot⟩ := ih _ nh hs
      have hs : (s.nexthopDel env i).2.kernel.nexthops.get id = some nh := hs
      unfold nexthopDel at hs
      rw [call_works (hw _)] at hs
      obtain ⟨hne, hs⟩ := get_delete_eq_some.mp hs
      exact ⟨hs, not_mem_cons_of_ne_of_not_mem hne hnot⟩
  cases hk : (s.removeESState env).kernel.nexthops.get id with
  | none => rfl
  | some nh =>
    obtain ⟨hold, hnot⟩ := hfold _ s nh hk
    rcases h.kernel id nh hold with hr | hr
    · exact absurd (mem_nexthopIDs.mpr hr) hnot
    · exact absurd hr (Set.notMem_empty id)

end L2

/-! ### Whole runs -/

open L2 (Accounted)

/-- The counter has IDs left for the group of the updated segment and all its VTEPs. -/
def IDsLeft (s : L2) : L2Event → Prop
  | .type1 route vtep singleActive withdraw _ => ∀ esi, esiKey route.esi = some esi →
      s.nh.lastNexthopID.toNat +
        ((s.updateType1 route esi vtep singleActive withdraw).activeVTEPs esi).length + 1 < 2 ^ 32
  | .type2 .. => True

theorem accounted_empty : Accounted .empty ∅ := by
  have hown : ∀ o, L2.idOf .empty o = none := by
    intro o
    cases o <;> rfl
  have hrec : ∀ i, ¬ L2.Recorded .empty i := by
    rintro i (⟨o, ho⟩ | hi)
    · rw [hown] at ho; cases ho
    · exact absurd hi not_mem_nil
  refine ⟨fun o o' i ho => ?_, nodup_nil, fun _ _ _ => not_mem_nil, ?_, ?_, ?_⟩
  · rw [hown] at ho; cases ho
  · grind
  · grind
  · tauto

variable {cfg : Config}

/-- One update keeps the records. -/
theorem l2Step_accounted {txt : NetText} {s s' : L2} {e : L2Event}
    (h : Accounted s ∅) (hleft : IDsLeft s e) (hs : l2Step cfg txt s e = some s') :
    Accounted s' ∅ := by
  cases e with
  | type1 route vtep singleActive withdraw env =>
    cases hs
    unfold L2.handleType1Route
    cases hesi : esiKey route.esi with
    | none => exact h
    | some esi =>
      dsimp only
      split
      · exact h
      · have hacc : Accounted (s.updateType1 route esi vtep singleActive withdraw) ∅ := by
          unfold updateType1
          split <;> exact h.congr (fun o => by cases o <;> rfl) ⟨rfl, rfl, rfl⟩
        have hlast : (s.updateType1 route esi vtep singleActive withdraw).nh = s.nh := by
          unfold updateType1
          split <;> rfl
        refine (syncES_accounted hacc ?_).frame (syncESMACs_kept esi).toFdbFrame
        rw [hlast]
        exact hleft esi hesi
  | type2 route vtep seq sticky router withdraw env =>
    cases hs
    unfold L2.handleType2
    split
    · exact h
    next mac p _ =>
      exact h.frame ((routeType2_frame mac _ _ p).trans (syncType2FDB_kept mac).toFdbFrame)

/-- **Every nexthop is recorded.** After every sequence of updates with any calls failing, as long
    as the ID counter does not wrap: every nexthop object of the overlay is in `esGroups`,
    `vtepNexthops` or `staleNexthops`, no two of these records have the same ID, and `removeESState`
    with working calls leaves no nexthop object behind. -/
theorem nexthops_are_recorded {cfg : Config} {txt : NetText} {s : L2}
    (h : (l2Machine cfg txt).Reaches IDsLeft s) :
    (∀ id nh, s.kernel.nexthops.get id = some nh → ∀ v, id ∈ s.nexthopIDs v) ∧
      (∀ v, (s.nexthopIDs v).Nodup) ∧
      ∀ env : Env, (∀ n, env.fails n = false) →
        ∀ id, (s.removeESState env).kernel.nexthops.get id = none := by
  have hinv : Accounted s ∅ := Machine.Reaches.invariant (I := fun s => Accounted s ∅) h
    accounted_empty
    fun s e s' hi hw hs => l2Step_accounted hi hw hs
  refine ⟨fun id nh hk v => ?_, L2.nodup_nexthopIDs hinv, fun env hw id => ?_⟩
  · grind [hinv.kernel, L2.mem_nexthopIDs.mpr]
  · exact L2.removeESState_nexthops hinv hw id

/-- Two segments. -/
def esiA : Esi := ⟨1, [1]⟩

/-- The second segment. -/
def esiB : Esi := ⟨1, [2]⟩

/-- The announcement of an EAD route. -/
def announceEad (rd : String) (esi : Esi) (tag : Nat) (vtep : String) (env : Env) : L2Event :=
  .type1 ⟨rd, esi, tag⟩ vtep false false env

/-- Segment A gets a group and loses its VTEP while all deletes fail: group and VTEP nexthop are
    still in the kernel, and both are recorded. -/
theorem failedDelete_recorded :
    ∃ s, (l2Machine sampleConfig sampleText).Reaches IDsLeft s ∧
      s.kernel.nexthops.get (nhIDBase + 1) = some (.vtep (some (.ofV4 0x0a000002))) ∧
      nhIDBase + 1 ∈ s.nexthopIDs .stored ∧ (s.nexthopIDs .stored).Nodup ∧
      (s.removeESState .working).kernel.nexthops.get (nhIDBase + 1) = none := by
  let handle := L2.handleType1Route sampleConfig sampleText
  let s₁ := handle .working .empty ⟨"a", esiA, maxET⟩ "10.0.0.2" false false
  let s₂ := handle .working s₁ ⟨"a", esiA, 0⟩ "10.0.0.2" false false
  let s₃ := handle .failing s₂ ⟨"a", esiA, 0⟩ "10.0.0.2" false true
  have hrun : (l2Machine sampleConfig sampleText).Reaches IDsLeft s₃ :=
    .step (a := .type1 ⟨"a", esiA, 0⟩ "10.0.0.2" false true .failing)
      (.step (a := announceEad "a" esiA 0 "10.0.0.2" .working)
        (.step (a := announceEad "a" esiA maxET "10.0.0.2" .working) .start
          (fun esi hesi => by cases hesi; decide +kernel) rfl)
        (fun esi hesi => by cases hesi; decide +kernel) rfl)
      (fun esi hesi => by cases hesi; decide +kernel) rfl
  obtain ⟨hrec, hnodup, hgone⟩ := nexthops_are_recorded hrun
  have hker : s₃.kernel.nexthops.get (nhIDBase + 1) = some (.vtep (some (.ofV4 0x0a000002))) := by
    decide +kernel
  exact ⟨s₃, hrun, hker, hrec _ _ hker .stored, hnodup .stored, hgone .working (fun _ => rfl) _⟩

/-! ### The counter wraps -/

namespace L2

variable {txt : NetText} {env : Env} {s s' : L2} {esi : Esi} {v : String} {id : NexthopID}

theorem usesVtep_iff : s.usesVtep v = true ↔ ∃ e g, s.nh.esGroups.get e = some g ∧ v ∈ g.vteps := by
  unfold usesVtep
  rw [any_eq_true]
  constructor
  · rintro ⟨g, hg, hv⟩
    obtain ⟨e, he⟩ := mem_values.mp hg
    exact ⟨e, g, he, contains_iff_mem.mp hv⟩
  · grind [mem_values.mpr]

theorem activeVTEPs_congr (h : s'.type1Paths = s.type1Paths) (e : Esi) :
    s'.activeVTEPs e = s.activeVTEPs e := by
  unfold activeVTEPs
  rw [h]

/-- Without MACs there is nothing to move. -/
theorem syncESMACs_empty (h : s.type2Paths = ∅) : s.syncESMACs txt env esi = s := by
  unfold syncESMACs
  rw [h]
  rfl

/-- Every VTEP that has a nexthop is in a group. -/
def AllUsed (s : L2) : Prop := ∀ w id, s.nh.vtepNexthops.get w = some id → s.usesVtep w = true

/-- Without failed deletes and unused nexthops there is nothing to drop. -/
theorem dropUnusedVTEPNexthops_used (hstale : s.nh.staleNexthops = []) (hused : AllUsed s) :
    s.dropUnusedVTEPNexthops env = s := by
  have hround : ∀ w, s.dropIfUnused env w = s := by
    intro w
    unfold dropIfUnused
    cases hw : s.nh.vtepNexthops.get w with
    | none => rfl
    | some id => exact if_pos (hused w id hw)
  have hsame : ({ s with nh.staleNexthops := [] } : L2) = s := by rw [← hstale]
  unfold dropUnusedVTEPNexthops
  rw [hstale, hsame]
  exact foldl_fixed' hround _

/-- A segment has got a group with one member, under the next ID. -/
def withNewGroup (s : L2) (esi : Esi) (v : String) (id : NexthopID) : L2 :=
  let gid := nhIDBase + (s.nh.lastNexthopID + 1)
  { s.did (fun k => { k with nexthops := k.nexthops.set gid (.group [id]) }) with
    nh := { s.nh with esGroups := s.nh.esGroups.set esi ⟨gid, [v]⟩
                      lastNexthopID := s.nh.lastNexthopID + 1 } }

/-- **A segment gets its first VTEP** with an EAD-per-EVI route: its group gets the next ID. -/
theorem handleType1Route_newGroup {rd : String} (hw : Works env) (hesi : esiKey esi = some esi)
    (husable : usableType1 cfg txt v = true)
    (hact : (s.updateType1 ⟨rd, esi, 0⟩ esi v false false).activeVTEPs esi = [v])
    (hgroup : s.nh.esGroups.get esi = none)
    (hmem : (s.updateType1 ⟨rd, esi, 0⟩ esi v false false).memberIDs txt env [v] = (some [id], s'))
    (hmacs : s'.type2Paths = ∅) (hstale : s'.nh.staleNexthops = [])
    (hused : AllUsed (s'.withNewGroup esi v id)) :
    s.handleType1Route cfg txt env ⟨rd, esi, 0⟩ v false false = s'.withNewGroup esi v id := by
  have hset : s'.setESGroup txt env esi none [v] [id] =
      ((s'.withNewGroup esi v id).dropUnusedVTEPNexthops env).syncESMACs txt env esi := by
    unfold setESGroup
    dsimp only [nexthopReplace]
    rw [call_did hw]
    rfl
  have hstale' : (s'.withNewGroup esi v id).nh.staleNexthops = [] := hstale
  have hmacs' : (s'.withNewGroup esi v id).type2Paths = ∅ := hmacs
  have hgroup' : (s.updateType1 ⟨rd, esi, 0⟩ esi v false false).nh.esGroups.get esi = none := hgroup
  have hsync : (s.updateType1 ⟨rd, esi, 0⟩ esi v false false).syncES txt env esi =
      s'.withNewGroup esi v id := by
    unfold syncES
    rw [hact, hgroup', if_neg (by simp), if_neg (cons_ne_nil v []), hmem]
    dsimp only
    rw [hset, dropUnusedVTEPNexthops_used hstale' hused, syncESMACs_empty hmacs']
  unfold handleType1Route
  rw [hesi]
  dsimp only
  rw [husable, if_neg (by decide), hsync, syncESMACs_empty hmacs']

/-- The group of a segment goes while another one uses its VTEP. -/
theorem handleType1Route_dropGroup {rd : String} (hw : Works env) (hesi : esiKey esi = some esi)
    (hact : (s.updateType1 ⟨rd, esi, 0⟩ esi v false true).activeVTEPs esi = [])
    (hgroup : s.nh.esGroups.get esi = some ⟨id, [v]⟩) (hmacs : s.type2Paths = ∅)
    (hstale : s.nh.staleNexthops = [])
    (hs' : s' = did { s.updateType1 ⟨rd, esi, 0⟩ esi v false true with
        nh.esGroups := s.nh.esGroups.delete esi }
      fun k => { k with nexthops := k.nexthops.delete id }) (hused : AllUsed s') :
    s.handleType1Route cfg txt env ⟨rd, esi, 0⟩ v false true = s' := by
  let s1 : L2 := { s.updateType1 ⟨rd, esi, 0⟩ esi v false true with
    nh.esGroups := s.nh.esGroups.delete esi }
  have hmacs1 : s1.type2Paths = ∅ := hmacs
  have hdel : s1.deleteNexthop env id = s' := by
    rw [hs']
    unfold deleteNexthop nexthopDel
    rw [call_did hw]
    rfl
  have hstale' : s'.nh.staleNexthops = [] := by rw [hs']; exact hstale
  have hmacs' : s'.type2Paths = ∅ := by rw [hs']; exact hmacs
  have hgroup' : (s.updateType1 ⟨rd, esi, 0⟩ esi v false true).nh.esGroups.get esi =
      some ⟨id, [v]⟩ := hgroup
  have hsync : (s.updateType1 ⟨rd, esi, 0⟩ esi v false true).syncES txt env esi = s' := by
    unfold syncES
    rw [hact, hgroup']
    show ((s1.syncESMACs txt env esi).deleteNexthop env id).dropUnusedVTEPNexthops env = _
    rw [syncESMACs_empty hmacs1, hdel, dropUnusedVTEPNexthops_used hstale' hused]
  unfold handleType1Route
  rw [hesi]
  show (syncES _ _ _ _).syncESMACs txt env esi = _
  rw [hsync, syncESMACs_empty hmacs']

/-- The same routes and records later, except for the counter. -/
def later (s : L2) (last : BitVec 32) (calls : Nat) (k : KernelTables) (seen : List KernelTables) :
    L2 :=
  { s with nh.lastNexthopID := last, calls := calls, kernel := k, seen := seen }

theorem later_self (s : L2) : s.later s.nh.lastNexthopID s.calls s.kernel s.seen = s := rfl

/-- A new group leaves no VTEP unused. -/
theorem allUsed_withNewGroup (hgroup : s.nh.esGroups.get esi = none)
    (h : ∀ w i, s.nh.vtepNexthops.get w = some i → w ≠ v → s.usesVtep w = true) :
    AllUsed (s.withNewGroup esi v id) := by
  intro w i hi
  by_cases hw : w = v
  · exact usesVtep_iff.mpr ⟨esi, _, get_set_self _ _ _, hw ▸ mem_singleton_self w⟩
  · obtain ⟨e, g, hg, hmem⟩ := usesVtep_iff.mp (h w i hi hw)
    have he : e ≠ esi := by
      rintro rfl
      rw [hgroup] at hg
      cases hg
    exact usesVtep_iff.mpr ⟨e, g, (get_set_of_ne he).trans hg, hmem⟩

/-- A segment that only needs its EAD-per-EVI route: its VTEP has a nexthop, as that of another
    segment. -/
structure Awaits (b : L2) (rd : String) (esi : Esi) (v : String) (id : NexthopID) : Prop where
  key : esiKey esi = some esi
  route : b.type1Paths.get ⟨rd, esi, 0⟩ = none
  without : b.activeVTEPs esi = []
  active : (b.updateType1 ⟨rd, esi, 0⟩ esi v false false).activeVTEPs esi = [v]
  macs : b.type2Paths = ∅
  group : b.nh.esGroups.get esi = none
  nexthop : b.nh.vtepNexthops.get v = some id
  stale : b.nh.staleNexthops = []
  used : AllUsed b

/-- **One ID is used up** while the segment comes and goes. -/
theorem Awaits.flap {b : L2} {rd : String} (h : Awaits b rd esi v id) (cfg : Config) (txt : NetText)
    (env : Env) (hw : Works env) (husable : usableType1 cfg txt v = true) (last : BitVec 32)
    (calls : Nat) (k : KernelTables)
    (seen : List KernelTables) :
    ∃ calls' k' seen', ((b.later last calls k seen).handleType1Route cfg txt env ⟨rd, esi, 0⟩ v
        false false).handleType1Route cfg txt env ⟨rd, esi, 0⟩ v false true =
        b.later (last + 1) calls' k' seen' ∧
      ∀ i ip, k'.nexthops.get i = some (.vtep ip) → k.nexthops.get i = some (.vtep ip) := by
  let s := (b.later last calls k seen).updateType1 ⟨rd, esi, 0⟩ esi v false false
  let gid := nhIDBase + (last + 1)
  have hup : (b.later last calls k seen).handleType1Route cfg txt env ⟨rd, esi, 0⟩ v false false =
      s.withNewGroup esi v id := by
    refine handleType1Route_newGroup hw h.key husable h.active h.group ?_ h.macs h.stale
      (allUsed_withNewGroup h.group fun w i hi _ => h.used w i hi)
    have hv : s.nh.vtepNexthops.get v = some id := h.nexthop
    unfold memberIDs vtepNexthopID
    rw [hv]
    rfl
  -- The records are as before; only the counter has moved.
  have hgroups : (b.nh.esGroups.set esi ⟨gid, [v]⟩).delete esi = b.nh.esGroups :=
    delete_set_self h.group
  have hpaths : (b.type1Paths.set ⟨rd, esi, 0⟩ ⟨esi, v, false, false⟩).delete ⟨rd, esi, 0⟩ =
      b.type1Paths := delete_set_self h.route
  let k1 : KernelTables := { k with nexthops := k.nexthops.set gid (.group [id]) }
  let k2 : KernelTables := { k with nexthops := k1.nexthops.delete gid }
  refine ⟨calls + 1 + 1, k2, k2 :: k1 :: seen, ?_, fun i ip hi => ?_⟩
  · rw [hup]
    refine handleType1Route_dropGroup hw h.key ?_ (get_set_self _ _ _) h.macs h.stale ?_ h.used
    · rw [activeVTEPs_congr (s := b) hpaths]
      exact h.without
    · have hset : b.later (last + 1) (calls + 1 + 1) k2 (k2 :: k1 :: seen) = { b with
          type1Paths := (b.type1Paths.set ⟨rd, esi, 0⟩ ⟨esi, v, false, false⟩).delete ⟨rd, esi, 0⟩
          nh := { b.nh with esGroups := (b.nh.esGroups.set esi ⟨gid, [v]⟩).delete esi
                            lastNexthopID := last + 1 }
          calls := calls + 1 + 1, kernel := k2, seen := k2 :: k1 :: seen } := by
        rw [hgroups, hpaths]
        rfl
      rw [hset]
      rfl
  · grind

end L2

/-- The third segment. -/
def esiC : Esi := ⟨1, [3]⟩

/-- Segment A has a group with one VTEP; segments B and C only need their EAD-per-EVI route, and
    the VTEP of segment C is that of A. -/
def threeSegments : L2 :=
  let handle := L2.handleType1Route sampleConfig sampleText .working
  let s := handle .empty ⟨"a", esiA, maxET⟩ "10.0.0.2" false false
  let s := handle s ⟨"a", esiA, 0⟩ "10.0.0.2" false false
  let s := handle s ⟨"b", esiB, maxET⟩ "10.0.0.3" false false
  handle s ⟨"c", esiC, maxET⟩ "10.0.0.2" false false

theorem threeSegments_awaits : threeSegments.Awaits "c" esiC "10.0.0.2" (nhIDBase + 1) where
  key := rfl
  route := by decide +kernel
  without := by decide +kernel
  active := by decide +kernel
  macs := AList.ext (by decide +kernel)
  group := by decide +kernel
  nexthop := by decide +kernel
  stale := by decide +kernel
  used := by
    have hused : ∀ w ∈ threeSegments.nh.vtepNexthops.keys, threeSegments.usesVtep w = true := by
      decide +kernel
    exact fun w id hw => hused w (mem_keys_iff.mpr ⟨id, hw⟩)

section Wrap

variable {ok : L2 → L2Event → Prop}

/-- Any number of IDs can be used up, and the VTEP of segment A keeps the first one. -/
theorem later_reaches (hok : ∀ s route v withdraw, ok s (.type1 route v false withdraw .working))
    (n : Nat) : ∃ calls k seen, (l2Machine sampleConfig sampleText).Reaches ok
        (threeSegments.later (threeSegments.nh.lastNexthopID + BitVec.ofNat 32 n) calls k seen) ∧
      ∀ id, k.nexthops.get id = some (.vtep (some (.ofV4 0x0a000002))) → id = nhIDBase + 1 := by
  induction n with
  | zero =>
    have hrun : (l2Machine sampleConfig sampleText).Reaches ok threeSegments :=
      .step (a := announceEad "c" esiC maxET "10.0.0.2" .working)
        (.step (a := announceEad "b" esiB maxET "10.0.0.3" .working)
          (.step (a := announceEad "a" esiA 0 "10.0.0.2" .working)
            (.step (a := announceEad "a" esiA maxET "10.0.0.2" .working) .start
              (hok ..) rfl) (hok ..) rfl) (hok ..) rfl) (hok ..) rfl
    refine ⟨threeSegments.calls, threeSegments.kernel, threeSegments.seen, ?_, fun id hid => ?_⟩
    · rw [BitVec.add_zero, L2.later_self]
      exact hrun
    · have hmem : id ∈ threeSegments.kernel.nexthops.keys := mem_keys_iff.mpr ⟨_, hid⟩
      rcases mem_cons.mp hmem with rfl | hmem
      · cases hid
      · exact mem_singleton.mp hmem
  | succ n ih =>
    obtain ⟨calls, k, seen, hrun, hfirst⟩ := ih
    obtain ⟨calls', k', seen', heq, hkept⟩ := threeSegments_awaits.flap sampleConfig
      sampleText .working (fun _ => rfl) (by decide +kernel)
      (threeSegments.nh.lastNexthopID + BitVec.ofNat 32 n) calls k seen
    refine ⟨calls', k', seen', ?_, fun id hid => hfirst id (hkept id _ hid)⟩
    rw [BitVec.ofNat_add, ← BitVec.add_assoc]
    exact .step (a := .type1 ⟨"c", esiC, 0⟩ "10.0.0.2" false true .working)
      (.step (a := .type1 ⟨"c", esiC, 0⟩ "10.0.0.2" false false .working) hrun (hok ..) rfl)
      (hok ..) (congrArg some heq)

/-- **The counter wraps.** With working calls a run gives the VTEP of segment B the ID of the VTEP
    of segment A, whose object is gone. -/
theorem wrapped_reaches (ok : L2 → L2Event → Prop)
    (hok : ∀ s route v withdraw, ok s (.type1 route v false withdraw .working)) :
    ∃ s, (l2Machine sampleConfig sampleText).Reaches ok s ∧
      s.nh = ⟨threeSegments.nh.esGroups.set esiB ⟨nhIDBase + 2, ["10.0.0.3"]⟩,
        threeSegments.nh.vtepNexthops.set "10.0.0.3" (nhIDBase + 1), [], 2⟩ ∧
      ∀ id, s.kernel.nexthops.get id ≠ some (.vtep (some (.ofV4 0x0a000002))) := by
  obtain ⟨calls, k, seen, hrun, hfirst⟩ := later_reaches hok (2 ^ 32 - 2)
  let s := (threeSegments.later 0 calls k seen).updateType1 ⟨"b", esiB, 0⟩ esiB "10.0.0.3"
    false false
  let s1 := s.nextNexthopID.2.did fun k =>
    { k with nexthops := k.nexthops.set (nhIDBase + 1) (.vtep (sampleText.parseIP "10.0.0.3")) }
  let s2 : L2 := { s1 with nh.vtepNexthops := s.nh.vtepNexthops.set "10.0.0.3" (nhIDBase + 1) }
  have hgroup : threeSegments.nh.esGroups.get esiB = none := by decide +kernel
  have hact : s.activeVTEPs esiB = ["10.0.0.3"] := by
    have hpaths : s.type1Paths = (threeSegments.updateType1 ⟨"b", esiB, 0⟩ esiB "10.0.0.3" false
      false).type1Paths := rfl
    rw [L2.activeVTEPs_congr hpaths]
    decide +kernel
  have hmem : s.memberIDs sampleText .working ["10.0.0.3"] = (some [nhIDBase + 1], s2) := by
    rfl
  have hused : (s2.withNewGroup esiB "10.0.0.3" (nhIDBase + 1)).AllUsed :=
    L2.allUsed_withNewGroup hgroup fun w i hi hw =>
      threeSegments_awaits.used w i ((get_set_of_ne hw).symm.trans hi)
  have hB : (threeSegments.later 0 calls k seen).handleType1Route sampleConfig sampleText .working
      ⟨"b", esiB, 0⟩ "10.0.0.3" false false = s2.withNewGroup esiB "10.0.0.3" (nhIDBase + 1) :=
    L2.handleType1Route_newGroup (fun _ => rfl) rfl (by decide +kernel) hact hgroup hmem
      threeSegments_awaits.macs threeSegments_awaits.stale hused
  refine ⟨s2.withNewGroup esiB "10.0.0.3" (nhIDBase + 1), ?_, ?_, ?_⟩
  · rw [← hB]
    exact .step (a := announceEad "b" esiB 0 "10.0.0.3" .working) hrun (hok ..) rfl
  · rfl
  · intro id hid
    have hid : ((k.nexthops.set (nhIDBase + 1) (.vtep (sampleText.parseIP "10.0.0.3"))).set _
        (.group _)).get id = some (.vtep (some (.ofV4 0x0a000002))) := hid
    have hip : sampleText.parseIP "10.0.0.3" ≠ some (.ofV4 0x0a000002) := by decide +kernel
    grind

end Wrap

/-- **Two VTEPs share an ID.** After 2³² allocations the counter is where it was, and the nexthop of
    the VTEP of segment B gets the ID that the VTEP of segment A has. -/
theorem wrappedID_shared :
    ∃ s, (l2Machine sampleConfig sampleText).Reachable s ∧
      s.nh.vtepNexthops.get "10.0.0.2" = some (nhIDBase + 1) ∧
      s.nh.vtepNexthops.get "10.0.0.3" = some (nhIDBase + 1) ∧ ¬ (s.nexthopIDs .stored).Nodup := by
  obtain ⟨s, hrun, hnh, -⟩ := wrapped_reaches (fun _ _ => True) fun _ _ _ _ => trivial
  refine ⟨s, hrun, ?_, ?_, ?_⟩
  · rw [hnh]
    decide +kernel
  · rw [hnh]
    decide +kernel
  · unfold L2.nexthopIDs
    rw [hnh]
    decide +kernel

end Booty.Gobgp
