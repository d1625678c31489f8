import Booty.Gobgp.Nexthops

namespace Booty.Gobgp

open Booty.Lib List Option GoMap L2 Type2Path

/-!
# Groups and FDB entries follow the routes

With working kernel calls every update leaves the nexthop groups, the VTEP nexthops and the FDB
entries as the live routes want them, and no kernel state on the way has a dangling reference.
`Wired s X` relates the records to the kernel objects and holds after every kernel call; `Settled`
says of a MAC that its FDB entry is the wanted one.

* `bestType2Path_location` — with a unique best route the order of the loop does not matter.
* `syncESMACs_settles` — the MACs of a segment follow it.
* `syncES_synced` — the group of a segment follows its active VTEPs.
* `segments_in_sync` — the whole law over runs.
* `wrappedID_replaces` — after 2³² allocations a nexthop replaces that of another VTEP.
-/

/-! ### The best route of a MAC -/

/-- Two routes that give the same FDB entry and rank alike. -/
structure SameLocation (p q : Type2Path) : Prop where
  vtep : p.vtep = q.vtep
  seq : p.seq = q.seq
  sticky : p.sticky = q.sticky
  esi : p.esi = q.esi

variable {p q : Type2Path}

theorem SameLocation.symm (h : SameLocation p q) : SameLocation q p :=
  ⟨h.vtep.symm, h.seq.symm, h.sticky.symm, h.esi.symm⟩

variable {r : Type2Path}

theorem SameLocation.trans (h : SameLocation p q) (h' : SameLocation q r) : SameLocation p r :=
  ⟨h.vtep.trans h'.vtep, h.seq.trans h'.seq, h.sticky.trans h'.sticky, h.esi.trans h'.esi⟩

theorem SameLocation.better_left (h : SameLocation p q) : p.better r = q.better r := by
  unfold better
  rw [h.vtep, h.seq, h.sticky]

theorem SameLocation.better_right (h : SameLocation p q) : r.better p = r.better q := by
  unfold better
  rw [h.vtep, h.seq, h.sticky]

variable {b : Type2Path}

/-- **The comparison is asymmetric**, in spite of the serial numbers. -/
theorem better_asymm {a : Type2Path} (h : a.better b = true) : b.better a = false := by
  unfold better at h ⊢
  by_cases hst : a.sticky = b.sticky
  · have hne : (a.sticky != b.sticky) = false := by rw [hst]; exact bne_self_eq_false _
    have hne' : (b.sticky != a.sticky) = false := by rw [hst]; exact bne_self_eq_false _
    rw [hne, if_neg Bool.false_ne_true] at h
    rw [hne', if_neg Bool.false_ne_true]
    by_cases hd : (a.seq - b.seq).toInt = 0
    · -- The sequence numbers are the same.
      grind
    · rw [if_pos hd, decide_eq_true_eq] at h
      have hmin : a.seq - b.seq ≠ BitVec.intMin 32 := by
        intro hc
        rw [hc] at h
        exact absurd h (by decide)
      have hneg : (b.seq - a.seq).toInt = -(a.seq - b.seq).toInt := by
        have hflip : b.seq - a.seq = -(a.seq - b.seq) := by bv_omega
        rw [hflip, BitVec.toInt_neg_of_ne_intMin hmin]
      rw [if_pos (by omega)]
      simp only [decide_eq_false_iff_not]
      omega
  · grind

/-- A route that beats all others, up to its location, wins every loop that meets it. -/
theorem foldl_pickBetter (l : List Type2Path) (acc : Option Type2Path)
    (hall : ∀ q ∈ l, SameLocation p q ∨ p.better q = true)
    (hacc : ∀ a, acc = some a → SameLocation p a ∨ p.better a = true)
    (hp : p ∈ l ∨ ∃ a, acc = some a ∧ SameLocation p a) :
    ∃ b, l.foldl pickBetter acc = some b ∧ SameLocation p b := by
  induction l generalizing acc with
  | nil => grind
  | cons q l ih =>
    have hl : ∀ r ∈ l, SameLocation p r ∨ p.better r = true :=
      fun r hr => hall r (mem_cons_of_mem q hr)
    by_cases hwon : ∃ a, acc = some a ∧ SameLocation p a
    · -- A route at the location of `p` is never replaced.
      obtain ⟨a, rfl, ha⟩ := hwon
      have hq : q.better a = false := by
        rw [← ha.better_right]
        rcases hall q mem_cons_self with hs | hb
        · rw [← hs.better_left]
          cases hpp : p.better p with
          | false => rfl
          | true => exact absurd hpp (by rw [better_asymm hpp]; exact Bool.false_ne_true)
        · exact better_asymm hb
      have hkeep : pickBetter (some a) q = some a := by
        show (if q.better a then some q else some a) = some a
        rw [hq]
        rfl
      rw [foldl_cons, hkeep]
      exact ih _ hl (fun b hb => by cases hb; exact .inl ha) (.inr ⟨a, rfl, ha⟩)
    · have hmem : p ∈ q :: l := hp.resolve_right hwon
      have hacc' : ∀ a, pickBetter acc q = some a → SameLocation p a ∨ p.better a = true := by
        intro a ha
        unfold pickBetter at ha
        cases acc with
        | none => cases ha; exact hall _ mem_cons_self
        | some c => grind
      refine ih _ hl hacc' ?_
      rcases mem_cons.mp hmem with rfl | hmem
      · -- The turn of `p` itself: it beats what was the best so far.
        right
        cases acc with
        | none => exact ⟨p, rfl, ⟨rfl, rfl, rfl, rfl⟩⟩
        | some c =>
          rcases hacc c rfl with hs | hb
          · exact absurd ⟨c, rfl, hs⟩ hwon
          · refine ⟨p, ?_, ⟨rfl, rfl, rfl, rfl⟩⟩
            show (if p.better c then some p else some c) = some p
            rw [if_pos hb]
      · exact .inl hmem

namespace L2

variable {txt : NetText} {env : Env} {s s' : L2} {X : Set NexthopID} {esi : Esi} {mac m : Mac}
  {v w : Visit}

/-- Every MAC with live routes has one that beats all others, up to its location. -/
def UniqueBest (s : L2) : Prop :=
  ∀ mac k q, (s.pathsOf mac).get k = some q → ∃ k p, (s.pathsOf mac).get k = some p ∧
    ∀ k' q, (s.pathsOf mac).get k' = some q → SameLocation p q ∨ p.better q = true

/-- **With a unique best route the order of the loop does not matter.** -/
theorem bestType2Path_location (hu : UniqueBest s) {b' : Type2Path}
    (hb : s.bestType2Path v mac = some b) (hb' : s.bestType2Path w mac = some b') :
    SameLocation b b' := by
  have hne : s.loopPaths v mac ≠ [] := by
    intro hnil
    have hb : (s.loopPaths v mac).foldl pickBetter none = some b := hb
    rw [hnil] at hb
    cases hb
  obtain ⟨q, hq⟩ := exists_mem_of_ne_nil _ hne
  obtain ⟨k, hk⟩ := mem_loopPaths.mp hq
  obtain ⟨k', p, hp, hall⟩ := hu mac k q hk
  have hwins : ∀ u b, s.bestType2Path u mac = some b → SameLocation p b := by
    intro u b hb
    obtain ⟨c, hc, hsame⟩ := foldl_pickBetter (s.loopPaths u mac) none
      (fun q hq => (mem_loopPaths.mp hq).elim fun k hk => hall k q hk)
      (fun a ha => by cases ha) (.inl (mem_loopPaths.mpr ⟨k', hp⟩))
    have hb : (s.loopPaths u mac).foldl pickBetter none = some b := hb
    rw [hc] at hb
    cases hb
    exact hsame
  exact (hwins v b hb).symm.trans (hwins w b' hb')

theorem bestType2Path_congr (h : s'.pathsOf mac = s.pathsOf mac) :
    s'.bestType2Path v mac = s.bestType2Path v mac := by
  unfold bestType2Path
  rw [h]

/-! ### What an FDB entry depends on -/

theorem wantedFDB_location {b' : Type2Path} (h : SameLocation b b') :
    s.wantedFDB txt (some b) = s.wantedFDB txt (some b') := by
  unfold wantedFDB
  dsimp only
  rw [h.vtep, h.esi]

/-- The wanted entry does not depend on the order of the loop. -/
theorem wantedFDB_visit (hu : UniqueBest s) (v w : Visit) :
    s.wantedFDB txt (s.bestType2Path v mac) = s.wantedFDB txt (s.bestType2Path w mac) := by
  cases hv : s.bestType2Path v mac with
  | none =>
    rw [bestType2Path_none.mpr (bestType2Path_none.mp hv)]
  | some b =>
    cases hw : s.bestType2Path w mac with
    | none => grind [bestType2Path_none.mpr, bestType2Path_none.mp]
    | some b' => exact wantedFDB_location (bestType2Path_location hu hv hw)

theorem wantedFDB_frame (h : FdbFrame s s') (best : Option Type2Path) :
    s'.wantedFDB txt best = s.wantedFDB txt best := by
  unfold wantedFDB esSingleActive activeVTEPs
  rw [h.nh, h.type1Paths]

variable {id : NexthopID}

/-- A wanted group is the group of a segment. -/
theorem wantedFDB_group {best : Option Type2Path} (h : s.wantedFDB txt best = some (.group id)) :
    ∃ esi g, s.nh.esGroups.get esi = some g ∧ g.id = id := by
  unfold wantedFDB at h
  split at h
  · cases h
  · grind

/-! ### References in the kernel -/

/-- No FDB entry refers to a missing group and no group to a missing VTEP nexthop. -/
structure Safe (k : KernelTables) : Prop where
  fdb : ∀ mac g, k.fdb.get mac = some (.group g) → ∃ ids, k.nexthops.get g = some (.group ids)
  members : ∀ g ids, k.nexthops.get g = some (.group ids) →
    ∀ i ∈ ids, ∃ ip, k.nexthops.get i = some (.vtep ip)

variable {k : KernelTables}

/-- Writing one entry keeps the references, when the group it names is there. -/
theorem Safe.writeFdb (h : Safe k) {fdb : GoMap Mac FdbDst} {want : Option FdbDst}
    (hget : ∀ m, fdb.get m = if m = mac then want else k.fdb.get m)
    (hwant : ∀ g, want = some (.group g) → ∃ ids, k.nexthops.get g = some (.group ids)) :
    Safe { k with fdb := fdb } := by
  refine ⟨fun m g hm => ?_, h.members⟩
  have hm : fdb.get m = some (.group g) := hm
  rw [hget] at hm
  split at hm
  · exact hwant g hm
  · exact h.fdb m g hm

/-- The recorded FDB entries are those of the kernel, which is and was always safe. -/
structure FdbOk (s : L2) : Prop where
  safe : Safe s.kernel
  mirror : ∀ m, s.type2FDB.get m = s.kernel.fdb.get m
  seen : ∀ k ∈ s.seen, Safe k

theorem FdbOk.congr (h : FdbOk s) (hkernel : s'.kernel = s.kernel)
    (hfdb : s'.type2FDB = s.type2FDB) (hseen : s'.seen = s.seen) : FdbOk s' := by
  refine ⟨hkernel ▸ h.safe, ?_, hseen ▸ h.seen⟩
  rw [hkernel, hfdb]
  exact h.mirror

theorem did_seen {f : KernelTables → KernelTables} (h : ∀ k ∈ s.seen, Safe k)
    (hf : Safe (f s.kernel)) : ∀ k ∈ (s.did f).seen, Safe k := by
  intro k hk
  rcases mem_cons.mp hk with rfl | hk
  · exact hf
  · exact h k hk

/-- What moving the FDB entry of a MAC does. -/
structure Moved (s s' : L2) (mac : Mac) (want : Option FdbDst) : Prop where
  ok : FdbOk s'
  entry : ∀ m, s'.kernel.fdb.get m = if m = mac then want else s.kernel.fdb.get m

/-- **One entry is written**, to the kernel and to the records alike. -/
theorem writeFDB_moved (h : FdbOk s) {f : GoMap Mac FdbDst → GoMap Mac FdbDst}
    {want : Option FdbDst}
    (hget : ∀ t m, (f t).get m = if m = mac then want else t.get m)
    (hwant : ∀ g, want = some (.group g) → ∃ ids, s.kernel.nexthops.get g = some (.group ids)) :
    Moved s { s.did (fun k => { k with fdb := f k.fdb }) with type2FDB := f s.type2FDB }
      mac want := by
  have hsafe := h.safe.writeFdb (hget s.kernel.fdb) hwant
  refine ⟨⟨hsafe, fun m => ?_, forall_mem_cons.mpr ⟨hsafe, h.seen⟩⟩, hget s.kernel.fdb⟩
  show (f s.type2FDB).get m = (f s.kernel.fdb).get m
  rw [hget, hget, h.mirror]

theorem deleteType2FDB_moved (hw : Works env) (h : FdbOk s) (mac : Mac) :
    Moved s (s.deleteType2FDB env mac) mac none := by
  unfold deleteType2FDB fdbDel
  rw [call_did hw]
  exact writeFDB_moved h (fun t m => get_delete t mac m) fun g hg => by cases hg

theorem placeFDB_moved (hw : Works env) (h : FdbOk s) {d : FdbDst}
    (hd : ∀ g, d = .group g → ∃ ids, s.kernel.nexthops.get g = some (.group ids)) :
    Moved s (s.placeFDB env mac (some d)) mac (some d) := by
  unfold placeFDB fdbSet
  dsimp only
  rw [call_did hw]
  exact writeFDB_moved h (fun t m => get_set t mac m d) fun g hg => hd g (some.inj hg)

variable {s₁ s₂ s₃ : L2}

/-- Making two moves of one entry. -/
theorem Moved.trans {want want' : Option FdbDst} (h : Moved s₁ s₂ mac want)
    (h' : Moved s₂ s₃ mac want') : Moved s₁ s₃ mac want' := by
  refine ⟨h'.ok, fun m => ?_⟩
  rw [h'.entry, h.entry]
  split <;> rfl

/-- **The FDB entry of a MAC is moved.** -/
theorem moveFDB_moved (hw : Works env) (h : FdbOk s) (mac : Mac) (want : Option FdbDst)
    (htarget : ∀ g, want = some (.group g) → ∃ ids, s.kernel.nexthops.get g = some (.group ids)) :
    Moved s (s.moveFDB env mac (s.type2FDB.get mac) want) mac want := by
  -- Looking up the link changes nothing.
  have hlink : Moved s (s.did id) mac (s.kernel.fdb.get mac) := by
    refine ⟨⟨h.safe, h.mirror, did_seen h.seen h.safe⟩, fun m => ?_⟩
    split
    next hm => rw [hm]; rfl
    next => rfl
  unfold moveFDB linkByName
  rw [call_did hw]
  dsimp only
  rw [if_neg Bool.false_ne_true]
  split
  next =>
    have hdel := hlink.trans (deleteType2FDB_moved hw hlink.ok mac)
    cases want with
    | none => exact hdel
    | some d =>
      refine hdel.trans (placeFDB_moved hw hdel.ok fun g hg => ?_)
      rw [(deleteType2FDB_kept mac).nexthops]
      exact htarget g (congrArg some hg)
  next hclear =>
    cases want with
    | none =>
      -- Nothing was installed, else the entry would be cleared.
      have hnone : s.kernel.fdb.get mac = none := by
        rw [← h.mirror]
        cases hi : s.type2FDB.get mac with
        | none => rfl
        | some d => rw [hi] at hclear; exact absurd rfl hclear
      rw [hnone] at hlink
      exact hlink
    | some d =>
      exact hlink.trans (placeFDB_moved hw hlink.ok fun g hg => htarget g (congrArg some hg))

/-! ### MACs follow their best route -/

/-- The FDB entry of a MAC is the one that its best route wants. -/
def Settled (txt : NetText) (s : L2) (m : Mac) : Prop :=
  ∀ v, s.kernel.fdb.get m = s.wantedFDB txt (s.bestType2Path v m)

/-- Every recorded group is in the kernel. -/
def GroupsThere (s : L2) : Prop :=
  ∀ esi g, s.nh.esGroups.get esi = some g → ∃ ids, s.kernel.nexthops.get g.id = some (.group ids)

theorem GroupsThere.frame (h : GroupsThere s) (hf : FdbFrame s s') : GroupsThere s' := by
  intro esi g hg
  rw [hf.nexthops]
  exact h esi g (by rw [← hf.nh]; exact hg)

/-- A step that keeps the routes and the entry of a MAC keeps it settled. -/
theorem Settled.congr (h : Settled txt s m) (hf : FdbFrame s s')
    (hpaths : s'.pathsOf m = s.pathsOf m)
    (hentry : s'.kernel.fdb.get m = s.kernel.fdb.get m) : Settled txt s' m := by
  intro v
  rw [hentry, wantedFDB_frame hf, bestType2Path_congr hpaths]
  exact h v

/-- **The FDB entry of a MAC follows its best route**, and no other entry changes. -/
theorem syncType2FDB_settles (txt : NetText) (hw : Works env) (h : FdbOk s)
    (hgroups : GroupsThere s)
    (hu : UniqueBest s) (mac : Mac) :
    FdbOk (s.syncType2FDB txt env mac) ∧ Settled txt (s.syncType2FDB txt env mac) mac ∧
      ∀ m, Settled txt s m → Settled txt (s.syncType2FDB txt env mac) m := by
  -- What is wanted does not depend on the loop that found it.
  let best := s.bestType2Path (env.visit s.calls) mac
  have hsettle : ∀ s', FdbKept s s' → s'.kernel.fdb.get mac = s.wantedFDB txt best →
      Settled txt s' mac := by
    intro s' hk hentry v
    rw [hentry, wantedFDB_frame hk.toFdbFrame, bestType2Path_congr (hk.pathsOf mac)]
    exact wantedFDB_visit hu _ v
  let s₁ := s.forgetEmpty mac best
  have hkept : FdbKept s s₁ := forgetEmpty_kept mac _
  have hsame : s₁.kernel = s.kernel ∧ s₁.type2FDB = s.type2FDB ∧ s₁.seen = s.seen := by
    show (s.forgetEmpty mac _).kernel = _ ∧ (s.forgetEmpty mac _).type2FDB = _ ∧
      (s.forgetEmpty mac _).seen = _
    unfold forgetEmpty
    split <;> exact ⟨rfl, rfl, rfl⟩
  have h1 : FdbOk s₁ := h.congr hsame.1 hsame.2.1 hsame.2.2
  have hwant : s₁.wantedFDB txt best = s.wantedFDB txt best := wantedFDB_frame hkept.toFdbFrame _
  have hdef : s.syncType2FDB txt env mac =
      if s₁.wantedFDB txt best = s₁.type2FDB.get mac then s₁
      else s₁.moveFDB env mac (s₁.type2FDB.get mac) (s₁.wantedFDB txt best) := rfl
  rw [hdef]
  split
  next heq =>
    refine ⟨h1, hsettle s₁ hkept ?_, fun m hm => hm.congr hkept.toFdbFrame (hkept.pathsOf m) ?_⟩
    · rw [← h1.mirror, ← heq, hwant]
    · rw [hsame.1]
  next =>
    have hmoved := moveFDB_moved hw h1 mac (s₁.wantedFDB txt best) (by
      intro id hid
      obtain ⟨esi, g, hg, rfl⟩ := wantedFDB_group hid
      exact hgroups.frame hkept.toFdbFrame esi g hg)
    have hk : FdbKept s (s₁.moveFDB env mac (s₁.type2FDB.get mac) (s₁.wantedFDB txt best)) :=
      hkept.trans (moveFDB_kept mac _ _)
    have hmac := hsettle _ hk (by rw [hmoved.entry, if_pos rfl, hwant])
    refine ⟨hmoved.ok, hmac, fun m hm => ?_⟩
    by_cases hmm : m = mac
    · rw [hmm]
      exact hmac
    · refine hm.congr hk.toFdbFrame (hk.pathsOf m) ?_
      rw [hmoved.entry, if_neg hmm, hsame.1]

/-- The best route of the MAC has the ESI. -/
def OnSegment (s : L2) (esi : Esi) (m : Mac) : Prop :=
  ∃ v b, s.bestType2Path v m = some b ∧ b.esi = some esi

theorem OnSegment.congr (hpaths : s'.pathsOf m = s.pathsOf m) (h : OnSegment s' esi m) :
    OnSegment s esi m := by
  obtain ⟨v, b, hb, hesi⟩ := h
  exact ⟨v, b, bestType2Path_congr hpaths ▸ hb, hesi⟩

theorem UniqueBest.congr (hpaths : ∀ m, s'.pathsOf m = s.pathsOf m) (hu : UniqueBest s) :
    UniqueBest s' := by
  unfold UniqueBest
  simp only [hpaths]
  exact hu

/-- **The MACs of a segment follow it.** When all other MACs are settled, all of them are in the
    end. -/
theorem syncESMACs_settles (txt : NetText) (esi : Esi) (hw : Works env) (h : FdbOk s)
    (hgroups : GroupsThere s) (hu : UniqueBest s)
    (hothers : ∀ m, ¬ OnSegment s esi m → Settled txt s m) :
    FdbOk (s.syncESMACs txt env esi) ∧ ∀ m, Settled txt (s.syncESMACs txt env esi) m := by
  have hfold : ∀ (macs : List Mac) (s₁ : L2), FdbOk s₁ → FdbKept s s₁ →
      (∀ m, OnSegment s esi m → m ∉ macs → Settled txt s₁ m) →
      (∀ m, ¬ OnSegment s esi m → Settled txt s₁ m) →
      FdbOk (macs.foldl (syncESMAC txt env esi) s₁) ∧
        ∀ m, Settled txt (macs.foldl (syncESMAC txt env esi) s₁) m := by
    intro macs
    induction macs with
    | nil => grind
    | cons mac macs ih =>
      intro s₁ h1 hk hdone hrest
      have hu1 := hu.congr hk.pathsOf
      rw [foldl_cons]
      by_cases hon :
        (s₁.bestType2Path (env.visit s₁.calls) mac).any (fun b => b.esi = some esi) = true
      · -- This MAC is on the segment and is settled now.
        have hround : syncESMAC txt env esi s₁ mac = s₁.syncType2FDB txt env mac := if_pos hon
        obtain ⟨h2, hmac, hkeep⟩ :=
          syncType2FDB_settles txt hw h1 (hgroups.frame hk.toFdbFrame) hu1 mac
        rw [hround]
        refine ih _ h2 (hk.trans (syncType2FDB_kept mac)) (fun m hm hnot => ?_)
          fun m hm => hkeep m (hrest m hm)
        by_cases hmm : m = mac
        · rw [hmm]
          exact hmac
        · grind
      · have hround : syncESMAC txt env esi s₁ mac = s₁ := if_neg hon
        rw [hround]
        refine ih s₁ h1 hk (fun m hm hnot => ?_) hrest
        by_cases hmm : m = mac
        · -- Its best route has the ESI for one order of the loop, hence for all.
          obtain ⟨v, b, hb, hesi⟩ := hm
          have hb : s₁.bestType2Path v mac = some b := by
            rw [bestType2Path_congr (hk.pathsOf mac), ← hmm]
            exact hb
          cases hb' : s₁.bestType2Path (env.visit s₁.calls) mac with
          | none => grind [bestType2Path_none.mpr, bestType2Path_none.mp]
          | some b' =>
            have hesi' : b'.esi = some esi := (bestType2Path_location hu1 hb hb').esi ▸ hesi
            rw [hb'] at hon
            exact absurd (by simpa using hesi') hon
        · grind
  refine hfold _ s h (.refl s) (fun m hon hnot => ?_) hothers
  -- A MAC on the segment has routes, so the loop meets it.
  obtain ⟨v, b, hb, -⟩ := hon
  refine absurd (Visit.mem_keys.mpr ?_) hnot
  cases hm : s.type2Paths.get m with
  | some paths => exact ⟨paths, rfl⟩
  | none =>
    have hempty : ∀ k, (s.pathsOf m).get k = none := by
      intro k
      unfold pathsOf
      rw [hm]
      exact get_empty k
    rw [bestType2Path_none.mpr hempty] at hb
    cases hb

/-! ### Records and kernel objects -/

/-- Every recorded nexthop has the object that belongs to it; the IDs of `X` are being moved. -/
structure Wired (txt : NetText) (s : L2) (X : Set NexthopID) : Prop where
  acc : Accounted s X
  stale : s.nh.staleNexthops = []
  vtepObj : ∀ v id, s.nh.vtepNexthops.get v = some id →
    s.kernel.nexthops.get id = some (.vtep (txt.parseIP v))
  groupObj : ∀ e g, s.nh.esGroups.get e = some g → ∃ ids,
    s.kernel.nexthops.get g.id = some (.group ids) ∧
      ids.map some = g.vteps.map s.nh.vtepNexthops.get
  ok : FdbOk s

theorem Wired.groupsThere (h : Wired txt s X) : GroupsThere s := by
  intro e g hg
  obtain ⟨ids, hids, -⟩ := h.groupObj e g hg
  exact ⟨ids, hids⟩

theorem Wired.frame (h : Wired txt s X) (hf : FdbFrame s s') (hok : FdbOk s') : Wired txt s' X := by
  refine ⟨h.acc.frame hf, ?_, ?_, ?_, hok⟩
  · rw [hf.nh]; exact h.stale
  · rw [hf.nh, hf.nexthops]; exact h.vtepObj
  · rw [hf.nh, hf.nexthops]; exact h.groupObj

variable {e : Esi} {g : EsGroup}

/-- Every VTEP of a group has a nexthop. -/
theorem Wired.vtepThere (h : Wired txt s X) {v : String}
    (hg : s.nh.esGroups.get e = some g) (hv : v ∈ g.vteps) :
    ∃ id, s.nh.vtepNexthops.get v = some id := by
  obtain ⟨ids, -, hmap⟩ := h.groupObj e g hg
  have hmem : s.nh.vtepNexthops.get v ∈ ids.map some := hmap ▸ mem_map_of_mem hv
  obtain ⟨id, -, hid⟩ := mem_map.mp hmem
  exact ⟨id, hid.symm⟩

/-- A member of a group is the nexthop of one of its VTEPs. -/
theorem Wired.member (h : Wired txt s X) {ids : List NexthopID}
    {i : NexthopID} (hg : s.nh.esGroups.get e = some g)
    (hids : s.kernel.nexthops.get g.id = some (.group ids)) (hi : i ∈ ids) :
    ∃ v ∈ g.vteps, s.nh.vtepNexthops.get v = some i := by
  obtain ⟨ids', hids', hmap⟩ := h.groupObj e g hg
  rw [hids] at hids'
  cases hids'
  have hmem : some i ∈ g.vteps.map s.nh.vtepNexthops.get := hmap ▸ mem_map_of_mem hi
  exact mem_map.mp hmem

/-- The routes, the groups and the FDB are the same. -/
structure Keeps (s s' : L2) : Prop where
  type1Paths : s'.type1Paths = s.type1Paths
  groups : s'.nh.esGroups = s.nh.esGroups
  paths : ∀ m, s'.pathsOf m = s.pathsOf m
  fdb : ∀ m, s'.kernel.fdb.get m = s.kernel.fdb.get m

theorem Keeps.refl (s : L2) : Keeps s s := ⟨rfl, rfl, fun _ => rfl, fun _ => rfl⟩

theorem Keeps.trans (h : Keeps s₁ s₂) (h' : Keeps s₂ s₃) : Keeps s₁ s₃ :=
  ⟨h'.type1Paths.trans h.type1Paths, h'.groups.trans h.groups,
    fun m => (h'.paths m).trans (h.paths m), fun m => (h'.fdb m).trans (h.fdb m)⟩

theorem Keeps.settled (h : Keeps s s') (hm : Settled txt s m) : Settled txt s' m := by
  intro v
  have hwant : ∀ best, s'.wantedFDB txt best = s.wantedFDB txt best := by
    intro best
    unfold wantedFDB esSingleActive activeVTEPs
    rw [h.type1Paths, h.groups]
  rw [h.fdb, hwant, bestType2Path_congr (h.paths m)]
  exact hm v

/-- **A moved nexthop is deleted**: no entry and no group may refer to it any more. -/
theorem Wired.deleteNexthop (hw : Works env) (h : Wired txt s (insert id X))
    (hX : id ∉ X) (hfdb : ∀ m, s.kernel.fdb.get m ≠ some (.group id))
    (hmem : ∀ g ids, s.kernel.nexthops.get g = some (.group ids) → id ∉ ids) :
    Wired txt (s.deleteNexthop env id) X ∧ Keeps s (s.deleteNexthop env id) ∧
      (s.deleteNexthop env id).nh = s.nh := by
  have hacc : Accounted (s.deleteNexthop env id) X := h.acc.deleteNexthop hX
  unfold L2.deleteNexthop nexthopDel at hacc ⊢
  rw [call_did hw] at hacc ⊢
  dsimp only at hacc ⊢
  rw [if_neg Bool.false_ne_true] at hacc ⊢
  have hnew : ¬ s.Recorded id := h.acc.moved id (Set.mem_insert _ _)
  have hget : ∀ i, i ≠ id → (s.kernel.nexthops.delete id).get i = s.kernel.nexthops.get i :=
    fun i hi => get_delete_of_ne hi
  -- No entry and no group refers to the object, so none dangles.
  have hsafe : Safe { s.kernel with nexthops := s.kernel.nexthops.delete id } := by
    constructor
    · intro m g hm
      obtain ⟨ids, hids⟩ := h.ok.safe.fdb m g hm
      refine ⟨ids, (hget g ?_).trans hids⟩
      rintro rfl
      exact hfdb m hm
    · intro g ids hold i hi
      obtain ⟨-, hids⟩ := get_delete_eq_some.mp hold
      obtain ⟨ip, hip⟩ := h.ok.safe.members g ids hids i hi
      refine ⟨ip, (hget i ?_).trans hip⟩
      rintro rfl
      exact hmem g ids hids hi
  refine ⟨⟨hacc, h.stale, fun v i hv => ?_, fun e g hg => ?_, ⟨hsafe, h.ok.mirror,
    did_seen h.ok.seen hsafe⟩⟩, ⟨rfl, rfl, fun _ => rfl, fun _ => rfl⟩, rfl⟩
  · refine (hget i ?_).trans (h.vtepObj v i hv)
    rintro rfl
    exact hnew (.inl ⟨.vtep v, hv⟩)
  · obtain ⟨ids, hids, hmap⟩ := h.groupObj e g hg
    refine ⟨ids, (hget g.id fun heq => ?_).trans hids, hmap⟩
    exact hnew (.inl ⟨.group e, heq ▸ idOf_group hg⟩)

/-- The nexthop of a VTEP goes when no group uses it. -/
theorem dropIfUnused_wired (hw : Works env) (h : Wired txt s ∅) (v : String) :
    Wired txt (s.dropIfUnused env v) ∅ ∧ Keeps s (s.dropIfUnused env v) ∧
      ∀ u, (s.dropIfUnused env v).nh.vtepNexthops.get u =
        if u = v ∧ s.usesVtep v = false then none else s.nh.vtepNexthops.get u := by
  unfold dropIfUnused
  cases hv : s.nh.vtepNexthops.get v with
  | none =>
    refine ⟨h, .refl s, fun u => ?_⟩
    by_cases hu : u = v ∧ s.usesVtep v = false
    · rw [if_pos hu, hu.1, hv]
    · rw [if_neg hu]
  | some id =>
    dsimp only
    by_cases hused : s.usesVtep v = true
    · rw [if_pos hused]
      refine ⟨h, .refl s, fun u => (if_neg fun hc => ?_).symm⟩
      rw [hused] at hc
      exact Bool.false_ne_true hc.2.symm
    · rw [if_neg hused]
      let s₁ : L2 := { s with nh.vtepNexthops := s.nh.vtepNexthops.delete v }
      have hgetv : ∀ u, s₁.nh.vtepNexthops.get u =
          if u = v then none else s.nh.vtepNexthops.get u := get_delete _ v
      have hacc : Accounted s₁ (insert id ∅) :=
        h.acc.forget (o := .vtep v) hv (idOf_setVteps (get_delete _ v)) ⟨rfl, rfl, rfl⟩
      have hunused : ∀ e g, s.nh.esGroups.get e = some g → v ∉ g.vteps :=
        fun e g he hmem => hused (usesVtep_iff.mpr ⟨e, g, he, hmem⟩)
      have h1 : Wired txt s₁ (insert id ∅) := by
        refine ⟨hacc, h.stale, fun u i hu => ?_, fun e g he => ?_,
          { h.ok with }⟩
        · grind [h.vtepObj]
        · obtain ⟨ids, hids, hmap⟩ := h.groupObj e g he
          refine ⟨ids, hids, hmap.trans (map_congr_left fun u hu => ?_)⟩
          rw [hgetv, if_neg]
          rintro rfl
          exact hunused e g he hu
      have hobj : s.kernel.nexthops.get id = some (.vtep (txt.parseIP v)) := h.vtepObj v id hv
      obtain ⟨h2, hkeep, hnh⟩ := h1.deleteNexthop hw (Set.notMem_empty id)
        (fun m hm => by
          -- An FDB entry refers to a group, not to a VTEP nexthop.
          grind [h.ok.safe.fdb])
        (fun i ids hids hid => by
          -- A group that is there is recorded, and its members belong to VTEPs it uses.
          have hids : s.kernel.nexthops.get i = some (.group ids) := hids
          rcases h.acc.kernel i _ hids with (⟨o, ho⟩ | hst) | hi
          · cases o with
            | vtep u =>
              rw [h.vtepObj u i ho] at hids
              cases hids
            | group e =>
              obtain ⟨g, hg, rfl⟩ := map_eq_some_iff.mp ho
              obtain ⟨u, hu, hget⟩ := h.member hg hids hid
              have hsame := h.acc.inj (.vtep u) (.vtep v) id hget hv
              cases hsame
              exact hunused e g hg hu
          · grind [h.stale]
          · exact absurd hi (Set.notMem_empty i))
      have hkeep1 : Keeps s s₁ := ⟨rfl, rfl, fun _ => rfl, fun _ => rfl⟩
      refine ⟨h2, hkeep1.trans hkeep, fun u => ?_⟩
      rw [hnh, hgetv]
      by_cases hu : u = v
      · grind
      · rw [if_neg hu, if_neg fun hc => hu hc.1]

/-- The VTEPs that have a nexthop are those of the groups. -/
def VtepsUsed (s : L2) : Prop :=
  ∀ v, (∃ id, s.nh.vtepNexthops.get v = some id) ↔ s.usesVtep v = true

theorem VtepsUsed.congr (h : VtepsUsed s) (hnh : s'.nh = s.nh) : VtepsUsed s' := by
  unfold VtepsUsed usesVtep
  rw [hnh]
  exact h

/-- **Unused VTEP nexthops go**, and only those. -/
theorem dropUnusedVTEPNexthops_wired (hw : Works env) (h : Wired txt s ∅) :
    Wired txt (s.dropUnusedVTEPNexthops env) ∅ ∧ Keeps s (s.dropUnusedVTEPNexthops env) ∧
      VtepsUsed (s.dropUnusedVTEPNexthops env) := by
  have hall : ∀ v, s.usesVtep v = true → ∃ id, s.nh.vtepNexthops.get v = some id := by
    intro v hv
    obtain ⟨e, g, hg, hmem⟩ := usesVtep_iff.mp hv
    exact h.vtepThere hg hmem
  have huses : ∀ {s₁ : L2}, Keeps s s₁ → ∀ v, s₁.usesVtep v = s.usesVtep v := by
    intro s₁ hk v
    unfold usesVtep
    rw [hk.groups]
  have hfold : ∀ (vteps : List String) (s₁ : L2), Wired txt s₁ ∅ → Keeps s s₁ →
      (∀ v, s.usesVtep v = true → ∃ id, s₁.nh.vtepNexthops.get v = some id) →
      (∀ v, v ∉ vteps → (∃ id, s₁.nh.vtepNexthops.get v = some id) → s.usesVtep v = true) →
      Wired txt (vteps.foldl (dropIfUnused env) s₁) ∅ ∧
      Keeps s (vteps.foldl (dropIfUnused env) s₁) ∧
        ∀ v, (∃ id, (vteps.foldl (dropIfUnused env) s₁).nh.vtepNexthops.get v = some id) ↔
          s.usesVtep v = true := by
    intro vteps
    induction vteps with
    | nil => grind
    | cons u vteps ih =>
      intro s₁ h1 hk hin hout
      obtain ⟨h2, hk2, hget⟩ := dropIfUnused_wired hw h1 u
      refine ih _ h2 (hk.trans hk2) (fun v hv => ?_) fun v hnot hv => ?_
      · rw [hget, if_neg]
        · exact hin v hv
        · grind
      · by_cases hu : u = v
        · -- This VTEP was looked at just now.
          grind
        · grind
  have hsame : ({ s with nh.staleNexthops := [] } : L2) = s := by rw [← h.stale]
  unfold dropUnusedVTEPNexthops
  rw [h.stale, hsame]
  dsimp only [foldl_nil]
  obtain ⟨h', hk', hiff⟩ := hfold ((env.visit s.calls).keys s.nh.vtepNexthops) s h (.refl s) hall
    fun v hnot hv => absurd (Visit.mem_keys.mpr hv) hnot
  refine ⟨h', hk', fun v => ?_⟩
  rw [hiff, huses hk']

/-! ### New nexthops -/

/-- A new object for a VTEP. -/
theorem Safe.newVtep (h : Safe k) {ip : Option Ip} (hnone : k.nexthops.get id = none) :
    Safe { k with nexthops := k.nexthops.set id (.vtep ip) } := by
  refine ⟨fun m g hm => ?_, fun g ids hg i hi => ?_⟩
  · grind [h.fdb]
  · obtain ⟨-, ⟨⟩⟩ | ⟨-, hg⟩ := get_set_eq_some.mp hg
    grind [h.members]

variable {members : List NexthopID}

/-- A group is made or changed: the ID is new or that of a group, and its members are there. -/
theorem Safe.setGroup (h : Safe k) (hid : ∀ ip, k.nexthops.get id ≠ some (.vtep ip))
    (hmem : ∀ i ∈ members, ∃ ip, k.nexthops.get i = some (.vtep ip)) :
    Safe { k with nexthops := k.nexthops.set id (.group members) } := by
  have hget : ∀ {i ip}, k.nexthops.get i = some (.vtep ip) →
      (k.nexthops.set id (.group members)).get i = some (.vtep ip) := by
    intro i ip hi
    rw [get_set_of_ne]
    · exact hi
    · rintro rfl
      exact hid ip hi
  refine ⟨fun m g hm => ?_, fun g ids hg i hi => ?_⟩
  · rw [get_set]
    split
    · exact ⟨members, rfl⟩
    · exact h.fdb m g hm
  · have hthere : ∃ ip, k.nexthops.get i = some (.vtep ip) := by
      obtain ⟨-, ⟨⟩⟩ | ⟨-, hg⟩ := get_set_eq_some.mp hg
      · exact hmem i hi
      · exact h.members g ids hg i hi
    obtain ⟨ip, hip⟩ := hthere
    exact ⟨ip, hget hip⟩

/-- The recorded VTEP nexthops stay. -/
def VtepsStay (s s' : L2) : Prop :=
  ∀ v id, s.nh.vtepNexthops.get v = some id → s'.nh.vtepNexthops.get v = some id

/-- **The nexthop of a VTEP**, made when there is none. -/
theorem vtepNexthopID_wired (hw : Works env) (h : Wired txt s ∅) (v : String)
    (hroom : s.nh.lastNexthopID.toNat + 1 < 2 ^ 32) :
    ∃ id s', s.vtepNexthopID txt env v = (some id, s') ∧ Grows 1 s s' ∧ Wired txt s' ∅ ∧
      Keeps s s' ∧ VtepsStay s s' ∧ s'.nh.vtepNexthops.get v = some id := by
  obtain ⟨r, s', hres, hgrow, hacc⟩ := vtepNexthopID_accounted txt env v h.acc hroom
  have hnone := nextNexthopID_none h.acc hroom
  unfold vtepNexthopID at hres ⊢
  cases hv : s.nh.vtepNexthops.get v with
  | some id =>
    exact ⟨id, s, rfl, ⟨rfl, rfl, Nat.le_succ _⟩, h, .refl s, fun _ _ hu => hu, hv⟩
  | none =>
    rw [hv] at hres
    dsimp only [nexthopReplace] at hres ⊢
    rw [call_did hw] at hres ⊢
    cases hres
    let id := s.nextNexthopID.1
    let nexthops := s.kernel.nexthops.set id (.vtep (txt.parseIP v))
    have hsafe : Safe { s.kernel with nexthops := nexthops } := h.ok.safe.newVtep hnone
    have hseen : ∀ k ∈ { s.kernel with nexthops := nexthops } :: s.seen, Safe k :=
      forall_mem_cons.mpr ⟨hsafe, h.ok.seen⟩
    -- A new ID is not in use, so no object is replaced.
    have hkept : ∀ {i o}, s.kernel.nexthops.get i = some o → nexthops.get i = some o := by
      intro i o hi
      rw [get_set_of_ne]
      · exact hi
      · grind
    have hstay : ∀ u i, s.nh.vtepNexthops.get u = some i →
        (s.nh.vtepNexthops.set v id).get u = some i := by
      intro u i hu
      rw [get_set_of_ne]
      · exact hu
      · grind
    refine ⟨id, _, rfl, hgrow, ⟨hacc, h.stale, fun u i hu => ?_, fun e g hg => ?_,
      ⟨hsafe, h.ok.mirror, hseen⟩⟩, ⟨rfl, rfl, fun _ => rfl, fun _ => rfl⟩,
      hstay, get_set_self _ _ _⟩
    · obtain ⟨rfl, rfl⟩ | ⟨-, hu⟩ := get_set_eq_some.mp hu
      · exact get_set_self _ _ _
      · exact hkept (h.vtepObj u i hu)
    · obtain ⟨ids, hids, hmap⟩ := h.groupObj e g hg
      refine ⟨ids, hkept hids, hmap.trans (map_congr_left fun u hu => ?_)⟩
      obtain ⟨i, hi⟩ := h.vtepThere hg hu
      show _ = (s.nh.vtepNexthops.set v id).get u
      rw [hi, hstay u i hi]

/-- **The members of a group** are the nexthops of its VTEPs. -/
theorem memberIDs_wired (hw : Works env) (vteps : List String) (h : Wired txt s ∅)
    (hroom : s.nh.lastNexthopID.toNat + vteps.length < 2 ^ 32) :
    ∃ ids s', s.memberIDs txt env vteps = (some ids, s') ∧ Grows vteps.length s s' ∧
      Wired txt s' ∅ ∧ Keeps s s' ∧ VtepsStay s s' ∧
      ids.map some = vteps.map s'.nh.vtepNexthops.get := by
  induction vteps generalizing s with
  | nil => exact ⟨[], s, rfl, .refl s, h, .refl s, fun _ _ hu => hu, rfl⟩
  | cons v vteps ih =>
    rw [length_cons] at hroom
    obtain ⟨id, s₁, hres, hgrow, h1, hk1, hst1, hid⟩ := vtepNexthopID_wired hw h v (by omega)
    obtain ⟨ids, s₂, hres2, hgrow2, h2, hk2, hst2, hmap⟩ := ih h1 (by have := hgrow.last; omega)
    have hlen : 1 + vteps.length = (v :: vteps).length := by rw [length_cons, Nat.add_comm]
    refine ⟨id :: ids, s₂, ?_, hlen ▸ hgrow.trans hgrow2, h2, hk1.trans hk2,
      fun u i hu => hst2 u i (hst1 u i hu), ?_⟩
    · simp [memberIDs, hres, hres2]
    · rw [map_cons, map_cons, hmap, hst2 v id hid]

/-! ### Groups follow their segments -/

/-- Only what concerns one segment differs. -/
structure AgreesOff (esi : Esi) (s s' : L2) : Prop where
  active : ∀ e, e ≠ esi → s'.activeVTEPs e = s.activeVTEPs e
  single : ∀ e, e ≠ esi → s'.esSingleActive e = s.esSingleActive e
  groups : ∀ e, e ≠ esi → s'.nh.esGroups.get e = s.nh.esGroups.get e
  paths : ∀ m, s'.pathsOf m = s.pathsOf m
  fdb : ∀ m, s'.kernel.fdb.get m = s.kernel.fdb.get m

theorem AgreesOff.trans (h : AgreesOff esi s₁ s₂) (h' : AgreesOff esi s₂ s₃) :
    AgreesOff esi s₁ s₃ :=
  ⟨fun e he => (h'.active e he).trans (h.active e he),
    fun e he => (h'.single e he).trans (h.single e he),
    fun e he => (h'.groups e he).trans (h.groups e he),
    fun m => (h'.paths m).trans (h.paths m), fun m => (h'.fdb m).trans (h.fdb m)⟩

theorem esSingleActive_congr (h : s'.type1Paths = s.type1Paths) (e : Esi) :
    s'.esSingleActive e = s.esSingleActive e := by
  unfold esSingleActive
  rw [h]

theorem Keeps.agreesOff (h : Keeps s s') (esi : Esi) : AgreesOff esi s s' :=
  ⟨fun e _ => activeVTEPs_congr h.type1Paths e, fun e _ => esSingleActive_congr h.type1Paths e,
    fun e _ => by rw [h.groups], h.paths, h.fdb⟩

/-- The MACs that are not on the segment do not see the difference. -/
theorem AgreesOff.settled (h : AgreesOff esi s s')
    (hothers : ∀ m, ¬ OnSegment s esi m → Settled txt s m) :
    ∀ m, ¬ OnSegment s' esi m → Settled txt s' m := by
  intro m hm v
  have hoff : ¬ OnSegment s esi m := fun hon => hm (hon.congr (h.paths m).symm)
  rw [h.fdb, bestType2Path_congr (h.paths m), hothers m hoff v]
  cases hb : s.bestType2Path v m with
  | none => rfl
  | some b =>
    unfold wantedFDB
    dsimp only
    cases he : b.esi with
    | none => rfl
    | some e =>
      have hne : e ≠ esi := by
        rintro rfl
        exact hoff ⟨v, b, hb, he⟩
      dsimp only
      rw [h.active e hne, h.single e hne, h.groups e hne]

/-- The group of a segment is the one that its active VTEPs want. -/
def GroupExact (s : L2) (e : Esi) : Prop :=
  (s.nh.esGroups.get e).map EsGroup.vteps =
    if s.activeVTEPs e = [] then none else some (s.activeVTEPs e)

/-- What an update of a segment has to reach: the records of the nexthops are in order, and only the
    MACs of the segment are left to be moved. -/
structure Synced (txt : NetText) (esi : Esi) (s s' : L2) : Prop where
  wired : Wired txt s' ∅
  used : VtepsUsed s'
  exact : GroupExact s' esi
  groups : ∀ e, e ≠ esi → s'.nh.esGroups.get e = s.nh.esGroups.get e
  type1Paths : s'.type1Paths = s.type1Paths
  paths : ∀ m, s'.pathsOf m = s.pathsOf m
  others : ∀ m, ¬ OnSegment s' esi m → Settled txt s' m

/-- The state after the object of a group is written and the group is recorded. -/
def withGroup (s : L2) (esi : Esi) (g : EsGroup) (members : List NexthopID) : L2 :=
  { s.did (fun k => { k with nexthops := k.nexthops.set g.id (.group members) }) with
    nh.esGroups := s.nh.esGroups.set esi g }

/-- **A group is written**: the ID is new or that of the group of this ES. -/
theorem Wired.withGroup (h : Wired txt s ∅)
    (hid : ∀ ip, s.kernel.nexthops.get g.id ≠ some (.vtep ip))
    (hown : ∀ e g', e ≠ esi → s.nh.esGroups.get e = some g' → g'.id ≠ g.id)
    (hmem : members.map some = g.vteps.map s.nh.vtepNexthops.get)
    (hacc : Accounted (s.withGroup esi g members) ∅) :
    Wired txt (s.withGroup esi g members) ∅ := by
  have hthere : ∀ i ∈ members, ∃ ip, s.kernel.nexthops.get i = some (.vtep ip) := by
    intro i hi
    have hi : some i ∈ g.vteps.map s.nh.vtepNexthops.get := hmem ▸ mem_map_of_mem hi
    obtain ⟨v, -, hv⟩ := mem_map.mp hi
    exact ⟨txt.parseIP v, h.vtepObj v i hv⟩
  have hsafe : Safe { s.kernel with nexthops := s.kernel.nexthops.set g.id (.group members) } :=
    h.ok.safe.setGroup hid hthere
  refine ⟨hacc, h.stale, fun v i hv => ?_, fun e g' hg' => ?_,
    ⟨hsafe, h.ok.mirror, forall_mem_cons.mpr ⟨hsafe, h.ok.seen⟩⟩⟩
  · have hobj : s.kernel.nexthops.get i = some (.vtep (txt.parseIP v)) := h.vtepObj v i hv
    refine (get_set_of_ne ?_).trans hobj
    rintro rfl
    exact hid _ hobj
  · obtain ⟨-, rfl⟩ | ⟨he, hg'⟩ := get_set_eq_some.mp hg'
    · exact ⟨members, get_set_self _ _ _, hmem⟩
    · obtain ⟨ids, hids, hmap⟩ := h.groupObj e g' hg'
      exact ⟨ids, (get_set_of_ne (hown e g' he hg')).trans hids, hmap⟩

/-- The object of the group of an ES is written, with the nexthops of its VTEPs. -/
theorem groupReplace_wired (hw : Works env) {old : Option EsGroup} {vteps : List String}
    (h : Wired txt s ∅) (hold : s.nh.esGroups.get esi = old)
    (hroom : s.nh.lastNexthopID.toNat + 1 < 2 ^ 32)
    (hmem : members.map some = vteps.map s.nh.vtepNexthops.get) :
    ∃ t id, s.groupID old = (id, t) ∧ Wired txt (t.withGroup esi ⟨id, vteps⟩ members) ∅ ∧
      Keeps s t := by
  obtain ⟨failed, s', hres, -, -, hgood⟩ :=
    groupReplace_accounted env vteps members h.acc hold hroom
  unfold nexthopReplace at hres
  rw [call_did hw] at hres
  cases hres
  have hacc := hgood rfl
  -- The object keeps its ID, or gets one that nothing has.
  cases old with
  | some g =>
    refine ⟨s, g.id, rfl, h.withGroup (fun ip hip => ?_) (fun e g' he hg' heq => ?_) hmem hacc,
      .refl s⟩
    · obtain ⟨ids, hids, -⟩ := h.groupObj esi g hold
      have hip : s.kernel.nexthops.get g.id = some (.vtep ip) := hip
      rw [hids] at hip
      cases hip
    · have heq : g'.id = g.id := heq
      have hsame := h.acc.inj (.group e) (.group esi) g.id (heq ▸ idOf_group hg') (idOf_group hold)
      exact he (Owner.group.inj hsame)
  | none =>
    have hnone := nextNexthopID_none h.acc hroom
    obtain ⟨-, hnew⟩ := nextNexthopID_accounted h.acc hroom
    have ht : Wired txt s.nextNexthopID.2 ∅ :=
      ⟨hnew.abandon hnone, h.stale, h.vtepObj, h.groupObj, { h.ok with }⟩
    refine ⟨s.nextNexthopID.2, s.nextNexthopID.1, rfl,
      ht.withGroup (fun ip hip => ?_) (fun e g' he hg' heq => ?_) hmem hacc,
      ⟨rfl, rfl, fun _ => rfl, fun _ => rfl⟩⟩
    · have hip : s.kernel.nexthops.get s.nextNexthopID.1 = some (.vtep ip) := hip
      rw [hnone] at hip
      cases hip
    · have heq : g'.id = s.nextNexthopID.1 := heq
      have hrec : s.Recorded g'.id := .inl ⟨.group e, idOf_group hg'⟩
      exact (nextNexthopID_fresh h.acc hroom).2 (.inl (heq ▸ hrec))

section Synced

variable (hw : Works env) (h : Wired txt s ∅) (hu : UniqueBest s)
  (hothers : ∀ m, ¬ OnSegment s esi m → Settled txt s m)

include hw h hu hothers

/-- **The group of a segment is made or changed.** -/
theorem setESGroup_synced {old : Option EsGroup}
    (hold : s.nh.esGroups.get esi = old) (hroom : s.nh.lastNexthopID.toNat + 1 < 2 ^ 32)
    (hmem : members.map some = (s.activeVTEPs esi).map s.nh.vtepNexthops.get)
    (hne : s.activeVTEPs esi ≠ []) :
    Synced txt esi s (s.setESGroup txt env esi old (s.activeVTEPs esi) members) := by
  obtain ⟨t, id, hid, hwired, hkeep⟩ := groupReplace_wired hw h hold hroom hmem
  let s₁ := t.withGroup esi ⟨id, s.activeVTEPs esi⟩ members
  let s₂ := s₁.dropUnusedVTEPNexthops env
  have hdef : s.setESGroup txt env esi old (s.activeVTEPs esi) members =
      s₂.syncESMACs txt env esi := by
    unfold setESGroup
    rw [hid]
    dsimp only [nexthopReplace]
    rw [call_did hw]
    rfl
  obtain ⟨h2, hk2, hused⟩ := dropUnusedVTEPNexthops_wired hw hwired
  -- The VTEPs of the old group lose their nexthops only after the group has changed.
  have hoff1 : AgreesOff esi s s₁ := by
    have ht := hkeep.agreesOff esi
    refine { ht with groups := fun e he => ?_ }
    show (t.nh.esGroups.set esi _).get e = _
    rw [get_set_of_ne he, hkeep.groups]
  have hoff : AgreesOff esi s s₂ := hoff1.trans (hk2.agreesOff esi)
  obtain ⟨hok, hall⟩ := syncESMACs_settles txt esi hw h2.ok h2.groupsThere
    (hu.congr hoff.paths) (hoff.settled hothers)
  have hf : FdbKept s₂ (s₂.syncESMACs txt env esi) := syncESMACs_kept esi
  rw [hdef]
  refine ⟨h2.frame hf.toFdbFrame hok, ?_, ?_, fun e he => ?_, ?_, fun m => ?_, fun m _ => hall m⟩
  · exact hused.congr hf.nh
  · have hact : (s₂.syncESMACs txt env esi).activeVTEPs esi = s.activeVTEPs esi := by
      refine activeVTEPs_congr ?_ esi
      rw [hf.type1Paths, hk2.type1Paths]
      exact hkeep.type1Paths
    unfold GroupExact
    rw [hact, if_neg hne, hf.nh, hk2.groups]
    show ((t.nh.esGroups.set esi _).get esi).map _ = _
    rw [get_set_self]
    rfl
  · rw [hf.nh]
    exact hoff.groups e he
  · rw [hf.type1Paths, hk2.type1Paths]
    exact hkeep.type1Paths
  · rw [hf.pathsOf, hoff.paths]

/-- **The group of a segment goes**, after its MACs were moved off it. -/
theorem dropESGroup_synced (hold : s.nh.esGroups.get esi = some g) (hnil : s.activeVTEPs esi = []) :
    Synced txt esi s (s.dropESGroup txt env esi (some g)) := by
  let s₁ : L2 := { s with nh.esGroups := s.nh.esGroups.delete esi }
  have hgroups : ∀ e, s₁.nh.esGroups.get e = if e = esi then none else s.nh.esGroups.get e :=
    get_delete _ esi
  have h1 : Wired txt s₁ (insert g.id ∅) := by
    refine ⟨h.acc.forget (idOf_group hold) (idOf_setGroups (get_delete _ esi))
      ⟨rfl, rfl, rfl⟩, h.stale,
      h.vtepObj, fun e g' hg' => ?_, { h.ok with }⟩
    rw [hgroups] at hg'
    split at hg'
    · cases hg'
    · exact h.groupObj e g' hg'
  have hoff : AgreesOff esi s s₁ :=
    ⟨fun _ _ => rfl, fun _ _ => rfl, fun e he => by rw [hgroups, if_neg he], fun _ => rfl,
      fun _ => rfl⟩
  -- All MACs are settled without the group.
  let s₂ := s₁.syncESMACs txt env esi
  have hf2 : FdbKept s₁ s₂ := syncESMACs_kept esi
  obtain ⟨hok2, hall2⟩ := syncESMACs_settles txt esi hw h1.ok h1.groupsThere hu
    (hoff.settled hothers)
  have h2 : Wired txt s₂ (insert g.id ∅) := h1.frame hf2.toFdbFrame hok2
  obtain ⟨ids, hobj, -⟩ := h.groupObj esi g hold
  have hobj2 : s₂.kernel.nexthops.get g.id = some (.group ids) := by
    rw [hf2.nexthops]
    exact hobj
  obtain ⟨h3, hk3, -⟩ := h2.deleteNexthop hw (Set.notMem_empty _)
    (fun m hm => by
      -- A settled MAC uses a recorded group only.
      rw [hall2 m .stored] at hm
      obtain ⟨e, g', hg', heq⟩ := wantedFDB_group hm
      exact h2.acc.moved g.id (Set.mem_insert _ _) (.inl ⟨.group e, heq ▸ idOf_group hg'⟩))
    (fun i ids' hids' hmem => by
      obtain ⟨ip, hip⟩ := h2.ok.safe.members i ids' hids' g.id hmem
      rw [hobj2] at hip
      cases hip)
  obtain ⟨h4, hk4, hused⟩ := dropUnusedVTEPNexthops_wired hw h3
  have hk := hk3.trans hk4
  have htype1 : (s.dropESGroup txt env esi (some g)).type1Paths = s.type1Paths :=
    hk.type1Paths.trans hf2.type1Paths
  have hgroups4 : ∀ e, (s.dropESGroup txt env esi (some g)).nh.esGroups.get e =
      if e = esi then none else s.nh.esGroups.get e := by
    intro e
    rw [← hgroups]
    show ((s₂.deleteNexthop env g.id).dropUnusedVTEPNexthops env).nh.esGroups.get e = _
    rw [hk.groups, hf2.nh]
  refine ⟨h4, hused, ?_, fun e he => ?_, htype1, fun m => ?_, fun m _ => hk.settled (hall2 m)⟩
  · unfold GroupExact
    rw [activeVTEPs_congr htype1, hnil, hgroups4, if_pos rfl]
    rfl
  · rw [hgroups4, if_neg he]
  · exact (hk.paths m).trans (hf2.pathsOf m)

/-- **The group of a segment follows its active VTEPs.** -/
theorem syncES_synced (hused : VtepsUsed s)
    (hfull : ∀ g, s.nh.esGroups.get esi = some g → g.vteps ≠ [])
    (hroom : s.nh.lastNexthopID.toNat + (s.activeVTEPs esi).length + 1 < 2 ^ 32) :
    Synced txt esi s (s.syncES txt env esi) := by
  unfold syncES
  dsimp only
  split
  next hsame =>
    -- The group is as it should be.
    refine ⟨h, hused, ?_, fun _ _ => rfl, rfl, fun _ => rfl, hothers⟩
    unfold GroupExact
    cases hold : s.nh.esGroups.get esi <;> grind
  next hdiff =>
    by_cases hnil : s.activeVTEPs esi = []
    · cases hold : s.nh.esGroups.get esi with
      | none => exact absurd (.inr ⟨hold, hnil⟩) hdiff
      | some g => grind [dropESGroup_synced]
    · rw [if_neg hnil]
      obtain ⟨members, s₁, hres, hgrow, h1, hk, -, hmem⟩ :=
        memberIDs_wired hw (s.activeVTEPs esi) h (by omega)
      rw [hres]
      have hact : s₁.activeVTEPs esi = s.activeVTEPs esi := activeVTEPs_congr hk.type1Paths esi
      rw [← hact] at hmem hnil ⊢
      have hold : s₁.nh.esGroups.get esi = s.nh.esGroups.get esi := by rw [hk.groups]
      have hsync := setESGroup_synced hw h1 (hu.congr hk.paths)
        ((hk.agreesOff esi).settled hothers) hold (by have := hgrow.last; omega) hmem hnil
      exact { hsync with
        groups := fun e he => (hsync.groups e he).trans (by rw [hk.groups])
        type1Paths := hsync.type1Paths.trans hk.type1Paths
        paths := fun m => (hsync.paths m).trans (hk.paths m) }

end Synced

/-! ### Updates -/

/-- An EAD route has the ESI of its key. -/
def KeyedByEsi (s : L2) : Prop := ∀ k p, s.type1Paths.get k = some p → p.esi = k.esi

theorem esSingleActive_iff : s.esSingleActive e = true ↔
    ∃ k p, s.type1Paths.get k = some p ∧ p.esi = e ∧ p.singleActive = true := by
  unfold esSingleActive
  rw [List.any_eq_true]
  constructor
  · rintro ⟨p, hp, hsingle⟩
    obtain ⟨k, hk⟩ := mem_values.mp hp
    rw [Bool.and_eq_true, decide_eq_true_eq] at hsingle
    exact ⟨k, p, hk, hsingle⟩
  · rintro ⟨k, p, hk, hsingle⟩
    refine ⟨p, mem_values.mpr ⟨k, hk⟩, ?_⟩
    rw [Bool.and_eq_true, decide_eq_true_eq]
    exact hsingle

theorem mem_activeVTEPs {v : String} : v ∈ s.activeVTEPs e ↔
    ∀ perES, ∃ k p, s.type1Paths.get k = some p ∧ p.esi = e ∧ p.perES = perES ∧ p.vtep = v := by
  have hhas : ∀ f : Type1Path → Bool,
      v ∈ ((s.type1Paths.values.filter (fun p => p.esi = e)).filter f).map Type1Path.vtep ↔
        ∃ k p, s.type1Paths.get k = some p ∧ p.esi = e ∧ f p = true ∧ p.vtep = v := by
    intro f
    simp only [List.mem_map, List.mem_filter, GoMap.mem_values]
    grind
  unfold activeVTEPs
  simp only [mem_sortBy, mem_filter, mem_dedup, contains_iff_mem, hhas,
    Bool.forall_bool, Bool.not_eq_true']
  exact and_comm

theorem nodup_activeVTEPs (s : L2) (e : Esi) : (s.activeVTEPs e).Nodup :=
  (sortBy_perm id _).nodup_iff.mpr ((nodup_dedup _).filter _)

/-- The active VTEPs are sorted, so that they depend on the routes alone. -/
theorem activeVTEPs_ext (h : ∀ v, v ∈ s'.activeVTEPs e ↔ v ∈ s.activeVTEPs e) :
    s'.activeVTEPs e = s.activeVTEPs e := by
  have hperm : (s'.activeVTEPs e).Perm (s.activeVTEPs e) :=
    (perm_ext_iff_of_nodup (nodup_activeVTEPs s' e) (nodup_activeVTEPs s e)).mpr h
  exact sortBy_eq_of_perm Function.injective_id ((sortBy_perm id _).symm.trans
    (hperm.trans (sortBy_perm id _)))

theorem esiKey_eq (h : esiKey e = some esi) : e = esi := by
  grind [esiKey]

/-- What an EAD update of a segment does to the routes, before anything follows it. -/
structure EadUpdate (esi : Esi) (s s' : L2) : Prop where
  keyed : KeyedByEsi s'
  routes : ∀ k, k.esi ≠ esi → s'.type1Paths.get k = s.type1Paths.get k
  frame : FdbFrame { s with type1Paths := s'.type1Paths } s'
  paths : s'.type2Paths = s.type2Paths
  kernel : s'.kernel = s.kernel
  type2FDB : s'.type2FDB = s.type2FDB
  seen : s'.seen = s.seen

/-- Only the route of its key changes, which has the ESI. -/
theorem updateType1_spec {route : Type1Route} (vtep : String) (singleActive withdraw : Bool)
    (hkey : KeyedByEsi s) (hesi : esiKey route.esi = some esi) :
    EadUpdate esi s (s.updateType1 route esi vtep singleActive withdraw) := by
  have hof : (type1Key route).esi = esi := esiKey_eq hesi
  have hother : ∀ {k : Type1Key}, k.esi ≠ esi → k ≠ type1Key route := by
    rintro k hk rfl
    exact hk hof
  unfold updateType1
  split
  · refine ⟨fun k p hp => ?_, fun k hk => get_delete_of_ne (hother hk), ⟨rfl, rfl, rfl⟩,
      rfl, rfl, rfl, rfl⟩
    exact hkey k p (get_delete_eq_some.mp hp).2
  · refine ⟨fun k p hp => ?_, fun k hk => get_set_of_ne (hother hk), ⟨rfl, rfl, rfl⟩,
      rfl, rfl, rfl, rfl⟩
    obtain ⟨rfl, rfl⟩ | ⟨-, hp⟩ := get_set_eq_some.mp hp
    · exact hof.symm
    · exact hkey k p hp

/-- **Other segments do not see an EAD update.** -/
theorem EadUpdate.agreesOff (h : EadUpdate esi s s') (hkey : KeyedByEsi s) :
    AgreesOff esi s s' := by
  have hroutes : ∀ e, e ≠ esi → ∀ P : Type1Path → Prop,
      (∃ k p, s'.type1Paths.get k = some p ∧ p.esi = e ∧ P p) ↔
        ∃ k p, s.type1Paths.get k = some p ∧ p.esi = e ∧ P p := by
    intro e he P
    constructor
    · rintro ⟨k, p, hk, hp, hP⟩
      have hne : k.esi ≠ esi := by rw [← h.keyed k p hk, hp]; exact he
      exact ⟨k, p, h.routes k hne ▸ hk, hp, hP⟩
    · rintro ⟨k, p, hk, hp, hP⟩
      have hne : k.esi ≠ esi := by rw [← hkey k p hk, hp]; exact he
      exact ⟨k, p, (h.routes k hne).trans hk, hp, hP⟩
  refine ⟨fun e he => activeVTEPs_ext fun v => ?_, fun e he => ?_, fun e _ => by rw [h.frame.nh],
    fun m => ?_, fun m => by rw [h.kernel]⟩
  · rw [mem_activeVTEPs, mem_activeVTEPs]
    exact forall_congr' fun perES => hroutes e he fun p => p.perES = perES ∧ p.vtep = v
  · rw [Bool.eq_iff_iff, esSingleActive_iff, esSingleActive_iff]
    exact hroutes e he fun p => p.singleActive = true
  · unfold pathsOf
    rw [h.paths]

/-- **The law of the L2 overlay**: groups, VTEP nexthops and FDB entries are what the live routes
    want. -/
structure InSync (txt : NetText) (s : L2) : Prop where
  wired : Wired txt s ∅
  used : VtepsUsed s
  exact : ∀ e, GroupExact s e
  settled : ∀ m, Settled txt s m
  unique : UniqueBest s
  keyed : KeyedByEsi s

theorem inSync_empty (txt : NetText) : InSync txt .empty := by
  have hsafe : Safe ⟨∅, ∅⟩ := by
    constructor <;> grind
  refine ⟨⟨accounted_empty, rfl, fun v id hv => ?_, fun e g hg => ?_,
    ⟨hsafe, fun _ => rfl, fun k hk => absurd hk not_mem_nil⟩⟩, fun v => ?_, fun e => ?_,
    fun m v => rfl, fun m k q hq => ?_, fun k p hp => ?_⟩
  · tauto
  · tauto
  · tauto
  · rfl
  · tauto
  · tauto

/-- A segment whose routes changed, and its MACs, follow the routes. -/
theorem EadUpdate.inSync (hw : Works env) (hu : EadUpdate esi s s') (h : InSync txt s)
    (hroom : s.nh.lastNexthopID.toNat + (s'.activeVTEPs esi).length + 1 < 2 ^ 32) :
    InSync txt ((s'.syncES txt env esi).syncESMACs txt env esi) := by
  have hoff : AgreesOff esi s s' := hu.agreesOff h.keyed
  have hnh : s'.nh = s.nh := hu.frame.nh
  have hwired : Wired txt s' ∅ := by
    refine Wired.frame ?_ hu.frame (h.wired.ok.congr hu.kernel hu.type2FDB hu.seen)
    exact ⟨h.wired.acc.congr (fun o => by cases o <;> rfl) ⟨rfl, rfl, rfl⟩, h.wired.stale,
      h.wired.vtepObj, h.wired.groupObj, h.wired.ok.congr rfl rfl rfl⟩
  have hused : VtepsUsed s' := h.used.congr hnh
  have hfull : ∀ g, s'.nh.esGroups.get esi = some g → g.vteps ≠ [] := by
    intro g hg hnil
    have hexact := h.exact esi
    unfold GroupExact at hexact
    rw [← hnh, hg, map_some, hnil] at hexact
    split at hexact
    · cases hexact
    next hne => exact hne (some.inj hexact).symm
  have hsync : Synced txt esi s' (s'.syncES txt env esi) :=
    syncES_synced hw hwired (h.unique.congr hoff.paths) (hoff.settled fun m _ => h.settled m) hused
      hfull (by rw [hnh]; exact hroom)
  -- The segment first, then its MACs; the other segments stay as they are.
  generalize s'.syncES txt env esi = s₁ at hsync
  have hpaths : ∀ m, s₁.pathsOf m = s.pathsOf m := fun m => (hsync.paths m).trans (hoff.paths m)
  obtain ⟨hok, hall⟩ := syncESMACs_settles txt esi hw hsync.wired.ok
    hsync.wired.groupsThere (h.unique.congr hpaths) hsync.others
  have hf : FdbKept s₁ (s₁.syncESMACs txt env esi) := syncESMACs_kept esi
  have htype1 := hf.type1Paths.trans hsync.type1Paths
  refine ⟨hsync.wired.frame hf.toFdbFrame hok, ?_, fun e => ?_, hall,
    (h.unique.congr hpaths).congr hf.pathsOf, ?_⟩
  · exact hsync.used.congr hf.nh
  · unfold GroupExact
    rw [activeVTEPs_congr hf.type1Paths, hf.nh]
    by_cases he : e = esi
    · rw [he]
      exact hsync.exact
    · rw [hsync.groups e he, activeVTEPs_congr hsync.type1Paths, hoff.active e he, hnh]
      exact h.exact e
  · unfold KeyedByEsi
    rw [htype1]
    exact hu.keyed

/-- **An EAD update** keeps the law. -/
theorem handleType1Route_inSync {cfg : Config} {route : Type1Route} {vtep : String}
    {singleActive withdraw : Bool} (hw : Works env) (h : InSync txt s)
    (hleft : IDsLeft s (.type1 route vtep singleActive withdraw env)) :
    InSync txt (s.handleType1Route cfg txt env route vtep singleActive withdraw) := by
  unfold handleType1Route
  cases hesi : esiKey route.esi with
  | none => exact h
  | some esi =>
    dsimp only
    split
    · exact h
    · exact (updateType1_spec vtep singleActive withdraw h.keyed hesi).inSync hw h (hleft esi hesi)

/-- A MAC update changes the routes of the MAC alone. -/
theorem routeType2_spec (s : L2) (mac : Mac) (key : Type2Key) (ip : Option Ip)
    (p : Option Type2Path) :
    (∀ m, m ≠ mac → (s.routeType2 mac key ip p).pathsOf m = s.pathsOf m) ∧
      (s.routeType2 mac key ip p).kernel = s.kernel ∧
      (s.routeType2 mac key ip p).type2FDB = s.type2FDB ∧
      (s.routeType2 mac key ip p).seen = s.seen := by
  have hset : ∀ {paths : GoMap Type2Key Type2Path} {m}, m ≠ mac →
      ((s.type2Paths.set mac paths).get m).getD ∅ = s.pathsOf m := by
    intro paths m hm
    rw [get_set_of_ne hm]
    rfl
  cases p with
  | some p =>
    unfold routeType2 rememberType2Path
    dsimp only
    split <;> exact ⟨fun m hm => hset hm, rfl, rfl, rfl⟩
  | none =>
    have hdel : (∀ m, m ≠ mac → (s.deletePath mac key).pathsOf m = s.pathsOf m) ∧
        (s.deletePath mac key).kernel = s.kernel ∧ (s.deletePath mac key).type2FDB = s.type2FDB ∧
        (s.deletePath mac key).seen = s.seen := by
      unfold deletePath
      split
      · exact ⟨fun _ _ => rfl, rfl, rfl, rfl⟩
      · exact ⟨fun m hm => hset hm, rfl, rfl, rfl⟩
    unfold routeType2 forgetType2Path
    dsimp only
    split
    · exact hdel
    · unfold unindexIP
      split <;> exact hdel

/-- **A MAC update** keeps the law. -/
theorem updateType2_inSync (hw : Works env) (h : InSync txt s) (mac : Mac) (key : Type2Key)
    (ip : Option Ip) (p : Option Type2Path) (hu : UniqueBest (s.routeType2 mac key ip p)) :
    InSync txt (s.updateType2 txt env mac key ip p) := by
  obtain ⟨hpaths, hkernel, hfdb, hseen⟩ := routeType2_spec s mac key ip p
  have hf : FdbFrame s (s.routeType2 mac key ip p) := routeType2_frame mac key ip p
  unfold updateType2
  generalize s.routeType2 mac key ip p = s₁ at hu hpaths hkernel hfdb hseen hf ⊢
  have hok : FdbOk s₁ := h.wired.ok.congr hkernel hfdb hseen
  have hw1 : Wired txt s₁ ∅ := h.wired.frame hf hok
  obtain ⟨hok2, hmac, hkeep⟩ := syncType2FDB_settles txt hw hok hw1.groupsThere hu mac
  have hk : FdbKept s₁ (s₁.syncType2FDB txt env mac) := syncType2FDB_kept mac
  have hf2 : FdbFrame s (s₁.syncType2FDB txt env mac) := hf.trans hk.toFdbFrame
  refine ⟨h.wired.frame hf2 hok2, ?_, fun e => ?_, fun m => ?_, hu.congr hk.pathsOf, ?_⟩
  · exact h.used.congr hf2.nh
  · unfold GroupExact
    rw [activeVTEPs_congr hf2.type1Paths, hf2.nh]
    exact h.exact e
  · by_cases hm : m = mac
    · rw [hm]
      exact hmac
    · exact hkeep m ((h.settled m).congr hf (hpaths m hm) (by rw [hkernel]))
  · unfold KeyedByEsi
    rw [hf2.type1Paths]
    exact h.keyed

end L2

/-! ### Whole runs -/

/-- The calls of the update work. -/
def L2Event.Works : L2Event → Prop
  | .type1 _ _ _ _ env => L2.Works env
  | .type2 _ _ _ _ _ _ env => L2.Works env

/-- After the update every MAC has a unique best route. -/
def UniqueAfter (cfg : Config) (txt : NetText) (s : L2) : L2Event → Prop
  | .type1 .. => True
  | .type2 route vtep seq sticky router withdraw _ => ∀ mac p,
      L2.type2Change cfg txt route vtep seq sticky router withdraw = some (mac, p) →
        (s.routeType2 mac (type2Key route) (type2IP txt route.ipAddress) p).UniqueBest

/-- One update keeps the law. -/
theorem l2Step_inSync {cfg : Config} {txt : NetText} {s s' : L2} {e : L2Event}
    (h : L2.InSync txt s) (hworks : e.Works) (hunique : UniqueAfter cfg txt s e)
    (hleft : IDsLeft s e) (hs : l2Step cfg txt s e = some s') : L2.InSync txt s' := by
  cases e with
  | type1 route vtep singleActive withdraw env =>
    cases hs
    exact L2.handleType1Route_inSync hworks h hleft
  | type2 route vtep seq sticky router withdraw env =>
    cases hs
    unfold L2.handleType2
    split
    · exact h
    next mac p hp => exact L2.updateType2_inSync hworks h mac _ _ p (hunique mac p hp)

/-- **Segments, nexthops and FDB are in sync.** After every sequence of updates with working calls
    and unique best routes, as long as the ID counter does not wrap: an ES has a group exactly when
    it has active VTEPs, and the group has these; the kernel has one nexthop for each VTEP of a
    group and no other VTEP nexthop; the FDB entry of every MAC is the wanted one, in the kernel and
    as recorded; and after no kernel call there is an FDB entry or a group with a dangling
    reference. -/
theorem segments_in_sync {cfg : Config} {txt : NetText} {s : L2} (h : (l2Machine cfg txt).Reaches
      (fun s e => e.Works ∧ UniqueAfter cfg txt s e ∧ IDsLeft s e) s) :
    (∀ esi, (s.nh.esGroups.get esi).map EsGroup.vteps =
        if s.activeVTEPs esi = [] then none else some (s.activeVTEPs esi)) ∧
      (∀ v, (∃ esi g, s.nh.esGroups.get esi = some g ∧ v ∈ g.vteps) ↔
        ∃ id, s.nh.vtepNexthops.get v = some id) ∧
      (∀ id ip, s.kernel.nexthops.get id = some (.vtep ip) ↔
        ∃ v, s.nh.vtepNexthops.get v = some id ∧ txt.parseIP v = ip) ∧
      (∀ v w id, s.nh.vtepNexthops.get v = some id → s.nh.vtepNexthops.get w = some id → v = w) ∧
      (∀ mac visit, s.kernel.fdb.get mac = s.wantedFDB txt (s.bestType2Path visit mac) ∧
        s.type2FDB.get mac = s.kernel.fdb.get mac) ∧
      ∀ k ∈ s.kernel :: s.seen, L2.Safe k := by
  have hinv : L2.InSync txt s := Machine.Reaches.invariant (I := L2.InSync txt) h
    (L2.inSync_empty txt)
    fun s e s' hi hok hs => l2Step_inSync hi hok.1 hok.2.1 hok.2.2 hs
  have hacc := hinv.wired.acc
  refine ⟨hinv.exact, fun v => ?_, fun id ip => ⟨fun hk => ?_, ?_⟩, fun v w id hv hw => ?_,
    fun mac visit => ⟨hinv.settled mac visit, hinv.wired.ok.mirror mac⟩,
    forall_mem_cons.mpr ⟨hinv.wired.ok.safe, hinv.wired.ok.seen⟩⟩
  · rw [hinv.used v, L2.usesVtep_iff]
  · -- The object is recorded, and not for a group.
    rcases hacc.kernel id _ hk with (⟨o, ho⟩ | hst) | hid
    · cases o with
      | vtep v =>
        have hobj := hinv.wired.vtepObj v id ho
        rw [hk] at hobj
        exact ⟨v, ho, (FdbNexthop.vtep.inj (Option.some.inj hobj)).symm⟩
      | group e =>
        obtain ⟨g, hg, rfl⟩ := map_eq_some_iff.mp ho
        obtain ⟨ids, hids, -⟩ := hinv.wired.groupObj e g hg
        rw [hk] at hids
        cases hids
    · grind [hinv.wired.stale]
    · exact absurd hid (Set.notMem_empty id)
  · grind [hinv.wired.vtepObj]
  · exact L2.Owner.vtep.inj (hacc.inj (.vtep v) (.vtep w) id hv hw)

/-- The first route of the first MAC is the unique best one. -/
theorem L2.uniqueBest_first {s : L2} (h : s.type2Paths = ∅) (mac : Mac) (key : Type2Key)
    (ip : Option Ip) (p : Type2Path) : (s.routeType2 mac key ip (some p)).UniqueBest := by
  have hpaths : ∀ m, (s.routeType2 mac key ip (some p)).pathsOf m =
      if m = mac then (∅ : GoMap Type2Key Type2Path).set key p else ∅ := by
    intro m
    have hset : (s.routeType2 mac key ip (some p)).type2Paths =
        (∅ : GoMap Mac (GoMap Type2Key Type2Path)).set mac
          ((∅ : GoMap Type2Key Type2Path).set key p) := by
      unfold routeType2 rememberType2Path pathsOf
      rw [h]
      dsimp only
      split <;> rfl
    unfold pathsOf
    rw [hset, get_set]
    split <;> rfl
  have hget : ∀ m k q, ((s.routeType2 mac key ip (some p)).pathsOf m).get k = some q →
      m = mac ∧ q = p := by
    intro m k q hq
    rw [hpaths] at hq
    split at hq
    next hm => grind
    next =>
      cases hq
  intro m k q hq
  obtain ⟨rfl, -⟩ := hget m k q hq
  refine ⟨key, p, by rw [hpaths, if_pos rfl, get_set_self], fun k' q' hq' => .inl ?_⟩
  rw [(hget m k' q' hq').2]
  exact ⟨rfl, rfl, rfl, rfl⟩

/-- Segment A has a VTEP, and a MAC on it is sent to its group. -/
theorem macOnSegment_inSync :
    ∃ s, (l2Machine sampleConfig sampleText).Reaches
        (fun s e => e.Works ∧ UniqueAfter sampleConfig sampleText s e ∧ IDsLeft s e) s ∧
      s.activeVTEPs esiA = ["10.0.0.2"] ∧
      (s.nh.esGroups.get esiA).map EsGroup.vteps = some ["10.0.0.2"] ∧
      s.kernel.fdb.get [2, 0, 0, 0, 0, 1] = some (.group (nhIDBase + 2)) ∧
      s.type2FDB.get [2, 0, 0, 0, 0, 1] = s.kernel.fdb.get [2, 0, 0, 0, 0, 1] := by
  let handle := L2.handleType1Route sampleConfig sampleText .working
  let s₁ := handle .empty ⟨"a", esiA, maxET⟩ "10.0.0.2" false false
  let s₂ := handle s₁ ⟨"a", esiA, 0⟩ "10.0.0.2" false false
  let route : Type2Route := ⟨"a", esiA, 0, "02:00:00:00:00:01", ""⟩
  let s₃ := s₂.handleType2 sampleConfig sampleText .working route "10.0.0.2" 0 false false false
  have hmacs : s₂.type2Paths = ∅ := by
    apply AList.ext
    decide +kernel
  have hrun : (l2Machine sampleConfig sampleText).Reaches
      (fun s e => e.Works ∧ UniqueAfter sampleConfig sampleText s e ∧ IDsLeft s e) s₃ := by
    refine .step (a := .type2 route "10.0.0.2" 0 false false false .working)
      (.step (a := announceEad "a" esiA 0 "10.0.0.2" .working)
        (.step (a := announceEad "a" esiA maxET "10.0.0.2" .working) .start
          ⟨fun _ => rfl, trivial, fun esi hesi => by cases hesi; decide +kernel⟩ rfl)
        ⟨fun _ => rfl, trivial, fun esi hesi => by cases hesi; decide +kernel⟩ rfl)
      ⟨fun _ => rfl, fun mac p hp => ?_, trivial⟩ rfl
    cases p with
    | some p => exact L2.uniqueBest_first hmacs mac _ _ p
    | none =>
      have hnew : (L2.type2Change sampleConfig sampleText route "10.0.0.2" 0 false false false).all
          (fun c => c.2.isSome) = true := by decide +kernel
      rw [hp] at hnew
      exact absurd hnew Bool.false_ne_true
  obtain ⟨hgroups, -, -, -, hfdb, -⟩ := segments_in_sync hrun
  have hact : s₃.activeVTEPs esiA = ["10.0.0.2"] := by decide +kernel
  have hgroup := hgroups esiA
  rw [hact] at hgroup
  exact ⟨s₃, hrun, hact, hgroup, by decide +kernel, (hfdb _ .stored).2⟩

/-- **A nexthop is replaced by that of another VTEP.** All calls work, and segment C comes and goes
    until the counter is where it was: then the VTEP of segment B gets the ID of the VTEP of segment
    A, which still is in a group and has no nexthop object any more. -/
theorem wrappedID_replaces :
    ∃ s g, (l2Machine sampleConfig sampleText).Reaches
        (fun s e => e.Works ∧ UniqueAfter sampleConfig sampleText s e) s ∧
      s.nh.esGroups.get esiA = some g ∧ "10.0.0.2" ∈ g.vteps ∧
      s.nh.vtepNexthops.get "10.0.0.2" = s.nh.vtepNexthops.get "10.0.0.3" ∧
      ∀ id, s.kernel.nexthops.get id ≠ some (.vtep (sampleText.parseIP "10.0.0.2")) := by
  have hip : sampleText.parseIP "10.0.0.2" = some (.ofV4 0x0a000002) := by decide +kernel
  obtain ⟨s, hrun, hnh, hgone⟩ := wrapped_reaches
    (fun s e => e.Works ∧ UniqueAfter sampleConfig sampleText s e)
    fun _ _ _ _ => ⟨fun _ => rfl, trivial⟩
  refine ⟨s, ⟨nhIDBase + 2, ["10.0.0.2"]⟩, hrun, ?_, mem_singleton_self _, ?_, hip ▸ hgone⟩
  · rw [hnh]
    decide +kernel
  · rw [hnh]
    decide +kernel

end Booty.Gobgp
