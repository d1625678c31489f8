import Booty.Sriov.Stored

namespace Booty.Sriov

open Booty.Lib Booty.Lib.Logged List Option GoMap Conflicts

/-!
# The firmware pass

The loop over the ports as a whole: what its stores leave behind when the profiles agree, and what
it reports when there is nothing to store.

* `Consistent` — profiles and ports that do not get in each other's way.
* `PassInv.step`, `firmwarePass_settles` — the pass stores what drifted, and then nothing drifts.
* `firmwarePass_quiet` — a pass without a drifted setting only reads.
-/

/-! ### Conflicts between the ports of an adapter -/

namespace Conflicts

/-- The value of a setting of the port was seen, and it is the first one seen unless a conflict is
    reported. -/
def Covers (c : Conflicts) (a : Assignment) (name : SettingName) : Prop :=
  ∃ w, c.seen.get (conflictKey a.pf name) = some w ∧
    (Clear c.out a name → w.value = a.want name)

theorem conflictText_ne (a : Assignment) (name : SettingName) (prev : Wanted) :
    conflictText a name prev ≠ "" := by
  have hend : ∀ s : String, s ++ "); the setting belongs to the whole adapter" ≠ "" := by
    intro s hempty
    have hlist := congrArg String.toList hempty
    rw [String.toList_append] at hlist
    exact absurd (append_eq_nil_iff.mp hlist).2 (by decide)
  exact hend _

variable (c : Conflicts) (a : Assignment) (name : SettingName)

/-- What one setting does to the conflicts: it is new, it is as seen, or it is reported. -/
theorem add_cases : (c.seen.get (conflictKey a.pf name) = none ∧ c.add a name =
      { c with seen := c.seen.set (conflictKey a.pf name) ⟨a.profile.name, a.want name⟩ }) ∨
    (∃ w, c.seen.get (conflictKey a.pf name) = some w ∧ w.value = a.want name ∧ c.add a name = c) ∨
    ∃ w m, c.seen.get (conflictKey a.pf name) = some w ∧ m ≠ "" ∧
      c.add a name = { c with out := c.out.set (conflictKey a.pf name) m } := by
  cases hseen : c.seen.get (conflictKey a.pf name) with
  | none => grind [add, Assignment.want]
  | some w =>
    by_cases hsame : w.value = getSetting a.firmware name
    · exact .inr (.inl ⟨w, rfl, hsame, by simp only [add, hseen, hsame, if_true]⟩)
    · exact .inr (.inr ⟨w, conflictText a name w, rfl, conflictText_ne a name w,
        by simp only [add, hseen, hsame, if_false]⟩)

/-- A setting stays covered. -/
theorem Covers.add {c : Conflicts} {a : Assignment} {name : SettingName} (hcov : c.Covers a name)
    (b : Assignment) (n : SettingName) : (c.add b n).Covers a name := by
  obtain ⟨w, hw, hvalue⟩ := hcov
  rcases c.add_cases b n with ⟨hnone, h⟩ | ⟨w', -, -, h⟩ | ⟨w', m, -, hm, h⟩
  · have hne : conflictKey a.pf name ≠ conflictKey b.pf n := by
      intro heq
      rw [heq, hnone] at hw
      cases hw
    rw [h]
    exact ⟨w, by rw [get_set_of_ne hne, hw], hvalue⟩
  · rw [h]
    exact ⟨w, hw, hvalue⟩
  · rw [h]
    refine ⟨w, hw, fun hclear => ?_⟩
    unfold Clear at hclear
    rw [get_set] at hclear
    split at hclear
    · exact absurd hclear hm
    · exact hvalue hclear

/-- A setting is covered by its own turn. -/
theorem covers_add : (c.add a name).Covers a name := by
  rcases c.add_cases a name with ⟨-, h⟩ | ⟨w, hw, hvalue, h⟩ | ⟨w, m, hw, hm, h⟩
  · rw [h]
    exact ⟨_, get_set_self _ _ _, fun _ => rfl⟩
  · rw [h]
    exact ⟨w, hw, fun _ => hvalue⟩
  · rw [h]
    refine ⟨w, hw, fun hclear => ?_⟩
    unfold Clear at hclear
    rw [get_set_self] at hclear
    exact absurd hclear hm

end Conflicts

/-- Every setting of an adapter is covered at the end of the loop over the ports. -/
theorem conflicts_cover (as : List Assignment) {a : Assignment} (ha : a ∈ as) {name : SettingName}
    (hname : name ∈ settingNames a.firmware) (hscoped : adapterScoped name = true) :
    (as.foldl (fun c a => ((settingNames a.firmware).filter adapterScoped).foldl (·.add a) c)
      ({} : Conflicts)).Covers a name := by
  -- A setting that is covered stays so through all turns, and its own turn covers it.
  have hinner : ∀ (b : Assignment) (l : List SettingName) (c : Conflicts),
      (c.Covers a name ∨ (b = a ∧ name ∈ l)) → (l.foldl (·.add b) c).Covers a name := by
    intro b l
    induction l with
    | nil => grind
    | cons n l ih =>
      intro c hc
      refine ih _ ?_
      rcases hc with hc | ⟨rfl, hn⟩
      · exact .inl (hc.add b n)
      · grind [c.covers_add]
  suffices hloop : ∀ (l : List Assignment) (c : Conflicts), (c.Covers a name ∨ a ∈ l) →
      (l.foldl (fun c a => ((settingNames a.firmware).filter adapterScoped).foldl (·.add a) c)
        c).Covers a name from hloop as {} (.inr ha)
  intro l
  induction l with
  | nil => grind
  | cons b l ih => aesop

/-- **Without a reported conflict the ports of an adapter want the same.** -/
theorem want_eq_of_clear {as : List Assignment} {a b : Assignment} {name : SettingName}
    (ha : a ∈ as) (hb : b ∈ as) (hna : name ∈ settingNames a.firmware)
    (hnb : name ∈ settingNames b.firmware) (hscoped : adapterScoped name = true)
    (hscope : scopeKey a.pf name = scopeKey b.pf name)
    (hclear : Clear (adapterConflicts as) a name) : a.want name = b.want name := by
  have hkey : conflictKey a.pf name = conflictKey b.pf name := by
    rw [conflictKey, conflictKey, hscope]
  obtain ⟨w, hw, hvalue⟩ := conflicts_cover as ha hna hscoped
  obtain ⟨w', hw', hvalue'⟩ := conflicts_cover as hb hnb hscoped
  have hww : w = w' := by
    rw [hkey, hw'] at hw
    exact (Option.some.inj hw).symm
  have hclear' : Clear (adapterConflicts as) b name := by
    rw [Clear, ← hkey]
    exact hclear
  rw [← hvalue hclear, ← hvalue' hclear', hww]

/-! ### Ports that agree -/

/-- Profiles and ports whose settings do not get in each other's way. -/
structure Consistent (as : List Assignment) : Prop where
  /-- A setting of a profile has a value. -/
  valued : ∀ a ∈ as, ∀ n ∈ settingNames a.firmware, a.want n ≠ ""
  /-- Ports with one key want the same of a setting of the port. -/
  ports : ∀ a ∈ as, ∀ b ∈ as, ∀ n ∈ settingNames a.firmware, n ∈ settingNames b.firmware →
    adapterScoped n = false → scopeKey a.pf n = scopeKey b.pf n → a.want n = b.want n
  /-- A VF limit that turns SR-IOV on is not next to a profile that sets SR-IOV itself. -/
  implied : ∀ a ∈ as, ∀ b ∈ as, a.ImpliesSriov → adapterKey a.pf = adapterKey b.pf →
    .sriovEnabled ∉ settingNames b.firmware

section Agree

variable {as : List Assignment} {a b : Assignment} {n : SettingName}

/-- A conflict concerns all ports that share the setting. -/
theorem Clear.of_scope {conflicts : GoMap String String} (h : Clear conflicts a n)
    (hscope : scopeKey a.pf n = scopeKey b.pf n) : Clear conflicts b n := by
  rw [Clear, conflictKey, ← hscope]
  exact h

/-- Ports that share a setting without a conflict want the same. -/
theorem Consistent.want_eq (hc : Consistent as) (ha : a ∈ as) (hb : b ∈ as)
    (hna : n ∈ settingNames a.firmware) (hnb : n ∈ settingNames b.firmware)
    (hscope : scopeKey a.pf n = scopeKey b.pf n) (hclear : Clear (adapterConflicts as) a n) :
    a.want n = b.want n := by grind [want_eq_of_clear, hc.ports]

theorem adapterKey_eq_of_scopeKey {pf pf' : PF}
    (h : scopeKey pf .sriovEnabled = scopeKey pf' .sriovEnabled) :
    adapterKey pf = adapterKey pf' := by
  have hlist := congrArg String.toList h
  simp only [scopeKey, adapterScoped, if_true, String.toList_append] at hlist
  exact String.toList_inj.mp (append_cancel_left hlist)

end Agree

/-! ### The firmware pass -/

section Pass

variable {r : Reconciler} {h : Host} {as : List Assignment} {t t' t₀ : List Event} {j j' : Journal}
  {a : Assignment} {n : SettingName} {conflicts : GoMap String String}

/-- A stored setting of a port is as before or as wanted. -/
def Calm (r : Reconciler) (h : Host) (t t' : List Event) (a : Assignment) (n : SettingName) :
    Prop :=
  r.foundAt h t' a.pf a.firmware n = r.foundAt h t a.pf a.firmware n ∨
    r.foundAt h t' a.pf a.firmware n =
      (r.foundAt h t a.pf a.firmware n).map (restore (a.want n))

/-- A stored setting of a port is as wanted. -/
def Restored (r : Reconciler) (h : Host) (t t' : List Event) (a : Assignment) (n : SettingName) :
    Prop :=
  r.foundAt h t' a.pf a.firmware n = (r.foundAt h t a.pf a.firmware n).map (restore (a.want n))

theorem Restored.of_calm (h0 : Calm r h t₀ t a n)
    (h1 : Restored r h t t' a n) : Restored r h t₀ t' a n := by
  rcases h0 with h0 | h0
  · rw [Restored, h1, h0]
  · rw [Restored, h1, h0, Option.map_map]
    rfl

theorem Restored.calm (h0 : Restored r h t₀ t a n)
    (h1 : Calm r h t t' a n) : Restored r h t₀ t' a n := by
  rcases h1 with h1 | h1
  · rw [Restored, h1, h0]
  · rw [Restored, h1, h0, Option.map_map]
    rfl

/-- Two steps. -/
theorem Calm.trans (h0 : Calm r h t₀ t a n) (h1 : Calm r h t t' a n) : Calm r h t₀ t' a n := by
  rcases h1 with h1 | h1
  · rw [Calm, h1]
    exact h0
  · exact .inr (Restored.of_calm h0 h1)

/-- What is as wanted does not drift. -/
theorem Restored.not_drifts (hr : Restored r h t t' a n) : ¬ r.Drifts h conflicts t' a n := by
  rintro ⟨-, -, q, hq, hne⟩
  rw [hr] at hq
  obtain ⟨q0, -, rfl⟩ := map_eq_some_iff.mp hq
  exact hne rfl

/-- What drifts now drifted before. -/
theorem Calm.drifts (hc : Calm r h t t' a n) (hd : r.Drifts h conflicts t' a n) :
    r.Drifts h conflicts t a n := by
  rcases hc with hc | hc
  · obtain ⟨hn, hclear, q, hq, hne⟩ := hd
    exact ⟨hn, hclear, q, hc ▸ hq, hne⟩
  · exact absurd hd (Restored.not_drifts hc)

/-- The backend of a setting stays the same. -/
theorem Calm.resets (hc : Calm r h t t' a n) (hresets : r.Resets h t' a n) :
    r.Resets h t a n := by
  have howner : (r.foundAt h t' a.pf a.firmware n).map Prod.fst =
      (r.foundAt h t a.pf a.firmware n).map Prod.fst := by
    rcases hc with hc | hc
    · rw [hc]
    · rw [hc, Option.map_map]
      rfl
  rw [Reconciler.Resets, ← howner]
  exact hresets

/-- The settings that a step of the port may store. -/
def Reconciler.Pends (r : Reconciler) (h : Host) (as : List Assignment) (t : List Event)
    (a : Assignment) (n : SettingName) : Prop :=
  r.Applies a ∧ r.Drifts h (adapterConflicts as) t a n

/-- The firmware pass over the ports `done`: it stored only what drifted at its start, the ports
    that are done have nothing left to store, and the journal is about settings that every port
    sharing them finds as wanted. -/
structure PassInv (r : Reconciler) (h : Host) (as : List Assignment) (t₀ : List Event)
    (done : List Assignment) (j : Journal) (t : List Event) : Prop where
  events : ∃ new, t = t₀ ++ new ∧
    ∀ e ∈ new, e.passive = true ∨ ∃ a ∈ as, IsStore a (r.Pends h as t₀ a) j e
  calm : ∀ a ∈ as, ∀ n ∈ settingNames a.firmware, Clear (adapterConflicts as) a n →
    Calm r h t₀ t a n
  settled : ∀ a ∈ done, a ∈ as → ∀ n, ¬ r.Pends h as t a n
  journal : ∀ e ∈ j, ∃ a ∈ as, ∃ n, r.Pends h as t₀ a n ∧ r.Resets h t₀ a n ∧ e = a.entry n ∧
    ∀ b ∈ as, n ∈ settingNames b.firmware → scopeKey b.pf n = scopeKey a.pf n →
      Restored r h t₀ t b n

/-- What the step of one port does to the others. -/
theorem StoredBy.calm (hc : Consistent as) {a b : Assignment} {n : SettingName} (ha : a ∈ as)
    (hb : b ∈ as) (hnb : n ∈ settingNames b.firmware) (hclear : Clear (adapterConflicts as) b n)
    (hs : StoredBy r h a (r.Pends h as t a) t t' j j') :
    Calm r h t t' b n ∧ (scopeKey b.pf n = scopeKey a.pf n → r.Pends h as t a n →
      Restored r h t t' b n) := by
  have hrestored : scopeKey b.pf n = scopeKey a.pf n → r.Pends h as t a n →
      Restored r h t t' b n := by
    intro hscope hpends
    have hwant : b.want n = a.want n := hc.want_eq hb ha hnb hpends.2.1 hscope hclear
    rw [Restored, hwant]
    exact hs.stored b.pf b.firmware n hscope hpends hwant
  refine ⟨?_, hrestored⟩
  by_cases hscope : scopeKey b.pf n = scopeKey a.pf n
  · by_cases hpends : r.Pends h as t a n
    · exact .inr (hrestored hscope hpends)
    · refine .inl (hs.same b.pf b.firmware n (.inr ⟨hpends, ?_⟩))
      -- The setting is wanted by a port of the adapter, so no VF limit implies it.
      rintro ⟨rfl, himplied⟩
      exact hc.implied a ha b hb himplied (adapterKey_eq_of_scopeKey hscope.symm) hnb
  · exact .inl (hs.same b.pf b.firmware n (.inl hscope))

/-- **Step of the pass.** -/
theorem PassInv.step (hc : Consistent as) {done : List Assignment} (ha : a ∈ as)
    (hinv : PassInv r h as t₀ done j t) (hs : StoredBy r h a (r.Pends h as t a) t t' j j') :
    PassInv r h as t₀ (done ++ [a]) j' t' := by
  have hcalm := fun b (hb : b ∈ as) n hnb hclear => (hs.calm hc ha hb (n := n) hnb hclear).1
  have hpends : ∀ n, r.Pends h as t a n → r.Pends h as t₀ a n := fun n hn =>
    ⟨hn.1, (hinv.calm a ha n hn.2.1 hn.2.2.1).drifts hn.2⟩
  -- An entry stays: a setting of the journal does not drift, so no step replaces it.
  have hkept : ∀ e ∈ j, e ∈ j' := by
    intro e he
    rcases hs.journal.old e he with he' | ⟨n, hn, hfor, -⟩
    · exact he'
    · obtain ⟨a1, -, n1, -, -, rfl, hshared⟩ := hinv.journal e he
      obtain ⟨hscope, hname⟩ := hfor
      have hname' : n1 = n := hname
      subst hname'
      exact absurd hn.1.2 (hshared a ha hn.1.2.1 hscope.symm).not_drifts
  refine ⟨?_, ?_, ?_, ?_⟩
  · refine extends_trans hinv.events hs.events (fun e he => ?_)
      fun e he => .inr ⟨a, ha, he.mono hpends fun n hn => hn⟩
    refine he.imp_right fun ⟨b, hb, hstore⟩ => ⟨b, hb, ?_⟩
    exact hstore.mono (fun n hn => hn) fun n hn => hkept _ hn
  · exact fun b hb n hnb hclear => (hinv.calm b hb n hnb hclear).trans (hcalm b hb n hnb hclear)
  · intro b hdone hb n hn
    have hbefore : r.Pends h as t b n := ⟨hn.1, (hcalm b hb n hn.2.1 hn.2.2.1).drifts hn.2⟩
    rcases mem_append.mp hdone with hdone | hdone
    · exact hinv.settled b hdone hb n hbefore
    · obtain rfl := mem_singleton.mp hdone
      exact ((hs.calm hc ha hb hn.2.1 hn.2.2.1).2 rfl hbefore).not_drifts hn.2
  · intro e he
    rcases hs.journal.new e he with he | ⟨n, ⟨hn, hresets⟩, rfl⟩
    · obtain ⟨a1, ha1, n, hn, hresets, rfl, hshared⟩ := hinv.journal e he
      refine ⟨a1, ha1, n, hn, hresets, rfl, fun b hb hnb hscope => ?_⟩
      exact (hshared b hb hnb hscope).calm (hcalm b hb n hnb (hn.2.2.1.of_scope hscope.symm))
    · have hcalm₀ := hinv.calm a ha n hn.2.1 hn.2.2.1
      refine ⟨a, ha, n, hpends n hn, hcalm₀.resets hresets, rfl, fun b hb hnb hscope => ?_⟩
      have hclear : Clear (adapterConflicts as) b n := hn.2.2.1.of_scope hscope.symm
      exact Restored.of_calm (hinv.calm b hb n hnb hclear)
        ((hs.calm hc ha hb hnb hclear).2 hscope hn)

/-- Before the first port. -/
theorem passInv_of_passive (hw : Works r h) (hp : Passive t₀ t) : PassInv r h as t₀ [] [] t where
  events := hp.imp fun _ hnew => ⟨hnew.1, fun e he => .inl (hnew.2 e he)⟩
  calm := fun a _ n _ _ => .inl (hw.foundAt_passive hp)
  settled := fun a ha => by cases ha
  journal := fun e he => by cases he

/-- Reading changes nothing for the pass. -/
theorem PassInv.passive (hw : Works r h) {done : List Assignment}
    (hinv : PassInv r h as t₀ done j t) (hp : Passive t t') : PassInv r h as t₀ done j t' where
  events := extends_trans hinv.events hp (fun _ => id) fun _ he => .inl he
  calm := fun a ha n hn hclear => (hinv.calm a ha n hn hclear).trans (.inl (hw.foundAt_passive hp))
  settled := fun a hdone ha n hn => by
    refine hinv.settled a hdone ha n ⟨hn.1, ?_⟩
    exact Calm.drifts (.inl (hw.foundAt_passive hp)) hn.2
  journal := fun e he => by
    obtain ⟨a, ha, n, hn, hresets, heq, hshared⟩ := hinv.journal e he
    refine ⟨a, ha, n, hn, hresets, heq, fun b hb hnb hscope => ?_⟩
    exact (hshared b hb hnb hscope).calm (.inl (hw.foundAt_passive hp))

/-- **Run of the pass.** -/
theorem firmwarePass_settles (hw : Works r h) (hc : Consistent as) (hp : Passive t₀ t) :
    Meets (firmwarePass h r as []) t (fun _ => True) fun (st : FirmwareState) t' =>
      PassInv r h as t₀ as st.journal t' := by
  refine meets_foldlM_done (S := fun done (st : FirmwareState) t' =>
    PassInv r h as t₀ done st.journal t') ?_ (passInv_of_passive hw hp)
  intro done a rest hsplit st t' hinv
  have ha : a ∈ as := by
    rw [hsplit]
    simp
  refine (firmware_stores hw (hc.valued a ha)).bind fun p t'' hs => meets_pure ?_
  exact hinv.step hc ha hs

end Pass

/-! ### A pass that only reads -/

section QuietPass

variable {r : Reconciler} {h : Host} {as : List Assignment} {t t' t'' : List Event} {j : Journal}

/-- The pass over the ports `done` stored nothing; its findings and the reboot flag follow from the
    statuses at its start. -/
structure QuietPass (r : Reconciler) (h : Host) (as : List Assignment) (t : List Event)
    (j : Journal) (done : List Assignment) (st : FirmwareState) (t' : List Event) : Prop where
  passive : Passive t t'
  journal_eq : st.journal = j
  reported : ∀ a ∈ done, ∀ n ∈ settingNames a.firmware, ∃ f ∈ st.findings, a.IsAbout n f
  findings : ∀ f ∈ st.findings, ∃ a ∈ done, ∃ n ∈ settingNames a.firmware, a.IsAbout n f ∧
    (r.statusAt h (adapterConflicts as) t j a n = .applied → f.status = .applied)
  reboot_iff : st.reboot = true ↔ ∃ a ∈ done, ∃ n ∈ settingNames a.firmware,
    r.statusAt h (adapterConflicts as) t j a n = .applied

/-- Reading does not change a status. -/
theorem statusAt_passive (hw : Works r h) (hp : Passive t t') (conflicts : GoMap String String)
    (a : Assignment) (n : SettingName) :
    r.statusAt h conflicts t' j a n = r.statusAt h conflicts t j a n := by
  simp only [Reconciler.statusAt, Reconciler.activeAt, hw.foundAt_passive hp]

/-- **Step of a quiet pass.** -/
theorem QuietPass.step (hw : Works r h) {done : List Assignment} {st : FirmwareState}
    {a : Assignment} {p : Progress} {pending : Pending} (hq : QuietPass r h as t j done st t')
    (hs : QuietStep r h (adapterConflicts as) t' st.journal a p t'') :
    QuietPass r h as t j (done ++ [a])
      ⟨st.findings ++ p.findings, st.reboot || p.reboot, pending, p.journal⟩ t'' := by
  have hstatus : ∀ n, r.statusAt h (adapterConflicts as) t' st.journal a n =
      r.statusAt h (adapterConflicts as) t j a n := fun n => by
    rw [statusAt_passive hw hq.passive, hq.journal_eq]
  refine ⟨hq.passive.trans hs.passive, hs.journal_eq.trans hq.journal_eq, ?_, ?_, ?_⟩
  · intro b hb n hn
    rcases mem_append.mp hb with hb | hb
    · grind [hq.reported]
    · grind [hs.reported]
  · intro f hf
    rcases mem_append.mp hf with hf | hf
    · grind [hq.findings]
    · grind [hs.findings]
  · simp_all [hq.reboot_iff, hs.reboot_iff]

/-- **Run of a quiet pass.** -/
theorem firmwarePass_quiet (hw : Works r h) (hquiet : ∀ a ∈ as, ∀ n, ¬ r.Pends h as t a n) :
    Meets (firmwarePass h r as j) t (fun _ => True) (QuietPass r h as t j as) := by
  refine meets_foldlM_done (S := fun done st t' => QuietPass r h as t j done st t') ?_ ?_
  · intro done a rest hsplit st t' hq
    have ha : a ∈ as := by
      rw [hsplit]
      simp
    refine (firmware_quiet hw fun happly n hdrift => ?_).bind fun p t'' hs => meets_pure ?_
    · exact hquiet a ha n ⟨happly, Calm.drifts (.inl (hw.foundAt_passive hq.passive)) hdrift⟩
    · exact hq.step hw hs
  · exact ⟨.refl t, rfl, fun a ha => (by cases ha), fun f hf => (by cases hf), by simp⟩

end QuietPass

end Booty.Sriov
