import Booty.Sriov.FirmwarePass

namespace Booty.Sriov

open Booty.Lib Booty.Lib.Logged List Option Assignment Function JournalEntry PF Passive Reconciler

/-!
# Runs of the reconcile up to the reboot and behind it

A run that stores firmware settings needs a reset; a later run of the same boot must neither forget
it nor store the settings again, and a run behind the reboot must find nothing to do.

* `profilesOf_map`, `pends_over`, `statusAt_over` — what a run does depends on the ports, not on the
  state that it changes.
* `run_settles`, `run_quiet` — one run; `runs_settle` — the runs of a boot.
* `pending_reset_kept` — the runs up to the reboot and the first one behind it.
-/

/-! ### Ports over time -/

/-- The assignment with another report of the port. -/
def Assignment.over (f : PF → PF) (a : Assignment) : Assignment := ⟨a.profile, f a.pf⟩

section Over

variable {r : Reconciler} {h : Host} {as as' : List Assignment} {a a' : Assignment}
  {t t' : List Event} {j : Journal} {n : SettingName} {f : PF → PF}

section

variable (hmatch : ∀ m pf, Match.matches r.text m (f pf) = m.matches r.text pf)
  (hname : ∀ pf : PF, (f pf).interface = pf.interface)
include hmatch hname

/-- The profiles of the ports depend on what a match reads. -/
theorem profilesOf_map (pfs : List PF) :
    r.profilesOf (pfs.map f) = (r.profilesOf pfs).map (Assignment.over f) := by
  have hof : ∀ pf, matchesOf r.text r.config.profiles (f pf) =
      matchesOf r.text r.config.profiles pf := fun pf => by
    simp only [matchesOf, hmatch]
  have hambiguous : ∀ pf, ambiguous r.text r.config.profiles (f pf) =
      ambiguous r.text r.config.profiles pf := fun pf => by
    simp only [ambiguous, hof, hname]
  simp only [profilesOf, assign, filterMap_map, comp_def, hambiguous, hof]
  split_ifs
  · rfl
  · simp only [List.map_filterMap, Option.map_map, Function.comp_def, Assignment.over]

theorem assigned_over (hports : (h.ports t').map f = (h.ports t).map f) :
    (r.assigned h t').map (·.over f) = (r.assigned h t).map (·.over f) := by
  rw [assigned, assigned, ← profilesOf_map hmatch hname, ← profilesOf_map hmatch hname, hports]

end

theorem exists_over (has : as'.map (·.over f) = as.map (·.over f)) (ha : a' ∈ as') :
    ∃ a ∈ as, a'.over f = a.over f := by
  have hmem : a'.over f ∈ as.map (·.over f) := has ▸ mem_map_of_mem ha
  obtain ⟨a, ha, heq⟩ := mem_map.mp hmem
  exact ⟨a, ha, heq.symm⟩

/-- What a report does not change is the same on both ports. -/
theorem eq_of_over {β : Type} (g : Assignment → β) (hg : ∀ b : Assignment, g (b.over f) = g b)
    (ha : a'.over f = a.over f) : g a' = g a := by
  rw [← hg a', ha, hg a]

theorem ident_of_still (ha : a'.over still = a.over still) : a'.over ident = a.over ident :=
  eq_of_over (·.over ident) (fun _ => rfl) ha

theorem map_ident_of_still (has : as'.map (·.over PF.still) = as.map (·.over PF.still)) :
    as'.map (·.over PF.ident) = as.map (·.over PF.ident) := by
  have hmap := congrArg (List.map (Assignment.over PF.ident)) has
  rw [List.map_map, List.map_map] at hmap
  exact hmap

theorem profile_of_ident (ha : a'.over ident = a.over ident) : a'.profile = a.profile :=
  eq_of_over profile (fun _ => rfl) ha

theorem firmware_of_ident (ha : a'.over ident = a.over ident) : a'.firmware = a.firmware :=
  eq_of_over Assignment.firmware (fun _ => rfl) ha

theorem want_of_ident (ha : a'.over ident = a.over ident) (n : SettingName) :
    a'.want n = a.want n :=
  eq_of_over (·.want n) (fun _ => rfl) ha

theorem scopeKey_ident (pf : PF) (n : SettingName) : scopeKey pf.ident n = scopeKey pf n := by aesop

theorem scopeKey_of_ident (ha : a'.over ident = a.over ident) (n : SettingName) :
    scopeKey a'.pf n = scopeKey a.pf n :=
  eq_of_over (fun b => scopeKey b.pf n) (fun b => scopeKey_ident b.pf n) ha

theorem foundAt_of_ident (hw : Works r h) (ha : a'.over PF.ident = a.over PF.ident) :
    r.foundAt h t a'.pf a'.firmware n = r.foundAt h t a.pf a.firmware n := by
  have hpf : a'.pf.ident = a.pf.ident := congrArg Assignment.pf ha
  have hbackends : (backendsFor r.backends a'.pf r.config.tools).1 =
      (backendsFor r.backends a.pf r.config.tools).1 := by
    have hhandling : (r.backends.zipIdx.filter fun p => p.1.supports a'.pf) =
        r.backends.zipIdx.filter fun p => p.1.supports a.pf := by
      refine filter_congr fun p hp => ?_
      exact hw.supports_ident p.1 (fst_mem_of_mem_zipIdx hp) _ _ hpf
    simp only [backendsFor, hhandling]
  simp only [Reconciler.foundAt, Host.value, hbackends, firmware_of_ident ha,
    fun b want => hw.reads_ident t b want _ _ hpf]

theorem conflicts_of_ident (has : as'.map (·.over ident) = as.map (·.over ident)) :
    adapterConflicts as' = adapterConflicts as := by
  have hident : ∀ l : List Assignment,
      adapterConflicts (l.map (·.over ident)) = adapterConflicts l := fun l => by
    rw [adapterConflicts, foldl_map]
    rfl
  rw [← hident as', has, hident as]

/-- What a step stores depends on what identifies the ports. -/
theorem pends_over (hw : Works r h) (has : as'.map (·.over ident) = as.map (·.over ident))
    (ha : a'.over ident = a.over ident) (hpends : r.Pends h as' t a' n) :
    r.Pends h as t a n := by
  obtain ⟨happly, hname, hclear, q, hq, hne⟩ := hpends
  refine ⟨?_, firmware_of_ident ha ▸ hname, ?_, q, (foundAt_of_ident hw ha).symm.trans hq, ?_⟩
  · grind [Applies, profile_of_ident]
  · rw [← conflicts_of_ident has, Clear, conflictKey, ← scopeKey_of_ident ha]
    exact hclear
  · rw [← want_of_ident ha]
    exact hne

/-- What a step reports also depends on the active values. -/
theorem statusAt_over (hw : Works r h) (has : as'.map (·.over still) = as.map (·.over still))
    (ha : a'.over still = a.over still) :
    r.statusAt h (adapterConflicts as') t j a' n = r.statusAt h (adapterConflicts as) t j a n := by
  have hident := ident_of_still ha
  have hkernel : kernelActive a'.pf n = kernelActive a.pf n :=
    eq_of_over (fun b => kernelActive b.pf n) (fun _ => rfl) ha
  unfold statusAt activeAt conflictKey
  rw [hkernel, conflicts_of_ident (map_ident_of_still has), scopeKey_of_ident hident,
    want_of_ident hident, foundAt_of_ident hw hident]

/-- A finding is about one of the ports. -/
theorem eq_of_isAbout (hw : Works r h) {f : Finding} {n' : SettingName} (ha : a ∈ r.assigned h t)
    (ha' : a' ∈ r.assigned h t) (habout : a.IsAbout n f) (habout' : a'.IsAbout n' f) :
    a = a' ∧ n = n' := by
  refine ⟨?_, habout.2.2.2.symm.trans habout'.2.2.2⟩
  unfold assigned profilesOf assign at ha ha'
  simp only at ha ha'
  split_ifs at ha ha' with herrs
  · cases ha
  · obtain ⟨pf, hpf, heq⟩ := mem_filterMap.mp ha
    obtain ⟨pf', hpf', heq'⟩ := mem_filterMap.mp ha'
    obtain ⟨p, hp, rfl⟩ := map_eq_some_iff.mp heq
    obtain ⟨p', hp', rfl⟩ := map_eq_some_iff.mp heq'
    have hname : pf.interface = pf'.interface := habout.2.1.symm.trans habout'.2.1
    obtain rfl := inj_on_of_nodup_map (hw.distinct t) hpf hpf' hname
    rw [hp] at hp'
    rw [some.inj hp']

end Over

/-! ### One run -/

section Run

variable {r : Reconciler} {h : Host} {t t' : List Event} {j : Journal}

theorem profilesOf_nil (hnone : r.config.profiles = []) (pfs : List PF) :
    r.profilesOf pfs = [] := by
  simp [profilesOf, assign, ambiguous, matchesOf, hnone]

theorem level_matched {profiles : List Profile} {x : MatchText} {pfs : List PF}
    {p : List Assignment × List Finding} (hassign : assign x profiles pfs = .ok p) :
    ∀ f ∈ p.2, f.level = .portMatch := by
  unfold assign at hassign
  simp only at hassign
  split_ifs at hassign
  obtain rfl := Except.ok.inj hassign
  intro f hf
  obtain ⟨profile, -, rfl⟩ := mem_map.mp hf
  unfold matchFinding
  simp only
  split_ifs <;> rfl

/-- The runtime part of a run stores no firmware setting. -/
theorem runtime_passive (as : List Assignment) (pending : Pending) :
    Meets (r.runtime h as pending) t (fun _ => True) fun fs t' =>
      Passive t t' ∧ ∀ f ∈ fs, f.level = .runtime := by
  have hadmits : Admits (Passive t) := by
    intro t1 e ht1 he
    refine ht1.concat ?_
    cases e with
    | apply b pf c answer => cases he
    | reboot => cases he
    | _ => rfl
  unfold Reconciler.runtime
  split
  · exact (runtimePass_asks hadmits _ _ as pending t (.refl t)).mono (fun _ _ => trivial)
      fun _ _ hq => hq
  · refine meets_pure ⟨.refl t, fun f hf => ?_⟩
    obtain ⟨a, -, rfl⟩ := mem_map.mp hf
    rfl

/-- **A run** on a working host ends without assignments, or it is the part behind the discovery. -/
theorem meets_run (hw : Works r h) {Q : RunOutcome → List Event → Prop}
    (hnone : ∀ (o : RunOutcome) t', Passive t t' → r.assigned h t = [] → o.journal = j →
      o.result = {} → Q o t')
    (hrest : ∀ matched : List Finding, (∀ f ∈ matched, f.level = .portMatch) →
      Meets (r.reconcile h j (r.assigned h t) matched) (t ++ [.discover]) (fun _ => True) Q) :
    Meets (r.run h j) t (fun _ => True) Q := by
  unfold run
  split
  next hempty => exact meets_pure (hnone _ t (.refl t) (profilesOf_nil hempty _) rfl rfl)
  · obtain ⟨pfs, hpfs⟩ := hw.discovers t
    have hassigned : r.assigned h t = r.profilesOf pfs := by
      simp only [assigned, Host.ports, hpfs]
    have hpassive : Passive t (t ++ [.discover]) := (refl t).concat rfl
    refine (meets_ask (Q := fun answer t' => answer = .ok pfs ∧ t' = t ++ [.discover])
      ⟨hpfs, rfl⟩).bind fun answer t' hanswer => ?_
    obtain ⟨rfl, rfl⟩ := hanswer
    simp only
    cases hassign : assign r.text r.config.profiles pfs with
    | error e =>
      exact meets_pure (hnone _ _ hpassive (by rw [hassigned, profilesOf, hassign]) rfl rfl)
    | ok p =>
      rw [hassigned, profilesOf, hassign] at hrest
      exact hrest p.2 (level_matched hassign)

/-- **The first run** of a boot stores what drifted, and then nothing drifts. -/
theorem run_settles (hw : Works r h) (hc : Consistent (r.assigned h t)) :
    Meets (r.run h []) t (fun _ => True) fun o t' =>
      PassInv r h (r.assigned h t) t (r.assigned h t) o.journal t' := by
  refine meets_run hw (fun o t' hp hempty hjournal _ => ?_) fun matched _ => ?_
  · grind [passInv_of_passive]
  · refine (firmwarePass_settles hw hc ((refl t).concat rfl)).bind fun fw t1 hinv => ?_
    exact (runtime_passive _ fw.pending).bind fun rt t2 hrt => meets_pure (hinv.passive hw hrt.1)

/-- A run that stores nothing. -/
structure QuietRun (r : Reconciler) (h : Host) (t : List Event) (j : Journal) (o : RunOutcome)
    (t' : List Event) : Prop where
  passive : Passive t t'
  journal_eq : o.journal = j
  reported : ∀ a ∈ r.assigned h t, ∀ n ∈ settingNames a.firmware,
    ∃ f ∈ o.result.findings, a.IsAbout n f
  findings : ∀ f ∈ o.result.findings, f.level = .firmware →
    ∃ a ∈ r.assigned h t, ∃ n ∈ settingNames a.firmware, a.IsAbout n f ∧
      (r.statusAt h (adapterConflicts (r.assigned h t)) t j a n = .applied → f.status = .applied)
  reboot_iff : o.result.reboot = true ↔ ∃ a ∈ r.assigned h t, ∃ n ∈ settingNames a.firmware,
    r.statusAt h (adapterConflicts (r.assigned h t)) t j a n = .applied

/-- **A run without a drifted setting** only reads. -/
theorem run_quiet (hw : Works r h)
    (hquiet : ∀ a ∈ r.assigned h t, ∀ n, ¬ r.Pends h (r.assigned h t) t a n) :
    Meets (r.run h j) t (fun _ => True) (QuietRun r h t j) := by
  have hdiscover : Passive t (t ++ [.discover]) := (refl t).concat rfl
  refine meets_run hw (fun o t' hp hempty hjournal hresult => ?_) fun matched hmatched => ?_
  · refine ⟨hp, hjournal, ?_, ?_, ?_⟩
    · simp [hempty]
    · simp [hresult]
    · simp [hempty, hresult]
  · refine (firmwarePass_quiet hw fun a ha n hn => ?_).bind fun fw t1 hfw => ?_
    · exact hquiet a ha n ⟨hn.1, Calm.drifts (.inl (hw.foundAt_passive hdiscover)) hn.2⟩
    refine (runtime_passive _ fw.pending).bind fun rt t2 hrt => meets_pure ?_
    refine ⟨(hdiscover.trans hfw.passive).trans hrt.1, hfw.journal_eq, ?_, ?_, ?_⟩
    · grind [hfw.reported]
    · intro f hf hlevel
      -- Only the pass over the ports reports firmware settings.
      rcases mem_append.mp hf with hf | hf
      · rcases mem_append.mp hf with hf | hf
        · grind
        · grind [hfw.findings, statusAt_passive]
      · rw [hrt.2 f hf] at hlevel
        cases hlevel
    · simp only [statusAt_passive hw hdiscover, hfw.reboot_iff]

end Run

/-! ### The runs of a boot -/

/-- A boot: what was asked of the host, and the journal of the stored settings. -/
structure Boot where
  events : List Event := []
  journal : Journal := []

/-- The reboot: the journal is gone. -/
def Boot.reboot (b : Boot) : Boot := ⟨b.events ++ [.reboot], []⟩

namespace Reconciler

variable (r : Reconciler) (h : Host)

/-- What a run returns. -/
def outcome (b : Boot) : RunOutcome := (r.run h b.journal).value b.events

/-- The boot after a run. -/
def next (b : Boot) : Boot := ⟨(r.run h b.journal b.events).2, (r.outcome h b).journal⟩

/-- The boot after some runs. -/
def runs (n : Nat) (b : Boot) : Boot := (r.next h)^[n] b

/-- What a run asked of the host. -/
def issued (b : Boot) : List Event := (r.next h b).events.drop b.events.length

/-- The active value of every setting that a run would store with a reset is known to the ports that
    share it, and it is not the wanted one. -/
def Known (t : List Event) : Prop :=
  ∀ a ∈ r.assigned h t, ∀ n, r.Pends h (r.assigned h t) t a n → r.Resets h t a n →
    ∀ b ∈ r.assigned h t, n ∈ settingNames b.firmware → scopeKey b.pf n = scopeKey a.pf n →
      (r.foundAt h t b.pf b.firmware n).isSome = true ∧
        r.activeAt h t b.pf b.firmware n ≠ "" ∧ r.activeAt h t b.pf b.firmware n ≠ b.want n

end Reconciler

section Boots

variable {r : Reconciler} {h : Host} {t t0 : List Event} {j : Journal} {b : Boot}

theorem next_quiet (hw : Works r h)
    (hquiet : ∀ a ∈ r.assigned h b.events, ∀ n, ¬ r.Pends h (r.assigned h b.events) b.events a n) :
    QuietRun r h b.events b.journal (r.outcome h b) (r.next h b).events :=
  (run_quiet hw hquiet).value

/-- A quiet run issues no apply. -/
theorem QuietRun.issued_passive (hq : QuietRun r h b.events j (r.outcome h b) (r.next h b).events) :
    ∀ e ∈ r.issued h b, e.passive = true := by
  obtain ⟨new, hnew, hpassive⟩ := hq.passive
  rw [issued, hnew, drop_left]
  exact hpassive

/-- Up to the reboot the discovery reports the same ports. -/
theorem PassInv.assigned_still (hw : Works r h) {as done : List Assignment}
    (hinv : PassInv r h as t0 done j t) :
    (r.assigned h t).map (·.over still) = (r.assigned h t0).map (·.over still) := by
  refine assigned_over (fun _ _ => rfl) (fun _ => rfl) ?_
  obtain ⟨new, rfl, hnew⟩ := hinv.events
  have hreboot : ∀ e ∈ new, e ≠ .reboot := by
    rintro e he rfl
    rcases hnew _ he with hpassive | ⟨a, -, hstore⟩
    · cases hpassive
    · exact hstore
  clear hinv hnew
  induction new using reverseRecOn with
  | nil => simp
  | append_singleton new e ih => grind [hw.ports_still]

/-- After the first run there is nothing left to store. -/
theorem PassInv.quiet (hw : Works r h)
    (hinv : PassInv r h (r.assigned h t0) t0 (r.assigned h t0) j t) :
    ∀ a ∈ r.assigned h t, ∀ n, ¬ r.Pends h (r.assigned h t) t a n := by
  intro a ha n hn
  have has := map_ident_of_still (hinv.assigned_still hw)
  obtain ⟨a0, ha0, hover⟩ := exists_over has ha
  exact hinv.settled a0 ha0 ha0 n (pends_over hw has hover hn)

theorem stored_survives (hw : Works r h) (pf : PF) (want : FirmwareSettings) (n : SettingName) :
    (r.foundAt h (t ++ [.reboot]) pf want n).map (·.2.1) =
      (r.foundAt h t pf want n).map (·.2.1) := by
  unfold foundAt
  induction (backendsFor r.backends pf r.config.tools).1 with
  | nil => rfl
  | cons b l ih =>
    have hsurvives := hw.survives t b.1 pf want n
    cases hv : h.value (t ++ [.reboot]) b.1 pf want n with
    | none => simp_all
    | some p => aesop

/-- Neither is there behind the reboot. -/
theorem quiet_reboot (hw : Works r h)
    (hquiet : ∀ a ∈ r.assigned h t, ∀ n, ¬ r.Pends h (r.assigned h t) t a n) :
    ∀ a ∈ r.assigned h (t ++ [.reboot]), ∀ n,
      ¬ r.Pends h (r.assigned h (t ++ [.reboot])) (t ++ [.reboot]) a n := by
  intro a ha n hn
  have has : (r.assigned h (t ++ [.reboot])).map (·.over ident) =
      (r.assigned h t).map (·.over ident) :=
    assigned_over (fun _ _ => rfl) (fun _ => rfl) (hw.ports_ident t)
  obtain ⟨a0, ha0, hover⟩ := exists_over has ha
  obtain ⟨happly, hname, hclear, q, hq, hne⟩ := pends_over hw has hover hn
  have hstored := stored_survives (t := t) hw a0.pf a0.firmware n
  rw [hq] at hstored
  obtain ⟨q', hq', hsame⟩ := map_eq_some_iff.mp hstored.symm
  exact hquiet a0 ha0 n ⟨happly, hname, hclear, q', hq', hsame ▸ hne⟩

/-- Without a journal nothing is applied. -/
theorem statusAt_ne_applied {conflicts : GoMap String String} {a : Assignment} {n : SettingName} :
    r.statusAt h conflicts t [] a n ≠ .applied := by
  have hnone : Journal.has [] (scopeKey a.pf n) n (a.want n) = false := rfl
  unfold statusAt itemStatus
  split_ifs <;> simp_all

/-- **A stored setting is reported as applied** by every port that shares it. -/
theorem PassInv.statusAt_applied (hw : Works r h) (hc : Consistent (r.assigned h t0))
    (hk : r.Known h t0) (hinv : PassInv r h (r.assigned h t0) t0 (r.assigned h t0) j t)
    {a b : Assignment} {n : SettingName} (hentry : a.entry n ∈ j) (hb : b ∈ r.assigned h t)
    (hn : n ∈ settingNames b.firmware) (hscope : scopeKey b.pf n = scopeKey a.pf n) :
    r.statusAt h (adapterConflicts (r.assigned h t)) t j b n = .applied := by
  have has := hinv.assigned_still hw
  obtain ⟨b0, hb0, hover⟩ := exists_over has hb
  have hident := ident_of_still hover
  have hn0 : n ∈ settingNames b0.firmware := firmware_of_ident hident ▸ hn
  obtain ⟨a0, ha0, m, hpends, hresets, heq, hshared⟩ := hinv.journal _ hentry
  have hm : n = m := congrArg setting heq
  subst hm
  have hscope0 : scopeKey b0.pf n = scopeKey a0.pf n :=
    (scopeKey_of_ident hident n).symm.trans (hscope.trans (congrArg scope heq))
  have hclear : Clear (adapterConflicts (r.assigned h t0)) b0 n :=
    hpends.2.2.1.of_scope hscope0.symm
  have hwant : a0.want n = b0.want n := hc.want_eq ha0 hb0 hpends.2.1 hn0 hscope0.symm hpends.2.2.1
  obtain ⟨hsome, hactive, hother⟩ := hk a0 ha0 n hpends hresets b0 hb0 hn0 hscope0
  obtain ⟨q, hq⟩ := isSome_iff_exists.mp hsome
  -- The pass has changed the stored value for every port of the scope.
  have hnow : r.foundAt h t b0.pf b0.firmware n = some (restore (b0.want n) q) := by
    rw [hshared b0 hb0 hn0 hscope0, hq]
    rfl
  have hactive_eq : r.activeAt h t b0.pf b0.firmware n = r.activeAt h t0 b0.pf b0.firmware n := by
    simp only [activeAt, hnow, hq]
    rfl
  have hentry0 : b0.entry n = a.entry n := by
    rw [heq, entry, entry, hscope0, hwant]
  have hhas : j.has (scopeKey b0.pf n) n (b0.want n) = true := Journal.has_of_mem (hentry0 ▸ hentry)
  unfold Clear at hclear
  rw [statusAt_over hw has hover, statusAt, if_pos hclear, hactive_eq, hhas]
  simp [itemStatus, hnow, restore, hactive, hother]

/-- **Runs of a boot.** -/
theorem runs_settle (hw : Works r h) (hc : Consistent (r.assigned h b.events))
    (hempty : b.journal = []) (k : Nat) :
    PassInv r h (r.assigned h b.events) b.events (r.assigned h b.events)
        (r.runs h (k + 1) b).journal (r.runs h (k + 1) b).events ∧
      (r.runs h (k + 1) b).journal = (r.runs h 1 b).journal := by
  induction k with
  | zero =>
    refine ⟨?_, rfl⟩
    have hfirst := (run_settles hw hc).value
    rw [← hempty] at hfirst
    exact hfirst
  | succ k ih =>
    obtain ⟨hinv, hjournal⟩ := ih
    have hsucc : r.runs h (k + 2) b = r.next h (r.runs h (k + 1) b) := iterate_succ_apply' _ _ _
    have hq := next_quiet hw (hinv.quiet hw)
    rw [hsucc]
    refine ⟨?_, hq.journal_eq.trans hjournal⟩
    have hkept : (r.next h (r.runs h (k + 1) b)).journal = (r.runs h (k + 1) b).journal :=
      hq.journal_eq
    rw [hkept]
    exact hinv.passive hw hq.passive

/-- A change that needs a reset comes from the first run, and the journal has its settings. -/
theorem stored_by_first (hw : Works r h) (hc : Consistent (r.assigned h b.events))
    (hempty : b.journal = []) {i place : Nat} {pf : PF} {c : FirmwareSettings}
    (hevent : .apply place pf c (.ok true) ∈ r.issued h (r.runs h i b)) :
    ∃ a ∈ r.assigned h b.events, a.pf = pf ∧ ∃ ds, ds ≠ [] ∧ c = changeFor a.firmware ds ∧
      ∀ n ∈ ds, r.Pends h (r.assigned h b.events) b.events a n ∧
        a.entry n ∈ (r.runs h 1 b).journal := by
  cases i with
  | zero =>
    obtain ⟨new, hnew, hstores⟩ := (runs_settle hw hc hempty 0).1.events
    have hnext : (r.next h b).events = b.events ++ new := hnew
    have hmem : .apply place pf c (.ok true) ∈ new := by
      rw [issued, runs, iterate_zero_apply, hnext, drop_left] at hevent
      exact hevent
    rcases hstores _ hmem with hpassive | ⟨a, ha, hpf, ds, hne, hchange, hds⟩
    · cases hpassive
    · grind
  | succ i =>
    have hquiet := next_quiet hw ((runs_settle hw hc hempty i).1.quiet hw)
    cases hquiet.issued_passive _ hevent

end Boots

/-- **Up to the reboot a run keeps what an earlier one stored, and behind it there is nothing to
    do.** -/
theorem pending_reset_kept (r : Reconciler) (h : Host) (b : Boot) (hw : Works r h)
    (hempty : b.journal = []) (hc : Consistent (r.assigned h b.events)) (hk : r.Known h b.events) :
    (∀ i k, i < k → ∀ place pf c, .apply place pf c (.ok true) ∈ r.issued h (r.runs h i b) →
      ∀ n, getSetting c n ≠ "" →
      (∀ a ∈ r.assigned h (r.runs h k b).events, n ∈ settingNames a.firmware →
        scopeKey a.pf n = scopeKey pf n →
        (∃ f ∈ (r.outcome h (r.runs h k b)).result.findings, a.IsAbout n f) ∧
        ∀ f ∈ (r.outcome h (r.runs h k b)).result.findings, a.IsAbout n f →
          f.status = .applied) ∧
      (r.outcome h (r.runs h k b)).result.reboot = true ∧
      ∀ e ∈ r.issued h (r.runs h k b), e.passive = true) ∧
    ∀ k, 0 < k →
      (∀ e ∈ r.issued h (r.runs h k b).reboot, e.passive = true) ∧
      (r.outcome h (r.runs h k b).reboot).result.reboot = false := by
  constructor
  · intro i k hik place pf c hevent n hset
    obtain ⟨k, rfl⟩ := Nat.exists_eq_add_of_lt hik
    obtain ⟨hinv, hjournal⟩ := runs_settle hw hc hempty (i + k)
    have hq := next_quiet hw (hinv.quiet hw)
    obtain ⟨a, ha, rfl, ds, hne, rfl, hds⟩ := stored_by_first hw hc hempty hevent
    have hentry : ∀ m ∈ ds, a.entry m ∈ (r.runs h (i + k + 1) b).journal := fun m hm =>
      hjournal ▸ (hds m hm).2
    refine ⟨fun b' hb' hn hscope => ⟨hq.reported b' hb' n hn, fun f hf habout => ?_⟩, ?_,
      hq.issued_passive⟩
    · -- The setting drifted itself: a VF limit that implies it is not next to this port.
      have hdrifted : n ∈ ds := by
        rcases changeFor_sets hset with hmem | ⟨rfl, hnone, -, hpos⟩
        · exact hmem
        · have hover := map_ident_of_still (hinv.assigned_still hw)
          obtain ⟨b₀, hb₀, hident⟩ := exists_over hover hb'
          have hkey := adapterKey_eq_of_scopeKey
            (hscope.symm.trans (scopeKey_of_ident hident .sriovEnabled))
          refine absurd ?_ (hc.implied a ha b₀ hb₀ ⟨hnone, hpos⟩ hkey)
          exact firmware_of_ident hident ▸ hn
      obtain ⟨b₁, hb₁, m, hm, habout₁, happlied⟩ := hq.findings f hf habout.2.2.1
      obtain ⟨rfl, rfl⟩ := eq_of_isAbout hw hb' hb₁ habout habout₁
      exact happlied (hinv.statusAt_applied hw hc hk (hentry n hdrifted) hb' hn hscope)
    · -- The port that stored a setting still reports it.
      obtain ⟨m, hm⟩ := exists_mem_of_ne_nil ds hne
      have hover := map_ident_of_still (hinv.assigned_still hw)
      obtain ⟨a', ha', hident⟩ := exists_over hover.symm ha
      have hname : m ∈ settingNames a'.firmware := firmware_of_ident hident ▸ (hds m hm).1.2.1
      refine hq.reboot_iff.mpr ⟨a', ha', m, hname, ?_⟩
      exact hinv.statusAt_applied hw hc hk (hentry m hm) ha' hname
        (scopeKey_of_ident hident m).symm
  · intro k hk'
    obtain ⟨k, rfl⟩ := Nat.exists_eq_succ_of_ne_zero (Nat.pos_iff_ne_zero.mp hk')
    have hq := next_quiet (b := (r.runs h (k + 1) b).reboot) hw
      (quiet_reboot hw ((runs_settle hw hc hempty k).1.quiet hw))
    refine ⟨hq.issued_passive, Bool.eq_false_iff.mpr fun hreboot => ?_⟩
    -- A setting is applied only where the journal has it, and the journal is new.
    obtain ⟨a, -, n, -, hstatus⟩ := hq.reboot_iff.mp hreboot
    exact statusAt_ne_applied hstatus

/-! ### A bench -/

namespace Bench

/-- The NV parameter of the adapter. -/
def nv : SettingName := .nvConfig "CQE_COMPRESSION"

/-- What an event does to the stored and the active value of the parameter on an adapter. -/
def step (scope : String) (v : String × String) : Event → String × String
  | .apply _ pf c (.ok _) =>
    if scopeKey pf nv = scope ∧ getSetting c nv ≠ "" then (getSetting c nv, v.2) else v
  | .reboot => (v.1, v.1)
  | _ => v

/-- The two values after a journal; both are `0` at first. -/
def state (scope : String) (t : List Event) : String × String := t.foldl (step scope) ("0", "0")

/-- The first port of the adapter. -/
def port : PF where
  interface := "eth0"
  bus := "pci"
  pciAddress := "0000:03:00.0"
  driver := "mlx5_core"

/-- The second port. -/
def sibling : PF := { port with interface := "eth1", pciAddress := "0000:03:00.1" }

/-- The answer of the NV tool, which prints the current value only where the firmware has it. -/
def read (known : Bool) (v : String × String) : FirmwareRead where
  values := { nvConfig := [⟨"CQE_COMPRESSION", v.1⟩] }
  active := { nvConfig := if known then [⟨"CQE_COMPRESSION", v.2⟩] else [] }

/-- A host with some ports, whose tool has the current values if `known`. -/
def host (ports : List PF) (known : Bool) : Host where
  inUse := fun _ => none
  master := fun _ => ""
  answerDiscover := fun _ => .ok ports
  answerRead := fun t _ pf _ => .ok (read known (state (scopeKey pf nv) t))
  answerApply := fun _ _ _ _ => .ok true
  answerNumVFs := fun _ _ _ => none
  answerEswitch := fun _ _ _ => none
  answerVF := fun _ _ _ _ _ => none

/-- A profile that turns the compression on. -/
def profile : Profile where
  name := "storage"
  portMatch := {}
  firmware := { nvConfig := [⟨"CQE_COMPRESSION", "1"⟩] }
  onDrift := some .apply

/-- A reconciler with this profile. -/
def reconciler : Reconciler where
  config := { profiles := [profile] }
  backends := [⟨"mstconfig", "opensource", fun _ => true⟩]
  hasRuntime := false
  text := ⟨fun _ => none, fun _ _ => none, asciiTables⟩

/-- The change that the first run stores. -/
def change : Event := .apply 0 port { nvConfig := [⟨"CQE_COMPRESSION", "1"⟩] } (.ok true)

theorem state_concat (scope : String) (t : List Event) (e : Event) :
    state scope (t ++ [e]) = step scope (state scope t) e := by
  simp [state]

theorem stored_ne (scope : String) (t : List Event) : (state scope t).1 ≠ "" := by
  induction t using reverseRecOn with
  | nil => simp [state]
  | append_singleton t e ih =>
    rw [state_concat]
    unfold step
    split
    · grind
    · exact ih
    · exact ih

variable (ports : List PF) (known : Bool) (t : List Event)

/-- The backend reads the parameter and nothing else. -/
theorem value_eq (b : Nat) (pf : PF) (want : FirmwareSettings) (name : SettingName) :
    (host ports known).value t b pf want name =
      if name = nv then
        some ((state (scopeKey pf nv) t).1, if known then (state (scopeKey pf nv) t).2 else "")
      else none := by
  have hne := stored_ne (scopeKey pf nv) t
  simp only [Host.value, host, readValue, read]
  generalize state (scopeKey pf nv) t = v at hne ⊢
  cases name with
  | nvConfig p =>
    by_cases hp : p = "CQE_COMPRESSION"
    · cases known <;> simp [hp, nv, getSetting, settingValue, hne]
    · have hp' : "CQE_COMPRESSION" ≠ p := fun h => hp h.symm
      simp [hp, hp', nv, getSetting, settingValue]
  | _ => aesop

theorem host_works (hdistinct : (ports.map PF.interface).Nodup) :
    Works reconciler (host ports known) where
  discovers := fun _ => ⟨_, rfl⟩
  distinct := fun _ => hdistinct
  ports_still := fun _ _ _ => rfl
  ports_ident := fun _ => rfl
  supports_ident := fun b hb _ _ _ => by
    obtain rfl := mem_singleton.mp hb
    rfl
  reads_ident := fun t _ _ pf pf' hident => by
    have hscope : scopeKey pf nv = scopeKey pf' nv := by
      rw [← scopeKey_ident, hident, scopeKey_ident]
    simp only [host, hscope]
  keeps := fun t e hpassive b pf want name => by
    rw [value_eq, value_eq, state_concat]
    cases e with
    | apply b pf c answer => cases hpassive
    | reboot => cases hpassive
    | _ => rfl
  accepts := fun _ _ _ _ => ⟨true, rfl⟩
  stores := fun t b pf c needReboot b' pf' want name hscope hset hwant => by
    rw [value_eq, value_eq, state_concat]
    split_ifs with hname
    · subst hname
      simp [step, hscope, hset]
    · subst hname
      simp [step, hscope, hset]
    · rfl
  spares := fun t b pf c needReboot b' pf' want name hspared => by
    rw [value_eq, value_eq, state_concat]
    by_cases hname : name = nv
    · subst hname
      have hno : ¬ (scopeKey pf nv = scopeKey pf' nv ∧ getSetting c nv ≠ "") := fun hboth =>
        hspared.elim (fun hne => hne hboth.1.symm) hboth.2
      simp only [step, if_neg hno]
    · simp only [if_neg hname]
  survives := fun t b pf want name => by
    rw [value_eq, value_eq, state_concat]
    split_ifs <;> rfl

/-- Every port has the profile. -/
theorem assigned_eq : reconciler.assigned (host ports known) t = ports.map (⟨profile, ·⟩) := by
  have hof : ∀ pf, matchesOf reconciler.text reconciler.config.profiles pf = [profile] :=
    fun pf => by simp [matchesOf, reconciler, profile, Match.matches]
  have hone : ∀ pf, ambiguous reconciler.text reconciler.config.profiles pf = none :=
    fun pf => by simp [ambiguous, hof]
  have hports : (host ports known).ports t = ports := rfl
  simp only [assigned, profilesOf, assign, hports, hone, hof]
  simp

theorem consistent : Consistent (reconciler.assigned (host ports known) t) := by
  rw [assigned_eq]
  refine ⟨?_, ?_, ?_⟩
  · intro a ha n hn
    obtain ⟨pf, -, rfl⟩ := mem_map.mp ha
    obtain rfl : n = nv := mem_singleton.mp hn
    exact (by decide : getSetting profile.firmware nv ≠ "")
  · intro a ha b hb n _ _ _ _
    obtain ⟨pf, -, rfl⟩ := mem_map.mp ha
    obtain ⟨pf', -, rfl⟩ := mem_map.mp hb
    rfl
  · intro a ha b _ himplies
    obtain ⟨pf, -, rfl⟩ := mem_map.mp ha
    exact absurd himplies.2 (by decide : ¬ 0 < profile.firmware.maxVFs.getD 0)

/-- Before the first run no port has the wanted value. -/
theorem known_active : reconciler.Known (host [port, sibling] true) [] := by
  intro a _ n _ _ b hb hn _
  rw [assigned_eq] at hb
  rcases mem_pair.mp hb with rfl | rfl
  all_goals
    obtain rfl : n = nv := mem_singleton.mp hn
    decide +kernel

end Bench

open Bench in
/-- Two ports of an adapter with the current values: what the first port stores is reported for both
    in a second run, which asks for the reboot again, and nothing is stored behind the reboot. -/
theorem pending_reset_kept_bench :
    change ∈ reconciler.issued (host [port, sibling] true) {} ∧
      (∀ pf ∈ [port, sibling], ∃ f ∈ (reconciler.outcome (host [port, sibling] true)
          (reconciler.runs (host [port, sibling] true) 1 {})).result.findings,
        Assignment.IsAbout ⟨profile, pf⟩ nv f ∧ f.status = .applied) ∧
      (reconciler.outcome (host [port, sibling] true)
        (reconciler.runs (host [port, sibling] true) 1 {})).result.reboot = true ∧
      ∀ e ∈ reconciler.issued (host [port, sibling] true)
        (reconciler.runs (host [port, sibling] true) 1 {}).reboot, e.passive = true := by
  have hissued : change ∈ reconciler.issued (host [port, sibling] true) {} :=
    mem_of_getElem? (i := 2) rfl
  obtain ⟨hboot, hbehind⟩ := pending_reset_kept reconciler (host [port, sibling] true) {}
    (host_works _ true (by decide)) rfl (consistent _ true []) known_active
  obtain ⟨hreported, hreboot, -⟩ :=
    hboot 0 1 Nat.zero_lt_one 0 port _ hissued nv (by decide)
  refine ⟨hissued, fun pf hpf => ?_, hreboot, (hbehind 1 Nat.zero_lt_one).1⟩
  have hscope : scopeKey pf nv = scopeKey port nv := by
    rcases mem_pair.mp hpf with rfl | rfl <;> rfl
  obtain ⟨⟨f, hf, habout⟩, happlied⟩ := hreported ⟨profile, pf⟩
    (assigned_eq _ _ _ ▸ mem_map_of_mem hpf) (mem_singleton_self nv) hscope
  exact ⟨f, hf, habout, happlied f hf habout⟩

open Bench in
/-- Without the current value the second run forgets the reset: the setting is `ok`, and no reboot
    is asked for. -/
theorem unknown_active_forgets_reset :
    Works reconciler (host [port] false) ∧
      Consistent (reconciler.assigned (host [port] false) []) ∧
      change ∈ reconciler.issued (host [port] false) {} ∧
      (reconciler.outcome (host [port] false) {}).result.reboot = true ∧
      (∃ f ∈ (reconciler.outcome (host [port] false)
          (reconciler.runs (host [port] false) 1 {})).result.findings,
        Assignment.IsAbout ⟨profile, port⟩ nv f ∧ f.status = .ok) ∧
      (reconciler.outcome (host [port] false)
        (reconciler.runs (host [port] false) 1 {})).result.reboot = false := by
  refine ⟨host_works _ false (by decide), consistent _ false [], mem_of_getElem? (i := 2) rfl,
    by decide +kernel, ?_, by decide +kernel⟩
  unfold Assignment.IsAbout
  decide +kernel

end Booty.Sriov
