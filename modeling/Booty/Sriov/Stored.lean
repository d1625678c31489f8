import Booty.Sriov.Reconcile

namespace Booty.Sriov

open Booty.Lib Booty.Lib.Logged List FirmwareView Journal Reconciler Stored

/-!
# Storing the settings of a port

What a working host does with firmware settings, and what the firmware step of one port leaves
behind on it: which settings it stores, what the backends read afterwards, and the journal.

* `Works` — the host: a stored value is read back by the ports that share the setting, and nothing
  else changes it.
* `firmware_stores` — a step stores exactly the settings that differ from the profile.
* `firmware_quiet` — a step without such a setting only reads.
-/

/-! ### Settings by name -/

theorem sriovEnabled_of_mem {want : FirmwareSettings} (h : .sriovEnabled ∈ settingNames want) :
    want.sriovEnabled ≠ none := by
  intro hnone
  simp [settingNames, hnone] at h

variable {list : List Setting} {p : Setting → Bool}

theorem settingValue_filter {name : String} (hp : ∀ s ∈ list, s.name = name → p s = true) :
    settingValue (list.filter p) name = settingValue list name := by
  have hfind : (list.filter p).find? (·.name == name) = list.find? (·.name == name) := by
    rw [find?_filter]
    refine find?_congr fun s hs => ?_
    cases hname : s.name == name with
    | false => simp
    | true => simp [hp s hs (by simpa using hname)]
  simp only [settingValue, hfind]

theorem settingValue_filter_ne {name : String}
    (h : settingValue (list.filter p) name ≠ "") : ∃ s ∈ list, s.name = name ∧ p s = true := by
  unfold settingValue at h
  split at h
  next s hs => grind
  · exact absurd rfl h

variable {ds : List SettingName}

/-- A drifted setting is set to the value of the profile. -/
theorem getSetting_changeFor {want : FirmwareSettings} {name : SettingName}
    (hname : name ∈ settingNames want) (hd : name ∈ ds) :
    getSetting (changeFor want ds) name = getSetting want name := by
  cases name with
  | sriovEnabled =>
    have hset := sriovEnabled_of_mem hname
    simp [getSetting, changeFor, hset, hd]
  | maxVFs => simp [getSetting, changeFor, hd]
  | linkType => simp [getSetting, changeFor, hd]
  | fwLLDPAgent => simp [getSetting, changeFor, hd]
  | nvConfig n =>
    exact settingValue_filter fun s _ hs => decide_eq_true (hs.symm ▸ hd)
  | devlinkParam n =>
    exact settingValue_filter fun s _ hs => decide_eq_true (hs.symm ▸ hd)
  | _ => rfl

/-- A change sets the drifted settings, and SR-IOV for a VF limit that comes without it. -/
theorem changeFor_sets {want : FirmwareSettings} {name : SettingName}
    (h : getSetting (changeFor want ds) name ≠ "") :
    name ∈ ds ∨ (name = .sriovEnabled ∧ want.sriovEnabled = none ∧ .maxVFs ∈ ds ∧
      0 < want.maxVFs.getD 0) := by
  by_contra hneither
  obtain ⟨hnot, himplied⟩ := not_or.mp hneither
  apply h
  cases name with
  | sriovEnabled =>
    have hno : ¬ (.maxVFs ∈ ds ∧ want.sriovEnabled = none ∧ 0 < want.maxVFs.getD 0) :=
      fun hi => himplied ⟨rfl, hi.2.1, hi.1, hi.2.2⟩
    simp only [getSetting, changeFor, if_neg hno, if_neg hnot, boolString]
  | maxVFs => simp [getSetting, changeFor, hnot, intString]
  | linkType => simp [getSetting, changeFor, hnot]
  | fwLLDPAgent => simp [getSetting, changeFor, hnot, boolString]
  | nvConfig n =>
    by_contra hne
    obtain ⟨s, -, hs, hp⟩ := settingValue_filter_ne hne
    exact hnot (hs ▸ of_decide_eq_true hp)
  | devlinkParam n =>
    by_contra hne
    obtain ⟨s, -, hs, hp⟩ := settingValue_filter_ne hne
    exact hnot (hs ▸ of_decide_eq_true hp)
  | _ => rfl

/-! ### A working host -/

/-- What identifies a port: the report without the state that settings change. -/
def PF.ident (pf : PF) : PF :=
  { pf with
    linkType := "", sriovCapable := false, totalVFs := 0, numVFs := 0, eswitchMode := ""
    vfs := [] }

/-- The report of a port without the state that runtime settings change. -/
def PF.still (pf : PF) : PF := { pf with numVFs := 0, eswitchMode := "", vfs := [] }

/-- An event that changes no stored value. -/
def Event.passive : Event → Bool
  | .apply _ _ _ _ => false
  | .reboot => false
  | _ => true

/-- From one journal to the other there are only such events. -/
def Passive (t t' : List Event) : Prop := ∃ new, t' = t ++ new ∧ ∀ e ∈ new, e.passive = true

theorem Passive.refl (t : List Event) : Passive t t := ⟨[], by simp⟩

theorem Passive.trans {t t' t'' : List Event} (h : Passive t t') (h' : Passive t' t'') :
    Passive t t'' :=
  extends_trans h h' (fun _ => id) fun _ => id

theorem Passive.concat {t t' : List Event} (h : Passive t t') {e : Event} (he : e.passive = true) :
    Passive t (t' ++ [e]) :=
  h.trans ⟨[e], rfl, by simpa⟩

namespace Host

variable (h : Host)

/-- The ports that a discovery reports. -/
def ports (t : List Event) : List PF :=
  match h.answerDiscover t with
  | .ok pfs => pfs
  | .error _ => []

/-- The stored and the active value of a setting, as a backend reads them. -/
def value (t : List Event) (b : Nat) (pf : PF) (want : FirmwareSettings) (name : SettingName) :
    Option (String × String) :=
  readValue (h.answerRead t b pf want) name

end Host

namespace Reconciler

variable (r : Reconciler) (h : Host)

/-- The backend of a setting on a port, the stored and the active value. -/
def foundAt (t : List Event) (pf : PF) (want : FirmwareSettings) (name : SettingName) :
    Option (Nat × String × String) :=
  (backendsFor r.backends pf r.config.tools).1.findSome? fun b =>
    (h.value t b.1 pf want name).map fun p => (b.1, p)

/-- The backend of a setting of the port, and a change of the setting for which it may ask for a
    reset.  The private flags of the Intel driver, for one, take effect at once. -/
def Resets (t : List Event) (a : Assignment) (name : SettingName) : Prop :=
  ∃ b, (r.foundAt h t a.pf a.firmware name).map Prod.fst = some b ∧
    ∃ t' c, getSetting c name ≠ "" ∧ h.answerApply t' b a.pf c = .ok true

/-- The active value of a setting on a port: what the kernel shows, else what the backend reads. -/
def activeAt (t : List Event) (pf : PF) (want : FirmwareSettings) (name : SettingName) : String :=
  if kernelActive pf name = "" then ((r.foundAt h t pf want name).map (·.2.2)).getD ""
  else kernelActive pf name

/-- The ports of a list that a profile is for; none where the profiles are ambiguous. -/
def profilesOf (pfs : List PF) : List Assignment :=
  match assign r.text r.config.profiles pfs with
  | .ok p => p.1
  | .error _ => []

/-- The ports that a profile is for, as a discovery reports them. -/
def assigned (t : List Event) : List Assignment := r.profilesOf (h.ports t)

end Reconciler

/-- **A working host.**  The discovery answers, its interfaces have distinct names, and within a
    boot it reports the same ports with the same active values.  A backend knows a port by what
    identifies it.  An accepted change is read back by every port that shares the setting and wants
    that value, nothing else changes a stored value, and no active value changes before the reboot.
    The reboot keeps the stored values; what it makes of the active ones is open. -/
structure Works (r : Reconciler) (h : Host) : Prop where
  discovers : ∀ t, ∃ pfs, h.answerDiscover t = .ok pfs
  distinct : ∀ t, ((h.ports t).map PF.interface).Nodup
  ports_still : ∀ t e, e ≠ .reboot → (h.ports (t ++ [e])).map PF.still = (h.ports t).map PF.still
  ports_ident : ∀ t, (h.ports (t ++ [.reboot])).map PF.ident = (h.ports t).map PF.ident
  supports_ident : ∀ b ∈ r.backends, ∀ pf pf' : PF, pf.ident = pf'.ident →
    b.supports pf = b.supports pf'
  reads_ident : ∀ t b want, ∀ pf pf' : PF, pf.ident = pf'.ident →
    h.answerRead t b pf want = h.answerRead t b pf' want
  keeps : ∀ t e, e.passive = true →
    ∀ b pf want name, h.value (t ++ [e]) b pf want name = h.value t b pf want name
  accepts : ∀ t b pf c, ∃ needReboot, h.answerApply t b pf c = .ok needReboot
  stores : ∀ t b pf c needReboot, ∀ b' pf' want name, scopeKey pf' name = scopeKey pf name →
    getSetting c name ≠ "" → getSetting want name = getSetting c name →
    h.value (t ++ [.apply b pf c (.ok needReboot)]) b' pf' want name =
      (h.value t b' pf' want name).map fun p => (getSetting c name, p.2)
  spares : ∀ t b pf c needReboot, ∀ b' pf' want name,
    scopeKey pf' name ≠ scopeKey pf name ∨ getSetting c name = "" →
    h.value (t ++ [.apply b pf c (.ok needReboot)]) b' pf' want name = h.value t b' pf' want name
  survives : ∀ t b pf want name, (h.value (t ++ [.reboot]) b pf want name).map (·.1) =
    (h.value t b pf want name).map (·.1)

/-! ### What the backends read -/

/-- A reading with another stored value. -/
def restore (w : String) (q : Nat × String × String) : Nat × String × String := (q.1, w, q.2.2)

section Reading

variable {r : Reconciler} {h : Host} {t t' : List Event} {pf pf' : PF} {want : FirmwareSettings}
  {name : SettingName}

variable {b : Nat}

/-- A backend with a value read it, and the value is not empty. -/
theorem read_of_value {v act : String} (hv : h.value t b pf want name = some (v, act)) :
    ∃ read, h.answerRead t b pf want = .ok read ∧ getSetting read.values name = v ∧ v ≠ "" := by
  unfold Host.value readValue at hv
  split at hv
  · cases hv
  next read hread => grind

theorem value_of_foundAt {q : Nat × String × String} (hq : r.foundAt h t pf want name = some q) :
    h.value t q.1 pf want name = some q.2 := by
  obtain ⟨b, -, hb⟩ := exists_of_findSome?_eq_some hq
  obtain ⟨p, hp, rfl⟩ := Option.map_eq_some_iff.mp hb
  exact hp

theorem foundAt_congr (hval : ∀ b, h.value t' b pf want name = h.value t b pf want name) :
    r.foundAt h t' pf want name = r.foundAt h t pf want name := by
  simp only [foundAt, hval]

/-- Reading changes no value. -/
theorem Works.value_passive (hw : Works r h) (hp : Passive t t') (b : Nat) :
    h.value t' b pf want name = h.value t b pf want name := by
  obtain ⟨new, rfl, hnew⟩ := hp
  induction new using reverseRecOn with
  | nil => simp
  | append_singleton new e ih => grind [hw.keeps]

theorem Works.foundAt_passive (hw : Works r h) (hp : Passive t t') :
    r.foundAt h t' pf want name = r.foundAt h t pf want name :=
  foundAt_congr fun b => hw.value_passive hp b

/-- A stored value is found by every port that shares the setting and wants it. -/
theorem Works.foundAt_stores (hw : Works r h) {c : FirmwareSettings} {needReboot : Bool}
    (hscope : scopeKey pf' name = scopeKey pf name) (hset : getSetting c name ≠ "")
    (hwant : getSetting want name = getSetting c name) :
    r.foundAt h (t ++ [.apply b pf c (.ok needReboot)]) pf' want name =
      (r.foundAt h t pf' want name).map (restore (getSetting c name)) := by
  unfold Reconciler.foundAt
  rw [map_findSome?]
  simp only [hw.stores t b pf c needReboot _ pf' want name hscope hset hwant, Option.map_map,
    Function.comp_def]
  rfl

/-- A store spares other settings and other ports. -/
theorem Works.foundAt_spares (hw : Works r h) {c : FirmwareSettings} {needReboot : Bool}
    (hspared : scopeKey pf' name ≠ scopeKey pf name ∨ getSetting c name = "") :
    r.foundAt h (t ++ [.apply b pf c (.ok needReboot)]) pf' want name =
      r.foundAt h t pf' want name :=
  foundAt_congr fun b' => hw.spares t b pf c needReboot b' pf' want name hspared

/-- **The view of a port** holds what the backends read at its start. -/
theorem readFirmware_found (hw : Works r h) :
    Meets (readFirmware h r.backends pf want r.config.tools) t (fun _ => True) fun v t' =>
      Passive t t' ∧ ∀ name, v.found name = r.foundAt h t pf want name := by
  -- A read changes no reading, so each backend answers as at the start.
  have hloop : ∀ (l : List (Nat × Backend)) (t1 : List Event), Passive t t1 →
      Meets (l.mapM (readBackend h pf want)) t1 (fun _ => True) fun res t' => Passive t t' ∧
        ∀ name, (res.findSome? fun x => (readValue x.answer name).map fun p => (x.place, p)) =
          l.findSome? fun b => (h.value t b.1 pf want name).map fun p => (b.1, p) := by
    intro l
    induction l with
    | nil =>
      intro t1 ht1
      exact meets_pure ⟨ht1, fun _ => rfl⟩
    | cons b l ih =>
      intro t1 ht1
      rw [mapM_cons]
      refine Meets.bind (Q := fun x t' => Passive t t' ∧
        x = ⟨b.1, b.2, h.answerRead t1 b.1 pf want⟩) ?_ fun x t2 hx => ?_
      · exact (meets_ask (Q := fun a t' => Passive t t' ∧ a = h.answerRead t1 b.1 pf want)
          ⟨ht1.concat rfl, rfl⟩).bind fun a t' ha => meets_pure ⟨ha.1, by rw [ha.2]⟩
      · refine (ih t2 hx.1).bind fun res t3 hres => meets_pure ⟨hres.1, fun name => ?_⟩
        have hfirst : readValue (h.answerRead t1 b.1 pf want) name = h.value t b.1 pf want name :=
          hw.value_passive ht1 b.1
        rw [hx.2, findSome?_cons, findSome?_cons, hres.2 name, hfirst]
  refine (hloop _ t (.refl t)).bind fun res t' hres => ?_
  exact meets_pure ⟨hres.1, fun name => hres.2 name⟩

end Reading

/-! ### The check -/

/-- The wanted value of a setting. -/
def Assignment.want (a : Assignment) (name : SettingName) : String := getSetting a.firmware name

/-- No conflict is reported for the setting. -/
def Clear (conflicts : GoMap String String) (a : Assignment) (name : SettingName) : Prop :=
  (conflicts.get (conflictKey a.pf name)).getD "" = ""

section Check

variable {a : Assignment} {v : FirmwareView} {conflicts : GoMap String String} {j : Journal}
  {name : SettingName} {q : Nat × String × String}

/-- The status of a setting without a conflict. -/
theorem checkItem_of_clear (hclear : Clear conflicts a name) :
    (checkItem a v conflicts j name).status =
      (itemStatus (firmwareItem a.firmware a.pf v name)
        (j.has (scopeKey a.pf name) name (a.want name)) (v.notes name)).1 := by
  have hnone : (conflicts.get (conflictKey a.pf name)).getD "" = "" := hclear
  simp only [checkItem, hnone]
  rfl

/-- A setting with a conflict fails. -/
theorem checkItem_of_conflict (hconflict : ¬ Clear conflicts a name) :
    (checkItem a v conflicts j name).status = .failed := by
  simp only [checkItem]
  split
  next h => exact absurd h hconflict
  · rfl

/-- A setting that a backend reads drifts iff the stored value is not the wanted one. -/
theorem checkItem_drift_iff (hq : v.found name = some q) (hne : q.2.1 ≠ "") :
    (checkItem a v conflicts j name).status = .drift ↔
      Clear conflicts a name ∧ q.2.1 ≠ a.want name := by
  by_cases hclear : Clear conflicts a name
  · rw [checkItem_of_clear hclear]
    have hstored : (firmwareItem a.firmware a.pf v name).stored = q.2.1 := by
      simp [firmwareItem, stored, hq]
    have hwant : (firmwareItem a.firmware a.pf v name).want = a.want name := rfl
    unfold itemStatus
    rw [hstored, hwant]
    by_cases heq : q.2.1 = a.want name
    · grind
    · simp [heq, hne, hclear]
  · grind [checkItem_of_conflict]

/-- The settings that a step stores. -/
theorem mem_driftedSettings (hne : ∀ name q, v.found name = some q → q.2.1 ≠ "") :
    name ∈ driftedSettings (checkFirmware a v conflicts j) v ↔
      name ∈ settingNames a.firmware ∧ Clear conflicts a name ∧
        ∃ q, v.found name = some q ∧ q.2.1 ≠ a.want name := by
  unfold driftedSettings checkFirmware
  simp only [mem_filter, mem_map, FirmwareView.owner, Option.isSome_map]
  constructor
  · rintro ⟨⟨f, ⟨⟨n, hn, rfl⟩, hdrift⟩, rfl⟩, hsome⟩
    obtain ⟨q, hq⟩ := Option.isSome_iff_exists.mp hsome
    obtain ⟨hclear, hdiff⟩ := (checkItem_drift_iff hq (hne _ q hq)).mp (of_decide_eq_true hdrift)
    exact ⟨hn, hclear, q, hq, hdiff⟩
  · rintro ⟨hn, hclear, q, hq, hdiff⟩
    have hdrift : (checkItem a v conflicts j name).status = .drift :=
      (checkItem_drift_iff hq (hne _ q hq)).mpr ⟨hclear, hdiff⟩
    exact ⟨⟨_, ⟨⟨name, hn, rfl⟩, decide_eq_true hdrift⟩, rfl⟩, by rw [hq]; rfl⟩

end Check

/-! ### The journal of the stored settings -/

/-- The journal entry of a setting that a port stored. -/
def Assignment.entry (a : Assignment) (name : SettingName) : JournalEntry :=
  ⟨scopeKey a.pf name, name, a.want name⟩

/-- The entry stands for the setting on the port. -/
def JournalEntry.isFor (e : JournalEntry) (a : Assignment) (name : SettingName) : Prop :=
  e.scope = scopeKey a.pf name ∧ e.setting = name

section StoredBy

variable {a : Assignment} {name : SettingName} {P P' : SettingName → Prop} {j j' j'' : Journal}

/-- An entry replaces the one for its setting. -/
theorem Journal.mem_add {scope value : String} {e : JournalEntry} :
    e ∈ j.add scope name value ↔
      (e ∈ j ∧ ¬ (e.scope = scope ∧ e.setting = name)) ∨ e = ⟨scope, name, value⟩ := by
  simp [add, Classical.or_iff_not_imp_left]

theorem Journal.has_of_mem (h : a.entry name ∈ j) :
    j.has (scopeKey a.pf name) name (a.want name) = true := by
  grind [has, Assignment.entry]

/-- What a journal holds after some settings of a port were stored. -/
structure JournalStep (a : Assignment) (names : SettingName → Prop) (j j' : Journal) : Prop where
  new : ∀ e ∈ j', e ∈ j ∨ ∃ n, names n ∧ e = a.entry n
  old : ∀ e ∈ j, e ∈ j' ∨ ∃ n, names n ∧ e.isFor a n ∧ a.entry n ∈ j'

theorem JournalStep.refl (a : Assignment) (j : Journal) : JournalStep a (fun _ => False) j j :=
  ⟨fun _ he => .inl he, fun _ he => .inl he⟩

/-- Two steps of a port. -/
theorem JournalStep.trans (h : JournalStep a P j j') (h' : JournalStep a P' j' j'') :
    JournalStep a (fun n => P n ∨ P' n) j j'' := by
  refine ⟨fun e he => ?_, fun e he => ?_⟩
  · grind [h'.new, h.new]
  · rcases h.old e he with he | ⟨n, hn, hfor, hentry⟩
    · grind [h'.old]
    · -- The entry was replaced; its replacement stays or is replaced by the same entry.
      rcases h'.old _ hentry with hentry | ⟨m, hm, hfor', hentry⟩
      · exact .inr ⟨n, .inl hn, hfor, hentry⟩
      · have hmn : n = m := hfor'.2
        exact .inr ⟨m, .inr hm, hmn ▸ hfor, hentry⟩

theorem JournalStep.mono (h : JournalStep a P j j') (hP : ∀ n, P n → P' n) :
    JournalStep a P' j j' :=
  ⟨fun e he => (h.new e he).imp_right fun ⟨n, hn, hrest⟩ => ⟨n, hP n hn, hrest⟩,
    fun e he => (h.old e he).imp_right fun ⟨n, hn, hrest⟩ => ⟨n, hP n hn, hrest⟩⟩

/-- An entry of the port stays in the journal. -/
theorem JournalStep.entry_mem (h : JournalStep a P j j') {n : SettingName} (hn : a.entry n ∈ j) :
    a.entry n ∈ j' := by
  rcases h.old _ hn with hn | ⟨m, -, hfor, hentry⟩
  · exact hn
  · have hmn : n = m := hfor.2
    exact hmn ▸ hentry

/-- One entry. -/
theorem journalStep_add :
    JournalStep a (· = name) j (j.add (scopeKey a.pf name) name (a.want name)) := by
  refine ⟨fun e he => ?_, fun e he => ?_⟩
  · rcases mem_add.mp he with he | rfl
    · exact .inl he.1
    · exact .inr ⟨name, rfl, rfl⟩
  · by_cases hfor : e.isFor a name
    · exact .inr ⟨name, rfl, hfor, mem_add.mpr (.inr rfl)⟩
    · exact .inl (mem_add.mpr (.inl ⟨he, hfor⟩))

/-- The entries of a store. -/
theorem journalStep_foldl (ds : List SettingName) (j : Journal) :
    let j' := ds.foldl (fun j n => j.add (scopeKey a.pf n) n (getSetting a.firmware n)) j
    JournalStep a (· ∈ ds) j j' ∧ ∀ n ∈ ds, a.entry n ∈ j' := by
  induction ds generalizing j with
  | nil => exact ⟨⟨fun _ he => .inl he, fun _ he => .inl he⟩, fun n hn => by cases hn⟩
  | cons d ds ih =>
    obtain ⟨hstep, hmem⟩ := ih (j.add (scopeKey a.pf d) d (getSetting a.firmware d))
    refine ⟨(journalStep_add.trans hstep).mono fun n hn => mem_cons.mpr hn, fun n hn => ?_⟩
    rcases mem_cons.mp hn with rfl | hn
    · exact hstep.entry_mem (mem_add.mpr (.inr rfl))
    · exact hmem n hn

/-! ### What a step stores -/

/-- A change of the VF limit would also turn SR-IOV on. -/
def Assignment.ImpliesSriov (a : Assignment) : Prop :=
  a.firmware.sriovEnabled = none ∧ 0 < a.firmware.maxVFs.getD 0

/-- A change of some settings of a port, with the entries it left. -/
def IsStore (a : Assignment) (names : SettingName → Prop) (j : Journal) : Event → Prop
  | .apply _ pf c answer => pf = a.pf ∧ ∃ ds, ds ≠ [] ∧ c = changeFor a.firmware ds ∧
      ∀ n ∈ ds, names n ∧ (answer = .ok true → a.entry n ∈ j)
  | .reboot => False
  | _ => True

/-- Between two journals of a run, the settings `names` of a port were stored and no others. -/
structure StoredBy (r : Reconciler) (h : Host) (a : Assignment) (names : SettingName → Prop)
    (t t' : List Event) (j j' : Journal) : Prop where
  wanted : ∀ n, names n → n ∈ settingNames a.firmware
  events : ∃ new, t' = t ++ new ∧ ∀ e ∈ new, IsStore a names j' e
  same : ∀ pf want name, scopeKey pf name ≠ scopeKey a.pf name ∨
    (¬ names name ∧ ¬ (name = .sriovEnabled ∧ a.ImpliesSriov)) →
    r.foundAt h t' pf want name = r.foundAt h t pf want name
  stored : ∀ pf want name, scopeKey pf name = scopeKey a.pf name → names name →
    getSetting want name = a.want name →
    r.foundAt h t' pf want name = (r.foundAt h t pf want name).map (restore (a.want name))
  journal : JournalStep a (fun n => names n ∧ r.Resets h t a n) j j'

variable {r : Reconciler} {h : Host} {t t' t'' : List Event}

/-- A setting of the profile is never the one that a VF limit implies. -/
theorem not_implied (hn : name ∈ settingNames a.firmware) :
    ¬ (name = .sriovEnabled ∧ a.ImpliesSriov) := by
  rintro ⟨rfl, himp⟩
  exact sriovEnabled_of_mem hn himp.1

theorem IsStore.mono {e : Event} (he : IsStore a P j e) (hP : ∀ n, P n → P' n)
    (hj : ∀ n, a.entry n ∈ j → a.entry n ∈ j') : IsStore a P' j' e := by
  cases e with
  | apply b pf c answer =>
    obtain ⟨hpf, ds, hne, hc, hds⟩ := he
    exact ⟨hpf, ds, hne, hc, fun n hn => ⟨hP n (hds n hn).1, fun ho => hj n ((hds n hn).2 ho)⟩⟩
  | reboot => exact he.elim
  | _ => trivial

theorem StoredBy.congr (hs : StoredBy r h a P t t' j j') (hP : ∀ n, P n ↔ P' n) :
    StoredBy r h a P' t t' j j' := by
  have heq : P = P' := funext fun n => propext (hP n)
  exact heq ▸ hs

/-- The stores of a port do not change the backends of its settings. -/
theorem StoredBy.resets (hs : StoredBy r h a P t t' j j') (hname : name ∈ settingNames a.firmware)
    (hresets : r.Resets h t' a name) : r.Resets h t a name := by
  have howner : (r.foundAt h t' a.pf a.firmware name).map Prod.fst =
      (r.foundAt h t a.pf a.firmware name).map Prod.fst := by
    by_cases hn : P name
    · rw [hs.stored a.pf a.firmware name rfl hn rfl, Option.map_map]
      rfl
    · rw [hs.same a.pf a.firmware name (.inr ⟨hn, not_implied hname⟩)]
  rw [Resets, ← howner]
  exact hresets

/-- Reading stores nothing. -/
theorem storedBy_of_passive (hw : Works r h) (hp : Passive t t') (j : Journal) :
    StoredBy r h a (fun _ => False) t t' j j where
  wanted := fun n hn => hn.elim
  events := by
    obtain ⟨new, rfl, hnew⟩ := hp
    refine ⟨new, rfl, fun e he => ?_⟩
    have hpassive := hnew e he
    cases e with
    | apply b pf c answer => cases hpassive
    | reboot => cases hpassive
    | _ => trivial
  same := fun pf want name _ => hw.foundAt_passive hp
  stored := fun pf want name _ hn => hn.elim
  journal := (JournalStep.refl a j).mono fun _ hn => hn.elim

/-- One store after another. -/
theorem StoredBy.trans (hs : StoredBy r h a P t t' j j') (hs' : StoredBy r h a P' t' t'' j' j'') :
    StoredBy r h a (fun n => P n ∨ P' n) t t'' j j'' where
  wanted := fun n hn => hn.elim (hs.wanted n) (hs'.wanted n)
  events := extends_trans hs.events hs'.events
    (fun _ he => he.mono (fun n hn => .inl hn) fun n hn => hs'.journal.entry_mem hn)
    fun _ he => he.mono (fun n hn => .inr hn) fun n hn => hn
  same := fun pf want name hsame => by
    rw [hs'.same pf want name (hsame.imp_right fun hno => ⟨fun hn => hno.1 (.inr hn), hno.2⟩),
      hs.same pf want name (hsame.imp_right fun hno => ⟨fun hn => hno.1 (.inl hn), hno.2⟩)]
  stored := fun pf want name hscope hn hwant => by
    have himplied := not_implied (hn.elim (hs.wanted _) (hs'.wanted _))
    by_cases hn' : P' name
    · rw [hs'.stored pf want name hscope hn' hwant]
      by_cases hn1 : P name
      · rw [hs.stored pf want name hscope hn1 hwant, Option.map_map]
        rfl
      · grind [hs.same]
    · grind [hs'.same, hs.stored]
  journal := (hs.journal.trans hs'.journal).mono fun n hn => by
    rcases hn with hn | hn
    · exact ⟨.inl hn.1, hn.2⟩
    · exact ⟨.inr hn.1, hs.resets (hs'.wanted n hn.1) hn.2⟩

variable {backend : String}

/-- A setting that the backend reads back as wanted was applied. -/
theorem storeResult_applied {want : FirmwareSettings} {needReboot : Bool}
    {name : SettingName} {read : FirmwareRead} (hread : getSetting read.values name =
      getSetting want name) :
    (storeResult backend want needReboot (.ok read) name).1 = .applied := by
  simp [storeResult, hread]

/-- The journal after a store that the backend kept. -/
theorem storedOf_journal {needReboot : Bool} {after : Except String FirmwareRead}
    (hkept : ∀ n ∈ ds, (storeResult backend a.firmware needReboot after n).1 = .applied) :
    let j' := (of backend a ds needReboot after j).journal
    JournalStep a (fun n => n ∈ ds ∧ needReboot = true) j j' ∧
      (needReboot = true → ∀ n ∈ ds, a.entry n ∈ j') := by
  cases needReboot with
  | false =>
    simp only [of, Bool.false_and, filter_false]
    exact ⟨(JournalStep.refl a j).mono fun _ hn => hn.elim, nofun⟩
  | true =>
    have hall : ds.filter (fun name =>
        true && (storeResult backend a.firmware true after name).1 == .applied) = ds := by
      rw [filter_eq_self]
      intro n hn
      simp [hkept n hn]
    simp only [of, hall]
    obtain ⟨hstep, hentries⟩ := journalStep_foldl (a := a) ds j
    exact ⟨hstep.mono fun n hn => ⟨hn, trivial⟩, fun _ => hentries⟩

/-- **One store.** -/
theorem store_stores (hw : Works r h) {b : Nat} (hne : ds ≠ [])
    (hds : ∀ n ∈ ds, n ∈ settingNames a.firmware ∧ a.want n ≠ "" ∧
      ∃ p, r.foundAt h t a.pf a.firmware n = some (b, p)) :
    Meets (store h b backend a ds j) t (fun _ => True) fun s t' =>
      StoredBy r h a (· ∈ ds) t t' j s.journal := by
  obtain ⟨needReboot, haccept⟩ := hw.accepts t b a.pf (changeFor a.firmware ds)
  have hchange : ∀ n ∈ ds, getSetting (changeFor a.firmware ds) n = a.want n := fun n hn =>
    getSetting_changeFor (hds n hn).1 hn
  let t1 := t ++ [Event.apply b a.pf (changeFor a.firmware ds) (.ok needReboot)]
  have ht1 : ∀ pf want name, scopeKey pf name = scopeKey a.pf name → name ∈ ds →
      getSetting want name = a.want name →
      r.foundAt h t1 pf want name = (r.foundAt h t pf want name).map (restore (a.want name)) := by
    intro pf want name hscope hn hwant
    rw [← hchange name hn] at hwant ⊢
    exact hw.foundAt_stores hscope (hchange name hn ▸ (hds name hn).2.1) hwant
  refine (meets_ask (Q := fun answer t' => answer = .ok needReboot ∧ t' = t1)
    ⟨haccept, by rw [haccept]⟩).bind fun answer t' hanswer => ?_
  obtain ⟨rfl, rfl⟩ := hanswer
  refine (meets_ask (Q := fun after t' => after = h.answerRead t1 b a.pf a.firmware ∧
    t' = t1 ++ [.read b a.pf a.firmware]) ⟨rfl, rfl⟩).bind fun after t' hafter => ?_
  obtain ⟨rfl, rfl⟩ := hafter
  -- The read after the change finds every setting as wanted.
  have hkept : ∀ n ∈ ds, (storeResult backend a.firmware needReboot
      (h.answerRead t1 b a.pf a.firmware) n).1 = .applied := by
    intro n hn
    obtain ⟨hname, hwant, p, hp⟩ := hds n hn
    have hvalue : h.value t1 b a.pf a.firmware n = some (a.want n, p.2) := by
      rw [hw.stores t b a.pf _ needReboot b a.pf a.firmware n rfl (hchange n hn ▸ hwant)
        (hchange n hn).symm, value_of_foundAt hp, hchange n hn]
      rfl
    obtain ⟨read, hread, hval, -⟩ := read_of_value hvalue
    rw [hread]
    exact storeResult_applied hval
  obtain ⟨hstep, hentries⟩ := storedOf_journal (j := j) hkept
  have hpassive : Passive t1 (t1 ++ [.read b a.pf a.firmware]) := (Passive.refl t1).concat rfl
  have hresets : ∀ n, n ∈ ds ∧ needReboot = true → n ∈ ds ∧ r.Resets h t a n := by
    rintro n ⟨hn, rfl⟩
    obtain ⟨hname, hwant, p, hp⟩ := hds n hn
    exact ⟨hn, b, by rw [hp]; rfl, t, _, hchange n hn ▸ hwant, haccept⟩
  refine meets_pure ⟨fun n hn => (hds n hn).1, ?_, ?_, ?_, hstep.mono hresets⟩
  · refine ⟨[.apply b a.pf (changeFor a.firmware ds) (.ok needReboot), .read b a.pf a.firmware],
      by simp [t1], fun e he => ?_⟩
    rcases mem_cons.mp he with rfl | he
    · refine ⟨rfl, ds, hne, rfl, fun n hn => ⟨hn, fun ho => ?_⟩⟩
      exact hentries (Except.ok.inj ho) n hn
    · rw [mem_singleton.mp he]
      trivial
  · intro pf want name hsame
    rw [hw.foundAt_passive hpassive]
    refine hw.foundAt_spares (hsame.imp_right fun hno => ?_)
    by_contra hset
    rcases changeFor_sets hset with hn | ⟨rfl, hnone, -, hpos⟩
    · exact hno.1 hn
    · exact hno.2 ⟨rfl, hnone, hpos⟩
  · grind [hw.foundAt_passive]

end StoredBy

/-! ### The step of a port -/

/-- The stored value of a setting is not the wanted one, and no conflict keeps the step away. -/
def Reconciler.Drifts (r : Reconciler) (h : Host) (conflicts : GoMap String String) (t : List Event)
    (a : Assignment) (name : SettingName) : Prop :=
  name ∈ settingNames a.firmware ∧ Clear conflicts a name ∧
    ∃ q, r.foundAt h t a.pf a.firmware name = some q ∧ q.2.1 ≠ a.want name

/-- The step of the port may store settings. -/
def Reconciler.Applies (r : Reconciler) (a : Assignment) : Prop :=
  r.config.driftAction a.profile = .apply

theorem mem_foldl_appendOnce {α : Type} [DecidableEq α] {l acc : List α} {b : α} :
    b ∈ l.foldl appendOnce acc ↔ b ∈ acc ∨ b ∈ l := by
  induction l generalizing acc with
  | nil => simp
  | cons c l ih =>
    rw [foldl_cons, ih, appendOnce]
    split
    next hc => grind
    · simp [or_assoc]

section Step

variable {r : Reconciler} {h : Host} {a : Assignment} {conflicts : GoMap String String}
  {t : List Event} {j : Journal} {v : FirmwareView}

/-- The settings that a step with the view `v` stores. -/
theorem mem_drifted_iff (hv : ∀ name, v.found name = r.foundAt h t a.pf a.firmware name)
    {name : SettingName} :
    name ∈ driftedSettings (checkFirmware a v conflicts j) v ↔ r.Drifts h conflicts t a name := by
  rw [mem_driftedSettings, Drifts, hv]
  intro n q hq
  rw [hv] at hq
  obtain ⟨read, -, -, hne⟩ := read_of_value (value_of_foundAt hq)
  exact hne

/-- **The stores of a port**, one for each backend that owns a drifted setting. -/
theorem storeDrifted_stores (hw : Works r h) (hset : ∀ n ∈ settingNames a.firmware, a.want n ≠ "")
    (hv : ∀ name, v.found name = r.foundAt h t a.pf a.firmware name) {t0 : List Event}
    (hfound : ∀ name, r.foundAt h t0 a.pf a.firmware name = r.foundAt h t a.pf a.firmware name) :
    Meets (storeDrifted h r.backends a v (checkFirmware a v conflicts j) j) t0 (fun _ => True)
      fun p t' => StoredBy r h a (r.Drifts h conflicts t a) t0 t' j p.journal := by
  let ds := driftedSettings (checkFirmware a v conflicts j) v
  have hds : ∀ n, n ∈ ds ↔ r.Drifts h conflicts t a n := fun n => mem_drifted_iff hv
  refine (meets_foldlM_done (S := fun done p t' => StoredBy r h a
    (fun n => n ∈ ds ∧ ∃ b ∈ done, v.owner n = some b) t0 t' j p.journal) ?_ ?_).mono (fun _ => id)
    fun p t' hs => hs.congr fun n => ?_
  · intro done b rest hsplit p t' hs
    have hb : b ∈ ds.filterMap v.owner := by
      have hmem : b ∈ (ds.filterMap v.owner).foldl appendOnce [] := by
        rw [hsplit]
        simp
      exact (mem_foldl_appendOnce.mp hmem).resolve_left not_mem_nil
    obtain ⟨m, hm, hmb⟩ := mem_filterMap.mp hb
    have hne : (ds.filter fun n => v.owner n = some b) ≠ [] :=
      ne_nil_of_mem (mem_filter.mpr ⟨hm, decide_eq_true hmb⟩)
    refine (store_stores hw hne ?_).bind fun s t'' hs' => meets_pure ?_
    · intro n hn
      obtain ⟨hnd, howner⟩ := mem_filter.mp hn
      obtain ⟨hname, -, q, hq, -⟩ := (hds n).mp hnd
      obtain rfl : q.1 = b := by
        have := of_decide_eq_true howner
        rw [owner, hv n, hq] at this
        exact Option.some.inj this
      refine ⟨hname, hset n hname, ?_⟩
      -- The stores before changed at most the stored value, not the backend.
      have hq0 : r.foundAt h t0 a.pf a.firmware n = some q := (hfound n).trans hq
      by_cases hdone : n ∈ ds ∧ ∃ b ∈ done, v.owner n = some b
      · have hq' := hs.stored a.pf a.firmware n rfl hdone rfl
        rw [hq0] at hq'
        exact ⟨_, hq'⟩
      · have hq' := hs.same a.pf a.firmware n (.inr ⟨hdone, not_implied hname⟩)
        rw [hq0] at hq'
        exact ⟨q.2, hq'⟩
    · refine (hs.trans hs').congr fun n => ?_
      grind
  · exact (storedBy_of_passive hw (.refl t0) j).congr fun n => by simp
  · rw [← hds n]
    refine ⟨fun hn => hn.1, fun hn => ⟨hn, ?_⟩⟩
    obtain ⟨-, -, q, hq, -⟩ := (hds n).mp hn
    have howner : v.owner n = some q.1 := by rw [owner, hv n, hq]; rfl
    exact ⟨q.1, mem_foldl_appendOnce.mpr (.inr (mem_filterMap.mpr ⟨n, hn, howner⟩)), howner⟩

theorem settingNames_eq_nil {f : FirmwareSettings} (hf : hasFirmwareSettings f = false) :
    settingNames f = [] := by
  simp only [hasFirmwareSettings, Bool.or_eq_false_iff] at hf
  obtain ⟨⟨⟨⟨⟨h1, h2⟩, h3⟩, h4⟩, h5⟩, h6⟩ := hf
  simp_all [settingNames]

/-- **A step stores the drifted settings and no others.** -/
theorem firmware_stores (hw : Works r h) (hset : ∀ n ∈ settingNames a.firmware, a.want n ≠ "") :
    Meets (firmware h r.backends r.config conflicts a j) t (fun _ => True) fun p t' =>
      StoredBy r h a (fun n => r.Applies a ∧ r.Drifts h conflicts t a n) t t' j p.journal := by
  unfold firmware
  cases hhas : hasFirmwareSettings a.firmware with
  | false =>
    have hnil := settingNames_eq_nil hhas
    refine meets_pure ((storedBy_of_passive hw (.refl t) j).congr fun n => ?_)
    simp [Drifts, hnil]
  | true =>
    refine (readFirmware_found hw).bind fun v t1 hv => ?_
    have hfound : ∀ name,
        r.foundAt h t1 a.pf a.firmware name = r.foundAt h t a.pf a.firmware name :=
      fun name => hw.foundAt_passive hv.1
    have hread := storedBy_of_passive (a := a) hw hv.1 j
    split
    next hno =>
      refine meets_pure (hread.congr fun n => ?_)
      simp [Applies, hno]
    next happly =>
      refine (storeDrifted_stores hw hset hv.2 hfound).mono (fun _ => id) fun p t' hs => ?_
      refine (hread.trans hs).congr fun n => ?_
      simp [Applies, not_not.mp happly]

end Step

/-! ### A step that only reads -/

/-- The status that a step finds for a setting. -/
def Reconciler.statusAt (r : Reconciler) (h : Host) (conflicts : GoMap String String)
    (t : List Event) (j : Journal) (a : Assignment) (name : SettingName) : Status :=
  if (conflicts.get (conflictKey a.pf name)).getD "" = "" then
    (itemStatus
      { setting := name, want := a.want name
        stored := ((r.foundAt h t a.pf a.firmware name).map (·.2.1)).getD ""
        active := r.activeAt h t a.pf a.firmware name }
      (j.has (scopeKey a.pf name) name (a.want name)) "").1
  else .failed

/-- The finding is about a setting of the port. -/
def Assignment.IsAbout (a : Assignment) (name : SettingName) (f : Finding) : Prop :=
  f.profile = a.profile.name ∧ f.interface = a.pf.interface ∧ f.level = .firmware ∧
    f.setting = name

/-- A step that stores nothing: what it reports, and that it leaves everything as it was. -/
structure QuietStep (r : Reconciler) (h : Host) (conflicts : GoMap String String) (t : List Event)
    (j : Journal) (a : Assignment) (p : Progress) (t' : List Event) : Prop where
  passive : Passive t t'
  journal_eq : p.journal = j
  reported : ∀ name ∈ settingNames a.firmware, ∃ f ∈ p.findings, a.IsAbout name f
  findings : ∀ f ∈ p.findings, ∃ name ∈ settingNames a.firmware, a.IsAbout name f ∧
    (r.statusAt h conflicts t j a name = .applied → f.status = .applied)
  reboot_iff : p.reboot = true ↔
    ∃ name ∈ settingNames a.firmware, r.statusAt h conflicts t j a name = .applied

section Quiet

variable {r : Reconciler} {h : Host} {a : Assignment} {conflicts : GoMap String String}
  {t t' : List Event} {j : Journal} {v : FirmwareView}

theorem itemStatus_note (it : FirmwareItem) (stored : Bool) (note note' : String) :
    (itemStatus it stored note).1 = (itemStatus it stored note').1 := by
  unfold itemStatus
  split_ifs <;> rfl

/-- The status that a check reports. -/
theorem checkItem_status {name : SettingName}
    (hv : v.found name = r.foundAt h t a.pf a.firmware name) :
    (checkItem a v conflicts j name).status = r.statusAt h conflicts t j a name := by
  unfold statusAt
  split
  next hclear =>
    rw [checkItem_of_clear hclear, itemStatus_note _ _ _ ""]
    simp only [firmwareItem, stored, active, hv]
    rfl
  next hconflict => exact checkItem_of_conflict hconflict

/-- The findings of a step, but for the marks of settings that no backend owns. -/
theorem quietStep_of_checks (hp : Passive t t')
    (hv : ∀ name, v.found name = r.foundAt h t a.pf a.firmware name) {g : Finding → Finding}
    (hg : ∀ f, f.status ≠ .drift → g f = f)
    (habout : ∀ f name, a.IsAbout name f → a.IsAbout name (g f)) :
    QuietStep r h conflicts t j a
      ⟨(checkFirmware a v conflicts j).map g,
        (checkFirmware a v conflicts j).any (·.status == .applied), j⟩ t' where
  passive := hp
  journal_eq := rfl
  reported := fun name hname =>
    ⟨_, mem_map_of_mem (mem_map_of_mem hname), habout _ _ ⟨rfl, rfl, rfl, rfl⟩⟩
  findings := fun f hf => by
    obtain ⟨f0, hf0, rfl⟩ := mem_map.mp hf
    obtain ⟨name, hname, rfl⟩ := mem_map.mp hf0
    refine ⟨name, hname, habout _ _ ⟨rfl, rfl, rfl, rfl⟩, fun hst => ?_⟩
    rw [← checkItem_status (hv name)] at hst
    rw [hg _ (by rw [hst]; decide), hst]
  reboot_iff := by
    simp only [any_eq_true, checkFirmware, mem_map]
    grind [checkItem_status]

/-- **A step without a drifted setting only reads.** -/
theorem firmware_quiet (hw : Works r h) (hquiet : r.Applies a → ∀ n, ¬ r.Drifts h conflicts t a n) :
    Meets (firmware h r.backends r.config conflicts a j) t (fun _ => True)
      (QuietStep r h conflicts t j a) := by
  unfold firmware
  cases hhas : hasFirmwareSettings a.firmware with
  | false =>
    have hnil := settingNames_eq_nil hhas
    exact meets_pure ⟨.refl t, rfl, fun n hn => (by simp [hnil] at hn), fun f hf => (by cases hf),
      by simp [hnil]⟩
  | true =>
    refine (readFirmware_found hw).bind fun v t1 hv => ?_
    split
    · refine meets_pure ?_
      have hstep :
          QuietStep r h conflicts t j a ⟨(checkFirmware a v conflicts j).map id, _, _⟩ t1 :=
        quietStep_of_checks hv.1 hv.2 (fun f _ => rfl) fun f name hf => hf
      rw [map_id] at hstep
      exact hstep
    -- The profile would store what drifts, but nothing does.
    next happly =>
      have hnone : driftedSettings (checkFirmware a v conflicts j) v = [] := by
        rw [eq_nil_iff_forall_not_mem]
        exact fun n hn => hquiet (not_not.mp happly) n ((mem_drifted_iff hv.2).mp hn)
      simp only [storeDrifted, hnone]
      refine meets_pure (quietStep_of_checks hv.1 hv.2 (fun f hf => ?_) fun f name hf => ?_)
      · simp [markUnowned, hf]
      · unfold markUnowned
        split <;> exact hf

end Quiet

end Booty.Sriov
