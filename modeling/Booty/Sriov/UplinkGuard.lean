import Booty.Sriov.Reconcile

namespace Booty.Sriov

open Booty.Lib Booty.Lib.Logged List RuntimeDevice Uplinks

/-!
# The runtime pass and the uplinks of the ramdisk

BOOTy provisions over the network that its ramdisk runs on, so a runtime change must not take a
port of that network down.  The guard of a device asks only for its first port with runtime
settings.

* `Uplinks.Spares` — a call does not disrupt the network.
* `runtime_spares_iff` — every call of the pass spares the network, whatever the kernel answers, iff
  the first port of each device speaks for the ports in use of that device.
-/

/-! ### Calls that spare the network -/

namespace Uplinks

variable (u : Uplinks)

/-- The network of the ramdisk uses the port. -/
def Used (p : PF) : Prop := (u.inUse p).isSome

/-- The VF count of the device of a port may change while the network uses the port. -/
def Tolerates (drivers : List String) (p : PF) : Prop :=
  p.driver ∈ drivers ∧ (p.driver = "mlx5_core" → u.master p = "")

instance (drivers : List String) (p : PF) : Decidable (u.Tolerates drivers p) :=
  inferInstanceAs (Decidable (_ ∧ _))

/-- No port of the device is in use. -/
def Idle (ports : List PF) (pf : PF) : Prop :=
  ∀ p ∈ ports, p.handle = pf.handle → ¬ u.Used p

/-- Every port of the device that is in use tolerates a change of the VF count. -/
def Tolerant (drivers : List String) (ports : List PF) (pf : PF) : Prop :=
  ∀ p ∈ ports, p.handle = pf.handle → u.Used p → u.Tolerates drivers p

/-- A call does not disrupt the network. -/
def Spares (drivers : List String) (ports : List PF) : Event → Prop
  | .setEswitch pf _ _ => u.Idle ports pf
  | .setNumVFs pf _ _ => u.Tolerant drivers ports pf
  | _ => True

end Uplinks

/-- The port should get another eSwitch mode. -/
def Assignment.WantsEswitch (a : Assignment) : Prop :=
  a.runtime.eswitchMode ≠ "" ∧ a.runtime.eswitchMode ≠ a.pf.eswitchMode

/-- The port should get another VF count. -/
def Assignment.WantsCount (a : Assignment) : Prop :=
  ∃ n, a.runtime.numVFs = some n ∧ n ≠ a.pf.numVFs

/-- The first assignment with runtime settings of its device. -/
def Leads (as : List Assignment) (a : Assignment) : Prop :=
  ∃ front rest, as = front ++ a :: rest ∧ hasRuntimeSettings a.runtime = true ∧
    ∀ b ∈ front, hasRuntimeSettings b.runtime = true → b.pf.handle ≠ a.pf.handle

/-- The first port of a device speaks for another port of it that is in use: it is in use too when
    the eSwitch would change, and when the VF count would change, either the guard refuses it for
    the first port or the other port tolerates it. -/
structure Uplinks.SpeaksFor (u : Uplinks) (drivers : List String) (a : Assignment) (p : PF) :
    Prop where
  mode : a.WantsEswitch → u.Used a.pf
  count : a.WantsCount → (u.Used a.pf ∧ ¬ u.Tolerates drivers a.pf) ∨ u.Tolerates drivers p

/-! ### The devices of the pass -/

/-- A device that the pass has not touched. -/
def RuntimeDevice.Fresh (d : RuntimeDevice) : Prop := d = { lead := d.lead, others := d.others }

theorem runtimeDevices_concat (as : List Assignment) (b : Assignment) :
    runtimeDevices (as ++ [b]) = addAssignment (runtimeDevices as) b := by
  simp [runtimeDevices]

/-- The first ports with one more assignment. -/
theorem leads_concat {as : List Assignment} {a b : Assignment} :
    Leads (as ++ [b]) a ↔ Leads as a ∨ (a = b ∧ hasRuntimeSettings b.runtime = true ∧
      ∀ c ∈ as, hasRuntimeSettings c.runtime = true → c.pf.handle ≠ b.pf.handle) := by
  constructor
  · rintro ⟨front, rest, hsplit, hset, hfront⟩
    cases rest using reverseRecOn with
    | nil => grind [append_inj']
    | append_singleton rest c =>
      have hsplit' : as ++ [b] = (front ++ a :: rest) ++ [c] := by simpa using hsplit
      exact .inl ⟨front, rest, (append_inj' hsplit' rfl).1, hset, hfront⟩
  · rintro (⟨front, rest, rfl, hset, hfront⟩ | ⟨rfl, hset, hfront⟩)
    · exact ⟨front, rest ++ [b], by simp, hset, hfront⟩
    · exact ⟨as, [], rfl, hset, hfront⟩

/-- The devices are those of the first ports. -/
structure DevicesOf (as : List Assignment) (devs : List RuntimeDevice) : Prop where
  fresh : ∀ d ∈ devs, d.Fresh ∧ Leads as d.lead
  covers : ∀ b ∈ as, hasRuntimeSettings b.runtime = true → ∃ d ∈ devs, d.handle = b.pf.handle
  leads : ∀ a, Leads as a → ∃ d ∈ devs, d.lead = a

section Devices

variable {as : List Assignment} {devs : List RuntimeDevice} {b : Assignment}

theorem devicesOf_nil : DevicesOf [] [] := by
  refine ⟨fun d hd => (by cases hd), fun b hb => (by cases hb), ?_⟩
  rintro a ⟨front, rest, hsplit, -⟩
  cases front <;> cases hsplit

/-- An assignment without runtime settings has no device. -/
theorem DevicesOf.skip (h : DevicesOf as devs) (hset : hasRuntimeSettings b.runtime = false) :
    DevicesOf (as ++ [b]) devs := by
  refine ⟨fun d hd => ⟨(h.fresh d hd).1, leads_concat.mpr (.inl (h.fresh d hd).2)⟩, ?_, ?_⟩
  · grind [h.covers]
  · intro a ha
    rcases leads_concat.mp ha with ha | ⟨-, hb, -⟩
    · exact h.leads a ha
    · rw [hset] at hb
      cases hb

/-- An assignment whose device is not there opens it. -/
theorem DevicesOf.opens (h : DevicesOf as devs) (hset : hasRuntimeSettings b.runtime = true)
    (hnone : ∀ d ∈ devs, d.handle ≠ b.pf.handle) :
    DevicesOf (as ++ [b]) (devs ++ [{ lead := b }]) := by
  have hnew : ∀ c ∈ as, hasRuntimeSettings c.runtime = true → c.pf.handle ≠ b.pf.handle := by
    intro c hc hcset hcb
    obtain ⟨d, hd, hdc⟩ := h.covers c hc hcset
    exact hnone d hd (hdc.trans hcb)
  refine ⟨?_, ?_, ?_⟩
  · intro d hd
    rcases mem_append.mp hd with hd | hd
    · exact ⟨(h.fresh d hd).1, leads_concat.mpr (.inl (h.fresh d hd).2)⟩
    · rw [mem_singleton.mp hd]
      exact ⟨rfl, leads_concat.mpr (.inr ⟨rfl, hset, hnew⟩)⟩
  · intro c hc hcset
    rcases mem_append.mp hc with hc | hc
    · grind [h.covers]
    · aesop
  · intro a ha
    rcases leads_concat.mp ha with ha | ⟨rfl, -, -⟩
    · grind [h.leads]
    · simp

/-- An assignment whose device is there leaves the first ports of the devices as they are. -/
theorem DevicesOf.joins (h : DevicesOf as devs) {e : RuntimeDevice} (he : e ∈ devs)
    (heb : e.handle = b.pf.handle) {g : RuntimeDevice → RuntimeDevice}
    (hg : ∀ d, (g d).lead = d.lead ∧ (d.Fresh → (g d).Fresh)) :
    DevicesOf (as ++ [b]) (devs.map g) := by
  -- The device has a first port already, so `b` does not lead.
  have hold : ¬ ∀ c ∈ as, hasRuntimeSettings c.runtime = true → c.pf.handle ≠ b.pf.handle := by
    intro hnew
    obtain ⟨front, rest, rfl, heset, -⟩ := (h.fresh e he).2
    exact hnew e.lead (by simp) heset heb
  have hlead : ∀ a, Leads (as ++ [b]) a ↔ Leads as a := fun a =>
    leads_concat.trans ⟨fun h => h.elim id fun h => absurd h.2.2 hold, .inl⟩
  have hhandle : ∀ d, (g d).handle = d.handle := fun d =>
    congrArg (·.pf.handle) (hg d).1
  refine ⟨?_, ?_, ?_⟩
  · refine forall_mem_map.mpr fun d hd => ?_
    refine ⟨(hg d).2 (h.fresh d hd).1, (hlead _).mpr ?_⟩
    rw [(hg d).1]
    exact (h.fresh d hd).2
  · intro c hc hcset
    obtain ⟨d, hd, hdc⟩ : ∃ d ∈ devs, d.handle = c.pf.handle := by
      rcases mem_append.mp hc with hc | hc
      · exact h.covers c hc hcset
      · exact ⟨e, he, mem_singleton.mp hc ▸ heb⟩
    exact ⟨g d, mem_map_of_mem hd, (hhandle d).trans hdc⟩
  · intro a ha
    obtain ⟨d, hd, hda⟩ := h.leads a ((hlead a).mp ha)
    exact ⟨g d, mem_map_of_mem hd, (hg d).1.trans hda⟩

end Devices

/-- **The devices are those of the first ports.** -/
theorem runtimeDevices_spec (as : List Assignment) : DevicesOf as (runtimeDevices as).1 := by
  induction as using List.reverseRecOn with
  | nil => exact devicesOf_nil
  | append_singleton as b ih =>
    rw [runtimeDevices_concat]
    unfold addAssignment
    cases hset : hasRuntimeSettings b.runtime with
    | false => exact ih.skip hset
    | true =>
      cases hfind : (runtimeDevices as).1.find? (·.handle == b.pf.handle) with
      | none =>
        refine ih.opens hset fun d hd heq => ?_
        exact find?_eq_none.mp hfind d hd (beq_iff_eq.mpr heq)
      | some e =>
        have he := mem_of_find?_eq_some hfind
        have heb : e.handle = b.pf.handle := by simpa using find?_some hfind
        simp only [Bool.not_true, Bool.false_eq_true, if_false]
        split
        · have hsame := ih.joins (b := b) he heb (g := id) fun d => ⟨rfl, id⟩
          rwa [map_id] at hsame
        · refine ih.joins he heb fun d => ?_
          split
          · exact ⟨rfl, fun hfresh => by rw [hfresh]; rfl⟩
          · exact ⟨rfl, id⟩

/-! ### What the guard refuses -/

/-- The devices differ at most in what the guard refused. -/
def RuntimeDevice.SameBut (d g : RuntimeDevice) : Prop := g = { d with refused := g.refused }

theorem RuntimeDevice.sameBut_refuse {d g : RuntimeDevice} (h : d.SameBut g) (setting : SettingName)
    (reason : String) : d.SameBut (g.refuse setting reason) := by
  rw [h]
  rfl

@[simp] theorem RuntimeDevice.isRefused_refuse (d : RuntimeDevice) (s s' : SettingName)
    (reason : String) : (d.refuse s reason).isRefused s' = (decide (s' = s) || d.isRefused s') := by
  unfold isRefused refuse
  rw [GoMap.get_set]
  by_cases h : s' = s <;> simp [h]

theorem guardEswitch_sameBut (reason : String) (d : RuntimeDevice) :
    d.SameBut (guardEswitch reason d) := by
  unfold guardEswitch
  split <;> exact rfl

theorem guardCount_sameBut (h : Host) (drivers : List String) (reason : String)
    {d g : RuntimeDevice} (hg : d.SameBut g) : d.SameBut (guardCount h drivers reason g) := by
  unfold guardCount
  split
  · exact sameBut_refuse hg _ _
  · grind [sameBut_refuse]

/-- The guard only refuses. -/
theorem guardInUse_sameBut (h : Host) (drivers : List String) (d : RuntimeDevice) :
    d.SameBut (guardInUse h drivers d) := by
  unfold guardInUse
  split
  · exact rfl
  · split
    · exact rfl
    · exact guardCount_sameBut h drivers _ (guardEswitch_sameBut _ d)

/-- The device wants another mode if its first port does. -/
theorem RuntimeDevice.eswitchChange_iff {d : RuntimeDevice} :
    d.eswitchChange = true ↔ d.lead.WantsEswitch := by
  simp [eswitchChange, Assignment.WantsEswitch, eswitch, origEswitch, pf]

/-- The same for the VF count. -/
theorem RuntimeDevice.countChange_iff {d : RuntimeDevice} (hcur : d.cur = d.origNumVFs) :
    d.countChange = true ↔ d.lead.WantsCount := by
  simp [countChange, Assignment.WantsCount, numVFs, hcur, origNumVFs, pf, Option.any_eq_true]

/-- A device behind the guard. -/
structure RuntimeDevice.Guarded (u : Uplinks) (drivers : List String) (lead : Assignment)
    (g : RuntimeDevice) : Prop where
  lead_eq : g.lead = lead
  cur_eq : g.cur = lead.pf.numVFs
  changed_eq : g.changed = false
  eswitchSet_eq : g.eswitchSet = false
  mode : g.isRefused .eswitchMode = true ↔ lead.WantsEswitch ∧ u.Used lead.pf
  count : g.isRefused .numVFs = true ↔
    lead.WantsCount ∧ u.Used lead.pf ∧ ¬ u.Tolerates drivers lead.pf

section Guard

variable (h : Host) (drivers : List String) {d : RuntimeDevice}

/-- **The eSwitch guard.** A fresh device keeps its eSwitch iff the mode would change and its first
    port is in use. -/
theorem isRefused_eswitchMode (hd : d.refused = ∅) :
    (guardInUse h drivers d).isRefused .eswitchMode = true ↔
      d.eswitchChange = true ∧ h.Used d.pf := by
  have hnone : d.isRefused .eswitchMode = false := by simp [isRefused, hd]
  unfold guardInUse guardCount guardEswitch Used
  cases hmode : d.eswitchChange <;> cases hcount : d.countChange <;> cases huse : h.inUse d.pf <;>
    simp [hnone] <;> split_ifs <;> simp [hnone]

theorem countChange_guardEswitch (reason : String) :
    (guardEswitch reason d).countChange = d.countChange := by
  unfold guardEswitch
  split <;> rfl

theorem pf_guardEswitch (reason : String) : (guardEswitch reason d).pf = d.pf := by
  unfold guardEswitch
  split <;> rfl

/-- **The count guard.** A fresh device keeps its VF count iff it would change, its first port is in
    use and does not tolerate that. -/
theorem isRefused_numVFs (hd : d.refused = ∅) :
    (guardInUse h drivers d).isRefused .numVFs = true ↔
      d.countChange = true ∧ h.Used d.pf ∧ ¬ h.Tolerates drivers d.pf := by
  have hnone : d.isRefused .numVFs = false := by simp [isRefused, hd]
  have hesw : ∀ reason, (guardEswitch reason d).isRefused .numVFs = false := by
    intro reason
    unfold guardEswitch
    split <;> simp [hnone]
  unfold guardInUse guardCount Used Tolerates
  simp only [countChange_guardEswitch, pf_guardEswitch]
  cases hcount : d.countChange with
  | false => grind
  | true =>
    cases huse : h.inUse d.pf with
    | none => simp [hnone]
    | some reason =>
      by_cases hdrv : d.pf.driver ∈ drivers <;> by_cases hmlx : d.pf.driver = "mlx5_core" <;>
        by_cases hmaster : h.master d.pf = "" <;> simp <;> simp_all

/-- **The guard.** It leaves an untouched device as it is, but for what it refuses. -/
theorem guardInUse_guarded (hfresh : d.Fresh) :
    (guardInUse h drivers { d with cur := d.origNumVFs }).Guarded h.toUplinks drivers d.lead := by
  have hrefused : d.refused = ∅ := by rw [hfresh]
  have hmode := isRefused_eswitchMode h drivers (d := { d with cur := d.origNumVFs }) hrefused
  have hcount := isRefused_numVFs h drivers (d := { d with cur := d.origNumVFs }) hrefused
  rw [eswitchChange_iff] at hmode
  rw [countChange_iff rfl] at hcount
  have hsame := guardInUse_sameBut h drivers { d with cur := d.origNumVFs }
  have hchanged : d.changed = false := by rw [hfresh]
  have hset : d.eswitchSet = false := by rw [hfresh]
  refine ⟨?_, ?_, ?_, ?_, hmode, hcount⟩
  · rw [hsame]
  · rw [hsame]
    rfl
  · rw [hsame]
    exact hchanged
  · rw [hsame]
    exact hset

end Guard

/-! ### A pass that spares the network -/

section Pass

variable {h : Host} {drivers : List String} {ports : List PF} {t t₀ : List Event}
  {d : RuntimeDevice} {lead : Assignment}

/-- An idle device tolerates everything. -/
theorem Uplinks.Idle.tolerant {u : Uplinks} {pf : PF} (hidle : u.Idle ports pf) :
    u.Tolerant drivers ports pf := fun p hp hpf hused => absurd hused (hidle p hp hpf)

/-- Every event is an old one or spares the network. -/
def Uplinks.AllSpared (u : Uplinks) (drivers : List String) (ports : List PF) (t₀ t : List Event) :
    Prop :=
  ∀ e ∈ t, e ∈ t₀ ∨ u.Spares drivers ports e

theorem Uplinks.AllSpared.concat {u : Uplinks} (ht : u.AllSpared drivers ports t₀ t) {e : Event}
    (he : u.Spares drivers ports e) : u.AllSpared drivers ports t₀ (t ++ [e]) := by
  intro e' he'
  rcases mem_append.mp he' with he' | he'
  · exact ht e' he'
  · grind

/-- A call that spares the network, whatever the host answers. -/
theorem ask_spares {α : Type} {answer : List Event → α} {event : α → Event}
    (hspares : ∀ a, h.Spares drivers ports (event a)) :
    Keeps (h.AllSpared drivers ports t₀) (ask answer event : Calls α) :=
  fun _ ht => meets_ask (ht.concat (hspares _))

theorem ask_spares_bind {α β : Type} {answer : List Event → α} {event : α → Event}
    {f : α → Calls β} {P : β → Prop} (hspares : ∀ a, h.Spares drivers ports (event a))
    (hf : ∀ a, Gives (h.AllSpared drivers ports t₀) (f a) P) :
    Gives (h.AllSpared drivers ports t₀) (ask answer event >>= f) P :=
  ((ask_spares hspares).gives fun _ => trivial).bind fun a _ => hf a

/-- What was changed on a device may be changed back. -/
structure RuntimeDevice.Settled (u : Uplinks) (drivers : List String) (ports : List PF)
    (lead : Assignment) (d : RuntimeDevice) : Prop where
  lead_eq : d.lead = lead
  count : d.changed = true → u.Tolerant drivers ports lead.pf
  mode : d.eswitchSet = true → u.Idle ports lead.pf

section Settled

variable (hd : d.Settled h.toUplinks drivers ports lead)

include hd

theorem RuntimeDevice.Settled.pf_eq : d.pf = lead.pf := by rw [pf, hd.lead_eq]

/-- A write of the VF count. -/
theorem setVFs_spares (hcount : h.Tolerant drivers ports lead.pf) (n : Int) :
    Gives (h.AllSpared drivers ports t₀) (setVFs h d n) fun r =>
      r.2.Settled h.toUplinks drivers ports lead ∧ r.2.refused = d.refused := by
  refine ask_spares_bind (fun err => hd.pf_eq ▸ hcount) fun err => gives_pure ?_
  cases err with
  | none => exact ⟨⟨hd.lead_eq, fun _ => hcount, hd.mode⟩, rfl⟩
  | some e => exact ⟨{ hd with }, rfl⟩

/-- A change of the mode. -/
theorem switchEswitch_spares (hmode : h.Idle ports lead.pf) :
    Gives (h.AllSpared drivers ports t₀) (switchEswitch h d) fun d' =>
      d'.Settled h.toUplinks drivers ports lead ∧ d'.refused = d.refused := by
  refine ask_spares_bind (fun err => hd.pf_eq ▸ hmode) fun err => gives_pure ?_
  cases err with
  | none => exact ⟨⟨hd.lead_eq, fun _ => hmode.tolerant, fun _ => hmode⟩, rfl⟩
  | some e => exact ⟨{ hd with }, rfl⟩

/-- The eSwitch change turns the VFs off only on an idle device. -/
theorem applyEswitch_spares (hmode : d.eswitchChange = true → h.Idle ports lead.pf) :
    Gives (h.AllSpared drivers ports t₀) (applyEswitch h d) fun d' =>
      d'.Settled h.toUplinks drivers ports lead ∧ d'.refused = d.refused ∧
        (d'.cur = d.cur ∨ h.Idle ports lead.pf) := by
  unfold applyEswitch
  cases hchange : d.eswitchChange with
  | false => exact gives_pure ⟨hd, rfl, .inl rfl⟩
  | true =>
    have hidle := hmode hchange
    simp only [Bool.not_true, Bool.false_eq_true, if_false]
    split
    · exact (switchEswitch_spares hd hidle).mono fun d' hq => ⟨hq.1, hq.2, .inr hidle⟩
    · refine (setVFs_spares hd hidle.tolerant 0).bind fun off hoff => ?_
      split
      · exact (switchEswitch_spares hoff.1 hidle).mono
          fun d' hq => ⟨hq.1, hq.2.trans hoff.2, .inr hidle⟩
      · exact gives_pure ⟨hoff.1, hoff.2, .inr hidle⟩

/-- A change of the VF count, by way of zero. -/
theorem applyCount_spares {n : Int} (hcount : n ≠ d.cur → h.Tolerant drivers ports lead.pf) :
    Gives (h.AllSpared drivers ports t₀) (applyCount h d n)
      (·.Settled h.toUplinks drivers ports lead) := by
  unfold applyCount
  split
  · exact gives_pure hd
  next hne =>
    have htol := hcount hne
    split
    · exact (setVFs_spares hd htol n).bind fun on hon => gives_pure hon.1
    · refine (setVFs_spares hd htol 0).bind fun off hoff => ?_
      split
      · exact (setVFs_spares hoff.1 htol n).bind fun on hon => gives_pure hon.1
      · exact gives_pure hoff.1

/-- The attributes of the VFs spare the network. -/
theorem applyVFs_spares (n : Int) :
    Gives (h.AllSpared drivers ports t₀) (applyVFs h d n)
      (·.Settled h.toUplinks drivers ports lead) := by
  refine gives_foldlM (fun d' hd' slot _ => ask_spares_bind (fun _ => by trivial) fun err => ?_) hd
  cases err with
  | none => exact gives_pure hd'
  | some e => exact gives_pure { hd' with }

/-- The VF count, unless it is refused. -/
theorem applyNumVFs_spares
    (hcount : ∀ n, d.numVFs = some n → d.isRefused .numVFs = false → n ≠ d.cur →
      h.Tolerant drivers ports lead.pf) :
    Gives (h.AllSpared drivers ports t₀) (applyNumVFs h d)
      (·.Settled h.toUplinks drivers ports lead) := by
  unfold applyNumVFs
  cases hn : d.numVFs with
  | none => exact gives_pure hd
  | some n =>
    cases href : d.isRefused .numVFs with
    | true => exact gives_pure hd
    | false =>
      refine (applyCount_spares hd (hcount n hn href)).bind fun d' hd' => ?_
      split
      · exact gives_pure hd'
      · exact applyVFs_spares hd' n

end Settled

/-- **A device whose first port speaks for the others is changed without disruption.** -/
theorem applyDevice_spares (hfresh : d.Fresh)
    (hspeaks : ∀ p ∈ ports, p.handle = d.pf.handle → h.Used p → h.SpeaksFor drivers d.lead p) :
    Gives (h.AllSpared drivers ports t₀) (applyDevice h drivers d)
      (·.Settled h.toUplinks drivers ports d.lead) := by
  have hg := guardInUse_guarded h drivers hfresh
  unfold applyDevice
  generalize guardInUse h drivers { d with cur := d.origNumVFs } = g at hg ⊢
  have hsettled : g.Settled h.toUplinks drivers ports d.lead :=
    ⟨hg.lead_eq, fun hc => absurd (hg.changed_eq.symm.trans hc) Bool.false_ne_true,
      fun hc => absurd (hg.eswitchSet_eq.symm.trans hc) Bool.false_ne_true⟩
  refine Gives.bind (P := fun d' => d'.Settled h.toUplinks drivers ports d.lead ∧
    d'.refused = g.refused ∧ (d'.cur = g.cur ∨ h.Idle ports d.pf)) ?_ fun d' hq => ?_
  · split
    · exact gives_pure ⟨hsettled, rfl, .inl rfl⟩
    next hnot =>
      refine applyEswitch_spares hsettled fun hchange p hp hph hused => ?_
      -- The mode would change and was not refused, so the first port is not in use.
      have hwants := eswitchChange_iff.mp hchange
      rw [hg.lead_eq] at hwants
      exact hnot (hg.mode.mpr ⟨hwants, (hspeaks p hp hph hused).mode hwants⟩)
  · obtain ⟨hd', hρ, hcur⟩ := hq
    refine applyNumVFs_spares hd' fun n hn href hne => ?_
    rcases hcur with hcur | hidle
    · have hwants : d.lead.WantsCount := by
        rw [numVFs, hd'.lead_eq] at hn
        exact ⟨n, hn, fun heq => hne (heq.trans (hcur.trans hg.cur_eq).symm)⟩
      intro p hp hph hused
      rcases (hspeaks p hp hph hused).count hwants with hrefuses | htol
      · rw [isRefused, hρ] at href
        exact absurd (href.symm.trans (hg.count.mpr ⟨hwants, hrefuses⟩)) Bool.false_ne_true
      · exact htol
    · exact hidle.tolerant

/-- The reset at the handoff. -/
theorem resetDevice_spares (hchanged : d.changed = true)
    (hd : d.Settled h.toUplinks drivers ports lead) :
    Keeps (h.AllSpared drivers ports t₀) (resetDevice h d) := by
  have hpf := hd.pf_eq
  have hcount : ∀ n err, h.Spares drivers ports (.setNumVFs d.pf n err) := fun n err => by
    rw [hpf]
    exact hd.count hchanged
  refine (ask_spares (hcount 0)).bind fun off => ?_
  refine Keeps.bind ?_ fun mode => ?_
  · split
    next hset => exact ask_spares fun err => hpf ▸ hd.mode hset
    · exact keeps_pure
  refine Keeps.bind ?_ fun on => keeps_pure
  split
  · exact ask_spares (hcount _)
  · exact keeps_pure

/-- The reset goes back only where the pass changed something. -/
theorem handoff_spares {devs : List RuntimeDevice}
    (hdevs : ∀ d ∈ devs, ∃ lead, d.Settled h.toUplinks drivers ports lead) :
    Keeps (h.AllSpared drivers ports t₀) (handoff h devs) := by
  refine Keeps.bind (Gives.keeps (gives_mapM (P := fun _ _ => True) fun d hd => ?_)) fun errs => ?_
  · obtain ⟨hmem, hreset⟩ := mem_filter.mp hd
    obtain ⟨lead, hsettled⟩ := hdevs d hmem
    have hchanged : d.changed = true := (Bool.and_eq_true_iff.mp hreset).1
    exact (resetDevice_spares hchanged hsettled).gives fun _ => trivial
  · split
    · exact keeps_pure
    · exact (ask_spares fun _ => by trivial).bind fun now => keeps_pure

/-- **The pass.** -/
theorem runtimePass_spares {x : MatchText} {as : List Assignment} {pending : Pending}
    (hspeaks : ∀ a, Leads as a → pending.on a.pf = [] → ∀ p ∈ ports, p.handle = a.pf.handle →
      h.Used p → h.SpeaksFor drivers a p) :
    Keeps (h.AllSpared drivers ports t₀) (runtimePass h x drivers as pending) := by
  unfold runtimePass
  simp only
  split
  · exact keeps_pure
  · refine Gives.keeps (P := fun _ => True) ((gives_mapM
      (P := fun d d' => d'.Settled h.toUplinks drivers ports d.lead) fun d hd => ?_).bind
      fun devs hdevs => ?_)
    · obtain ⟨hmem, hnow⟩ := mem_filter.mp hd
      obtain ⟨hfresh, hleads⟩ := (runtimeDevices_spec as).fresh d hmem
      have hpending : pending.on d.lead.pf = [] := of_decide_eq_true hnow
      exact applyDevice_spares hfresh (hspeaks d.lead hleads hpending)
    · refine ask_spares_bind (fun _ => by trivial) fun now => Keeps.gives ?_ fun _ => trivial
      refine (handoff_spares fun d' hd' => ?_).bind fun reset => keeps_pure
      obtain ⟨d, -, hd⟩ := hdevs d' hd'
      exact ⟨d.lead, hd⟩

end Pass

/-! ### A pass that does not -/

/-- The journal only grows. -/
theorem grows_of_asks {α : Type} {m : Calls α}
    (hm : ∀ I, Admits I → Keeps I m) : Grows m := fun t =>
  (hm (t <+: ·) (fun t' e ht' _ => ht'.trans (prefix_append t' [e])) t prefix_rfl).holds

/-- A host on which every change succeeds. -/
def Uplinks.willing (u : Uplinks) : Host where
  toUplinks := u
  answerDiscover := fun _ => .ok []
  answerRead := fun _ _ _ _ => .ok {}
  answerApply := fun _ _ _ _ => .ok false
  answerNumVFs := fun _ _ _ => none
  answerEswitch := fun _ _ _ => none
  answerVF := fun _ _ _ _ _ => none

section Willing

variable {u : Uplinks} {drivers : List String} {d : RuntimeDevice}

/-- A device whose first port is not in use gets its eSwitch mode. -/
theorem applyDevice_switches (hfresh : d.Fresh) (hwants : d.lead.WantsEswitch)
    (hfree : ¬ u.Used d.pf) (t : List Event) :
    ∃ e ∈ (applyDevice u.willing drivers d t).2, e = .setEswitch d.pf d.eswitch none := by
  have hg := guardInUse_guarded u.willing drivers hfresh
  refine ⟨_, ?_, rfl⟩
  unfold applyDevice
  generalize guardInUse u.willing drivers { d with cur := d.origNumVFs } = g at hg ⊢
  have hnot : ¬ g.isRefused .eswitchMode = true := fun hr => hfree (hg.mode.mp hr).2
  have hchange : g.eswitchChange = true :=
    RuntimeDevice.eswitchChange_iff.mpr (hg.lead_eq.symm ▸ hwants)
  have hgrows : ∀ d', Grows (applyNumVFs u.willing d') := fun d' =>
    grows_of_asks fun _ hI => applyNumVFs_asks hI d'
  refine (stays_bind hgrows t).subset ?_
  rw [if_neg hnot]
  have hevent : Event.setEswitch d.pf d.eswitch none = .setEswitch g.pf g.eswitch none := by
    simp only [RuntimeDevice.pf, RuntimeDevice.eswitch, hg.lead_eq]
  rw [hevent]
  unfold applyEswitch
  simp only [hchange, Bool.not_true, Bool.false_eq_true, if_false]
  -- The VFs go off first when there are some, and the host lets them.
  split <;> exact mem_append_right _ (mem_singleton_self _)

/-- A VF count that differs is written, first as 0 when there are VFs. -/
theorem applyCount_counts {n : Int} (hne : n ≠ d.cur) (t : List Event) :
    ∃ e ∈ (applyCount u.willing d n t).2, ∃ m, e = .setNumVFs d.pf m none := by
  have hset : ∀ m, Event.setNumVFs d.pf m none ∈ (setVFs u.willing d m t).2 := fun m =>
    mem_append_right _ (mem_singleton_self _)
  unfold applyCount
  rw [if_neg hne]
  split
  · aesop
  · refine ⟨_, (stays_bind (fun off => ?_) t).subset (hset 0), 0, rfl⟩
    split
    · exact (grows_of_asks fun _ hI => setVFs_asks hI off.2 n).bind fun _ => grows_pure _
    · exact grows_pure _

/-- A device whose first port does not make the guard refuse gets its VF count. -/
theorem applyDevice_counts (hfresh : d.Fresh) (hwants : d.lead.WantsCount)
    (hmode : d.lead.WantsEswitch → u.Used d.pf)
    (hallowed : ¬ (u.Used d.pf ∧ ¬ u.Tolerates drivers d.pf)) (t : List Event) :
    ∃ e ∈ (applyDevice u.willing drivers d t).2, ∃ n, e = .setNumVFs d.pf n none := by
  have hg := guardInUse_guarded u.willing drivers hfresh
  unfold applyDevice
  generalize guardInUse u.willing drivers { d with cur := d.origNumVFs } = g at hg ⊢
  have hnot : ¬ g.isRefused .numVFs = true := fun hr => hallowed (hg.count.mp hr).2
  obtain ⟨n, hn, hne⟩ := hwants
  -- The eSwitch stays as it is: its change is refused or there is none.
  have hskip : (if g.isRefused .eswitchMode then (Pure.pure g : Calls _)
      else applyEswitch u.willing g) = Pure.pure g := by
    split
    · rfl
    next hr =>
      have hno : g.eswitchChange = false := by
        rw [Bool.eq_false_iff, ne_eq, eswitchChange_iff, hg.lead_eq]
        exact fun hw => hr (hg.mode.mpr ⟨hw, hmode hw⟩)
      rw [applyEswitch, hno]
      rfl
  rw [hskip, pure_bind]
  unfold applyNumVFs
  rw [numVFs, hg.lead_eq, hn]
  simp only [if_neg hnot]
  obtain ⟨e, he, m, rfl⟩ := applyCount_counts (u := u) (d := g) (hg.cur_eq ▸ hne) t
  refine ⟨_, (stays_bind (fun d' => ?_) t).subset he, m, ?_⟩
  · grind [grows_pure, grows_of_asks, applyVFs_asks]
  · rw [RuntimeDevice.pf, hg.lead_eq, RuntimeDevice.pf]

end Willing

/-! ### The pass and the first ports -/

/-- What the changes of one device put into the journal is there at the end of the pass. -/
theorem mem_runtimePass {h : Host} {x : MatchText} {drivers : List String} {as : List Assignment}
    {pending : Pending} {d : RuntimeDevice} (hd : d ∈ (runtimeDevices as).1)
    (hnow : pending.on d.pf = []) {P : Event → Prop}
    (hP : ∀ t, ∃ e ∈ (applyDevice h drivers d t).2, P e) (t : List Event) :
    ∃ e ∈ (runtimePass h x drivers as pending t).2, P e := by
  have hkept : d ∈ (deferDevices (runtimeDevices as).1 pending).1 :=
    mem_filter.mpr ⟨hd, decide_eq_true hnow⟩
  have hgrows : ∀ d', Grows (applyDevice h drivers d') := fun d' =>
    grows_of_asks fun _ hI => applyDevice_asks hI drivers d'
  obtain ⟨e, he, hPe⟩ := mem_mapM hgrows hkept hP t
  refine ⟨e, ?_, hPe⟩
  unfold runtimePass
  rw [if_neg (ne_nil_of_mem hkept)]
  refine (stays_bind (fun devs => ?_) t).subset he
  refine (grows_ask _ _).bind fun now => Grows.bind ?_ fun reset => grows_pure _
  exact grows_of_asks fun _ hI => (handoff_asks hI devs).keeps

/-- **The guard asks the first port.** Whatever the kernel answers, the runtime reconcile issues no
    eSwitch change on a device with a port in use and no change of the VF count that a port in use
    does not tolerate, iff on every device of the pass the first port with runtime settings speaks
    for the ports that are in use. -/
theorem runtime_spares_iff (u : Uplinks) (r : Reconciler) (ports : List PF) (as : List Assignment)
    (pending : Pending) :
    (∀ (h : Host) (t : List Event), h.toUplinks = u → ∀ e ∈ (r.runtime h as pending t).2,
      e ∈ t ∨ u.Spares r.config.uplinkVFDriverList ports e) ↔
    (r.hasRuntime = true → ∀ a, Leads as a → pending.on a.pf = [] →
      ∀ p ∈ ports, p.handle = a.pf.handle → u.Used p →
        u.SpeaksFor r.config.uplinkVFDriverList a p) := by
  constructor
  · intro hspares hruntime a ha hnow p hp hph hused
    obtain ⟨d, hd, rfl⟩ := (runtimeDevices_spec as).leads a ha
    have hfresh := ((runtimeDevices_spec as).fresh d hd).1
    -- On a willing host the pass issues what the first port allows.
    have hnew : ∀ P : Event → Prop,
        (∀ t, ∃ e ∈ (applyDevice u.willing r.config.uplinkVFDriverList d t).2, P e) →
        ∃ e, P e ∧ u.Spares r.config.uplinkVFDriverList ports e := by
      intro P hP
      obtain ⟨e, he, hPe⟩ := mem_runtimePass (x := r.text) hd hnow hP []
      have hpass : r.runtime u.willing as pending =
          runtimePass u.willing r.text r.config.uplinkVFDriverList as pending := if_pos hruntime
      have hrun := hspares u.willing [] rfl e (hpass ▸ he)
      exact ⟨e, hPe, hrun.resolve_left not_mem_nil⟩
    have hmode : d.lead.WantsEswitch → u.Used d.pf := by
      intro hwants
      by_contra hfree
      obtain ⟨e, rfl, hidle⟩ := hnew _ (applyDevice_switches hfresh hwants hfree)
      exact hidle p hp hph hused
    refine ⟨hmode, fun hwants => ?_⟩
    by_contra hneither
    obtain ⟨hallowed, hintolerant⟩ := not_or.mp hneither
    obtain ⟨e, ⟨n, rfl⟩, htol⟩ := hnew _ (applyDevice_counts hfresh hwants hmode hallowed)
    exact hintolerant (htol p hp hph hused)
  · rintro hspeaks h t rfl
    rw [Reconciler.runtime]
    split
    next hruntime =>
      exact (runtimePass_spares (hspeaks hruntime) _ fun e he => .inl he).holds
    · exact fun e he => .inl he

/-- A port of a device with two ports. -/
def dualPort (name physPortName : String) : PF :=
  { interface := name, bus := "pci", pciAddress := "0000:3b:00.0", driver := "mlx5_core"
    sriovCapable := true, totalVFs := 8, eswitchMode := "legacy", physPortName }

/-- The network runs over the second port of the device. -/
def secondPortUsed : Uplinks where
  inUse := fun p => if p.physPortName = "p1" then some "a route goes through the port" else none
  master := fun _ => ""

/-- A profile that wants switchdev on every mlx5 port. -/
def switchdevReconciler : Reconciler where
  config :=
    { profiles := [{ name := "rt", portMatch := { driver := "mlx5_core" }
                     runtime := { eswitchMode := "switchdev" } }] }
  backends := []
  hasRuntime := true
  text := ⟨fun _ => none, fun _ _ => none, asciiTables⟩

/-- The host with the two ports. -/
def dualPortHost : Host :=
  { secondPortUsed.willing with
    answerDiscover := fun _ => .ok [dualPort "ens1f0" "p0", dualPort "ens1f1" "p1"] }

/-- The network uses the second port, the guard asks for the first, and the eSwitch of the device
    changes. -/
theorem eswitch_changes_under_second_port :
    Event.setEswitch (dualPort "ens1f0" "p0") "switchdev" none ∈
      (switchdevReconciler.run dualPortHost [] []).2 ∧
    (dualPort "ens1f1" "p1").handle = (dualPort "ens1f0" "p0").handle ∧
    dualPortHost.Used (dualPort "ens1f1" "p1") ∧
    ¬ dualPortHost.Spares switchdevReconciler.config.uplinkVFDriverList
      [dualPort "ens1f0" "p0", dualPort "ens1f1" "p1"]
      (.setEswitch (dualPort "ens1f0" "p0") "switchdev" none) := by
  refine ⟨?_, rfl, rfl, fun hidle => hidle (dualPort "ens1f1" "p1") (by simp) rfl rfl⟩
  have hrun : (switchdevReconciler.run dualPortHost [] []).2 =
      [.discover, .setEswitch (dualPort "ens1f0" "p0") "switchdev" none, .discover,
        .setNumVFs (dualPort "ens1f0" "p0") 0 none,
        .setEswitch (dualPort "ens1f0" "p0") "legacy" none, .discover] := by rfl
  rw [hrun]
  simp

end Booty.Sriov
