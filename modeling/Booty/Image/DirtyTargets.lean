import Booty.Image.ABCopy

namespace Booty.Image

open Booty.Lib Booty.Lib.Prog List

/-!
# A failed A/B copy reports every device it wrote

`streamABRaw` can fail at about ten places, after any number of bytes reached any of its targets.
Its error carries the devices to wipe in an `abDirtyTargetsError`, merged through the wrapped
errors of four functions.

* `mem_dirtyTargets` — how the listed targets are merged;
* `copyReader_sat` — the returned count is what the device received;
* `copyRangeToDevice_sat` — one range: the device is listed exactly when it may be dirty;
* `copyRanges_sat` — the ranges before a failing one are listed, too;
* `streamABRaw_reports_dirty` — on every error the listed devices are the written ones.

Nothing is assumed about the source reader, the checksum or the operating system.
-/

/-- A device path that names a device and has no surrounding white space. -/
def Clean (d : String) : Prop := trimSpace d = d ∧ d ≠ ""

section

variable {σ : Type}

/-- The device received at least one byte. -/
def Received (w : World σ) (d : String) : Prop := ∃ b, (d, b) ∈ w.log ∧ b ≠ []

/-- The error lists every device that received a byte, and only devices that were written or
    synced. -/
structure DirtyReport (e : DirtyErr) (w : World σ) : Prop where
  complete : ∀ d, Received w d → d ∈ dirtyTargets e
  sound : ∀ d ∈ dirtyTargets e, Received w d ∨ d ∈ w.synced

/-! ### Listed targets -/

variable {e : DirtyErr}

/-- Clean targets are listed as they are. -/
theorem mem_dirtyTargets {ts : List String} {d : String}
    (hclean : ∀ t, t ∈ ts ∨ t ∈ dirtyTargets e → Clean t) :
    d ∈ dirtyTargets (dirtyABTargetsError e ts) ↔ d ∈ ts ∨ d ∈ dirtyTargets e := by
  have hmap : (ts ++ dirtyTargets e).map trimSpace = ts ++ dirtyTargets e := by
    refine (map_congr_left (fun t ht => ?_)).trans (map_id _)
    exact (hclean t (mem_append.mp ht)).1
  have hfilter : (ts ++ dirtyTargets e).filter (· ≠ "") = ts ++ dirtyTargets e := by
    refine filter_eq_self.mpr (fun t ht => decide_eq_true ?_)
    exact (hclean t (mem_append.mp ht)).2
  unfold dirtyABTargetsError
  simp only [hmap, hfilter]
  by_cases hnil : (ts ++ dirtyTargets e).eraseDups = []
  · rw [if_pos hnil]
    have hempty : ∀ t, t ∉ ts ++ dirtyTargets e := fun t ht => by
      have := mem_eraseDups.mpr ht
      rw [hnil] at this
      exact not_mem_nil this
    rw [← mem_append]
    exact ⟨fun h => mem_append_right _ h, fun h => absurd h (hempty d)⟩
  · rw [if_neg hnil]
    show d ∈ (ts ++ dirtyTargets e).eraseDups ↔ _
    rw [mem_eraseDups, mem_append]

variable {os : Os} {r : Reader (World σ) Sentinel} {fuel : Nat} {w : World σ}

/-! ### One device -/

variable {L : List (String × Bytes)} {dst : String}

/-- **Counts.**  `copyReader` returns the number of bytes that the device received. -/
theorem copyReader_sat (hlog : w.log = L ++ [(dst, [])]) (hr : KeepsTargets r) :
    Sat (copyReader os r L.length dst fuel) w (fun res w' => w'.synced = w.synced ∧
      (∃ b, w'.log = L ++ [(dst, b)] ∧ b.length = res.1) ∧
      ∀ e, res.2 = some e → dirtyTargets e = []) (fun _ _ => False) True := by
  refine sat_loop (fun _ total w' => w'.synced = w.synced ∧
    ∃ b, w'.log = L ++ [(dst, b)] ∧ b.length = total) (fun _ _ _ => trivial) ?_ ⟨rfl, [], hlog, rfl⟩
  rintro n total w' ⟨hsync, b, hlog', hlen⟩
  refine (copyReaderStep_sat hlog' hr).imp fun st w'' h => ?_
  rcases h with ⟨e, -, rfl, rfl⟩ | ⟨c, w1, k, hread, h⟩
  · simp_all
  have hsync1 : w1.synced = w.synced := by
    have := (hr imageCopyBufferSize { w' with clock := w'.clock + 1 }).2
    rw [hread] at this
    exact this.trans hsync
  rcases h with ⟨e, he, rfl, hk, -, rfl⟩ | ⟨rfl, rfl⟩
  · grind
  · have hlen' : (b ++ c.data).length = total + c.data.length := by
      rw [length_append, hlen]
    rcases afterChunk_cases c (total + c.data.length) with
      ⟨hst, -⟩ | ⟨hst, -⟩ | ⟨e, he, hst⟩ <;> rw [hst]
    · exact ⟨hsync1, _, rfl, hlen'⟩
    · grind
    · grind

/-- What an error says about the devices opened since the log was `L` and the synced devices
    were `S`. -/
structure Reports (L : List (String × Bytes)) (S : List String) (e : DirtyErr)
    (w : World σ) : Prop where
  log : ∃ new, w.log = L ++ new ∧ (∀ d b, (d, b) ∈ new → b ≠ [] → d ∈ dirtyTargets e) ∧
    ∀ d ∈ dirtyTargets e, Clean d ∧ ((∃ b, (d, b) ∈ new ∧ b ≠ []) ∨ d ∈ w.synced)
  synced : ∀ d ∈ S, d ∈ w.synced

variable {S : List String}

/-- The error of a device copy lists the device exactly when it received a byte. -/
theorem reports_deviceError {b : Bytes} (hlog : w.log = L ++ [(dst, b)]) (hsync : w.synced = S)
    (hclean : Clean dst)
    (he : dirtyTargets e = []) : Reports L S (deviceError e b.length dst) w := by
  refine ⟨⟨[(dst, b)], hlog, ?_⟩, fun d hd => by rw [hsync]; exact hd⟩
  unfold deviceError
  by_cases hb : 0 < b.length
  · have hmem : ∀ d, d ∈ dirtyTargets (dirtyABTargetsError e [dst]) ↔ d = dst := by
      intro d
      rw [mem_dirtyTargets, he]
      · simp
      · grind
    refine ⟨fun d b' hd _ => ?_, fun d hd => ?_⟩
    · grind
    · grind
  · grind

/-- The end of a device copy: a failed sync lists the device, too. -/
theorem syncTarget_sat {what : String} {b : Bytes}
    (hlog : w.log = L ++ [(dst, b)]) (hsync : w.synced = S) (hclean : Clean dst) :
    Sat (syncTarget os dst what) w (fun _ w' => w'.log = L ++ [(dst, b)] ∧ w'.synced = S ++ [dst])
      (fun e w' => Reports L S e w') True := by
  refine sat_bindAct ?_
  cases os.syncErr w.clock dst with
  | none => exact sat_pure.mpr ⟨hlog, by rw [hsync]⟩
  | some e =>
    refine sat_fail.mpr ⟨⟨[(dst, b)], hlog, ?_⟩, fun d hd => ?_⟩
    · have hmem : ∀ d, d ∈ dirtyTargets (dirtyABTargetsError
          (.wrap s!"syncing {what} {dst}" e.widen) [dst]) ↔ d = dst := by
        intro d
        rw [mem_dirtyTargets]
        · simp
        · simp_all
      refine ⟨fun d b' hd _ => ?_, fun d hd => ?_⟩
      · grind
      · grind
    · grind

/-- Opening a device: a clean path and a new empty log entry, or nothing at all. -/
theorem openFile_sat (htrim : trimSpace dst = dst) {F : Prop} :
    Sat (openFile os dst) w (fun res w' => w'.synced = w.synced ∧
      ((∃ e, res = .error e ∧ w'.log = w.log) ∨
        (res = .ok w.log.length ∧ Clean dst ∧ w'.log = w.log ++ [(dst, [])])))
      (fun _ _ => False) F := by
  refine sat_act.mpr ?_
  by_cases hdst : dst = ""
  · grind
  · rw [if_neg hdst]
    cases os.openErr w.clock dst with
    | some e => exact ⟨rfl, .inl ⟨e, rfl, rfl⟩⟩
    | none => exact ⟨rfl, .inr ⟨rfl, ⟨htrim, hdst⟩, rfl⟩⟩

theorem reports_of_open
    (hlog : w.log = L) (hsync : w.synced = S) (he : dirtyTargets e = []) : Reports L S e w := by
  refine ⟨⟨[], by rw [hlog, append_nil], ?_, ?_⟩, fun d hd => by rw [hsync]; exact hd⟩
  · exact fun d b hd => absurd hd not_mem_nil
  · grind

/-- **One range.**  A copied device is clean and synced; a failed copy reports it. -/
theorem copyRangeToDevice_sat {size : Int} (htrim : trimSpace dst = dst) (hr : KeepsTargets r) :
    Sat (copyReaderRangeToDevice os r dst size fuel) w
      (fun _ w' => Clean dst ∧ (∃ b, w'.log = w.log ++ [(dst, b)]) ∧ w'.synced = w.synced ++ [dst])
      (fun e w' => Reports w.log w.synced e w') True := by
  refine (openFile_sat htrim).seq_ok fun res w1 h => ?_
  obtain ⟨hsync, ⟨e, rfl, hlog⟩ | ⟨rfl, hclean, hlog⟩⟩ := h
  · exact sat_fail.mpr (reports_of_open hlog hsync (dirtyTargets_widen e))
  refine sat_bindAct (sat_bind ?_)
  refine (copyReader_sat (w := { w1 with limit := size }) hlog hr.limitedRead).mono
    (fun res w2 h => ?_) (fun _ _ h => h.elim)
  obtain ⟨hsync2, ⟨b, hlog2, hlen⟩, herr⟩ := h
  have hsync2 : w2.synced = w.synced := hsync2.trans hsync
  cases hres : res.2 with
  | some e =>
    rw [← hlen]
    exact sat_fail.mpr (reports_deviceError hlog2 hsync2 hclean (herr e hres))
  | none =>
    refine sat_bindAct ?_
    by_cases hleft : w2.limit ≠ 0
    · rw [if_pos hleft, ← hlen]
      exact sat_fail.mpr (reports_deviceError hlog2 hsync2 hclean rfl)
    · rw [if_neg hleft]
      exact (syncTarget_sat hlog2 hsync2 hclean).mono (fun _ w' h => ⟨hclean, ⟨b, h.1⟩, h.2⟩)
        (fun _ _ h => h)

theorem streamReaderToDevice_sat (htrim : trimSpace dst = dst) (hr : KeepsTargets r) :
    Sat (streamReaderToDevice os r dst fuel) w
      (fun _ w' => Clean dst ∧ (∃ b, w'.log = w.log ++ [(dst, b)]) ∧ w'.synced = w.synced ++ [dst])
      (fun e w' => Reports w.log w.synced e w') True := by
  refine (openFile_sat htrim).seq_ok fun res w1 h => ?_
  obtain ⟨hsync, ⟨e, rfl, hlog⟩ | ⟨rfl, hclean, hlog⟩⟩ := h
  · exact sat_fail.mpr (reports_of_open hlog hsync (dirtyTargets_widen e))
  refine (copyReader_sat hlog hr).seq_ok fun res w2 h => ?_
  obtain ⟨hsync2, ⟨b, hlog2, hlen⟩, herr⟩ := h
  have hsync2 : w2.synced = w.synced := hsync2.trans hsync
  cases hres : res.2 with
  | some e =>
    rw [← hlen]
    exact sat_fail.mpr (reports_deviceError hlog2 hsync2 hclean (herr e hres))
  | none =>
    exact (syncTarget_sat hlog2 hsync2 hclean).mono (fun _ w' h => ⟨hclean, ⟨b, h.1⟩, h.2⟩)
      (fun _ _ h => h)

/-! ### All ranges -/

/-- The finished devices: every logged device is among them, and each one is clean and synced. -/
structure Finished (dirty : List String) (w : World σ) : Prop where
  logged : ∀ d b, (d, b) ∈ w.log → d ∈ dirty
  clean : ∀ d ∈ dirty, Clean d
  synced : ∀ d ∈ dirty, d ∈ w.synced

variable {dirty : List String}

theorem Finished.of_eq {w' : World σ} (hf : Finished dirty w)
    (hlog : w'.log = w.log) (hsync : w'.synced = w.synced) : Finished dirty w' :=
  ⟨fun d b h => hf.logged d b (by rwa [← hlog]), hf.clean,
    fun d h => by rw [hsync]; exact hf.synced d h⟩

/-- An error that lists no target itself reports all finished devices. -/
theorem Finished.report (hf : Finished dirty w)
    (he : dirtyTargets e = []) : DirtyReport (dirtyABTargetsError e dirty) w := by
  have hmem : ∀ d, d ∈ dirtyTargets (dirtyABTargetsError e dirty) ↔ d ∈ dirty := by
    intro d
    rw [mem_dirtyTargets, he]
    · simp
    · grind [hf.clean]
  refine ⟨?_, ?_⟩
  · rintro d ⟨b, hb, -⟩
    exact (hmem d).mpr (hf.logged d b hb)
  · grind [hf.synced]

/-- The error of the next device, merged with the finished ones. -/
theorem Finished.report_next (hf : Finished dirty w) {w' : World σ}
    (hrep : Reports w.log w.synced e w') (s : String) :
    DirtyReport (dirtyABTargetsError (.wrap s e) dirty) w' := by
  obtain ⟨⟨new, hlog, hcomplete, hsound⟩, hsynced⟩ := hrep
  have hmem : ∀ d, d ∈ dirtyTargets (dirtyABTargetsError (.wrap s e) dirty) ↔
      d ∈ dirty ∨ d ∈ dirtyTargets e := by
    intro d
    rw [mem_dirtyTargets, dirtyTargets_wrap]
    rintro t (ht | ht)
    · exact hf.clean t ht
    · exact (hsound t ht).1
  refine ⟨?_, ?_⟩
  · rintro d ⟨b, hb, hne⟩
    rw [hlog] at hb
    rw [hmem]
    rcases mem_append.mp hb with hb | hb
    · exact .inl (hf.logged d b hb)
    · exact .inr (hcomplete d b hb hne)
  · intro d hd
    rcases (hmem d).mp hd with hd | hd
    · exact .inr (hsynced d (hf.synced d hd))
    · rcases (hsound d hd).2 with ⟨b, hb, hne⟩ | hd
      · exact .inl ⟨b, by rw [hlog]; exact mem_append_right _ hb, hne⟩
      · exact .inr hd

/-- **All ranges.**  A failure at any range reports the devices of the ranges before it and its
    own. -/
theorem copyRanges_sat (hr : KeepsTargets r) {ranges : List AbStreamRange} {pos : Int}
    (htrim : ∀ x ∈ ranges, trimSpace x.dst = x.dst)
    (hf : Finished dirty w) :
    Sat (copyRanges os r fuel ranges pos dirty) w
      (fun dirty' w' => dirty' = dirty ++ ranges.map (·.dst) ∧ Finished dirty' w')
      DirtyReport True := by
  induction ranges generalizing w pos dirty with
  | nil => exact sat_pure.mpr ⟨(append_nil _).symm, hf⟩
  | cons x xs ih =>
    refine sat_bindAct ?_
    have hf1 : Finished dirty { w with clock := w.clock + 1 } := hf.of_eq rfl rfl
    cases os.ctxErr w.clock with
    | some e => exact sat_fail.mpr (hf1.report (dirtyTargets_widen e))
    | none =>
      by_cases hover : x.start < pos
      · rw [if_pos hover]
        exact sat_fail.mpr (hf1.report rfl)
      rw [if_neg hover]
      by_cases hsize : x.size ≤ 0
      · rw [if_pos hsize]
        exact sat_fail.mpr (hf1.report rfl)
      rw [if_neg hsize]
      refine (copyN_keeps hr discardRoom _).seq_ok fun res w1 h => ?_
      have hf2 : Finished dirty w1 := hf1.of_eq h.1 h.2
      cases res.2 with
      | some e => exact sat_fail.mpr (hf2.report (dirtyTargets_widen e))
      | none =>
        refine sat_bind (sat_mapErr ((copyRangeToDevice_sat (htrim x mem_cons_self) hr).mono
          (fun _ w2 h => ?_) (fun e w2 hrep => hf2.report_next hrep _)))
        obtain ⟨hclean, ⟨b, hlog⟩, hsync⟩ := h
        -- The device of this range is finished too: clean, logged and synced.
        have hf3 : Finished (dirty ++ [x.dst]) w2 := by
          refine ⟨fun d b' hb' => ?_, fun d hd => ?_, fun d hd => ?_⟩
          · grind [hf2.logged]
          · grind [hf2.clean]
          · grind [hf2.synced]
        refine (ih (fun y hy => htrim y (mem_cons_of_mem _ hy)) hf3).imp fun dirty' w' h => ?_
        refine ⟨?_, h.2⟩
        rw [h.1, append_assoc]
        rfl

theorem copyABStreamRanges_sat (hr : KeepsTargets r) {ranges : List AbStreamRange} {drain : Bool}
    (htrim : ∀ x ∈ ranges, trimSpace x.dst = x.dst) (hf : Finished [] w) :
    Sat (copyABStreamRanges os r ranges drain fuel) w
      (fun _ w' => Finished (abRangeTargets ranges) w') DirtyReport True := by
  have hperm : (sortRanges ranges).Perm ranges := perm_insertionSort _ ranges
  have hmem : ∀ d, d ∈ [] ++ (sortRanges ranges).map (·.dst) ↔ d ∈ abRangeTargets ranges :=
    fun d => (hperm.map _).mem_iff
  refine (copyRanges_sat hr (fun x hx => htrim x (hperm.mem_iff.mp hx)) hf).seq fun dirty w1 h => ?_
  obtain ⟨rfl, hf1⟩ := h
  have hf2 : Finished (abRangeTargets ranges) w1 :=
    ⟨fun d b h => (hmem d).mp (hf1.logged d b h), fun d h => hf1.clean d ((hmem d).mpr h),
      fun d h => hf1.synced d ((hmem d).mpr h)⟩
  cases drain with
  | false => exact sat_pure.mpr hf2
  | true =>
    refine (copyAll_keeps hr discardRoom).seq_ok fun res w2 h => ?_
    cases res.2 with
    | some e => exact sat_fail.mpr ((hf1.of_eq h.1 h.2).report (dirtyTargets_widen e))
    | none => exact sat_pure.mpr (hf2.of_eq h.1 h.2)

/-! ### The whole copy -/

variable (u : Unicode) (digest : Digest) (download : Prog σ Err Unit) (sum : Option HashType)
  (target : ABTargets) (opt : StreamOpts)

/-- A checksum error reports the finished devices. -/
theorem verifyChecksum_report {targets : List String} (hf : Finished targets w) :
    Sat (mapErr (fun e => dirtyABTargetsError e.widen targets)
      (verifyChecksum u digest download sum opt)) w (fun _ _ => True) DirtyReport True :=
  sat_mapErr ((verifyChecksum_keeps u digest download sum opt).mono (fun _ _ _ => trivial)
    (fun e _ h => (hf.of_eq h.1 h.2).report (dirtyTargets_widen e)))

/-- Without a written device an error that lists none is a correct report. -/
theorem Finished.report_nil (hf : Finished [] w) (he : dirtyTargets e = []) : DirtyReport e w := by
  refine ⟨?_, ?_⟩
  · rintro d ⟨b, hb, -⟩
    exact absurd (hf.logged d b hb) not_mem_nil
  · grind

theorem streamABPartitions_sat (hr : KeepsTargets r) (parts : List SfdiskPartition)
    (hboot : trimSpace target.bootPartition = target.bootPartition)
    (hroot : trimSpace target.rootPartition = target.rootPartition) (hf : Finished [] w) :
    Sat (streamABPartitions u digest os r download sum target opt parts fuel) w
      (fun _ _ => True) DirtyReport True := by
  refine sat_bind (sat_mapErr (sat_lift (fun root _ => ?_) (fun e _ => ?_) (fun _ _ => trivial)))
  · have htrim : ∀ x ∈ abRanges target (bootSelection u target parts) root,
        trimSpace x.dst = x.dst := by
      intro x hx
      rcases mem_append.mp hx with hx | hx
      · aesop
      · rw [mem_singleton.mp hx]
        exact hroot
    refine (copyABStreamRanges_sat hr htrim hf).seq fun _ w1 hf1 => ?_
    exact verifyChecksum_report u digest download sum opt hf1
  · exact hf.report_nil (dirtyTargets_widen e)

theorem streamABRootFilesystem_sat (hr : KeepsTargets r)
    (hroot : trimSpace target.rootPartition = target.rootPartition) (hf : Finished [] w) :
    Sat (streamABRootFilesystem u digest os r download sum target opt fuel) w
      (fun _ _ => True) DirtyReport True := by
  have hempty : w.log = [] := eq_nil_iff_forall_not_mem.mpr (fun x hx =>
    not_mem_nil (hf.logged x.1 x.2 hx))
  refine sat_bind ((streamReaderToDevice_sat hroot hr).mono (fun _ w1 h => ?_)
    (fun e w1 hrep => ?_))
  · obtain ⟨hclean, ⟨b, hlog⟩, hsync⟩ := h
    refine verifyChecksum_report u digest download sum opt ⟨fun d b' hb' => ?_, fun d hd => ?_,
      fun d hd => ?_⟩
    · grind
    · grind
    · grind
  · obtain ⟨⟨new, hlog, hcomplete, hsound⟩, -⟩ := hrep
    rw [hempty, nil_append] at hlog
    refine ⟨?_, ?_⟩
    · rintro d ⟨b, hb, hne⟩
      exact hcomplete d b (by rwa [← hlog]) hne
    · intro d hd
      rcases (hsound d hd).2 with ⟨b, hb, hne⟩ | hd
      · exact .inl ⟨b, by rwa [hlog], hne⟩
      · exact .inr hd

/-- Every error of `streamABRaw` is a correct report. -/
theorem streamABRaw_sat (src : Reader σ Sentinel)
    (hboot : trimSpace target.bootPartition = target.bootPartition)
    (hroot : trimSpace target.rootPartition = target.rootPartition) (hf : Finished [] w) :
    Sat (streamABRaw u digest os src download target opt fuel) w (fun _ _ => True)
      DirtyReport True := by
  have hhead : Sat (readStreamPrefix os (srcRead src) streamABPrefixBytes fuel) w
      (fun _ w' => Finished [] w') DirtyReport True := by
    refine (copyN_keeps (keepsTargets_srcRead src) os.bufRoom _).seq_ok fun res w1 h => ?_
    have hf1 : Finished [] w1 := hf.of_eq h.1 h.2
    cases res.2 with
    | none => exact sat_pure.mpr hf1
    | some e =>
      dsimp only
      split
      · exact sat_pure.mpr hf1
      · exact sat_fail.mpr (hf1.report_nil (dirtyTargets_widen e))
  refine hhead.seq fun head w1 hf1 => ?_
  refine sat_bindAct ?_
  have hf2 : Finished [] { w1 with pending := head } := hf1.of_eq rfl rfl
  refine sat_bind (sat_mapErr (sat_lift (fun sum _ => ?_) (fun e _ => ?_) (fun _ _ => trivial)))
  · have hstream :
        KeepsTargets (if sum.isSome then teeRead (multiRead src) else multiRead src) := by
      split
      · exact (keepsTargets_multiRead src).teeRead
      · exact keepsTargets_multiRead src
    cases parseStreamPartitions head with
    | ok parts => grind [streamABPartitions_sat]
    | err e => grind [streamABRootFilesystem_sat, sat_fail.mpr, hf2.report_nil, dirtyTargets_widen]
    | fault p => exact sat_fault trivial
  · exact hf2.report_nil (dirtyTargets_widen e)

/-- **Dirty targets.**  Whenever `streamABRaw` returns an error, whatever the source reader, the
    download checksum, the context and the operating system did: every device that received a
    byte is listed in the error and is wiped, and a listed device was written or synced. -/
theorem streamABRaw_reports_dirty (u : Unicode) (digest : Digest) (os : Os)
    (src : Reader σ Sentinel) (s : σ) (download : Prog σ Err Unit) (target : ABTargets)
    (opt : StreamOpts) (fuel : Nat) (e : DirtyErr)
    (hboot : trimSpace target.bootPartition = target.bootPartition)
    (hroot : trimSpace target.rootPartition = target.rootPartition)
    (herr : (streamABRaw u digest os src download target opt fuel { src := s }).1 = .err e) :
    let w := (streamABRaw u digest os src download target opt fuel { src := s }).2
    (∀ d, Received w d → d ∈ dirtyTargets e ∧ d ∈ invalidateDirtyABTargets e) ∧
      ∀ d ∈ dirtyTargets e, Received w d ∨ d ∈ w.synced := by
  have hstart : Finished [] ({ src := s } : World σ) :=
    ⟨fun _ _ h => absurd h not_mem_nil, fun _ h => absurd h not_mem_nil,
      fun _ h => absurd h not_mem_nil⟩
  have hrep := (streamABRaw_sat u digest download target opt src hboot hroot hstart).of_err herr
  exact ⟨fun d hd => ⟨hrep.complete d hd, hrep.complete d hd⟩, hrep.sound⟩

end

/-- A disk that takes two bytes of every write and then fails. -/
def fullDisk : Os where
  write _ _ b := (min 2 b.length, some (.new "no space left on device"))

/-- The error of copying four bytes without a partition table to a full disk. -/
def fullDiskError : DirtyErr :=
  .typed ["/dev/sda2"] (.wrap "writing root target /dev/sda2"
    (.wrap "writing stream chunk" (.new "no space left on device")))

theorem fullDisk_reports_dirty :
    let run := streamABRaw asciiTables (fun _ _ => []) fullDisk bytesRead (pure ())
      { bootPartition := "/dev/sda1", rootPartition := "/dev/sda2" } {} 4 { src := [1, 2, 3, 4] }
    run.1 = .err fullDiskError ∧ run.2.log = [("/dev/sda2", [1, 2])] ∧
      (∀ d, Received run.2 d → d ∈ dirtyTargets fullDiskError ∧
        d ∈ invalidateDirtyABTargets fullDiskError) := by
  have hrun : (streamABRaw asciiTables (fun _ _ => []) fullDisk bytesRead (pure ())
      { bootPartition := "/dev/sda1", rootPartition := "/dev/sda2" } {} 4
      { src := [1, 2, 3, 4] }).1 = .err fullDiskError := by decide +kernel
  refine ⟨hrun, by decide +kernel, ?_⟩
  exact (streamABRaw_reports_dirty asciiTables (fun _ _ => []) fullDisk bytesRead [1, 2, 3, 4]
    (pure ()) _ {} 4 fullDiskError (by decide +kernel) (by decide +kernel) hrun).1

end Booty.Image
