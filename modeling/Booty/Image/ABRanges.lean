import Booty.Image.ABPlan

namespace Booty.Image

open Booty.Lib Booty.Lib.Prog List Option Source

/-!
# The bytes of an A/B copy

The plan of an image is made of its partitions themselves as long as the byte range of every
selected entry fits in `int64`.  The products `512 * Start` and `512 * Size` are not checked, so a
table entry far behind the end of every disk is reduced modulo `2 ^ 64` and other bytes are
copied.

* `streamABRaw_plan` — a successful copy of an image has written its plan;
* `copyPlan_exact`, `imagePlan_exact` — the plan of representable partitions;
* `streamABRaw_exact_iff` — exactly which images are copied as their table says;
* `wrappedImage_copies_other_bytes` — an image that is not.
-/

section

variable {σ : Type} {r : Reader (World σ) Sentinel} {rest : Source σ → Bytes}
  {inv : Source σ → Prop} {os : Os} {fuel : Nat} {w : World σ}

/-! ### The stream of an image -/

/-- The reader delivers an image: `rem s` is what is left of it, and the stream ends, properly or
    cut short, only when nothing is left. -/
structure ImageSource (r : Reader σ Sentinel) (rem : σ → Bytes) : Prop extends
    Delivers r rem where
  ended : ∀ n s e, (r n s).1.err = some e → EndOfStream e → rem (r n s).2 = []

variable {src : Reader σ Sentinel} {rem : σ → Bytes}

/-- Before the prefix is read, the source is the stream. -/
theorem srcRead_feeds (h : ImageSource src rem) :
    Feeds (srcRead src) (fun s => rem s.src) (fun s => s.srcEnded = false) where
  split n w _ := h.split n w.src
  le n w _ := h.le n w.src
  eof n w e _ he heof := h.ended n w.src e he heof
  keeps _ _ hinv := hinv
  log _ _ := rfl
  limit _ _ := rfl

/-- What a read of the prefix and the source behind it does: it takes bytes of the prefix, it is
    at the end, or it reads the source. -/
theorem multiRead_cases (src : Reader σ Sentinel) (n : Nat) (w : World σ) :
    (w.pending ≠ [] ∧ multiRead src n w =
      (⟨w.pending.take n, none⟩, { w with pending := w.pending.drop n })) ∨
    (w.pending = [] ∧ w.srcEnded = true ∧ multiRead src n w = (⟨[], some (.std .eof)⟩, w)) ∨
    (w.pending = [] ∧ multiRead src n w = ((src n w.src).1,
      { w with
        src := (src n w.src).2
        srcEnded := (src n w.src).1.err = some (.std .eof) })) := by
  unfold multiRead
  by_cases hp : w.pending = []
  · aesop
  · rw [if_pos hp]
    exact .inl ⟨hp, rfl⟩

/-- What the prefix and the source behind it still deliver. -/
def Source.stream (rem : σ → Bytes) (s : Source σ) : Bytes := s.pending ++ rem s.src

/-- The source is not read again after its end. -/
def Source.Ended (rem : σ → Bytes) (s : Source σ) : Prop := s.srcEnded = true → rem s.src = []

/-- The prefix in front of the rest of the source is the whole image. -/
theorem multiRead_feeds (h : ImageSource src rem) :
    Feeds (multiRead src) (stream rem) (Ended rem) where
  split n w _ := by
    rcases multiRead_cases src n w with ⟨-, heq⟩ | ⟨-, -, heq⟩ | ⟨hp, heq⟩ <;> rw [heq]
    · show w.pending ++ rem w.src = w.pending.take n ++ (w.pending.drop n ++ rem w.src)
      rw [← append_assoc, take_append_drop]
    · rfl
    · show w.pending ++ rem w.src = _ ++ (w.pending ++ rem _)
      rw [hp]
      exact h.split n w.src
  le n w _ := by
    rcases multiRead_cases src n w with ⟨-, heq⟩ | ⟨-, -, heq⟩ | ⟨-, heq⟩ <;> rw [heq]
    · exact length_take_le _ _
    · exact Nat.zero_le _
    · exact h.le n w.src
  eof n w e hinv he heof := by
    rcases multiRead_cases src n w with ⟨-, heq⟩ | ⟨hp, hend, heq⟩ | ⟨hp, heq⟩ <;>
      rw [heq] at he ⊢
    · cases he
    · show w.pending ++ rem w.src = []
      rw [hp]
      exact hinv hend
    · show w.pending ++ rem _ = []
      rw [hp]
      exact h.ended n w.src e he heof
  keeps n w hinv := by
    rcases multiRead_cases src n w with ⟨-, heq⟩ | ⟨-, -, heq⟩ | ⟨-, heq⟩ <;> rw [heq]
    · exact hinv
    · exact hinv
    · intro hend
      exact h.eof n w.src (of_decide_eq_true hend)
  log n w := (keepsTargets_multiRead src n w).1
  limit n w := by
    rcases multiRead_cases src n w with ⟨-, heq⟩ | ⟨-, -, heq⟩ | ⟨-, heq⟩ <;> rw [heq]

/-- The payload hash does not change the stream. -/
theorem Feeds.teeRead (hr : Feeds r rest inv) : Feeds (teeRead r) rest inv where
  split n w := hr.split n w
  le n w := hr.le n w
  eof n w := hr.eof n w
  keeps n w := hr.keeps n w
  log n w := hr.log n w
  limit n w := hr.limit n w

/-- A source without failures, and a world in which nothing else fails either: no checksum, no
    device error, and enough reads allowed. -/
structure Cooperative (src : Reader σ Sentinel) (rem : σ → Bytes) (os : Os)
    (download : Prog σ Err Unit) (opt : StreamOpts) (img : Bytes) (fuel : Nat) : Prop where
  steady : ∀ n s, 0 < n →
    ((src n s).1.err = none ∧ (src n s).1.data ≠ []) ∨
    ((src n s).1.err = some (.std .eof) ∧ (src n s).1.data = [] ∧ rem s = [])
  ideal : os.Ideal
  download : ∀ s, (download s).1 = .ok ()
  checksum : opt.checksum = ""
  fuel : img.length < fuel

variable {download : Prog σ Err Unit} {opt : StreamOpts} {img : Bytes}

theorem Cooperative.srcRead (h : Cooperative src rem os download opt img fuel) :
    Steady (srcRead src) (fun s => rem s.src) (fun s => s.srcEnded = false) :=
  fun n w hn _ => h.steady n w.src hn

theorem Cooperative.multiRead (h : Cooperative src rem os download opt img fuel) :
    Steady (multiRead src) (stream rem) (Ended rem) := by
  intro n w hn hinv
  rcases multiRead_cases src n w with ⟨hp, heq⟩ | ⟨hp, hend, heq⟩ | ⟨hp, heq⟩ <;> rw [heq]
  · grind [take_eq_nil_iff.mp]
  · refine .inr ⟨rfl, rfl, ?_⟩
    show w.pending ++ rem w.src = []
    rw [hp]
    exact hinv hend
  · refine (h.steady n w.src hn).imp id (fun ⟨he, hd, hr⟩ => ⟨he, hd, ?_⟩)
    show w.pending ++ rem w.src = []
    rw [hp, hr, append_nil]

/-- **The prefix.**  `readStreamPrefix` returns the first 1 MiB of the image, and leaves the rest
    in the source. -/
theorem readStreamPrefix_feeds (h : ImageSource src rem) {T : Prop} {s : σ} (himg : rem s = img)
    (hT : T → Cooperative src rem os download opt img fuel) :
    Sat (readStreamPrefix os (srcRead src) streamABPrefixBytes fuel) { src := s }
      (fun head w' => head = img.take streamABPrefixBytes ∧ head ++ rem w'.src = img ∧
        w'.srcEnded = false ∧ w'.log = []) (fun _ _ => ¬T) (¬T) := by
  refine (copyN_feeds (w := { src := s }) (srcRead_feeds h) (T := T) (fun t => ⟨(hT t).srcRead,
    (hT t).ideal.bufRoom, ?_⟩) rfl).seq_ok fun res w' hres => ?_
  · show (rem s).length < fuel
    rw [himg]
    exact (hT t).fuel
  obtain ⟨hcon, hfull, hend, ht⟩ := hres
  have hsplit : img = res.1 ++ rem w'.src := himg.symm.trans hcon.split
  cases he : res.2 with
  | none =>
    refine sat_pure.mpr ⟨?_, hsplit.symm, hcon.inv, hcon.log⟩
    have hlen : res.1.length = streamABPrefixBytes := hfull he
    rw [hsplit, ← hlen, take_left]
  | some e =>
    dsimp only
    -- A short image ends the prefix early, and nothing is left of it.
    by_cases heof : e.isStd .eof = true ∨ e.isStd .unexpectedEOF = true
    · rw [if_pos heof]
      obtain ⟨hnil, hlen⟩ := hend e (Int.natCast_nonneg _) he heof
      have hnil : rem w'.src = [] := hnil
      refine sat_pure.mpr ⟨?_, hsplit.symm, hcon.inv, hcon.log⟩
      rw [hsplit, hnil, append_nil, take_of_length_le]
      exact hlen
    · rw [if_neg heof]
      refine sat_fail.mpr (fun t => heof (.inl ?_))
      rcases ht t with hnone | ⟨-, hstd⟩
      · rw [he] at hnone
        cases hnone
      · rw [he] at hstd
        cases hstd
        rfl

/-! ### The whole copy -/

/-- The partitions that `streamABRaw` selects from the table of an image: the boot partition, if
    any, and the root partition. -/
def selection (u : Unicode) (target : ABTargets) (img : Bytes) :
    Option (Option SfdiskPartition × SfdiskPartition) :=
  match parseStreamPartitions (img.take streamABPrefixBytes) with
  | .ok parts =>
    match selectSourceRootPartition u parts target.sourceRootLabel target.sourceRootPartition with
    | .ok root => some (bootSelection u target parts, root)
    | _ => none
  | _ => none

/-- The image has a GPT or an MBR in its first 1 MiB. -/
def hasTable (img : Bytes) : Bool :=
  match parseStreamPartitions (img.take streamABPrefixBytes) with
  | .err e => !e.is .noPartitionTable
  | _ => true

/-- The plan for an image: the selected partitions, with the byte ranges of `partitionRange`. -/
def imagePlan (target : ABTargets) (img : Bytes) (boot : Option SfdiskPartition)
    (root : SfdiskPartition) : Option (List (String × Bytes)) :=
  copyPlan img (sortRanges (abRanges target boot root)) 0 0

variable {u : Unicode} {digest : Digest} {target : ABTargets} {s : σ}

theorem copyABStreamRanges_plan (hr : Feeds r rest inv) (hk : KeepsTargets r) {T : Prop}
    {ranges : List AbStreamRange} {drain : Bool}
    (hT : T → Steady r rest inv ∧ os.Ideal ∧ img.length < fuel ∧ (∀ x ∈ ranges, x.dst ≠ "") ∧
      copyPlan img (sortRanges ranges) 0 0 ≠ none ∧ drain = false)
    (hinv : inv w.source) (himg : rest w.source = img) (hlog : w.log = []) :
    Sat (copyABStreamRanges os r ranges drain fuel) w
      (fun _ w' => copyPlan img (sortRanges ranges) 0 0 = some w'.log) (fun _ _ => ¬T) (¬T) := by
  have hoff : rest w.source = img.drop 0 := himg
  refine (copyRanges_plan hr hk (T := T) (fun t => ?_) hinv hoff).seq fun dirty w1 h => ?_
  · obtain ⟨hs, hos, hfuel, hdst, hplan, -⟩ := hT t
    refine ⟨hs, hos, hfuel, fun x hx => hdst x ?_, hplan⟩
    exact (perm_insertionSort _ ranges).mem_iff.mp hx
  obtain ⟨new, hnew, hlog1⟩ := h
  rw [hlog, nil_append] at hlog1
  have hplan : copyPlan img (sortRanges ranges) 0 0 = some w1.log := by rw [hnew, hlog1]
  by_cases hdrain : drain = true
  · rw [if_pos hdrain]
    have hnot : ¬T := fun t => by grind
    refine ((copyAll_keeps hk _).mono_fault (fun _ _ h => h) (fun _ _ h => h)
      fun _ => hnot).seq_ok fun res w2 h => ?_
    cases res.2 with
    | some e => exact sat_fail.mpr hnot
    | none => grind [sat_pure.mpr]
  · rw [if_neg hdrain]
    exact sat_pure.mpr hplan

/-- Every range has a target. -/
theorem abRanges_dst_ne (hroot : target.rootPartition ≠ "") (parts : List SfdiskPartition)
    (root : SfdiskPartition) :
    ∀ x ∈ abRanges target (bootSelection u target parts) root, x.dst ≠ "" := by
  intro x hx
  rcases mem_append.mp hx with hx | hx
  · obtain ⟨p, hp, rfl⟩ := map_eq_some_iff.mp (mem_toList.mp hx)
    show target.bootPartition ≠ ""
    intro hempty
    rw [bootSelection, if_neg (not_not.mpr hempty)] at hp
    cases hp
  · rw [mem_singleton.mp hx]
    exact hroot

/-- The log is the plan of the selected partitions. -/
abbrev Planned (u : Unicode) (target : ABTargets) (img : Bytes) (log : List (String × Bytes)) :
    Prop :=
  ∃ boot root, selection u target img = some (boot, root) ∧
    imagePlan target img boot root = some log

/-- The partitioned part of `streamABRaw` carries out the plan of the selected partitions. -/
theorem streamABPartitions_plan (src : Reader σ Sentinel) (rem : σ → Bytes) (hr : Feeds r rest inv)
    (hk : KeepsTargets r) {T : Prop}
    {sum : Option HashType} {parts : List SfdiskPartition}
    (hparts : parseStreamPartitions (img.take streamABPrefixBytes) = .ok parts)
    (hT : T → Steady r rest inv ∧ Cooperative src rem os download opt img fuel ∧ sum = none ∧
      target.rootPartition ≠ "" ∧ ∃ boot root, selection u target img = some (boot, root) ∧
        imagePlan target img boot root ≠ none)
    (hinv : inv w.source) (himg : rest w.source = img) (hlog : w.log = []) :
    Sat (streamABPartitions u digest os r download sum target opt parts fuel) w (fun _ w' =>
      Planned u target img w'.log) (fun _ _ => ¬T) (¬T) := by
  have hsel : ∀ root, selectSourceRootPartition u parts target.sourceRootLabel
      target.sourceRootPartition = .ok root →
      selection u target img = some (bootSelection u target parts, root) := by
    intro root hroot
    rw [selection, hparts]
    dsimp only
    rw [hroot]
  -- Without a root partition there is no selection.
  have hnone : ∀ x : Outcome Err SfdiskPartition, (∀ root, x ≠ .ok root) →
      selectSourceRootPartition u parts target.sourceRootLabel target.sourceRootPartition = x →
      ¬T := by
    intro x hx hroot t
    obtain ⟨boot, root, hs, -⟩ := (hT t).2.2.2.2
    rw [selection, hparts] at hs
    dsimp only at hs
    rw [hroot] at hs
    cases x with
    | ok root => exact hx root rfl
    | err e => cases hs
    | fault p => cases hs
  refine sat_bind (sat_mapErr (sat_lift (fun root hroot => ?_)
    (fun e he => hnone _ (fun _ h => by cases h) he)
    (fun p hp => hnone _ (fun _ h => by cases h) hp)))
  refine (copyABStreamRanges_plan hr hk (T := T) (fun t => ?_) hinv himg hlog).seq
    fun _ w1 hplan => ?_
  · obtain ⟨hs, hcoop, hsum, hdst, boot, root', hs', hplan⟩ := hT t
    rw [hsel root hroot] at hs'
    cases hs'
    refine ⟨hs, hcoop.ideal, hcoop.fuel, abRanges_dst_ne hdst parts root, hplan, ?_⟩
    rw [hsum]
    rfl
  have hdone : ∀ w' : World σ, w'.log = w1.log → Planned u target img w'.log := by
    intro w' hw
    rw [hw]
    exact ⟨_, root, hsel root hroot, hplan⟩
  refine sat_mapErr ?_
  by_cases t : T
  · obtain ⟨-, hcoop, rfl, -⟩ := hT t
    refine sat_bind ?_
    exact sat_onSrc (sat_of_ok (hcoop.download w1.src) (sat_pure.mpr (hdone _ rfl)))
  · exact (verifyChecksum_keeps u digest download sum opt).mono_fault
      (fun _ w' h => hdone w' h.1) (fun _ _ _ => t) fun _ => t

/-- **The plan of an image.**  For an image with a partition table, a successful `streamABRaw`
    has written the plan of its selected partitions; and when everything else cooperates, an
    existing plan is carried out. -/
theorem streamABRaw_plan (u : Unicode) (digest : Digest) (target : ABTargets)
    (h : ImageSource src rem) (himg : rem s = img) {T : Prop} (htable : hasTable img = true)
    (hT : T → Cooperative src rem os download opt img fuel ∧ target.rootPartition ≠ "" ∧
      ∃ boot root, selection u target img = some (boot, root) ∧
        imagePlan target img boot root ≠ none) :
    Sat (streamABRaw u digest os src download target opt fuel) { src := s } (fun _ w' =>
      Planned u target img w'.log) (fun _ _ => ¬T) (¬T) := by
  refine (readStreamPrefix_feeds h himg (fun t => (hT t).1)).seq fun head w1 hhead => ?_
  obtain ⟨rfl, hsplit, hended, hlog⟩ := hhead
  have hsum : T → payloadHash u opt = .ok none := fun t => by
    rw [payloadHash, if_pos (hT t).1.checksum]
  refine sat_bindAct (sat_bind (sat_mapErr (sat_lift (fun sum hpay => ?_)
    (fun e he t => ?_) (fun p hp t => ?_))))
  rotate_left
  · rw [hsum t] at he
    cases he
  · rw [hsum t] at hp
    cases hp
  have hinv : Ended rem ({ w1 with pending := img.take streamABPrefixBytes } : World σ).source := by
    intro hend
    rw [show w1.srcEnded = true from hend] at hended
    cases hended
  -- The selection fails with the table.
  have hnone : ∀ x : Outcome Err (List SfdiskPartition), (∀ parts, x ≠ .ok parts) →
      parseStreamPartitions (img.take streamABPrefixBytes) = x → ¬T := by
    intro x hx hparse t
    obtain ⟨boot, root, hs, -⟩ := (hT t).2.2
    rw [selection, hparse] at hs
    cases x with
    | ok parts => exact hx parts rfl
    | err e => cases hs
    | fault p => cases hs
  cases hparse : parseStreamPartitions (img.take streamABPrefixBytes) with
  | ok parts =>
    have hrun : ∀ r : Reader (World σ) Sentinel, Feeds r (stream rem) (Ended rem) →
        KeepsTargets r → (T → r = multiRead src) → Sat
        (streamABPartitions u digest os r download sum target opt parts fuel)
        { w1 with pending := img.take streamABPrefixBytes } (fun _ w' =>
        Planned u target img w'.log) (fun _ _ => ¬T) (¬T) := by
      intro r hr hk hrT
      refine streamABPartitions_plan src rem hr hk hparse (fun t => ?_) hinv hsplit hlog
      refine ⟨?_, (hT t).1, ?_, (hT t).2⟩
      · rw [hrT t]
        exact (hT t).1.multiRead
      · grind
    cases sum with
    | none => grind [multiRead_feeds, keepsTargets_multiRead]
    | some kind =>
      refine hrun _ (multiRead_feeds h).teeRead (keepsTargets_multiRead src).teeRead (fun t => ?_)
      have := hsum t
      rw [hpay] at this
      cases this
  | err e =>
    dsimp only
    rw [if_neg]
    · grind [sat_fail.mpr]
    · rw [hasTable, hparse] at htable
      simpa using htable
  | fault p => grind [sat_fault]

/-! ### The partitions of the table -/

/-- The first byte of a partition, by the sector number in the table. -/
def firstByte (img : Bytes) (p : SfdiskPartition) : Nat :=
  512 * (tableRange (img.take streamABPrefixBytes) p.number).first

/-- The end of a partition: the byte behind its last sector. -/
def endByte (img : Bytes) (p : SfdiskPartition) : Nat :=
  512 * ((tableRange (img.take streamABPrefixBytes) p.number).last + 1)

/-- The byte range of the partition fits in `int64`. -/
def Representable (img : Bytes) (p : SfdiskPartition) : Prop := endByte img p < 2 ^ 63

instance (img : Bytes) (p : SfdiskPartition) : Decidable (Representable img p) :=
  inferInstanceAs (Decidable (_ < _))

/-- The bytes of the partition in the image. -/
def partitionBytes (img : Bytes) (p : SfdiskPartition) : Bytes :=
  (img.drop (firstByte img p)).take (endByte img p - firstByte img p)

/-- What the targets are meant to receive. -/
def exactLog (target : ABTargets) (img : Bytes) (boot : Option SfdiskPartition)
    (root : SfdiskPartition) : List (String × Bytes) :=
  (boot.map (fun p => (target.bootPartition, partitionBytes img p))).toList ++
    [(target.rootPartition, partitionBytes img root)]

/-- The byte range of a representable partition is the one in the table. -/
theorem partitionRange_exact {p : SfdiskPartition} (he : IsEntry (img.take streamABPrefixBytes) p)
    (hrep : Representable img p) (name dst : String) :
    partitionRange name p dst =
      ⟨name, firstByte img p, (endByte img p - firstByte img p : Nat), dst⟩ := by
  obtain ⟨-, hle, -, hstart, hsize⟩ := he
  unfold Representable endByte at hrep
  unfold partitionRange firstByte endByte
  generalize tableRange (img.take streamABPrefixBytes) p.number = range at *
  have hs : wrap64 (range.first : Int) = range.first := wrap64_of_inInt64 ⟨by omega, by omega⟩
  have hn : wrap64 ((range.last - range.first + 1 : Nat) : Int) =
      (range.last - range.first + 1 : Nat) := wrap64_of_inInt64 ⟨by omega, by omega⟩
  have hfirst : wrap64 ((512 : Nat) * (range.first : Int)) = (512 * range.first : Nat) := by
    rw [wrap64_of_inInt64 ⟨by omega, by omega⟩]
    omega
  have hlength : wrap64 ((512 : Nat) * ((range.last - range.first + 1 : Nat) : Int)) =
      (512 * (range.last + 1) - 512 * range.first : Nat) := by
    rw [wrap64_of_inInt64 ⟨by omega, by omega⟩]
    omega
  rw [hstart, hsize, hs, hn, gptSectorSize, hfirst, hlength]

/-- **The plan of representable ranges** copies each range from its own place. -/
theorem copyPlan_exact {ranges : List AbStreamRange} (off : Nat) {log : List (String × Bytes)}
    (hx : ∀ x ∈ ranges, 0 ≤ x.start ∧ 0 < x.size ∧ x.start + x.size < 2 ^ 63)
    (hoff : off < 2 ^ 63) (h : copyPlan img ranges off off = some log) :
    (∀ x ∈ ranges, x.start + x.size ≤ img.length) ∧
    log = ranges.map (fun x => (x.dst, window img x.start.toNat x.size.toNat)) := by
  induction ranges generalizing off log with
  | nil =>
    cases h
    exact ⟨fun x hx => absurd hx not_mem_nil, rfl⟩
  | cons x xs ih =>
    obtain ⟨hstart, hsize, hend⟩ := hx x mem_cons_self
    rw [copyPlan] at h
    by_cases hbad : x.start < off ∨ x.size ≤ 0
    · rw [if_pos hbad] at h
      cases h
    -- The positions do not wrap, so the copy starts at the start of the range.
    have hfrom : off + (wrap64 (x.start - off)).toNat = x.start.toNat := by
      rw [wrap64_of_inInt64 ⟨by omega, by omega⟩]
      omega
    have hpos : wrap64 (x.start + x.size) = ((x.start.toNat + x.size.toNat : Nat) : Int) := by
      rw [wrap64_of_inInt64 ⟨by omega, by omega⟩]
      omega
    rw [if_neg hbad, hfrom, hpos] at h
    by_cases hshort : img.length < x.start.toNat + x.size.toNat
    · rw [if_pos hshort] at h
      cases h
    rw [if_neg hshort] at h
    obtain ⟨log', hlog', rfl⟩ := map_eq_some_iff.mp h
    obtain ⟨hin, rfl⟩ := ih _ (fun y hy => hx y (mem_cons_of_mem _ hy)) (by omega) hlog'
    refine ⟨?_, rfl⟩
    rintro y (_ | ⟨_, hy⟩)
    · omega
    · exact hin y hy

variable {boot : Option SfdiskPartition} {root : SfdiskPartition}

/-- Every selected partition is an entry of the table. -/
theorem isEntry_of_selection (h : selection u target img = some (boot, root)) :
    ∀ p ∈ boot.toList ++ [root], IsEntry (img.take streamABPrefixBytes) p := by
  have hmeets := parseStreamPartitions_meets (img.take streamABPrefixBytes)
  rw [selection] at h
  cases hparse : parseStreamPartitions (img.take streamABPrefixBytes) with
  | err e => rw [hparse] at h; cases h
  | fault p => rw [hparse] at h; cases h
  | ok parts =>
    have hentry := hmeets.of_eq_ok hparse
    rw [hparse] at h
    dsimp only at h
    have hroot := selectSourceRootPartition_meets u parts target.sourceRootLabel
      target.sourceRootPartition
    cases hsel : selectSourceRootPartition u parts target.sourceRootLabel
      target.sourceRootPartition with
    | err e => rw [hsel] at h; cases h
    | fault p => rw [hsel] at h; cases h
    | ok root' =>
      rw [hsel] at h hroot
      cases h
      intro p hp
      rcases mem_append.mp hp with hp | hp
      · rw [bootSelection] at hp
        by_cases hb : target.bootPartition ≠ ""
        · grind [selectSourceBootPartition_mem]
        · rw [if_neg hb] at hp
          cases hp
      · simp_all

/-- The targets received exactly the selected partitions. -/
structure ExactLog (target : ABTargets) (img : Bytes) (boot : Option SfdiskPartition)
    (root : SfdiskPartition) (log : List (String × Bytes)) : Prop where
  representable : ∀ p ∈ boot.toList ++ [root], Representable img p
  inside : ∀ p ∈ boot.toList ++ [root], endByte img p ≤ img.length
  log : log.Perm (exactLog target img boot root)

/-- Every range belongs to a selected partition. -/
theorem exists_of_mem_abRanges {x : AbStreamRange} (hx : x ∈ abRanges target boot root) :
    ∃ p ∈ boot.toList ++ [root], ∃ name dst, x = partitionRange name p dst := by
  rcases mem_append.mp hx with hx | hx
  · obtain ⟨p, rfl, rfl⟩ := map_eq_some_iff.mp (mem_toList.mp hx)
    exact ⟨p, mem_append_left _ (mem_singleton_self p), _, _, rfl⟩
  · grind

/-- With representable partitions the plan is exact. -/
theorem imagePlan_exact
    {log : List (String × Bytes)} (hsel : selection u target img = some (boot, root))
    (hrep : ∀ p ∈ boot.toList ++ [root], Representable img p)
    (hplan : imagePlan target img boot root = some log) : ExactLog target img boot root log := by
  have hentry := isEntry_of_selection hsel
  have hrange : ∀ p ∈ boot.toList ++ [root], ∀ name dst, partitionRange name p dst =
      ⟨name, firstByte img p, (endByte img p - firstByte img p : Nat), dst⟩ :=
    fun p hp => partitionRange_exact (hentry p hp) (hrep p hp)
  have hlt : ∀ p ∈ boot.toList ++ [root], firstByte img p < endByte img p := by
    intro p hp
    have := (hentry p hp).ordered
    unfold firstByte endByte
    omega
  have hperm : (sortRanges (abRanges target boot root)).Perm (abRanges target boot root) :=
    perm_insertionSort _ _
  -- Without an overflow the ranges of the plan are those of the table.
  have hfits : ∀ x ∈ sortRanges (abRanges target boot root),
      0 ≤ x.start ∧ 0 < x.size ∧ x.start + x.size < 2 ^ 63 := by
    intro x hx
    obtain ⟨p, hp, name, dst, rfl⟩ := exists_of_mem_abRanges (hperm.mem_iff.mp hx)
    have hfit : endByte img p < 2 ^ 63 := hrep p hp
    have := hlt p hp
    rw [hrange p hp]
    refine ⟨?_, ?_, ?_⟩ <;> dsimp only <;> omega
  obtain ⟨hin, rfl⟩ := copyPlan_exact 0 hfits (by norm_num) hplan
  -- A plan that exists has every range inside the image.
  have hinside : ∀ p ∈ boot.toList ++ [root], endByte img p ≤ img.length := by
    intro p hp
    have hmem : ∃ name dst, partitionRange name p dst ∈ abRanges target boot root := by
      rcases mem_append.mp hp with hb | hb
      · rw [mem_toList] at hb
        cases hb
        exact ⟨"boot", target.bootPartition, mem_append_left _ (mem_singleton_self _)⟩
      · rw [mem_singleton.mp hb]
        exact ⟨"root", target.rootPartition, mem_append_right _ (mem_singleton_self _)⟩
    obtain ⟨name, dst, hx⟩ := hmem
    have hend := hin _ (hperm.mem_iff.mpr hx)
    have := hlt p hp
    rw [hrange p hp] at hend
    dsimp only at hend
    omega
  have hbytes : ∀ p ∈ boot.toList ++ [root], ∀ name dst,
      window img (partitionRange name p dst).start.toNat (partitionRange name p dst).size.toNat =
        partitionBytes img p := by
    intro p hp name dst
    have := hlt p hp
    have := hinside p hp
    rw [hrange p hp]
    rw [Int.toNat_natCast, Int.toNat_natCast, window_eq_slice (by omega), partitionBytes]
  -- The copy is in the order of the offsets, the log that is meant in the order of the targets.
  refine ⟨hrep, hinside, (hperm.map _).trans (Perm.of_eq ?_)⟩
  have hroot := hbytes root (mem_append_right _ (mem_singleton_self root)) "root"
    target.rootPartition
  cases boot with
  | none =>
    show [(target.rootPartition, _)] = [(target.rootPartition, partitionBytes img root)]
    rw [hroot]
  | some p =>
    have hboot := hbytes p mem_cons_self "boot" target.bootPartition
    show [(target.bootPartition, _), (target.rootPartition, _)] =
      [(target.bootPartition, partitionBytes img p),
        (target.rootPartition, partitionBytes img root)]
    rw [hroot, hboot]

/-! ### When the copy is exact -/

/-- For this image and these targets, every successful run of `streamABRaw`, whatever the source
    reader, the devices, the checksums and the number of reads, has copied exactly the selected
    partitions; in particular their byte ranges are representable. -/
def ExactCopy (u : Unicode) (target : ABTargets) (img : Bytes) : Prop :=
  ∀ (σ : Type) (src : Reader σ Sentinel) (rem : σ → Bytes) (s : σ) (digest : Digest) (os : Os)
    (download : Prog σ Err Unit) (opt : StreamOpts) (fuel : Nat),
    ImageSource src rem → rem s = img →
    (streamABRaw u digest os src download target opt fuel { src := s }).1 = .ok () →
    ∃ boot root, selection u target img = some (boot, root) ∧ ExactLog target img boot root
      (streamABRaw u digest os src download target opt fuel { src := s }).2.log

/-- A `bytes.Reader` delivers its bytes as an image. -/
theorem imageSource_bytesRead : ImageSource (bytesRead (κ := Sentinel)) id where
  toDelivers := delivers_bytesRead
  ended n b e he _ := by grind [bytesRead_cases]

/-- Reading an image from memory, with devices that never fail. -/
theorem cooperative_bytesRead (img : Bytes) :
    Cooperative bytesRead id {} (pure ()) {} img (img.length + 1) where
  steady n b hn := by
    by_cases hb : b = []
    · rw [hb]
      exact .inr ⟨rfl, rfl, rfl⟩
    · rw [bytesRead, if_neg hb]
      refine .inl ⟨rfl, fun hnil => hb ?_⟩
      exact (take_eq_nil_iff.mp hnil).resolve_left (by omega)
  ideal := ⟨fun _ => rfl, fun _ _ => rfl, fun _ _ _ => rfl, fun _ _ => rfl, fun _ => Nat.succ_pos _⟩
  download _ := rfl
  checksum := rfl
  fuel := Nat.lt_succ_self _

/-- **Exact copies.**  For an image with a partition table, `streamABRaw` copies exactly the
    selected partitions if and only if the byte range of each of them fits in `int64`, or the
    wrapped ranges cannot be laid out in the stream: one starts before the end of the one before
    it, is empty or leaves the image. -/
theorem streamABRaw_exact_iff (u : Unicode) (target : ABTargets) (img : Bytes)
    (hroot : target.rootPartition ≠ "") (htable : hasTable img = true) :
    ExactCopy u target img ↔ ∀ boot root, selection u target img = some (boot, root) →
      (∀ p ∈ boot.toList ++ [root], Representable img p) ∨
        imagePlan target img boot root = none := by
  constructor
  · intro hexact boot root hsel
    by_cases hplan : imagePlan target img boot root = none
    · exact .inr hplan
    refine .inl ?_
    -- Nothing else fails in this run, so the plan is carried out.
    have hsat := streamABRaw_plan u (fun _ _ => []) target (T := True) imageSource_bytesRead
      (s := img) rfl htable (fun _ => ⟨cooperative_bytesRead img, hroot, boot, root, hsel, hplan⟩)
    obtain ⟨a, hok⟩ := hsat.exists_ok (fun _ _ h => h trivial) (fun h => h trivial)
    obtain ⟨boot', root', hsel', hlog⟩ := hexact _ _ _ _ _ _ _ _ _ imageSource_bytesRead rfl hok
    rw [hsel] at hsel'
    cases hsel'
    exact hlog.representable
  · intro hcond σ src rem s digest os download opt fuel hsrc himg hok
    obtain ⟨boot, root, hsel, hplan⟩ := (streamABRaw_plan u digest target (T := False) hsrc himg
      htable (fun h => h.elim)).of_ok hok
    refine ⟨boot, root, hsel, ?_⟩
    rcases hcond boot root hsel with hrep | hnone
    · exact imagePlan_exact hsel hrep hplan
    · rw [hplan] at hnone
      cases hnone

end

/-- An unsigned number in little-endian order. -/
def putLittleEndian (n v : Nat) : Bytes := (putBigEndian n v).reverse

/-- A disk of four sectors whose GPT lists one Linux partition of one sector. -/
def diskWith (sector : Nat) : Bytes :=
  List.replicate 512 0 ++
  resize (gptSignature ++ List.replicate 64 0 ++ putLittleEndian 8 2 ++ putLittleEndian 4 1 ++
    putLittleEndian 4 128) 512 ++
  resize ([0xaf, 0x3d, 0xc6, 0x0f, 0x83, 0x84, 0x72, 0x47, 0x8e, 0x79, 0x3d, 0x69, 0xd8, 0x47,
    0x7d, 0xe4] ++ List.replicate 16 1 ++ putLittleEndian 8 sector ++ putLittleEndian 8 sector)
      512 ++
  List.replicate 512 0xab

/-- A slot with a boot and a root device. -/
def slot : ABTargets := { bootPartition := "/dev/sda1", rootPartition := "/dev/sda2" }

/-- The partition that is selected from `diskWith sector`. -/
def linuxPartition (sector : Nat) : SfdiskPartition where
  node := "gpt-part-1"
  number := 1
  start := wrap64 sector
  size := 1
  type := linuxFilesystemGUID
  name := ""

theorem diskWith_exact :
    hasTable (diskWith 3) = true ∧ ExactCopy asciiTables slot (diskWith 3) := by
  have hsel : selection asciiTables slot (diskWith 3) = some (none, linuxPartition 3) := by
    decide +kernel
  have htable : hasTable (diskWith 3) = true := by decide +kernel
  refine ⟨htable, (streamABRaw_exact_iff asciiTables slot (diskWith 3) (by decide)
    htable).mpr (fun boot root h => .inl ?_)⟩
  rw [hsel] at h
  cases h
  decide +kernel

/-- The partition starts far behind the end of the disk, at sector `2 ^ 55 + 1`; its byte range
    wraps to the second sector, and `streamABRaw` copies the GPT header into the root target. -/
theorem wrappedImage_copies_other_bytes :
    let run := streamABRaw asciiTables (fun _ _ => []) {} bytesRead (pure ()) slot {} 2049
      { src := diskWith (2 ^ 55 + 1) }
    hasTable (diskWith (2 ^ 55 + 1)) = true ∧ run.1 = .ok () ∧
      run.2.log = [("/dev/sda2", window (diskWith (2 ^ 55 + 1)) 512 512)] ∧
      ¬ExactCopy asciiTables slot (diskWith (2 ^ 55 + 1)) := by
  have hok : (streamABRaw asciiTables (fun _ _ => []) {} bytesRead (pure ()) slot {} 2049
      { src := diskWith (2 ^ 55 + 1) }).1 = .ok () := by decide +kernel
  have hsel : selection asciiTables slot (diskWith (2 ^ 55 + 1)) =
      some (none, linuxPartition (2 ^ 55 + 1)) := by decide +kernel
  refine ⟨by decide +kernel, hok, by decide +kernel, fun hexact => ?_⟩
  obtain ⟨boot, root, hsel', hlog⟩ := hexact _ _ _ _ _ _ _ _ _ imageSource_bytesRead rfl hok
  rw [hsel] at hsel'
  cases hsel'
  have hrep := hlog.representable _ (mem_singleton_self _)
  exact absurd hrep (by decide +kernel)

end Booty.Image
