import Booty.Image.ABCopy
import Booty.Image.Flows

namespace Booty.Image

open Booty.Lib Booty.Lib.Prog Pipe

/-!
# A download is verified as a whole

Whatever the decoder reads, however the body is cut into chunks and wherever the copy stops, a
download-scope checksum is compared with the digest of the whole body.  `stream`, `streamAB` and
`downloadToFile` succeed only if the two are equal.

The copies are followed only as far as the source is concerned: each of them keeps a property `P`
of the source that reads keep, and ends with `V` where it ends with `io.EOF` or a verification.

* `ioCopy_sat` — `io.Copy` succeeds only on the bare `io.EOF`;
* `streamABRaw_verified` — an A/B copy succeeds only after the verification;
* `download_verified_complete` — the consumers, `stream`, `streamAB` and `downloadToFile`.
-/

section

variable {σ : Type} {P V : σ → Prop} {os : Os} {fuel : Nat} {w : World σ}
  {r : Reader (World σ) Sentinel} {src : Reader σ Sentinel}

/-! ### Copies keep a property of the source -/

/-- No read destroys a property of the source. -/
def KeepsSource (r : Reader (World σ) Sentinel) (P : σ → Prop) : Prop :=
  Keeps r (fun w => P w.src)

theorem keepsSource_srcRead (h : Keeps src P) : KeepsSource (srcRead src) P :=
  fun n w hw => h n w.src hw

theorem keepsSource_multiRead (h : Keeps src P) : KeepsSource (multiRead src) P := by
  intro n w hw
  unfold multiRead
  split
  · exact hw
  · split
    · exact hw
    · exact h n w.src hw

theorem KeepsSource.teeRead (h : KeepsSource r P) : KeepsSource (teeRead r) P :=
  fun n w hw => h n w hw

theorem KeepsSource.limitedRead (h : KeepsSource r P) : KeepsSource (limitedRead r) P :=
  keeps_limitedRead h (fun _ _ hw => hw)

/-- A copy to nowhere. -/
theorem copyN_source (hr : KeepsSource r P) (room : Nat → Nat) (n : Int) (hw : P w.src) :
    Returns (copyN r room n fuel) w (fun _ w' => P w'.src) :=
  (keeps_copyN hr (fun _ _ hw => hw) room n hw).mono (fun _ _ h => h) (fun _ _ _ => trivial)

variable {out : Nat} {dst : String}

/-- Writing does not touch the source. -/
theorem write_source {data : Bytes} (hw : P w.src) :
    Returns (write os out dst data) w (fun _ w' => P w'.src) :=
  sat_act.mpr hw

/-- Opening a device does not touch the source. -/
theorem openFile_source (hw : P w.src) : Returns (openFile os dst) w (fun _ w' => P w'.src) := by
  refine sat_act.mpr ?_
  split
  · exact hw
  · split <;> exact hw

/-- A sync does not read. -/
theorem syncTarget_source {what : String} (hw : P w.src) :
    Returns (syncTarget os dst what) w (fun _ w' => P w'.src) := by
  refine sat_bindAct ?_
  split
  · exact sat_fail.mpr trivial
  · exact sat_pure.mpr hw

section

variable (hr : KeepsSource r P)
include hr

/-- The copy loop. -/
theorem copyReader_source (hw : P w.src) :
    Returns (copyReader os r out dst fuel) w (fun _ w' => P w'.src) := by
  refine sat_loop (fun _ _ w' => P w'.src) (fun _ _ _ => trivial) (fun n total w' h => ?_) hw
  refine sat_bindAct ?_
  split
  · exact sat_pure.mpr h
  refine sat_bindAct (sat_bind ?_)
  have hread : P (r imageCopyBufferSize { w' with clock := w'.clock + 1 }).2.src := hr _ _ h
  have hchunk : ∀ {c : Bytes} {w1 : World σ}, P w1.src → Returns (writeChunk os out dst c total) w1
      (fun _ w2 => P w2.src) := by
    intro c w1 h1
    unfold writeChunk
    split
    · exact sat_pure.mpr h1
    · refine (write_source h1).seq fun res w2 h2 => ?_
      split
      · exact sat_pure.mpr h2
      · split <;> exact sat_pure.mpr h2
  refine (hchunk hread).imp fun res w2 h2 => ?_
  split
  · exact sat_pure.mpr h2
  · refine sat_pure.mpr ?_
    split <;> exact h2

/-- A range. -/
theorem copyRangeToDevice_source {size : Int}
    (hw : P w.src) :
    Returns (copyReaderRangeToDevice os r dst size fuel) w (fun _ w' => P w'.src) := by
  refine (openFile_source hw).seq fun res w1 h1 => ?_
  split
  · exact sat_fail.mpr trivial
  refine sat_bindAct (sat_bind ?_)
  refine (copyReader_source (w := { w1 with limit := size }) hr.limitedRead h1).imp
    fun res w2 h2 => ?_
  split
  · exact sat_fail.mpr trivial
  refine sat_bindAct ?_
  split
  · exact sat_fail.mpr trivial
  · exact syncTarget_source h2

/-- A whole device. -/
theorem streamReaderToDevice_source (hw : P w.src) :
    Returns (streamReaderToDevice os r dst fuel) w (fun _ w' => P w'.src) := by
  refine (openFile_source hw).seq fun res w1 h1 => ?_
  split
  · exact sat_fail.mpr trivial
  refine (copyReader_source hr h1).seq fun res w2 h2 => ?_
  split
  · exact sat_fail.mpr trivial
  · exact syncTarget_source h2

/-- Some ranges. -/
theorem copyRanges_source (ranges : List AbStreamRange) (pos : Int)
    (dirty : List String) (hw : P w.src) :
    Returns (copyRanges os r fuel ranges pos dirty) w (fun _ w' => P w'.src) := by
  induction ranges generalizing w pos dirty with
  | nil => exact sat_pure.mpr hw
  | cons x xs ih =>
    refine sat_bindAct ?_
    split
    · exact sat_fail.mpr trivial
    split
    · exact sat_fail.mpr trivial
    split
    · exact sat_fail.mpr trivial
    refine (copyN_source (w := { w with clock := w.clock + 1 }) hr _ _ hw).seq fun res w1 h1 => ?_
    split
    · exact sat_fail.mpr trivial
    refine sat_bind (sat_mapErr ?_)
    exact (copyRangeToDevice_source hr h1).mono (fun _ w2 h2 => ih _ _ h2) (fun _ _ h => h)

/-- The ranges of an A/B image. -/
theorem copyABStreamRanges_source (ranges : List AbStreamRange) (drain : Bool) (hw : P w.src) :
    Returns (copyABStreamRanges os r ranges drain fuel) w (fun _ w' => P w'.src) := by
  refine (copyRanges_source hr _ _ _ hw).seq fun _ w1 h1 => ?_
  split
  · refine sat_bind ((hr.copyAll _ h1).mono (fun res w2 h2 => ?_) (fun _ _ _ => trivial))
    split
    · exact sat_fail.mpr trivial
    · exact sat_pure.mpr h2
  · exact sat_pure.mpr h1

end

/-! ### Copies end with the verification -/

section

variable (hr : KeepsSource r P)
  (heof : ∀ n w, P w.src → (r n w).1.err = some (.std .eof) → V (r n w).2.src) (hw : P w.src)
include hr heof hw

/-- **`io.Copy`** succeeds only when a read answered with the bare `io.EOF`. -/
theorem ioCopy_sat :
    Returns (ioCopy os r out dst fuel) w (fun res w' => P w'.src ∧ (res.2 = none → V w'.src)) := by
  refine sat_loop (fun _ _ w' => P w'.src) (fun _ _ _ => trivial) (fun n total w' h => ?_) hw
  refine sat_bindAct (sat_bind ?_)
  have hread := hr copyBufferSize w' h
  have hend := heof copyBufferSize w' h
  generalize r copyBufferSize w' = ans at hread hend ⊢
  obtain ⟨c, w1⟩ := ans
  -- The write of the chunk leaves the source as the read left it.
  have hwrite : Returns (writeData os out dst c.data) w1 (fun _ w2 => w2.src = w1.src) := by
    unfold writeData
    split
    · exact sat_pure.mpr rfl
    · exact sat_act.mpr rfl
  refine hwrite.imp fun res w2 h2 => ?_
  have hkept : P w2.src := by
    rw [h2]
    exact hread
  split
  · exact sat_pure.mpr ⟨hkept, nofun⟩
  split
  · exact sat_pure.mpr ⟨hkept, nofun⟩
  split
  · exact sat_pure.mpr hkept
  · simp_all

/-- A copy to a file that returns has read the source to its end. -/
theorem writeImageToFile_sat {dest : String} :
    Returns (writeImageToFile os r dest fuel) w (fun _ w' => V w'.src) := by
  refine (openFile_source hw).seq fun res w1 h1 => ?_
  split
  · exact sat_fail.mpr trivial
  refine (ioCopy_sat hr heof h1).seq fun res w2 h2 => ?_
  cases hres : res.2 with
  | some e => exact sat_fail.mpr trivial
  | none => exact sat_pure.mpr (h2.2 hres)

end

variable {u : Unicode} {digest : Digest} {download : Prog σ Err Unit} {sum : Option HashType}
  {opt : StreamOpts} {target : ABTargets}

/-- The verification. -/
theorem verifyChecksum_source (hv : Verifies download P V) (hw : P w.src) :
    Returns (verifyChecksum u digest download sum opt) w (fun _ w' => V w'.src) := by
  refine verifyChecksum_sat (sat_onSrc ?_) (fun _ _ _ => trivial)
  exact (hv w.src hw).mono (fun _ _ h => h.2) (fun _ _ _ => trivial)

/-- An A/B copy that succeeds has verified the download, wherever it stopped reading. -/
theorem streamABRaw_verified (hsrc : Keeps src P) (hv : Verifies download P V) (hs : P w.src) :
    Returns (streamABRaw u digest os src download target opt fuel) w (fun _ w' => V w'.src) := by
  have hrun : ∀ {r : Reader (World σ) Sentinel} {w : World σ} {sum : Option HashType},
      KeepsSource r P → P w.src → ∀ parts,
      Returns (streamABPartitions u digest os r download sum target opt parts fuel) w
        (fun _ w' => V w'.src) := by
    intro r w sum hr hw parts
    refine sat_bind (sat_mapErr (sat_lift (fun root _ => ?_) (fun _ _ => trivial)
      (fun _ _ => trivial)))
    refine (copyABStreamRanges_source hr _ _ hw).seq fun _ w1 h1 => ?_
    exact sat_mapErr (verifyChecksum_source hv h1)
  have hroot : ∀ {r : Reader (World σ) Sentinel} {w : World σ} {sum : Option HashType},
      KeepsSource r P → P w.src →
      Returns (streamABRootFilesystem u digest os r download sum target opt fuel) w
        (fun _ w' => V w'.src) := by
    intro r w sum hr hw
    refine (streamReaderToDevice_source hr hw).seq fun _ w1 h1 => ?_
    exact sat_mapErr (verifyChecksum_source hv h1)
  have hhead : Returns (readStreamPrefix os (srcRead src) streamABPrefixBytes fuel) w
      (fun _ w' => P w'.src) := by
    refine (copyN_source (keepsSource_srcRead hsrc) _ _ hs).seq fun res w' h => ?_
    split
    · exact sat_pure.mpr h
    · grind [sat_pure.mpr, sat_fail.mpr]
  refine hhead.seq fun head w1 h1 => ?_
  refine sat_bindAct (sat_bind (sat_mapErr (sat_lift (fun sum _ => ?_)
    (fun _ _ => trivial) (fun _ _ => trivial))))
  -- The hash of the payload only looks on.
  have hstream : KeepsSource (if sum.isSome then teeRead (multiRead src) else multiRead src) P := by
    split
    · exact (keepsSource_multiRead hsrc).teeRead
    · exact keepsSource_multiRead hsrc
  have hpending : P ({ w1 with pending := head } : World σ).src := h1
  dsimp only
  split
  · exact hrun hstream hpending _
  · grind [sat_fail.mpr]
  · exact sat_fault trivial

end

/-! ### The whole body -/

section

variable {σ δ : Type} (u : Unicode) (digest : Digest)

/-- The options ask for the checksum of the download. -/
def DownloadScope (opt : StreamOpts) : Prop :=
  opt.checksum ≠ "" ∧ (toLower u (trimSpace opt.checksumScope) = "" ∨
    toLower u (trimSpace opt.checksumScope) = checksumScopeDownload)

/-- The digest of the body is the one that the options expect. -/
def DigestMatches (opt : StreamOpts) (full : Bytes) : Prop :=
  ∃ opt' c norm, withDownloadChecksum u opt = .ok (opt', some c) ∧
    normalizeChecksumOpt u c.opt = .ok norm ∧ hexBytes (digest c.h full) = norm.checksum

/-- Any sequence of reads. -/
def readMany {τ : Type} (r : Reader τ Sentinel) (reads : List Nat) (s : τ) : τ :=
  reads.foldl (fun s n => (r n s).2) s

variable {u digest} {opt : StreamOpts} {rest : σ → Bytes} {body : Reader σ Sentinel} {s : σ}
  {c : DownloadChecksum} {decoders : Decoders δ} {fuel : Nat} {full : Bytes}

theorem readMany_keeps {τ : Type} {r : Reader τ Sentinel} {P : τ → Prop} (hr : Keeps r P)
    (reads : List Nat) {s : τ} (h : P s) : P (readMany r reads s) := by
  induction reads generalizing s with
  | nil => exact h
  | cons n reads ih => exact ih (hr n s h)

/-- A download-scope checksum is taken out of the options. -/
theorem withDownloadChecksum_scope (hscope : DownloadScope u opt)
    {conf : StreamOpts × Option DownloadChecksum} (h : withDownloadChecksum u opt = .ok conf) :
    ∃ c, conf.2 = some c := by
  obtain ⟨hsum, hscope⟩ := hscope
  unfold withDownloadChecksum at h
  rw [if_neg hsum] at h
  have hdec : toLower u (trimSpace opt.checksumScope) ≠ checksumScopeDecompressed := by
    rcases hscope with hs | hs <;> rw [hs] <;> decide
  have hknown : ¬(toLower u (trimSpace opt.checksumScope) ≠ "" ∧
      toLower u (trimSpace opt.checksumScope) ≠ checksumScopeDownload) := by
    rintro ⟨hempty, hdown⟩
    exact hscope.elim hempty hdown
  rw [if_neg hdec, if_neg hknown] at h
  obtain ⟨norm, -, h⟩ := Outcome.bind_eq_ok.mp h
  obtain ⟨kind, -, h⟩ := Outcome.bind_eq_ok.mp h
  cases h
  exact ⟨_, rfl⟩

/-- A verified download matches the expected digest. -/
theorem Verified.digestMatches {d : Download σ} (hv : Verified u digest full c d)
    {opt' : StreamOpts} (hconf : withDownloadChecksum u opt = .ok (opt', some c)) :
    DigestMatches u digest opt full := by
  obtain ⟨norm, hnorm, hhex⟩ := compareDigest_ok u hv.2
  exact ⟨opt', c, norm, hconf, hnorm, hhex⟩

/-- Before the first read nothing was fed to the hash. -/
theorem covered_start : Covered u digest rest (rest s) c ({ body := s } : Download σ) :=
  ⟨rfl, nofun, nofun⟩

/-- The reader of an opened download, as part of a world. -/
theorem pipeRead_keepsSource (hbody : Delivers body rest) (decoded : Bool) :
    Keeps (pipeRead u digest decoders (some c) body fuel decoded)
      (PipeCovered u digest rest full c) :=
  fun n s h => (pipeRead_sat hbody decoded n s h).1

/-- At the end everything was read. -/
theorem pipeRead_eof (hbody : Delivers body rest) (decoded : Bool) (n : Nat)
    (w : World (Pipe σ δ)) (h : PipeCovered u digest rest full c w.src)
    (he : (srcRead (pipeRead u digest decoders (some c) body fuel decoded) n w).1.err =
      some (.std .eof)) :
    PipeVerified u digest full c
      (srcRead (pipeRead u digest decoders (some c) body fuel decoded) n w).2.src :=
  (pipeRead_sat hbody decoded n w.src h).2 he

/-- Staging an image verifies it. -/
theorem stageImage_verified (hbody : Delivers body rest) (os : Os) (staging : Staging σ δ)
    (what : String) (decoded : Bool) {Q : Prop}
    (hQ : ∀ p : Pipe σ δ, PipeVerified u digest full c p → Q) {w : World (Pipe σ δ)}
    (h : PipeCovered u digest rest full c w.src) :
    Returns (stageImage os staging what
      (srcRead (pipeRead u digest decoders (some c) body fuel decoded)) fuel) w
      (fun _ _ => Q) := by
  unfold stageImage
  split
  · exact sat_fail.mpr trivial
  · refine sat_bind (sat_mapErr ?_)
    refine (writeImageToFile_sat (keepsSource_srcRead (pipeRead_keepsSource hbody decoded))
      (pipeRead_eof hbody decoded) h).imp fun _ w1 h1 => ?_
    exact sat_of_forall (fun _ _ => hQ _ h1) (fun _ _ => trivial) trivial

theorem pipeCovered_start :
    PipeCovered u digest rest (rest s) c (start s : Pipe σ δ) := covered_start

/-- An opened download is accounted for. -/
theorem opened_sat (u : Unicode) (digest : Digest) (hbody : Delivers body rest)
    (decoders : Decoders δ) (openErr : Option Err) :
    Returns (mapErr GoError.widen (onSrc (openAndDecompress decoders (some c) body openErr)) :
      Prog (World (Pipe σ δ)) DirtyErr (Format × Bool)) { src := start s }
      (fun _ w' => PipeCovered u digest rest (rest s) c w'.src) := by
  have hstart : PipeCovered u digest rest (rest s) c (start s : Pipe σ δ) := pipeCovered_start
  have hopen := openAndDecompress_keeps decoders hbody openErr hstart
  exact sat_mapErr (sat_onSrc (hopen.mono_fault (fun _ _ h => h) (fun _ _ _ => trivial) False.elim))

/-- Copying the image to an open device, and the verification after it. -/
theorem streamToDevice_sat (hbody : Delivers body rest) (os : Os) (decoded : Bool)
    (device : String) (out : Nat) {Q : Prop}
    (hQ : ∀ p : Pipe σ δ, PipeVerified u digest full c p → Q) {w : World (Pipe σ δ)}
    (h : PipeCovered u digest rest full c w.src) :
    Returns (streamToDevice u digest os decoders body (some c) decoded device out opt fuel) w
      (fun _ _ => Q) := by
  have hkeeps : KeepsSource (srcRead (pipeRead u digest decoders (some c) body fuel decoded))
      (PipeCovered u digest rest full c) :=
    keepsSource_srcRead (pipeRead_keepsSource hbody decoded)
  refine sat_bind (sat_mapErr (sat_lift (fun sum _ => ?_) (fun _ _ => trivial)
    (fun _ _ => trivial)))
  have hr : KeepsSource (if sum.isSome then
      teeRead (srcRead (pipeRead u digest decoders (some c) body fuel decoded))
      else srcRead (pipeRead u digest decoders (some c) body fuel decoded))
      (PipeCovered u digest rest full c) := by
    split
    · exact hkeeps.teeRead
    · exact hkeeps
  refine (ioCopy_sat (V := fun _ => True) hr (fun _ _ _ _ => trivial) h).seq fun res w1 h1 => ?_
  split
  · split <;> exact sat_fail.mpr trivial
  refine sat_bind (sat_mapErr ((verifyChecksum_source (pipeVerify_sat hbody) h1.1).mono
    (fun _ w2 h2 => ?_) (fun _ _ h => h)))
  exact sat_of_forall (fun _ _ => hQ _ h2) (fun _ _ => trivial) trivial

/-- **`Stream`** succeeds only on the expected digest of the whole body. -/
theorem stream_sat (hbody : Delivers body rest) (hscope : DownloadScope u opt) (os : Os)
    (openErr : Option Err) (staging : Staging σ δ) (device : String) :
    Returns (stream u digest os decoders body openErr staging device opt fuel)
      { src := start s } (fun _ _ => DigestMatches u digest opt (rest s)) := by
  refine sat_bind (sat_mapErr (sat_lift (fun conf hconf => ?_) (fun _ _ => trivial)
    (fun _ _ => trivial)))
  obtain ⟨opt', check⟩ := conf
  obtain ⟨c, hc⟩ := withDownloadChecksum_scope hscope hconf
  cases hc
  have hmatch : ∀ p : Pipe σ δ, PipeVerified u digest (rest s) c p →
      DigestMatches u digest opt (rest s) := fun p hp => Verified.digestMatches hp hconf
  refine (opened_sat u digest hbody decoders openErr).seq fun opened w1 h1 => ?_
  split
  · split
    · exact sat_fail.mpr trivial
    · exact stageImage_verified hbody os staging _ _ hmatch h1
  refine (openFile_source h1).seq fun res w2 h2 => ?_
  split
  · exact sat_fail.mpr trivial
  · exact streamToDevice_sat hbody os _ _ _ hmatch h2

/-- **`StreamAB`** succeeds only on the expected digest of the whole body. -/
theorem streamAB_sat (hbody : Delivers body rest) (hscope : DownloadScope u opt) (os : Os)
    (openErr : Option Err) (staging : Staging σ δ) (target : ABTargets) :
    Returns (streamAB u digest os decoders body openErr staging target opt fuel)
      { src := start s } (fun _ _ => DigestMatches u digest opt (rest s)) := by
  unfold streamAB
  split
  · exact sat_fail.mpr trivial
  refine sat_bind (sat_mapErr (sat_lift (fun conf hconf => ?_) (fun _ _ => trivial)
    (fun _ _ => trivial)))
  obtain ⟨opt', check⟩ := conf
  obtain ⟨c, hc⟩ := withDownloadChecksum_scope hscope hconf
  cases hc
  have hmatch : ∀ p : Pipe σ δ, PipeVerified u digest (rest s) c p →
      DigestMatches u digest opt (rest s) := fun p hp => Verified.digestMatches hp hconf
  refine (opened_sat u digest hbody decoders openErr).seq fun opened w1 h1 => ?_
  split
  · refine (streamABRaw_verified (pipeRead_keepsSource hbody opened.2) (pipeVerify_sat hbody)
      h1).mono (fun _ w2 h2 => hmatch _ h2) (fun _ _ h => h)
  · split
    · exact sat_fail.mpr trivial
    · exact stageImage_verified hbody os staging _ _ hmatch h1

/-- **`downloadToFile`** succeeds only on the expected digest of the whole body. -/
theorem downloadToFile_sat (hbody : Delivers body rest) (os : Os) (openErr : Option Err)
    (dest : String) {opt' : StreamOpts} (hconf : withDownloadChecksum u opt = .ok (opt', some c)) :
    Returns (downloadToFile u digest os (some c) body openErr dest fuel)
      { src := { body := s } } (fun _ _ => DigestMatches u digest opt (rest s)) := by
  unfold downloadToFile
  split
  · exact sat_fail.mpr trivial
  refine sat_bindAct ?_
  have hopened : Covered u digest rest (rest s) c ({ body := s, opened := true } : Download σ) :=
    ⟨rfl, nofun, nofun⟩
  have hverify : Verifies (verify u digest (some c) body fuel)
      (Covered u digest rest (rest s) c) (Verified u digest (rest s) c) :=
    fun d hd => verify_sat hbody hd
  have hread := verifyAtEOF_sat (c := c) (sourceRead_keeps hbody) hverify
  refine (writeImageToFile_sat (V := Verified u digest (rest s) c)
    (keepsSource_srcRead (fun n d h => (hread n d h).1)) (fun n w h he => (hread n w.src h).2 he)
    hopened).mono (fun _ w1 h1 => h1.digestMatches hconf) (fun _ _ h => h)

end

/-- **Complete downloads.**  For every body, delivered in chunks of any size, every decoder and
    every download-scope checksum:

    * a consumer of the reader of `openAndDecompress` that gets `io.EOF` after any sequence of
      reads, or an A/B copy that stops anywhere and is then verified, has fed the whole body to
      the hash, in order, and its digest was the expected one;
    * `stream`, `streamAB` and `downloadToFile` succeed only if the digest of the whole body is
      the expected one. -/
theorem download_verified_complete {σ δ : Type} (u : Unicode) (digest : Digest) (os : Os)
    (decoders : Decoders δ) (body : Reader σ Sentinel) (rest : σ → Bytes) (s : σ)
    (openErr : Option Err) (staging : Staging σ δ) (opt : StreamOpts) (fuel : Nat)
    (hbody : Delivers body rest) (hscope : DownloadScope u opt) :
    (∀ opt' c format decoded p reads, withDownloadChecksum u opt = .ok (opt', some c) →
      openAndDecompress decoders (some c) body openErr (Pipe.start s) = (.ok (format, decoded), p) →
      let r := pipeRead u digest decoders (some c) body fuel decoded
      let p' := readMany r reads p
      (∀ n, (r n p').1.err = some (.std .eof) →
        PipeVerified u digest (rest s) c (r n p').2) ∧
      (∀ ranges drain sum opt'' w w', w.src = p' →
        copyABStreamRanges os (multiRead r) ranges drain fuel w = (.ok (), w') →
        (verifyChecksum u digest (pipeVerify u digest (some c) body fuel) sum opt'' w').1 =
          .ok () →
        PipeVerified u digest (rest s) c
          (verifyChecksum u digest (pipeVerify u digest (some c) body fuel) sum opt'' w').2.src)) ∧
    (∀ device, (stream u digest os decoders body openErr staging device opt fuel
      { src := Pipe.start s }).1 = .ok () → DigestMatches u digest opt (rest s)) ∧
    (∀ target, (streamAB u digest os decoders body openErr staging target opt fuel
      { src := Pipe.start s }).1 = .ok () → DigestMatches u digest opt (rest s)) ∧
    (∀ opt' c dest, withDownloadChecksum u opt = .ok (opt', some c) →
      (downloadToFile u digest os (some c) body openErr dest fuel
        { src := { body := s } }).1 = .ok () → DigestMatches u digest opt (rest s)) := by
  refine ⟨?_, ?_, ?_, ?_⟩
  · intro opt' c format decoded p reads _ hopen r p'
    have hstart : PipeCovered u digest rest (rest s) c (Pipe.start s : Pipe σ δ) :=
      pipeCovered_start
    have hp : PipeCovered u digest rest (rest s) c p := by
      have hsat := (openAndDecompress_keeps decoders hbody openErr hstart).of_ok
        (congrArg Prod.fst hopen)
      rwa [hopen] at hsat
    have hp' : PipeCovered u digest rest (rest s) c p' :=
      readMany_keeps (pipeRead_keepsSource hbody decoded) reads hp
    refine ⟨fun n he => (pipeRead_sat hbody decoded n p' hp').2 he, ?_⟩
    intro ranges drain sum opt'' w w' hw hcopy hok
    have hcovered : PipeCovered u digest rest (rest s) c w.src := hw ▸ hp'
    -- The copy may stop anywhere; the verification then reads the rest.
    have hw' : PipeCovered u digest rest (rest s) c w'.src := by
      have hsat := (copyABStreamRanges_source (keepsSource_multiRead
        (pipeRead_keepsSource hbody decoded)) ranges drain hcovered).of_ok
        (congrArg Prod.fst hcopy)
      rwa [hcopy] at hsat
    exact (verifyChecksum_source (pipeVerify_sat hbody) hw').of_ok hok
  · exact fun device hok => (stream_sat hbody hscope os openErr staging device).of_ok hok
  · exact fun target hok => (streamAB_sat hbody hscope os openErr staging target).of_ok hok
  · exact fun opt' c dest hconf hok => (downloadToFile_sat hbody os openErr dest hconf).of_ok hok

/-- A hash function for the example: the first 32 bytes. -/
def headDigest : Digest := fun _ b => resize b 32

/-- The digest that `headDigest` gives for the bytes `1, 2, 3`. -/
def sampleChecksum : StreamOpts where
  checksum := "sha256:0102030000000000000000000000000000000000000000000000000000000000"

/-- No decoder is needed for a raw image. -/
def noDecoders : Decoders Unit where
  gzip := .done (.ok ())
  zstd := .done (.ok ())
  xz := .done (.ok ())
  lz4 := ()
  bzip2 := ()
  read _ _ := .done (⟨[], some (.std .eof)⟩, ())

/-- A download with a checksum. -/
theorem sampleDownload_verified :
    (stream asciiTables headDigest {} noDecoders bytesRead none {} "/dev/sda" sampleChecksum 4
      { src := Pipe.start [1, 2, 3] }).1 = .ok () ∧
    DigestMatches asciiTables headDigest sampleChecksum [1, 2, 3] := by
  have hrun : (stream asciiTables headDigest {} noDecoders bytesRead none {} "/dev/sda"
      sampleChecksum 4 { src := Pipe.start [1, 2, 3] }).1 = .ok () := by decide +kernel
  have hscope : DownloadScope asciiTables sampleChecksum := by
    refine ⟨by decide +kernel, .inl (by decide +kernel)⟩
  exact ⟨hrun, (download_verified_complete asciiTables headDigest {} noDecoders bytesRead id
    [1, 2, 3]
    none {} sampleChecksum 4 delivers_bytesRead hscope).2.1 "/dev/sda" hrun⟩

end Booty.Image
