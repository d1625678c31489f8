import Booty.Image.Checksum
import Booty.Image.Format

namespace Booty.Image

open Booty.Lib Booty.Lib.Prog Booty.Lib.Outcome List Option

/-!
# Downloads (`pkg/image/checksum_scope.go`, `openAndDecompress` of `pkg/image/stream.go`)

A download is read through a chain of readers: a tee into the hash of a download-scope checksum, a
buffer that peeks at the header, a decoder that may stop before the end of the body, a second
peeking buffer, and a reader that verifies the checksum before it reports `io.EOF`.

`Pipe` holds the state of the whole chain.  `Covered` is its invariant: the bytes fed to the hash
and those still to come make up the body, and once the verification has succeeded the digest of
the whole body was the expected one.

* `verify_sat` — the verification reads the rest of the body, and succeeds only on its digest;
* `openAndDecompress_keeps`, `pipeRead_keeps` — every reader of the chain keeps the invariant;
* `pipeRead_eof` — `io.EOF` reaches the consumer only after the verification.
-/

/-! ### The checksum of a download -/

/-- `downloadChecksum`: the normalized options and the hash. -/
structure DownloadChecksum where
  opt : StreamOpts
  h : HashType

/-- `withDownloadChecksum` for options without a download checksum yet. -/
def withDownloadChecksum (u : Unicode) (opt : StreamOpts) :
    Outcome Err (StreamOpts × Option DownloadChecksum) :=
  if opt.checksum = "" then .ok (opt, none)
  else
    let scope := toLower u (trimSpace opt.checksumScope)
    if scope = checksumScopeDecompressed then .ok (opt, none)
    else if scope ≠ "" ∧ scope ≠ checksumScopeDownload then
      .err (.new s!"unsupported checksum scope: {opt.checksumScope}")
    else do
      let normalized ← normalizeChecksumOpt u opt
      let h ← newHash u normalized.checksumType
      .ok ({ opt with checksum := "", checksumType := "" },
        some ⟨{ normalized with checksumScope := checksumScopeDownload }, h⟩)

/-- The body of a download, the bytes fed to the hash, whether `source` was called, and the result
    of `once`. -/
structure Download (σ : Type) where
  body : σ
  fed : Bytes := []
  opened : Bool := false
  once : Option (Option Err) := none

section

variable {σ : Type} (u : Unicode) (digest : Digest) (check : Option DownloadChecksum)
  (body : Reader σ Sentinel)

/-- `source`: read the body and hash what was read. -/
def sourceRead : Reader (Download σ) Sentinel := fun n d =>
  let res := body n d.body
  (res.1, { d with body := res.2, fed := if check.isSome then d.fed ++ res.1.data else d.fed })

/-- The function of `once.Do`: read the rest of the download and compare the digest. -/
def verifyOnce (c : DownloadChecksum) (fuel : Nat) : Prog (Download σ) Err (Option Err) := do
  if !(← act (fun d => (d.opened, d))) then
    pure (some (.new "download checksum: image source was not opened"))
  else do
    let res ← copyAll (sourceRead (some c) body) discardRoom fuel
    match res.2 with
    | some e => pure (some (.wrap "reading the rest of the download for its checksum" e))
    | none => do
      let fed ← act (fun d => (d.fed, d))
      match compareDigest u digest c.h fed c.opt with
      | .ok _ => pure none
      | .err e => pure (some e)
      | .fault p => lift (.fault p)

/-- `verify`: only the first call reads. -/
def verify (fuel : Nat) : Prog (Download σ) Err Unit :=
  match check with
  | none => pure ()
  | some c => do
    match ← act (fun d => (d.once, d)) with
    | some none => pure ()
    | some (some e) => fail e
    | none => do
      let res ← verifyOnce u digest body c fuel
      act (fun d => ((), { d with once := some res }))
      match res with
      | none => pure ()
      | some e => fail e

/-- What a `Read` that never returns is taken to answer. -/
def neverReturns : Err := .new "the read does not return"

/-- `eofVerifier.Read`; nothing in front of the reader without a checksum. -/
def verifyAtEOF {τ : Type} (verify : Prog τ Err Unit) (r : Reader τ Sentinel) : Reader τ Sentinel :=
  match check with
  | none => r
  | some _ => fun n s =>
    let res := r n s
    match res.1.err with
    | none => res
    | some e =>
      if e.isStd .eof then
        match verify res.2 with
        | (.ok _, s') => (res.1, s')
        | (.err verr, s') => (⟨res.1.data, some verr⟩, s')
        | (.fault _, _) => (⟨res.1.data, some neverReturns⟩, res.2)
      else res

end

/-! ### The chain of readers -/

/-- The state of the chain: the download, the first buffer, the decoder and the second buffer. -/
abbrev Pipe (σ δ : Type) :=
  ((Download σ × Buffer Sentinel) × Option δ) × Buffer Sentinel

section

variable {σ δ : Type} (u : Unicode) (digest : Digest) (decoders : Decoders δ)
  (check : Option DownloadChecksum) (body : Reader σ Sentinel) (fuel : Nat)

/-- The output of the decoder. -/
def decodedRead : Reader ((Download σ × Buffer Sentinel) × Option δ) Sentinel := fun n s =>
  match s.2 with
  | none =>
    let res := bufRead (sourceRead check body) formatHeaderSize n s.1
    (res.1, (res.2, none))
  | some d =>
    let res := Decoder.read (bufSupply (sourceRead check body) formatHeaderSize) decoders.read n
      (s.1, d)
    (res.1, (res.2.1, some res.2.2))

/-- The reader behind the last buffer: the body itself, or the decoded image. -/
def imageRead (decoded : Bool) : Reader (Pipe σ δ) Sentinel := fun n s =>
  if decoded then bufRead (decodedRead decoders check body) formatHeaderSize n s
  else
    let res := bufRead (sourceRead check body) formatHeaderSize n s.1.1
    (res.1, ((res.2, s.1.2), s.2))

/-- The verification of the download, as a step of the chain. -/
def pipeVerify : Prog (Pipe σ δ) Err Unit :=
  onFst (onFst (onFst (verify u digest check body fuel)))

/-- The reader that `openAndDecompress` returns. -/
def pipeRead (decoded : Bool) : Reader (Pipe σ δ) Sentinel :=
  verifyAtEOF check (pipeVerify u digest check body fuel) (imageRead decoders check body decoded)

/-- The start of a download. -/
def Pipe.start (s : σ) : Pipe σ δ := ((({ body := s }, {}), none), {})

/-- `openAndDecompress`, after `openSource` answered with an error or with the body: the format,
    and whether the reader decodes. -/
def openAndDecompress (openErr : Option Err) : Prog (Pipe σ δ) Err (Format × Bool) :=
  match openErr with
  | some e => fail e
  | none => do
    act (fun s => ((), ((({ s.1.1.1 with opened := true }, s.1.1.2), s.1.2), s.2)))
    let format ← mapErr (.wrap "detect format")
      (onFst (onFst (detectFormat (sourceRead check body))))
    if format = .qcow2 ∨ format = .raw then pure (format, false)
    else do
      let dec ← onFst (onFst
        (decompressor decoders (bufSupply (sourceRead check body) formatHeaderSize) format))
      act (fun s => ((), ((s.1.1, dec), s.2)))
      let effective ← mapErr (.wrap "detect decompressed format")
        (detectFormat (decodedRead decoders check body))
      pure (effective, true)

end

/-! ### What the hash has seen -/

section

variable {σ : Type} (u : Unicode) (digest : Digest) (rest : σ → Bytes) (full : Bytes)
  (c : DownloadChecksum)

/-- The hash was fed the whole body, in order, and its digest is the expected one. -/
def Verified (d : Download σ) : Prop :=
  d.fed = full ∧ compareDigest u digest c.h full c.opt = .ok ()

/-- The bytes fed to the hash and those still to come are the body; a successful verification has
    compared the digest of the whole body. -/
structure Covered (d : Download σ) : Prop where
  split : d.fed ++ rest d.body = full
  verified : d.once = some none → Verified u digest full c d
  failed : ∀ e, d.once = some (some e) → e ≠ .std .eof

variable {u digest rest full c} {body : Reader σ Sentinel}

/-- Reading the body keeps the account of its bytes. -/
theorem sourceRead_keeps (hbody : Delivers body rest) :
    Keeps (sourceRead (some c) body) (Covered u digest rest full c) := by
  intro n d h
  have hread := hbody.split n d.body
  have hstep : (sourceRead (some c) body n d).2 =
      { d with body := (body n d.body).2, fed := d.fed ++ (body n d.body).1.data } := rfl
  rw [hstep]
  constructor
  · rw [append_assoc, ← hread]
    exact h.split
  · intro honce
    obtain ⟨hfed, hcmp⟩ := h.verified honce
    -- Everything was fed before, so the read returned nothing.
    have hnil : rest d.body = [] := by
      have hall := h.split
      rw [hfed] at hall
      exact append_right_eq_self.mp hall
    have hdata : (body n d.body).1.data = [] := by
      rw [hnil] at hread
      exact (append_eq_nil_iff.mp hread.symm).1
    refine ⟨?_, hcmp⟩
    rw [hdata, append_nil]
    exact hfed
  · exact h.failed

/-- Reading the rest of the download; without an error everything was fed to the hash. -/
theorem drain_sat (hbody : Delivers body rest) {fuel : Nat} {d : Download σ}
    (h : Covered u digest rest full c d) (honce : d.once = none) :
    Sat (copyAll (sourceRead (some c) body) discardRoom fuel : Prog _ Err _) d (fun res d' =>
      Covered u digest rest full c d' ∧ d'.once = none ∧ (res.2 = none → d'.fed = full))
      (fun _ _ => False) True := by
  refine copyAll_sat (fun _ _ d' => Covered u digest rest full c d' ∧ d'.once = none)
    (fun _ _ _ => trivial) (fun n acc d' hd _ => ?_) (fun n acc d' e hd he => ?_) ⟨h, honce⟩
  · exact ⟨sourceRead_keeps hbody _ d' hd.1, hd.2⟩
  · have hd' := sourceRead_keeps hbody (discardRoom acc.length) d' hd.1
    refine ⟨hd', hd.2, fun hnone => ?_⟩
    have heof : e = .std .eof := by
      by_contra hne
      rw [if_neg hne] at hnone
      cases hnone
    have hrest : rest (sourceRead (some c) body (discardRoom acc.length) d').2.body = [] :=
      hbody.eof _ d'.body (heof ▸ he)
    have hall := hd'.split
    rw [hrest, append_nil] at hall
    exact hall

/-- **Verification.**  It keeps the account of the bytes, and succeeds only when the digest of the
    whole body is the expected one. -/
theorem verify_sat (hbody : Delivers body rest) {fuel : Nat} {d : Download σ}
    (h : Covered u digest rest full c d) :
    Sat (verify u digest (some c) body fuel) d
      (fun _ d' => Covered u digest rest full c d' ∧ Verified u digest full c d')
      (fun e d' => Covered u digest rest full c d' ∧ e ≠ .std .eof) True := by
  -- The function of `once.Do`.
  have hrun : d.once = none → Sat (verifyOnce u digest body c fuel) d (fun res d' =>
      Covered u digest rest full c d' ∧ (res = none → Verified u digest full c d') ∧
        ∀ e, res = some e → e ≠ .std .eof) (fun _ _ => False) True := by
    intro honce
    refine sat_bindAct ?_
    by_cases hopen : (!d.opened) = true
    · grind [sat_pure.mpr]
    rw [if_neg hopen]
    refine (drain_sat hbody h honce).seq fun res d1 hres => ?_
    obtain ⟨hd1, -, hfed⟩ := hres
    cases herr : res.2 with
    | some e => grind [sat_pure.mpr]
    | none =>
      refine sat_bindAct ?_
      have hfull : d1.fed = full := hfed herr
      rw [hfull]
      cases hcmp : compareDigest u digest c.h full c.opt with
      | ok x => exact sat_pure.mpr ⟨hd1, fun _ => ⟨hfull, hcmp⟩, nofun⟩
      | err e =>
        refine sat_pure.mpr ⟨hd1, nofun, fun e' he' => ?_⟩
        cases he'
        exact (compareDigest_errs u digest c.h full c.opt).of_eq_err hcmp
      | fault p => exact sat_fault trivial
  refine sat_bindAct ?_
  cases honce : d.once with
  -- Later calls give the result of the first.
  | some res => grind [sat_pure.mpr, h.verified, sat_fail.mpr, h.failed]
  | none =>
    refine (hrun honce).seq_ok fun res d1 hres => ?_
    obtain ⟨hd1, hok, herr⟩ := hres
    refine sat_bindAct ?_
    have hd2 : Covered u digest rest full c { d1 with once := some res } := by
      refine ⟨hd1.split, fun hnone => hok ?_, fun e he => herr e ?_⟩
      · exact some.inj hnone
      · exact some.inj he
    cases res with
    | none => exact sat_pure.mpr ⟨hd2, hok rfl⟩
    | some e => exact sat_fail.mpr ⟨hd2, herr e rfl⟩

/-! ### Every reader of the chain keeps the account -/

variable {τ : Type} {P V : τ → Prop} {r : Reader τ Sentinel} {check : Prog τ Err Unit}

/-- The verification of a chain: it keeps `P`, establishes `V`, and never fails with the bare
    `io.EOF`. -/
def Verifies (check : Prog τ Err Unit) (P V : τ → Prop) : Prop :=
  ∀ s, P s → Sat check s (fun _ s' => P s' ∧ V s') (fun e s' => P s' ∧ e ≠ .std .eof) True

/-- **End of file.**  Behind the verifying reader the properties of the chain are kept, and the
    bare `io.EOF` comes only after a successful verification. -/
theorem verifyAtEOF_sat (hr : Keeps r P) (hcheck : Verifies check P V) (n : Nat) (s : τ) (h : P s) :
    P (verifyAtEOF (some c) check r n s).2 ∧
      ((verifyAtEOF (some c) check r n s).1.err = some (.std .eof) →
        V (verifyAtEOF (some c) check r n s).2) := by
  have hread := hr n s h
  unfold verifyAtEOF
  dsimp only
  cases herr : (r n s).1.err with
  | none => grind
  | some e =>
    dsimp only
    by_cases heof : e.isStd .eof = true
    · rw [if_pos heof]
      have hsat := hcheck _ hread
      cases hres : check (r n s).2 with
      | mk res s' =>
        cases res with
        | ok x =>
          have := hsat.of_ok (a := x) (by rw [hres])
          rw [hres] at this
          exact ⟨this.1, fun _ => this.2⟩
        | err verr =>
          have := hsat.of_err (e := verr) (by rw [hres])
          rw [hres] at this
          exact ⟨this.1, fun he => absurd (some.inj he) this.2⟩
        | fault p => exact ⟨hread, fun he => absurd (some.inj he) nofun⟩
    · rw [if_neg heof]
      refine ⟨hread, fun he => absurd ?_ heof⟩
      rw [herr] at he
      cases he
      rfl

end

section

variable {σ δ : Type} {u : Unicode} {digest : Digest} {rest : σ → Bytes} {full : Bytes}
  {c : DownloadChecksum} {body : Reader σ Sentinel} {decoders : Decoders δ} {fuel : Nat}

/-- The account of the download at the bottom of the chain. -/
def PipeCovered (u : Unicode) (digest : Digest) (rest : σ → Bytes) (full : Bytes)
    (c : DownloadChecksum) (s : Pipe σ δ) : Prop := Covered u digest rest full c s.1.1.1

/-- The verified download at the bottom of the chain. -/
def PipeVerified (u : Unicode) (digest : Digest) (full : Bytes) (c : DownloadChecksum)
    (s : Pipe σ δ) : Prop := Verified u digest full c s.1.1.1

theorem decodedRead_keeps (hbody : Delivers body rest) :
    Keeps (decodedRead decoders (some c) body) (fun s => Covered u digest rest full c s.1.1) := by
  intro n s h
  have hsource : Keeps (sourceRead (some c) body) (Covered u digest rest full c) :=
    sourceRead_keeps hbody
  unfold decodedRead
  split
  · exact bufRead_keeps hsource formatHeaderSize n s.1 h
  · exact Decoder.read_keeps (bufSupply_keeps hsource formatHeaderSize) decoders.read n _ h

theorem imageRead_keeps (hbody : Delivers body rest) (decoded : Bool) :
    Keeps (imageRead decoders (some c) body decoded) (PipeCovered u digest rest full c) := by
  intro n s h
  unfold imageRead
  split
  · exact bufRead_keeps (decodedRead_keeps hbody) formatHeaderSize n s h
  · exact bufRead_keeps (sourceRead_keeps hbody) formatHeaderSize n s.1.1 h

theorem pipeVerify_sat (hbody : Delivers body rest) :
    Verifies (pipeVerify u digest (some c) body fuel : Prog (Pipe σ δ) Err Unit)
      (PipeCovered u digest rest full c) (PipeVerified u digest full c) :=
  fun _ h => sat_onFst (sat_onFst (sat_onFst (verify_sat hbody h)))

/-- **Opening.**  Looking at the headers and starting the decoder keeps the account, whatever the
    decoder reads. -/
theorem openAndDecompress_keeps (decoders : Decoders δ) (hbody : Delivers body rest)
    (openErr : Option Err)
    {s : Pipe σ δ} (h : PipeCovered u digest rest full c s) :
    Sat (openAndDecompress decoders (some c) body openErr) s
      (fun _ s' => PipeCovered u digest rest full c s')
      (fun _ s' => PipeCovered u digest rest full c s') False := by
  have hsource : Keeps (sourceRead (some c) body) (Covered u digest rest full c) :=
    sourceRead_keeps hbody
  cases openErr with
  | some e => exact sat_fail.mpr h
  | none =>
    have hopened : Covered u digest rest full c { s.1.1.1 with opened := true } :=
      { h with }
    refine sat_bindAct (sat_bind (sat_mapErr (sat_onFst (sat_onFst ?_))))
    refine (detectFormat_keeps hsource _ hopened).mono (fun format s1 h1 => ?_) (fun _ _ h1 => h1)
    split
    · exact sat_pure.mpr h1
    · refine sat_bind (sat_onFst (sat_onFst ?_))
      refine (decompressor_keeps decoders (bufSupply_keeps hsource formatHeaderSize) format h1).mono
        (fun dec s2 h2 => ?_) (fun _ _ h2 => h2)
      refine sat_bindAct (sat_bind (sat_mapErr ?_))
      exact (detectFormat_keeps (decodedRead_keeps hbody) _ h2).mono
        (fun _ _ h3 => sat_pure.mpr h3) (fun _ _ h3 => h3)

/-- The reader that `openAndDecompress` returns keeps the account, and reports the bare `io.EOF`
    only after the verification. -/
theorem pipeRead_sat (hbody : Delivers body rest) (decoded : Bool) (n : Nat) (s : Pipe σ δ)
    (h : PipeCovered u digest rest full c s) :
    PipeCovered u digest rest full c (pipeRead u digest decoders (some c) body fuel decoded n s).2 ∧
      ((pipeRead u digest decoders (some c) body fuel decoded n s).1.err = some (.std .eof) →
        PipeVerified u digest full c
          (pipeRead u digest decoders (some c) body fuel decoded n s).2) :=
  verifyAtEOF_sat (imageRead_keeps hbody decoded) (pipeVerify_sat hbody) n s h

end

end Booty.Image
