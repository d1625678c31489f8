import Booty.Image.ABCopy

namespace Booty.Image

open Booty.Lib Booty.Lib.Prog List

/-!
# The plan of an A/B copy

Which bytes of a stream reach which target.  `copyPlan` is the copy without its environment: the
ranges in stream order, with the `int64` positions of the source.  A successful run writes exactly
what the plan says, and with a cooperative environment the plan is carried out.

Each lemma covers both directions at once: `T` stands for "the environment cooperates", and
errors and faults are possible only without it.

* `Feeds`, `Steady` — what a reader of the world delivers, and that it does not fail;
* `copyN_feeds`, `copyReader_feeds`, `copyRangeToDevice_feeds` — the parts of a copy;
* `copyRanges_plan` — a run follows the plan, and a cooperative one carries it out.
-/

section

variable {σ : Type}

/-! ### The plan -/

/-- What the copy of the sorted ranges writes, from stream position `pos` and image offset `off`
    on: `none` when the ranges overlap, are empty or leave the image. -/
def copyPlan (img : Bytes) : List AbStreamRange → Int → Nat → Option (List (String × Bytes))
  | [], _, _ => some []
  | range :: ranges, pos, off =>
    if range.start < pos ∨ range.size ≤ 0 then none
    else
      let from_ := off + (wrap64 (range.start - pos)).toNat
      let upto := from_ + range.size.toNat
      if img.length < upto then none
      else (copyPlan img ranges (wrap64 (range.start + range.size)) upto).map
        ((range.dst, window img from_ range.size.toNat) :: ·)

/-! ### What a stream delivers -/

/-- The part of the world that determines what a reader still delivers. -/
structure Source (σ : Type) where
  src : σ
  srcEnded : Bool
  pending : Bytes

/-- The source of a world. -/
def World.source (w : World σ) : Source σ := ⟨w.src, w.srcEnded, w.pending⟩

/-- The reader of a world delivers `rest`, as long as `inv` holds, and changes nothing but the
    source and the payload hash. -/
structure Feeds (r : Reader (World σ) Sentinel) (rest : Source σ → Bytes)
    (inv : Source σ → Prop) : Prop where
  split : ∀ n w, inv w.source → rest w.source = (r n w).1.data ++ rest (r n w).2.source
  le : ∀ n w, inv w.source → (r n w).1.data.length ≤ n
  eof : ∀ n w e, inv w.source → (r n w).1.err = some e →
    e.isStd .eof = true ∨ e.isStd .unexpectedEOF = true → rest (r n w).2.source = []
  keeps : ∀ n w, inv w.source → inv (r n w).2.source
  log : ∀ n w, (r n w).2.log = w.log
  limit : ∀ n w, (r n w).2.limit = w.limit

/-- The reader never fails, and makes progress until the end. -/
def Steady (r : Reader (World σ) Sentinel) (rest : Source σ → Bytes)
    (inv : Source σ → Prop) : Prop :=
  ∀ n w, 0 < n → inv w.source →
    ((r n w).1.err = none ∧ (r n w).1.data ≠ []) ∨
    ((r n w).1.err = some (.std .eof) ∧ (r n w).1.data = [] ∧ rest w.source = [])

variable {r : Reader (World σ) Sentinel} {rest : Source σ → Bytes} {inv : Source σ → Prop}
  {os : Os} {fuel : Nat} {w : World σ}

/-- The end of a stream, expected or not. -/
def EndOfStream (e : Err) : Prop := e.isStd .eof = true ∨ e.isStd .unexpectedEOF = true

/-- From `w` to `w'` the bytes `data` of the stream were consumed. -/
structure Consumed (rest : Source σ → Bytes) (inv : Source σ → Prop) (w : World σ) (data : Bytes)
    (w' : World σ) : Prop where
  split : rest w.source = data ++ rest w'.source
  inv : inv w'.source
  log : w'.log = w.log

/-- A length-limited read takes at most `N` bytes, and reports the end when these are read or
    nothing is left. -/
theorem limitedRead_feeds (hr : Feeds r rest inv) (n : Nat) (hinv : inv w.source) :
    Consumed rest inv w (limitedRead r n w).1.data (limitedRead r n w).2 ∧
    (limitedRead r n w).2.limit = w.limit - (limitedRead r n w).1.data.length ∧
    (limitedRead r n w).1.data.length ≤ w.limit.toNat ∧
    ∀ e, (limitedRead r n w).1.err = some e → EndOfStream e →
      (limitedRead r n w).2.limit ≤ 0 ∨ rest (limitedRead r n w).2.source = [] := by
  unfold limitedRead
  by_cases hlim : w.limit ≤ 0
  · rw [if_pos hlim]
    exact ⟨⟨rfl, hinv, rfl⟩, (sub_zero _).symm, Nat.zero_le _, fun _ _ _ => .inl hlim⟩
  · rw [if_neg hlim]
    have hle := hr.le (min n w.limit.toNat) w hinv
    refine ⟨⟨hr.split _ w hinv, hr.keeps _ w hinv, hr.log _ w⟩, ?_, by dsimp only; omega, ?_⟩
    · dsimp only
      rw [hr.limit]
    · exact fun e he heof => .inr (hr.eof _ w e hinv he heof)

theorem limitedRead_steady (hs : Steady r rest inv) {n : Nat} (hn : 0 < n) (hinv : inv w.source) :
    ((limitedRead r n w).1.err = none ∧ (limitedRead r n w).1.data ≠ []) ∨
    (limitedRead r n w).1.err = some (.std .eof) := by
  unfold limitedRead
  by_cases hlim : w.limit ≤ 0
  · rw [if_pos hlim]
    exact .inr rfl
  · rw [if_neg hlim]
    exact (hs (min n w.limit.toNat) w (by omega) hinv).imp id (fun h => h.1)

/-- Reading through a length limit of `n` bytes until an error. -/
theorem copyAll_limited (hr : Feeds r rest inv) {T : Prop} {room : Nat → Nat} {n : Int}
    (hT : T → Steady r rest inv ∧ (∀ k, 0 < room k) ∧ (rest w.source).length < fuel)
    (hinv : inv w.source) (hlim : w.limit = n) :
    Sat (copyAll (limitedRead r) room fuel : Prog _ DirtyErr _) w (fun res w' =>
      Consumed rest inv w res.1 w' ∧ res.1.length ≤ n.toNat ∧
      ((res.2 = none ∨ ∃ e, res.2 = some e ∧ EndOfStream e) →
        res.1.length = n.toNat ∨ rest w'.source = []) ∧
      (T → res.2 = none)) (fun _ _ => False) (¬T) := by
  refine copyAll_sat (fun k acc w' => Consumed rest inv w acc w' ∧
    w'.limit = n - acc.length ∧ acc.length ≤ n.toNat ∧ (T → (rest w'.source).length < k)) ?_ ?_ ?_
    ⟨⟨rfl, hinv, rfl⟩, by simp [hlim], Nat.zero_le _, fun t => (hT t).2.2⟩
  · grind
  · rintro k acc w' ⟨hcon, hl, hlen, hk⟩ herr
    obtain ⟨hc, hl', hdata, -⟩ := limitedRead_feeds hr (room acc.length) hcon.inv
    refine ⟨⟨?_, hc.inv, hc.log.trans hcon.log⟩, ?_, ?_, fun t => ?_⟩
    · rw [hcon.split, hc.split, append_assoc]
    · rw [length_append]
      omega
    · rw [length_append]
      omega
    · -- A steady read without an error has consumed a byte.
      have hstep := hc.split
      have hne : (limitedRead r (room acc.length) w').1.data ≠ [] := by
        rcases limitedRead_steady (hT t).1 ((hT t).2.1 acc.length) hcon.inv with h | h
        · exact h.2
        · rw [herr] at h
          cases h
      have hpos := length_pos_of_ne_nil hne
      have hlt := hk t
      rw [hstep, length_append] at hlt
      omega
  · rintro k acc w' e ⟨hcon, hl, hlen, hk⟩ herr
    obtain ⟨hc, hl', hdata, hend⟩ := limitedRead_feeds hr (room acc.length) hcon.inv
    refine ⟨⟨?_, hc.inv, hc.log.trans hcon.log⟩, ?_, fun hres => ?_, fun t => ?_⟩
    · rw [hcon.split, hc.split, append_assoc]
    · rw [length_append]
      omega
    · have heof : EndOfStream e := by
        rcases hres with hres | ⟨e', he', heof'⟩
        · by_cases h : e = .std .eof
          · rw [h]; exact .inl rfl
          · rw [if_neg h] at hres
            cases hres
        · grind
      refine (hend e herr heof).imp (fun hz => ?_) id
      rw [length_append]
      omega
    · rcases limitedRead_steady (hT t).1 ((hT t).2.1 acc.length) hcon.inv with h | h
      · rw [herr] at h
        cases h.1
      · rw [herr] at h
        cases h
        rfl

/-- **Skips.**  `io.CopyN` consumes the next bytes of the stream: all `n` of them when it succeeds,
    and everything that is left when it reports the end.  With a steady reader (`T`) it ends and
    takes as many bytes as there are. -/
theorem copyN_feeds (hr : Feeds r rest inv) {T : Prop} {room : Nat → Nat} {n : Int}
    (hT : T → Steady r rest inv ∧ (∀ k, 0 < room k) ∧ (rest w.source).length < fuel)
    (hinv : inv w.source) :
    Sat (copyN r room n fuel) w (fun res w' => Consumed rest inv w res.1 w' ∧
      (res.2 = none → res.1.length = n.toNat) ∧
      (∀ e, 0 ≤ n → res.2 = some e → EndOfStream e → rest w'.source = [] ∧ res.1.length ≤ n.toNat) ∧
      (T → res.2 = none ∨ 0 ≤ n ∧ res.2 = some (.std .eof)))
      (fun _ _ => False) (¬T) := by
  refine sat_bindAct (sat_bind ?_)
  refine (copyAll_limited (w := { w with limit := n }) (n := n) hr hT hinv rfl).imp
    fun res w' h => ?_
  obtain ⟨hcon, hlen, hend, ht⟩ := h
  have hcon : Consumed rest inv w res.1 w' := { hcon with }
  by_cases hfull : (res.1.length : Int) = n
  · grind [sat_pure.mpr]
  rw [if_neg hfull]
  by_cases hshort : (res.1.length : Int) < n ∧ res.2 = none
  · grind [sat_pure.mpr]
  · rw [if_neg hshort]
    refine sat_pure.mpr ⟨hcon, fun hnone => ?_, fun e hn he heof => ?_, fun t => .inl (ht t)⟩
    · grind
    · aesop

/-! ### Copying a range -/

/-- The context and the operating system never fail. -/
structure Os.Ideal (os : Os) : Prop where
  ctxErr : ∀ t, os.ctxErr t = none
  openErr : ∀ t d, os.openErr t d = none
  write : ∀ t d b, os.write t d b = (b.length, none)
  syncErr : ∀ t d, os.syncErr t d = none
  bufRoom : ∀ k, 0 < os.bufRoom k

/-- The copy of the next `n` bytes into an open device: what the device received is what the
    stream lost, and without an error the limit is used up or the stream has ended. -/
theorem copyReader_feeds (hr : Feeds r rest inv) (hk : KeepsTargets r) {T : Prop} {n : Int}
    {L : List (String × Bytes)} {dst : String}
    (hT : T → Steady r rest inv ∧ os.Ideal ∧ (rest w.source).length < fuel)
    (hinv : inv w.source) (hlog : w.log = L ++ [(dst, [])]) (hlim : w.limit = n) (hn : 0 ≤ n) :
    Sat (copyReader os (limitedRead r) L.length dst fuel) w (fun res w' =>
      (res.2 = none → ∃ b, w'.log = L ++ [(dst, b)] ∧ rest w.source = b ++ rest w'.source ∧
        inv w'.source ∧ w'.limit = n - b.length ∧ (b.length : Int) ≤ n ∧
        (w'.limit = 0 ∨ rest w'.source = [])) ∧ (T → res.2 = none)) (fun _ _ => False) (¬T) := by
  refine sat_loop (fun k _ w' => (∃ b, w'.log = L ++ [(dst, b)] ∧
    rest w.source = b ++ rest w'.source ∧ inv w'.source ∧ w'.limit = n - b.length ∧
    (b.length : Int) ≤ n) ∧ (T → (rest w'.source).length < k)) ?_ ?_
    ⟨⟨[], hlog, rfl, hinv, by simp [hlim], hn⟩, fun t => (hT t).2.2⟩
  · exact fun _ _ h t => absurd (h.2 t) (by omega)
  rintro k total w' ⟨⟨b, hlog', hsplit, hinv', hlim', hle⟩, hk'⟩
  refine (copyReaderStep_sat hlog' hk.limitedRead).imp fun st w'' h => ?_
  rcases h with ⟨e, hctx, -, rfl⟩ | ⟨c, w1, t, hread, h⟩
  · refine ⟨fun h => (by cases h), fun t => ?_⟩
    rw [(hT t).2.1.ctxErr] at hctx
    cases hctx
  have hfeeds := limitedRead_feeds (w := { w' with clock := w'.clock + 1 }) hr
    imageCopyBufferSize hinv'
  have hsteady : T → (c.err = none ∧ c.data ≠ []) ∨ c.err = some (.std .eof) := by
    intro t
    have := limitedRead_steady (w := { w' with clock := w'.clock + 1 }) (hT t).1
      (n := imageCopyBufferSize) (by decide) hinv'
    rwa [hread] at this
  rw [hread] at hfeeds
  obtain ⟨hcon, hl1, hdata, hend⟩ := hfeeds
  have hsplit1 : rest w'.source = c.data ++ rest w1.source := hcon.split
  dsimp only at hl1 hdata hend
  rcases h with ⟨e, -, rfl, -, hwrite, -⟩ | ⟨rfl, rfl⟩
  · refine ⟨fun h => (by cases h), fun t => ?_⟩
    exact absurd ((hT t).2.1.write _ _ _) hwrite
  have hnew : ∃ b', L ++ [(dst, b ++ c.data)] = L ++ [(dst, b')] ∧
      rest w.source = b' ++ rest w1.source ∧ inv w1.source ∧ w1.limit = n - b'.length ∧
      (b'.length : Int) ≤ n := by
    refine ⟨b ++ c.data, rfl, ?_, hcon.inv, ?_, ?_⟩
    · rw [hsplit, hsplit1, append_assoc]
    · rw [length_append]
      omega
    · rw [length_append]
      omega
  rcases afterChunk_cases c (total + c.data.length) with ⟨hst, -, hne⟩ | ⟨hst, e, he, heof⟩ |
    ⟨e, -, hst⟩ <;> rw [hst]
  · refine ⟨hnew, fun t => ?_⟩
    have hlt := hk' t
    have hpos := length_pos_of_ne_nil hne
    rw [hsplit1, length_append] at hlt
    show (rest w1.source).length < k
    omega
  · refine ⟨fun _ => ?_, fun _ => rfl⟩
    obtain ⟨b', hb'⟩ := hnew
    refine ⟨b', hb'.1, hb'.2.1, hb'.2.2.1, hb'.2.2.2.1, hb'.2.2.2.2, ?_⟩
    refine (hend e he (.inl heof)).imp (fun hz => ?_) id
    show w1.limit = 0
    omega
  · refine ⟨fun h => (by cases h), fun t => ?_⟩
    -- A steady chunk is not an error.
    exfalso
    unfold afterChunk at hst
    rcases hsteady t with ⟨hnone, hne⟩ | heof
    · simp [hnone, hne] at hst
    · simp [heof, GoError.isStd] at hst

/-- **One range.**  A successful copy moves the next `n` bytes of the stream into the device; a
    cooperative environment (`T`) makes it succeed when the stream has them. -/
theorem copyRangeToDevice_feeds (hr : Feeds r rest inv) (hk : KeepsTargets r) {T : Prop} {n : Int}
    {dst : String} (hn : 0 ≤ n)
    (hT : T → Steady r rest inv ∧ os.Ideal ∧ (rest w.source).length < fuel ∧ dst ≠ "" ∧
      n.toNat ≤ (rest w.source).length) (hinv : inv w.source) :
    Sat (copyReaderRangeToDevice os r dst n fuel) w (fun _ w' =>
      ∃ b, w'.log = w.log ++ [(dst, b)] ∧ rest w.source = b ++ rest w'.source ∧
        inv w'.source ∧ b.length = n.toNat) (fun _ _ => ¬T) (¬T) := by
  have hopen : Sat (openFile os dst) w (fun res w' => w'.source = w.source ∧
      ((∃ e, res = .error e ∧ ¬T) ∨
        (res = .ok w.log.length ∧ w'.log = w.log ++ [(dst, [])]))) (fun _ _ => ¬T) (¬T) := by
    refine sat_act.mpr ?_
    by_cases hdst : dst = ""
    · aesop
    · rw [if_neg hdst]
      cases hos : os.openErr w.clock dst with
      | some e =>
        refine ⟨rfl, .inl ⟨e, rfl, fun t => ?_⟩⟩
        rw [(hT t).2.1.openErr] at hos
        cases hos
      | none => exact ⟨rfl, .inr ⟨rfl, rfl⟩⟩
  refine hopen.seq fun res w1 h => ?_
  obtain ⟨hsrc, ⟨e, rfl, hnot⟩ | ⟨rfl, hlog⟩⟩ := h
  · exact sat_fail.mpr hnot
  refine sat_bindAct (sat_bind ?_)
  have hrest : rest { w1 with limit := n }.source = rest w.source := congrArg rest hsrc
  refine (copyReader_feeds (w := { w1 with limit := n }) (n := n) hr hk
    (fun t => ⟨(hT t).1, (hT t).2.1, by rw [hrest]; exact (hT t).2.2.1⟩)
    (by rw [← hsrc] at hinv; exact hinv) hlog rfl hn).mono (fun res w2 h => ?_)
    (fun _ _ h => h.elim)
  obtain ⟨hdone, ht⟩ := h
  cases hres : res.2 with
  | some e => grind [sat_fail.mpr]
  | none =>
    obtain ⟨b, hlog2, hsplit, hinv2, hlim, hle, hend⟩ := hdone hres
    rw [hrest] at hsplit
    refine sat_bindAct ?_
    by_cases hleft : w2.limit ≠ 0
    · rw [if_pos hleft]
      refine sat_fail.mpr (fun t => ?_)
      -- The stream ended early, but it had all the bytes.
      have hnil := hend.resolve_left hleft
      have hlen := (hT t).2.2.2.2
      rw [hsplit, hnil, append_nil] at hlen
      omega
    · rw [if_neg hleft]
      refine sat_bindAct ?_
      cases hsync : os.syncErr w2.clock dst with
      | some e =>
        refine sat_fail.mpr (fun t => ?_)
        rw [(hT t).2.1.syncErr] at hsync
        cases hsync
      | none =>
        refine sat_pure.mpr ⟨b, hlog2, hsplit, hinv2, ?_⟩
        omega

/-- **The plan.**  A successful run has written what `copyPlan` says; with a cooperative
    environment (`T`) an existing plan is carried out. -/
theorem copyRanges_plan (hr : Feeds r rest inv) (hk : KeepsTargets r) {T : Prop} {img : Bytes}
    {ranges : List AbStreamRange} {pos : Int} {off : Nat} {dirty : List String}
    (hT : T → Steady r rest inv ∧ os.Ideal ∧ img.length < fuel ∧ (∀ x ∈ ranges, x.dst ≠ "") ∧
      copyPlan img ranges pos off ≠ none)
    (hinv : inv w.source) (hoff : rest w.source = img.drop off) :
    Sat (copyRanges os r fuel ranges pos dirty) w
      (fun _ w' => ∃ new, copyPlan img ranges pos off = some new ∧ w'.log = w.log ++ new)
      (fun _ _ => ¬T) (¬T) := by
  induction ranges generalizing w pos off dirty with
  | nil => exact sat_pure.mpr ⟨[], rfl, (append_nil _).symm⟩
  | cons x xs ih =>
    refine sat_bindAct ?_
    cases hctx : os.ctxErr w.clock with
    | some e =>
      refine sat_fail.mpr (fun t => ?_)
      rw [(hT t).2.1.ctxErr] at hctx
      cases hctx
    | none =>
      by_cases hbad : x.start < pos ∨ x.size ≤ 0
      · have hnot : ¬T := fun t => (hT t).2.2.2.2 (by rw [copyPlan, if_pos hbad])
        rcases hbad with hlt | hle
        · grind [sat_fail.mpr]
        · grind [sat_fail.mpr]
      have hgood := not_or.mp hbad
      rw [if_neg hgood.1, if_neg hgood.2]
      have hlenT : T → (rest w.source).length < fuel := fun t => by grind
      refine (copyN_feeds (w := { w with clock := w.clock + 1 }) (n := wrap64 (x.start - pos)) hr
        (T := T) (fun t => ⟨(hT t).1, fun _ => Nat.succ_pos _, hlenT t⟩) hinv).seq_ok
        fun res w1 h => ?_
      obtain ⟨hcon, hfull, hend, ht⟩ := h
      have hsplit : img.drop off = res.1 ++ rest w1.source := hoff.symm.trans hcon.split
      set skip := (wrap64 (x.start - pos)).toNat with hskip
      -- An existing plan stays inside the image.
      have hroom : T → skip + x.size.toNat ≤ (img.drop off).length := fun t => by
        by_contra hlt
        refine (hT t).2.2.2.2 ?_
        rw [length_drop] at hlt
        rw [copyPlan, if_neg hbad, if_pos (by omega)]
      cases hres : res.2 with
      | some e =>
        refine sat_fail.mpr (fun t => ?_)
        rcases ht t with hnone | ⟨hn, heof⟩
        · rw [hres] at hnone
          cases hnone
        · have ⟨hnil, hshort⟩ := hend _ hn heof (.inl rfl)
          have hlen := hroom t
          rw [hsplit, hnil, append_nil] at hlen
          omega
      | none =>
        have hskipped : res.1.length = skip := hfull hres
        have hoff1 : rest w1.source = img.drop (off + skip) := by
          rw [drop_of_split hsplit, hskipped]
        refine sat_bind (sat_mapErr ((copyRangeToDevice_feeds (w := w1) (T := T) hr hk
          (by omega) (fun t => ⟨(hT t).1, (hT t).2.1, ?_, ?_, ?_⟩) hcon.inv).mono
          (fun _ w2 h => ?_) (fun _ _ h => h)))
        · grind
        · exact (hT t).2.2.2.1 x mem_cons_self
        · grind
        obtain ⟨b, hlog, hsplit2, hinv2, hb⟩ := h
        rw [hoff1] at hsplit2
        have hin : off + skip + x.size.toNat ≤ img.length := by
          rw [← hb]
          exact le_length_of_split hsplit2 (by intro h; rw [h] at hb; simp at hb; omega)
        have hplan : copyPlan img (x :: xs) pos off =
            (copyPlan img xs (wrap64 (x.start + x.size)) (off + skip + x.size.toNat)).map
              ((x.dst, b) :: ·) := by
          rw [copyPlan, if_neg hbad, if_neg (by omega), window_of_split hsplit2 hb hin]
        have hoff2 : rest w2.source = img.drop (off + skip + x.size.toNat) := by
          rw [drop_of_split hsplit2, hb]
        refine (ih (fun t => ⟨(hT t).1, (hT t).2.1, (hT t).2.2.1,
          fun y hy => (hT t).2.2.2.1 y (mem_cons_of_mem _ hy), fun hnone => ?_⟩) hinv2
          hoff2).imp fun _ w3 h => ?_
        · grind
        · obtain ⟨new, hnew, hlog3⟩ := h
          refine ⟨(x.dst, b) :: new, by rw [hplan, hnew]; rfl, ?_⟩
          rw [hlog3, hlog, hcon.log, append_assoc]
          rfl

end

end Booty.Image
