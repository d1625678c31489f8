import Booty.Caprf.LogRing

namespace Booty.Caprf

open Booty.Lib List Eviction Outcome

/-!
# Every log line is accounted for

* `LogRing.Bounded` — the bounds of a ring and its byte count.
* `LogRing.push_meets` — a push never indexes outside the queue, keeps the bounds and evicts fairly.
* `LogState.Lawful` — the laws of a run; `lawful_step` — every step keeps them.
* `log_lines_accounted` — so they hold in every state of every run.
* `dropped_push_keeps_queue` — when a push that drops its line evicts nothing.
-/

namespace LogRing

/-- The bytes of the queued lines. -/
def size (entries : List RingEntry) : Int := (entries.map fun e => (e.line.length : Int)).sum

/-- The queue is within its bounds, and `bytes` is the sum of the queued lengths. -/
structure Bounded (r : LogRing) : Prop where
  lines : (r.entries.length : Int) ≤ r.maxLines
  bytes : r.bytes ≤ r.maxBytes
  sum : r.bytes = size r.entries
  oneLine : 1 ≤ r.maxLines
  oneByte : 1 ≤ r.maxBytes

end LogRing

/-- An eviction takes the oldest line of the lowest rank, and not for a line of lower rank. -/
structure Eviction.Fair (ev : Eviction) : Prop where
  queued : ev.queue[ev.index]? = some ev.victim
  lowest : ∀ e ∈ ev.queue, ev.victim.rank ≤ e.rank
  oldest : ∀ e ∈ ev.queue, e.rank = ev.victim.rank → ev.victim.tag ≤ e.tag
  rank : ev.victim.rank ≤ ev.rank

namespace LogRing

variable {r : LogRing} {rank : Fin 4} {line : Bytes} {entries : List RingEntry}

/-- What the scan has found among the first `i` entries: the first one of the lowest rank. -/
def Lowest (entries : List RingEntry) (i victim : Nat) : Prop :=
  ∃ v, entries[victim]? = some v ∧ (∀ j e, j < i → entries[j]? = some e → v.rank ≤ e.rank) ∧
    ∀ j e, j < victim → entries[j]? = some e → v.rank < e.rank

/-- **The scan** ends with the first entry of the lowest rank. -/
theorem scan_meets {i victim : Nat} {rest : List RingEntry} (hrest : entries.drop i = rest)
    (h : Lowest entries i victim) :
    (scan entries i rest victim).Meets (Lowest entries entries.length) := by
  induction rest generalizing i victim with
  | nil =>
    obtain ⟨v, hv, hlow, hfirst⟩ := h
    refine ⟨v, hv, fun j e hj he => hlow j e ?_ he, hfirst⟩
    have := drop_eq_nil_iff.mp hrest
    omega
  | cons e rest ih =>
    obtain ⟨v, hv, hlow, hfirst⟩ := h
    have he : entries[i]? = some e := by
      rw [← head?_drop, hrest]
      rfl
    have hnext : entries.drop (i + 1) = rest := by
      rw [← tail_drop, hrest]
      rfl
    rw [scan, entryAt, hv]
    refine ih hnext ?_
    split
    next hlt =>
      -- The new entry is lower than every one before it.
      refine ⟨e, he, fun j e' hj he' => ?_, fun j e' hj he' => ?_⟩
      · grind
      · exact lt_of_lt_of_le hlt (hlow j e' hj he')
    next hlt =>
      refine ⟨v, hv, fun j e' hj he' => ?_, hfirst⟩
      obtain hj | hj := Nat.lt_succ_iff_lt_or_eq.mp hj
      · exact hlow j e' hj he'
      · grind

/-- No entry ranks below the victim. -/
theorem Lowest.le {victim : Nat} {e : RingEntry} (h : Lowest entries entries.length victim)
    (he : entries[victim]? = some e) : ∀ e' ∈ entries, e.rank ≤ e'.rank := by
  obtain ⟨v, hv, hlow, -⟩ := h
  rw [he] at hv
  cases hv
  grind [mem_iff_getElem.mp]

/-- The victim of a queue in the order of the pushes. -/
theorem fair_of_lowest {victim : Nat} {e : RingEntry} (h : Lowest entries entries.length victim)
    (he : entries[victim]? = some e) (hsorted : entries.Pairwise fun a b => a.tag < b.tag)
    (hrank : ¬rank < e.rank) : Fair ⟨entries, victim, e, rank⟩ := by
  refine ⟨he, h.le he, fun e' he' hsame => ?_, le_of_not_gt hrank⟩
  obtain ⟨v, hv, -, hfirst⟩ := h
  obtain ⟨j, hj, rfl⟩ := mem_iff_getElem.mp he'
  obtain ⟨hvictim, rfl⟩ := List.getElem?_eq_some_iff.mp he
  obtain hlt | heq | hgt := Nat.lt_trichotomy j victim
  · grind
  · subst heq
    exact le_refl _
  · grind [pairwise_iff_getElem.mp]

/-! ### Making room -/

/-- The lines that the evictions took. -/
def victims (evictions : List Eviction) : List RingEntry := evictions.map Eviction.victim

/-- How many of some lost lines have a rank. -/
def lostAt (lost : List RingEntry) (k : Fin 4) : Int := lost.countP fun e => e.rank = k

theorem lostAt_append (l l' : List RingEntry) (k : Fin 4) :
    lostAt (l ++ l') k = lostAt l k + lostAt l' k := by
  unfold lostAt
  rw [countP_append]
  push_cast
  rfl

/-- A lost line is counted under its rank. -/
theorem count_dropped (r : LogRing) (e : RingEntry) (k : Fin 4) :
    (r.count e.rank).dropped k = r.dropped k + lostAt [e] k := by
  unfold count lostAt
  by_cases hk : e.rank = k
  · subst hk
    simp
  · simp [Function.update_of_ne (Ne.symm hk), hk]

/-- The queued lines that rank above a new one. -/
def above (r : LogRing) (rank : Fin 4) : List RingEntry := r.entries.filter (rank < ·.rank)

/-- They leave room for the new line. -/
def RoomAbove (r : LogRing) (rank : Fin 4) (line : Bytes) : Prop :=
  ((r.above rank).length : Int) < r.maxLines ∧ size (r.above rank) + line.length ≤ r.maxBytes

/-- What the loop of `push` has done to a ring: evictions only, each of them fair. -/
structure Cleared (r r' : LogRing) (evictions : List Eviction) : Prop where
  bounds : r'.maxLines = r.maxLines ∧ r'.maxBytes = r.maxBytes ∧ r'.closed = r.closed
  kept : r'.entries.Sublist r.entries
  sum : r'.bytes = size r'.entries
  perm : (r'.entries ++ victims evictions).Perm r.entries
  fair : ∀ ev ∈ evictions, ev.Fair

/-- What the loop of `push` returns for a line `new` within the byte bound: it evicts, counts what
    is lost, and queues the line exactly if the lines above it leave room. -/
structure MadeRoom (r : LogRing) (new : RingEntry) (line : Bytes) (r' : LogRing) (queued : Bool)
    (evictions : List Eviction) : Prop where
  cleared : Cleared r r' evictions
  dropped : ∀ k, r'.dropped k =
    r.dropped k + lostAt (victims evictions ++ if queued then [] else [new]) k
  room : queued = true → (r'.entries.length : Int) < r.maxLines ∧
    r'.bytes + line.length ≤ r.maxBytes
  queued_iff : queued = true ↔ r.RoomAbove new.rank line
  left : queued = false → r'.entries = r.above new.rank

section Room

variable {new : RingEntry}

/-- A ring with room is left as it is. -/
theorem madeRoom_of_room (hsum : r.bytes = size r.entries)
    (hroom : (r.entries.length : Int) < r.maxLines ∧ r.bytes + line.length ≤ r.maxBytes) :
    MadeRoom r new line r true [] := by
  have hsub : (r.above new.rank).Sublist r.entries := filter_sublist
  have hsize : size (r.above new.rank) ≤ size r.entries := (hsub.map _).sum_le_sum (by simp)
  have hlen := hsub.length_le
  refine ⟨⟨⟨rfl, rfl, rfl⟩, Sublist.refl _, hsum, by simp [victims], by simp⟩, fun k => ?_,
    fun _ => hroom, iff_of_true rfl ?_, nofun⟩
  · simp [victims, lostAt]
  · unfold RoomAbove
    omega

/-- A line that ranks below a full queue is dropped. -/
theorem madeRoom_of_low (hsum : r.bytes = size r.entries)
    (hfull : r.maxLines ≤ r.entries.length ∨ r.maxBytes < r.bytes + line.length)
    (hlow : ∀ e ∈ r.entries, new.rank < e.rank) :
    MadeRoom r new line (r.count new.rank) false [] := by
  have habove : r.above new.rank = r.entries :=
    filter_eq_self.mpr fun e he => decide_eq_true (hlow e he)
  refine ⟨⟨⟨rfl, rfl, rfl⟩, Sublist.refl _, hsum, ?_, by simp⟩, fun k => ?_, nofun, ?_,
    fun _ => habove.symm⟩
  · simp [victims, count]
  · rw [count_dropped]
    rfl
  · rw [RoomAbove, habove]
    simp only [Bool.false_eq_true, false_iff]
    omega

variable {victim : Nat} {e : RingEntry}

theorem perm_eraseIdx (he : entries[victim]? = some e) :
    (entries.eraseIdx victim ++ [e]).Perm entries := by
  obtain ⟨hidx, rfl⟩ := List.getElem?_eq_some_iff.mp he
  exact (perm_append_singleton _ _).trans (getElem_cons_eraseIdx_perm hidx)

theorem size_eraseIdx (he : entries[victim]? = some e) :
    size (entries.eraseIdx victim) = size entries - e.line.length := by
  have hsum := ((perm_eraseIdx he).map fun e => (e.line.length : Int)).sum_eq
  simp only [map_append, map_cons, map_nil, sum_append, sum_cons, sum_nil] at hsum
  unfold size
  omega

/-- A victim that does not rank above the new line is not among the lines above it. -/
theorem above_evict (he : r.entries[victim]? = some e) (hrank : ¬rank < e.rank) :
    (r.evict victim e).above rank = r.above rank := by
  refine ((eraseIdx_sublist _ _).filter _).eq_of_length ?_
  have hlength := ((perm_eraseIdx he).filter (rank < ·.rank)).length_eq
  simpa [hrank] using hlength

/-- **One turn of the loop** before the rest of them. -/
theorem MadeRoom.evict {r' : LogRing} {queued : Bool} {evictions : List Eviction}
    (hrest : MadeRoom (r.evict victim e) new line r' queued evictions)
    (he : r.entries[victim]? = some e) (hrank : ¬new.rank < e.rank)
    (hfair : Fair ⟨r.entries, victim, e, new.rank⟩) :
    MadeRoom r new line r' queued (⟨r.entries, victim, e, new.rank⟩ :: evictions) := by
  have habove := above_evict he hrank
  obtain ⟨hcleared, hdropped, hroom, hiff, hleft⟩ := hrest
  rw [RoomAbove, habove] at hiff
  refine ⟨⟨hcleared.bounds, hcleared.kept.trans (eraseIdx_sublist _ _), hcleared.sum, ?_, ?_⟩,
    fun k => ?_, hroom, hiff, fun hdrop => (hleft hdrop).trans habove⟩
  · have hmid : (r'.entries ++ e :: victims evictions).Perm
        (e :: (r'.entries ++ victims evictions)) := perm_middle
    exact (hmid.trans (hcleared.perm.cons e)).trans
      ((perm_append_singleton e _).symm.trans (perm_eraseIdx he))
  · exact forall_mem_cons.mpr ⟨hfair, hcleared.fair⟩
  · have hsplit : victims (⟨r.entries, victim, e, new.rank⟩ :: evictions) =
        [e] ++ victims evictions := rfl
    rw [hdropped k, hsplit, append_assoc, lostAt_append [e], ← add_assoc, ← count_dropped r e k]
    rfl

/-- **The loop of `push`.**  A full ring is not empty, so the scan finds a victim. -/
theorem makeRoom_meets {fuel : Nat} (new : RingEntry) (hrank : new.rank = rank)
    (hfuel : r.entries.length < fuel) (hsum : r.bytes = size r.entries)
    (hsorted : r.entries.Pairwise fun a b => a.tag < b.tag) (hlines : 1 ≤ r.maxLines)
    (hline : (line.length : Int) ≤ r.maxBytes) :
    (makeRoom rank line fuel r).Meets fun res => MadeRoom r new line res.1 res.2.1 res.2.2 := by
  subst hrank
  induction fuel generalizing r with
  | zero => omega
  | succ fuel ih =>
    rw [makeRoom]
    split
    next hfull =>
      -- An empty queue has room for a line within the bounds.
      have hne : r.entries ≠ [] := by
        intro hnil
        rw [hnil] at hsum hfull
        simp only [size, map_nil, sum_nil, length_nil] at hsum hfull
        omega
      obtain ⟨first, hfirst⟩ : ∃ e, r.entries[0]? = some e := by
        obtain ⟨e, rest, hcons⟩ := exists_cons_of_ne_nil hne
        exact ⟨e, by rw [hcons]; rfl⟩
      have hstart : Lowest r.entries 0 0 := ⟨first, hfirst, by simp, by simp⟩
      refine (scan_meets rfl hstart).bind fun victim hvictim => ?_
      obtain ⟨e, he, -⟩ := id hvictim
      rw [entryAt, he]
      show Outcome.Meets (if new.rank < e.rank then _ else _) _
      split
      next hhigh =>
        exact madeRoom_of_low hsum hfull fun e' he' => lt_of_lt_of_le hhigh (hvictim.le he e' he')
      next hlow =>
        have hidx := (List.getElem?_eq_some_iff.mp he).1
        have hlen : (r.entries.eraseIdx victim).length < fuel := by
          rw [length_eraseIdx_of_lt hidx]
          omega
        have hsum' : (r.evict victim e).bytes = size (r.evict victim e).entries := by
          show r.bytes - e.line.length = size (r.entries.eraseIdx victim)
          rw [hsum, size_eraseIdx he]
        refine (ih (r := r.evict victim e) hlen hsum' (hsorted.sublist (eraseIdx_sublist _ _))
          hlines hline).bind fun res hres => ?_
        exact hres.evict he hlow (fair_of_lowest hvictim he hsorted hlow)
    next hroom =>
      rw [not_or, not_le, not_lt] at hroom
      exact madeRoom_of_room hsum hroom

end Room

/-! ### A push -/

/-- A line that is too long is cut to the byte bound. -/
theorem cut_meets (h : r.Bounded) : (r.cut line).Meets fun l => (l.length : Int) ≤ r.maxBytes := by
  have hone := h.oneByte
  unfold cut
  split
  next hlong =>
    have hmake : (makeLen r.maxBytes : Outcome Empty Nat) = .ok r.maxBytes.toNat :=
      if_pos (by omega)
    have hslice : (slice line 0 r.maxBytes.toNat : Outcome Empty Bytes) =
        .ok (window line 0 r.maxBytes.toNat) := by
      refine slice_of_le (Nat.zero_le _) ?_
      omega
    rw [hmake, bind_ok, hslice, bind_ok, meets_ok]
    have hvalid := length_toValidUTF8_le (window line 0 r.maxBytes.toNat)
    have hcut : (window line 0 r.maxBytes.toNat).length ≤ r.maxBytes.toNat := by
      simp
    omega
  next hshort => exact not_lt.mp hshort

/-- What a push has done to a ring. -/
structure Pushed (r r' : LogRing) (e : RingEntry) (queued : Bool) (evictions : List Eviction) :
    Prop where
  bounded : r'.Bounded
  bounds : r'.maxLines = r.maxLines ∧ r'.maxBytes = r.maxBytes
  order : r'.entries.Sublist (r.entries ++ [e])
  perm : (r'.entries ++ (victims evictions ++ if queued then [] else [e])).Perm (r.entries ++ [e])
  counted : ∀ k, r'.dropped k =
    r.dropped k + lostAt (victims evictions ++ if queued then [] else [e]) k
  fair : ∀ ev ∈ evictions, ev.Fair

/-- **A push** is within the queue, keeps the bounds and evicts fairly. -/
theorem push_meets (h : r.Bounded) (hsorted : r.entries.Pairwise fun a b => a.tag < b.tag)
    (tag : Nat) :
    (r.push rank line tag).Meets fun res => ∀ r' e queued evictions,
      res = .done r' e queued evictions → e.tag = tag ∧ Pushed r r' e queued evictions := by
  refine (cut_meets h).bind fun line hline => ?_
  split
  · intro r' e queued evictions hres
    cases hres
  have hmake := makeRoom_meets ⟨rank, line, tag⟩ rfl (Nat.lt_succ_self _) h.sum hsorted h.oneLine
    hline
  refine hmake.bind fun res hres => ?_
  obtain ⟨r', queued, evictions⟩ := res
  obtain ⟨hcleared, hdropped, hroom, -⟩ := hres
  obtain ⟨hmaxLines, hmaxBytes, -⟩ := hcleared.bounds
  have hkept := hcleared.kept.length_le
  cases queued with
  | true =>
    obtain ⟨hlen, hbytes⟩ := hroom rfl
    rintro _ _ _ _ ⟨⟩
    refine ⟨rfl, ⟨?_, ?_, ?_, ?_, ?_⟩, ⟨hmaxLines, hmaxBytes⟩, hcleared.kept.append_right _, ?_,
      hdropped, hcleared.fair⟩
    · grind
    · grind
    · have hsum := hcleared.sum
      simp only [size, map_append, sum_append, map_cons, map_nil, sum_singleton] at hsum ⊢
      omega
    · exact hmaxLines ▸ h.oneLine
    · exact hmaxBytes ▸ h.oneByte
    · have hperm := hcleared.perm.append_right [(⟨rank, line, tag⟩ : RingEntry)]
      simp only [if_true, append_nil, append_assoc] at hperm ⊢
      exact (perm_append_comm.append_left _).trans hperm
  | false =>
    rintro _ _ _ _ ⟨⟩
    dsimp only at hmaxLines hmaxBytes hkept
    refine ⟨rfl, ⟨?_, ?_, hcleared.sum, ?_, ?_⟩, ⟨hmaxLines, hmaxBytes⟩,
      hcleared.kept.trans (sublist_append_left _ _), ?_, hdropped, hcleared.fair⟩
    · have := h.lines
      omega
    · -- The kept lines are some of the lines that were there.
      have hsum := (hcleared.perm.map fun e => (e.line.length : Int)).sum_eq
      have hnonneg : 0 ≤ size (victims evictions) := sum_nonneg (by simp)
      have hbytes := h.bytes
      have hall := h.sum
      have hrest := hcleared.sum
      simp only [map_append, sum_append] at hsum
      unfold size at hall hnonneg hrest
      dsimp only at hrest hsum
      omega
    · exact hmaxLines ▸ h.oneLine
    · exact hmaxBytes ▸ h.oneByte
    · grind [hcleared.perm.append_right]

/-- A pop takes the oldest line. -/
theorem bounded_pop {r' : LogRing} {e : RingEntry} (h : r.Bounded) (hpop : r.pop = some (e, r')) :
    r'.Bounded ∧ r.entries = e :: r'.entries ∧ r'.dropped = r.dropped ∧
      r'.maxLines = r.maxLines ∧ r'.maxBytes = r.maxBytes := by
  unfold pop at hpop
  split at hpop
  · cases hpop
  next e' rest hentries =>
    cases hpop
    have hlines := h.lines
    have hbytes := h.bytes
    have hsum := h.sum
    simp only [size] at hlines hsum
    refine ⟨⟨?_, ?_, ?_, h.oneLine, h.oneByte⟩, hentries, rfl, rfl, rfl⟩
    · grind
    · grind
    · aesop

end LogRing

/-! ### Runs -/

namespace LogState

open LogRing

/-- The laws of a run. -/
structure Lawful (maxLines maxBytes : Int) (s : LogState) : Prop where
  bounded : s.ring.Bounded
  bounds : s.ring.maxLines = max maxLines 1 ∧ s.ring.maxBytes = max maxBytes 1
  /-- The pushes are numbered in their order. -/
  numbered : s.pushed.map RingEntry.tag = List.range s.pushed.length
  /-- The lines that left the ring through `pop`, and then those that wait in it. -/
  order : (s.popped ++ s.ring.entries).Sublist s.pushed
  /-- Each line is in exactly one place. -/
  accounted : (s.ring.entries ++ (s.sender.line ++ (s.shipped ++ s.lost))).Perm s.pushed
  counted : ∀ k, s.ring.dropped k = lostAt s.lost k
  fair : ∀ ev ∈ s.evictions, ev.Fair

variable {maxLines maxBytes : Int} {s s' : LogState}

/-- The queue is in the order of the pushes. -/
theorem Lawful.sorted (h : s.Lawful maxLines maxBytes) :
    s.ring.entries.Pairwise fun a b => a.tag < b.tag := by
  have hall : s.pushed.Pairwise fun a b => a.tag < b.tag := by
    have := pairwise_lt_range (n := s.pushed.length)
    rw [← h.numbered, pairwise_map] at this
    exact this
  exact (hall.sublist h.order).sublist (sublist_append_right _ _)

/-- The laws hold at first. -/
theorem lawful_start : (logMachine maxLines maxBytes).start.Lawful maxLines maxBytes where
  bounded := {
    lines := le_trans zero_le_one (le_max_right _ _)
    bytes := le_trans zero_le_one (le_max_right _ _)
    sum := rfl
    oneLine := le_max_right _ _
    oneByte := le_max_right _ _ }
  bounds := ⟨rfl, rfl⟩
  numbered := rfl
  order := Sublist.refl _
  accounted := Perm.refl _
  counted _ := rfl
  fair := by simp [logMachine]

/-- The start of a summary changes only the sender. -/
theorem lawful_shipDropSummary (last : Bool)
    (h : { s with sender := .idle }.Lawful maxLines maxBytes) :
    (s.shipDropSummary last).Lawful maxLines maxBytes := by
  unfold shipDropSummary
  split
  · exact { h with accounted := by cases last <;> exact h.accounted }
  · exact { h with }

section

variable (h : s.Lawful maxLines maxBytes)
include h

/-- A push keeps the laws. -/
theorem lawful_push {rank : Fin 4} {line : Bytes} {res : PushResult}
    (hpush : s.ring.push rank line s.pushed.length = .ok res) :
    (s.afterPush res).Lawful maxLines maxBytes := by
  cases res with
  | ignored => exact h
  | done r e queued evictions =>
    obtain ⟨htag, hp⟩ := (push_meets h.bounded h.sorted _).of_eq_ok hpush r e queued evictions rfl
    refine ⟨hp.bounded, ?_, ?_, ?_, ?_, fun k => ?_, fun ev hev => ?_⟩
    · exact ⟨hp.bounds.1.trans h.bounds.1, hp.bounds.2.trans h.bounds.2⟩
    · show (s.pushed ++ [e]).map RingEntry.tag = range (s.pushed ++ [e]).length
      rw [map_append, h.numbered, length_append, length_singleton, range_succ]
      simp [htag]
    · have := h.order.append_right [e]
      rw [append_assoc] at this
      exact (hp.order.append_left s.popped).trans this
    · -- The new line joins the lost ones or the queue.
      have hnew := hp.perm.append_right (s.sender.line ++ (s.shipped ++ s.lost))
      have hold := h.accounted.append_right [e]
      show (r.entries ++ (s.sender.line ++ (s.shipped ++
        (s.lost ++ evictions.map victim ++ if queued then [] else [e])))).Perm (s.pushed ++ [e])
      refine Perm.trans ?_ (hnew.trans (Perm.trans ?_ hold))
      · simp only [append_assoc]
        refine Perm.append_left _ ?_
        simp only [← append_assoc]
        rw [append_assoc _ (evictions.map victim)]
        refine perm_append_comm.trans ?_
        simp only [append_assoc]
        exact Perm.refl _
      · grind
    · show r.dropped k = _
      rw [hp.counted k, h.counted k, ← lostAt_append, ← append_assoc]
      rfl
    · obtain hev | hev := mem_append.mp hev
      · exact h.fair ev hev
      · exact hp.fair ev hev

/-- A pop keeps the laws. -/
theorem lawful_popStep (hidle : s.sender = .idle)
    (hstep : s.popStep = some s') : s'.Lawful maxLines maxBytes := by
  unfold popStep at hstep
  split at hstep
  next e r hpop =>
    cases hstep
    obtain ⟨hbounded, hentries, hdropped, hmaxLines, hmaxBytes⟩ := bounded_pop h.bounded hpop
    have horder := h.order
    have haccounted := h.accounted
    rw [hentries] at horder haccounted
    rw [hidle] at haccounted
    refine ⟨hbounded, ?_, h.numbered, ?_, ?_, fun k => ?_, h.fair⟩
    · exact ⟨hmaxLines.trans h.bounds.1, hmaxBytes.trans h.bounds.2⟩
    · grind
    · exact perm_middle.trans haccounted
    · rw [hdropped]
      exact h.counted k
  next hpop =>
    split at hstep
    · cases hstep
      refine lawful_shipDropSummary true ?_
      rw [← hidle]
      exact h
    · cases hstep

/-- The result of a post keeps the laws. -/
theorem lawful_resultStep {arrived : Bool}
    (hstep : s.resultStep arrived = some s') : s'.Lawful maxLines maxBytes := by
  have haccounted := h.accounted
  unfold resultStep at hstep
  split at hstep
  next e hsender =>
    rw [hsender] at haccounted
    split at hstep
    · cases hstep
      refine lawful_shipDropSummary false { h with accounted := ?_ }
      refine (Perm.append_left _ ?_).trans haccounted
      rw [append_assoc]
      exact perm_middle
    · cases hstep
      refine { h with bounded := { h.bounded with }, accounted := ?_, counted := fun k => ?_ }
      · refine (Perm.append_left _ ?_).trans haccounted
        show (s.shipped ++ (s.lost ++ [e])).Perm (e :: (s.shipped ++ s.lost))
        rw [← append_assoc]
        exact perm_append_singleton e _
      · show (s.ring.count e.rank).dropped k = lostAt (s.lost ++ [e]) k
        rw [count_dropped, h.counted k, lostAt_append]
  next now last hsender =>
    cases hstep
    rw [hsender] at haccounted
    exact { h with accounted := by cases last <;> exact haccounted }
  · cases hstep

/-- **Step.** Every action keeps the laws. -/
theorem lawful_step {a : LogAct} (hstep : s.step a = some s') : s'.Lawful maxLines maxBytes := by
  cases a with
  | push rank line =>
    simp only [step] at hstep
    split at hstep
    next res hpush =>
      cases hstep
      exact lawful_push h hpush
    · cases hstep
  | pop =>
    simp only [step] at hstep
    split at hstep
    next hidle => exact lawful_popStep h hidle hstep
    · cases hstep
  | result arrived => exact lawful_resultStep h hstep
  | close =>
    cases hstep
    exact { h with bounded := { h.bounded with } }
  | cancel =>
    cases hstep
    exact { h with }
  | stop =>
    simp only [step] at hstep
    split at hstep
    next hidle =>
      split at hstep
      · cases hstep
        have haccounted := h.accounted
        rw [hidle] at haccounted
        exact { h with accounted := haccounted }
      · cases hstep
    · cases hstep

end

/-- **Every reachable state is lawful.** -/
theorem lawful_of_reachable (h : (logMachine maxLines maxBytes).Reachable s) :
    s.Lawful maxLines maxBytes := h.invariant lawful_start fun _ _ _ hi hs => lawful_step hi hs

end LogState

/-- **Every log line is accounted for.** In every state of every run the queue is within its bounds,
    each line that was pushed before `close` is in exactly one of the queue, the sender, the lines
    that arrived and the lost lines, the lost lines are counted under their ranks, the lines leave
    in the order of the pushes and each eviction is fair; and no push from there indexes outside. -/
theorem log_lines_accounted {maxLines maxBytes : Int} {s : LogState}
    (h : (logMachine maxLines maxBytes).Reachable s) :
    s.Lawful maxLines maxBytes ∧
      ∀ rank line, (s.ring.push rank line s.pushed.length).NoFault := by
  have hlawful := LogState.lawful_of_reachable h
  exact ⟨hlawful, fun rank line =>
    (LogRing.push_meets hlawful.bounded hlawful.sorted s.pushed.length).noFault⟩

/-- A full ring loses lines, and all are accounted for. -/
theorem log_lines_accounted_fullRingRun :
    ∃ s, (logMachine 2 4).run (logMachine 2 4).start fullRingRun = some s ∧ s.Lawful 2 4 ∧
      s.lost.map RingEntry.tag = [1, 0, 2] ∧ s.pushed.length = 4 := by
  have hfacts : ((logMachine 2 4).run (logMachine 2 4).start fullRingRun).map
      (fun s => (s.lost.map RingEntry.tag, s.pushed.length)) = some ([1, 0, 2], 4) := by
    decide
  obtain ⟨s, hrun, hs⟩ := Option.map_eq_some_iff.mp hfacts
  refine ⟨s, hrun, (log_lines_accounted (Machine.reachable_of_run hrun)).1, ?_⟩
  exact ⟨congrArg Prod.fst hs, congrArg Prod.snd hs⟩

/-- **A push that drops its line leaves the queue as it was** iff the ring is closed, every queued
    line ranks above the new one, or those that do leave room for it, so that it is not dropped. -/
theorem dropped_push_keeps_queue {maxLines maxBytes : Int} {s : LogState}
    (h : (logMachine maxLines maxBytes).Reachable s) (rank : Fin 4) (line : Bytes) :
    (∀ r' e evictions, s.ring.push rank line s.pushed.length = .ok (.done r' e false evictions) →
      r'.entries = s.ring.entries) ↔
    s.ring.closed = true ∨ (∀ e ∈ s.ring.entries, rank < e.rank) ∨
      ∀ l, s.ring.cut line = .ok l → s.ring.RoomAbove rank l := by
  have hlawful := LogState.lawful_of_reachable h
  have hcut : (s.ring.cut line).Meets fun l => (l.length : Int) ≤ s.ring.maxBytes :=
    LogRing.cut_meets hlawful.bounded
  unfold LogRing.push
  cases hl : s.ring.cut line with
  | err e => cases e
  | fault p => rw [hl] at hcut; exact hcut.elim
  | ok l =>
    rw [hl] at hcut
    have hmake := LogRing.makeRoom_meets ⟨rank, l, s.pushed.length⟩ rfl (Nat.lt_succ_self _)
      hlawful.bounded.sum hlawful.sorted hlawful.bounded.oneLine hcut
    cases hclosed : s.ring.closed with
    | true => simp
    | false =>
      cases hres : LogRing.makeRoom rank l (s.ring.entries.length + 1) s.ring with
      | err e => cases e
      | fault p => rw [hres] at hmake; exact hmake.elim
      | ok res =>
        obtain ⟨r', queued, evictions⟩ := res
        rw [hres] at hmake
        obtain ⟨-, -, -, hroom, hleft⟩ := hmake
        cases queued with
        | true => simp [hres, hroom.mp rfl]
        | false =>
          -- Dropped: what is left are the lines that rank above the new one.
          have hnoroom : ¬s.ring.RoomAbove rank l := fun hc => nomatch hroom.mpr hc
          have habove : r'.entries = s.ring.entries ↔ ∀ e ∈ s.ring.entries, rank < e.rank := by
            rw [hleft rfl, LogRing.above]
            simp
          simpa [hres, hnoroom] using habove

/-- A line below the queued ones is dropped. -/
theorem dropped_push_keeps_queue_above :
    ∃ s, (logMachine 8 4).run (logMachine 8 4).start [.push 3 [0x61, 0x62, 0x63]] = some s ∧
      (∃ r' e, s.ring.push 1 [0x64, 0x65] s.pushed.length = .ok (.done r' e false [])) ∧
      ∀ r' e evictions,
        s.ring.push 1 [0x64, 0x65] s.pushed.length = .ok (.done r' e false evictions) →
        r'.entries = s.ring.entries := by
  have hrun : (logMachine 8 4).run (logMachine 8 4).start [.push 3 [0x61, 0x62, 0x63]] =
    some _ := rfl
  exact ⟨_, hrun, ⟨_, _, rfl⟩, (dropped_push_keeps_queue (Machine.reachable_of_run hrun) 1 _).mpr
    (.inr (.inl (by decide)))⟩

/-- An INFO line evicts the DEBUG line and is then dropped for the ERROR line. -/
theorem dropped_push_evicts :
    ∃ s r' e evictions,
      (logMachine 8 4).run (logMachine 8 4).start [.push 0 [0x61], .push 3 [0x62, 0x63, 0x64]] =
        some s ∧
      s.ring.push 1 [0x65, 0x66] s.pushed.length = .ok (.done r' e false evictions) ∧
      s.ring.entries.map RingEntry.tag = [0, 1] ∧ r'.entries.map RingEntry.tag = [1] :=
  ⟨_, _, _, _, rfl, rfl, rfl, rfl⟩

end Booty.Caprf
