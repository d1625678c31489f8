import Booty.Image.ABStream

namespace Booty.Image

open Booty.Lib Booty.Lib.Prog

/-!
# What the parts of an A/B copy can do

The facts about the copy loops that both results about A/B copies rest on: the readers in front
of the source leave the devices alone, and one iteration of `copyReader` does one of three
things.

* `copyReaderStep_sat` — one iteration, with everything it may change;
* `afterChunk_cases` — how the loop goes on.
-/

section

variable {σ : Type}

@[simp] theorem dirtyTargets_wrap (s : String) (e : DirtyErr) :
    dirtyTargets (.wrap s e) = dirtyTargets e := rfl

@[simp] theorem dirtyTargets_widen (e : Err) : dirtyTargets e.widen = [] := by
  rw [dirtyTargets, GoError.as_widen]
  rfl

/-! ### Readers and copies keep what reads keep -/

section

variable {P : World σ → Prop} {r : Reader (World σ) Sentinel}

/-- A limited reader keeps what its reader keeps, if the count of bytes does not matter. -/
theorem keeps_limitedRead (hr : Keeps r P) (hlimit : ∀ w n, P w → P { w with limit := n }) :
    Keeps (limitedRead r) P := by
  intro n w h
  unfold limitedRead
  split
  · exact h
  · exact hlimit _ _ (hr _ w h)

/-- `io.CopyN` keeps what its reader keeps. -/
theorem keeps_copyN (hr : Keeps r P) (hlimit : ∀ w n, P w → P { w with limit := n })
    (room : Nat → Nat) (n : Int) {fuel : Nat} {w : World σ} (h : P w) :
    Sat (copyN r room n fuel) w (fun _ w' => P w') (fun _ _ => False) True := by
  refine sat_bindAct (sat_bind ?_)
  refine ((keeps_limitedRead hr hlimit).copyAll room (hlimit w n h)).imp fun res w' h' => ?_
  split
  · exact sat_pure.mpr h'
  · split <;> exact sat_pure.mpr h'

/-- `verifyChecksum` ends where the download checksum ends. -/
theorem verifyChecksum_sat {u : Unicode} {digest : Digest} {download : Prog σ Err Unit}
    {sum : Option HashType} {opt : StreamOpts} {E : Err → World σ → Prop} {w : World σ}
    (hsrc : Sat (onSrc download) w (fun _ w' => P w') E True) (hE : ∀ e w', P w' → E e w') :
    Sat (verifyChecksum u digest download sum opt) w (fun _ w' => P w') E True := by
  refine hsrc.seq fun _ w1 h => ?_
  cases sum with
  | none => exact sat_pure.mpr h
  | some t => grind [sat_bind, sat_act.mpr, sat_lift]

end

/-! ### Readers do not touch the targets -/

/-- The reader leaves the devices alone. -/
def KeepsTargets (r : Reader (World σ) Sentinel) : Prop :=
  ∀ n w, (r n w).2.log = w.log ∧ (r n w).2.synced = w.synced

/-- A read of the source writes to no target. -/
theorem keepsTargets_srcRead (r : Reader σ Sentinel) : KeepsTargets (srcRead r) :=
  fun _ _ => ⟨rfl, rfl⟩

/-- The same for the reader with the prefix. -/
theorem keepsTargets_multiRead (r : Reader σ Sentinel) : KeepsTargets (multiRead r) := by
  intro n w
  unfold multiRead
  split
  · exact ⟨rfl, rfl⟩
  · split <;> exact ⟨rfl, rfl⟩

/-- The same for the reader with the hash. -/
theorem KeepsTargets.teeRead {r : Reader (World σ) Sentinel} (hr : KeepsTargets r) :
    KeepsTargets (teeRead r) := fun n w => hr n w

/-- The same for the limited reader. -/
theorem KeepsTargets.limitedRead {r : Reader (World σ) Sentinel} (hr : KeepsTargets r) :
    KeepsTargets (limitedRead r) := by
  intro n w
  unfold Booty.Image.limitedRead
  split
  · exact ⟨rfl, rfl⟩
  · exact hr _ w

variable {os : Os} {r : Reader (World σ) Sentinel} {fuel : Nat} {w : World σ}

/-- The devices stay as they were in `w`. -/
theorem KeepsTargets.keeps (hr : KeepsTargets r) (w : World σ) :
    Keeps r (fun w' => w'.log = w.log ∧ w'.synced = w.synced) := by
  intro n w' h
  exact ⟨(hr n w').1.trans h.1, (hr n w').2.trans h.2⟩

/-- Reading until the end leaves the devices alone. -/
theorem copyAll_keeps (hr : KeepsTargets r) (room : Nat → Nat) :
    Sat (copyAll r room fuel : Prog (World σ) DirtyErr _) w
      (fun _ w' => w'.log = w.log ∧ w'.synced = w.synced) (fun _ _ => False) True :=
  (hr.keeps w).copyAll room ⟨rfl, rfl⟩

/-- A copy to nowhere writes to no target. -/
theorem copyN_keeps (hr : KeepsTargets r) (room : Nat → Nat) (n : Int) :
    Sat (copyN r room n fuel) w
      (fun _ w' => w'.log = w.log ∧ w'.synced = w.synced) (fun _ _ => False) True :=
  keeps_copyN (hr.keeps w) (fun _ _ h => h) room n ⟨rfl, rfl⟩

/-- Checksums do not touch the devices. -/
theorem verifyChecksum_keeps (u : Unicode) (digest : Digest) (download : Prog σ Err Unit)
    (sum : Option HashType) (opt : StreamOpts) :
    Sat (verifyChecksum u digest download sum opt) w
      (fun _ w' => w'.log = w.log ∧ w'.synced = w.synced)
      (fun _ w' => w'.log = w.log ∧ w'.synced = w.synced) True := by
  refine verifyChecksum_sat (sat_onSrc ?_) (fun _ _ h => h)
  exact sat_of_forall (fun _ _ => ⟨rfl, rfl⟩) (fun _ _ => ⟨rfl, rfl⟩) trivial

/-! ### One device -/

theorem modify_concat {α : Type} (L : List α) (x : α) (f : α → α) :
    (L ++ [x]).modify L.length f = L ++ [f x] := by
  induction L with
  | nil => rfl
  | cons y L ih => simpa using ih

/-- What one iteration of `copyReader` does to a device that holds `b`: it stops before reading
    because the context is cancelled; it stops because the write failed after `k` bytes; or the
    whole chunk reached the device, and the chunk's error decides how to go on. -/
theorem copyReaderStep_sat {L : List (String × Bytes)} {dst : String} {b : Bytes} {total : Nat}
    (hlog : w.log = L ++ [(dst, b)]) (hr : KeepsTargets r) {F : Prop} :
    Sat (copyReaderStep os r L.length dst total) w (fun st w' =>
      (∃ e, os.ctxErr w.clock = some e ∧ w' = { w with clock := w.clock + 1 } ∧
        st = .done (total, some (.wrap "copy canceled" e.widen))) ∨
      ∃ c w1 k, r imageCopyBufferSize { w with clock := w.clock + 1 } = (c, w1) ∧
        ((∃ e, dirtyTargets e = [] ∧ st = .done (total + k, some e) ∧ k ≤ c.data.length ∧
            os.write w1.clock dst c.data ≠ (c.data.length, none) ∧
            w' = { w1 with clock := w1.clock + 1, log := L ++ [(dst, b ++ c.data.take k)] }) ∨
          (st = afterChunk c (total + c.data.length) ∧
            w' = { w1 with clock := k, log := L ++ [(dst, b ++ c.data)] })))
      (fun _ _ => False) F := by
  refine sat_bindAct ?_
  cases hctx : os.ctxErr w.clock with
  | some e => simp
  | none =>
    refine sat_bindAct ?_
    have hkeep := (hr imageCopyBufferSize { w with clock := w.clock + 1 }).1
    generalize r imageCopyBufferSize { w with clock := w.clock + 1 } = res at hkeep ⊢
    obtain ⟨c, w1⟩ := res
    have hlog1 : w1.log = L ++ [(dst, b)] := hkeep.trans hlog
    have hmod : ∀ d, w1.log.modify L.length (fun entry => (entry.1, entry.2 ++ d)) =
        L ++ [(dst, b ++ d)] := by
      intro d
      rw [hlog1, modify_concat]
    -- An empty chunk is not written.
    unfold writeChunk
    by_cases hdata : c.data = []
    · rw [if_pos hdata]
      refine sat_bind (sat_pure.mpr (sat_pure.mpr ?_))
      refine .inr ⟨c, w1, w1.clock, rfl, .inr ⟨?_, ?_⟩⟩
      · rw [hdata]
        rfl
      · rw [hdata, List.append_nil, ← hlog1]
    · rw [if_neg hdata]
      refine sat_bind (sat_bindAct ?_)
      dsimp only
      generalize hos : os.write w1.clock dst c.data = res
      obtain ⟨n, err⟩ := res
      rw [hmod]
      cases err with
      | some e =>
        refine sat_pure.mpr (sat_pure.mpr (.inr ⟨c, w1, min n c.data.length, rfl, .inl ?_⟩))
        refine ⟨_, ?_, rfl, by omega, ?_, rfl⟩
        · exact dirtyTargets_widen e
        · rw [hos]
          exact nofun
      | none =>
        -- A short write without an error is an error of the loop.
        by_cases hn : min n c.data.length ≠ c.data.length
        · rw [if_pos hn]
          refine sat_pure.mpr (sat_pure.mpr (.inr ⟨c, w1, min n c.data.length, rfl, .inl ?_⟩))
          refine ⟨_, rfl, rfl, by omega, ?_, rfl⟩
          rw [hos]
          intro h
          cases h
          omega
        · simp_all

/-- After a chunk the copy goes on, has reached the end of the stream, or fails. -/
theorem afterChunk_cases (c : Chunk Sentinel) (total : Nat) :
    (afterChunk c total = .next total ∧ c.err = none ∧ c.data ≠ []) ∨
    (afterChunk c total = .done (total, none) ∧ ∃ e, c.err = some e ∧ e.isStd .eof = true) ∨
    ∃ e, dirtyTargets e = [] ∧ afterChunk c total = .done (total, some e) := by
  unfold afterChunk
  aesop

end

end Booty.Image
