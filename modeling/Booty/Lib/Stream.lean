import Booty.Lib.GoError
import Booty.Lib.Prog

namespace Booty.Lib

open Prog

/-!
# Go's `io.Reader`

A reader over the state `σ` answers `Read(p)` with the bytes it put into `p` and an error, and
changes its state.  A chunk may hold bytes and an error at once, may be empty, and may end with
`io.EOF` before or together with the last bytes, as Go allows.

* `Delivers r rest` — the contract of a byte stream: `rest` is what is still to come;
* `copyAll` with `copyAll_sat` — `ReadFrom` of a buffer and of `io.Discard`: read until an error;
  `Keeps.copyAll` for a property that no read destroys.
-/

/-- The answer to one `Read`. -/
structure Chunk (κ : Type) where
  data : Bytes
  err : Option (GoError κ Empty) := none

/-- An `io.Reader`: the length of the buffer to the chunk and the new state. -/
abbrev Reader (σ κ : Type) := Nat → σ → Chunk κ × σ

variable {σ κ ε : Type}

/-- The reader delivers the byte string `rest s` from state `s` on: every chunk is its next part,
    no longer than the buffer, and `io.EOF` comes only when nothing is left. -/
structure Delivers (r : Reader σ κ) (rest : σ → Bytes) : Prop where
  split : ∀ n s, rest s = (r n s).1.data ++ rest (r n s).2
  le : ∀ n s, (r n s).1.data.length ≤ n
  eof : ∀ n s, (r n s).1.err = some (.std .eof) → rest (r n s).2 = []

/-- A property of the state that no read destroys. -/
def Keeps (r : Reader σ κ) (P : σ → Prop) : Prop := ∀ n s, P s → P (r n s).2

/-- `bytes.Reader` over the bytes that are left. -/
def bytesRead : Reader Bytes κ := fun n b =>
  if b = [] then (⟨[], some (.std .eof)⟩, b) else (⟨b.take n, none⟩, b.drop n)

/-- A `bytes.Reader` is at its end, or it delivers the next bytes. -/
theorem bytesRead_cases (n : Nat) (b : Bytes) :
    (b = [] ∧ bytesRead (κ := κ) n b = (⟨[], some (.std .eof)⟩, [])) ∨
    (b ≠ [] ∧ bytesRead (κ := κ) n b = (⟨b.take n, none⟩, b.drop n)) := by
  unfold bytesRead
  by_cases hb : b = []
  · grind
  · rw [if_neg hb]
    exact .inr ⟨hb, rfl⟩

/-- A `bytes.Reader` delivers its bytes. -/
theorem delivers_bytesRead : Delivers (bytesRead (κ := κ)) id where
  split n b := by grind [bytesRead_cases, List.take_append_drop]
  le n b := by
    rcases bytesRead_cases (κ := κ) n b with ⟨-, h⟩ | ⟨-, h⟩ <;> rw [h]
    · exact Nat.zero_le _
    · exact List.length_take_le _ _
  eof n b he := by grind [bytesRead_cases]

/-- `ReadFrom` of a `bytes.Buffer` or of `io.Discard`: read into `room n` bytes of space, where
    `n` bytes were read before, until an error; `io.EOF` ends it without an error.  Returns all
    bytes read. -/
def copyAll [DecidableEq κ] (r : Reader σ κ) (room : Nat → Nat) (fuel : Nat) :
    Prog σ ε (Bytes × Option (GoError κ Empty)) :=
  loop (fun acc => do
    let c ← act (r (room acc.length))
    match c.err with
    | none => pure (.next (acc ++ c.data))
    | some e => pure (.done (acc ++ c.data, if e = .std .eof then none else some e))) fuel []

/-- The buffer of `io.Discard`. -/
def discardRoom : Nat → Nat := fun _ => 8192

/-- **Copies.**  `I n acc s` holds before every read, after `acc` was read and with `n` reads
    allowed; the read that ends with an error establishes `J`. -/
theorem copyAll_sat [DecidableEq κ] {r : Reader σ κ} {room : Nat → Nat} {fuel : Nat} {s : σ}
    {E : ε → σ → Prop} {F : Prop} (I : Nat → Bytes → σ → Prop)
    {J : Bytes × Option (GoError κ Empty) → σ → Prop} (hzero : ∀ acc s, I 0 acc s → F)
    (hnext : ∀ n acc s, I (n + 1) acc s → (r (room acc.length) s).1.err = none →
      I n (acc ++ (r (room acc.length) s).1.data) (r (room acc.length) s).2)
    (hdone : ∀ n acc s e, I (n + 1) acc s → (r (room acc.length) s).1.err = some e →
      J (acc ++ (r (room acc.length) s).1.data, if e = .std .eof then none else some e)
        (r (room acc.length) s).2)
    (h : I fuel [] s) : Sat (copyAll r room fuel : Prog σ ε _) s J E F := by
  refine sat_loop I hzero (fun n acc s hI => ?_) h
  refine sat_bindAct ?_
  cases herr : (r (room acc.length) s).1.err with
  | none => exact sat_pure.mpr (hnext n acc s hI herr)
  | some e => exact sat_pure.mpr (hdone n acc s e hI herr)

/-- A copy keeps what every read keeps. -/
theorem Keeps.copyAll [DecidableEq κ] {r : Reader σ κ} {P : σ → Prop} (hr : Keeps r P)
    (room : Nat → Nat) {fuel : Nat} {s : σ} (h : P s) :
    Sat (Booty.Lib.copyAll r room fuel : Prog σ ε _) s (fun _ s' => P s') (fun _ _ => False) True :=
  copyAll_sat (fun _ _ s' => P s') (fun _ _ _ => trivial) (fun _ _ s' h _ => hr _ s' h)
    (fun _ _ s' _ h _ => hr _ s' h) h

end Booty.Lib
