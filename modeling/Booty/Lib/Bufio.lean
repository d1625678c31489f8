import Booty.Lib.Stream

namespace Booty.Lib

/-!
# Go's `bufio.Reader` and decoders behind it

A layer over an `io.Reader` adds its own state to that of the reader below: `bufio.Reader` a
buffer of unread bytes and a pending error, a decoder whatever it needs.  A decoder is any program
that asks its source for bytes and answers a `Read`; which bytes it asks for may depend on all
answers before, and it may stop wherever it likes.

* `bufRead_keeps`, `peek_keeps`, `Decoder.run_keeps` — a layer touches the state below only
  through reads, so it keeps every property that reads keep;
* `Decoder.read` — a decoder as an `io.Reader`.
-/

variable {σ κ : Type}

/-! ### Buffers -/

/-- A `bufio.Reader`: the unread bytes and the pending error. -/
structure Buffer (κ : Type) where
  data : Bytes := []
  err : Option (GoError κ Empty) := none

/-- `fill`, with the number of empty reads that are still tolerated. -/
def fill (r : Reader σ κ) (size : Nat) : Nat → σ × Buffer κ → σ × Buffer κ
  | 0, (s, b) => (s, { b with err := some (.std .noProgress) })
  | i + 1, (s, b) =>
    let res := r (size - b.data.length) s
    let data := b.data ++ res.1.data
    match res.1.err with
    | some e => (res.2, ⟨data, some e⟩)
    | none =>
      if res.1.data = [] then fill r size i (res.2, b)
      else (res.2, { b with data := data })

/-- The number of empty reads that is too large. -/
def maxConsecutiveEmptyReads : Nat := 100

/-- The loop of `Peek(n)`; every round adds a byte or an error. -/
def peekLoop (r : Reader σ κ) (size n : Nat) : Nat → σ × Buffer κ → σ × Buffer κ
  | 0, s => s
  | k + 1, s =>
    if s.2.data.length < n ∧ s.2.data.length < size ∧ s.2.err.isNone then
      peekLoop r size n k (fill r size maxConsecutiveEmptyReads s)
    else s

variable (r : Reader σ κ) (size : Nat)

/-- `Peek(n)`: the next bytes, without advancing; a pending error is reported once. -/
def peek (size n : Nat) (s : σ × Buffer κ) : Chunk κ × (σ × Buffer κ) :=
  let s := peekLoop r size n n s
  if s.2.data.length < n then
    (⟨s.2.data, some (s.2.err.getD (.new "bufio: buffer full"))⟩, (s.1, { s.2 with err := none }))
  else (⟨s.2.data.take n, none⟩, s)

/-- `Read`: at most one read of the source, past the buffer when the request is large. -/
def bufRead : Reader (σ × Buffer κ) κ := fun n s =>
  let b := s.2
  if n = 0 then
    if b.data = [] then (⟨[], b.err⟩, (s.1, { b with err := none })) else (⟨[], none⟩, s)
  else if b.data ≠ [] then
    (⟨b.data.take n, none⟩, (s.1, { b with data := b.data.drop n }))
  else
    match b.err with
    | some e => (⟨[], some e⟩, (s.1, { b with err := none }))
    | none =>
      if size ≤ n then
        let res := r n s.1
        (res.1, (res.2, b))
      else
        let res := r size s.1
        if res.1.data = [] then (⟨[], res.1.err⟩, (res.2, b))
        else (⟨res.1.data.take n, none⟩, (res.2, ⟨res.1.data.drop n, res.1.err⟩))

/-- The loop of `ReadByte`: fill an empty buffer, unless an error is pending. -/
def fillEmpty (s : σ × Buffer κ) : σ × Buffer κ :=
  if s.2.data = [] ∧ s.2.err.isNone then fill r size maxConsecutiveEmptyReads s else s

/-- `ReadByte`. -/
def readByte (s : σ × Buffer κ) : Chunk κ × (σ × Buffer κ) :=
  let s := fillEmpty r size s
  if s.2.data = [] then (⟨[], s.2.err⟩, (s.1, { s.2 with err := none }))
  else (⟨s.2.data.take 1, none⟩, (s.1, { s.2 with data := s.2.data.drop 1 }))

section

variable {r : Reader σ κ} {P : σ → Prop} (hr : Keeps r P) (size : Nat)

include hr

theorem fill_keeps (i : Nat) (s : σ × Buffer κ) (h : P s.1) : P (fill r size i s).1 := by
  induction i generalizing s with
  | zero => exact h
  | succ i ih =>
    have hstep := hr (size - s.2.data.length) s.1 h
    unfold fill
    dsimp only
    split
    · exact hstep
    · grind

theorem peekLoop_keeps (n k : Nat) (s : σ × Buffer κ) (h : P s.1) :
    P (peekLoop r size n k s).1 := by
  induction k generalizing s with
  | zero => exact h
  | succ k ih =>
    unfold peekLoop
    split
    · exact ih _ (fill_keeps hr size _ s h)
    · exact h

theorem peek_keeps (n : Nat) (s : σ × Buffer κ) (h : P s.1) : P (peek r size n s).2.1 := by
  grind [peekLoop_keeps, peek]

theorem bufRead_keeps : Keeps (bufRead r size) (fun s => P s.1) := by
  intro n s h
  have hdirect := hr n s.1 h
  have hsized := hr size s.1 h
  unfold bufRead
  dsimp only
  split
  · split <;> exact h
  · grind

theorem readByte_keeps (s : σ × Buffer κ) (h : P s.1) : P (readByte r size s).2.1 := by
  have hfill : P (fillEmpty r size s).1 := by
    unfold fillEmpty
    split
    · exact fill_keeps hr size _ s h
    · exact h
  unfold readByte
  dsimp only
  split <;> exact hfill

end

/-! ### Decoders -/

/-- What a decoder asks of the `bufio.Reader` below it. -/
inductive Request
  | read (n : Nat)
  | readByte

/-- The source of a decoder: an answer to every request. -/
abbrev Supplier (σ κ : Type) := Request → σ → Chunk κ × σ

/-- A `bufio.Reader` as a source. -/
def bufSupply (r : Reader σ κ) (size : Nat) : Supplier (σ × Buffer κ) κ
  | .read n, s => bufRead r size n s
  | .readByte, s => readByte r size s

/-- A program that asks for bytes and ends with a result. -/
inductive Decoder (κ ρ : Type)
  | done (x : ρ)
  | ask (q : Request) (k : Chunk κ → Decoder κ ρ)

namespace Decoder

variable {ρ δ : Type}

/-- Run a decoder on a source. -/
def run (src : Supplier σ κ) : Decoder κ ρ → σ → ρ × σ
  | .done x, s => (x, s)
  | .ask q k, s => run src (k (src q s).1) (src q s).2

/-- The decoder in state `δ` as an `io.Reader`. -/
def read (src : Supplier σ κ) (dec : δ → Nat → Decoder κ (Chunk κ × δ)) : Reader (σ × δ) κ :=
  fun n s =>
    let res := run src (dec s.2 n) s.1
    (res.1.1, (res.2, res.1.2))

variable {src : Supplier σ κ} {P : σ → Prop}

/-- A decoder touches its source only through requests. -/
theorem run_keeps (hsrc : ∀ q s, P s → P (src q s).2) (d : Decoder κ ρ) (s : σ) (h : P s) :
    P (run src d s).2 := by
  -- Induction on the program; every request keeps the property.
  induction d generalizing s with
  | done x => exact h
  | ask q k ih => exact ih _ _ (hsrc q s h)

theorem read_keeps (hsrc : ∀ q s, P s → P (src q s).2)
    (dec : δ → Nat → Decoder κ (Chunk κ × δ)) : Keeps (read src dec) (fun s => P s.1) :=
  fun n s h => run_keeps hsrc (dec s.2 n) s.1 h

end Decoder

theorem bufSupply_keeps {r : Reader σ κ} {P : σ → Prop} (hr : Keeps r P) (size : Nat)
    (q : Request) (s : σ × Buffer κ) (h : P s.1) : P (bufSupply r size q s).2.1 := by
  cases q with
  | read n => exact bufRead_keeps hr size n s h
  | readByte => exact readByte_keeps hr size s h

end Booty.Lib
