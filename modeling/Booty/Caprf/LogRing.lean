import Booty.Lib.Outcome
import Booty.Lib.System

namespace Booty.Caprf

open Booty.Lib

/-!
# The log ring and its sender

`LogRing` is the bounded queue between the log handler and the goroutine that ships the lines.  When
it is full, the oldest line of the lowest rank makes room.  `logMachine` runs it: handlers push, the
sender pops a line, ships it or counts it as dropped, and the handler is closed at some point.
Every call holds the ring's mutex, so a run is a sequence of calls.

* `LogRing.push`, `pop`, `drop`, `close` — the calls.
* `LogAct`, `logMachine` — the runs, with the history of every line.
-/

/-- `levelRank`: 0 DEBUG, 1 INFO, 2 WARN, 3 ERROR. -/
def levelRank (level : Int) : Fin 4 :=
  if level < 0 then 0 else if level < 4 then 1 else if level < 8 then 2 else 3

/-- A queued line; `tag` is the number of the push that brought it and is history only. -/
structure RingEntry where
  rank : Fin 4
  line : Bytes
  tag : Nat
deriving DecidableEq, Repr

/-- The queue of log lines, with its bounds and counters. -/
structure LogRing where
  entries : List RingEntry
  bytes : Int
  maxLines : Int
  maxBytes : Int
  closed : Bool
  dropped : Fin 4 → Int

/-- An evicted line, the queue it was taken from and the rank of the line it made room for. -/
structure Eviction where
  queue : List RingEntry
  index : Nat
  victim : RingEntry
  rank : Fin 4

namespace LogRing

/-- `newLogRing`. -/
def new (maxLines maxBytes : Int) : LogRing :=
  ⟨[], 0, max maxLines 1, max maxBytes 1, false, fun _ => 0⟩

variable (r : LogRing)

/-- `r.dropped[rank]++`. -/
def count (rank : Fin 4) : LogRing :=
  { r with dropped := Function.update r.dropped rank (r.dropped rank + 1) }

/-- `r.entries[i]`. -/
def entryAt (entries : List RingEntry) (i : Nat) : Outcome Empty RingEntry :=
  match entries[i]? with
  | some e => .ok e
  | none => .fault .outOfRange

/-- The scan of `push` for the oldest entry of the lowest rank; `i` is the index of the rest. -/
def scan (entries : List RingEntry) : Nat → List RingEntry → Nat → Outcome Empty Nat
  | _, [], victim => .ok victim
  | i, e :: rest, victim => do
    let v ← entryAt entries victim
    scan entries (i + 1) rest (if e.rank < v.rank then i else victim)

/-- `slices.Delete(r.entries, i, i+1)` with the byte count. -/
def evict (i : Nat) (e : RingEntry) : LogRing :=
  { r.count e.rank with bytes := r.bytes - e.line.length, entries := r.entries.eraseIdx i }

/-- The eviction loop of `push`: false if the new line is dropped instead. -/
def makeRoom (rank : Fin 4) (line : Bytes) :
    Nat → LogRing → Outcome Empty (LogRing × Bool × List Eviction)
  | 0, _ => .fault .outOfFuel
  | fuel + 1, r =>
    if r.maxLines ≤ r.entries.length ∨ r.maxBytes < r.bytes + line.length then do
      let victim ← scan r.entries 0 r.entries 0
      let e ← entryAt r.entries victim
      if rank < e.rank then .ok (r.count rank, false, [])
      else do
        let (r', queued, evictions) ← makeRoom rank line fuel (r.evict victim e)
        .ok (r', queued, ⟨r.entries, victim, e, rank⟩ :: evictions)
    else .ok (r, true, [])

/-- The line that is queued: cut to the byte bound. -/
def cut (line : Bytes) : Outcome Empty Bytes :=
  if r.maxBytes < line.length then do
    let n ← makeLen r.maxBytes
    let s ← slice line 0 n
    .ok (toValidUTF8 s)
  else .ok line

/-- What a push does: nothing after `close`; else the new ring, the line as an entry, whether it is
    queued, and the evictions. -/
inductive PushResult
  | ignored
  | done (r : LogRing) (e : RingEntry) (queued : Bool) (evictions : List Eviction)

/-- `push`. -/
def push (rank : Fin 4) (line : Bytes) (tag : Nat) : Outcome Empty PushResult := do
  let line ← r.cut line
  if r.closed then .ok .ignored
  else do
    let (r', queued, evictions) ← makeRoom rank line (r.entries.length + 1) r
    let e : RingEntry := ⟨rank, line, tag⟩
    if queued then
      .ok (.done { r' with entries := r'.entries ++ [e], bytes := r'.bytes + line.length } e true
        evictions)
    else .ok (.done r' e false evictions)

/-- `pop` of a ring that has an entry. -/
def pop : Option (RingEntry × LogRing) :=
  match r.entries with
  | [] => none
  | e :: rest => some (e, { r with entries := rest, bytes := r.bytes - e.line.length })

/-- `drop`. -/
def drop (rank : Fin 4) : LogRing := r.count rank

/-- `close`. -/
def close : LogRing := { r with closed := true }

end LogRing

/-! ### Runs -/

/-- Where the sender is: before `pop`, shipping a line, shipping a drop summary (the last one at the
    end of the flush), or done. -/
inductive Sender
  | idle
  | inFlight (e : RingEntry)
  | summary (now : Fin 4 → Int) (last : Bool)
  | ended

/-- The ring, its sender and the history: the lines that were pushed before `close`, in the order of
    the pushes, those that left the ring by `pop`, those that arrived and those that were lost. -/
structure LogState where
  ring : LogRing
  sender : Sender
  canceled : Bool
  reported : Fin 4 → Int
  pushed : List RingEntry
  popped : List RingEntry
  shipped : List RingEntry
  lost : List RingEntry
  evictions : List Eviction

/-- A line that the sender is shipping. -/
def Sender.line : Sender → List RingEntry
  | .inFlight e => [e]
  | _ => []

/-- What can happen: a handler pushes a line, the sender's next step, the result of its POST,
    `Close` and the end of the flush timeout. -/
inductive LogAct
  | push (rank : Fin 4) (line : Bytes)
  | pop
  | result (arrived : Bool)
  | close
  | cancel
  | stop

namespace LogState

/-- `shipDropSummary` up to its POST. -/
def shipDropSummary (s : LogState) (last : Bool) : LogState :=
  if (∀ k, s.ring.dropped k = s.reported k) ∨ s.canceled then
    { s with sender := if last then .ended else .idle }
  else { s with sender := .summary s.ring.dropped last }

/-- What a push leaves. -/
def afterPush (s : LogState) : LogRing.PushResult → LogState
  | .ignored => s
  | .done r e queued evictions =>
    { s with
      ring := r
      pushed := s.pushed ++ [e]
      lost := s.lost ++ evictions.map Eviction.victim ++ if queued then [] else [e]
      evictions := s.evictions ++ evictions }

/-- The sender's step before `pop`; it waits while the ring is empty and open. -/
def popStep (s : LogState) : Option LogState :=
  match s.ring.pop with
  | some (e, r) => some { s with ring := r, sender := .inFlight e, popped := s.popped ++ [e] }
  | none => if s.ring.closed then some (s.shipDropSummary true) else none

/-- The result of a POST. -/
def resultStep (s : LogState) (arrived : Bool) : Option LogState :=
  match s.sender with
  | .inFlight e =>
    if arrived then some ({ s with shipped := s.shipped ++ [e] }.shipDropSummary false)
    else some { s with ring := s.ring.drop e.rank, lost := s.lost ++ [e], sender := .idle }
  | .summary now last =>
    some { s with
      reported := if arrived then now else s.reported
      sender := if last then .ended else .idle }
  | _ => none

/-- One step; a push that panics leaves no state. -/
def step (s : LogState) : LogAct → Option LogState
  | .push rank line =>
    match s.ring.push rank line s.pushed.length with
    | .ok res => some (s.afterPush res)
    | _ => none
  | .pop =>
    match s.sender with
    | .idle => s.popStep
    | _ => none
  | .result arrived => s.resultStep arrived
  | .close => some { s with ring := s.ring.close }
  | .cancel => some { s with canceled := true }
  | .stop =>
    match s.sender with
    | .idle => if s.canceled then some { s with sender := .ended } else none
    | _ => none

end LogState

/-- The runs of a ring with its sender. -/
def logMachine (maxLines maxBytes : Int) : Machine LogState LogAct where
  start := ⟨.new maxLines maxBytes, .idle, false, fun _ => 0, [], [], [], [], []⟩
  step := LogState.step

/-- A ring for two lines: the third line evicts the DEBUG line, the first POST fails, a line is cut
    to the byte bound and evicts again, and a line after `close` is ignored. -/
def fullRingRun : List LogAct :=
  [.push 3 [0x61], .push 0 [0x62], .push 1 [0x63, 0x64], .pop, .result false,
    .push 2 [0x65, 0x66, 0x67, 0x68, 0x69], .close, .push 3 [0x6a]]

end Booty.Caprf
