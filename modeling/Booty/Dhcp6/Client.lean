import Booty.Dhcp6.Message
import Booty.Lib.System

namespace Booty.Dhcp6

open Booty.Lib

/-!
# The DHCPv6 client (`pkg/network/dhcp6/client.go`)

The goroutine of a client as a machine of atomic steps, interleaved with `Stop` and with the
clock.  The environment decides the randomness of the timeouts, the transaction ids, what the
transport answers and which ready case a `select` takes.

`exchange` is one part of the program with four callers: `solicit`, `request`, `phase` (RENEW and
REBIND) and `information`.  A `Caller` is the transaction that runs, with its local variables; the
head of its loop is one program point, `Pc.loop`.

Every call of `send` is recorded in `sent` with its time, the timeout that was chosen for it and
the number of its transaction; the numbers are not part of the program.
-/

/-- `params`. -/
structure Params where
  irt : Int
  mrt : Int
  deriving DecidableEq, Repr

/-- The retransmission times of Solicit. -/
def solicitRT : Params := ⟨second, 3600 * second⟩

/-- The retransmission times of Request. -/
def requestRT : Params := ⟨second, 30 * second⟩

/-- The retransmission times of Renew and Rebind. -/
def renewRT : Params := ⟨10 * second, 600 * second⟩

/-- The retransmission times of Information-request. -/
def infoRT : Params := ⟨second, 3600 * second⟩

/-- A random part of a timeout: up to a tenth of it to either side. -/
def FuzzOk (base f : Int) : Prop := -base ≤ 10 * f ∧ 10 * f ≤ base

instance (base f : Int) : Decidable (FuzzOk base f) := inferInstanceAs (Decidable (_ ∧ _))

/-- `next` with its random parts; `none` when they are out of range. -/
def next (p : Params) (prev f g : Int) : Option Int :=
  if prev = 0 then
    -- The first SOLICIT timeout is strictly greater than IRT.
    if FuzzOk p.irt f ∧ (p = solicitRT → p.irt ≤ 100 * f) then some (p.irt + f) else none
  else if ¬FuzzOk prev f then none
  else if 2 * prev + f ≤ p.mrt then some (2 * prev + f)
  else if FuzzOk p.mrt g then some (p.mrt + g)
  else none

/-- The two uses of `phase`. -/
inductive Extension
  | renew
  | rebind
  deriving DecidableEq, Repr

/-- The time until which a phase sends. -/
def Extension.until (k : Extension) (l : Lease) : Option Int :=
  match k with
  | .renew => l.rebind
  | .rebind => l.expire

/-- The time left; an unset time has passed. -/
def timeLeft (t : Option Int) (now : Int) : Int := (t.map (· - now)).getD (-1)

/-- The local variables that every transaction has: its id, its start and the last timeout. -/
structure Locals where
  xid : Nat
  start : Int
  rt : Int := 0
  deriving DecidableEq, Repr

/-- The transactions, with their local variables.  A `request` after NoBinding keeps the current
    lease, until whose expiry it may send. -/
inductive Caller
  | solicit (v : Locals) (n : Nat) (best : Option Reply) (bound : Option Lease)
  | request (v : Locals) (n : Nat) (adv : Lease) (current : Option Lease)
  | phase (v : Locals) (kind : Extension) (l : Lease)
  | information (v : Locals)
  deriving DecidableEq, Repr

/-- The variables of the caller. -/
def Caller.locals : Caller → Locals
  | .solicit v _ _ _ | .request v _ _ _ | .phase v _ _ | .information v => v

/-- A transaction that is about to start. -/
inductive Task
  | solicit
  | request (adv : Lease) (current : Option Lease)
  | phase (kind : Extension) (l : Lease)
  | information
  deriving DecidableEq, Repr

/-- The first round of a transaction. -/
def Task.caller (t : Task) (v : Locals) : Caller :=
  match t with
  | .solicit => .solicit v 1 none none
  | .request adv current => .request v 0 adv current
  | .phase kind l => .phase v kind l
  | .information => .information v

/-- What `transport.receive` returns: a datagram, `errTimeout` or another error. -/
inductive Received
  | packet (d : Datagram)
  | timeout
  | failed
  deriving DecidableEq, Repr

/-- How `exchange` ends: `take` was content with a reply, or an error. -/
inductive Result
  | taken (r : Reply)
  | timeout
  | stopped
  deriving DecidableEq, Repr

/-- The fields of a message that depend on the transaction. -/
structure Message where
  typ : MessageType
  xid : Nat
  server : Option Bytes := none
  addr : Option Ip := none
  elapsed : Int
  deriving DecidableEq, Repr

/-- A call of `send`. -/
structure Transmission where
  txn : Nat
  time : Int
  rt : Int
  msg : Message
  deriving DecidableEq, Repr

/-- The program counter of the client. -/
inductive Pc
  /-- `run` has returned. -/
  | done
  /-- `for !c.stopped()`, and the choice of the next transaction. -/
  | top
  | choose
  /-- The `select` of `extend` until T1. -/
  | extendWait (l : Lease) (timer : Int)
  /-- The start of a transaction. -/
  | begin (t : Task)
  /-- The head of the loop of a transaction. -/
  | loop (c : Caller)
  /-- `exchange`: `open`, and its section under the mutex. -/
  | openTr (c : Caller)
  | openCheck (c : Caller)
  | send (c : Caller)
  /-- A round of the receive loop, `tr.receive(left)`, and what follows it. -/
  | recvTop (c : Caller) (deadline : Int)
  | receive (c : Caller) (deadline left : Int)
  | received (c : Caller) (deadline left : Int) (res : Received)
  | pause (c : Caller) (timer : Int)
  /-- The return to the transaction. -/
  | resume (c : Caller) (res : Result)
  /-- The return from `phase` to `extend`; `again` when a REBIND follows. -/
  | phaseEnd (l : Lease) (again : Bool)
  | bind (l : Lease)
  | expire (l : Lease)
  /-- `information` has its reply, and waits to refresh it. -/
  | infoBound (l : Lease)
  | infoWait (timer : Int)
  | endTransaction

/-- The callbacks. -/
inductive Event
  | onBound (l : Lease)
  | onExpire (l : Lease)
  deriving DecidableEq, Repr

/-- The state of the client and of the clock. -/
structure State where
  pc : Pc := .top
  now : Int := 0
  /-- The channel `stop` is closed. -/
  stop : Bool := false
  /-- `c.tr`, and whether it was closed. -/
  tr : Option Bool := none
  lease : Option Lease := none
  events : List Event := []
  /-- The number of the transaction. -/
  txn : Nat := 0
  sent : List Transmission := []

/-- What the client is configured with. -/
structure Config where
  duid : Bytes
  iaid : UInt32
  stateful : Bool

/-- What the environment decides in a step of the client. -/
inductive Choice
  | go
  | xid (x : Nat)
  | fuzz (f g : Int)
  | ok
  | fail
  | receive (r : Received)
  | stop
  | timer

/-- The actions of a run. -/
inductive Act
  | client (ch : Choice)
  | stop
  | tick (d : Nat)

/-! ### The exchange -/

/-- `elapsed`: hundredths of a second, cut. -/
def elapsed (d : Int) : Int := d.tdiv 10000000 * 10000000

/-- The message of a transaction. -/
def Caller.message (c : Caller) (now : Int) : Message :=
  match c with
  | .solicit v _ _ _ => { typ := .solicit, xid := v.xid, elapsed := elapsed (now - v.start) }
  | .request v _ adv _ =>
    { typ := .request, xid := v.xid, server := some adv.serverID, addr := adv.addr
      elapsed := elapsed (now - v.start) }
  | .phase v .renew l =>
    { typ := .renew, xid := v.xid, server := some l.serverID, addr := l.addr
      elapsed := elapsed (now - v.start) }
  | .phase v .rebind l =>
    { typ := .rebind, xid := v.xid, addr := l.addr, elapsed := elapsed (now - v.start) }
  | .information v =>
    { typ := .informationRequest, xid := v.xid, elapsed := elapsed (now - v.start) }

/-- The message types that a transaction takes. -/
def Caller.types : Caller → List MessageType
  | .solicit _ _ _ _ => [.advertise, .reply]
  | _ => [.reply]

/-- The replies that `exchange` passes to `take`. -/
def wanted (cfg : Config) (c : Caller) (r : Reply) : Bool :=
  r.xid = c.locals.xid && r.clientID = cfg.duid && c.types.contains r.typ

/-- `take`: what a transaction keeps of a reply, and whether the reply ends the exchange.
    `exchangeOne` ends with the first. -/
def Caller.take (c : Caller) (r : Reply) : Caller × Bool :=
  match c with
  | .solicit v n best bound =>
    if r.typ = .reply ∧ r.rapidCommit = true ∧ r.hasAddr = true then
      (.solicit v n best (some r.lease), true)
    else if r.typ = .advertise ∧ r.hasAddr = true then
      let best := match best with
        | none => some r
        | some b => if b.pref < r.pref then some r else some b
      (.solicit v n best bound, r.pref = 255 || 1 < n)
    else (.solicit v n best bound, false)
  | c => (c, true)

/-- The answers that a receive can give: a closed transport fails, and a timeout comes when the
    time is over. -/
def Received.possible (s : State) (deadline : Int) : Received → Bool
  | .failed => true
  | .timeout => s.tr ≠ some true && deadline ≤ s.now
  | .packet _ => s.tr ≠ some true

/-- What `exchange` does after a receive. -/
def receivedStep (cfg : Config) (s : State) (c : Caller) (deadline left : Int) : Received → State
  | .timeout => { s with pc := .resume c .timeout }
  | .failed => { s with tr := none, pc := .pause c (s.now + left) }
  | .packet d =>
    match decode d cfg.iaid s.now with
    | .error _ => { s with pc := .recvTop c deadline }
    | .ok r =>
      if wanted cfg c r then
        if (c.take r).2 then { s with pc := .resume (c.take r).1 (.taken r) }
        else { s with pc := .recvTop (c.take r).1 deadline }
      else { s with pc := .recvTop c deadline }

/-! ### The transactions -/

/-- `request` returns false: to `solicit`, or to the phase of the current lease. -/
def requestFailed : Option Lease → Pc
  | none => .endTransaction
  | some l => .phaseEnd l false

/-- The head of the loop of a transaction: it ends, or it chooses its next timeout. -/
def loopPc (s : State) (c : Caller) (f g : Int) : Option Pc :=
  match c with
  | .solicit v n best _ =>
    if s.stop then some .endTransaction
    else (next solicitRT v.rt f g).map fun rt => .openTr (.solicit { v with rt := rt } n best none)
  | .request v n adv current =>
    if 10 ≤ n ∨ s.stop = true then some (requestFailed current)
    else
      (next requestRT v.rt f g).map fun rt =>
        match current.bind (·.expire) with
        | none => .openTr (.request { v with rt := rt } n adv current)
        | some t =>
          if t - s.now ≤ 0 then requestFailed current
          else .openTr (.request { v with rt := min rt (t - s.now) } n adv current)
  | .phase v k l =>
    let left := timeLeft (k.until l) s.now
    if s.stop = true ∨ left ≤ 0 then some (.phaseEnd l (k = .renew))
    else (next renewRT v.rt f g).map fun rt => .openTr (.phase { v with rt := min rt left } k l)
  | .information v =>
    if s.stop then some .endTransaction
    else (next infoRT v.rt f g).map fun rt => .openTr (.information { v with rt := rt })

/-- What a transaction does with the result of an exchange. -/
def resumePc (s : State) (c : Caller) (res : Result) : Pc :=
  match c, res with
  | .solicit v n best bound, _ =>
    if s.stop then .endTransaction
    else
      match bound, best with
      | some l, _ => .bind l
      | none, some b => .begin (.request b.lease none)
      | none, none => .loop (.solicit v (n + 1) none none)
  | .request v n adv current, .taken r =>
    if r.iaStatus = statusNoBinding then requestFailed current
    else if r.hasAddr then .bind r.lease
    else .loop (.request v (n + 1) adv current)
  | .request v n adv current, _ => .loop (.request v (n + 1) adv current)
  | .phase v k l, .taken r =>
    if r.iaStatus = statusNoBinding then
      .begin (.request { l with serverID := r.lease.serverID } (some l))
    else if r.hasAddr then .bind r.lease
    else .loop (.phase v k l)
  | .phase v k l, _ => .loop (.phase v k l)
  | .information _, .taken r => .infoBound r.lease
  | .information v, _ => .loop (.information v)

/-- `infoRefresh`. -/
def infoRefresh (v : Int) : Int := if v = 0 then 86400 * second else max v (600 * second)

/-! ### The client -/

/-- A call of `send`. -/
def transmit (s : State) (c : Caller) : State :=
  { s with sent := s.sent ++ [⟨s.txn, s.now, c.locals.rt, c.message s.now⟩] }

/-- One atomic step of the client with the choice of the environment; `none` when the step is not
    possible. -/
def clientStep (cfg : Config) (s : State) (ch : Choice) : Option State :=
  match s.pc, ch with
  | .top, .go => some { s with pc := if s.stop then .done else .choose }
  | .choose, .go =>
    if cfg.stateful then
      match s.lease with
      | none => some { s with pc := .begin .solicit }
      -- `c.after` fires at once for a time that has passed.
      | some l => some { s with pc := .extendWait l (max s.now (l.renew.getD s.now)) }
    else some { s with pc := .begin .information }
  | .extendWait _ _, .stop => if s.stop then some { s with pc := .endTransaction } else none
  | .extendWait l timer, .timer =>
    if timer ≤ s.now then some { s with pc := .begin (.phase .renew l) } else none
  | .begin t, .xid x =>
    if x < 2 ^ 24 then
      some { s with txn := s.txn + 1, pc := .loop (t.caller { xid := x, start := s.now }) }
    else none
  | .loop c, .fuzz f g => (loopPc s c f g).map fun pc => { s with pc := pc }
  | .openTr c, .go => if s.tr.isSome then some { s with pc := .send c } else none
  | .openTr c, .ok => if s.tr.isSome then none else some { s with pc := .openCheck c }
  | .openTr c, .fail =>
    if s.tr.isSome then none else some { s with pc := .pause c (s.now + c.locals.rt) }
  | .openCheck c, .go =>
    if s.stop then some { s with pc := .pause c (s.now + c.locals.rt) }
    else some { s with tr := some false, pc := .send c }
  | .send c, .ok => some { transmit s c with pc := .recvTop c (s.now + c.locals.rt) }
  | .send c, .fail => some { transmit s c with tr := none, pc := .pause c (s.now + c.locals.rt) }
  | .recvTop c deadline, .go =>
    let left := deadline - s.now
    if left ≤ 0 then some { s with pc := .resume c .timeout }
    else some { s with pc := .receive c deadline left }
  | .receive c deadline left, .receive res =>
    if res.possible s deadline then some { s with pc := .received c deadline left res } else none
  | .received c deadline left res, .go =>
    if s.stop then some { s with pc := .resume c .stopped }
    else some (receivedStep cfg s c deadline left res)
  | .pause c _, .stop => if s.stop then some { s with pc := .resume c .stopped } else none
  | .pause c timer, .timer =>
    if timer ≤ s.now then some { s with pc := .resume c .timeout } else none
  | .resume c res, .go => some { s with pc := resumePc s c res }
  | .phaseEnd l again, .go =>
    some { s with
      pc := if s.stop then .endTransaction
        else if again then .begin (.phase .rebind l) else .expire l }
  | .bind l, .go =>
    some { s with lease := some l, events := s.events ++ [.onBound l], pc := .endTransaction }
  | .expire l, .go =>
    some { s with lease := none, events := s.events ++ [.onExpire l], pc := .endTransaction }
  | .infoBound l, .go =>
    some { s with
      tr := none
      events := s.events ++ [.onBound l]
      pc := .infoWait (s.now + infoRefresh l.infoRefresh) }
  | .infoWait _, .stop => if s.stop then some { s with pc := .endTransaction } else none
  | .infoWait timer, .timer =>
    if timer ≤ s.now then some { s with pc := .endTransaction } else none
  | .endTransaction, .go => some { s with tr := none, pc := .top }
  | _, _ => none

/-! ### The moves of the client -/

/-- The moves of the client, one for each way in which a step can go; `m : Move cfg s ch s'` names
    the step that leads from `s` to `s'` with the choice `ch`. -/
inductive Move (cfg : Config) (s : State) : Choice → State → Prop
  | exit : s.pc = .top → s.stop = true → Move cfg s .go { s with pc := .done }
  | run : s.pc = .top → s.stop = false → Move cfg s .go { s with pc := .choose }
  | chooseSolicit : s.pc = .choose → cfg.stateful = true → s.lease = none →
      Move cfg s .go { s with pc := .begin .solicit }
  | chooseExtend {l} : s.pc = .choose → cfg.stateful = true → s.lease = some l →
      Move cfg s .go { s with pc := .extendWait l (max s.now (l.renew.getD s.now)) }
  | chooseInformation : s.pc = .choose → cfg.stateful = false →
      Move cfg s .go { s with pc := .begin .information }
  | extendStop {l t} : s.pc = .extendWait l t → s.stop = true →
      Move cfg s .stop { s with pc := .endTransaction }
  | extendTimer {l t} : s.pc = .extendWait l t → t ≤ s.now →
      Move cfg s .timer { s with pc := .begin (.phase .renew l) }
  | begin {t x} : s.pc = .begin t → x < 2 ^ 24 →
      Move cfg s (.xid x)
        { s with txn := s.txn + 1, pc := .loop (t.caller { xid := x, start := s.now }) }
  | loop {c f g pc} : s.pc = .loop c → loopPc s c f g = some pc →
      Move cfg s (.fuzz f g) { s with pc := pc }
  | reuse {c} : s.pc = .openTr c → s.tr.isSome = true → Move cfg s .go { s with pc := .send c }
  | transport {c} : s.pc = .openTr c → ¬s.tr.isSome = true →
      Move cfg s .ok { s with pc := .openCheck c }
  | transportFail {c} : s.pc = .openTr c → ¬s.tr.isSome = true →
      Move cfg s .fail { s with pc := .pause c (s.now + c.locals.rt) }
  | openStopped {c} : s.pc = .openCheck c → s.stop = true →
      Move cfg s .go { s with pc := .pause c (s.now + c.locals.rt) }
  | opened {c} : s.pc = .openCheck c → s.stop = false →
      Move cfg s .go { s with tr := some false, pc := .send c }
  | sent {c} : s.pc = .send c →
      Move cfg s .ok { transmit s c with pc := .recvTop c (s.now + c.locals.rt) }
  | sendFail {c} : s.pc = .send c →
      Move cfg s .fail { transmit s c with tr := none, pc := .pause c (s.now + c.locals.rt) }
  | recvOver {c d} : s.pc = .recvTop c d → d - s.now ≤ 0 →
      Move cfg s .go { s with pc := .resume c .timeout }
  | recvRound {c d} : s.pc = .recvTop c d → 0 < d - s.now →
      Move cfg s .go { s with pc := .receive c d (d - s.now) }
  | received {c d left res} : s.pc = .receive c d left → res.possible s d = true →
      Move cfg s (.receive res) { s with pc := .received c d left res }
  | recvStopped {c d left res} : s.pc = .received c d left res → s.stop = true →
      Move cfg s .go { s with pc := .resume c .stopped }
  | recvHandled {c d left res} : s.pc = .received c d left res → s.stop = false →
      Move cfg s .go (receivedStep cfg s c d left res)
  | pauseStop {c t} : s.pc = .pause c t → s.stop = true →
      Move cfg s .stop { s with pc := .resume c .stopped }
  | pauseTimer {c t} : s.pc = .pause c t → t ≤ s.now →
      Move cfg s .timer { s with pc := .resume c .timeout }
  | resume {c res} : s.pc = .resume c res → Move cfg s .go { s with pc := resumePc s c res }
  | phaseEnd {l again} : s.pc = .phaseEnd l again →
      Move cfg s .go { s with
        pc := if s.stop then .endTransaction
          else if again then .begin (.phase .rebind l) else .expire l }
  | bind {l} : s.pc = .bind l →
      Move cfg s .go
        { s with lease := some l, events := s.events ++ [.onBound l], pc := .endTransaction }
  | expire {l} : s.pc = .expire l →
      Move cfg s .go
        { s with lease := none, events := s.events ++ [.onExpire l], pc := .endTransaction }
  | infoBound {l} : s.pc = .infoBound l →
      Move cfg s .go { s with
        tr := none
        events := s.events ++ [.onBound l]
        pc := .infoWait (s.now + infoRefresh l.infoRefresh) }
  | infoStop {t} : s.pc = .infoWait t → s.stop = true →
      Move cfg s .stop { s with pc := .endTransaction }
  | infoTimer {t} : s.pc = .infoWait t → t ≤ s.now →
      Move cfg s .timer { s with pc := .endTransaction }
  | endTransaction : s.pc = .endTransaction → Move cfg s .go { s with tr := none, pc := .top }

/-- **Inversion.**  Every step of the client is one of its moves. -/
theorem clientStep_move {cfg : Config} {s s' : State} {ch : Choice}
    (h : clientStep cfg s ch = some s') : Move cfg s ch s' := by
  unfold clientStep at h
  split at h <;> rename_i hpc
  all_goals try dsimp only at h
  -- The next state names the move, but for these four.
  all_goals first
    | cases h; exact .phaseEnd hpc
    | obtain ⟨pc, hloop, rfl⟩ := Option.map_eq_some_iff.mp h; exact .loop hpc hloop
    | repeat' split at h
  all_goals cases h
  all_goals first
    | exact .sendFail hpc
    | exact .infoStop hpc ‹_›
    | constructor <;> first | assumption | simp_all

/-! ### `Stop` and the clock -/

/-- One step of the system. -/
def step (cfg : Config) (s : State) : Act → Option State
  | .client ch => clientStep cfg s ch
  | .stop =>
    if s.stop then some s else some { s with stop := true, tr := s.tr.map (fun _ => true) }
  | .tick d => some { s with now := s.now + d }

/-- A started client (`Start`). -/
def machine (cfg : Config) : Machine State Act where
  start := {}
  step := step cfg

end Booty.Dhcp6
