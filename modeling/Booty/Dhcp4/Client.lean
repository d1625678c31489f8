import Booty.Dhcp4.Lease
import Booty.Lib.System

namespace Booty.Dhcp4

open Booty.Lib

/-!
# The DHCPv4 client (`pkg/network/dhcp4/client.go`)

The goroutine of a client as a machine of atomic steps, interleaved with any number of `Reboot`
calls, with `Stop` and with the clock.  A step is a load, swap or store of the flag `rebootReq`, a
send to or a receive from the channel `reboot`, one section under the mutex, or one call of the
transport; what the environment decides (jitter, transaction ids, what the transport answers,
which ready case a `select` takes) is in the action.

`Pc` is the program counter of the goroutine, with the local variables that are still needed.
`exchange` is one part of the program with four callers (`Caller`), to which it returns.  The
mutex is held over several steps only by `Reboot`; every section of the client under it is a
single step that needs the mutex to be free.

The callbacks are recorded in `events`, the messages in `sent`.
-/

/-- The states of RFC 2131 (`state`). -/
inductive ClientState
  | init
  | rebooting
  | bound
  | renewing
  | rebinding
  deriving DecidableEq, Repr

/-- The two uses of `extend`: RENEWING until T2, REBINDING until the lease expires. -/
inductive Extension
  | renew
  | rebind
  deriving DecidableEq, Repr

/-- The callers of `exchange`, with their local variables. -/
inductive Caller
  | discover (xid n : Nat)
  | selecting (xid n : Nat) (offer : Lease)
  | reboot (xid : Nat) (last : Lease)
  | extend (xid : Nat) (kind : Extension) (l : Lease)
  deriving DecidableEq, Repr

/-- The errors of `exchange`; only the first two interrupt a state. -/
inductive ExchangeErr
  | stopped
  | reboot
  | timeout
  deriving DecidableEq, Repr

/-- `interrupted`. -/
def ExchangeErr.interrupted : ExchangeErr → Bool
  | .stopped | .reboot => true
  | .timeout => false

/-- What `transport.receive` returns: a payload, `errTimeout` or another error. -/
inductive Received
  | packet (payload : Option Header)
  | timeout
  | failed
  deriving DecidableEq, Repr

/-- `message`, without the options that do not depend on the lease. -/
structure Message where
  typ : MessageType
  xid : Nat
  secs : Nat
  ciaddr : Option Ip := none
  server : Option Ip := none
  addr : Option Ip := none
  deriving DecidableEq, Repr

/-- The program counter of the client. -/
inductive Pc
  /-- `run` has returned. -/
  | done
  /-- `for !c.stopped()`. -/
  | top (st : ClientState)
  /-- `c.rebootReq.Swap(false)`. -/
  | swap (st : ClientState)
  /-- The flag was set: take its token, if it is there. -/
  | drain
  /-- `switch st`. -/
  | enter (st : ClientState)
  /-- The `n`-th round of `initState`. -/
  | initLoop (xid n : Nat)
  /-- `c.expire()` inside `initState`, before the exchange with this timeout. -/
  | initExpire (xid n : Nat) (timeout : Int)
  /-- The `n`-th round of `selecting`. -/
  | selectLoop (xid n : Nat) (offer : Lease)
  /-- The only round of `rebootState`. -/
  | rebootLoop (xid : Nat) (last : Lease)
  /-- The `select` of `boundState`, with the time of its timer. -/
  | boundSelect (timer : Option Int)
  /-- A round of `extend`. -/
  | extendLoop (xid : Nat) (kind : Extension) (l : Lease)
  /-- `return c.expire()`. -/
  | expire
  /-- `open`: `c.newTransport`, then the section under the mutex. -/
  | newTransport (c : Caller) (timeout : Int)
  | openCheck (c : Caller) (timeout : Int)
  /-- `send(tr, m)`. -/
  | send (c : Caller) (timeout : Int)
  /-- A round of the receive loop, `tr.receive(left)`, and the two checks after it. -/
  | recvTop (c : Caller) (deadline : Int)
  | receive (c : Caller) (deadline : Int) (left : Int)
  | recvStop (c : Caller) (deadline : Int) (left : Int) (res : Received)
  | recvFlag (c : Caller) (deadline : Int) (left : Int) (res : Received)
  /-- `pause`: the load of the flag and the `select`, with the time of its timer. -/
  | pauseLoad (c : Caller) (timer : Int)
  | pauseSelect (c : Caller) (timer : Int)
  /-- The deferred `closeTransport`, then the return to the caller. -/
  | closeTr (c : Caller) (res : Except ExchangeErr Reply)
  | resume (c : Caller) (res : Except ExchangeErr Reply)
  /-- `bind`: the lease and `OnBound`, `c.rebootReq.Store(false)`, the token. -/
  | bind (l : Lease)
  | bindStore
  | bindDrain

/-- How far a `Reboot` call is: it locks the mutex, stores the flag, closes the transport, unlocks
    and sends the token. -/
inductive Phase
  | start
  | locked
  | stored
  | closed
  | unlocked
  | done
  deriving DecidableEq, Repr

/-- The callbacks. -/
inductive Event
  | onBound (l : Lease)
  | onExpire (l : Lease)
  deriving DecidableEq, Repr

/-- The state of the client, of the `Reboot` calls and of the clock. -/
structure State where
  pc : Pc := .top .init
  now : Int := 0
  /-- `rebootReq`. -/
  flag : Bool := false
  /-- A token is in the channel `reboot`. -/
  token : Bool := false
  /-- The channel `stop` is closed. -/
  stop : Bool := false
  /-- A `Reboot` call holds the mutex. -/
  mu : Bool := false
  /-- `c.tr`, and whether it was closed. -/
  tr : Option Bool := none
  calls : List Phase := []
  lease : Option Lease := none
  lastAddr : Option Ip := none
  started : Int := 0
  events : List Event := []
  sent : List Message := []

/-- What the environment decides in a step of the client. -/
inductive Choice
  | go
  | xid (x : Nat)
  | jitter (j : Int)
  | ok
  | fail
  | receive (r : Received)
  | stop
  | token
  | timer

/-- The actions of a run. -/
inductive Act
  | client (ch : Choice)
  | call
  | reboot (i : Nat)
  | stop
  | tick (d : Nat)

/-! ### The client -/

/-- `timeout`: 2, 4, 8, 16, 32, then 64 s, with the jitter. -/
def timeout (n : Nat) (jitter : Int) : Int := 2 ^ (min n 5 + 1) * second + jitter

/-- The range of the jitter: up to a second to either side. -/
def JitterOk (j : Int) : Prop := -second ≤ j ∧ j ≤ second

instance (j : Int) : Decidable (JitterOk j) := inferInstanceAs (Decidable (_ ∧ _))

variable (mac : Bytes) (s : State) (c : Caller)

/-- `leaseLeft`. -/
def leaseLeft : Option Int :=
  match s.lease with
  | none => none
  | some l => l.expire.map (· - s.now)

/-- The section of `expire` under the mutex and the callback. -/
def expireLease : State :=
  match s.lease with
  | none => s
  | some l => { s with
      lease := none
      lastAddr := some l.fixedAddress
      events := s.events ++ [.onExpire l] }

/-- The time until which `extend` sends; an unset time has passed. -/
def Extension.left (k : Extension) (l : Lease) (now : Int) : Int :=
  match k with
  | .renew => (l.rebind.map (· - now)).getD (-1)
  | .rebind => (l.expire.map (· - now)).getD (-1)

/-- `secs`. -/
def secs : Nat := (min (max ((s.now - s.started) / second) 0) 0xffff).toNat

/-- The message of an exchange: `discover` or one of the uses of `request`. -/
def Caller.message (s : State) : Message :=
  match c with
  | .discover xid _ =>
    { typ := .discover, xid := xid, secs := secs s
      addr := (s.lease.map (·.fixedAddress)).or s.lastAddr }
  | .selecting xid _ offer =>
    { typ := .request, xid := xid, secs := secs s, server := offer.serverID
      addr := some offer.fixedAddress }
  | .reboot xid last =>
    { typ := .request, xid := xid, secs := secs s, addr := some last.fixedAddress }
  | .extend xid _ l =>
    { typ := .request, xid := xid, secs := secs s, ciaddr := some l.fixedAddress }

/-- The transaction id of an exchange. -/
def Caller.xid : Caller → Nat
  | .discover xid _ | .selecting xid _ _ | .reboot xid _ | .extend xid _ _ => xid

/-- The server of the offer or the lease. -/
def Caller.server : Caller → Option Ip
  | .discover _ _ => none
  | .selecting _ _ l | .reboot _ l | .extend _ _ l => l.serverID

/-- The message types that answer an exchange. -/
def Caller.types : Caller → List MessageType
  | .discover _ _ => [.offer, .ack]
  | .selecting _ _ _ | .reboot _ _ | .extend _ _ _ => [.ack, .nak]

/-- `wanted`. -/
def wanted (r : Reply) : Bool :=
  if r.xid ≠ c.xid ∨ r.mac ≠ mac ∨ r.typ ∉ c.types then false
  else !(r.typ = .nak && c.server.isSome && r.lease.serverID ≠ c.server)

/-- The return from `exchange`: the deferred `closeTransport` runs when `open` set `c.tr`. -/
def returnPc (res : Except ExchangeErr Reply) : Pc :=
  if s.tr.isSome then .closeTr c res else .resume c res

/-- What a caller does with the result of its exchange. -/
def resumePc (res : Except ExchangeErr Reply) : Pc :=
  match c, res with
  | .discover xid n, .error e => if e.interrupted then .top .init else .initLoop xid (n + 1)
  | .discover xid n, .ok r =>
    if r.typ = .ack ∧ r.rapidCommit then .bind r.lease
    else if r.typ = .offer then .selectLoop xid 0 r.lease
    else .initLoop xid (n + 1)
  | .selecting xid n offer, .error e =>
    if e.interrupted then .top .init else .selectLoop xid (n + 1) offer
  | .selecting _ _ _, .ok r => if r.typ = .ack then .bind r.lease else .top .init
  | .reboot _ _, .error _ => .top .init
  | .reboot _ _, .ok r => if r.typ = .ack then .bind r.lease else .expire
  | .extend xid k l, .error e => if e.interrupted then .top .bound else .extendLoop xid k l
  | .extend _ _ _, .ok r => if r.typ = .ack then .bind r.lease else .expire

/-- What `exchange` does after a receive that nothing interrupted. -/
def receivedPc (deadline : Int) (left : Int) : Received → Pc
  | .timeout => .closeTr c (.error .timeout)
  | .failed => .pauseLoad c (s.now + left)
  | .packet payload =>
    match decodeReply payload s.now with
    | some r => if wanted mac c r then .closeTr c (.ok r) else .recvTop c deadline
    | none => .recvTop c deadline

/-- The answers that a receive can give: a closed transport fails, and a timeout comes when the
    time is over. -/
def Received.possible (deadline : Int) : Received → Bool
  | .failed => true
  | .timeout => s.tr ≠ some true && deadline ≤ s.now
  | .packet _ => s.tr ≠ some true

/-- One atomic step of the client with the choice of the environment; `none` when the step is not
    possible: the mutex is held, the choice does not fit, or the `select` case is not ready. -/
def clientStep (ch : Choice) : Option State :=
  match s.pc, ch with
  | .top st, .go => some { s with pc := if s.stop then .done else .swap st }
  | .swap st, .go => some { s with flag := false, pc := if s.flag then .drain else .enter st }
  | .drain, .go => some { s with token := false, pc := .enter .rebooting }
  | .enter .init, .xid x => some { s with started := s.now, pc := .initLoop x 0 }
  | .enter .rebooting, .xid x =>
    if s.mu then none
    else
      match s.lease with
      | none => some { s with pc := .top .init }
      | some last => some { s with started := s.now, pc := .rebootLoop x last }
  | .enter .bound, .go =>
    if s.mu then none
    else
      -- `c.after` fires at once for a time that has passed.
      let timer := (s.lease.bind (·.renew)).map (max s.now)
      some { s with pc := .boundSelect timer }
  | .enter .renewing, .xid x =>
    if s.mu then none
    else
      match s.lease with
      | none => some { s with pc := .top .init }
      | some l => some { s with started := s.now, pc := .extendLoop x .renew l }
  | .enter .rebinding, .xid x =>
    if s.mu then none
    else
      match s.lease with
      | none => some { s with pc := .top .init }
      | some l => some { s with started := s.now, pc := .extendLoop x .rebind l }
  | .initLoop x n, .jitter j =>
    if s.mu = true ∨ ¬JitterOk j then none
    else
      let t := timeout n j
      match leaseLeft s with
      | none => some { s with pc := .newTransport (.discover x n) t }
      | some left =>
        if left ≤ 0 then some { s with pc := .initExpire x n t }
        else some { s with pc := .newTransport (.discover x n) (min t left) }
  | .initExpire x n t, .go =>
    if s.mu then none else some { expireLease s with pc := .newTransport (.discover x n) t }
  | .selectLoop x n offer, .jitter j =>
    if n < 5 ∧ JitterOk j then
      some { s with pc := .newTransport (.selecting x n offer) (timeout n j) }
    else none
  | .selectLoop _ n _, .go => if n < 5 then none else some { s with pc := .top .init }
  | .rebootLoop x last, .jitter j =>
    if JitterOk j then some { s with pc := .newTransport (.reboot x last) (timeout 0 j) }
    else none
  | .boundSelect _, .stop => if s.stop then some { s with pc := .top .bound } else none
  | .boundSelect _, .token =>
    if s.token then some { s with token := false, pc := .top .bound } else none
  | .boundSelect (some t), .timer =>
    if t ≤ s.now then some { s with pc := .top .renewing } else none
  | .extendLoop x k l, .go =>
    if s.stop then some { s with pc := .top .bound }
    else
      let left := k.left l s.now
      if left ≤ 0 then
        match k with
        | .renew => some { s with pc := .top .rebinding }
        | .rebind => some { s with pc := .expire }
      else
        let wait := min (max (left / 2) (60 * second)) left
        some { s with pc := .newTransport (.extend x k l) wait }
  | .expire, .go => if s.mu then none else some { expireLease s with pc := .top .init }
  | .newTransport c t, .ok => some { s with pc := .openCheck c t }
  | .newTransport c t, .fail => some { s with pc := .pauseLoad c (s.now + t) }
  | .openCheck c t, .go =>
    if s.mu then none
    else if s.stop then some { s with pc := .resume c (.error .stopped) }
    else if s.flag then some { s with pc := .resume c (.error .reboot) }
    else some { s with tr := some false, pc := .send c t }
  | .send c t, .ok =>
    some { s with sent := s.sent ++ [c.message s], pc := .recvTop c (s.now + t) }
  | .send c t, .fail => some { s with pc := .pauseLoad c (s.now + t) }
  | .recvTop c deadline, .go =>
    let left := deadline - s.now
    if left ≤ 0 then some { s with pc := .closeTr c (.error .timeout) }
    else some { s with pc := .receive c deadline left }
  | .receive c deadline left, .receive res =>
    if res.possible s deadline then some { s with pc := .recvStop c deadline left res } else none
  | .recvStop c deadline left res, .go =>
    if s.stop then some { s with pc := .closeTr c (.error .stopped) }
    else some { s with pc := .recvFlag c deadline left res }
  | .recvFlag c deadline left res, .go =>
    if s.flag then some { s with pc := .closeTr c (.error .reboot) }
    else some { s with pc := receivedPc mac s c deadline left res }
  | .pauseLoad c timer, .go =>
    if s.flag then some { s with pc := returnPc s c (.error .reboot) }
    else some { s with pc := .pauseSelect c timer }
  | .pauseSelect c _, .stop =>
    if s.stop then some { s with pc := returnPc s c (.error .stopped) } else none
  | .pauseSelect c timer, .token =>
    if s.token then some { s with token := false, pc := .pauseLoad c timer } else none
  | .pauseSelect c timer, .timer =>
    if timer ≤ s.now then some { s with pc := returnPc s c (.error .timeout) } else none
  | .closeTr c res, .go =>
    if s.mu then none else some { s with tr := none, pc := .resume c res }
  | .resume c res, .go => some { s with pc := resumePc c res }
  | .bind l, .go =>
    if s.mu then none
    else some { s with lease := some l, events := s.events ++ [.onBound l], pc := .bindStore }
  | .bindStore, .go => some { s with flag := false, pc := .bindDrain }
  | .bindDrain, .go => some { s with token := false, pc := .top .bound }
  | _, _ => none

/-! ### The moves of the client -/

/-- The moves of the client, one for each way in which a step can go; `m : Move mac s ch s'`
    names the step that leads from `s` to `s'` with the choice `ch`. -/
inductive Move (mac : Bytes) (s : State) : Choice → State → Prop
  | exit {st} : s.pc = .top st → s.stop = true → Move mac s .go { s with pc := .done }
  | loop {st} : s.pc = .top st → s.stop = false → Move mac s .go { s with pc := .swap st }
  | swapSet {st} : s.pc = .swap st → s.flag = true →
      Move mac s .go { s with flag := false, pc := .drain }
  | swapClear {st} : s.pc = .swap st → s.flag = false →
      Move mac s .go { s with flag := false, pc := .enter st }
  | drain : s.pc = .drain → Move mac s .go { s with token := false, pc := .enter .rebooting }
  | enterInit {x} : s.pc = .enter .init →
      Move mac s (.xid x) { s with started := s.now, pc := .initLoop x 0 }
  | enterReboot {x last} : s.pc = .enter .rebooting → s.lease = some last →
      Move mac s (.xid x) { s with started := s.now, pc := .rebootLoop x last }
  | enterBound : s.pc = .enter .bound →
      Move mac s .go { s with pc := .boundSelect ((s.lease.bind (·.renew)).map (max s.now)) }
  | enterExtend {st x k l} : s.pc = .enter st → s.lease = some l →
      Move mac s (.xid x) { s with started := s.now, pc := .extendLoop x k l }
  | enterNone {st x} : s.pc = .enter st → s.lease = none →
      Move mac s (.xid x) { s with pc := .top .init }
  | initRound {x n j} : s.pc = .initLoop x n → JitterOk j → leaseLeft s = none →
      Move mac s (.jitter j) { s with pc := .newTransport (.discover x n) (timeout n j) }
  | initCapped {x n j left} : s.pc = .initLoop x n → JitterOk j → leaseLeft s = some left →
      0 < left →
      Move mac s (.jitter j) { s with pc := .newTransport (.discover x n) (min (timeout n j) left) }
  | initOver {x n j left} : s.pc = .initLoop x n → JitterOk j → leaseLeft s = some left →
      left ≤ 0 → Move mac s (.jitter j) { s with pc := .initExpire x n (timeout n j) }
  | initExpire {x n t} : s.pc = .initExpire x n t →
      Move mac s .go { expireLease s with pc := .newTransport (.discover x n) t }
  | selectRound {x n offer j} : s.pc = .selectLoop x n offer → n < 5 → JitterOk j →
      Move mac s (.jitter j) { s with pc := .newTransport (.selecting x n offer) (timeout n j) }
  | selectEnd {x n offer} : s.pc = .selectLoop x n offer → ¬n < 5 →
      Move mac s .go { s with pc := .top .init }
  | rebootRound {x last j} : s.pc = .rebootLoop x last → JitterOk j →
      Move mac s (.jitter j) { s with pc := .newTransport (.reboot x last) (timeout 0 j) }
  | boundStop {t} : s.pc = .boundSelect t → s.stop = true →
      Move mac s .stop { s with pc := .top .bound }
  | boundToken {t} : s.pc = .boundSelect t → s.token = true →
      Move mac s .token { s with token := false, pc := .top .bound }
  | boundTimer {t} : s.pc = .boundSelect (some t) → t ≤ s.now →
      Move mac s .timer { s with pc := .top .renewing }
  | extendStop {x k l} : s.pc = .extendLoop x k l → s.stop = true →
      Move mac s .go { s with pc := .top .bound }
  | extendRound {x k l} : s.pc = .extendLoop x k l → 0 < k.left l s.now →
      Move mac s .go { s with
        pc := .newTransport (.extend x k l)
          (min (max (k.left l s.now / 2) (60 * second)) (k.left l s.now)) }
  | extendOver {x k l} : s.pc = .extendLoop x k l → k.left l s.now ≤ 0 →
      Move mac s .go { s with pc := if k = .renew then .top .rebinding else .expire }
  | expire : s.pc = .expire → Move mac s .go { expireLease s with pc := .top .init }
  | transport {c t} : s.pc = .newTransport c t → Move mac s .ok { s with pc := .openCheck c t }
  | transportFail {c t} : s.pc = .newTransport c t →
      Move mac s .fail { s with pc := .pauseLoad c (s.now + t) }
  | openInterrupted {c t e} : s.pc = .openCheck c t →
      Move mac s .go { s with pc := .resume c (.error e) }
  | opened {c t} : s.pc = .openCheck c t → s.flag = false →
      Move mac s .go { s with tr := some false, pc := .send c t }
  | sent {c t} : s.pc = .send c t →
      Move mac s .ok { s with sent := s.sent ++ [c.message s], pc := .recvTop c (s.now + t) }
  | sendFail {c t} : s.pc = .send c t → Move mac s .fail { s with pc := .pauseLoad c (s.now + t) }
  | recvOver {c d} : s.pc = .recvTop c d → d - s.now ≤ 0 →
      Move mac s .go { s with pc := .closeTr c (.error .timeout) }
  | recvRound {c d} : s.pc = .recvTop c d → 0 < d - s.now →
      Move mac s .go { s with pc := .receive c d (d - s.now) }
  | received {c d left res} : s.pc = .receive c d left → res.possible s d = true →
      Move mac s (.receive res) { s with pc := .recvStop c d left res }
  | recvStopped {c d left res} : s.pc = .recvStop c d left res → s.stop = true →
      Move mac s .go { s with pc := .closeTr c (.error .stopped) }
  | recvRunning {c d left res} : s.pc = .recvStop c d left res → s.stop = false →
      Move mac s .go { s with pc := .recvFlag c d left res }
  | recvReboot {c d left res} : s.pc = .recvFlag c d left res → s.flag = true →
      Move mac s .go { s with pc := .closeTr c (.error .reboot) }
  | recvHandled {c d left res} : s.pc = .recvFlag c d left res → s.flag = false →
      Move mac s .go { s with pc := receivedPc mac s c d left res }
  | pauseReboot {c t} : s.pc = .pauseLoad c t → s.flag = true →
      Move mac s .go { s with pc := returnPc s c (.error .reboot) }
  | pauseWait {c t} : s.pc = .pauseLoad c t → s.flag = false →
      Move mac s .go { s with pc := .pauseSelect c t }
  | pauseStop {c t} : s.pc = .pauseSelect c t → s.stop = true →
      Move mac s .stop { s with pc := returnPc s c (.error .stopped) }
  | pauseTimer {c t} : s.pc = .pauseSelect c t → t ≤ s.now →
      Move mac s .timer { s with pc := returnPc s c (.error .timeout) }
  | pauseToken {c t} : s.pc = .pauseSelect c t → s.token = true →
      Move mac s .token { s with token := false, pc := .pauseLoad c t }
  | closeTr {c res} : s.pc = .closeTr c res →
      Move mac s .go { s with tr := none, pc := .resume c res }
  | resume {c res} : s.pc = .resume c res → Move mac s .go { s with pc := resumePc c res }
  | bind {l} : s.pc = .bind l →
      Move mac s .go
        { s with lease := some l, events := s.events ++ [.onBound l], pc := .bindStore }
  | bindStore : s.pc = .bindStore → Move mac s .go { s with flag := false, pc := .bindDrain }
  | bindDrain : s.pc = .bindDrain → Move mac s .go { s with token := false, pc := .top .bound }

variable {mac : Bytes} {s s' : State}

/-- **Inversion.**  Every step of the client is one of its moves. -/
theorem clientStep_move {ch : Choice} (h : clientStep mac s ch = some s') : Move mac s ch s' := by
  unfold clientStep at h
  split at h <;> rename_i hpc
  all_goals try dsimp only at h
  all_goals repeat' split at h
  all_goals cases h
  -- The next state names the move, but for the first two.
  all_goals first
    | exact .extendOver hpc ‹_›
    | exact .sendFail hpc
    | constructor <;> first | assumption | simp_all

/-- A move leaves the lease and the callbacks alone, expires the lease, or binds a new one. -/
theorem Move.lease_events {ch : Choice} (m : Move mac s ch s') :
    (s'.lease = s.lease ∧ s'.events = s.events) ∨
    (s'.lease = (expireLease s).lease ∧ s'.events = (expireLease s).events) ∨
    ∃ l, s'.lease = some l ∧ s'.events = s.events ++ [.onBound l] := by
  cases m with
  | initExpire | expire => exact .inr (.inl ⟨rfl, rfl⟩)
  | bind => exact .inr (.inr ⟨_, rfl, rfl⟩)
  | _ => exact .inl ⟨rfl, rfl⟩

/-! ### `Reboot`, `Stop` and the clock -/

/-- The next step of the `i`-th `Reboot` call. -/
def rebootStep (s : State) (i : Nat) : Option State :=
  match s.calls[i]? with
  | some .start =>
    if s.mu then none else some { s with mu := true, calls := s.calls.set i .locked }
  | some .locked => some { s with flag := true, calls := s.calls.set i .stored }
  | some .stored =>
    some { s with tr := s.tr.map (fun _ => true), calls := s.calls.set i .closed }
  | some .closed => some { s with mu := false, calls := s.calls.set i .unlocked }
  | some .unlocked => some { s with token := true, calls := s.calls.set i .done }
  | _ => none

/-- One step of the system. -/
def step (mac : Bytes) (s : State) : Act → Option State
  | .client ch => clientStep mac s ch
  | .call => some { s with calls := s.calls ++ [.start] }
  | .reboot i => rebootStep s i
  | .stop =>
    if s.mu then none
    else if s.stop then some s
    else some { s with stop := true, tr := s.tr.map (fun _ => true) }
  | .tick d => some { s with now := s.now + d }

/-- What `Reboot` and `Stop` leave alone: the client, its lease and callbacks, and the clock.  They
    clear no flag. -/
structure Frame (s s' : State) : Prop where
  pc : s'.pc = s.pc
  lease : s'.lease = s.lease
  events : s'.events = s.events
  now : s'.now = s.now
  flag : s.flag = true → s'.flag = true

/-- A step of a `Reboot` call leaves the client alone. -/
theorem rebootStep_frame {i : Nat} (hs : rebootStep s i = some s') : Frame s s' := by
  unfold rebootStep at hs
  split at hs
  · split at hs <;> cases hs
    exact ⟨rfl, rfl, rfl, rfl, id⟩
  · cases hs
    exact ⟨rfl, rfl, rfl, rfl, fun _ => rfl⟩
  · cases hs
    exact ⟨rfl, rfl, rfl, rfl, id⟩
  · cases hs
    exact ⟨rfl, rfl, rfl, rfl, id⟩
  · cases hs
    exact ⟨rfl, rfl, rfl, rfl, id⟩
  · cases hs

/-- **Inversion of a step.**  A step of the system is a move of the client, the clock, or a step
    that leaves the client alone. -/
theorem step_cases {a : Act} (hs : step mac s a = some s') :
    (∃ ch, a = .client ch ∧ Move mac s ch s') ∨
    (∃ d : Nat, a = .tick d ∧ s' = { s with now := s.now + d }) ∨ Frame s s' := by
  cases a with
  | client ch => exact .inl ⟨ch, rfl, clientStep_move hs⟩
  | tick d => exact .inr (.inl ⟨d, rfl, (Option.some.inj hs).symm⟩)
  | call =>
    cases hs
    exact .inr (.inr ⟨rfl, rfl, rfl, rfl, id⟩)
  | reboot i => exact .inr (.inr (rebootStep_frame hs))
  | stop =>
    dsimp only [step] at hs
    split at hs
    · cases hs
    · split at hs <;> cases hs <;> exact .inr (.inr ⟨rfl, rfl, rfl, rfl, id⟩)

/-- A started client (`Start`). -/
def machine (mac : Bytes) : Machine State Act where
  start := {}
  step := step mac

end Booty.Dhcp4
