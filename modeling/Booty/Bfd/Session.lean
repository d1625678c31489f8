import Booty.Bfd.Packet
import Booty.Lib.GoInt
import Booty.Lib.System

namespace Booty.Bfd

open Booty.Lib

/-!
# The BFD session state machine (`pkg/network/bfd/session.go`)

One `Session` with its operations: `newSession`, `receive` (with `transition`, `up` and
`down`), `checkTimeout`, `txInterval` and `packet`.  `sessionMachine` drives a session by the
calls its owner makes in any order, and `Session.Inv` is the invariant of all these runs:

* `receive_of_mismatch` / `receive_eq` — what `Receive` does, by its discriminator check;
* `receive_inv`, `checkTimeout_inv`, `packet_inv` — one step lemma per operation;
* `reachable_session_consistent` — the invariant and the well-formedness of every packet
  sent, over whole runs.
-/

/-- The configured parameters of a session, as in an FRR "bfd profile". -/
structure Timers where
  desiredMinTx : Duration
  requiredMinRx : Duration
  detectMult : UInt8
  deriving DecidableEq, Repr

/-- The check of `Manager.Add` on the timers of a new session. -/
def Timers.accepted (t : Timers) : Bool :=
  !(t.detectMult == 0 || decide (t.desiredMinTx ≤ 0) || decide (t.requiredMinRx ≤ 0))

/-- The Required Min Echo RX Interval that FRR bfdd advertises by default. -/
def requiredMinEchoRx : Duration := 50 * millisecond

/-- The transmit interval while the session is not Up (RFC 5880 6.8.3). -/
def slowTx : Duration := second

/-- The state of one BFD session. -/
structure Session where
  timers : Timers
  state : State
  diag : Diag
  localDiscr : UInt32
  remoteDiscr : UInt32
  remoteState : State
  remoteMinRx : Duration
  remoteDesiredTx : Duration
  remoteDetectMult : UInt8
  remoteDemand : Bool
  desiredTx : Duration
  curRx : Duration
  polling : Bool
  sendFinal : Bool
  lastRx : Time
  deriving DecidableEq, Repr

/-- A wire interval as a duration. -/
def us (v : UInt32) : Duration := wrap64 (v.toNat * microsecond)

/-- A duration as a wire interval: whole microseconds, cut to 32 bits. -/
def toUS (d : Duration) : UInt32 := UInt32.ofNat ((d.tdiv microsecond) % 2 ^ 32).toNat

/-- `NewSession`: state Down with the local discriminator `discr`. -/
def newSession (t : Timers) (discr : UInt32) : Session where
  timers := t
  state := .down
  diag := diagNone
  localDiscr := discr
  remoteDiscr := 0
  remoteState := .adminDown
  -- bfd.RemoteMinRxInterval starts at 1 microsecond (RFC 5880 6.8.1).
  remoteMinRx := microsecond
  remoteDesiredTx := 0
  remoteDetectMult := 0
  remoteDemand := false
  desiredTx := max t.desiredMinTx slowTx
  curRx := max t.requiredMinRx slowTx
  polling := false
  sendFinal := false
  lastRx := 0

namespace Session
variable (s : Session)

/-- Enter state Up and switch to the configured intervals with a Poll Sequence. -/
def up : Session :=
  let s := { s with state := .up, diag := diagNone }
  if s.desiredTx ≠ s.timers.desiredMinTx ∨ s.curRx ≠ s.timers.requiredMinRx then
    -- The lower Required Min RX applies only after the Poll Sequence.
    { s with desiredTx := s.timers.desiredMinTx, polling := true }
  else s

/-- Enter state Down with diagnostic `d` and go back to the slow intervals. -/
def down (d : Diag) : Session :=
  { s with
    state := .down
    diag := d
    desiredTx := max s.timers.desiredMinTx slowTx
    curRx := max s.timers.requiredMinRx slowTx
    polling := false }

/-- Apply the remote state (RFC 5880 6.8.6, section 6.2). -/
def transition (remote : State) : Session :=
  if remote = .adminDown then
    if s.state ≠ .down then s.down diagNeighborSaysDown else s
  else if s.state = .down ∧ remote = .down then
    { s with state := .init }
  else if (s.state = .down ∧ remote = .init) ∨
      (s.state = .init ∧ (remote = .init ∨ remote = .up)) then
    s.up
  else if s.state = .up ∧ remote = .down then
    s.down diagNeighborSaysDown
  else s

/-- The fields `Receive` updates before it applies the remote state. -/
def record (p : Packet) (now : Time) : Session :=
  let s := { s with
    remoteDiscr := p.myDiscriminator
    remoteState := p.state
    remoteMinRx := us p.requiredMinRxUS
    remoteDesiredTx := us p.desiredMinTxUS
    remoteDetectMult := p.detectMult
    remoteDemand := p.demand }
  let s := if p.final && s.polling then
      { s with polling := false, curRx := s.timers.requiredMinRx }
    else s
  let s := { s with lastRx := now }
  if p.poll then { s with sendFinal := true } else s

/-- `Receive`: process a parsed packet; the flag tells whether the state changed. -/
def receive (p : Packet) (now : Time) : Session × Bool :=
  if p.yourDiscriminator ≠ 0 ∧ p.yourDiscriminator ≠ s.localDiscr then (s, false)
  else
    let s := s.record p now
    if s.state = .adminDown then (s, false)
    else (s.transition p.state, decide ((s.transition p.state).state ≠ s.state))

/-- The time after the last received packet after which the session goes down. -/
def detectionTime : Duration :=
  wrap64 (s.remoteDetectMult.toNat * max s.curRx s.remoteDesiredTx)

/-- `CheckTimeout`: forget the remote session after a detection time without packets, and
    leave Init and Up; the flag tells whether the state changed. -/
def checkTimeout (now : Time) : Session × Bool :=
  if s.lastRx = 0 ∨ Time.sub now s.lastRx ≤ s.detectionTime then (s, false)
  else
    let s := { s with remoteDiscr := 0, remoteMinRx := microsecond, remoteDemand := false }
    if s.state ≠ .init ∧ s.state ≠ .up then (s, false)
    else (s.down diagTimeExpired, true)

/-- The interval between periodic packets before jitter; 0 when the peer asked for none. -/
def txInterval : Duration :=
  if s.remoteMinRx = 0 then 0
  else if s.remoteDemand ∧ s.state = .up ∧ s.remoteState = .up ∧ ¬ s.polling then 0
  else max s.desiredTx s.remoteMinRx

/-- `Packet`: build the next control packet.  A pending Final is sent once and without
    Poll. -/
def packet : Packet × Session :=
  let p : Packet := {
    diag := s.diag
    state := s.state
    detectMult := s.timers.detectMult
    myDiscriminator := s.localDiscr
    yourDiscriminator := s.remoteDiscr
    desiredMinTxUS := toUS s.desiredTx
    requiredMinRxUS := toUS (if s.polling then s.timers.requiredMinRx else s.curRx)
    requiredMinEchoRxUS := toUS requiredMinEchoRx }
  if s.sendFinal then ({ p with final := true }, { s with sendFinal := false })
  else if s.polling then ({ p with poll := true }, s)
  else (p, s)

/-! ### What each operation leaves alone -/

@[simp] theorem up_timers : s.up.timers = s.timers := by
  unfold up; simp only; split <;> rfl

@[simp] theorem up_localDiscr : s.up.localDiscr = s.localDiscr := by
  unfold up; simp only; split <;> rfl

@[simp] theorem up_remoteDiscr : s.up.remoteDiscr = s.remoteDiscr := by
  unfold up; simp only; split <;> rfl

@[simp] theorem up_state : s.up.state = .up := by
  unfold up; simp only; split <;> rfl

/-- What `record` sets and what it keeps. -/
theorem record_spec (p : Packet) (now : Time) :
    (s.record p now).timers = s.timers ∧ (s.record p now).state = s.state ∧
      (s.record p now).diag = s.diag ∧ (s.record p now).localDiscr = s.localDiscr ∧
      (s.record p now).remoteDiscr = p.myDiscriminator ∧
      (s.record p now).desiredTx = s.desiredTx ∧
      (s.record p now).polling = (s.polling && !p.final) ∧
      (s.record p now).curRx =
        (if p.final && s.polling then s.timers.requiredMinRx else s.curRx) := by
  unfold record
  cases p.poll <;> cases p.final <;> cases s.polling <;> simp

variable {s : Session} {p : Packet} {now : Time}

/-- A packet for another session changes nothing. -/
theorem receive_of_mismatch (h : p.yourDiscriminator ≠ 0 ∧ p.yourDiscriminator ≠ s.localDiscr) :
    (s.receive p now).1 = s := by
  unfold receive; rw [if_pos h]

/-- A packet for this session is recorded and its state applied. -/
theorem receive_eq (h : ¬ (p.yourDiscriminator ≠ 0 ∧ p.yourDiscriminator ≠ s.localDiscr)) :
    (s.receive p now).1 =
      if s.state = .adminDown then s.record p now else (s.record p now).transition p.state := by
  unfold receive
  rw [if_neg h]
  simp only [(record_spec s p now).2.1]
  split <;> rfl

/-- The cases of `transition`, each with the session it leaves. -/
theorem transition_cases (s : Session) (remote : State) :
    s.transition remote = s ∨
      s.transition remote = s.down diagNeighborSaysDown ∨
      (s.state = .down ∧ remote = .down ∧ s.transition remote = { s with state := .init }) ∨
      (((s.state = .down ∧ remote = .init) ∨
          (s.state = .init ∧ (remote = .init ∨ remote = .up))) ∧
        s.transition remote = s.up) := by
  unfold transition
  grind

@[simp] theorem transition_localDiscr (s : Session) (remote : State) :
    (s.transition remote).localDiscr = s.localDiscr := by
  rcases transition_cases s remote with h | h | ⟨_, _, h⟩ | ⟨_, h⟩ <;> rw [h]
  · rfl
  · exact up_localDiscr s

@[simp] theorem transition_timers (s : Session) (remote : State) :
    (s.transition remote).timers = s.timers := by
  rcases transition_cases s remote with h | h | ⟨_, _, h⟩ | ⟨_, h⟩ <;> rw [h]
  · rfl
  · exact up_timers s

/-! ### The invariant of every run -/

/-- What holds of a session between any two calls. -/
structure Inv (s : Session) : Prop where
  notAdminDown : s.state ≠ .adminDown
  slow : s.state ≠ .up → s.polling = false ∧ s.desiredTx = max s.timers.desiredMinTx slowTx ∧
    s.curRx = max s.timers.requiredMinRx slowTx
  fast : s.state = .up → s.diag = diagNone ∧ s.desiredTx = s.timers.desiredMinTx ∧
    s.curRx = if s.polling then max s.timers.requiredMinRx slowTx else s.timers.requiredMinRx
  remote : s.state = .init ∨ s.state = .up → s.remoteDiscr ≠ 0
  diag : s.diag < 32

theorem newSession_inv (t : Timers) (discr : UInt32) : (newSession t discr).Inv where
  notAdminDown := by simp [newSession]
  slow := fun _ => ⟨rfl, rfl, rfl⟩
  fast := by simp [newSession]
  remote := by simp [newSession]
  diag := by simp [newSession, diagNone]

/-- `down` establishes the invariant whatever the session was. -/
theorem down_inv (s : Session) (d : Diag) (hd : d < 32) : (s.down d).Inv where
  notAdminDown := by simp [down]
  slow := fun _ => ⟨rfl, rfl, rfl⟩
  fast := by simp [down]
  remote := by simp [down]
  diag := hd

/-- `up` establishes the invariant of Up from a session outside Up whose peer is known. -/
theorem up_inv (hs : s.Inv) (hne : s.state ≠ .up) (hr : s.remoteDiscr ≠ 0) : s.up.Inv := by
  obtain ⟨hpoll, htx, hrx⟩ := hs.slow hne
  have hdiag : s.up.diag = diagNone := by unfold up; simp only; split <;> rfl
  have htx' : s.up.desiredTx = s.timers.desiredMinTx := by
    unfold up
    simp only
    split
    · rfl
    · rename_i h; exact not_not.mp (not_or.mp h).1
  have hrx' : s.up.curRx = if s.up.polling then max s.timers.requiredMinRx slowTx
      else s.timers.requiredMinRx := by
    unfold up
    simp only
    split
    · -- a Poll Sequence starts: the slow interval stays in use
      exact hrx
    · -- both configured intervals are slow already
      grind
  refine ⟨by simp, fun h => absurd (up_state s) h, fun _ => ⟨hdiag, ?_, ?_⟩, fun _ => ?_, ?_⟩
  · rw [up_timers]; exact htx'
  · rw [up_timers]; exact hrx'
  · rw [up_remoteDiscr]; exact hr
  · rw [hdiag]; decide

/-- Recording a packet of a known peer keeps the invariant. -/
theorem record_inv (now : Time) (hs : s.Inv)
    (hp : p.myDiscriminator ≠ 0) : (s.record p now).Inv := by
  obtain ⟨htimers, hstate, hdiag, _, hremote, htx, hpoll, hrx⟩ := record_spec s p now
  constructor
  · rw [hstate]; exact hs.notAdminDown
  · grind [hs.slow]
  · intro hup
    rw [hstate] at hup
    obtain ⟨h1, h2, h3⟩ := hs.fast hup
    rw [hdiag, htx, htimers]
    refine ⟨h1, h2, ?_⟩
    -- a Final ends the Poll Sequence and puts the configured interval in use
    cases hf : p.final <;> cases hq : s.polling <;> simp_all
  · intro _; rw [hremote]; exact hp
  · rw [hdiag]; exact hs.diag

theorem transition_inv (remote : State) (hs : s.Inv) (hr : s.remoteDiscr ≠ 0) :
    (s.transition remote).Inv := by
  rcases transition_cases s remote with h | h | ⟨hd, _, h⟩ | ⟨hcase, h⟩ <;> rw [h]
  · exact hs
  · exact down_inv s _ (by decide)
  · -- Down to Init: the slow intervals stay
    have hslow := hs.slow (by rw [hd]; decide)
    exact ⟨by simp, fun _ => hslow, fun h => by simp at h, fun _ => hr, hs.diag⟩
  · grind [up_inv]

/-- `Receive` of a packet that `Parse` returned keeps the invariant. -/
theorem receive_inv (now : Time) (hs : s.Inv)
    (hp : p.myDiscriminator ≠ 0) : (s.receive p now).1.Inv := by
  by_cases hmis : p.yourDiscriminator ≠ 0 ∧ p.yourDiscriminator ≠ s.localDiscr
  · rw [receive_of_mismatch hmis]; exact hs
  · grind [receive_eq, record_spec, transition_inv, record_inv]

/-- **Entering Up.** A packet that moves a session to Up carries the local discriminator of
    the session: `Parse` refuses a zero one in Init and Up, `Receive` a foreign one. -/
theorem receive_to_up (hp : p.Valid) (hne : s.state ≠ .up) (hup : (s.receive p now).1.state = .up) :
    p.yourDiscriminator ≠ 0 ∧ p.yourDiscriminator = s.localDiscr := by
  by_cases hmis : p.yourDiscriminator ≠ 0 ∧ p.yourDiscriminator ≠ s.localDiscr
  · grind [receive_of_mismatch]
  · have hstate := (record_spec s p now).2.1
    have hremote : p.state = .init ∨ p.state = .up := by
      rw [receive_eq hmis] at hup
      split at hup
      · rw [hstate] at hup; exact absurd hup hne
      · rcases transition_cases (s.record p now) p.state with h | h | ⟨_, _, h⟩ | ⟨hc, _⟩
        · rw [h, hstate] at hup; exact absurd hup hne
        · rw [h] at hup; exact absurd hup (by simp [down])
        · rw [h] at hup; exact absurd hup (by simp)
        · grind
    have hyour : p.yourDiscriminator ≠ 0 := by
      rcases hp.yourDiscriminator with h | h | h
      · exact h
      · grind
      · grind
    refine ⟨hyour, ?_⟩
    by_contra hc
    exact hmis ⟨hyour, hc⟩

theorem checkTimeout_inv (now : Time) (hs : s.Inv) : (s.checkTimeout now).1.Inv := by
  unfold checkTimeout
  split
  · exact hs
  · simp only
    split
    · -- in Down only the remote session is forgotten
      rename_i h
      refine ⟨hs.notAdminDown, hs.slow, fun hup => absurd hup h.2, fun hc => ?_, hs.diag⟩
      rcases hc with hc | hc
      · exact absurd hc h.1
      · exact absurd hc h.2
    · exact down_inv _ _ (by decide)

/-- Building a packet changes only the pending Final. -/
theorem packet_snd (s : Session) : s.packet.2 = { s with sendFinal := false } := by
  unfold packet
  cases hf : s.sendFinal
  · have hs : ({ s with sendFinal := false } : Session) = s := by rw [← hf]
    rw [hs]
    cases s.polling <;> rfl
  · rfl

theorem packet_inv (hs : s.Inv) : s.packet.2.Inv := by
  rw [packet_snd]
  exact { hs with }

/-! ### The packets a session sends -/

/-- The fields of a packet that do not depend on the pending Final or the Poll Sequence. -/
theorem packet_fields (s : Session) :
    s.packet.1.diag = s.diag ∧ s.packet.1.state = s.state ∧
      s.packet.1.detectMult = s.timers.detectMult ∧
      s.packet.1.myDiscriminator = s.localDiscr ∧
      s.packet.1.yourDiscriminator = s.remoteDiscr ∧ s.packet.1.authPresent = false ∧
      s.packet.1.multipoint = false := by
  unfold packet
  cases s.sendFinal <;> cases s.polling <;> exact ⟨rfl, rfl, rfl, rfl, rfl, rfl, rfl⟩

/-- Poll is set only while polling and never together with Final. -/
theorem packet_poll (s : Session) :
    ¬ (s.packet.1.poll = true ∧ s.packet.1.final = true) ∧
      (s.packet.1.poll = true → s.polling = true) := by
  unfold packet
  cases s.sendFinal <;> cases s.polling <;> simp

/-- A packet of a session with an accepted multiplier and a nonzero discriminator passes
    the checks of `Parse`. -/
theorem packet_valid (hs : s.Inv) (hmult : s.timers.detectMult ≠ 0)
    (hdiscr : s.localDiscr ≠ 0) : s.packet.1.Valid := by
  obtain ⟨_, hstate, hm, hmy, hyour, hauth, hmulti⟩ := packet_fields s
  refine ⟨by rw [hm]; exact hmult, hmulti, by rw [hmy]; exact hdiscr, ?_, hauth⟩
  rw [hstate, hyour]
  cases h : s.state with
  | adminDown => exact .inr (.inr rfl)
  | down => exact .inr (.inl rfl)
  | init => exact .inl (hs.remote (.inl h))
  | up => exact .inl (hs.remote (.inr h))

end Session

/-! ### Whole runs -/

/-- A call the owner of a session makes.  `receive` takes the bytes of a datagram; one that
    `Parse` refuses never reaches the session. -/
inductive Op
  | receive (datagram : Bytes) (now : Time)
  | checkTimeout (now : Time)
  | packet

/-- The session after one call. -/
def Session.apply (s : Session) : Op → Session
  | .receive b now =>
    match parse b with
    | .ok p => (s.receive p now).1
    | .error _ => s
  | .checkTimeout now => (s.checkTimeout now).1
  | .packet => s.packet.2

theorem Session.apply_receive (s : Session) (b : Bytes) (now : Time) :
    s.apply (.receive b now) =
      match parse b with
      | .ok p => (s.receive p now).1
      | .error _ => s := rfl

/-- A session started by `NewSession` and driven by any sequence of calls. -/
def sessionMachine (t : Timers) (discr : UInt32) : Machine Session Op where
  start := newSession t discr
  step s op := some (s.apply op)

/-- The configuration of a session never changes. -/
theorem apply_config (s : Session) (op : Op) :
    (s.apply op).timers = s.timers ∧ (s.apply op).localDiscr = s.localDiscr := by
  cases op with
  | receive b now =>
    rw [Session.apply_receive]
    cases parse b with
    | error e => exact ⟨rfl, rfl⟩
    | ok p =>
      by_cases hmis : p.yourDiscriminator ≠ 0 ∧ p.yourDiscriminator ≠ s.localDiscr
      · grind [Session.receive_of_mismatch]
      · grind [s.record_spec, Session.receive_eq, Session.transition_timers,
          Session.transition_localDiscr]
  | checkTimeout now =>
    show (s.checkTimeout now).1.timers = _ ∧ (s.checkTimeout now).1.localDiscr = _
    unfold Session.checkTimeout
    split
    · exact ⟨rfl, rfl⟩
    · simp only
      split <;> exact ⟨rfl, rfl⟩
  | packet =>
    show s.packet.2.timers = _ ∧ s.packet.2.localDiscr = _
    rw [Session.packet_snd]; exact ⟨rfl, rfl⟩

theorem apply_inv {s : Session} (op : Op) (hs : s.Inv) : (s.apply op).Inv := by
  cases op with
  | receive b now =>
    rw [Session.apply_receive]
    cases hp : parse b with
    | error e => exact hs
    | ok p => exact Session.receive_inv now hs (parse_eq_ok hp).2.myDiscriminator
  | checkTimeout now => exact Session.checkTimeout_inv now hs
  | packet => exact Session.packet_inv hs

/-- The invariant and the configuration of every reachable session. -/
theorem reachable_inv {t : Timers} {discr : UInt32} {s : Session}
    (h : (sessionMachine t discr).Reachable s) :
    s.Inv ∧ s.timers = t ∧ s.localDiscr = discr := by
  refine h.invariant (I := fun s => s.Inv ∧ s.timers = t ∧ s.localDiscr = discr)
    ⟨Session.newSession_inv t discr, rfl, rfl⟩ ?_
  rintro s op s' ⟨hinv, htimers, hlocal⟩ hstep
  obtain rfl : s.apply op = s' := Option.some.inj hstep
  obtain ⟨ht, hl⟩ := apply_config s op
  exact ⟨apply_inv op hinv, ht.trans htimers, hl.trans hlocal⟩

/-- **Consistency of a session over all runs.**  With timers that `Manager.Add` accepts and
    a nonzero discriminator, after any sequence of calls: the session is not AdminDown;
    outside Up it does not poll and uses the slow intervals; in Up it has no diagnostic and
    uses the configured intervals, except that the old Required Min RX stays in use while it
    polls; it knows the remote discriminator in Init and Up; and the packet it builds next
    never has both Poll and Final, polls only in Up, and is accepted unchanged by `Parse`.
    No upper bound on the intervals is needed. -/
theorem reachable_session_consistent (t : Timers) (ht : t.accepted = true) (discr : UInt32)
    (hd : discr ≠ 0) (s : Session) (h : (sessionMachine t discr).Reachable s) :
    s.state ≠ .adminDown ∧
      (s.state ≠ .up → s.polling = false ∧ s.desiredTx = max t.desiredMinTx second ∧
        s.curRx = max t.requiredMinRx second) ∧
      (s.state = .up → s.diag = diagNone ∧ s.desiredTx = t.desiredMinTx ∧
        (s.polling = false → s.curRx = t.requiredMinRx) ∧
        (s.polling = true → s.curRx = max t.requiredMinRx second)) ∧
      (s.state = .init ∨ s.state = .up → s.remoteDiscr ≠ 0) ∧
      ¬ (s.packet.1.poll = true ∧ s.packet.1.final = true) ∧
      (s.packet.1.poll = true → s.packet.1.state = .up) ∧
      parse s.packet.1.marshal = .ok s.packet.1 := by
  obtain ⟨hinv, rfl, rfl⟩ := reachable_inv h
  have hmult : s.timers.detectMult ≠ 0 := by
    intro h0
    simp [Timers.accepted, h0] at ht
  obtain ⟨hdiag, hstate, _⟩ := s.packet_fields
  obtain ⟨hboth, hpoll⟩ := s.packet_poll
  refine ⟨hinv.notAdminDown, hinv.slow, fun hup => ?_, hinv.remote, hboth, fun hp => ?_, ?_⟩
  · obtain ⟨h1, h2, h3⟩ := hinv.fast hup
    refine ⟨h1, h2, fun hq => ?_, fun hq => ?_⟩
    · rw [h3, hq]; rfl
    · rw [h3, hq]; rfl
  · -- outside Up the session does not poll
    rw [hstate]
    by_contra hne
    rw [(hinv.slow hne).1] at hpoll
    exact absurd (hpoll hp) (by decide)
  · grind [parse_marshal, hinv.diag, Session.packet_valid]

/-- The default timers of a BGP session. -/
def profileTimers : Timers where
  desiredMinTx := 300 * millisecond
  requiredMinRx := 300 * millisecond
  detectMult := 3

/-- A packet of a peer with discriminator 7 that still uses the slow intervals. -/
def peerPacket (st : State) (your : UInt32) : Packet where
  diag := diagNone
  state := st
  detectMult := 3
  myDiscriminator := 7
  yourDiscriminator := your
  desiredMinTxUS := 1000000
  requiredMinRxUS := 1000000
  requiredMinEchoRxUS := 0

/-- The peer comes up: its Down packet, our answer, its Init packet. -/
def bringUp : List Op :=
  [.receive (peerPacket .down 0).marshal 5, .packet, .receive (peerPacket .init 1).marshal 9]

/-- After `bringUp` the session is Up and polls with the slow Required Min RX in use. -/
theorem bringUp_consistent : let s := bringUp.foldl Session.apply (newSession profileTimers 1)
    s.state = .up ∧ s.polling = true ∧ s.curRx = max profileTimers.requiredMinRx second ∧
      parse s.packet.1.marshal = .ok s.packet.1 := by
  intro s
  have hreach : (sessionMachine profileTimers 1).Reachable s :=
    Machine.reachable_of_run
      (show (sessionMachine profileTimers 1).run (newSession profileTimers 1) bringUp = some s
        from rfl)
  have hup : s.state = .up := by decide
  have hpoll : s.polling = true := by decide +kernel
  obtain ⟨_, _, hfast, _, _, _, hparse⟩ :=
    reachable_session_consistent profileTimers (by decide) 1 (by decide) s hreach
  exact ⟨hup, hpoll, (hfast hup).2.2.2 hpoll, hparse⟩

end Booty.Bfd
