import Booty.Bfd.Session

namespace Booty.Bfd

open Booty.Lib Session

/-!
# The detection timer of a session (`pkg/network/bfd/manager_linux.go`)

The `select` loop of a session, with the clock readings of each branch in the event.  A packet arms
the detection timer for the detection time; the branch of the timer compares a new clock reading
with the time of the last packet and then arms the timer for the idle hour.

* `loopMachine` — every order of packets, timer events and periodic packets.
* `Watching` — the invariant: in Init and Up a packet armed the timer, not before the last
  reception.
* `silent_peer_detected` — an expired session is left by the branch of the timer exactly if the
  reading is not the very end of the detection time.
-/

/-- `time.Hour`. -/
def hour : Duration := 3600 * second

/-- The state of `loop`. -/
structure Loop where
  sess : Session
  /-- The last clock reading. -/
  clock : Time
  /-- The deadline of `detect`. -/
  deadline : Time
  /-- When a packet armed `detect`, unless it has the idle hour. -/
  armed : Option Time

/-- A branch of the `select` with its clock readings: in the handler, and of the `Reset` after it.
    The branches that end the loop are left out. -/
inductive Event
  | packet (p : Packet) (now reset : Time)
  | detect (now reset : Time)
  | tx

/-- `received`. -/
def received (s : Session) (p : Packet) (now : Time) : Session :=
  let (s, changed) := s.receive p now
  if changed || s.sendFinal then s.packet.2 else s

/-- `periodic`. -/
def periodic (s : Session) : Session :=
  if s.txInterval > 0 then s.packet.2 else s

/-- The handler of the detection timer. -/
def detected (s : Session) (now : Time) : Session :=
  let (s, changed) := s.checkTimeout now
  if changed then s.packet.2 else s

/-- One turn of the loop. -/
def Loop.step (l : Loop) : Event → Option Loop
  | .packet p now reset =>
    let s := received l.sess p now
    if l.clock ≤ now ∧ now ≤ reset then
      some ⟨s, reset, reset + s.detectionTime, some reset⟩
    else none
  | .detect now reset =>
    -- a timer fires at its deadline or later
    if l.clock ≤ now ∧ l.deadline ≤ now ∧ now ≤ reset then
      some ⟨detected l.sess now, reset, reset + hour, none⟩
    else none
  | .tx => some { l with sess := periodic l.sess }

/-- The loop of a new session, started at `boot`. -/
def loopMachine (t : Timers) (discr : UInt32) (boot : Time) : Machine Loop Event where
  start := ⟨newSession t discr, boot, boot + hour, none⟩
  step := Loop.step

/-- Init or Up. -/
def Session.Alive (s : Session) : Prop := s.state = .init ∨ s.state = .up

instance (s : Session) : Decidable s.Alive := inferInstanceAs (Decidable (_ ∨ _))

/-- The branch of the timer does not read the very end of the detection time. -/
def OffDeadline (l : Loop) : Event → Prop
  | .detect now _ => l.sess.Alive → Time.sub now l.sess.lastRx ≠ l.sess.detectionTime
  | _ => True

/-! ### The invariant -/

/-- The clock runs, and in Init and Up a packet armed the timer for the present detection time,
    when the last packet had been received. -/
def Watching (l : Loop) : Prop :=
  0 < l.clock ∧ (l.sess.Alive → l.sess.lastRx ≠ 0 ∧
    ∃ a, l.armed = some a ∧ l.deadline = a + l.sess.detectionTime ∧ l.sess.lastRx ≤ a ∧ a ≤ l.clock)

/-- Sending changes nothing the timer depends on. -/
theorem packet_watched (s : Session) :
    (s.packet.2.Alive ↔ s.Alive) ∧ s.packet.2.lastRx = s.lastRx ∧
      s.packet.2.detectionTime = s.detectionTime := by
  rw [packet_snd]
  exact ⟨Iff.rfl, rfl, rfl⟩

theorem transition_lastRx (s : Session) (remote : State) :
    (s.transition remote).lastRx = s.lastRx := by
  rcases s.transition_cases remote with h | h | ⟨-, -, h⟩ | ⟨-, h⟩ <;> rw [h]
  · rfl
  · unfold up
    simp only
    split <;> rfl

/-- `Receive` takes the time of a packet for this session and ignores any other packet. -/
theorem receive_lastRx (s : Session) (p : Packet) (now : Time) :
    (s.receive p now).1.lastRx = now ∨ (s.receive p now).1 = s := by
  by_cases hmis : p.yourDiscriminator ≠ 0 ∧ p.yourDiscriminator ≠ s.localDiscr
  · exact .inr (receive_of_mismatch hmis)
  · have hrecord : (s.record p now).lastRx = now := by
      unfold record
      cases p.poll <;> rfl
    rw [receive_eq hmis]
    split
    · exact .inl hrecord
    · rw [transition_lastRx]
      exact .inl hrecord

/-- The reading of a fired timer is not before the end of the detection time, so `CheckTimeout`
    keeps an expired session exactly at this end. -/
theorem detected_alive {l : Loop} {now : Time} (h : Watching l) (hfired : l.deadline ≤ now)
    (halive : l.sess.Alive) :
    l.sess.lastRx + l.sess.detectionTime ≤ now ∧
      ((detected l.sess now).Alive ↔ Time.sub now l.sess.lastRx = l.sess.detectionTime) := by
  obtain ⟨hrx, a, -, hdeadline, hlast, -⟩ := h.2 halive
  have hend : l.sess.lastRx + l.sess.detectionTime ≤ now := by linarith
  have hrange : l.sess.detectionTime < 2 ^ 63 := Int.bmod_lt (m := 2 ^ 64) (by norm_num)
  have hsub : l.sess.detectionTime ≤ Time.sub now l.sess.lastRx :=
    le_max_of_le_right (le_min (Int.le_sub_one_of_lt hrange) (by linarith))
  refine ⟨hend, ?_⟩
  unfold detected checkTimeout
  by_cases hle : Time.sub now l.sess.lastRx ≤ l.sess.detectionTime
  · rw [if_pos (.inr hle)]
    exact iff_of_true halive (le_antisymm hle hsub)
  · rw [if_neg (by simp [hrx, hle]), if_neg (by rcases halive with hs | hs <;> simp [hs])]
    refine iff_of_false ?_ (mt le_of_eq hle)
    simp only [if_true, packet_watched]
    simp [Alive, down]

/-- In Down the branch of the timer changes no state. -/
theorem detected_not_alive {s : Session} (now : Time) (h : ¬ s.Alive) :
    ¬ (detected s now).Alive := by
  obtain ⟨hinit, hup⟩ := not_or.mp h
  unfold detected checkTimeout
  split_ifs <;> simp_all [Alive]

/-- **Step.** -/
theorem watching_step {l l' : Loop} {e : Event} (h : Watching l) (hok : OffDeadline l e)
    (hstep : l.step e = some l') : Watching l' := by
  cases e with
  | packet p now reset =>
    simp only [Loop.step] at hstep
    split_ifs at hstep with hclock
    cases hstep
    have hnow : 0 < now := h.1.trans_le hclock.1
    have hrecv : (received l.sess p now).lastRx = (l.sess.receive p now).1.lastRx ∧
        ((received l.sess p now).Alive ↔ (l.sess.receive p now).1.Alive) := by
      unfold received
      dsimp only
      split <;> simp [packet_watched]
    refine ⟨hnow.trans_le hclock.2, fun halive => ?_⟩
    have hrx : (received l.sess p now).lastRx ≠ 0 ∧ (received l.sess p now).lastRx ≤ reset := by
      rw [hrecv.1]
      -- A packet that is taken arms the timer; one that is refused leaves the last one standing.
      rcases receive_lastRx l.sess p now with hrx | hsame
      · rw [hrx]
        exact ⟨hnow.ne', hclock.2⟩
      · rw [hrecv.2, hsame] at halive
        rw [hsame]
        obtain ⟨hrx, a, -, -, hlast, ha⟩ := h.2 halive
        exact ⟨hrx, by linarith⟩
    exact ⟨hrx.1, reset, rfl, rfl, hrx.2, le_rfl⟩
  | detect now reset =>
    simp only [Loop.step] at hstep
    split_ifs at hstep with hfired
    cases hstep
    refine ⟨by linarith [h.1], fun halive => absurd halive ?_⟩
    by_cases hbefore : l.sess.Alive
    · exact fun halive => hok hbefore ((detected_alive h hfired.2.1 hbefore).2.mp halive)
    · exact detected_not_alive now hbefore
  -- A transmission changes neither the state nor the timer.
  | tx =>
    cases hstep
    unfold Watching periodic
    dsimp only
    split
    · simp only [packet_watched]
      exact h
    · exact h

/-- **Detection.** In every run whose timer branches never read the very end of the detection
    time, an Init or Up session has its timer pending for one detection time after a packet armed
    it; and the next branch of the timer leaves no expired session in Init or Up exactly if it does
    not read this end either. -/
theorem silent_peer_detected (t : Timers) (discr : UInt32) (boot : Time) (hboot : 0 < boot)
    (l : Loop) (h : (loopMachine t discr boot).Reaches OffDeadline l) :
    (l.sess.Alive → ∃ a, l.armed = some a ∧ l.deadline = a + l.sess.detectionTime) ∧
      ∀ now reset l', l.step (.detect now reset) = some l' →
        ((l.sess.lastRx + l.sess.detectionTime ≤ now → ¬ l'.sess.Alive) ↔
          OffDeadline l (.detect now reset)) := by
  have hw : Watching l := by
    refine h.invariant ⟨hboot, fun halive => ?_⟩ fun s e s' hs hok hstep =>
      watching_step hs hok hstep
    simp [loopMachine, newSession, Session.Alive] at halive
  refine ⟨fun halive => ?_, fun now reset l' hstep => ?_⟩
  · obtain ⟨-, a, harmed, hdeadline, -⟩ := hw.2 halive
    exact ⟨a, harmed, hdeadline⟩
  · simp only [Loop.step] at hstep
    split_ifs at hstep with hfired
    cases hstep
    by_cases halive : l.sess.Alive
    · obtain ⟨hend, hiff⟩ := detected_alive hw hfired.2.1 halive
      simp [OffDeadline, halive, hend, hiff]
    · simp [OffDeadline, halive, detected_not_alive now halive]

/-- The loop that received the Down packet of its peer at the start. -/
def initLoop : Loop :=
  ⟨received (newSession profileTimers 1) (peerPacket .down 0) 1, 1, 1 + 3 * second, some 1⟩

/-- One nanosecond after its detection time the session is left. -/
theorem silent_peer_detected_late :
    ∃ l', initLoop.step (.detect (2 + 3 * second) (2 + 3 * second)) = some l' ∧
      ¬ l'.sess.Alive := by
  have hreach : (loopMachine profileTimers 1 1).Reaches OffDeadline initLoop :=
    .step (a := .packet (peerPacket .down 0) 1 1) .start trivial rfl
  have hoff : OffDeadline initLoop (.detect (2 + 3 * second) (2 + 3 * second)) :=
    fun _ => by decide
  exact ⟨_, rfl, ((silent_peer_detected _ _ _ (by decide) _ hreach).2 _ _ _ rfl).mpr hoff
    (by decide)⟩

/-- A reading at the very end of the detection time leaves the session in Init, with the idle
    hour on the timer. -/
theorem silent_peer_idle_hour :
    ∃ l, (loopMachine profileTimers 1 1).Reachable l ∧ l.sess.state = .init ∧
      l.sess.lastRx + l.sess.detectionTime = l.clock ∧ l.armed = none ∧
      l.deadline = l.clock + hour := by
  let l : Loop := ⟨initLoop.sess, 1 + 3 * second, 1 + 3 * second + hour, none⟩
  have hrun : (loopMachine profileTimers 1 1).run (loopMachine profileTimers 1 1).start
      [.packet (peerPacket .down 0) 1 1, .detect (1 + 3 * second) (1 + 3 * second)] = some l := rfl
  exact ⟨l, Machine.reachable_of_run hrun, by decide, by decide, rfl, rfl⟩

/-- The packet of the event came out of `Parse`. -/
def Event.Parsed : Event → Prop
  | .packet p _ _ => ∃ b, parse b = .ok p
  | _ => True

/-- **The loop refines the session**: every branch of the `select` is a run of calls of it. -/
theorem loop_refines_session {t : Timers} {discr : UInt32} {b : Time} {l : Loop}
    (h : (loopMachine t discr b).Reaches (fun _ e => e.Parsed) l) :
    (sessionMachine t discr).Reachable l.sess := by
  let Ok := (sessionMachine t discr).Reachable
  have hsend : ∀ {s} (c : Prop) [Decidable c], Ok s → Ok (if c then s.packet.2 else s) := by
    intro s c _ hs
    split
    · exact .step (a := .packet) hs trivial rfl
    · exact hs
  refine h.invariant (I := fun l : Loop => Ok l.sess) .start fun l e l' hl hok hs => ?_
  unfold loopMachine Loop.step at hs
  cases e with
  | packet p now reset =>
    -- The datagram from which the packet was parsed.
    obtain ⟨b, hb⟩ := hok
    have hcall : l.sess.apply (.receive b now) = (l.sess.receive p now).1 := by
      rw [apply_receive, hb]
    have hreceive : Ok (l.sess.receive p now).1 := .step hl trivial (congrArg some hcall)
    dsimp only at hs
    split_ifs at hs
    cases hs
    exact hsend _ hreceive
  | detect now reset =>
    dsimp only at hs
    split_ifs at hs
    cases hs
    exact hsend _ (.step (a := .checkTimeout now) hl trivial rfl)
  | tx =>
    cases hs
    exact hsend _ hl

theorem initLoop_refines : (sessionMachine profileTimers 1).Reachable initLoop.sess := by
  have hparse := parse_marshal (peerPacket .down 0) (by decide)
    ⟨by decide, rfl, by decide, .inr (.inl rfl), rfl⟩
  exact loop_refines_session (b := 1)
    (.step (a := .packet (peerPacket .down 0) 1 1) .start ⟨_, hparse⟩ rfl)

end Booty.Bfd
