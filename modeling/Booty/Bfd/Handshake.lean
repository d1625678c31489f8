import Booty.Bfd.Session

namespace Booty.Bfd

open Booty.Lib List Session Function Option

/-!
# The three-way handshake of two BFD sessions

Two sessions joined by a link that may lose, duplicate and reorder datagrams but not forge
them.  `End.sent` keeps every datagram an end has sent; a delivery hands any of them, at any
time and any number of times, to the other end, so a lost datagram is one that is never
delivered.  `End.heard` and `End.upBy` are history: the packets `Receive` took in, and the
packet that moved the session to Up.

* `LinkInv` — a packet echoes a discriminator only if its sender has heard the other end,
  and an end in Up was moved there by such an echo;
* `up_only_if_peer_heard` — hence a session is Up only if its peer has received a packet of
  this very session.
-/

/-- The two ends of a link. -/
inductive Side
  | left
  | right
  deriving DecidableEq, Repr

/-- The other end. -/
def Side.peer : Side → Side
  | .left => .right
  | .right => .left

@[simp] theorem Side.peer_ne (i : Side) : i.peer ≠ i := by cases i <;> decide

@[simp] theorem Side.peer_peer (i : Side) : i.peer.peer = i := by cases i <;> rfl

/-- One end of a link: its session and its history. -/
structure End where
  sess : Session
  sent : List Bytes := []
  heard : List Packet := []
  upBy : Option Packet := none

/-- Both ends. -/
abbrev Link := Side → End

/-- What can happen on a link. -/
inductive LinkAct
  | send (i : Side)
  | deliver (i : Side) (datagram : Bytes) (now : Time)
  | checkTimeout (i : Side) (now : Time)

namespace End

/-- Send the next control packet. -/
def send (e : End) : End :=
  { e with sess := e.sess.packet.2, sent := e.sess.packet.1.marshal :: e.sent }

/-- `Receive` of a parsed packet, with its history. -/
def receive (e : End) (p : Packet) (now : Time) : End :=
  let s := (e.sess.receive p now).1
  { e with
    sess := s
    -- `Receive` drops a packet with a foreign discriminator
    heard := if p.yourDiscriminator ≠ 0 ∧ p.yourDiscriminator ≠ e.sess.localDiscr then e.heard
      else p :: e.heard
    upBy := if e.sess.state ≠ .up ∧ s.state = .up then some p else e.upBy }

variable (e : End) (p : Packet) (now : Time)

theorem receive_heard : (e.receive p now).heard =
      if p.yourDiscriminator ≠ 0 ∧ p.yourDiscriminator ≠ e.sess.localDiscr then e.heard
      else p :: e.heard := rfl

theorem receive_upBy : (e.receive p now).upBy =
      if e.sess.state ≠ .up ∧ (e.sess.receive p now).1.state = .up then some p else e.upBy := rfl

/-- The history of received packets only grows. -/
theorem receive_heard_ne_nil {e : End} (p : Packet) (now : Time) (h : e.heard ≠ []) :
    (e.receive p now).heard ≠ [] := by
  rw [receive_heard]
  split
  · exact h
  · exact cons_ne_nil _ _

/-- The arrival of a datagram: parse it and, when it is accepted, receive it. -/
def arrive (e : End) (b : Bytes) (now : Time) : End :=
  match parse b with
  | .ok p => e.receive p now
  | .error _ => e

/-- `CheckTimeout` at one end. -/
def checkTimeout (e : End) (now : Time) : End := { e with sess := (e.sess.checkTimeout now).1 }

end End

/-- Two new sessions and any interleaving of sends, deliveries and timeout checks. -/
def link (t : Side → Timers) (discr : Side → UInt32) : Machine Link LinkAct where
  start := fun i => { sess := newSession (t i) (discr i) }
  step j
    | .send i => some (Function.update j i (j i).send)
    | .deliver i b now =>
      if b ∈ (j i.peer).sent then some (Function.update j i ((j i).arrive b now)) else none
    | .checkTimeout i now => some (Function.update j i ((j i).checkTimeout now))

/-! ### The invariant -/

/-- What holds of one end `e`, given the other end `f`. -/
structure EndInv (e f : End) : Prop where
  sess : e.sess.Inv
  /-- The remote discriminator is known only from a packet that was heard. -/
  remote : e.sess.remoteDiscr ≠ 0 → e.heard ≠ []
  /-- A packet on the wire that echoes a discriminator was sent after hearing the peer. -/
  echo : ∀ b ∈ e.sent, ∀ p, parse b = .ok p → p.yourDiscriminator ≠ 0 → e.heard ≠ []
  /-- What was heard was sent by the peer. -/
  origin : ∀ p ∈ e.heard, ∃ b ∈ f.sent, parse b = .ok p
  /-- Up was entered by an echo, so the peer has heard this end. -/
  up : e.sess.state = .up →
    (∃ p, e.upBy = some p ∧ p.yourDiscriminator = e.sess.localDiscr) ∧ f.heard ≠ []

/-- The invariant of the link: `EndInv` of both ends. -/
def LinkInv (j : Link) : Prop := ∀ i, EndInv (j i) (j i.peer)

/-- A step of one end keeps the invariant if it keeps the invariant of that end and only
    adds to the history the other end relies on. -/
theorem LinkInv.update {j : Link} (h : LinkInv j) {i : Side} {e : End}
    (hown : EndInv e (j i.peer)) (hsent : ∀ b ∈ (j i).sent, b ∈ e.sent)
    (hheard : (j i).heard ≠ [] → e.heard ≠ []) : LinkInv (update j i e) := by
  intro k
  by_cases hk : k = i
  · simp_all
  · -- `k` is the peer, which only sees that the history grew
    have hpeer : k.peer = i := by cases k <;> cases i <;> simp_all [Side.peer]
    have hkinv := h k
    rw [hpeer] at hkinv
    rw [update_of_ne hk]
    refine ⟨hkinv.sess, hkinv.remote, hkinv.echo, fun p hp => ?_, fun hup => ?_⟩
    · grind [hkinv.origin]
    · simp_all [hkinv.up]

/-- Sending keeps the invariant: the new packet echoes only a known discriminator. -/
theorem EndInv.send {e f : End} (h : EndInv e f) : EndInv e.send f := by
  have hsess : e.send.sess = { e.sess with sendFinal := false } := e.sess.packet_snd
  refine ⟨packet_inv h.sess, ?_, ?_, h.origin, ?_⟩
  · rw [hsess]; exact h.remote
  · intro b hb p hp hyour
    rcases mem_cons.mp hb with rfl | hb
    · -- the packet just built: its fields survive `Marshal` and `Parse`
      obtain ⟨hdiag, _, _, _, hy, hauth, _⟩ := e.sess.packet_fields
      obtain ⟨rfl, _⟩ := parse_eq_ok hp
      rw [fields_marshal _ (by rw [hdiag]; exact h.sess.diag) hauth, hy] at hyour
      exact h.remote hyour
    · exact h.echo b hb p hp hyour
  · rw [hsess]; exact h.up

/-- Receiving a packet of the peer keeps the invariant. -/
theorem EndInv.receive {e f : End} (h : EndInv e f) (hf : ∀ b ∈ f.sent, ∀ p, parse b = .ok p →
      p.yourDiscriminator ≠ 0 → f.heard ≠ [])
    {b : Bytes} (hb : b ∈ f.sent) {p : Packet} (hp : parse b = .ok p) (now : Time) :
    EndInv (e.receive p now) f := by
  have hv := (parse_eq_ok hp).2
  have hlocal : (e.sess.receive p now).1.localDiscr = e.sess.localDiscr := by
    have hc := (apply_config e.sess (.receive b now)).2
    rw [apply_receive, hp] at hc
    exact hc
  refine ⟨receive_inv now h.sess hv.myDiscriminator, ?_, ?_, ?_, ?_⟩
  · intro hr
    rw [End.receive_heard]
    split
    -- A packet for another session changes nothing.
    · rename_i hmis
      have hsame : (e.receive p now).sess = e.sess := receive_of_mismatch hmis
      rw [hsame] at hr
      exact h.remote hr
    · exact cons_ne_nil _ _
  · intro b' hb' q hq hyour
    exact End.receive_heard_ne_nil p now (h.echo b' hb' q hq hyour)
  · intro q hq
    have hq' : q = p ∨ q ∈ e.heard := by
      rw [End.receive_heard] at hq
      split at hq
      · exact .inr hq
      · exact mem_cons.mp hq
    rcases hq' with rfl | hq'
    · exact ⟨b, hb, hp⟩
    · exact h.origin q hq'
  · intro hup
    have hup' : (e.sess.receive p now).1.state = .up := hup
    have hlocal' : (e.receive p now).sess.localDiscr = e.sess.localDiscr := hlocal
    rw [End.receive_upBy, hlocal']
    by_cases hold : e.sess.state = .up
    · rw [if_neg (fun hc => hc.1 hold)]
      exact h.up hold
    · grind [receive_to_up]

/-- A timeout check forgets the peer or leaves the session as it is. -/
theorem EndInv.checkTimeout {e f : End} (h : EndInv e f) (now : Time) :
    EndInv (e.checkTimeout now) f := by
  refine ⟨checkTimeout_inv now h.sess, ?_, h.echo, h.origin, ?_⟩
  · show (e.sess.checkTimeout now).1.remoteDiscr ≠ 0 → e.heard ≠ []
    unfold Session.checkTimeout
    split
    · exact h.remote
    · simp only
      split <;> exact fun hc => absurd rfl hc
  · show (e.sess.checkTimeout now).1.state = .up →
      (∃ p, e.upBy = some p ∧ _ = (e.sess.checkTimeout now).1.localDiscr) ∧ f.heard ≠ []
    unfold Session.checkTimeout
    split
    · exact h.up
    · simp only
      split
      · rename_i hc; exact fun hup => absurd hup hc.2
      · grind [down]

theorem link_start_inv (t : Side → Timers) (discr : Side → UInt32) :
    LinkInv (link t discr).start := by
  intro i
  refine ⟨newSession_inv _ _, fun h => absurd rfl h, ?_, ?_, ?_⟩
  · intro b hb; cases hb
  · intro p hp; cases hp
  · tauto

variable {t : Side → Timers} {discr : Side → UInt32}

theorem link_step_inv {j j' : Link} {a : LinkAct}
    (h : LinkInv j) (hs : (link t discr).step j a = some j') : LinkInv j' := by
  cases a with
  | send i =>
    obtain rfl : update j i (j i).send = j' := some.inj hs
    refine h.update (h i).send (fun b hb => ?_) (fun hne => hne)
    exact mem_cons_of_mem _ hb
  | deliver i b now =>
    have hmem : b ∈ (j i.peer).sent := by
      by_contra hc
      simp only [link, if_neg hc] at hs
      cases hs
    simp only [link, if_pos hmem, some.injEq] at hs
    subst hs
    have hpeer := (h i.peer).echo
    unfold End.arrive
    cases hp : parse b with
    | error e => simp_all
    | ok p =>
      exact h.update ((h i).receive hpeer hmem hp now) (fun b hb => hb)
        (End.receive_heard_ne_nil p now)
  | checkTimeout i now =>
    obtain rfl : update j i ((j i).checkTimeout now) = j' := some.inj hs
    exact h.update ((h i).checkTimeout now) (fun b hb => hb) (fun hne => hne)

/-- Every reachable state of the link satisfies the invariant. -/
theorem link_inv {j : Link} (h : (link t discr).Reachable j) : LinkInv j :=
  h.invariant (link_start_inv t discr) (fun _ _ _ hi hs => link_step_inv hi hs)

/-- **Handshake.** In every reachable state of two sessions on a lossy, duplicating and
    reordering link, a session in Up was moved there by a packet that carried its own
    discriminator, and its peer has received a packet that this session sent. -/
theorem up_only_if_peer_heard (t : Side → Timers) (discr : Side → UInt32) (j : Link)
    (h : (link t discr).Reachable j) (i : Side) (hup : (j i).sess.state = .up) :
    (∃ p, (j i).upBy = some p ∧ p.yourDiscriminator = (j i).sess.localDiscr) ∧
      ∃ p ∈ (j i.peer).heard, ∃ b ∈ (j i).sent, parse b = .ok p := by
  have hinv := link_inv h
  obtain ⟨hby, hheard⟩ := (hinv i).up hup
  refine ⟨hby, ?_⟩
  obtain ⟨p, hp⟩ := exists_mem_of_ne_nil _ hheard
  obtain ⟨b, hb, hparse⟩ := (hinv i.peer).origin p hp
  rw [Side.peer_peer] at hb
  exact ⟨p, hp, b, hb, hparse⟩

/-- Discriminators 1 and 2. -/
def exampleDiscr : Side → UInt32
  | .left => 1
  | .right => 2

/-- The first packet of the left end, and the answer of the right end to it. -/
def firstDatagram : Bytes := (newSession profileTimers 1).packet.1.marshal

/-- The answer to the first datagram. -/
def answerDatagram : Bytes :=
  ((newSession profileTimers 2).apply (.receive firstDatagram 5)).packet.1.marshal

/-- The left end reaches Up: both datagrams are delivered once. -/
def handshake : List LinkAct :=
  [.send .left, .deliver .right firstDatagram 5, .send .right, .deliver .left answerDatagram 9]

/-- After `handshake` the left end is Up, so the right end has heard it. -/
theorem handshake_peer_heard :
    ∃ j : Link, (link (fun _ => profileTimers) exampleDiscr).Reachable j ∧
      (j .left).sess.state = .up ∧
        ∃ p ∈ (j .right).heard, ∃ b ∈ (j .left).sent, parse b = .ok p := by
  have hsome : ((link (fun _ => profileTimers) exampleDiscr).run
      (link (fun _ => profileTimers) exampleDiscr).start handshake).isSome := by decide +kernel
  obtain ⟨j, hj⟩ := Option.isSome_iff_exists.mp hsome
  have hstate : ((link (fun _ => profileTimers) exampleDiscr).run
      (link (fun _ => profileTimers) exampleDiscr).start handshake).map
        (fun j => (j .left).sess.state) = some .up := by decide +kernel
  have hup : (j .left).sess.state = .up := by
    rw [hj] at hstate
    exact Option.some.inj hstate
  have hreach := Machine.reachable_of_run hj
  exact ⟨j, hreach, hup, (up_only_if_peer_heard _ _ j hreach .left hup).2⟩

/-! ### The discriminators -/

/-- The end runs a session that names no peer but `peer`; each datagram that it has sent parses,
    to a packet that names this session and no peer but `peer`. -/
structure Names (t : Timers) (own peer : UInt32) (e : End) : Prop where
  run : (sessionMachine t own).Reachable e.sess
  remote : e.sess.remoteDiscr = 0 ∨ e.sess.remoteDiscr = peer
  sent : ∀ b ∈ e.sent, ∃ p, parse b = .ok p ∧ p.myDiscriminator = own ∧
    (p.yourDiscriminator = 0 ∨ p.yourDiscriminator = peer)

/-- A packet tells its discriminator, or changes nothing. -/
theorem receive_remoteDiscr (s : Session) (p : Packet) (now : Time) :
    (s.receive p now).1.remoteDiscr = p.myDiscriminator ∨ (s.receive p now).1 = s := by
  by_cases hmis : p.yourDiscriminator ≠ 0 ∧ p.yourDiscriminator ≠ s.localDiscr
  · exact .inr (receive_of_mismatch hmis)
  · have hrecord := (s.record_spec p now).2.2.2.2.1
    rw [receive_eq hmis]
    split
    · exact .inl hrecord
    · rcases (s.record p now).transition_cases p.state with h | h | ⟨-, -, h⟩ | ⟨-, h⟩ <;>
        simp [h, hrecord, down]

/-- **Step.** A call that learns no other peer. -/
theorem Names.call {t : Timers} {own peer : UInt32} {e e' : End} (h : Names t own peer e)
    (hmult : t.detectMult ≠ 0) (hown : own ≠ 0) (op : Op) (hsess : e'.sess = e.sess.apply op)
    (hremote : e'.sess.remoteDiscr = 0 ∨ e'.sess.remoteDiscr = peer)
    (hsent : ∀ b ∈ e'.sent, b ∈ e.sent ∨ b = e.sess.packet.1.marshal) : Names t own peer e' := by
  refine ⟨hsess ▸ .step h.run trivial rfl, hremote, fun b hb => ?_⟩
  obtain hb | rfl := hsent b hb
  · exact h.sent b hb
  · -- the packet just built passes the checks of `Parse`
    obtain ⟨hinv, htimers, hlocal⟩ := reachable_inv h.run
    obtain ⟨hdiag, -, -, hmy, hyour, -, -⟩ := e.sess.packet_fields
    have hvalid := packet_valid hinv (htimers ▸ hmult) (hlocal ▸ hown)
    refine ⟨_, parse_marshal _ (by rw [hdiag]; exact hinv.diag) hvalid, ?_⟩
    rw [hmy, hyour]
    exact ⟨hlocal, h.remote⟩

/-- **The ends agree on their discriminators**, whatever the link loses, duplicates and reorders. -/
theorem link_discriminators_agree {j : Link} (hmult : ∀ i, (t i).detectMult ≠ 0)
    (hdiscr : ∀ i, discr i ≠ 0) (h : (link t discr).Reachable j) :
    ∀ i, Names (t i) (discr i) (discr i.peer) (j i) := by
  refine h.invariant (I := fun j : Link => ∀ i, Names (t i) (discr i) (discr i.peer) (j i))
    (fun i => ⟨.start, .inl rfl, nofun⟩) fun j a j' hj hs => ?_
  have hupdate : ∀ {i e}, some (update j i e) = some j' → Names (t i) (discr i) (discr i.peer) e →
      ∀ k, Names (t k) (discr k) (discr k.peer) (j' k) := by
    rintro i e ⟨⟩ he
    exact (forall_update_iff j _).mpr ⟨he, fun k _ => hj k⟩
  cases a with
  | send i =>
    refine hupdate hs ((hj i).call (hmult i) (hdiscr i) .packet rfl ?_ fun _ => .symm ∘ mem_cons.mp)
    rw [End.send, packet_snd]
    exact (hj i).remote
  | deliver i b now =>
    simp only [link, End.arrive] at hs
    split_ifs at hs with hmem
    split at hs
    · rename_i p hp
      -- What arrives was sent by the peer, so it names the peer.
      obtain ⟨q, hq, hmy, -⟩ := (hj i.peer).sent b hmem
      obtain rfl : p = q := Except.ok.inj (hp.symm.trans hq)
      refine hupdate hs ((hj i).call (hmult i) (hdiscr i) (.receive b now)
        (by rw [apply_receive, hp]; rfl) ?_ fun _ => .inl)
      grind [receive_remoteDiscr, (hj i).remote, End.receive]
    · exact hupdate hs (hj i)
  | checkTimeout i now =>
    refine hupdate hs ((hj i).call (hmult i) (hdiscr i) (.checkTimeout now) rfl ?_ fun _ => .inl)
    grind [(hj i).remote, End.checkTimeout, Session.checkTimeout, down]

/-- The first packet of the left end names no peer. -/
theorem firstPacket_agrees :
    Names profileTimers 1 2 ((link (fun _ => profileTimers) exampleDiscr).start .left).send := by
  have hreach : (link (fun _ => profileTimers) exampleDiscr).Reachable _ :=
    .step (a := .send .left) .start trivial rfl
  exact link_discriminators_agree (fun _ => by decide) (fun i => by cases i <;> decide) hreach .left

end Booty.Bfd
