import Booty.Bfd.Session
import Booty.Lib.NetIP
import Booty.Lib.GoMap

namespace Booty.Bfd

open Booty.Lib List

/-!
# Which session gets a packet (`pkg/network/bfd/manager_linux.go`)

A manager has one receive socket for each device, address family and port, with the sessions that
use it, and a table of all sessions by their discriminators.  The TTL of a packet is checked by the
rule of the socket, before its session is known.

* `Manager.deliver` — `receive` and `lookup`.
* `machine` — every history of `Add`, `Listen` and `Replace`.
* `Placed` — a session is in the list of its own socket only.
* `deliver_protected_iff` — when a packet reaches a session only through the socket whose rule
  protects it.
-/

/-- The UDP port of single-hop sessions. -/
def portSingleHop : Nat := 3784

/-- The UDP port of multihop sessions. -/
def portMultihop : Nat := 4784

/-- The least TTL that a multihop packet may have. -/
def minMultihopTTL : Int := 254

/-- `Peer`. -/
structure Peer where
  name : String
  addr : Addr
  device : String
  multihop : Bool
  timers : Timers

/-- What listeners are told apart by. -/
structure ListenerKey where
  device : String
  v6 : Bool
  port : Nat
deriving DecidableEq, Repr

/-- `keyOf`. -/
def keyOf (p : Peer) : ListenerKey :=
  ⟨p.device, p.addr.is6 && !p.addr.is4In6, if p.multihop then portMultihop else portSingleHop⟩

/-- `run`: a session, with the number of its object. -/
structure Run where
  id : Nat
  peer : Peer
  sess : Session

/-- The sessions and listeners of the manager. -/
structure Manager where
  runs : GoMap UInt32 Run
  listeners : GoMap ListenerKey (List Run)
  /-- The number of the next object. -/
  next : Nat

/-! ### Reception -/

/-- A datagram: the socket, the TTL (`-1` without a control message), the bytes and the source. -/
structure Datagram where
  key : ListenerKey
  ttl : Int
  bytes : Bytes
  src : Addr

/-- The check of `receive` on the TTL. -/
def wrongTTL (key : ListenerKey) (ttl : Int) : Bool :=
  (key.port = portSingleHop && ttl ≠ 255) || (key.port = portMultihop && ttl < minMultihopTTL)

namespace Manager
variable (m : Manager)

/-- `lookup`. -/
def lookup (l : List Run) (p : Packet) (src : Addr) : Option Run :=
  if p.yourDiscriminator ≠ 0 then m.runs.get p.yourDiscriminator
  else l.find? fun r => r.peer.addr.withoutZone = src.withoutZone

/-- `receive`: the session that gets the packet.  A session whose queue is `full` gets none. -/
def deliver (full : Run → Bool) (d : Datagram) : Option Run :=
  match m.listeners.get d.key with
  | none => none
  | some l =>
    if wrongTTL d.key d.ttl then none
    else
      match parse d.bytes with
      | .error _ => none
      | .ok p => (m.lookup l p d.src).filter fun r => !full r

/-! ### Sessions -/

/-- `listen`; `err` is the error of `openListener`. -/
def listen (key : ListenerKey) (err : Option String) : Except String Manager :=
  match m.listeners.get key with
  | some _ => .ok m
  | none =>
    match err with
    | some e => .error e
    | none => .ok { m with listeners := m.listeners.set key [] }

/-- The end of `Add`, with the socket open. -/
def insert (p : Peer) (discr : UInt32) : Manager :=
  let r : Run := ⟨m.next, p, newSession p.timers discr⟩
  { runs := m.runs.set discr r
    listeners := m.listeners.set (keyOf p) ((m.listeners.get (keyOf p)).getD [] ++ [r])
    next := m.next + 1 }

/-- The errors of `Add`, with the name of the peer: `"bfd %s: invalid timers %+v"` and
    `"bfd %s: %w"`. -/
inductive AddError
  | invalidTimers (name : String) (timers : Timers)
  | socket (name err : String)

/-- `Add`: the error and the manager after it.  `discr` is the result of `newDiscriminator`, `txErr`
    and `rxErr` the errors of the sockets. -/
def add (p : Peer) (discr : UInt32) (txErr rxErr : Option String) : Option AddError × Manager :=
  if !p.timers.accepted then (some (.invalidTimers p.name p.timers), m)
  else
    match txErr with
    | some e => (some (.socket p.name e), m)
    | none =>
      match m.listen (keyOf p) rxErr with
      | .error e => (some (.socket p.name e), m)
      | .ok m' => (none, m'.insert p discr)

/-- The first part of `Replace`: every session with the name leaves the table, the one that the loop
    saw last also leaves its socket. -/
def drop (old : String) (last : Run) : Manager :=
  { m with
    runs := m.runs.keys.foldl (fun runs d =>
      if (m.runs.get d).any fun r => r.peer.name = old then runs.delete d else runs) m.runs
    listeners := m.listeners.keys.foldl (fun ls key =>
      ls.set key (((m.listeners.get key).getD []).filter fun r => r.id ≠ last.id)) m.listeners }

end Manager

/-- The operations.  `Replace` is a `drop` and, after the lock was given back, an `add`. -/
inductive Action
  | add (p : Peer) (discr : UInt32) (txErr rxErr : Option String)
  | listen (p : Peer) (rxErr : Option String)
  | drop (old : String) (last : UInt32)

/-- One call of the manager. -/
def step (m : Manager) : Action → Option Manager
  | .add p discr txErr rxErr =>
    -- `newDiscriminator` returns no discriminator in use
    if discr ≠ 0 ∧ (m.runs.get discr).isNone then some (m.add p discr txErr rxErr).2 else none
  | .listen p rxErr =>
    match m.listen (keyOf p) rxErr with
    | .error _ => some m
    | .ok m' => some m'
  | .drop old last =>
    match m.runs.get last with
    | some r => if r.peer.name = old then some (m.drop old r) else none
    | none => none

/-- A manager from its start. -/
def machine : Machine Manager Action where
  start := ⟨∅, ∅, 0⟩
  step := step

/-! ### The sockets -/

/-- Every session in the list of a socket uses this socket. -/
def Placed (m : Manager) : Prop :=
  ∀ key l, m.listeners.get key = some l → ∀ r ∈ l, keyOf r.peer = key

theorem placed_listen {m m' : Manager} {key : ListenerKey} {err : Option String} (h : Placed m)
    (hlisten : m.listen key err = .ok m') : Placed m' := by
  unfold Manager.listen at hlisten
  split at hlisten
  · cases hlisten
    exact h
  · split at hlisten
    · cases hlisten
    · cases hlisten
      intro key' l hl r hr
      rcases GoMap.get_set_eq_some.mp hl with ⟨-, rfl⟩ | ⟨-, hl⟩
      · cases hr
      · exact h key' l hl r hr

theorem placed_insert {m : Manager} {p : Peer} {discr : UInt32} (h : Placed m) :
    Placed (m.insert p discr) := by
  intro key l hl r hr
  rcases GoMap.get_set_eq_some.mp hl with ⟨hkey, rfl⟩ | ⟨-, hl⟩
  · rcases mem_append.mp hr with hr | hr
    · cases hold : m.listeners.get (keyOf p) with
      | none => grind
      | some old => aesop
    · rw [mem_singleton.mp hr, hkey]
  · exact h key l hl r hr

/-- Rewriting the list of every socket leaves the sockets without one as they are. -/
theorem get_foldl_set {f : ListenerKey → List Run} {keys : List ListenerKey}
    {ls : GoMap ListenerKey (List Run)} {key : ListenerKey} :
    (keys.foldl (fun ls k => ls.set k (f k)) ls).get key =
      if key ∈ keys then some (f key) else ls.get key := by
  induction keys generalizing ls with
  | nil => simp
  | cons k ks ih => grind

theorem placed_drop {m : Manager} {old : String} {last : Run} (h : Placed m) :
    Placed (m.drop old last) := by
  intro key l hl r hr
  dsimp only [Manager.drop] at hl
  rw [get_foldl_set] at hl
  split_ifs at hl with hkey
  · cases hl
    obtain ⟨hr, -⟩ := mem_filter.mp hr
    cases hold : m.listeners.get key with
    | none => grind
    | some old =>
      rw [hold] at hr
      exact h key old hold r hr
  · exact h key l hl r hr

/-- **Step.** -/
theorem placed_step {m m' : Manager} {a : Action} (h : Placed m) (hstep : step m a = some m') :
    Placed m' := by
  cases a with
  | add p discr txErr rxErr =>
    simp only [step] at hstep
    split_ifs at hstep
    cases hstep
    unfold Manager.add
    split
    · exact h
    · grind [placed_insert, placed_listen]
  | listen p rxErr =>
    simp only [step] at hstep
    split at hstep
    · cases hstep
      exact h
    next m1 hlisten =>
      cases hstep
      exact placed_listen h hlisten
  | drop old last =>
    simp only [step] at hstep
    split at hstep
    · split_ifs at hstep
      cases hstep
      exact placed_drop h
    · cases hstep

theorem placed_of_reachable {m : Manager} (h : machine.Reachable m) : Placed m :=
  h.invariant (fun key l hl => by simp [machine] at hl) fun _ _ _ hm hstep => placed_step hm hstep

/-! ### The TTL rules -/

/-- The packet came through the socket whose TTL rule protects a session of the peer: its own
    single-hop socket with TTL 255, or a multihop socket with the minimum TTL. -/
def Protected (d : Datagram) (p : Peer) : Prop :=
  if p.multihop then d.key.port = portMultihop ∧ minMultihopTTL ≤ d.ttl
  else d.key = keyOf p ∧ d.ttl = 255

/-- The socket is one for a session of the peer. -/
def Fits (key : ListenerKey) (p : Peer) : Prop :=
  if p.multihop then key.port = portMultihop else key = keyOf p

theorem fits_keyOf (p : Peer) : Fits (keyOf p) p := by
  unfold Fits
  split_ifs with hmulti
  · simp [keyOf, hmulti]
  · rfl

/-- Where the socket is right, so is the TTL that passed its check. -/
theorem protected_iff_fits {d : Datagram} {p : Peer} (httl : wrongTTL d.key d.ttl = false) :
    Protected d p ↔ Fits d.key p := by
  simp only [wrongTTL, Bool.or_eq_false_iff, Bool.and_eq_false_iff, decide_eq_false_iff_not,
    not_not] at httl
  obtain ⟨hsingle, hmultihop⟩ := httl
  unfold Protected Fits
  split_ifs with hmulti
  · grind
  · refine and_iff_left_of_imp fun hkey => ?_
    refine hsingle.resolve_left fun hne => hne ?_
    rw [hkey]
    simp [keyOf, hmulti]

/-- **Delivery.** What a delivered packet has passed. -/
theorem deliver_eq_some {m : Manager} {full : Run → Bool} {d : Datagram} {r : Run} :
    m.deliver full d = some r ↔ ∃ l p, m.listeners.get d.key = some l ∧
      wrongTTL d.key d.ttl = false ∧ parse d.bytes = .ok p ∧ m.lookup l p d.src = some r ∧
      full r = false := by
  unfold Manager.deliver
  cases hl : m.listeners.get d.key with
  | none => simp
  | some l => aesop

/-- **Protection.** A packet reaches only protected sessions exactly if a discriminator in it names
    no session of another socket. -/
theorem deliver_protected_iff (m : Manager) (hreach : machine.Reachable m) (full : Run → Bool)
    (d : Datagram) :
    (∀ r, m.deliver full d = some r → Protected d r.peer) ↔
      ∀ l p r, m.listeners.get d.key = some l → wrongTTL d.key d.ttl = false →
        parse d.bytes = .ok p → p.yourDiscriminator ≠ 0 →
        m.runs.get p.yourDiscriminator = some r → full r = false → Fits d.key r.peer := by
  constructor
  · intro h l p r hl httl hp hdiscr hr hfull
    have hlookup : m.lookup l p d.src = some r := by
      rw [Manager.lookup, if_pos hdiscr, hr]
    have hdeliver := deliver_eq_some.mpr ⟨l, p, hl, httl, hp, hlookup, hfull⟩
    exact (protected_iff_fits httl).mp (h r hdeliver)
  · intro h r hdeliver
    obtain ⟨l, p, hl, httl, hp, hlookup, hfull⟩ := deliver_eq_some.mp hdeliver
    rw [protected_iff_fits httl]
    by_cases hdiscr : p.yourDiscriminator ≠ 0
    · grind [Manager.lookup]
    · -- by the source address: the list of the socket has its own sessions only
      rw [Manager.lookup, if_neg hdiscr] at hlookup
      have hkey := placed_of_reachable hreach d.key l hl r (mem_of_find?_eq_some hlookup)
      exact hkey ▸ fits_keyOf r.peer

/-! ### Two sessions -/

/-- A single-hop neighbor on `eth0`. -/
def linkPeer : Peer := ⟨"link", .v4 1, "eth0", false, profileTimers⟩

/-- A multihop neighbor. -/
def farPeer : Peer := ⟨"far", .v4 2, "vrf", true, profileTimers⟩

/-- A packet for the session with the discriminator 7. -/
def packetFor7 : Packet := peerPacket .down 7

/-- The manager with both sessions. -/
def twoSessions : Manager :=
  ((⟨∅, ∅, 0⟩ : Manager).add linkPeer 7 none none).2.add farPeer 9 none none |>.2

theorem reachable_twoSessions : machine.Reachable twoSessions :=
  Machine.reachable_of_run
    (show machine.run machine.start [.add linkPeer 7 none none, .add farPeer 9 none none] =
      some twoSessions from rfl)

theorem parse_packetFor7 : parse packetFor7.marshal = .ok packetFor7 :=
  parse_marshal packetFor7 (by decide) (by constructor <;> decide)

/-- Through its own socket a packet reaches the single-hop session with TTL 255. -/
theorem deliver_protected_own :
    ∃ r, twoSessions.deliver (fun _ => false)
        ⟨keyOf linkPeer, 255, packetFor7.marshal, .v4 1⟩ = some r ∧
      Protected ⟨keyOf linkPeer, 255, packetFor7.marshal, .v4 1⟩ r.peer := by
  have hrun : ∃ r, twoSessions.runs.get 7 = some r ∧ r.peer = linkPeer := ⟨_, rfl, rfl⟩
  obtain ⟨r, hr, hpeer⟩ := hrun
  have hlistens : ∃ l, twoSessions.listeners.get (keyOf linkPeer) = some l := ⟨_, rfl⟩
  obtain ⟨l, hl⟩ := hlistens
  have hdeliver : twoSessions.deliver (fun _ => false)
      ⟨keyOf linkPeer, 255, packetFor7.marshal, .v4 1⟩ = some r :=
    deliver_eq_some.mpr ⟨l, packetFor7, hl, rfl, parse_packetFor7, hr, rfl⟩
  refine ⟨r, hdeliver, (deliver_protected_iff _ reachable_twoSessions _ _).mpr ?_ r hdeliver⟩
  intro l' p r' _ _ hp _ hr' _
  cases parse_packetFor7.symm.trans hp
  cases hr.symm.trans hr'
  rw [hpeer]
  exact fits_keyOf linkPeer

/-- A packet on the multihop socket with TTL 254 reaches the single-hop session. -/
theorem multihop_socket_reaches_single_hop :
    ∃ r, twoSessions.deliver (fun _ => false)
        ⟨keyOf farPeer, 254, packetFor7.marshal, .v4 2⟩ = some r ∧
      machine.Reachable twoSessions ∧ r.peer.multihop = false ∧
      ¬ Protected ⟨keyOf farPeer, 254, packetFor7.marshal, .v4 2⟩ r.peer := by
  have hrun : ∃ r, twoSessions.runs.get 7 = some r ∧ r.peer = linkPeer := ⟨_, rfl, rfl⟩
  obtain ⟨r, hr, hpeer⟩ := hrun
  have hlistens : ∃ l, twoSessions.listeners.get (keyOf farPeer) = some l := ⟨_, rfl⟩
  obtain ⟨l, hl⟩ := hlistens
  refine ⟨r, deliver_eq_some.mpr ⟨l, packetFor7, hl, rfl, parse_packetFor7, hr, rfl⟩,
    reachable_twoSessions, by rw [hpeer]; rfl, fun hprot => ?_⟩
  rw [hpeer] at hprot
  have httl : (254 : Int) = 255 := hprot.2
  exact absurd httl (by decide)

end Booty.Bfd
