import Booty.Dhcp6.Client

namespace Booty.Dhcp6

open Booty.Lib List Option Caller Pc State

/-!
# The pace of the retransmissions

- `Spaced` — two transmissions of one transaction are at least the timeout of the earlier one
  apart.
- `conclusive` — a REPLY that `exchangeOne` takes before the timeout ends the transaction.  RENEW,
  REBIND and REQUEST go on after a REPLY with neither an address nor NoBinding, and then send
  again at once.
- `PacingInv`, `Move.pacingInv`, `step_pacingInv` — every other step waits the timeout out.
- `transmissions_spaced` — the runs with conclusive steps; `emptyReply_resends` is a run in which
  a REPLY without an address makes the client send twice at the same time.
-/

/-- Two transmissions of one transaction are at least the timeout of the earlier one apart. -/
def Spaced (sent : List Transmission) : Prop :=
  sent.Pairwise fun a b => a.txn = b.txn → a.time + a.rt ≤ b.time

/-- The reply ends the transaction, if the exchange ends with it. -/
def Caller.concludes (c : Caller) (r : Reply) : Bool :=
  match c with
  | .solicit _ _ _ _ | .information _ => true
  | .request _ n _ _ => r.iaStatus = statusNoBinding || r.hasAddr || 9 ≤ n
  | .phase _ _ _ => r.iaStatus = statusNoBinding || r.hasAddr

/-- A reply that an exchange takes before its deadline ends the transaction. -/
def conclusive (cfg : Config) (s : State) (a : Act) : Bool :=
  match s.pc, a with
  | .received c deadline _ (.packet d), .client .go =>
    match decode d cfg.iaid s.now with
    | .ok r => !wanted cfg c r || c.concludes r || deadline ≤ s.now || s.stop
    | .error _ => true
  | _, _ => true

/-! ### The invariant -/

/-- At the time `x` every timeout of the transaction has passed. -/
def State.ready (s : State) (x : Int) : Prop :=
  ∀ t ∈ s.sent, t.txn = s.txn → t.time + t.rt ≤ x

/-- The transaction ends with this reply. -/
def Caller.settled (c : Caller) (r : Reply) : Bool :=
  match c with
  | .solicit _ _ best bound => best.isSome || bound.isSome
  | c => c.concludes r

/-- A `request` that has sent ten times. -/
def Caller.over : Caller → Bool
  | .request _ n _ _ => 10 ≤ n
  | _ => false

/-- What is known at the end of an exchange. -/
def Result.due (s : State) (c : Caller) : Result → Prop
  | .timeout => s.ready s.now
  | .stopped => s.stop = true
  | .taken r => s.stop = true ∨ c.settled r = true ∨ s.ready s.now

/-- What is known of the last timeout at each point of a transaction: it is waited for, it has
    passed, or the transaction does not send again. -/
def Pc.due (s : State) : Pc → Prop
  | .loop c => s.stop = true ∨ c.over = true ∨ s.ready s.now
  | .openTr _ | .openCheck _ | .send _ => s.ready s.now
  | .recvTop _ d => s.ready (max d s.now)
  | .receive _ d left => s.ready (max d s.now) ∧ d ≤ s.now + left
  | .received _ d left res =>
    s.ready (max d s.now) ∧ d ≤ s.now + left ∧ (res = .timeout → d ≤ s.now)
  | .pause _ t => s.ready (max t s.now)
  | .resume c res => res.due s c
  | _ => True

/-- What keeps the transmissions apart. -/
structure PacingInv (s : State) : Prop where
  spaced : Spaced s.sent
  numbers : ∀ t ∈ s.sent, t.txn ≤ s.txn
  due : s.pc.due s

variable {cfg : Config} {s s' : State} {ch : Choice}

theorem State.ready.mono {x y : Int} (h : s.ready x) (hxy : x ≤ y) : s.ready y :=
  fun t ht htxn => (h t ht htxn).trans hxy

/-- A wait that is over leaves the transaction ready. -/
theorem State.ready.of_passed {d : Int} (h : s.ready (max d s.now)) (hd : d ≤ s.now) :
    s.ready s.now :=
  h.mono (max_le hd le_rfl)

/-- What is due stays so when time passes and when the client is stopped. -/
theorem Pc.due_mono {pc : Pc} (hsent : s'.sent = s.sent) (htxn : s'.txn = s.txn)
    (hnow : s.now ≤ s'.now) (hstop : s.stop = true → s'.stop = true) (h : pc.due s) :
    pc.due s' := by
  have hready : ∀ {x y : Int}, x ≤ y → s.ready x → s'.ready y := by
    intro x y hxy hr t ht hn
    exact (hr t (hsent ▸ ht) (htxn ▸ hn)).trans hxy
  have hmax : ∀ d : Int, max d s.now ≤ max d s'.now := fun d => max_le_max le_rfl hnow
  cases pc with
  | loop => exact h.imp hstop (Or.imp id (hready hnow))
  | openTr | openCheck | send => exact hready hnow h
  | recvTop _ d | pause _ d => exact hready (hmax d) h
  | receive _ d left => exact ⟨hready (hmax d) h.1, by have := h.2; omega⟩
  | received _ d left res =>
    exact ⟨hready (hmax d) h.1, by have := h.2.1; omega, fun hr => (h.2.2 hr).trans hnow⟩
  | resume c res =>
    cases res with
    | timeout => exact hready hnow h
    | stopped => exact hstop h
    | taken r => exact h.imp hstop (Or.imp id (hready hnow))
  | _ => trivial

/-! ### Steps of the client -/

/-- A step that sends nothing and stays in its transaction owes only what is due. -/
theorem PacingInv.move (h : PacingInv s) (hsent : s'.sent = s.sent) (htxn : s'.txn = s.txn)
    (hdue : s'.pc.due s') : PacingInv s' where
  spaced := hsent ▸ h.spaced
  numbers := hsent ▸ htxn ▸ h.numbers
  due := hdue

/-- **Transmission.**  Every timeout of the transaction has passed when it sends again, and the new
    one has passed after it was waited for. -/
theorem PacingInv.transmit (h : PacingInv s) {c : Caller} (hpc : s.pc = .send c) :
    Spaced (transmit s c).sent ∧ (∀ t ∈ (transmit s c).sent, t.txn ≤ s.txn) ∧
      (transmit s c).ready (max (s.now + c.locals.rt) s.now) := by
  have hready : s.ready s.now := by
    have hdue := h.due
    rw [hpc] at hdue
    exact hdue
  refine ⟨?_, ?_, ?_⟩
  · refine pairwise_append.mpr ⟨h.spaced, pairwise_singleton _ _, ?_⟩
    intro a ha b hb htxn
    rw [mem_singleton.mp hb] at htxn ⊢
    exact hready a ha htxn
  · intro t ht
    rcases mem_append.mp ht with ht | ht
    · exact h.numbers t ht
    · rw [mem_singleton.mp ht]
  · intro t ht htxn
    rcases mem_append.mp ht with ht | ht
    · aesop
    · grind

variable {c : Caller}

/-- The head of a loop goes on to a transmission only when the last timeout has passed. -/
theorem loopPc_due {f g : Int} {pc : Pc} (hdue : (loop c).due s)
    (h : loopPc s c f g = some pc) : pc.due s := by
  have hfailed : ∀ current, (requestFailed current).due s := by
    intro current
    cases current <;> trivial
  cases c with
  | solicit v n best bound | information v =>
    dsimp only [loopPc] at h
    split at h
    · cases h
      trivial
    · obtain ⟨rt, -, rfl⟩ := map_eq_some_iff.mp h
      rcases hdue with hs | ho | hr
      · exact absurd hs ‹_›
      · cases ho
      · exact hr
  | phase v k l =>
    dsimp only [loopPc] at h
    split at h
    · cases h
      trivial
    · rename_i hgo
      obtain ⟨rt, -, rfl⟩ := map_eq_some_iff.mp h
      rcases hdue with hs | ho | hr
      · exact absurd (.inl hs) hgo
      · cases ho
      · exact hr
  -- A `request` also ends after ten transmissions, whatever the time.
  | request v n adv current =>
    dsimp only [loopPc] at h
    split at h
    · cases h
      exact hfailed current
    · rename_i hgo
      have hr : s.ready s.now := by
        rcases hdue with hs | ho | hr
        · exact absurd (.inr hs) hgo
        · exact absurd (.inl (of_decide_eq_true ho)) hgo
        · exact hr
      obtain ⟨rt, -, rfl⟩ := map_eq_some_iff.mp h
      split
      · exact hr
      · split
        · exact hfailed current
        · exact hr

/-- After an exchange that did not end the transaction its loop goes on with what is due. -/
theorem Result.loop_due {c c' : Caller} (res : Result) (hdue : res.due s c)
    (hsettled : ∀ r, res = .taken r → c.settled r = true → c'.over = true) :
    (loop c').due s := by
  cases res with
  | timeout => exact .inr (.inr hdue)
  | stopped => exact .inl hdue
  | taken r =>
    rcases hdue with hs | hc | hr
    · exact .inl hs
    · exact .inr (.inl (hsettled r rfl hc))
    · exact .inr (.inr hr)

/-- What a transaction does with the result of an exchange. -/
theorem resumePc_due {res : Result} (hdue : res.due s c) : (resumePc s c res).due s := by
  cases c with
  | solicit v n best bound =>
    dsimp only [resumePc]
    split
    · trivial
    · split
      · trivial
      · trivial
      · exact res.loop_due hdue fun r _ hc => (nomatch hc)
  | request v n adv current =>
    cases res with
    | taken r =>
      dsimp only [resumePc]
      split
      · cases current <;> trivial
      · split
        · trivial
        · -- Neither NoBinding nor an address: only the tenth round ends here.
          refine (Result.taken r).loop_due hdue fun r' hr hc => ?_
          cases hr
          simp_all [Caller.settled, Caller.concludes, Caller.over]
    | timeout => tauto
    | stopped => tauto
  | phase v k l =>
    cases res with
    | taken r =>
      dsimp only [resumePc]
      split
      · trivial
      · split
        · trivial
        · refine (Result.taken r).loop_due hdue fun r' hr hc => ?_
          cases hr
          simp_all [Caller.settled, Caller.concludes]
    | timeout => tauto
    | stopped => tauto
  | information v =>
    cases res with
    | taken r => trivial
    | timeout => tauto
    | stopped => tauto

/-- A conclusive reply that ends the exchange ends the transaction: `solicit` has a lease or an
    advertisement then. -/
theorem Caller.take_settled {r : Reply} (hc : c.concludes r = true)
    (ht : (c.take r).2 = true) : (c.take r).1.settled r = true := by
  cases c with
  | solicit v n best bound =>
    dsimp only [take] at ht ⊢
    split at ht
    · rw [if_pos ‹_›]
      simp [settled]
    · split at ht
      · grind [settled]
      · cases ht
  | request | phase | information => exact hc

/-- What follows a receive. -/
theorem receivedStep_due {d left : Int} {res : Received}
    (hdue : (Pc.received c d left res).due s) (hstop : s.stop = false)
    (hpc : s.pc = .received c d left res) (hcon : conclusive cfg s (.client .go) = true) :
    (receivedStep cfg s c d left res).pc.due (receivedStep cfg s c d left res) := by
  obtain ⟨hready, hleft, htimeout⟩ := hdue
  cases res with
  | timeout => exact hready.of_passed (htimeout rfl)
  | failed => exact hready.mono (max_le_max hleft le_rfl)
  | packet b =>
    unfold conclusive at hcon
    rw [hpc] at hcon
    dsimp only at hcon
    dsimp only [receivedStep]
    split
    · exact hready
    · rename_i r hdecode
      rw [hdecode] at hcon
      split
      · rename_i hwanted
        split
        · rename_i hdone
          -- The exchange ends with `r`.
          simp only [hwanted, hstop, Bool.not_true, Bool.false_or, Bool.or_false,
            Bool.or_eq_true, decide_eq_true_eq] at hcon
          rcases hcon with hc | hd
          · exact .inr (.inl (Caller.take_settled hc hdone))
          · exact .inr (.inr (hready.of_passed hd))
        · exact hready
      · exact hready

theorem receivedStep_sent (cfg : Config) (s : State) (c : Caller) (d left : Int)
    (res : Received) : (receivedStep cfg s c d left res).sent = s.sent ∧
      (receivedStep cfg s c d left res).txn = s.txn := by
  unfold receivedStep
  split <;> (try split) <;> (try split) <;> (try split) <;> exact ⟨rfl, rfl⟩

/-- **Client step.** -/
theorem Move.pacingInv (m : Move cfg s ch s') (hcon : conclusive cfg s (.client ch) = true)
    (h : PacingInv s) : PacingInv s' := by
  have hdue := h.due
  cases m with
  | @begin t x hpc hx =>
    refine ⟨h.spaced, fun t ht => (h.numbers t ht).trans (Nat.le_succ _), .inr (.inr ?_)⟩
    -- Nothing was sent in the new transaction.
    intro t ht htxn
    have hle := h.numbers t ht
    have heq : t.txn = s.txn + 1 := htxn
    omega
  | loop hpc hloop =>
    rw [hpc] at hdue
    exact h.move rfl rfl (loopPc_due hdue hloop)
  | reuse hpc | transport hpc | opened hpc =>
    rw [hpc] at hdue
    exact h.move rfl rfl hdue
  | transportFail hpc | openStopped hpc =>
    rw [hpc] at hdue
    exact h.move rfl rfl (ready.mono hdue (le_max_right _ _))
  | sent hpc | sendFail hpc =>
    obtain ⟨hspaced, hnumbers, hready⟩ := h.transmit hpc
    exact ⟨hspaced, hnumbers, hready⟩
  | @recvOver c d hpc hd =>
    rw [hpc] at hdue
    exact h.move rfl rfl (ready.of_passed hdue (sub_nonpos.mp hd))
  | @recvRound c d hpc hd =>
    rw [hpc] at hdue
    exact h.move rfl rfl ⟨hdue, by show d ≤ s.now + (d - s.now); omega⟩
  | @received c d left res hpc hpos =>
    rw [hpc] at hdue
    refine h.move rfl rfl ⟨hdue.1, hdue.2, ?_⟩
    rintro rfl
    exact (of_decide_eq_true (Bool.and_eq_true_iff.mp hpos).2)
  | recvStopped hpc hs | pauseStop hpc hs => exact h.move rfl rfl hs
  | @recvHandled c d left res hpc hs => grind [receivedStep_sent, h.move, receivedStep_due]
  | pauseTimer hpc ht =>
    rw [hpc] at hdue
    exact h.move rfl rfl (ready.of_passed hdue ht)
  | resume hpc =>
    rw [hpc] at hdue
    exact h.move rfl rfl (resumePc_due hdue)
  | phaseEnd hpc =>
    refine h.move rfl rfl ?_
    split
    · trivial
    · split <;> trivial
  | _ => exact h.move rfl rfl trivial

/-! ### Steps of the system -/

/-- **Step.**  A conclusive step keeps the transmissions apart. -/
theorem step_pacingInv {a : Act} (h : PacingInv s) (hcon : conclusive cfg s a = true)
    (hs : step cfg s a = some s') : PacingInv s' := by
  cases a with
  | client ch => exact (clientStep_move hs).pacingInv hcon h
  | stop =>
    dsimp only [step] at hs
    split at hs <;> cases hs
    · exact h
    · grind [h.move, due_mono, h.due]
  | tick d =>
    cases hs
    refine h.move rfl rfl (due_mono (s := s) rfl rfl ?_ id h.due)
    show s.now ≤ s.now + d
    omega

/-- **Pace of the transmissions.**  In every run whose steps are conclusive, two transmissions of
    one transaction are at least the timeout chosen for the earlier one apart. -/
theorem transmissions_spaced
    (h : (machine cfg).Reaches (fun s a => conclusive cfg s a = true) s) : Spaced s.sent := by
  have hinv : PacingInv s := by
    refine h.invariant ⟨List.Pairwise.nil, fun _ ht => (nomatch ht), trivial⟩ ?_
    exact fun _ _ _ hi hcon hs => step_pacingInv hi hcon hs
  exact hinv.spaced

/-- A client with a short DUID. -/
def sampleConfig : Config where
  duid := [1]
  iaid := 7
  stateful := true

/-- A REPLY with rapid commit: an address with a preferred lifetime of 100 s, so T1 is 50 s and T2
    is 80 s. -/
def rapidReply : Packet where
  typ := .reply
  xid := 5
  opts := [.clientID [1], .serverID [2], .rapidCommit,
    .iaNA (some { iaid := 7, t1 := 0, t2 := 0
                  addrs := [some { addr := 0xfd01, preferred := 100, valid := 200 }] })]

/-- SOLICIT with rapid commit, the wait for T1, and the first RENEW, with a timeout of 10 s. -/
def firstRenew : List Act :=
  [.client .go, .client .go, .client (.xid 5), .client (.fuzz 10000000 0), .client .ok,
    .client .go, .client .ok, .client .go, .client (.receive (.packet (.message rapidReply))),
    .client .go, .client .go, .client .go, .client .go, .client .go, .client .go,
    .tick 50000000000, .client .timer, .client (.xid 6), .client (.fuzz 0 0), .client .ok,
    .client .go, .client .ok, .client .go]

/-- No answer to the RENEW: the next one follows after its timeout. -/
def unansweredRenew : List Act :=
  firstRenew ++ [.tick 10000000000, .client (.receive .timeout), .client .go, .client .go,
    .client (.fuzz 0 0), .client .go, .client .ok]

theorem unansweredRenew_spaced :
    ∃ s, (machine sampleConfig).Reaches (fun s a => conclusive sampleConfig s a = true) s ∧
      s.sent.map (fun t => (t.txn, t.time)) = [(1, 0), (2, 50 * second), (2, 60 * second)] ∧
      Spaced s.sent := by
  have hsent : (((machine sampleConfig).guarded (fun s a => conclusive sampleConfig s a = true)).run
      (machine sampleConfig).start unansweredRenew).map
        (fun s => s.sent.map (fun t => (t.txn, t.time)))
      = some [(1, 0), (2, 50 * second), (2, 60 * second)] := by decide +kernel
  obtain ⟨s, hrun, hs⟩ := map_eq_some_iff.mp hsent
  have hreaches := Machine.reaches_of_guarded (Machine.reachable_of_run hrun)
  exact ⟨s, hreaches, hs, transmissions_spaced hreaches⟩

/-- A REPLY to the RENEW without an IA. -/
def emptyReply : Packet where
  typ := .reply
  xid := 6
  opts := [.clientID [1], .serverID [2]]

/-- The RENEW is answered at once by `emptyReply`. -/
def answeredRenew : List Act :=
  firstRenew ++ [.client (.receive (.packet (.message emptyReply))), .client .go, .client .go,
    .client (.fuzz 0 0), .client .go, .client .ok]

/-- The RENEW with a timeout of 10 s is followed by another at the same time. -/
theorem emptyReply_resends :
    ∃ s, (machine sampleConfig).run (machine sampleConfig).start answeredRenew = some s ∧
      s.sent.map (fun t => (t.txn, t.time, t.rt)) =
        [(1, 0, 1010000000), (2, 50 * second, 10 * second), (2, 50 * second, 20 * second)] ∧
      ¬Spaced s.sent := by
  have hsent : ((machine sampleConfig).run (machine sampleConfig).start answeredRenew).map
        (fun s => s.sent.map (fun t => (t.txn, t.time, t.rt))) =
      some [(1, 0, 1010000000), (2, 50 * second, 10 * second),
        (2, 50 * second, 20 * second)] := by
    decide +kernel
  obtain ⟨s, hrun, hs⟩ := map_eq_some_iff.mp hsent
  refine ⟨s, hrun, hs, fun hspaced => ?_⟩
  have hpairs : (s.sent.map (fun t => (t.txn, t.time, t.rt))).Pairwise
      fun a b => a.1 = b.1 → a.2.1 + a.2.2 ≤ b.2.1 := pairwise_map.mpr hspaced
  rw [hs] at hpairs
  exact absurd hpairs (by decide)

end Booty.Dhcp6
