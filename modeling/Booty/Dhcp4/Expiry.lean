import Booty.Dhcp4.Reboot

namespace Booty.Dhcp4

open Booty.Lib List Option Extension State

/-!
# Waits and the expiry of the lease

- `InTime` — a wait that the client starts while it keeps a lease ends before the lease does.
- `Paced` — the steps that could start a longer wait: the exchanges of SELECTING and INIT-REBOOT,
  whose timeout is not cut at the expiry, the pause after a failed receive, which waits once more
  for all the time that the receive had, and time that passes before a computed wait starts.
- `WaitInv`, `Move.waitInv`, `step_waitInv` — every other step keeps the waits within the lease.
- `ExpiresLatest`, `step_expiryInv` — `OnExpire` is called for the lease of the latest `OnBound`,
  at most once.
- `waits_end_by_expiry` — the two together; `lateReboot_past_expiry` is a run in which INIT-REBOOT
  waits past the expiry.
-/

/-! ### Waits and events -/

/-- A wait at this point ends at `x` at the latest. -/
def Pc.endsBy (x : Int) : Pc → Bool
  | .boundSelect timer => timer.any (· ≤ x)
  | .pauseSelect _ timer => timer ≤ x
  | .receive _ deadline _ => deadline ≤ x
  | _ => true

/-- The expiry of the lease that the client keeps. -/
def State.expiry (s : State) : Option Int := s.lease.bind (·.expire)

/-- The wait of a client that keeps a lease ends no later than the lease. -/
def InTime (s : State) : Prop :=
  ∀ x, s.expiry = some x → s.now < x → s.pc.endsBy x = true

/-- Every `OnExpire` follows directly on the `OnBound` of the same lease. -/
def ExpiresLatest (events : List Event) : Prop :=
  ∀ before l after, events = before ++ .onExpire l :: after →
    before.getLast? = some (.onBound l)

/-- The wait that this step fixes ends at `x` at the latest. -/
def pacedBy (x : Int) (s : State) (a : Act) : Bool :=
  match s.pc, a with
  | .selectLoop _ n _, .client (.jitter j) => s.now + timeout n j ≤ x
  | .rebootLoop _ _, .client (.jitter j) => s.now + timeout 0 j ≤ x
  | .recvFlag _ _ left .failed, .client .go => s.flag || s.now + left ≤ x
  | .newTransport _ t, .tick d | .openCheck _ t, .tick d | .send _ t, .tick d =>
    x ≤ s.now + d || s.now + d + t ≤ x
  | _, _ => true

/-- The step leaves the waits within the lease that is kept. -/
def Paced (s : State) (a : Act) : Prop :=
  ∀ x, s.expiry = some x → s.now < x → pacedBy x s a = true

instance (s : State) (a : Act) : Decidable (Paced s a) :=
  inferInstanceAs (Decidable (∀ x ∈ s.expiry, s.now < x → pacedBy x s a = true))

/-! ### The invariant of the waits -/

/-- The wait at this point, or the one that it leads to, ends at `x` at the latest. -/
def Pc.fits (now x : Int) : Pc → Prop
  | .newTransport _ t | .openCheck _ t | .send _ t => now + t ≤ x
  | .recvTop _ d | .receive _ d _ | .recvStop _ d _ _ | .recvFlag _ d _ _ => d ≤ x
  | .pauseLoad _ t | .pauseSelect _ t => t ≤ x
  | .boundSelect t => t.any (· ≤ x) = true
  | _ => True

/-- The lease that RENEWING or REBINDING extends. -/
def Caller.extended : Caller → Option Lease
  | .extend _ _ l => some l
  | _ => none

/-- The lease that RENEWING or REBINDING extends at this point. -/
def Pc.extended : Pc → Option Lease
  | .extendLoop _ _ l => some l
  | pc => pc.caller.bind Caller.extended

/-- A reply that is about to be used, and a lease about to be bound, have their times in order. -/
def Pc.sound : Pc → Prop
  | .closeTr _ (.ok r) | .resume _ (.ok r) =>
    r.typ = .offer ∨ r.typ = .ack → r.lease.Ordered
  | .bind l => l.Ordered
  | _ => True

/-- What keeps the waits within the lease. -/
structure WaitInv (s : State) : Prop where
  fits : ∀ x, s.expiry = some x → s.now < x → s.pc.fits s.now x
  ordered : ∀ l, s.lease = some l → l.Ordered
  kept : ∀ l, s.pc.extended = some l → s.lease = some l
  sound : s.pc.sound

variable {mac : Bytes} {s s' : State} {ch : Choice}

/-- The invariant says that every wait ends in time. -/
theorem WaitInv.inTime (h : WaitInv s) : InTime s := by
  intro x hx hnow
  have hfits := h.fits x hx hnow
  revert hfits
  cases s.pc <;> simp [Pc.fits, Pc.endsBy]

/-- A move that keeps the lease owes only the new wait and what the new point carries. -/
theorem WaitInv.move (h : WaitInv s) (hlease : s'.lease = s.lease) (hnow : s'.now = s.now)
    (hfits : ∀ x, s.expiry = some x → s.now < x → s'.pc.fits s.now x)
    (hkept : ∀ l, s'.pc.extended = some l → s.lease = some l) (hsound : s'.pc.sound) :
    WaitInv s' where
  fits := by
    unfold expiry
    rw [hlease, hnow]
    exact hfits
  ordered := hlease ▸ h.ordered
  kept := hlease ▸ hkept
  sound := hsound

/-- Without a lease every wait is in time. -/
theorem WaitInv.of_no_lease (hlease : s'.lease = none) (hkept : s'.pc.extended = none)
    (hsound : s'.pc.sound) : WaitInv s' where
  fits x hx := by simp [expiry, hlease] at hx
  ordered l hl := absurd (hlease.symm.trans hl) (by simp)
  kept l hl := absurd (hkept.symm.trans hl) (by simp)
  sound := hsound

/-- `expire` leaves no lease. -/
theorem expireLease_lease (s : State) : (expireLease s).lease = none := by
  unfold expireLease
  split
  · assumption
  · rfl

/-! ### The timeouts -/

/-- `boundState` waits until T1, which does not come after the expiry. -/
theorem bound_fits {l : Lease} {now x : Int} (hord : l.Ordered) (hx : l.expire = some x)
    (hnow : now < x) : (l.renew.map (max now)).any (· ≤ x) = true := by
  obtain ⟨t, ht⟩ := hord.renew
  obtain ⟨u, hu⟩ := hord.rebind
  have htu := hord.renew_le t u ht hu
  have hux := hord.rebind_le u x hu hx
  rw [ht]
  exact decide_eq_true (by omega)

/-- `leaseLeft` is the time to the expiry. -/
theorem leaseLeft_eq (s : State) : leaseLeft s = s.expiry.map (· - s.now) := by
  unfold leaseLeft expiry
  cases s.lease <;> rfl

/-- RENEWING lasts until T2 and REBINDING until the expiry, so neither has more time than the
    lease. -/
theorem Extension.left_le {l : Lease} {x : Int} (k : Extension) (now : Int) (hord : l.Ordered)
    (hx : l.expire = some x) : k.left l now ≤ x - now := by
  cases k with
  | renew =>
    obtain ⟨u, hu⟩ := hord.rebind
    have hux := hord.rebind_le u x hu hx
    rw [left, hu]
    show u - now ≤ x - now
    omega
  | rebind => grind [left]

/-! ### Steps of the client -/

/-- A return from `exchange` with an error starts no wait and keeps the caller. -/
theorem returnPc_error (s : State) (c : Caller) (e : ExchangeErr) (now x : Int) :
    (returnPc s c (.error e)).fits now x ∧ (returnPc s c (.error e)).extended = c.extended ∧
      (returnPc s c (.error e)).sound := by
  unfold returnPc
  split <;> exact ⟨trivial, rfl, trivial⟩

/-- A caller goes on without a wait, with the lease that it extends, and binds only a lease with
    its times in order. -/
theorem resumePc_points (c : Caller) (res : Except ExchangeErr Reply) (now x : Int)
    (hsound : (Pc.resume c res).sound) :
    (resumePc c res).fits now x ∧ (∀ l, (resumePc c res).extended = some l → c.extended = some l) ∧
      (resumePc c res).sound := by
  -- Every way on that is not an extension or a binding carries nothing.
  have hplain : ∀ {pc : Pc}, pc.fits now x → pc.extended = none → pc.sound →
      pc.fits now x ∧ (∀ l, pc.extended = some l → c.extended = some l) ∧ pc.sound :=
    fun hf he hs => ⟨hf, fun l hl => absurd (he.symm.trans hl) (by simp), hs⟩
  cases res with
  | error e =>
    cases c with
    | extend xid k l =>
      dsimp only [resumePc]
      split
      · exact hplain trivial rfl trivial
      · exact ⟨trivial, fun _ hl => hl, trivial⟩
    | discover | selecting =>
      dsimp only [resumePc]
      split <;> exact hplain trivial rfl trivial
    | reboot => exact hplain trivial rfl trivial
  | ok r =>
    have hbind : r.typ = .ack → (Pc.bind r.lease).sound := fun ht => hsound (.inr ht)
    cases c with
    | discover xid n =>
      dsimp only [resumePc]
      split
      · tauto
      · split <;> exact hplain trivial rfl trivial
    | selecting | reboot | extend =>
      dsimp only [resumePc]
      split
      · exact hplain trivial rfl (hbind ‹_›)
      · exact hplain trivial rfl trivial

/-- What follows a receive that nothing interrupted: the rest of the exchange, its end, or a pause
    for the time that the receive had. -/
theorem receivedPc_fits (mac : Bytes) (s : State) (c : Caller) (d left x : Int)
    (res : Received) (hd : d ≤ x) (hpause : res = .failed → s.now + left ≤ x) :
    (receivedPc mac s c d left res).fits s.now x := by
  unfold receivedPc
  split
  · trivial
  · exact hpause rfl
  · split
    · split
      · trivial
      · exact hd
    · exact hd

theorem receivedPc_extended (mac : Bytes) (s : State) (c : Caller) (d left : Int)
    (res : Received) : (receivedPc mac s c d left res).extended = c.extended := by
  unfold receivedPc
  split <;> (try split) <;> (try split) <;> rfl

/-- A reply that ends an exchange has its times in order. -/
theorem receivedPc_sound (mac : Bytes) (s : State) (c : Caller) (d left : Int)
    (res : Received) : (receivedPc mac s c d left res).sound := by
  unfold receivedPc
  split
  · trivial
  · trivial
  · split
    · split
      · exact decodeReply_ordered ‹_›
      · trivial
    · trivial

section Exchange

variable {pc : Pc} {c : Caller} {d left t : Int}

/-- The invariant at a point of the program. -/
theorem WaitInv.fits_at (h : WaitInv s) (hpc : s.pc = pc) :
    ∀ x, s.expiry = some x → s.now < x → pc.fits s.now x :=
  fun x hx hnow => hpc ▸ h.fits x hx hnow

/-- The caller of an exchange extends the lease that the client has. -/
theorem WaitInv.kept_at (h : WaitInv s) (hpc : s.pc = pc) (hc : pc.extended = c.extended) :
    ∀ l, c.extended = some l → s.lease = some l :=
  fun l hl => h.kept l (by rw [hpc, hc]; exact hl)

/-- The first wait of an extension ends with the time that the extension has. -/
theorem WaitInv.extend_fits {xid : Nat} {k : Extension} {l : Lease} (h : WaitInv s)
    (hl : s.lease = some l) : ∀ x, s.expiry = some x → s.now < x →
      (Pc.newTransport (.extend xid k l)
        (min (max (k.left l s.now / 2) (60 * second)) (k.left l s.now))).fits s.now x := by
  intro x hx _
  obtain ⟨l', hl', hx⟩ := bind_eq_some_iff.mp hx
  cases hl.symm.trans hl'
  have hleft := k.left_le s.now (h.ordered l hl) hx
  show s.now + min (max (k.left l s.now / 2) (60 * second)) (k.left l s.now) ≤ x
  omega

/-- **A receive that nothing interrupted.**  Only a failed one starts a wait, and the schedule says
    that this one ends in time. -/
theorem WaitInv.received {res : Received} (h : WaitInv s) (hp : Paced s (.client .go))
    (hpc : s.pc = .recvFlag c d left res) (hf : s.flag = false) :
    WaitInv { s with pc := receivedPc mac s c d left res } := by
  refine h.move rfl rfl ?_ ?_ (receivedPc_sound mac s c d left res)
  · intro x hx hnow
    have hstep := hp x hx hnow
    unfold pacedBy at hstep
    rw [hpc] at hstep
    refine receivedPc_fits mac s c d left x res (h.fits_at hpc x hx hnow) ?_
    rintro rfl
    rw [hf] at hstep
    exact decide_eq_true_iff.mp hstep
  · rw [receivedPc_extended]
    exact h.kept_at hpc rfl

/-- A pause that ends returns an error. -/
theorem WaitInv.returned (h : WaitInv s) (hpc : s.pc = pc) (hc : pc.extended = c.extended)
    (hlease : s'.lease = s.lease) (hnow : s'.now = s.now) {e : ExchangeErr}
    (hpc' : s'.pc = returnPc s c (.error e)) : WaitInv s' := by
  refine h.move hlease hnow (fun x _ _ => ?_) (fun l hl => ?_) ?_
  · rw [hpc']
    exact (returnPc_error s c e s.now x).1
  · rw [hpc', (returnPc_error s c e 0 0).2.1] at hl
    exact h.kept_at hpc hc l hl
  · rw [hpc']
    exact (returnPc_error s c e 0 0).2.2

/-- The caller goes on with the result of its exchange. -/
theorem WaitInv.resumed {res : Except ExchangeErr Reply} (h : WaitInv s)
    (hpc : s.pc = .resume c res) : WaitInv { s with pc := resumePc c res } := by
  have hsound : (Pc.resume c res).sound := hpc ▸ h.sound
  refine h.move rfl rfl (fun x _ _ => (resumePc_points c res s.now x hsound).1) ?_
    (resumePc_points c res 0 0 hsound).2.2
  intro l hl
  exact h.kept_at hpc rfl l ((resumePc_points c res 0 0 hsound).2.1 l hl)

end Exchange

/-- **Client step.** -/
theorem Move.waitInv (m : Move mac s ch s') (hp : Paced s (.client ch)) (h : WaitInv s) :
    WaitInv s' := by
  cases m with
  | enterBound hpc =>
    refine h.move rfl rfl ?_ nofun trivial
    intro x hx hnow
    obtain ⟨l, hl, hx⟩ := bind_eq_some_iff.mp hx
    rw [hl]
    exact bound_fits (h.ordered l hl) hx hnow
  | enterExtend hpc hl =>
    exact h.move rfl rfl (fun _ _ _ => trivial) (fun l hk => hk ▸ hl) trivial
  | initRound hpc hj hleft =>
    refine h.move rfl rfl ?_ nofun trivial
    intro x hx _
    rw [leaseLeft_eq, hx] at hleft
    cases hleft
  | @initCapped x n j left hpc hj hleft hpos =>
    refine h.move rfl rfl ?_ nofun trivial
    intro x hx _
    rw [leaseLeft_eq, hx] at hleft
    have hleft : x - s.now = left := some.inj hleft
    show s.now + min (timeout n j) left ≤ x
    omega
  | initExpire | expire =>
    exact .of_no_lease (expireLease_lease s) rfl trivial
  | selectRound hpc | rebootRound hpc =>
    refine h.move rfl rfl ?_ nofun trivial
    intro x hx hnow
    have hstep := hp x hx hnow
    unfold pacedBy at hstep
    rw [hpc] at hstep
    exact (of_decide_eq_true hstep :)
  | @extendRound x k l hpc hpos =>
    have hl : s.lease = some l := h.kept l (by rw [hpc]; rfl)
    exact h.move rfl rfl (h.extend_fits hl) (fun _ hk => hk ▸ hl) trivial
  | @extendOver x k l hpc =>
    cases k <;>
      exact h.move rfl rfl (fun _ _ _ => trivial) nofun trivial
  | transport hpc | transportFail hpc | opened hpc | sent hpc | sendFail hpc | recvRound hpc
  | received hpc | recvRunning hpc | pauseWait hpc | pauseToken hpc =>
    -- The exchange goes on with the wait that it was given.
    have hfits := h.fits_at hpc
    exact h.move rfl rfl hfits (h.kept_at hpc rfl) trivial
  | openInterrupted hpc | recvOver hpc | recvStopped hpc | recvReboot hpc =>
    exact h.move rfl rfl (fun _ _ _ => trivial) (h.kept_at hpc rfl) trivial
  | recvHandled hpc hf => exact h.received hp hpc hf
  | pauseReboot hpc | pauseStop hpc | pauseTimer hpc => exact h.returned hpc rfl rfl rfl rfl
  | @closeTr c res hpc =>
    have hsound := h.sound
    rw [hpc] at hsound
    exact h.move rfl rfl (fun _ _ _ => trivial) (h.kept_at hpc rfl) (by cases res <;> exact hsound)
  | resume hpc => exact h.resumed hpc
  | @bind l hpc =>
    have hsound := h.sound
    rw [hpc] at hsound
    refine ⟨fun _ _ _ => trivial, ?_, fun _ hl => (nomatch hl), trivial⟩
    intro l' hl'
    exact some.inj hl' ▸ hsound
  | _ => exact h.move rfl rfl (fun _ _ _ => trivial) nofun trivial

/-! ### Steps of the system -/

/-- Time that passes ends no wait later; only a wait that has not started is put off. -/
theorem WaitInv.tick {d : Nat} (h : WaitInv s) (hp : Paced s (.tick d)) :
    WaitInv { s with now := s.now + d } := by
  refine ⟨?_, h.ordered, h.kept, h.sound⟩
  intro x hx hnow
  have hnow : s.now + d < x := hnow
  have hlt : s.now < x := by omega
  have hfits := h.fits x hx hlt
  have hstep := hp x hx hlt
  unfold pacedBy at hstep
  cases hpc : s.pc <;> rw [hpc] at hfits hstep
  case newTransport | openCheck | send =>
    rcases (Bool.or_eq_true _ _).mp hstep with hlate | hends
    · grind
    · aesop
  all_goals exact hfits

/-- **Step.**  A step that is paced keeps the waits within the lease. -/
theorem step_waitInv {a : Act} (h : WaitInv s) (hp : Paced s a) (hs : step mac s a = some s') :
    WaitInv s' := by
  obtain ⟨ch, rfl, m⟩ | ⟨d, rfl, rfl⟩ | hframe := step_cases hs
  · exact m.waitInv hp h
  · exact h.tick hp
  · refine h.move hframe.lease hframe.now ?_ ?_ ?_
    all_goals rw [hframe.pc]
    · exact h.fits
    · exact h.kept
    · exact h.sound

/-! ### The callbacks -/

/-- A new event that is no `OnExpire`, or the `OnExpire` of the lease bound last. -/
theorem ExpiresLatest.snoc {es : List Event} {e : Event} (h : ExpiresLatest es)
    (he : ∀ l, e = .onExpire l → es.getLast? = some (.onBound l)) : ExpiresLatest (es ++ [e]) := by
  intro before l after heq
  rcases eq_nil_or_concat after with rfl | ⟨after', e', rfl⟩
  · -- the new event itself
    grind [append_inj']
  · have hsplit : es ++ [e] = (before ++ .onExpire l :: after') ++ [e'] := by simpa using heq
    exact h before l after' (append_inj' hsplit rfl).1

/-- The lease that is kept is the one bound last, and no other was ever expired. -/
structure ExpiryInv (s : State) : Prop where
  bound : ∀ l, s.lease = some l → s.events.getLast? = some (.onBound l)
  expired : ExpiresLatest s.events

theorem Move.expiryInv (m : Move mac s ch s') (h : ExpiryInv s) : ExpiryInv s' := by
  rcases m.lease_events with ⟨hl, he⟩ | ⟨hl, he⟩ | ⟨l, hl, he⟩
  · exact ⟨hl ▸ he ▸ h.bound, he ▸ h.expired⟩
  · -- `expire` reports the lease that it drops.
    rw [expireLease_lease] at hl
    refine ⟨fun l hl' => absurd (hl.symm.trans hl') (by simp), ?_⟩
    rw [he]
    unfold expireLease
    split
    · exact h.expired
    · rename_i l hlease
      refine h.expired.snoc fun l' heq => ?_
      cases heq
      exact h.bound l hlease
  · constructor
    · grind
    · grind [h.expired.snoc]

/-- **Step.** -/
theorem step_expiryInv {a : Act} (h : ExpiryInv s) (hs : step mac s a = some s') :
    ExpiryInv s' := by
  obtain ⟨ch, rfl, m⟩ | ⟨d, rfl, rfl⟩ | hframe := step_cases hs
  · exact m.expiryInv h
  · exact ⟨h.bound, h.expired⟩
  · exact ⟨hframe.lease ▸ hframe.events ▸ h.bound, hframe.events ▸ h.expired⟩

/-! ### Runs -/

/-- **Waits and expiry.**  In every run whose steps are paced, a wait that starts while a lease is
    kept ends no later than the lease; and in every run `OnExpire` is called only for the lease of
    the latest `OnBound`, at most once for it. -/
theorem waits_end_by_expiry (mac : Bytes) :
    (∀ s, (machine mac).Reaches Paced s → InTime s) ∧
    (∀ s, (machine mac).Reachable s → ExpiresLatest s.events) := by
  constructor
  · intro s h
    have hinv : WaitInv s := by
      refine h.invariant (.of_no_lease rfl rfl trivial) ?_
      exact fun _ _ _ hi hp hs => step_waitInv hi hp hs
    exact hinv.inTime
  · intro s h
    have hinv : ExpiryInv s := by
      refine h.invariant ⟨fun _ hl => (nomatch hl), ?_⟩ fun _ _ _ hi hs => step_expiryInv hi hs
      intro before l after heq
      exact absurd heq (by simp [machine])
    exact hinv.expired

/-- An ACK with rapid commit and a lease of 2 s. -/
def shortAck : Header where
  typ := .ack
  xid := 7
  mac := []
  yiaddr := 0x0a000002
  serverID := some 0x0a000001
  lease := 2
  t1 := 0
  t2 := 0
  rapidCommit := true
  overload := false

/-- The lease of `shortAck` at time 0. -/
def shortLease : Lease where
  serverID := some 0x0a000001
  fixedAddress := 0x0a000002
  bound := 0
  renew := some second
  rebind := some second
  expire := some (2 * second)

/-- INIT with rapid commit, up to the wait of `boundState`. -/
def shortBinding : List Act :=
  [.client .go, .client .go, .client (.xid 7), .client (.jitter 0), .client .ok, .client .go,
    .client .ok, .client .go, .client (.receive (.packet (some shortAck))), .client .go,
    .client .go, .client .go, .client .go, .client .go, .client .go, .client .go, .client .go,
    .client .go, .client .go]

/-- The client stays bound to the short lease until it has expired. -/
def shortExpiry : List Act :=
  shortBinding ++ [.tick 2000000000, .client .timer, .client .go, .client .go, .client (.xid 8),
    .client .go, .client .go, .client .go, .client (.xid 9), .client .go, .client .go]

theorem shortLease_in_time :
    (∃ s, (machine []).Reaches Paced s ∧ s.pc.blocked = true ∧ s.lease = some shortLease ∧
      InTime s) ∧
    (∃ s, (machine []).Reachable s ∧ s.events = [.onBound shortLease, .onExpire shortLease] ∧
      ExpiresLatest s.events) := by
  have hbound : (((machine []).guarded Paced).run (machine []).start shortBinding).map
      (fun s => (s.pc.blocked, s.lease)) = some (true, some shortLease) := by decide +kernel
  have hexpired : ((machine []).run (machine []).start shortExpiry).map (·.events)
      = some [.onBound shortLease, .onExpire shortLease] := by decide +kernel
  obtain ⟨s, hrun, hs⟩ := map_eq_some_iff.mp hbound
  obtain ⟨t, hrun', ht⟩ := map_eq_some_iff.mp hexpired
  have hreaches := Machine.reaches_of_guarded (Machine.reachable_of_run hrun)
  have hreach := Machine.reachable_of_run hrun'
  exact ⟨⟨s, hreaches, congrArg Prod.fst hs, congrArg Prod.snd hs,
      (waits_end_by_expiry []).1 s hreaches⟩,
    ⟨t, hreach, ht, (waits_end_by_expiry []).2 t hreach⟩⟩

/-- `Reboot` at time 0, with half a second of jitter. -/
def lateReboot : List Act :=
  shortBinding ++ [.call, .reboot 0, .reboot 0, .reboot 0, .reboot 0, .reboot 0, .client .token,
    .client .go, .client .go, .client .go, .client (.xid 8), .client (.jitter 500000000),
    .client .ok, .client .go, .client .ok, .client .go]

/-- INIT-REBOOT waits for 2.5 s, past the expiry of the lease at 2 s. -/
theorem lateReboot_past_expiry :
    ∃ s, (machine []).run (machine []).start lateReboot = some s ∧ (machine []).Reachable s ∧
      ¬InTime s := by
  have hlate : ((machine []).run (machine []).start lateReboot).map
      (fun s => (s.expiry, s.now, s.pc.endsBy (2 * second)))
      = some (some (2 * second), 0, false) := by decide +kernel
  obtain ⟨s, hrun, hs⟩ := map_eq_some_iff.mp hlate
  obtain ⟨hx, hnow, hends⟩ : s.expiry = some (2 * second) ∧ s.now = 0 ∧
      s.pc.endsBy (2 * second) = false := by simpa using hs
  refine ⟨s, hrun, Machine.reachable_of_run hrun, fun h => ?_⟩
  have hin := h (2 * second) hx (by rw [hnow]; decide)
  exact absurd (hends.symm.trans hin) (by simp)

end Booty.Dhcp4
