import Booty.Dhcp4.Client

namespace Booty.Dhcp4

open Booty.Lib List Option Or

/-!
# No reboot request is lost

A client that waits while `rebootReq` is set is about to be woken, in every interleaving with any
number of `Reboot` calls.

- `RebootInv` — the invariant: what leads into a wait without another look at the flag has a token
  or a closed transport waiting for it.
- `Move.rebootInv`, `rebootStep_rebootInv`, `step_rebootInv` — every atomic step keeps it.
- `reboot_request_kept` — no request is lost, INIT-REBOOT starts only from the flag, and only
  INIT-REBOOT and `bind` clear it.
-/

/-! ### Program points -/

/-- The call has stored the flag and not yet sent its token. -/
def Phase.between : Phase → Bool
  | .stored | .closed | .unlocked => true
  | _ => false

/-- The client waits in a `select` or in `transport.receive`. -/
def Pc.blocked : Pc → Bool
  | .boundSelect _ | .pauseSelect _ _ | .receive _ _ _ => true
  | _ => false

/-- The waits that only a token ends, and what leads to them without another look at the flag. -/
def Pc.needsToken : Pc → Bool
  | .boundSelect _ | .pauseSelect _ _ => true
  | .enter st => st ≠ .rebooting
  | _ => false

/-- An exchange whose transport was opened when the flag was clear, up to its receive. -/
def Pc.needsClose : Pc → Bool
  | .send _ _ | .recvTop _ _ | .receive _ _ _ => true
  | _ => false

/-- An exchange with an open transport, before it returns. -/
def Pc.open : Pc → Bool
  | .send _ _ | .recvTop _ _ | .receive _ _ _ | .recvStop _ _ _ _ | .recvFlag _ _ _ _ => true
  | _ => false

/-- No state of the client leads to INIT-REBOOT by itself. -/
def Pc.notRebooting : Pc → Bool
  | .top st | .swap st => st ≠ .rebooting
  | _ => true

/-- The caller of the exchange in progress. -/
def Pc.caller : Pc → Option Caller
  | .newTransport c _ | .openCheck c _ | .send c _ | .recvTop c _ | .receive c _ _
  | .recvStop c _ _ _ | .recvFlag c _ _ _ | .pauseLoad c _ | .pauseSelect c _ | .closeTr c _
  | .resume c _ => some c
  | _ => none

/-- The exchange of INIT-REBOOT. -/
def Caller.isReboot : Caller → Bool
  | .reboot _ _ => true
  | _ => false

/-- The client is in INIT-REBOOT: from the request that the run loop took to the end of the
    exchange. -/
def Pc.inReboot : Pc → Bool
  | .drain | .rebootLoop _ _ => true
  | .enter st => st = .rebooting
  | pc => pc.caller.any Caller.isReboot

/-- A `Reboot` call is between the flag and the token. -/
def State.between (s : State) : Prop := ∃ p ∈ s.calls, p.between = true

/-- A token is in the channel or on its way. -/
def State.wakes (s : State) : Prop := s.token = true ∨ s.between

/-- The open transport is closed, or a call is about to close it. -/
def State.closes (s : State) : Prop := s.tr = some true ∨ .stored ∈ s.calls

/-- What keeps a request from being lost. -/
structure RebootInv (s : State) : Prop where
  token : s.pc.needsToken = true → s.flag = true → s.wakes
  close : s.pc.needsClose = true → s.flag = true → s.closes
  opened : s.pc.open = true → s.tr.isSome = true
  states : s.pc.notRebooting = true

/-- A program point of which the invariant says nothing. -/
def Pc.quiet (pc : Pc) : Prop :=
  pc.needsToken = false ∧ pc.needsClose = false ∧ pc.open = false ∧ pc.notRebooting = true

variable {mac : Bytes} {s s' : State} {ch : Choice}

/-! ### Steps of the client -/

/-- The invariant holds at a quiet program point. -/
theorem RebootInv.of_quiet (h : s.pc.quiet) : RebootInv s where
  token hp := absurd hp (by simp [h.1])
  close hp := absurd hp (by simp [h.2.1])
  opened hp := absurd hp (by simp [h.2.2.1])
  states := h.2.2.2

/-- The return from `exchange` is quiet. -/
theorem returnPc_quiet (s : State) (c : Caller) (res : Except ExchangeErr Reply) :
    (returnPc s c res).quiet := by
  unfold returnPc
  split <;> exact ⟨rfl, rfl, rfl, rfl⟩

/-- What a caller does after its exchange is quiet. -/
theorem resumePc_quiet (c : Caller) (res : Except ExchangeErr Reply) : (resumePc c res).quiet := by
  unfold resumePc
  split <;> (try split) <;> (try split) <;> exact ⟨rfl, rfl, rfl, rfl⟩

/-- After a receive that nothing interrupted no wait for a token has begun. -/
theorem receivedPc_points (mac : Bytes) (s : State) (c : Caller) (d left : Int) (res : Received) :
    (receivedPc mac s c d left res).needsToken = false ∧
      (receivedPc mac s c d left res).notRebooting = true := by
  unfold receivedPc
  split <;> (try split) <;> (try split) <;> exact ⟨rfl, rfl⟩

/-- A step inside an exchange that leaves the flag, the transport and the calls alone: what its
    transport needs was known before. -/
theorem RebootInv.exchange (h : RebootInv s) (hflag : s'.flag = s.flag) (htr : s'.tr = s.tr)
    (hcalls : s'.calls = s.calls) (hopen : s.pc.open = true) (htoken : s'.pc.needsToken = false)
    (hclose : s'.pc.needsClose = true → s.pc.needsClose = true)
    (hstates : s'.pc.notRebooting = true) : RebootInv s' where
  token hp := absurd hp (by simp [htoken])
  close hp hf := by
    show s'.tr = some true ∨ .stored ∈ s'.calls
    rw [htr, hcalls]
    exact h.close (hclose hp) (hflag ▸ hf)
  opened _ := htr ▸ h.opened hopen
  states := hstates

/-- **Client step.**  The moves that look at the flag leave it clear behind them; those that do not
    only carry on what the invariant says already. -/
theorem Move.rebootInv (m : Move mac s ch s') (h : RebootInv s) : RebootInv s' := by
  cases m with
  | loop hpc hs =>
    have hst := h.states
    rw [hpc] at hst
    exact ⟨fun hp => (nomatch hp), fun hp => (nomatch hp), fun hp => (nomatch hp), hst⟩
  | swapClear hpc hf =>
    exact ⟨fun _ hp => (nomatch hp), fun hp => (nomatch hp), fun hp => (nomatch hp), rfl⟩
  | enterBound hpc =>
    exact ⟨fun _ hf => h.token (by rw [hpc]; rfl) hf, fun hp => (nomatch hp),
      fun hp => (nomatch hp), rfl⟩
  | opened hpc hf =>
    -- `open` looked at the flag under the mutex.
    exact ⟨fun hp => (nomatch hp), fun _ hp => absurd hp (by simp [hf]), fun _ => rfl, rfl⟩
  | sent hpc | recvRound hpc =>
    exact h.exchange rfl rfl rfl (by rw [hpc]; rfl) rfl (fun _ => by rw [hpc]; rfl) rfl
  | received hpc | recvRunning hpc =>
    exact h.exchange rfl rfl rfl (by rw [hpc]; rfl) rfl nofun rfl
  | @recvHandled c d left res hpc hf =>
    have hpts := receivedPc_points mac s c d left res
    exact ⟨fun hp => absurd hp (by simp [hpts.1]), fun _ hp => absurd hp (by simp [hf]),
      fun _ => h.opened (by rw [hpc]; rfl), hpts.2⟩
  | pauseWait hpc hf =>
    exact ⟨fun _ hp => absurd hp (by simp [hf]), fun hp => (nomatch hp), fun hp => (nomatch hp),
      rfl⟩
  | pauseReboot | pauseStop | pauseTimer => exact .of_quiet (returnPc_quiet s _ _)
  | resume => exact .of_quiet (resumePc_quiet _ _)
  | @extendOver x k l => cases k <;> exact .of_quiet ⟨rfl, rfl, rfl, rfl⟩
  | _ => exact .of_quiet ⟨rfl, rfl, rfl, rfl⟩

/-- **Start of INIT-REBOOT.**  The client gets into INIT-REBOOT only by a swap that found the flag
    set. -/
theorem Move.starts_reboot (m : Move mac s ch s') (h : RebootInv s) (hr : s'.pc.inReboot = true) :
    s.pc.inReboot = true ∨ ∃ st, s.pc = .swap st ∧ s.flag = true := by
  cases m with
  | swapSet hpc hf => exact .inr ⟨_, hpc, hf⟩
  | @swapClear st hpc hf =>
    -- The run loop holds no INIT-REBOOT of its own.
    have hst := h.states
    rw [hpc] at hst
    have hne : st ≠ .rebooting := of_decide_eq_true hst
    exact absurd (of_decide_eq_true hr) hne
  | @recvHandled c d left res hpc hf =>
    have hc : c.isReboot = true := by
      revert hr
      unfold receivedPc
      split <;> (try split) <;> (try split) <;> exact id
    exact .inl (by rw [hpc]; exact hc)
  | @pauseReboot c t hpc | @pauseStop c t hpc | @pauseTimer c t hpc =>
    have hc : c.isReboot = true := by
      revert hr
      unfold returnPc
      split <;> exact id
    exact .inl (by rw [hpc]; exact hc)
  | @resume c res hpc =>
    have hc : (resumePc c res).inReboot = false := by
      unfold resumePc
      split <;> (try split) <;> (try split) <;> rfl
    exact absurd hr (by simp [hc])
  | @extendOver x k l hpc => cases k <;> cases hr
  | drain hpc | enterReboot hpc | rebootRound hpc | transport hpc | transportFail hpc
  | openInterrupted hpc | opened hpc | sent hpc | sendFail hpc | recvOver hpc | recvRound hpc
  | received hpc | recvStopped hpc | recvRunning hpc | recvReboot hpc | pauseWait hpc
  | pauseToken hpc | closeTr hpc => exact .inl (by rw [hpc]; exact hr)
  | _ => cases hr

/-- **Clearing the flag.**  The client clears a set flag only on its way into INIT-REBOOT and in
    `bind`. -/
theorem Move.clears_flag (m : Move mac s ch s') (hf : s.flag = true) (hf' : s'.flag = false) :
    (∃ st, s.pc = .swap st ∧ s'.pc = .drain) ∨ s.pc = .bindStore := by
  cases m with
  | swapSet hpc => exact .inl ⟨_, hpc, rfl⟩
  | swapClear hpc hclear => exact absurd hf (by simp [hclear])
  | bindStore hpc => exact .inr hpc
  | initExpire hpc | expire hpc =>
    have hkept : (expireLease s).flag = s.flag := by
      unfold expireLease
      split <;> rfl
    exact absurd (hkept.symm.trans hf') (by simp [hf])
  | _ => exact absurd (hf.symm.trans hf') (by simp)

/-! ### Steps of `Reboot` and `Stop` -/

variable {calls : List Phase} {i : Nat} {q r : Phase}

/-- A phase other than the replaced one stays in the list. -/
theorem mem_set_of_ne {p : Phase} (hi : calls[i]? = some q)
    (hne : p ≠ q) (hp : p ∈ calls) : p ∈ calls.set i r := by
  obtain ⟨j, hj⟩ := mem_iff_getElem?.mp hp
  have hij : i ≠ j := by
    rintro rfl
    exact hne (some.inj (hj.symm.trans hi))
  exact mem_iff_getElem?.mpr ⟨j, (getElem?_set_ne hij).trans hj⟩

/-- The new phase is in the list. -/
theorem mem_set_self (hi : calls[i]? = some q) : r ∈ calls.set i r :=
  List.mem_set (List.getElem?_eq_some_iff.mp hi).1 r

/-- A call that goes on from the flag towards the token stays between them. -/
theorem between_set (hi : calls[i]? = some q)
    (hqr : q.between = true → r.between = true) (h : ∃ p ∈ calls, p.between = true) :
    ∃ p ∈ calls.set i r, p.between = true := by
  obtain ⟨p, hp, hb⟩ := h
  by_cases hpq : p = q
  · grind [mem_set_self]
  · exact ⟨p, mem_set_of_ne hi hpq hp, hb⟩

/-- A step of the environment that leaves the client and the flag alone keeps the invariant if it
    keeps the tokens, the closed transports and the open ones. -/
theorem RebootInv.of_frame (h : RebootInv s) (hpc : s'.pc = s.pc)
    (hflag : s'.flag = true → s.flag = true ∨ s'.between ∧ .stored ∈ s'.calls)
    (hwakes : s.wakes → s'.wakes) (hcloses : s.tr.isSome = true → s.closes → s'.closes)
    (hopen : s.tr.isSome = true → s'.tr.isSome = true) : RebootInv s' := by
  obtain ⟨htoken, hclose, hopened, hstates⟩ := h
  have hneeds : s.pc.needsClose = true → s.pc.open = true := by
    cases s.pc <;> simp [Pc.needsClose, Pc.open]
  constructor
  · rw [hpc]
    intro hp hf
    rcases hflag hf with hf | hb
    · exact hwakes (htoken hp hf)
    · exact .inr hb.1
  · intro hp hf
    rcases hflag hf with hf | hb
    · grind
    · exact .inr hb.2
  · rw [hpc]
    exact fun hp => hopen (hopened hp)
  · rw [hpc]
    exact hstates

/-- **Reboot step.** -/
theorem rebootStep_rebootInv (h : RebootInv s) (hs : rebootStep s i = some s') : RebootInv s' := by
  unfold rebootStep at hs
  split at hs
  · -- the lock
    rename_i hi
    split at hs <;> cases hs
    exact h.of_frame rfl .inl (imp_right (between_set hi nofun))
      (fun _ => imp_right (mem_set_of_ne hi (by decide))) id
  · -- the flag: the call is now between the flag and the token, and about to close the transport
    rename_i hi
    cases hs
    have hmem : Phase.stored ∈ s.calls.set i .stored := mem_set_self hi
    exact h.of_frame rfl (fun _ => .inr ⟨⟨_, hmem, rfl⟩, hmem⟩) (fun _ => .inr ⟨_, hmem, rfl⟩)
      (fun _ _ => .inr hmem) id
  · -- the transport
    rename_i hi
    cases hs
    refine h.of_frame rfl .inl (imp_right (between_set hi (fun _ => rfl))) ?_ ?_
    · intro hopen _
      obtain ⟨b, hb⟩ := isSome_iff_exists.mp hopen
      exact .inl (by simp [hb])
    · intro hopen
      simpa using hopen
  · -- the unlock
    rename_i hi
    cases hs
    exact h.of_frame rfl .inl (imp_right (between_set hi (fun _ => rfl)))
      (fun _ => imp_right (mem_set_of_ne hi (by decide))) id
  · -- the token
    rename_i hi
    cases hs
    exact h.of_frame rfl .inl (fun _ => .inl rfl)
      (fun _ => imp_right (mem_set_of_ne hi (by decide))) id
  · cases hs

/-- Closing the open transport keeps the invariant. -/
theorem RebootInv.stop (h : RebootInv s) :
    RebootInv { s with stop := true, tr := s.tr.map (fun _ => true) } := by
  refine h.of_frame rfl .inl id ?_ ?_
  · intro hopen _
    obtain ⟨b, hb⟩ := isSome_iff_exists.mp hopen
    exact .inl (by simp [hb])
  · intro hopen
    simpa using hopen

variable {a : Act}

/-- **Step.**  Every step of the system keeps the invariant. -/
theorem step_rebootInv (h : RebootInv s) (hs : step mac s a = some s') : RebootInv s' := by
  cases a with
  | client ch => exact (clientStep_move hs).rebootInv h
  | call =>
    cases hs
    refine h.of_frame rfl .inl ?_ ?_ id
    · exact imp_right fun ⟨p, hp, hb⟩ => ⟨p, mem_append_left _ hp, hb⟩
    · exact fun _ => imp_right (mem_append_left _)
  | reboot i => exact rebootStep_rebootInv h hs
  | stop =>
    dsimp only [step] at hs
    split at hs
    · cases hs
    · grind [h.stop]
  | tick d =>
    cases hs
    exact h.of_frame rfl .inl id (fun _ => id) id

/-- **Run.**  The invariant holds in every reachable state. -/
theorem reachable_rebootInv (h : (machine mac).Reachable s) : RebootInv s :=
  h.invariant (.of_quiet ⟨rfl, rfl, rfl, rfl⟩) fun _ _ _ hi hs => step_rebootInv hi hs

/-! ### The requests -/

/-- Only the client gets into INIT-REBOOT, and only by a swap that found the flag set. -/
theorem step_starts_reboot (h : RebootInv s) (hs : step mac s a = some s')
    (hr : s'.pc.inReboot = true) :
    s.pc.inReboot = true ∨ ∃ st, s.pc = .swap st ∧ s.flag = true := by
  obtain ⟨ch, rfl, m⟩ | ⟨d, rfl, rfl⟩ | hframe := step_cases hs
  · exact m.starts_reboot h hr
  · exact .inl hr
  · exact .inl (hframe.pc ▸ hr)

/-- Only the client clears a set flag, on its way into INIT-REBOOT and in `bind`. -/
theorem step_clears_flag (hs : step mac s a = some s') (hf : s.flag = true)
    (hf' : s'.flag = false) : (∃ st, s.pc = .swap st ∧ s'.pc = .drain) ∨ s.pc = .bindStore := by
  obtain ⟨ch, rfl, m⟩ | ⟨d, rfl, rfl⟩ | hframe := step_cases hs
  · exact m.clears_flag hf hf'
  · exact absurd (hf.symm.trans hf') (by simp)
  · grind [hframe.flag]

/-- **No request is lost.**  In every reachable state: a client that waits while the flag is set
    has a token in its channel, or waits on a transport that was closed, or a `Reboot` call is
    still between the flag and the token.  Every step into INIT-REBOOT is a swap that found the
    flag set, so a token without the flag starts none.  And a set flag is cleared only by the swap
    that leads into INIT-REBOOT or by `bind`. -/
theorem reboot_request_kept (h : (machine mac).Reachable s) :
    (s.pc.blocked = true → s.flag = true →
      s.token = true ∨ s.tr = some true ∨ s.between) ∧
    ∀ a s', (machine mac).step s a = some s' →
      (s'.pc.inReboot = true →
        s.pc.inReboot = true ∨ ∃ st, s.pc = .swap st ∧ s.flag = true) ∧
      (s.flag = true → s'.flag = false →
        (∃ st, s.pc = .swap st ∧ s'.pc = .drain) ∨ s.pc = .bindStore) := by
  have hinv := reachable_rebootInv h
  refine ⟨?_, fun a s' hs => ⟨step_starts_reboot hinv hs, step_clears_flag hs⟩⟩
  intro hb hf
  have hstored : Phase.stored ∈ s.calls → s.between := fun hm => ⟨_, hm, rfl⟩
  -- The two `select`s wait for the token, the receive for the transport.
  by_cases hp : s.pc.needsToken = true
  · exact (hinv.token hp hf).imp_right .inr
  · have hrecv : s.pc.needsClose = true := by
      revert hb hp
      cases s.pc <;> simp [Pc.blocked, Pc.needsToken, Pc.needsClose]
    exact .inr ((hinv.close hrecv hf).imp_right hstored)

/-- A receive in INIT while a `Reboot` call has stored the flag and closed the transport. -/
def interruptedReceive : State where
  pc := .receive (.discover 7 0) (2 * second) (2 * second)
  flag := true
  mu := true
  tr := some true
  calls := [.closed]
  sent := [{ typ := .discover, xid := 7, secs := 0 }]

theorem interruptedReceive_kept :
    (machine []).Reachable interruptedReceive ∧ interruptedReceive.pc.blocked = true ∧
      interruptedReceive.flag = true ∧
      (interruptedReceive.token = true ∨ interruptedReceive.tr = some true ∨
        interruptedReceive.between) := by
  have hrun : (machine []).run (machine []).start
      [.client .go, .client .go, .client (.xid 7), .client (.jitter 0), .client .ok, .client .go,
        .client .ok, .client .go, .call, .reboot 0, .reboot 0, .reboot 0]
      = some interruptedReceive := rfl
  have hreach := Machine.reachable_of_run hrun
  exact ⟨hreach, rfl, rfl, (reboot_request_kept hreach).1 rfl rfl⟩

end Booty.Dhcp4
