import Booty.Lib.ErrorTree
import Booty.Lib.GoInt
import Booty.Lib.System

namespace Booty.Auth

open Booty.Lib ErrorTree

/-!
# Renewal of the token

The goroutine that `StartRenewal` launches: it waits, renews the token with retries, and ends when
its context is done or after it has called the fatal handler.  A cancellation is told from a failure
by the identity of the error, after a redaction that keeps the causes.

* `redactTokenError` — the redaction.
* `renew` — one attempt; `loop` — the goroutine as a machine.
* `stops_redactTokenError` — which errors are still taken as a cancellation.
* `renewLoop_reports` — the loop does not end silently, if no outcome of the endpoint is taken as a
  cancellation.
-/

/-- The errors that the code asks for. -/
inductive Sentinel
  | canceled | deadlineExceeded | tokenExpired
deriving DecidableEq, Repr

/-- The errors of the renewal. -/
abbrev Err := ErrorTree Sentinel

/-- `context.Canceled`. -/
def canceled : Err := .leaf "context canceled" (· = .canceled) none

/-- `context.DeadlineExceeded`, a `net.Error`. -/
def deadlineExceeded : Err := .leaf "context deadline exceeded" (· = .deadlineExceeded) (some true)

/-- `ErrTokenExpired`. -/
def errTokenExpired : Err :=
  .leaf "token expires without a successful renewal" (· = .tokenExpired) none

/-- The error is taken as a cancellation. -/
def stops (e : Err) : Bool := e.is .canceled || e.is .deadlineExceeded

/-- An innermost cause of the error is. -/
def leafStops (e : Err) : Bool := e.leafIs .canceled || e.leafIs .deadlineExceeded

/-- `RenewalPolicy`: the part that decides how often the renewal is tried. -/
structure RenewalPolicy where
  retries : Int

/-- How often a renewal is tried. -/
def defaultRenewRetries : Int := 5

/-- `SetRenewalPolicy`. -/
def setRenewalPolicy (p : RenewalPolicy) : RenewalPolicy :=
  if p.retries ≤ 0 then ⟨defaultRenewRetries⟩ else p

/-- The number of attempts is always positive. -/
theorem setRenewalPolicy_pos (p : RenewalPolicy) : 0 < (setRenewalPolicy p).retries := by
  unfold setRenewalPolicy
  split_ifs with h
  · decide
  · omega

/-- A `TokenManager` after its setup: the policy, whether a fatal handler is set, and the texts of
    the redaction. -/
structure TokenManager where
  policy : RenewalPolicy
  retries_pos : 0 < policy.retries
  onFatal : Bool
  tokenURL : String
  /-- `redactTokenURL`. -/
  redactTokenURL : String → String
  /-- The text of `redact.Wrap` for the token URL. -/
  redactWrap : String → String
  /-- The text of `%q`. -/
  quote : String → String

namespace TokenManager

variable (tm : TokenManager)

/-! ### The redaction -/

/-- `redactTokenErrorString`. -/
def redactTokenErrorString (msg : String) : String :=
  tm.redactTokenURL tm.tokenURL ++ ": " ++ tm.redactWrap msg

mutual

/-- `redactTokenError`. -/
def redactTokenError : Err → Err
  | .url op address inner =>
    .url op (tm.redactWrap (tm.redactTokenURL address)) (redactTokenError inner)
  | .join text _ _ inners =>
    .join (tm.redactTokenErrorString text) ErrorTree.plain none (redactTokenErrors inners)
  | .hollow text _ _ => .hollow (tm.redactTokenErrorString text) ErrorTree.plain none
  | .wrap text _ _ inner =>
    .wrap (tm.redactTokenErrorString text) ErrorTree.plain (redactTokenError inner).asNet
      (redactTokenError inner)
  | .leaf text own net =>
    if own .canceled then canceled
    else if own .deadlineExceeded then deadlineExceeded
    else .leaf (tm.redactTokenErrorString text) ErrorTree.plain net

/-- `redactTokenError` for each of some errors. -/
def redactTokenErrors : List Err → List Err
  | [] => []
  | e :: es => redactTokenError e :: redactTokenErrors es

end

/-! ### One attempt -/

/-- The answer of the token endpoint. -/
structure TokenResponse where
  accessToken : String
  refreshToken : String
  expiresIn : Int

/-- What the token endpoint answers to a request. -/
inductive Reply
  /-- The request can not be made. -/
  | noRequest (err : Err)
  /-- `client.Do` fails. -/
  | transport (err : Err)
  | status (code : Int)
  /-- Status 200 with a body that can not be read or decoded. -/
  | undecodable (err : Err)
  | ok (response : TokenResponse)

/-- An error of `renew` at the token URL. -/
def renewError (what : String) : Err :=
  .new ("renew token from " ++ tm.redactTokenURL tm.tokenURL ++ ": " ++ what)

/-- `renew`: the new token, or an error. -/
def renew : Reply → Except Err TokenResponse
  | .noRequest err =>
    let redacted := tm.redactTokenError err
    .error (.errorf ("create renewal request for " ++ tm.redactTokenURL tm.tokenURL ++ ": " ++
      redacted.text tm.quote) redacted)
  | .transport err =>
    let redacted := tm.redactTokenError err
    .error (.errorf ("renew token from " ++ tm.redactTokenURL tm.tokenURL ++ ": " ++
      redacted.text tm.quote) redacted)
  | .status code => .error (tm.renewError ("status " ++ toString code))
  | .undecodable err =>
    .error (.errorf ("decode renewal response from " ++ tm.redactTokenURL tm.tokenURL ++ ": " ++
      err.text tm.quote) err)
  | .ok response =>
    if response.accessToken = "" then .error (tm.renewError "empty access_token in response")
    else if response.expiresIn ≤ 0 then
      .error (tm.renewError ("invalid expires_in " ++ toString response.expiresIn))
    else .ok response

/-! ### The loop -/

/-- Where the goroutine is. -/
inductive Phase
  /-- In the `select` of `renewLoop`. -/
  | waiting
  /-- Before an attempt of `renewWithRetry`, with the last error. -/
  | trying (attempt : Nat) (expiresAt : Int) (last : Option Err)
  /-- In its `select` between two attempts. -/
  | pausing (attempt : Nat) (expiresAt : Int) (last : Option Err)
  | ended

/-- The state of the renewal loop. -/
structure State where
  token : String
  refreshToken : String
  expiresAt : Int
  /-- `ctx.Err()`. -/
  done : Option Err
  phase : Phase
  /-- The errors that the fatal handler got. -/
  fatal : List Err

/-- What happens next.  When a timer fires is left to the environment. -/
inductive Action
  | cancel
  | expireContext
  | timer
  /-- An attempt: the time of the check, the reply, and the time after it. -/
  | attempt (now : Int) (reply : Reply) (later : Int)
  | pauseOver
  /-- A `select` takes the context. -/
  | contextDone

/-- `renewLoop` after an error of `renewWithRetry`. -/
def failed (s : State) (err : Err) : State :=
  if stops err then { s with phase := .ended }
  else if tm.onFatal then { s with phase := .ended, fatal := s.fatal ++ [err] }
  else { s with phase := .waiting }

/-- `errOrNone`. -/
def errOrNone (err : Option Err) : Err := err.getD (.new "no renewal attempt")

/-- The error of `renewWithRetry` for a token that has expired. -/
def expiredError (last : Option Err) : Err :=
  .join (errTokenExpired.text tm.quote ++ ": " ++ (errOrNone last).text tm.quote) ErrorTree.plain
    none [errTokenExpired, errOrNone last]

/-- The error of `renewWithRetry` after the last attempt. -/
def exhaustedError (last : Err) : Err :=
  .errorf ("renewal failed after " ++ toString tm.policy.retries ++ " attempts: " ++
    last.text tm.quote) last

/-- A renewed token. -/
def renewed (s : State) (response : TokenResponse) (later : Int) : State :=
  { s with
    token := response.accessToken
    refreshToken := if response.refreshToken ≠ "" then response.refreshToken else s.refreshToken
    expiresAt := later + (response.expiresIn * second).bmod (2 ^ 64)
    phase := .waiting }

/-- One turn of the loop of `renewWithRetry`. -/
def tryOnce (s : State) (attempt : Nat) (expiresAt : Int) (last : Option Err) (now : Int)
    (reply : Reply) (later : Int) : State :=
  if expiresAt ≤ now then tm.failed s (tm.expiredError last)
  else
    match tm.renew reply with
    | .ok response => renewed s response later
    | .error err =>
      if (attempt : Int) = tm.policy.retries - 1 then tm.failed s (tm.exhaustedError err)
      else { s with phase := .pausing attempt expiresAt (some err) }

/-- One step of the loop or of what is around it. -/
def step (s : State) : Action → Option State
  | .cancel => some { s with done := s.done.or (some canceled) }
  | .expireContext => some { s with done := s.done.or (some deadlineExceeded) }
  | .timer =>
    match s.phase with
    | .waiting => some { s with phase := .trying 0 s.expiresAt none }
    | _ => none
  | .attempt now reply later =>
    match s.phase with
    | .trying attempt expiresAt last =>
      some (tm.tryOnce s attempt expiresAt last now reply later)
    | _ => none
  | .pauseOver =>
    match s.phase with
    | .pausing attempt expiresAt last =>
      some { s with phase := .trying (attempt + 1) expiresAt last }
    | _ => none
  | .contextDone =>
    match s.phase, s.done with
    | .waiting, some _ => some { s with phase := .ended }
    | .pausing _ _ _, some err =>
      some (tm.failed s (.errorf ("renewal canceled: " ++ err.text tm.quote) err))
    | _, _ => none

/-- The goroutine, started with an acquired token. -/
def loop (token refreshToken : String) (expiresAt : Int) : Machine State Action where
  start := ⟨token, refreshToken, expiresAt, none, .waiting, []⟩
  step := tm.step

/-! ### Which errors are taken as a cancellation -/

variable {tm}

mutual

theorem stops_redactTokenError (tm : TokenManager) :
    ∀ e : Err, stops (tm.redactTokenError e) = leafStops e
  | .leaf text own net => by
    unfold stops leafStops redactTokenError
    cases hc : own .canceled with
    | true => simp [canceled, is, leafIs, hc]
    | false =>
      cases hd : own .deadlineExceeded with
      | true => simp [deadlineExceeded, is, leafIs, hd]
      | false => simp [is, leafIs, plain, hc, hd]
  | .hollow text own net => by
    simp [stops, leafStops, redactTokenError, is, leafIs, plain]
  | .wrap text own net inner => by
    have ih := stops_redactTokenError tm inner
    simpa [stops, leafStops, redactTokenError, is, leafIs, plain] using ih
  | .join text own net inners => by
    have ih := stops_redactTokenErrors tm inners
    simpa [stops, leafStops, redactTokenError, is, leafIs, plain] using ih
  | .url op address inner => by
    have ih := stops_redactTokenError tm inner
    simpa [stops, leafStops, redactTokenError, is, leafIs] using ih

theorem stops_redactTokenErrors (tm : TokenManager) : ∀ es : List Err,
    (isAny .canceled (tm.redactTokenErrors es) ||
      isAny .deadlineExceeded (tm.redactTokenErrors es)) =
    (leafIsAny .canceled es || leafIsAny .deadlineExceeded es)
  | [] => rfl
  | e :: es => by
    have he := stops_redactTokenError tm e
    have hes := stops_redactTokenErrors tm es
    unfold stops leafStops at he
    simp only [redactTokenErrors, isAny, leafIsAny]
    -- regroup into the head and the tail
    calc _ = ((is .canceled (tm.redactTokenError e) ||
            is .deadlineExceeded (tm.redactTokenError e)) ||
          (isAny .canceled (tm.redactTokenErrors es) ||
            isAny .deadlineExceeded (tm.redactTokenErrors es))) := by ac_rfl
      _ = ((leafIs .canceled e || leafIs .deadlineExceeded e) ||
          (leafIsAny .canceled es || leafIsAny .deadlineExceeded es)) := by
        rw [he, hes]
      _ = _ := by ac_rfl

end

@[simp] theorem stops_errorf (text : String) (e : Err) : stops (.errorf text e) = stops e := by
  simp [stops]

@[simp] theorem stops_new (text : String) : stops (.new text) = false := by
  simp [stops]

/-- The reply of the endpoint is taken as a cancellation: its error is one after the redaction, or,
    for the body, as it is. -/
def Reply.stops : Reply → Bool
  | .noRequest err => leafStops err
  | .transport err => leafStops err
  | .undecodable err => Auth.stops err
  | .status _ => false
  | .ok _ => false

/-- **Attempt.** Its error is a cancellation exactly if the reply is taken as one. -/
theorem stops_renew {reply : Reply} {err : Err} (h : tm.renew reply = .error err) :
    stops err = reply.stops := by
  cases reply with
  | noRequest e =>
    cases h
    rw [stops_errorf, stops_redactTokenError]
    rfl
  | transport e =>
    cases h
    rw [stops_errorf, stops_redactTokenError]
    rfl
  | status code =>
    cases h
    exact stops_new _
  | undecodable e =>
    cases h
    exact stops_errorf _ _
  | ok response =>
    simp only [renew] at h
    split_ifs at h <;> cases h <;> exact stops_new _

theorem stops_expiredError (last : Option Err) :
    stops (tm.expiredError last) = stops (errOrNone last) := by
  simp [stops, expiredError, is, isAny, plain, errTokenExpired]

/-! ### Runs -/

/-- The last error of a round of attempts. -/
def Phase.last : Phase → Option Err
  | .trying _ _ last => last
  | .pausing _ _ last => last
  | _ => none

/-- An end is accounted for, and so is an error that would be taken as a cancellation. -/
structure Accounted (s : State) : Prop where
  reported : s.phase = .ended → s.done.isSome ∨ s.fatal ≠ []
  last : ∀ err, s.phase.last = some err → stops err → s.done.isSome

/-- While its context is not done, no outcome of the endpoint is taken as a cancellation. -/
def Told (s : State) : Action → Prop
  | .attempt _ reply _ => s.done.isNone → reply.stops = false
  | _ => True

instance (s : State) : ∀ a, Decidable (Told s a)
  | .attempt _ reply _ =>
    inferInstanceAs (Decidable (s.done.isNone = true → reply.stops = false))
  | .cancel | .expireContext | .timer | .pauseOver | .contextDone =>
    inferInstanceAs (Decidable True)

variable {s : State} {err : Err}

/-- A goroutine that goes on, without an error so far, is accounted for. -/
theorem accounted_of_fresh (hphase : s.phase ≠ .ended) (hlast : s.phase.last = none) :
    Accounted s := by
  refine ⟨fun hended => absurd hended hphase, fun err herr => ?_⟩
  rw [hlast] at herr
  cases herr

/-- **Failure.** A round whose error is no cancellation, or that ends with the context done, leaves
    an accounted state. -/
theorem accounted_failed (h : stops err → s.done.isSome) : Accounted (tm.failed s err) := by
  unfold failed
  split_ifs with hstops hfatal
  · exact ⟨fun _ => .inl (h hstops), fun e he => (by cases he)⟩
  · exact ⟨fun _ => .inr (by simp), fun e he => (by cases he)⟩
  · exact accounted_of_fresh (by simp) rfl

theorem stops_errOrNone (h : Accounted s) (hstops : stops (errOrNone s.phase.last)) :
    s.done.isSome := by
  cases hlast : s.phase.last with
  | none =>
    rw [hlast] at hstops
    simp [errOrNone] at hstops
  | some err =>
    rw [hlast] at hstops
    exact h.last err hlast hstops

theorem accounted_tryOnce {attempt : Nat} {expiresAt now later : Int} {last : Option Err}
    {reply : Reply} (h : Accounted s) (hphase : s.phase = .trying attempt expiresAt last)
    (htold : s.done.isNone → reply.stops = false) :
    Accounted (tm.tryOnce s attempt expiresAt last now reply later) := by
  -- a stopping reply comes only when the context is done
  have hreply : reply.stops = true → s.done.isSome := by
    intro hstops
    by_contra hdone
    have hnone : s.done.isNone := by simpa using hdone
    rw [htold hnone] at hstops
    cases hstops
  unfold tryOnce
  by_cases hexpired : expiresAt ≤ now
  · rw [if_pos hexpired]
    refine accounted_failed fun hstops => stops_errOrNone h ?_
    rw [hphase]
    rwa [stops_expiredError] at hstops
  · rw [if_neg hexpired]
    cases hrenew : tm.renew reply with
    | ok response => exact accounted_of_fresh (by simp [renewed]) rfl
    | error e =>
      have he : stops e → s.done.isSome := fun hstops => hreply (stops_renew hrenew ▸ hstops)
      split_ifs with hlast
      · refine accounted_failed fun hstops => he ?_
        rwa [exhaustedError, stops_errorf] at hstops
      · refine ⟨fun hp => (by cases hp), fun e' he' hstops => he ?_⟩
        cases he'
        exact hstops

/-- **Step.** -/
theorem accounted_step {a : Action} {s' : State} (h : Accounted s) (htold : Told s a)
    (hstep : tm.step s a = some s') : Accounted s' := by
  -- a context that is done stays done
  have hdone : ∀ e : Err, Accounted { s with done := s.done.or (some e) } := fun e =>
    ⟨fun _ => .inl (by simp), fun _ _ _ => by simp⟩
  cases a with
  | cancel =>
    cases hstep
    exact hdone _
  | expireContext =>
    cases hstep
    exact hdone _
  | timer =>
    simp only [step] at hstep
    split at hstep
    · cases hstep
      exact accounted_of_fresh (by simp) rfl
    · cases hstep
  | attempt now reply later =>
    simp only [step] at hstep
    split at hstep
    next attempt expiresAt last hphase =>
      cases hstep
      exact accounted_tryOnce h hphase htold
    · cases hstep
  | pauseOver =>
    simp only [step] at hstep
    split at hstep
    next attempt expiresAt last hphase =>
      cases hstep
      refine ⟨fun hp => (by cases hp), fun e he => h.last e ?_⟩
      rw [hphase]
      exact he
    · cases hstep
  | contextDone =>
    simp only [step] at hstep
    split at hstep
    next err hphase hctx =>
      cases hstep
      exact ⟨fun _ => .inl (by simp [hctx]), fun e he => (by cases he)⟩
    next attempt expiresAt last err hphase hctx => grind [accounted_failed]
    · cases hstep

/-- **The loop does not end silently**, in every run in which no outcome of the endpoint is taken
    as a cancellation while the context is not done. -/
theorem renewLoop_reports (tm : TokenManager) (token refreshToken : String) (expiresAt : Int)
    (s : State) (hrun : (tm.loop token refreshToken expiresAt).Reaches Told s)
    (hended : s.phase = .ended) : s.done.isSome ∨ s.fatal ≠ [] := by
  have hacc : Accounted s := hrun.invariant (accounted_of_fresh (by simp [loop]) rfl)
    fun _ _ _ h htold hstep => accounted_step h htold hstep
  exact hacc.reported hended

/-! ### Two rounds of five attempts -/

/-- A manager with the default policy and a fatal handler. -/
def defaultManager : TokenManager where
  policy := setRenewalPolicy ⟨0⟩
  retries_pos := setRenewalPolicy_pos _
  onFatal := true
  tokenURL := "https://caprf/token"
  redactTokenURL u := u
  redactWrap msg := msg
  quote s := s

/-- A round in which every attempt has the same outcome. -/
def roundOf (reply : Reply) : List Action :=
  [.timer, .attempt 0 reply 0, .pauseOver, .attempt 0 reply 0, .pauseOver, .attempt 0 reply 0,
    .pauseOver, .attempt 0 reply 0, .pauseOver, .attempt 0 reply 0]

/-- A round of failures with status 500 ends with a call of the fatal handler. -/
theorem renewLoop_reports_status :
    ∃ s, (defaultManager.loop "token" "refresh" 1).Reaches Told s ∧ s.phase = .ended ∧
      (s.done.isSome ∨ s.fatal ≠ []) := by
  have hrun : ∃ s, ((defaultManager.loop "token" "refresh" 1).guarded Told).run
      (defaultManager.loop "token" "refresh" 1).start (roundOf (.status 500)) = some s ∧
        s.phase = .ended := ⟨_, rfl, rfl⟩
  obtain ⟨s, hrun, hended⟩ := hrun
  have hreach : (defaultManager.loop "token" "refresh" 1).Reaches Told s :=
    Machine.reaches_of_guarded (Machine.reachable_of_run hrun)
  exact ⟨s, hreach, hended, renewLoop_reports _ _ _ _ s hreach hended⟩

/-- The error of `http.Client` for its own timeout, which matches `context.DeadlineExceeded`. -/
def clientTimeout : Err :=
  .url "Post" "https://caprf/token" (.leaf ("context deadline exceeded " ++
    "(Client.Timeout exceeded while awaiting headers)") (· = .deadlineExceeded) (some true))

/-- A round of client timeouts ends the goroutine; its context is not done and the fatal handler,
    which is set, was not called. -/
theorem clientTimeouts_end_silently :
    defaultManager.onFatal = true ∧ ∃ s, (defaultManager.loop "token" "refresh" 1).Reachable s ∧
      s.phase = .ended ∧ s.done = none ∧ s.fatal = [] := by
  have hrun : ∃ s, (defaultManager.loop "token" "refresh" 1).run
      (defaultManager.loop "token" "refresh" 1).start (roundOf (.transport clientTimeout)) =
        some s ∧ s.phase = .ended ∧ s.done = none ∧ s.fatal = [] := ⟨_, rfl, rfl, rfl, rfl⟩
  obtain ⟨s, hrun, hend⟩ := hrun
  exact ⟨rfl, s, Machine.reachable_of_run hrun, hend⟩

end TokenManager

end Booty.Auth
