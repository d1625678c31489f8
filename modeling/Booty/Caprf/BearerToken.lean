import Booty.Lib.GoError

namespace Booty.Caprf

open Lib List

/-!
# The bearer token of the client

A request of the client is made for a configured URL.  `setAuth` puts the token into its header
if the URL is an https one or its host is this machine; `http.Client.Do` sends it and follows the
redirects that the server answers with.  Only the first URL is checked.

* `httpDo` — one `Do`: up to ten requests, with the header while the redirects stay on the host
  and its sub-domains;
* `send` — what the methods of the client share; `doPost`, `doPostJSON` and `fetchCommands`;
* `token_secure_iff` — when the token never goes in plain text to another machine.
-/

/-- What is read of a parsed URL; the host is without its port. -/
structure Url where
  text : String
  scheme : String
  hostname : String

/-- The sentinel `errInsecureTransport`. -/
inductive TransportSentinel
  | insecureTransport
  deriving DecidableEq

/-- Errors of a request; the sentinel stands in front of the text that wraps it. -/
abbrev TransportError := GoError TransportSentinel Empty

/-- The text functions: `url.Parse`, `net.ParseIP` (IPv4 in its IPv6 form), the ASCII form of a
    host name, and the package's own redaction. -/
structure UrlTexts where
  parse : String → Except TransportError Url
  idnaASCII : String → String
  parseIP : String → Option (BitVec 128)
  redactedURL : String → String
  redactedURLError : String → TransportError → TransportError

/-- The token of a client, and whether its transport may be insecure. -/
structure Client where
  token : String
  insecure : Bool

/-- A request as it is sent; an empty header is not sent. -/
structure Request where
  url : Url
  authorization : String

/-- How a server answers: with redirects, and then a failure or a status. -/
structure Server where
  locations : List Url
  answer : Except TransportError Nat

/-- `IP.IsLoopback`: 127.0.0.0/8 or ::1. -/
def ipIsLoopback (ip : BitVec 128) : Bool := ip >>> 24 == 0xffff7f || ip == 1

/-- `isDomainOrSubdomain` of `net/http`; a name with a colon or a zone is an address. -/
def isDomainOrSubdomain (sub parent : String) : Bool :=
  sub == parent || (!sub.toList.any fun c => c == ':' || c == '%') &&
    ('.' :: parent.toList).isSuffixOf sub.toList

section Send

variable (t : UrlTexts) (c : Client)

/-- `shouldCopyHeaderOnRedirect`: the target is on the first host or below it. -/
def shouldCopyHeader (initial dest : Url) : Bool :=
  isDomainOrSubdomain (t.idnaASCII dest.hostname) (t.idnaASCII initial.hostname)

/-- The requests that follow redirects.  The header is dropped for good at another host. -/
def redirected (initial : Url) : String → List Url → List Request
  | _, [] => []
  | auth, u :: us =>
    let auth := if shouldCopyHeader t initial u then auth else ""
    ⟨u, auth⟩ :: redirected initial auth us

/-- The requests of `http.Client.Do`, which stops after ten. -/
def httpDo (u : Url) (auth : String) (locations : List Url) : List Request :=
  ⟨u, auth⟩ :: redirected t u auth (locations.take 9)

/-- `isLoopback`. -/
def isLoopback (host : String) : Bool :=
  host == "localhost" || (t.parseIP host).any ipIsLoopback

/-- A URL that may see the token. -/
def Secure (u : Url) : Prop := u.scheme = "https" ∨ isLoopback t u.hostname

instance (u : Url) : Decidable (Secure t u) := inferInstanceAs (Decidable (_ ∨ _))

/-- `setAuth`: the value of the header. -/
def setAuth (u : Url) : Except TransportError String :=
  if c.token = "" then .ok ""
  else if u.scheme ≠ "https" ∧ !isLoopback t u.hostname ∧ !c.insecure then
    .error (.wrap ("refusing bearer token on non-HTTPS request " ++ t.redactedURL u.text)
      (.sentinel .insecureTransport))
  else .ok ("Bearer " ++ c.token)

/-- `requireSecureEndpoint`. -/
def requireSecureEndpoint (rawURL purpose : String) : Except TransportError Unit :=
  if c.insecure then .ok ()
  else
    match t.parse rawURL with
    | .error e => .error (.wrap ("parse " ++ purpose ++ " URL " ++ t.redactedURL rawURL)
        (t.redactedURLError rawURL e))
    | .ok u =>
      if Secure t u then .ok ()
      else .error (.wrap (purpose ++ " requires HTTPS, got " ++ t.redactedURL rawURL)
        (.sentinel .insecureTransport))

/-- What the methods share: the endpoint check of some of them, the request for the URL, `setAuth`
    and `Do`, with the requests that are sent. -/
def send (checked : Option (String × String)) (create : TransportError → TransportError)
    (what url : String) (server : Server) : List Request × Except TransportError Nat :=
  match checked.elim (.ok ()) fun e => requireSecureEndpoint t c e.1 e.2 with
  | .error e => ([], .error e)
  | .ok () =>
    match t.parse url with
    | .error e => ([], .error (create e))
    | .ok u =>
      match setAuth t c u with
      | .error e => ([], .error e)
      | .ok auth => (httpDo t u auth server.locations,
          server.answer.mapError fun e => .wrap what (t.redactedURLError u.text e))

/-- `doPost`: the requests and the result. -/
def doPost (url : String) (server : Server) : List Request × Except TransportError Unit :=
  let what := "POST " ++ t.redactedURL url
  let sent := send t c none
    (fun e => .wrap ("create request " ++ t.redactedURL url) (t.redactedURLError url e))
    what url server
  (sent.1, sent.2.bind fun status =>
    if status < 200 ∨ 300 ≤ status then .error (.new s!"{what}: status {status}") else .ok ())

/-- `doPostJSON` has another content type. -/
def doPostJSON := doPost

/-- `FetchCommands`, up to the status; without a URL there are no commands, as for 204. -/
def fetchCommands (longPollURL : String → String) (commandsURL : String) (server : Server) :
    List Request × Except TransportError Nat :=
  if commandsURL = "" then ([], .ok 204)
  else send t c (some (commandsURL, "commands polling"))
    (fun e => .wrap ("create commands request " ++ t.redactedURL commandsURL)
      (t.redactedURLError commandsURL e))
    "fetch commands" (longPollURL commandsURL) server

end Send

section Theorems

variable {t : UrlTexts} {c : Client} {first : Url} {auth : String}

/-- A header that was dropped stays away. -/
theorem redirected_without (us : List Url) :
    ∀ r ∈ redirected t first "" us, r.authorization = "" := by
  induction us with
  | nil => exact fun r hr => by cases hr
  | cons u us ih => simpa only [redirected, ite_self, forall_mem_cons, true_and] using ih

/-- **The redirects** that see the token are those before the first to another host. -/
theorem redirected_secure (hauth : auth ≠ "") (us : List Url) :
    (∀ r ∈ redirected t first auth us, r.authorization ≠ "" → Secure t r.url) ↔
      ∀ v ∈ us.takeWhile (shouldCopyHeader t first), Secure t v := by
  induction us with
  | nil => simp [redirected]
  | cons u us ih =>
    by_cases hu : shouldCopyHeader t first u
    · simp [redirected, hu, hauth, ih]
    · simp only [redirected, hu, takeWhile_cons, forall_mem_cons]
      exact iff_of_true ⟨fun h => absurd rfl h, fun r hr h => absurd (redirected_without us r hr) h⟩
        fun v hv => by cases hv

/-- **The token stays on secure requests** exactly if every redirect before the first that leaves
    the host and its sub-domains is to an https URL or to this machine. -/
theorem token_secure_iff (hc : c.insecure = false) (checked : Option (String × String))
    (create : TransportError → TransportError) (what url : String) (server : Server) :
    (∀ r ∈ (send t c checked create what url server).1, r.authorization ≠ "" → Secure t r.url) ↔
      (c.token ≠ "" → (∀ e ∈ checked, requireSecureEndpoint t c e.1 e.2 = .ok ()) →
        ∀ u, t.parse url = .ok u → Secure t u →
          ∀ v ∈ (server.locations.take 9).takeWhile (shouldCopyHeader t u), Secure t v) := by
  unfold send
  cases hcheck : checked.elim (.ok ()) fun e => requireSecureEndpoint t c e.1 e.2 with
  -- Nothing is sent.
  | error e =>
    refine iff_of_true (fun r hr => by cases hr) fun _ hall => ?_
    cases checked with
    | none => cases hcheck
    | some x => rw [Option.elim_some, hall x rfl] at hcheck; cases hcheck
  | ok _ =>
    have hall : ∀ e ∈ checked, requireSecureEndpoint t c e.1 e.2 = .ok () := by
      rintro e rfl
      exact hcheck
    cases hparse : t.parse url with
    | error e => exact iff_of_true (fun r hr => by cases hr) fun _ _ u hu => by cases hu
    | ok u =>
      simp only [setAuth, hc, Bool.not_false, and_true]
      by_cases htok : c.token = ""
      -- Without a token no request has the header.
      · rw [if_pos htok]
        refine iff_of_true (forall_mem_cons.mpr ⟨absurd rfl, fun r hr h => ?_⟩) (absurd htok)
        exact absurd (redirected_without _ r hr) h
      · rw [if_neg htok]
        by_cases hu : Secure t u
        · have hsent : ¬(u.scheme ≠ "https" ∧ !isLoopback t u.hostname) := by grind [Secure]
          rw [if_neg hsent]
          refine forall_mem_cons.trans ((and_iff_right fun _ => hu).trans
            ((redirected_secure (by simp) _).trans ⟨fun h _ _ u' hu' _ => ?_,
              fun h => h htok hall u rfl hu⟩))
          cases hu'
          exact h
        · have hrefused : u.scheme ≠ "https" ∧ !isLoopback t u.hostname := by grind [Secure]
          rw [if_pos hrefused]
          refine iff_of_true (fun r hr => by cases hr) fun _ _ u' hu' hs => ?_
          cases hu'
          exact absurd hs hu

/-- A server at host h, reached over https. -/
def sampleTexts : UrlTexts where
  parse _ := .ok ⟨"https://h/", "https", "h"⟩
  idnaASCII := id
  parseIP _ := none
  redactedURL := id
  redactedURLError _ e := e

/-- The token is gone when the redirects come back to the plain port of the first host. -/
theorem token_secure_elsewhere :
    isLoopback sampleTexts "h" = false ∧
      ∀ r ∈ (send sampleTexts ⟨"t", false⟩ none id "POST" "https://h/"
        ⟨[⟨"http://o/", "http", "o"⟩, ⟨"http://h/", "http", "h"⟩], .ok 200⟩).1,
        r.authorization ≠ "" → Secure sampleTexts r.url := by
  refine ⟨rfl, (token_secure_iff rfl ..).mpr fun _ _ u hu _ => ?_⟩
  cases hu
  decide

/-- The server redirects to its own plain port, or to that of a sub-domain, and the token is sent
    there. -/
theorem token_in_plain_text :
    (∃ r ∈ (doPost sampleTexts ⟨"t", false⟩ "https://h/"
        ⟨[⟨"http://h/", "http", "h"⟩], .ok 200⟩).1,
      r.authorization = "Bearer t" ∧ ¬Secure sampleTexts r.url) ∧
    ∃ r ∈ (doPost sampleTexts ⟨"t", false⟩ "https://h/"
        ⟨[⟨"http://sub.h/", "http", "sub.h"⟩], .ok 200⟩).1,
      r.authorization = "Bearer t" ∧ ¬Secure sampleTexts r.url := by
  decide

end Theorems

end Booty.Caprf
