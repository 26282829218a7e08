import RegletHost.Http.Response
import RegletHost.Host.UrlFull
import Mathlib.Data.String.Basic

/-!
`handleHTTPError` (`src/http.go`): the response `PerformHTTPRequest` returns when
`client.Do` fails, and the errors `client.Do` returns then.

An error reaches `handleHTTPError` as a `*url.Error` that `Client.Do` builds around the
transport's error: the request's method as `Op`, the request's URL as text, the cause.
`GoError` gives the error values by kind, with their `Error()` text and `errors.As` along
their `Unwrap` chain; the netfilter block of `SecureDialer.DialContext` is
`GoError.ssrfBlocked`, whose text is `SecureDialer.ssrfBlockedError`.

* `handleHTTPError_code_ssrf_iff`: the code is `SSRF_BLOCKED` exactly when the error wraps
  an `SSRFBlockedError`, the context's deadline has not passed, and the error's text holds
  none of `timeout`, `redirect`, `no such host` and `connection refused`.
* `handleHTTPError_ssrf_url_word`: the text holds the request's URL, so a blocked request
  to a URL that holds one of those words is never coded `SSRF_BLOCKED`.
-/

namespace RegletHost

namespace Http

open NetUrl Netutil

/-- The error values `handleHTTPError` receives, by kind. -/
inductive GoError
  /-- `*netutil.SSRFBlockedError`. -/
  | ssrfBlocked (address reason : String)
  /-- `*url.Error`. -/
  | url (op url : String) (err : GoError)
  /-- `fmt.Errorf` with `%w` at the end: the text before it, and the wrapped error. -/
  | wrapped (msg : String) (err : GoError)
  /-- An error whose chain holds none of these. -/
  | other (msg : String)
  deriving Repr

namespace GoError

/-- `Error()`; a `*url.Error` prints as `Op "URL": Err`. -/
def error : GoError → String
  | ssrfBlocked address reason => SecureDialer.ssrfBlockedError address reason
  | url op u err => op ++ " " ++ goQuote u ++ ": " ++ err.error
  | wrapped msg err => msg ++ err.error
  | other msg => msg

/-- `netutil.IsSSRFBlockedError`: `errors.As` finds an `*SSRFBlockedError` in the chain. -/
def isSSRFBlockedError : GoError → Bool
  | ssrfBlocked .. => true
  | url _ _ err => err.isSSRFBlockedError
  | wrapped _ err => err.isSSRFBlockedError
  | other _ => false

end GoError

/-- The substrings `handleHTTPError` looks for, in its order, with their codes. -/
def errorWords : List (String × String) :=
  [("timeout", "TIMEOUT"), ("redirect", "TOO_MANY_REDIRECTS"),
    ("no such host", "HOST_NOT_FOUND"), ("connection refused", "CONNECTION_REFUSED")]

lemma errorWords_plain : ∀ w ∈ errorWords, ∀ c ∈ w.1.toList, c ≠ '"' ∧ c ≠ '\\' := by decide

/-- `handleHTTPError(err, ctx, latency)`; `deadlineExceeded` is
`ctx.Err() == context.DeadlineExceeded`, the latency is in nanoseconds. -/
def handleHTTPError (err : GoError) (deadlineExceeded : Bool) (latency : Int) : HTTPResponse :=
  let code :=
    if contains err.error "timeout" || deadlineExceeded then "TIMEOUT"
    else if contains err.error "redirect" then "TOO_MANY_REDIRECTS"
    else if contains err.error "no such host" then "HOST_NOT_FOUND"
    else if contains err.error "connection refused" then "CONNECTION_REFUSED"
    else if err.isSSRFBlockedError then "SSRF_BLOCKED"
    else "REQUEST_FAILED"
  { latencyMs := milliseconds latency, error := some ⟨code, err.error⟩ }

/-! ### The errors of `Client.Do` -/

/-- A printable ASCII byte, as `ascii.ToLower` requires. -/
def isPrint (c : Char) : Bool := ' ' ≤ c && c ≤ '~'

/-- `urlErrorOp`: `Get` for no method; else the method with the bytes after the first
lowercased when it is printable ASCII, as it is. -/
def urlErrorOp (method : String) : String :=
  match method.toList with
  | [] => "Get"
  | c :: rest => if (c :: rest).all isPrint then String.mk (c :: rest.map Char.toLower) else method

/-- `strings.Replace(s, old, new, 1)`. -/
def replaceFirst (old new : List Char) : List Char → List Char
  | [] => if old = [] then new else []
  | c :: s => if old.isPrefixOf (c :: s) then new ++ (c :: s).drop old.length
    else c :: replaceFirst old new s

/-- `stripPassword`: the URL's text, a password set in it replaced by `***`. -/
def stripPassword (u : Full.URL) : String :=
  match u.user with
  | some ui =>
    if ui.passwordSet then
      String.mk (replaceFirst (ui.toString ++ ['@']) (ui.username.toList ++ ":***@".toList)
        u.toString.toList)
    else u.toString
  | none => u.toString

/-- The error `Client.Do` returns when the request to `u` fails with `err` before a
response: a `*url.Error` around it, or around the text of a client timeout, which does not
unwrap. -/
def doError (method : String) (u : Full.URL) (didTimeout : Bool) (err : GoError) : GoError :=
  .url (urlErrorOp method) (stripPassword u)
    (if didTimeout then .other (err.error ++ " (Client.Timeout exceeded while awaiting headers)")
     else err)

/-! ### The codes -/

/-- The text of `Client.Do`'s error holds the URL's text. -/
lemma doError_error (method : String) (u : Full.URL) (didTimeout : Bool) (err : GoError) :
    ∃ a b, (doError method u didTimeout err).error.toList =
      a ++ (goQuote (stripPassword u)).toList ++ b :=
  ⟨(urlErrorOp method ++ " ").toList, (": " ++ (if didTimeout then GoError.other
      (err.error ++ " (Client.Timeout exceeded while awaiting headers)") else err).error).toList,
    by simp [doError, GoError.error]⟩

/-- A word without quotes or backslashes in a text is in its quoted form. -/
lemma contains_goQuote {s w : String} (hw : ∀ c ∈ w.toList, c ≠ '"' ∧ c ≠ '\\')
    (h : contains s w = true) : contains (goQuote s) w = true := by
  rw [contains_iff_occurs] at h ⊢
  obtain ⟨a, b, hab⟩ := h
  have hplain : ∀ l : List Char, (∀ c ∈ l, c ≠ '"' ∧ c ≠ '\\') →
      (l.map fun c => (if c = '"' ∨ c = '\\' then String.mk ['\\', c] else String.mk [c]).data).flatten
        = l := by
    intro l hl
    induction l with
    | nil => rfl
    | cons c l ih =>
      have hc := hl c (List.mem_cons_self _ _)
      simp [hc.1, hc.2, ih fun d hd => hl d (List.mem_cons_of_mem _ hd)]
  show w.data <:+: (goQuote s).data
  simp only [goQuote, String.data_append, String.data_join, List.map_map]
  rw [← hab]
  simp only [List.map_append, List.flatten_append, Function.comp_def, hplain w.toList hw,
    List.append_assoc]
  exact (List.infix_append' _ _ _).trans (List.suffix_append _ _).isInfix

/-- **The `SSRF_BLOCKED` code.** For every error, deadline and latency, `handleHTTPError`
codes the error `SSRF_BLOCKED` exactly when it wraps an `SSRFBlockedError`, the deadline has
not passed, and its text holds none of the words it tests first. -/
lemma handleHTTPError_code_ssrf_iff (err : GoError) (deadlineExceeded : Bool) (latency : Int) :
    (handleHTTPError err deadlineExceeded latency).error.map HTTPError.code = some "SSRF_BLOCKED" ↔
      err.isSSRFBlockedError = true ∧ deadlineExceeded = false ∧
        ∀ w ∈ errorWords, contains err.error w.1 = false := by
  simp only [handleHTTPError, errorWords, Option.map_some', Option.some.injEq, List.mem_cons,
    List.mem_nil_iff, or_false, forall_eq_or_imp, forall_eq]
  split_ifs <;> aesop

/-- **An SSRF block reported by the URL.** For every method, every request URL whose text
holds one of the words `handleHTTPError` tests first, every blocked address and reason,
deadline and latency: the error `Client.Do` returns wraps the `SSRFBlockedError` of the
dial, yet its code is not `SSRF_BLOCKED`. -/
theorem handleHTTPError_ssrf_url_word (method : String) (u : Full.URL)
    (address reason : String) (deadlineExceeded : Bool) (latency : Int)
    (hw : ∃ w ∈ errorWords, contains (stripPassword u) w.1 = true) :
    (doError method u false (.ssrfBlocked address reason)).isSSRFBlockedError = true ∧
      (handleHTTPError (doError method u false (.ssrfBlocked address reason)) deadlineExceeded
        latency).error.map HTTPError.code ≠ some "SSRF_BLOCKED" := by
  refine ⟨rfl, fun hcode => ?_⟩
  obtain ⟨w, hmem, hc⟩ := hw
  have hq : contains (goQuote (stripPassword u)) w.1 = true :=
    contains_goQuote (errorWords_plain w hmem) hc
  obtain ⟨a, b, he⟩ := doError_error method u false (.ssrfBlocked address reason)
  have hin : contains (doError method u false (.ssrfBlocked address reason)).error w.1 = true := by
    rw [contains_iff_occurs] at hq ⊢
    rw [he]
    exact hq.trans (List.infix_append _ _ _)
  have := ((handleHTTPError_code_ssrf_iff _ _ _).mp hcode).2.2 w hmem
  rw [hin] at this
  cases this

/-- The request to `https://redirect.attacker.example/`, its name resolving to a loopback
address. -/
def redirectAttacker : Full.URL :=
  { scheme := "https", host := "redirect.attacker.example", path := "/" }

theorem handleHTTPError_ssrf_url_word_attacker :
    (∃ w ∈ errorWords, contains (stripPassword redirectAttacker) w.1 = true) ∧
      (doError "GET" redirectAttacker false
          (.ssrfBlocked "127.0.0.1" "localhost addresses blocked")).isSSRFBlockedError = true ∧
      (handleHTTPError (doError "GET" redirectAttacker false
          (.ssrfBlocked "127.0.0.1" "localhost addresses blocked")) false 0).error.map
        HTTPError.code ≠ some "SSRF_BLOCKED" :=
  have hw : ∃ w ∈ errorWords, contains (stripPassword redirectAttacker) w.1 = true :=
    ⟨("redirect", "TOO_MANY_REDIRECTS"), by decide, by decide⟩
  ⟨hw, handleHTTPError_ssrf_url_word "GET" redirectAttacker _ _ false 0 hw⟩

example : Full.parse "https://redirect.attacker.example/" = .ok redirectAttacker := rfl
example : (handleHTTPError (doError "GET" redirectAttacker false
    (.ssrfBlocked "127.0.0.1" "localhost addresses blocked")) false 0).error =
      some ⟨"TOO_MANY_REDIRECTS", "Get \"https://redirect.attacker.example/\": " ++
        "SSRF protection blocked connection to 127.0.0.1: localhost addresses blocked"⟩ := by
  decide

end Http

end RegletHost
