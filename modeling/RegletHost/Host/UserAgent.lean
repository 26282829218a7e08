import RegletHost.Host.Json
import RegletHost.Http.Client

/-!
`UserAgentMiddleware` (`src/middleware.go`): for `http_request`, the payload is decoded into
a `map[string]any`, `User-Agent` is added to its `headers` object unless a key there is
`User-Agent` up to case, and the map is marshalled again for `next`.

What `next` sees is the payload decoded into `HTTPRequest` (`decodeHTTPRequest`), as
`encoding/json` does it: an object key sets the field it names exactly, else one it names up
to case, members in order, a map field merging into the map already there.

* `userAgentPayload_of_found`, `userAgentPayload_of_not_map`: the payload is forwarded as it
  came when it names a User-Agent under `headers`, or does not decode into a map.
* `userAgentPayload_null`: the payload `null` decodes into a nil map and the assignment to it
  panics.
* `userAgentPayload_adds`: otherwise what is forwarded is the marshalled map, and when the
  payload names the headers field by `headers` alone, the request decoded from it carries
  `User-Agent`.
* `userAgentPayload_failing`: a User-Agent under the key `Headers` is replaced, and
  `max_redirects` past `2^53` is rounded (`marshal_toAny_num`).
-/

namespace RegletHost

namespace Hostlib

open Json Http

/-! ### Case folding -/

/-- Whether `c` equals the ASCII character `a` under Unicode simple case folding: `a`, its
other case, and for `k` and `s` the Kelvin sign and the long s. -/
def foldsTo (c a : Char) : Bool :=
  c = a || c.toLower = a.toLower || (a.toLower = 'k' && c = '\u212A') ||
    (a.toLower = 's' && c = '\u017F')

/-- `strings.EqualFold(s, name)` for an ASCII `name` (`encoding/json` folds keys alike). -/
def equalFold (s name : String) : Bool :=
  s.length = name.length && (s.toList.zip name.toList).all fun p => foldsTo p.1 p.2

/-! ### Decoding `HTTPRequest` -/

/-- A field of `HTTPRequest`, in declaration order. -/
inductive RequestField
  | headers
  | followRedirects
  | method
  | url
  | body
  | timeout
  | maxRedirects
  deriving DecidableEq, Repr

/-- A field's name in JSON, its tag. -/
def RequestField.name : RequestField → String
  | .headers => "headers"
  | .followRedirects => "follow_redirects"
  | .method => "method"
  | .url => "url"
  | .body => "body"
  | .timeout => "timeout_ms"
  | .maxRedirects => "max_redirects"

/-- The fields in declaration order. -/
def requestFields : List RequestField :=
  [.headers, .followRedirects, .method, .url, .body, .timeout, .maxRedirects]

/-- The field an object key sets: the one it names exactly, else the first it names up to
case; none for an unknown key, whose value is skipped. -/
def fieldOf (key : String) : Option RequestField :=
  match requestFields.find? (·.name = key) with
  | some f => some f
  | none => requestFields.find? fun f => equalFold key f.name

/-- `json.Unmarshal` of an object into `map[string]string`, onto the map there: a string,
or `null` as the empty string; `none` for any other value. -/
def decodeHeaders (m : String → Option String) : List (String × Json) → Option (String → Option String)
  | [] => some m
  | (k, .str s) :: kvs => decodeHeaders (fun k' => if k' = k then some s else m k') kvs
  | (k, .null) :: kvs => decodeHeaders (fun k' => if k' = k then some "" else m k') kvs
  | _ :: _ => none

/-- An `int`: an integer literal in the `int64` range. -/
def decodeInt (n : Int) : Option Int :=
  if int64Min ≤ n ∧ n ≤ int64Max then some n else none

/-- One member decoded into its field: `null` clears a map, pointer or slice and leaves the
rest; a value of the wrong type is an error. -/
def setField (r : HTTPRequest) : RequestField → Json → Option HTTPRequest
  | .headers, .null => some { r with headers := fun _ => none }
  | .headers, .obj kvs => (decodeHeaders r.headers kvs).map fun h => { r with headers := h }
  | .followRedirects, .null => some { r with followRedirects := none }
  | .followRedirects, .bool b => some { r with followRedirects := some b }
  | .method, .null => some r
  | .method, .str s => some { r with method := s }
  | .url, .null => some r
  | .url, .str s => some { r with url := s }
  | .body, .null => some { r with body := none }
  | .body, .str s => some { r with body := some s }
  | .timeout, .null => some r
  | .timeout, .num n => (decodeInt n).map fun n => { r with timeout := n }
  | .maxRedirects, .null => some r
  | .maxRedirects, .num n => (decodeInt n).map fun n => { r with maxRedirects := n }
  | _, _ => none

/-- The members of an object decoded in order onto `r`. -/
def decodeMembers (r : HTTPRequest) : List (String × Json) → Option HTTPRequest
  | [] => some r
  | (k, v) :: kvs =>
    match fieldOf k with
    | none => decodeMembers r kvs
    | some f => (setField r f v).bind fun r' => decodeMembers r' kvs

/-- `json.Unmarshal(payload, &req)` for an `HTTPRequest`: `none` for an error. Only whether
it fails matters here, not its text. -/
def decodeHTTPRequest : Json → Option HTTPRequest
  | .null => some {}
  | .obj kvs => decodeMembers {} kvs
  | _ => none

/-! ### The middleware -/

/-- `json.Unmarshal(payload, &req)` for `req map[string]any`: `none` for an error, `some
none` for the nil map `null` leaves. -/
def toMap : Json → Option (Option (List (String × Json)))
  | .null => some none
  | .obj kvs => (toAnyMembers kvs).map some
  | _ => none

/-- The `headers` object of a decoded request, empty when there is none. -/
def headersOf (req : List (String × Json)) : List (String × Json) :=
  match req.lookup "headers" with
  | some (.obj h) => h
  | _ => []

/-- The payload `UserAgentMiddleware(userAgent)` passes to `next`; `none` is the panic of
`req["headers"] = headers` on the nil map. -/
def userAgentPayload (userAgent : String) (ctx : CallContext) (payload : Json) : Option Json :=
  if ctx.functionName = some "http_request" then
    match toMap payload with
    | none => some payload
    | some none => none
    | some (some req) =>
      if (headersOf req).any fun kv => equalFold kv.1 "User-Agent" then some payload
      else some (marshal (.obj (mapSet req "headers" (.obj (mapSet (headersOf req) "User-Agent" (.str userAgent))))))
  else some payload

/-- `UserAgentMiddleware(userAgent)(next)`: `next` on the payload `userAgentPayload` gives it;
`none` when the middleware panics. -/
def userAgentMiddleware {β : Type} (userAgent : String) (next : CallContext → Json → β)
    (ctx : CallContext) (payload : Json) : Option β :=
  (userAgentPayload userAgent ctx payload).map (next ctx)

/-! ### What the middleware forwards -/

section Forward

variable {userAgent : String} {ctx : CallContext} {payload : Json}

/-- Other host functions get the payload as it came. -/
lemma userAgentPayload_of_other (h : ctx.functionName ≠ some "http_request") :
    userAgentPayload userAgent ctx payload = some payload := by
  simp [userAgentPayload, h]

/-- A payload that does not decode into a map is forwarded as it came. -/
lemma userAgentPayload_of_not_map (h : toMap payload = none) :
    userAgentPayload userAgent ctx payload = some payload := by
  unfold userAgentPayload
  split_ifs <;> simp [h]

/-- `null` decodes into the nil map, and the assignment to it panics. -/
lemma userAgentPayload_null (h : ctx.functionName = some "http_request") :
    userAgentPayload userAgent ctx .null = none := by
  simp [userAgentPayload, h, toMap]

/-- A payload whose `headers` object names a User-Agent, up to case, is forwarded as it
came. -/
lemma userAgentPayload_of_found {req : List (String × Json)} (hmap : toMap payload = some (some req))
    (hf : (headersOf req).any (fun kv => equalFold kv.1 "User-Agent") = true) :
    userAgentPayload userAgent ctx payload = some payload := by
  unfold userAgentPayload
  split_ifs <;> simp [hmap, hf]

end Forward

/-! ### What `next` decodes -/

/-- Members with other keys leave a header alone. -/
lemma decodeHeaders_frame {k : String} :
    ∀ {m m' : String → Option String} {kvs : List (String × Json)},
      (∀ kv ∈ kvs, kv.1 ≠ k) → decodeHeaders m kvs = some m' → m' k = m k
  | m, m', [], _, h => by simp only [decodeHeaders, Option.some.injEq] at h; rw [h]
  | m, m', (k', v) :: kvs, hk, h => by
    have hne : k ≠ k' := fun he => hk (k', v) (List.mem_cons_self _ _) he.symm
    have hrest : ∀ kv ∈ kvs, kv.1 ≠ k := fun kv hkv => hk kv (List.mem_cons_of_mem _ hkv)
    cases v with
    | str s => rw [decodeHeaders_frame hrest h, if_neg hne]
    | null => rw [decodeHeaders_frame hrest h, if_neg hne]
    | _ => simp [decodeHeaders] at h

/-- A header the object names once, with a string, is that string. -/
lemma decodeHeaders_of_unique {k s : String} :
    ∀ {m m' : String → Option String} {kvs : List (String × Json)},
      kvs.filter (·.1 = k) = [(k, .str s)] → decodeHeaders m kvs = some m' → m' k = some s
  | _, _, [], hk, _ => by simp at hk
  | m, m', (k', v) :: kvs, hk, h => by
    by_cases hkk : k' = k
    · subst hkk
      simp only [List.filter_cons, decide_True, if_true, List.cons.injEq, Prod.mk.injEq, true_and] at hk
      obtain ⟨rfl, hnil⟩ := hk
      have hrest : ∀ kv ∈ kvs, kv.1 ≠ k' := fun kv hkv he => by
        have := List.filter_eq_nil_iff.mp hnil kv hkv
        simp [he] at this
      rw [decodeHeaders_frame hrest h, if_pos rfl]
    · simp only [List.filter_cons, hkk, decide_False, Bool.false_eq_true, if_false] at hk
      cases v with
      | str s' => exact decodeHeaders_of_unique hk h
      | null => exact decodeHeaders_of_unique hk h
      | _ => simp [decodeHeaders] at h

/-- A member decoded into another field leaves the headers alone. -/
lemma setField_headers {r r' : HTTPRequest} {f : RequestField} {v : Json} (hf : f ≠ .headers)
    (h : setField r f v = some r') : r'.headers = r.headers := by
  cases f
  · exact absurd rfl hf
  all_goals
    cases v <;> simp only [setField, reduceCtorEq, Option.some.injEq, Option.map_eq_some'] at h
    all_goals first | (subst h; rfl) | (obtain ⟨_, -, rfl⟩ := h; rfl)

/-- Members that set no headers leave them alone. -/
lemma decodeMembers_frame :
    ∀ {r r' : HTTPRequest} {kvs : List (String × Json)},
      (∀ kv ∈ kvs, fieldOf kv.1 ≠ some .headers) → decodeMembers r kvs = some r' → r'.headers = r.headers
  | r, r', [], _, h => by simp only [decodeMembers, Option.some.injEq] at h; rw [h]
  | r, r', (k, v) :: kvs, hk, h => by
    have hrest : ∀ kv ∈ kvs, fieldOf kv.1 ≠ some .headers := fun kv hkv => hk kv (List.mem_cons_of_mem _ hkv)
    simp only [decodeMembers] at h
    cases hfk : fieldOf k with
    | none => rw [hfk] at h; exact decodeMembers_frame hrest h
    | some f =>
      rw [hfk, Option.bind_eq_some] at h
      obtain ⟨r₁, h₁, h₂⟩ := h
      have hf : f ≠ .headers := fun he => hk (k, v) (List.mem_cons_self _ _) (hfk.trans (by rw [he]))
      rw [decodeMembers_frame hrest h₂, setField_headers hf h₁]

/-- When one member sets the headers, with an object naming `User-Agent` once, the request
decoded has that User-Agent. -/
lemma decodeMembers_userAgent {s k₀ : String} {H : List (String × Json)}
    (hH : H.filter (·.1 = "User-Agent") = [("User-Agent", .str s)]) :
    ∀ {r r' : HTTPRequest} {kvs : List (String × Json)},
      kvs.filter (fun kv => fieldOf kv.1 = some .headers) = [(k₀, .obj H)] →
      decodeMembers r kvs = some r' → r'.headers "User-Agent" = some s
  | _, _, [], hk, _ => by simp at hk
  | r, r', (k, v) :: kvs, hk, h => by
    simp only [decodeMembers] at h
    by_cases hfk : fieldOf k = some .headers
    · simp only [List.filter_cons, hfk, decide_True, if_true, List.cons.injEq, Prod.mk.injEq] at hk
      obtain ⟨⟨rfl, rfl⟩, hnil⟩ := hk
      have hrest : ∀ kv ∈ kvs, fieldOf kv.1 ≠ some .headers := fun kv hkv he => by
        have := List.filter_eq_nil_iff.mp hnil kv hkv
        simp [he] at this
      rw [hfk, Option.bind_eq_some] at h
      obtain ⟨r₁, h₁, h₂⟩ := h
      simp only [setField, Option.map_eq_some'] at h₁
      obtain ⟨m, hm, rfl⟩ := h₁
      rw [decodeMembers_frame hrest h₂]
      exact decodeHeaders_of_unique hH hm
    · simp only [List.filter_cons, hfk, decide_False, Bool.false_eq_true, if_false] at hk
      cases hf : fieldOf k with
      | none => rw [hf] at h; exact decodeMembers_userAgent hH hk h
      | some f =>
        rw [hf, Option.bind_eq_some] at h
        obtain ⟨r₁, -, h₂⟩ := h
        exact decodeMembers_userAgent hH hk h₂

/-- **The header added**: when the middleware adds `User-Agent` to a payload that names the
headers field by `headers` alone, the request `next` decodes carries it. -/
theorem userAgentPayload_adds {userAgent : String} {ctx : CallContext} {kvs req : List (String × Json)}
    (hctx : ctx.functionName = some "http_request") (hmap : toAnyMembers kvs = some req)
    (hnf : (headersOf req).any (fun kv => equalFold kv.1 "User-Agent") = false)
    (honly : ∀ kv ∈ kvs, fieldOf kv.1 = some .headers → kv.1 = "headers") {r : HTTPRequest}
    (hdec : (userAgentPayload userAgent ctx (.obj kvs)).bind decodeHTTPRequest = some r) :
    r.headers "User-Agent" = some userAgent := by
  have hfw : userAgentPayload userAgent ctx (.obj kvs) = some (marshal (.obj (mapSet req "headers"
      (.obj (mapSet (headersOf req) "User-Agent" (.str userAgent)))))) := by
    simp [userAgentPayload, hctx, toMap, hmap, hnf]
  rw [hfw, Option.some_bind] at hdec
  -- the headers object holds `User-Agent` once
  have hH : (mapSet (headersOf req) "User-Agent" (.str userAgent)).filter (·.1 = "User-Agent") =
      [("User-Agent", .str userAgent)] := by
    simp [mapSet, List.filter_cons, List.filter_filter]
  -- and the map names the headers field once
  have hk : (mapSet req "headers" (.obj (mapSet (headersOf req) "User-Agent" (.str userAgent)))).filter
      (fun kv => fieldOf kv.1 = some .headers) =
        [("headers", .obj (mapSet (headersOf req) "User-Agent" (.str userAgent)))] := by
    have hh : decide (fieldOf "headers" = some RequestField.headers) = true := by decide
    rw [mapSet, List.filter_cons, if_pos hh, List.filter_filter, List.filter_eq_nil_iff.mpr]
    intro kv hkv
    simp only [Bool.and_eq_true, decide_eq_true_eq, not_and]
    intro hf hne
    obtain ⟨v, hv⟩ := mem_toAnyMembers hmap kv hkv
    exact hne (honly (kv.1, v) hv hf)
  exact decodeMembers_userAgent
    (filter_sortMembers (by rw [filter_marshalMembers (fun k => k = "User-Agent"), hH]; rfl))
    (filter_sortMembers (by rw [filter_marshalMembers (fun k => fieldOf k = some .headers), hk]; rfl)) hdec

/-- The context of an `http_request` call. -/
def httpRequestContext : CallContext := { functionName := some "http_request" }

/-- A request whose User-Agent the plugin set under the key `Headers`, which
`encoding/json` matches to the headers field up to case. -/
def capitalHeadersPayload : Json :=
  .obj [("url", .str "http://example.com"), ("Headers", .obj [("User-Agent", .str "plugin/1.0")])]

/-- A request with `max_redirects` one past `2^53`. -/
def largeRedirectsPayload : Json :=
  .obj [("url", .str "http://example.com"), ("max_redirects", .num (2 ^ 53 + 1))]

/-- Three payloads that decode into a request the middleware does not pass on as it came
or with `User-Agent` added: the plugin's own User-Agent under `Headers` is replaced, `null`
panics, and `2^53 + 1` comes back as `2^53`. -/
theorem userAgentPayload_failing :
    (decodeHTTPRequest capitalHeadersPayload).map (·.headers "User-Agent") = some (some "plugin/1.0") ∧
    ((userAgentPayload "reglet/1.0" httpRequestContext capitalHeadersPayload).bind decodeHTTPRequest).map
      (·.headers "User-Agent") = some (some "reglet/1.0") ∧
    (decodeHTTPRequest .null).isSome ∧ userAgentPayload "reglet/1.0" httpRequestContext .null = none ∧
    (decodeHTTPRequest largeRedirectsPayload).map (·.maxRedirects) = some (2 ^ 53 + 1) ∧
    ((userAgentPayload "reglet/1.0" httpRequestContext largeRedirectsPayload).bind decodeHTTPRequest).map
      (·.maxRedirects) = some (2 ^ 53) :=
  ⟨rfl, rfl, rfl, rfl, rfl, rfl⟩

end Hostlib

end RegletHost
