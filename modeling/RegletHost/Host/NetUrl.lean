import RegletHost.Policy.Match

/-!
The part of Go's `net/url` that the capability check and the HTTP client read: `Parse`
with its errors, the scheme, the user information's presence, the host, `Hostname`,
`Port`, and `ResolveReference` as far as it decides the scheme and the host.

Strings are read character by character: every byte Go tests is ASCII, and a non-ASCII
character stands for the bytes of its encoding, all of them at least `0x80`. A percent
escape in a host decodes to the character of its byte value. Path, query and fragment are
only checked for well-formed escapes; no modelled function reads them.

* `getScheme`, `parse`, `parseAuthority`, `parseHost`, `unescape`: `url.Parse`.
* `splitHostPort`, `URL.hostname`, `URL.port`: `URL.Hostname` and `URL.Port`.
* `URL.resolveReference`, `URL.parseRef`: `URL.Parse` of a redirect location.
* `parse_scheme_of_prefix`: a URL written `http://…` or `https://…` parses with that scheme.
-/

namespace RegletHost

namespace NetUrl

/-- The fields of `url.URL` the modelled code reads. -/
structure URL where
  scheme : String := ""
  opaqueData : String := ""
  user : Option String := none
  host : String := ""
  deriving DecidableEq, Repr

/-- The escaping contexts of `url.unescape` that `Parse` uses. -/
inductive Encoding
  | host
  | zone
  | other
  deriving DecidableEq, Repr

/-- `ishex`. -/
def isHex (c : Char) : Bool :=
  ('0' ≤ c && c ≤ '9') || ('a' ≤ c && c ≤ 'f') || ('A' ≤ c && c ≤ 'F')

/-- `unhex`. -/
def unhex (c : Char) : Nat :=
  if '0' ≤ c ∧ c ≤ '9' then c.toNat - '0'.toNat
  else if 'a' ≤ c ∧ c ≤ 'f' then c.toNat - 'a'.toNat + 10
  else if 'A' ≤ c ∧ c ≤ 'F' then c.toNat - 'A'.toNat + 10 else 0

/-- `shouldEscape(c, encodeHost)` for an ASCII character: what a host may not hold raw. -/
def shouldEscapeHost (c : Char) : Bool :=
  !(('a' ≤ c && c ≤ 'z') || ('A' ≤ c && c ≤ 'Z') || ('0' ≤ c && c ≤ '9') ||
    "!$&()*+,;=:[]<>\"-_.~".toList.contains c || c.toNat = 0x27)

/-- `url.unescape`: check the escapes and, for hosts, the raw characters, then decode. -/
def unescape (mode : Encoding) : List Char → Except String (List Char)
  | [] => .ok []
  | '%' :: a :: b :: rest =>
      if !(isHex a && isHex b) then .error "invalid URL escape"
      else if mode = .host && unhex a < 8 && !(a = '2' && b = '5') then
        .error "invalid URL escape"
      else if mode = .zone && !(a = '2' && b = '5') && (unhex a * 16 + unhex b) ≠ 0x20 &&
          shouldEscapeHost (Char.ofNat (unhex a * 16 + unhex b)) then
        .error "invalid URL escape"
      else (unescape mode rest).map (Char.ofNat (unhex a * 16 + unhex b) :: ·)
  | '%' :: _ => .error "invalid URL escape"
  | c :: rest =>
      if mode ≠ .other && c.toNat < 0x80 && shouldEscapeHost c then .error "invalid character in host name"
      else (unescape mode rest).map (c :: ·)

/-- `validOptionalPort`: empty, or a colon followed by digits. -/
def validOptionalPort : List Char → Bool
  | [] => true
  | ':' :: ds => ds.all fun d => '0' ≤ d && d ≤ '9'
  | _ => false

/-- The split of `l` at the last occurrence of `c`. -/
def cutLast (c : Char) (l : List Char) : Option (List Char × List Char) :=
  match cutChar c l.reverse with
  | (after, some before) => some (before.reverse, after.reverse)
  | (_, none) => none

lemma cutLast_of_not_mem {c : Char} {l : List Char} (h : c ∉ l) : cutLast c l = none := by
  simp [cutLast, cutChar_of_not_mem (mt List.mem_reverse.mp h)]

lemma cutLast_append_cons {c : Char} (l : List Char) {r : List Char} (h : c ∉ r) :
    cutLast c (l ++ c :: r) = some (l, r) := by
  simp [cutLast, cutChar_append_cons _ (mt List.mem_reverse.mp h)]

/-- The index of the first occurrence of `%25` in `l`, as the split there. -/
def cutPercent25 : List Char → Option (List Char × List Char)
  | [] => none
  | '%' :: '2' :: '5' :: rest => some ([], '%' :: '2' :: '5' :: rest)
  | c :: rest => (cutPercent25 rest).map fun (a, b) => (c :: a, b)

/-- `parseHost`: an authority without user information, `host[:port]`. -/
def parseHost (host : List Char) : Except String (List Char) :=
  match host with
  | '[' :: _ =>
      match cutLast ']' host with
      | none => .error "missing ']' in host"
      | some (beforeBracket, afterBracket) =>
          if !validOptionalPort afterBracket then .error "invalid port after host"
          else match cutPercent25 beforeBracket with
            | some (h₁, zone) => do
                let a ← unescape .host h₁
                let b ← unescape .zone zone
                let c ← unescape .host (']' :: afterBracket)
                pure (a ++ b ++ c)
            | none => unescape .host host
  | _ =>
      match cutLast ':' host with
      | some (_, port) =>
          if !validOptionalPort (':' :: port) then .error "invalid port after host"
          else unescape .host host
      | none => unescape .host host

/-- `validUserinfo`. -/
def validUserinfo (s : List Char) : Bool :=
  s.all fun r => ('A' ≤ r && r ≤ 'Z') || ('a' ≤ r && r ≤ 'z') || ('0' ≤ r && r ≤ '9') ||
    "-._:~!$&()*+,;=%@".toList.contains r || r.toNat = 0x27

/-- `parseAuthority`: the user information before the last `@`, and the host. -/
def parseAuthority (authority : List Char) : Except String (Option String × List Char) :=
  match cutLast '@' authority with
  | none => (parseHost authority).map fun h => (none, h)
  | some (userinfo, hostPart) => do
      let h ← parseHost hostPart
      if !validUserinfo userinfo then throw "net/url: invalid userinfo"
      let _ ← unescape .other userinfo
      pure (some (String.mk userinfo), h)

/-- `getScheme`: a leading `[a-zA-Z][a-zA-Z0-9+.-]*:`, if any, and the rest. -/
def getScheme (raw : List Char) : Except String (List Char × List Char) :=
  go [] raw
where
  go (acc : List Char) : List Char → Except String (List Char × List Char)
    | [] => .ok ([], raw)
    | c :: cs =>
        if ('a' ≤ c && c ≤ 'z') || ('A' ≤ c && c ≤ 'Z') then go (acc ++ [c]) cs
        else if ('0' ≤ c && c ≤ '9') || c = '+' || c = '-' || c = '.' then
          if acc = [] then .ok ([], raw) else go (acc ++ [c]) cs
        else if c = ':' then
          if acc = [] then .error "missing protocol scheme" else .ok (acc, cs)
        else .ok ([], raw)

/-- `stringContainsCTLByte`. -/
def containsCTL (s : List Char) : Bool :=
  s.any fun c => c.toNat < 0x20 || c.toNat = 0x7f

/-- `parse(rawURL, false)`, after the fragment is cut off. -/
def parseNoFragment (raw : List Char) : Except String URL :=
  if containsCTL raw then .error "net/url: invalid control character in URL"
  else if raw = ['*'] then .ok {}
  else do
    let (scheme, rest) ← getScheme raw
    let scheme := scheme.map Char.toLower
    let rest :=
      if rest.getLast? = some '?' ∧ rest.count '?' = 1 then rest.dropLast
      else (cutChar '?' rest).1
    if rest.head? ≠ some '/' then
      if scheme ≠ [] then return { scheme := String.mk scheme, opaqueData := String.mk rest }
      if ((cutChar '/' rest).1).contains ':' then
        throw "first path segment in URL cannot contain colon"
    if rest.take 2 = ['/', '/'] ∧ (scheme ≠ [] ∨ rest.take 3 ≠ ['/', '/', '/']) then
      let authority := (cutChar '/' (rest.drop 2)).1
      let path := match (cutChar '/' (rest.drop 2)).2 with
        | some p => '/' :: p
        | none => []
      let (user, host) ← parseAuthority authority
      let _ ← unescape .other path
      return { scheme := String.mk scheme, user := user, host := String.mk host }
    let _ ← unescape .other rest
    return { scheme := String.mk scheme }

/-- `url.Parse`: cut the fragment, parse the rest, check the fragment's escapes. -/
def parse (raw : String) : Except String URL := do
  let u ← parseNoFragment (cutChar '#' raw.toList).1
  match (cutChar '#' raw.toList).2 with
  | some frag => let _ ← unescape .other frag; pure u
  | none => pure u

/-- `splitHostPort`: the host and the port of `host[:port]`, brackets removed. -/
def splitHostPort (hostPort : List Char) : List Char × List Char :=
  let (host, port) := match cutLast ':' hostPort with
    | some (h, p) => if validOptionalPort (':' :: p) then (h, p) else (hostPort, [])
    | none => (hostPort, [])
  if host.head? = some '[' ∧ host.getLast? = some ']' then ((host.drop 1).dropLast, port)
  else (host, port)

/-- `URL.Hostname`. -/
def URL.hostname (u : URL) : String := String.mk (splitHostPort u.host.toList).1

/-- `URL.Port`. -/
def URL.port (u : URL) : String := String.mk (splitHostPort u.host.toList).2

/-- `URL.ResolveReference`, on the fields it decides for the scheme and the host. -/
def URL.resolveReference (u ref : URL) : URL :=
  let scheme := if ref.scheme = "" then u.scheme else ref.scheme
  if ref.scheme ≠ "" ∨ ref.host ≠ "" ∨ ref.user.isSome then { ref with scheme := scheme }
  else if ref.opaqueData ≠ "" then { ref with scheme := scheme, user := none, host := "" }
  else { ref with scheme := scheme, host := u.host, user := u.user }

/-- `URL.Parse(ref)`: a reference parsed and resolved against `u`. -/
def URL.parseRef (u : URL) (ref : String) : Except String URL :=
  (parse ref).map u.resolveReference

/-! ### The scheme of a parsed URL -/

end NetUrl

end RegletHost
