import RegletHost.Host.NetUrl

/-!
Addresses as the secure dialer (`src/netutil/secure_dialer.go`) handles them, and the
netfilter policy it consults.

* `IP`: a Go `net.IP` of four or sixteen bytes. An IPv4-mapped IPv6 address is the IPv4
  address it maps (Go's `To4` sees through it), so `IP.v6` holds only the others and the
  invariant is a field. `IP.isLoopback`, `IP.isPrivate`, `IP.isLinkLocalUnicast`,
  `IP.isMulticast` are Go's classifications; `IP.toString` is `IP.String`.
* `splitHostPort`, `joinHostPort`: `net.SplitHostPort` with its errors, and
  `net.JoinHostPort`.
* `parseIPv4`: `net.ParseIP` on dotted-decimal text. The dialer takes `net.ParseIP` as a
  parameter, so its results hold for every parser; this one serves the concrete runs.
* `NetfilterOptions`, `validateAddress`: netfilter's `ValidateAddress` is not part of the
  sources, and is modelled from the spec's URL-SSRF policy. The dialer takes it as a
  parameter too; the results on the private-network flag use this model.
* `validateAddress_eq_none_iff`: an address is allowed exactly when no option that is on
  covers it; `validateAddress_uniform`: when both blocking options have one value, as the
  dialer sets them, the restricted addresses (`IP.restricted`) are blocked exactly when the
  options are on.
-/

namespace RegletHost

namespace Netutil

/-- The eight groups of IPv4-mapped `::ffff:0:0/96` that precede the IPv4 bytes. -/
def mappedPrefix : List UInt16 := [0, 0, 0, 0, 0, 0xffff]

/-- A `net.IP`: four bytes, or sixteen bytes as eight groups that do not map an IPv4
address. -/
inductive IP
  | v4 (a b c d : UInt8)
  | v6 (groups : List UInt16) (eight : groups.length = 8) (unmapped : groups.take 6 ≠ mappedPrefix)
  deriving DecidableEq

namespace IP

/-- The first group of an IPv6 address, whose bits Go's classifications read. -/
def firstGroup (g : List UInt16) : UInt16 := g.headD 0

/-- `IP.To4() != nil`. -/
def isV4 : IP → Bool
  | v4 .. => true
  | v6 .. => false

/-- `IP.IsLoopback`: `127.0.0.0/8` and `::1`. -/
def isLoopback : IP → Bool
  | v4 a _ _ _ => a == 127
  | v6 g _ _ => g == [0, 0, 0, 0, 0, 0, 0, 1]

/-- `IP.IsPrivate`: `10.0.0.0/8`, `172.16.0.0/12`, `192.168.0.0/16` (RFC 1918) and
`fc00::/7`. -/
def isPrivate : IP → Bool
  | v4 a b _ _ => a == 10 || (a == 172 && b &&& 0xf0 == 16) || (a == 192 && b == 168)
  | v6 g _ _ => firstGroup g &&& 0xfe00 == 0xfc00

/-- `IP.IsLinkLocalUnicast`: `169.254.0.0/16` and `fe80::/10`. -/
def isLinkLocalUnicast : IP → Bool
  | v4 a b _ _ => a == 169 && b == 254
  | v6 g _ _ => firstGroup g &&& 0xffc0 == 0xfe80

/-- `IP.IsMulticast`: `224.0.0.0/4` and `ff00::/8`. -/
def isMulticast : IP → Bool
  | v4 a _ _ _ => a &&& 0xf0 == 0xe0
  | v6 g _ _ => firstGroup g &&& 0xff00 == 0xff00

/-- The addresses the URL-SSRF policy covers: private, loopback, link-local and
multicast, in IPv4 and IPv6. -/
def restricted (ip : IP) : Bool :=
  ip.isLoopback || ip.isPrivate || ip.isLinkLocalUnicast || ip.isMulticast

/-- The start and length of the first longest run of at least two zero groups, the run
`appendTo6` writes as `::`. -/
def longestZeroRun (g : List UInt16) : Option (Nat × Nat) :=
  (List.range 8).foldl (fun best i =>
    let l := ((g.drop i).takeWhile (· == 0)).length
    if 2 ≤ l ∧ (best.map Prod.snd).getD 0 < l then some (i, l) else best) none

/-- A group in lowercase hexadecimal without leading zeros (`appendHex`). -/
def hexGroup (x : UInt16) : String := String.mk (Nat.toDigits 16 x.toNat)

/-- `IP.String`: dotted decimal for IPv4, RFC 5952 text for IPv6. -/
def toString : IP → String
  | v4 a b c d => ".".intercalate ([a, b, c, d].map fun x => ToString.toString x)
  | v6 g _ _ =>
    match longestZeroRun g with
    | none => ":".intercalate (g.map hexGroup)
    | some (i, l) =>
      ":".intercalate ((g.take i).map hexGroup) ++ "::" ++
        ":".intercalate ((g.drop (i + l)).map hexGroup)

example : toString (v4 127 0 0 1) = "127.0.0.1" := by decide
example : toString (v6 [0xfe80, 0, 0, 0, 0, 0, 0, 1] rfl (by decide)) = "fe80::1" := by decide
example : toString (v6 [0, 0, 0, 0, 0, 0, 0, 1] rfl (by decide)) = "::1" := by decide

end IP

/-- A field of a dotted IPv4 address: decimal, at most `255`, without a leading zero. -/
def parseIPv4Field (f : List Char) : Option UInt8 :=
  match parseDecimal f with
  | some v => if v ≤ 255 ∧ (f.length = 1 ∨ f.head? ≠ some '0') then some v.toUInt8 else none
  | none => none

/-- `net.ParseIP` on dotted-decimal text: four fields. -/
def parseIPv4 (s : String) : Option IP :=
  match splitChar '.' s.toList with
  | [a, b, c, d] => do
    pure (.v4 (← parseIPv4Field a) (← parseIPv4Field b) (← parseIPv4Field c) (← parseIPv4Field d))
  | _ => none

example : parseIPv4 "10.0.0.1" = some (.v4 10 0 0 1) := by decide
example : parseIPv4 "example.com" = none := by decide

/-- `net.SplitHostPort`: the host and the port of `host:port` or `[host]:port`, or the
`AddrError` text. -/
def splitHostPort (hostport : String) : Except String (String × String) := do
  let s := hostport.toList
  let addrErr := fun why => "address " ++ hostport ++ ": " ++ why
  let some (beforeColon, port) := NetUrl.cutLast ':' s
    | throw (addrErr "missing port in address")
  let (host, j, k) ← if s.head? = some '[' then
      match cutChar ']' s with
      | (_, none) => throw (addrErr "missing \x27]\x27 in address")
      | (bracketed, some afterBracket) =>
        if afterBracket = [] then throw (addrErr "missing port in address")
        else if bracketed.length + 1 = beforeColon.length then
          pure (bracketed.drop 1, 1, bracketed.length + 1)
        else if afterBracket.head? = some ':' then throw (addrErr "too many colons in address")
        else throw (addrErr "missing port in address")
    else if beforeColon.contains ':' then throw (addrErr "too many colons in address")
    else pure (beforeColon, 0, 0)
  if (s.drop j).contains '[' then throw (addrErr "unexpected \x27[\x27 in address")
  if (s.drop k).contains ']' then throw (addrErr "unexpected \x27]\x27 in address")
  pure (String.mk host, String.mk port)

example : splitHostPort "example.com:443" = .ok ("example.com", "443") := rfl
example : splitHostPort "[::1]:80" = .ok ("::1", "80") := rfl
example : splitHostPort "example.com" = .error "address example.com: missing port in address" :=
  rfl

/-- `net.JoinHostPort`: a host with a colon is taken for an IPv6 literal and bracketed. -/
def joinHostPort (host port : String) : String :=
  if host.toList.contains ':' then "[" ++ host ++ "]:" ++ port else host ++ ":" ++ port

/-- `%q` of a string without control characters: quoted, with quotes and backslashes
escaped. -/
def goQuote (s : String) : String :=
  "\"" ++ String.join (s.toList.map fun c =>
    if c = '"' ∨ c = '\\' then String.mk ['\\', c] else String.mk [c]) ++ "\""

/-! ### The netfilter policy -/

/-- Modelled from the spec: the options of netfilter's `ValidateAddress`, set by
`WithResolveDNS`, `WithBlockPrivate` and `WithBlockLocalhost`, each on by default. -/
structure NetfilterOptions where
  resolveDNS : Bool := true
  blockPrivate : Bool := true
  blockLocalhost : Bool := true
  deriving DecidableEq, Repr

/-- Modelled from the spec: `ValidateAddress` on the IP an address names, `none` when it
is allowed and the reason when it is blocked. The URL-SSRF policy denies loopback
addresses unless localhost is allowed, and private (RFC 1918 and IPv6 unique-local),
link-local and multicast addresses unless private networks are. -/
def validateAddress (opts : NetfilterOptions) (ip : IP) : Option String :=
  if opts.blockLocalhost && ip.isLoopback then some "localhost addresses blocked"
  else if opts.blockPrivate && ip.isPrivate then some "private addresses blocked (RFC 1918)"
  else if opts.blockPrivate && (ip.isLinkLocalUnicast || ip.isMulticast) then
    some "link-local and multicast addresses blocked"
  else none

lemma validateAddress_eq_none_iff {opts : NetfilterOptions} {ip : IP} :
    validateAddress opts ip = none ↔
      ¬(opts.blockLocalhost ∧ ip.isLoopback) ∧
        ¬(opts.blockPrivate ∧ (ip.isPrivate ∨ ip.isLinkLocalUnicast ∨ ip.isMulticast)) := by
  unfold validateAddress
  split_ifs <;> simp_all

/-- With both blocking options at `block`, an address is allowed exactly when blocking is
off or the address is not restricted. -/
lemma validateAddress_uniform {opts : NetfilterOptions} {block : Bool}
    (hp : opts.blockPrivate = block) (hl : opts.blockLocalhost = block) (ip : IP) :
    validateAddress opts ip = none ↔ (block = true → ip.restricted = false) := by
  rw [validateAddress_eq_none_iff, hp, hl]
  cases block <;> simp [IP.restricted, and_assoc]

end Netutil

end RegletHost
