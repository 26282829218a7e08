import RegletHost.Policy.Match
import RegletHost.Netutil.Addr

/-!
The plugin value objects (`src/plugin/values/`) and the `Plugin` entity that carries them
(`src/plugin/entities/plugin_spec.go`).

* `PluginReference`, `parsePluginReference`, `PluginReference.toString`: a bare embedded
  name, or `registry/org/repo/name:version`. The parser keeps the first three segments and
  the last one, and a reference whose registry is empty prints as its bare name;
  `parsePluginReference_toString` says exactly which accepted strings print back as
  themselves and which parsed references reparse as themselves.
* `Digest`, `newDigest`, `parseDigest`: an algorithm and a hex value;
  `parseDigest_toString` reads back every digest `newDigest` builds, and
  `parseDigest_roundTrip` says that digests and accepted texts round-trip.
* `Digest.verify`: the digest of the data under the digest's algorithm, compared with it.
  The SHA-256 and SHA-512 sums are the parameter `Hashes`: the statements hold for every
  hash function.
* `Plugin`, `Plugin.verifyIntegrity`: the entity, and the comparison of its recorded
  digest with an expected one.
* `PluginName`, `newPluginName`, `marshalJSON`, `unmarshalJSON`: a name checked byte by
  byte after `strings.TrimSpace`, and its JSON form. `unmarshalJSON_law` says what
  `UnmarshalJSON` accepts: any two end bytes around a valid name, quoted or not, with no
  unescaping, so that it reads back every name `MarshalJSON` writes.

Go strings and byte slices are both `String` here, the conversions between them the
identity, except in the plugin names, which are checked as the bytes of their UTF-8 form.
-/

namespace RegletHost

namespace Plugins

/-! ### References -/

/-- A `PluginReference`: registry, organisation, repository, name and version. An
embedded plugin has only a name. -/
structure PluginReference where
  registry : String := ""
  org : String := ""
  repo : String := ""
  name : String := ""
  version : String := ""
  deriving DecidableEq, Repr

namespace PluginReference

/-- `IsEmbedded`: the registry is empty. -/
def isEmbedded (r : PluginReference) : Bool := r.registry == ""

/-- `String`: the bare name of an embedded plugin, the OCI form of any other. -/
def toString (r : PluginReference) : String :=
  if r.isEmbedded then r.name
  else r.registry ++ "/" ++ r.org ++ "/" ++ r.repo ++ "/" ++ r.name ++ ":" ++ r.version

/-- `Equals`: componentwise equality. -/
def equals (r o : PluginReference) : Bool :=
  r.registry == o.registry && r.org == o.org && r.repo == o.repo && r.name == o.name &&
    r.version == o.version

@[simp] lemma equals_iff {r o : PluginReference} : r.equals o = true ↔ r = o := by
  cases r; cases o; simp [equals, and_assoc]

lemma toString_of_registry_eq {r : PluginReference} (h : r.registry = "") :
    r.toString = r.name := by
  simp [toString, isEmbedded, h]

/-- The OCI form, as the four `/`-separated segments whose last one is `name:version`. -/
lemma toList_toString_of_registry_ne {r : PluginReference} (h : r.registry ≠ "") :
    r.toString.toList = List.intercalate ['/']
      [r.registry.toList, r.org.toList, r.repo.toList, r.name.toList ++ ':' :: r.version.toList] := by
  simp [toString, isEmbedded, h, List.intercalate]

end PluginReference

/-- `ParsePluginReference`: a string with neither `/` nor `:` is an embedded name; any other
needs at least four `/`-separated segments, of which the first three are the registry,
organisation and repository and the last one is `name:version`. -/
def parsePluginReference (ref : String) : Except String PluginReference :=
  if '/' ∉ ref.toList ∧ ':' ∉ ref.toList then .ok { name := ref }
  else
    match splitChar '/' ref.toList with
    | registry :: org :: repo :: rest@(_ :: _) =>
        match splitChar ':' (rest.getLastD []) with
        | [name, version] => .ok ⟨⟨registry⟩, ⟨org⟩, ⟨repo⟩, ⟨name⟩, ⟨version⟩⟩
        | _ => .error ("missing version tag: " ++ ref)
    | _ => .error ("invalid OCI reference: " ++ ref)

example : parsePluginReference "ghcr.io/org/repo/name:1.2.3" =
    .ok ⟨"ghcr.io", "org", "repo", "name", "1.2.3"⟩ := rfl

/-- What `parsePluginReference` accepts: an embedded name, or segments as described. -/
lemma parsePluginReference_eq_ok {s : String} {r : PluginReference}
    (h : parsePluginReference s = .ok r) :
    ('/' ∉ s.toList ∧ ':' ∉ s.toList ∧ r = { name := s }) ∨
      ∃ registry org repo rest name version,
        splitChar '/' s.toList = registry :: org :: repo :: rest ∧ rest ≠ [] ∧
        splitChar ':' (rest.getLastD []) = [name, version] ∧
        r = ⟨⟨registry⟩, ⟨org⟩, ⟨repo⟩, ⟨name⟩, ⟨version⟩⟩ := by
  unfold parsePluginReference at h
  split_ifs at h with hs
  · cases h
    exact .inl ⟨hs.1, hs.2, rfl⟩
  · split at h
    · rename_i _ registry org repo hd tl hsplit
      split at h
      · rename_i name version hv
        cases h
        exact .inr ⟨registry, org, repo, hd :: tl, name, version, hsplit, List.cons_ne_nil _ _, hv, rfl⟩
      · cases h
    · cases h

/-- Segments free of `c`, joined by `c`, split back into themselves. -/
lemma splitChar_intercalate {c : Char} {ps : List (List Char)} (hc : ∀ p ∈ ps, c ∉ p)
    (hps : ps ≠ []) : splitChar c (List.intercalate [c] ps) = ps := by
  rw [splitChar_eq_splitOn, List.splitOn_intercalate _ c hc hps]

lemma intercalate_splitChar (c : Char) (l : List Char) :
    List.intercalate [c] (splitChar c l) = l := by
  rw [splitChar_eq_splitOn, List.intercalate_splitOn]

lemma splitChar_of_not_mem {c : Char} {l : List Char} (h : c ∉ l) : splitChar c l = [l] := by
  rw [splitChar_eq_splitOn]
  exact List.splitOnP_eq_single _ _ fun x hx hc => h (by simpa using (beq_iff_eq.mp hc) ▸ hx)

lemma mem_of_splitChar_eq_cons_cons {c : Char} {l a b : List Char} {t : List (List Char)}
    (h : splitChar c l = a :: b :: t) : c ∈ l := by
  by_contra hc
  simp [splitChar_of_not_mem hc] at h

/-- Joins of separator-free segments are equal only when the segments are. -/
lemma intercalate_inj {c : Char} {ps qs : List (List Char)} (hp : ∀ p ∈ ps, c ∉ p)
    (hq : ∀ q ∈ qs, c ∉ q) (hps : ps ≠ []) (hqs : qs ≠ []) :
    List.intercalate [c] ps = List.intercalate [c] qs ↔ ps = qs :=
  ⟨fun h => by rw [← splitChar_intercalate hp hps, h, splitChar_intercalate hq hqs], congrArg _⟩

lemma singleton_getLastD_eq_iff {α : Type} {l : List α} {d : α} : [l.getLastD d] = l ↔ l.length = 1 :=
  ⟨fun h => by rw [← h]; rfl, fun h => by obtain ⟨a, rfl⟩ := List.length_eq_one.mp h; rfl⟩

/-- The last segment `name:version` of an accepted OCI reference. -/
lemma getLastD_eq_of_splitChar {l n v : List Char} (h : splitChar ':' l = [n, v]) :
    l = n ++ ':' :: v := by
  have := intercalate_splitChar ':' l
  rw [h] at this
  simpa [List.intercalate] using this.symm

/-- The converse of `parsePluginReference_eq_ok` on OCI references. -/
lemma parsePluginReference_of_splitChar {s : String} {reg org repo n v : List Char}
    {rest : List (List Char)} (hs : splitChar '/' s.toList = reg :: org :: repo :: rest)
    (hne : rest ≠ []) (hv : splitChar ':' (rest.getLastD []) = [n, v]) :
    parsePluginReference s = .ok ⟨⟨reg⟩, ⟨org⟩, ⟨repo⟩, ⟨n⟩, ⟨v⟩⟩ := by
  have hslash := mem_of_splitChar_eq_cons_cons hs
  obtain ⟨x, xs, rfl⟩ := List.exists_cons_of_ne_nil hne
  simp only [parsePluginReference, hslash, not_true_eq_false, false_and, if_false, hs]
  rw [hv]

/-- The segments of an accepted OCI reference hold no `/`, the four it keeps included; the
last one is `name:version`, neither of which holds a `:`. -/
lemma segments_of_splitChar {s : String} {reg org repo n v : List Char} {rest : List (List Char)}
    (hs : splitChar '/' s.toList = reg :: org :: repo :: rest) (hne : rest ≠ [])
    (hv : splitChar ':' (rest.getLastD []) = [n, v]) :
    (∀ p ∈ reg :: org :: repo :: rest, '/' ∉ p) ∧ (∀ p ∈ [reg, org, repo, n ++ ':' :: v], '/' ∉ p) ∧
      ':' ∉ n ∧ ':' ∉ v := by
  have hfree : ∀ p ∈ reg :: org :: repo :: rest, '/' ∉ p := fun p hp =>
    not_mem_of_mem_splitChar (hs ▸ hp)
  have hlast : rest.getLastD [] ∈ rest := by
    rw [List.getLastD_eq_getLast?, List.getLast?_eq_getLast _ hne]
    exact List.getLast_mem hne
  refine ⟨hfree, ?_, not_mem_of_mem_splitChar (l := rest.getLastD []) (by rw [hv]; simp),
    not_mem_of_mem_splitChar (l := rest.getLastD []) (by rw [hv]; simp)⟩
  rw [← getLastD_eq_of_splitChar hv]
  exact fun p hp => hfree p (List.cons_subset_cons _ (List.cons_subset_cons _
    (List.cons_subset_cons _ (List.cons_subset.mpr ⟨hlast, List.nil_subset _⟩))) hp)

/-- A reference with an empty registry prints as its name, which parses back as the name
alone when it holds neither `/` nor `:`. -/
lemma parsePluginReference_toString_of_registry_eq {r : PluginReference} (h : r.registry = "")
    (hs : '/' ∉ r.name.toList) (hc : ':' ∉ r.name.toList) :
    parsePluginReference r.toString = .ok { name := r.name } := by
  rw [PluginReference.toString_of_registry_eq h, parsePluginReference, if_pos ⟨hs, hc⟩]

/-- A reference with a registry parses back as itself when its segments hold no `/`, and its
name and version no `:`. -/
lemma parsePluginReference_toString_of_registry_ne {r : PluginReference} (h : r.registry ≠ "")
    (hs : ∀ p ∈ [r.registry.toList, r.org.toList, r.repo.toList, r.name.toList ++ ':' :: r.version.toList],
      '/' ∉ p)
    (hn : ':' ∉ r.name.toList) (hv : ':' ∉ r.version.toList) :
    parsePluginReference r.toString = .ok r := by
  have hnv : splitChar ':' (r.name.toList ++ ':' :: r.version.toList) = [r.name.toList, r.version.toList] := by
    simpa [List.intercalate] using @splitChar_intercalate ':' [_, _] (by simpa using ⟨hn, hv⟩) (by simp)
  exact parsePluginReference_of_splitChar
    (by rw [PluginReference.toList_toString_of_registry_ne h]; exact splitChar_intercalate hs (by simp))
    (List.cons_ne_nil _ _) (show splitChar ':' ([_].getLastD []) = _ from hnv)

/-- Which accepted references print back as the string they were parsed from, and which
parse back from their own text: an accepted string prints back exactly when it is an
embedded name or has four segments, the first one non-empty; a parsed reference parses back
from its text exactly when its registry is non-empty or, the registry being empty, so are
its organisation, repository and version. -/
theorem parsePluginReference_toString {s : String} {r : PluginReference}
    (h : parsePluginReference s = .ok r) :
    (r.toString = s ↔ ('/' ∉ s.toList ∧ ':' ∉ s.toList) ∨
      ((splitChar '/' s.toList).length = 4 ∧ (splitChar '/' s.toList).head? ≠ some [])) ∧
    (parsePluginReference r.toString = .ok r ↔
      r.registry ≠ "" ∨ (r.org = "" ∧ r.repo = "" ∧ r.version = "")) := by
  rcases parsePluginReference_eq_ok h with ⟨h1, h2, rfl⟩ | ⟨reg, org, repo, rest, n, v, hs, hne, hv, rfl⟩
  · have ht : ({ name := s } : PluginReference).toString = s :=
      PluginReference.toString_of_registry_eq rfl
    exact ⟨iff_of_true ht (.inl ⟨h1, h2⟩), iff_of_true (ht ▸ h) (.inr ⟨rfl, rfl, rfl⟩)⟩
  · obtain ⟨hfree, hfree4, hnc, hvc⟩ := segments_of_splitChar hs hne hv
    have hnv := getLastD_eq_of_splitChar hv
    have hn : '/' ∉ n := fun h => hfree4 (n ++ ':' :: v) (by simp) (List.mem_append_left _ h)
    have hslash : '/' ∈ s.toList := mem_of_splitChar_eq_cons_cons hs
    by_cases hreg : reg = []
    · subst hreg
      have hname : (⟨"", ⟨org⟩, ⟨repo⟩, ⟨n⟩, ⟨v⟩⟩ : PluginReference).toString = ⟨n⟩ :=
        PluginReference.toString_of_registry_eq rfl
      refine ⟨iff_of_false (fun e => hn (by rw [hname] at e; subst e; exact hslash)) ?_, ?_⟩
      · rintro (⟨h1, -⟩ | ⟨-, h2⟩)
        · exact h1 hslash
        · rw [hs] at h2
          exact h2 rfl
      rw [parsePluginReference_toString_of_registry_eq (r := ⟨"", ⟨org⟩, ⟨repo⟩, ⟨n⟩, ⟨v⟩⟩) rfl hn hnc]
      simp [eq_comm]
    · have hr : (⟨⟨reg⟩, ⟨org⟩, ⟨repo⟩, ⟨n⟩, ⟨v⟩⟩ : PluginReference).registry ≠ "" := by
        simpa [String.ext_iff] using hreg
      refine ⟨?_, iff_of_true (parsePluginReference_toString_of_registry_ne hr hfree4 hnc hvc) (.inl hr)⟩
      have ht : (⟨⟨reg⟩, ⟨org⟩, ⟨repo⟩, ⟨n⟩, ⟨v⟩⟩ : PluginReference).toString.toList =
          List.intercalate ['/'] [reg, org, repo, n ++ ':' :: v] :=
        PluginReference.toList_toString_of_registry_ne hr
      have hst : s.toList = List.intercalate ['/'] (reg :: org :: repo :: rest) := by
        rw [← hs, intercalate_splitChar]
      rw [show _ = s ↔ _ = s.toList from ⟨congrArg String.toList, String.ext⟩, ht, hst,
        intercalate_inj hfree4 hfree (by simp) (by simp), ← hnv, ← hst, hs]
      simp only [List.cons.injEq, true_and, singleton_getLastD_eq_iff, hslash, not_true_eq_false,
        false_and, false_or, List.length_cons, List.head?_cons, ne_eq, Option.some.injEq, hreg,
        not_false_eq_true, and_true]
      omega

theorem parsePluginReference_toString_five_segments :
    ((⟨"ghcr.io", "org", "team", "name", "1.0"⟩ : PluginReference).toString =
        "ghcr.io/org/team/repo/name:1.0" ↔
      ('/' ∉ "ghcr.io/org/team/repo/name:1.0".toList ∧ ':' ∉ "ghcr.io/org/team/repo/name:1.0".toList) ∨
        ((splitChar '/' "ghcr.io/org/team/repo/name:1.0".toList).length = 4 ∧
          (splitChar '/' "ghcr.io/org/team/repo/name:1.0".toList).head? ≠ some [])) ∧
    (parsePluginReference (⟨"ghcr.io", "org", "team", "name", "1.0"⟩ : PluginReference).toString =
        .ok ⟨"ghcr.io", "org", "team", "name", "1.0"⟩ ↔
      "ghcr.io" ≠ "" ∨ ("org" = "" ∧ "team" = "" ∧ "1.0" = "")) :=
  parsePluginReference_toString (show parsePluginReference "ghcr.io/org/team/repo/name:1.0" = _ from rfl)

example : (parsePluginReference "ghcr.io/org/team/repo/name:1.0").map PluginReference.toString =
    .ok "ghcr.io/org/team/name:1.0" := rfl

/-! ### Digests -/

/-- A `Digest`: a hash algorithm and the hex value of a hash. -/
structure Digest where
  algorithm : String := ""
  value : String := ""
  deriving DecidableEq, Repr

/-- `NewDigest`: SHA-256 and SHA-512 only. -/
def newDigest (algorithm hexValue : String) : Except String Digest :=
  if algorithm = "sha256" ∨ algorithm = "sha512" then .ok ⟨algorithm, hexValue⟩
  else .error ("unsupported digest algorithm: " ++ algorithm)

namespace Digest

/-- `String`: `algorithm:value`. -/
def toString (d : Digest) : String := d.algorithm ++ ":" ++ d.value

/-- `Equals`: the same algorithm and value. -/
def equals (d o : Digest) : Bool := d.algorithm == o.algorithm && d.value == o.value

@[simp] lemma equals_iff {d o : Digest} : d.equals o = true ↔ d = o := by
  cases d; cases o; simp [equals]

@[simp] lemma equals_self (d : Digest) : d.equals d = true := equals_iff.mpr rfl

end Digest

/-- `ParseDigest`: `strings.SplitN(s, ":", 2)` has two parts exactly when `s` has a colon,
and they are what precedes and follows the first one. -/
def parseDigest (s : String) : Except String Digest :=
  match cutChar ':' s.toList with
  | (algorithm, some value) => newDigest ⟨algorithm⟩ ⟨value⟩
  | (_, none) => .error ("invalid digest format: " ++ s)

/-- What `newDigest` builds, `parseDigest` reads back from its text. -/
lemma parseDigest_toString {a v : String} {d : Digest} (h : newDigest a v = .ok d) :
    parseDigest d.toString = .ok d := by
  unfold newDigest at h
  split_ifs at h with ha
  cases h
  have hc : ':' ∉ a.toList := by rcases ha with rfl | rfl <;> decide
  simp only [parseDigest, Digest.toString]
  rw [show (a ++ ":" ++ v).toList = a.toList ++ ':' :: v.toList by simp, cutChar_append_cons _ hc]
  simp [newDigest, ha]

/-- What `parseDigest` returns, `newDigest` built, and its text is the text parsed: the
algorithm, which holds no colon, is what precedes the first one. -/
lemma parseDigest_eq_ok {s : String} {d : Digest} (h : parseDigest s = .ok d) :
    newDigest d.algorithm d.value = .ok d ∧ d.toString = s := by
  unfold parseDigest at h
  split at h
  next a v hcut =>
    unfold newDigest at h
    split_ifs at h with ha
    cases h
    refine ⟨by simp [newDigest, ha], String.ext ?_⟩
    simpa [Digest.toString] using (cutChar_eq_some hcut).1.symm
  next => cases h

/-- **Digest texts round-trip** (`digest.txt`): a digest that `NewDigest` or `ParseDigest`
returns parses back from its text to an equal digest, and a text that `ParseDigest` accepts is
the text of the digest it returns, a hex part with colons, empty or not hex included. -/
theorem parseDigest_roundTrip :
    (∀ a v d, newDigest a v = .ok d → ∃ d', parseDigest d.toString = .ok d' ∧ d'.equals d = true) ∧
      (∀ s d, parseDigest s = .ok d → ∃ d', parseDigest d.toString = .ok d' ∧ d'.equals d = true) ∧
      ∀ s d, parseDigest s = .ok d → d.toString = s :=
  ⟨fun _ _ _ h => ⟨_, parseDigest_toString h, Digest.equals_self _⟩,
    fun _ _ h => ⟨_, parseDigest_toString (parseDigest_eq_ok h).1, Digest.equals_self _⟩,
    fun _ _ h => (parseDigest_eq_ok h).2⟩

example : parseDigest "sha256:abc:def" = .ok ⟨"sha256", "abc:def"⟩ := rfl

/-- The hash functions `computeHash` calls, as hex text: `hex.EncodeToString` of
`sha256.Sum256` and of `sha512.Sum512` of the data, two hex digits a byte of the 32-byte and
64-byte sums. -/
structure Hashes where
  sum256 : String → String
  sum512 : String → String
  sum256_length : ∀ data, (sum256 data).length = 64
  sum512_length : ∀ data, (sum512 data).length = 128

namespace Digest

/-- `computeHash`: the digest of the data under this digest's algorithm. -/
def computeHash (H : Hashes) (d : Digest) (data : String) : Except String Digest :=
  if d.algorithm = "sha256" then .ok ⟨"sha256", H.sum256 data⟩
  else if d.algorithm = "sha512" then .ok ⟨"sha512", H.sum512 data⟩
  else .error ("unsupported algorithm: " ++ d.algorithm)

/-- `Verify`: the data's digest under this digest's algorithm equals this digest. -/
def verify (H : Hashes) (d : Digest) (data : String) : Except String Unit := do
  let computed ← d.computeHash H data
  if d.equals computed then pure ()
  else throw ("digest mismatch: expected " ++ d.toString ++ ", got " ++ computed.toString)

/-- `Verify` succeeds exactly when the value is the hash of the data under the algorithm. -/
lemma verify_eq_ok_iff (H : Hashes) (d : Digest) (data : String) :
    d.verify H data = .ok () ↔
      (d.algorithm = "sha256" ∧ d.value = H.sum256 data) ∨
        (d.algorithm = "sha512" ∧ d.value = H.sum512 data) := by
  obtain ⟨a, v⟩ := d
  unfold verify computeHash
  by_cases h1 : a = "sha256"
  · subst h1
    by_cases hv : v = H.sum256 data <;> simp [hv, bind, Except.bind, pure, Except.pure, throw,
      throwThe, MonadExceptOf.throw]
  · by_cases h2 : a = "sha512"
    · subst h2
      by_cases hv : v = H.sum512 data <;> simp [hv, bind, Except.bind, pure, Except.pure, throw,
        throwThe, MonadExceptOf.throw]
    · simp [h1, h2, bind, Except.bind, throw, throwThe, MonadExceptOf.throw]

end Digest

/-! ### The plugin entity -/

/-- `PluginMetadata`: name, version, description and declared capabilities. -/
structure PluginMetadata where
  name : String := ""
  version : String := ""
  description : String := ""
  capabilities : List String := []
  deriving DecidableEq, Repr

/-- `entities.Plugin` (`NewPlugin`): a reference, the digest recorded for it, its
metadata. -/
structure Plugin where
  reference : PluginReference
  digest : Digest
  metadata : PluginMetadata
  deriving DecidableEq, Repr

/-- `VerifyIntegrity`: the recorded digest equals the expected one. -/
def Plugin.verifyIntegrity (p : Plugin) (expected : Digest) : Except String Unit :=
  if !p.digest.equals expected then
    .error ("integrity check failed: expected " ++ expected.toString ++ ", got " ++ p.digest.toString)
  else .ok ()

@[simp] lemma Plugin.verifyIntegrity_eq_ok_iff {p : Plugin} {expected : Digest} :
    p.verifyIntegrity expected = .ok () ↔ p.digest = expected := by
  unfold verifyIntegrity
  by_cases h : p.digest = expected <;> simp [h]

/-! ### Plugin names -/

/-- `[]byte(s)`: the UTF-8 bytes of a text. -/
def utf8Bytes (s : String) : List UInt8 := s.toList.flatMap String.utf8EncodeChar

/-- The characters `unicode.IsSpace` holds for: the Latin-1 spaces and the other `White_Space`
code points. -/
def spaceRunes : List Char :=
  ['\t', '\n', '\x0b', '\x0c', '\r', ' ', '\x85', '\xa0', '\u1680', '\u2000', '\u2001', '\u2002',
    '\u2003', '\u2004', '\u2005', '\u2006', '\u2007', '\u2008', '\u2009', '\u200a', '\u2028',
    '\u2029', '\u202f', '\u205f', '\u3000']

/-- Drop, from the front, texts of `encs` as long as one starts the bytes; `fuel` bounds the
drops. -/
def dropPrefixes (encs : List (List UInt8)) : Nat → List UInt8 → List UInt8
  | 0, s => s
  | fuel + 1, s =>
    match encs.find? (·.isPrefixOf s) with
    | some e => dropPrefixes encs fuel (s.drop e.length)
    | none => s

/-- `strings.TrimSpace` on bytes: the UTF-8 encodings of spaces dropped from the front, then
from the back. A rune that `DecodeRune` or `DecodeLastRune` reads as a space is exactly such an
encoding there, every encoding being as long as its first byte says. -/
def trimSpace (s : List UInt8) : List UInt8 :=
  let front := dropPrefixes (spaceRunes.map String.utf8EncodeChar) s.length s
  (dropPrefixes (spaceRunes.map fun c => (String.utf8EncodeChar c).reverse) front.length front.reverse).reverse

/-- `isValidPluginChar`, on a byte: an ASCII letter or digit, `_` or `-`. The bytes of a
multi-byte character are never such bytes, as the runes `range` reads from them are never
valid. -/
def isValidPluginByte (b : UInt8) : Bool :=
  (97 ≤ b && b ≤ 122) || (65 ≤ b && b ≤ 90) || (48 ≤ b && b ≤ 57) || b == 95 || b == 45

/-- `strings.Contains(name, "..")`. -/
def hasDotDot : List UInt8 → Bool
  | [] => false
  | a :: rest => (a == 46 && rest.head? == some 46) || hasDotDot rest

/-- The text of bytes, one character a byte (the UTF-8 decoding of ASCII bytes). -/
def ofBytes (bs : List UInt8) : String := ⟨bs.map fun b => Char.ofNat b.toNat⟩

/-- `PluginName`: a plugin identifier; the zero value is the empty name. -/
structure PluginName where
  value : String := ""
  deriving DecidableEq, Repr

/-- `NewPluginName` on the bytes of a name: trimmed of spaces, then non-empty, at most 64 bytes,
without path separator or `..`, and made of letters, digits, `_` and `-` only. -/
def newPluginName (name : List UInt8) : Except String PluginName :=
  let name := trimSpace name
  if name = [] then .error "plugin name cannot be empty"
  else if 64 < name.length then .error "plugin name too long (max 64 chars)"
  else if name.any (fun b => b == 47 || b == 92) then .error "plugin name cannot contain path separators"
  else if hasDotDot name then .error "plugin name cannot contain parent directory references"
  else if !name.all isValidPluginByte then
    .error ("invalid plugin name " ++ Netutil.goQuote (ofBytes name) ++
      ": must contain only alphanumeric characters, underscores, and hyphens")
  else .ok ⟨ofBytes name⟩

/-- `encoding/json`'s escape of one character of a string, as `json.Marshal` writes it (with
HTML escaping): printable ASCII and DEL but `"`, `\`, `<`, `>` and `&` as itself, the
two-letter escapes of `"`, `\`, backspace, form feed, newline, return and tab, other control and
HTML characters as `\u00XX`, the line and paragraph separators as `\u2028` and `\u2029`, any
other character as its UTF-8 bytes. -/
def jsonEscapeChar (c : Char) : List UInt8 :=
  let hex (n : Nat) : UInt8 := (if n < 10 then 48 + n else 87 + n).toUInt8
  if c.toNat < 0x80 then
    if 0x20 ≤ c.toNat ∧ c ≠ '"' ∧ c ≠ '\\' ∧ c ≠ '<' ∧ c ≠ '>' ∧ c ≠ '&' then
      [c.toNat.toUInt8]
    else if c = '"' ∨ c = '\\' then [92, c.toNat.toUInt8]
    else if c = '\x08' then [92, 98]
    else if c = '\x0c' then [92, 102]
    else if c = '\n' then [92, 110]
    else if c = '\r' then [92, 114]
    else if c = '\t' then [92, 116]
    else [92, 117, 48, 48, hex (c.toNat / 16), hex (c.toNat % 16)]
  else if c = '\u2028' ∨ c = '\u2029' then [92, 117, 50, 48, 50, hex (c.toNat % 16)]
  else String.utf8EncodeChar c

/-- `PluginName.MarshalJSON`: `json.Marshal` of the name's text. -/
def marshalJSON (p : PluginName) : List UInt8 := 34 :: p.value.toList.flatMap jsonEscapeChar ++ [34]

/-- `PluginName.UnmarshalJSON`: the data without its first and last byte, whatever they are,
given to `NewPluginName`. -/
def unmarshalJSON (data : List UInt8) : Except String PluginName :=
  if data.length < 2 then .error "invalid plugin name JSON"
  else newPluginName (data.drop 1).dropLast

/-- The first and the last byte of every space's encoding is a byte no plugin name holds. -/
lemma spaceRunes_ends : ∀ c ∈ spaceRunes,
    (String.utf8EncodeChar c).head?.any (fun b => !isValidPluginByte b) = true ∧
      (String.utf8EncodeChar c).reverse.head?.any (fun b => !isValidPluginByte b) = true := by
  decide

/-- A text that starts with a byte no plugin name holds starts no name. -/
lemma isPrefixOf_eq_false {e s : List UInt8} (he : e.head?.any (fun b => !isValidPluginByte b) = true)
    (hs : s.all isValidPluginByte = true) : e.isPrefixOf s = false := by
  match e, s with
  | [], _ => simp at he
  | _ :: _, [] => rfl
  | b :: _, x :: _ =>
    simp only [List.head?_cons, Option.any_some, Bool.not_eq_true'] at he
    simp only [List.all_cons, Bool.and_eq_true] at hs
    have : b ≠ x := fun h => by rw [h, hs.1] at he; cases he
    simp [List.isPrefixOf, this]

lemma dropPrefixes_of_forall {encs : List (List UInt8)} {s : List UInt8}
    (h : ∀ e ∈ encs, e.isPrefixOf s = false) : ∀ fuel, dropPrefixes encs fuel s = s
  | 0 => rfl
  | _ + 1 => by
    rw [dropPrefixes, List.find?_eq_none.mpr (fun e he => by simp [h e he])]

/-- A name's bytes have no spaces to trim. -/
lemma trimSpace_of_valid {v : List UInt8} (hv : v.all isValidPluginByte = true) : trimSpace v = v := by
  have hfront : dropPrefixes (spaceRunes.map String.utf8EncodeChar) v.length v = v :=
    dropPrefixes_of_forall (fun e he => by
      obtain ⟨c, hc, rfl⟩ := List.mem_map.mp he
      exact isPrefixOf_eq_false (spaceRunes_ends c hc).1 hv) _
  have hrev : v.reverse.all isValidPluginByte = true := by simpa using hv
  simp only [trimSpace, hfront]
  rw [dropPrefixes_of_forall (fun e he => by
    obtain ⟨c, hc, rfl⟩ := List.mem_map.mp he
    exact isPrefixOf_eq_false (spaceRunes_ends c hc).2 hrev) _, List.reverse_reverse]

/-- What `NewPluginName` accepts: the trimmed bytes, non-empty, at most 64 long, without `..`,
and all valid; the name is their text. -/
lemma newPluginName_eq_ok {name : List UInt8} {p : PluginName} (h : newPluginName name = .ok p) :
    trimSpace name ≠ [] ∧ (trimSpace name).length ≤ 64 ∧ hasDotDot (trimSpace name) = false ∧
      (trimSpace name).all isValidPluginByte = true ∧ p = ⟨ofBytes (trimSpace name)⟩ := by
  unfold newPluginName at h
  dsimp only at h
  split_ifs at h with h1 h2 h3 h4 h5
  cases h
  simp only [Bool.not_eq_true', Bool.not_eq_false] at h5
  exact ⟨h1, by omega, by simpa using h4, h5, rfl⟩

/-- A fact about every byte, checked on the 256 byte values. -/
lemma forall_byte {P : UInt8 → Prop} (h : ∀ n < 256, P (UInt8.ofNat n)) (b : UInt8) : P b := by
  have hb : UInt8.ofNat b.toNat = b := UInt8.toNat.inj (UInt8.toNat_ofNat_of_lt b.toNat_lt_size)
  exact hb ▸ h _ b.toNat_lt_size

set_option maxRecDepth 2000 in
lemma not_separator_of_valid : ∀ b : UInt8, isValidPluginByte b = true → (b == 47 || b == 92) = false :=
  forall_byte (by decide)

/-- Valid bytes are a name already: `NewPluginName` accepts them as they are. -/
lemma newPluginName_of_valid {v : List UInt8} (h1 : v ≠ []) (h2 : v.length ≤ 64)
    (h3 : hasDotDot v = false) (h4 : v.all isValidPluginByte = true) :
    newPluginName v = .ok ⟨ofBytes v⟩ := by
  have hsep : v.any (fun b => b == 47 || b == 92) = false :=
    List.any_eq_false.mpr fun b hb => by
      rw [not_separator_of_valid b (List.all_eq_true.mp h4 b hb)]
      exact Bool.false_ne_true
  simp [newPluginName, trimSpace_of_valid h4, h1, hsep, h3, h4, show ¬64 < v.length by omega]

set_option maxRecDepth 2000 in
/-- `json.Marshal` writes a byte of a name as itself. -/
lemma jsonEscapeChar_of_valid : ∀ b : UInt8, isValidPluginByte b = true →
    jsonEscapeChar (Char.ofNat b.toNat) = [b] :=
  forall_byte (P := fun b => isValidPluginByte b = true → jsonEscapeChar (Char.ofNat b.toNat) = [b])
    (by decide)

lemma marshalJSON_ofBytes {v : List UInt8} (h : v.all isValidPluginByte = true) :
    marshalJSON ⟨ofBytes v⟩ = 34 :: v ++ [34] := by
  have hv : (v.map fun b => Char.ofNat b.toNat).flatMap jsonEscapeChar = v := by
    induction v with
    | nil => rfl
    | cons b v ih =>
      simp only [List.all_cons, Bool.and_eq_true] at h
      simp [jsonEscapeChar_of_valid b h.1, ih h.2]
  exact congrArg (fun l => 34 :: l ++ [34]) hv

/-- **`UnmarshalJSON` strips without reading JSON**: data under two bytes is refused, and any
other data is read as the name its bytes but the first and the last form, whatever those two
are; the text `MarshalJSON` writes for a name is read back as that name. -/
theorem unmarshalJSON_law :
    (∀ data : List UInt8, data.length < 2 → unmarshalJSON data = .error "invalid plugin name JSON") ∧
      (∀ (first last : UInt8) (inner : List UInt8),
        unmarshalJSON (first :: inner ++ [last]) = newPluginName inner) ∧
      ∀ name p, newPluginName name = .ok p → unmarshalJSON (marshalJSON p) = .ok p := by
  have hstrip : ∀ (first last : UInt8) (inner : List UInt8),
      unmarshalJSON (first :: inner ++ [last]) = newPluginName inner := fun first last inner => by
    simp [unmarshalJSON]
  refine ⟨fun data h => by simp [unmarshalJSON, h], hstrip, fun name p h => ?_⟩
  obtain ⟨h1, h2, h3, h4, rfl⟩ := newPluginName_eq_ok h
  rw [marshalJSON_ofBytes h4, hstrip, newPluginName_of_valid h1 h2 h3 h4]

/-- The JSON number `12345` is read as the name `234`, the literal `null` as `ul`, and the JSON
string `"\u0068ttp"` for `http` is refused. -/
example : unmarshalJSON (utf8Bytes "12345") = .ok ⟨"234"⟩ ∧ unmarshalJSON (utf8Bytes "null") = .ok ⟨"ul"⟩ ∧
    unmarshalJSON (utf8Bytes "\"\\u0068ttp\"") = .error "plugin name cannot contain path separators" :=
  ⟨rfl, rfl, rfl⟩

end Plugins

end RegletHost
