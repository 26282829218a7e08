import RegletHost.Host.Executor

/-!
The `log_message` host function of the wazero adapter (`src/wazero/log.go`): a guest's
structured log entry, read from its linear memory, becomes one `slog` record.

* `LogMessage`, `LogAttr`: `hostfunc.LogMessage` as it comes off the wire: a level text, the
  message, the correlation context, and attributes of a declared type carried as text.
* `levelParse` (`slog.Level.UnmarshalText`): the named level plus a signed offset, in Go's
  wrapping `int` addition; `parseLogLevel` falls back to `INFO` with a warning.
* `convertSingleAttr`, `convertLogAttrs`, `buildLogContext`, `readLogMessage`, `logMessage`:
  as the code writes them; `logMessage` gives the records handed to `slog`, in order.
* `levelParse_levelString` (the level round trip): every 64-bit level is read back from the
  text `slog` prints for it; `convertSingleAttr_wireAttr` (the attribute round trip): every
  typed value is read back from the text Go's formatter prints for its kind.
* `logMessage_write` (**the host logs what the guest sent**): an entry a guest writes into its
  memory in the wire format, at any level, is handed to `slog` as exactly one record, with its
  level, message, correlation id and typed attributes.
* `convertSingleAttr_int64_text` (**an integer out of range is logged as text**): an `int64`
  attribute is logged as its integer when the value fits in 64 bits, and as its text exactly
  when it does not.
* `parseLogLevel_offset` (**level offsets wrap**): a name with an offset is read, with no
  warning, as the named level plus the offset modulo `2^64`, so `ERROR` plus a large offset
  becomes a level below `DEBUG`.

`strconv.ParseFloat` and `time.Parse` are library parsers and stand as parameters
(`AttrParsers`), as `json.Unmarshal` does (`decode`). `UnpackPtrLen` and
`CreateContextFromWire` are not in the sources: the executor's `unpackPtrLen` of the same
convention stands for the first, and of the context the model keeps the one value
`buildLogContext` adds, the request id. Which records a handler
prints (its minimum level) is the handler's business and is left out.
-/

namespace RegletHost

/-! ### Go's wrapping `int` -/

/-- Go's `int` arithmetic, which wraps modulo `2^64` into the `int64` range. -/
def GoInt.wrap (x : Int) : GoInt :=
  ⟨(x - int64Min) % 2 ^ 64 + int64Min,
    by have := Int.emod_nonneg (x - int64Min) (by decide : (2 : Int) ^ 64 ≠ 0); omega,
    by
      have := Int.emod_lt_of_pos (x - int64Min) (by decide : (0 : Int) < 2 ^ 64)
      simp only [int64Min, int64Max] at this ⊢
      omega⟩

lemma GoInt.eq_of_val {a b : GoInt} (h : a.val = b.val) : a = b := by
  cases a
  cases b
  cases h
  rfl

/-- A sum in range does not wrap. -/
lemma GoInt.wrap_of_range {x : Int} (h₁ : int64Min ≤ x) (h₂ : x ≤ int64Max) :
    (GoInt.wrap x).val = x := by
  simp only [GoInt.wrap, int64Min, int64Max] at h₁ h₂ ⊢
  rw [Int.emod_eq_of_lt (by omega) (by omega)]
  omega

lemma GoInt.wrap_val_self (a : GoInt) : GoInt.wrap a.val = a :=
  GoInt.eq_of_val (GoInt.wrap_of_range a.ge_min a.le_max)

namespace Wazero

open Executor

/-! ### `slog.Level` -/

/-- `slog.LevelDebug`. -/
def levelDebug : GoInt := ⟨-4, by decide, by decide⟩

/-- `slog.LevelInfo`. -/
def levelInfo : GoInt := ⟨0, by decide, by decide⟩

/-- `slog.LevelWarn`. -/
def levelWarn : GoInt := ⟨4, by decide, by decide⟩

/-- `slog.LevelError`. -/
def levelError : GoInt := ⟨8, by decide, by decide⟩

/-- The cut of `strings.IndexAny(s, "+-")`: the text before the first sign, and the rest from
that sign on (empty when there is no sign). -/
def cutAtSign : List Char → List Char × List Char
  | [] => ([], [])
  | c :: cs =>
    if c = '+' ∨ c = '-' then ([], c :: cs) else (c :: (cutAtSign cs).1, (cutAtSign cs).2)

/-- `unicode.ToUpper` on the runes whose upper case is an ASCII letter: the ASCII lower case
letters, dotless `ı` and long `ſ`. Every other rune is kept: its upper case is itself or not
ASCII, so it compares unequal to a level name's letters either way. -/
def toUpperRune (c : Char) : Char :=
  if 'a' ≤ c ∧ c ≤ 'z' then Char.ofNat (c.toNat - 32)
  else if c = 'ı' then 'I' else if c = 'ſ' then 'S' else c

/-- The level `strings.ToUpper(name)` names, among `DEBUG`, `INFO`, `WARN` and `ERROR`. -/
def levelOfName (name : List Char) : Option GoInt :=
  match String.mk (name.map toUpperRune) with
  | "DEBUG" => some levelDebug
  | "INFO" => some levelInfo
  | "WARN" => some levelWarn
  | "ERROR" => some levelError
  | _ => none

/-- `slog.Level.UnmarshalText` (`Level.parse`): the named level plus the signed offset from the
first `+` or `-` on, read by `strconv.Atoi`, added in Go's wrapping `int`; `none` where it
returns an error, which leaves the level it was called on unchanged. -/
def levelParse (s : String) : Option GoInt :=
  match cutAtSign s.toList with
  | (name, []) => levelOfName name
  | (name, rest) =>
    if (atoi (String.mk rest)).2 then
      (levelOfName name).map fun l => GoInt.wrap (l.val + (atoi (String.mk rest)).1)
    else none

/-! ### Records and attributes -/

/-- A `slog.Value` of the kinds `convertSingleAttr` builds. `F` and `T` are the values of
`strconv.ParseFloat` and `time.Parse`; `error` is `fmt.Errorf("%s", text)` by its text. -/
inductive AttrValue (F T : Type)
  | string (s : String)
  | int64 (v : GoInt)
  | bool (b : Bool)
  | float64 (x : F)
  | time (t : T)
  | error (text : String)

/-- `slog.Attr`. -/
structure Attr (F T : Type) where
  key : String
  value : AttrValue F T

/-- A record handed to `slog`: its level, message, attributes, and the request id its context
carries when the host function added one. -/
structure Record (F T : Type) where
  level : GoInt
  message : String
  attrs : List (Attr F T)
  requestId : Option String

/-- `hostfunc.LogAttr`: a key, the declared type and the value's text. -/
structure LogAttr where
  key : String
  type : String
  value : String

/-- `hostfunc.LogMessage` with its context's request id (the context's other fields are read
only by `CreateContextFromWire`). -/
structure LogMessage where
  level : String
  message : String
  requestId : String
  attrs : List LogAttr

/-- The library parsers `convertSingleAttr` calls for two kinds, `none` where they return an
error: `strconv.ParseFloat(s, 64)` and `time.Parse(time.RFC3339Nano, s)`. -/
structure AttrParsers (F T : Type) where
  parseFloat : String → Option F
  parseTime : String → Option T

variable {F T : Type}

/-- `strconv.ParseBool`. -/
def parseBool (str : String) : Option Bool :=
  if str ∈ ["1", "t", "T", "TRUE", "true", "True"] then some true
  else if str ∈ ["0", "f", "F", "FALSE", "false", "False"] then some false
  else none

/-- What `strconv.Atoi` accepts is a Go `int`. -/
lemma atoi_range {s : String} (h : (atoi s).2 = true) :
    int64Min ≤ (atoi s).1 ∧ (atoi s).1 ≤ int64Max := by
  unfold atoi at h ⊢
  generalize parseDecimal (splitSign s.toList).2 = d at h ⊢
  cases d with
  | none => cases h
  | some n =>
    dsimp only at h ⊢
    split_ifs at h ⊢ <;> dsimp only at h ⊢ <;> exact ⟨by omega, by omega⟩

/-- `strconv.ParseInt(s, 10, 64)`, which accepts what `strconv.Atoi` accepts on a 64-bit
platform. -/
def parseInt64 (s : String) : Option GoInt :=
  if h : (atoi s).2 = true then some ⟨(atoi s).1, (atoi_range h).1, (atoi_range h).2⟩ else none

/-- The cases of `convertSingleAttr`'s switch that return, `none` where it falls through to
the default. -/
def typedValue (P : AttrParsers F T) (type value : String) : Option (AttrValue F T) :=
  match type with
  | "string" => some (.string value)
  | "int64" => (parseInt64 value).map .int64
  | "bool" => (parseBool value).map .bool
  | "float64" => (P.parseFloat value).map .float64
  | "time" => (P.parseTime value).map .time
  | "error" => some (.error value)
  | _ => none

/-- `convertSingleAttr`. The default `slog.Any(attr.Key, attr.Value)` of a string is a string
value, as `slog.AnyValue` makes it. -/
def convertSingleAttr (P : AttrParsers F T) (attr : LogAttr) : Attr F T :=
  ⟨attr.key, (typedValue P attr.type attr.value).getD (.string attr.value)⟩

/-- `convertLogAttrs`. -/
def convertLogAttrs (P : AttrParsers F T) (wireAttrs : List LogAttr) : List (Attr F T) :=
  wireAttrs.map (convertSingleAttr P)

/-- `parseLogLevel`: the level and the records it logs, a warning for a text
`UnmarshalText` refuses. -/
def parseLogLevel (levelStr : String) : GoInt × List (Record F T) :=
  match levelParse levelStr with
  | some level => (level, [])
  | none => (levelInfo,
      [⟨levelWarn, "wazero: unknown log level from plugin", [⟨"level", .string levelStr⟩], none⟩])

/-- `buildLogContext`: the request id the record's context carries. -/
def buildLogContext (logMsg : LogMessage) : Option String :=
  if logMsg.requestId ≠ "" then some logMsg.requestId else none

/-- `readLogMessage`, `json.Unmarshal` standing as `decode`: the message, or the error record it
logs. -/
def readLogMessage (decode : List UInt8 → Except String LogMessage) (mem : Memory)
    (messagePacked : UInt64) : Except (Record F T) LogMessage :=
  match mem.read (unpackPtrLen messagePacked).1 (unpackPtrLen messagePacked).2 with
  | none => .error ⟨levelError, "wazero: failed to read log message from Guest memory", [], none⟩
  | some messageBytes =>
    match decode messageBytes with
    | .error err => .error ⟨levelError, "wazero: failed to unmarshal log message",
        [⟨"error", .error err⟩], none⟩
    | .ok logMsg => .ok logMsg

/-- `LogMessage`: the records handed to `slog` for the packed word on the stack, in order. -/
def logMessage (P : AttrParsers F T) (decode : List UInt8 → Except String LogMessage)
    (mem : Memory) (packed : UInt64) : List (Record F T) :=
  match readLogMessage decode mem packed with
  | .error r => [r]
  | .ok logMsg =>
    let level := parseLogLevel logMsg.level
    level.2 ++ [⟨level.1, logMsg.message, convertLogAttrs P logMsg.attrs, buildLogContext logMsg⟩]

/-! ### What a guest sends -/

/-- `fmt`'s `%+d`: the sign, always, then the digits. -/
def fmtSigned (v : Int) : String := if v < 0 then itoa v else "+" ++ itoa v

/-- `slog`'s `str(base, val)`: the base name, with the signed offset when it is not zero. -/
def levelText (base : String) (val : Int) : String :=
  if val = 0 then base else base ++ fmtSigned val

/-- `slog.Level.String`: the name of the level's band and the distance from its base. -/
def levelString (l : GoInt) : String :=
  if l.val < levelInfo.val then levelText "DEBUG" (l.val - levelDebug.val)
  else if l.val < levelWarn.val then levelText "INFO" (l.val - levelInfo.val)
  else if l.val < levelError.val then levelText "WARN" (l.val - levelWarn.val)
  else levelText "ERROR" (l.val - levelError.val)

/-- The formatters a guest prints the two library kinds with, and the law of their parsers:
each reads back what its formatter prints. -/
structure AttrFormat (P : AttrParsers F T) where
  formatFloat : F → String
  formatTime : T → String
  parseFloat_formatFloat : ∀ x, P.parseFloat (formatFloat x) = some x
  parseTime_formatTime : ∀ t, P.parseTime (formatTime t) = some t

/-- The wire attribute of a typed value: its kind's name and the text Go's formatter for the
kind prints (`strconv.FormatInt`, `strconv.FormatBool`, `err.Error()`). -/
def wireAttr {P : AttrParsers F T} (fm : AttrFormat P) (a : Attr F T) : LogAttr :=
  match a.value with
  | .string s => ⟨a.key, "string", s⟩
  | .int64 v => ⟨a.key, "int64", itoa v.val⟩
  | .bool b => ⟨a.key, "bool", if b then "true" else "false"⟩
  | .float64 x => ⟨a.key, "float64", fm.formatFloat x⟩
  | .time t => ⟨a.key, "time", fm.formatTime t⟩
  | .error text => ⟨a.key, "error", text⟩

/-- What a guest logs: a level, a message, a correlation id (empty for none) and typed
attributes. -/
structure LogEntry (F T : Type) where
  level : GoInt
  message : String
  requestId : String
  attrs : List (Attr F T)

/-- The wire message of an entry, the level printed as `slog` prints it. -/
def LogEntry.wire {P : AttrParsers F T} (fm : AttrFormat P) (e : LogEntry F T) : LogMessage :=
  ⟨levelString e.level, e.message, e.requestId, e.attrs.map (wireAttr fm)⟩

/-- The record an entry should become: its own level, message and attributes, and its
correlation id when it has one. -/
def LogEntry.record (e : LogEntry F T) : Record F T :=
  ⟨e.level, e.message, e.attrs, if e.requestId = "" then none else some e.requestId⟩

/-! ### The level round trip -/

/-- A sign-free name is cut off whole, before its offset's sign. -/
lemma cutAtSign_append {name : List Char} (hn : ∀ c ∈ name, c ≠ '+' ∧ c ≠ '-')
    {rest : List Char} (hr : ∀ c r, rest = c :: r → c = '+' ∨ c = '-') :
    cutAtSign (name ++ rest) = (name, rest) := by
  induction name with
  | nil =>
    cases rest with
    | nil => rfl
    | cons c r => simp [cutAtSign, hr c r rfl]
  | cons c cs ih =>
    have hc := hn c (List.mem_cons_self c cs)
    simp [cutAtSign, hc, ih fun d hd => hn d (List.mem_cons_of_mem c hd)]

/-- `strconv.Atoi` accepts the text of `strconv.Itoa` exactly for the integers of Go's `int`. -/
lemma atoi_itoa_ok (n : Int) : (atoi (itoa n)).2 = decide (int64Min ≤ n ∧ n ≤ int64Max) := by
  unfold atoi
  rw [splitSign_itoa, parseDecimal_toDigits]
  have hv : (if decide (n < 0) = true then -(n.natAbs : Int) else n.natAbs) = n := by
    by_cases hn : n < 0
    · simp [hn, abs_of_neg hn]
    · simp [hn, abs_of_nonneg (le_of_not_lt hn)]
  dsimp only
  rw [hv]
  split_ifs <;> simp <;> omega

/-- `strconv.Atoi` reads back `%+d` of every Go `int`. -/
lemma atoi_fmtSigned {v : Int} (h₁ : int64Min ≤ v) (h₂ : v ≤ int64Max) :
    atoi (fmtSigned v) = (v, true) := by
  unfold fmtSigned
  split_ifs with hv
  · exact atoi_itoa v h₁ h₂
  have hdig : (itoa v).toList = Nat.toDigits 10 v.natAbs := by simp [itoa, hv]
  have htext : ("+" ++ itoa v).toList = '+' :: Nat.toDigits 10 v.natAbs := by
    rw [← hdig]
    rfl
  unfold atoi
  simp only [htext, splitSign, parseDecimal_toDigits, Bool.false_eq_true, if_false,
    Int.natCast_natAbs, abs_of_nonneg (le_of_not_lt hv)]
  simp only [int64Min, int64Max] at h₁ h₂ ⊢
  split_ifs <;> first | rfl | omega

section LevelName

variable {base : String} {b : GoInt} (hb : levelOfName base.toList = some b)
  (hs : ∀ c ∈ base.toList, c ≠ '+' ∧ c ≠ '-')
include hb hs

/-- A level name alone is read as its level. -/
lemma levelParse_name : levelParse base = some b := by
  have hcut : cutAtSign base.toList = (base.toList, []) := by
    simpa using cutAtSign_append hs (fun c r (h : ([] : List Char) = c :: r) => by cases h)
  simp only [levelParse, hcut, hb]

/-- A level name followed by a signed offset is read as the named level plus the offset. -/
lemma levelParse_signed {val : Int} (h₁ : int64Min ≤ val) (h₂ : val ≤ int64Max) :
    levelParse (base ++ fmtSigned val) = some (GoInt.wrap (b.val + val)) := by
  obtain ⟨c, r, hcr, hc⟩ : ∃ c r, (fmtSigned val).toList = c :: r ∧ (c = '+' ∨ c = '-') := by
    unfold fmtSigned itoa
    split_ifs <;> exact ⟨_, _, rfl, by simp⟩
  have hcut : cutAtSign (base ++ fmtSigned val).toList = (base.toList, c :: r) := by
    rw [show (base ++ fmtSigned val).toList = base.toList ++ (fmtSigned val).toList from
      String.data_append _ _, hcr]
    exact cutAtSign_append hs (by rintro d t ⟨rfl, -⟩; exact hc)
  have hatoi : atoi (String.mk (c :: r)) = (val, true) := by
    rw [← hcr]
    exact atoi_fmtSigned h₁ h₂
  simp only [levelParse, hcut, hatoi, hb, if_true, Option.map_some']

/-- The text of a level in a band is read back as that level. -/
lemma levelParse_levelText (l : GoInt) (h₁ : int64Min ≤ l.val - b.val)
    (h₂ : l.val - b.val ≤ int64Max) : levelParse (levelText base (l.val - b.val)) = some l := by
  unfold levelText
  split_ifs with h0
  · rw [levelParse_name hb hs]
    exact congrArg some (GoInt.eq_of_val (by omega))
  · rw [levelParse_signed hb hs h₁ h₂, add_sub_cancel, GoInt.wrap_val_self]

end LevelName

/-- **The level round trip**: `UnmarshalText` reads back every level from the text `String`
prints for it. -/
lemma levelParse_levelString (l : GoInt) : levelParse (levelString l) = some l := by
  have hl₁ := l.ge_min
  have hl₂ := l.le_max
  unfold levelString
  split_ifs <;> refine levelParse_levelText ?_ (by decide) l ?_ ?_ <;>
    first
    | rfl
    | simp only [levelDebug, levelInfo, levelWarn, levelError, int64Min, int64Max] at *; omega

/-! ### The attribute round trip -/

/-- `strconv.ParseInt` reads back the decimal text of every Go `int`. -/
lemma parseInt64_itoa (v : GoInt) : parseInt64 (itoa v.val) = some v := by
  have h := atoi_itoa_goInt v
  unfold parseInt64
  split
  · exact congrArg some (GoInt.eq_of_val (by simp only [h]))
  · simp [h] at *

/-- **The attribute round trip**: every typed value is read back from its wire attribute. -/
lemma convertSingleAttr_wireAttr (P : AttrParsers F T) (fm : AttrFormat P) (a : Attr F T) :
    convertSingleAttr P (wireAttr fm a) = a := by
  rcases a with ⟨key, s | v | b | x | t | text⟩
  · rfl
  · simp [wireAttr, convertSingleAttr, typedValue, parseInt64_itoa]
  · cases b <;> rfl
  · simp [wireAttr, convertSingleAttr, typedValue, fm.parseFloat_formatFloat]
  · simp [wireAttr, convertSingleAttr, typedValue, fm.parseTime_formatTime]
  · rfl

/-- **The host logs what the guest sent.** For every entry, at any 64-bit level and with any
typed attributes, written by a guest into its memory at a pointer as a payload of fewer than
`2^32` bytes that `json.Unmarshal` decodes to the entry's wire message, `LogMessage` on the
packed word hands `slog` exactly one record: the entry's level, message and attributes, with
its correlation id when it has one. -/
theorem logMessage_write (P : AttrParsers F T) (fm : AttrFormat P)
    (decode : List UInt8 → Except String LogMessage) {mem mem' : Memory} {ptr : UInt64}
    {payload : List UInt8} (entry : LogEntry F T)
    (hw : mem.write ptr.toUInt32 payload = some mem') (hlen : payload.length < 2 ^ 32)
    (hdec : decode payload = .ok (entry.wire fm)) :
    logMessage P decode mem' (packPtrLen ptr payload.length.toUInt64) = [entry.record] := by
  have hattrs : convertLogAttrs P (entry.attrs.map (wireAttr fm)) = entry.attrs := by
    rw [convertLogAttrs, List.map_map]
    exact List.map_id'' (convertSingleAttr_wireAttr P fm) _
  simp only [logMessage, readLogMessage, unpackPtrLen_place _ hlen, read_write hw hlen, hdec,
    LogEntry.wire, parseLogLevel, levelParse_levelString, hattrs, List.nil_append,
    buildLogContext, LogEntry.record, ne_eq, ite_not]

/-- **An integer out of range is logged as text.** For every Go `int`, the `int64` attribute
of its decimal text is logged as that integer; for every integer, it is logged as its text, a
string, exactly when the integer does not fit in 64 bits. -/
theorem convertSingleAttr_int64_text (P : AttrParsers F T) (key : String) :
    (∀ v : GoInt, convertSingleAttr P ⟨key, "int64", itoa v.val⟩ = ⟨key, .int64 v⟩) ∧
    ∀ n : Int, convertSingleAttr P ⟨key, "int64", itoa n⟩ = ⟨key, .string (itoa n)⟩ ↔
      n < int64Min ∨ int64Max < n := by
  refine ⟨fun v => by simp [convertSingleAttr, typedValue, parseInt64_itoa], fun n => ?_⟩
  by_cases hn : int64Min ≤ n ∧ n ≤ int64Max
  · have h : parseInt64 (itoa n) = some ⟨n, hn.1, hn.2⟩ := parseInt64_itoa ⟨n, hn.1, hn.2⟩
    simp [convertSingleAttr, typedValue, h]
    omega
  · have h : parseInt64 (itoa n) = none := dif_neg (by simp [atoi_itoa_ok, hn])
    simp [convertSingleAttr, typedValue, h]
    omega

/-- **Level offsets wrap.** For every Go `int` offset, each level name followed by the offset
as `%+d` prints it is read, with no warning, as the named level plus the offset in Go's
wrapping addition. -/
theorem parseLogLevel_offset (o : GoInt) :
    ∀ nl ∈ [("DEBUG", levelDebug), ("INFO", levelInfo), ("WARN", levelWarn),
      ("ERROR", levelError)],
      parseLogLevel (F := F) (T := T) (nl.1 ++ fmtSigned o.val) =
        (GoInt.wrap (nl.2.val + o.val), []) := by
  intro nl hnl
  simp only [List.mem_cons, List.mem_singleton, List.not_mem_nil, or_false] at hnl
  rcases hnl with rfl | rfl | rfl | rfl <;>
    rw [parseLogLevel, levelParse_signed ?_ ?_ o.ge_min o.le_max] <;> first | rfl | decide

/-- `ERROR` with the largest offset is accepted without a warning, and wraps. -/
theorem parseLogLevel_offset_error_max :
    ("ERROR", levelError) ∈ [("DEBUG", levelDebug), ("INFO", levelInfo), ("WARN", levelWarn),
      ("ERROR", levelError)] ∧
    parseLogLevel (F := Nat) (T := Nat) ("ERROR" ++ fmtSigned int64Max) =
      (GoInt.wrap (levelError.val + int64Max), []) :=
  have hmem : ("ERROR", levelError) ∈ [("DEBUG", levelDebug), ("INFO", levelInfo),
      ("WARN", levelWarn), ("ERROR", levelError)] :=
    List.mem_cons_of_mem _ (List.mem_cons_of_mem _ (List.mem_cons_of_mem _
      (List.mem_singleton_self _)))
  ⟨hmem, parseLogLevel_offset ⟨int64Max, by decide, le_rfl⟩ _ hmem⟩

/-- The wrapped level of `ERROR+9223372036854775807` lies far below `DEBUG`. -/
example : (parseLogLevel (F := Nat) (T := Nat) "ERROR+9223372036854775807").1.val =
    -9223372036854775801 := by
  decide

/-! ### Concrete runs -/

/-- Parsers that read a float or a time as a decimal count. -/
def decimalParsers : AttrParsers Nat Nat :=
  ⟨fun s => parseDecimal s.toList, fun s => parseDecimal s.toList⟩

/-- Their formatters, `%d`. -/
def decimalFormat : AttrFormat decimalParsers :=
  ⟨fun n => String.mk (Nat.toDigits 10 n), fun n => String.mk (Nat.toDigits 10 n),
    parseDecimal_toDigits, parseDecimal_toDigits⟩

/-- A debug entry two below `DEBUG`, with a correlation id and three typed attributes. -/
def cacheMiss : LogEntry Nat Nat :=
  ⟨⟨-6, by decide, by decide⟩, "cache miss", "req-1",
    [⟨"size", .int64 ⟨42, by decide, by decide⟩⟩, ⟨"hit", .bool false⟩, ⟨"took", .float64 7⟩]⟩

example : cacheMiss.wire decimalFormat =
    ⟨"DEBUG-2", "cache miss", "req-1",
      [⟨"size", "int64", "42"⟩, ⟨"hit", "bool", "false"⟩, ⟨"took", "float64", "7"⟩]⟩ := by
  rfl

/-- `cacheMiss` written at offset `1` of a four-byte memory, as three bytes the decoder reads as
its wire message, is logged as its record. -/
theorem logMessage_write_cacheMiss :
    logMessage decimalParsers (fun _ => .ok (cacheMiss.wire decimalFormat)) ⟨[0, 1, 2, 3]⟩
      (packPtrLen 1 [1, 2, 3].length.toUInt64) = [cacheMiss.record] :=
  logMessage_write decimalParsers decimalFormat _ cacheMiss
    (show Memory.write ⟨[0, 0, 0, 0]⟩ (1 : UInt64).toUInt32 [1, 2, 3] = some ⟨[0, 1, 2, 3]⟩
      from rfl)
    (by decide) rfl

end Wazero

end RegletHost
