import RegletHost.Netutil.Addr

/-!
The WASM executor's calling convention (`src/host/executor.go`, `PluginInstance`): how the
host hands bytes to a plugin through its linear memory and reads the plugin's answer back,
and the `log_message` host function's read in the other direction.

* `Memory.read`, `Memory.write`: `api.Memory`'s `Read` and `Write`, which refuse a range past
  the memory's end; `read_write` reads back what a write put.
* `packPtrLen`, `unpackPtrLen` (the packed word): `(ptr << 32) | length` and
  `uint32(packed >> 32)`, `uint32(packed)`; `unpackPtrLen_packPtrLen` (**the packed word
  round trip**) for every length below `2^32`.
* `PluginInstance.callRaw`, `unmarshalPacked`, `PluginInstance.manifest`,
  `PluginInstance.schema`, `PluginInstance.check`, `logMessageHandler`: as the code writes
  them, over a module whose exports are functions of its memory and one `uint64`.
* `callRaw_delivers` (**the guest reads what the host sent**): whenever a call succeeds, the
  export ran on a memory where its packed argument points at exactly the input.
* `check_implements` (**the executor runs the plugin's function**): for a guest whose
  `observe` export implements a function `f` of byte strings through the convention, and an
  `allocate` that gives room, `Check` returns the decoding of `f` of the marshalled
  configuration, or the zero result when `f` gives no bytes.
* `logMessageHandler_write` (**the host reads what the guest sent**): a message a guest
  writes into its memory and passes packed is logged as it decodes.
-/

namespace RegletHost

namespace Executor

open Netutil

/-! ### Linear memory and the packed word -/

/-- A module's linear memory, as `api.Memory` exposes it: its bytes. -/
structure Memory where
  bytes : List UInt8

/-- `Memory.Read(offset, byteCount)`: the bytes of the range, when it lies in the memory. -/
def Memory.read (m : Memory) (offset byteCount : UInt32) : Option (List UInt8) :=
  if offset.toNat + byteCount.toNat ≤ m.bytes.length then
    some ((m.bytes.drop offset.toNat).take byteCount.toNat)
  else none

/-- `Memory.Write(offset, v)`: the memory with `v` at `offset`, when it fits. -/
def Memory.write (m : Memory) (offset : UInt32) (v : List UInt8) : Option Memory :=
  if offset.toNat + v.length ≤ m.bytes.length then
    some ⟨m.bytes.take offset.toNat ++ v ++ m.bytes.drop (offset.toNat + v.length)⟩
  else none

/-- `(ptr << 32) | length`, the word that carries a place in memory across the boundary. -/
def packPtrLen (ptr length : UInt64) : UInt64 := (ptr <<< 32) ||| length

/-- `uint32(packed >> 32)` and `uint32(packed)`: the pointer and the length. -/
def unpackPtrLen (packed : UInt64) : UInt32 × UInt32 := ((packed >>> 32).toUInt32, packed.toUInt32)

lemma read_length {m : Memory} {offset byteCount : UInt32} {data : List UInt8}
    (h : m.read offset byteCount = some data) : data.length = byteCount.toNat := by
  unfold Memory.read at h
  split_ifs at h with hr
  cases h
  simp only [List.length_take, List.length_drop]
  omega

lemma write_length {m m' : Memory} {offset : UInt32} {v : List UInt8}
    (h : m.write offset v = some m') : m'.bytes.length = m.bytes.length := by
  unfold Memory.write at h
  split_ifs at h with hw
  cases h
  simp only [List.length_append, List.length_take, List.length_drop]
  omega

/-- A write is read back at its offset. -/
lemma read_write {m m' : Memory} {offset : UInt32} {v : List UInt8}
    (h : m.write offset v = some m') (hv : v.length < 2 ^ 32) :
    m'.read offset v.length.toUInt32 = some v := by
  have hn : v.length.toUInt32.toNat = v.length := Nat.mod_eq_of_lt hv
  have hlen := write_length h
  unfold Memory.write at h
  split_ifs at h with hw
  cases h
  have hoff : (m.bytes.take offset.toNat).length = offset.toNat := by
    simp only [List.length_take]; omega
  rw [Memory.read, if_pos (by omega), hn, List.append_assoc, List.drop_left' hoff,
    List.take_left' rfl]

/-- The empty range at the start is in every memory. -/
lemma read_zero (m : Memory) : m.read 0 0 = some [] := by
  simp [Memory.read]

/-- The packed word's value: the pointer's low 32 bits above a length below `2^32`. -/
lemma toNat_packPtrLen (ptr length : UInt64) (h : length.toNat < 2 ^ 32) :
    (packPtrLen ptr length).toNat = 2 ^ 32 * (ptr.toNat % 2 ^ 32) + length.toNat := by
  have hshift : (ptr <<< 32).toNat = 2 ^ 32 * (ptr.toNat % 2 ^ 32) := by
    show (ptr.toBitVec <<< (32 : Nat)).toNat = _
    rw [BitVec.toNat_shiftLeft, Nat.shiftLeft_eq]
    show ptr.toNat * 2 ^ 32 % (2 ^ 32 * 2 ^ 32) = _
    rw [Nat.mul_mod_mul_right, Nat.mul_comm]
  show ((ptr <<< 32).toBitVec ||| length.toBitVec).toNat = _
  rw [BitVec.toNat_or]
  show (ptr <<< 32).toNat ||| length.toNat = _
  rw [hshift, Nat.mul_add_lt_is_or h]

lemma toNat_low (x : UInt64) : x.toUInt32.toNat = x.toNat % 2 ^ 32 := rfl

lemma toNat_high (x : UInt64) : (x >>> 32).toNat = x.toNat / 2 ^ 32 := by
  show (x.toBitVec >>> (32 : Nat)).toNat = _
  rw [BitVec.toNat_ushiftRight, Nat.shiftRight_eq_div_pow]
  rfl

/-- **The packed word round trip.** For every pointer and every length below `2^32`,
unpacking `(ptr << 32) | length` gives the pointer's low 32 bits and the length. -/
theorem unpackPtrLen_packPtrLen (ptr length : UInt64) (h : length.toNat < 2 ^ 32) :
    unpackPtrLen (packPtrLen ptr length) = (ptr.toUInt32, length.toUInt32) := by
  have hp := toNat_packPtrLen ptr length h
  refine Prod.ext (UInt32.toNat.inj ?_) (UInt32.toNat.inj ?_) <;>
    simp only [unpackPtrLen, toNat_low, toNat_high, hp] <;> omega

/-- A length of 5 bytes at pointer 8 unpacks to them. -/
theorem unpackPtrLen_packPtrLen_eight : (5 : UInt64).toNat < 2 ^ 32 ∧
    unpackPtrLen (packPtrLen 8 5) = ((8 : UInt64).toUInt32, (5 : UInt64).toUInt32) :=
  ⟨by decide, unpackPtrLen_packPtrLen 8 5 (by decide)⟩

/-! ### The plugin instance -/

/-- An exported function as the host calls it, `func(uint64) uint64` on the module's memory:
the memory it leaves and its result, or the error of the call. -/
def GuestFn := Memory → UInt64 → Except String (Memory × UInt64)

/-- An instantiated module (`api.Module`): its memory and its exported functions. -/
structure Module where
  memory : Memory
  exports : String → Option GuestFn

/-- `PluginInstance`: the instantiated module. -/
structure PluginInstance where
  module : Module

/-- The part of `callRaw` that places a non-empty input: `allocate` of its length, then
`Write` at the pointer; an empty input has the place `(0, 0)`. -/
def placeInput (mod : Module) (input : List UInt8) : Except String (UInt64 × UInt64 × Memory) :=
  if input.length > 0 then
    match mod.exports "allocate" with
    | none => .error "function \x27allocate\x27 not exported"
    | some allocate =>
      match allocate mod.memory input.length.toUInt64 with
      | .error e => .error ("allocate failed: " ++ e)
      | .ok (mem, ptr) =>
        match mem.write ptr.toUInt32 input with
        | none => .error "failed to write input to memory"
        | some mem' => .ok (ptr, input.length.toUInt64, mem')
  else .ok (0, 0, mod.memory)

/-- `callRaw`: the export called with the packed place of its input, and its result. -/
def PluginInstance.callRaw (p : PluginInstance) (name : String) (input : List UInt8) :
    Except String (UInt64 × PluginInstance) :=
  match p.module.exports name with
  | none => .error ("function " ++ goQuote name ++ " not found")
  | some fn => do
    let (ptr, length, mem) ← placeInput p.module input
    let (mem', res) ← (fn mem (packPtrLen ptr length)).mapError ("call failed: " ++ ·)
    pure (res, ⟨{ p.module with memory := mem' }⟩)

/-- `unmarshalPacked`, `json.Unmarshal` into a value of type `α` standing as `decode`: an
empty answer leaves the value at its zero `zero`. -/
def unmarshalPacked {α : Type} (decode : List UInt8 → Except String α) (zero : α)
    (mem : Memory) (packed : UInt64) : Except String α :=
  if (unpackPtrLen packed).2 = 0 then .ok zero
  else
    match mem.read (unpackPtrLen packed).1 (unpackPtrLen packed).2 with
    | none => .error "failed to read result from memory"
    | some data => decode data

/-- `Manifest`: the `manifest` export's answer, decoded. -/
def PluginInstance.manifest {α : Type} (decode : List UInt8 → Except String α) (zero : α)
    (p : PluginInstance) : Except String (α × PluginInstance) := do
  let (packed, p') ← p.callRaw "manifest" []
  let manifest ← unmarshalPacked decode zero p'.module.memory packed
  pure (manifest, p')

/-- `Schema`: the bytes of the `schema` export's answer. -/
def PluginInstance.schema (p : PluginInstance) : Except String (List UInt8 × PluginInstance) := do
  let (packed, p') ← p.callRaw "schema" []
  match p'.module.memory.read (unpackPtrLen packed).1 (unpackPtrLen packed).2 with
  | none => .error "failed to read schema from memory"
  | some data => pure (data, p')

/-- `Check`, `json.Marshal(config)` standing as `configBytes`: the `observe` export's answer
for the marshalled configuration, decoded. -/
def PluginInstance.check {α : Type} (configBytes : Except String (List UInt8))
    (decode : List UInt8 → Except String α) (zero : α) (p : PluginInstance) :
    Except String (α × PluginInstance) := do
  let input ← configBytes
  let (packed, p') ← p.callRaw "observe" input
  let result ← unmarshalPacked decode zero p'.module.memory packed
  pure (result, p')

/-- The fields of the log message the executor's `log_message` handler decodes. -/
structure LogMsg where
  level : String
  message : String

/-- The bytes of a text, as Go writes a string. -/
def utf8 (s : String) : List UInt8 := s.toUTF8.data.toList

/-- What the executor's `log_message` handler writes to standard error for a payload it
read, `json.Unmarshal` of the payload standing as `decode`. -/
def logPayload (decode : List UInt8 → Except String LogMsg) (payload : List UInt8) :
    List UInt8 :=
  match decode payload with
  | .error e => utf8 ("host: failed to unmarshal log message: " ++ e ++ ", payload: ") ++
      payload ++ utf8 "\n"
  | .ok msg => utf8 ("WASM Log [" ++ msg.level ++ "]: " ++ msg.message ++ "\n")

/-- The executor's `log_message` handler: the bytes it writes to standard error for the
packed word on the stack. -/
def logMessageHandler (decode : List UInt8 → Except String LogMsg) (mem : Memory)
    (packed : UInt64) : List UInt8 :=
  match mem.read (unpackPtrLen packed).1 (unpackPtrLen packed).2 with
  | none => utf8 ("host: failed to read log message from WASM memory at ptr=" ++
      itoa (unpackPtrLen packed).1.toNat ++ ", len=" ++ itoa (unpackPtrLen packed).2.toNat ++ "\n")
  | some payload => logPayload decode payload

/-! ### The convention in both directions -/

lemma toUInt64_toNat {n : Nat} (h : n < 2 ^ 32) : n.toUInt64.toNat = n :=
  Nat.mod_eq_of_lt (by omega)

/-- The packed place of a text of fewer than `2^32` bytes at a pointer. -/
lemma unpackPtrLen_place (ptr : UInt64) {v : List UInt8} (h : v.length < 2 ^ 32) :
    unpackPtrLen (packPtrLen ptr v.length.toUInt64) = (ptr.toUInt32, v.length.toUInt32) := by
  rw [unpackPtrLen_packPtrLen _ _ (by rw [toUInt64_toNat h]; exact h)]
  refine Prod.ext rfl (UInt32.toNat.inj ?_)
  simp only [toNat_low, toUInt64_toNat h]
  rfl

/-- The input `callRaw` places is read back at its packed place. -/
lemma placeInput_read {mod : Module} {input : List UInt8} {ptr length : UInt64} {mem : Memory}
    (h : placeInput mod input = .ok (ptr, length, mem)) (hlen : input.length < 2 ^ 32) :
    mem.read (unpackPtrLen (packPtrLen ptr length)).1 (unpackPtrLen (packPtrLen ptr length)).2 =
      some input := by
  unfold placeInput at h
  split_ifs at h with hpos
  · rcases ha : mod.exports "allocate" with _ | allocate <;> simp only [ha] at h
    · cases h
    rcases hc : allocate mod.memory input.length.toUInt64 with e | ⟨mem₁, p⟩ <;>
      simp only [hc] at h
    · cases h
    rcases hw : mem₁.write p.toUInt32 input with _ | mem₂ <;> simp only [hw] at h
    · cases h
    cases h
    rw [unpackPtrLen_place _ hlen]
    exact read_write hw hlen
  · cases h
    rw [List.eq_nil_of_length_eq_zero (Nat.eq_zero_of_not_pos hpos)]
    exact read_zero _

/-- An answer at a packed place that reads back is decoded, or is the zero value when
empty. -/
lemma unmarshalPacked_of_read {α : Type} (decode : List UInt8 → Except String α) (zero : α)
    {mem : Memory} {q : UInt64} {x : List UInt8}
    (h : mem.read (unpackPtrLen q).1 (unpackPtrLen q).2 = some x) :
    unmarshalPacked decode zero mem q = if x = [] then .ok zero else decode x := by
  have hx := read_length h
  have hzero : (unpackPtrLen q).2 = 0 ↔ x = [] := by
    rw [← List.length_eq_zero, hx]
    exact ⟨fun h0 => h0 ▸ rfl, fun h0 => UInt32.toNat.inj h0⟩
  unfold unmarshalPacked
  by_cases hq : (unpackPtrLen q).2 = 0
  · rw [if_pos hq, if_pos (hzero.mp hq)]
  · rw [if_neg hq, if_neg (mt hzero.mpr hq), h]

/-- **The guest reads what the host sent.** Whenever `callRaw` of an export succeeds on an
input of fewer than `2^32` bytes, the export ran on a memory where its packed argument
points at exactly the input, its result is what `callRaw` returns, and the instance keeps
its exports with the memory the call left. -/
theorem callRaw_delivers {p p' : PluginInstance} {name : String} {input : List UInt8}
    {r : UInt64} (h : p.callRaw name input = .ok (r, p')) (hlen : input.length < 2 ^ 32) :
    ∃ fn mem q, p.module.exports name = some fn ∧ fn mem q = .ok (p'.module.memory, r) ∧
      mem.read (unpackPtrLen q).1 (unpackPtrLen q).2 = some input ∧
      p'.module.exports = p.module.exports := by
  unfold PluginInstance.callRaw at h
  rcases hf : p.module.exports name with _ | fn <;> simp only [hf] at h
  · cases h
  rcases hpl : placeInput p.module input with e | ⟨ptr, length, mem⟩ <;>
    simp only [hpl, bind, Except.bind] at h
  · cases h
  rcases hc : fn mem (packPtrLen ptr length) with e | ⟨mem', res⟩ <;>
    simp only [hc, Except.mapError, pure, Except.pure, Except.ok.injEq, Prod.mk.injEq] at h
  · cases h
  obtain ⟨rfl, rfl⟩ := h
  exact ⟨fn, mem, _, rfl, hc, placeInput_read hpl hlen, rfl⟩

/-- A guest function implements `f` over byte strings: called with the packed place of any
input in its memory, it returns the packed place of `f` of that input in the memory it
leaves. -/
def Implements (fn : GuestFn) (f : List UInt8 → List UInt8) : Prop :=
  ∀ mem q x, mem.read (unpackPtrLen q).1 (unpackPtrLen q).2 = some x →
    ∃ mem' r, fn mem q = .ok (mem', r) ∧ mem'.read (unpackPtrLen r).1 (unpackPtrLen r).2 = some (f x)

/-- The instance has room for an input: it is empty, or `allocate` returns a pointer with
that many bytes of memory after it. -/
def AllocatesRoom (p : PluginInstance) (input : List UInt8) : Prop :=
  input = [] ∨ ∃ allocate mem ptr, p.module.exports "allocate" = some allocate ∧
    allocate p.module.memory input.length.toUInt64 = .ok (mem, ptr) ∧
    ptr.toUInt32.toNat + input.length ≤ mem.bytes.length

/-- With room, `callRaw` places its input. -/
lemma placeInput_of_room {p : PluginInstance} {input : List UInt8} (h : AllocatesRoom p input) :
    ∃ ptr length mem, placeInput p.module input = .ok (ptr, length, mem) := by
  rcases h with rfl | ⟨allocate, mem, ptr, ha, hc, hroom⟩
  · exact ⟨0, 0, _, rfl⟩
  unfold placeInput
  by_cases hpos : input.length > 0
  · simp only [if_pos hpos, ha, hc, Memory.write, if_pos hroom]
    exact ⟨_, _, _, rfl⟩
  · exact ⟨0, 0, _, if_neg hpos⟩

/-- **The executor runs the plugin's function.** For every instance whose `observe` export
implements a function `f` of byte strings through the packed convention, every marshalled
configuration of fewer than `2^32` bytes the instance has room for, and every decoder, `Check`
returns the decoding of `f` of the configuration, or the zero result when `f` gives no
bytes. -/
theorem check_implements {p : PluginInstance} {observe : GuestFn} {f : List UInt8 → List UInt8}
    (hobs : p.module.exports "observe" = some observe) (himpl : Implements observe f)
    {input : List UInt8} (hlen : input.length < 2 ^ 32) (hroom : AllocatesRoom p input)
    {α : Type} (decode : List UInt8 → Except String α) (zero : α) :
    (p.check (.ok input) decode zero).map Prod.fst =
      if f input = [] then .ok zero else decode (f input) := by
  obtain ⟨ptr, length, mem, hpl⟩ := placeInput_of_room hroom
  obtain ⟨mem', r, hrun, hread⟩ := himpl mem _ input (placeInput_read hpl hlen)
  have hcall : p.callRaw "observe" input = .ok (r, ⟨{ p.module with memory := mem' }⟩) := by
    simp only [PluginInstance.callRaw, hobs, hpl, hrun, bind, Except.bind, Except.mapError]
    rfl
  simp only [PluginInstance.check, hcall, bind, Except.bind, pure, Except.pure]
  rw [unmarshalPacked_of_read decode zero hread]
  split_ifs <;> [rfl; cases decode (f input) <;> rfl]

/-- **The host reads what the guest sent.** A payload of fewer than `2^32` bytes that a guest
writes into its memory at a pointer and passes as the packed word is the payload the
`log_message` handler logs. -/
theorem logMessageHandler_write {mem mem' : Memory} {ptr : UInt64} {payload : List UInt8}
    (hw : mem.write ptr.toUInt32 payload = some mem') (hlen : payload.length < 2 ^ 32)
    (decode : List UInt8 → Except String LogMsg) :
    logMessageHandler decode mem' (packPtrLen ptr payload.length.toUInt64) =
      logPayload decode payload := by
  rw [logMessageHandler, unpackPtrLen_place _ hlen, read_write hw hlen]

/-! ### Concrete runs -/

/-- A guest export that answers with its argument: it implements the identity. -/
def echo : GuestFn := fun mem q => .ok (mem, q)

/-- A bump allocator: it grows the memory by the size asked and returns the old end. -/
def bumpAllocate : GuestFn := fun mem n =>
  .ok (⟨mem.bytes ++ List.replicate n.toNat 0⟩, mem.bytes.length.toUInt64)

/-- An instance with an empty memory, `echo` as `observe` and `bumpAllocate` as
`allocate`. -/
def echoPlugin : PluginInstance :=
  ⟨⟨⟨[]⟩, fun name => if name = "observe" then some echo
    else if name = "allocate" then some bumpAllocate else none⟩⟩

/-- `observe` of the bytes `1 2 3` on `echoPlugin` runs on a memory holding them at its
argument. -/
theorem callRaw_delivers_echo :
    ∃ fn mem q, echoPlugin.module.exports "observe" = some fn ∧
      fn mem q = .ok (⟨[1, 2, 3]⟩, packPtrLen 0 3) ∧
      mem.read (unpackPtrLen q).1 (unpackPtrLen q).2 = some [1, 2, 3] ∧
      echoPlugin.module.exports = echoPlugin.module.exports :=
  callRaw_delivers (show echoPlugin.callRaw "observe" [1, 2, 3] =
      .ok (packPtrLen 0 3, ⟨{ echoPlugin.module with memory := ⟨[1, 2, 3]⟩ }⟩) from rfl)
    (by decide)

/-- `Check` of the bytes `1 2 3` on `echoPlugin`, decoding an answer as its length, gives 3. -/
theorem check_implements_echo :
    (echoPlugin.check (.ok [1, 2, 3]) (fun b => .ok b.length) 0).map Prod.fst =
      if id [1, 2, 3] = ([] : List UInt8) then .ok 0
      else (fun b : List UInt8 => (.ok b.length : Except String Nat)) (id [1, 2, 3]) :=
  check_implements (show echoPlugin.module.exports "observe" = some echo from rfl)
    (fun mem q _ h => ⟨mem, q, rfl, h⟩) (by decide)
    (show AllocatesRoom echoPlugin [1, 2, 3] from
      Or.inr ⟨bumpAllocate, ⟨[0, 0, 0]⟩, 0, rfl, rfl, by decide⟩) _ 0

/-- The bytes `hi` a guest wrote at the start of a two-byte memory are what the handler
logs. -/
theorem logMessageHandler_write_hi :
    logMessageHandler (fun _ => .ok ⟨"info", "hi"⟩) ⟨[104, 105]⟩
        (packPtrLen 0 [104, 105].length.toUInt64) =
      logPayload (fun _ => .ok ⟨"info", "hi"⟩) [104, 105] :=
  logMessageHandler_write
    (show Memory.write ⟨[0, 0]⟩ (0 : UInt64).toUInt32 [104, 105] = some ⟨[104, 105]⟩ from rfl)
    (by decide) _

end Executor

end RegletHost
