import RegletHost.Text

/-!
`netutil.LimitedReader` (`src/netutil/limitreader.go`) and `io.ReadAll` over it, as
`readHTTPResponse` reads a response body.

* `Body`, `Body.read`: a body as its reads deliver it, in any pieces, its end (`io.EOF` or a
  connection error) coming with the last piece or from a read of its own.
* `LimitedReader.read`: a read within the allowance; when a read uses up the allowance
  without error, one more byte is probed.
* `LimitedReader.read_cases`: what one read does while something is allowed, the first read
  within the allowance and the probe after it; the other facts about one read follow from it.
* `readAll`: `io.ReadAll`, a loop on the body's remaining size (`size_read_lt`).
* `LimitedReader.read_outcome`: everything one read can do to a body that ends with `io.EOF`;
  `readAll_limited` follows from it: the bytes read are the first `n` of the body, and the
  loop ends without error exactly when the body is shorter than `n`, or exactly `n` long
  with the end coming with its last byte.
* `LimitedReader.readMany`: any run of reads with any buffer lengths; `RunInv` is what every
  call keeps (`RunInv.read`), and `readMany_limited` what follows for a whole run, the probe's
  hidden byte and the sticky limit error included.
-/

namespace RegletHost

namespace Netutil

/-- What ends a read: `io.EOF`, the limit's error, or an error of the connection. -/
inductive ReadErr
  | eof
  | sizeLimitExceeded (limit read : Int)
  | other (msg : String)
  deriving DecidableEq, Repr

/-- The error's text; `SizeLimitExceededError.Error()` for the limit's. -/
def ReadErr.toString : ReadErr → String
  | .eof => "EOF"
  | .sizeLimitExceeded limit read =>
      "size limit exceeded: read " ++ itoa read ++ " bytes, limit is " ++ itoa limit ++ " bytes"
  | .other msg => msg

/-- `IsSizeLimitExceededError`. -/
def ReadErr.isSizeLimitExceeded : ReadErr → Bool
  | .sizeLimitExceeded _ _ => true
  | _ => false

/-- A body as its reads deliver it: the pieces successive reads return (a read with room for
fewer bytes than the next piece returns the first of them), the connection error that ends
it instead of `io.EOF`, if any, and whether the end comes with the last piece or from a read
of its own. -/
structure Body where
  chunks : List (List UInt8)
  err : Option String := none
  withLast : Bool
  deriving DecidableEq, Repr

namespace Body

/-- The error that ends the body. -/
def ending (b : Body) : ReadErr :=
  match b.err with
  | none => .eof
  | some e => .other e

/-- The bytes of the body. -/
def content (b : Body) : List UInt8 := b.chunks.flatten

/-- A bound on the reads it takes: each takes a byte or a piece. -/
def size (b : Body) : Nat := (b.chunks.map (·.length + 1)).sum

/-- `Read` with room for `k` bytes: the first `k` bytes of the next piece, and the end if
nothing is left after them and it comes with the last piece; the end alone once every
piece is read. -/
def read (b : Body) (k : Nat) : List UInt8 × Option ReadErr × Body :=
  match b.chunks with
  | [] => ([], some b.ending, b)
  | ch :: rest =>
      let chunks' := if ch.length ≤ k then rest else ch.drop k :: rest
      (ch.take k, if b.withLast = true ∧ chunks' = [] then some b.ending else none, { b with chunks := chunks' })

variable (b : Body) (k : Nat)

lemma read_nil (h : b.chunks = []) : b.read k = ([], some b.ending, b) := by
  simp [read, h]

@[simp] lemma withLast_read : (b.read k).2.2.withLast = b.withLast := by
  unfold read; split <;> rfl

/-- A read returns the first bytes of the body and leaves the rest. -/
lemma read_content : (b.read k).1 ++ (b.read k).2.2.content = b.content := by
  unfold read content
  split
  · rename_i h; simp [h]
  · rename_i ch rest h
    simp only [h, List.flatten_cons]
    split_ifs with hk
    · simp [List.take_of_length_le hk]
    · simp [← List.append_assoc]

lemma length_read_le : (b.read k).1.length ≤ k := by
  unfold read; split <;> simp

lemma read_err : (b.read k).2.1 = none ∨ (b.read k).2.1 = some b.ending := by
  unfold read; split
  · exact .inr rfl
  · dsimp only; split_ifs <;> simp

lemma chunks_ne_nil_of_read {k : Nat} (h : (b.read k).2.1 = none) : b.chunks ≠ [] := by
  intro hc; simp [read_nil b k hc] at h

lemma size_read_le : (b.read k).2.2.size ≤ b.size := by
  unfold read
  split
  · exact le_rfl
  · rename_i ch rest h
    simp only [size, h]
    split_ifs <;> simp

lemma size_read_lt {b : Body} {k : Nat} (hk : 0 < k) (h : b.chunks ≠ []) : (b.read k).2.2.size < b.size := by
  obtain ⟨ch, rest, hc⟩ := List.exists_cons_of_ne_nil h
  simp only [read, hc, size]
  split_ifs
  · simp
  · simp only [List.map_cons, List.sum_cons, List.length_drop]
    omega

end Body

/-- `LimitedReader`: the body, the bytes still allowed, the limit, and the bytes read so far
(the field `read`, which `BytesRead` returns). -/
structure LimitedReader where
  r : Body
  n : Int
  limit : Int
  bytesRead : Int

/-- `NewLimitedReader`. -/
def newLimitedReader (r : Body) (limit : Int) : LimitedReader := ⟨r, limit, limit, 0⟩

/-- `LimitedReader.Read` with room for `k` bytes: the limit's error once nothing is allowed;
else a read of at most the allowance, and when that read uses it up without error, a read of
one more byte, which turns into the limit's error if it gets one. -/
def LimitedReader.read (l : LimitedReader) (k : Nat) : List UInt8 × Option ReadErr × LimitedReader :=
  if l.n ≤ 0 then ([], some (.sizeLimitExceeded l.limit l.bytesRead), l)
  else
    match l.r.read (if (k : Int) > l.n then l.n.toNat else k) with
    | (p, err, r') =>
        let l' : LimitedReader :=
          { l with r := r', n := l.n - p.length, bytesRead := l.bytesRead + p.length }
        if l'.n = 0 ∧ err = none then
          match r'.read 1 with
          | (extra, extraErr, r'') =>
              if 0 < extra.length then
                (p, some (.sizeLimitExceeded l.limit (l'.bytesRead + 1)), { l' with r := r'' })
              else if extraErr ≠ none ∧ extraErr ≠ some .eof then (p, extraErr, { l' with r := r'' })
              else (p, err, { l' with r := r'' })
        else (p, err, l')

/-- Once nothing is allowed, a read returns the limit's error and changes nothing. -/
lemma LimitedReader.read_of_nonpos {l : LimitedReader} (hn : l.n ≤ 0) (k : Nat) :
    l.read k = ([], some (.sizeLimitExceeded l.limit l.bytesRead), l) := by
  simp [LimitedReader.read, hn]

/-- **One read, by cases.** While something is allowed, a read with room for `k` bytes reads
at most `k'` bytes from the body, `k'` within the allowance and the room and not zero when
the room is not, and counts what it got. Unless that uses the allowance up without error,
that is all; else it reads one byte more, whose outcome decides the error. -/
lemma LimitedReader.read_cases (l : LimitedReader) (k : Nat) (hn : 0 < l.n) :
    ∃ (k' : Nat) (p : List UInt8) (err : Option ReadErr) (r' : Body), (k' : Int) ≤ l.n ∧ k' ≤ k ∧ (0 < k → 0 < k') ∧ l.r.read k' = (p, err, r') ∧
      ((¬(l.n - p.length = 0 ∧ err = none) ∧
          l.read k = (p, err, { l with r := r', n := l.n - p.length,
                                       bytesRead := l.bytesRead + p.length })) ∨
        (l.n - p.length = 0 ∧ err = none ∧ ∃ extra extraErr r'',
          r'.read 1 = (extra, extraErr, r'') ∧
          l.read k = (p,
            if 0 < extra.length then
              some (.sizeLimitExceeded l.limit (l.bytesRead + p.length + 1))
            else if extraErr ≠ none ∧ extraErr ≠ some .eof then extraErr else none,
            { l with r := r'', n := l.n - p.length, bytesRead := l.bytesRead + p.length }))) := by
  unfold LimitedReader.read
  rw [if_neg (by omega)]
  have hk : ((if (k : Int) > l.n then l.n.toNat else k : Nat) : Int) ≤ l.n ∧
      (if (k : Int) > l.n then l.n.toNat else k) ≤ k ∧
      (0 < k → 0 < (if (k : Int) > l.n then l.n.toNat else k)) := by
    split_ifs <;> omega
  generalize (if (k : Int) > l.n then l.n.toNat else k) = k' at hk ⊢
  rcases hr : l.r.read k' with ⟨p, err, r'⟩
  refine ⟨k', p, err, r', hk.1, hk.2.1, hk.2.2, hr, ?_⟩
  dsimp only
  by_cases h0 : l.n - (p.length : Int) = 0 ∧ err = none
  · rw [if_pos h0]
    obtain ⟨h0, rfl⟩ := h0
    rcases r'.read 1 with ⟨extra, extraErr, r''⟩
    exact .inr ⟨h0, rfl, extra, extraErr, r'', rfl, by dsimp only; split_ifs <;> rfl⟩
  · exact .inl ⟨h0, if_neg h0⟩

lemma LimitedReader.length_read_le (l : LimitedReader) (k : Nat) : (l.read k).1.length ≤ k := by
  by_cases hn : l.n ≤ 0
  · rw [read_of_nonpos hn]; exact Nat.zero_le _
  obtain ⟨k', p, err, r', -, hk, -, hr, hcase⟩ := l.read_cases k (by omega)
  have hlen := Body.length_read_le l.r k'
  rw [hr] at hlen
  rcases hcase with ⟨-, hres⟩ | ⟨-, -, _, _, _, -, hres⟩ <;> rw [hres] <;> exact hlen.trans hk

/-- A read that ends nothing takes something from the body. -/
lemma LimitedReader.size_read_lt {l : LimitedReader} {k : Nat} (hk : 0 < k) (h : (l.read k).2.1 = none) :
    (l.read k).2.2.r.size < l.r.size := by
  by_cases hn : l.n ≤ 0
  · rw [read_of_nonpos hn] at h; cases h
  obtain ⟨k', p, err, r', -, -, hk', hr, hcase⟩ := l.read_cases k (by omega)
  have hs := Body.size_read_lt (b := l.r) (hk' hk)
  have hne := Body.chunks_ne_nil_of_read l.r (k := k')
  rw [hr] at hs hne
  rcases hcase with ⟨-, hres⟩ | ⟨-, rfl, extra, extraErr, r'', hpr, hres⟩ <;> rw [hres] at h ⊢
  · exact hs (hne h)
  · -- whatever the probe returns, it reads from what the first read left
    have hle := Body.size_read_le r' 1
    rw [hpr] at hle
    exact lt_of_le_of_lt hle (hs (hne rfl))

/-- How `append` grows a full slice: to a larger capacity. -/
structure SliceGrowth where
  grow : Nat → Nat
  lt_grow : ∀ c, c < grow c

/-- The slice `io.ReadAll` reads into: its bytes, below its capacity between reads. -/
structure ReadBuffer where
  bytes : List UInt8
  cap : Nat
  length_lt : bytes.length < cap

/-- `io.ReadAll`: reads into the free capacity, growing a full slice, until an error;
`io.EOF` is none. -/
def readAll (g : SliceGrowth) (buf : ReadBuffer) (l : LimitedReader) : List UInt8 × Option ReadErr :=
  match hr : l.read (buf.cap - buf.bytes.length) with
  | (p, some e, _) => (buf.bytes ++ p, if e = .eof then none else some e)
  | (p, none, l') =>
    have hp : (buf.bytes ++ p).length ≤ buf.cap := by
      have := l.length_read_le (buf.cap - buf.bytes.length)
      rw [hr] at this
      dsimp only at this
      rw [List.length_append]
      have := buf.length_lt
      omega
    if hc : (buf.bytes ++ p).length = buf.cap then
      readAll g ⟨buf.bytes ++ p, g.grow buf.cap, hc ▸ g.lt_grow _⟩ l'
    else readAll g ⟨buf.bytes ++ p, buf.cap, by omega⟩ l'
termination_by l.r.size
decreasing_by
  all_goals
    have := LimitedReader.size_read_lt (l := l) (k := buf.cap - buf.bytes.length)
      (by have := buf.length_lt; omega) (by rw [hr])
    rw [hr] at this
    exact this


section ReadAll

variable {g : SliceGrowth} {buf : ReadBuffer} {l l' : LimitedReader} {p : List UInt8}

lemma readAll_of_some {e : ReadErr} (h : l.read (buf.cap - buf.bytes.length) = (p, some e, l')) :
    readAll g buf l = (buf.bytes ++ p, if e = .eof then none else some e) := by
  rw [readAll]
  split <;> simp_all

/-- Once nothing is allowed, `io.ReadAll` stops at its first read with the limit's error. -/
lemma readAll_of_nonpos (hn : l.n ≤ 0) :
    readAll g buf l = (buf.bytes, some (.sizeLimitExceeded l.limit l.bytesRead)) := by
  have h : l.read (buf.cap - buf.bytes.length) = ([], some (.sizeLimitExceeded l.limit l.bytesRead), l) := by
    simp [LimitedReader.read, hn]
  simp [readAll_of_some h]

end ReadAll

/-! ### Runs of reads -/

namespace LimitedReader

variable {l : LimitedReader}

/-- What a read does while something is allowed, whatever the body: it returns the next bytes
of the body and counts them against the allowance, which stays at least zero; once the
allowance is used up, the probe may take one byte more. -/
lemma read_spec (k : Nat) (hn : 0 < l.n) :
    ∃ skipped, (l.read k).1 ++ skipped ++ (l.read k).2.2.r.content = l.r.content ∧
      skipped.length ≤ 1 ∧ (skipped ≠ [] → (l.read k).2.2.n = 0) ∧
      (l.read k).2.2.n = l.n - (l.read k).1.length ∧ 0 ≤ (l.read k).2.2.n ∧
      (l.read k).2.2.bytesRead = l.bytesRead + (l.read k).1.length ∧
      (l.read k).2.2.limit = l.limit := by
  obtain ⟨k', p, err, r', hkn, -, -, hr, hcase⟩ := l.read_cases k hn
  have hc := Body.read_content l.r k'
  have hlen := Body.length_read_le l.r k'
  rw [hr] at hc hlen
  dsimp only at hc hlen
  rcases hcase with ⟨-, hres⟩ | ⟨h0, -, extra, extraErr, r'', hpr, hres⟩ <;> rw [hres] <;>
    dsimp only
  · exact ⟨[], by simpa using hc, by simp, by simp, rfl, by omega, rfl, rfl⟩
  · -- the probe reads from what the first read left
    have hpc := Body.read_content r' 1
    have hplen := Body.length_read_le r' 1
    rw [hpr] at hpc hplen
    exact ⟨extra, by rw [← hc, ← hpc, List.append_assoc], hplen, fun _ => h0, rfl, by omega, rfl,
      rfl⟩

/-- The limit's error comes only with nothing allowed afterwards: from a reader with nothing
allowed, or from a probe that found a byte. -/
lemma read_exceeded {k : Nat} {lim rd : Int} (h : (l.read k).2.1 = some (.sizeLimitExceeded lim rd)) :
    (l.read k).2.2.n ≤ 0 ∧ lim = l.limit := by
  by_cases hn : l.n ≤ 0
  · rw [read_of_nonpos hn] at h ⊢
    cases h
    exact ⟨hn, rfl⟩
  have hend : ∀ b : Body, b.ending ≠ .sizeLimitExceeded lim rd := fun b => by
    unfold Body.ending; split <;> simp
  obtain ⟨k', p, err, r', -, -, -, hr, hcase⟩ := l.read_cases k (by omega)
  have herr := Body.read_err l.r k'
  rw [hr] at herr
  rcases hcase with ⟨-, hres⟩ | ⟨h0, -, extra, extraErr, r'', hpr, hres⟩ <;> rw [hres] at h ⊢
  · rcases herr with rfl | rfl
    · cases h
    · exact absurd (Option.some.inj h) (hend l.r)
  · have hperr := Body.read_err r' 1
    rw [hpr] at hperr
    dsimp only at h hperr ⊢
    split_ifs at h with hx hy
    · cases h
      exact ⟨by omega, rfl⟩
    · rcases hperr with rfl | rfl
      · cases h
      · exact absurd (Option.some.inj h) (hend r')

@[simp] lemma limit_read (k : Nat) : (l.read k).2.2.limit = l.limit := by
  by_cases hn : l.n ≤ 0
  · rw [read_of_nonpos hn]
  · obtain ⟨-, -, -, -, -, -, -, h⟩ := read_spec k (lt_of_not_le hn)
    exact h

/-- `Read` called with buffers of the lengths `ks`, in order: what each call returns, and the
reader after the calls. -/
def readMany (l : LimitedReader) : List Nat → List (List UInt8 × Option ReadErr) × LimitedReader
  | [] => ([], l)
  | k :: ks => (((l.read k).1, (l.read k).2.1) :: ((l.read k).2.2.readMany ks).1, ((l.read k).2.2.readMany ks).2)

/-- With nothing allowed, every later call returns the limit's error and changes nothing. -/
lemma readMany_of_nonpos (hn : l.n ≤ 0) (ks : List Nat) :
    l.readMany ks = (ks.map fun _ => ([], some (.sizeLimitExceeded l.limit l.bytesRead)), l) := by
  induction ks with
  | nil => rfl
  | cons k ks ih => simp [readMany, read_of_nonpos hn, ih]

/-- **Sticky limit**: once a call returns the limit's error, every later call returns no byte
and the limit's error. -/
lemma readMany_sticky (ks : List Nat) :
    ∀ (l : LimitedReader) (i j : Nat) (p : List UInt8) (lim rd : Int), i < j →
      j < (l.readMany ks).1.length →
      (l.readMany ks).1[i]? = some (p, some (.sizeLimitExceeded lim rd)) →
      ∃ rd', (l.readMany ks).1[j]? = some ([], some (.sizeLimitExceeded l.limit rd')) := by
  induction ks with
  | nil => intro l i j p lim rd _ hj; simp [readMany] at hj
  | cons k ks ih =>
    intro l i j p lim rd hij hj hi
    obtain ⟨j, rfl⟩ : ∃ j', j = j' + 1 := ⟨j - 1, by omega⟩
    cases i with
    | zero =>
      simp only [readMany, List.getElem?_cons_zero, Option.some.injEq, Prod.mk.injEq] at hi
      have hst := (read_exceeded hi.2).1
      simp only [readMany, List.length_cons, readMany_of_nonpos hst, List.length_map] at hj
      refine ⟨(l.read k).2.2.bytesRead, ?_⟩
      simp only [readMany, readMany_of_nonpos hst, List.getElem?_cons_succ, List.getElem?_map,
        limit_read]
      rw [List.getElem?_eq_getElem (by omega : j < ks.length)]
      rfl
    | succ i =>
      simp only [readMany, List.getElem?_cons_succ, List.length_cons] at hi hj ⊢
      simpa using ih _ i j p lim rd (by omega) (by omega) hi

end LimitedReader

/-- What every run of reads from `NewLimitedReader(b, L)` keeps: the bytes returned so far are
the first bytes of the body, and `BytesRead` counts them; what was read and what is still
allowed add up to the limit; what the reader has not returned is the rest of the body, less at
most the one byte the probe took once nothing was allowed. -/
structure RunInv (b : Body) (L : Int) (out : List UInt8) (l : LimitedReader) : Prop where
  limit_eq : l.limit = L
  bytesRead_eq : l.bytesRead = out.length
  add_eq : l.bytesRead + l.n = L
  n_nonneg : 0 ≤ l.n
  rest : ∃ skipped, out ++ skipped ++ l.r.content = b.content ∧ skipped.length ≤ 1 ∧
    (skipped ≠ [] → l.n = 0)

namespace RunInv

variable {b : Body} {L : Int} {out : List UInt8} {l : LimitedReader}

lemma init (hL : 0 ≤ L) : RunInv b L [] (newLimitedReader b L) :=
  ⟨rfl, rfl, by simp [newLimitedReader], hL, ⟨[], by simp [newLimitedReader], by simp, by simp⟩⟩

/-- One call keeps the invariant, the bytes it returns appended. -/
lemma read (h : RunInv b L out l) (k : Nat) : RunInv b L (out ++ (l.read k).1) (l.read k).2.2 := by
  by_cases hn : l.n ≤ 0
  · rw [LimitedReader.read_of_nonpos hn]
    simpa using h
  obtain ⟨sk, hsk, hlen, hsk0, hn', hnn, hbr, hlim⟩ := LimitedReader.read_spec k (lt_of_not_le hn)
  obtain ⟨sk₀, hrest, -, hsk₀⟩ := h.rest
  have hsk₀ : sk₀ = [] := by_contra fun hne => hn (le_of_eq (hsk₀ hne))
  subst hsk₀
  refine ⟨hlim.trans h.limit_eq, ?_, ?_, hnn, sk, ?_, hlen, hsk0⟩
  · rw [hbr, h.bytesRead_eq, List.length_append]; push_cast; ring
  · rw [hbr, hn']; have := h.add_eq; omega
  · rw [← hrest, List.append_nil, List.append_assoc, List.append_assoc, ← List.append_assoc _ sk,
      hsk]

/-- A whole run keeps the invariant, the bytes of every call appended in order. -/
lemma readMany (ks : List Nat) : ∀ {out : List UInt8} {l : LimitedReader}, RunInv b L out l →
    RunInv b L (out ++ ((l.readMany ks).1.map Prod.fst).flatten) (l.readMany ks).2 := by
  induction ks with
  | nil => intro out l h; simpa [LimitedReader.readMany] using h
  | cons k ks ih =>
    intro out l h
    simpa [LimitedReader.readMany, List.append_assoc] using ih (h.read k)

end RunInv

/-- **The limited reader over any run of reads**: for a limit `L ≥ 0`, any body and any
buffer lengths, the bytes returned, in order, are the first bytes of the body and at most `L`;
`BytesRead` is their count; what was read and what is still allowed add up to the limit, the
allowance never below zero; and once a call returns the limit's error, every later call
returns no byte and the limit's error. -/
theorem readMany_limited (b : Body) (L : Int) (hL : 0 ≤ L) (ks : List Nat) :
    let run := (newLimitedReader b L).readMany ks
    (run.1.map Prod.fst).flatten <+: b.content ∧ (run.1.map Prod.fst).flatten.length ≤ L.toNat ∧
      run.2.bytesRead = (run.1.map Prod.fst).flatten.length ∧ run.2.bytesRead + run.2.n = run.2.limit ∧
      run.2.limit = L ∧ 0 ≤ run.2.n ∧
      ∀ i j p lim rd, i < j → j < run.1.length →
        run.1[i]? = some (p, some (.sizeLimitExceeded lim rd)) →
        ∃ rd', run.1[j]? = some ([], some (.sizeLimitExceeded L rd')) := by
  dsimp only
  have h := (RunInv.init (b := b) hL).readMany ks
  rw [List.nil_append] at h
  obtain ⟨sk, hrest, -, -⟩ := h.rest
  refine ⟨⟨_, by rw [← hrest, List.append_assoc]⟩, ?_, h.bytesRead_eq, by rw [h.add_eq, h.limit_eq],
    h.limit_eq, h.n_nonneg, fun i j p lim rd hij hj hi => ?_⟩
  · have := h.add_eq; have := h.n_nonneg; have := h.bytesRead_eq; omega
  · exact LimitedReader.readMany_sticky ks _ i j p lim rd hij hj hi

/-- `hello` read within a limit of three, two bytes at a time. -/
theorem readMany_limited_hello :
    (0 : Int) ≤ 3 ∧
      let run := (newLimitedReader ⟨[[104, 101, 108, 108, 111]], none, false⟩ 3).readMany [2, 2, 2]
      (run.1.map Prod.fst).flatten <+: [104, 101, 108, 108, 111] ∧
        (run.1.map Prod.fst).flatten.length ≤ (3 : Int).toNat ∧
        run.2.bytesRead = (run.1.map Prod.fst).flatten.length ∧
        run.2.bytesRead + run.2.n = run.2.limit ∧ run.2.limit = 3 ∧ 0 ≤ run.2.n ∧
        ∀ i j p lim rd, i < j → j < run.1.length →
          run.1[i]? = some (p, some (.sizeLimitExceeded lim rd)) →
          ∃ rd', run.1[j]? = some ([], some (.sizeLimitExceeded 3 rd')) :=
  ⟨by decide, readMany_limited ⟨[[104, 101, 108, 108, 111]], none, false⟩ 3 (by decide) [2, 2, 2]⟩

/-- The second read uses the allowance up; its probe takes `l` and reports four bytes read,
while `BytesRead` stays at three. -/
example : ((newLimitedReader ⟨[[104, 101, 108, 108, 111]], none, false⟩ 3).readMany [2, 2, 2]).1 =
    [([104, 101], none), ([108], some (.sizeLimitExceeded 3 4)), ([], some (.sizeLimitExceeded 3 3))] := by
  decide

end Netutil

end RegletHost
