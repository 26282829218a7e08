import RegletHost.Policy.Match

/-!
The file-system calls the plugin cache, the lockfile repository and the grant store make
(`os.MkdirAll`, `os.Create`, `os.OpenFile` with `O_TRUNC`, writes, `os.ReadFile`,
`os.Stat`, `os.RemoveAll`), and the encoders they write with.

* `FS`: what each path holds, a directory or a file and its text. Every path the code
  passes is cleaned or joined from cleaned parts, so a path is its string.
* `Write`, `FS.apply`, `FS.run`: the calls that change the file system, with the errors a
  missing or mistyped node gives, run in order up to the first failure. `FS.run` keeps
  the effect of the calls before it, as the process does.
* `FS.run_frame`: a file that no call of a run names keeps its content (`Write.Touches`:
  a create or a write names its file, `RemoveAll` its subtree, `MkdirAll` no file).
* `Codec`: an encoder together with the decoder that reads it back, the round trip being
  a field. JSON and YAML are not part of the sources; what is said of a codec holds for
  every codec with that law.
* `Chunking`, `FS.run_truncate_take`: a write of a text reaches the disk as a sequence of
  pieces whose concatenation is the text; a process that stops after the first `k` calls of
  an open with `O_TRUNC` and its writes leaves the first pieces, the empty file right after
  the open.
-/

namespace RegletHost

namespace Storage

/-- A node: a directory, or a file and its text. -/
inductive Node
  | dir
  | file (content : String)
  deriving DecidableEq, Repr

/-- A file system: the node at each path. -/
abbrev FS := String → Option Node

/-- `filepath.Join` of a cleaned directory and a file name. -/
def joinName (dir name : String) : String := if dir = "/" then "/" ++ name else dir ++ "/" ++ name

/-- `filepath.Join` of a directory and a name, as the text before the name's slash. -/
lemma toList_joinName (dir name : String) :
    (joinName dir name).toList = (if dir = "/" then [] else dir.toList) ++ '/' :: name.toList := by
  unfold joinName
  split_ifs <;> simp

/-- Two joins of non-empty directories and slash-free names are equal only part by part. -/
lemma joinName_inj {d d' x y : String} (hd : d ≠ "") (hd' : d' ≠ "") (hx : '/' ∉ x.toList)
    (hy : '/' ∉ y.toList) (h : joinName d x = joinName d' y) : d = d' ∧ x = y := by
  have h' := congrArg String.toList h
  rw [toList_joinName, toList_joinName] at h'
  obtain ⟨hdir, hname⟩ := append_cons_inj_of_not_mem hx hy h'
  refine ⟨?_, String.ext hname⟩
  split_ifs at hdir with h1 h2 h2
  · rw [h1, h2]
  · exact absurd (String.ext hdir.symm) hd'
  · exact absurd (String.ext hdir) hd
  · exact String.ext hdir

/-- `filepath.Dir`: the path up to its last slash, cleaned. -/
def pathDir (path : String) : String :=
  cleanPath (String.mk (path.toList.reverse.dropWhile (· ≠ '/')).reverse)

/-- `filepath.Base`: the last element, trailing slashes dropped; `.` for the empty path and
`/` for a path of slashes. The element's first character is the one `dropWhile` stopped
at, never a slash. -/
def pathBase (path : String) : String :=
  match path.toList.reverse.dropWhile (· = '/') with
  | [] => if path = "" then "." else "/"
  | c :: r => String.mk (c :: r.takeWhile (· ≠ '/')).reverse

/-- The node a path names, as its directory and its base name. -/
def pathKey (path : String) : String := joinName (pathDir path) (pathBase path)

lemma pathDir_ne_empty (path : String) : pathDir path ≠ "" := cleanPath_ne_empty _

lemma pathBase_ne_empty (path : String) : pathBase path ≠ "" := by
  unfold pathBase
  split
  · split_ifs <;> decide
  · simp [String.ext_iff]

example : (pathDir "/tmp/x/reglet.lock", pathBase "/tmp/x/reglet.lock", pathKey "/tmp/x/reglet.lock",
    pathDir "reglet.lock", pathBase "a/b/") = ("/tmp/x", "reglet.lock", "/tmp/x/reglet.lock", ".", "b") := by
  decide

/-- The directories `os.MkdirAll` makes for a cleaned path: the prefixes of its
`/`-separated segments, the root written `/`. -/
def dirChain (p : String) : List String :=
  let segs := splitChar '/' p.toList
  (List.range segs.length).map fun k =>
    match List.intercalate ['/'] (segs.take (k + 1)) with
    | [] => "/"
    | l => String.mk l

/-- A cleaned path is the last directory `os.MkdirAll` makes for it. -/
lemma mem_dirChain {p : String} (hp : p ≠ "") : p ∈ dirChain p := by
  simp only [dirChain, List.mem_map, List.mem_range]
  refine ⟨(splitChar '/' p.toList).length - 1, ?_, ?_⟩
  · have : (splitChar '/' p.toList) ≠ [] := by
      rw [splitChar_eq_splitOn]; exact List.splitOnP_ne_nil _ _
    have := List.length_pos.mpr this
    omega
  · rw [Nat.sub_add_cancel (List.length_pos.mpr (by rw [splitChar_eq_splitOn]; exact List.splitOnP_ne_nil _ _)),
      List.take_length, splitChar_eq_splitOn, List.intercalate_splitOn]
    split
    · rename_i h; exact absurd (String.ext h) hp
    · rfl

/-- Joining the first segments gives a prefix of joining them all. -/
lemma intercalate_take_prefix {α : Type} (sep : List α) :
    ∀ (L : List (List α)) (n : Nat), List.intercalate sep (L.take n) <+: List.intercalate sep L
  | [], _ => by simp
  | _ :: _, 0 => List.nil_prefix
  | [a], _ + 1 => by simp
  | a :: b :: L, 0 + 1 => by
    simp only [List.intercalate, zero_add, List.take_succ_cons, List.take_zero, List.intersperse_single,
      List.intersperse_cons₂, List.flatten_cons, List.flatten_nil, List.append_nil]
    exact List.prefix_append _ _
  | a :: b :: L, n + 1 + 1 => by
    have ih := intercalate_take_prefix sep (b :: L) (n + 1)
    simp only [List.intercalate, List.take_succ_cons, List.intersperse_cons₂, List.flatten_cons] at ih ⊢
    rw [List.prefix_append_right_inj, List.prefix_append_right_inj]
    simpa only [List.take_succ_cons] using ih

/-- A directory `os.MkdirAll` makes for a path is the root or a prefix of the path. -/
lemma prefix_of_mem_dirChain {p q : String} (h : q ∈ dirChain p) : q = "/" ∨ q.toList <+: p.toList := by
  simp only [dirChain, List.mem_map, List.mem_range] at h
  obtain ⟨k, -, rfl⟩ := h
  have := intercalate_take_prefix ['/'] (splitChar '/' p.toList) (k + 1)
  rw [show List.intercalate ['/'] (splitChar '/' p.toList) = p.toList by
    rw [splitChar_eq_splitOn, List.intercalate_splitOn]] at this
  split
  · exact .inl rfl
  · exact .inr this

/-- A file of a directory is none of the directories `os.MkdirAll` makes for it. -/
lemma joinName_not_mem_dirChain {dir name : String} (hname : name ≠ "") : joinName dir name ∉ dirChain dir := by
  intro h
  have hn : 0 < name.toList.length := List.length_pos.mpr fun h' => hname (String.ext h')
  have h1 : ("/" : String).toList.length = 1 := rfl
  rcases prefix_of_mem_dirChain h with h | h
  · have hlen := congrArg List.length (toList_joinName dir name)
    rw [h, h1] at hlen
    split_ifs at hlen <;> simp only [List.length_append, List.length_cons, List.length_nil] at hlen <;> omega
  · have := h.length_le
    rw [toList_joinName] at this
    split_ifs at this with hd
    · rw [hd, h1] at this
      simp only [List.length_append, List.length_cons, List.length_nil] at this
      omega
    · simp only [List.length_append, List.length_cons] at this
      omega

/-- `os.RemoveAll`'s subtree: the path and every path below it. -/
def within (p q : String) : Bool := q == p || hasPrefix q (if p = "/" then "/" else p ++ "/")

/-- The errors of the calls, as `*os.PathError` prints them. -/
inductive Errno
  | notExist
  | isDirectory
  | notDirectory
  deriving DecidableEq, Repr

/-- An `*os.PathError`: the call, the path and the cause. -/
structure PathError where
  op : String
  path : String
  err : Errno
  deriving DecidableEq, Repr

/-- The text `*os.PathError` prints. -/
def PathError.toString (e : PathError) : String :=
  e.op ++ " " ++ e.path ++ ": " ++
    match e.err with
    | .notExist => "no such file or directory"
    | .isDirectory => "is a directory"
    | .notDirectory => "not a directory"

/-- A call that changes the file system. `create` is an open with `O_CREATE|O_TRUNC`
(`os.Create`, the first half of `os.WriteFile`), and `append` a write to the file it
opened. -/
inductive Write
  | mkdirAll (path : String)
  | create (dir name : String)
  | append (dir name chunk : String)
  | removeAll (path : String)
  deriving DecidableEq, Repr

namespace FS

/-- Whether a path holds a file. -/
def isFile (fs : FS) (p : String) : Bool :=
  match fs p with
  | some (.file _) => true
  | _ => false

@[simp] lemma isFile_eq_true {fs : FS} {p : String} : fs.isFile p = true ↔ ∃ c, fs p = some (.file c) := by
  unfold isFile
  split <;> simp_all

/-- `os.MkdirAll`: an error on a file along the chain, else every directory of the chain
exists. -/
def mkdirAll (fs : FS) (p : String) : Except PathError FS :=
  if (dirChain p).any fs.isFile then .error ⟨"mkdir", p, .notDirectory⟩
  else .ok fun q => if q ∈ dirChain p then some .dir else fs q

/-- An open with `O_CREATE|O_TRUNC`: an empty file, in an existing directory and not over a
directory. -/
def create (fs : FS) (dir name : String) : Except PathError FS :=
  if fs dir ≠ some .dir then .error ⟨"open", joinName dir name, .notExist⟩
  else if fs (joinName dir name) = some .dir then .error ⟨"open", joinName dir name, .isDirectory⟩
  else .ok (Function.update fs (joinName dir name) (some (.file "")))

/-- A write to an open file: the chunk goes at its end. -/
def append (fs : FS) (dir name chunk : String) : FS :=
  match fs (joinName dir name) with
  | some (.file c) => Function.update fs (joinName dir name) (some (.file (c ++ chunk)))
  | _ => fs

/-- `os.RemoveAll`: the subtree goes. -/
def removeAll (fs : FS) (p : String) : FS := fun q => if within p q then none else fs q

/-- One call. -/
def apply (fs : FS) : Write → Except PathError FS
  | .mkdirAll p => fs.mkdirAll p
  | .create dir name => fs.create dir name
  | .append dir name chunk => .ok (fs.append dir name chunk)
  | .removeAll p => .ok (fs.removeAll p)

/-- The calls in order up to the first failure: the file system they leave, and the
failure. -/
def run (fs : FS) : List Write → FS × Option PathError
  | [] => (fs, none)
  | w :: ws =>
      match fs.apply w with
      | .ok fs' => run fs' ws
      | .error e => (fs, some e)

@[simp] lemma run_nil (fs : FS) : fs.run [] = (fs, none) := rfl

lemma run_cons_of_apply {fs fs' : FS} {w : Write} (h : fs.apply w = .ok fs') (ws : List Write) :
    fs.run (w :: ws) = fs'.run ws := by
  simp [run, h]

/-- A run that ends without an error made its first call. -/
lemma run_cons_none {fs fs' : FS} {w : Write} {ws : List Write} (h : fs.run (w :: ws) = (fs', none)) :
    ∃ fs₀, fs.apply w = .ok fs₀ ∧ fs₀.run ws = (fs', none) := by
  simp only [run] at h
  split at h
  · exact ⟨_, ‹_›, h⟩
  · cases h

lemma run_append (fs : FS) (ws vs : List Write) :
    fs.run (ws ++ vs) = if (fs.run ws).2 = none then (fs.run ws).1.run vs else fs.run ws := by
  induction ws generalizing fs with
  | nil => simp
  | cons w ws ih =>
    simp only [List.cons_append, run]
    split
    · exact ih _
    · simp

/-- `os.ReadFile` (and the open a decoder reads from). -/
def readFile (fs : FS) (p : String) : Except PathError String :=
  match fs p with
  | some (.file c) => .ok c
  | some .dir => .error ⟨"read", p, .isDirectory⟩
  | none => .error ⟨"open", p, .notExist⟩

@[simp] lemma readFile_eq_ok {fs : FS} {p c : String} : fs.readFile p = .ok c ↔ fs p = some (.file c) := by
  unfold readFile
  split <;> simp_all

end FS

/-- Whether a call can change the file at `q`: a create or a write of that file, or a
`RemoveAll` of a subtree holding it. `MkdirAll` fails rather than replace a file. -/
def Write.Touches (q : String) : Write → Prop
  | .mkdirAll _ => False
  | .create dir name => joinName dir name = q
  | .append dir name _ => joinName dir name = q
  | .removeAll p => within p q = true

namespace FS

/-- A call that does not touch a path leaves the node there as it is. -/
lemma apply_frame_of_ne_none {fs fs' : FS} {w : Write} {q : String}
    (h : fs.apply w = .ok fs') (hq : fs q ≠ none) (hw : ¬ w.Touches q) : fs' q = fs q := by
  cases w with
  | mkdirAll p =>
    simp only [apply, mkdirAll] at h
    split_ifs at h with hany
    cases h
    by_cases hm : q ∈ dirChain p
    · have hnf : ¬ fs.isFile q := fun hf => hany (List.any_eq_true.mpr ⟨q, hm, hf⟩)
      simp only [hm, if_true]
      cases hfq : fs q with
      | none => exact absurd hfq hq
      | some n => cases n with
        | dir => rfl
        | file c => simp [isFile, hfq] at hnf
    · simp [hm]
  | create dir name =>
    simp only [apply, create] at h
    split_ifs at h
    cases h
    exact Function.update_noteq (Ne.symm hw) _ _
  | append dir name chunk =>
    simp only [apply] at h
    cases h
    have hne : q ≠ joinName dir name := Ne.symm hw
    cases hf : fs (joinName dir name) with
    | none => simp [append, hf]
    | some n => cases n <;> simp [append, hf, Function.update_noteq hne]
  | removeAll p =>
    simp only [apply] at h
    cases h
    simp [removeAll, show within p q = false by simpa [Write.Touches] using hw]

/-- A call that does not touch a file leaves it as it is. -/
lemma apply_frame {fs fs' : FS} {w : Write} {q : String} {c : String}
    (h : fs.apply w = .ok fs') (hq : fs q = some (.file c)) (hw : ¬ w.Touches q) : fs' q = fs q :=
  apply_frame_of_ne_none h (by simp [hq]) hw

/-- A run that touches a path nowhere leaves the node there as it is. -/
lemma run_frame_of_ne_none {q : String} :
    ∀ {fs : FS} {ws : List Write}, fs q ≠ none → (∀ w ∈ ws, ¬ w.Touches q) → (fs.run ws).1 q = fs q
  | _, [], _, _ => rfl
  | fs, w :: ws, hq, hws => by
    simp only [run]
    split
    · rename_i fs' h
      have h' := apply_frame_of_ne_none h hq (hws w (List.mem_cons_self _ _))
      rw [run_frame_of_ne_none (h'.symm ▸ hq) (fun v hv => hws v (List.mem_cons_of_mem _ hv)), h']
    · rfl

/-- A run that touches a file nowhere leaves it as it is. -/
lemma run_frame {q c : String} {fs : FS} {ws : List Write} (hq : fs q = some (.file c))
    (hws : ∀ w ∈ ws, ¬ w.Touches q) : (fs.run ws).1 q = fs q :=
  run_frame_of_ne_none (by simp [hq]) hws

end FS

namespace FS

/-- A file opened with `O_TRUNC` and written holds what was written, whatever later calls
of the run that do not touch it do. -/
lemma run_create_append {fs fs' : FS} {dir name c : String} {ws : List Write}
    (h : fs.run (.create dir name :: .append dir name c :: ws) = (fs', none))
    (hws : ∀ w ∈ ws, ¬ w.Touches (joinName dir name)) :
    fs' (joinName dir name) = some (.file c) := by
  obtain ⟨fs₀, h₀, h⟩ := run_cons_none h
  obtain ⟨fs₁, h₁, h⟩ := run_cons_none h
  simp only [apply, create] at h₀
  split_ifs at h₀
  cases h₀
  cases h₁
  have hf : append (Function.update fs (joinName dir name) (some (.file ""))) dir name c
      (joinName dir name) = some (.file c) := by
    simp [append]
  rw [← hf, ← run_frame hf hws, h]

end FS

/-! ### Encoders -/

/-- An encoder and the decoder that reads it back. -/
structure Codec (α : Type) where
  encode : α → String
  decode : String → Except String α
  decode_encode : ∀ a, decode (encode a) = .ok a

attribute [simp] Codec.decode_encode

/-- Two values with one encoding are one value. -/
lemma Codec.encode_injective {α : Type} (C : Codec α) {a b : α} (h : C.encode a = C.encode b) : a = b := by
  have := C.decode_encode a
  rw [h, C.decode_encode] at this
  exact (Except.ok.inj this).symm

/-! ### Writes in pieces -/

/-- The concatenation of pieces. -/
def joinChunks (cs : List String) : String := cs.foldr (· ++ ·) ""

@[simp] lemma joinChunks_nil : joinChunks [] = "" := rfl

@[simp] lemma joinChunks_cons (c : String) (cs : List String) :
    joinChunks (c :: cs) = c ++ joinChunks cs := rfl

/-- The pieces in which a text reaches the file: any sequence whose concatenation is it. -/
structure Chunking (data : String) where
  chunks : List String
  join_eq : joinChunks chunks = data

/-- An open with `O_TRUNC` of `dir/name` and the writes of a text in pieces. -/
def truncateWrites (dir name : String) {data : String} (ch : Chunking data) : List Write :=
  .create dir name :: ch.chunks.map (.append dir name)

/-- `os.MkdirAll` of a directory, then an open with `O_TRUNC` of a file in it and the
writes of a text in pieces: how the grant store and the lockfile repository save. -/
def saveWrites (dir name : String) {data : String} (ch : Chunking data) : List Write :=
  .mkdirAll dir :: truncateWrites dir name ch

namespace FS

lemma append_self {fs : FS} {dir name c : String} (h : fs (joinName dir name) = some (.file c))
    (chunk : String) : fs.append dir name chunk (joinName dir name) = some (.file (c ++ chunk)) := by
  simp [append, h]

/-- Writes to an open file append their pieces, and never fail. -/
lemma run_appends {dir name : String} :
    ∀ (cs : List String) {fs : FS} {c : String}, fs (joinName dir name) = some (.file c) →
      (fs.run (cs.map (.append dir name))).2 = none ∧
      (fs.run (cs.map (.append dir name))).1 (joinName dir name) =
        some (.file (c ++ joinChunks cs))
  | [], _, _, h => by simp [h, String.append_empty]
  | chunk :: cs, fs, c, h => by
    rw [List.map_cons, run_cons_of_apply (show fs.apply (.append dir name chunk) =
      .ok (fs.append dir name chunk) from rfl)]
    simpa [String.append_assoc] using run_appends cs (append_self h chunk)

/-- Where the open can succeed: the file after the process stops after the first `k`
calls of an open with `O_TRUNC` and its writes is the file before for `k = 0`, and the
first `k - 1` pieces otherwise. -/
lemma run_truncate_take {fs : FS} {dir name data : String} (ch : Chunking data)
    (hdir : fs dir = some .dir) (hnd : fs (joinName dir name) ≠ some .dir) (k : Nat) :
    (fs.run ((truncateWrites dir name ch).take k)).2 = none ∧
    (fs.run ((truncateWrites dir name ch).take k)).1 (joinName dir name) =
      if k = 0 then fs (joinName dir name)
      else some (.file (joinChunks (ch.chunks.take (k - 1)))) := by
  have hc : fs.apply (.create dir name) = .ok (Function.update fs (joinName dir name) (some (.file ""))) := by
    simp [apply, create, hdir, hnd]
  cases k with
  | zero => simp
  | succ k =>
    rw [truncateWrites, List.take_succ_cons, run_cons_of_apply hc, ← List.map_take]
    simpa using run_appends (ch.chunks.take k) (Function.update_same _ _ fs)

/-- Wherever the process stops during a save, the file holds what it held before or the
first pieces of the new text, none of them right after the open. -/
lemma run_saveWrites_take {fs : FS} {dir name data : String} (ch : Chunking data) (hname : name ≠ "")
    (k : Nat) :
    (fs.run ((saveWrites dir name ch).take k)).1 (joinName dir name) = fs (joinName dir name) ∨
    ∃ j ≤ ch.chunks.length, (fs.run ((saveWrites dir name ch).take k)).1 (joinName dir name) =
      some (.file (joinChunks (ch.chunks.take j))) := by
  cases k with
  | zero => exact .inl rfl
  | succ k =>
    rw [saveWrites, List.take_succ_cons]
    cases hm : fs.mkdirAll dir with
    | error e => exact .inl (by simp [run, apply, hm])
    | ok fs₁ =>
      have hkeep : fs₁ (joinName dir name) = fs (joinName dir name) := by
        simp only [mkdirAll] at hm
        split_ifs at hm
        cases hm
        simp [joinName_not_mem_dirChain hname]
      rw [run_cons_of_apply (show fs.apply (.mkdirAll dir) = .ok fs₁ from hm), ← hkeep]
      by_cases hc : fs₁ dir = some .dir ∧ fs₁ (joinName dir name) ≠ some .dir
      · rw [(run_truncate_take ch hc.1 hc.2 k).2]
        split_ifs
        · exact .inl rfl
        · exact .inr ⟨min (k - 1) ch.chunks.length, Nat.min_le_right _ _, by
            rw [← List.take_take, List.take_length]⟩
      · obtain ⟨e, he⟩ : ∃ e, fs₁.create dir name = .error e := by
          unfold create
          split_ifs with h1 h2
          · exact ⟨_, rfl⟩
          · exact ⟨_, rfl⟩
          · exact absurd ⟨not_not.mp h1, h2⟩ hc
        cases k with
        | zero => exact .inl rfl
        | succ k => exact .inl (by simp [truncateWrites, run, apply, he])

/-- A save that ends without an error leaves the directory, and in it the file holding the
whole text. -/
lemma run_saveWrites_of_none {fs fs' : FS} {dir name data : String} {ch : Chunking data}
    (hdir : dir ≠ "") (hname : name ≠ "") (h : fs.run (saveWrites dir name ch) = (fs', none)) :
    fs' dir = some .dir ∧ fs' (joinName dir name) = some (.file data) := by
  obtain ⟨fs₁, hm, h⟩ := run_cons_none h
  have hd : fs₁ dir = some .dir := by
    simp only [apply, mkdirAll] at hm
    split_ifs at hm
    cases hm
    simp [mem_dirChain hdir]
  obtain ⟨fs₂, hc, -⟩ := run_cons_none h
  have hnd : fs₁ (joinName dir name) ≠ some .dir := by
    simp only [apply, create] at hc
    split_ifs at hc with h1 h2
    exact h2
  have hall := run_truncate_take ch hd hnd (truncateWrites dir name ch).length
  rw [List.take_length, h] at hall
  refine ⟨?_, by simpa [truncateWrites, ch.join_eq] using hall.2⟩
  have hne : joinName dir name ≠ dir := fun he =>
    joinName_not_mem_dirChain hname (by rw [he]; exact mem_dirChain hdir)
  have hf : fs' = (fs₁.run (truncateWrites dir name ch)).1 := by rw [h]
  rw [hf, run_frame_of_ne_none (by simp [hd]) fun w hw => ?_, hd]
  simp only [truncateWrites, List.mem_cons, List.mem_map] at hw
  rcases hw with rfl | ⟨c, -, rfl⟩ <;> exact hne

end FS

/-! ### Where a save in place can stop -/

lemma joinChunks_append (l₁ l₂ : List String) :
    joinChunks (l₁ ++ l₂) = joinChunks l₁ ++ joinChunks l₂ := by
  induction l₁ with
  | nil => simp
  | cons c cs ih => simp [ih, String.append_assoc]

/-- With no empty piece, the first `j` pieces make the whole text exactly when they are all
of them. -/
lemma joinChunks_take_eq_iff {data : String} (ch : Chunking data) (hne : ∀ c ∈ ch.chunks, c ≠ "")
    (j : Nat) : joinChunks (ch.chunks.take j) = data ↔ ch.chunks.length ≤ j := by
  refine ⟨fun h => ?_, fun h => by rw [List.take_of_length_le h, ch.join_eq]⟩
  by_contra hj
  obtain ⟨c, rest, hdrop⟩ := List.exists_cons_of_ne_nil
    (show ch.chunks.drop j ≠ [] by simpa [List.drop_eq_nil_iff] using hj)
  have hsplit := ch.join_eq
  rw [← List.take_append_drop j ch.chunks, joinChunks_append, h, hdrop, joinChunks_cons] at hsplit
  have hc : c.data = [] := by
    have := congrArg String.data hsplit
    simp only [String.data_append, List.append_right_eq_self] at this
    exact (List.append_eq_nil.mp this).1
  exact hne c (List.mem_of_mem_drop (hdrop ▸ List.mem_cons_self c rest)) (String.ext hc)

/-- The target of a save made in place after the process stops after the first `k` of its
calls, when the directory can be made and the target opened: what it held until the open
(`k ≤ 1`), then the empty file, then each piece as it is written. -/
def stopAfter (before : Option Node) {data : String} (ch : Chunking data) (k : Nat) :
    Option Node :=
  if k ≤ 1 then before else some (.file (joinChunks (ch.chunks.take (k - 2))))

/-- How a save of `ch` to `dir/name`, made in place, leaves its target wherever the process
stops among its calls: the target holds what it held before or the first pieces of the
text; when the directory can be made and the target is not a directory, it holds exactly
`stopAfter` of what it held, so the empty file right after the open; and, with no empty
piece, the whole text only once the last write is done. -/
structure InPlace (fs : FS) (dir name : String) {data : String} (ch : Chunking data) : Prop where
  old_or_prefix : ∀ k,
    (fs.run ((saveWrites dir name ch).take k)).1 (joinName dir name) = fs (joinName dir name) ∨
      ∃ j ≤ ch.chunks.length, (fs.run ((saveWrites dir name ch).take k)).1 (joinName dir name) =
        some (.file (joinChunks (ch.chunks.take j)))
  stop : (∃ fs₁, fs.mkdirAll dir = .ok fs₁) → fs (joinName dir name) ≠ some .dir → ∀ k,
    (fs.run ((saveWrites dir name ch).take k)).1 (joinName dir name) =
      stopAfter (fs (joinName dir name)) ch k
  empty_after_open : (∃ fs₁, fs.mkdirAll dir = .ok fs₁) → fs (joinName dir name) ≠ some .dir →
    (fs.run ((saveWrites dir name ch).take 2)).1 (joinName dir name) = some (.file "")
  whole_at_end : (∃ fs₁, fs.mkdirAll dir = .ok fs₁) → fs (joinName dir name) ≠ some .dir →
    (∀ c ∈ ch.chunks, c ≠ "") → ∀ k, 2 ≤ k →
      ((fs.run ((saveWrites dir name ch).take k)).1 (joinName dir name) = some (.file data) ↔
        (saveWrites dir name ch).length ≤ k)

namespace FS

/-- Where the directory can be made and the target opened, the target after the first `k`
calls of a save is `stopAfter` of what it held. -/
lemma run_saveWrites_take_open {fs fs₁ : FS} {dir name data : String} (ch : Chunking data)
    (hdir : dir ≠ "") (hname : name ≠ "") (hm : fs.mkdirAll dir = .ok fs₁)
    (hnd : fs (joinName dir name) ≠ some .dir) (k : Nat) :
    (fs.run ((saveWrites dir name ch).take k)).1 (joinName dir name) =
      stopAfter (fs (joinName dir name)) ch k := by
  obtain ⟨hkeep, hd⟩ : fs₁ (joinName dir name) = fs (joinName dir name) ∧ fs₁ dir = some .dir := by
    simp only [mkdirAll] at hm
    split_ifs at hm
    cases hm
    simp [joinName_not_mem_dirChain hname, mem_dirChain hdir]
  cases k with
  | zero => simp [stopAfter]
  | succ k =>
    rw [saveWrites, List.take_succ_cons, run_cons_of_apply (show fs.apply (.mkdirAll dir) = .ok _ from hm),
      (run_truncate_take ch hd (hkeep ▸ hnd) k).2, hkeep]
    cases k <;> simp [stopAfter]

end FS

/-- Every save of a text to a named file in a named directory is made in place. -/
lemma inPlace_saveWrites (fs : FS) {dir name : String} (hdir : dir ≠ "") (hname : name ≠ "")
    {data : String} (ch : Chunking data) : InPlace fs dir name ch where
  old_or_prefix := FS.run_saveWrites_take ch hname
  stop := fun ⟨_, hm⟩ hnd => FS.run_saveWrites_take_open ch hdir hname hm hnd
  empty_after_open := fun ⟨_, hm⟩ hnd => by
    rw [FS.run_saveWrites_take_open ch hdir hname hm hnd]
    rfl
  whole_at_end := fun ⟨_, hm⟩ hnd hne k hk => by
    have hlen : (saveWrites dir name ch).length = ch.chunks.length + 2 := by
      simp [saveWrites, truncateWrites]
    rw [FS.run_saveWrites_take_open ch hdir hname hm hnd, stopAfter, if_neg (by omega), hlen,
      Option.some.injEq, Node.file.injEq, joinChunks_take_eq_iff ch hne]
    omega

/-! ### A codec for the concrete runs -/

/-- Fields as text: each character behind a `+`, each field closed by a `.`. -/
def encodeFields (fields : List String) : String :=
  String.mk (fields.flatMap fun f => f.toList.flatMap (fun c => ['+', c]) ++ ['.'])

/-- Reading `encodeFields`'s text: the field being read, the fields read, the rest. -/
def decodeFieldsAux : List Char → List String → List Char → Option (List String)
  | cur, acc, [] => if cur = [] then some acc else none
  | cur, acc, '+' :: c :: rest => decodeFieldsAux (cur ++ [c]) acc rest
  | cur, acc, '.' :: rest => decodeFieldsAux [] (acc ++ [String.mk cur]) rest
  | _, _, _ => none

lemma decodeFieldsAux_chars (acc : List String) (rest : List Char) :
    ∀ (f cur : List Char), decodeFieldsAux cur acc (f.flatMap (fun c => ['+', c]) ++ rest) =
      decodeFieldsAux (cur ++ f) acc rest
  | [], cur => by simp
  | c :: f, cur => by
    rw [show (c :: f).flatMap (fun c => ['+', c]) ++ rest =
      '+' :: c :: (f.flatMap (fun c => ['+', c]) ++ rest) by simp, decodeFieldsAux,
      decodeFieldsAux_chars acc rest f]
    simp

lemma decodeFieldsAux_fields :
    ∀ (fs acc : List String), decodeFieldsAux [] acc
      (fs.flatMap fun f => f.toList.flatMap (fun c => ['+', c]) ++ ['.']) = some (acc ++ fs)
  | [], acc => by simp [decodeFieldsAux]
  | f :: fs, acc => by
    rw [List.flatMap_cons, List.append_assoc, decodeFieldsAux_chars, List.nil_append,
      List.singleton_append, decodeFieldsAux, decodeFieldsAux_fields fs]
    simp

/-- The fields of a text `encodeFields` wrote. -/
def decodeFields (s : String) : Except String (List String) :=
  match decodeFieldsAux [] [] s.toList with
  | some fs => .ok fs
  | none => .error "malformed fields"

@[simp] lemma decodeFields_encodeFields (fs : List String) : decodeFields (encodeFields fs) = .ok fs := by
  show (match decodeFieldsAux [] []
    (fs.flatMap fun f => f.toList.flatMap (fun c => ['+', c]) ++ ['.']) with
    | some fs => Except.ok fs | none => Except.error "malformed fields") = Except.ok fs
  rw [decodeFieldsAux_fields fs []]
  rfl

/-- A codec that writes a value as fields. -/
def Codec.ofFields {α : Type} (toFields : α → List String) (ofFields : List String → Except String α)
    (h : ∀ a, ofFields (toFields a) = .ok a) : Codec α where
  encode a := encodeFields (toFields a)
  decode s := decodeFields s >>= ofFields
  decode_encode a := by simp [h, bind, Except.bind]

/-- An integer field, as `%d` prints it. -/
def ofIntField (s : String) : Except String Int :=
  match parseDecimal (splitSign s.toList).2 with
  | some n => .ok (if (splitSign s.toList).1 then -(n : Int) else n)
  | none => .error ("invalid integer " ++ s)

@[simp] lemma ofIntField_itoa (n : Int) : ofIntField (itoa n) = .ok n := by
  simp only [ofIntField, splitSign_itoa, parseDecimal_toDigits]
  by_cases h : n < 0
  · simp [h, abs_of_neg h]
  · simp [h, abs_of_nonneg (not_lt.mp h)]

end Storage

end RegletHost
