import Mathlib.Data.List.AList

/-!
The capability schema registry (`src/registry/registry.go`): `Register`, `GetSchema` and
`List` over the map of schemas.

* `SchemaModel`: the `model` argument of `Register` by the case of its type switch, with what
  the JSON library gives for it; `SchemaModel.schemaText` is the text `Register` saves.
* `SchemaRegistry.register`, `registerAll`: one call, and a run of calls in order.
* `registerAll_getSchema` (**the first registration stands**): after every run of calls from
  the empty registry, the schema of a kind is the one of the first call for it whose schema
  text was made, and `List` holds exactly the kinds that have such a call, once each.

`strictMode` and the reflector's settings are set by `NewRegistry` and never read by
`Register`, so they are left out. Go's map has no order: `List` returns the keys in the
`AList`'s order, one of the orders the code may give.
-/

namespace RegletHost

/-- The `model` argument of `Register`, by the case its type switch takes: a `string`; a
`map[string]interface{}` with `json.Marshal`'s result for it; a `[]byte` that is not a
struct; any other value, with `json.MarshalIndent`'s result for the schema `Reflect`
generates from it. -/
inductive SchemaModel
  | text (s : String)
  | map (marshalled : Except String String)
  | bytes (b : String)
  | reflected (marshalled : Except String String)

/-- The schema text `Register` saves for a model, or its error. -/
def SchemaModel.schemaText : SchemaModel → Except String String
  | .text s => .ok s
  | .map r => r.mapError ("failed to marshal schema map: " ++ ·)
  | .bytes b => .ok b
  | .reflected r => r.mapError ("failed to marshal generated schema: " ++ ·)

/-- `registry.Registry`: the schema of each registered kind. -/
structure SchemaRegistry where
  schemas : AList (fun _ : String => String) := ∅

namespace SchemaRegistry

/-- `GetSchema`. -/
def getSchema (r : SchemaRegistry) (kind : String) : Option String := r.schemas.lookup kind

/-- `List`. -/
def list (r : SchemaRegistry) : List String := r.schemas.keys

/-- `Register`: a kind already registered is refused; otherwise the model's schema text is
saved, unless making it failed. -/
def register (r : SchemaRegistry) (kind : String) (model : SchemaModel) :
    Except String Unit × SchemaRegistry :=
  if kind ∈ r.schemas then (.error ("capability kind already registered: " ++ kind), r)
  else
    match model.schemaText with
    | .error e => (.error e, r)
    | .ok s => (.ok (), ⟨r.schemas.insert kind s⟩)

/-- A run of `Register` calls, in order: their results and the registry they leave. -/
def registerAll (r : SchemaRegistry) :
    List (String × SchemaModel) → List (Except String Unit) × SchemaRegistry
  | [] => ([], r)
  | (kind, model) :: calls =>
    ((r.register kind model).1 :: ((r.register kind model).2.registerAll calls).1,
      ((r.register kind model).2.registerAll calls).2)

/-- The schema text of the first call for `kind` whose text was made. -/
def firstSchema (calls : List (String × SchemaModel)) (kind : String) : Option String :=
  calls.findSome? fun c => if c.1 = kind then c.2.schemaText.toOption else none

/-- One call adds the schema of its kind when the kind was not registered. -/
lemma getSchema_register (r : SchemaRegistry) (k : String) (model : SchemaModel)
    (kind : String) : (r.register k model).2.getSchema kind =
      (r.getSchema kind).or (if k = kind then model.schemaText.toOption else none) := by
  unfold register getSchema
  by_cases heq : k = kind
  · subst heq
    rw [if_pos rfl]
    split_ifs with hk
    · obtain ⟨s, hs⟩ := Option.isSome_iff_exists.mp (AList.lookup_isSome.mpr hk)
      simp [hs]
    · rw [← AList.lookup_eq_none] at hk
      rcases model.schemaText with e | s <;> simp [hk, Except.toOption]
  · rw [if_neg heq]
    split_ifs
    · simp
    · rcases model.schemaText with e | s <;>
        simp [heq, Except.toOption, AList.lookup_insert_ne (Ne.symm heq)]

/-- A run adds, for each kind not registered, the schema of its first call that made one. -/
lemma getSchema_registerAll (kind : String) :
    ∀ (r : SchemaRegistry) (calls : List (String × SchemaModel)),
      (r.registerAll calls).2.getSchema kind = (r.getSchema kind).or (firstSchema calls kind)
  | r, [] => by simp [registerAll, firstSchema]
  | r, (k, model) :: calls => by
    simp only [registerAll, getSchema_registerAll kind _ calls, getSchema_register,
      firstSchema, List.findSome?_cons, Option.or_assoc]
    split_ifs <;> cases model.schemaText.toOption <;> rfl

/-- **The first registration stands.** After every run of `Register` calls from the empty
registry, the schema of each kind is the one of the first call for it whose schema text
was made, and `List` holds exactly the kinds that have such a call, each once. -/
theorem registerAll_getSchema (calls : List (String × SchemaModel)) :
    (∀ kind, ((({} : SchemaRegistry).registerAll calls).2.getSchema kind =
        firstSchema calls kind) ∧
      (kind ∈ (({} : SchemaRegistry).registerAll calls).2.list ↔
        (firstSchema calls kind).isSome)) ∧
      (({} : SchemaRegistry).registerAll calls).2.list.Nodup := by
  have hget : ∀ kind, (({} : SchemaRegistry).registerAll calls).2.getSchema kind =
      firstSchema calls kind := fun kind => by
    rw [getSchema_registerAll]; rfl
  refine ⟨fun kind => ⟨hget kind, ?_⟩, AList.nodupKeys _⟩
  rw [← hget, getSchema, list, ← AList.mem_keys, AList.lookup_isSome]

end SchemaRegistry

end RegletHost
