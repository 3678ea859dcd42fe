import Aeris.Routing.Mutations

/-! Which body patches can reach the reserved members of a request body, and why
no accepted header patch can reach a reserved header. The check compares the text
of a pointer; the patch follows its tokens. -/
namespace Aeris.Routing

open RustStd List Option
open Json (get? get?_insertField)

/-- The members that `is_reserved_json_path` is there to protect. -/
def reservedMembers : List String :=
  ["authorization", "api_key", "provider_secret", "upstream_url", "upstream_base_url", "auth"]

/-- Every reserved member is present or absent as before, with the same value. -/
def Kept (before after : Json) : Prop :=
  ∀ name ∈ reservedMembers, after.get? name = before.get? name

instance (before after : Json) : Decidable (Kept before after) :=
  inferInstanceAs (Decidable (∀ name ∈ reservedMembers, after.get? name = before.get? name))

theorem Kept.trans {first second third} (left : Kept first second)
    (right : Kept second third) : Kept first third :=
  fun name reserved => (right name reserved).trans (left name reserved)

/-- What a chain of member names leads to. -/
def lookup : List String → Json → Option Json
  | [], value => some value
  | token :: rest, value => (value.get? token).bind (lookup rest)

theorem lookup_append (first second : List String) (value : Json) :
    lookup (first ++ second) value = (lookup first value).bind (lookup second) := by
  induction first generalizing value with
  | nil => rfl
  | cons token rest ih =>
    cases child : value.get? token with
    | none => simp [lookup, child]
    | some child => simp [lookup, child, ih]

/-- The write at `tokens` is refused, or writes what is there already. A null on the way is
turned into an object only when exactly two tokens remain. -/
def WritesBack (tokens : List String) (body : Json) : RoutingJsonPatchOperation → Prop
  | .add _ value =>
    ((lookup tokens.dropLast body).any Json.isObject → lookup tokens body = some value) ∧
      (2 ≤ tokens.length → lookup tokens.dropLast.dropLast body ≠ some .null)
  | .replace _ value => lookup tokens body = none ∨ lookup tokens body = some value
  | .remove _ => lookup tokens body = none

instance (tokens : List String) (body : Json) (operation : RoutingJsonPatchOperation) :
    Decidable (WritesBack tokens body operation) := by
  cases operation <;> unfold WritesBack <;> infer_instance

/-- What the whole body becomes when the pointer has no token. -/
def RoutingJsonPatchOperation.rootValue : RoutingJsonPatchOperation → Json
  | .add _ value | .replace _ value => value
  | .remove _ => .null

/-- The operation does not reach a reserved member of this body, or leaves it as it is. -/
def Harmless (body : Json) (operation : RoutingJsonPatchOperation) : Prop :=
  match (pointerTokens operation.path).head? with
  | none => Kept body operation.rootValue
  | some first => first ∈ reservedMembers → WritesBack (pointerTokens operation.path) body operation

instance (body : Json) (operation : RoutingJsonPatchOperation) :
    Decidable (Harmless body operation) := by
  unfold Harmless
  split <;> infer_instance

/-! ## The walk to the place of the write -/

variable {place : Json} {name : String}

section Walk

variable {pointer : String} {edit : Json → Edited}

theorem null_above (token : String) (rest : List String) (root : Json) (done : Prop) :
    (∃ above last, token :: rest = above ++ [last] ∧ lookup above root = some .null ∧ done) ↔
      (rest = [] ∧ root = .null ∧ done) ∨ ∃ above last, rest = above ++ [last] ∧
        (root.get? token).bind (lookup above) = some .null ∧ done := by
  constructor
  · rintro ⟨above, last, split, isNull, fine⟩
    cases above with
    | nil => exact .inl ⟨(cons.inj split).2, some.inj isNull, fine⟩
    | cons head tail =>
      obtain ⟨rfl, rfl⟩ := cons.inj split
      exact .inr ⟨tail, last, rfl, isNull, fine⟩
  · rintro (⟨rfl, rfl, fine⟩ | ⟨above, last, rfl, isNull, fine⟩)
    · exact ⟨[], token, rfl, rfl, fine⟩
    · exact ⟨token :: above, last, rfl, isNull, fine⟩

theorem descendMut_ok (parents : List String) (root : Json) :
    (descendMut pointer edit parents root).2 = .ok () ↔
      (∃ place, lookup parents root = some place ∧ (edit place).2 = .ok ()) ∨
        ∃ above token, parents = above ++ [token] ∧ lookup above root = some .null ∧
          (edit (.object [])).2 = .ok () := by
  fun_induction descendMut pointer edit parents root with
  | case1 root => simp [lookup]
  | case2 token rest fields found =>
    rw [null_above]
    simp [lookup, found]
  | case3 token rest fields child found ih =>
    rw [null_above]
    simp [lookup, found, ih]
  | case4 token rest ih =>
    -- below a null only the token that was just created exists
    rw [null_above]
    cases rest with
    | nil | cons next rest => simp [lookup, get?, descendMut]
  | case5 token rest root notObject notNull =>
    rw [null_above]
    cases root <;> simp_all [lookup, get?]

theorem lookup_descendMut {parents root}
    (done : (descendMut pointer edit parents root).2 = .ok ()) : ∃ place, (edit place).2 = .ok () ∧
      lookup parents (descendMut pointer edit parents root).1 = some (edit place).1 := by
  fun_induction descendMut pointer edit parents root with
  | case1 root => exact ⟨root, done, rfl⟩
  | case2 token rest fields found => cases done
  | case3 token rest fields child found ih =>
    obtain ⟨place, fine, there⟩ := ih done
    exact ⟨place, fine, by simpa [lookup, get?_insertField] using there⟩
  | case4 token rest ih =>
    obtain ⟨place, fine, there⟩ := ih done
    exact ⟨place, fine, by simpa [lookup, get?] using there⟩
  | case5 => cases done

theorem descendMut_same {parents root} (ordered : root.Ordered)
    (there : lookup parents root = some place) (same : (edit place).1 = place) :
    (descendMut pointer edit parents root).1 = root := by
  fun_induction descendMut pointer edit parents root with
  | case1 root =>
    cases there
    exact same
  | case2 token rest fields found => rfl
  | case3 token rest fields child found ih =>
    simp only [lookup, found, bind_some] at there
    simp only [ih (ordered.get? found) there, ordered.insertField_present found]
  | case4 token rest ih => simp [lookup, get?] at there
  | case5 => rfl

theorem descendMut_ordered (parents : List String) {root} (ordered : root.Ordered)
    (keeps : ∀ place : Json, place.Ordered → (edit place).1.Ordered) :
    (descendMut pointer edit parents root).1.Ordered := by
  fun_induction descendMut pointer edit parents root with
  | case1 root => exact keeps root ordered
  | case2 token rest fields found => exact ordered
  | case3 token rest fields child found ih =>
    exact ordered.insertField token (ih (ordered.get? found))
  | case4 token rest ih =>
    have inner := ih (.object [] .nil (fun _ member => absurd member not_mem_nil))
    exact .object _ (pairwise_singleton _ _) (by simpa using inner)
  | case5 => exact ordered

theorem get?_descendMut {token} (other : name ≠ token) (rest : List String) (root : Json) :
    (descendMut pointer edit (token :: rest) root).1.get? name = root.get? name := by
  cases root with
  | object fields =>
    cases found : get? token (.object fields) with
    | none => simp [descendMut, found]
    | some child => simp [descendMut, found, get?_insertField, other]
  | null => simp [descendMut, get?, Ne.symm other]
  | bool _ | number _ | string _ | array _ => rfl

end Walk

/-! ## The write itself -/

theorem insertLeaf_ok (pointer leaf : String) (value place : Json) (allowCreate : Bool) :
    (insertLeaf pointer leaf value allowCreate place).2 = .ok () ↔
      place.isObject ∧ (allowCreate ∨ (place.get? leaf).isSome) := by
  cases place with
  | object fields =>
    cases allowCreate <;> cases found : get? leaf (.object fields) <;>
      simp [insertLeaf, Json.isObject, found]
  | null | bool _ | number _ | string _ | array _ => simp [insertLeaf, Json.isObject]

theorem get?_insertLeaf {pointer leaf value allowCreate}
    (done : (insertLeaf pointer leaf value allowCreate place).2 = .ok ()) :
    (insertLeaf pointer leaf value allowCreate place).1.get? leaf = some value := by
  cases place with
  | object fields =>
    simp only [insertLeaf] at done ⊢
    split at done
    · cases done
    · rw [if_neg (by assumption), get?_insertField, if_pos rfl]
  | null | bool _ | number _ | string _ | array _ => simp [insertLeaf] at done

theorem removeLeaf_ok (pointer leaf : String) (place : Json) :
    (removeLeaf pointer leaf place).2 = .ok () ↔ (place.get? leaf).isSome := by
  cases place with
  | object fields => cases found : get? leaf (.object fields) <;> simp [removeLeaf, found]
  | null | bool _ | number _ | string _ | array _ => simp [removeLeaf, get?]

theorem get?_removeLeaf {pointer leaf} (done : (removeLeaf pointer leaf place).2 = .ok ()) :
    (removeLeaf pointer leaf place).1.get? leaf = none := by
  cases place with
  | object fields =>
    cases found : get? leaf (.object fields) with
    | none => simp [removeLeaf, found] at done
    | some child => simp [removeLeaf, found, Json.get?_removeField]
  | null | bool _ | number _ | string _ | array _ => simp [removeLeaf] at done

theorem get?_insertLeaf_other {leaf} (other : name ≠ leaf) (pointer : String)
    (value place : Json) (allowCreate : Bool) :
    (insertLeaf pointer leaf value allowCreate place).1.get? name = place.get? name := by
  cases place with
  | object fields =>
    simp only [insertLeaf]
    split
    · rfl
    · rw [get?_insertField, if_neg other]
  | null | bool _ | number _ | string _ | array _ => rfl

theorem get?_removeLeaf_other {leaf} (other : name ≠ leaf) (pointer : String)
    (place : Json) : (removeLeaf pointer leaf place).1.get? name = place.get? name := by
  cases place with
  | object fields =>
    simp only [removeLeaf]
    split
    · rfl
    · rw [Json.get?_removeField, if_neg other]
  | null | bool _ | number _ | string _ | array _ => rfl

/-! ## One operation -/

def RoutingJsonPatchOperation.leafEdit (operation : RoutingJsonPatchOperation) (leaf : String) :
    Json → Edited :=
  match operation with
  | .add path value => insertLeaf path leaf value true
  | .replace path value => insertLeaf path leaf value false
  | .remove path => removeLeaf path leaf

variable {operation : RoutingJsonPatchOperation}

theorem applyJsonPatchOperation_root (none_ : pointerTokens operation.path = []) (body : Json) :
    applyJsonPatchOperation body operation = (operation.rootValue, .ok ()) := by
  cases operation <;>
    simp_all [applyJsonPatchOperation, setJsonPointer, removeJsonPointer,
      RoutingJsonPatchOperation.path, RoutingJsonPatchOperation.rootValue]

theorem applyJsonPatchOperation_leaf (operation : RoutingJsonPatchOperation) {parents leaf}
    (tokens : pointerTokens operation.path = parents ++ [leaf]) (body : Json) :
    applyJsonPatchOperation body operation =
      descendMut operation.path (operation.leafEdit leaf) parents body := by
  cases operation <;>
    simp_all [applyJsonPatchOperation, setJsonPointer, removeJsonPointer,
      RoutingJsonPatchOperation.path, RoutingJsonPatchOperation.leafEdit]

theorem get?_leafEdit_other {leaf} (other : name ≠ leaf)
    (operation : RoutingJsonPatchOperation) (place : Json) :
    (operation.leafEdit leaf place).1.get? name = place.get? name := by
  cases operation with
  | add path value => exact get?_insertLeaf_other other path value place true
  | replace path value => exact get?_insertLeaf_other other path value place false
  | remove path => exact get?_removeLeaf_other other path place

theorem get?_applyJsonPatchOperation {first}
    (head : (pointerTokens operation.path).head? = some first) (other : name ≠ first)
    (body : Json) : (applyJsonPatchOperation body operation).1.get? name = body.get? name := by
  rcases eq_nil_or_concat (pointerTokens operation.path) with none_ | ⟨parents, leaf, tokens⟩
  · simp [none_] at head
  · rw [concat_eq_append] at tokens
    rw [applyJsonPatchOperation_leaf operation tokens]
    rw [tokens] at head
    cases parents with
    | nil =>
      cases head
      exact get?_leafEdit_other other operation body
    | cons token rest =>
      cases head
      exact get?_descendMut other rest body

section Leaf

variable {operation : RoutingJsonPatchOperation} {parents : List String} {leaf : String}

variable {body : Json}

theorem lookup_after (tokens : pointerTokens operation.path = parents ++ [leaf])
    (done : (applyJsonPatchOperation body operation).2 = .ok ()) :
    lookup (parents ++ [leaf]) (applyJsonPatchOperation body operation).1 = match operation with
      | .add _ value | .replace _ value => some value
      | .remove _ => none := by
  rw [applyJsonPatchOperation_leaf operation tokens] at done ⊢
  obtain ⟨place, fine, there⟩ := lookup_descendMut done
  rw [lookup_append, there, bind_some]
  cases operation with
  | add path value | replace path value =>
    simp [lookup, RoutingJsonPatchOperation.leafEdit, get?_insertLeaf fine]
  | remove path => simp [lookup, RoutingJsonPatchOperation.leafEdit, get?_removeLeaf fine]

theorem lookup_leaf (body : Json) :
    lookup (parents ++ [leaf]) body = (lookup parents body).bind (get? leaf) := by
  rw [lookup_append]
  congr 1
  funext place
  simp [lookup]

variable {path : String}

theorem add_ok {value} (tokens : pointerTokens path = parents ++ [leaf]) (body : Json) :
    (applyJsonPatchOperation body (.add path value)).2 = .ok () ↔
      (lookup parents body).any Json.isObject ∨
        ∃ above token, parents = above ++ [token] ∧ lookup above body = some .null := by
  rw [applyJsonPatchOperation_leaf (.add path value) tokens, descendMut_ok]
  simp only [RoutingJsonPatchOperation.leafEdit, insertLeaf_ok, true_or, and_true]
  constructor
  · rintro (⟨place, there, isObject⟩ | ⟨above, token, split, isNull, -⟩)
    · exact .inl (by simp [there, isObject])
    · exact .inr ⟨above, token, split, isNull⟩
  · rintro (isObject | ⟨above, token, split, isNull⟩)
    · cases there : lookup parents body with
      | none => simp [there] at isObject
      | some place => exact .inl ⟨place, rfl, by simpa [there] using isObject⟩
    · exact .inr ⟨above, token, split, isNull, rfl⟩

theorem isObject_of_get? {child} (found : place.get? leaf = some child) : place.isObject := by
  cases place with
  | object fields => rfl
  | null | bool _ | number _ | string _ | array _ => cases found

theorem replace_ok {value} (tokens : pointerTokens path = parents ++ [leaf]) (body : Json) :
    (applyJsonPatchOperation body (.replace path value)).2 = .ok () ↔
      (lookup (parents ++ [leaf]) body).isSome := by
  rw [applyJsonPatchOperation_leaf (.replace path value) tokens, descendMut_ok, lookup_leaf]
  simp only [RoutingJsonPatchOperation.leafEdit, insertLeaf_ok, Bool.false_eq_true, false_or]
  constructor
  · rintro (⟨place, there, -, found⟩ | ⟨_, _, _, _, _, found⟩)
    · simpa [there] using found
    · cases found
  · intro found
    cases there : lookup parents body with
    | none => simp [there] at found
    | some place =>
      rw [there, bind_some] at found
      obtain ⟨child, isChild⟩ := isSome_iff_exists.mp found
      exact .inl ⟨place, rfl, isObject_of_get? isChild, found⟩

theorem remove_ok (tokens : pointerTokens path = parents ++ [leaf]) (body : Json) :
    (applyJsonPatchOperation body (.remove path)).2 = .ok () ↔
      (lookup (parents ++ [leaf]) body).isSome := by
  rw [applyJsonPatchOperation_leaf (.remove path) tokens, descendMut_ok, lookup_leaf]
  simp only [RoutingJsonPatchOperation.leafEdit, removeLeaf_ok]
  constructor
  · rintro (⟨place, there, found⟩ | ⟨_, _, _, _, found⟩)
    · simpa [there] using found
    · cases found
  · intro found
    cases there : lookup parents body with
    | none => simp [there] at found
    | some place => exact .inl ⟨place, rfl, by simpa [there] using found⟩

theorem write_back {value body} (ordered : body.Ordered) (allowCreate : Bool)
    (there : lookup (parents ++ [leaf]) body = some value) :
    (descendMut path (insertLeaf path leaf value allowCreate) parents body).1 = body := by
  rw [lookup_leaf, bind_eq_some_iff] at there
  obtain ⟨place, reached, found⟩ := there
  have inner : ∀ (parents : List String) (root : Json), root.Ordered →
      lookup parents root = some place → place.Ordered := by
    intro parents
    induction parents with
    | nil =>
      intro root ordered reached
      cases reached
      exact ordered
    | cons token rest ih =>
      intro root ordered reached
      rw [lookup, bind_eq_some_iff] at reached
      obtain ⟨child, isChild, reached⟩ := reached
      exact ih child (ordered.get? isChild) reached
  refine descendMut_same ordered reached ?_
  have placeOrdered := inner parents body ordered reached
  cases place with
  | object fields => simp [insertLeaf, found, placeOrdered.insertField_present found]
  | null | bool _ | number _ | string _ | array _ => rfl

theorem writesBack_of_shown (tokens : pointerTokens operation.path = parents ++ [leaf])
    (shown : (applyJsonPatchOperation body operation).2 = .ok () →
      lookup (parents ++ [leaf]) (applyJsonPatchOperation body operation).1 =
        lookup (parents ++ [leaf]) body) : WritesBack (parents ++ [leaf]) body operation := by
  have left : ∀ done, lookup (parents ++ [leaf]) body = _ :=
    fun done => (shown done).symm.trans (lookup_after tokens done)
  cases operation with
  | add path value =>
    constructor
    · intro isObject
      exact left ((add_ok tokens body).mpr (.inl (by simpa using isObject)))
    · intro _ isNull
      rw [dropLast_concat] at isNull
      rcases eq_nil_or_concat parents with rfl | ⟨above, token, rfl⟩
      · simp at *
      · rw [concat_eq_append, dropLast_concat] at isNull
        -- nothing lies below a null, so the new value cannot have been there
        have there := left ((add_ok tokens body).mpr (.inr ⟨above, token, by simp, isNull⟩))
        simp [lookup_append, isNull, lookup, get?] at there
  | replace path value =>
    cases there : lookup (parents ++ [leaf]) body with
    | none => exact .inl there
    | some old => exact .inr (left ((replace_ok tokens body).mpr (by simp [there])))
  | remove path =>
    cases there : lookup (parents ++ [leaf]) body with
    | none => exact there
    | some old =>
      have gone := left ((remove_ok tokens body).mpr (by simp [there]))
      exact absurd (there.symm.trans gone) (by simp)

theorem unchanged_of_writesBack (tokens : pointerTokens operation.path = parents ++ [leaf])
    (ordered : body.Ordered) (back : WritesBack (parents ++ [leaf]) body operation)
    (done : (applyJsonPatchOperation body operation).2 = .ok ()) :
    (applyJsonPatchOperation body operation).1 = body := by
  cases operation with
  | add path value =>
    have there : lookup (parents ++ [leaf]) body = some value := by
      rcases (add_ok tokens body).mp done with isObject | ⟨above, token, rfl, isNull⟩
      · exact back.1 (by simpa using isObject)
      · exact absurd (by simpa using isNull) (back.2 (by simp))
    rw [applyJsonPatchOperation_leaf (.add path value) tokens]
    exact write_back ordered true there
  | replace path value =>
    have found := (replace_ok tokens body).mp done
    rcases back with missing | there
    · rw [missing] at found
      cases found
    · rw [applyJsonPatchOperation_leaf (.replace path value) tokens]
      exact write_back ordered false there
  | remove path =>
    have found := (remove_ok tokens body).mp done
    rw [show lookup (parents ++ [leaf]) body = none from back] at found
    cases found

end Leaf

variable {body : Json}

theorem kept_iff_harmless (operation : RoutingJsonPatchOperation) (ordered : body.Ordered) :
    ((applyJsonPatchOperation body operation).2 = .ok () →
      Kept body (applyJsonPatchOperation body operation).1) ↔ Harmless body operation := by
  rcases eq_nil_or_concat (pointerTokens operation.path) with none_ | ⟨parents, leaf, tokens⟩
  · simp [Harmless, none_, applyJsonPatchOperation_root none_]
  · rw [concat_eq_append] at tokens
    obtain ⟨first, rest, split⟩ : ∃ first rest, parents ++ [leaf] = first :: rest :=
      exists_cons_of_ne_nil (by simp)
    have head : (pointerTokens operation.path).head? = some first := by rw [tokens, split]; rfl
    simp only [Harmless, head]
    rw [tokens]
    constructor
    · intro kept reserved
      apply writesBack_of_shown tokens
      intro done
      rw [split]
      simp only [lookup, kept done first reserved]
    · intro back done name reserved
      by_cases same : name = first
      · subst same
        rw [unchanged_of_writesBack tokens ordered (back reserved) done]
      · exact get?_applyJsonPatchOperation head same body

/-! ## A whole patch -/

def RoutingJsonPatchOperation.Ordered : RoutingJsonPatchOperation → Prop
  | .add _ value | .replace _ value => value.Ordered
  | .remove _ => True

theorem leafEdit_ordered (ordered : operation.Ordered)
    (leaf : String) (place : Json) (placeOrdered : place.Ordered) :
    (operation.leafEdit leaf place).1.Ordered := by
  cases place with
  | object fields =>
    cases operation with
    | add path value =>
      simpa [RoutingJsonPatchOperation.leafEdit, insertLeaf] using
        placeOrdered.insertField leaf ordered
    | replace path value =>
      simp only [RoutingJsonPatchOperation.leafEdit, insertLeaf]
      split
      · exact placeOrdered
      · exact placeOrdered.insertField leaf ordered
    | remove path =>
      simp only [RoutingJsonPatchOperation.leafEdit, removeLeaf]
      split
      · exact placeOrdered
      · exact placeOrdered.removeField leaf
  | null | bool _ | number _ | string _ | array _ => cases operation <;> exact placeOrdered

theorem applyJsonPatchOperation_ordered (ordered : operation.Ordered) (bodyOrdered : body.Ordered) :
    (applyJsonPatchOperation body operation).1.Ordered := by
  rcases eq_nil_or_concat (pointerTokens operation.path) with none_ | ⟨parents, leaf, tokens⟩
  · rw [applyJsonPatchOperation_root none_]
    cases operation with
    | add path value | replace path value => exact ordered
    | remove path => exact .null
  · rw [concat_eq_append] at tokens
    rw [applyJsonPatchOperation_leaf operation tokens]
    exact descendMut_ordered parents bodyOrdered (leafEdit_ordered ordered leaf)

theorem applyInOrder_snoc {body state done}
    (operation : RoutingJsonPatchOperation) (sofar : applyInOrder body done = (state, .ok ())) :
    applyInOrder body (done ++ [operation]) = applyJsonPatchOperation state operation := by
  induction done generalizing body with
  | nil =>
    rw [nil_append, applyInOrder]
    split <;> simp_all [applyInOrder]
  | cons first rest ih =>
    rw [applyInOrder] at sofar
    rw [cons_append, applyInOrder]
    split at sofar
    · exact ih sofar
    · cases sofar

theorem applyInOrder_start {body after done rest}
    (whole : applyInOrder body (done ++ rest) = (after, .ok ())) :
    ∃ state, applyInOrder body done = (state, .ok ()) := by
  induction done generalizing body with
  | nil => exact ⟨body, rfl⟩
  | cons first later ih =>
    rw [cons_append, applyInOrder] at whole
    rw [applyInOrder]
    split at whole
    · exact ih whole
    · cases whole

theorem applyInOrder_ordered {body state done}
    (bodyOrdered : body.Ordered) (ordered : ∀ operation ∈ done, operation.Ordered)
    (sofar : applyInOrder body done = (state, .ok ())) : state.Ordered := by
  induction done generalizing body with
  | nil =>
    cases sofar
    exact bodyOrdered
  | cons first rest ih =>
    rw [applyInOrder] at sofar
    split at sofar
    · rename_i next step
      have nextOrdered := applyJsonPatchOperation_ordered
        (ordered first mem_cons_self) bodyOrdered
      rw [step] at nextOrdered
      exact ih nextOrdered (fun operation later => ordered operation (.tail _ later)) sofar
    · cases sofar

theorem validate_start {done rest}
    (accepted : validateJsonPatchOperations (done ++ rest) = .ok ()) :
    validateJsonPatchOperations done = .ok () := by
  induction done with
  | nil => rfl
  | cons first later ih =>
    rw [cons_append, validateJsonPatchOperations] at accepted
    rw [validateJsonPatchOperations]
    split at accepted
    · cases accepted
    · split at accepted
      · cases accepted
      · rw [if_neg (by assumption)]
        exact ih accepted

theorem applyJsonPatchOperations_start {done rest}
    (accepted : validateJsonPatchOperations (done ++ rest) = .ok ()) (body : Json) :
    applyJsonPatchOperations body done = applyInOrder body done := by
  rw [applyJsonPatchOperations, validate_start accepted]

theorem patch_kept_iff {operations}
    (bodyOrdered : body.Ordered) (ordered : ∀ operation ∈ operations, operation.Ordered) :
    (∀ done rest, operations = done ++ rest → ∀ after,
        applyInOrder body done = (after, .ok ()) → Kept body after) ↔
      ∀ done operation rest, operations = done ++ operation :: rest → ∀ state,
        applyInOrder body done = (state, .ok ()) → Harmless state operation := by
  constructor
  · intro kept done operation rest split state sofar
    have stateOrdered := applyInOrder_ordered bodyOrdered
      (fun earlier member => ordered earlier (by simp [split, member])) sofar
    rw [← kept_iff_harmless operation stateOrdered]
    intro fine name reserved
    have before := kept done (operation :: rest) split state sofar name reserved
    have both := applyInOrder_snoc operation sofar
    have after := kept (done ++ [operation]) rest (by simp [split])
      (applyJsonPatchOperation state operation).1 (both.trans (Prod.ext rfl fine)) name reserved
    rw [after, before]
  · intro harmless done
    induction done using List.reverseRecOn with
    | nil =>
      rintro rest - after whole name -
      cases whole
      rfl
    | append_singleton done operation ih =>
      intro rest split after whole
      obtain ⟨state, sofar⟩ := applyInOrder_start whole
      have stateOrdered := applyInOrder_ordered bodyOrdered
        (fun earlier member => ordered earlier (by simp [split, member])) sofar
      have here := harmless done operation rest (by simp [split]) state sofar
      rw [applyInOrder_snoc operation sofar] at whole
      have step := (kept_iff_harmless operation stateOrdered).mpr here
      rw [whole] at step
      exact (ih (operation :: rest) (by simp [split]) state sofar).trans (step rfl)

/-! ## Headers -/

theorem headerNameChar_visible {c} (fine : isHeaderNameChar c) : 33 ≤ c.toNat ∧ c.toNat ≤ 126 := by
  rw [isHeaderNameChar, Bool.or_eq_true] at fine
  rcases fine with letter | mark
  · unfold Char.isAlphanum Char.isAlpha Char.isUpper Char.isLower Char.isDigit at letter
    simp only [Bool.or_eq_true, Bool.and_eq_true, decide_eq_true_eq, ge_iff_le,
      UInt32.le_iff_toNat_le, Char.toNat_val, Char.reduceToNat] at letter
    omega
  · have all : "!#$%&'*+-.^_`|~".toList.all (fun c => 33 ≤ c.toNat ∧ c.toNat ≤ 126) := by decide
    simpa using all_eq_true.mp all c (of_decide_eq_true mark)

theorem headerNameChar_not_blank {c} (fine : isHeaderNameChar c) : isWhitespace c = false := by
  obtain ⟨low, high⟩ := headerNameChar_visible fine
  simp only [isWhitespace, Bool.or_eq_false_iff, Bool.and_eq_false_iff, decide_eq_false_iff_not,
    beq_eq_false_iff_ne]
  omega

theorem dropWhile_blank {text : List Char} (solid : ∀ c ∈ text, isWhitespace c = false) :
    text.dropWhile isWhitespace = text := by
  cases text with
  | nil => rfl
  | cons c rest => rw [dropWhile_cons_of_neg (by simp [solid c mem_cons_self])]

theorem trim_of_solid {text : String} (solid : ∀ c ∈ text.toList, isWhitespace c = false) :
    trim text = text := by
  rw [trim, dropWhile_blank solid, dropWhile_blank
    (fun c member => solid c (by simpa using member)), reverse_reverse, String.ofList_toList]

/-- The check reads the trimmed name and the patch the whole one; a name that the header
map takes has nothing to trim. -/
theorem headerName_free {item} (accepted : validateHeaderItem item = .ok ())
    (parsed : headerNameFromBytes item.name = some name) : isReservedHeader name = false := by
  rw [headerNameFromBytes] at parsed
  split at parsed
  · cases parsed
  · rename_i fine
    simp only [Bool.or_eq_true, Bool.not_eq_true', not_or, Bool.not_eq_false,
      List.all_eq_true] at fine
    have solid := trim_of_solid (fun c member => headerNameChar_not_blank (fine.2 c member))
    simp only [validateHeaderItem, solid, Option.some.inj parsed] at accepted
    split at accepted
    · cases accepted
    · split at accepted
      · cases accepted
      · simpa using ‹¬ isReservedHeader name = true›

theorem HeaderMap.getAll_remove {headers : HeaderMap} {other} (apart : name ≠ other) :
    (headers.remove other).getAll name = headers.getAll name := by
  rw [HeaderMap.getAll, HeaderMap.remove, List.filter_filter, HeaderMap.getAll]
  congr 2
  funext header
  by_cases hit : header.1 = name <;> simp [hit, apart]

theorem HeaderMap.getAll_insert {headers : HeaderMap} {other value}
    (apart : name ≠ other) : (headers.insert other value).getAll name = headers.getAll name := by
  have rest : (headers.remove other).getAll name = _ := HeaderMap.getAll_remove apart
  simp only [HeaderMap.getAll] at rest ⊢
  simp [HeaderMap.insert, rest, Ne.symm apart]

theorem getAll_applyHeaderItem {item}
    (accepted : validateHeaderItem item = .ok ()) (reserved : isReservedHeader name)
    (headers : HeaderMap) : (applyHeaderItem headers item).1.getAll name = headers.getAll name := by
  have apart : ∀ other, headerNameFromBytes item.name = some other → name ≠ other := by
    rintro other parsed rfl
    rw [headerName_free accepted parsed] at reserved
    cases reserved
  cases item with
  | set text value =>
    simp only [applyHeaderItem]
    split
    · rfl
    · rename_i other parsed
      split
      · rfl
      · exact HeaderMap.getAll_insert (apart other parsed)
  | remove text =>
    simp only [applyHeaderItem]
    split
    · rfl
    · rename_i other parsed
      exact HeaderMap.getAll_remove (apart other parsed)

/-- An accepted header patch leaves every reserved header alone, also when it stops early. -/
theorem getAll_applyHeaderPatch {patch}
    (accepted : validateHeaderPatch patch = .ok ()) (reserved : isReservedHeader name)
    (headers : HeaderMap) :
    (applyHeaderPatch headers patch).1.getAll name = headers.getAll name := by
  rw [applyHeaderPatch, accepted]
  induction patch generalizing headers with
  | nil => rfl
  | cons item rest ih =>
    rw [validateHeaderPatch] at accepted
    split at accepted
    · cases accepted
    · rename_i checked
      have first := getAll_applyHeaderItem checked reserved headers
      rw [applyHeadersInOrder]
      split
      · rename_i next step
        rw [step] at first
        exact (ih accepted next).trans first
      · rename_i next error step
        rw [step] at first
        exact first

/-! ## Both parts of a plan -/

end Aeris.Routing
