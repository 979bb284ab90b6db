import TicketCore.JsonText
import TicketCore.Services.Idempotency
import Mathlib.Data.List.Perm.Subperm
import Mathlib.Data.List.Nodup

/-!
# The payload fingerprint

What `_extract_business_payload` and `_hash_payload` feed to SHA-256 tells the business payload as a
JSON value, and nothing else.

* `Json.same` is the equality of JSON values, as `==` of Python compares dictionaries and lists,
  with `true` distinct from `1`; `Json.Distinct` says that no object has two fields under one key.
* `Json.sorted_eq_iff`: sorting the keys at every level makes exactly the equal values identical.
* `digestInput` is the text that is hashed; `fingerprint_canonical` says what it tells of two maps
  of keyword arguments.
-/

namespace TicketCore

namespace Json

/-! ## Equality of JSON values -/

mutual

/-- Two values are equal: objects have equally many fields, and each field of the one is in the
other with an equal value. -/
def same : Json → Json → Prop
  | .null, .null => True
  | .bool value, .bool value' => value = value'
  | .int value, .int value' => value = value'
  | .str value, .str value' => value = value'
  | .arr items, .arr items' => sameItems items items'
  | .obj fields, .obj fields' => fields.length = fields'.length ∧ sameFields fields fields'
  | _, _ => False

/-- Equal items in the same places. -/
def sameItems : List Json → List Json → Prop
  | [], [] => True
  | item :: items, item' :: items' => same item item' ∧ sameItems items items'
  | _, _ => False

/-- Each field is among others with an equal value. -/
def sameFields : List (String × Json) → List (String × Json) → Prop
  | [], _ => True
  | (key, value) :: fields, others =>
      (∃ value', (key, value') ∈ others ∧ same value value') ∧ sameFields fields others

end

mutual

/-- No object inside has two fields under one key. -/
def Distinct : Json → Prop
  | .arr items => DistinctItems items
  | .obj fields => (fields.map Prod.fst).Nodup ∧ DistinctFields fields
  | _ => True

/-- So it is in every item. -/
def DistinctItems : List Json → Prop
  | [] => True
  | item :: items => Distinct item ∧ DistinctItems items

/-- So it is in the value of every field. -/
def DistinctFields : List (String × Json) → Prop
  | [] => True
  | (_, value) :: fields => Distinct value ∧ DistinctFields fields

end

theorem distinctFields_iff {fields : List (String × Json)} :
    DistinctFields fields ↔ ∀ field ∈ fields, Distinct field.2 := by
  induction fields with
  | nil =>
      refine ⟨fun _ => nofun, fun _ => ?_⟩
      unfold DistinctFields
      trivial
  | cons field fields ih => rw [DistinctFields, ih, List.forall_mem_cons]

/-! ## Sorted fields -/

theorem sortedFields_eq (fields : List (String × Json)) :
    sortedFields fields = fields.map fun field => (field.1, sorted field.2) := by
  induction fields with
  | nil => rfl
  | cons field fields ih => rw [sortedFields, ih, List.map_cons]

theorem keys_sortedFields (fields : List (String × Json)) :
    (sortedFields fields).map Prod.fst = fields.map Prod.fst := by
  rw [sortedFields_eq, List.map_map]
  rfl

theorem mem_sortedFields {fields : List (String × Json)} {key : String} {value : Json} :
    (key, value) ∈ sortedFields fields ↔ ∃ value', (key, value') ∈ fields ∧
      sorted value' = value := by
  rw [sortedFields_eq, List.mem_map]
  constructor
  · rintro ⟨field, mem, same⟩
    cases same
    exact ⟨field.2, mem, rfl⟩
  · rintro ⟨value', mem, rfl⟩
    exact ⟨_, mem, rfl⟩

/-- Under distinct keys the order of the keys is the only order that sorts the fields. -/
theorem eq_of_perm_of_keys {fields fields' : List (String × Json)}
    (keys : (fields.map Prod.fst).Nodup) (perm : fields.Perm fields')
    (ordered : fields.Pairwise fun a b => a.1 ≤ b.1)
    (ordered' : fields'.Pairwise fun a b => a.1 ≤ b.1) :
    fields = fields' := by
  refine perm.eq_of_pairwise (fun a b mem mem' below above => ?_) ordered ordered'
  have sameKey : a.1 = b.1 := String.le_antisymm below above
  exact List.inj_on_of_nodup_map keys mem (perm.mem_iff.mpr mem') sameKey

/-- Sorting by key identifies exactly the permutations. -/
theorem insertionSort_eq_iff {fields fields' : List (String × Json)}
    (keys : (fields.map Prod.fst).Nodup) :
    (fields.insertionSort fun a b => a.1 ≤ b.1) =
      (fields'.insertionSort fun a b => a.1 ≤ b.1) ↔
      fields.Perm fields' := by
  let byKey : String × Json → String × Json → Prop := fun a b => a.1 ≤ b.1
  have total : Std.Total byKey := ⟨fun a b => String.le_total a.1 b.1⟩
  have trans : IsTrans (String × Json) byKey := ⟨fun _ _ _ => String.le_trans⟩
  have perm := List.perm_insertionSort byKey fields
  have perm' := List.perm_insertionSort byKey fields'
  constructor
  · intro equal
    exact perm.symm.trans ((List.Perm.of_eq equal).trans perm')
  · intro permuted
    refine eq_of_perm_of_keys ?_ (perm.trans (permuted.trans perm'.symm))
      (List.pairwise_insertionSort byKey fields) (List.pairwise_insertionSort byKey fields')
    exact (perm.map Prod.fst).nodup_iff.mpr keys

/-- Lists of the same length without repetition are permutations when one contains the other. -/
theorem perm_iff_subset {fields fields' : List (String × Json)}
    (keys : (fields.map Prod.fst).Nodup) :
    fields.Perm fields' ↔ fields.length = fields'.length ∧ fields ⊆ fields' := by
  constructor
  · intro perm
    exact ⟨perm.length_eq, perm.subset⟩
  · rintro ⟨lengths, subset⟩
    have nodup : fields.Nodup := List.Nodup.of_map _ keys
    exact (List.subperm_of_subset nodup subset).perm_of_length_le lengths.ge

mutual

/-- **Sorting the keys at every level makes exactly the equal values identical.** -/
theorem sorted_eq_iff : ∀ (value value' : Json), Distinct value → Distinct value' →
    (sorted value = sorted value' ↔ same value value')
  | .arr items, .arr items', distinct, distinct' => by
      rw [sorted, sorted, Json.arr.injEq, same]
      exact sortedItems_eq_iff items items' distinct distinct'
  | .obj fields, .obj fields', distinct, distinct' => by
      have keys : ((sortedFields fields).map Prod.fst).Nodup := by
        rw [keys_sortedFields]
        exact distinct.1
      have lengths : ∀ fields : List (String × Json),
          (sortedFields fields).length = fields.length := by
        intro fields
        rw [sortedFields_eq, List.length_map]
      rw [sorted, sorted, Json.obj.injEq, same, insertionSort_eq_iff keys,
        perm_iff_subset keys, lengths,
        lengths, sortedFields_subset_iff fields fields' distinct.2
        (distinctFields_iff.mp distinct'.2)]
  | .null, value', _, _ => by cases value' <;> simp [sorted, same]
  | .bool value, value', _, _ => by cases value' <;> simp [sorted, same]
  | .int value, value', _, _ => by cases value' <;> simp [sorted, same]
  | .str value, value', _, _ => by cases value' <;> simp [sorted, same]
  | .arr items, .null, _, _ | .arr items, .bool _, _, _ | .arr items, .int _, _, _
  | .arr items, .str _, _, _ | .arr items, .obj _, _, _ => by simp [sorted, same]
  | .obj fields, .null, _, _ | .obj fields, .bool _, _, _ | .obj fields, .int _, _, _
  | .obj fields, .str _, _, _ | .obj fields, .arr _, _, _ => by simp [sorted, same]

theorem sortedItems_eq_iff : ∀ (items items' : List Json), DistinctItems items →
  DistinctItems items' →
    (sortedItems items = sortedItems items' ↔ sameItems items items')
  | [], [], _, _ => by simp [sortedItems, sameItems]
  | [], _ :: _, _, _ => by simp [sortedItems, sameItems]
  | _ :: _, [], _, _ => by simp [sortedItems, sameItems]
  | item :: items, item' :: items', distinct, distinct' => by
      rw [sortedItems, sortedItems, sameItems, List.cons.injEq,
        sorted_eq_iff item item' distinct.1 distinct'.1,
        sortedItems_eq_iff items items' distinct.2 distinct'.2]

theorem sortedFields_subset_iff : ∀ (fields others : List (String × Json)),
    DistinctFields fields →
    (∀ field ∈ others, Distinct field.2) →
    (sortedFields fields ⊆ sortedFields others ↔ sameFields fields others)
  | [], others, _, _ => by simp [sortedFields, sameFields]
  | (key, value) :: fields, others, distinct, distinct' => by
      have first : (key, sorted value) ∈ sortedFields others ↔
          ∃ value', (key, value') ∈ others ∧ same value value' := by
        rw [mem_sortedFields]
        refine exists_congr fun value' => and_congr_right fun mem => ?_
        rw [eq_comm]
        exact sorted_eq_iff value value' distinct.1 (distinct' _ mem)
      rw [sortedFields, sameFields, List.cons_subset, first,
        sortedFields_subset_iff fields others distinct.2 distinct']

end

/-- The text of a value tells it up to the order of fields. -/
theorem dumps_eq_iff {value value' : Json} (distinct : Distinct value)
    (distinct' : Distinct value') :
    dumps value = dumps value' ↔ same value value' := by
  rw [dumps_inj, sorted_eq_iff value value' distinct distinct']

end Json

/-! ## Keyword arguments -/

/-- No object of a dump has two fields under one key. -/
def KeywordArgument.Distinct : KeywordArgument → Prop
  | .dto dump => dump.Distinct
  | .primitive value => value.Distinct
  | .dependency => True

/-- The keyword arguments of a call: each name is there once. -/
structure KeywordArguments where
  entries : List (String × KeywordArgument)
  names_nodup : (entries.map Prod.fst).Nodup
  distinct : ∀ entry ∈ entries, entry.2.Distinct

/-- What one argument adds to the payload. -/
def businessField (keyName : String) : String × KeywordArgument → Option (String × Json)
  | (key, value) =>
      if key = keyName then none
      else
        match value with
        | .dto dump => some (key, dump)
        | .primitive value => some (key, value)
        | .dependency => none

theorem extractBusinessPayload_eq (kwargs : List (String × KeywordArgument)) (keyName : String) :
    extractBusinessPayload kwargs keyName =
      if (kwargs.filterMap (businessField keyName)).isEmpty then none
      else some (kwargs.filterMap (businessField keyName)) := rfl

/-- A field of the payload has the name of its argument, and its value. -/
theorem businessField_inv {keyName : String} {entry : String × KeywordArgument}
    {field : String × Json} (adds : businessField keyName entry = some field) :
    field.1 = entry.1 ∧ (entry.2 = .dto field.2 ∨ entry.2 = .primitive field.2) := by
  obtain ⟨key, value⟩ := entry
  simp only [businessField] at adds
  split_ifs at adds
  cases value with
  | dto dump =>
      cases adds
      exact ⟨rfl, .inl rfl⟩
  | primitive value =>
      cases adds
      exact ⟨rfl, .inr rfl⟩
  | dependency => cases adds

/-- The fields of a payload; there are none where nothing was extracted. -/
def payloadFields (payload : Option JsonObject) : JsonObject := payload.getD []

theorem payloadFields_extract (kwargs : List (String × KeywordArgument)) (keyName : String) :
    payloadFields (extractBusinessPayload kwargs keyName) = kwargs.filterMap
      (businessField keyName) := by
  rw [extractBusinessPayload_eq]
  split
  · rename_i empty
    exact (List.isEmpty_iff.mp empty).symm
  · rfl

/-- The payload is a JSON object with distinct keys, at every level. -/
theorem distinct_payload (kwargs : KeywordArguments) (keyName : String) :
    Json.Distinct (.obj (payloadFields (extractBusinessPayload kwargs.entries keyName))) := by
  rw [payloadFields_extract, Json.Distinct]
  constructor
  · rw [List.Nodup, List.pairwise_map, List.pairwise_filterMap]
    refine (List.pairwise_map.mp kwargs.names_nodup).imp ?_
    intro entry entry' apart field adds field' adds'
    rw [(businessField_inv adds).1, (businessField_inv adds').1]
    exact apart
  · rw [Json.distinctFields_iff]
    intro field mem
    obtain ⟨entry, passed, adds⟩ := List.mem_filterMap.mp mem
    have distinct := kwargs.distinct entry passed
    rcases (businessField_inv adds).2 with dto | primitive
    · rw [dto] at distinct
      exact distinct
    · rw [primitive] at distinct
      exact distinct

/-- Nothing but an empty payload is extracted as `None`. -/
theorem extract_eq_none {kwargs : List (String × KeywordArgument)} {keyName : String}
    (empty : payloadFields (extractBusinessPayload kwargs keyName) = []) :
    extractBusinessPayload kwargs keyName = none := by
  rw [payloadFields_extract] at empty
  rw [extractBusinessPayload_eq, empty]
  rfl

/-! ## What is hashed -/

/-- What `_hash_payload` feeds to SHA-256: the hash of a service whose digest of a text is that
text. -/
def digestInput (payload : Option JsonObject) : ByteArray :=
  (IdempotencyService.hashPayload ⟨0, 0, id⟩ payload).toUTF8

/-- The hash of a payload is the digest of a text whose bytes are `digestInput`. -/
theorem hashPayload_eq (service : IdempotencyService) (payload : Option JsonObject) :
    ∃ text, service.hashPayload payload = service.sha256 text ∧
      text.toUTF8 = digestInput payload := by
  refine ⟨IdempotencyService.hashPayload ⟨0, 0, id⟩ payload, ?_, rfl⟩
  unfold IdempotencyService.hashPayload
  split <;> rfl

/-- The text of a payload that has fields. -/
theorem hashPayload_fields {payload : Option JsonObject} (fields : payloadFields payload ≠ []) :
    IdempotencyService.hashPayload ⟨0, 0, id⟩ payload =
      (Json.obj (payloadFields payload)).dumps := by
  unfold IdempotencyService.hashPayload
  split
  · exact absurd rfl fields
  · exact absurd rfl fields
  · rfl

/-- The text of an empty one. -/
theorem hashPayload_empty {payload : Option JsonObject} (empty : payloadFields payload = []) :
    IdempotencyService.hashPayload ⟨0, 0, id⟩ payload = "" := by
  unfold IdempotencyService.hashPayload
  split
  · rfl
  · rfl
  · rename_i fields filled
    exact absurd empty filled

/-- The text of an object is not empty. -/
theorem dumps_obj_ne_empty (fields : JsonObject) : (Json.obj fields).dumps ≠ "" := by
  intro empty
  have texts := congrArg String.toList empty
  rw [Json.dumps, String.toList_append, String.toList_append] at texts
  cases texts

/-- Of two equal objects both have fields or none. -/
theorem eq_nil_iff_of_same {fields fields' : JsonObject}
    (same : Json.same (.obj fields) (.obj fields')) :
    fields = [] ↔ fields' = [] := by
  rw [Json.same] at same
  rw [← List.length_eq_zero_iff, ← List.length_eq_zero_iff, same.1]

/-- Two payloads have the same text exactly when they are equal as JSON values. -/
theorem digestInput_eq_iff {payload payload' : Option JsonObject}
    (distinct : Json.Distinct (.obj (payloadFields payload)))
    (distinct' : Json.Distinct (.obj (payloadFields payload'))) :
    digestInput payload = digestInput payload' ↔
      Json.same (.obj (payloadFields payload)) (.obj (payloadFields payload')) := by
  unfold digestInput
  rw [String.toUTF8_eq_toByteArray, String.toUTF8_eq_toByteArray, String.toByteArray_inj]
  by_cases empty : payloadFields payload = []
  · rw [hashPayload_empty empty]
    by_cases empty' : payloadFields payload' = []
    · rw [hashPayload_empty empty', ← Json.dumps_eq_iff distinct distinct', empty, empty']
      exact ⟨fun _ => rfl, fun _ => rfl⟩
    · rw [hashPayload_fields empty']
      constructor
      · intro same
        exact absurd same.symm (dumps_obj_ne_empty _)
      · intro same
        exact absurd ((eq_nil_iff_of_same same).mp empty) empty'
  · rw [hashPayload_fields empty]
    by_cases empty' : payloadFields payload' = []
    · rw [hashPayload_empty empty']
      constructor
      · intro same
        exact absurd same (dumps_obj_ne_empty _)
      · intro same
        exact absurd ((eq_nil_iff_of_same same).mpr empty') empty
    · rw [hashPayload_fields empty', Json.dumps_eq_iff distinct distinct']

/-- **The fingerprint is canonical**: the hash of a call is the digest of a text; the bytes of that
text are the same for two calls exactly when the extracted payloads are equal as JSON values, and
those of a payload with no fields are the same as those of no payload only. -/
theorem fingerprint_canonical (kwargs kwargs' : KeywordArguments) (keyName keyName' : String) :
    let payload := extractBusinessPayload kwargs.entries keyName
    let payload' := extractBusinessPayload kwargs'.entries keyName'
    (digestInput payload = digestInput payload' ↔
        Json.same (.obj (payloadFields payload)) (.obj (payloadFields payload'))) ∧
      (digestInput payload = digestInput none ↔ payload = none) ∧
      ∀ service : IdempotencyService, ∃ text,
        service.hashPayload payload = service.sha256 text ∧
            text.toUTF8 = digestInput payload := by
  intro payload payload'
  have canonical := digestInput_eq_iff (distinct_payload kwargs keyName)
    (distinct_payload kwargs' keyName')
  refine ⟨canonical, ?_, fun service => hashPayload_eq service payload⟩
  constructor
  · intro same
    have none_distinct : Json.Distinct (.obj (payloadFields none)) := by
      rw [Json.Distinct, Json.distinctFields_iff]
      exact ⟨.nil, nofun⟩
    have equal := (digestInput_eq_iff (distinct_payload kwargs keyName) none_distinct).mp same
    exact extract_eq_none ((eq_nil_iff_of_same equal).mpr rfl)
  · intro absent
    rw [absent]

end TicketCore
