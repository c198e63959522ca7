import SeedVault.Json.Shape
import SeedVault.Proofs.Attempt

/-!
# Values of a shape

What is read as a value of a shape has that shape (`Shape.holds_of_read`). A record has every field
that must be there, and no field that the shape does not name, whether it is written by name or in
order. The functions that read a value, the items of a list and the fields of a record call each
other with less fuel, so the induction is on the fuel and carries all of them (`Shape.Sound`).
-/

namespace SeedVault.Json

/-- What is looked up is in the list. -/
lemma mem_of_lookup {α : Type} {k : String} {v : α} {es : List (String × α)}
    (h : es.lookup k = some v) : (k, v) ∈ es := by
  obtain ⟨before, behind, rfl, _⟩ := List.lookup_eq_some_iff.1 h
  exact List.mem_append_right _ List.mem_cons_self

namespace Shape

mutual

/-- The values of a shape. -/
inductive Holds : Shape → Json → Prop
  | any (v) : Holds .any v
  | text (s) : Holds .text (.string s)
  | null : Holds .optionalText .null
  | optionalText (s) : Holds .optionalText (.string s)
  | list {item items} (each : ∀ v ∈ items, Holds item v) : Holds (.list item) (.array items)
  | record {name fields found} (each : ∀ e ∈ found, FieldOf fields e)
      (complete : ∀ f ∈ fields, f.2.2 = true → isFound f.1 found = true) :
      Holds (.record name fields) (ofFields found)

/-- A field that is found is one of those of a record, and has its shape. -/
inductive FieldOf : List (String × Shape × Bool) → String × Json → Prop
  | intro {fields name s required v} (named : (name, s, required) ∈ fields) (holds : Holds s v) :
      FieldOf fields (name, v)

end

/-- What is found of a record is all of it. -/
structure RecordOf (fields : List (String × Shape × Bool)) (found : List (String × Json)) :
    Prop where
  each : ∀ e ∈ found, FieldOf fields e
  complete : ∀ f ∈ fields, f.2.2 = true → isFound f.1 found = true

/-- With so much fuel what is read has the shape. -/
structure Sound (fuel : Nat) : Prop where
  value : ∀ {depth s cs v rest}, readFrom fuel depth s cs = .ok (v, rest) → s.Holds v
  items : ∀ {depth item index cs vs rest},
    readItems fuel depth item index cs = .ok (vs, rest) → ∀ v ∈ vs, item.Holds v
  inOrder : ∀ {depth whole fields index cs found rest},
    readInOrder fuel depth whole fields index cs = .ok (found, rest) → RecordOf fields found
  fields : ∀ {depth fields found first cs all rest}, (∀ e ∈ found, FieldOf fields e) →
    readFields fuel depth fields found first cs = .ok (all, rest) → RecordOf fields all

/-- What is rejected is not read. -/
lemma reject_ne_ok {α : Type} (s : Shape) (cs) (a : α × List Char) : s.reject cs ≠ .ok a := by
  intro h
  rw [reject] at h
  split at h
  · cases h
  · dsimp only at h
    split at h
    · cases h
    · split at h
      · cases h
      · split at h <;> cases h

/-- A word that is read has its own value. -/
lemma readIdent_value {letters v cs w rest} (h : readIdent letters v cs = .ok (w, rest)) :
    w = v := by
  fun_induction readIdent letters v cs with
  | case1 =>
    cases h
    rfl
  | case2 => cases h
  | case3 letters l cs ih => exact ih h
  | case4 => cases h

/-- A field has been found if it is the last one found or one before. -/
lemma isFound_cons {name k v found} :
    isFound name ((k, v) :: found) = true ↔ name = k ∨ isFound name found = true := by
  rw [isFound, isFound, List.lookup_cons]
  by_cases same : name = k
  · simp [same]
  · rw [beq_false_of_ne same]
    simp [same]

variable {fuel : Nat}

/-- With one step more, a value that is read has the shape that was wanted. -/
lemma Sound.value_succ (h : Sound fuel) {depth s cs v rest}
    (read : readFrom (fuel + 1) depth s cs = .ok (v, rest)) : s.Holds v := by
  -- one case for each shape, in the order of the reader
  rw [readFrom.eq_def] at read
  dsimp only at read
  split at read
  case h_1 => exact .any v
  case h_2 =>
    obtain ⟨⟨t, _⟩, _, done⟩ := Attempt.ok_bind_iff.1 (Attempt.ok_mapError_iff.1 read)
    cases done
    exact .text t
  case h_3 =>
    rw [readIdent_value (Attempt.ok_mapError_iff.1 read)]
    exact .null
  case h_4 =>
    cases h.value read
    exact .optionalText _
  case h_5 =>
    split at read
    · cases read
    · obtain ⟨⟨items, _⟩, list, done⟩ := Attempt.ok_bind_iff.1 read
      cases done
      exact .list (h.items list)
  case h_6 =>
    split at read
    · exact absurd read (reject_ne_ok _ _ _)
    · split at read
      · cases read
      · split at read
        · obtain ⟨⟨found, _⟩, fields, done⟩ := Attempt.ok_bind_iff.1 read
          cases done
          obtain ⟨each, complete⟩ := h.inOrder fields
          exact .record each complete
        · obtain ⟨⟨found, _⟩, fields, done⟩ := Attempt.ok_bind_iff.1 read
          cases done
          obtain ⟨each, complete⟩ := h.fields (by simp) fields
          exact .record each complete
  case h_7 => exact absurd read (reject_ne_ok _ _ _)

/-- With one step more, all items that are read have the shape that was wanted. -/
lemma Sound.items_succ (h : Sound fuel) {depth item index cs vs rest}
    (read : readItems (fuel + 1) depth item index cs = .ok (vs, rest)) :
    ∀ v ∈ vs, item.Holds v := by
  rw [readItems.eq_def] at read
  obtain ⟨⟨more, cs'⟩, _, read⟩ := Attempt.ok_bind_iff.1 read
  cases more with
  | false =>
    cases read
    simp
  | true =>
    obtain ⟨⟨v, _⟩, first, read⟩ := Attempt.ok_bind_iff.1 read
    obtain ⟨⟨vs, _⟩, others, done⟩ := Attempt.ok_bind_iff.1 read
    cases done
    have holds := h.value (Attempt.ok_mapError_iff.1 first)
    exact List.forall_mem_cons.2 ⟨holds, h.items others⟩

/-- A field in front of those of the others. -/
lemma RecordOf.cons {name s required others v found} (holds : Holds s v)
    (h : RecordOf others found) :
    RecordOf ((name, s, required) :: others) ((name, v) :: found) := by
  refine ⟨List.forall_mem_cons.2 ⟨.intro List.mem_cons_self holds, fun e mem => ?_⟩, ?_⟩
  · cases h.each e mem with
    | intro named holds => exact .intro (List.mem_cons_of_mem _ named) holds
  · intro f mem needed
    rw [isFound_cons]
    cases mem with
    | head => exact .inl rfl
    | tail _ mem => exact .inr (h.complete f mem needed)

/-- A field that may be missing and is. -/
lemma RecordOf.skip {name s others found} (h : RecordOf others found) :
    RecordOf ((name, s, false) :: others) found := by
  refine ⟨fun e mem => ?_, fun f mem needed => ?_⟩
  · cases h.each e mem with
    | intro named holds => exact .intro (List.mem_cons_of_mem _ named) holds
  · cases mem with
    | head => cases needed
    | tail _ mem => exact h.complete f mem needed

/-- With one step more, fields that are read in their order make a record. -/
lemma Sound.inOrder_succ (h : Sound fuel) {depth whole fields index cs found rest}
    (read : readInOrder (fuel + 1) depth whole fields index cs = .ok (found, rest)) :
    RecordOf fields found := by
  rw [readInOrder.eq_def] at read
  cases fields with
  | nil =>
    dsimp only at read
    have none : found = [] := by
      split at read
      · cases read
      · cases read
        rfl
      · split at read <;> cases read
      · cases read
    subst none
    exact ⟨by simp, by simp⟩
  | cons field others =>
    obtain ⟨name, shape, required⟩ := field
    obtain ⟨⟨more, cs'⟩, _, read⟩ := Attempt.ok_bind_iff.1 read
    cases more with
    | true =>
      obtain ⟨⟨v, _⟩, first, read⟩ := Attempt.ok_bind_iff.1 read
      obtain ⟨⟨vs, _⟩, rest, done⟩ := Attempt.ok_bind_iff.1 read
      cases done
      exact (h.inOrder rest).cons (h.value (Attempt.ok_mapError_iff.1 first))
    | false =>
      cases required with
      | true => cases read
      | false => exact (h.inOrder read).skip

/-- With one step more, fields that are read by their names make a record. -/
lemma Sound.fields_succ (h : Sound fuel) {depth fields found first cs all rest}
    (each : ∀ e ∈ found, FieldOf fields e)
    (read : readFields (fuel + 1) depth fields found first cs = .ok (all, rest)) :
    RecordOf fields all := by
  rw [readFields.eq_def] at read
  obtain ⟨⟨name?, cs'⟩, _, read⟩ := Attempt.ok_bind_iff.1 read
  cases name? with
  | none =>
    dsimp only at read
    split at read
    case h_1 => cases read
    case h_2 missing =>
      cases read
      refine ⟨each, fun f mem needed => ?_⟩
      have present := List.find?_eq_none.1 missing f mem
      rw [Bool.and_eq_true, not_and, Bool.not_eq_true', Bool.not_eq_false] at present
      exact present needed
  | some name =>
    dsimp only at read
    split at read
    case h_1 =>
      -- a field that the shape does not name is skipped
      obtain ⟨_, _, read⟩ := Attempt.ok_bind_iff.1 read
      obtain ⟨_, _, read⟩ := Attempt.ok_bind_iff.1 read
      exact h.fields each read
    case h_2 shape required known =>
      split at read
      · cases read
      · obtain ⟨_, _, read⟩ := Attempt.ok_bind_iff.1 read
        obtain ⟨⟨v, _⟩, value, read⟩ := Attempt.ok_bind_iff.1 read
        have holds := h.value (Attempt.ok_mapError_iff.1 value)
        exact h.fields (List.forall_mem_cons.2 ⟨.intro (mem_of_lookup known) holds, each⟩) read

/-- The run: what is read has the shape, whatever the fuel. -/
lemma sound (fuel) : Sound fuel := by
  induction fuel with
  | zero =>
    refine ⟨fun h => ?_, fun h => ?_, fun h => ?_, fun _ h => ?_⟩
    · rw [readFrom.eq_def] at h
      cases h
    · rw [readItems.eq_def] at h
      cases h
    · rw [readInOrder.eq_def] at h
      cases h
    · rw [readFields.eq_def] at h
      cases h
  | succ fuel ih => exact ⟨ih.value_succ, ih.items_succ, ih.inOrder_succ, ih.fields_succ⟩

/-- What is read has the shape that was wanted. -/
lemma holds_of_read {s : Shape} {cs v rest} (h : s.read cs = .ok (v, rest)) : s.Holds v :=
  (sound _).value h

end Shape

/-- The first entry is found if it has the name. -/
lemma lookup_cons_if {α : Type} (n k : String) (v : α) (es) :
    ((n, v) :: es).lookup k = if k = n then some v else es.lookup k := by
  by_cases same : k = n
  · rw [same, List.lookup_cons_self, if_pos rfl]
  · rw [List.lookup_cons, beq_false_of_ne same, if_neg same]

/-- An inserted field is found in place of any former one of its name. -/
lemma lookup_insertField (name : String) (v : Json) (k fields) :
    (insertField name v fields).lookup k = if k = name then some v else fields.lookup k := by
  fun_induction insertField name v fields with
  | case1 => exact lookup_cons_if name k v []
  | case2 n w rest before => exact lookup_cons_if name k v _
  | case3 w rest =>
    rw [lookup_cons_if, lookup_cons_if]
    by_cases same : k = name
    · rw [if_pos same, if_pos same]
    · rw [if_neg same, if_neg same, if_neg same]
  | case4 n w rest behind other ih =>
    rw [lookup_cons_if, lookup_cons_if, ih]
    by_cases same : k = name
    · rw [if_neg (same ▸ other), if_pos same, if_pos same]
    · rw [if_neg same, if_neg same]

/-- Of the fields with one name an object has the last. -/
lemma field?_ofFields (k fields) : (ofFields fields).field? k = fields.reverse.lookup k := by
  have grown : ∀ sorted : List (String × Json),
      (fields.foldl (fun sorted e => insertField e.1 e.2 sorted) sorted).lookup k =
        (fields.reverse.lookup k).or (sorted.lookup k) := by
    induction fields with
    | nil => exact fun sorted => rfl
    | cons e fields ih =>
      intro sorted
      rw [List.foldl_cons, ih, List.reverse_cons, List.lookup_append, lookup_insertField,
        lookup_cons_if, Option.or_assoc]
      by_cases same : k = e.1
      · rw [if_pos same, if_pos same]
        rfl
      · rw [if_neg same, if_neg same]
        rfl
  exact (grown []).trans Option.or_none

namespace Shape

variable {name : String} {fields : List (String × Shape × Bool)} {v : Json}

/-- A field of a record is one the shape names, and has its shape. -/
lemma Holds.fieldOf (h : Holds (.record name fields) v) {k w} (field : v.field? k = some w) :
    FieldOf fields (k, w) := by
  cases h with
  | record each _ =>
    rw [field?_ofFields] at field
    exact each _ (List.mem_reverse.1 (mem_of_lookup field))

/-- A field that must be there is. -/
lemma Holds.exists_field (h : Holds (.record name fields) v) {k s}
    (needed : (k, s, true) ∈ fields) : ∃ w, v.field? k = some w := by
  cases h with
  | record _ complete =>
    obtain ⟨e, mem, named⟩ := List.lookup_isSome_iff.1 (complete _ needed rfl)
    rw [field?_ofFields, ← Option.isSome_iff_exists, List.lookup_isSome_iff]
    exact ⟨e, List.mem_reverse.2 mem, named⟩

end Shape

end SeedVault.Json
