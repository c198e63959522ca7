import Mathlib.Data.List.Nodup
import SeedVault.Toml.Record

/-!
# Records as overridden defaults

A record is read from a table key by key. If its fields do not touch each other (`Members`), the
order of the keys does not matter: the record is read if the entries are fine (it may have the keys
that are there, none of its own comes twice, nothing else has a fault) and each field reads its own
(`Members.exists_readEntries`); then each field has what its key says, or else what it had before
(`Members.taken_of_readEntries`). Fields may be records themselves, so what a document says of a
record is said of the settings at the leaves (`Overrides`); that passes from the fields of a record
to the record (`Members.record`).

A table lists a key twice if keys with points in them made one part of what it names and headers
made another. A path of keys leads to all that is listed under it (`Value.Has`).
-/

namespace SeedVault.Toml

namespace Value

/-- Is the value a table? -/
def isTable : Value → Bool
  | table _ _ _ => true
  | dotted _ _ => true
  | _ => false

/-- The entries of a table. -/
def entries : Value → List (String × Value)
  | table es _ _ => es
  | dotted es _ => es
  | _ => []

/-- The fault that ends a table. -/
def fault? : Value → Option ReadError
  | table _ fault _ => fault
  | _ => none

/-- The keys of a table, each as often as it is listed. -/
def keys (v : Value) : List String := v.entries.map Prod.fst

/-- The keys of a path lead from the first value to the second, each in the table behind the one
before it. -/
def Has : Value → List String → Value → Prop
  | v, [], w => w = v
  | v, name :: path, w => ∃ x, (name, x) ∈ v.entries ∧ x.Has path w

/-- One key leads to what is listed under it. -/
lemma has_singleton_iff {v w : Value} {name : String} :
    v.Has [name] w ↔ (name, w) ∈ v.entries := by
  simp [Has]

/-- The keys of a table are those under which it lists something. -/
lemma mem_keys_iff {v : Value} {name : String} :
    name ∈ v.keys ↔ ∃ w, (name, w) ∈ v.entries := by
  simp [keys]

/-- Entries have no fault if none of their values has one. -/
lemma innerFaultOfEntries?_eq_none_iff {es : List (String × Value)} :
    innerFaultOfEntries? es = none ↔ ∀ e ∈ es, e.2.innerFault? = none := by
  induction es with
  | nil => simp [innerFaultOfEntries?]
  | cons e es ih =>
    obtain ⟨name, v⟩ := e
    rw [innerFaultOfEntries?, List.forall_mem_cons, ← ih]
    cases v.innerFault? <;> simp

/-- A table has no fault within if nothing in it has one and none ends it. -/
lemma innerFault?_eq_none_iff {v : Value} (table : v.isTable = true) :
    v.innerFault? = none ↔ (∀ e ∈ v.entries, e.2.innerFault? = none) ∧ v.fault? = none := by
  cases v with
  | table es fault start =>
    rw [innerFault?, entries, ← innerFaultOfEntries?_eq_none_iff, fault?]
    cases innerFaultOfEntries? es <;> simp
  | dotted es start =>
    rw [innerFault?, entries, ← innerFaultOfEntries?_eq_none_iff]
    exact (and_iff_left rfl).symm
  | integer | float | bool | text | date | array => cases table

end Value

/-- A leaf of a record: where in a document its value is, how that is read, and where it is kept. -/
structure Setting (α : Type) where
  {β : Type}
  path : List String
  read : Value → Option β
  get : α → β

namespace Setting

variable {α γ : Type}

/-- All that a document lists for a setting is read. -/
def Accepts (s : Setting α) (v : Value) : Prop :=
  ∀ w, v.Has s.path w → (s.read w).isSome = true

/-- A setting is what a document says, or what it is by default if the document says nothing. -/
def Holds (s : Setting α) (v : Value) (defaults r : α) : Prop :=
  (∀ w, v.Has s.path w → s.read w = some (s.get r)) ∧
    ((∀ w, ¬ v.Has s.path w) → s.get r = s.get defaults)

/-- Two documents list the same for a setting. -/
def Agrees (s : Setting α) (v v' : Value) : Prop :=
  ∀ x, (∃ w, v'.Has s.path w ∧ s.read w = x) ↔ ∃ w, v.Has s.path w ∧ s.read w = x

/-- What holds of a setting is one that is accepted. -/
lemma Holds.accepts {s : Setting α} {v : Value} {defaults r : α} (h : s.Holds v defaults r) :
    s.Accepts v := by
  intro w there
  rw [h.1 w there]
  rfl

/-- A document sets a setting in one way at most. -/
lemma Holds.unique {s : Setting α} {v : Value} {defaults r r' : α} (h : s.Holds v defaults r)
    (h' : s.Holds v defaults r') : s.get r = s.get r' := by
  by_cases there : ∃ w, v.Has s.path w
  · obtain ⟨w, there⟩ := there
    exact Option.some.inj ((h.1 w there).symm.trans (h'.1 w there))
  · have absent : ∀ w, ¬ v.Has s.path w := not_exists.1 there
    exact (h.2 absent).trans (h'.2 absent).symm

section Agrees

variable {s : Setting α} {v v' : Value}

/-- What is read of all that is listed is the same in documents that agree. -/
lemma Agrees.forall_iff (h : s.Agrees v v') (p : Option s.β → Prop) :
    (∀ w, v'.Has s.path w → p (s.read w)) ↔ ∀ w, v.Has s.path w → p (s.read w) := by
  constructor
  · intro all w there
    obtain ⟨w', there', same⟩ := (h _).2 ⟨w, there, rfl⟩
    exact same ▸ all w' there'
  · intro all w there
    obtain ⟨w', there', same⟩ := (h _).1 ⟨w, there, rfl⟩
    exact same ▸ all w' there'

/-- Only what is read of a document matters for what it says of a setting. -/
lemma Agrees.holds_iff (h : s.Agrees v v') {defaults r : α} :
    s.Holds v' defaults r ↔ s.Holds v defaults r := by
  have absent : (∀ w, ¬ v'.Has s.path w) ↔ ∀ w, ¬ v.Has s.path w := h.forall_iff fun _ => False
  rw [Holds, Holds, h.forall_iff (· = some (s.get r)), absent]

end Agrees

/-- A setting of a field as one of the record around. -/
def under (name : String) (get : γ → α) (s : Setting α) : Setting γ :=
  ⟨name :: s.path, s.read, fun r => s.get (get r)⟩

end Setting

section Under

variable {α γ : Type} {name : String} {get : γ → α} {s : Setting α} {v : Value}

/-- A setting of a field is accepted if it is in each value of the field. -/
lemma Setting.accepts_under_iff :
    (s.under name get).Accepts v ↔ ∀ w, (name, w) ∈ v.entries → s.Accepts w := by
  constructor
  · exact fun accepts w listed x there => accepts x ⟨w, listed, there⟩
  · rintro accepts x ⟨w, listed, there⟩
    exact accepts w listed x there

/-- What the values of a field say of its settings is what the table around says of them. -/
lemma Setting.holds_under {defaults r : γ}
    (present : ∀ w, (name, w) ∈ v.entries → s.Holds w (get defaults) (get r))
    (absent : name ∉ v.keys → get r = get defaults) : (s.under name get).Holds v defaults r := by
  constructor
  · rintro x ⟨w, listed, there⟩
    exact (present w listed).1 x there
  · intro silent
    by_cases key : name ∈ v.keys
    · obtain ⟨w, listed⟩ := Value.mem_keys_iff.1 key
      exact (present w listed).2 fun x there => silent x ⟨w, listed, there⟩
    · exact congrArg s.get (absent key)

end Under

/-- Values that `fit` are read as records that override defaults: if they have no fault, `known`
says which keys may be there, and the settings are what they say. -/
structure Overrides {α : Type} (read : Nat → Value → Except Misfit α) (defaults : α)
    (fit known : Value → Prop) (settings : List (Setting α)) : Prop where
  ok_iff : ∀ {around v}, fit v → ((∃ r, read around v = .ok r) ↔
    v.innerFault? = none ∧ known v ∧ ∀ s ∈ settings, s.Accepts v)
  holds : ∀ {around v r}, fit v → read around v = .ok r → ∀ s ∈ settings, s.Holds v defaults r

/-- A value that is no record is one setting. -/
lemma Overrides.leaf {β : Type} {reads : Nat → Value → Except Misfit β} {read : Value → Option β}
    (same : ∀ around v, (reads around v).toOption = read v)
    (plain : ∀ v, (read v).isSome = true → v.innerFault? = none) (defaults : β) :
    Overrides reads defaults (fun _ => True) (fun _ => True) [⟨[], read, fun b => b⟩] := by
  have value {around v r} (told : reads around v = .ok r) : read v = some r := by
    rw [← same around, told]
    rfl
  constructor
  · intro around v _
    rw [true_and, List.forall_mem_singleton]
    constructor
    · rintro ⟨r, told⟩
      have isSome : (read v).isSome = true := by
        rw [value told]
        rfl
      refine ⟨plain v isSome, ?_⟩
      rintro w rfl
      exact isSome
    · rintro ⟨_, accepts⟩
      have isSome : (read v).isSome = true := accepts v rfl
      rw [← same around] at isSome
      cases told : reads around v with
      | ok r => exact ⟨r, rfl⟩
      | error m =>
        rw [told] at isSome
        cases isSome
  · intro around v r _ told s mem
    obtain rfl := List.mem_singleton.1 mem
    constructor
    · rintro w rfl
      exact value told
    · exact fun silent => absurd rfl (silent v)

/-- A field of a record with what is said of it: how its value is read, and where it is kept. -/
structure Member (α : Type) where
  {β : Type}
  name : String
  reads : Nat → Value → Except Misfit β
  get : α → β
  set : β → α → α
  defaults : β
  fit : Value → Prop := fun _ => True
  known : Value → Prop := fun _ => True
  settings : List (Setting β)

/-- The field of a member. -/
def Member.field {α : Type} (m : Member α) : RecordField α where
  name := m.name
  override around v r := (m.reads around v).map (m.set · r)

/-- The fields of a kind of record, none of which touches another one. -/
structure Members {α : Type} (k : RecordKind α) (ms : List (Member α)) : Prop where
  fields : k.fields = ms.map Member.field
  names : (ms.map Member.name).Nodup
  get_set : ∀ m ∈ ms, ∀ b r, m.get (m.set b r) = b
  get_set_of_ne : ∀ m ∈ ms, ∀ m' ∈ ms, m.name ≠ m'.name → ∀ b r, m'.get (m.set b r) = m'.get r
  overrides : ∀ m ∈ ms, Overrides m.reads m.defaults m.fit m.known m.settings

namespace Members

variable {α : Type} {k : RecordKind α} {ms : List (Member α)}

/-- A key that no member has is no field. -/
lemma field?_of_notMem (h : Members k ms) {name : String} (absent : name ∉ ms.map Member.name) :
    k.field? name = none := by
  rw [RecordKind.field?, h.fields, List.find?_eq_none]
  intro f mem same
  obtain ⟨m, listed, rfl⟩ := List.mem_map.1 mem
  exact absent (List.mem_map.2 ⟨m, listed, eq_of_beq same⟩)

/-- The key of a member is its field. -/
lemma field?_of_mem (h : Members k ms) {m : Member α} (mem : m ∈ ms) :
    k.field? m.name = some m.field := by
  have nodup := h.names
  rw [RecordKind.field?, h.fields]
  clear h
  induction ms with
  | nil => cases mem
  | cons m' others ih =>
    obtain ⟨fresh, nodup⟩ := List.nodup_cons.1 nodup
    rw [List.map_cons]
    rcases List.mem_cons.1 mem with rfl | mem
    · exact List.find?_cons_of_pos (beq_self_eq_true m.name)
    · have other : (m'.field.name == m.name) = false := by
        refine beq_false_of_ne fun same => fresh ?_
        exact List.mem_map.2 ⟨m, mem, same.symm⟩
      rw [List.find?_cons, other]
      exact ih mem nodup

section Entries

variable {around : Nat} {seen : List String} {r r' : α} {es : List (String × Value)}

/-- A key of a field is read by the field. -/
lemma readEntries_cons_of_mem (h : Members k ms) {m : Member α} (listed : m ∈ ms) {w : Value} :
    k.readEntries around seen r ((m.name, w) :: es) = .ok r' ↔
      m.name ∉ seen ∧ ∃ b, m.reads around w = .ok b ∧
        k.readEntries around (m.name :: seen) (m.set b r) es = .ok r' := by
  have override : m.field.override around w r = (m.reads around w).map (m.set · r) := rfl
  rw [RecordKind.readEntries, h.field?_of_mem listed]
  simp only [override]
  by_cases again : m.name ∈ seen
  · simp [again]
  · cases told : m.reads around w with
    | error e => simp [again, Except.map]
    | ok b => simp [again, Except.map]

/-- Another key is passed over, if it may be there. -/
lemma readEntries_cons_of_notMem (h : Members k ms) {name : String}
    (absent : name ∉ ms.map Member.name) {w : Value} :
    k.readEntries around seen r ((name, w) :: es) = .ok r' ↔
      k.strict = false ∧ w.innerFault? = none ∧ k.readEntries around seen r es = .ok r' := by
  rw [RecordKind.readEntries, h.field?_of_notMem absent]
  simp only
  cases strict : k.strict with
  | true => simp
  | false => cases fault : w.innerFault? <;> simp

/-- Entries are no more than a record may have: keys of its fields once at most, and not if they
have been seen before; other keys only if it is not strict, and without a fault. -/
structure Fine (k : RecordKind α) (ms : List (Member α)) (seen : List String)
    (es : List (String × Value)) : Prop where
  declared : k.strict = true → ∀ name ∈ es.map Prod.fst, name ∈ ms.map Member.name
  once : ∀ m ∈ ms, (es.map Prod.fst).count m.name ≤ 1
  fresh : ∀ m ∈ ms, m.name ∈ es.map Prod.fst → m.name ∉ seen
  faultless : ∀ e ∈ es, e.1 ∉ ms.map Member.name → e.2.innerFault? = none

/-- No entries are fine. -/
lemma Fine.nil : Fine k ms seen [] := ⟨by simp, by simp, by simp, by simp⟩

/-- Entries behind the key of a field are fine if they would be with the key seen before. -/
lemma fine_cons_of_mem {m : Member α} (listed : m ∈ ms) {w : Value} :
    Fine k ms seen ((m.name, w) :: es) ↔ m.name ∉ seen ∧ Fine k ms (m.name :: seen) es := by
  have named : m.name ∈ ms.map Member.name := List.mem_map_of_mem listed
  constructor
  · rintro ⟨declared, once, fresh, faultless⟩
    simp only [List.map_cons] at declared once fresh
    have unlisted : m.name ∉ es.map Prod.fst := by
      intro again
      have twice := once m listed
      rw [List.count_cons_self] at twice
      exact absurd (List.count_pos_iff.2 again) (by omega)
    refine ⟨fresh m listed List.mem_cons_self, ?_, ?_, ?_, ?_⟩
    · exact fun strict name mem => declared strict name (List.mem_cons_of_mem _ mem)
    · exact fun m' listed' => Nat.le_trans List.count_le_count_cons (once m' listed')
    · intro m' listed' mem
      rw [List.mem_cons, not_or]
      exact ⟨fun same => unlisted (same ▸ mem), fresh m' listed' (List.mem_cons_of_mem _ mem)⟩
    · exact fun e mem => faultless e (List.mem_cons_of_mem _ mem)
  · rintro ⟨new, declared, once, fresh, faultless⟩
    have unlisted : m.name ∉ es.map Prod.fst := fun mem =>
      fresh m listed mem List.mem_cons_self
    constructor
    · exact fun strict => List.forall_mem_cons.2 ⟨named, declared strict⟩
    · intro m' listed'
      rw [List.map_cons, List.count_cons]
      split
      case isTrue same =>
        have none := List.count_eq_zero_of_not_mem unlisted
        rw [← eq_of_beq same]
        exact Nat.add_le_add_right (Nat.le_of_eq none) 1
      case isFalse => exact once m' listed'
    · intro m' listed' mem
      rcases List.mem_cons.1 mem with same | mem
      · exact same ▸ new
      · exact fun old => fresh m' listed' mem (List.mem_cons_of_mem _ old)
    · exact List.forall_mem_cons.2 ⟨fun other => absurd named other, faultless⟩

/-- Entries behind another key are fine if that one may be there and they are. -/
lemma fine_cons_of_notMem {name : String} (absent : name ∉ ms.map Member.name) {w : Value} :
    Fine k ms seen ((name, w) :: es) ↔
      k.strict = false ∧ w.innerFault? = none ∧ Fine k ms seen es := by
  have other (m) (listed : m ∈ ms) : name ≠ m.name :=
    fun same => absent (same ▸ List.mem_map_of_mem listed)
  constructor
  · rintro ⟨declared, once, fresh, faultless⟩
    simp only [List.map_cons] at declared once fresh
    refine ⟨?_, faultless _ List.mem_cons_self absent, ?_, ?_, ?_, ?_⟩
    · exact Bool.eq_false_iff.2 fun strict => absent (declared strict _ List.mem_cons_self)
    · exact fun strict name mem => declared strict name (List.mem_cons_of_mem _ mem)
    · exact fun m listed => Nat.le_trans List.count_le_count_cons (once m listed)
    · exact fun m listed mem => fresh m listed (List.mem_cons_of_mem _ mem)
    · exact fun e mem => faultless e (List.mem_cons_of_mem _ mem)
  · rintro ⟨lax, clear, declared, once, fresh, faultless⟩
    constructor
    · exact fun strict => absurd strict (Bool.eq_false_iff.1 lax)
    · intro m listed
      rw [List.map_cons, List.count_cons_of_ne (other m listed)]
      exact once m listed
    · intro m listed mem
      rcases List.mem_cons.1 mem with same | mem
      · exact absurd same.symm (other m listed)
      · exact fresh m listed mem
    · exact List.forall_mem_cons.2 ⟨fun _ => clear, faultless⟩

/-- A record is read from entries that it may have, none of which is refused by its field. -/
lemma exists_readEntries (h : Members k ms) (fine : Fine k ms seen es)
    (accepts : ∀ m ∈ ms, ∀ w, (m.name, w) ∈ es → ∃ b, m.reads around w = .ok b) :
    ∃ r', k.readEntries around seen r es = .ok r' := by
  induction es generalizing seen r with
  | nil => exact ⟨r, rfl⟩
  | cons e es ih =>
    obtain ⟨name, w⟩ := e
    have others {seen : List String} {r : α} (fine : Fine k ms seen es) :
        ∃ r', k.readEntries around seen r es = .ok r' :=
      ih fine fun m listed w mem => accepts m listed w (List.mem_cons_of_mem _ mem)
    by_cases known : name ∈ ms.map Member.name
    · obtain ⟨m, listed, rfl⟩ := List.mem_map.1 known
      obtain ⟨new, later⟩ := (fine_cons_of_mem listed).1 fine
      obtain ⟨b, told⟩ := accepts m listed w List.mem_cons_self
      obtain ⟨r', read⟩ := others (r := m.set b r) later
      exact ⟨r', (h.readEntries_cons_of_mem listed).2 ⟨new, b, told, read⟩⟩
    · obtain ⟨lax, clear, later⟩ := (fine_cons_of_notMem known).1 fine
      obtain ⟨r', read⟩ := others (r := r) later
      exact ⟨r', (h.readEntries_cons_of_notMem known).2 ⟨lax, clear, read⟩⟩

/-- What is read from entries is only read if they are fine. -/
lemma fine_of_readEntries (h : Members k ms) (read : k.readEntries around seen r es = .ok r') :
    Fine k ms seen es := by
  induction es generalizing seen r with
  | nil => exact .nil
  | cons e es ih =>
    obtain ⟨name, w⟩ := e
    by_cases known : name ∈ ms.map Member.name
    · obtain ⟨m, listed, rfl⟩ := List.mem_map.1 known
      obtain ⟨new, b, _, later⟩ := (h.readEntries_cons_of_mem listed).1 read
      exact (fine_cons_of_mem listed).2 ⟨new, ih later⟩
    · obtain ⟨lax, clear, later⟩ := (h.readEntries_cons_of_notMem known).1 read
      exact (fine_cons_of_notMem known).2 ⟨lax, clear, ih later⟩

/-- A field of a record that is read is what its key says, or else what it was before. -/
lemma taken_of_readEntries (h : Members k ms) (read : k.readEntries around seen r es = .ok r')
    {m : Member α} (listed : m ∈ ms) :
    (m.name ∉ es.map Prod.fst → m.get r' = m.get r) ∧
      ∀ w, (m.name, w) ∈ es → m.reads around w = .ok (m.get r') := by
  induction es generalizing seen r with
  | nil =>
    cases read
    exact ⟨fun _ => rfl, by simp⟩
  | cons e es ih =>
    obtain ⟨name, w⟩ := e
    by_cases known : name ∈ ms.map Member.name
    · obtain ⟨m', listed', rfl⟩ := List.mem_map.1 known
      obtain ⟨_, b, told, later⟩ := (h.readEntries_cons_of_mem listed').1 read
      obtain ⟨absent, present⟩ := ih later
      constructor
      · intro silent
        obtain ⟨other, silent⟩ := not_or.1 (mt List.mem_cons.2 silent)
        rw [absent silent, h.get_set_of_ne m' listed' m listed (Ne.symm other)]
      · intro x mem
        rcases List.mem_cons.1 mem with first | mem
        · obtain ⟨same, rfl⟩ := Prod.mk.inj first
          obtain rfl := List.inj_on_of_nodup_map h.names listed listed' same
          have unlisted : m.name ∉ es.map Prod.fst := fun mem =>
            (h.fine_of_readEntries later).fresh m listed mem List.mem_cons_self
          rw [absent unlisted, h.get_set m listed, told]
        · exact present x mem
    · obtain ⟨_, _, later⟩ := (h.readEntries_cons_of_notMem known).1 read
      obtain ⟨absent, present⟩ := ih later
      have other : m.name ≠ name := fun same => known (List.mem_map.2 ⟨m, listed, same⟩)
      constructor
      · exact fun silent => absent fun mem => silent (List.mem_cons_of_mem _ mem)
      · intro x mem
        rcases List.mem_cons.1 mem with first | mem
        · exact absurd (congrArg Prod.fst first) other
        · exact present x mem

end Entries

/-- The settings of a record are those of its fields. -/
def settings (ms : List (Member α)) : List (Setting α) :=
  ms.flatMap fun m => m.settings.map (·.under m.name m.get)

/-- A table whose values fit their fields. -/
def Fit (ms : List (Member α)) (v : Value) : Prop :=
  v.isTable = true ∧ ∀ m ∈ ms, ∀ w, (m.name, w) ∈ v.entries → m.fit w

/-- A table with known keys only, and with none of a field twice, at all levels. -/
structure Known (k : RecordKind α) (ms : List (Member α)) (v : Value) : Prop where
  declared : k.strict = true → ∀ name ∈ v.keys, name ∈ ms.map Member.name
  once : ∀ m ∈ ms, v.keys.count m.name ≤ 1
  known : ∀ m ∈ ms, ∀ w, (m.name, w) ∈ v.entries → m.known w

/-- What is said of all settings of a record is said of those of its fields. -/
lemma forall_settings_iff {p : Setting α → Prop} :
    (∀ s ∈ settings ms, p s) ↔ ∀ m ∈ ms, ∀ s ∈ m.settings, p (s.under m.name m.get) := by
  simp only [settings, List.mem_flatMap, List.mem_map]
  constructor
  · exact fun h m listed s mem => h _ ⟨m, listed, s, mem, rfl⟩
  · rintro h _ ⟨m, listed, s, mem, rfl⟩
    exact h m listed s mem

/-- A record is read from a table if it is from the entries and no fault ends the table. -/
lemma read_ok_iff (k : RecordKind α) {v : Value} (table : v.isTable = true) {around : Nat}
    {r r' : α} : k.read around r v = .ok r' ↔
      k.readEntries v.start [] r v.entries = .ok r' ∧ v.fault? = none := by
  cases v with
  | table es fault start =>
    rw [RecordKind.read, Value.entries, Value.start, Value.fault?]
    cases k.readEntries start [] r es with
    | error m => simp [bind, Except.bind]
    | ok r => cases fault <;> simp [bind, Except.bind, pure, Except.pure]
  | dotted es start => simp [RecordKind.read, Value.entries, Value.start, Value.fault?]
  | integer | float | bool | text | date | array => cases table

/-- A record is read from a table if its fields are, and what is said of its settings is what is
said of them. -/
theorem record (h : Members k ms) {defaults : α} (same : ∀ m ∈ ms, m.get defaults = m.defaults) :
    Overrides (fun around v => k.read around defaults v) defaults (Fit ms) (Known k ms)
      (settings ms) := by
  constructor
  · rintro around v ⟨table, fit⟩
    simp only [read_ok_iff k table, exists_and_right]
    rw [Value.innerFault?_eq_none_iff table, forall_settings_iff]
    have field (m) (listed : m ∈ ms) (w) (mem : (m.name, w) ∈ v.entries) :
        (∃ b, m.reads v.start w = .ok b) ↔
          w.innerFault? = none ∧ m.known w ∧ ∀ s ∈ m.settings, s.Accepts w :=
      (h.overrides m listed).ok_iff (fit m listed w mem)
    constructor
    · rintro ⟨⟨r, read⟩, ended⟩
      have fine := h.fine_of_readEntries read
      have told (m) (listed : m ∈ ms) (w) (mem : (m.name, w) ∈ v.entries) :=
        (field m listed w mem).1 ⟨_, (h.taken_of_readEntries read listed).2 w mem⟩
      refine ⟨⟨?_, ended⟩, ⟨fine.declared, fine.once, ?_⟩, ?_⟩
      · rintro ⟨name, w⟩ mem
        by_cases known : name ∈ ms.map Member.name
        · obtain ⟨m, listed, rfl⟩ := List.mem_map.1 known
          exact (told m listed w mem).1
        · exact fine.faultless _ mem known
      · exact fun m listed w mem => (told m listed w mem).2.1
      · intro m listed s mem
        exact Setting.accepts_under_iff.2 fun w mem' => (told m listed w mem').2.2 s mem
    · rintro ⟨⟨faultless, ended⟩, known, accepts⟩
      refine ⟨h.exists_readEntries ?_ ?_, ended⟩
      · exact ⟨known.declared, known.once, by simp, fun e mem _ => faultless e mem⟩
      · intro m listed w mem
        refine (field m listed w mem).2 ⟨faultless _ mem, known.known m listed w mem, ?_⟩
        exact fun s mem' => Setting.accepts_under_iff.1 (accepts m listed s mem') w mem
  · rintro around v r ⟨table, fit⟩ read
    obtain ⟨read, _⟩ := (read_ok_iff k table).1 read
    refine forall_settings_iff.2 fun m listed s mem => ?_
    obtain ⟨absent, present⟩ := h.taken_of_readEntries read listed
    refine Setting.holds_under ?_ absent
    intro w mem'
    rw [same m listed]
    exact (h.overrides m listed).holds (fit m listed w mem') (present w mem') s mem

end Members

end SeedVault.Toml
