import SeedVault.Proofs.Toml.Record

/-!
# Documents that say the same

Two values are alike if their tables list alike values under the same keys (`Value.Alike`), in
whatever order, and wherever they stand. So they have the same under the same paths
(`Value.Alike.has`), the same keys equally often (`Value.Alike.keys`), and faults only together
(`Value.Alike.innerFault?`); a setting that reads alike values alike does not tell them apart
(`Setting.agrees_of_alike`).
-/

namespace SeedVault.Toml

namespace Value

/-- Items have no fault if none of them has one. -/
lemma innerFaultOfItems?_eq_none_iff {items : List Value} {index : Nat} :
    innerFaultOfItems? index items = none ↔ ∀ v ∈ items, v.innerFault? = none := by
  induction items generalizing index with
  | nil => simp [innerFaultOfItems?]
  | cons v items ih =>
    rw [innerFaultOfItems?, List.forall_mem_cons, ← @ih (index + 1)]
    cases v.innerFault? <;> simp

/-- Two values say the same. What tables share is listed with its key and both values. -/
inductive Alike : Value → Value → Prop where
  | integer (n start start') : Alike (.integer n start) (.integer n start')
  | float (s start start') : Alike (.float s start) (.float s start')
  | bool (b start start') : Alike (.bool b start) (.bool b start')
  | text (s start start') : Alike (.text s start) (.text s start')
  | date (start start') : Alike (.date start) (.date start')
  | array (shared : List (Value × Value)) (start start') : (∀ p ∈ shared, Alike p.1 p.2) →
    Alike (.array (shared.map Prod.fst) start) (.array (shared.map Prod.snd) start')
  | table {v v' : Value} (shared : List (String × Value × Value)) :
    v.isTable = true → v'.isTable = true →
    v.entries.Perm (shared.map fun p => (p.1, p.2.1)) →
    v'.entries.Perm (shared.map fun p => (p.1, p.2.2)) →
    (v.fault? = none ↔ v'.fault? = none) → (∀ p ∈ shared, Alike p.2.1 p.2.2) → Alike v v'

namespace Alike

variable {v v' : Value}

/-- What is alike one way is alike the other way. -/
lemma symm (h : v.Alike v') : v'.Alike v := by
  induction h with
  | integer n start start' => exact .integer n start' start
  | float s start start' => exact .float s start' start
  | bool b start start' => exact .bool b start' start
  | text s start start' => exact .text s start' start
  | date start start' => exact .date start' start
  | array shared start start' _ ih =>
    have swapped := Alike.array (shared.map Prod.swap) start' start
      (List.forall_mem_map.2 fun p mem => ih p mem)
    rw [List.map_map, List.map_map] at swapped
    exact swapped
  | table shared table table' lists lists' fault _ ih =>
    refine .table (shared.map fun p => (p.1, p.2.2, p.2.1)) table' table ?_ ?_ fault.symm
      (List.forall_mem_map.2 fun p mem => ih p mem)
    · rw [List.map_map]
      exact lists'
    · rw [List.map_map]
      exact lists

/-- Only tables are alike to tables. -/
lemma isTable (h : v.Alike v') (table : v.isTable = true) : v'.isTable = true := by
  cases h with
  | table _ _ table' => exact table'
  | integer | float | bool | text | date | array => exact table

/-- Alike tables have the same keys, each equally often. -/
lemma keys (h : v.Alike v') : v.keys.Perm v'.keys := by
  cases h with
  | table shared _ _ lists lists' =>
    have key := lists.map Prod.fst
    have key' := lists'.map Prod.fst
    rw [List.map_map] at key key'
    exact key.trans key'.symm
  | integer | float | bool | text | date | array => exact .refl _

/-- What a table lists is listed under the same key in a table that is alike. -/
lemma entries (h : v.Alike v') {name : String} {w : Value} (mem : (name, w) ∈ v.entries) :
    ∃ w', (name, w') ∈ v'.entries ∧ w.Alike w' := by
  cases h with
  | table shared _ _ lists lists' _ each =>
    obtain ⟨p, listed, same⟩ := List.mem_map.1 (lists.mem_iff.1 mem)
    obtain ⟨rfl, rfl⟩ := Prod.mk.inj same
    exact ⟨p.2.2, lists'.mem_iff.2 (List.mem_map.2 ⟨p, listed, rfl⟩), each p listed⟩
  | integer | float | bool | text | date | array => cases mem

/-- Where a path leads in a value, it leads to something alike in a value that is alike. -/
lemma has (h : v.Alike v') {path : List String} {w : Value} (there : v.Has path w) :
    ∃ w', v'.Has path w' ∧ w.Alike w' := by
  induction path generalizing v v' with
  | nil =>
    obtain rfl := there
    exact ⟨v', rfl, h⟩
  | cons name path ih =>
    obtain ⟨x, listed, there⟩ := there
    obtain ⟨x', listed', alike⟩ := h.entries listed
    obtain ⟨w', there', alike⟩ := ih alike there
    exact ⟨w', ⟨x', listed', there'⟩, alike⟩

/-- Alike values have a fault within only together. -/
lemma innerFault? (h : v.Alike v') : v.innerFault? = none ↔ v'.innerFault? = none := by
  induction h with
  | integer | float | bool | text | date => exact Iff.rfl
  | array shared start start' _ ih =>
    rw [Value.innerFault?, Value.innerFault?, innerFaultOfItems?_eq_none_iff,
      innerFaultOfItems?_eq_none_iff, List.forall_mem_map, List.forall_mem_map]
    exact forall₂_congr ih
  | table shared table table' lists lists' fault _ ih =>
    have each {es : List (String × Value)} {f : String × Value × Value → String × Value}
        (lists : es.Perm (shared.map f)) : (∀ e ∈ es, e.2.innerFault? = none) ↔
          ∀ p ∈ shared, (f p).2.innerFault? = none := by
      simp only [lists.mem_iff, List.forall_mem_map]
    rw [innerFault?_eq_none_iff table, innerFault?_eq_none_iff table', each lists, each lists',
      fault]
    exact and_congr_left fun _ => forall₂_congr ih

end Alike

end Value

/-- Alike documents list the same for a setting that reads alike values alike. -/
lemma Setting.agrees_of_alike {α : Type} {s : Setting α}
    (reads : ∀ w w', w.Alike w' → s.read w = s.read w') {v v' : Value} (h : v.Alike v') :
    s.Agrees v v' := by
  intro x
  constructor
  · rintro ⟨w', there', rfl⟩
    obtain ⟨w, there, alike⟩ := h.symm.has there'
    exact ⟨w, there, (reads w' w alike).symm⟩
  · rintro ⟨w, there, rfl⟩
    obtain ⟨w', there', alike⟩ := h.has there
    exact ⟨w', there', (reads w w' alike).symm⟩

end SeedVault.Toml
