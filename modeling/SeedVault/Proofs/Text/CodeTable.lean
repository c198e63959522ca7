import SeedVault.Proofs.Text.Letters
import SeedVault.Text.DecompositionTable

/-!
# Entries of tables

What is found in the tree of a table is an entry of the table (`mem_of_find?`), also where an entry
stands for a run of numbers (`mem_of_findRun?`). A `bitset` is a set of numbers that is quick to
look up while a fact about all entries of a table is decided.
-/

namespace SeedVault.Text

namespace CodeTree

variable {α : Type}

/-- The entries of a tree in their order. -/
def toList : CodeTree α → List (Nat × α)
  | leaf => []
  | node l k v r => l.toList ++ (k, v) :: r.toList

/-- What is found in a tree is in its list. -/
lemma mem_toList_of_find? {t : CodeTree α} {k v} (h : t.find? k = some v) : (k, v) ∈ t.toList := by
  induction t with
  | leaf => cases h
  | node l key value r left right =>
    rw [find?] at h
    rw [toList, List.mem_append, List.mem_cons]
    split at h
    case isTrue => exact .inl (left h)
    case isFalse =>
      split at h
      case isTrue same =>
        cases h
        exact .inr (.inl (by rw [same]))
      case isFalse => exact .inr (.inr (right h))

/-- A tree is filled with the entries in front of those that are left. -/
lemma toList_fill (depth) (entries : List (Nat × α)) :
    (fill depth entries).1.toList ++ (fill depth entries).2 = entries := by
  induction depth generalizing entries with
  | zero => rfl
  | succ depth ih =>
    have front := ih entries
    rw [fill]
    split
    case h_1 l filled =>
      rw [filled] at front
      exact front
    case h_2 l k v rest filled =>
      rw [filled] at front
      simp only [toList, List.append_assoc, List.cons_append]
      rw [ih rest, front]

/-- A tree has no entries but those it was made of. -/
lemma mem_of_mem_ofSorted {entries : List (Nat × α)} {e} (mem : e ∈ (ofSorted entries).toList) :
    e ∈ entries := by
  rw [← toList_fill 16 entries]
  exact List.mem_append_left _ mem

end CodeTree

/-- What is found under a number is an entry of the table. -/
lemma mem_of_mem_tableTree {lines k v} (mem : (k, v) ∈ (tableTree lines).toList) :
    k :: v ∈ tableEntries lines := by
  obtain ⟨e, entry, keyed⟩ := List.mem_filterMap.1 (CodeTree.mem_of_mem_ofSorted mem)
  cases e with
  | nil => cases keyed
  | cons k v =>
    cases keyed
    exact entry

/-- What is found in the tree of a table is an entry of the table. -/
lemma mem_of_find? {lines k v} (h : (tableTree lines).find? k = some v) :
    k :: v ∈ tableEntries lines :=
  mem_of_mem_tableTree (CodeTree.mem_toList_of_find? h)

/-- A run that is found for a number is one that the number lies in. -/
lemma exists_mem_of_findRun? {t : CodeTree (List Nat)} {n distance value}
    (h : findRun? t n = some (distance, value)) :
    ∃ first last, (first, [last, value]) ∈ t.toList ∧ first ≤ n ∧ n ≤ last ∧
      distance = n - first := by
  fun_induction findRun? t n with
  | case1 => cases h
  | case2 l first run r before left =>
    obtain ⟨first', last, mem, rest⟩ := left h
    exact ⟨first', last, List.mem_append_left _ mem, rest⟩
  | case3 l first r behind last value' within =>
    cases h
    exact ⟨first, last, List.mem_append_right _ List.mem_cons_self, Nat.le_of_not_lt behind, within,
      rfl⟩
  | case4 l first r behind last value' beyond right =>
    obtain ⟨first', last', mem, rest⟩ := right h
    exact ⟨first', last', List.mem_append_right _ (List.mem_cons_of_mem _ mem), rest⟩
  | case5 l first run r behind other right =>
    obtain ⟨first', last', mem, rest⟩ := right h
    exact ⟨first', last', List.mem_append_right _ (List.mem_cons_of_mem _ mem), rest⟩

/-- A number that is found in a table of runs is within one of the runs. -/
lemma mem_of_findRun? {lines n distance value}
    (h : findRun? (tableTree lines) n = some (distance, value)) :
    ∃ first last, [first, last, value] ∈ tableEntries lines ∧ first ≤ n ∧ n ≤ last ∧
      distance = n - first := by
  obtain ⟨first, last, mem, rest⟩ := exists_mem_of_findRun? h
  exact ⟨first, last, mem_of_mem_tableTree mem, rest⟩

/-- The entries of a table, read off the characters of its lines. -/
def spelledEntries (css : List (List Char)) : List (List Nat) :=
  (css.foldl (fun r cs => cs.foldl TableReader.step r) ({} : TableReader)).entries.reverse

/-- The entries of a table can be read off its characters. -/
lemma tableEntries_spells {lines css} (h : Spells lines css) :
    tableEntries lines = spelledEntries css := by
  rw [h.eq_map, tableEntries, List.foldl_map]
  simp only [String.toList_ofList]
  rfl

/-- A set of numbers as the number that has these bits. -/
def bitset (ns : List Nat) : Nat := ns.foldl (fun set n => set ||| 1 <<< n) 0

/-- A number is in a set of bits if and only if its bit is set. -/
lemma testBit_bitset {ns : List Nat} {n : Nat} : (bitset ns).testBit n = true ↔ n ∈ ns := by
  have grown : ∀ set : Nat, (ns.foldl (fun set n => set ||| 1 <<< n) set).testBit n = true ↔
      set.testBit n = true ∨ n ∈ ns := by
    induction ns with
    | nil => simp
    | cons m ns ih =>
      intro set
      rw [List.foldl_cons, ih, Nat.testBit_or, Bool.or_eq_true, Nat.one_shiftLeft,
        Nat.testBit_two_pow, decide_eq_true_iff, List.mem_cons, or_assoc, eq_comm (a := m)]
  rw [bitset, grown, Nat.zero_testBit]
  simp

end SeedVault.Text
