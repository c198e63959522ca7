import Mathlib.Data.List.Chain
import SeedVault.Proofs.Text.Decomposition

/-!
# Normal form KD

The marks of a text in normal form are in order and its code points settled, so that the text is
its own normal form (`decompose_decompose`). Marks do not move in front of a character that starts a
run: small characters in front of a text stay as they are, whatever the text starts with
(`decompose_append`). Printable ASCII characters are what their wide forms decompose into
(`decompose_wide`).
-/

namespace SeedVault.Text

/-- May the first of two code points stand right behind the second in an ordered text? -/
def Follows (n m : Nat) : Prop := combiningClass n = 0 ∨ combiningClass m ≤ combiningClass n

/-- A text in reverse whose runs of combining marks are sorted. -/
def Ordered (out : List Nat) : Prop := out.IsChain Follows

/-- A code point that may stand at the end is put there. -/
lemma insertMark_of_follows {n out} (h : ∀ m ∈ out.head?, Follows n m) :
    insertMark n out = n :: out := by
  cases out with
  | nil => rfl
  | cons m ms =>
    have front : ¬(combiningClass n ≠ 0 ∧ combiningClass n < combiningClass m) := by
      rintro ⟨mark, higher⟩
      obtain start | low := h m rfl
      · exact mark start
      · exact absurd higher (Nat.not_lt.2 low)
    rw [insertMark, if_neg front]

/-- What stands in front after a code point is inserted is that one or what stood there. -/
lemma head?_insertMark {n k out} (h : k ∈ (insertMark n out).head?) : k = n ∨ k ∈ out.head? := by
  cases out with
  | nil =>
    cases h
    exact .inl rfl
  | cons m ms =>
    rw [insertMark] at h
    split at h
    · exact .inr h
    · cases h
      exact .inl rfl

/-- The step: inserting a code point keeps the marks in order. -/
lemma Ordered.insertMark {n out} (h : Ordered out) : Ordered (insertMark n out) := by
  fun_induction Text.insertMark n out with
  | case1 => exact List.isChain_singleton n
  | case2 m ms higher ih =>
    obtain ⟨follows, rest⟩ := List.isChain_cons.1 h
    refine List.isChain_cons.2 ⟨fun k mem => ?_, ih rest⟩
    obtain rfl | mem := head?_insertMark mem
    · exact .inr (Nat.le_of_lt higher.2)
    · exact follows k mem
  | case3 m ms low =>
    refine List.isChain_cons_cons.2 ⟨?_, h⟩
    by_cases start : combiningClass n = 0
    · exact .inl start
    · exact .inr (Nat.le_of_not_lt fun higher => low ⟨start, higher⟩)

/-- Inserts code points behind a text in reverse, one after the other. -/
def insertMarks (ns out : List Nat) : List Nat := ns.foldl (fun out n => insertMark n out) out

/-- Marks are ordered by putting one after the other where it belongs. -/
lemma orderMarks_eq (ns) : orderMarks ns = (insertMarks ns []).reverse := rfl

/-- The first mark is put in before the others. -/
lemma insertMarks_cons (n ns out) : insertMarks (n :: ns) out = insertMarks ns (insertMark n out) :=
  rfl

/-- Marks can be put in in two parts. -/
lemma insertMarks_append (ns ms out) :
    insertMarks (ns ++ ms) out = insertMarks ms (insertMarks ns out) :=
  List.foldl_append

/-- The run: inserting one code point after the other keeps the marks in order. -/
lemma Ordered.insertMarks {ns out} (h : Ordered out) : Ordered (insertMarks ns out) := by
  induction ns generalizing out with
  | nil => exact h
  | cons n ns ih => exact ih h.insertMark

/-- Code points that are in order already are taken over one by one. -/
lemma insertMarks_of_ordered {ns out} (h : Ordered (ns.reverse ++ out)) :
    insertMarks ns out = ns.reverse ++ out := by
  induction ns generalizing out with
  | nil => rfl
  | cons n ns ih =>
    rw [List.reverse_cons, List.append_assoc, List.singleton_append] at h ⊢
    obtain ⟨_, ordered, _⟩ := List.isChain_append.1 h
    rw [insertMarks_cons, insertMark_of_follows (List.isChain_cons.1 ordered).1, ih h]

/-- Ordered marks stay in their order. -/
lemma orderMarks_orderMarks (ns) : orderMarks (orderMarks ns) = orderMarks ns := by
  have ordered : Ordered (insertMarks ns []) := Ordered.insertMarks List.isChain_nil
  have taken : insertMarks (insertMarks ns []).reverse [] = insertMarks ns [] := by
    have again : Ordered ((insertMarks ns []).reverse.reverse ++ []) := by
      rwa [List.reverse_reverse, List.append_nil]
    rw [insertMarks_of_ordered again, List.reverse_reverse, List.append_nil]
  rw [orderMarks_eq, orderMarks_eq, taken]

/-- Putting in a mark adds that mark alone. -/
lemma insertMark_perm (n out) : (insertMark n out).Perm (n :: out) := by
  fun_induction insertMark n out with
  | case1 => exact .refl _
  | case2 m ms _ ih => exact (ih.cons m).trans (.swap n m ms)
  | case3 => exact .refl _

/-- Putting in marks adds these marks alone. -/
lemma insertMarks_perm (ns out) : (insertMarks ns out).Perm (ns.reverse ++ out) := by
  induction ns generalizing out with
  | nil => exact .refl out
  | cons n ns ih =>
    rw [List.reverse_cons, List.append_assoc, List.singleton_append]
    exact (ih _).trans ((insertMark_perm n out).append_left _)

/-- Ordering only moves code points. -/
lemma orderMarks_perm (ns) : (orderMarks ns).Perm ns := by
  have moved := insertMarks_perm ns []
  rw [List.append_nil] at moved
  exact (List.reverse_perm _).trans (moved.trans (List.reverse_perm ns))

/-- No mark is inserted in front of the start of a run. -/
lemma insertMark_append {n ms base} (start : ∀ m ∈ base.head?, combiningClass m = 0) :
    insertMark n (ms ++ base) = insertMark n ms ++ base := by
  induction ms with
  | nil =>
    refine insertMark_of_follows fun m mem => .inr ?_
    rw [start m mem]
    exact Nat.zero_le _
  | cons m ms ih =>
    rw [List.cons_append, insertMark, insertMark, ih]
    split <;> rfl

/-- No mark is put in before a code point that is no mark. -/
lemma insertMarks_append_base {ns ms base} (start : ∀ m ∈ base.head?, combiningClass m = 0) :
    insertMarks ns (ms ++ base) = insertMarks ns ms ++ base := by
  induction ns generalizing ms with
  | nil => rfl
  | cons n ns ih => rw [insertMarks_cons, insertMark_append start, ih, insertMarks_cons]

/-- Code points that start runs stay in front of a text. -/
lemma orderMarks_append {as} (starts : ∀ a ∈ as, combiningClass a = 0) (ns) :
    orderMarks (as ++ ns) = as ++ orderMarks ns := by
  have ordered : Ordered (as.reverse ++ []) := by
    rw [List.append_nil]
    exact (List.pairwise_of_forall_mem_list fun n mem _ _ =>
      .inl (starts n (List.mem_reverse.1 mem))).isChain
  have start : ∀ m ∈ as.reverse.head?, combiningClass m = 0 := fun m mem =>
    starts m (List.mem_reverse.1 (List.mem_of_mem_head? mem))
  rw [orderMarks_eq, insertMarks_append, insertMarks_of_ordered ordered, List.append_nil,
    ← List.nil_append as.reverse, insertMarks_append_base start, List.reverse_append,
    List.reverse_reverse, orderMarks_eq]

set_option maxRecDepth 100000 in
/-- The first combining mark is the grave accent. -/
lemma combiningClass_of_lt {n} (small : n < 0x300) : combiningClass n = 0 := by
  have table : ∃ css, Spells combiningTable css ∧
      ∀ e ∈ spelledEntries css, 0x300 ≤ e.headD 0 := by
    apply Exists.intro
    apply And.intro
    · repeat' constructor
    · decide +kernel
  obtain ⟨css, spells, late⟩ := table
  have noRun : findRun? combiningTree n = none := by
    rw [Option.eq_none_iff_forall_ne_some]
    rintro ⟨distance, value⟩ found
    obtain ⟨first, last, mem, behind, _⟩ := mem_of_findRun? found
    rw [tableEntries_spells spells] at mem
    exact absurd behind (Nat.not_le.2 (Nat.lt_of_lt_of_le small (late _ mem)))
  rw [combiningClass, noRun, Option.map_none, Option.getD_none]

/-- The character of a code point has that number. -/
lemma toNat_ofNat_of_valid {n} (h : n.isValidChar) : (Char.ofNat n).toNat = n := by
  rw [Char.ofNat, dif_pos h]
  rfl

/-- The code points that the characters of a text decompose into. -/
def decomposedCodes (cs : List Char) : List Nat :=
  cs.flatMap fun c => compatibleDecomposition c.toNat

/-- Settled code points do not decompose. -/
lemma decomposedCodes_ofCodes {ns} (settled : ∀ n ∈ ns, Settled n) :
    decomposedCodes (ofCodes ns) = ns := by
  induction ns with
  | nil => rfl
  | cons n ns ih =>
    obtain ⟨first, rest⟩ := List.forall_mem_cons.1 settled
    have entry : compatibleDecomposition (Char.ofNat n).toNat = [n] := by
      rw [toNat_ofNat_of_valid first.valid, first.decomposition]
    rw [decomposedCodes, ofCodes, List.map_cons, List.flatMap_cons, entry, List.singleton_append]
    exact congrArg (n :: ·) (ih rest)

/-- A text in normal form KD is its own normal form. -/
lemma decompose_decompose (cs) : decompose (decompose cs) = decompose cs := by
  have settled : ∀ n ∈ orderMarks (decomposedCodes cs), Settled n := by
    intro n mem
    obtain ⟨c, _, target⟩ := List.mem_flatMap.1 ((orderMarks_perm _).mem_iff.1 mem)
    exact settled_of_mem c.valid target
  change ofCodes (orderMarks (decomposedCodes (ofCodes (orderMarks (decomposedCodes cs))))) = _
  rw [decomposedCodes_ofCodes settled, orderMarks_orderMarks]
  rfl

/-- Characters with small numbers do not decompose. -/
lemma decomposedCodes_small {cs} (small : ∀ c ∈ cs, c.toNat < 0xa0) :
    decomposedCodes cs = cs.map Char.toNat := by
  induction cs with
  | nil => rfl
  | cons c cs ih =>
    obtain ⟨first, rest⟩ := List.forall_mem_cons.1 small
    rw [decomposedCodes, List.flatMap_cons, (settled_of_lt first).decomposition,
      List.singleton_append]
    exact congrArg (c.toNat :: ·) (ih rest)

/-- Small characters in front of a text stay as they are, and nothing moves in front of them. -/
lemma decompose_append {cs} (small : ∀ c ∈ cs, c.toNat < 0xa0) (ds) :
    decompose (cs ++ ds) = cs ++ decompose ds := by
  have starts : ∀ n ∈ cs.map Char.toNat, combiningClass n = 0 := by
    intro n code
    obtain ⟨c, mem, rfl⟩ := List.mem_map.1 code
    exact combiningClass_of_lt (Nat.lt_of_lt_of_le (small c mem) (by decide))
  have split : decomposedCodes (cs ++ ds) = cs.map Char.toNat ++ decomposedCodes ds := by
    rw [← decomposedCodes_small small, decomposedCodes, List.flatMap_append]
    rfl
  have back : ofCodes (cs.map Char.toNat) = cs := by
    rw [ofCodes, List.map_map]
    exact (List.map_congr_left fun c _ => Char.ofNat_toNat c).trans (List.map_id cs)
  change ofCodes (orderMarks (decomposedCodes (cs ++ ds))) = _
  rw [split, orderMarks_append starts, ofCodes, List.map_append, ← ofCodes, back]
  rfl

/-- A text of such characters is in its normal form. -/
lemma decompose_small {cs} (small : ∀ c ∈ cs, c.toNat < 0xa0) : decompose cs = cs := by
  have plain := decompose_append small []
  rw [List.append_nil] at plain
  exact plain.trans (List.append_nil cs)

/-- The wide form of a printable ASCII character. -/
def wide (c : Char) : Char := Char.ofNat (c.toNat + 0xfee0)

set_option maxRecDepth 100000 in
/-- A wide character of ASCII decomposes into the plain one. -/
lemma compatibleDecomposition_wide {n} (range : n < 94) :
    compatibleDecomposition (0xff01 + n) = [0x21 + n] := by
  have table : ∃ css, Spells compatibleRunTable css ∧
      ∀ n ∈ List.range 94, findRun? (spelledTree css) (0xff01 + n) = some (n, 0x21) := by
    apply Exists.intro
    apply And.intro
    · repeat' constructor
    · decide +kernel
  obtain ⟨css, spells, found⟩ := table
  refine compatibleDecomposition_run ?_
  rw [compatibleRunTree, tableTree_spells spells]
  exact found n (List.mem_range.2 range)

/-- Wide forms of ASCII characters decompose into these. -/
lemma decompose_wide {cs} (printable : ∀ c ∈ cs, 0x21 ≤ c.toNat ∧ c.toNat < 0x7f) :
    decompose (cs.map wide) = cs := by
  have codes : decomposedCodes (cs.map wide) = decomposedCodes cs := by
    rw [decomposedCodes, decomposedCodes, List.flatMap_map]
    refine List.flatMap_congr fun c mem => ?_
    obtain ⟨low, high⟩ := printable c mem
    have valid : (c.toNat + 0xfee0).isValidChar := .inr ⟨by omega, by omega⟩
    have run := compatibleDecomposition_wide (n := c.toNat - 0x21) (by omega)
    rw [show 0xff01 + (c.toNat - 0x21) = c.toNat + 0xfee0 by omega,
      Nat.add_sub_cancel' low] at run
    have small : Settled c.toNat := settled_of_lt (by omega)
    rw [wide, toNat_ofNat_of_valid valid, run, small.decomposition]
  change ofCodes (orderMarks (decomposedCodes (cs.map wide))) = cs
  rw [codes]
  exact decompose_small fun c mem => Nat.lt_trans (printable c mem).2 (by decide)

/-- The normal form KD of a text. -/
def normalForm (s : String) : String := String.ofList (decompose s.toList)

/-- A normal form is its own. -/
lemma normalForm_normalForm (s) : normalForm (normalForm s) = normalForm s := by
  rw [normalForm, normalForm, String.toList_ofList, decompose_decompose]

/-- So is a text of characters below those that are ever decomposed. -/
lemma normalForm_small {s : String} (small : ∀ c ∈ s.toList, c.toNat < 0xa0) :
    normalForm s = s := by
  rw [normalForm, decompose_small small, String.ofList_toList]

end SeedVault.Text
