import SeedVault.Proofs.Text.CodeTable
import SeedVault.Text.Decomposition

/-!
# Full decompositions

The decompositions in the tables are full: what a code point decomposes into are code points that
are `Settled`, which is to say their own decompositions (`settled_of_mem`). That no table has an
entry for what another one decomposes into is decided on the entries of all three (`tables_full`).
-/

namespace SeedVault.Text

/-- A code point that is its own decomposition, since nothing else is known of it. -/
structure Settled (n : Nat) : Prop where
  valid : n.isValidChar
  noSyllable : syllableLetters? n = none
  noRun : findRun? compatibleRunTree n = none
  noCompatible : compatibleTree.find? n = none
  noCanonical : canonicalTree.find? n = none

/-- A Korean syllable decomposes into its letters. -/
lemma canonicalDecomposition_syllable {n letters} (h : syllableLetters? n = some letters) :
    canonicalDecomposition n = letters := by
  unfold canonicalDecomposition
  rw [h]

/-- What is no Korean syllable decomposes by the table, or not at all. -/
lemma canonicalDecomposition_of_noSyllable {n} (h : syllableLetters? n = none) :
    canonicalDecomposition n = (canonicalTree.find? n).getD [n] := by
  unfold canonicalDecomposition
  rw [h]

/-- A number in a run decomposes into one that is as far behind the target of the run. -/
lemma compatibleDecomposition_run {n distance target}
    (h : findRun? compatibleRunTree n = some (distance, target)) :
    compatibleDecomposition n = [target + distance] := by
  rw [compatibleDecomposition, h, Option.map_some, Option.getD_some]

/-- A number outside the runs decomposes by the table, or else canonically. -/
lemma compatibleDecomposition_of_noRun {n} (h : findRun? compatibleRunTree n = none) :
    compatibleDecomposition n = (compatibleTree.find? n).getD (canonicalDecomposition n) := by
  rw [compatibleDecomposition, h, Option.map_none, Option.getD_none]

/-- A settled code point does not decompose. -/
lemma Settled.decomposition {n} (h : Settled n) : compatibleDecomposition n = [n] := by
  rw [compatibleDecomposition_of_noRun h.noRun, h.noCompatible, Option.getD_none,
    canonicalDecomposition_of_noSyllable h.noSyllable, h.noCanonical, Option.getD_none]

/-- The numbers of a run, which has an entry of its ends and of what the first decomposes into. -/
def runNumbers : List Nat → List Nat
  | [first, last, _] => List.range' first (last - first + 1)
  | _ => []

/-- The numbers that those of a run decompose into. -/
def runTargets : List Nat → List Nat
  | [first, last, target] => List.range' target (last - first + 1)
  | _ => []

/-- The numbers that decompose by one of three tables, of which the third is one of runs. -/
def decomposing (canonical compatible runs : List (List Nat)) : Nat :=
  bitset (canonical.map (·.headD 0) ++ (compatible.map (·.headD 0) ++ runs.flatMap runNumbers))

/-- Is the number a code point that is outside a set and no Korean syllable? -/
def isOutside (set n : Nat) : Bool :=
  !set.testBit n && decide n.isValidChar && (syllableLetters? n).isNone

/-- The letters of Korean syllables. -/
def syllableLetters : List Nat :=
  List.range' 0x1100 19 ++ (List.range' 0x1161 21 ++ List.range' 0x11a8 27)

/-- Nothing that the tables decompose into is in the set, nor is a letter of a Korean syllable or a
small number. A canonical decomposition does not count where there is a compatible one. -/
def FullOutside (canonical compatible runs : List (List Nat)) (tree : CodeTree (List Nat))
    (set : Nat) : Prop :=
  (List.range 0xa0).all (isOutside set) = true ∧
  syllableLetters.all (isOutside set) = true ∧
  canonical.all (fun e => e.tail.all (isOutside set) || (tree.find? (e.headD 0)).isSome) = true ∧
  compatible.all (fun e => e.tail.all (isOutside set)) = true ∧
  runs.all (fun e => (runTargets e).all (isOutside set)) = true

/-- The tables are finite, so it can be decided. -/
instance (canonical compatible runs tree set) :
    Decidable (FullOutside canonical compatible runs tree set) :=
  inferInstanceAs (Decidable (_ ∧ _))

/-- The numbers that decompose by the tables. -/
def decomposed : Nat :=
  decomposing (tableEntries canonicalTable) (tableEntries compatibleTable)
    (tableEntries compatibleRunTable)

set_option maxRecDepth 100000 in
/-- The tables, spelled out, decompose into nothing that decomposes. -/
lemma tables_spelled : ∃ canonical compatible runs,
    Spells canonicalTable canonical ∧ Spells compatibleTable compatible ∧
    Spells compatibleRunTable runs ∧
    FullOutside (spelledEntries canonical) (spelledEntries compatible) (spelledEntries runs)
      (spelledTree compatible)
      (decomposing (spelledEntries canonical) (spelledEntries compatible)
        (spelledEntries runs)) := by
  apply Exists.intro
  apply Exists.intro
  apply Exists.intro
  apply And.intro
  · repeat' constructor
  apply And.intro
  · repeat' constructor
  apply And.intro
  · repeat' constructor
  · decide +kernel

/-- What the tables decompose into does not decompose by them. -/
lemma tables_full :
    FullOutside (tableEntries canonicalTable) (tableEntries compatibleTable)
      (tableEntries compatibleRunTable) compatibleTree decomposed := by
  obtain ⟨canonical, compatible, runs, h, h', h'', full⟩ := tables_spelled
  rw [decomposed, compatibleTree, tableEntries_spells h, tableEntries_spells h',
    tableEntries_spells h'', tableTree_spells h']
  exact full

/-- A code point that no table decomposes is settled, unless it is a Korean syllable. -/
lemma settled_of_isOutside {n} (h : isOutside decomposed n = true) : Settled n := by
  rw [isOutside, Bool.and_eq_true, Bool.and_eq_true, Bool.not_eq_true', Option.isNone_iff_eq_none,
    decide_eq_true_iff] at h
  obtain ⟨⟨outside, valid⟩, noSyllable⟩ := h
  have absent : n ∉ (tableEntries canonicalTable).map (·.headD 0) ++
      ((tableEntries compatibleTable).map (·.headD 0) ++
        (tableEntries compatibleRunTable).flatMap runNumbers) := by
    intro mem
    have inside : decomposed.testBit n = true := testBit_bitset.2 mem
    rw [outside] at inside
    cases inside
  rw [List.mem_append, List.mem_append, not_or, not_or] at absent
  obtain ⟨noCanonical, noCompatible, noRun⟩ := absent
  refine ⟨valid, noSyllable, ?_, ?_, ?_⟩
  · rw [Option.eq_none_iff_forall_ne_some]
    rintro ⟨distance, target⟩ found
    obtain ⟨first, last, mem, behind, within, _⟩ := mem_of_findRun? found
    refine noRun (List.mem_flatMap.2 ⟨_, mem, ?_⟩)
    exact List.mem_range'_1.2 ⟨behind, by omega⟩
  · rw [Option.eq_none_iff_forall_ne_some]
    intro v found
    exact noCompatible (List.mem_map.2 ⟨_, mem_of_find? found, rfl⟩)
  · rw [Option.eq_none_iff_forall_ne_some]
    intro v found
    exact noCanonical (List.mem_map.2 ⟨_, mem_of_find? found, rfl⟩)

/-- Small numbers are settled. -/
lemma settled_of_lt {n} (small : n < 0xa0) : Settled n :=
  settled_of_isOutside (List.all_eq_true.1 tables_full.1 n (List.mem_range.2 small))

/-- A Korean syllable decomposes into letters of Korean syllables. -/
lemma mem_syllableLetters {n m letters} (syllable : syllableLetters? n = some letters)
    (mem : m ∈ letters) : m ∈ syllableLetters := by
  unfold syllableLetters? at syllable
  by_cases range : 0xac00 ≤ n ∧ n < 0xac00 + 11172
  case neg =>
    rw [if_neg range] at syllable
    cases syllable
  case pos =>
    rw [if_pos range] at syllable
    have bound : n - 0xac00 < 11172 := by omega
    generalize n - 0xac00 = i at syllable bound
    rw [← Option.some.inj syllable] at mem
    simp only [syllableLetters, List.mem_append, List.mem_range'_1]
    by_cases noTail : i % 28 = 0
    case pos =>
      rw [if_pos noTail, List.mem_cons, List.mem_singleton] at mem
      omega
    case neg =>
      rw [if_neg noTail, List.mem_append, List.mem_cons, List.mem_singleton,
        List.mem_singleton] at mem
      omega

/-- What a code point decomposes into is settled. -/
lemma settled_of_mem {n m} (valid : n.isValidChar) (mem : m ∈ compatibleDecomposition n) :
    Settled m := by
  obtain ⟨_, syllables, canonical, compatible, runs⟩ := tables_full
  cases noRun : findRun? compatibleRunTree n with
  | some run =>
    obtain ⟨distance, target⟩ := run
    obtain ⟨first, last, entry, behind, within, rfl⟩ := mem_of_findRun? noRun
    rw [compatibleDecomposition_run noRun, List.mem_singleton] at mem
    refine settled_of_isOutside (List.all_eq_true.1 (List.all_eq_true.1 runs _ entry) _ ?_)
    exact List.mem_range'_1.2 ⟨by omega, by omega⟩
  | none =>
    rw [compatibleDecomposition_of_noRun noRun] at mem
    cases noCompatible : compatibleTree.find? n with
    | some v =>
      rw [noCompatible, Option.getD_some] at mem
      have entry := mem_of_find? noCompatible
      exact settled_of_isOutside (List.all_eq_true.1 (List.all_eq_true.1 compatible _ entry) m mem)
    | none =>
      -- only here a canonical decomposition counts
      rw [noCompatible, Option.getD_none] at mem
      cases noSyllable : syllableLetters? n with
      | some letters =>
        rw [canonicalDecomposition_syllable noSyllable] at mem
        have letter := mem_syllableLetters noSyllable mem
        exact settled_of_isOutside (List.all_eq_true.1 syllables m letter)
      | none =>
        rw [canonicalDecomposition_of_noSyllable noSyllable] at mem
        cases noCanonical : canonicalTree.find? n with
        | some v =>
          rw [noCanonical, Option.getD_some] at mem
          have full := List.all_eq_true.1 canonical _ (mem_of_find? noCanonical)
          rw [List.headD_cons, noCompatible, Option.isSome_none, Bool.or_false] at full
          exact settled_of_isOutside (List.all_eq_true.1 full m mem)
        | none =>
          rw [noCanonical, Option.getD_none] at mem
          rw [List.mem_singleton.1 mem]
          exact ⟨valid, noSyllable, noRun, noCompatible, noCanonical⟩

end SeedVault.Text
