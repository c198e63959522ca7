import SeedVault.Proofs.Storage.Isolation

/-!
# Texts of paths

The text of a path below another one spells the names of the first and then those of the second,
whatever the first one's text looks like (`pathFrom_joinPath`). The name of an origin's directory
stands for itself, so that the path of an origin's store leads to the root first, then to the
directory of the stores, and then to that name (`Layout.pathFrom_store`).
-/

namespace SeedVault

open Text

/-- A slash separates the names before it from those behind it. -/
lemma pathNames_append (base path : String) :
    pathNames (base ++ "/" ++ path) = pathNames base ++ pathNames path := by
  have spelled : (base ++ "/" ++ path).toList = base.toList ++ '/' :: path.toList := by
    rw [String.toList_append, String.toList_append, List.append_assoc]
    rfl
  unfold pathNames splitAtChar
  rw [spelled, splitBy_append _ _ (by decide), List.filter_append, List.map_append]

/-- A text without slashes is one name. -/
lemma pathNames_of_clear {name : String} (ne : name ≠ "") (clear : '/' ∉ name.toList) :
    pathNames name = [name] := by
  have whole : ∀ c ∈ name.toList, (c == '/') = false := by
    rintro c mem
    refine beq_false_of_ne ?_
    rintro rfl
    exact clear mem
  have kept : [name.toList].filter (· ≠ []) = [name.toList] := by
    rw [List.filter_eq_self]
    intro w mem
    rw [List.mem_singleton.1 mem]
    exact decide_eq_true (mt String.toList_eq_nil_iff.1 ne)
  unfold pathNames splitAtChar
  rw [splitBy_of_clear whole, kept, List.map_singleton, String.ofList_toList]

/-- A text that is not empty starts as it does with more behind it. -/
lemma startsWith_append {base : String} (ne : base ≠ "") (path : String) :
    (base ++ path).startsWith "/" = base.startsWith "/" := by
  rw [Bool.eq_iff_iff, String.startsWith_string_iff, String.startsWith_string_iff,
    String.toList_append]
  cases e : base.toList with
  | nil => exact absurd (String.toList_eq_nil_iff.1 e) ne
  | cons c cs =>
    change ['/'] <+: c :: (cs ++ path.toList) ↔ ['/'] <+: c :: cs
    rw [List.cons_prefix_cons, List.cons_prefix_cons]
    simp only [List.nil_prefix]

/-- A text that ends with another one has its characters at the end. -/
lemma suffix_of_endsWith {s ending : String} (ends : s.endsWith ending = true) :
    ending.toList <:+ s.toList := by
  have ends' : s.toSlice.endsWith ending = true := ends
  rw [String.Slice.endsWith_string_iff, String.copy_toSlice] at ends'
  exact ends'

/-- A path below another one goes on where the other one ends. -/
lemma pathFrom_joinPath (current : List String) (base : String) {path : String}
    (relative : path.startsWith "/" = false) :
    pathFrom current (joinPath base path) = pathFrom current base ++ pathNames path := by
  unfold joinPath
  rw [relative, if_neg Bool.false_ne_true]
  by_cases empty : base = ""
  · subst empty
    have start : ("" : String).startsWith "/" = false := by simp
    rw [if_pos (.inl rfl), String.empty_append, pathFrom, pathFrom, relative, start]
    rw [if_neg Bool.false_ne_true, if_neg Bool.false_ne_true, List.append_assoc]
    rfl
  -- the joined text starts like the first one, so both are read from the same place
  have behind (joined : String) (start : joined.startsWith "/" = base.startsWith "/")
      (names : pathNames joined = pathNames base ++ pathNames path) :
      pathFrom current joined = pathFrom current base ++ pathNames path := by
    rw [pathFrom, pathFrom, start, names]
    split
    · rfl
    · rw [List.append_assoc]
  split
  case isTrue ends =>
    obtain ⟨front, e⟩ := suffix_of_endsWith (ends.resolve_left empty)
    have spelled : base = String.ofList front ++ "/" ++ "" := by
      rw [← String.toList_inj, ← e]
      simp
    refine behind _ (startsWith_append empty path) ?_
    rw [spelled, pathNames_append, String.append_empty, pathNames_append]
    rw [show pathNames "" = [] from rfl, List.append_nil]
  case isFalse =>
    refine behind _ ?_ (pathNames_append base path)
    rw [String.append_assoc, startsWith_append empty]

/-- A text without slashes is that of a path that starts where one is. -/
lemma relative_of_clear {name : String} (clear : '/' ∉ name.toList) :
    name.startsWith "/" = false := by
  rw [String.startsWith_string_eq_false_iff]
  intro start
  exact clear (start.subset (List.mem_singleton.2 rfl))

/-- Joined parts have no characters but theirs and those between them. -/
lemma Text.mem_joinWith {sep : List Char} {ws} {c} (mem : c ∈ joinWith sep ws) :
    c ∈ sep ∨ ∃ w ∈ ws, c ∈ w := by
  fun_induction joinWith sep ws with
  | case1 => exact absurd mem List.not_mem_nil
  | case2 w => exact .inr ⟨w, List.mem_singleton.2 rfl, mem⟩
  | case3 w ws _ ih =>
    rw [List.mem_append, List.mem_append] at mem
    obtain (mem | mem) | mem := mem
    · exact .inr ⟨w, List.mem_cons_self, mem⟩
    · exact .inl mem
    · obtain mem | ⟨v, among, mem⟩ := ih mem
      · exact .inl mem
      · exact .inr ⟨v, List.mem_cons_of_mem w among, mem⟩

namespace Origin

variable {o : Origin} {n : Nat}

/-- There is no slash in the name of an origin's directory. -/
lemma clear_directoryName (implied : defaultPort? o.scheme = some n) :
    '/' ∉ o.directoryName.toList := by
  rw [directoryName_eq implied, String.toList_ofList]
  intro mem
  obtain mem | ⟨w, among, mem⟩ := mem_joinWith mem
  · exact absurd (List.mem_singleton.1 mem) (by decide)
  · exact absurd ((plain_of_mem_parts implied among).2 _ mem) (by decide)

/-- The name of an origin's directory begins like the scheme. -/
lemma directoryName_ne_empty (implied : defaultPort? o.scheme = some n) :
    o.directoryName ≠ "" := by
  obtain ⟨_, c, cs, e, _⟩ := plain_scheme implied
  rw [directoryName_eq implied, parts, e]
  cases nameRuns o.host.text.toList ++ o.portParts with
  | nil => exact fun empty => absurd (String.ofList_eq_empty_iff.1 empty) (List.cons_ne_nil c cs)
  | cons w ws =>
    exact fun empty => absurd (String.ofList_eq_empty_iff.1 empty) (List.cons_ne_nil c _)

/-- The name of an origin's directory stands for itself. -/
lemma pathNames_directoryName (implied : defaultPort? o.scheme = some n) :
    pathNames o.directoryName = [o.directoryName] :=
  pathNames_of_clear (directoryName_ne_empty implied) (clear_directoryName implied)

end Origin

namespace Layout

/-- The file of the configuration is in the root. -/
lemma pathFrom_appConfig (current : List String) (root : String) :
    pathFrom current (ofRoot root).appConfig = pathFrom current root ++ ["config.toml"] := by
  have clear : '/' ∉ "config.toml".toList := by decide
  change pathFrom current (joinPath root "config.toml") = _
  rw [pathFrom_joinPath current root (relative_of_clear clear),
    pathNames_of_clear (by decide) clear]

/-- The store of an origin is in the directory of the stores, which is in the root. -/
lemma pathFrom_store (current : List String) (root : String) {o : Origin} {n}
    (implied : defaultPort? o.scheme = some n) :
    pathFrom current (joinPath (ofRoot root).storageDir o.directoryName) =
      pathFrom current root ++ ["storage"] ++ [o.directoryName] := by
  have clear : '/' ∉ "storage".toList := by decide
  change pathFrom current (joinPath (joinPath root "storage") o.directoryName) = _
  rw [pathFrom_joinPath current _ (relative_of_clear (Origin.clear_directoryName implied)),
    pathFrom_joinPath current root (relative_of_clear clear), pathNames_of_clear (by decide) clear,
    Origin.pathNames_directoryName implied]

end Layout

end SeedVault
