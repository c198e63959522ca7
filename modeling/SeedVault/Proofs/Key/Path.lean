import SeedVault.Key.Path
import SeedVault.Proofs.Json.Quoted
import SeedVault.Proofs.Text.Blank
import SeedVault.Proofs.Text.Decimal
import SeedVault.Proofs.Text.Split

/-!
# The spelling of derivation paths

A step is read from exactly one text (`PathStep.parse?_eq_some_iff`), and so is a list of steps
(`parseSteps?_eq_some_iff`). Since no spelling holds a blank (`visible_of_mem_render`), blanks
around one are the only freedom in the text of a path (`reads_one_spelling`).
-/

namespace SeedVault

namespace PathStep
open Text

/-- The characters of a step: digits and the mark of a hardened one. -/
lemma digit_or_mark_of_mem_render {s : PathStep} {c} (mem : c ∈ s.render) :
    Decimal.IsDigit c ∨ c = '\'' := by
  rw [render, List.mem_append] at mem
  rcases mem with mem | mem
  · exact .inl (Decimal.digit_of_mem_write mem)
  · split at mem
    · exact .inr (List.mem_singleton.1 mem)
    · cases mem

/-- The mark behind a number is split off. -/
lemma splitMark_marked (cs) : splitMark (cs ++ ['\'']) = (cs, true) := by
  rw [splitMark, List.getLast?_append_of_ne_nil _ (List.cons_ne_nil _ _)]
  simp only [List.getLast?_singleton, List.dropLast_concat]

/-- Without a mark at the end nothing is split off. -/
lemma splitMark_unmarked {cs} (unmarked : ∀ c ∈ cs.getLast?, c ≠ '\'') :
    splitMark cs = (cs, false) := by
  rw [splitMark]
  split
  case h_1 e => exact absurd rfl (unmarked _ e)
  case h_2 => rfl

/-- What is cut off is the mark. -/
lemma eq_of_splitMark {cs digits hardened} (h : splitMark cs = (digits, hardened)) :
    cs = digits ++ if hardened then ['\''] else [] := by
  rw [splitMark] at h
  split at h
  case h_1 e =>
    cases h
    obtain ⟨front, rfl⟩ := List.getLast?_eq_some_iff.1 e
    rw [List.dropLast_concat]
    rfl
  case h_2 =>
    cases h
    exact (List.append_nil cs).symm

/-- A written step is split into its number and whether it is marked. -/
lemma splitMark_render (s : PathStep) :
    splitMark s.render = (Decimal.write s.index, s.hardened) := by
  rw [render]
  cases s.hardened with
  | true => exact splitMark_marked _
  | false =>
    rw [if_neg Bool.false_ne_true, List.append_nil]
    refine splitMark_unmarked ?_
    rintro c mem rfl
    exact absurd (Decimal.digit_of_mem_write (List.mem_of_getLast? mem)).1 (by decide)

/-- An index is read back from its digits. -/
lemma read_index (s : PathStep) :
    Decimal.read Decimal.max32 (Decimal.write s.index) = .ok s.index :=
  Decimal.read_write (Nat.le_of_lt (Nat.lt_trans s.inRange (by decide)))

/-- A text spells a step exactly if it is the text of the step. -/
lemma parse?_eq_some_iff {cs} {s : PathStep} : parse? cs = some s ↔ cs = s.render := by
  constructor
  · intro h
    rw [parse?] at h
    cases split : splitMark cs with
    | mk digits hardened =>
      rw [split] at h
      cases read : Decimal.read Decimal.max32 digits with
      | error e =>
        simp only [read] at h
        cases h
      | ok index =>
        simp only [read] at h
        split at h
        case isFalse => cases h
        case isTrue canonical =>
          cases h
          rw [eq_of_splitMark split, render, canonical.2]
  · rintro rfl
    rw [parse?, splitMark_render]
    simp only [read_index]
    exact dif_pos ⟨s.inRange, trivial⟩

end PathStep

namespace DerivationPath
open Text

/-- The one spelling of some steps: an `m`, then for each step a slash, its index in decimal and, if
it is hardened, an apostrophe. -/
def spelling (steps : List PathStep) : String :=
  "m" ++ String.join (steps.map fun s =>
    "/" ++ Nat.repr s.index ++ if s.hardened then "'" else "")

/-- The characters of a spelling are those of the written steps. -/
lemma toList_spelling (steps) : (spelling steps).toList = render steps := by
  have step : ∀ s : PathStep,
      ("/" ++ Nat.repr s.index ++ if s.hardened then "'" else "").toList = '/' :: s.render := by
    intro s
    rw [String.toList_append, String.toList_append, ← Decimal.write_eq_repr, PathStep.render]
    cases s.hardened <;> rfl
  rw [spelling, String.toList_append, String.toList_join, List.flatMap_map]
  simp only [step]
  rfl

/-- The text of a path is the spelling of its steps. -/
lemma text_eq_spelling (p : DerivationPath) : p.text = spelling p.steps := by
  rw [text, ← toList_spelling, String.ofList_toList]

/-- The text of a path is that of its parts with slashes between them. -/
lemma render_eq_joinWith (steps : List PathStep) :
    render steps = joinWith ['/'] (['m'] :: steps.map PathStep.render) := by
  have behind : ∀ w : List Char, joinWith ['/'] (w :: steps.map PathStep.render) =
      w ++ steps.flatMap fun s => '/' :: s.render := by
    induction steps with
    | nil => exact fun w => (List.append_nil w).symm
    | cons s steps ih =>
      intro w
      rw [List.map_cons, joinWith, ih, List.flatMap_cons]
      · simp only [List.append_assoc, List.cons_append, List.nil_append]
      · exact List.cons_ne_nil _ _
  exact (behind ['m']).symm

/-- No part of a path holds a slash. -/
lemma clear_of_mem_parts {steps : List PathStep} {w}
    (mem : w ∈ ['m'] :: steps.map PathStep.render) : ∀ c ∈ w, (c == '/') = false := by
  intro c hc
  rw [beq_eq_false_iff_ne]
  rintro rfl
  rcases List.mem_cons.1 mem with rfl | mem
  · exact absurd hc (by decide)
  · obtain ⟨s, _, rfl⟩ := List.mem_map.1 mem
    rcases PathStep.digit_or_mark_of_mem_render hc with digit | mark
    · exact absurd digit.1 (by decide)
    · exact absurd mark (by decide)

/-- The slashes of a path's text are those between its parts. -/
lemma splitAtChar_render (steps : List PathStep) :
    splitAtChar '/' (render steps) = ['m'] :: steps.map PathStep.render := by
  rw [render_eq_joinWith]
  exact splitBy_joinWith (List.cons_ne_nil _ _) rfl fun w => clear_of_mem_parts

/-- Texts spell steps exactly if they are the texts of the steps. -/
lemma mapM_parse?_eq_some_iff {segments : List (List Char)} {steps} :
    segments.mapM PathStep.parse? = some steps ↔ segments = steps.map PathStep.render := by
  induction segments generalizing steps with
  | nil =>
    rw [List.mapM_nil, eq_comm (a := []), List.map_eq_nil_iff]
    exact ⟨fun h => (Option.some.inj h).symm, fun h => congrArg some h.symm⟩
  | cons w segments ih =>
    rw [List.mapM_cons]
    constructor
    · intro h
      obtain ⟨s, first, h⟩ := Option.bind_eq_some_iff.1 h
      obtain ⟨rest, others, ⟨⟩⟩ := Option.bind_eq_some_iff.1 h
      rw [List.map_cons, PathStep.parse?_eq_some_iff.1 first, ih.1 others]
    · intro e
      obtain ⟨s, rest, rfl, first, others⟩ := List.map_eq_cons_iff.1 e.symm
      rw [PathStep.parse?_eq_some_iff.2 first.symm, ih.2 others.symm]
      rfl

/-- A text spells some steps exactly if it is the text of the steps. -/
lemma parseSteps?_eq_some_iff {cs steps} : parseSteps? cs = some steps ↔ cs = render steps := by
  constructor
  · intro h
    rw [parseSteps?] at h
    split at h
    case h_1 segments parts =>
      rw [mapM_parse?_eq_some_iff] at h
      rw [← joinWith_splitAtChar '/' cs, parts, h, render_eq_joinWith]
    case h_2 => cases h
  · rintro rfl
    rw [parseSteps?, splitAtChar_render]
    exact mapM_parse?_eq_some_iff.2 rfl

/-- Different steps have different texts. -/
lemma render_inj {steps steps'} : render steps = render steps' ↔ steps = steps' := by
  constructor
  · intro same
    rw [← parseSteps?_eq_some_iff, parseSteps?_eq_some_iff.2 rfl] at same
    exact Option.some.inj same
  · rintro rfl
    rfl

/-- No spelling holds a blank. -/
lemma visible_of_mem_render {steps c} (mem : c ∈ render steps) : isBlank c = false := by
  have digits : ∀ n ∈ List.range' 48 10, inRanges blankRanges n = false := by decide
  rw [render, List.mem_cons, List.mem_flatMap] at mem
  rcases mem with rfl | ⟨s, _, mem⟩
  · decide
  · rcases List.mem_cons.1 mem with rfl | mem
    · decide
    · rcases PathStep.digit_or_mark_of_mem_render mem with ⟨lo, hi⟩ | rfl
      · exact digits c.toNat (List.mem_range'_1.2 ⟨lo, by omega⟩)
      · decide

/-- Written steps have no blanks at their ends. -/
lemma bare_render (steps) : Bare (render steps) :=
  ⟨fun _ mem => visible_of_mem_render (List.mem_of_head? mem),
    fun _ mem => visible_of_mem_render (List.mem_of_getLast? mem)⟩

/-- A text is read as a path exactly if its steps are written so, up to blanks at the ends. -/
lemma parse_ok_iff {s p} : parse s = .ok p ↔ trim s.toList = render p.steps := by
  rw [← parseSteps?_eq_some_iff, parse]
  cases parseSteps? (trim s.toList) with
  | none => exact ⟨nofun, nofun⟩
  | some steps =>
    rw [Except.ok.injEq, Option.some_inj]
    constructor
    · rintro rfl
      rfl
    · rintro rfl
      rfl

/-- A text is refused with itself in the error, exactly if no steps are written so. -/
lemma parse_error_iff {s e} :
    parse s = .error e ↔ e = ⟨s⟩ ∧ ∀ steps, trim s.toList ≠ render steps := by
  simp only [ne_eq, ← parseSteps?_eq_some_iff]
  rw [parse]
  cases parseSteps? (trim s.toList) with
  | none =>
    rw [Except.error.injEq]
    exact ⟨fun h => ⟨h.symm, nofun⟩, fun h => h.1.symm⟩
  | some steps => exact ⟨nofun, fun h => absurd rfl (h.2 steps)⟩

/-- A trimmed text is a spelling if its characters are those of the steps. -/
lemma trimmed_eq_spelling_iff {s steps} :
    trimmed s = spelling steps ↔ trim s.toList = render steps := by
  rw [trimmed, ← String.toList_inj, String.toList_ofList, toList_spelling]

/-- A text is trimmed to a spelling exactly if it is that spelling with blanks on both sides. -/
lemma trim_eq_render_iff {cs steps} :
    trim cs = render steps ↔
      ∃ before after, AllBlank before ∧ AllBlank after ∧ cs = before ++ render steps ++ after := by
  constructor
  · intro h
    rw [← h]
    exact exists_pad cs
  · rintro ⟨before, after, hb, ha, rfl⟩
    exact trim_pad hb ha (bare_render steps)

/-- The text of a path is read as that path. -/
lemma parse_text (p : DerivationPath) : parse p.text = .ok p := by
  rw [parse_ok_iff, text, String.toList_ofList]
  exact trim_eq_render_iff.2 ⟨[], [], nofun, nofun, (List.append_nil _).symm⟩

/-- A path is read back from its value in JSON. -/
lemma ofJson_toJson (p : DerivationPath) : ofJson p.toJson = .ok p := by
  rw [toJson, ofJson, parse_text]
  rfl

/-- The JSON text of a path is read as the path's JSON value. -/
lemma parse_write_toJson (p : DerivationPath) : Json.parse p.toJson.write = .ok p.toJson := by
  rw [toJson, Json.write, Json.parse_quote]

/-- A path is read from exactly one text, apart from blanks around it: the spelling of its steps.
What was read has that spelling as its text, and any other text is returned with the error as it was
given. Different steps have different spellings, so paths with the same text have the same steps,
and every path is read back from its text and from its JSON text. -/
theorem reads_one_spelling :
    (∀ s p, parse s = .ok p ↔ trimmed s = spelling p.steps) ∧
    (∀ s steps, trimmed s = spelling steps ↔
      ∃ before after, AllBlank before ∧ AllBlank after ∧
        s.toList = before ++ (spelling steps).toList ++ after) ∧
    (∀ s p, parse s = .ok p → p.text = spelling p.steps ∧ p.text = trimmed s) ∧
    (∀ s e, parse s = .error e ↔ e.text = s ∧ ∀ steps, trimmed s ≠ spelling steps) ∧
    (∀ steps steps', spelling steps = spelling steps' ↔ steps = steps') ∧
    (∀ p q : DerivationPath, p.text = q.text ↔ p.steps = q.steps) ∧
    (∀ p : DerivationPath, parse p.text = .ok p) ∧
    ∀ p : DerivationPath, (Json.parse p.toJson.write).map ofJson = .ok (.ok p) := by
  have inj : ∀ steps steps', spelling steps = spelling steps' ↔ steps = steps' := by
    intro steps steps'
    rw [← String.toList_inj, toList_spelling, toList_spelling, render_inj]
  refine ⟨?_, ?_, ?_, ?_, inj, ?_, parse_text, ?_⟩
  · intro s p
    rw [parse_ok_iff, trimmed_eq_spelling_iff]
  · intro s steps
    rw [trimmed_eq_spelling_iff, trim_eq_render_iff, toList_spelling]
  · intro s p h
    rw [parse_ok_iff, ← trimmed_eq_spelling_iff] at h
    exact ⟨text_eq_spelling p, (text_eq_spelling p).trans h.symm⟩
  · intro s e
    rw [parse_error_iff]
    simp only [ne_eq, trimmed_eq_spelling_iff]
    constructor
    · rintro ⟨rfl, none⟩
      exact ⟨rfl, none⟩
    · rintro ⟨rfl, none⟩
      exact ⟨rfl, none⟩
  · intro p q
    rw [text_eq_spelling, text_eq_spelling, inj]
  · intro p
    rw [parse_write_toJson, Except.map, ofJson_toJson]

end DerivationPath

end SeedVault
