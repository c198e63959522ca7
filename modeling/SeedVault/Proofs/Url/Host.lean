import SeedVault.Proofs.Bytes.Bits
import SeedVault.Proofs.Text.Decimal
import SeedVault.Proofs.Text.Split
import SeedVault.Url.Host

/-!
# The text of a host

A host that was read is `Canonical`: a domain name is not empty and does not end in a number, and an
address of four bytes fits into them (`canonical_of_read`). The texts of such hosts without brackets
determine the hosts (`text_inj`).
-/

namespace SeedVault

namespace Host
open Text

/-- What reading makes of a host. -/
def Canonical : Host → Prop
  | domain name => name ≠ "" ∧ endsInNumber name.toList = false
  | address4 bits => bits < 256 ^ 4
  | address6 _ => True

/-- Parts of at most a byte leave room for what the parts behind them fill. -/
lemma placed_add_le {ns i} (bytes : ∀ n ∈ ns, n ≤ 255) (fits : i + ns.length ≤ 4) :
    placed i ns + 256 ^ (4 - i - ns.length) ≤ 256 ^ (4 - i) := by
  induction ns generalizing i with
  | nil =>
    rw [placed, Nat.zero_add]
    exact Nat.le_refl _
  | cons n ns ih =>
    obtain ⟨byte, bytes⟩ := List.forall_mem_cons.1 bytes
    rw [List.length_cons] at fits
    -- what the places behind leave free is the room for this one
    have rest := ih bytes (i := i + 1) (by omega)
    have place : 256 ^ (4 - i) = 256 * 256 ^ (3 - i) := by
      rw [← Nat.pow_succ', show 4 - i = (3 - i).succ by omega]
    have part : n * Nat.pow 256 (3 - i) ≤ 255 * 256 ^ (3 - i) := Nat.mul_le_mul_right _ byte
    rw [show 4 - (i + 1) = 3 - i by omega] at rest
    rw [placed, List.length_cons, place,
      show 4 - i - (ns.length + 1) = 3 - i - ns.length by omega]
    omega

/-- An address of four bytes that is read has four bytes. -/
lemma readAddress4_lt {name bits} (h : readAddress4 name = .ok bits) : bits < 256 ^ 4 := by
  rw [readAddress4] at h
  split at h
  case h_1 => cases h
  case h_2 numbers _ =>
    split at h
    case h_1 => cases h
    case h_2 last front e =>
      split at h
      case isTrue => cases h
      case isFalse small =>
        rw [not_or, not_or] at small
        obtain ⟨few, bytes, lastSmall⟩ := small
        have count : numbers.length = front.length + 1 := by
          rw [← List.length_reverse, e, List.length_cons]
        have frontSmall : ∀ n ∈ front.reverse, n ≤ 255 := by
          intro n mem
          by_contra large
          exact bytes (List.any_eq_true.2 ⟨n, List.mem_reverse.1 mem, decide_eq_true (by omega)⟩)
        have sum := placed_add_le (i := 0) frontSmall (by rw [List.length_reverse]; omega)
        have room : last < 256 ^ (4 - 0 - front.reverse.length) := by
          rw [List.length_reverse, show 4 - 0 - front.length = 5 - numbers.length by omega]
          exact Nat.lt_of_not_le lastSmall
        cases h
        omega

/-- Reading gives canonical hosts. -/
lemma canonical_of_read {cs h} (found : read cs = .ok h) : h.Canonical := by
  -- an address in brackets, one that ends in a number, or else a name
  unfold read at found
  split at found
  case h_1 rest =>
    split at found
    case isTrue =>
      cases pieces : readAddress6 rest.dropLast with
      | error e =>
        rw [pieces] at found
        cases found
      | ok ps =>
        rw [pieces] at found
        cases found
        trivial
    case isFalse => cases found
  case h_2 =>
    split at found
    case h_1 => cases found
    case h_2 =>
      split at found
      case h_1 => cases found
      case h_2 => cases found
      case h_3 name ne _ =>
        split at found
        case isTrue =>
          cases address : readAddress4 name with
          | error e =>
            rw [address] at found
            cases found
          | ok bits =>
            rw [address] at found
            cases found
            exact readAddress4_lt address
        case isFalse ends =>
          cases found
          rw [Canonical, String.toList_ofList]
          exact ⟨mt String.ofList_eq_empty_iff.1 ne, Bool.eq_false_iff.2 ends⟩

/-- The bytes of an address of four, as they are written. -/
def dotted (bits : Nat) : List (List Char) :=
  (Bytes.ofNat 4 bits).map fun b => Decimal.write b.toNat

/-- The text of an address of four bytes is its numbers, with points between them. -/
lemma toList_text4 (bits) : (address4 bits).text.toList = joinWith ['.'] (dotted bits) := by
  rw [text, String.toList_intercalate, joinWith_eq_intercalate, dotted, List.map_map]
  simp only [Function.comp_def, Decimal.toList_text]
  rfl

/-- Bytes are written in digits. -/
lemma digits_of_mem_dotted {bits w} (mem : w ∈ dotted bits) :
    w ≠ [] ∧ ∀ c ∈ w, Decimal.IsDigit c := by
  obtain ⟨b, _, rfl⟩ := List.mem_map.1 mem
  exact ⟨Decimal.write_ne_nil _, fun c => Decimal.digit_of_mem_write⟩

/-- Each of the numbers has digits, and no point is among them. -/
lemma clear_of_mem_dotted {bits w} (mem : w ∈ dotted bits) :
    w ≠ [] ∧ ∀ c ∈ w, (c == '.') = false := by
  obtain ⟨ne, digits⟩ := digits_of_mem_dotted mem
  refine ⟨ne, fun c hc => ?_⟩
  rw [beq_eq_false_iff_ne]
  rintro rfl
  exact absurd (digits '.' hc).1 (by decide)

/-- The text of an address of four bytes ends in a number. -/
lemma endsInNumber_text4 (bits) : endsInNumber (address4 bits).text.toList = true := by
  have ne : dotted bits ≠ [] := List.cons_ne_nil _ _
  have cut : splitAtChar '.' (address4 bits).text.toList = dotted bits := by
    rw [toList_text4]
    exact splitBy_joinWith ne rfl fun w mem => (clear_of_mem_dotted mem).2
  obtain ⟨last, hl⟩ : ∃ last, (dotted bits).getLast? = some last :=
    ⟨_, List.getLast?_eq_some_getLast ne⟩
  obtain ⟨written, digits⟩ := digits_of_mem_dotted (List.mem_of_getLast? hl)
  have parts : nameParts (address4 bits).text.toList = dotted bits := by
    have kept : ¬((dotted bits).length > 1 ∧ (dotted bits).getLast? = some []) := by
      rw [hl, Option.some_inj]
      exact fun h => written h.2
    simp only [nameParts, cut, if_neg kept]
  have all : last.all Char.isDigit = true :=
    List.all_eq_true.2 fun c mem => (digits c mem).isDigit
  rw [endsInNumber, parts, hl]
  simp only [all, decide_eq_true written, Bool.and_self, Bool.true_or]

/-- Addresses of four bytes are known from their texts. -/
lemma dotted_inj {m n} (hm : m < 256 ^ 4) (hn : n < 256 ^ 4) : dotted m = dotted n ↔ m = n := by
  constructor
  · intro same
    have bytes : Bytes.ofNat 4 m = Bytes.ofNat 4 n :=
      (List.map_inj_right fun b c e => UInt8.toNat_inj.1 (Decimal.write_inj.1 e)).1 same
    rw [← Bytes.toNat_ofNat hm, bytes, Bytes.toNat_ofNat hn]
  · rintro rfl
    rfl

/-- An address of eight pieces is written in brackets. -/
lemma bracket_mem_text6 (ps) : '[' ∈ (address6 ps).text.toList := by
  simp only [text]
  split <;> simp [String.toList_append]

/-- A canonical host has a text. -/
lemma toList_text_ne_nil {h : Host} (canonical : h.Canonical) : h.text.toList ≠ [] := by
  cases h with
  | domain name => exact mt String.toList_eq_nil_iff.1 canonical.1
  | address4 bits =>
    intro empty
    have ends := endsInNumber_text4 bits
    rw [empty] at ends
    exact absurd ends (by decide)
  | address6 ps => exact List.ne_nil_of_mem (bracket_mem_text6 ps)

/-- The text of a canonical host without brackets determines it. -/
lemma text_inj {h k : Host} (hh : h.Canonical) (hk : k.Canonical) (bare : '[' ∉ h.text.toList) :
    h.text = k.text ↔ h = k := by
  constructor
  · intro same
    cases h with
    | address6 ps => exact absurd (bracket_mem_text6 ps) bare
    | domain name =>
      cases k with
      | address6 ps => exact absurd (same ▸ bracket_mem_text6 ps) bare
      | domain name' => exact congrArg domain same
      -- a name that reads like an address of four bytes would end in a number
      | address4 n =>
        have ends := endsInNumber_text4 n
        rw [← same] at ends
        exact absurd (hh.2.symm.trans ends) nofun
    | address4 m =>
      cases k with
      | address6 ps => exact absurd (same ▸ bracket_mem_text6 ps) bare
      | domain name' =>
        have ends := endsInNumber_text4 m
        rw [same] at ends
        exact absurd (hk.2.symm.trans ends) nofun
      | address4 n =>
        have joined := congrArg String.toList same
        rw [toList_text4, toList_text4,
          joinWith_inj (p := (· == '.')) rfl (fun w => clear_of_mem_dotted)
            (fun w => clear_of_mem_dotted), dotted_inj hh hk] at joined
        rw [joined]
  · rintro rfl
    rfl

end Host

end SeedVault
