import SeedVault.Proofs.Url.Site

/-!
# Ports that go without saying

A port that the scheme implies may stand behind the host of an address of the web or be left out,
with leading zeros or without: the address that is read is the same one (`parse_of_namesImplied`).
-/

namespace SeedVault.Url

open Text

/-- The characters in front of which the authority of an address of the web ends. -/
def EndsAuthority (c : Char) : Prop := c = '/' ∨ c = '\\' ∨ c = '?' ∨ c = '#'

/-- The second text is the first one with the port behind the host that the scheme implies. The host
is one that a colon behind it ends, so that no port follows it in the first text. -/
inductive NamesImplied : List Char → List Char → Prop
  | behind {name slashes user host digits tail : List Char} {scheme n} :
    splitScheme? (name ++ [':']) = some (scheme, []) →
    defaultPort? scheme = some n →
    (∀ c ∈ slashes, c = '/' ∨ c = '\\') →
    (user = [] ∨ ∃ who, user = who ++ ['@']) →
    (∀ c ∈ user ++ host, ¬ EndsAuthority c) →
    host ≠ [] →
    '@' ∉ host →
    splitPort false (host ++ [':']) = (host, some []) →
    (∀ c ∈ digits, Decimal.IsDigit c) →
    Decimal.read 65535 digits = .ok n →
    (∀ c ∈ tail.head?, EndsAuthority c) →
    NamesImplied (name ++ [':'] ++ (slashes ++ (user ++ host ++ tail)))
      (name ++ [':'] ++ (slashes ++ (user ++ (host ++ ':' :: digits) ++ tail)))

/-- A cut is behind what has nothing to cut at. -/
lemma cutAt_append {p : Char → Bool} {cs} (clear : ∀ c ∈ cs, p c = false) (ds : List Char) :
    cutAt p (cs ++ ds) = (cs ++ (cutAt p ds).1, (cutAt p ds).2) := by
  have pass : ∀ c ∈ cs, (!p c) = true := by
    intro c mem
    rw [clear c mem]
    rfl
  unfold cutAt
  rw [List.takeWhile_append_of_pos pass, List.dropWhile_append_of_pos pass]

/-- The tail of an address is behind what has no sign of a query or a fragment. -/
lemma splitTail_append {cs} (clear : ∀ c ∈ cs, c ≠ '#' ∧ c ≠ '?') (ds : List Char) :
    splitTail (cs ++ ds) = (cs ++ (splitTail ds).1, (splitTail ds).2) := by
  unfold splitTail
  rw [cutAt_append fun c mem => beq_false_of_ne (clear c mem).1]
  simp only
  rw [cutAt_append fun c mem => beq_false_of_ne (clear c mem).2]

/-- What stands in front of a query, in a text at whose start an authority ends, is nothing or
starts with a slash. -/
lemma isSlash_of_splitTail {tail : List Char} (ends : ∀ c ∈ tail.head?, EndsAuthority c) :
    ∀ c ∈ (splitTail tail).1.head?, isSlash true c = true := by
  cases tail with
  | nil => exact fun _ mem => by cases mem
  | cons c tail =>
    intro d mem
    obtain rfl | rfl | rfl | rfl := ends c rfl
    all_goals cases mem
    all_goals rfl

/-- Slashes behind the scheme of an address of the web do not count, and what ends at the next one
is the authority. -/
lemma readFront_authority {scheme more slashes front path} (special : isSpecialScheme scheme = true)
    (web : scheme ≠ "file") (skipped : ∀ c ∈ slashes, isSlash true c = true) (ne : front ≠ [])
    (clear : ∀ c ∈ front, isSlash true c = false) (ends : ∀ c ∈ path.head?, isSlash true c = true) :
    readFront scheme more (slashes ++ (front ++ path)) = do
      let (authority, rest) ← readAuthority scheme (more || path ≠ []) front
      return (some authority, .segments (readSegments true (rest ++ path))) := by
  have start : (slashes ++ (front ++ path)).dropWhile (isSlash true) = front ++ path := by
    obtain ⟨c, cs, rfl⟩ := List.exists_cons_of_ne_nil ne
    rw [List.dropWhile_append_of_pos skipped, List.cons_append, List.dropWhile_cons_of_neg]
    rw [clear c List.mem_cons_self]
    exact Bool.false_ne_true
  have cut : cutAt (isSlash true) path = ([], path) := by
    unfold cutAt
    cases path with
    | nil => rfl
    | cons c path =>
      have slash := ends c rfl
      rw [List.takeWhile_cons_of_neg (by simp [slash]),
        List.dropWhile_cons_of_neg (by simp [slash])]
  unfold readFront
  simp only [if_neg web, special, if_true]
  rw [start, cutAt_append clear, cut, List.append_nil]

/-- The host follows the last sign in a text. -/
lemma splitCredentials?_append {place} (bare : '@' ∉ place) (who : List Char) :
    splitCredentials? (who ++ '@' :: place) = some (who, place) := by
  have behind : ((who ++ '@' :: place).reverse.takeWhile (· ≠ '@')).reverse = place := by
    have pass : ∀ c ∈ place.reverse, decide (c ≠ '@') = true := by
      intro c mem
      refine decide_eq_true ?_
      rintro rfl
      exact bare (List.mem_reverse.1 mem)
    rw [List.reverse_append, List.reverse_cons, List.append_assoc,
      List.takeWhile_append_of_pos pass, List.singleton_append,
      List.takeWhile_cons_of_neg (by decide), List.append_nil, List.reverse_reverse]
  have size : (who ++ '@' :: place).length = who.length + 1 + place.length := by
    rw [List.length_append, List.length_cons]
    omega
  unfold splitCredentials?
  simp only [behind, size]
  rw [if_neg (by omega),
    show who.length + 1 + place.length - place.length - 1 = who.length by omega, List.take_left]

/-- Without a sign all of a text is the host. -/
lemma splitCredentials?_of_bare {place} (bare : '@' ∉ place) : splitCredentials? place = none := by
  have all : place.reverse.takeWhile (· ≠ '@') = place.reverse := by
    rw [List.takeWhile_eq_self_iff]
    intro c mem
    refine decide_eq_true ?_
    rintro rfl
    exact bare (List.mem_reverse.1 mem)
  unfold splitCredentials?
  simp only [all, List.reverse_reverse]
  rfl

/-- The credentials in front of a host do not depend on it. -/
lemma splitUser_append {user} (sign : user = [] ∨ ∃ who, user = who ++ ['@']) :
    ∃ who, ∀ more place, '@' ∉ place → place ≠ [] →
      splitUser more (user ++ place) = .ok (who, place) := by
  obtain rfl | ⟨who, rfl⟩ := sign
  · refine ⟨[], fun more place bare ne => ?_⟩
    rw [List.nil_append, splitUser, splitCredentials?_of_bare bare]
  · refine ⟨who, fun more place bare ne => ?_⟩
    rw [List.append_assoc, List.singleton_append, splitUser, splitCredentials?_append bare]
    cases who with
    | nil => exact if_neg fun empty => ne empty.1
    | cons c who => rfl

/-- A host that a colon behind it ends is cut off at the colon, and is whole without one. -/
lemma splitPort_append {inside host} (ended : splitPort inside (host ++ [':']) = (host, some []))
    (port : List Char) :
    splitPort inside (host ++ ':' :: port) = (host, some port) ∧
      splitPort inside host = (host, none) := by
  induction host generalizing inside with
  | nil =>
    cases inside with
    | false => exact ⟨rfl, rfl⟩
    | true => cases ended
  | cons c host ih =>
    rw [List.cons_append, splitPort] at ended
    rw [List.cons_append, splitPort, splitPort]
    split at ended
    case isTrue => cases ended
    case isFalse open_ =>
      obtain ⟨front, behind⟩ := Prod.mk.inj ended
      have rest := ih (Prod.ext (List.cons_eq_cons.1 front).2 behind)
      rw [if_neg open_, if_neg open_]
      simp only [rest.1, rest.2, and_self]

/-- Digits are a port, which is left out if it is the one that the scheme implies. -/
lemma readPort_implied {scheme n digits} (implied : defaultPort? scheme = some n)
    (all : ∀ c ∈ digits, Decimal.IsDigit c) (read : Decimal.read 65535 digits = .ok n) :
    readPort scheme digits = .ok (none, []) := by
  have pass : ∀ c ∈ digits, (!Char.isDigit c) = false := by
    intro c mem
    rw [(all c mem).isDigit]
    rfl
  have cut : cutAt (!Char.isDigit ·) digits = (digits, []) := by
    have whole := cutAt_append pass []
    rw [List.append_nil] at whole
    exact whole.trans (by rw [show cutAt (!Char.isDigit ·) [] = ([], []) from rfl, List.append_nil])
  unfold readPort
  rw [cut]
  simp only
  cases digits with
  | nil => cases read
  | cons c digits =>
    rw [if_neg fun h => h.1 rfl]
    simp only [read]
    rw [if_pos implied]

/-- The addresses of the web have a host. -/
lemma readHost_ne_none {cs} : readHost true cs ≠ .ok none := by
  intro found
  rw [readHost] at found
  split at found
  case isTrue => cases found
  case isFalse =>
    obtain ⟨_, _, none⟩ := ok_of_map found
    cases none

section Named

variable {scheme : String} {n : Nat} {user host digits : List Char}

/-- The place with the implied port is the one without a port. -/
lemma readPlace_implied (implied : defaultPort? scheme = some n)
    (ended : splitPort false (host ++ [':']) = (host, some []))
    (all : ∀ c ∈ digits, Decimal.IsDigit c) (read : Decimal.read 65535 digits = .ok n) :
    readPlace scheme (host ++ ':' :: digits) = readPlace scheme host := by
  obtain ⟨named, bare⟩ := splitPort_append ended digits
  unfold readPlace
  rw [named, bare]
  simp only [isSpecialScheme_of_implied implied]
  cases found : readHost true host with
  | error e => rfl
  | ok h =>
    cases h with
    | none => exact absurd found readHost_ne_none
    | some h =>
      simp only [bind, Except.bind, readPort_implied implied all read]
      rfl

/-- A port that is written and that the scheme implies is read as if it was not there. -/
lemma readAuthority_implied {more} (implied : defaultPort? scheme = some n)
    (sign : user = [] ∨ ∃ who, user = who ++ ['@']) (ne : host ≠ []) (bare : '@' ∉ host)
    (ended : splitPort false (host ++ [':']) = (host, some []))
    (all : ∀ c ∈ digits, Decimal.IsDigit c) (read : Decimal.read 65535 digits = .ok n) :
    readAuthority scheme more (user ++ (host ++ ':' :: digits)) =
      readAuthority scheme more (user ++ host) := by
  obtain ⟨who, split⟩ := splitUser_append sign
  have bare' : '@' ∉ host ++ ':' :: digits := by
    intro mem
    rw [List.mem_append, List.mem_cons] at mem
    obtain mem | sign | mem := mem
    · exact bare mem
    · exact absurd sign (by decide)
    · exact absurd (all '@' mem).2 (by decide)
  unfold readAuthority
  rw [split more host bare ne, split more _ bare' (List.append_ne_nil_of_left_ne_nil ne _)]
  simp only [bind, Except.bind, readPlace_implied implied ended all read]

end Named

section Places

variable {name slashes front front' tail : List Char} {scheme : String} {n : Nat}

/-- What is in front of a query starts with the authority, up to where one ends. -/
lemma splitTail_place (slash : ∀ c ∈ slashes, c = '/' ∨ c = '\\')
    (clear : ∀ c ∈ front, ¬ EndsAuthority c) (tail : List Char) :
    splitTail (slashes ++ (front ++ tail)) =
      (slashes ++ (front ++ (splitTail tail).1), (splitTail tail).2) := by
  have open_ : ∀ c ∈ slashes ++ front, c ≠ '#' ∧ c ≠ '?' := by
    intro c mem
    obtain mem | mem := List.mem_append.1 mem
    · obtain rfl | rfl := slash c mem
      all_goals decide
    · constructor
      · rintro rfl
        exact clear '#' mem (.inr (.inr (.inr rfl)))
      · rintro rfl
        exact clear '?' mem (.inr (.inr (.inl rfl)))
  rw [← List.append_assoc, splitTail_append open_, List.append_assoc]

/-- Addresses of the web that differ in their authorities alone are the same if the authorities are
read the same way. -/
lemma parse_congr {s t : String} (split : splitScheme? (name ++ [':']) = some (scheme, []))
    (implied : defaultPort? scheme = some n) (slash : ∀ c ∈ slashes, c = '/' ∨ c = '\\')
    (ends : ∀ c ∈ tail.head?, EndsAuthority c)
    (ne : front ≠ []) (clear : ∀ c ∈ front, ¬ EndsAuthority c)
    (ne' : front' ≠ []) (clear' : ∀ c ∈ front', ¬ EndsAuthority c)
    (spelled : clean s.toList = name ++ [':'] ++ (slashes ++ (front ++ tail)))
    (spelled' : clean t.toList = name ++ [':'] ++ (slashes ++ (front' ++ tail)))
    (same : ∀ more, readAuthority scheme more front' = readAuthority scheme more front) :
    parse t = parse s := by
  have special := isSpecialScheme_of_implied implied
  have web := ne_file_of_implied implied
  have skipped : ∀ c ∈ slashes, isSlash true c = true := by
    intro c mem
    obtain rfl | rfl := slash c mem
    all_goals rfl
  have whole : ∀ {cs : List Char}, (∀ c ∈ cs, ¬ EndsAuthority c) →
      ∀ c ∈ cs, isSlash true c = false := by
    intro cs clear c mem
    rw [isSlash, Bool.or_eq_false_iff, Bool.true_and]
    exact ⟨beq_false_of_ne fun h => clear c mem (.inl h),
      beq_false_of_ne fun h => clear c mem (.inr (.inl h))⟩
  have ends := isSlash_of_splitTail ends
  unfold parse
  rw [spelled, spelled', splitScheme?_append split, splitScheme?_append split]
  simp only [List.nil_append, splitTail_place slash clear, splitTail_place slash clear']
  rw [readFront_authority special web skipped ne (whole clear) ends,
    readFront_authority special web skipped ne' (whole clear') ends, same]

end Places

/-- An address of the web is the same with the implied port and without. -/
lemma parse_of_namesImplied {s t : String} (h : NamesImplied (clean s.toList) (clean t.toList)) :
    parse t = parse s := by
  generalize spelled : clean s.toList = cs at h
  generalize spelled' : clean t.toList = ds at h
  cases h with
  | @behind name slashes user host digits tail scheme n split implied slash sign clear ne bare ended
      all read ends =>
    have clear' : ∀ c ∈ user ++ (host ++ ':' :: digits), ¬ EndsAuthority c := by
      intro c mem
      rw [← List.append_assoc, List.mem_append, List.mem_cons] at mem
      obtain mem | rfl | mem := mem
      · exact clear c mem
      · simp [EndsAuthority]
      · obtain ⟨lo, hi⟩ := all c mem
        rintro (rfl | rfl | rfl | rfl)
        all_goals revert lo hi
        all_goals decide
    exact parse_congr split implied slash ends (List.append_ne_nil_of_right_ne_nil user ne) clear
      (List.append_ne_nil_of_right_ne_nil user (List.append_ne_nil_of_left_ne_nil ne _)) clear'
      spelled spelled' fun more => readAuthority_implied implied sign ne bare ended all read

end SeedVault.Url
