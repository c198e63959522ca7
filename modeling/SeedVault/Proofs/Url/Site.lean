import Mathlib.Data.List.DropRight
import SeedVault.Proofs.Url.Origin

/-!
# Sites of longer addresses

An address of the web that goes on behind a slash is at the same site (`site_of_append`), whatever
follows: what is in front of a path, a query or a fragment does not depend on what comes behind.
-/

namespace SeedVault.Url

/-- One text is the other one, or goes on behind it with a slash. -/
def Longer (cs ds : List Char) : Prop := ds = cs ∨ ∃ es, ds = cs ++ '/' :: es

/-- A part up to some character other than a slash may go on as well. -/
lemma Longer.takeWhile {p : Char → Bool} (slash : p '/' = true) {cs ds} (h : Longer cs ds) :
    Longer (cs.takeWhile p) (ds.takeWhile p) := by
  obtain rfl | ⟨es, rfl⟩ := h
  · exact .inl rfl
  · rw [List.takeWhile_append]
    split
    · next all =>
      refine .inr ⟨es.takeWhile p, ?_⟩
      rw [List.takeWhile_cons_of_pos slash, (List.takeWhile_prefix p).eq_of_length all]
    · exact .inl rfl

/-- What is dropped at the front of a text ends before the first character that stays. -/
lemma dropWhile_stops {p : Char → Bool} {c : Char} (stays : p c = false) (cs : List Char) :
    ∃ ds, ∀ es, (cs ++ c :: es).dropWhile p = ds ++ c :: es := by
  induction cs with
  | nil => exact ⟨[], fun es => List.dropWhile_cons_of_neg (by rw [stays]; exact nofun)⟩
  | cons a cs ih =>
    by_cases drop : p a = true
    · obtain ⟨ds, h⟩ := ih
      refine ⟨ds, fun es => ?_⟩
      rw [List.cons_append, List.dropWhile_cons_of_pos drop, h]
    · refine ⟨a :: cs, fun es => ?_⟩
      rw [List.cons_append, List.dropWhile_cons_of_neg drop]

/-- A text whose last character stays when it is trimmed may go on behind it with another one that
stays. -/
lemma trimmed_append {p : Char → Bool} {c : Char} (stays : p c = false) (slash : p '/' = false)
    (cs ds : List Char) :
    ∃ es, (((cs ++ [c] ++ '/' :: ds).dropWhile p).reverse.dropWhile p).reverse =
      (((cs ++ [c]).dropWhile p).reverse.dropWhile p).reverse ++ '/' :: es := by
  obtain ⟨front, hfront⟩ := dropWhile_stops stays cs
  obtain ⟨back, hback⟩ := dropWhile_stops slash ds.reverse
  have short : (c :: front.reverse).dropWhile p = c :: front.reverse :=
    List.dropWhile_cons_of_neg (by rw [stays]; exact nofun)
  refine ⟨back.reverse, ?_⟩
  rw [List.append_assoc, List.singleton_append, hfront, hfront]
  rw [List.reverse_append, List.reverse_append, List.reverse_cons, List.reverse_cons,
    List.reverse_cons]
  simp only [List.append_assoc, List.cons_append, List.reverse_nil, List.nil_append]
  rw [hback, short]
  simp only [List.reverse_append, List.reverse_cons, List.reverse_reverse, List.append_assoc,
    List.cons_append, List.nil_append]

/-- A text that ends with no blank loses nothing at its end. -/
lemma clean_append {c : Char} (inked : 32 < c.toNat) (cs ds : List Char) :
    ∃ es, clean (cs ++ [c] ++ '/' :: ds) = clean (cs ++ [c]) ++ '/' :: es := by
  obtain ⟨es, trimmed⟩ := trimmed_append (p := fun c => decide (c.toNat ≤ 32))
    (c := c) (decide_eq_false (by omega)) (by decide) cs ds
  unfold clean
  simp only
  rw [trimmed, List.filter_append]
  exact ⟨_, rfl⟩

/-- The characters of a scheme. -/
def isSchemeChar (c : Char) : Bool := c.isAlphanum || c == '+' || c == '-' || c == '.'

/-- What is dropped is as long as what is taken. -/
lemma drop_length_takeWhile (p : Char → Bool) (cs : List Char) :
    cs.drop (cs.takeWhile p).length = cs.dropWhile p :=
  (congrArg (List.drop _) List.takeWhile_append_dropWhile.symm).trans List.drop_left

/-- The scheme is in front of the first colon. -/
lemma splitScheme?_eq_some_iff {cs rest scheme} :
    splitScheme? cs = some (scheme, rest) ↔
      ∃ first others, cs = (first :: others) ++ ':' :: rest ∧
        (∀ c ∈ first :: others, isSchemeChar c = true) ∧ first.isAlpha = true ∧
        scheme = String.ofList ((first :: others).map Char.toLower) := by
  have chars :
      (fun c : Char => c.isAlphanum || c == '+' || c == '-' || c == '.') = isSchemeChar := rfl
  unfold splitScheme?
  simp only [drop_length_takeWhile, chars]
  constructor
  · intro h
    split at h
    · next first others behind spelled colon =>
      split at h
      · next alpha =>
        cases h
        refine ⟨first, others, ?_, ?_, alpha, by rw [spelled]⟩
        · rw [← spelled, ← colon, List.takeWhile_append_dropWhile]
        · rw [← spelled]
          exact fun c mem => List.mem_takeWhile_imp mem
      · cases h
    · cases h
  · rintro ⟨first, others, rfl, each, alpha, rfl⟩
    have spelled : ((first :: others) ++ ':' :: rest).takeWhile isSchemeChar = first :: others := by
      rw [List.takeWhile_append_of_pos each, List.takeWhile_cons_of_neg (by decide),
        List.append_nil]
    have colon : ((first :: others) ++ ':' :: rest).dropWhile isSchemeChar = ':' :: rest := by
      rw [List.dropWhile_append_of_pos each, List.dropWhile_cons_of_neg (by decide)]
    rw [spelled, colon]
    simp only
    rw [if_pos alpha]

/-- A scheme is split off the front, whatever comes behind. -/
lemma splitScheme?_append {cs rest scheme} (h : splitScheme? cs = some (scheme, rest))
    (ds : List Char) : splitScheme? (cs ++ ds) = some (scheme, rest ++ ds) := by
  obtain ⟨first, others, rfl, each, alpha, spelled⟩ := splitScheme?_eq_some_iff.1 h
  refine splitScheme?_eq_some_iff.2 ⟨first, others, ?_, each, alpha, spelled⟩
  rw [List.append_assoc, List.cons_append (a := ':')]

/-- What goes on with a slash goes on so up to its tail. -/
lemma Longer.splitTail {cs ds} (h : Longer cs ds) :
    Longer (splitTail cs).1 (splitTail ds).1 :=
  (h.takeWhile (by decide)).takeWhile (by decide)

/-- Credentials in front of a host do not depend on what follows the host. -/
lemma splitUser_more {more cs user place} (found : splitUser more cs = .ok (user, place))
    (ne : place ≠ []) (more' : Bool) : splitUser more' cs = .ok (user, place) := by
  unfold splitUser at found ⊢
  split at found
  · exact found
  · split at found
    · cases found
    · cases found
      rw [if_neg fun both => ne both.1]
  · exact found

/-- The addresses of the web have a host. -/
lemma ne_nil_of_readPlace {scheme cs found} (special : isSpecialScheme scheme = true)
    (h : readPlace scheme cs = .ok found) : cs ≠ [] := by
  rintro rfl
  unfold readPlace at h
  simp only [splitPort, readHost, special, if_true] at h
  cases h

/-- An authority does not depend on what follows it. -/
lemma readAuthority_more {scheme more cs found} (special : isSpecialScheme scheme = true)
    (h : readAuthority scheme more cs = .ok found) (more' : Bool) :
    readAuthority scheme more' cs = .ok found := by
  unfold readAuthority at h ⊢
  obtain ⟨⟨user, place⟩, split, h⟩ := ok_of_bind h
  obtain ⟨_, placed, _⟩ := ok_of_bind h
  rw [splitUser_more split (ne_nil_of_readPlace special placed) more']
  exact h

/-- The text of an authority, in what follows the scheme of an address of the web. -/
def authorityText (cs : List Char) : List Char :=
  (cs.dropWhile (isSlash true)).takeWhile (!isSlash true ·)

/-- The authority is the same if the text goes on. -/
lemma Longer.authorityText_eq {cs ds} (h : Longer cs ds) (ne : authorityText cs ≠ []) :
    authorityText ds = authorityText cs := by
  obtain rfl | ⟨es, rfl⟩ := h
  · rfl
  · unfold authorityText at ne ⊢
    rw [List.dropWhile_append]
    split
    · next none =>
      rw [List.isEmpty_iff.1 none] at ne
      exact absurd rfl ne
    · rw [List.takeWhile_append]
      split
      · next all =>
        rw [List.takeWhile_cons_of_neg (by decide), List.append_nil,
          (List.takeWhile_prefix _).eq_of_length all]
      · rfl

section Front

variable {scheme : String} (special : isSpecialScheme scheme = true) (web : scheme ≠ "file")

include special web

/-- In front of an address of the web stands an authority. -/
lemma exists_readAuthority {more cs a path} (h : readFront scheme more cs = .ok (a, path)) :
    ∃ more' b rest, readAuthority scheme more' (authorityText cs) = .ok (b, rest) ∧ a = some b := by
  unfold readFront at h
  simp only [if_neg web, special, if_true] at h
  obtain ⟨⟨b, rest⟩, authority, ⟨⟩⟩ := ok_of_bind h
  exact ⟨_, b, rest, authority, rfl⟩

/-- A front is read if its authority is, and with that authority. -/
lemma exists_readFront {more cs b rest}
    (h : readAuthority scheme more (authorityText cs) = .ok (b, rest)) (more' : Bool) :
    ∃ path, readFront scheme more' cs = .ok (some b, path) := by
  unfold readFront
  simp only [if_neg web, special, if_true]
  have h' := fun more' => readAuthority_more special h more'
  unfold authorityText at h'
  unfold cutAt
  simp only
  rw [h']
  exact ⟨_, rfl⟩

end Front

/-- An authority of the web has a text. -/
lemma authorityText_ne_nil {scheme more cs found} (special : isSpecialScheme scheme = true)
    (h : readAuthority scheme more cs = .ok found) : cs ≠ [] := by
  rintro rfl
  obtain ⟨⟨_, place⟩, split, h⟩ := ok_of_bind h
  cases split
  obtain ⟨_, placed, _⟩ := ok_of_bind h
  exact ne_nil_of_readPlace special placed rfl

/-- An address that was read has a scheme and what stands in front of its query. -/
lemma exists_front {s : String} {u : Url} (found : parse s = .ok u) :
    ∃ rest more path, splitScheme? (clean s.toList) = some (u.scheme, rest) ∧
      readFront u.scheme more (splitTail rest).1 = .ok (u.authority, path) := by
  unfold parse at found
  split at found
  · cases found
  · next scheme rest split =>
    obtain ⟨⟨authority, path⟩, front, same⟩ := ok_of_bind found
    cases same
    exact ⟨rest, _, path, split, front⟩

/-- An address is read if its front is, and with that scheme and authority. -/
lemma exists_parse {s : String} {scheme rest a}
    (split : splitScheme? (clean s.toList) = some (scheme, rest))
    (front : ∀ more, ∃ path, readFront scheme more (splitTail rest).1 = .ok (a, path)) :
    ∃ u, parse s = .ok u ∧ u.scheme = scheme ∧ u.authority = a := by
  obtain ⟨path, front⟩ := front ((splitTail rest).2.1.isSome || (splitTail rest).2.2.isSome)
  unfold parse
  rw [split]
  simp only
  rw [front]
  exact ⟨_, rfl, rfl, rfl⟩

/-- An address of the web that goes on behind a slash is at the same site. -/
lemma site_of_append {s : String} {u : Url} (found : parse s = .ok u) {n}
    (implied : defaultPort? u.scheme = some n)
    {cs : List Char} {c : Char} (spelled : s.toList = cs ++ [c]) (inked : 32 < c.toNat)
    (t : String) :
    ∃ v, parse (s ++ "/" ++ t) = .ok v ∧ v.scheme = u.scheme ∧ v.site = u.site := by
  have special := isSpecialScheme_of_implied implied
  have web := ne_file_of_implied implied
  obtain ⟨rest, more, path, split, front⟩ := exists_front found
  obtain ⟨more', b, behind, read, authority⟩ := exists_readAuthority special web front
  obtain ⟨es, cleaned⟩ := clean_append inked cs t.toList
  rw [spelled] at split
  have text : (s ++ "/" ++ t).toList = cs ++ [c] ++ '/' :: t.toList := by
    rw [String.toList_append, String.toList_append, spelled, List.append_assoc _ "/".toList]
    rfl
  have split' :
      splitScheme? (clean (s ++ "/" ++ t).toList) = some (u.scheme, rest ++ '/' :: es) := by
    rw [text, cleaned]
    exact splitScheme?_append split _
  -- the authority ends at a slash, so the longer text has the same one
  have longer : Longer (splitTail rest).1 (splitTail (rest ++ '/' :: es)).1 :=
    Longer.splitTail (.inr ⟨es, rfl⟩)
  rw [← longer.authorityText_eq (authorityText_ne_nil special read)] at read
  obtain ⟨v, parsed, scheme, authority'⟩ := exists_parse split' (exists_readFront special web read)
  refine ⟨v, parsed, scheme, ?_⟩
  unfold site
  rw [scheme, authority, authority']

end SeedVault.Url
