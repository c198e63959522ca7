import SeedVault.Proofs.Attempt
import SeedVault.Proofs.Url.Host
import SeedVault.Url.Origin

/-!
# Origins of addresses that were read

An origin has one of the network schemes (`implied_of_origin?`), and if the address was read its
host is canonical (`canonical_of_origin?`), also where the address stands inside another.
-/

namespace SeedVault

/-- A result of two steps comes from one of the first. -/
lemma ok_of_bind {ε α β} {x : Except ε α} {f : α → Except ε β} {b} (h : (x >>= f) = .ok b) :
    ∃ a, x = .ok a ∧ f a = .ok b :=
  Attempt.ok_bind_iff.1 h

/-- A mapped result comes from one before. -/
lemma ok_of_map {ε α β} {x : Except ε α} {f : α → β} {b} (h : x.map f = .ok b) :
    ∃ a, x = .ok a ∧ f a = b := by
  cases x with
  | error e => cases h
  | ok a =>
    cases h
    exact ⟨a, rfl, rfl⟩

namespace Url

/-- The host, if the address has one of the network schemes and a host, is canonical. -/
def HasCanonicalHost (u : Url) : Prop :=
  ∀ {n a h}, defaultPort? u.scheme = some n → u.authority = some a → a.host = some h → h.Canonical

/-- A scheme that implies a port is special. -/
lemma isSpecialScheme_of_implied {scheme n} (implied : defaultPort? scheme = some n) :
    isSpecialScheme scheme = true := by
  rw [isSpecialScheme, implied, Option.isSome_some, Bool.or_true]

/-- The scheme of files implies no port. -/
lemma ne_file_of_implied {scheme n} (implied : defaultPort? scheme = some n) : scheme ≠ "file" := by
  rintro rfl
  cases implied

/-- A host of a special scheme is canonical as it is read. -/
lemma canonical_of_readHost {cs h} (found : readHost true cs = .ok (some h)) : h.Canonical := by
  rw [readHost] at found
  split at found
  case isTrue => cases found
  case isFalse =>
    obtain ⟨h', read, ⟨⟩⟩ := ok_of_map found
    exact Host.canonical_of_read read

/-- The host of a place is canonical. -/
lemma canonical_of_readPlace {scheme cs h port rest} (special : isSpecialScheme scheme = true)
    (found : readPlace scheme cs = .ok (some h, port, rest)) : h.Canonical := by
  rw [readPlace, special] at found
  obtain ⟨host, read, found⟩ := ok_of_bind found
  split at found
  case h_1 => cases found
  case h_2 =>
    obtain ⟨_, _, ⟨⟩⟩ := ok_of_map found
    exact canonical_of_readHost read
  case h_3 =>
    cases found
    exact canonical_of_readHost read

/-- The host of an authority is canonical. -/
lemma canonical_of_readAuthority {scheme more cs a rest h} (special : isSpecialScheme scheme = true)
    (found : readAuthority scheme more cs = .ok (a, rest)) (host : a.host = some h) :
    h.Canonical := by
  rw [readAuthority] at found
  obtain ⟨_, _, found⟩ := ok_of_bind found
  obtain ⟨⟨_, _, _⟩, place, found⟩ := ok_of_bind found
  simp only at found
  split at found
  case isTrue => cases found
  case isFalse =>
    cases found
    cases host
    exact canonical_of_readPlace special place

/-- The host of the front of an address is canonical, if the scheme implies a port. -/
lemma canonical_of_readFront {scheme more cs a path n h} (implied : defaultPort? scheme = some n)
    (found : readFront scheme more cs = .ok (some a, path)) (host : a.host = some h) :
    h.Canonical := by
  have special := isSpecialScheme_of_implied implied
  unfold readFront at found
  simp only [if_neg (ne_file_of_implied implied), special, if_true] at found
  obtain ⟨⟨_, _⟩, authority, ⟨⟩⟩ := ok_of_bind found
  exact canonical_of_readAuthority special authority host

/-- An address that is read has a canonical host. -/
lemma hasCanonicalHost_of_parse {s u} (found : parse s = .ok u) : u.HasCanonicalHost := by
  intro n a h implied authority host
  rw [parse] at found
  split at found
  case h_1 => cases found
  case h_2 scheme rest _ =>
    obtain ⟨⟨_, _⟩, front, ⟨⟩⟩ := ok_of_bind found
    cases authority
    exact canonical_of_readFront implied front host

/-- What has an origin of its own has a scheme that implies a port, and the host of the origin. -/
lemma ownOrigin?_some {u o} (h : ownOrigin? u = some o) :
    ∃ n a, defaultPort? u.scheme = some n ∧ u.authority = some a ∧ a.host = some o.host ∧
      o.scheme = u.scheme := by
  rw [ownOrigin?] at h
  obtain ⟨n, implied, h⟩ := Option.bind_eq_some_iff.1 h
  obtain ⟨a, authority, h⟩ := Option.bind_eq_some_iff.1 h
  obtain ⟨host, hh, ⟨⟩⟩ := Option.bind_eq_some_iff.1 h
  exact ⟨n, a, implied, authority, hh, rfl⟩

/-- The origin is that of the address or of one that was read from its path. -/
lemma originWithin_some {depth u o} (h : originWithin depth u = some o) :
    ∃ v, (v = u ∨ ∃ s, parse s = .ok v) ∧ v.ownOrigin? = some o := by
  induction depth generalizing u with
  | zero => exact ⟨u, .inl rfl, h⟩
  | succ depth ih =>
    rw [originWithin] at h
    split at h
    case isTrue =>
      split at h
      case h_1 inner found =>
        obtain ⟨v, rfl | read, own⟩ := ih h
        · exact ⟨v, .inr ⟨_, found⟩, own⟩
        · exact ⟨v, .inr read, own⟩
      case h_2 => cases h
    case isFalse => exact ⟨u, .inl rfl, h⟩

/-- An origin has a scheme that implies a port. -/
lemma implied_of_origin? {u o} (h : origin? u = some o) : ∃ n, defaultPort? o.scheme = some n := by
  obtain ⟨v, _, own⟩ := originWithin_some h
  obtain ⟨n, _, implied, _, _, scheme⟩ := ownOrigin?_some own
  exact ⟨n, by rw [scheme, implied]⟩

/-- The host of an origin of an address that was read is canonical. -/
lemma canonical_of_origin? {s u o} (found : parse s = .ok u) (h : origin? u = some o) :
    o.host.Canonical := by
  obtain ⟨v, rfl | ⟨t, read⟩, own⟩ := originWithin_some h
  · obtain ⟨n, a, implied, authority, host, _⟩ := ownOrigin?_some own
    exact hasCanonicalHost_of_parse found implied authority host
  · obtain ⟨n, a, implied, authority, host, _⟩ := ownOrigin?_some own
    exact hasCanonicalHost_of_parse read implied authority host

end Url

end SeedVault
