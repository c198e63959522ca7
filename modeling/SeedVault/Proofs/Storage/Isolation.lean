import SeedVault.Proofs.Storage.FolderStore
import SeedVault.Proofs.Url.Origin
import SeedVault.Storage.Layout

/-!
# Stores of different origins

The name of an origin's directory keeps the `parts` of the origin: the scheme, the runs of name
characters in the host's text, and the port unless the scheme implies it (`directoryName_inj`). Two
origins with different parts have separate stores and two with the same parts share one
(`stores_separate_iff_parts`). Hosts of name characters only are told apart (`parts_inj`), but
others are not all (`address_stores_collide`).
-/

namespace SeedVault

namespace Origin
open Text

/-- The longest parts of a text that hold name characters only. -/
def nameRuns (cs : List Char) : List (List Char) :=
  (splitBy (!isNameChar ·) cs).filter (· ≠ [])

/-- The digits of the port, unless the scheme implies it. -/
def portParts (o : Origin) : List (List Char) :=
  if defaultPort? o.scheme = some o.port then [] else [Decimal.write o.port]

/-- What the name of an origin's directory keeps of the origin. -/
def parts (o : Origin) : List (List Char) :=
  o.scheme.toList :: (nameRuns o.host.text.toList ++ o.portParts)

/-- Does the host's text hold name characters only? -/
def HasPlainHost (o : Origin) : Prop := ∀ c ∈ o.host.text.toList, isNameChar c = true

/-- Another character parts the parts before it from those behind it. -/
lemma nameRuns_append {sep} (w cs) (hs : isNameChar sep = false) :
    nameRuns (w ++ sep :: cs) = nameRuns w ++ nameRuns cs := by
  rw [nameRuns, splitBy_append w cs (by rw [hs]; rfl), List.filter_append]
  rfl

/-- Name characters alone are one part. -/
lemma nameRuns_of_plain {w} (ne : w ≠ []) (plain : ∀ c ∈ w, isNameChar c = true) :
    nameRuns w = [w] := by
  have clear : ∀ c ∈ w, (!isNameChar c) = false := by
    intro c mem
    rw [plain c mem]
    rfl
  rw [nameRuns, splitBy_of_clear clear, List.filter_eq_self]
  intro v mem
  rw [List.mem_singleton.1 mem]
  exact decide_eq_true ne

/-- A part has characters, and they are name characters. -/
lemma plain_of_mem_nameRuns {w cs} (mem : w ∈ nameRuns cs) :
    w ≠ [] ∧ ∀ c ∈ w, isNameChar c = true := by
  obtain ⟨part, ne⟩ := List.mem_filter.1 mem
  refine ⟨of_decide_eq_true ne, fun c hc => ?_⟩
  simpa using clear_of_mem_splitBy part c hc

/-- Digits are name characters. -/
lemma isNameChar_digit {c} (digit : Decimal.IsDigit c) : isNameChar c = true := by
  rw [isNameChar, Char.isAlphanum, digit.isDigit, Bool.or_true, Bool.true_or, Bool.true_or]

/-- The schemes that imply a port. -/
lemma mem_of_implied {scheme n} (implied : defaultPort? scheme = some n) :
    scheme ∈ ["http", "https", "ws", "wss", "ftp"] := by
  obtain ⟨front, back, e, _⟩ := List.lookup_eq_some_iff.1 implied
  have mem :
      (scheme, n) ∈ [("http", 80), ("https", 443), ("ws", 80), ("wss", 443), ("ftp", 21)] := by
    rw [e]
    exact List.mem_append_right front List.mem_cons_self
  exact List.mem_map_of_mem (f := Prod.fst) mem

/-- Such a scheme consists of name characters, the first of which is no point. -/
lemma plain_scheme {scheme n} (implied : defaultPort? scheme = some n) :
    (∀ c ∈ scheme.toList, isNameChar c = true) ∧ ∃ c cs, scheme.toList = c :: cs ∧ c ≠ '.' := by
  have mem := mem_of_implied implied
  simp only [List.mem_cons, List.not_mem_nil, or_false] at mem
  obtain rfl | rfl | rfl | rfl | rfl := mem
  all_goals exact ⟨List.all_eq_true.1 (by decide), _, _, rfl, by decide⟩

/-- The text of an origin is its scheme, its host and the port that is not implied, with separators
between them. -/
lemma toList_text (o : Origin) :
    o.text.toList = o.scheme.toList ++ ':' :: ([] ++ '/' :: ([] ++ '/' ::
      (o.host.text.toList ++ if defaultPort? o.scheme = some o.port then []
        else ':' :: Decimal.write o.port))) := by
  rw [text]
  split <;> simp [String.toList_append, Decimal.toList_text]

/-- The parts of an origin are the parts of its text. -/
lemma nameRuns_toList_text {o : Origin} {n} (implied : defaultPort? o.scheme = some n) :
    nameRuns o.text.toList = o.parts := by
  obtain ⟨plain, c, cs, e, _⟩ := plain_scheme implied
  have scheme : nameRuns o.scheme.toList = [o.scheme.toList] :=
    nameRuns_of_plain (by rw [e]; exact List.cons_ne_nil c cs) plain
  have port : nameRuns (Decimal.write o.port) = [Decimal.write o.port] :=
    nameRuns_of_plain (Decimal.write_ne_nil _) fun c mem =>
      isNameChar_digit (Decimal.digit_of_mem_write mem)
  -- one separator after the other: "://" stands between empty runs, which are left out
  rw [toList_text, nameRuns_append _ _ (by decide), nameRuns_append _ _ (by decide),
    nameRuns_append _ _ (by decide), scheme, parts, portParts]
  split
  case isTrue =>
    rw [List.append_nil, List.append_nil]
    rfl
  case isFalse =>
    rw [nameRuns_append _ _ (by decide), port]
    rfl

/-- The name of an origin's directory is its parts, with underscores between them. -/
lemma directoryName_eq {o : Origin} {n} (implied : defaultPort? o.scheme = some n) :
    o.directoryName = String.ofList (joinWith ['_'] o.parts) := by
  rw [← nameRuns_toList_text implied]
  rfl

/-- A part of an origin has characters, and they are name characters. -/
lemma plain_of_mem_parts {o : Origin} {n w} (implied : defaultPort? o.scheme = some n)
    (mem : w ∈ o.parts) : w ≠ [] ∧ ∀ c ∈ w, (!isNameChar c) = false := by
  rw [← nameRuns_toList_text implied] at mem
  obtain ⟨ne, plain⟩ := plain_of_mem_nameRuns mem
  refine ⟨ne, fun c hc => ?_⟩
  rw [plain c hc]
  rfl

/-- Origins have the same directory exactly if they have the same parts. -/
lemma directoryName_inj {o p : Origin} {m n} (ho : defaultPort? o.scheme = some m)
    (hp : defaultPort? p.scheme = some n) :
    o.directoryName = p.directoryName ↔ o.parts = p.parts := by
  rw [directoryName_eq ho, directoryName_eq hp, String.ofList_inj]
  exact joinWith_inj (p := (!isNameChar ·)) (by decide) (fun w => plain_of_mem_parts ho)
    fun w => plain_of_mem_parts hp

/-- The name of an origin's directory is a name. -/
lemma isName_directoryName {o : Origin} {n} (implied : defaultPort? o.scheme = some n) :
    Directory.IsName o.directoryName := by
  obtain ⟨_, c, cs, e, ne⟩ := plain_scheme implied
  -- the name begins like the scheme, so with a letter and not with a point
  have first : o.directoryName.toList.head? = some c := by
    rw [directoryName_eq implied, String.toList_ofList, parts, e]
    cases nameRuns o.host.text.toList ++ o.portParts <;> rfl
  constructor
  · intro h
    rw [h] at first
    cases first
    exact ne rfl
  · intro h
    rw [h] at first
    cases first
    exact ne rfl

/-- The port is known from its part and the scheme. -/
lemma portParts_inj {o p : Origin} (scheme : o.scheme = p.scheme)
    (same : o.portParts = p.portParts) :
    o.port = p.port := by
  rw [portParts, portParts, scheme] at same
  split at same
  case isTrue implied =>
    split at same
    case isTrue implied' => exact Option.some_inj.1 (implied.symm.trans implied')
    case isFalse => cases same
  case isFalse =>
    split at same
    case isTrue => cases same
    case isFalse => exact Decimal.write_inj.1 (List.cons_eq_cons.1 same).1

/-- Origins with canonical hosts of name characters only are known from their parts. -/
lemma parts_inj {o p : Origin} (ho : o.host.Canonical) (hp : p.host.Canonical)
    (plain : o.HasPlainHost) (plain' : p.HasPlainHost) : o.parts = p.parts ↔ o = p := by
  constructor
  · intro same
    rw [parts, parts, nameRuns_of_plain (Host.toList_text_ne_nil ho) plain,
      nameRuns_of_plain (Host.toList_text_ne_nil hp) plain'] at same
    obtain ⟨scheme, same⟩ := List.cons_eq_cons.1 same
    obtain ⟨host, ports⟩ := List.cons_eq_cons.1 same
    have bare : '[' ∉ o.host.text.toList := by
      intro mem
      exact absurd (plain '[' mem) (by decide)
    have scheme := String.toList_inj.1 scheme
    have host := (Host.text_inj ho hp bare).1 (String.toList_inj.1 host)
    have port := portParts_inj scheme ports
    cases o
    cases p
    cases scheme
    cases host
    cases port
    rfl
  · rintro rfl
    rfl

end Origin

namespace FolderStore
variable {u v : Url} {o p : Origin}

/-- The store of an address is that of its origin. -/
lemma originName_of_origin? (hu : u.origin? = some o) : originName u = .ok o.directoryName := by
  rw [originName, hu]

/-- Two origins share the name of a directory if and only if they have the same parts. -/
lemma originName_inj (hu : u.origin? = some o) (hv : v.origin? = some p) :
    originName u = originName v ↔ o.parts = p.parts := by
  obtain ⟨m, implied⟩ := Url.implied_of_origin? hu
  obtain ⟨n, implied'⟩ := Url.implied_of_origin? hv
  rw [originName_of_origin? hu, originName_of_origin? hv, Except.ok.injEq]
  exact Origin.directoryName_inj implied implied'

/-- Origins with different parts do not see what the other keeps. -/
lemma getIn_setIn_of_ne {storage key key' value x} {tree : Directory} (hu : u.origin? = some o)
    (hv : v.origin? = some p) (ne : o.parts ≠ p.parts) :
    getIn (setIn tree storage u key value).2 storage v key' = .ok x ↔
      getIn tree storage v key' = .ok x := by
  obtain ⟨m, implied⟩ := Url.implied_of_origin? hu
  obtain ⟨n, implied'⟩ := Url.implied_of_origin? hv
  have names : p.directoryName ≠ o.directoryName := by
    intro same
    exact ne ((Origin.directoryName_inj implied implied').1 same.symm)
  rw [setIn, getIn, getIn, originName_of_origin? hu, originName_of_origin? hv]
  exact getAt_setAt_of_ne (Origin.isName_directoryName implied)
    (Origin.isName_directoryName implied')
    names

/-- Origins with the same parts see what the other keeps. -/
lemma getIn_setIn_of_eq {storage key value} {tree : Directory} (hu : u.origin? = some o)
    (hv : v.origin? = some p) (same : o.parts = p.parts)
    (kept : (setIn tree storage u key value).1 = .ok ()) :
    getIn (setIn tree storage u key value).2 storage v key = .ok (some value) := by
  obtain ⟨m, implied⟩ := Url.implied_of_origin? hu
  have name : originName v = .ok o.directoryName := by
    rw [← (originName_inj hu hv).2 same, originName_of_origin? hu]
  rw [setIn, originName_of_origin? hu] at kept
  rw [setIn, getIn, originName_of_origin? hu, name]
  exact getAt_setAt_self (Origin.isName_directoryName implied) kept

/-- Two origins have separate stores exactly if their parts differ. Origins of addresses that were
read, with hosts of name characters only, have the same parts only if they are the same. -/
theorem stores_separate_iff_parts (hu : u.origin? = some o) (hv : v.origin? = some p) :
    (originName u = originName v ↔ o.parts = p.parts) ∧
    (o.parts ≠ p.parts → ∀ tree storage key key' value x,
      getIn (setIn tree storage u key value).2 storage v key' = .ok x ↔
        getIn tree storage v key' = .ok x) ∧
    (o.parts = p.parts → ∀ tree storage key value,
      (setIn tree storage u key value).1 = .ok () →
        getIn (setIn tree storage u key value).2 storage v key = .ok (some value)) ∧
    (∀ s t, Url.parse s = .ok u → Url.parse t = .ok v → o.HasPlainHost → p.HasPlainHost →
      (originName u = originName v ↔ o = p)) := by
  refine ⟨originName_inj hu hv, ?_, ?_, ?_⟩
  · intro ne tree storage key key' value x
    exact getIn_setIn_of_ne hu hv ne
  · intro same tree storage key value kept
    exact getIn_setIn_of_eq hu hv same kept
  · intro s t found found' plain plain'
    rw [originName_inj hu hv]
    exact Origin.parts_inj (Url.canonical_of_origin? found hu) (Url.canonical_of_origin? found' hv)
      plain plain'

/-- The address of a site. -/
def siteAt (host : Host) (port : Option Nat) : Url where
  scheme := "http"
  authority := some { username := "", password := "", host := some host, port }
  path := .segments [""]
  query := none
  fragment := none

/-- Two ports of one host have stores of their own. -/
theorem localhost_stores_separate :
    (siteAt (.domain "localhost") (some 3000)).origin? = some ⟨"http", .domain "localhost", 3000⟩ ∧
    (siteAt (.domain "localhost") (some 4000)).origin? = some ⟨"http", .domain "localhost", 4000⟩ ∧
    ∀ tree storage key key' value x,
      getIn (setIn tree storage (siteAt (.domain "localhost") (some 3000)) key value).2 storage
          (siteAt (.domain "localhost") (some 4000)) key' = .ok x ↔
        getIn tree storage (siteAt (.domain "localhost") (some 4000)) key' = .ok x := by
  have here : (siteAt (.domain "localhost") (some 3000)).origin? =
      some ⟨"http", .domain "localhost", 3000⟩ := by decide
  have there : (siteAt (.domain "localhost") (some 4000)).origin? =
      some ⟨"http", .domain "localhost", 4000⟩ := by decide
  exact ⟨here, there, (stores_separate_iff_parts here there).2.1 (by decide +kernel)⟩

/-- Two addresses whose pieces differ only in the place of their zeros share a store: what one keeps
the other reads. -/
theorem address_stores_collide :
    ∃ u v o p, Url.parse "http://[::1]" = .ok u ∧ Url.parse "http://[1::]" = .ok v ∧
      u.origin? = some o ∧ v.origin? = some p ∧ o ≠ p ∧ originName u = originName v ∧
      getIn (setIn .empty ["storage"] u "seed" "phrase").2 ["storage"] v "seed" =
        .ok (some "phrase") := by
  refine ⟨siteAt (.address6 [0, 0, 0, 0, 0, 0, 0, 1]) none,
    siteAt (.address6 [1, 0, 0, 0, 0, 0, 0, 0]) none,
    ⟨"http", .address6 [0, 0, 0, 0, 0, 0, 0, 1], 80⟩,
    ⟨"http", .address6 [1, 0, 0, 0, 0, 0, 0, 0], 80⟩,
    ?_, ?_, by decide, by decide, by decide, ?_, ?_⟩
  · decide +kernel
  · decide +kernel
  · decide +kernel
  · decide +kernel

end FolderStore

end SeedVault
