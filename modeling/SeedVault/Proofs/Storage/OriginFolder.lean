import Mathlib
import SeedVault.Proofs.Storage.Confinement
import SeedVault.Proofs.Storage.RootStores
import SeedVault.Proofs.Url.ImpliedPort

/-!
# Where the store of an origin stands

To open a store makes directories, the missing ones on the way to it and its own, and leaves all
else in the tree as it is (`opensChild_openAt`). The store of an origin is opened right below the
root, in a directory whose name begins with the scheme and leads nowhere else
(`origin_store_below_root`). The name depends on scheme, host and port alone, but those of a blob
are the ones that its path spells (`blob_stores_follow_path`).
-/

namespace SeedVault

namespace Directory

/-- What stands where names lead straight down: its permission bits and, of a file, the contents. -/
def stands? (d : Directory) (names : List String) : Option (Nat × Option Bytes) :=
  match names with
  | [] => some (d.mode, none)
  | name :: rest =>
    match d.get? name with
    | none => none
    | some (.file mode content) => if rest = [] then some (mode, some content) else none
    | some (.folder mode entries) => stands? ⟨mode, entries⟩ rest

/-- The second tree has new directories of the owner at some places and is else like the first. -/
def Adds (places : List String → Prop) (d d' : Directory) : Prop :=
  ∀ names, d'.stands? names = d.stands? names ∨
    places names ∧ d.stands? names = none ∧ d'.stands? names = some (ownerFolder, none)

section Additions

variable {p q : List String → Prop} {d d' d'' : Directory} {ns ms path : List String} {n : String}

/-- A tree that stays as it is adds nothing. -/
lemma Adds.refl : Adds p d d := fun _ => .inl rfl

/-- What is added at some places is added at these and others. -/
lemma Adds.mono (h : Adds p d d') (all : ∀ names, p names → q names) : Adds q d d' := by
  intro names
  obtain same | ⟨place, before, after⟩ := h names
  · exact .inl same
  · exact .inr ⟨all names place, before, after⟩

/-- What adds directories twice adds directories. -/
lemma Adds.trans (h : Adds p d d') (h' : Adds p d' d'') : Adds p d d'' := by
  intro names
  obtain same | ⟨place, before, after⟩ := h names
  · rw [← same]
    exact h' names
  · obtain same | ⟨_, missing, _⟩ := h' names
    · exact .inr ⟨place, before, same.trans after⟩
    -- what has been added once is there, and is not added again
    · rw [after] at missing
      cases missing

/-- Below a new entry stands what stands below it. -/
lemma stands?_put_self {b : Directory} : (d.put n b.node).stands? (n :: ns) = b.stands? ns := by
  rw [stands?, get?_put_self]
  rfl

/-- What stands beside a new entry is as before. -/
lemma stands?_put_of_ne {m : String} {x} (ne : m ≠ n) :
    (d.put n x).stands? (m :: ns) = d.stands? (m :: ns) := by
  rw [stands?, stands?, get?_put_of_ne ne]

/-- Below a directory stands what stands in it. -/
lemma stands?_append {b : Directory} (h : d.folder? ms = some b) (ns : List String) :
    d.stands? (ms ++ ns) = b.stands? ns := by
  induction ms generalizing d with
  | nil =>
    cases h
    rfl
  | cons m ms ih =>
    obtain ⟨c, hc, h⟩ := folder?_cons_iff.1 h
    rw [List.cons_append, stands?, hc]
    exact ih h

/-- A new directory in place of nothing is all that is added. -/
lemma adds_withFolder (h : (d.folder? ns).isSome)
    (missing : (d.folderAt ns).get? n = none) : Adds (· = ns ++ [n]) d (d.withFolder ns n) := by
  induction ns generalizing d with
  | nil =>
    rintro (_ | ⟨m, ms⟩)
    · exact .inl rfl
    by_cases same : m = n
    · subst same
      have before : d.stands? (m :: ms) = none := by
        rw [stands?]
        change d.get? m = none at missing
        rw [missing]
      have after : (d.withFolder [] m).stands? (m :: ms) = empty.stands? ms := stands?_put_self
      cases ms with
      | nil => exact .inr ⟨rfl, before, after⟩
      | cons k ms => exact .inl (after.trans before.symm)
    · exact .inl (stands?_put_of_ne same)
  | cons k ns ih =>
    -- the addition is made in `b`, the directory under the first name of the way
    obtain ⟨c, hc⟩ := Option.isSome_iff_exists.1 h
    obtain ⟨b, hb, hc⟩ := folder?_cons_iff.1 hc
    have at_ : d.folderAt (k :: ns) = b.folderAt ns := by
      rw [folderAt, folderAt, folder?_cons_iff.2 ⟨b, hb, hc⟩, hc]
    have made : d.withFolder (k :: ns) n = d.put k (b.withFolder ns n).node := by
      rw [withFolder, modify, hb]
      rfl
    rw [at_] at missing
    have below := ih (Option.isSome_iff_exists.2 ⟨c, hc⟩) missing
    rw [made]
    rintro (_ | ⟨m, ms⟩)
    · exact .inl rfl
    by_cases same : m = k
    · subst same
      have before : d.stands? (m :: ms) = b.stands? ms := by
        rw [stands?, hb]
        rfl
      rw [stands?_put_self, before]
      obtain kept | ⟨rfl, missing, added⟩ := below ms
      · exact .inl kept
      · exact .inr ⟨rfl, missing, added⟩
    · exact .inl (stands?_put_of_ne same)

/-- Going along a path adds directories where parts of the path end. -/
lemma adds_enter (h : (d.folder? ns).isSome) :
    Adds (fun ms => ∃ part, part <+: path ∧ (d.enter part ns).1 = .ok ms) d
      (d.enter path ns).2 := by
  fun_induction enter d path ns with
  | case1 => exact Adds.refl
  | case2 d ns rest ih =>
    refine (ih h).mono fun ms => ?_
    rintro ⟨part, leads, ends⟩
    exact ⟨"." :: part, List.cons_prefix_cons.2 ⟨rfl, leads⟩, ends⟩
  | case3 d ns rest ih =>
    refine (ih (isSome_folder?_dropLast h)).mono fun ms => ?_
    rintro ⟨part, leads, ends⟩
    exact ⟨".." :: part, List.cons_prefix_cons.2 ⟨rfl, leads⟩, ends⟩
  | case4 d ns name rest dot dots mode entries found ih =>
    obtain ⟨short, below⟩ := isSome_folder?_of_lookup h found
    refine (ih below).mono fun ms => ?_
    rintro ⟨part, leads, ends⟩
    refine ⟨name :: part, List.cons_prefix_cons.2 ⟨rfl, leads⟩, ?_⟩
    rw [enter_down h dot dots short below]
    exact ends
  | case5 => exact Adds.refl
  -- only here a directory is made, and the rest of the way leads through the grown tree
  | case6 d ns name rest dot dots missing ih =>
    have step : ∀ part,
        d.enter (name :: part) ns = (d.withFolder ns name).enter part (ns ++ [name]) := by
      intro part
      rw [enter, missing]
      · exact dot
      · exact dots
    have here := adds_withFolder h (lookup_notFound_iff.1 missing).2
    refine (here.mono fun ms => ?_).trans
      ((ih (isSome_folder?_withFolder h)).mono fun ms => ?_)
    · rintro rfl
      refine ⟨[name], List.cons_prefix_cons.2 ⟨rfl, List.nil_prefix⟩, ?_⟩
      rw [step]
      rfl
    · rintro ⟨part, leads, ends⟩
      refine ⟨name :: part, List.cons_prefix_cons.2 ⟨rfl, leads⟩, ?_⟩
      rw [step]
      exact ends
  | case7 => exact Adds.refl

end Additions

end Directory

namespace Url

/-- The addresses have one scheme and one host, and the same port, be it named or implied. -/
structure SameSite (u v : Url) : Prop where
  scheme : u.scheme = v.scheme
  host : u.authority.bind (·.host) = v.authority.bind (·.host)
  port : (u.authority.bind (·.port)).or (defaultPort? u.scheme) =
    (v.authority.bind (·.port)).or (defaultPort? v.scheme)

section Origins

variable {u v : Url}

/-- An address has an origin of its own if it has a host, its scheme implies a port, and so it has a
port. -/
lemma ownOrigin?_eq (u : Url) : u.ownOrigin? = (do
    let host ← u.authority.bind (·.host)
    let _ ← defaultPort? u.scheme
    let port ← (u.authority.bind (·.port)).or (defaultPort? u.scheme)
    return ⟨u.scheme, host, port⟩) := by
  unfold ownOrigin?
  cases defaultPort? u.scheme with
  | none => cases u.authority.bind (·.host) <;> rfl
  | some n =>
    cases u.authority with
    | none => rfl
    | some a =>
      obtain ⟨_, _, host, port⟩ := a
      cases host <;> cases port <;> rfl

/-- The origin of an address that is not of a blob is its own. -/
lemma origin?_eq_ownOrigin? (web : u.scheme ≠ "blob") : u.origin? = u.ownOrigin? := by
  unfold origin?
  cases u.path.text.length with
  | zero => rfl
  | succ depth => exact if_neg web

/-- An address has its origin by its site, if it is not that of a blob. -/
lemma SameSite.origin?_eq (h : v.SameSite u) (web : u.scheme ≠ "blob") : v.origin? = u.origin? := by
  have web' : v.scheme ≠ "blob" := by
    rw [h.scheme]
    exact web
  rw [origin?_eq_ownOrigin? web, origin?_eq_ownOrigin? web', ownOrigin?_eq, ownOrigin?_eq, h.scheme,
    h.host, ← h.port, h.scheme]

/-- A blob has its origin by its path. -/
lemma origin?_of_blob (blob : u.scheme = "blob") (blob' : v.scheme = "blob")
    (path : v.path = u.path) : v.origin? = u.origin? := by
  unfold origin?
  rw [path]
  cases u.path.text.length with
  | zero => rw [originWithin, originWithin, ownOrigin?, ownOrigin?, blob, blob']; rfl
  | succ depth => rw [originWithin, originWithin, if_pos blob, if_pos blob', path]

end Origins

end Url

namespace FolderStore
open Directory Text

/-- What opening the store at `n` below a path does: it makes what is missing on the path, and the
directory of the name where the path ends. The store that is opened is in that directory. -/
structure OpensChild (d : Directory) (path : List String) (n : String)
    (r : Except StorageError FolderStore × Directory) : Prop where
  adds : Adds (fun ms =>
    (∃ part, part <+: path ∧ (d.enter part).1 = .ok ms) ∨
    ∃ top, (d.enter path).1 = .ok top ∧ ms = top ++ [n]) d r.2
  opened : ∀ s, r.1 = .ok s → ∃ top, (d.enter path).1 = .ok top ∧
    ((∃ b, r.2.folder? (top ++ [n]) = some b ∧ s.place = .ok b) ∨
      s.place = .error .notADirectory ∧
        ∃ mode content, r.2.stands? (top ++ [n]) = some (mode, some content))
  failed : ∀ e, r.1 = .error e → ∃ cause, e = .io cause

section Children

variable {d d' : Directory} {path ms : List String} {n : String}

/-- Opening a store fails for reasons of the file system only. -/
lemma io_of_openAt {e} (failed : (openAt d path).1 = .error e) : ∃ cause, e = .io cause := by
  rw [openAt] at failed
  split at failed
  case h_1 => cases failed
  case h_2 =>
    split at failed
    case h_1 => cases failed
    case h_2 cause _ _ =>
      cases failed
      exact ⟨cause, rfl⟩

/-- Opening a store makes and opens nothing but its directory and the way there. -/
lemma opensChild_openAt (name : IsName n) : OpensChild d path n (openAt d (path ++ [n])) := by
  have way : Adds _ d (d.enter path).2 := adds_enter rfl
  -- first the way is made, then its last name is opened: a directory, a file or missing
  cases entered : d.enter path with
  | mk r d' =>
    rw [entered] at way
    cases r with
    | error e =>
      rw [openAt_failed entered]
      exact ⟨way.mono fun _ => .inl, by rintro _ ⟨⟩, fun e h => ⟨_, (Except.error.inj h).symm⟩⟩
    | ok ms =>
      obtain ⟨leads, h⟩ := leads_of_enter rfl entered
      have top : (d.enter path).1 = .ok ms := congrArg Prod.fst entered
      cases found : (d'.folderAt ms).lookup n with
      | ok x =>
        cases x with
        | folder mode entries =>
          rw [openAt_folder (b := ⟨mode, entries⟩) name entered found]
          refine ⟨way.mono fun _ => .inl,
            fun s h' => ⟨ms, top, .inl ⟨⟨mode, entries⟩, ?_, ?_⟩⟩, by rintro _ ⟨⟩⟩
          · exact folder?_concat h (lookup_ok_iff.1 found).2
          · cases h'
            rfl
        | file mode content =>
          obtain ⟨r, opened, noPlace⟩ := openAt_file name entered found
          have failed : ∀ e, r = .error e → ∃ cause, e = .io cause := by
            rintro e rfl
            exact io_of_openAt (congrArg Prod.fst opened)
          rw [opened]
          refine ⟨way.mono fun _ => .inl,
            fun s h' => ⟨ms, top, .inr ⟨noPlace s h', mode, content, ?_⟩⟩, failed⟩
          rw [stands?_append (folder?_folderAt h), stands?, (lookup_ok_iff.1 found).2]
          rfl
      | error e =>
        obtain rfl | rfl := lookup_error found
        · rw [openAt_long name entered found]
          exact ⟨way.mono fun _ => .inl, by rintro _ ⟨⟩,
            fun e h => ⟨_, (Except.error.inj h).symm⟩⟩
        · rw [openAt_missing name entered found]
          have made := adds_withFolder h (lookup_notFound_iff.1 found).2
          refine ⟨(way.mono fun _ => .inl).trans (made.mono fun ns same => .inr ⟨ms, top, same⟩),
            fun s h' => ⟨ms, top, .inl ⟨empty, ?_, ?_⟩⟩, by rintro _ ⟨⟩⟩
          · exact folder?_concat (grows_withFolder h found _ h) (get?_withFolder h).1
          · cases h'
            rfl

end Children

section Origins

variable {tree : Directory} {path current : List String} {root : String} {u v : Url} {o : Origin}

/-- A character of a directory's name is one of a key, but no underscore. -/
lemma isKeyChar_of_isNameChar {c : Char} (h : Origin.isNameChar c = true) :
    IsKeyChar c ∧ c ≠ '_' := by
  constructor
  · rw [← isKeyChar_iff]
    simp only [Origin.isNameChar, Bool.or_eq_true] at h ⊢
    tauto
  · rintro rfl
    cases h

/-- An address without an origin has no store. -/
lemma openOrigin_of_none (h : u.origin? = none) :
    openOrigin tree path u = (.error .opaqueOrigin, tree) := by
  rw [openOrigin, originName, h]

/-- The store of an address is in the directory of its origin. -/
lemma openOrigin_of_origin? (h : u.origin? = some o) :
    openOrigin tree path u = openAt tree (path ++ [o.directoryName]) := by
  rw [openOrigin, originName_of_origin? h]

/-- Addresses of one origin open one store. -/
lemma openOrigin_congr (h : v.origin? = u.origin?) :
    openOrigin tree path v = openOrigin tree path u := by
  rw [openOrigin, openOrigin, originName, originName, h]

/-- The addresses without a store are those without an origin. -/
lemma origin?_eq_none_iff :
    u.origin? = none ↔ (openOrigin tree path u).1 = .error .opaqueOrigin := by
  constructor
  · intro h
    rw [openOrigin_of_none h]
  · intro h
    cases found : u.origin? with
    | none => rfl
    | some o =>
      rw [openOrigin_of_origin? found] at h
      obtain ⟨_, io⟩ := io_of_openAt h
      cases io

/-- The name of an origin's directory is its scheme and further parts, with underscores between. -/
lemma exists_parts {n} (implied : defaultPort? o.scheme = some n) : ∃ others,
    o.directoryName.toList = joinWith ['_'] (o.scheme.toList :: others) ∧
      ∀ w ∈ o.scheme.toList :: others, w ≠ [] ∧ ∀ c ∈ w, IsKeyChar c ∧ c ≠ '_' := by
  refine ⟨Origin.nameRuns o.host.text.toList ++ o.portParts, ?_, fun w mem => ?_⟩
  · rw [Origin.directoryName_eq implied, String.toList_ofList, Origin.parts]
  · obtain ⟨ne, clear⟩ := Origin.plain_of_mem_parts implied mem
    refine ⟨ne, fun c hc => isKeyChar_of_isNameChar ?_⟩
    rw [← Bool.not_eq_false']
    exact clear c hc

/-- Opening the store of an address fails for the want of an origin, and then makes nothing, exactly
if there is none. Otherwise the store is opened in a directory of the root, whose name is the
origin's scheme and further parts of letters, digits, points and hyphens, none of them empty, with
one underscore between neighbours; it has no slash in it, is neither of the two names that lead
elsewhere, and stands behind the root in the path. All that is made is this directory and those
missing on the way to the root, and what is opened is this directory. It is the same for all
addresses of one site, whatever their credentials, paths, queries and fragments are, and for all
blobs with one path. An address that names the port that its scheme implies is read as the one
without it. -/
theorem origin_store_below_root (tree : Directory) (current : List String) (root : String)
    (u : Url) :
    (u.origin? = none ↔
      (openOrigin tree (pathFrom current root) u).1 = .error .opaqueOrigin) ∧
    (u.origin? = none → (openOrigin tree (pathFrom current root) u).2 = tree) ∧
    (∀ o, u.origin? = some o → ∃ name others,
      name.toList = joinWith ['_'] (o.scheme.toList :: others) ∧
      (∀ w ∈ o.scheme.toList :: others, w ≠ [] ∧ ∀ c ∈ w, IsKeyChar c ∧ c ≠ '_') ∧
      '/' ∉ name.toList ∧ name ≠ "." ∧ name ≠ ".." ∧
      pathFrom current (joinPath root name) = pathFrom current root ++ [name] ∧
      openOrigin tree (pathFrom current root) u =
        openAt tree (pathFrom current (joinPath root name)) ∧
      OpensChild tree (pathFrom current root) name (openOrigin tree (pathFrom current root) u)) ∧
    (u.scheme ≠ "blob" → ∀ v, v.SameSite u →
      openOrigin tree (pathFrom current root) v = openOrigin tree (pathFrom current root) u) ∧
    (u.scheme = "blob" → ∀ v, v.scheme = "blob" → v.path = u.path →
      openOrigin tree (pathFrom current root) v = openOrigin tree (pathFrom current root) u) ∧
    ∀ s t, Url.parse s = .ok u → Url.NamesImplied (Url.clean s.toList) (Url.clean t.toList) →
      Url.parse t = .ok u := by
  refine ⟨origin?_eq_none_iff, fun h => ?_, fun o h => ?_, fun web v same => ?_,
    fun blob v blob' same => ?_, fun s t found named => ?_⟩
  · rw [openOrigin_of_none h]
  · obtain ⟨n, implied⟩ := Url.implied_of_origin? h
    obtain ⟨others, spelled, plain⟩ := exists_parts implied
    have name := Origin.isName_directoryName implied
    have clear := Origin.clear_directoryName implied
    have below : pathFrom current (joinPath root o.directoryName) =
        pathFrom current root ++ [o.directoryName] := by
      rw [pathFrom_joinPath current root (relative_of_clear clear),
        Origin.pathNames_directoryName implied]
    refine ⟨o.directoryName, others, spelled, plain, clear, name.ne_dot, name.ne_dots, below, ?_,
      ?_⟩
    · rw [below, openOrigin_of_origin? h]
    · rw [openOrigin_of_origin? h]
      exact opensChild_openAt name
  · exact openOrigin_congr (same.origin?_eq web)
  · exact openOrigin_congr (Url.origin?_of_blob blob blob' same)
  · rw [Url.parse_of_namesImplied named, found]

/-- The stores of two blobs, whose addresses differ in their paths alone, are in different
directories. -/
theorem blob_stores_follow_path :
    ∃ u v, Url.parse "blob:http://[::1]/id" = .ok u ∧ Url.parse "blob:http://[::2]/id" = .ok v ∧
      v = { u with path := v.path } ∧ u.origin?.isSome ∧ v.origin?.isSome ∧
      ((openOrigin .empty ["storage"] u).2.folder? ["storage", "http_1"]).isSome ∧
      ((openOrigin .empty ["storage"] v).2.folder? ["storage", "http_2"]).isSome ∧
      ¬ ((openOrigin .empty ["storage"] v).2.folder? ["storage", "http_1"]).isSome := by
  refine ⟨{ scheme := "blob", path := .plain "http://[::1]/id" },
    { scheme := "blob", path := .plain "http://[::2]/id" }, ?_, ?_, rfl, ?_, ?_, ?_, ?_, ?_⟩
  all_goals decide +kernel

end Origins

end FolderStore

end SeedVault
