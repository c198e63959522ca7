import SeedVault.Extension.Unpacked
import SeedVault.Proofs.Bytes.Base64
import SeedVault.Proofs.Json.Record

/-!
# Bundles and their ids

A bundle that is located has a manifest of the version that was asked for (`locate_ok_iff`). Its id
spells half a digest in letters, which say no less than the bytes do (`encodeId_injective`). So ids
with a key depend on the bytes of the key only, and those without on the path of the directory only
(`id_identifies`).
-/

namespace SeedVault.UnpackedExtension

/-- A text is a manifest with a version and a key, of which the key may be missing or null. -/
def IsManifest (text version : String) (key : Option String) : Prop :=
  ∃ v rest, manifestShape.read text.toList = .ok (v, rest) ∧
    v.field? "version" = some (.string version) ∧ key = (v.field? "key").bind Json.string?

/-- A manifest that is read has a version. -/
lemma field?_version {cs v rest} (read : manifestShape.read cs = .ok (v, rest)) :
    ∃ version, v.field? "version" = some (.string version) := by
  have holds := Json.Shape.holds_of_read read
  obtain ⟨w, field⟩ := holds.exists_field List.mem_cons_self
  cases holds.fieldOf field with
  | intro named shape =>
    rw [List.mem_cons, List.mem_singleton] at named
    obtain version | key := named
    · cases version
      cases shape with
      | text version => exact ⟨version, field⟩
    · have other : "version" = "key" := congrArg Prod.fst key
      exact absurd other (by decide)

/-- What is read from a file is a version and a key exactly if its text is a manifest with these. -/
lemma readManifest_ok_iff {content : Except IoError String} {version key} :
    readManifest content = .ok (version, key) ↔
      ∃ text, content = .ok text ∧ IsManifest text version key := by
  cases content with
  | error e =>
    refine iff_of_false (by simp [readManifest]) ?_
    rintro ⟨_, h, _⟩
    cases h
  | ok text =>
    rw [readManifest]
    cases read : manifestShape.read text.toList with
    | error m =>
      refine iff_of_false (by simp) ?_
      rintro ⟨_, h, _, _, read', _⟩
      cases h
      rw [read] at read'
      cases read'
    | ok r =>
      obtain ⟨v, rest⟩ := r
      obtain ⟨found, field⟩ := field?_version read
      dsimp only
      rw [field, Option.bind_some, Json.string?, Option.getD_some, Except.ok.injEq, Prod.mk.injEq]
      constructor
      · rintro ⟨rfl, rfl⟩
        exact ⟨text, rfl, v, rest, read, field, rfl⟩
      · rintro ⟨_, h, v', rest', read', field', key'⟩
        cases h
        rw [read] at read'
        cases read'
        rw [field] at field'
        cases field'
        exact ⟨rfl, key'.symm⟩

/-- What is located is the bundle in the directory that is named for the version, and says in its
manifest that it has this version. -/
lemma locate_ok_iff {tree : Directory} {current directory name version} {b : UnpackedExtension} :
    locate tree current directory name version = .ok b ↔
      b.version = version ∧ ∃ names bundle manifest text,
        tree.trace (pathFrom current (joinPath directory (name ++ "-" ++ version))) =
          .ok (names, bundle) ∧
        openManifest bundle = .ok manifest ∧ textOf manifest = .ok text ∧
        IsManifest text version b.key ∧ b.directory = "/" ++ "/".intercalate names := by
  rw [locate]
  constructor
  · intro h
    obtain ⟨⟨names, bundle⟩, traced, inside⟩ := Attempt.ok_bind_iff.1 h
    obtain ⟨manifest, opened, inside⟩ := Attempt.ok_bind_iff.1 inside
    obtain ⟨⟨found, key⟩, read, checked⟩ := Attempt.ok_bind_iff.1 inside
    obtain ⟨text, content, told⟩ := readManifest_ok_iff.1 read
    dsimp only at checked
    split at checked
    case isTrue same =>
      subst same
      cases checked
      exact ⟨rfl, names, bundle, manifest, text, Attempt.ok_mapError_iff.1 traced, opened, content,
        told, rfl⟩
    case isFalse => cases checked
  · rintro ⟨rfl, names, bundle, manifest, text, traced, opened, content, told, path⟩
    refine Attempt.ok_bind_iff.2 ⟨_, Attempt.ok_mapError_iff.2 traced, ?_⟩
    refine Attempt.ok_bind_iff.2 ⟨_, opened, ?_⟩
    refine Attempt.ok_bind_iff.2 ⟨_, readManifest_ok_iff.2 ⟨text, content, told⟩, ?_⟩
    dsimp only
    rw [if_pos rfl, ← path]
    rfl

/-- The letters of ids go from a to p. -/
lemma idLetter_range {n} (lt : n < 16) : 'a' ≤ idLetter n ∧ idLetter n ≤ 'p' := by
  have all : ∀ n ∈ List.range 16, 'a' ≤ idLetter n ∧ idLetter n ≤ 'p' := by decide
  exact all n (List.mem_range.2 lt)

/-- Different digits have different letters. -/
lemma idLetter_inj {m n} (hm : m < 16) (hn : n < 16) (h : idLetter m = idLetter n) : m = n := by
  have all : ∀ m ∈ List.range 16, ∀ n ∈ List.range 16, idLetter m = idLetter n → m = n := by decide
  exact all m (List.mem_range.2 hm) n (List.mem_range.2 hn) h

/-- Every character of hexadecimal text is a digit. -/
lemma value?_of_mem_encode {bs c} (mem : c ∈ Hex.encode bs) : ∃ d < 16, Hex.value? c = some d := by
  obtain ⟨b, _, half⟩ := List.mem_flatMap.1 mem
  have lt := b.toNat_lt
  rw [List.mem_cons, List.mem_singleton] at half
  obtain rfl | rfl := half
  · exact ⟨b.toNat / 16, by omega, Hex.value?_digit (by omega)⟩
  · exact ⟨b.toNat % 16, by omega, Hex.value?_digit (by omega)⟩

/-- The letters of a byte, that of the high half first. -/
def idPair (b : UInt8) : List Char := [idLetter (b.toNat / 16), idLetter (b.toNat % 16)]

/-- Bytes are written as two letters each. -/
lemma toList_encodeId (bs) : (encodeId bs).toList = bs.flatMap idPair := by
  rw [encodeId, String.toList_ofList, Hex.encode, List.map_flatMap]
  congr 1
  funext b
  have lt := b.toNat_lt
  rw [List.map_cons, List.map_cons, List.map_nil, Hex.value?_digit (by omega),
    Hex.value?_digit (by omega)]
  rfl

/-- Different bytes have different letters. -/
lemma idPair_inj {b b'} (h : idPair b = idPair b') : b = b' := by
  have lt := b.toNat_lt
  have lt' := b'.toNat_lt
  obtain ⟨high, low⟩ := List.cons_eq_cons.1 h
  have high := idLetter_inj (by omega) (by omega) high
  have low := idLetter_inj (by omega) (by omega) (List.cons_eq_cons.1 low).1
  rw [← UInt8.toNat_inj]
  omega

/-- No two byte strings have the same letters. -/
lemma encodeId_injective : Function.Injective encodeId := by
  intro bs bs' h
  have letters := congrArg String.toList h
  rw [toList_encodeId, toList_encodeId] at letters
  clear h
  induction bs generalizing bs' with
  | nil =>
    cases bs' with
    | nil => rfl
    | cons b' bs' => cases letters
  | cons b bs ih =>
    cases bs' with
    | nil => cases letters
    | cons b' bs' =>
      rw [List.flatMap_cons, List.flatMap_cons] at letters
      obtain ⟨first, others⟩ := List.append_inj letters rfl
      rw [idPair_inj first, ih others]

/-- The letters are twice as many as the bytes. -/
lemma length_encodeId (bs) : (encodeId bs).length = 2 * bs.length := by
  rw [← String.length_toList, toList_encodeId]
  induction bs with
  | nil => rfl
  | cons b bs ih =>
    rw [List.flatMap_cons, List.length_append, ih, List.length_cons]
    exact Nat.add_comm 2 _

/-- All letters are from a to p. -/
lemma range_of_mem_encodeId {bs c} (mem : c ∈ (encodeId bs).toList) : 'a' ≤ c ∧ c ≤ 'p' := by
  rw [toList_encodeId] at mem
  obtain ⟨b, _, letter⟩ := List.mem_flatMap.1 mem
  have lt := b.toNat_lt
  rw [idPair, List.mem_cons, List.mem_singleton] at letter
  obtain rfl | rfl := letter
  · exact idLetter_range (by omega)
  · exact idLetter_range (by omega)

/-- The id that a byte string gives to an extension. -/
def idOf (source : Bytes) : String := encodeId ((Sha256.digest source).take 16)

/-- Ids have thirty-two letters. -/
lemma length_idOf (source) : (idOf source).length = 32 := by
  rw [idOf, length_encodeId, List.length_take, Sha256.length_digest]
  rfl

/-- There is an id if there are bytes to name the extension by. -/
lemma id_ok_iff {b : UnpackedExtension} {i} :
    b.id = .ok i ↔ ∃ source, b.idSource = .ok source ∧ idOf source = i := by
  rw [id]
  constructor
  · intro h
    obtain ⟨source, named, done⟩ := Attempt.ok_bind_iff.1 h
    exact ⟨source, Attempt.ok_mapError_iff.1 named, Except.ok.inj done⟩
  · rintro ⟨source, named, rfl⟩
    exact Attempt.ok_bind_iff.2 ⟨source, Attempt.ok_mapError_iff.2 named, rfl⟩

/-- With a key it is the key's bytes that give the id. -/
lemma idSource_key_iff {b : UnpackedExtension} {key source} (keyed : b.key = some key) :
    b.idSource = .ok source ↔ Base64.Writes source (Bytes.ofString (Text.trimmed key)) := by
  rw [idSource, keyed]
  exact Base64.decode_ok_iff

/-- A key that writes some bytes gives their id. -/
lemma id_of_writes {b : UnpackedExtension} {key source} (keyed : b.key = some key)
    (written : Base64.Writes source (Bytes.ofString (Text.trimmed key))) :
    b.id = .ok (idOf source) :=
  id_ok_iff.2 ⟨source, (idSource_key_iff keyed).2 written, rfl⟩

/-- A bundle that is located has a manifest of the version that was asked for. With a key in the
manifest there is an id exactly if the key, without blanks around it, is the writing of some bytes,
and two ids are the same exactly if the bytes have digests with the same first half. Without a key
the id is that of the path of the directory. All ids are 32 letters from a to p, two for each byte
and that of its high half first, so different bytes have different letters; and no character of
hexadecimal text is left as it is. -/
theorem id_identifies :
    (∀ tree current directory name version b,
      locate tree current directory name version = .ok b →
        b.version = version ∧ ∃ names bundle manifest text,
          tree.trace (pathFrom current (joinPath directory (name ++ "-" ++ version))) =
            .ok (names, bundle) ∧
          openManifest bundle = .ok manifest ∧ textOf manifest = .ok text ∧
          IsManifest text version b.key ∧ b.directory = "/" ++ "/".intercalate names) ∧
    (∀ (b : UnpackedExtension) key, b.key = some key →
      ((∃ i, b.id = .ok i) ↔
        ∃ source, Base64.Writes source (Bytes.ofString (Text.trimmed key)))) ∧
    (∀ (b b' : UnpackedExtension) key key' source source', b.key = some key → b'.key = some key' →
      Base64.Writes source (Bytes.ofString (Text.trimmed key)) →
      Base64.Writes source' (Bytes.ofString (Text.trimmed key')) →
      (b.id = b'.id ↔ (Sha256.digest source).take 16 = (Sha256.digest source').take 16)) ∧
    (∀ b : UnpackedExtension, b.key = none → b.id = .ok (idOf (Bytes.ofString b.directory))) ∧
    (∀ (b : UnpackedExtension) i, b.id = .ok i →
      i.length = 32 ∧ ∀ c ∈ i.toList, 'a' ≤ c ∧ c ≤ 'p') ∧
    (∀ bs, (encodeId bs).toList = bs.flatMap fun b =>
      [Char.ofNat ('a'.toNat + b.toNat / 16), Char.ofNat ('a'.toNat + b.toNat % 16)]) ∧
    Function.Injective encodeId ∧
    ∀ bs, ∀ c ∈ Hex.encode bs, ∃ d < 16, Hex.value? c = some d := by
  -- two ids are compared by `encodeId`, which is injective, so by the digests
  refine ⟨?_, ?_, ?_, ?_, ?_, toList_encodeId, encodeId_injective, fun _ _ => value?_of_mem_encode⟩
  · intro tree current directory name version b located
    exact locate_ok_iff.1 located
  · intro b key keyed
    constructor
    · rintro ⟨i, ok⟩
      obtain ⟨source, named, _⟩ := id_ok_iff.1 ok
      exact ⟨source, (idSource_key_iff keyed).1 named⟩
    · rintro ⟨source, written⟩
      exact ⟨_, id_of_writes keyed written⟩
  · intro b b' key key' source source' keyed keyed' written written'
    rw [id_of_writes keyed written, id_of_writes keyed' written', Except.ok.injEq]
    exact encodeId_injective.eq_iff
  · intro b keyless
    refine id_ok_iff.2 ⟨_, ?_, rfl⟩
    rw [idSource, keyless]
  · intro b i ok
    obtain ⟨source, _, rfl⟩ := id_ok_iff.1 ok
    exact ⟨length_idOf source, fun c mem => range_of_mem_encodeId mem⟩

/-- Two bundles whose keys spell the same bytes, one of them without its padding. -/
theorem bundles_of_one_key_share_id :
    let bundle (manifest : String) : Node :=
      .folder 0o755 [("manifest.json", .file 0o644 (Bytes.ofString manifest))]
    let tree : Directory := ⟨ownerFolder,
      [("keplr-1", bundle "\x7b\"version\": \"1\", \"key\": \"AQI=\"\x7d"),
        ("other-2", bundle "\x7b\"key\": \" AQI \", \"version\": \"2\"\x7d")]⟩
    let b : UnpackedExtension := ⟨"/keplr-1", "1", some "AQI="⟩
    let b' : UnpackedExtension := ⟨"/other-2", "2", some " AQI "⟩
    locate tree [] "/" "keplr" "1" = .ok b ∧ locate tree [] "/" "other" "2" = .ok b' ∧
      b.version = "1" ∧ b'.version = "2" ∧ b.id = b'.id ∧ ∃ i, b.id = .ok i ∧ i.length = 32 := by
  intro bundle tree b b'
  have found : locate tree [] "/" "keplr" "1" = .ok b := by decide +kernel
  have found' : locate tree [] "/" "other" "2" = .ok b' := by decide +kernel
  have written : Base64.Writes [1, 2] (Bytes.ofString (Text.trimmed "AQI=")) :=
    ⟨0, by decide +kernel⟩
  have written' : Base64.Writes [1, 2] (Bytes.ofString (Text.trimmed " AQI ")) :=
    ⟨1, by decide +kernel⟩
  obtain ⟨located, valid, keys, _, letters, _⟩ := id_identifies
  have version := (located _ _ _ _ _ b found).1
  have version' := (located _ _ _ _ _ b' found').1
  have same := (keys b b' _ _ _ _ rfl rfl written written').2 rfl
  obtain ⟨i, ok⟩ := (valid b _ rfl).2 ⟨_, written⟩
  exact ⟨found, found', version, version', same, i, ok, (letters b i ok).1⟩

end SeedVault.UnpackedExtension
