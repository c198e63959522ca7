import Mathlib
import SeedVault.Config.Basic
import SeedVault.Proofs.Attempt
import SeedVault.Proofs.Bytes.Text
import SeedVault.Proofs.Toml.Order

/-!
# What the configuration says

A configuration is made of settings, each with its place in the document (`Configuration.settings`).
A document is accepted if it has no keys but the declared ones, the selectors apart, if none of
these is listed twice, and if each setting that is there is one that is read; each setting of the
configuration is then the document's, or else the default one (`document_overrides_defaults`). A
table that keys with points in them and headers make together is listed twice, and so refused
(`table_of_dotted_keys_and_header_is_refused`).
-/

namespace SeedVault

open Toml

namespace Toml.Value

/-- The text that a value is. -/
def text? : Value → Option String
  | text s _ => some s
  | _ => none

/-- The truth value that a value is. -/
def bool? : Value → Option Bool
  | bool b _ => some b
  | _ => none

/-- The span of time that a value is: a number that is not negative, or a text that spells one of
64 bits. -/
def span? : Value → Option Nat
  | integer (.ofNat n) _ => some n
  | text s _ => (Text.Decimal.read Text.Decimal.max64 s.toList).toOption
  | _ => none

/-- The derivation path that a value spells. -/
def path? (v : Value) : Option DerivationPath :=
  v.text?.bind fun s => (DerivationPath.parse s).toOption

/-- The absolute address that a value spells. -/
def url? (v : Value) : Option Url := v.text?.bind fun s => (Url.parse s).toOption

/-- What is read as a text is the text that a value is. -/
lemma toOption_readText (expected : String) (v : Value) :
    (v.readText expected).toOption = v.text? := by
  cases v <;> rfl

/-- What is read as a truth value is the one that a value is. -/
lemma toOption_readBool (v : Value) : v.readBool.toOption = v.bool? := by
  cases v <;> rfl

section Plain

variable {v : Value}

/-- There is no fault within a text. -/
lemma innerFault?_of_text? (read : v.text?.isSome = true) : v.innerFault? = none := by
  cases v with
  | text => rfl
  | integer | float | bool | date | array | table | dotted => cases read

/-- There is no fault within what a text is read as. -/
lemma innerFault?_of_text_read {β : Type} {f : String → Option β}
    (read : (v.text?.bind f).isSome = true) : v.innerFault? = none :=
  innerFault?_of_text? (Option.isSome_of_isSome_bind read)

/-- There is no fault within a truth value. -/
lemma innerFault?_of_bool? (read : v.bool?.isSome = true) : v.innerFault? = none := by
  cases v with
  | bool => rfl
  | integer | float | text | date | array | table | dotted => cases read

/-- There is no fault within a span of time. -/
lemma innerFault?_of_span? (read : v.span?.isSome = true) : v.innerFault? = none := by
  cases v with
  | integer | text => rfl
  | float | bool | date | array | table | dotted => cases read

end Plain

/-- A table is nothing that a setting could be. -/
lemma unread_of_isTable {v : Value} (table : v.isTable = true) :
    v.text? = none ∧ v.bool? = none ∧ v.span? = none := by
  cases v with
  | table | dotted => exact ⟨rfl, rfl, rfl⟩
  | integer | float | bool | text | date | array => cases table

/-- Alike values are the same text, truth value or span of time, or none. -/
lemma Alike.reads {v v' : Value} (h : v.Alike v') :
    v.text? = v'.text? ∧ v.bool? = v'.bool? ∧ v.span? = v'.span? := by
  cases h with
  | table _ table table' =>
    obtain ⟨text, bool, span⟩ := unread_of_isTable table
    obtain ⟨text', bool', span'⟩ := unread_of_isTable table'
    exact ⟨text.trans text'.symm, bool.trans bool'.symm, span.trans span'.symm⟩
  | integer n => cases n <;> exact ⟨rfl, rfl, rfl⟩
  | float | bool | text | date | array => exact ⟨rfl, rfl, rfl⟩

end Toml.Value

namespace Configuration

/-- A span of time is read from a value exactly if the value is one. -/
lemma toOption_readSpan (around : Nat) (v : Value) : (readSpan around v).toOption = v.span? := by
  cases v with
  | text s start =>
    simp only [readSpan, Value.span?]
    cases Text.Decimal.read Text.Decimal.max64 s.toList <;> rfl
  | integer n start =>
    cases n with
    | ofNat n => rfl
    | negSucc n => rfl
  | float | bool | date | array | table | dotted =>
    simp only [readSpan]
    split <;> rfl

/-- A derivation path is read from a value exactly if the value is one. -/
lemma toOption_readPath (around : Nat) (v : Value) : (readPath around v).toOption = v.path? := by
  cases v with
  | text s start =>
    show (readPath around (.text s start)).toOption = (DerivationPath.parse s).toOption
    simp only [readPath, Value.readText, bind, Except.bind]
    cases DerivationPath.parse s <;> rfl
  | integer | float | bool | date | array | table | dotted => rfl

/-- An address is read from a value exactly if the value is one. -/
lemma toOption_readUrl (v : Value) : (readUrl v).toOption = v.url? := by
  cases v with
  | text s start =>
    show (readUrl (.text s start)).toOption = (Url.parse s).toOption
    simp only [readUrl, Value.readText, bind, Except.bind]
    cases Url.parse s <;> rfl
  | integer | float | bool | date | array | table | dotted => rfl

section Selectors

variable {α : Type}

/-- A selector as a member of its record. -/
def selectorMember (defaults : α) (f : TextField α) : Member α where
  name := f.name
  reads _ v := v.readText "a string"
  get := f.get
  set := f.set
  defaults := f.get defaults
  settings := [⟨[], Value.text?, fun s => s⟩]

/-- A selector as a setting. -/
def selectorSetting (f : TextField α) : Setting α := ⟨[f.name], Value.text?, f.get⟩

/-- The settings of selectors are one for each of their fields. -/
lemma settings_selectors (defaults : α) (fields : List (TextField α)) :
    Members.settings (fields.map (selectorMember defaults)) = fields.map selectorSetting := by
  rw [Members.settings, List.flatMap_map]
  exact List.map_eq_flatMap.symm

/-- Texts of a record that do not touch each other. -/
structure Apart (fields : List (TextField α)) : Prop where
  names : (fields.map TextField.name).Nodup
  get_set : ∀ f ∈ fields, ∀ s r, f.get (f.set s r) = s
  get_set_of_ne : ∀ f ∈ fields, ∀ g ∈ fields, f.name ≠ g.name → ∀ s r, g.get (f.set s r) = g.get r

/-- Selectors are read field by field if the fields are apart. -/
lemma members_selectors {k : RecordKind α} {fields : List (TextField α)} (defaults : α)
    (same : k.fields = fields.map selectorField) (apart : Apart fields) :
    Members k (fields.map (selectorMember defaults)) where
  fields := by
    rw [same, List.map_map]
    rfl
  names := by
    rw [List.map_map]
    exact apart.names
  get_set := by
    intro m mem
    obtain ⟨f, listed, rfl⟩ := List.mem_map.1 mem
    exact apart.get_set f listed
  get_set_of_ne := by
    intro m mem m' mem' other
    obtain ⟨f, listed, rfl⟩ := List.mem_map.1 mem
    obtain ⟨g, listed', rfl⟩ := List.mem_map.1 mem'
    exact apart.get_set_of_ne f listed g listed' other
  overrides := by
    intro m mem
    obtain ⟨f, listed, rfl⟩ := List.mem_map.1 mem
    exact .leaf (fun _ v => v.toOption_readText "a string") (fun _ => Value.innerFault?_of_text?) _

/-- A record of selectors is read selector by selector. -/
lemma overrides_selectors {k : RecordKind α} {fields : List (TextField α)} (defaults : α)
    (same : k.fields = fields.map selectorField) (apart : Apart fields) :
    Overrides (fun around v => k.read around defaults v) defaults
      (Members.Fit (fields.map (selectorMember defaults)))
      (Members.Known k (fields.map (selectorMember defaults))) (fields.map selectorSetting) := by
  rw [← settings_selectors defaults]
  refine (members_selectors defaults same apart).record fun m mem => ?_
  obtain ⟨f, _, rfl⟩ := List.mem_map.1 mem
  rfl

/-- The selectors of the wallet's pages are apart. -/
lemma apart_wallet : Apart WalletSelectors.fields where
  names := by decide
  get_set := by simp [WalletSelectors.fields]
  get_set_of_ne := by simp [WalletSelectors.fields]

/-- The selectors of the application's page are apart. -/
lemma apart_app : Apart PhrasePageSelectors.fields where
  names := by decide
  get_set := by simp [PhrasePageSelectors.fields]
  get_set_of_ne := by simp [PhrasePageSelectors.fields]

end Selectors

/-- The fields of the settings of browser runs. -/
def browserMembers : List (Member BrowserSettings) :=
  [{ name := "extensions_dir"
     reads := fun _ v => (v.readText "path string").map some
     get := (·.extensionsDir)
     set := fun dir r => { r with extensionsDir := dir }
     defaults := none
     settings := [⟨[], fun v => v.text?.map some, fun dir => dir⟩] },
   { name := "headless"
     reads := fun _ v => v.readBool
     get := (·.headless)
     set := fun b r => { r with headless := b }
     defaults := false
     settings := [⟨[], Value.bool?, fun b => b⟩] },
   { name := "step_timeout"
     reads := readSpan
     get := (·.stepTimeout)
     set := fun span r => { r with stepTimeout := span }
     defaults := 10000
     settings := [⟨[], Value.span?, fun span => span⟩] },
   { name := "keplr"
     reads := fun around v => walletKind.read around {} v
     get := (·.wallet)
     set := fun wallet r => { r with wallet }
     defaults := {}
     fit := Members.Fit (WalletSelectors.fields.map (selectorMember {}))
     known := Members.Known walletKind (WalletSelectors.fields.map (selectorMember {}))
     settings := WalletSelectors.fields.map selectorSetting },
   { name := "app"
     reads := fun around v => appKind.read around {} v
     get := (·.app)
     set := fun app r => { r with app }
     defaults := {}
     fit := Members.Fit (PhrasePageSelectors.fields.map (selectorMember {}))
     known := Members.Known appKind (PhrasePageSelectors.fields.map (selectorMember {}))
     settings := PhrasePageSelectors.fields.map selectorSetting }]

/-- The settings of browser runs are read member by member. -/
lemma members_browser : Members browserKind browserMembers where
  fields := by
    have dir : (fun (_ : Nat) (v : Value) (r : BrowserSettings) =>
        (do return { r with extensionsDir := some (← v.readText "path string") } :
          Except Misfit BrowserSettings)) = fun _ v r =>
        ((v.readText "path string").map some).map fun dir => { r with extensionsDir := dir } := by
      funext _ v r
      cases v.readText "path string" <;> rfl
    rw [browserKind, dir]
    rfl
  names := by decide
  get_set := by simp [browserMembers]
  get_set_of_ne := by simp [browserMembers]
  overrides := by
    have dir (around : Nat) (v : Value) :
        ((v.readText "path string").map some).toOption = v.text?.map some := by
      cases v <;> rfl
    refine List.forall_mem_cons.2 ⟨.leaf dir ?_ _, List.forall_mem_cons.2 ⟨?_, ?_⟩⟩
    · exact fun v read => Value.innerFault?_of_text? (Option.isSome_map ▸ read)
    · exact .leaf (fun _ v => v.toOption_readBool) (fun _ => Value.innerFault?_of_bool?) _
    · refine List.forall_mem_cons.2 ⟨.leaf toOption_readSpan ?_ _, List.forall_mem_cons.2 ⟨?_, ?_⟩⟩
      · exact fun _ => Value.innerFault?_of_span?
      · exact overrides_selectors (k := walletKind) {} rfl apart_wallet
      · exact List.forall_mem_singleton.2 (overrides_selectors (k := appKind) {} rfl apart_app)

/-- The fields of the configuration. -/
def members : List (Member Configuration) :=
  [{ name := "chain_id"
     reads := fun _ v => v.readText "a string"
     get := (·.chainId)
     set := fun chain r => { r with chainId := chain }
     defaults := defaultChain
     settings := [⟨[], Value.text?, fun chain => chain⟩] },
   { name := "derivation_path"
     reads := readPath
     get := (·.derivationPath)
     set := fun path r => { r with derivationPath := path }
     defaults := default
     settings := [⟨[], Value.path?, fun path => path⟩] },
   { name := "app_url"
     reads := fun _ v => readUrl v
     get := (·.appUrl)
     set := fun url r => { r with appUrl := url }
     defaults := defaultAppUrl
     settings := [⟨[], Value.url?, fun url => url⟩] },
   { name := "harness"
     reads := fun around v => browserKind.read around {} v
     get := (·.browser)
     set := fun browser r => { r with browser }
     defaults := {}
     fit := Members.Fit browserMembers
     known := Members.Known browserKind browserMembers
     settings := Members.settings browserMembers }]

/-- The configuration is read member by member. -/
lemma members_configuration : Members kind members where
  fields := rfl
  names := by decide
  get_set := by simp [members]
  get_set_of_ne := by simp [members]
  overrides := by
    refine List.forall_mem_cons.2 ⟨?_, List.forall_mem_cons.2 ⟨?_, List.forall_mem_cons.2 ⟨?_, ?_⟩⟩⟩
    · exact .leaf (fun _ v => v.toOption_readText _) (fun _ => Value.innerFault?_of_text?) _
    · exact .leaf toOption_readPath (fun _ => Value.innerFault?_of_text_read) _
    · exact .leaf (fun _ v => toOption_readUrl v) (fun _ => Value.innerFault?_of_text_read) _
    · refine List.forall_mem_singleton.2 (members_browser.record ?_)
      simp [browserMembers]

/-- A document is a table. -/
lemma isTable_of_parse {document : String} {v : Value} (parsed : Toml.parse document = .ok v) :
    v.isTable = true := by
  have table (g : Gathering) (fuel limit : Nat) : (g.table fuel 0 0 0 limit).1.isTable = true := by
    cases fuel <;> rw [Gathering.table] <;> rfl
  obtain ⟨_, _, gathered⟩ := Attempt.ok_bind_iff.1 parsed
  cases gathered
  exact table _ _ _

/-- What a configuration consists of. -/
def settings : List (Setting Configuration) :=
  [⟨["chain_id"], Value.text?, (·.chainId)⟩,
   ⟨["derivation_path"], Value.path?, (·.derivationPath)⟩,
   ⟨["app_url"], Value.url?, (·.appUrl)⟩,
   ⟨["harness", "extensions_dir"], fun v => v.text?.map some, (·.browser.extensionsDir)⟩,
   ⟨["harness", "headless"], Value.bool?, (·.browser.headless)⟩,
   ⟨["harness", "step_timeout"], Value.span?, (·.browser.stepTimeout)⟩] ++
  WalletSelectors.fields.map (fun f =>
    ⟨["harness", "keplr", f.name], Value.text?, fun c => f.get c.browser.wallet⟩) ++
  PhrasePageSelectors.fields.map fun f =>
    ⟨["harness", "app", f.name], Value.text?, fun c => f.get c.browser.app⟩

/-- The settings of the members are all settings. -/
lemma settings_members : Members.settings members = settings := rfl

/-- Selectors of the wallet's pages with the same fields are the same. -/
lemma ext_wallet {w w' : WalletSelectors}
    (same : ∀ f ∈ WalletSelectors.fields, f.get w = f.get w') : w = w' := by
  cases w
  cases w'
  simpa [WalletSelectors.fields] using same

/-- Selectors of the application's page with the same fields are the same. -/
lemma ext_app {a a' : PhrasePageSelectors}
    (same : ∀ f ∈ PhrasePageSelectors.fields, f.get a = f.get a') : a = a' := by
  cases a
  cases a'
  simpa [PhrasePageSelectors.fields] using same

/-- A configuration is determined by its settings. -/
lemma ext_settings {c c' : Configuration} (same : ∀ s ∈ settings, s.get c = s.get c') : c = c' := by
  obtain ⟨leaves, selectors⟩ := List.forall_mem_append.1 same
  obtain ⟨leaves, wallet⟩ := List.forall_mem_append.1 leaves
  have wallet : c.browser.wallet = c'.browser.wallet :=
    ext_wallet fun f mem => wallet _ (List.mem_map.2 ⟨f, mem, rfl⟩)
  have app : c.browser.app = c'.browser.app :=
    ext_app fun f mem => selectors _ (List.mem_map.2 ⟨f, mem, rfl⟩)
  obtain ⟨_, _, _, ⟨_, _, _, _, _⟩⟩ := c
  obtain ⟨_, _, _, ⟨_, _, _, _, _⟩⟩ := c'
  simp_all

/-- The names of the settings of browser runs. -/
def browserKeys : List String := ["extensions_dir", "headless", "step_timeout", "keplr", "app"]

/-- The names of a configuration's keys. -/
def rootKeys : List String := ["chain_id", "derivation_path", "app_url", "harness"]

/-- The browser runs and their selectors are tables, if they are there. -/
def Tabular (v : Value) : Prop :=
  ∀ path ∈ [["harness"], ["harness", "keplr"], ["harness", "app"]],
    ∀ w, v.Has path w → w.isTable = true

/-- There are no keys but the declared ones, the selectors apart. -/
structure Declared (v : Value) : Prop where
  root : ∀ name ∈ v.keys, name ∈ rootKeys
  browser : ∀ w, v.Has ["harness"] w → ∀ name ∈ w.keys, name ∈ browserKeys

/-- No declared key is listed twice in a table. -/
structure Single (v : Value) : Prop where
  root : ∀ name ∈ rootKeys, v.keys.count name ≤ 1
  browser : ∀ w, v.Has ["harness"] w → ∀ name ∈ browserKeys, w.keys.count name ≤ 1
  wallet : ∀ w, v.Has ["harness", "keplr"] w →
    ∀ f ∈ WalletSelectors.fields, w.keys.count f.name ≤ 1
  app : ∀ w, v.Has ["harness", "app"] w →
    ∀ f ∈ PhrasePageSelectors.fields, w.keys.count f.name ≤ 1

/-- A table of selectors fits. -/
lemma fit_selectors {α : Type} {defaults : α} {fields : List (TextField α)} {w : Value}
    (table : w.isTable = true) : Members.Fit (fields.map (selectorMember defaults)) w := by
  refine ⟨table, fun m mem _ _ => ?_⟩
  obtain ⟨f, _, rfl⟩ := List.mem_map.1 mem
  trivial

/-- A table of selectors may have any keys, but none of its own twice. -/
lemma known_selectors_iff {α : Type} {k : RecordKind α} {defaults : α} {fields : List (TextField α)}
    (lax : k.strict = false) {w : Value} :
    Members.Known k (fields.map (selectorMember defaults)) w ↔
      ∀ f ∈ fields, w.keys.count f.name ≤ 1 := by
  constructor
  · exact fun known f listed => known.once _ (List.mem_map_of_mem listed)
  · intro once
    refine ⟨fun strict => absurd strict (Bool.eq_false_iff.1 lax), ?_, fun m mem _ _ => ?_⟩
    · exact List.forall_mem_map.2 once
    · obtain ⟨f, _, rfl⟩ := List.mem_map.1 mem
      trivial

/-- A table in which the nested records are tables has the shape of a configuration. -/
lemma fit_of_tabular {v : Value} (table : v.isTable = true) (tabular : Tabular v) :
    Members.Fit members v := by
  have browser (w) (listed : ("harness", w) ∈ v.entries) : Members.Fit browserMembers w := by
    have wallet (x) (there : ("keplr", x) ∈ w.entries) : x.isTable = true :=
      tabular ["harness", "keplr"] (by simp) x ⟨w, listed, Value.has_singleton_iff.2 there⟩
    have app (x) (there : ("app", x) ∈ w.entries) : x.isTable = true :=
      tabular ["harness", "app"] (by simp) x ⟨w, listed, Value.has_singleton_iff.2 there⟩
    refine ⟨tabular ["harness"] (by simp) w (Value.has_singleton_iff.2 listed), ?_⟩
    simp only [browserMembers, List.forall_mem_cons]
    exact ⟨fun _ _ => trivial, fun _ _ => trivial, fun _ _ => trivial,
      fun x there => fit_selectors (wallet x there), fun x there => fit_selectors (app x there),
      by simp⟩
  refine ⟨table, ?_⟩
  simp only [members, List.forall_mem_cons]
  exact ⟨fun _ _ => trivial, fun _ _ => trivial, fun _ _ => trivial, browser, by simp⟩

/-- The keys of the browser's settings are known if they are declared and none is listed twice, and
so for the selectors in them. -/
lemma known_browser_iff {w : Value} : Members.Known browserKind browserMembers w ↔
    (∀ name ∈ w.keys, name ∈ browserKeys) ∧ (∀ name ∈ browserKeys, w.keys.count name ≤ 1) ∧
    (∀ x, ("keplr", x) ∈ w.entries →
      ∀ f ∈ WalletSelectors.fields, x.keys.count f.name ≤ 1) ∧
    ∀ x, ("app", x) ∈ w.entries →
      ∀ f ∈ PhrasePageSelectors.fields, x.keys.count f.name ≤ 1 := by
  have names : browserMembers.map Member.name = browserKeys := rfl
  have once : (∀ m ∈ browserMembers, w.keys.count m.name ≤ 1) ↔
      ∀ name ∈ browserKeys, w.keys.count name ≤ 1 := by
    rw [← names, List.forall_mem_map]
  constructor
  · rintro ⟨declared, single, each⟩
    simp only [browserMembers, List.forall_mem_cons] at each
    obtain ⟨_, _, _, wallet, app, _⟩ := each
    refine ⟨declared rfl, once.1 single, ?_, ?_⟩
    · exact fun x there => (known_selectors_iff rfl).1 (wallet x there)
    · exact fun x there => (known_selectors_iff rfl).1 (app x there)
  · rintro ⟨declared, single, wallet, app⟩
    refine ⟨fun _ => declared, once.2 single, ?_⟩
    simp only [browserMembers, List.forall_mem_cons]
    exact ⟨fun _ _ => trivial, fun _ _ => trivial, fun _ _ => trivial,
      fun x there => (known_selectors_iff rfl).2 (wallet x there),
      fun x there => (known_selectors_iff rfl).2 (app x there), by simp⟩

/-- The keys of a document are known if they are declared and none is listed twice. -/
lemma known_iff {v : Value} : Members.Known kind members v ↔ Declared v ∧ Single v := by
  have names : members.map Member.name = rootKeys := rfl
  have once : (∀ m ∈ members, v.keys.count m.name ≤ 1) ↔
      ∀ name ∈ rootKeys, v.keys.count name ≤ 1 := by
    rw [← names, List.forall_mem_map]
  constructor
  · rintro ⟨root, single, each⟩
    have browser (w) (there : v.Has ["harness"] w) :=
      known_browser_iff.1
        (each _ (List.mem_of_mem_getLast? rfl) w (Value.has_singleton_iff.1 there))
    refine ⟨⟨root rfl, fun w there => (browser w there).1⟩, once.1 single, ?_, ?_, ?_⟩
    · exact fun w there => (browser w there).2.1
    · rintro x ⟨w, listed, there⟩
      exact (browser w (Value.has_singleton_iff.2 listed)).2.2.1 x (Value.has_singleton_iff.1 there)
    · rintro x ⟨w, listed, there⟩
      exact (browser w (Value.has_singleton_iff.2 listed)).2.2.2 x (Value.has_singleton_iff.1 there)
  · rintro ⟨⟨root, browser⟩, single, singles, wallet, app⟩
    have known (w) (listed : ("harness", w) ∈ v.entries) :
        Members.Known browserKind browserMembers w := by
      have there := Value.has_singleton_iff.2 listed
      refine known_browser_iff.2 ⟨browser w there, singles w there, ?_, ?_⟩
      · exact fun x under => wallet x ⟨w, listed, Value.has_singleton_iff.2 under⟩
      · exact fun x under => app x ⟨w, listed, Value.has_singleton_iff.2 under⟩
    refine ⟨fun _ => root, once.2 single, ?_⟩
    simp only [members, List.forall_mem_cons]
    exact ⟨fun _ _ => trivial, fun _ _ => trivial, fun _ _ => trivial, known, by simp⟩

/-- A document is loaded as what the value that it spells is read as. -/
lemma load_ok_iff {document : String} {v : Value} (parsed : Toml.parse document = .ok v)
    {c : Configuration} :
    load (.ok (Bytes.ofString document)) = .ok c ↔ kind.read v.start {} v = .ok c := by
  rw [load, Bytes.toString?_ofString]
  have read : parse document = kind.read v.start {} v := by
    rw [parse, parsed]
    rfl
  show (parse document).mapError _ = _ ↔ _
  rw [read, Attempt.ok_mapError_iff]

/-- The configuration is read setting by setting. -/
lemma overrides_configuration : Overrides (fun around v => kind.read around {} v) {}
    (Members.Fit members) (Members.Known kind members) settings := by
  rw [← settings_members]
  exact members_configuration.record (by simp [members])

/-- A document has no fault, no keys but the declared ones, and none of them twice. -/
structure Regular (v : Value) : Prop where
  faultless : v.innerFault? = none
  declared : Declared v
  single : Single v

section Load

variable {document : String} {v : Value}

/-- A document is accepted if its keys are regular and all settings that it has are read. -/
lemma exists_load_iff (parsed : Toml.parse document = .ok v) (tabular : Tabular v) :
    (∃ c, load (.ok (Bytes.ofString document)) = .ok c) ↔
      Regular v ∧ ∀ s ∈ settings, s.Accepts v := by
  have fit := fit_of_tabular (isTable_of_parse parsed) tabular
  have regular : Regular v ↔ v.innerFault? = none ∧ Declared v ∧ Single v :=
    ⟨fun h => ⟨h.1, h.2, h.3⟩, fun h => ⟨h.1, h.2.1, h.2.2⟩⟩
  simp only [load_ok_iff parsed, regular, ← known_iff, and_assoc]
  exact overrides_configuration.ok_iff fit

/-- A configuration that is read has the settings of the document, and is the only one that has. -/
lemma load_iff_holds (parsed : Toml.parse document = .ok v) (tabular : Tabular v)
    (c : Configuration) : load (.ok (Bytes.ofString document)) = .ok c ↔
      Regular v ∧ ∀ s ∈ settings, s.Holds v {} c := by
  have holds {c} (loaded : load (.ok (Bytes.ofString document)) = .ok c) :
      ∀ s ∈ settings, s.Holds v {} c :=
    overrides_configuration.holds (fit_of_tabular (isTable_of_parse parsed) tabular)
      ((load_ok_iff parsed).1 loaded)
  constructor
  · intro loaded
    exact ⟨((exists_load_iff parsed tabular).1 ⟨c, loaded⟩).1, holds loaded⟩
  · rintro ⟨regular, same⟩
    obtain ⟨c', loaded⟩ := (exists_load_iff parsed tabular).2
      ⟨regular, fun s mem => (same s mem).accepts⟩
    obtain rfl : c = c' := ext_settings fun s mem => (same s mem).unique (holds loaded s mem)
    exact loaded

end Load

section Order

variable {v v' : Value}

/-- The settings read alike values alike. -/
lemma read_of_alike {w w' : Value} (h : w.Alike w') : ∀ s ∈ settings, s.read w = s.read w' := by
  obtain ⟨text, bool, span⟩ := h.reads
  have path : w.path? = w'.path? := congrArg (Option.bind · _) text
  have url : w.url? = w'.url? := congrArg (Option.bind · _) text
  refine List.forall_mem_append.2 ⟨List.forall_mem_append.2 ⟨?_, ?_⟩, ?_⟩
  · simp only [List.forall_mem_cons]
    exact ⟨text, path, url, congrArg (Option.map some) text, bool, span, by simp⟩
  · exact List.forall_mem_map.2 fun _ _ => text
  · exact List.forall_mem_map.2 fun _ _ => text

/-- What are tables in a document are tables in one that is alike. -/
lemma Tabular.of_alike (h : v.Alike v') (tabular : Tabular v) : Tabular v' := by
  intro path listed w' there'
  obtain ⟨w, there, alike⟩ := h.symm.has there'
  exact alike.symm.isTable (tabular path listed w there)

/-- What is said of the keys under a path in any order is said of those in a document that is
alike. -/
lemma forall_keys_of_alike (h : v.Alike v') {path : List String} {p : List String → Prop}
    (perm : ∀ {ks ks' : List String}, ks.Perm ks' → p ks → p ks')
    (all : ∀ w, v.Has path w → p w.keys) (w' : Value) (there' : v'.Has path w') : p w'.keys := by
  obtain ⟨w, there, alike⟩ := h.symm.has there'
  exact perm alike.symm.keys (all w there)

/-- A document that is alike to a regular one is regular. -/
lemma Regular.of_alike (h : v.Alike v') (regular : Regular v) : Regular v' := by
  obtain ⟨faultless, declared, single⟩ := regular
  have known {names ks ks' : List String} (same : ks.Perm ks') (all : ∀ name ∈ ks, name ∈ names) :
      ∀ name ∈ ks', name ∈ names :=
    fun name mem => all name (same.mem_iff.2 mem)
  have once {names ks ks' : List String} (same : ks.Perm ks')
      (all : ∀ name ∈ names, ks.count name ≤ 1) : ∀ name ∈ names, ks'.count name ≤ 1 :=
    fun name mem => same.count_eq name ▸ all name mem
  have selectors {α : Type} {fields : List (TextField α)} {ks ks' : List String}
      (same : ks.Perm ks') (all : ∀ f ∈ fields, ks.count f.name ≤ 1) :
      ∀ f ∈ fields, ks'.count f.name ≤ 1 :=
    fun f mem => same.count_eq f.name ▸ all f mem
  refine ⟨h.innerFault?.1 faultless, ⟨known h.keys declared.root, ?_⟩, once h.keys single.root, ?_,
    ?_, ?_⟩
  · exact forall_keys_of_alike h known declared.browser
  · exact forall_keys_of_alike h once single.browser
  · exact forall_keys_of_alike h selectors single.wallet
  · exact forall_keys_of_alike h selectors single.app

end Order

/-- The default selectors but for one. -/
def approving : WalletSelectors := { approve := "q" }

/-- A document that lists one selector of the wallet sets that one. -/
lemma holds_approving {v : Value} {start : Nat} {c : Configuration}
    (there : ∀ name w, v.Has ["harness", "keplr", name] w ↔ name = "approve" ∧ w = .text "q" start)
    (kept : c.browser.wallet = approving) (f : TextField WalletSelectors)
    (mem : f ∈ WalletSelectors.fields) :
    Setting.Holds ⟨["harness", "keplr", f.name], Value.text?, fun c => f.get c.browser.wallet⟩ v {}
      c := by
  have each : ∀ f ∈ WalletSelectors.fields,
      f.get approving = if f.name = "approve" then "q" else f.get {} := by
    decide
  have value := each f mem
  rw [← kept] at value
  constructor
  · intro w here
    obtain ⟨named, rfl⟩ := (there _ w).1 here
    exact congrArg some (value.trans (if_pos named)).symm
  · intro absent
    exact value.trans (if_neg fun named => absent _ ((there _ _).2 ⟨named, rfl⟩))

/-- A document without a table for the application leaves its selectors as they are. -/
lemma holds_default_app {v : Value} {c : Configuration} (absent : ∀ w, ¬ v.Has ["harness", "app"] w)
    (kept : c.browser.app = {}) (f : TextField PhrasePageSelectors) :
    Setting.Holds ⟨["harness", "app", f.name], Value.text?, fun c => f.get c.browser.app⟩
      v {} c := by
  constructor
  · rintro w ⟨x, listed, y, under, _⟩
    exact absurd ⟨x, listed, Value.has_singleton_iff.2 under⟩ (absent y)
  · exact fun _ => congrArg f.get kept

/-- The configuration is the defaults, overridden setting by setting: a document is accepted exactly
if it has no fault, no undeclared keys and none of the declared ones twice, and each setting that is
there is one that is read; then each setting is the document's, or else the default one. Undeclared
selectors do not matter, nor does the order of the keys, and with nothing set all is by default, as
it is without a file. -/
theorem document_overrides_defaults (document : String) (v : Value)
    (parsed : Toml.parse document = .ok v) (tabular : Tabular v) :
    ((∃ c, load (.ok (Bytes.ofString document)) = .ok c) ↔
      Regular v ∧ ∀ s ∈ settings, s.Accepts v) ∧
    (∀ c, load (.ok (Bytes.ofString document)) = .ok c ↔
      Regular v ∧ ∀ s ∈ settings, s.Holds v {} c) ∧
    (∀ c c' : Configuration, (∀ s ∈ settings, s.get c = s.get c') → c = c') ∧
    (∀ document' v', Toml.parse document' = .ok v' → Tabular v' → (Regular v' ↔ Regular v) →
      (∀ s ∈ settings, s.Agrees v v') →
      ∀ c, load (.ok (Bytes.ofString document')) = .ok c ↔
        load (.ok (Bytes.ofString document)) = .ok c) ∧
    (∀ document' v', Toml.parse document' = .ok v' → v.Alike v' →
      ∀ c, load (.ok (Bytes.ofString document')) = .ok c ↔
        load (.ok (Bytes.ofString document)) = .ok c) ∧
    (Regular v → (∀ s ∈ settings, ∀ w, ¬ v.Has s.path w) →
      load (.ok (Bytes.ofString document)) = .ok {}) ∧
    load (.ok (Bytes.ofString "")) = .ok {} ∧
    (∀ e ∈ [.notFound, .notADirectory, .invalidFilename], ofFileOrDefault (.error e) = .ok {}) ∧
    ∀ bytes, ofFileOrDefault (.ok bytes) = load (.ok bytes) := by
  have holds_iff := load_iff_holds parsed tabular
  have agreeing (document' : String) (v' : Value) (parsed' : Toml.parse document' = .ok v')
      (tabular' : Tabular v') (regular : Regular v' ↔ Regular v)
      (same : ∀ s ∈ settings, s.Agrees v v') (c : Configuration) :
      load (.ok (Bytes.ofString document')) = .ok c ↔
        load (.ok (Bytes.ofString document)) = .ok c := by
    have holds : (∀ s ∈ settings, s.Holds v' {} c) ↔ ∀ s ∈ settings, s.Holds v {} c :=
      forall₂_congr fun s mem => (same s mem).holds_iff
    rw [holds_iff, load_iff_holds parsed' tabular', regular, holds]
  refine ⟨exists_load_iff parsed tabular, holds_iff, fun c c' => ext_settings, agreeing, ?_, ?_, ?_,
    ?_, fun _ => rfl⟩
  · intro document' v' parsed' alike
    refine agreeing document' v' parsed' (tabular.of_alike alike) ?_ ?_
    · exact ⟨Regular.of_alike alike.symm, Regular.of_alike alike⟩
    · exact fun s mem => Setting.agrees_of_alike (fun w w' h => read_of_alike h s mem) alike
  · intro regular unset
    refine (holds_iff {}).2 ⟨regular, fun s mem => ?_⟩
    exact ⟨fun w there => absurd there (unset s mem w), fun _ => rfl⟩
  · have empty : Toml.parse "" = .ok (.table [] none 0) := by cbv
    exact (load_ok_iff empty).2 rfl
  · simp [ofFileOrDefault]

/-- A document that names a chain and a selector changes these two alone. -/
theorem chain_and_selector_override_defaults :
    load (.ok (Bytes.ofString "chain_id = \"juno-1\"\n[harness.keplr]\napprove = \"q\"")) =
      .ok { chainId := "juno-1", browser := { wallet := approving } } := by
  let keplr : Value := .table [("approve", .text "q" 3)] none 29
  let harness : Value := .table [("keplr", keplr)] none 29
  let v : Value := .table [("chain_id", .text "juno-1" 38), ("harness", harness)] none 29
  have parsed : Toml.parse "chain_id = \"juno-1\"\n[harness.keplr]\napprove = \"q\"" = .ok v := by
    cbv
  have browser (w) : v.Has ["harness"] w ↔ w = harness := by
    simp [Value.Has, Value.entries, v]
  have wallet (w) : v.Has ["harness", "keplr"] w ↔ w = keplr := by
    simp [Value.Has, Value.entries, v, harness]
  have app (w) : ¬ v.Has ["harness", "app"] w := by
    simp [Value.Has, Value.entries, v, harness]
  have selector (name w) :
      v.Has ["harness", "keplr", name] w ↔ name = "approve" ∧ w = .text "q" 3 := by
    simp [Value.Has, Value.entries, v, harness, keplr]
  have tabular : Tabular v := by
    simp [Tabular, browser, wallet, app, harness, keplr, Value.isTable]
  have regular : Regular v := by
    refine ⟨rfl, ⟨by decide, ?_⟩, ⟨by decide, ?_, ?_, ?_⟩⟩
    · rintro w there
      rw [(browser w).1 there]
      decide
    · rintro w there
      rw [(browser w).1 there]
      decide
    · rintro w there
      rw [(wallet w).1 there]
      decide
    · exact fun w there => absurd there (app w)
  refine ((document_overrides_defaults _ v parsed tabular).2.1 _).2 ⟨regular, ?_⟩
  refine List.forall_mem_append.2 ⟨List.forall_mem_append.2 ⟨?_, ?_⟩, ?_⟩
  · simp [Setting.Holds, Value.Has, Value.entries, Value.text?, v, harness]
  · exact List.forall_mem_map.2 (holds_approving selector rfl)
  · exact List.forall_mem_map.2 fun f _ => holds_default_app app rfl f

/-- Keys with points and a header that together make one table, each key of it once, are refused,
though each says what a setting may be: the reader lists the table twice. -/
theorem table_of_dotted_keys_and_header_is_refused :
    ∃ v, Toml.parse "harness.headless = true\n[harness.keplr]\napprove = \"q\"" = .ok v ∧
      v.innerFault? = none ∧ Tabular v ∧ Declared v ∧ (∀ s ∈ settings, s.Accepts v) ∧
      (∀ s ∈ settings, s.Holds v {} { browser := { headless := true, wallet := approving } }) ∧
      ∀ c, load (.ok (Bytes.ofString "harness.headless = true\n[harness.keplr]\napprove = \"q\"")) ≠
        .ok c := by
  let dotted : Value := .dotted [("headless", .bool true 34)] 34
  let keplr : Value := .table [("approve", .text "q" 3)] none 29
  let headed : Value := .table [("keplr", keplr)] none 29
  let v : Value := .table [("harness", dotted), ("harness", headed)] none 29
  have parsed : Toml.parse "harness.headless = true\n[harness.keplr]\napprove = \"q\"" = .ok v := by
    cbv
  have browser (w) : v.Has ["harness"] w ↔ w = dotted ∨ w = headed := by
    simp [Value.Has, Value.entries, v]
  have wallet (w) : v.Has ["harness", "keplr"] w ↔ w = keplr := by
    simp [Value.Has, Value.entries, v, dotted, headed]
  have app (w) : ¬ v.Has ["harness", "app"] w := by
    simp [Value.Has, Value.entries, v, dotted, headed]
  have selector (name w) :
      v.Has ["harness", "keplr", name] w ↔ name = "approve" ∧ w = .text "q" 3 := by
    simp [Value.Has, Value.entries, v, dotted, headed, keplr]
  have tabular : Tabular v := by
    simp [Tabular, browser, wallet, app, dotted, headed, keplr, Value.isTable]
  have declared : Declared v := by
    refine ⟨by decide, fun w there => ?_⟩
    rcases (browser w).1 there with rfl | rfl <;> decide
  have holds : ∀ s ∈ settings,
      s.Holds v {} { browser := { headless := true, wallet := approving } } := by
    refine List.forall_mem_append.2 ⟨List.forall_mem_append.2 ⟨?_, ?_⟩, ?_⟩
    · simp [Setting.Holds, Value.Has, Value.entries, Value.bool?, v, dotted, headed]
    · exact List.forall_mem_map.2 (holds_approving selector rfl)
    · exact List.forall_mem_map.2 fun f _ => holds_default_app app rfl f
  refine ⟨v, parsed, rfl, tabular, declared, fun s mem => (holds s mem).accepts, holds, ?_⟩
  intro c loaded
  have regular := ((load_iff_holds parsed tabular c).1 loaded).1
  exact absurd (regular.single.root "harness" (by decide)) (by decide)

end Configuration

end SeedVault
