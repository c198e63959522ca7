import SeedVault.Proofs.Browser.Search
import SeedVault.Proofs.Wallet.Extension

/-!
# Acts on the extension's pages

The steps of the extension are worked through act by act: a page is opened, an element waited for,
clicked on, typed into or read. What is said by an act is known from the act (`Act.Goes`), and a
script of acts is performed in order, each one only behind those before it that succeeded
(`Performed`). So the texts that are typed are those of the script, as far as it got
(`Performed.typed_prefix`).
-/

namespace SeedVault

open WebTask (Says)

/-- The browser does what it was asked for. -/
def Reply.Accepts (r : Reply) : Prop := ∃ address v, Browser.readReply .any address r = .ok v

/-- The text that a request sends to an element. -/
def Request.keys? (q : Request) : Option String :=
  (q.body.bind fun v => v.field? "text").bind Json.string?

/-- The texts that are sent to elements in a conversation. -/
def typed (said : List Exchange) : List String := said.filterMap fun x => x.1.keys?

/-- What is typed in two conversations is typed in both of them together. -/
lemma typed_append (said said' : List Exchange) :
    typed (said ++ said') = typed said ++ typed said' :=
  List.filterMap_append

namespace Browser

/-- An order to a browser, by the path and the body of its request. -/
structure Order where
  path : String
  body : Json

namespace Order

/-- The order to open a page. -/
def opening (url : String) : Order := ⟨"url", .ofFields [("url", .string url)]⟩

/-- The order to click on an element. -/
def clicking (e : Element) : Order := ⟨"element/" ++ e.id ++ "/click", .ofFields []⟩

/-- The order to type a text into an element. -/
def typing (text : String) (e : Element) : Order :=
  ⟨"element/" ++ e.id ++ "/value", .ofFields [("text", .string text)]⟩

/-- The order to read an address off an element. -/
def reading (e : Element) : Order :=
  ⟨"execute/sync", scriptJson ExtensionSession.addressScript [e.json]⟩

end Order

variable (b : Browser)

/-- A request that gives an order. -/
def Orders (o : Order) : Request → Prop := b.Below .post o.path (some o.body)

/-- What is said by an order, and if it is known to be obeyed. -/
inductive Ordered (o : Order) : Bool → List Exchange → Prop where
  | unsent : Ordered o false []
  | sent {q r} :
    b.Orders o q →
    Ordered o false [(q, r)]
  | obeyed {q r} :
    b.Orders o q →
    r.Accepts →
    Ordered o true [(q, r)]

/-- What is said by a wait for an element, and if it has come. -/
inductive Appears (selector : String) : Bool → List Exchange → Prop where
  | looking {said} :
    b.Sought [selector] said →
    Appears selector false said
  | found {said e} :
    b.FirstReply [selector] (·.Gives (.ok e)) 0 said →
    Appears selector true said

/-- What is said by an order that concerns an element, given when the element has come. -/
inductive OrderedAt (selector : String) (order : Element → Order) :
    Bool → List Exchange → Prop where
  | looking {said} :
    b.Sought [selector] said →
    OrderedAt selector order false said
  | found {found said e obeyed} :
    b.FirstReply [selector] (·.Gives (.ok e)) 0 found →
    b.Ordered (order e) obeyed said →
    OrderedAt selector order obeyed (found ++ said)

end Browser

/-- What is done on a page. -/
inductive Act where
  | goto (url : String)
  | await (selector : String)
  | click (selector : String)
  | type (selector text : String)
  /-- A text is typed into an element that has been found before. -/
  | typeInto (e : Element) (text : String)
  | read (selector : String)
  deriving DecidableEq, Repr

namespace Act

/-- The text that an act types. -/
def text? : Act → Option String
  | type _ text => some text
  | typeInto _ text => some text
  | _ => none

/-- What is said by an act, and if it succeeds. -/
def Goes (b : Browser) : Act → Bool → List Exchange → Prop
  | goto url => b.Ordered (.opening url)
  | await selector => b.Appears selector
  | click selector => b.OrderedAt selector .clicking
  | type selector text => b.OrderedAt selector (.typing text)
  | typeInto e text => b.Ordered (.typing text e)
  | read selector => b.OrderedAt selector .reading

end Act

/-- A script is performed in order, up to acts that are left: what is said by the acts that succeed,
and by one that does not. -/
inductive Performed (b : Browser) : List Act → List Act → List Exchange → Prop where
  | nil : Performed b [] [] []
  | stopped {act script said} :
    act.Goes b false said →
    Performed b (act :: script) (act :: script) said
  | next {act script left said rest} :
    act.Goes b true said →
    Performed b script left rest →
    Performed b (act :: script) left (said ++ rest)

/-- A script is performed by something that only succeeds if no act is left. -/
def Performs {ε α : Type} (b : Browser) (script : List Act) (said : List Exchange)
    (o : Outcome ε α) : Prop :=
  ∃ left, Performed b script left said ∧ (o.isDone = true → left = [])

section Typed

variable {b : Browser} {said : List Exchange}

/-- A request without a field for a text sends none. -/
lemma keys?_eq_none {method : HttpMethod} {path : String} {fields : List (String × Json)}
    (absent : ∀ f ∈ fields, "text" ≠ f.1) :
    (Request.mk method path (some (.ofFields fields))).keys? = none := by
  show ((Json.ofFields fields).field? "text").bind Json.string? = none
  rw [Json.field?_ofFields_eq_none absent]
  rfl

/-- A request with a locator sends no text. -/
lemma keys?_of_locator {path : String} {l : Locator} {q : Request}
    (sent : b.Below .post path (some l.json) q) : q.keys? = none := by
  obtain ⟨u, _, rfl⟩ := sent
  cases l with
  | css selector => exact keys?_eq_none (by simp)
  | xpath path => exact keys?_eq_none (by simp)

/-- The search for elements types nothing. -/
lemma typed_of_sought {selectors : List String} (sought : b.Sought selectors said) :
    typed said = [] := by
  apply List.filterMap_eq_nil_iff.2
  intro x mem
  obtain ⟨_, _, seeks⟩ := sought x mem
  exact keys?_of_locator seeks

/-- An order is no text for an element, unless it is the order to type one. -/
lemma typed_of_ordered {o : Browser.Order} {obeyed : Bool}
    (silent : ∀ path, (Request.mk .post path (some o.body)).keys? = none)
    (ordered : b.Ordered o obeyed said) : typed said = [] := by
  cases ordered with
  | unsent => rfl
  | sent gives | obeyed gives _ =>
    obtain ⟨u, _, rfl⟩ := gives
    exact List.filterMap_cons_none (silent _)

/-- An order that concerns an element is no text for it, unless it is the order to type one. -/
lemma typed_of_orderedAt {selector : String} {order : Element → Browser.Order} {obeyed : Bool}
    (silent : ∀ e path, (Request.mk .post path (some (order e).body)).keys? = none)
    (ordered : b.OrderedAt selector order obeyed said) : typed said = [] := by
  cases ordered with
  | looking sought => exact typed_of_sought sought
  | found first ordered =>
    rw [typed_append, typed_of_sought first.sought, typed_of_ordered (silent _) ordered]
    rfl

/-- The order to type a text types that text, if it is sent. -/
lemma typed_of_typing {text : String} {e : Element} {obeyed : Bool}
    (ordered : b.Ordered (.typing text e) obeyed said) :
    typed said <+: [text] ∧ (obeyed = true → typed said = [text]) := by
  cases ordered with
  | unsent => exact ⟨List.nil_prefix, by simp⟩
  | sent gives =>
    obtain ⟨u, _, rfl⟩ := gives
    exact ⟨List.prefix_refl _, by simp⟩
  | obeyed gives _ =>
    obtain ⟨u, _, rfl⟩ := gives
    exact ⟨List.prefix_refl _, fun _ => rfl⟩

/-- The order to type into an element types the text, if the element has come. -/
lemma typed_of_typingAt {selector text : String} {obeyed : Bool}
    (ordered : b.OrderedAt selector (.typing text) obeyed said) :
    typed said <+: [text] ∧ (obeyed = true → typed said = [text]) := by
  cases ordered with
  | looking sought =>
    rw [typed_of_sought sought]
    exact ⟨List.nil_prefix, by simp⟩
  | found first ordered =>
    rw [typed_append, typed_of_sought first.sought]
    exact typed_of_typing ordered

/-- An act types its text, at the latest when it succeeds. -/
lemma Act.Goes.typed_eq {act : Act} {succeeds : Bool} (h : act.Goes b succeeds said) :
    typed said <+: act.text?.toList ∧ (succeeds = true → typed said = act.text?.toList) := by
  suffices typed said = [] ∧ act.text? = none ∨ typed said <+: act.text?.toList ∧
      (succeeds = true → typed said = act.text?.toList) by
    rcases this with ⟨silent, none⟩ | told
    · rw [silent, none]
      exact ⟨List.prefix_refl _, fun _ => rfl⟩
    · exact told
  cases act with
  | goto url => exact .inl ⟨typed_of_ordered (fun _ => keys?_eq_none (by simp)) h, rfl⟩
  | click selector => exact .inl ⟨typed_of_orderedAt (fun _ _ => keys?_eq_none (by simp)) h, rfl⟩
  | read selector => exact .inl ⟨typed_of_orderedAt (fun _ _ => keys?_eq_none (by simp)) h, rfl⟩
  | type selector text => exact .inr (typed_of_typingAt h)
  | typeInto e text => exact .inr (typed_of_typing h)
  | await selector =>
    refine .inl ⟨?_, rfl⟩
    cases h with
    | looking sought => exact typed_of_sought sought
    | found first => exact typed_of_sought first.sought

/-- What is typed is what the script types, up to where its performance stops. -/
lemma Performed.typed_prefix {script left : List Act} (h : Performed b script left said) :
    typed said <+: script.filterMap Act.text? := by
  induction h with
  | nil => exact List.prefix_refl _
  | @stopped act script said goes =>
    rw [← List.singleton_append, List.filterMap_append]
    apply goes.typed_eq.1.trans
    have one : [act].filterMap Act.text? = act.text?.toList := by
      cases told : act.text? with
      | none => exact List.filterMap_cons_none told
      | some text => exact List.filterMap_cons_some told
    rw [one]
    exact List.prefix_append _ _
  | @next act script left said rest goes _ ih =>
    rw [typed_append, goes.typed_eq.2 rfl]
    cases told : act.text? with
    | none =>
      rw [List.filterMap_cons_none told]
      exact ih
    | some text =>
      rw [List.filterMap_cons_some told]
      exact List.prefix_append_right_inj _ |>.2 ih

end Typed

section Scripts

variable {b : Browser} {ε α β : Type} {script script' left : List Act}
  {said said' : List Exchange}

/-- Of a script nothing may have been performed. -/
lemma Performed.unbegun (script : List Act) : Performed b script script [] := by
  cases script with
  | nil => exact .nil
  | cons act script =>
    apply Performed.stopped
    cases act with
    | goto url => exact .unsent
    | typeInto e text => exact .unsent
    | await selector => exact .looking Browser.Sought.nil
    | click selector => exact .looking Browser.Sought.nil
    | type selector text => exact .looking Browser.Sought.nil
    | read selector => exact .looking Browser.Sought.nil

/-- What is left of a script is followed by what comes behind the script. -/
lemma Performed.extend (h : Performed b script left said) (script' : List Act) :
    Performed b (script ++ script') (left ++ script') said := by
  induction h with
  | nil => exact .unbegun script'
  | stopped goes => exact .stopped goes
  | next goes _ ih => exact .next goes ih

/-- A script that is performed to its end may be followed by another one. -/
lemma Performed.append (h : Performed b script [] said) (h' : Performed b script' left said') :
    Performed b (script ++ script') left (said ++ said') := by
  generalize none_left : ([] : List Act) = first at h
  induction h with
  | nil => exact h'
  | stopped => cases none_left
  | next goes _ ih =>
    rw [List.append_assoc]
    exact .next goes (ih none_left)

/-- Nothing to do is done at once. -/
lemma performs_nil (a : α) : (WebTask.done a : WebTask ε α).Says (Performs b []) :=
  .done ⟨[], .nil, fun _ => rfl⟩

/-- What comes to an act performs the script of that act. -/
lemma performs_act {act : Act} {t : WebTask ε α}
    (h : t.Says fun said o => act.Goes b o.isDone said) : t.Says (Performs b [act]) := by
  refine h.mono fun said o goes => ?_
  cases ended : o.isDone with
  | false =>
    rw [ended] at goes
    exact ⟨[act], .stopped goes, fun done => absurd (ended.symm.trans done) Bool.false_ne_true⟩
  | true =>
    rw [ended] at goes
    refine ⟨[], ?_, fun _ => rfl⟩
    rw [← List.append_nil said]
    exact .next goes .nil

/-- Two scripts are performed one behind the other. -/
lemma performs_bind {t : WebTask ε α} {next : α → WebTask ε β} (first : t.Says (Performs b script))
    (others : ∀ a, (next a).Says (Performs b script')) :
    (t >>= next).Says (Performs b (script ++ script')) := by
  refine first.behind ?_ ?_
  · rintro said o o' ⟨left, performed, _⟩ _ undone
    refine ⟨left ++ script', performed.extend script', fun done => ?_⟩
    exact absurd (undone.symm.trans done) Bool.false_ne_true
  · rintro said a ⟨left, performed, whole⟩
    obtain rfl := whole rfl
    refine (others a).mono ?_
    rintro said' o' ⟨left', performed', whole'⟩
    exact ⟨left', performed.append performed', whole'⟩

end Scripts

/-- That an order is obeyed need not be known. -/
lemma Browser.Ordered.forget {b : Browser} {o : Browser.Order} {obeyed : Bool}
    {said : List Exchange} (h : b.Ordered o obeyed said) : b.Ordered o false said := by
  cases h with
  | unsent => exact .unsent
  | sent gives => exact .sent gives
  | obeyed gives _ => exact .sent gives

namespace Browser

variable (b : Browser) {ε α : Type}

/-- An exchange for an order says what the order does. -/
lemma says_ordered {o : Order} {t : WebTask ε α} {f : Except WebError Json → Except ε α}
    (h : t.Says (Exchanged (b.Orders o) .any f)) (same : ∀ x, (f x).isOk = x.isOk) :
    t.Says fun said ended => b.Ordered o ended.isDone said := by
  have isDone (x : Except ε α) : (Outcome.ofExcept x).isDone = x.isOk := by cases x <;> rfl
  refine h.mono fun said ended exchanged => ?_
  cases exchanged with
  | unsent fault =>
    rw [isDone, same]
    exact .unsent
  | late r gives => exact .sent gives
  | read r address gives =>
    rw [isDone, same]
    cases told : readReply .any address r with
    | ok v => exact .obeyed gives ⟨address, v, told⟩
    | error e => exact .sent gives

/-- An order is one request, and it is obeyed if the reply accepts it. -/
lemma says_order (o : Order) :
    (WebTask.reporting (b.command o.path o.body)).Says fun said ended =>
      b.Ordered o ended.isDone said :=
  b.says_ordered (Exchanged.mapError (b.says_command o.path o.body) _) fun x => by cases x <;> rfl

/-- To read an address is one order. -/
lemma says_reading (e : Element) :
    (WebTask.reporting (b.execute ExtensionSession.addressScript [e.json])).Says fun said ended =>
      b.Ordered (.reading e) ended.isDone said :=
  b.says_ordered (Exchanged.mapError (b.says_query .any .post _ _) _) fun x => by cases x <;> rfl

end Browser

namespace ExtensionSession

open Browser

variable (s : ExtensionSession)

/-- The wait for an element asks for it until it comes. -/
lemma says_wait (limit : Nat) (selector : String) :
    (s.wait limit selector).Says (s.browser.Awaited (fun _ e => e) [selector]) :=
  (s.browser.says_await selector limit).mapError fun _ _ awaited => awaited.mapFault

/-- The wait for an element ends well if and only if the element has come. -/
lemma says_appears (limit : Nat) (selector : String) :
    (s.wait limit selector).Says fun said o => s.browser.Appears selector o.isDone said := by
  refine (s.says_wait limit selector).mono fun said o awaited => ?_
  cases awaited with
  | failed e sought => exact .looking sought
  | expired sought => exact .looking sought
  | found first =>
    obtain rfl := Nat.lt_one_iff.1 first.lt_length
    exact .found first

/-- An order that concerns an element is given when the element has come. -/
lemma says_orderedAt {α : Type} {order : Element → Order} {t : Element → WebTask Report α}
    (limit : Nat) (selector : String)
    (h : ∀ e, (t e).Says fun said o => s.browser.Ordered (order e) o.isDone said) :
    (s.wait limit selector >>= t).Says fun said o =>
      s.browser.OrderedAt selector order o.isDone said := by
  refine (s.says_wait limit selector).behind ?_ fun said e awaited => ?_
  · intro said o o' awaited _ undone
    rw [undone]
    exact .looking awaited.sought
  · cases awaited with
    | found first =>
      obtain rfl := Nat.lt_one_iff.1 first.lt_length
      exact (h e).mono fun said' o' ordered => .found first ordered

/-- Opening a page performs that act. -/
lemma performs_goto (url : String) :
    (WebTask.reporting (s.browser.goto url)).Says (Performs s.browser [.goto url]) :=
  performs_act (s.browser.says_order (.opening url))

/-- A wait performs that act. -/
lemma performs_wait (limit : Nat) (selector : String) :
    (s.wait limit selector).Says (Performs s.browser [.await selector]) :=
  performs_act (s.says_appears limit selector)

/-- A click performs that act. -/
lemma performs_click (limit : Nat) (selector : String) :
    (s.click limit selector).Says (Performs s.browser [.click selector]) :=
  performs_act (s.says_orderedAt limit selector fun e => s.browser.says_order (.clicking e))

/-- Filling in a field performs the act of typing into it. -/
lemma performs_fillIn (limit : Nat) (selector text : String) :
    (s.fillIn limit selector text).Says (Performs s.browser [.type selector text]) :=
  performs_act (s.says_orderedAt limit selector fun e => s.browser.says_order (.typing text e))

/-- Words are typed one after the other, each into its own element. -/
lemma performs_typeWords (words : List (Element × String)) :
    (s.typeWords words).Says (Performs s.browser (words.map fun w => .typeInto w.1 w.2)) := by
  induction words with
  | nil => exact performs_nil ()
  | cons word others ih =>
    have one : (WebTask.reporting (s.browser.sendKeys word.1 word.2)).Says
        (Performs s.browser [.typeInto word.1 word.2]) :=
      performs_act (s.browser.says_order (.typing word.2 word.1))
    exact performs_bind one fun _ => ih

/-- A password is typed twice, behind the name of the wallet. -/
lemma performs_setPassword (limit : Nat) (sel : WalletSelectors) (password : String) :
    (s.setPassword limit sel password).Says
      (Performs s.browser [.type sel.walletName "seedkeeper", .type sel.walletPassword password,
        .type sel.walletPasswordConfirm password]) :=
  performs_bind (s.performs_fillIn limit _ _) fun _ =>
    performs_bind (s.performs_fillIn limit _ _) fun _ => s.performs_fillIn limit _ _

/-- One attempt to find an element is a round over the selectors. -/
lemma round_findAny (selectors : List String) (index : Nat) :
    (s.findAny index selectors).Says (s.browser.Round (fun i _ => index + i) selectors) := by
  induction selectors generalizing index with
  | nil => exact .done (.missed .nil)
  | cons selector others ih =>
    refine (s.browser.round_find? selector).bind fun said o round => ?_
    cases o with
    | failed e => exact round.failed others
    | expired =>
      cases round with
      | late sought => exact .late (sought.mono (by simp))
    | done x =>
      cases x with
      | some k =>
        refine .done ?_
        rw [List.append_nil]
        exact round.first others
      | none =>
        cases round with
        | missed missed =>
          obtain ⟨x, rest, first, none, rfl⟩ := List.forall₂_cons_left_iff.1 missed
          obtain rfl := List.forall₂_nil_left_iff.1 none
          have later : (fun i (_ : Element) => index + 1 + i) = fun i _ => index + (i + 1) := by
            funext i _
            omega
          have others := ih (index + 1)
          rw [later] at others
          exact others.mono fun said' o' round' => Round.cons first round'

/-- The wait for one of several elements asks for each of them in turn until one comes. -/
lemma says_awaitAny (limit : Nat) (selectors : List String) :
    (s.awaitAny limit selectors).Says (s.browser.Awaited (fun i _ => i) selectors) := by
  have round : (s.findAny 0 selectors).Says (s.browser.Round (fun i _ => i) selectors) := by
    simpa only [Nat.zero_add] using s.round_findAny selectors 0
  let names := ", ".intercalate (selectors.map Text.quoted)
  let late : Report := [.note ("none of [" ++ names ++ "] appeared")]
  refine (s.browser.says_search round limit).through (f := demanded Report.ofWeb late) ?_ ?_
  · intro deadline n
    unfold awaitAny WebTask.reporting
    rw [WebTask.on_bind, WebTask.on_mapError]
    generalize ((s.findAny 0 selectors).poll limit).on deadline n = ended
    obtain ⟨(_ | index) | e | _, n'⟩ := ended <;> rfl
  · exact fun _ _ => Searched.awaited _ _ _

end ExtensionSession

end SeedVault
