import SeedVault.Proofs.Browser.Polling
import SeedVault.Scenario.BrowserPage
import SeedVault.Wallet.Extension

/-!
# What is waited for

There are four waits: for an element, for one of several elements, for a new window, and for a page
of the application. Each of them is a poll with questions of its own, if a server listens where they
are sent (`asks_find?`, `asks_findAny`, `asks_newWindow`, `asks_onRoute`). So each of them returns
by the first decisive reply that comes in time (`waits_return_first_decisive`).
-/

namespace SeedVault

namespace WebTask

variable {ε ε' α β : Type}

/-- Sends a request, and ends by what its reply says. -/
def askOne (q : Request) (reads : Reply → Except ε α) : WebTask ε α := do
  ofExcept (reads (← request q))

/-- What is made of an answer can be made of it as it is read. -/
lemma askOne_bind (q : Request) (reads : Reply → Except ε α) (g : α → Except ε β) :
    (askOne q reads >>= fun a => ofExcept (g a)) = askOne q fun r => reads r >>= g := by
  rw [askOne, askOne, bind_assoc]
  refine congrArg _ (funext fun r => ?_)
  cases reads r <;> rfl

/-- A function of an answer can be applied as it is read. -/
lemma askOne_map (q : Request) (reads : Reply → Except ε α) (g : α → β) :
    (askOne q reads >>= fun a => pure (g a)) = askOne q fun r => do return g (← reads r) :=
  askOne_bind q reads fun a => .ok (g a)

/-- A request never fails; its reply may say that something did. -/
lemma sends_request (q : Request) :
    Sends (fun _ => True) (fun _ => False) (request q : WebTask ε Reply) := .request trivial

/-- A request leaves the servers as they are. -/
lemma listens_request (q : Request) (deadline : Option Nat) (n : Network) :
    ((request q : WebTask ε Reply).on deadline n).2.listens = n.listens :=
  ((sends_request q).acts deadline).listens n

/-- A failure that is handled behind a question can be handled as the reply is read. -/
lemma attempt_askOne (q : Request) (reads : Reply → Except ε α) (g : Except ε α → Except ε β) :
    ((askOne q reads).attempt >>= fun x => ofExcept (g x)) = askOne q fun r => g (reads r) := by
  funext deadline n
  show ((askOne q reads).attempt >>= _).on deadline n = (askOne q _).on deadline n
  have sent (e : ε) : ((request q).on deadline n).1 ≠ .failed e := (sends_request q).errors
  rw [on_bind, on_attempt, askOne, askOne, on_bind, on_bind]
  generalize (request q : WebTask ε Reply).on deadline n = ended at sent ⊢
  obtain ⟨r | e | _, n'⟩ := ended
  · simp only [proceed]
    cases reads r <;> rfl
  · exact absurd rfl (sent e)
  · rfl

/-- What goes on alike on one network gives the same there. -/
lemma proceed_congr {next next' : α → WebTask ε β} {deadline : Option Nat} {o : Outcome ε α}
    {n : Network} (same : ∀ a, (next a).on deadline n = (next' a).on deadline n) :
    proceed next deadline o n = proceed next' deadline o n := by
  cases o with
  | done a => exact same a
  | failed e | expired => rfl

/-- To ask one question in turn is to ask it. -/
lemma askAll_singleton (q : Question ε α) : askAll [q] = askOne q.request q.reads := by
  rw [askAll, askOne]
  refine congrArg _ (funext fun r => ?_)
  rcases q.reads r with _ | (_ | _) <;> rfl

/-- On a network with certain servers a task is to ask some questions in turn. -/
def Asks (t : WebTask ε (Option α)) (qs : List (Question ε α)) (listens : Url → Bool) : Prop :=
  ∀ deadline n, n.listens = listens → t.on deadline n = (askAll qs).on deadline n

end WebTask

namespace Browser

open WebTask

variable (b : Browser) {n : Network} {u : Url}

/-- A server listens where requests for something below the address of a browser are sent. -/
structure Reaches (n : Network) (path : String) (u : Url) : Prop where
  target : target (b.address ++ "/" ++ path) = .ok u
  listening : n.listens u.site = true

variable {b} {path : String}

/-- A query of a browser that is reached is one question. -/
lemma on_query (reached : b.Reaches n path u) (s : Json.Shape) (method : HttpMethod)
    (body : Option Json) (deadline : Option Nat) :
    (b.query s method path body).on deadline n =
      (askOne ⟨method, pathAndQuery u, body⟩ (readReply s (anonymous u))).on deadline n := by
  rw [query, exchange, reached.target]
  show (WebTask.listens u >>= _).on deadline n = _
  rw [on_bind]
  show proceed _ deadline (.done (n.listens u.site)) n = _
  rw [reached.listening]
  show WebTask.on (WebTask.request _ >>= _) deadline n = _
  rw [askOne]
  congr 2
  funext r
  cases r <;> rfl

/-- The request for the element at a locator. -/
def elementRequest (u : Url) (l : Locator) : Request := ⟨.post, pathAndQuery u, some l.json⟩

/-- Is there an element at a locator? -/
def elementQuestion (u : Url) (l : Locator) : Question WebError Element where
  request := elementRequest u l
  reads r := tolerated (elementReply (anonymous u) r)

/-- Is there an element for a selector? If there is one, the number of the selector is wanted. -/
def selectorQuestion (u : Url) (selector : String × Nat) : Question WebError Nat where
  request := elementRequest u (.ofSelector selector.1)
  reads r := (tolerated (elementReply (anonymous u) r)).map (Option.map fun _ => selector.2)

/-- Is there a window that is none of those known? -/
def windowQuestion (u : Url) (known : List String) : Question WebError String where
  request := ⟨.get, pathAndQuery u, none⟩
  reads r := do
    let windows ← readReply (.list .text) (anonymous u) r
    return ((windows.items?.getD []).filterMap Json.string?).find? (!known.contains ·)

/-- Is the browser on a page? -/
def routeQuestion (u : Url) (route : Route) : Question WebError Unit where
  request := ⟨.get, pathAndQuery u, none⟩
  reads r := do
    let address ← readReply .text (anonymous u) r
    return if BrowserPage.isAt route (address.string?.getD "") then some () else none

/-- A browser is reached on every network with the same servers. -/
lemma Reaches.congr (reached : b.Reaches n path u) {n' : Network} (same : n'.listens = n.listens) :
    b.Reaches n' path u where
  target := reached.target
  listening := by rw [same, reached.listening]

/-- The search for an element is one question. -/
lemma on_find (reached : b.Reaches n "element" u) (l : Locator) (deadline : Option Nat) :
    (b.find l).on deadline n =
      (askOne (elementRequest u l) (elementReply (anonymous u))).on deadline n := by
  rw [find, on_bind, on_query reached, ← on_bind, askOne_bind]
  rfl

/-- The search for an element that may be missing is one question, with an answer if it is. -/
lemma on_find? (reached : b.Reaches n "element" u) (l : Locator) (deadline : Option Nat) :
    (b.find? l).on deadline n =
      (askOne (elementRequest u l) fun r => tolerated (elementReply (anonymous u) r)).on
        deadline n := by
  have parted : b.find? l = (b.find l).attempt >>= fun x => .ofExcept (tolerated x) := by
    refine congrArg _ (funext fun x => ?_)
    cases x with
    | ok e => rfl
    | error e =>
      simp only [tolerated]
      split <;> rfl
  rw [parted, on_bind, on_attempt, on_find reached, ← on_attempt, ← on_bind, attempt_askOne]

/-- The attempts to find an element ask whether it is there. -/
lemma asks_find? (reached : b.Reaches n "element" u) (l : Locator) :
    Asks (b.find? l) [elementQuestion u l] n.listens := by
  intro deadline n' same
  rw [askAll_singleton]
  exact on_find? (reached.congr same) l deadline

/-- The attempts to find a new window ask for one that was not known. -/
lemma asks_newWindow (reached : b.Reaches n "window/handles" u) (known : List String) :
    Asks (do return (← b.windowHandles).find? (!known.contains ·)) [windowQuestion u known]
      n.listens := by
  intro deadline n' same
  simp only [windowHandles, bind_assoc, pure_bind]
  rw [on_bind, on_query (reached.congr same), ← on_bind, askOne_map, askAll_singleton]
  rfl

/-- The attempts to find one of several elements ask for each of them in turn. -/
lemma asks_findAny (reached : b.Reaches n "element" u) (extension : String) (index : Nat)
    (selectors : List String) :
    Asks (ExtensionSession.findAny ⟨b, extension⟩ index selectors)
      ((selectors.zipIdx index).map (selectorQuestion u)) n.listens := by
  induction selectors generalizing index with
  | nil => exact fun _ _ _ => rfl
  | cons selector others ih =>
    intro deadline n' same
    rw [ExtensionSession.findAny, on_bind, on_find? (reached.congr same), ← on_bind, askOne,
      bind_assoc, List.zipIdx_cons, List.map_cons, askAll, on_bind, on_bind]
    have sent : (selectorQuestion u (selector, index)).request =
        elementRequest u (.ofSelector selector) := rfl
    rw [sent]
    refine proceed_congr fun r => ?_
    simp only [selectorQuestion]
    rcases tolerated (elementReply (anonymous u) r) with e | _ | e
    · rfl
    · exact ih (index + 1) deadline _ ((listens_request _ deadline n').trans same)
    · rfl

/-- The attempts to find the browser on a page ask for its address. -/
lemma asks_onRoute {app : BrowserPage} (reached : app.browser.Reaches n "url" u) (route : Route) :
    Asks (app.onRoute route) [routeQuestion u route] n.listens := by
  intro deadline n' same
  simp only [BrowserPage.onRoute, currentUrl, queryText, bind_assoc, pure_bind]
  rw [on_bind, on_query (reached.congr same), ← on_bind, askOne_map, askAll_singleton]
  rfl

/-- Where no server listens, every request fails before it is sent. -/
lemma exists_fault (unreached : ∀ u, ¬ b.Reaches n path u) :
    ∃ fault, ∀ s method body deadline,
      (b.query s method path body).on deadline n = (.failed (.request fault), n) := by
  cases found : target (b.address ++ "/" ++ path) with
  | error fault =>
    refine ⟨fault, fun s method body deadline => ?_⟩
    rw [query, exchange, found]
    rfl
  | ok u =>
    refine ⟨.refused (anonymous u), fun s method body deadline => ?_⟩
    have deaf : n.listens u.site = false :=
      Bool.eq_false_iff.2 fun listening => unreached u ⟨found, listening⟩
    rw [query, exchange, found]
    show (WebTask.listens u >>= _).on deadline n = _
    rw [on_bind]
    show proceed _ deadline (.done (n.listens u.site)) n = _
    rw [deaf]
    rfl

end Browser

namespace WebTask

variable {ε α : Type}

/-- A failure is not gone on from. -/
lemma on_bind_of_failed {β : Type} {t : WebTask ε α} {next : α → WebTask ε β} {e : ε}
    {deadline : Option Nat} {n n' : Network} (h : t.on deadline n = (.failed e, n')) :
    (t >>= next).on deadline n = (.failed e, n') := by
  rw [on_bind, h]
  rfl

/-- What fails at once is not attempted again. -/
lemma on_poll_of_failed {t : WebTask ε (Option α)} {e : ε} {n : Network}
    (h : ∀ deadline, t.on deadline n = (.failed e, n)) (limit : Nat) (deadline : Option Nat) :
    (t.poll limit).on deadline n = (.failed e, n) := by
  have within : (t.within limit).on deadline n = (.failed e, n) := by
    rw [on_within, limited, h]
    split
    · rfl
    · exact on_bind_of_failed (h deadline)
  rw [poll, on_bind]
  exact on_bind_of_failed within

/-- A poll without questions lets the time go by. -/
lemma on_poll_nil {t : WebTask ε (Option α)} {n : Network} {limit : Nat} {deadline : Option Nat}
    (asks : Asks t [] n.listens) (inTime : deadline.all (n.now + limit ≤ ·)) :
    (t.poll limit).on deadline n = (.done none, n.later [] (n.now + limit)) := by
  have settled := on_poll asks inTime
  generalize (t.poll limit).on deadline n = ended at settled ⊢
  cases settled with
  | decided _ _ listed => cases listed
  | @late r j _ _ =>
    have none : asked ([] : List (Question ε α)) r j = [] := by simp [asked]
    rw [none]

/-- How something ends that is waited for by a poll, and the network behind it: by the first reply
in time that decides, or else when its time is up. -/
inductive ReturnsFirst (qs : List (Question WebError α)) (f : WebError → ε) (late : ε) (n : Network)
    (stop : Nat) : Outcome ε α × Network → Prop where
  | found {r j q a} :
    n.Admits qs.length stop r j →
    (∀ r' i, Front r' i r j → Undecided qs (n.replyTo qs.length r') i) →
    qs[j]? = some q →
    q.reads (n.replyTo qs.length r j) = .ok (some a) →
    ReturnsFirst qs f late n stop
      (.done a, n.later (asked qs r (j + 1)) (n.puts qs.length r (j + 1)))
  | failed {r j q e} :
    n.Admits qs.length stop r j →
    (∀ r' i, Front r' i r j → Undecided qs (n.replyTo qs.length r') i) →
    qs[j]? = some q →
    q.reads (n.replyTo qs.length r j) = .error e →
    ReturnsFirst qs f late n stop
      (.failed (f e), n.later (asked qs r (j + 1)) (n.puts qs.length r (j + 1)))
  | late {r j} :
    (∀ r' i, n.Due qs.length stop r' i ↔ i < qs.length ∧ Front r' i r j) →
    (∀ r' i, n.Admits qs.length stop r' i → Undecided qs (n.replyTo qs.length r') i) →
    ReturnsFirst qs f late n stop (.failed late, n.later (asked qs r j) stop)

/-- A poll that has settled returns what the first decisive reply says. -/
lemma Settled.returnsFirst {qs : List (Question WebError α)} {n : Network} {stop : Nat}
    {ended : Outcome WebError (Option α) × Network} (h : Settled qs n stop ended)
    (f : WebError → ε) (late : ε) :
    ReturnsFirst qs f late n stop (Browser.demanded f late ended.1, ended.2) := by
  cases h with
  | late due undecided => exact .late due undecided
  | @decided r j q admits front listed decisive =>
    cases told : q.reads (n.replyTo qs.length r j) with
    | error e => exact .failed admits front listed told
    | ok found =>
      cases found with
      | some a => exact .found admits front listed told
      | none => exact absurd told decisive

end WebTask

namespace Browser

open WebTask

variable {ε α : Type}

/-- How something ends that is waited for by questions that are sent below the address of a
browser. -/
structure Waits (b : Browser) (n : Network) (path : String) (qs : Url → List (Question WebError α))
    (f : WebError → ε) (late : ε) (limit : Nat) (ended : Outcome ε α × Network) : Prop where
  reached : ∀ u, b.Reaches n path u → ReturnsFirst (qs u) f late n (n.now + limit) ended
  unreached : (∀ u, ¬ b.Reaches n path u) →
    ∃ fault, ended = (.failed (f (.request fault)), n)

/-- What a wait gives was said by a reply to one of its questions. -/
lemma Waits.gives {b : Browser} {n : Network} {path : String}
    {qs : Url → List (Question WebError α)} {f : WebError → ε} {late : ε} {limit : Nat}
    {ended : Outcome ε α × Network} {a : α} (h : b.Waits n path qs f late limit ended)
    (done : ended.1 = .done a) : ∃ u q r, q ∈ qs u ∧ q.reads r = .ok (some a) := by
  by_cases reaches : ∃ u, b.Reaches n path u
  · obtain ⟨u, reaches⟩ := reaches
    cases h.reached u reaches with
    | found _ _ listed told =>
      cases done
      exact ⟨u, _, _, List.mem_of_getElem? listed, told⟩
    | failed | late => cases done
  · obtain ⟨fault, rfl⟩ := h.unreached (not_exists.1 reaches)
    cases done

/-- A new window is none of those known. -/
lemma notMem_of_windowQuestion {u : Url} {known : List String} {r : Reply} {handle : String}
    (told : (windowQuestion u known).reads r = .ok (some handle)) : handle ∉ known := by
  simp only [windowQuestion] at told
  cases windows : readReply (.list .text) (anonymous u) r with
  | error e =>
    rw [windows] at told
    cases told
  | ok v =>
    rw [windows] at told
    have found : ((v.items?.getD []).filterMap Json.string?).find? (!known.contains ·) =
        some handle := by
      injection told
    simpa using List.find?_some found

/-- A poll that has to give something waits for it. -/
lemma waits_of_poll {b : Browser} {n : Network} {path : String}
    {qs : Url → List (Question WebError α)} {f : WebError → ε} {late : ε} {limit : Nat}
    {deadline : Option Nat} {t : WebTask WebError (Option α)} {t' : WebTask ε α}
    (inTime : deadline.all (n.now + limit ≤ ·))
    (demands : t'.on deadline n = (demanded f late ((t.poll limit).on deadline n).1,
      ((t.poll limit).on deadline n).2))
    (asks : ∀ u, b.Reaches n path u → Asks t (qs u) n.listens)
    (fails : (∀ u, ¬ b.Reaches n path u) →
      ∃ fault, ∀ deadline, t.on deadline n = (.failed (.request fault), n)) :
    b.Waits n path qs f late limit (t'.on deadline n) := by
  rw [demands]
  constructor
  · intro u reached
    exact (on_poll (asks u reached) inTime).returnsFirst f late
  · intro unreached
    obtain ⟨fault, failed⟩ := fails unreached
    refine ⟨fault, ?_⟩
    rw [on_poll_of_failed failed]
    rfl

section Demands

variable {b : Browser} {n : Network} (deadline : Option Nat)

/-- A wait demands something of a poll, or fails with its own timeout. -/
lemma on_awaiting {α : Type} (what : String) (limit : Nat) (t : WebTask WebError (Option α)) :
    (awaiting what limit t).on deadline n = (demanded id (.timeout what)
      ((t.poll limit).on deadline n).1, ((t.poll limit).on deadline n).2) := by
  rw [awaiting, on_bind]
  generalize (t.poll limit).on deadline n = ended
  obtain ⟨(_ | a) | e | _, n'⟩ := ended <;> rfl

/-- The wait for one of several elements demands one of them. -/
lemma on_awaitAny (s : ExtensionSession) (limit : Nat) (selectors : List String) :
    (s.awaitAny limit selectors).on deadline n = (demanded Report.ofWeb
      [.note ("none of [" ++ ", ".intercalate (selectors.map Text.quoted) ++ "] appeared")]
      (((s.findAny 0 selectors).poll limit).on deadline n).1,
      (((s.findAny 0 selectors).poll limit).on deadline n).2) := by
  rw [ExtensionSession.awaitAny, on_bind, reporting, on_mapError]
  generalize ((s.findAny 0 selectors).poll limit).on deadline n = ended
  obtain ⟨(_ | a) | e | _, n'⟩ := ended <;> rfl

/-- The wait for a page of the application demands that page. -/
lemma on_awaitRoute (app : BrowserPage) (route : Route) :
    (app.awaitRoute route).on deadline n = (demanded Report.ofWeb
      [.note ("application did not navigate to " ++ route.path)]
      (((app.onRoute route).poll app.limit).on deadline n).1,
      (((app.onRoute route).poll app.limit).on deadline n).2) := by
  rw [BrowserPage.awaitRoute, on_bind, reporting, on_mapError]
  generalize ((app.onRoute route).poll app.limit).on deadline n = ended
  obtain ⟨(_ | a) | e | _, n'⟩ := ended <;> rfl

end Demands

section Unreached

variable {b : Browser} {n : Network}

/-- Where no server listens, the search for an element fails at once. -/
lemma find?_fails (unreached : ∀ u, ¬ b.Reaches n "element" u) :
    ∃ fault, ∀ l deadline, (b.find? l).on deadline n = (.failed (.request fault), n) := by
  obtain ⟨fault, failed⟩ := exists_fault unreached
  refine ⟨fault, fun l deadline => ?_⟩
  have find : (b.find l).on deadline n = (.failed (.request fault), n) :=
    on_bind_of_failed (failed _ _ _ deadline)
  rw [find?, on_bind, on_attempt, find]
  rfl

/-- Where no server listens, the search for one of several elements fails with the first of them. -/
lemma findAny_fails (unreached : ∀ u, ¬ b.Reaches n "element" u) {selectors : List String}
    (some : selectors ≠ []) (extension : String) :
    ∃ fault, ∀ deadline, (ExtensionSession.findAny ⟨b, extension⟩ 0 selectors).on deadline n =
      (.failed (.request fault), n) := by
  obtain ⟨fault, failed⟩ := find?_fails unreached
  obtain ⟨selector, others, rfl⟩ := List.exists_cons_of_ne_nil some
  exact ⟨fault, fun deadline => on_bind_of_failed (failed _ deadline)⟩

/-- Where no server listens, the search for a new window fails at once. -/
lemma newWindow_fails (unreached : ∀ u, ¬ b.Reaches n "window/handles" u) (known : List String) :
    ∃ fault, ∀ deadline, (do return (← b.windowHandles).find? (!known.contains ·) :
      WebTask WebError (Option String)).on deadline n = (.failed (.request fault), n) := by
  obtain ⟨fault, failed⟩ := exists_fault unreached
  exact ⟨fault, fun deadline =>
    on_bind_of_failed (on_bind_of_failed (failed _ _ _ deadline))⟩

/-- Where no server listens, the browser cannot be asked for its page. -/
lemma onRoute_fails {app : BrowserPage} (unreached : ∀ u, ¬ app.browser.Reaches n "url" u)
    (route : Route) :
    ∃ fault, ∀ deadline, (app.onRoute route).on deadline n = (.failed (.request fault), n) := by
  obtain ⟨fault, failed⟩ := exists_fault unreached
  exact ⟨fault, fun deadline =>
    on_bind_of_failed (on_bind_of_failed (failed _ _ _ deadline))⟩

end Unreached

/-- The texts of an answer that stand for an error. -/
lemma errorIn_isNoSuchElement_iff (status : Nat) (body : String) :
    (errorIn status body).isNoSuchElement = true ↔
      ∃ v e, (valueShape errorShape).parse body.toList = .ok v ∧ v.field? "value" = some e ∧
        textField? e "error" = some "no such element" := by
  unfold errorIn
  cases read : (valueShape errorShape).parse body.toList with
  | error m => simp [WebError.isNoSuchElement]
  | ok v =>
    simp only [WebError.isNoSuchElement, beq_iff_eq]
    cases there : v.field? "value" with
    | none =>
      have silent : textField? .null "error" = none := rfl
      simp [there, silent]
    | some e => cases named : textField? e "error" <;> simp [there, named]

/-- A reply counts as "no such element" exactly if it is no success and holds an error of that
name. -/
lemma counts_as_missing_iff (address : String) (r : Reply) :
    (∃ e, elementReply address r = .error e ∧ e.isNoSuchElement = true) ↔
      ∃ status body v e, r = .answer status body ∧ ¬ (200 ≤ status ∧ status < 300) ∧
        (valueShape errorShape).parse (if bodyless status then "" else body).toList = .ok v ∧
        v.field? "value" = some e ∧ textField? e "error" = some "no such element" := by
  constructor
  · rintro ⟨e, told, missing⟩
    cases r with
    | lost =>
      cases told
      cases missing
    | answer status body =>
      change readAnswer .any status body >>= elementIn = .error e at told
      rw [readAnswer] at told
      by_cases successful : 200 ≤ status ∧ status < 300
      · -- the errors in a success are others
        rw [if_pos successful] at told
        split at told
        · next v _ =>
          change elementIn _ = .error e at told
          unfold elementIn at told
          split at told <;> cases told
          cases missing
        · cases told
          cases missing
      · rw [if_neg successful] at told
        cases told
        obtain ⟨v, e, named⟩ := (errorIn_isNoSuchElement_iff _ _).1 missing
        exact ⟨status, body, v, e, rfl, successful, named⟩
  · rintro ⟨status, body, v, e, rfl, unsuccessful, named⟩
    refine ⟨errorIn status (if bodyless status then "" else body), ?_, ?_⟩
    · show (readAnswer .any status body >>= elementIn) = _
      rw [readAnswer, if_neg unsuccessful]
      rfl
    · exact (errorIn_isNoSuchElement_iff _ _).2 ⟨v, e, named⟩

/-- Whoever waits, for an element, for one of several elements, for a new window or for a page of
the application, asks round after round and returns by the first reply in time that decides: by the
element, by the number of the first selector with an element, by the first window that is not known,
or for the page, and otherwise by the error. Nothing is sent behind that reply. If there is none,
everything is asked again until the time is up, and that is the error. -/
theorem waits_return_first_decisive (b : Browser) (n : Network) (limit : Nat)
    (deadline : Option Nat) (inTime : deadline.all (n.now + limit ≤ ·)) :
    (∀ l, b.Waits n "element" (fun u => [elementQuestion u l]) id (.timeout l.text) limit
      ((b.await l limit).on deadline n)) ∧
    (∀ extension selectors, selectors ≠ [] →
      b.Waits n "element" (fun u => selectors.zipIdx.map (selectorQuestion u)) Report.ofWeb
        [.note ("none of [" ++ ", ".intercalate (selectors.map Text.quoted) ++ "] appeared")] limit
        ((ExtensionSession.awaitAny ⟨b, extension⟩ limit selectors).on deadline n)) ∧
    (∀ extension, (ExtensionSession.awaitAny ⟨b, extension⟩ limit []).on deadline n =
      (.failed [.note "none of [] appeared"], n.later [] (n.now + limit))) ∧
    (∀ known,
      b.Waits n "window/handles" (fun u => [windowQuestion u known]) id (.timeout "new window")
        limit ((b.awaitNewWindow known limit).on deadline n) ∧
      ∀ handle, ((b.awaitNewWindow known limit).on deadline n).1 = .done handle →
        handle ∉ known) ∧
    (∀ (app : BrowserPage) (route : Route), app.browser = b → app.limit = limit →
      b.Waits n "url" (fun u => [routeQuestion u route]) Report.ofWeb
        [.note ("application did not navigate to " ++ route.path)] limit
        ((app.awaitRoute route).on deadline n)) ∧
    (∀ address r, (∃ e, elementReply address r = .error e ∧ e.isNoSuchElement = true) ↔
      ∃ status body v e, r = .answer status body ∧ ¬ (200 ≤ status ∧ status < 300) ∧
        (valueShape errorShape).parse (if bodyless status then "" else body).toList = .ok v ∧
        v.field? "value" = some e ∧ textField? e "error" = some "no such element") := by
  -- the waits differ in what they ask and when they give up: `waits_of_poll` does the rest
  refine ⟨?_, ?_, ?_, ?_, ?_, counts_as_missing_iff⟩
  · intro l
    refine waits_of_poll inTime (on_awaiting deadline _ _ _)
      (fun u reached => asks_find? reached l) fun unreached => ?_
    obtain ⟨fault, failed⟩ := find?_fails unreached
    exact ⟨fault, failed l⟩
  · intro extension selectors some
    exact waits_of_poll inTime (on_awaitAny deadline _ _ _)
      (fun u reached => asks_findAny reached extension 0 selectors)
      fun unreached => findAny_fails unreached some extension
  · intro extension
    have asks : Asks (ExtensionSession.findAny ⟨b, extension⟩ 0 []) [] n.listens := fun _ _ _ => rfl
    rw [on_awaitAny, on_poll_nil asks inTime]
    rfl
  · intro known
    have waits : b.Waits n "window/handles" (fun u => [windowQuestion u known]) id
        (.timeout "new window") limit ((b.awaitNewWindow known limit).on deadline n) :=
      waits_of_poll inTime (on_awaiting deadline _ _ _)
        (fun u reached => asks_newWindow reached known)
        fun unreached => newWindow_fails unreached known
    refine ⟨waits, fun handle done => ?_⟩
    obtain ⟨u, q, r, listed, told⟩ := waits.gives done
    obtain rfl := List.mem_singleton.1 listed
    exact notMem_of_windowQuestion told
  · rintro app route rfl rfl
    exact waits_of_poll inTime (on_awaitRoute deadline app route)
      (fun u reached => asks_onRoute reached route) fun unreached => onRoute_fails unreached route

/-- A network with a browser whose page has an element from the second request on. -/
def appearing : Network where
  listens _ := true
  replies
    | 0 => .answer 404 "\x7b\"value\":\x7b\"error\":\"no such element\"\x7d\x7d"
    | _ + 1 => .answer 200
      "\x7b\"value\":\x7b\"element-6066-11e4-a52e-4f735466cecf\":\"e1\"\x7d\x7d"

/-- A wait goes on while the first reply says that there is no such element, and gives the element
of the second. -/
theorem waits_until_element_appears :
    (none : Option Nat).all (appearing.now + 1000 ≤ ·) = true ∧
    ((Browser.await ⟨"http://[::1]:9515/session/1"⟩ (.css "button") 1000).on none appearing).1 =
      .done ⟨"e1"⟩ := by
  refine ⟨rfl, ?_⟩
  have waits := (waits_return_first_decisive ⟨"http://[::1]:9515/session/1"⟩ appearing 1000 none
    rfl).1 (.css "button")
  generalize (Browser.await _ (.css "button") 1000).on none appearing = ended at waits ⊢
  have target : (target "http://[::1]:9515/session/1/element").isOk = true := by decide +kernel
  cases found : Browser.target "http://[::1]:9515/session/1/element" with
  | error e =>
    rw [found] at target
    cases target
  | ok u =>
    let question := elementQuestion u (.css "button")
    have reads (r : Nat) : question.reads (appearing.replyTo 1 r 0) =
        .ok (if r = 0 then none else some ⟨"e1"⟩) := by
      have number : appearing.replyTo 1 r 0 = appearing.replies r := by
        simp [Network.replyTo, Network.reply, appearing]
      rw [number]
      cases r with
      | zero =>
        show tolerated (elementReply "" (appearing.replies 0)) = .ok none
        decide +kernel
      | succ r =>
        show tolerated (elementReply "" (appearing.replies 1)) = .ok (some ⟨"e1"⟩)
        decide +kernel
    have only {j q} (listed : [question][j]? = some q) : j = 0 ∧ q = question := by
      cases j with
      | zero => exact ⟨rfl, (Option.some.inj listed).symm⟩
      | succ j => cases listed
    cases waits.reached u ⟨found, rfl⟩ with
    | @found r j q a _ _ listed told =>
      obtain ⟨rfl, rfl⟩ := only listed
      have read := Except.ok.inj ((reads r).symm.trans told)
      split at read <;> cases read
      rfl
    | @failed r j q e _ _ listed told =>
      obtain ⟨rfl, rfl⟩ := only listed
      cases (reads r).symm.trans told
    | late _ undecided =>
      have admits : appearing.Admits 1 1000 1 0 :=
        ⟨⟨by decide, .inr (by decide), by decide⟩, by decide⟩
      cases (reads 1).symm.trans (undecided 1 0 admits question rfl)

end Browser

end SeedVault
