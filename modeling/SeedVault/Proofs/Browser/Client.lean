import SeedVault.Browser.Client
import SeedVault.Proofs.Browser.Task
import SeedVault.Proofs.Url.Site

/-!
# What a browser is sent

Every operation of a browser sends commands to that browser only (`Browser.IsCommand`): requests
below its address that neither start another browser nor end this one. Only the start and the end
of a browser send anything else (`sends_start`, `requests_quit`).
-/

namespace SeedVault

namespace Json

/-- A first field of another name does not count. -/
lemma lookup_cons_of_ne {name key : String} (ne : key ≠ name) (value : Json)
    (fields : List (String × Json)) : ((name, value) :: fields).lookup key = fields.lookup key := by
  have test : (key == name) = false := beq_eq_false_iff_ne.2 ne
  rw [List.lookup_cons, test]

/-- Putting in a field changes nothing for other names. -/
lemma lookup_insertField_of_ne {name key : String} (ne : key ≠ name) (value : Json)
    (fields : List (String × Json)) :
    (insertField name value fields).lookup key = fields.lookup key := by
  induction fields with
  | nil => exact lookup_cons_of_ne ne value []
  | cons field fields ih =>
    obtain ⟨n, v⟩ := field
    rw [insertField]
    split
    · exact lookup_cons_of_ne ne value _
    · split
      · next same =>
        subst same
        rw [lookup_cons_of_ne ne, lookup_cons_of_ne ne]
      · rw [List.lookup_cons, List.lookup_cons, ih]

/-- An object has no field that is not among those it is made of. -/
lemma field?_ofFields_eq_none {key : String} {fields : List (String × Json)}
    (absent : ∀ f ∈ fields, key ≠ f.1) : (ofFields fields).field? key = none := by
  -- the fields are put in one by one, the first one first
  suffices ∀ sorted : List (String × Json), sorted.lookup key = none →
      (fields.foldl (fun sorted f => insertField f.1 f.2 sorted) sorted).lookup key = none by
    exact this [] rfl
  induction fields with
  | nil => exact fun _ h => h
  | cons f fields ih =>
    intro sorted h
    obtain ⟨ne, others⟩ := List.forall_mem_cons.1 absent
    refine ih others _ ?_
    rw [lookup_insertField_of_ne ne, h]

end Json

/-- Does a request ask for a new browser? -/
def Request.StartsBrowser (q : Request) : Prop :=
  ∃ v, q.body = some v ∧ (v.field? "capabilities").isSome

/-- A request that does not end a browser. -/
def Request.KeepsBrowser (q : Request) : Prop := q.method ≠ .delete

namespace Browser

/-- A request below the address of a browser, which neither starts a browser nor ends one. -/
structure IsCommand (b : Browser) (q : Request) : Prop where
  method : q.method ≠ .delete
  body : ¬ q.StartsBrowser
  path : ∃ path u, target (b.address ++ "/" ++ path) = .ok u ∧ q.path = pathAndQuery u

/-- Any error. -/
def AnyError {ε : Type} (_ : ε) : Prop := True

section Exchanges

variable {P : Request → Prop}

/-- An exchange sends one request to where its address points, if anything. -/
lemma sends_exchange {s : Json.Shape} {method : HttpMethod} {address : String} {body : Option Json}
    (h : ∀ u, target address = .ok u → P ⟨method, pathAndQuery u, body⟩) :
    WebTask.Sends P AnyError (exchange s method address body) := by
  unfold exchange
  cases found : target address with
  | error fault => exact .fail trivial
  | ok u =>
    refine WebTask.Sends.bind (.listens u) fun listening => ?_
    split
    · refine WebTask.Sends.bind (.request (h u found)) fun reply => ?_
      cases reply with
      | lost => exact .fail trivial
      | answer status text => exact .ofExcept fun _ _ => trivial
    · exact .fail trivial

/-- What an exchange sends: its request if a server listens where the address points, and nothing if
none does, and then it fails. -/
lemma requests_exchange (s : Json.Shape) (method : HttpMethod) (address : String)
    (body : Option Json) (deadline : Option Nat) (n : Network) :
    let exchanged := (exchange s method address body).on deadline n
    (∃ u, target address = .ok u ∧ n.listens u.site = true ∧
      exchanged.2.requests = n.requests ++ [⟨method, pathAndQuery u, body⟩]) ∨
    ((∀ u, target address = .ok u → n.listens u.site = false) ∧
      (∃ e, exchanged.1 = .failed e) ∧ exchanged.2.requests = n.requests) := by
  unfold exchange
  cases found : target address with
  | error fault => exact .inr ⟨nofun, ⟨_, rfl⟩, rfl⟩
  | ok u =>
    simp only [WebTask.on_bind _ _ deadline n]
    have asked : (WebTask.listens u : WebTask WebError Bool).on deadline n =
        (.done (n.listens u.site), n) := rfl
    rw [asked]
    cases listening : n.listens u.site with
    | false =>
      refine .inr ⟨?_, ⟨_, rfl⟩, rfl⟩
      rintro _ ⟨⟩
      exact listening
    | true =>
      refine .inl ⟨u, rfl, listening, ?_⟩
      simp only [WebTask.proceed, if_true, WebTask.on_bind]
      refine (WebTask.requests_proceed ?_ _).trans (WebTask.requests_request _ deadline n)
      intro reply
      cases reply with
      | lost => rfl
      | answer status text =>
        simp only [WebTask.ofExcept]
        cases readAnswer s status text <;> rfl

/-- An exchange gives the value in the answer to it, if a server listens and answers in time. -/
lemma done_exchange {s : Json.Shape} {method : HttpMethod} {address : String} {body : Option Json}
    {deadline : Option Nat} {n : Network} {u status text v} (found : target address = .ok u)
    (listening : n.listens u.site = true)
    (answer : n.replies n.requests.length = .answer status text)
    (soon : deadline.all (n.now + n.delays n.requests.length ≤ ·))
    (read : readAnswer s status text = .ok v) :
    ((exchange s method address body).on deadline n).1 = .done v := by
  unfold exchange
  rw [found]
  simp only [WebTask.on_bind _ _ deadline n]
  have there : (WebTask.listens u : WebTask WebError Bool).on deadline n = (.done true, n) := by
    rw [← listening]
    rfl
  rw [there]
  simp only [WebTask.proceed, if_true, WebTask.on_bind, WebTask.done_request _ soon, answer, read]
  rfl

end Exchanges

section Commands

variable (b : Browser) {α : Type}

/-- A query is a command, if its body asks for no browser. -/
lemma sends_query (s : Json.Shape) {method : HttpMethod} (path : String) {body : Option Json}
    (go : method ≠ .delete) (plain : ∀ v, body = some v → v.field? "capabilities" = none) :
    WebTask.Sends b.IsCommand AnyError (b.query s method path body) := by
  refine sends_exchange fun u found => ?_
  refine { method := go, body := ?_, path := ⟨path, u, found, rfl⟩ }
  rintro ⟨v, same, asks⟩
  rw [plain v same] at asks
  cases asks

/-- A question for a value of the browser is a command. -/
lemma sends_get (s : Json.Shape) (path : String) :
    WebTask.Sends b.IsCommand AnyError (b.query s .get path none) :=
  b.sends_query s path nofun nofun

/-- A query with some fields is a command, if the field for a new browser is not among them. -/
lemma sends_post (s : Json.Shape) (path : String) {fields : List (String × Json)}
    (absent : ∀ f ∈ fields, "capabilities" ≠ f.1) :
    WebTask.Sends b.IsCommand AnyError (b.query s .post path (some (.ofFields fields))) := by
  refine b.sends_query s path nofun fun v same => ?_
  cases same
  exact Json.field?_ofFields_eq_none absent

/-- An order is a command, if its body asks for no browser. -/
lemma sends_command (path : String) {fields : List (String × Json)}
    (absent : ∀ f ∈ fields, "capabilities" ≠ f.1) :
    WebTask.Sends b.IsCommand AnyError (b.command path (.ofFields fields)) :=
  (b.sends_post .any path absent).bind fun _ => .done _

/-- A question for a text is a command. -/
lemma sends_queryText (path : String) :
    WebTask.Sends b.IsCommand AnyError (b.queryText path) :=
  (b.sends_get .text path).bind fun _ => .done _

/-- To open a page is a command. -/
lemma sends_goto (url : String) : WebTask.Sends b.IsCommand AnyError (b.goto url) :=
  b.sends_command "url" (by simp)

/-- To ask for the page that is open is a command. -/
lemma sends_currentUrl : WebTask.Sends b.IsCommand AnyError b.currentUrl := b.sends_queryText "url"

/-- To load the page again is a command. -/
lemma sends_refresh : WebTask.Sends b.IsCommand AnyError b.refresh :=
  b.sends_command "refresh" (by simp)

/-- A query with a locator for its body is a command. -/
lemma sends_locate (s : Json.Shape) (path : String) (l : Locator) :
    WebTask.Sends b.IsCommand AnyError (b.query s .post path (some l.json)) := by
  cases l with
  | css selector => exact b.sends_post s path (by simp)
  | xpath place => exact b.sends_post s path (by simp)

/-- To look for an element is a command. -/
lemma sends_find (l : Locator) : WebTask.Sends b.IsCommand AnyError (b.find l) :=
  (b.sends_locate .any "element" l).bind fun _ => .ofExcept fun _ _ => trivial

/-- To look for all elements at a locator is a command. -/
lemma sends_findAll (l : Locator) : WebTask.Sends b.IsCommand AnyError (b.findAll l) :=
  (b.sends_locate (.list .any) "elements" l).bind fun _ => .ofExcept fun _ _ => trivial

/-- To look for an element that may be missing is one command. -/
lemma sends_find? (l : Locator) : WebTask.Sends b.IsCommand AnyError (b.find? l) := by
  refine WebTask.Sends.bind (b.sends_find l).attempt fun found => ?_
  cases found with
  | ok e => exact .done _
  | error e =>
    simp only
    split
    · exact .done _
    · exact .fail trivial

/-- Waiting for something sends what one attempt sends. -/
lemma sends_awaiting {P : Request → Prop} {t : WebTask WebError (Option α)} (what : String)
    (limit : Nat) (h : WebTask.Sends P AnyError t) :
    WebTask.Sends P AnyError (awaiting what limit t) := by
  refine WebTask.Sends.bind (h.poll limit) fun found => ?_
  cases found with
  | some a => exact .done a
  | none => exact .fail trivial

/-- To wait for an element takes commands only. -/
lemma sends_await (l : Locator) (limit : Nat) :
    WebTask.Sends b.IsCommand AnyError (b.await l limit) :=
  sends_awaiting l.text limit (b.sends_find? l)

/-- A click is a command. -/
lemma sends_click (e : Element) : WebTask.Sends b.IsCommand AnyError (b.click e) :=
  b.sends_command _ (by simp)

/-- To type is a command. -/
lemma sends_sendKeys (e : Element) (text : String) :
    WebTask.Sends b.IsCommand AnyError (b.sendKeys e text) :=
  b.sends_command _ (by simp)

/-- To run a script is a command. -/
lemma sends_script (path script : String) (args : List Json) :
    WebTask.Sends b.IsCommand AnyError
      (b.query .any .post path (some (scriptJson script args))) :=
  b.sends_post .any path (by simp)

/-- To run a script for the value it returns is a command. -/
lemma sends_execute (script : String) (args : List Json) :
    WebTask.Sends b.IsCommand AnyError (b.execute script args) :=
  b.sends_script "execute/sync" script args

/-- To run a script for the value it hands over is a command. -/
lemma sends_executeAsync (script : String) (args : List Json) :
    WebTask.Sends b.IsCommand AnyError (b.executeAsync script args) :=
  b.sends_script "execute/async" script args

/-- To ask for the window is a command. -/
lemma sends_windowHandle : WebTask.Sends b.IsCommand AnyError b.windowHandle :=
  b.sends_queryText "window"

/-- To ask for all windows is a command. -/
lemma sends_windowHandles : WebTask.Sends b.IsCommand AnyError b.windowHandles :=
  (b.sends_get (.list .text) "window/handles").bind fun _ => .done _

/-- To go to a window is a command. -/
lemma sends_switchTo (handle : String) : WebTask.Sends b.IsCommand AnyError (b.switchTo handle) :=
  b.sends_command "window" (by simp)

/-- To wait for a window takes commands only. -/
lemma sends_awaitNewWindow (known : List String) (limit : Nat) :
    WebTask.Sends b.IsCommand AnyError (b.awaitNewWindow known limit) :=
  sends_awaiting "new window" limit (b.sends_windowHandles.bind fun _ => .done _)

end Commands

/-- A request that starts a browser. -/
structure IsStart (q : Request) : Prop where
  method : q.method ≠ .delete
  body : q.StartsBrowser

/-- What the start of a browser comes to on a network: the request for it is sent once, or else,
where no server listens, nothing is sent and there is no browser. -/
inductive Started (server : Url) (n n' : Network) : Option Browser → Prop where
  | asked {b? q u} :
    IsStart q →
    target (serverAddress server ++ "/session") = .ok u →
    n.listens u.site = true →
    n'.requests = n.requests ++ [q] →
    (∀ b, b? = some b → ∃ id, b.address = serverAddress server ++ "/session/" ++ id) →
    Started server n n' b?
  | unasked :
    n'.requests = n.requests →
    Started server n n' none

/-- The start of a browser sends at most the request for it. -/
lemma Started.requests {server : Url} {n n' : Network} {b?} (h : Started server n n' b?) :
    n'.requests = n.requests ∨ ∃ q, n'.requests = n.requests ++ [q] ∧ IsStart q := by
  cases h with
  | asked isStart _ _ sent _ => exact .inr ⟨_, sent, isStart⟩
  | unasked unsent => exact .inl unsent

/-- The commands to a browser go to the site at which it was started. -/
lemma target_session {server : Url} {u : Url}
    (found : target (serverAddress server ++ "/session") = .ok u) (id : String) :
    ∃ v, target (serverAddress server ++ "/session/" ++ id) = .ok v ∧ v.site = u.site := by
  unfold target at found ⊢
  cases parsed : Url.parse (serverAddress server ++ "/session") with
  | error e =>
    rw [parsed] at found
    cases found
  | ok w =>
    rw [parsed] at found
    simp only at found
    split at found
    · next web =>
      cases found
      have implied : ∃ n, defaultPort? u.scheme = some n := by
        obtain http | https := web
        · exact ⟨80, by rw [http]; rfl⟩
        · exact ⟨443, by rw [https]; rfl⟩
      obtain ⟨n, implied⟩ := implied
      have spelled : (serverAddress server ++ "/session").toList =
          ((serverAddress server).toList ++ "/sessio".toList) ++ ['n'] := by
        rw [String.toList_append, List.append_assoc]
        rfl
      -- the id stands behind a slash, so it is in the path
      obtain ⟨v, parsed', scheme, site⟩ :=
        Url.site_of_append parsed implied spelled (by decide) id
      have text : serverAddress server ++ "/session/" ++ id =
          serverAddress server ++ "/session" ++ "/" ++ id := by
        rw [show "/session/" = "/session" ++ "/" from rfl, ← String.append_assoc]
      refine ⟨v, ?_, site⟩
      rw [text, parsed']
      simp only
      rw [scheme, if_pos web]
    · cases found

/-- A server listens where a browser was started. -/
lemma Started.listens {server : Url} {n n' : Network} {b : Browser}
    (h : Started server n n' (some b)) :
    ∃ v, target b.address = .ok v ∧ n.listens v.site = true := by
  cases h with
  | asked _ found listening _ address =>
    obtain ⟨id, address⟩ := address b rfl
    obtain ⟨v, found', site⟩ := target_session found id
    rw [← address] at found'
    exact ⟨v, found', by rw [site, listening]⟩

section Start

variable (server : Url) (capabilities : Json)

/-- What is sent for a browser to start. -/
def sessionBody : Json :=
  .ofFields [("capabilities", .ofFields [("alwaysMatch", capabilities)])]

/-- The exchange by which a browser is started. -/
def newSession : WebTask WebError Json :=
  exchange (.record "NewSession" [("sessionId", .text, true)]) .post
    (serverAddress server ++ "/session") (some (sessionBody capabilities))

/-- The browser that an answer names. -/
def named (v : Json) : WebTask WebError Browser :=
  .done ⟨serverAddress server ++ "/session/" ++ (textField? v "sessionId").getD ""⟩

/-- A start is an exchange for a session, and the browser is named from its answer. -/
lemma start_eq : start server capabilities = newSession server capabilities >>= named server := rfl

/-- The exchange for a session asks for a browser, wherever it is sent. -/
lemma isStart_session (path : String) : IsStart ⟨.post, path, some (sessionBody capabilities)⟩ where
  method := nofun
  body := ⟨_, rfl, rfl⟩

/-- A start sends the request for a browser and no other. -/
lemma sends_start : WebTask.Sends IsStart AnyError (start server capabilities) := by
  rw [start_eq]
  exact WebTask.Sends.bind (sends_exchange fun u _ => isStart_session capabilities _) fun _ =>
    .done _

/-- A browser is started by the request for it, or nothing is sent and none is started. -/
lemma started_start (deadline : Option Nat) (n : Network) :
    Started server n ((start server capabilities).on deadline n).2
      ((start server capabilities).on deadline n).1.value? := by
  have behind (ended : Outcome WebError Json) (n : Network) :
      (WebTask.proceed (named server) deadline ended n).2.requests = n.requests :=
    WebTask.requests_proceed (fun _ => rfl) ended
  rw [start_eq, WebTask.on_bind]
  have exchanged := requests_exchange (.record "NewSession" [("sessionId", .text, true)]) .post
    (serverAddress server ++ "/session") (some (sessionBody capabilities)) deadline n
  simp only at exchanged
  unfold newSession
  generalize (exchange _ _ _ _).on deadline n = ended at exchanged ⊢
  obtain ⟨u, found, listening, sent⟩ | ⟨_, ⟨e, failed⟩, sent⟩ := exchanged
  · refine .asked (isStart_session capabilities _) found listening ((behind _ _).trans sent) ?_
    intro b started
    obtain ⟨v | e | _, n'⟩ := ended
    · exact ⟨_, congrArg Browser.address (Option.some.inj started).symm⟩
    · cases started
    · cases started
  · rw [failed]
    exact .unasked ((behind _ _).trans sent)

/-- A browser is started if a server listens and names a session in time. -/
lemma done_start {deadline : Option Nat} {n : Network} {u status text v id}
    (found : target (serverAddress server ++ "/session") = .ok u)
    (listening : n.listens u.site = true)
    (answer : n.replies n.requests.length = .answer status text)
    (soon : deadline.all (n.now + n.delays n.requests.length ≤ ·))
    (read : readAnswer (.record "NewSession" [("sessionId", .text, true)]) status text = .ok v)
    (begun : textField? v "sessionId" = some id) :
    ((start server capabilities).on deadline n).1 =
      .done ⟨serverAddress server ++ "/session/" ++ id⟩ := by
  rw [start_eq, WebTask.on_bind, newSession, done_exchange found listening answer soon read]
  change Outcome.done (Browser.mk (_ ++ (textField? v "sessionId").getD "")) = _
  rw [begun]
  rfl

end Start

/-- The end of a browser sends the request for it if a server listens at the browser's address. -/
lemma requests_quit {b : Browser} {u : Url} (found : target b.address = .ok u)
    {deadline : Option Nat} {n : Network} (listening : n.listens u.site = true) :
    (b.quit.on deadline n).2.requests = n.requests ++ [⟨.delete, pathAndQuery u, none⟩] := by
  unfold quit
  rw [WebTask.on_bind, WebTask.requests_proceed fun _ => rfl]
  obtain ⟨v, found', _, sent⟩ | ⟨silent, _⟩ :=
    requests_exchange .any .delete b.address none deadline n
  · rw [found] at found'
    cases found'
    exact sent
  · rw [silent u found] at listening
    cases listening

end Browser

end SeedVault
