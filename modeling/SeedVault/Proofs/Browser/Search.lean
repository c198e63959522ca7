import Mathlib.Data.List.Forall2
import SeedVault.Proofs.Browser.Conversation

/-!
# Searches on a page

Who waits for one of several elements asks for each of them in turn, round after round. An answer
that there is no such element is passed over, and the first one that gives an element ends the
search (`FirstReply`). A search that gives nothing has sent nothing but such requests (`Sought`).
-/

namespace SeedVault

open WebTask (Says Polled Overdue)

namespace Browser

/-- What a reply says to a request for an element. -/
def elementReply (address : String) (r : Reply) : Except WebError Element :=
  readReply .any address r >>= elementIn

end Browser

/-- What a reply gives to one who asks for an element: the element, or why there is none. -/
def Reply.Gives (r : Reply) (x : Except WebError Element) : Prop :=
  ∃ address, Browser.elementReply address r = x

/-- The elements that a reply gives to one who asks for all of them. -/
def Reply.GivesAll (r : Reply) (es : List Element) : Prop :=
  ∃ address v, Browser.readReply (.list .any) address r = .ok v ∧
    (v.items?.getD []).mapM Browser.elementIn = .ok es

namespace Browser

variable (b : Browser)

/-- A request for the element of a selector. -/
def Seeks (selector : String) : Request → Prop :=
  b.Below .post "element" (some (Locator.ofSelector selector).json)

/-- A request for the element of a selector, with the answer that there is no such element. -/
def Misses (selector : String) (x : Exchange) : Prop :=
  b.Seeks selector x.1 ∧ ∃ e, x.2.Gives (.error e) ∧ e.isNoSuchElement = true

/-- A round in which there is no element for any of some selectors. -/
def Missed (selectors : List String) (said : List Exchange) : Prop :=
  List.Forall₂ b.Misses selectors said

/-- Nothing but requests for the elements of some selectors. -/
def Sought (selectors : List String) (said : List Exchange) : Prop :=
  ∀ x ∈ said, ∃ selector ∈ selectors, b.Seeks selector x.1

/-- Rounds in which there is no element for any of some selectors, and then one up to the `i`-th
selector, to whose request comes a reply that satisfies `D`. -/
inductive FirstReply (selectors : List String) (D : Reply → Prop) :
    Nat → List Exchange → Prop where
  | now {i selector misses q r} :
    b.Missed (selectors.take i) misses →
    selectors[i]? = some selector →
    b.Seeks selector q →
    D r →
    FirstReply selectors D i (misses ++ [(q, r)])
  | later {i misses rest} :
    b.Missed selectors misses →
    FirstReply selectors D i rest →
    FirstReply selectors D i (misses ++ rest)

section Values

variable {ε α : Type} (val : Nat → Element → α)

/-- What one round over some selectors comes to: a value for the first element that there is. -/
inductive Round (selectors : List String) :
    List Exchange → Outcome WebError (Option α) → Prop where
  | missed {said} : b.Missed selectors said → Round selectors said (.done none)
  | found {i selector misses q r e} :
    b.Missed (selectors.take i) misses →
    selectors[i]? = some selector →
    b.Seeks selector q →
    r.Gives (.ok e) →
    Round selectors (misses ++ [(q, r)]) (.done (some (val i e)))
  | broken {i selector misses q r e} :
    b.Missed (selectors.take i) misses →
    selectors[i]? = some selector →
    b.Seeks selector q →
    r.Gives (.error e) →
    e.isNoSuchElement = false →
    Round selectors (misses ++ [(q, r)]) (.failed e)
  | unsent {said} (fault) :
    b.Sought selectors said →
    Round selectors said (.failed (.request fault))
  | late {said} :
    b.Sought selectors said →
    Round selectors said .expired

/-- What a search over some selectors comes to. -/
inductive Searched (selectors : List String) :
    List Exchange → Outcome WebError (Option α) → Prop where
  | found {i said e} :
    b.FirstReply selectors (·.Gives (.ok e)) i said →
    Searched selectors said (.done (some (val i e)))
  | broken {i said e} :
    b.FirstReply selectors (·.Gives (.error e)) i said →
    e.isNoSuchElement = false →
    Searched selectors said (.failed e)
  | unsent {said} (fault) :
    b.Sought selectors said →
    Searched selectors said (.failed (.request fault))
  | late {said o} :
    b.Sought selectors said →
    Overdue o →
    Searched selectors said o

/-- A search that has to give something gives it for the first element that there is. -/
inductive Awaited (selectors : List String) : List Exchange → Outcome ε α → Prop where
  | found {i said e} :
    b.FirstReply selectors (·.Gives (.ok e)) i said →
    Awaited selectors said (.done (val i e))
  | failed {said} (e) :
    b.Sought selectors said →
    Awaited selectors said (.failed e)
  | expired {said} :
    b.Sought selectors said →
    Awaited selectors said .expired

end Values

section Rounds

variable {b} {ε α : Type} {val : Nat → Element → α} {selectors : List String}
  {said said' : List Exchange} {D : Reply → Prop} {i : Nat}

/-- Nothing is sought where nothing is said. -/
lemma Sought.nil : b.Sought selectors [] := fun _ mem => absurd mem List.not_mem_nil

/-- What is said in two parts is a search if each part is one. -/
lemma Sought.append (first : b.Sought selectors said) (second : b.Sought selectors said') :
    b.Sought selectors (said ++ said') := by
  intro x mem
  exact (List.mem_append.1 mem).elim (first x) (second x)

/-- A search for some elements is one for more. -/
lemma Sought.mono {selectors' : List String} (h : b.Sought selectors said)
    (more : selectors ⊆ selectors') : b.Sought selectors' said := by
  intro x mem
  obtain ⟨selector, listed, seeks⟩ := h x mem
  exact ⟨selector, more listed, seeks⟩

/-- A search with one question more is one for one element more. -/
lemma Sought.cons {selector : String} {x : Exchange} (first : b.Seeks selector x.1)
    (others : b.Sought selectors said) : b.Sought (selector :: selectors) (x :: said) := by
  intro y mem
  rcases List.mem_cons.1 mem with rfl | mem
  · exact ⟨selector, List.mem_cons_self, first⟩
  · exact others.mono (List.subset_cons_self _ _) y mem

/-- A search that finds nothing is a search. -/
lemma Missed.sought (h : b.Missed selectors said) : b.Sought selectors said := by
  induction h with
  | nil => exact Sought.nil
  | cons missed _ ih => exact Sought.cons missed.1 ih

/-- A search that comes to one of the elements is a search. -/
lemma sought_of_round {selector misses q r} (front : b.Missed (selectors.take i) misses)
    (listed : selectors[i]? = some selector) (seeks : b.Seeks selector q) :
    b.Sought selectors (misses ++ [(q, r)]) := by
  apply (front.sought.mono (List.take_subset _ _)).append
  intro x mem
  obtain rfl := List.mem_singleton.1 mem
  exact ⟨selector, List.mem_of_getElem? listed, seeks⟩

/-- What ends with the first element that is found is a search. -/
lemma FirstReply.sought (h : b.FirstReply selectors D i said) : b.Sought selectors said := by
  induction h with
  | now front listed seeks _ => exact sought_of_round front listed seeks
  | later missed _ ih => exact missed.sought.append ih

/-- The element that is found is one of those looked for. -/
lemma FirstReply.lt_length (h : b.FirstReply selectors D i said) : i < selectors.length := by
  induction h with
  | now _ listed => exact (List.getElem?_eq_some_iff.1 listed).1
  | later _ _ ih => exact ih

/-- A round goes on behind a selector for which there is no element. -/
lemma Round.cons {selector : String} {x : Exchange} {o} (missed : b.Misses selector x)
    (h : b.Round (fun i => val (i + 1)) selectors said o) :
    b.Round val (selector :: selectors) (x :: said) o := by
  cases h with
  | missed others => exact .missed (List.Forall₂.cons missed others)
  | @found i _ _ _ _ _ front listed seeks gives =>
    have front' : b.Missed ((selector :: selectors).take (i + 1)) (x :: _) :=
      List.Forall₂.cons missed front
    exact .found front' listed seeks gives
  | @broken i _ _ _ _ _ front listed seeks gives other =>
    have front' : b.Missed ((selector :: selectors).take (i + 1)) (x :: _) :=
      List.Forall₂.cons missed front
    exact .broken front' listed seeks gives other
  | unsent fault sought => exact .unsent fault (Sought.cons missed.1 sought)
  | late sought => exact .late (Sought.cons missed.1 sought)

/-- The first selector of a round is the only one that counts if there is an element for it. -/
lemma Round.first {β : Type} {val' : Nat → β} {selector : String} {a : α}
    (h : b.Round val [selector] said (.done (some a))) (others : List String) :
    b.Round (fun i _ => val' i) (selector :: others) said (.done (some (val' 0))) := by
  cases h with
  | found front listed seeks gives =>
    obtain rfl := Nat.lt_one_iff.1 (List.getElem?_eq_some_iff.1 listed).1
    exact .found (i := 0) front listed seeks gives

/-- A failure at the first element is a failure, whatever the others are. -/
lemma Round.failed {β : Type} {val' : Nat → Element → β} {selector : String} {e : WebError}
    (h : b.Round val [selector] said (.failed e)) (others : List String) :
    b.Round val' (selector :: others) said (.failed e) := by
  cases h with
  | broken front listed seeks gives other =>
    obtain rfl := Nat.lt_one_iff.1 (List.getElem?_eq_some_iff.1 listed).1
    exact .broken (i := 0) front listed seeks gives other
  | unsent fault sought => exact .unsent fault (sought.mono (by simp))

/-- A search behind a round without an element ends as it would have without that round. -/
lemma Searched.again {o} (missed : b.Missed selectors said)
    (h : b.Searched val selectors said' o) : b.Searched val selectors (said ++ said') o := by
  cases h with
  | found first => exact .found (.later missed first)
  | broken first other => exact .broken (.later missed first) other
  | unsent fault sought => exact .unsent fault (missed.sought.append sought)
  | late sought overdue => exact .late (missed.sought.append sought) overdue

/-- Rounds one after another are a search. -/
lemma Searched.of_polled {o} (h : Polled (b.Round val selectors) said o) :
    b.Searched val selectors said o := by
  induction h with
  | found round =>
    cases round with
    | found front listed seeks gives => exact .found (.now front listed seeks gives)
  | broken round =>
    cases round with
    | broken front listed seeks gives other => exact .broken (.now front listed seeks gives) other
    | unsent fault sought => exact .unsent fault sought
  | stopped round overdue =>
    cases round with
    | late sought => exact .late sought overdue
  | missed round overdue =>
    cases round with
    | missed missed => exact .late missed.sought overdue
  | again round _ ih =>
    cases round with
    | missed missed => exact ih.again missed

/-- To wait for elements takes nothing but a search. -/
lemma Awaited.sought {o : Outcome ε α} (h : b.Awaited val selectors said o) :
    b.Sought selectors said := by
  cases h with
  | found first => exact first.sought
  | failed _ sought | expired sought => exact sought

/-- Elements are awaited in the same way when the error is told in another. -/
lemma Awaited.mapFault {ε' : Type} {f : ε → ε'} {o : Outcome ε α}
    (h : b.Awaited val selectors said o) :
    b.Awaited val selectors said (WebTask.mapFault f o) := by
  cases h with
  | found first => exact .found first
  | failed e sought => exact .failed (f e) sought
  | expired sought => exact .expired sought

end Rounds

section Tasks

variable {α : Type} {val : Nat → Element → α} {selectors : List String}

/-- A round that is repeated is a search. -/
lemma says_search {t : WebTask WebError (Option α)} (h : t.Says (b.Round val selectors))
    (limit : Nat) : (t.poll limit).Says (b.Searched val selectors) :=
  (h.poll limit).mono fun _ _ => Searched.of_polled

/-- How it ends if a search has to give something. -/
def demanded {ε : Type} (f : WebError → ε) (late : ε) : Outcome WebError (Option α) → Outcome ε α
  | .done (some a) => .done a
  | .done none => .failed late
  | .failed e => .failed (f e)
  | .expired => .expired

/-- Elements are awaited by a search for them, with an error if they stay away. -/
lemma Searched.awaited {ε : Type} {said : List Exchange} {o} (f : WebError → ε) (late : ε)
    (h : b.Searched val selectors said o) :
    b.Awaited val selectors said (demanded f late o) := by
  cases h with
  | found first => exact .found first
  | broken first _ => exact .failed _ first.sought
  | unsent fault sought => exact .failed _ sought
  | late sought overdue =>
    rcases overdue with rfl | rfl
    · exact .failed late sought
    · exact .expired sought

/-- To wait for what a round may give is to wait for its elements. -/
lemma says_awaiting {t : WebTask WebError (Option α)} (h : t.Says (b.Round val selectors))
    (what : String) (limit : Nat) :
    (awaiting what limit t).Says (b.Awaited val selectors) := by
  refine (b.says_search h limit).through (f := demanded id (.timeout what)) ?_ ?_
  · intro deadline n
    unfold awaiting
    rw [WebTask.on_bind]
    generalize (t.poll limit).on deadline n = ended
    obtain ⟨(_ | a) | e | _, n'⟩ := ended <;> rfl
  · exact fun _ _ => Searched.awaited b id _

/-- That there is no element yet is no error. -/
def tolerated : Except WebError Element → Except WebError (Option Element)
  | .ok e => .ok (some e)
  | .error e => if e.isNoSuchElement then .ok none else .error e

/-- To look for an element is one exchange that seeks it. -/
lemma says_find (selector : String) :
    (b.find (.ofSelector selector)).Says
      (Exchanged (b.Seeks selector) .any fun x => x >>= elementIn) :=
  Exchanged.bind (b.says_query .any .post "element" _) elementIn

/-- To look for an element that may be missing is one exchange that seeks it. -/
lemma says_find? (selector : String) :
    (b.find? (.ofSelector selector)).Says
      (Exchanged (b.Seeks selector) .any (tolerated ∘ fun x => x >>= elementIn)) := by
  refine Exchanged.treat (b.says_find selector) fun deadline n => ?_
  unfold find?
  rw [WebTask.on_bind, WebTask.on_attempt]
  generalize (b.find _).on deadline n = ended
  obtain ⟨a | e | _, n'⟩ := ended
  · rfl
  · simp only [WebTask.attempted, WebTask.proceed, treated, tolerated]
    split <;> rfl
  · rfl

/-- Asking for one element is a round over one selector. -/
lemma round_find? (selector : String) :
    (b.find? (.ofSelector selector)).Says (b.Round (fun _ e => e) [selector]) := by
  refine (b.says_find? selector).mono fun said o exchanged => ?_
  cases exchanged with
  | unsent fault => exact .unsent fault Sought.nil
  | late r sent => exact .late (Sought.cons sent Sought.nil)
  | read r address sent =>
    have gives : r.Gives (elementReply address r) := ⟨address, rfl⟩
    have front : b.Missed ([selector].take 0) [] := .nil
    rw [Function.comp_apply, ← elementReply]
    cases reply : elementReply address r with
    | ok e =>
      rw [reply] at gives
      exact Round.found front rfl sent gives
    | error e =>
      rw [reply] at gives
      cases missing : e.isNoSuchElement with
      | true =>
        rw [tolerated, if_pos missing]
        exact .missed (.cons ⟨sent, e, gives, missing⟩ .nil)
      | false =>
        rw [tolerated, if_neg (Bool.eq_false_iff.1 missing)]
        exact Round.broken front rfl sent gives missing

/-- To wait for one element is to wait for what is at its selector. -/
lemma says_await (selector : String) (limit : Nat) :
    (b.await (.ofSelector selector) limit).Says (b.Awaited (fun _ e => e) [selector]) :=
  b.says_awaiting (b.round_find? selector) _ limit

end Tasks

/-- A request for all elements of a selector. -/
def SeeksAll (selector : String) : Request → Prop :=
  b.Below .post "elements" (some (Locator.ofSelector selector).json)

/-- What is said by a search for all elements of a selector. -/
inductive Listed {ε : Type} (selector : String) :
    List Exchange → Outcome ε (List Element) → Prop where
  | given {q r es} :
    b.SeeksAll selector q →
    r.GivesAll es →
    Listed selector [(q, r)] (.done es)
  | failed {said} (e) :
    (∀ x ∈ said, b.SeeksAll selector x.1) →
    Listed selector said (.failed e)
  | expired {said} :
    (∀ x ∈ said, b.SeeksAll selector x.1) →
    Listed selector said .expired

/-- All elements at a selector are sought by nothing but its query. -/
lemma Listed.seeks {ε : Type} {b : Browser} {selector : String} {said : List Exchange}
    {o : Outcome ε (List Element)} (h : b.Listed selector said o) :
    ∀ x ∈ said, b.SeeksAll selector x.1 := by
  cases h with
  | given seeks _ => simpa using seeks
  | failed _ seeks | expired seeks => exact seeks

/-- All elements are listed in the same way when the error is told in another. -/
lemma Listed.mapFault {ε ε' : Type} {b : Browser} {selector : String} {said : List Exchange}
    {f : ε → ε'} {o : Outcome ε (List Element)} (h : b.Listed selector said o) :
    b.Listed selector said (WebTask.mapFault f o) := by
  cases h with
  | given seeks gives => exact .given seeks gives
  | failed e seeks => exact .failed (f e) seeks
  | expired seeks => exact .expired seeks

/-- To look for all elements at a selector is to list them. -/
lemma says_findAll (selector : String) :
    (b.findAll (.ofSelector selector)).Says (b.Listed selector) := by
  have listing : (b.findAll (.ofSelector selector)).Says
      (Exchanged (b.SeeksAll selector) (.list .any) fun x =>
        x >>= fun v => (v.items?.getD []).mapM elementIn) :=
    Exchanged.bind (b.says_query (.list .any) .post "elements" _) _
  refine listing.mono fun said o exchanged => ?_
  cases exchanged with
  | unsent fault => exact .failed _ (by simp)
  | late r seeks => exact .expired (by simpa using seeks)
  | read r address seeks =>
    cases reply : readReply (.list .any) address r with
    | error e => exact .failed e (by simpa using seeks)
    | ok v =>
      show b.Listed selector _ (.ofExcept ((v.items?.getD []).mapM elementIn))
      cases listed : (v.items?.getD []).mapM elementIn with
      | error e => exact .failed e (by simpa using seeks)
      | ok es => exact .given seeks ⟨address, v, reply, listed⟩

end Browser

end SeedVault
