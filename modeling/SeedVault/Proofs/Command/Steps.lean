import SeedVault.Command.Run
import SeedVault.Proofs.Attempt

/-!
# Steps of a job

The steps that jobs have in common, and how a run ends whose job comes to a result: it writes the
result, or says what went wrong (`Machine.perform_of_job`).
-/

namespace SeedVault

namespace Job

variable {α : Type} (m : Machine)

/-- The configuration is read from its file, and the machine stays as it is. -/
lemma configuration_apply (l : Layout) :
    configuration l m =
      ((Configuration.ofFileOrDefault (m.files.readFile (pathFrom m.current l.appConfig))).mapError
        Report.ofConfig, m) := rfl

/-- The deriver is made from the configuration, and the machine stays as it is. -/
lemma deriver_apply (l : Layout) (config : Configuration) :
    deriver l config m =
      (noting ("invalid config (" ++ l.appConfig ++ ")") Report.ofDerive config.deriver, m) := rfl

/-- Reading the machine gives the machine. -/
lemma get_apply : (get : Job Machine) m = (.ok m, m) := rfl

/-- Another machine takes the place of the machine. -/
lemma set_apply (m' : Machine) : (set m' : Job Unit) m = (.ok (), m') := rfl

/-- A value that is there already leaves the machine as it is. -/
lemma pure_apply (a : α) : (pure a : Job α) m = (.ok a, m) := rfl

/-- A result that is there already leaves the machine as it is. -/
lemma ofExcept_apply {x : Except Report α} {y} (h : x = y) : (ofExcept x : Job α) m = (y, m) := by
  rw [← h]
  rfl

/-- What cannot fail is done. -/
lemma lift_apply {act : StateM Machine α} {a m'} (h : act m = (a, m')) :
    (liftM act : Job α) m = (.ok a, m') := by
  change (Except.ok (act m).1, (act m).2) = _
  rw [h]

/-- Writes a result, if it is one. -/
def conclude (result : Except Report Json) : Job Unit := do
  printJson (← ofExcept result)

end Job

namespace Machine

/-- What a run says of the result of its job. -/
def concluded (result : Except Report Json) (m : Machine) : Bool × Machine :=
  match result with
  | .ok v => (true, { m with output := m.output ++ Json.write v })
  | .error r => (false, { m with messages := m.messages ++ ("Error: " ++ r.text ++ "\n") })

/-- Two runs that end alike, say the same and have sent the same. -/
structure Alike (a b : Bool × Machine) : Prop where
  result : a.1 = b.1
  output : a.2.output = b.2.output
  messages : a.2.messages = b.2.messages
  requests : a.2.network.requests = b.2.network.requests

/-- A run ends as the result of its job says. -/
lemma perform_of_job {root : Option String} {action : Action} {m m' : Machine} {result}
    (h : action.job (m.layout root) m = Job.conclude result m') :
    m.perform root action = concluded result m' := by
  unfold perform
  rw [h]
  cases result with
  | ok v => rfl
  | error r => rfl

/-- A run does what its arguments say. -/
lemma run_of_parse {args : List String} {action : Action} {g : Given}
    (told : Action.command.parse args = .ok (action, g)) (m : Machine) :
    m.run args = m.perform (g.value? "root") action := by
  unfold run
  rw [told]

/-- To say the result changes nothing of the network. -/
lemma network_concluded (result : Except Report Json) (m : Machine) :
    (concluded result m).2.network = m.network := by
  cases result <;> rfl

/-- To say the result changes no file. -/
lemma files_concluded (result : Except Report Json) (m : Machine) :
    (concluded result m).2.files = m.files := by
  cases result <;> rfl

/-- Runs with one result are alike if they begin to say it alike. -/
lemma alike_concluded (result : Except Report Json) {m m' : Machine} (output : m.output = m'.output)
    (messages : m.messages = m'.messages) (requests : m.network.requests = m'.network.requests) :
    Alike (concluded result m) (concluded result m') := by
  cases result with
  | ok v => exact ⟨rfl, congrArg (· ++ _) output, messages, requests⟩
  | error r => exact ⟨rfl, output, congrArg (· ++ _) messages, requests⟩

end Machine

end SeedVault
