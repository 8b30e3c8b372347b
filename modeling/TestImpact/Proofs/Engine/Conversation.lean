import TestImpact.Engine.Plan

/-!
# Conversations with collaborators

A plan that is carried out without cancellation is a conversation: each call gets
an answer, and a collaborator may answer in the light of everything said before.
`converse` carries a plan out with such collaborators and keeps what was said. The
conversation of a composed plan is put together from those of its parts.
-/

namespace TestImpact

/-- A call with the answer that it got. -/
structure Exchange where
  call : Call
  answer : call.Answer

/-- Collaborators that answer a call in the light of all that was said before. -/
abbrev Collaborators := List Exchange → (call : Call) → call.Answer

/-- Answers held ready. Every project has the same tests, and all of them pass. -/
structure Script where
  graph : Except GraphError SymbolGraph
  tests : List Testing.Test
  covering : String → Except Failure (List String)
  smoke : String → Except Failure Bool

def Script.answers (script : Script) : Answers Id
  | .graph _ => script.graph
  | .findTests _ file _ => script.covering file
  | .isSmoke _ test => script.smoke test
  | .discover _ _ => .ok script.tests
  | .runSuite suite => .ok (suite.tests.map fun test => .passed test.path suite.language)
  | .runTest test config => .ok (.passed test config.language)

def Call.asks : Call → Bool
  | .runSuite _ => false
  | .runTest _ _ => false
  | _ => true

namespace Collaborators

def fixed (answers : Answers Id) : Collaborators := fun _ call => answers call

def recorded (collaborators : Collaborators) : Answers (StateM (List Exchange)) :=
  fun call => do
    let said ← get
    let answer := collaborators said call
    set (said ++ [⟨call, answer⟩])
    return answer

def interview (collaborators : Collaborators) :
    (said : List Exchange) → List Call → List Exchange
  | _, [] => []
  | said, call :: rest =>
      let exchange : Exchange := ⟨call, collaborators said call⟩
      exchange :: interview collaborators (said ++ [exchange]) rest

theorem map_call_interview (collaborators : Collaborators) (said : List Exchange)
    (calls : List Call) : (collaborators.interview said calls).map (·.call) = calls := by
  induction calls generalizing said with
  | nil => rfl
  | cons call rest ih => simp [interview, ih]

end Collaborators

namespace Plan

variable {α β : Type}

/-- Carries out a plan that is never cancelled, and gives its outcome with all that
has been said by then. -/
def converse (plan : Plan α) (collaborators : Collaborators) (said : List Exchange) :
    Except EngineError α × List Exchange :=
  let ended := (plan.run collaborators.recorded .never []).run said
  (ended.1.1, ended.2)

/-- What happened before does not change a conversation. -/
theorem run_eq_converse (plan : Plan α) (collaborators : Collaborators)
    (past : List Moment) (said : List Exchange) :
    let ended := (plan.run collaborators.recorded .never past).run said
    (ended.1.1, ended.2) = plan.converse collaborators said := by
  suffices same : ∀ first second : List Moment,
      ((plan.run collaborators.recorded .never first).run said).1.1 =
        ((plan.run collaborators.recorded .never second).run said).1.1 ∧
      ((plan.run collaborators.recorded .never first).run said).2 =
        ((plan.run collaborators.recorded .never second).run said).2 from
    Prod.ext (same past []).1 (same past []).2
  induction plan generalizing said with
  | done value => exact fun _ _ => ⟨rfl, rfl⟩
  | stop error => exact fun _ _ => ⟨rfl, rfl⟩
  | checkpoint next ih => exact fun _ _ => ih false said _ _
  | call request next ih => exact fun _ _ => ih _ _ _ _

variable (collaborators : Collaborators) (said : List Exchange)

@[simp] theorem converse_pure (value : α) :
    (pure value : Plan α).converse collaborators said = (.ok value, said) := rfl

@[simp] theorem converse_done (value : α) :
    (done value).converse collaborators said = (.ok value, said) := rfl

@[simp] theorem converse_stop (error : EngineError) :
    (stop error : Plan α).converse collaborators said = (.error error, said) := rfl

@[simp] theorem converse_checkpoint (next : Bool → Plan α) :
    (checkpoint next).converse collaborators said = (next false).converse collaborators said :=
  run_eq_converse (next false) collaborators _ said

@[simp] theorem converse_call (request : Call) (next : request.Answer → Plan α) :
    (call request next).converse collaborators said =
      (next (collaborators said request)).converse collaborators
        (said ++ [⟨request, collaborators said request⟩]) :=
  run_eq_converse (next _) collaborators _ _

@[simp] theorem converse_ask : ask.converse collaborators said = (.ok (), said) := by
  simp [ask]

@[simp] theorem converse_request (wanted : Call) :
    @converse (no_index wanted.Answer) (request wanted) collaborators said =
      (.ok (collaborators said wanted), said ++ [⟨wanted, collaborators said wanted⟩]) := by
  simp [request]

/-- A composed plan goes on where its first part has ended. -/
theorem converse_bind (plan : Plan α) (next : α → Plan β) :
    (plan >>= next).converse collaborators said =
      match plan.converse collaborators said with
      | (.ok value, heard) => (next value).converse collaborators heard
      | (.error error, heard) => (.error error, heard) := by
  change (plan.andThen next).converse collaborators said = _
  induction plan generalizing said with
  | done value => simp [andThen]
  | stop error => simp [andThen]
  | checkpoint rest ih => simp [andThen, ih]
  | call request rest ih => simp [andThen, ih]

/-- Changing the value of a plan changes nothing that is said. -/
theorem converse_bind_pure (plan : Plan α) (change : α → β) :
    (plan >>= fun value => pure (change value)).converse collaborators said =
      Prod.map (Except.map change) id (plan.converse collaborators said) := by
  rw [converse_bind]
  rcases plan.converse collaborators said with ⟨_ | _, heard⟩ <;> rfl

/-- A conversation adds to what has been said. -/
theorem exists_converse_eq_append (plan : Plan α) :
    ∃ heard, (plan.converse collaborators said).2 = said ++ heard := by
  induction plan generalizing said with
  | done value => exact ⟨[], by simp⟩
  | stop error => exact ⟨[], by simp⟩
  | checkpoint rest ih =>
      obtain ⟨heard, more⟩ := ih false said
      exact ⟨heard, by rw [converse_checkpoint, more]⟩
  | call request rest ih =>
      let exchange : Exchange := ⟨request, collaborators said request⟩
      obtain ⟨heard, more⟩ := ih exchange.answer (said ++ [exchange])
      refine ⟨exchange :: heard, ?_⟩
      rw [converse_call, more, List.append_assoc, List.singleton_append]

@[simp] theorem converse_attempt (plan : Plan α) :
    plan.attempt.converse collaborators said =
      (.ok (plan.converse collaborators said).1, (plan.converse collaborators said).2) := by
  induction plan generalizing said with
  | done value => simp [attempt]
  | stop error => simp [attempt]
  | checkpoint rest ih => simp [attempt, ih]
  | call request rest ih => simp [attempt, ih]

/-- Work that asks one question for each item hears the answers of an interview. -/
theorem converse_inTurn_request {ι : Type} (wanted : ι → Call)
    (result : (item : ι) → (wanted item).Answer → β) (read : Exchange → Option β)
    (reads : ∀ item answer, read ⟨wanted item, answer⟩ = some (result item answer))
    (items : List ι) :
    (inTurn (fun item => do return result item (← request (wanted item))) items).converse
        collaborators said =
      (.ok ((collaborators.interview said (items.map wanted)).filterMap read),
        said ++ collaborators.interview said (items.map wanted)) := by
  induction items generalizing said with
  | nil => simp [inTurn, Collaborators.interview]
  | cons item rest ih =>
      simp [inTurn, Collaborators.interview, converse_bind, ih, reads]

/-- Work that says nothing and does not stop only gives its results. -/
theorem converse_inTurn_silent {ι : Type} {work : ι → Plan β} {result : ι → β}
    (silent : ∀ item said, (work item).converse collaborators said = (.ok (result item), said))
    (items : List ι) :
    (inTurn work items).converse collaborators said = (.ok (items.map result), said) := by
  induction items generalizing said with
  | nil => simp [inTurn]
  | cons item rest ih => simp [inTurn, converse_bind, silent, ih]

/-- Work that does not stop for any item does not stop for all of them, and what is
said is said for some item. -/
theorem converse_inTurn_ok {ι : Type} {work : ι → Plan β} {Said : Exchange → Prop}
    (each : ∀ item said, ∃ result heard,
      (work item).converse collaborators said = (.ok result, said ++ heard) ∧
        ∀ exchange ∈ heard, Said exchange)
    (items : List ι) :
    ∃ results heard,
      (inTurn work items).converse collaborators said = (.ok results, said ++ heard) ∧
        ∀ exchange ∈ heard, Said exchange := by
  induction items generalizing said with
  | nil => exact ⟨[], [], by simp [inTurn], by simp⟩
  | cons item rest ih =>
      obtain ⟨result, first, ended, firstSaid⟩ := each item said
      obtain ⟨results, later, continued, laterSaid⟩ := ih (said ++ first)
      refine ⟨result :: results, first ++ later, ?_, ?_⟩
      · simp [inTurn, converse_bind, ended, continued]
      · intro exchange member
        exact (List.mem_append.mp member).elim (firstSaid exchange) (laterSaid exchange)

end Plan

end TestImpact
