import TestImpact.Proofs.Engine.Heeding

/-!
# Plans that keep to permitted calls

Which calls a plan can make is told by the plan alone. If each of them is permitted,
whatever the checkpoints tell and the collaborators answer, then no run of the plan makes
another, wherever it is cancelled. Collaborators that differ only beyond these calls
cannot be told apart by such a plan.
-/

namespace TestImpact.Plan

variable {α β : Type} {permitted : Call → Prop}

/-- Plans all of whose calls are permitted. -/
inductive KeepsTo (permitted : Call → Prop) : Plan α → Prop where
  | done (value : α) : KeepsTo permitted (.done value)
  | stop (error : EngineError) : KeepsTo permitted (.stop error)
  | checkpoint {next : Bool → Plan α} (goesOn : ∀ cancelled, KeepsTo permitted (next cancelled)) :
      KeepsTo permitted (.checkpoint next)
  | call {request : Call} {next : request.Answer → Plan α} (allowed : permitted request)
      (goesOn : ∀ answer, KeepsTo permitted (next answer)) : KeepsTo permitted (.call request next)

namespace KeepsTo

variable {plan : Plan α}

theorem mono {wider : Call → Prop} (keeps : KeepsTo permitted plan)
    (widens : ∀ call, permitted call → wider call) : KeepsTo wider plan := by
  induction keeps with
  | done value => exact .done value
  | stop error => exact .stop error
  | checkpoint goesOn ih => exact .checkpoint ih
  | call allowed goesOn ih => exact .call (widens _ allowed) ih

theorem bind {next : α → Plan β} (keeps : KeepsTo permitted plan)
    (rest : ∀ value, KeepsTo permitted (next value)) : KeepsTo permitted (plan >>= next) := by
  induction keeps with
  | done value => exact rest value
  | stop error => exact .stop error
  | checkpoint goesOn ih => exact .checkpoint ih
  | call allowed goesOn ih => exact .call allowed ih

theorem attempt (keeps : KeepsTo permitted plan) : KeepsTo permitted plan.attempt := by
  induction keeps with
  | done value => exact .done (Except.ok value)
  | stop error => exact .done (Except.error error)
  | checkpoint goesOn ih => exact .checkpoint ih
  | call allowed goesOn ih => exact .call allowed ih

theorem ask : KeepsTo permitted Plan.ask := by
  refine .checkpoint fun cancelled => ?_
  cases cancelled with
  | true => exact .stop .cancelled
  | false => exact .done ()

theorem request {wanted : Call} (allowed : permitted wanted) :
    KeepsTo permitted (Plan.request wanted) :=
  .call allowed .done

/-- Behind a value that is there, that value is known. -/
theorem take_bind {value? : Except EngineError α} {next : α → Plan β}
    (rest : ∀ value, value? = .ok value → KeepsTo permitted (next value)) :
    KeepsTo permitted (take value? >>= next) := by
  cases value? with
  | ok value => exact rest value rfl
  | error error => exact .stop error

theorem inTurn {work : α → Plan β} {items : List α}
    (each : ∀ item ∈ items, KeepsTo permitted (work item)) :
    KeepsTo permitted (Plan.inTurn work items) := by
  induction items with
  | nil => exact .done []
  | cons item rest ih =>
      obtain ⟨first, later⟩ := List.forall_mem_cons.mp each
      refine ask.bind fun _ => first.bind fun result => ?_
      exact (ih later).bind fun results => .done (result :: results)

/-- Work that makes one call for each item keeps to permitted calls if all these are. -/
theorem inTurn_request {wanted : α → Call} {result : (item : α) → (wanted item).Answer → β}
    {items : List α} (each : ∀ item ∈ items, permitted (wanted item)) :
    KeepsTo permitted (Plan.inTurn
      (fun item => do return result item (← Plan.request (wanted item))) items) :=
  inTurn fun item member => (request (each item member)).bind fun _ => .done _

/-- However a plan goes, it makes no call that is not permitted. -/
theorem permitted_of_mem_calls {collaborators : Collaborators} {cancelled : Cancellation}
    {past : List Moment} {said : List Exchange} (keeps : KeepsTo permitted plan) {made : Call}
    (member : made ∈ calls (plan.course collaborators cancelled past said).moments) :
    permitted made := by
  induction keeps generalizing past said with
  | done value =>
      rw [course_done] at member
      cases member
  | stop error =>
      rw [course_stop] at member
      cases member
  | checkpoint goesOn ih =>
      rw [course_checkpoint] at member
      exact ih _ member
  | call allowed goesOn ih =>
      rw [course_call] at member
      rcases List.mem_cons.mp member with rfl | later
      · exact allowed
      · exact ih _ later

/-- Answers that agree on the permitted calls make the same of the plan. -/
theorem run_congr {m : Type → Type} [Monad m] {first second : Answers m}
    (keeps : KeepsTo permitted plan) (agree : ∀ call, permitted call → first call = second call)
    (cancelled : Cancellation) (past : List Moment) :
    plan.run first cancelled past = plan.run second cancelled past := by
  induction keeps generalizing past with
  | done value => rfl
  | stop error => rfl
  | checkpoint goesOn ih => exact ih _ _
  | @call request next allowed goesOn ih =>
      rw [run, run, agree request allowed]
      exact congrArg (second request >>= ·) (funext fun answer => ih answer _)

end KeepsTo

section Run

variable {m : Type → Type} [Monad m] (answers : Answers m) (cancelled : Cancellation)
  (past : List Moment)

theorem run_pure (value : α) :
    (pure value : Plan α).run answers cancelled past = pure (.ok value, past) := rfl

theorem run_ask_bind (next : Unit → Plan β) :
    (Plan.ask >>= next).run answers cancelled past =
      if cancelled (past ++ [.asked]) then pure (.error .cancelled, past ++ [.asked])
      else (next ()).run answers cancelled (past ++ [.asked]) := by
  change ((if cancelled (past ++ [.asked]) then stop .cancelled else done ()).andThen next).run
    answers cancelled (past ++ [.asked]) = _
  split <;> rfl

theorem run_request_bind (wanted : Call) (next : wanted.Answer → Plan β) :
    (Plan.request wanted >>= next).run answers cancelled past =
      answers wanted >>= fun answer =>
        (next answer).run answers cancelled (past ++ [.called wanted]) := rfl

/-- A composed plan is carried out by carrying out its parts, whoever answers. -/
theorem run_bind [LawfulMonad m] (plan : Plan α) (next : α → Plan β) :
    (plan >>= next).run answers cancelled past =
      plan.run answers cancelled past >>= fun ended =>
        match ended.1 with
        | .ok value => (next value).run answers cancelled ended.2
        | .error error => pure (.error error, ended.2) := by
  change (plan.andThen next).run answers cancelled past = _
  induction plan generalizing past with
  | done value => rw [run, pure_bind, andThen]
  | stop error => rw [run, pure_bind, andThen, run]
  | checkpoint rest ih => exact ih _ _
  | call request rest ih =>
      rw [andThen, run, run, bind_assoc]
      exact congrArg (answers request >>= ·) (funext fun answer => ih answer _)

end Run

end TestImpact.Plan
