import TestImpact.Proofs.Engine.Conversation

/-!
# Plans that heed a cancellation

A plan heeds a cancellation if it stops as cancelled at the first checkpoint that
tells of it, and if it makes no call but right after a checkpoint. Such a plan makes
no call once it is cancelled. It ends as cancelled when, and only when, a checkpoint
has told it so, and otherwise as if it could not be cancelled at all.
-/

namespace TestImpact

open Plan (Cancellation Moment)

def Plan.Cancellation.Lasting (cancelled : Cancellation) : Prop :=
  ∀ past later, cancelled past = true → cancelled (past ++ later) = true

/-- How a plan went that could be cancelled. -/
structure Course (α : Type) where
  outcome : Except EngineError α
  moments : List Moment
  said : List Exchange

namespace Plan

variable {α β : Type} {checked : Bool}

/-- Carries out a plan that may be cancelled, with collaborators that know nothing of
it, and keeps what happens from some moment on. -/
def course (plan : Plan α) (collaborators : Collaborators) (cancelled : Cancellation)
    (past : List Moment) (said : List Exchange) : Course α :=
  let ended := (plan.run collaborators.recorded cancelled past).run said
  ⟨ended.1.1, ended.1.2.drop past.length, ended.2⟩

section Course

variable (collaborators : Collaborators) (cancelled : Cancellation) (past : List Moment)
  (said : List Exchange)

/-- What happened before stays as it was. -/
theorem exists_run_eq_append (plan : Plan α) :
    ∃ later, ((plan.run collaborators.recorded cancelled past).run said).1.2 =
      past ++ later := by
  induction plan generalizing past said with
  | done value => exact ⟨[], (List.append_nil past).symm⟩
  | stop error => exact ⟨[], (List.append_nil past).symm⟩
  | checkpoint next ih =>
      obtain ⟨later, more⟩ := ih (cancelled (past ++ [.asked])) (past ++ [.asked]) said
      exact ⟨.asked :: later, by rw [run, more, List.append_assoc, List.singleton_append]⟩
  | call request next ih =>
      let answer := collaborators said request
      obtain ⟨later, more⟩ := ih answer (past ++ [.called request]) (said ++ [⟨request, answer⟩])
      refine ⟨.called request :: later, ?_⟩
      rw [← List.singleton_append, ← List.append_assoc]
      exact more

theorem moments_course (plan : Plan α) :
    ((plan.run collaborators.recorded cancelled past).run said).1.2 =
      past ++ (plan.course collaborators cancelled past said).moments := by
  obtain ⟨later, more⟩ := plan.exists_run_eq_append collaborators cancelled past said
  rw [course, more, List.drop_left]

theorem course_done (value : α) :
    (done value).course collaborators cancelled past said = ⟨.ok value, [], said⟩ := by
  rw [course]
  exact congrArg (Course.mk _ · _) List.drop_length

theorem course_pure (value : α) :
    (pure value : Plan α).course collaborators cancelled past said = ⟨.ok value, [], said⟩ :=
  course_done collaborators cancelled past said value

theorem course_stop (error : EngineError) :
    (stop error : Plan α).course collaborators cancelled past said =
      ⟨.error error, [], said⟩ := by
  rw [course]
  exact congrArg (Course.mk _ · _) List.drop_length

theorem course_checkpoint (next : Bool → Plan α) :
    let rest := (next (cancelled (past ++ [.asked]))).course collaborators cancelled
      (past ++ [.asked]) said
    (checkpoint next).course collaborators cancelled past said =
      ⟨rest.outcome, .asked :: rest.moments, rest.said⟩ := by
  intro rest
  rw [course, run, moments_course, List.append_assoc, List.drop_left]
  rfl

theorem course_call (request : Call) (next : request.Answer → Plan α) :
    let answer := collaborators said request
    let rest := (next answer).course collaborators cancelled (past ++ [.called request])
      (said ++ [⟨request, answer⟩])
    (call request next).course collaborators cancelled past said =
      ⟨rest.outcome, .called request :: rest.moments, rest.said⟩ := by
  intro answer rest
  have ran : ((call request next).run collaborators.recorded cancelled past).run said =
      ((next answer).run collaborators.recorded cancelled (past ++ [.called request])).run
        (said ++ [⟨request, answer⟩]) := rfl
  rw [course, ran, moments_course, List.append_assoc, List.drop_left]
  rfl

/-- A composed plan goes on where its first part has ended. -/
theorem course_bind (plan : Plan α) (next : α → Plan β) :
    let first := plan.course collaborators cancelled past said
    (plan >>= next).course collaborators cancelled past said =
      match first.outcome with
      | .ok value =>
          let rest := (next value).course collaborators cancelled (past ++ first.moments) first.said
          ⟨rest.outcome, first.moments ++ rest.moments, rest.said⟩
      | .error error => ⟨.error error, first.moments, first.said⟩ := by
  intro first
  change (plan.andThen next).course collaborators cancelled past said = _
  induction plan generalizing past said with
  | done value =>
      have ended : first = _ := course_done collaborators cancelled past said value
      rw [ended, andThen, List.append_nil]
      rfl
  | stop error =>
      have ended : first = _ := course_stop collaborators cancelled past said error
      rw [ended, andThen, course_stop]
  | checkpoint rest ih =>
      have went : first = _ := course_checkpoint collaborators cancelled past said rest
      rw [went, andThen, course_checkpoint, ih]
      dsimp only
      split <;> simp
  | call request rest ih =>
      have went : first = _ := course_call collaborators cancelled past said request rest
      rw [went, andThen, course_call, ih]
      dsimp only
      split <;> simp

/-- A composed plan that gives a value does so behind a value of its first part. -/
theorem exists_course_of_bind_ok {plan : Plan α} {next : α → Plan β} {result : β}
    (ended : ((plan >>= next).course collaborators cancelled past said).outcome = .ok result) :
    ∃ value moments,
      (plan.course collaborators cancelled past said).outcome = .ok value ∧
      let rest := (next value).course collaborators cancelled (past ++ moments)
        (plan.course collaborators cancelled past said).said
      rest.outcome = .ok result ∧
        ((plan >>= next).course collaborators cancelled past said).said = rest.said := by
  rw [course_bind] at ended ⊢
  dsimp only at ended ⊢
  cases first : (plan.course collaborators cancelled past said).outcome with
  | error error =>
      rw [first] at ended
      cases ended
  | ok value =>
      rw [first] at ended
      exact ⟨value, _, rfl, ended, rfl⟩

end Course

/-- Plans that stop as cancelled when a checkpoint tells them so and for no other reason,
and that make every call right after a checkpoint. The flag says whether one has just
been passed. -/
inductive Heeds : Bool → Plan α → Prop where
  | done {checked : Bool} (value : α) : Heeds checked (.done value)
  | stop {checked : Bool} {error : EngineError} (other : error ≠ .cancelled) :
      Heeds checked (.stop error)
  | checkpoint {checked : Bool} {next : Bool → Plan α} (ends : next true = .stop .cancelled)
      (goesOn : Heeds true (next false)) : Heeds checked (.checkpoint next)
  | call {request : Call} {next : request.Answer → Plan α}
      (goesOn : ∀ answer, Heeds false (next answer)) : Heeds true (.call request next)

namespace Heeds

variable {plan : Plan α}

theorem weaken (heeds : Heeds false plan) : Heeds checked plan := by
  cases heeds with
  | done value => exact .done value
  | stop other => exact .stop other
  | checkpoint ends goesOn => exact .checkpoint ends goesOn

theorem bind {next : α → Plan β} (heeds : Heeds checked plan)
    (rest : ∀ value, Heeds false (next value)) : Heeds checked (plan >>= next) := by
  induction heeds with
  | done value => exact (rest value).weaken
  | stop other => exact .stop other
  | @checkpoint _ following ends goesOn ih =>
      refine .checkpoint ?_ ih
      rw [ends]
      rfl
  | call goesOn ih => exact .call ih

/-- Behind a checkpoint a call may be made. -/
theorem ask_bind {next : Unit → Plan β} (rest : Heeds true (next ())) :
    Heeds checked (ask >>= next) :=
  .checkpoint rfl rest

theorem request (wanted : Call) : Heeds true (Plan.request wanted) :=
  .call fun answer => .done answer

/-- Errors may be looked at, as long as a cancellation is passed on. -/
theorem attempt_bind {next : Except EngineError α → Plan β} (heeds : Heeds checked plan)
    (passedOn : next (.error .cancelled) = .stop .cancelled)
    (succeeded : ∀ value, Heeds false (next (.ok value)))
    (failed : ∀ error, error ≠ .cancelled → Heeds false (next (.error error))) :
    Heeds checked (plan.attempt >>= next) := by
  induction heeds with
  | done value => exact (succeeded value).weaken
  | stop other => exact (failed _ other).weaken
  | @checkpoint _ following ends goesOn ih =>
      refine .checkpoint ?_ ih
      change (following true).attempt.andThen next = _
      rw [ends]
      exact passedOn
  | call goesOn ih => exact .call ih

theorem inTurn {work : α → Plan β} (each : ∀ item, Heeds true (work item)) (items : List α) :
    Heeds checked (inTurn work items) := by
  induction items generalizing checked with
  | nil => exact .done []
  | cons item rest ih =>
      refine ask_bind ((each item).bind fun result => ?_)
      exact ih.bind fun results => .done (result :: results)

section Course

variable {collaborators : Collaborators} {cancelled : Cancellation} {past before after : List Moment}
  {said : List Exchange}

/-- While a call is made the plan is not cancelled: the checkpoint before it has told so. -/
theorem not_cancelled_of_called (heeds : Heeds checked plan)
    (told : checked = true → cancelled past = false) {request : Call}
    (made : (plan.course collaborators cancelled past said).moments =
      before ++ .called request :: after) : cancelled (past ++ before) = false := by
  induction heeds generalizing past said before with
  | done value =>
      rw [course_done] at made
      simp at made
  | stop other =>
      rw [course_stop] at made
      simp at made
  | @checkpoint _ next ends goesOn ih =>
      rw [course_checkpoint] at made
      cases before with
      | nil => simp at made
      | cons first before =>
          obtain ⟨rfl, later⟩ := List.cons.inj made
          rw [← List.singleton_append, ← List.append_assoc]
          cases seen : cancelled (past ++ [.asked]) with
          | true =>
              rw [seen, ends, course_stop] at later
              simp at later
          | false =>
              rw [seen] at later
              exact ih (fun _ => seen) later
  | call goesOn ih =>
      rw [course_call] at made
      cases before with
      | nil =>
          rw [List.append_nil]
          exact told rfl
      | cons first before =>
          obtain ⟨rfl, later⟩ := List.cons.inj made
          rw [← List.singleton_append, ← List.append_assoc]
          exact ih _ (fun unchecked => absurd unchecked Bool.false_ne_true) later

/-- A cancellation that a checkpoint tells of ends the plan there. -/
theorem ends_of_seen (heeds : Heeds checked plan)
    (asked : (plan.course collaborators cancelled past said).moments = before ++ .asked :: after)
    (seen : cancelled (past ++ before ++ [.asked]) = true) :
    (plan.course collaborators cancelled past said).outcome = .error .cancelled ∧ after = [] := by
  induction heeds generalizing past said before with
  | done value =>
      rw [course_done] at asked
      simp at asked
  | stop other =>
      rw [course_stop] at asked
      simp at asked
  | @checkpoint _ next ends goesOn ih =>
      rw [course_checkpoint] at asked ⊢
      cases before with
      | nil =>
          obtain ⟨_, later⟩ := List.cons.inj asked
          rw [List.append_nil] at seen
          rw [seen, ends, course_stop] at later ⊢
          exact ⟨rfl, later.symm⟩
      | cons first before =>
          obtain ⟨rfl, later⟩ := List.cons.inj asked
          rw [← List.singleton_append, ← List.append_assoc] at seen
          cases sooner : cancelled (past ++ [.asked]) with
          | true =>
              rw [sooner, ends, course_stop] at later
              simp at later
          | false =>
              rw [sooner] at later
              exact ih later seen
  | call goesOn ih =>
      rw [course_call] at asked ⊢
      cases before with
      | nil => simp at asked
      | cons first before =>
          obtain ⟨rfl, later⟩ := List.cons.inj asked
          rw [← List.singleton_append, ← List.append_assoc] at seen
          exact ih _ later seen

/-- A plan that ends as cancelled has been told so by the checkpoint that it ends at. -/
theorem seen_of_cancelled (heeds : Heeds checked plan)
    (ended : (plan.course collaborators cancelled past said).outcome = .error .cancelled) :
    ∃ before, (plan.course collaborators cancelled past said).moments = before ++ [.asked] ∧
      cancelled (past ++ before ++ [.asked]) = true := by
  induction heeds generalizing past said with
  | done value =>
      rw [course_done] at ended
      cases ended
  | stop other =>
      rw [course_stop] at ended
      exact absurd (Except.error.inj ended) other
  | @checkpoint _ next ends goesOn ih =>
      rw [course_checkpoint] at ended ⊢
      cases seen : cancelled (past ++ [.asked]) with
      | true =>
          refine ⟨[], ?_, ?_⟩
          · rw [ends, course_stop]
            rfl
          · rw [List.append_nil, seen]
      | false =>
          rw [seen] at ended
          obtain ⟨before, last, told⟩ := ih ended
          refine ⟨.asked :: before, ?_, ?_⟩
          · rw [last, List.cons_append]
          · rw [← List.singleton_append, ← List.append_assoc]
            exact told
  | @call request next goesOn ih =>
      rw [course_call] at ended ⊢
      obtain ⟨before, last, told⟩ := ih _ ended
      refine ⟨.called request :: before, ?_, ?_⟩
      · rw [last, List.cons_append]
      · rw [← List.singleton_append, ← List.append_assoc]
        exact told

/-- A plan ends as cancelled, or as if it could not be cancelled. -/
theorem cancelled_or_eq_converse (heeds : Heeds checked plan) :
    (plan.course collaborators cancelled past said).outcome = .error .cancelled ∨
      plan.converse collaborators said =
        ((plan.course collaborators cancelled past said).outcome,
          (plan.course collaborators cancelled past said).said) := by
  induction heeds generalizing past said with
  | done value => exact .inr (by rw [course_done, converse_done])
  | stop other => exact .inr (by rw [course_stop, converse_stop])
  | @checkpoint _ next ends goesOn ih =>
      rw [course_checkpoint, converse_checkpoint]
      cases seen : cancelled (past ++ [.asked]) with
      | true =>
          left
          rw [ends, course_stop]
      | false => exact ih
  | call goesOn ih =>
      rw [course_call, converse_call]
      exact ih _

end Course

end Heeds

/-- A plan that gives a value gives what it gives without a cancellation. -/
theorem Heeds.converse_eq_ok {plan : Plan α} (heeds : Heeds checked plan)
    {collaborators : Collaborators} {cancelled : Cancellation} {past : List Moment}
    {said : List Exchange} {value : α}
    (ended : (plan.course collaborators cancelled past said).outcome = .ok value) :
    plan.converse collaborators said =
      (.ok value, (plan.course collaborators cancelled past said).said) := by
  rcases heeds.cancelled_or_eq_converse with stopped | same
  · rw [ended] at stopped
    cases stopped
  · rw [same, ended]

/-- What a cancellation does to a plan that may be cancelled at any moment. -/
structure Withstands (plan : Plan α) (collaborators : Collaborators)
    (cancelled : Cancellation) : Prop where
  /-- Once the plan is cancelled, no call starts. -/
  silent : ∀ before after,
    (plan.course collaborators cancelled [] []).moments = before ++ after →
      cancelled before = true → calls after = []
  /-- A result that is given is the result of the plan that is never cancelled. -/
  whole : ∀ value, (plan.course collaborators cancelled [] []).outcome = .ok value →
    (plan.converse collaborators []).1 = .ok value
  /-- So is every error but the cancellation. -/
  refused : ∀ error, (plan.course collaborators cancelled [] []).outcome = .error error →
    error ≠ .cancelled → (plan.converse collaborators []).1 = .error error
  /-- A cancellation that a checkpoint tells of is what the plan ends with, there. -/
  ends : ∀ before after,
    (plan.course collaborators cancelled [] []).moments = before ++ .asked :: after →
      cancelled (before ++ [.asked]) = true →
        (plan.course collaborators cancelled [] []).outcome = .error .cancelled ∧ after = []
  /-- Nothing else ends the plan as cancelled. -/
  told : (plan.course collaborators cancelled [] []).outcome = .error .cancelled →
    ∃ before, (plan.course collaborators cancelled [] []).moments = before ++ [.asked] ∧
      cancelled (before ++ [.asked]) = true

theorem exists_call_of_calls_ne_nil {moments : List Moment} (something : calls moments ≠ []) :
    ∃ before request after, moments = before ++ .called request :: after := by
  obtain ⟨request, member⟩ := List.exists_mem_of_ne_nil _ something
  obtain ⟨moment, happened, made⟩ := List.mem_filterMap.mp member
  cases moment with
  | asked => cases made
  | called request =>
      obtain ⟨before, after, split⟩ := List.append_of_mem happened
      exact ⟨before, request, after, split⟩

/-- Plans that heed a cancellation withstand it. -/
theorem Heeds.withstands {plan : Plan α} (heeds : Heeds false plan)
    (collaborators : Collaborators) {cancelled : Cancellation} (lasting : cancelled.Lasting) :
    plan.Withstands collaborators cancelled where
  silent := by
    intro before after moments already
    refine Decidable.byContradiction fun something => ?_
    obtain ⟨between, request, rest, rfl⟩ := exists_call_of_calls_ne_nil something
    rw [← List.append_assoc] at moments
    have going : cancelled ([] ++ (before ++ between)) = false :=
      heeds.not_cancelled_of_called (fun unchecked => absurd unchecked Bool.false_ne_true) moments
    rw [List.nil_append, lasting before between already] at going
    exact Bool.false_ne_true going.symm
  whole := by
    intro value ended
    rcases heeds.cancelled_or_eq_converse with stopped | same
    · rw [ended] at stopped
      cases stopped
    · rw [same]
      exact ended
  refused := by
    intro error ended other
    rcases heeds.cancelled_or_eq_converse with stopped | same
    · rw [ended] at stopped
      exact absurd (Except.error.inj stopped) other
    · rw [same]
      exact ended
  ends := fun _ _ asked seen => heeds.ends_of_seen asked seen
  told := fun ended => heeds.seen_of_cancelled ended

end Plan

end TestImpact
