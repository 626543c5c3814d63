import ApiSurface.Proofs.Tracker.Loops
import ApiSurface.Proofs.Tracker.Recovery

/-!
# Containment of failures

Whatever fails while a watch event is handled, at a tick, or in a full rescan is reported
and goes no further, and so is whatever breaks a watch stream off, with one exception: a
refusal whose status cannot be looked up cannot be told from a denial, and the watch fails
over it. However an operation ends, the lock is free and no watch is open afterwards.
-/

namespace ApiSurface

/-- Whether the status of a fault can be looked up, if it has one. -/
def Fault.isLegible : Fault → Bool
  | .refused status _ => status.isLookupKey
  | _ => true

namespace Tracker

/-- A stream that breaks off, if it does, with a fault whose status can be looked up. -/
def Stream.Legible {τ : Type} (stream : Stream τ) : Prop :=
  ∀ fault, stream.refusal = some fault ∨ stream.ending = some fault → fault.isLegible = true

/-- A failed stream cannot be reported exactly if the status of its fault cannot be looked up. -/
theorem watchFailure_eq_error_iff {fault : Fault} {kind : Misuse} :
    watchFailure fault = .error kind ↔ fault.isLegible = false ∧ kind = .wrongType := by
  cases fault with
  | refused status reason =>
    cases legible : status.isLookupKey with
    | true =>
      cases denied : (status.same (.int 401) || status.same (.int 403)) <;>
        simp [watchFailure, deniesAccess, Fault.isLegible, legible, denied, Bind.bind, Except.bind]
    | false =>
      simp [watchFailure, deniesAccess, Fault.isLegible, legible, Bind.bind, Except.bind, eq_comm]
  | _ => simp [watchFailure, Fault.isLegible]

variable {τ : Type} [Scalar τ] {ctx : Context τ} {stop : Signal} {given : Option Signal}
variable {w after : World τ}

/-! ## What always returns -/

/-- Asking for a rebuild through the limiter returns, and tells whether it was let through. -/
theorem trigger_returns (ctx : Context τ) (given : Option Signal) (w : World τ) :
    (trigger ctx given w).1 = .ok (w.tracker.limiter.admits w.clock) := by
  have asked : askLimiter w = (.ok (w.tracker.limiter.admits w.clock), w.asked) :=
    askLimiter_apply w
  rw [trigger, Op.bind_of_ok asked]
  cases w.tracker.limiter.admits w.clock with
  | false => rfl
  | true =>
    obtain ⟨ended, returns⟩ := collectAndNotify_returns ctx given w.asked
    exact congrArg Prod.fst (Op.bind_of_ok (Prod.ext returns rfl))

/-- Handling an event returns, and tells whether it asked for a rebuild. -/
theorem handleEvent_returns (ctx : Context τ) (event : CrdEvent) (given : Option Signal)
    (w : World τ) :
    (handleEvent ctx event given w).1 =
      .ok (!decide (w.tracker.Repeats event) && !decide event.HeldBack) := by
  by_cases repeats : w.tracker.Repeats event
  · rw [handleEvent_of_repeats repeats, decide_eq_true repeats]
    rfl
  rw [handleEvent_of_news repeats, decide_eq_false repeats]
  by_cases held : event.HeldBack
  · rw [answerEvent_of_heldBack held, decide_eq_true held]
    rfl
  · rw [answerEvent_of_change held, decide_eq_false held]
    exact congrArg Prod.fst (Op.bind_of_ok (Prod.ext (trigger_returns ..) rfl))

omit [Scalar τ] in
theorem fullRescan_returns (ctx : Context τ) (given : Option Signal) (w : World τ) :
    ∃ outcome, (fullRescan ctx given w).1 = .ok outcome := by
  obtain ⟨same, _⟩ := fullRescan_spec ctx given w
  rw [same]
  exact collectAndNotify_returns ..

/-! ## Watching through one stream -/

/-- Reading a stream fails only as the stream breaks off, or over an event that is no object. -/
theorem readStream_fails {ending : Option Fault} {items : List (StreamItem τ)} {fault : Fault}
    (fails : (readStream ctx stop ending items w).1 = .error fault) :
    ending = some fault ∨ ∃ kind, fault = .misuse kind := by
  induction items generalizing w with
  | nil =>
    cases ending with
    | some cause =>
      cases fails
      exact .inl rfl
    | none => cases fails
  | cons item rest ih =>
    cases item with
    | action action => exact ih fails
    | event raw =>
      rw [readStream, Op.bind_of_ok (Context.stopSet_apply stop w)] at fails
      cases set : w.isSet stop with
      | true =>
        rw [set] at fails
        cases fails
      | false =>
        rw [set, if_neg Bool.false_ne_true] at fails
        cases decoded : WatchEvent.decode raw with
        | error why =>
          rw [decoded] at fails
          cases why with
          | misuse kind =>
            cases fails
            exact .inr ⟨kind, rfl⟩
          | malformed why => exact ih fails
        | ok event =>
          rw [decoded] at fails
          cases event with
          | error status => cases fails
          | change event =>
            dsimp only at fails
            have handled := handleEvent_returns ctx event (some stop)
              { w with journal := .decoded (.change event) :: w.journal }
            rw [Op.bind_of_ok (Op.record_apply ..), Op.bind_of_ok (Prod.ext handled rfl)] at fails
            exact ih fails

/-- A stream fails with a status that cannot be looked up only if it broke off so. -/
theorem openStream_fails {fault : Fault} (fails : (openStream ctx stop w).1 = .error fault)
    (illegible : fault.isLegible = false) : ¬ (ctx.around.stream w.opened.journal).Legible := by
  intro legible
  have broke : ∀ {cause : Fault}, fault = cause →
      (ctx.around.stream w.opened.journal).refusal = some cause ∨
        (ctx.around.stream w.opened.journal).ending = some cause → False := by
    rintro _ rfl broke
    cases (legible fault broke).symm.trans illegible
  rw [openStream_apply] at fails
  cases refusal : (ctx.around.stream w.opened.journal).refusal with
  | some cause =>
    rw [refusal] at fails
    exact broke (Except.error.inj fails).symm (.inl refusal)
  | none =>
    rw [refusal] at fails
    rcases readStream_fails fails with ending | ⟨kind, rfl⟩
    · exact broke rfl (.inr ending)
    · cases illegible

omit [Scalar τ] in
/-- Reporting that a stream failed comes to whether its fault can be reported. -/
theorem reportWatchFailure_result (fault : Fault) (w : World τ) :
    (reportWatchFailure fault w).1 =
      match watchFailure fault with
      | .ok _ => .ok false
      | .error kind => .error (.misuse kind) := by
  have counted : Op.count .watchErrors w =
      (.ok (), { w with journal := .counted .watchErrors :: w.journal }) := rfl
  rw [reportWatchFailure, Op.bind_of_ok counted]
  cases watchFailure fault <;> rfl

/-- Following a stream fails exactly where the stream fails with a status that cannot be looked
up. -/
theorem followStream_fails_iff {fault : Fault} :
    (followStream ctx stop w).1 = .error fault ↔
      fault = .misuse .wrongType ∧
        ∃ cause, (openStream ctx stop w).1 = .error cause ∧ cause.isLegible = false := by
  rw [followStream, Op.bind_apply, Op.attempt_apply]
  cases (openStream ctx stop w).1 with
  | ok healthy => simp [Op.pure_apply]
  | error cause =>
    dsimp only
    rw [reportWatchFailure_result]
    cases reported : watchFailure cause with
    | ok entry =>
      have legible : cause.isLegible ≠ false := fun illegible => by
        cases reported.symm.trans (watchFailure_eq_error_iff.mpr ⟨illegible, rfl⟩)
      simp [legible]
    | error kind =>
      obtain ⟨illegible, rfl⟩ := watchFailure_eq_error_iff.mp reported
      constructor
      · rintro ⟨⟩
        exact ⟨rfl, cause, rfl, illegible⟩
      · rintro ⟨rfl, _⟩
        rfl

/-- A watch fails exactly where it opens a stream that fails with a status that cannot be looked
up. -/
theorem watchOnce_fails_iff {fault : Fault} :
    (watchOnce ctx stop w).1 = .error fault ↔
      w.isSet stop = false ∧ fault = .misuse .wrongType ∧
        ∃ cause, (openStream ctx stop w.watched).1 = .error cause ∧ cause.isLegible = false := by
  cases set : w.isSet stop with
  | true => simp [watchOnce_of_set set]
  | false => simp [watchOnce_of_unset ctx set, followStream_fails_iff]

/-! ## What steps leave alone -/

/-- All kinds of steps but one. -/
def Kind.except (kind : Kind) : Set Kind := { other | other ≠ kind }

section Steps

variable {heeded : Option Signal} {kind : Kind}

/-- Only a watch is opened or closed by a step of watching. -/
theorem Step.watching_same (among : kind ∈ Kind.except .watch) (step : Step heeded kind w after) :
    after.tracker.watching = w.tracker.watching := by
  cases step with
  | attempted | attemptedInVain | dropped =>
    change w.asked.tracker.watching = w.tracker.watching
    rw [w.asked_tracker]
  | watching | streamCounted | opened => cases among rfl
  | _ => rfl

end Steps

/-! ## At rest -/

/-- No rebuild holds the lock, and no watch is open. -/
structure World.AtRest (w : World τ) : Prop where
  free : w.tracker.rebuilding = false
  unwatched : w.tracker.watching = false

/-- What gives back the lock and takes no step of watching leaves the world at rest. -/
theorem World.AtRest.later (rest : w.AtRest) (advances : Advances w after)
    (proceeds : Proceeds none (Kind.except .watch) w after) : after.AtRest where
  free := advances.lock.trans rest.free
  unwatched := by
    exact (proceeds nofun).keeps (fun w => w.tracker.watching = false)
      (fun among step unwatched => (step.watching_same among).trans unwatched) rest.unwatched

section Nested

variable (around : Surroundings τ) (outer : Option Signal) (depth : Nat)

/-- Calls back take no step of watching. -/
theorem Context.nested_unwatching :
    (Context.nested around outer depth).Stepwise none (Kind.except .watch) :=
  Context.nested_stepwise around depth nofun nofun

/-- Watching again and again leaves no watch open. -/
theorem watchForever_unwatched (unwatched : w.tracker.watching = false) (stop : Signal)
    (rounds : Nat) (draws : Draws τ) :
    (watchForever (Context.nested around outer depth) stop rounds draws w).2.tracker.watching =
      false := by
  have stepwise := Context.nested_unwatching around outer depth
  have acts : ∀ action w, Keeps (fun w : World τ => w.tracker.watching = false) w
      ((Context.nested around outer depth).act action w) := fun action w =>
    (stepwise.acts action w nofun).keeps _
      fun among step unwatched => (step.watching_same among).trans unwatched
  have watches : (watchOnce (Context.nested around outer depth) stop).Moves
      (Keeps fun w : World τ => w.tracker.watching = false) :=
    fun w _ => watchOnce_unwatched _ stop w
  have waits : ∀ delay, ((Context.nested around outer depth).wait (.waited delay) delay stop).Moves
      (Keeps fun w : World τ => w.tracker.watching = false) := fun delay =>
    Context.wait_moves fun w => Op.Moves.takeActions acts _
      { w with clock := w.clock + delay, journal := .waited delay :: w.journal }
  exact watchForever_moves watches waits (fun _ unwatched => unwatched) rounds draws w unwatched

/-- A watch leaves the world at rest, also where it fails. -/
theorem World.AtRest.watchOnce (rest : w.AtRest) (stop : Signal) :
    (Tracker.watchOnce (Context.nested around outer depth) stop w).2.AtRest where
  free := ((Context.nested_advances around outer depth).watchOnce stop w).lock.trans rest.free
  unwatched := watchOnce_unwatched ..

/-- So does every loop. -/
theorem World.AtRest.loop (rest : w.AtRest) (stop : Signal) (draws : Draws τ) (rounds : Nat)
    (loop : Loop) :
    (loop.run (Context.nested around outer depth) stop draws rounds w).2.AtRest := by
  have lawful := Context.nested_advances around outer depth
  have stepwise := Context.nested_unwatching around outer depth
  cases loop with
  | watch =>
    exact ⟨(lawful.watchForever stop rounds draws w).lock.trans rest.free,
      watchForever_unwatched around outer depth rest.unwatched stop rounds draws⟩
  | collection =>
    exact rest.later (lawful.collectPeriodically stop rounds w)
      (stepwise.collectPeriodically nofun (fun _ => nofun) rounds w)
  | fullRescan =>
    exact rest.later (lawful.rescanPeriodically stop rounds w)
      (stepwise.rescanPeriodically nofun (fun _ => nofun) nofun rounds w)

end Nested

/-- Between the operations of a run every world is at rest. -/
theorem Reachable.atRest {settings : Settings τ} (reachable : Reachable settings w) : w.AtRest := by
  refine ⟨reachable.consistent.2, ?_⟩
  induction reachable with
  | created made =>
    obtain ⟨_, _, rfl⟩ := World.create_eq_ok_iff.mp made
    rfl
  | @performed before prior request unwatched =>
    obtain ⟨around, outer, depth, operation⟩ := request
    have stepwise := Context.nested_unwatching around outer depth
    have lawful := Context.nested_lawful around outer depth
    have others : operation.isWatch = false →
        (operation.effect (Context.nested around outer depth) before).2.tracker.watching =
          false := by
      intro watches
      have proceeds := stepwise.effect lawful operation (fun _ => id) (by simp [watches])
        prior.consistent.2
      exact (proceeds nofun).keeps (fun w => w.tracker.watching = false)
        (fun among step unwatched => (step.watching_same among).trans unwatched) unwatched
    change (operation.effect (Context.nested around outer depth) before).2.tracker.watching = false
    cases operation with
    | watchOnce =>
      rw [Operation.effect, Op.bind_of_ok (stopOr_apply ..), Op.bind_pure_after]
      exact watchOnce_unwatched ..
    | watchForever rounds draws =>
      rw [Operation.effect, Op.bind_of_ok (stopOr_apply ..), Op.bind_pure_after]
      exact watchForever_unwatched around outer depth unwatched _ rounds draws
    | _ => exact others rfl

/-! ## Loops that go on -/

/-- What a turn of a loop is known by in the journal. -/
def Loop.marks : Loop → Entry τ → Bool
  | watch, .openedStream _ => true
  | collection, .asked _ _ => true
  | fullRescan, .logged entry =>
    entry == ⟨.info, "Performing full rescan to account for missed events"⟩
  | _, _ => false

/-- The number of turns that a loop has taken at least, by the journal. -/
def Loop.turnsIn (loop : Loop) (journal : Journal τ) : Nat := journal.countP loop.marks

omit [Scalar τ] in
theorem Loop.turnsIn_lt {loop : Loop} {entry : Entry τ} {earlier later : Journal τ}
    (marks : loop.marks entry = true) (since : entry :: earlier <:+ later) :
    loop.turnsIn earlier < loop.turnsIn later :=
  calc loop.turnsIn earlier
      < loop.turnsIn (entry :: earlier) := by simp [turnsIn, marks]
    _ ≤ loop.turnsIn later := since.sublist.countP_le

section Loops

variable {loop : Loop} {draws : Draws τ} {rounds : Nat}

/-- A watch that finds no stop set opens a stream. -/
theorem watchOnce_opens (lawful : ctx.Lawful Advances) (unset : w.isSet stop = false) :
    w.watched.opened.journal <:+ (watchOnce ctx stop w).2.journal := by
  have opened : w.watched.opened.journal <:+ (openStream ctx stop w.watched).2.journal := by
    rw [openStream_apply]
    cases (ctx.around.stream w.watched.opened.journal).refusal with
    | some fault => exact List.suffix_refl _
    | none =>
      have read : Advances _ _ := lawful.readStream stop
        (ctx.around.stream w.watched.opened.journal).ending
        (ctx.around.stream w.watched.opened.journal).items
        (w.watched.opened.reported "Starting CRD watch")
      exact (List.suffix_cons ..).trans read.journal
  have followed : w.watched.opened.journal <:+ (followStream ctx stop w.watched).2.journal := by
    rw [followStream, Op.bind_apply, Op.attempt_apply]
    cases (openStream ctx stop w.watched).1 with
    | ok healthy => exact opened
    | error fault =>
      have reported : Advances _ _ :=
        reportWatchFailure_moves fault (openStream ctx stop w.watched).2
      exact opened.trans reported.journal
  rw [watchOnce_of_unset ctx unset]
  exact followed.trans (List.suffix_cons ..)

/-- Every turn that is taken shows in the journal. -/
theorem Loop.turn_marked (lawful : ctx.Lawful Advances)
    (unset : loop = .watch → w.isSet stop = false) :
    loop.turnsIn w.journal < loop.turnsIn (loop.turn ctx stop w).2.journal := by
  cases loop with
  | watch =>
    have counted : w.journal <:+ w.watched.journal := by
      unfold World.watched World.streamCounted
      dsimp only
      split
      · exact List.suffix_cons ..
      · exact List.suffix_refl _
    exact Nat.lt_of_le_of_lt counted.sublist.countP_le
      (turnsIn_lt rfl (watchOnce_opens lawful (unset rfl)))
  | collection =>
    have asked : askLimiter w = (.ok (w.tracker.limiter.admits w.clock), w.asked) :=
      askLimiter_apply w
    have since : w.asked.journal <:+ (trigger ctx (some stop) w).2.journal := by
      rw [trigger, Op.bind_of_ok asked]
      cases w.tracker.limiter.admits w.clock with
      | false => exact List.suffix_cons ..
      | true =>
        have collected : Advances _ _ := lawful.collects (some stop) w.asked
        rw [if_pos rfl, Op.bind_pure_after]
        exact collected.journal
    exact turnsIn_lt rfl since
  | fullRescan =>
    have refreshed : Advances w.announced (w.refreshed ctx) := lawful.refreshOrReport w.announced
    obtain ⟨_, reported⟩ := fullRescan_spec ctx (some stop) w
    have collected : Advances (w.refreshed ctx) _ :=
      lawful.collects (some ((w.refreshed ctx).tracker.stopOr (some stop))) (w.refreshed ctx)
    have since := (refreshed.trans (collected.trans reported.quiet.toAdvances)).journal
    rw [turn, Op.bind_pure_after]
    exact turnsIn_lt (beq_self_eq_true _) since

/-- Tickers do not fail in a turn. -/
theorem Loop.turn_returns (ticks : loop ≠ .watch) (w : World τ) :
    ((loop.turn ctx stop >>= fun _ => pure () : Op τ Unit) w).1 = .ok () := by
  cases loop with
  | watch => exact absurd rfl ticks
  | collection =>
    rw [turn, Op.bind_of_ok (Prod.ext (trigger_returns ctx (some stop) w) rfl)]
    rfl
  | fullRescan =>
    obtain ⟨outcome, returns⟩ := fullRescan_returns ctx (some stop) w
    have turned : Loop.turn ctx stop .fullRescan w =
        (.ok outcome.isSome, (Tracker.fullRescan ctx (some stop) w).2) :=
      Op.bind_of_ok (Prod.ext returns rfl)
    rw [Op.bind_of_ok turned]
    rfl

/-- How a loop fails that cannot wait: a wait of a length that it may come to is too long to be
made, and no stop is set. -/
structure Context.CannotWait (ctx : Context τ) (stop : Signal) (lengths : Set τ) (fault : Fault)
    (after : World τ) : Prop where
  cause : fault = .misuse .outOfRange
  unset : after.isSet stop = false
  overlong : ∃ length ∈ lengths, ctx.around.overlong length = true

/-- A loop fails only where a watch does, or where it cannot wait. -/
theorem Loop.run_failed {fault : Fault}
    (failed : loop.run ctx stop draws rounds w = (.error fault, after)) :
    (loop = .watch ∧ ∃ before, before.isSet stop = false ∧
      watchOnce ctx stop before = (.error fault, after)) ∨
    ctx.CannotWait stop (loop.lengths w.tracker.settings draws) fault after := by
  rcases run_course ctx stop draws rounds loop w with
    ⟨run, rfl, course, ran⟩ | ⟨interval, result, last, ticker, paces, ticks, ran⟩
  · obtain ⟨ended, rfl⟩ := Prod.mk.inj (ending_eq_error (ran.symm.trans failed))
    rcases Retry.Ending.result_eq_error ended with calls | waits
    · obtain ⟨before, call⟩ := course.failed_call calls
      exact .inl ⟨rfl, before, (watchOnce_fails_iff.mp (congrArg Prod.fst call)).1, call⟩
    · obtain ⟨results, before, wait⟩ := course.failed_wait waits
      obtain ⟨cause, unset, overlong⟩ := Context.wait_failed wait
      exact .inr ⟨cause, unset, _, Set.mem_range_self results, overlong⟩
  · obtain ⟨rfl, rfl⟩ := Prod.mk.inj (ending_eq_error (ran.symm.trans failed))
    obtain ⟨before, wait⟩ := ticks.failed_wait rfl (turn_returns ticker)
    obtain ⟨cause, unset, overlong⟩ := Context.wait_failed wait
    exact .inr ⟨cause, unset, _, mem_lengths paces, overlong⟩

/-- A loop that is still going has taken a turn in every round. -/
theorem Loop.run_going (lawful : ctx.Lawful Advances)
    (going : loop.run ctx stop draws rounds w = (.ok false, after)) :
    loop.turnsIn w.journal + rounds ≤ loop.turnsIn after.journal := by
  have waited : ∀ {entry : Entry τ}, entry.isPlain = true → ∀ length mid,
      loop.turnsIn mid.journal ≤ loop.turnsIn (ctx.wait entry length stop mid).2.journal :=
    fun plain length mid => (lawful.wait plain length stop mid).journal.sublist.countP_le
  rcases run_course ctx stop draws rounds loop w with
    ⟨run, rfl, course, ran⟩ | ⟨interval, result, last, ticker, _, ticks, ran⟩
  · obtain ⟨ended, rfl⟩ := Prod.mk.inj (ending_eq_going (ran.symm.trans going))
    exact course.counted (fun mid unset => turn_marked lawful fun _ => unset)
      (fun delay mid => waited rfl delay mid) (Retry.Ending.result_eq_going.mp ended)
  · obtain ⟨rfl, rfl⟩ := Prod.mk.inj (ending_eq_going (ran.symm.trans going))
    have began : loop.turnsIn w.journal ≤ loop.turnsIn (loop.beginning interval w).journal :=
      (List.sublist_cons_self ..).countP_le
    have ticked : ∀ mid, loop.turnsIn mid.journal < loop.turnsIn
        ((loop.turn ctx stop >>= fun _ => pure () : Op τ Unit) mid).2.journal := by
      intro mid
      rw [Op.bind_pure_after]
      exact turn_marked lawful fun watches => absurd watches ticker
    exact (Nat.add_le_add_right began rounds).trans
      (ticks.counted ticked (fun mid => waited rfl _ mid) rfl)

/-- A loop that has ended saw its stop signal set, or was woken from a wait without. -/
theorem Loop.run_stopped (stopped : loop.run ctx stop draws rounds w = (.ok true, after)) :
    after.isSet stop = true ∨ ∃ journal, ctx.around.wakes false journal = true := by
  rcases run_course ctx stop draws rounds loop w with
    ⟨run, rfl, course, ran⟩ | ⟨interval, result, last, ticker, _, ticks, ran⟩
  · obtain ⟨ended, rfl⟩ := ending_eq_stopped (ran.symm.trans stopped)
    cases ending : run.ending with
    | running =>
      rw [ending] at ended
      cases ended
    | cancelled =>
      rcases course.cancelled_seen ending with set | ⟨delay, before, wait⟩
      · exact .inl set
      · have seen := Context.wait_woken wait
        exact seen
    | returned => exact absurd ending course.not_returned
    | failed fault =>
      obtain ⟨before, call⟩ := course.failed_call ending
      obtain ⟨_, rfl, _⟩ := watchOnce_fails_iff.mp (congrArg Prod.fst call)
      rw [ending] at ended
      cases ended
    | waitFailed fault =>
      obtain ⟨results, before, wait⟩ := course.failed_wait ending
      obtain ⟨rfl, _⟩ := Context.wait_failed wait
      rw [ending] at ended
      cases ended
  · obtain ⟨ended, rfl⟩ := ending_eq_stopped (ran.symm.trans stopped)
    obtain ⟨before, wait⟩ := ticks.woken_wait ended
    have seen := Context.wait_woken wait
    exact seen

end Loops

/-! ## Containment -/

/-- An operation that returns and leaves the world at rest. -/
def Op.Contained {α : Type} (op : Op τ α) (w : World τ) : Prop :=
  (∃ a, (op w).1 = .ok a) ∧ (op w).2.AtRest

/-- How a loop of some rounds that began in one world came out: the world is at rest whatever
happened, the loop failed only where a watch did or where it could not wait, and ended only as it
saw a stop or was woken; otherwise it is going on and has taken a turn in every round. -/
structure Loop.Survives (ctx : Context τ) (stop : Signal) (draws : Draws τ) (loop : Loop)
    (rounds : Nat) (w : World τ) (ended : Except Fault Bool × World τ) : Prop where
  rest : ended.2.AtRest
  failed : ∀ fault, ended.1 = .error fault →
    (loop = .watch ∧ ∃ before, before.isSet stop = false ∧
      watchOnce ctx stop before = (.error fault, ended.2)) ∨
    ctx.CannotWait stop (loop.lengths w.tracker.settings draws) fault ended.2
  stopped : ended.1 = .ok true →
    ended.2.isSet stop = true ∨ ∃ journal, ctx.around.wakes false journal = true
  going : ended.1 = .ok false → loop.turnsIn w.journal + rounds ≤ loop.turnsIn ended.2.journal

/-- In every world that a run comes to, and whatever the surroundings do, handling a watch event,
asking for a rebuild as a tick does, and rescanning return, and they leave the lock free and no
watch open; so does a watch, unless its stream breaks off with a status that cannot be looked up,
and so does every loop that can wait for as long as it has to, which fails nowhere else and goes on
until a stop is seen. -/
theorem Reachable.failures_contained {settings : Settings τ} (reachable : Reachable settings w)
    (around : Surroundings τ) (outer : Option Signal) (depth : Nat) (stop : Signal) :
    let ctx := Context.nested around outer depth
    w.AtRest ∧
    (∀ event given, (handleEvent ctx event given).Contained w) ∧
    (∀ given, (trigger ctx given).Contained w) ∧
    (∀ given, (fullRescan ctx given).Contained w) ∧
    ((watchOnce ctx stop w).2.AtRest ∧ ∀ fault, (watchOnce ctx stop w).1 = .error fault ↔
      w.isSet stop = false ∧ fault = .misuse .wrongType ∧
        ∃ cause, (openStream ctx stop w.watched).1 = .error cause ∧ cause.isLegible = false) ∧
    (∀ loop draws rounds, Loop.Survives ctx stop draws loop rounds w
      (loop.run ctx stop draws rounds w)) ∧
    ((∀ journal, (around.stream journal).Legible) → (watchOnce ctx stop).Contained w ∧
      ∀ loop draws rounds,
        (∀ length ∈ loop.lengths w.tracker.settings draws, around.overlong length = false) →
          (Loop.run ctx stop draws rounds loop).Contained w) := by
  intro ctx
  have rest := reachable.atRest
  have lawful : ctx.Lawful Advances := Context.nested_advances around outer depth
  have stepwise : ctx.Stepwise none (Kind.except .watch) :=
    Context.nested_unwatching around outer depth
  have watched : (watchOnce ctx stop w).2.AtRest := rest.watchOnce around outer depth stop
  have survives : ∀ loop draws rounds, Loop.Survives ctx stop draws loop rounds w
      (loop.run ctx stop draws rounds w) := fun loop draws rounds =>
    { rest := rest.loop around outer depth stop draws rounds loop
      failed := fun fault failed => Loop.run_failed (Prod.ext failed rfl)
      stopped := fun stopped => Loop.run_stopped (Prod.ext stopped rfl)
      going := fun going => Loop.run_going lawful (Prod.ext going rfl) }
  refine ⟨rest, fun event given => ⟨⟨_, handleEvent_returns ctx event given w⟩, ?_⟩,
    fun given => ⟨⟨_, trigger_returns ctx given w⟩, ?_⟩,
    fun given => ⟨fullRescan_returns ctx given w, ?_⟩,
    ⟨watched, fun fault => watchOnce_fails_iff⟩, survives, fun legible => ?_⟩
  · exact rest.later (lawful.handleEvent event given w)
      (stepwise.handleEvent nofun (.none given) event nofun)
  · exact rest.later (lawful.trigger given w) (stepwise.trigger (.none given) w)
  · exact rest.later (lawful.fullRescan given w)
      (stepwise.fullRescan nofun (.none given) w)
  · have same : ctx.around = around := Context.nested_around around outer depth
    have returns : ∀ w, ∃ healthy, (watchOnce ctx stop w).1 = .ok healthy := by
      intro w
      cases ended : (watchOnce ctx stop w).1 with
      | ok healthy => exact ⟨healthy, rfl⟩
      | error fault =>
        obtain ⟨_, _, cause, fails, illegible⟩ := watchOnce_fails_iff.mp ended
        exact absurd (same ▸ legible _) (openStream_fails fails illegible)
    refine ⟨⟨returns w, watched⟩, fun loop draws rounds patient =>
      ⟨?_, (survives loop draws rounds).rest⟩⟩
    cases ended : (loop.run ctx stop draws rounds w).1 with
    | ok told => exact ⟨told, rfl⟩
    | error fault =>
      rcases (survives loop draws rounds).failed fault ended with
        ⟨_, before, _, failed⟩ | ⟨_, _, length, among, overlong⟩
      · obtain ⟨healthy, returned⟩ := returns before
        cases returned.symm.trans (congrArg Prod.fst failed)
      · rw [same, patient length among] at overlong
        cases overlong

/-- Where everything is refused and every stream breaks off after an event that cannot be read, all
of it is contained, and watching goes on. -/
theorem failures_contained_under_refusals :
    let refused : Fault := .refused (.int 503) .null
    let around : Surroundings Rat :=
      { Surroundings.steady (.error refused) (fun _ => .error refused) (.error refused) with
        stream := fun _ =>
          { refusal := none, items := [.event (.record [])], ending := some refused } }
    let w := (World.fresh .exact 0).after
      [{ around, given := none, depth := 1, operation := .fullRescan }]
    let ctx := Context.nested around none 1
    let draws : Draws Rat := { roll := fun _ => 0, taken := 0 }
    Reachable .exact w ∧ (∀ journal, (around.stream journal).Legible) ∧ w.AtRest ∧
      (trigger ctx none).Contained w ∧ (fullRescan ctx none).Contained w ∧
      (watchOnce ctx 0).Contained w ∧
      3 ≤ Loop.watch.turnsIn (Loop.watch.run ctx 0 draws 3 w).2.journal := by
  intro refused around w ctx draws
  have reachable : Reachable .exact w :=
    .performed (.fresh (by decide) (by decide) 0)
      { around, given := none, depth := 1, operation := .fullRescan }
  have legible : ∀ journal, (around.stream journal).Legible := by
    rintro journal fault (⟨⟨⟩⟩ | ⟨⟨⟩⟩)
    rfl
  obtain ⟨rest, _, triggers, rescans, _, survives, returns⟩ :=
    Reachable.failures_contained reachable around none 1 0
  have going : (Loop.watch.run ctx 0 draws 3 w).1 = .ok false := rfl
  exact ⟨reachable, legible, rest, triggers none, rescans none, (returns legible).1,
    (Nat.le_add_left ..).trans ((survives .watch draws 3).going going)⟩

/-- A stream that is refused with a list for its status makes the watch fail, and the loop with
it. -/
theorem watch_failure_escapes :
    let around : Surroundings Rat :=
      { Surroundings.steady (.ok []) (fun _ => .ok none) (.ok []) with
        stream := fun _ =>
          { refusal := some (.refused (.list [.int 403]) .null), items := [], ending := none } }
    let w := World.fresh .exact 0
    let ctx := Context.nested around none 1
    let draws : Draws Rat := { roll := fun _ => 0, taken := 0 }
    Reachable .exact w ∧ (watchOnce ctx 0 w).1 = .error (.misuse .wrongType) ∧
      (Loop.watch.run ctx 0 draws 1 w).1 = .error (.misuse .wrongType) :=
  ⟨.fresh (by decide) (by decide) 0, rfl, rfl⟩

end Tracker

end ApiSurface
