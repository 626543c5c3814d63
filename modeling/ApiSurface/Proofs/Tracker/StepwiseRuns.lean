import ApiSurface.Proofs.Tracker.Stepping

/-!
# Runs are steps

The loops are steps too, and so is everything else that is asked of a tracker, so that
every world that a run comes to is reached from a new tracker by steps. Watching goes on
under the stop signal that is heeded, which is looked for before every stream and before
every event.
-/

namespace ApiSurface.Tracker

variable {τ : Type}

variable [Scalar τ] {heeded : Option Signal} {kinds : Set Kind} {ctx : Context τ}
variable {signal : Signal} {w : World τ} {given : Option Signal}

namespace Context.Stepwise

variable (stepwise : ctx.Stepwise heeded kinds)

/-! ## Learning -/

section Learning

variable (learns : .learn ∈ kinds)
include stepwise learns

theorem refreshKnown : (refreshKnown ctx).Moves (Proceeds heeded kinds) := by
  have collected : ∀ items, (collectUids items : Op τ (List Text)).Moves
      (Proceeds heeded kinds) := by
    intro items
    induction items with
    | nil => exact .pure []
    | cons item rest ih =>
      rw [collectUids]
      split
      · exact .bind ih fun _ => .pure _
      · exact .bind (.remark stepwise.calls rfl) fun _ => ih
      · exact .raise _
  exact .bind (stepwise.ask_remark rfl _) fun items => .bind (collected items) fun uids w =>
    Step.proceeds learns (.relisted uids)

theorem refreshOrReport : (refreshOrReport ctx).Moves (Proceeds heeded kinds) := by
  refine .bind (stepwise.refreshKnown learns).attempt fun result => ?_
  cases result with
  | ok _ => exact .pure ()
  | error fault => exact .remark stepwise.calls rfl

variable (heeds : HeedsGiven heeded given)
include heeds

theorem answerEvent (event : CrdEvent) :
    (answerEvent ctx event given).Moves (Proceeds heeded kinds) := by
  refine .bind (fun _ => Step.proceeds learns .gauged) fun _ => ?_
  split
  · exact .bind (.remark stepwise.calls rfl) fun _ => .pure _
  · exact .bind_stopOr heeds fun stop heeds =>
      .bind (stepwise.trigger heeds.given) fun _ => .pure _

/-- An event is applied only where no stop was seen. -/
theorem handleEvent (event : CrdEvent) (going : w.Going heeded) :
    Proceeds heeded kinds w (handleEvent ctx event given w).2 := by
  have heard : Proceeds heeded kinds w (w.heard event) :=
    Step.proceeds stepwise.calls (.remarked rfl)
  have applied : Step heeded .learn (w.heard event) (w.received event) := .applied event going
  have received := trans_of _ heard (Step.proceeds learns applied)
  by_cases repeats : w.tracker.Repeats event
  · rw [handleEvent_of_repeats repeats]
    exact received
  · rw [handleEvent_of_news repeats]
    exact trans_of _ received (stepwise.answerEvent learns heeds event _)

theorem fullRescan : (fullRescan ctx given).Moves (Proceeds heeded kinds) := by
  refine .bind (.remark stepwise.calls rfl) fun _ =>
    .bind (stepwise.refreshOrReport learns) fun _ => .bind_stopOr heeds fun stop heeds =>
      .bind (stepwise.collectAndNotify heeds.given) fun outcome => .bind ?_ fun _ => .pure _
  unfold rescanReport
  split
  · exact .remark stepwise.calls rfl
  · exact .remark stepwise.calls rfl
  · exact .pure ()

end Learning

/-! ## Watching -/

section Watching

variable (learns : .learn ∈ kinds) (heeds : Heeds heeded signal)
include stepwise learns heeds

/-- Every event is decoded and applied where no stop was seen. -/
theorem readStream (ending : Option Fault) (items : List (StreamItem τ)) :
    (readStream ctx signal ending items).Moves (Proceeds heeded kinds) := by
  have closed : (closeStream : Op τ Bool).Moves (Proceeds heeded kinds) :=
    .bind (.remark stepwise.calls rfl) fun _ => .pure _
  induction items with
  | nil =>
    cases ending with
    | some fault => exact .raise _
    | none => exact closed
  | cons item rest ih =>
    cases item with
    | action action => exact .bind (.takeActions stepwise.acts [action]) fun _ => ih
    | event raw =>
      intro w
      rw [Tracker.readStream, Op.bind_of_ok (Context.stopSet_apply signal w)]
      cases set : w.isSet signal with
      | true => exact closed w
      | false =>
        have going : w.Going heeded := .of_unset heeds set
        have decoded : ∀ event, Proceeds heeded kinds w (Op.record (.decoded event) w).2 :=
          fun event => Step.proceeds learns (.decoded event going)
        rw [if_neg Bool.false_ne_true]
        cases WatchEvent.decode raw with
        | error fault =>
          cases fault with
          | misuse kind => exact refl_of _ w
          | malformed why => exact Op.Moves.bind (.remark stepwise.calls rfl) (fun _ => ih) w
        | ok event =>
          cases event with
          | error status =>
            refine Op.along_bind (decoded _) fun _ _ => ?_
            exact Op.Moves.bind (.remark stepwise.calls rfl) (fun _ =>
              .bind (.remark stepwise.calls rfl) fun _ => .pure _) _
          | change event =>
            refine Op.along_bind (decoded _) fun _ _ => Op.along_bind ?_ fun _ _ => ih _
            exact stepwise.handleEvent learns heeds.given event going

variable (watches : .watch ∈ kinds)
include watches

/-- A stream is opened where no stop was seen. -/
theorem openStream (going : w.Going heeded) :
    Proceeds heeded kinds w (openStream ctx signal w).2 := by
  refine Op.along_bind (Op.Moves.tracker w) fun tracker _ => ?_
  have opened : Proceeds heeded kinds w
      (Op.record (.openedStream tracker.settings.watchTimeout) w).2 :=
    Step.proceeds watches (.opened _ going)
  refine Op.along_bind opened fun _ _ => Op.Moves.bind .world (fun before => ?_) _
  dsimp only
  split
  · exact .raise _
  · exact .bind (.remark stepwise.calls rfl) fun _ => stepwise.readStream learns heeds _ _

theorem followStream (going : w.Going heeded) :
    Proceeds heeded kinds w (followStream ctx signal w).2 := by
  have opened : Proceeds heeded kinds w (Op.attempt (Tracker.openStream ctx signal) w).2 :=
    stepwise.openStream learns heeds watches going
  refine Op.along_bind opened fun result _ => ?_
  cases result with
  | ok healthy => exact refl_of _ _
  | error fault =>
    refine Op.Moves.bind (.remark stepwise.calls rfl) (fun _ => ?_) _
    split
    · exact .bind (.remark stepwise.calls rfl) fun _ => .pure _
    · exact .raise _

theorem watchOnce : (watchOnce ctx signal).Moves (Proceeds heeded kinds) := by
  have watching : ∀ watching, (setWatching watching : Op τ Unit).Moves (Proceeds heeded kinds) :=
    fun watching _ => Step.proceeds watches (.watching watching)
  refine .bind (watching true) fun _ w => ?_
  rw [Op.bind_of_ok (Context.stopSet_apply signal w)]
  cases set : w.isSet signal with
  | true => exact Op.Moves.bind (watching false) (fun _ => .pure _) w
  | false =>
    have going : w.streamCounted.Going heeded := World.Going.of_unset (w := w) heeds set
    have counted : Proceeds heeded kinds w w.streamCounted := Step.proceeds watches .streamCounted
    rw [if_neg Bool.false_ne_true, Op.bind_of_ok (countStream_apply w)]
    have followed : Proceeds heeded kinds w.streamCounted
        (Op.attempt (Tracker.followStream ctx signal) w.streamCounted).2 :=
      stepwise.followStream learns heeds watches going
    refine trans_of _ counted (Op.along_bind followed fun result _ => ?_)
    exact Op.Moves.bind (.remark stepwise.calls rfl) (fun _ =>
      .bind (watching false) fun _ => .conclude _) _

end Watching

/-! ## Waiting -/

section Waiting

variable (waits : .wait ∈ kinds)
include stepwise waits

/-- A wait that is made lets time pass, and then the surroundings act. -/
theorem wait {entry : Entry τ} (wait : entry.isWait = true) (length : τ) (stop : Signal) :
    (ctx.wait entry length stop).Moves (Proceeds heeded kinds) :=
  Context.wait_moves fun _ =>
    trans_of _ (Step.proceeds waits (.waited wait length)) (Op.Moves.takeActions stepwise.acts _ _)

/-- Watching forever goes on through streams and waits. -/
theorem watchForever (learns : .learn ∈ kinds) (watches : .watch ∈ kinds)
    (heeds : Heeds heeded signal) (rounds : Nat) (draws : Draws τ) :
    (watchForever ctx signal rounds draws).Moves (Proceeds heeded kinds) :=
  watchForever_moves (stepwise.watchOnce learns heeds watches)
    (fun _ => stepwise.wait waits rfl _ signal) (.remark stepwise.calls rfl) rounds draws

/-- A ticker goes on step by step if its tick does. -/
theorem runTicker {tick : Op τ Unit} (ticks : tick.Moves (Proceeds heeded kinds)) (name : String)
    (interval : Seconds τ) (stop : Signal) (rounds : Nat) :
    (runTicker ctx name interval stop tick rounds).Moves (Proceeds heeded kinds) := by
  have ticking : ∀ rounds, (ticking ctx interval stop tick rounds).Moves
      (Proceeds heeded kinds) := by
    intro rounds
    induction rounds with
    | zero => exact .pure _
    | succ rounds ih =>
      refine .bind (stepwise.wait waits rfl _ stop) fun stopped => ?_
      split
      · exact .pure _
      · exact .bind ticks fun _ => ih
  refine .bind (.remark stepwise.calls rfl) fun _ => .bind (ticking rounds) fun ended => ?_
  split
  · exact .bind (.remark stepwise.calls rfl) fun _ => .pure _
  · exact .pure _

variable (heeds : Heeds heeded signal)
include heeds

theorem collectPeriodically (rounds : Nat) :
    (collectPeriodically ctx signal rounds).Moves (Proceeds heeded kinds) :=
  .bind .tracker fun _ =>
    stepwise.runTicker waits (.bind (stepwise.trigger heeds.given) fun _ => .pure ()) _ _ _ rounds

theorem rescanPeriodically (learns : .learn ∈ kinds) (rounds : Nat) :
    (rescanPeriodically ctx signal rounds).Moves (Proceeds heeded kinds) :=
  .bind .tracker fun _ =>
    stepwise.runTicker waits (.bind (stepwise.fullRescan learns heeds.given) fun _ => .pure ())
      _ _ _ rounds

end Waiting

end Context.Stepwise

/-! ## Whole runs -/

section Runs

/-- What a start does first is to take its stop signal. -/
theorem World.adopted_proceeds (setsUp : .setUp ∈ kinds) (given : Option Signal) (w : World τ) :
    Proceeds none kinds w (w.adopted given) := by
  cases given with
  | some signal => exact Step.proceeds setsUp (.adopted signal rfl)
  | none =>
    have taken : Step none .setUp w { w with nextSignal := w.nextSignal + 1 } := .signalTaken _
    exact trans_of _ (taken.proceeds setsUp) (Step.proceeds setsUp (.adopted w.nextSignal rfl))

/-- What a start does last comes once a pass was completed. -/
theorem World.looping_proceeds (calls : .call ∈ kinds) (setsUp : .setUp ∈ kinds)
    (completed : roundsOf w.journal ≠ []) : Proceeds none kinds w w.readied.looping := by
  have ready : Step none .setUp w { w with tracker := { w.tracker with ready := true } } :=
    .becameReady completed
  have readied : Proceeds none kinds w w.readied :=
    trans_of _ (ready.proceeds setsUp) (Step.proceeds calls (.remarked rfl))
  have looped : Proceeds none kinds w.readied
      { w.readied with tracker := { w.readied.tracker with loops := Loop.all } } :=
    Step.proceeds setsUp .looped
  have started : (Op.each (fun loop => Op.record (.startedLoop loop)) Loop.all).Moves
      (Proceeds (τ := τ) none kinds) :=
    .each fun loop _ _ => Step.proceeds setsUp (.startedLoop loop)
  exact trans_of _ readied (trans_of _ looped (started _))

variable (stepwise : ctx.Stepwise none kinds) (lawful : ctx.Lawful Quiet)
include stepwise lawful

/-- A start that finds the lock free becomes ready once a pass was completed. -/
theorem Context.Stepwise.start (learns : .learn ∈ kinds) (setsUp : .setUp ∈ kinds)
    (given : Option Signal) (free : w.tracker.rebuilding = false) :
    Proceeds none kinds w (start ctx given w).2 := by
  have listedAll := stepwise.refreshKnown learns (w.adopted given)
  have quiet : Advances _ _ := (lawful.mono Quiet.toAdvances).refreshKnown (w.adopted given)
  have free : (w.adopted given).tracker.rebuilding = false := by
    cases given <;> exact free
  refine trans_of _ (w.adopted_proceeds setsUp given) ?_
  rw [start_apply]
  cases lists : Tracker.refreshKnown ctx (w.adopted given) with
  | mk result listed =>
    rw [lists] at listedAll quiet
    cases result with
    | error cause => exact listedAll
    | ok _ =>
      refine trans_of _ listedAll (Op.along_bind (stepwise.rebuildDirectly nofun _) ?_)
      intro outcome returned
      obtain ⟨round, _, rounds⟩ := rebuildDirectly_rounds lawful.calm (quiet.lock.trans free)
        (Prod.ext returned rfl)
      rw [ready_apply]
      exact World.looping_proceeds stepwise.calls setsUp (rounds ▸ List.cons_ne_nil _ _)

/-- Whether an operation watches. -/
def Operation.isWatch {τ : Type} : Operation τ → Bool
  | watchOnce => true
  | watchForever _ _ => true
  | _ => false

/-- Whatever is asked of a tracker whose lock is free goes on step by step, and without a step of
watching if that is not what was asked for. -/
theorem Context.Stepwise.effect (operation : Operation τ)
    (others : ∀ kind, kind ≠ .watch → kind ∈ kinds)
    (watches : operation.isWatch = true → .watch ∈ kinds)
    (free : w.tracker.rebuilding = false) :
    Proceeds none kinds w (operation.effect ctx w).2 := by
  have learns : .learn ∈ kinds := others _ nofun
  have setsUp : .setUp ∈ kinds := others _ nofun
  have waits : .wait ∈ kinds := others _ nofun
  rw [Operation.effect, Op.bind_of_ok (stopOr_apply ctx.given w)]
  generalize w.tracker.stopOr ctx.given = signal
  have heeds : Heeds none signal := nofun
  cases operation with
  | subscribe subscriber => exact Step.proceeds setsUp (.registered subscriber)
  | rebuild => exact Op.Moves.bind (stepwise.rebuildDirectly stepwise.heeds) (fun _ => .pure _) w
  | refreshKnown => exact Op.Moves.bind (stepwise.refreshKnown learns) (fun _ => .pure _) w
  | collect => exact Op.Moves.bind (stepwise.collectAndNotify heeds.given) (fun _ => .pure _) w
  | trigger => exact Op.Moves.bind (stepwise.trigger heeds.given) (fun _ => .pure _) w
  | fullRescan =>
    exact Op.Moves.bind (stepwise.fullRescan learns stepwise.heeds) (fun _ => .pure _) w
  | event raw =>
    have handled : (handleRaw ctx raw ctx.given).Moves (Proceeds none kinds) := by
      unfold handleRaw
      split
      · exact fun _ => stepwise.handleEvent learns stepwise.heeds _ nofun
      · exact .raise _
      · exact .raise _
    exact Op.Moves.bind handled (fun _ => .pure _) w
  | readSnapshot =>
    refine Op.Moves.bind (.bind .tracker fun tracker => ?_) (fun _ => .pure _) w
    split
    · exact .pure _
    · exact .raise _
  | watchOnce =>
    exact Op.Moves.bind (stepwise.watchOnce learns heeds (watches rfl)) (fun _ => .pure _) w
  | watchForever rounds draws =>
    have watched := stepwise.watchForever waits learns (watches rfl) heeds rounds draws
    exact Op.Moves.bind watched (fun _ => .pure _) w
  | collectPeriodically rounds =>
    exact Op.Moves.bind (stepwise.collectPeriodically waits heeds rounds) (fun _ => .pure _) w
  | rescanPeriodically rounds =>
    have rescanned := stepwise.rescanPeriodically waits heeds learns rounds
    exact Op.Moves.bind rescanned (fun _ => .pure _) w
  | start =>
    exact Op.along_bind (stepwise.start lawful learns setsUp ctx.given free) fun _ _ => refl_of _ _
  | stop timeout => exact Op.Moves.bind (stepwise.stopping timeout) (fun _ => .pure _) w
  | elapse time => exact Step.proceeds stepwise.calls (.elapsed _)

end Runs

theorem Context.nested_advances (around : Surroundings τ) (outer : Option Signal) (depth : Nat) :
    (Context.nested around outer depth).Lawful Advances :=
  (Context.nested_lawful around outer depth).mono Quiet.toAdvances

/-- Every world that a run comes to is reached from a new tracker by steps. -/
theorem Reachable.steps {settings : Settings τ} (reachable : Reachable settings w) :
    ∃ clock, Steps none Set.univ (World.fresh settings clock) w := by
  induction reachable with
  | @created clock w made =>
    obtain ⟨_, _, rfl⟩ := World.create_eq_ok_iff.mp made
    exact ⟨clock, .refl⟩
  | @performed before prior request ih =>
    obtain ⟨clock, steps⟩ := ih
    have lawful := Context.nested_lawful request.around request.given request.depth
    have stepwise : (Context.nested request.around request.given request.depth).Stepwise none
        Set.univ := Context.nested_stepwise request.around request.depth (Set.mem_univ _) nofun
    have performed := stepwise.effect lawful request.operation (fun kind _ => Set.mem_univ kind)
      (fun _ => Set.mem_univ _) prior.consistent.2
    exact ⟨clock, steps.trans (performed nofun)⟩

end ApiSurface.Tracker
