import ApiSurface.Proofs.Tracker.Containment
import ApiSurface.Proofs.Tracker.Spacing

/-!
# Protection of the API server

What is asked of the limiter is decided at once: either an attempt is made or the request
is dropped. A watch event does nothing more than ask, if it is a change that counts. A
full rescan asks for nothing: it always makes its attempt, and leaves the limiter as it is
unless someone who is called meanwhile asks it.
-/

namespace ApiSurface.Tracker

variable {τ : Type} [Scalar τ] {heeded : Option Signal} {kind : Kind} {kinds : Set Kind}
variable {ctx : Context τ} {w w' after : World τ} {given : Option Signal}

/-! ## Asking -/

/-- The limiter was asked in one world and answered as it did, and right after the question stands
an attempt if it let the request through, and else none. -/
def World.Decided (w after : World τ) : Prop :=
  ∃ next : Entry τ, next.isAttempt = w.tracker.limiter.admits w.clock ∧
    next :: .asked w.clock (w.tracker.limiter.admits w.clock) :: w.journal <:+ after.journal

theorem World.Decided.of_asked {next : Entry τ}
    (attempt : next.isAttempt = w.tracker.limiter.admits w.clock)
    (since : next :: w.asked.journal <:+ after.journal) : w.Decided after := ⟨next, attempt, since⟩

/-- A request for a rebuild is decided at once. -/
theorem trigger_decided (stepwise : ctx.Stepwise none kinds)
    (given : Option Signal) (w : World τ) :
    ∃ after, trigger ctx given w = (.ok (w.tracker.limiter.admits w.clock), after) ∧
      w.Decided after := by
  have asked : askLimiter w = (.ok (w.tracker.limiter.admits w.clock), w.asked) :=
    askLimiter_apply w
  have lock : w.asked.tracker.rebuilding = w.tracker.rebuilding := by rw [w.asked_tracker]
  rw [trigger, Op.bind_of_ok asked]
  cases admits : w.tracker.limiter.admits w.clock with
  | false =>
    have dropped : w.Decided w.asked.dropped := .of_asked (admits ▸ rfl) (List.suffix_refl _)
    exact ⟨w.asked.dropped, rfl, dropped⟩
  | true =>
    obtain ⟨ended, returns⟩ := collectAndNotify_returns ctx given w.asked
    rw [if_pos rfl, Op.bind_of_ok (Prod.ext returns rfl)]
    refine ⟨(collectAndNotify ctx given w.asked).2, rfl, ?_⟩
    cases free : w.tracker.rebuilding with
    | true =>
      rw [collectAndNotify_of_locked ctx given (lock.trans free)]
      have found : (Entry.logged
          ⟨.debug, "API resource collection already in progress; skipping"⟩ : Entry τ).isAttempt =
            true := beq_self_eq_true _
      exact .of_asked (found.trans admits.symm) (List.suffix_cons ..)
    | false =>
      have rebuilt := stepwise.rebuild_begun (.none given) (lock.trans free)
      have collected := trans_of _ rebuilt (stepwise.afterRebuild given w.asked)
      have began : (Entry.beganRebuild : Entry τ).isAttempt = w.tracker.limiter.admits w.clock :=
        admits.symm
      exact .of_asked began collected.grows

/-- Nothing was asked of the limiter and nothing attempted. -/
def World.Idle (w after : World τ) : Prop :=
  after.tracker.limiter = w.tracker.limiter ∧
    ∃ news, after.journal = news ++ w.journal ∧
      ∀ entry ∈ news, entry.isAsk = false ∧ entry.isAttempt = false

instance : IsPreorder (World τ) World.Idle where
  refl _ := ⟨rfl, [], rfl, nofun⟩
  trans := by
    rintro w w' w'' ⟨limiter, earlier, journal, idle⟩ ⟨limiter', later, journal', idle'⟩
    refine ⟨limiter'.trans limiter, later ++ earlier, ?_, List.forall_mem_append.mpr ⟨idle', idle⟩⟩
    rw [journal', journal, List.append_assoc]

/-- A watch event that is a change asks the limiter, and any other does nothing of this kind. -/
theorem handleEvent_decided (ctx : Context τ) (event : CrdEvent) (given : Option Signal)
    (w : World τ) :
    (∃ fired after, trigger ctx (some (w.tracker.stopOr given)) (w.received event).gauged =
        (.ok fired, after) ∧ handleEvent ctx event given w = (.ok true, after)) ∨
      ∃ after, handleEvent ctx event given w = (.ok false, after) ∧ w.Idle after := by
  have received : w.Idle (w.received event) := by
    refine ⟨rfl, [.applied event, .logged ⟨.debug, _⟩], rfl, fun entry member => ?_⟩
    rcases List.mem_pair.mp member with rfl | rfl <;> exact ⟨rfl, rfl⟩
  by_cases repeats : w.tracker.Repeats event
  · exact .inr ⟨_, handleEvent_of_repeats repeats, received⟩
  rw [handleEvent_of_news repeats]
  by_cases held : event.HeldBack
  · have heldBack : (w.received event).gauged.Idle ((w.received event).gauged.heldBack event) := by
      refine ⟨rfl, [.logged ⟨.info, _⟩], rfl, fun entry member => ?_⟩
      cases List.mem_singleton.mp member
      exact ⟨rfl, rfl⟩
    exact .inr ⟨_, answerEvent_of_heldBack held, trans_of World.Idle received heldBack⟩
  · have returns := trigger_returns ctx (some (w.tracker.stopOr given)) (w.received event).gauged
    rw [answerEvent_of_change held]
    exact .inl ⟨_, _, Prod.ext returns rfl, Op.bind_of_ok (Prod.ext returns rfl)⟩

/-! ## Full rescans -/

/-- The limiter is as it was unless it was asked. -/
def World.Unlimited (w after : World τ) : Prop :=
  asksIn w.journal ≤ asksIn after.journal ∧
    (asksIn after.journal = asksIn w.journal → after.tracker.limiter = w.tracker.limiter)

instance : IsPreorder (World τ) World.Unlimited where
  refl _ := ⟨Nat.le_refl _, fun _ => rfl⟩
  trans := by
    rintro w w' w'' ⟨fewer, same⟩ ⟨fewer', same'⟩
    refine ⟨fewer.trans fewer', fun none => ?_⟩
    exact (same' (by omega)).trans (same (by omega))

/-- A step that asks nothing of the limiter leaves it as it is. -/
theorem Step.unlimited (step : Step heeded kind w after) : w.Unlimited after := by
  have asked : ∀ {later : World τ}, w.asked.journal <:+ later.journal → w.Unlimited later := by
    intro later since
    have more : asksIn w.asked.journal ≤ asksIn later.journal := since.sublist.countP_le
    have once : asksIn w.asked.journal = asksIn w.journal + 1 := List.countP_cons_of_pos rfl
    exact ⟨by omega, fun none => absurd none (by omega)⟩
  have same : after.tracker.limiter = w.tracker.limiter → w.Unlimited after := fun same =>
    ⟨step.grows.sublist.countP_le, fun _ => same⟩
  cases step with
  | attempted | dropped => exact asked (List.suffix_cons ..)
  | attemptedInVain => exact asked ((List.suffix_cons ..).trans (List.suffix_cons ..))
  | _ => exact same rfl

omit [Scalar τ] in
/-- The surroundings' answer and its report hold no question to the limiter but those of calls
back. -/
theorem refreshOrReport_balanced (acts : ∀ action w, Balanced w (ctx.act action w)) :
    (refreshOrReport ctx).Moves Balanced := by
  have collected : ∀ items, (collectUids items : Op τ (List Text)).Moves Balanced := by
    intro items
    induction items with
    | nil => exact .pure []
    | cons item rest ih =>
      rw [collectUids]
      split
      · exact .bind ih fun _ => .pure _
      · exact .bind (.record_balanced rfl rfl) fun _ => ih
      · exact .raise _
  have replaced : ∀ uids, (replaceKnown uids : Op τ Unit).Moves Balanced := fun uids =>
    .bind (.update_balanced _) fun _ =>
      .bind (.record_balanced rfl rfl) fun _ => .record_balanced rfl rfl
  have refreshed : (refreshKnown ctx).Moves Balanced :=
    .bind (.ask acts (.record_balanced rfl rfl)) fun items => .bind (collected items) replaced
  refine .bind refreshed.attempt fun result => ?_
  cases result with
  | ok _ => exact .pure ()
  | error fault => exact .record_balanced rfl rfl

omit [Scalar τ] in
/-- A full rescan asks nothing of the limiter but through calls back. -/
theorem fullRescan_balanced (acts : ∀ action w, Balanced w (ctx.act action w))
    (given : Option Signal) : (fullRescan ctx given).Moves Balanced := by
  refine .bind (.record_balanced rfl rfl) fun _ => .bind (refreshOrReport_balanced acts) fun _ =>
    .bind (.stopOr given) fun stop => .bind (collectAndNotify_balanced acts (some stop))
      fun outcome => .bind ?_ fun _ => .pure _
  unfold rescanReport
  split
  · exact .record_balanced rfl rfl
  · exact .record_balanced rfl rfl
  · exact .pure ()

omit [Scalar τ] in
/-- A collection that finds the lock free is not skipped. -/
theorem collectAndNotify_unskipped (calm : ctx.IsCalm) (given : Option Signal)
    (free : w.tracker.rebuilding = false) :
    (collectAndNotify ctx given w).1 ≠ .ok (some .skipped) := by
  have rebuilt := rebuild_spec calm given free
  cases ends : rebuild ctx given w with
  | mk result after =>
    cases result with
    | error fault =>
      obtain ⟨later, _, collects⟩ := collectAndNotify_of_error ends
      rw [collects]
      nofun
    | ok outcome =>
      rw [ends] at rebuilt
      rw [collectAndNotify_of_ok ends]
      cases rebuilt <;> nofun

/-- A full rescan made its attempt right after the known definitions were listed, where no question
to the limiter was open, and came to an end other than being skipped. The limiter was asked by
calls back alone, and is as it was if there were none. -/
structure World.Bypasses (ctx : Context τ) (w : World τ)
    (ended : Except Fault (Option Outcome) × World τ) : Prop where
  attempted : .listedGroups :: .beganRebuild :: (w.refreshed ctx).journal <:+ ended.2.journal
  unlimited : limitedAttemptsIn (.listedGroups :: .beganRebuild :: (w.refreshed ctx).journal) =
    limitedAttemptsIn (w.refreshed ctx).journal
  returns : ∃ outcome, ended.1 = .ok outcome ∧ outcome ≠ some .skipped
  news : ∃ news, ended.2.journal = news ++ w.journal ∧ asksIn news = triggersIn news ∧
    (triggersIn news = 0 → ended.2.tracker.limiter = w.tracker.limiter)

/-- A full rescan that finds the lock free attempts its rebuild whatever the limiter says. -/
theorem fullRescan_bypasses (around : Surroundings τ) (outer : Option Signal) (depth : Nat)
    (given : Option Signal) (free : w.tracker.rebuilding = false) :
    w.Bypasses (Context.nested around outer depth)
      (fullRescan (Context.nested around outer depth) given w) := by
  set ctx := Context.nested around outer depth
  have lawful : ctx.Lawful Advances := Context.nested_advances around outer depth
  have stepwise : ctx.Stepwise none Set.univ :=
    Context.nested_stepwise around depth (Set.mem_univ _) nofun
  have refreshed := stepwise.refreshOrReport (Set.mem_univ _) w.announced
  have settled : Settled (w.refreshed ctx).journal :=
    (refreshed nofun).keeps (fun w => Settled w.journal) (fun _ => Step.settled) (.cons rfl)
  have listed : Advances w.announced (w.refreshed ctx) := lawful.refreshOrReport w.announced
  obtain ⟨same, reported⟩ := fullRescan_spec ctx given w
  have rebuilt := stepwise.rebuild_listing
    (.none (some ((w.refreshed ctx).tracker.stopOr given))) (listed.lock.trans free)
  have collected := trans_of _ rebuilt (stepwise.afterRebuild _ (w.refreshed ctx))
  obtain ⟨outcome, returned⟩ := fullRescan_returns ctx given w
  have acts : ∀ action w, Balanced w (ctx.act action w) :=
    Context.nested_balanced around outer depth
  obtain ⟨news, journal, balanced⟩ := fullRescan_balanced acts given w
  have rescanned := stepwise.fullRescan (Set.mem_univ _) (.none given) w
  have unlimited : w.Unlimited (fullRescan ctx given w).2 :=
    (rescanned nofun).along fun _ => Step.unlimited
  refine ⟨collected.grows.trans reported.quiet.journal, ?_, ⟨outcome, returned, ?_⟩,
    news, journal, balanced, fun none => unlimited.2 ?_⟩
  · rw [limitedAttemptsIn_cons (.cons rfl), limitedAttemptsIn_cons settled]
  · rintro rfl
    have unskipped := collectAndNotify_unskipped lawful.calm
      (some ((w.refreshed ctx).tracker.stopOr given)) (listed.lock.trans free)
    exact unskipped (same.symm.trans returned)
  · rw [journal, asksIn_append]
    omega

/-! ## Protection -/

/-- A tracker is made with a rate limit that is not negative. -/
theorem Reachable.rate_nonneg {settings : Settings Rat} {w : World Rat}
    (reachable : Reachable settings w) : 0 ≤ settings.rateLimit.amount := by
  induction reachable with
  | created made => exact Seconds.amount_nonneg (World.create_eq_ok_iff.mp made).2.1
  | performed prior request ih => exact ih

/-- In every world that a run comes to, in exact arithmetic, the attempts made through the limiter
are an interval apart, what was dropped came less than an interval after the newest of them, and
the first request was not dropped. Whenever a rebuild is asked for, as a tick does or a watch
event that is a change, it is attempted at once or dropped, as the limiter answers; other events
ask for nothing, and a full rescan bypasses the limiter where the lock is free. -/
theorem Reachable.rebuilds_spaced {settings : Settings Rat} {w : World Rat}
    (reachable : Reachable settings w) :
    Settled w.journal ∧ Spaced settings.rateLimit w.tracker.limiter w.journal ∧
    (∀ next reading admitted earlier, next :: .asked reading admitted :: earlier <:+ w.journal →
      asksIn earlier = 0 → next.isAttempt = true) ∧
    ∀ around outer depth given (mid : World Rat), let ctx := Context.nested around outer depth
      (∃ after, trigger ctx given mid = (.ok (mid.tracker.limiter.admits mid.clock), after) ∧
        mid.Decided after) ∧
      (∀ event, (∃ fired after,
          trigger ctx (some (mid.tracker.stopOr given)) (mid.received event).gauged =
            (.ok fired, after) ∧ handleEvent ctx event given mid = (.ok true, after)) ∨
        ∃ after, handleEvent ctx event given mid = (.ok false, after) ∧ mid.Idle after) ∧
      (mid.tracker.rebuilding = false → mid.Bypasses ctx (fullRescan ctx given mid)) := by
  obtain ⟨clock, steps⟩ := reachable.steps
  have nonneg := reachable.rate_nonneg
  obtain ⟨settled, spaced⟩ := steps.keeps
    (fun w => Settled w.journal ∧ Spaced settings.rateLimit w.tracker.limiter w.journal)
    (fun _ step holds => ⟨step.settled holds.1, step.spaced nonneg holds.1 holds.2⟩)
    ⟨nofun, rfl, rfl, .nil, fun _ _ _ _ within => by cases List.suffix_nil.mp within⟩
  refine ⟨settled, spaced, fun next reading admitted earlier within first => ?_,
    fun around outer depth given mid => ⟨?_, fun event => handleEvent_decided .., ?_⟩⟩
  · by_contra dropped
    obtain ⟨last, newest, _⟩ :=
      spaced.early next reading admitted earlier within (Bool.eq_false_iff.mpr dropped)
    rw [limitedAttemptsIn_of_unasked first] at newest
    cases newest
  · exact trigger_decided (Context.nested_stepwise around depth (Set.mem_univ _) nofun) given mid
  · exact fullRescan_bypasses around outer depth given

/-- Requests three and five seconds after the first, with a full rescan between them: the one is
dropped, the other is attempted. -/
theorem rebuilds_spaced_around_rescan :
    let around : Surroundings Rat := .steady (.ok []) (fun _ => .ok none) (.ok [])
    let ask (operation : Operation Rat) : Request Rat :=
      { around, given := none, depth := 1, operation }
    let w := (World.fresh .exact 0).after
      [ask .trigger, ask (.elapse 3), ask .trigger, ask .fullRescan, ask (.elapse 2), ask .trigger]
    Reachable .exact w ∧ asksIn w.journal = 3 ∧ limitedAttemptsIn w.journal = [5, 0] ∧
      Spaced (.whole 5) w.tracker.limiter w.journal := by
  intro around ask w
  have reachable : Reachable .exact w :=
    ((((((Reachable.fresh (by decide) (by decide) 0).performed (ask .trigger)).performed
      (ask (.elapse 3))).performed (ask .trigger)).performed (ask .fullRescan)).performed
        (ask (.elapse 2))).performed (ask .trigger)
  have asks : asksIn w.journal = 3 := by decide +kernel
  have attempts : limitedAttemptsIn w.journal = [5, 0] := by decide +kernel
  exact ⟨reachable, asks, attempts, (Reachable.rebuilds_spaced reachable).2.1⟩

end ApiSurface.Tracker
