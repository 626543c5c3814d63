import ApiSurface.Proofs.Tracker.Overlooking

/-!
# Streams without malformed events

Malformed events that were passed over may be taken out of a stream: in surroundings that
bring what is left of it, a watch is closed in the same way and comes to the same result,
in a world that is like the other but for the warnings.
-/

namespace ApiSurface.Tracker

variable {τ : Type}

/-- The surroundings in which another stream is brought. -/
def Surroundings.streaming (around : Surroundings τ) (stream : Stream τ) : Surroundings τ :=
  { around with stream := fun _ => stream }

namespace Context

/-- The same context where the surroundings bring another stream. -/
def streaming (ctx : Context τ) (stream : Stream τ) : Context τ :=
  { ctx with around := ctx.around.streaming stream }

variable (ctx : Context τ) (stream : Stream τ)

/-! ## What does not depend on the stream -/

theorem scanAll_streaming (stop : Signal) (groupVersions : List GroupVersion) (pass : Pass) :
    Pass.scanAll (ctx.streaming stream) stop groupVersions pass =
      Pass.scanAll ctx stop groupVersions pass := by
  induction groupVersions generalizing pass with
  | nil => rfl
  | cons gv rest ih => exact congrArg (Pass.scan ctx stop pass gv >>= ·) (funext ih)

theorem rebuild_streaming (given : Option Signal) :
    rebuild (ctx.streaming stream) given = rebuild ctx given := by
  simp only [rebuild, rebuildLocked, discover, Pass.run, scanAll_streaming]
  rfl

theorem collectAndNotify_streaming (given : Option Signal) :
    collectAndNotify (ctx.streaming stream) given = collectAndNotify ctx given := by
  simp only [collectAndNotify, rebuild_streaming]
  rfl

variable [Scalar τ]

theorem trigger_streaming (given : Option Signal) :
    trigger (ctx.streaming stream) given = trigger ctx given := by
  simp only [trigger, collectAndNotify_streaming]

theorem handleEvent_streaming (event : CrdEvent) (given : Option Signal) :
    handleEvent (ctx.streaming stream) event given = handleEvent ctx event given := by
  simp only [handleEvent, answerEvent, trigger_streaming]

theorem perform_streaming (action : Action τ) :
    perform (ctx.streaming stream) action = perform ctx action := by
  have effect : effectOf (ctx.streaming stream) action = effectOf ctx action := by
    cases action with
    | rebuild => simp only [effectOf, rebuildDirectly, rebuild_streaming]
    | trigger =>
      simp only [effectOf, trigger_streaming]
      rfl
    | _ => rfl
  funext w
  rw [perform, perform, effect]

/-- Calls back do not depend on the stream. -/
theorem nested_streaming (around : Surroundings τ) (given : Option Signal) (depth : Nat) :
    nested (around.streaming stream) given depth =
      (nested around given depth).streaming stream := by
  induction depth with
  | zero => rfl
  | succ depth ih =>
    have acts : perform (nested (around.streaming stream) given depth) =
        perform (nested around given depth) :=
      funext fun action => ih ▸ perform_streaming _ stream action
    rw [nested, acts]
    rfl

end Context

variable [Scalar τ] {ctx : Context τ} {stop : Signal} {ending : Option Fault} {closing : Closing}
variable {items before rest rest' : List (StreamItem τ)} {w w' mid : World τ}

/-- The items of a stream that are no malformed events. -/
def withoutMalformed (items : List (StreamItem τ)) : List (StreamItem τ) :=
  items.filter fun item => !item.isMalformed

/-! ## Reading what is left -/

/-- What is read is read wherever it is brought from. -/
theorem Reads.streaming (stream : Stream τ) (reads : Reads ctx stop w before mid) :
    Reads (ctx.streaming stream) stop w before mid := by
  induction reads with
  | nil => exact .nil
  | action later ih => exact .action ih
  | passedOver unset malformed later ih => exact .passedOver unset malformed ih
  | applied unset reports later ih =>
    refine .applied unset reports ?_
    rw [Context.handleEvent_streaming]
    exact ih

/-- What was read without its malformed events is read in the same way, and leads to a world that
differs in overlooked warnings at most. -/
theorem Reads.withoutMalformed (overlooks : ctx.Overlooks) (reads : Reads ctx stop w before mid)
    (overlooked : Overlooked w w') :
    ∃ mid', Reads ctx stop w' (withoutMalformed before) mid' ∧ Overlooked mid mid' := by
  -- The two readings go in step, but over a malformed event the other world stays where it is.
  induction reads generalizing w' with
  | nil => exact ⟨w', .nil, overlooked⟩
  | action later ih =>
    obtain ⟨mid', reads', still⟩ := ih (overlooks.acts _ overlooked)
    exact ⟨mid', .action reads', still⟩
  | @passedOver w after raw why items unset malformed later ih =>
    have dropped :
        Tracker.withoutMalformed (.event raw :: items) = Tracker.withoutMalformed items :=
      List.filter_cons_of_neg (by simp [StreamItem.isMalformed, malformed])
    rw [dropped]
    refine ih ⟨{ overlooked.toAlike with seen := ?_ }, overlooked.subscribers⟩
    exact overlooked.seen.trans (seenIn_passedOver w why).symm
  | @applied w after raw event items unset reports later ih =>
    have kept : Tracker.withoutMalformed (.event raw :: items) =
        .event raw :: Tracker.withoutMalformed items :=
      List.filter_cons_of_pos (by simp [StreamItem.isMalformed, reports])
    have handled := overlooks.under.handleEvent askLimiter_overlooks event (some stop)
      (w.decoded (.change event)) (w'.decoded (.change event)) (overlooked.noted _)
    obtain ⟨mid', reads', still⟩ := ih handled.2
    rw [kept]
    exact ⟨mid', .applied ((overlooked.isSet stop).trans unset) reports reads', still⟩

omit [Scalar τ] in
/-- A stream is closed in the same way where the same signals are set and the same item is next. -/
theorem Closes.of_head (closes : Closes stop ending w rest closing)
    (signals : w'.isSet stop = w.isSet stop) (head : rest'.head? = rest.head?) :
    Closes stop ending w' rest' closing := by
  cases closes with
  | stopped set =>
    obtain ⟨_, rfl⟩ := List.head?_eq_some_iff.mp head
    exact .stopped (signals.trans set)
  | exhausted ended =>
    cases List.head?_eq_none_iff.mp head
    exact .exhausted ended
  | spoken unset decodes =>
    obtain ⟨_, rfl⟩ := List.head?_eq_some_iff.mp head
    exact .spoken (signals.trans unset) decodes
  | uninterpreted unset fails =>
    obtain ⟨_, rfl⟩ := List.head?_eq_some_iff.mp head
    exact .uninterpreted (signals.trans unset) fails
  | broken ended =>
    cases List.head?_eq_none_iff.mp head
    exact .broken ended

omit [Scalar τ] in
/-- Unless a stop closed the stream, the item that did was no malformed event. -/
theorem Closes.head_withoutMalformed (closes : Closes stop ending w rest closing)
    (unstopped : closing ≠ .stopped) : (withoutMalformed rest).head? = rest.head? := by
  cases closes with
  | stopped set => exact absurd rfl unstopped
  | exhausted | broken => rfl
  | spoken unset decodes | uninterpreted unset decodes =>
    rw [withoutMalformed, List.filter_cons_of_pos (by simp [StreamItem.isMalformed, decodes])]
    rfl

omit [Scalar τ] in
/-- What is left where a stream is closed differs in overlooked warnings at most. -/
theorem Overlooked.followedTo (overlooked : Overlooked w w') (closing : Closing) :
    Overlooked (w.followedTo closing) (w'.followedTo closing) := by
  cases closing with
  | stopped | exhausted => exact overlooked.noted _
  | spoken status => exact ((overlooked.noted _).noted _).noted _
  | broken fault =>
    have reported : (reportWatchFailure fault : Op τ Bool).Overlooks := by
      refine Discipline.overlooking.bind (record_overlooks _) fun _ => ?_
      split
      · exact Discipline.overlooking.bind (record_overlooks _) fun _ =>
          Discipline.overlooking.pure _
      · exact Discipline.overlooking.raise _
    exact (reported w w' overlooked).2

/-! ## Watching what is left -/

/-- In surroundings whose stream brings other items, a watch comes to the same result in a world
that is like the other. -/
def WatchesAlike (around : Surroundings τ) (outer : Option Signal) (depth : Nat) (stop : Signal)
    (w : World τ) (items : List (StreamItem τ)) : Prop :=
  let other := around.streaming { around.stream w.watched.opened.journal with items }
  let ended := watchOnce (Context.nested around outer depth) stop w
  let ended' := watchOnce (Context.nested other outer depth) stop w
  ended'.1 = ended.1 ∧ Alike ended.2 ended'.2

section Watching

variable {around : Surroundings τ} {outer : Option Signal} {depth : Nat}
variable (unset : w.isSet stop = false)
variable (course : WatchCourse (Context.nested around outer depth) stop w.watched before rest
  closing mid)
include unset course

/-- Streams that are closed in the same way in worlds that differ in overlooked warnings at most are
watched alike. -/
theorem WatchCourse.watchesAlike {before' : List (StreamItem τ)} {mid' : World τ}
    (course' : WatchCourse ((Context.nested around outer depth).streaming
      { around.stream w.watched.opened.journal with items }) stop w.watched before' rest' closing
        mid') (overlooked : Overlooked mid mid') :
    WatchesAlike around outer depth stop w items := by
  have followed := overlooked.followedTo closing
  have closed := followed.updated (f := fun tracker => { tracker with watching := false })
    followed.subscribers
  rw [WatchesAlike, Context.nested_streaming, course.watchOnce unset, course'.watchOnce unset]
  exact ⟨rfl, (closed.noted .stoppedWatch).toAlike⟩

variable (overlooks : around.Overlooks)
variable (subscribers : ∀ subscriber ∈ w.tracker.subscribers, subscriber.Overlooks)
include overlooks subscribers

/-- Malformed events that were passed over may be taken out of a stream, and what comes after the
item that closed it may be anything. -/
theorem WatchCourse.withoutMalformed (head : rest'.head? = rest.head?) :
    WatchesAlike around outer depth stop w (withoutMalformed before ++ rest') := by
  have itself : ∀ {w : World τ}, (∀ subscriber ∈ w.tracker.subscribers, subscriber.Overlooks) →
      Overlooked w w := fun unaware => ⟨⟨rfl, rfl, rfl, rfl, rfl⟩, unaware⟩
  -- The course is still needed for the watch that it is the course of.
  cases id course with
  | refused refusal =>
    rw [Context.nested_around] at refusal
    exact course.watchesAlike unset (.refused refusal) (itself subscribers)
  | read accepted items reads closes =>
    rw [Context.nested_around] at accepted closes
    obtain ⟨mid', reads', overlooked⟩ := reads.withoutMalformed
      (Context.nested_overlooks overlooks outer depth) (itself subscribers)
    exact course.watchesAlike unset (.read accepted rfl (reads'.streaming _)
      (closes.of_head (overlooked.isSet stop) head)) overlooked

/-- Unless a stop closed the stream, all malformed events may be taken out of it. -/
theorem WatchCourse.withoutAnyMalformed (unstopped : closing ≠ .stopped) :
    WatchesAlike around outer depth stop w
      (Tracker.withoutMalformed (around.stream w.watched.opened.journal).items) := by
  cases id course with
  | refused refusal =>
    rw [Context.nested_around] at refusal
    exact course.watchesAlike unset (.refused refusal) ⟨⟨rfl, rfl, rfl, rfl, rfl⟩, subscribers⟩
  | read accepted items reads closes =>
    rw [Context.nested_around] at items
    rw [items, Tracker.withoutMalformed, List.filter_append]
    exact course.withoutMalformed unset overlooks subscribers
      (closes.head_withoutMalformed unstopped)

end Watching

end ApiSurface.Tracker
