import ApiSurface.Proofs.Retry
import ApiSurface.Proofs.Tracker.Moves
import ApiSurface.Tracker.Watch

/-!
# How a stream is opened and closed

A watch that finds no stop set counts its stream, opens it, follows it and is closed
again, whatever came of the stream. What happens in between is up to the stream; what the
watch does around it, and between one stream and the next, is written out here, world by
world.
-/

namespace ApiSurface.Tracker

variable {τ : Type}

namespace World

/-- The world in which something was reported. -/
def reported (w : World τ) (message : Text) : World τ :=
  { w with journal := .logged ⟨.info, message⟩ :: w.journal }

/-- The world in which a stream about to be opened was counted. -/
def streamCounted (w : World τ) : World τ :=
  { w with
      tracker := { w.tracker with streams := w.tracker.streams + 1 }
      journal := if 0 < w.tracker.streams then .counted .reconnects :: w.journal else w.journal }

/-- The world in which a stream is about to be opened. -/
def watched (w : World τ) : World τ :=
  streamCounted { w with tracker := { w.tracker with watching := true } }

/-- The world in which a stream was opened. -/
def opened (w : World τ) : World τ :=
  { w with journal := .openedStream w.tracker.settings.watchTimeout :: w.journal }

/-- The world in which a watch was closed. -/
def watchClosed (w : World τ) : World τ :=
  { w with
      tracker := { w.tracker with watching := false }
      journal := .stoppedWatch :: w.journal }

end World

/-- Counting a stream is the whole of what it does. -/
theorem countStream_apply (w : World τ) : countStream w = (.ok (), w.streamCounted) := by
  rw [countStream, Op.bind_apply, Op.tracker, World.streamCounted]
  dsimp only
  split <;> rfl

/-- What is logged about a stream that failed is an error. -/
theorem watchFailure_severity {fault : Fault} {entry : LogEntry}
    (reported : watchFailure fault = .ok entry) : entry.severity = .error := by
  cases fault with
  | refused status reason =>
    simp only [watchFailure] at reported
    cases denies : deniesAccess status with
    | error kind =>
      rw [denies] at reported
      cases reported
    | ok denied =>
      rw [denies] at reported
      cases denied <;> cases reported <;> rfl
  | _ =>
    cases reported
    rfl

variable [Scalar τ] {stop : Signal} {w : World τ}

/-- A stream that is opened is refused, or read. -/
theorem openStream_apply (ctx : Context τ) (stop : Signal) (w : World τ) :
    openStream ctx stop w =
      match (ctx.around.stream w.opened.journal).refusal with
      | some fault => (.error fault, w.opened)
      | none =>
        readStream ctx stop (ctx.around.stream w.opened.journal).ending
          (ctx.around.stream w.opened.journal).items (w.opened.reported "Starting CRD watch") := by
  have opened : Op.record (.openedStream w.tracker.settings.watchTimeout) w = (.ok (), w.opened) :=
    rfl
  rw [openStream, Op.bind_apply, Op.tracker]
  dsimp only
  rw [Op.bind_of_ok opened, Op.bind_apply, Op.world]
  dsimp only
  cases (ctx.around.stream w.opened.journal).refusal <;> rfl

/-- A watch that finds no stop set ends as its stream is followed, and is closed whatever comes of
that. -/
theorem watchOnce_of_unset (ctx : Context τ) (unset : w.isSet stop = false) :
    watchOnce ctx stop w =
      ((followStream ctx stop w.watched).1, (followStream ctx stop w.watched).2.watchClosed) := by
  have watching : setWatching true w =
      (.ok (), { w with tracker := { w.tracker with watching := true } }) := rfl
  have stopSet : Context.stopSet stop
      { w with tracker := { w.tracker with watching := true } } =
        (.ok false, { w with tracker := { w.tracker with watching := true } }) := by
    rw [Context.stopSet_apply]
    exact congrArg (fun set => (Except.ok set, _)) unset
  rw [watchOnce, Op.bind_of_ok watching, Op.bind_of_ok stopSet, if_neg Bool.false_ne_true,
    Op.bind_of_ok (countStream_apply _), Op.bind_apply, Op.attempt_apply]
  exact Op.conclude_apply ..

/-- A watch that finds the stop set ends at once and counts as healthy. -/
theorem watchOnce_of_set {ctx : Context τ} (set : w.isSet stop = true) :
    watchOnce ctx stop w =
      (.ok true, { w with tracker := { w.tracker with watching := false } }) := by
  have watching : setWatching true w =
      (.ok (), { w with tracker := { w.tracker with watching := true } }) := rfl
  have stopSet : Context.stopSet stop
      { w with tracker := { w.tracker with watching := true } } =
        (.ok true, { w with tracker := { w.tracker with watching := true } }) := by
    rw [Context.stopSet_apply]
    exact congrArg (fun set => (Except.ok set, _)) set
  rw [watchOnce, Op.bind_of_ok watching, Op.bind_of_ok stopSet]
  rfl

/-- However a watch ends, it is closed. -/
theorem watchOnce_unwatched (ctx : Context τ) (stop : Signal) (w : World τ) :
    (watchOnce ctx stop w).2.tracker.watching = false := by
  cases set : w.isSet stop with
  | true => rw [watchOnce_of_set set]
  | false =>
    rw [watchOnce_of_unset ctx set]
    rfl

/-! ## Between streams -/

section Waits

variable {ctx : Context τ} {entry : Entry τ} {length : τ} {after : World τ}

/-- A wait is too long to be made, which does nothing, or it is made. -/
theorem Context.wait_cases {result : Except Fault Bool}
    (wait : ctx.wait entry length stop w = (result, after)) :
    (result = .error (.misuse .outOfRange) ∧ after = w ∧ ctx.around.overlong length = true ∧
      w.isSet stop = false) ∨
    ∃ woken, result = .ok woken ∧ ctx.waitOut entry length stop w = (woken, after) := by
  unfold Context.wait at wait
  split at wait
  next refused =>
    obtain ⟨rfl, rfl⟩ := Prod.mk.inj wait
    obtain ⟨overlong, unset⟩ := Bool.and_eq_true_iff.mp refused
    exact .inl ⟨rfl, rfl, overlong, by simpa using unset⟩
  next =>
    obtain ⟨rfl, rfl⟩ := Prod.mk.inj wait
    exact .inr ⟨_, rfl, rfl⟩

/-- A wait is made where the stop signal is set, however long it is. -/
theorem Context.wait_of_set (ctx : Context τ) (entry : Entry τ) (length : τ)
    (set : w.isSet stop = true) :
    ctx.wait entry length stop w =
      (.ok (ctx.waitOut entry length stop w).1, (ctx.waitOut entry length stop w).2) := by
  simp [wait, set]

variable {R : World τ → World τ → Prop} [IsPreorder (World τ) R]

/-- Waiting moves along a relation if a wait that is made does. -/
theorem Context.wait_moves (made : ∀ w, R w (ctx.waitOut entry length stop w).2) :
    (ctx.wait entry length stop).Moves R := by
  intro w
  cases wait : ctx.wait entry length stop w with
  | mk result after =>
    rcases wait_cases wait with ⟨_, rfl, _⟩ | ⟨woken, _, waited⟩
    · exact refl after
    · have here := made w
      rwa [waited] at here

/-- Watching forever moves along a relation if watches, waits and its last report do. -/
theorem watchForever_moves (watches : (watchOnce ctx stop).Moves R)
    (waits : ∀ delay, (ctx.wait (.waited delay) delay stop).Moves R)
    (reports : (Op.log .info "Stopping CRD watch").Moves R) (rounds : Nat) (draws : Draws τ) :
    (watchForever ctx stop rounds draws).Moves R := by
  intro w
  have run := Retry.forever_related (watchTask ctx stop) watches waits Backoff.reconnecting rounds
    draws w
  unfold watchForever
  dsimp only
  split
  next fault _ =>
    refine trans_of R run ?_
    unfold endWatching
    split
    · exact Op.Moves.bind reports (fun _ => .pure _) _
    · exact Op.Moves.raise fault _
  next => exact run

end Waits

end ApiSurface.Tracker
