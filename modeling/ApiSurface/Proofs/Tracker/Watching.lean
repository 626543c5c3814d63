import ApiSurface.Proofs.Tracker.Interruption
import ApiSurface.Proofs.Tracker.Reconnection
import ApiSurface.Proofs.Tracker.Removal

/-!
# What a watch comes to

A watch applies the changes that its stream reports before it is closed, and no others,
in their order. How the stream is closed settles what the watch returns and whether it is
counted as gone wrong; a watch that returns nothing, over a refusal whose status cannot be
looked up, is counted too. Whatever happens, the watch is closed at its end, by itself and
once.
-/

namespace ApiSurface.Tracker

variable {τ : Type} {ctx : Context τ} {stop : Signal} {closing : Closing}
variable {before rest : List (StreamItem τ)} {w mid after : World τ}

/-! ## Going on -/

/-- From one world to another these events were applied, in order, so many streams were counted as
gone wrong, and a watch that was open stayed so. -/
structure Progress (events : List CrdEvent) (errors : Nat) (w w' : World τ) : Prop where
  applied : appliedIn w'.journal = events.reverse ++ appliedIn w.journal
  counted : countOf .watchErrors w'.journal = countOf .watchErrors w.journal + errors
  interrupted : Interrupted w w'

namespace Progress

variable {events events' : List CrdEvent} {errors errors' : Nat} {w' w'' : World τ}

theorem trans (first : Progress events errors w w') (second : Progress events' errors' w' w'') :
    Progress (events ++ events') (errors + errors') w w'' where
  applied := by
    rw [second.applied, first.applied, List.reverse_append, List.append_assoc]
  counted := by
    rw [second.counted, first.counted, Nat.add_assoc]
  interrupted := trans_of Interrupted first.interrupted second.interrupted

/-- Where nothing happens to streams and no event is applied. -/
theorem of_unstreamed (unstreamed : Unstreamed w w') (interrupted : Interrupted w w') :
    Progress [] 0 w w' :=
  ⟨unstreamed.applied, unstreamed.errors, interrupted⟩

/-- An entry that says neither that an event was applied nor that a stream went wrong. -/
theorem noted {entry : Entry τ} (unapplied : entry.applied? = none)
    (uncounted : entry.isCount .watchErrors = false) (routine : entry.isRoutine = true) :
    Progress [] 0 w { w with journal := entry :: w.journal } where
  applied := List.filterMap_cons_none unapplied
  counted := List.countP_cons_of_neg (by simp [uncounted])
  interrupted := Routine.noted routine

/-- A stream is counted as gone wrong. -/
theorem failed (w : World τ) : Progress [] 1 w w.streamFailed :=
  ⟨rfl, List.countP_cons_of_pos rfl, .noted rfl⟩

end Progress

/-! ## Opening, reading and closing -/

/-- Opening a stream applies nothing, and is no error. -/
theorem World.opened_progress (w : World τ) :
    Progress [] 0 { w with tracker := { w.tracker with watching := true } } w.watched.opened := by
  have counted :
      Progress [] 0 { w with tracker := { w.tracker with watching := true } } w.watched := by
    unfold World.watched World.streamCounted
    dsimp only
    split
    · exact ⟨rfl, rfl, fun watching => ⟨watching, [.counted .reconnects], rfl, rfl⟩⟩
    · exact ⟨rfl, rfl, .of_journal rfl rfl⟩
  exact counted.trans (.noted rfl rfl rfl)

/-- A stream is counted as gone wrong unless it was closed by its end or a stop. -/
def Closing.errors : Closing → Nat
  | stopped => 0
  | exhausted => 0
  | _ => 1

/-- Closing a stream applies nothing, and counts it if it went wrong. -/
theorem World.followedTo_progress (mid : World τ) (closing : Closing) :
    Progress [] closing.errors mid (mid.followedTo closing) := by
  cases closing with
  | stopped | exhausted => exact .noted rfl rfl rfl
  | spoken status =>
    have decoded : Progress [] 0 mid (mid.decoded (.error status)) := .noted rfl rfl rfl
    exact (decoded.trans (.failed _)).trans (.noted rfl rfl rfl)
  | broken fault =>
    have counted : Op.count .watchErrors mid = (.ok (), mid.streamFailed) := rfl
    rw [followedTo, reportWatchFailure, Op.bind_of_ok counted]
    cases watchFailure fault with
    | ok entry => exact (Progress.failed mid).trans (.noted rfl rfl rfl)
    | error kind => exact .failed mid

variable [Scalar τ]

/-- Reading applies the changes that are reported, in order, and counts no stream as gone wrong. -/
theorem Reads.progress (lawful : ctx.Lawful Unstreamed)
    (acts : ∀ action w, Interrupted w (ctx.act action w)) (reads : Reads ctx stop w before mid) :
    Progress (before.filterMap StreamItem.change?) 0 w mid := by
  induction reads with
  | nil => exact ⟨rfl, rfl, refl_of Interrupted _⟩
  | action later ih =>
    exact (Progress.of_unstreamed (lawful.acts _ _) (acts _ _)).trans ih
  | @passedOver w after raw why items unset malformed later ih =>
    have silent : StreamItem.change? (.event raw : StreamItem τ) = none := by
      rw [StreamItem.change?, malformed]
    have warned : Progress [] 0 w (w.passedOver why) := .noted rfl rfl rfl
    rw [List.filterMap_cons_none silent]
    exact warned.trans ih
  | @applied w after raw event items unset reports later ih =>
    have spoken : StreamItem.change? (.event raw : StreamItem τ) = some event := by
      rw [StreamItem.change?, reports]
    have decoded : Progress [] 0 w (w.decoded (.change event)) := .noted rfl rfl rfl
    obtain ⟨applied, errors⟩ := lawful.applied event (some stop) (w.decoded (.change event))
    have handled : Progress [event] 0 (w.decoded (.change event)) _ :=
      ⟨applied, errors, (Context.under_along acts).handleEvent askLimiter_interrupted event _ _⟩
    rw [List.filterMap_cons_some spoken]
    exact (decoded.trans handled).trans ih

/-! ## What a watch comes to -/

/-- What a watch comes to whose stream was read so far and closed so. -/
structure Watched (w : World τ) (before : List (StreamItem τ)) (closing : Closing)
    (ended : Except Fault Bool × World τ) : Prop where
  /-- The changes that were reported before the stream was closed are applied, in order. -/
  applied : appliedIn ended.2.journal =
    (before.filterMap StreamItem.change?).reverse ++ appliedIn w.journal
  /-- It returns that the stream was healthy exactly if a stop or its end closed it. -/
  healthy : ended.1 = .ok true ↔ closing = .stopped ∨ closing = .exhausted
  /-- It fails exactly if the stream broke with a status that cannot be looked up. -/
  fails : ∀ fault, ended.1 = .error fault ↔
    fault = .misuse .wrongType ∧ ∃ cause, closing = .broken cause ∧ cause.isLegible = false
  /-- A stream is counted as gone wrong, once, unless it was healthy. -/
  counted : countOf .watchErrors ended.2.journal = countOf .watchErrors w.journal + closing.errors
  /-- The watch is stopped at the end, and before it by calls that stop the tracker alone. -/
  stopped : ∃ news, ended.2.journal = .stoppedWatch :: news ++ w.journal ∧
    interruptionsIn news = shutdownsIn news
  unwatched : ended.2.tracker.watching = false

theorem Closing.result_eq_ok_true_iff :
    closing.result = .ok true ↔ closing = .stopped ∨ closing = .exhausted := by
  cases closing with
  | broken fault => cases legible : fault.isLegible <;> simp [result, legible]
  | _ => simp [result]

theorem Closing.result_eq_error_iff {fault : Fault} :
    closing.result = .error fault ↔
      fault = .misuse .wrongType ∧ ∃ cause, closing = .broken cause ∧ cause.isLegible = false := by
  cases closing with
  | broken cause =>
    cases legible : cause.isLegible with
    | true => simp [result, legible]
    | false => simp [result, legible, eq_comm (a := fault)]
  | _ => simp [result]

/-- A watch comes to what its course says. -/
theorem WatchCourse.watched (lawful : ctx.Lawful Unstreamed)
    (acts : ∀ action w, Interrupted w (ctx.act action w)) (unset : w.isSet stop = false)
    (course : WatchCourse ctx stop w.watched before rest closing mid) :
    Watched w before closing (Tracker.watchOnce ctx stop w) := by
  have opened : Progress [] 0 _ w.watched.opened := w.opened_progress
  have read : Progress (before.filterMap StreamItem.change?) 0 w.watched.opened mid := by
    cases course with
    | refused => exact ⟨rfl, rfl, refl_of Interrupted _⟩
    | read _ _ reads _ =>
      have announced : Progress [] 0 w.watched.opened
          (w.watched.opened.reported "Starting CRD watch") := .noted rfl rfl rfl
      exact announced.trans (reads.progress lawful acts)
  have followed := (opened.trans read).trans (mid.followedTo_progress closing)
  obtain ⟨_, news, journal, balanced⟩ := followed.interrupted rfl
  have applied : appliedIn (mid.followedTo closing).journal =
      (before.filterMap StreamItem.change?).reverse ++ appliedIn w.journal := by
    simpa using followed.applied
  have counted : countOf .watchErrors (mid.followedTo closing).journal =
      countOf .watchErrors w.journal + closing.errors := by
    simpa using followed.counted
  rw [course.watchOnce unset]
  exact ⟨applied, Closing.result_eq_ok_true_iff, fun _ => Closing.result_eq_error_iff, counted,
    ⟨news, congrArg (List.cons _) journal, balanced⟩, rfl⟩

/-- In every world that a run comes to, each stream but the first was a reconnect. In every state in
which no stop is set, a watch reads its stream to where it is closed: it passes over malformed
events with a warning, applies the changes before that, in order, and returns that the stream was
healthy exactly if a stop or its end closed it; otherwise it is counted as gone wrong. It fails only
if the stream broke with a status that cannot be looked up. The watch is closed at its end, by
itself and once. Where nobody looks at the warnings, the malformed events that were passed over may
be taken out of the stream; and unless a stop closed it, all malformed events may. -/
theorem Reachable.watch_semantics {settings : Settings τ} (reachable : Reachable settings w) :
    countOf .reconnects w.journal = openingsIn w.journal - 1 ∧
    ∀ (around : Surroundings τ) outer depth stop (start : World τ), start.isSet stop = false →
      let ctx := Context.nested around outer depth
      ∃ before rest closing mid, WatchCourse ctx stop start.watched before rest closing mid ∧
        Watched start before closing (watchOnce ctx stop start) ∧
        (around.Overlooks → (∀ subscriber ∈ start.tracker.subscribers, subscriber.Overlooks) →
          (∀ rest', rest'.head? = rest.head? →
            WatchesAlike around outer depth stop start (withoutMalformed before ++ rest')) ∧
          (closing ≠ .stopped → WatchesAlike around outer depth stop start
            (withoutMalformed (around.stream start.watched.opened.journal).items))) := by
  refine ⟨reachable.connected.reconnects, fun around outer depth stop start unset => ?_⟩
  have lawful : (Context.nested around outer depth).Lawful Unstreamed :=
    Context.nested_aloof around outer depth
  have acts := Context.nested_interrupted around outer depth
  obtain ⟨before, rest, closing, mid, course⟩ :=
    exists_course (Context.nested around outer depth) stop start.watched
  exact ⟨before, rest, closing, mid, course, course.watched lawful acts unset,
    fun overlooks subscribers =>
      ⟨fun rest' head => course.withoutMalformed unset overlooks subscribers head,
        course.withoutAnyMalformed unset overlooks subscribers⟩⟩

/-- A stream brings an event that cannot be read, an addition and the server's last word: the watch
comes to the same without the first of them. -/
theorem watch_semantics_after_last_word :
    let added : Value := .record [("type", .text "ADDED"),
      ("object", .record [("metadata", .record [("uid", .text "first")])])]
    let items : List (StreamItem Rat) :=
      [.event (.record []), .event added, .event (.record [("type", .text "ERROR")])]
    let around : Surroundings Rat :=
      { Surroundings.steady (.ok []) (fun _ => .ok none) (.ok []) with
        stream := fun _ => { refusal := none, items, ending := none } }
    let w := World.fresh .exact 0
    let ended := watchOnce (Context.nested around none 1) 0 w
    Reachable .exact w ∧ w.isSet 0 = false ∧ around.Overlooks ∧
      (∀ subscriber ∈ w.tracker.subscribers, subscriber.Overlooks) ∧ ended.1 = .ok false ∧
      countOf .watchErrors ended.2.journal = 1 ∧ (appliedIn ended.2.journal).length = 1 ∧
      WatchesAlike around none 1 0 w (withoutMalformed items) := by
  intro added items around w ended
  have reachable : Reachable .exact w := .fresh (by decide) (by decide) 0
  have overlooks : around.Overlooks := ⟨fun _ => rfl, fun _ _ => rfl⟩
  have subscribers : ∀ subscriber ∈ w.tracker.subscribers, subscriber.Overlooks :=
    List.forall_mem_nil _
  have unhealthy : ended.1 = .ok false := rfl
  obtain ⟨_, watches⟩ := Reachable.watch_semantics reachable
  obtain ⟨before, rest, closing, mid, _, comes, alike⟩ := watches around none 1 0 w rfl
  have unstopped : closing ≠ .stopped := fun stopped => by
    cases unhealthy.symm.trans (comes.healthy.mpr (.inl stopped))
  exact ⟨reachable, rfl, overlooks, subscribers, unhealthy, by decide +kernel, by decide +kernel,
    (alike overlooks subscribers).2 unstopped⟩

/-- A stream that breaks off with a list for its status is counted, and the watch of it fails. -/
theorem watch_counted_without_return :
    let around : Surroundings Rat :=
      { Surroundings.steady (.ok []) (fun _ => .ok none) (.ok []) with
        stream := fun _ =>
          { refusal := none, items := [],
            ending := some (.refused (.list [.int 403]) (.text "Forbidden")) } }
    let w := World.fresh .exact 0
    let ended := watchOnce (Context.nested around none 1) 0 w
    Reachable .exact w ∧ w.isSet 0 = false ∧ ended.1 = .error (.misuse .wrongType) ∧
      countOf .watchErrors w.journal = 0 ∧ countOf .watchErrors ended.2.journal = 1 :=
  ⟨.fresh (by decide) (by decide) 0, rfl, rfl, rfl, by decide +kernel⟩

end ApiSurface.Tracker
