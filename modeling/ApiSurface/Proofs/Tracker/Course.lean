import ApiSurface.Proofs.Tracker.Containment

/-!
# The course of a watch

A stream is read item by item as long as it goes well: malformed events are passed over
and changes are applied. Then it comes to its close, in one of four ways, and how it was
closed settles what the watch returns and what it leaves behind. So what a watch does is
where its stream was closed, and how.
-/

namespace ApiSurface.Tracker

variable {τ : Type}

/-- The change that an item of a stream reports, if it is one. -/
def StreamItem.change? : StreamItem τ → Option CrdEvent
  | event raw =>
    match WatchEvent.decode raw with
    | .ok (.change reported) => some reported
    | _ => none
  | action _ => none

/-- Whether an item of a stream is a malformed event. -/
def StreamItem.isMalformed : StreamItem τ → Bool
  | event raw =>
    match WatchEvent.decode raw with
    | .error (.malformed _) => true
    | _ => false
  | action _ => false

/-- How a stream was closed. -/
inductive Closing where
  /-- An event came after a stop. -/
  | stopped
  /-- The stream was at its end. -/
  | exhausted
  /-- The server had its last word. -/
  | spoken (status : StreamError)
  /-- The stream was refused or broke off, or an event could not be interpreted. -/
  | broken (fault : Fault)

/-- What reading a stream comes to. -/
def Closing.read : Closing → Except Fault Bool
  | stopped => .ok true
  | exhausted => .ok true
  | spoken _ => .ok false
  | broken fault => .error fault

/-- What the watch of a stream comes to. -/
def Closing.result : Closing → Except Fault Bool
  | stopped => .ok true
  | exhausted => .ok true
  | spoken _ => .ok false
  | broken fault => if fault.isLegible then .ok false else .error (.misuse .wrongType)

namespace World

/-- The world in which a malformed event was passed over. -/
def passedOver (w : World τ) (why : MalformedEvent) : World τ :=
  { w with
      journal :=
        .logged ⟨.warning, "Ignoring malformed CRD watch event: " ++ why.message⟩ :: w.journal }

/-- The world in which an event was decoded. -/
def decoded (w : World τ) (event : WatchEvent) : World τ :=
  { w with journal := .decoded event :: w.journal }

/-- What reading a stream leaves behind where it is closed. -/
def readTo (w : World τ) : Closing → World τ
  | .stopped => w.reported "CRD watch stream closed"
  | .exhausted => w.reported "CRD watch stream closed"
  | .spoken status =>
    { w with
        journal :=
          .logged ⟨.warning, "CRD watch error event received (code=" ++ codeText status.code ++
            ", reason=" ++ status.reason ++ "): " ++ status.message⟩ ::
              .counted .watchErrors :: .decoded (.error status) :: w.journal }
  | .broken _ => w

/-- What following a stream leaves behind where it is closed: what broke it off is reported. -/
def followedTo (w : World τ) : Closing → World τ
  | .broken fault => (reportWatchFailure fault w).2
  | closing => w.readTo closing

end World

/-- A stream is closed where these items are still to come. -/
inductive Closes (stop : Signal) (ending : Option Fault) (w : World τ) :
    List (StreamItem τ) → Closing → Prop where
  | stopped {raw : Value} {rest : List (StreamItem τ)} (set : w.isSet stop = true) :
      Closes stop ending w (.event raw :: rest) .stopped
  | exhausted (ended : ending = none) : Closes stop ending w [] .exhausted
  | spoken {raw : Value} {rest : List (StreamItem τ)} {status : StreamError}
      (unset : w.isSet stop = false) (decodes : WatchEvent.decode raw = .ok (.error status)) :
      Closes stop ending w (.event raw :: rest) (.spoken status)
  | uninterpreted {raw : Value} {rest : List (StreamItem τ)} {kind : Misuse}
      (unset : w.isSet stop = false) (fails : WatchEvent.decode raw = .error (.misuse kind)) :
      Closes stop ending w (.event raw :: rest) (.broken (.misuse kind))
  | broken {fault : Fault} (ended : ending = some fault) : Closes stop ending w [] (.broken fault)

variable [Scalar τ]

/-- Items are read, from one world to another, with no stop seen before any event. -/
inductive Reads (ctx : Context τ) (stop : Signal) :
    World τ → List (StreamItem τ) → World τ → Prop where
  | nil {w : World τ} : Reads ctx stop w [] w
  | action {w after : World τ} {action : Action τ} {rest : List (StreamItem τ)}
      (later : Reads ctx stop (ctx.act action w) rest after) :
      Reads ctx stop w (.action action :: rest) after
  | passedOver {w after : World τ} {raw : Value} {why : MalformedEvent}
      {rest : List (StreamItem τ)} (unset : w.isSet stop = false)
      (malformed : WatchEvent.decode raw = .error (.malformed why))
      (later : Reads ctx stop (w.passedOver why) rest after) :
      Reads ctx stop w (.event raw :: rest) after
  | applied {w after : World τ} {raw : Value} {event : CrdEvent} {rest : List (StreamItem τ)}
      (unset : w.isSet stop = false) (reports : WatchEvent.decode raw = .ok (.change event))
      (later : Reads ctx stop
        (handleEvent ctx event (some stop) (w.decoded (.change event))).2 rest after) :
      Reads ctx stop w (.event raw :: rest) after

/-- The course of a stream that is opened: which items are read, which are still to come where it
is closed, how it is closed, and the world in which it is. -/
inductive WatchCourse (ctx : Context τ) (stop : Signal) (w : World τ) :
    List (StreamItem τ) → List (StreamItem τ) → Closing → World τ → Prop where
  | refused {fault : Fault} (refusal : (ctx.around.stream w.opened.journal).refusal = some fault) :
      WatchCourse ctx stop w [] (ctx.around.stream w.opened.journal).items (.broken fault) w.opened
  | read {before rest : List (StreamItem τ)} {closing : Closing} {mid : World τ}
      (accepted : (ctx.around.stream w.opened.journal).refusal = none)
      (items : (ctx.around.stream w.opened.journal).items = before ++ rest)
      (reads : Reads ctx stop (w.opened.reported "Starting CRD watch") before mid)
      (closes : Closes stop (ctx.around.stream w.opened.journal).ending mid rest closing) :
      WatchCourse ctx stop w before rest closing mid

variable {ctx : Context τ} {stop : Signal} {ending : Option Fault} {closing : Closing}
variable {items before rest : List (StreamItem τ)} {w mid after : World τ}

/-! ## Reading -/

/-- What is still to come is read from where the items before it were read to. -/
theorem Reads.readStream (reads : Reads ctx stop w before mid) :
    readStream ctx stop ending (before ++ rest) w = readStream ctx stop ending rest mid := by
  induction reads with
  | nil => rfl
  | action later ih => exact ih
  | @passedOver w after raw why items unset malformed later ih =>
    rw [List.cons_append, Tracker.readStream, Op.bind_of_ok (Context.stopSet_apply stop w), unset,
      if_neg Bool.false_ne_true, malformed]
    exact ih
  | @applied w after raw event items unset reports later ih =>
    have handled : handleEvent ctx event (some stop) (w.decoded (.change event)) =
        (.ok _, _) := Prod.ext (handleEvent_returns ..) rfl
    rw [List.cons_append, Tracker.readStream, Op.bind_of_ok (Context.stopSet_apply stop w), unset,
      if_neg Bool.false_ne_true, reports]
    dsimp only
    rw [Op.bind_of_ok (Op.record_apply ..)]
    exact (Op.bind_of_ok handled).trans ih

/-- Reading ends where the stream is closed. -/
theorem Closes.readStream (closes : Closes stop ending w items closing) :
    readStream ctx stop ending items w = (closing.read, w.readTo closing) := by
  cases closes with
  | stopped set =>
    rw [Tracker.readStream, Op.bind_of_ok (Context.stopSet_apply stop w), set]
    rfl
  | exhausted ended =>
    cases ended
    rfl
  | spoken unset decodes | uninterpreted unset decodes =>
    rw [Tracker.readStream, Op.bind_of_ok (Context.stopSet_apply stop w), unset,
      if_neg Bool.false_ne_true, decodes]
    rfl
  | broken ended =>
    cases ended
    rfl

/-- Every stream is read to where it is closed. -/
theorem readStream_course (ctx : Context τ) (stop : Signal) (ending : Option Fault)
    (items : List (StreamItem τ)) (w : World τ) :
    ∃ before rest closing mid, items = before ++ rest ∧ Reads ctx stop w before mid ∧
      Closes stop ending mid rest closing := by
  induction items generalizing w with
  | nil =>
    cases ended : ending with
    | none => exact ⟨[], [], .exhausted, w, rfl, .nil, .exhausted rfl⟩
    | some fault => exact ⟨[], [], .broken fault, w, rfl, .nil, .broken rfl⟩
  | cons item items ih =>
    -- An item that is read is put before what is read after it.
    have goOn : ∀ {next}, (∀ {before after}, Reads ctx stop next before after →
        Reads ctx stop w (item :: before) after) →
        ∃ before rest closing mid, item :: items = before ++ rest ∧
          Reads ctx stop w before mid ∧ Closes stop ending mid rest closing := by
      intro next reads
      obtain ⟨before, rest, closing, mid, split, later, closes⟩ := ih next
      exact ⟨item :: before, rest, closing, mid, congrArg (List.cons item) split, reads later,
        closes⟩
    cases item with
    | action action => exact goOn .action
    | event raw =>
      cases set : w.isSet stop with
      | true => exact ⟨[], _, .stopped, w, rfl, .nil, .stopped set⟩
      | false =>
        cases decoded : WatchEvent.decode raw with
        | error fault =>
          cases fault with
          | malformed why => exact goOn (.passedOver set decoded)
          | misuse kind => exact ⟨[], _, _, w, rfl, .nil, .uninterpreted set decoded⟩
        | ok event =>
          cases event with
          | error status => exact ⟨[], _, .spoken status, w, rfl, .nil, .spoken set decoded⟩
          | change event => exact goOn (.applied set decoded)

/-! ## Following -/

omit [Scalar τ] in
/-- A stream that broke is reported and counts as not healthy, if the status can be looked up. -/
theorem reportWatchFailure_returns (fault : Fault) (w : World τ) :
    (reportWatchFailure fault w).1 = (Closing.broken fault).result := by
  rw [reportWatchFailure_result, Closing.result]
  cases legible : fault.isLegible with
  | true =>
    cases reported : watchFailure fault with
    | ok entry => rfl
    | error kind => cases legible.symm.trans (watchFailure_eq_error_iff.mp reported).1
  | false =>
    rw [watchFailure_eq_error_iff.mpr ⟨legible, rfl⟩]
    rfl

/-- A stream that is opened is read to where it is closed. -/
theorem WatchCourse.openStream (course : WatchCourse ctx stop w before rest closing mid) :
    openStream ctx stop w = (closing.read, mid.readTo closing) := by
  rw [openStream_apply]
  cases course with
  | refused refusal =>
    rw [refusal]
    rfl
  | read accepted items reads closes =>
    rw [accepted]
    dsimp only
    rw [items, reads.readStream, closes.readStream]

/-- What a watch comes to is settled by how its stream is closed. -/
theorem WatchCourse.followStream (course : WatchCourse ctx stop w before rest closing mid) :
    followStream ctx stop w = (closing.result, mid.followedTo closing) := by
  rw [Tracker.followStream, Op.bind_apply, Op.attempt_apply, course.openStream]
  cases closing with
  | broken fault => exact Prod.ext (reportWatchFailure_returns fault mid) rfl
  | _ => rfl

/-- Every stream that is opened has its course. -/
theorem exists_course (ctx : Context τ) (stop : Signal) (w : World τ) :
    ∃ before rest closing mid, WatchCourse ctx stop w before rest closing mid := by
  cases refusal : (ctx.around.stream w.opened.journal).refusal with
  | some fault => exact ⟨_, _, _, _, .refused refusal⟩
  | none =>
    obtain ⟨before, rest, closing, mid, items, reads, closes⟩ :=
      readStream_course ctx stop (ctx.around.stream w.opened.journal).ending
        (ctx.around.stream w.opened.journal).items (w.opened.reported "Starting CRD watch")
    exact ⟨before, rest, closing, mid, .read refusal items reads closes⟩

/-- A watch that finds no stop set ends as the course of its stream says, and is closed. -/
theorem WatchCourse.watchOnce (unset : w.isSet stop = false)
    (course : WatchCourse ctx stop w.watched before rest closing mid) :
    watchOnce ctx stop w = (closing.result, (mid.followedTo closing).watchClosed) := by
  rw [watchOnce_of_unset ctx unset, course.followStream]

end ApiSurface.Tracker
