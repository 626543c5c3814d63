import ApiSurface.Proofs.Retry.Schedule
import ApiSurface.Proofs.Tracker.StepwiseRuns

/-!
# The background loops

The watch takes its turn before every wait, the tickers after it. Whatever the turn is, a
loop ends at a stop seen before a turn, at a wait that is woken, at a wait that is too long
to be made, or at a turn that fails; once it has ended it stays so however many rounds it
is given, and until then more rounds go on from where it is.
-/

namespace ApiSurface

/-- What a loop tells that has come to an end, or has not. -/
def Retry.Ending.result (ending : Retry.Ending) : Except Fault Bool :=
  match ending.fault? with
  | some fault => if fault.isCancelled then .ok true else .error fault
  | none => .ok ending.isReturned

/-- Only a loop that has not come to an end tells that it is still going. -/
theorem Retry.Ending.result_eq_going {ending : Retry.Ending} :
    ending.result = .ok false ↔ ending = .running := by
  cases ending with
  | failed fault | waitFailed fault =>
    cases cancelled : fault.isCancelled <;> simp [result, fault?, cancelled]
  | _ => simp [result, fault?, isReturned, Fault.stopRequested, Fault.isCancelled]

/-- Only a loop whose call or whose wait failed fails. -/
theorem Retry.Ending.result_eq_error {ending : Retry.Ending} {fault : Fault}
    (failed : ending.result = .error fault) : ending = .failed fault ∨ ending = .waitFailed fault := by
  cases ending with
  | failed other | waitFailed other =>
    cases cancelled : other.isCancelled <;> simp_all [result, fault?]
  | _ => cases failed

namespace Tracker

variable {τ : Type} [Scalar τ] {ctx : Context τ} {stop : Signal} {interval : Seconds τ}

/-- A wait is woken once the stop signal is set. -/
def Surroundings.Honest (around : Surroundings τ) : Prop :=
  ∀ journal, around.wakes true journal = true

section Waits

variable {entry : Entry τ} {length : τ} {w mid : World τ}

/-- A wait that was not woken saw no stop. -/
theorem Surroundings.Honest.unset (honest : ctx.around.Honest)
    (wait : ctx.wait entry length stop w = (.ok false, mid)) : mid.isSet stop = false := by
  rcases Context.wait_cases wait with ⟨refused, _⟩ | ⟨woken, returned, waited⟩
  · cases refused
  · cases set : mid.isSet stop with
    | false => rfl
    | true =>
      cases returned
      obtain ⟨woken, rfl⟩ := Prod.mk.inj waited
      rw [set, honest] at woken
      cases woken

/-- A wait is woken where the stop signal is set already. -/
theorem Surroundings.Honest.woken (honest : ctx.around.Honest) (lawful : ctx.Lawful Quiet)
    (entry : Entry τ) (length : τ) (set : w.isSet stop = true) :
    ctx.wait entry length stop w = (.ok true, (ctx.wait entry length stop w).2) := by
  have still : (ctx.waitOut entry length stop w).2.isSet stop = true :=
    (Op.Moves.takeActions lawful.acts _ _).raised set
  have woken : (ctx.waitOut entry length stop w).1 = true := by
    change ctx.around.wakes ((ctx.waitOut entry length stop w).2.isSet stop) _ = true
    rw [still]
    exact honest _
  rw [ctx.wait_of_set entry length set, woken]

/-- A wait that was woken saw the stop signal set, or was woken without. -/
theorem Context.wait_woken (wait : ctx.wait entry length stop w = (.ok true, mid)) :
    mid.isSet stop = true ∨ ∃ journal, ctx.around.wakes false journal = true := by
  rcases wait_cases wait with ⟨refused, _⟩ | ⟨woken, returned, waited⟩
  · cases refused
  · cases set : mid.isSet stop with
    | true => exact .inl rfl
    | false =>
      cases returned
      obtain ⟨woken, rfl⟩ := Prod.mk.inj waited
      rw [set] at woken
      exact .inr ⟨_, woken⟩

/-- A wait fails only because it is too long, where no stop is set. -/
theorem Context.wait_failed {fault : Fault}
    (wait : ctx.wait entry length stop w = (.error fault, mid)) :
    fault = .misuse .outOfRange ∧ mid.isSet stop = false ∧ ctx.around.overlong length = true := by
  rcases wait_cases wait with ⟨refused, rfl, overlong, unset⟩ | ⟨woken, returned, _⟩
  · exact ⟨Except.error.inj refused, unset, overlong⟩
  · cases returned

end Waits

/-! ## Tickers -/

/-- How a ticker of some rounds goes from a world: it reaches its bound, cannot wait, is woken from a
wait, fails in a tick, or goes through one more round. -/
inductive Ticks (ctx : Context τ) (interval : Seconds τ) (stop : Signal) (tick : Op τ Unit) :
    Nat → World τ → Except Fault Bool → World τ → Prop where
  | bounded {w : World τ} : Ticks ctx interval stop tick 0 w (.ok false) w
  | unwaited {rounds : Nat} {w after : World τ} {fault : Fault}
      (wait : ctx.wait (.paused interval) interval.amount stop w = (.error fault, after)) :
      Ticks ctx interval stop tick (rounds + 1) w (.error fault) after
  | woken {rounds : Nat} {w after : World τ}
      (wait : ctx.wait (.paused interval) interval.amount stop w = (.ok true, after)) :
      Ticks ctx interval stop tick (rounds + 1) w (.ok true) after
  | failed {rounds : Nat} {w mid after : World τ} {fault : Fault}
      (wait : ctx.wait (.paused interval) interval.amount stop w = (.ok false, mid))
      (ticked : tick mid = (.error fault, after)) :
      Ticks ctx interval stop tick (rounds + 1) w (.error fault) after
  | again {rounds : Nat} {w mid next after : World τ} {ended : Except Fault Bool}
      (wait : ctx.wait (.paused interval) interval.amount stop w = (.ok false, mid))
      (ticked : tick mid = (.ok (), next))
      (onward : Ticks ctx interval stop tick rounds next ended after) :
      Ticks ctx interval stop tick (rounds + 1) w ended after

/-- A round of a ticker is a wait, and if that is not woken a tick. -/
theorem ticking_succ (ctx : Context τ) (interval : Seconds τ) (stop : Signal) (tick : Op τ Unit)
    (rounds : Nat) (w : World τ) :
    ticking ctx interval stop tick (rounds + 1) w =
      match ctx.wait (.paused interval) interval.amount stop w with
      | (.error fault, mid) => (.error fault, mid)
      | (.ok true, mid) => (.ok true, mid)
      | (.ok false, mid) => (tick >>= fun _ => ticking ctx interval stop tick rounds) mid := by
  rw [ticking, Op.bind_apply]
  cases ctx.wait (.paused interval) interval.amount stop w with
  | mk woken mid => rcases woken with fault | (_ | _) <;> rfl

/-- Every ticker takes one of these courses. -/
theorem ticking_course (ctx : Context τ) (interval : Seconds τ) (stop : Signal) (tick : Op τ Unit)
    (rounds : Nat) (w : World τ) :
    Ticks ctx interval stop tick rounds w (ticking ctx interval stop tick rounds w).1
      (ticking ctx interval stop tick rounds w).2 := by
  induction rounds generalizing w with
  | zero => exact .bounded
  | succ rounds ih =>
    rw [ticking_succ]
    cases wait : ctx.wait (.paused interval) interval.amount stop w with
    | mk woken mid =>
      rcases woken with fault | (_ | _)
      · exact .unwaited wait
      · dsimp only
        rw [Op.bind_apply]
        cases ticked : tick mid with
        | mk result next =>
          cases result with
          | error fault => exact .failed wait ticked
          | ok _ => exact .again wait ticked (ih next)
      · exact .woken wait

namespace Ticks

variable {tick : Op τ Unit} {rounds : Nat} {w after : World τ} {result : Except Fault Bool}

/-- The course of a ticker is the ticker. -/
theorem ticking_eq (ticks : Ticks ctx interval stop tick rounds w result after) :
    ticking ctx interval stop tick rounds w = (result, after) := by
  induction ticks with
  | bounded => rfl
  | unwaited wait => rw [ticking_succ, wait]
  | woken wait => rw [ticking_succ, wait]
  | failed wait ticked =>
    rw [ticking_succ, wait]
    exact Op.bind_of_error ticked
  | again wait ticked onward ih =>
    rw [ticking_succ, wait]
    exact (Op.bind_of_ok ticked).trans ih

/-- A ticker that ended does not go on for more rounds. -/
theorem ended (ticks : Ticks ctx interval stop tick rounds w result after)
    (final : result ≠ .ok false) (more : Nat) :
    Ticks ctx interval stop tick (rounds + more) w result after := by
  induction ticks with
  | bounded => exact absurd rfl final
  | unwaited wait => exact Nat.succ_add .. ▸ .unwaited wait
  | woken wait => exact Nat.succ_add .. ▸ .woken wait
  | failed wait ticked => exact Nat.succ_add .. ▸ .failed wait ticked
  | again wait ticked onward ih => exact Nat.succ_add .. ▸ .again wait ticked (ih final)

/-- A ticker that reached its bound goes on from where it is. -/
theorem going {final : Except Fault Bool} {last : World τ} {more : Nat}
    (ticks : Ticks ctx interval stop tick rounds w result after) (going : result = .ok false)
    (further : Ticks ctx interval stop tick more after final last) :
    Ticks ctx interval stop tick (rounds + more) w final last := by
  induction ticks with
  | bounded => rwa [Nat.zero_add]
  | unwaited wait => cases going
  | woken wait => cases going
  | failed wait ticked => cases going
  | again wait ticked onward ih => exact Nat.succ_add .. ▸ .again wait ticked (ih going further)

/-- What a tick does where a stop is seen makes no difference, if waits see it. -/
theorem congr {other : Op τ Unit} (honest : ctx.around.Honest)
    (agrees : ∀ mid, mid.isSet stop = false → other mid = tick mid)
    (ticks : Ticks ctx interval stop tick rounds w result after) :
    Ticks ctx interval stop other rounds w result after := by
  induction ticks with
  | bounded => exact .bounded
  | unwaited wait => exact .unwaited wait
  | woken wait => exact .woken wait
  | failed wait ticked => exact .failed wait ((agrees _ (honest.unset wait)).trans ticked)
  | again wait ticked onward ih =>
    exact .again wait ((agrees _ (honest.unset wait)).trans ticked) ih

/-- A ticker that was stopped was woken from a wait. -/
theorem woken_wait (ticks : Ticks ctx interval stop tick rounds w result after)
    (stopped : result = .ok true) :
    ∃ before, ctx.wait (.paused interval) interval.amount stop before = (.ok true, after) := by
  induction ticks with
  | bounded => cases stopped
  | unwaited wait => cases stopped
  | woken wait => exact ⟨_, wait⟩
  | failed wait ticked => cases stopped
  | again wait ticked onward ih => exact ih stopped

/-- A ticker fails only in a tick, or because it cannot wait. -/
theorem failed_wait {fault : Fault}
    (ticks : Ticks ctx interval stop tick rounds w result after) (failed : result = .error fault)
    (ticking : ∀ mid, (tick mid).1 = .ok ()) :
    ∃ before, ctx.wait (.paused interval) interval.amount stop before = (.error fault, after) := by
  induction ticks with
  | bounded => cases failed
  | unwaited wait =>
    cases failed
    exact ⟨_, wait⟩
  | woken wait => cases failed
  | failed wait ticked => cases (ticking _).symm.trans (congrArg Prod.fst ticked)
  | again wait ticked onward ih => exact ih failed

/-- What every tick counts, a ticker that reached its bound has counted in every round. -/
theorem counted {count : World τ → Nat} (ticks : Ticks ctx interval stop tick rounds w result after)
    (ticked : ∀ mid, count mid < count (tick mid).2)
    (waited : ∀ mid, count mid ≤ count (ctx.wait (.paused interval) interval.amount stop mid).2)
    (going : result = .ok false) : count w + rounds ≤ count after := by
  induction ticks with
  | bounded => exact Nat.le_refl _
  | unwaited wait => cases going
  | woken wait => cases going
  | failed wait failed => cases going
  | @again rounds w mid next after result wait here onward ih =>
    have atWait : count w ≤ count mid := by simpa [wait] using waited w
    have atTick : count mid < count next := by simpa [here] using ticked mid
    have atRest : count next + rounds ≤ count after := ih going
    omega

end Ticks

/-! ## All loops -/

namespace Loop

/-- The name of a loop in what it reports. -/
def label : Loop → String
  | watch => "CRD watch"
  | collection => "periodic API resource collection"
  | fullRescan => "periodic full rescan"

/-- How long a loop waits between two turns, if that is always the same. -/
def interval? (settings : Settings τ) : Loop → Option (Seconds τ)
  | watch => none
  | collection => some settings.collectionInterval
  | fullRescan => some settings.fullRescanInterval

/-- How long a loop may wait between two turns. -/
def lengths (settings : Settings τ) (draws : Draws τ) (loop : Loop) : Set τ :=
  match loop.interval? settings with
  | none => Set.range (Retry.waitAfter Backoff.reconnecting draws)
  | some interval => {interval.amount}

/-- A ticker may come to its interval and to nothing else. -/
theorem mem_lengths {settings : Settings τ} {draws : Draws τ} {loop : Loop} {interval : Seconds τ}
    (paces : loop.interval? settings = some interval) :
    interval.amount ∈ loop.lengths settings draws := by
  rw [lengths, paces]
  exact Set.mem_singleton _

/-- What a loop does in every round. -/
def turn (ctx : Context τ) (stop : Signal) : Loop → Op τ Bool
  | watch => watchOnce ctx stop
  | collection => trigger ctx (some stop)
  | fullRescan => do
    let outcome ← Tracker.fullRescan ctx (some stop)
    pure outcome.isSome

/-- The world in which a ticker said that it begins. -/
def beginning (loop : Loop) (interval : Seconds τ) (w : World τ) : World τ :=
  w.reported ("Starting " ++ loop.label ++ " (interval=" ++ interval.text ++ "s)")

/-- How a loop ended, and the world in which it said so if it did. -/
def ending (loop : Loop) : Except Fault Bool × World τ → Except Fault Bool × World τ
  | (.ok true, w) => (.ok true, w.reported ("Stopping " ++ loop.label))
  | (result, w) => (result, w)

/-- A loop that takes a turn in every round, for a number of rounds, and tells whether it ended by
then. -/
def runWith (ctx : Context τ) (stop : Signal) (turn : Op τ Bool) (draws : Draws τ) (rounds : Nat)
    (loop : Loop) : Op τ Bool := fun w =>
  match loop.interval? w.tracker.settings with
  | none =>
    let run := Retry.forever { watchTask ctx stop with call := turn } Backoff.reconnecting rounds
      draws w
    loop.ending (run.ending.result, run.state)
  | some interval =>
    loop.ending
      (ticking ctx interval stop (turn >>= fun _ => pure ()) rounds (loop.beginning interval w))

/-- A background loop, for a number of rounds. -/
def run (ctx : Context τ) (stop : Signal) (draws : Draws τ) (rounds : Nat) : Loop → Op τ Bool
  | watch => watchForever ctx stop rounds draws
  | collection => collectPeriodically ctx stop rounds
  | fullRescan => rescanPeriodically ctx stop rounds

end Loop

/-- A ticker reports its beginning, and its end if there is one. -/
theorem runTicker_apply (ctx : Context τ) (loop : Loop) (interval : Seconds τ) (stop : Signal)
    (tick : Op τ Unit) (rounds : Nat) (w : World τ) :
    runTicker ctx loop.label interval stop tick rounds w =
      loop.ending (ticking ctx interval stop tick rounds (loop.beginning interval w)) := by
  have began :
      Op.log .info ("Starting " ++ loop.label ++ " (interval=" ++ interval.text ++ "s)") w =
        (.ok (), loop.beginning interval w) := rfl
  rw [runTicker, Op.bind_of_ok began, Op.bind_apply]
  cases ticking ctx interval stop tick rounds (loop.beginning interval w) with
  | mk result after =>
    cases result with
    | error fault => rfl
    | ok ended => cases ended <;> rfl

/-- Watching forever is reported when it ends. -/
theorem watchForever_apply (ctx : Context τ) (stop : Signal) (rounds : Nat) (draws : Draws τ)
    (w : World τ) :
    watchForever ctx stop rounds draws w =
      let run := Retry.forever (watchTask ctx stop) Backoff.reconnecting rounds draws w
      Loop.watch.ending (run.ending.result, run.state) := by
  have course : Retry.Course (watchTask ctx stop) rounds (.start Backoff.reconnecting draws) w
      (Retry.forever (watchTask ctx stop) Backoff.reconnecting rounds draws w) :=
    Retry.loop_course ..
  have left := course.not_returned
  unfold watchForever
  dsimp only
  generalize Retry.forever (watchTask ctx stop) Backoff.reconnecting rounds draws w = run at left
  have reported : ∀ fault, run.ending.fault? = some fault →
      endWatching fault run.state = Loop.watch.ending (run.ending.result, run.state) := by
    intro fault ended
    rw [Retry.Ending.result, ended, endWatching]
    dsimp only
    cases fault.isCancelled <;> rfl
  cases ends : run.ending with
  | running => rfl
  | returned => exact absurd ends left
  | cancelled | failed | waitFailed =>
    rw [ends] at reported
    exact reported _ rfl

/-- Every loop does what it does by taking its turns. -/
theorem Loop.runWith_turn (ctx : Context τ) (stop : Signal) (draws : Draws τ) (rounds : Nat)
    (loop : Loop) :
    loop.runWith ctx stop (loop.turn ctx stop) draws rounds = loop.run ctx stop draws rounds := by
  funext w
  cases loop with
  | watch => exact (watchForever_apply ctx stop rounds draws w).symm
  | collection => exact (runTicker_apply ctx .collection _ stop _ rounds w).symm
  | fullRescan =>
    have same : (Loop.turn ctx stop .fullRescan >>= fun _ => pure ()) =
        (Tracker.fullRescan ctx (some stop) >>= fun _ => pure () : Op τ Unit) := by
      funext w
      rw [Loop.turn, Op.bind_apply, Op.bind_apply, Op.bind_apply]
      cases Tracker.fullRescan ctx (some stop) w with
      | mk result after => cases result <;> rfl
    change Loop.ending .fullRescan (ticking ctx _ stop (_ >>= fun _ => pure ()) rounds _) = _
    rw [same]
    exact (runTicker_apply ctx .fullRescan _ stop _ rounds w).symm

/-- Every loop is a course of watching or of ticking, and says so if it came to an end. -/
theorem Loop.run_course (ctx : Context τ) (stop : Signal) (draws : Draws τ) (rounds : Nat)
    (loop : Loop) (w : World τ) :
    (∃ run, loop = .watch ∧
      Retry.Course (watchTask ctx stop) rounds (.start Backoff.reconnecting draws) w run ∧
        loop.run ctx stop draws rounds w = loop.ending (run.ending.result, run.state)) ∨
    ∃ interval result last, loop ≠ .watch ∧ loop.interval? w.tracker.settings = some interval ∧
      Ticks ctx interval stop (loop.turn ctx stop >>= fun _ => pure ()) rounds
        (loop.beginning interval w) result last ∧
        loop.run ctx stop draws rounds w = loop.ending (result, last) := by
  have ticks := fun interval => ticking_course ctx interval stop
    (loop.turn ctx stop >>= fun _ => pure ()) rounds (loop.beginning interval w)
  rw [← runWith_turn]
  cases loop with
  | watch => exact .inl ⟨_, rfl, Retry.loop_course .., rfl⟩
  | collection => exact .inr ⟨_, _, _, nofun, rfl, ticks w.tracker.settings.collectionInterval, rfl⟩
  | fullRescan => exact .inr ⟨_, _, _, nofun, rfl, ticks w.tracker.settings.fullRescanInterval, rfl⟩

namespace Loop

variable {loop : Loop} {turn other : Op τ Bool} {draws : Draws τ} {rounds : Nat} {w after : World τ}

omit [Scalar τ] in
/-- A loop is still going exactly if what it does is. -/
theorem ending_going {ended : Except Fault Bool × World τ} :
    (loop.ending ended).1 = .ok false ↔ ended.1 = .ok false := by
  obtain ⟨result, after⟩ := ended
  rcases result with fault | (ended | ended) <;> simp [ending]

omit [Scalar τ] in
theorem ending_eq_going {ended : Except Fault Bool × World τ}
    (going : loop.ending ended = (.ok false, after)) : ended = (.ok false, after) := by
  obtain ⟨result, last⟩ := ended
  rcases result with fault | (ended | ended)
  · exact going
  · exact going
  · cases going

omit [Scalar τ] in
theorem ending_eq_error {ended : Except Fault Bool × World τ} {fault : Fault}
    (failed : loop.ending ended = (.error fault, after)) : ended = (.error fault, after) := by
  obtain ⟨result, last⟩ := ended
  rcases result with other | (ended | ended)
  · exact failed
  · cases failed
  · cases failed

omit [Scalar τ] in
/-- A loop that says it ended did so where it was. -/
theorem ending_eq_stopped {ended : Except Fault Bool × World τ}
    (stopped : loop.ending ended = (.ok true, after)) :
    ended.1 = .ok true ∧ after = ended.2.reported ("Stopping " ++ loop.label) := by
  obtain ⟨result, last⟩ := ended
  rcases result with fault | (ended | ended)
  · cases stopped
  · cases stopped
  · exact ⟨rfl, (Prod.mk.inj stopped).2.symm⟩

/-- A loop that has ended does not go on if it is given more rounds. -/
theorem runWith_ended (ended : (loop.runWith ctx stop turn draws rounds w).1 ≠ .ok false)
    (more : Nat) :
    loop.runWith ctx stop turn draws (rounds + more) w =
      loop.runWith ctx stop turn draws rounds w := by
  unfold runWith at ended ⊢
  cases paces : loop.interval? w.tracker.settings with
  | none =>
    rw [paces] at ended
    dsimp only at ended
    have course := Retry.loop_course { watchTask ctx stop with call := turn } rounds
      (.start Backoff.reconnecting draws) w
    have done := mt ending_going.mpr ended
    have finished := mt Retry.Ending.result_eq_going.mpr done
    dsimp only [Retry.forever]
    rw [(course.ended finished more).loop_eq]
  | some interval =>
    rw [paces] at ended
    have ticks := ticking_course ctx interval stop (turn >>= fun _ => pure ()) rounds
      (loop.beginning interval w)
    dsimp only
    rw [(ticks.ended (mt ending_going.mpr ended) more).ticking_eq]

/-- What a loop does once it sees that the stop signal is set: a ticker sees it in a wait. -/
def closing (ctx : Context τ) (stop : Signal) (settings : Settings τ) (loop : Loop) (w : World τ) :
    World τ :=
  match loop.interval? settings with
  | none => w.reported ("Stopping " ++ loop.label)
  | some interval =>
    (ctx.wait (.paused interval) interval.amount stop w).2.reported ("Stopping " ++ loop.label)

/-- A loop that is still going when the stop signal is set closes in the next round, without a
turn. -/
theorem runWith_closing (honest : ctx.around.Honest) (lawful : ctx.Lawful Quiet)
    (going : loop.runWith ctx stop turn draws rounds w = (.ok false, after))
    (set : after.isSet stop = true) (more : Nat) :
    loop.runWith ctx stop turn draws (rounds + (more + 1)) w =
      (.ok true, loop.closing ctx stop w.tracker.settings after) := by
  unfold runWith closing at *
  cases paces : loop.interval? w.tracker.settings with
  | none =>
    rw [paces] at going
    obtain ⟨running, rfl⟩ := Prod.mk.inj (ending_eq_going going)
    have course := Retry.loop_course { watchTask ctx stop with call := turn } rounds
      (.start Backoff.reconnecting draws) w
    have goes := course.going (Retry.Ending.result_eq_going.mp running)
      (.stopped set : Retry.Course _ (more + 1) _ _ _)
    dsimp only [Retry.forever]
    rw [goes.loop_eq]
    rfl
  | some interval =>
    rw [paces] at going
    have ticked := ending_eq_going going
    have ticks := ticking_course ctx interval stop (turn >>= fun _ => pure ()) rounds
      (loop.beginning interval w)
    rw [ticked] at ticks
    have woken := honest.woken lawful (.paused interval) interval.amount set
    dsimp only
    rw [(ticks.going rfl (.woken woken)).ticking_eq]
    rfl

/-- What a turn would do where the stop signal is set makes no difference to a loop. -/
theorem runWith_congr (honest : ctx.around.Honest)
    (agrees : ∀ w, w.isSet stop = false → other w = turn w) :
    loop.runWith ctx stop other draws rounds = loop.runWith ctx stop turn draws rounds := by
  funext w
  unfold runWith
  cases paces : loop.interval? w.tracker.settings with
  | none =>
    have course := Retry.loop_course { watchTask ctx stop with call := turn } rounds
      (.start Backoff.reconnecting draws) w
    dsimp only [Retry.forever]
    rw [(course.congr agrees).loop_eq]
  | some interval =>
    have ticks := ticking_course ctx interval stop (turn >>= fun _ => pure ()) rounds
      (loop.beginning interval w)
    have agreesTick : ∀ mid, mid.isSet stop = false →
        (other >>= fun _ => pure () : Op τ Unit) mid = (turn >>= fun _ => pure ()) mid := by
      intro mid unset
      rw [Op.bind_apply, Op.bind_apply, agrees mid unset]
    dsimp only
    rw [(ticks.congr honest agreesTick).ticking_eq]

end Loop

end Tracker

end ApiSurface
