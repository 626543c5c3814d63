import Mathlib.Algebra.Order.Ring.Rat
import Mathlib.Data.List.Forall2
import Mathlib.Tactic.NormNum
import ApiSurface.Crd.Waiter
import ApiSurface.Proofs.Event.Decoding

/-!
# How waiting for definitions ends

A waiter takes the names in turn, and a turn is a number of reads. `Turn` says how one may
end and `Course` how the turns follow one another; `awaitAll_outcome` reads off them what a
success and each failure say about the reads that were made. The reads are put on record by
surroundings that do nothing else, so that what a waiter does in them is what it does in the
surroundings themselves.
-/

namespace ApiSurface.Crd

variable {σ ρ τ : Type}

/-! ## What reads bring back -/

/-- A payload with an identity whose first condition about being established says so. -/
def IsEstablished (payload : Value) : Prop :=
  (Info.uidGiven payload).isTruthy = true ∧
    ∃ before condition after, Info.conditions payload = .ok (before ++ condition :: after) ∧
      (∀ earlier ∈ before, (earlier.get "type").isText "Established" = false) ∧
      (condition.get "type").isText "Established" = true ∧
      (condition.get "status").isText "True" = true

/-- The first condition about being established decides. -/
theorem Info.establishedBy_iff {conditions : List Value} :
    establishedBy conditions = true ↔
      ∃ before condition after, conditions = before ++ condition :: after ∧
        (∀ earlier ∈ before, (earlier.get "type").isText "Established" = false) ∧
        (condition.get "type").isText "Established" = true ∧
        (condition.get "status").isText "True" = true := by
  rw [← exists_find?_iff, establishedBy]
  change _ ↔ ∃ first, conditions.find? isEstablishedCondition = some first ∧ _
  cases conditions.find? isEstablishedCondition with
  | none => simp
  | some condition => simp

/-- A read, with what it brought back. -/
structure Reading (τ : Type) where
  name : Text
  answer : Except Fault Value
  /-- Whether the stop was set when the read began. -/
  stopped : Bool
  /-- The clock when the read was over. -/
  clock : τ

namespace Reading

/-- An established definition was read. -/
def Established (reading : Reading τ) : Prop :=
  ∃ payload, reading.answer = .ok payload ∧ IsEstablished payload

/-- A definition was read whose conditions are given as something that cannot be gone through. -/
def Illegible (reading : Reading τ) : Prop :=
  ∃ payload, reading.answer = .ok payload ∧ (Info.uidGiven payload).isTruthy = true ∧
    ¬ Info.Legible payload

/-- A read after which a definition counts as not yet established, and may be read again. -/
def Unready (reading : Reading τ) : Prop := ¬ reading.Established ∧ ¬ reading.Illegible

/-- A read of a name that did not begin with the stop set. -/
def Proper (reading : Reading τ) (name : Text) : Prop :=
  reading.name = name ∧ reading.stopped = false

end Reading

namespace Waiter

theorem judge_eq_ok_none_iff {name : Text} {answer : Except Fault Value} :
    judge name answer = .ok none ↔ ∃ payload, answer = .ok payload ∧ IsEstablished payload := by
  cases answer with
  | error fault => simp [judge]
  | ok payload =>
    simp only [judge, Except.ok.injEq, exists_eq_left', IsEstablished]
    cases given : (Info.uidGiven payload).isTruthy with
    | false => simp [Info.ofValue_of_unidentified given]
    | true =>
      rw [Info.ofValue_of_identified given]
      cases Info.conditions payload with
      | error kind => simp
      | ok conditions =>
        simp only [Except.ok.injEq, true_and, ← Info.establishedBy_iff]
        cases Info.establishedBy conditions <;> simp

theorem judge_eq_error_iff {name : Text} {answer : Except Fault Value} {fault : Fault} :
    judge name answer = .error fault ↔
      fault = .misuse .wrongType ∧ ∃ payload, answer = .ok payload ∧
        (Info.uidGiven payload).isTruthy = true ∧ ¬ Info.Legible payload := by
  cases answer with
  | error fault => simp [judge]
  | ok payload =>
    simp only [judge, Except.ok.injEq, exists_eq_left']
    cases read : Info.ofValue payload with
    | ok info =>
      obtain ⟨_, legible, _⟩ := Info.ofValue_eq_ok read
      cases established : info.established <;> simp [established, legible]
    | error unread =>
      cases unread with
      | withoutUid => simp [Info.ofValue_eq_withoutUid_iff.mp read]
      | misuse kind =>
        obtain ⟨given, illegible, rfl⟩ := Info.ofValue_eq_misuse_iff.mp read
        simp [given, illegible, eq_comm]

end Waiter

/-! ## Putting reads on record -/

/-- A waiter at work in surroundings whose state is seen through a function. -/
def Waiting.map (erase : ρ → σ) (waiting : Waiting ρ τ) : Waiting σ τ :=
  { waiting with state := erase waiting.state }

namespace Surroundings

/-- Surroundings that behave as others do, seen through a function of their state. -/
structure Mirrors (erase : ρ → σ) (around : Surroundings ρ τ) (plain : Surroundings σ τ) : Prop where
  clock : ∀ state, around.clock state = plain.clock (erase state)
  stopSet : ∀ state, around.stopSet state = plain.stopSet (erase state)
  read : ∀ name limit state,
    plain.read name limit (erase state) = Prod.map id erase (around.read name limit state)
  wait : ∀ delay state,
    plain.wait delay (erase state) = Prod.map id erase (around.wait delay state)

/-- What is put on record of a read. -/
def reading (around : Surroundings σ τ) (name : Text) (limit : τ) (state : σ) : Reading τ where
  name := name
  answer := (around.read name limit state).1
  stopped := around.stopSet state
  clock := around.clock (around.read name limit state).2

/-- The same surroundings, with every read put on record. -/
def recording (around : Surroundings σ τ) : Surroundings (σ × List (Reading τ)) τ where
  clock state := around.clock state.1
  stopSet state := around.stopSet state.1
  read name limit state :=
    ((around.read name limit state.1).1,
      (around.read name limit state.1).2, state.2 ++ [around.reading name limit state.1])
  wait delay state := ((around.wait delay state.1).1, (around.wait delay state.1).2, state.2)

/-- Recording makes no difference to what the surroundings do. -/
theorem recording_mirrors (around : Surroundings σ τ) : Mirrors Prod.fst around.recording around :=
  ⟨fun _ => rfl, fun _ => rfl, fun _ _ _ => rfl, fun _ _ => rfl⟩

/-- A wait that tells of a stop leaves it set. -/
def Honest (around : Surroundings σ τ) : Prop :=
  ∀ delay state, (around.wait delay state).1 = true →
    around.stopSet (around.wait delay state).2 = true

end Surroundings

namespace Waiter

variable [Scalar τ] {name : Text} {limit deadline remaining : τ} {backoff : Backoff τ}

omit [Scalar τ] in
/-- A look puts one reading on record and answers by what was read. -/
theorem look_recording (around : Surroundings σ τ) (name : Text) (limit : τ)
    (waiting : Waiting (σ × List (Reading τ)) τ) :
    let run := look around.recording name limit waiting
    let reading := around.reading name limit waiting.state.1
    run.2.state.2 = waiting.state.2 ++ [reading] ∧
      around.clock run.2.state.1 = reading.clock ∧
      (run.1 = .ok true ∧ reading.Established ∨ run.1 = .ok false ∧ reading.Unready ∨
        run.1 = .error (.misuse .wrongType) ∧ reading.Illegible) := by
  dsimp only [look, Surroundings.recording]
  cases verdict : judge name (around.read name limit waiting.state.1).1 with
  | error fault =>
    obtain ⟨rfl, illegible⟩ := judge_eq_error_iff.mp verdict
    exact ⟨rfl, rfl, .inr (.inr ⟨rfl, illegible⟩)⟩
  | ok reason =>
    cases reason with
    | none => exact ⟨rfl, rfl, .inl ⟨rfl, judge_eq_ok_none_iff.mp verdict⟩⟩
    | some reason =>
      refine ⟨rfl, rfl, .inr (.inl ⟨rfl, fun established => ?_, fun illegible => ?_⟩)⟩
      · cases verdict.symm.trans (judge_eq_ok_none_iff.mpr established)
      · cases verdict.symm.trans (judge_eq_error_iff.mpr ⟨rfl, illegible⟩)

/-- A pause puts no reading on record, and tells of a stop as the wait does. -/
theorem pause_recording (around : Surroundings σ τ) (backoff : Backoff τ) (remaining : τ)
    (waiting : Waiting (σ × List (Reading τ)) τ) :
    let run := pause around.recording backoff remaining waiting
    run.2.state.2 = waiting.state.2 ∧
      (run.1 = true → around.Honest → around.stopSet run.2.state.1 = true) :=
  ⟨rfl, fun told honest => honest _ _ told⟩

section Mirrors

variable {erase : ρ → σ} {around : Surroundings ρ τ} {plain : Surroundings σ τ}
  (mirrors : Surroundings.Mirrors erase around plain)
include mirrors

omit [Scalar τ] in
theorem look_map (waiting : Waiting ρ τ) :
    look plain name limit (waiting.map erase) =
      Prod.map id (Waiting.map erase) (look around name limit waiting) := by
  rw [look, look, Waiting.map, mirrors.read]
  cases around.read name limit waiting.state with
  | mk answer state =>
    simp only [Prod.map, id]
    cases judge name answer with
    | error fault => rfl
    | ok reason => cases reason <;> rfl

theorem pause_map (waiting : Waiting ρ τ) :
    pause plain backoff remaining (waiting.map erase) =
      Prod.map id (Waiting.map erase) (pause around backoff remaining waiting) := by
  simp only [pause, Waiting.map, mirrors.wait]
  rfl

/-- What is polled in surroundings is what is polled in their mirror. -/
theorem poll_map (left : Nat) (backoff : Backoff τ) (waiting : Waiting ρ τ) :
    poll plain name deadline left backoff (waiting.map erase) =
      Prod.map id (Waiting.map erase) (poll around name deadline left backoff waiting) := by
  induction left generalizing backoff waiting with
  | zero => rfl
  | succ left ih =>
    have stop : plain.stopSet (waiting.map erase).state = around.stopSet waiting.state :=
      (mirrors.stopSet _).symm
    have clock : ∀ waiting : Waiting ρ τ,
        plain.clock (waiting.map erase).state = around.clock waiting.state := fun waiting =>
      (mirrors.clock _).symm
    rw [poll, poll, stop, clock]
    dsimp only
    rw [look_map mirrors]
    split
    · rfl
    · generalize look around name _ waiting = looked
      obtain ⟨result, mid⟩ := looked
      cases result with
      | error fault => rfl
      | ok established =>
        cases established with
        | true => rfl
        | false =>
          simp only [Prod.map, id]
          rw [clock, pause_map mirrors]
          split
          · rfl
          · generalize pause around backoff _ mid = paused
            obtain ⟨stopped, later⟩ := paused
            cases stopped with
            | true => rfl
            | false => exact ih backoff.next later

theorem pollAll_map (waiter : Waiter) (names : List Text) (waiting : Waiting ρ τ) :
    pollAll waiter plain deadline names (waiting.map erase) =
      Prod.map id (Waiting.map erase) (pollAll waiter around deadline names waiting) := by
  induction names generalizing waiting with
  | nil => rfl
  | cons name names ih =>
    rw [pollAll, pollAll, poll_map mirrors]
    generalize poll around name deadline waiter.attempts Backoff.polling waiting = polled
    obtain ⟨result, mid⟩ := polled
    cases result with
    | error fault => rfl
    | ok _ => exact ih (mid.log .info ("CRD " ++ name ++ " is established"))

theorem awaitAll_map (waiter : Waiter) (names : List Text) (timeout : τ) (waiting : Waiting ρ τ) :
    waiter.awaitAll plain names timeout (waiting.map erase) =
      Prod.map id (Waiting.map erase) (waiter.awaitAll around names timeout waiting) := by
  rw [awaitAll, awaitAll, mirrors.clock]
  exact pollAll_map mirrors waiter names waiting

end Mirrors

end Waiter

/-! ## One turn -/

/-- No time is left until the deadline. -/
def Reached [Scalar τ] (deadline clock : τ) : Prop := deadline - clock ≤ 0.0

/-- In exact arithmetic the deadline is reached by a clock that is not before it. -/
theorem reached_iff {deadline clock : Rat} : Reached deadline clock ↔ deadline ≤ clock := by
  have zero : (0.0 : Rat) = 0 := by norm_num
  change deadline - clock ≤ (0.0 : Rat) ↔ deadline ≤ clock
  rw [zero, sub_nonpos]

/-- A list that ends with an element of some kind. -/
def EndsWith {α : Type} (kind : α → Prop) (list : List α) : Prop :=
  ∃ before last, list = before ++ [last] ∧ kind last

theorem EndsWith.cons {α : Type} {kind : α → Prop} {list : List α} (ends : EndsWith kind list)
    (first : α) : EndsWith kind (first :: list) := by
  obtain ⟨before, last, rfl, holds⟩ := ends
  exact ⟨first :: before, last, rfl, holds⟩

/-- The turn of a name, with the attempts left to it, its readings in order, and how it ends in a
final state. -/
inductive Turn [Scalar τ] (around : Surroundings σ τ) (deadline : τ) (name : Text) (state : σ) :
    Nat → List (Reading τ) → Except Fault Unit → Prop where
  | stopped {left : Nat} (stop : around.Honest → around.stopSet state = true) :
      Turn around deadline name state left [] (.error (Fault.stopWhileWaiting name))
  | established {left : Nat} {reading : Reading τ} (proper : reading.Proper name)
      (established : reading.Established) :
      Turn around deadline name state (left + 1) [reading] (.ok ())
  | illegible {left : Nat} {reading : Reading τ} (proper : reading.Proper name)
      (illegible : reading.Illegible) :
      Turn around deadline name state (left + 1) [reading] (.error (.misuse .wrongType))
  | exhausted {left : Nat} {reading : Reading τ} (proper : reading.Proper name)
      (unready : reading.Unready) (spent : left = 0 ∨ Reached deadline reading.clock) :
      Turn around deadline name state (left + 1) [reading] (.error (.notEstablished name))
  | later {left : Nat} {reading : Reading τ} {readings : List (Reading τ)}
      {result : Except Fault Unit} (proper : reading.Proper name)
      (unready : reading.Unready)
      (turn : Turn around deadline name state left readings result) :
      Turn around deadline name state (left + 1) (reading :: readings) result

/-- What holds of every turn of a name: its readings are of that name, none began with the stop set,
there are no more than attempts, and an established definition is the last thing read. -/
structure Orderly (attempts : Nat) (name : Text) (turn : List (Reading τ)) : Prop where
  proper : ∀ reading ∈ turn, reading.Proper name
  within : turn.length ≤ attempts
  final : ∀ before reading after, turn = before ++ reading :: after → reading.Established →
    after = []

/-- How the turn of a name fails in a final state: the attempts or the time are used up, a stop was
set, or a definition cannot be read. -/
inductive Failed [Scalar τ] (around : Surroundings σ τ) (deadline : τ) (attempts : Nat)
    (name : Text) (state : σ) (turn : List (Reading τ)) : Fault → Prop where
  | exhausted (unready : ∀ reading ∈ turn, ¬ reading.Established)
      (spent : turn.length = attempts ∨
        EndsWith (fun last => Reached deadline last.clock) turn) :
      Failed around deadline attempts name state turn (.notEstablished name)
  | stopped (unready : ∀ reading ∈ turn, ¬ reading.Established)
      (stop : around.Honest → around.stopSet state = true) :
      Failed around deadline attempts name state turn (Fault.stopWhileWaiting name)
  | illegible (illegible : EndsWith Reading.Illegible turn) :
      Failed around deadline attempts name state turn (.misuse .wrongType)

namespace Turn

variable [Scalar τ] {around : Surroundings σ τ} {deadline : τ} {name : Text} {state : σ}
  {left : Nat} {readings : List (Reading τ)} {result : Except Fault Unit} {fault : Fault}

theorem orderly (turn : Turn around deadline name state left readings result) :
    Orderly left name readings := by
  induction turn with
  | stopped => exact ⟨by simp, by simp, by simp⟩
  | established proper | illegible proper | exhausted proper =>
    refine ⟨by simpa using proper, by simp, fun before reading after shape _ => ?_⟩
    obtain ⟨_, alone⟩ | ⟨_, none⟩ := List.singleton_eq_append_iff.mp shape
    · exact (List.cons.inj alone).2
    · cases none
  | later proper unready _ ih =>
    refine ⟨List.forall_mem_cons.mpr ⟨proper, ih.proper⟩, Nat.succ_le_succ ih.within, ?_⟩
    rintro (_ | ⟨first, before⟩) reading after shape established
    · obtain ⟨rfl, _⟩ := List.cons.inj shape
      exact absurd established unready.1
    · exact ih.final before reading after (List.cons.inj shape).2 established

/-- A turn that succeeds ends with an established definition. -/
theorem endsEstablished (turn : Turn around deadline name state left readings (.ok ())) :
    EndsWith Reading.Established readings := by
  generalize ended : Except.ok () = result at turn
  induction turn with
  | established _ established => exact ⟨[], _, rfl, established⟩
  | later _ _ _ ih => exact (ih ended).cons _
  | _ => cases ended

theorem failed (turn : Turn around deadline name state left readings (.error fault)) :
    Failed around deadline left name state readings fault := by
  generalize ended : Except.error fault = result at turn
  induction turn with
  | stopped stop =>
    cases ended
    exact .stopped (by simp) stop
  | established => cases ended
  | illegible _ illegible =>
    cases ended
    exact .illegible ⟨[], _, rfl, illegible⟩
  | exhausted _ unready spent =>
    cases ended
    refine .exhausted (by simpa using unready.1) ?_
    obtain rfl | reached := spent
    · exact .inl rfl
    · exact .inr ⟨[], _, rfl, reached⟩
  | later _ unready _ ih =>
    cases ih ended with
    | exhausted others spent =>
      refine .exhausted (List.forall_mem_cons.mpr ⟨unready.1, others⟩) ?_
      exact spent.imp (congrArg Nat.succ) fun ends => ends.cons _
    | stopped others stop => exact .stopped (List.forall_mem_cons.mpr ⟨unready.1, others⟩) stop
    | illegible ends => exact .illegible (ends.cons _)

end Turn

/-- Polling a name is a turn of it, put on record. -/
theorem Waiter.poll_turn [Scalar τ] (around : Surroundings σ τ) (name : Text) (deadline : τ)
    {left : Nat} (pos : 0 < left) (backoff : Backoff τ)
    (waiting : Waiting (σ × List (Reading τ)) τ) :
    let run := poll around.recording name deadline left backoff waiting
    ∃ readings, run.2.state.2 = waiting.state.2 ++ readings ∧
      Turn around deadline name run.2.state.1 left readings run.1 := by
  -- With no attempt left nothing would be read, but polling never comes to that.
  induction left generalizing backoff waiting with
  | zero => cases pos
  | succ left ih =>
    rw [poll]
    split
    next set => exact ⟨[], (List.append_nil _).symm, .stopped fun _ => set⟩
    next going =>
      dsimp only
      generalize Scalar.larger (_ : τ) leastLimit = limit
      have proper : (around.reading name limit waiting.state.1).Proper name :=
        ⟨rfl, Bool.eq_false_iff.mpr going⟩
      obtain ⟨noted, clock, outcome⟩ := look_recording around name limit waiting
      generalize look around.recording name limit waiting = looked at noted clock outcome ⊢
      generalize around.reading name limit waiting.state.1 = reading at proper noted clock outcome
      obtain ⟨result, mid⟩ := looked
      obtain ⟨rfl, established⟩ | ⟨rfl, unready⟩ | ⟨rfl, illegible⟩ := outcome
      · exact ⟨[reading], noted, .established proper established⟩
      · dsimp only
        -- The last attempt is not followed by a wait, nor is one after which no time is left.
        split
        next spent =>
          refine ⟨[reading], noted, .exhausted proper unready ?_⟩
          rw [Reached, ← clock]
          exact spent.symm
        next unspent =>
          have again : 0 < left := Nat.pos_of_ne_zero fun none => unspent (.inr none)
          change ∃ readings, _
          generalize around.recording.clock mid.state = now
          obtain ⟨kept, told⟩ := pause_recording around backoff (deadline - now) mid
          generalize pause around.recording backoff (deadline - now) mid = paused at kept told ⊢
          obtain ⟨stopped, rested⟩ := paused
          have shown : rested.state.2 = waiting.state.2 ++ [reading] := kept.trans noted
          cases stopped with
          | true => exact ⟨[reading], shown, .later proper unready (.stopped (told rfl))⟩
          | false =>
            obtain ⟨readings, grown, turn⟩ := ih again backoff.next rested
            refine ⟨reading :: readings, ?_, .later proper unready turn⟩
            calc _ = rested.state.2 ++ readings := grown
              _ = waiting.state.2 ++ reading :: readings := by
                rw [shown, List.append_assoc, List.singleton_append]
      · exact ⟨[reading], noted, .illegible proper illegible⟩

/-! ## All the turns -/

/-- The turns of a list of names, how they end, and the final state. Only the last turn may fail. -/
inductive Course [Scalar τ] (around : Surroundings σ τ) (deadline : τ) (attempts : Nat)
    (state : σ) : List Text → List (List (Reading τ)) → Except Fault Unit → Prop where
  | finished : Course around deadline attempts state [] [] (.ok ())
  | next {name : Text} {names : List Text} {middle : σ} {turn : List (Reading τ)}
      {turns : List (List (Reading τ))} {result : Except Fault Unit}
      (first : Turn around deadline name middle attempts turn (.ok ()))
      (others : Course around deadline attempts state names turns result) :
      Course around deadline attempts state (name :: names) (turn :: turns) result
  | failed {name : Text} {names : List Text} {turn : List (Reading τ)} {fault : Fault}
      (first : Turn around deadline name state attempts turn (.error fault)) :
      Course around deadline attempts state (name :: names) [turn] (.error fault)

namespace Course

variable [Scalar τ] {around : Surroundings σ τ} {deadline : τ} {attempts : Nat} {state : σ}
  {names : List Text} {turns : List (List (Reading τ))} {result : Except Fault Unit}
  {fault : Fault}

/-- The turns are those of the first names, in order. -/
theorem orderly (course : Course around deadline attempts state names turns result) :
    List.Forall₂ (Orderly attempts) (names.take turns.length) turns := by
  induction course with
  | finished => exact .nil
  | next first _ ih => exact .cons first.orderly ih
  | failed first => exact .cons first.orderly .nil

theorem of_ok (course : Course around deadline attempts state names turns (.ok ())) :
    turns.length = names.length ∧ ∀ turn ∈ turns, EndsWith Reading.Established turn := by
  generalize ended : Except.ok () = result at course
  induction course with
  | finished => simp
  | next first _ ih =>
    obtain ⟨all, established⟩ := ih ended
    exact ⟨congrArg Nat.succ all, List.forall_mem_cons.mpr ⟨first.endsEstablished, established⟩⟩
  | failed => cases ended

theorem of_error (course : Course around deadline attempts state names turns (.error fault)) :
    ∃ earlier name later done turn, names = earlier ++ name :: later ∧ turns = done ++ [turn] ∧
      done.length = earlier.length ∧ (∀ turn ∈ done, EndsWith Reading.Established turn) ∧
      Failed around deadline attempts name state turn fault := by
  generalize ended : Except.error fault = result at course
  induction course with
  | finished => cases ended
  | @next name _ _ turn _ _ first _ ih =>
    obtain ⟨earlier, failing, later, done, last, rfl, rfl, length, established, failed⟩ := ih ended
    refine ⟨name :: earlier, failing, later, turn :: done, last, rfl, rfl, congrArg Nat.succ length,
      ?_, failed⟩
    exact List.forall_mem_cons.mpr ⟨first.endsEstablished, established⟩
  | @failed name names turn _ first =>
    cases ended
    exact ⟨[], name, names, [], turn, rfl, rfl, rfl, by simp, first.failed⟩

end Course

namespace Waiter

variable [Scalar τ]

/-- Polling names in turn is a course of turns, put on record. -/
theorem pollAll_course (waiter : Waiter) (around : Surroundings σ τ) (deadline : τ)
    (names : List Text) (waiting : Waiting (σ × List (Reading τ)) τ) :
    let run := pollAll waiter around.recording deadline names waiting
    ∃ turns, run.2.state.2 = waiting.state.2 ++ turns.flatten ∧
      Course around deadline waiter.attempts run.2.state.1 names turns run.1 := by
  induction names generalizing waiting with
  | nil => exact ⟨[], (List.append_nil _).symm, .finished⟩
  | cons name names ih =>
    rw [pollAll]
    obtain ⟨turn, noted, first⟩ :=
      poll_turn around name deadline waiter.attempts_pos Backoff.polling waiting
    generalize poll around.recording name deadline waiter.attempts Backoff.polling waiting = polled
      at noted first ⊢
    obtain ⟨result, mid⟩ := polled
    cases result with
    | error fault => exact ⟨[turn], by simpa using noted, .failed first⟩
    | ok _ =>
      obtain ⟨turns, grown, others⟩ := ih (mid.log .info ("CRD " ++ name ++ " is established"))
      refine ⟨turn :: turns, ?_, .next first others⟩
      calc _ = mid.state.2 ++ turns.flatten := grown
        _ = waiting.state.2 ++ (turn :: turns).flatten := by
          rw [show mid.state.2 = _ from noted, List.append_assoc, List.flatten_cons]

/-- Waiting for definitions does the same whether or not its reads are put on record, and the record
is a list of turns, one for each name in order: in its turn, each name is read at most as often as
there are attempts, never with the stop set, and never again once it was found established. If the
wait succeeds, every name had a turn and every turn ended with an established definition. If it fails,
the turns before the last one ended like that, and the last one failed in one of three ways. -/
theorem awaitAll_outcome (waiter : Waiter) (around : Surroundings σ τ) (names : List Text)
    (timeout : τ) (waiting : Waiting σ τ) :
    let deadline := around.clock waiting.state + timeout
    let run := waiter.awaitAll around.recording names timeout
      { waiting with state := (waiting.state, []) }
    waiter.awaitAll around names timeout waiting = (run.1, run.2.map Prod.fst) ∧
      ∃ turns, run.2.state.2 = turns.flatten ∧
        List.Forall₂ (Orderly waiter.attempts) (names.take turns.length) turns ∧
        (run.1 = .ok () →
          turns.length = names.length ∧ ∀ turn ∈ turns, EndsWith Reading.Established turn) ∧
        ∀ fault, run.1 = .error fault →
          ∃ earlier name later done turn, names = earlier ++ name :: later ∧
            turns = done ++ [turn] ∧ done.length = earlier.length ∧
            (∀ turn ∈ done, EndsWith Reading.Established turn) ∧
            Failed around deadline waiter.attempts name run.2.state.1 turn fault := by
  intro deadline run
  obtain ⟨turns, noted, course⟩ := pollAll_course waiter around deadline names
    { waiting with state := (waiting.state, []) }
  refine ⟨?_, turns, noted, course.orderly, fun succeeded => ?_, fun fault failed => ?_⟩
  · exact pollAll_map around.recording_mirrors waiter names { waiting with state := (waiting.state, []) }
  · exact Course.of_ok (succeeded ▸ course)
  · exact Course.of_error (failed ▸ course)

/-- A stop comes while the first of two definitions is read and found established: the wait for the
second ends with it. -/
theorem awaitAll_outcome_stopped :
    let definition : Value :=
      .record [("metadata", .record [("uid", .text "u")]), ("status", .record [("conditions",
        .list [.record [("type", .text "Established"), ("status", .text "True")]])])]
    let around : Surroundings Bool Rat :=
      { clock := fun _ => 0
        stopSet := fun stopped => stopped
        read := fun _ _ _ => (.ok definition, true)
        wait := fun _ stopped => (stopped, stopped) }
    let run := (Waiter.mk 5 (by decide)).awaitAll around ["a", "b"] 60
      { state := false, draws := { roll := fun _ => 0, taken := 0 }, events := [] }
    around.Honest ∧ run.1 = .error (Fault.stopWhileWaiting "b") ∧
      around.stopSet run.2.state = true := by
  intro definition around run
  have honest : around.Honest := fun _ _ told => told
  have stopped : run.1 = .error (Fault.stopWhileWaiting "b") := by rfl
  refine ⟨honest, stopped, ?_⟩
  obtain ⟨plain, _, _, _, _, failed⟩ := awaitAll_outcome (Waiter.mk 5 (by decide)) around
    ["a", "b"] 60 { state := false, draws := { roll := fun _ => 0, taken := 0 }, events := [] }
  change run = _ at plain
  rw [plain] at stopped ⊢
  obtain ⟨_, _, _, _, _, _, _, _, _, ended⟩ := failed _ stopped
  generalize told : Fault.stopWhileWaiting ("b" : String) = fault at ended
  cases ended with
  | stopped _ stop => exact stop honest
  | exhausted | illegible => cases told

end Waiter

end ApiSurface.Crd
