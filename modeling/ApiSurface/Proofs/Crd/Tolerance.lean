import ApiSurface.Proofs.Crd.Waiting

/-!
# What a waiter puts up with

Whatever a read brings back, short of an established definition, is read again as long as attempts
and time are left, and the wait fails in no other way than by running out of them or by a stop. One
thing a waiter does not put up with: an identified definition whose conditions cannot be gone
through ends the wait at once.
-/

namespace ApiSurface.Crd

variable {σ τ : Type}

/-- An established definition is legible. -/
theorem Reading.Established.not_illegible {reading : Reading τ}
    (established : reading.Established) : ¬ reading.Illegible := by
  rintro ⟨payload, answer, _, illegible⟩
  obtain ⟨_, same, _, _, _, _, readable, _⟩ := established
  obtain rfl := Except.ok.inj (answer.symm.trans same)
  cases readable.symm.trans (Info.conditions_eq_error_iff.mpr ⟨illegible, rfl⟩)

/-- In a turn of a name that name is read again after every read that does not decide, unless the
wait is over: with the attempts or the time used up, or with a stop. -/
structure Persistent [Scalar τ] (around : Surroundings σ τ) (deadline : τ) (attempts : Nat)
    (state : σ) (result : Except Fault Unit) (name : Text) (turn : List (Reading τ)) : Prop where
  named : ∀ reading ∈ turn, reading.name = name
  again : ∀ before reading after, turn = before ++ reading :: after → reading.Unready →
    after ≠ [] ∨
      result = .error (.notEstablished name) ∧
        (turn.length = attempts ∨ Reached deadline reading.clock) ∨
      result = .error (Fault.stopWhileWaiting name) ∧
        (around.Honest → around.stopSet state = true)

variable [Scalar τ] {around : Surroundings σ τ} {deadline : τ} {attempts : Nat} {name : Text}
  {state : σ} {result : Except Fault Unit} {fault : Fault}

/-- In a turn that succeeded nothing was given up, however the wait ends. -/
theorem Persistent.of_ok {middle : σ} {turn : List (Reading τ)}
    (persistent : Persistent around deadline attempts middle (.ok ()) name turn) :
    Persistent around deadline attempts state result name turn where
  named := persistent.named
  again before reading after shape unready := by
    obtain more | ⟨failed, _⟩ | ⟨failed, _⟩ := persistent.again before reading after shape unready
    · exact .inl more
    · cases failed
    · cases failed

namespace Turn

variable {left : Nat} {readings : List (Reading τ)}

/-- A definition that is not legible ends the turn it is read in. -/
theorem misuse_of_illegible (turn : Turn around deadline name state left readings result)
    {reading : Reading τ} (member : reading ∈ readings) (illegible : reading.Illegible) :
    result = .error (.misuse .wrongType) := by
  induction turn with
  | stopped => cases member
  | established _ established =>
    obtain rfl := List.mem_singleton.mp member
    exact absurd illegible established.not_illegible
  | illegible => rfl
  | exhausted _ unready =>
    obtain rfl := List.mem_singleton.mp member
    exact absurd illegible unready.2
  | later _ unready _ ih =>
    obtain rfl | member := List.mem_cons.mp member
    · exact absurd illegible unready.2
    · exact ih member

theorem persistent (turn : Turn around deadline name state left readings result) :
    Persistent around deadline left state result name readings := by
  refine ⟨fun reading member => (turn.orderly.proper reading member).1, ?_⟩
  -- A turn of one reading is split around that reading only.
  have alone : ∀ {reading other : Reading τ} {before after}, [reading] = before ++ other :: after →
      reading = other := by
    intro reading other before after shape
    have member : other ∈ [reading] := by simp [shape]
    exact (List.mem_singleton.mp member).symm
  induction turn with
  | stopped => simp
  | established _ established =>
    intro before reading after shape unready
    exact absurd (alone shape ▸ established) unready.1
  | illegible _ illegible =>
    intro before reading after shape unready
    exact absurd (alone shape ▸ illegible) unready.2
  | exhausted _ _ spent =>
    intro before reading after shape _
    obtain rfl := alone shape
    exact .inr (.inl ⟨rfl, spent.imp_left fun none => by simp [none]⟩)
  | @later left first readings result _ _ turn ih =>
    rintro (_ | ⟨_, before⟩) reading after shape unready
    · -- The first reading is the last only if a stop followed it.
      obtain ⟨rfl, rfl⟩ := List.cons.inj shape
      cases turn with
      | stopped stop => exact .inr (.inr ⟨rfl, stop⟩)
      | _ => exact .inl (by simp)
    · obtain ⟨_, rest⟩ := List.cons.inj shape
      obtain more | ⟨failed, spent⟩ | stopped := ih before reading after rest unready
      · exact .inl more
      · exact .inr (.inl ⟨failed, spent.imp_left (congrArg Nat.succ)⟩)
      · exact .inr (.inr stopped)

end Turn

namespace Course

variable {names : List Text} {turns : List (List (Reading τ))}

theorem persistent (course : Course around deadline attempts state names turns result) :
    List.Forall₂ (Persistent around deadline attempts state result) (names.take turns.length)
      turns := by
  induction course with
  | finished => exact .nil
  | next first _ ih => exact .cons first.persistent.of_ok ih
  | failed first => exact .cons first.persistent .nil

theorem misuse_of_illegible (course : Course around deadline attempts state names turns result)
    {reading : Reading τ} (member : reading ∈ turns.flatten) (illegible : reading.Illegible) :
    result = .error (.misuse .wrongType) := by
  induction course with
  | finished => cases member
  | next first _ ih =>
    obtain member | member := List.mem_append.mp member
    · cases first.misuse_of_illegible member illegible
    · exact ih member
  | failed first => exact first.misuse_of_illegible (by simpa using member) illegible

/-- There are four ways for the turns to end. -/
theorem result_cases (course : Course around deadline attempts state names turns result) :
    result = .ok () ∨
      (∃ name ∈ names, result = .error (.notEstablished name) ∨
        result = .error (Fault.stopWhileWaiting name)) ∨
      result = .error (.misuse .wrongType) ∧ ∃ reading ∈ turns.flatten, reading.Illegible := by
  cases result with
  | ok _ => exact .inl rfl
  | error fault =>
    obtain ⟨earlier, name, later, done, turn, rfl, rfl, _, _, failed⟩ := course.of_error
    have named : name ∈ earlier ++ name :: later := by simp
    cases failed with
    | exhausted => exact .inr (.inl ⟨name, named, .inl rfl⟩)
    | stopped => exact .inr (.inl ⟨name, named, .inr rfl⟩)
    | illegible ends =>
      obtain ⟨before, last, rfl, illegible⟩ := ends
      exact .inr (.inr ⟨rfl, last, by simp, illegible⟩)

end Course

namespace Waiter

/-- Waiting for definitions does the same whether or not its reads are put on record, and the record
is a list of turns, one for each name in order, in which everything short of an established
definition is read again as long as attempts and time are left. A wait that does not succeed reports
a name that was not established in time, or a stop, unless a definition was read whose conditions
cannot be gone through: exactly then the wait ends as a misuse of what was read. -/
theorem awaitAll_tolerant (waiter : Waiter) (around : Surroundings σ τ) (names : List Text)
    (timeout : τ) (waiting : Waiting σ τ) :
    let deadline := around.clock waiting.state + timeout
    let run := waiter.awaitAll around.recording names timeout
      { waiting with state := (waiting.state, []) }
    waiter.awaitAll around names timeout waiting = (run.1, run.2.map Prod.fst) ∧
      (∃ turns, run.2.state.2 = turns.flatten ∧
        List.Forall₂ (Persistent around deadline waiter.attempts run.2.state.1 run.1)
          (names.take turns.length) turns) ∧
      (run.1 = .ok () ∨
        (∃ name ∈ names, run.1 = .error (.notEstablished name) ∨
          run.1 = .error (Fault.stopWhileWaiting name)) ∨
        run.1 = .error (.misuse .wrongType)) ∧
      (run.1 = .error (.misuse .wrongType) ↔ ∃ reading ∈ run.2.state.2, reading.Illegible) := by
  intro deadline run
  obtain ⟨turns, noted, course⟩ := pollAll_course waiter around deadline names
    { waiting with state := (waiting.state, []) }
  have kept : run.2.state.2 = turns.flatten := noted
  refine ⟨?_, ⟨turns, kept, course.persistent⟩, ?_, ?_⟩
  · exact awaitAll_map around.recording_mirrors waiter names timeout
      { waiting with state := (waiting.state, []) }
  · obtain succeeded | failed | ⟨misused, _⟩ := course.result_cases
    · exact .inl succeeded
    · exact .inr (.inl failed)
    · exact .inr (.inr misused)
  · rw [kept]
    constructor
    · intro misused
      obtain succeeded | ⟨_, _, failed⟩ | ⟨_, illegible⟩ := course.result_cases
      · cases misused.symm.trans succeeded
      · obtain failed | failed := failed <;> cases misused.symm.trans failed
      · exact illegible
    · rintro ⟨reading, member, illegible⟩
      exact course.misuse_of_illegible member illegible

/-- A definition whose conditions are a flag ends the wait in neither of the ways that are meant for
a wait to end. -/
theorem awaitAll_misled :
    let definition : Value :=
      .record [("metadata", .record [("uid", .text "u")]),
        ("status", .record [("conditions", .bool true)])]
    let around : Surroundings Unit Rat :=
      { clock := fun _ => 0
        stopSet := fun _ => false
        read := fun _ _ _ => (.ok definition, ())
        wait := fun _ _ => (false, ()) }
    let run := (Waiter.mk 1 (by decide)).awaitAll around ["a"] 10
      { state := (), draws := { roll := fun _ => 0, taken := 0 }, events := [] }
    run.1 ≠ .ok () ∧ ∀ name, run.1 ≠ .error (.notEstablished name) ∧
      run.1 ≠ .error (Fault.stopWhileWaiting name) := by
  intro definition around run
  have misused : run.1 = .error (.misuse .wrongType) := by rfl
  rw [misused]
  exact ⟨nofun, fun _ => ⟨nofun, nofun⟩⟩

end Waiter

end ApiSurface.Crd
