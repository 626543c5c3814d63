import Mathlib.Data.Set.Insert
import Mathlib.Logic.Relation
import ApiSurface.Proofs.Tracker.Asking
import ApiSurface.Proofs.Tracker.Operations

/-!
# Step by step

`Step` says once what can happen to a tracker and its surroundings at a time, with the
condition under which it does: nothing is requested, installed, decoded, applied or opened
once the stop signal that is heeded is set, the limiter answers by its own state and the
clock, and what it lets through is attempted at once. Every operation, with whatever calls
back come in between, is a sequence of such steps, so what each step keeps every run keeps.

The kinds of the steps tell operations apart by what they never do: only loops wait, only a
watch opens streams, and only a start makes a tracker ready.
-/

namespace ApiSurface.Tracker

variable {τ : Type}

/-- What part of a tracker's work a step belongs to. -/
inductive Kind where
  /-- Rebuilding and telling of it, and whatever else calls back may do. -/
  | call
  /-- Learning of definitions, from a listing or an event. -/
  | learn
  /-- Waiting between the rounds of a loop. -/
  | wait
  /-- Opening and closing of streams. -/
  | watch
  /-- Registering subscribers, and starting. -/
  | setUp
deriving DecidableEq

/-- An entry that comes with no change of the tracker and under no condition. -/
def Entry.isRemark : Entry τ → Bool
  | listedGroups => true
  | answeredGroups _ => true
  | answeredResources _ _ => true
  | listedCrds => true
  | notified _ => true
  | told _ => true
  | untold => true
  | acted .readSnapshot (.ok _) => false
  | acted (.subscribe _) (.ok _) => false
  | acted _ _ => true
  | stoppedWatch => true
  | joined _ _ => true
  | logged _ => true
  | counted .scanErrors => true
  | counted .failed => true
  | counted .subscriberErrors => true
  | counted .watchErrors => true
  | counted .passes => true
  | completedPass _ => true
  | _ => false

namespace World

/-- The world in which a rebuild found the lock taken. -/
def skipped (w : World τ) : World τ :=
  { w with
      journal :=
        .counted .skipped ::
          .logged ⟨.debug, "API resource collection already in progress; skipping"⟩ ::
            w.journal }

/-- The world in which a request for a rebuild was forgotten. -/
def dropped (w : World τ) : World τ :=
  { w with
      journal :=
        .logged ⟨.debug, "Rate limiter dropped API resource collection trigger"⟩ :: w.journal }

/-- The world in which a subscriber was added by a call back. -/
def joinedBy (w : World τ) (name : Text) : World τ :=
  { w with
      tracker :=
        { w.tracker with
            subscribers :=
              w.tracker.subscribers ++
                [.client name fun _ => { actions := [], outcome := .ok () }] }
      journal := .acted (.subscribe name) (.ok .nothing) :: w.journal }

/-- The world in which the served group-versions were asked for. -/
def listing (w : World τ) : World τ := { w with journal := .listedGroups :: w.journal }

/-- No heeded signal is set. -/
def Going (w : World τ) (heeded : Option Signal) : Prop :=
  ∀ signal ∈ heeded, w.isSet signal = false

end World

/-- What can happen at a time, where a stop signal is heeded or none. -/
inductive Step [Scalar τ] (heeded : Option Signal) : Kind → World τ → World τ → Prop where
  | remarked {w : World τ} {entry : Entry τ} (remark : entry.isRemark = true) :
      Step heeded .call w { w with journal := entry :: w.journal }
  | read {w : World τ} (ready : w.tracker.ready = true) :
      Step heeded .call w { w with journal := .reading w.tracker.snapshot :: w.journal }
  | joined {w : World τ} (name : Text) : Step heeded .call w (w.joinedBy name)
  | signalled {w : World τ} (signal : Signal) : Step heeded .call w (w.set signal)
  | elapsed {w : World τ} (time : τ) : Step heeded .call w { w with clock := time }
  | unlooped {w : World τ} :
      Step heeded .call w { w with tracker := { w.tracker with loops := [] } }
  | began {w : World τ} (free : w.tracker.rebuilding = false) : Step heeded .call w w.begun
  | skipped {w : World τ} (locked : w.tracker.rebuilding = true) : Step heeded .call w w.skipped
  | attempted {w : World τ} (admits : w.tracker.limiter.admits w.clock = true)
      (free : w.tracker.rebuilding = false) : Step heeded .call w w.asked.begun
  | attemptedInVain {w : World τ} (admits : w.tracker.limiter.admits w.clock = true)
      (locked : w.tracker.rebuilding = true) : Step heeded .call w w.asked.skipped
  | dropped {w : World τ} (refuses : w.tracker.limiter.admits w.clock = false) :
      Step heeded .call w w.asked.dropped
  | requested {w : World τ} (key : Text) (going : w.Going heeded) :
      Step heeded .call w { w with journal := .requestedResources key :: w.journal }
  | confirmed {w : World τ} {collected : Snapshot}
      (equal : collected.equals w.tracker.snapshot = .ok true) : Step heeded .call w w.confirmed
  | replaced {w : World τ} {collected : Snapshot} (going : w.Going heeded)
      (different : collected.equals w.tracker.snapshot = .ok false) :
      Step heeded .call w (w.replaced collected)
  | released {w : World τ} : Step heeded .call w w.released
  | relisted {w : World τ} (uids : List Text) : Step heeded .learn w (w.relisted uids)
  | decoded {w : World τ} (event : WatchEvent) (going : w.Going heeded) :
      Step heeded .learn w { w with journal := .decoded event :: w.journal }
  | applied {w : World τ} (event : CrdEvent) (going : w.Going heeded) :
      Step heeded .learn w (w.applied event)
  | gauged {w : World τ} : Step heeded .learn w w.gauged
  | waited {w : World τ} {entry : Entry τ} (wait : entry.isWait = true) (length : τ) :
      Step heeded .wait w { w with clock := w.clock + length, journal := entry :: w.journal }
  | watching {w : World τ} (watching : Bool) :
      Step heeded .watch w { w with tracker := { w.tracker with watching } }
  | streamCounted {w : World τ} : Step heeded .watch w w.streamCounted
  | opened {w : World τ} (timeout : Seconds τ) (going : w.Going heeded) :
      Step heeded .watch w { w with journal := .openedStream timeout :: w.journal }
  | registered {w : World τ} (subscriber : Subscriber τ) :
      Step heeded .setUp w (w.registered subscriber)
  | adopted {w : World τ} (signal : Signal) (unheeding : heeded = none) :
      Step heeded .setUp w { w with tracker := { w.tracker with ownStop := signal } }
  | signalTaken {w : World τ} (next : Signal) :
      Step heeded .setUp w { w with nextSignal := next }
  | becameReady {w : World τ} (completed : roundsOf w.journal ≠ []) :
      Step heeded .setUp w { w with tracker := { w.tracker with ready := true } }
  | looped {w : World τ} :
      Step heeded .setUp w { w with tracker := { w.tracker with loops := Loop.all } }
  | startedLoop {w : World τ} (loop : Loop) :
      Step heeded .setUp w { w with journal := .startedLoop loop :: w.journal }

/-- Any number of steps of some kinds. -/
def Steps [Scalar τ] (heeded : Option Signal) (kinds : Set Kind) : World τ → World τ → Prop :=
  Relation.ReflTransGen fun w w' => ∃ kind ∈ kinds, Step heeded kind w w'

section

variable [Scalar τ] {heeded : Option Signal} {kind : Kind} {kinds : Set Kind}
variable {w w' w'' : World τ}

/-! ## What steps keep -/

/-- What every step of some kinds keeps, steps of these kinds keep. -/
theorem Steps.keeps (steps : Steps heeded kinds w w') (property : World τ → Prop)
    (kept : ∀ {w w' kind}, kind ∈ kinds → Step heeded kind w w' → property w → property w')
    (holds : property w) : property w' := by
  induction steps with
  | refl => exact holds
  | tail _ step ih =>
    obtain ⟨kind, among, step⟩ := step
    exact kept among step ih

/-- A reflexive and transitive relation that every step of some kinds goes along. -/
theorem Steps.along {R : World τ → World τ → Prop} [IsPreorder (World τ) R]
    (steps : Steps heeded kinds w w')
    (along : ∀ {w w' kind}, kind ∈ kinds → Step heeded kind w w' → R w w') : R w w' := by
  induction steps with
  | refl => exact refl_of R w
  | tail _ step ih =>
    obtain ⟨kind, among, step⟩ := step
    exact trans_of R ih (along among step)

/-- The journal only grows. -/
theorem Step.grows (step : Step heeded kind w w') : w.journal <:+ w'.journal := by
  have once : ∀ entry : Entry τ, w.journal <:+ entry :: w.journal := fun _ => List.suffix_cons ..
  have twice : ∀ entry other : Entry τ, w.journal <:+ entry :: other :: w.journal :=
    fun entry other => (once other).trans (List.suffix_cons ..)
  cases step with
  | remarked | read | joined | signalled | began | requested | applied | waited | opened
  | decoded | registered | startedLoop => exact once _
  | skipped | attempted | dropped | confirmed | relisted => exact twice _ _
  | attemptedInVain | replaced => exact (twice _ _).trans (List.suffix_cons ..)
  | streamCounted =>
    unfold World.streamCounted
    dsimp only
    split
    · exact once _
    · exact List.suffix_refl _
  | _ => exact List.suffix_refl _

theorem Steps.grows (steps : Steps heeded kinds w w') : w.journal <:+ w'.journal := by
  induction steps with
  | refl => exact List.suffix_refl _
  | tail _ step ih =>
    obtain ⟨_, _, step⟩ := step
    exact ih.trans step.grows

/-- Asking the limiter changes nothing else about the tracker. -/
theorem World.asked_tracker (w : World τ) :
    w.asked.tracker = { w.tracker with limiter := w.asked.tracker.limiter } := by
  unfold asked
  cases w.tracker.limiter.admits w.clock <;> rfl

omit [Scalar τ] in
/-- An entry with what came before it stood in a journal already, or came with the news. -/
theorem cons_suffix_append {entry : Entry τ} {earlier news journal : Journal τ}
    (within : entry :: earlier <:+ news ++ journal) :
    entry :: earlier <:+ journal ∨
      ∃ since, earlier = since ++ journal ∧ entry :: since <:+ news := by
  rcases List.suffix_or_suffix_of_suffix within (List.suffix_append news journal) with there | here
  · exact .inl there
  rcases List.suffix_cons_iff.mp here with whole | ⟨since, rfl⟩
  · exact .inl (whole ▸ List.suffix_refl _)
  · rw [← List.cons_append] at within
    exact .inr ⟨since, rfl, List.suffix_append_self_iff.mp within⟩

/-! ## Signals that are heeded -/

/-- The signal that is heeded, if one is, is a given one. -/
def Heeds (heeded : Option Signal) (stop : Signal) : Prop := ∀ signal ∈ heeded, signal = stop

omit [Scalar τ] in
/-- Nothing heeded is set where a signal that is heeded at most is not. -/
theorem World.Going.of_unset {stop : Signal} (heeds : Heeds heeded stop)
    (unset : w.isSet stop = false) : w.Going heeded := by
  intro signal among
  rw [heeds signal among, unset]

/-- Where the signal that is heeded is the tracker's own, it stays so. -/
theorem Step.heeds (step : Step heeded kind w w') (owns : Heeds heeded w.tracker.ownStop) :
    Heeds heeded w'.tracker.ownStop := by
  cases step with
  | adopted signal unheeding =>
    intro signal among
    rw [unheeding] at among
    cases among
  | attempted | attemptedInVain | dropped =>
    change Heeds heeded w.asked.tracker.ownStop
    rwa [w.asked_tracker]
  | _ => exact owns

/-- Where the signal that is heeded is the tracker's own, all that happens are steps of some
kinds. -/
def Proceeds (heeded : Option Signal) (kinds : Set Kind) (w w' : World τ) : Prop :=
  Heeds heeded w.tracker.ownStop → Steps heeded kinds w w'

theorem Step.proceeds (among : kind ∈ kinds) (step : Step heeded kind w w') :
    Proceeds heeded kinds w w' :=
  fun _ => Relation.ReflTransGen.single ⟨kind, among, step⟩

theorem Proceeds.grows (proceeds : Proceeds none kinds w w') : w.journal <:+ w'.journal :=
  (proceeds nofun).grows

instance : IsPreorder (World τ) (Proceeds heeded kinds) where
  refl _ _ := .refl
  trans := by
    intro w w' w'' first second owns
    have steps := first owns
    exact steps.trans (second (steps.keeps _ (fun _ step => step.heeds) owns))

end

end ApiSurface.Tracker
