import ApiSurface.Proofs.Tracker.Containment
import ApiSurface.Proofs.Tracker.Shifts

/-!
# Quiescence

Once its stop signal is set a tracker comes to rest: what it is doing ends without another
event or stream and without a new snapshot, whatever calls back, and its loops take no more
turns. The point at which the signal is set is the entry that says so, so nothing of this
kind stands after that entry in the journal. The surroundings set the signal: they do so
within an answer, a stream, a subscriber or a wait, whichever the loop is in.

Requests for resources are not among these entries. A pass makes them on its workers, where
a scan looks at the signal first and is requested in a step of its own, so what a stop leaves
to be requested is told of the schedules of a pass.
-/

namespace ApiSurface.Tracker

variable {τ : Type}

/-- Whether an entry is work that is not begun once a stop was seen. -/
def Entry.isWork : Entry τ → Bool
  | installed _ => true
  | decoded _ => true
  | applied _ => true
  | openedStream _ => true
  | _ => false

/-- A signal was not set in a world, nor since up to a later journal. -/
def World.Unstopped (w : World τ) (stop : Signal) (journal : Journal τ) : Prop :=
  w.isSet stop = false ∧ ∃ news, journal = news ++ w.journal ∧ .signalled stop ∉ news

/-- From one world to another a signal was set exactly if the journal says so, all work was begun
before that, and the snapshot was not replaced if it had been set already. -/
structure World.Quiesces (stop : Signal) (w w' : World τ) : Prop where
  raised : ∃ news, w'.journal = news ++ w.journal ∧
    (w'.isSet stop = true ↔ w.isSet stop = true ∨ .signalled stop ∈ news)
  work : ∀ entry earlier, entry :: earlier <:+ w'.journal → entry.isWork = true →
    entry :: earlier <:+ w.journal ∨ w.Unstopped stop earlier
  snapshot : w.isSet stop = true → w'.tracker.snapshot = w.tracker.snapshot

namespace World.Quiesces

variable {stop : Signal} {w w' w'' : World τ}

theorem refl (w : World τ) : Quiesces stop w w :=
  ⟨⟨[], rfl, by simp⟩, fun _ _ within _ => .inl within, fun _ => rfl⟩

/-- Where a signal is set, it was set before if it was so then. -/
theorem still (quiesces : Quiesces stop w w') (set : w.isSet stop = true) :
    w'.isSet stop = true := by
  obtain ⟨news, _, raised⟩ := quiesces.raised
  exact raised.mpr (.inl set)

theorem trans (first : Quiesces stop w w') (second : Quiesces stop w' w'') :
    Quiesces stop w w'' := by
  obtain ⟨news, journal, raised⟩ := first.raised
  obtain ⟨news', journal', raised'⟩ := second.raised
  refine ⟨⟨news' ++ news, by rw [journal', journal, List.append_assoc], ?_⟩, ?_, fun set => ?_⟩
  · rw [raised', raised, List.mem_append]
    tauto
  · intro entry earlier within work
    rcases second.work entry earlier within work with before | ⟨unset, since, rfl, silent⟩
    · exact first.work entry earlier before work
    · have unset := mt raised.mpr (Bool.eq_false_iff.mp unset)
      rw [not_or] at unset
      refine .inr ⟨Bool.eq_false_iff.mpr unset.1, since ++ news, ?_, ?_⟩
      · rw [journal, List.append_assoc]
      · rw [List.mem_append, not_or]
        exact ⟨silent, unset.2⟩
  · exact (second.snapshot (first.still set)).trans (first.snapshot set)

instance : IsPreorder (World τ) (Quiesces stop) where
  refl := refl
  trans _ _ _ := trans

/-- Entries that set no signal, and are work only where the signal is not set. -/
theorem noted (news : Journal τ) (journal : w'.journal = news ++ w.journal)
    (raised : w'.raised = w.raised) (unsignalled : .signalled stop ∉ news)
    (idle : ∀ entry ∈ news, entry.isWork = true → w.isSet stop = false)
    (snapshot : w.isSet stop = true → w'.tracker.snapshot = w.tracker.snapshot) :
    Quiesces stop w w' := by
  have same : w'.isSet stop = w.isSet stop := congrArg (·.contains stop) raised
  refine ⟨⟨news, journal, by simp [same, unsignalled]⟩, fun entry earlier within work => ?_,
    snapshot⟩
  rcases cons_suffix_append (journal ▸ within) with there | ⟨since, rfl, among⟩
  · exact .inl there
  · have silent : .signalled stop ∉ since := fun member =>
      unsignalled (among.subset (List.mem_cons_of_mem _ member))
    exact .inr ⟨idle entry (among.subset List.mem_cons_self) work, since, rfl, silent⟩

/-- A signal that is set. -/
theorem signalled (signal : Signal) : Quiesces stop w (w.set signal) := by
  refine ⟨⟨[.signalled signal], rfl, ?_⟩, fun entry earlier within work => ?_, fun _ => rfl⟩
  · cases set : w.isSet signal with
    | true =>
      have kept : (w.set signal).isSet stop = w.isSet stop := by
        rw [isSet, World.set, if_pos set]
        rfl
      rw [kept, List.mem_singleton, Entry.signalled.injEq]
      constructor
      · exact .inl
      · rintro (before | rfl)
        · exact before
        · exact set
    | false =>
      rw [isSet, World.set, if_neg (Bool.eq_false_iff.mp set)]
      simp [isSet]
  · rcases List.suffix_cons_iff.mp within with here | before
    · obtain ⟨rfl, _⟩ := List.cons.inj here
      cases work
    · exact .inl before

end World.Quiesces

/-- An entry that is no work and sets no signal. -/
theorem Entry.idle_of_remark {entry : Entry τ} (remark : entry.isRemark = true) (stop : Signal) :
    entry.isWork = false ∧ entry ≠ .signalled stop := by
  cases entry with
  | installed | decoded | applied | openedStream | signalled => cases remark
  | _ => exact ⟨rfl, nofun⟩

theorem Entry.idle_of_wait {entry : Entry τ} (wait : entry.isWait = true) (stop : Signal) :
    entry.isWork = false ∧ entry ≠ .signalled stop := by
  cases entry with
  | waited | paused => exact ⟨rfl, nofun⟩
  | _ => cases wait

variable [Scalar τ] {kind : Kind} {stop : Signal} {w w' : World τ}

/-- Every step that heeds the signal. -/
theorem Step.quiesces (step : Step (some stop) kind w w') : w.Quiesces stop w' := by
  have idle : ∀ news : Journal τ, w'.journal = news ++ w.journal → w'.raised = w.raised →
      (∀ entry ∈ news, entry.isWork = false ∧ entry ≠ .signalled stop) →
        w'.tracker.snapshot = w.tracker.snapshot → w.Quiesces stop w' := by
    intro news journal raised idle snapshot
    refine .noted news journal raised (fun member => (idle _ member).2 rfl)
      (fun entry member work => ?_) fun _ => snapshot
    cases (idle entry member).1.symm.trans work
  have working : ∀ news : Journal τ, w.Going (some stop) → w'.journal = news ++ w.journal →
      w'.raised = w.raised → (∀ entry ∈ news, entry ≠ .signalled stop) → w.Quiesces stop w' := by
    intro news going journal raised silent
    have unset : w.isSet stop = false := going stop rfl
    refine .noted news journal raised (fun member => silent _ member rfl) (fun _ _ _ => unset) ?_
    intro set
    cases unset.symm.trans set
  have asked : w.asked.tracker.snapshot = w.tracker.snapshot := by rw [w.asked_tracker]
  cases step with
  | signalled signal => exact .signalled signal
  | decoded _ going | applied _ going | opened _ going => exact working [_] going rfl rfl (by simp)
  | replaced going different => exact working [_, _, _] going rfl rfl (by simp)
  | remarked remark => exact idle [_] rfl rfl (by simpa using Entry.idle_of_remark remark stop) rfl
  | waited wait => exact idle [_] rfl rfl (by simpa using Entry.idle_of_wait wait stop) rfl
  | attempted | dropped => exact idle [_, _] rfl rfl (by simp [Entry.isWork]) asked
  | attemptedInVain => exact idle [_, _, _] rfl rfl (by simp [Entry.isWork]) asked
  | skipped | confirmed | relisted => exact idle [_, _] rfl rfl (by simp [Entry.isWork]) rfl
  | requested | read | joined | began | registered | startedLoop =>
    exact idle [_] rfl rfl (List.forall_mem_singleton.mpr ⟨rfl, nofun⟩) rfl
  | @streamCounted w =>
    by_cases before : 0 < w.tracker.streams
    · exact idle [.counted .reconnects] (if_pos before) rfl (by simp [Entry.isWork]) rfl
    · exact idle [] (if_neg before) rfl (List.forall_mem_nil _) rfl
  | _ => exact idle [] rfl rfl (List.forall_mem_nil _) rfl

/-! ## Loops that come to rest -/

/-- Every loop goes on step by step under the signal that is heeded. -/
theorem Context.Stepwise.loop {heeded : Option Signal} {ctx : Context τ}
    (stepwise : ctx.Stepwise heeded Set.univ) (heeds : Heeds heeded stop) (draws : Draws τ)
    (rounds : Nat) (loop : Loop) :
    (loop.run ctx stop draws rounds).Moves (Proceeds heeded Set.univ) := by
  have among : ∀ kind : Kind, kind ∈ (Set.univ : Set Kind) := Set.mem_univ
  cases loop with
  | watch => exact stepwise.watchForever (among _) (among _) (among _) heeds rounds draws
  | collection => exact stepwise.collectPeriodically (among _) heeds rounds
  | fullRescan => exact stepwise.rescanPeriodically (among _) heeds (among _) rounds

/-- How a loop of some rounds heeds its stop signal: no work is begun once it is set, and of a
stream being read no further event is looked at. What a turn would do then makes no difference, as
none is taken; a loop that has ended does not go on, and one that is still going ends with the next
round. It fails only if a stream breaks off with a status that cannot be looked up, or if a wait is
too long to be made and the signal is not set. -/
structure Loop.Quiesces (ctx : Context τ) (stop : Signal) (draws : Draws τ) (rounds : Nat)
    (loop : Loop) (w : World τ) : Prop where
  work : w.Quiesces stop (loop.run ctx stop draws rounds w).2
  events : ∀ ending raw rest (mid : World τ), mid.isSet stop = true →
    readStream ctx stop ending (.event raw :: rest) mid = closeStream mid
  turns : ∀ turn : Op τ Bool, (∀ mid, mid.isSet stop = false → turn mid = loop.turn ctx stop mid) →
    loop.runWith ctx stop turn draws rounds = loop.run ctx stop draws rounds
  ended : (loop.run ctx stop draws rounds w).1 ≠ .ok false → ∀ more,
    loop.run ctx stop draws (rounds + more) w = loop.run ctx stop draws rounds w
  closes : ∀ after, loop.run ctx stop draws rounds w = (.ok false, after) →
    after.isSet stop = true → ∀ more, loop.run ctx stop draws (rounds + (more + 1)) w =
      (.ok true, loop.closing ctx stop w.tracker.settings after)
  fails : ∀ fault after, loop.run ctx stop draws rounds w = (.error fault, after) →
    (loop = .watch ∧ fault = .misuse .wrongType ∧
      ∃ journal, ¬ (ctx.around.stream journal).Legible) ∨
    ctx.CannotWait stop (loop.lengths w.tracker.settings draws) fault after

/-- Wherever a loop runs under the tracker's own stop signal, and waits are woken by it, the loop
heeds it, at whatever point it is set and whoever sets it. -/
theorem Loop.quiesces (around : Surroundings τ) (honest : around.Honest) {outer : Option Signal}
    (depth : Nat) (own : ∀ signal ∈ outer, signal = w.tracker.ownStop) (draws : Draws τ)
    (rounds : Nat) (loop : Loop) :
    loop.Quiesces (Context.nested around outer depth) w.tracker.ownStop draws rounds w := by
  have heeds : Heeds (some w.tracker.ownStop) w.tracker.ownStop := by
    rintro _ ⟨⟩
    rfl
  have given : HeedsGiven (some w.tracker.ownStop) outer := by
    rintro signal among _ ⟨⟩
    exact (own signal among).symm
  have stepwise : (Context.nested around outer depth).Stepwise (some w.tracker.ownStop) Set.univ :=
    Context.nested_stepwise around depth (Set.mem_univ _) given
  have lawful := Context.nested_lawful around outer depth
  have same : (Context.nested around outer depth).around = around :=
    Context.nested_around around outer depth
  have waits : (Context.nested around outer depth).around.Honest := by rwa [same]
  refine
    { work := (stepwise.loop heeds draws rounds loop w heeds).along fun _ => Step.quiesces
      events := fun ending raw rest mid set => ?_
      turns := fun turn agrees => ?_
      ended := fun final more => ?_
      closes := fun after going set more => ?_
      fails := fun fault after failed => ?_ }
  · rw [readStream, Op.bind_of_ok (Context.stopSet_apply _ mid), if_pos set]
  · rw [runWith_congr waits agrees, runWith_turn]
  · rw [← runWith_turn] at final
    rw [← runWith_turn, ← runWith_turn, runWith_ended final more]
  · rw [← runWith_turn] at going
    rw [← runWith_turn, runWith_closing waits lawful going set more]
  · rcases run_failed failed with ⟨watches, before, _, failed⟩ | cannotWait
    · obtain ⟨_, kind, cause, breaks, illegible⟩ :=
        watchOnce_fails_iff.mp (congrArg Prod.fst failed)
      exact .inl ⟨watches, kind, _, openStream_fails breaks illegible⟩
    · exact .inr cannotWait

/-! ## Passes that come to rest -/

/-- How the passes of a context heed a stop signal on a number of workers. A pass under the lock
goes along a schedule of them. On every schedule it winds down once the signal is set, and it
requests nothing if the signal was set before it began. -/
structure Pass.Quiesces (ctx : Context τ) (stop : Signal) (workers : Nat) : Prop where
  follows : ∀ listed (mid : World τ), mid.tracker.rebuilding = true →
    ∃ shift, Shift.Run ctx.mayGive workers (.start listed (mid.isSet stop)) shift ∧
      shift.verdict = some (run ctx stop listed mid).1 ∧
      shift.stopped = (run ctx stop listed mid).2.isSet stop ∧
      (requestsIn (run ctx stop listed mid).2.journal : Multiset Text) =
        shift.requested.map GroupVersion.key + requestsIn mid.journal
  winds : ∀ listed stopped shift, Shift.Run ctx.mayGive workers (.start listed stopped) shift →
    shift.stopped = true → shift.Winds ctx.mayGive workers
  unrequested : ∀ listed shift, Shift.Run ctx.mayGive workers (.start listed true) shift →
    shift.requested = 0

end ApiSurface.Tracker
