import ApiSurface.Proofs.Tracker.Blame

/-!
# Rounds of telling

After a rebuild that changed the snapshot there is a round in which everyone registered by then is
told, one after the other. Nobody in a round depends on how another one fares: whatever those who
are told do, and whether they fail or not, the next one is told under the same conditions, with the
lock free and the new snapshot on record. A round only ever goes over those who were registered when
it began; whoever is registered while it goes on is first told in a later round.
-/

namespace ApiSurface.Tracker

variable {τ : Type} {ctx : Context τ} {start w w' last : World τ}

/-! ## The snapshot in place -/

/-- The snapshot that an entry says was installed. -/
def Entry.installed? : Entry τ → Option Snapshot
  | installed snapshot => some snapshot
  | _ => none

/-- The snapshot that was installed last. -/
def newestInstalled (journal : Journal τ) : Option Snapshot := journal.findSome? Entry.installed?

/-- What was installed last is in place. -/
def World.InPlace (w : World τ) : Prop := newestInstalled w.journal = some w.tracker.snapshot

/-- Where nothing is installed, what was installed last stays in place. -/
theorem newestInstalled_uneventful {news : Journal τ} (uneventful : Uneventful news)
    (earlier : Journal τ) : newestInstalled (news ++ earlier) = newestInstalled earlier := by
  have none : news.findSome? Entry.installed? = none := by
    refine List.findSome?_eq_none_iff.mpr fun entry member => ?_
    have here := uneventful entry member
    cases entry with
    | installed => cases here
    | _ => rfl
  rw [newestInstalled, List.findSome?_append, none, Option.none_or]
  rfl

theorem Held.inPlace {β : Type} {view : History → β} (held : Held view w w')
    (inPlace : w.InPlace) : w'.InPlace := by
  obtain ⟨news, journal, _, uneventful⟩ := held.received
  rw [World.InPlace, journal, newestInstalled_uneventful uneventful, held.snapshot]
  exact inPlace

instance : Aloof (Keeps (World.InPlace (τ := τ))) where
  ofCalm := Held.inPlace
  ofNotice notice inPlace := by
    obtain rfl | ⟨name, rfl⟩ | ⟨place, rfl⟩ | rfl := Entry.isNotice_cases notice
    all_goals exact inPlace
  ofHeld := Held.inPlace
  ofBegun := id
  ofFailed := id
  ofUndecided _ := id
  ofUnchanged _ := id
  ofChanged _ _ := rfl

/-! ## Rounds -/

/-- What holds whenever someone is told in a round that began in a world: the lock is free,
everything that happened until then is on record, whoever was registered then holds their place, and
what was installed last is in place. -/
structure World.Turn (start w : World τ) : Prop where
  free : w.tracker.rebuilding = false
  since : start.journal <:+ w.journal
  subscribers : start.tracker.subscribers <+: w.tracker.subscribers
  inPlace : w.InPlace

/-- A round of telling that began in a world, from one of its turns to its end. Each of those whose
turn is to come is told once, in this order; a failure is counted and reported, and the round goes
on all the same. -/
inductive Telling (ctx : Context τ) (start : World τ) :
    List (Subscriber τ × Nat) → World τ → World τ → Prop where
  | finished {w : World τ} (turn : start.Turn w) : Telling ctx start [] w w
  | told {subscriber : Subscriber τ} {place : Nat} {others : List (Subscriber τ × Nat)}
      {result : Except Fault Unit} {w after last : World τ} (turn : start.Turn w)
      (call : tell ctx subscriber (w.toldTo place) = (result, after))
      (onward : Telling ctx start others (after.heardBack result) last) :
      Telling ctx start ((subscriber, place) :: others) w last

/-- The next turn is like the one before, whatever whoever is told does. -/
theorem World.Turn.told [Scalar τ] {around : Surroundings τ} {outer : Option Signal} {depth : Nat}
    (turn : start.Turn w) (subscriber : Subscriber τ) (place : Nat) :
    start.Turn (tell (Context.nested around outer depth) subscriber (w.toldTo place)).2 := by
  have quiet : Quiet (w.toldTo place) _ :=
    tell_moves (Context.nested_lawful around outer depth).acts subscriber _
  have blamed : Blamed (w.toldTo place) _ :=
    tell_blamed (Context.nested_blamed around outer depth).acts subscriber _
  have inPlace : Keeps World.InPlace (w.toldTo place) _ :=
    tell_moves (Context.nested_aloof around outer depth).acts subscriber _
  exact ⟨quiet.lock.trans turn.free,
    (turn.since.trans (List.suffix_cons ..)).trans quiet.journal,
    turn.subscribers.trans blamed.subscribers, inPlace turn.inPlace⟩

/-- A failure that is counted and reported leaves the next turn as it is. -/
theorem World.Turn.heardBack (turn : start.Turn w) (result : Except Fault Unit) :
    start.Turn (w.heardBack result) := by
  cases result with
  | ok _ => exact turn
  | error fault =>
    exact ⟨turn.free, (turn.since.trans (List.suffix_cons ..)).trans (List.suffix_cons ..),
      turn.subscribers, turn.inPlace⟩

/-- Telling some one after the other is a round of telling. -/
theorem telling_of_turn [Scalar τ] (around : Surroundings τ) (outer : Option Signal) (depth : Nat)
    (members : List (Subscriber τ × Nat)) (turn : start.Turn w) :
    Telling (Context.nested around outer depth) start members w
      (Op.each (notify (Context.nested around outer depth)) members w).2 := by
  induction members generalizing w with
  | nil => exact .finished turn
  | cons member others ih =>
    obtain ⟨subscriber, place⟩ := member
    rw [Op.each, Op.bind_of_ok (notify_apply ..)]
    exact .told turn rfl (ih ((turn.told subscriber place).heardBack _))

/-- A round that is over ended with a turn. -/
theorem Telling.turn {members : List (Subscriber τ × Nat)}
    (telling : Telling ctx start members w last) : start.Turn last := by
  induction telling with
  | finished turn => exact turn
  | told turn call onward ih => exact ih

/-! ## Who asks for no rebuild -/

/-- Whether a subscriber asks for no rebuild when told, directly or through the limiter. -/
def Subscriber.IsModest : Subscriber τ → Prop
  | client _ reply => ∀ journal, ∀ action ∈ (reply journal).actions, action.asksRebuild = false
  | changeLogger => True

/-- The place whose holder an entry says was told. -/
def Entry.told? : Entry τ → Option Nat
  | told place => some place
  | _ => none

/-- The places whose holders were told of a change, newest first. -/
def placesTold (journal : Journal τ) : List Nat := journal.filterMap Entry.told?

/-- Between these worlds nobody was told of a change, and the snapshot stayed in place. -/
structure Discreet (w w' : World τ) : Prop where
  places : placesTold w'.journal = placesTold w.journal
  snapshot : w'.tracker.snapshot = w.tracker.snapshot

/-- Where there are no notices, nobody is told. -/
theorem placesTold_unnoticed {news : Journal τ} (unnoticed : ∀ entry ∈ news, entry.isNotice = false)
    (earlier : Journal τ) : placesTold (news ++ earlier) = placesTold earlier := by
  have none : news.filterMap Entry.told? = [] := by
    refine List.filterMap_eq_nil_iff.mpr fun entry member => ?_
    have here := unnoticed entry member
    cases entry with
    | told => cases here
    | _ => rfl
  rw [placesTold, List.filterMap_append, none, List.nil_append]
  rfl

instance : Tolerant (Discreet : World τ → World τ → Prop) where
  refl _ := ⟨rfl, rfl⟩
  trans _ _ _ first second :=
    ⟨second.places.trans first.places, second.snapshot.trans first.snapshot⟩
  ofCalm calm := by
    obtain ⟨news, journal, unnoticed⟩ := calm.unnoticed.news
    exact ⟨journal ▸ placesTold_unnoticed unnoticed _, calm.snapshot⟩

theorem World.heardBack_discreet (w : World τ) (result : Except Fault Unit) :
    Discreet w (w.heardBack result) := by
  cases result <;> exact ⟨rfl, rfl⟩

section Modest

variable [Scalar τ] {around : Surroundings τ} {outer : Option Signal} {depth : Nat}

/-- Whoever asks for no rebuild when told disturbs nothing. -/
theorem tell_discreet {subscriber : Subscriber τ} (modest : subscriber.IsModest) :
    (tell (Context.nested around outer depth) subscriber).Moves Discreet := by
  intro w
  cases subscriber with
  | changeLogger =>
    exact Op.Moves.bind (R := Discreet) getSnapshot_calm.tolerated (fun _ => .plain rfl) w
  | client name reply =>
    have called : Discreet w { w with journal := .notified name :: w.journal } := ⟨rfl, rfl⟩
    rw [tell, Context.ask_apply]
    refine trans_of _ called (Context.acted_along (R := Discreet) (fun action member w => ?_) _)
    have idle : action.asksRebuild = false := modest _ action member
    exact Tolerant.ofCalm (Context.nested_calm_of_idle around outer depth idle w)

/-- In a round of those who ask for no rebuild, only they are told, each once and in this order,
and the snapshot stays in place. -/
theorem Telling.of_modest {members : List (Subscriber τ × Nat)}
    (telling : Telling (Context.nested around outer depth) start members w last)
    (modest : ∀ member ∈ members, member.1.IsModest) :
    placesTold last.journal = (members.map Prod.snd).reverse ++ placesTold w.journal ∧
      last.tracker.snapshot = w.tracker.snapshot := by
  induction telling with
  | finished turn => exact ⟨rfl, rfl⟩
  | @told subscriber place others result w after last turn call onward ih =>
    obtain ⟨here, rest⟩ := List.forall_mem_cons.mp modest
    have discreet : Discreet (w.toldTo place)
        (tell (Context.nested around outer depth) subscriber (w.toldTo place)).2 :=
      tell_discreet here _
    rw [call] at discreet
    have heardBack := trans_of Discreet discreet (after.heardBack_discreet result)
    have told : placesTold (after.heardBack result).journal = place :: placesTold w.journal :=
      heardBack.places
    obtain ⟨places, snapshot⟩ := ih rest
    refine ⟨?_, snapshot.trans heardBack.snapshot⟩
    rw [places, told, List.map_cons, List.reverse_cons, List.append_assoc, List.singleton_append]

end Modest

/-! ## Collecting -/

/-- A rebuild that changed the snapshot has put the new one in place and given the lock back. -/
theorem rebuild_installs (calm : ctx.IsCalm) (given : Option Signal)
    (changed : (rebuild ctx given w).1 = .ok .changed) :
    (rebuild ctx given w).2.tracker.rebuilding = false ∧
      ∃ earlier, w.journal <:+ earlier ∧
        (rebuild ctx given w).2.journal =
          .counted .changed ::
            .logged ⟨.info, "API resources updated: " ++
              (rebuild ctx given w).2.tracker.snapshot.sizeText⟩ ::
              .installed (rebuild ctx given w).2.tracker.snapshot :: earlier := by
  cases lock : w.tracker.rebuilding with
  | true =>
    rw [rebuild_of_locked ctx given lock] at changed
    cases changed
  | false =>
    have rebuilt := rebuild_spec calm given lock
    generalize rebuild ctx given w = ended at changed rebuilt
    obtain ⟨result, after⟩ := ended
    cases changed
    cases rebuilt with
    | @changed collected mid pass different =>
      obtain ⟨news, journal, _⟩ := pass.uneventful
      exact ⟨rfl, (mid.completed collected).journal, journal ▸ List.suffix_append .., rfl⟩

variable [Scalar τ]

/-- Collecting keeps those who are told of a change apart from each other and from the rebuild.
The rebuild by itself tells nobody. If it failed, or was cancelled, there is no outcome, and if it
changed nothing its outcome is all there is; either way nothing else happens. If it changed the
snapshot, the new one is installed, everyone registered by then is told in a round in the order of
registration, and the outcome is that of the rebuild, whoever fails. What was installed last is in
place at every turn and at the end; so the new snapshot stays, and those who are registered in a
round are not told in it, unless somebody who is told has another rebuild made. In all, whatever
those who are told do, the failures counted are those of the subscribers who failed. -/
theorem collectAndNotify_isolated (around : Surroundings τ) (outer given : Option Signal)
    (depth : Nat) (w : World τ) :
    let ctx := Context.nested around outer depth
    let rebuilt := rebuild ctx given w
    let ended := collectAndNotify ctx given w
    (∃ news, rebuilt.2.journal = news ++ w.journal ∧ ∀ entry ∈ news, entry.isNotice = false) ∧
    (∀ fault, rebuilt.1 = .error fault →
      ended = (.ok none,
        { rebuilt.2 with journal := .logged (collectionFailure fault) :: rebuilt.2.journal })) ∧
    (∀ outcome, rebuilt.1 = .ok outcome → outcome ≠ .changed →
      ended = (.ok (some outcome), rebuilt.2)) ∧
    (rebuilt.1 = .ok .changed →
      ended.1 = .ok (some .changed) ∧
      (∃ later earlier, w.journal <:+ earlier ∧
        rebuilt.2.journal = later ++ .installed rebuilt.2.tracker.snapshot :: earlier) ∧
      Telling ctx rebuilt.2 rebuilt.2.tracker.subscribers.zipIdx rebuilt.2 ended.2 ∧
      ended.2.InPlace ∧
      ((∀ subscriber ∈ rebuilt.2.tracker.subscribers, subscriber.IsModest) →
        placesTold ended.2.journal =
            (List.range rebuilt.2.tracker.subscribers.length).reverse ++ placesTold w.journal ∧
          ended.2.tracker.snapshot = rebuilt.2.tracker.snapshot)) ∧
    countOf .subscriberErrors ended.2.journal +
        failuresIn ended.2.tracker.subscribers w.tracker.ready w.journal =
      countOf .subscriberErrors w.journal +
        failuresIn ended.2.tracker.subscribers w.tracker.ready ended.2.journal := by
  intro ctx rebuilt ended
  have calm : ctx.IsCalm := Context.nested_locked_calm around outer depth
  have unnoticed : Unnoticed w rebuilt.2 := rebuild_unnoticed calm given w
  refine ⟨unnoticed.news, fun fault failed => ?_, fun outcome returned unchanged => ?_,
    fun changed => ?_, ?_⟩
  · exact collectAndNotify_of_failed (Prod.ext failed rfl)
  · exact collectAndNotify_of_idle (Prod.ext returned rfl) unchanged
  · obtain ⟨free, earlier, since, journal⟩ := rebuild_installs calm given changed
    have inPlace : rebuilt.2.InPlace := by
      rw [World.InPlace, journal]
      rfl
    have turn : rebuilt.2.Turn rebuilt.2 :=
      ⟨free, List.suffix_rfl, List.prefix_refl _, inPlace⟩
    have round : ended = (.ok (some .changed), (notifyAll ctx rebuilt.2).2) :=
      collectAndNotify_of_changed (Prod.ext changed rfl)
    have telling : Telling ctx rebuilt.2 rebuilt.2.tracker.subscribers.zipIdx rebuilt.2 ended.2 := by
      rw [round]
      exact telling_of_turn around outer depth _ turn
    refine ⟨congrArg Prod.fst round, ⟨[_, _], earlier, since, journal⟩, telling,
      telling.turn.inPlace, fun modest => ?_⟩
    obtain ⟨places, snapshot⟩ := telling.of_modest fun member among =>
      modest member.1 (List.fst_mem_of_mem_zipIdx among)
    obtain ⟨news, before, silent⟩ := unnoticed.news
    refine ⟨?_, snapshot⟩
    rw [places, before, placesTold_unnoticed silent, List.zipIdx_map_snd, List.range_eq_range']
  · have blamed : Blamed w ended.2 := (Context.nested_blamed around outer depth).collects given w
    have balance := blamed.balance _ (List.prefix_refl _)
    omega

/-- The first of three who are told registers another and fails, and the change logger fails since
the tracker is not ready: all three are told in their order, both failures are counted, the new
snapshot stays and whoever was registered meanwhile is not told yet. -/
theorem collectAndNotify_isolated_failing :
    let core : GroupVersion := ⟨"", "v1"⟩
    let found : Surroundings Rat :=
      .steady (.ok [core]) (fun _ => .ok (some [.ofTexts "pods" true "Pod" ["get"]])) (.ok [])
    let failing : Subscriber Rat :=
      .client "a" fun _ => { actions := [.subscribe "late"], outcome := .error .withoutUid }
    let plain : Subscriber Rat := .client "b" fun _ => { actions := [], outcome := .ok () }
    let request (operation : Operation Rat) : Request Rat :=
      { around := found, given := none, depth := 1, operation }
    let w := (World.fresh .exact 0).after
      [request (.subscribe failing), request (.subscribe .changeLogger), request (.subscribe plain)]
    let ctx := Context.nested found none 1
    let ended := collectAndNotify ctx none w
    (rebuild ctx none w).1 = .ok .changed ∧ ended.1 = .ok (some .changed) ∧
      placesTold ended.2.journal = [2, 1, 0] ∧ ended.2.tracker.subscribers.length = 4 ∧
      countOf .subscriberErrors ended.2.journal = 2 ∧
      ended.2.tracker.snapshot = (rebuild ctx none w).2.tracker.snapshot := by
  intro core found failing plain request w ctx ended
  obtain ⟨_, _, _, round, balance⟩ := collectAndNotify_isolated found none none 1 w
  have changed : (rebuild ctx none w).1 = .ok .changed := rfl
  obtain ⟨outcome, _, _, _, isolated⟩ := round changed
  have modest : ∀ subscriber ∈ (rebuild ctx none w).2.tracker.subscribers,
      subscriber.IsModest := by
    have registered : (rebuild ctx none w).2.tracker.subscribers =
        [failing, .changeLogger, plain] := rfl
    simp [registered, failing, plain, Subscriber.IsModest, Action.asksRebuild]
  obtain ⟨places, snapshot⟩ := isolated modest
  have failures : failuresIn ended.2.tracker.subscribers w.tracker.ready ended.2.journal = 2 := by
    decide +kernel
  have before : failuresIn ended.2.tracker.subscribers w.tracker.ready w.journal = 0 ∧
      countOf .subscriberErrors w.journal = 0 := by decide +kernel
  refine ⟨changed, outcome, places, by decide +kernel, ?_, snapshot⟩
  rw [failures, before.1, before.2] at balance
  exact balance

end ApiSurface.Tracker
