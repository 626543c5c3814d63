import ApiSurface.Proofs.Tracker.Operations

/-!
# Who is owed a change

The journal is read as a book of accounts, one for each place in the order of
registration. A change of the snapshot is owed to everyone registered by then, telling
someone pays it, and a change that is kept from everyone is written off. `Owing` relates
worlds between which the accounts grew by known amounts; `Settles`, the case of no growth,
holds of all that neither changes the snapshot nor tells anyone.
-/

namespace ApiSurface.Tracker

variable {τ : Type} {w w' w'' : World τ}

/-! ## What the journal says -/

/-- Whether someone was registered. -/
def Entry.isRegistration : Entry τ → Bool
  | subscribed => true
  | acted (.subscribe _) (.ok _) => true
  | _ => false

/-- Whether the snapshot was replaced. -/
def Entry.isChange : Entry τ → Bool
  | installed _ => true
  | _ => false

/-- What does not tell of a change is none. -/
theorem Entry.not_isChange_of_uneventful {entry : Entry τ}
    (uneventful : entry.isEventful = false) : entry.isChange = false := by
  cases entry with
  | installed snapshot => cases uneventful
  | _ => rfl

/-- Whether a change was kept from everyone. -/
def Entry.isUntold : Entry τ → Bool
  | untold => true
  | _ => false

/-- Whether the subscriber who holds a place was told of a change. -/
def Entry.isToldTo (place : Nat) : Entry τ → Bool
  | told other => other == place
  | _ => false

/-- Whether a client of a name was called. -/
def Entry.isCallOf (name : Text) : Entry τ → Bool
  | notified other => other == name
  | _ => false

/-- Whether a subscriber is a client of a name. -/
def Subscriber.isNamed (name : Text) : Subscriber τ → Bool
  | client other _ => other == name
  | changeLogger => false

/-- Whether someone was told of a change who is a client of a name. -/
def Entry.isToldToNamed (subscribers : List (Subscriber τ)) (name : Text) : Entry τ → Bool
  | told place => subscribers[place]?.any (Subscriber.isNamed name)
  | _ => false

/-- How many were registered. -/
def registrationsIn (journal : Journal τ) : Nat := journal.countP Entry.isRegistration

/-- What happened since whoever holds a place was registered. -/
def sinceRegistered (place : Nat) : Journal τ → Journal τ
  | [] => []
  | entry :: earlier =>
    if place < registrationsIn earlier then entry :: sinceRegistered place earlier else []

/-- How often the snapshot was replaced since whoever holds a place was registered. -/
def changesSince (place : Nat) (journal : Journal τ) : Nat :=
  (sinceRegistered place journal).countP Entry.isChange

/-- How many of these changes were kept from everyone. -/
def untoldSince (place : Nat) (journal : Journal τ) : Nat :=
  (sinceRegistered place journal).countP Entry.isUntold

/-- How often whoever holds a place was told of a change. -/
def tellingsTo (place : Nat) (journal : Journal τ) : Nat := journal.countP (Entry.isToldTo place)

/-- How often clients of a name were called. -/
def callsOf (name : Text) (journal : Journal τ) : Nat := journal.countP (Entry.isCallOf name)

/-- How often those who are clients of a name were told of a change. -/
def tellingsToNamed (subscribers : List (Subscriber τ)) (name : Text) (journal : Journal τ) : Nat :=
  journal.countP (Entry.isToldToNamed subscribers name)

/-- What is still owed to whoever holds a place. -/
def owed (place : Nat) (journal : Journal τ) : Int :=
  changesSince place journal - tellingsTo place journal - untoldSince place journal

theorem registrationsIn_cons (entry : Entry τ) (journal : Journal τ) :
    registrationsIn (entry :: journal) =
      registrationsIn journal + if entry.isRegistration then 1 else 0 := List.countP_cons

/-- Nothing has happened since someone was registered who was not. -/
theorem sinceRegistered_of_le {place : Nat} {journal : Journal τ}
    (unregistered : registrationsIn journal ≤ place) : sinceRegistered place journal = [] := by
  cases journal with
  | nil => rfl
  | cons entry earlier =>
    rw [registrationsIn_cons] at unregistered
    exact if_neg (by omega)

/-- An entry is one more thing that happened since whoever is registered was registered. -/
theorem countP_sinceRegistered_cons (p : Entry τ → Bool) (place : Nat) (entry : Entry τ)
    (journal : Journal τ) :
    (sinceRegistered place (entry :: journal)).countP p =
      (sinceRegistered place journal).countP p +
        if place < registrationsIn journal ∧ p entry = true then 1 else 0 := by
  rw [sinceRegistered]
  by_cases registered : place < registrationsIn journal
  · simp [registered, List.countP_cons]
  · simp [registered, sinceRegistered_of_le (Nat.le_of_not_lt registered)]

theorem changesSince_cons (place : Nat) (entry : Entry τ) (journal : Journal τ) :
    changesSince place (entry :: journal) =
      changesSince place journal +
        if place < registrationsIn journal ∧ entry.isChange = true then 1 else 0 :=
  countP_sinceRegistered_cons ..

/-- What an entry does to what is owed to whoever holds a place. -/
theorem owed_cons (place : Nat) (entry : Entry τ) (journal : Journal τ) :
    owed place (entry :: journal) =
      owed place journal
        + (if place < registrationsIn journal ∧ entry.isChange = true then 1 else 0)
        - (if entry.isToldTo place = true then 1 else 0)
        - (if place < registrationsIn journal ∧ entry.isUntold = true then 1 else 0) := by
  have told : tellingsTo place (entry :: journal) =
      tellingsTo place journal + if entry.isToldTo place = true then 1 else 0 := List.countP_cons
  simp only [owed, changesSince_cons, untoldSince, countP_sinceRegistered_cons, told]
  split_ifs <;> omega

section Owed

variable (place : Nat) (journal : Journal τ)

/-- A change is owed to everyone who is registered. -/
theorem owed_installed (snapshot : Snapshot) :
    owed place (.installed snapshot :: journal) =
      owed place journal + if place < registrationsIn journal then 1 else 0 := by
  simp [owed_cons, Entry.isChange, Entry.isUntold, Entry.isToldTo]

/-- Telling nobody of a change writes off one debt to everyone who is registered. -/
theorem owed_untold :
    owed place (.untold :: journal) =
      owed place journal - if place < registrationsIn journal then 1 else 0 := by
  simp [owed_cons, Entry.isChange, Entry.isUntold, Entry.isToldTo]

/-- Telling someone pays one debt. -/
theorem owed_told (other : Nat) :
    owed place (.told other :: journal) = owed place journal - if other = place then 1 else 0 := by
  simp [owed_cons, Entry.isChange, Entry.isUntold, Entry.isToldTo]

/-- Any other entry leaves open what was owed. -/
theorem owed_other {entry : Entry τ} (unchanged : entry.isChange = false)
    (told : ∀ place, entry ≠ .told place) (untold : entry ≠ .untold) :
    owed place (entry :: journal) = owed place journal := by
  have paysNobody : entry.isToldTo place = false := by
    cases entry with
    | told other => exact absurd rfl (told other)
    | _ => rfl
  have writesOff : entry.isUntold = false := by
    cases entry with
    | untold => exact absurd rfl untold
    | _ => rfl
  simp [owed_cons, unchanged, paysNobody, writesOff]

end Owed

/-- Whoever holds a place holds it still when others are registered. -/
theorem holds_of_prefix {subscribers later : List (Subscriber τ)} (more : subscribers <+: later)
    {place : Nat} {subscriber : Subscriber τ} (held : subscribers[place]? = some subscriber) :
    later[place]? = some subscriber := by
  obtain ⟨added, rfl⟩ := more
  obtain ⟨within, _⟩ := List.getElem?_eq_some_iff.mp held
  rw [List.getElem?_append_left within, held]

/-- What was told before keeps its addressees when others are registered. -/
theorem tellingsToNamed_append {subscribers added : List (Subscriber τ)} {journal : Journal τ}
    (places : ∀ place, .told place ∈ journal → place < subscribers.length) (name : Text) :
    tellingsToNamed (subscribers ++ added) name journal =
      tellingsToNamed subscribers name journal := by
  apply List.countP_congr
  intro entry member
  cases entry with
  | told place =>
    have held : place < subscribers.length := places place member
    simp [Entry.isToldToNamed, List.getElem?_append_left held]
  | _ => rfl

/-! ## Accounted worlds -/

/-- The journal accounts for everyone who is registered, and for whom each telling and each call
was meant. -/
structure World.Accounted (w : World τ) : Prop where
  registered : registrationsIn w.journal = w.tracker.subscribers.length
  places : ∀ place, .told place ∈ w.journal → place < w.tracker.subscribers.length
  calls : ∀ name, callsOf name w.journal = tellingsToNamed w.tracker.subscribers name w.journal

theorem World.accounted_fresh (settings : Settings τ) (clock : τ) :
    (World.fresh settings clock).Accounted := ⟨rfl, nofun, fun _ => rfl⟩

/-- An entry that neither says who is told nor that someone is called keeps the accounts, if it says
of everyone who is added that they are registered. -/
theorem World.Accounted.noted (accounted : w.Accounted) {entry : Entry τ} {tracker : State τ}
    {added : List (Subscriber τ)} (untold : ∀ place, entry ≠ .told place)
    (uncalled : ∀ name, entry ≠ .notified name)
    (subscribers : tracker.subscribers = w.tracker.subscribers ++ added)
    (registers : added.length = if entry.isRegistration then 1 else 0) :
    World.Accounted { w with tracker := tracker, journal := entry :: w.journal } where
  registered := by
    change registrationsIn (entry :: w.journal) = tracker.subscribers.length
    rw [registrationsIn_cons, accounted.registered, subscribers, List.length_append, registers]
  places place told := by
    have before : .told place ∈ w.journal := by
      rcases List.mem_cons.mp told with same | before
      · exact absurd same.symm (untold place)
      · exact before
    have held := accounted.places place before
    change place < tracker.subscribers.length
    rw [subscribers, List.length_append]
    omega
  calls name := by
    have uncounted : entry.isCallOf name = false := by
      cases entry with
      | notified other => exact absurd rfl (uncalled other)
      | _ => rfl
    have untoldNamed : entry.isToldToNamed tracker.subscribers name = false := by
      cases entry with
      | told place => exact absurd rfl (untold place)
      | _ => rfl
    change callsOf name (entry :: w.journal) =
      tellingsToNamed tracker.subscribers name (entry :: w.journal)
    rw [callsOf, List.countP_cons_of_neg (by simp [uncounted]), tellingsToNamed,
      List.countP_cons_of_neg (by simp [untoldNamed]), subscribers]
    exact (accounted.calls name).trans (tellingsToNamed_append accounted.places name).symm

/-- Between these worlds subscribers were added at most, and what is owed to each place grew by a
debt. -/
structure Owing (debt : Nat → Int) (w w' : World τ) : Prop where
  subscribers : w.tracker.subscribers <+: w'.tracker.subscribers
  accounted : w.Accounted → w'.Accounted
  balance : w.Accounted → ∀ place, owed place w'.journal = owed place w.journal + debt place

/-- Between these worlds nobody's account was moved. -/
abbrev Settles : World τ → World τ → Prop := Owing fun _ => 0

/-- One for every place up to a number of them. -/
def upTo (places : Nat) (place : Nat) : Int := if place < places then 1 else 0

namespace Owing

variable {debt debt' : Nat → Int}

/-- Debts add up. -/
theorem trans (first : Owing debt w w') (second : Owing debt' w' w'') :
    Owing (fun place => debt place + debt' place) w w'' where
  subscribers := first.subscribers.trans second.subscribers
  accounted := second.accounted ∘ first.accounted
  balance accounted place := by
    rw [second.balance (first.accounted accounted), first.balance accounted, add_assoc]

/-- A debt may be written in another way. -/
theorem of_eq (owing : Owing debt w w') (same : ∀ place, debt place = debt' place) :
    Owing debt' w w' := by
  rwa [← funext same]

/-- An entry that neither says who is told nor that someone is called, and that says of everyone who
is added that they are registered. -/
theorem noted {entry : Entry τ} {tracker : State τ} {added : List (Subscriber τ)}
    (untold : ∀ place, entry ≠ .told place) (uncalled : ∀ name, entry ≠ .notified name)
    (subscribers : tracker.subscribers = w.tracker.subscribers ++ added)
    (registers : added.length = if entry.isRegistration then 1 else 0)
    (moved : w.Accounted → ∀ place,
      owed place (entry :: w.journal) = owed place w.journal + debt place) :
    Owing debt w { w with tracker := tracker, journal := entry :: w.journal } where
  subscribers := subscribers ▸ List.prefix_append ..
  accounted accounted := accounted.noted untold uncalled subscribers registers
  balance := moved

end Owing

namespace Settles

theorem refl (w : World τ) : Settles w w := ⟨List.prefix_refl _, id, fun _ _ => by simp⟩

instance : IsPreorder (World τ) Settles where
  refl := refl
  trans _ _ _ first second := (first.trans second).of_eq fun _ => add_zero 0

/-- What changes neither the journal nor the subscribers. -/
theorem of_same (journal : w'.journal = w.journal)
    (subscribers : w'.tracker.subscribers = w.tracker.subscribers) : Settles w w' where
  subscribers := subscribers ▸ List.prefix_refl _
  accounted accounted := by
    refine ⟨?_, ?_, ?_⟩ <;> rw [journal, subscribers]
    exacts [accounted.registered, accounted.places, accounted.calls]
  balance _ _ := by rw [journal, add_zero]

/-- An entry that neither tells of a change nor says who is told, and that says of everyone who is
added that they are registered. -/
theorem noted {entry : Entry τ} {tracker : State τ} {added : List (Subscriber τ)}
    (unchanged : entry.isChange = false) (untelling : entry.isTelling = false)
    (subscribers : tracker.subscribers = w.tracker.subscribers ++ added)
    (registers : added.length = if entry.isRegistration then 1 else 0) :
    Settles w { w with tracker := tracker, journal := entry :: w.journal } := by
  have untold : ∀ place, entry ≠ .told place := by
    rintro place rfl
    cases untelling
  have uncalled : ∀ name, entry ≠ .notified name := by
    rintro name rfl
    cases untelling
  apply Owing.noted untold uncalled subscribers registers
  intro _ place
  rw [owed_other place _ unchanged untold ?_, add_zero]
  rintro rfl
  cases untelling

/-- An entry that neither tells of a change nor says who is told, where nobody is added. -/
theorem noted_same {entry : Entry τ} {tracker : State τ} (unchanged : entry.isChange = false)
    (untelling : entry.isTelling = false) (unregistering : entry.isRegistration = false)
    (subscribers : tracker.subscribers = w.tracker.subscribers) :
    Settles w { w with tracker := tracker, journal := entry :: w.journal } :=
  noted unchanged untelling (subscribers.trans (List.append_nil _).symm) (by simp [unregistering])

end Settles

/-! ## What settles -/

/-- Who is added to a tracker while its lock is held is registered. -/
theorem State.receive_subscribers (tracker : State τ) {entry : Entry τ}
    (uneventful : entry.isEventful = false) :
    ∃ added, (tracker.receive entry).subscribers = tracker.subscribers ++ added ∧
      added.length = if entry.isRegistration then 1 else 0 := by
  unfold receive
  split
  case h_1 name result => exact ⟨[_], rfl, rfl⟩
  case h_2 => exact ⟨[], (List.append_nil _).symm, rfl⟩
  case h_3 => exact ⟨[], (List.append_nil _).symm, rfl⟩
  case h_4 unsubscribed _ _ =>
    have unregistering : entry.isRegistration = false := by
      unfold Entry.isRegistration
      split
      · cases uneventful
      · exact absurd rfl (unsubscribed _ _)
      · rfl
    exact ⟨[], (List.append_nil _).symm, by simp [unregistering]⟩

/-- What happens under the lock settles. -/
theorem Held.settles {β : Type} {view : History → β} (held : Held view w w') : Settles w w' := by
  obtain ⟨news, journal, tracker, uneventful⟩ := held.received
  have received : Settles w
      { w with tracker := w.tracker.receiveAll news, journal := news ++ w.journal } := by
    clear journal tracker
    induction news with
    | nil => exact .refl w
    | cons entry earlier ih =>
      obtain ⟨here, before⟩ := List.forall_mem_cons.mp uneventful
      obtain ⟨added, subscribers, registers⟩ :=
        (w.tracker.receiveAll earlier).receive_subscribers here
      have unchanged := Entry.not_isChange_of_uneventful here
      have untelling := Entry.not_isTelling_of_uneventful here
      exact trans_of Settles (ih before) (.noted unchanged untelling subscribers registers)
  exact trans_of Settles received (.of_same journal (by rw [tracker]))

instance : Following (Settles : World τ → World τ → Prop) where
  ofCalm := Held.settles
  ofTuned tuned := .of_same rfl tuned.subscribers
  ofSignal := .of_same rfl rfl
  ofRegistered _ := .noted rfl rfl rfl rfl
  ofRelisted {w} uids := by
    have replaced : Settles w { w with journal := .replacedKnown uids :: w.journal } :=
      .noted_same rfl rfl rfl rfl
    have relisted : Settles { w with journal := .replacedKnown uids :: w.journal }
        (w.relisted uids) := .noted_same rfl rfl rfl rfl
    exact trans_of Settles replaced relisted
  ofReplayed _ := .noted_same rfl rfl rfl rfl
  ofLearned _ := .noted_same rfl rfl rfl rfl
  ofOpened {w} := by
    have counted : Settles w w.streamCounted := by
      unfold World.streamCounted
      split
      · exact .noted_same rfl rfl rfl rfl
      · exact .of_same rfl rfl
    exact trans_of Settles counted (.noted_same rfl rfl rfl rfl)
  ofStreamFailed := .noted_same rfl rfl rfl rfl

end ApiSurface.Tracker
