import ApiSurface.Proofs.Event.Decoding
import ApiSurface.Proofs.Tracker.Gauge
import ApiSurface.Proofs.Tracker.Protection
import ApiSurface.Proofs.Tracker.Startup

/-!
# Listing the definitions is exact and all or nothing

A listing is processed as a whole before anything that is known gives way to it. So either all of it
can be read, and then what is known is what was listed and nothing else, or none of it counts. Of the
tracker nothing but the known definitions and their gauge is at stake, and a full rescan goes on to
its rebuild in either case.
-/

namespace ApiSurface.Tracker

variable {τ : Type} {ctx : Context τ} {w : World τ}

/-! ## What was listed -/

theorem misuseOf?_eq_none_iff {item : Value} : misuseOf? item = none ↔ Readable item := by
  rw [misuseOf?, Readable]
  cases Crd.Info.ofValue item with
  | ok info => simp
  | error fault => cases fault <;> simp

/-- The UID of a readable object is the one given, if that counts as given. -/
theorem uidOf?_eq_some_iff {item : Value} (readable : Readable item) {uid : Text} :
    uidOf? item = some uid ↔
      (Crd.Info.uidGiven item).isTruthy = true ∧ uid = (Crd.Info.uidGiven item).toText := by
  cases read : Crd.Info.ofValue item with
  | ok info =>
    obtain ⟨given, _, same⟩ := Crd.Info.ofValue_eq_ok read
    simp [uidOf?, read, given, same, eq_comm]
  | error fault =>
    cases fault with
    | withoutUid => simp [uidOf?, read, Crd.Info.ofValue_eq_withoutUid_iff.mp read]
    | misuse kind => exact absurd read (readable kind)

/-- The identities collected from readable objects are those given. -/
theorem contains_ofList_iff {items : List Value} (readable : ∀ item ∈ items, Readable item)
    {uid : Text} :
    (Crd.IdentitySet.ofList (items.filterMap uidOf?)).contains uid = true ↔
      ∃ item ∈ items,
        (Crd.Info.uidGiven item).isTruthy = true ∧ uid = (Crd.Info.uidGiven item).toText := by
  rw [Crd.IdentitySet.contains_iff, Crd.IdentitySet.mem_ofList, List.mem_filterMap]
  refine exists_congr fun item => and_congr_right fun member => ?_
  exact uidOf?_eq_some_iff (readable item member)

/-! ## Listing -/

/-- Listing returns exactly if it is answered with objects that can all be read. -/
theorem refreshKnown_returns_iff :
    (refreshKnown ctx w).1 = .ok () ↔
      ∃ items, (ctx.around.crds (.listedCrds :: w.journal)).outcome = .ok items ∧
        ∀ item ∈ items, Readable item := by
  constructor
  · intro returned
    have never : ∀ cause, (refreshKnown ctx w).1 ≠ .error cause := by simp [returned]
    cases answered : (ctx.around.crds (.listedCrds :: w.journal)).outcome with
    | error fault => exact absurd (refreshKnown_fails_iff.mpr (.inl answered)) (never fault)
    | ok items =>
      refine ⟨items, rfl, fun item member => ?_⟩
      rw [← misuseOf?_eq_none_iff]
      by_contra unreadable
      obtain ⟨kind, first⟩ := Option.ne_none_iff_exists'.mp fun none =>
        unreadable (List.findSome?_eq_none_iff.mp none item member)
      exact never _ (refreshKnown_fails_iff.mpr (.inr ⟨items, kind, answered, first, rfl⟩))
  · rintro ⟨items, answered, readable⟩
    cases ended : (refreshKnown ctx w).1 with
    | ok _ => rfl
    | error cause =>
      obtain refused | ⟨listed, kind, same, first, _⟩ := refreshKnown_fails_iff.mp ended
      · cases answered.symm.trans refused
      · obtain rfl := Except.ok.inj (answered.symm.trans same)
        obtain ⟨item, member, unreadable⟩ := List.exists_of_findSome?_eq_some first
        cases (misuseOf?_eq_none_iff.mpr (readable item member)).symm.trans unreadable

/-- A listing that returns replaces what is known by the UIDs that were listed. -/
theorem refreshKnown_of_ok (returned : (refreshKnown ctx w).1 = .ok ()) :
    ∃ items, (ctx.around.crds (.listedCrds :: w.journal)).outcome = .ok items ∧
      (∀ item ∈ items, Readable item) ∧
      (refreshKnown ctx w).2.tracker =
        { (ctx.ask .listedCrds ctx.around.crds w).2.tracker with
          known := .ofList (items.filterMap uidOf?)
          crdsGauge := (items.filterMap uidOf?).length } := by
  obtain ⟨items, answered, readable⟩ := refreshKnown_returns_iff.mp returned
  refine ⟨items, answered, readable, ?_⟩
  obtain ⟨mid, ⟨logs, rfl⟩, ⟨cause, failed⟩ | ⟨listed, same, ended⟩⟩ := refreshKnown_ends ctx w
  · cases returned.symm.trans (congrArg Prod.fst failed)
  · obtain rfl := Except.ok.inj (answered.symm.trans same)
    rw [ended]
    rfl

/-- A listing that fails leaves the tracker as the surroundings did. -/
theorem refreshKnown_of_error {fault : Fault} (failed : (refreshKnown ctx w).1 = .error fault) :
    (refreshKnown ctx w).2.tracker = (ctx.ask .listedCrds ctx.around.crds w).2.tracker := by
  obtain ⟨mid, ⟨logs, rfl⟩, ⟨cause, ended⟩ | ⟨listed, _, ended⟩⟩ := refreshKnown_ends ctx w
  · rw [ended]
    rfl
  · cases failed.symm.trans (congrArg Prod.fst ended)

/-! ## Full rescans -/

/-- A full rescan goes on with the tracker that its listing left, however that ended. -/
theorem World.refreshed_tracker (ctx : Context τ) (w : World τ) :
    (w.refreshed ctx).tracker = (refreshKnown ctx w.announced).2.tracker := by
  rw [World.refreshed, refreshOrReport, Op.bind_apply, Op.attempt_apply]
  cases refreshKnown ctx w.announced with
  | mk result after => cases result <;> rfl

variable [Scalar τ]

/-- Listing the definitions is exact and all or nothing. It returns exactly if the surroundings answer
with objects that can all be read, and then a UID is known exactly if it is the text of one that
counts as given among them, wherever it stands. Else what was known is so still, and so is its gauge.
Either way the tracker is otherwise as the surroundings left it when they had answered, as ready as
before; and if they asked for no rebuild meanwhile, snapshot and limiter are as before too. However
its own listing ends, a full rescan goes on from there to collect, and where the lock is free it
begins a rebuild and asks for the group-versions. -/
theorem refreshKnown_all_or_nothing (around : Surroundings τ) (outer : Option Signal) (depth : Nat)
    (w : World τ) :
    let ctx := Context.nested around outer depth
    let reply := around.crds (.listedCrds :: w.journal)
    let asked := (ctx.ask .listedCrds around.crds w).2
    let refresh := refreshKnown ctx w
    (refresh.1 = .ok () ↔
      ∃ items, reply.outcome = .ok items ∧ ∀ item ∈ items, Readable item) ∧
    (refresh.1 = .ok () → ∀ uid, refresh.2.tracker.known.contains uid = true ↔
      ∃ items, reply.outcome = .ok items ∧ ∃ item ∈ items,
        (Crd.Info.uidGiven item).isTruthy = true ∧ uid = (Crd.Info.uidGiven item).toText) ∧
    (∀ fault, refresh.1 = .error fault →
      refresh.2.tracker.known = w.tracker.known ∧
        refresh.2.tracker.crdsGauge = w.tracker.crdsGauge) ∧
    refresh.2.tracker =
      { asked.tracker with
        known := refresh.2.tracker.known
        crdsGauge := refresh.2.tracker.crdsGauge } ∧
    refresh.2.tracker.ready = w.tracker.ready ∧
    ((∀ action ∈ reply.actions, action.asksRebuild = false) →
      refresh.2.tracker.snapshot = w.tracker.snapshot ∧
        refresh.2.tracker.limiter = w.tracker.limiter) ∧
    ∀ given, let rescan := fullRescan ctx given w
      let refreshed := w.refreshed ctx
      refreshed.tracker = (refreshKnown ctx w.announced).2.tracker ∧
      rescan.1 = (collectAndNotify ctx (some (refreshed.tracker.stopOr given)) refreshed).1 ∧
      (w.tracker.rebuilding = false →
        .listedGroups :: .beganRebuild :: refreshed.journal <:+ rescan.2.journal ∧
          rescan.1 ≠ .ok (some .skipped)) := by
  intro ctx reply asked refresh
  have isAround : ctx.around = around := Context.nested_around around outer depth
  have quiet : Quiet w asked :=
    (Context.nested_lawful around outer depth).ask .listedCrds rfl around.crds w
  have ungauged : NothingGauged w asked :=
    (Context.nested_aloof around outer depth).ask .listedCrds rfl around.crds w
  have listed := @refreshKnown_of_ok τ ctx w
  have left := @refreshKnown_of_error τ ctx w
  rw [isAround] at listed left
  -- Whether it is replaced or stays, nothing but what is known is at stake.
  have kept : refresh.2.tracker =
      { asked.tracker with
        known := refresh.2.tracker.known
        crdsGauge := refresh.2.tracker.crdsGauge } := by
    cases ended : refresh.1 with
    | ok _ =>
      obtain ⟨_, _, _, tracker⟩ := listed ended
      rw [tracker]
    | error fault => rw [left ended]
  refine ⟨?_, fun returned uid => ?_, fun fault failed => ?_, kept, ?_, fun idle => ?_,
    fun given => ⟨w.refreshed_tracker ctx, (fullRescan_spec ctx given w).1, fun free => ?_⟩⟩
  · rw [refreshKnown_returns_iff, isAround]
  · obtain ⟨items, answered, readable, tracker⟩ := listed returned
    have known : refresh.2.tracker.known = .ofList (items.filterMap uidOf?) := by rw [tracker]
    rw [known, contains_ofList_iff readable]
    constructor
    · exact fun identity => ⟨items, answered, identity⟩
    · rintro ⟨_, same, identity⟩
      obtain rfl := Except.ok.inj (answered.symm.trans same)
      exact identity
  · rw [left failed]
    exact ⟨ungauged.known, ungauged.gauge⟩
  · rw [kept]
    exact quiet.ready
  · have untouched : Untouched w asked := ask_crds_untouched around outer depth idle
    rw [kept, untouched.tracker]
    exact ⟨rfl, rfl⟩
  · obtain ⟨attempted, _, ⟨outcome, returned, unskipped⟩, _⟩ :=
      fullRescan_bypasses around outer depth given free
    refine ⟨attempted, fun skipped => ?_⟩
    exact unskipped (Except.ok.inj (returned.symm.trans skipped))

/-- Of two listings with an object to leave out, the one that can be read replaces what was known,
and the one that ends with an object that cannot be read replaces nothing. -/
theorem refreshKnown_all_or_nothing_mixed :
    let fresh : World Rat := World.fresh .exact 0
    let known : Crd.IdentitySet := .ofList [("v" : String)]
    let w : World Rat := { fresh with tracker := { fresh.tracker with known, crdsGauge := 1 } }
    let identified (uid : String) : Value := .record [("metadata", .record [("uid", .text uid)])]
    let illegible : Value :=
      .record [("metadata", .record [("uid", .text "c")]),
        ("status", .record [("conditions", .bool true)])]
    let listing (items : List Value) :=
      refreshKnown (Context.nested (.steady (.ok []) (fun _ => .ok none) (.ok items)) none 1) w
    let good := listing [identified "a", .record [], identified "b"]
    let bad := listing [identified "a", .record [], illegible]
    (good.1 = .ok () ∧ good.2.tracker.known.contains "b" = true ∧
      good.2.tracker.known.contains "v" = false) ∧
    bad.1 = .error (.misuse .wrongType) ∧ bad.2.tracker.known.contains "v" = true ∧
      bad.2.tracker.crdsGauge = 1 := by
  intro fresh known w identified illegible listing good bad
  obtain ⟨_, precise, _⟩ := refreshKnown_all_or_nothing
    (.steady (.ok []) (fun _ => .ok none) (.ok [identified "a", .record [], identified "b"]))
    none 1 w
  obtain ⟨_, _, nothing, _⟩ := refreshKnown_all_or_nothing
    (.steady (.ok []) (fun _ => .ok none) (.ok [identified "a", .record [], illegible])) none 1 w
  have returned : good.1 = .ok () := by rfl
  have failed : bad.1 = .error (.misuse .wrongType) := by rfl
  have listed := (precise returned "b").mpr ⟨_, rfl, identified "b", by simp, rfl, rfl⟩
  obtain ⟨kept, gauge⟩ := nothing _ failed
  have still : bad.2.tracker.known = w.tracker.known := kept
  refine ⟨⟨returned, listed, by rfl⟩, failed, ?_, gauge⟩
  rw [still]
  rfl

end ApiSurface.Tracker
