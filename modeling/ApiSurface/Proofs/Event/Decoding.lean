import ApiSurface.WatchEvent

/-!
# What decoding comes to

Every value is decoded, and there are four ways for that to end: a change of a definition,
the server's last word, a malformed event, and a value that is used as what it is not. The
first three are what a watch reckons with. The last has two causes and no others: the code
of an error payload is infinite, or the conditions of an identified definition are given as
something that cannot be gone through.
-/

namespace ApiSurface

namespace Value

/-- Whether a value is a record. -/
def isRecord : Value → Bool
  | record _ => true
  | _ => false

/-- Whether a value is a floating-point number without bound. -/
def isInfinite : Value → Bool
  | float x =>
    match Decimal.Double.ofFloat x with
    | .infinite _ => true
    | _ => false
  | _ => false

/-- Whether a value can be gone through. -/
def isWalkable : Value → Bool
  | list _ => true
  | record _ => true
  | text _ => true
  | _ => false

/-- Only an infinite number is too large for an integer. -/
theorem toInteger_eq_unbounded_iff {v : Value} :
    v.toInteger = .error .unbounded ↔ v.isInfinite = true := by
  cases v with
  | float x =>
    simp only [toInteger, isInfinite]
    cases Decimal.Double.ofFloat x with
    | notANumber | infinite => simp
    | finite negative mantissa exponent => simp [Decimal.Double.truncate?]
  | text s => cases read : Text.readInteger s <;> simp [toInteger, isInfinite, read]
  | _ => simp [toInteger, isInfinite]

theorem items?_eq_error_iff {v : Value} {kind : Misuse} :
    v.items? = .error kind ↔ v.isWalkable = false ∧ kind = .wrongType := by
  cases v <;> simp [items?, isWalkable, eq_comm]

/-- Items are missing where something is given that cannot be gone through. -/
theorem itemsIfGiven_eq_error_iff {v : Value} {kind : Misuse} :
    v.itemsIfGiven = .error kind ↔
      v.isTruthy = true ∧ v.isWalkable = false ∧ kind = .wrongType := by
  cases given : v.isTruthy <;> simp [itemsIfGiven, given, items?_eq_error_iff]

end Value

/-- The first element of a kind stands between those before it, which are not of the kind, and the
rest. -/
theorem exists_find?_iff {α : Type} {kind : α → Bool} {holds : α → Prop} {list : List α} :
    (∃ first, list.find? kind = some first ∧ holds first) ↔
      ∃ before first after, list = before ++ first :: after ∧
        (∀ earlier ∈ before, kind earlier = false) ∧ kind first = true ∧ holds first := by
  simp only [List.find?_eq_some_iff_append, Bool.not_eq_true']
  constructor
  · rintro ⟨first, ⟨is, before, after, rfl, others⟩, holds⟩
    exact ⟨before, first, after, rfl, others, is, holds⟩
  · rintro ⟨before, first, after, rfl, others, is, holds⟩
    exact ⟨first, ⟨is, before, after, rfl, others⟩, holds⟩

namespace Crd.Info

/-- The conditions of a definition, as they are given. -/
def conditionsGiven (payload : Value) : Value := (payload.get "status").get "conditions"

/-- The identity of a definition, as it is given. -/
def uidGiven (payload : Value) : Value := (payload.get "metadata").get "uid"

/-- Whether the conditions of a definition, where any are given, can be gone through. -/
def Legible (payload : Value) : Prop :=
  (conditionsGiven payload).isTruthy = true → (conditionsGiven payload).isWalkable = true

instance (payload : Value) : Decidable (Legible payload) := by
  unfold Legible
  infer_instance

variable {payload : Value} {crd : Info} {kind : Misuse}

/-- Conditions cannot be read exactly if they are not legible. -/
theorem conditions_eq_error_iff :
    conditions payload = .error kind ↔ ¬ Legible payload ∧ kind = .wrongType := by
  rw [conditions, Value.itemsIfGiven_eq_error_iff, Legible, conditionsGiven, Classical.not_imp,
    Bool.not_eq_true, and_assoc]

/-- Without an identity a definition is not read any further. -/
theorem ofValue_of_unidentified (missing : (uidGiven payload).isTruthy = false) :
    ofValue payload = .error .withoutUid :=
  if_neg (Bool.eq_false_iff.mp missing)

/-- An identified definition is read as its conditions can be. -/
theorem ofValue_of_identified (given : (uidGiven payload).isTruthy = true) :
    ofValue payload =
      match conditions payload with
      | .ok conditions =>
        .ok
          { name := ((payload.get "metadata").get "name").textIfGiven
            uid := (uidGiven payload).toText
            terminating := isTerminating (payload.get "metadata")
            established := establishedBy conditions }
      | .error kind => .error (.misuse kind) :=
  if_pos given

/-- A definition lacks an identity exactly if none is given, whatever else it carries. -/
theorem ofValue_eq_withoutUid_iff :
    ofValue payload = .error .withoutUid ↔ (uidGiven payload).isTruthy = false := by
  cases given : (uidGiven payload).isTruthy with
  | false => simp [ofValue_of_unidentified given]
  | true =>
    rw [ofValue_of_identified given]
    cases conditions payload <;> simp

/-- An identified definition cannot be read exactly if its conditions are not legible. -/
theorem ofValue_eq_misuse_iff :
    ofValue payload = .error (.misuse kind) ↔
      (uidGiven payload).isTruthy = true ∧ ¬ Legible payload ∧ kind = .wrongType := by
  rw [← conditions_eq_error_iff]
  cases given : (uidGiven payload).isTruthy with
  | false => simp [ofValue_of_unidentified given]
  | true =>
    rw [ofValue_of_identified given]
    cases conditions payload <;> simp

/-- A definition that can be read is identified and legible, and has the identity given. -/
theorem ofValue_eq_ok (read : ofValue payload = .ok crd) :
    (uidGiven payload).isTruthy = true ∧ Legible payload ∧
      crd.uid = (uidGiven payload).toText := by
  cases given : (uidGiven payload).isTruthy with
  | false => cases read.symm.trans (ofValue_of_unidentified given)
  | true =>
    have legible : Legible payload := by
      refine Classical.byContradiction fun illegible => ?_
      cases read.symm.trans (ofValue_eq_misuse_iff.mpr ⟨given, illegible, rfl⟩)
    rw [ofValue_of_identified given] at read
    split at read
    · cases read
      exact ⟨rfl, legible, rfl⟩
    · cases read

end Crd.Info

namespace WatchEvent

variable {raw payload : Value} {change : ChangeType} {event : CrdEvent} {kind : Misuse}

/-! ## Types of events -/

/-- A type in upper case names a change exactly if it is the name of that change. -/
theorem ofName?_eq_some_iff {text : Text} :
    ChangeType.ofName? text = some change ↔ text = change.name := by
  constructor
  · intro found
    have named := List.find?_some found
    exact (beq_iff_eq.mp named).symm
  · rintro rfl
    cases change <;> decide

/-- A record of the type with which a server ends a stream. -/
def IsLastWord (raw : Value) : Prop := raw.isRecord = true ∧ typeText raw = ("ERROR" : String)

/-- A record of the type of a change. -/
def IsChange (change : ChangeType) (raw : Value) : Prop :=
  raw.isRecord = true ∧ typeText raw = change.name

/-- The types of changes differ from the one that ends a stream. -/
theorem IsLastWord.not_isChange (last : IsLastWord raw) : ¬ IsChange change raw := by
  rintro ⟨_, named⟩
  have same := last.2.symm.trans named
  revert same
  cases change <;> decide

/-! ## The server's last word -/

/-- A code that is no integer is left out, unless it is infinite. -/
theorem statusCode_eq_error_iff :
    statusCode payload = .error kind ↔
      (payload.get "code").isInfinite = true ∧ kind = .outOfRange := by
  rw [← Value.toInteger_eq_unbounded_iff, statusCode]
  cases null : (payload.get "code").isNull with
  | true =>
    cases code : payload.get "code" <;> simp_all [Value.isNull, Value.toInteger]
  | false =>
    simp only [Bool.false_eq_true, if_false]
    cases (payload.get "code").toInteger with
    | ok n => simp
    | error fault => cases fault <;> simp [eq_comm]

/-- A payload with an infinite code has no status that could be read, and every other has. -/
theorem statusOf_eq_error_iff :
    statusOf payload = .error kind ↔
      (payload.get "code").isInfinite = true ∧ kind = .outOfRange := by
  rw [← statusCode_eq_error_iff, statusOf]
  cases statusCode payload <;> simp

/-- The payload of the server's last word has an infinite code. -/
def Unbounded (raw : Value) : Prop := ((errorPayload raw).get "code").isInfinite = true

/-- The server's last word is decoded as its status can be read. -/
theorem decode_of_lastWord (last : IsLastWord raw) :
    decode raw =
      match statusOf (errorPayload raw) with
      | .ok status => .ok (.error status)
      | .error kind => .error (.misuse kind) := by
  obtain ⟨record, named⟩ := last
  cases raw with
  | record entries => exact if_pos (beq_iff_eq.mpr named)
  | _ => cases record

/-! ## Changes -/

/-- A change carries an object that has an identity. -/
def Identified (raw : Value) : Prop :=
  (raw.get "object").isNull = false ∧ (Crd.Info.uidGiven (raw.get "object")).isTruthy = true

/-- A change is decoded as its definition can be read. -/
theorem decode_of_change (reported : IsChange change raw) :
    decode raw = changeOf change (raw.get "object") := by
  have other : typeText raw ≠ ("ERROR" : String) := fun last =>
    IsLastWord.not_isChange ⟨reported.1, last⟩ reported
  obtain ⟨record, named⟩ := reported
  cases raw with
  | record entries =>
    rw [decode, if_neg (mt beq_iff_eq.mp other), ofName?_eq_some_iff.mpr named]
  | _ => cases record

/-- Nothing else can be decoded. -/
theorem decode_of_other (spoken : ¬ IsLastWord raw) (unchanged : ∀ change, ¬ IsChange change raw) :
    ∃ why, decode raw = .error (.malformed why) := by
  cases raw with
  | record entries =>
    have other : typeText (.record entries) ≠ ("ERROR" : String) := fun last => spoken ⟨rfl, last⟩
    rw [decode, if_neg (mt beq_iff_eq.mp other)]
    cases named : ChangeType.ofName? (typeText (.record entries)) with
    | none => exact ⟨_, rfl⟩
    | some change => exact absurd ⟨rfl, ofName?_eq_some_iff.mp named⟩ (unchanged change)
  | _ => exact ⟨_, rfl⟩

/-! ## All of it -/

/-- What a value comes to when it is decoded, with the condition under which it does. -/
inductive Comes (raw : Value) : Except DecodeFault WatchEvent → Prop where
  | spoken {status : StreamError} (last : IsLastWord raw) (bounded : ¬ Unbounded raw) :
      Comes raw (.ok (.error status))
  | overflowed (last : IsLastWord raw) (unbounded : Unbounded raw) :
      Comes raw (.error (.misuse .outOfRange))
  | reported {event : CrdEvent} (is : IsChange event.change raw) (identified : Identified raw)
      (legible : Crd.Info.Legible (raw.get "object"))
      (read : Crd.Info.ofValue (raw.get "object") = .ok event.crd) :
      Comes raw (.ok (.change event))
  | illegible {change : ChangeType} (is : IsChange change raw) (identified : Identified raw)
      (illegible : ¬ Crd.Info.Legible (raw.get "object")) :
      Comes raw (.error (.misuse .wrongType))
  | unidentified {change : ChangeType} {why : MalformedEvent} (is : IsChange change raw)
      (unidentified : ¬ Identified raw) : Comes raw (.error (.malformed why))
  | untyped {why : MalformedEvent} (unspoken : ¬ IsLastWord raw)
      (unchanged : ∀ change, ¬ IsChange change raw) : Comes raw (.error (.malformed why))

/-- The object of a change is missing, lacks an identity, is not legible, or is read. -/
theorem changeOf_comes (is : IsChange change raw) :
    Comes raw (changeOf change (raw.get "object")) := by
  rw [changeOf]
  cases given : (raw.get "object").isNull with
  | true =>
    exact .unidentified is fun identified => Bool.noConfusion (given.symm.trans identified.1)
  | false =>
    rw [if_neg Bool.false_ne_true]
    cases read : Crd.Info.ofValue (raw.get "object") with
    | ok crd =>
      obtain ⟨identified, legible, _⟩ := Crd.Info.ofValue_eq_ok read
      exact .reported is ⟨given, identified⟩ legible read
    | error fault =>
      cases fault with
      | withoutUid =>
        have missing := Crd.Info.ofValue_eq_withoutUid_iff.mp read
        exact .unidentified is fun identified => Bool.noConfusion (missing.symm.trans identified.2)
      | misuse kind =>
        obtain ⟨identified, illegible, rfl⟩ := Crd.Info.ofValue_eq_misuse_iff.mp read
        exact .illegible is ⟨given, identified⟩ illegible

theorem decode_comes (raw : Value) : Comes raw (decode raw) := by
  by_cases last : IsLastWord raw
  · rw [decode_of_lastWord last]
    cases status : statusOf (errorPayload raw) with
    | ok read =>
      refine .spoken last fun unbounded => ?_
      cases status.symm.trans (statusOf_eq_error_iff.mpr ⟨unbounded, rfl⟩)
    | error kind =>
      obtain ⟨unbounded, rfl⟩ := statusOf_eq_error_iff.mp status
      exact .overflowed last unbounded
  by_cases reported : ∃ change, IsChange change raw
  · obtain ⟨change, is⟩ := reported
    rw [decode_of_change is]
    exact changeOf_comes is
  · have unchanged := not_exists.mp reported
    obtain ⟨why, malformed⟩ := decode_of_other last unchanged
    rw [malformed]
    exact .untyped last unchanged

/-- Every value is decoded as a change or as the server's last word, or is malformed, but for two
kinds: a last word whose code is infinite, and a change of an identified definition whose conditions
are given and cannot be gone through. Which of these it is shows on the value. -/
theorem decode_exhaustive (raw : Value) :
    ((∃ status, decode raw = .ok (.error status)) ↔ IsLastWord raw ∧ ¬ Unbounded raw) ∧
    (∀ change, (∃ crd, decode raw = .ok (.change ⟨change, crd⟩)) ↔
      IsChange change raw ∧ Identified raw ∧ Crd.Info.Legible (raw.get "object")) ∧
    (∀ event, decode raw = .ok (.change event) →
      Crd.Info.ofValue (raw.get "object") = .ok event.crd) ∧
    ((∃ why, decode raw = .error (.malformed why)) ↔
      ¬ IsLastWord raw ∧ ¬ ((∃ change, IsChange change raw) ∧ Identified raw)) ∧
    (∀ kind, decode raw = .error (.misuse kind) ↔
      IsLastWord raw ∧ Unbounded raw ∧ kind = .outOfRange ∨
      (∃ change, IsChange change raw) ∧ Identified raw ∧
        ¬ Crd.Info.Legible (raw.get "object") ∧ kind = .wrongType) := by
  have single : ∀ {change other}, IsChange change raw → IsChange other raw → change = other := by
    rintro change other ⟨_, named⟩ ⟨_, namedOther⟩
    have found := ofName?_eq_some_iff.mpr named
    exact Option.some.inj (found.symm.trans (ofName?_eq_some_iff.mpr namedOther))
  have comes := decode_comes raw
  generalize decode raw = result at comes ⊢
  cases comes with
  | spoken last bounded =>
    have unchanged : ∀ change, ¬ IsChange change raw := fun _ => last.not_isChange
    simp [last, bounded, unchanged]
  | overflowed last unbounded =>
    have unchanged : ∀ change, ¬ IsChange change raw := fun _ => last.not_isChange
    simp [last, unbounded, unchanged, eq_comm]
  | @reported event is identified legible read =>
    have unspoken : ¬ IsLastWord raw := fun last => last.not_isChange is
    have same : ∀ change, IsChange change raw ↔ event.change = change :=
      fun change => ⟨single is, fun same => same ▸ is⟩
    obtain ⟨change, crd⟩ := event
    simp_all
  | @illegible change is identified illegible =>
    have unspoken : ¬ IsLastWord raw := fun last => last.not_isChange is
    have reported : ∃ change, IsChange change raw := ⟨change, is⟩
    simp [unspoken, reported, identified, illegible, eq_comm]
  | @unidentified change why is unidentified =>
    have unspoken : ¬ IsLastWord raw := fun last => last.not_isChange is
    simp [unspoken, unidentified]
  | untyped unspoken unchanged => simp [unspoken, unchanged]

/-- An infinite code and conditions that are a flag are used as what they are not. -/
theorem decode_escapes :
    let last : Value :=
      .record [(("type" : String), .text ("ERROR" : String)),
        (("object" : String), .record [(("code" : String), .float (1.0 / 0.0))])]
    let change : Value :=
      .record [(("type" : String), .text ("ADDED" : String)),
        (("object" : String), .record
          [(("metadata" : String), .record [(("uid" : String), .text ("u" : String))]),
            (("status" : String), .record [(("conditions" : String), .bool true)])])]
    decode last = .error (.misuse .outOfRange) ∧ decode change = .error (.misuse .wrongType) := by
  intro last change
  exact ⟨by rfl, by rfl⟩

end WatchEvent

end ApiSurface
