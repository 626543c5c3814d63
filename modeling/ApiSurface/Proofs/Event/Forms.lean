import Mathlib.Data.List.Forall2
import ApiSurface.Proofs.Event.Decoding

/-!
# One definition in different forms

A definition comes as a record, as a model, or as a mixture of both, level by level: the object, its
metadata, its status and every condition have a form of their own. A `Description` says what a
definition holds apart from any form, and `ShownBy` which values show it. All of these values are read
as what the description says, so events about a change are decoded alike. The server's last word is
not: a payload that says nothing by itself is quoted in it, and a quotation shows the form.
-/

namespace ApiSurface.Crd

/-! ## Forms -/

/-- The form of an object: the keys of a record, or the fields of a model. -/
inductive Form where
  | record
  | model

namespace Form

/-- An object of this form. -/
def wrap : Form → List (Text × Value) → Value
  | record => .record
  | model => .model

/-- The name of the deletion time. -/
def deletionName : Form → Text
  | record => "deletionTimestamp"
  | model => "deletion_timestamp"

/-- The name of the deletion time in the other form. -/
def foreignName : Form → Text
  | record => "deletion_timestamp"
  | model => "deletionTimestamp"

end Form

/-- What stands under a name, where null stands under a name that is missing. -/
def under (entries : List (Text × Value)) (name : Text) : Value :=
  (entries.lookup name).getD .null

section Form

variable (form : Form) (entries : List (Text × Value)) (name : Text)

@[simp] theorem Form.get_wrap : (form.wrap entries).get name = under entries name := by
  cases form <;> rfl

@[simp] theorem Form.isNull_wrap : (form.wrap entries).isNull = false := by
  cases form <;> rfl

end Form

/-- An optional text: the text, or null. -/
def optionalText : Option Text → Value
  | some text => .text text
  | none => .null

theorem optionalText_isText {given : Option Text} {text : Text} :
    (optionalText given).isText text = (given == some text) := by
  cases given <;> rfl

theorem optionalText_textIfGiven {given : Option Text} :
    (optionalText given).textIfGiven = given.getD "" := by
  rcases given with _ | _ | _ <;> rfl

/-- A value that shows what is said if anything is, and is null otherwise. -/
inductive Tells {α : Type} (shows : α → Value → Prop) : Option α → Value → Prop where
  | nothing : Tells shows none .null
  | something {said : α} {v : Value} (shown : shows said v) : Tells shows (some said) v

/-! ## Descriptions -/

/-- What a condition says. -/
structure Condition where
  type : Option Text
  status : Option Text

/-- What a definition says, as far as it matters here. -/
structure Description where
  name : Option Text
  uid : Option Text
  deletion : Option Text
  conditions : Option (List Condition)

/-- A value that shows a condition. -/
inductive Condition.ShownBy (condition : Condition) : Value → Prop where
  | wrapped {entries : List (Text × Value)} (form : Form)
      (type : under entries "type" = optionalText condition.type)
      (status : under entries "status" = optionalText condition.status) :
      ShownBy condition (form.wrap entries)

namespace Description

/-- A value that shows the metadata of a definition. A deletion time may be anything but null, and the
name it has in the other form is not used. -/
inductive MetadataShownBy (d : Description) : Value → Prop where
  | wrapped {entries : List (Text × Value)} (form : Form)
      (name : under entries "name" = optionalText d.name)
      (uid : under entries "uid" = optionalText d.uid)
      (deletion : Tells (fun _ time => time.isNull = false) d.deletion
        (under entries form.deletionName))
      (foreign : entries.lookup form.foreignName = none) :
      MetadataShownBy d (form.wrap entries)
  | omitted (name : d.name = none) (uid : d.uid = none) (deletion : d.deletion = none) :
      MetadataShownBy d .null

/-- A value that shows the status of a definition. -/
inductive StatusShownBy (d : Description) : Value → Prop where
  | wrapped {entries : List (Text × Value)} (form : Form)
      (conditions : Tells
        (fun conditions v => ∃ items, v = .list items ∧
          List.Forall₂ Condition.ShownBy conditions items)
        d.conditions (under entries "conditions")) :
      StatusShownBy d (form.wrap entries)
  | omitted (conditions : d.conditions = none) : StatusShownBy d .null

/-- A value that shows a definition, and has nothing that only a status has. -/
inductive ShownBy (d : Description) : Value → Prop where
  | wrapped {entries : List (Text × Value)} (form : Form)
      (metadata : d.MetadataShownBy (under entries "metadata"))
      (status : d.StatusShownBy (under entries "status"))
      (code : under entries "code" = .null) (reason : under entries "reason" = .null)
      (message : under entries "message" = .null) :
      ShownBy d (form.wrap entries)

/-! ## What a description comes to -/

/-- Whether the first condition about being established says so. -/
def establishedIn (conditions : List Condition) : Bool :=
  (conditions.find? fun condition => condition.type == some ("Established" : Text)).any
    fun condition => condition.status == some ("True" : Text)

/-- The first condition of type `Established` has status `True`. -/
def SaysEstablished (conditions : List Condition) : Prop :=
  ∃ before condition after, conditions = before ++ condition :: after ∧
    (∀ earlier ∈ before, earlier.type ≠ some ("Established" : Text)) ∧
    condition.type = some ("Established" : Text) ∧ condition.status = some ("True" : Text)

theorem establishedIn_iff {conditions : List Condition} :
    establishedIn conditions = true ↔ SaysEstablished conditions := by
  rw [establishedIn, Option.any_eq_true, exists_find?_iff, SaysEstablished]
  simp

/-- What is read off a definition that says this. -/
def info (d : Description) : Except InfoFault Info :=
  match d.uid with
  | none | some [] => .error .withoutUid
  | some uid =>
    .ok { name := d.name.getD ""
          uid
          terminating := d.deletion.isSome
          established := establishedIn (d.conditions.getD []) }

end Description

/-! ## Reading what is shown -/

namespace Condition.ShownBy

variable {condition : Condition} {v : Value}

theorem get_type (shown : condition.ShownBy v) : v.get "type" = optionalText condition.type := by
  obtain ⟨form, type, _⟩ := shown
  rw [form.get_wrap, type]

theorem get_status (shown : condition.ShownBy v) :
    v.get "status" = optionalText condition.status := by
  obtain ⟨form, _, status⟩ := shown
  rw [form.get_wrap, status]

end Condition.ShownBy

/-- Conditions are judged by what they say, whatever form each has. -/
theorem Info.establishedBy_shown {conditions : List Condition} {items : List Value}
    (shown : List.Forall₂ Condition.ShownBy conditions items) :
    establishedBy items = Description.establishedIn conditions := by
  induction shown with
  | nil => rfl
  | @cons condition item conditions items first _ ih =>
    have about : isEstablishedCondition item =
        (condition.type == some ("Established" : Text)) := by
      rw [isEstablishedCondition, first.get_type, optionalText_isText]
    rw [establishedBy, Description.establishedIn, List.find?_cons, List.find?_cons, about]
    cases condition.type == some ("Established" : Text) with
    | true =>
      dsimp only
      rw [first.get_status, optionalText_isText, Option.any_some]
    | false => exact ih

namespace Description

variable {d : Description} {v : Value}

namespace MetadataShownBy

theorem get_name (shown : d.MetadataShownBy v) : v.get "name" = optionalText d.name := by
  cases shown with
  | wrapped form name => rw [form.get_wrap, name]
  | omitted name => rw [name]; rfl

theorem get_uid (shown : d.MetadataShownBy v) : v.get "uid" = optionalText d.uid := by
  cases shown with
  | wrapped form _ uid => rw [form.get_wrap, uid]
  | omitted _ uid => rw [uid]; rfl

/-- The deletion time is found under the name it has in the form of the metadata. -/
theorem isTerminating (shown : d.MetadataShownBy v) :
    Info.isTerminating v = d.deletion.isSome := by
  cases shown with
  | @wrapped entries form _ _ deletion foreign =>
    have found : (form.wrap entries).firstField ["deletion_timestamp", "deletionTimestamp"] =
        under entries form.deletionName := by
      -- The name models use is looked for first, and a record does not have it.
      cases form with
      | record =>
        change (entries.lookup Form.record.foreignName).getD _ = _
        rw [foreign]
        rfl
      | model =>
        change (entries.lookup Form.model.deletionName).getD
          ((entries.lookup Form.model.foreignName).getD .null) = _
        rw [foreign]
        rfl
    rw [Info.isTerminating, found]
    generalize d.deletion = said, under entries form.deletionName = time at deletion ⊢
    cases deletion with
    | nothing => rfl
    | something given => rw [given]; rfl
  | omitted _ _ deletion => rw [deletion]; rfl

end MetadataShownBy

/-- The conditions can be gone through, and are judged by what they say. -/
theorem StatusShownBy.conditions (shown : d.StatusShownBy v) :
    ∃ items, (v.get "conditions").itemsIfGiven = .ok items ∧
      Info.establishedBy items = establishedIn (d.conditions.getD []) := by
  cases shown with
  | @wrapped entries form told =>
    rw [form.get_wrap]
    generalize d.conditions = said, under entries "conditions" = given at told ⊢
    cases told with
    | nothing => exact ⟨[], rfl, rfl⟩
    | something shown =>
      obtain ⟨items, list, shown⟩ := shown
      refine ⟨items, ?_, Info.establishedBy_shown shown⟩
      rw [list]
      cases items <;> rfl
  | omitted none => exact ⟨[], rfl, by rw [none]; rfl⟩

/-- A definition is read as what it says, whatever form each of its levels has. -/
theorem ShownBy.ofValue_eq (shown : d.ShownBy v) : Info.ofValue v = d.info := by
  obtain ⟨form, metadata, status, _⟩ := shown
  obtain ⟨items, readable, established⟩ := status.conditions
  rw [Info.ofValue, Info.conditions, form.get_wrap, form.get_wrap, metadata.get_uid,
    metadata.get_name, metadata.isTerminating, readable, info, optionalText_textIfGiven]
  dsimp only
  rw [established]
  rcases d.uid with _ | _ | _ <;> rfl

/-- A definition that was read is established as the first condition about it says. -/
theorem ShownBy.established_iff {crd : Info} (shown : d.ShownBy v)
    (read : Info.ofValue v = .ok crd) :
    crd.established = true ↔ SaysEstablished (d.conditions.getD []) := by
  rw [shown.ofValue_eq, info] at read
  split at read
  · cases read
  · cases read
  · cases read
    exact establishedIn_iff

end Description

end ApiSurface.Crd

namespace ApiSurface.WatchEvent

open Crd (Description Condition Form under)

/-! ## Events about what is shown -/

/-- An event of some type about an object, with nothing raw beside it. -/
inductive Reports (type : Text) (payload : Value) : Value → Prop where
  | record {entries : List (Text × Value)}
      (named : entries.lookup ("type" : Text) = some (.text type))
      (object : under entries "object" = payload) (bare : under entries "raw_object" = .null) :
      Reports type payload (.record entries)

namespace Reports

variable {raw payload : Value} {type : Text}

theorem isRecord (reports : Reports type payload raw) : raw.isRecord = true := by
  cases reports
  rfl

theorem typeText_eq (reports : Reports type payload raw) : typeText raw = Text.upper type := by
  obtain ⟨named⟩ := reports
  rw [typeText, Value.field?, named]
  rfl

theorem get_object (reports : Reports type payload raw) : raw.get "object" = payload := by
  obtain ⟨_, object⟩ := reports
  exact object

theorem errorPayload_eq (reports : Reports type payload raw) : errorPayload raw = payload := by
  have object := reports.get_object
  obtain ⟨_, _, bare⟩ := reports
  have missing : (Value.record _).get "raw_object" = .null := bare
  rw [errorPayload, missing, object]
  rfl

/-- The server's last word is decoded as the status its object has. -/
theorem decode_spoken (reports : Reports type payload raw)
    (spoken : Text.upper type = ("ERROR" : String)) {status : StreamError}
    (told : statusOf payload = .ok status) : decode raw = .ok (.error status) := by
  have decoded := decode_of_lastWord ⟨reports.isRecord, reports.typeText_eq.trans spoken⟩
  rw [reports.errorPayload_eq, told] at decoded
  exact decoded

/-- Two events of another type are decoded alike if their objects are. -/
theorem decode_congr {a b rawA rawB : Value} (reportsA : Reports type a rawA)
    (reportsB : Reports type b rawB) (unspoken : Text.upper type ≠ ("ERROR" : String))
    (same : ∀ kind, changeOf kind a = changeOf kind b) : decode rawA = decode rawB := by
  have changed : ¬ (Text.upper type == ("ERROR" : String)) = true := mt beq_iff_eq.mp unspoken
  have namedA := reportsA.typeText_eq
  have namedB := reportsB.typeText_eq
  have objectA := reportsA.get_object
  have objectB := reportsB.get_object
  cases reportsA
  cases reportsB
  rw [decode, decode, namedA, namedB, objectA, objectB, if_neg changed, if_neg changed]
  cases ChangeType.ofName? (Text.upper type) with
  | none => rfl
  | some kind => exact same kind

end Reports

variable {d : Description} {a b rawA rawB : Value}

/-- A definition has no status of its own, so it is quoted. -/
theorem statusOf_shown (shown : d.ShownBy a) :
    statusOf a = .ok { code := none, reason := "", message := a.toText } := by
  obtain ⟨form, _, _, code, reason, message⟩ := shown
  rw [statusOf, statusCode, form.get_wrap, form.get_wrap, form.get_wrap, code, reason, message,
    form.isNull_wrap]
  rfl

/-- A change is decoded by what its definition is read as. -/
theorem changeOf_congr (shownA : d.ShownBy a) (shownB : d.ShownBy b) (kind : ChangeType) :
    changeOf kind a = changeOf kind b := by
  have read : Crd.Info.ofValue a = Crd.Info.ofValue b :=
    shownA.ofValue_eq.trans shownB.ofValue_eq.symm
  have given : a.isNull = b.isNull := by
    obtain ⟨formA, _⟩ := shownA
    obtain ⟨formB, _⟩ := shownB
    rw [formA.isNull_wrap, formB.isNull_wrap]
  rw [changeOf, changeOf, read, given]

/-- Two values that show one definition are read alike, and events about them are decoded alike,
whichever form each of their levels has. Only the server's last word tells them apart: it has no code
and no reason either way, but quotes the value it came with. A definition that was read is established
exactly if the first of its conditions about being established says so. -/
theorem decode_alike (shownA : d.ShownBy a) (shownB : d.ShownBy b) {type : Text}
    (reportsA : Reports type a rawA) (reportsB : Reports type b rawB) :
    Crd.Info.ofValue a = Crd.Info.ofValue b ∧
      (Text.upper type ≠ ("ERROR" : String) → decode rawA = decode rawB) ∧
      (Text.upper type = ("ERROR" : String) →
        decode rawA = .ok (.error { code := none, reason := "", message := a.toText }) ∧
          decode rawB = .ok (.error { code := none, reason := "", message := b.toText })) ∧
      ∀ crd, Crd.Info.ofValue a = .ok crd →
        (crd.established = true ↔ Description.SaysEstablished (d.conditions.getD [])) := by
  refine ⟨shownA.ofValue_eq.trans shownB.ofValue_eq.symm, fun unspoken => ?_, fun spoken => ?_,
    fun crd read => ?_⟩
  · exact reportsA.decode_congr reportsB unspoken (changeOf_congr shownA shownB)
  · exact ⟨reportsA.decode_spoken spoken (statusOf_shown shownA),
      reportsB.decode_spoken spoken (statusOf_shown shownB)⟩
  · exact shownA.established_iff read

/-- A record with nothing in it but records, and a model whose metadata is a record and whose one
condition is a model. -/
theorem decode_alike_mixed :
    let d : Description :=
      { name := some ("a" : String)
        uid := some ("u" : String)
        deletion := none
        conditions := some [⟨some ("Established" : String), some ("True" : String)⟩] }
    let a : Value :=
      .record [(("metadata" : String), .record [(("name" : String), .text ("a" : String)),
          (("uid" : String), .text ("u" : String))]),
        (("status" : String), .record [(("conditions" : String), .list
          [.record [(("type" : String), .text ("Established" : String)),
            (("status" : String), .text ("True" : String))]])])]
    let b : Value :=
      .model [(("metadata" : String), .record [(("uid" : String), .text ("u" : String)),
          (("name" : String), .text ("a" : String)), (("deletionTimestamp" : String), .null)]),
        (("status" : String), .model [(("conditions" : String), .list
          [.model [(("status" : String), .text ("True" : String)),
            (("type" : String), .text ("Established" : String))]])])]
    let event : Value → Value := fun payload =>
      .record [(("type" : String), .text ("modified" : String)), (("object" : String), payload)]
    d.ShownBy a ∧ d.ShownBy b ∧ Reports ("modified" : String) a (event a) ∧
      Reports ("modified" : String) b (event b) ∧ decode (event a) = decode (event b) := by
  intro d a b event
  have shownA : d.ShownBy a :=
    .wrapped .record (.wrapped .record rfl rfl .nothing rfl)
      (.wrapped .record (.something ⟨_, rfl, .cons (.wrapped .record rfl rfl) .nil⟩)) rfl rfl rfl
  have shownB : d.ShownBy b :=
    .wrapped .model (.wrapped .record rfl rfl .nothing rfl)
      (.wrapped .model (.something ⟨_, rfl, .cons (.wrapped .model rfl rfl) .nil⟩)) rfl rfl rfl
  have reportsA : Reports ("modified" : String) a (event a) := .record rfl rfl rfl
  have reportsB : Reports ("modified" : String) b (event b) := .record rfl rfl rfl
  have changed : Text.upper ("modified" : String) ≠ ("ERROR" : String) := by decide
  exact ⟨shownA, shownB, reportsA, reportsB,
    (decode_alike shownA shownB reportsA reportsB).2.1 changed⟩

/-- A record and a model that show the same are quoted differently in the server's last word. -/
theorem decode_unlike_spoken :
    let d : Description :=
      { name := some ("a" : String)
        uid := some ("u" : String)
        deletion := none
        conditions := none }
    let metadata : List (Text × Value) :=
      [(("uid" : String), .text ("u" : String)), (("name" : String), .text ("a" : String))]
    let a : Value := .record [(("metadata" : String), .record metadata)]
    let b : Value := .model [(("metadata" : String), .model metadata)]
    let event : Value → Value := fun payload =>
      .record [(("type" : String), .text ("ERROR" : String)), (("object" : String), payload)]
    d.ShownBy a ∧ d.ShownBy b ∧ Reports ("ERROR" : String) a (event a) ∧
      Reports ("ERROR" : String) b (event b) ∧ decode (event a) ≠ decode (event b) := by
  intro d metadata a b event
  have shownA : d.ShownBy a :=
    .wrapped .record (.wrapped .record rfl rfl .nothing rfl) (.omitted rfl) rfl rfl rfl
  have shownB : d.ShownBy b :=
    .wrapped .model (.wrapped .model rfl rfl .nothing rfl) (.omitted rfl) rfl rfl rfl
  refine ⟨shownA, shownB, .record rfl rfl rfl, .record rfl rfl rfl, fun same => ?_⟩
  have spokenA : decode (event a) = .ok (.error ⟨none, "", a.toText⟩) := by rfl
  have spokenB : decode (event b) = .ok (.error ⟨none, "", b.toText⟩) := by rfl
  rw [spokenA, spokenB] at same
  have quoted : a.toText = b.toText := by simpa using same
  have unlike : a.toText.head? ≠ b.toText.head? := by decide
  exact unlike (congrArg List.head? quoted)

end ApiSurface.WatchEvent
