import ApiSurface.Value.Text

/-!
# What is read off a custom resource definition

A definition arrives as a record with camel-case keys or as a model with
snake-case fields, or as a mixture. Only its identity (`metadata.uid`) is
required; everything else has a meaning when it is absent. The definition is
established if the *first* condition of type `Established` has status `True`.
-/

namespace ApiSurface.Crd

/-- The parts of a custom resource definition that matter here. -/
structure Info where
  name : Text
  uid : Text
  terminating : Bool
  established : Bool
deriving DecidableEq, Repr

/-- Why a payload is no custom resource definition. -/
inductive InfoFault where
  | withoutUid
  | misuse (kind : Misuse)
deriving DecidableEq, Repr

namespace Info

/-- Whether a condition speaks about being established. -/
def isEstablishedCondition (condition : Value) : Bool :=
  (condition.get "type").isText "Established"

/-- Whether the first condition about being established says so. -/
def establishedBy (conditions : List Value) : Bool :=
  match conditions.find? isEstablishedCondition with
  | some condition => (condition.get "status").isText "True"
  | none => false

/-- The conditions of a payload. -/
def conditions (payload : Value) : Except Misuse (List Value) :=
  ((payload.get "status").get "conditions").itemsIfGiven

/-- Whether metadata carries a deletion time, under either of its names. -/
def isTerminating (metadata : Value) : Bool :=
  !(metadata.firstField ["deletion_timestamp", "deletionTimestamp"]).isNull

/-- Reads a custom resource definition off a payload. -/
def ofValue (payload : Value) : Except InfoFault Info :=
  let metadata := payload.get "metadata"
  let uid := metadata.get "uid"
  if uid.isTruthy then
    match conditions payload with
    | .ok conditions =>
      .ok { name := (metadata.get "name").textIfGiven
            uid := uid.toText
            terminating := isTerminating metadata
            established := establishedBy conditions }
    | .error kind => .error (.misuse kind)
  else .error .withoutUid

end Info

/-- The message of a payload without identity. -/
def withoutUidMessage : String := "CustomResourceDefinition has no metadata.uid"

end ApiSurface.Crd
