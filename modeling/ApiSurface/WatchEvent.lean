import ApiSurface.Crd.Info
import ApiSurface.Value.Number
import ApiSurface.Text.Case

/-!
# Events of a watch stream

What a stream yields is a record with a type and a payload. Decoding turns it into
a change of one definition or into the server's last word before it ends the
stream. An event that has the wrong shape is *malformed*; the payload of an error
event, however, may have any shape.
-/

namespace ApiSurface

/-- What happened to a definition. -/
inductive ChangeType where
  | added
  | modified
  | deleted
deriving DecidableEq, Repr

namespace ChangeType

/-- The name of a change on the wire. -/
def name : ChangeType → String
  | added => "ADDED"
  | modified => "MODIFIED"
  | deleted => "DELETED"

/-- The change of a given name. -/
def ofName? (text : Text) : Option ChangeType :=
  [added, modified, deleted].find? fun change => change.name == text

end ChangeType

/-- A change of one custom resource definition. -/
structure CrdEvent where
  change : ChangeType
  crd : Crd.Info
deriving DecidableEq, Repr

/-- The status with which the server ends a stream. -/
structure StreamError where
  code : Option Int
  reason : Text
  message : Text
deriving DecidableEq, Repr

/-- A decoded event. -/
inductive WatchEvent where
  | change (event : CrdEvent)
  | error (status : StreamError)
deriving DecidableEq, Repr

/-- Why an event is malformed. -/
inductive MalformedEvent where
  | notARecord (typeName : String)
  | unknownType (name : Text)
  | withoutObject (change : ChangeType)
  | withoutUid
deriving DecidableEq, Repr

/-- The wording of a malformed event. -/
def MalformedEvent.message : MalformedEvent → Text
  | notARecord typeName => "unexpected watch event of type " ++ typeName
  | unknownType name => "unknown watch event type " ++ Text.quoted name
  | withoutObject change => change.name ++ " event without object"
  | withoutUid => Crd.withoutUidMessage

/-- Why an event could not be decoded. -/
inductive DecodeFault where
  | malformed (why : MalformedEvent)
  | misuse (kind : Misuse)
deriving DecidableEq, Repr

namespace WatchEvent

/-- The status code of an error payload: an integer, or none where none can be read. -/
def statusCode (payload : Value) : Except Misuse (Option Int) :=
  let code := payload.get "code"
  if code.isNull then .ok none
  else
    match code.toInteger with
    | .ok n => .ok (some n)
    | .error .unbounded => .error .outOfRange
    | .error _ => .ok none

/-- The status in an error payload. A payload that says nothing by itself becomes the
message. -/
def statusOf (payload : Value) : Except Misuse StreamError :=
  match statusCode payload with
  | .error kind => .error kind
  | .ok code =>
    let reason := payload.get "reason"
    let message := payload.get "message"
    .ok { code
          reason := reason.textIfGiven
          message :=
            if reason.isNull && message.isNull && code.isNone && !payload.isNull then payload.toText
            else message.textIfGiven }

/-- The payload of an error event: the raw object if there is one, else the object. -/
def errorPayload (raw : Value) : Value :=
  if (raw.get "raw_object").isNull then raw.get "object" else raw.get "raw_object"

/-- The type of an event in upper case, empty if it has none. -/
def typeText (raw : Value) : Text := Text.upper ((raw.field? "type").getD (.text "")).toText

/-- The change of one definition that an event reports. -/
def changeOf (kind : ChangeType) (payload : Value) : Except DecodeFault WatchEvent :=
  if payload.isNull then .error (.malformed (.withoutObject kind))
  else
    match Crd.Info.ofValue payload with
    | .ok crd => .ok (.change { change := kind, crd })
    | .error .withoutUid => .error (.malformed .withoutUid)
    | .error (.misuse misuse) => .error (.misuse misuse)

/-- Decodes what a stream yielded. -/
def decode (raw : Value) : Except DecodeFault WatchEvent :=
  match raw with
  | .record _ =>
    if typeText raw == "ERROR" then
      match statusOf (errorPayload raw) with
      | .ok status => .ok (.error status)
      | .error kind => .error (.misuse kind)
    else
      match ChangeType.ofName? (typeText raw) with
      | some kind => changeOf kind (raw.get "object")
      | none => .error (.malformed (.unknownType (typeText raw)))
  | _ => .error (.malformed (.notARecord raw.typeName))

end WatchEvent

end ApiSurface
