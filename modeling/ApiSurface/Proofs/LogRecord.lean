import ApiSurface.LogRecord
import ApiSurface.Proofs.Text.Filling
import ApiSurface.Proofs.Value.Reading

/-!
# Log lines read back

The line of a record is printable ASCII, and reading it gives the keys of the record in order and
its redacted texts, whatever stands in them (`line_reads_back`). Halves of surrogate pairs are all
that reading may change, and a message has none that is not in its template or its arguments.
-/

namespace ApiSurface

open Text

/-! ## Redaction -/

namespace Redaction

theorem mem_replaceFrom (recognise : Recogniser) (before : Option CodePoint) (skip : Nat)
    (text : Text) {point : CodePoint} (member : point ∈ replaceFrom recognise before skip text) :
    point ∈ text ∨ point ∈ mask := by
  induction before, skip, text using replaceFrom.induct recognise with
  | case1 before skip first rest ih =>
    exact (ih member).imp_left (List.mem_cons_of_mem _)
  | case2 before first rest found recognised ih =>
    rw [replaceFrom, recognised] at member
    simp only [List.mem_append] at member
    obtain (kept | masked) | later := member
    · exact .inl (List.mem_of_mem_take kept)
    · exact .inr masked
    · exact (ih later).imp_left (List.mem_cons_of_mem _)
  | case3 before first rest unrecognised ih =>
    rw [replaceFrom, unrecognised] at member
    obtain rfl | later := List.mem_cons.mp member
    · exact .inl List.mem_cons_self
    · exact (ih later).imp_left (List.mem_cons_of_mem _)
  | case4 => simp [replaceFrom] at member

/-- Redaction puts in the mask and nothing else. -/
theorem mem_redact {text : Text} {point : CodePoint} (member : point ∈ redact text) :
    point ∈ text ∨ point ∈ mask := by
  obtain inSecond | masked := mem_replaceFrom _ _ _ _ member
  · obtain inFirst | masked := mem_replaceFrom _ _ _ _ inSecond
    · exact mem_replaceFrom _ _ _ _ inFirst
    · exact .inr masked
  · exact .inr masked

theorem whole_redact {text : Text} (whole : Whole text) : Whole (redact text) := fun place member =>
  (mem_redact member).elim (whole place) (whole_ofString _ place)

end Redaction

namespace LogRecord

/-! ## Messages -/

/-- An argument is given: in turn, or under a name. -/
def Draft.Gives (draft : Draft) (value : Value) : Prop :=
  value ∈ draft.arguments ∨
    ∃ entries, draft.arguments = [.record entries] ∧ ∃ key, (key, value) ∈ entries

variable {draft : Draft} {message : Text} {place : Fin 0x800}

/-- A half in a message stands in the template or comes from an argument. -/
theorem half_mem_fillMessage (filled : fillMessage draft.template draft.arguments = .ok message)
    (member : .half place ∈ message) :
    .half place ∈ draft.template ∨ ∃ value, draft.Gives value ∧ value.Supplies place := by
  unfold fillMessage at filled
  split at filled
  next =>
    cases filled
    exact .inl member
  next entry entries is =>
    refine (half_mem_fillTemplate filled member).imp_right ?_
    rintro (⟨⟨key, value⟩, inEntries, supplies⟩ | ⟨value, ⟨⟩, supplies⟩)
    · exact ⟨value, .inr ⟨_, is, key, inEntries⟩, supplies⟩
    · exact ⟨_, .inl (is ▸ List.mem_cons_self), supplies⟩
  next =>
    refine (half_mem_fillTemplate filled member).imp_right ?_
    rintro ⟨value, inArguments, supplies⟩
    exact ⟨value, .inl inArguments, supplies⟩

/-! ## Levels -/

theorem exists_levelLabel? {level : Value} (known : level.isLookupKey = true) :
    ∃ label, levelLabel? level = some label ∧ label.Readable := by
  unfold levelLabel?
  rw [if_pos known]
  split
  · exact ⟨_, rfl, trivial⟩
  · exact ⟨_, rfl, trivial⟩
  · exact ⟨_, rfl, trivial⟩

/-! ## Lines -/

/-- The keys that a line has, in order. -/
def keys (hasError : Bool) : List Text :=
  ["ts", "level", "logger", "thread", "msg"] ++ if hasError then ["error"] else []

theorem map_fst_fields (record : LogRecord) :
    record.fields.map (·.1) = keys record.error.isSome := by
  unfold fields errorFields
  cases record.error <;> rfl

theorem nodup_keys (hasError : Bool) : ((keys hasError).map Text.paired).Nodup := by
  cases hasError <;> decide

theorem readable_fields {record : LogRecord} (readable : record.level.Readable) :
    (Value.record record.fields).Readable := by
  refine ⟨?_, ?_⟩
  · have distinct := nodup_keys record.error.isSome
    rwa [← map_fst_fields, List.map_map] at distinct
  · unfold fields errorFields
    cases record.error with
    | none => exact ⟨trivial, readable, trivial, trivial, trivial, trivial⟩
    | some error => exact ⟨trivial, readable, trivial, trivial, trivial, trivial, trivial⟩

theorem keys_paired (hasError : Bool) : (keys hasError).map Text.paired = keys hasError := by
  cases hasError <;> decide

/-- The line of a record is printable ASCII, and reading it gives its fields back. -/
theorem ofJson?_line {record : LogRecord} (readable : record.level.Readable) :
    Value.ofJson? record.line = some (.record (Value.pairedEntries record.fields)) :=
  Value.ofJson?_json (readable_fields readable)

theorem isInk_of_mem_line {record : LogRecord} (readable : record.level.Readable) :
    ∀ c ∈ record.line.toList, IsInk c := by
  rw [line, Value.json, String.toList_ofList]
  exact Value.isInk_of_mem_jsonChars _ (readable_fields readable)

theorem map_fst_pairedEntries_fields (record : LogRecord) :
    (Value.pairedEntries record.fields).map (·.1) = keys record.error.isSome := by
  rw [Value.map_fst_pairedEntries, ← keys_paired, ← map_fst_fields, List.map_map]
  rfl

theorem field?_msg (record : LogRecord) :
    (Value.record (Value.pairedEntries record.fields)).field? "msg" =
      some (.text (Redaction.redact record.message).paired) := by
  unfold fields errorFields
  cases record.error <;> rfl

theorem field?_error (record : LogRecord) :
    (Value.record (Value.pairedEntries record.fields)).field? "error" =
      record.error.map fun error => .text (Redaction.redact error).paired := by
  unfold fields errorFields
  cases record.error <;> rfl

theorem ofDraft_eq_ok {label : Value} {seconds milliseconds : Int}
    (level : levelLabel? draft.level = some label)
    (created : Timestamp.ofValue draft.zone draft.created = .ok seconds)
    (fraction : Directive.integerOf draft.milliseconds = .ok milliseconds)
    (filled : fillMessage draft.template draft.arguments = .ok message) :
    ofDraft draft = .ok
      { level := label, seconds, milliseconds, message
        logger := draft.logger
        thread := draft.thread
        error := draft.error } := by
  simp only [ofDraft, level, created, fraction, filled]
  rfl

/-- A draft whose level is known, whose time is one and whose message can be filled in makes a
record. Its line is printable ASCII, and reading the line gives the keys in order, the last of them
if there is an error, and the redacted message and error, up to halves that make up a character. A
text of characters has none; a message has a half only from its template or an argument. -/
theorem line_reads_back {seconds milliseconds : Int} (known : draft.level.isLookupKey = true)
    (created : Timestamp.ofValue draft.zone draft.created = .ok seconds)
    (fraction : Directive.integerOf draft.milliseconds = .ok milliseconds)
    (filled : fillMessage draft.template draft.arguments = .ok message) :
    ∃ record decoded, ofDraft draft = .ok record ∧
      (∀ c ∈ record.line.toList, IsInk c) ∧
      Value.ofJson? record.line = some (.record decoded) ∧
      decoded.map (·.1) = keys draft.error.isSome ∧
      (Value.record decoded).field? "msg" = some (.text (Redaction.redact message).paired) ∧
      (Value.record decoded).field? "error" =
        draft.error.map (fun error => .text (Redaction.redact error).paired) ∧
      (Whole message → (Redaction.redact message).paired = Redaction.redact message) ∧
      (∀ error ∈ draft.error, Whole error →
        (Redaction.redact error).paired = Redaction.redact error) ∧
      ∀ place, .half place ∈ message →
        .half place ∈ draft.template ∨ ∃ value, draft.Gives value ∧ value.Supplies place := by
  obtain ⟨label, level, readable⟩ := exists_levelLabel? known
  refine ⟨_, _, ofDraft_eq_ok level created fraction filled, isInk_of_mem_line readable,
    ofJson?_line readable, map_fst_pairedEntries_fields _, field?_msg _, field?_error _, ?_, ?_, ?_⟩
  · exact fun whole => (Redaction.whole_redact whole).paired_eq
  · exact fun error _ whole => (Redaction.whole_redact whole).paired_eq
  · exact fun place => half_mem_fillMessage filled

/-- A message with a secret, a line break and what could end a text or a record. -/
def forging : Draft where
  zone := .universal
  created := .int 0
  milliseconds := .int 7
  level := .int 20
  logger := "root"
  thread := "main"
  template := "got %s, \"😀\"\n\x7d"
  arguments := [.text "token=abc"]
  error := some "ValueError: password=hunter2"

theorem line_reads_back_forging :
    forging.level.isLookupKey = true ∧ Timestamp.ofValue forging.zone forging.created = .ok 0 ∧
      Directive.integerOf forging.milliseconds = .ok 7 ∧
      fillMessage forging.template forging.arguments = .ok "got token=abc, \"😀\"\n\x7d" ∧
      ∃ record decoded, ofDraft forging = .ok record ∧
        (∀ c ∈ record.line.toList, IsInk c) ∧
        Value.ofJson? record.line = some (.record decoded) ∧
        decoded.map (·.1) = (["ts", "level", "logger", "thread", "msg", "error"] : List Text) ∧
        (Value.record decoded).field? "msg" =
          some (.text "got token=[REDACTED], \"😀\"\n\x7d") ∧
        (Value.record decoded).field? "error" = some (.text "ValueError: password=[REDACTED]") := by
  have known : forging.level.isLookupKey = true := rfl
  have filled : fillMessage forging.template forging.arguments =
      .ok "got token=abc, \"😀\"\n\x7d" := rfl
  have message : Redaction.redact "got token=abc, \"😀\"\n\x7d" =
      "got token=[REDACTED], \"😀\"\n\x7d" := by decide +kernel
  have error : Redaction.redact "ValueError: password=hunter2" =
      "ValueError: password=[REDACTED]" := by decide +kernel
  obtain ⟨record, decoded, made, ink, decodes, keys, msg, failure, whole, wholeError, -⟩ :=
    line_reads_back known rfl rfl filled
  rw [whole (whole_ofString _), message] at msg
  rw [show forging.error = some (ofString "ValueError: password=hunter2") from rfl,
    Option.map_some, wholeError _ rfl (whole_ofString _), error] at failure
  exact ⟨known, rfl, rfl, filled, record, decoded, made, ink, decodes, keys, msg, failure⟩

end LogRecord

end ApiSurface
