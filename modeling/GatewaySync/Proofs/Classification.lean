import GatewaySync.Konnect.RemoteError
import GatewaySync.Proofs.Fields
import GatewaySync.Proofs.Grammar
/-!
# What an answer without success is

The status and the body tell whether an entity is there already or is missing. A body counts only if it is
a JSON text of one form, whatever its spelling is and whatever else it tells.
-/
namespace GatewaySync

namespace Json

variable {v : Json} {members : List (String × Json)} {n : Int} {s : String}

/-- The value of a violated constraint: an object that tells the code and the message once, or the list of
the two. -/
inductive TellsConstraint : Json → Prop
  | object {members : List (String × Json)} (code : valuesOf "code" members = [int 3])
      (message : valuesOf "message" members = [str "data constraint error"]) : TellsConstraint (obj members)
  | list : TellsConstraint (arr [int 3, str "data constraint error"])

def ConstraintText (text : String) : Prop :=
  ∃ ts v, Cut text.toList ts ∧ Spells defaultDepth 0 ts (.value v) ∧ TellsConstraint v

theorem optional_int64_iff : Decoder.optional Decoder.int64 v = some (some n) ↔ v = int n ∧ isInt64 n := by
  cases v with
  | int m =>
    by_cases fits : isInt64 m <;> simp [Decoder.optional, Decoder.int64, fits]
    · rintro rfl
      exact fits
    · rintro rfl
      simpa using fits
  | _ => simp [Decoder.optional, Decoder.int64]

theorem optional_string_iff : Decoder.optional Decoder.string v = some (some s) ↔ v = str s := by
  cases v <;> simp [Decoder.optional, Decoder.string]

def report (v : Json) : Option (Option Int × Option String) := do
  let fs ← fields ["code", "message"] v
  let code ← fs.nullable "code" Decoder.int64
  let message ← fs.nullable "message" Decoder.string
  some (code, message)

theorem atMostOne_eq_some_iff {found : List Json} {x : Option Json} :
    atMostOne found = some x ↔ found = x.toList := by
  constructor
  · intro h
    rcases found with _ | ⟨v, _ | _⟩ <;> cases h <;> rfl
  · rintro rfl
    exact atMostOne_toList x

theorem report_obj :
    report (obj members) = some (some 3, some "data constraint error") ↔
      valuesOf "code" members = [int 3] ∧ valuesOf "message" members = [str "data constraint error"] := by
  have told : report (obj members) = some (some 3, some "data constraint error") ↔
      ∃ code, valuesOf "code" members = code.toList ∧ ∃ message, valuesOf "message" members = message.toList ∧
        readOption Decoder.int64 code = some (some 3) ∧
          readOption Decoder.string message = some (some "data constraint error") := by
    rw [report, fields_obj]
    simp [Option.bind_eq_some_iff, atMostOne_eq_some_iff]
  rw [told]
  constructor
  · rintro ⟨code, code_found, message, message_found, code_read, message_read⟩
    cases code with
    | none => cases code_read
    | some v =>
      cases message with
      | none => cases message_read
      | some w =>
        obtain ⟨rfl, -⟩ := optional_int64_iff.mp code_read
        obtain rfl := optional_string_iff.mp message_read
        exact ⟨code_found, message_found⟩
  · rintro ⟨code, message⟩
    exact ⟨some (int 3), code, some (str _), message, rfl, rfl⟩

theorem report_arr {items : List Json} :
    report (arr items) = some (some 3, some "data constraint error") ↔
      items = [int 3, str "data constraint error"] := by
  rcases items with _ | ⟨v, _ | ⟨w, _ | ⟨u, rest⟩⟩⟩
  · simp [report, fields, Fields.nullable, Fields.find]
  · simp [report, fields, Fields.nullable, Fields.find]
  · have told : report (arr [v, w]) = some (some 3, some "data constraint error") ↔
        Decoder.optional Decoder.int64 v = some (some 3) ∧
          Decoder.optional Decoder.string w = some (some "data constraint error") := by
      simp [report, fields, Fields.nullable, Fields.find, Option.bind_eq_some_iff]
    rw [told, optional_int64_iff, optional_string_iff]
    simp [isInt64, wordCount]
  · simp [report, fields]

theorem report_eq_some_iff :
    report v = some (some 3, some "data constraint error") ↔ TellsConstraint v := by
  constructor
  · intro h
    cases v with
    | obj members =>
      obtain ⟨code, message⟩ := report_obj.mp h
      exact .object code message
    | arr items =>
      rw [report_arr.mp h]
      exact .list
    | _ => cases h
  · rintro (⟨code, message⟩ | _)
    · exact report_obj.mpr ⟨code, message⟩
    · exact report_arr.mpr rfl

end Json

namespace RemoteError

open Json

theorem isConstraintBody_iff (body : String) : isConstraintBody body = true ↔ ConstraintText body := by
  have told : isConstraintBody body = true ↔
      ∃ v, read? body = some v ∧ report v = some (some 3, some "data constraint error") := by
    cases read : read? body with
    | none => simp [isConstraintBody, read]
    | some v =>
      have found : isConstraintBody body =
          (report v).any fun said => said.1 = some 3 && said.2 = some "data constraint error" := by
        rw [isConstraintBody, read]
        split
        · next told =>
          rw [show report v = _ from told]
          rfl
        · next told =>
          rw [show report v = _ from told]
          rfl
      rw [found]
      cases told : report v <;> simp [told, Prod.ext_iff]
  rw [told]
  simp only [read?_eq_some_iff, report_eq_some_iff, ConstraintText]
  constructor
  · rintro ⟨v, ⟨ts, cut, spells⟩, tells⟩
    exact ⟨ts, v, cut, spells, tells⟩
  · rintro ⟨ts, v, cut, spells, tells⟩
    exact ⟨v, ⟨ts, cut, spells⟩, tells⟩

theorem isConflict_ofStatus (status : Nat) (body : String) :
    (ofStatus status body).isConflict = true ↔ status = 409 ∨ status ≠ 404 ∧ ConstraintText body := by
  unfold ofStatus
  split_ifs with missing taken bad <;> simp [isConflict, isConstraintBody_iff, *]

theorem isNotFound_ofStatus (status : Nat) (body : String) :
    (ofStatus status body).isNotFound = true ↔ status = 404 := by
  unfold ofStatus
  split_ifs with missing taken bad <;> simp [isNotFound, status?, *]

/-- An entity is there already if and only if the status is 409, or the status is none of a missing entity and
the body is that of a violated constraint; it is missing if and only if the status is 404. No answer says
both. -/
theorem ofStatus_classified (status : Nat) (body : String) :
    ((ofStatus status body).isConflict = true ↔ status = 409 ∨ status ≠ 404 ∧ ConstraintText body) ∧
    ((ofStatus status body).isNotFound = true ↔ status = 404) ∧
    ¬ ((ofStatus status body).isConflict = true ∧ (ofStatus status body).isNotFound = true) := by
  refine ⟨isConflict_ofStatus status body, isNotFound_ofStatus status body, ?_⟩
  rw [isConflict_ofStatus, isNotFound_ofStatus]
  rintro ⟨taken | ⟨other, -⟩, missing⟩
  · omega
  · exact other missing

def constraintReport : String := "\x7b\"code\":3,\"message\":\"data constraint error\"\x7d"

theorem constraintText_constraintReport : ConstraintText constraintReport := by
  have three : Word ['3'] (int 3) := .integer (n := 3) ⟨by decide, by decide⟩
  have code : Plain "code" := by simp [Plain]
  have message : Plain "message" := by simp [Plain]
  have error : Plain "data constraint error" := by simp [Plain]
  have ends : Text.Stops isWordChar (',' :: ('"' :: ("message".toList ++ '"' :: (':' :: ('"' ::
      ("data constraint error".toList ++ '"' :: ['\x7d'])))))) := Text.stops_cons.mpr (by decide)
  have cut := Cut.mark .openObject <| code.cut <| .mark .colon <| .word three ends <|
    .mark .comma <| message.cut <| .mark .colon <| error.cut <| .mark .closeObject .done
  have first : Spells defaultDepth 0 _ (.members [(some "code", int 3)]) := .member .openObject (.word _)
  have both : Spells defaultDepth 0 _ (.members [(some "code", int 3), (some "message", str _)]) :=
    .member (.nextMember first) (.text (some "data constraint error"))
  exact ⟨_, _, cut, both.object, .object rfl rfl⟩

/-- Another status than 400 and 409, one that the operator could not process, counts as a conflict too. -/
theorem unprocessable_taken_for_conflict :
    ¬ ((ofStatus 422 constraintReport).isConflict = true ↔
      422 = 409 ∨ 422 = 400 ∧ ConstraintText constraintReport) := by
  simp [isConflict_ofStatus, constraintText_constraintReport]

end RemoteError

end GatewaySync
