import LspEndpoint.Proofs.Json.Standard
import LspEndpoint.Proofs.Session.Deliverable
import LspEndpoint.Proofs.Session.Refusal

/-!
Standard responses to standard documents. A value that is read from a document of the standard is numeric, but a number
may be too large for a double and is infinite then; a response is a document of the standard unless such a number is its
id, or stands in the server's description of itself.
-/
namespace LspEndpoint

namespace Rpc

open Json

theorem isFinite_record (key : String) (id value : Json) :
    (record [("jsonrpc", Json.string "2.0"), ("id", id), (key, value)]).IsFinite ↔ id.IsFinite ∧ value.IsFinite := by
  rw [record, IsFinite, allDoubles_object_iff]
  simp only [List.map_cons, List.map_nil, List.forall_mem_cons]
  exact ⟨fun h => ⟨h.2.1, h.2.2.1⟩, fun h => ⟨.text _, h.1, h.2, fun _ hm => absurd hm List.not_mem_nil⟩⟩

theorem Error.isFinite_toJson (code : Int) (message : Text) : (Error.plain code message).toJson.IsFinite :=
  allDoubles_of_hasDouble rfl

/-- An id is finite unless it is a number too large for a double. -/
theorem isFinite_id {m : Json} (h : m.IsNumeric) :
    ((id? m).getD .null).IsFinite ↔ ∀ negative, (id? m).getD .null ≠ .float (.infinite negative) := by
  constructor
  · rintro hf negative he
    rw [he] at hf
    cases hf with
    | float kind => cases kind
  · intro hne
    cases hi : id? m with
    | none => exact .null
    | some id =>
      rw [hi] at hne
      obtain ⟨hget, hid⟩ := Option.filter_eq_some_iff.1 hi
      cases h.get? hget with
      | int n => exact .int n
      | text t => exact .text t
      | @float x kind =>
        cases x with
        | nan => exact absurd rfl kind
        | infinite negative => exact absurd rfl (hne negative)
        | finite negative rank => exact .float rfl
      | _ => cases hid

theorem isNumeric_of_mem_flattened {v m : Json} (h : v.IsNumeric) (hm : m ∈ flattened v) : m.IsNumeric := by
  unfold flattened at hm
  split at hm
  · split at hm
    · cases h with
      | array all => exact all m hm
    · exact List.mem_singleton.1 hm ▸ h
  · exact List.mem_singleton.1 hm ▸ h

end Rpc

namespace Server

open Json Rpc

theorem isFinite_welcome (info : Json) (p : InitializeParams) :
    (Lifecycle.welcome info p).IsFinite ↔ info.IsFinite := by
  have hc : (serverCapabilities (.object p.capabilities)).hasDouble = false := by
    unfold serverCapabilities renameProvider
    split <;> rfl
  rw [Lifecycle.welcome, record, IsFinite, allDoubles_object_iff]
  simp only [List.map_cons, List.map_nil, List.forall_mem_cons]
  exact ⟨fun h => h.2.1, fun h => ⟨allDoubles_of_hasDouble hc, h, fun _ hm => absurd hm List.not_mem_nil⟩⟩

/-- The reply tells the client of the server with numbers that are finite, if it tells of it at all. -/
def TellsFinite (r : Reply) : Prop := ∀ info p, r = .result (Lifecycle.welcome info p) → info.IsFinite

theorem tellsFinite_error (e : Rpc.Error) : TellsFinite (.error e) := fun _ _ h => by cases h

/-- What is written for an answer has finite doubles only, unless its id has none or the server is not told of so. -/
theorem Answers.isFinite_iff {info : Except Unwritable Json} {m : Json} {r : Response} (h : Answers info m r) {v : Json}
    (hv : r.toJson = .ok v) : v.IsFinite ↔ r.id.IsFinite ∧ TellsFinite r.reply := by
  have herror {id : Json} {code : Int} {message : Text} {v : Json}
      (hv : (⟨id, .error (.plain code message)⟩ : Response).toJson = .ok v) :
      v.IsFinite ↔ id.IsFinite ∧ TellsFinite (.error (.plain code message)) := by
    cases hv
    rw [isFinite_record]
    exact and_congr_right fun _ => iff_of_true (Error.isFinite_toJson ..) (tellsFinite_error _)
  have hresult {id w v : Json} (hw : w.IsFinite ↔ TellsFinite (.result w))
      (hv : (⟨id, .result w⟩ : Response).toJson = .ok v) : v.IsFinite ↔ id.IsFinite ∧ TellsFinite (.result w) := by
    cases hv
    rw [isFinite_record, hw]
  cases h with
  | invalid hm => exact herror hv
  | reply hm hi hr =>
    cases hr with
    | unknown hu => exact herror hv
    | plain hk hp hr =>
      cases hr with
      | error code ha => exact herror hv
      | result he hd =>
        have hw := allDoubles_of_hasDouble (p := fun x => x.isFinite) hd
        refine hresult (iff_of_true hw ?_) hv
        exact fun info p hi => (isFinite_welcome info p).1 (Reply.result.inj hi ▸ hw)
    | @welcomed p hk hp =>
      cases info with
      | error e => cases hv
      | ok info =>
        refine hresult ⟨fun hw info' p' he => ?_, fun ht => (isFinite_welcome info p).2 (ht info p rfl)⟩ hv
        exact (isFinite_welcome info' p').1 (Reply.result.inj he ▸ hw)

end Server

namespace Session

open Json Server Rpc

variable {σ : Type}

/-- The response is written as one frame around a text, which is a document of the standard exactly if the id of the
response is no number too large for a double and the client is told of no number that is not finite. -/
def IsFramed (r : Response) : Prop :=
  ∃ t : Text, t.isScalar ∧ Framing.writeResponse r = .ok (Framing.frameOf (t.flatMap CodePoint.utf8)) ∧
    (IsStandard t ↔ (∀ negative, r.id ≠ .float (.infinite negative)) ∧ TellsFinite r.reply)

theorem isFramed_of_isFinite_iff {r : Response} (he : r.isEncodable)
    (h : ∀ v, r.toJson = .ok v →
      (v.IsFinite ↔ (∀ negative, r.id ≠ .float (.infinite negative)) ∧ TellsFinite r.reply)) : IsFramed r := by
  obtain ⟨v, hv, hs, hw⟩ := Response.writeResponse_eq he
  exact ⟨_, hs, hw, (isStandard_render_iff v).trans (h v hv)⟩

theorem isFramed_refusal (e : Rejection) : IsFramed e.response := by
  refine isFramed_of_isFinite_iff e.isEncodable_response ?_
  rintro v ⟨⟩
  rw [isFinite_record]
  exact iff_of_true ⟨.null, Error.isFinite_toJson ..⟩ ⟨fun _ h => (by cases h), tellsFinite_error _⟩

theorem isFramed_answer {info : Except Unwritable Json} {m : Json} {r : Response} (hm : m.IsNumeric)
    (ha : Answers info m r) (he : r.isEncodable) : IsFramed r := by
  refine isFramed_of_isFinite_iff he fun v hv => ?_
  rw [ha.isFinite_iff hv]
  have hid : r.id = (id? m).getD .null := by
    cases ha with
    | invalid hm => rfl
    | reply hm hi hr => rw [hi]; rfl
  rw [hid, isFinite_id hm]

theorem eq_of_mem_emit {setup : Setup σ} {r r' : Response} {s : State σ} (h : r ∈ emitted (emit setup r' s).events) :
    r = r' := by
  unfold emit at h
  split at h
  · exact List.mem_singleton.1 h
  · exact absurd h List.not_mem_nil

/-- Whatever was handled before, every response that is sent for a standard document is framed in this way. -/
theorem isFramed_of_isStandard (c : Config) (platform : Text) {launch : σ → List Text → Answer × σ} (hl : Prints launch)
    (tracing : Option (Tracing σ)) (clock : Nat → Binary64) (account : σ → Fault → Text) (host : σ) (before : List Json)
    (limit : Int) {body : Text} (hb : IsStandard body) (rest : Bytes) :
    let setup := Setup.ofConfig c platform (Backend.reading Backend.empty) launch tracing clock account
    ∀ r ∈ emitted (answered setup limit (run setup before (.start host)).state body rest).events, IsFramed r := by
  intro setup r hr
  have hs : setup.IsMute := ⟨rfl, hl⟩
  have hopen := run_traceClosed setup host before
  generalize (run setup before (.start host)).state = s at hopen hr
  cases hp : readPayload limit body with
  | ok v =>
    rw [answered_of_read hp, Turn.ofStep, process_eq_each] at hr
    obtain ⟨m, hm, ha, hd⟩ := exists_answers_of_mem_emitted hs hopen hr
    obtain ⟨w, hw, hn⟩ | ⟨count, hc⟩ := hb.read
    · obtain rfl : w = v := Except.ok.inj (hw.symm.trans (read_of_readPayload hp))
      exact isFramed_answer (isNumeric_of_mem_flattened hn hm) ha (deliverFramed_eq_none.1 hd)
    · cases hc.symm.trans (read_of_readPayload hp)
  | error e =>
    unfold answered at hr
    rw [hp] at hr
    dsimp only at hr
    split at hr
    · exact eq_of_mem_emit hr ▸ isFramed_refusal e
    · exact absurd hr List.not_mem_nil

section Magnitudes

/-- A request whose id is a number too large for a double. -/
def hugeIdBody : Text := "\x7b\"id\": 1e999, \"method\": \"shutdown\"\x7d"

theorem isStandard_hugeIdBody : IsStandard hugeIdBody := by
  have hd : IsDigits "999" := ⟨by decide, by decide⟩
  have hw : IsWhole (CodePoint.ofChar '1' :: []) := .digits (by decide) (by decide) (by decide)
  have he : IsExponent (CodePoint.ofChar 'e' :: ([] ++ Text.ofString "999")) := .digits (.inl rfl) (by decide) hd
  have hn := IsNumber.mk (List.mem_cons_self ..) hw .none he
  have hshutdown : Derives false .value (renderText false "shutdown") := .string (isString_renderText _)
  have hmethod := Derives.member (isString_renderText "method") isSpaces_nil isSpaces_space hshutdown isSpaces_nil
  have hmembers := Derives.members (isString_renderText "id") isSpaces_nil isSpaces_space (.number hn) isSpaces_nil
    isSpaces_space hmethod
  exact ⟨[], _, [], isSpaces_nil, .object isSpaces_nil hmembers, isSpaces_nil, by decide +kernel⟩

theorem isFramed_shutdownBody :
    IsStandard shutdownBody ∧ Prints printingSetup.launch ∧
      emitted (answered printingSetup 1048576 (run printingSetup [] (.start ())).state shutdownBody []).events =
        [⟨.int 1, .result .null⟩] ∧
      IsFramed ⟨.int 1, .result .null⟩ := by
  have hb : IsStandard shutdownBody := by
    have ht : shutdownBody = (shutdownRequest (.int 1)).render false := by decide +kernel
    exact ht ▸ (isStandard_render_iff _).2 (allDoubles_of_hasDouble rfl)
  have he : emitted (answered printingSetup 1048576 (run printingSetup [] (.start ())).state shutdownBody []).events =
      [⟨.int 1, .result .null⟩] := by
    decide +kernel
  exact ⟨hb, prints_printingSetup, he, isFramed_of_isStandard .default "linux" prints_printingSetup none
    (fun _ => Binary64.ofInt 0) (fun _ _ => []) () [] 1048576 hb [] _ (he ▸ List.mem_singleton.2 rfl)⟩

/-- Such an id is sent back as a word that the standard does not know. -/
theorem answered_hugeIdBody :
    IsStandard hugeIdBody ∧
      emitted (answered printingSetup 1048576 (.start ()) hugeIdBody []).events =
        [⟨.float (.infinite false), .result .null⟩] ∧
      (Framing.writeResponse ⟨.float (.infinite false), .result .null⟩).toOption = some (Framing.frameOf
        (Framing.asciiBytes "\x7b\"jsonrpc\": \"2.0\", \"id\": Infinity, \"result\": null\x7d")) ∧
      ¬ IsStandard "\x7b\"jsonrpc\": \"2.0\", \"id\": Infinity, \"result\": null\x7d" := by
  refine ⟨isStandard_hugeIdBody, by decide +kernel, by decide +kernel, ?_⟩
  have ht : Text.ofString "\x7b\"jsonrpc\": \"2.0\", \"id\": Infinity, \"result\": null\x7d" =
      (Json.record [("jsonrpc", Json.string "2.0"), ("id", .float (.infinite false)), ("result", .null)]).render
        false := by
    decide +kernel
  rw [ht, isStandard_render_iff, isFinite_record]
  rintro ⟨hid, -⟩
  cases hid with
  | float kind => cases kind

end Magnitudes

end Session

end LspEndpoint
