import LspEndpoint.Proofs.Json.Shown
import LspEndpoint.Proofs.Server.Reply
import LspEndpoint.Proofs.Session.Refinement

/-!
What a session can say. Every response to a payload can be written, and the session goes on after it, exactly if each of
its messages that the server heeds can be answered; one that cannot be answered ends the session with a fault.
-/
namespace LspEndpoint.Session

open Server Rpc

variable {σ : Type}

/-- What a payload with that value leads to, in that state. Its integers are short enough to be written. All that is to
be said to it can be written exactly if each message that the server heeds can be answered. If so, the session goes on or
exits as it is told, unless something is raised for a message; otherwise it ends with a fault of writing. Where all
answers can be shown, the messages that are heeded are those up to the first that is an exit or does not fit. -/
structure IsVoiced (setup : Setup σ) (limit : Int) (s : State σ) (raw : Text) (rest : Bytes) (v : Json) : Prop where
  shown : v.IsShown
  written : (∀ r ∈ emitted (process setup.unfailing v s).events, ∃ frame, Framing.writeResponse r = .ok frame) ↔
    ∀ m ∈ heeded setup.unfailing (flattened v) s, isAnswerable setup.serverInfo m
  goesOn : (∀ m ∈ heeded setup.unfailing (flattened v) s, isAnswerable setup.serverInfo m) →
    (answered setup limit s raw rest).next = .ok rest ∨
      (∃ code, (answered setup limit s raw rest).next = .error (.exit code)) ∨
      ∃ m ∈ flattened v, ∃ u r, Raises setup.unfailing u m r ∧
        (answered setup limit s raw rest).next = .error (.fault r.message)
  ends : (¬ ∀ m ∈ heeded setup.unfailing (flattened v) s, isAnswerable setup.serverInfo m) →
    ∃ e : Framing.WriteError, (answered setup limit s raw rest).next = .error (.fault e.message)
  heeds : setup.IsShown → heeded setup.unfailing (flattened v) s =
    (flattened v).takeWhile fun m => !isExit m && setup.fits m

theorem readPayload_of_toOption {limit : Int} {raw : Text} {v : Json} (h : (readPayload limit raw).toOption = some v) :
    readPayload limit raw = .ok v := by
  cases hr : readPayload limit raw with
  | ok w =>
    rw [hr] at h
    exact congrArg _ (Option.some.inj h)
  | error e =>
    rw [hr] at h
    cases h

theorem read_of_readPayload {limit : Int} {raw : Text} {v : Json} (h : readPayload limit raw = .ok v) :
    Json.read raw = .ok v := by
  unfold readPayload at h
  split at h
  · cases h
  · split at h
    · cases h
      assumption
    · cases h

theorem answered_of_read {limit : Int} {raw : Text} {v : Json} (h : readPayload limit raw = .ok v) (setup : Setup σ)
    (s : State σ) (rest : Bytes) : answered setup limit s raw rest = .ofStep (process setup v s) rest := by
  rw [answered, h]

theorem ofStep_next (step : Step σ) (rest : Bytes) : (Turn.ofStep step rest).next = match step.halt with
    | none => .ok rest
    | some h => .error (.ofHalt h) :=
  rfl

/-- Whatever was handled before, a payload that is read is voiced. -/
theorem isVoiced_of_read (c : Config) (platform : Text) {launch : σ → List Text → Answer × σ} (hl : Prints launch)
    (tracing : Option (Tracing σ)) (clock : Nat → Binary64) (account : σ → Fault → Text) (host : σ) (before : List Json)
    {limit : Int} {raw : Text} {v : Json} (hv : readPayload limit raw = .ok v) (rest : Bytes) :
    let setup := Setup.ofConfig c platform (Backend.reading Backend.empty) launch tracing clock account
    IsVoiced setup limit (run setup before (.start host)).state raw rest v := by
  intro setup
  have hs : setup.IsMute := ⟨rfl, hl⟩
  have hleave : ∀ host code, (setup.leave host code).1 := fun _ _ => rfl
  have hclosed := run_traceClosed setup host before
  generalize (run setup before (.start host)).state = s at hclosed
  have hwritten : (∀ r ∈ emitted (process setup.unfailing v s).events, r.isEncodable) ↔
      ∀ m ∈ heeded setup.unfailing (flattened v) s, isAnswerable setup.serverInfo m := by
    rw [process_eq_each]
    exact each_isEncodable hs hleave _ hclosed
  constructor
  case shown => exact Json.isShown_of_read (read_of_readPayload hv)
  case written =>
    refine Iff.trans ⟨fun h r hr => ?_, fun h r hr => ?_⟩ hwritten
    · obtain ⟨frame, hf⟩ := h r hr
      exact Response.isEncodable_of_writeResponse hf
    · obtain ⟨_, -, -, hf⟩ := Response.writeResponse_eq (h r hr)
      exact ⟨_, hf⟩
  case goesOn =>
    intro h
    have hsame : process setup v s = process setup.unfailing v s :=
      process_unfailing fun r hr => deliverFramed_eq_none.2 (hwritten.2 h r hr)
    have hopen : IsOpen setup.unfailing s := .inr hclosed
    have haccounts := each_accounts setup.unfailing (fun _ => rfl) (flattened v) hopen
    rw [answered_of_read hv, hsame, ofStep_next, process_eq_each]
    rcases haccounts.stops with hh | ⟨code, hh⟩ | ⟨m, hm, u, r, hraises, hh⟩
    · rw [hh]
      exact .inl rfl
    · rw [hh]
      exact .inr (.inl ⟨code, rfl⟩)
    · rw [hh]
      exact .inr (.inr ⟨m, hm, u, r, hraises, rfl⟩)
  case ends =>
    intro h
    obtain ⟨e, hhalt⟩ := each_undelivered hs hleave rfl (flattened v) hclosed h
    rw [answered_of_read hv, ofStep_next, process_eq_each, hhalt]
    exact ⟨e, rfl⟩
  case heeds =>
    exact fun hshown => heeded_eq_takeWhile hshown.unfailing (fun _ => rfl) hleave (flattened v) hclosed

section Surrogates

/-- A server whose programs all print the same. -/
def printingSetup : Setup Unit :=
  .ofConfig .default "linux" (Backend.reading Backend.empty) (fun _ _ => (.ofPrinted (.ok "done"), ())) none
    (fun _ => Binary64.ofInt 0) fun _ _ => []

theorem prints_printingSetup : Prints printingSetup.launch :=
  fun _ _ => ⟨.ok "done", rfl, fun t ht => by cases ht; decide⟩

/-- A request whose id is half of a surrogate pair. -/
def halfId : Text := "\x7b\"id\": \"\\ud800\", \"method\": \"shutdown\"\x7d"

def shutdownRequest (id : Json) : Json := .record [("id", id), ("method", Json.string "shutdown")]

theorem isVoiced_shutdownBody :
    readPayload 1048576 shutdownBody = .ok (shutdownRequest (.int 1)) ∧
      Prints printingSetup.launch ∧
      IsVoiced printingSetup 1048576 (run printingSetup [] (.start ())).state shutdownBody []
        (shutdownRequest (.int 1)) := by
  have hv : readPayload 1048576 shutdownBody = .ok (shutdownRequest (.int 1)) :=
    readPayload_of_toOption (by decide +kernel)
  exact ⟨hv, prints_printingSetup, isVoiced_of_read .default "linux" prints_printingSetup none
    (fun _ => Binary64.ofInt 0) (fun _ _ => []) () [] hv []⟩

/-- The response to such a request cannot be written, and the session ends with it. -/
theorem answered_halfId :
    readPayload 1048576 halfId = .ok (shutdownRequest (.text [CodePoint.ofNat 0xD800])) ∧
      emitted (process printingSetup.unfailing (shutdownRequest (.text [CodePoint.ofNat 0xD800]))
        (.start ())).events = [⟨.text [CodePoint.ofNat 0xD800], .result .null⟩] ∧
      (Framing.writeResponse ⟨.text [CodePoint.ofNat 0xD800], .result .null⟩).toOption = none ∧
      (answered printingSetup 1048576 (.start ()) halfId []).next = .error (.fault
        "'utf-8' codec can't encode character '\\ud800' in position 26: surrogates not allowed") := by
  have hv : readPayload 1048576 halfId = .ok (shutdownRequest (.text [CodePoint.ofNat 0xD800])) :=
    readPayload_of_toOption (by decide +kernel)
  have hhalt : (process printingSetup (shutdownRequest (.text [CodePoint.ofNat 0xD800]))
      (.start ())).halt.map Ending.ofHalt = some (.fault
        "'utf-8' codec can't encode character '\\ud800' in position 26: surrogates not allowed") := by
    decide +kernel
  obtain ⟨halt, hhalt, hending⟩ := Option.map_eq_some_iff.1 hhalt
  refine ⟨hv, by decide +kernel, by decide +kernel, ?_⟩
  rw [answered_of_read hv, ofStep_next, hhalt]
  exact congrArg _ hending

end Surrogates

end LspEndpoint.Session
