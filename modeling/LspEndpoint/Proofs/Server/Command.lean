import LspEndpoint.Proofs.Server.Verdict
import LspEndpoint.Proofs.Uri.FilePath

/-!
Who is to blame for a command that does not run. Params that do not name one document whose path is known are the
client's fault, and nothing is run for them; otherwise the open command is run once, with that path behind it, and a
fault can only be its own. A URI that cannot be split is taken for a fault of the server, though it is the client's.
-/
namespace LspEndpoint

namespace Command

/-- The params hold a command, a token, and a text as their one argument. -/
def Names (params : Json) (uri : Text) : Prop := ∃ p : ExecuteCommandParams, p.StandsIn params ∧ p.uri = uri

variable {params : Json} {uri : Text}

theorem Names.unique (h : Names params uri) {uri' : Text} (h' : Names params uri') : uri = uri' := by
  obtain ⟨p, hp, rfl⟩ := h
  obtain ⟨p', hp', rfl⟩ := h'
  have huri := hp.uri.symm.trans hp'.uri
  simpa using huri

/-- The document that is named decides. -/
theorem path_of_names (h : Names params uri) : path params = (Uri.toPath uri).mapError ofPathError := by
  obtain ⟨p, hp, rfl⟩ := h
  rw [path, (Params.executeCommand_reads.accepts params p).2 hp]
  dsimp only
  cases Uri.toPath p.uri <;> rfl

theorem path_of_unnamed (h : ∀ uri, ¬ Names params uri) : ∃ e, path params = .error (.refused e) := by
  obtain ⟨e, he⟩ := (Params.executeCommand_reads.rejects params).2 fun p hp => h p.uri ⟨p, hp, rfl⟩
  exact ⟨e, by rw [path, he]⟩

end Command

namespace Server

open Rpc Command

variable {σ : Type} {setup : Setup σ} {s : State σ} {id params : Json}

/-- The execution of a command blames the right party: the client for params that name no path, and then nothing is run;
otherwise only the program, which is run once and whose output is the result. The client is answered, unless what the
program comes to cannot be shown. -/
structure Blames (setup : Setup σ) (s : State σ) (id params : Json) : Prop where
  sends : (request setup id "workspace/executeCommand" params s).Sends setup
      (responseTo setup id "workspace/executeCommand" params s) ∨
    ∃ uri path, Names params uri ∧ Uri.toPath uri = .ok path ∧
      ¬ setup.Shows (setup.launch (begun setup id "workspace/executeCommand" params s).host
        (setup.openCommand ++ [path])).1 ∧ ∃ r, (request setup id "workspace/executeCommand" params s).Raises r
  client : (∀ uri path, Names params uri → Uri.toPath uri ≠ .ok path) →
    RefusesParams setup s id "workspace/executeCommand" params
  program : ∀ uri path, Names params uri → Uri.toPath uri = .ok path →
    deeds (request setup id "workspace/executeCommand" params s).events =
        [.launched (setup.openCommand ++ [path])] ∧
      ∀ output, (setup.launch (begun setup id "workspace/executeCommand" params s).host
          (setup.openCommand ++ [path])).1 = .result output →
        (responseTo setup id "workspace/executeCommand" params s).toJson =
          .ok (resultEnvelope id (.record [("result", output)]))
  fault : (responseTo setup id "workspace/executeCommand" params s).code? = some (-32603) →
    ∃ argv, deeds (request setup id "workspace/executeCommand" params s).events = [.launched argv] ∧
      ∀ output, (setup.launch (begun setup id "workspace/executeCommand" params s).host argv).1 ≠ .result output

section Execution

variable (id) (h : s.traceClosed = false) (hroom : setup.hasRoom params.depth)

include h hroom

theorem execution_refused {e : Params.Error} (hp : path params = .error (.refused e)) :
    RefusesParams setup s id "workspace/executeCommand" params ∧
      (request setup id "workspace/executeCommand" params s).Sends setup
        (responseTo setup id "workspace/executeCommand" params s) ∧
      (responseTo setup id "workspace/executeCommand" params s).reply = .error ⟨-32602, e.message, .null⟩ := by
  have hm : RequestMethod.ofText? "workspace/executeCommand" = some .executeCommand :=
    RequestMethod.ofText?_method .executeCommand
  have hr (u : State σ) : handled setup .executeCommand params u = .refused u e := by rw [handled, executed, hp]
  obtain ⟨-, -, hreply⟩ := request_handled h hroom id hm
  rw [hr] at hreply
  refine ⟨refusesParams_of_refused h hroom id hm hr, (request_sends_iff id h hroom hm).2 ?_, hreply⟩
  rw [hr]
  exact Outcome.isShown_refusal e

/-- A URI that cannot be split has no effect, and the client is told of a fault. -/
theorem execution_malformed {f : Fault} (hp : path params = .error (.faulty f)) :
    deeds (request setup id "workspace/executeCommand" params s).events = [] ∧
      (responseTo setup id "workspace/executeCommand" params s).reply =
        .error ⟨-32603, "internal error in method workspace/executeCommand", .null⟩ := by
  obtain ⟨-, hdeeds, hreply⟩ := request_handled h hroom id (RequestMethod.ofText?_method .executeCommand)
  rw [handled, executed, hp] at hdeeds hreply
  exact ⟨hdeeds, hreply⟩

/-- A path that is known is handed to the open command, and what that answers is answered. -/
theorem execution_launched {found : Text} (hp : path params = .ok found) :
    deeds (request setup id "workspace/executeCommand" params s).events =
        [.launched (setup.openCommand ++ [found])] ∧
      (responseTo setup id "workspace/executeCommand" params s).reply =
        (outcomeOf ((setup.launch (begun setup id "workspace/executeCommand" params s).host
          (setup.openCommand ++ [found])).1.map result)).told "workspace/executeCommand" := by
  obtain ⟨-, hdeeds, hreply⟩ := request_handled h hroom id (RequestMethod.ofText?_method .executeCommand)
  rw [handled, executed, hp] at hdeeds hreply
  exact ⟨hdeeds, hreply⟩

/-- What a program comes to that is run for a command is sent if it can be shown, and raises something otherwise. -/
theorem execution_sends_or {found : Text} (hp : path params = .ok found) :
    (request setup id "workspace/executeCommand" params s).Sends setup
        (responseTo setup id "workspace/executeCommand" params s) ∨
      (¬ setup.Shows (setup.launch (begun setup id "workspace/executeCommand" params s).host
          (setup.openCommand ++ [found])).1 ∧
        ∃ r, (request setup id "workspace/executeCommand" params s).Raises r) := by
  have hiff := request_sends_iff id h hroom (RequestMethod.ofText?_method .executeCommand)
  rw [handled, executed, hp] at hiff
  have hshows : _ ↔ setup.Shows _ := Outcome.isShown_outcomeOf ((setup.launch (begun setup id "workspace/executeCommand"
    params s).host (setup.openCommand ++ [found])).1.map result)
  rw [Setup.Shows, Answer.isNoted_map, Answer.isNamed_map] at hshows
  rcases (request_attended setup id "workspace/executeCommand" (.inr h) hroom).sends_or with hsends | ⟨r, hraises⟩
  · exact .inl hsends
  · exact .inr ⟨fun hs => (hiff.2 (hshows.2 hs)).not_raised r hraises.halt, r, hraises⟩

/-- Params that are refused blame the client, whichever of the reasons there is. -/
theorem blames_of_refused {e : Params.Error} (hp : path params = .error (.refused e))
    (hnone : ∀ uri found, Names params uri → Uri.toPath uri ≠ .ok found) : Blames setup s id params := by
  obtain ⟨hrefuses, hsends, hreply⟩ := execution_refused id h hroom hp
  refine ⟨.inl hsends, fun _ => hrefuses, fun uri found hn hfound => ?_, fun hcode => ?_⟩
  · exact absurd hfound (hnone uri found hn)
  · rw [Response.code?_of_error hreply] at hcode
    simp at hcode

/-- Params whose path is known blame the program or nobody. -/
theorem blames_of_resolved {uri found : Text} (hn : Names params uri) (hfound : Uri.toPath uri = .ok found) :
    Blames setup s id params := by
  have hp := path_of_names hn
  rw [hfound] at hp
  obtain ⟨hdeeds, hreply⟩ := execution_launched id h hroom hp
  have hsends := execution_sends_or id h hroom hp
  refine ⟨hsends.imp_right fun ⟨hs, hr⟩ => ⟨uri, found, hn, hfound, hs, hr⟩,
    fun hnone => absurd hfound (hnone uri found hn), fun uri' found' hn' hfound' => ?_, fun hcode => ?_⟩
  · rw [hn'.unique hn, hfound] at hfound'
    cases hfound'
    refine ⟨hdeeds, fun output ho => toJson_of_result ?_⟩
    rw [hreply, ho]
    rfl
  · refine ⟨_, hdeeds, fun output ho => ?_⟩
    rw [ho] at hreply
    rw [Response.code?_eq_none] at hcode
    · cases hcode
    · rw [hreply]
      exact nofun

/-- The right party is blamed if the URI of the document, where one is named, can be split. -/
theorem blames_of_split (hs : ∀ uri, Names params uri → ∀ e, Uri.split uri ≠ .error e) :
    Blames setup s id params := by
  by_cases hn : ∃ uri, Names params uri
  · obtain ⟨uri, hn⟩ := hn
    cases hpath : Uri.toPath uri with
    | ok found => exact blames_of_resolved id h hroom hn hpath
    | error e =>
      cases e with
      | malformed e => exact absurd (Uri.toPath_eq_malformed.1 hpath) (hs uri hn e)
      | rejected e =>
        have hp := path_of_names hn
        rw [hpath] at hp
        refine blames_of_refused id h hroom hp fun uri' found hn' hfound => ?_
        rw [hn'.unique hn, hpath] at hfound
        cases hfound
  · have hnone : ∀ uri, ¬ Names params uri := fun uri hu => hn ⟨uri, hu⟩
    obtain ⟨e, hp⟩ := path_of_unnamed hnone
    exact blames_of_refused id h hroom hp fun uri _ hu => absurd hu (hnone uri)

/-- Where the URI cannot be split nothing is run, and still the client is told of a fault of the server. -/
theorem not_blames_of_unsplit {uri : Text} (hn : Names params uri) {e : Uri.Error} (he : Uri.split uri = .error e) :
    ¬ Blames setup s id params := by
  intro hb
  have hp := path_of_names hn
  rw [Uri.toPath_eq_malformed.2 he] at hp
  obtain ⟨hdeeds, hreply⟩ := execution_malformed id h hroom hp
  obtain ⟨argv, hlaunched, -⟩ := hb.fault (Response.code?_of_error hreply)
  rw [hdeeds] at hlaunched
  cases hlaunched

end Execution

/-- Where the trace has no room for the params nobody is blamed, and nothing is run. -/
theorem not_blames_of_deep (id : Json) (hroom : setup.hasRoom params.depth = false) : ¬ Blames setup s id params := by
  intro hb
  have hraises := request_of_deep (s := s) id (Text.ofString "workspace/executeCommand") hroom
  rcases hb.sends with hs | ⟨uri, path, hn, hp, -⟩
  · rw [hraises] at hs
    exact hs.not_raised .tooDeep rfl
  · have hdeeds := (hb.program uri path hn hp).1
    rw [hraises] at hdeeds
    cases hdeeds

/-- Whatever came before, the execution of a command blames the right party exactly if the trace has room for the params
and no document is named by a URI that cannot be split. -/
theorem execution_blames_iff (setup : Setup σ) (host : σ) (past : List Json) (id params : Json) :
    Blames setup (stateAfter setup past (.start host)) id params ↔
      setup.hasRoom params.depth ∧ ∀ uri, Names params uri → ∀ e, Uri.split uri ≠ .error e := by
  have h : (stateAfter setup past (.start host)).traceClosed = false := stateAfter_traceClosed setup past _
  cases hroom : setup.hasRoom params.depth with
  | false => exact iff_of_false (not_blames_of_deep id hroom) nofun
  | true =>
    constructor
    · exact fun hb => ⟨rfl, fun uri hn e he => not_blames_of_unsplit id h hroom hn he hb⟩
    · exact fun hs => blames_of_split id h hroom hs.2

/-- The params of a command for a document whose URI has a bracket that is never closed. -/
def strayBracket : Json :=
  .record [("command", Json.string "racket"), ("arguments", .array [Json.string "//["]), ("workDoneToken", .int 1)]

theorem not_blames_strayBracket :
    Names strayBracket "//[" ∧ Uri.toPath "//[" = .error (.malformed .unbalanced) ∧
      deeds (request bare (.int 7) "workspace/executeCommand" strayBracket (.start ())).events = [] ∧
      (responseTo bare (.int 7) "workspace/executeCommand" strayBracket (.start ())).toJson =
        .ok (errorEnvelope (.int 7) (-32603) "internal error in method workspace/executeCommand" .null) ∧
      ¬ Blames bare (.start ()) (.int 7) strayBracket := by
  have hn : Names strayBracket "//[" := ⟨⟨Json.string "racket", "//[", .int 1⟩, ⟨rfl, rfl, rfl⟩, rfl⟩
  have hu : Uri.split "//[" = .error .unbalanced := rfl
  have hp : path strayBracket = .error (.faulty (.uri .unbalanced)) := rfl
  have hclosed : (State.start ()).traceClosed = false := rfl
  have hroom : bare.hasRoom strayBracket.depth := rfl
  obtain ⟨hdeeds, hreply⟩ := execution_malformed (.int 7) hclosed hroom hp
  exact ⟨hn, Uri.toPath_eq_malformed.2 hu, hdeeds, toJson_of_error hreply,
    not_blames_of_unsplit (.int 7) rfl rfl hn hu⟩

/-- A file that a URI locates is opened: the open command is run with the path of the file, and with nothing else. -/
theorem executed_of_locates (setup : Setup σ) (s : State σ) {uri path : Text} (h : Uri.Locates uri path)
    (hn : Names params uri) :
    Uri.toPath uri = .ok path ∧
      (executed setup params s).events = [.launched (setup.openCommand ++ [path])] ∧
      (executed setup params s).outcome =
        outcomeOf ((setup.launch s.host (setup.openCommand ++ [path])).1.map fun output =>
          .record [("result", output)]) := by
  have hpath := Uri.toPath_of_locates h
  have hp := path_of_names hn
  rw [hpath] at hp
  rw [executed, hp]
  exact ⟨hpath, rfl, rfl⟩

/-- The params of a command for a file below the root, whose name has a letter beyond ASCII and a space. -/
def spacedFile : Json :=
  .record [("command", Json.string "racket"), ("arguments", .array [Json.string "FiLe://localhost//%C3%a9%20b"]),
    ("workDoneToken", .null)]

theorem locates_spacedFile : Uri.Locates "FiLe://localhost//%C3%a9%20b" "//é b" where
  absolute := ⟨"/é b", by decide⟩
  isScalar := by decide
  written := by
    refine ⟨"FiLe", "localhost", "//%C3%a9%20b", by decide, by decide, .inr rfl, ?_⟩
    have hbytes : (Text.ofString "//é b").flatMap CodePoint.utf8 = [0x2F, 0x2F, 0xC3, 0xA9, 0x20, 0x62] := by
      decide
    rw [hbytes]
    exact .plain (by decide) (.plain (by decide) (.escaped (by decide) (by decide) (.escaped (by decide)
      (by decide) (.escaped (by decide) (by decide) (.plain (by decide) .nil)))))

theorem executed_spacedFile :
    Uri.Locates "FiLe://localhost//%C3%a9%20b" "//é b" ∧ Names spacedFile "FiLe://localhost//%C3%a9%20b" ∧
      Uri.toPath "FiLe://localhost//%C3%a9%20b" = .ok "//é b" ∧
      (executed bare spacedFile (.start ())).events = [.launched [Text.ofString "//é b"]] := by
  have hn : Names spacedFile "FiLe://localhost//%C3%a9%20b" :=
    ⟨⟨Json.string "racket", "FiLe://localhost//%C3%a9%20b", .null⟩, ⟨rfl, rfl, rfl⟩, rfl⟩
  obtain ⟨hpath, hevents, -⟩ := executed_of_locates bare (.start ()) locates_spacedFile hn
  exact ⟨locates_spacedFile, hn, hpath, hevents⟩

end Server

end LspEndpoint
