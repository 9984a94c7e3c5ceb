import LspEndpoint.File.Standard
import LspEndpoint.Proofs.Config.Reading
import LspEndpoint.Proofs.Config.Reference
import LspEndpoint.Session

/-!
What is said about settings that are wrong. The user is told of a section, a command and a time that are none, if these
can be shown and nothing that comes before is wrong. Nothing is expected to be wrong with the other settings: what
cannot be read there, and what cannot be shown, ends the program as a fault.
-/
namespace LspEndpoint

namespace Config

/-- If anything is wrong, the user is told. -/
def Reports {α : Type} (x : Setting α) : Prop := ∀ err, x = .error err → err.isReported

/-- What can be written for a file: nothing, or a text that refers only to names with a native form. -/
inductive IsFileName : Datum → Prop
  | empty {v : Datum} (h : v.isEmpty) : IsFileName v
  | text {t : Text} {names : List Text} (refers : Environment.Refers t names)
      (native : ∀ name ∈ names, name.isNative) : IsFileName (.text t)

/-- What can be written for a limit: a truth value, a finite number, or an integer by its digits. -/
inductive IsLimit : Datum → Prop
  | bool (b : Bool) : IsLimit (.bool b)
  | int (n : Int) : IsLimit (.int n)
  | float {x : Binary64} (h : x.isFinite) : IsLimit (.float x)
  | text {t : Text} {n : Int} (h : Integer.read t = .ok n) : IsLimit (.text t)
  | bytes {b : Bytes} {n : Int} (h : Integer.read b.decodeAscii = .ok n) : IsLimit (.bytes b)

/-- Settings that can be read, or of which the first that is wrong is one that the user is told about. -/
inductive IsCovered (all : Section) : Prop
  | malformed (h : ¬ IsSectioned all)
  | command (version : (Key.version.value all).isShown)
      (wrong : ∀ c, ¬ CommandReads (Key.openCommand.value all) c) (shown : (Key.openCommand.value all).isShown)
  | time (version : (Key.version.value all).isShown) (command : ∃ c, CommandReads (Key.openCommand.value all) c)
      (wrong : ¬ IsTime (Key.timeout.value all)) (shown : (Key.timeout.value all).isShown)
  | sound (version : (Key.version.value all).isShown) (command : ∃ c, CommandReads (Key.openCommand.value all) c)
      (time : ∃ x, TimeReads (Key.timeout.value all) x) (file : IsFileName (Key.traceFile.value all))
      (traceLimit : IsLimit (Key.traceLimit.value all)) (maxMessageSize : IsLimit (Key.maxMessageSize.value all))

section Readers

variable {α β : Type} {e : Environment} {v : Datum}

theorem reports_pure (a : α) : Reports (pure a : Setting α) := fun _ h => nomatch h

theorem reports_error_iff {err : Error} : Reports (.error err : Setting α) ↔ err.isReported :=
  ⟨fun h => h err rfl, fun h _ he => Except.error.inj he ▸ h⟩

theorem reports_refuse_iff {error : Datum → Error} (h : (error v).isReported) :
    Reports (.error (refuse error v) : Setting α) ↔ v.isShown := by
  rw [reports_error_iff, refuse]
  cases hv : v.isShown with
  | true => simpa using h
  | false => simp [Error.isReported]

/-- What has the property is read, and of anything else the user is told nothing. -/
def ReadsSilently (x : Setting α) (P : Prop) : Prop :=
  (P ∧ ∃ a, x = .ok a) ∨ ¬ P ∧ ∃ err, x = .error err ∧ err.isReported = false

theorem ReadsSilently.reports_bind {x : Setting α} {f : α → Setting β} {P Q : Prop} (h : ReadsSilently x P)
    (hf : ∀ a, Reports (f a) ↔ Q) : Reports (x >>= f) ↔ P ∧ Q := by
  rcases h with ⟨hp, a, rfl⟩ | ⟨hn, err, rfl, herr⟩
  · exact (hf a).trans ⟨fun h => ⟨hp, h⟩, fun h => h.2⟩
  · refine iff_of_false (fun h => ?_) fun h => hn h.1
    have hreported := h err rfl
    rw [herr] at hreported
    cases hreported

theorem readVersion_readsSilently (v : Datum) : ReadsSilently (readVersion v) v.isShown := by
  rw [readVersion]
  cases v.isShown with
  | true => exact .inl ⟨rfl, _, rfl⟩
  | false => exact .inr ⟨Bool.false_ne_true, _, rfl, rfl⟩

theorem readTraceFile_readsSilently (e : Environment) (v : Datum) :
    ReadsSilently (readTraceFile e v) (IsFileName v) := by
  unfold readTraceFile
  cases hempty : v.isEmpty with
  | true => exact .inl ⟨.empty hempty, [], rfl⟩
  | false =>
    have hn (h : ∀ t, v ≠ .text t) : ¬ IsFileName v := fun hv => by
      cases hv with
      | empty h => cases hempty.symm.trans h
      | text => exact h _ rfl
    cases v with
    | text t =>
      obtain ⟨names, hnames⟩ := Environment.exists_refers t
      have hiff := Environment.expand_isOk_iff (e := e) hnames
      cases hexpand : e.expand t with
      | ok u => exact .inl ⟨.text hnames (hiff.1 ⟨u, hexpand⟩), u, by simp [hexpand, Except.mapError]⟩
      | error err =>
        refine .inr ⟨fun hv => ?_, .unencodable err, by simp [hexpand, Except.mapError], rfl⟩
        cases hv with
        | empty h => cases hempty.symm.trans h
        | text refers native =>
          obtain ⟨u, hu⟩ := (Environment.expand_isOk_iff refers).2 native
          cases hexpand.symm.trans hu
    | bytes b => exact .inr ⟨hn fun _ h => (nomatch h), _, rfl, rfl⟩
    | _ => exact .inr ⟨hn fun _ h => (nomatch h), _, rfl, rfl⟩

theorem readInteger_readsSilently (v : Datum) : ReadsSilently (readInteger v) (IsLimit v) := by
  cases v with
  | bool b => exact .inl ⟨.bool b, _, rfl⟩
  | int n => exact .inl ⟨.int n, _, rfl⟩
  | float x =>
    cases x with
    | nan => exact .inr ⟨fun h => (nomatch h), _, rfl, rfl⟩
    | infinite negative => exact .inr ⟨fun h => (nomatch h), _, rfl, rfl⟩
    | finite negative rank => exact .inl ⟨.float rfl, _, rfl⟩
  | text t =>
    cases h : Integer.read t with
    | ok n => exact .inl ⟨.text h, n, by rw [readInteger, h]; rfl⟩
    | error err =>
      refine .inr ⟨fun hl => ?_, .integer err, by rw [readInteger, h]; rfl, rfl⟩
      cases hl with
      | text h' => cases h.symm.trans h'
  | bytes b =>
    cases h : Integer.read b.decodeAscii with
    | ok n => exact .inl ⟨.bytes h, n, by rw [readInteger, h]⟩
    | error err =>
      have hn : ¬ IsLimit (.bytes b) := fun hl => by
        cases hl with
        | bytes h' => cases h.symm.trans h'
      cases err with
      | malformed t => exact .inr ⟨hn, .malformedBytes b, by rw [readInteger, h], rfl⟩
      | tooManyDigits n => exact .inr ⟨hn, .integer (.tooManyDigits n), by rw [readInteger, h], rfl⟩
  | _ => exact .inr ⟨fun h => (nomatch h), _, rfl, rfl⟩

/-- What is no command is told of, if it can be shown. -/
theorem reports_readOpenCommand_bind {f : Option (List Text) → Setting β} {Q : Prop} (hf : ∀ c, Reports (f c) ↔ Q) :
    Reports (readOpenCommand v >>= f) ↔
      ((∃ c, CommandReads v c) ∧ Q) ∨ (∀ c, ¬ CommandReads v c) ∧ v.isShown := by
  rcases readOpenCommand_cases v with ⟨c, hc⟩ | ⟨hn, he⟩
  · rw [hc.eq_ok]
    refine (hf c).trans ⟨fun h => .inl ⟨⟨c, hc⟩, h⟩, ?_⟩
    rintro (h | h)
    · exact h.2
    · exact absurd hc (h.1 c)
  · rw [he]
    refine Iff.trans (reports_refuse_iff rfl) ⟨fun h => .inr ⟨hn, h⟩, ?_⟩
    rintro (⟨⟨c, hc⟩, -⟩ | h)
    · exact absurd hc (hn c)
    · exact h.2

/-- What is no time is told of, if it can be shown; what is one but too large is not. -/
theorem reports_readTimeout_bind {f : Option Binary64 → Setting β} {Q : Prop} (hf : ∀ x, Reports (f x) ↔ Q) :
    Reports (readTimeout v >>= f) ↔ ((∃ x, TimeReads v x) ∧ Q) ∨ ¬ IsTime v ∧ v.isShown := by
  rcases readTimeout_cases v with ⟨x, hx⟩ | ⟨ht, hn, he⟩ | ⟨hn, he⟩
  · rw [hx.eq_ok]
    refine (hf x).trans ⟨fun h => .inl ⟨⟨x, hx⟩, h⟩, ?_⟩
    rintro (h | h)
    · exact h.2
    · exact absurd hx.isTime h.1
  · rw [he]
    refine iff_of_false (fun h => ?_) ?_
    · cases h _ rfl
    · rintro (⟨⟨x, hx⟩, -⟩ | h)
      · exact hn x hx
      · exact h.1 ht
  · rw [he]
    refine Iff.trans (reports_refuse_iff rfl) ⟨fun h => .inr ⟨hn, h⟩, ?_⟩
    rintro (⟨⟨x, hx⟩, -⟩ | h)
    · exact absurd hx.isTime hn
    · exact h.2

end Readers

/-- The user is told of everything that is wrong with settings exactly if they are covered. -/
theorem reports_ofMapping_iff (e : Environment) (all : Section) : Reports (ofMapping e all) ↔ IsCovered all := by
  by_cases h : IsSectioned all
  · -- The readers are taken in their order: each but the first decides only if those before it succeed.
    rw [ofMapping_of_sectioned e h,
      (readVersion_readsSilently _).reports_bind fun _ =>
        reports_readOpenCommand_bind fun _ => reports_readTimeout_bind fun _ =>
          (readTraceFile_readsSilently e _).reports_bind fun _ =>
            (readInteger_readsSilently _).reports_bind fun _ =>
              (readInteger_readsSilently _).reports_bind fun _ => iff_of_true (reports_pure _) trivial]
    constructor
    · rintro ⟨hversion, ⟨hcommand, ⟨htime, hfile, hlimit, hsize, -⟩ | ⟨hwrong, hshown⟩⟩ | ⟨hwrong, hshown⟩⟩
      · exact .sound hversion hcommand htime hfile hlimit hsize
      · exact .time hversion hcommand hwrong hshown
      · exact .command hversion hwrong hshown
    · rintro (hn | ⟨hversion, hwrong, hshown⟩ | ⟨hversion, hcommand, hwrong, hshown⟩ |
        ⟨hversion, hcommand, htime, hfile, hlimit, hsize⟩)
      · exact absurd h hn
      · exact ⟨hversion, .inr ⟨hwrong, hshown⟩⟩
      · exact ⟨hversion, .inl ⟨hcommand, .inr ⟨hwrong, hshown⟩⟩⟩
      · exact ⟨hversion, .inl ⟨hcommand, .inl ⟨htime, hfile, hlimit, hsize, trivial⟩⟩⟩
  · obtain ⟨name, -, he⟩ := ofMapping_of_malformed e h
    rw [he]
    exact iff_of_true (reports_error_iff.2 rfl) (.malformed h)

/-- A mapping in which a limit is written as nothing. -/
def nullLimit : Section := [(.text "trace", .map [(.text "max_string_length", .null)])]

theorem not_reports_nullLimit :
    ofMapping bareEnvironment nullLimit = .error (.notNumber "NoneType") ∧
      (Error.notNumber "NoneType").isReported = false ∧ ¬ Reports (ofMapping bareEnvironment nullLimit) := by
  refine ⟨rfl, rfl, fun h => ?_⟩
  cases h (.notNumber "NoneType") rfl

end Config

namespace Session

open Config

variable {e : Environment} {files : File.System} {arguments : List Text} {path : Text}

theorem start_of_unread {err : Config.Error} (hr : CommandLine.read arguments = .ok (.serve (some path)))
    (hl : load e files path = .error err) :
    start e files arguments =
      if err.isReported then .done [] ("Error loading config: " ++ err.message ++ "\n") 1 else .faulty [] err := by
  simp only [start, hr, settings, hl, faultCode]

/-- Of a file that holds a mapping, either a server starts with its settings, or the user is told on the error stream
what is wrong with them and the program ends with status one, exactly if the settings are covered; otherwise the program
ends with a fault that it did not expect. -/
theorem start_reports_iff (e : Environment) (all : Section) :
    (Reports (ofMapping e all) ↔ IsCovered all) ∧
      ∀ files arguments path, CommandLine.read arguments = .ok (.serve (some path)) →
        load e files path = ofMapping e all →
          (IsCovered all → (∃ c, ofMapping e all = .ok c) ∨ ∃ err, ofMapping e all = .error err ∧
            start e files arguments = .done [] ("Error loading config: " ++ err.message ++ "\n") 1) ∧
          (¬ IsCovered all → ∃ err, ofMapping e all = .error err ∧ start e files arguments = .faulty [] err) := by
  have hiff := reports_ofMapping_iff e all
  refine ⟨hiff, fun files arguments path hr hl => ?_⟩
  rw [← hiff]
  cases hm : ofMapping e all with
  | ok c => exact ⟨fun _ => .inl ⟨c, rfl⟩, fun hn => absurd (reports_pure c) hn⟩
  | error err =>
    have hs := start_of_unread hr (hl.trans hm)
    rw [reports_error_iff]
    refine ⟨fun h => .inr ⟨err, rfl, ?_⟩, fun h => ⟨err, rfl, ?_⟩⟩
    · rw [hs, if_pos h]
    · rw [hs, if_neg h]

/-- A system with one file of settings, which has a truth value where a section belongs. -/
def yesFiles : File.System where
  entries := [(File.workingPlace, .directory), (File.placeOf "tmp/work/s.yaml", .file "trace: yes")]
  here := File.workingPlace

def yesMapping : Section := [(.text "trace", .bool true)]

/-- Whether it is complained that this is no section. -/
def isComplaintAbout (name : String) : Setting Config → Bool
  | .error (.sectionNotMapping other) => other == name
  | _ => false

theorem eq_of_isComplaintAbout {name : String} {x : Setting Config} (h : isComplaintAbout name x) :
    x = .error (.sectionNotMapping name) := by
  unfold isComplaintAbout at h
  split at h
  · rw [eq_of_beq h]
  · cases h

theorem start_reports_yesFiles :
    CommandLine.read ["-c", "s.yaml"] = .ok (.serve (some "s.yaml")) ∧
      load bareEnvironment yesFiles "s.yaml" = ofMapping bareEnvironment yesMapping ∧ IsCovered yesMapping ∧
      start bareEnvironment yesFiles ["-c", "s.yaml"] =
        .done [] "Error loading config: 'trace' must be a mapping\n" 1 := by
  have hr : CommandLine.read ["-c", "s.yaml"] = .ok (.serve (some "s.yaml")) := rfl
  have hm : ofMapping bareEnvironment yesMapping = .error (.sectionNotMapping "trace") := rfl
  have hl : load bareEnvironment yesFiles "s.yaml" = ofMapping bareEnvironment yesMapping :=
    (eq_of_isComplaintAbout (by decide +kernel)).trans hm.symm
  obtain ⟨hiff, hstart⟩ := start_reports_iff bareEnvironment yesMapping
  have hcovered : IsCovered yesMapping := hiff.1 (by rw [hm]; exact reports_error_iff.2 rfl)
  rcases (hstart _ _ _ hr hl).1 hcovered with ⟨c, hc⟩ | ⟨err, herr, hs⟩
  · cases hm.symm.trans hc
  · cases hm.symm.trans herr
    exact ⟨hr, hl, hcovered, hs⟩

end Session

end LspEndpoint
