import LspEndpoint.Config.Basic
import LspEndpoint.Proofs.Result

/-!
How settings are read. Each has its place in one of the sections, and a default for when nothing is written there. A
section is malformed if it is no map and does not count as absent either, and nothing is read then; otherwise settings
are what is written at their places makes of them, and all of them have to be read.
-/
namespace LspEndpoint.Config

/-- The settings. -/
inductive Key
  | name
  | version
  | openCommand
  | timeout
  | traceFile
  | traceLimit
  | maxMessageSize

namespace Key

/-- The section of a setting, and its name there. -/
def place : Key → String × String
  | name => ("server", "name")
  | version => ("server", "version")
  | openCommand => ("commands", "open_command")
  | timeout => ("commands", "timeout")
  | traceFile => ("trace", "log_file")
  | traceLimit => ("trace", "max_string_length")
  | maxMessageSize => ("transport", "max_message_size")

/-- What stands for a setting that is not written. -/
def standard : Key → Datum
  | name => defaultName
  | version => .text defaultVersion
  | openCommand | timeout | traceFile => .null
  | traceLimit => .int defaultTraceLimit
  | maxMessageSize => .int Rpc.defaultMaxSize

/-- What is written for a setting, if anything is. -/
def written? (k : Key) (all : Section) : Option Datum :=
  match all.get? k.place.1 with
  | some (.map entries) => Section.get? entries k.place.2
  | _ => none

def value (k : Key) (all : Section) : Datum := (k.written? all).getD k.standard

end Key

/-- A section that is there, is no map and does not count as absent. -/
def IsMalformed (all : Section) (name : String) : Prop :=
  ∃ v, all.get? name = some v ∧ (∀ entries, v ≠ .map entries) ∧ v.isEmpty = false

/-- No section of a setting is malformed. -/
def IsSectioned (all : Section) : Prop := ∀ k : Key, ¬ IsMalformed all k.place.1

section Sections

variable {all : Section} {name : String}

theorem readSection_of_malformed (h : IsMalformed all name) :
    readSection all name = .error (.sectionNotMapping name) := by
  obtain ⟨v, hv, hmap, hempty⟩ := h
  rw [readSection, Section.getD, hv, Option.getD_some]
  cases v with
  | map entries => exact absurd rfl (hmap entries)
  | _ => simp only [hempty, Bool.false_eq_true, if_false]

/-- A section that is not malformed is read, and the settings in it are found there. -/
theorem readSection_eq_ok (h : ¬ IsMalformed all name) :
    ∃ entries, readSection all name = .ok entries ∧
      ∀ k : Key, k.place.1 = name → entries.getD k.place.2 k.standard = k.value all := by
  rw [readSection, Section.getD]
  cases hv : all.get? name with
  | none => exact ⟨[], rfl, fun k hk => by rw [Key.value, Key.written?, hk, hv]; rfl⟩
  | some v =>
    have hempty : (∀ entries, v ≠ .map entries) → v.isEmpty = true := fun hmap =>
      Bool.of_not_eq_false fun hempty => h ⟨v, hv, hmap, hempty⟩
    cases v with
    | map entries => exact ⟨entries, rfl, fun k hk => by rw [Key.value, Key.written?, hk, hv]; rfl⟩
    | _ =>
      refine ⟨[], ?_, fun k hk => by rw [Key.value, Key.written?, hk, hv]; rfl⟩
      simp only [Option.getD_some, hempty (fun _ h => nomatch h), if_true]

/-- Of malformed sections the first one is complained about. -/
theorem ofMapping_of_malformed (e : Environment) (h : ¬ IsSectioned all) :
    ∃ name, IsMalformed all name ∧ ofMapping e all = .error (.sectionNotMapping name) := by
  by_cases hserver : IsMalformed all "server"
  · exact ⟨_, hserver, by rw [ofMapping, readSection_of_malformed hserver]; rfl⟩
  obtain ⟨server, hs, -⟩ := readSection_eq_ok hserver
  by_cases hcommands : IsMalformed all "commands"
  · exact ⟨_, hcommands, by rw [ofMapping, hs, readSection_of_malformed hcommands]; rfl⟩
  obtain ⟨commands, hc, -⟩ := readSection_eq_ok hcommands
  by_cases htrace : IsMalformed all "trace"
  · exact ⟨_, htrace, by rw [ofMapping, hs, hc, readSection_of_malformed htrace]; rfl⟩
  obtain ⟨trace, ht, -⟩ := readSection_eq_ok htrace
  by_cases htransport : IsMalformed all "transport"
  · exact ⟨_, htransport, by rw [ofMapping, hs, hc, ht, readSection_of_malformed htransport]; rfl⟩
  · refine absurd (fun k => ?_) h
    cases k <;> assumption

/-- Where no section is malformed, the settings are read one after the other, each from its place. -/
theorem ofMapping_of_sectioned (e : Environment) (h : IsSectioned all) :
    ofMapping e all = (do
      let version ← readVersion (Key.version.value all)
      let openCommand ← readOpenCommand (Key.openCommand.value all)
      let timeout ← readTimeout (Key.timeout.value all)
      let traceFile ← readTraceFile e (Key.traceFile.value all)
      let traceLimit ← readInteger (Key.traceLimit.value all)
      let maxMessageSize ← readInteger (Key.maxMessageSize.value all)
      return ⟨Key.name.value all, version, openCommand, timeout, traceFile, traceLimit, maxMessageSize⟩) := by
  obtain ⟨server, hs, hserver⟩ := readSection_eq_ok (h .name)
  obtain ⟨commands, hc, hcommands⟩ := readSection_eq_ok (h .timeout)
  obtain ⟨trace, ht, htrace⟩ := readSection_eq_ok (h .traceFile)
  obtain ⟨transport, hp, htransport⟩ := readSection_eq_ok (h .maxMessageSize)
  rw [← hserver .name rfl, ← hserver .version rfl, ← hcommands .openCommand rfl, ← hcommands .timeout rfl,
    ← htrace .traceFile rfl, ← htrace .traceLimit rfl, ← htransport .maxMessageSize rfl]
  simp only [Key.place] at hs hc ht hp
  rw [ofMapping, hs, hc, ht, hp]
  rfl

end Sections

/-- Settings that are read from a mapping, each from what is written at its place. -/
structure IsReadFrom (e : Environment) (all : Section) (c : Config) : Prop where
  isSectioned : IsSectioned all
  name : c.name = Key.name.value all
  version : readVersion (Key.version.value all) = .ok c.version
  openCommand : readOpenCommand (Key.openCommand.value all) = .ok c.openCommand
  timeout : readTimeout (Key.timeout.value all) = .ok c.timeout
  traceFile : readTraceFile e (Key.traceFile.value all) = .ok c.traceFile
  traceLimit : readInteger (Key.traceLimit.value all) = .ok c.traceLimit
  maxMessageSize : readInteger (Key.maxMessageSize.value all) = .ok c.maxMessageSize

theorem ofMapping_eq_ok {e : Environment} {all : Section} {c : Config} :
    ofMapping e all = .ok c ↔ IsReadFrom e all c := by
  by_cases h : IsSectioned all
  · rw [ofMapping_of_sectioned e h]
    simp only [bind_eq_ok]
    constructor
    · rintro ⟨_, hversion, _, hcommand, _, htimeout, _, hfile, _, hlimit, _, hsize, hc⟩
      obtain rfl := Except.ok.inj hc
      exact ⟨h, rfl, hversion, hcommand, htimeout, hfile, hlimit, hsize⟩
    · rintro ⟨-, hname, hversion, hcommand, htimeout, hfile, hlimit, hsize⟩
      exact ⟨_, hversion, _, hcommand, _, htimeout, _, hfile, _, hlimit, _, hsize, by rw [← hname]; rfl⟩
  · refine ⟨fun hc => ?_, fun hc => absurd hc.isSectioned h⟩
    obtain ⟨name, -, hname⟩ := ofMapping_of_malformed e h
    cases hname.symm.trans hc

section Values

/-- What can be written for a command, and what it is read as: a text is cut at its blanks, even if nothing is left of
it, and a list of texts is taken as it is, unless it is empty. -/
inductive CommandReads : Datum → Option (List Text) → Prop
  | null : CommandReads .null none
  | text (t : Text) : CommandReads (.text t) (some t.words)
  | list {ts : List Text} (h : ts ≠ []) : CommandReads (.list (ts.map .text)) (some ts)

/-- What can be written for a time: a number that is not at most zero. -/
inductive IsTime : Datum → Prop
  | null : IsTime .null
  | int {n : Int} (h : 0 < n) : IsTime (.int n)
  | float {x : Binary64} (h : x.atMostZero = false) : IsTime (.float x)

/-- What a time is read as, if there is a double near enough to it. -/
inductive TimeReads : Datum → Option Binary64 → Prop
  | null : TimeReads .null none
  | int {n : Int} (h : 0 < n) (fits : ∀ negative, Binary64.ofInt n ≠ .infinite negative) :
      TimeReads (.int n) (some (Binary64.ofInt n))
  | float {x : Binary64} (h : x.atMostZero = false) : TimeReads (.float x) (some x)

theorem texts?_map_text (ts : List Text) : texts? (ts.map .text) = some ts := by
  induction ts with
  | nil => rfl
  | cons t rest ih => rw [List.map_cons, texts?, ih, Option.map_some]

theorem eq_map_text_of_texts? {items : List Datum} {ts : List Text} (h : texts? items = some ts) :
    items = ts.map .text := by
  induction items generalizing ts with
  | nil =>
    cases h
    rfl
  | cons v rest ih =>
    cases v with
    | text t =>
      obtain ⟨ts', hrest, rfl⟩ := Option.map_eq_some_iff.1 h
      rw [ih hrest, List.map_cons]
    | _ => cases h

theorem CommandReads.eq_ok {v : Datum} {c : Option (List Text)} (h : CommandReads v c) :
    readOpenCommand v = .ok c := by
  cases h with
  | null => rfl
  | text t => rfl
  | @list ts hne =>
    obtain ⟨t, rest, rfl⟩ := List.exists_cons_of_ne_nil hne
    have htexts := texts?_map_text (t :: rest)
    rw [List.map_cons] at htexts ⊢
    simp only [readOpenCommand, htexts]

/-- What cannot be read as a command is complained about. -/
theorem readOpenCommand_cases (v : Datum) :
    (∃ c, CommandReads v c) ∨
      (∀ c, ¬ CommandReads v c) ∧ readOpenCommand v = .error (refuse .openCommand v) := by
  cases v with
  | null => exact .inl ⟨_, .null⟩
  | text t => exact .inl ⟨_, .text t⟩
  | list items =>
    by_cases h : ∃ ts, ts ≠ [] ∧ items = ts.map .text
    · obtain ⟨ts, hne, rfl⟩ := h
      exact .inl ⟨_, .list hne⟩
    · refine .inr ⟨fun c hc => ?_, ?_⟩
      · cases hc with
        | list hne => exact h ⟨_, hne, rfl⟩
      · simp only [readOpenCommand]
        split
        · rename_i v rest ts hts
          have heq := eq_map_text_of_texts? hts
          refine absurd ⟨ts, ?_, heq⟩ h
          rintro rfl
          cases heq
        · rfl
  | _ => exact .inr ⟨fun c hc => (nomatch hc), rfl⟩

theorem readOpenCommand_eq_ok {v : Datum} {c : Option (List Text)} :
    readOpenCommand v = .ok c ↔ CommandReads v c := by
  refine ⟨fun h => ?_, CommandReads.eq_ok⟩
  rcases readOpenCommand_cases v with ⟨c', hc⟩ | ⟨-, he⟩
  · cases h.symm.trans hc.eq_ok
    exact hc
  · cases he.symm.trans h

theorem TimeReads.isTime {v : Datum} {x : Option Binary64} (h : TimeReads v x) : IsTime v := by
  cases h with
  | null => exact .null
  | int h => exact .int h
  | float h => exact .float h

theorem TimeReads.eq_ok {v : Datum} {x : Option Binary64} (h : TimeReads v x) : readTimeout v = .ok x := by
  cases h with
  | null => rfl
  | int h fits =>
    rw [readTimeout, if_neg (Int.not_le.2 h)]
    split
    · rename_i negative hx
      exact absurd hx (fits negative)
    · rfl
  | float h =>
    rw [readTimeout, h]
    rfl

/-- What cannot be read as a time is complained about, unless it is a number that is too large. -/
theorem readTimeout_cases (v : Datum) :
    (∃ x, TimeReads v x) ∨
      (IsTime v ∧ (∀ x, ¬ TimeReads v x) ∧ readTimeout v = .error .timeoutTooLarge) ∨
        ¬ IsTime v ∧ readTimeout v = .error (refuse .timeout v) := by
  cases v with
  | null => exact .inl ⟨none, .null⟩
  | int n =>
    by_cases hn : n ≤ 0
    · refine .inr (.inr ⟨fun h => ?_, by rw [readTimeout, if_pos hn]⟩)
      cases h with
      | int h => omega
    · have hpos : 0 < n := Int.not_le.1 hn
      by_cases hx : ∃ negative, Binary64.ofInt n = .infinite negative
      · obtain ⟨negative, hx⟩ := hx
        refine .inr (.inl ⟨.int hpos, fun x hr => ?_, by rw [readTimeout, if_neg hn, hx]⟩)
        cases hr with
        | int _ fits => exact fits negative hx
      · exact .inl ⟨_, .int hpos fun negative h => hx ⟨negative, h⟩⟩
  | float x =>
    cases hx : x.atMostZero with
    | false => exact .inl ⟨_, .float hx⟩
    | true =>
      refine .inr (.inr ⟨fun h => ?_, by rw [readTimeout, hx]; rfl⟩)
      cases h with
      | float h => cases hx.symm.trans h
  | _ => exact .inr (.inr ⟨fun h => (nomatch h), rfl⟩)

theorem readTimeout_eq_ok {v : Datum} {x : Option Binary64} : readTimeout v = .ok x ↔ TimeReads v x := by
  refine ⟨fun h => ?_, TimeReads.eq_ok⟩
  rcases readTimeout_cases v with ⟨x', hx⟩ | ⟨-, -, he⟩ | ⟨-, he⟩
  · cases h.symm.trans hx.eq_ok
    exact hx
  · cases he.symm.trans h
  · cases he.symm.trans h

end Values

/-- An environment in which nothing is set. -/
def bareEnvironment : Environment := ⟨[], "/"⟩

end LspEndpoint.Config
