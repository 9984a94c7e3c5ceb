import LspEndpoint.Proofs.Config.Complaint

/-!
The shape of sections. What stands where a section belongs and is neither null nor a map should be refused, and settings
should be left at their defaults where no section says anything. The second always holds. The first does not
where all that is misplaced counts as absent, as false, zero and what is empty do: it is then passed over, unless a
command or a time is refused all the same.
-/
namespace LspEndpoint

/-- A map, also where it is cut off inside itself. -/
def Datum.isMap : Datum → Bool
  | .map _ => true
  | .cycle isMap => isMap
  | _ => false

namespace Config

variable {e : Environment} {all other : Section} {name : String}

/-- What stands under the name of a section is neither null nor a map. -/
def IsMisplaced (all : Section) (name : String) : Prop :=
  ∃ v, all.get? name = some v ∧ v ≠ .null ∧ v.isMap = false

/-- The name of a section is missing, or null stands under it, or a map with no entries. -/
def IsUnset (all : Section) (name : String) : Prop := ∀ v, all.get? name = some v → v = .null ∨ v = .map []

/-- The user is told that something is wrong. -/
def Refuses {α : Type} (x : Setting α) : Prop := ∃ err, x = .error err ∧ err.isReported

/-- The sections are checked: one that is misplaced is refused, and if none is set, all settings have their defaults. -/
structure ChecksSections (e : Environment) (all : Section) : Prop where
  refuses : ∀ name ∈ sections.map Prod.fst, IsMisplaced all name → Refuses (ofMapping e all)
  defaults : (∀ name ∈ sections.map Prod.fst, IsUnset all name) → ofMapping e all = .ok default

/-- Settings that the user is told about: a section is malformed, or of the command and the time the first that is wrong
can be shown. -/
inductive IsRefused (all : Section) : Prop
  | malformed {name : String} (hname : name ∈ sections.map Prod.fst) (h : IsMalformed all name)
  | command (version : (Key.version.value all).isShown)
      (wrong : ∀ c, ¬ CommandReads (Key.openCommand.value all) c) (shown : (Key.openCommand.value all).isShown)
  | time (version : (Key.version.value all).isShown) (command : ∃ c, CommandReads (Key.openCommand.value all) c)
      (wrong : ¬ IsTime (Key.timeout.value all)) (shown : (Key.timeout.value all).isShown)

theorem mem_sections_iff : name ∈ sections.map Prod.fst ↔ ∃ k : Key, k.place.1 = name := by
  constructor
  · intro h
    simp only [sections, List.map_cons, List.map_nil, List.mem_cons, List.not_mem_nil, or_false] at h
    rcases h with rfl | rfl | rfl | rfl
    · exact ⟨.name, rfl⟩
    · exact ⟨.timeout, rfl⟩
    · exact ⟨.traceFile, rfl⟩
    · exact ⟨.maxMessageSize, rfl⟩
  · rintro ⟨k, rfl⟩
    cases k <;> decide

theorem not_isSectioned_iff : ¬ IsSectioned all ↔ ∃ name ∈ sections.map Prod.fst, IsMalformed all name := by
  constructor
  · intro h
    obtain ⟨k, hk⟩ := Classical.not_forall_not.1 h
    exact ⟨k.place.1, mem_sections_iff.2 ⟨k, rfl⟩, hk⟩
  · rintro ⟨name, hname, hmalformed⟩ h
    obtain ⟨k, rfl⟩ := mem_sections_iff.1 hname
    exact h k hmalformed

/-- Settings depend on nothing but what is read as their sections. -/
theorem ofMapping_congr (h : ∀ name ∈ sections.map Prod.fst, readSection all name = readSection other name) :
    ofMapping e all = ofMapping e other := by
  rw [ofMapping, ofMapping, h "server" (by decide), h "commands" (by decide), h "trace" (by decide),
    h "transport" (by decide)]

theorem readSection_of_unset (h : IsUnset all name) : readSection all name = .ok [] := by
  rw [readSection, Section.getD]
  cases hv : all.get? name with
  | none => rfl
  | some v => rcases h v hv with rfl | rfl <;> rfl

theorem ofMapping_nil (e : Environment) : ofMapping e [] = .ok default := rfl

/-- Where no section is set, all settings have their defaults, whatever else the mapping holds. -/
theorem ofMapping_of_unset (e : Environment) (h : ∀ name ∈ sections.map Prod.fst, IsUnset all name) :
    ofMapping e all = .ok default := by
  rw [← ofMapping_nil e]
  apply ofMapping_congr
  intro name hname
  rw [readSection_of_unset (h name hname)]
  rfl

theorem ReadsSilently.exists_ok {α : Type} {x : Setting α} {P : Prop} (h : ReadsSilently x P) (hp : P) :
    ∃ a, x = .ok a := by
  rcases h with ⟨-, hx⟩ | ⟨hn, -⟩
  · exact hx
  · exact absurd hp hn

theorem IsRefused.isCovered (h : IsRefused all) : IsCovered all := by
  cases h with
  | malformed hname h => exact .malformed (not_isSectioned_iff.2 ⟨_, hname, h⟩)
  | command version wrong shown => exact .command version wrong shown
  | time version command wrong shown => exact .time version command wrong shown

theorem IsRefused.not_isReadFrom (h : IsRefused all) (c : Config) : ¬ IsReadFrom e all c := by
  intro hread
  cases h with
  | malformed hname h => exact not_isSectioned_iff.2 ⟨_, hname, h⟩ hread.isSectioned
  | command _ wrong _ => exact wrong _ (readOpenCommand_eq_ok.1 hread.openCommand)
  | time _ _ wrong _ => exact wrong (readTimeout_eq_ok.1 hread.timeout).isTime

/-- Settings that are covered and not refused are read. -/
theorem IsCovered.isRefused_or (e : Environment) (h : IsCovered all) :
    IsRefused all ∨ ∃ c, ofMapping e all = .ok c := by
  by_cases hs : IsSectioned all
  · cases h with
    | malformed h => exact absurd hs h
    | command version wrong shown => exact .inl (.command version wrong shown)
    | time version command wrong shown => exact .inl (.time version command wrong shown)
    | sound version command time file traceLimit maxMessageSize =>
      obtain ⟨_, hversion⟩ := (readVersion_readsSilently _).exists_ok version
      obtain ⟨_, hcommand⟩ := command
      obtain ⟨_, htime⟩ := time
      obtain ⟨_, hfile⟩ := (readTraceFile_readsSilently e _).exists_ok file
      obtain ⟨_, hlimit⟩ := (readInteger_readsSilently _).exists_ok traceLimit
      obtain ⟨_, hsize⟩ := (readInteger_readsSilently _).exists_ok maxMessageSize
      exact .inr ⟨⟨_, _, _, _, _, _, _⟩, ofMapping_eq_ok.2
        ⟨hs, rfl, hversion, hcommand.eq_ok, htime.eq_ok, hfile, hlimit, hsize⟩⟩
  · obtain ⟨name, hname, h⟩ := not_isSectioned_iff.1 hs
    exact .inl (.malformed hname h)

theorem refuses_ofMapping_iff (e : Environment) (all : Section) : Refuses (ofMapping e all) ↔ IsRefused all := by
  constructor
  · rintro ⟨err, he, hreported⟩
    have hreports : Reports (ofMapping e all) := by
      rw [he]
      exact reports_error_iff.2 hreported
    rcases ((reports_ofMapping_iff e all).1 hreports).isRefused_or e with h | ⟨c, hc⟩
    · exact h
    · cases he.symm.trans hc
  · intro h
    have hreports := (reports_ofMapping_iff e all).2 h.isCovered
    cases hm : ofMapping e all with
    | ok c => exact absurd (ofMapping_eq_ok.1 hm) (h.not_isReadFrom c)
    | error err => exact ⟨err, rfl, hreports err hm⟩

/-- The sections of a mapping are checked exactly if none of them is misplaced, or one of those that are does not count as
absent, or else a command or a time is refused. -/
theorem checksSections_iff (e : Environment) (all : Section) :
    ChecksSections e all ↔ (∀ name ∈ sections.map Prod.fst, ¬ IsMisplaced all name) ∨ IsRefused all := by
  rw [← refuses_ofMapping_iff e all]
  constructor
  · intro h
    by_cases hm : ∃ name ∈ sections.map Prod.fst, IsMisplaced all name
    · obtain ⟨name, hname, hmisplaced⟩ := hm
      exact .inr (h.refuses name hname hmisplaced)
    · exact .inl fun name hname hmisplaced => hm ⟨name, hname, hmisplaced⟩
  · intro h
    refine ⟨fun name hname hmisplaced => ?_, ofMapping_of_unset e⟩
    rcases h with hn | hr
    · exact absurd hmisplaced (hn name hname)
    · exact hr

/-- A mapping in which a section is written as false. -/
def falseMapping : Section := [(.text "trace", .bool false)]

theorem not_checksSections_falseMapping :
    ofMapping bareEnvironment falseMapping = .ok default ∧ IsMisplaced falseMapping "trace" ∧
      ¬ ChecksSections bareEnvironment falseMapping := by
  have hok : ofMapping bareEnvironment falseMapping = .ok default := rfl
  have hmisplaced : IsMisplaced falseMapping "trace" := ⟨.bool false, rfl, by simp, rfl⟩
  refine ⟨hok, hmisplaced, fun h => ?_⟩
  obtain ⟨err, he, -⟩ := h.refuses "trace" (by decide) hmisplaced
  cases hok.symm.trans he

end Config

end LspEndpoint
