import LspEndpoint.Proofs.Server.Frame

/-!
Documents do not get into each other's way. After any messages whatever, a document is what the sound notices about it
make of it, as if nothing else had come in; notices about different documents can change places; and all other
messages leave every document alone.
-/
namespace LspEndpoint.Server

open Rpc

variable {σ : Type}

/-- Whether a message is a sound notice about that document. -/
def concerns (uri : Text) (v : Json) : Bool := (notice? v).map Notice.uri = some uri

theorem concerns_eq_true {uri : Text} {v : Json} :
    concerns uri v = true ↔ ∃ n, notice? v = some n ∧ n.uri = uri := by
  simp [concerns]

theorem filterMap_notice?_concerns (uri : Text) (ms : List Json) :
    (ms.filter (concerns uri)).filterMap notice? = (ms.filterMap notice?).filter fun n => n.uri = uri := by
  induction ms with
  | nil => rfl
  | cons v rest ih =>
    cases hn : notice? v with
    | none =>
      have hc : concerns uri v = false := by simp [concerns, hn]
      rw [List.filter_cons_of_neg (by simp [hc]), List.filterMap_cons_none hn, ih]
    | some n =>
      rw [List.filterMap_cons_some hn]
      by_cases hu : n.uri = uri
      · rw [List.filter_cons_of_pos (concerns_eq_true.2 ⟨n, hn, hu⟩), List.filterMap_cons_some hn,
          List.filter_cons_of_pos (by simp [hu]), ih]
      · have hc : concerns uri v = false := by simp [concerns, hn, hu]
        rw [List.filter_cons_of_neg (by simp [hc]), List.filter_cons_of_neg (by simp [hu]), ih]

section Notices

variable {v : Json} {n : Notice}

/-- A notice is a notification of one of three methods. -/
theorem method?_of_notice? (h : notice? v = some n) :
    id? v = none ∧
      ∃ method m, method? v = some method ∧ NotificationMethod.ofText? method = some m ∧ m ≠ .exit := by
  unfold notice? at h
  split at h
  · rename_i hi
    obtain ⟨m, hm, hp⟩ := Option.bind_eq_some_iff.1 h
    obtain ⟨method, hmethod, hm⟩ := Option.bind_eq_some_iff.1 hm
    refine ⟨hi, method, m, hmethod, hm, ?_⟩
    rintro rfl
    cases hp
  · cases h

/-- A notice is one message, not a list of them. -/
theorem flattened_of_notice? (h : notice? v = some n) : flattened v = [v] := by
  obtain ⟨-, method, -, hm, -, -⟩ := method?_of_notice? h
  cases v with
  | array items => cases hm
  | _ => rfl

/-- A notice never stops a server that has room for it. -/
theorem dispatched_halt_of_notice? {setup : Setup σ} (h : notice? v = some n) (hf : setup.fits v) {s : State σ}
    (hc : s.traceClosed = false) : (dispatched setup v s).halt = none := by
  obtain ⟨hi, method, m, hm, hof, hne⟩ := method?_of_notice? h
  have hx : method ≠ Text.ofString "exit" := by
    rintro rfl
    exact hne (Option.some.inj (hof.symm.trans (NotificationMethod.ofText?_eq_exit.2 rfl)))
  rw [dispatched_of_notification hm hi, notification_begun (.inr hc) (Setup.hasRoom_of_fits hf hm)]
  exact (heard_of_not_exit hx ..).1

end Notices

variable {setup : Setup σ}

/-- A run over notices goes through all of them, if none but the last does not fit. -/
theorem run_notices {ms : List Json} (h : ∀ v ∈ ms, ∃ n, notice? v = some n)
    (hf : ms.Pairwise fun v _ => setup.fits v) {s : State σ} (hc : s.traceClosed = false) :
    (run setup ms s).state = stateAfter setup ms s := by
  have hflat : ms.flatMap flattened = ms := by
    clear hc hf
    induction ms with
    | nil => rfl
    | cons v rest ih =>
      obtain ⟨n, hn⟩ := h v (List.mem_cons_self ..)
      rw [List.flatMap_cons, flattened_of_notice? hn, ih fun w hw => h w (List.mem_cons_of_mem _ hw)]
      rfl
  rw [run_eq_each, hflat]
  clear hflat
  induction ms generalizing s with
  | nil => rfl
  | cons v rest ih =>
    obtain ⟨hv, hrest⟩ := List.pairwise_cons.1 hf
    cases rest with
    | nil => exact congrArg Step.state (Step.andThen_still _)
    | cons w rest =>
      obtain ⟨n, hn⟩ := h v (List.mem_cons_self ..)
      have hgoes := dispatched_halt_of_notice? hn (hv w (List.mem_cons_self ..)) hc
      rw [Step.each, Step.andThen_of_none hgoes]
      exact ih (fun x hx => h x (List.mem_cons_of_mem _ hx)) hrest ((dispatched_traceClosed setup v s).trans hc)

/-- The documents after any messages are what the notices among them make of them that fit. -/
theorem stateAfter_store (hs : setup.SparesDocuments) (ms : List Json) {s : State σ} (h : s.traceClosed = false) :
    (stateAfter setup ms s).store = ((ms.filter setup.fits).filterMap notice?).foldl Store.heed s.store := by
  induction ms generalizing s with
  | nil => rfl
  | cons v rest ih =>
    rw [stateAfter, ih ((dispatched_traceClosed setup v s).trans h), dispatched_store hs v h]
    cases hf : setup.fits v with
    | false => rw [List.filter_cons_of_neg (by simp [hf]), if_neg Bool.false_ne_true]
    | true =>
      rw [List.filter_cons_of_pos hf, if_pos rfl, Store.after]
      cases hn : notice? v with
      | none => rw [List.filterMap_cons_none hn]
      | some n => rw [List.filterMap_cons_some hn, List.foldl_cons]

/-- The documents of a server that has dispatched these messages. Each is what a run leaves of it over the notices about
it alone that fit, and stands under its own URI; two messages that concern no document in common can come in either
order; and a message that is no sound notice leaves every document as it was. -/
structure Isolates (setup : Setup σ) (host : σ) (ms : List Json) (s : State σ) : Prop where
  entry : ∀ uri, s.store.get? uri =
    (run setup ((ms.filter setup.fits).filter (concerns uri)) (.start host)).state.store.get? uri
  keyed : ∀ e ∈ s.store.entries, e.2.uri = e.1
  commutes : ∀ v w, (∀ uri, concerns uri v → concerns uri w = false) → ∀ uri,
    (stateAfter setup [v, w] s).store.get? uri = (stateAfter setup [w, v] s).store.get? uri
  spared : ∀ v, notice? v = none → (dispatched setup v s).state.store = s.store

theorem get?_stateAfter_comm (hs : setup.SparesDocuments) {v w : Json}
    (h : ∀ uri, concerns uri v → concerns uri w = false) {s : State σ} (hc : s.traceClosed = false) (uri : Text) :
    (stateAfter setup [v, w] s).store.get? uri = (stateAfter setup [w, v] s).store.get? uri := by
  have hheard (x y : Json) : ([x, y].filter setup.fits).filterMap notice? =
      ([x].filter setup.fits).filterMap notice? ++ ([y].filter setup.fits).filterMap notice? := by
    rw [← List.filterMap_append, ← List.filter_append]
    rfl
  have hone (x : Json) : ([x].filter setup.fits).filterMap notice? = [] ∨
      ∃ n, notice? x = some n ∧ ([x].filter setup.fits).filterMap notice? = [n] := by
    cases hf : setup.fits x <;> cases hn : notice? x <;> simp [hf, hn]
  rw [stateAfter_store hs [v, w] hc, stateAfter_store hs [w, v] hc, hheard v w, hheard w v]
  rcases hone v with hv | ⟨n, hn, hv⟩
  · rw [hv, List.nil_append, List.append_nil]
  · rcases hone w with hw | ⟨m, hm, hw⟩
    · rw [hw, List.nil_append, List.append_nil]
    · have hne : n.uri ≠ m.uri := by
        intro e
        have hf := h n.uri (concerns_eq_true.2 ⟨n, hn, rfl⟩)
        rw [concerns_eq_true.2 ⟨m, hm, e.symm⟩] at hf
        cases hf
      rw [hv, hw]
      exact Store.get?_heed_comm s.store hne uri

/-- A run over those notices about a document that fit, and over no more than these and a last one, leaves of it what
all messages leave of it. -/
theorem get?_run_concerns (hs : setup.SparesDocuments) (host : σ) {ms notices : List Json} {uri : Text}
    (hc : ∀ v ∈ notices, concerns uri v) (hf : notices.Pairwise fun v _ => setup.fits v)
    (he : notices.filter setup.fits = (ms.filter setup.fits).filter (concerns uri)) :
    (stateAfter setup ms (.start host)).store.get? uri =
      (run setup notices (.start host)).state.store.get? uri := by
  rw [run_notices (fun v hv => (concerns_eq_true.1 (hc v hv)).imp fun _ h => h.1) hf rfl, stateAfter_store hs ms rfl,
    stateAfter_store hs notices rfl, he, filterMap_notice?_concerns, Store.get?_foldl_heed, Store.get?_foldl_heed,
    List.filter_filter]
  simp only [Bool.and_self]

theorem stateAfter_isolates (hs : setup.SparesDocuments) (host : σ) (ms : List Json) :
    Isolates setup host ms (stateAfter setup ms (.start host)) := by
  have hc := stateAfter_traceClosed setup ms (.start host)
  constructor
  case entry =>
    intro uri
    apply get?_run_concerns hs host
    · exact fun v hv => (List.mem_filter.1 hv).2
    · exact List.pairwise_of_forall_mem_list fun v hv _ _ => (List.mem_filter.1 (List.mem_filter.1 hv).1).2
    · exact List.filter_eq_self.2 fun v hv => (List.mem_filter.1 (List.mem_filter.1 hv).1).2
  case keyed =>
    rw [stateAfter_store hs ms rfl]
    exact Store.keyed_empty.foldl_heed _
  case commutes => exact fun v w h uri => get?_stateAfter_comm hs h hc uri
  case spared =>
    intro v hn
    rw [dispatched_store hs v hc, Store.after, hn, ite_self]

/-- The documents after a run are isolated from each other, for the messages that the run dispatched, and each is what a
run leaves of it over the notices about it alone; and isolated they are after any messages, also where a server goes on
that a run would have stopped. -/
theorem run_isolates (setup : Setup σ) (hs : setup.SparesDocuments) (host : σ) :
    (∀ vs, Isolates setup host (reached setup (vs.flatMap flattened) (.start host))
          (run setup vs (.start host)).state ∧
        ∀ uri, (run setup vs (.start host)).state.store.get? uri =
          (run setup ((reached setup (vs.flatMap flattened) (.start host)).filter (concerns uri))
            (.start host)).state.store.get? uri) ∧
      ∀ ms, Isolates setup host ms (stateAfter setup ms (.start host)) := by
  refine ⟨fun vs => ?_, stateAfter_isolates hs host⟩
  rw [run_eq_each, (each_reached setup (vs.flatMap flattened) (.start host)).1]
  refine ⟨stateAfter_isolates hs host _, fun uri => ?_⟩
  apply get?_run_concerns hs host
  · exact fun v hv => (List.mem_filter.1 hv).2
  · exact (reached_fits setup _ _).filter _
  · simp only [List.filter_filter, Bool.and_comm]

/-- Two documents and a value that is no message. -/
def twoDocuments : List Json := [.array [opening "u" "a", opening "v" "b", exitRequest], .int 3, opening "v" "c"]

theorem run_isolates_twoDocuments :
    bare.SparesDocuments ∧
      (run bare twoDocuments (.start ())).state.store.get? "u" =
        (run bare [opening "u" "a"] (.start ())).state.store.get? "u" ∧
      (run bare [opening "u" "a"] (.start ())).state.store.get? "u" = some ⟨"u", [], 0, "a"⟩ := by
  have hs : bare.SparesDocuments := fun _ _ _ => rfl
  have h := ((run_isolates bare hs ()).1 twoDocuments).2 "u"
  have hf : (reached bare (twoDocuments.flatMap flattened) (.start ())).filter (concerns "u") =
      [opening "u" "a"] := by
    decide +kernel
  rw [hf] at h
  exact ⟨hs, h, by decide⟩

end LspEndpoint.Server
