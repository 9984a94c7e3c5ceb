import LspEndpoint.Proofs.Server.Command
import LspEndpoint.Proofs.Server.Noninterference

/-!
What a server notes down. The log has one line for each client that is accepted, for each request that is answered with
an internal error, for each notification of a known method that goes wrong, and for each line that the trace does not
take, in the order in which these happen, and no other line. What is only unknown, invalid or refused is not noted, and
what is raised stops the server without a line.
-/
namespace LspEndpoint.Server

open Rpc Command

variable {σ : Type}

/-- Neither the backend nor a program answers with an error that is meant for the client. -/
structure Setup.NeverRefuses (setup : Setup σ) : Prop where
  ask : ∀ host store q e, (setup.ask host store q).1 ≠ .refused e
  launch : ∀ host argv e, (setup.launch host argv).1 ≠ .refused e

theorem Setup.NeverRefuses.isNamed {setup : Setup σ} (h : setup.NeverRefuses) : setup.Answers Answer.isNamed := by
  have hnamed {a : Answer} (ha : ∀ e, a ≠ .refused e) : a.isNamed := by
    cases a with
    | refused e => exact absurd rfl (ha e)
    | _ => rfl
  exact ⟨fun host store q => hnamed (h.ask host store q), fun host argv => hnamed (h.launch host argv)⟩

/-- What is worth a line of the log; a fault comes with how it is shown, and that of a request with the account of how the
request came to it. -/
inductive Remark
  | accepted (p : InitializeParams)
  | request (method : Text) (f : Fault) (shown account : Text)
  | notification (method : Text) (f : Fault) (shown : Text)
  | untraced (r : File.Refusal)

namespace Remark

def line : Remark → Text
  | accepted p => greeting p
  | request method _ shown account => requestFault method shown account
  | notification method _ shown => notificationFault method shown
  | untraced r => writeFault r

def isAccepted : Remark → Bool
  | accepted _ => true
  | _ => false

def isRequest : Remark → Bool
  | request _ _ _ _ => true
  | _ => false

/-- The line of a failure starts with the method that failed, and tells what went wrong. -/
def Discloses (r : Remark) : Prop :=
  match r with
  | request method f shown account =>
    Text.ofString "Error in method " ++ method <+: r.line ∧ f.display = .ok shown ∧ shown <:+: r.line ∧ account <:+ r.line
  | notification method f shown =>
    Text.ofString "Error in notification " ++ method <+: r.line ∧ f.display = .ok shown ∧ shown <:+: r.line
  | _ => True

theorem discloses_request {f : Fault} {shown : Text} (h : f.display = .ok shown) (method account : Text) :
    (request method f shown account).Discloses := by
  refine ⟨?_, h, ⟨"Error in method " ++ method ++ ": ", "\n" ++ account, ?_⟩, List.suffix_append ..⟩
  · simp only [line, requestFault, List.append_assoc]
    exact ⟨_, List.append_assoc ..⟩
  · simp only [line, requestFault, List.append_assoc]

theorem discloses_notification {f : Fault} {shown : Text} (h : f.display = .ok shown) (method : Text) :
    (notification method f shown).Discloses := by
  refine ⟨?_, h, (List.suffix_append ..).isInfix⟩
  simp only [line, notificationFault, List.append_assoc]
  exact ⟨_, List.append_assoc ..⟩

end Remark

section Relations

variable (setup : Setup σ)

/-- The line of the trace that an event is to leave, if it is not taken. -/
def missed (e : Trace.Event) (s : State σ) : List Remark :=
  match setup.tracing with
  | none => []
  | some t => (t.write s.host (e.line t.limit (t.time s.linesTried))).1.toList.map .untraced

/-- How the end of a request is traced, and the state in which that is tried. -/
def conclusion (id : Json) (method : Text) (params : Json) (s : State σ) : Trace.Event × State σ :=
  let start := setup.clock (traced setup (.request id method params) s).state.clockReads
  let left := (replied setup method params (begun setup id method params s)).1.state
  (.response id ((responseTo setup id method params s).status?.getD [])
    (.float (duration start (setup.clock left.clockReads))), tick left)

/-- What keeps the handler of a request from a reply, and what the host is then: the backend fails, or the program does,
or the URI of the document of a command cannot be split. -/
inductive Fails (u : State σ) (params : Json) : Text → Fault → σ → Prop
  | asked {operation : Operation} {a : Arguments} {f : Fault} (takes : operation.Takes a params)
      (failed : (setup.ask u.host u.store ⟨operation, a⟩).1 = .failed f) :
      Fails u params operation.method f (setup.ask u.host u.store ⟨operation, a⟩).2.2
  | launched {uri path : Text} {f : Fault} (names : Names params uri) (found : Uri.toPath uri = .ok path)
      (failed : (setup.launch u.host (setup.openCommand ++ [path])).1 = .failed f) :
      Fails u params "workspace/executeCommand" f (setup.launch u.host (setup.openCommand ++ [path])).2
  | unsplit {uri : Text} {e : Uri.Error} (names : Names params uri) (stuck : Uri.split uri = .error e) :
      Fails u params "workspace/executeCommand" (.uri e) u.host

/-- The replies to a request, and what is noted about each. -/
inductive Remarked (u : State σ) (method : Text) (params : Json) : Reply → Option Remark → Prop
  | accepted {p : InitializeParams} {reply : Reply} (isInitialize : method = Text.ofString "initialize")
      (sound : p.StandsIn params) (isResult : ∀ e, reply ≠ .error e) :
      Remarked u method params reply (some (.accepted p))
  | succeeded {value : Json} (isOther : method ≠ Text.ofString "initialize") :
      Remarked u method params (.result value) none
  | refused {code : Int} {message : Text} (isRefusal : code = -32601 ∨ code = -32602)
      (unsound : method = Text.ofString "initialize" → ∀ p : InitializeParams, ¬ p.StandsIn params) :
      Remarked u method params (.error ⟨code, message, .null⟩) none
  | failed {f : Fault} {host : σ} {shown : Text} (fails : Fails setup u params method f host)
      (isShown : f.display = .ok shown) :
      Remarked u method params (.error ⟨-32603, "internal error in method " ++ method, .null⟩)
        (some (.request method f shown (setup.account host f)))

/-- What goes wrong with a notification of a known method: its params are unsound, it changes a document that is not
open, or some part of that document cannot be counted in the client's way. -/
inductive Mishears (store : Store) (params : Json) : NotificationMethod → Fault → Prop
  | unopened {e : Params.Error} (unsound : Params.didOpen params = .error e) :
      Mishears store params .didOpen (.params e)
  | unchanged {e : Params.Error} (unsound : Params.didChange params = .error e) :
      Mishears store params .didChange (.params e)
  | unclosed {e : Params.Error} (unsound : Params.didClose params = .error e) :
      Mishears store params .didClose (.params e)
  | notOpen {p : DidChangeParams} (sound : p.StandsIn params) (missing : store.get? p.uri = none) :
      Mishears store params .didChange (.notOpen p.uri)
  | unfit {p : DidChangeParams} {d : Document} {e : Unencodable} (sound : p.StandsIn params)
      (found : store.get? p.uri = some d) (stuck : (Store.changed d p).2 = some e) :
      Mishears store params .didChange (.unencodable e)

/-- The response that a message is owed, and all that is noted while it is handled. A message that the trace has no room
for, and a request that comes to a fault that cannot be shown, are not answered. -/
inductive Remarks (s : State σ) (v : Json) : Option Response → List Remark → Prop
  | misfit (hasNoRoom : setup.fits v = false) : Remarks s v none []
  | request {id : Json} {method : Text} {remark : Option Remark} (fits : setup.fits v)
      (hasMethod : method? v = some method) (hasId : id? v = some id)
      (remarked : Remarked setup (begun setup id method (paramsOf v) s) method (paramsOf v)
        (responseTo setup id method (paramsOf v) s).reply remark) :
      Remarks s v (some (responseTo setup id method (paramsOf v) s))
        (missed setup (.request id method (paramsOf v)) s ++ (remark.toList ++
          missed setup (conclusion setup id method (paramsOf v) s).1 (conclusion setup id method (paramsOf v) s).2))
  | unshown {id : Json} {method : Text} {f : Fault} {host : σ} {r : Raised} (fits : setup.fits v)
      (hasMethod : method? v = some method) (hasId : id? v = some id)
      (fails : Fails setup (begun setup id method (paramsOf v) s) (paramsOf v) method f host)
      (raises : f.display = .error r) :
      Remarks s v none (missed setup (.request id method (paramsOf v)) s)
  | notification {method : Text} {failure : Option (Fault × Text)} (fits : setup.fits v)
      (hasMethod : method? v = some method) (hasNoId : id? v = none)
      (failed : ∀ f, (∃ shown, failure = some (f, shown)) ↔
        ∃ m, NotificationMethod.ofText? method = some m ∧ Mishears s.store (paramsOf v) m f)
      (isShown : ∀ f shown, failure = some (f, shown) → f.display = .ok shown) :
      Remarks s v none
        (missed setup (.notification method (paramsOf v)) s ++
          failure.toList.map fun f => .notification method f.1 f.2)
  | invalid (hasNoMethod : method? v = none) : Remarks s v (some (.invalid ((id? v).getD .null))) []

/-- The responses to messages in turn, and what is noted while they are handled. -/
inductive Diary : State σ → List Json → List Response → List Remark → Prop
  | done {s : State σ} : Diary s [] [] []
  | next {s : State σ} {v : Json} {rest : List Json} {r : Option Response} {responses : List Response}
      {remarks later : List Remark} (noted : Remarks setup s v r remarks)
      (onwards : Diary (dispatched setup v s).state rest responses later) :
      Diary s (v :: rest) (r.toList ++ responses) (remarks ++ later)

end Relations

section Steps

theorem logged_append (first second : List Event) : logged (first ++ second) = logged first ++ logged second :=
  List.filterMap_append

variable {setup : Setup σ} {s : State σ}

theorem logged_traced {e : Trace.Event} (h : s.traceClosed = false) (hroom : setup.hasRoom e.depth) :
    logged (traced setup e s).events = (missed setup e s).map Remark.line := by
  have ht := traced_traces setup e s
  unfold missed
  generalize traced setup e s = a at ht
  cases ht with
  | untraced absent => rw [absent]; rfl
  | tooDeep deep =>
    rw [hroom] at deep
    cases deep
  | closed present isClosed => cases h.symm.trans isClosed
  | written present isOpen taken =>
    rw [present]
    dsimp only
    rw [taken]
    rfl
  | failed present isOpen untaken =>
    rw [present]
    dsimp only
    rw [untaken]
    rfl

theorem logged_tracedEnd {r : Response} {status : Text} (h : s.traceClosed = false) (start : Binary64)
    (hs : r.status? = some status) :
    logged (tracedEnd setup start r s).events =
      (missed setup (.response r.id status (.float (duration start (setup.clock s.clockReads)))) (tick s)).map
        Remark.line := by
  cases ht : setup.tracing with
  | none =>
    rw [missed, tracedEnd, ht]
    rfl
  | some t =>
    rw [tracedEnd_of_named (by rw [ht]; rfl) hs]
    exact logged_traced (s := tick s) h (Setup.hasRoom_iff.2 fun _ _ => Nat.zero_le _)

theorem logged_emit (r : Response) (s : State σ) : logged (emit setup r s).events = [] := by
  unfold emit
  split <;> rfl

/-- What a request notes that is replied to is what is noted about the reply, and then what the trace does not take. -/
theorem logged_concluded {r : Response} {status : Text} (h : s.traceClosed = false) (start : Binary64)
    (hs : r.status? = some status) :
    logged (concluded setup start r s).events =
      (missed setup (.response r.id status (.float (duration start (setup.clock s.clockReads)))) (tick s)).map
        Remark.line := by
  have hn : setup.canName r := by simp [Setup.canName, hs]
  rw [concluded, Step.andThen_of_none (tracedEnd_goesOn (.inr h) hn), logged_append, logged_emit, List.append_nil,
    logged_tracedEnd h start hs]

theorem Step.Sends.emitted_eq {a : Step σ} {r : Response} (h : a.Sends setup r) :
    emitted a.events = [r].filter fun r => (setup.deliver r).isNone := by
  unfold Sends at h
  cases hd : setup.deliver r <;> simp [hd] at h ⊢ <;> exact h.1

end Steps

section Replies

/-- As much is noted about a request as its reply deserves, or nothing about one whose fault cannot be shown. -/
inductive Notes (setup : Setup σ) (method : Text) (params : Json) (s : State σ) (p : Step σ × Reply) : Prop
  | replied {remark : Option Remark} (remarked : Remarked setup s method params p.2 remark) (goesOn : p.1.halt = none)
      (log : logged p.1.events = remark.toList.map Remark.line)
  | raised {f : Fault} {host : σ} {r : Raised} (fails : Fails setup s params method f host)
      (raises : f.display = .error r) (stops : p.1.halt = some (.raised r)) (log : logged p.1.events = [])

variable {setup : Setup σ} {s : State σ} {method : Text} {params : Json} {m : RequestMethod}

theorem method_ne_initialize (hm : RequestMethod.ofText? method ≠ some .initialization) :
    method ≠ Text.ofString "initialize" := by
  rintro rfl
  exact hm (RequestMethod.ofText?_method .initialization)

theorem replied_of_reply (hm : RequestMethod.ofText? method = some m) {r : Reply}
    (ho : (handled setup m params s).outcome = .reply r) :
    replied setup method params s =
      (⟨(handled setup m params s).state, (handled setup m params s).events, none⟩, r) := by
  rw [replied, hm]
  dsimp only
  rw [ho]

theorem notes_of_refused (hm : RequestMethod.ofText? method = some m) {e : Params.Error}
    (hh : handled setup m params s = .refused s e)
    (hu : method = Text.ofString "initialize" → ∀ p : InitializeParams, ¬ p.StandsIn params) :
    Notes setup method params s (replied setup method params s) := by
  rw [replied_of_reply hm (by rw [hh]; rfl), hh]
  exact .replied (.refused (.inr rfl) hu) rfl rfl

theorem notes_of_fault (hm : RequestMethod.ofText? method = some m) {f : Fault}
    (ho : (handled setup m params s).outcome = .fault f) (hsilent : logged (handled setup m params s).events = [])
    (hf : Fails setup s params method f (handled setup m params s).state.host) :
    Notes setup method params s (replied setup method params s) := by
  rw [replied, hm]
  dsimp only
  rw [ho]
  cases hd : f.display with
  | error r =>
    refine .raised hf hd ?_ ?_
    · simp [note, hd, Step.andThen, Step.raising]
    · simp [note, hd, Step.andThen, Step.raising, hsilent]
  | ok shown =>
    refine .replied (.failed hf hd) ?_ ?_
    · simp [note, hd, Step.andThen, Step.did]
    · simp only [note, hd, Step.andThen, Step.did, logged_append, hsilent]
      rfl

/-- An answer from behind the server, which is no refusal. -/
theorem notes_of_answer (hm : RequestMethod.ofText? method = some m) (hne : m ≠ .initialization) {a : Answer}
    (ho : (handled setup m params s).outcome = outcomeOf a) (hsilent : logged (handled setup m params s).events = [])
    (hr : ∀ e, a ≠ .refused e)
    (hf : ∀ f, a = .failed f → Fails setup s params method f (handled setup m params s).state.host) :
    Notes setup method params s (replied setup method params s) := by
  cases a with
  | result value =>
    have hother := method_ne_initialize fun h => hne (Option.some.inj (hm.symm.trans h))
    rw [replied_of_reply hm ho]
    exact .replied (.succeeded hother) rfl hsilent
  | refused e => exact absurd rfl (hr e)
  | failed f => exact notes_of_fault hm ho hsilent (hf f rfl)

theorem notes_initialize (params : Json) (s : State σ) :
    Notes setup "initialize" params s (replied setup "initialize" params s) := by
  have hm : RequestMethod.ofText? "initialize" = some .initialization :=
    RequestMethod.ofText?_method .initialization
  cases hp : Params.initialization params with
  | error e =>
    have hunsound := (Params.initialization_reads.rejects params).1 ⟨e, hp⟩
    exact notes_of_refused hm (by rw [handled, initialized, hp]) fun _ => hunsound
  | ok p =>
    have hh : handled setup .initialization params s = ⟨{ s with lifecycle := s.lifecycle.accept p },
        [.logged (greeting p)], .reply (welcomed setup.serverInfo p)⟩ := by
      rw [handled, initialized, hp]
    rw [replied_of_reply hm (by rw [hh]), hh]
    have hsound := (Params.initialization_reads.accepts params p).1 hp
    refine .replied (.accepted rfl hsound fun e he => ?_) rfl rfl
    unfold welcomed at he
    split at he <;> cases he

theorem notes_executeCommand (hb : setup.NeverRefuses) (params : Json) (s : State σ) :
    Notes setup "workspace/executeCommand" params s (replied setup "workspace/executeCommand" params s) := by
  have hm : RequestMethod.ofText? "workspace/executeCommand" = some .executeCommand :=
    RequestMethod.ofText?_method .executeCommand
  have hrefused {e : Params.Error} (hp : path params = .error (.refused e)) :
      Notes setup "workspace/executeCommand" params s (replied setup "workspace/executeCommand" params s) :=
    notes_of_refused hm (by rw [handled, executed, hp]) fun h => absurd h (by decide)
  by_cases hn : ∃ uri, Names params uri
  · obtain ⟨uri, hn⟩ := hn
    have hp := path_of_names hn
    cases hpath : Uri.toPath uri with
    | ok found =>
      rw [hpath] at hp
      have hh : handled setup .executeCommand params s =
          ⟨{ s with host := (setup.launch s.host (setup.openCommand ++ [found])).2 },
            [.launched (setup.openCommand ++ [found])],
            outcomeOf ((setup.launch s.host (setup.openCommand ++ [found])).1.map result)⟩ := by
        rw [handled, executed, hp]
        rfl
      refine notes_of_answer hm (by decide) (by rw [hh]) (by rw [hh]; rfl) (fun e he => ?_) fun f hf => ?_
      · cases ha : (setup.launch s.host (setup.openCommand ++ [found])).1 with
        | refused e => exact hb.launch _ _ e ha
        | _ => rw [ha] at he; cases he
      · rw [hh]
        refine .launched hn hpath ?_
        cases ha : (setup.launch s.host (setup.openCommand ++ [found])).1 with
        | failed f' => rw [ha] at hf; cases hf; rfl
        | _ => rw [ha] at hf; cases hf
    | error e =>
      rw [hpath] at hp
      cases e with
      | rejected e => exact hrefused hp
      | malformed e =>
        have hh : handled setup .executeCommand params s = ⟨s, [], .fault (.uri e)⟩ := by
          rw [handled, executed, hp]
          rfl
        refine notes_of_fault hm (by rw [hh]) (by rw [hh]; rfl) ?_
        rw [hh]
        exact .unsplit hn (Uri.toPath_eq_malformed.1 hpath)
  · obtain ⟨e, hp⟩ := path_of_unnamed fun uri hu => hn ⟨uri, hu⟩
    exact hrefused hp

theorem notes_document (hb : setup.NeverRefuses) (operation : Operation) (params : Json) (s : State σ) :
    Notes setup operation.method params s (replied setup operation.method params s) := by
  have hm : RequestMethod.ofText? operation.method = some (.document operation) :=
    RequestMethod.ofText?_method (.document operation)
  cases hd : Arguments.decode operation params with
  | error e =>
    have hne := method_ne_initialize (by rw [hm]; simp)
    exact notes_of_refused hm (by rw [handled, queried, hd]) fun h => absurd h hne
  | ok a =>
    have hh : handled setup (.document operation) params s =
        ⟨{ s with
            store := (setup.ask s.host s.store ⟨operation, a⟩).2.1
            host := (setup.ask s.host s.store ⟨operation, a⟩).2.2 },
          [.asked ⟨operation, a⟩], outcomeOf (setup.ask s.host s.store ⟨operation, a⟩).1⟩ := by
      rw [handled, queried, hd]
    refine notes_of_answer hm (by simp) (by rw [hh]) (by rw [hh]; rfl) (hb.ask _ _ _) fun f hf => ?_
    rw [hh]
    exact .asked (((Arguments.decode_reads operation).accepts params a).1 hd) hf

/-- Whatever a request comes to, as much is noted as that deserves. -/
theorem replied_notes (hb : setup.NeverRefuses) (method : Text) (params : Json) (s : State σ) :
    Notes setup method params s (replied setup method params s) := by
  cases hm : RequestMethod.ofText? method with
  | none =>
    have hne := method_ne_initialize (by rw [hm]; simp)
    rw [replied_of_unknown hm]
    exact .replied (.refused (.inl rfl) fun h => absurd h hne) rfl rfl
  | some m =>
    obtain rfl := RequestMethod.ofText?_eq_some.1 hm
    cases m with
    | initialization => exact notes_initialize params s
    | shutdown =>
      exact notes_of_answer (a := .result .null) hm (by decide) rfl rfl (fun _ h => nomatch h) fun _ h => nomatch h
    | executeCommand => exact notes_executeCommand hb params s
    | document operation => exact notes_document hb operation params s

end Replies

section Messages

variable {setup : Setup σ} {s : State σ}

theorem changeDocument_snd (store : Store) (p : DidChangeParams) (f : Fault) :
    (store.changeDocument p).2.map ChangeError.fault = some f ↔
      (store.get? p.uri = none ∧ f = .notOpen p.uri) ∨
        ∃ d e, store.get? p.uri = some d ∧ (Store.changed d p).2 = some e ∧ f = .unencodable e := by
  unfold Store.changeDocument
  cases hd : store.get? p.uri with
  | none => simp [ChangeError.fault, eq_comm]
  | some d =>
    cases he : (Store.changed d p).2 with
    | none => simp [he]
    | some e => simp [he, ChangeError.fault, eq_comm]

/-- A notification goes wrong in the ways that there are for its method, and in no other. -/
theorem notified_snd (m : NotificationMethod) (params : Json) (store : Store) (f : Fault) :
    (notified m params store).2 = some f ↔ Mishears store params m f := by
  have hne : none ≠ some f := fun h => Option.some_ne_none f h.symm
  cases m with
  | exit =>
    refine ⟨fun h => absurd h hne, fun h => ?_⟩
    cases h
  | didOpen =>
    cases hp : Params.didOpen params with
    | error e =>
      simp only [notified, hp, Option.some.injEq]
      refine ⟨fun h => h ▸ .unopened hp, fun h => ?_⟩
      cases h with
      | unopened hp' => rw [Except.error.inj (hp.symm.trans hp')]
    | ok p =>
      simp only [notified, hp]
      refine ⟨fun h => absurd h hne, fun h => ?_⟩
      cases h with
      | unopened hp' => cases hp.symm.trans hp'
  | didClose =>
    cases hp : Params.didClose params with
    | error e =>
      simp only [notified, hp, Option.some.injEq]
      refine ⟨fun h => h ▸ .unclosed hp, fun h => ?_⟩
      cases h with
      | unclosed hp' => rw [Except.error.inj (hp.symm.trans hp')]
    | ok p =>
      simp only [notified, hp]
      refine ⟨fun h => absurd h hne, fun h => ?_⟩
      cases h with
      | unclosed hp' => cases hp.symm.trans hp'
  | didChange =>
    cases hp : Params.didChange params with
    | error e =>
      have hn := (Params.didChange_reads.rejects params).1 ⟨e, hp⟩
      simp only [notified, hp, Option.some.injEq]
      refine ⟨fun h => h ▸ .unchanged hp, fun h => ?_⟩
      cases h with
      | unchanged hp' => rw [Except.error.inj (hp.symm.trans hp')]
      | notOpen sound => exact absurd sound (hn _)
      | unfit sound => exact absurd sound (hn _)
    | ok p =>
      have hsound := (Params.didChange_reads.accepts params p).1 hp
      have hunique {q : DidChangeParams} (hq : q.StandsIn params) : q = p :=
        Except.ok.inj (((Params.didChange_reads.accepts params q).2 hq).symm.trans hp)
      simp only [notified, hp, changeDocument_snd]
      constructor
      · rintro (⟨hd, rfl⟩ | ⟨d, e, hd, he, rfl⟩)
        · exact .notOpen hsound hd
        · exact .unfit hsound hd he
      · intro h
        cases h with
        | unchanged hp' => cases hp.symm.trans hp'
        | notOpen sound missing =>
          obtain rfl := hunique sound
          exact .inl ⟨missing, rfl⟩
        | unfit sound found stuck =>
          obtain rfl := hunique sound
          exact .inr ⟨_, _, found, stuck, rfl⟩

/-- What the handler of a notification notes. -/
theorem logged_heard (setup : Setup σ) (method : Text) (params : Json) (s : State σ) :
    ∃ failure : Option (Fault × Text),
      (∀ f, (∃ shown, failure = some (f, shown)) ↔
          ∃ m, NotificationMethod.ofText? method = some m ∧ Mishears s.store params m f) ∧
        (∀ f shown, failure = some (f, shown) → f.display = .ok shown) ∧
        logged (heard setup method params s).events =
          (failure.toList.map fun f => Remark.notification method f.1 f.2).map Remark.line := by
  have hh := heard_hears setup method params s
  generalize heard setup method params s = a at hh
  cases hh with
  | unknown unknown =>
    refine ⟨none, fun f => iff_of_false nofun ?_, nofun, rfl⟩
    rintro ⟨m, hm, -⟩
    cases unknown.symm.trans hm
  | exited known =>
    refine ⟨none, fun f => iff_of_false nofun ?_, nofun, rfl⟩
    rintro ⟨m, hm, h⟩
    cases known.symm.trans hm
    cases h
  | noticed known isNotice sound =>
    refine ⟨none, fun f => iff_of_false nofun ?_, nofun, rfl⟩
    rintro ⟨m, hm, h⟩
    cases known.symm.trans hm
    cases sound.symm.trans ((notified_snd _ params s.store f).2 h)
  | @failed m f shown known isNotice failed isShown =>
    refine ⟨some (f, shown), fun f' => ?_, ?_, rfl⟩
    · simp only [known, Option.some.injEq, exists_eq_left', ← notified_snd, failed, Prod.mk.injEq, exists_and_left,
        exists_eq', and_true]
    · rintro f' shown' h
      cases h
      exact isShown

/-- A request that the trace has room for notes what the trace does not take of it, and in between what its reply
deserves; or what the trace does not take before its handler came to a fault that cannot be shown. -/
theorem request_remarks (hb : setup.NeverRefuses) {v id : Json} {method : Text} (h : s.traceClosed = false)
    (hf : setup.fits v) (hm : method? v = some method) (hi : id? v = some id) :
    ∃ r remarks, Remarks setup s v r remarks ∧
      logged (request setup id method (paramsOf v) s).events = remarks.map Remark.line ∧
      emitted (request setup id method (paramsOf v) s).events =
        r.toList.filter fun r => (setup.deliver r).isNone := by
  have hroom := Setup.hasRoom_of_fits hf hm
  have hattended := request_attended setup id method (.inr h) hroom
  have hclosed := (replied_traceClosed setup method (paramsOf v) (begun setup id method (paramsOf v) s)).trans
    ((begun_agrees setup id method (paramsOf v) s).traceClosed.trans h)
  have htraced : logged (traced setup (.request id method (paramsOf v)) s).events = _ := logged_traced h hroom
  cases replied_notes hb method (paramsOf v) (begun setup id method (paramsOf v) s) with
  | raised fails raises stops log =>
    refine ⟨none, _, .unshown hf hm hi fails raises, ?_, (hattended.raises _ stops).emitted⟩
    rw [request_of_raised id method (.inr h) hroom stops, logged_append, log, List.append_nil, htraced]
  | @replied remark remarked goesOn log =>
    -- What a server answers that never refuses has a name in the trace.
    obtain ⟨status, hstatus⟩ : ∃ status, (responseTo setup id method (paramsOf v) s).status? = some status :=
      Response.exists_status? fun _ hc => isShown_of_code? hb.isNamed hc
    refine ⟨_, _, .request hf hm hi remarked, ?_, (hattended.sends goesOn ?_).emitted_eq⟩
    · obtain ⟨c, rfl, heq⟩ := request_of_replied id method (.inr h) hroom goesOn
      rw [heq, logged_append, logged_append, log, htraced, logged_concluded hclosed _ hstatus, conclusion, hstatus,
        Option.getD_some, List.map_append, List.map_append]
      rfl
    · simp [Setup.canName, hstatus]

/-- The line of the trace before a message, what its handler notes, and the line after it, in this order. -/
theorem dispatched_remarks (hb : setup.NeverRefuses) (v : Json) (h : s.traceClosed = false) :
    ∃ r remarks, Remarks setup s v r remarks ∧
      logged (dispatched setup v s).events = remarks.map Remark.line ∧
      emitted (dispatched setup v s).events = r.toList.filter fun r => (setup.deliver r).isNone := by
  cases hf : setup.fits v with
  | false =>
    rw [dispatched_of_misfit hf]
    exact ⟨none, [], .misfit hf, rfl, rfl⟩
  | true =>
    cases hm : method? v with
    | none =>
      rw [dispatched_of_invalid hm]
      exact ⟨_, _, .invalid hm, logged_emit _ s, (emit_sends setup _ s).emitted_eq⟩
    | some method =>
      cases hi : id? v with
      | some id =>
        rw [dispatched_of_request hm hi]
        exact request_remarks hb h hf hm hi
      | none =>
        have hroom := Setup.hasRoom_of_fits hf hm
        obtain ⟨failure, hfailed, hshown, hlog⟩ := logged_heard setup method (paramsOf v)
          (traced setup (.notification method (paramsOf v)) s).state
        rw [(traced_bides setup (.notification method (paramsOf v)) s).agrees.store] at hfailed
        refine ⟨none, _, .notification hf hm hi hfailed hshown, ?_, ?_⟩
        · rw [dispatched_of_notification hm hi, notification_begun (.inr h) hroom, logged_append,
            logged_traced h hroom, hlog, List.map_append]
        · rw [dispatched_of_notification hm hi, notification_begun (.inr h) hroom, emitted_append, emitted_traced,
            emitted_heard]
          rfl

end Messages

section Runs

variable {setup : Setup σ}

theorem eventsDuring_diary (hb : setup.NeverRefuses) (ms : List Json) {s : State σ} (h : s.traceClosed = false) :
    ∃ responses remarks, Diary setup s ms responses remarks ∧
      logged (eventsDuring setup ms s) = remarks.map Remark.line ∧
      emitted (eventsDuring setup ms s) = responses.filter fun r => (setup.deliver r).isNone := by
  induction ms generalizing s with
  | nil => exact ⟨[], [], .done, rfl, rfl⟩
  | cons v rest ih =>
    obtain ⟨r, remarks, hv, hlog, hemitted⟩ := dispatched_remarks hb v h
    obtain ⟨responses, later, hrest, hlater, hresponses⟩ := ih ((dispatched_traceClosed setup v s).trans h)
    refine ⟨_, _, .next hv hrest, ?_, ?_⟩
    · rw [eventsDuring, logged_append, hlog, hlater, List.map_append]
    · rw [eventsDuring, emitted_append, hemitted, hresponses, List.filter_append]

theorem isInitialization_iff {v id : Json} {method : Text} (hm : method? v = some method) (hi : id? v = some id) :
    isInitialization v ↔
      method = Text.ofString "initialize" ∧ ∃ p : InitializeParams, p.StandsIn (paramsOf v) := by
  rw [isInitialization, initialization?, hm, hi]
  simp only [Option.some.injEq, Option.isSome_some, and_true, ← (Params.initialization_reads).accepts]
  by_cases h : method = Text.ofString "initialize"
  · cases Params.initialization (paramsOf v) <;> simp [h, Except.toOption]
  · simp [h]

theorem countP_toList {α : Type} (o : Option α) (p : α → Bool) : o.toList.countP p = if o.any p then 1 else 0 := by
  cases o <;> simp

theorem countP_missed (e : Trace.Event) (s : State σ) :
    (missed setup e s).countP Remark.isAccepted = 0 ∧ (missed setup e s).countP Remark.isRequest = 0 := by
  have hnone {p : Remark → Bool} (hp : ∀ r, p (.untraced r) = false) (o : Option File.Refusal) :
      (o.toList.map Remark.untraced).countP p = 0 := by
    cases o <;> simp [hp]
  unfold missed
  split
  · exact ⟨rfl, rfl⟩
  · exact ⟨hnone (fun _ => rfl) _, hnone (fun _ => rfl) _⟩

theorem Fails.ne_initialize {u : State σ} {params : Json} {method : Text} {f : Fault} {host : σ}
    (h : Fails setup u params method f host) : method ≠ Text.ofString "initialize" := by
  cases h with
  | @asked operation =>
    have hm : RequestMethod.ofText? operation.method = some (.document operation) :=
      RequestMethod.ofText?_method (.document operation)
    exact method_ne_initialize (by rw [hm]; simp)
  | _ => decide

/-- Of a request, it is noted that it is accepted or that it fails, as its params and its answer say. -/
theorem Remarked.any_iff {u : State σ} {method : Text} {params : Json} {r : Response} {remark : Option Remark}
    (h : Remarked setup u method params r.reply remark) :
    (remark.any Remark.isAccepted ↔
        method = Text.ofString "initialize" ∧ ∃ p : InitializeParams, p.StandsIn params) ∧
      remark.any Remark.isRequest = decide (r.code? = some (-32603)) := by
  generalize hr : r.reply = reply at h
  cases h with
  | accepted hm sound isResult =>
    rw [Response.code?_eq_none fun e he => isResult e (hr.symm.trans he)]
    exact ⟨iff_of_true rfl ⟨hm, _, sound⟩, rfl⟩
  | succeeded isOther =>
    rw [Response.code?_eq_none (by rw [hr]; exact nofun)]
    exact ⟨iff_of_false nofun fun h => isOther h.1, rfl⟩
  | refused isRefusal unsound =>
    rw [Response.code?_of_error hr]
    refine ⟨iff_of_false nofun fun ⟨hm, p, hp⟩ => unsound hm p hp, ?_⟩
    rcases isRefusal with rfl | rfl <;> rfl
  | failed fails isShown =>
    rw [Response.code?_of_error hr]
    exact ⟨iff_of_false nofun fun h => fails.ne_initialize h.1, rfl⟩

/-- What is noted about a reply discloses what it is about. -/
theorem Remarked.discloses {u : State σ} {method : Text} {params : Json} {reply : Reply} {remark : Option Remark}
    (h : Remarked setup u method params reply remark) : ∀ r ∈ remark, r.Discloses := by
  rintro r hr
  cases h with
  | accepted =>
    cases hr
    trivial
  | succeeded | refused => cases hr
  | failed fails isShown =>
    cases hr
    exact Remark.discloses_request isShown ..

theorem discloses_missed (e : Trace.Event) (s : State σ) : ∀ r ∈ missed setup e s, r.Discloses := by
  intro r hr
  unfold missed at hr
  split at hr
  · exact absurd hr List.not_mem_nil
  · obtain ⟨refusal, -, rfl⟩ := List.mem_map.1 hr
    trivial

theorem Remarks.discloses {s : State σ} {v : Json} {r : Option Response} {remarks : List Remark}
    (h : Remarks setup s v r remarks) : ∀ remark ∈ remarks, remark.Discloses := by
  intro remark hr
  cases h with
  | misfit | invalid => exact absurd hr List.not_mem_nil
  | unshown => exact discloses_missed _ _ remark hr
  | request fits hm hi remarked =>
    rcases List.mem_append.1 hr with hr | hr
    · exact discloses_missed _ _ remark hr
    · rcases List.mem_append.1 hr with hr | hr
      · exact remarked.discloses remark (Option.mem_toList.1 hr)
      · exact discloses_missed _ _ remark hr
  | notification fits hm hi hfailed hshown =>
    rcases List.mem_append.1 hr with hr | hr
    · exact discloses_missed _ _ remark hr
    · obtain ⟨⟨f, shown⟩, hmem, rfl⟩ := List.mem_map.1 hr
      exact Remark.discloses_notification (hshown f shown (Option.mem_toList.1 hmem)) _

theorem Remarks.counts {s : State σ} {v : Json} {r : Option Response} {remarks : List Remark}
    (h : Remarks setup s v r remarks) :
    remarks.countP Remark.isAccepted = (if isInitialization v && setup.fits v then 1 else 0) ∧
      remarks.countP Remark.isRequest = r.toList.countP fun r => r.code? = some (-32603) := by
  cases h with
  | misfit hasNoRoom => simp [hasNoRoom]
  | invalid hm =>
    have hv : isInitialization v = false := by simp [isInitialization, initialization?, hm]
    have hcode : (Response.invalid ((id? v).getD .null)).code? = some (-32600) :=
      Response.code?_of_error (r := .invalid ((id? v).getD .null)) rfl
    simp [hv, hcode]
  | @notification method failure fits hm hi =>
    have hv : isInitialization v = false := by simp [isInitialization, initialization?, hi]
    rw [List.countP_append, List.countP_append, (countP_missed _ _).1, (countP_missed _ _).2, hv]
    cases failure <;> exact ⟨rfl, rfl⟩
  | @unshown id method f host r fits hm hi fails =>
    have hv : isInitialization v = false :=
      Bool.eq_false_iff.2 fun h => fails.ne_initialize ((isInitialization_iff hm hi).1 h).1
    rw [(countP_missed _ _).1, (countP_missed _ _).2, hv]
    exact ⟨rfl, rfl⟩
  | request fits hm hi hremarked =>
    obtain ⟨haccepted, hrequest⟩ := hremarked.any_iff
    simp only [List.countP_append, (countP_missed _ _).1, (countP_missed _ _).2, countP_toList, haccepted, hrequest,
      ← isInitialization_iff hm hi, fits, Bool.and_true]
    exact ⟨by omega, by simp⟩

/-- One greeting for each client that is accepted and one line for each internal error. -/
theorem Diary.counts {s : State σ} {ms : List Json} {responses : List Response} {remarks : List Remark}
    (h : Diary setup s ms responses remarks) :
    remarks.countP Remark.isAccepted = ms.countP (fun v => isInitialization v && setup.fits v) ∧
      remarks.countP Remark.isRequest = responses.countP fun r => r.code? = some (-32603) := by
  induction h with
  | done => exact ⟨rfl, rfl⟩
  | next hv _ ih =>
    obtain ⟨haccepted, hrequest⟩ := hv.counts
    rw [List.countP_append, List.countP_append, List.countP_append, List.countP_cons, haccepted, hrequest, ih.1, ih.2]
    exact ⟨Nat.add_comm .., rfl⟩

theorem Diary.discloses {s : State σ} {ms : List Json} {responses : List Response} {remarks : List Remark}
    (h : Diary setup s ms responses remarks) : ∀ r ∈ remarks, r.Discloses := by
  induction h with
  | done => exact fun r hr => absurd hr List.not_mem_nil
  | next hv _ ih => exact fun r hr => (List.mem_append.1 hr).elim (hv.discloses r) (ih r)

/-- A log that has a line for all that is worth one and no other: the lines are those of a diary of the messages, of
whose responses all are sent that can be, with one for each client that is accepted and one for each internal error. -/
structure Tells (setup : Setup σ) (s : State σ) (ms : List Json) (events : List Event) (responses : List Response)
    (remarks : List Remark) : Prop where
  diary : Diary setup s ms responses remarks
  log : logged events = remarks.map Remark.line
  sent : emitted events = responses.filter fun r => (setup.deliver r).isNone
  greetings : remarks.countP Remark.isAccepted = ms.countP fun v => isInitialization v && setup.fits v
  internalErrors : remarks.countP Remark.isRequest = responses.countP fun r => r.code? = some (-32603)
  discloses : ∀ r ∈ remarks, r.Discloses

/-- Whatever comes in, and whichever lines the trace takes, the log tells of the messages that are dispatched. -/
theorem run_tells {setup : Setup σ} (hb : setup.NeverRefuses) (host : σ) (vs : List Json) :
    ∃ responses remarks, Tells setup (.start host) (reached setup (vs.flatMap flattened) (.start host))
      (run setup vs (.start host)).events responses remarks := by
  have hevents := (each_reached setup (vs.flatMap flattened) (.start host)).2
  rw [← run_eq_each] at hevents
  obtain ⟨responses, remarks, hdiary, hlog, hsent⟩ :=
    eventsDuring_diary hb (reached setup (vs.flatMap flattened) (.start host)) (s := .start host) rfl
  rw [← hevents] at hlog hsent
  obtain ⟨hgreetings, hinternal⟩ := hdiary.counts
  exact ⟨responses, remarks, hdiary, hlog, hsent, hgreetings, hinternal, hdiary.discloses⟩

/-- A server whose backend always fails, and whose trace takes eight lines only. -/
def hapless : Setup Nat :=
  { cramped 0 with
    ask := fun host store _ => (.failed (.backend "boom"), store, host)
    account := fun _ f => f.account
    tracing := some
      { limit := 10
        depth := stackRoom
        time := fun _ => ⟨⟨1970, 1, 1⟩, 0, 0, 0, 0, none⟩
        write := fun taken _ => if taken < 8 then (none, taken + 1) else (some .noSpace, taken)
        close := fun _ _ => none } }

theorem hapless_neverRefuses : hapless.NeverRefuses where
  ask _ _ _ _ h := nomatch h
  launch _ _ _ h := nomatch h

/-- A client that is accepted, asks in vain, closes nothing, and sends what nobody knows. -/
def unluckyClient : Json :=
  .array [.record [("id", .int 1), ("method", Json.string "initialize"),
      ("params", .record [("processId", .null), ("capabilities", .record []),
        ("clientInfo", .record [("name", Json.string "vi")])])],
    .record [("id", .int 2), ("method", Json.string "textDocument/documentSymbol"),
      ("params", .record [("textDocument", .record [("uri", Json.string "u")])])],
    .record [("id", .int 3), ("method", Json.string "bogus")],
    .record [("method", Json.string "textDocument/didChange"),
      ("params", .record [("textDocument", .record [("uri", Json.string "u")]), ("contentChanges", .array [])])],
    .record [("method", Json.string "$/progress")],
    .record [("method", Json.string "exit")]]

theorem run_tells_unluckyClient :
    hapless.NeverRefuses ∧
      ∃ responses remarks, Tells hapless (.start 0) (reached hapless ([unluckyClient].flatMap flattened) (.start 0))
          (run hapless [unluckyClient] (.start 0)).events responses remarks ∧
        remarks.map Remark.line =
          [Text.ofString "Initialized by vi",
            Text.ofString ("Error in method textDocument/documentSymbol: RuntimeError('boom')\n" ++
              "Traceback (most recent call last):\nRuntimeError: boom"),
            Text.ofString "Error in notification textDocument/didChange: KeyError('u')",
            Text.ofString "Trace write failed: OSError(28, 'No space left on device')"] ∧
        remarks.countP Remark.isRequest = 1 := by
  obtain ⟨responses, remarks, h⟩ := run_tells hapless_neverRefuses 0 [unluckyClient]
  obtain ⟨hlog, hsent⟩ : logged (run hapless [unluckyClient] (.start 0)).events =
        [Text.ofString "Initialized by vi",
          Text.ofString ("Error in method textDocument/documentSymbol: RuntimeError('boom')\n" ++
            "Traceback (most recent call last):\nRuntimeError: boom"),
          Text.ofString "Error in notification textDocument/didChange: KeyError('u')",
          Text.ofString "Trace write failed: OSError(28, 'No space left on device')"] ∧
      (emitted (run hapless [unluckyClient] (.start 0)).events).countP
        (fun r => r.code? = some (-32603)) = 1 := by
    decide +kernel
  have hall : responses.filter (fun r => (hapless.deliver r).isNone) = responses :=
    List.filter_eq_self.2 fun _ _ => rfl
  refine ⟨hapless_neverRefuses, responses, remarks, h, h.log.symm.trans hlog, ?_⟩
  rw [h.internalErrors, ← hall, ← h.sent]
  exact hsent

end Runs

end LspEndpoint.Server
