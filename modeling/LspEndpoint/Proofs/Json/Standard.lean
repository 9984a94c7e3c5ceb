import LspEndpoint.Proofs.Json.Acceptance
import LspEndpoint.Proofs.Json.RoundTrip

/-!
Which values are written in standard form. What is written for a value is a document of the standard exactly if all its
doubles are finite, for the standard has no word for another.
-/
namespace LspEndpoint.Json

abbrev IsFinite (v : Json) : Prop := AllDoubles (·.isFinite) v

section Doubles

variable {p : Binary64 → Prop}

mutual

/-- Without doubles, there is none of the wrong kind. -/
theorem allDoubles_of_hasDouble : ∀ {v : Json}, v.hasDouble = false → AllDoubles p v
  | .null, _ => .null
  | .bool b, _ => .bool b
  | .int n, _ => .int n
  | .float _, h => by cases h
  | .text t, _ => .text t
  | .array _, h => .array (allDoubles_of_hasDoubleItems h)
  | .object _, h => .object (allDoubles_of_hasDoubleMembers h)

theorem allDoubles_of_hasDoubleItems : ∀ {items : List Json}, hasDoubleItems items = false → ∀ v ∈ items, AllDoubles p v
  | [], _ => fun _ h => absurd h List.not_mem_nil
  | _ :: _, h =>
    have h := Bool.or_eq_false_iff.1 h
    List.forall_mem_cons.2 ⟨allDoubles_of_hasDouble h.1, allDoubles_of_hasDoubleItems h.2⟩

theorem allDoubles_of_hasDoubleMembers :
    ∀ {members : Members}, hasDoubleMembers members = false → ∀ m ∈ members, AllDoubles p m.2
  | [], _ => fun _ h => absurd h List.not_mem_nil
  | (_, _) :: _, h =>
    have h := Bool.or_eq_false_iff.1 h
    List.forall_mem_cons.2 ⟨allDoubles_of_hasDouble h.1, allDoubles_of_hasDoubleMembers h.2⟩

end

theorem AllDoubles.get? {v : Json} (h : AllDoubles p v) {key : Text} {w : Json} (hw : v.get? key = some w) :
    AllDoubles p w := by
  cases h with
  | object all =>
    obtain ⟨before, after, he, -⟩ := List.lookup_eq_some_iff.1 hw
    exact all (key, w) (by simp [he])
  | _ => cases hw

theorem allDoubles_object_iff {members : Members} : AllDoubles p (.object members) ↔ ∀ m ∈ members, AllDoubles p m.2 :=
  ⟨fun h => by cases h; assumption, .object⟩

end Doubles

section Writing

theorem isSpaces_nil : IsSpaces [] := fun _ h => absurd h List.not_mem_nil

theorem isSpaces_space : IsSpaces [CodePoint.ofChar ' '] := List.forall_mem_singleton.2 rfl

/-- A numeral that is written is one of the grammar. -/
theorem Numeral.IsWritten.isNumber {n : Numeral} (h : n.IsWritten) : IsNumber n.text := by
  refine .mk ?_ ?_ ?_ ?_
  · cases n.negative <;> simp
  · rcases h.whole with hw | ⟨c, t, hw, hc⟩
    · exact hw ▸ .zero
    · have hd := h.digits
      rw [hw] at hd ⊢
      exact .digits hc (hd c (List.mem_cons_self ..)) fun d hm => hd d (List.mem_cons_of_mem _ hm)
  · rw [fractionText]
    split
    · exact .none
    · exact .digits ⟨‹_›, h.fraction⟩
  · cases he : n.exponent with
    | none => exact .none
    | some e =>
      obtain ⟨negative, digits⟩ := e
      have hm : [CodePoint.ofChar (if negative then '-' else '+')] ∈
          [[], [CodePoint.ofChar '+'], [CodePoint.ofChar '-']] := by
        cases negative <;> simp
      exact .digits (.inl rfl) hm (h.exponent _ he)

theorem IsCharacters.append {s t : Text} (hs : IsCharacters s) (ht : IsCharacters t) : IsCharacters (s ++ t) := by
  induction hs with
  | nil => exact ht
  | plain control quote escape _ ih => exact .plain control quote escape ih
  | escape short _ ih => exact .escape short ih
  | unicode four hex _ ih =>
    rw [List.cons_append, List.cons_append, List.append_assoc]
    exact .unicode four hex ih

theorem isCharacters_unicodeEscape (c : CodePoint) : IsCharacters (unicodeEscape c) := by
  have hd (n : Nat) : (CodePoint.hexDigit n).hexValue?.isSome := by rw [CodePoint.hexValue?_hexDigit]; rfl
  have hx : ∀ d ∈ Text.ofHex 4 c.val, d.hexValue?.isSome := by
    rw [Text.ofHex_four]
    simp only [List.forall_mem_cons, hd, true_and]
    exact fun _ h => absurd h List.not_mem_nil
  rw [unicodeEscape_eq, ← List.append_nil (Text.ofHex 4 c.val)]
  exact .unicode rfl hx .nil

theorem isCharacters_escaped (c : CodePoint) : IsCharacters (escaped false c) := by
  cases hs : shortEscape c with
  | some t =>
    obtain ⟨e, rfl, -, he⟩ := shortEscape?_of_shortEscape hs
    simp only [escaped, hs]
    exact .escape (mem_of_shortEscape? he) .nil
  | none =>
    simp only [escaped, hs, Bool.not_false, Bool.true_or, if_true]
    split
    · exact isCharacters_unicodeEscape c
    · exact .plain (by omega) (fun e => absurd (e ▸ hs) (by decide)) (fun e => absurd (e ▸ hs) (by decide)) .nil

theorem isString_renderText (t : Text) : IsString (renderText false t) := by
  refine .mk ?_
  induction t with
  | nil => exact .nil
  | cons c t ih => exact (isCharacters_escaped c).append ih

theorem derives_renderItems {items : List Json} (h : ∀ v ∈ items, Derives false .value (render false v))
    (hn : items ≠ []) : Derives false .items (renderItems false items) := by
  induction items with
  | nil => exact absurd rfl hn
  | cons v items ih =>
    have hv := h v (List.mem_cons_self ..)
    cases items with
    | nil =>
      rw [renderItems, ← List.append_nil (render false v)]
      exact .item hv isSpaces_nil
    | cons w items =>
      have hi := Derives.items hv isSpaces_nil isSpaces_space
        (ih (fun u hu => h u (List.mem_cons_of_mem _ hu)) (by simp))
      rw [renderItems, comma_eq, List.append_assoc]
      exact hi

theorem derives_renderMembers {members : Members} (h : ∀ m ∈ members, Derives false .value (render false m.2))
    (hn : members ≠ []) : Derives false .members (renderMembers false members) := by
  induction members with
  | nil => exact absurd rfl hn
  | cons m members ih =>
    obtain ⟨k, v⟩ := m
    have hv : Derives false .value (render false v) := h (k, v) (List.mem_cons_self ..)
    cases members with
    | nil =>
      have hm := Derives.member (isString_renderText k) isSpaces_nil isSpaces_space hv isSpaces_nil
      rw [renderMembers, colon_eq, List.append_assoc]
      rwa [List.append_nil] at hm
    | cons n members =>
      have hm := Derives.members (isString_renderText k) isSpaces_nil isSpaces_space hv
        isSpaces_nil isSpaces_space (ih (fun u hu => h u (List.mem_cons_of_mem _ hu)) (by simp))
      simpa only [renderMembers, colon_eq, comma_eq, List.append_assoc, List.cons_append, List.nil_append] using hm

/-- A value whose doubles are finite is written as the standard derives it. -/
theorem derives_render {v : Json} (h : v.IsFinite) : Derives false .value (render false v) := by
  induction h with
  | null => exact .word (w := "null") (by simp)
  | bool b =>
    cases b with
    | false => exact .word (w := "false") (by simp)
    | true => exact .word (w := "true") (by simp)
  | int n =>
    rw [render, ← Numeral.text_ofInt]
    exact .number (Numeral.isWritten_ofInt n).isNumber
  | @float x kind =>
    cases x with
    | finite negative rank =>
      obtain ⟨n, hn, -, ht⟩ := Binary64.text_finite negative rank
      rw [render, ht]
      exact .number hn.isNumber
    | _ => cases kind
  | text t => exact .string (isString_renderText t)
  | @array items _ ih =>
    rw [render, brackets_eq.1, brackets_eq.2, List.append_assoc, List.singleton_append]
    by_cases hn : items = []
    · rw [hn]
      exact .emptyArray isSpaces_nil
    · exact .array isSpaces_nil (derives_renderItems ih hn)
  | @object members _ ih =>
    rw [render, braces_eq.1, braces_eq.2, List.append_assoc, List.singleton_append]
    by_cases hn : members = []
    · rw [hn]
      exact .emptyObject isSpaces_nil
    · exact .object isSpaces_nil (derives_renderMembers ih hn)

end Writing

section Crossing

/-- Where a scan through a document stands: outside all strings, inside one, or right behind a backslash there. -/
inductive Zone
  | outside
  | inside
  | escape

/-- The scan passes a character, unless a word for what is no number begins with it. -/
def Zone.step : Zone → CodePoint → Option Zone
  | outside, c =>
    if c = '"' then some inside else if c = 'N' ∨ c = 'I' then none else some outside
  | inside, c => if c = '"' then some outside else if c = '\\' then some escape else some inside
  | escape, _ => some inside

def Zone.scan (z : Zone) (t : Text) : Option Zone := t.foldlM Zone.step z

/-- The scan comes from outside all strings to outside all strings. -/
def Crosses (t : Text) : Prop := Zone.outside.scan t = some .outside

theorem Zone.scan_append (z : Zone) (s t : Text) : z.scan (s ++ t) = (z.scan s).bind (·.scan t) :=
  List.foldlM_append

theorem Crosses.scan_append {s : Text} (h : Crosses s) (t : Text) :
    Zone.outside.scan (s ++ t) = Zone.outside.scan t := by
  rw [Zone.scan_append, h, Option.bind_some]

theorem Crosses.append {s t : Text} (hs : Crosses s) (ht : Crosses t) : Crosses (s ++ t) :=
  (hs.scan_append t).trans ht

/-- The character begins no string and no word for what is no number. -/
abbrev IsNeutral (c : CodePoint) : Prop :=
  c ≠ CodePoint.ofChar '"' ∧ c ≠ CodePoint.ofChar 'N' ∧ c ≠ CodePoint.ofChar 'I'

theorem crosses_cons {c : CodePoint} (h : IsNeutral c) {t : Text} (ht : Crosses t) : Crosses (c :: t) := by
  rw [Crosses, Zone.scan, List.foldlM_cons, Zone.step, if_neg h.1, if_neg fun hc => hc.elim h.2.1 h.2.2]
  exact ht

theorem crosses_of_isNeutral {t : Text} (h : ∀ c ∈ t, IsNeutral c) : Crosses t := by
  induction t with
  | nil => rfl
  | cons c t ih => exact crosses_cons (h c (List.mem_cons_self ..)) (ih fun d hd => h d (List.mem_cons_of_mem _ hd))

theorem isNeutral_of_isDigit {c : CodePoint} (h : c.isDigit) : IsNeutral c :=
  ⟨CodePoint.ne_of_isDigit h (by decide), CodePoint.ne_of_isDigit h (by decide),
    CodePoint.ne_of_isDigit h (by decide)⟩

theorem IsSpaces.crosses {s : Text} (h : IsSpaces s) : Crosses s := by
  refine crosses_of_isNeutral fun c hc => ?_
  have hs := h c hc
  refine ⟨?_, ?_, ?_⟩ <;>
    · rintro rfl
      exact absurd hs (by decide)

theorem IsNumber.crosses {t : Text} (h : IsNumber t) : Crosses t := by
  cases h with
  | @mk minus whole fraction exponent minus_mem whole_mem fraction_mem exponent_mem =>
    have hdigits {ds : Text} (h : ∀ c ∈ ds, c.isDigit) : Crosses ds :=
      crosses_of_isNeutral fun c hc => isNeutral_of_isDigit (h c hc)
    have hsign {sign : Text} (h : sign ∈ [[], [CodePoint.ofChar '+'], [CodePoint.ofChar '-']]) : Crosses sign := by
      simp only [List.mem_cons, List.not_mem_nil, or_false] at h
      rcases h with rfl | rfl | rfl <;> rfl
    have hminus : Crosses minus := by
      simp only [List.mem_cons, List.not_mem_nil, or_false] at minus_mem
      rcases minus_mem with rfl | rfl <;> rfl
    have hwhole : Crosses whole := by
      cases whole_mem with
      | zero => rfl
      | digits nonzero digit rest => exact crosses_cons (isNeutral_of_isDigit digit) (hdigits rest)
    have hfraction : Crosses fraction := by
      cases fraction_mem with
      | none => rfl
      | digits digits => exact crosses_cons (by decide) (hdigits digits.2)
    have hexponent : Crosses exponent := by
      cases exponent_mem with
      | none => rfl
      | digits mark sign_mem digits =>
        exact crosses_cons (by rcases mark with rfl | rfl <;> decide) ((hsign sign_mem).append (hdigits digits.2))
    exact hminus.append (hwhole.append (hfraction.append hexponent))

theorem scan_inside_cons {c : CodePoint} (hq : c ≠ CodePoint.ofChar '"') (hb : c ≠ CodePoint.ofChar '\\') (t : Text) :
    Zone.inside.scan (c :: t) = Zone.inside.scan t := by
  rw [Zone.scan, List.foldlM_cons, Zone.step, if_neg hq, if_neg hb]
  rfl

theorem scan_inside_escape (c : CodePoint) (t : Text) :
    Zone.inside.scan (CodePoint.ofChar '\\' :: c :: t) = Zone.inside.scan t := rfl

theorem ne_of_hexValue? {c : CodePoint} (h : c.hexValue?.isSome) :
    c ≠ CodePoint.ofChar '"' ∧ c ≠ CodePoint.ofChar '\\' := by
  constructor
  all_goals
    rintro rfl
    exact absurd h (by decide)

/-- Within a string the scan comes to its closing quote. -/
theorem IsCharacters.scan {t : Text} (h : IsCharacters t) (rest : Text) :
    Zone.inside.scan (t ++ rest) = Zone.inside.scan rest := by
  induction h with
  | nil => rfl
  | plain control quote escape _ ih => rw [List.cons_append, scan_inside_cons quote escape, ih]
  | escape short _ ih => rw [List.cons_append, List.cons_append, scan_inside_escape, ih]
  | @unicode ds t four hex _ ih =>
    have hds : ∀ ds : Text, (∀ d ∈ ds, d.hexValue?.isSome) → ∀ u, Zone.inside.scan (ds ++ u) = Zone.inside.scan u := by
      intro ds hex u
      induction ds with
      | nil => rfl
      | cons d ds ihd =>
        obtain ⟨hd, hds⟩ := List.forall_mem_cons.1 hex
        obtain ⟨hq, hb⟩ := ne_of_hexValue? hd
        rw [List.cons_append, scan_inside_cons hq hb, ihd hds]
    rw [List.cons_append, List.cons_append, scan_inside_escape, List.append_assoc, hds ds hex, ih]

theorem IsString.crosses {t : Text} (h : IsString t) : Crosses t := by
  cases h with
  | mk characters =>
    change Zone.inside.scan (_ ++ [CodePoint.ofChar '"']) = _
    rw [characters.scan]
    rfl

/-- No word for what is no number stands outside the strings of what the standard derives. -/
theorem Derives.crosses {symbol : Symbol} {t : Text} (h : Derives false symbol t) : Crosses t := by
  have hc {c : CodePoint} (hn : IsNeutral c) {t : Text} (ht : Crosses t) : Crosses (c :: t) := crosses_cons hn ht
  have hend {c : CodePoint} (hn : IsNeutral c) : Crosses [c] := crosses_cons hn rfl
  induction h with
  | word mem =>
    simp only [List.mem_cons, List.not_mem_nil, or_false] at mem
    rcases mem with rfl | rfl | rfl <;> rfl
  | laxWord allowed mem => cases allowed
  | number number => exact number.crosses
  | string string => exact string.crosses
  | emptyArray spaces => exact hc (by decide) (spaces.crosses.append (hend (by decide)))
  | array spaces _ ih => exact hc (by decide) (spaces.crosses.append (ih.append (hend (by decide))))
  | emptyObject spaces => exact hc (by decide) (spaces.crosses.append (hend (by decide)))
  | object spaces _ ih => exact hc (by decide) (spaces.crosses.append (ih.append (hend (by decide))))
  | item _ spaces ih => exact ih.append spaces.crosses
  | items _ spaces spaces' _ ih ih' =>
    exact ih.append (spaces.crosses.append (hc (by decide) (spaces'.crosses.append ih')))
  | member key spaces spaces' _ spaces'' ih =>
    exact key.crosses.append (spaces.crosses.append
      (hc (by decide) (spaces'.crosses.append (ih.append spaces''.crosses))))
  | members key spaces spaces' _ spaces'' spacesNext _ ih ih' =>
    exact key.crosses.append (spaces.crosses.append (hc (by decide) (spaces'.crosses.append
      (ih.append (spaces''.crosses.append (hc (by decide) (spacesNext.crosses.append ih')))))))

theorem IsStandard.crosses {t : Text} (h : IsStandard t) : Crosses t := by
  obtain ⟨s, v, s', hs, hv, hs', rfl⟩ := h
  exact hs.crosses.append (hv.crosses.append hs'.crosses)

/-- The scan goes through the text, wherever it comes out. -/
def Passes (t : Text) : Prop := ∃ z, Zone.outside.scan t = some z

theorem Passes.left {s t : Text} (h : Passes (s ++ t)) : Passes s := by
  obtain ⟨z, hz⟩ := h
  rw [Zone.scan_append] at hz
  obtain ⟨z', hs, -⟩ := Option.bind_eq_some_iff.1 hz
  exact ⟨z', hs⟩

theorem Passes.right {s t : Text} (h : Passes (s ++ t)) (hs : Crosses s) : Passes t := by
  obtain ⟨z, hz⟩ := h
  exact ⟨z, by rwa [hs.scan_append] at hz⟩

mutual

/-- The scan goes through what is written for a value only if all doubles of the value are finite. -/
theorem isFinite_of_passes : ∀ v, Passes (render false v) → v.IsFinite
  | .null, _ => .null
  | .bool b, _ => .bool b
  | .int n, _ => .int n
  | .text t, _ => .text t
  | .float (.finite negative rank), _ => .float rfl
  | .float .nan, ⟨_, h⟩ => nomatch h
  | .float (.infinite false), ⟨_, h⟩ => nomatch h
  | .float (.infinite true), ⟨_, h⟩ => nomatch h
  | .array items, h => by
    rw [render] at h
    exact .array (isFinite_of_passes_items items (h.left.right rfl))
  | .object members, h => by
    rw [render] at h
    exact .object (isFinite_of_passes_members members (h.left.right rfl))

theorem isFinite_of_passes_items : ∀ items, Passes (renderItems false items) → ∀ v ∈ items, v.IsFinite
  | [], _ => fun _ h => absurd h List.not_mem_nil
  | [v], h => List.forall_mem_singleton.2 (isFinite_of_passes v h)
  | v :: w :: rest, h => by
    rw [renderItems] at h
    have hv := isFinite_of_passes v h.left.left
    have hrest := h.right ((derives_render hv).crosses.append rfl)
    exact List.forall_mem_cons.2 ⟨hv, isFinite_of_passes_items (w :: rest) hrest⟩

theorem isFinite_of_passes_members : ∀ members, Passes (renderMembers false members) → ∀ m ∈ members, m.2.IsFinite
  | [], _ => fun _ h => absurd h List.not_mem_nil
  | [(k, v)], h => by
    rw [renderMembers] at h
    have hk := (isString_renderText k).crosses.append (t := ": ") rfl
    exact List.forall_mem_singleton.2 (isFinite_of_passes v (h.right hk))
  | (k, v) :: m :: rest, h => by
    rw [renderMembers] at h
    have hk := (isString_renderText k).crosses.append (t := ": ") rfl
    have hv := isFinite_of_passes v (h.left.left.right hk)
    have hrest := h.right ((hk.append (derives_render hv).crosses).append rfl)
    exact List.forall_mem_cons.2 ⟨hv, isFinite_of_passes_members (m :: rest) hrest⟩

end

end Crossing

/-- What is written for a value is a document of the standard exactly if all doubles of the value are finite. -/
theorem isStandard_render_iff (v : Json) : IsStandard (render false v) ↔ v.IsFinite := by
  constructor
  · intro h
    exact isFinite_of_passes v ⟨_, h.crosses⟩
  · intro h
    exact ⟨[], _, [], isSpaces_nil, derives_render h, isSpaces_nil, by rw [List.nil_append, List.append_nil]⟩

end LspEndpoint.Json
