/-
Assembling the credential preview of an offer (`_append_credential_preview`,
`issuer/state_machine.rs`, lines 352–385) and the offer builders it works on.

`credential_json` is parsed; a JSON array contributes one attribute per `{name, value}`
entry, a JSON object one per member, and any other value none.

* `appendCredentialPreview_array` — the array branch appends, in order, the JSON *texts* of
  each entry's `name` and `value` (`key.to_string()`, `value.to_string()`);
* `appendCredentialPreview_object` — the object branch appends each member's raw key with the
  JSON text of its value;
* `appendCredentialPreview_array_ne_object` — so the two encodings of one attribute list
  give different previews (`quote_ne`: a JSON text is never the raw string);
* `appendCredentialPreview_error`, `appendCredentialPreview_ok_iff` — the error paths: a text
  that does not parse, and an array entry without `name` or `value`, each with its message.
-/
import CredentialIssuance.Issuer.State
import Mathlib.Data.String.Basic

namespace CredentialIssuance

namespace CredentialOffer

/-- `CredentialOffer::create()`. Absent from the files at hand (`messages/`); modelled from
the spec (§3): an empty offer with a fresh `@id` and no thread reference. -/
def create (freshId : String) : CredentialOffer := ⟨freshId, none, none, "", []⟩

/-- `CredentialOffer::set_id`. Absent; modelled from the spec: sets the `@id`. -/
def setId (o : CredentialOffer) (id : String) : CredentialOffer := { o with id := id }

/-- `CredentialOffer::set_thread_id`. Absent; modelled from the spec: the offer names `tid`
as its thread. -/
def setThreadId (o : CredentialOffer) (tid : String) : CredentialOffer :=
  { o with thread := some ⟨tid⟩ }

/-- `CredentialOffer::set_comment`. Absent; modelled from the spec. -/
def setComment (o : CredentialOffer) (comment : Option String) : CredentialOffer :=
  { o with comment := comment }

/-- `CredentialOffer::set_offers_attach`. Absent; modelled from the spec (§4.3): the offer blob,
attached by the codec. -/
def setOffersAttach (env : Env) (o : CredentialOffer) (credOffer : String) :
    Except VcxError CredentialOffer :=
  (fun a => { o with offersAttach := a }) <$> env.attach credOffer

/-- `CredentialOffer::add_credential_preview_data`. Absent; modelled from the spec: the
attribute is appended. -/
def addCredentialPreviewData (o : CredentialOffer) (name value : String) (mimeType : MimeType) :
    Except VcxError CredentialOffer :=
  .ok { o with credentialPreview := o.credentialPreview ++ [⟨name, value, mimeType⟩] }

@[simp] theorem addCredentialPreviewData_eq (o : CredentialOffer) (name value : String)
    (mimeType : MimeType) :
    o.addCredentialPreviewData name value mimeType =
      .ok { o with credentialPreview := o.credentialPreview ++ [⟨name, value, mimeType⟩] } := rfl

end CredentialOffer

/-- The error for an array entry without the field `field`, showing the entry in its `Debug`
form (`format!("No 'name' field in cred_value: {:?}", cred_value)`). -/
def missingFieldError (field : String) (credValue : Json) : VcxError :=
  .fromMsg .invalidAttributesStructure
    ("No \x27" ++ field ++ "\x27 field in cred_value: " ++ credValue.debug)

/-- One iteration of the array loop: read `name` and `value`, append their texts. -/
def appendArrayEntry (newOffer : CredentialOffer) (credValue : Json) :
    Except VcxError CredentialOffer := do
  let key ← okOr (credValue.get "name") (missingFieldError "name" credValue)
  let value ← okOr (credValue.get "value") (missingFieldError "value" credValue)
  newOffer.addCredentialPreviewData key.render value.render .plain

/-- One iteration of the object loop: append the key and the text of its value. -/
def appendObjectEntry (newOffer : CredentialOffer) (item : String × Json) :
    Except VcxError CredentialOffer :=
  newOffer.addCredentialPreviewData item.1 item.2.render .plain

/-- The part of `_append_credential_preview` after parsing: the loop over the value.  The
object branch iterates the map in its own order, which with `serde_json`'s default `BTreeMap`
is sorted by key: the order `Env.parseJson` gives the members. -/
def appendCredentialPreviewValue (credOfferMsg : CredentialOffer) (credValues : Json) :
    Except VcxError CredentialOffer :=
  match credValues with
  | .array credValues => credValues.foldlM appendArrayEntry credOfferMsg
  | .object valuesMap => valuesMap.foldlM appendObjectEntry credOfferMsg
  | _ => .ok credOfferMsg

/-- The error for a credential preview text that does not parse. -/
def previewJsonError (credentialJson err : String) : VcxError :=
  .fromMsg .invalidJson ("Can\x27t deserialize credential preview json. credential_json: " ++
    credentialJson ++ ", error: " ++ err)

/-- `_append_credential_preview`. -/
def appendCredentialPreview (env : Env) (credOfferMsg : CredentialOffer) (credentialJson : String) :
    Except VcxError CredentialOffer := do
  let credValues ← (env.parseJson credentialJson).mapError (previewJsonError credentialJson)
  appendCredentialPreviewValue credOfferMsg credValues

/-! ### Error paths -/

theorem appendArrayEntry_eq (o : CredentialOffer) (x : Json) :
    appendArrayEntry o x =
      match x.get "name", x.get "value" with
      | some key, some value =>
        .ok { o with credentialPreview := o.credentialPreview ++ [⟨key.render, value.render, .plain⟩] }
      | none, _ => .error (missingFieldError "name" x)
      | some _, none => .error (missingFieldError "value" x) := by
  unfold appendArrayEntry
  rcases x.get "name" with _ | key <;> rcases x.get "value" with _ | value <;> rfl

/-- The array loop succeeds iff every entry names both fields. -/
theorem foldlM_appendArrayEntry_ok_iff (xs : List Json) (o : CredentialOffer) :
    (∃ o', xs.foldlM appendArrayEntry o = .ok o') ↔
      ∀ x ∈ xs, (x.get "name").isSome ∧ (x.get "value").isSome := by
  induction xs generalizing o with
  | nil => simp
  | cons x xs ih =>
    simp only [List.foldlM_cons, appendArrayEntry_eq, List.mem_cons, forall_eq_or_imp]
    rcases x.get "name" with _ | key <;> rcases x.get "value" with _ | value <;> simp [ih]

/-- An error of the array loop names the missing field of an entry: `name` if it lacks one,
else `value`. -/
theorem foldlM_appendArrayEntry_error {xs : List Json} {o : CredentialOffer} {e : VcxError}
    (h : xs.foldlM appendArrayEntry o = .error e) :
    ∃ x ∈ xs, (x.get "name" = none ∧ e = missingFieldError "name" x) ∨
      ((x.get "name").isSome ∧ x.get "value" = none ∧ e = missingFieldError "value" x) := by
  induction xs generalizing o with
  | nil => cases h
  | cons x xs ih =>
    simp only [List.foldlM_cons, appendArrayEntry_eq] at h
    rcases hn : x.get "name" with _ | key <;> rcases hv : x.get "value" with _ | value <;>
      simp only [hn, hv, except_error_bind, except_ok_bind, Except.error.injEq] at h
    · exact ⟨x, List.mem_cons_self _ _, .inl ⟨hn, h.symm⟩⟩
    · exact ⟨x, List.mem_cons_self _ _, .inl ⟨hn, h.symm⟩⟩
    · exact ⟨x, List.mem_cons_self _ _, .inr ⟨by simp [hn], hv, h.symm⟩⟩
    · obtain ⟨y, hy, hy'⟩ := ih h
      exact ⟨y, List.mem_cons_of_mem _ hy, hy'⟩

/-- The object loop never fails. -/
theorem foldlM_appendObjectEntry_ok (kvs : List (String × Json)) (o : CredentialOffer) :
    ∃ o', kvs.foldlM appendObjectEntry o = .ok o' := by
  induction kvs generalizing o with
  | nil => exact ⟨o, rfl⟩
  | cons kv kvs ih => exact ih _

/-- `_append_credential_preview` fails only on a text that does not parse, with an
`InvalidJson` error quoting it and the parser's error, or on an array with an entry missing a
field, with an `InvalidAttributesStructure` error naming the field and showing the entry. -/
theorem appendCredentialPreview_error {env : Env} {o : CredentialOffer} {credentialJson : String}
    {e : VcxError} (h : appendCredentialPreview env o credentialJson = .error e) :
    (∃ err, env.parseJson credentialJson = .error err ∧ e = previewJsonError credentialJson err) ∨
      ∃ xs, env.parseJson credentialJson = .ok (.array xs) ∧ ∃ x ∈ xs,
        (x.get "name" = none ∧ e = missingFieldError "name" x) ∨
        ((x.get "name").isSome ∧ x.get "value" = none ∧ e = missingFieldError "value" x) := by
  unfold appendCredentialPreview at h
  rcases hp : env.parseJson credentialJson with err | v <;>
    simp only [hp, Except.mapError, except_error_bind, except_ok_bind, Except.error.injEq] at h
  · exact .inl ⟨err, rfl, h.symm⟩
  cases v with
  | array xs => exact .inr ⟨xs, rfl, foldlM_appendArrayEntry_error h⟩
  | object kvs =>
    obtain ⟨o', ho'⟩ := foldlM_appendObjectEntry_ok kvs o
    simp only [appendCredentialPreviewValue, ho', reduceCtorEq] at h
  | _ => cases h

/-- `_append_credential_preview` succeeds iff the text parses and, if to an array, every
entry names both fields. -/
theorem appendCredentialPreview_ok_iff (env : Env) (o : CredentialOffer) (credentialJson : String) :
    (∃ o', appendCredentialPreview env o credentialJson = .ok o') ↔
      ∃ v, env.parseJson credentialJson = .ok v ∧
        ∀ xs, v = .array xs → ∀ x ∈ xs, (x.get "name").isSome ∧ (x.get "value").isSome := by
  unfold appendCredentialPreview
  rcases hp : env.parseJson credentialJson with err | v
  · simp [Except.mapError]
  simp only [Except.mapError, except_ok_bind, Except.ok.injEq, exists_eq_left']
  cases v with
  | array xs => simpa [appendCredentialPreviewValue] using foldlM_appendArrayEntry_ok_iff xs o
  | object kvs => simpa [appendCredentialPreviewValue] using foldlM_appendObjectEntry_ok kvs o
  | _ => simp [appendCredentialPreviewValue]

/-- A text the preview rejects is rejected whatever the offer, with an `InvalidJson` or an
`InvalidAttributesStructure` error. -/
theorem appendCredentialPreview_rejected {env : Env} {credentialJson : String}
    (h : ¬ ∃ v, env.parseJson credentialJson = .ok v ∧
      ∀ xs, v = .array xs → ∀ x ∈ xs, (x.get "name").isSome ∧ (x.get "value").isSome)
    (o : CredentialOffer) :
    ∃ e, appendCredentialPreview env o credentialJson = .error e ∧
      (e.kind = .invalidJson ∨ e.kind = .invalidAttributesStructure) := by
  rcases hp : appendCredentialPreview env o credentialJson with e | o'
  · refine ⟨e, rfl, ?_⟩
    rcases appendCredentialPreview_error hp with ⟨err, -, rfl⟩ | ⟨xs, -, x, -, ⟨-, rfl⟩ | ⟨-, -, rfl⟩⟩
    · exact .inl rfl
    · exact .inr rfl
    · exact .inr rfl
  · exact absurd ((appendCredentialPreview_ok_iff env o credentialJson).1 ⟨o', hp⟩) h

/-! ### The preview keeps the offer's thread -/

/-- An offer's `@id` and `~thread`, which building the preview leaves alone. -/
def CredentialOffer.header (o : CredentialOffer) : String × Option Thread := (o.id, o.thread)

theorem foldlM_header {β : Type} {step : CredentialOffer → β → Except VcxError CredentialOffer}
    (hstep : ∀ o b o', step o b = .ok o' → o'.header = o.header) :
    ∀ (xs : List β) (o o' : CredentialOffer), xs.foldlM step o = .ok o' → o'.header = o.header
  | [], o, o', h => by cases h; rfl
  | b :: xs, o, o', h => by
    simp only [List.foldlM_cons, except_bind_eq_ok] at h
    obtain ⟨o₁, h₁, h₂⟩ := h
    exact (foldlM_header hstep xs o₁ o' h₂).trans (hstep o b o₁ h₁)

theorem appendCredentialPreview_header {env : Env} {o o' : CredentialOffer} {credentialJson : String}
    (h : appendCredentialPreview env o credentialJson = .ok o') : o'.header = o.header := by
  simp only [appendCredentialPreview, except_bind_eq_ok] at h
  obtain ⟨v, -, h⟩ := h
  cases v with
  | array xs =>
    refine foldlM_header (fun o b o' hb => ?_) xs o o' h
    simp only [appendArrayEntry, except_bind_eq_ok, CredentialOffer.addCredentialPreviewData_eq] at hb
    obtain ⟨_, -, _, -, hb⟩ := hb
    cases hb
    rfl
  | object kvs =>
    refine foldlM_header (fun o b o' hb => ?_) kvs o o' h
    cases hb
    rfl
  | _ => cases h; rfl

theorem setOffersAttach_header {env : Env} {o o' : CredentialOffer} {credOffer : String}
    (h : o.setOffersAttach env credOffer = .ok o') : o'.header = o.header := by
  simp only [CredentialOffer.setOffersAttach] at h
  rcases ha : env.attach credOffer with e | a <;> rw [ha] at h <;> cases h
  rfl

/-! ### What the two branches append -/

theorem escapeChar_length_pos (c : Char) : 0 < (escapeChar c).length := by
  unfold escapeChar
  split <;> try decide
  split <;> simp

theorem quote_length (s : String) : s.length + 2 ≤ (quote s).length := by
  have h : ∀ l : List Char, l.length ≤ (String.join (l.map escapeChar)).length := by
    intro l
    induction l with
    | nil => simp
    | cons c l ih =>
      have := escapeChar_length_pos c
      simp only [String.join_eq, List.map_cons, List.flatten_cons, String.mk_length,
        List.length_append, List.length_cons, String.toList, String.length_data] at ih ⊢
      omega
  have := h s.toList
  have h1 : "\"".length = 1 := rfl
  have h2 : s.toList.length = s.length := String.length_data s
  rw [quote, String.length_append, String.length_append]
  omega

/-- The JSON text of a string is two quotes longer than the string: never the string. -/
theorem quote_ne (s : String) : quote s ≠ s := fun h => by
  have := quote_length s
  rw [h] at this
  omega

/-- The JSON array `[{"name": n, "value": v}, ...]` of an attribute list. -/
def arrayEncoding (attrs : List (String × String)) : Json :=
  .array (attrs.map fun a => .object [("name", .string a.1), ("value", .string a.2)])

/-- The JSON object `{n: v, ...}` of an attribute list. -/
def objectEncoding (attrs : List (String × String)) : Json :=
  .object (attrs.map fun a => (a.1, .string a.2))

/-- A plain-text preview attribute. -/
def plainAttribute (name value : String) : CredentialPreviewData := ⟨name, value, .plain⟩

/-- The array branch appends `(quote n, quote v)` for each entry, in the array's order. -/
theorem appendCredentialPreview_array (o : CredentialOffer) (attrs : List (String × String)) :
    appendCredentialPreviewValue o (arrayEncoding attrs) =
      .ok { o with credentialPreview :=
        o.credentialPreview ++ attrs.map fun a => plainAttribute (quote a.1) (quote a.2) } := by
  induction attrs generalizing o with
  | nil => simp [appendCredentialPreviewValue, arrayEncoding]
  | cons a attrs ih =>
    simp only [appendCredentialPreviewValue, arrayEncoding] at ih ⊢
    simp [appendArrayEntry, Json.get, List.lookup_cons, ih, plainAttribute]

/-- The object branch appends `(n, quote v)` for each member, in the map's order. -/
theorem appendCredentialPreview_object (o : CredentialOffer) (attrs : List (String × String)) :
    appendCredentialPreviewValue o (objectEncoding attrs) =
      .ok { o with credentialPreview :=
        o.credentialPreview ++ attrs.map fun a => plainAttribute a.1 (quote a.2) } := by
  induction attrs generalizing o with
  | nil => simp [appendCredentialPreviewValue, objectEncoding]
  | cons a attrs ih =>
    simp only [appendCredentialPreviewValue, objectEncoding] at ih ⊢
    simp [appendObjectEntry, ih, plainAttribute]

/-- For every non-empty attribute list, the array encoding and the object encoding give
different previews: the array branch writes the name's JSON text, the object branch the
raw name. -/
theorem appendCredentialPreview_array_ne_object (o : CredentialOffer) (a : String × String)
    (attrs : List (String × String)) :
    appendCredentialPreviewValue o (arrayEncoding (a :: attrs)) ≠
      appendCredentialPreviewValue o (objectEncoding (a :: attrs)) := by
  rw [appendCredentialPreview_array, appendCredentialPreview_object]
  intro h
  simp only [Except.ok.injEq, CredentialOffer.mk.injEq, List.map_cons, List.append_cancel_left_eq,
    List.cons.injEq, plainAttribute, CredentialPreviewData.mk.injEq] at h
  exact quote_ne a.1 h.2.2.2.2.1.1

end CredentialIssuance
