/-
The collaborators of the state machines and the record of what a handler asks of them.

A Rust handler runs its side effects inline: it calls the anoncreds backend, the message
codec and the injected `send_message` callback, and every `?` returns early.  `Traced α`
mirrors this: the collaborator calls made, in order, and the result.  An error keeps the
calls made before it, so that "no message reached the peer" is a statement about `calls`.

* `Call` — the observable calls: the backend's four operations and the send callback;
* `Env` — the answers the collaborators give during one call of a handler;
* `Traced.sends` — the messages handed to the send callback;
* `Json`, `Json.render`, `Json.debug` — the `serde_json` values the codec parses, their
  compact text (`Value::to_string`) and their `Debug` text (`{:?}`).
-/
import CredentialIssuance.Messages

namespace CredentialIssuance

/-- The callback a handler is given: `Option<&impl Fn(&A2AMessage) -> VcxResult<()>>`. -/
abbrev SendMessage := A2AMessage → Except VcxError Unit

/-- A call to a collaborator, with its arguments. -/
inductive Call
  | createCredentialOffer (credDefId : String)
  | createCredential (offer request credData : String) (revRegId tailsFile : Option String)
  | revokeCredential (tailsFile revRegId credRevId : String)
  | revokeCredentialLocal (tailsFile revRegId credRevId : String)
  | send (msg : A2AMessage)
  deriving DecidableEq, Repr

/-- The message of a send call. -/
def Call.sent : Call → Option A2AMessage
  | .send m => some m
  | _ => none

/-! ### JSON values -/

/-- `serde_json::Value`.  A number is kept as the text `serde_json` writes for it: the digits
of an integer that fits `u64` or `i64`, otherwise the `f64` it was read as (an integer above
`u64::MAX` reads as a float), in float notation. -/
inductive Json
  | null
  | bool (b : Bool)
  | number (text : String)
  | string (s : String)
  | array (xs : List Json)
  | object (kvs : List (String × Json))
  deriving Repr

/-- A hexadecimal digit, as `serde_json` writes it. -/
def hexDigit (n : Nat) : Char := "0123456789abcdef".get ⟨n % 16⟩

/-- One character of a JSON string literal, escaped as `serde_json` escapes it. -/
def escapeChar (c : Char) : String :=
  match c.toNat with
  | 34 => "\\\""
  | 92 => "\\\\"
  | 10 => "\\n"
  | 13 => "\\r"
  | 9 => "\\t"
  | 8 => "\\b"
  | 12 => "\\f"
  | n => if n < 32 then "\\u00" ++ (hexDigit (n / 16)).toString ++ (hexDigit n).toString
    else c.toString

/-- A JSON string literal. -/
def quote (s : String) : String := "\"" ++ String.join (s.toList.map escapeChar) ++ "\""

mutual
/-- `Value::to_string`: the compact JSON text. -/
def Json.render : Json → String
  | .null => "null"
  | .bool b => if b then "true" else "false"
  | .number text => text
  | .string s => quote s
  | .array xs => "[" ++ Json.renderElems xs ++ "]"
  | .object kvs => "\x7b" ++ Json.renderFields kvs ++ "\x7d"
/-- The elements of an array, comma separated. -/
def Json.renderElems : List Json → String
  | [] => ""
  | [x] => x.render
  | x :: xs => x.render ++ "," ++ Json.renderElems xs
/-- The members of an object, comma separated. -/
def Json.renderFields : List (String × Json) → String
  | [] => ""
  | [(k, v)] => quote k ++ ":" ++ v.render
  | (k, v) :: kvs => quote k ++ ":" ++ v.render ++ "," ++ Json.renderFields kvs
end

/-- One character of a string in Rust's `Debug` form (`char::escape_debug`): a quote, a
backslash and the common control characters escaped with a backslash, the other control
characters as `\u` with their hexadecimal code in braces.  The Unicode tables of printable
and grapheme-extending characters are left out: every character from U+00A0 on is shown as
it is. -/
def debugEscapeChar (c : Char) : String :=
  match c.toNat with
  | 0 => "\\0"
  | 9 => "\\t"
  | 10 => "\\n"
  | 13 => "\\r"
  | 34 => "\\\""
  | 92 => "\\\\"
  | n => if n < 32 ∨ (127 ≤ n ∧ n < 160) then "\\u\x7b" ++ String.mk (Nat.toDigits 16 n) ++ "\x7d"
    else c.toString

/-- A string in Rust's `Debug` form. -/
def debugQuote (s : String) : String := "\"" ++ String.join (s.toList.map debugEscapeChar) ++ "\""

mutual
/-- `format!("{:?}", value)`: the `Debug` text `serde_json` writes for a value, `Null`,
`Bool(true)`, `Number(1)`, `String("a")`, `Array [..]` and `Object {..}`. -/
def Json.debug : Json → String
  | .null => "Null"
  | .bool b => "Bool(" ++ (if b then "true" else "false") ++ ")"
  | .number text => "Number(" ++ text ++ ")"
  | .string s => "String(" ++ debugQuote s ++ ")"
  | .array xs => "Array [" ++ Json.debugElems xs ++ "]"
  | .object kvs => "Object \x7b" ++ Json.debugFields kvs ++ "\x7d"
/-- The elements of an array in `Debug` form, as Rust writes a `Vec`. -/
def Json.debugElems : List Json → String
  | [] => ""
  | [x] => x.debug
  | x :: xs => x.debug ++ ", " ++ Json.debugElems xs
/-- The members of an object in `Debug` form, as Rust writes a map. -/
def Json.debugFields : List (String × Json) → String
  | [] => ""
  | [(k, v)] => debugQuote k ++ ": " ++ v.debug
  | (k, v) :: kvs => debugQuote k ++ ": " ++ v.debug ++ ", " ++ Json.debugFields kvs
end

example : (Json.object [("value", .string "x")]).debug =
    "Object \x7b\"value\": String(\"x\")\x7d" := by decide

/-- `Value::get(key)`: the member of an object, `None` on anything else. -/
def Json.get (v : Json) (key : String) : Option Json :=
  match v with
  | .object kvs => kvs.lookup key
  | _ => none

/-- A string is rendered as its quoted literal, never as its raw contents. -/
@[simp] theorem Json.render_string (s : String) : (Json.string s).render = quote s := by
  simp [Json.render]

/-! ### Collaborators -/

/-- What the collaborators answer during one handler call. The backend and the codec are
outside this repository; `encode_attributes` (issuer `utils.rs`) is absent from the files at
hand and taken as a parameter as well. -/
structure Env where
  /-- `MessageId::new()`: the id a freshly created message gets. -/
  freshId : String
  /-- `libindy_issuer_create_credential_offer(cred_def_id)`. -/
  createCredentialOffer : String → Except VcxError String
  /-- `libindy_issuer_create_credential(offer, request, cred_data, rev_reg_id, tails_file)`:
  the credential and its `cred_rev_id`. -/
  createCredential : String → String → String → Option String → Option String →
    Except VcxError (String × Option String)
  /-- `anoncreds::revoke_credential(tails_file, rev_reg_id, cred_rev_id)`. -/
  revokeCredential : String → String → String → Except VcxError Unit
  /-- `anoncreds::revoke_credential_local(tails_file, rev_reg_id, cred_rev_id)`. -/
  revokeCredentialLocal : String → String → String → Except VcxError Unit
  /-- `encode_attributes(cred_data)`. -/
  encodeAttributes : String → Except VcxError String
  /-- The codec's `add_base64_encoded_json_attachment`: the encoded attachment of a JSON text. -/
  attach : String → Except VcxError String
  /-- The codec's `Attachments::content`: the JSON text of an encoded attachment. -/
  content : String → Except VcxError String
  /-- `serde_json::from_str`: the value a text parses to, or the `Debug` text of the parser's
  error.  An object's members come in the map's iteration order, which with `serde_json`'s
  default features (a `BTreeMap`) is sorted by key. -/
  parseJson : String → Except String Json

/-! ### Results -/

section ExceptLemmas

variable {ε α β : Type}

@[simp] theorem except_pure (a : α) : (pure a : Except ε α) = .ok a := rfl

@[simp] theorem except_ok_bind (a : α) (f : α → Except ε β) : (Except.ok a >>= f) = f a := rfl

@[simp] theorem except_error_bind (e : ε) (f : α → Except ε β) :
    (Except.error e >>= f) = .error e := rfl

@[simp] theorem except_map_ok (f : α → β) (a : α) : (f <$> (Except.ok a : Except ε α)) = .ok (f a) :=
  rfl

@[simp] theorem except_map_error (f : α → β) (e : ε) :
    (f <$> (Except.error e : Except ε α)) = .error e := rfl

/-- Peeling one `?` off a successful result. -/
theorem except_bind_eq_ok {x : Except ε α} {f : α → Except ε β} {b : β} :
    (x >>= f) = .ok b ↔ ∃ a, x = .ok a ∧ f a = .ok b := by
  cases x <;> simp

end ExceptLemmas

/-- A computation that calls collaborators: the calls made, in order, and its result. -/
structure Traced (α : Type) where
  calls : List Call
  result : Except VcxError α

namespace Traced

variable {α β : Type}

/-- Sequencing: an error stops the computation and keeps the calls made so far. -/
def bind : Traced α → (α → Traced β) → Traced β
  | ⟨cs, .ok a⟩, f => ⟨cs ++ (f a).calls, (f a).result⟩
  | ⟨cs, .error e⟩, _ => ⟨cs, .error e⟩

instance : Monad Traced where
  pure a := ⟨[], .ok a⟩
  bind := bind

/-- A local fallible step, a `?` on a result that calls no collaborator. -/
def lift (r : Except VcxError α) : Traced α := ⟨[], r⟩

/-- A collaborator call `c` that answers `r`. -/
def call (c : Call) (r : Except VcxError α) : Traced α := ⟨[c], r⟩

/-- A `match` on a result instead of `?`: the calls are kept, the outcome becomes the value. -/
def attempt (t : Traced α) : Traced (Except VcxError α) := ⟨t.calls, .ok t.result⟩

/-- The messages handed to the send callback. -/
def sends (t : Traced α) : List A2AMessage := t.calls.filterMap Call.sent

@[simp] theorem pure_calls (a : α) : (pure a : Traced α).calls = [] := rfl

@[simp] theorem pure_result (a : α) : (pure a : Traced α).result = .ok a := rfl

@[simp] theorem lift_calls (r : Except VcxError α) : (lift r).calls = [] := rfl

@[simp] theorem lift_result (r : Except VcxError α) : (lift r).result = r := rfl

@[simp] theorem call_calls (c : Call) (r : Except VcxError α) : (call c r).calls = [c] := rfl

@[simp] theorem call_result (c : Call) (r : Except VcxError α) : (call c r).result = r := rfl

@[simp] theorem attempt_calls (t : Traced α) : t.attempt.calls = t.calls := rfl

@[simp] theorem attempt_result (t : Traced α) : t.attempt.result = .ok t.result := rfl

@[simp] theorem mk_ok_bind (cs : List Call) (a : α) (f : α → Traced β) :
    (⟨cs, .ok a⟩ : Traced α) >>= f = ⟨cs ++ (f a).calls, (f a).result⟩ := rfl

@[simp] theorem mk_error_bind (cs : List Call) (e : VcxError) (f : α → Traced β) :
    (⟨cs, .error e⟩ : Traced α) >>= f = ⟨cs, .error e⟩ := rfl

@[simp] theorem bind_result (x : Traced α) (f : α → Traced β) :
    (x >>= f).result = x.result >>= fun a => (f a).result := by
  rcases x with ⟨cs, _ | a⟩ <;> rfl

theorem bind_calls (x : Traced α) (f : α → Traced β) :
    (x >>= f).calls = x.calls ++ match x.result with
      | .ok a => (f a).calls
      | .error _ => [] := by
  rcases x with ⟨cs, _ | a⟩ <;> simp [Bind.bind, bind]

theorem bind_of_result_ok {x : Traced α} {a : α} (h : x.result = .ok a) (f : α → Traced β) :
    x >>= f = ⟨x.calls ++ (f a).calls, (f a).result⟩ := by
  rcases x with ⟨cs, r⟩
  subst h
  rfl

theorem bind_of_result_error {x : Traced α} {e : VcxError} (h : x.result = .error e)
    (f : α → Traced β) : x >>= f = ⟨x.calls, .error e⟩ := by
  rcases x with ⟨cs, r⟩
  subst h
  rfl

@[simp] theorem sends_mk (cs : List Call) (r : Except VcxError α) :
    sends ⟨cs, r⟩ = cs.filterMap Call.sent := rfl

end Traced

end CredentialIssuance
