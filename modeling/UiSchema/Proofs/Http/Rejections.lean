import Mathlib.Data.List.Forall2
import UiSchema.Http.Client
import UiSchema.Proofs.Text.Octets

/-!
# What a post is answered with

A response of a success status answers a post with the document in its body. Any other response
rejects the post with messages: those that the document lists under `errors`, or one that names the
status if there is no such list. A list without entries counts as one, so a rejection may come
without any message, and this is the only way.
-/

namespace UiSchema

set_option autoImplicit false

namespace Text

theorem joinWith_eq_intercalate (separator : String) (texts : List String) :
    joinWith separator texts = separator.intercalate texts := by
  rw [← String.toList_inj, String.toList_intercalate]
  induction texts with
  | nil => rfl
  | cons text rest ih =>
    cases rest with
    | nil => exact (List.append_nil text.toList).symm
    | cons next rest =>
      have hstep : joinWith separator (text :: next :: rest) =
          text ++ separator ++ joinWith separator (next :: rest) := rfl
      rw [hstep, String.toList_append, String.toList_append, ih]
      exact List.intercalate_cons_cons.symm

end Text

namespace ErrorSet

/-- The entry of an error set for a field of a list of errors. A list is told by its items, any other
value by its text. -/
inductive Tells : String × Json → String × String → Prop
  | items (key : String) (items : List Json) :
      Tells (key, .arr items) (key, "; ".intercalate (items.map textOf))
  | value (key : String) {v : Json} (hv : ∀ items, v ≠ .arr items) : Tells (key, v) (key, textOf v)

variable {body : Json} {fields : Dict Json} {errors : ErrorSet}

theorem tells_messageOf (key : String) (v : Json) : Tells (key, v) (key, messageOf v) := by
  cases v with
  | arr items =>
    rw [messageOf, Text.joinWith_eq_intercalate]
    exact .items key items
  | _ => exact .value key nofun

theorem forall₂_tells (fields : Dict Json) :
    List.Forall₂ Tells fields (Dict.mapValues messageOf fields) := by
  induction fields with
  | nil => exact .nil
  | cons field rest ih => exact .cons (tells_messageOf field.1 field.2) ih

theorem ofBody?_of_errors (h : body.field? "errors" = some (.obj fields)) :
    ofBody? body = some (Dict.mapValues messageOf fields) := by
  rw [ofBody?, h]

theorem ofBody?_eq_none (h : ∀ fields, body.field? "errors" ≠ some (.obj fields)) :
    ofBody? body = none := by
  rw [ofBody?]
  split
  · rename_i fields hfields
    exact absurd hfields (h fields)
  · rfl

end ErrorSet

namespace Http

/-- The document that a body holds: null without bytes, else the one that its text writes. -/
inductive Holds : ByteArray → Json → Prop
  | nothing : Holds ByteArray.empty .null
  | text {s : String} {v : Json} (hne : s ≠ "") (hv : Json.parse? s = some v) : Holds s.toUTF8 v

namespace Client

variable {complaint : ByteArray → String} {url : String} {status : Nat} {body : ByteArray} {v : Json}

theorem document?_eq_some_iff : document? body = some v ↔ Holds body v := by
  unfold document?
  constructor
  · intro h
    split at h
    · rename_i hsize
      cases h
      rw [ByteArray.size_eq_zero_iff.mp hsize]
      exact .nothing
    · rename_i hsize
      obtain ⟨s, htext, hparse⟩ := Option.bind_eq_some_iff.mp h
      rw [Text.fromUTF8?_eq_some_iff.mp htext] at hsize ⊢
      refine .text (fun hempty => hsize ?_) hparse
      rw [hempty]
      rfl
  · rintro (_ | ⟨hne, hparse⟩)
    · rfl
    · rename_i s
      have hsize : s.toUTF8.size ≠ 0 := by
        intro hzero
        exact hne (String.toByteArray_eq_empty_iff.mp (ByteArray.size_eq_zero_iff.mp hzero))
      rw [if_neg hsize, Text.fromUTF8?_eq_some_iff.mpr rfl, Option.bind_some, hparse]

theorem document_of_holds (hv : Holds body v) : document complaint body = .ok v := by
  rw [document, document?_eq_some_iff.mpr hv]

theorem document_of_holds_nothing (h : ∀ v, ¬Holds body v) :
    document complaint body = .error (complaint body) := by
  have hnone : document? body = none :=
    Option.eq_none_iff_forall_ne_some.mpr (fun v hv => h v (document?_eq_some_iff.mp hv))
  rw [document, hnone]

theorem rejection_of_errors {fields : Dict Json} (hv : Holds body v)
    (hfields : v.field? "errors" = some (.obj fields)) :
    rejection url status body = Dict.mapValues ErrorSet.messageOf fields := by
  rw [rejection, document?_eq_some_iff.mpr hv, Option.bind_some,
    ErrorSet.ofBody?_of_errors hfields]

theorem rejection_without_errors
    (h : ∀ v fields, Holds body v → v.field? "errors" ≠ some (.obj fields)) :
    rejection url status body =
      ErrorSet.single "err" ("HTTP error " ++ statusText status ++ ": " ++ url) := by
  have hnone : (document? body).bind ErrorSet.ofBody? = none := by
    refine Option.bind_eq_none_iff.mpr (fun v hbody => ?_)
    exact ErrorSet.ofBody?_eq_none (fun fields => h v fields (document?_eq_some_iff.mp hbody))
  rw [rejection, hnone]

/-- Only a list of errors without entries leaves a rejection without a message. -/
theorem rejection_eq_nil_iff : rejection url status body = [] ↔
    ∃ v, Holds body v ∧ v.field? "errors" = some (.obj []) := by
  constructor
  · intro h
    refine Classical.byContradiction (fun hnone => ?_)
    by_cases hlisted : ∃ v fields, Holds body v ∧ v.field? "errors" = some (.obj fields)
    · obtain ⟨v, fields, hv, hfields⟩ := hlisted
      rw [rejection_of_errors hv hfields, Dict.mapValues, List.map_eq_nil_iff] at h
      exact hnone ⟨v, hv, h ▸ hfields⟩
    · rw [rejection_without_errors (fun v fields hv hfields => hlisted ⟨v, fields, hv, hfields⟩)] at h
      exact List.cons_ne_nil _ _ h
  · rintro ⟨v, hv, hfields⟩
    rw [rejection_of_errors hv hfields]
    rfl

theorem post_eq_posted {c : Client} {network : Network} {earlier : List Call} {endpoint : String}
    {payload : Json}
    (h : c.send network earlier .post (c.url endpoint) (some payload.compact) = .ok (status, body)) :
    (c.transport network).post earlier endpoint payload =
      posted network.complaint (c.url endpoint) status body := by
  simp only [transport, h]

/-- What a post comes to when its request is answered. Outside the success range it is rejected, with
the messages that the body lists under `errors`, or with one that names the status if the body lists
none; it has no message exactly when the body lists errors but the list is empty. Within the success
range its result is the document in the body, or the complaint about a body that holds none. -/
theorem post_answered (c : Client) (network : Network) (earlier : List Call) (endpoint : String)
    (payload : Json) (status : Nat) (body : ByteArray)
    (h : c.send network earlier .post (c.url endpoint) (some payload.compact) = .ok (status, body)) :
    (¬(200 ≤ status ∧ status < 300) → ∃ errors,
      (c.transport network).post earlier endpoint payload = .error errors ∧
      (∀ v fields, Holds body v → v.field? "errors" = some (.obj fields) →
        List.Forall₂ ErrorSet.Tells fields errors) ∧
      ((∀ v fields, Holds body v → v.field? "errors" ≠ some (.obj fields)) →
        errors = ErrorSet.single "err"
          ("HTTP error " ++ statusText status ++ ": " ++ c.url endpoint)) ∧
      (errors = [] ↔ ∃ v, Holds body v ∧ v.field? "errors" = some (.obj []))) ∧
    (200 ≤ status ∧ status < 300 →
      (∀ v, Holds body v → (c.transport network).post earlier endpoint payload = .ok v) ∧
      ((∀ v, ¬Holds body v) → (c.transport network).post earlier endpoint payload =
        .error (ErrorSet.single "err" (network.complaint body)))) := by
  rw [post_eq_posted h]
  constructor
  · intro hstatus
    have hfailed : isSuccess status = false := decide_eq_false hstatus
    refine ⟨rejection (c.url endpoint) status body, ?_, ?_, rejection_without_errors,
      rejection_eq_nil_iff⟩
    · rw [posted, hfailed]
      rfl
    · intro v fields hv hfields
      rw [rejection_of_errors hv hfields]
      exact ErrorSet.forall₂_tells fields
  · intro hstatus
    have hsuccess : isSuccess status = true := decide_eq_true hstatus
    rw [posted, hsuccess]
    constructor
    · intro v hv
      rw [document_of_holds hv]
      rfl
    · intro hnone
      rw [document_of_holds_nothing hnone]
      rfl

/-- A shop that takes orders, reached without a name. -/
def shop : Client := ⟨some "http://[::1]/api", none⟩

/-- The network in which every request gets one response. -/
def answering (status : Nat) (body : String) : Network where
  answer _ _ := .answered status body.toUTF8
  complaint _ := "expected value at line 1 column 1"

theorem send_shop (status : Nat) (body : String) (payload : Option String) :
    shop.send (answering status body) [] .post (shop.url "/orders") payload =
      .ok (status, body.toUTF8) := by
  have hurl : shop.url "/orders" = "http://[::1]/api/orders" := by decide
  have hnormal : Url.webUrl "http://[::1]/api/orders" = .ok "http://[::1]/api/orders" := by rfl
  simp only [send, hurl, hnormal, answering]

/-- A body that lists two errors under a name and a boolean under the stock. -/
def twoErrors : String :=
  "\x7b\"errors\":\x7b\"name\":[\"taken\",\"too long\"],\"stock\":false\x7d\x7d"

theorem order_refused_with_reasons :
    shop.send (answering 422 twoErrors) [] .post (shop.url "/orders") (some Json.null.compact) =
        .ok (422, twoErrors.toUTF8) ∧
      (shop.transport (answering 422 twoErrors)).post [] "/orders" .null =
        .error [("name", "taken; too long"), ("stock", "false")] := by
  have hsend := send_shop 422 twoErrors (some Json.null.compact)
  have hparse : Json.parse? twoErrors = some (.obj [("errors", .obj
      [("name", .arr [.str "taken", .str "too long"]), ("stock", .bool false)])]) := by rfl
  obtain ⟨errors, hpost, hlisted, _⟩ :=
    (post_answered shop (answering 422 twoErrors) [] "/orders" .null 422 twoErrors.toUTF8 hsend).1
      (by decide)
  have htells := hlisted _ _ (.text (by decide) hparse) rfl
  refine ⟨hsend, hpost.trans ?_⟩
  obtain _ | ⟨hname, hrest⟩ := htells
  obtain _ | ⟨hstock, hnone⟩ := hrest
  cases hnone
  cases hstock
  cases hname with
  | items => rfl
  | value _ hv => exact absurd rfl (hv _)

/-- A body with a list of errors that is empty. -/
def noErrors : String := "\x7b\"errors\":\x7b\x7d\x7d"

theorem order_refused_without_reason :
    ¬(200 ≤ 409 ∧ 409 < 300) ∧
      shop.send (answering 409 noErrors) [] .post (shop.url "/orders") (some Json.null.compact) =
        .ok (409, noErrors.toUTF8) ∧
      (shop.transport (answering 409 noErrors)).post [] "/orders" .null = .error [] := by
  have hsend := send_shop 409 noErrors (some Json.null.compact)
  have hparse : Json.parse? noErrors = some (.obj [("errors", .obj [])]) := by rfl
  have hempty : rejection (shop.url "/orders") 409 noErrors.toUTF8 = [] :=
    rejection_eq_nil_iff.mpr ⟨_, .text (by decide) hparse, rfl⟩
  refine ⟨by decide, hsend, (post_eq_posted hsend).trans ?_⟩
  rw [posted, hempty]
  rfl

end Client

end Http

end UiSchema
