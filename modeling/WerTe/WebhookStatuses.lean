import WerTe.Schema
import WerTe.Words.Runs

/-!
# What a webhook says

The normaliser of the webhooks of payment providers takes the fields of a payment or refund event
out of its payload, wherever the provider has put them, and reads a status from what the event's
type and status say.

* `normalizePaymentEvent` and `normalizeRefundEvent`: what is taken from a payload
* `resolve_readsWholeWords_iff`: when a status is only read from a whole word
* `normalizedStatus_wholeWords_iff`: when the two kinds of statuses are
-/

namespace WerTe.ProviderWebhookNormalizer

open Words

/-! ## JSON -/

/-- A JSON value. -/
inductive Json
  | null
  | bool (value : Bool)
  | number (value : ℚ)
  | string (value : String)
  | array (values : List Json)
  | object (fields : List (String × Json))

/-- The fields of an object, which has at most one of each name. -/
abbrev JsonRecord := List (String × Json)

def asRecord : Option Json → Option JsonRecord
  | some (.object fields) => some fields
  | _ => none

/-- The value of the first key that has text for one. -/
def readString (source : JsonRecord) (keys : List String) : Option String :=
  keys.findSome? fun key =>
    match source.lookup key with
    | some (.string value) => if trim value ≠ "" then some value else none
    | _ => none

def extractDataObject (root : JsonRecord) : JsonRecord :=
  let data := asRecord (root.lookup "data")
  let dataObject := asRecord (data.bind fun data => data.lookup "object")
  let object := asRecord (root.lookup "object")
  ((dataObject.or data).or object).getD root

def extractMetadata (root object : JsonRecord) : JsonRecord :=
  ((asRecord (object.lookup "metadata")).or (asRecord (root.lookup "metadata"))).getD []

/-! ## The statuses -/

/-- Unicode's letters and lower case, with what is relied on of them: a blank is no letter, the
letters of English are, and what lower case makes of a text is not affected by what stands on the
other side of a blank. -/
structure Unicode where
  isLetter : Char → Bool
  isLetter_blank : isLetter ' ' = false
  isLetter_lower : ∀ c, c.isLower = true → isLetter c = true
  toLowerCase : String → String
  toLowerCase_blank : ∀ left right,
    toLowerCase (left ++ " " ++ right) = toLowerCase left ++ " " ++ toLowerCase right

variable (unicode : Unicode)

/-- `String.prototype.includes`. -/
def includes (value needle : String) : Bool := decide (needle.toList <:+: value.toList)

def containsAny (value : String) (needles : List String) : Bool := needles.any (includes value)

def combined (eventType : String) (statusText : Option String) : String :=
  unicode.toLowerCase (eventType ++ " " ++ statusText.getD "")

def normalizePaymentStatus (eventType : String) (statusText : Option String) :
    Option PaymentStatus :=
  let combined := combined unicode eventType statusText
  if containsAny combined ["succeeded", "success", "paid", "captured", "completed"] then
    some .succeeded
  else if containsAny combined ["failed", "failure", "declined", "error"] then some .failed
  else if containsAny combined ["cancelled", "canceled"] then some .cancelled
  else if includes combined "expired" then some .expired
  else if includes combined "requires_action" then some .requiresAction
  else if includes combined "processing" then some .processing
  else if includes combined "pending" then some .pending
  else none

def normalizeRefundStatus (eventType : String) (statusText : Option String) :
    Option RefundStatus :=
  let combined := combined unicode eventType statusText
  if containsAny combined ["succeeded", "success", "completed"] then some .succeeded
  else if containsAny combined ["failed", "failure", "declined", "error"] then some .failed
  else if containsAny combined ["cancelled", "canceled"] then some .cancelled
  else if includes combined "processing" then some .processing
  else if includes combined "pending" then some .pending
  else none

/-! ## The events -/

structure NormalizedPaymentProviderEvent where
  providerEventId : Option String
  eventType : String
  paymentId : Option String
  orderId : Option String
  providerReference : Option String
  normalizedStatus : Option PaymentStatus

structure NormalizedRefundProviderEvent where
  providerEventId : Option String
  eventType : String
  refundId : Option String
  paymentId : Option String
  orderId : Option String
  providerReference : Option String
  normalizedStatus : Option RefundStatus

/-- Both kinds of events have their type under these keys. -/
def readEventType (root : JsonRecord) : String :=
  (readString root ["eventType", "event_type", "type", "event", "kind", "name"]).getD "unknown"

def readProviderEventId (root : JsonRecord) : Option String :=
  readString root ["providerEventId", "provider_event_id", "eventId", "event_id", "id"]

def readPaymentId (metadata object : JsonRecord) : Option String :=
  (readString metadata ["paymentId", "payment_id", "internalPaymentId", "internal_payment_id"]).or
    (readString object ["paymentId", "payment_id"])

def readRefundId (metadata object : JsonRecord) : Option String :=
  (readString metadata ["refundId", "refund_id", "internalRefundId", "internal_refund_id"]).or
    (readString object ["refundId", "refund_id"])

def readOrderId (metadata object : JsonRecord) : Option String :=
  (readString metadata ["orderId", "order_id", "internalOrderId", "internal_order_id"]).or
    (readString object ["orderId", "order_id"])

def paymentStatusText (root object : JsonRecord) : Option String :=
  (readString object ["status", "paymentStatus", "payment_status"]).or
    (readString root ["status"])

def refundStatusText (root object : JsonRecord) : Option String :=
  (readString object ["status", "refundStatus", "refund_status"]).or (readString root ["status"])

def normalizePaymentEvent (payload : Json) : NormalizedPaymentProviderEvent :=
  let root := (asRecord payload).getD []
  let object := extractDataObject root
  let metadata := extractMetadata root object
  let eventType := readEventType root
  { providerEventId := readProviderEventId root
    eventType
    paymentId := readPaymentId metadata object
    orderId := readOrderId metadata object
    providerReference := readString object
      ["providerReference", "provider_reference", "paymentIntentId", "payment_intent",
        "transactionId", "transaction_id", "reference", "id"]
    normalizedStatus := normalizePaymentStatus unicode eventType (paymentStatusText root object) }

def normalizeRefundEvent (payload : Json) : NormalizedRefundProviderEvent :=
  let root := (asRecord payload).getD []
  let object := extractDataObject root
  let metadata := extractMetadata root object
  let eventType := readEventType root
  { providerEventId := readProviderEventId root
    eventType
    refundId := readRefundId metadata object
    paymentId := readPaymentId metadata object
    orderId := readOrderId metadata object
    providerReference := readString object
      ["providerReference", "provider_reference", "refundId", "refund_id", "transactionId",
        "transaction_id", "reference", "id"]
    normalizedStatus := normalizeRefundStatus unicode eventType (refundStatusText root object) }

/-! ## When a status is read from a whole word -/

section Vocabularies

variable {Status : Type}

/-- The first of the statuses of whose vocabulary something occurs in the text. -/
def resolve (vocabularies : List (Status × List String)) (text : String) : Option Status :=
  (vocabularies.find? fun row => containsAny text row.2).map Prod.fst

@[simp] theorem resolve_nil (text : String) :
    resolve ([] : List (Status × List String)) text = none := rfl

theorem resolve_cons (status : Status) (words : List String)
    (vocabularies : List (Status × List String)) (text : String) :
    resolve ((status, words) :: vocabularies) text =
      if containsAny text words = true then some status else resolve vocabularies text := by
  by_cases h : containsAny text words = true
  · simp [resolve, h]
  · simp [resolve, h]

@[simp] theorem containsAny_singleton (value needle : String) :
    containsAny value [needle] = includes value needle := by
  simp [containsAny]

/-- One of the statuses of the vocabularies is only read where one of the words is in its
vocabulary. -/
def ReadsWholeWords (vocabularies : List (Status × List String)) (words : List (List Char))
    (status : Option Status) : Prop :=
  ∀ row ∈ vocabularies, status = some row.1 → ∃ word ∈ row.2, word.toList ∈ words

/-- Of the first vocabulary that occurs in the text, something stands in it with no letter on
either side. -/
def FirstStandsAlone (vocabularies : List (Status × List String)) (text : String) : Prop :=
  ∀ before row after, vocabularies = before ++ row :: after →
    (∀ earlier ∈ before, containsAny text earlier.2 = false) → containsAny text row.2 = true →
    ∃ word ∈ row.2, StandsAlone unicode.isLetter word.toList text.toList

/-- The statuses differ, so a status is read exactly where its vocabulary is the first one that
occurs. -/
theorem resolve_eq_some_iff {vocabularies others : List (Status × List String)} {text : String}
    {row : Status × List String} (hnodup : ((vocabularies ++ others).map Prod.fst).Nodup)
    (hrow : row ∈ vocabularies) : resolve (vocabularies ++ others) text = some row.1 ↔
      containsAny text row.2 = true ∧ ∃ before after, vocabularies = before ++ row :: after ∧
        ∀ earlier ∈ before, containsAny text earlier.2 = false := by
  have hfirst : resolve (vocabularies ++ others) text = some row.1 ↔
      (vocabularies.find? fun row => containsAny text row.2) = some row := by
    rw [resolve, List.find?_append, Option.map_eq_some_iff]
    constructor
    · rintro ⟨found, hfound, hsame⟩
      have hmem : found ∈ vocabularies ++ others := by
        rw [← List.find?_append] at hfound
        exact List.mem_of_find?_eq_some hfound
      obtain rfl : found = row :=
        List.inj_on_of_nodup_map hnodup hmem (List.mem_append_left _ hrow) hsame
      cases hfind : vocabularies.find? fun row => containsAny text row.2 with
      | some first => rwa [hfind] at hfound
      | none =>
        rw [hfind, Option.none_or] at hfound
        exact absurd (List.find?_some hfound) (List.find?_eq_none.mp hfind _ hrow)
    · intro hfind
      exact ⟨row, by rw [hfind, Option.some_or], rfl⟩
  rw [hfirst, List.find?_eq_some_iff_append]
  simp only [Bool.not_eq_true', exists_and_right]

/-- Words of letters, of vocabularies with different statuses, are read whole exactly when the
first vocabulary that occurs has a word that stands alone. -/
theorem resolve_readsWholeWords_iff {vocabularies others : List (Status × List String)}
    (text : String) (hnodup : ((vocabularies ++ others).map Prod.fst).Nodup)
    (hletters : ∀ row ∈ vocabularies, ∀ word ∈ row.2,
      word.toList ≠ [] ∧ word.toList.all Char.isLower = true) :
    ReadsWholeWords vocabularies (runs unicode.isLetter text.toList)
        (resolve (vocabularies ++ others) text) ↔
      FirstStandsAlone unicode vocabularies text := by
  have halone : ∀ row ∈ vocabularies, ∀ word ∈ row.2,
      (word.toList ∈ runs unicode.isLetter text.toList ↔
        StandsAlone unicode.isLetter word.toList text.toList) := by
    intro row hrow word hword
    obtain ⟨hne, hlower⟩ := hletters row hrow word hword
    rw [mem_runs_iff, and_iff_right hne,
      and_iff_right fun c hc => unicode.isLetter_lower c (List.all_eq_true.mp hlower c hc)]
  constructor
  · intro hreads before row after hsplit hbefore hoccurs
    have hrow : row ∈ vocabularies := hsplit ▸ by simp
    obtain ⟨word, hword, hrun⟩ := hreads row hrow
      ((resolve_eq_some_iff hnodup hrow).mpr ⟨hoccurs, before, after, hsplit, hbefore⟩)
    exact ⟨word, hword, (halone row hrow word hword).mp hrun⟩
  · intro hfirst row hrow hstatus
    obtain ⟨hoccurs, before, after, hsplit, hbefore⟩ :=
      (resolve_eq_some_iff hnodup hrow).mp hstatus
    obtain ⟨word, hword, hstands⟩ := hfirst before row after hsplit hbefore hoccurs
    exact ⟨word, hword, (halone row hrow word hword).mpr hstands⟩

end Vocabularies

/-! ## Payments and refunds -/

/-- What says how a payment has ended. -/
def paymentVocabularies : List (PaymentStatus × List String) :=
  [(.succeeded, ["succeeded", "success", "paid", "captured", "completed"]),
    (.failed, ["failed", "failure", "declined", "error"]),
    (.cancelled, ["cancelled", "canceled"]), (.expired, ["expired"])]

/-- What says how a refund has ended. -/
def refundVocabularies : List (RefundStatus × List String) :=
  [(.succeeded, ["succeeded", "success", "completed"]),
    (.failed, ["failed", "failure", "declined", "error"]),
    (.cancelled, ["cancelled", "canceled"])]

/-- The words of the type and of the status of an event, in lower case. -/
def eventWords (eventType : String) (statusText : Option String) : List (List Char) :=
  runs unicode.isLetter (unicode.toLowerCase eventType).toList ++
    runs unicode.isLetter (unicode.toLowerCase (statusText.getD "")).toList

theorem runs_combined (eventType : String) (statusText : Option String) :
    runs unicode.isLetter (combined unicode eventType statusText).toList =
      eventWords unicode eventType statusText := by
  rw [combined, unicode.toLowerCase_blank, String.toList_append, String.toList_append,
    List.append_assoc]
  exact runs_append_cons _ _ unicode.isLetter_blank

theorem normalizePaymentStatus_eq (eventType : String) (statusText : Option String) :
    normalizePaymentStatus unicode eventType statusText =
      resolve (paymentVocabularies ++ [(.requiresAction, ["requires_action"]),
        (.processing, ["processing"]), (.pending, ["pending"])])
        (combined unicode eventType statusText) := by
  simp only [normalizePaymentStatus, paymentVocabularies, List.cons_append, List.nil_append,
    resolve_cons, resolve_nil, containsAny_singleton]

theorem normalizeRefundStatus_eq (eventType : String) (statusText : Option String) :
    normalizeRefundStatus unicode eventType statusText =
      resolve (refundVocabularies ++ [(.processing, ["processing"]), (.pending, ["pending"])])
        (combined unicode eventType statusText) := by
  simp only [normalizeRefundStatus, refundVocabularies, List.cons_append, List.nil_append,
    resolve_cons, resolve_nil, containsAny_singleton]

/-- The end of a payment or of a refund is read from a whole word exactly when the first of the
vocabularies that occurs anywhere in the event's type and status has a word that does so with no
letter next to it. -/
theorem normalizedStatus_wholeWords_iff (eventType : String) (statusText : Option String) :
    (ReadsWholeWords paymentVocabularies (eventWords unicode eventType statusText)
        (normalizePaymentStatus unicode eventType statusText) ↔
      FirstStandsAlone unicode paymentVocabularies (combined unicode eventType statusText)) ∧
    (ReadsWholeWords refundVocabularies (eventWords unicode eventType statusText)
        (normalizeRefundStatus unicode eventType statusText) ↔
      FirstStandsAlone unicode refundVocabularies (combined unicode eventType statusText)) := by
  rw [normalizePaymentStatus_eq, normalizeRefundStatus_eq, ← runs_combined]
  exact ⟨resolve_readsWholeWords_iff unicode _ (by decide) (by decide),
    resolve_readsWholeWords_iff unicode _ (by decide) (by decide)⟩

/-- Texts with no letters but those of English. -/
def english : Unicode where
  isLetter := Char.isAlpha
  isLetter_blank := rfl
  isLetter_lower c hc := Bool.or_eq_true_iff.mpr (.inr hc)
  toLowerCase text := .ofList (text.toList.map Char.toLower)
  toLowerCase_blank left right := by
    simp [← String.toList_inj]

/-- An invoice that nobody has paid. -/
def unpaidInvoice : Json :=
  .object [("type", .string "invoice.updated"), ("data", .object [("status", .string "unpaid")])]

/-- The unpaid invoice is a payment that has succeeded. -/
theorem unpaid_succeeded :
    (normalizePaymentEvent english unpaidInvoice).normalizedStatus = some .succeeded ∧
      (normalizePaymentEvent english unpaidInvoice).normalizedStatus =
        normalizePaymentStatus english "invoice.updated" (some "unpaid") ∧
      ¬ReadsWholeWords paymentVocabularies
        (eventWords english "invoice.updated" (some "unpaid"))
        (normalizePaymentStatus english "invoice.updated" (some "unpaid")) := by
  refine ⟨by decide +kernel, by decide +kernel, fun hreads => ?_⟩
  obtain ⟨word, hword, hrun⟩ := hreads (.succeeded, _) List.mem_cons_self (by decide +kernel)
  revert word
  decide +kernel

end WerTe.ProviderWebhookNormalizer
