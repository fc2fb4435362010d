import AppSurvey.Proofs.Outcome
import AppSurvey.Proofs.Store.Collection
import AppSurvey.Proofs.Store.Paging

/-!
# Which failures leave an exchange

The page client gets pages and posts a form for lists. `Means` is the table of what the network may bring and
what it means: a text, or a failure of the store. Both exchanges keep to it where they understand what is
brought. Where the store is asked too often, the seconds to wait are read as a whole number, and a text that
is none (a date, for instance) leaves the client as a failure to read a number; bytes that are no text leave
it as a failure to decode them. A list may also tell of results that its schema refuses.
-/

namespace AppSurvey.Store

open Talk

/-! ## What the network brings -/

/-- How a message gets lost: it takes too long, or it cannot be brought. -/
inductive Loss where
  | late
  | broken

def Loss.failure : Loss → TransportFailure
  | .late => .timeout
  | .broken => .client

/-- The failure of the store that a loss means. -/
def Loss.meaning (timeout url : Value) : Loss → StoreError
  | .late => .timeout (.string "HTTP request") timeout
  | .broken => .network url

/-- Why a body is no text: it gets lost on the way, or its bytes cannot be decoded. -/
inductive Garble where
  | lost (loss : Loss)
  | undecodable (message : String)

def Garble.failure : Garble → BodyFailure
  | .lost loss => .lost loss.failure
  | .undecodable message => .undecodable message

/-- A response: its status, texts by name, and a body that is a text if it can be read. -/
structure Reply where
  status : Int
  headers : List (String × String)
  body : Except Garble String

def Reply.response (reply : Reply) : Response where
  status := .ofInt reply.status
  headers := .record (reply.headers.map fun header => (header.1, .string header.2))
  body := (reply.body.map Value.string).mapError Garble.failure

/-- What a message comes to on the network. -/
abbrev Delivery := Except Loss Reply

def Delivery.answer (delivery : Delivery) : Except TransportFailure Response :=
  (delivery.map Reply.response).mapError Loss.failure

/-- The seconds to wait are those that the headers tell, or else the default. -/
def Reply.Waits (reply : Reply) (seconds : Int) : Prop :=
  match header? reply.headers "Retry-After" with
  | none => seconds = StoreError.defaultRetryAfter
  | some text => Text.wholeNumber text = .ok seconds

namespace Delivery

/-- The store is asked too often, and the text that tells how long to wait is no whole number. -/
def TellsNoWait (delivery : Delivery) (fault : Text.WholeNumberFault) : Prop :=
  ∃ reply text, delivery = .ok reply ∧ reply.status = 429 ∧
    header? reply.headers "Retry-After" = some text ∧ Text.wholeNumber text = .error fault

/-- The store answers, but with bytes that are no text. -/
def TellsNoText (delivery : Delivery) (message : String) : Prop :=
  ∃ reply, delivery = .ok reply ∧ reply.status < 400 ∧ reply.body = .error (.undecodable message)

/-- What is brought can be read: a number where it tells how long to wait, and a text where the store
answers. -/
structure IsReadable (delivery : Delivery) : Prop where
  wait : ∀ fault, ¬ delivery.TellsNoWait fault
  text : ∀ message, ¬ delivery.TellsNoText message

/-- The store answers with a text. -/
def Brings (delivery : Delivery) (text : String) : Prop :=
  ∃ reply, delivery = .ok reply ∧ reply.status < 400 ∧ reply.body = .ok text

end Delivery

/-- What a delivery means. A page that does not exist means `missing`, if that is told apart. -/
inductive Means (timeout url : Value) (missing : Option StoreError) :
    Delivery → Except StoreError String → Prop
  | lost (loss : Loss) : Means timeout url missing (.error loss) (.error (loss.meaning timeout url))
  | limited {reply : Reply} {seconds : Int} (hstatus : reply.status = 429)
      (hwaits : reply.Waits seconds) :
      Means timeout url missing (.ok reply) (.error (.rateLimit (.ofInt seconds)))
  | absent {reply : Reply} {error : StoreError} (hstatus : reply.status = 404)
      (hmissing : missing = some error) : Means timeout url missing (.ok reply) (.error error)
  | refused {reply : Reply} (hstatus : 400 ≤ reply.status) (hlimited : reply.status ≠ 429)
      (habsent : reply.status = 404 → missing = none) :
      Means timeout url missing (.ok reply) (.error (.network url (.ofInt reply.status)))
  | arrived {reply : Reply} {text : String} (hstatus : reply.status < 400)
      (hbody : reply.body = .ok text) : Means timeout url missing (.ok reply) (.ok text)
  | cutOff {reply : Reply} {loss : Loss} (hstatus : reply.status < 400)
      (hbody : reply.body = .error (.lost loss)) :
      Means timeout url missing (.ok reply) (.error (loss.meaning timeout url))

namespace Means

variable {timeout url : Value} {missing : Option StoreError} {delivery : Delivery}
  {result : Except StoreError String}

/-- What means something tells how long to wait, where that matters. -/
theorem not_tellsNoWait (hmeans : Means timeout url missing delivery result)
    (fault : Text.WholeNumberFault) : ¬ delivery.TellsNoWait fault := by
  rintro ⟨reply, text, hreply, hstatus, htext, hfault⟩
  cases hmeans with
  | lost => cases hreply
  | limited _ hwaits =>
      cases hreply
      simp [Reply.Waits, htext, hfault] at hwaits
  | absent hother _ =>
      cases hreply
      omega
  | refused _ hother _ =>
      cases hreply
      exact hother hstatus
  | arrived hother _ =>
      cases hreply
      omega
  | cutOff hother _ =>
      cases hreply
      omega

/-- What an answer of the store means is its body: the text, or the loss of it. -/
theorem body_of_answered {reply : Reply} (hmeans : Means timeout url missing (.ok reply) result)
    (hstatus : reply.status < 400) :
    (∃ text, reply.body = .ok text ∧ result = .ok text) ∨
      ∃ loss, reply.body = .error (.lost loss) ∧ result = .error (loss.meaning timeout url) := by
  cases hmeans with
  | limited hother _ => omega
  | absent hother _ => omega
  | refused hother _ _ => omega
  | arrived _ hbody => exact .inl ⟨_, hbody, rfl⟩
  | cutOff _ hbody => exact .inr ⟨_, hbody, rfl⟩

/-- What means something is no bytes that are no text. -/
theorem not_tellsNoText (hmeans : Means timeout url missing delivery result) (message : String) :
    ¬ delivery.TellsNoText message := by
  rintro ⟨reply, rfl, hstatus, hbody⟩
  rcases hmeans.body_of_answered hstatus with ⟨text, harrived, -⟩ | ⟨loss, hlost, -⟩
  · cases harrived.symm.trans hbody
  · cases hlost.symm.trans hbody

theorem isReadable (hmeans : Means timeout url missing delivery result) : delivery.IsReadable :=
  ⟨hmeans.not_tellsNoWait, hmeans.not_tellsNoText⟩

/-- What means a text brings that text, and what means a failure brings none. -/
theorem brings_iff (hmeans : Means timeout url missing delivery result) (text : String) :
    delivery.Brings text ↔ result = .ok text := by
  constructor
  · rintro ⟨reply, rfl, hstatus, hbody⟩
    rcases hmeans.body_of_answered hstatus with ⟨other, harrived, hresult⟩ | ⟨loss, hlost, -⟩
    · rw [hresult, Except.ok.inj (harrived.symm.trans hbody)]
    · cases hlost.symm.trans hbody
  · rintro rfl
    cases hmeans with
    | arrived hstatus hbody => exact ⟨_, rfl, hstatus, hbody⟩

end Means

/-! ## How an exchange ends -/

/-- Only failures of the store leave. -/
def KeepsToStore {α : Type} (outcome : Except AskError α) : Prop :=
  ∀ error, outcome = .error error → ∃ failure, error = .store failure

/-- How an exchange ends, by what is delivered. `Reads` says what becomes of a text that arrives. -/
inductive Concludes {α : Type} (timeout url : Value) (missing : Option StoreError)
    (Reads : String → Except AskError α → Prop) (delivery : Delivery) : Except AskError α → Prop
  | read {text : String} {outcome : Except AskError α}
      (hmeans : Means timeout url missing delivery (.ok text)) (hreads : Reads text outcome) :
      Concludes timeout url missing Reads delivery outcome
  | failed {failure : StoreError} (hmeans : Means timeout url missing delivery (.error failure)) :
      Concludes timeout url missing Reads delivery (.error (.store failure))
  | noNumber {fault : Text.WholeNumberFault} (htells : delivery.TellsNoWait fault) :
      Concludes timeout url missing Reads delivery (.error (.misuse (.unreadableWhole fault)))
  | noText {message : String} (htells : delivery.TellsNoText message) :
      Concludes timeout url missing Reads delivery (.error (.undecodable message))

/-- An exchange keeps to the failures of the store exactly if what is brought can be read, and a text that
is brought is fine to read. -/
theorem Concludes.keepsToStore_iff {α : Type} {timeout url : Value} {missing : Option StoreError}
    {Reads : String → Except AskError α → Prop} {Fine : String → Prop} {delivery : Delivery}
    {outcome : Except AskError α} (hconcludes : Concludes timeout url missing Reads delivery outcome)
    (hkeeps : ∀ text outcome, Reads text outcome → (KeepsToStore outcome ↔ Fine text)) :
    KeepsToStore outcome ↔ delivery.IsReadable ∧ ∀ text, delivery.Brings text → Fine text := by
  cases hconcludes with
  | read hmeans hreads =>
      rw [hkeeps _ _ hreads]
      constructor
      · intro hfine
        refine ⟨hmeans.isReadable, fun text hbrings => ?_⟩
        rwa [← Except.ok.inj ((hmeans.brings_iff text).mp hbrings)]
      · rintro ⟨-, hfine⟩
        exact hfine _ ((hmeans.brings_iff _).mpr rfl)
  | failed hmeans =>
      refine ⟨fun _ => ⟨hmeans.isReadable, fun text hbrings => ?_⟩, fun _ error herror => ?_⟩
      · cases (hmeans.brings_iff text).mp hbrings
      · cases herror
        exact ⟨_, rfl⟩
  | noNumber htells =>
      refine ⟨fun hstore => ?_, fun hreadable => absurd htells (hreadable.1.wait _)⟩
      obtain ⟨failure, hfailure⟩ := hstore _ rfl
      cases hfailure
  | noText htells =>
      refine ⟨fun hstore => ?_, fun hreadable => absurd htells (hreadable.1.text _)⟩
      obtain ⟨failure, hfailure⟩ := hstore _ rfl
      cases hfailure

/-! ## The body of a response -/

namespace PageClient

theorem header?_response (reply : Reply) (name : String) :
    header? (reply.headers.map fun header => (header.1, Value.string header.2)) name =
      (header? reply.headers name).map Value.string := by
  simp [header?, List.find?_map, Function.comp_def]

/-- The seconds to wait are told, or their text is no number. -/
theorem retryAfter_cases (reply : Reply) :
    (∃ seconds, reply.Waits seconds ∧ retryAfter reply.response = pure seconds) ∨
      ∃ text fault, header? reply.headers "Retry-After" = some text ∧
        Text.wholeNumber text = .error fault ∧
        retryAfter reply.response = throw (AskError.misuse (.unreadableWhole fault)) := by
  unfold retryAfter Reply.Waits
  simp only [Reply.response, header?_response]
  cases header? reply.headers "Retry-After" with
  | none => exact .inl ⟨_, rfl, rfl⟩
  | some text =>
      cases hnumber : Text.wholeNumber text with
      | error fault =>
          refine .inr ⟨text, fault, rfl, hnumber, ?_⟩
          simp [Value.whole, Value.number?, hnumber, Ask.use, accept, Except.mapError]
      | ok seconds =>
          refine .inl ⟨seconds, hnumber, ?_⟩
          simp [Value.whole, Value.number?, hnumber, Ask.use, accept, Except.mapError]

/-- A text that arrives is given as it is. -/
def Arrives (text : String) (outcome : Except AskError Value) : Prop := outcome = .ok (.string text)

section Body

variable (client : PageClient) (url : Value) (missing : Option StoreError)
  (partner : Partner Question) (session : Session Question Bool)

theorem failed_failure (loss : Loss) :
    client.failed url loss.failure = .store (loss.meaning client.timeout url) := by
  cases loss <;> rfl

/-- The text of a response, where neither the store is asked too often nor the page is missing. -/
theorem textOf_concludes {reply : Reply} (hlimited : reply.status ≠ 429)
    (habsent : reply.status = 404 → missing = none) :
    Concludes client.timeout url missing Arrives (.ok reply)
      ((client.textOf url reply.response).perform partner session).1 := by
  have hstatus : reply.response.status.atLeast (.int 400) = .ok (decide (400 ≤ reply.status)) :=
    Value.atLeast_ofInt reply.status 400
  have hbody : reply.response.body = (reply.body.map Value.string).mapError Garble.failure := rfl
  simp only [textOf, Ask.use, hstatus, hbody, perform_bind, perform_accept_ok]
  by_cases hrefused : 400 ≤ reply.status
  · simp only [hrefused, decide_true, if_true]
    exact .failed (.refused hrefused hlimited habsent)
  · simp only [hrefused, decide_false, Bool.false_eq_true, if_false]
    cases harrives : reply.body with
    | error garble =>
        cases garble with
        | lost loss =>
            simp only [Except.map, Except.mapError, Garble.failure, perform_throw, failed_failure]
            exact .failed (.cutOff (Int.not_le.mp hrefused) harrives)
        | undecodable message => exact .noText ⟨reply, rfl, Int.not_le.mp hrefused, harrives⟩
    | ok text => exact .read (.arrived (Int.not_le.mp hrefused) harrives) rfl

/-- The body is what the delivery means, unless the seconds to wait or the body itself cannot be read. -/
theorem body_concludes (delivery : Delivery) :
    Concludes client.timeout url missing Arrives delivery
      ((client.body url (missing.map .ok) delivery.answer).perform partner session).1 := by
  cases delivery with
  | error loss =>
      simp only [body, Delivery.answer, Except.map, Except.mapError, failed_failure, perform_throw]
      exact .failed (.lost loss)
  | ok reply =>
      have hstatus (n : Int) : (reply.response.status == Value.ofInt n) = decide (reply.status = n) :=
        Value.ofInt_beq_ofInt reply.status n
      simp only [body, Delivery.answer, Except.map, Except.mapError, hstatus]
      by_cases hlimited : reply.status = 429
      · rcases retryAfter_cases reply with
          ⟨seconds, hwaits, hretry⟩ | ⟨text, fault, htext, hfault, hretry⟩
        · simp only [hlimited, hretry, decide_true, if_true, pure_bind, perform_throw]
          exact .failed (.limited hlimited hwaits)
        · simp only [hlimited, hretry, decide_true, if_true]
          exact .noNumber ⟨reply, text, rfl, hlimited, htext, hfault⟩
      · simp only [hlimited, decide_false, Bool.false_eq_true, if_false]
        -- Where a missing page is not told apart, its status is one of many that refuse.
        by_cases hmissing : reply.status = 404
        · simp only [hmissing, decide_true, if_true]
          cases missing with
          | none => exact client.textOf_concludes url none partner session hlimited fun _ => rfl
          | some error => exact .failed (.absent hmissing rfl)
        · simp only [hmissing, decide_false, Bool.false_eq_true, if_false]
          exact client.textOf_concludes url missing partner session hlimited (absurd · hmissing)

end Body

/-! ## Pages and lists -/

/-- The parameters of a page, which may be left out. -/
def paramsOf (params : Option (List (String × Value))) : Value := params.elim .null .record

/-- The app that the parameters of a page name. -/
def namedApp (params : Option (List (String × Value))) : Value :=
  (params.bind (List.lookup "id")).getD (.string "unknown")

theorem appOf_paramsOf (params : Option (List (String × Value))) :
    appOf (paramsOf params) = .ok (namedApp params) := by
  cases params <;> rfl

/-- A reader of lists finds the records of results in a text, or gives up with a message. -/
abbrev ListReader := String → Except String (List (List (String × Value)))

/-- What becomes of the text of a list, by the results that a reader finds in it. -/
def Lists (schema : Schema) (reader : ListReader) (text : String)
    (outcome : Except AskError (List SearchResult)) : Prop :=
  match reader text with
  | .error message => outcome = .error (unreadable "parse list response" message)
  | .ok results =>
      outcome = (SearchResult.allOfTold schema (.list (results.map Value.record))).mapError AskError.misuse

/-- The schema keeps all results that a reader finds in a text. -/
def Keeps (schema : Schema) (reader : ListReader) (text : String) : Prop :=
  ∀ results, reader text = .ok results → ∃ kept, List.Forall₂
    (fun result made => SearchResult.ofTold schema (.record result) = .ok made) results kept

theorem Arrives.keepsToStore {text : String} {outcome : Except AskError Value}
    (harrives : Arrives text outcome) : KeepsToStore outcome := by
  intro error herror
  cases harrives.symm.trans herror

theorem allOfTold_eq_ok_iff {schema : Schema} {results : List (List (String × Value))}
    {kept : List SearchResult} :
    SearchResult.allOfTold schema (.list (results.map Value.record)) = .ok kept ↔ List.Forall₂
      (fun result made => SearchResult.ofTold schema (.record result) = .ok made) results kept := by
  have hmade : (results.map Value.record).mapM (SearchResult.ofTold schema) = .ok kept ↔ _ :=
    mapM_eq_ok_iff
  rw [List.forall₂_map_left_iff] at hmade
  exact hmade

theorem Lists.keepsToStore_iff {schema : Schema} {reader : ListReader} {text : String}
    {outcome : Except AskError (List SearchResult)} (hlists : Lists schema reader text outcome) :
    KeepsToStore outcome ↔ Keeps schema reader text := by
  unfold Lists at hlists
  unfold Keeps
  cases hreader : reader text with
  | error message =>
      simp only [hreader] at hlists
      subst hlists
      refine ⟨fun _ _ hresults => (by cases hresults), fun _ error herror => ?_⟩
      cases herror
      exact ⟨_, rfl⟩
  | ok results =>
      simp only [hreader] at hlists
      subst hlists
      simp only [Except.ok.injEq, forall_eq', ← allOfTold_eq_ok_iff]
      cases SearchResult.allOfTold schema (.list (results.map Value.record)) with
      | ok found => exact ⟨fun _ => ⟨found, rfl⟩, fun _ _ herror => by cases herror⟩
      | error fault =>
          refine ⟨fun hstore => ?_, fun ⟨_, hfound⟩ => by cases hfound⟩
          obtain ⟨failure, hfailure⟩ := hstore _ rfl
          cases hfailure

/-- What the reader tells of a text becomes a list, or the failure to read or to make one. -/
theorem lists_told (schema : Schema) (reader : ListReader) (text : String)
    (partner : Partner Question) (session : Session Question Bool) :
    Lists schema reader text
      ((do
        let told ← accept (unreadable "parse list response")
          ((reader text).map fun results => .list (results.map .record))
        Ask.use (SearchResult.allOfTold schema told) : Ask Bool (List SearchResult)).perform
          partner session).1 := by
  unfold Lists
  cases reader text with
  | error message => rfl
  | ok results =>
      simp only [Except.map, perform_bind, perform_accept_ok, Ask.use]
      rw [perform_accept]

section Exchanges

variable (client : PageClient) {partner : Partner Question} {before : List Question}

theorem perform_requireSession :
    requireSession.perform partner ⟨before, true⟩ = (.ok (), ⟨before, true⟩) := rfl

theorem page_concludes (url : Value) (params : Option (List (String × Value))) {got : Delivery}
    (hgot : partner before (.get url (paramsOf params)) = got.answer) :
    Concludes client.timeout url (some (.appNotFound (namedApp params))) Arrives got
      ((client.page url (paramsOf params)).perform partner ⟨before, true⟩).1 := by
  simp only [page, perform_bind, perform_requireSession, perform_ask, hgot, appOf_paramsOf]
  exact client.body_concludes url (some (.appNotFound (namedApp params))) partner _ got

/-- Where lists are asked for. -/
def listUrl : Value := urlOf "/_/PlayStoreUi/data/batchexecute"

theorem list_concludes (schema : Schema) (collection category lang country num form headers : Value)
    {posted : Delivery} (reader : ListReader) (hheaders : client.formHeaders = .ok headers)
    (hform : partner before (.listBody category collection num) = .ok form)
    (hposted : partner (.listBody category collection num :: before)
      (.post listUrl (listParams (choose lang client.lang) country) form headers) = posted.answer)
    (hreader : ∀ text asked, partner asked (.readListAnswer (.string text)) =
      (reader text).map fun results => .list (results.map .record)) :
    Concludes client.timeout listUrl none (Lists schema reader) posted
      ((client.list schema collection category lang country num).perform partner ⟨before, true⟩).1 := by
  simp only [list, perform_bind, perform_requireSession, perform_ask, hform, perform_accept_ok, Ask.use,
    hheaders]
  rw [← listUrl, hposted]
  have hbody := client.body_concludes listUrl none partner ⟨.post listUrl
    (listParams (choose lang client.lang) country) form headers ::
      .listBody category collection num :: before, true⟩ posted
  rw [Option.map_none] at hbody
  rcases hended : (client.body listUrl none posted.answer).perform partner _ with ⟨outcome, later⟩
  rw [hended] at hbody
  cases hbody with
  | failed hmeans => exact .failed hmeans
  | noNumber htells => exact .noNumber htells
  | noText htells => exact .noText htells
  | read hmeans harrives =>
      cases harrives
      -- The reader tells the same of a text whatever was asked before.
      refine .read hmeans ?_
      simpa only [hreader, perform_bind, Ask.use] using lists_told schema reader _ partner _

end Exchanges

/-- A page that is got and a list that is asked for end as what the network delivers means: in a text that is
read or in a failure of the store. Something else leaves exactly in these cases. The store is asked too often
and tells how long to wait in a text that is no whole number: then it is the failure to read a number. It
answers with bytes that are no text: then it is the failure to decode them. Or a list tells of a result that
the schema refuses: then it is the refusal. -/
theorem only_store_failures_leave_iff_readable (schema : Schema) (client : PageClient) (url : Value)
    (params : Option (List (String × Value)))
    (collection category lang country num form headers : Value)
    (partner : Partner Question) (before : List Question) (got posted : Delivery) (reader : ListReader)
    (hheaders : client.formHeaders = .ok headers)
    (hgot : partner before (.get url (paramsOf params)) = got.answer)
    (hform : partner before (.listBody category collection num) = .ok form)
    (hposted : partner (.listBody category collection num :: before)
      (.post listUrl (listParams (choose lang client.lang) country) form headers) = posted.answer)
    (hreader : ∀ text asked, partner asked (.readListAnswer (.string text)) =
      (reader text).map fun results => .list (results.map .record)) :
    let fetched := ((client.page url (paramsOf params)).perform partner ⟨before, true⟩).1
    let listed :=
      ((client.list schema collection category lang country num).perform partner ⟨before, true⟩).1
    (KeepsToStore fetched ↔ got.IsReadable) ∧
      (KeepsToStore listed ↔
        posted.IsReadable ∧ ∀ text, posted.Brings text → Keeps schema reader text) ∧
      Concludes client.timeout url (some (.appNotFound (namedApp params))) Arrives got fetched ∧
      Concludes client.timeout listUrl none (Lists schema reader) posted listed := by
  intro fetched listed
  have hfetched := client.page_concludes url params hgot
  have hlisted := client.list_concludes schema collection category lang country num form headers reader
    hheaders hform hposted hreader
  have harrived (text : String) (outcome : Except AskError Value) (harrives : Arrives text outcome) :
      KeepsToStore outcome ↔ True := iff_true_intro harrives.keepsToStore
  refine ⟨(hfetched.keepsToStore_iff harrived).trans ?_,
    hlisted.keepsToStore_iff fun _ _ => Lists.keepsToStore_iff, hfetched, hlisted⟩
  exact and_iff_left fun _ _ => trivial

/-- A store that is always asked too often and tells how long to wait. -/
def limiting (wait : String) : Delivery :=
  .ok { status := 429, headers := [("retry-after", wait)], body := .ok "" }

/-- A store that answers with bytes that are no text. -/
def garbling : Delivery :=
  .ok { status := 200, headers := [], body := .error (.undecodable "invalid start byte") }

/-- A store that answers with a text. -/
def answering : Delivery := .ok { status := 200, headers := [], body := .ok "text" }

/-- What is told of a result with an icon. -/
def toldResult (icon : String) : List (String × Value) :=
  [("app_id", .string "com.example.app"), ("title", .string "An app"), ("developer", .string "Someone"),
    ("icon", .string icon), ("score", .null), ("price", .number (.ofDecimal false 199 (-2))),
    ("currency", .string "USD")]

/-- A partner whose network brings always the same, and whose reader finds one result in every text. -/
def monotonous (delivery : Delivery) (icon : String) : Partner Question := fun _ question =>
  question.answer (fun _ => .ok (.list [.record (toldResult icon)])) fun _ => delivery.answer

/-- Seconds to wait are a failure of the store, the day to wait for is none, nor are bytes that are no text.
A result with an icon is listed, one without is refused. -/
theorem unread_answers_leave :
    let client : PageClient := { headers := .record [] }
    let schema := Schema.plain.cleaning
    let icon := "https://example.com/icon.png"
    let fetched (delivery : Delivery) :=
      ((client.page (.string "page") .null).perform (monotonous delivery icon) ⟨[], true⟩).1
    let listed (delivery : Delivery) (icon : String) :=
      ((client.list schema (.string "free") (.string "games") .null (.string "us") (.ofInt 10)).perform
        (monotonous delivery icon) ⟨[], true⟩).1
    (KeepsToStore (fetched (limiting "120")) ∧ KeepsToStore (listed (limiting "120") icon)) ∧
      (¬ KeepsToStore (fetched (limiting "Wed, 21 Oct 2026 07:28:00 GMT")) ∧
        ¬ KeepsToStore (listed (limiting "Wed, 21 Oct 2026 07:28:00 GMT") icon)) ∧
      (¬ KeepsToStore (fetched garbling) ∧ ¬ KeepsToStore (listed garbling icon)) ∧
      KeepsToStore (listed answering icon) ∧ ¬ KeepsToStore (listed answering "") := by
  have hkept : ∃ kept, SearchResult.ofTold Schema.plain.cleaning
      (.record (toldResult "https://example.com/icon.png")) = .ok kept := ⟨_, rfl⟩
  have hrefused : SearchResult.ofTold Schema.plain.cleaning (.record (toldResult "")) =
      .error (.refused "icon") := rfl
  intro client schema icon fetched listed
  have hends (delivery : Delivery) (icon : String) :=
    only_store_failures_leave_iff_readable schema client (.string "page") none (.string "free")
      (.string "games") .null (.string "us") (.ofInt 10) (.list [.record (toldResult icon)]) _
      (monotonous delivery icon) [] delivery delivery (fun _ => .ok [toldResult icon]) rfl rfl rfl rfl
      fun _ _ => rfl
  have hnumber : Text.wholeNumber "120" = .ok 120 := rfl
  have hseconds : Means client.timeout listUrl none (limiting "120") (.error (.rateLimit (.ofInt 120))) :=
    .limited rfl hnumber
  have hday : (limiting "Wed, 21 Oct 2026 07:28:00 GMT").TellsNoWait
      (.malformed "Wed, 21 Oct 2026 07:28:00 GMT") := ⟨_, _, rfl, rfl, rfl, rfl⟩
  have hgarbled : garbling.TellsNoText "invalid start byte" := ⟨_, rfl, by decide, rfl⟩
  have hanswer : Means client.timeout listUrl none answering (.ok "text") := .arrived (by decide) rfl
  refine ⟨⟨(hends _ _).1.mpr hseconds.isReadable, (hends _ _).2.1.mpr ⟨hseconds.isReadable, ?_⟩⟩,
    ⟨fun hkeeps => ((hends _ _).1.mp hkeeps).wait _ hday,
      fun hkeeps => ((hends _ _).2.1.mp hkeeps).1.wait _ hday⟩,
    ⟨fun hkeeps => ((hends _ _).1.mp hkeeps).text _ hgarbled,
      fun hkeeps => ((hends _ _).2.1.mp hkeeps).1.text _ hgarbled⟩,
    (hends _ _).2.1.mpr ⟨hanswer.isReadable, ?_⟩, fun hkeeps => ?_⟩
  · intro text hbrings
    cases (hseconds.brings_iff text).mp hbrings
  · intro text _ results hresults
    cases hresults
    obtain ⟨kept, hmade⟩ := hkept
    exact ⟨[kept], .cons hmade .nil⟩
  · obtain ⟨kept, hall⟩ := ((hends _ _).2.1.mp hkeeps).2 "text" ((hanswer.brings_iff _).mpr rfl) _ rfl
    cases hall with
    | cons hmade _ => cases hrefused.symm.trans hmade

end PageClient

end AppSurvey.Store
