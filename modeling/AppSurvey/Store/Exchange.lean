import AppSurvey.Store.Error
import AppSurvey.Store.Request
import AppSurvey.Store.Schema
import AppSurvey.Talk

/-!
# Exchanges with the store

Who asks the store has two partners: the network, and a reader that makes data of pages, by itself or
together with getting them. This module says what can be asked of them, what they answer and how
asking can fail. What the reader tells may be anything, and records are made of it by a schema.
-/

namespace AppSurvey.Store

/-- Why a message gets no response. -/
inductive TransportFailure where
  | timeout
  | client
  | system (message : String)

/-- Why a body is no text: it gets lost, or its bytes cannot be decoded. -/
inductive BodyFailure where
  | lost (failure : TransportFailure)
  | undecodable (message : String)

/-- What comes back over the network. The body may still fail to arrive. -/
structure Response where
  status : Value
  headers : Value := .record []
  body : Except BodyFailure Value

/-- Are two names of headers the same? The case of their letters does not count. -/
def sameHeader (a b : String) : Bool := a.toList.map Char.toLower == b.toList.map Char.toLower

/-- The first header of a name. -/
def header? {α : Type} (headers : List (String × α)) (name : String) : Option α :=
  (headers.find? fun header => sameHeader header.1 name).map Prod.snd

/-- What can be asked of the partners. -/
inductive Question where
  /-- Get and read one page. -/
  | app (request : AppRequest) (timeout : Value)
  | search (request : SearchRequest) (timeout : Value)
  | list (request : ListRequest) (timeout : Value)
  | reviews (request : ReviewRequest) (timeout : Value)
  /-- Get and read many pages. -/
  | apps (requests : List AppRequest)
  | searches (requests : List SearchRequest)
  | lists (requests : List ListRequest)
  | reviewPages (requests : List ReviewRequest)
  /-- Read what was got, or write what will be sent. -/
  | readAppPage (page appId : Value)
  | readSearchPage (page : Value)
  | readListAnswer (text : Value)
  | listBody (category collection num : Value)
  /-- Use the network. -/
  | openSession (timeout headers : Value)
  | closeSession
  | get (url params : Value)
  | post (url params body headers : Value)

/-- The answers. The reader tells a value or fails with a message. -/
instance : Asking Question where
  Answer
    | .openSession _ _ | .closeSession => Unit
    | .get _ _ | .post _ _ _ _ => Except TransportFailure Response
    | _ => Except String Value

/-- How asking the store fails. -/
inductive AskError where
  /-- The reader gave up. -/
  | reader (message : String)
  /-- What was told or given cannot be used. -/
  | misuse (fault : Misuse)
  /-- There are fewer results than requests. -/
  | missingResult
  /-- The store refused, or its answer makes no sense. -/
  | store (error : StoreError)
  /-- No session is open. -/
  | notOpen
  /-- The system has no connection. -/
  | connection (message : String)
  /-- The bytes of a body are no text. -/
  | undecodable (message : String)
  /-- There is no end to the pages. -/
  | endless

def AskError.message : AskError → String
  | .reader message => message
  | .misuse fault => fault.message
  | .missingResult => "list index out of range"
  | .store error => error.message
  | .notOpen => "Client not initialized. Use 'async with AsyncClient()'"
  | .connection message => message
  | .undecodable message => message
  | .endless => "no end of pages in sight"

/-- Asking the store, with a state of one's own. -/
abbrev Ask (σ : Type) : Type → Type := Talk Question σ AskError

/-- Uses what was told or given. -/
def Ask.use {σ α : Type} (result : Except Misuse α) : Ask σ α := Talk.accept AskError.misuse result

/-- Is the limit of pages reached? A limit that says nothing, or zero, is none. -/
def pageLimitReached (maxPages : Value) (pages : Nat) : Except Misuse Bool :=
  if maxPages.isTruthy then maxPages.reachedBy pages else .ok false

end AppSurvey.Store
