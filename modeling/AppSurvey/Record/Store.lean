import AppSurvey.Offer
import AppSurvey.Record.Basic
import AppSurvey.Store.Country
import AppSurvey.Store.Exchange

/-!
# Records of the store

Countries, apps, reviews and search results as records.
-/

namespace AppSurvey.Store

instance : ToValue Country where
  toValue country := .record [
    ("code", toValue country.code),
    ("name", toValue country.name),
    ("currency", toValue country.currency)]

instance : ToValue Calendar.Moment := ⟨fun moment => .string moment.text⟩

/-- A record together with the name of what it describes. -/
def described (name : String) (fields : List (String × Value)) : Value :=
  .record [("model", toValue name), ("fields", .record fields)]

instance : ToValue Permission where
  toValue permission := described "Permission" [
    ("group", toValue permission.group), ("permissions", toValue permission.permissions)]

instance : OfValue Permission :=
  ⟨fun value => { group := value.field "group", permissions := value.field "permissions" }⟩

instance : ToValue AppInfo where
  toValue app := described "AppInfo" [
    ("app_id", toValue app.appId),
    ("title", toValue app.title),
    ("description", toValue app.description),
    ("developer", toValue app.developer),
    ("developer_id", toValue app.developerId),
    ("score", toValue app.score),
    ("ratings", toValue app.ratings),
    ("price", toValue app.price),
    ("currency", toValue app.currency),
    ("icon", toValue app.icon),
    ("screenshots", toValue app.screenshots),
    ("category", toValue app.category),
    ("version", toValue app.version),
    ("updated", toValue app.updated),
    ("installs", toValue app.installs),
    ("min_android", toValue app.minAndroid),
    ("permissions", toValue app.permissions)]

instance : OfValue AppInfo where
  ofValue value :=
    { appId := value.field "app_id"
      title := value.field "title"
      description := value.field "description"
      developer := value.field "developer"
      developerId := value.field "developer_id"
      score := value.field "score"
      ratings := value.field "ratings"
      price := value.field "price"
      currency := value.field "currency"
      icon := value.field "icon"
      screenshots := value.field "screenshots"
      category := value.field "category"
      version := value.field "version"
      updated := value.field "updated"
      installs := value.field "installs"
      minAndroid := value.field "min_android"
      permissions := value.get "permissions" }

instance : ToValue Review where
  toValue review := described "Review" [
    ("review_id", toValue review.reviewId),
    ("user_name", toValue review.userName),
    ("user_image", toValue review.userImage),
    ("content", toValue review.content),
    ("score", toValue review.score),
    ("thumbs_up", toValue review.thumbsUp),
    ("created_at", toValue review.createdAt),
    ("reply_content", toValue review.replyContent),
    ("reply_at", toValue review.replyAt)]

instance : ToValue SearchResult where
  toValue result := described "SearchResult" [
    ("app_id", toValue result.appId),
    ("title", toValue result.title),
    ("developer", toValue result.developer),
    ("icon", toValue result.icon),
    ("score", toValue result.score),
    ("price", toValue result.price),
    ("currency", toValue result.currency)]

instance : ToValue AppRequest :=
  ⟨fun request => toValue [request.appId, request.lang, request.country]⟩

instance : ToValue SearchRequest :=
  ⟨fun request => toValue [request.query, request.lang, request.country]⟩

instance : ToValue ListRequest where
  toValue request := .list [
    toValue request.category, toValue request.collection, toValue request.lang,
    toValue request.country, toValue request.num]

instance : ToValue ReviewRequest where
  toValue request := .list [
    toValue request.appId, toValue request.lang, toValue request.country,
    toValue request.sort, toValue request.token]

/-- The answer to a question, from what the reader tells or what the network brings. -/
def Question.answer : (question : Question) → (Unit → Except String Value) →
    (Unit → Except TransportFailure Response) → Asking.Answer question
  | .openSession _ _, _, _ | .closeSession, _, _ => ()
  | .get _ _, _, response | .post _ _ _ _, _, response => response ()
  | .app _ _, told, _ | .search _ _, told, _ | .list _ _, told, _ | .reviews _ _, told, _
  | .apps _, told, _ | .searches _, told, _ | .lists _, told, _ | .reviewPages _, told, _
  | .readAppPage _ _, told, _ | .readSearchPage _, told, _ | .readListAnswer _, told, _
  | .listBody _ _ _, told, _ => told ()

namespace StoreError

/-- What a failure tells besides its message. -/
def details : StoreError → List (String × Value)
  | .general => []
  | .appNotFound appId _ => [("app_id", appId)]
  | .rateLimit retryAfter _ => [("retry_after", retryAfter)]
  | .parse _ snippet => [("html_snippet", snippet)]
  | .network url status _ => [("url", url), ("status_code", status)]
  | .validation field value _ => [("field", field), ("value", value)]
  | .timeout operation limit => [("operation", operation), ("timeout", limit)]

/-- The title of a failure. -/
def title : StoreError → String
  | .general => "PlayfastError"
  | .appNotFound _ _ => "AppNotFoundError"
  | .rateLimit _ _ => "RateLimitError"
  | .parse _ _ => "ParseError"
  | .network _ _ _ => "NetworkError"
  | .validation _ _ _ => "ValidationError"
  | .timeout _ _ => "TimeoutError"

/-- The failure of a title, with its arguments. -/
def ofArguments (title : String) (args : Value) : Except Misuse StoreError := do
  let given := args.fields.map (·.1)
  Form.checkCall (title ++ ".__init__") given
  let message : Option Value := args.get "message"
  match title with
  | "AppNotFoundError" => return .appNotFound (args.field "app_id") message
  | "RateLimitError" =>
      return .rateLimit (args.given "retry_after" (.ofNat defaultRetryAfter)) message
  | "ParseError" => return .parse (args.field "message") (args.field "html_snippet")
  | "NetworkError" => return .network (args.field "url") (args.field "status_code") message
  | "ValidationError" => return .validation (args.field "field") (args.field "value") message
  | "TimeoutError" => return .timeout (args.field "operation") (args.field "timeout")
  | _ =>
      unless given.isEmpty do throw (.noNamedArguments title)
      return .general

end StoreError

end AppSurvey.Store
