import AppSurvey.Store.App

/-!
# Making records

The pages of the store are read elsewhere, and what the reader tells may be anything. Records are made of
it: lists are gone through, the times of a review, told as seconds since 1970, become points in time, and
all else is taken as it is told. Then a `Schema` looks at the record. It keeps it, perhaps in another
form, or refuses it. Which records a schema keeps is not said here; `Schema.cleaning` is what is done to a
record once its fields have been looked at, and `Schema.plain` keeps records whose fields are plain texts
and numbers within their bounds.
-/

namespace AppSurvey.Store

open Text

/-- What records have to be like. A record is kept, perhaps in another form, or it is refused with a
message. -/
structure Schema where
  permission : Permission → Except String Permission
  app : AppInfo → Except String AppInfo
  review : Review → Except String Review
  result : SearchResult → Except String SearchResult

/-! ## Records from what is told -/

/-- A group of permissions from what is told about it. -/
def Permission.ofTold (schema : Schema) (told : Value) : Except Misuse Permission := do
  let group ← told.part "group"
  let permissions ← (← told.part "permissions").each
  (schema.permission { group, permissions := .list permissions }).mapError .refused

/-- An app from what is told about it. -/
def AppInfo.ofTold (schema : Schema) (told : Value) : Except Misuse AppInfo := do
  let appId ← told.part "app_id"
  let screenshots ← (← told.part "screenshots").each
  let permissions ← (← (← told.part "permissions").each).mapM (Permission.ofTold schema)
  let app := {
    appId
    title := ← told.part "title"
    description := ← told.part "description"
    developer := ← told.part "developer"
    developerId := ← told.part "developer_id"
    score := ← told.part "score"
    ratings := ← told.part "ratings"
    price := ← told.part "price"
    currency := ← told.part "currency"
    icon := ← told.part "icon"
    screenshots := .list screenshots
    category := ← told.part "category"
    version := ← told.part "version"
    updated := ← told.part "updated"
    installs := ← told.part "installs"
    minAndroid := ← told.part "min_android"
    permissions }
  (schema.app app).mapError .refused

namespace Review

/-- The point in time of a told time, if one is told. -/
def moment? (time : Value) : Except Misuse (Option Calendar.Moment) :=
  if time.isNull then .ok none else time.moment.map some

/-- A review from what is told about it. A review without a time is from the beginning of 1970. -/
def ofTold (schema : Schema) (told : Value) : Except Misuse Review := do
  let time ← told.part "created_at"
  let createdAt ← (if time.isNull then .ofNat 0 else time).moment
  let replyAt ← moment? (← told.part "reply_at")
  let review := {
    reviewId := ← told.part "review_id"
    userName := ← told.part "user_name"
    userImage := ← told.part "user_image"
    content := ← told.part "content"
    score := ← told.part "score"
    thumbsUp := ← told.part "thumbs_up"
    createdAt
    replyContent := ← told.part "reply_content"
    replyAt }
  (schema.review review).mapError .refused

/-- The reviews that are told of, from the first on. -/
def allOfTold (schema : Schema) (told : List Value) : Except Misuse (List Review) :=
  told.mapM (ofTold schema)

end Review

namespace SearchResult

/-- A result from what is told about it. -/
def ofTold (schema : Schema) (told : Value) : Except Misuse SearchResult := do
  let result := {
    appId := ← told.part "app_id"
    title := ← told.part "title"
    developer := ← told.part "developer"
    icon := ← told.part "icon"
    score := ← told.part "score"
    price := ← told.part "price"
    currency := ← told.part "currency" }
  (schema.result result).mapError .refused

/-- Results from what is told about them. -/
def allOfTold (schema : Schema) (told : Value) : Except Misuse (List SearchResult) := do
  (← told.each).mapM (ofTold schema)

end SearchResult

namespace Schema

/-! ## Cleaning -/

/-- Cleans what another schema keeps. Texts have no blanks at their ends, a group of permissions has one,
and a price is in whole cents. -/
def cleaning (schema : Schema) : Schema where
  permission permission := do
    let permission ← schema.permission permission
    let permissions ← (Permission.clean permission.permissions).mapError Permission.Refusal.message
    return { permission with permissions := .list (permissions.map .string) }
  app app := do
    let app ← schema.app app
    let title ← (cleanText app.title).mapError Misuse.message
    let developer ← (cleanText app.developer).mapError Misuse.message
    let price ← (AppInfo.roundPrice app.price).mapError Misuse.message
    return { app with title, developer, price }
  review review := do
    let review ← schema.review review
    let content ← (cleanContent review.content).mapError Misuse.message
    let replyContent ← (cleanContent review.replyContent).mapError Misuse.message
    return { review with content, replyContent }
  result := schema.result

/-! ## Plain fields -/

/-- A look at a field, which is kept or refused. -/
abbrev Look := (field : String) → Value → Except String Value

/-- Keeps what passes a test, and names the field otherwise. -/
def keepIf (test : Value → Bool) : Look := fun field value =>
  if test value then .ok value else .error field

/-- Nothing, or what another look keeps. -/
def orNull (look : Look) : Look := fun field value =>
  if value.isNull then .ok value else look field value

/-- A text that passes a test, without the blanks at its ends. -/
def textIf (test : String → Bool) : Look := fun field value =>
  match value with
  | .string text => if test (strip text) then .ok (.string (strip text)) else .error field
  | _ => .error field

/-- A text of at least and of at most so many characters. -/
def textBetween (least most : Nat) : Look :=
  textIf fun text => decide (least ≤ text.length ∧ text.length ≤ most)

/-- A text of at least so many characters. -/
def textFrom (least : Nat) : Look := textIf fun text => decide (least ≤ text.length)

/-- A list of at most so many items, each of which another look keeps. -/
def listUpTo (most : Nat) (look : Look) : Look := fun field value =>
  match value with
  | .list items =>
      if items.length ≤ most then (items.mapM (look field)).map .list else .error field
  | _ => .error field

/-- A number with a point, of at least and, if a bound is given, of at most so much. -/
def decimal (least : Int) (most : Option Int) : Look :=
  keepIf fun
    | .number (.float x) =>
        Number.atLeast (.float x) (.int least) &&
          most.all fun bound => Number.atLeast (.int bound) (.float x)
    | _ => false

/-- A whole number of at least and, if a bound is given, of at most so much. -/
def whole (least : Int) (most : Option Int) : Look :=
  keepIf fun
    | .number (.int n) => decide (least ≤ n) && most.all fun bound => decide (n ≤ bound)
    | _ => false

/-- A part of the identity of an app: a letter, then letters, digits and underscores. -/
def isIdentityPart : List Char → Bool
  | [] => false
  | c :: rest => c.isAlpha && rest.all fun c => c.isAlphanum || c == '_'

/-- The identity of an app: two or more parts with dots between them. -/
def identity : Look :=
  textIf fun text =>
    let parts := text.toList.splitOn '.'
    decide (2 ≤ parts.length) && parts.all isIdentityPart

/-- A part of the name of a host: small letters. -/
def isHostPart (part : List Char) : Bool := !part.isEmpty && part.all Char.isLower

/-- A step of a path: small letters, digits and a few marks. -/
def isPathStep (step : List Char) : Bool :=
  step.any Char.isLower && step.all fun c => c.isLower || c.isDigit || ['.', '-', '_'].contains c

/-- A plain address on the web: a host and a path. -/
def isAddress (text : String) : Bool :=
  decide (text.length ≤ 2083) &&
    match text.toList.splitOn '/' with
    | ['h', 't', 't', 'p', 's', ':'] :: [] :: host :: step :: steps =>
        (host.splitOn '.').all isHostPart && (step :: steps).all isPathStep
    | _ => false

def address : Look := textIf isAddress

/-- Keeps records of plain fields, without the blanks at the ends of their texts. The message of a refusal is
the name of a field. -/
def plain : Schema where
  permission permission := do
    return {
      group := ← textBetween 1 100 "group" permission.group
      permissions := ← listUpTo 50 (textFrom 0) "permissions" permission.permissions }
  app app := do
    if 50 < app.permissions.length then throw "permissions"
    return {
      appId := ← identity "app_id" app.appId
      title := ← textBetween 1 200 "title" app.title
      description := ← textBetween 0 50000 "description" app.description
      developer := ← textBetween 1 200 "developer" app.developer
      developerId := ← orNull (textFrom 0) "developer_id" app.developerId
      score := ← orNull (decimal 0 (some 5)) "score" app.score
      ratings := ← whole 0 none "ratings" app.ratings
      price := ← decimal 0 none "price" app.price
      currency := ← textBetween 3 3 "currency" app.currency
      icon := ← address "icon" app.icon
      screenshots := ← listUpTo 20 address "screenshots" app.screenshots
      category := ← orNull (textFrom 0) "category" app.category
      version := ← orNull (textBetween 0 50) "version" app.version
      updated := ← orNull (textFrom 0) "updated" app.updated
      installs := ← orNull (textFrom 0) "installs" app.installs
      minAndroid := ← orNull (textFrom 0) "min_android" app.minAndroid
      permissions := app.permissions }
  review review := do
    return {
      reviewId := ← textFrom 1 "review_id" review.reviewId
      userName := ← textBetween 1 100 "user_name" review.userName
      userImage := ← orNull address "user_image" review.userImage
      content := ← textBetween 0 50000 "content" review.content
      score := ← whole 1 (some 5) "score" review.score
      thumbsUp := ← whole 0 none "thumbs_up" review.thumbsUp
      createdAt := review.createdAt
      replyContent := ← orNull (textBetween 0 10000) "reply_content" review.replyContent
      replyAt := review.replyAt }
  result result := do
    return {
      appId := ← identity "app_id" result.appId
      title := ← textBetween 1 200 "title" result.title
      developer := ← textBetween 1 200 "developer" result.developer
      icon := ← address "icon" result.icon
      score := ← orNull (decimal 0 (some 5)) "score" result.score
      price := ← decimal 0 none "price" result.price
      currency := ← textBetween 3 3 "currency" result.currency }

end Schema

end AppSurvey.Store
