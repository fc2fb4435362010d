import AppSurvey.Text.Blank
import AppSurvey.Value.Use

/-!
# Apps, reviews and search results

What the store says about apps. The parts of each thing may be of any kind, so whatever is made of them
says what it does with parts of the wrong kind.
-/

namespace AppSurvey.Store

open Text

/-- A group of permissions that an app asks for. -/
structure Permission where
  group : Value
  permissions : Value

namespace Permission

/-- How many permissions the group has. -/
def size (permission : Permission) : Except Misuse Nat := permission.permissions.count

/-- Why a list of permissions is refused. -/
inductive Refusal where
  | empty
  | misuse (fault : Misuse)

def Refusal.message : Refusal → String
  | .empty => "Permissions list cannot be empty"
  | .misuse fault => fault.message

/-- The entries of a list without the blanks at their ends. -/
def stripped (entries : Value) : Except Misuse (List String) := do
  (← entries.each).mapM fun entry => do return strip (← entry.asText "strip")

/-- Cleans a list of permissions: blanks at the ends are taken off and blank entries dropped. An
empty list is refused. -/
def clean (permissions : Value) : Except Refusal (List String) :=
  if !permissions.isTruthy then .error .empty
  else
    match stripped permissions with
    | .ok entries => .ok (entries.filter fun entry => !entry.isEmpty)
    | .error fault => .error (.misuse fault)

end Permission

/-- A text without the blanks at its ends. -/
def cleanText (text : Value) : Except Misuse Value := do
  return .string (strip (← text.asText "strip"))

/-- A text without the blanks at its ends, or nothing. -/
def cleanContent (content : Value) : Except Misuse Value :=
  match content with
  | .null => .ok .null
  | text => cleanText text

/-- A score of stars and tenths of stars. -/
def stars (count tenths : Nat) : Number := .ofDecimal false (count * 10 + tenths) (-1)

/-- An app on its page. -/
structure AppInfo where
  appId : Value
  title : Value
  description : Value
  developer : Value
  developerId : Value
  score : Value
  ratings : Value
  price : Value
  currency : Value
  icon : Value
  screenshots : Value
  category : Value
  version : Value
  updated : Value
  installs : Value
  minAndroid : Value
  permissions : List Permission

namespace AppInfo

def isFree (app : AppInfo) : Bool := app.price.isZero

/-- Is the score four or more? -/
def isHighlyRated (app : AppInfo) : Except Misuse Bool :=
  if app.score.isNull then .ok false else app.score.atLeast (stars 4 0)

/-- The score in words. -/
def ratingCategory (app : AppInfo) : Except Misuse String := do
  if app.score.isNull then return "No rating"
  else if ← app.score.atLeast (stars 4 5) then return "Excellent"
  else if ← app.score.atLeast (stars 4 0) then return "Good"
  else if ← app.score.atLeast (stars 3 0) then return "Average"
  else return "Poor"

def hasPermissions (app : AppInfo) : Bool := !app.permissions.isEmpty

def permissionGroups (app : AppInfo) : List Value := app.permissions.map Permission.group

def allPermissions (app : AppInfo) : Except Misuse (List Value) := do
  return (← app.permissions.mapM fun permission => permission.permissions.each).flatten

/-- A price in whole cents. -/
def roundPrice (price : Value) : Except Misuse Value := price.rounded 2

end AppInfo

/-- A review of an app. -/
structure Review where
  reviewId : Value
  userName : Value
  userImage : Value
  content : Value
  score : Value
  thumbsUp : Value
  createdAt : Calendar.Moment
  replyContent : Value
  replyAt : Option Calendar.Moment

namespace Review

/-- Is the review one of four stars or more? -/
def isPositive (review : Review) : Except Misuse Bool := review.score.atLeast (.int 4)

/-- Has the developer replied? -/
def hasReply (review : Review) : Bool := !review.replyContent.isNull

end Review

/-- An app in a list of results. -/
structure SearchResult where
  appId : Value
  title : Value
  developer : Value
  icon : Value
  score : Value
  price : Value
  currency : Value

namespace SearchResult

def isFree (result : SearchResult) : Bool := result.price.isZero

/-- The score with one place, unless there is none or it is zero. -/
def rating? (result : SearchResult) : Except Misuse (Option String) :=
  if result.score.isTruthy then (result.score.fixed 1).map some else .ok none

/-- The result in a line for people. -/
def text (result : SearchResult) : Except Misuse String := do
  let stars := match ← result.rating? with
    | some score => s!"{score} stars"
    | none => "No rating"
  let price ←
    if result.isFree then pure "Free"
    else (result.price.fixed 2).map fun price => s!"{result.currency.text} {price}"
  return s!"{result.title.text} by {result.developer.text} - {stars} - {price}"

def summary (result : SearchResult) : Except Misuse String := do
  let score := (← result.rating?).getD "None"
  let price ← result.price.fixed 2
  return s!"SearchResult(app_id='{result.appId.text}', title='{result.title.text}', "
    ++ s!"developer='{result.developer.text}', score={score}, "
    ++ s!"price={price}, currency='{result.currency.text}')"

end SearchResult

end AppSurvey.Store
