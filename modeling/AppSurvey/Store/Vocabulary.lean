import AppSurvey.Value.Use

/-!
# Vocabularies

The store knows fixed sets of words: categories, rankings and age ranges. Each word has a name and the
value that stands for it in requests.
-/

namespace AppSurvey.Store

/-- A word: its name and what stands for it in requests. -/
structure Term where
  name : String
  value : String
  deriving DecidableEq

/-- A fixed set of words. -/
structure Vocabulary where
  title : String
  terms : List Term
  /-- Are the words written with the title and their name, and not as their value? -/
  qualified : Bool

namespace Vocabulary

/-- A word that a vocabulary does not have. -/
inductive Unknown where
  | value (title : String) (value : Value)
  | name (name : Value)
  /-- What was given can be no name. -/
  | misuse (fault : Misuse)

def Unknown.message : Unknown → String
  | .value title given => s!"{given.quoted} is not a valid {title}"
  | .name given => given.quoted
  | .misuse fault => fault.message

/-- A word together with its position. -/
structure Found where
  term : Term
  index : Nat

/-- The first word with a property. -/
def find? (vocabulary : Vocabulary) (p : Term → Bool) : Option Found :=
  (vocabulary.terms.zipIdx.find? fun entry => p entry.1).map fun entry => ⟨entry.1, entry.2⟩

/-- The word of a value. -/
def ofValue (vocabulary : Vocabulary) (value : Value) : Except Unknown Found :=
  let found := match value with
    | .string text => vocabulary.find? fun term => term.value == text
    | _ => none
  match found with
  | some entry => .ok entry
  | none => .error (.value vocabulary.title value)

/-- The word of a name. -/
def ofName (vocabulary : Vocabulary) (name : Value) : Except Unknown Found := do
  name.requireKey.mapError .misuse
  let found := match name with
    | .string text => vocabulary.find? fun term => term.name == text
    | _ => none
  match found with
  | some entry => return entry
  | none => throw (.name name)

/-- A word as it is written. -/
def textOf (vocabulary : Vocabulary) (term : Term) : String :=
  if vocabulary.qualified then s!"{vocabulary.title}.{term.name}" else term.value

/-- Words that stand for themselves. -/
def plainTerms (names : List String) : List Term :=
  names.map fun name => ⟨name, name⟩

/-- The categories of the store. -/
def category : Vocabulary where
  title := "Category"
  qualified := false
  terms := plainTerms
    ["GAME", "GAME_ACTION", "GAME_ADVENTURE", "GAME_ARCADE", "GAME_BOARD", "GAME_CARD",
      "GAME_CASINO", "GAME_CASUAL", "GAME_EDUCATIONAL", "GAME_MUSIC", "GAME_PUZZLE",
      "GAME_RACING", "GAME_ROLE_PLAYING", "GAME_SIMULATION", "GAME_SPORTS", "GAME_STRATEGY",
      "GAME_TRIVIA", "GAME_WORD", "FAMILY", "FAMILY_ACTION", "FAMILY_BRAINGAMES",
      "FAMILY_CREATE", "FAMILY_EDUCATION", "FAMILY_MUSICVIDEO", "FAMILY_PRETEND", "APPLICATION",
      "ART_AND_DESIGN", "AUTO_AND_VEHICLES", "BEAUTY", "BOOKS_AND_REFERENCE", "BUSINESS",
      "COMICS", "COMMUNICATION", "DATING", "EDUCATION", "ENTERTAINMENT", "EVENTS", "FINANCE",
      "FOOD_AND_DRINK", "HEALTH_AND_FITNESS", "HOUSE_AND_HOME", "LIBRARIES_AND_DEMO",
      "LIFESTYLE", "MAPS_AND_NAVIGATION", "MEDICAL", "MUSIC_AND_AUDIO", "NEWS_AND_MAGAZINES",
      "PARENTING", "PERSONALIZATION", "PHOTOGRAPHY", "PRODUCTIVITY", "SHOPPING", "SOCIAL",
      "SPORTS", "TOOLS", "TRAVEL_AND_LOCAL", "VIDEO_PLAYERS", "WEATHER"]

/-- The rankings of the store. -/
def collection : Vocabulary where
  title := "Collection"
  qualified := false
  terms :=
    [⟨"TOP_FREE", "topselling_free"⟩, ⟨"TOP_PAID", "topselling_paid"⟩,
      ⟨"TOP_GROSSING", "topgrossing"⟩, ⟨"TOP_NEW_FREE", "topselling_new_free"⟩,
      ⟨"TOP_NEW_PAID", "topselling_new_paid"⟩, ⟨"MOVERS_SHAKERS", "movers_shakers"⟩]

/-- The age ranges of apps for families. -/
def age : Vocabulary where
  title := "Age"
  qualified := true
  terms :=
    [⟨"FIVE_UNDER", "AGE_RANGE1"⟩, ⟨"SIX_EIGHT", "AGE_RANGE2"⟩, ⟨"NINE_UP", "AGE_RANGE3"⟩]

/-- The broad categories of an app's own page. -/
def appCategory : Vocabulary where
  title := "AppCategory"
  qualified := true
  terms := plainTerms
    ["GAME", "SOCIAL", "PRODUCTIVITY", "ENTERTAINMENT", "COMMUNICATION", "TOOLS", "EDUCATION",
      "LIFESTYLE", "FINANCE", "HEALTH", "SHOPPING", "NEWS", "TRAVEL", "PHOTOGRAPHY", "MUSIC",
      "VIDEO", "SPORTS", "WEATHER", "OTHER"]

end Vocabulary

end AppSurvey.Store
