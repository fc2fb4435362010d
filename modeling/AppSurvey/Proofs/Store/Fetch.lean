import AppSurvey.Proofs.Outcome
import AppSurvey.Proofs.Store.Sharing
import AppSurvey.Proofs.Value
import AppSurvey.Store.Fetch

/-!
# Fetching lists

The requests for lists go to the reader in one question, country by country and in each country category by
category, and the results come back in that order. They are filed under their countries and categories: what
is found under both is the answer to the last request for them. A fetcher asks for lists with its own choices
where none are made, and `sent_as_built_iff` says when these are the requests that its builder would make.
-/

namespace AppSurvey.Store

open Keyed

/-! ## Filing under texts -/

section Filing

variable {α : Type}

/-- Data under texts, with the texts as values. -/
def underTexts (entries : Keyed String α) : Keyed Value α :=
  entries.map fun entry => (.string entry.1, entry.2)

theorem set_underTexts (key : String) (data : α) (entries : Keyed String α) :
    Keyed.set (.string key) data (underTexts entries) = underTexts (Keyed.set key data entries) := by
  induction entries with
  | nil => rfl
  | cons entry rest ih =>
      unfold underTexts at ih ⊢
      rw [List.map_cons, Keyed.set, Keyed.set, string_beq, ih]
      split <;> rfl

theorem get?_underTexts (key : String) (entries : Keyed String α) :
    (underTexts entries).get? (.string key) = entries.get? key := by
  induction entries with
  | nil => rfl
  | cons entry rest ih =>
      unfold underTexts Keyed.get? at ih ⊢
      rw [List.map_cons, List.lookup_cons, string_beq, ih]
      rfl

theorem map_fst_underTexts (entries : Keyed String α) :
    (underTexts entries).map Prod.fst = (entries.map Prod.fst).map .string := by
  simp [underTexts, Function.comp_def]

end Filing

/-! ## Results in their places -/

section Places

variable {α : Type} (categories : List String)

/-- The results of a row are filed under the categories, and those of the next rows are left. -/
theorem fileRow_texts (row : Keyed String α) {results : List α}
    (hresults : categories.length ≤ results.length) :
    Fetch.fileRow (underTexts row) (categories.map .string) results =
      .ok (underTexts (setAll row (categories.zip results)), results.drop categories.length) := by
  induction categories generalizing row results with
  | nil => rfl
  | cons category rest ih =>
      cases results with
      | nil => simp at hresults
      | cons result results =>
          have hrest : rest.length ≤ results.length := by simpa using hresults
          rw [List.map_cons, Fetch.fileRow]
          change Fetch.fileRow (Keyed.set _ _ _) _ _ = _
          rw [set_underTexts, ih _ hrest]
          rfl

/-- The row of a country at a place. -/
def rowAt (results : List α) (place : Nat) : Keyed String α :=
  setAll [] (categories.zip (results.drop (place * categories.length)))

/-- Each country gets the row at its place. -/
theorem fileRows_texts (rows : Keyed String (Keyed Value α)) (countries : List String)
    {results : List α} {start : Nat}
    (hresults : (start + countries.length) * categories.length ≤ results.length) :
    Fetch.fileRows (categories.map .string) (underTexts rows) (countries.map .string)
        (results.drop (start * categories.length)) =
      .ok (underTexts (setAll rows ((countries.zipIdx start).map fun entry =>
        (entry.1, underTexts (rowAt categories results entry.2))))) := by
  induction countries generalizing rows start with
  | nil => rfl
  | cons country rest ih =>
      rw [List.length_cons, Nat.add_comm rest.length, ← Nat.add_assoc] at hresults
      have hrow : categories.length ≤ (results.drop (start * categories.length)).length := by
        rw [Nat.add_mul, Nat.add_mul] at hresults
        rw [List.length_drop]
        omega
      have hnext : (results.drop (start * categories.length)).drop categories.length =
          results.drop ((start + 1) * categories.length) := by
        rw [List.drop_drop, Nat.add_mul, Nat.one_mul]
      rw [List.map_cons, Fetch.fileRows]
      change (Fetch.fileRow (underTexts []) (categories.map .string) _ >>= fun filed =>
        Fetch.fileRows _ (Keyed.set (.string country) filed.1 (underTexts rows)) _ filed.2) = _
      rw [fileRow_texts categories [] hrow, hnext]
      change Fetch.fileRows _ (Keyed.set _ _ _) _ _ = _
      rw [set_underTexts, ih _ hresults]
      rfl

/-- The countries with their rows. -/
def rowsOf (countries : List String) (results : List α) : List (String × Keyed Value α) :=
  countries.zipIdx.map fun entry => (entry.1, underTexts (rowAt categories results entry.2))

theorem map_fst_rowsOf (countries : List String) (results : List α) :
    (rowsOf categories countries results).map Prod.fst = countries := by
  rw [rowsOf, List.map_map]
  exact List.zipIdx_map_fst 0 countries

/-- Results under countries and categories, where those for each country stand together. -/
def grid (countries : List String) (results : List α) : Keyed Value (Keyed Value α) :=
  underTexts (setAll [] (rowsOf categories countries results))

theorem map_fst_grid (countries : List String) (results : List α) :
    (grid categories countries results).map Prod.fst = countries.eraseDups.map .string := by
  rw [grid, map_fst_underTexts, map_fst_setAll, map_fst_rowsOf]

section Rows

variable {countries : List String} {results : List α}
  (hresults : results.length = countries.length * categories.length)

include hresults

/-- There is a result for every category in the row of every country. -/
theorem length_le_length_drop {place : Nat} (hplace : place < countries.length) :
    categories.length ≤ (results.drop (place * categories.length)).length := by
  have hrows : (place + 1) * categories.length ≤ countries.length * categories.length :=
    Nat.mul_le_mul_right _ hplace
  rw [Nat.add_mul, Nat.one_mul, ← hresults] at hrows
  rw [List.length_drop]
  omega

theorem map_fst_rowAt {place : Nat} (hplace : place < countries.length) :
    (rowAt categories results place).map Prod.fst = categories.eraseDups := by
  rw [rowAt, map_fst_setAll, List.map_fst_zip (length_le_length_drop categories hresults hplace)]

theorem map_fst_of_mem_grid {entry : Value × Keyed Value α}
    (hentry : entry ∈ grid categories countries results) :
    entry.2.map Prod.fst = categories.eraseDups.map .string := by
  obtain ⟨filing, hfiling, rfl⟩ := List.mem_map.mp hentry
  obtain ⟨row, hrow, hsnd⟩ := List.mem_map.mp (snd_mem_of_mem_setAll hfiling)
  obtain ⟨country, hcountry, rfl⟩ := List.mem_map.mp hrow
  rw [← hsnd, map_fst_underTexts, map_fst_rowAt categories hresults
    (List.snd_lt_of_mem_zipIdx hcountry)]

end Rows

theorem getElem?_flatMap_map {β γ : Type} (f : α → β → γ) {firsts : List α} {seconds : List β}
    {a : α} {b : β} {i j : Nat} (hfirst : firsts[i]? = some a) (hsecond : seconds[j]? = some b) :
    (firsts.flatMap fun a => seconds.map (f a))[i * seconds.length + j]? = some (f a b) := by
  have hj : j < seconds.length := (List.getElem?_eq_some_iff.mp hsecond).1
  induction firsts generalizing i with
  | nil => simp at hfirst
  | cons first rest ih =>
      rw [List.flatMap_cons]
      cases i with
      | zero =>
          obtain rfl : first = a := by simpa using hfirst
          rw [Nat.zero_mul, Nat.zero_add, List.getElem?_append_left (by simpa using hj),
            List.getElem?_map, hsecond]
          rfl
      | succ i =>
          have hplace : (i + 1) * seconds.length + j = seconds.length + (i * seconds.length + j) := by
            rw [Nat.add_mul, Nat.one_mul]
            omega
          rw [hplace, List.getElem?_append_right (by simp), List.length_map, Nat.add_sub_cancel_left]
          exact ih (by simpa using hfirst)

end Places

/-- The item stands at the place and at none behind it. -/
def IsLastAt (items : List String) (place : Nat) (item : String) : Prop :=
  items[place]? = some item ∧ item ∉ items.drop (place + 1)

/-- Under a country and a category stands the result at their last places. -/
theorem get?_grid {α : Type} {countries categories : List String} {results : List α}
    {i j : Nat} {country category : String} {result : α} (hcountry : IsLastAt countries i country)
    (hcategory : IsLastAt categories j category)
    (hresult : results[i * categories.length + j]? = some result) :
    ((grid categories countries results).get? (.string country)).bind (·.get? (.string category)) =
      some result := by
  have hrow : (rowsOf categories countries results)[i]? =
      some (country, underTexts (rowAt categories results i)) := by
    simp [rowsOf, hcountry.1]
  have hrows : country ∉ ((rowsOf categories countries results).drop (i + 1)).map Prod.fst := by
    rw [List.map_drop, map_fst_rowsOf]
    exact hcountry.2
  have hcell : (categories.zip (results.drop (i * categories.length)))[j]? = some (category, result) := by
    rw [List.getElem?_zip_eq_some, List.getElem?_drop]
    exact ⟨hcategory.1, hresult⟩
  have hcells : category ∉
      ((categories.zip (results.drop (i * categories.length))).drop (j + 1)).map Prod.fst := by
    rw [List.zip, List.drop_zipWith, ← List.zip]
    intro hlater
    obtain ⟨cell, hmem, rfl⟩ := List.mem_map.mp hlater
    exact hcategory.2 (List.of_mem_zip hmem).1
  rw [grid, get?_underTexts, get?_setAll_of_last hrow hrows, Option.bind_some, get?_underTexts, rowAt,
    get?_setAll_of_last hcell hcells]

/-- The requests for lists: category by category for the first country, then for the next. -/
def listRequests (countries categories : List String) (collection lang num : Value) :
    List ListRequest :=
  countries.flatMap fun country => categories.map fun category =>
    { category := .string category, collection, lang, country := .string country, num }

/-- The reader tells one list of records for each request, in the order of the requests. -/
structure TellsLists (partner : Partner Question) (asked : List Question)
    (requests : List ListRequest) (told : List (List Value)) : Prop where
  told_eq : partner asked (.lists requests) = .ok (.list (told.map .list))
  length_eq : told.length = requests.length

/-- The schema keeps all records of all lists, and these are the results that are made of them. -/
def AreMade (schema : Schema) (told : List (List Value)) (results : List (List SearchResult)) : Prop :=
  List.Forall₂ (List.Forall₂ fun record result => SearchResult.ofTold schema record = .ok result)
    told results

theorem length_listRequests (countries categories : List String) (collection lang num : Value) :
    (listRequests countries categories collection lang num).length =
      countries.length * categories.length := by
  rw [listRequests, List.length_flatMap]
  simp

theorem areMade_iff {schema : Schema} {told : List (List Value)} {results : List (List SearchResult)} :
    AreMade schema told results ↔
      (told.map Value.list).mapM (SearchResult.allOfTold schema) = .ok results := by
  have hlist (records : List Value) (made : List SearchResult) :
      SearchResult.allOfTold schema (.list records) = .ok made ↔
        List.Forall₂ (fun record result => SearchResult.ofTold schema record = .ok result) records made :=
    mapM_eq_ok_iff
  rw [mapM_eq_ok_iff, List.forall₂_map_left_iff, AreMade]
  simp only [hlist]

section Asking

variable {σ : Type} (schema : Schema) (collection lang num : Value) (partner : Partner Question)
  (session : Session Question σ)

/-- What is made of the reader's answer to a question for lists. -/
def listsOfAnswer (answer : Except String Value) : Except AskError (List (List SearchResult)) := do
  let told ← answer.mapError AskError.reader
  (told.each >>= List.mapM (SearchResult.allOfTold schema)).mapError AskError.misuse

/-- All requests for lists are asked for in one question, and nothing else is. -/
theorem perform_lists {countries categories : List Value} {requests : List ListRequest}
    (hrequests : requests = countries.flatMap fun country => categories.map fun category =>
      { category, collection, lang, country, num }) :
    (Fetch.lists schema (.list countries) (.list categories) collection lang num).perform partner
        session =
      (listsOfAnswer schema (partner session.asked (.lists requests)),
        { session with asked := .lists requests :: session.asked }) := by
  have hpairs : requests = (pairs countries categories).map fun pair =>
      { category := pair.2, collection, lang, country := pair.1, num } := by
    rw [hrequests]
    simp [pairs, List.map_flatMap, Function.comp_def]
  have hlists : (Fetch.lists schema (.list countries) (.list categories) collection lang num : Ask σ _) =
      (Talk.ask (Question.lists requests) >>= fun answer =>
        Talk.accept AskError.reader answer >>= fun told =>
          Ask.use (told.each >>= List.mapM (SearchResult.allOfTold schema))) := by
    rw [Fetch.lists, pairsWith_list, hpairs]
    rfl
  rw [hlists, Talk.perform_bind, Talk.perform_ask, listsOfAnswer]
  dsimp only
  rw [Talk.perform_bind]
  cases hanswer : partner session.asked (.lists requests) with
  | error message => rfl
  | ok told =>
      rw [Talk.perform_accept_ok]
      exact Talk.perform_accept _ _ _ _

/-- Lists that are told in order are made and filed in their places, or one of their records is refused. -/
theorem perform_topApps {countries categories : List String} {told : List (List Value)}
    (htold : TellsLists partner session.asked
      (listRequests countries categories collection lang num) told) :
    (Fetch.topApps schema (toValue countries) (toValue categories) collection lang num).perform partner
        session =
      ((((told.map Value.list).mapM (SearchResult.allOfTold schema)).map
          (grid categories countries)).mapError AskError.misuse,
        { session with
          asked := .lists (listRequests countries categories collection lang num) :: session.asked }) := by
  have hlists : (Fetch.lists schema (.list (countries.map .string)) (.list (categories.map .string))
      collection lang num).perform partner session =
        (((told.map Value.list).mapM (SearchResult.allOfTold schema)).mapError AskError.misuse,
          { session with
            asked := .lists (listRequests countries categories collection lang num) :: session.asked }) := by
    have hrequests : listRequests countries categories collection lang num =
        (countries.map Value.string).flatMap fun country => (categories.map .string).map fun category =>
          { category, collection, lang, country, num } := by
      simp [listRequests, List.flatMap_map, Function.comp_def]
    rw [perform_lists schema collection lang num partner session hrequests, htold.told_eq]
    rfl
  change (Fetch.lists schema (.list (countries.map .string)) (.list (categories.map .string)) _ _ _ >>=
    fun results => Talk.accept id (Fetch.fileRows (categories.map .string) [] (countries.map .string)
      results) : Ask σ _).perform partner session = _
  rw [Talk.perform_bind, hlists]
  cases hmade : (told.map Value.list).mapM (SearchResult.allOfTold schema) with
  | error fault => rfl
  | ok results =>
      have hlength : results.length = countries.length * categories.length := by
        rw [← (areMade_iff.mpr hmade).length_eq, htold.length_eq, length_listRequests]
      have hfile : Fetch.fileRows (categories.map .string) [] (countries.map .string) results =
          .ok (grid categories countries results) := by
        have hplaces : (0 + countries.length) * categories.length ≤ results.length := by
          rw [Nat.zero_add, hlength]
        have hall := fileRows_texts categories [] countries hplaces
        rwa [Nat.zero_mul, List.drop_zero] at hall
      change (Talk.accept id (Fetch.fileRows (categories.map .string) [] (countries.map .string)
        results)).perform partner _ = _
      rw [hfile, Talk.perform_accept_ok]
      rfl

end Asking

/-- Where the reader answers every request, the results never run out. If the schema keeps all records, all
results are filed, each country and each category once, and what is found under both is made of the answer to
the last request for them. -/
theorem lists_filed_under_country_and_category {σ : Type} (schema : Schema)
    (countries categories : List String) (collection lang num : Value) {partner : Partner Question}
    {session : Session Question σ} {told : List (List Value)}
    (htold : TellsLists partner session.asked
      (listRequests countries categories collection lang num) told) :
    let requests := listRequests countries categories collection lang num
    let run := (Fetch.topApps schema (toValue countries) (toValue categories) collection lang num).perform
      partner session
    run.2 = { session with asked := .lists requests :: session.asked } ∧
    run.1 ≠ .error .missingResult ∧
    ∀ results, AreMade schema told results → ∃ filed, run.1 = .ok filed ∧
      filed.map Prod.fst = countries.eraseDups.map .string ∧
      (∀ entry ∈ filed, entry.2.map Prod.fst = categories.eraseDups.map .string) ∧
      ∀ i j country category, IsLastAt countries i country → IsLastAt categories j category →
        requests[i * categories.length + j]? =
          some { category := .string category, collection, lang, country := .string country, num } ∧
        ∃ answer, results[i * categories.length + j]? = some answer ∧
          (filed.get? (.string country)).bind (·.get? (.string category)) = some answer := by
  intro requests run
  have hrun : run = _ := perform_topApps schema collection lang num partner session htold
  rw [hrun]
  refine ⟨rfl, ?_, fun results hresults =>
    ⟨grid categories countries results, ?_, map_fst_grid _ _ _, ?_, ?_⟩⟩
  · cases (told.map Value.list).mapM (SearchResult.allOfTold schema) <;> simp [Except.map, Except.mapError]
  · rw [areMade_iff.mp hresults]
    rfl
  all_goals
    have hlength : results.length = requests.length := hresults.length_eq.symm.trans htold.length_eq
  · exact fun entry => map_fst_of_mem_grid categories (hlength.trans (length_listRequests _ _ _ _ _))
  · intro i j country category hcountry hcategory
    have hrequest : requests[i * categories.length + j]? = _ :=
      getElem?_flatMap_map _ hcountry.1 hcategory.1
    have hplace : i * categories.length + j < results.length := by
      rw [hlength]
      exact (List.getElem?_eq_some_iff.mp hrequest).1
    have hanswer := List.getElem?_eq_getElem hplace
    exact ⟨hrequest, _, hanswer, get?_grid hcountry hcategory hanswer⟩

/-- What is told of an app whose title is a place in a list. -/
def toldAt (place : Nat) : Value :=
  .record [("app_id", .string "com.example.app"), ("title", .string s!"App {place}"),
    ("developer", .string "Someone"), ("icon", .string "https://example.com/icon.png"),
    ("score", .number (stars 4 5)), ("price", .number (.ofDecimal false 199 (-2))),
    ("currency", .string "USD")]

/-- A reader who tells for each request of one app, with the place of the request for its title. -/
def placeTeller : Partner Question := fun _ question =>
  question.answer
    (fun _ =>
      match question with
      | .lists requests =>
          .ok (.list (((List.range requests.length).map fun place => [toldAt place]).map .list))
      | _ => .error "no such page")
    fun _ => .error .client

/-- The app whose title is a place. -/
def appAt (place : Nat) : SearchResult where
  appId := .string "com.example.app"
  title := .string s!"App {place}"
  developer := .string "Someone"
  icon := .string "https://example.com/icon.png"
  score := .number (stars 4 5)
  price := .number (.ofDecimal false 199 (-2))
  currency := .string "USD"

/-- A country and a category are given twice each: the last of the four answers for both counts. -/
theorem repeated_cells_filed :
    let countries := ["us", "kr", "us"]
    let categories := ["GAME", "SOCIAL", "GAME"]
    let requests := listRequests countries categories .null .null .null
    let told := (List.range 9).map fun place => [toldAt place]
    let schema := Schema.plain.cleaning
    TellsLists placeTeller [] requests told ∧
    AreMade schema told ((List.range 9).map fun place => [appAt place]) ∧
    ∃ filed,
      (Fetch.topApps schema (toValue countries) (toValue categories) .null .null .null).perform placeTeller
        ⟨[], ()⟩ = (.ok filed, ⟨[.lists requests], ()⟩) ∧
      (filed.get? (.string "us")).bind (·.get? (.string "GAME")) = some [appAt 8] := by
  have hmade : AreMade Schema.plain.cleaning ((List.range 9).map fun place => [toldAt place])
      ((List.range 9).map fun place => [appAt place]) := areMade_iff.mpr rfl
  intro countries categories requests told schema
  let session : Session Question Unit := ⟨[], ()⟩
  have htells : TellsLists placeTeller session.asked requests told := ⟨rfl, rfl⟩
  obtain ⟨hasked, -, hfiled⟩ := lists_filed_under_country_and_category schema countries categories
    .null .null .null htells
  obtain ⟨filed, hrun, -, -, hcells⟩ := hfiled _ hmade
  obtain ⟨-, answer, hanswer, hcell⟩ := hcells 2 2 "us" "GAME" ⟨rfl, by decide⟩ ⟨rfl, by decide⟩
  obtain rfl : [appAt 8] = answer := Option.some.inj hanswer
  exact ⟨htells, hmade, filed, Prod.ext hrun hasked, hcell⟩

/-! ## A fetcher and its builder -/

theorem choose_optionalText (given : Option String) (otherwise : Value) :
    choose (toValue given) otherwise = (TextPool.said given).elim otherwise .string := by
  cases given with
  | none => rfl
  | some text =>
      rw [TextPool.said_some]
      by_cases hempty : text = ""
      · simp [choose, toValue, Value.isTruthy, hempty]
      · simp [choose, toValue, Value.isTruthy, hempty]

/-- A number that is chosen counts unless it is zero. -/
theorem choose_optionalInt_eq_iff (given : Option Int) (otherwise : Int) :
    choose (toValue given) (.ofInt otherwise) = given.elim (.ofInt otherwise) .ofInt ↔
      (given = some 0 → otherwise = 0) := by
  cases given with
  | none => simp [choose, toValue, Value.isTruthy]
  | some n =>
      have hchoose : choose (toValue (some n)) (.ofInt otherwise) =
          if n = 0 then .ofInt otherwise else .ofInt n := by
        simp [choose, toValue, Value.isTruthy_ofInt]
      rw [hchoose]
      by_cases hzero : n = 0
      · simp [hzero, Value.ofInt]
      · simp [hzero]

theorem toValue_eq_toValue_said_iff (given : Option String) :
    toValue given = toValue (TextPool.said given) ↔ given ≠ some "" := by
  cases given with
  | none => simp [TextPool.said]
  | some text =>
      rw [TextPool.said_some]
      by_cases hempty : text = ""
      · simp [toValue, hempty]
      · simp [hempty]

theorem flatMap_map_eq_iff {α β γ : Type} {f g : α → β → γ} {firsts : List α} {seconds : List β} :
    (firsts.flatMap fun a => seconds.map (f a)) = (firsts.flatMap fun a => seconds.map (g a)) ↔
      ∀ a ∈ firsts, ∀ b ∈ seconds, f a b = g a b := by
  induction firsts with
  | nil => simp
  | cons first rest ih =>
      rw [List.flatMap_cons, List.flatMap_cons, List.forall_mem_cons, ← ih]
      constructor
      · intro heq
        obtain ⟨hfirst, hrest⟩ := List.append_inj heq (by simp)
        exact ⟨List.map_inj_left.mp hfirst, hrest⟩
      · rintro ⟨hfirst, hrest⟩
        rw [List.map_inj_left.mpr hfirst, hrest]

namespace Fetcher

section Sending

variable (countries : List String) (categories : List (Option String))
  (collection lang : Option String) (num : Option Int)

/-- The requests that a fetcher sends. -/
def sent (fetcher : Fetcher) : List ListRequest :=
  countries.flatMap fun country => categories.map fun category =>
    { category := toValue category
      collection := choose (toValue collection) fetcher.collection
      lang := choose (toValue lang) fetcher.lang
      country := .string country
      num := choose (toValue num) fetcher.num }

theorem asked_lists {σ : Type} (fetcher : Fetcher) (schema : Schema) (partner : Partner Question)
    (session : Session Question σ) :
    ((fetcher.lists schema (toValue countries) (toValue categories) (toValue collection) (toValue num)
        (toValue lang)).perform partner session).2.asked =
      .lists (fetcher.sent countries categories collection lang num) :: session.asked := by
  have hrequests : fetcher.sent countries categories collection lang num =
      (countries.map toValue).flatMap fun country => (categories.map toValue).map fun category =>
        { category
          collection := choose (toValue collection) fetcher.collection
          lang := choose (toValue lang) fetcher.lang
          country
          num := choose (toValue num) fetcher.num } := by
    simp [sent, List.flatMap_map, Function.comp_def, toValue]
  exact congrArg (·.2.asked) (perform_lists schema _ _ _ partner session hrequests)

end Sending

/-- A fetcher sends what its builder makes of the same arguments, whatever the builder has made before,
exactly if no category is an empty text and the number is not zero, or there is nothing to send. An empty
text is a category for the fetcher and none for the builder; zero is no number for the fetcher. -/
theorem sent_as_built_iff (lang collection : String) (num : Int) (countries : List String)
    (categories : List (Option String)) (givenCollection givenLang : Option String)
    (givenNum : Option Int) :
    let fetcher : Fetcher :=
      { lang := .string lang, num := .ofInt num, collection := .string collection }
    Fetcher.make (.string lang) (.ofInt num) (.string collection) = .ok fetcher ∧
    ∃ sent built,
      (∀ (σ : Type) (schema : Schema) (partner : Partner Question) (session : Session Question σ),
        ((fetcher.lists schema (toValue countries) (toValue categories) (toValue givenCollection)
          (toValue givenNum) (toValue givenLang)).perform partner session).2.asked =
            .lists sent :: session.asked) ∧
      (∀ calls : List RequestBuilder.Call,
        ((do
          let _ ← fetcher.builder.runAll calls
          fetcher.builder.lists (toValue countries) (toValue categories) (toValue givenCollection)
            (toValue givenLang) (toValue givenNum) none : Pooling _).run.run fetcher.pool).1 =
          .ok built) ∧
      (sent = built ↔
        countries = [] ∨ categories = [] ∨
          some "" ∉ categories ∧ (givenNum = some 0 → num = 0)) := by
  intro fetcher
  refine ⟨rfl, fetcher.sent countries categories givenCollection givenLang givenNum,
    fetcher.builder.wantedLists countries categories givenCollection givenLang givenNum,
    fun σ => asked_lists countries categories givenCollection givenLang givenNum fetcher,
    fun calls => ?_, ?_⟩
  · have hbuilt := (RequestBuilder.shares_runAll fetcher.builder calls).andThen
      (RequestBuilder.shares_lists fetcher.builder countries categories givenCollection givenLang givenNum)
    exact congrArg Prod.fst (hbuilt.run_eq true [])
  · have hrequest (country : String) (category : Option String) :
        ({ category := toValue category
           collection := choose (toValue givenCollection) fetcher.collection
           lang := choose (toValue givenLang) fetcher.lang
           country := .string country
           num := choose (toValue givenNum) fetcher.num } : ListRequest) =
          { category := toValue (TextPool.said category)
            collection := (TextPool.said givenCollection).elim fetcher.builder.collection .string
            lang := (TextPool.said givenLang).elim fetcher.builder.lang .string
            country := .string country
            num := givenNum.elim fetcher.builder.num .ofInt } ↔
        category ≠ some "" ∧ (givenNum = some 0 → num = 0) := by
      rw [← choose_optionalInt_eq_iff, ← toValue_eq_toValue_said_iff, choose_optionalText,
        choose_optionalText, ListRequest.mk.injEq]
      simp [fetcher, builder]
    rw [sent, RequestBuilder.wantedLists, flatMap_map_eq_iff]
    simp only [hrequest]
    constructor
    · intro hall
      by_cases hcountries : countries = []
      · exact .inl hcountries
      by_cases hcategories : categories = []
      · exact .inr (.inl hcategories)
      obtain ⟨country, hcountry⟩ := List.exists_mem_of_ne_nil countries hcountries
      obtain ⟨category, hcategory⟩ := List.exists_mem_of_ne_nil categories hcategories
      have hcountry := hall country hcountry
      exact .inr (.inr ⟨fun hempty => (hcountry _ hempty).1 rfl, (hcountry category hcategory).2⟩)
    · rintro (rfl | rfl | ⟨hempty, hnum⟩)
      · simp
      · simp
      · exact fun country _ category hcategory => ⟨fun heq => hempty (heq ▸ hcategory), hnum⟩

/-- No results are wanted: the fetcher asks for as many as it always does, and its builder for none. -/
theorem zero_sent_as_default :
    let fetcher : Fetcher := {}
    let request (num : Int) : ListRequest :=
      { category := .null
        collection := .string "topselling_free"
        lang := .string "en"
        country := .string "us"
        num := .ofInt num }
    ((fetcher.lists Schema.plain.cleaning (.list [.string "us"]) (.list [.null]) .null (.ofInt 0)
      .null).perform placeTeller ⟨[], ()⟩).2.asked = [.lists [request 100]] ∧
    ((fetcher.builder.lists (.list [.string "us"]) (.list [.null]) .null .null (.ofInt 0)
      none).run.run fetcher.pool).1 = .ok [request 0] ∧
    [request 100] ≠ [request 0] := by
  intro fetcher request
  obtain ⟨-, sent, built, hsent, hbuilt, hiff⟩ := sent_as_built_iff "en" "topselling_free" 100 ["us"]
    [none] none none (some 0)
  have hasked := hsent Unit Schema.plain.cleaning placeTeller ⟨[], ()⟩
  rw [asked_lists] at hasked
  obtain rfl : [request 100] = sent := Question.lists.inj (List.cons.inj hasked).1
  have hmade : (Except.ok [request 0] : Except Misuse _) = .ok built := hbuilt []
  obtain rfl : [request 0] = built := by simpa using hmade
  refine ⟨?_, rfl, fun heq => by simpa using hiff.mp heq⟩
  -- Comparing the two runs as wholes would work out the answers as well.
  rw [Fetcher.lists, perform_lists _ _ _ _ _ _ rfl]
  rfl

end Fetcher

end AppSurvey.Store
