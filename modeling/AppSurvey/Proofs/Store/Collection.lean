import AppSurvey.Proofs.Keyed
import AppSurvey.Proofs.Talk
import AppSurvey.Record.Store
import AppSurvey.Store.PageClient

/-!
# Collecting apps

Both clients ask for apps in countries, all at the same time, and file what they find under the countries.
The requests end in any order, and some fail. `Collects` says what a run comes to: the result of each
request has a place, and the results are `filed` in their places, so that no order of ending shows in them.
Where the same requests have the same outcomes, the clients differ only in what no countries at all mean.
-/

namespace AppSurvey.Store

/-! ## Filing under countries -/

/-- Texts as they are given. -/
def texts (items : List String) : Value := .list (items.map Value.string)

/-- What is found in countries, from the results of the requests. The requests stand country by country,
and in each country app by app. A country stands once, where it comes first, with what is found in it: for
each time that it is given the results that there are, in the order of the apps. -/
def filed (appIds countries : List String) (result : Nat → Option AppInfo) :
    Keyed Value (List AppInfo) :=
  countries.eraseDups.map fun country =>
    (.string country, (countries.zipIdx.filter fun entry => entry.1 = country).flatMap fun entry =>
      (List.range appIds.length).filterMap fun index => result (entry.2 * appIds.length + index))

theorem string_beq (a b : String) : (Value.string a == Value.string b) = (a == b) := rfl

section Filing

variable {α : Type}

theorem set_map_string (country : String) (data : α) (keys : List String) :
    Keyed.set (.string country) data (keys.map fun key => (Value.string key, data)) =
      (if country ∈ keys then keys else keys ++ [country]).map fun key => (.string key, data) := by
  induction keys with
  | nil => rfl
  | cons key rest ih =>
      rw [List.map_cons, Keyed.set, string_beq]
      by_cases heq : key = country
      · simp [heq]
      · simp only [beq_iff_eq, heq, if_false, ih, List.mem_cons, Ne.symm heq, false_or]
        split <;> rfl

/-- Filing the same under countries gives each of them one place, in the order in which they come
first. -/
theorem fileAll_texts (countries : List String) (data : α) :
    Keyed.fileAll ((countries.map Value.string).map fun country => (country, data)) =
      .ok (countries.eraseDups.map fun country => (.string country, data)) := by
  -- From the end, since the last country is filed into what the others left.
  induction countries using List.reverseRecOn with
  | nil => rfl
  | append_singleton countries country ih =>
      unfold Keyed.fileAll at ih ⊢
      rw [List.map_append, List.map_append, List.foldlM_append, ih]
      change Except.ok (Keyed.set _ _ _) = _
      rw [set_map_string, eraseDups_concat]

theorem update_map_string {keys : List String} (hkeys : keys.Nodup) (country : String)
    (change : α → α) (data : String → α) :
    Keyed.update (.string country) change (keys.map fun key => (Value.string key, data key)) =
      keys.map fun key => (.string key, if key = country then change (data key) else data key) := by
  induction keys with
  | nil => rfl
  | cons key rest ih =>
      obtain ⟨hkey, hrest⟩ := List.nodup_cons.mp hkeys
      rw [List.map_cons, Keyed.update, string_beq]
      by_cases heq : key = country
      · subst heq
        simp only [beq_self_eq_true, if_true, List.map_cons, List.cons.injEq, true_and]
        refine List.map_congr_left fun other hother => ?_
        have hother : other ≠ key := fun hsame => hkey (hsame ▸ hother)
        rw [if_neg hother]
      · simp [heq, ih hrest]

/-- Each result is added to the list of its country. -/
theorem foldl_update_eq {keys : List String} (hkeys : keys.Nodup)
    (results : List (String × Option α)) (data : String → List α) :
    results.foldl (fun rows entry => Keyed.update (.string entry.1) (· ++ entry.2.toList) rows)
        (keys.map fun key => (Value.string key, data key)) =
      keys.map fun key => (.string key,
        data key ++ (results.filter fun entry => entry.1 = key).flatMap fun entry => entry.2.toList) := by
  induction results generalizing data with
  | nil => simp
  | cons entry rest ih =>
      rw [List.foldl_cons, update_map_string hkeys, ih]
      refine List.map_congr_left fun key _ => ?_
      by_cases heq : key = entry.1
      · simp [heq]
      · simp [heq, Ne.symm heq]

end Filing

section Rows

variable (countries appIds : List String) (result : Nat → Option AppInfo)

theorem zip_row (country : String) (start : Nat) :
    (appIds.map fun _ => country).zip ((List.range' start appIds.length).map result) =
      (List.range appIds.length).map fun index => (country, result (start + index)) := by
  refine List.ext_getElem (by simp) fun index hindex _ => ?_
  simp

/-- The results that stand beside the countries of their requests, row by row. -/
theorem zip_pairs (start : Nat) :
    ((pairs countries appIds).map Prod.fst).zip
        ((List.range' (start * appIds.length) (countries.length * appIds.length)).map result) =
      (countries.zipIdx start).flatMap fun entry =>
        (List.range appIds.length).map fun index =>
          (entry.1, result (entry.2 * appIds.length + index)) := by
  induction countries generalizing start with
  | nil => rfl
  | cons country rest ih =>
      -- The places of the first row come before those of the rows after it.
      have hrange : List.range' (start * appIds.length) ((rest.length + 1) * appIds.length) =
          List.range' (start * appIds.length) appIds.length ++
            List.range' ((start + 1) * appIds.length) (rest.length * appIds.length) := by
        rw [Nat.add_mul start, Nat.one_mul, List.range'_append_1, Nat.add_mul, Nat.one_mul,
          Nat.add_comm appIds.length]
      rw [List.length_cons, hrange, List.map_append, List.zipIdx_cons, List.flatMap_cons, ← ih, ← zip_row]
      simp only [pairs, List.flatMap_cons, List.map_append, List.map_map, Function.comp_def]
      exact List.zip_append (by simp)

/-- The results for a country are those of its rows. -/
theorem filter_rows (country : String) (entries : List (String × Nat)) :
    ((entries.flatMap fun entry => (List.range appIds.length).map fun index =>
        (entry.1, result (entry.2 * appIds.length + index))).filter fun row => row.1 = country).flatMap
          (fun row => row.2.toList) =
      (entries.filter fun entry => entry.1 = country).flatMap fun entry =>
        (List.range appIds.length).filterMap fun index => result (entry.2 * appIds.length + index) := by
  induction entries with
  | nil => rfl
  | cons entry rest ih =>
      rw [List.flatMap_cons, List.filter_append, List.flatMap_append, ih, List.filter_map]
      by_cases heq : entry.1 = country
      · rw [List.filter_cons_of_pos (by simpa using heq), List.flatMap_cons,
          List.filterMap_eq_flatMap_toList]
        simp [heq, Function.comp_def, List.flatMap_map]
      · rw [List.filter_cons_of_neg (by simpa using heq)]
        simp [heq, Function.comp_def]

/-- Filing results of requests in their places. -/
theorem byCountry_pairs :
    byCountry (countries.map Value.string)
        (((pairs countries appIds).map fun pair => Value.string pair.1).zip
          ((List.range (countries.length * appIds.length)).map result)) =
      .ok (filed appIds countries result) := by
  have hzip : ((pairs countries appIds).map fun pair => Value.string pair.1).zip
      ((List.range (countries.length * appIds.length)).map result) =
        (countries.zipIdx.flatMap fun entry => (List.range appIds.length).map fun index =>
          (entry.1, result (entry.2 * appIds.length + index))).map (Prod.map Value.string id) := by
    rw [← zip_pairs, Nat.zero_mul, ← List.range_eq_range', ← List.zip_map, List.map_id, List.map_map]
    rfl
  rw [byCountry, fileAll_texts, hzip]
  refine congrArg Except.ok (List.foldl_map.trans ?_)
  refine (foldl_update_eq (nodup_eraseDups countries) _ _).trans ?_
  refine List.map_congr_left fun country _ => ?_
  rw [List.nil_append, filter_rows]

end Rows

theorem pairs_map {α β γ δ : Type} (f : α → γ) (g : β → δ) (xs : List α) (ys : List β) :
    pairs (xs.map f) (ys.map g) = (pairs xs ys).map (Prod.map f g) := by
  simp [pairs, List.flatMap_map, List.map_flatMap, Function.comp_def]

theorem pairsWith_list (firsts seconds : List Value) :
    (Value.list firsts).pairsWith (.list seconds) = .ok (pairs firsts seconds) := by
  have hrows : firsts.mapM (fun first => do
      return (← (Value.list seconds).each).map fun second => (first, second)) =
      (.ok (firsts.map fun first => seconds.map fun second => (first, second)) : Except Misuse _) :=
    List.mapM_pure
  change firsts.mapM _ >>= (fun rows => Except.ok rows.flatten) = _
  rw [hrows]
  rfl

theorem pairsWith_texts (countries appIds : List String) :
    (texts countries).pairsWith (texts appIds) =
      .ok ((pairs countries appIds).map fun pair => (.string pair.1, .string pair.2)) := by
  rw [texts, texts, pairsWith_list, pairs_map]
  rfl

theorem length_pairs {α β : Type} (xs : List α) (ys : List β) :
    (pairs xs ys).length = xs.length * ys.length := by
  simp [pairs]

section Collecting

variable {σ : Type} (ask : (appId country : Value) → Ask σ AppInfo) (appIds countries : List String)

/-- The requests for apps in countries: country by country, and in each country app by app. -/
def requests : List (Ask σ AppInfo) :=
  (pairs countries appIds).map fun pair => ask (.string pair.2) (.string pair.1)

/-- A run that asks for apps in countries. The requests end in the order, each with the result that it has
when its turn comes, and what they found is filed in their places. -/
def Collects (order : List Nat) (partner : Partner Question) (session : Session Question σ)
    (run : Except AskError (Keyed Value (List AppInfo)) × Session Question σ) : Prop :=
  ∃ result, Talk.Ends partner (requests ask appIds countries) session (Talk.logged order result) run.2 ∧
    run.1 = .ok (filed appIds countries result)

/-- The places of the requests. -/
def places : List Nat := List.range (countries.length * appIds.length)

theorem collects_collect (turns : List Nat) (partner : Partner Question) (session : Session Question σ) :
    Collects ask appIds countries (Talk.endingOrder turns (places appIds countries)) partner session
      ((collect ask (texts appIds) (texts countries) turns).perform partner session) := by
  have hlength : (requests ask appIds countries).length = countries.length * appIds.length := by
    rw [requests, List.length_map, length_pairs]
  obtain ⟨result, last, hgather, hends⟩ :=
    Talk.gather_spec partner turns (requests ask appIds countries) session
  rw [hlength] at hgather hends
  have hperform : (collect ask (texts appIds) (texts countries) turns).perform partner session =
      (.ok (filed appIds countries result), last) := by
    rw [requests] at hgather
    simp only [collect, Ask.use, pairsWith_texts, Talk.perform_bind, Talk.perform_accept_ok, List.map_map,
      Function.comp_def, hgather]
    change (Talk.accept _ (byCountry (countries.map Value.string) _)).perform partner last = _
    rw [byCountry_pairs]
    rfl
  rw [hperform]
  exact ⟨result, hends, rfl⟩

theorem filed_congr {appIds countries : List String} {result other : Nat → Option AppInfo}
    (hresult : ∀ place ∈ places appIds countries, result place = other place) :
    filed appIds countries result = filed appIds countries other := by
  refine List.map_congr_left fun country _ => ?_
  congr 1
  refine List.flatMap_congr fun entry hentry => ?_
  refine List.filterMap_congr fun index hindex => hresult _ ?_
  have hcountry : entry.2 < countries.length :=
    List.snd_lt_of_mem_zipIdx (List.mem_filter.mp hentry).1
  have happ : index < appIds.length := List.mem_range.mp hindex
  rw [places, List.mem_range]
  calc entry.2 * appIds.length + index < (entry.2 + 1) * appIds.length := by
        rw [Nat.add_mul, Nat.one_mul]; omega
    _ ≤ countries.length * appIds.length := Nat.mul_le_mul_right _ hcountry

end Collecting

/-! ## What the clients ask -/

/-- The app that is asked for, if one is. -/
def appRequest? : Question → Option AppRequest
  | .app request _ => some request
  | .get _ (.record [("id", appId), ("hl", lang), ("gl", country)]) => some { appId, lang, country }
  | _ => none

/-- The apps that are asked for in a session, latest first. -/
def requestedApps {σ : Type} (session : Session Question σ) : List AppRequest :=
  session.asked.filterMap appRequest?

theorem DirectClient.requestedApps_app {σ : Type} (client : DirectClient) (schema : Schema)
    (appId lang country : Value)
    (partner : Partner Question) (session : Session Question σ) :
    requestedApps ((client.app schema appId lang country).perform partner session).2 =
      { appId, lang := choose lang client.lang, country } :: requestedApps session := by
  simp only [DirectClient.app, Ask.use, Talk.perform_bind, Talk.perform_ask]
  cases partner session.asked _ with
  | error message => rfl
  | ok told =>
      simp only [Talk.perform_accept_ok]
      cases AppInfo.ofTold schema told <;> rfl

namespace PageClient

open Talk

theorem isQuiet_retryAfter (response : Response) : (retryAfter response).IsQuiet := by
  unfold retryAfter
  cases response.headers with
  | record fields =>
      dsimp only
      cases header? fields "Retry-After" with
      | none => exact isQuiet_pure _
      | some given => exact isQuiet_accept _ _
  | _ => exact isQuiet_throw _

theorem isQuiet_textOf (client : PageClient) (url : Value) (response : Response) :
    (client.textOf url response).IsQuiet := by
  refine (isQuiet_accept _ _).bind fun isRefused => ?_
  cases isRefused with
  | true => exact isQuiet_throw_bind _ _
  | false =>
      cases hbody : response.body with
      | error failure => cases failure <;> exact isQuiet_throw _
      | ok text => exact isQuiet_pure text

theorem isQuiet_body (client : PageClient) (url : Value) (missing : Option (Except Misuse StoreError))
    (outcome : Except TransportFailure Response) : (client.body url missing outcome).IsQuiet := by
  unfold body
  cases outcome with
  | error failure => exact isQuiet_throw _
  | ok response =>
      dsimp only
      split
      · exact (isQuiet_retryAfter response).bind fun _ => isQuiet_throw _
      · split
        · cases missing with
          | none => exact isQuiet_textOf client url response
          | some error => exact (isQuiet_accept _ _).bind fun _ => isQuiet_throw _
        · exact isQuiet_textOf client url response

theorem perform_page (client : PageClient) (url params : Value) (partner : Partner Question)
    (before : List Question) :
    ∃ outcome, (client.page url params).perform partner ⟨before, true⟩ =
      (outcome, ⟨.get url params :: before, true⟩) := by
  refine ⟨_, Prod.ext rfl ?_⟩
  simp only [page, requireSession, perform_bind, perform_state]
  exact isQuiet_body client url _ _ partner _

theorem requestedApps_app (client : PageClient) (schema : Schema) (appId lang country : Value)
    (partner : Partner Question) (before : List Question) :
    let last := ((client.app schema appId lang country).perform partner ⟨before, true⟩).2
    last.state = true ∧
      requestedApps last =
        { appId, lang := choose lang client.lang, country } :: before.filterMap appRequest? := by
  obtain ⟨outcome, houtcome⟩ := client.perform_page (urlOf "/store/apps/details")
    (.record [("id", appId), ("hl", choose lang client.lang), ("gl", country)]) partner before
  simp only [app, perform_bind, houtcome]
  cases outcome with
  | error failure => exact ⟨rfl, rfl⟩
  | ok html =>
      simp only [perform_ask]
      cases partner _ (Question.readAppPage html appId) with
      | error message => exact ⟨rfl, rfl⟩
      | ok told =>
          simp only [perform_accept_ok, Ask.use]
          cases AppInfo.ofTold schema told <;> exact ⟨rfl, rfl⟩

end PageClient

/-- Every app in every country. -/
def combinations (lang : Value) (appIds countries : List String) : List AppRequest :=
  (pairs countries appIds).map fun pair => ⟨.string pair.2, lang, .string pair.1⟩

theorem filterMap_getElem?_range {α β : Type} (items : List α) (f : α → Option β) :
    ((List.range items.length).filterMap fun index => items[index]?.bind f) = items.filterMap f := by
  calc ((List.range items.length).filterMap fun index => items[index]?.bind f)
      = ((List.range items.length).map (items[·]?)).filterMap (Option.bind · f) := by
        rw [List.filterMap_map]
        rfl
    _ = items.filterMap f := by
        rw [Talk.map_getElem?_range, List.filterMap_map]
        rfl

/-- The results of requests whose outcome depends on nothing but the app and the country. -/
def resultsOf (outcome : (appId country : String) → Option AppInfo) (appIds countries : List String)
    (place : Nat) : Option AppInfo :=
  (pairs countries appIds)[place]?.bind fun pair => outcome pair.2 pair.1

/-- Where each request for an app has its outcome and asks for that app, all apps in all countries are
asked for, whatever the order, and the outcomes are filed. -/
theorem perform_collect {σ : Type} (ask : (appId country : Value) → Ask σ AppInfo)
    {partner : Partner Question} {lang : Value} {outcome : (appId country : String) → Option AppInfo}
    (kept : Session Question σ → Prop)
    (hask : ∀ appId country session, kept session →
      let run := (ask (.string appId) (.string country)).perform partner session
      kept run.2 ∧ run.1.toOption = outcome appId country ∧
        requestedApps run.2 = ⟨.string appId, lang, .string country⟩ :: requestedApps session)
    (appIds countries : List String) (turns : List Nat) {session : Session Question σ}
    (hsession : kept session) :
    let run := (collect ask (texts appIds) (texts countries) turns).perform partner session
    run.1 = .ok (filed appIds countries (resultsOf outcome appIds countries)) ∧
      (requestedApps run.2).Perm (combinations lang appIds countries ++ requestedApps session) := by
  intro run
  have hstep (place : Nat) (work : Ask σ AppInfo)
      (hwork : (requests ask appIds countries)[place]? = some work) (session : Session Question σ)
      (hsession : kept session) :
      kept (work.perform partner session).2 ∧
      (work.perform partner session).1.toOption = resultsOf outcome appIds countries place ∧
      requestedApps (work.perform partner session).2 =
        ((pairs countries appIds)[place]?.bind fun pair =>
          some (⟨.string pair.2, lang, .string pair.1⟩ : AppRequest)).toList ++ requestedApps session := by
    rw [requests, List.getElem?_map, Option.map_eq_some_iff] at hwork
    obtain ⟨pair, hpair, rfl⟩ := hwork
    rw [resultsOf, hpair]
    exact hask pair.2 pair.1 session hsession
  -- Each request does as expected wherever it ends, so the whole does, in the order of the turns.
  obtain ⟨result, hends, hrun⟩ := collects_collect ask appIds countries turns partner session
  obtain ⟨hresults, hasked⟩ := hends.steps hstep hsession
  have horder := Talk.endingOrder_perm turns (places appIds countries)
  constructor
  · refine hrun.trans (congrArg Except.ok (filed_congr fun place hplace => ?_))
    exact hresults (place, result place) (List.mem_map_of_mem (horder.mem_iff.mpr hplace))
  · have hcombinations : combinations lang appIds countries =
        (places appIds countries).filterMap fun place => (pairs countries appIds)[place]?.bind fun pair =>
          some ⟨.string pair.2, lang, .string pair.1⟩ := by
      rw [places, ← length_pairs, filterMap_getElem?_range, List.filterMap_eq_map', combinations]
    rw [Talk.map_fst_logged] at hasked
    rw [hasked, hcombinations]
    exact ((List.reverse_perm _).trans (horder.filterMap _)).append_right _

/-! ## The two clients -/

theorem choose_texts {countries : List String} (hcountries : countries ≠ []) (otherwise : Value) :
    choose (texts countries) otherwise = texts countries := by
  cases countries with
  | nil => exact absurd rfl hcountries
  | cons country rest => rfl

/-- Both clients lose, repeat and misfile nothing, whatever the order in which the requests end. Turns
choose an order of all requests, and every order is chosen by some. -/
theorem apps_filed_in_every_order {σ : Type} (schema : Schema) (direct : DirectClient)
    (paging : PageClient) (lang : Value) (appIds : List String) {countries : List String}
    (hcountries : countries ≠ []) (partner : Partner Question) (session : Session Question σ)
    (pageSession : Session Question Bool) :
    (∀ order, order.Perm (places appIds countries) ↔
      ∃ turns, Talk.endingOrder turns (places appIds countries) = order) ∧
    ∀ turns,
      Collects (direct.app schema · lang ·) appIds countries
        (Talk.endingOrder turns (places appIds countries)) partner session
        ((direct.appsByCountry schema (texts appIds) (texts countries) lang turns).perform partner session) ∧
      Collects (paging.app schema · lang ·) appIds countries
        (Talk.endingOrder turns (places appIds countries)) partner pageSession
        ((paging.appsByCountry schema (texts appIds) (texts countries) lang turns).perform partner
          pageSession) := by
  refine ⟨fun order => ⟨Talk.exists_endingOrder_eq, ?_⟩, fun turns => ⟨?_, ?_⟩⟩
  · rintro ⟨turns, rfl⟩
    exact Talk.endingOrder_perm turns _
  · exact collects_collect (direct.app schema · lang ·) appIds countries turns partner session
  · rw [PageClient.appsByCountry, choose_texts hcountries]
    exact collects_collect (paging.app schema · lang ·) appIds countries turns partner pageSession

/-- What is told of an app by a partner who knows all apps but one. -/
def toldApp (appId : Value) : Except String Value :=
  if appId == .string "com.example.gone" then .error "no such app"
  else .ok (.record [("app_id", appId), ("title", .string "An app"),
    ("description", .string "It does what it is told."), ("developer", .string "Someone"),
    ("developer_id", .null), ("score", .number (stars 4 5)), ("ratings", .ofInt 120),
    ("price", .number (.ofDecimal false 199 (-2))), ("currency", .string "USD"),
    ("icon", .string "https://example.com/icon.png"), ("screenshots", .list []),
    ("category", .string "TOOLS"), ("version", .string "1.0"), ("updated", .null),
    ("installs", .string "1,000+"), ("min_android", .null), ("permissions", .list [])])

/-- A partner who tells of apps, and to whom all pages look alike. -/
def catalogue : Partner Question := fun _ question =>
  question.answer
    (fun _ =>
      match question with
      | .app request _ => toldApp request.appId
      | .readAppPage _ appId => toldApp appId
      | _ => .error "no such page")
    fun _ => .ok { status := .ofInt 200, body := .ok (.string "page") }

/-- The country is given twice and one of the apps is not there: the other one is filed twice, also where
the requests for the second time end first. -/
theorem repeated_country_filed :
    let direct : DirectClient := {}
    let schema := Schema.plain.cleaning
    let appIds := ["com.example.gone", "com.example.kept"]
    let collected := (direct.appsByCountry schema (texts appIds) (texts ["us", "us"]) .null
      [2, 2]).perform catalogue ⟨[], ()⟩
    ["us", "us"] ≠ [] ∧
      Collects (direct.app schema · .null ·) appIds ["us", "us"] [2, 3, 0, 1] catalogue ⟨[], ()⟩
        collected ∧
      collected.1.map (·.map fun entry => (entry.1, entry.2.map AppInfo.appId)) =
        .ok [(.string "us", [.string "com.example.kept", .string "com.example.kept"])] := by
  intro direct schema appIds collected
  have hcountries : ["us", "us"] ≠ [] := by simp
  obtain ⟨-, hcollects⟩ := apps_filed_in_every_order schema direct { headers := .null } .null appIds
    hcountries catalogue ⟨[], ()⟩ ⟨[], true⟩
  exact ⟨hcountries, (hcollects [2, 2]).1, rfl⟩

theorem filed_single (country : String) (appIds : List String)
    (outcome : (appId country : String) → Option AppInfo) :
    filed appIds [country] (resultsOf outcome appIds [country]) =
      [(.string country, appIds.filterMap fun appId => outcome appId country)] := by
  have hresults : ((List.range appIds.length).filterMap fun index =>
      resultsOf outcome appIds [country] (0 * appIds.length + index)) =
        appIds.filterMap fun appId => outcome appId country := by
    rw [← filterMap_getElem?_range appIds]
    refine List.filterMap_congr fun index _ => ?_
    rw [Nat.zero_mul, Nat.zero_add]
    simp only [resultsOf, pairs, List.flatMap_cons, List.flatMap_nil, List.append_nil, List.getElem?_map]
    cases appIds[index]? <;> rfl
  simpa [filed, List.eraseDups_cons] using hresults

section Alike

variable {schema : Schema} {partner : Partner Question} {lang : Value}
  {outcome : (appId country : String) → Option AppInfo} (appIds countries : List String) (turns : List Nat)

theorem DirectClient.perform_collect {σ : Type} (client : DirectClient)
    (houtcome : ∀ appId country (session : Session Question σ),
      ((client.app schema (.string appId) lang (.string country)).perform partner session).1.toOption =
        outcome appId country) (session : Session Question σ) :
    let run := (collect (client.app schema · lang ·) (texts appIds) (texts countries) turns).perform partner
      session
    run.1 = .ok (filed appIds countries (resultsOf outcome appIds countries)) ∧
      (requestedApps run.2).Perm
        (combinations (choose lang client.lang) appIds countries ++ requestedApps session) := by
  refine Store.perform_collect (client.app schema · lang ·) (fun _ => True) ?_ appIds countries turns trivial
  intro appId country session _
  exact ⟨trivial, houtcome appId country session, client.requestedApps_app schema _ lang _ partner session⟩

theorem PageClient.perform_collect (client : PageClient)
    (houtcome : ∀ appId country before,
      ((client.app schema (.string appId) lang (.string country)).perform partner
        ⟨before, true⟩).1.toOption = outcome appId country) (before : List Question) :
    let run := (collect (client.app schema · lang ·) (texts appIds) (texts countries) turns).perform partner
      ⟨before, true⟩
    run.1 = .ok (filed appIds countries (resultsOf outcome appIds countries)) ∧
      (requestedApps run.2).Perm
        (combinations (choose lang client.lang) appIds countries ++ before.filterMap appRequest?) := by
  refine Store.perform_collect (client.app schema · lang ·) (fun session => session.state = true) ?_ appIds
    countries turns rfl
  rintro appId country ⟨before, state⟩ rfl
  obtain ⟨hstate, hrequested⟩ :=
    client.requestedApps_app schema (.string appId) lang (.string country) partner before
  exact ⟨hstate, houtcome appId country before, hrequested⟩

end Alike

/-- Countries as they are given, where `none` is no choice. -/
def givenCountries : Option (List String) → Value
  | none => .null
  | some countries => texts countries

/-- Both clients ask for the same apps and file them alike, if the same requests have the same outcomes,
except that no countries at all are none for one of them and the default for the other. -/
theorem apps_collected_alike_unless_no_countries {σ : Type} (schema : Schema) (direct : DirectClient)
    (paging : PageClient) {lang : Value} (hlang : choose lang paging.lang = choose lang direct.lang)
    {partner : Partner Question} {outcome : (appId country : String) → Option AppInfo}
    (hdirect : ∀ appId country (session : Session Question σ),
      ((direct.app schema (.string appId) lang (.string country)).perform partner session).1.toOption =
        outcome appId country)
    (hpage : ∀ appId country before,
      ((paging.app schema (.string appId) lang (.string country)).perform partner
        ⟨before, true⟩).1.toOption = outcome appId country)
    (appIds : List String) (countries : Option (List String)) (turns pageTurns : List Nat)
    (session : Session Question σ) (before : List Question) :
    let collected := (direct.appsByCountry schema (texts appIds) (givenCountries countries) lang
      turns).perform partner session
    let paged := (paging.appsByCountry schema (texts appIds) (givenCountries countries) lang
      pageTurns).perform partner ⟨before, true⟩
    let requested := combinations (choose lang direct.lang) appIds
    (countries ≠ some [] →
      (∃ found, collected.1 = .ok found ∧ paged.1 = .ok found) ∧
      (requestedApps collected.2).Perm
        (requested (countries.getD [defaultCountry]) ++ requestedApps session) ∧
      (requestedApps paged.2).Perm
        (requested (countries.getD [defaultCountry]) ++ before.filterMap appRequest?)) ∧
    (countries = some [] →
      collected = (.ok [], session) ∧
      paged.1 = .ok [(.string defaultCountry,
        appIds.filterMap fun appId => outcome appId defaultCountry)] ∧
      (requestedApps paged.2).Perm (requested [defaultCountry] ++ before.filterMap appRequest?)) := by
  intro collected paged requested
  have hcollected (countries : List String) :=
    direct.perform_collect appIds countries turns hdirect session
  have hpaged (countries : List String) :=
    paging.perform_collect appIds countries pageTurns hpage before
  rw [hlang] at hpaged
  constructor
  · intro hcountries
    cases countries with
    | none =>
        obtain ⟨hfound, hrequested⟩ := hcollected [defaultCountry]
        obtain ⟨hpageFound, hpageRequested⟩ := hpaged [defaultCountry]
        exact ⟨⟨_, hfound, hpageFound⟩, hrequested, hpageRequested⟩
    | some countries =>
        have hpresent : countries ≠ [] := fun hnone => hcountries (congrArg some hnone)
        obtain ⟨hfound, hrequested⟩ := hcollected countries
        obtain ⟨hpageFound, hpageRequested⟩ := hpaged countries
        -- A list with a country in it is what the paging client takes too.
        have hchosen : paged = (collect (paging.app schema · lang ·) (texts appIds) (texts countries)
            pageTurns).perform partner ⟨before, true⟩ := by
          simp only [paged, givenCountries, PageClient.appsByCountry, choose_texts hpresent]
        rw [hchosen]
        exact ⟨⟨_, hfound, hpageFound⟩, hrequested, hpageRequested⟩
  · rintro rfl
    obtain ⟨hpageFound, hpageRequested⟩ := hpaged [defaultCountry]
    rw [filed_single] at hpageFound
    refine ⟨?_, hpageFound, hpageRequested⟩
    cases turns <;> rfl

theorem toOption_perform_ofTold {σ : Type} (schema : Schema) (failure : String → AskError)
    (told : Except String Value) (partner : Partner Question) (session : Session Question σ) :
    (Talk.perform (do Ask.use (AppInfo.ofTold schema (← Talk.accept failure told))) partner
        session).1.toOption = told.toOption.bind fun told => (AppInfo.ofTold schema told).toOption := by
  cases told with
  | error message => rfl
  | ok told =>
      simp only [Talk.perform_bind, Talk.perform_accept_ok, Ask.use, Except.toOption, Option.bind_some]
      cases AppInfo.ofTold schema told <;> rfl

/-- The app that is made of what the catalogue tells. -/
def catalogued (schema : Schema) (appId _country : String) : Option AppInfo :=
  (toldApp (.string appId)).toOption.bind fun told => (AppInfo.ofTold schema told).toOption

/-- One client asks for nothing, and the other one finds an app in the default country. -/
theorem no_countries_collected_differently :
    let direct : DirectClient := {}
    let paging : PageClient := { headers := .null }
    let schema := Schema.plain.cleaning
    let collected := (direct.appsByCountry schema (texts ["com.example.kept"])
      (givenCountries (some [])) .null).perform catalogue ⟨[], ()⟩
    let paged := (paging.appsByCountry schema (texts ["com.example.kept"])
      (givenCountries (some [])) .null).perform catalogue ⟨[], true⟩
    (∀ appId country (session : Session Question Unit),
      ((direct.app schema (.string appId) .null (.string country)).perform catalogue session).1.toOption =
        catalogued schema appId country) ∧
    (∀ appId country before,
      ((paging.app schema (.string appId) .null (.string country)).perform catalogue
        ⟨before, true⟩).1.toOption = catalogued schema appId country) ∧
    collected = (.ok [], ⟨[], ()⟩) ∧
    paged.1.map (·.map fun entry => (entry.1, entry.2.map AppInfo.appId)) =
      .ok [(.string "us", [.string "com.example.kept"])] := by
  intro direct paging schema collected paged
  have hdirect (appId country : String) (session : Session Question Unit) :
      ((direct.app schema (.string appId) .null (.string country)).perform catalogue session).1.toOption =
        catalogued schema appId country := by
    rw [DirectClient.app, Talk.perform_bind, Talk.perform_ask]
    exact toOption_perform_ofTold schema AskError.reader (toldApp (.string appId)) catalogue _
  have hpage (appId country : String) (before : List Question) :
      ((paging.app schema (.string appId) .null (.string country)).perform catalogue
        ⟨before, true⟩).1.toOption = catalogued schema appId country := by
    have hgot (url params : Value) : (paging.page url params).perform catalogue ⟨before, true⟩ =
        (.ok (.string "page"), ⟨.get url params :: before, true⟩) := rfl
    rw [PageClient.app, Talk.perform_bind, hgot]
    dsimp only
    rw [Talk.perform_bind, Talk.perform_ask]
    exact toOption_perform_ofTold schema (PageClient.unreadable "parse app page") (toldApp (.string appId))
      catalogue _
  obtain ⟨hcollected, hpaged, -⟩ := (apps_collected_alike_unless_no_countries schema direct paging
    rfl hdirect hpage ["com.example.kept"] (some []) [] [] ⟨[], ()⟩ []).2 rfl
  refine ⟨hdirect, hpage, hcollected, ?_⟩
  rw [hpaged]
  rfl

end AppSurvey.Store
