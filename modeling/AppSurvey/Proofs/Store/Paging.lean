import AppSurvey.Proofs.Talk
import AppSurvey.Proofs.Value
import AppSurvey.Record.Store
import AppSurvey.Store.PageClient

/-!
# Paging through reviews

The store tells the reviews of an app page by page, each page with the token of the next one. Both clients
follow the tokens, one to make a list and the other to hand on review by review. A `ReviewScript` is what
the reader answers to every request, and `IsPaging` says which turns follow from it: who may ask for which
page, and after which answer. Both clients take the same turns and come to the same reviews.
-/

namespace AppSurvey.Store

/-! ## Pages and turns -/

/-- A page of reviews: what is told of each, and the token of the next page, if one is told. -/
structure ReviewPage where
  reviews : List Value
  next : Option String

namespace ReviewPage

/-- The token of the next page, or nothing. -/
def nextValue (page : ReviewPage) : Value := (page.next.map Value.string).getD .null

/-- The page as the reader tells it. -/
def told (page : ReviewPage) : Value := .list [.list page.reviews, page.nextValue]

/-- The token that leads on; an empty one does not. -/
def token? (page : ReviewPage) : Option String := page.next.filter fun token => !token.isEmpty

@[simp] theorem pair_told (page : ReviewPage) :
    page.told.pair = .ok (.list page.reviews, page.nextValue) := rfl

theorem isTruthy_nextValue_of_none {page : ReviewPage} (htoken : page.token? = none) :
    page.nextValue.isTruthy = false := by
  unfold token? at htoken
  unfold nextValue
  cases hnext : page.next with
  | none => rfl
  | some token => simpa [hnext, Value.isTruthy] using htoken

theorem nextValue_of_some {page : ReviewPage} {token : String} (htoken : page.token? = some token) :
    page.nextValue = .string token ∧ (Value.string token).isTruthy = true := by
  obtain ⟨hnext, hsome⟩ := Option.filter_eq_some_iff.mp htoken
  rw [nextValue, hnext]
  exact ⟨rfl, hsome⟩

end ReviewPage

@[simp] theorem each_list (items : List Value) : (Value.list items).each = .ok items := rfl

@[simp] theorem each_list_bind {α : Type} (items : List Value)
    (next : List Value → Except Misuse α) : ((Value.list items).each >>= next) = next items := rfl

/-- What is answered to a request for a page, in the light of the questions before it: a page, or a failure
with a message. -/
abbrev ReviewScript := (before : List Question) → ReviewRequest → (timeout : Value) →
  Except String ReviewPage

/-- The partner answers requests for reviews by the script. -/
def ReviewScript.IsSpokenBy (script : ReviewScript) (partner : Partner Question) : Prop :=
  ∀ before request timeout,
    partner before (.reviews request timeout) = (script before request timeout).map ReviewPage.told

/-- A request for a page and its answer. -/
structure Turn where
  request : ReviewRequest
  answer : Except String ReviewPage

namespace Turn

/-- The message of a request that failed. -/
def failure? (turn : Turn) : Option String :=
  match turn.answer with
  | .ok _ => none
  | .error message => some message

/-- The token that leads on to another page. -/
def token? (turn : Turn) : Option String := turn.answer.toOption.bind ReviewPage.token?

/-- What is told of the reviews of the page. -/
def reviews (turn : Turn) : List Value :=
  match turn.answer with
  | .ok page => page.reviews
  | .error _ => []

/-- No turn follows: no token leads on, or a review of the page cannot be made. -/
def IsLast (schema : Schema) (turn : Turn) : Prop :=
  turn.token? = none ∨ ∃ fault, Review.allOfTold schema turn.reviews = .error fault

/-- The questions of turns, latest first. -/
def questions (timeout : Value) (turns : List Turn) : List Question :=
  (turns.map fun turn => Question.reviews turn.request timeout).reverse

/-- What turns come to: the failure of a request, as the client reports it, or else the reviews of all pages
in their order, if all of them can be made. -/
def outcome (schema : Schema) (refusal : String → AskError) (turns : List Turn) :
    Except AskError (List Review) :=
  match turns.findSome? failure? with
  | some message => .error (refusal message)
  | none => (Review.allOfTold schema (turns.flatMap reviews)).mapError AskError.misuse

end Turn

/-- Turns that follow from each other. A request has the given token, and its answer is that of the script
after the questions before it. Another turn follows only where a token leads on and every review of the page
can be made, and its request has that token. -/
def IsPaging (schema : Schema) (script : ReviewScript) (requestWith : Value → ReviewRequest)
    (timeout : Value) : (before : List Question) → (token : Value) → List Turn → Prop
  | _, _, [] => True
  | before, token, turn :: rest =>
      turn.request = requestWith token ∧ turn.answer = script before turn.request timeout ∧
        (rest = [] ∨ ¬ turn.IsLast schema ∧ ∃ next, turn.token? = some next ∧
          IsPaging schema script requestWith timeout (.reviews turn.request timeout :: before)
            (.string next) rest)

/-- A limit of pages as it is given. -/
def pageLimit : Option Nat → Value
  | none => .null
  | some n => .ofNat n

/-! ## The loop by itself -/

/-- Is a limit reached after so many pages? -/
def limitReached (limit : Option Nat) (pages : Nat) : Bool :=
  limit.any fun n => decide (0 < n ∧ n ≤ pages)

theorem limitReached_iff {limit : Option Nat} {pages : Nat} :
    limitReached limit pages = true ↔ ∃ n, limit = some n ∧ 0 < n ∧ n ≤ pages := by
  cases limit <;> simp [limitReached]

theorem pageLimitReached_eq (limit : Option Nat) (pages : Nat) :
    pageLimitReached (pageLimit limit) pages = .ok (limitReached limit pages) := by
  cases limit with
  | none => rfl
  | some n =>
      have htruthy : (Value.ofNat n).isTruthy = decide (0 < n) := by
        simp only [Value.ofNat, Value.isTruthy, Number.isZero_int]
        grind
      have hreached : (Value.ofNat n).reachedBy pages = .ok (decide (n ≤ pages)) := by
        simp only [Value.ofNat, Value.reachedBy, Value.number?, Number.atLeast, Number.order?_int]
        by_cases hn : n ≤ pages
        · rcases Nat.lt_or_eq_of_le hn with hlt | rfl
          · simp [hn, Nat.not_lt.mpr hn, hlt]
          · simp
        · simp [hn, Nat.lt_of_not_le hn]
      simp only [pageLimitReached, pageLimit, htruthy, hreached, limitReached, Option.any_some]
      by_cases hn : 0 < n
      · simp [hn]
      · simp [hn]

section Loop

variable (schema : Schema) (script : ReviewScript) (requestWith : Value → ReviewRequest)
  (timeout : Value) (limit : Option Nat)

/-- The loop of both clients, which differ in how they report the failure of a request: its outcome, and
the questions asked by then. -/
def pageThrough (refusal : String → AskError) :
    (horizon pages : Nat) → (before : List Question) → (token : Value) →
      Except AskError (List Review) × List Question
  | 0, _, before, _ => (.error .endless, before)
  | horizon + 1, pages, before, token =>
      if limitReached limit pages then (.ok [], before)
      else
        let asked := Question.reviews (requestWith token) timeout :: before
        match script before (requestWith token) timeout with
        | .error message => (.error (refusal message), asked)
        | .ok page =>
            match Review.allOfTold schema page.reviews, page.token? with
            | .error fault, _ => (.error (.misuse fault), asked)
            | .ok found, none => (.ok found, asked)
            | .ok found, some next =>
                let (rest, last) := pageThrough refusal horizon (pages + 1) asked (.string next)
                (rest.map (found ++ ·), last)

/-- The turns that the loop takes from a token on, after so many pages and so many questions. -/
structure Takes (horizon pages : Nat) (before : List Question) (token : Value) (turns : List Turn) :
    Prop where
  paging : IsPaging schema script requestWith timeout before token turns
  asked : ∀ refusal,
    (pageThrough schema script requestWith timeout limit refusal horizon pages before token).2 =
      Turn.questions timeout turns ++ before
  within : ∀ n, limit = some n → 0 < n → pages ≤ n → pages + turns.length ≤ n
  ends : (((∃ turn, turns.getLast? = some turn ∧ turn.IsLast schema) ∨
        limitReached limit (pages + turns.length) = true) ∧ ∀ refusal,
      (pageThrough schema script requestWith timeout limit refusal horizon pages before token).1 =
        Turn.outcome schema refusal turns) ∨
    (turns.length = horizon ∧ (∀ turn ∈ turns, ¬ turn.IsLast schema) ∧ ∀ refusal,
      (pageThrough schema script requestWith timeout limit refusal horizon pages before token).1 =
        .error .endless)

variable {schema script requestWith timeout limit}

theorem lt_of_not_limitReached {pages n : Nat} (hreached : ¬ limitReached limit pages = true)
    (hlimit : limit = some n) (hn : 0 < n) : pages < n := by
  by_contra hle
  exact hreached (limitReached_iff.mpr ⟨n, hlimit, hn, Nat.not_lt.mp hle⟩)

/-- A turn after which no other follows is the only one. -/
theorem takes_single {horizon pages : Nat} {before : List Question} {token : Value}
    (hreached : ¬ limitReached limit pages = true) {answer : Except String ReviewPage}
    (hanswer : script before (requestWith token) timeout = answer)
    (hlast : (Turn.mk (requestWith token) answer).IsLast schema)
    (hrun : ∀ refusal,
      pageThrough schema script requestWith timeout limit refusal (horizon + 1) pages before token =
        (Turn.outcome schema refusal [⟨requestWith token, answer⟩],
          .reviews (requestWith token) timeout :: before)) :
    Takes schema script requestWith timeout limit (horizon + 1) pages before token
      [⟨requestWith token, answer⟩] where
  paging := ⟨rfl, hanswer.symm, .inl rfl⟩
  asked refusal := by rw [hrun]; rfl
  within n hlimit hn _ := lt_of_not_limitReached hreached hlimit hn
  ends := .inl ⟨.inl ⟨_, rfl, hlast⟩, fun refusal => by rw [hrun]⟩

/-- One page comes to its reviews. -/
theorem outcome_single (request : ReviewRequest) (page : ReviewPage) (refusal : String → AskError) :
    Turn.outcome schema refusal [⟨request, .ok page⟩] =
      (Review.allOfTold schema page.reviews).mapError AskError.misuse := by
  have hreviews : [Turn.mk request (.ok page)].flatMap Turn.reviews = page.reviews := List.append_nil _
  rw [Turn.outcome, hreviews]
  rfl

theorem outcome_cons {turn : Turn} {page : ReviewPage} {found : List Review} (rest : List Turn)
    (hanswer : turn.answer = .ok page) (hfound : Review.allOfTold schema page.reviews = .ok found)
    (refusal : String → AskError) :
    Turn.outcome schema refusal (turn :: rest) = (Turn.outcome schema refusal rest).map (found ++ ·) := by
  have hfailure : turn.failure? = none := by rw [Turn.failure?, hanswer]
  have hreviews : turn.reviews = page.reviews := by rw [Turn.reviews, hanswer]
  simp only [Turn.outcome, List.findSome?_cons, hfailure]
  cases rest.findSome? Turn.failure? with
  | some message => rfl
  | none =>
      have happend : Review.allOfTold schema (page.reviews ++ rest.flatMap Turn.reviews) =
          (Review.allOfTold schema (rest.flatMap Turn.reviews)).map (found ++ ·) := by
        rw [Review.allOfTold] at hfound ⊢
        rw [List.mapM_append, hfound, Review.allOfTold]
        cases (rest.flatMap Turn.reviews).mapM (Review.ofTold schema) <;> rfl
      rw [List.flatMap_cons, hreviews, happend]
      cases Review.allOfTold schema (rest.flatMap Turn.reviews) <;> rfl

/-- A turn from which a token leads on comes before the turns from that token on. -/
theorem Takes.cons {horizon pages : Nat} {before : List Question} {token : Value}
    (hreached : ¬ limitReached limit pages = true) {page : ReviewPage}
    (hanswer : script before (requestWith token) timeout = .ok page) {found : List Review}
    (hfound : Review.allOfTold schema page.reviews = .ok found) {next : String}
    (htoken : page.token? = some next) {rest : List Turn}
    (hrest : Takes schema script requestWith timeout limit horizon (pages + 1)
      (.reviews (requestWith token) timeout :: before) (.string next) rest) :
    Takes schema script requestWith timeout limit (horizon + 1) pages before token
      (⟨requestWith token, .ok page⟩ :: rest) := by
  have hrun (refusal : String → AskError) :
      pageThrough schema script requestWith timeout limit refusal (horizon + 1) pages before token =
        let run := pageThrough schema script requestWith timeout limit refusal horizon (pages + 1)
          (.reviews (requestWith token) timeout :: before) (.string next)
        (run.1.map (found ++ ·), run.2) := by
    simp only [pageThrough, hreached, hanswer, hfound, htoken]
    rfl
  have hnotLast : ¬ (Turn.mk (requestWith token) (.ok page)).IsLast schema := by
    rintro (hnone | ⟨fault, hfault⟩)
    · exact absurd (htoken.symm.trans hnone) (by simp)
    · exact absurd (hfound.symm.trans hfault) (by simp)
  refine ⟨⟨rfl, hanswer.symm, .inr ⟨hnotLast, next, htoken, hrest.paging⟩⟩, fun refusal => ?_,
    fun n hlimit hn _ => ?_, hrest.ends.imp ?_ ?_⟩
  · rw [hrun, hrest.asked]
    simp [Turn.questions]
  · have hwithin := hrest.within n hlimit hn (lt_of_not_limitReached hreached hlimit hn)
    rw [List.length_cons]
    omega
  · rintro ⟨hend, houtcome⟩
    refine ⟨hend.imp ?_ ?_, fun refusal => ?_⟩
    · rintro ⟨turn, hturn, hlast⟩
      exact ⟨turn, by rw [List.getLast?_cons, hturn]; rfl, hlast⟩
    · intro hlimit
      rwa [Nat.add_right_comm] at hlimit
    · rw [outcome_cons rest rfl hfound, ← houtcome, hrun]
  · rintro ⟨hlength, hnone, hendless⟩
    refine ⟨by rw [List.length_cons, hlength], List.forall_mem_cons.mpr ⟨hnotLast, hnone⟩,
      fun refusal => ?_⟩
    rw [hrun]
    dsimp only
    rw [hendless]
    rfl

variable (schema script requestWith timeout limit) in
theorem exists_takes (horizon pages : Nat) (before : List Question) (token : Value) :
    ∃ turns, Takes schema script requestWith timeout limit horizon pages before token turns := by
  induction horizon generalizing pages before token with
  | zero =>
      exact ⟨[], trivial, fun _ => rfl, fun _ _ _ hpages => hpages,
        .inr ⟨rfl, by simp, fun _ => rfl⟩⟩
  | succ horizon ih =>
      -- The cases of the loop's body: all but the last end the turns.
      by_cases hreached : limitReached limit pages = true
      · have hrun (refusal : String → AskError) :
            pageThrough schema script requestWith timeout limit refusal (horizon + 1) pages before token =
              (.ok [], before) := by
          simp only [pageThrough, hreached, ↓reduceIte]
        exact ⟨[], trivial, fun _ => by rw [hrun]; rfl, fun _ _ _ hpages => hpages,
          .inl ⟨.inr hreached, fun _ => by rw [hrun]; rfl⟩⟩
      cases hanswer : script before (requestWith token) timeout with
      | error message =>
          refine ⟨_, takes_single hreached hanswer (.inl rfl) fun refusal => ?_⟩
          simp only [pageThrough, hreached, hanswer]
          rfl
      | ok page =>
          cases hfound : Review.allOfTold schema page.reviews with
          | error fault =>
              refine ⟨_, takes_single hreached hanswer (.inr ⟨fault, hfound⟩) fun refusal => ?_⟩
              simp only [pageThrough, hreached, hanswer, outcome_single, hfound]
              rfl
          | ok found =>
              cases htoken : page.token? with
              | none =>
                  refine ⟨_, takes_single hreached hanswer (.inl htoken) fun refusal => ?_⟩
                  simp only [pageThrough, hreached, hanswer, outcome_single, hfound, htoken]
                  rfl
              | some next =>
                  obtain ⟨rest, hrest⟩ :=
                    ih (pages + 1) (.reviews (requestWith token) timeout :: before) (.string next)
                  exact ⟨_, hrest.cons hreached hanswer hfound htoken⟩

end Loop

/-! ## The two clients -/

section Clients

variable {script : ReviewScript} {partner : Partner Question}

/-- The reviews of a page, and then those behind it if a token leads on. -/
theorem perform_goOn {σ : Type} (page : ReviewPage) (found : List Review)
    (behind : Value → Ask σ (List Review)) (session : Session Question σ) :
    Talk.perform (if page.nextValue.isTruthy then do
        let more ← behind page.nextValue
        return found ++ more
      else return found) partner session =
      match page.token? with
      | none => (.ok found, session)
      | some next =>
          let run := (behind (.string next)).perform partner session
          (run.1.map (found ++ ·), run.2) := by
  cases htoken : page.token? with
  | none => simp [ReviewPage.isTruthy_nextValue_of_none htoken]
  | some next =>
      obtain ⟨hnext, htruthy⟩ := ReviewPage.nextValue_of_some htoken
      simp only [hnext, htruthy, ↓reduceIte, Talk.perform_bind, Talk.perform_pure]
      rcases (behind (.string next)).perform partner session with ⟨_ | more, last⟩ <;> rfl

variable (schema : Schema) (hscript : script.IsSpokenBy partner) (appId lang country sort : Value)
  (limit : Option Nat)

include hscript

theorem DirectClient.perform_reviewsFrom {σ : Type} (client : DirectClient) (horizon pages : Nat)
    (token : Value) (before : List Question) (state : σ) :
    (client.reviewsFrom schema appId lang country sort (pageLimit limit) horizon pages token).perform partner
        ⟨before, state⟩ =
      let run := pageThrough schema script
        (fun token => { appId, lang := choose lang client.lang, country, sort, token }) client.timeout
        limit AskError.reader horizon pages before token
      (run.1, ⟨run.2, state⟩) := by
  induction horizon generalizing pages token before with
  | zero => rfl
  | succ horizon ih =>
      simp only [DirectClient.reviewsFrom, Ask.use, pageLimitReached_eq, Talk.perform_bind,
        Talk.perform_accept_ok, pageThrough]
      split
      next => rfl
      next =>
        simp only [DirectClient.reviews, Talk.perform_bind, Talk.perform_ask]
        rw [hscript]
        cases script before _ client.timeout with
        | error message => rfl
        | ok page =>
            simp only [Except.map, Ask.use, ReviewPage.pair_told, Talk.perform_accept_ok,
              each_list_bind]
            cases Review.allOfTold schema page.reviews with
            | error fault => rfl
            | ok found =>
                simp only [Talk.perform_accept_ok, Talk.perform_pure, perform_goOn, ih]
                cases page.token? <;> rfl

theorem PageClient.perform_reviewsFrom (client : PageClient) (horizon pages : Nat)
    (token : Value) (before : List Question) (isOpen : Bool) :
    (client.reviewsFrom schema appId lang country sort (pageLimit limit) horizon pages token none).perform
        partner ⟨before, isOpen⟩ =
      let run := pageThrough schema script
        (fun token => { appId, lang := choose lang client.lang, country, sort, token }) client.timeout
        limit (unreadable "fetch reviews") horizon pages before token
      (run.1, ⟨run.2, isOpen⟩) := by
  induction horizon generalizing pages token before with
  | zero => rfl
  | succ horizon ih =>
      simp only [PageClient.reviewsFrom, Ask.use, pageLimitReached_eq, Talk.perform_bind,
        Talk.perform_accept_ok, pageThrough, reduceCtorEq, ↓reduceIte]
      split
      next => rfl
      next =>
        simp only [Talk.perform_bind, Talk.perform_ask]
        rw [hscript]
        cases script before _ client.timeout with
        | error message => rfl
        | ok page =>
            simp only [Except.map, ReviewPage.pair_told, Talk.perform_accept_ok, each_list]
            cases Review.allOfTold schema page.reviews with
            | error fault => rfl
            | ok found =>
                simp only [Talk.perform_accept_ok, stillWanted, Option.map_none]
                refine (perform_goOn page found (fun next => client.reviewsFrom schema appId lang country
                  sort (pageLimit limit) horizon (pages + 1) next none) _).trans ?_
                simp only [ih]
                cases page.token? <;> rfl

end Clients

/-- Both clients page through reviews alike. They ask the same questions, in the same turns: the first
request has no token, each later one the token of the page before, and there are no more turns than the
limit allows. They stop at the first page that leads to no other, at the first page with a review that
cannot be made, or at the limit. Unless a request fails both deliver the reviews of all pages in their order;
where one of them cannot be made, both fail with the reason for that instead. They give up only at a horizon
up to which every page leads to another one. -/
theorem reviews_paged_alike {σ : Type} (schema : Schema) {script : ReviewScript}
    {partner : Partner Question} (hscript : script.IsSpokenBy partner) (direct : DirectClient)
    (paging : PageClient) (htimeout : paging.timeout = direct.timeout) (hlang : paging.lang = direct.lang)
    (appId lang country sort : Value) (limit : Option Nat) (horizon : Nat) (before : List Question)
    (state : σ) (isOpen : Bool) :
    let listed := (direct.allReviews schema appId lang country sort (pageLimit limit) horizon).perform
      partner ⟨before, state⟩
    let streamed := (paging.streamReviews schema appId lang country sort (pageLimit limit) none
      horizon).perform partner ⟨before, isOpen⟩
    ∃ turns : List Turn,
      IsPaging schema script
        (fun token => { appId, lang := choose lang direct.lang, country, sort, token }) direct.timeout
        before .null turns ∧
      listed.2.asked = Turn.questions direct.timeout turns ++ before ∧
      streamed.2.asked = Turn.questions direct.timeout turns ++ before ∧
      (∀ n, limit = some n → 0 < n → turns.length ≤ n) ∧
      ((((∃ turn, turns.getLast? = some turn ∧ turn.IsLast schema) ∨
            ∃ n, limit = some n ∧ 0 < n ∧ turns.length = n) ∧
          listed.1 = Turn.outcome schema AskError.reader turns ∧
          streamed.1 = Turn.outcome schema (PageClient.unreadable "fetch reviews") turns) ∨
        (turns.length = horizon ∧ (∀ turn ∈ turns, ¬ turn.IsLast schema) ∧
          listed.1 = .error .endless ∧ streamed.1 = .error .endless)) := by
  intro listed streamed
  obtain ⟨turns, hturns⟩ := exists_takes schema script
    (fun token => { appId, lang := choose lang direct.lang, country, sort, token }) direct.timeout limit
    horizon 0 before .null
  have hlisted : listed = _ := direct.perform_reviewsFrom schema hscript appId lang country sort limit
    horizon 0 .null before state
  have hstreamed : streamed = _ := paging.perform_reviewsFrom schema hscript appId lang country sort
    limit horizon 0 .null before isOpen
  rw [htimeout, hlang] at hstreamed
  have hwithin (n : Nat) (hlimit : limit = some n) (hn : 0 < n) : turns.length ≤ n := by
    simpa using hturns.within n hlimit hn (Nat.zero_le n)
  rw [hlisted, hstreamed]
  refine ⟨turns, hturns.paging, hturns.asked _, hturns.asked _, hwithin, hturns.ends.imp ?_ ?_⟩
  · rintro ⟨hend, houtcome⟩
    refine ⟨hend.imp_right fun hreached => ?_, houtcome _, houtcome _⟩
    obtain ⟨n, hlimit, hpositive, hle⟩ := limitReached_iff.mp hreached
    rw [Nat.zero_add] at hle
    exact ⟨n, hlimit, hpositive, Nat.le_antisymm (hwithin n hlimit hpositive) hle⟩
  · rintro ⟨hlength, hnone, hendless⟩
    exact ⟨hlength, hnone, hendless _, hendless _⟩

/-- What is told of a review of a time. -/
def toldReview (reviewId : String) (createdAt : Int) : Value :=
  .record [("review_id", .string reviewId), ("user_name", .string "Someone"), ("user_image", .null),
    ("content", .string "It works."), ("score", .ofInt 5), ("thumbs_up", .ofInt 0),
    ("created_at", .ofInt createdAt), ("reply_content", .null), ("reply_at", .null)]

/-- A script of two pages with one review each, the first of a time. -/
def twoPages (createdAt : Int) : ReviewScript := fun _ request _ =>
  match request.token with
  | .null => .ok ⟨[toldReview "first" createdAt], some "more"⟩
  | _ => .ok ⟨[toldReview "second" 1700000000], some ""⟩

/-- A partner who knows nothing but the two pages. -/
def twoPagesPartner (createdAt : Int) : Partner Question := fun before question =>
  question.answer
    (fun _ =>
      match question with
      | .reviews request timeout => (twoPages createdAt before request timeout).map ReviewPage.told
      | _ => .error "no such page")
    fun _ => .error .client

/-- Without a limit both clients get both pages, and the empty token ends them. -/
theorem twoPages_listed_and_streamed :
    let direct : DirectClient := {}
    let paging : PageClient := { headers := .null }
    let schema := Schema.plain.cleaning
    let partner := twoPagesPartner 1600000000
    let listed := (direct.allReviews schema (.string "com.example.app") .null (.string "us") (.ofInt 1)
      .null 5).perform partner ⟨[], ()⟩
    let streamed := (paging.streamReviews schema (.string "com.example.app") .null (.string "us") (.ofInt 1)
      .null none 5).perform partner ⟨[], false⟩
    (twoPages 1600000000).IsSpokenBy partner ∧
      listed.1.map (·.map Review.reviewId) = .ok [.string "first", .string "second"] ∧
      ∃ turns, turns.length = 2 ∧ listed.2.asked = Turn.questions direct.timeout turns ∧
        streamed.2.asked = Turn.questions direct.timeout turns ∧
        listed.1 = Turn.outcome schema AskError.reader turns ∧
        streamed.1 = Turn.outcome schema (PageClient.unreadable "fetch reviews") turns := by
  intro direct paging schema partner listed streamed
  have hscript : (twoPages 1600000000).IsSpokenBy partner := fun _ _ _ => rfl
  obtain ⟨turns, -, hlisted, hstreamed, -, hend⟩ := reviews_paged_alike schema hscript direct paging rfl rfl
    (.string "com.example.app") .null (.string "us") (.ofInt 1) none 5 [] () false
  have hlength : turns.length = 2 := by
    have hasked : listed.2.asked.length = 2 := by rfl
    simpa [Turn.questions] using (congrArg List.length hlisted).symm.trans hasked
  obtain ⟨-, hlist, hstream⟩ := hend.resolve_right fun ⟨hgiven, _⟩ => by omega
  rw [List.append_nil] at hlisted hstreamed
  exact ⟨hscript, rfl, turns, hlength, hlisted, hstreamed, hlist, hstream⟩

/-- The time of the first review is beyond all calendars. No request fails and a token leads on, but neither
client asks for the second page, and neither delivers a review. -/
theorem far_time_ends_paging :
    let direct : DirectClient := {}
    let paging : PageClient := { headers := .null }
    let schema := Schema.plain.cleaning
    let script := twoPages 1000000000000000
    let partner := twoPagesPartner 1000000000000000
    let request (token : Value) : ReviewRequest :=
      ⟨.string "com.example.app", .string "en", .string "us", .ofInt 1, token⟩
    let listed := (direct.allReviews schema (.string "com.example.app") .null (.string "us") (.ofInt 1)
      .null 5).perform partner ⟨[], ()⟩
    let streamed := (paging.streamReviews schema (.string "com.example.app") .null (.string "us") (.ofInt 1)
      .null none 5).perform partner ⟨[], false⟩
    script.IsSpokenBy partner ∧
      (∀ before asked timeout, ∃ page, script before asked timeout = .ok page) ∧
      (Turn.mk (request .null) (script [] (request .null) direct.timeout)).token? = some "more" ∧
      listed.2.asked = [.reviews (request .null) direct.timeout] ∧
      streamed.2.asked = [.reviews (request .null) direct.timeout] ∧
      (∃ fault, listed.1 = .error (.misuse fault) ∧ streamed.1 = .error (.misuse fault)) := by
  refine ⟨fun _ _ _ => rfl, fun before asked timeout => ?_, rfl, rfl, rfl, _, rfl, rfl⟩
  unfold twoPages
  split
  · exact ⟨_, rfl⟩
  · exact ⟨_, rfl⟩

end AppSurvey.Store
