import AppSurvey.Proofs.Store.Paging

/-!
# The limit of pages

Both clients look at the limit before they ask for a page, and count the pages that lead to another one.
So a limit of one or more pages bounds the requests whatever the store answers, also where every page leads
to another one. A limit of zero says nothing and bounds nothing: it is the same as no limit.
-/

namespace AppSurvey.Store

open Talk

/-! ## Rounds and runs -/

/-- A loop over pages. It asks nothing at its horizon, at its limit or where nothing more is wanted;
otherwise a round asks once and may go on with the next one. -/
structure IsLimited {σ γ α : Type} (limit : Option Nat) (wants : γ → Prop)
    (loop : (horizon pages : Nat) → γ → Ask σ α) : Prop where
  horizon : ∀ pages place, (loop 0 pages place).AsksWithin 0 0
  stop : ∀ horizon pages place, limitReached limit pages = true ∨ ¬ wants place →
    (loop (horizon + 1) pages place).AsksWithin 0 0
  round : ∀ horizon pages place more, ¬ limitReached limit pages = true → wants place →
    (∀ next, (loop horizon (pages + 1) next).AsksWithin 0 more) →
      (loop (horizon + 1) pages place).AsksWithin 1 (1 + more)

namespace IsLimited

variable {σ γ α : Type} {limit : Option Nat} {wants : γ → Prop}
  {loop : (horizon pages : Nat) → γ → Ask σ α}

/-- Whatever the limit is, there are no more requests than the horizon allows. -/
theorem asksWithin_horizon (hloop : IsLimited limit wants loop) (horizon pages : Nat) (place : γ) :
    (loop horizon pages place).AsksWithin 0 horizon := by
  induction horizon generalizing pages place with
  | zero => exact hloop.horizon pages place
  | succ horizon ih =>
      by_cases hstop : limitReached limit pages = true ∨ ¬ wants place
      · exact (hloop.stop horizon pages place hstop).mono (Nat.le_refl 0) (Nat.zero_le _)
      · rw [not_or, not_not] at hstop
        have hround := hloop.round horizon pages place horizon hstop.1 hstop.2 fun next => ih _ next
        exact hround.mono (Nat.zero_le 1) (by omega)

/-- After some pages there are no more requests than the limit leaves. -/
theorem asksWithin_limit {n : Nat} (hloop : IsLimited (some n) wants loop) (hn : 0 < n)
    (horizon pages : Nat) (place : γ) : (loop horizon pages place).AsksWithin 0 (n - pages) := by
  induction horizon generalizing pages place with
  | zero => exact (hloop.horizon pages place).mono (Nat.le_refl 0) (Nat.zero_le _)
  | succ horizon ih =>
      by_cases hstop : limitReached (some n) pages = true ∨ ¬ wants place
      · exact (hloop.stop horizon pages place hstop).mono (Nat.le_refl 0) (Nat.zero_le _)
      · rw [not_or, not_not] at hstop
        have hpages : pages < n := lt_of_not_limitReached hstop.1 rfl hn
        have hround := hloop.round horizon pages place _ hstop.1 hstop.2 fun next => ih _ next
        exact hround.mono (Nat.zero_le 1) (by omega)

theorem exists_requests_iff {n : Nat} (hloop : IsLimited (some n) wants loop) (horizon : Nat)
    (place : γ) (partner : Partner Question) (session : Session Question σ) :
    ∃ requests,
      ((loop (horizon + 1) 0 place).perform partner session).2.asked = requests ++ session.asked ∧
        (requests.length ≤ n ↔ 0 < n ∨ ¬ wants place) := by
  by_cases hwants : wants place
  · rcases Nat.eq_zero_or_pos n with rfl | hn
    · -- Zero is never reached, so the first page is asked for.
      have hround := hloop.round horizon 0 place horizon (by simp [limitReached]) hwants
        fun next => hloop.asksWithin_horizon horizon 1 next
      obtain ⟨requests, hasked, hleast, -⟩ := hround.exists_asked partner session
      refine ⟨requests, hasked, ?_⟩
      simp only [hwants, not_true_eq_false, or_false]
      omega
    · obtain ⟨requests, hasked, -, hmost⟩ :=
        (hloop.asksWithin_limit hn (horizon + 1) 0 place).exists_asked partner session
      exact ⟨requests, hasked, fun _ => .inl hn, fun _ => hmost⟩
  · obtain ⟨requests, hasked, -, hmost⟩ :=
      (hloop.stop horizon 0 place (.inr hwants)).exists_asked partner session
    exact ⟨requests, hasked, fun _ => .inr hwants, fun _ => Nat.le_trans hmost (Nat.zero_le n)⟩

end IsLimited

/-! ## The loops of the clients -/

/-- What can be used is used without asking. -/
theorem use_ok_bind {σ α β : Type} (a : α) (next : α → Ask σ β) :
    (Ask.use (.ok a) >>= next) = next a :=
  pure_bind a next

section Clients

variable (schema : Schema) (appId lang country sort : Value) (limit : Option Nat)

theorem DirectClient.asksWithin_reviews {σ : Type} (client : DirectClient) (token : Value) :
    (client.reviews schema appId lang country sort token : Ask σ _).AsksWithin 1 1 := by
  change AsksWithin _ 1 (1 + 0)
  rw [DirectClient.reviews]
  refine (asksWithin_ask (Question.reviews _ _)).bind fun answer => ?_
  refine (isQuiet_accept _ _).bind_asksWithin fun told => ?_
  refine (isQuiet_accept _ _).bind_asksWithin fun parts => ?_
  refine (isQuiet_accept _ _).bind_asksWithin fun found => ?_
  exact (isQuiet_pure _).asksWithin

theorem DirectClient.isLimited_reviewsFrom {σ : Type} (client : DirectClient) :
    IsLimited limit (fun _ => True) (fun horizon pages token =>
      (client.reviewsFrom schema appId lang country sort (pageLimit limit) horizon pages token :
        Ask σ _)) where
  horizon pages token := (isQuiet_throw _).asksWithin
  stop horizon pages token hstop := by
    have hreached : limitReached limit pages = true := by simpa using hstop
    rw [DirectClient.reviewsFrom, pageLimitReached_eq, hreached]
    exact (isQuiet_pure []).asksWithin
  round horizon pages token more hreached _ hrest := by
    rw [DirectClient.reviewsFrom, pageLimitReached_eq, Bool.eq_false_iff.mpr hreached,
      use_ok_bind]
    refine (client.asksWithin_reviews schema appId lang country sort token).bind fun page => ?_
    obtain ⟨found, next⟩ := page
    dsimp only
    split
    · exact (hrest next).bind fun more => (isQuiet_pure _).asksWithin
    · exact (isQuiet_pure _).asksWithin.mono (Nat.le_refl 0) (Nat.zero_le more)

theorem PageClient.isLimited_reviewsFrom (client : PageClient) :
    IsLimited limit (fun place : Value × Option Nat => place.2 ≠ some 0)
      (fun horizon pages place => client.reviewsFrom schema appId lang country sort (pageLimit limit)
        horizon pages place.1 place.2) where
  horizon pages place := (isQuiet_throw _).asksWithin
  stop horizon pages place hstop := by
    rw [PageClient.reviewsFrom]
    split
    · exact (isQuiet_pure []).asksWithin
    next hwanted =>
      have hreached : limitReached limit pages = true := by simpa [hwanted] using hstop
      rw [pageLimitReached_eq, hreached]
      exact (isQuiet_pure []).asksWithin
  round horizon pages place more hreached hwants hrest := by
    rw [PageClient.reviewsFrom, if_neg hwants, pageLimitReached_eq, Bool.eq_false_iff.mpr hreached,
      use_ok_bind]
    refine (asksWithin_ask (Question.reviews _ _)).bind fun answer => ?_
    refine (isQuiet_accept _ _).bind_asksWithin fun told => ?_
    refine (isQuiet_accept _ _).bind_asksWithin fun parts => ?_
    refine (isQuiet_accept _ _).bind_asksWithin fun raws => ?_
    refine (isQuiet_accept _ _).bind_asksWithin fun found => ?_
    split
    · exact (hrest (_, _)).bind fun more => (isQuiet_pure _).asksWithin
    · exact (isQuiet_pure _).asksWithin.mono (Nat.le_refl 0) (Nat.zero_le more)

theorem DirectClient.reviewsFrom_congr {σ : Type} (client : DirectClient) {limit other : Value}
    (hlimit : ∀ pages, pageLimitReached limit pages = pageLimitReached other pages)
    (horizon pages : Nat) (token : Value) :
    (client.reviewsFrom schema appId lang country sort limit horizon pages token : Ask σ _) =
      client.reviewsFrom schema appId lang country sort other horizon pages token := by
  induction horizon generalizing pages token with
  | zero => rfl
  | succ horizon ih => simp only [DirectClient.reviewsFrom, hlimit, ih]

theorem PageClient.reviewsFrom_congr (client : PageClient) {limit other : Value}
    (hlimit : ∀ pages, pageLimitReached limit pages = pageLimitReached other pages)
    (horizon pages : Nat) (token : Value) (wanted : Option Nat) :
    client.reviewsFrom schema appId lang country sort limit horizon pages token wanted =
      client.reviewsFrom schema appId lang country sort other horizon pages token wanted := by
  induction horizon generalizing pages token wanted with
  | zero => rfl
  | succ horizon ih => simp only [PageClient.reviewsFrom, hlimit, ih]

end Clients

/-- A limit of zero pages is reached as little as no limit. -/
theorem pageLimitReached_zero (pages : Nat) :
    pageLimitReached (.ofNat 0) pages = pageLimitReached .null pages :=
  (pageLimitReached_eq (some 0) pages).trans (pageLimitReached_eq none pages).symm

/-! ## Stores without a last page -/

/-- Every request is answered with a page that leads to another one, and its reviews can be made. -/
def ReviewScript.LeadsOn (schema : Schema) (script : ReviewScript) : Prop :=
  ∀ before request timeout, ∃ page found token, script before request timeout = .ok page ∧
    Review.allOfTold schema page.reviews = .ok found ∧ page.token? = some token

/-- Without a limit a store that has no last page is asked up to the horizon. -/
theorem length_pageThrough {schema : Schema} {script : ReviewScript} (hscript : script.LeadsOn schema)
    (requestWith : Value → ReviewRequest) (timeout : Value) (refusal : String → AskError)
    (horizon pages : Nat) (before : List Question) (token : Value) :
    (pageThrough schema script requestWith timeout (some 0) refusal horizon pages before token).2.length =
      horizon + before.length := by
  induction horizon generalizing pages before token with
  | zero => simp [pageThrough]
  | succ horizon ih =>
      obtain ⟨page, found, next, hanswer, hfound, htoken⟩ := hscript before (requestWith token) timeout
      have hreached : limitReached (some 0) pages = false := by simp [limitReached]
      simp only [pageThrough, hreached, hanswer, hfound, htoken, Bool.false_eq_true, ↓reduceIte]
      rw [ih, List.length_cons, Nat.add_right_comm, Nat.add_assoc]

/-- The limit of pages bounds the requests of both clients, whatever the store answers, exactly if it is
not zero (or, where reviews are handed on one by one, if none is wanted). A limit of zero is the same as no
limit, so a store in which every page leads to another one is asked without end. -/
theorem requests_within_limit_iff_not_zero {σ : Type} (schema : Schema) (direct : DirectClient)
    (paging : PageClient) (appId lang country sort : Value) (n horizon : Nat) (wanted : Option Nat)
    (partner : Partner Question) (session : Session Question σ) (pageSession : Session Question Bool) :
    let listing (limit : Value) := direct.allReviews schema appId lang country sort limit (horizon + 1)
    let streaming (limit : Value) (wanted : Option Nat) :=
      paging.streamReviews schema appId lang country sort limit wanted (horizon + 1)
    (∃ requests,
      ((listing (.ofNat n)).perform partner session).2.asked = requests ++ session.asked ∧
        (requests.length ≤ n ↔ 0 < n)) ∧
    (∃ requests,
      ((streaming (.ofNat n) wanted).perform partner pageSession).2.asked =
        requests ++ pageSession.asked ∧
          (requests.length ≤ n ↔ 0 < n ∨ wanted = some 0)) ∧
    (listing (.ofNat 0) : Ask σ _) = listing .null ∧
    streaming (.ofNat 0) wanted = streaming .null wanted ∧
    ∀ script : ReviewScript, script.IsSpokenBy partner → script.LeadsOn schema →
      ((listing (.ofNat 0)).perform partner session).2.asked.length =
        horizon + 1 + session.asked.length ∧
      ((streaming (.ofNat 0) none).perform partner pageSession).2.asked.length =
        horizon + 1 + pageSession.asked.length := by
  intro listing streaming
  refine ⟨?_, ?_, ?_, ?_, ?_⟩
  · obtain ⟨requests, hasked, hcount⟩ :=
      (direct.isLimited_reviewsFrom schema appId lang country sort (some n)).exists_requests_iff horizon
        .null partner session
    exact ⟨requests, hasked, by simpa using hcount⟩
  · obtain ⟨requests, hasked, hcount⟩ :=
      (paging.isLimited_reviewsFrom schema appId lang country sort (some n)).exists_requests_iff horizon
        (.null, wanted) partner pageSession
    exact ⟨requests, hasked, by simpa using hcount⟩
  · exact direct.reviewsFrom_congr schema appId lang country sort pageLimitReached_zero _ _ _
  · exact paging.reviewsFrom_congr schema appId lang country sort pageLimitReached_zero _ _ _ _
  · intro script hscript hleads
    constructor
    · have hrun := direct.perform_reviewsFrom schema hscript appId lang country sort (some 0) (horizon + 1) 0
        .null session.asked session.state
      exact (congrArg (fun run => run.2.asked.length) hrun).trans
        (length_pageThrough hleads _ _ _ _ _ _ _)
    · have hrun := paging.perform_reviewsFrom schema hscript appId lang country sort (some 0) (horizon + 1) 0
        .null pageSession.asked pageSession.state
      exact (congrArg (fun run => run.2.asked.length) hrun).trans
        (length_pageThrough hleads _ _ _ _ _ _ _)

/-- Every page is empty and leads to another one. -/
def endlessPages : ReviewScript := fun _ _ _ => .ok ⟨[], some "more"⟩

/-- A partner who knows nothing but such pages. -/
def endlessPartner : Partner Question := fun _ question =>
  question.answer (fun _ => .ok (ReviewPage.told ⟨[], some "more"⟩)) fun _ => .error .client

/-- With a limit of zero both clients ask for as many pages as the horizon allows, here ten; with a limit of
two they ask for no more than two. -/
theorem endlessPages_asked_past_zero :
    let direct : DirectClient := {}
    let paging : PageClient := { headers := .null }
    let schema := Schema.plain.cleaning
    let listed (limit : Value) := (direct.allReviews schema (.string "com.example.app") .null
      (.string "us") (.ofInt 1) limit (9 + 1)).perform endlessPartner ⟨[], ()⟩
    let streamed (limit : Value) := (paging.streamReviews schema (.string "com.example.app") .null
      (.string "us") (.ofInt 1) limit none (9 + 1)).perform endlessPartner ⟨[], true⟩
    endlessPages.IsSpokenBy endlessPartner ∧ endlessPages.LeadsOn schema ∧
      (listed (.ofNat 0)).2.asked.length = 10 ∧ (streamed (.ofNat 0)).2.asked.length = 10 ∧
      (listed (.ofNat 2)).2.asked.length ≤ 2 ∧ (streamed (.ofNat 2)).2.asked.length ≤ 2 := by
  have hscript : endlessPages.IsSpokenBy endlessPartner := fun _ _ _ => rfl
  have hleads : endlessPages.LeadsOn Schema.plain.cleaning :=
    fun _ _ _ => ⟨_, [], "more", rfl, rfl, by decide⟩
  have hlimit (n : Nat) := requests_within_limit_iff_not_zero Schema.plain.cleaning {}
    { headers := .null } (.string "com.example.app") .null (.string "us") (.ofInt 1) n 9 none
    endlessPartner ⟨[], ()⟩ ⟨[], true⟩
  dsimp only at hlimit ⊢
  obtain ⟨hlistedZero, hstreamedZero⟩ := (hlimit 0).2.2.2.2 endlessPages hscript hleads
  obtain ⟨⟨requests, hlisted, hlist⟩, ⟨others, hstreamed, hstream⟩, -⟩ := hlimit 2
  rw [hlisted, hstreamed, List.append_nil, List.append_nil]
  exact ⟨hscript, hleads, hlistedZero, hstreamedZero, hlist.mpr Nat.two_pos,
    hstream.mpr (.inl Nat.two_pos)⟩

end AppSurvey.Store
