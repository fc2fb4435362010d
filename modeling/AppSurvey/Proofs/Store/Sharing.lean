import AppSurvey.Proofs.Store.Collection
import AppSurvey.Store.RequestBuilder
import Mathlib.Data.Finset.Card

/-!
# Texts that are kept once

A builder takes the texts of its requests from a pool. `Shares` says of a piece of work with a pool what it
comes to and which texts it asks the pool for, whether the pool keeps them or not: the result does not
depend on what the pool holds, and the pool holds afterwards what it held before and those texts, each
once. Work that is put together from such parts is of the same kind, up to a history of calls.
-/

namespace AppSurvey.Store

/-! ## Pools -/

namespace TextPool

/-- A pool that has been asked for texts, one after the other. -/
def holding (switch : Bool) (texts : List String) : TextPool where
  switch := .bool switch
  kept := if switch then texts.eraseDups.map fun text => (text, text) else []

theorem lookup_map_diag (texts : List String) (text : String) :
    (texts.map fun kept => (kept, kept)).lookup text = if text ∈ texts then some text else none := by
  induction texts with
  | nil => rfl
  | cons first rest ih =>
      rw [List.map_cons, List.lookup_cons, ih]
      by_cases heq : text = first
      · simp [heq]
      · simp [heq, beq_eq_false_iff_ne.mpr heq]

/-- A text comes out of a pool as it is. -/
theorem keep_holding (switch : Bool) (earlier : List String) (text : String) :
    keep text (holding switch earlier) = (text, holding switch (earlier ++ [text])) := by
  cases switch with
  | false => rfl
  | true =>
      have henabled : (holding true earlier).enabled = true := rfl
      simp only [keep, henabled, if_true]
      simp only [holding, if_true, lookup_map_diag, eraseDups_concat]
      by_cases hkept : text ∈ earlier.eraseDups
      · simp only [hkept, if_true]
      · simp [hkept]

section Holding

variable (texts : List String)

theorem map_fst_kept_holding : (holding true texts).kept.map Prod.fst = texts.eraseDups := by
  simp [holding, Function.comp_def]

/-- Each text is kept under itself. -/
theorem snd_eq_fst_of_mem_kept {entry : String × String} (hentry : entry ∈ (holding true texts).kept) :
    entry.2 = entry.1 := by
  obtain ⟨text, -, rfl⟩ := List.mem_map.mp hentry
  rfl

theorem size_holding : (holding true texts).size = texts.toFinset.card := by
  have hsame : texts.eraseDups.toFinset = texts.toFinset := by
    ext text
    simp
  rw [size, ← List.length_map Prod.fst, map_fst_kept_holding, ← hsame,
    List.toFinset_card_of_nodup (nodup_eraseDups texts)]

/-- What a pool keeps, it keeps. -/
theorem kept_holding_append (more : List String) :
    (holding true texts).kept <+: (holding true (texts ++ more)).kept := by
  simp only [holding, if_true, List.eraseDups_append, List.map_append]
  exact List.prefix_append _ _

end Holding

/-- Work that comes to a result and asks the pool for texts, whatever it was asked for before. -/
structure Shares {α : Type} (work : Pooling α) (result : α) (texts : List String) : Prop where
  run_eq : ∀ switch earlier, work.run.run (holding switch earlier) =
    (.ok result, holding switch (earlier ++ texts))

section Parts

variable {α β : Type}

theorem shares_pure (a : α) : Shares (pure a) a [] :=
  ⟨fun _ earlier => by rw [List.append_nil]; rfl⟩

theorem shares_lift (a : α) : Shares (liftM (Except.ok a : Except Misuse α)) a [] :=
  ⟨fun _ earlier => by rw [List.append_nil]; rfl⟩

theorem Shares.bind {work : Pooling α} {next : α → Pooling β} {a : α} {b : β}
    {texts more : List String} (hwork : Shares work a texts) (hnext : Shares (next a) b more) :
    Shares (work >>= next) b (texts ++ more) := by
  constructor
  intro switch earlier
  have hlater := hnext.run_eq switch (earlier ++ texts)
  rw [List.append_assoc] at hlater
  rw [ExceptT.run_bind, StateT.run_bind, hwork.run_eq switch earlier]
  exact hlater

theorem Shares.andThen {work : Pooling α} {next : Pooling β} {a : α} {b : β}
    {texts more : List String} (hwork : Shares work a texts) (hnext : Shares next b more) :
    Shares (do let _ ← work; next) b (texts ++ more) :=
  hwork.bind hnext

theorem Shares.map {work : Pooling α} {a : α} {texts : List String} (hwork : Shares work a texts)
    (f : α → β) : Shares (f <$> work) (f a) texts := by
  rw [map_eq_pure_bind, ← List.append_nil texts]
  exact hwork.bind (shares_pure (f a))

theorem Shares.combine {γ : Type} {work : Pooling α} {other : Pooling β} {a : α} {b : β}
    {texts more : List String} (hwork : Shares work a texts) (hother : Shares other b more)
    (f : α → β → γ) : Shares (do return f (← work) (← other)) (f a b) (texts ++ more) :=
  hwork.bind (hother.map (f a))

theorem shares_mapM {work : α → Pooling β} {result : α → β} {texts : α → List String}
    (hwork : ∀ item, Shares (work item) (result item) (texts item)) (items : List α) :
    Shares (items.mapM work) (items.map result) (items.flatMap texts) := by
  induction items with
  | nil => exact shares_pure []
  | cons item rest ih =>
      rw [List.mapM_cons, List.map_cons, List.flatMap_cons, ← List.append_nil (rest.flatMap texts)]
      exact (hwork item).bind (ih.bind (shares_pure _))

end Parts

theorem shares_share (text : String) : Shares (share (.string text)) (.string text) [text] := by
  constructor
  intro switch earlier
  change (let (same, pool) := keep text (holding switch earlier)
    (Except.ok (Value.string same), pool)) = _
  rw [keep_holding]

/-- What is said by a choice: neither nothing nor an empty text says anything. -/
def said (given : Option String) : Option String := given.filter fun text => !text.isEmpty

theorem said_some (text : String) : said (some text) = if text = "" then none else some text := by
  by_cases hempty : text = ""
  · simp [said, Option.filter_some, hempty]
  · simp [said, Option.filter_some, hempty]

theorem shares_shareOr (given : Option String) (otherwise : Value) :
    Shares (shareOr (toValue given) otherwise) ((said given).elim otherwise .string)
      (said given).toList := by
  cases given with
  | none => exact shares_pure otherwise
  | some text =>
      change Shares (if !text.isEmpty then share (.string text) else pure otherwise) _ _
      rw [said_some]
      by_cases hempty : text = ""
      · simpa [hempty] using shares_pure otherwise
      · simpa [hempty] using shares_share text

theorem shares_shareOr_null (given : Option String) :
    Shares (shareOr (toValue given) .null) (toValue (said given)) (said given).toList := by
  have hvalue : toValue (said given) = (said given).elim .null .string := by
    cases said given <;> rfl
  rw [hvalue]
  exact shares_shareOr given .null

/-- All requests are made, the second item changes first, and each asks for its texts. -/
theorem shares_build {α β γ π : Type} [ToValue α] [ToValue β] {prepare : Pooling π} {common : π}
    {chosen : List String} (hprepare : Shares prepare common chosen)
    {make : π → Value × Value → Pooling γ} {request : α → β → γ} {texts : α → β → List String}
    (hmake : ∀ a b, Shares (make common (toValue a, toValue b)) (request a b) (texts a b))
    (firsts : List α) (seconds : List β) :
    Shares (build none prepare (toValue firsts) (toValue seconds) make)
      (firsts.flatMap fun a => seconds.map fun b => request a b)
      (chosen ++ firsts.flatMap fun a => seconds.flatMap fun b => texts a b) := by
  have hmakes : Shares ((pairs (firsts.map toValue) (seconds.map toValue)).mapM (make common))
      (firsts.flatMap fun a => seconds.map fun b => request a b)
      (firsts.flatMap fun a => seconds.flatMap fun b => texts a b) := by
    rw [pairs_map, List.mapM_map]
    simpa [pairs, List.map_flatMap, List.flatMap_assoc, List.flatMap_map, Function.comp_def,
      Prod.map] using shares_mapM (fun pair : α × β => hmake pair.1 pair.2) (pairs firsts seconds)
  exact hprepare.bind ((shares_lift (firsts.map toValue)).bind
    ((shares_lift (seconds.map toValue)).bind hmakes))

end TextPool

/-! ## Calls of a builder -/

namespace RequestBuilder

open TextPool

/-- Calls of a builder, each with its arguments. -/
inductive Call where
  | lists (countries : List String) (categories : List (Option String))
      (collection lang : Option String) (num : Option Int)
  | apps (appIds countries : List String) (lang : Option String)
  | searches (queries countries : List String) (lang : Option String)
  | reviews (appIds countries : List String) (lang : Option String) (sort : Int)
      (token : Option String)

/-- The requests that a call makes. -/
inductive Made where
  | lists (requests : List ListRequest)
  | apps (requests : List AppRequest)
  | searches (requests : List SearchRequest)
  | reviews (requests : List ReviewRequest)

/-- The requests for lists: one for each combination, category by category for the first country, then for
the next, with the choices of the builder where none are made. -/
def wantedLists (builder : RequestBuilder) (countries : List String) (categories : List (Option String))
    (collection lang : Option String) (num : Option Int) : List ListRequest :=
  countries.flatMap fun country => categories.map fun category =>
    { category := toValue (said category)
      collection := (said collection).elim builder.collection .string
      lang := (said lang).elim builder.lang .string
      country := .string country
      num := num.elim builder.num .ofInt }

namespace Call

/-- Makes all requests of a call. -/
def run (builder : RequestBuilder) : Call → Pooling Made
  | .lists countries categories collection lang num =>
      .lists <$> builder.lists (toValue countries) (toValue categories) (toValue collection)
        (toValue lang) (toValue num) none
  | .apps appIds countries lang =>
      .apps <$> builder.apps (toValue appIds) (toValue countries) (toValue lang) none
  | .searches queries countries lang =>
      .searches <$> builder.searches (toValue queries) (toValue countries) (toValue lang) none
  | .reviews appIds countries lang sort token =>
      .reviews <$> builder.reviews (toValue appIds) (toValue countries) (toValue lang) (toValue sort)
        (toValue token) none

/-- The requests that a call is for: one for each combination, where the second item changes first, with the
choices of the builder where the call makes none. -/
def requests (builder : RequestBuilder) : Call → Made
  | .lists countries categories collection lang num =>
      .lists (builder.wantedLists countries categories collection lang num)
  | .apps appIds countries lang =>
      .apps (appIds.flatMap fun appId => countries.map fun country =>
        { appId := .string appId
          lang := (said lang).elim builder.lang .string
          country := .string country })
  | .searches queries countries lang =>
      .searches (queries.flatMap fun query => countries.map fun country =>
        { query := .string query
          lang := (said lang).elim builder.lang .string
          country := .string country })
  | .reviews appIds countries lang sort token =>
      .reviews (appIds.flatMap fun appId => countries.map fun country =>
        { appId := .string appId
          lang := (said lang).elim builder.lang .string
          country := .string country
          sort := .ofInt sort
          token := toValue (said token) })

/-- The texts that a call asks the pool for: its choices, and those of each request. -/
def shared : Call → List String
  | .lists countries categories collection lang _ =>
      (said collection).toList ++ (said lang).toList ++
        countries.flatMap fun country => categories.flatMap fun category =>
          (said category).toList ++ [country]
  | .apps appIds countries lang =>
      (said lang).toList ++ appIds.flatMap fun appId => countries.flatMap fun country =>
        [appId, country]
  | .searches queries countries lang =>
      (said lang).toList ++ queries.flatMap fun query => countries.flatMap fun country =>
        [query, country]
  | .reviews appIds countries lang _ token =>
      (said lang).toList ++ (said token).toList ++
        appIds.flatMap fun appId => countries.flatMap fun country => [appId, country]

end Call

/-- Makes all requests of calls, one call after the other. -/
def runAll (builder : RequestBuilder) (calls : List Call) : Pooling (List Made) :=
  calls.mapM (Call.run builder)

section Calls

variable (builder : RequestBuilder)

theorem shares_lists (countries : List String) (categories : List (Option String))
    (collection lang : Option String) (num : Option Int) :
    Shares (builder.lists (toValue countries) (toValue categories) (toValue collection) (toValue lang)
        (toValue num) none)
      (builder.wantedLists countries categories collection lang num)
      (Call.lists countries categories collection lang num).shared := by
  have hchosen := (shares_shareOr collection builder.collection).combine
    (shares_shareOr lang builder.lang) Prod.mk
  have hnum : num.elim builder.num .ofInt =
      if (toValue num).isNull then builder.num else toValue num := by
    cases num <;> rfl
  rw [wantedLists, hnum]
  exact shares_build hchosen (fun country category =>
    (shares_shareOr_null category).combine (shares_share country) _) countries categories

/-- A call makes the requests that it is for, whatever the pool holds. -/
theorem shares_run (call : Call) : Shares (call.run builder) (call.requests builder) call.shared := by
  cases call with
  | lists countries categories collection lang num =>
      exact (shares_lists builder countries categories collection lang num).map Made.lists
  | apps appIds countries lang =>
      exact (shares_build (shares_shareOr lang builder.lang) (fun appId country =>
        (shares_share appId).combine (shares_share country) _) appIds countries).map _
  | searches queries countries lang =>
      exact (shares_build (shares_shareOr lang builder.lang) (fun query country =>
        (shares_share query).combine (shares_share country) _) queries countries).map _
  | reviews appIds countries lang sort token =>
      have hchosen := (shares_shareOr lang builder.lang).combine (shares_shareOr_null token) Prod.mk
      exact (shares_build hchosen (fun appId country =>
        (shares_share appId).combine (shares_share country) _) appIds countries).map _

/-- So do calls one after the other. -/
theorem shares_runAll (calls : List Call) :
    Shares (builder.runAll calls) (calls.map (Call.requests builder)) (calls.flatMap Call.shared) :=
  shares_mapM (shares_run builder) calls

end Calls

/-- Whether a builder keeps texts once does not show in its requests, over any history of calls: they are
those that the calls are for. A builder that does keeps every text that was asked for under itself and
once, and forgets none; one that does not keeps nothing. -/
theorem sharing_never_shows (collection lang : String) (num : Int) :
    let builder : RequestBuilder :=
      { collection := .string collection, lang := .string lang, num := .ofInt num }
    (∀ switch, make switch (.string collection) (.string lang) (.ofInt num) = .ok builder) ∧
    ∀ calls : List Call,
      let sharing := (builder.runAll calls).run.run { switch := .bool true }
      let plain := (builder.runAll calls).run.run { switch := .bool false }
      sharing.1 = .ok (calls.map (Call.requests builder)) ∧
      plain.1 = .ok (calls.map (Call.requests builder)) ∧
      (∀ entry ∈ sharing.2.kept, entry.2 = entry.1) ∧
      (sharing.2.kept.map Prod.fst).Nodup ∧
      (∀ text, text ∈ sharing.2.kept.map Prod.fst ↔ text ∈ calls.flatMap Call.shared) ∧
      sharing.2.size = (calls.flatMap Call.shared).toFinset.card ∧
      (∀ more, sharing.2.kept <+:
        ((builder.runAll (calls ++ more)).run.run { switch := .bool true }).2.kept) ∧
      plain.2.size = 0 := by
  intro builder
  refine ⟨fun switch => by cases switch <;> rfl, fun calls => ?_⟩
  have hrun (switch : Bool) (calls : List Call) :
      (builder.runAll calls).run.run { switch := .bool switch } =
        (.ok (calls.map (Call.requests builder)), holding switch (calls.flatMap Call.shared)) := by
    have hfresh : holding switch [] = { switch := .bool switch } := by cases switch <;> rfl
    rw [← hfresh]
    exact (shares_runAll builder calls).run_eq switch []
  intro sharing plain
  have hsharing : sharing = _ := hrun true calls
  have hplain : plain = _ := hrun false calls
  rw [hsharing, hplain]
  refine ⟨rfl, rfl, fun entry => snd_eq_fst_of_mem_kept _, ?_, ?_, size_holding _, ?_, rfl⟩
  · rw [map_fst_kept_holding]
    exact nodup_eraseDups _
  · intro text
    rw [map_fst_kept_holding, List.mem_eraseDups]
  · intro more
    rw [hrun true (calls ++ more), List.flatMap_append]
    exact kept_holding_append _ _

end RequestBuilder

end AppSurvey.Store
