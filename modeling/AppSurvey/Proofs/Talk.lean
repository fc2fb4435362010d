import AppSurvey.Talk
import Mathlib.Data.List.InsertIdx
import Mathlib.Data.List.Perm.Basic
import Mathlib.Logic.Function.Basic

/-!
# Talks and how they go

What a piece of work comes to, from the parts that it is made of: its outcome and the session after it.
Work that goes on at the same time ends in an order that its turns choose. `Ends` records such an order,
with the result that each piece has when its turn comes, and `gather_spec` says that the results are
gathered whatever the order, each in the place of its work. Every order is chosen by some turns.
-/

namespace AppSurvey.Talk

variable {Q σ ε α β : Type} [Asking Q]

/-! ## The parts of a talk -/

section Parts

variable (partner : Partner Q) (session : Session Q σ)

@[simp] theorem perform_pure (a : α) :
    (pure a : Talk Q σ ε α).perform partner session = (.ok a, session) := rfl

@[simp] theorem perform_throw (e : ε) :
    (throw e : Talk Q σ ε α).perform partner session = (.error e, session) := rfl

theorem perform_bind (work : Talk Q σ ε α) (next : α → Talk Q σ ε β) :
    (work >>= next).perform partner session =
      match work.perform partner session with
      | (.ok a, later) => (next a).perform partner later
      | (.error e, later) => (.error e, later) := by
  unfold perform ReaderT.run ExceptT.run StateT.run
  simp only [bind, ReaderT.bind, ExceptT.bind, ExceptT.mk, StateT.bind]
  cases work partner session with
  | mk outcome later => cases outcome <;> rfl

/-- Work that begins alike and goes on alike from there comes to the same. -/
theorem perform_bind_congr {work other : Talk Q σ ε α} {next another : α → Talk Q σ ε β}
    (hwork : work.perform partner session = other.perform partner session)
    (hnext : ∀ a later, work.perform partner session = (.ok a, later) →
      (next a).perform partner later = (another a).perform partner later) :
    (work >>= next).perform partner session = (other >>= another).perform partner session := by
  rw [perform_bind, perform_bind, ← hwork]
  rcases hperform : work.perform partner session with ⟨_ | a, later⟩
  · rfl
  · exact hnext a later hperform

@[simp] theorem perform_ask (q : Q) :
    (ask q : Talk Q σ ε (Asking.Answer q)).perform partner session =
      (.ok (partner session.asked q), { session with asked := q :: session.asked }) := rfl

@[simp] theorem perform_state :
    (state : Talk Q σ ε σ).perform partner session = (.ok session.state, session) := rfl

@[simp] theorem perform_change (f : σ → σ) :
    (change f : Talk Q σ ε Unit).perform partner session =
      (.ok (), { session with state := f session.state }) := rfl

@[simp] theorem perform_accept_ok {φ : Type} (failure : φ → ε) (a : α) :
    (accept failure (.ok a) : Talk Q σ ε α).perform partner session = (.ok a, session) := rfl

@[simp] theorem perform_accept_error {φ : Type} (failure : φ → ε) (e : φ) :
    (accept failure (.error e) : Talk Q σ ε α).perform partner session =
      (.error (failure e), session) := rfl

theorem perform_accept {φ : Type} (failure : φ → ε) (result : Except φ α) :
    (accept failure result : Talk Q σ ε α).perform partner session =
      (result.mapError failure, session) := by
  cases result <;> rfl

/-- What comes after a failure goes on from the session that the failed work has left. -/
theorem perform_tryCatch (work : Talk Q σ ε α) (handler : ε → Talk Q σ ε α) :
    (tryCatch work handler).perform partner session =
      match work.perform partner session with
      | (.ok a, later) => (.ok a, later)
      | (.error e, later) => (handler e).perform partner later := by
  change StateT.run (ExceptT.run (ExceptT.tryCatch (work.run partner) fun e =>
    (handler e).run partner)) session = _
  unfold perform ReaderT.run ExceptT.run StateT.run ExceptT.tryCatch
  simp only [ExceptT.mk, bind, StateT.bind]
  cases work partner session with
  | mk outcome later => cases outcome <;> rfl

/-- An attempt has a result also where the work fails, and the questions of the work are asked. -/
theorem perform_attempt (work : Talk Q σ ε α) :
    (attempt work).perform partner session =
      (.ok (work.perform partner session).1.toOption, (work.perform partner session).2) := by
  change StateT.run (ExceptT.run (ExceptT.tryCatch (some <$> work.run partner) fun _ => pure none))
    session = _
  unfold perform ReaderT.run ExceptT.run StateT.run ExceptT.tryCatch
  simp only [Functor.map, ExceptT.map, ExceptT.mk, bind, StateT.bind]
  cases work partner session with
  | mk outcome later => cases outcome <;> rfl

end Parts

/-- Work that asks nothing and leaves the session as it is. -/
def IsQuiet (work : Talk Q σ ε α) : Prop :=
  ∀ partner session, (work.perform partner session).2 = session

theorem isQuiet_pure (a : α) : (pure a : Talk Q σ ε α).IsQuiet := fun _ _ => rfl

theorem isQuiet_throw (e : ε) : (throw e : Talk Q σ ε α).IsQuiet := fun _ _ => rfl

theorem isQuiet_state : (state : Talk Q σ ε σ).IsQuiet := fun _ _ => rfl

theorem isQuiet_accept {φ : Type} (failure : φ → ε) (result : Except φ α) :
    (accept failure result : Talk Q σ ε α).IsQuiet := by
  intro partner session
  cases result <;> rfl

/-- Nothing comes after a failure. -/
theorem isQuiet_throw_bind (e : ε) (next : α → Talk Q σ ε β) :
    ((throw e : Talk Q σ ε α) >>= next).IsQuiet := fun _ _ => rfl

theorem IsQuiet.bind {work : Talk Q σ ε α} (hwork : work.IsQuiet) {next : α → Talk Q σ ε β}
    (hnext : ∀ a, (next a).IsQuiet) : (work >>= next).IsQuiet := by
  intro partner session
  have hsession := hwork partner session
  rw [perform_bind]
  rcases hperform : work.perform partner session with ⟨_ | a, later⟩ <;> rw [hperform] at hsession
  · exact hsession
  · exact (hnext a partner later).trans hsession

/-! ## How much is asked -/

/-- Whatever the answers are, the work asks no fewer than `least` and no more than `most` questions. -/
structure AsksWithin (work : Talk Q σ ε α) (least most : Nat) : Prop where
  exists_asked : ∀ partner session, ∃ asked,
    (work.perform partner session).2.asked = asked ++ session.asked ∧
      least ≤ asked.length ∧ asked.length ≤ most

theorem AsksWithin.mono {work : Talk Q σ ε α} {least most less more : Nat}
    (hwork : work.AsksWithin least most) (hless : less ≤ least) (hmore : most ≤ more) :
    work.AsksWithin less more := by
  constructor
  intro partner session
  obtain ⟨asked, hasked, hleast, hmost⟩ := hwork.exists_asked partner session
  exact ⟨asked, hasked, Nat.le_trans hless hleast, Nat.le_trans hmost hmore⟩

theorem IsQuiet.asksWithin {work : Talk Q σ ε α} (hwork : work.IsQuiet) : work.AsksWithin 0 0 := by
  constructor
  intro partner session
  exact ⟨[], by rw [hwork partner session, List.nil_append], Nat.le_refl 0, Nat.le_refl 0⟩

theorem asksWithin_ask (q : Q) : (ask q : Talk Q σ ε (Asking.Answer q)).AsksWithin 1 1 :=
  ⟨fun _ _ => ⟨[q], rfl, Nat.le_refl 1, Nat.le_refl 1⟩⟩

/-- Work may fail before what comes next, so only the first part has to ask. -/
theorem AsksWithin.bind {work : Talk Q σ ε α} {next : α → Talk Q σ ε β} {least most more : Nat}
    (hwork : work.AsksWithin least most) (hnext : ∀ a, (next a).AsksWithin 0 more) :
    (work >>= next).AsksWithin least (most + more) := by
  constructor
  intro partner session
  obtain ⟨asked, hasked, hleast, hmost⟩ := hwork.exists_asked partner session
  rw [perform_bind]
  rcases hperform : work.perform partner session with ⟨_ | a, later⟩ <;> rw [hperform] at hasked
  · exact ⟨asked, hasked, hleast, by omega⟩
  · obtain ⟨added, hadded, -, hmore⟩ := (hnext a).exists_asked partner later
    refine ⟨added ++ asked, ?_, ?_, ?_⟩
    · rw [hadded, hasked, List.append_assoc]
    · rw [List.length_append]
      omega
    · rw [List.length_append]
      omega

theorem IsQuiet.bind_asksWithin {work : Talk Q σ ε α} (hwork : work.IsQuiet)
    {next : α → Talk Q σ ε β} {most : Nat} (hnext : ∀ a, (next a).AsksWithin 0 most) :
    (work >>= next).AsksWithin 0 most := by
  simpa using hwork.asksWithin.bind hnext

/-! ## Orders of ending -/

/-- The places in the order in which turns let the work there end. -/
def endingOrder : (turns places : List Nat) → List Nat
  | [], places => places
  | turn :: turns, places =>
      match places[turn % places.length]? with
      | none => []
      | some place => place :: endingOrder turns (places.eraseIdx (turn % places.length))

theorem cons_eraseIdx_perm {items : List α} {index : Nat} {item : α}
    (hitem : items[index]? = some item) : (item :: items.eraseIdx index).Perm items := by
  obtain ⟨hindex, rfl⟩ := List.getElem?_eq_some_iff.mp hitem
  have hperm := List.perm_insertIdx items[index] (items.eraseIdx index)
    (i := index) (by rw [List.length_eraseIdx_of_lt hindex]; omega)
  rw [List.insertIdx_eraseIdx_getElem hindex] at hperm
  exact hperm.symm

/-- Some place is left as long as there are places. -/
theorem getElem?_mod_eq_none {items : List α} {turn : Nat}
    (hitem : items[turn % items.length]? = none) : items = [] := by
  rw [List.getElem?_eq_none_iff] at hitem
  by_contra hitems
  exact absurd (Nat.mod_lt turn (List.length_pos_iff.mpr hitems)) (Nat.not_lt.mpr hitem)

/-- Turns choose an order of all places. -/
theorem endingOrder_perm (turns places : List Nat) : (endingOrder turns places).Perm places := by
  induction turns generalizing places with
  | nil => exact List.Perm.refl places
  | cons turn turns ih =>
      rw [endingOrder]
      split
      next hnone => rw [getElem?_mod_eq_none hnone]
      next place hplace => exact ((ih _).cons place).trans (cons_eraseIdx_perm hplace)

/-- Every order is chosen by some turns. -/
theorem exists_endingOrder_eq {order places : List Nat} (horder : order.Perm places) :
    ∃ turns, endingOrder turns places = order := by
  induction order generalizing places with
  | nil => exact ⟨[], (List.nil_perm.mp horder)⟩
  | cons place order ih =>
      obtain ⟨index, hindex, hplace⟩ := List.mem_iff_getElem.mp
        (horder.subset (List.mem_cons_self (a := place)))
      have hget : places[index % places.length]? = some place := by
        rw [Nat.mod_eq_of_lt hindex, List.getElem?_eq_getElem hindex, hplace]
      -- What is left of the places is what is left of the order.
      have hrest : order.Perm (places.eraseIdx (index % places.length)) :=
        (horder.trans (cons_eraseIdx_perm hget).symm).cons_inv
      obtain ⟨turns, hturns⟩ := ih hrest
      refine ⟨index :: turns, ?_⟩
      simp only [endingOrder, hget, hturns]

/-! ## Gathering -/

/-- The pieces of work at some places end one after the other, each with the result that it has when its
turn comes. -/
inductive Ends (partner : Partner Q) (works : List (Talk Q σ ε α)) :
    Session Q σ → List (Nat × Option α) → Session Q σ → Prop
  | nil (session : Session Q σ) : Ends partner works session [] session
  | cons {session last : Session Q σ} {place : Nat} {work : Talk Q σ ε α}
      {log : List (Nat × Option α)} (hwork : works[place]? = some work)
      (hrest : Ends partner works (work.perform partner session).2 log last) :
      Ends partner works session ((place, (work.perform partner session).1.toOption) :: log) last

theorem map_update_of_notMem {places : List Nat} {place : Nat} (hplace : place ∉ places)
    (result : Nat → α) (given : α) :
    places.map (Function.update result place given) = places.map result :=
  List.map_congr_left fun _ hother => Function.update_of_ne (ne_of_mem_of_not_mem hother hplace) _ _

/-- A result put in its place is the result at that place. -/
theorem insertIdx_map_eraseIdx {places : List Nat} {index place : Nat}
    (hplace : places[index]? = some place) (hothers : place ∉ places.eraseIdx index)
    (result : Nat → α) (given : α) :
    ((places.eraseIdx index).map result).insertIdx index given =
      places.map (Function.update result place given) := by
  obtain ⟨hindex, hvalue⟩ := List.getElem?_eq_some_iff.mp hplace
  have hwhole : (places.eraseIdx index).insertIdx index place = places := by
    rw [← hvalue, List.insertIdx_eraseIdx_getElem hindex]
  rw [← map_update_of_notMem hothers result given]
  conv_rhs => rw [← hwhole, List.map_insertIdx, Function.update_self]

theorem map_getElem?_range (items : List α) :
    (List.range items.length).map (items[·]?) = items.map some := by
  refine List.ext_getElem (by simp) fun index hindex _ => ?_
  simp at hindex ⊢

section Gathering

variable {partner : Partner Q} {all : List (Talk Q σ ε α)}

/-- Places with their results. -/
def logged (order : List Nat) (result : Nat → Option α) : List (Nat × Option α) :=
  order.map fun place => (place, result place)

@[simp] theorem map_fst_logged (order : List Nat) (result : Nat → Option α) :
    (logged order result).map Prod.fst = order := by
  simp [logged, Function.comp_def]

/-- Work that ends before the rest has its result first. -/
theorem Ends.logged_cons {session last : Session Q σ} {place : Nat} {work : Talk Q σ ε α}
    (hwork : all[place]? = some work) {order : List Nat} (hplace : place ∉ order)
    {result : Nat → Option α}
    (hrest : Ends partner all (work.perform partner session).2 (logged order result) last) :
    Ends partner all session (logged (place :: order)
      (Function.update result place (work.perform partner session).1.toOption)) last := by
  have hlog : logged order (Function.update result place (work.perform partner session).1.toOption) =
      logged order result :=
    List.map_congr_left fun other hother => by
      rw [Function.update_of_ne (ne_of_mem_of_not_mem hother hplace)]
  rw [logged, List.map_cons, Function.update_self, ← logged, hlog]
  exact .cons hwork hrest

/-- Without turns the work ends in its order. -/
theorem perform_mapM_attempt {places : List Nat} (hplaces : places.Nodup)
    {works : List (Talk Q σ ε α)} (hworks : works.map some = places.map (all[·]?))
    (session : Session Q σ) :
    ∃ result last, (works.mapM attempt).perform partner session = (.ok (places.map result), last) ∧
      Ends partner all session (logged places result) last := by
  induction works generalizing places session with
  | nil =>
      obtain rfl : places = [] := by simpa using hworks
      exact ⟨fun _ => none, session, rfl, .nil session⟩
  | cons work works ih =>
      obtain _ | ⟨place, places⟩ := places
      · simp at hworks
      · simp only [List.map_cons, List.cons.injEq] at hworks
        obtain ⟨hplace, hplaces⟩ := List.nodup_cons.mp hplaces
        obtain ⟨result, last, hperform, hends⟩ := ih hplaces hworks.2 (work.perform partner session).2
        refine ⟨_, last, ?_, hends.logged_cons hworks.1.symm hplace⟩
        simp only [List.mapM_cons, perform_bind, perform_attempt, hperform, perform_pure, List.map_cons,
          Function.update_self, map_update_of_notMem hplace]

/-- Work at some places, gathered: it ends in the order that the turns choose, and the results stand in
the order of the places. -/
theorem perform_gather (turns : List Nat) {places : List Nat} (hplaces : places.Nodup)
    {works : List (Talk Q σ ε α)} (hworks : works.map some = places.map (all[·]?))
    (session : Session Q σ) :
    ∃ result last, (gather turns works).perform partner session = (.ok (places.map result), last) ∧
      Ends partner all session (logged (endingOrder turns places) result) last := by
  induction turns generalizing places works session with
  | nil => exact perform_mapM_attempt hplaces hworks session
  | cons turn turns ih =>
      have hcount : works.length = places.length := by simpa using congrArg List.length hworks
      have hget : works[turn % places.length]?.map some =
          places[turn % places.length]?.map (all[·]?) := by
        rw [← List.getElem?_map, ← List.getElem?_map, hworks]
      simp only [gather, endingOrder, hcount]
      cases hplace : places[turn % places.length]? with
      | none =>
          obtain rfl := getElem?_mod_eq_none hplace
          obtain rfl : works = [] := by simpa using hworks
          exact ⟨fun _ => none, session, rfl, .nil session⟩
      | some place =>
          rw [hplace, Option.map_some, Option.map_eq_some_iff] at hget
          obtain ⟨work, hwork, hall⟩ := hget
          have hrest : (works.eraseIdx (turn % places.length)).map some =
              (places.eraseIdx (turn % places.length)).map (all[·]?) := by
            rw [← List.eraseIdx_map, ← List.eraseIdx_map, hworks]
          obtain ⟨hother, hothers⟩ :=
            List.nodup_cons.mp ((cons_eraseIdx_perm hplace).nodup_iff.mpr hplaces)
          -- The work whose turn it is ends first, and the others go on from the session that it leaves.
          obtain ⟨result, last, hperform, hends⟩ := ih hothers hrest (work.perform partner session).2
          refine ⟨_, last, ?_, hends.logged_cons hall.symm
            fun hmem => hother ((endingOrder_perm _ _).subset hmem)⟩
          simp only [hwork, perform_bind, perform_attempt, hperform, perform_pure,
            insertIdx_map_eraseIdx hplace hother]

/-- All the work, gathered. -/
theorem gather_spec (partner : Partner Q) (turns : List Nat) (works : List (Talk Q σ ε α))
    (session : Session Q σ) :
    ∃ result last,
      (gather turns works).perform partner session =
        (.ok ((List.range works.length).map result), last) ∧
      Ends partner works session (logged (endingOrder turns (List.range works.length)) result) last :=
  perform_gather turns List.nodup_range (map_getElem?_range works).symm session

end Gathering

/-- What each piece of work does from a session that is kept, the whole does: every place has the result
that is expected of it, and what is viewed in the session grows by what each place adds. -/
theorem Ends.steps {partner : Partner Q} {works : List (Talk Q σ ε α)} {kept : Session Q σ → Prop}
    {view : Session Q σ → List β} {expected : Nat → Option α} {added : Nat → Option β}
    (hstep : ∀ place work, works[place]? = some work → ∀ session, kept session →
      kept (work.perform partner session).2 ∧
      (work.perform partner session).1.toOption = expected place ∧
      view (work.perform partner session).2 = (added place).toList ++ view session)
    {session last : Session Q σ} {log : List (Nat × Option α)}
    (hends : Ends partner works session log last) (hsession : kept session) :
    (∀ entry ∈ log, entry.2 = expected entry.1) ∧
      view last = ((log.map Prod.fst).filterMap added).reverse ++ view session := by
  induction hends with
  | nil => simp
  | @cons session last place work log hwork hrest ih =>
      obtain ⟨hkept, hresult, hview⟩ := hstep place work hwork session hsession
      obtain ⟨hresults, hviews⟩ := ih hkept
      refine ⟨List.forall_mem_cons.mpr ⟨hresult, hresults⟩, ?_⟩
      rw [hviews, hview, List.map_cons, List.filterMap_cons]
      cases added place <;> simp

end AppSurvey.Talk
