import AppSurvey.Proofs.Text.Decimal
import AppSurvey.Proofs.Text.Template
import AppSurvey.Store.RequestBody

/-!
# Values in request bodies

The forms of both requests are patterns: no slot begins in their texts. So a body is the texts of its form with
the values between them, in whatever way slots are written in a value.
-/

namespace AppSurvey.Store.RequestBody

open Text

/-! ## Texts without a dollar sign -/

theorem dollar_notMem_ofList {chars : List Char} (hchars : '$' ∉ chars) :
    '$' ∉ (String.ofList chars).toList := by
  rwa [String.toList_ofList]

theorem dollar_notMem_join {texts : List String} (htexts : ∀ text ∈ texts, '$' ∉ text.toList) :
    '$' ∉ (String.join texts).toList := by
  rw [String.toList_join, List.mem_flatMap]
  intro ⟨text, htext, hmem⟩
  exact htexts text htext hmem

theorem dollar_notMem_intercalate {texts : List String} (htexts : ∀ text ∈ texts, '$' ∉ text.toList) :
    '$' ∉ (String.intercalate "," texts).toList := by
  induction texts with
  | nil => decide
  | cons first rest ih =>
      obtain ⟨hfirst, hrest⟩ := List.forall_mem_cons.mp htexts
      cases rest with
      | nil => rwa [String.intercalate_singleton]
      | cons second rest =>
          simp only [String.intercalate_cons_cons, String.toList_append, List.mem_append, not_or]
          exact ⟨⟨hfirst, by decide⟩, ih hrest⟩

theorem dollar_notMem_numberList (numbers : List Nat) : '$' ∉ (numberList numbers).toList := by
  have hnumbers : '$' ∉ (String.intercalate "," (numbers.map toString)).toList := by
    apply dollar_notMem_intercalate
    intro text htext
    obtain ⟨number, _, rfl⟩ := List.mem_map.mp htext
    exact notMem_toString (by decide) number
  simp only [numberList, String.toList_append, List.mem_append, not_or]
  exact ⟨⟨by decide, hnumbers⟩, by decide⟩

theorem dollar_notMem_allFields : '$' ∉ allFields.toList := by
  apply dollar_notMem_intercalate
  intro text htext
  obtain ⟨item, _, htext⟩ := List.mem_flatMap.mp htext
  obtain ⟨cluster, _, rfl⟩ := List.mem_map.mp htext
  simp [clusterFields, dollar_notMem_numberList]

theorem dollar_notMem_listDetails : '$' ∉ listDetails.toList := by
  apply dollar_notMem_join
  simp only [List.forall_mem_cons]
  refine ⟨dollar_notMem_ofList (by decide), dollar_notMem_numberList _, dollar_notMem_ofList (by decide),
    dollar_notMem_ofList (by decide), dollar_notMem_ofList (by decide), dollar_notMem_ofList (by decide),
    dollar_notMem_allFields, dollar_notMem_ofList (by decide), ?_⟩
  simp

/-! ## The patterns of the forms -/

/-- The list template by its slots. -/
def listPattern : Pattern where
  parts := [(percentEncode listOpening, "num"), (percentEncode listDetails, "collection"),
    (percentEncode "\\\",\\\"", "category")]
  last := percentEncode listEnd
  parts_slotFree := by
    simp only [List.forall_mem_cons]
    refine ⟨⟨isSlotFree_percentEncode (dollar_notMem_ofList (by decide)), by decide⟩,
      ⟨isSlotFree_percentEncode dollar_notMem_listDetails, by decide⟩,
      ⟨isSlotFree_percentEncode (dollar_notMem_ofList (by decide)), by decide⟩, ?_⟩
    simp
  last_slotFree := isSlotFree_percentEncode (dollar_notMem_ofList (by decide))

/-- The reviews template by its slots. -/
def reviewsPattern : Pattern where
  parts := [(percentEncode reviewsOpening, "sort"), (percentEncode ",[", "num"), (percentEncode "],", "token"),
    (percentEncode reviewsDetails, "appId")]
  last := percentEncode reviewsEnd
  parts_slotFree := by
    simp only [List.forall_mem_cons]
    refine ⟨⟨isSlotFree_percentEncode (dollar_notMem_ofList (by decide)), by decide⟩,
      ⟨isSlotFree_percentEncode (dollar_notMem_ofList (by decide)), by decide⟩,
      ⟨isSlotFree_percentEncode (dollar_notMem_ofList (by decide)), by decide⟩,
      ⟨isSlotFree_percentEncode (dollar_notMem_ofList (by decide)), by decide⟩, ?_⟩
    simp
  last_slotFree := isSlotFree_percentEncode (dollar_notMem_ofList (by decide))

theorem listPattern_write (put : String → String) :
    listPattern.write put =
      percentEncode listOpening ++ put "num" ++ percentEncode listDetails ++ put "collection" ++
        percentEncode "\\\",\\\"" ++ put "category" ++ percentEncode listEnd := by
  simp only [listPattern, Pattern.write, List.foldr_cons, List.foldr_nil, String.append_assoc]

theorem listTemplate_eq : listTemplate = listPattern.write slot := by
  have hnum : percentEncode "$\x7bnum\x7d" = slot "num" := by decide
  have hcollection : percentEncode "$\x7bcollection\x7d" = slot "collection" := by decide
  have hcategory : percentEncode "$\x7bcategory\x7d" = slot "category" := by decide
  simp only [listTemplate, listForm, String.join_cons, String.join_nil, String.append_empty,
    percentEncode_append, hnum, hcollection, hcategory, listPattern_write, String.append_assoc]

theorem reviewsPattern_write (put : String → String) :
    reviewsPattern.write put =
      percentEncode reviewsOpening ++ put "sort" ++ percentEncode ",[" ++ put "num" ++ percentEncode "]," ++
        put "token" ++ percentEncode reviewsDetails ++ put "appId" ++ percentEncode reviewsEnd := by
  simp only [reviewsPattern, Pattern.write, List.foldr_cons, List.foldr_nil, String.append_assoc]

theorem reviewsTemplate_eq : reviewsTemplate = reviewsPattern.write slot := by
  have hsort : percentEncode "$\x7bsort\x7d" = slot "sort" := by decide
  have hnum : percentEncode "$\x7bnum\x7d" = slot "num" := by decide
  have htoken : percentEncode "$\x7btoken\x7d" = slot "token" := by decide
  have happ : percentEncode "$\x7bappId\x7d" = slot "appId" := by decide
  simp only [reviewsTemplate, reviewsForm, String.join_cons, String.join_nil, String.append_empty,
    percentEncode_append, hsort, hnum, htoken, happ, reviewsPattern_write, String.append_assoc]

theorem tokenText_eq (token : Option String) :
    tokenText token = (token.map fun token => "\\\"" ++ token ++ "\\\"").getD "null" := by
  cases token with
  | none => rfl
  | some token => rfl

/-- A body is the template with the values in place of the slots: the same texts, once and in their order, and
each value as it is given, even if slots are written in it. -/
theorem values_stand_verbatim :
    (∃ start details gap rest : String, (∀ text ∈ [start, details, gap, rest], IsSlotFree text) ∧
      listTemplate =
        start ++ "$\x7bnum\x7d" ++ details ++ "$\x7bcollection\x7d" ++ gap ++ "$\x7bcategory\x7d" ++ rest ∧
      ∀ category collection count, list category collection count =
        start ++ toString count ++ details ++ collection ++ gap ++ category.getD "APPLICATION" ++ rest) ∧
    (∃ start first second details rest : String,
      (∀ text ∈ [start, first, second, details, rest], IsSlotFree text) ∧
      reviewsTemplate = start ++ "$\x7bsort\x7d" ++ first ++ "$\x7bnum\x7d" ++ second ++
        "$\x7btoken\x7d" ++ details ++ "$\x7bappId\x7d" ++ rest ∧
      ∀ appId sort token lang country, reviews appId sort token lang country =
        start ++ toString sort ++ first ++ "40" ++ second ++
          (token.map fun token => "\\\"" ++ token ++ "\\\"").getD "null" ++ details ++ appId ++ rest) := by
  refine ⟨⟨_, _, _, _, listPattern.isSlotFree_of_mem, ?_, ?_⟩,
    ⟨_, _, _, _, _, reviewsPattern.isSlotFree_of_mem, ?_, ?_⟩⟩
  · rw [listTemplate_eq]
    exact listPattern_write slot
  · intro category collection count
    rw [list, listTemplate_eq, fillTemplate_write]
    exact listPattern_write _
  · rw [reviewsTemplate_eq]
    exact reviewsPattern_write slot
  · intro appId sort token lang country
    rw [reviews, reviewsTemplate_eq, fillTemplate_write, ← tokenText_eq]
    exact reviewsPattern_write _

end AppSurvey.Store.RequestBody
