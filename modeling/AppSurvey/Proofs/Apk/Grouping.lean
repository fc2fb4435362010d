import AppSurvey.Apk.Package
import AppSurvey.Proofs.Keyed
import AppSurvey.Proofs.Talk
import Mathlib.Data.List.Nodup
import Mathlib.Data.List.Sort

/-!
# Packages in groups

The names of the packages of classes are listed once each and in order. They are put into groups one by one,
each into the group of its first two segments, so every name is in one group and the groups are in order as
well. The libraries are some of the groups with their sizes. `AreSegments` says what the segments of a name
are: texts without dots that make up the name when dots are put between them.
-/

namespace AppSurvey.Apk

open Text

/-! ## Names of packages -/

/-- The segments of a name: texts without dots, and the name is made up of them with dots between them. -/
structure AreSegments (name : String) (parts : List String) : Prop where
  ne_nil : parts ≠ []
  no_dot : ∀ part ∈ parts, '.' ∉ part.toList
  joined : String.intercalate "." parts = name

/-- A key is made up of the first two segments of a name, or of the only one. -/
def IsFirstSegments (key name : String) : Prop :=
  ∃ parts, AreSegments name parts ∧ key = String.intercalate "." (parts.take 2)

theorem notMem_of_mem_splitOn {mark : Char} {chars piece : List Char}
    (hpiece : piece ∈ chars.splitOn mark) : mark ∉ piece := by
  induction chars generalizing piece with
  | nil => simp_all [List.splitOn_nil]
  | cons c rest ih =>
      rw [List.splitOn_cons_eq_if_modifyHead] at hpiece
      split at hpiece
      next =>
        rcases List.mem_cons.mp hpiece with rfl | hpiece
        · exact List.not_mem_nil
        · exact ih hpiece
      next hother =>
        obtain ⟨first, others, hsplit⟩ := List.exists_cons_of_ne_nil (List.splitOn_ne_nil mark rest)
        rw [hsplit, List.modifyHead_cons] at hpiece
        rw [hsplit] at ih
        rcases List.mem_cons.mp hpiece with rfl | hpiece
        · intro hmark
          rcases List.mem_cons.mp hmark with rfl | hmark
          · exact hother (beq_self_eq_true _)
          · exact ih List.mem_cons_self hmark
        · exact ih (List.mem_cons_of_mem _ hpiece)

/-- A name has one list of segments. -/
theorem areSegments_iff {name : String} {parts : List String} :
    AreSegments name parts ↔ parts = segments name := by
  have hdot : ".".toList = ['.'] := rfl
  constructor
  · rintro ⟨hparts, hplain, rfl⟩
    have hsplit : List.splitOn '.' (['.'].intercalate (parts.map String.toList)) =
        parts.map String.toList := by
      refine List.splitOn_intercalate '.' ?_ (by simpa using hparts)
      intro piece hpiece
      obtain ⟨part, hpart, rfl⟩ := List.mem_map.mp hpiece
      exact hplain part hpart
    rw [segments, String.toList_intercalate, hdot, hsplit, List.map_map]
    simp [Function.comp_def]
  · rintro rfl
    refine ⟨by simp [segments, List.splitOn_ne_nil], ?_, ?_⟩
    · intro part hpart
      obtain ⟨piece, hpiece, rfl⟩ := List.mem_map.mp hpart
      rw [String.toList_ofList]
      exact notMem_of_mem_splitOn hpiece
    · rw [← String.toList_inj, String.toList_intercalate, hdot, segments, List.map_map]
      simp [Function.comp_def, List.intercalate_splitOn]

theorem isFirstSegments_iff {key name : String} :
    IsFirstSegments key name ↔ key = String.intercalate "." ((segments name).take 2) := by
  simp [IsFirstSegments, areSegments_iff]

theorem isFirstSegments_topLevel (package : String) : IsFirstSegments (topLevel package) package := by
  rw [isFirstSegments_iff]
  unfold topLevel
  split
  next first second rest hsegments => simp [hsegments]
  next only hsegments => simp [hsegments]
  next hsegments => simp [hsegments]

theorem isFirstSegments_iff_ownStart {key app : String} :
    IsFirstSegments key app ↔ key = ownStart app :=
  isFirstSegments_iff

theorem mem_packagesOf {names : List String} {name : String} :
    name ∈ packagesOf names ↔ name ∈ names ∧ name ≠ "" := by
  simp [packagesOf, List.mem_mergeSort]

theorem pairwise_lt_packagesOf (names : List String) : (packagesOf names).Pairwise (· < ·) := by
  have hordered : (packagesOf names).Pairwise fun a b => decide (a ≤ b) = true := by
    apply List.pairwise_mergeSort
    · intro a b c hab hbc
      simp only [decide_eq_true_eq] at hab hbc ⊢
      exact String.le_trans hab hbc
    · intro a b
      simpa using String.le_total a b
  have hdistinct : (packagesOf names).Nodup :=
    (List.mergeSort_perm _ _).nodup_iff.mpr (nodup_eraseDups _)
  apply (hordered.and hdistinct).imp
  rintro a b ⟨hle, hne⟩
  by_contra hnot
  exact hne (String.le_antisymm (of_decide_eq_true hle) (String.not_lt.mp hnot))

/-! ## Groups -/

/-- How many packages there are in groups. -/
def totalLength : Keyed String (List String) → Nat
  | [] => 0
  | entry :: rest => entry.2.length + totalLength rest

theorem totalLength_eq (groups : Keyed String (List String)) :
    totalLength groups = (groups.flatMap Prod.snd).length := by
  induction groups with
  | nil => rfl
  | cons entry rest ih => rw [totalLength, ih, List.flatMap_cons, List.length_append]

theorem groupPackages_concat (packages : List String) (package : String) :
    groupPackages (packages ++ [package]) = addToGroup (groupPackages packages) package := by
  rw [groupPackages, List.foldl_append]
  rfl

theorem get?_addToGroup (groups : Keyed String (List String)) (package key : String) :
    (addToGroup groups package).get? key =
      if key = topLevel package then some ((groups.get? key).getD [] ++ [package])
      else groups.get? key := by
  rw [addToGroup, Keyed.get?_set]
  split
  next hkey => rw [hkey]
  next => rfl

/-- The packages that belong under a key. -/
def membersOf (packages : List String) (key : String) : List String :=
  packages.filter fun package => topLevel package = key

theorem membersOf_concat (packages : List String) (package key : String) :
    membersOf (packages ++ [package]) key =
      if key = topLevel package then membersOf packages key ++ [package] else membersOf packages key := by
  rw [membersOf, List.filter_append]
  split
  next hkey => simp [hkey, membersOf]
  next hkey => simp [Ne.symm hkey, membersOf]

/-- Under a key are the packages that belong there, in their order, if there are any. -/
theorem get?_groupPackages (packages : List String) (key : String) :
    (groupPackages packages).get? key =
      if membersOf packages key = [] then none else some (membersOf packages key) := by
  induction packages using List.reverseRecOn with
  | nil => rfl
  | append_singleton packages package ih =>
      have hmembers : ((groupPackages packages).get? key).getD [] = membersOf packages key := by
        rw [ih]
        split
        next hnone => rw [hnone]; rfl
        next => rfl
      rw [groupPackages_concat, get?_addToGroup, membersOf_concat]
      split
      next => simp [hmembers]
      next => exact ih

theorem nodup_keys_groupPackages (packages : List String) :
    ((groupPackages packages).map Prod.fst).Nodup := by
  induction packages using List.reverseRecOn with
  | nil => exact List.nodup_nil
  | append_singleton packages package ih =>
      rw [groupPackages_concat, addToGroup, Keyed.map_fst_set]
      split
      next => exact ih
      next hnew =>
        rw [← List.concat_eq_append, List.nodup_concat]
        exact ⟨hnew, ih⟩

/-- A group is what belongs under its key. -/
theorem mem_groupPackages {packages : List String} {entry : String × List String} :
    entry ∈ groupPackages packages ↔ entry.2 = membersOf packages entry.1 ∧ entry.2 ≠ [] := by
  rw [Keyed.mem_iff_get? (nodup_keys_groupPackages packages), get?_groupPackages]
  split
  next hnone => simp [hnone]
  next hsome =>
    constructor
    · intro hgroup
      rw [← Option.some.inj hgroup]
      exact ⟨rfl, hsome⟩
    · intro hgroup
      rw [hgroup.1]

theorem flatMap_groupPackages_perm (packages : List String) :
    ((groupPackages packages).flatMap Prod.snd).Perm packages := by
  induction packages using List.reverseRecOn with
  | nil => exact List.Perm.refl _
  | append_singleton packages package ih =>
      rw [groupPackages_concat]
      exact (Keyed.flatMap_set_perm _ _ _).trans (ih.append_right _)

/-- Every package is in one group, under its first two segments. No group is empty, and all of them are in
order. -/
structure IsPartition (packages : List String) (groups : Keyed String (List String)) : Prop where
  keys_nodup : (groups.map Prod.fst).Nodup
  one_group : ∀ package ∈ packages, ∃! entry, entry ∈ groups ∧ package ∈ entry.2
  key_eq : ∀ entry ∈ groups, ∀ package ∈ entry.2, package ∈ packages ∧ IsFirstSegments entry.1 package
  nonempty : ∀ entry ∈ groups, entry.2 ≠ []
  sorted : ∀ entry ∈ groups, entry.2.Pairwise (· < ·)
  total : totalLength groups = packages.length

theorem mem_membersOf {packages : List String} {package key : String} :
    package ∈ membersOf packages key ↔ package ∈ packages ∧ topLevel package = key := by
  simp [membersOf]

theorem isPartition_groupPackages {packages : List String} (hsorted : packages.Pairwise (· < ·)) :
    IsPartition packages (groupPackages packages) where
  keys_nodup := nodup_keys_groupPackages packages
  one_group package hpackage := by
    have hmember : package ∈ membersOf packages (topLevel package) := mem_membersOf.mpr ⟨hpackage, rfl⟩
    refine ⟨(topLevel package, membersOf packages (topLevel package)), ⟨?_, hmember⟩, ?_⟩
    · exact mem_groupPackages.mpr ⟨rfl, List.ne_nil_of_mem hmember⟩
    · rintro ⟨key, group⟩ ⟨hgroup, hin⟩
      obtain rfl : group = membersOf packages key := (mem_groupPackages.mp hgroup).1
      rw [(mem_membersOf.mp hin).2]
  key_eq := by
    rintro ⟨key, group⟩ hgroup package hin
    obtain rfl : group = membersOf packages key := (mem_groupPackages.mp hgroup).1
    obtain ⟨hpackage, rfl⟩ := mem_membersOf.mp hin
    exact ⟨hpackage, isFirstSegments_topLevel package⟩
  nonempty entry hentry := (mem_groupPackages.mp hentry).2
  sorted entry hentry := by
    rw [(mem_groupPackages.mp hentry).1]
    exact hsorted.filter _
  total := by
    rw [totalLength_eq]
    exact (flatMap_groupPackages_perm packages).length_eq

/-- The libraries are those groups whose names begin like those of well-known libraries, without the group of
the app itself, each with its size. -/
structure AreLibraries (app : String) (groups : Keyed String (List String)) (libraries : Keyed String Nat) :
    Prop where
  keys_nodup : (libraries.map Prod.fst).Nodup
  mem_iff (key : String) (count : Nat) : (key, count) ∈ libraries ↔
    (∃ group, (key, group) ∈ groups ∧ count = group.length) ∧ ¬ IsFirstSegments key app ∧
      ∃ start ∈ libraryStarts, start.toList <+: key.toList

theorem areLibraries_librariesOf (app : String) {groups : Keyed String (List String)}
    (hkeys : (groups.map Prod.fst).Nodup) : AreLibraries app groups (librariesOf app groups) where
  keys_nodup := by
    rw [librariesOf, List.map_map]
    exact hkeys.sublist (List.Sublist.map _ List.filter_sublist)
  mem_iff key count := by
    have hkept (group : String × List String) :
        (group.1 != ownStart app && startsWithAny group.1 libraryStarts) = true ↔
          ¬ IsFirstSegments group.1 app ∧ ∃ start ∈ libraryStarts, start.toList <+: group.1.toList := by
      simp [isFirstSegments_iff_ownStart, startsWithAny, startsWith]
    simp only [librariesOf, List.mem_map, List.mem_filter, hkept, Prod.mk.injEq]
    constructor
    · rintro ⟨group, ⟨hgroup, hkeep⟩, rfl, rfl⟩
      exact ⟨⟨group.2, hgroup, rfl⟩, hkeep⟩
    · rintro ⟨⟨group, hgroup, rfl⟩, hkeep⟩
      exact ⟨(key, group), ⟨hgroup, hkeep⟩, rfl, rfl⟩

/-! ## What classes tell -/

/-- Classes tell the names of their packages. -/
def TellPackages (classes : List Value) (names : List String) : Prop :=
  List.Forall₂ (fun owner name => owner.part "package_name" = .ok (.string name)) classes names

theorem packageOf_eq {owner : Value} {name : String}
    (howner : owner.part "package_name" = .ok (.string name)) :
    packageOf owner = .ok (if name = "" then none else some (.string name)) := by
  rw [packageOf, howner]
  by_cases hempty : name = ""
  · subst hempty
    rfl
  · have htruthy : (Value.string name).isTruthy = true := by simp [Value.isTruthy, hempty]
    rw [if_neg hempty]
    change (if (Value.string name).isTruthy = true then _ else _) = _
    rw [if_pos htruthy]
    rfl

theorem mapM_packageOf {classes : List Value} {names : List String} (hclasses : TellPackages classes names) :
    classes.mapM packageOf =
      .ok (names.map fun name => if name = "" then none else some (Value.string name)) := by
  induction hclasses with
  | nil => rfl
  | cons howner _ ih =>
      rw [List.mapM_cons, packageOf_eq howner, ih]
      rfl

theorem texts?_map_string (texts : List String) : Value.texts? (texts.map .string) = some texts := by
  induction texts with
  | nil => rfl
  | cons text rest ih => rw [List.map_cons, Value.texts?, ih, Option.map_some]

theorem filterMap_told (names : List String) :
    (names.map fun name => if name = "" then none else some (Value.string name)).filterMap id =
      (names.filter fun name => !name.isEmpty).map Value.string := by
  rw [List.filterMap_map]
  induction names with
  | nil => rfl
  | cons name rest ih =>
      by_cases hname : name = ""
      · simpa [hname] using ih
      · simpa [hname] using ih

theorem packageNamesOf_eq {classes : List Value} {names : List String}
    (hclasses : TellPackages classes names) :
    packageNamesOf (.list classes) = .ok ((packagesOf names).map .string) := by
  change (classes.mapM packageOf >>= fun told => distinctNames (told.filterMap id)) = _
  rw [mapM_packageOf hclasses]
  change distinctNames (List.filterMap id _) = _
  rw [filterMap_told, distinctNames, texts?_map_string]
  simp [packagesOf]

theorem mapM_asText (texts : List String) (use : String) :
    (texts.map Value.string).mapM (fun text => text.asText use) = .ok texts := by
  induction texts with
  | nil => rfl
  | cons text rest ih =>
      rw [List.map_cons, List.mapM_cons, ih]
      rfl

theorem packageGroupsOf_eq {classes : List Value} {names : List String}
    (hclasses : TellPackages classes names) :
    packageGroupsOf (.list classes) = .ok (groupPackages (packagesOf names)) := by
  rw [packageGroupsOf, packageNamesOf_eq hclasses]
  change (((packagesOf names).map Value.string).mapM (fun name => name.asText "split") >>= fun texts =>
    .ok (groupPackages texts)) = _
  rw [mapM_asText]
  rfl

section Reading

variable {package : Package} {partner : Partner ReaderQuestion}
  {session loaded : Session ReaderQuestion Memory} {classes : List Value} {names : List String}
  (hloaded : package.classes.perform partner session = (.ok (.list classes), loaded))
  (hclasses : TellPackages classes names)

include hloaded hclasses

theorem perform_packageNames :
    package.packageNames.perform partner session = (.ok ((packagesOf names).map .string), loaded) := by
  rw [Package.packageNames, Talk.perform_bind, hloaded]
  dsimp only
  rw [packageNamesOf_eq hclasses]
  rfl

theorem perform_packageGroups :
    package.packageGroups.perform partner session =
      (.ok (groupPackages (packagesOf names)), loaded) := by
  rw [Package.packageGroups, Talk.perform_bind, hloaded]
  dsimp only
  rw [packageGroupsOf_eq hclasses]
  rfl

theorem perform_libraries {manifest : Value} {app : String} {later : Session ReaderQuestion Memory}
    (hmanifest : package.manifest.perform partner loaded = (.ok manifest, later))
    (happ : manifest.part "package_name" = .ok (.string app)) :
    package.libraries.perform partner session =
      (.ok (librariesOf app (groupPackages (packagesOf names))), later) := by
  rw [Package.libraries, Talk.perform_bind, perform_packageGroups hloaded hclasses]
  dsimp only
  rw [Talk.perform_bind, hmanifest]
  dsimp only
  rw [librariesBeside, happ]
  rfl

end Reading

/-- Whenever the classes of a package are loaded and tell the names of their packages, these are listed once
each and in order, and are put into groups; and whenever the manifest is loaded as well, the libraries are
some of the groups with their sizes. -/
theorem packages_fall_into_groups (package : Package) {partner : Partner ReaderQuestion}
    {session loaded : Session ReaderQuestion Memory} {classes : List Value} {names : List String}
    (hloaded : package.classes.perform partner session = (.ok (.list classes), loaded))
    (hclasses : TellPackages classes names) :
    ∃ packages groups,
      package.packageNames.perform partner session = (.ok (packages.map .string), loaded) ∧
      package.packageGroups.perform partner session = (.ok groups, loaded) ∧
      packages.Pairwise (· < ·) ∧ (∀ name, name ∈ packages ↔ name ∈ names ∧ name ≠ "") ∧
      IsPartition packages groups ∧
      ∀ manifest app later, package.manifest.perform partner loaded = (.ok manifest, later) →
        manifest.part "package_name" = .ok (.string app) →
        ∃ libraries, package.libraries.perform partner session = (.ok libraries, later) ∧
          AreLibraries app groups libraries := by
  have hsorted := pairwise_lt_packagesOf names
  refine ⟨packagesOf names, groupPackages (packagesOf names), perform_packageNames hloaded hclasses,
    perform_packageGroups hloaded hclasses, hsorted, fun name => mem_packagesOf,
    isPartition_groupPackages hsorted, ?_⟩
  intro manifest app later hmanifest happ
  exact ⟨_, perform_libraries hloaded hclasses hmanifest happ,
    areLibraries_librariesOf app (nodup_keys_groupPackages _)⟩

/-- Names of one segment, names that begin with others, and empty and repeated ones. -/
def mixedNames : List String :=
  ["com.google.ads", "kotlin", "", "com.google", "com.example.app", "com.google.ads"]

/-- A class that tells the name of its package. -/
def classIn (name : String) : Value := .record [("package_name", .string name)]

/-- A reader of an app with packages of its own and of two libraries. -/
def twoLibraries : Partner ReaderQuestion := fun _ question =>
  match question with
  | .manifest _ => .ok (classIn "com.example.app")
  | .classes _ _ => .ok (.list (mixedNames.map classIn))
  | _ => .error "busy"

/-- The names fall into three groups, one of them with a name of one segment. Two are libraries. -/
theorem packages_of_two_libraries :
    let package : Package := ⟨{ names := ["app.apk"] }⟩
    let session : Session ReaderQuestion Memory := { state := {} }
    let packages := ["com.example.app", "com.google", "com.google.ads", "kotlin"]
    let groups : Keyed String (List String) :=
      [("com.example", ["com.example.app"]), ("com.google", ["com.google", "com.google.ads"]),
        ("kotlin", ["kotlin"])]
    let libraries : Keyed String Nat := [("com.google", 2), ("kotlin", 1)]
    TellPackages (mixedNames.map classIn) mixedNames ∧
      (package.packageNames.perform twoLibraries session).1 = .ok (packages.map .string) ∧
      (package.packageGroups.perform twoLibraries session).1 = .ok groups ∧
      (package.libraries.perform twoLibraries session).1 = .ok libraries ∧
      (∀ name, name ∈ packages ↔ name ∈ mixedNames ∧ name ≠ "") ∧ IsPartition packages groups ∧
      AreLibraries "com.example.app" groups libraries := by
  intro package session packages groups libraries
  have hclasses : TellPackages (mixedNames.map classIn) mixedNames := by
    rw [TellPackages, List.forall₂_map_left_iff]
    exact List.forall₂_same.mpr fun _ _ => rfl
  have hloaded : package.classes.perform twoLibraries session =
      (.ok (.list (mixedNames.map classIn)), _) := rfl
  obtain ⟨listed, grouped, hlisted, hgrouped, hordered, hmem, hpartition, hlibraries⟩ :=
    packages_fall_into_groups package hloaded hclasses
  obtain ⟨found, hfound, hare⟩ := hlibraries _ "com.example.app" _ rfl rfl
  -- Sorting does not evaluate, but there is one list with these names that is in order.
  have hsorted : packagesOf mixedNames = packages := by
    refine (pairwise_lt_packagesOf mixedNames).eq_of_mem_iff (by decide) fun name => ?_
    rw [mem_packagesOf]
    simp only [mixedNames, packages, List.mem_cons, List.not_mem_nil, or_false]
    grind
  obtain rfl : listed = packages := by
    rw [← hsorted]
    refine hordered.eq_of_mem_iff (pairwise_lt_packagesOf mixedNames) fun name => ?_
    rw [hmem, mem_packagesOf]
  obtain rfl : grouped = groups := by
    have hgroups := hgrouped.symm.trans (perform_packageGroups hloaded hclasses)
    rw [hsorted] at hgroups
    exact Except.ok.inj (congrArg Prod.fst hgroups)
  obtain rfl : found = libraries := by
    have hnamed := hfound.symm.trans (perform_libraries hloaded hclasses rfl rfl)
    rw [hsorted] at hnamed
    exact Except.ok.inj (congrArg Prod.fst hnamed)
  exact ⟨hclasses, by rw [hlisted], by rw [hgrouped], by rw [hfound], hmem, hpartition, hare⟩

end AppSurvey.Apk
