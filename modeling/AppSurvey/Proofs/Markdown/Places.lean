import AppSurvey.Proofs.Markdown.Renumbering

/-!
# Which lines change

Where the lists of a text are is said by the places of their lines. A list begins at a free place, to which
no other list reaches, and goes on as long as its lines are items with its indent or stand below them. The
lines that change are the items of lists other than the first, and each gets the number by which it is
counted.
-/

namespace AppSurvey.Markdown

open Text

/-! ## The places of lists -/

/-- A blank, and what else there is. -/
def StartsBlank (chars : List Char) : Prop := ∃ blank rest, chars = blank :: rest ∧ isBlank blank = true

/-- An item of number one with the indent. -/
def IsItem (indent line : List Char) : Prop :=
  ∃ behind, StartsBlank behind ∧ line = indent ++ '1' :: '.' :: behind

/-- An item with the indent, a line that is indented further, or a blank one. -/
def Continues (indent line : List Char) : Prop :=
  IsItem indent line ∨ indent ++ [' ', ' '] <+: line ∨ IsBlank line

/-- The lines from one place up to another. -/
def linesBetween (lines : List (List Char)) (start stop : Nat) : List (List Char) :=
  (lines.drop start).take (stop - start)

/-- The list whose first item is at one place goes on up to another. -/
structure Extends (lines : List (List Char)) (indent : List Char) (start stop : Nat) : Prop where
  blank : IsBlank indent
  first : ∃ line, lines[start]? = some line ∧ IsItem indent line
  lt : start < stop
  between : ∀ line ∈ linesBetween lines (start + 1) stop, Continues indent line

/-- Places before which all lists have ended. -/
inductive Free (lines : List (List Char)) : Nat → Prop
  | top : Free lines 0
  | alone {n : Nat} {line : List Char} (hfree : Free lines n) (hline : lines[n]? = some line)
      (hnone : ∀ indent, IsBlank indent → ¬ IsItem indent line) : Free lines (n + 1)
  | list {start stop : Nat} {indent line : List Char} (hfree : Free lines start)
      (hextends : Extends lines indent start stop) (hline : lines[stop]? = some line)
      (hends : ¬ Continues indent line) : Free lines stop

/-- A list that begins at a free place has another item, with some text behind its number. -/
structure FurtherItem (lines : List (List Char)) (indent : List Char) (start place : Nat)
    (behind : List Char) : Prop where
  free : Free lines start
  reached : Extends lines indent start place
  blank : StartsBlank behind
  line : lines[place]? = some (indent ++ '1' :: '.' :: behind)

section Items

variable {indent line : List Char}

theorem isItem_of_eq_some {behind : List Char} (hitem : itemRest? indent line = some behind) :
    IsItem indent line :=
  ⟨behind, itemRest?_eq_some_iff.mp hitem⟩

theorem isItem_iff : IsItem indent line ↔ (itemRest? indent line).isSome = true := by
  simp only [Option.isSome_iff_exists, itemRest?_eq_some_iff]
  rfl

instance : Decidable (IsItem indent line) := decidable_of_iff _ isItem_iff.symm

theorem not_isItem_iff : ¬ IsItem indent line ↔ itemRest? indent line = none := by
  rw [isItem_iff, Bool.not_eq_true, Option.isSome_eq_false_iff, Option.isNone_iff_eq_none]

theorem continues_of_belongs (hbelongs : belongs indent line = true) : Continues indent line :=
  .inr (belongs_iff.mp hbelongs)

theorem outside_iff : Outside indent line ↔ ¬ Continues indent line := by
  rw [Continues, not_or, ← belongs_iff, not_isItem_iff, Bool.not_eq_true]
  exact ⟨fun houtside => ⟨houtside.noItem, houtside.notBelow⟩, fun hends => ⟨hends.1, hends.2⟩⟩

theorem begins?_of_isItem (hblank : IsBlank indent) (hitem : IsItem indent line) :
    begins? line = some ⟨indent, 2⟩ := by
  rw [isItem_iff, Option.isSome_iff_exists] at hitem
  exact begins?_eq_some_iff.mpr ⟨rfl, hblank, hitem⟩

theorem begins?_eq_none_iff : begins? line = none ↔ ∀ indent, IsBlank indent → ¬ IsItem indent line := by
  constructor
  · intro hnone indent hblank hitem
    rw [begins?_of_isItem hblank hitem] at hnone
    cases hnone
  · intro hnone
    rw [Option.eq_none_iff_forall_ne_some]
    intro run hbegins
    obtain ⟨-, hblank, behind, hitem⟩ := begins?_eq_some_iff.mp hbegins
    exact hnone run.indent hblank (isItem_of_eq_some hitem)

end Items

/-- How many items with the indent are among lines. -/
def itemCount (indent : List Char) (lines : List (List Char)) : Nat :=
  lines.countP fun line => decide (IsItem indent line)

/-! ## Lines between places -/

section Places

variable {lines : List (List Char)} {line : List Char} {start stop n : Nat}

theorem drop_eq_cons_iff {rest : List (List Char)} :
    lines.drop n = line :: rest ↔ lines[n]? = some line ∧ lines.drop (n + 1) = rest := by
  constructor
  · intro hdrop
    rw [← List.head?_drop, ← List.drop_drop, hdrop]
    exact ⟨rfl, rfl⟩
  · rintro ⟨hline, rfl⟩
    obtain ⟨hlt, rfl⟩ := List.getElem?_eq_some_iff.mp hline
    exact List.drop_eq_getElem_cons hlt

theorem drop_eq_cons (hline : lines[n]? = some line) : lines.drop n = line :: lines.drop (n + 1) :=
  drop_eq_cons_iff.mpr ⟨hline, rfl⟩

theorem drop_eq_linesBetween_append (hle : start ≤ stop) :
    lines.drop start = linesBetween lines start stop ++ lines.drop stop := by
  obtain ⟨width, rfl⟩ := Nat.exists_eq_add_of_le hle
  rw [linesBetween, ← List.drop_drop, Nat.add_sub_cancel_left, List.take_append_drop]

theorem length_linesBetween (hstop : stop ≤ lines.length) :
    (linesBetween lines start stop).length = stop - start := by
  rw [linesBetween, List.length_take, List.length_drop]
  omega

theorem linesBetween_eq_cons (hline : lines[start]? = some line) (hlt : start < stop) :
    linesBetween lines start stop = line :: linesBetween lines (start + 1) stop := by
  have hwidth : stop - start = stop - (start + 1) + 1 := by omega
  rw [linesBetween, drop_eq_cons hline, hwidth, List.take_succ_cons, linesBetween]

theorem linesBetween_succ (hle : start ≤ n) (hline : lines[n]? = some line) :
    linesBetween lines start (n + 1) = linesBetween lines start n ++ [line] := by
  have hwidth : n + 1 - start = n - start + 1 := by omega
  have hplace : start + (n - start) = n := by omega
  rw [linesBetween, linesBetween, hwidth, List.take_add_one, List.getElem?_drop, hplace, hline]
  rfl

theorem Extends.succ {indent : List Char} (hextends : Extends lines indent start n)
    (hline : lines[n]? = some line) (hown : Continues indent line) :
    Extends lines indent start (n + 1) where
  blank := hextends.blank
  first := hextends.first
  lt := Nat.lt_succ_of_lt hextends.lt
  between := by
    rw [linesBetween_succ hextends.lt hline]
    exact List.forall_mem_append.mpr ⟨hextends.between, List.forall_mem_singleton.mpr hown⟩

/-- The first item of a list is counted. -/
theorem Extends.itemCount_eq {indent : List Char} (hextends : Extends lines indent start stop) :
    itemCount indent (linesBetween lines start stop) =
      itemCount indent (linesBetween lines (start + 1) stop) + 1 := by
  obtain ⟨line, hline, hitem⟩ := hextends.first
  rw [linesBetween_eq_cons hline hextends.lt, itemCount, List.countP_cons_of_pos (by simpa using hitem)]
  rfl

end Places

/-! ## Items get the numbers by which they are counted -/

section Counting

variable {lines : List (List Char)} {indent : List Char} {start stop n : Nat}

/-- Items of a list are counted while its lines are passed. -/
theorem drop_number_list {own : List (List Char)} (hown : ∀ line ∈ own, Continues indent line)
    (next : Nat) (rest : List (List Char)) :
    (number (some ⟨indent, next⟩) (own ++ rest)).lines.drop own.length =
      (number (some ⟨indent, next + itemCount indent own⟩) rest).lines := by
  induction own generalizing next with
  | nil => rfl
  | cons line own ih =>
      rw [List.forall_mem_cons] at hown
      rw [List.cons_append, number, List.length_cons]
      cases hitem : itemRest? indent line with
      | some behind =>
          have hcount : next + itemCount indent (line :: own) = next + 1 + itemCount indent own := by
            rw [itemCount, List.countP_cons_of_pos (by simpa using isItem_of_eq_some hitem), itemCount]
            omega
          rw [hcount]
          exact ih hown.2 (next + 1)
      | none =>
          have hnone : ¬ IsItem indent line := not_isItem_iff.mpr hitem
          have hbelongs : belongs indent line = true := belongs_iff.mpr (hown.1.resolve_left hnone)
          have hcount : itemCount indent (line :: own) = itemCount indent own :=
            List.countP_cons_of_neg (by simpa using hnone)
          simp only [hbelongs, if_true, hcount]
          exact ih hown.2 next

/-- From a place on, the numbered lines are those of the lines from there on, in a list or outside. -/
def NumberedFrom (lines : List (List Char)) (n : Nat) (state : Option Run) : Prop :=
  (number none lines).lines.drop n = (number state (lines.drop n)).lines

theorem numberedFrom_of_extends (hstart : NumberedFrom lines start none)
    (hextends : Extends lines indent start stop) (hstop : stop ≤ lines.length) :
    NumberedFrom lines stop (some ⟨indent, itemCount indent (linesBetween lines start stop) + 1⟩) := by
  obtain ⟨line, hline, hitem⟩ := hextends.first
  have hnext : itemCount indent (linesBetween lines start stop) + 1 =
      2 + itemCount indent (linesBetween lines (start + 1) stop) := by
    rw [hextends.itemCount_eq]
    omega
  have hplace : stop = start + 1 + (linesBetween lines (start + 1) stop).length := by
    rw [length_linesBetween hstop]
    have hlt := hextends.lt
    omega
  rw [NumberedFrom, drop_eq_cons hline, number, begins?_of_isItem hextends.blank hitem] at hstart
  have hbehind : (number none lines).lines.drop (start + 1) =
      (number (some ⟨indent, 2⟩) (lines.drop (start + 1))).lines := (drop_eq_cons_iff.mp hstart).2
  rw [NumberedFrom, hnext, ← drop_number_list hextends.between,
    ← drop_eq_linesBetween_append hextends.lt, ← hbehind, List.drop_drop, ← hplace]

theorem numberedFrom_of_free (hfree : Free lines n) : NumberedFrom lines n none := by
  induction hfree with
  | top => rfl
  | @alone n line hfree hline hnone ih =>
      rw [NumberedFrom, drop_eq_cons hline, number, begins?_eq_none_iff.mpr hnone] at ih
      exact (drop_eq_cons_iff.mp ih).2
  | @list start stop indent line hfree hextends hline hends ih =>
      have hstop := numberedFrom_of_extends ih hextends
        (Nat.le_of_lt (List.getElem?_eq_some_iff.mp hline).1)
      rw [NumberedFrom, drop_eq_cons hline] at hstop ⊢
      rw [hstop, number_of_outside (by simpa using outside_iff.mpr hends)]
      rfl

theorem getElem?_number_of_furtherItem {behind : List Char}
    (hitem : FurtherItem lines indent start n behind) :
    (number none lines).lines[n]? =
      some ((Run.mk indent (itemCount indent (linesBetween lines start n) + 1)).item behind) := by
  have hplace := numberedFrom_of_extends (numberedFrom_of_free hitem.free) hitem.reached
    (Nat.le_of_lt (List.getElem?_eq_some_iff.mp hitem.line).1)
  have hbehind : itemRest? indent (indent ++ '1' :: '.' :: behind) = some behind :=
    itemRest?_eq_some_iff.mpr ⟨hitem.blank, rfl⟩
  rw [NumberedFrom, drop_eq_cons hitem.line, number, hbehind] at hplace
  exact (drop_eq_cons_iff.mp hplace).1

end Counting

/-! ## Nothing else changes -/

/-- Where numbering is when it comes to a place: in a list or outside. -/
inductive Scanned (lines : List (List Char)) (n : Nat) : Option Run → Prop
  | outside (hfree : Free lines n) : Scanned lines n none
  | inside {start : Nat} {run : Run} (hfree : Free lines start)
      (hextends : Extends lines run.indent start n) : Scanned lines n (some run)

/-- From a place on, every line that changes is an item of a list other than the first. -/
def ChangesItems (lines : List (List Char)) (n : Nat) (after before : List (List Char)) : Prop :=
  ∀ place, after[place]? = before[place]? ∨
    ∃ indent start behind, FurtherItem lines indent start (n + place) behind

section Steps

variable {lines : List (List Char)} {n : Nat} {line : List Char}

/-- A line at a free place begins a list or stands alone. -/
theorem scanned_begins? (hfree : Free lines n) (hline : lines[n]? = some line) :
    Scanned lines (n + 1) (begins? line) := by
  cases hbegins : begins? line with
  | none => exact .outside (.alone hfree hline (begins?_eq_none_iff.mp hbegins))
  | some run =>
      obtain ⟨-, hblank, behind, hitem⟩ := begins?_eq_some_iff.mp hbegins
      refine .inside hfree ⟨hblank, ⟨line, hline, isItem_of_eq_some hitem⟩, Nat.lt_succ_self n, ?_⟩
      simp [linesBetween]

theorem ChangesItems.cons {after before : List (List Char)} {numbered : List Char}
    (hchanges : ChangesItems lines (n + 1) after before)
    (hline : numbered = line ∨ ∃ indent start behind, FurtherItem lines indent start n behind) :
    ChangesItems lines n (numbered :: after) (line :: before) := by
  intro place
  cases place with
  | zero => simpa using hline
  | succ place =>
      rw [← Nat.add_assoc, Nat.add_right_comm]
      exact hchanges place

theorem changesItems_number (state : Option Run) (rest : List (List Char)) :
    ∀ n, lines.drop n = rest → Scanned lines n state →
      ChangesItems lines n (number state rest).lines rest := by
  fun_induction number state rest with
  | case1 => exact fun _ _ _ _ => .inl rfl
  | case2 line rest ih =>
      intro n hrest hscanned
      obtain ⟨hline, hbehind⟩ := drop_eq_cons_iff.mp hrest
      cases hscanned with
      | outside hfree => exact (ih (n + 1) hbehind (scanned_begins? hfree hline)).cons (.inl rfl)
  | case3 run line rest behind hitem numbered ih =>
      intro n hrest hscanned
      obtain ⟨hline, hbehind⟩ := drop_eq_cons_iff.mp hrest
      cases hscanned with
      | @inside start _ hfree hextends =>
          obtain ⟨hblank, rfl⟩ := itemRest?_eq_some_iff.mp hitem
          have hnext := hextends.succ hline (.inl ⟨behind, hblank, rfl⟩)
          apply (ih (n + 1) hbehind (.inside hfree hnext)).cons
          exact .inr ⟨run.indent, start, behind, hfree, hextends, hblank, hline⟩
  | case4 run line rest hitem hbelongs ih =>
      intro n hrest hscanned
      obtain ⟨hline, hbehind⟩ := drop_eq_cons_iff.mp hrest
      cases hscanned with
      | inside hfree hextends =>
          have hnext := hextends.succ hline (continues_of_belongs hbelongs)
          exact (ih (n + 1) hbehind (.inside hfree hnext)).cons (.inl rfl)
  | case5 run line rest hitem hbelongs ih =>
      intro n hrest hscanned
      obtain ⟨hline, hbehind⟩ := drop_eq_cons_iff.mp hrest
      cases hscanned with
      | inside hfree hextends =>
          have houtside : Outside run.indent line := ⟨hitem, by simpa using hbelongs⟩
          have hended := Free.list hfree hextends hline (outside_iff.mp houtside)
          exact (ih (n + 1) hbehind (scanned_begins? hended hline)).cons (.inl rfl)

end Steps

/-! ## Texts and files -/

/-- Lines after numbering: as many as before, of which those have changed that are items of a list other than
the first. Of such an item only the number changes, from one to the number of items before it and one more. -/
structure NumbersItems (lines left : List (List Char)) : Prop where
  length_eq : left.length = lines.length
  changes_iff (n : Nat) :
    left[n]? ≠ lines[n]? ↔ ∃ indent start behind, FurtherItem lines indent start n behind
  changes_number {indent behind : List Char} {start n : Nat}
    (hitem : FurtherItem lines indent start n behind) :
    StartsBlank behind ∧ lines[n]? = some (indent ++ "1.".toList ++ behind) ∧
      ∃ k, 2 ≤ k ∧ k - 1 = itemCount indent (linesBetween lines start n) ∧
        left[n]? = some (indent ++ (toString k).toList ++ ".".toList ++ behind)

theorem numbersItems_number (lines : List (List Char)) :
    NumbersItems lines (number none lines).lines where
  length_eq := length_lines_number none lines
  changes_iff n := by
    constructor
    · intro hchanged
      have hchanges := changesItems_number none lines 0 rfl (.outside .top) n
      rw [Nat.zero_add] at hchanges
      exact hchanges.resolve_left hchanged
    · rintro ⟨indent, start, behind, hitem⟩
      have hcount := hitem.reached.itemCount_eq
      have hvalid : (Run.mk indent (itemCount indent (linesBetween lines start n) + 1)).Valid :=
        ⟨hitem.reached.blank, by simp [hcount]⟩
      rw [getElem?_number_of_furtherItem hitem, hitem.line]
      exact fun hsame => item_ne hvalid behind behind (Option.some.inj hsame)
  changes_number {indent behind start n} hitem := by
    have hcount := hitem.reached.itemCount_eq
    refine ⟨hitem.blank, by simpa using hitem.line, _, ?_, Nat.add_sub_cancel _ 1,
      getElem?_number_of_furtherItem hitem⟩
    omega

/-- Every file of text is numbered. It keeps its lines, but that items get their numbers, and it is written,
and reported, exactly if a line has changed. A file that is written has line feeds between all its lines,
whatever ends they had before; a file that is not written keeps its own. -/
theorem numbers_alone_change (tree : File.Tree) (names : List String) (text : String) :
    ∃ left, NumbersItems (linesOf text.toList) left ∧ linesOf (unlines left) = left ∧
      renumberFile tree names (Utf8.encode text) =
        if left = linesOf text.toList then (tree, none)
        else
          (tree.put (tree.here ++ names) (.file (Utf8.encode (String.ofList (unlines left)))),
            some (.fixed (String.intercalate "/" names))) := by
  refine ⟨_, numbersItems_number _, linesOf_unlines_number text.toList, ?_⟩
  rw [renumberFile, renumberBytes?_encode, renumber?]
  cases hchanged : (number none (linesOf text.toList)).changed with
  | true =>
      have hdiffers : (number none (linesOf text.toList)).lines ≠ linesOf text.toList := by
        intro hsame
        rw [(changed_none_eq_false_iff _).mpr hsame] at hchanged
        cases hchanged
      rw [if_neg hdiffers]
      rfl
  | false =>
      rw [if_pos ((changed_none_eq_false_iff _).mp hchanged)]
      rfl

example : renumber? "1. a\n\n   1. x\n1. b\n10. c\n1. d" =
    some "1. a\n\n   1. x\n2. b\n10. c\n1. d" := by decide

end AppSurvey.Markdown
