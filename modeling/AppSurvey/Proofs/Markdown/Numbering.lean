import AppSurvey.Markdown.Numbering
import AppSurvey.Proofs.Text.Decimal
import Mathlib.Data.List.Infix
import Mathlib.Data.List.TakeWhile

/-!
# Numbered lists

Lines are read as `blocks`: a line by itself, or a list with its items and the lines below them. Numbering
gives the items of each list behind the first one their numbers and keeps everything else, so it changes
lines exactly if a list has a second item.
-/

namespace AppSurvey.Markdown

open Text

/-! ## Items and what stands below them -/

/-- Blanks and nothing else. -/
def IsBlank (chars : List Char) : Prop := ∀ c ∈ chars, isBlank c = true

theorem isBlank_of_isDigit {c : Char} (hdigit : c.isDigit = true) : isBlank c = false := by
  simp only [Char.isDigit, Bool.and_eq_true, decide_eq_true_eq, ge_iff_le, UInt32.le_iff_toNat_le] at hdigit
  have hlow : 48 ≤ c.toNat := hdigit.1
  have hhigh : c.toNat ≤ 57 := hdigit.2
  simp [isBlank, blankRanges]
  omega

theorem itemRest?_eq_some_iff {indent line behind : List Char} :
    itemRest? indent line = some behind ↔
      (∃ blank rest, behind = blank :: rest ∧ isBlank blank = true) ∧
        line = indent ++ '1' :: '.' :: behind := by
  constructor
  · intro hitem
    unfold itemRest? at hitem
    split at hitem
    next hstart =>
      obtain ⟨tail, rfl⟩ := List.isPrefixOf_iff_prefix.mp hstart
      rw [List.drop_left] at hitem
      split at hitem
      next blank rest =>
        split at hitem
        next hblank =>
          cases hitem
          exact ⟨⟨blank, rest, rfl, hblank⟩, rfl⟩
        next => cases hitem
      next => cases hitem
    next => cases hitem
  · rintro ⟨⟨blank, rest, rfl, hblank⟩, rfl⟩
    have hstart : indent.isPrefixOf (indent ++ '1' :: '.' :: blank :: rest) = true :=
      List.isPrefixOf_iff_prefix.mpr (List.prefix_append _ _)
    simp [itemRest?, hstart, hblank]

theorem belongs_iff {indent line : List Char} :
    belongs indent line = true ↔ indent ++ [' ', ' '] <+: line ∨ IsBlank line := by
  simp [belongs, IsBlank]

theorem indentOf_append {indent rest : List Char} {c : Char} (hindent : IsBlank indent)
    (hc : isBlank c = false) : indentOf (indent ++ c :: rest) = indent := by
  rw [indentOf, List.takeWhile_append_of_pos hindent, List.takeWhile_cons_of_neg (by simp [hc]),
    List.append_nil]

/-- Blanks in front of a line are in front of its first character that is none. -/
theorem prefix_of_prefix_append {front indent rest : List Char} {c : Char} (hfront : IsBlank front)
    (hc : isBlank c = false) (hstart : front <+: indent ++ c :: rest) : front <+: indent := by
  rcases List.prefix_or_prefix_of_prefix hstart (List.prefix_append indent (c :: rest)) with
    hinside | ⟨more, rfl⟩
  · exact hinside
  cases more with
  | nil => simp
  | cons d more =>
      obtain ⟨rfl, -⟩ : d = c ∧ more <+: rest := by simpa using hstart
      rw [hfront d (by simp)] at hc
      cases hc

theorem isBlank_one : isBlank '1' = false := by decide

/-- A list that has begun: blanks before its numbers, and a number behind the first. -/
structure Run.Valid (run : Run) : Prop where
  blank : IsBlank run.indent
  two_le : 2 ≤ run.next

theorem begins?_eq_some_iff {line : List Char} {run : Run} :
    begins? line = some run ↔
      run.next = 2 ∧ IsBlank run.indent ∧ ∃ behind, itemRest? run.indent line = some behind := by
  constructor
  · intro hbegins
    obtain ⟨behind, hitem, rfl⟩ := Option.map_eq_some_iff.mp hbegins
    exact ⟨rfl, fun c hc => List.mem_takeWhile_imp hc, behind, hitem⟩
  · rintro ⟨hnext, hblank, behind, hitem⟩
    obtain ⟨-, hline⟩ := itemRest?_eq_some_iff.mp hitem
    have hindent : indentOf line = run.indent := by
      rw [hline, indentOf_append hblank isBlank_one]
    rcases run with ⟨indent, next⟩
    subst hnext
    simp [begins?, hindent, hitem]

theorem valid_of_begins? {line : List Char} {run : Run} (hbegins : begins? line = some run) :
    run.Valid := by
  obtain ⟨hnext, hblank, -⟩ := begins?_eq_some_iff.mp hbegins
  exact ⟨hblank, hnext.ge⟩

/-- The line is neither an item of a list with the indent nor below one. -/
structure Outside (indent line : List Char) : Prop where
  noItem : itemRest? indent line = none
  notBelow : belongs indent line = false

/-- The indent of a list, or of one below it. -/
def Within (indent inner : List Char) : Prop := inner = indent ∨ indent ++ [' ', ' '] <+: inner

theorem Outside.of_within {indent inner line : List Char} (houtside : Outside indent line)
    (hwithin : Within indent inner) : Outside inner line := by
  rcases hwithin with rfl | hdeeper
  · exact houtside
  have hnot := houtside.notBelow
  rw [← Bool.not_eq_true, belongs_iff, not_or] at hnot
  constructor
  · rw [Option.eq_none_iff_forall_ne_some]
    intro behind hitem
    obtain ⟨-, rfl⟩ := itemRest?_eq_some_iff.mp hitem
    exact hnot.1 (hdeeper.trans (List.prefix_append _ _))
  · rw [← Bool.not_eq_true, belongs_iff, not_or]
    exact ⟨fun hbelow => hnot.1 ((hdeeper.trans (List.prefix_append _ _)).trans hbelow), hnot.2⟩

/-- A list that begins below an item is indented further. -/
theorem within_of_begins? {indent line : List Char} {run : Run} (hindent : IsBlank indent)
    (hbelow : belongs indent line = true) (hbegins : begins? line = some run) :
    Within indent run.indent := by
  obtain ⟨-, hblank, behind, hitem⟩ := begins?_eq_some_iff.mp hbegins
  obtain ⟨-, rfl⟩ := itemRest?_eq_some_iff.mp hitem
  rcases belongs_iff.mp hbelow with hstart | hline
  · refine .inr (prefix_of_prefix_append ?_ isBlank_one hstart)
    intro c hc
    rcases List.mem_append.mp hc with hc | hc
    · exact hindent c hc
    · obtain rfl : c = ' ' := by simpa using hc
      decide
  · have hone := hline '1' (by simp)
    rw [isBlank_one] at hone
    cases hone

theorem toList_toString_eq_cons (n : Nat) :
    ∃ digit more, (toString n).toList = digit :: more ∧ digit.isDigit = true := by
  cases hdigits : (toString n).toList with
  | nil =>
      rw [Nat.toString_eq_ofList_toDigits, String.toList_ofList] at hdigits
      exact absurd hdigits Nat.toDigits_ne_nil
  | cons digit more =>
      exact ⟨digit, more, rfl, isDigit_of_mem_toString (hdigits ▸ List.mem_cons_self)⟩

section Items

variable {run : Run} (hrun : run.Valid) (behind : List Char)

include hrun

theorem item_ne (other : List Char) : run.item behind ≠ run.indent ++ '1' :: '.' :: other := by
  intro heq
  rw [Run.item, List.append_assoc, List.append_assoc, List.singleton_append] at heq
  have hone : '.' ∉ ['1'] := by decide
  obtain ⟨hdigits, -⟩ := append_mark_inj (notMem_toString (by decide) run.next) hone
    (List.append_cancel_left heq)
  have hnext : run.next = 1 := toList_toString_inj (hdigits.trans (by decide))
  have htwo := hrun.two_le
  omega

/-- An item with its number is none of the items that are numbered, nor below one. -/
theorem outside_item : Outside run.indent (run.item behind) := by
  obtain ⟨digit, more, hdigits, hdigit⟩ := toList_toString_eq_cons run.next
  constructor
  · rw [Option.eq_none_iff_forall_ne_some]
    intro other hitem
    exact item_ne hrun behind other (itemRest?_eq_some_iff.mp hitem).2
  · rw [← Bool.not_eq_true, belongs_iff, Run.item, hdigits]
    rintro (hbelow | hblank)
    · obtain ⟨rfl, -⟩ : ' ' = digit ∧ _ := by simpa using hbelow
      exact absurd hdigit (by decide)
    · have hfirst := hblank digit (by simp)
      rw [isBlank_of_isDigit hdigit] at hfirst
      cases hfirst

theorem begins?_item : begins? (run.item behind) = none := by
  obtain ⟨digit, more, hdigits, hdigit⟩ := toList_toString_eq_cons run.next
  have hindent : indentOf (run.item behind) = run.indent := by
    rw [Run.item, hdigits, List.append_assoc, List.append_assoc, List.cons_append,
      indentOf_append hrun.blank (isBlank_of_isDigit hdigit)]
  rw [begins?, hindent, (outside_item hrun behind).noItem]
  rfl

end Items

/-! ## Numbering line by line -/

/-- A line that is no part of the list that is numbered ends it. -/
theorem number_of_outside {state : Option Run} {line : List Char}
    (hline : ∀ run ∈ state, Outside run.indent line) (rest : List (List Char)) :
    number state (line :: rest) = (number (begins? line) rest).after line := by
  cases state with
  | none => rfl
  | some run =>
      have houtside := hline run rfl
      simp [number, houtside.noItem, houtside.notBelow]

/-- The line stands below an item with the indent. -/
structure Below (indent line : List Char) : Prop where
  noItem : itemRest? indent line = none
  belongs : belongs indent line = true

/-- Lines below an item stay as they are. -/
theorem number_below {run : Run} {below : List (List Char)}
    (hbelow : ∀ line ∈ below, Below run.indent line) (rest : List (List Char)) :
    number (some run) (below ++ rest) =
      { number (some run) rest with lines := below ++ (number (some run) rest).lines } := by
  induction below with
  | nil => rfl
  | cons line below ih =>
      rw [List.forall_mem_cons] at hbelow
      simp [number, hbelow.1.noItem, hbelow.1.belongs, ih hbelow.2, Numbered.after]

theorem head?_number_none (lines : List (List Char)) :
    (number none lines).lines.head? = lines.head? := by
  cases lines <;> rfl

theorem length_lines_number (state : Option Run) (lines : List (List Char)) :
    (number state lines).lines.length = lines.length := by
  fun_induction number state lines with
  | case1 => rfl
  | case2 line rest ih => simp [Numbered.after, ih]
  | case3 run line rest behind hitem numbered ih => simp [numbered, Numbered.after, ih]
  | case4 run line rest hitem hbelongs ih => simp [Numbered.after, ih]
  | case5 run line rest hitem hbelongs ih => simp [Numbered.after, ih]

/-- What has changed is different. -/
theorem changed_iff {state : Option Run} (hstate : ∀ run ∈ state, run.Valid)
    (lines : List (List Char)) :
    (number state lines).changed = true ↔ (number state lines).lines ≠ lines := by
  fun_induction number state lines with
  | case1 => simp
  | case2 line rest ih => simpa [Numbered.after] using ih fun run => valid_of_begins?
  | case3 run line rest behind hitem numbered ih =>
      have hline := (itemRest?_eq_some_iff.mp hitem).2
      have hnumbered := item_ne (hstate run rfl) behind behind
      rw [← hline] at hnumbered
      simp [numbered, Numbered.after, hnumbered]
  | case4 run line rest hitem hbelongs ih => simpa [Numbered.after] using ih hstate
  | case5 run line rest hitem hbelongs ih =>
      simpa [Numbered.after] using ih fun run => valid_of_begins?

theorem changed_none_eq_false_iff (lines : List (List Char)) :
    (number none lines).changed = false ↔ (number none lines).lines = lines := by
  have hnone : ∀ run ∈ (none : Option Run), run.Valid := by simp
  rw [← Bool.not_eq_true, changed_iff hnone, not_not]

/-! ## Lines read as lists -/

/-- An item of a list behind its first: what stands behind its number, and the lines below it. -/
structure Item where
  behind : List Char
  below : List (List Char)

/-- What follows an item: the lines below it, the other items of its list, and the lines behind the list. -/
structure Continuation where
  below : List (List Char) := []
  items : List Item := []
  after : List (List Char) := []

/-- Reads on in a list with the indent. -/
def readList (indent : List Char) : List (List Char) → Continuation
  | [] => {}
  | line :: rest =>
      match itemRest? indent line with
      | some behind =>
          let next := readList indent rest
          { next with below := [], items := { behind, below := next.below } :: next.items }
      | none =>
          if belongs indent line then
            let next := readList indent rest
            { next with below := line :: next.below }
          else { after := line :: rest }

theorem length_after_readList (indent : List Char) (lines : List (List Char)) :
    (readList indent lines).after.length ≤ lines.length := by
  fun_induction readList indent lines with
  | case1 => simp
  | case2 line rest behind hitem next ih => exact Nat.le_succ_of_le ih
  | case3 line rest hitem hbelongs next ih => exact Nat.le_succ_of_le ih
  | case4 line rest hitem hbelongs => exact Nat.le_refl _

/-- A line that stands alone, or a list: its first line, its indent, the lines below its first item, and its
other items. -/
structure Block where
  line : List Char
  indent : List Char := []
  below : List (List Char) := []
  others : List Item := []

/-- The lists and the lines outside of them. -/
def blocks : List (List Char) → List Block
  | [] => []
  | line :: rest =>
      match begins? line with
      | none => { line } :: blocks rest
      | some run =>
          let next := readList run.indent rest
          { line, indent := run.indent, below := next.below, others := next.items } ::
            blocks next.after
termination_by lines => lines.length
decreasing_by
  · exact Nat.lt_succ_self _
  · exact Nat.lt_succ_of_le (length_after_readList run.indent rest)

/-- What a list is made of as it is read: the lines below its items belong there, and the lines behind it do
not. -/
structure Continuation.IsRead (indent : List Char) (next : Continuation) : Prop where
  below : ∀ line ∈ next.below, Below indent line
  items : ∀ item ∈ next.items, ∀ line ∈ item.below, Below indent line
  after : ∀ line ∈ next.after.head?, Outside indent line

theorem isRead_readList (indent : List Char) (lines : List (List Char)) :
    (readList indent lines).IsRead indent := by
  fun_induction readList indent lines with
  | case1 => exact ⟨by simp, by simp, by simp⟩
  | case2 line rest behind hitem next ih =>
      exact ⟨by simp, List.forall_mem_cons.mpr ⟨ih.below, ih.items⟩, ih.after⟩
  | case3 line rest hitem hbelongs next ih =>
      exact ⟨List.forall_mem_cons.mpr ⟨⟨hitem, hbelongs⟩, ih.below⟩, ih.items, ih.after⟩
  | case4 line rest hitem hbelongs =>
      refine ⟨by simp, by simp, fun first hfirst => ?_⟩
      obtain rfl : line = first := by simpa using hfirst
      exact ⟨hitem, by simpa using hbelongs⟩

/-- Items with numbers from one on, each before the lines below it. -/
def itemLines (indent : List Char) : Nat → List Item → List (List Char)
  | _, [] => []
  | next, item :: items =>
      (Run.mk indent next).item item.behind :: (item.below ++ itemLines indent (next + 1) items)

/-- The items of a list are numbered on, and what stands behind the list is numbered by itself. -/
theorem number_readList (indent : List Char) (next : Nat) (lines : List (List Char)) :
    let read := readList indent lines
    number (some ⟨indent, next⟩) lines =
      { lines := read.below ++ (itemLines indent next read.items ++ (number none read.after).lines)
        changed := !read.items.isEmpty || (number none read.after).changed } := by
  fun_induction readList indent lines generalizing next with
  | case1 => rfl
  | case2 line rest behind hitem read ih =>
      simp [number, hitem, Run.advance, ih, Numbered.after, itemLines, read]
  | case3 line rest hitem hbelongs read ih =>
      simp [number, hitem, hbelongs, ih, Numbered.after, read]
  | case4 line rest hitem hbelongs =>
      simp [number, hitem, hbelongs, itemLines]

/-- A block with the items of its list numbered. -/
def Block.numbered (block : Block) : List (List Char) :=
  block.line :: (block.below ++ itemLines block.indent 2 block.others)

/-- A list that begins is numbered from its second item on. -/
theorem number_of_begins? {line : List Char} {run : Run} (hbegins : begins? line = some run)
    (rest : List (List Char)) :
    let read := readList run.indent rest
    number none (line :: rest) =
      { lines := line ::
          (read.below ++ (itemLines run.indent 2 read.items ++ (number none read.after).lines))
        changed := !read.items.isEmpty || (number none read.after).changed } := by
  rcases run with ⟨indent, next⟩
  obtain ⟨rfl, -⟩ := begins?_eq_some_iff.mp hbegins
  rw [number, hbegins, number_readList]
  rfl

/-- Numbering numbers block by block, and changes lines if a list has more than one item. -/
theorem number_none_eq (lines : List (List Char)) :
    number none lines =
      { lines := (blocks lines).flatMap Block.numbered
        changed := (blocks lines).any fun block => !block.others.isEmpty } := by
  fun_induction blocks lines with
  | case1 => rfl
  | case2 line rest hbegins ih =>
      simp [number, hbegins, ih, Numbered.after, Block.numbered, itemLines]
  | case3 line rest run hbegins read ih =>
      rw [number_of_begins? hbegins, ih]
      simp [Block.numbered, read]

/-! ## The text of lines -/

/-- No line ends. -/
def IsLine (chars : List Char) : Prop := '\n' ∉ chars ∧ '\r' ∉ chars

theorem notMem_of_mem_splitOn {mark : Char} {text part : List Char} (hpart : part ∈ text.splitOn mark) :
    mark ∉ part ∧ part ⊆ text := by
  induction text generalizing part with
  | nil =>
      obtain rfl : part = [] := by simpa using hpart
      simp
  | cons c text ih =>
      rw [List.splitOn_cons_eq_if_modifyHead] at hpart
      split at hpart
      next hmark =>
        rcases List.mem_cons.mp hpart with rfl | hpart
        · simp
        · exact ⟨(ih hpart).1, List.Subset.trans (ih hpart).2 (List.subset_cons_self _ _)⟩
      next hmark =>
        have hc : mark ≠ c := fun heq => hmark (by simp [heq])
        cases hparts : text.splitOn mark with
        | nil => exact absurd hparts (List.splitOn_ne_nil mark text)
        | cons first others =>
            rw [hparts] at ih hpart
            rcases List.mem_cons.mp hpart with rfl | hpart
            · obtain ⟨hfirst, hsub⟩ := ih List.mem_cons_self
              exact ⟨by simp [hc, hfirst], List.cons_subset_cons c hsub⟩
            · obtain ⟨hother, hsub⟩ := ih (List.mem_cons_of_mem _ hpart)
              exact ⟨hother, List.Subset.trans hsub (List.subset_cons_self _ _)⟩

theorem notMem_plainLineEnds (text : List Char) : '\r' ∉ plainLineEnds text := by
  fun_induction plainLineEnds text with
  | case1 rest ih => simpa using ih
  | case2 rest hrest ih => simpa using ih
  | case3 c rest hboth hreturn ih =>
      rw [List.mem_cons, not_or]
      exact ⟨fun heq => hreturn heq.symm, ih⟩
  | case4 => simp

theorem plainLineEnds_of_notMem {text : List Char} (htext : '\r' ∉ text) : plainLineEnds text = text := by
  fun_induction plainLineEnds text with
  | case1 rest ih => simp at htext
  | case2 rest hrest ih => simp at htext
  | case3 c rest hboth hreturn ih => rw [ih fun hmem => htext (List.mem_cons_of_mem _ hmem)]
  | case4 => rfl

theorem isLine_of_mem_linesOf {text line : List Char} (hline : line ∈ linesOf text) : IsLine line := by
  obtain ⟨hfeed, hsub⟩ := notMem_of_mem_splitOn hline
  exact ⟨hfeed, fun hreturn => notMem_plainLineEnds text (hsub hreturn)⟩

theorem linesOf_ne_nil (text : List Char) : linesOf text ≠ [] := List.splitOn_ne_nil _ _

theorem notMem_unlines {c : Char} (hc : c ≠ '\n') {lines : List (List Char)}
    (hlines : ∀ line ∈ lines, c ∉ line) : c ∉ unlines lines := by
  induction lines with
  | nil => simp [unlines]
  | cons line rest ih =>
      rw [List.forall_mem_cons] at hlines
      cases rest with
      | nil => simpa [unlines] using hlines.1
      | cons second rest =>
          have hrest := ih hlines.2
          rw [unlines] at hrest ⊢
          simp [List.intercalate_cons_cons, hlines.1, hc, hrest]

/-- Lines are read as they are written. -/
theorem linesOf_unlines {lines : List (List Char)} (hne : lines ≠ [])
    (hlines : ∀ line ∈ lines, IsLine line) : linesOf (unlines lines) = lines := by
  have hreturn : '\r' ∉ unlines lines := notMem_unlines (by decide) fun line hline => (hlines line hline).2
  rw [linesOf, plainLineEnds_of_notMem hreturn, unlines,
    List.splitOn_intercalate '\n' (fun line hline => (hlines line hline).1) hne]

/-- Numbering puts nothing but digits into a line. -/
theorem notMem_number {c : Char} (hc : c.isDigit = false) {state : Option Run}
    {lines : List (List Char)} (hlines : ∀ line ∈ lines, c ∉ line) :
    ∀ line ∈ (number state lines).lines, c ∉ line := by
  fun_induction number state lines with
  | case1 => simp
  | case2 line rest ih =>
      rw [List.forall_mem_cons] at hlines
      exact List.forall_mem_cons.mpr ⟨hlines.1, ih hlines.2⟩
  | case3 run line rest behind hitem numbered ih =>
      rw [List.forall_mem_cons] at hlines
      obtain ⟨-, rfl⟩ := itemRest?_eq_some_iff.mp hitem
      have hline := hlines.1
      simp only [List.mem_append, List.mem_cons, not_or] at hline
      refine List.forall_mem_cons.mpr ⟨?_, ih hlines.2⟩
      simp only [Run.item, List.mem_append, List.mem_singleton, not_or]
      exact ⟨⟨⟨hline.1, notMem_toString hc run.next⟩, hline.2.2.1⟩, hline.2.2.2⟩
  | case4 run line rest hitem hbelongs ih =>
      rw [List.forall_mem_cons] at hlines
      exact List.forall_mem_cons.mpr ⟨hlines.1, ih hlines.2⟩
  | case5 run line rest hitem hbelongs ih =>
      rw [List.forall_mem_cons] at hlines
      exact List.forall_mem_cons.mpr ⟨hlines.1, ih hlines.2⟩

/-- The lines of a numbered text are the numbered lines. -/
theorem linesOf_unlines_number (text : List Char) :
    linesOf (unlines (number none (linesOf text)).lines) = (number none (linesOf text)).lines := by
  apply linesOf_unlines
  · rw [← List.length_pos_iff_ne_nil, length_lines_number, List.length_pos_iff_ne_nil]
    exact linesOf_ne_nil text
  · intro line hline
    constructor
    · exact notMem_number (by decide) (fun line hline => (isLine_of_mem_linesOf hline).1) line hline
    · exact notMem_number (by decide) (fun line hline => (isLine_of_mem_linesOf hline).2) line hline

end AppSurvey.Markdown
