import AppSurvey.Markdown.Project
import AppSurvey.Proofs.Markdown.Numbering
import AppSurvey.Proofs.Text.Utf8

/-!
# Numbering once more

While a list is numbered, what stands below its items is passed over. Once its second item has a number other
than one, the list ends there for whoever reads it again, and the lists below that item and below the items
behind it are numbered as well. So a second run changes nothing exactly if every list below an item other than
the first has one item.
-/

namespace AppSurvey.Markdown

open Text

/-! ## Lines below an item -/

/-- Numbered lines and more of them. -/
def Numbered.append (front back : Numbered) : Numbered :=
  { lines := front.lines ++ back.lines, changed := front.changed || back.changed }

/-- The item with the lists below it numbered. -/
def Item.renumbered (item : Item) : Item := { item with below := (number none item.below).lines }

section Indent

variable {indent : List Char}

theorem outside_head?_itemLines (hindent : IsBlank indent) {next : Nat} (hnext : 2 ≤ next)
    (items : List Item) {rest : List (List Char)} (hrest : ∀ line ∈ rest.head?, Outside indent line) :
    ∀ line ∈ (itemLines indent next items ++ rest).head?, Outside indent line := by
  cases items with
  | nil => exact hrest
  | cons item items =>
      intro line hline
      obtain rfl : (Run.mk indent next).item item.behind = line := by simpa [itemLines] using hline
      have hvalid : (Run.mk indent next).Valid := ⟨hindent, hnext⟩
      exact outside_item hvalid item.behind

variable {state : Option Run}

/-- Lists that have begun in a list or below it end before a line outside. -/
theorem number_eq_of_outside (hstate : ∀ run ∈ state, Within indent run.indent)
    {rest : List (List Char)} (hrest : ∀ line ∈ rest.head?, Outside indent line) :
    number state rest = number none rest := by
  cases rest with
  | nil => cases state <;> rfl
  | cons line rest =>
      exact number_of_outside (fun run hrun => (hrest line rfl).of_within (hstate run hrun)) rest

/-- Lines below an item are numbered by themselves. -/
theorem number_append (hindent : IsBlank indent) (hstate : ∀ run ∈ state, Within indent run.indent)
    {own : List (List Char)} (hown : ∀ line ∈ own, belongs indent line = true)
    {rest : List (List Char)} (hrest : ∀ line ∈ rest.head?, Outside indent line) :
    number state (own ++ rest) = (number state own).append (number none rest) := by
  induction own generalizing state with
  | nil =>
      rw [List.nil_append, number_eq_of_outside hstate hrest]
      cases state <;> simp [number, Numbered.append]
  | cons line own ih =>
      rw [List.forall_mem_cons] at hown
      -- a list that begins on this line is below the item too
      have hbegins : ∀ run ∈ begins? line, Within indent run.indent :=
        fun run => within_of_begins? hindent hown.1
      cases state with
      | none =>
          rw [List.cons_append, number, number, ih hbegins hown.2]
          rfl
      | some run =>
          have hadvance : ∀ next ∈ some run.advance, Within indent next.indent := by
            intro next hnext
            obtain rfl : run.advance = next := by simpa using hnext
            exact hstate run rfl
          rw [List.cons_append, number, number]
          split
          next behind hitem =>
            rw [ih hadvance hown.2]
            rfl
          next hitem =>
            split
            next hbelongs =>
              rw [ih hstate hown.2]
              rfl
            next hbelongs =>
              rw [ih hbegins hown.2]
              rfl

/-- Items that have their numbers keep them, and the lists below them are numbered. -/
theorem number_itemLines (hindent : IsBlank indent) (hstate : ∀ run ∈ state, Within indent run.indent)
    {next : Nat} (hnext : 2 ≤ next) {items : List Item}
    (hitems : ∀ item ∈ items, ∀ line ∈ item.below, belongs indent line = true)
    {rest : List (List Char)} (hrest : ∀ line ∈ rest.head?, Outside indent line) :
    number state (itemLines indent next items ++ rest) =
      { lines := itemLines indent next (items.map Item.renumbered) ++ (number none rest).lines
        changed := (items.any fun item => (number none item.below).changed) ||
          (number none rest).changed } := by
  induction items generalizing next state with
  | nil =>
      rw [itemLines, List.nil_append, number_eq_of_outside hstate hrest]
      simp [itemLines]
  | cons item items ih =>
      rw [List.forall_mem_cons] at hitems
      have hnone : ∀ run ∈ (none : Option Run), Within indent run.indent := by simp
      have hvalid : (Run.mk indent next).Valid := ⟨hindent, hnext⟩
      have houtside := outside_item hvalid item.behind
      have hothers := outside_head?_itemLines hindent (Nat.le_succ_of_le hnext) items hrest
      rw [itemLines, List.cons_append, List.append_assoc,
        number_of_outside fun run hrun => houtside.of_within (hstate run hrun),
        begins?_item hvalid, number_append hindent hnone hitems.1 hothers,
        ih hnone (Nat.le_succ_of_le hnext) hitems.2]
      simp [Numbered.after, Numbered.append, itemLines, Item.renumbered, Bool.or_assoc]

end Indent

/-! ## The second run -/

/-- The block with the lists below its items numbered, those of the first item apart. -/
def Block.renumbered (block : Block) : Block :=
  { block with others := block.others.map Item.renumbered }

/-- The second run numbers the lists below the items that the first run numbered. -/
theorem number_number (lines : List (List Char)) :
    number none (number none lines).lines =
      { lines := (blocks lines).flatMap fun block => block.renumbered.numbered
        changed := (blocks lines).any fun block =>
          block.others.any fun item => (number none item.below).changed } := by
  fun_induction blocks lines with
  | case1 => rfl
  | case2 line rest hbegins ih =>
      simp [number, Numbered.after, hbegins, ih, Block.renumbered, Block.numbered, itemLines]
  | case3 line rest run hbegins read ih =>
      have hread : read.IsRead run.indent := isRead_readList run.indent rest
      have hafter : ∀ line ∈ (number none read.after).lines.head?, Outside run.indent line := by
        rw [head?_number_none]
        exact hread.after
      have hstate : ∀ other ∈ some run, Within run.indent other.indent := by
        intro other hother
        obtain rfl : run = other := by simpa using hother
        exact .inl rfl
      rw [number_of_begins? hbegins, number, hbegins, number_below hread.below,
        number_itemLines (valid_of_begins? hbegins).blank hstate (Nat.le_refl 2)
          (fun item hitem line hline => (hread.items item hitem line hline).belongs) hafter, ih]
      simp [Numbered.after, Block.renumbered, Block.numbered, read]

/-- Below the items of a list other than the first, every list has one item. -/
def NumberedAtOnce (lines : List (List Char)) : Prop :=
  ∀ block ∈ blocks lines, ∀ item ∈ block.others, ∀ nested ∈ blocks item.below, nested.others = []

theorem changed_number_number_eq_false_iff (lines : List (List Char)) :
    (number none (number none lines).lines).changed = false ↔ NumberedAtOnce lines := by
  rw [number_number]
  simp [number_none_eq, NumberedAtOnce]

/-! ## Texts and files -/

theorem renumber?_eq_none_iff (text : String) :
    renumber? text = none ↔ (number none (linesOf text.toList)).changed = false := by
  simp [renumber?]

/-- The text that a run leaves. -/
def leftText (text : String) : String := (renumber? text).getD text

theorem linesOf_leftText (text : String) :
    linesOf (leftText text).toList = (number none (linesOf text.toList)).lines := by
  cases hchanged : (number none (linesOf text.toList)).changed with
  | true => simp [leftText, renumber?, hchanged, linesOf_unlines_number]
  | false =>
      rw [leftText, (renumber?_eq_none_iff text).mpr hchanged]
      exact ((changed_none_eq_false_iff _).mp hchanged).symm

/-- A text that a run leaves as it is has nothing to number. -/
theorem leftText_eq_self_iff (text : String) : leftText text = text ↔ renumber? text = none := by
  constructor
  · intro hsame
    have hlines := linesOf_leftText text
    rw [hsame] at hlines
    rw [renumber?_eq_none_iff, changed_none_eq_false_iff]
    exact hlines.symm
  · intro hnothing
    rw [leftText, hnothing]
    rfl

theorem renumber?_leftText_eq_none_iff (text : String) :
    renumber? (leftText text) = none ↔ NumberedAtOnce (linesOf text.toList) := by
  rw [renumber?_eq_none_iff, linesOf_leftText, changed_number_number_eq_false_iff]

theorem renumberBytes?_encode (text : String) :
    renumberBytes? (Utf8.encode text) = .ok ((renumber? text).map Utf8.encode) := by
  rw [renumberBytes?, Utf8.decode_encode]
  rfl

/-- The bytes of a file are those of the text that the run leaves. -/
theorem getD_encode (text : String) :
    ((renumber? text).map Utf8.encode).getD (Utf8.encode text) = Utf8.encode (leftText text) := by
  rw [leftText]
  cases renumber? text <;> rfl

/-- Every file of text can be numbered twice. The second run reports no change, and leaves the file as the
first run left it, exactly if the text is numbered at once. -/
theorem second_run_keeps_iff (text : String) :
    ∃ first second : Option (List UInt8),
      let left := first.getD (Utf8.encode text)
      renumberBytes? (Utf8.encode text) = .ok first ∧ renumberBytes? left = .ok second ∧
        (second = none ↔ NumberedAtOnce (linesOf text.toList)) ∧
        (second.getD left = left ↔ NumberedAtOnce (linesOf text.toList)) := by
  refine ⟨(renumber? text).map Utf8.encode, (renumber? (leftText text)).map Utf8.encode, ?_⟩
  rw [getD_encode]
  refine ⟨renumberBytes?_encode text, renumberBytes?_encode (leftText text), ?_, ?_⟩
  · rw [Option.map_eq_none_iff, renumber?_leftText_eq_none_iff]
  · rw [getD_encode, Utf8.encode_inj, leftText_eq_self_iff, renumber?_leftText_eq_none_iff]

/-- The lists below the second item are numbered in the second run. -/
theorem nested_list_numbered_late :
    let text := "1. a\n1. b\n   1. x\n   1. y"
    let once := "1. a\n2. b\n   1. x\n   1. y"
    let twice := "1. a\n2. b\n   1. x\n   2. y"
    renumberBytes? (Utf8.encode text) = .ok (some (Utf8.encode once)) ∧
      renumberBytes? (Utf8.encode once) = .ok (some (Utf8.encode twice)) ∧
      ¬NumberedAtOnce (linesOf text.toList) := by
  intro text once twice
  have honce : renumberBytes? (Utf8.encode text) = .ok (some (Utf8.encode once)) := by
    have hrun : renumber? text = some once := by decide
    rw [renumberBytes?_encode, hrun, Option.map_some]
  have htwice : renumberBytes? (Utf8.encode once) = .ok (some (Utf8.encode twice)) := by
    have hrun : renumber? once = some twice := by decide
    rw [renumberBytes?_encode, hrun, Option.map_some]
  refine ⟨honce, htwice, ?_⟩
  obtain ⟨first, second, hfirst, hsecond, hnone, -⟩ := second_run_keeps_iff text
  obtain rfl : some (Utf8.encode once) = first := by simpa [honce] using hfirst
  obtain rfl : some (Utf8.encode twice) = second := by simpa [htwice] using hsecond
  simpa using hnone

end AppSurvey.Markdown
