import Stencil.Proofs.ArgumentLists

/-!
# Joined argument lists

Two argument lists with a comma between them are read as the one list behind the other, since
no quotes are open where a list that is read ends. Only a comma that already ends the first list
stands in the way: with the one between them it makes an empty item.
-/

namespace Stencil.Arguments

variable {function t : Text} {values : List Value}

/-- Only a comma at the end of a text leaves its last item blank. -/
theorem getLast?_of_blank_item {items : List Text} (hblanks : ¬ Text.Blanks t)
    (hitems : itemsFrom none false [] t = some items)
    (h : (items.map Text.trim).getLast? = some []) : (Text.trim t).getLast? = some (.char ',') := by
  rcases itemsFrom_last hitems with rfl | ⟨front, init, last, rfl, -, rfl⟩
  · exact absurd (Text.blanks_of_trim (Option.some.inj h)) hblanks
  · rw [List.map_append, List.map_singleton, List.getLast?_concat, Option.some.injEq] at h
    rw [List.append_cons, Text.trim_append_blanks (Text.blanks_of_trim h)]
    exact Text.getLast?_trim_concat (by decide) front

/-- A list that is read and does not end with a comma has no blank item. -/
theorem exists_hasItems_of_read (hblanks : ¬ Text.Blanks t) (hread : read function t = .ok values)
    (hcomma : (Text.trim t).getLast? ≠ some (.char ',')) : ∃ items, HasItems t items := by
  obtain ⟨hnone, -⟩ | ⟨items, hitems, hvalues⟩ := read_cases hread
  · exact absurd hnone hblanks
  · have hkept : dropTrailing (items.map Text.trim) = items.map Text.trim :=
      if_neg fun h => hcomma (getLast?_of_blank_item hblanks hitems h.2)
    rw [hkept] at hvalues
    refine ⟨items, ⟨hitems, fun item hitem => ?_⟩⟩
    obtain ⟨v, hv⟩ := exists_of_forall₂ (forall₂_of_mapM hvalues) hitem
    rintro rfl
    -- An empty item has no value.
    cases hv

/-- Argument lists are read item by item. Behind a list that is read and does not end with a comma,
a comma and a second list add the values of the second; a comma alone adds nothing, and of two
commas the second is refused for the empty item before it. -/
theorem read_joined (hblanks : ¬ Text.Blanks t) (hread : read function t = .ok values)
    (hcomma : (Text.trim t).getLast? ≠ some (.char ',')) :
    (∀ rest others, read function rest = .ok others →
      read function (t ++ .char ',' :: rest) = .ok (values ++ others)) ∧
    read function (t ++ [.char ',']) = .ok values ∧
    read function (t ++ [.char ',', .char ',']) =
      .error (.badArguments function (some .empty)) := by
  obtain ⟨items, hitems⟩ := exists_hasItems_of_read hblanks hread hcomma
  refine ⟨fun rest others hrest => ?_, hitems.read_final_comma hread, ?_⟩
  · rw [hitems.read_append_comma hread, hrest]
    rfl
  · -- The second comma is a list of its own, with an empty item before it.
    rw [hitems.read_append_comma hread]
    rfl

/-- A comma and a mark in quotes, with a comment behind them that ends with its item. -/
def commentedItem : Text := "'it\\'s,' # one".text

def commentedList : Text := "$, ".text ++ commentedItem

/-- Placeholders alone, on a line of their own, with a comma at the end. -/
def trailedList : Text := "\n$,$ ,".text

theorem read_joined_comment :
    (¬ Text.Blanks commentedList ∧
      read ['f'] commentedList = .ok [placeholder, .text "it's,".text] ∧
      (Text.trim commentedList).getLast? ≠ some (.char ',') ∧
      read ['f'] trailedList = .ok [placeholder, placeholder]) ∧
    read ['f'] "$, 'it\\'s,' # one,\n$,$ ,".text =
      .ok [placeholder, .text "it's,".text, placeholder, placeholder] ∧
    read ['f'] "$, 'it\\'s,' # one,".text = .ok [placeholder, .text "it's,".text] ∧
    read ['f'] "$, 'it\\'s,' # one,,".text = .error (.badArguments ['f'] (some .empty)) := by
  have hitems : HasItems commentedList [['$'], ' ' :: commentedItem] := ⟨rfl, by decide⟩
  have htrim : [[.char '$'], .char ' ' :: commentedItem].map Text.trim =
      [[.char '$'], commentedItem] := by decide
  have hlexemes : Literal.Lexeme.ofText? commentedItem =
      some [.quotation (.text "it's,".text)] := by decide +kernel
  have hliteral : Literal.read commentedItem = .ok (.text "it's,".text) :=
    Literal.read_of_lexemes hlexemes (by decide) fun _ => rfl
  have hitem : readItem ['f'] commentedItem = .ok (.text "it's,".text) :=
    readItem_literal (by decide) (by decide)
      (keyword?_eq_none (by decide +kernel) (by decide) (by decide) _) hliteral
  have hread : read ['f'] commentedList = .ok [placeholder, .text "it's,".text] := by
    rw [hitems.read_eq, htrim, List.mapM_cons, List.mapM_cons, hitem]
    rfl
  have htrailed : read ['f'] trailedList = .ok [placeholder, placeholder] := rfl
  have hblanks : ¬ Text.Blanks commentedList := by decide
  have hlast : (Text.trim commentedList).getLast? ≠ some (.char ',') := by decide
  obtain ⟨hjoined, hcomma, hcommas⟩ := read_joined hblanks hread hlast
  exact ⟨⟨hblanks, hread, hlast, htrailed⟩, hjoined _ _ htrailed, hcomma, hcommas⟩

end Stencil.Arguments
