import Gloss.Lookup
import Gloss.Note.Scan
import Gloss.Proofs.Text

/-! What a reader of markdown makes of a hover. The block of code shows the text of the note up to the
first line that closes a block, and all of it if there is no such line. -/

namespace Gloss

open Text

/-- A character that may stand after the fence that closes a block: a space, a tab, or the carriage
return of the line break. -/
def isFenceBlank (c : Char) : Bool :=
  c = ' ' || c = '\t' || c = '\r'

/-- The line closes a block of code: at most three spaces, three or more backticks, and then only
blanks. -/
def closesBlock (line : Text) : Bool :=
  let fence := line.dropWhile (· = ' ')
  let rest := fence.dropWhile (· = '`')
  line.length ≤ fence.length + 3 && rest.length + 3 ≤ fence.length && rest.all isFenceBlank

/-- The line with which the block of a hover begins. -/
def openingFence : Text := codeFence ++ "text".toList

/-- The lines of the block of code with which a text begins, and the lines after the block. It ends
with the first line that closes it, or with the text. -/
def codeBlock? (t : Text) : Option (List Text × List Text) :=
  match pieces '\n' t with
  | [] => none
  | first :: rest =>
    if first = openingFence then
      some (rest.takeWhile (!closesBlock ·), (rest.dropWhile (!closesBlock ·)).drop 1)
    else none

/-- The line below the block of a hover. -/
def Hover.provenanceLine (h : Hover) : Text :=
  "*from: `".toList ++ h.provenance ++ "`*".toList

theorem codeBlock?_of_pieces {t : Text} {before after : List Text} {line : Text}
    (hlines : pieces '\n' t = openingFence :: (before ++ line :: after))
    (hbefore : ∀ l ∈ before, closesBlock l = false) (hline : closesBlock line = true) :
    codeBlock? t = some (before, after) := by
  have hopen : ∀ l ∈ before, (!closesBlock l) = true := fun l hl => by rw [hbefore l hl]; rfl
  have hclose : ¬(!closesBlock line) = true := by simp [hline]
  simp only [codeBlock?, hlines, if_true]
  rw [List.takeWhile_append_of_pos hopen, List.dropWhile_append_of_pos hopen,
    List.takeWhile_cons_of_neg (p := fun l => !closesBlock l) hclose, List.append_nil,
    List.dropWhile_cons_of_neg (p := fun l => !closesBlock l) hclose, List.drop_one, List.tail_cons]

/-- The pieces of a text in which `t` stands between a first piece and two more, of which the second
comes after an empty one. -/
theorem Text.pieces_block {sep : Char} {first fence last : Text} (hfirst : sep ∉ first)
    (hfence : sep ∉ fence) (hlast : sep ∉ last) (t : Text) :
    pieces sep (first ++ sep :: (t ++ sep :: (fence ++ sep :: sep :: last))) =
      first :: (pieces sep t ++ [fence, [], last]) := by
  have hempty : pieces sep (sep :: last) = [[], last] := by
    rw [pieces, if_pos rfl, pieces_of_not_mem hlast]
  rw [pieces_append_cons, pieces_append_cons, pieces_append_cons, pieces_of_not_mem hfirst,
    pieces_of_not_mem hfence, hempty]
  rfl

section Hover

variable {h : Hover} (hprovenance : '\n' ∉ h.provenance)

include hprovenance

theorem Hover.not_mem_provenanceLine : '\n' ∉ h.provenanceLine := by
  have hfront : '\n' ∉ "*from: `".toList := by decide
  have hback : '\n' ∉ "`*".toList := by decide
  intro hmem
  rcases List.mem_append.mp hmem with hmem | hmem
  · rcases List.mem_append.mp hmem with hmem | hmem
    · exact hfront hmem
    · exact hprovenance hmem
  · exact hback hmem

/-- The lines of a hover: those of the note between two fences, and the provenance below. -/
theorem Hover.pieces_toMarkdown : pieces '\n' h.toMarkdown =
    openingFence :: (pieces '\n' h.text ++ [codeFence, [], h.provenanceLine]) := by
  have hlines (fence word front back : Text) :
      fence ++ (word ++ ['\n']) ++ h.text ++ ['\n'] ++ fence ++ ('\n' :: '\n' :: front) ++
          h.provenance ++ back =
        fence ++ word ++ '\n' :: (h.text ++ '\n' :: (fence ++ '\n' :: '\n' ::
          (front ++ h.provenance ++ back))) := by
    simp
  have htext : h.toMarkdown = openingFence ++ '\n' :: (h.text ++ '\n' ::
      (codeFence ++ '\n' :: '\n' :: h.provenanceLine)) :=
    hlines codeFence "text".toList "*from: `".toList "`*".toList
  rw [htext]
  exact pieces_block (by decide) (by decide) (not_mem_provenanceLine hprovenance) h.text

theorem Hover.codeBlock?_of_append {before after : List Text} {line : Text}
    (htext : pieces '\n' h.text = before ++ line :: after)
    (hbefore : ∀ l ∈ before, closesBlock l = false) (hline : closesBlock line = true) :
    codeBlock? h.toMarkdown =
      some (before, after ++ [codeFence, [], h.provenanceLine]) := by
  refine codeBlock?_of_pieces ?_ hbefore hline
  rw [pieces_toMarkdown hprovenance, htext, List.append_assoc, List.cons_append]

theorem Hover.codeBlock?_of_all (hall : ∀ l ∈ pieces '\n' h.text, closesBlock l = false) :
    codeBlock? h.toMarkdown = some (pieces '\n' h.text, [[], h.provenanceLine]) :=
  codeBlock?_of_pieces (pieces_toMarkdown hprovenance) hall (by decide)

end Hover

/-- The first line that closes a block, with those before it and those after it. -/
theorem exists_first_closesBlock {lines : List Text} (h : ∃ l ∈ lines, closesBlock l = true) :
    ∃ before line after, lines = before ++ line :: after ∧
      (∀ l ∈ before, closesBlock l = false) ∧ closesBlock line = true := by
  obtain ⟨line, hfind⟩ := Option.isSome_iff_exists.mp (List.find?_isSome.mpr h)
  obtain ⟨hline, before, after, rfl, hbefore⟩ := List.find?_eq_some_iff_append.mp hfind
  exact ⟨before, line, after, rfl, fun l hl => by simpa using hbefore l hl, hline⟩

/-- A block of code shows a note up to its first line that closes the block; what follows it there
stands below the block. A note without such a line is shown as it is, with the provenance after an
empty line, and no other note is. -/
theorem codeBlock_shows_note {h : Hover} (hprovenance : '\n' ∉ h.provenance) :
    (∀ before line after, pieces '\n' h.text = before ++ line :: after →
      (∀ l ∈ before, closesBlock l = false) → closesBlock line = true →
        codeBlock? h.toMarkdown =
          some (before, after ++ [codeFence, [], h.provenanceLine])) ∧
    ((∀ l ∈ pieces '\n' h.text, closesBlock l = false) →
      codeBlock? h.toMarkdown = some (pieces '\n' h.text, [[], h.provenanceLine])) ∧
    ((∃ rest, codeBlock? h.toMarkdown = some (pieces '\n' h.text, rest)) →
      ∀ l ∈ pieces '\n' h.text, closesBlock l = false) := by
  refine ⟨fun before line after => Hover.codeBlock?_of_append hprovenance,
    Hover.codeBlock?_of_all hprovenance, fun ⟨rest, hshown⟩ l hl => ?_⟩
  by_contra hcloses
  obtain ⟨before, line, after, htext, hbefore, hline⟩ :=
    exists_first_closesBlock ⟨l, hl, by simpa using hcloses⟩
  rw [Hover.codeBlock?_of_append hprovenance htext hbefore hline, htext] at hshown
  obtain ⟨hbefore, -⟩ := Prod.mk.inj (Option.some.inj hshown)
  exact List.cons_ne_nil line after (List.self_eq_append_right.mp hbefore)

/-- A note whose second line closes the block, and a value with lines that only look as if they did:
text after the backticks, too many spaces, and too few backticks. -/
theorem codeBlock_shows_note_fenced :
    let notes := readNotes ['n'] "【k】a\n  ``` \nb".toList
    let range : Range := ⟨⟨0, 0⟩, ⟨0, 1⟩⟩
    let cut : Hover := ⟨['k'], "a\n  ``` \nb".toList, ['n'], range⟩
    let whole : Hover := ⟨['k'], "```x\n    ```\n``".toList, ['n'], range⟩
    hoverAt [] none notes (Document.ofText ['k']) 0 0 = .ok (some cut) ∧
      '\n' ∉ cut.provenance ∧
      codeBlock? cut.toMarkdown =
        some (["a".toList], ["b".toList, "```".toList, [], "*from: `n`*".toList]) ∧
      '\n' ∉ whole.provenance ∧ (∀ l ∈ pieces '\n' whole.text, closesBlock l = false) ∧
      codeBlock? whole.toMarkdown =
        some (["```x".toList, "    ```".toList, "``".toList], [[], "*from: `n`*".toList]) := by
  intro notes range cut whole
  have hcut : '\n' ∉ cut.provenance := by decide
  have hwhole : '\n' ∉ whole.provenance := by decide
  have hopen : ∀ l ∈ pieces '\n' whole.text, closesBlock l = false := by decide
  refine ⟨by decide +kernel, hcut, ?_, hwhole, hopen, (codeBlock_shows_note hwhole).2.1 hopen⟩
  exact (codeBlock_shows_note hcut).1 ["a".toList] "  ``` ".toList ["b".toList] (by decide)
    (by decide) (by decide)

/-- Not every note is shown as it is: one of three backticks is shown as nothing. -/
theorem codeBlock_drops_backticks :
    ¬∀ h : Hover, '\n' ∉ h.provenance →
      codeBlock? h.toMarkdown = some (pieces '\n' h.text, [[], h.provenanceLine]) := by
  intro h
  let hover : Hover := ⟨['k'], "```".toList, "a.des".toList, ⟨⟨0, 0⟩, ⟨0, 1⟩⟩⟩
  have hprovenance : '\n' ∉ hover.provenance := by decide
  have hlines : pieces '\n' hover.text = [] ++ "```".toList :: [] := by decide
  have hshown := Hover.codeBlock?_of_append hprovenance hlines (List.forall_mem_nil _) (by decide)
  rw [h hover hprovenance] at hshown
  obtain ⟨hnone, -⟩ := Prod.mk.inj (Option.some.inj hshown)
  exact absurd hnone (by decide)

end Gloss
