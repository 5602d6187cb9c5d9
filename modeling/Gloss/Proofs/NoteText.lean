import Gloss.Proofs.Index
import Gloss.Proofs.LineBreak
import Gloss.Proofs.Utf8
import Gloss.Workspace

/-! The texts of note files. A text can stand in a file with any line breaks and with or without a
byte order mark, and is read back from each of these forms. A file that has no text is damaged. -/

namespace Gloss

namespace Text

variable {lineBreak : LineBreak} {t : Text}

/-- No feed is left where lines end with something else. -/
theorem feed_not_mem_breakWith (t : Text) : '\n' ∉ breakWith .carriageReturn t := by
  induction t with
  | nil => exact List.not_mem_nil
  | cons c r ih =>
    by_cases hc : c = '\n'
    · rw [hc, breakWith_feed]
      simpa [LineBreak.toText] using ih
    · rw [breakWith_cons hc]
      exact List.not_mem_cons_of_ne_of_not_mem (Ne.symm hc) ih

theorem unifyBreaks_return {r : Text} (h : r.head? ≠ some '\n') :
    unifyBreaks ('\r' :: r) = '\n' :: unifyBreaks r := by
  rw [unifyBreaks]
  rintro r' rfl
  exact h rfl

theorem unifyBreaks_cons {c : Char} (hc : c ≠ '\r') (r : Text) :
    unifyBreaks (c :: r) = c :: unifyBreaks r := by
  rw [unifyBreaks]
  · rintro r' rfl
    exact absurd rfl hc
  · exact hc

/-- A text without carriage returns is the same whichever way its lines end. -/
theorem unifyBreaks_breakWith (h : '\r' ∉ t) : unifyBreaks (t.breakWith lineBreak) = t := by
  induction t with
  | nil => rfl
  | cons c r ih =>
    obtain ⟨hc, hr⟩ := not_or.mp (mt List.mem_cons.mpr h)
    by_cases hfeed : c = '\n'
    · rw [hfeed, breakWith_feed]
      cases lineBreak with
      | feed =>
        show unifyBreaks ('\n' :: breakWith .feed r) = _
        rw [unifyBreaks_cons (by decide), ih hr]
      | returnFeed =>
        show '\n' :: unifyBreaks (breakWith .returnFeed r) = _
        rw [ih hr]
      | carriageReturn =>
        show unifyBreaks ('\r' :: breakWith .carriageReturn r) = _
        have hhead : (breakWith .carriageReturn r).head? ≠ some '\n' :=
          fun h => feed_not_mem_breakWith r (List.mem_of_head? h)
        rw [unifyBreaks_return hhead, ih hr]
    · rw [breakWith_cons hfeed, unifyBreaks_cons (Ne.symm hc), ih hr]

end Text

/-! ### Texts and files -/

/-- The text of a file: that of its bytes after a byte order mark, with all line breaks made feeds.
A file that ends within the mark is empty. -/
def ReadsAs (content : Bytes) (t : Text) : Prop :=
  (content = [0xef] ∨ content = [0xef, 0xbb]) ∧ t = [] ∨
    ∃ s, Utf8.unmarked content = Utf8.encode s ∧ t = Text.unifyBreaks s

/-- The bytes after a byte order mark are not UTF-8, and the file does not end within the mark. -/
def Damaged (content : Bytes) : Prop :=
  ¬(Utf8.unmarked content).toByteArray.IsValidUTF8 ∧ content ≠ [0xef] ∧ content ≠ [0xef, 0xbb]

instance (content : Bytes) : Decidable (Damaged content) :=
  inferInstanceAs (Decidable (_ ∧ _))

variable {content : Bytes} {t : Text}

theorem noteText_eq_ok_iff : noteText content = .ok t ↔ ReadsAs content t := by
  have hdecode : noteText content = .ok t ↔
      ∃ s, Utf8.decodeMarked content = .ok s ∧ t = Text.unifyBreaks s := by
    rw [noteText]
    cases Utf8.decodeMarked content with
    | ok s => simp [eq_comm]
    | error e => simp
  rw [hdecode, ReadsAs]
  simp only [Utf8.decodeMarked_eq_ok_iff]
  constructor
  · rintro ⟨s, ⟨hpart, rfl⟩ | hs, rfl⟩
    · exact .inl ⟨hpart, rfl⟩
    · exact .inr ⟨s, hs, rfl⟩
  · rintro (⟨hpart, rfl⟩ | ⟨s, hs, rfl⟩)
    · exact ⟨[], .inl ⟨hpart, rfl⟩, rfl⟩
    · exact ⟨s, .inr hs, rfl⟩

theorem exists_readsAs_iff : (∃ t, ReadsAs content t) ↔ ¬Damaged content := by
  rw [Damaged, Utf8.isValidUTF8_iff]
  constructor
  · rintro ⟨t, ⟨hpart, -⟩ | ⟨s, hs, -⟩⟩ ⟨hvalid, hne, hne'⟩
    · exact hpart.elim hne hne'
    · exact hvalid ⟨s, hs⟩
  · intro h
    by_cases hvalid : ∃ s, Utf8.unmarked content = Utf8.encode s
    · obtain ⟨s, hs⟩ := hvalid
      exact ⟨_, .inr ⟨s, hs, rfl⟩⟩
    · refine ⟨[], .inl ⟨?_, rfl⟩⟩
      by_contra hpart
      exact h ⟨hvalid, not_or.mp hpart⟩

-- A part of the mark is a text only if it is the whole file.
example : ¬Damaged [0xef, 0xbb] ∧ Damaged [0xef, 0xbb, 0xbf, 0xef] := by decide

/-- How a text stands in a file: how its lines end, and whether a byte order mark begins it. -/
structure FileForm where
  lineBreak : LineBreak
  marked : Bool
  deriving DecidableEq, Repr

/-- The bytes of a text in a file. -/
def FileForm.bytes (form : FileForm) (t : Text) : Bytes :=
  (if form.marked then Utf8.mark else []) ++ Utf8.encode (t.breakWith form.lineBreak)

/-- A text is read back from each of its forms. -/
theorem noteText_bytes (form : FileForm) (hreturn : '\r' ∉ t)
    (hmark : t.head? ≠ some byteOrderMark) : noteText (form.bytes t) = .ok t := by
  have hbytes : Utf8.unmarked (form.bytes t) = Utf8.encode (t.breakWith form.lineBreak) := by
    rw [FileForm.bytes]
    cases form.marked with
    | true => exact Utf8.unmarked_append _
    | false =>
      exact Utf8.unmarked_encode (mt (Text.head?_breakWith (by decide) (by decide)).mp hmark)
  exact noteText_eq_ok_iff.mpr (.inr ⟨_, hbytes, (Text.unifyBreaks_breakWith hreturn).symm⟩)

/-! ### What a file adds to an index -/

/-- What a file that holds `content` adds to an index as the source `name`: the notes of its text,
or one failure if it is damaged. -/
structure FilePart (name : Text) (content : Bytes) (part : Index) : Prop where
  notes : ¬Damaged content → ∃ t, ReadsAs content t ∧ part = ⟨readNotes name t, []⟩
  failure : Damaged content → ∃ cause, Utf8.decodeMarked content = .error cause ∧
    part = ⟨[], [⟨name, cause.message⟩]⟩

theorem Source.filePart {s : Source} (h : s.load = noteText content) :
    FilePart s.name content s.part := by
  rw [part, notes, failures, h]
  constructor
  · intro hsound
    obtain ⟨t, ht⟩ := exists_readsAs_iff.mpr hsound
    rw [noteText_eq_ok_iff.mpr ht]
    exact ⟨t, ht, rfl⟩
  · intro hdamaged
    rw [noteText]
    cases hdecode : Utf8.decodeMarked content with
    | ok s =>
      have htext : noteText content = .ok (Text.unifyBreaks s) := by rw [noteText, hdecode]
      exact absurd hdamaged (exists_readsAs_iff.mp ⟨_, noteText_eq_ok_iff.mp htext⟩)
    | error cause => exact ⟨cause, rfl, rfl⟩

end Gloss
