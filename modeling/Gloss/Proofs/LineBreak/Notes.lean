import Mathlib.Data.List.Forall2
import Gloss.Proofs.LineBreak
import Gloss.Proofs.Scan
import Gloss.Proofs.Sections

/-! The notes of a text and of the same text with a carriage return before each line feed. The scan
of the one goes along with the scan of the other: the returns in a key or a value stay in it, and one
before the end of a value is added to it, where it is trimmed away. -/

namespace Gloss

open Text

/-! ### The scan -/

/-- A text begins with a marker exactly if it does with returns, which stay in the key. -/
theorem marker?_breakWith (t : Text) : marker? (t.breakWith .returnFeed) =
    (marker? t).map fun m => (m.1.breakWith .returnFeed, m.2.breakWith .returnFeed) := by
  cases t with
  | nil => rfl
  | cons c r =>
    by_cases hfeed : c = '\n'
    · subst hfeed
      rfl
    rw [breakWith_cons hfeed]
    by_cases hc : c = opening
    · simp only [marker?, if_pos hc]
      rw [takeWhile_breakWith (by decide) (by decide), dropWhile_breakWith (by decide) (by decide)]
      cases hkey : r.takeWhile (· ≠ closing) with
      | nil => rfl
      | cons k ks =>
        cases hrest : r.dropWhile (· ≠ closing) with
        | nil => simp
        | cons d rest =>
          obtain rfl : d = closing := by simpa using not_of_dropWhile hrest
          obtain ⟨k', ks', hkey'⟩ : ∃ k' ks', breakWith .returnFeed (k :: ks) = k' :: ks' :=
            List.exists_cons_of_ne_nil (by simp)
          rw [hkey', breakWith_cons (show closing ≠ '\n' by decide)]
          simp [hkey']
    · simp [marker?, hc]

theorem splitValue_return (r : Text) :
    splitValue ('\r' :: r) = ('\r' :: (splitValue r).1, (splitValue r).2) :=
  splitValue_cons fun h => absurd h.1 (by decide)

/-- A value runs to the same place with returns, one of which may stand there and is added to it. -/
theorem splitValue_breakWith (t : Text) : ∃ tail, (tail = [] ∨ tail = ['\r']) ∧
    (splitValue (t.breakWith .returnFeed)).1 = (splitValue t).1.breakWith .returnFeed ++ tail ∧
    breakWith .returnFeed (splitValue t).2 = tail ++ (splitValue (t.breakWith .returnFeed)).2 := by
  induction t with
  | nil => exact ⟨[], .inl rfl, rfl, rfl⟩
  | cons c r ih =>
    have hhead : (breakWith .returnFeed r).head? = some opening ↔ r.head? = some opening :=
      head?_breakWith (by decide) (by decide)
    by_cases hbreak : c = '\n' ∧ r.head? = some opening
    · obtain ⟨rfl, hr⟩ := hbreak
      rw [breakWith_returnFeed, splitValue_return, splitValue_of_break (hhead.mpr hr),
        splitValue_of_break hr]
      exact ⟨['\r'], .inr rfl, rfl, rfl⟩
    · obtain ⟨tail, htail, hvalue, hrest⟩ := ih
      rw [splitValue_cons hbreak]
      by_cases hfeed : c = '\n'
      · subst hfeed
        have hbreak' : ¬('\n' = '\n' ∧ (breakWith .returnFeed r).head? = some opening) := by
          rwa [hhead]
        rw [breakWith_returnFeed, splitValue_return, splitValue_cons hbreak']
        exact ⟨tail, htail, by simp [hvalue, breakWith_returnFeed], hrest⟩
      · rw [breakWith_cons hfeed, splitValue_cons fun h => hfeed h.1]
        exact ⟨tail, htail, by simp [hvalue, breakWith_cons hfeed], hrest⟩

/-- The marker `c` of `t` and the marker `c'` of `t` with returns are the same: it stands behind as many
more characters as there are line feeds before it, and its key and its value have their returns and
perhaps one more after the value. -/
structure Candidate.Returned (t : Text) (c c' : Candidate) : Prop where
  within : c.start ≤ t.length
  start : c'.start = c.start + (t.take c.start).count '\n'
  key : c'.key = c.key.breakWith .returnFeed
  value : ∃ tail, (tail = [] ∨ tail = ['\r']) ∧ c'.value = c.value.breakWith .returnFeed ++ tail

theorem marker?_return (r : Text) : marker? ('\r' :: r) = none := by
  simp [marker?, opening]

theorem marker?_feed (r : Text) : marker? ('\n' :: r) = none := by
  simp [marker?, opening]

theorem scan_append_tail {tail : Text} (htail : tail = [] ∨ tail = ['\r']) (here : Nat) (t : Text) :
    scan here (tail ++ t) = scan (here + tail.length) t := by
  rcases htail with rfl | rfl
  · rfl
  · exact scan_of_no_marker (marker?_return t)

/-- The scan of a text with returns finds the markers of the text, one by one. -/
theorem scan_breakWith (before t : Text) :
    List.Forall₂ (Candidate.Returned (before ++ t)) (scan before.length t)
      (scan (before.breakWith .returnFeed).length (t.breakWith .returnFeed)) := by
  generalize hhere : before.length = here
  induction here, t using scan.induct generalizing before with
  | case1 here t key rest hm found ih =>
    obtain ⟨rfl, -, -⟩ := marker?_eq_some_iff.mp hm
    have hm' := marker?_breakWith (opening :: (key ++ closing :: rest))
    rw [hm, Option.map_some] at hm'
    obtain ⟨tail, htail, hvalue, hrest⟩ := splitValue_breakWith rest
    have hsplit := splitValue_append rest
    rw [scan_of_marker hm, scan_of_marker hm']
    refine .cons ⟨?_, ?_, rfl, tail, htail, hvalue⟩ ?_
    · subst hhere
      simp
    · subst hhere
      simp [length_breakWith_returnFeed]
    · -- Both scans go on after the value, the one with returns perhaps after one return more.
      have hnext := ih (before ++ opening :: (key ++ closing :: (splitValue rest).1)) (by
        subst hhere
        simp [found, Candidate.stop, Candidate.close]
        omega)
      have htext : before ++ opening :: (key ++ closing :: (splitValue rest).1) ++
          (splitValue rest).2 = before ++ opening :: (key ++ closing :: rest) := by
        conv_rhs => rw [← hsplit]
        simp
      rw [htext, hrest, scan_append_tail htail] at hnext
      convert hnext using 2
      simp [Candidate.stop, Candidate.close, hvalue, breakWith_append, breakWith_cons, opening,
        closing]
      omega
  | case2 here => simp
  | case3 here c r hm ih =>
    have hnext := ih (before ++ [c]) (by simp [hhere])
    rw [List.append_assoc, List.singleton_append] at hnext
    rw [scan_of_no_marker hm]
    by_cases hfeed : c = '\n'
    · subst hfeed
      rw [breakWith_returnFeed, scan_of_no_marker (marker?_return _),
        scan_of_no_marker (marker?_feed _)]
      simpa [breakWith_append, breakWith_returnFeed] using hnext
    · have hm' := marker?_breakWith (c :: r)
      rw [hm, breakWith_cons hfeed] at hm'
      rw [breakWith_cons hfeed, scan_of_no_marker hm']
      simpa [breakWith_append, breakWith_cons hfeed] using hnext

/-! ### Lines and notes -/

/-- The line `s` of `t` is the line `s'` of `t` with returns: it has the same number and the same text,
and each line before it made it stand one character further on. -/
structure LineSpan.Returned (t : Text) (s s' : LineSpan) : Prop where
  line : s'.line = s.line
  start : s'.start = s.start + s.line
  stop : s'.stop = s.stop + s.line
  text : (t.breakWith .returnFeed).slice s'.start s'.stop = t.slice s.start s.stop

theorem LineSpan.returned_around {t : Text} (h : '\r' ∉ t) {i : Nat} (hi : i ≤ t.length) :
    LineSpan.Returned t (LineSpan.around t i)
      (LineSpan.around (t.breakWith .returnFeed) (i + (t.take i).count '\n' : Nat)) := by
  obtain ⟨before, line, after, hcut, hlow, hhigh⟩ := exists_cut hi
  obtain ⟨tail, after', htail, hcut'⟩ := hcut.exists_breakWith
  have hline : '\r' ∉ line := fun hmem => h (hcut.mem_of_mem_line hmem)
  have hdrop := dropReturn_of_not_mem hline
  have hdrop' := dropReturn_append hline htail
  have hlen := length_breakWith_returnFeed before
  have htext := hcut.slice_dropReturn
  have htext' := hcut'.slice_dropReturn
  rw [hdrop] at htext
  rw [hdrop'] at htext'
  rw [hcut.count_take hlow hhigh, LineSpan.around_of_cut hcut hlow hhigh,
    LineSpan.around_of_cut hcut' (by omega) (by simp; omega), hdrop, hdrop']
  refine ⟨count_breakWith_returnFeed before, hlen, ?_, htext'.trans htext.symm⟩
  simp only [hlen]
  omega

/-- The entry `e` of `t` is the entry `e'` of `t` with returns. -/
structure Entry.Returned (t : Text) (e e' : Entry) : Prop where
  key : e'.key = e.key.breakWith .returnFeed
  value : e'.value = e.value.breakWith .returnFeed
  source : e'.source = e.source
  definition : LineSpan.Returned t e.definition e'.definition

theorem Candidate.Returned.entry? {t : Text} {c c' : Candidate} (h : c.Returned t c')
    (hreturn : '\r' ∉ t) (source : Text) :
    Option.Rel (Entry.Returned t) (c.entry? source t)
      (c'.entry? source (t.breakWith .returnFeed)) := by
  obtain ⟨tail, htail, hvalue⟩ := h.value
  have hpadding : ∀ c ∈ tail, isPadding c = true := by
    rcases htail with rfl | rfl
    · simp
    · simpa using show isPadding '\r' = true by decide
  have hkey : c'.key.trim = c.key.trim.breakWith .returnFeed := by rw [h.key, trim_breakWith]
  have hvalue' : c'.value.trim = c.value.trim.breakWith .returnFeed := by
    rw [hvalue, ← trim_breakWith]
    exact trimBy_append_of_all hpadding _
  simp only [Candidate.entry?, hkey, hvalue', breakWith_eq_nil_iff, h.start]
  split
  · exact .none
  · exact .some ⟨rfl, rfl, rfl, LineSpan.returned_around hreturn h.within⟩

/-- Reading notes commutes with writing a carriage return before each line feed of a text that has
none. The notes correspond one by one: their keys and their values have the returns, they are defined
on lines of the same numbers and the same texts, and each of these lines stands one character further
on for each line before it. -/
theorem readNotes_returned {t : Text} (h : '\r' ∉ t) (source : Text) :
    List.Forall₂ (Entry.Returned t) (readNotes source t)
      (readNotes source (t.breakWith .returnFeed)) :=
  List.rel_filterMap (fun _ _ hc => hc.entry? h source) (scan_breakWith [] t)

/-- A key over two lines, a blank line below its value, and an empty pair of brackets before a note that
ends with the text. -/
theorem readNotes_returned_two :
    let t : Text := ['a', '\n', opening, 'k', '\n', 'l', closing, ' ', 'v', '\n', '\n', opening,
      closing, opening, 'm', closing, 'w']
    '\r' ∉ t ∧
      readNotes [] t = [⟨['k', '\n', 'l'], ['v'], [], ⟨1, 2, 4⟩⟩, ⟨['m'], ['w'], [], ⟨4, 11, 17⟩⟩] ∧
      List.Forall₂ (Entry.Returned t) (readNotes [] t)
        (readNotes [] (t.breakWith .returnFeed)) := by
  intro t
  exact ⟨by decide, by decide +kernel, readNotes_returned (by decide) []⟩

end Gloss
