import Mathlib.Data.List.Chain
import Mathlib.Data.List.Forall2
import Gloss.Match
import Gloss.Proofs.Occurrence

/-! The spans of keys, described by their offsets alone: occurrences apart from each other, such
that every occurrence begins inside one of them. The description leaves one list of spans for each
key. -/

namespace Gloss

/-! ### Occurrences -/

namespace Text

/-- The key stands in `t` at the offset `o`, character by character. -/
def OccursAt (key t : Text) (o : Nat) : Prop :=
  t.slice o (o + key.length) = key

/-- `os` are occurrences of the key in `t` from the offset `here` on, none before the end of the one
before it, and every occurrence from `here` on begins inside one of them. -/
structure Leftmost (key t : Text) (here : Nat) (os : List Nat) : Prop where
  from_here : ∀ o ∈ os, here ≤ o
  occurs : ∀ o ∈ os, OccursAt key t o
  apart : os.IsChain fun a b => a + key.length ≤ b
  covered : ∀ q, here ≤ q → OccursAt key t q → ∃ o ∈ os, o ≤ q ∧ q < o + key.length

variable {key t : Text} {here : Nat} {os : List Nat}

theorem occursAt_iff {o : Nat} : OccursAt key t o ↔ key <+: t.drop o := by
  rw [OccursAt, slice, List.drop_take, Nat.add_sub_cancel_left, List.prefix_iff_eq_take]
  exact eq_comm

theorem OccursAt.le_length {o : Nat} (hne : key ≠ []) (h : OccursAt key t o) :
    o + key.length ≤ t.length := by
  have hpos := List.length_pos_of_ne_nil hne
  have hlen := (occursAt_iff.mp h).length_le
  rw [List.length_drop] at hlen
  omega

theorem leftmost_of_length_le (hne : key ≠ []) (hend : t.length ≤ here) :
    Leftmost key t here os ↔ os = [] := by
  have hpos := List.length_pos_of_ne_nil hne
  constructor
  · intro h
    refine List.eq_nil_iff_forall_not_mem.mpr fun o ho => ?_
    have := h.from_here o ho
    have := (h.occurs o ho).le_length hne
    omega
  · rintro rfl
    refine ⟨by simp, by simp, .nil, fun q hq hocc => ?_⟩
    have := hocc.le_length hne
    omega

/-- Where the key does not stand, the search may as well begin one character further on. -/
theorem leftmost_of_absent (habsent : ¬OccursAt key t here) :
    Leftmost key t here os ↔ Leftmost key t (here + 1) os := by
  have hne_here : ∀ q, OccursAt key t q → q ≠ here := by
    rintro q hq rfl
    exact habsent hq
  constructor
  · intro h
    refine ⟨fun o ho => ?_, h.occurs, h.apart, fun q hq => h.covered q (by omega)⟩
    have := h.from_here o ho
    have := hne_here o (h.occurs o ho)
    omega
  · intro h
    refine ⟨fun o ho => ?_, h.occurs, h.apart, fun q hq hocc => h.covered q ?_ hocc⟩
    · have := h.from_here o ho
      omega
    · have := hne_here q hocc
      omega

/-- Each later occurrence begins after the first one ends. -/
theorem Leftmost.le_of_mem {a o : Nat} (h : Leftmost key t here (a :: os)) (ho : o ∈ os) :
    a + key.length ≤ o := by
  have hchain := h.apart
  clear h
  induction os generalizing a with
  | nil => cases ho
  | cons b bs ih =>
    obtain ⟨hab, hbs⟩ := List.isChain_cons_cons.mp hchain
    rcases List.mem_cons.mp ho with rfl | ho
    · exact hab
    · have := ih ho hbs
      omega

/-- Where the key stands, the search takes it and goes on behind it. -/
theorem Leftmost.exists_cons (hocc : OccursAt key t here) (h : Leftmost key t here os) :
    ∃ rest, os = here :: rest ∧ Leftmost key t (here + key.length) rest := by
  obtain ⟨o, ho, hle, hlt⟩ := h.covered here (Nat.le_refl _) hocc
  cases os with
  | nil => cases ho
  | cons a rest =>
    -- An occurrence after the first one begins behind it, so only the first can cover `here`.
    have ha : a = here := by
      have := h.from_here a List.mem_cons_self
      rcases List.mem_cons.mp ho with rfl | ho
      · omega
      · have := h.le_of_mem ho
        omega
    subst ha
    refine ⟨rest, rfl, fun o ho => h.le_of_mem ho,
      fun o ho => h.occurs o (List.mem_cons_of_mem _ ho), h.apart.tail, fun q hq hoccq => ?_⟩
    obtain ⟨o, ho, hle, hlt⟩ := h.covered q (by omega) hoccq
    rcases List.mem_cons.mp ho with rfl | ho
    · omega
    · exact ⟨o, ho, hle, hlt⟩

theorem Leftmost.cons (hocc : OccursAt key t here)
    (h : Leftmost key t (here + key.length) os) : Leftmost key t here (here :: os) := by
  refine ⟨fun o ho => ?_, List.forall_mem_cons.mpr ⟨hocc, h.occurs⟩, ?_, fun q hq hoccq => ?_⟩
  · rcases List.mem_cons.mp ho with rfl | ho
    · exact Nat.le_refl _
    · have := h.from_here o ho
      omega
  · exact List.isChain_cons.mpr ⟨fun o ho => h.from_here o (List.mem_of_mem_head? ho), h.apart⟩
  · by_cases hin : q < here + key.length
    · exact ⟨here, List.mem_cons_self, hq, hin⟩
    · obtain ⟨o, ho, hcov⟩ := h.covered q (by omega) hoccq
      exact ⟨o, List.mem_cons_of_mem _ ho, hcov⟩

/-- The search finds such occurrences, and there are no others. -/
theorem leftmost_iff_occurrencesFrom (hne : key ≠ []) :
    Leftmost key t here os ↔ os = occurrencesFrom key here (t.drop here) := by
  have hpos := List.length_pos_of_ne_nil hne
  generalize hs : t.drop here = s
  induction here, s using occurrencesFrom.induct key generalizing os with
  | case1 here =>
    rw [occurrencesFrom_nil]
    exact leftmost_of_length_le hne (List.drop_eq_nil_iff.mp hs)
  | case2 here c r hpre ih =>
    have hocc : OccursAt key t here := by
      rw [occursAt_iff, hs]
      exact List.isPrefixOf_iff_prefix.mp hpre
    have hnext : t.drop (here + key.length) = r.drop (key.length - 1) := by
      rw [← List.drop_drop, hs, show key.length = key.length - 1 + 1 by omega,
        List.drop_succ_cons]
      rfl
    rw [occurrencesFrom_of_found hpre]
    constructor
    · intro h
      obtain ⟨rest, rfl, hrest⟩ := h.exists_cons hocc
      rw [(ih hnext).mp hrest]
    · rintro rfl
      exact .cons hocc ((ih hnext).mpr rfl)
  | case3 here c r hpre ih =>
    have habsent : ¬OccursAt key t here := by
      rw [occursAt_iff, hs]
      exact fun h => hpre (List.isPrefixOf_iff_prefix.mpr h)
    have hnext : t.drop (here + 1) = r := by
      rw [← List.drop_drop, hs]
      rfl
    rw [leftmost_of_absent habsent, occurrencesFrom_of_absent hpre]
    exact ih hnext

theorem leftmost_iff_occurrences (hne : key ≠ []) :
    Leftmost key t 0 os ↔ os = occurrences key t := by
  rw [leftmost_iff_occurrencesFrom hne, occurrences, if_neg hne, List.drop_zero]

end Text

/-! ### Spans -/

/-- `spans` mark the key of `note` in `t`: each span has the length of the key and lies in the text,
the text of the span is the key, each begins after the one before and not before its end, and
every occurrence of the key begins inside a span. -/
structure Entry.Marked (note : Entry) (t : Text) (spans : List MatchSpan) : Prop where
  note_eq : ∀ s ∈ spans, s.note = note
  stop_eq : ∀ s ∈ spans, s.stop = s.start + note.key.length
  stop_le : ∀ s ∈ spans, s.stop ≤ t.length
  literal : ∀ s ∈ spans, t.slice s.start s.stop = note.key
  apart : spans.IsChain fun a b => a.start < b.start ∧ a.stop ≤ b.start
  covered : ∀ q, t.slice q (q + note.key.length) = note.key →
    ∃ s ∈ spans, s.start ≤ q ∧ q < s.stop

/-- What a note contributes to the spans in `t`: nothing if its key is empty. -/
def Entry.Contributes (t : Text) (note : Entry) (spans : List MatchSpan) : Prop :=
  (note.key = [] → spans = []) ∧ (note.key ≠ [] → note.Marked t spans)

section Spans

variable {note : Entry} {t : Text} {spans : List MatchSpan}

theorem Entry.spans_of_key_nil (h : note.key = []) : note.spans t = [] := by
  rw [Entry.spans, h, Text.occurrences_nil, List.map_nil]

theorem Entry.Marked.leftmost (h : note.Marked t spans) :
    Text.Leftmost note.key t 0 (spans.map (·.start)) := by
  refine ⟨fun _ _ => Nat.zero_le _, fun o ho => ?_, ?_, fun q _ hq => ?_⟩
  · obtain ⟨s, hs, rfl⟩ := List.mem_map.mp ho
    rw [Text.OccursAt, ← h.stop_eq s hs]
    exact h.literal s hs
  · rw [List.isChain_map]
    refine h.apart.imp_of_mem_imp fun a b ha _ hab => ?_
    rw [← h.stop_eq a ha]
    exact hab.2
  · obtain ⟨s, hs, hle, hlt⟩ := h.covered q hq
    rw [h.stop_eq s hs] at hlt
    exact ⟨s.start, List.mem_map_of_mem hs, hle, hlt⟩

theorem Entry.Marked.eq_spans (hne : note.key ≠ []) (h : note.Marked t spans) :
    spans = note.spans t := by
  rw [Entry.spans, ← (Text.leftmost_iff_occurrences hne).mp h.leftmost, List.map_map]
  symm
  calc spans.map _ = spans.map id := by
        refine List.map_congr_left fun s hs => ?_
        rw [Function.comp_apply, ← h.stop_eq s hs, ← h.note_eq s hs]
        rfl
    _ = spans := List.map_id spans

theorem Entry.marked_spans (hne : note.key ≠ []) (t : Text) : note.Marked t (note.spans t) := by
  have hpos := List.length_pos_of_ne_nil hne
  have hleft := (Text.leftmost_iff_occurrences (t := t) hne).mpr rfl
  refine ⟨?_, ?_, ?_, ?_, ?_, fun q hq => ?_⟩
  · exact List.forall_mem_map.mpr fun o ho => rfl
  · exact List.forall_mem_map.mpr fun o ho => rfl
  · exact List.forall_mem_map.mpr fun o ho => (hleft.occurs o ho).le_length hne
  · exact List.forall_mem_map.mpr fun o ho => hleft.occurs o ho
  · rw [Entry.spans, List.isChain_map]
    refine hleft.apart.imp fun a b (hab : a + note.key.length ≤ b) => ⟨?_, hab⟩
    show a < b
    omega
  · obtain ⟨o, ho, hcov⟩ := hleft.covered q (Nat.zero_le _) hq
    exact ⟨_, List.mem_map_of_mem ho, hcov⟩

/-- What a note contributes is determined, and it is what the search finds. -/
theorem Entry.contributes_iff : note.Contributes t spans ↔ spans = note.spans t := by
  by_cases hkey : note.key = []
  · rw [Entry.spans_of_key_nil hkey]
    exact ⟨fun h => h.1 hkey, fun h => ⟨fun _ => h, fun hne => absurd hkey hne⟩⟩
  · constructor
    · exact fun h => (h.2 hkey).eq_spans hkey
    · rintro rfl
      exact ⟨fun h => absurd h hkey, fun _ => Entry.marked_spans hkey t⟩

theorem flatten_of_contributes {notes : List Entry} {parts : List (List MatchSpan)}
    (h : List.Forall₂ (Entry.Contributes t) notes parts) : parts.flatten = allSpans notes t := by
  induction h with
  | nil => rfl
  | cons hfirst _ ih =>
    rw [List.flatten_cons, ih, Entry.contributes_iff.mp hfirst]
    rfl

end Spans

/-- The spans of all notes are what the notes contribute one after another, each of them by itself.
What a note contributes is determined by its offsets: there is always one such list of spans, and
no other. -/
theorem allSpans_determined (t : Text) :
    (∀ note : Entry, ∃! part, note.Contributes t part) ∧
      ∀ notes spans, spans = allSpans notes t ↔
        ∃ parts, List.Forall₂ (Entry.Contributes t) notes parts ∧ spans = parts.flatten := by
  constructor
  · intro note
    exact ⟨note.spans t, Entry.contributes_iff.mpr rfl, fun _ h => Entry.contributes_iff.mp h⟩
  · intro notes spans
    constructor
    · rintro rfl
      refine ⟨notes.map (·.spans t), ?_, rfl⟩
      rw [List.forall₂_map_right_iff, List.forall₂_same]
      exact fun note _ => Entry.contributes_iff.mpr rfl
    · rintro ⟨parts, hparts, rfl⟩
      exact flatten_of_contributes hparts

end Gloss
