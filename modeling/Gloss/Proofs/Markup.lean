import Mathlib.Data.List.TakeWhile
import Gloss.Proofs.Text
import Gloss.Terminal.Markup

/-! Reading text with style tags. An escaped text is read as plain text, whatever it holds, and so is
a text without an opening bracket. -/

namespace Gloss.Terminal

open Text

/-! ### Backslashes and tags -/

/-- A character that can stand in a tag. -/
def inTag (c : Char) : Bool :=
  c ≠ ']' && c ≠ '['

theorem inTag_of_startsTag {c : Char} (h : startsTag c = true) : inTag c = true := by
  have hclose : c ≠ ']' := by
    rintro rfl
    revert h
    decide
  have hopen : c ≠ '[' := by
    rintro rfl
    revert h
    decide
  simp [inTag, hclose, hopen]

/-- A text that is more than backslashes, after `n` of them. -/
theorem slashCount_append (n : Nat) {t : Text} (h : t.head? ≠ some '\\') :
    slashCount (slashes n ++ t) = n := by
  have ht : t.takeWhile (· = '\\') = [] := by
    cases t with
    | nil => rfl
    | cons c r =>
      have hc : c ≠ '\\' := fun heq => h (congrArg some heq)
      simp [hc]
  rw [slashCount, slashes, List.takeWhile_append_of_pos (by simp), ht, List.append_nil,
    List.length_replicate]

theorem drop_slashes (n : Nat) (t : Text) : (slashes n ++ t).drop n = t :=
  List.drop_left' List.length_replicate

/-- Every text is a number of backslashes before one that does not begin with a backslash. -/
theorem exists_slashes (t : Text) : ∃ n r, t = slashes n ++ r ∧ r.head? ≠ some '\\' := by
  induction t with
  | nil => exact ⟨0, [], rfl, by simp⟩
  | cons c t ih =>
    by_cases hc : c = '\\'
    · obtain ⟨n, r, rfl, hr⟩ := ih
      exact ⟨n + 1, r, by rw [hc, slashes, slashes, List.replicate_succ]; rfl, hr⟩
    · exact ⟨0, c :: t, rfl, by simpa using hc⟩

theorem tag?_eq_none_of_head {t : Text} (h : t.head? ≠ some '[') : tag? t = none := by
  cases t with
  | nil => rfl
  | cons c r =>
    rw [tag?]
    intro d q heq
    rw [heq] at h
    exact h rfl

theorem tag?_cons (c : Char) (r : Text) : tag? ('[' :: c :: r) =
    if startsTag c = true then
      match r.dropWhile inTag with
      | ']' :: rest => some (c :: r.takeWhile inTag, rest)
      | _ => none
    else none :=
  rfl

/-- A text begins with a tag if after the bracket it has the beginning of one, and of the brackets
in it a closing one comes first. -/
theorem isSome_tag?_iff {t : Text} : (tag? ('[' :: t)).isSome = true ↔
    t.head?.any startsTag = true ∧ (t.dropWhile inTag).head? = some ']' := by
  cases t with
  | nil => simp [tag?]
  | cons c r =>
    rw [tag?_cons, List.head?_cons, Option.any_some]
    by_cases hc : startsTag c = true
    · rw [if_pos hc, List.dropWhile_cons_of_pos (inTag_of_startsTag hc)]
      split
      · next rest hrest => simp [hc, hrest]
      · next hrest =>
        refine iff_of_false (by simp) fun h => ?_
        obtain ⟨rest, heq⟩ := List.head?_eq_some_iff.mp h.2
        exact hrest rest heq
    · simp [hc]

theorem tag?_eq_some_iff {t body rest : Text} : tag? t = some (body, rest) ↔
    t = '[' :: body ++ ']' :: rest ∧ body.head?.any startsTag = true ∧
      ∀ c ∈ body, inTag c = true := by
  constructor
  · intro h
    rw [tag?.eq_def] at h
    split at h
    · next c r =>
      split at h
      · next hc =>
        split at h
        · next rest' hrest =>
          obtain ⟨rfl, rfl⟩ := Prod.mk.inj (Option.some.inj h)
          refine ⟨?_, by simpa using hc, ?_⟩
          · rw [List.cons_append, ← hrest]
            simp
          · intro d hd
            obtain rfl | hd := List.mem_cons.mp hd
            · exact inTag_of_startsTag hc
            · exact List.mem_takeWhile_imp hd
        · cases h
      · cases h
    · cases h
  · rintro ⟨rfl, hbegins, hbody⟩
    cases body with
    | nil => cases hbegins
    | cons c r =>
      obtain ⟨-, hr⟩ := List.forall_mem_cons.mp hbody
      have hdrop : (r ++ ']' :: rest).dropWhile inTag = ']' :: rest := by
        rw [List.dropWhile_append_of_pos hr]
        rfl
      have htake : (r ++ ']' :: rest).takeWhile inTag = r := by
        rw [List.takeWhile_append_of_pos hr]
        simp [inTag]
      have hc : startsTag c = true := hbegins
      rw [List.cons_append, List.cons_append, tag?_cons, if_pos hc, hdrop, htake]
      rfl

/-- A text can be taken apart into backslashes, the tags after them, and the characters between. -/
theorem induction_on_tags {motive : Text → Prop} (t : Text) (nil : ∀ n, motive (slashes n))
    (tagged : ∀ n t body rest, tag? t = some (body, rest) → motive rest → motive (slashes n ++ t))
    (plain : ∀ n c r, c ≠ '\\' → tag? (c :: r) = none → motive r → motive (slashes n ++ c :: r)) :
    motive t := by
  obtain ⟨n, r, ht, hr⟩ := exists_slashes t
  have hle : r.length ≤ t.length := by simp [ht]
  cases htag : tag? r with
  | some found =>
    have hlt := length_lt_of_tag? htag
    rw [ht]
    exact tagged n r found.1 found.2 htag (induction_on_tags found.2 nil tagged plain)
  | none =>
    cases r with
    | nil =>
      rw [ht, List.append_nil]
      exact nil n
    | cons c r =>
      have hc : c ≠ '\\' := fun heq => hr (congrArg some heq)
      rw [ht]
      exact plain n c r hc htag (induction_on_tags r nil tagged plain)
termination_by t.length
decreasing_by
  · exact hle
  · omega

/-! ### Reading pieces -/

section Pieces

variable {n : Nat} {plain t body rest : Text} {c : Char}

theorem head?_of_tag? (h : tag? t = some (body, rest)) : t.head? ≠ some '\\' := by
  obtain ⟨rfl, -⟩ := tag?_eq_some_iff.mp h
  simp

theorem exists_cons_of_slashes (ht : slashes n ++ t ≠ []) (hhead : t.head? ≠ some '\\') :
    ∃ c r, slashes n ++ t = c :: r ∧ slashCount (c :: r) = n ∧ (c :: r).drop n = t := by
  obtain ⟨c, r, hcons⟩ := List.exists_cons_of_ne_nil ht
  exact ⟨c, r, hcons, hcons ▸ slashCount_append n hhead, hcons ▸ drop_slashes n t⟩

theorem exists_cons_of_tag (h : tag? t = some (body, rest)) :
    ∃ c r, slashes n ++ t = c :: r ∧ slashCount (c :: r) = n ∧ (c :: r).drop n = t := by
  apply exists_cons_of_slashes ?_ (head?_of_tag? h)
  obtain ⟨rfl, -⟩ := tag?_eq_some_iff.mp h
  simp

/-- The piece of plain text that was read before a tag. -/
def plainPiece (plain : Text) : List MarkupPiece :=
  if plain = [] then [] else [.plain plain.reverse]

theorem markupPieces_nil : markupPieces plain [] = plainPiece plain := by
  rw [markupPieces, plainPiece]

/-- One step of reading, without the proofs that the rest is shorter. -/
theorem markupPieces_cons (plain : Text) (c : Char) (r : Text) :
    markupPieces plain (c :: r) =
      match tag? ((c :: r).drop (slashCount (c :: r))) with
      | some (body, rest) =>
        let n := slashCount (c :: r)
        plainPiece plain ++ (if n < 2 then [] else [.plain (slashes (n / 2))]) ++
          (if n % 2 = 1 then .plain ('[' :: body ++ [']']) else .ofTag body) ::
            markupPieces [] rest
      | none =>
        if slashCount (c :: r) = 0 then markupPieces (c :: plain) r
        else
          markupPieces (slashes (slashCount (c :: r)) ++ plain)
            ((c :: r).drop (slashCount (c :: r))) := by
  rw [markupPieces]
  split
  · next h => simp only [h, plainPiece]
  · next h => simp only [h, dite_eq_ite]

theorem escapeTags_cons (c : Char) (r : Text) :
    escapeTags (c :: r) =
      match tag? ((c :: r).drop (slashCount (c :: r))) with
      | some (body, rest) =>
        slashes (2 * slashCount (c :: r) + 1) ++ '[' :: body ++ ']' :: escapeTags rest
      | none =>
        if slashCount (c :: r) = 0 then c :: escapeTags r
        else slashes (slashCount (c :: r)) ++
          escapeTags ((c :: r).drop (slashCount (c :: r))) := by
  rw [escapeTags]
  split
  · next h => simp only [h]
  · next h => simp only [h, dite_eq_ite]

theorem markupPieces_of_tag (h : tag? t = some (body, rest)) :
    markupPieces plain (slashes n ++ t) =
      plainPiece plain ++ (if n < 2 then [] else [.plain (slashes (n / 2))]) ++
        (if n % 2 = 1 then .plain ('[' :: body ++ [']']) else .ofTag body) ::
          markupPieces [] rest := by
  obtain ⟨c, r, hcons, hcount, hdrop⟩ := exists_cons_of_tag (n := n) h
  rw [hcons, markupPieces_cons, hcount, hdrop, h]

/-- A tag without backslashes before it. -/
theorem markupPieces_of_bare_tag (h : tag? t = some (body, rest)) :
    markupPieces plain t = plainPiece plain ++ .ofTag body :: markupPieces [] rest := by
  have hread : markupPieces plain (slashes 0 ++ t) = _ := markupPieces_of_tag h
  rw [if_pos (by decide), if_neg (by decide), List.append_nil] at hread
  exact hread

theorem escapeTags_of_tag (h : tag? t = some (body, rest)) :
    escapeTags (slashes n ++ t) = slashes (2 * n + 1) ++ '[' :: body ++ ']' :: escapeTags rest := by
  obtain ⟨c, r, hcons, hcount, hdrop⟩ := exists_cons_of_tag (n := n) h
  rw [hcons, escapeTags_cons, hcount, hdrop, h]

/-- Backslashes before what is no tag are plain text. -/
theorem markupPieces_slashes (hhead : t.head? ≠ some '\\') (h : tag? t = none) :
    markupPieces plain (slashes n ++ t) = markupPieces (slashes n ++ plain) t := by
  cases n with
  | zero => rfl
  | succ n =>
    have hne : slashes (n + 1) ++ t ≠ [] := by simp [slashes]
    obtain ⟨c, r, hcons, hcount, hdrop⟩ := exists_cons_of_slashes hne hhead
    rw [hcons, markupPieces_cons, hcount, hdrop, h]
    exact if_neg (Nat.succ_ne_zero n)

theorem escapeTags_slashes (hhead : t.head? ≠ some '\\') (h : tag? t = none) :
    escapeTags (slashes n ++ t) = slashes n ++ escapeTags t := by
  cases n with
  | zero => rfl
  | succ n =>
    have hne : slashes (n + 1) ++ t ≠ [] := by simp [slashes]
    obtain ⟨c, r, hcons, hcount, hdrop⟩ := exists_cons_of_slashes hne hhead
    rw [hcons, escapeTags_cons, hcount, hdrop, h]
    exact if_neg (Nat.succ_ne_zero n)

/-- A character that begins no tag is plain text. -/
theorem markupPieces_of_no_tag (hc : c ≠ '\\') (h : tag? (c :: t) = none) :
    markupPieces plain (c :: t) = markupPieces (c :: plain) t := by
  have hcount : slashCount (c :: t) = 0 := slashCount_append 0 (by simpa using hc)
  rw [markupPieces_cons, hcount, List.drop_zero, h]
  rfl

theorem escapeTags_of_no_tag (hc : c ≠ '\\') (h : tag? (c :: t) = none) :
    escapeTags (c :: t) = c :: escapeTags t := by
  have hcount : slashCount (c :: t) = 0 := slashCount_append 0 (by simpa using hc)
  rw [escapeTags_cons, hcount, List.drop_zero, h]
  rfl

end Pieces

/-! ### Escaped text -/

/-- Escaping changes nothing before the first bracket. -/
theorem head?_dropWhile_escapeTags (t : Text) (k : Nat) :
    ((escapeTags t ++ slashes k).dropWhile inTag).head? = (t.dropWhile inTag).head? := by
  have hslashes : ∀ n (r : Text), (slashes n ++ r).dropWhile inTag = r.dropWhile inTag := by
    intro n r
    apply List.dropWhile_append_of_pos
    intro c hc
    rw [List.eq_of_mem_replicate hc]
    rfl
  induction t using induction_on_tags with
  | nil n =>
    have hnone := escapeTags_slashes (n := n) (t := []) (by simp) rfl
    rw [List.append_nil] at hnone
    rw [hnone, escapeTags, List.append_nil, hslashes, ← List.append_nil (slashes k), hslashes,
      ← List.append_nil (slashes n), hslashes]
  | tagged n t body rest h ih =>
    rw [escapeTags_of_tag h]
    obtain ⟨rfl, -⟩ := tag?_eq_some_iff.mp h
    simp only [List.append_assoc, List.cons_append, hslashes]
    rfl
  | plain n c r hc h ih =>
    rw [escapeTags_slashes (by simpa using hc) h, escapeTags_of_no_tag hc h, List.append_assoc,
      hslashes, hslashes, List.cons_append, List.dropWhile_cons, List.dropWhile_cons]
    split
    · exact ih
    · rfl

/-- Nor does it make a tag begin where none did. -/
theorem startsTag_head?_escapeTags {t : Text} {k : Nat}
    (h : (escapeTags t ++ slashes k).head?.any startsTag = true) :
    t.head?.any startsTag = true := by
  induction t using induction_on_tags with
  | nil n =>
    rw [← List.append_nil (slashes n), escapeTags_slashes (by simp) rfl, escapeTags,
      List.append_nil, slashes, slashes, List.replicate_append_replicate] at h
    cases hk : n + k with
    | zero =>
      rw [hk] at h
      cases h
    | succ m =>
      rw [hk] at h
      cases h
  | tagged n t body rest htag _ =>
    rw [escapeTags_of_tag htag] at h
    cases h
  | plain n c r hc htag _ =>
    rw [escapeTags_slashes (by simpa using hc) htag, escapeTags_of_no_tag hc htag] at h
    cases n with
    | zero => exact h
    | succ n => cases h

theorem tag?_escapeTags {c : Char} {t : Text} (k : Nat) (h : tag? (c :: t) = none) :
    tag? (c :: (escapeTags t ++ slashes k)) = none := by
  by_cases hc : c = '['
  · subst hc
    rw [← Option.not_isSome_iff_eq_none, isSome_tag?_iff] at h ⊢
    rw [head?_dropWhile_escapeTags]
    exact fun hsome => h ⟨startsTag_head?_escapeTags hsome.1, hsome.2⟩
  · exact tag?_eq_none_of_head (by simpa using hc)

theorem eq_of_mem_plainPiece {plain : Text} {p : MarkupPiece} (h : p ∈ plainPiece plain) :
    p = .plain plain.reverse := by
  rw [plainPiece] at h
  split at h
  · cases h
  · exact List.mem_singleton.mp h

/-- All pieces of an escaped text are plain, and stay so before further backslashes. -/
theorem plain_of_mem_markupPieces {t plain : Text} {k : Nat} {p : MarkupPiece}
    (h : p ∈ markupPieces plain (escapeTags t ++ slashes k)) : ∃ u, p = .plain u := by
  induction t using induction_on_tags generalizing plain with
  | nil n =>
    rw [← List.append_nil (slashes n), escapeTags_slashes (by simp) rfl, escapeTags,
      List.append_nil, slashes, slashes, List.replicate_append_replicate, ← slashes,
      ← List.append_nil (slashes (n + k)), markupPieces_slashes (by simp) rfl,
      markupPieces_nil] at h
    exact ⟨_, eq_of_mem_plainPiece h⟩
  | tagged n t body rest htag ih =>
    have htag' : tag? ('[' :: body ++ ']' :: (escapeTags rest ++ slashes k)) =
        some (body, escapeTags rest ++ slashes k) :=
      tag?_eq_some_iff.mpr ⟨rfl, (tag?_eq_some_iff.mp htag).2⟩
    have heq : escapeTags (slashes n ++ t) ++ slashes k =
        slashes (2 * n + 1) ++ ('[' :: body ++ ']' :: (escapeTags rest ++ slashes k)) := by
      rw [escapeTags_of_tag htag]
      simp only [List.append_assoc, List.cons_append]
    -- However many backslashes stood before the brackets, escaping leaves an odd number there.
    have hodd : (2 * n + 1) % 2 = 1 := by omega
    rw [heq, markupPieces_of_tag htag', if_pos hodd, List.append_assoc, List.mem_append,
      List.mem_append, List.mem_cons] at h
    obtain h | h | rfl | h := h
    · exact ⟨_, eq_of_mem_plainPiece h⟩
    · split at h
      · cases h
      · exact ⟨_, List.mem_singleton.mp h⟩
    · exact ⟨_, rfl⟩
    · exact ih h
  | plain n c r hc htag ih =>
    rw [escapeTags_slashes (by simpa using hc) htag, escapeTags_of_no_tag hc htag,
      List.append_assoc, List.cons_append,
      markupPieces_slashes (by simpa using hc) (tag?_escapeTags k htag),
      markupPieces_of_no_tag hc (tag?_escapeTags k htag)] at h
    exact ih h

/-! ### Reading plain pieces -/

theorem ofPieces_of_plain {pieces : List MarkupPiece} (h : ∀ p ∈ pieces, ∃ u, p = .plain u)
    (start : Nat) : ∃ shown, Marked.ofPieces start [] pieces = .ok (.plain shown) := by
  induction pieces generalizing start with
  | nil => exact ⟨[], rfl⟩
  | cons p pieces ih =>
    obtain ⟨⟨u, rfl⟩, hpieces⟩ := List.forall_mem_cons.mp h
    obtain ⟨shown, hshown⟩ := ih hpieces (start + (unescapeBrackets u).length)
    refine ⟨unescapeBrackets u ++ shown, ?_⟩
    rw [Marked.ofPieces]
    simp only [hshown]
    rfl

theorem ofText_of_plain {t : Text} (h : ∀ p ∈ markupPieces [] t, ∃ u, p = .plain u) :
    ∃ shown, Marked.ofText t = .ok (.plain shown) := by
  obtain ⟨shown, hshown⟩ := ofPieces_of_plain h 0
  refine ⟨shown, ?_⟩
  rw [Marked.ofText, hshown]
  simp [bind, Except.bind, pure, Except.pure, Marked.plain]

/-- Escaped text has no tags. -/
theorem ofText_escape (t : Text) : ∃ shown, Marked.ofText (escape t) = .ok (.plain shown) := by
  have hescape : ∃ k, escape t = escapeTags t ++ slashes k := by
    rw [escape]
    split
    · exact ⟨1, rfl⟩
    · exact ⟨0, (List.append_nil _).symm⟩
  obtain ⟨k, hk⟩ := hescape
  rw [hk]
  exact ofText_of_plain fun p hp => plain_of_mem_markupPieces hp

/-! ### Tags that close -/

/-- Where no tag is open none can be closed. -/
theorem exists_closeTag_nil (name : Text) : ∃ e, closeTag name [] = .error e := by
  rw [closeTag]
  split
  · exact ⟨.nothingToClose, rfl⟩
  · cases Style.normalize (strip name) with
    | error e => exact ⟨.color e, rfl⟩
    | ok style => exact ⟨.unmatchedClose style, rfl⟩

/-- A text that begins with a closing tag cannot be read. -/
theorem ofText_of_closes {t body rest name : Text} (htag : tag? t = some (body, rest))
    (hcloses : MarkupPiece.ofTag body = .closes name) : ∃ e, Marked.ofText t = .error e := by
  obtain ⟨e, he⟩ := exists_closeTag_nil name
  refine ⟨e, ?_⟩
  rw [Marked.ofText, markupPieces_of_bare_tag htag, hcloses]
  simp only [plainPiece, if_true, List.nil_append, Marked.ofPieces, he]
  rfl

/-! ### Text without brackets -/

section NoBracket

variable {plain t : Text}

theorem tag?_of_not_mem (h : '[' ∉ t) : tag? t = none :=
  tag?_eq_none_of_head fun hhead => h (List.mem_of_head? hhead)

theorem markupPieces_of_not_mem (h : '[' ∉ t) :
    markupPieces plain t = plainPiece (t.reverse ++ plain) := by
  induction t using induction_on_tags generalizing plain with
  | nil n =>
    rw [← List.append_nil (slashes n), markupPieces_slashes (by simp) rfl, markupPieces_nil]
    simp [slashes]
  | tagged n t body rest htag _ =>
    rw [tag?_of_not_mem fun hmem => h (List.mem_append_right _ hmem)] at htag
    cases htag
  | plain n c r hc htag ih =>
    rw [markupPieces_slashes (by simpa using hc) htag, markupPieces_of_no_tag hc htag,
      ih fun hmem => h (List.mem_append_right _ (List.mem_cons_of_mem c hmem))]
    simp [slashes]

/-- A text without an opening bracket has no tags. -/
theorem ofText_of_not_mem (h : '[' ∉ t) : ∃ shown, Marked.ofText t = .ok (.plain shown) := by
  apply ofText_of_plain
  intro p hp
  rw [markupPieces_of_not_mem h] at hp
  exact ⟨_, eq_of_mem_plainPiece hp⟩

/-- Such a text is plain before a tag as well, unless a backslash at its end acts on the tag. -/
theorem markupPieces_append_of_not_mem (h : '[' ∉ t) (hlast : t.getLast? ≠ some '\\') (q : Text) :
    markupPieces plain (t ++ q) = markupPieces (t.reverse ++ plain) q := by
  induction t using induction_on_tags generalizing plain with
  | nil n =>
    cases n with
    | zero => rfl
    | succ n => simp [slashes, List.getLast?_replicate] at hlast
  | tagged n t body rest htag _ =>
    rw [tag?_of_not_mem fun hmem => h (List.mem_append_right _ hmem)] at htag
    cases htag
  | plain n c r hc htag ih =>
    obtain ⟨-, hcr⟩ := not_or.mp (mt List.mem_append.mpr h)
    have htag' : tag? (c :: (r ++ q)) = none := by
      apply tag?_eq_none_of_head
      rintro hhead
      obtain rfl := Option.some.inj hhead
      exact hcr List.mem_cons_self
    have hr : r.getLast? ≠ some '\\' := by
      intro heq
      apply hlast
      rw [List.getLast?_append, List.getLast?_cons, heq]
      rfl
    rw [List.append_assoc, List.cons_append, markupPieces_slashes (by simpa using hc) htag',
      markupPieces_of_no_tag hc htag', ih (fun hmem => hcr (List.mem_cons_of_mem c hmem)) hr]
    simp [slashes]

/-- The name of a style that is its own canonical text, as it stands in tags. -/
structure IsStyleName (style : Text) : Prop where
  begins : style.head?.any startsTag = true
  in_tag : style.all inTag = true
  opens : MarkupPiece.ofTag style = .opens ⟨style, none⟩
  closes : MarkupPiece.ofTag ('/' :: style) = .closes style
  normal : Style.normalize style = .ok style
  stripped : strip style = style
  not_handler : style.head? ≠ some '@'

/-- A text between the tags of a style. -/
def styled (style t : Text) : Text :=
  '[' :: style ++ ']' :: (t ++ ('[' :: ('/' :: style) ++ [']']))

variable {style : Text}

theorem markupPieces_styled (hstyle : IsStyleName style) (h : '[' ∉ t)
    (hlast : t.getLast? ≠ some '\\') :
    markupPieces [] (styled style t) =
      .opens ⟨style, none⟩ :: (plainPiece t.reverse ++ [.closes style]) := by
  have hin := List.all_eq_true.mp hstyle.in_tag
  have hopen : tag? (styled style t) = some (style, t ++ ('[' :: ('/' :: style) ++ [']'])) :=
    tag?_eq_some_iff.mpr ⟨rfl, hstyle.begins, hin⟩
  have hclose : tag? ('[' :: ('/' :: style) ++ [']']) = some ('/' :: style, []) :=
    tag?_eq_some_iff.mpr ⟨rfl, rfl, List.forall_mem_cons.mpr ⟨rfl, hin⟩⟩
  rw [markupPieces_of_bare_tag hopen, hstyle.opens, markupPieces_append_of_not_mem h hlast,
    List.append_nil, markupPieces_of_bare_tag hclose, hstyle.closes, markupPieces_nil]
  rfl

theorem ofPieces_closes (hstyle : IsStyleName style) (start stop : Nat) :
    Marked.ofPieces stop [⟨start, ⟨style, none⟩⟩] [.closes style] =
      .ok ⟨[], [⟨start, stop, some style⟩]⟩ := by
  have hne : strip style ≠ [] := by
    rw [hstyle.stripped]
    intro hnil
    have := hstyle.begins
    rw [hnil] at this
    cases this
  have hclose : closeTag style [⟨start, ⟨style, none⟩⟩] = .ok (⟨start, ⟨style, none⟩⟩, []) := by
    rw [closeTag, if_neg hne, hstyle.stripped, hstyle.normal]
    simp
  have hhandler : Tag.isHandler ⟨style, none⟩ = false := by
    simpa [Tag.isHandler] using hstyle.not_handler
  rw [Marked.ofPieces, hclose]
  simp [bind, Except.bind, pure, Except.pure, Tag.check, Marked.ofPieces, OpenTag.close, hhandler,
    Tag.toText]

/-- A text without brackets is well marked up in a style. -/
theorem ofText_styled (hstyle : IsStyleName style) (h : '[' ∉ t)
    (hlast : t.getLast? ≠ some '\\') :
    ∃ m, Marked.ofText (styled style t) = .ok m ∧ ∀ s ∈ m.stretches, s.style = some style := by
  have hpieces : ∃ shown stop, Marked.ofPieces 0 [] (markupPieces [] (styled style t)) =
      .ok ⟨shown, [⟨0, stop, some style⟩]⟩ := by
    rw [markupPieces_styled hstyle h hlast, Marked.ofPieces, hstyle.normal, plainPiece]
    simp only
    split
    · exact ⟨_, _, ofPieces_closes hstyle 0 0⟩
    · let shown := unescapeBrackets t.reverse.reverse
      refine ⟨shown ++ [], 0 + shown.length, ?_⟩
      rw [List.singleton_append, Marked.ofPieces]
      simp only [ofPieces_closes hstyle]
      rfl
  obtain ⟨shown, stop, hpieces⟩ := hpieces
  refine ⟨⟨shown, [⟨0, stop, some style⟩]⟩, ?_, ?_⟩
  · rw [Marked.ofText, hpieces]
    simp [bind, Except.bind, pure, Except.pure]
  · intro s hs
    obtain rfl := List.mem_singleton.mp hs
    rfl

end NoBracket

end Gloss.Terminal
